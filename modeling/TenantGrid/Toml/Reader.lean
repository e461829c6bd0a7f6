import TenantGrid.Toml.Scalar
import TenantGrid.Toml.Text
/-!
# Reading TOML

A document is read line by line: a header opens a table, to which the pairs on the lines below it
belong. Arrays and inline tables may span lines and end in a comma, and are held in one another up
to a number of levels.
-/
namespace TenantGrid.Toml

/-- How many arrays and inline tables may stand in one another. -/
def nestingLimit : Nat := 80

private def endsScalar (c : Char) : Bool :=
  isBlank c || c == '\n' || c == '\r' || c == ',' || c == ']' || c == '\x7d' || c == '#'

/-- The characters of a value without quotes; a date may have a blank before its time. -/
private def splitScalar (text : List Char) : List Char × List Char :=
  let run := text.takeWhile fun c => !endsScalar c
  let rest := text.drop run.length
  match rest with
  | ' ' :: c :: _ =>
    if Text.isDigit c ∧ run.length = 10 ∧ isMoment run then
      let clock := rest.drop 1 |>.takeWhile fun c => !endsScalar c
      (run ++ ' ' :: clock, rest.drop (1 + clock.length))
    else (run, rest)
  | _ => (run, rest)

private def stringOf (piece : Piece) : Option (Toml × List Char) :=
  piece.map fun (text, rest) => (.string (String.ofList text), rest)

mutual

/-- A value at the front of a text, with room for so many levels. The fuel bounds how many values
and pairs it may hold. -/
def readValue? : Nat → Nat → List Char → Option (Toml × List Char)
  | 0, _, _ => none
  | _ + 1, _, '"' :: '"' :: '"' :: rest => stringOf (readLongBasic? false (dropLineEnd rest))
  | _ + 1, _, '"' :: rest => stringOf (readBasic? rest)
  | _ + 1, _, '\'' :: '\'' :: '\'' :: rest => stringOf (readLongLiteral? (dropLineEnd rest))
  | _ + 1, _, '\'' :: rest => stringOf (readLiteral? rest)
  | _ + 1, 0, '[' :: _ => none
  | fuel + 1, room + 1, '[' :: rest =>
    (readItems? fuel room rest).map fun (items, rest) => (.array items, rest)
  | _ + 1, 0, '\x7b' :: _ => none
  | fuel + 1, room + 1, '\x7b' :: rest =>
    (readPairs? fuel room [] rest).map fun (entries, rest) => (.table .inline entries, rest)
  | _ + 1, _, text =>
    let (run, rest) := splitScalar text
    (readScalar? run).map fun value => (value, rest)

/-- Items with commas between them, up to the closing bracket. -/
def readItems? : Nat → Nat → List Char → Option (List Toml × List Char)
  | 0, _, _ => none
  | fuel + 1, room, text => do
    match ← skipLines? false text with
    | ']' :: rest => some ([], rest)
    | text => do
      let (item, rest) ← readValue? fuel room text
      match ← skipLines? false rest with
      | ']' :: rest => some ([item], rest)
      | ',' :: rest => (readItems? fuel room rest).map fun (items, rest) => (item :: items, rest)
      | _ => none

/-- The entries with those of the pairs up to the closing brace. -/
def readPairs? : Nat → Nat → TomlEntries → List Char → Option (TomlEntries × List Char)
  | 0, _, _, _ => none
  | fuel + 1, room, entries, text => do
    match ← skipLines? false text with
    | '\x7d' :: rest => some (entries, rest)
    | text => do
      let ((path, name), rest) ← readKey? text
      match rest with
      | '=' :: rest => do
        let (value, rest) ← readValue? fuel room (skipBlanks rest)
        let entries ← entries.assign? path name value
        match ← skipLines? false rest with
        | '\x7d' :: rest => some (entries, rest)
        | ',' :: rest => readPairs? fuel room entries rest
        | _ => none
      | _ => none

end

/-- A line of a document. -/
inductive Line where
  /-- The header of a table, or of one more of several tables. -/
  | header (repeated : Bool) (path : List String) (name : String)
  | pair (path : List String) (name : String) (value : Toml)

private def readHeader? (repeated : Bool) (text : List Char) : Option (Line × List Char) := do
  let ((path, name), rest) ← readKey? text
  match repeated, rest with
  | true, ']' :: ']' :: rest | false, ']' :: rest => some (.header repeated path name, rest)
  | _, _ => none

private def readPair? (text : List Char) : Option (Line × List Char) := do
  let ((path, name), rest) ← readKey? text
  match rest with
  | '=' :: rest =>
    (readValue? (2 * rest.length + 2) nestingLimit (skipBlanks rest)).map fun (value, rest) =>
      (.pair path name value, rest)
  | _ => none

private def readLine? : List Char → Option (Line × List Char)
  | '[' :: '[' :: rest => readHeader? true rest
  | '[' :: rest => readHeader? false rest
  | text => readPair? text

/-- The lines of a text; every line takes a character of the fuel. -/
private def readLines? : Nat → List Char → Option (List Line)
  | 0, text => if text.isEmpty then some [] else none
  | fuel + 1, text => do
    match ← skipLines? false text with
    | [] => some []
    | text => do
      let (line, rest) ← readLine? text
      let rest ← endLine? false rest
      let lines ← readLines? fuel rest
      some (line :: lines)

/-- A document so far, and the table that the next pairs belong to. -/
structure Document where
  entries : TomlEntries := []
  path : List String := []

/-- The document with one more line. -/
def Document.add? (document : Document) : Line → Option Document
  | .header repeated path name => do
    let entries ←
      if repeated then document.entries.addTable? path name
      else document.entries.openTable? path name
    some { entries, path := path ++ [name] }
  | .pair path name value => do
    let entries ← document.entries.change? false (fun _ entries => entries.assign? path name value)
      document.path .headed
    some { document with entries }

private def skipByteOrderMark : List Char → List Char
  | '\uFEFF' :: rest => rest
  | text => text

/-- The named values of a text. -/
def ofText? (text : String) : Option TomlEntries := do
  let chars := skipByteOrderMark text.toList
  let lines ← readLines? chars.length chars
  let document ← lines.foldlM Document.add? {}
  some document.entries

end TenantGrid.Toml
