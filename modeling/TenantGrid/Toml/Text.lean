import TenantGrid.Text.Basic
/-!
# Blanks, keys and strings of TOML

Lines end at a line feed, with or without a carriage return before it. Strings are basic, with
escapes, or literal, and each kind may also span lines between three quotes. A key is a path of
names, bare or quoted, with points between them.
-/
namespace TenantGrid.Toml

def isBlank (c : Char) : Bool :=
  c == ' ' || c == '\t'

/-- Not a control character, tabs aside. -/
def isPrintable (c : Char) : Bool :=
  c == '\t' || (0x20 ≤ c.toNat && c.toNat != 0x7F)

/-- The text after the rest of a line, which may hold blanks and a comment only. -/
def endLine? (inComment : Bool) : List Char → Option (List Char)
  | [] => some []
  | '\n' :: rest => some rest
  | '\r' :: '\n' :: rest => some rest
  | c :: rest =>
    if inComment then if isPrintable c then endLine? true rest else none
    else if isBlank c then endLine? false rest
    else if c = '#' then endLine? true rest
    else none

/-- The text after blanks, line ends and comments. -/
def skipLines? (inComment : Bool) : List Char → Option (List Char)
  | [] => some []
  | '\n' :: rest => skipLines? false rest
  | '\r' :: '\n' :: rest => skipLines? false rest
  | c :: rest =>
    if inComment then if isPrintable c then skipLines? true rest else none
    else if isBlank c then skipLines? false rest
    else if c = '#' then skipLines? true rest
    else some (c :: rest)

def skipBlanks (text : List Char) : List Char :=
  text.dropWhile isBlank

/-- The character that an escape with hexadecimal digits stands for. -/
private def numbered? (digits : List Char) : Option Char := do
  let n ← Text.hexadecimalValue? digits
  if n.isValidChar then some (Char.ofNat n) else none

private def escaped? (c : Char) : Option Char :=
  match c with
  | '"' => some '"'
  | '\\' => some '\\'
  | 'b' => some '\x08'
  | 'e' => some '\x1b'
  | 'f' => some '\x0c'
  | 'n' => some '\n'
  | 'r' => some '\r'
  | 't' => some '\t'
  | _ => none

/-- A piece of text that is read, and what follows it. -/
abbrev Piece := Option (List Char × List Char)

private def before (c : Option Char) (piece : Piece) : Piece := do
  let c ← c
  let (text, rest) ← piece
  some (c :: text, rest)

/-- The characters of a basic string up to its closing quote. -/
def readBasic? : List Char → Piece
  | '"' :: rest => some ([], rest)
  | '\\' :: 'x' :: a :: b :: rest => before (numbered? [a, b]) (readBasic? rest)
  | '\\' :: 'u' :: a :: b :: c :: d :: rest => before (numbered? [a, b, c, d]) (readBasic? rest)
  | '\\' :: 'U' :: a :: b :: c :: d :: e :: f :: g :: h :: rest =>
    before (numbered? [a, b, c, d, e, f, g, h]) (readBasic? rest)
  | '\\' :: c :: rest => before (escaped? c) (readBasic? rest)
  | c :: rest => if c ≠ '\\' ∧ isPrintable c then before (some c) (readBasic? rest) else none
  | [] => none

/-- The characters of a literal string up to its closing quote. -/
def readLiteral? : List Char → Piece
  | '\'' :: rest => some ([], rest)
  | c :: rest => if isPrintable c then before (some c) (readLiteral? rest) else none
  | [] => none

private def startsLine (text : List Char) : Bool :=
  match text with
  | '\n' :: _ => true
  | '\r' :: '\n' :: _ => true
  | _ => false

/-- The characters of a basic string up to three closing quotes, before which one or two more may
stand. A backslash at the end of a line drops all blanks and line ends up to the next character. -/
def readLongBasic? (dropping : Bool) : List Char → Piece
  | '"' :: '"' :: '"' :: '"' :: '"' :: rest => some (['"', '"'], rest)
  | '"' :: '"' :: '"' :: '"' :: rest => some (['"'], rest)
  | '"' :: '"' :: '"' :: rest => some ([], rest)
  | '\r' :: '\n' :: rest =>
    if dropping then readLongBasic? true rest else before (some '\n') (readLongBasic? false rest)
  | '\\' :: 'x' :: a :: b :: rest => before (numbered? [a, b]) (readLongBasic? false rest)
  | '\\' :: 'u' :: a :: b :: c :: d :: rest =>
    before (numbered? [a, b, c, d]) (readLongBasic? false rest)
  | '\\' :: 'U' :: a :: b :: c :: d :: e :: f :: g :: h :: rest =>
    before (numbered? [a, b, c, d, e, f, g, h]) (readLongBasic? false rest)
  | '\\' :: c :: rest =>
    if startsLine (skipBlanks (c :: rest)) then readLongBasic? true (c :: rest)
    else before (escaped? c) (readLongBasic? false rest)
  | c :: rest =>
    if dropping ∧ (isBlank c ∨ c = '\n') then readLongBasic? true rest
    else if c ≠ '\\' ∧ (isPrintable c ∨ c = '\n') then before (some c) (readLongBasic? false rest)
    else none
  | [] => none

/-- The characters of a literal string up to three closing quotes. -/
def readLongLiteral? : List Char → Piece
  | '\'' :: '\'' :: '\'' :: '\'' :: '\'' :: rest => some (['\'', '\''], rest)
  | '\'' :: '\'' :: '\'' :: '\'' :: rest => some (['\''], rest)
  | '\'' :: '\'' :: '\'' :: rest => some ([], rest)
  | '\r' :: '\n' :: rest => before (some '\n') (readLongLiteral? rest)
  | c :: rest => if isPrintable c ∨ c = '\n' then before (some c) (readLongLiteral? rest) else none
  | [] => none

/-- The text without a line end right at its start. -/
def dropLineEnd : List Char → List Char
  | '\n' :: rest => rest
  | '\r' :: '\n' :: rest => rest
  | text => text

def isBareKeyChar (c : Char) : Bool :=
  c.isAlphanum || c == '_' || c == '-'

private def readName? : List Char → Piece
  | '"' :: rest => readBasic? rest
  | '\'' :: rest => readLiteral? rest
  | text =>
    let name := text.takeWhile isBareKeyChar
    if name.isEmpty then none else some (name, text.dropWhile isBareKeyChar)

/-- The names of a key and the last of them, with fuel for so many names. -/
private def readNames? : Nat → List Char → Option ((List String × String) × List Char)
  | 0, _ => none
  | fuel + 1, text => do
    let (name, rest) ← readName? (skipBlanks text)
    match skipBlanks rest with
    | '.' :: rest => do
      let ((path, last), rest) ← readNames? fuel rest
      some ((String.ofList name :: path, last), rest)
    | rest => some (([], String.ofList name), rest)

/-- A key: the path to a table, the name within it, and the text after both and their blanks. -/
def readKey? (text : List Char) : Option ((List String × String) × List Char) :=
  readNames? (text.length + 1) text

end TenantGrid.Toml
