import TenantGrid.Text.Basic
/-!
# JSON text

JSON as it is written: numbers by their digits, strings by their units and objects by all of their
members. Reading a text this far checks its grammar only; the value that it stands for, if any, is
the business of whoever takes it.
-/
namespace TenantGrid.Json

/-- A part of a string: a character, or a code unit given by a hexadecimal escape. -/
inductive StringUnit where
  | char (c : Char)
  | code (n : Nat)
  deriving DecidableEq, Repr

/-- A number by its digits: whole part, fraction, and the exponent with its sign. -/
structure Numeral where
  negative : Bool
  whole : List Char
  fraction : Option (List Char)
  exponent : Option (Bool × List Char)
  deriving DecidableEq, Repr

inductive Written where
  | null
  | bool (b : Bool)
  | number (n : Numeral)
  | string (units : List StringUnit)
  | array (items : List Written)
  | object (members : List (List StringUnit × Written))

namespace Written

def isBlank (c : Char) : Bool :=
  c == ' ' || c == '\n' || c == '\t' || c == '\r'

def skipBlanks (text : List Char) : List Char :=
  text.dropWhile isBlank

private def escapedUnit? (c : Char) : Option Char :=
  match c with
  | '"' => some '"'
  | '\\' => some '\\'
  | '/' => some '/'
  | 'b' => some '\x08'
  | 'f' => some '\x0c'
  | 'n' => some '\n'
  | 'r' => some '\r'
  | 't' => some '\t'
  | _ => none

/-- The units of a string up to its closing quote, and what follows the quote. -/
def readUnits? : List Char → Option (List StringUnit × List Char)
  | [] => none
  | '"' :: rest => some ([], rest)
  | '\\' :: 'u' :: a :: b :: c :: d :: rest => do
    let n ← Text.hexadecimalValue? [a, b, c, d]
    let (units, rest) ← readUnits? rest
    some (.code n :: units, rest)
  | '\\' :: c :: rest => do
    let unit ← escapedUnit? c
    let (units, rest) ← readUnits? rest
    some (.char unit :: units, rest)
  | c :: rest =>
    if c.toNat < 32 ∨ c = '\\' then none
    else do
      let (units, rest) ← readUnits? rest
      some (.char c :: units, rest)

private def takeDigits? (text : List Char) : Option (List Char × List Char) :=
  let digits := text.takeWhile Text.isDigit
  if digits.isEmpty then none else some (digits, text.dropWhile Text.isDigit)

/-- The digits before the point: a single zero, or digits that do not begin with one. -/
private def readWhole? (text : List Char) : Option (List Char × List Char) := do
  let (digits, rest) ← takeDigits? text
  if digits.head? = some '0' ∧ digits.length ≠ 1 then none else some (digits, rest)

private def readFraction? : List Char → Option (Option (List Char) × List Char)
  | '.' :: rest => (takeDigits? rest).map fun (digits, rest) => (some digits, rest)
  | rest => some (none, rest)

private def readExponentDigits? (negative : Bool) (text : List Char) :
    Option (Option (Bool × List Char) × List Char) :=
  (takeDigits? text).map fun (digits, rest) => (some (negative, digits), rest)

private def readExponent? : List Char → Option (Option (Bool × List Char) × List Char)
  | 'e' :: '-' :: rest | 'E' :: '-' :: rest => readExponentDigits? true rest
  | 'e' :: '+' :: rest | 'E' :: '+' :: rest => readExponentDigits? false rest
  | 'e' :: rest | 'E' :: rest => readExponentDigits? false rest
  | rest => some (none, rest)

def readNumeral? (text : List Char) : Option (Numeral × List Char) := do
  let negative := text.head? = some '-'
  let (whole, rest) ← readWhole? (if negative then text.drop 1 else text)
  let (fraction, rest) ← readFraction? rest
  let (exponent, rest) ← readExponent? rest
  some (⟨negative, whole, fraction, exponent⟩, rest)

mutual

/-- A value at the front of a text; the fuel bounds how many values and members it may hold. -/
def readValue? : Nat → List Char → Option (Written × List Char)
  | 0, _ => none
  | fuel + 1, text =>
    match skipBlanks text with
    | 'n' :: 'u' :: 'l' :: 'l' :: rest => some (null, rest)
    | 't' :: 'r' :: 'u' :: 'e' :: rest => some (bool true, rest)
    | 'f' :: 'a' :: 'l' :: 's' :: 'e' :: rest => some (bool false, rest)
    | '"' :: rest => (readUnits? rest).map fun (units, rest) => (string units, rest)
    | '[' :: rest =>
      match skipBlanks rest with
      | ']' :: rest => some (array [], rest)
      | rest => (readItems? fuel rest).map fun (items, rest) => (array items, rest)
    | '\x7b' :: rest =>
      match skipBlanks rest with
      | '\x7d' :: rest => some (object [], rest)
      | rest => (readMembers? fuel rest).map fun (members, rest) => (object members, rest)
    | rest => (readNumeral? rest).map fun (n, rest) => (number n, rest)

/-- Items with commas between them, up to the closing bracket. -/
def readItems? : Nat → List Char → Option (List Written × List Char)
  | 0, _ => none
  | fuel + 1, text => do
    let (item, rest) ← readValue? fuel text
    match skipBlanks rest with
    | ']' :: rest => some ([item], rest)
    | ',' :: rest => (readItems? fuel rest).map fun (items, rest) => (item :: items, rest)
    | _ => none

/-- Members with commas between them, up to the closing brace. -/
def readMembers? : Nat → List Char → Option (List (List StringUnit × Written) × List Char)
  | 0, _ => none
  | fuel + 1, text =>
    match skipBlanks text with
    | '"' :: rest => do
      let (name, rest) ← readUnits? rest
      match skipBlanks rest with
      | ':' :: rest => do
        let (value, rest) ← readValue? fuel rest
        match skipBlanks rest with
        | '\x7d' :: rest => some ([(name, value)], rest)
        | ',' :: rest =>
          (readMembers? fuel rest).map fun (members, rest) => ((name, value) :: members, rest)
        | _ => none
      | _ => none
    | _ => none

end

/-- The one value that a text holds. Every value and member takes at least one character, and the
reader goes at most two levels deeper before it takes one. -/
def ofText? (text : String) : Option Written := do
  let chars := text.toList
  let (value, rest) ← readValue? (2 * chars.length + 2) chars
  if (skipBlanks rest).isEmpty then some value else none

end Written

end TenantGrid.Json
