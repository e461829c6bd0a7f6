import TenantGrid.Json.Basic
/-!
# Printed JSON

JSON text without blanks, or laid out on lines that are indented by two blanks a level. Only quotes,
backslashes and control characters are escaped. NaN and the infinities are written as null.
-/
namespace TenantGrid

/-- Doubles in JSON: as in SQL text, but a positive exponent has its sign. -/
def jsonNumberStyle : NumberStyle where
  tie := .toEven
  isPlain point := -5 < point && point ≤ 16
  wholeMark := ".0"
  exponentMark := "+"
  nan := "null"
  infinity := "null"

namespace JsonNumber

def text : JsonNumber → String
  | whole n => n.repr
  | real x => if x.isFinite then jsonNumberStyle.text x else "null"

end JsonNumber

namespace Json

private def controlEscape (c : Char) : List Char :=
  ['\\', 'u', '0', '0'] ++ Nat.toDigits 16 (c.toNat / 16) ++ Nat.toDigits 16 (c.toNat % 16)

def escapedChar (c : Char) : List Char :=
  if c = '"' then ['\\', '"']
  else if c = '\\' then ['\\', '\\']
  else if c = '\x08' then ['\\', 'b']
  else if c = '\x0c' then ['\\', 'f']
  else if c = '\n' then ['\\', 'n']
  else if c = '\r' then ['\\', 'r']
  else if c = '\t' then ['\\', 't']
  else if c.toNat < 32 then controlEscape c
  else [c]

def quotedChars (s : String) : List Char :=
  '"' :: s.toList.flatMap escapedChar ++ ['"']

mutual

/-- The value without blanks. -/
def chars : Json → List Char
  | null => "null".toList
  | bool b => (if b then "true" else "false").toList
  | number n => n.text.toList
  | string s => quotedChars s
  | array items => '[' :: List.intercalate [','] (itemChars items) ++ [']']
  | object members => '\x7b' :: List.intercalate [','] (memberChars members) ++ ['\x7d']

def itemChars : List Json → List (List Char)
  | [] => []
  | item :: rest => item.chars :: itemChars rest

def memberChars : List (String × Json) → List (List Char)
  | [] => []
  | (name, value) :: rest => (quotedChars name ++ ':' :: value.chars) :: memberChars rest

end

def text (j : Json) : String :=
  String.ofList j.chars

private def lineStart (depth : Nat) : List Char :=
  '\n' :: List.replicate (2 * depth) ' '

/-- Parts on lines of their own between two brackets; none at all between brackets that touch. -/
private def laidOut (opening closing : Char) (depth : Nat) (parts : List (List Char)) : List Char :=
  if parts.isEmpty then [opening, closing]
  else opening :: List.intercalate [','] (parts.map (lineStart (depth + 1) ++ ·))
    ++ lineStart depth ++ [closing]

mutual

def prettyChars (depth : Nat) : Json → List Char
  | array items => laidOut '[' ']' depth (prettyItems (depth + 1) items)
  | object members => laidOut '\x7b' '\x7d' depth (prettyMembers (depth + 1) members)
  | null => chars null
  | bool b => chars (bool b)
  | number n => chars (number n)
  | string s => chars (string s)

def prettyItems (depth : Nat) : List Json → List (List Char)
  | [] => []
  | item :: rest => prettyChars depth item :: prettyItems depth rest

def prettyMembers (depth : Nat) : List (String × Json) → List (List Char)
  | [] => []
  | (name, value) :: rest =>
    (quotedChars name ++ ':' :: ' ' :: prettyChars depth value) :: prettyMembers depth rest

end

/-- The value on indented lines. -/
def prettyText (j : Json) : String :=
  String.ofList (prettyChars 0 j)

end Json

end TenantGrid
