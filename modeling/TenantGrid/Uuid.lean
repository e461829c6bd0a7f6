import TenantGrid.Text.Basic
/-!
# Universally unique identifiers

An identifier is 32 hexadecimal digits. It is written in lower case with hyphens after the digits
8, 12, 16 and 20, and read in either case, also without hyphens, in braces or as a URN.
-/
namespace TenantGrid

structure Uuid where
  digits : List (Fin 16)
  length_digits : digits.length = 32
  deriving DecidableEq

namespace Uuid

instance : Repr Uuid := ⟨fun id _ => repr (id.digits.map Text.hexChar)⟩

def ofDigits? (digits : List (Fin 16)) : Option Uuid :=
  if h : digits.length = 32 then some ⟨digits, h⟩ else none

/-- The digits in groups of 8, 4, 4, 4 and 12 with a hyphen between two groups. -/
def hyphenated {α : Type} (hyphen : α) (digits : List α) : List α :=
  digits.take 8 ++ hyphen :: (digits.drop 8).take 4 ++ hyphen :: (digits.drop 12).take 4
    ++ hyphen :: (digits.drop 16).take 4 ++ hyphen :: digits.drop 20

def text (id : Uuid) : String :=
  String.ofList (hyphenated '-' (id.digits.map Text.hexChar))

/-- The identifier that bare digits stand for. -/
def readDigits? (text : List Char) : Option Uuid :=
  text.mapM Text.hexValue? >>= ofDigits?

/-- The text without the hyphens between its groups, or nothing if one is missing. -/
def unhyphenated? (text : List Char) : Option (List Char) :=
  let rest := text.drop 8
  let digits := text.take 8 ++ (rest.drop 1).take 4 ++ (rest.drop 6).take 4
    ++ (rest.drop 11).take 4 ++ rest.drop 16
  if text = hyphenated '-' digits then some digits else none

/-- The identifier that digits in groups stand for. -/
def readHyphenated? (text : List Char) : Option Uuid :=
  unhyphenated? text >>= readDigits?

/-- The words before an identifier written as a URN, in either case. -/
def urnMark : String := "urn:uuid:"

def ofText? (text : String) : Option Uuid :=
  let chars := text.toList
  match chars.length with
  | 32 => readDigits? chars
  | 36 => readHyphenated? chars
  | 38 =>
    if chars.head? = some '\x7b' ∧ chars.getLast? = some '\x7d' then
      readHyphenated? ((chars.drop 1).take 36)
    else none
  | 45 =>
    if Text.asciiLower (String.ofList (chars.take 9)) = urnMark then
      readHyphenated? (chars.drop 9)
    else none
  | _ => none

end Uuid

end TenantGrid
