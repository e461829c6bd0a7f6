/-!
# Characters and runs of characters

Digits of ASCII and numbers written with a least number of digits; blanks, which are the characters
with the Unicode property White_Space, and text without them at its ends; classes of characters given
by ascending ranges of code points; and text between two quote characters, where a quote inside it is
written twice.
-/
namespace TenantGrid.Text

def isDigit (c : Char) : Bool :=
  '0' ≤ c && c ≤ '9'

def digitValue (c : Char) : Nat :=
  c.toNat - '0'.toNat

/-- The number that a run of decimal digits stands for. -/
def decimalValue (digits : List Char) : Nat :=
  digits.foldl (fun value c => 10 * value + digitValue c) 0

/-- The value of a hexadecimal digit in either case. -/
def hexValue? (c : Char) : Option (Fin 16) :=
  if h : isDigit c ∧ digitValue c < 16 then some ⟨digitValue c, h.2⟩
  else if h : 'a' ≤ c ∧ c ≤ 'f' ∧ c.toNat - 87 < 16 then some ⟨c.toNat - 87, h.2.2⟩
  else if h : 'A' ≤ c ∧ c ≤ 'F' ∧ c.toNat - 55 < 16 then some ⟨c.toNat - 55, h.2.2⟩
  else none

def hexChar (digit : Fin 16) : Char :=
  if digit < 10 then Char.ofNat (digit.val + 48) else Char.ofNat (digit.val + 87)

/-- The number that a run of hexadecimal digits stands for, or nothing at another character. -/
def hexadecimalValue? (digits : List Char) : Option Nat :=
  digits.foldlM (fun value c => (hexValue? c).map fun d => 16 * value + d.val) 0

/-- The number in decimal, with zeros in front up to `width` digits. -/
def padded (width n : Nat) : String :=
  let digits := (Nat.repr n).toList
  String.ofList (List.replicate (width - digits.length) '0' ++ digits)

/-- Letters of ASCII in lower case, other characters unchanged. -/
def asciiLower (text : String) : String :=
  text.map Char.toLower

def isBlank (c : Char) : Bool :=
  let n := c.toNat
  (0x9 ≤ n && n ≤ 0xD) || n == 0x20 || n == 0x85 || n == 0xA0 || n == 0x1680
    || (0x2000 ≤ n && n ≤ 0x200A) || n == 0x2028 || n == 0x2029 || n == 0x202F
    || n == 0x205F || n == 0x3000

def trimStart (text : List Char) : List Char :=
  text.dropWhile isBlank

/-- The text without the blanks before its first and after its last other character. -/
def trim (text : List Char) : List Char :=
  (trimStart (trimStart text).reverse).reverse

/-- Whether a code point lies in one of the ranges, both ends of a range included. -/
def inRanges (ranges : Array (Nat × Nat)) (n : Nat) : Bool :=
  ranges.any fun range => range.1 ≤ n && n ≤ range.2

/-- Every quote character written twice, all other characters once. -/
def doubled (quote : Char) : List Char → List Char
  | [] => []
  | c :: rest => if c = quote then c :: c :: doubled quote rest else c :: doubled quote rest

def quoted (quote : Char) (text : String) : String :=
  String.ofList (quote :: doubled quote text.toList ++ [quote])

end TenantGrid.Text
