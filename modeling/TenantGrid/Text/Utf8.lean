import TenantGrid.Text.Basic
/-!
# UTF-8 repair

Bytes read as UTF-8, with one replacement character for every longest run of bytes that begins a
well-formed sequence without completing it, and one for every byte that begins none.
-/
namespace TenantGrid.Text

def replacement : Char := '\uFFFD'

/-- For a lead byte: how many bytes follow, and the range of the first of them. -/
def continuation? (lead : Nat) : Option (Nat × Nat × Nat) :=
  if 0xC2 ≤ lead ∧ lead ≤ 0xDF then some (1, 0x80, 0xBF)
  else if lead = 0xE0 then some (2, 0xA0, 0xBF)
  else if lead = 0xED then some (2, 0x80, 0x9F)
  else if 0xE1 ≤ lead ∧ lead ≤ 0xEF then some (2, 0x80, 0xBF)
  else if lead = 0xF0 then some (3, 0x90, 0xBF)
  else if 0xF1 ≤ lead ∧ lead ≤ 0xF3 then some (3, 0x80, 0xBF)
  else if lead = 0xF4 then some (3, 0x80, 0x8F)
  else none

/-- The bits of a lead byte that belong to the character. -/
def leadBits (following lead : Nat) : Nat :=
  lead % (1 <<< (6 - following))

/-- What a sequence still asks for: how many bytes, the range of the next one, the bits so far. -/
structure Pending where
  count : Nat
  low : Nat
  high : Nat
  bits : Nat

/-- The characters of the bytes, given a sequence that has begun. -/
def decodeFrom : Option Pending → List Nat → List Char
  | none, [] => []
  | some _, [] => [replacement]
  | pending, b :: rest =>
    let start : List Char → List Char := fun before =>
      if b < 0x80 then before ++ Char.ofNat b :: decodeFrom none rest
      else match continuation? b with
        | some (count, low, high) =>
          before ++ decodeFrom (some ⟨count, low, high, leadBits count b⟩) rest
        | none => before ++ replacement :: decodeFrom none rest
    match pending with
    | none => start []
    | some p =>
      if p.low ≤ b ∧ b ≤ p.high then
        let bits := 64 * p.bits + b % 64
        if p.count = 1 then Char.ofNat bits :: decodeFrom none rest
        else decodeFrom (some ⟨p.count - 1, 0x80, 0xBF, bits⟩) rest
      else start [replacement]

/-- The text of the bytes, each ill-formed part replaced. -/
def repaired (bytes : List Nat) : String :=
  String.ofList (decodeFrom none bytes)

end TenantGrid.Text
