import Mathlib.Tactic.SplitIfs
import TenantGrid.Proofs.Text.Bytes
import TenantGrid.Text.Utf8
/-!
# Bytes that need no repair

The bytes of a text are read as the text. Each character is read from its own bytes, whatever follows.
-/
namespace TenantGrid.Text

private theorem decodeFrom_ascii {b : Nat} (h : b < 0x80) (rest : List Nat) :
    decodeFrom none (b :: rest) = Char.ofNat b :: decodeFrom none rest := by
  simp [decodeFrom, h]

private theorem decodeFrom_lead {b count low high : Nat} (hlead : 0x80 ≤ b)
    (h : continuation? b = some (count, low, high)) (rest : List Nat) :
    decodeFrom none (b :: rest) = decodeFrom (some ⟨count, low, high, leadBits count b⟩) rest := by
  have hnot : ¬ b < 0x80 := Nat.not_lt.mpr hlead
  simp [decodeFrom, hnot, h]

private theorem decodeFrom_next {b low high : Nat} (h : low ≤ b ∧ b ≤ high) (more bits : Nat)
    (rest : List Nat) :
    decodeFrom (some ⟨more + 2, low, high, bits⟩) (b :: rest) =
      decodeFrom (some ⟨more + 1, 0x80, 0xBF, 64 * bits + b % 64⟩) rest := by
  simp [decodeFrom, h]

private theorem decodeFrom_last {b low high : Nat} (h : low ≤ b ∧ b ≤ high) (bits : Nat)
    (rest : List Nat) :
    decodeFrom (some ⟨1, low, high, bits⟩) (b :: rest) =
      Char.ofNat (64 * bits + b % 64) :: decodeFrom none rest := by
  simp [decodeFrom, h]

/-- A byte after the first one, with the last six bits of a number. -/
def tail (n : Nat) : Nat :=
  n % 64 + 0x80

private theorem tail_bounds (n : Nat) : 0x80 ≤ tail n ∧ tail n ≤ 0xBF := by
  unfold tail
  omega

private theorem tail_mod (n : Nat) : tail n % 64 = n % 64 := by
  unfold tail
  omega

private theorem toNat_char (c : Char) : c.toNat < 0xD800 ∨ 0xDFFF < c.toNat ∧ c.toNat < 0x110000 :=
  c.valid

private theorem bytes_char (c : Char) : (String.utf8EncodeChar c).map UInt8.toNat =
    if c.toNat ≤ 0x7F then [c.toNat]
    else if c.toNat ≤ 0x7FF then [c.toNat / 64 + 0xC0, tail c.toNat]
    else if c.toNat ≤ 0xFFFF then [c.toNat / 4096 + 0xE0, tail (c.toNat / 64), tail c.toNat]
    else [c.toNat / 262144 + 0xF0, tail (c.toNat / 4096), tail (c.toNat / 64), tail c.toNat] := by
  have hencoded : String.utf8EncodeChar c =
      if c.toNat ≤ 0x7F then [.ofNat c.toNat]
      else if c.toNat ≤ 0x7FF then [.ofNat (c.toNat / 64 % 32 + 0xC0), .ofNat (tail c.toNat)]
      else if c.toNat ≤ 0xFFFF then
        [.ofNat (c.toNat / 4096 % 16 + 0xE0), .ofNat (tail (c.toNat / 64)), .ofNat (tail c.toNat)]
      else [.ofNat (c.toNat / 262144 % 8 + 0xF0), .ofNat (tail (c.toNat / 4096)),
        .ofNat (tail (c.toNat / 64)), .ofNat (tail c.toNat)] := rfl
  have hbyte {n : Nat} (h : n < 256) : (UInt8.ofNat n).toNat = n := Nat.mod_eq_of_lt h
  have htail (n : Nat) : (UInt8.ofNat (tail n)).toNat = tail n :=
    hbyte (Nat.lt_of_le_of_lt (tail_bounds n).2 (by decide))
  have hscalar := toNat_char c
  rw [hencoded]
  split_ifs with hone htwo hthree <;> simp only [List.map_cons, List.map_nil, htail]
  · rw [hbyte (by omega)]
  · rw [Nat.mod_eq_of_lt (by omega), hbyte (by omega)]
  · rw [Nat.mod_eq_of_lt (by omega), hbyte (by omega)]
  · rw [Nat.mod_eq_of_lt (by omega), hbyte (by omega)]

private theorem exists_continuation_two {n : Nat} (h : 0x7FF < n ∧ n ≤ 0xFFFF)
    (hscalar : n < 0xD800 ∨ 0xDFFF < n) :
    ∃ low high, continuation? (n / 4096 + 0xE0) = some (2, low, high) ∧
      low ≤ tail (n / 64) ∧ tail (n / 64) ≤ high := by
  unfold continuation? tail
  split_ifs <;> first | omega | exact ⟨_, _, rfl, by omega, by omega⟩

private theorem exists_continuation_three {n : Nat} (h : 0xFFFF < n ∧ n < 0x110000) :
    ∃ low high, continuation? (n / 262144 + 0xF0) = some (3, low, high) ∧
      low ≤ tail (n / 4096) ∧ tail (n / 4096) ≤ high := by
  unfold continuation? tail
  split_ifs <;> first | omega | exact ⟨_, _, rfl, by omega, by omega⟩

private theorem leadBits_eq (b : Nat) :
    leadBits 1 b = b % 32 ∧ leadBits 2 b = b % 16 ∧ leadBits 3 b = b % 8 :=
  ⟨rfl, rfl, rfl⟩

private theorem decodeFrom_char (c : Char) (rest : List Nat) :
    decodeFrom none ((String.utf8EncodeChar c).map UInt8.toNat ++ rest) = c :: decodeFrom none rest := by
  have hscalar := toNat_char c
  -- The bits of all bytes together are the number of the character.
  have hchar {n : Nat} (h : n = c.toNat) :
      Char.ofNat n :: decodeFrom none rest = c :: decodeFrom none rest := by
    rw [h, Char.ofNat_toNat]
  rw [bytes_char]
  split_ifs with hone htwo hthree
  · rw [List.singleton_append, decodeFrom_ascii (by omega), Char.ofNat_toNat]
  · have hlead : continuation? (c.toNat / 64 + 0xC0) = some (1, 0x80, 0xBF) := if_pos (by omega)
    rw [List.cons_append, List.singleton_append, decodeFrom_lead (by omega) hlead,
      decodeFrom_last (tail_bounds _), tail_mod, (leadBits_eq _).1]
    exact hchar (by omega)
  · obtain ⟨low, high, hlead, hnext⟩ := exists_continuation_two (n := c.toNat) (by omega) (by omega)
    simp only [List.cons_append, List.nil_append]
    rw [decodeFrom_lead (by omega) hlead, decodeFrom_next hnext, decodeFrom_last (tail_bounds _),
      tail_mod, tail_mod, (leadBits_eq _).2.1]
    exact hchar (by omega)
  · obtain ⟨low, high, hlead, hnext⟩ := exists_continuation_three (n := c.toNat) (by omega)
    simp only [List.cons_append, List.nil_append]
    rw [decodeFrom_lead (by omega) hlead, decodeFrom_next hnext, decodeFrom_next (tail_bounds _),
      decodeFrom_last (tail_bounds _), tail_mod, tail_mod, tail_mod, (leadBits_eq _).2.2]
    exact hchar (by omega)

/-- The bytes of a text need no repair. -/
theorem repaired_bytes (s : String) : repaired (bytes s) = s := by
  have hchars (l : List Char) :
      decodeFrom none ((l.flatMap String.utf8EncodeChar).map UInt8.toNat) = l := by
    induction l with
    | nil => rfl
    | cons c l ih => rw [List.flatMap_cons, List.map_append, decodeFrom_char, ih]
  rw [← String.ofList_toList (s := s), bytes_ofList, repaired, hchars]

end TenantGrid.Text
