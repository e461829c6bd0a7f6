import TenantGrid.Time.Date
/-!
# Timestamps

A date and a time of day without a time zone. A leap second is the last second of a minute with
its nanoseconds counted on past one thousand million, and is written as second 60.
-/
namespace TenantGrid

/-- Whether a second of the day and its nanoseconds name a time of day. -/
def IsTime (second nanos : Nat) : Prop :=
  second < 86400 ∧ nanos < 2000000000 ∧ (1000000000 ≤ nanos → second % 60 = 59)

instance (second nanos : Nat) : Decidable (IsTime second nanos) := by
  unfold IsTime; infer_instance

structure Timestamp where
  date : Date
  /-- Seconds since midnight. -/
  second : Nat
  nanos : Nat
  isTime : IsTime second nanos
  deriving DecidableEq

namespace Timestamp

def ofParts? (date : Date) (second nanos : Nat) : Option Timestamp :=
  if h : IsTime second nanos then some ⟨date, second, nanos, h⟩ else none

def midnight (date : Date) : Timestamp :=
  ⟨date, 0, 0, by decide⟩

/-- The moment `seconds` later, for a shift of less than a day. -/
def shift? (t : Timestamp) (seconds : Int) : Option Timestamp :=
  let moved := (t.second : Int) + seconds
  if moved < 0 then t.date.previous?.bind fun d => ofParts? d (moved + 86400).toNat t.nanos
  else if 86400 ≤ moved then t.date.next?.bind fun d => ofParts? d (moved - 86400).toNat t.nanos
  else ofParts? t.date moved.toNat t.nanos

/-- Seconds within the minute as written, 60 for a leap second. -/
def clockSecond (t : Timestamp) : Nat :=
  t.second % 60 + t.nanos / 1000000000

def clockText (t : Timestamp) : String :=
  Text.padded 2 (t.second / 3600) ++ ":" ++ Text.padded 2 (t.second / 60 % 60) ++ ":"
    ++ Text.padded 2 t.clockSecond

/-- Date and time to the second, between them one blank: the form stored as text. -/
def storedText (t : Timestamp) : String :=
  t.date.text ++ " " ++ t.clockText

/-- No fraction, or the fewest of three, six or nine digits that are exact. -/
def fractionText (nanos : Nat) : String :=
  if nanos = 0 then ""
  else if nanos % 1000000 = 0 then "." ++ Text.padded 3 (nanos / 1000000)
  else if nanos % 1000 = 0 then "." ++ Text.padded 6 (nanos / 1000)
  else "." ++ Text.padded 9 nanos

/-- Date and time with its fraction, joined by `T`. -/
def text (t : Timestamp) : String :=
  t.date.text ++ "T" ++ t.clockText ++ fractionText (t.nanos % 1000000000)

end Timestamp

end TenantGrid
