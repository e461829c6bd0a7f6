import TenantGrid.Time.Layout
/-!
# Date texts

The texts that a filter takes for a moment: with an offset from UTC, as date and time joined by `T`
or a blank with fractions, seconds or minutes, or as a date alone, which means midnight. With an
offset the fields have a fixed width, as in the profile of RFC 3339, and the moment is converted to
UTC.
-/
namespace TenantGrid

namespace Time

/-- The text after a character that must stand at its front. -/
def take? (c : Char) : List Char → Option (List Char)
  | x :: rest => if x = c then some rest else none
  | [] => none

/-- An offset in seconds: `Z`, or a sign, hours up to 23, a colon and minutes. -/
def readOffset? : List Char → Option (Int × List Char)
  | 'Z' :: rest | 'z' :: rest => some (0, rest)
  | sign :: rest => do
    let negative ← if sign = '+' then some false
      else if sign = '-' ∨ sign = '\u2212' then some true
      else none
    let (hours, rest) ← readNumber? 2 2 rest
    let rest ← take? ':' rest
    let (minutes, rest) ← readNumber? 2 2 rest
    if 23 < hours ∨ 59 < minutes then none
    else
      let seconds : Int := 3600 * hours + 60 * minutes
      some (if negative then -seconds else seconds, rest)
  | [] => none

def takeDateEnd? : List Char → Option (List Char)
  | 'T' :: rest | 't' :: rest | ' ' :: rest => some rest
  | _ => none

/-- A date and time with an offset, converted to UTC. -/
def readOffsetTime? (text : List Char) : Option Timestamp := do
  let (year, text) ← readNumber? 4 4 text
  let text ← take? '-' text
  let (month, text) ← readNumber? 2 2 text
  let text ← take? '-' text
  let (day, text) ← readNumber? 2 2 text
  let text ← takeDateEnd? text
  let (hour, text) ← readNumber? 2 2 text
  let text ← take? ':' text
  let (minute, text) ← readNumber? 2 2 text
  let text ← take? ':' text
  let (second, text) ← readNumber? 2 2 text
  let (nanos, text) ← match text with
    | '.' :: rest => readNanos? rest
    | rest => some (0, rest)
  let (offset, text) ← readOffset? text
  if text.isEmpty then
    let wallClock ← Fields.timestamp? ⟨year, month, day, hour, minute, second, nanos⟩
    wallClock.shift? (-offset)
  else none

end Time

/-- Layouts without an offset, in the order they are tried. -/
def dateTextLayouts : List Time.Layout :=
  [.dateThen (.mark 'T') Time.clockToFraction,
    .dateThen (.mark 'T') Time.clockToSecond,
    .dateThen (.mark 'T') Time.clockToMinute,
    .dateThen .gap Time.clockToFraction,
    .dateThen .gap Time.clockToSecond,
    .dateThen .gap Time.clockToMinute,
    .date]

/-- The moment that a text stands for, blanks around it aside. -/
def readDate? (text : String) : Option Timestamp :=
  let chars := Text.trim text.toList
  match Time.readOffsetTime? chars with
  | some t => some t
  | none => dateTextLayouts.findSome? fun layout => layout.read? chars

end TenantGrid
