import Mathlib.Data.Multiset.Dedup
import Mathlib.Data.Multiset.Lattice
import Mathlib.Order.Compare
import Mathlib.Order.WithBot
import TenantGrid.Sql.Expr
/-!
# How values compare

The meaning of operators, aggregates and order keys on values: logic with three truth values, in
which NULL compares as unknown. What the standard leaves to the store, such as the order of texts,
is kept in one structure, over which every statement about queries is quantified.
-/
namespace TenantGrid.Sql

/-- True, false, or nothing for unknown. -/
abbrev Truth := Option Bool

namespace Truth

def not : Truth → Truth :=
  Option.map Bool.not

def and : Truth → Truth → Truth
  | some false, _ | _, some false => some false
  | some true, some true => some true
  | _, _ => none

def or : Truth → Truth → Truth
  | some true, _ | _, some true => some true
  | some false, some false => some false
  | _, _ => none

/-- The truth of a negated test. -/
def negatedIf (negated : Bool) (t : Truth) : Truth :=
  if negated then t.not else t

/-- Truth as a value, NULL for unknown. -/
def value : Truth → Value
  | some b => .bool b
  | none => .null

end Truth

/-- What a condition with this value amounts to. -/
def Value.truth : Value → Truth
  | .bool b => some b
  | _ => none

/-- The text of both values, one after the other. -/
def Value.concat (v w : Value) : Value :=
  match v.plainText?, w.plainText? with
  | some s, some t => .text (s ++ t)
  | _, _ => .null

/-- What a store settles for itself where the standard leaves it open. -/
structure Collation where
  /-- The number, whole or real, that stands for all numbers equal to a real one. -/
  number : Double → Int ⊕ Double
  order : LinearOrder Value
  int_le_iff : ∀ m n : Int, order.le (.int m) (.int n) ↔ m ≤ n
  false_le_true : order.le (.bool false) (.bool true)
  /-- The character that stands for all that match it when case is ignored. -/
  fold : Char → Char
  /-- Whether NULL comes first under an order key that does not say so. -/
  nullsFirst : Direction → Bool
  /-- The functions that are not aggregates. -/
  call : String → List Value → Value

/-- One part of a pattern: any run of characters, any one character, or a given one. -/
inductive PatternPart where
  | run
  | one
  | exact (c : Char)
  deriving DecidableEq, Repr

/-- The parts of a pattern. The character after the escape stands for itself, and a pattern does
not end in the escape. -/
def patternParts? (escape : Option Char) : List Char → Option (List PatternPart)
  | [] => some []
  | c :: rest =>
    if escape = some c then
      match rest with
      | [] => none
      | next :: rest => (patternParts? escape rest).map (.exact next :: ·)
    else
      (patternParts? escape rest).map fun parts =>
        (if c = '%' then .run else if c = '_' then .one else .exact c) :: parts

def matchesParts (fold : Char → Char) : List PatternPart → List Char → Bool
  | [], text => text.isEmpty
  | .run :: parts, text => text.tails.any (matchesParts fold parts)
  | .one :: _, [] => false
  | .one :: parts, _ :: text => matchesParts fold parts text
  | .exact _ :: _, [] => false
  | .exact c :: parts, d :: text => fold c == fold d && matchesParts fold parts text

/-- The functions that sum up the rows of a group. -/
inductive Aggregate where
  | count | min | max
  /-- Whether all values are true, and whether one is. -/
  | every | any
  deriving DecidableEq, Repr

def Aggregate.ofName? : String → Option Aggregate
  | "COUNT" => some count
  | "MIN" => some min
  | "MAX" => some max
  | "BOOL_AND" => some every
  | "BOOL_OR" => some any
  | _ => none

namespace Collation

variable (c : Collation)

/-- The form that equal values share. -/
def normal : Value → Value
  | .real x => match c.number x with
    | .inl n => .int n
    | .inr y => .real y
  | v => v

/-- A comparison of two values, unknown if one of them is NULL. -/
def compared (holds : Value → Value → Bool) (v w : Value) : Truth :=
  if v.isNull || w.isNull then none else some (holds (c.normal v) (c.normal w))

def equal (v w : Value) : Truth :=
  c.compared (fun x y => x = y) v w

def less (v w : Value) : Truth :=
  letI := c.order
  c.compared (fun x y => decide (x < y)) v w

def binary : BinaryOp → Value → Value → Value
  | .eq, v, w => (c.equal v w).value
  | .ne, v, w => (c.equal v w).not.value
  | .lt, v, w => (c.less v w).value
  | .gt, v, w => (c.less w v).value
  | .lte, v, w => (c.less w v).not.value
  | .gte, v, w => (c.less v w).not.value
  | .and, v, w => (v.truth.and w.truth).value
  | .or, v, w => (v.truth.or w.truth).value
  | .concat, v, w => v.concat w

/-- Whether a value is among others: true if it equals one, and else unknown if a comparison is. -/
def among (v : Value) (values : Multiset Value) : Truth :=
  let outcomes := values.map (c.equal v)
  if some true ∈ outcomes then some true
  else if none ∈ outcomes then none
  else some false

/-- Whether a text matches a pattern as a whole. -/
def like (escape : Option Char) (anyCase : Bool) : Value → Value → Truth
  | .text s, .text pattern => (patternParts? escape pattern.toList).map fun parts =>
      matchesParts (if anyCase then c.fold else id) parts s.toList
  | _, _ => none

/-- The least of the values, NULL if there is none. -/
def least (values : Multiset Value) : Value :=
  letI := c.order
  (values.map fun v => ((c.normal v : Value) : WithTop Value)).inf.untopD .null

/-- The greatest of the values, NULL if there is none. -/
def greatest (values : Multiset Value) : Value :=
  letI := c.order
  (values.map fun v => ((c.normal v : Value) : WithBot Value)).sup.unbotD .null

/-- The aggregate of the arguments of each row. Rows with a NULL among them are left out. -/
def aggregate (a : Aggregate) (distinct : Bool) (rows : Multiset (List Value)) : Value :=
  let given := rows.filter fun args => .null ∉ args
  let given := if distinct then given.dedup else given
  let firsts := given.map fun args => args.headD .null
  match a with
  | .count => .int given.card
  | .min => c.least firsts
  | .max => c.greatest firsts
  | .every => if given.card = 0 then .null else .bool (decide (∀ v ∈ firsts, v = .bool true))
  | .any => if given.card = 0 then .null else .bool (decide (.bool true ∈ firsts))

/-- Whether NULL comes before all values under an order key. -/
def putsNullsFirst {ε : Type} (key : OrderKey ε) : Bool :=
  match key.nulls with
  | some .first => true
  | some .last => false
  | none => c.nullsFirst (key.direction.getD .asc)

/-- How two values stand to each other in the order of the store. -/
def compareValues (v w : Value) : Ordering :=
  letI := c.order
  cmp (c.normal v) (c.normal w)

/-- How two values stand to each other under one order key. -/
def compareKey {ε : Type} (key : OrderKey ε) (v w : Value) : Ordering :=
  match v.isNull, w.isNull with
  | true, true => .eq
  | true, false => if c.putsNullsFirst key then .lt else .gt
  | false, true => if c.putsNullsFirst key then .gt else .lt
  | false, false => match key.direction.getD .asc with
    | .asc => c.compareValues v w
    | .desc => c.compareValues w v

/-- How two rows stand to each other by their values under all order keys, the first deciding. -/
def compareKeys {ε : Type} : List (OrderKey ε) → List Value → List Value → Ordering
  | [], _, _ => .eq
  | key :: keys, vs, ws =>
    (c.compareKey key (vs.headD .null) (ws.headD .null)).then (compareKeys keys vs.tail ws.tail)

/-- Whether two values are equal for sure, which NULL is to nothing. -/
def Same (v w : Value) : Prop :=
  v ≠ .null ∧ w ≠ .null ∧ c.normal v = c.normal w

instance (v w : Value) : Decidable (c.Same v w) := by
  unfold Same; infer_instance

end Collation

namespace Truth

@[simp] theorem value_eq_bool (t : Truth) (b : Bool) : t.value = .bool b ↔ t = some b := by
  cases t <;> simp [value]

theorem and_eq_true (t u : Truth) : t.and u = some true ↔ t = some true ∧ u = some true := by
  rcases t with _ | _ | _ <;> rcases u with _ | _ | _ <;> simp [and]

theorem or_eq_true (t u : Truth) : t.or u = some true ↔ t = some true ∨ u = some true := by
  rcases t with _ | _ | _ <;> rcases u with _ | _ | _ <;> simp [or]

@[simp] theorem not_eq_some (t : Truth) (b : Bool) : t.not = some b ↔ t = some !b := by
  rcases t with _ | _ | _ <;> cases b <;> simp [not]

end Truth

@[simp] theorem Value.truth_eq_some (v : Value) (b : Bool) : v.truth = some b ↔ v = .bool b := by
  cases v <;> simp [Value.truth]

@[simp] theorem Value.isNull_eq (v : Value) : v.isNull = decide (v = .null) := by
  cases v <;> simp [Value.isNull]

namespace Collation

variable (c : Collation)

private theorem normal_eq_bool (v : Value) (b : Bool) : c.normal v = .bool b ↔ v = .bool b := by
  cases v with
  | real x => cases hx : c.number x <;> simp [normal, hx]
  | _ => simp [normal]

private theorem normal_eq_text (v : Value) (s : String) : c.normal v = .text s ↔ v = .text s := by
  cases v with
  | real x => cases hx : c.number x <;> simp [normal, hx]
  | _ => simp [normal]

theorem equal_eq_true (v w : Value) : c.equal v w = some true ↔ c.Same v w := by
  by_cases hv : v = .null <;> by_cases hw : w = .null <;> simp [equal, compared, Same, hv, hw]

private theorem some_true_mem_equal (v : Value) (values : Multiset Value) :
    some true ∈ values.map (c.equal v) ↔ ∃ w ∈ values, c.Same v w := by
  simp only [Multiset.mem_map, equal_eq_true]

variable {c}

theorem Same.symm {v w : Value} (h : c.Same v w) : c.Same w v :=
  ⟨h.2.1, h.1, h.2.2.symm⟩

theorem Same.trans {u v w : Value} (h : c.Same u v) (h' : c.Same v w) : c.Same u w :=
  ⟨h.1, h'.2.1, h.2.2.trans h'.2.2⟩

theorem same_bool_iff (v : Value) (b : Bool) : c.Same v (.bool b) ↔ v = .bool b := by
  constructor
  · intro h
    exact (normal_eq_bool c v b).mp h.2.2
  · rintro rfl
    exact ⟨by simp, by simp, rfl⟩

theorem same_text_iff (v : Value) (s : String) : c.Same v (.text s) ↔ v = .text s := by
  constructor
  · intro h
    exact (normal_eq_text c v s).mp h.2.2
  · rintro rfl
    exact ⟨by simp, by simp, rfl⟩

theorem among_eq_true (v : Value) (values : Multiset Value) :
    c.among v values = some true ↔ ∃ w ∈ values, c.Same v w := by
  unfold among
  by_cases h : some true ∈ values.map (c.equal v)
  · simp [h, ← some_true_mem_equal]
  · simp only [h, if_false, ← some_true_mem_equal, iff_false]
    split <;> simp

/-- A value is not among others if it differs from each of them for sure. -/
theorem among_eq_some_false (v : Value) (values : Multiset Value) :
    c.among v values = some false ↔ ∀ w ∈ values, c.equal v w = some false := by
  have houtcomes : c.among v values = some false ↔
      some true ∉ values.map (c.equal v) ∧ none ∉ values.map (c.equal v) := by
    unfold among
    by_cases htrue : some true ∈ values.map (c.equal v) <;>
      by_cases hnone : none ∈ values.map (c.equal v) <;> simp only [htrue, hnone] <;> simp
  rw [houtcomes]
  constructor
  · rintro ⟨htrue, hnone⟩ w hw
    have hmem := Multiset.mem_map_of_mem (c.equal v) hw
    rcases hequal : c.equal v w with _ | _ | _
    · exact absurd (hequal ▸ hmem) hnone
    · rfl
    · exact absurd (hequal ▸ hmem) htrue
  · intro h
    constructor
    · intro hmem
      obtain ⟨w, hw, hequal⟩ := Multiset.mem_map.mp hmem
      simp [h w hw] at hequal
    · intro hmem
      obtain ⟨w, hw, hequal⟩ := Multiset.mem_map.mp hmem
      simp [h w hw] at hequal

private theorem equal_eq_false {v w : Value} (hv : v ≠ .null) (hw : w ≠ .null) :
    c.equal v w = some false ↔ ¬ c.Same v w := by
  simp [equal, compared, Same, hv, hw]

/-- No NULL is in the way of telling that a value is not among others. -/
theorem among_eq_false {v : Value} {values : Multiset Value} (hv : v ≠ .null)
    (hvalues : ∀ w ∈ values, w ≠ .null) :
    c.among v values = some false ↔ ∀ w ∈ values, ¬ c.Same v w := by
  rw [among_eq_some_false]
  exact forall₂_congr fun w hw => equal_eq_false hv (hvalues w hw)

end Collation

end TenantGrid.Sql
