import Mathlib.Data.Option.Basic
import Mathlib.Logic.Basic
import TenantGrid.Proofs.Filter.Admission
import TenantGrid.Proofs.Filter.Pattern
import TenantGrid.Proofs.Plan.Invariant
/-!
# Opposite filters on a relation

A filter on the tags or the users of an artist asks whether some related row passes a test, and a
negative one asks that none does. Two items with opposite operators and one value put the same test, and
so every artist satisfies just one of them, those without related rows included.
-/
namespace TenantGrid

open Sql (Collation Database Env Expr Query Record Value)

/-- Whether two expressions have the same value wherever they stand. -/
def Sql.Expr.SameValue (e f : Expr) : Prop :=
  ∀ (c : Collation) (db : Database) (group : Multiset Env) (env : Env),
    e.value c db group env = f.value c db group env

/-- Whether no character of the text that an item is given would mean something else in a pattern. -/
def Json.IsPlain (value : Json) : Prop :=
  ∀ text, value.toText? = some text →
    ∀ c ∈ text.toList, c ≠ '%' ∧ c ≠ '_' ∧ c ≠ escapeChar

/-- Operators that ask opposite things of the related rows. Containment is opposite to its negation if
both escape the text that they are given or neither needs to. -/
inductive Operator.Opposes (escapeNegated : Bool) (value : Json) : Operator → Operator → Prop
  | equality : Opposes escapeNegated value equals notEquals
  | list : Opposes escapeNegated value isAnyOf isNotOf
  | presence : Opposes escapeNegated value isEmpty isNotEmpty
  | containment (h : escapeNegated = true ∨ value.IsPlain) :
    Opposes escapeNegated value contains doesNotContain

private theorem patternParts?_unescaped {text : List Char} (h : ∀ c ∈ text, c ≠ '%' ∧ c ≠ '_')
    (rest : List Char) :
    Sql.patternParts? none (text ++ rest) =
      (Sql.patternParts? none rest).map (text.map .exact ++ ·) := by
  induction text with
  | nil => simp
  | cons c text ih =>
    obtain ⟨hrun, hone⟩ := h c (by simp)
    rw [List.cons_append, Sql.patternParts?_cons _ (by simp), ih fun d hd => h d (by simp [hd])]
    simp [hrun, hone, Function.comp_def]

private theorem containment_plain {text : String} (h : ∀ c ∈ text.toList, c ≠ '%' ∧ c ≠ '_')
    (c : Collation) (v : Value) :
    (Operator.contains.patternTest text).outcome c v =
      (Test.like ("%" ++ text ++ "%") none false).outcome c v := by
  have hstart := @Sql.patternParts?_cons none '%' (text.toList ++ ['%']) (by simp)
  have hend : Sql.patternParts? none ['%'] = some [.run] := rfl
  rw [patternParts?_unescaped h ['%'], hend] at hstart
  have hparts : Sql.patternParts? none ("%" ++ text ++ "%").toList =
      Sql.patternParts? (some escapeChar) (literalPattern true true text).toList := by
    rw [patternParts?_literal]
    simpa using hstart
  cases v with
  | text s =>
    have hlike : c.like (some escapeChar) true (.text s) (.text (literalPattern true true text)) =
        c.like none true (.text s) (.text ("%" ++ text ++ "%")) := by
      rw [Collation.like, Collation.like, hparts]
    exact congrArg (fun truth => (Sql.Truth.negatedIf false truth).value) hlike
  | null | int n | real x | bool b | uuid id | timestamp t => rfl

namespace Membership

/-- Whether two tests of a relation make the same test of a row, which one of them negates. -/
structure Opposes (m m' : Membership) : Prop where
  inner : Option.Rel Expr.SameValue m.inner m'.inner
  negated : m'.negated = !m.negated

variable {escapeNegated : Bool} {field : String} {column : Expr} {op op' : Operator} {value : Json}

private theorem ofItem_of_isRelational (h : op.isRelational = true) :
    ofItem escapeNegated field column op value =
      if value.isBlank then .ok none
      else (positiveInner escapeNegated field column op op value).map (ofInner false) := by
  cases op <;> simp_all [ofItem, Operator.opposite?, Operator.isRelational]

private theorem ofItem_of_opposite (h : op'.opposite? = some op) :
    ofItem escapeNegated field column op' value =
      if value.isBlank then .ok none
      else (positiveInner escapeNegated field column op' op value).map (ofInner true) := by
  cases op' with
  | notEquals | isNotOf | doesNotContain =>
    obtain rfl := Option.some.inj h
    simp [ofItem, Operator.opposite?, Operator.isRelational]
  | equals | isEmpty | isNotEmpty | isAnyOf | gt | lt | gte | lte | after | before | onOrAfter
  | onOrBefore | startsWith | endsWith | contains => simp [Operator.opposite?] at h

private theorem positiveInner_plain (hplain : value.IsPlain) (hblank : value.isBlank = false) :
    SameOutcome (Option.Rel Expr.SameValue)
      (positiveInner false field column .contains .contains value)
      (positiveInner false field column .doesNotContain .contains value) := by
  have hcontains : positiveInner false field column .contains .contains value =
      ({ field, column, type := .text } : Subject).predicate false .contains value := by
    simp [positiveInner]
  have hnegated : positiveInner false field column .doesNotContain .contains value =
      (textOf field value).map fun text =>
        some ((Test.like ("%" ++ text ++ "%") none false).on column) := by
    simp [positiveInner, Test.on]
  rw [hcontains, hnegated]
  cases htext : value.toText? with
  | none =>
    simp only [Subject.predicate, Operator.supports, Subject.matching, hblank, textOf_of_none htext]
    exact .error _
  | some text =>
    have hput : ({ field, column, type := .text } : Subject).predicate false .contains value =
        .ok (some ((Operator.contains.patternTest text).on column)) :=
      Subject.predicate_pattern rfl trivial htext hblank
    rw [hput, textOf_of_toText? htext]
    refine .ok (.some fun c db group env => ?_)
    rw [Test.value_on, Test.value_on]
    exact containment_plain (fun d hd => ⟨(hplain text htext d hd).1, (hplain text htext d hd).2.1⟩) c _

private theorem positiveInner_opposed (hblank : value.isBlank = false)
    (h : op.Opposes escapeNegated value op') (hop : op'.opposite? = some op) :
    SameOutcome (Option.Rel Expr.SameValue)
      (positiveInner escapeNegated field column op op value)
      (positiveInner escapeNegated field column op' op value) := by
  have hsame : SameOutcome (Option.Rel Expr.SameValue)
      (({ field, column, type := .text } : Subject).predicate escapeNegated op value)
      (({ field, column, type := .text } : Subject).predicate escapeNegated op value) := by
    refine (SameOutcome.refl _).imp fun put _ heq => heq ▸ ?_
    cases put with
    | none => exact .none
    | some e => exact .some fun _ _ _ _ => rfl
  cases h with
  | equality | list => simpa [positiveInner] using hsame
  | presence => exact nomatch hop
  | containment h =>
    cases escapeNegated with
    | true => simpa [positiveInner] using hsame
    | false => exact positiveInner_plain (h.resolve_left Bool.false_ne_true) hblank

private theorem ofItem_opposed (h : op.Opposes escapeNegated value op') :
    SameOutcome (Option.Rel Opposes) (ofItem escapeNegated field column op value)
      (ofItem escapeNegated field column op' value) := by
  by_cases hpresence : op = .isEmpty
  · cases h with
    | presence => exact .ok (.some ⟨.none, rfl⟩)
    | equality | list | containment => exact nomatch hpresence
  have hop : op.isRelational = true ∧ op'.opposite? = some op := by
    cases h with
    | equality | list | containment => exact ⟨rfl, rfl⟩
    | presence => exact absurd rfl hpresence
  rw [ofItem_of_isRelational hop.1, ofItem_of_opposite hop.2]
  cases hblank : value.isBlank with
  | true => exact .ok .none
  | false =>
    refine (positiveInner_opposed hblank h hop.2).map fun put put' hput => ?_
    cases hput with
    | none => exact .none
    | some he => exact .some ⟨.some he, rfl⟩

end Membership

/-- Whether every row of a relation names an artist. -/
structure NamesArtists (db : Database) : Prop where
  tags : ∀ row ∈ db Schema.tags.name, row "artist_id" ≠ .null
  users : ∀ row ∈ db Schema.userArtists.name, row "artist_id" ≠ .null

/-- Whether just one of two conditions is true of every artist. -/
def Sql.Expr.Complements (e f : Expr) : Prop :=
  ∀ (c : Collation) (db : Database) (group : Multiset Env) (env : Env) (artist : Record),
    NamesArtists db → artist "id" ≠ .null → env.lookup Schema.artists.name = some artist →
      Xor (e.Holds c db group env) (f.Holds c db group env)

private theorem semiJoin_complements {table aliasName column : String} {condition : Expr}
    {inner inner' : Option Test} (negated : Bool) (hcondition : condition.ReadsOnly [aliasName])
    (hrequired : ∀ db, NamesArtists db → ∀ row ∈ db table, row "artist_id" ≠ .null)
    (hinner : ∀ c v, (∀ t ∈ inner, t.outcome c v = .bool true) ↔
      ∀ t ∈ inner', t.outcome c v = .bool true) :
    (Expr.inQuery artistId (Sql.columnQuery table aliasName "artist_id" false
      (andInner condition (inner.map (Test.on (.ofTable aliasName column))))) negated).Complements
    (Expr.inQuery artistId (Sql.columnQuery table aliasName "artist_id" false
      (andInner condition (inner'.map (Test.on (.ofTable aliasName column))))) !negated) := by
  intro c db group env artist hnames hid hartist
  let rows := (db table).filter fun row =>
    c.Same (row "artist_id") (artist "id") ∧ condition.Holds c db 0 [(aliasName, row)]
  have hrows : ∀ row, row ∈ rows ↔ row ∈ db table ∧ c.Same (row "artist_id") (artist "id") ∧
      condition.Holds c db 0 [(aliasName, row)] := fun row => Multiset.mem_filter
  rw [Compiler.semiJoin_holds negated hcondition hartist hid (hrequired db hnames) hrows,
    Compiler.semiJoin_holds (!negated) hcondition hartist hid (hrequired db hnames) hrows]
  simp only [hinner, xor_iff_iff_not]
  cases negated <;> simp

private theorem exists_inner_test {escapeNegated : Bool} {field : String} {column : Expr}
    {op : Operator} {value : Json} {m : Membership}
    (h : Membership.ofItem escapeNegated field column op value = .ok (some m)) :
    ∃ inner : Option Test, m.inner = inner.map (Test.on column) := by
  have hfits := Membership.ofItem_fits h
  cases hinner : m.inner with
  | none => exact ⟨none, rfl⟩
  | some e =>
    obtain ⟨t, rfl, _⟩ := hfits e hinner
    exact ⟨some t, rfl⟩

private theorem outcome_of_sameValue {aliasName name : String} {inner inner' : Option Test}
    (h : Option.Rel Expr.SameValue (inner.map (Test.on (.ofTable aliasName name)))
      (inner'.map (Test.on (.ofTable aliasName name)))) (c : Collation) (v : Value) :
    (∀ t ∈ inner, t.outcome c v = .bool true) ↔ ∀ t ∈ inner', t.outcome c v = .bool true := by
  cases inner with
  | none =>
    cases inner' with
    | none => exact Iff.rfl
    | some t' => exact nomatch h
  | some t =>
    cases inner' with
    | none => exact nomatch h
    | some t' =>
      have hsame : (t.on (.ofTable aliasName name)).SameValue (t'.on (.ofTable aliasName name)) := by
        simpa using h
      have hvalue := hsame c (fun _ => 0) 0 [(aliasName, fun _ => v)]
      rw [Test.value_on, Test.value_on] at hvalue
      have houtcome : t.outcome c v = t'.outcome c v := by simpa [Sql.readColumn] using hvalue
      simp [houtcome]

namespace Compiler

variable {compiler : Compiler} {item item' : FilterItem} {op op' : Operator}

private theorem operator_of_name {type : ColumnType}
    (h : Operator.ofName? item.operator = some op) : operator item type = .ok op := by
  simp [operator, h]

/-- Whether two items put opposite operators to one field with one value. -/
structure AreOpposite (compiler : Compiler) (item item' : FilterItem) (op op' : Operator) : Prop where
  field : item'.field = item.field
  value : item'.value = item.value
  operator : Operator.ofName? item.operator = some op
  operator' : Operator.ofName? item'.operator = some op'
  opposes : op.Opposes compiler.escapeNegated item.value op'

private theorem relationPredicate_complements (h : compiler.AreOpposite item item' op op')
    {table aliasName name : String} {condition : Expr} {related : Option Expr → Query}
    (hrelated : ∀ inner, related inner = Sql.columnQuery table aliasName "artist_id" false
      (andInner condition inner))
    (hcondition : condition.ReadsOnly [aliasName])
    (hrequired : ∀ db, NamesArtists db → ∀ row ∈ db table, row "artist_id" ≠ .null) :
    SameOutcome (Option.Rel Expr.Complements)
      (compiler.relationPredicate item (.ofTable aliasName name) related)
      (compiler.relationPredicate item' (.ofTable aliasName name) related) := by
  unfold relationPredicate
  rw [operator_of_name h.operator, operator_of_name h.operator', h.field, h.value]
  refine (Membership.ofItem_opposed h.opposes).bind fun found found' hfound hfound' hopposed => ?_
  cases hopposed with
  | none => exact .ok .none
  | @some m m' hopposes =>
    refine .ok (.some ?_)
    obtain ⟨inner, hinner⟩ := exists_inner_test hfound
    obtain ⟨inner', hinner'⟩ := exists_inner_test hfound'
    have hsame := hopposes.inner
    rw [hinner, hinner'] at hsame
    change (Expr.inQuery artistId (related m.inner) m.negated).Complements
      (.inQuery artistId (related m'.inner) m'.negated)
    rw [hrelated, hrelated, hinner, hinner', hopposes.negated]
    exact semiJoin_complements m.negated hcondition hrequired (outcome_of_sameValue hsame)

/-- The fields whose values are rows of a relation. -/
def relationFields : List String :=
  ["tags", "tags.user", "tags.genre", "users"]

private theorem route_relation (catalog : Catalog) {field : String} (h : field ∈ relationFields) :
    (∃ type, catalog.route field = .ok (.tags type)) ∨ catalog.route field = .ok .users := by
  simp only [relationFields, List.mem_cons, List.not_mem_nil, or_false] at h
  rcases h with rfl | rfl | rfl | rfl
  · exact .inl ⟨.user, rfl⟩
  · exact .inl ⟨.user, rfl⟩
  · exact .inl ⟨.genre, rfl⟩
  · exact .inr rfl

end Compiler

/-- Whether two steps leave a plan as it is, or narrow it by complementary conditions and no join. -/
inductive FilterPlan.OppositeSteps (plan : FilterPlan) : FilterPlan → FilterPlan → Prop
  | unchanged : OppositeSteps plan plan plan
  | narrowed {e f : Expr} (h : e.Complements f) :
    OppositeSteps plan { plan with predicates := plan.predicates ++ [e] }
      { plan with predicates := plan.predicates ++ [f] }

namespace Compiler

variable {compiler : Compiler} {item item' : FilterItem} {op op' : Operator}

/-- Opposite filters on tags or users fail with one error, put no condition, or put conditions of which
every artist satisfies just one. -/
theorem opposite_filters_complement (hfield : item.field ∈ relationFields)
    (h : compiler.AreOpposite item item' op op') (plan : FilterPlan) :
    SameOutcome plan.OppositeSteps (compiler.addItem plan item) (compiler.addItem plan item') := by
  obtain ⟨route, hroute, htarget, hput⟩ : ∃ route, compiler.catalog.route item.field = .ok route ∧
      route.joinTarget? = none ∧ SameOutcome (Option.Rel Expr.Complements)
        (compiler.itemPredicate plan.tenant plan.joins item route)
        (compiler.itemPredicate plan.tenant plan.joins item' route) := by
    rcases route_relation compiler.catalog hfield with ⟨type, hroute⟩ | hroute
    · exact ⟨_, hroute, rfl, relationPredicate_complements h (tagQuery_eq plan.tenant type)
        (tagCondition_readsOnly plan.tenant type) fun _ hnames => hnames.tags⟩
    · exact ⟨_, hroute, rfl, relationPredicate_complements h (userQuery_eq plan.tenant)
        (userCondition_readsOnly plan.tenant) fun _ hnames => hnames.users⟩
  unfold addItem
  rw [h.field, hroute]
  refine hput.bind fun put put' _ _ hcomplements => ?_
  cases hcomplements with
  | none => exact .ok .unchanged
  | some he =>
    rw [htarget]
    exact .ok (.narrowed he)

/-- On tags that contain a word or do not. The word has no wildcard, so it need not be escaped. -/
theorem opposite_filters_complement_sample :
    (FilterItem.mk "tags" "contains" (.string "jazz")).field ∈ relationFields ∧
      ({} : Compiler).AreOpposite ⟨"tags", "contains", .string "jazz"⟩
        ⟨"tags", "doesNotContain", .string "jazz"⟩ .contains .doesNotContain ∧
      ∃ after after',
        ({} : Compiler).addItem ⟨"t", .standard, [], []⟩ ⟨"tags", "contains", .string "jazz"⟩ =
          .ok after ∧
        ({} : Compiler).addItem ⟨"t", .standard, [], []⟩
          ⟨"tags", "doesNotContain", .string "jazz"⟩ = .ok after' ∧
        after.predicates.length = 1 ∧
        FilterPlan.OppositeSteps ⟨"t", .standard, [], []⟩ after after' := by
  have hfield : (FilterItem.mk "tags" "contains" (.string "jazz")).field ∈ relationFields := by
    decide
  have hopposite : ({} : Compiler).AreOpposite ⟨"tags", "contains", .string "jazz"⟩
      ⟨"tags", "doesNotContain", .string "jazz"⟩ .contains .doesNotContain := by
    refine ⟨rfl, rfl, by decide, by decide, .containment (.inr fun text htext => ?_)⟩
    obtain rfl := Option.some.inj htext
    simp [escapeChar]
  refine ⟨hfield, hopposite, _, _, rfl, rfl, rfl, ?_⟩
  have hsteps := opposite_filters_complement hfield hopposite ⟨"t", .standard, [], []⟩
  cases hsteps with
  | ok hsteps => exact hsteps

end Compiler

end TenantGrid
