import TenantGrid.Proofs.Filter.Admission
import TenantGrid.Proofs.Filter.Listing
import TenantGrid.Proofs.Number.Exact
import TenantGrid.Proofs.Uuid
/-!
# Values that items stand for

What a column is compared with is what the value of an item stands for, and a value that stands for nothing
of the column's type is rejected. The one exception are numbers without a fraction beyond 64 bits:
they are taken for the end of that range.
-/
namespace TenantGrid

open Sql (Expr Value)

namespace Json

/-- Whether a value is a whole number of 64 bits, given as a number or in decimal. -/
inductive IsInt : Json → Int → Prop
  | number {k : JsonNumber} {n : Int} (hvalue : k.value? = some (n : ℚ))
    (hrange : Number.inInt64 n = true) : IsInt (.number k) n
  | text {s : String} {n : Int} (hspells : Number.Spells (Text.trim s.toList) n)
    (hrange : Number.inInt64 n = true) : IsInt (.string s) n

/-- Whether a value is a truth value, given as itself, by its name in either case or as a digit. -/
inductive IsTruth : Json → Bool → Prop
  | itself (b : Bool) : IsTruth (.bool b) b
  | name {s : String} {b : Bool} (hname : Text.asciiLower s = if b then "true" else "false") :
    IsTruth (.string s) b
  | digit (b : Bool) : IsTruth (.string (if b then "1" else "0")) b
  | number (b : Bool) : IsTruth (ofInt (if b then 1 else 0)) b

/-- Whether a value names a code of a list, by itself or by its label in either case. -/
inductive IsCode (choices : List Choice) : Json → Int → Prop
  | itself {value : Json} {code : Int} (hcode : value.IsInt code)
    (hlisted : ∃ choice ∈ choices, choice.code = code) : IsCode choices value code
  | label {s : String} {choice : Choice} (hlisted : choice ∈ choices)
    (hlabel : Text.asciiLower choice.label = Text.asciiLower (String.ofList (Text.trim s.toList))) :
    IsCode choices (.string s) choice.code

/-- Whether a value stands for a value of a column. -/
inductive Denotes : ColumnType → Json → Value → Prop
  | text (s : String) : Denotes .text (.string s) (.text s)
  | numberText (k : JsonNumber) : Denotes .text (.number k) (.text k.text)
  | truthText (b : Bool) : Denotes .text (.bool b) (.text (if b then "true" else "false"))
  | int {value : Json} {n : Int} (h : value.IsInt n) : Denotes .int value (.int n)
  | bool {value : Json} {b : Bool} (h : value.IsTruth b) : Denotes .bool value (.bool b)
  | uuid {s : String} {id : Uuid}
    (h : Text.asciiLower (String.ofList (Text.trim s.toList)) ∈ id.forms) :
    Denotes .uuid (.string s) (.uuid id)
  | choice {choices : List Choice} {value : Json} {code : Int} (h : value.IsCode choices code) :
    Denotes (.choice choices) value (.int code)

/-- Whether a number without a fraction beyond 64 bits is taken for the end of their range. -/
inductive Saturates : Json → Int → Prop
  | number {k : JsonNumber} {n : Int} (hvalue : k.value? = some (n : ℚ))
    (hrange : Number.inInt64 n = false) : Saturates (.number k) (Number.clamped n)

/-- Whether a value is taken for a value of a column, be it that it stands for that value or that it
is a number too large for the column. -/
inductive TakenFor : ColumnType → Json → Value → Prop
  | denoted {type : ColumnType} {value : Json} {v : Value} (h : value.Denotes type v) :
    TakenFor type value v
  | int {value : Json} {n : Int} (h : value.Saturates n) : TakenFor .int value (.int n)
  | choice {choices : List Choice} {value : Json} {n : Int}
    (hlisted : ∃ choice ∈ choices, choice.code = n) (h : value.Saturates n) :
    TakenFor (.choice choices) value (.int n)

variable {value : Json}

private theorem toText?_eq_some {text : String} :
    value.toText? = some text ↔ value.Denotes .text (.text text) := by
  constructor
  · intro h
    cases value with
    | string s =>
      obtain rfl := Option.some.inj h
      exact .text s
    | number k =>
      obtain rfl := Option.some.inj h
      exact .numberText k
    | bool b =>
      obtain rfl := Option.some.inj h
      exact .truthText b
    | null | array | object => exact nomatch h
  · intro h
    cases h <;> rfl

private theorem toInt?_number {k : JsonNumber} {m : Int} :
    (number k).toInt? = some m ↔ ∃ n : Int, k.value? = some (n : ℚ) ∧ m = Number.clamped n := by
  cases k with
  | whole n =>
    have hclamped : (if Number.inInt64 n then n else (Double.ofInt n).toInt64) = Number.clamped n := by
      split
      case isTrue h => exact (Number.clamped_of_inInt64 h).symm
      case isFalse h => exact Double.toInt64_ofInt (by simpa using h)
    rw [toInt?, hclamped, Option.some_inj]
    simp [JsonNumber.value?, eq_comm]
  | real x =>
    simp only [toInt?, JsonNumber.value?]
    constructor
    · intro h
      split at h
      case isTrue hwhole =>
        obtain ⟨n, hn⟩ := Double.isWhole_iff.mp hwhole
        exact ⟨n, hn, by rw [← Double.toInt64_of_value hn, Option.some.inj h]⟩
      case isFalse => exact nomatch h
    · rintro ⟨n, hn, rfl⟩
      rw [if_pos (Double.isWhole_iff.mpr ⟨n, hn⟩), Double.toInt64_of_value hn]

private theorem toInt?_eq_some {n : Int} :
    value.toInt? = some n ↔ value.IsInt n ∨ value.Saturates n := by
  constructor
  · intro h
    cases value with
    | number k =>
      obtain ⟨m, hvalue, rfl⟩ := toInt?_number.mp h
      by_cases hrange : Number.inInt64 m = true
      · rw [Number.clamped_of_inInt64 hrange]
        exact Or.inl (.number hvalue hrange)
      · exact Or.inr (.number hvalue (by simpa using hrange))
    | string s =>
      obtain ⟨hspells, hrange⟩ := Number.readInt?_eq_some.mp h
      exact Or.inl (.text hspells hrange)
    | null | bool | array | object => exact nomatch h
  · rintro (h | h)
    · cases h with
      | number hvalue hrange =>
        exact toInt?_number.mpr ⟨n, hvalue, (Number.clamped_of_inInt64 hrange).symm⟩
      | text hspells hrange => exact Number.readInt?_eq_some.mpr ⟨hspells, hrange⟩
    · cases h with
      | number hvalue hrange => exact toInt?_number.mpr ⟨_, hvalue, rfl⟩

private theorem toBool?_string {s : String} {b : Bool} :
    (string s).toBool? = some b ↔
      Text.asciiLower s = (if b then "true" else "false") ∨ s = if b then "1" else "0" := by
  have hone : s = "1" → Text.asciiLower s = "1" := by
    rintro rfl
    decide +kernel
  have hzero : s = "0" → Text.asciiLower s = "0" := by
    rintro rfl
    decide +kernel
  simp only [toBool?]
  cases b <;> grind

private theorem toBool?_number {k : JsonNumber} {b : Bool} :
    (number k).toBool? = some b ↔ k = .whole (if b then 1 else 0) := by
  cases k with
  | whole n =>
    simp only [toBool?, JsonNumber.whole.injEq]
    cases b <;> grind
  | real x => simp [toBool?]

private theorem toBool?_eq_some {b : Bool} : value.toBool? = some b ↔ value.IsTruth b := by
  constructor
  · intro h
    cases value with
    | bool b' =>
      obtain rfl := Option.some.inj h
      exact .itself b'
    | string s =>
      obtain hname | rfl := toBool?_string.mp h
      · exact .name hname
      · exact .digit b
    | number k =>
      obtain rfl := toBool?_number.mp h
      exact .number b
    | null | array | object => exact nomatch h
  · intro h
    cases h with
    | itself => rfl
    | name hname => exact toBool?_string.mpr (Or.inl hname)
    | digit => exact toBool?_string.mpr (Or.inr rfl)
    | number => exact toBool?_number.mpr rfl

private theorem toUuid?_eq_some {id : Uuid} :
    value.toUuid? = some id ↔ value.Denotes .uuid (.uuid id) := by
  constructor
  · intro h
    cases value with
    | string s => exact .uuid (Uuid.ofText?_eq_some.mp h)
    | null | bool | number | array | object => exact nomatch h
  · intro h
    cases h with
    | uuid hform =>
      rw [toUuid?, Uuid.ofText?_eq_some]
      exact hform

private theorem choiceCode?_eq_some {choices : List Choice} {label : String} {code : Int}
    (h : (ColumnType.choice choices).choiceCode? label = some code) :
    ∃ choice ∈ choices, Text.asciiLower choice.label = Text.asciiLower label ∧ choice.code = code := by
  obtain ⟨choice, hfound, rfl⟩ := Option.map_eq_some_iff.mp h
  exact ⟨choice, List.mem_of_find?_eq_some hfound, by simpa using List.find?_some hfound, rfl⟩

private theorem choiceCode?_eq_none {choices : List Choice} {label : String}
    (h : (ColumnType.choice choices).choiceCode? label = none) :
    ∀ choice ∈ choices, Text.asciiLower choice.label ≠ Text.asciiLower label := by
  simpa [ColumnType.choiceCode?] using h

private theorem choiceLabel?_isSome {choices : List Choice} {code : Int} :
    ((ColumnType.choice choices).choiceLabel? code).isSome = true ↔
      ∃ choice ∈ choices, choice.code = code := by
  simp [ColumnType.choiceLabel?, List.find?_isSome]

private theorem toCode?_number {choices : List Choice} {k : JsonNumber} {code : Int} :
    (number k).toCode? (.choice choices) = some code ↔
      (number k).toInt? = some code ∧ ∃ choice ∈ choices, choice.code = code := by
  rw [← choiceLabel?_isSome]
  exact Option.filter_eq_some_iff

private theorem toCode?_label {choices : List Choice} {s : String} {code : Int}
    (h : (ColumnType.choice choices).choiceCode? (String.ofList (Text.trim s.toList)) = some code) :
    (string s).toCode? (.choice choices) = some code := by
  obtain ⟨choice, hlisted, -, hcode⟩ := choiceCode?_eq_some h
  simp only [toCode?, h]
  exact Option.filter_eq_some_iff.mpr ⟨rfl, choiceLabel?_isSome.mpr ⟨choice, hlisted, hcode⟩⟩

private theorem toCode?_digits {choices : List Choice} {s : String} {code : Int}
    (h : (ColumnType.choice choices).choiceCode? (String.ofList (Text.trim s.toList)) = none) :
    (string s).toCode? (.choice choices) = some code ↔
      (string s).toInt? = some code ∧ ∃ choice ∈ choices, choice.code = code := by
  rw [← choiceLabel?_isSome, toInt?]
  simp only [toCode?, h]
  exact Option.filter_eq_some_iff

private theorem isCode_of_toCode? {choices : List Choice} {code : Int}
    (h : value.toCode? (.choice choices) = some code) :
    value.IsCode choices code ∨ (∃ choice ∈ choices, choice.code = code) ∧ value.Saturates code := by
  have hlisted := toCode?_choice h
  cases value with
  | string s =>
    cases hlabel : (ColumnType.choice choices).choiceCode? (String.ofList (Text.trim s.toList)) with
    | none =>
      obtain hint | hlarge := toInt?_eq_some.mp ((toCode?_digits hlabel).mp h).1
      · exact Or.inl (.itself hint hlisted)
      · exact nomatch hlarge
    | some code' =>
      obtain rfl := Option.some.inj ((toCode?_label hlabel).symm.trans h)
      obtain ⟨choice, hchoice, hname, rfl⟩ := choiceCode?_eq_some hlabel
      exact Or.inl (.label hchoice hname)
  | number k =>
    obtain hint | hlarge := toInt?_eq_some.mp (toCode?_number.mp h).1
    · exact Or.inl (.itself hint hlisted)
    · exact Or.inr ⟨hlisted, hlarge⟩
  | null | bool | array | object => exact nomatch h

private theorem exists_toCode? {choices : List Choice} {code : Int}
    (h : value.IsCode choices code) : ∃ code, value.toCode? (.choice choices) = some code := by
  cases h with
  | itself hint hlisted =>
    have hread : value.toInt? = some code := toInt?_eq_some.mpr (Or.inl hint)
    cases hint with
    | number => exact ⟨code, toCode?_number.mpr ⟨hread, hlisted⟩⟩
    | @text s =>
      cases hlabel : (ColumnType.choice choices).choiceCode? (String.ofList (Text.trim s.toList)) with
      | none => exact ⟨code, (toCode?_digits hlabel).mpr ⟨hread, hlisted⟩⟩
      | some code' => exact ⟨code', toCode?_label hlabel⟩
  | @label s choice hlisted hname =>
    cases hlabel : (ColumnType.choice choices).choiceCode? (String.ofList (Text.trim s.toList)) with
    | none => exact absurd hname (choiceCode?_eq_none hlabel choice hlisted)
    | some code' => exact ⟨code', toCode?_label hlabel⟩

end Json

/-- What a value is expected to be that is compared with texts, whole numbers, truth values, identifiers
or codes. -/
inductive ColumnType.Expects : ColumnType → Expectation → Prop
  | text : Expects .text .text
  | int : Expects .int .integer
  | bool : Expects .bool .boolean
  | uuid : Expects .uuid .uuid
  | choice (choices : List Choice) : Expects (.choice choices) .choice

section Coerce

variable {field : String} {type : ColumnType} {percent : Bool} {expected : Expectation} {value : Json}
  {v : Value}

private theorem takenFor_of_coerce (hexpected : type.Expects expected)
    (h : coerce field type percent value = .ok v) : value.TakenFor type v := by
  cases hexpected with
  | text =>
    obtain ⟨text, htext, rfl⟩ := map_eq_ok h
    exact .denoted (Json.toText?_eq_some.mp (expecting_eq_ok htext))
  | int =>
    obtain ⟨n, hn, rfl⟩ := map_eq_ok h
    obtain hint | hlarge := Json.toInt?_eq_some.mp (expecting_eq_ok hn)
    · exact .denoted (.int hint)
    · exact .int hlarge
  | bool =>
    obtain ⟨b, hb, rfl⟩ := map_eq_ok h
    exact .denoted (.bool (Json.toBool?_eq_some.mp (expecting_eq_ok hb)))
  | uuid =>
    obtain ⟨id, hid, rfl⟩ := map_eq_ok h
    exact .denoted (Json.toUuid?_eq_some.mp (expecting_eq_ok hid))
  | choice choices =>
    obtain ⟨code, hcode, rfl⟩ := map_eq_ok h
    obtain hnamed | ⟨hlisted, hlarge⟩ := Json.isCode_of_toCode? (expecting_eq_ok hcode)
    · exact .denoted (.choice hnamed)
    · exact .choice hlisted hlarge

private theorem exists_coerce (h : value.TakenFor type v) :
    ∃ v, coerce field type percent value = .ok v := by
  cases h with
  | denoted h =>
    cases h with
    | text s => exact ⟨.text s, rfl⟩
    | numberText k => exact ⟨.text k.text, rfl⟩
    | truthText b => exact ⟨.text (if b then "true" else "false"), rfl⟩
    | int hint =>
      rw [coerce, Json.toInt?_eq_some.mpr (Or.inl hint)]
      exact ⟨_, rfl⟩
    | bool htruth =>
      rw [coerce, Json.toBool?_eq_some.mpr htruth]
      exact ⟨_, rfl⟩
    | uuid hform =>
      rw [coerce, Json.toUuid?_eq_some.mpr (.uuid hform)]
      exact ⟨_, rfl⟩
    | choice hnamed =>
      obtain ⟨code, hcode⟩ := Json.exists_toCode? hnamed
      rw [coerce, hcode]
      exact ⟨_, rfl⟩
  | int hlarge =>
    rw [coerce, Json.toInt?_eq_some.mpr (Or.inr hlarge)]
    exact ⟨_, rfl⟩
  | choice hlisted hlarge =>
    cases hlarge with
    | number hvalue hrange =>
      have hread := Json.toInt?_eq_some.mpr (Or.inr (.number hvalue hrange))
      rw [coerce, Json.toCode?_number.mpr ⟨hread, hlisted⟩]
      exact ⟨_, rfl⟩

private theorem eq_invalidValue_of_coerce (hexpected : type.Expects expected) {error : RequestError}
    (h : coerce field type percent value = .error error) :
    error = .invalidValue field value expected := by
  cases hexpected <;> exact expecting_error (map_eq_error.mp h)

private theorem coerce_eq_error (hexpected : type.Expects expected) {error : RequestError} :
    coerce field type percent value = .error error ↔
      (¬ ∃ v, value.TakenFor type v) ∧ error = .invalidValue field value expected := by
  constructor
  · intro h
    refine ⟨?_, eq_invalidValue_of_coerce hexpected h⟩
    rintro ⟨v, hv⟩
    obtain ⟨v', hv'⟩ := exists_coerce hv
    exact nomatch hv'.symm.trans h
  · rintro ⟨hnothing, rfl⟩
    cases hread : coerce field type percent value with
    | ok v => exact absurd ⟨v, takenFor_of_coerce hexpected hread⟩ hnothing
    | error error => rw [eq_invalidValue_of_coerce hexpected hread]

end Coerce

/-- The values that an operator compares a column with. -/
inductive Operator.Compares : Operator → Json → List Json → Prop
  | null {op : Operator} (hop : op ∈ [equals, notEquals]) : Compares op .null []
  | equality {op : Operator} {value : Json} (hop : op ∈ [equals, notEquals])
    (hvalue : value.isNull = false) : Compares op value [value]
  | list {op : Operator} {value : Json} {items : List Json} (hop : op ∈ [isAnyOf, isNotOf])
    (hitems : value.Lists items) : Compares op value items
  | blank {op : Operator} {value : Json}
    (hop : op ∈ [gt, lt, gte, lte, after, before, onOrAfter, onOrBefore])
    (hvalue : value.isBlank = true) : Compares op value []
  | ordering {op : Operator} {value : Json}
    (hop : op ∈ [gt, lt, gte, lte, after, before, onOrAfter, onOrBefore])
    (hvalue : value.isBlank = false) : Compares op value [value]

/-- The comparison that an operator makes with one value. -/
def Operator.comparison? : Operator → Option Sql.BinaryOp
  | equals => some .eq
  | notEquals => some .ne
  | gt | after => some .gt
  | lt | before => some .lt
  | gte | onOrAfter => some .gte
  | lte | onOrBefore => some .lte
  | _ => none

/-- The test that an operator makes with the values that are bound for it. Without any, equality is a
test for null and the other operators test nothing. -/
def Operator.test? (op : Operator) : List Value → Option Test
  | [] =>
    match op with
    | equals => some (.null false)
    | notEquals => some (.null true)
    | _ => none
  | bound@(v :: _) =>
    match op with
    | isAnyOf => some (.among bound false)
    | isNotOf => some (.among bound true)
    | _ => op.comparison?.map fun comparison => .compare comparison v

namespace Subject

variable {s : Subject} {escapeNegated : Bool} {op : Operator} {value : Json} {items : List Json}

private theorem mapM_coerce_singleton {β : Type} (f : List Value → β) :
    ([value].mapM s.coerce).map f = (s.coerce value).map fun v => f [v] := by
  rw [List.mapM_cons, List.mapM_nil]
  cases s.coerce value <;> rfl

private theorem amongListed_eq_mapM (negated : Bool) :
    s.amongListed negated value = (value.listed.mapM s.coerce).map fun bound =>
      (if bound = [] then none else some (Test.among bound negated)).map (Test.on s.column) := by
  unfold amongListed
  cases hlisted : value.listed with
  | nil => rfl
  | cons item items =>
    cases hbound : (item :: items).mapM s.coerce with
    | error e => rfl
    | ok bound =>
      have hsome : bound ≠ [] := List.ne_nil_of_length_pos (by simp [length_of_mapM hbound])
      simp [hsome, Except.map, Test.on]

private theorem predicate_of_compares (hsupports : op.supports s.type = true)
    (hitems : op.Compares value items) :
    s.predicate escapeNegated op value =
      (items.mapM s.coerce).map fun bound => (op.test? bound).map (Test.on s.column) := by
  cases hitems with
  | null hop =>
    simp only [List.mem_cons, List.not_mem_nil, or_false] at hop
    obtain rfl | rfl := hop <;> simp only [predicate, hsupports] <;> rfl
  | equality hop hvalue =>
    simp only [List.mem_cons, List.not_mem_nil, or_false] at hop
    rw [mapM_coerce_singleton]
    obtain rfl | rfl := hop <;>
      simp only [predicate, hsupports, comparedUnlessNull, hvalue] <;> rfl
  | list hop hlists =>
    obtain rfl := hlists.eq_listed
    simp only [List.mem_cons, List.not_mem_nil, or_false] at hop
    have htest (bound : List Value) : op.test? bound =
        if bound = [] then none else some (.among bound (op = .isNotOf)) := by
      obtain rfl | rfl := hop <;> cases bound <;> rfl
    simp only [htest, ← amongListed_eq_mapM]
    obtain rfl | rfl := hop <;> simp only [predicate, hsupports] <;> rfl
  | blank hop hvalue =>
    simp only [List.mem_cons, List.not_mem_nil, or_false] at hop
    obtain rfl | rfl | rfl | rfl | rfl | rfl | rfl | rfl := hop <;>
      simp only [predicate, hsupports, comparedUnlessBlank, hvalue] <;> rfl
  | ordering hop hvalue =>
    simp only [List.mem_cons, List.not_mem_nil, or_false] at hop
    rw [mapM_coerce_singleton]
    obtain rfl | rfl | rfl | rfl | rfl | rfl | rfl | rfl := hop <;>
      simp only [predicate, hsupports, comparedUnlessBlank, hvalue] <;> rfl

end Subject

/-- How an item binds what its values stand for. -/
structure Subject.BindsDenoted (s : Subject) (escapeNegated : Bool) (op : Operator) (value : Json)
    (items : List Json) (expected : Expectation) : Prop where
  /-- The condition is the test of the operator with a value that each of the items is taken for. -/
  binds : ∀ put, s.predicate escapeNegated op value = .ok put → ∃ bound,
    List.Forall₂ (Json.TakenFor s.type) items bound ∧ put = (op.test? bound).map (Test.on s.column)
  /-- The first item that is taken for nothing is the one that is rejected. -/
  rejects : ∀ error, s.predicate escapeNegated op value = .error error ↔
    ∃ before item after, items = before ++ item :: after ∧
      (∀ earlier ∈ before, ∃ v, earlier.TakenFor s.type v) ∧ (¬ ∃ v, item.TakenFor s.type v) ∧
      error = .invalidValue s.field item expected

/-- An item binds what its values stand for, and is rejected if one of them stands for nothing. -/
theorem binds_denoted (s : Subject) (escapeNegated : Bool) {op : Operator} {value : Json}
    {items : List Json} {expected : Expectation} (hexpected : s.type.Expects expected)
    (hsupports : op.supports s.type = true) (hitems : op.Compares value items) :
    s.BindsDenoted escapeNegated op value items expected := by
  constructor
  case binds =>
    intro put hput
    rw [s.predicate_of_compares hsupports hitems] at hput
    obtain ⟨bound, hbound, rfl⟩ := map_eq_ok hput
    exact ⟨bound, (mapM_eq_ok.mp hbound).imp fun _ _ h => takenFor_of_coerce hexpected h, rfl⟩
  case rejects =>
    intro error
    have hcoerced (item : Json) : (∃ v, s.coerce item = .ok v) ↔ ∃ v, item.TakenFor s.type v :=
      ⟨fun ⟨v, hv⟩ => ⟨v, takenFor_of_coerce hexpected hv⟩, fun ⟨_, hv⟩ => exists_coerce hv⟩
    have hrejected (item : Json) : s.coerce item = .error error ↔
        (¬ ∃ v, item.TakenFor s.type v) ∧ error = .invalidValue s.field item expected :=
      coerce_eq_error hexpected
    simp only [s.predicate_of_compares hsupports hitems, map_eq_error, mapM_eq_error, FirstFailure,
      hcoerced, hrejected]

/-- Two statuses by label and by code, with a null between them. -/
theorem binds_denoted_sample :
    let s : Subject :=
      { field := "evaluation.status", column := .ofTable "evaluation_1" "status",
        type := .choice Schema.evaluationStatus }
    let value := Json.array [.string "signed", .null, .ofInt 1]
    let items := [Json.string "signed", .ofInt 1]
    s.type.Expects .choice ∧ Operator.supports .isAnyOf s.type = true ∧
      Operator.Compares .isAnyOf value items ∧ s.BindsDenoted false .isAnyOf value items .choice :=
  ⟨.choice _, rfl, .list (by simp) (.items _),
    binds_denoted _ false (.choice _) rfl (.list (by simp) (.items _))⟩

/-- A number that is too large by one is bound as the largest one, though it stands for nothing. -/
theorem number_beyond_range_bound :
    let s : Subject :=
      { field := "statistic.followers", column := .ofTable "statistic_1" "followers", type := .int }
    s.predicate false .equals (.ofInt (2 ^ 63)) =
        .ok (some ((Test.compare .eq (.int (2 ^ 63 - 1))).on s.column)) ∧
      ¬ ∃ v, (Json.ofInt (2 ^ 63)).Denotes .int v := by
  refine ⟨rfl, ?_⟩
  rintro ⟨v, hv⟩
  cases hv with
  | int h =>
    cases h with
    | number hvalue hrange =>
      have hn := Rat.intCast_inj.mp (Option.some.inj hvalue)
      rw [← hn] at hrange
      exact absurd hrange (by decide)

end TenantGrid
