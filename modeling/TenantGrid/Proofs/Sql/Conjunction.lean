import TenantGrid.Proofs.Filter.Steps
import TenantGrid.Proofs.Sql.Condition
import TenantGrid.Proofs.Sql.Parentheses
import TenantGrid.Proofs.Sql.Plain
import TenantGrid.Proofs.Sql.Precedence
/-!
# Conditions one after another

Conditions of a list, of a query and of an update are joined by AND as they are written, without
parentheses around them. What that is read as is told by what each of them is read as: where one of
them offers alternatives, AND takes only the alternative next to it. The conjunction that the
conditions were put into is read back where none of them does.
-/
namespace TenantGrid.Sql

private theorem mem_cut {σ : Type} {separator? : Item → Option σ} {items : List Item} :
    ∀ segment ∈ (cut separator? items).2, ∃ item ∈ items, separator? item = some segment.1 := by
  induction items with
  | nil => nofun
  | cons item rest ih =>
    intro segment hsegment
    cases hitem : separator? item with
    | none =>
      simp only [cut, hitem] at hsegment
      obtain ⟨other, hother, heq⟩ := ih segment hsegment
      exact ⟨other, List.mem_cons_of_mem item hother, heq⟩
    | some mark =>
      simp only [cut, hitem, List.mem_cons] at hsegment
      rcases hsegment with rfl | hsegment
      · exact ⟨item, List.mem_cons_self, hitem⟩
      · obtain ⟨other, hother, heq⟩ := ih segment hsegment
        exact ⟨other, List.mem_cons_of_mem item hother, heq⟩

private theorem readChain_level {op : BinaryOp} {read : List Item → Option Expr}
    (hread : ∀ items e, read items = some e → op.level < e.level) {items : List Item} {e : Expr}
    (h : readChain op read items = some e) : op.level ≤ e.level := by
  unfold readChain at h
  obtain ⟨first, hfirst, hfold⟩ := Option.bind_eq_some_iff.mp h
  refine foldlM_option_induction (P := fun e => op.level ≤ e.level) ?_ ?_ hfold
  · intro left segment _ whole _ hwhole
    obtain ⟨right, _, rfl⟩ := Option.map_eq_some_iff.mp hwhole
    exact Nat.le_refl _
  · exact Nat.le_of_lt (hread _ _ hfirst)

private theorem readPrimary_level {items : List Item} {e : Expr} (h : readPrimary items = some e) :
    e.level = 6 := by
  unfold readPrimary at h
  split at h <;> cases h <;> rfl

private theorem readConcat_level {items : List Item} {e : Expr} (h : readConcat items = some e) :
    5 ≤ e.level := by
  apply readChain_level (fun items e h => ?_) h
  rw [readPrimary_level h]
  decide

private theorem Item.testWord?_compare {item : Item} {op : BinaryOp}
    (h : item.testWord? = some (.compare op)) : op.level = 4 := by
  unfold testWord? at h
  split at h <;> cases h <;> rfl

private theorem addTest_level {read whole : Expr × Bool} {segment : TestWord × List Item}
    (hword : ∀ op, segment.1 = .compare op → op.level = 4) (hread : 4 ≤ read.1.level)
    (h : addTest read segment = some whole) : 4 ≤ whole.1.level := by
  unfold addTest at h
  split at h
  · obtain ⟨right, _, rfl⟩ := Option.map_eq_some_iff.mp h
    exact Nat.le_of_eq (hword _ rfl).symm
  · cases h
    exact Nat.le_refl 4
  · cases h
    exact hread
  · cases h
    exact Nat.le_refl 4
  · cases h
    exact Nat.le_refl 4
  · obtain ⟨pattern, _, rfl⟩ := Option.map_eq_some_iff.mp h
    exact Nat.le_refl 4
  · split at h
    · cases h
      exact Nat.le_refl 4
    · exact nomatch h
  · exact nomatch h

private theorem readTests_level {items : List Item} {e : Expr} (h : readTests items = some e) :
    4 ≤ e.level := by
  have htests := testsOf_of_readTests h
  unfold testsOf at htests
  obtain ⟨first, hfirst, hfold⟩ := Option.bind_eq_some_iff.mp htests
  refine foldlM_option_induction (P := fun read => 4 ≤ read.1.level) ?_ ?_ hfold
  · intro read segment hsegment whole hread hwhole
    obtain ⟨item, _, hitem⟩ := mem_cut segment hsegment
    refine addTest_level (fun op hop => ?_) hread hwhole
    exact Item.testWord?_compare (hop ▸ hitem)
  · exact Nat.le_of_lt (readConcat_level hfirst)

private theorem readNot_level {items : List Item} {e : Expr} (h : readNot items = some e) :
    3 ≤ e.level := by
  unfold readNot at h
  split at h
  · obtain ⟨operand, _, rfl⟩ := Option.map_eq_some_iff.mp h
    exact Nat.le_refl 3
  · exact Nat.le_of_lt (readTests_level h)

private theorem readAnd_level {items : List Item} {e : Expr} (h : readAnd items = some e) :
    2 ≤ e.level := by
  have hnot : ∀ items e, readNot items = some e → BinaryOp.and.level < e.level :=
    fun _ _ h => readNot_level h
  exact readChain_level hnot h

private theorem Item.eq_word_of_mark? {token : Token} {item : Item} {mark : Unit}
    (h : item.mark? token = some mark) : item = .word token := by
  unfold mark? at h
  split at h
  · split at h
    · rename_i heq
      rw [heq]
    · exact nomatch h
  · exact nomatch h

private theorem lacks_or_last (token : Token) (items : List Item) :
    Lacks (Item.mark? token) items ∨ ∃ before after,
      Lacks (Item.mark? token) after ∧ items = before ++ .word token :: after := by
  induction items with
  | nil => exact Or.inl lacks_nil
  | cons item rest ih =>
    rcases ih with hrest | ⟨before, after, hafter, rfl⟩
    · cases hitem : item.mark? token with
      | none => exact Or.inl (lacks_cons.mpr ⟨hitem, hrest⟩)
      | some mark =>
        exact Or.inr ⟨[], rest, hrest, by rw [Item.eq_word_of_mark? hitem, List.nil_append]⟩
    · exact Or.inr ⟨item :: before, after, hafter, rfl⟩

private theorem items_induction (token : Token) {motive : List Item → Prop}
    (lacks : ∀ items, Lacks (Item.mark? token) items → motive items)
    (last : ∀ before after, Lacks (Item.mark? token) after → motive before →
      motive (before ++ .word token :: after)) (items : List Item) : motive items := by
  -- The induction is on the number of items: fewer of them stand before the last such token.
  rcases lacks_or_last token items with h | ⟨before, after, hafter, rfl⟩
  · exact lacks items h
  · exact last before after hafter (items_induction token lacks last before)
termination_by items.length

namespace Expr

/-- Two conditions that offer no alternatives, with AND between them. -/
def andAfter (e : Expr) : Expr → Expr
  | .binary .and left right => (e.andAfter left).and right
  | f => e.and f

/-- A condition before AND: only its last alternative is part of the conjunction. -/
def andLast (e f : Expr) : Expr :=
  match e with
  | .binary .or left right => left.or (right.andAfter f)
  | e => e.andAfter f

/-- What two conditions with AND between them are read as, without parentheses around them: the
last alternative of the first together with the first alternative of the second, or any other. -/
def andBare (e : Expr) : Expr → Expr
  | .binary .or left right => (e.andBare left).or right
  | f => e.andLast f

private theorem andAfter_of_level (e : Expr) {f : Expr} (h : 3 ≤ f.level) :
    e.andAfter f = e.and f := by
  unfold andAfter
  split
  · exact absurd h (by simp [level, BinaryOp.level])
  · rfl

def isDisjunction : Expr → Bool
  | .binary .or _ _ => true
  | _ => false

private theorem isDisjunction_of_level {e : Expr} (h : 2 ≤ e.level) : e.isDisjunction = false := by
  unfold isDisjunction
  split
  · exact absurd h (by simp [level, BinaryOp.level])
  · rfl

private theorem andLast_eq_andAfter {e : Expr} (h : e.isDisjunction = false) (f : Expr) :
    e.andLast f = e.andAfter f := by
  unfold andLast
  split
  · exact nomatch h
  · rfl

private theorem andBare_eq_andLast (e : Expr) {f : Expr} (h : f.isDisjunction = false) :
    e.andBare f = e.andLast f := by
  unfold andBare
  split
  · exact nomatch h
  · rfl

private theorem isDisjunction_andAfter (e f : Expr) : (e.andAfter f).isDisjunction = false := by
  unfold andAfter
  split <;> rfl

end Expr

private theorem readAnd_not_isDisjunction {items : List Item} {e : Expr}
    (h : readAnd items = some e) : e.isDisjunction = false :=
  Expr.isDisjunction_of_level (readAnd_level h)

private theorem readAnd_append (before : List Item) {after : List Item}
    (h : Lacks (Item.mark? BinaryOp.and.token) after) :
    readAnd (before ++ .word (.keyword .and) :: after) =
      (readAnd before).bind fun e => (readNot after).map e.and :=
  readChain_append before h

private theorem readExpr_append (before : List Item) {after : List Item}
    (h : Lacks (Item.mark? BinaryOp.or.token) after) :
    readExpr (before ++ .word (.keyword .or) :: after) =
      (readExpr before).bind fun e => (readAnd after).map e.or :=
  readChain_append before h

private theorem readAnd_and (items others : List Item) :
    readAnd (items ++ .word (.keyword .and) :: others) =
      (readAnd items).bind fun e => (readAnd others).map e.andAfter := by
  induction others using items_induction BinaryOp.and.token with
  | lacks others h =>
    have hothers : readAnd others = readNot others := readChain_of_lacks h
    rw [readAnd_append items h, hothers]
    cases hread : readNot others with
    | none => simp
    | some f => simp [Expr.andAfter_of_level _ (readNot_level hread)]
  | last before after h ih =>
    have hwhole := readAnd_append (items ++ .word (.keyword .and) :: before) h
    rw [List.append_assoc, List.cons_append] at hwhole
    change readAnd (items ++ .word (.keyword .and) :: (before ++ .word (.keyword .and) :: after)) =
      (readAnd items).bind fun e => (readAnd (before ++ .word (.keyword .and) :: after)).map e.andAfter
    rw [hwhole, readAnd_append before h, ih]
    cases readAnd items <;> cases readAnd before <;> cases readNot after <;> rfl

private theorem readExpr_and_of_lacks (items : List Item) {others : List Item}
    (h : Lacks (Item.mark? BinaryOp.or.token) others) :
    readExpr (items ++ .word (.keyword .and) :: others) =
      (readExpr items).bind fun e => (readAnd others).map e.andLast := by
  have hmark : (Item.word (.keyword .and)).mark? BinaryOp.or.token = none := rfl
  have hlacks : ∀ {after}, Lacks (Item.mark? BinaryOp.or.token) after →
      Lacks (Item.mark? BinaryOp.or.token) (after ++ .word (.keyword .and) :: others) :=
    fun hafter => lacks_append.mpr ⟨hafter, lacks_cons.mpr ⟨hmark, h⟩⟩
  induction items using items_induction BinaryOp.or.token with
  | lacks items hitems =>
    have hfirst : readExpr items = readAnd items := readChain_of_lacks hitems
    have hwhole : readExpr (items ++ .word (.keyword .and) :: others) =
        readAnd (items ++ .word (.keyword .and) :: others) := readChain_of_lacks (hlacks hitems)
    rw [hwhole, hfirst, readAnd_and]
    cases hread : readAnd items with
    | none => rfl
    | some e =>
      have hlast : e.andLast = e.andAfter :=
        funext (Expr.andLast_eq_andAfter (readAnd_not_isDisjunction hread))
      simp [hlast]
  | last before after hafter _ =>
    have hwhole := readExpr_append before (hlacks hafter)
    rw [readAnd_and] at hwhole
    change readExpr ((before ++ .word (.keyword .or) :: after) ++ .word (.keyword .and) :: others) =
      (readExpr (before ++ .word (.keyword .or) :: after)).bind
        fun e => (readAnd others).map e.andLast
    rw [List.append_assoc, List.cons_append, hwhole, readExpr_append before hafter]
    cases readExpr before <;> cases readAnd after <;> cases readAnd others <;> rfl

private theorem readExpr_and (items others : List Item) :
    readExpr (items ++ .word (.keyword .and) :: others) =
      (readExpr items).bind fun e => (readExpr others).map e.andBare := by
  induction others using items_induction BinaryOp.or.token with
  | lacks others h =>
    have hothers : readExpr others = readAnd others := readChain_of_lacks h
    rw [readExpr_and_of_lacks items h, hothers]
    cases hread : readAnd others with
    | none => simp
    | some f => simp [Expr.andBare_eq_andLast _ (readAnd_not_isDisjunction hread)]
  | last before after h ih =>
    have hwhole := readExpr_append (items ++ .word (.keyword .and) :: before) h
    rw [List.append_assoc, List.cons_append] at hwhole
    change readExpr (items ++ .word (.keyword .and) :: (before ++ .word (.keyword .or) :: after)) =
      (readExpr items).bind fun e => (readExpr (before ++ .word (.keyword .or) :: after)).map e.andBare
    rw [hwhole, readExpr_append before h, ih]
    cases readExpr items <;> cases readExpr before <;> cases readAnd after <;> rfl

/-- What tokens are read as where a condition is expected. -/
def Expr.ofTokens? (tokens : List Token) : Option Expr :=
  (readItems tokens).bind readExpr

private theorem Expr.ofTokens?_space (tokens : List Token) :
    Expr.ofTokens? (.space :: tokens) = Expr.ofTokens? tokens := by
  simp [ofTokens?, readItems]

private theorem Expr.ofTokens?_lineEnd {tokens lineEnd : List Token}
    (h : Nests Token.isInner tokens) (hline : lineEnd = [] ∨ lineEnd = [.newline]) :
    Expr.ofTokens? (tokens ++ lineEnd) = Expr.ofTokens? tokens := by
  have hend : Nests Token.isInner lineEnd := by
    rcases hline with rfl | rfl <;> exact .of_all rfl
  have hitems : readItems lineEnd = some [] := by
    rcases hline with rfl | rfl <;> rfl
  unfold ofTokens?
  rw [h.readItems_append hend, hitems]
  cases readItems tokens <;> simp

private theorem Expr.ofTokens?_and {tokens others : List Token} (h : Nests Token.isInner tokens)
    (hothers : Nests Token.isInner others) :
    Expr.ofTokens? (tokens ++ .space :: .keyword .and :: .space :: others) =
      (Expr.ofTokens? tokens).bind fun e => (Expr.ofTokens? others).map e.andBare := by
  have hand : Nests Token.isInner [.space, .keyword .and, .space] := .of_all rfl
  have hitems : readItems (tokens ++ .space :: .keyword .and :: .space :: others) =
      (readItems tokens).bind fun items =>
        (readItems others).map fun more => items ++ .word (.keyword .and) :: more := by
    have hright := hand.readItems_append hothers
    have hwhole := h.readItems_append (hand.append hothers)
    rw [hright] at hwhole
    simpa [readItems, Function.comp_def] using hwhole
  unfold Expr.ofTokens?
  rw [hitems]
  cases readItems tokens <;> cases readItems others <;> simp [readExpr_and]

/-- What a condition is read as that is written by itself. -/
def Expr.reread? (e : Expr) : Option Expr :=
  Expr.ofTokens? e.tokens

private theorem Expr.reread?_and (e f : Expr) :
    (e.and f).reread? = e.reread?.bind fun e' => f.reread?.map e'.andBare :=
  Expr.ofTokens?_and e.nests f.nests

/-- What conditions are read as that stand one after another with AND between them. -/
def inSequence : List Expr → Option Expr
  | [] => none
  | first :: rest => some (rest.foldl Expr.andBare first)

private theorem Expr.reread?_foldl_and (first : Expr) (rest : List Expr) :
    (rest.foldl Expr.and first).reread? = ((first :: rest).mapM Expr.reread?).bind inSequence := by
  induction rest generalizing first with
  | nil => cases h : first.reread? <;> simp [h, inSequence]
  | cons second rest ih =>
    rw [List.foldl_cons, ih]
    simp only [List.mapM_cons, Expr.reread?_and, Option.bind_eq_bind, Option.pure_def]
    cases first.reread? <;> cases second.reread? <;> cases rest.mapM Expr.reread? <;>
      simp [inSequence]

section Holds

variable {c : Collation} {db : Database} {group : Multiset Env} {env : Env}

namespace Expr

private theorem holds_andAfter (e f : Expr) :
    (e.andAfter f).Holds c db group env ↔ e.Holds c db group env ∧ f.Holds c db group env := by
  fun_induction andAfter e f with
  | case1 left right ih =>
    change _ ↔ _ ∧ (left.and right).Holds c db group env
    rw [holds_and, holds_and, ih, and_assoc]
  | case2 f h => exact holds_and e f

private theorem holds_andLast {e f : Expr} (he : e.Holds c db group env)
    (hf : f.Holds c db group env) : (e.andLast f).Holds c db group env := by
  unfold andLast
  split
  · rename_i left right
    rcases (holds_or left right).mp he with hleft | hright
    · exact (holds_or left _).mpr (Or.inl hleft)
    · exact (holds_or left _).mpr (Or.inr ((holds_andAfter right f).mpr ⟨hright, hf⟩))
  · exact (holds_andAfter e f).mpr ⟨he, hf⟩

private theorem holds_andBare {e f : Expr} (he : e.Holds c db group env)
    (hf : f.Holds c db group env) : (e.andBare f).Holds c db group env := by
  fun_induction andBare e f with
  | case1 left right ih =>
    rw [holds_or]
    exact ((holds_or left right).mp hf).imp_left ih
  | case2 f h => exact holds_andLast he hf

private theorem andBare_or {left : Expr} (h : left.Holds c db group env) (right f : Expr) :
    ∃ left' right' : Expr, (left.or right).andBare f = left'.or right' ∧
      left'.Holds c db group env := by
  fun_induction andBare (left.or right) f with
  | case1 first second ih =>
    obtain ⟨left', right', heq, hleft'⟩ := ih
    refine ⟨(left.or right).andBare first, second, rfl, ?_⟩
    rw [heq]
    exact (holds_or left' right').mpr (Or.inl hleft')
  | case2 f _ => exact ⟨left, right.andAfter f, rfl, h⟩

end Expr

private theorem holds_foldl_andBare {first : Expr} {rest : List Expr}
    (hfirst : first.Holds c db group env) (hrest : ∀ e ∈ rest, e.Holds c db group env) :
    (rest.foldl Expr.andBare first).Holds c db group env := by
  induction rest generalizing first with
  | nil => exact hfirst
  | cons second rest ih =>
    rw [List.forall_mem_cons] at hrest
    exact ih (Expr.holds_andBare hfirst hrest.1) hrest.2

private theorem holds_foldl_andBare_of_left {left : Expr} (hleft : left.Holds c db group env)
    (right : Expr) (rest : List Expr) :
    (rest.foldl Expr.andBare (left.or right)).Holds c db group env := by
  induction rest generalizing left right with
  | nil => exact (Expr.holds_or left right).mpr (Or.inl hleft)
  | cons f rest ih =>
    obtain ⟨left', right', heq, hleft'⟩ := Expr.andBare_or hleft right f
    rw [List.foldl_cons, heq]
    exact ih hleft' right'

private theorem holds_foldl_andBare_iff {first : Expr} {rest : List Expr}
    (hfirst : first.isDisjunction = false) (hrest : ∀ e ∈ rest, e.isDisjunction = false) :
    (rest.foldl Expr.andBare first).Holds c db group env ↔
      first.Holds c db group env ∧ ∀ e ∈ rest, e.Holds c db group env := by
  induction rest generalizing first with
  | nil => simp
  | cons second rest ih =>
    rw [List.forall_mem_cons] at hrest
    rw [List.foldl_cons, Expr.andBare_eq_andLast first hrest.1, Expr.andLast_eq_andAfter hfirst,
      ih (Expr.isDisjunction_andAfter first second) hrest.2, Expr.holds_andAfter,
      List.forall_mem_cons, and_assoc]

end Holds

/-- Whether what is written can be read as a condition that is true of a row. -/
def TrueOf (c : Collation) (db : Database) (group : Multiset Env) (env : Env)
    (tokens : List Token) : Prop :=
  ∃ e, Expr.ofTokens? tokens = some e ∧ e.Holds c db group env

/-- Conditions put one after another, in each of the three ways, with the tokens of the condition
that is written for them, if any is. -/
inductive Accumulated (conditions : List Expr) : Option (List Token) → Prop where
  | list : Accumulated conditions ((Expr.conjunction? conditions).map Expr.tokens)
  | query (base : Query) (added : List Expr) (h : base.filter.toList ++ added = conditions) :
      Accumulated conditions (whereClause? (added.foldl Query.filtered base).tokens)
  | update (base : Update) (added : List Expr) (h : base.filter.toList ++ added = conditions) :
      Accumulated conditions (whereClause? (added.foldl Update.filtered base).tokens)

private theorem Expr.conjunction?_conjoin (existing : Option Expr) (condition : Expr)
    (rest : List Expr) :
    conjunction? ((some (conjoin existing condition)).toList ++ rest) =
      conjunction? (existing.toList ++ condition :: rest) := by
  cases existing <;> rfl

private theorem Expr.foldl_conjoin (existing : Option Expr) (added : List Expr) :
    added.foldl (fun filter condition => some (conjoin filter condition)) existing =
      conjunction? (existing.toList ++ added) := by
  induction added generalizing existing with
  | nil => cases existing <;> rfl
  | cons condition rest ih =>
    rw [List.foldl_cons, ih]
    exact conjunction?_conjoin existing condition rest

private theorem Query.filter_foldl_filtered (base : Query) (added : List Expr) :
    (added.foldl filtered base).filter = Expr.conjunction? (base.filter.toList ++ added) := by
  rw [← Expr.foldl_conjoin]
  exact (List.foldl_hom (fun query : Query => query.filter) fun _ _ => rfl).symm

private theorem Update.filter_foldl_filtered (base : Update) (added : List Expr) :
    (added.foldl filtered base).filter = Expr.conjunction? (base.filter.toList ++ added) := by
  rw [← Expr.foldl_conjoin]
  exact (List.foldl_hom Update.filter fun _ _ => rfl).symm

private theorem Accumulated.eq_map {conditions : List Expr} {clause : Option (List Token)}
    (h : Accumulated conditions clause) : ∃ written : Expr → List Token,
      clause = (Expr.conjunction? conditions).map written ∧
        ∀ e, Expr.ofTokens? (written e) = e.reread? := by
  cases h with
  | list => exact ⟨Expr.tokens, rfl, fun _ => rfl⟩
  | query base added h =>
    obtain ⟨lineEnd, hline, hclause⟩ := (added.foldl Query.filtered base).whereClause?_tokens
    rw [Query.filter_foldl_filtered, h] at hclause
    refine ⟨_, hclause, fun e => ?_⟩
    rw [Expr.ofTokens?_space, Expr.ofTokens?_lineEnd e.nests hline]
    rfl
  | update base added h =>
    have hclause := (added.foldl Update.filtered base).whereClause?_tokens
    rw [Update.filter_foldl_filtered, h] at hclause
    exact ⟨_, hclause, fun e => Expr.ofTokens?_space e.tokens⟩

private theorem mapM_reread?_cons {e : Expr} {rest read : List Expr} :
    (e :: rest).mapM Expr.reread? = some read ↔
      ∃ f fs, e.reread? = some f ∧ rest.mapM Expr.reread? = some fs ∧ read = f :: fs := by
  simp only [List.mapM_cons, Option.bind_eq_bind, Option.pure_def, Option.bind_eq_some_iff,
    Option.some.injEq]
  constructor
  · rintro ⟨f, hf, fs, hfs, rfl⟩
    exact ⟨f, fs, hf, hfs, rfl⟩
  · rintro ⟨f, fs, hf, hfs, rfl⟩
    exact ⟨f, hf, fs, hfs, rfl⟩

private theorem mem_of_mapM_reread? {conditions read : List Expr}
    (h : conditions.mapM Expr.reread? = some read) :
    ∀ f ∈ read, ∃ e ∈ conditions, e.reread? = some f := by
  induction conditions generalizing read with
  | nil => simp_all
  | cons e rest ih =>
    obtain ⟨first, others, hfirst, hothers, rfl⟩ := mapM_reread?_cons.mp h
    rw [List.forall_mem_cons]
    refine ⟨⟨e, List.mem_cons_self, hfirst⟩, fun f hf => ?_⟩
    obtain ⟨e', he', hf'⟩ := ih hothers f hf
    exact ⟨e', List.mem_cons_of_mem e he', hf'⟩

private theorem forall_trueOf_iff {c : Collation} {db : Database} {group : Multiset Env} {env : Env}
    {conditions : List Expr} : (∀ e ∈ conditions, TrueOf c db group env e.tokens) ↔
      ∃ read, conditions.mapM Expr.reread? = some read ∧ ∀ f ∈ read, f.Holds c db group env := by
  induction conditions with
  | nil => simp
  | cons e rest ih =>
    rw [List.forall_mem_cons, ih]
    constructor
    · rintro ⟨⟨f, hf, hholds⟩, others, hothers, hall⟩
      exact ⟨f :: others, mapM_reread?_cons.mpr ⟨f, others, hf, hothers, rfl⟩,
        List.forall_mem_cons.mpr ⟨hholds, hall⟩⟩
    · rintro ⟨read, hread, hall⟩
      obtain ⟨f, others, hf, hothers, rfl⟩ := mapM_reread?_cons.mp hread
      rw [List.forall_mem_cons] at hall
      exact ⟨⟨f, hf, hall.1⟩, others, hothers, hall.2⟩

/-- Whether what is written is true of the rows of which all conditions are true, each by itself. -/
def IsConjunction (conditions : List Expr) (clause : Option (List Token)) : Prop :=
  ∀ (c : Collation) (db : Database) (group : Multiset Env) (env : Env),
    (∀ tokens ∈ clause, TrueOf c db group env tokens) ↔
      ∀ e ∈ conditions, TrueOf c db group env e.tokens

private theorem Accumulated.reading {first : Expr} {rest : List Expr} {clause : Option (List Token)}
    (h : Accumulated (first :: rest) clause) : ∃ tokens, clause = some tokens ∧
      Expr.ofTokens? tokens = ((first :: rest).mapM Expr.reread?).bind inSequence := by
  obtain ⟨written, rfl, hwritten⟩ := h.eq_map
  exact ⟨_, rfl, by rw [hwritten, Expr.reread?_foldl_and]⟩

/-- Conditions put one after another are read by what each of them is read as, where AND takes the
alternatives next to it only. A row of which all of them are true is let through. No other row is, if
there is one condition at most or if none of them offers alternatives. -/
theorem accumulated_conditions {conditions : List Expr} {clause : Option (List Token)}
    (h : Accumulated conditions clause) :
    (clause = none ↔ conditions = []) ∧
    (∀ tokens ∈ clause, Expr.ofTokens? tokens =
      (conditions.mapM Expr.reread?).bind inSequence) ∧
    (∀ (c : Collation) (db : Database) (group : Multiset Env) (env : Env),
      (∀ e ∈ conditions, TrueOf c db group env e.tokens) →
        ∀ tokens ∈ clause, TrueOf c db group env tokens) ∧
    ((conditions.length ≤ 1 ∨ ∀ e ∈ conditions, ∀ f ∈ e.reread?, f.isDisjunction = false) →
      IsConjunction conditions clause) := by
  cases conditions with
  | nil =>
    obtain ⟨written, rfl, _⟩ := h.eq_map
    simp [Expr.conjunction?, IsConjunction]
  | cons first rest =>
    obtain ⟨tokens, rfl, hread⟩ := h.reading
    have hall : ∀ c db group env, (∀ e ∈ first :: rest, TrueOf c db group env e.tokens) →
        TrueOf c db group env tokens := by
      intro c db group env hall
      obtain ⟨read, hmap, hholds⟩ := forall_trueOf_iff.mp hall
      obtain ⟨f, fs, _, _, rfl⟩ := mapM_reread?_cons.mp hmap
      rw [hmap, Option.bind_some] at hread
      rw [List.forall_mem_cons] at hholds
      exact ⟨_, hread, holds_foldl_andBare hholds.1 hholds.2⟩
    simp only [Option.mem_some_iff, forall_eq', IsConjunction]
    refine ⟨by simp, hread, hall, fun hplain c db group env => ⟨fun htrue => ?_, hall c db group env⟩⟩
    obtain ⟨e, he, hholds⟩ := htrue
    obtain ⟨read, hmap, hseq⟩ := Option.bind_eq_some_iff.mp (hread.symm.trans he)
    obtain ⟨f, fs, _, hrest, rfl⟩ := mapM_reread?_cons.mp hmap
    obtain rfl := Option.some.inj hseq
    rw [forall_trueOf_iff]
    refine ⟨f :: fs, hmap, ?_⟩
    rcases hplain with hone | hplain
    · obtain rfl : rest = [] := by simpa using hone
      obtain rfl : [] = fs := by simpa using hrest
      simpa using hholds
    · have hnone : ∀ g ∈ f :: fs, g.isDisjunction = false := by
        intro g hg
        obtain ⟨e, he, hg⟩ := mem_of_mapM_reread? hmap g hg
        exact hplain e he g hg
      rw [List.forall_mem_cons] at hnone ⊢
      exact (holds_foldl_andBare_iff hnone.1 hnone.2).mp hholds

theorem accumulated_conditions_sample :
    let conditions : List Expr := [.isNull (.bare "a") false, .not (.isNull (.bare "b") false)]
    let update : Update := { table := "t", assignments := [("c", .boolLiteral true)] }
    IsConjunction conditions (whereClause? (conditions.foldl Update.filtered update).tokens) := by
  intro conditions update
  have h : Accumulated conditions (whereClause? (conditions.foldl Update.filtered update).tokens) :=
    .update update conditions rfl
  apply (accumulated_conditions h).2.2.2
  refine Or.inr fun e he f hf => ?_
  simp only [conditions, List.mem_cons, List.not_mem_nil, or_false] at he
  rcases he with rfl | rfl <;> cases hf <;> rfl

private theorem alternative_let_through {first left right : Expr} {rest : List Expr}
    {clause : Option (List Token)} (h : Accumulated (first :: rest) clause)
    (hfirst : first.reread? = some (left.or right)) {others : List Expr}
    (hrest : rest.mapM Expr.reread? = some others)
    {c : Collation} {db : Database} {group : Multiset Env} {env : Env}
    (hleft : left.Holds c db group env) : ∀ tokens ∈ clause, TrueOf c db group env tokens := by
  obtain ⟨tokens, rfl, hread⟩ := h.reading
  rw [mapM_reread?_cons.mpr ⟨_, _, hfirst, hrest, rfl⟩] at hread
  rintro _ ⟨⟩
  -- What stands before the last OR is an alternative of the whole clause, whatever comes after it.
  exact ⟨_, hread, holds_foldl_andBare_of_left hleft right others⟩

theorem conjunction_lost :
    let conditions : List Expr :=
      [(Expr.isNull (.bare "a") false).or (.isNull (.bare "b") false), .isNull (.bare "c") false]
    let query : Query := { select := [{ expr := .bare "a" }], source := some { table := "t" } }
    let update : Update := { table := "t", assignments := [("d", .boolLiteral true)] }
    ¬ IsConjunction conditions ((Expr.conjunction? conditions).map Expr.tokens) ∧
    ¬ IsConjunction conditions (whereClause? (conditions.foldl Query.filtered query).tokens) ∧
    ¬ IsConjunction conditions (whereClause? (conditions.foldl Update.filtered update).tokens) := by
  intro conditions query update
  have hlost : ∀ clause, Accumulated conditions clause → ¬ IsConjunction conditions clause := by
    intro clause h hconj
    let row : Record := fun name => if name = "c" then .int 1 else .null
    have hleft : (Expr.isNull (.bare "a") false).Holds .plain (fun _ => 0) 0 [("t", row)] :=
      (Expr.holds_isNull _).mpr rfl
    have hrest : [Expr.isNull (.bare "c") false].mapM Expr.reread? =
        some [.isNull (.bare "c") false] := rfl
    have hall := (hconj .plain (fun _ => 0) 0 [("t", row)]).mp
      (alternative_let_through h rfl hrest hleft)
    obtain ⟨e, he, hholds⟩ := hall (.isNull (.bare "c") false) (by simp [conditions])
    cases he
    exact nomatch (Expr.holds_isNull _).mp hholds
  exact ⟨hlost _ .list, hlost _ (.query query conditions rfl), hlost _ (.update update conditions rfl)⟩

end TenantGrid.Sql
