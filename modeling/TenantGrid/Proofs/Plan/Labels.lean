import Mathlib.Algebra.Ring.Nat
import TenantGrid.Proofs.Plan.Paging
/-!
# Artists by label

The label query shares out the artists that a plan selects. Each of them is counted in one row, that of
the label of its current evaluation, and those without a label are counted in one row as well.
-/
namespace TenantGrid

open Sql (Collation Database Env Expr Query Record Selected Value)

section Current

variable (c : Collation) (db : Database) (artist : Record)

/-- The label of the evaluation that an artist points at, NULL without one. -/
def currentLabel : Value :=
  soleValue (evaluationRows c db artist) "label"

/-- The evaluation that an artist points at, a row of NULLs without one. -/
def currentEvaluation : Record :=
  (soleRow? (evaluationRows c db artist)).getD Sql.nullRecord

/-- An artist with its current evaluation. -/
def evaluatedRow : Env :=
  [(Schema.artists.name, artist), (currentEvaluationAlias, currentEvaluation c db artist)]

end Current

private theorem matchingRows_left {rows : Multiset Record} {holds : Record → Bool}
    (h : (rows.filter fun row => holds row).card ≤ 1) :
    Sql.matchingRows .left rows holds =
      {(soleRow? (rows.filter fun row => holds row)).getD Sql.nullRecord} := by
  unfold Sql.matchingRows
  rcases Nat.le_one_iff_eq_zero_or_eq_one.mp h with hcard | hcard
  · rw [Multiset.card_eq_zero.mp hcard]
    rfl
  · obtain ⟨row, hrow⟩ := Multiset.card_eq_one.mp hcard
    rw [hrow]
    rfl

section Rows

variable {c : Collation} {db : Database}

private theorem currentEvaluation_label (artist : Record) :
    currentEvaluation c db artist "label" = currentLabel c db artist := by
  unfold currentEvaluation currentLabel soleValue
  cases soleRow? (evaluationRows c db artist) <;> rfl

/-- The join that adds their current evaluations to artists. -/
def evaluationJoin : Sql.Join Expr :=
  ⟨.left, { table := Schema.evaluations.name, aliasName := some currentEvaluationAlias },
    (Expr.ofTable currentEvaluationAlias "id").eq (.ofTable Schema.artists.name "evaluation_id")⟩

private theorem lookup_evaluation (artist evaluation : Record) :
    List.lookup currentEvaluationAlias
      [(Schema.artists.name, artist), (currentEvaluationAlias, evaluation)] = some evaluation := by
  have hname : (currentEvaluationAlias == Schema.artists.name) = false := by decide
  simp [List.lookup_cons, hname]

private theorem evaluationJoin_holds (group : Multiset Env) (artist evaluation : Record) :
    evaluationJoin.condition.Holds c db group
        [(Schema.artists.name, artist), (currentEvaluationAlias, evaluation)] ↔
      c.Same (evaluation "id") (artist "evaluation_id") := by
  rw [evaluationJoin, Expr.holds_eq, Expr.value_ofTable, Expr.value_ofTable, Sql.readColumn,
    lookup_evaluation]
  simp [Sql.readColumn]

private theorem joinMatches_evaluations (h : IsUnique c (db Schema.evaluations.name) "id")
    (artist : Record) :
    Sql.joinMatches c db evaluationJoin [] [(Schema.artists.name, artist)] =
      {currentEvaluation c db artist} := by
  let holds (evaluation : Record) : Bool := c.Same (evaluation "id") (artist "evaluation_id")
  have hrows : ((db Schema.evaluations.name).filter fun evaluation => holds evaluation) =
      evaluationRows c db artist := by
    simp only [holds, decide_eq_true_eq, evaluationRows]
  have hmatches : Sql.joinMatches c db evaluationJoin [] [(Schema.artists.name, artist)] =
      Sql.matchingRows .left (db Schema.evaluations.name) holds :=
    congrArg (Sql.matchingRows .left (db Schema.evaluations.name))
      (funext fun evaluation => decide_eq_decide.mpr (evaluationJoin_holds _ artist evaluation))
  rw [hmatches, matchingRows_left (by rw [hrows]; exact h _), hrows, currentEvaluation]

private theorem joinedRows_evaluations (h : IsUnique c (db Schema.evaluations.name) "id") :
    Sql.joinedRows c db [evaluationJoin] []
        (Sql.sourceRows db (some { table := Schema.artists.name })) =
      (db Schema.artists.name).map (evaluatedRow c db) := by
  rw [Sql.joinedRows_cons, Sql.joinedRows, Sql.sourceRows, Multiset.bind_map]
  refine (Multiset.bind_congr fun artist _ => ?_).trans (Multiset.bind_singleton _ _)
  rw [Sql.TableRef.referenceName, Option.getD_none, joinMatches_evaluations h]
  rfl

end Rows

namespace FilterPlan

variable (c : Collation) (db : Database)

instance (plan : FilterPlan) (artist : Record) : Decidable (plan.Selects c db artist) :=
  Multiset.decidableExistsMultiset

/-- The artists that a plan selects. -/
def selected (plan : FilterPlan) : Multiset Record :=
  (db Schema.artists.name).filter (plan.Selects c db)

/-- The ids of the selected artists with a label. -/
def labelledIds (plan : FilterPlan) (label : Value) : Multiset Value :=
  (((plan.selected c db).filter fun artist => currentLabel c db artist = label).map
    fun artist => artist "id").dedup

variable {c db} {plan : FilterPlan}

private theorem mem_selected {artist : Record} :
    artist ∈ plan.selected c db ↔ artist ∈ db Schema.artists.name ∧ plan.Selects c db artist :=
  Multiset.mem_filter

private theorem mem_labelledIds {label id : Value} :
    id ∈ plan.labelledIds c db label ↔
      ∃ artist ∈ plan.selected c db, currentLabel c db artist = label ∧ artist "id" = id := by
  simp [labelledIds, and_assoc]

private theorem meets_idQuery (hplan : plan.IsScoped)
    (hartists : IsUnique c (db Schema.artists.name) "id")
    {artist : Record} (hartist : artist ∈ db Schema.artists.name) :
    Sql.meets c db (some (.inQuery artistId plan.idQuery false)) (evaluatedRow c db artist) = true ↔
      plan.Selects c db artist := by
  have hid : ∀ group, artistId.value c db group (evaluatedRow c db artist) = artist "id" :=
    fun group => artistId_value (by simp [evaluatedRow])
  have hids : Sql.meets c db (some (.inQuery artistId plan.idQuery false)) (evaluatedRow c db artist) =
      true ↔ ∃ id ∈ plan.keptIds c db plan.joins, c.Same (artist "id") id := by
    rw [Sql.meets, decide_eq_true_eq, ← Expr.Holds, Expr.holds_inQuery, idQuery_results hplan, hid]
    simp
  rw [hids]
  constructor
  · rintro ⟨id, hid, hsame⟩
    obtain ⟨other, hother, hselects, rfl⟩ := (mem_keptIds hplan id).mp hid
    rwa [hartists.eq_of_same hartist hother hsame]
  · intro hselects
    have hne := (shows_of_selects hselects).id_ne_null
    exact ⟨artist "id", (mem_keptIds hplan _).mpr ⟨artist, hartist, hselects, rfl⟩, hne, hne, rfl⟩

/-- What the label query makes of the artists with one label. -/
def labelResult (plan : FilterPlan) (c : Collation) (db : Database) (label : Value) : Selected :=
  let count : Value := .int (plan.labelledIds c db label).card
  ⟨[label, count], [count, label]⟩

private theorem labelRows_eq (hplan : plan.IsScoped)
    (hartists : IsUnique c (db Schema.artists.name) "id")
    (hevaluations : IsUnique c (db Schema.evaluations.name) "id") :
    ((Sql.joinedRows c db [evaluationJoin] []
        (Sql.sourceRows db (some { table := Schema.artists.name }))).map (· ++ [])).filter
        (fun env => Sql.meets c db (some (.inQuery artistId plan.idQuery false)) env) =
      (plan.selected c db).map (evaluatedRow c db) := by
  simp only [joinedRows_evaluations hevaluations, List.append_nil, Multiset.map_id',
    Multiset.filter_map, selected]
  exact congrArg _ (Multiset.filter_congr fun artist hartist => meets_idQuery hplan hartists hartist)

private theorem label_value (group : Multiset Env) (artist : Record) :
    (Expr.ofTable currentEvaluationAlias "label").value c db group (evaluatedRow c db artist) =
      currentLabel c db artist := by
  rw [Expr.value_ofTable, Sql.readColumn, evaluatedRow, lookup_evaluation, ← currentEvaluation_label]
  rfl

private theorem countDistinct_labelled (label : Value) (env : Env) :
    artistId.countDistinct.value c db (((plan.selected c db).filter fun artist =>
        currentLabel c db artist = label).map (evaluatedRow c db)) env =
      .int (plan.labelledIds c db label).card := by
  have hid : ∀ artist group, artistId.value c db group (evaluatedRow c db artist) = artist "id" :=
    fun artist group => artistId_value (by simp [evaluatedRow])
  rw [Sql.countDistinct_value, Multiset.map_map, labelledIds]
  · simp only [Function.comp_apply, hid]
  · simp only [Multiset.forall_mem_map_iff, hid, Multiset.mem_filter]
    rintro artist ⟨hselected, _⟩
    exact (shows_of_selects (mem_selected.mp hselected).2).id_ne_null

private theorem labelQuery_results (hplan : plan.IsScoped)
    (hartists : IsUnique c (db Schema.artists.name) "id")
    (hevaluations : IsUnique c (db Schema.evaluations.name) "id") :
    plan.labelQuery.results c db =
      ((plan.selected c db).map (currentLabel c db)).dedup.map (plan.labelResult c db) := by
  let label := Expr.ofTable currentEvaluationAlias "label"
  let key (env : Env) : List Value := Sql.valuesOfEach c db [label] {env} env
  let select (group : Multiset Env) (env : Env) : Selected :=
    ⟨Sql.itemValues c db plan.labelQuery.select group env,
      Sql.keyValues c db plan.labelQuery.orderBy group env⟩
  have hkey : ∀ artist, key (evaluatedRow c db artist) = [currentLabel c db artist] := by
    intro artist
    simp only [key, Sql.valuesOfEach_eq_map, List.map_cons, List.map_nil, label, label_value]
  have hgroups : Sql.groupResults ((plan.selected c db).map (evaluatedRow c db)) key select =
      (((plan.selected c db).map (evaluatedRow c db)).map key).dedup.map
        fun values => plan.labelResult c db (values.headD .null) := by
    refine Sql.groupResults_eq _ fun env henv => ?_
    obtain ⟨artist, _, rfl⟩ := Multiset.mem_map.mp henv
    have hgroup : (((plan.selected c db).map (evaluatedRow c db)).filter fun other =>
        key other = key (evaluatedRow c db artist)) =
        ((plan.selected c db).filter fun other =>
          currentLabel c db other = currentLabel c db artist).map (evaluatedRow c db) := by
      simp only [Multiset.filter_map, Function.comp_apply, hkey, List.cons.injEq, and_true]
    rw [hgroup, hkey]
    simp only [select, labelQuery, Query.filtered, Query.leftJoined, Query.joined, Sql.itemValues,
      Sql.keyValues, countDistinct_labelled, label_value, labelResult, List.headD_cons]
  have hkeys : ((plan.selected c db).map (evaluatedRow c db)).map key =
      ((plan.selected c db).map (currentLabel c db)).map fun label => [label] := by
    rw [Multiset.map_map, Multiset.map_map]
    exact Multiset.map_congr rfl fun artist _ => hkey artist
  rw [hkeys, Multiset.dedup_map_of_injective (List.singleton_injective (α := Value)),
    Multiset.map_map] at hgroups
  have hresults : plan.labelQuery.results c db =
      Sql.groupResults (((Sql.joinedRows c db [evaluationJoin] []
        (Sql.sourceRows db (some { table := Schema.artists.name }))).map (· ++ [])).filter
        fun env => Sql.meets c db (some (.inQuery artistId plan.idQuery false)) env) key select := rfl
  rw [hresults, labelRows_eq hplan hartists hevaluations]
  exact hgroups

/-- The ids of the selected artists under each of some labels. -/
noncomputable def labelGroups (plan : FilterPlan) (c : Collation) (db : Database) (labels : List Value) :
    List (Value × List Value) :=
  labels.map fun label => (label, (plan.labelledIds c db label).toList)

section Groups

variable {labels : List Value}

private theorem mem_labelGroups {group : Value × List Value} :
    group ∈ plan.labelGroups c db labels ↔
      ∃ label ∈ labels, (label, (plan.labelledIds c db label).toList) = group :=
  List.mem_map

private theorem labelGroups_fst : (plan.labelGroups c db labels).map Prod.fst = labels := by
  rw [labelGroups, List.map_map]
  exact List.map_id labels

private theorem label_unique (hartists : IsUnique c (db Schema.artists.name) "id")
    {id label label' : Value} (h : id ∈ plan.labelledIds c db label)
    (h' : id ∈ plan.labelledIds c db label') : label = label' := by
  obtain ⟨artist, hartist, rfl, rfl⟩ := mem_labelledIds.mp h
  obtain ⟨other, hother, rfl, hid⟩ := mem_labelledIds.mp h'
  have hne := (shows_of_selects (mem_selected.mp hartist).2).id_ne_null
  have hsame : c.Same (artist "id") (other "id") := ⟨hne, by rwa [hid], by rw [hid]⟩
  rw [hartists.eq_of_same (mem_selected.mp hartist).1 (mem_selected.mp hother).1 hsame]

variable (hlabels : (labels : Multiset Value) = ((plan.selected c db).map (currentLabel c db)).dedup)

include hlabels

private theorem mem_labels {label : Value} :
    label ∈ labels ↔ ∃ artist ∈ plan.selected c db, currentLabel c db artist = label := by
  rw [← Multiset.mem_coe, hlabels, Multiset.mem_dedup, Multiset.mem_map]

private theorem labelGroups_lists (hplan : plan.IsScoped)
    (hartists : IsUnique c (db Schema.artists.name) "id") :
    plan.Lists c db ((plan.labelGroups c db labels).flatMap Prod.snd) := by
  have hids : (plan.labelGroups c db labels).flatMap Prod.snd =
      labels.flatMap fun label => (plan.labelledIds c db label).toList := by
    rw [labelGroups, List.flatMap_map]
  have hdistinct : labels.Nodup := by
    rw [← Multiset.coe_nodup, hlabels]
    exact Multiset.nodup_dedup _
  have hnodup : (labels.flatMap fun label => (plan.labelledIds c db label).toList).Nodup := by
    refine List.nodup_flatMap.mpr ⟨fun label _ => ?_, hdistinct.imp fun {label label'} hne => ?_⟩
    · rw [← Multiset.coe_nodup, Multiset.coe_toList]
      exact Multiset.nodup_dedup _
    · intro id hid hid'
      exact hne (label_unique hartists (Multiset.mem_toList.mp hid) (Multiset.mem_toList.mp hid'))
  rw [Lists, hids]
  refine (Multiset.Nodup.ext (Multiset.coe_nodup.mpr hnodup) (Multiset.nodup_dedup _)).mpr fun id => ?_
  rw [Multiset.mem_coe, List.mem_flatMap, Multiset.mem_dedup, mem_keptIds hplan]
  simp only [Multiset.mem_toList, mem_labelledIds, mem_labels hlabels]
  constructor
  · rintro ⟨label, _, artist, hartist, _, rfl⟩
    obtain ⟨hmem, hselects⟩ := mem_selected.mp hartist
    exact ⟨artist, hmem, hselects, rfl⟩
  · rintro ⟨artist, hmem, hselects, rfl⟩
    have hartist := mem_selected.mpr ⟨hmem, hselects⟩
    exact ⟨_, ⟨artist, hartist, rfl⟩, artist, hartist, rfl, rfl⟩

end Groups

private theorem labelResult_descending {label label' : Value}
    (h : c.compareKeys plan.labelQuery.orderBy (plan.labelResult c db label).keys
      (plan.labelResult c db label').keys ≠ .gt) :
    (plan.labelledIds c db label').card ≤ (plan.labelledIds c db label).card := by
  let := c.order
  by_contra hlarger
  have hless : Value.int (plan.labelledIds c db label).card < .int (plan.labelledIds c db label').card := by
    rw [← not_le, c.int_le_iff]
    omega
  have hcounts : c.compareValues (.int (plan.labelledIds c db label').card)
      (.int (plan.labelledIds c db label).card) = .gt := (cmp_eq_gt_iff _ _).mpr hless
  apply h
  simp only [labelQuery, Query.filtered, Query.leftJoined, Query.joined, labelResult,
    Collation.compareKeys, Collation.compareKey, Value.isNull_eq, List.headD_cons, Option.getD_some,
    reduceCtorEq, decide_false, hcounts]
  rfl

end FilterPlan

/-- How the rows of a label query share out the selected ids. `groups` has the ids that are counted in
each row, under its label. -/
structure FilterPlan.SharesOut (plan : FilterPlan) (c : Collation) (db : Database)
    (answer : List (List Value)) (groups : List (Value × List Value)) : Prop where
  rows : answer = groups.map fun group => [group.1, .int group.2.length]
  /-- No two rows have the same label. -/
  labels_nodup : (groups.map Prod.fst).Nodup
  mem_labels : ∀ label, label ∈ groups.map Prod.fst ↔ ∃ artist ∈ db Schema.artists.name,
    plan.Selects c db artist ∧ currentLabel c db artist = label
  positive : ∀ group ∈ groups, 0 < group.2.length
  /-- The artists counted in a row are the selected ones with its label. -/
  counted : ∀ group ∈ groups, ∀ id, id ∈ group.2 ↔ ∃ artist ∈ db Schema.artists.name,
    plan.Selects c db artist ∧ currentLabel c db artist = group.1 ∧ artist "id" = id
  once : ∀ artist ∈ db Schema.artists.name, plan.Selects c db artist →
    ∃! group, group ∈ groups ∧ artist "id" ∈ group.2
  ids_nodup : (groups.flatMap Prod.snd).Nodup
  /-- Whatever the sort is, the ids of the plan are those counted in the rows. -/
  ids : ∀ (compiler : Compiler) (sort : List SortItem) (query : Query),
    compiler.idsQuery plan sort = .ok query → ∀ ids, query.IsAnswer c db ids →
      ids.Perm ((groups.flatMap Prod.snd).map fun id => [id])
  total : ∀ counted, plan.countQuery.IsAnswer c db counted ↔
    counted = [[.int ((groups.map fun group => group.2.length).sum : Nat)]]
  /-- The largest counts come first. -/
  descending : groups.Pairwise fun group next => next.2.length ≤ group.2.length

namespace FilterPlan

variable {c : Collation} {db : Database} {plan : FilterPlan}

private theorem Lists.idsQuery_perm {listing : List Value} (h : plan.Lists c db listing)
    (hplan : plan.IsScoped) {compiler : Compiler} {sort : List SortItem} {query : Query}
    (hquery : compiler.idsQuery plan sort = .ok query) {answer : List (List Value)}
    (hanswer : query.IsAnswer c db answer) : answer.Perm (listing.map fun id => [id]) := by
  unfold Compiler.idsQuery at hquery
  split at hquery
  case isTrue =>
    obtain rfl := Except.ok.inj hquery
    exact (h.idQuery_isAnswer hplan answer).mp hanswer
  case isFalse =>
    obtain ⟨joins, keys, hkeys, rfl⟩ := Compiler.sortedQuery_cases hquery
    obtain ⟨hjoins, first, rfl, hisKey⟩ := Compiler.orderKeys_cases hkeys
    obtain ⟨more, rfl⟩ := hjoins.exists_append
    obtain ⟨ordered, hordered, _, rfl⟩ := hanswer
    rw [sortedQuery_results fun key hkey => (hisKey key hkey).isSettledById,
      keptIds_dedup_append hplan more, ← h] at hordered
    obtain ⟨listed, hlisted, rfl⟩ := Sql.exists_order_of_map hordered
    have hperm : listed.Perm listing := Multiset.coe_eq_coe.mp hlisted
    have hids : (listed.map (plan.sortedResult c db (plan.joins ++ more)
        (first ++ [{ expr := artistId }]))).map Selected.values = listed.map fun id => [id] := by
      rw [List.map_map]
      rfl
    exact (List.Perm.of_eq hids).trans (hperm.map fun id => [id])

private theorem exists_sharesOut (hplan : plan.IsScoped)
    (hartists : IsUnique c (db Schema.artists.name) "id")
    (hevaluations : IsUnique c (db Schema.evaluations.name) "id") {answer : List (List Value)}
    (hanswer : plan.labelQuery.IsAnswer c db answer) :
    ∃ groups, plan.SharesOut c db answer groups := by
  obtain ⟨ordered, hordered, hsorted, rfl⟩ := hanswer
  rw [labelQuery_results hplan hartists hevaluations] at hordered
  obtain ⟨labels, hlabels, rfl⟩ := Sql.exists_order_of_map hordered
  have hlists := labelGroups_lists hlabels hplan hartists
  have hcounted : ∀ group ∈ plan.labelGroups c db labels, ∀ id, id ∈ group.2 ↔
      ∃ artist ∈ plan.selected c db, currentLabel c db artist = group.1 ∧ artist "id" = id := by
    intro group hgroup id
    obtain ⟨label, _, rfl⟩ := mem_labelGroups.mp hgroup
    rw [Multiset.mem_toList, mem_labelledIds]
  refine ⟨plan.labelGroups c db labels, ?_⟩
  constructor
  case rows =>
    change ((labels.map (plan.labelResult c db)).map Selected.values) = _
    rw [labelGroups, List.map_map, List.map_map]
    refine List.map_congr_left fun label _ => ?_
    simp [labelResult]
  case labels_nodup =>
    rw [labelGroups_fst, ← Multiset.coe_nodup, hlabels]
    exact Multiset.nodup_dedup _
  case mem_labels =>
    intro label
    simp only [labelGroups_fst, mem_labels hlabels, mem_selected, and_assoc]
  case positive =>
    intro group hgroup
    obtain ⟨label, hlabel, rfl⟩ := mem_labelGroups.mp hgroup
    obtain ⟨artist, hartist, hlabel⟩ := (mem_labels hlabels).mp hlabel
    exact List.length_pos_of_mem ((hcounted _ hgroup _).mpr ⟨artist, hartist, hlabel, rfl⟩)
  case counted =>
    intro group hgroup id
    simp only [hcounted group hgroup id, mem_selected, and_assoc]
  case once =>
    intro artist hartist hselects
    have hselected := mem_selected.mpr ⟨hartist, hselects⟩
    have hlabel := (mem_labels hlabels).mpr ⟨artist, hselected, rfl⟩
    have hgroup : (_, (plan.labelledIds c db (currentLabel c db artist)).toList) ∈
        plan.labelGroups c db labels := mem_labelGroups.mpr ⟨_, hlabel, rfl⟩
    refine ⟨_, ⟨hgroup, (hcounted _ hgroup _).mpr ⟨artist, hselected, rfl, rfl⟩⟩, ?_⟩
    rintro group ⟨hother, hid⟩
    obtain ⟨label, _, rfl⟩ := mem_labelGroups.mp hother
    rw [label_unique hartists (Multiset.mem_toList.mp hid)
      (mem_labelledIds.mpr ⟨artist, hselected, rfl, rfl⟩)]
  case ids_nodup => exact hlists.nodup
  case ids => exact fun _ _ _ hquery _ hids => hlists.idsQuery_perm hplan hquery hids
  case total =>
    intro counted
    rw [hlists.countQuery_isAnswer hplan, List.length_flatMap]
  case descending =>
    rw [List.pairwise_map] at hsorted
    rw [labelGroups, List.pairwise_map]
    refine hsorted.imp fun {label label'} h => ?_
    simpa using labelResult_descending h

end FilterPlan

namespace Compiler

/-- The label distribution of a plan is a partition of the artists that it selects. -/
theorem labels_share_out {compiler : Compiler} {c : Collation} {db : Database} {tenant : String}
    {scope : Scope} {items : List FilterItem} {plan : FilterPlan}
    (hplan : compiler.planWithin tenant scope items = .ok plan)
    (hartists : IsUnique c (db Schema.artists.name) "id")
    (hevaluations : IsUnique c (db Schema.evaluations.name) "id") :
    (∃ answer, plan.labelQuery.IsAnswer c db answer) ∧
      ∀ answer, plan.labelQuery.IsAnswer c db answer → ∃ groups, plan.SharesOut c db answer groups :=
  ⟨plan.labelQuery.exists_isAnswer c db, fun _ hanswer =>
    FilterPlan.exists_sharesOut (planWithin_isScoped hplan) hartists hevaluations hanswer⟩

/-- Three of the six artists are counted under two labels, and three without one. -/
theorem labels_share_out_sample :
    let db := listedRows sampleRoster
    ∃ plan, sample.planWithin "t" .standard sampleItems = .ok plan ∧
      IsUnique .plain (db Schema.artists.name) "id" ∧
      IsUnique .plain (db Schema.evaluations.name) "id" ∧
      (∃ answer, plan.labelQuery.IsAnswer .plain db answer) ∧
      ∀ answer, plan.labelQuery.IsAnswer .plain db answer →
        (∃ groups, plan.SharesOut .plain db answer groups) ∧
        answer = [[.null, .int 3], [.text "indie", .int 2], [.text "major", .int 1]] := by
  intro db
  let ordered : List Selected := [⟨[.null, .int 3], [.int 3, .null]⟩,
    ⟨[.text "indie", .int 2], [.int 2, .text "indie"]⟩,
    ⟨[.text "major", .int 1], [.int 1, .text "major"]⟩]
  obtain ⟨plan, hplan, hlabels, hsorted, htotal⟩ : ∃ plan,
      sample.planWithin "t" .standard sampleItems = .ok plan ∧
        (ordered : Multiset Selected) = ((plan.selected .plain db).map (currentLabel .plain db)).dedup.map
          (plan.labelResult .plain db) ∧
        ordered.Pairwise (fun a b =>
          Collation.plain.compareKeys plan.labelQuery.orderBy a.keys b.keys ≠ .gt) ∧
        ∀ a ∈ ordered, ∀ b ∈ ordered,
          Collation.plain.compareKeys plan.labelQuery.orderBy a.keys b.keys = .eq → a = b :=
    ⟨_, rfl, by decide +kernel, by decide +kernel, by decide +kernel⟩
  have hdb : IsInstance .plain db := sampleRoster_isInstance
  obtain ⟨hanswered, hshared⟩ := labels_share_out hplan hdb.artist_isUnique hdb.evaluation_isUnique
  refine ⟨plan, hplan, hdb.artist_isUnique, hdb.evaluation_isUnique, hanswered, ?_⟩
  intro answer hanswer
  refine ⟨hshared answer hanswer, ?_⟩
  have hresults : plan.labelQuery.results .plain db = ordered :=
    (FilterPlan.labelQuery_results (planWithin_isScoped hplan) hdb.artist_isUnique
      hdb.evaluation_isUnique).trans hlabels.symm
  exact (Query.isAnswer_of_total .plain db (by rwa [hresults]) ⟨hresults.symm, hsorted⟩ none
    answer).mp hanswer

end Compiler

end TenantGrid
