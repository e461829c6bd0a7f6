import TenantGrid.Proofs.Plan.Results
import TenantGrid.Proofs.Plan.Sorting
/-!
# Pages, counts and ids

Sorted queries group the rows of an artist, so that the joins of a sort change neither which artists
are found nor how often. As the artist's id is the last order key there is a single order, and pages
of any size are cut from one listing, whose length is the count.
-/
namespace TenantGrid

open Sql (Collation Database Env Expr OrderKey Query Record Selected Value)

/-- Whether an order key has one value for a group and an id. -/
def IsSettledById (e : Expr) : Prop :=
  ∀ (c : Collation) (db : Database) (group : Multiset Env) (env env' : Env),
    artistId.value c db group env = artistId.value c db group env' →
      e.value c db group env = e.value c db group env'

/-- An aggregate sums up the group alone. -/
theorem Compiler.IsOrderKey.isSettledById {compiler : Compiler} {e : Expr}
    (h : compiler.IsOrderKey e) : IsSettledById e := by
  cases h with
  | id => exact fun _ _ _ _ _ hid => hid
  | aggregate table name type direction =>
    intro c db group env env' _
    unfold Compiler.aggregate
    cases direction <;> dsimp only <;> split <;>
      simp [Expr.min, Expr.max, Expr.value, Sql.Aggregate.ofName?]

namespace FilterPlan

variable (c : Collation) (db : Database)

/-- What a sorted query makes of the rows of one artist. -/
def sortedResult (plan : FilterPlan) (joins : JoinSet) (keys : List (OrderKey Expr)) (id : Value) :
    Selected :=
  let group := (plan.keptRows c db joins).filter fun env => artistId.value c db {env} env = id
  ⟨[id], Sql.keyValues c db keys group [(Schema.artists.name, fun _ => id)]⟩

variable {c db} {plan : FilterPlan}

private theorem keptIds_singletons (joins : JoinSet) :
    ((plan.keptRows c db joins).map fun env => Sql.valuesOfEach c db [artistId] {env} env) =
      (plan.keptIds c db joins).map fun id => [id] := by
  rw [keptIds, Multiset.map_map]
  rfl

theorem sortedQuery_results {joins : JoinSet} {keys : List (OrderKey Expr)}
    (hkeys : ∀ key ∈ keys, IsSettledById key.expr) :
    Query.results c db { plan.baseQuery joins artistId with groupBy := [artistId], orderBy := keys } =
      (plan.keptIds c db joins).dedup.map (plan.sortedResult c db joins keys) := by
  let result (id : List Value) : Selected := plan.sortedResult c db joins keys (id.headD .null)
  have hsingleton : Function.Injective fun id : Value => [id] := List.singleton_injective
  have hgroups : Sql.groupResults (plan.keptRows c db joins)
      (fun env => Sql.valuesOfEach c db [artistId] {env} env)
      (fun group env => ⟨Sql.itemValues c db [{ expr := artistId }] group env,
        Sql.keyValues c db keys group env⟩) =
      ((plan.keptRows c db joins).map fun env =>
        Sql.valuesOfEach c db [artistId] {env} env).dedup.map result := by
    refine Sql.groupResults_eq result fun env _ => ?_
    have hartist : ∀ group, artistId.value c db group env = artistId.value c db {env} env :=
      fun _ => rfl
    simp only [Sql.valuesOfEach_eq_map, Sql.itemValues_eq_map, Sql.keyValues_eq_map, List.map_cons,
      List.map_nil, List.cons.injEq, and_true, List.headD_cons, result, sortedResult, hartist]
    congr 1
    refine List.map_congr_left fun key hkey => hkeys key hkey c db _ _ _ ?_
    simp [artistId, Sql.readColumn]
  rw [keptIds_singletons, Multiset.dedup_map_of_injective hsingleton, Multiset.map_map] at hgroups
  simp only [baseQuery, Query.filtered, Expr.conjoin, Query.results, Sql.queryResults,
    List.isEmpty_cons, Bool.false_eq_true, if_false]
  exact (congrArg (fun rows => Sql.groupResults rows _ _) (keptRows_eq joins)).trans hgroups

private theorem countQuery_results (hids : Value.null ∉ plan.keptIds c db plan.joins) :
    plan.countQuery.results c db =
      {⟨[.int (plan.keptIds c db plan.joins).dedup.card], []⟩} := by
  have haggregate : artistId.countDistinct.hasAggregate = true := rfl
  have hcount : artistId.countDistinct.value c db (plan.keptRows c db plan.joins) [] =
      .int (plan.keptIds c db plan.joins).dedup.card :=
    Sql.countDistinct_value (fun row hrow hnull => hids (Multiset.mem_map.mpr ⟨row, hrow, hnull⟩)) []
  simp only [countQuery, baseQuery, Query.filtered, Expr.conjoin, Query.results, Sql.queryResults,
    List.isEmpty_nil, if_true, List.any_cons, List.any_nil, Bool.or_false, haggregate,
    Bool.false_eq_true, if_false, Sql.itemValues, Sql.keyValues]
  rw [← hcount]
  exact congrArg (fun rows => {(⟨[artistId.countDistinct.value c db rows []], []⟩ : Selected)})
    (keptRows_eq plan.joins)

private theorem sortedResult_total {joins : JoinSet} {first : List (OrderKey Expr)} {id id' : Value}
    (h : c.compareKeys (first ++ [{ expr := artistId }])
      (plan.sortedResult c db joins (first ++ [{ expr := artistId }]) id).keys
      (plan.sortedResult c db joins (first ++ [{ expr := artistId }]) id').keys = .eq) :
    c.normal id = c.normal id' := by
  simp only [sortedResult, Sql.keyValues_eq_map, List.map_append, List.map_cons, List.map_nil] at h
  have hlast := c.compareKeys_concat_eq first _ (by simp) (by simp) h
  simpa [artistId, Sql.readColumn] using Collation.compareKey_eq_eq c hlast

private theorem sortedResults_total (hplan : plan.IsScoped) (joins : JoinSet)
    (first : List (OrderKey Expr))
    (hids : ∀ a ∈ db Schema.artists.name, ∀ b ∈ db Schema.artists.name,
      c.normal (a "id") = c.normal (b "id") → a "id" = b "id") :
    let keys := first ++ [({ expr := artistId } : OrderKey Expr)]
    let results := (plan.keptIds c db plan.joins).dedup.map (plan.sortedResult c db joins keys)
    ∀ a ∈ results, ∀ b ∈ results, c.compareKeys keys a.keys b.keys = .eq → a = b := by
  intro keys results a ha b hb heq
  obtain ⟨id, hid, rfl⟩ := Multiset.mem_map.mp ha
  obtain ⟨id', hid', rfl⟩ := Multiset.mem_map.mp hb
  obtain ⟨artist, hartist, _, rfl⟩ := (mem_keptIds hplan id).mp (Multiset.mem_dedup.mp hid)
  obtain ⟨artist', hartist', _, rfl⟩ := (mem_keptIds hplan id').mp (Multiset.mem_dedup.mp hid')
  rw [hids artist hartist artist' hartist' (sortedResult_total heq)]

/-- Whether a listing has the kept ids of a plan, each once. -/
def Lists (plan : FilterPlan) (c : Collation) (db : Database) (listing : List Value) : Prop :=
  (listing : Multiset Value) = (plan.keptIds c db plan.joins).dedup

namespace Lists

variable {listing : List Value} (h : plan.Lists c db listing)

include h

theorem nodup : listing.Nodup := by
  rw [← Multiset.coe_nodup, h]
  exact Multiset.nodup_dedup _

private theorem mem_iff (hplan : plan.IsScoped) (id : Value) : id ∈ listing ↔
    ∃ artist ∈ db Schema.artists.name, plan.Selects c db artist ∧ id = artist "id" := by
  rw [← Multiset.mem_coe, h, Multiset.mem_dedup, mem_keptIds hplan]

theorem idQuery_isAnswer (hplan : plan.IsScoped) (answer : List (List Value)) :
    plan.idQuery.IsAnswer c db answer ↔ answer.Perm (listing.map fun id => [id]) := by
  rw [Query.isAnswer_unordered c db rfl rfl, Query.results, idQuery_results hplan,
    Multiset.map_map, ← h, Multiset.map_coe, Multiset.coe_eq_coe]
  rfl

theorem countQuery_isAnswer (hplan : plan.IsScoped) (answer : List (List Value)) :
    plan.countQuery.IsAnswer c db answer ↔ answer = [[.int listing.length]] := by
  have hnull : Value.null ∉ plan.keptIds c db plan.joins := by
    intro hnull
    obtain ⟨artist, _, hselects, hid⟩ := (mem_keptIds hplan .null).mp hnull
    exact (shows_of_selects hselects).id_ne_null hid.symm
  rw [Query.isAnswer_unordered c db rfl rfl, countQuery_results hnull, ← h]
  simp

end Lists

end FilterPlan

/-- Whether a query shows just the part of a listing that is in its window, whatever the window. -/
def ShowsWindows (c : Collation) (db : Database) (query : Query) (listing : List Value) : Prop :=
  ∀ window answer, Query.IsAnswer c db { query with window } answer ↔
    answer = (Sql.windowed window listing).map fun id => [id]

private theorem exists_showsWindows {c : Collation} {db : Database} {query : Query}
    {ids : Multiset Value}
    {result : Value → Selected} (hresults : query.results c db = ids.map result)
    (hvalues : ∀ id, (result id).values = [id])
    (htotal : ∀ a ∈ query.results c db, ∀ b ∈ query.results c db,
      c.compareKeys query.orderBy a.keys b.keys = .eq → a = b) :
    ∃ listing : List Value, (listing : Multiset Value) = ids ∧ ShowsWindows c db query listing := by
  obtain ⟨ordered, hordered⟩ := query.exists_isOrdered c db
  obtain ⟨listing, hlisting, rfl⟩ := Sql.exists_order_of_map (hordered.1.trans hresults)
  refine ⟨listing, hlisting, fun window answer => ?_⟩
  rw [Query.isAnswer_of_total c db htotal hordered, Sql.windowed_map, List.map_map]
  simp only [Function.comp_def, hvalues]

private theorem flatten_pages {α : Type} (listing : List α) (n : Nat) (pages : List (List α))
    (h : ∀ k, ∀ hk : k < pages.length, pages[k] = (listing.drop (k * n)).take n) :
    pages.flatten = listing.take (pages.length * n) := by
  induction pages using List.reverseRecOn with
  | nil => simp
  | append_singleton pages last ih =>
    have hinit : ∀ k, ∀ hk : k < pages.length, pages[k] = (listing.drop (k * n)).take n := by
      intro k hk
      have hpage := h k (by simp; omega)
      rwa [List.getElem_append_left hk] at hpage
    have hlast := h pages.length (by simp)
    simp only [List.getElem_append_right (Nat.le_refl _), Nat.sub_self, List.getElem_singleton] at hlast
    rw [List.flatten_append, ih hinit, hlast]
    simp [Nat.add_mul, List.take_add]

/-- What all queries of a plan with one sort have in common: a listing of the ids of all artists
that the plan selects. -/
structure Compiler.IsListing (compiler : Compiler) (c : Collation) (db : Database)
    (plan : FilterPlan) (sort : List SortItem) (listing : List Value) : Prop where
  nodup : listing.Nodup
  mem_iff : ∀ id, id ∈ listing ↔
    ∃ artist ∈ db Schema.artists.name, plan.Selects c db artist ∧ id = artist "id"
  /-- Without a sort the ids come in any order. -/
  unsorted : ∃ query, compiler.idsQuery plan [] = .ok query ∧
    ∀ answer, query.IsAnswer c db answer ↔ answer.Perm (listing.map fun id => [id])
  sorted : sort ≠ [] → ∃ query, compiler.idsQuery plan sort = .ok query ∧
    ∀ answer, query.IsAnswer c db answer ↔ answer = listing.map fun id => [id]
  counted : ∀ answer, plan.countQuery.IsAnswer c db answer ↔ answer = [[.int listing.length]]
  /-- A page is a slice of the listing. -/
  page : ∀ page : Page, page.size.toNat < 2 ^ 63 → page.number.toNat * page.size.toNat < 2 ^ 63 →
    ∃ query, compiler.pageQuery plan sort page = .ok query ∧ ∀ answer,
      query.IsAnswer c db answer ↔ answer =
        ((listing.drop (page.number.toNat * page.size.toNat)).take page.size.toNat).map fun id => [id]
  /-- Pages of one size, beginning with the first, make up the listing as far as they go. -/
  pages : ∀ (size : UInt64) (pages : List (List (List Value))), 0 < size.toNat →
    size.toNat < 2 ^ 63 → (∀ k, ∀ hk : k < pages.length, k * size.toNat < 2 ^ 63 ∧
      ∃ query, compiler.pageQuery plan sort ⟨.ofNat k, size⟩ = .ok query ∧
        query.IsAnswer c db pages[k]) →
    pages.flatten = (listing.take (pages.length * size.toNat)).map fun id => [id]

namespace Compiler

variable {c : Collation} {db : Database} {compiler planner : Compiler} {plan : FilterPlan}

private theorem offset_toNat {page : Page} (h : page.number.toNat * page.size.toNat < 2 ^ 63) :
    page.offset.toNat = page.number.toNat * page.size.toNat := by
  have hsize : UInt64.size = 2 ^ 64 := rfl
  unfold Page.offset
  rw [Nat.min_eq_left (by omega), UInt64.toNat_ofNat_of_lt' (by omega)]

private theorem sortedQuery_showsWindows {sort : List SortItem}
    {sorted : JoinSet × List (OrderKey Expr)} (hscoped : plan.IsScoped)
    (hsort : compiler.orderKeys plan.joins sort = .ok sorted)
    (hids : ∀ a ∈ db Schema.artists.name, ∀ b ∈ db Schema.artists.name,
      c.normal (a "id") = c.normal (b "id") → a "id" = b "id") :
    ∃ (query : Query) (listing : List Value), compiler.sortedQuery plan sort = .ok query ∧
      query.window = none ∧ plan.Lists c db listing ∧ ShowsWindows c db query listing := by
  obtain ⟨joins, keys⟩ := sorted
  obtain ⟨hjoins, first, rfl, hisKey⟩ := orderKeys_cases hsort
  obtain ⟨more, rfl⟩ := hjoins.exists_append
  let keys := first ++ [({ expr := artistId } : OrderKey Expr)]
  let query : Query := { plan.baseQuery (plan.joins ++ more) artistId with
    groupBy := [artistId], orderBy := keys }
  have hquery : compiler.sortedQuery plan sort = .ok query := by
    simp [sortedQuery, hsort, bind, Except.bind, query, keys]
  have hresults : query.results c db = (plan.keptIds c db plan.joins).dedup.map
      (plan.sortedResult c db (plan.joins ++ more) keys) := by
    rw [← FilterPlan.keptIds_dedup_append hscoped more]
    exact FilterPlan.sortedQuery_results fun key hkey => (hisKey key hkey).isSettledById
  have htotal : ∀ a ∈ query.results c db, ∀ b ∈ query.results c db,
      c.compareKeys query.orderBy a.keys b.keys = .eq → a = b := by
    rw [hresults]
    exact FilterPlan.sortedResults_total hscoped (plan.joins ++ more) first hids
  obtain ⟨listing, hlisting, hshows⟩ := exists_showsWindows hresults (fun _ => rfl) htotal
  exact ⟨query, listing, hquery, rfl, hlisting, hshows⟩

section Pages

variable {sort : List SortItem} {query : Query} {listing : List Value}
  (hquery : compiler.sortedQuery plan sort = .ok query) (hwindow : query.window = none)
  (hshows : ShowsWindows c db query listing)

include hquery hwindow hshows

private theorem pageQuery_isAnswer (page : Page)
    (hpage : page.number.toNat * page.size.toNat < 2 ^ 63) :
    ∃ query, compiler.pageQuery plan sort page = .ok query ∧ ∀ answer,
      query.IsAnswer c db answer ↔ answer =
        ((listing.drop (page.number.toNat * page.size.toNat)).take page.size.toNat).map
          fun id => [id] := by
  refine ⟨(query.limited page.size).skipping page.offset,
    by simp [pageQuery, hquery, bind, Except.bind], fun answer => ?_⟩
  have hsliced := hshows (some { limit := some page.size, offset := some page.offset }) answer
  simp only [Sql.windowed, Option.map_some, Option.getD_some, offset_toNat hpage] at hsliced
  rw [← hsliced, Query.limited, Query.skipping, hwindow]
  rfl

private theorem pages_flatten {size : UInt64} {pages : List (List (List Value))}
    (hpositive : 0 < size.toNat)
    (hpages : ∀ k, ∀ hk : k < pages.length, k * size.toNat < 2 ^ 63 ∧
      ∃ query, compiler.pageQuery plan sort ⟨.ofNat k, size⟩ = .ok query ∧
        query.IsAnswer c db pages[k]) :
    pages.flatten = (listing.take (pages.length * size.toNat)).map fun id => [id] := by
  rw [List.map_take, flatten_pages (listing.map fun id => [id]) size.toNat pages]
  intro k hk
  obtain ⟨hbound, paged, hpaged, hanswer⟩ := hpages k hk
  have hnumber : (UInt64.ofNat k).toNat = k := by
    have hle : k * 1 ≤ k * size.toNat := Nat.mul_le_mul_left k hpositive
    exact UInt64.toNat_ofNat_of_lt' (by simp only [UInt64.size]; omega)
  obtain ⟨paged', hpaged', hslice⟩ := pageQuery_isAnswer hquery hwindow hshows ⟨.ofNat k, size⟩
    (by rwa [hnumber])
  obtain rfl : paged = paged' := Except.ok.inj (hpaged.symm.trans hpaged')
  rw [(hslice _).mp hanswer]
  simp only [hnumber, List.map_take, List.map_drop]

end Pages

/-- Page, count and id queries agree. Whatever the filter and the sort are, there is one listing of
the selected ids that they all show, as long as the store can order ids. -/
theorem exists_listing {tenant : String} {scope : Scope} {items : List FilterItem}
    {sort : List SortItem} {sorted : JoinSet × List (OrderKey Expr)}
    (hplan : planner.planWithin tenant scope items = .ok plan)
    (hsort : compiler.orderKeys plan.joins sort = .ok sorted)
    (hids : ∀ a ∈ db Schema.artists.name, ∀ b ∈ db Schema.artists.name,
      c.normal (a "id") = c.normal (b "id") → a "id" = b "id") :
    ∃ listing, compiler.IsListing c db plan sort listing := by
  have hscoped := planWithin_isScoped hplan
  obtain ⟨query, listing, hquery, hwindow, hlists, hshows⟩ :=
    sortedQuery_showsWindows hscoped hsort hids
  have hsorted : sort ≠ [] → compiler.idsQuery plan sort = .ok query := by
    intro hne
    simp [idsQuery, hne, hquery]
  have hwhole : ∀ answer, query.IsAnswer c db answer ↔ answer = listing.map fun id => [id] := by
    intro answer
    have hanswer := hshows none answer
    rwa [show ({ query with window := none } : Query) = query by rw [← hwindow]] at hanswer
  exact ⟨listing, {
    nodup := hlists.nodup
    mem_iff := hlists.mem_iff hscoped
    unsorted := ⟨plan.idQuery, rfl, hlists.idQuery_isAnswer hscoped⟩
    sorted := fun hne => ⟨query, hsorted hne, hwhole⟩
    counted := hlists.countQuery_isAnswer hscoped
    page := fun page _ hpage => pageQuery_isAnswer hquery hwindow hshows page hpage
    pages := fun _ _ hpositive _ hpages => pages_flatten hquery hwindow hshows hpositive hpages }⟩

/-- A sort by a joined flag, a statistic and the name. -/
def sampleSort : List SortItem :=
  [⟨"organization.muted", .asc⟩, ⟨"statistic.7-latest", .desc⟩, ⟨"name", .asc⟩]

/-- Six artists are listed, by their statistic and three of them by their names. -/
theorem exists_listing_sample :
    let db := listedRows sampleRoster
    ∃ plan sorted, sample.planWithin "t" .standard sampleItems = .ok plan ∧
      sample.orderKeys plan.joins sampleSort = .ok sorted ∧
      (∀ a ∈ db Schema.artists.name, ∀ b ∈ db Schema.artists.name,
          Collation.plain.normal (a "id") = Collation.plain.normal (b "id") → a "id" = b "id") ∧
      ∃ listing, sample.IsListing .plain db plan sampleSort listing ∧
        listing = ["c", "f", "b", "d", "a", "e"].map .text := by
  intro db
  let ordered : List Selected :=
    [("c", 9, "Ana"), ("f", 9, "Mia"), ("b", 9, "Zoe"), ("d", 8, "Pia"), ("a", 7, "Una"),
      ("e", 6, "Ida")].map fun artist => ⟨[.text artist.1],
        [.bool false, .int artist.2.1, .text artist.2.2, .text artist.1]⟩
  obtain ⟨plan, sorted, query, hplan, hsort, hquery, hwindow, hordered⟩ : ∃ plan sorted query,
      sample.planWithin "t" .standard sampleItems = .ok plan ∧
        sample.orderKeys plan.joins sampleSort = .ok sorted ∧
        sample.idsQuery plan sampleSort = .ok query ∧ query.window = none ∧
        query.IsOrdered .plain db ordered :=
    ⟨_, _, _, rfl, rfl, rfl, rfl, by decide +kernel, by decide +kernel⟩
  have hids : ∀ a ∈ db Schema.artists.name, ∀ b ∈ db Schema.artists.name,
      Collation.plain.normal (a "id") = Collation.plain.normal (b "id") → a "id" = b "id" := by
    decide +kernel
  obtain ⟨listing, hlisting⟩ := exists_listing hplan hsort hids
  refine ⟨plan, sorted, hplan, hsort, hids, listing, hlisting, ?_⟩
  obtain ⟨sortedQuery, hsortedQuery, hanswers⟩ := hlisting.sorted (List.cons_ne_nil _ _)
  obtain rfl : query = sortedQuery := Except.ok.inj (hquery.symm.trans hsortedQuery)
  have hanswer : query.IsAnswer .plain db
      ((["c", "f", "b", "d", "a", "e"].map Value.text).map fun id => [id]) :=
    (Query.isAnswer_iff .plain db query _).mpr ⟨ordered, hordered, by rw [hwindow]; rfl⟩
  have hsingle : Function.Injective fun id : Value => [id] := fun _ _ h => (List.cons.inj h).1
  exact (hsingle.list_map ((hanswers _).mp hanswer)).symm

end Compiler

end TenantGrid
