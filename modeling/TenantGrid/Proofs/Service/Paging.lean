import TenantGrid.Proofs.Service.Preparation
import TenantGrid.Proofs.Sql.Clauses
/-!
# Windows of pages

A page is checked by its size and never by its number. Its query ends with the size and the offset as
signed numbers of 64 bits, which are those of the page up to 2 ^ 63 - 1. The offset of a page beyond
that is written as a negative number.
-/
namespace TenantGrid

open Sql (Dialect Query Statement Token Window rowCount_written)

namespace Sql

private theorem Statement.partsFrom_cons (dialect : Dialect) {t : Token} (ht : t.bound? = none)
    (index : Nat) (rest : List Token) :
    Statement.partsFrom dialect index (t :: rest) =
      t.text dialect :: Statement.partsFrom dialect index rest := by
  cases t with
  | bind value => cases ht
  | _ => rfl

private theorem Statement.partsFrom_unbound (dialect : Dialect) {tokens : List Token}
    (h : ∀ t ∈ tokens, t.bound? = none) (index : Nat) :
    Statement.partsFrom dialect index tokens = tokens.map (Token.text dialect) := by
  induction tokens with
  | nil => rfl
  | cons t rest ih =>
    have hrest := ih fun u hu => h u (List.mem_cons_of_mem t hu)
    rw [partsFrom_cons dialect (h t List.mem_cons_self), hrest, List.map_cons]

private theorem Statement.partsFrom_append (dialect : Dialect) (tokens : List Token)
    {last : List Token} (hlast : ∀ t ∈ last, t.bound? = none) (index : Nat) :
    Statement.partsFrom dialect index (tokens ++ last) =
      Statement.partsFrom dialect index tokens ++ last.map (Token.text dialect) := by
  induction tokens generalizing index with
  | nil => exact partsFrom_unbound dialect hlast index
  | cons t rest ih =>
    rw [List.cons_append]
    by_cases hbound : t.bound? = none
    · rw [partsFrom_cons dialect hbound, partsFrom_cons dialect hbound, ih, List.cons_append]
    · obtain ⟨value, rfl⟩ : ∃ value, t = .bind value := by
        cases t with
        | bind value => exact ⟨value, rfl⟩
        | _ => exact absurd rfl hbound
      rw [partsFrom, partsFrom, ih, List.cons_append]

private theorem Statement.ofTokens_append (dialect : Dialect) (tokens : List Token)
    {last : List Token} (hlast : ∀ t ∈ last, t.bound? = none) :
    Statement.ofTokens dialect (tokens ++ last) =
      { Statement.ofTokens dialect tokens with
        sql := (Statement.ofTokens dialect tokens).sql ++ Token.inlined dialect last } := by
  have hparams : last.filterMap Token.bound? = [] := List.filterMap_eq_nil_iff.mpr hlast
  simp [Statement.ofTokens, Token.inlined, Statement.partsFrom_append dialect tokens hlast,
    hparams, String.join_append]

private theorem Query.statement_windowed (dialect : Dialect) {query : Query}
    (hquery : query.window = none) (limit offset : UInt64) :
    ((query.limited limit).skipping offset).statement dialect =
      { query.statement dialect with
        sql := (query.statement dialect).sql ++ "\nLIMIT " ++ limit.toInt64.toInt.repr ++
          " OFFSET " ++ offset.toInt64.toInt.repr } := by
  have htokens : ((query.limited limit).skipping offset).tokens =
      query.tokens ++ windowTokens (some ⟨some limit, some offset⟩) := by
    obtain ⟨select, distinct, source, joins, filter, groupBy, orderBy, window⟩ := query
    obtain rfl : window = none := hquery
    simp [Query.limited, Query.skipping, Query.tokens, queryTokens, windowTokens]
  have hbound : ∀ t ∈ windowTokens (some ⟨some limit, some offset⟩), t.bound? = none := by
    simp [windowTokens, Window.tokens, rowCountLiteral, Token.bound?]
  have htext : Token.inlined dialect (windowTokens (some ⟨some limit, some offset⟩)) =
      "\nLIMIT " ++ limit.toInt64.toInt.repr ++ " OFFSET " ++ offset.toInt64.toInt.repr := by
    have hlimit : "\nLIMIT " = "\n" ++ "LIMIT" ++ " " := by decide
    have hoffset : " OFFSET " = " " ++ "OFFSET" ++ " " := by decide
    rw [hlimit, hoffset]
    simp [windowTokens, Window.tokens, rowCountLiteral, Token.inlined, Token.text, Keyword.text,
      String.join, String.append_assoc]
  unfold Query.statement
  rw [htokens, Statement.ofTokens_append dialect query.tokens hbound, htext]
  simp only [String.append_assoc]

end Sql

namespace Page

/-- How many rows come before a page. -/
def start (page : Page) : Nat :=
  page.number.toNat * page.size.toNat

/-- The row counts that stand in the text of a page's query. -/
def limitWritten (page : Page) : Int :=
  page.size.toInt64.toInt

def offsetWritten (page : Page) : Int :=
  page.offset.toInt64.toInt

/-- The text of a listing cut to a page. -/
def windowOf (page : Page) (listing : Statement) : Statement :=
  { listing with
    sql := listing.sql ++ "\nLIMIT " ++ page.limitWritten.repr ++ " OFFSET " ++
      page.offsetWritten.repr }

/-- Whether the row counts of a page are written as they are. -/
def IsExact (page : Page) : Prop :=
  page.limitWritten = page.size.toNat ∧ page.offsetWritten = page.start

private theorem offset_toNat (page : Page) : page.offset.toNat = min page.start (2 ^ 64 - 1) := by
  have hbound : min page.start (UInt64.size - 1) < UInt64.size := by
    have hsize : UInt64.size = 2 ^ 64 := rfl
    omega
  exact UInt64.toNat_ofNat_of_lt' hbound

private theorem offsetWritten_eq (page : Page) :
    page.offsetWritten =
      if page.start < 2 ^ 63 then (page.start : Int)
      else if page.start < 2 ^ 64 then (page.start : Int) - 2 ^ 64
      else -1 := by
  rw [offsetWritten, rowCount_written, offset_toNat]
  generalize page.start = start
  by_cases hsmall : start < 2 ^ 63
  · have hmin : min start (2 ^ 64 - 1) = start := by omega
    rw [hmin, if_pos hsmall, if_pos hsmall]
  · by_cases hlarge : start < 2 ^ 64
    · have hmin : min start (2 ^ 64 - 1) = start := by omega
      rw [hmin, if_neg hsmall, if_neg hsmall, if_pos hlarge]
    · have hmin : min start (2 ^ 64 - 1) = 2 ^ 64 - 1 := by omega
      rw [hmin, if_neg hsmall, if_neg hlarge, if_neg (by decide)]
      rfl

private theorem isExact_iff (page : Page) :
    page.IsExact ↔ page.size.toNat < 2 ^ 63 ∧ page.start < 2 ^ 63 := by
  rw [IsExact, offsetWritten_eq, limitWritten, rowCount_written]
  constructor
  · rintro ⟨hlimit, hoffset⟩
    constructor
    · by_contra hlarge
      rw [if_neg hlarge] at hlimit
      omega
    · by_contra hlarge
      rw [if_neg hlarge] at hoffset
      split at hoffset <;> omega
  · rintro ⟨hlimit, hoffset⟩
    exact ⟨if_pos hlimit, if_pos hoffset⟩

private theorem IsExact.disjoint {page other : Page} (hpage : page.IsExact) (hother : other.IsExact)
    (hsize : page.size = other.size) (hne : page.number ≠ other.number) :
    page.offsetWritten + page.limitWritten ≤ other.offsetWritten ∨
      other.offsetWritten + other.limitWritten ≤ page.offsetWritten := by
  rw [hpage.1, hpage.2, hother.1, hother.2, start, start, hsize]
  rcases Nat.lt_or_gt_of_ne fun heq => hne (UInt64.toNat_inj.mp heq) with hlt | hlt
  · left
    have hle := Nat.mul_le_mul_right other.size.toNat (Nat.succ_le_of_lt hlt)
    rw [Nat.succ_mul] at hle
    exact_mod_cast hle
  · right
    have hle := Nat.mul_le_mul_right other.size.toNat (Nat.succ_le_of_lt hlt)
    rw [Nat.succ_mul] at hle
    exact_mod_cast hle

end Page

namespace Service

variable {service : Service} {user : String} {request : ListRequest} {prepared : PreparedList}

/-- The page of a request under another number. -/
def pageAt (service : Service) (request : ListRequest) (number : UInt64) : Page :=
  ⟨number, (service.pageOf request).size⟩

private theorem prepareList_number (h : service.prepareList user request = .ok prepared) :
    ∃ listing : Statement, ∀ number : UInt64,
      service.prepareList user { request with page := number } =
        .ok { prepared with page := (service.pageAt request number).windowOf listing } := by
  obtain ⟨htenant, hcheck, plan, query, hplan, hquery, _, hcount⟩ := prepareList_cases h
  obtain ⟨sorted, hsorted, _⟩ := bind_eq_ok hquery
  have hwindow : sorted.window = none := by
    obtain ⟨joins, keys, _, rfl⟩ := Compiler.sortedQuery_cases hsorted
    rfl
  refine ⟨service.queryStatement sorted, fun number => ?_⟩
  let page := service.pageAt request number
  have hcheck' : service.checkPage page = .ok () :=
    (checkPage_eq_ok page).mpr ((checkPage_eq_ok (service.pageOf request)).mp hcheck)
  have hquery' : service.compiler.pageQuery plan request.sort page =
      .ok ((sorted.limited page.size).skipping page.offset) := by
    rw [Compiler.pageQuery, hsorted]
    rfl
  have hprepared : service.prepareList user { request with page := number } = .ok {
      tenant := prepared.tenant
      page := service.queryStatement ((sorted.limited page.size).skipping page.offset)
      count := service.queryStatement plan.countQuery } :=
    prepareList_eq htenant hcheck' hplan hquery'
  have hwindowed : service.queryStatement ((sorted.limited page.size).skipping page.offset) =
      page.windowOf (service.queryStatement sorted) :=
    Sql.Query.statement_windowed _ hwindow _ _
  rw [hprepared, hwindowed, ← hcount]

/-- Where pagination is exact. The page check bounds the size and accepts every number. The text of a
page is that of its listing and the page's row counts, which are the size and the number of rows
before the page exactly if both are below 2 ^ 63; the windows of two such pages do not overlap. From
2 ^ 63 on the offset is negative, and all pages from 2 ^ 64 on have the same window. -/
theorem page_windows (h : service.prepareList user request = .ok prepared) :
    let page := service.pageAt request
    let size := (service.pageOf request).size
    (0 < size ∧ size ≤ service.limits.maxPageSize) ∧
      (∃ listing : Statement, ∀ number, service.prepareList user { request with page := number } =
        .ok { prepared with page := (page number).windowOf listing }) ∧
      (∀ number, (page number).IsExact ↔
        size.toNat < 2 ^ 63 ∧ number.toNat * size.toNat < 2 ^ 63) ∧
      (∀ number other, number ≠ other → (page number).IsExact → (page other).IsExact →
        (page number).offsetWritten + size.toNat ≤ (page other).offsetWritten ∨
          (page other).offsetWritten + size.toNat ≤ (page number).offsetWritten) ∧
      (∀ number, 2 ^ 63 ≤ number.toNat * size.toNat → (page number).offsetWritten < 0) ∧
      ∀ number other, 2 ^ 64 ≤ number.toNat * size.toNat → 2 ^ 64 ≤ other.toNat * size.toNat →
        ∀ listing, (page number).windowOf listing = (page other).windowOf listing := by
  intro page size
  obtain ⟨_, hcheck, _⟩ := prepareList_cases h
  refine ⟨(checkPage_eq_ok _).mp hcheck, prepareList_number h, fun number => Page.isExact_iff _,
    ?_, ?_, ?_⟩
  · intro number other hne hnumber hother
    have hdisjoint := hnumber.disjoint hother rfl hne
    rwa [hnumber.1, hother.1] at hdisjoint
  · intro number hlarge
    have hstart : 2 ^ 63 ≤ (page number).start := hlarge
    rw [Page.offsetWritten_eq, if_neg (Nat.not_lt.mpr hstart)]
    split <;> omega
  · intro number other hnumber hother listing
    have hwritten : ∀ number : UInt64, 2 ^ 64 ≤ number.toNat * size.toNat →
        (page number).offsetWritten = -1 := by
      intro number hlarge
      have hstart : 2 ^ 64 ≤ (page number).start := hlarge
      rw [Page.offsetWritten_eq, if_neg (by omega), if_neg (by omega)]
    have hlimit : (page number).limitWritten = (page other).limitWritten := rfl
    rw [Page.windowOf, Page.windowOf, hwritten number hnumber, hwritten other hother, hlimit]

/-- The fourth page of a request for the first one. -/
theorem page_windows_sample :
    ∃ prepared, sample.prepareList "u" {} = .ok prepared ∧
      (sample.pageAt {} 3).IsExact ∧ (sample.pageAt {} 3).offsetWritten = 75 := by
  obtain ⟨prepared, hprepared⟩ : ∃ prepared, sample.prepareList "u" {} = .ok prepared := ⟨_, rfl⟩
  obtain ⟨_, _, hexact, _⟩ := page_windows hprepared
  have hfourth : (sample.pageAt {} 3).IsExact := (hexact 3).mpr (by decide)
  exact ⟨prepared, hprepared, hfourth, hfourth.2⟩

/-- Two pages far beyond the end are prepared, with one and the same window before the first row. -/
theorem offset_negative_far_out :
    ∃ prepared listing : Statement, prepared.sql = listing.sql ++ "\nLIMIT 2 OFFSET -1" ∧
      ∀ number ∈ [(9223372036854775808 : UInt64), 9223372036854775809],
        (sample.prepareList "u" { page := number, pageSize := some 2 }).map PreparedList.page =
          .ok prepared := by
  obtain ⟨first, hfirst⟩ :
      ∃ first, sample.prepareList "u" { pageSize := some 2 } = .ok first := ⟨_, rfl⟩
  obtain ⟨listing, hlisting⟩ := prepareList_number hfirst
  have hwindow : ∀ number ∈ [(9223372036854775808 : UInt64), 9223372036854775809],
      (sample.pageAt { pageSize := some 2 } number).windowOf listing =
        { listing with sql := listing.sql ++ "\nLIMIT 2 OFFSET -1" } := by
    have hwritten : ∀ number ∈ [(9223372036854775808 : UInt64), 9223372036854775809],
        (sample.pageAt { pageSize := some 2 } number).offsetWritten = -1 ∧
          (sample.pageAt { pageSize := some 2 } number).limitWritten = 2 := by
      simp only [List.forall_mem_cons]
      exact ⟨by decide, by decide, by simp⟩
    intro number hnumber
    obtain ⟨hoffset, hlimit⟩ := hwritten number hnumber
    have htext : "\nLIMIT 2 OFFSET -1" =
        "\nLIMIT " ++ (Int.repr 2 ++ (" OFFSET " ++ Int.repr (-1))) := by decide
    rw [Page.windowOf, hoffset, hlimit, htext]
    simp only [String.append_assoc]
  refine ⟨{ listing with sql := listing.sql ++ "\nLIMIT 2 OFFSET -1" }, listing, rfl,
    fun number hnumber => ?_⟩
  have hprepared := hlisting number
  rw [hwindow number hnumber] at hprepared
  exact congrArg (Except.map PreparedList.page) hprepared

end Service

end TenantGrid
