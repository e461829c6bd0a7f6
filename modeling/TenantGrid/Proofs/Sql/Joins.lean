import TenantGrid.Proofs.Sql.Condition
/-!
# Rows of joins

Joins only add to the end of a row. What a row becomes under further joins depends on that row
alone, and left joins lose none.
-/
namespace TenantGrid.Sql

variable {c : Collation} {db : Database} {outer : Env}

theorem mem_matchingRows (kind : JoinKind) (rows : Multiset Record) (holds : Record → Bool)
    (record : Record) :
    record ∈ matchingRows kind rows holds ↔
      (record ∈ rows ∧ holds record = true) ∨
        (kind = .left ∧ record = nullRecord ∧ ∀ r ∈ rows, holds r = false) := by
  have hnone : (rows.filter fun row => holds row).card = 0 ↔ ∀ r ∈ rows, holds r = false := by
    rw [Multiset.card_eq_zero, Multiset.filter_eq_nil]
    simp
  unfold matchingRows
  by_cases h : kind = .left ∧ (rows.filter fun row => holds row).card = 0
  · simp only [h, and_self, if_true, Multiset.mem_singleton, true_and]
    have hfalse := hnone.mp h.2
    constructor
    · intro hr
      exact Or.inr ⟨hr, hfalse⟩
    · rintro (⟨hmem, hholds⟩ | ⟨hr, _⟩)
      · simp [hfalse record hmem] at hholds
      · exact hr
  · simp only [h, if_false, Multiset.mem_filter]
    constructor
    · exact Or.inl
    · rintro (hr | ⟨hkind, _, hfalse⟩)
      · exact hr
      · exact absurd ⟨hkind, hnone.mpr hfalse⟩ h

private theorem exists_mem_matchingRows_left (rows : Multiset Record) (holds : Record → Bool) :
    ∃ record, record ∈ matchingRows .left rows holds := by
  by_cases h : ∃ record ∈ rows, holds record = true
  · obtain ⟨record, hmem, hholds⟩ := h
    exact ⟨record, (mem_matchingRows _ _ _ _).mpr (Or.inl ⟨hmem, hholds⟩)⟩
  · push Not at h
    refine ⟨nullRecord, (mem_matchingRows _ _ _ _).mpr (Or.inr ⟨rfl, rfl, ?_⟩)⟩
    simpa using h

/-- The rows that a join adds to one row. -/
def joinMatches (c : Collation) (db : Database) (join : Join Expr) (outer row : Env) :
    Multiset Record :=
  matchingRows join.kind (db join.table.table) fun record =>
    let env := row ++ [(join.table.referenceName, record)] ++ outer
    join.condition.value c db {env} env = .bool true

theorem joinedRows_cons (join : Join Expr) (rest : List (Join Expr)) (rows : Multiset Env) :
    joinedRows c db (join :: rest) outer rows =
      joinedRows c db rest outer (rows.bind fun row =>
        (joinMatches c db join outer row).map
          fun record => row ++ [(join.table.referenceName, record)]) := by
  cases join
  rfl

theorem joinedRows_append (joins more : List (Join Expr)) (rows : Multiset Env) :
    joinedRows c db (joins ++ more) outer rows =
      joinedRows c db more outer (joinedRows c db joins outer rows) := by
  induction joins generalizing rows with
  | nil => rfl
  | cons join rest ih => rw [List.cons_append, joinedRows_cons, ih, joinedRows_cons]

/-- Every row is joined on its own. -/
theorem joinedRows_eq_bind (joins : List (Join Expr)) (rows : Multiset Env) :
    joinedRows c db joins outer rows = rows.bind fun row => joinedRows c db joins outer {row} := by
  induction joins generalizing rows with
  | nil => exact ((Multiset.bind_singleton rows id).trans rows.map_id).symm
  | cons join rest ih =>
    simp only [joinedRows_cons]
    rw [ih, Multiset.bind_assoc]
    refine Multiset.bind_congr fun row _ => ?_
    rw [ih (Multiset.bind {row} _), Multiset.singleton_bind]

theorem mem_joinedRows (joins : List (Join Expr)) (rows : Multiset Env) (env : Env) :
    env ∈ joinedRows c db joins outer rows ↔
      ∃ row ∈ rows, env ∈ joinedRows c db joins outer {row} := by
  rw [joinedRows_eq_bind, Multiset.mem_bind]

theorem mem_joinedRows_concat (joins : List (Join Expr)) (join : Join Expr) (rows : Multiset Env)
    (env : Env) :
    env ∈ joinedRows c db (joins ++ [join]) outer rows ↔
      ∃ row ∈ joinedRows c db joins outer rows, ∃ record ∈ joinMatches c db join outer row,
        env = row ++ [(join.table.referenceName, record)] := by
  rw [joinedRows_append, joinedRows_cons]
  simp only [joinedRows, Multiset.mem_bind, Multiset.mem_map, eq_comm]

/-- A joined row begins with the row it comes from, and goes on with one for every join. -/
theorem joinedRows_extends {joins : List (Join Expr)} {row env : Env}
    (h : env ∈ joinedRows c db joins outer {row}) :
    ∃ more, env = row ++ more ∧ more.map Prod.fst = joins.map fun j => j.table.referenceName := by
  induction joins generalizing row with
  | nil => exact ⟨[], by simpa [joinedRows] using h, rfl⟩
  | cons join rest ih =>
    rw [joinedRows_cons, Multiset.singleton_bind, mem_joinedRows] at h
    obtain ⟨next, hnext, henv⟩ := h
    obtain ⟨record, _, rfl⟩ := Multiset.mem_map.mp hnext
    obtain ⟨more, rfl, hmore⟩ := ih henv
    exact ⟨(join.table.referenceName, record) :: more, by simp, by simp [hmore]⟩

/-- What a joined row has is that of the row it comes from, a record of a joined table, or the record
of a left join without a match. -/
theorem mem_of_mem_joinedRows {joins : List (Join Expr)} {row env : Env}
    (h : env ∈ joinedRows c db joins outer {row}) :
    ∀ entry ∈ env, entry ∈ row ∨ ∃ join ∈ joins, entry.1 = join.table.referenceName ∧
      (entry.2 ∈ db join.table.table ∨ entry.2 = nullRecord) := by
  induction joins generalizing row with
  | nil =>
    obtain rfl : env = row := by simpa [joinedRows] using h
    exact fun entry hentry => Or.inl hentry
  | cons join rest ih =>
    rw [joinedRows_cons, Multiset.singleton_bind, mem_joinedRows] at h
    obtain ⟨next, hnext, henv⟩ := h
    obtain ⟨record, hrecord, rfl⟩ := Multiset.mem_map.mp hnext
    intro entry hentry
    rcases ih henv entry hentry with hmem | ⟨other, hother, hrest⟩
    · rcases List.mem_append.mp hmem with hmem | hmem
      · exact Or.inl hmem
      · obtain rfl := List.mem_singleton.mp hmem
        refine Or.inr ⟨join, by simp, rfl, ?_⟩
        rcases (mem_matchingRows _ _ _ _).mp hrecord with ⟨hfound, _⟩ | ⟨_, hnull, _⟩
        · exact Or.inl hfound
        · exact Or.inr hnull
    · exact Or.inr ⟨other, by simp [hother], hrest⟩

/-- Joins that read the row before them and their own alone join the same rows whatever else is in
reach. -/
theorem joinedRows_outer {joins : List (Join Expr)} (names : List String)
    (hreads : ∀ j ∈ joins, j.condition.ReadsOnly (j.table.referenceName :: names)) {row : Env}
    (hrow : ∀ name ∈ names, name ∈ row.map Prod.fst) :
    joinedRows c db joins outer {row} = joinedRows c db joins [] {row} := by
  induction joins generalizing row with
  | nil => rfl
  | cons join rest ih =>
    have hmatches : joinMatches c db join outer row = joinMatches c db join [] row := by
      have hnames : ∀ record : Record, ∀ name ∈ join.table.referenceName :: names,
          name ∈ (row ++ [(join.table.referenceName, record)]).map Prod.fst := by
        intro record name hname
        rcases List.mem_cons.mp hname with rfl | hname
        · simp
        · simpa using Or.inl (by simpa using hrow name hname)
      have hvalue := fun record group => (hreads join (by simp)).append c db group
        {row ++ [(join.table.referenceName, record)]} outer (hnames record)
      simp only [joinMatches, hvalue, List.append_nil]
    have hrest : ∀ j ∈ rest, j.condition.ReadsOnly (j.table.referenceName :: names) :=
      fun j hj => hreads j (by simp [hj])
    simp only [joinedRows_cons, Multiset.singleton_bind, hmatches]
    rw [joinedRows_eq_bind, joinedRows_eq_bind rest]
    refine Multiset.bind_congr fun next hnext => ih hrest fun name hname => ?_
    obtain ⟨record, _, rfl⟩ := Multiset.mem_map.mp hnext
    simpa using Or.inl (by simpa using hrow name hname)

theorem exists_mem_joinedRows {joins : List (Join Expr)} (hleft : ∀ j ∈ joins, j.kind = .left)
    (row : Env) : ∃ env, env ∈ joinedRows c db joins outer {row} := by
  induction joins generalizing row with
  | nil => exact ⟨row, by simp [joinedRows]⟩
  | cons join rest ih =>
    have hkind : join.kind = .left := hleft join (by simp)
    obtain ⟨record, hrecord⟩ : ∃ record, record ∈ joinMatches c db join outer row := by
      unfold joinMatches
      rw [hkind]
      exact exists_mem_matchingRows_left _ _
    obtain ⟨env, henv⟩ := ih (fun j hj => hleft j (by simp [hj]))
      (row ++ [(join.table.referenceName, record)])
    refine ⟨env, ?_⟩
    rw [joinedRows_cons, Multiset.singleton_bind, mem_joinedRows]
    exact ⟨_, Multiset.mem_map_of_mem _ hrecord, henv⟩

end TenantGrid.Sql
