import Mathlib.Data.List.Basic
import TenantGrid.Proofs.Service.Interleaving
/-!
# Where counts come from

However the steps of requests are interleaved, a count in the cache was fetched by some request
under the same key, and stored after the last time that its tenant's counts were forgotten. It may
well have been fetched before: a change that is executed and forgotten between the fetch and the
insertion of a count leaves that count behind.
-/
namespace TenantGrid

open Service (PreparedChange)

/-- Whether a job stored a count that nothing has since made the cache forget. -/
def Kept (jobs : Nat → Job) (source n : Nat) (history : List Event) : Prop :=
  ∃ later earlier, history = later ++ .stored source n :: earlier ∧
    ∀ change, .forgot change ∈ later → (jobs change).tenant? ≠ (jobs source).tenant?

/-- Whether an entry of the cache was put there by a job and has been kept. -/
def HasSource (jobs : Nat → Job) (entry : CachedCount) (history : List Event) : Prop :=
  ∃ source, (jobs source).key? = some entry.key ∧ (jobs source).tenant? = some entry.tenant ∧
    Kept jobs source entry.count history

/-- What an event presupposes of those before it. -/
def Justified (jobs : Nat → Job) : Event → List Event → Prop
  | .looked job (some n), history =>
    ∃ source key, (jobs source).key? = some key ∧ (jobs job).key? = some key ∧
      Kept jobs source n history
  | .stored job n, history => .fetched job n ∈ history
  | .forgot job, history => .executed job ∈ history ∧ ∃ prepared, jobs job = .change prepared
  | .looked _ none, _ | .fetched _ _, _ | .executed _, _ => True

/-- Whether a count is what the store once answered to the statement of a job. -/
def Answered (jobs : Nat → Job) (session : Session) (job n : Nat) : Prop :=
  ∃ tenant filter statement later earlier, jobs job = .count tenant filter statement ∧
    session.sent = later ++ statement :: earlier ∧
    (Session.fetchCount ⟨session.store, earlier⟩ statement).1 = .ok n

/-- What holds of a service at work. -/
structure Traced (jobs : Nat → Job) (work : Work) : Prop where
  justified : ∀ event history, (event :: history) <:+ work.log → Justified jobs event history
  fetched : ∀ job n, work.stage job = .fetched n → .fetched job n ∈ work.log
  executed : ∀ job n, work.stage job = .executed n → .executed job ∈ work.log
  cached : ∀ entry ∈ work.cache.entries, HasSource jobs entry work.log
  answered : ∀ job n, .fetched job n ∈ work.log → Answered jobs work.session job n

variable {jobs : Nat → Job} {work : Work} {job now : Nat}

private theorem Kept.cons {source n : Nat} {history : List Event} (h : Kept jobs source n history)
    (event : Event)
    (hforgot : ∀ change, event = .forgot change → (jobs change).tenant? ≠ (jobs source).tenant?) :
    Kept jobs source n (event :: history) := by
  obtain ⟨later, earlier, rfl, hkept⟩ := h
  refine ⟨event :: later, earlier, rfl, fun change hchange => ?_⟩
  rcases List.mem_cons.mp hchange with heq | hmem
  · exact hforgot change heq.symm
  · exact hkept change hmem

/-- A count that is still kept after its tenant was forgotten has been stored since. -/
theorem Kept.since {source n change : Nat} {between earlier : List Event}
    (h : Kept jobs source n (between ++ .forgot change :: earlier))
    (htenant : (jobs change).tenant? = (jobs source).tenant?) :
    ∃ later more, between = later ++ .stored source n :: more := by
  obtain ⟨later, first, hhistory, hkept⟩ := h
  have hforgot : .forgot change ∉ later := fun hmem => hkept change hmem htenant
  rcases List.append_eq_append_iff.mp hhistory with ⟨more, rfl, hrest⟩ | ⟨more, rfl, hrest⟩
  · cases more with
    | nil => cases hrest
    | cons event more =>
      obtain ⟨rfl, _⟩ := List.cons.inj hrest
      exact absurd (by simp) hforgot
  · cases more with
    | nil => cases hrest
    | cons event more =>
      obtain ⟨rfl, _⟩ := List.cons.inj hrest
      exact ⟨later, more, rfl⟩

private theorem HasSource.cons {entry : CachedCount} {history : List Event}
    (h : HasSource jobs entry history) (event : Event)
    (hforgot : ∀ change, event = .forgot change → (jobs change).tenant? ≠ some entry.tenant) :
    HasSource jobs entry (event :: history) := by
  obtain ⟨source, hkey, htenant, hkept⟩ := h
  refine ⟨source, hkey, htenant, hkept.cons event fun change heq => ?_⟩
  rw [htenant]
  exact hforgot change heq

private theorem Answered.sending {session : Session} {n : Nat} (h : Answered jobs session job n)
    (statement : Sql.Statement) : Answered jobs (session.sending statement) job n := by
  obtain ⟨tenant, filter, own, later, earlier, hjob, hsent, hreply⟩ := h
  refine ⟨tenant, filter, own, statement :: later, earlier, hjob, ?_, hreply⟩
  rw [Session.sending, hsent, List.cons_append]

private theorem stage_update_cases {before : Nat → Stage} {entered stage : Stage} {other : Nat}
    (h : Function.update before job entered other = stage) :
    (other = job ∧ entered = stage) ∨ before other = stage := by
  by_cases heq : other = job
  · subst heq
    rw [Function.update_self] at h
    exact Or.inl ⟨rfl, h⟩
  · rw [Function.update_of_ne heq] at h
    exact Or.inr h

private theorem Traced.after {work' : Work} {event : Event} {stage : Stage} (h : Traced jobs work)
    (hlog : work'.log = event :: work.log)
    (hstage : work'.stage = Function.update work.stage job stage)
    (hjustified : Justified jobs event work.log)
    (hfetched : ∀ n, stage = .fetched n → event = .fetched job n)
    (hexecuted : ∀ n, stage = .executed n → event = .executed job)
    (hcached : ∀ entry ∈ work'.cache.entries, HasSource jobs entry (event :: work.log))
    (hanswered : ∀ job n, .fetched job n ∈ event :: work.log → Answered jobs work'.session job n) :
    Traced jobs work' := by
  constructor
  · intro e history hsuffix
    rw [hlog, List.suffix_cons_iff] at hsuffix
    rcases hsuffix with heq | hsuffix
    · obtain ⟨rfl, rfl⟩ := List.cons.inj heq
      exact hjustified
    · exact h.justified e history hsuffix
  · intro other n hother
    rw [hlog]
    rcases stage_update_cases (hstage ▸ hother) with ⟨rfl, heq⟩ | hbefore
    · exact hfetched n heq ▸ List.mem_cons_self
    · exact List.mem_cons_of_mem _ (h.fetched other n hbefore)
  · intro other n hother
    rw [hlog]
    rcases stage_update_cases (hstage ▸ hother) with ⟨rfl, heq⟩ | hbefore
    · exact hexecuted n heq ▸ List.mem_cons_self
    · exact List.mem_cons_of_mem _ (h.executed other n hbefore)
  · rw [hlog]
    exact hcached
  · rw [hlog]
    exact hanswered

private theorem Traced.ending {session : Session} {result : Except StoreError Nat}
    (h : Traced jobs work)
    (hanswered : ∀ job n, .fetched job n ∈ work.log → Answered jobs session job n) :
    Traced jobs ({ work with session }.entering job (.finished result)) := by
  constructor
  · exact h.justified
  · intro other n hother
    rcases stage_update_cases hother with ⟨_, heq⟩ | hbefore
    · cases heq
    · exact h.fetched other n hbefore
  · intro other n hother
    rcases stage_update_cases hother with ⟨_, heq⟩ | hbefore
    · cases heq
    · exact h.executed other n hbefore
  · exact h.cached
  · exact hanswered

private theorem Traced.answered_sending (h : Traced jobs work) (statement : Sql.Statement) :
    ∀ job n, .fetched job n ∈ work.log → Answered jobs (work.session.sending statement) job n :=
  fun job n hmem => (h.answered job n hmem).sending statement

private theorem Traced.cached_cons (h : Traced jobs work) {event : Event}
    (hevent : ∀ change, event ≠ .forgot change) :
    ∀ entry ∈ work.cache.entries, HasSource jobs entry (event :: work.log) :=
  fun entry hentry => (h.cached entry hentry).cons event fun change heq => absurd heq (hevent change)

private theorem Traced.lookUp (h : Traced jobs work) {key : String}
    (hkey : (jobs job).key? = some key) : Traced jobs (work.lookUp job now key) := by
  have hjustified : Justified jobs (.looked job (work.cache.get now key).1) work.log := by
    cases hfound : (work.cache.get now key).1 with
    | none => trivial
    | some n =>
      obtain ⟨entry, hentry, rfl, rfl, _⟩ := CountCache.get_hit hfound
      obtain ⟨source, hsource, _, hkept⟩ := h.cached entry hentry
      exact ⟨source, entry.key, hsource, hkey, hkept⟩
  refine h.after rfl rfl hjustified ?_ ?_ ?_ ?_
  · intro n hstage
    split at hstage <;> cases hstage
  · intro n hstage
    split at hstage <;> cases hstage
  · intro entry hentry
    have hafter : entry ∈ (work.cache.get now key).2.entries := hentry
    rw [CountCache.get_entries] at hafter
    exact h.cached_cons (by simp) entry hafter
  · intro other n hmem
    exact h.answered other n (by simpa using hmem)

private theorem Traced.fetch (h : Traced jobs work) {tenant : String} {filter : FilterModel}
    {statement : Sql.Statement} (hjob : jobs job = .count tenant filter statement) :
    Traced jobs (work.fetch job statement) := by
  rcases work.fetch_cases job statement with ⟨n, hreply, hfetch⟩ | ⟨error, hfetch⟩
  · have hanswered : Answered jobs (work.session.sending statement) job n :=
      ⟨tenant, filter, statement, [], work.session.sent, hjob, rfl, hreply⟩
    rw [hfetch]
    refine h.after rfl rfl trivial ?_ (by rintro m ⟨⟩) (h.cached_cons (by simp)) ?_
    · rintro m ⟨rfl⟩
      rfl
    · intro other m hmem
      rcases List.mem_cons.mp hmem with heq | hbefore
      · cases heq
        exact hanswered
      · exact h.answered_sending statement other m hbefore
  · rw [hfetch]
    exact h.ending (h.answered_sending statement)

private theorem Traced.remember (h : Traced jobs work) {tenant key : String} {n : Nat}
    (htenant : (jobs job).tenant? = some tenant) (hkey : (jobs job).key? = some key)
    (hstage : work.stage job = .fetched n) : Traced jobs (work.remember job now key tenant n) := by
  refine h.after rfl rfl (h.fetched job n hstage) (by rintro m ⟨⟩) (by rintro m ⟨⟩) ?_ ?_
  · intro entry hentry
    rcases CountCache.mem_insert hentry with rfl | hbefore
    · exact ⟨job, hkey, htenant, [], work.log, rfl, by simp⟩
    · exact h.cached_cons (by simp) entry hbefore
  · intro other m hmem
    exact h.answered other m (by simpa using hmem)

private theorem Traced.execute (h : Traced jobs work) (statement : Sql.Statement) :
    Traced jobs (work.execute job statement) := by
  rcases work.execute_cases job statement with ⟨changed, hexecute⟩ | ⟨error, hexecute⟩
  · rw [hexecute]
    refine h.after rfl rfl trivial (by rintro m ⟨⟩) (fun _ _ => rfl) (h.cached_cons (by simp)) ?_
    intro other m hmem
    exact h.answered_sending statement other m (by simpa using hmem)
  · rw [hexecute]
    exact h.ending (h.answered_sending statement)

private theorem Traced.forget (h : Traced jobs work) {prepared : PreparedChange} {changed : Nat}
    (hjob : jobs job = .change prepared) (hstage : work.stage job = .executed changed) :
    Traced jobs (work.forget job prepared.tenant changed) := by
  refine h.after rfl rfl ⟨h.executed job changed hstage, prepared, hjob⟩ (by rintro m ⟨⟩)
    (by rintro m ⟨⟩) ?_ ?_
  · intro entry hentry
    obtain ⟨hbefore, hne⟩ := CountCache.mem_invalidate.mp hentry
    refine (h.cached entry hbefore).cons _ ?_
    rintro change ⟨rfl⟩
    rw [hjob]
    exact fun heq => hne (Option.some.inj heq).symm
  · intro other m hmem
    exact h.answered other m (by simpa using hmem)

private theorem Traced.advance (h : Traced jobs work) (turn : Work.Turn) :
    Traced jobs (work.advance jobs turn) := by
  unfold Work.advance
  split
  · rename_i hjob _
    exact h.lookUp (by rw [hjob]; rfl)
  · rename_i hjob _
    exact h.fetch hjob
  · rename_i hjob hstage
    exact h.remember (by rw [hjob]; rfl) (by rw [hjob]; rfl) hstage
  · exact h.execute _
  · rename_i hjob hstage
    exact h.forget hjob hstage
  · exact h.ending (h.answered_sending _)
  · exact h

/-- A whole run keeps what every step keeps. -/
theorem Traced.run (h : Traced jobs work) (turns : List Work.Turn) :
    Traced jobs (work.run jobs turns) := by
  induction turns generalizing work with
  | nil => exact h
  | cons turn turns ih => exact ih (h.advance turn)

/-- A count found in the cache was once told to some job under the same key. -/
theorem Traced.hit_answered (h : Traced jobs work) {n : Nat} (hhit : .looked job (some n) ∈ work.log) :
    ∃ source key, (jobs source).key? = some key ∧ (jobs job).key? = some key ∧
      Answered jobs work.session source n := by
  obtain ⟨later, history, hlog⟩ := List.append_of_mem hhit
  have hlooked : (.looked job (some n) :: history) <:+ work.log := ⟨later, hlog.symm⟩
  obtain ⟨source, key, hsource, hkey, recent, earlier, rfl, _⟩ := h.justified _ _ hlooked
  have hstored : (.stored source n :: earlier) <:+ work.log :=
    List.IsSuffix.trans ⟨.looked job (some n) :: recent, rfl⟩ hlooked
  have hfetched : .fetched source n ∈ earlier := h.justified _ _ hstored
  have hmem : .fetched source n ∈ work.log := hstored.subset (List.mem_cons_of_mem _ hfetched)
  exact ⟨source, key, hsource, hkey, h.answered source n hmem⟩

theorem Work.IsNew.traced (h : work.IsNew) : Traced jobs work where
  justified event history hsuffix := by simp [h.log] at hsuffix
  fetched job n hstage := by simp [h.stage job] at hstage
  executed job n hstage := by simp [h.stage job] at hstage
  cached entry hentry := by simp [h.cache] at hentry
  answered job n hmem := by simp [h.log] at hmem

end TenantGrid
