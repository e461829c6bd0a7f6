import Mathlib.Logic.Function.Basic
import TenantGrid.Proofs.Cache.CountCache
import TenantGrid.Service.Bulk
import TenantGrid.Service.List
/-!
# Requests that take turns

A service works on many requests at once, and each of them stops where it waits for the store. A
count takes up to three steps: it looks into the cache, asks the store if nothing was found, and
stores what it was told. A change takes two: it is executed, and then the counts of its tenant are
forgotten. Between two steps of one request any others may take theirs.
-/
namespace TenantGrid

open Service (PreparedChange)

/-- What a request asks of the store and the cache. -/
inductive Job where
  | count (tenant : String) (filter : FilterModel) (statement : Sql.Statement)
  | change (prepared : PreparedChange)
  /-- Any other statement, such as that of a page. -/
  | send (statement : Sql.Statement)

namespace Job

def tenant? : Job → Option String
  | count tenant _ _ => some tenant
  | change prepared => some prepared.tenant
  | send _ => none

def countKey? : Job → Option CountKey
  | count tenant filter _ => some (.ofFilter tenant filter)
  | change _ | send _ => none

/-- The key that a count goes by in the cache. -/
def key? (job : Job) : Option String :=
  job.countKey?.map CountKey.digest

theorem tenant?_of_key? {job : Job} {key : String} (h : job.key? = some key) :
    ∃ tenant, job.tenant? = some tenant := by
  cases job with
  | count tenant filter statement => exact ⟨tenant, rfl⟩
  | change prepared => simp [key?, countKey?] at h
  | send statement => simp [key?, countKey?] at h

end Job

/-- How far a job has come. -/
inductive Stage where
  | waiting
  /-- There was no count in the cache. -/
  | missed
  | fetched (count : Nat)
  | executed (changed : Nat)
  | finished (result : Except StoreError Nat)

/-- What a step of a job did. -/
inductive Event where
  | looked (job : Nat) (found : Option Nat)
  | fetched (job count : Nat)
  | stored (job count : Nat)
  | executed (job : Nat)
  | forgot (job : Nat)
  deriving DecidableEq

/-- A service at work: what its jobs share, how far each has come, and what they did, the latest
first. -/
structure Work where
  session : Session
  cache : CountCache
  stage : Nat → Stage := fun _ => .waiting
  log : List Event := []

namespace Work

/-- A service that has done nothing yet. -/
structure IsNew (work : Work) : Prop where
  stage : ∀ job, work.stage job = .waiting
  log : work.log = []
  cache : work.cache.entries = []

def entering (work : Work) (job : Nat) (stage : Stage) : Work :=
  { work with stage := Function.update work.stage job stage }

def logging (work : Work) (event : Event) : Work :=
  { work with log := event :: work.log }

def lookUp (work : Work) (job now : Nat) (key : String) : Work :=
  let (found, cache) := work.cache.get now key
  let stage := match found with
    | some n => .finished (.ok n)
    | none => .missed
  ({ work with cache }.entering job stage).logging (.looked job found)

def fetch (work : Work) (job : Nat) (statement : Sql.Statement) : Work :=
  match work.session.fetchCount statement with
  | (.ok n, session) => ({ work with session }.entering job (.fetched n)).logging (.fetched job n)
  | (.error error, session) => { work with session }.entering job (.finished (.error error))

def remember (work : Work) (job now : Nat) (key tenant : String) (n : Nat) : Work :=
  ({ work with cache := work.cache.insert now key tenant n }.entering job
    (.finished (.ok n))).logging (.stored job n)

def execute (work : Work) (job : Nat) (statement : Sql.Statement) : Work :=
  match work.session.execute statement with
  | (.ok changed, session) =>
    ({ work with session }.entering job (.executed changed)).logging (.executed job)
  | (.error error, session) => { work with session }.entering job (.finished (.error error))

def forget (work : Work) (job : Nat) (tenant : String) (changed : Nat) : Work :=
  ({ work with cache := work.cache.invalidate tenant }.entering job
    (.finished (.ok changed))).logging (.forgot job)

def send (work : Work) (job : Nat) (statement : Sql.Statement) : Work :=
  let (rows, session) := work.session.fetchRows statement
  { work with session }.entering job (.finished (rows.map List.length))

/-- A turn of a job, taken at some reading of the clock. -/
structure Turn where
  job : Nat
  now : Nat

/-- The next step of the job whose turn it is. A job that has finished takes no more steps. -/
def advance (jobs : Nat → Job) (work : Work) (turn : Turn) : Work :=
  match jobs turn.job, work.stage turn.job with
  | .count tenant filter _, .waiting =>
    work.lookUp turn.job turn.now (CountKey.ofFilter tenant filter).digest
  | .count _ _ statement, .missed => work.fetch turn.job statement
  | .count tenant filter _, .fetched n =>
    work.remember turn.job turn.now (CountKey.ofFilter tenant filter).digest tenant n
  | .change prepared, .waiting => work.execute turn.job prepared.statement
  | .change prepared, .executed changed => work.forget turn.job prepared.tenant changed
  | .send statement, .waiting => work.send turn.job statement
  | _, _ => work

def run (jobs : Nat → Job) (work : Work) (turns : List Turn) : Work :=
  turns.foldl (advance jobs) work

theorem run_append (jobs : Nat → Job) (work : Work) (turns turns' : List Turn) :
    work.run jobs (turns ++ turns') = (work.run jobs turns).run jobs turns' :=
  List.foldl_append

theorem run_cons (jobs : Nat → Job) (work : Work) (turn : Turn) (turns : List Turn) :
    work.run jobs (turn :: turns) = (work.advance jobs turn).run jobs turns :=
  rfl

theorem lookUp_log (work : Work) (job now : Nat) (key : String) :
    (work.lookUp job now key).log = .looked job (work.cache.get now key).1 :: work.log :=
  rfl

theorem lookUp_session (work : Work) (job now : Nat) (key : String) :
    (work.lookUp job now key).session = work.session :=
  rfl

/-- The store is asked either way. A job that is told a count has fetched it, and any other ends. -/
theorem fetch_cases (work : Work) (job : Nat) (statement : Sql.Statement) :
    (∃ n, (work.session.fetchCount statement).1 = .ok n ∧ work.fetch job statement =
      ({ work with session := work.session.sending statement }.entering job (.fetched n)).logging
        (.fetched job n)) ∨
    ∃ error, work.fetch job statement =
      { work with session := work.session.sending statement }.entering job
        (.finished (.error error)) := by
  have hreply : work.session.fetchCount statement =
      ((work.session.fetchCount statement).1, work.session.sending statement) := rfl
  unfold fetch
  rw [hreply]
  cases (work.session.fetchCount statement).1 with
  | ok n => exact Or.inl ⟨n, rfl, rfl⟩
  | error error => exact Or.inr ⟨error, rfl⟩

theorem execute_cases (work : Work) (job : Nat) (statement : Sql.Statement) :
    (∃ changed, work.execute job statement =
      ({ work with session := work.session.sending statement }.entering job
        (.executed changed)).logging (.executed job)) ∨
    ∃ error, work.execute job statement =
      { work with session := work.session.sending statement }.entering job
        (.finished (.error error)) := by
  have hreply : work.session.execute statement =
      ((work.session.execute statement).1, work.session.sending statement) := rfl
  unfold execute
  rw [hreply]
  cases (work.session.execute statement).1 with
  | ok changed => exact Or.inl ⟨changed, rfl⟩
  | error error => exact Or.inr ⟨error, rfl⟩

section Uninterrupted

variable {jobs : Nat → Job} {work : Work} {job now : Nat} {service : Service}

/-- A count that is not interrupted answers as the service does. -/
theorem run_count {tenant : String} {filter : FilterModel} {statement : Sql.Statement}
    (hjob : jobs job = .count tenant filter statement) (hstage : work.stage job = .waiting)
    (hsession : service.session = work.session) (hcache : service.cache = some work.cache) :
    ∃ result, (work.run jobs (List.replicate 3 ⟨job, now⟩)).stage job = .finished result ∧
      service.count now tenant filter statement = (result, { service with
        session := (work.run jobs (List.replicate 3 ⟨job, now⟩)).session
        cache := some (work.run jobs (List.replicate 3 ⟨job, now⟩)).cache }) := by
  rcases hget : work.cache.get now (CountKey.ofFilter tenant filter).digest with ⟨_ | n, cache⟩
  · rcases hfetch : work.session.fetchCount statement with ⟨error | n, session⟩ <;>
      simp [run, advance, hjob, hstage, lookUp, fetch, remember, entering, logging, hget, hfetch,
        Service.count, Service.fetchCount, hcache, hsession]
  · simp [run, advance, hjob, hstage, lookUp, entering, logging, hget, Service.count, hcache,
      hsession]

/-- A change that is not interrupted does as the service does. -/
theorem run_change {prepared : PreparedChange} (hjob : jobs job = .change prepared)
    (hstage : work.stage job = .waiting) (hsession : service.session = work.session)
    (hcache : service.cache = some work.cache) :
    ∃ result, (work.run jobs (List.replicate 2 ⟨job, now⟩)).stage job = .finished result ∧
      service.runChange prepared = (result, { service with
        session := (work.run jobs (List.replicate 2 ⟨job, now⟩)).session
        cache := some (work.run jobs (List.replicate 2 ⟨job, now⟩)).cache }) := by
  rcases hexecute : work.session.execute prepared.statement with ⟨error | changed, session⟩ <;>
    simp [run, advance, hjob, hstage, execute, forget, entering, logging, hexecute,
      Service.runChange, hcache, hsession]

end Uninterrupted

end Work

end TenantGrid
