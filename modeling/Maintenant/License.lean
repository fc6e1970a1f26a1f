import Maintenant.Execution

/-!
# Licences

The manager asks the licence server once a day.  What a verified answer grants is held in memory and
in a signed cache, which is read again at the next start and when the server cannot be reached.  A
build released after the update window of the licence keeps its edition for 30 days, counted from a
record next to the cache.  Instants are nanoseconds since the zero time, which stands for none.
-/

namespace Maintenant.License

open Option Execution

def day : Int := 24 * 60 * 60 * 1000000000

/-- What a licence grants. -/
inductive Edition
  | community
  | personal
  | pro
  deriving DecidableEq

/-- A payload whose signature is valid; the window is what parsing it gives. -/
structure LicensePayload where
  status : String
  edition : String
  plan : String
  expiresAt : Int
  verifiedAt : Int
  updatesUntil : Option Int

/-- What the licence server answers. -/
inductive Answer
  | verified (payload : LicensePayload)
  /-- HTTP 401. -/
  | unauthorized
  /-- HTTP 403, with the status in its body. -/
  | forbidden (status : String)
  /-- No answer, another status code, or a signature that is not valid. -/
  | failed

/-- Status of the licence. -/
inductive Status
  /-- As the server has it. -/
  | server (status : String)
  | unknown
  | expired
  | revoked
  | unreachable
  | updateWindowGrace
  | updateWindowEnded

/-- What the manager holds in memory. -/
structure State where
  status : Status
  edition : Edition
  verifiedAt : Int
  expiresAt : Int
  updatesUntil : Int
  updateGraceUntil : Int

def State.community (status : Status) : State := ⟨status, .community, 0, 0, 0, 0⟩

/-- Since when the build is beyond the window. -/
structure UpdateWindowRecord where
  windowEnd : Int
  openedAt : Int

/-- The manager and its files. -/
structure Manager where
  state : State
  cache : Option LicensePayload
  record : Option UpdateWindowRecord
  /-- When the build was released, if its stamp can be read. -/
  buildDate : Option Int

def parseEdition (edition : String) : Edition :=
  if edition = "personal" then .personal else if edition = "pro" then .pro else .community

def LicensePayload.usable (p : LicensePayload) : Bool := p.status = "active" ∨ p.status = "grace"

def resolveEdition (p : LicensePayload) : Edition :=
  if !p.usable then .community
  else if p.edition ≠ "" then parseEdition p.edition
  else if p.plan = "personal" then .personal
  else .pro

def readWindowRecord (file : Option UpdateWindowRecord) : Option UpdateWindowRecord :=
  file.filter fun record => record.windowEnd ≠ 0 ∧ record.openedAt ≠ 0

/-- `reconcileWindow`: the record to hold, and whether it must be written. -/
def reconcileWindow (stored : Option UpdateWindowRecord) (windowEnd now : Int) :
    UpdateWindowRecord × Bool :=
  match stored with
  | none => (⟨windowEnd, now⟩, true)
  | some stored =>
    if stored.windowEnd < windowEnd then (⟨windowEnd, now⟩, true)
    else if now < stored.openedAt then (⟨windowEnd, now⟩, true)
    else (stored, false)

def updateGraceEnd (record : UpdateWindowRecord) : Int := record.openedAt + 30 * day

namespace Manager

/-- `enforceUpdateWindow`, with the record it leaves. -/
def enforceUpdateWindow (m : Manager) (state : State) (payload : LicensePayload) (now : Int) :
    State × Option UpdateWindowRecord :=
  match payload.updatesUntil with
  | none => (state, m.record)
  | some windowEnd =>
    let state := { state with updatesUntil := windowEnd }
    if state.edition = .community then (state, m.record)
    else match m.buildDate with
    | none => (state, m.record)
    | some buildDate =>
      if buildDate ≤ windowEnd then (state, m.record)
      else
        let (record, mustWrite) := reconcileWindow (readWindowRecord m.record) windowEnd now
        let file := if mustWrite then some record else m.record
        let state := { state with updateGraceUntil := updateGraceEnd record }
        if now < updateGraceEnd record then ({ state with status := .updateWindowGrace }, file)
        else ({ state with status := .updateWindowEnded, edition := .community }, file)

/-- The state `applyPayload` builds. -/
def granted (payload : LicensePayload) : State :=
  ⟨.server payload.status, resolveEdition payload, payload.verifiedAt, payload.expiresAt, 0, 0⟩

def applyPayload (m : Manager) (payload : LicensePayload) (now : Int) : Manager :=
  let enforced := m.enforceUpdateWindow (granted payload) payload now
  { m with state := enforced.1, record := enforced.2 }

def replayUpdateWindow (m : Manager) (now : Int) : Manager :=
  match m.cache with
  | none => m
  | some cached =>
    let enforced := m.enforceUpdateWindow m.state cached now
    { m with state := enforced.1, record := enforced.2 }

/-- `handleNetworkError`; within 60 days its cases differ in their messages only. -/
def handleNetworkError (m : Manager) (now : Int) : Manager :=
  if m.state.verifiedAt = 0 then { m with state := .community .unreachable }
  else if m.state.expiresAt ≠ 0 ∧ m.state.expiresAt < now then
    { m with
      cache := none
      state := { State.community .expired with expiresAt := m.state.expiresAt } }
  else if 60 * day < now - m.state.verifiedAt then
    { m with
      cache := none
      state := { State.community .unreachable with verifiedAt := m.state.verifiedAt } }
  else m.replayUpdateWindow now

def check (m : Manager) (now : Int) : Answer → Manager
  | .unauthorized => { m with cache := none, state := .community .unknown }
  | .forbidden status => { m with cache := none, state := .community (.server status) }
  | .failed => m.handleNetworkError now
  | .verified payload =>
    if payload.usable then { m.applyPayload payload now with cache := some payload }
    else if payload.status = "expired" then
      { m with
        cache := none
        state := { State.community .expired with expiresAt := payload.expiresAt } }
    else if payload.status = "revoked" then { m with cache := none, state := .community .revoked }
    else { m with state := .community (.server payload.status) }

def loadCache (m : Manager) (now : Int) : Manager :=
  match m.cache with
  | none => m
  | some cached =>
    if cached.expiresAt ≠ 0 ∧ cached.expiresAt < now then
      { m with
        cache := none
        state := { State.community .expired with expiresAt := cached.expiresAt } }
    else m.applyPayload cached now

/-- `NewManager` on the files of an earlier run. -/
def restart (m : Manager) (now : Int) (buildDate : Option Int) : Manager :=
  loadCache { m with state := .community .unknown, buildDate } now

/-- The window of the licence, if a paid edition is held by a build that was released after it. -/
def beyond (m : Manager) : Option Int :=
  (m.cache.bind LicensePayload.updatesUntil).filter fun window =>
    m.state.edition ≠ .community ∧ m.buildDate.any fun buildDate => window < buildDate

end Manager

/-! ### Runs -/

/-- Whether the server said something about the licence. -/
def Answer.authoritative : Answer → Bool
  | .failed => false
  | _ => true

/-- The window of a verified answer. -/
def Answer.window : Answer → Option Int
  | .verified payload => payload.updatesUntil
  | _ => none

/-- The daily check and a restart. -/
inductive Action
  | check (now : Int) (answer : Answer)
  /-- The process is started again, perhaps with another build. -/
  | restart (now : Int) (buildDate : Option Int)

/-- The manager over its runs, with history variables. -/
structure Life where
  manager : Manager
  last : Option Answer
  clock : Int
  windows : List Int
  /-- The checks that left a paid edition to a build beyond the window. -/
  graces : List (Int × Int)

namespace Life

def start (clock : Int) : Life := ⟨⟨.community .unknown, none, none, none⟩, none, clock, [], []⟩

def next (life : Life) : Action → Option Life
  | .check now answer =>
    let manager := life.manager.check now answer
    some {
      manager
      last := if answer.authoritative then some answer else life.last
      clock := now
      windows := life.windows ++ answer.window.toList
      graces := life.graces ++ (manager.beyond.map (·, now)).toList }
  | .restart now buildDate =>
    some { life with manager := life.manager.restart now buildDate, clock := now }

end Life

open Life (next)

/-! ### A negative verdict sticks -/

variable {action : Action} {m : Manager} {state : State} {payload : LicensePayload} {now : Int}
  {life after : Life} {out : State × Option UpdateWindowRecord}

theorem enforceUpdateWindow_frame (enforced : m.enforceUpdateWindow state payload now = out) :
    out.1.verifiedAt = state.verifiedAt ∧ out.1.expiresAt = state.expiresAt ∧
      (out.1.edition ≠ .community → state.edition ≠ .community) := by
  rw [← enforced, Manager.enforceUpdateWindow]
  split
  · exact ⟨rfl, rfl, fun paid => paid⟩
  dsimp only
  split
  · exact ⟨rfl, rfl, fun paid => paid⟩
  split
  · exact ⟨rfl, rfl, fun paid => paid⟩
  split
  · exact ⟨rfl, rfl, fun paid => paid⟩
  · split
    · exact ⟨rfl, rfl, fun paid => paid⟩
    · exact ⟨rfl, rfl, fun paid => absurd rfl paid⟩

theorem edition_of_unusable (unusable : ¬ payload.usable = true) :
    resolveEdition payload = .community := by
  rw [resolveEdition, if_pos (by simpa using unusable)]

/-- The cache and a paid edition come from the last authoritative answer. -/
structure Backed (life : Life) : Prop where
  cached : ∀ p ∈ life.manager.cache, p.usable = true ∧ life.last = some (.verified p)
  held : life.manager.state.edition ≠ .community → ∃ p, life.last = some (.verified p) ∧
    p.usable = true ∧ life.manager.state.verifiedAt = p.verifiedAt ∧
    life.manager.state.expiresAt = p.expiresAt

/-- A verified payload with a status the manager does not know comes while nothing is cached. -/
def Recognised (life : Life) : Action → Prop
  | .check _ (.verified p) =>
    p.status ∈ ["active", "grace", "expired", "revoked"] ∨ life.manager.cache = none
  | _ => True

theorem handleNetworkError_paid (paid : (m.handleNetworkError now).state.edition ≠ .community) :
    (m.handleNetworkError now).cache = m.cache ∧ m.state.edition ≠ .community ∧
      (m.handleNetworkError now).state.verifiedAt = m.state.verifiedAt ∧
      (m.handleNetworkError now).state.expiresAt = m.state.expiresAt ∧
      (m.state.expiresAt = 0 ∨ now ≤ m.state.expiresAt) ∧ now - m.state.verifiedAt ≤ 60 * day := by
  rw [Manager.handleNetworkError] at paid ⊢
  split_ifs at paid ⊢ with unverified expired outdated
  · exact absurd rfl paid
  · exact absurd rfl paid
  · exact absurd rfl paid
  have valid : m.state.expiresAt = 0 ∨ now ≤ m.state.expiresAt := by omega
  have recent : now - m.state.verifiedAt ≤ 60 * day := by omega
  unfold Manager.replayUpdateWindow at paid ⊢
  split at paid
  · exact ⟨rfl, paid, rfl, rfl, valid, recent⟩
  rename_i cached found
  obtain ⟨verified, expires, kept⟩ :=
    enforceUpdateWindow_frame (rfl : m.enforceUpdateWindow m.state cached now = _)
  exact ⟨rfl, kept paid, verified, expires, valid, recent⟩

theorem cache_handleNetworkError :
    (m.handleNetworkError now).cache = m.cache ∨ (m.handleNetworkError now).cache = none := by
  rw [Manager.handleNetworkError]
  split_ifs
  · exact .inl rfl
  · exact .inr rfl
  · exact .inr rfl
  · rw [Manager.replayUpdateWindow]
    split <;> exact .inl rfl

theorem applyPayload_paid (paid : (m.applyPayload payload now).state.edition ≠ .community) :
    payload.usable = true ∧ (m.applyPayload payload now).state.verifiedAt = payload.verifiedAt ∧
      (m.applyPayload payload now).state.expiresAt = payload.expiresAt := by
  obtain ⟨verified, expires, kept⟩ :=
    enforceUpdateWindow_frame
      (rfl : m.enforceUpdateWindow (Manager.granted payload) payload now = _)
  exact ⟨by_contra fun unusable => kept paid (edition_of_unusable unusable), verified, expires⟩

theorem Backed.start {clock : Int} : Backed (.start clock) :=
  ⟨nofun, fun paid => absurd rfl paid⟩

theorem Backed.step (backed : Backed life) (recognised : Recognised life action)
    (stepped : life.next action = some after) : Backed after := by
  cases action with
  | restart =>
    cases stepped
    obtain ⟨manager, last, clock, windows, graces⟩ := life
    obtain ⟨state, cache, record, build⟩ := manager
    cases cache with
    | none => exact ⟨nofun, fun paid => absurd rfl paid⟩
    | some cached =>
      obtain ⟨usable, last_eq⟩ := backed.cached cached rfl
      simp only [Manager.restart, Manager.loadCache]
      split_ifs
      · exact ⟨nofun, fun paid => absurd rfl paid⟩
      refine ⟨fun p mem => ?_, fun paid => ?_⟩
      · cases mem
        exact ⟨usable, last_eq⟩
      · exact ⟨cached, last_eq, applyPayload_paid paid⟩
  | check now answer =>
    cases stepped
    cases answer with
    | unauthorized | forbidden => exact ⟨nofun, fun paid => absurd rfl paid⟩
    | failed =>
      refine ⟨fun p mem => ?_, fun paid => ?_⟩
      · rcases cache_handleNetworkError with same | gone
        · exact backed.cached p (same ▸ mem)
        · exact absurd mem (by simp [Manager.check, gone])
      · obtain ⟨-, before, verified, expires, -⟩ := handleNetworkError_paid paid
        obtain ⟨p, last, usable, same_verified, same_expires⟩ := backed.held before
        exact ⟨p, last, usable, verified.trans same_verified, expires.trans same_expires⟩
    | verified payload =>
      simp only [Manager.check, Answer.authoritative]
      split_ifs with usable expired revoked
      · refine ⟨fun p mem => ?_, fun paid => ?_⟩
        · cases mem
          exact ⟨usable, rfl⟩
        · exact ⟨payload, rfl, applyPayload_paid paid⟩
      · exact ⟨nofun, fun paid => absurd rfl paid⟩
      · exact ⟨nofun, fun paid => absurd rfl paid⟩
      refine ⟨fun p mem => ?_, fun paid => absurd rfl paid⟩
      -- an unknown status leaves the cache, so that there must be none
      have empty : life.manager.cache = none := by
        refine recognised.resolve_left fun known => ?_
        simp only [LicensePayload.usable] at usable
        simp_all
      exact absurd mem (by simp [empty])

/-- If a payload with an unknown status comes only while nothing is cached, a check leaves a paid
edition only if the last authoritative answer of any run was a verified payload that is active or in
grace, and an unanswered check only if that has not expired and was verified at most 60 days ago. -/
theorem negative_verdict_sticks {clock now : Int} {actions : List Action} {answer : Answer}
    {life : Life} (execution : run next (.start clock) (actions ++ [.check now answer]) = some life)
    (recognised : Guarded next Recognised (.start clock) (actions ++ [.check now answer]))
    (paid : life.manager.state.edition ≠ .community) :
    ∃ p, life.last = some (.verified p) ∧ p.usable = true ∧ (answer.authoritative = false →
        (p.expiresAt = 0 ∨ now ≤ p.expiresAt) ∧ now - p.verifiedAt ≤ 60 * day) := by
  obtain ⟨before, backed, met, stepped⟩ := last_of_guarded
    (fun backed met stepped => Backed.step backed met stepped) (.start) execution recognised
  obtain ⟨p, last, usable, verified, expires⟩ := (backed.step met stepped).held paid
  refine ⟨p, last, usable, fun unanswered => ?_⟩
  rw [← verified, ← expires]
  cases answer with
  | verified | unauthorized | forbidden => cases unanswered
  | failed =>
    cases stepped
    obtain ⟨-, -, same_verified, same_expires, valid, recent⟩ := handleNetworkError_paid paid
    exact ⟨same_expires ▸ valid, same_verified ▸ recent⟩

private def proPayload (status : String) (updatesUntil : Option Int) : LicensePayload :=
  ⟨status, "pro", "", 0, day, updatesUntil⟩

theorem negative_verdict_sticks_offline :
    ∃ life, run next (.start 0) ([.check day (.verified (proPayload "grace" none)),
        .restart (2 * day) none] ++ [.check (3 * day) .failed]) = some life ∧
      ∃ p, life.last = some (.verified p) ∧ p.usable = true ∧ (Answer.failed.authoritative = false →
          (p.expiresAt = 0 ∨ 3 * day ≤ p.expiresAt) ∧ 3 * day - p.verifiedAt ≤ 60 * day) := by
  have execution : run next (.start 0) ([.check day (.verified (proPayload "grace" none)),
      .restart (2 * day) none] ++ [.check (3 * day) .failed]) = some _ := rfl
  exact ⟨_, execution,
    negative_verdict_sticks execution ⟨.inr rfl, trivial, trivial, trivial⟩ (by decide)⟩

/-- An unknown status takes the edition away, but the cache gives it back at the next start. -/
theorem unknown_status_forgotten :
    ∃ life, run next (.start 0) [.check day (.verified (proPayload "active" none)),
        .check (2 * day) (.verified (proPayload "suspended" none)), .restart (3 * day) none,
        .check (4 * day) .failed] = some life ∧
      life.last = some (.verified (proPayload "suspended" none)) ∧
      life.manager.state.edition = .pro :=
  ⟨_, rfl, rfl, by decide⟩

/-! ### The grace is granted once -/

section Window

variable {clock window : Int} {windows : List Int} {graces : List (Int × Int)}
  {record : Option UpdateWindowRecord}

/-- The record dates the grace of the newest window that had one. -/
structure Anchored (record : Option UpdateWindowRecord) (windows : List Int)
    (graces : List (Int × Int)) (clock : Int) : Prop where
  readable : readWindowRecord record = record
  opened : ∀ r ∈ record, r.openedAt ≤ clock ∧ r.windowEnd ∈ windows
  dated : ∀ grace ∈ graces, ∃ r ∈ record,
    grace.1 < r.windowEnd ∨ grace.1 = r.windowEnd ∧ r.openedAt ≤ grace.2

/-- The record is of no later window. -/
def Newest (record : Option UpdateWindowRecord) (windows : List Int) (window : Int) : Prop :=
  window ≠ 0 ∧ window ∈ windows ∧ ∀ r ∈ record, r.windowEnd ≤ window

theorem Anchored.later (anchored : Anchored record windows graces clock) (forward : clock ≤ now) :
    Anchored record windows graces now :=
  ⟨anchored.readable,
    fun r mem => (anchored.opened r mem).imp_left fun past => Int.le_trans past forward,
    anchored.dated⟩

theorem Anchored.reconcile (anchored : Anchored record windows graces now) (set : now ≠ 0)
    (newest : Newest record windows window) :
    ∃ r, (reconcileWindow (readWindowRecord record) window now).1 = r ∧ r.windowEnd = window ∧
      (if (reconcileWindow (readWindowRecord record) window now).2 then some r else record)
        = some r ∧ Anchored (some r) windows graces now := by
  obtain ⟨nonzero, mem, bounded⟩ := newest
  have opening (dated : ∀ grace ∈ graces, grace.1 < window) :
      Anchored (some ⟨window, now⟩) windows graces now :=
    ⟨by simp [readWindowRecord, nonzero, set], by simp [mem],
      fun grace graced => ⟨_, rfl, .inl (dated grace graced)⟩⟩
  rw [anchored.readable]
  cases record with
  | none =>
    refine ⟨⟨window, now⟩, rfl, rfl, rfl, opening fun grace graced => ?_⟩
    obtain ⟨_, absent, -⟩ := anchored.dated grace graced
    cases absent
  | some r =>
    have same_or_older := bounded r rfl
    have past := (anchored.opened r rfl).1
    by_cases renewed : r.windowEnd < window
    · refine ⟨⟨window, now⟩, by simp [reconcileWindow, renewed], rfl,
        by simp [reconcileWindow, renewed], opening fun grace graced => ?_⟩
      obtain ⟨_, held, older⟩ := anchored.dated grace graced
      cases held
      omega
    · have kept : reconcileWindow (some r) window now = (r, false) := by
        simp only [reconcileWindow, renewed, if_false, if_neg (show ¬ now < r.openedAt by omega)]
      exact ⟨r, by rw [kept], by omega, by rw [kept]; rfl, anchored⟩

theorem mem_beyond : window ∈ m.beyond ↔ m.state.edition ≠ .community ∧
    ∃ p ∈ m.cache, window ∈ p.updatesUntil ∧ ∃ b ∈ m.buildDate, window < b := by
  simp only [Manager.beyond, mem_def, filter_eq_some_iff, bind_eq_some_iff, any_eq_true]
  grind

/-- What the manager guarantees about its grace at `clock`. -/
structure Graced (m : Manager) (windows : List Int) (graces : List (Int × Int)) (clock : Int) :
    Prop where
  anchored : Anchored m.record windows graces clock
  cached : ∀ p ∈ m.cache, ∀ w ∈ p.updatesUntil, Newest m.record windows w
  held : m.state.edition ≠ .community → m.cache.isSome
  timely : ∀ w ∈ m.beyond, ∃ r ∈ m.record, r.windowEnd = w ∧ clock < updateGraceEnd r
  bridled : m.state.status = .updateWindowEnded →
    ∃ p ∈ m.cache, ∃ w ∈ p.updatesUntil, ∃ b ∈ m.buildDate, w < b

/-- The window of the licence lets the build keep its edition. -/
def Covered (payload : LicensePayload) (buildDate : Option Int) : Prop :=
  ∀ w ∈ payload.updatesUntil, ∀ b ∈ buildDate, b ≤ w

theorem enforceUpdateWindow_spared (enforced : m.enforceUpdateWindow state payload now = out)
    (spared : state.edition = .community ∨ Covered payload m.buildDate) :
    out.1.edition = state.edition ∧ out.1.status = state.status ∧ out.2 = m.record := by
  rw [← enforced, Manager.enforceUpdateWindow]
  split
  · exact ⟨rfl, rfl, rfl⟩
  rename_i w found
  dsimp only
  split
  · exact ⟨rfl, rfl, rfl⟩
  rename_i paid
  split
  · exact ⟨rfl, rfl, rfl⟩
  next b built =>
    rw [if_pos (spared.resolve_left paid w found b built)]
    exact ⟨rfl, rfl, rfl⟩

theorem enforceUpdateWindow_late {w b : Int} (paid : state.edition ≠ .community)
    (found : payload.updatesUntil = some w) (built : m.buildDate = some b) (late : w < b)
    (enforced : m.enforceUpdateWindow state payload now = out) :
    out.2 = (if (reconcileWindow (readWindowRecord m.record) w now).2
        then some (reconcileWindow (readWindowRecord m.record) w now).1 else m.record) ∧
      (now < updateGraceEnd (reconcileWindow (readWindowRecord m.record) w now).1 ∨
        out.1.edition = .community) := by
  have beyond : ¬ b ≤ w := by omega
  simp only [← enforced, Manager.enforceUpdateWindow, found, built, if_neg paid, if_neg beyond]
  split
  · exact ⟨rfl, .inl ‹_›⟩
  · exact ⟨rfl, .inr rfl⟩

/-- What `enforceUpdateWindow` leaves is as it should be, if the state it starts from is. -/
theorem Graced.enforce (enforced : m.enforceUpdateWindow state payload now = out)
    (anchored : Anchored m.record windows graces now) (set : now ≠ 0)
    (newest : ∀ w ∈ payload.updatesUntil, Newest m.record windows w)
    (bridled : state.status = .updateWindowEnded →
      ∃ w ∈ payload.updatesUntil, ∃ b ∈ m.buildDate, w < b) :
    Graced ⟨out.1, some payload, out.2, m.buildDate⟩ windows graces now := by
  by_cases spared : state.edition = .community ∨ Covered payload m.buildDate
  · obtain ⟨edition, status, file⟩ := enforceUpdateWindow_spared enforced spared
    rw [file]
    refine ⟨anchored, fun p mem => ?_, fun _ => rfl, fun w mem => ?_, fun ended => ?_⟩
    · cases mem
      exact newest
    · obtain ⟨paid, p, held, found, b, built, late⟩ := mem_beyond.mp mem
      cases held
      rw [edition] at paid
      have := spared.resolve_left paid w found b built
      omega
    · exact ⟨payload, rfl, bridled (status ▸ ended)⟩
  · simp only [not_or, Covered, not_forall, Int.not_le] at spared
    obtain ⟨paid, w, found, b, built, late⟩ := spared
    obtain ⟨file, verdict⟩ := enforceUpdateWindow_late paid found built late enforced
    obtain ⟨r, held, same, written, anchored⟩ := anchored.reconcile set (newest w found)
    rw [held] at file verdict
    rw [file, written]
    refine ⟨anchored, fun p mem v window => ?_, fun _ => rfl, fun v mem => ?_, fun ended => ?_⟩
    · cases mem
      cases found.symm.trans window
      exact ⟨(newest w found).1, (newest w found).2.1, by simp [same]⟩
    · obtain ⟨kept, p, held, window, -⟩ := mem_beyond.mp mem
      cases held
      cases found.symm.trans window
      exact ⟨r, rfl, same, verdict.resolve_right kept⟩
    · exact ⟨payload, rfl, w, found, b, built, late⟩

theorem Graced.lost {cache : Option LicensePayload}
    (anchored : Anchored m.record windows graces now)
    (cached : ∀ p ∈ cache, ∀ w ∈ p.updatesUntil, Newest m.record windows w)
    (lost : state.edition = .community) (other : state.status ≠ .updateWindowEnded) :
    Graced { m with state, cache } windows graces now :=
  ⟨anchored, cached, fun paid => absurd lost paid,
    fun _ mem => absurd lost (mem_beyond.mp mem).1, fun ended => absurd ended other⟩

theorem Graced.handleNetworkError (graced : Graced m windows graces clock) (forward : clock ≤ now)
    (set : now ≠ 0) : Graced (m.handleNetworkError now) windows graces now := by
  have anchored := graced.anchored.later forward
  rw [Manager.handleNetworkError]
  split_ifs
  · exact .lost anchored graced.cached rfl nofun
  · exact .lost anchored nofun rfl nofun
  · exact .lost anchored nofun rfl nofun
  obtain ⟨state, cache, record, build⟩ := m
  cases cache with
  | none =>
    refine ⟨anchored, nofun, graced.held, fun w mem => ?_, graced.bridled⟩
    obtain ⟨-, _, absent, -⟩ := mem_beyond.mp mem
    cases absent
  | some cached =>
    refine .enforce rfl anchored set (graced.cached cached rfl) fun ended => ?_
    obtain ⟨_, held, bridled⟩ := graced.bridled ended
    cases held
    exact bridled

theorem Graced.restart (graced : Graced m windows graces clock) (forward : clock ≤ now)
    (set : now ≠ 0) {build : Option Int} : Graced (m.restart now build) windows graces now := by
  have anchored := graced.anchored.later forward
  obtain ⟨state, cache, record, _⟩ := m
  cases cache with
  | none => exact .lost (m := ⟨state, none, record, build⟩) anchored nofun rfl nofun
  | some cached =>
    simp only [Manager.restart, Manager.loadCache]
    split_ifs
    · exact .lost (m := ⟨state, none, record, build⟩) anchored nofun rfl nofun
    · exact .enforce (m := ⟨_, some cached, record, build⟩) rfl anchored set
        (graced.cached cached rfl) nofun

/-- The clock and the windows do not go back, and neither is the zero time. -/
def Forward (life : Life) : Action → Prop
  | .check now answer => life.clock ≤ now ∧ now ≠ 0 ∧
    ∀ w ∈ answer.window, w ≠ 0 ∧ ∀ earlier ∈ life.windows, earlier ≤ w
  | .restart now _ => life.clock ≤ now ∧ now ≠ 0

theorem Graced.wider (graced : Graced m windows graces clock) (more : List Int) :
    Graced m (windows ++ more) graces clock where
  anchored := ⟨graced.anchored.readable,
    fun r mem => (graced.anchored.opened r mem).imp_right (List.mem_append_left more),
    graced.anchored.dated⟩
  cached p mem w found :=
    (graced.cached p mem w found).imp_right (And.imp_left (List.mem_append_left more))
  held := graced.held
  timely := graced.timely
  bridled := graced.bridled

theorem Graced.check {answer : Answer} (graced : Graced m windows graces clock)
    (forward : clock ≤ now) (set : now ≠ 0)
    (newer : ∀ w ∈ answer.window, w ≠ 0 ∧ ∀ earlier ∈ windows, earlier ≤ w) :
    Graced (m.check now answer) (windows ++ answer.window.toList) graces now := by
  have wider := graced.wider answer.window.toList
  have anchored := wider.anchored.later forward
  cases answer with
  | unauthorized | forbidden => exact .lost anchored nofun rfl nofun
  | failed => exact wider.handleNetworkError forward set
  | verified =>
    rw [Manager.check]
    split_ifs
    · refine .enforce (m := m) rfl anchored set (fun w found => ?_) nofun
      obtain ⟨nonzero, newest⟩ := newer w found
      exact ⟨nonzero, List.mem_append_right _ (mem_toList.mpr found),
        fun r mem => newest _ (graced.anchored.opened r mem).2⟩
    · exact .lost anchored nofun rfl nofun
    · exact .lost anchored nofun rfl nofun
    · exact .lost anchored wider.cached rfl nofun

theorem Graced.noted (graced : Graced m windows graces now) :
    Graced m windows (graces ++ (m.beyond.map (·, now)).toList) now where
  anchored := by
    refine ⟨graced.anchored.readable, graced.anchored.opened, fun grace mem => ?_⟩
    rcases List.mem_append.mp mem with old | new
    · exact graced.anchored.dated grace old
    simp only [mem_toList, map_eq_some_iff] at new
    obtain ⟨w, beyond, rfl⟩ := new
    obtain ⟨r, held, same, -⟩ := graced.timely w beyond
    exact ⟨r, held, .inr ⟨same.symm, (graced.anchored.opened r held).1⟩⟩
  cached := graced.cached
  held := graced.held
  timely := graced.timely
  bridled := graced.bridled

/-- `Graced` of a whole life. -/
def Life.Graced (life : Life) : Prop :=
  License.Graced life.manager life.windows life.graces life.clock

theorem Life.Graced.step (graced : life.Graced) (forward : Forward life action)
    (stepped : life.next action = some after) : after.Graced := by
  cases action with
  | check =>
    cases stepped
    exact (License.Graced.check graced forward.1 forward.2.1 forward.2.2).noted
  | restart =>
    cases stepped
    exact License.Graced.restart graced forward.1 forward.2

theorem Life.Graced.start : (Life.start clock).Graced :=
  ⟨⟨rfl, nofun, nofun⟩, nofun, fun paid => absurd rfl paid, nofun, nofun⟩

/-- A paid edition has its licence in the cache, and a build that it covers is not bridled. -/
def Life.Fair (life : Life) : Prop :=
  (life.manager.state.edition ≠ .community → life.manager.cache.isSome) ∧
    ∀ p ∈ life.manager.cache, Covered p life.manager.buildDate →
      life.manager.state.status ≠ .updateWindowEnded

theorem Life.Graced.fair (graced : life.Graced) : life.Fair := by
  refine ⟨graced.held, fun p cached covered ended => ?_⟩
  obtain ⟨_, held, w, found, b, built, late⟩ := graced.bridled ended
  cases cached.symm.trans held
  have := covered w found b built
  omega

theorem edition_check_verified
    (covered : Covered payload (m.check now (.verified payload)).buildDate) :
    (m.check now (.verified payload)).state.edition = resolveEdition payload := by
  rw [Manager.check] at covered ⊢
  split_ifs at covered ⊢ with usable
  · exact (enforceUpdateWindow_spared (m := m) rfl (.inr covered)).1
  · exact (edition_of_unusable usable).symm
  · exact (edition_of_unusable usable).symm
  · exact (edition_of_unusable usable).symm

/-- If neither the clock nor the windows in verified payloads go back or are the zero time, a check
that leaves a paid edition to a build beyond the window comes less than 30 days after every other
such check for that window. At every moment the licence of a paid edition is the cached one and a
build that it covers is not bridled, and a verified answer gives a covered build the edition it
grants. -/
theorem update_grace_granted_once {clock now : Int} {actions : List Action} {answer : Answer}
    {life : Life} (execution : run next (.start clock) (actions ++ [.check now answer]) = some life)
    (forward : Guarded next Forward (.start clock) (actions ++ [.check now answer])) :
    (∀ w ∈ life.manager.beyond, ∀ t, (w, t) ∈ life.graces → now < t + 30 * day) ∧
      Always next Life.Fair (.start clock) (actions ++ [.check now answer]) ∧
      ∀ p, answer = .verified p → Covered p life.manager.buildDate →
        life.manager.state.edition = resolveEdition p := by
  have kept : ∀ {before after : Life} {action : Action}, before.Graced → Forward before action →
      before.next action = some after → after.Graced :=
    fun graced met stepped => graced.step met stepped
  obtain ⟨before, sound, met, stepped⟩ := last_of_guarded kept .start execution forward
  have graced := sound.step met stepped
  refine ⟨fun w beyond t noted => ?_, ?_, ?_⟩
  · obtain ⟨r, held, same, timely⟩ := graced.timely w beyond
    obtain ⟨_, again, dated⟩ := graced.anchored.dated _ noted
    cases held.symm.trans again
    cases stepped
    simp only [updateGraceEnd] at timely dated
    omega
  · exact always_of_guarded Life.Graced kept (fun _ graced => graced.fair) .start forward
  · rintro p rfl covered
    cases stepped
    exact edition_check_verified covered

/-- A build of day 20 under a window that ends at day 10: updated at day 30, rolled back, updated
again. -/
theorem update_grace_granted_once_after_rollback :
    ∃ life, run next (.start 0) ([.restart (30 * day) (some (20 * day)),
        .check (30 * day) (.verified (proPayload "active" (some (10 * day)))),
        .restart (40 * day) (some (5 * day)), .check (40 * day) .failed,
        .restart (50 * day) (some (20 * day))] ++ [.check (50 * day) .failed]) = some life ∧
      life.graces = [(10 * day, 30 * day), (10 * day, 50 * day)] ∧
      (∀ w ∈ life.manager.beyond, ∀ t, (w, t) ∈ life.graces → 50 * day < t + 30 * day) := by
  have execution : run next (.start 0) ([.restart (30 * day) (some (20 * day)),
      .check (30 * day) (.verified (proPayload "active" (some (10 * day)))),
      .restart (40 * day) (some (5 * day)), .check (40 * day) .failed,
      .restart (50 * day) (some (20 * day))] ++ [.check (50 * day) .failed]) = some _ := rfl
  refine ⟨_, execution, by decide +kernel, (update_grace_granted_once execution ?_).1⟩
  exact ⟨⟨by decide, by decide⟩, ⟨by decide, by decide, by decide⟩, ⟨by decide, by decide⟩,
    ⟨by decide, by decide, nofun⟩, ⟨by decide, by decide⟩, ⟨by decide, by decide, nofun⟩, trivial⟩

/-- The first of January 2026. -/
private def released : Int := 739616 * day

/-- The record of a window that ends at the zero time is never read back: after 100 days the grace
is opened once more. -/
theorem zero_window_grace_restarts : ∃ life,
    run next (.start released) [.restart released (some released),
        .check released (.verified (proPayload "active" (some 0))),
        .check (released + 100 * day) (.verified (proPayload "active" (some 0)))] = some life ∧
      life.manager.beyond = some 0 ∧ (0, released) ∈ life.graces ∧
      ¬released + 100 * day < released + 30 * day :=
  ⟨_, rfl, by decide +kernel, by decide +kernel, by decide⟩

end Window

end Maintenant.License
