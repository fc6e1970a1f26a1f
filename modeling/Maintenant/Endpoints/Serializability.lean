import Maintenant.Endpoints.Checks
import Maintenant.Ledger
import Mathlib.Data.List.Permutation

/-!
# Concurrent check results

A scheduled check and checks on demand are processed by threads of their own, each of which reads
the endpoint, writes counters computed from what it read, and has the thresholds evaluated on what
it reads then.  Beside the tables we keep what each thread has read, who has written the endpoint
and not returned, and a ledger.  If no thread writes while another is past its write, and what a
thread uses of the row it read still holds when it writes, then the counters, the status, the alert
state and the alerts are those of the results processed one after the other.
-/

namespace Maintenant.Endpoints

open Alerting Contract.Triple Option Execution Ledger EndpointStore

/-- The book, and who has read and written what. -/
structure Desk where
  book : CheckBook
  reads : Nat → Option Endpoint
  /-- Who has written the endpoint and not returned. -/
  turn : Option Nat
  ledger : Ledger Check

/-- What the call uses of the row it read still holds of the row as it is now. -/
def Check.Fresh (read now : Endpoint) (check : Check) : Prop :=
  now.alertState = read.alertState ∧
    (check.result.success = true → now.consecutiveSuccesses = read.consecutiveSuccesses) ∧
    (check.result.success = false → now.consecutiveFailures = read.consecutiveFailures)

instance (read now : Endpoint) (check : Check) : Decidable (check.Fresh read now) :=
  inferInstanceAs (Decidable (_ ∧ (_ → _) ∧ (_ → _)))

/-- The endpoint whose columns the call writes. -/
def CheckCall.target : {β : Type} → CheckCall β → Option EndpointId
  | _, .updateCheckResult id _ _ => some id
  | _, _ => none

namespace Desk

def start (book : CheckBook) : Desk where
  book := book
  reads _ := none
  turn := none
  ledger := .empty

/-- What is kept of a call. -/
def note (who : Nat) : {β : Type} → CheckCall β → Desk → Desk
  | _, .getEndpointByID id, desk =>
    if desk.turn = some who then desk
    else { desk with
      reads := Function.update desk.reads who (desk.book.store.getEndpointByID id) }
  | _, .updateCheckResult _ _ _, desk => { desk with turn := some who }
  | _, .return_, desk =>
    { desk with
      turn := if desk.turn = some who then none else desk.turn
      ledger := desk.ledger.commit who }
  | _, _, desk => desk

def exec (who : Nat) {β : Type} (call : CheckCall β) (desk : Desk) : β × Desk :=
  let answered := call.exec desk.book
  (answered.1, { desk.note who call with book := answered.2 })

/-- Whoever writes first waits for those who have written to return, and finds what it uses as it
read it. -/
def WritesFresh (who : Nat) (check : Check) (_ : Unit) {β : Type} (call : CheckCall β)
    (desk : Desk) :
    Prop :=
  ∀ id ∈ call.target, desk.turn ≠ some who →
    desk.turn = none ∧ ∀ read ∈ desk.reads who, ∀ now ∈ desk.book.store.getEndpointByID id,
      check.Fresh read now

instance (who : Nat) (check : Check) (input : Unit) {β : Type} (call : CheckCall β) (desk : Desk) :
    Decidable (WritesFresh who check input call desk) := by
  unfold WritesFresh
  infer_instance

/-- Any number of threads process results of one endpoint. -/
def shop (deps : ServiceDeps) (id : EndpointId) :
    Workshop CheckCall Unit Desk Check where
  exec who _ _ _ call desk := exec who call desk
  enabled _ _ _ _ := true
  enter who check desk := { desk with ledger := desk.ledger.start who check }
  code := Check.code deps id
  may _ _ := true
  mortal _ := false

end Desk

/-! ### What the threads agree on -/

variable {deps : ServiceDeps} {id : EndpointId} {initial : CheckBook}
  {desk : Desk} {who other : Nat} {check : Check} {α β : Type}

/-- What the calls of a journal make of the endpoint, one after the other. -/
def tally (deps : ServiceDeps) (id : EndpointId) (initial : CheckBook)
    (desk : Desk) : Standing :=
  desk.ledger.journal.foldl (fun s check => s.after deps check) (initial.standing id)

variable {book : CheckBook} {checks : List Check}

theorem standing_replay : (replay deps id book checks).standing id =
      checks.foldl (fun s check => s.after deps check) (book.standing id) := by
  induction checks generalizing book with
  | nil => rfl
  | cons check checks ih => rw [List.foldl_cons, ← standing_perform, ← ih, replay,
      List.foldl_cons, replay]

theorem isSome_row_foldl {s : Standing} :
    (checks.foldl (fun s check => s.after deps check) s).row.isSome = s.row.isSome := by
  induction checks generalizing s with
  | nil => rfl
  | cons check checks ih => rw [List.foldl_cons, ih, isSome_row_after]

variable {call : CheckCall β}

theorem isSome_exec :
    ((call.exec book).2.standing id).row.isSome = (book.standing id).row.isSome := by
  cases call with
  | updateCheckResult target update now =>
    change ((getEndpointByID _ id).map _).isSome = (Option.map _ _).isSome
    rw [isSome_map, isSome_map]
    change (getEndpointByID (updateCheckResult target update now book.store) id).isSome = _
    rw [getEndpointByID_updateCheckResult]
    split
    · exact isSome_map
    · rfl
  | insertCheckResult target result =>
    change ((record target result book.store).endpoints.lookup id |>.map _).isSome = _
    rw [EndpointMonitor.endpoints_record]
    rfl
  | getEndpointByID | emitAlert | emitStatusChanged | emitThreshold | return_ => rfl

/-- The endpoint is where its journal leads, unless somebody is about to take effect. -/
structure Mirrors (deps : ServiceDeps) (id : EndpointId)
    (initial : CheckBook) (desk : Desk) : Prop where
  balanced : desk.ledger.Balanced
  /-- Between writes the endpoint is where the journal leads. -/
  settled : desk.turn = none → desk.book.standing id = tally deps id initial desk
  known : (desk.book.standing id).row.isSome = (initial.standing id).row.isSome

/-- What checks rely on and owe each other. -/
def agreement (deps : ServiceDeps) (id : EndpointId)
    (initial : CheckBook) : Contract CheckCall Unit Desk Check where
  inv := Mirrors deps id initial
  rely who before after :=
    after.reads who = before.reads who ∧ after.ledger.owed who = before.ledger.owed who ∧
      (before.turn ≠ some who → after.turn ≠ some who) ∧
      (before.turn = some who → after.turn = some who ∧
        after.book.standing id = before.book.standing id ∧
        tally deps id initial after = tally deps id initial before)
  allowed := Desk.WritesFresh
  idle who desk := desk.ledger.owed who = none ∧ desk.turn ≠ some who
  refl _ _ := ⟨rfl, rfl, fun other => other, fun mine => ⟨mine, rfl, rfl⟩⟩
  trans := by
    rintro who first middle last ⟨reads, owed, away, mine⟩
        ⟨later_reads, later_owed, later_away, later_mine⟩
    refine ⟨later_reads.trans reads, later_owed.trans owed, later_away ∘ away, ?_⟩
    intro held
    obtain ⟨still, book, journal⟩ := mine held
    obtain ⟨kept, later_book, later_journal⟩ := later_mine still
    exact ⟨kept, later_book.trans book, later_journal.trans journal⟩

/-- The check is yet to take effect. -/
def Waiting (who : Nat) (check : Check) (desk : Desk) : Prop :=
  desk.ledger.owed who = some check ∧ desk.turn ≠ some who

/-- The call has read the endpoint and not written. -/
def Loaded (who : Nat) (check : Check) (read : Endpoint) (desk : Desk) : Prop :=
  Waiting who check desk ∧ desk.reads who = some read

/-- The call has written, and this is how the endpoint compares with where the journal leads. -/
def Holding (deps : ServiceDeps) (id : EndpointId) (initial : CheckBook)
    (who : Nat) (check : Check) (rel : Standing → Standing → Prop) (desk : Desk) : Prop :=
  desk.ledger.owed who = some check ∧ desk.turn = some who ∧
    rel (tally deps id initial desk) (desk.book.standing id)

theorem waiting_stable : (agreement deps id initial).Stable who (Waiting who check) := by
  rintro before after ⟨owes, away⟩ ⟨⟨-, owed, still, -⟩, -⟩
  exact ⟨owed.trans owes, still away⟩

variable {read : Endpoint}

theorem loaded_stable : (agreement deps id initial).Stable who (Loaded who check read) := by
  rintro before after ⟨waiting, reading⟩ later
  exact ⟨waiting_stable before after waiting later, later.1.1.trans reading⟩

theorem holding_stable {rel : Standing → Standing → Prop} :
    (agreement deps id initial).Stable who (Holding deps id initial who check rel) := by
  rintro before after ⟨owes, mine, holds⟩ ⟨⟨-, owed, -, held⟩, -⟩
  obtain ⟨still, book, journal⟩ := held mine
  refine ⟨owed.trans owes, still, ?_⟩
  rw [book, journal]
  exact holds

/-! ### Calls -/

open Desk (shop)

variable {pre : Desk → Prop}

section Calls

variable {next : β → Program CheckCall α} {post : α → Desk → Prop}
  {rel : Standing → Standing → Prop}
  {after : Desk}

theorem relies_of_same (reads : after.reads other = desk.reads other)
    (ledger : after.ledger = desk.ledger) (turn : after.turn = desk.turn)
    (standing : after.book.standing id = desk.book.standing id) :
    (agreement deps id initial).rely other desk after := by
  refine ⟨reads, by rw [ledger], by rw [turn]; exact fun away => away, ?_⟩
  intro mine
  rw [turn, tally, ledger]
  exact ⟨mine, standing, rfl⟩

theorem Mirrors.of_same (mirrors : Mirrors deps id initial desk)
    (ledger : after.ledger = desk.ledger) (turn : after.turn = desk.turn)
    (standing : after.book.standing id = desk.book.standing id) :
    Mirrors deps id initial after := by
  refine ⟨by rw [ledger]; exact mirrors.balanced, ?_, by rw [standing]; exact mirrors.known⟩
  rw [turn, standing, tally, ledger]
  exact mirrors.settled

/-- What a thread does under the agreement. -/
abbrev Fulfils (deps : ServiceDeps) (id : EndpointId)
    (initial : CheckBook) (who : Nat) (check : Check) {α : Type} (pre : Desk → Prop)
    (program : Program CheckCall α) := (agreement deps id initial).Triple
        (shop deps id) who check pre program

theorem triple_load {next : Option Endpoint → Program CheckCall α}
    (absent : (initial.standing id).row = none →
      Fulfils deps id initial who check (Waiting who check) (next none) post)
    (present : ∀ read, Fulfils deps id initial who check
      (Loaded who check read) (next (some read)) post) :
    Fulfils deps id initial who check (Waiting who check)
      (.call (.getEndpointByID id) next) post := by
  refine call (fun answer after =>
    answer = none ∧ (initial.standing id).row = none ∧ Waiting who check after ∨
      ∃ read, answer = some read ∧ Loaded who check read after) waiting_stable ?_ ?_
  · rintro now ⟨⟩ mirrors ⟨owes, away⟩ _ _
    have executed : (shop deps id).exec who check () (.getEndpointByID id) now =
        (now.book.store.getEndpointByID id, { now with
            reads := Function.update now.reads who (now.book.store.getEndpointByID id) }) := by
      change Desk.exec who (.getEndpointByID id) now = _
      rw [Desk.exec, Desk.note, if_neg away]
      rfl
    rw [executed]
    refine ⟨mirrors.of_same rfl rfl rfl, ?_, ?_⟩
    · intro other different
      exact relies_of_same (Function.update_of_ne different _ _) rfl rfl rfl
    cases found : now.book.store.getEndpointByID id with
    | none =>
      refine Or.inl ⟨rfl, ?_, owes, away⟩
      have gone : (now.book.standing id).row = none :=
        congrArg (Option.map Endpoint.gist) found
      have known := mirrors.known
      rw [gone] at known
      exact not_isSome_iff_eq_none.mp (by rw [← known]; nofun)
    | some read =>
      exact Or.inr ⟨read, rfl, ⟨owes, away⟩, Function.update_self _ _ _⟩
  · rintro answer after inv (⟨rfl, gone, waiting⟩ | ⟨read, rfl, loaded⟩)
    · exact absent gone after inv waiting
    · exact present read after inv loaded

theorem triple_insert {next : Unit → Program CheckCall α}
    (stable : (agreement deps id initial).Stable who pre)
    (kept : ∀ desk book, CheckBook.standing id book = desk.book.standing id → pre desk →
      pre { desk with book }) (rest : Fulfils deps id initial who check pre (next ()) post)
    {result : CheckResult} : Fulfils deps id initial who check pre
      (.call (.insertCheckResult id result) next) post := by
  refine call (fun _ => pre) stable ?_ fun _ => rest
  rintro now ⟨⟩ mirrors holds _ _
  exact ⟨mirrors.of_same rfl rfl standing_record,
    fun other _ => relies_of_same rfl rfl rfl standing_record,
    kept now _ standing_record holds⟩

theorem fresh_counted {now : Endpoint} (fresh : check.Fresh read now) :
    ((liveUpdate read check.result).apply check.now now).gist =
      ((liveUpdate now.gist check.result).apply check.now now.gist).gist := by
  obtain ⟨alert, successes, failures⟩ := fresh
  have same : liveUpdate read check.result = liveUpdate now.gist check.result := by
    rw [liveUpdate_gist, liveUpdate, liveUpdate, alert]
    cases succeeded : check.result.success with
    | true => simp [successes succeeded]
    | false => simp [failures succeeded]
  rw [same]
  rfl

theorem triple_count {next : Unit → Program CheckCall α} (rest : Fulfils deps id initial who check
      (Holding deps id initial who check fun reached now => now = reached.counted check)
      (next ()) post) : Fulfils deps id initial who check (Loaded who check read)
      (.call (.updateCheckResult id (liveUpdate read check.result) check.now) next) post := by
  refine call (fun _ => _) loaded_stable ?_ fun _ => rest
  rintro now ⟨⟩ mirrors ⟨⟨owes, away⟩, reading⟩ fresh _
  obtain ⟨free, fresh⟩ := fresh id rfl away
  obtain ⟨book, executed, written⟩ : ∃ book,
      ((shop deps id).exec who check () (.updateCheckResult id (liveUpdate read check.result)
        check.now) now).2 = ⟨book, now.reads, some who, now.ledger⟩ ∧
      book.standing id = (now.book.standing id).counted check := by
    refine ⟨_, rfl, ?_⟩
    refine standing_updateCheckResult.trans ?_
    have row : (now.book.standing id).row = (now.book.store.getEndpointByID id).map Endpoint.gist :=
      rfl
    rw [Standing.counted, row]
    cases found : now.book.store.getEndpointByID id with
    | none => rfl
    | some current =>
      have same := fresh_counted (fresh read reading current found)
      simp only [map_some]
      rw [same]
  rw [executed]
  refine ⟨⟨mirrors.balanced, by simp, ?_⟩, ?_, owes, rfl, ?_⟩
  · rw [written, ← mirrors.known]
    exact isSome_map
  · intro other different
    refine ⟨rfl, rfl, fun _ mine => different (some.inj mine).symm, ?_⟩
    intro held
    rw [free] at held
    cases held
  · rw [written, mirrors.settled free]
    rfl

theorem triple_hold (after : β → Standing → Standing → Prop)
    (noted : ∀ desk : Desk, desk.turn = some who → desk.note who call = desk)
    (effect : ∀ reached book, rel reached (CheckBook.standing id book) →
      after (call.exec book).1 reached ((call.exec book).2.standing id))
    (rest : ∀ answer, Fulfils deps id initial who check
      (Holding deps id initial who check (after answer)) (next answer) post) :
    Fulfils deps id initial who check
      (Holding deps id initial who check rel) (.call call next) post := by
  refine Contract.Triple.call (fun answer => Holding deps id initial who check (after answer))
    holding_stable ?_ rest
  rintro now ⟨⟩ mirrors ⟨owes, mine, holds⟩ _ _
  have executed : (shop deps id).exec who check () call now =
      ((call.exec now.book).1, { now with book := (call.exec now.book).2 }) := by
    change Desk.exec who call now = _
    rw [Desk.exec, noted now mine]
  rw [executed]
  refine ⟨⟨mirrors.balanced, ?_, isSome_exec.trans mirrors.known⟩, ?_, owes, mine, ?_⟩
  · intro free
    rw [show now.turn = none from free] at mine
    cases mine
  · intro other different
    refine ⟨rfl, rfl, fun away => away, ?_⟩
    intro held
    rw [mine] at held
    exact absurd (some.inj held).symm different
  · exact effect _ _ holds

theorem triple_return (stable : (agreement deps id initial).Stable who pre)
    (owes : ∀ desk, pre desk → desk.ledger.owed who = some check)
    (reached : ∀ desk, pre desk → Mirrors deps id initial desk → (desk.turn ≠ some who ∧
          (tally deps id initial desk).after deps check = tally deps id initial desk ∨
        desk.turn = some who ∧
          desk.book.standing id = (tally deps id initial desk).after deps check)) :
    Fulfils deps id initial who check pre
      (.call .return_ fun _ => .done ()) fun _ => (agreement deps id initial).idle who := by
  have idle_stable : (agreement deps id initial).Stable who
      ((agreement deps id initial).idle who) := by
    rintro before after ⟨owed, away⟩ ⟨⟨-, same, still, -⟩, -⟩
    exact ⟨same.trans owed, still away⟩
  refine call (fun _ => (agreement deps id initial).idle who) stable ?_
    fun _ => done idle_stable fun _ _ holds => holds
  rintro now ⟨⟩ mirrors holds _ _
  have executed : ((shop deps id).exec who check () .return_ now).2 = { now with
        turn := if now.turn = some who then none else now.turn
        ledger := now.ledger.commit who } := rfl
  have journal :
      ∀ book reads turn, tally deps id initial ⟨book, reads, turn, now.ledger.commit who⟩ =
      (tally deps id initial now).after deps check := by
    intro book reads turn
    rw [tally, journal_commit (owes now holds), List.foldl_append]
    rfl
  have freed : (if now.turn = some who then none else now.turn) ≠ some who := by
    split
    · nofun
    · assumption
  rw [executed]
  refine ⟨⟨mirrors.balanced.commit, ?_, mirrors.known⟩, ?_, owed_commit_self, freed⟩
  · intro free
    rw [journal]
    rcases reached now holds mirrors with ⟨away, same⟩ | ⟨mine, whole⟩
    · have before : now.turn = none := by
        rw [← free]
        exact (if_neg away).symm
      rw [same]
      exact mirrors.settled before
    · exact whole
  · intro other different
    refine ⟨rfl, owed_commit_of_ne different, ?_, ?_⟩
    · intro away
      split
      · nofun
      · exact away
    · intro held
      rcases reached now holds mirrors with ⟨away, same⟩ | ⟨mine, -⟩
      · refine ⟨(if_neg away).trans held, rfl, ?_⟩
        rw [journal, same]
      · rw [mine] at held
        exact absurd (some.inj held).symm different

end Calls

/-! ### Whole calls -/

/-- The call has nothing left to do but to return. -/
def Concluded (deps : ServiceDeps) (id : EndpointId) (initial : CheckBook)
    (who : Nat) (check : Check) (desk : Desk) : Prop :=
  Waiting who check desk ∧ (check.result.replayed = true ∨ (initial.standing id).row = none) ∨
    Holding deps id initial who check (fun reached now => now = reached.after deps check) desk

theorem concluded_stable :
    (agreement deps id initial).Stable who (Concluded deps id initial who check) := by
  rintro before after (⟨waiting, idle⟩ | holding) later
  · exact .inl ⟨waiting_stable before after waiting later, idle⟩
  · exact .inr (holding_stable before after holding later)

section Whole

variable {updated : Endpoint} {al : EndpointAlert}

theorem triple_emitTrust : Fulfils deps id initial who check
      (Holding deps id initial who check fun reached now =>
        now = reached.counted check ∧ now.row = some updated.gist)
      (emitTrust deps check.result updated) fun _ =>
        Holding deps id initial who check fun reached now =>
          now = (reached.counted check).trusted deps check ∧ now.row = some updated.gist := by
  rw [emitTrust]
  cases raised : endpointTrustEvent deps updated check.result with
  | none =>
    refine done holding_stable ?_
    rintro now _ ⟨owes, mine, same, row⟩
    refine ⟨owes, mine, ?_, row⟩
    rw [← same, trusted_eq row, endpointTrustEvent_gist, raised, toList_none, List.append_nil]
  | some =>
    refine triple_hold (fun _ reached now =>
      now = (reached.counted check).trusted deps check ∧ now.row = some updated.gist)
      (fun _ _ => rfl) ?_ fun _ => done holding_stable fun _ _ holds => holds
    rintro reached book ⟨same, row⟩
    refine ⟨?_, row⟩
    rw [← same, trusted_eq row, endpointTrustEvent_gist, raised]
    rfl

theorem triple_crossThreshold (live : check.result.replayed = false)
    (crossed : evaluateCheckResult updated check.result = some al) :
    Fulfils deps id initial who check (Holding deps id initial who check fun reached now =>
        now = (reached.counted check).trusted deps check ∧ now.row = some updated.gist)
      (crossThreshold deps id check.result check.now updated al) fun _ =>
        Concluded deps id initial who check := by
  refine triple_hold (fun _ reached now => ∃ before,
    before = (reached.counted check).trusted deps check ∧ before.row = some updated.gist ∧
      now = { before with
        alerts := before.alerts ++ [endpointThresholdAlert deps updated al check.now] })
    (fun _ _ => rfl) ?_ fun _ => ?_
  · rintro reached book ⟨same, row⟩
    exact ⟨book.standing id, same, row, rfl⟩
  refine triple_hold (fun _ reached now => ∃ before,
    before = (reached.counted check).trusted deps check ∧ before.row = some updated.gist ∧
      now = { before with
        row := some { updated.gist with alertState := al.alertState }
        alerts := before.alerts ++ [endpointThresholdAlert deps updated al check.now] })
    (fun desk mine => by rw [Desk.note, ← mine]) ?_ fun _ => ?_
  · rintro reached book ⟨before, same, row, now_eq⟩
    refine ⟨before, same, row, ?_⟩
    refine standing_updateCheckResult.trans ?_
    have current : (book.store.getEndpointByID id).map Endpoint.gist = some updated.gist := by
      have here := congrArg Standing.row now_eq
      exact here.trans row
    obtain ⟨e, found, gist⟩ := map_eq_some_iff.mp current
    -- the counters are those just read, and the status is the one the first write has set
    have status : updated.gist.status = statusForResult check.result := by
      have counted : (reached.counted check).row = some updated.gist := by
        rw [same] at row
        exact row
      obtain ⟨old, -, rfl'⟩ := map_eq_some_iff.mp counted
      rw [← rfl']
      rfl
    have written : ((crossUpdate check.result updated al).apply check.now e).gist =
        { updated.gist with alertState := al.alertState } := by
      rw [← gist_apply, gist]
      have counters :
          updated.gist = { updated.gist with status := statusForResult check.result } := by
        rw [← status]
      rw [counters]
      rfl
    rw [found, map_some, written, now_eq]
  refine triple_hold (fun _ reached now => now = reached.after deps check)
    (fun _ _ => rfl) ?_ fun _ => done holding_stable fun _ _ holds => Or.inr holds
  rintro reached book ⟨before, same, row, now_eq⟩
  have whole : ((CheckCall.emitThreshold al).exec book).2.standing id =
      { book.standing id with announced := (book.standing id).announced ++ [al] } := rfl
  have crossing : before.crossing check = some (updated.gist, al) := by
    rw [crossing_eq row, evaluateCheckResult_gist, crossed]
    rfl
  rw [whole, now_eq, Standing.after, if_neg (by rw [live]; simp), ← same, Standing.evaluated,
    crossing]
  rfl

theorem triple_evaluateThresholds (live : check.result.replayed = false) :
    Fulfils deps id initial who check
      (Holding deps id initial who check fun reached now => now = reached.counted check)
      (evaluateThresholds deps id check.result check.now) fun _ =>
        Concluded deps id initial who check := by
  have live' : ¬check.result.replayed = true := by
    rw [live]
    simp
  simp only [evaluateThresholds, Program.bind_eq, Program.perform_bind]
  refine triple_hold (fun answer reached now =>
    now = reached.counted check ∧ now.row = answer.map Endpoint.gist)
    (fun desk mine => by rw [Desk.note, if_pos mine]) ?_ ?_
  · rintro reached book same
    exact ⟨same, rfl⟩
  intro answer
  cases answer with
  | none =>
    refine done holding_stable ?_
    rintro now _ ⟨owes, mine, same, gone⟩
    have absent : (tally deps id initial now).row = none := by
      rw [same] at gone
      exact map_eq_none_iff.mp gone
    have whole : now.book.standing id = (tally deps id initial now).after deps check := by
      rw [after_of_absent absent, same, counted_of_absent absent]
    exact .inr ⟨owes, mine, whole⟩
  | some updated =>
    refine bind triple_emitTrust fun _ => ?_
    cases crossed : evaluateCheckResult updated check.result with
    | some => exact triple_crossThreshold live crossed
    | none =>
      refine done holding_stable ?_
      rintro now _ ⟨owes, mine, same, row⟩
      have crossing : (now.book.standing id).crossing check = none := by
        rw [crossing_eq row, evaluateCheckResult_gist, crossed]
        rfl
      have whole : now.book.standing id = (tally deps id initial now).after deps check := by
        rw [Standing.after, if_neg live', ← same, Standing.evaluated, crossing]
      exact .inr ⟨owes, mine, whole⟩

theorem triple_processCheckResult : Fulfils deps id initial who check (Waiting who check)
      (processCheckResult deps id check.result check.now) fun _ =>
        Concluded deps id initial who check := by
  refine triple_load ?_ ?_
  · intro absent
    exact done waiting_stable fun _ _ waiting => .inl ⟨waiting, .inr absent⟩
  intro read
  cases replayed : check.result.replayed with
  | true =>
    refine triple_insert loaded_stable (fun _ _ _ holds => holds) ?_
    exact done loaded_stable fun _ _ loaded =>
      .inl ⟨loaded.1, .inl replayed⟩
  | false =>
    refine triple_count ?_
    refine triple_insert holding_stable ?_ ?_
    · rintro desk book same ⟨owes, mine, holds⟩
      refine ⟨owes, mine, ?_⟩
      rw [same]
      exact holds
    · have rest : Fulfils deps id initial who check _ _ _ :=
        triple_evaluateThresholds replayed
      split
      · exact triple_hold (fun _ reached now => now = reached.counted check) (fun _ _ => rfl)
          (fun _ _ same => same) fun _ => rest
      · exact rest

theorem triple_code : Fulfils deps id initial who check (Waiting who check)
      (check.code deps id) fun _ => (agreement deps id initial).idle who := by
  refine bind triple_processCheckResult fun _ => ?_
  refine triple_return concluded_stable ?_ ?_
  · rintro desk (⟨⟨owes, -⟩, -⟩ | ⟨owes, -⟩)
    · exact owes
    · exact owes
  rintro desk (⟨⟨-, away⟩, replayed | absent⟩ | ⟨-, mine, whole⟩) mirrors
  · exact .inl ⟨away, if_pos replayed⟩
  · refine .inl ⟨away, after_of_absent ?_⟩
    have known : (tally deps id initial desk).row.isSome = (initial.standing id).row.isSome :=
      isSome_row_foldl
    rw [absent] at known
    exact not_isSome_iff_eq_none.mp (by rw [known]; nofun)
  · exact .inr ⟨mine, whole⟩

end Whole

/-! ### Runs -/

theorem agreement_verified : (agreement deps id initial).Verified (shop deps id) where
  enter := by
    rintro who check desk _ mirrors ⟨owed, away⟩
    refine ⟨⟨mirrors.balanced.start owed, mirrors.settled, mirrors.known⟩, ?_⟩
    intro other different
    exact ⟨rfl, owed_start_of_ne different, fun away => away, fun mine => ⟨mine, rfl, rfl⟩⟩
  code := by
    rintro who check desk _ mirrors ⟨owed, away⟩
    exact triple_code _ ⟨mirrors.balanced.start owed, mirrors.settled, mirrors.known⟩
      ⟨owed_start_self, away⟩
  mortal := nofun

theorem begun_of_run {actions : List (Pool.Action Unit Check)}
    {pool after : Pool CheckCall Desk Check}
    (execution : run (Pool.next (shop deps id)) pool actions = some after) :
    after.shared.ledger.begun = pool.shared.ledger.begun ++ Pool.operations actions := by
  refine Pool.record_of_run (fun desk : Desk => desk.ledger.begun) (fun _ _ _ => rfl) ?_ execution
  intro who check _ β call desk
  change (desk.note who call).ledger.begun = _
  cases call with
  | getEndpointByID =>
    rw [Desk.note]
    split
    · rfl
    · rfl
  | return_ => exact begun_commit
  | updateCheckResult | insertCheckResult | emitAlert | emitStatusChanged | emitThreshold => rfl

/-- The columns of an endpoint that checks decide. -/
structure CheckColumns where
  status : EndpointStatus
  alertState : AlertState
  consecutiveFailures : Int
  consecutiveSuccesses : Int
  deriving DecidableEq

/-- What the book has in those columns, if it has the endpoint. -/
def CheckBook.columns (id : EndpointId) (book : CheckBook) : Option CheckColumns :=
  (book.store.getEndpointByID id).map fun e =>
    ⟨e.status, e.alertState, e.consecutiveFailures, e.consecutiveSuccesses⟩

theorem columns_eq_of_standing {other : CheckBook}
    (same : book.standing id = other.standing id) : book.columns id = other.columns id := by
  have read : ∀ book : CheckBook, book.columns id = (book.standing id).row.map fun e =>
      ⟨e.status, e.alertState, e.consecutiveFailures, e.consecutiveSuccesses⟩ := by
    intro book
    rw [CheckBook.standing, map_map]
    rfl
  rw [read, read, same]

/-- If no call writes the endpoint while another is past its write, and what a call uses of the row
it read still holds when it writes, then after all calls the endpoint's columns, the events for the
engine and what was announced are those of the results processed in some order. -/
theorem checks_serializable {deps : ServiceDeps} {id : EndpointId}
    {initial : CheckBook} {actions : List (Pool.Action Unit Check)}
    {pool : Pool CheckCall Desk Check}
    (execution : run (Pool.next (shop deps id)) (Pool.idle (.start initial)) actions =
      some pool) (fresh : Guarded (Pool.next (shop deps id)) (Pool.Meets Desk.WritesFresh)
      (Pool.idle (.start initial)) actions) (quiescent : pool.Quiescent) :
    ∃ order : List Check, order.Perm (Pool.operations actions) ∧
      pool.shared.book.columns id = (replay deps id initial order).columns id ∧
      pool.shared.book.alerts = (replay deps id initial order).alerts ∧
      pool.shared.book.announced = (replay deps id initial order).announced := by
  have start : Mirrors deps id initial (.start initial) :=
    ⟨balanced_empty, fun _ => rfl, rfl⟩
  have sound := Contract.Sound.run agreement_verified
    (Contract.Sound.initial start fun who now later =>
      ⟨later.1.2.1.trans owed_empty, later.1.2.2.1 nofun⟩) fresh execution
  have idle : ∀ who, pool.shared.ledger.owed who = none ∧ pool.shared.turn ≠ some who :=
    fun who => sound.idle (quiescent who)
  have free : pool.shared.turn = none := by
    cases held : pool.shared.turn with
    | none => rfl
    | some who => exact absurd held (idle who).2
  have begun := begun_of_run execution
  have perm := sound.inv.balanced.journal_perm fun who => (idle who).1
  rw [begun] at perm
  have same : pool.shared.book.standing id =
      (replay deps id initial pool.shared.ledger.journal).standing id :=
    (sound.inv.settled free).trans standing_replay.symm
  exact ⟨_, perm, columns_eq_of_standing same, congrArg Standing.alerts same,
    congrArg Standing.announced same⟩

section Scenario

private def page : EndpointId := ⟨localAgent, "shop", "maintenant.endpoint.http"⟩

open ServiceDeps (bare)

/-- One endpoint that was never checked; two failures raise an alert. -/
private def unchecked : CheckBook where
  store := EndpointStore.upsertEndpoint ⟨page, "c1", .http, "http://shop", ⟨2, 1, ""⟩, .label, ""⟩ 0
    ⟨.empty _, .empty _, 0⟩
  alerts := []
  announced := []

private def fails (now : Int) : Check :=
  ⟨⟨none, false, false, "", 5, none, "refused", now, false⟩, now⟩

private def steps (who count : Nat) : List (Pool.Action Unit Check) :=
  List.replicate count (.step who ())

/-- A second check begins while the first is at work and reads the endpoint after it has
returned. -/
private def oneByOne : List (Pool.Action Unit Check) :=
  .start 0 (fails 0) :: steps 0 2 ++ .start 1 (fails 1) :: steps 0 4 ++ steps 1 8

theorem checks_serializable_one_by_one :
    ∃ pool, run (Pool.next (shop bare page)) (Pool.idle (.start unchecked)) oneByOne =
        some pool ∧ ∃ order : List Check, order.Perm (Pool.operations oneByOne) ∧
        pool.shared.book.columns page = (replay bare page unchecked order).columns page ∧
        pool.shared.book.alerts = (replay bare page unchecked order).alerts ∧
        pool.shared.book.announced = (replay bare page unchecked order).announced := by
  refine ⟨_, rfl, checks_serializable rfl (by decide +kernel) ?_⟩
  intro who
  match who with
  | 0 => rfl
  | 1 => rfl
  | who + 2 => rfl

/-- Two checks read the endpoint before either writes. -/
private def abreast : List (Pool.Action Unit Check) :=
  .start 0 (fails 0) :: steps 0 1 ++ .start 1 (fails 1) :: steps 1 1 ++ steps 0 5 ++ steps 1 5

/-- Two checks fail, one failure is counted, and no alert is raised. -/
theorem abreast_checks_lose_failure :
    ∃ pool, run (Pool.next (shop bare page)) (Pool.idle (.start unchecked)) abreast =
        some pool ∧ pool.Quiescent ∧ pool.shared.book.announced = [] ∧
      ∀ order : List Check, order.Perm (Pool.operations abreast) →
        pool.shared.book.columns page ≠ (replay bare page unchecked order).columns page ∧
        (replay bare page unchecked order).announced ≠ [] := by
  refine ⟨_, rfl, ?_, by decide +kernel, ?_⟩
  · intro who
    match who with
    | 0 => rfl
    | 1 => rfl
    | who + 2 => rfl
  · intro order perm
    have started : Pool.operations abreast = [fails 0, fails 1] := rfl
    have either : order ∈ [[fails 0, fails 1], [fails 1, fails 0]] := by
      simpa using List.perm_pair.mp perm
    clear perm started
    revert order
    decide +kernel

end Scenario

end Maintenant.Endpoints
