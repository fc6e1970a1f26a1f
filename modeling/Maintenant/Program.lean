import Maintenant.Execution

/-!
# Programs over a shared store

A program is a tree of calls to a store, each answered before the program goes on.  The same text
has two meanings: run alone it is a function of the store, and run as one of many threads its calls
interleave with theirs.  Threads are verified one at a time: a thread relies on what the others may
do between its calls, and owes them the same.
-/

/-- A program that makes the calls `κ β`, a call being answered by a `β`. -/
inductive Program (κ : Type → Type) (α : Type) : Type 1
  | done (value : α)
  | call {β : Type} (request : κ β) (next : β → Program κ α)

namespace Program

variable {κ : Type → Type} {ι σ α β γ : Type}

/-- Run one program and then another on its value. -/
def bind : Program κ α → (α → Program κ β) → Program κ β
  | .done value, rest => rest value
  | .call request next, rest => .call request fun answer => (next answer).bind rest

instance : Monad (Program κ) where
  pure := .done
  bind := bind

def perform (request : κ β) : Program κ β := .call request .done

def forEach (body : β → Program κ Unit) : List β → Program κ Unit
  | [] => .done ()
  | item :: items => (body item).bind fun _ => forEach body items

/-- All calls the program may make are of this kind. -/
def Uses (ok : ∀ {β : Type}, κ β → Prop) : Program κ α → Prop
  | .done _ => True
  | .call request next => ok request ∧ ∀ answer, (next answer).Uses ok

/-- Run a program alone, with one input of the environment for each call. -/
def run (exec : ι → ∀ {γ : Type}, κ γ → σ → γ × σ) :
    Program κ α → (Nat → ι) → σ → α × σ
  | .done value, _, state => (value, state)
  | .call request next, inputs, state =>
    let answered := exec (inputs 0) request state
    (next answered.1).run exec (fun index => inputs (index + 1)) answered.2

/-- What a read answers; a statement that fails answers nothing. -/
def reading (fails : Bool) (value : α) : Option α := if fails then none else some value

/-- Whether a write succeeds, and the state it leaves. -/
def writing (fails : Bool) (before after : σ) : Bool × σ :=
  if fails then (false, before) else (true, after)

theorem writing_cases {fails : Bool} {before after : σ} {motive : σ → Prop}
    (nothing : motive before) (something : fails = false → motive after) :
    motive (writing fails before after).2 := by
  cases fails with
  | true => exact nothing
  | false => exact something rfl

@[simp] theorem pure_eq (value : α) : (pure value : Program κ α) = .done value := rfl

@[simp] theorem bind_eq (program : Program κ α) (rest : α → Program κ β) :
    (program >>= rest) = program.bind rest := rfl

@[simp] theorem bind_done (value : α) (rest : α → Program κ β) :
    (done value).bind rest = rest value := rfl

@[simp] theorem bind_call (request : κ γ) (next : γ → Program κ α) (rest : α → Program κ β) :
    (call request next).bind rest = call request fun answer => (next answer).bind rest := rfl

@[simp] theorem perform_bind (request : κ γ) (rest : γ → Program κ β) :
    (perform request).bind rest = call request rest := rfl

section Uses

variable {ok : ∀ {β : Type}, κ β → Prop}

theorem uses_of_forall {program : Program κ α} (any : ∀ {β : Type} (request : κ β), ok request) :
    program.Uses ok := by
  induction program with
  | done => trivial
  | call request _ ih => exact ⟨any request, ih⟩

theorem uses_call {request : κ γ} {next : γ → Program κ α} (first : ok request)
    (rest : ∀ answer, (next answer).Uses ok) : (call request next).Uses ok :=
  ⟨first, rest⟩

theorem Uses.mono {wider : ∀ {β : Type}, κ β → Prop} {program : Program κ α}
    (calls : program.Uses ok) (weaker : ∀ {β : Type} (request : κ β), ok request → wider request) :
    program.Uses wider := by
  induction program with
  | done => trivial
  | call request _ ih => exact ⟨weaker request calls.1, fun answer => ih answer (calls.2 answer)⟩

theorem uses_bind {program : Program κ α} {rest : α → Program κ β} (first : program.Uses ok)
    (second : ∀ value, (rest value).Uses ok) : (program.bind rest).Uses ok := by
  induction program with
  | done value => exact second value
  | call _ _ ih => exact ⟨first.1, fun answer => ih answer (first.2 answer)⟩

theorem uses_forEach {body : β → Program κ Unit} {items : List β}
    (each : ∀ item ∈ items, (body item).Uses ok) : (forEach body items).Uses ok := by
  induction items with
  | nil => trivial
  | cons item items ih =>
    obtain ⟨first, others⟩ := List.forall_mem_cons.mp each
    exact uses_bind first fun _ => ih others

end Uses

section Run

variable (exec : ι → ∀ {γ : Type}, κ γ → σ → γ × σ) (inputs : Nat → ι) (input : ι) (state : σ)

@[simp] theorem run_done (value : α) :
    (done value : Program κ α).run exec inputs state = (value, state) := rfl

theorem run_call (request : κ γ) (next : γ → Program κ α) :
    (call request next).run exec inputs state =
      (next (exec (inputs 0) request state).1).run exec (fun index => inputs (index + 1))
        (exec (inputs 0) request state).2 := rfl

theorem run_bind (program : Program κ α) (rest : α → Program κ β) :
    (program.bind rest).run exec (fun _ => input) state =
      (rest (program.run exec (fun _ => input) state).1).run exec (fun _ => input)
        (program.run exec (fun _ => input) state).2 := by
  induction program generalizing state with
  | done => rfl
  | call _ _ ih => exact ih _ _

theorem run_forEach (body : β → Program κ Unit) (items : List β) :
    ((forEach body items).run exec (fun _ => input) state).2 =
      items.foldl (fun state item => ((body item).run exec (fun _ => input) state).2) state := by
  induction items generalizing state with
  | nil => rfl
  | cons item items ih =>
    rw [forEach, run_bind, ih, List.foldl_cons]

end Run

section Ensures

variable (exec : ι → ∀ {γ : Type}, κ γ → σ → γ × σ) (allowed : ι → ∀ {γ : Type}, κ γ → σ → Prop)

/-- Run alone from this state, the program ends where `post` holds, whatever inputs the environment
gives of those that are allowed. -/
def Ensures : Program κ α → (α → σ → Prop) → σ → Prop
  | .done value, post, state => post value state
  | .call request next, post, state => ∀ input, allowed input request state →
      (next (exec input request state).1).Ensures post (exec input request state).2

variable {exec allowed} {program : Program κ α} {post : α → σ → Prop} {state : σ}

theorem ensures_call {request : κ γ} {next : γ → Program κ α}
    (each : ∀ input, allowed input request state →
      (next (exec input request state).1).Ensures exec allowed post (exec input request state).2) :
    (call request next).Ensures exec allowed post state :=
  each

theorem Ensures.mono {stricter : ι → ∀ {γ : Type}, κ γ → σ → Prop} {weaker : α → σ → Prop}
    (ensures : program.Ensures exec allowed post state)
    (inputs : ∀ input {γ : Type} (request : κ γ) state, stricter input request state →
      allowed input request state) (after : ∀ value state, post value state → weaker value state) :
    program.Ensures exec stricter weaker state := by
  induction program generalizing state with
  | done value => exact after value state ensures
  | call request _ ih =>
    intro input meets
    exact ih _ (ensures input (inputs input request state meets))

theorem Ensures.bind {rest : α → Program κ β} {last : β → σ → Prop}
    (first : program.Ensures exec allowed post state)
    (second : ∀ value state, post value state → (rest value).Ensures exec allowed last state) :
    (program.bind rest).Ensures exec allowed last state := by
  induction program generalizing state with
  | done value => exact second value state first
  | call _ _ ih =>
    intro input meets
    exact ih _ (first input meets)

theorem Uses.ensures {ok : ∀ {β : Type}, κ β → Prop} {holds : σ → Prop} (calls : program.Uses ok)
    (each : ∀ {γ : Type} (request : κ γ), ok request → ∀ input state, holds state →
      holds (exec input request state).2)
    (start : holds state) : program.Ensures exec allowed (fun _ => holds) state := by
  induction program generalizing state with
  | done => exact start
  | call request _ ih =>
    intro input _
    exact ih _ (calls.2 _) (each request calls.1 input state start)

theorem ensures_forEach {body : β → Program κ Unit} {loop : List β → σ → Prop} {items : List β}
    (start : loop items state) (turn : ∀ item items state, loop (item :: items) state →
      (body item).Ensures exec allowed (fun _ => loop items) state) :
    (forEach body items).Ensures exec allowed (fun _ => loop []) state := by
  induction items generalizing state with
  | nil => exact start
  | cons item items ih => exact (turn item items state start).bind fun _ _ reached => ih reached

theorem ensures_forEach_of_mem {body : β → Program κ Unit} {holds : σ → Prop} {items : List β}
    (start : holds state) (turn : ∀ item ∈ items, ∀ state, holds state →
      (body item).Ensures exec allowed (fun _ => holds) state) :
    (forEach body items).Ensures exec allowed (fun _ => holds) state := by
  induction items generalizing state with
  | nil => exact start
  | cons item items ih =>
    obtain ⟨first, others⟩ := List.forall_mem_cons.mp turn
    exact (first state start).bind fun _ _ reached => ih reached others

theorem Ensures.run (ensures : program.Ensures exec allowed post state) (inputs : Nat → ι)
    (meets : ∀ index {γ : Type} (request : κ γ) state, allowed (inputs index) request state) :
    post (program.run exec inputs state).1 (program.run exec inputs state).2 := by
  induction program generalizing state inputs with
  | done => exact ensures
  | call request _ ih =>
    exact ih _ (ensures (inputs 0) (meets 0 request state)) _ fun index => meets (index + 1)

end Ensures

end Program

/-! ### Threads -/

/-- A store, the operations that use it and who may start them. -/
structure Workshop (κ : Type → Type) (ι σ ω : Type) where
  /-- What a call that a thread makes for an operation answers and does, given an input of the
  environment. -/
  exec : Nat → ω → ι → ∀ {γ : Type}, κ γ → σ → γ × σ
  enabled : Nat → ∀ {β : Type}, κ β → σ → Bool
  /-- What the start of an operation leaves in the store. -/
  enter : Nat → ω → σ → σ
  code : ω → Program κ Unit
  may : Nat → ω → Bool
  /-- The thread may stop for good in the middle of an operation. -/
  mortal : Nat → Bool

/-- A thread between two calls. -/
inductive Thread (κ : Type → Type) (ω : Type) : Type 1
  | idle
  /-- The next call of an operation, and what is left after it. -/
  | busy (op : ω) {β : Type} (request : κ β) (rest : β → Program κ Unit)

/-- The store and its threads. -/
structure Pool (κ : Type → Type) (σ ω : Type) where
  shared : σ
  threads : Nat → Thread κ ω

def Thread.at {κ : Type → Type} {ω : Type} (op : ω) : Program κ Unit → Thread κ ω
  | .done _ => .idle
  | .call request rest => .busy op request rest

namespace Pool

variable {κ : Type → Type} {ι σ ω : Type}

/-- A step of a thread. -/
inductive Action (ι ω : Type)
  /-- An idle thread starts an operation. -/
  | start (who : Nat) (op : ω)
  /-- A thread makes its next call. -/
  | step (who : Nat) (input : ι)
  | halt (who : Nat)

def idle (shared : σ) : Pool κ σ ω where
  shared := shared
  threads _ := .idle

/-- No operation is in progress. -/
def Quiescent (pool : Pool κ σ ω) : Prop := ∀ who, pool.threads who = .idle

def assign (pool : Pool κ σ ω) (who : Nat) (thread : Thread κ ω) : Pool κ σ ω :=
  { pool with threads := Function.update pool.threads who thread }

def next (shop : Workshop κ ι σ ω) (pool : Pool κ σ ω) : Action ι ω → Option (Pool κ σ ω)
  | .start who op =>
    match pool.threads who with
    | .idle =>
      if shop.may who op then
        some { pool.assign who (.at op (shop.code op)) with
          shared := shop.enter who op pool.shared }
      else none
    | .busy .. => none
  | .step who input =>
    match pool.threads who with
    | .idle => none
    | .busy op request rest =>
      if shop.enabled who request pool.shared then
        let answered := shop.exec who op input request pool.shared
        some { pool.assign who (.at op (rest answered.1)) with shared := answered.2 }
      else none
  | .halt who => if shop.mortal who then some (pool.assign who .idle) else none

/-- The operations that were started, in order. -/
def operations (actions : List (Action ι ω)) : List ω :=
  actions.filterMap fun
    | .start _ op => some op
    | _ => none

/-- A condition on the calls, met by this step. -/
def Meets (allowed : Nat → ω → ι → ∀ {β : Type}, κ β → σ → Prop) (pool : Pool κ σ ω) :
    Action ι ω → Prop
  | .step who input =>
    match pool.threads who with
    | .idle => True
    | .busy op request _ => allowed who op input request pool.shared
  | _ => True

instance decidableMeets {allowed : Nat → ω → ι → ∀ {β : Type}, κ β → σ → Prop}
    [∀ who op input {β : Type} (request : κ β) state,
      Decidable (allowed who op input request state)]
    (pool : Pool κ σ ω) : ∀ action, Decidable (Meets allowed pool action)
  | .start _ _ => .isTrue trivial
  | .step who input =>
    match found : pool.threads who with
    | .idle => .isTrue (by simp [Meets, found])
    | .busy op request rest =>
      decidable_of_iff (allowed who op input request pool.shared) (by simp [Meets, found])
  | .halt _ => .isTrue trivial

theorem meets_of_forall {allowed : Nat → ω → ι → ∀ {β : Type}, κ β → σ → Prop}
    (all : ∀ who op input {β : Type} (request : κ β) state, allowed who op input request state)
    (pool : Pool κ σ ω) (action : Action ι ω) : Meets allowed pool action := by
  cases action with
  | start => trivial
  | step =>
    simp only [Meets]
    split
    · trivial
    · exact all _ _ _ _ _
  | halt => trivial

variable {shop : Workshop κ ι σ ω}

section

variable {allowed : Nat → ω → ι → ∀ {β : Type}, κ β → σ → Prop}

theorem meets_of_next_none
    (never_waits : ∀ who {β : Type} (request : κ β) state, shop.enabled who request state)
    {pool : Pool κ σ ω} {action : Action ι ω} (stuck : next shop pool action = none) :
    Meets allowed pool action := by
  cases action with
  | start => trivial
  | step =>
    simp only [next, Meets] at stuck ⊢
    split at stuck
    · trivial
    · rw [if_pos (never_waits _ _ _)] at stuck
      cases stuck
  | halt => trivial

theorem meets_of_next {pool after : Pool κ σ ω}
    {action : Action ι ω} (call : ∀ who op input {β : Type} (request : κ β),
      after.shared = (shop.exec who op input request pool.shared).2 →
        allowed who op input request pool.shared)
    (step : next shop pool action = some after) : Meets allowed pool action := by
  cases action with
  | start => trivial
  | step =>
    simp only [next, Meets] at step ⊢
    split at step
    · cases step
    split at step
    · cases step
      exact call _ _ _ _ rfl
    · cases step
  | halt => trivial

end

theorem record_of_run (record : σ → List ω)
    (entered : ∀ who op state, record (shop.enter who op state) = record state ++ [op])
    (kept : ∀ who op input {β : Type} (request : κ β) state,
      record (shop.exec who op input request state).2 = record state)
    {pool after : Pool κ σ ω} {actions : List (Action ι ω)}
    (execution : Execution.run (next shop) pool actions = some after) :
    record after.shared = record pool.shared ++ operations actions := by
  induction actions generalizing pool with
  | nil =>
    cases execution
    exact (List.append_nil _).symm
  | cons action actions ih =>
    obtain ⟨middle, step, rest⟩ := (Execution.run_cons_eq_some _).mp execution
    rw [ih rest]
    cases action with
    | start =>
      simp only [next] at step
      split at step
      · split at step
        · cases step
          rw [entered, List.append_assoc]
          rfl
        · cases step
      · cases step
    | step =>
      simp only [next] at step
      split at step
      · cases step
      split at step
      · cases step
        rw [kept]
        rfl
      · cases step
    | halt =>
      obtain ⟨-, ⟨⟩⟩ := Option.ite_none_right_eq_some.mp step
      rfl

end Pool

/-! ### Relying on the other threads -/

/-- What threads rely on and owe each other. -/
structure Contract (κ : Type → Type) (ι σ ω : Type) where
  inv : σ → Prop
  /-- What the other threads may do to the store between two calls of this one. -/
  rely : Nat → σ → σ → Prop
  allowed : Nat → ω → ι → ∀ {β : Type}, κ β → σ → Prop
  idle : Nat → σ → Prop
  refl : ∀ who state, rely who state state
  trans : ∀ {who first middle last}, rely who first middle → rely who middle last →
    rely who first last

namespace Contract

variable {κ : Type → Type} {ι σ ω α β : Type} (contract : Contract κ ι σ ω)
  (shop : Workshop κ ι σ ω) (who : Nat) (op : ω)

/-- The others may have led from one state to the other, and the invariant holds there. -/
def Later (before after : σ) : Prop := contract.rely who before after ∧ contract.inv after

/-- Every call of the program keeps the invariant and does to the other threads only what they rely
on; what it ends with holds for as long as the thread rests. -/
def Keeps : Program κ α → (α → σ → Prop) → σ → Prop
  | .done value, post, state => ∀ now, contract.Later who state now → post value now
  | .call request rest, post, state =>
    ∀ now input, contract.Later who state now → contract.allowed who op input request now →
      shop.enabled who request now →
      let answered := shop.exec who op input request now
      contract.inv answered.2 ∧ (∀ other, other ≠ who → contract.rely other now answered.2) ∧
        Keeps (rest answered.1) post answered.2

variable {contract shop who op} {program : Program κ α} {post : α → σ → Prop} {state now : σ}

theorem Later.refl (kept : contract.inv state) : contract.Later who state state :=
  ⟨contract.refl who state, kept⟩

namespace Keeps

theorem later (keeps : contract.Keeps shop who op program post state)
    (passed : contract.rely who state now) : contract.Keeps shop who op program post now := by
  cases program with
  | done =>
    intro final later
    exact keeps final ⟨contract.trans passed later.1, later.2⟩
  | call =>
    intro final input later
    exact keeps final input ⟨contract.trans passed later.1, later.2⟩

theorem bind {rest : α → Program κ β} {last : β → σ → Prop}
    (first : contract.Keeps shop who op program
      (fun value state => contract.Keeps shop who op (rest value) last state) state)
    (kept : contract.inv state) : contract.Keeps shop who op (program.bind rest) last state := by
  induction program generalizing state with
  | done => exact first state (.refl kept)
  | call _ _ ih =>
    intro now input later allowed enabled
    obtain ⟨inv, others, following⟩ := first now input later allowed enabled
    exact ⟨inv, others, ih _ following inv⟩

theorem mono {last : α → σ → Prop} (keeps : contract.Keeps shop who op program post state)
    (weaker : ∀ value state, contract.inv state → post value state → last value state) :
    contract.Keeps shop who op program last state := by
  induction program generalizing state with
  | done value =>
    intro now later
    exact weaker value now later.2 (keeps now later)
  | call _ _ ih =>
    intro now input later allowed enabled
    obtain ⟨inv, others, following⟩ := keeps now input later allowed enabled
    exact ⟨inv, others, ih _ following⟩

theorem ensures (keeps : contract.Keeps shop who op program post state)
    (kept : contract.inv state) : program.Ensures (shop.exec who op)
      (fun input _ request now => contract.allowed who op input request now ∧
        shop.enabled who request now) (fun value after => contract.inv after ∧ post value after ∧
        ∀ other, other ≠ who → contract.rely other state after) state := by
  induction program generalizing state with
  | done => exact ⟨kept, keeps state (.refl kept), fun other _ => contract.refl other state⟩
  | call _ _ ih =>
    intro input meets
    obtain ⟨inv, others, following⟩ := keeps state input (.refl kept) meets.1 meets.2
    refine (ih _ following inv).mono (fun _ _ _ _ meets => meets) ?_
    intro value after reached
    obtain ⟨inv, done, rest⟩ := reached
    exact ⟨inv, done, fun other elsewhere =>
      contract.trans (others other elsewhere) (rest other elsewhere)⟩

end Keeps

variable (contract who) in
/-- The condition survives whatever the other threads do. -/
def Stable (condition : σ → Prop) : Prop :=
  ∀ before after, condition before → contract.Later who before after → condition after

variable (contract shop who op) in
/-- Started where `pre` holds, the program keeps to the contract and ends where `post` holds. -/
def Triple (pre : σ → Prop) (program : Program κ α) (post : α → σ → Prop) : Prop :=
  ∀ state, contract.inv state → pre state → contract.Keeps shop who op program post state

namespace Triple

variable {pre : σ → Prop}

theorem done {value : α} (stable : contract.Stable who pre)
    (holds : ∀ state, contract.inv state → pre state → post value state) :
    contract.Triple shop who op pre (.done value) post := by
  intro state _ start now later
  exact holds now later.2 (stable state now start later)

theorem call {γ : Type} {request : κ γ} {next : γ → Program κ α} (mid : γ → σ → Prop)
    (stable : contract.Stable who pre)
    (effect : ∀ now input, contract.inv now → pre now → contract.allowed who op input request now →
      shop.enabled who request now → contract.inv (shop.exec who op input request now).2 ∧
        (∀ other, other ≠ who → contract.rely other now (shop.exec who op input request now).2) ∧
          mid (shop.exec who op input request now).1 (shop.exec who op input request now).2)
    (rest : ∀ answer, contract.Triple shop who op (mid answer) (next answer) post) :
    contract.Triple shop who op pre (.call request next) post := by
  intro state _ start now input later allowed enabled
  obtain ⟨inv, others, reached⟩ :=
    effect now input later.2 (stable state now start later) allowed enabled
  exact ⟨inv, others, rest _ _ inv reached⟩

theorem observe {γ : Type} {request : κ γ} {next : γ → Program κ α}
    (stable : contract.Stable who pre)
    (silent : ∀ input now, (shop.exec who op input request now).2 = now)
    (rest : ∀ answer, contract.Triple shop who op pre (next answer) post) :
    contract.Triple shop who op pre (.call request next) post := by
  refine call (fun _ => pre) stable ?_ rest
  intro now input inv holds _ _
  rw [silent]
  exact ⟨inv, fun other _ => contract.refl other now, holds⟩

theorem uses {ok : ∀ {β : Type}, κ β → Prop} (stable : contract.Stable who pre)
    (harmless : ∀ {γ : Type} (request : κ γ), ok request → ∀ now input, contract.inv now →
      pre now → contract.allowed who op input request now → shop.enabled who request now →
      contract.inv (shop.exec who op input request now).2 ∧
        (∀ other, other ≠ who → contract.rely other now (shop.exec who op input request now).2) ∧
          pre (shop.exec who op input request now).2)
    {program : Program κ α} (calls : program.Uses ok) :
    contract.Triple shop who op pre program fun _ => pre := by
  induction program with
  | done => exact done stable fun _ _ holds => holds
  | call request _ ih =>
    refine call (fun _ => pre) stable (harmless request calls.1) ?_
    exact fun answer => ih answer (calls.2 answer)

theorem bind {rest : α → Program κ β} {last : β → σ → Prop}
    (first : contract.Triple shop who op pre program post)
    (second : ∀ value, contract.Triple shop who op (post value) (rest value) last) :
    contract.Triple shop who op pre (program.bind rest) last := by
  intro state inv start
  refine Keeps.bind ((first state inv start).mono ?_) inv
  intro value after inv reached
  exact second value after inv reached

theorem consequence {weaker : σ → Prop} {stronger : α → σ → Prop}
    (triple : contract.Triple shop who op pre program post)
    (before : ∀ state, contract.inv state → weaker state → pre state)
    (after : ∀ value state, contract.inv state → post value state → stronger value state) :
    contract.Triple shop who op weaker program stronger := by
  intro state inv start
  exact (triple state inv (before state inv start)).mono after

theorem forEach {body : β → Program κ Unit} {loop : List β → σ → Prop} {items : List β}
    (stable : contract.Stable who (loop []))
    (turn : ∀ item items, contract.Triple shop who op (loop (item :: items)) (body item)
      fun _ => loop items) :
    contract.Triple shop who op (loop items) (Program.forEach body items) fun _ => loop [] := by
  induction items with
  | nil => exact done stable fun _ _ holds => holds
  | cons item items ih => exact bind (turn item items) fun _ => ih

theorem forEach_same {body : β → Program κ Unit} {items : List β} (stable : contract.Stable who pre)
    (turn : ∀ item, contract.Triple shop who op pre (body item) fun _ => pre) :
    contract.Triple shop who op pre (Program.forEach body items) fun _ => pre := by
  induction items with
  | nil => exact done stable fun _ _ holds => holds
  | cons item items ih => exact bind (turn item) fun _ => ih

end Triple

/-! ### Whole pools -/

variable (contract shop)

/-- Every operation, started by a thread that may start it, keeps to the contract. -/
structure Verified : Prop where
  /-- Starting an operation keeps the invariant and does to the others what they rely on. -/
  enter : ∀ who op state, shop.may who op → contract.inv state → contract.idle who state →
    contract.inv (shop.enter who op state) ∧
      ∀ other, other ≠ who → contract.rely other state (shop.enter who op state)
  code : ∀ who op state, shop.may who op → contract.inv state → contract.idle who state →
    contract.Keeps shop who op (shop.code op) (fun _ => contract.idle who)
      (shop.enter who op state)
  /-- A thread that may stop anywhere can be idle anywhere. -/
  mortal : ∀ who state, shop.mortal who → contract.inv state → contract.idle who state

theorem Verified.of_triples {contract : Contract κ ι σ ω} {shop : Workshop κ ι σ ω}
    (enter : ∀ who op state, shop.may who op → contract.inv state →
      contract.inv (shop.enter who op state) ∧
        ∀ other, other ≠ who → contract.rely other state (shop.enter who op state))
    (code : ∀ who op, shop.may who op →
      contract.Triple shop who op (fun _ => True) (shop.code op) fun _ => contract.idle who)
    (mortal : ∀ who state, shop.mortal who → contract.inv state → contract.idle who state) :
    contract.Verified shop where
  enter who op state may inv _ := enter who op state may inv
  code who op state may inv _ := code who op may _ (enter who op state may inv).1 trivial
  mortal := mortal

/-- The thread is at rest or on its way there. -/
def Kept (who : Nat) (state : σ) : Thread κ ω → Prop
  | .idle => ∀ now, contract.Later who state now → contract.idle who now
  | .busy op request rest =>
    contract.Keeps shop who op (.call request rest) (fun _ => contract.idle who) state

/-- The invariant holds and every thread is on its way to rest. -/
structure Sound (pool : Pool κ σ ω) : Prop where
  inv : contract.inv pool.shared
  threads : ∀ who, contract.Kept shop who pool.shared (pool.threads who)

variable {contract shop} {pool after : Pool κ σ ω}

theorem Kept.at {program : Program κ Unit}
    (keeps : contract.Keeps shop who op program (fun _ => contract.idle who) state) :
    contract.Kept shop who state (.at op program) := by
  cases program with
  | done | call => exact keeps

theorem Kept.later {thread : Thread κ ω} (kept : contract.Kept shop who state thread)
    (passed : contract.rely who state now) : contract.Kept shop who now thread := by
  cases thread with
  | idle =>
    intro final later
    exact kept final ⟨contract.trans passed later.1, later.2⟩
  | busy => exact Keeps.later kept passed

theorem Sound.idle (sound : contract.Sound shop pool) (rests : pool.threads who = .idle) :
    contract.idle who pool.shared := by
  have kept := sound.threads who
  rw [rests] at kept
  exact kept pool.shared (.refl sound.inv)

theorem Sound.assign (sound : contract.Sound shop pool) {thread : Thread κ ω} {shared : σ}
    (inv : contract.inv shared)
    (others : ∀ other, other ≠ who → contract.rely other pool.shared shared)
    (kept : contract.Kept shop who shared thread) :
    contract.Sound shop { pool.assign who thread with shared := shared } := by
  refine ⟨inv, ?_⟩
  intro other
  by_cases here : other = who
  · subst here
    simpa [Pool.assign] using kept
  · simpa [Pool.assign, here] using (sound.threads other).later (others other here)

theorem Sound.next (verified : contract.Verified shop) (sound : contract.Sound shop pool)
    {action : Pool.Action ι ω} (meets : pool.Meets contract.allowed action)
    (step : pool.next shop action = some after) : contract.Sound shop after := by
  cases action with
  | start who op =>
    simp only [Pool.next] at step
    split at step
    next rests =>
      obtain ⟨may, ⟨⟩⟩ := Option.ite_none_right_eq_some.mp step
      have rests := sound.idle rests
      obtain ⟨inv, others⟩ := verified.enter who op _ may sound.inv rests
      exact sound.assign inv others (.at (verified.code who op _ may sound.inv rests))
    · cases step
  | step who input =>
    simp only [Pool.next] at step
    split at step
    · cases step
    rename_i op request rest running
    obtain ⟨enabled, ⟨⟩⟩ := Option.ite_none_right_eq_some.mp step
    have kept := sound.threads who
    simp only [Pool.Meets, running] at meets
    rw [running] at kept
    obtain ⟨inv, others, following⟩ :=
      kept pool.shared input (.refl sound.inv) meets enabled
    exact sound.assign inv others (.at following)
  | halt who =>
    obtain ⟨mortal, ⟨⟩⟩ := Option.ite_none_right_eq_some.mp step
    refine sound.assign sound.inv (fun other _ => contract.refl other _) ?_
    intro now later
    exact verified.mortal who now mortal later.2

theorem Sound.initial {shared : σ} (inv : contract.inv shared)
    (rests : ∀ who now, contract.Later who shared now → contract.idle who now) :
    contract.Sound shop (Pool.idle shared) :=
  ⟨inv, rests⟩

theorem Sound.run (verified : contract.Verified shop) (sound : contract.Sound shop pool)
    {actions : List (Pool.Action ι ω)}
    (guarded : Execution.Guarded (Pool.next shop) (Pool.Meets contract.allowed) pool actions)
    (execution : Execution.run (Pool.next shop) pool actions = some after) :
    contract.Sound shop after := by
  induction actions generalizing pool with
  | nil =>
    cases execution
    exact sound
  | cons action actions ih =>
    obtain ⟨middle, step, rest⟩ := (Execution.run_cons_eq_some _).mp execution
    obtain ⟨meets, guarded⟩ := guarded
    rw [step] at guarded
    exact ih (sound.next verified meets step) guarded rest

theorem Sound.always (verified : contract.Verified shop) (sound : contract.Sound shop pool)
    {good : Pool κ σ ω → Prop} (suffices_ : ∀ pool, contract.Sound shop pool → good pool)
    {actions : List (Pool.Action ι ω)}
    (guarded : Execution.Guarded (Pool.next shop) (Pool.Meets contract.allowed) pool actions) :
    Execution.Always (Pool.next shop) good pool actions :=
  Execution.always_of_guarded (contract.Sound shop)
    (fun sound meets step => sound.next verified meets step) suffices_ sound guarded

end Contract
