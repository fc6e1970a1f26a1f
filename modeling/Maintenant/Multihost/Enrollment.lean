import Maintenant.Alerting.Model
import Maintenant.Keyed

/-!
# Enrollment of agents

`RegisterAgent` checks the request, looks for the token, and runs one transaction that counts the
hosts, consumes the token and inserts the agent.  An attempt that fails leaves the tables as they
were.
-/

namespace Maintenant.Multihost

open List Keyed
open Alerting (localAgent)

/-! ### The tables -/

abbrev Bytes := List UInt8

/-- A row of `enrollment_tokens`. -/
structure EnrollmentToken where
  tokenHash : String
  expiresAt : Int
  consumedAt : Option Int
  consumedByAgentId : Option String
  deriving DecidableEq

inductive AgentStatus
  | active
  | revoked
  deriving DecidableEq

/-- A row of `agents`. -/
structure AgentRow where
  agentId : String
  publicKey : Bytes
  hostname : Bytes
  label : Bytes
  osArch : Bytes
  agentVersion : Bytes
  detectedRuntime : String
  status : AgentStatus
  createdAt : Int

/-- Enrolment tokens and agents. -/
structure AgentTables where
  tokens : Keyed EnrollmentToken.tokenHash
  agents : Keyed AgentRow.agentId

/-- Errors of `EnrollAtomic`. -/
inductive EnrollError
  | hostLimitReached
  | tokenNotFound
  | tokenAlreadyConsumed
  | tokenExpired
  /-- Any other error of the transaction. -/
  | other

def AgentRow.counted (a : AgentRow) : Bool := a.agentId ≠ localAgent ∧ a.status = .active

def EnrollmentToken.usable (token : EnrollmentToken) (now : Int) : Bool :=
  token.consumedAt = none ∧ now < token.expiresAt

def EnrollmentToken.consumed (token : EnrollmentToken) (agentId : String) (now : Int) :
    EnrollmentToken :=
  { token with consumedAt := some now, consumedByAgentId := some agentId }

namespace AgentTables

/-- `SELECT COUNT(*)` of the active agents other than the local one. -/
def activeHosts (tables : AgentTables) : Nat := (tables.agents.items.filter AgentRow.counted).length

def tokenExists (tables : AgentTables) (tokenHash : String) : Bool :=
  (tables.tokens.lookup tokenHash).isSome

/-- The conditional `UPDATE` of a token, with the number of rows it affects. -/
def consumeToken (tables : AgentTables) (tokenHash agentId : String) (now : Int) :
    Nat × AgentTables :=
  match tables.tokens.lookup tokenHash with
  | none => (0, tables)
  | some token =>
    if token.usable now then
      (1, { tables with tokens := tables.tokens.insert (token.consumed agentId now) })
    else (0, tables)

def classifyTokenFailure (tables : AgentTables) (tokenHash : String) (now : Int) : EnrollError :=
  match tables.tokens.lookup tokenHash with
  | none => .tokenNotFound
  | some token =>
    if token.consumedAt.isSome then .tokenAlreadyConsumed
    else if token.expiresAt < now then .tokenExpired
    else .tokenNotFound

/-- `INSERT INTO agents`, which the primary key may refuse. -/
def insertAgent (tables : AgentTables) (a : AgentRow) : Except EnrollError AgentTables :=
  if (tables.agents.lookup a.agentId).isSome then .error .other
  else .ok { tables with agents := tables.agents.insert a }

/-- `enrollTx`: an error rolls the transaction back. -/
def enrollTx (tables : AgentTables) (limit : Int) (tokenHash : String) (a : AgentRow) (now : Int) :
    Except EnrollError AgentTables :=
  if 0 ≤ limit ∧ limit ≤ tables.activeHosts then .error .hostLimitReached
  else
    match tables.consumeToken tokenHash a.agentId now with
    | (1, consumed) => consumed.insertAgent a
    | (_, unchanged) => .error (unchanged.classifyTokenFailure tokenHash now)

end AgentTables

/-- What becomes of one run of the transaction. -/
inductive Turn
  /-- SQLite refuses it as busy. -/
  | busy
  /-- A statement fails. -/
  | fails
  /-- It runs at this time. -/
  | runs (now : Int)
  deriving DecidableEq

/-- The run of the transaction that is not refused, among the three that are tried. -/
def Turn.settled (turns : Nat → Turn) : Turn :=
  ((List.range 3).find? fun attempt => turns attempt ≠ .busy).elim .busy turns

def AgentTables.enrollAtomic (tables : AgentTables) (limit : Int) (tokenHash : String)
    (a : AgentRow)
    (turns : Nat → Turn) : Except EnrollError AgentTables :=
  match Turn.settled turns with
  | .runs now => tables.enrollTx limit tokenHash a now
  | .busy | .fails => .error .other

/-! ### The request -/

/-- The gRPC codes in use. -/
inductive Code
  | invalidArgument
  | notFound
  | resourceExhausted
  | failedPrecondition
  | internal

structure Status where
  code : Code
  message : String

/-- What an agent says it runs on. -/
inductive Runtime
  | unspecified
  | docker
  | swarm
  | kubernetes

def protoRuntimeToString : Runtime → String
  | .docker => "docker"
  | .swarm => "swarm"
  | .kubernetes => "kubernetes"
  | .unspecified => "docker"

/-- The message an agent enrols with. -/
structure RegisterRequest where
  agentId : Bytes
  enrollmentToken : Bytes
  publicKey : Bytes
  hostname : Bytes
  label : Bytes
  osArch : Bytes
  agentVersion : Bytes
  detectedRuntime : Runtime

structure RegisterResponse where
  serverTime : Int
  resourceSampleIntervalSeconds : Nat
  certificateScanIntervalSeconds : Nat
  maxEventsPerSecond : Nat

def validateRegisterFields (req : RegisterRequest) : Except Status Unit :=
  match [("hostname", req.hostname, 253), ("os_arch", req.osArch, 32),
      ("agent_version", req.agentVersion, 64)].find? fun field => field.2.2 < field.2.1.length with
  | some (name, _, max) =>
    .error ⟨.invalidArgument, name ++ " is longer than " ++ toString max ++ " characters"⟩
  | none => .ok ()

def resolveLabel (req : RegisterRequest) : Bytes :=
  (if req.label = [] ∨ 64 < req.label.length then req.hostname else req.label).take 64

/-- A request, and what it meets. -/
structure Attempt where
  req : RegisterRequest
  allowed : Bool
  readFails : Bool
  now : Int
  /-- The limit of hosts in force; negative for none. -/
  limit : Int
  turns : Nat → Turn

section Register

variable (parseUUID : Bytes → Option String) (hashToken : Bytes → String)

def normalizeAgentID (agentId : Bytes) : Except Status String :=
  match parseUUID agentId with
  | none => .error ⟨.invalidArgument, "agent_id must be a UUID"⟩
  | some agentId => .ok agentId

/-- The checks of the request itself, and the id they give. -/
def Attempt.screen (attempt : Attempt) : Except Status String := do
  if !attempt.allowed then
    throw ⟨.resourceExhausted, "too many connection attempts from this address"⟩
  let agentId ← normalizeAgentID parseUUID attempt.req.agentId
  validateRegisterFields attempt.req
  if attempt.req.publicKey.length ≠ 32 then
    throw ⟨.invalidArgument, "public key must be 32 bytes"⟩
  return agentId

def Attempt.row (attempt : Attempt) (agentId : String) : AgentRow where
  agentId := agentId
  publicKey := attempt.req.publicKey
  hostname := attempt.req.hostname
  label := resolveLabel attempt.req
  osArch := attempt.req.osArch
  agentVersion := attempt.req.agentVersion
  detectedRuntime := protoRuntimeToString attempt.req.detectedRuntime
  status := .active
  createdAt := attempt.now

/-- The status an error of `EnrollAtomic` is answered with. -/
def EnrollError.status : EnrollError → Status
  | .hostLimitReached => ⟨.resourceExhausted, "agent host limit reached"⟩
  | .tokenNotFound => ⟨.notFound, "enrollment token not found"⟩
  | .tokenAlreadyConsumed => ⟨.failedPrecondition, "enrollment token already consumed"⟩
  | .tokenExpired => ⟨.failedPrecondition, "enrollment token expired"⟩
  | .other => ⟨.internal, "failed to register agent"⟩

/-- The answer to an agent that was enrolled. -/
def Attempt.welcome (attempt : Attempt) : RegisterResponse := ⟨attempt.now, 10, 60, 1000⟩

def registerAgent (tables : AgentTables) (attempt : Attempt) :
    Except Status RegisterResponse × AgentTables :=
  match attempt.screen parseUUID with
  | .error status => (.error status, tables)
  | .ok agentId =>
    let tokenHash := hashToken attempt.req.enrollmentToken
    if attempt.readFails then (.error EnrollError.other.status, tables)
    else if !tables.tokenExists tokenHash then (.error EnrollError.tokenNotFound.status, tables)
    else
      match tables.enrollAtomic attempt.limit tokenHash (attempt.row agentId) attempt.turns with
      | .error err => (.error err.status, tables)
      | .ok enrolled => (.ok attempt.welcome, enrolled)

/-- An attempt with its answer and the tables around it. -/
structure Enrolling where
  before : AgentTables
  attempt : Attempt
  answer : Except Status RegisterResponse
  after : AgentTables

/-- Attempts one after the other. -/
def enrollments (tables : AgentTables) : List Attempt → List Enrolling
  | [] => []
  | attempt :: attempts =>
    let handled := registerAgent parseUUID hashToken tables attempt
    ⟨tables, attempt, handled.1, handled.2⟩ :: enrollments handled.2 attempts

/-! ### What the answer should be -/

/-- The answer by the documented precedence: unknown token, limit of hosts, used token, expired
token. -/
def verdict (tables : AgentTables) (attempt : Attempt) : Except Status RegisterResponse :=
  match attempt.screen parseUUID with
  | .error status => .error status
  | .ok agentId =>
    if attempt.readFails then .error EnrollError.other.status
    else match tables.tokens.lookup (hashToken attempt.req.enrollmentToken) with
    | none => .error EnrollError.tokenNotFound.status
    | some token =>
      match Turn.settled attempt.turns with
      | .busy | .fails => .error EnrollError.other.status
      | .runs now =>
        if 0 ≤ attempt.limit ∧ attempt.limit ≤ tables.activeHosts then
          .error EnrollError.hostLimitReached.status
        else if token.consumedAt.isSome then .error EnrollError.tokenAlreadyConsumed.status
        else if token.expiresAt ≤ now then .error EnrollError.tokenExpired.status
        else if (tables.agents.lookup agentId).isSome then .error EnrollError.other.status
        else .ok attempt.welcome

/-- The attempt gets as far as the token, which was not used and expires at this very second. -/
def OnExpiry (tables : AgentTables) (attempt : Attempt) : Prop :=
  (attempt.screen parseUUID).isOk ∧ attempt.readFails = false ∧
    ∃ token ∈ tables.tokens.lookup (hashToken attempt.req.enrollmentToken),
      Turn.settled attempt.turns = .runs token.expiresAt ∧ token.consumedAt = none ∧
        ¬(0 ≤ attempt.limit ∧ attempt.limit ≤ tables.activeHosts)

end Register

variable {token : EnrollmentToken} {parseUUID : Bytes → Option String} {hashToken : Bytes → String}
  {tables : AgentTables} {attempt : Attempt}

theorem enrollTx_eq {limit now : Int} {tokenHash : String} {a : AgentRow}
    (found : tables.tokens.lookup tokenHash = some token) : tables.enrollTx limit tokenHash a now =
      if 0 ≤ limit ∧ limit ≤ tables.activeHosts then .error .hostLimitReached
      else if token.consumedAt.isSome then .error .tokenAlreadyConsumed
      else if token.expiresAt < now then .error .tokenExpired
      else if token.expiresAt = now then .error .tokenNotFound
      else if (tables.agents.lookup a.agentId).isSome then .error .other
      else .ok ⟨tables.tokens.insert (token.consumed a.agentId now), tables.agents.insert a⟩ := by
  rw [AgentTables.enrollTx, AgentTables.consumeToken, found]
  refine if_congr .rfl rfl ?_
  by_cases usable : token.usable now = true
  · obtain ⟨unused, later⟩ := of_decide_eq_true usable
    have valid : ¬token.expiresAt < now := by omega
    have different : ¬token.expiresAt = now := by omega
    simp only [usable, unused, valid, different, if_true, if_false]
    rfl
  · simp only [usable, Bool.false_eq_true, if_false, AgentTables.classifyTokenFailure, found]
    split
    · rfl
    rename_i unused
    split
    · rfl
    have due : token.expiresAt = now := by
      simp only [EnrollmentToken.usable, decide_eq_true_eq, not_and] at usable
      have lapsed := usable (Option.not_isSome_iff_eq_none.mp unused)
      omega
    rw [if_pos due]

theorem registerAgent_cases :
    (∃ status, registerAgent parseUUID hashToken tables attempt = (.error status, tables)) ∨
    ∃ agentId token now, tables.tokens.lookup (hashToken attempt.req.enrollmentToken) = some token ∧
      token.consumedAt = none ∧ ¬(0 ≤ attempt.limit ∧ attempt.limit ≤ tables.activeHosts) ∧
      registerAgent parseUUID hashToken tables attempt = (.ok attempt.welcome,
        ⟨tables.tokens.insert (token.consumed agentId now),
          tables.agents.insert (attempt.row agentId)⟩) := by
  rw [registerAgent]
  cases attempt.screen parseUUID with
  | error status => exact .inl ⟨status, rfl⟩
  | ok agentId =>
    cases attempt.readFails with
    | true => exact .inl ⟨_, rfl⟩
    | false =>
      cases found : tables.tokens.lookup (hashToken attempt.req.enrollmentToken) with
      | none =>
        refine .inl ⟨EnrollError.tokenNotFound.status, ?_⟩
        simp only [AgentTables.tokenExists, found]
        rfl
      | some token =>
        simp only [AgentTables.tokenExists, found, AgentTables.enrollAtomic, enrollTx_eq found,
          Option.isSome_some, Bool.not_true, Bool.false_eq_true, if_false]
        cases Turn.settled attempt.turns with
        | busy | fails => exact .inl ⟨_, rfl⟩
        | runs now =>
          dsimp only
          split_ifs with limited used
          case neg => exact .inr ⟨agentId, token, now, rfl,
            Option.not_isSome_iff_eq_none.mp used, limited, rfl⟩
          all_goals exact .inl ⟨_, rfl⟩

theorem answer_eq_verdict_iff : (registerAgent parseUUID hashToken tables attempt).1 =
      verdict parseUUID hashToken tables attempt ↔
      ¬OnExpiry parseUUID hashToken tables attempt := by
  rw [registerAgent, verdict, OnExpiry]
  cases attempt.screen parseUUID with
  | error => simp [Except.isOk, Except.toBool]
  | ok agentId =>
    cases attempt.readFails with
    | true => simp
    | false =>
      cases found : tables.tokens.lookup (hashToken attempt.req.enrollmentToken) with
      | none => simp [AgentTables.tokenExists, found]
      | some token =>
        simp only [AgentTables.tokenExists, found, AgentTables.enrollAtomic, enrollTx_eq found]
        cases Turn.settled attempt.turns with
        | busy | fails => simp
        | runs now =>
          by_cases limited : 0 ≤ attempt.limit ∧ attempt.limit ≤ tables.activeHosts
          · simp [limited]
          by_cases used : token.consumedAt.isSome = true
          · have spent : token.consumedAt ≠ none := Option.isSome_iff_ne_none.mp used
            simp [limited, used, spent]
          have unused := Option.not_isSome_iff_eq_none.mp used
          rcases Int.lt_trichotomy token.expiresAt now with past | rfl | later
          · have lapsed : token.expiresAt ≤ now := by omega
            have different : ¬now = token.expiresAt := by omega
            simp [limited, unused, past, lapsed, different]
          · simp [limited, unused, EnrollError.status, Except.toBool]
          have valid : ¬token.expiresAt < now := by omega
          have left : ¬token.expiresAt ≤ now := by omega
          have different : ¬token.expiresAt = now := by omega
          have reversed : ¬now = token.expiresAt := by omega
          by_cases known : (tables.agents.lookup agentId).isSome = true
          · simp [limited, unused, valid, left, different, reversed, known, Attempt.row]
          · simp [limited, unused, valid, left, different, reversed, known, Attempt.row]

theorem activeHosts_insert_le (tables : AgentTables) (tokens : Keyed EnrollmentToken.tokenHash)
    (a : AgentRow) :
    AgentTables.activeHosts ⟨tokens, tables.agents.insert a⟩ ≤ tables.activeHosts + 1 := by
  have others : ((tables.agents.items.filter fun old => old.agentId ≠ a.agentId).filter
      AgentRow.counted).length ≤ tables.activeHosts :=
    (filter_sublist.filter AgentRow.counted).length_le
  have one : ([a].filter AgentRow.counted).length ≤ 1 := length_filter_le _ _
  rw [AgentTables.activeHosts, Keyed.insert, filter_append, length_append]
  omega

theorem lookup_registerAgent (parseUUID : Bytes → Option String) (hashToken : Bytes → String)
    (tables : AgentTables) (attempt : Attempt) (tokenHash : String) :
    (registerAgent parseUUID hashToken tables attempt).2.tokens.lookup tokenHash =
        tables.tokens.lookup tokenHash ∨
      ∃ token agentId now, tables.tokens.lookup tokenHash = some token ∧ token.consumedAt = none ∧
        (registerAgent parseUUID hashToken tables attempt).2.tokens.lookup tokenHash =
          some (token.consumed agentId now) := by
  rcases registerAgent_cases with
    ⟨status, failed⟩ | ⟨agentId, token, now, found, unused, -, enrolled⟩
  · rw [failed]
    exact .inl rfl
  rw [enrolled]
  by_cases same : tokenHash = token.tokenHash
  · subst same
    have here : tables.tokens.lookup token.tokenHash = some token := by
      rw [(lookup_eq_some.mp found).2]
      exact found
    exact .inr ⟨token, agentId, now, here, unused,
      lookup_insert_self _ (token.consumed agentId now)⟩
  · exact .inl (lookup_insert_of_ne same)

/-- The attempt consumes the token. -/
def Enrolling.consumes (tokenHash : String) (step : Enrolling) : Bool :=
  step.after.tokens.lookup tokenHash ≠ step.before.tokens.lookup tokenHash

variable {attempts : List Attempt} {tokenHash : String}

theorem countP_consumes_of_used
    (found : tables.tokens.lookup tokenHash = some token) (used : token.consumedAt ≠ none) :
    (enrollments parseUUID hashToken tables attempts).countP
      (Enrolling.consumes tokenHash) = 0 := by
  induction attempts generalizing tables with
  | nil => rfl
  | cons attempt attempts ih =>
    rcases lookup_registerAgent parseUUID hashToken tables attempt tokenHash with
      same | ⟨other, -, -, here, unused, -⟩
    · rw [enrollments, countP_cons_of_neg (by simp [Enrolling.consumes, same])]
      exact ih (same.trans found)
    · rw [found] at here
      cases here
      exact absurd unused used

theorem countP_consumes_le : (enrollments parseUUID hashToken tables attempts).countP
    (Enrolling.consumes tokenHash) ≤ 1 := by
  induction attempts generalizing tables with
  | nil => exact Nat.zero_le _
  | cons attempt attempts ih =>
    rcases lookup_registerAgent parseUUID hashToken tables attempt tokenHash with
      same | ⟨token, agentId, now, -, -, consumed⟩
    · rw [enrollments, countP_cons_of_neg (by simp [Enrolling.consumes, same])]
      exact ih
    rw [enrollments, countP_cons, countP_consumes_of_used consumed (by rintro ⟨⟩)]
    split
    · exact Nat.le_refl _
    · exact Nat.zero_le _

theorem enrolling_of_mem {step : Enrolling}
    (mem : step ∈ enrollments parseUUID hashToken tables attempts) :
    registerAgent parseUUID hashToken step.before step.attempt = (step.answer, step.after) := by
  induction attempts generalizing tables with
  | nil => cases mem
  | cons attempt attempts ih =>
    rcases mem_cons.mp mem with rfl | later
    · rfl
    · exact ih later

/-- A success consumes the token and keeps to the limit of hosts, a failure changes nothing, each
token is consumed at most once, and the answer is the documented one exactly when the attempt does
not come at the very second at which its unused token expires. -/
theorem enrollment_atomic_limited_classified (parseUUID : Bytes → Option String)
    (hashToken : Bytes → String) (tables : AgentTables) (attempts : List Attempt) :
    (∀ step ∈ enrollments parseUUID hashToken tables attempts, (step.answer.isOk = true →
        step.consumes (hashToken step.attempt.req.enrollmentToken) = true ∧
          (0 ≤ step.attempt.limit → step.after.activeHosts ≤ step.attempt.limit)) ∧
      (step.answer.isOk = false → step.after = step.before) ∧
      (step.answer = verdict parseUUID hashToken step.before step.attempt ↔
        ¬OnExpiry parseUUID hashToken step.before step.attempt)) ∧
    ∀ tokenHash, (enrollments parseUUID hashToken tables attempts).countP
      (Enrolling.consumes tokenHash) ≤ 1 := by
  refine ⟨fun step mem => ?_, fun tokenHash => countP_consumes_le⟩
  obtain ⟨before, attempt, answer, after⟩ := step
  have handled : registerAgent parseUUID hashToken before attempt = (answer, after) :=
    enrolling_of_mem mem
  refine ⟨?_, ?_, ?_⟩
  · intro succeeded
    rcases registerAgent_cases with
      ⟨status, failed⟩ | ⟨agentId, token, now, found, unused, below, enrolled⟩
    · rw [handled] at failed
      cases failed
      cases succeeded
    rw [handled] at enrolled
    cases enrolled
    constructor
    · have here := lookup_insert_self before.tokens (token.consumed agentId now)
      rw [show (token.consumed agentId now).tokenHash = hashToken attempt.req.enrollmentToken from
        (lookup_eq_some.mp found).2] at here
      have changed : token.consumed agentId now ≠ token := by
        intro same
        have spent := congrArg EnrollmentToken.consumedAt same
        rw [unused] at spent
        cases spent
      simp [Enrolling.consumes, here, found, changed]
    · intro limited
      dsimp only at limited ⊢
      have grown := activeHosts_insert_le before
        (before.tokens.insert (token.consumed agentId now)) (attempt.row agentId)
      omega
  · intro refused
    rcases registerAgent_cases with
      ⟨status, failed⟩ | ⟨agentId, token, now, -, -, -, enrolled⟩
    · rw [handled] at failed
      cases failed
      rfl
    · rw [handled] at enrolled
      cases enrolled
      cases refused
  · have classified : (registerAgent parseUUID hashToken before attempt).1 = _ ↔ _ :=
      answer_eq_verdict_iff
    rw [handled] at classified
    exact classified

private def oneToken : AgentTables := ⟨(Keyed.empty _).insert ⟨"hash", 100, none, none⟩, .empty _⟩

private def punctual : Attempt :=
  ⟨⟨[], [], List.replicate 32 0, [], [], [], [], .docker⟩, true, false, 0, -1, fun _ => .runs 100⟩

theorem token_not_found_on_expiry :
    (registerAgent (fun _ => some "agent") (fun _ => "hash") oneToken punctual).1 =
        .error ⟨.notFound, "enrollment token not found"⟩ ∧
      verdict (fun _ => some "agent") (fun _ => "hash") oneToken punctual =
        .error ⟨.failedPrecondition, "enrollment token expired"⟩ :=
  ⟨rfl, rfl⟩

end Maintenant.Multihost
