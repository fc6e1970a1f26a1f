import Maintenant.Keyed

/-!
# Vulnerabilities of containers

A scan looks up the package version that each container runs: a paginated batch query lists the ids
of its vulnerabilities, and one more request for each id gets the record.  The findings are cached
for a day by package version and added to those the container already has.  What a failed request
leaves out is missing from the cache as well, and nothing takes a finding back.
-/

namespace Maintenant.Cve

open List Execution

def maxOSVPages : Nat := 10

/-- `cveCacheTTL`, in seconds. -/
def cveCacheTTL : Int := 24 * 60 * 60

/-- A package version, as the data source names it. -/
structure Package where
  ecosystem : String
  name : String
  version : String
  deriving DecidableEq

/-- A row of `cve_cache`. -/
structure CVECacheEntry where
  package : Package
  cveId : String
  expiresAt : Int

def CVECacheEntry.key (e : CVECacheEntry) : Package × String := (e.package, e.cveId)

abbrev CVECache := Keyed CVECacheEntry.key

/-- How a batch request goes: it fails, or its answer has a result for the query or none. -/
inductive Reply
  | failed
  | empty
  | page

/-- What the cache and the data source answer. -/
structure Calls where
  checkedAt : Int
  fetchedAt : Int
  freshFails : Bool
  readFails : Bool
  /-- The pages of ids that the data source has for the package version. -/
  first : List String
  rest : List (List String)
  reply : Nat → Reply
  /-- The id in the record that is fetched for an id. -/
  record : String → Option String
  /-- The cache write of the entry at this position fails. -/
  writeFails : Nat → Bool

/-- The vulnerabilities of the package version. -/
def Calls.listing (calls : Calls) : List String := calls.first ++ calls.rest.flatten

def isCVECacheFresh (cache : CVECache) (q : Package) (now : Int) : Bool :=
  cache.items.any fun e => e.package = q ∧ now < e.expiresAt

def getCVECacheEntries (cache : CVECache) (q : Package) : List String :=
  (cache.items.filter fun e => e.package = q).map CVECacheEntry.cveId

/-- `paginateResult`: the ids of the further pages, or an error. -/
def paginateResult (reply : Nat → Reply) : Nat → List (List String) → Option (List String)
  | _, [] => some []
  | page, ids :: rest =>
    if maxOSVPages ≤ page then some []
    else match reply page with
      | .failed => none
      | .empty => some []
      | .page => (paginateResult reply (page + 1) rest).map (ids ++ ·)

/-- Write the entries that come from this position on. -/
def insertCVECacheEntries (fails : Nat → Bool) : Nat → List CVECacheEntry → CVECache → CVECache
  | _, [], cache => cache
  | position, e :: entries, cache =>
    insertCVECacheEntries fails (position + 1) entries
      (if fails position then cache else cache.insert e)

/-- The evaluation reads the cache. -/
def Calls.hits (calls : Calls) (cache : CVECache) (q : Package) : Bool :=
  !calls.freshFails && isCVECacheFresh cache q calls.checkedAt

/-- `QueryCVEs` for one query: the ids of the entries, or an error. -/
def queryCVEs (q : Package) (calls : Calls) (cache : CVECache) : Option (List String) × CVECache :=
  if calls.hits cache q then
    (some (if calls.readFails then [] else getCVECacheEntries cache q), cache)
  else match calls.reply 0 with
    | .failed => (none, cache)
    | .empty => (some [], cache)
    | .page =>
      match paginateResult calls.reply 1 calls.rest with
      | none => (none, cache)
      | some more =>
        -- an id whose record cannot be fetched is skipped
        let found := (calls.first ++ more).filterMap calls.record
        (some found, insertCVECacheEntries calls.writeFails 0
          (found.map fun id => ⟨q, id, calls.fetchedAt + cveCacheTTL⟩) cache)

/-- How an evaluation ended. -/
inductive CVEEvaluationStatus
  | evaluated
  | unsupported
  | error
  deriving DecidableEq

/-- What an evaluation of a container comes to. -/
structure Evaluation where
  containerId : String
  status : CVEEvaluationStatus
  /-- The vulnerabilities it kept for the container. -/
  kept : List String
  /-- Those the data source listed at this evaluation or, on a cache hit, at the one that filled the
  cache. -/
  listed : List String

/-- The tables and what was listed. -/
structure World where
  cache : CVECache
  /-- `container_cves`, by container and vulnerability. -/
  cves : List (String × String)
  evaluation : Option Evaluation
  /-- What was listed when the cache was last filled. -/
  filled : Package → List String

namespace World

def start : World := ⟨.empty _, [], none, fun _ => []⟩

/-- What the evaluation should find. -/
def listed (world : World) (q : Package) (calls : Calls) : List String :=
  if calls.hits world.cache q then world.filled q else calls.listing

def upsertContainerCVE (containerId : String) (cves : List (String × String)) (id : String) :
    List (String × String) :=
  if (containerId, id) ∈ cves then cves else cves ++ [(containerId, id)]

/-- `enrichCVEs` of a container whose image maps to a package, or to none. -/
def enrichCVEs (world : World) (containerId : String) (query : Option Package) (calls : Calls) :
    World :=
  match query with
  | none => { world with evaluation := some ⟨containerId, .unsupported, [], []⟩ }
  | some q =>
    match queryCVEs q calls world.cache with
    | (none, _) => { world with evaluation := some ⟨containerId, .error, [], world.listed q calls⟩ }
    | (some found, cache) => {
        cache
        cves := found.foldl (upsertContainerCVE containerId) world.cves
        evaluation := some ⟨containerId, .evaluated, found, world.listed q calls⟩
        filled := Function.update world.filled q (world.listed q calls) }

/-- The evaluation of one container. -/
inductive Action
  | evaluate (containerId : String) (query : Option Package) (calls : Calls)

def next (world : World) : Action → Option World
  | .evaluate containerId query calls => some (world.enrichCVEs containerId query calls)

end World

open World (next Action)

variable {calls : Calls} {cache : CVECache} {q : Package} {world after : World}
  {containerId id : String}

/-- A cache hit is read; on a miss the pages are below the cap, every answer has a result, every
record is fetched and every entry written. -/
def Calls.Complete (calls : Calls) (cache : CVECache) (q : Package) : Prop :=
  if calls.hits cache q then calls.readFails = false
  else calls.rest.length < maxOSVPages ∧ (∀ page ≤ calls.rest.length, calls.reply page ≠ .empty) ∧
    (∀ id ∈ calls.listing, calls.record id = some id) ∧
      ∀ position, calls.writeFails position = false

def Answered (world : World) : Action → Prop
  | .evaluate _ query calls => ∀ q ∈ query, calls.Complete world.cache q

theorem paginateResult_of_answered {reply : Nat → Reply} (rest : List (List String)) (page : Nat)
    (below : page + rest.length ≤ maxOSVPages)
    (answered : ∀ later, page ≤ later → later < page + rest.length → reply later ≠ .empty) :
    paginateResult reply page rest = none ∨ paginateResult reply page rest = some rest.flatten := by
  induction rest generalizing page with
  | nil => exact .inr rfl
  | cons ids rest ih =>
    rw [length_cons] at below answered
    rw [paginateResult, if_neg (by omega)]
    cases replied : reply page with
    | failed => exact .inl rfl
    | empty => exact absurd replied (answered page (Nat.le_refl page) (by omega))
    | page =>
      rcases ih (page + 1) (by omega)
        (fun later from_ to_ => answered later (by omega) (by omega)) with failed | whole
      · exact .inl (by simp only [failed, Option.map_none])
      · exact .inr (by simp only [whole, Option.map_some, flatten_cons])

theorem insertCVECacheEntries_of_written {fails : Nat → Bool} (written : ∀ n, fails n = false)
    (position : Nat) (entries : List CVECacheEntry) :
    insertCVECacheEntries fails position entries cache = entries.foldl Keyed.insert cache := by
  induction entries generalizing position cache with
  | nil => rfl
  | cons e entries ih =>
    rw [insertCVECacheEntries, written, ih]
    rfl

theorem queryCVEs_of_answered (miss : calls.hits cache q = false)
    (complete : calls.Complete cache q) : queryCVEs q calls cache = (none, cache) ∨
      queryCVEs q calls cache = (some calls.listing, (calls.listing.map fun id =>
        CVECacheEntry.mk q id (calls.fetchedAt + cveCacheTTL)).foldl Keyed.insert cache) := by
  simp only [Calls.Complete, miss] at complete
  obtain ⟨below, replied, fetched, written⟩ := complete
  have found : calls.listing.filterMap calls.record = calls.listing := by
    rw [filterMap_congr fetched, filterMap_some]
  simp only [queryCVEs, miss, Bool.false_eq_true, if_false]
  cases first : calls.reply 0 with
  | failed => exact .inl rfl
  | empty => exact absurd first (replied 0 (Nat.zero_le _))
  | page =>
    rcases paginateResult_of_answered calls.rest 1 (by omega)
      (fun later _ _ => replied later (by omega)) with failed | whole
    · exact .inl (by simp only [failed])
    refine .inr ?_
    simp only [whole]
    rw [show calls.first ++ calls.rest.flatten = calls.listing from rfl, found,
      insertCVECacheEntries_of_written written]

theorem mem_getCVECacheEntries :
    id ∈ getCVECacheEntries cache q ↔ ∃ e ∈ cache, e.package = q ∧ e.cveId = id := by
  simp [getCVECacheEntries, Keyed.mem_def, and_assoc]

theorem mem_getCVECacheEntries_foldl {entries : List CVECacheEntry} :
    id ∈ getCVECacheEntries (entries.foldl Keyed.insert cache) q ↔
      id ∈ getCVECacheEntries cache q ∨ ∃ e ∈ entries, e.package = q ∧ e.cveId = id := by
  induction entries generalizing cache with
  | nil => simp
  | cons new entries ih =>
    have one : id ∈ getCVECacheEntries (cache.insert new) q ↔
        id ∈ getCVECacheEntries cache q ∨ new.package = q ∧ new.cveId = id := by
      simp only [mem_getCVECacheEntries, Keyed.mem_insert, CVECacheEntry.key]
      grind
    rw [foldl_cons, ih, one]
    simp only [mem_cons, exists_eq_or_imp, or_assoc]

theorem mem_foldl_upsertContainerCVE {found : List String} {cves : List (String × String)}
    {pair : String × String} : pair ∈ found.foldl (World.upsertContainerCVE containerId) cves ↔
      pair ∈ cves ∨ pair.1 = containerId ∧ pair.2 ∈ found := by
  induction found generalizing cves with
  | nil => simp
  | cons id found ih =>
    rw [foldl_cons, ih, World.upsertContainerCVE]
    split <;> grind

/-- Everything that was listed when the cache was filled is cached. -/
def Stocked (world : World) : Prop :=
  ∀ q, ∀ id ∈ world.filled q, id ∈ getCVECacheEntries world.cache q

theorem enrichCVEs_cases (stocked : Stocked world) (complete : calls.Complete world.cache q) :
    world.enrichCVEs containerId (some q) calls =
        { world with evaluation := some ⟨containerId, .error, [], world.listed q calls⟩ } ∨
      ∃ found cache, world.enrichCVEs containerId (some q) calls =
          ⟨cache, found.foldl (World.upsertContainerCVE containerId) world.cves,
            some ⟨containerId, .evaluated, found, world.listed q calls⟩,
            Function.update world.filled q (world.listed q calls)⟩ ∧
        (∀ id ∈ world.listed q calls, id ∈ found ∧ id ∈ getCVECacheEntries cache q) ∧
        (∀ other, ∀ id ∈ getCVECacheEntries world.cache other,
          id ∈ getCVECacheEntries cache other) ∧ (∀ id ∈ found, id ∈ world.listed q calls ∨
          calls.hits world.cache q = true ∧ id ∈ getCVECacheEntries world.cache q) := by
  cases hit : calls.hits world.cache q with
  | true =>
    have read : calls.readFails = false := by simpa [Calls.Complete, hit] using complete
    have answer : queryCVEs q calls world.cache =
        (some (getCVECacheEntries world.cache q), world.cache) := by
      simp only [queryCVEs, hit, if_true, read, Bool.false_eq_true, if_false]
    have listed : world.listed q calls = world.filled q := if_pos hit
    refine Or.inr ⟨_, _, by rw [World.enrichCVEs, answer], ?_, fun _ _ mem => mem,
      fun id mem => Or.inr ⟨rfl, mem⟩⟩
    intro id mem
    rw [listed] at mem
    exact ⟨stocked q id mem, stocked q id mem⟩
  | false =>
    have listed : world.listed q calls = calls.listing := if_neg (by simp [hit])
    rcases queryCVEs_of_answered hit complete with failed | whole
    · exact Or.inl (by rw [World.enrichCVEs, failed])
    refine Or.inr ⟨_, _, by rw [World.enrichCVEs, whole], ?_, ?_, ?_⟩
    · rw [listed]
      intro id mem
      refine ⟨mem, mem_getCVECacheEntries_foldl.mpr (Or.inr ?_)⟩
      exact ⟨_, mem_map_of_mem mem, rfl, rfl⟩
    · exact fun other id mem => mem_getCVECacheEntries_foldl.mpr (Or.inl mem)
    · exact fun id mem => Or.inl (listed ▸ mem)

theorem stocked_start : Stocked .start := fun _ _ mem => absurd mem not_mem_nil

theorem Stocked.step {action : Action} (stocked : Stocked world) (answered : Answered world action)
    (stepped : world.next action = some after) : Stocked after := by
  obtain ⟨containerId, query, calls⟩ := action
  cases stepped
  cases query with
  | none => exact stocked
  | some q =>
    rcases enrichCVEs_cases stocked (answered q rfl) with failed |
      ⟨found, cache, whole, listed, kept, -⟩
    · rw [failed]
      exact stocked
    rw [whole]
    intro other id mem
    by_cases here : other = q
    · subst here
      exact (listed id (by simpa using mem)).2
    · exact kept other id (stocked other id (by simpa [here] using mem))

/-- If no cache access, record or result of a page is ever missing, what is kept of a container that
is recorded as evaluated has all that the data source listed, on a cache hit when the cache was
filled. -/
theorem evaluated_completely {actions : List Action} {action : Action} {world : World}
    (execution : run next .start (actions ++ [action]) = some world)
    (answered : Guarded next Answered .start (actions ++ [action])) :
    ∀ e ∈ world.evaluation, e.status = .evaluated →
      ∀ id ∈ e.listed, id ∈ e.kept ∧ (e.containerId, id) ∈ world.cves := by
  obtain ⟨before, stocked, met, stepped⟩ := last_of_guarded
    (fun stocked met stepped => Stocked.step stocked met stepped) stocked_start execution answered
  obtain ⟨containerId, query, calls⟩ := action
  cases stepped
  cases query with
  | none =>
    rintro e ⟨⟩ ⟨⟩
  | some q =>
    rcases enrichCVEs_cases stocked (met q rfl) with failed | ⟨found, cache, whole, listed, -⟩
    · rw [failed]
      rintro e ⟨⟩ ⟨⟩
    rw [whole]
    rintro e ⟨⟩ -
    intro id mem
    exact ⟨(listed id mem).1, mem_foldl_upsertContainerCVE.mpr (Or.inr ⟨rfl, (listed id mem).1⟩)⟩

private def library (version : String) : Package := ⟨"Go", "library", version⟩

/-- One page of ids, and every call succeeds. -/
private def answering (now : Int) (ids : List String) : Calls :=
  ⟨now, now, false, false, ids, [], fun _ => .page, some, fun _ => false⟩

private theorem answering_complete (now : Int) (ids : List String) :
    (answering now ids).Complete cache q := by
  rw [Calls.Complete]
  split
  · rfl
  · exact ⟨by simp [answering, maxOSVPages], fun _ _ => nofun, fun _ _ => rfl, fun _ => rfl⟩

theorem evaluated_completely_from_cache :
    ∃ world, run next .start ([.evaluate "web" (some (library "1")) (answering 0 ["CVE-1"])] ++
        [.evaluate "api" (some (library "1")) (answering 10 [])]) = some world ∧
      ∀ e ∈ world.evaluation, e.status = .evaluated →
        ∀ id ∈ e.listed, id ∈ e.kept ∧ (e.containerId, id) ∈ world.cves := by
  have execution : run next .start
      ([.evaluate "web" (some (library "1")) (answering 0 ["CVE-1"])] ++
        [.evaluate "api" (some (library "1")) (answering 10 [])]) = some _ := rfl
  exact ⟨_, execution, evaluated_completely execution
    ⟨fun _ _ => answering_complete _ _, fun _ _ => answering_complete _ _, trivial⟩⟩

/-- One of two records cannot be fetched: the container is evaluated without it, and so is the next
one, from the cache. -/
theorem skipped_record_served_from_cache :
    ∃ first last, run next .start [.evaluate "web" (some (library "1"))
        { answering 0 ["CVE-1", "CVE-2"] with record := fun id =>
          if id = "CVE-2" then none else id }] = some first ∧
      next first (.evaluate "api" (some (library "1")) (answering 10 ["CVE-1", "CVE-2"])) =
        some last ∧ first.evaluation.map (fun e => (e.status, e.kept, e.listed)) =
        some (.evaluated, ["CVE-1"], ["CVE-1", "CVE-2"]) ∧
      last.evaluation.map (fun e => (e.status, e.kept, e.listed)) =
        some (.evaluated, ["CVE-1"], ["CVE-1", "CVE-2"]) :=
  ⟨_, _, rfl, rfl, by decide +kernel, by decide +kernel⟩

/-- The evaluation is answered, what the container has stored is listed now, and a cache hit reads
all that was listed when the cache was filled. -/
def Follows (world : World) : Action → Prop
  | .evaluate containerId query calls => ∀ q ∈ query, calls.Complete world.cache q ∧
    (∀ id, (containerId, id) ∈ world.cves → id ∈ world.listed q calls) ∧
    (calls.hits world.cache q = true →
      ∀ id ∈ getCVECacheEntries world.cache q, id ∈ world.listed q calls)

/-- If what a container has stored is always listed for the version it runs, the findings stored for
a container that is recorded as evaluated are exactly those listed. -/
theorem findings_follow_version {actions : List Action} {action : Action} {world : World}
    (execution : run next .start (actions ++ [action]) = some world)
    (follows : Guarded next Follows .start (actions ++ [action])) :
    ∀ e ∈ world.evaluation, e.status = .evaluated →
      ∀ id, (e.containerId, id) ∈ world.cves ↔ id ∈ e.listed := by
  obtain ⟨before, stocked, met, stepped⟩ := last_of_guarded
    (fun stocked met stepped => Stocked.step stocked (fun q found => (met q found).1) stepped)
    stocked_start execution follows
  obtain ⟨containerId, query, calls⟩ := action
  cases stepped
  cases query with
  | none =>
    rintro e ⟨⟩ ⟨⟩
  | some q =>
    obtain ⟨complete, stored, cached⟩ := met q rfl
    rcases enrichCVEs_cases stocked complete with failed | ⟨found, cache, whole, listed, -, sound⟩
    · rw [failed]
      rintro e ⟨⟩ ⟨⟩
    rw [whole]
    rintro e ⟨⟩ - id
    rw [mem_foldl_upsertContainerCVE]
    constructor
    · rintro (old | ⟨-, new⟩)
      · exact stored id old
      · rcases sound id new with now | ⟨hit, read⟩
        · exact now
        · exact cached hit id read
    · exact fun mem => Or.inr ⟨rfl, (listed id mem).1⟩

theorem findings_follow_version_growing :
    ∃ world, run next .start ([.evaluate "web" (some (library "1")) (answering 0 ["CVE-1"])] ++
        [.evaluate "web" (some (library "2")) (answering 10 ["CVE-1", "CVE-2"])]) = some world ∧
      ∀ e ∈ world.evaluation, e.status = .evaluated →
        ∀ id, (e.containerId, id) ∈ world.cves ↔ id ∈ e.listed := by
  have execution : run next .start
      ([.evaluate "web" (some (library "1")) (answering 0 ["CVE-1"])] ++
        [.evaluate "web" (some (library "2")) (answering 10 ["CVE-1", "CVE-2"])]) = some _ := rfl
  refine ⟨_, execution, findings_follow_version execution ⟨?_, ?_, trivial⟩⟩
  · rintro q ⟨⟩
    exact ⟨answering_complete _ _, nofun, nofun⟩
  rintro q ⟨⟩
  refine ⟨answering_complete _ _, fun id stored => ?_, nofun⟩
  obtain rfl : id = "CVE-1" := (Prod.mk.inj (mem_singleton.mp stored)).2
  exact mem_cons_self

theorem finding_outlives_version :
    ∃ world, run next .start [.evaluate "web" (some (library "1")) (answering 0 ["CVE-1"]),
        .evaluate "web" (some (library "2")) (answering 10 [])] = some world ∧
      world.evaluation.map (fun e => (e.status, e.listed)) = some (.evaluated, []) ∧
      ("web", "CVE-1") ∈ world.cves :=
  ⟨_, rfl, by decide +kernel, by decide +kernel⟩

end Maintenant.Cve
