import Asap.Interleaving
import Asap.Manifests
import Asap.ReceiptCache

-- `asap.registry.auto_registration`: `POST /registry/agents`. Between two awaits of a request
-- any other request may run; the cache is read before the first of them and written after the
-- last.
namespace Asap.AutoRegistration
open OrderedDict PythonValue Interleaving Manifests ReceiptCache

-- The manifest as far as the handler reads it.
structure Manifest where
  id : String
  endpoints : Endpoint

structure Check where
  passed : Bool
  dump : Value

structure ComplianceReport where
  score : Rat
  checks : List Check
  summary : String

structure RegistrationReceipt where
  agentId : String
  urn : String
  harnessScore : Rat
  prUrl : Option String
  status : String := "queued"
  trustLevel : String := "self-signed"
  deriving DecidableEq

inductive Detail where
  | text (text : String)
  | complianceFailed (score : Rat) (failedChecks : List Value) (summary : String)

-- `unhandled` is an exception that no handler names.
inductive Response where
  | receipt (receipt : RegistrationReceipt)
  | http (status : Nat) (detail : Detail)
  | unhandled

-- What `fetch_manifest_at_url` returns or raises.
inductive Fetch where
  | manifest (manifest : Manifest)
  | blocked (text : String)
  | httpStatus (code : Nat)
  | requestError (text : String)
  | invalid (message : String)
  | http (status : Nat) (detail : String)
  | raised

-- What a check of an URL returns or raises.
inductive UrlCheck where
  | passed
  | blocked (text : String)
  | raised

-- What `_open_pr` returns or raises; `made` tells whether there is a pull request all the same.
inductive PullRequest where
  | opened (prUrl : String)
  | http (status : Nat) (detail : String) (made : Bool)
  | value (text : String) (made : Bool)
  | raised (made : Bool)

def PullRequest.made : PullRequest → Bool
  | .opened _ => true
  | .http _ _ made | .value _ made | .raised made => made

-- Where a request waits. `arrived` is before the handler's first line.
inductive Phase where
  | arrived
  | fetching
  | checkingHarness (manifest : Manifest)
  | running (manifest : Manifest)
  | checkingEndpoints (manifest : Manifest) (score : Rat) (label : String) (rest : List String)
  | opening (manifest : Manifest) (score : Rat)
  | answered (response : Response)

structure Request where
  manifestUrl : String
  phase : Phase := .arrived

-- What the awaited call came back with, and the readings of the clock. `built` tells whether
-- the registry's entry could be made of the manifest.
inductive Input where
  | lookup (contained dropped compared : Rat)
  | fetched (outcome : Fetch)
  | harnessUrl (outcome : UrlCheck)
  | report (outcome : Option ComplianceReport)
  | endpoint (outcome : UrlCheck) (built : Bool)
  | pullRequest (outcome : PullRequest) (now dropped : Rat)

inductive Event where
  | pullRequest (manifestUrl : String)
  | cached (key : String) (expiresAt : Rat)
  | answered (manifestUrl : String) (response : Response)

structure Store where
  cache : RegistrationReceiptTTLCache RegistrationReceipt
  clock : Rat

section Handler
-- `sha256(text).hexdigest()`
variable (sha256 : String → String)

def deterministicRegistrationAgentId (manifestUrl : String) : String := "urn:asap:registry:auto:" ++ sha256 (strip manifestUrl)

def manifestUrlCacheKey (manifestUrl : String) : String := sha256 (strip manifestUrl)

def labels (endpoints : Endpoint) : List String :=
  match endpoints.events with
  | none => []
  | some url => if url = "" then [] else ["WebSocket"]

def lookup (s : Store) (request : Request) (contained dropped compared : Rat) : Store × Phase × List Event :=
  match s.cache.contains (manifestUrlCacheKey sha256 request.manifestUrl) contained with
  | (false,cache) => (⟨cache,contained⟩,.fetching,[])
  | (true,cache) =>
    match cache.getItem (manifestUrlCacheKey sha256 request.manifestUrl) dropped compared with
    | (none,cache) => (⟨cache,compared⟩,.answered .unhandled,[.answered request.manifestUrl .unhandled])
    | (some receipt,cache) => (⟨cache,compared⟩,.answered (.receipt receipt),[.answered request.manifestUrl (.receipt receipt)])

def fetchedPhase : Fetch → Phase
  | .manifest manifest => .checkingHarness manifest
  | .blocked text => .answered (.http 400 (.text text))
  | .httpStatus code => .answered (.http 400 (.text ("Failed to fetch manifest: HTTP " ++ toString code)))
  | .requestError text => .answered (.http 502 (.text ("Manifest fetch failed: " ++ text)))
  | .invalid message => .answered (.http 400 (.text message))
  | .http status detail => .answered (.http status (.text detail))
  | .raised => .answered .unhandled

def harnessUrlPhase (manifest : Manifest) : UrlCheck → Phase
  | .passed => .running manifest
  | .blocked text => .answered (.http 400 (.text ("Harness base URL blocked: " ++ text)))
  | .raised => .answered .unhandled

def reportPhase (manifest : Manifest) : Option ComplianceReport → Phase
  | none => .answered .unhandled
  | some report =>
    if report.score < 1 then
      .answered (.http 422 (.complianceFailed report.score ((report.checks.filter (fun c => !c.passed)).map Check.dump) report.summary))
    else .checkingEndpoints manifest report.score "HTTP" (labels manifest.endpoints)

def endpointPhase (manifest : Manifest) (score : Rat) (label : String) (rest : List String) (built : Bool) : UrlCheck → Phase
  | .passed =>
    match rest with
    | [] => if built then .opening manifest score else .answered .unhandled
    | next :: rest => .checkingEndpoints manifest score next rest
  | .blocked text => .answered (.http 400 (.text (label ++ " endpoint blocked: " ++ text)))
  | .raised => .answered .unhandled

def answers (manifestUrl : String) : Phase → List Event
  | .answered response => [.answered manifestUrl response]
  | _ => []

-- A step that touches nothing but the request.
def moved (s : Store) (request : Request) (phase : Phase) : Store × Request × List Event :=
  (s,{request with phase},answers request.manifestUrl phase)

def receiptFor (request : Request) (manifest : Manifest) (score : Rat) (prUrl : String) : RegistrationReceipt :=
  {agentId := deterministicRegistrationAgentId sha256 request.manifestUrl,urn := manifest.id,harnessScore := score,prUrl := some prUrl}

def opened (s : Store) (request : Request) (manifest : Manifest) (score : Rat) (prUrl : String) (now dropped : Rat) :
    Store × Request × List Event :=
  let receipt := receiptFor sha256 request manifest score prUrl
  let key := manifestUrlCacheKey sha256 request.manifestUrl
  (⟨s.cache.setItem key receipt now dropped,dropped⟩,{request with phase := .answered (.receipt receipt)},
    [.pullRequest request.manifestUrl,.cached key (now + s.cache.ttl),.answered request.manifestUrl (.receipt receipt)])

def notOpened (s : Store) (request : Request) (made : Bool) (response : Response) : Store × Request × List Event :=
  (s,{request with phase := .answered response},
    (if made then [.pullRequest request.manifestUrl] else [] : List Event) ++ ([.answered request.manifestUrl response] : List Event))

-- `none` where the input is not what the request waits for, or the clock goes back.
def advance (s : Store) (request : Request) (input : Input) : Option (Store × Request × List Event) :=
  match request.phase,input with
  | .arrived,.lookup contained dropped compared =>
    if s.clock ≤ contained ∧ contained ≤ dropped ∧ dropped ≤ compared then
      let (store,phase,events) := lookup sha256 s request contained dropped compared
      some (store,{request with phase},events)
    else none
  | .fetching,.fetched outcome => some (moved s request (fetchedPhase outcome))
  | .checkingHarness manifest,.harnessUrl outcome => some (moved s request (harnessUrlPhase manifest outcome))
  | .running manifest,.report outcome => some (moved s request (reportPhase manifest outcome))
  | .checkingEndpoints manifest score label rest,.endpoint outcome built =>
    some (moved s request (endpointPhase manifest score label rest built outcome))
  | .opening manifest score,.pullRequest (.opened prUrl) now dropped =>
    if s.clock ≤ now ∧ now ≤ dropped then some (opened sha256 s request manifest score prUrl now dropped) else none
  | .opening _ _,.pullRequest (.http status detail made) _ _ => some (notOpened s request made (.http status (.text detail)))
  | .opening _ _,.pullRequest (.value text made) _ _ => some (notOpened s request made (.http 400 (.text text)))
  | .opening _ _,.pullRequest (.raised made) _ _ =>
    some (notOpened s request made (.http 502 (.text "Pull request flow failed. Check server logs for details.")))
  | _,_ => none

def registerAgent : Program Store Request Input Event where
  arrives request := match request.phase with
    | .arrived => true
    | _ => false
  advance := advance sha256

-- The requests and the answers that a cache key is about.
def keyOf (request : Request) : String := manifestUrlCacheKey sha256 request.manifestUrl

def active : Phase → Bool
  | .arrived | .answered _ => false
  | _ => true

def mark (k : String) (request : Request) : Option Unit :=
  if active request.phase = true ∧ keyOf sha256 request = k then some () else none

def pullRequestOf (of : String → Bool) : Event → Bool
  | .pullRequest url => of url
  | _ => false

def receiptOf (of : String → Bool) : Event → Option RegistrationReceipt
  | .answered url (.receipt receipt) => if of url then some receipt else none
  | _ => none

def expiryOf (k : String) : Event → Option Rat
  | .cached key expiresAt => if key = k then some expiresAt else none
  | _ => none

-- A request that consults the cache after a receipt was written does so before it expires.
def inLifetime (k : String) (m : Machine Store Request Event) : Move Request Input → Bool
  | .proceed id (.lookup _ _ compared) =>
    (m.tasks.get id).all (fun request => decide (keyOf sha256 request ≠ k) ||
      (m.log.filterMap (expiryOf k)).all (fun expiresAt => decide (compared < expiresAt)))
  | _ => true

-- No other request with the key is between its lookup and its answer; a pull request that is
-- reported as failed was not made; the key's receipt is not evicted.
def orderly (k : String) (m : Machine Store Request Event) : Move Request Input → Bool
  | .proceed id input =>
    (m.tasks.get id).all (fun request => match input with
      | .lookup _ _ _ => decide (keyOf sha256 request ≠ k) || m.tasks.values.all (fun other => (mark sha256 k other).isNone)
      | .pullRequest (.opened _) _ dropped => !m.store.cache.evicts (keyOf sha256 request) dropped k
      | .pullRequest outcome _ _ => decide (keyOf sha256 request ≠ k) || !outcome.made
      | _ => true)
  | _ => true

-- At most one pull request, and one receipt for all who are given one.
def Idempotent (of : String → Bool) (log : List Event) : Prop :=
  log.countP (pullRequestOf of) ≤ 1 ∧
    ∀ first ∈ log.filterMap (receiptOf of),∀ second ∈ log.filterMap (receiptOf of),first = second

theorem Idempotent.narrow {wide narrow : String → Bool} {log : List Event} (inside : ∀ url, narrow url = true → wide url = true)
    (idempotent : Idempotent wide log) : Idempotent narrow log := by
  constructor
  · refine (List.countP_mono_left ?_).trans idempotent.1
    intro event _ counted
    cases event with
    | pullRequest url => exact inside url counted
    | cached => exact counted
    | answered => exact counted
  · have found : ∀ receipt ∈ log.filterMap (receiptOf narrow),receipt ∈ log.filterMap (receiptOf wide) := by
      intro receipt member
      obtain ⟨event,inLog,given⟩ := List.mem_filterMap.mp member
      refine List.mem_filterMap.mpr ⟨event,inLog,?_⟩
      unfold receiptOf at given ⊢
      split at given
      · rename_i url other
        split at given
        · rename_i about
          rw [if_pos (inside url about)]
          exact given
        · cases given
      · cases given
    exact fun first firstMember second secondMember => idempotent.2 first (found first firstMember) second (found second secondMember)

-- What a step may do to the entry of a key that it does not write.
structure Frame (k : String) (s next : Store) : Prop where
  clock : s.clock ≤ next.clock
  older : ∀ entry, next.cache.store.get k = some entry → s.cache.store.get k = some entry
  kept : ∀ entry, s.cache.store.get k = some entry → next.clock < entry.1 → next.cache.store.get k = some entry

theorem Frame.same (k : String) (s : Store) : Frame k s s := ⟨le_rfl,fun _ found => found,fun _ found _ => found⟩

theorem lookup_frame (k : String) (s : Store) (request : Request) {contained dropped compared : Rat}
    (order : s.clock ≤ contained ∧ contained ≤ dropped ∧ dropped ≤ compared) :
    Frame k s (lookup sha256 s request contained dropped compared).1 := by
  unfold lookup
  split
  · rename_i cache contains
    have first := RegistrationReceiptTTLCache.contains_get k contains
    exact ⟨order.1,first.1,first.2.1⟩
  · rename_i cache contains
    have first := RegistrationReceiptTTLCache.contains_get k contains
    split
    all_goals
      rename_i got
      have second := RegistrationReceiptTTLCache.getItem_get k got order.2.2
      refine ⟨order.1.trans (order.2.1.trans order.2.2),fun entry found => first.1 entry (second.1 entry found),?_⟩
      intro entry found live
      exact second.2.1 entry (first.2.1 entry found ((order.2.1.trans order.2.2).trans_lt live)) live

theorem lookup_expired {s : Store} {request : Request} {contained dropped compared : Rat}
    (expired : ∀ entry, s.cache.store.get (keyOf sha256 request) = some entry → entry.1 ≤ contained) :
    (lookup sha256 s request contained dropped compared).2 = (.fetching,[]) := by
  unfold lookup
  split
  · rfl
  · rename_i cache contains
    obtain ⟨entry,found,live⟩ :=
      (RegistrationReceiptTTLCache.contains_get (keyOf sha256 request) contains).2.2.mp rfl
    exact absurd (expired entry found) (not_le.mpr live)

theorem lookup_live {s : Store} {request : Request} {contained dropped compared expiresAt : Rat} {receipt : RegistrationReceipt}
    (order : contained ≤ dropped ∧ dropped ≤ compared)
    (stored : s.cache.store.get (keyOf sha256 request) = some (expiresAt,receipt)) (live : compared < expiresAt) :
    (lookup sha256 s request contained dropped compared).2 =
      (.answered (.receipt receipt),[.answered request.manifestUrl (.receipt receipt)]) := by
  have early := (order.1.trans order.2).trans_lt live
  unfold lookup
  split
  · rename_i cache contains
    have present := (RegistrationReceiptTTLCache.contains_get (keyOf sha256 request) contains).2.2.mpr ⟨_,stored,early⟩
    cases present
  · rename_i cache contains
    have kept := (RegistrationReceiptTTLCache.contains_get (keyOf sha256 request) contains).2.1 _ stored early
    split
    · rename_i after got
      have found := ((RegistrationReceiptTTLCache.getItem_get (keyOf sha256 request) got order.2).2.2 receipt).mpr
        ⟨expiresAt,kept,live⟩
      cases found
    · rename_i value after got
      have found := ((RegistrationReceiptTTLCache.getItem_get (keyOf sha256 request) got order.2).2.2 receipt).mpr
        ⟨expiresAt,kept,live⟩
      cases found
      rfl

-- A lookup ends the request or sends it to fetch the manifest.
theorem lookup_parts (s : Store) (request : Request) (contained dropped compared : Rat) :
    (lookup sha256 s request contained dropped compared).2 = (.fetching,[]) ∨
      ∃ response, (lookup sha256 s request contained dropped compared).2 = (.answered response,[.answered request.manifestUrl response]) := by
  unfold lookup
  split
  · exact .inl rfl
  · split
    · exact .inr ⟨_,rfl⟩
    · exact .inr ⟨_,rfl⟩

-- What a step does: the lookup, a step of the request alone, a pull request with its receipt,
-- or a pull request that failed.
inductive Taken (s : Store) (request : Request) : Input → Store → Request → List Event → Prop where
  | lookup (contained dropped compared : Rat) (waiting : request.phase = .arrived)
      (order : s.clock ≤ contained ∧ contained ≤ dropped ∧ dropped ≤ compared) :
      Taken s request (.lookup contained dropped compared) (lookup sha256 s request contained dropped compared).1
        {request with phase := (lookup sha256 s request contained dropped compared).2.1}
        (lookup sha256 s request contained dropped compared).2.2
  | quiet (input : Input) (phase : Phase) (busy : active request.phase = true) (without : ∀ receipt, phase ≠ .answered (.receipt receipt)) :
      Taken s request input s {request with phase} (answers request.manifestUrl phase)
  | opened (manifest : Manifest) (score : Rat) (prUrl : String) (now dropped : Rat) (busy : active request.phase = true)
      (order : s.clock ≤ now ∧ now ≤ dropped) :
      Taken s request (.pullRequest (.opened prUrl) now dropped) (opened sha256 s request manifest score prUrl now dropped).1
        (opened sha256 s request manifest score prUrl now dropped).2.1 (opened sha256 s request manifest score prUrl now dropped).2.2
  | failed (outcome : PullRequest) (response : Response) (now dropped : Rat) (busy : active request.phase = true)
      (failure : ∀ prUrl, outcome ≠ .opened prUrl) (without : ∀ receipt, response ≠ .receipt receipt) :
      Taken s request (.pullRequest outcome now dropped) s {request with phase := .answered response}
        ((if outcome.made then [.pullRequest request.manifestUrl] else []) ++ [.answered request.manifestUrl response])

theorem fetchedPhase_without (outcome : Fetch) (receipt : RegistrationReceipt) : fetchedPhase outcome ≠ .answered (.receipt receipt) := by
  cases outcome <;> simp [fetchedPhase]

theorem harnessUrlPhase_without (manifest : Manifest) (outcome : UrlCheck) (receipt : RegistrationReceipt) :
    harnessUrlPhase manifest outcome ≠ .answered (.receipt receipt) := by
  cases outcome <;> simp [harnessUrlPhase]

theorem reportPhase_without (manifest : Manifest) (outcome : Option ComplianceReport) (receipt : RegistrationReceipt) :
    reportPhase manifest outcome ≠ .answered (.receipt receipt) := by
  unfold reportPhase
  split
  · simp
  · split <;> simp

theorem endpointPhase_without (manifest : Manifest) (score : Rat) (label : String) (rest : List String) (built : Bool) (outcome : UrlCheck)
    (receipt : RegistrationReceipt) : endpointPhase manifest score label rest built outcome ≠ .answered (.receipt receipt) := by
  unfold endpointPhase
  split
  · split
    · split <;> simp
    · simp
  · simp
  · simp

theorem advance_taken {s store : Store} {request request' : Request} {input : Input} {events : List Event}
    (result : advance sha256 s request input = some (store,request',events)) : Taken sha256 s request input store request' events := by
  unfold advance at result
  split at result
  · rename_i contained dropped compared waiting
    split at result
    · rename_i order
      cases result
      exact .lookup contained dropped compared waiting order
    · cases result
  · rename_i outcome phase
    cases result
    exact .quiet _ _ (by rw [phase]; rfl) (fetchedPhase_without outcome)
  · rename_i manifest outcome phase
    cases result
    exact .quiet _ _ (by rw [phase]; rfl) (harnessUrlPhase_without manifest outcome)
  · rename_i manifest outcome phase
    cases result
    exact .quiet _ _ (by rw [phase]; rfl) (reportPhase_without manifest outcome)
  · rename_i manifest score label rest outcome built phase
    cases result
    exact .quiet _ _ (by rw [phase]; rfl) (endpointPhase_without manifest score label rest built outcome)
  · rename_i manifest score prUrl now dropped phase
    split at result
    · rename_i order
      cases result
      exact .opened manifest score prUrl now dropped (by rw [phase]; rfl) order
    · cases result
  · rename_i status detail made now dropped phase
    cases result
    exact .failed (.http status detail made) _ now dropped (by rw [phase]; rfl) (by simp) (by simp)
  · rename_i text made now dropped phase
    cases result
    exact .failed (.value text made) _ now dropped (by rw [phase]; rfl) (by simp) (by simp)
  · rename_i made now dropped phase
    cases result
    exact .failed (.raised made) _ now dropped (by rw [phase]; rfl) (by simp) (by simp)
  · cases result

section Key
variable (k : String)

def about (url : String) : Bool := decide (manifestUrlCacheKey sha256 url = k)

-- Events that say nothing of the key.
def Silent (events : List Event) : Prop :=
  events.countP (pullRequestOf (about sha256 k)) = 0 ∧ events.filterMap (receiptOf (about sha256 k)) = []

-- Nothing was made for the key, and nothing that is stored for it is still valid.
structure Vacant (s : Store) (log : List Event) : Prop where
  silent : Silent sha256 k log
  expired : ∀ entry, s.cache.store.get k = some entry → entry.1 ≤ s.clock

-- One pull request was made, and its receipt is stored until it expires.
structure Registered (s : Store) (log : List Event) (expiresAt : Rat) (receipt : RegistrationReceipt) : Prop where
  once : log.countP (pullRequestOf (about sha256 k)) = 1
  same : ∀ given ∈ log.filterMap (receiptOf (about sha256 k)),given = receipt
  written : expiresAt ∈ log.filterMap (expiryOf k)
  stored : s.cache.store.get k = some (expiresAt,receipt) ∨ expiresAt ≤ s.clock

def Unmarked (tasks : Dict Nat Request) : Prop := ∀ id request, tasks.get id = some request → mark sha256 k request = none

structure Orderly (m : Machine Store Request Event) : Prop where
  sole : Sole (mark sha256 k) m.tasks
  progress : Vacant sha256 k m.store m.log ∨
    ∃ expiresAt receipt, Registered sha256 k m.store m.log expiresAt receipt ∧ Unmarked sha256 k m.tasks

variable {sha256 k} {s next : Store} {log events : List Event}

theorem Vacant.step (vacant : Vacant sha256 k s log) (frame : Frame k s next) (silent : Silent sha256 k events) :
    Vacant sha256 k next (log ++ events) where
  silent := by
    rw [Silent,List.countP_append,List.filterMap_append,vacant.silent.1,vacant.silent.2,silent.1,silent.2]
    exact ⟨rfl,rfl⟩
  expired entry found := (vacant.expired entry (frame.older entry found)).trans frame.clock

-- More answers with the receipt, and no pull request.
theorem Registered.step {expiresAt : Rat} {receipt : RegistrationReceipt} (registered : Registered sha256 k s log expiresAt receipt)
    (frame : Frame k s next) (none_ : events.countP (pullRequestOf (about sha256 k)) = 0)
    (given : ∀ other ∈ events.filterMap (receiptOf (about sha256 k)),other = receipt) :
    Registered sha256 k next (log ++ events) expiresAt receipt where
  once := by rw [List.countP_append,registered.once,none_]
  same other member := by
    rw [List.filterMap_append,List.mem_append] at member
    exact member.elim (registered.same other) (given other)
  written := by
    rw [List.filterMap_append]
    exact List.mem_append_left _ registered.written
  stored := by
    rcases registered.stored with stored | expired
    · rcases lt_or_ge next.clock expiresAt with live | expired
      · exact .inl (frame.kept _ stored live)
      · exact .inr expired
    · exact .inr (expired.trans frame.clock)

theorem Unmarked.set {tasks : Dict Nat Request} (unmarked : Unmarked sha256 k tasks) (id : Nat) {request : Request}
    (unmarkedToo : mark sha256 k request = none) : Unmarked sha256 k (tasks.set id request) := by
  intro other waiting found
  rw [Dict.get_set] at found
  split at found
  · cases found
    exact unmarkedToo
  · exact unmarked other waiting found

theorem mark_some {request : Request} (marked : mark sha256 k request ≠ none) : active request.phase = true ∧ keyOf sha256 request = k := by
  unfold mark at marked
  split at marked
  · rename_i both
    exact both
  · exact absurd rfl marked

theorem mark_other {request : Request} (different : keyOf sha256 request ≠ k) (phase : Phase) : mark sha256 k {request with phase} = none :=
  if_neg (fun both => different both.2)

theorem mark_answered {request : Request} (response : Response) : mark sha256 k {request with phase := .answered response} = none :=
  if_neg (fun both => by cases both.1)

theorem mark_busy {request : Request} (busy : active request.phase = true) (mine : keyOf sha256 request = k) : mark sha256 k request = some () :=
  if_pos ⟨busy,mine⟩

theorem answers_silent (url : String) {phase : Phase} (without : ∀ receipt, phase ≠ .answered (.receipt receipt)) :
    Silent sha256 k (answers url phase) := by
  unfold answers
  split
  · rename_i response
    cases response with
    | receipt receipt => exact absurd rfl (without receipt)
    | http => exact ⟨rfl,rfl⟩
    | unhandled => exact ⟨rfl,rfl⟩
  · exact ⟨rfl,rfl⟩

-- The events of another key's request.
theorem other_silent {request : Request} (different : keyOf sha256 request ≠ k) {input : Input} {store : Store} {request' : Request}
    (taken : Taken sha256 s request input store request' events) : Silent sha256 k events := by
  have apart : about sha256 k request.manifestUrl = false := decide_eq_false different
  have answered : ∀ response, Silent sha256 k [.answered request.manifestUrl response] := by
    intro response
    cases response <;> simp [Silent,pullRequestOf,receiptOf,apart]
  cases taken with
  | lookup contained dropped compared =>
    rcases lookup_parts sha256 s request contained dropped compared with none_ | ⟨response,one⟩
    · rw [none_]
      exact ⟨rfl,rfl⟩
    · rw [one]
      exact answered response
  | quiet _ phase _ without => exact answers_silent _ without
  | opened => simp [opened,Silent,pullRequestOf,receiptOf,apart]
  | failed outcome response =>
    have last := answered response
    split
    · refine ⟨?_,last.2⟩
      simp [pullRequestOf,apart]
    · exact last

theorem taken_phase {request request' : Request} {input : Input} {store : Store}
    (taken : Taken sha256 s request input store request' events) : ∃ phase, request' = {request with phase} := by
  cases taken <;> exact ⟨_,rfl⟩

theorem opened_frame {request : Request} (different : keyOf sha256 request ≠ k) (manifest : Manifest) (score : Rat) (prUrl : String)
    {now dropped : Rat} (order : s.clock ≤ now ∧ now ≤ dropped) (stays : s.cache.evicts (keyOf sha256 request) dropped k = false) :
    Frame k s (opened sha256 s request manifest score prUrl now dropped).1 := by
  obtain ⟨older,kept⟩ := RegistrationReceiptTTLCache.setItem_get_other (receiptFor sha256 request manifest score prUrl) now dropped different
  exact ⟨order.1.trans order.2,older,fun entry found live => kept entry found live stays⟩

-- A request with another key.
theorem other_frame {request request' : Request} {input : Input} {store : Store} {m : Machine Store Request Event} {id : Nat}
    (different : keyOf sha256 request ≠ k) (known : m.tasks.get id = some request) (allowed : orderly sha256 k m (.proceed id input) = true)
    (taken : Taken sha256 m.store request input store request' events) : Frame k m.store store := by
  cases taken with
  | lookup contained dropped compared _ order => exact lookup_frame sha256 k m.store request order
  | quiet => exact .same k m.store
  | opened manifest score prUrl now dropped _ order =>
    refine opened_frame different manifest score prUrl order ?_
    simpa [orderly,known] using allowed
  | failed => exact .same k m.store

theorem Orderly.other {m : Machine Store Request Event} {id : Nat} {request' : Request} {store : Store}
    (holds : Orderly sha256 k m) (frame : Frame k m.store store) (silent : Silent sha256 k events)
    (unmarked : mark sha256 k request' = none) : Orderly sha256 k ⟨store,m.tasks.set id request',m.log ++ events⟩ where
  sole := holds.sole.set (fun _ _ _ _ _ _ marked => by rw [unmarked] at marked; cases marked)
  progress := by
    rcases holds.progress with vacant | ⟨expiresAt,receipt,registered,others⟩
    · exact .inl (vacant.step frame silent)
    · exact .inr ⟨expiresAt,receipt,registered.step frame silent.1 (by rw [silent.2]; simp),others.set id unmarked⟩

-- The request with the key is the only one that is under way, so nothing has been registered yet.
theorem Orderly.vacant {m : Machine Store Request Event} {id : Nat} {request : Request} (holds : Orderly sha256 k m)
    (known : m.tasks.get id = some request) (busy : active request.phase = true) (mine : keyOf sha256 request = k) :
    Vacant sha256 k m.store m.log ∧ ∀ other waiting, other ≠ id → m.tasks.get other = some waiting → mark sha256 k waiting = none := by
  have marked : mark sha256 k request = some () := mark_busy busy mine
  constructor
  · rcases holds.progress with vacant | ⟨_,_,_,others⟩
    · exact vacant
    · rw [others id request known] at marked
      cases marked
  · intro other waiting different found
    cases own : mark sha256 k waiting with
    | none => rfl
    | some _ => exact absurd (holds.sole other id waiting request () found known own marked) different

theorem Orderly.consulted {m : Machine Store Request Event} {id : Nat} {request : Request} (holds : Orderly sha256 k m)
    (known : m.tasks.get id = some request) (mine : keyOf sha256 request = k) {contained dropped compared : Rat}
    (order : m.store.clock ≤ contained ∧ contained ≤ dropped ∧ dropped ≤ compared)
    (timely : inLifetime sha256 k m (.proceed id (.lookup contained dropped compared)) = true)
    (allowed : orderly sha256 k m (.proceed id (.lookup contained dropped compared)) = true) :
    Orderly sha256 k ⟨(lookup sha256 m.store request contained dropped compared).1,
      m.tasks.set id {request with phase := (lookup sha256 m.store request contained dropped compared).2.1},
      m.log ++ (lookup sha256 m.store request contained dropped compared).2.2⟩ := by
  have frame := lookup_frame sha256 k m.store request order
  have alone : ∀ other waiting, m.tasks.get other = some waiting → mark sha256 k waiting = none := by
    simp only [orderly,known,Option.all_some,mine,ne_eq,not_true_eq_false,decide_false,Bool.false_or,List.all_eq_true,
      Option.isNone_iff_eq_none] at allowed
    intro other waiting found
    exact allowed waiting (List.mem_map.mpr ⟨(other,waiting),m.tasks.mem_iff.mpr found,rfl⟩)
  rcases holds.progress with vacant | ⟨expiresAt,receipt,registered,others⟩
  · have result : (lookup sha256 m.store request contained dropped compared).2 = (.fetching,[]) :=
      lookup_expired sha256 (fun entry found => (vacant.expired entry (mine ▸ found)).trans order.1)
    rw [result]
    refine ⟨holds.sole.set (fun other waiting _ _ found marked => ?_),.inl (vacant.step frame ⟨rfl,rfl⟩)⟩
    rw [alone other waiting found] at marked
    cases marked
  · have live : compared < expiresAt := by
      simp only [inLifetime,known,Option.all_some,mine,ne_eq,not_true_eq_false,decide_false,Bool.false_or,List.all_eq_true,
        decide_eq_true_eq] at timely
      exact timely expiresAt registered.written
    have stored : m.store.cache.store.get (keyOf sha256 request) = some (expiresAt,receipt) := by
      rw [mine]
      exact registered.stored.resolve_right (not_le.mpr ((order.1.trans (order.2.1.trans order.2.2)).trans_lt live))
    rw [lookup_live sha256 order.2 stored live]
    refine ⟨holds.sole.set (fun _ _ _ _ _ _ marked => by rw [mark_answered] at marked; cases marked),
      .inr ⟨expiresAt,receipt,registered.step frame rfl ?_,others.set id (mark_answered _)⟩⟩
    intro other member
    simp only [receiptOf,List.filterMap_cons,List.filterMap_nil] at member
    split at member
    · cases member
    · rename_i given found
      split at found
      · cases found
        exact List.mem_singleton.mp member
      · cases found

-- A step between the lookup and the answer after which nothing is registered yet.
theorem Orderly.pending {m : Machine Store Request Event} {id : Nat} {request : Request} {phase : Phase} (holds : Orderly sha256 k m)
    (known : m.tasks.get id = some request) (busy : active request.phase = true) (mine : keyOf sha256 request = k)
    (silent : Silent sha256 k events) :
    Orderly sha256 k ⟨m.store,m.tasks.set id {request with phase},m.log ++ events⟩ := by
  obtain ⟨vacant,others⟩ := holds.vacant known busy mine
  refine ⟨holds.sole.set (fun other waiting _ different found marked => ?_),.inl (vacant.step (.same k m.store) silent)⟩
  rw [others other waiting different found] at marked
  cases marked

theorem Orderly.registered {m : Machine Store Request Event} {id : Nat} {request : Request} (holds : Orderly sha256 k m)
    (known : m.tasks.get id = some request) (busy : active request.phase = true) (mine : keyOf sha256 request = k)
    (manifest : Manifest) (score : Rat) (prUrl : String) (now dropped : Rat) :
    Orderly sha256 k ⟨(opened sha256 m.store request manifest score prUrl now dropped).1,
      m.tasks.set id (opened sha256 m.store request manifest score prUrl now dropped).2.1,
      m.log ++ (opened sha256 m.store request manifest score prUrl now dropped).2.2⟩ := by
  obtain ⟨vacant,others⟩ := holds.vacant known busy mine
  have own : about sha256 k request.manifestUrl = true := decide_eq_true mine
  have answered : ∀ response, mark sha256 k {request with phase := .answered response} = none := mark_answered
  constructor
  · refine holds.sole.set (fun other waiting _ different found marked => ?_)
    rw [others other waiting different found] at marked
    cases marked
  · refine .inr ⟨now + m.store.cache.ttl,receiptFor sha256 request manifest score prUrl,⟨?_,?_,?_,.inl ?_⟩,?_⟩
    · rw [List.countP_append,vacant.silent.1]
      simp [opened,pullRequestOf,own]
    · rw [List.filterMap_append,vacant.silent.2]
      simp [opened,receiptOf,own]
    · rw [List.filterMap_append]
      refine List.mem_append_right _ ?_
      have same : manifestUrlCacheKey sha256 request.manifestUrl = k := mine
      simp [opened,expiryOf,same]
    · rw [← mine]
      exact RegistrationReceiptTTLCache.setItem_get_self _ _ _
    · intro other waiting found
      rw [Dict.get_set] at found
      split at found
      · cases found
        exact answered _
      · rename_i different
        exact others other waiting (fun same => different same.symm) found

theorem Orderly.step {m next : Machine Store Request Event} {move : Move Request Input} (holds : Orderly sha256 k m)
    (timely : inLifetime sha256 k m move = true) (allowed : orderly sha256 k m move = true)
    (taken : (registerAgent sha256).next m move = some next) : Orderly sha256 k next := by
  cases move with
  | arrive id request =>
    obtain ⟨arrives,_,rfl⟩ := Program.next_arrive _ m next id request taken
    have idle : mark sha256 k request = none := by
      refine if_neg (fun both => ?_)
      simp only [registerAgent] at arrives
      split at arrives
      · rename_i phase
        rw [phase] at both
        cases both.1
      · cases arrives
    refine ⟨holds.sole.set (fun _ _ _ _ _ _ marked => by rw [idle] at marked; cases marked),?_⟩
    exact holds.progress.imp_right (fun ⟨expiresAt,receipt,registered,others⟩ => ⟨expiresAt,receipt,registered,others.set id idle⟩)
  | proceed id input =>
    obtain ⟨request,store,request',events,known,advanced,rfl⟩ := Program.next_proceed _ m next id input taken
    have step := advance_taken sha256 advanced
    by_cases mine : keyOf sha256 request = k
    · cases step with
      | lookup contained dropped compared _ order => exact holds.consulted known mine order timely allowed
      | quiet _ phase busy without => exact holds.pending known busy mine (answers_silent _ without)
      | opened manifest score prUrl now dropped busy => exact holds.registered known busy mine manifest score prUrl now dropped
      | failed outcome response now dropped busy failure without =>
        have unmade : outcome.made = false := by
          cases outcome with
          | opened prUrl => exact absurd rfl (failure prUrl)
          | http | value | raised => simpa [orderly,known,mine] using allowed
        refine holds.pending known busy mine ?_
        rw [unmade]
        cases response with
        | receipt receipt => exact absurd rfl (without receipt)
        | http => exact ⟨rfl,rfl⟩
        | unhandled => exact ⟨rfl,rfl⟩
    · obtain ⟨phase,rfl⟩ := taken_phase step
      exact holds.other (other_frame mine known allowed step) (other_silent mine step) (mark_other mine phase)

end Key

-- No request with the key is under way, and no receipt for it is valid any more.
structure Begins (k : String) (m : Machine Store Request Event) : Prop where
  log : m.log = []
  idle : Unmarked sha256 k m.tasks
  expired : ∀ entry, m.store.cache.store.get k = some entry → entry.1 ≤ m.store.clock

theorem Begins.orderly {k : String} {m : Machine Store Request Event} (begins : Begins sha256 k m) : Orderly sha256 k m where
  sole i _ left _ mark_ found _ marked _ := by
    rw [begins.idle i left found] at marked
    cases marked
  progress := .inl ⟨by rw [begins.log]; exact ⟨rfl,rfl⟩,begins.expired⟩

theorem Orderly.idempotent {k : String} {m : Machine Store Request Event} (holds : Orderly sha256 k m) :
    Idempotent (about sha256 k) m.log := by
  rcases holds.progress with vacant | ⟨_,receipt,registered,_⟩
  · refine ⟨by rw [vacant.silent.1]; omega,?_⟩
    rw [vacant.silent.2]
    simp
  · refine ⟨registered.once.le,?_⟩
    intro first firstMember second secondMember
    rw [registered.same first firstMember,registered.same second secondMember]

-- From any moment at which nothing is registered for an URL.
theorem registration_idempotent (manifestUrl : String) (start final : Machine Store Request Event) (moves : List (Move Request Input))
    (begins : Begins sha256 (manifestUrlCacheKey sha256 manifestUrl) start)
    (run : Runs (registerAgent sha256).next (fun m move => inLifetime sha256 (manifestUrlCacheKey sha256 manifestUrl) m move = true ∧
      orderly sha256 (manifestUrlCacheKey sha256 manifestUrl) m move = true) start moves final) :
    Idempotent (fun url => decide (url = manifestUrl)) final.log := by
  have holds := run.invariant (Orderly sha256 (manifestUrlCacheKey sha256 manifestUrl))
    (fun _ _ _ permitted taken holds => holds.step permitted.1 permitted.2 taken) begins.orderly
  refine holds.idempotent.narrow ?_
  intro url same
  rw [of_decide_eq_true same]
  exact decide_eq_true rfl

end Handler

def shopUrl : String := "https://shop.example/manifest.json"

def shopHash (text : String) : String := if text = shopUrl then "5075fbfb2fe23adb69b96a196dc392f5566e1436521158a5303c4731431a1261" else ""

def shop (id : String) : Manifest := ⟨id,{asap := "https://shop.example/asap"}⟩

def emptyCache : RegistrationReceiptTTLCache RegistrationReceipt := ⟨10000,3600,.empty,by decide,by decide⟩

def idle : Machine Store Request Event := Machine.init ⟨emptyCache,0⟩

theorem idle_begins (k : String) : Begins shopHash k idle := ⟨rfl,(fun _ _ found => by cases found),(fun _ found => by cases found)⟩

def passes : ComplianceReport := ⟨1,[],"all passed"⟩

-- The awaits of a request from the answer of the manifest's server to the pull request.
def registers (id : Nat) (urn prUrl : String) (now : Rat) : List (Move Request Input) :=
  [.proceed id (.fetched (.manifest (shop urn))),.proceed id (.harnessUrl .passed),.proceed id (.report (some passes)),
   .proceed id (.endpoint .passed true),.proceed id (.pullRequest (.opened prUrl) now now)]

-- One request after the other.
def twoRequests : List (Move Request Input) :=
  ([.arrive 1 {manifestUrl := shopUrl},.proceed 1 (.lookup 1 1 1)] : List (Move Request Input)) ++
  registers 1 "urn:asap:agent:shop" "https://github.com/o/r/pull/1" 2 ++
  ([.arrive 2 {manifestUrl := shopUrl},.proceed 2 (.lookup 3 3 3)] : List (Move Request Input))

theorem registration_idempotent_shop : ∃ final,
    Runs (registerAgent shopHash).next (fun m move => inLifetime shopHash (manifestUrlCacheKey shopHash shopUrl) m move = true ∧
      orderly shopHash (manifestUrlCacheKey shopHash shopUrl) m move = true) idle twoRequests final ∧
    Idempotent (fun url => decide (url = shopUrl)) final.log ∧
    (final.log.filterMap (receiptOf (fun url => decide (url = shopUrl)))).length = 2 := by
  have done : (execute (registerAgent shopHash).next (fun m move => inLifetime shopHash (manifestUrlCacheKey shopHash shopUrl) m move &&
      orderly shopHash (manifestUrlCacheKey shopHash shopUrl) m move) idle twoRequests).any
      (fun final => (final.log.filterMap (receiptOf (fun url => decide (url = shopUrl)))).length = 2) = true := by decide +kernel
  obtain ⟨final,ran,receipts⟩ := (Option.any_eq_true ..).mp done
  have run := (execute_runs _ ran).mono (fun _ _ both => Bool.and_eq_true_iff.mp both)
  exact ⟨final,run,registration_idempotent shopHash shopUrl idle final twoRequests (idle_begins _) run,of_decide_eq_true receipts⟩

-- Both requests look into the cache before either has written to it. The agent is renamed
-- between the two answers of its server, so that the branches differ.
def overlappingRequests : List (Move Request Input) :=
  ([.arrive 1 {manifestUrl := shopUrl},.arrive 2 {manifestUrl := shopUrl},.proceed 1 (.lookup 1 1 1),.proceed 2 (.lookup 2 2 2)] :
    List (Move Request Input)) ++
  registers 1 "urn:asap:agent:shop" "https://github.com/o/r/pull/1" 3 ++ registers 2 "urn:asap:agent:store" "https://github.com/o/r/pull/2" 4

theorem overlapping_registrations : ¬∀ final,
    Runs (registerAgent shopHash).next (fun m move => inLifetime shopHash (manifestUrlCacheKey shopHash shopUrl) m move = true) idle
      overlappingRequests final → Idempotent (fun url => decide (url = shopUrl)) final.log := by
  intro claim
  have done : (execute (registerAgent shopHash).next (fun m move => inLifetime shopHash (manifestUrlCacheKey shopHash shopUrl) m move)
      idle overlappingRequests).any (fun final => final.log.countP (pullRequestOf (fun url => decide (url = shopUrl))) = 2) = true := by
    decide +kernel
  obtain ⟨final,ran,two⟩ := (Option.any_eq_true ..).mp done
  have once := (claim final (execute_runs _ ran)).1
  rw [of_decide_eq_true two] at once
  omega

end Asap.AutoRegistration
