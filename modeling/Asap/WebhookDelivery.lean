import Asap.OrderedDict
import Asap.TokenBucket
import Asap.UrlGuards

-- `WebhookDelivery` and `WebhookRetryManager`: posts with retries, a bucket for each URL and the
-- dead letters.
namespace Asap.WebhookDelivery
open OrderedDict TokenBucket UrlGuards

abbrev Bytes := List UInt8

structure RetryPolicy (K : Type) where
  maxRetries : Int
  baseDelay : K
  maxDelay : K
  ratePerSecond : K

structure WebhookResult (K : Type) where
  url : String
  statusCode : Int
  success : Bool
  elapsedMs : K
  error : Option String := none

structure DeadLetterEntry (K P : Type) where
  url : String
  payload : P
  lastResult : WebhookResult K
  attempts : Int
  createdAt : K

structure Post where
  url : String
  content : Bytes
  headers : Dict String String

-- What a post brings: a response, one of the exceptions of httpx, or another one.
inductive Posted where
  | response (statusCode : Int)
  | timeout (text : String)
  | httpError (text : String)
  | raised (text : String)

inductive Raised where
  | refused (refusal : Refusal)
  | unserializable
  | post (text : String)
  | valueError
  | overflowError
  | runtimeError

-- `json.dumps` with sorted keys, encoded, where it does not raise, and the digits of the HMAC.
structure Libraries (P : Type) where
  python : Python
  dumps : P → Option Bytes
  hexdigest : Bytes → Bytes → String

structure Delivery where
  secret : Option Bytes
  timeoutSeconds : String
  requireHttps : Bool

-- What one attempt meets: the readings of the clock around its wait for a token, the lookup of the
-- host, and the post. The clock does not go back, and a loop may look at it as often as it likes.
structure Attempt (K : Type) [Field K] [LinearOrder K] where
  before : K
  rounds : List (K × K)
  answer : Answer
  posted : Posted
  elapsedMs : K
  forward : 0 ≤ before
  patient : 2 ≤ rounds.length
  delays : ∀ round ∈ rounds, 0 ≤ round.1 ∧ 0 ≤ round.2

variable {K P : Type} [Field K] [LinearOrder K]

section Deliver
variable (libraries : Libraries P) (delivery : Delivery)

def computeSignature (body secret : Bytes) : String := "sha256=" ++ libraries.hexdigest body secret

def headers (body : Bytes) (extraHeaders : List (String × String)) : Dict String String :=
  let headers := Dict.empty.set "Content-Type" "application/json"
  let headers := delivery.secret.elim headers (fun secret => headers.set "X-ASAP-Signature" (computeSignature libraries body secret))
  extraHeaders.foldl (fun headers row => headers.set row.1 row.2) headers

def deliver (url : String) (payload : P) (extraHeaders : List (String × String)) (attempt : Attempt K) :
    List Post × Except Raised (WebhookResult K) :=
  match validateCallbackUrl libraries.python attempt.answer url delivery.requireHttps with
  | .error refusal => ([],.error (.refused refusal))
  | .ok () =>
    match libraries.dumps payload with
    | none => ([],.error .unserializable)
    | some body => ([⟨url,body,headers libraries delivery body extraHeaders⟩],
        match attempt.posted with
        | .response statusCode => .ok ⟨url,statusCode,decide (200 ≤ statusCode ∧ statusCode < 300),attempt.elapsedMs,none⟩
        | .timeout text => .ok ⟨url,0,false,attempt.elapsedMs,some ("Timeout after " ++ delivery.timeoutSeconds ++ "s: " ++ text)⟩
        | .httpError text => .ok ⟨url,0,false,attempt.elapsedMs,some text⟩
        | .raised text => .error (.post text))
end Deliver

-- The dead letters, the buckets, and the last reading of the clock.
structure Manager (K P : Type) [Field K] [LinearOrder K] where
  deadLetters : List (DeadLetterEntry K P)
  urlBuckets : Dict String (Bucket K)
  clock : K

inductive Ended (K : Type) where
  | returned (result : WebhookResult K)
  | raised (raised : Raised)
  | waiting

structure Run (K P : Type) [Field K] [LinearOrder K] where
  manager : Manager K P
  posts : List Post
  ended : Ended K

-- One call of `deliver_with_retry`.
structure Delivered (K P : Type) [Field K] [LinearOrder K] where
  url : String
  payload : P
  extraHeaders : List (String × String)
  attempts : Nat → Attempt K
  createdAt : K

def maxDeadLetters : Nat := 1000
def maxBuckets : Nat := 10000

-- `deque(maxlen=MAX_DEAD_LETTERS)`: a full one loses its oldest entry.
def append (letters : List (DeadLetterEntry K P)) (entry : DeadLetterEntry K P) : List (DeadLetterEntry K P) :=
  if letters.length < maxDeadLetters then letters ++ [entry] else letters.tail ++ [entry]

section Retry
variable (policy : RetryPolicy K)

-- `none` is the OverflowError of the power.
def backoffDelay (attempt : Nat) : Option K :=
  if attempt < 1024 then some (min (policy.baseDelay * 2 ^ attempt) policy.maxDelay) else none

def evictOldest (buckets : Dict String (Bucket K)) : Dict String (Bucket K) :=
  if maxBuckets ≤ buckets.size then buckets.keys.head?.elim buckets buckets.erase else buckets

def getBucket (buckets : Dict String (Bucket K)) (url : String) (now : K) : Dict String (Bucket K) × Option (Bucket K) :=
  match buckets.get url with
  | some bucket => (buckets,some bucket)
  | none =>
    match create policy.ratePerSecond none now with
    | none => (evictOldest buckets,none)
    | some bucket => ((evictOldest buckets).set url bucket,some bucket)

-- `_wait_for_rate_limit`, with how the call ends where it does not get a token.
def acquire (m : Manager K P) (url : String) (attempt : Attempt K) : Manager K P × Option (Ended K) :=
  let now := m.clock + attempt.before
  match getBucket policy m.urlBuckets url now with
  | (buckets,none) => ({m with urlBuckets := buckets,clock := now},some (.raised .valueError))
  | (buckets,some bucket) =>
    match waitForRateLimit bucket now attempt.rounds with
    | none => ({m with urlBuckets := buckets,clock := now},some .waiting)
    | some (bucket,time) => ({m with urlBuckets := buckets.set url bucket,clock := time},none)

def sendToDeadLetter (m : Manager K P) (call : Delivered K P) (lastResult : WebhookResult K) : Manager K P :=
  {m with deadLetters := append m.deadLetters ⟨call.url,call.payload,lastResult,1 + policy.maxRetries,call.createdAt⟩}

variable (libraries : Libraries P) (delivery : Delivery)

def attemptLoop (call : Delivered K P) : Nat → Nat → Manager K P → Run K P
  | 0,_,m => ⟨m,[],.raised .runtimeError⟩
  | remaining + 1,attempt,m =>
    let acquired := acquire policy m call.url (call.attempts attempt)
    match acquired.2 with
    | some ended => ⟨acquired.1,[],ended⟩
    | none =>
      let delivered := deliver libraries delivery call.url call.payload call.extraHeaders (call.attempts attempt)
      match delivered.2 with
      | .error raised => ⟨acquired.1,delivered.1,.raised raised⟩
      | .ok result =>
        if result.success then ⟨acquired.1,delivered.1,.returned result⟩
        else if 400 ≤ result.statusCode ∧ result.statusCode < 500 then ⟨acquired.1,delivered.1,.returned result⟩
        else if attempt = policy.maxRetries then ⟨sendToDeadLetter policy acquired.1 call result,delivered.1,.returned result⟩
        else
          match backoffDelay policy attempt with
          | none => ⟨acquired.1,delivered.1,.raised .overflowError⟩
          | some delay =>
            let later := attemptLoop call remaining (attempt + 1) {acquired.1 with clock := acquired.1.clock + max 0 delay}
            ⟨later.manager,delivered.1 ++ later.posts,later.ended⟩

def deliverWithRetry (m : Manager K P) (call : Delivered K P) : Run K P :=
  attemptLoop policy libraries delivery call (1 + policy.maxRetries).toNat 0 m

-- The manager after some calls.
def after (start : K) (calls : List (Delivered K P)) : Manager K P :=
  calls.foldl (fun m call => (deliverWithRetry policy libraries delivery m call).manager) ⟨[],.empty,start⟩
end Retry

section Buckets
variable (policy : RetryPolicy K)

-- Every bucket is one that the policy's rate made.
structure Good (clock : K) (bucket : Bucket K) : Prop where
  rate : bucket.rate = policy.ratePerSecond
  capacity : bucket.capacity = policy.ratePerSecond
  sound : Sound bucket
  refilled : bucket.lastRefill ≤ clock

def Kept (buckets : Dict String (Bucket K)) (clock : K) : Prop := ∀ url bucket, buckets.get url = some bucket → Good policy clock bucket

variable {policy} {buckets : Dict String (Bucket K)} {clock : K}

theorem Good.later {bucket : Bucket K} (good : Good policy clock bucket) {now : K} (forward : clock ≤ now) : Good policy now bucket :=
  ⟨good.rate,good.capacity,good.sound,good.refilled.trans forward⟩

theorem Kept.later (kept : Kept policy buckets clock) {now : K} (forward : clock ≤ now) : Kept policy buckets now :=
  fun url bucket found => (kept url bucket found).later forward

theorem Kept.set (kept : Kept policy buckets clock) {bucket : Bucket K} (good : Good policy clock bucket) (url : String) :
    Kept policy (buckets.set url bucket) clock := by
  intro other found held
  rw [Dict.get_set] at held
  split at held
  · cases held
    exact good
  · exact kept other found held

theorem Kept.evict (kept : Kept policy buckets clock) : Kept policy (evictOldest buckets) clock := by
  unfold evictOldest
  split
  · cases buckets.keys.head? with
    | none => exact kept
    | some oldest =>
      intro url bucket found
      rw [Option.elim_some,Dict.get_erase] at found
      split at found
      · cases found
      · exact kept url bucket found
  · exact kept

theorem created_good {now : K} {bucket : Bucket K} (created : create policy.ratePerSecond none now = some bucket) : Good policy now bucket := by
  obtain ⟨positive,rate,capacity,full,fresh⟩ := create_spec created
  refine ⟨rate,capacity,⟨?_,full.le⟩,fresh.le⟩
  rw [full,capacity]
  exact positive.le

-- A bucket is found or made, unless the rate is refused.
theorem getBucket_spec (kept : Kept policy buckets clock) (url : String) {now : K} (forward : clock ≤ now) :
    Kept policy (getBucket policy buckets url now).1 now ∧
    (∀ bucket, (getBucket policy buckets url now).2 = some bucket → Good policy now bucket) ∧
    ((getBucket policy buckets url now).2 = none → policy.ratePerSecond ≤ 0) := by
  have kept := kept.later forward
  unfold getBucket
  cases held : buckets.get url with
  | some bucket =>
    refine ⟨kept,fun other same => ?_,(fun impossible => by cases impossible)⟩
    cases same
    exact kept url bucket held
  | none =>
    cases created : create policy.ratePerSecond none now with
    | none =>
      refine ⟨kept.evict,(fun other impossible => by cases impossible),fun _ => ?_⟩
      unfold create at created
      split at created
      · assumption
      · cases created
    | some bucket =>
      refine ⟨kept.evict.set (created_good created) url,fun other same => ?_,(fun impossible => by cases impossible)⟩
      cases same
      exact created_good created

variable [IsStrictOrderedRing K]

theorem attempt_waits {bucket : Bucket K} (good : Good policy clock bucket) (room : 1 ≤ policy.ratePerSecond) (attempt : Attempt K) :
    (waitForRateLimit bucket clock attempt.rounds).isSome = true := by
  have delays := attempt.delays
  match attempt.rounds,attempt.patient,delays with
  | first :: second :: rounds,_,delays =>
    obtain ⟨paused,late⟩ := delays first List.mem_cons_self
    exact wait_ends good.sound good.refilled (good.capacity ▸ room) first second rounds paused late

-- A token is got exactly where the buckets have room for one.
theorem acquire_spec {m : Manager K P} (kept : Kept policy m.urlBuckets m.clock) (url : String) (attempt : Attempt K) :
    Kept policy (acquire policy m url attempt).1.urlBuckets (acquire policy m url attempt).1.clock ∧
    (acquire policy m url attempt).1.deadLetters = m.deadLetters ∧
    ((acquire policy m url attempt).2 = none ↔ 1 ≤ policy.ratePerSecond) ∧
    ∀ result, (acquire policy m url attempt).2 ≠ some (.returned result) := by
  obtain ⟨others,made,refused⟩ := getBucket_spec kept url (le_add_of_nonneg_right attempt.forward : m.clock ≤ m.clock + attempt.before)
  unfold acquire
  simp only
  revert others made refused
  rcases getBucket policy m.urlBuckets url (m.clock + attempt.before) with ⟨buckets,_ | bucket⟩
  · intro others _ refused
    refine ⟨others,rfl,⟨(fun impossible => by cases impossible),fun room => ?_⟩,(fun result impossible => by cases impossible)⟩
    exact absurd (refused rfl) (not_le.mpr (zero_lt_one.trans_le room))
  · intro others made _
    have good := made bucket rfl
    simp only
    by_cases room : 1 ≤ policy.ratePerSecond
    · obtain ⟨⟨next,time⟩,ended⟩ := Option.isSome_iff_exists.mp (attempt_waits good room attempt)
      have ran := wait_keeps good.sound good.refilled attempt.delays ended
      have kept := wait_forward attempt.delays ended
      rw [ended]
      refine ⟨(others.later kept).set ⟨ran.rate.trans good.rate,ran.capacity.trans good.capacity,ran.sound,ran.refilled⟩ url,rfl,
        ⟨fun _ => room,fun _ => rfl⟩,(fun result impossible => by cases impossible)⟩
    · have small : bucket.capacity < 1 := good.capacity ▸ not_le.mp room
      rw [small_waits small]
      refine ⟨others,rfl,⟨(fun impossible => by cases impossible),fun enough => absurd enough room⟩,(fun result impossible => by cases impossible)⟩
end Buckets

section Attempts
variable (libraries : Libraries P) (delivery : Delivery)

-- The status code of a result; a failure of the network has none.
def statusOf : Posted → Option Int
  | .response statusCode => some statusCode
  | .timeout _ | .httpError _ => some 0
  | .raised _ => none

def isSuccess (statusCode : Int) : Prop := 200 ≤ statusCode ∧ statusCode < 300
def isClientError (statusCode : Int) : Prop := 400 ≤ statusCode ∧ statusCode < 500

-- Neither a success nor a client error: the next attempt is made.
def Retryable (posted : Posted) : Prop := ∃ statusCode, statusOf posted = some statusCode ∧ ¬ isSuccess statusCode ∧ ¬ isClientError statusCode

-- The URL passes its checks, the payload is JSON, and nothing but httpx's own exceptions comes of the post.
structure Sent (call : Delivered K P) (attempt : Attempt K) : Prop where
  validated : validateCallbackUrl libraries.python attempt.answer call.url delivery.requireHttps = .ok ()
  dumped : (libraries.dumps call.payload).isSome = true
  answered : (statusOf attempt.posted).isSome = true

variable {libraries delivery} {call : Delivered K P} {attempt : Attempt K}

theorem deliver_posts (url : String) (payload : P) (extraHeaders : List (String × String)) (attempt : Attempt K) :
    (deliver libraries delivery url payload extraHeaders attempt).1.length ≤ 1 := by
  unfold deliver
  split
  · exact Nat.zero_le _
  · split
    · exact Nat.zero_le _
    · exact Nat.le_refl _

theorem deliver_sent : (∃ result, (deliver libraries delivery call.url call.payload call.extraHeaders attempt).2 = .ok result) ↔
    Sent libraries delivery call attempt := by
  have parts : Sent libraries delivery call attempt ↔
      validateCallbackUrl libraries.python attempt.answer call.url delivery.requireHttps = .ok () ∧
      (libraries.dumps call.payload).isSome = true ∧ (statusOf attempt.posted).isSome = true :=
    ⟨fun sent => ⟨sent.validated,sent.dumped,sent.answered⟩,fun ⟨validated,dumped,answered⟩ => ⟨validated,dumped,answered⟩⟩
  rw [parts]
  unfold deliver
  cases validateCallbackUrl libraries.python attempt.answer call.url delivery.requireHttps with
  | error refusal => simp
  | ok _ =>
    cases libraries.dumps call.payload with
    | none => simp
    | some body => cases attempt.posted <;> simp [statusOf]

theorem deliver_result (answered : (deliver libraries delivery call.url call.payload call.extraHeaders attempt).2 = .ok result) :
    statusOf attempt.posted = some result.statusCode ∧ (result.success = true ↔ isSuccess result.statusCode) := by
  unfold deliver at answered
  revert answered
  cases validateCallbackUrl libraries.python attempt.answer call.url delivery.requireHttps with
  | error refusal => intro impossible; cases impossible
  | ok _ =>
    cases libraries.dumps call.payload with
    | none => intro impossible; cases impossible
    | some body =>
      cases attempt.posted with
      | response statusCode =>
        rintro ⟨⟩
        exact ⟨rfl,decide_eq_true_iff⟩
      | timeout text =>
        rintro ⟨⟩
        exact ⟨rfl,by simp [isSuccess]⟩
      | httpError text =>
        rintro ⟨⟩
        exact ⟨rfl,by simp [isSuccess]⟩
      | raised text => intro impossible; cases impossible
end Attempts

section Loop
variable (policy : RetryPolicy K) (libraries : Libraries P) (delivery : Delivery)

-- A success, a client error, or one dead letter for the payload; nothing else changes the dead letters.
structure Lettered (letters : List (DeadLetterEntry K P)) (call : Delivered K P) (result : WebhookResult K) (ended : List (DeadLetterEntry K P)) : Prop where
  failed : result.success = false ∧ ¬ isClientError result.statusCode
  entry : ∃ older entry, older <:+ letters ∧ ended = older ++ [entry] ∧ entry.url = call.url ∧ entry.payload = call.payload ∧
    entry.lastResult = result ∧ entry.attempts = 1 + policy.maxRetries

def Ends (letters : List (DeadLetterEntry K P)) (call : Delivered K P) (run : Run K P) : Prop :=
  ∃ result, run.ended = .returned result ∧
    ((result.success = true ∧ run.manager.deadLetters = letters) ∨
     (result.success = false ∧ isClientError result.statusCode ∧ run.manager.deadLetters = letters) ∨
     Lettered policy letters call result run.manager.deadLetters)

-- The attempt is sent, and where it is retried the delay before the next one can be computed.
def Clean (call : Delivered K P) (k : Nat) : Prop :=
  Sent libraries delivery call (call.attempts k) ∧ (Retryable (call.attempts k).posted → (k : Int) ≠ policy.maxRetries → k < 1024)

-- The manager with a token for the URL, and what the attempt then brings.
def acquiring (call : Delivered K P) (k : Nat) (m : Manager K P) : Manager K P × Option (Ended K) :=
  acquire policy m call.url (call.attempts k)

def delivering (call : Delivered K P) (k : Nat) : List Post × Except Raised (WebhookResult K) :=
  deliver libraries delivery call.url call.payload call.extraHeaders (call.attempts k)

def rested (m : Manager K P) (delay : K) : Manager K P := {m with clock := m.clock + max 0 delay}

-- What a round of the loop can come to.
inductive Round (call : Delivered K P) (remaining k : Nat) (m : Manager K P) : Run K P → Prop where
  | blocked {ended} : (acquiring policy call k m).2 = some ended → Round call remaining k m ⟨(acquiring policy call k m).1,[],ended⟩
  | failed {raised} : (acquiring policy call k m).2 = none → (delivering libraries delivery call k).2 = .error raised →
      Round call remaining k m ⟨(acquiring policy call k m).1,(delivering libraries delivery call k).1,.raised raised⟩
  | settled {result} : (acquiring policy call k m).2 = none → (delivering libraries delivery call k).2 = .ok result →
      result.success = true ∨ (result.success = false ∧ isClientError result.statusCode) →
      Round call remaining k m ⟨(acquiring policy call k m).1,(delivering libraries delivery call k).1,.returned result⟩
  | lettered {result} : (acquiring policy call k m).2 = none → (delivering libraries delivery call k).2 = .ok result →
      result.success = false → ¬ isClientError result.statusCode → (k : Int) = policy.maxRetries →
      Round call remaining k m ⟨sendToDeadLetter policy (acquiring policy call k m).1 call result,(delivering libraries delivery call k).1,.returned result⟩
  | overflow {result} : (acquiring policy call k m).2 = none → (delivering libraries delivery call k).2 = .ok result →
      result.success = false → ¬ isClientError result.statusCode → (k : Int) ≠ policy.maxRetries → ¬ k < 1024 →
      Round call remaining k m ⟨(acquiring policy call k m).1,(delivering libraries delivery call k).1,.raised .overflowError⟩
  | again {result delay later} : (acquiring policy call k m).2 = none → (delivering libraries delivery call k).2 = .ok result →
      result.success = false → ¬ isClientError result.statusCode → (k : Int) ≠ policy.maxRetries → k < 1024 →
      later = attemptLoop policy libraries delivery call remaining (k + 1) (rested (acquiring policy call k m).1 delay) →
      Round call remaining k m ⟨later.manager,(delivering libraries delivery call k).1 ++ later.posts,later.ended⟩

theorem loop_round (call : Delivered K P) (remaining k : Nat) (m : Manager K P) :
    Round policy libraries delivery call remaining k m (attemptLoop policy libraries delivery call (remaining + 1) k m) := by
  rw [attemptLoop]
  simp only
  split
  · rename_i ended blocked
    exact .blocked blocked
  · rename_i acquired
    split
    · rename_i raised failed
      exact .failed acquired failed
    · rename_i result answered
      split
      · rename_i success
        exact .settled acquired answered (.inl success)
      · rename_i failure
        have failure := Bool.eq_false_iff.mpr failure
        split
        · rename_i client
          exact .settled acquired answered (.inr ⟨failure,client⟩)
        · rename_i other
          split
          · rename_i last
            exact .lettered acquired answered failure other last
          · rename_i more
            unfold backoffDelay
            by_cases small : k < 1024
            · rw [if_pos small]
              exact .again acquired answered failure other more small rfl
            · rw [if_neg small]
              exact .overflow acquired answered failure other more small

omit [Field K] [LinearOrder K] in
theorem append_spec (letters : List (DeadLetterEntry K P)) (entry : DeadLetterEntry K P) :
    ∃ older, older <:+ letters ∧ append letters entry = older ++ [entry] := by
  unfold append
  split
  · exact ⟨letters,List.suffix_refl _,rfl⟩
  · exact ⟨letters.tail,List.tail_suffix _,rfl⟩

theorem loop_posts (call : Delivered K P) (remaining k : Nat) (m : Manager K P) :
    (attemptLoop policy libraries delivery call remaining k m).posts.length ≤ remaining := by
  induction remaining generalizing k m with
  | zero => exact Nat.le_refl _
  | succ remaining ih =>
    have one : (delivering libraries delivery call k).1.length ≤ 1 := deliver_posts _ _ _ _
    have round := loop_round policy libraries delivery call remaining k m
    generalize attemptLoop policy libraries delivery call (remaining + 1) k m = run at *
    cases round with
    | blocked _ => exact Nat.zero_le _
    | failed _ _ | settled _ _ _ | lettered _ _ _ _ _ | overflow _ _ _ _ _ _ => exact one.trans (Nat.le_add_left _ _)
    | @again result delay later _ _ _ _ _ _ same =>
      have bounded := ih (k + 1) (rested (acquiring policy call k m).1 delay)
      rw [← same] at bounded
      simp only [List.length_append]
      omega

-- What a result says of the attempt that it came from.
theorem result_spec {libraries : Libraries P} {delivery : Delivery} {call : Delivered K P} {k : Nat} (answered : (delivering libraries delivery call k).2 = .ok result) :
    Sent libraries delivery call (call.attempts k) ∧ (result.success = true ↔ isSuccess result.statusCode) ∧
    (Retryable (call.attempts k).posted ↔ result.success = false ∧ ¬ isClientError result.statusCode) := by
  obtain ⟨status,success⟩ := deliver_result answered
  refine ⟨deliver_sent.mp ⟨result,answered⟩,success,?_⟩
  rw [← Bool.not_eq_true,success]
  unfold Retryable
  rw [status]
  simp

section Outcome
variable [IsStrictOrderedRing K] {policy} {libraries} {delivery}

theorem rested_kept {m : Manager K P} (kept : Kept policy m.urlBuckets m.clock) (delay : K) :
    Kept policy (rested m delay).urlBuckets (rested m delay).clock :=
  kept.later (le_add_of_nonneg_right (le_max_left _ _))

theorem loop_kept (call : Delivered K P) {remaining k : Nat} {m : Manager K P} (kept : Kept policy m.urlBuckets m.clock) :
    Kept policy (attemptLoop policy libraries delivery call remaining k m).manager.urlBuckets
      (attemptLoop policy libraries delivery call remaining k m).manager.clock := by
  induction remaining generalizing k m with
  | zero => exact kept
  | succ remaining ih =>
    have acquired : Kept policy (acquiring policy call k m).1.urlBuckets (acquiring policy call k m).1.clock :=
      (acquire_spec kept call.url (call.attempts k)).1
    have round := loop_round policy libraries delivery call remaining k m
    generalize attemptLoop policy libraries delivery call (remaining + 1) k m = run at *
    cases round with
    | blocked _ | failed _ _ | settled _ _ _ | lettered _ _ _ _ _ | overflow _ _ _ _ _ _ => exact acquired
    | @again result delay later _ _ _ _ _ _ same =>
      have kept := ih (k := k + 1) (rested_kept acquired delay)
      rw [← same] at kept
      exact kept

theorem after_kept (start : K) (calls : List (Delivered K P)) :
    Kept policy (after policy libraries delivery start calls).urlBuckets (after policy libraries delivery start calls).clock := by
  unfold after
  induction calls using List.reverseRecOn with
  | nil => intro url bucket impossible; cases impossible
  | append_singleton calls call ih =>
    rw [List.foldl_append]
    exact loop_kept call ih

theorem loop_ends (room : 1 ≤ policy.ratePerSecond) (call : Delivered K P) {remaining k : Nat} {m : Manager K P}
    (kept : Kept policy m.urlBuckets m.clock) (counted : (k + remaining : Int) = policy.maxRetries) :
    Ends policy m.deadLetters call (attemptLoop policy libraries delivery call (remaining + 1) k m) ↔
      ∀ i, k ≤ i → (i : Int) ≤ policy.maxRetries → (∀ j, k ≤ j → j < i → Retryable (call.attempts j).posted) →
        Clean policy libraries delivery call i := by
  induction remaining using Nat.strongRecOn generalizing k m with
  | ind remaining ih =>
    have now (clean : ∀ i, k ≤ i → (i : Int) ≤ policy.maxRetries → (∀ j, k ≤ j → j < i → Retryable (call.attempts j).posted) →
        Clean policy libraries delivery call i) : Clean policy libraries delivery call k :=
      clean k (Nat.le_refl k) (by omega) (fun j reached before => absurd before (Nat.not_lt.mpr reached))
    -- No later attempt is reached from one that is not retried, or from the last one.
    have only (clean : Clean policy libraries delivery call k) (final : ¬ Retryable (call.attempts k).posted ∨ (k : Int) = policy.maxRetries) :
        ∀ i, k ≤ i → (i : Int) ≤ policy.maxRetries → (∀ j, k ≤ j → j < i → Retryable (call.attempts j).posted) →
          Clean policy libraries delivery call i := by
      intro i reached bound retried
      rcases Nat.eq_or_lt_of_le reached with rfl | later
      · exact clean
      · rcases final with unretried | last
        · exact absurd (retried k (Nat.le_refl k) later) unretried
        · omega
    obtain ⟨acquired,letters,got,_⟩ := acquire_spec kept call.url (call.attempts k)
    change Kept policy (acquiring policy call k m).1.urlBuckets (acquiring policy call k m).1.clock at acquired
    change (acquiring policy call k m).1.deadLetters = m.deadLetters at letters
    have got : (acquiring policy call k m).2 = none := got.mpr room
    have round := loop_round policy libraries delivery call remaining k m
    generalize attemptLoop policy libraries delivery call (remaining + 1) k m = run at *
    cases round with
    | blocked blocked =>
      rw [got] at blocked
      cases blocked
    | failed _ failed =>
      constructor
      · rintro ⟨result,impossible,_⟩
        cases impossible
      · intro clean
        obtain ⟨result,answered⟩ := deliver_sent.mpr (now clean).1
        change (delivering libraries delivery call k).2 = .ok result at answered
        rw [answered] at failed
        cases failed
    | @settled result _ answered ended =>
      obtain ⟨sent,_,retryable⟩ := result_spec answered
      have unretried : ¬ Retryable (call.attempts k).posted := by
        rw [retryable]
        rintro ⟨failure,other⟩
        rcases ended with success | ⟨_,client⟩
        · rw [failure] at success
          cases success
        · exact other client
      constructor
      · intro _
        exact only ⟨sent,fun retried => absurd retried unretried⟩ (.inl unretried)
      · intro _
        rcases ended with success | ⟨failure,client⟩
        · exact ⟨result,rfl,.inl ⟨success,letters⟩⟩
        · exact ⟨result,rfl,.inr (.inl ⟨failure,client,letters⟩)⟩
    | @lettered result _ answered failure other last =>
      obtain ⟨sent,_,_⟩ := result_spec answered
      constructor
      · intro _
        exact only ⟨sent,fun _ more => absurd last more⟩ (.inr last)
      · intro _
        obtain ⟨older,suffix,same⟩ := append_spec (acquiring policy call k m).1.deadLetters
          ⟨call.url,call.payload,result,1 + policy.maxRetries,call.createdAt⟩
        exact ⟨result,rfl,.inr (.inr ⟨⟨failure,other⟩,older,_,letters ▸ suffix,same,rfl,rfl,rfl,rfl⟩)⟩
    | overflow _ answered failure other more large =>
      obtain ⟨_,_,retryable⟩ := result_spec answered
      constructor
      · rintro ⟨result,impossible,_⟩
        cases impossible
      · intro clean
        exact absurd ((now clean).2 (retryable.mpr ⟨failure,other⟩) more) large
    | @again result delay later _ answered failure other more small same =>
      obtain ⟨sent,_,retryable⟩ := result_spec answered
      have retried := retryable.mpr ⟨failure,other⟩
      change Ends policy m.deadLetters call later ↔ _
      cases remaining with
      | zero => omega
      | succ remaining =>
        have rest := ih remaining (Nat.lt_succ_self _) (k := k + 1) (rested_kept acquired delay) (by push_cast at counted ⊢; omega)
        change Ends policy (acquiring policy call k m).1.deadLetters call _ ↔ _ at rest
        rw [letters,← same] at rest
        rw [rest]
        constructor
        · intro clean i reached bound before
          rcases Nat.eq_or_lt_of_le reached with rfl | later
          · exact ⟨sent,fun _ _ => small⟩
          · exact clean i later bound (fun j reached earlier => before j (Nat.le_of_succ_le reached) earlier)
        · intro clean i reached bound before
          refine clean i (Nat.le_of_succ_le reached) bound (fun j started earlier => ?_)
          rcases Nat.eq_or_lt_of_le started with rfl | later
          · exact retried
          · exact before j later earlier
variable (policy) (libraries) (delivery)

-- One post for each attempt at most, and one of the three outcomes.
structure Settled (m : Manager K P) (call : Delivered K P) : Prop where
  posts : ((deliverWithRetry policy libraries delivery m call).posts.length : Int) ≤ 1 + policy.maxRetries
  ends : Ends policy m.deadLetters call (deliverWithRetry policy libraries delivery m call)

theorem unacquired_unsettled (cramped : ¬ 1 ≤ policy.ratePerSecond) (call : Delivered K P) (remaining k : Nat) {m : Manager K P}
    (kept : Kept policy m.urlBuckets m.clock) :
    ¬ Ends policy m.deadLetters call (attemptLoop policy libraries delivery call (remaining + 1) k m) := by
  rintro ⟨result,ended,_⟩
  obtain ⟨_,_,got,unreturned⟩ := acquire_spec kept call.url (call.attempts k)
  have round := loop_round policy libraries delivery call remaining k m
  generalize attemptLoop policy libraries delivery call (remaining + 1) k m = run at *
  cases round with
  | blocked blocked => exact unreturned result (blocked.trans (congrArg some ended))
  | failed acquired _ | settled acquired _ _ | lettered acquired _ _ _ _ | overflow acquired _ _ _ _ _ | again acquired _ _ _ _ _ _ =>
    exact cramped (got.mp acquired)

theorem settled_parts {m : Manager K P} (kept : Kept policy m.urlBuckets m.clock) (call : Delivered K P) :
    Settled policy libraries delivery m call ↔ 0 ≤ policy.maxRetries ∧ 1 ≤ policy.ratePerSecond ∧
      ∀ k : Nat, (k : Int) ≤ policy.maxRetries → (∀ j < k, Retryable (call.attempts j).posted) → Clean policy libraries delivery call k := by
  by_cases retries : 0 ≤ policy.maxRetries
  · have rounds : (1 + policy.maxRetries).toNat = policy.maxRetries.toNat + 1 := by omega
    have bound := loop_posts policy libraries delivery call (policy.maxRetries.toNat + 1) 0 m
    have counted : ((0 : Nat) + policy.maxRetries.toNat : Int) = policy.maxRetries := by omega
    by_cases room : 1 ≤ policy.ratePerSecond
    · have ends : Ends policy m.deadLetters call (attemptLoop policy libraries delivery call (policy.maxRetries.toNat + 1) 0 m) ↔ _ :=
        loop_ends room call kept counted
      simp only [Nat.zero_le,true_implies] at ends
      constructor
      · intro settled
        have ended := settled.ends
        rw [deliverWithRetry,rounds,ends] at ended
        exact ⟨retries,room,ended⟩
      · rintro ⟨_,_,clean⟩
        refine ⟨?_,?_⟩
        · rw [deliverWithRetry,rounds]
          omega
        · rw [deliverWithRetry,rounds,ends]
          exact clean
    · refine ⟨fun settled => ?_,fun fine => absurd fine.2.1 room⟩
      have ended := settled.ends
      rw [deliverWithRetry,rounds] at ended
      exact absurd ended (unacquired_unsettled policy libraries delivery room call _ 0 kept)
  · refine ⟨fun settled => ?_,fun fine => absurd fine.1 retries⟩
    have none : (1 + policy.maxRetries).toNat = 0 := by omega
    obtain ⟨result,ended,_⟩ := settled.ends
    rw [deliverWithRetry,none] at ended
    cases ended

-- After any calls, one more is settled exactly where its policy makes attempts and lets them through, and no
-- attempt that is reached meets anything but a response or a failure of httpx.
theorem webhook_delivery_settled_iff (start : K) (history : List (Delivered K P)) (call : Delivered K P) :
    Settled policy libraries delivery (after policy libraries delivery start history) call ↔
      0 ≤ policy.maxRetries ∧ 1 ≤ policy.ratePerSecond ∧
      ∀ k : Nat, (k : Int) ≤ policy.maxRetries → (∀ j < k, Retryable (call.attempts j).posted) → Clean policy libraries delivery call k :=
  settled_parts policy libraries delivery (after_kept start history) call
end Outcome
end Loop

def defaultPolicy : RetryPolicy Rat := ⟨5,1,16,10⟩

def hooksOnly : Python where
  urlparse _ := some ⟨"https","hooks.example","/h","","",""⟩
  urlunparse _ := "https://hooks.example/h"
  hostname _ := some "hooks.example"
  lower text := text
  ipAddress _ := none
  ipAddress_lower _ := rfl

def hooksLibraries : Libraries Unit := ⟨hooksOnly,fun _ => some [],fun _ _ => ""⟩

def unsigned : Delivery := ⟨none,"10.0",true⟩

def attemptWith (answer : Answer) (posted : Posted) : Attempt Rat :=
  ⟨0,[(0,0),(0,0)],answer,posted,0,le_refl _,le_refl _,by simp⟩

def resolved : Attempt Rat := attemptWith (.ok ["93.184.216.34"]) (.response 503)
def unresolved : Attempt Rat := attemptWith (.error (.gaierror "Temporary failure in name resolution")) (.response 200)

-- 503, then a lookup that fails for the moment.
def interrupted : Delivered Rat Unit := ⟨"https://hooks.example/h",(),[],fun k => if k = 0 then resolved else unresolved,0⟩

theorem webhook_delivery_settled_iff_interrupted :
    Settled defaultPolicy hooksLibraries unsigned (after defaultPolicy hooksLibraries unsigned 0 []) interrupted ↔
      0 ≤ defaultPolicy.maxRetries ∧ 1 ≤ defaultPolicy.ratePerSecond ∧
      ∀ k : Nat, (k : Int) ≤ defaultPolicy.maxRetries → (∀ j < k, Retryable (interrupted.attempts j).posted) →
        Clean defaultPolicy hooksLibraries unsigned interrupted k :=
  webhook_delivery_settled_iff defaultPolicy hooksLibraries unsigned 0 [] interrupted

theorem lookup_failure_lost : ¬ Settled defaultPolicy hooksLibraries unsigned (after defaultPolicy hooksLibraries unsigned 0 []) interrupted := by
  rw [settled_parts defaultPolicy hooksLibraries unsigned (after_kept 0 []) interrupted]
  rintro ⟨_,_,clean⟩
  have retried : ∀ j < 1, Retryable (interrupted.attempts j).posted := by
    intro j first
    obtain rfl : j = 0 := Nat.lt_one_iff.mp first
    exact ⟨503,rfl,by simp [isSuccess],by simp [isClientError]⟩
  have sent := (clean 1 (by decide) retried).1.validated
  have named : Option.filter (fun hostname : String => decide (hostname ≠ "")) (some "hooks.example") = some "hooks.example" := rfl
  unfold validateCallbackUrl at sent
  simp only [hooksLibraries,hooksOnly,named] at sent
  simp [interrupted,unresolved,attemptWith,unsigned,allowedSchemes,ipIsBlocked,resolveHostname] at sent

end Asap.WebhookDelivery
