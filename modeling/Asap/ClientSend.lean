import Asap.CircuitBreaker
import Asap.Interleaving
import Asap.PythonValue

namespace Asap.ClientSend
open OrderedDict PythonValue Interleaving Circuit

-- `base_url` and the text of `timeout` go into messages. The breaker is there when it
-- is enabled; clients of one URL share it.
structure Client where
  baseUrl : String
  timeout : String
  maxRetries : Int
  circuitBreaker : Bool

-- An exception that is none of the client's own errors.
inductive Fault where
  | attributeError
  | typeError
  | valueError
  | overflowError
  | other (text : String)
  deriving DecidableEq

-- `unexpected` is the connection error that wraps any other exception.
inductive SendError where
  | value (message : String)
  | connection (message : String)
  | timeout (message : String)
  | circuitOpen (consecutiveFailures : Nat)
  | remote (code : Int) (message : String)
  | correlation (requestId : String) (correlationId : Option String)
  | unexpected (cause : Fault)
  | escaped (cause : Fault)
  | cancelled
  deriving DecidableEq

structure ResponseEnvelope where
  payloadType : String
  correlationId : Option String
  deriving DecidableEq

-- pydantic's `Envelope(**data)`, `_normalize_payload_type` over Python's character
-- tables, `int` of a text and `str` of a JSON value.
structure Codec where
  envelope : List (Key × Value) → Except String ResponseEnvelope
  normalizePayloadType : String → String
  intOfStr : String → Option Int
  str : Value → String

-- A `Retry-After` header that is absent, unreadable or in the past gives no delay.
inductive RetryAfter where
  | unusable
  | delay
  | raises (fault : Fault)

-- `decoded` is what `response.json()` or the lambda codec makes of the body, or the text
-- of the exception.
structure Response where
  status : Int
  text : String
  retryAfter : RetryAfter
  lambda : Bool
  decoded : Except String Value

-- The calls a step makes on the breaker after `can_attempt`, in order.
inductive Record where
  | success
  | failure
  deriving DecidableEq

-- How an attempt ends: `retry` is `_RetryableSend` or a kept transport error, each after
-- its delay; `unexpected` is whatever `except Exception` catches.
inductive Reply where
  | returned (envelope : ResponseEnvelope)
  | retry (error : SendError)
  | raised (error : SendError)
  | unexpected (fault : Fault)
  deriving DecidableEq

def responsePayloadKeys : List String := ["taskresponse","mcptoolresult","mcpresourcedata"]

section Handlers
variable (codec : Codec)

def toInt : Value → Except Fault Int
  | .bool value => .ok (if value then 1 else 0)
  | .int value => .ok value
  | .float value _ => .ok (if value < 0 then -(-value).floor else value.floor)
  | .nonFinite repr => .error (if repr = "NaN" then .valueError else .overflowError)
  | .str text => match codec.intOfStr text with
    | some value => .ok value
    | none => .error .valueError
  | _ => .error .typeError

-- `base_delay * 2 ** attempt` in floating point: the power no longer converts.
def backoffOverflows (attempt : Nat) : Bool := decide (1024 ≤ attempt)

def handleServerError (client : Client) (attempt : Nat) (response : Response) : List Record × Reply :=
  let error := SendError.connection ("HTTP server error " ++ toString response.status ++ " from " ++ client.baseUrl ++
    ". Server returned: " ++ String.ofList (response.text.toList.take 200))
  if attempt < client.maxRetries - 1 then
    if backoffOverflows attempt then ([],.unexpected .overflowError) else ([],.retry error)
  else ([.failure],.raised error)

def handleRateLimited (client : Client) (attempt : Nat) (response : Response) : List Record × Reply :=
  let serverResponse := "Server response: " ++ String.ofList (response.text.toList.take 200)
  if client.maxRetries - 1 ≤ attempt then
    ([.failure],.raised (.connection ("HTTP rate limit error 429 from " ++ client.baseUrl ++ " after " ++
      toString client.maxRetries ++ " attempts. " ++ serverResponse)))
  else
    let again := Reply.retry (.connection ("HTTP rate limit error 429 from " ++ client.baseUrl ++ ". " ++ serverResponse))
    match response.retryAfter with
    | .raises fault => ([],.unexpected fault)
    | .delay => ([],again)
    | .unusable => if backoffOverflows attempt then ([],.unexpected .overflowError) else ([],again)

def handleClientError (client : Client) (response : Response) : List Record × Reply :=
  ([.failure],.raised (.connection ("HTTP client error " ++ toString response.status ++ " from " ++ client.baseUrl ++
    ". This indicates a problem with the request. Server response: " ++ String.ofList (response.text.toList.take 200))))

def correlationBinds (envelopeId : String) (response : ResponseEnvelope) : Bool :=
  !responsePayloadKeys.contains (codec.normalizePayloadType response.payloadType) ||
    decide (response.correlationId = some envelopeId)

-- `remote_rpc_error_from_json` as far as the retry decision reads it: whether the error
-- is recoverable, and the delay it asks for.
def recoveryHints (data : List (Key × Value)) : Except Fault (Bool × Option Int) :=
  let recoverable := match lookupItem "recoverable" data with
    | some (.bool true) => true
    | _ => false
  match lookupItem "retry_after_ms" data with
  | none | some .none => .ok (recoverable,none)
  | some retry => (toInt codec retry).map (fun delay => (recoverable,some delay))

def jsonrpcError (client : Client) (attempt : Nat) (error : List (Key × Value)) : Reply :=
  let data := match lookupItem "data" error with
    | some (.dict data) => data
    | _ => []
  match toInt codec ((lookupItem "code" error).getD (.int (-32603))) with
  | .error fault => .unexpected fault
  | .ok wireCode =>
    let message := ((lookupItem "message" error).map codec.str).getD "Unknown error"
    match recoveryHints codec data with
    | .error fault => .unexpected fault
    | .ok (true,some retryAfterMs) =>
      if attempt < client.maxRetries - 1 then
        if 2 ^ 1024 - 2 ^ 970 ≤ retryAfterMs.natAbs then .unexpected .overflowError else .retry (.remote wireCode message)
      else .raised (.remote wireCode message)
    | .ok _ => .raised (.remote wireCode message)

-- The server answered: the breaker hears of a success before the error is read.
def handleJsonrpcError (client : Client) (attempt : Nat) (json : Value) : List Record × Reply :=
  match json with
  | .dict items =>
    match lookupItem "error" items with
    | some (.dict error) => ([.success],jsonrpcError codec client attempt error)
    | _ => ([.success],.unexpected .attributeError)
  | _ => ([.success],.unexpected .typeError)

def handleSuccessResponse (client : Client) (attempt : Nat) (envelopeId : String) (response : Response) :
    List Record × Reply :=
  match response.decoded with
  | .error text => ([],.raised (.remote (-32700) ("Invalid response: " ++ text)))
  | .ok json =>
    match json.contains "error" with
    | none => ([],.unexpected .typeError)
    | some true => handleJsonrpcError codec client attempt json
    | some false =>
      match json.get "result" with
      | none => ([],.unexpected .attributeError)
      | some result =>
        match (result.getD (.dict [])).get "envelope" with
        | none => ([],.unexpected .attributeError)
        | some found =>
          let envelopeData := found.getD .none
          if envelopeData.truthy = false then ([],.raised (.remote (-32603) "Missing envelope in response"))
          else match envelopeData with
            | .dict items =>
              match codec.envelope items with
              | .error text => ([],.unexpected (.other text))
              | .ok envelope =>
                if correlationBinds codec envelopeId envelope then ([.success],.returned envelope)
                else ([],.raised (.correlation envelopeId envelope.correlationId))
            | _ => ([],.unexpected .typeError)

def handleSendResponse (client : Client) (attempt : Nat) (envelopeId : String) (response : Response) : List Record × Reply :=
  if 500 ≤ response.status then handleServerError client attempt response
  else if response.status = 429 then handleRateLimited client attempt response
  else if 400 ≤ response.status then handleClientError client response
  else handleSuccessResponse codec client attempt envelopeId response

-- Here an exception has left the `try` behind: nothing catches the overflow.
def handleSendTransportException (client : Client) (attempt : Nat) (isTimeout : Bool) (text : String) : List Record × Reply :=
  let error := if isTimeout then SendError.timeout ("Request timeout after " ++ client.timeout ++ "s")
    else .connection ("Connection error to " ++ client.baseUrl ++ ": " ++ text ++ ". Verify the agent is running and accessible.")
  if attempt < client.maxRetries - 1 then
    if backoffOverflows attempt then ([],.raised (.escaped .overflowError)) else ([],.retry error)
  else ([.failure],.raised error)

-- The last `except` of the retry loop.
def exceptException (outcome : List Record × Reply) : List Record × Reply :=
  match outcome with
  | (records,.unexpected fault) => (records ++ [.failure],.raised (.unexpected fault))
  | _ => outcome

end Handlers

inductive Transport where
  | disconnected
  | http
  | websocket
  deriving DecidableEq

-- One call of `send`; the envelope is known by its id.
structure Send where
  client : Client
  transport : Transport
  envelopeId : Option String

-- Bookkeeping of the model: what became of the permission `can_attempt` gave this send.
inductive Permit where
  | unasked
  | held
  | matched
  deriving DecidableEq

-- A send between two of its awaits: the HTTP post, the prefetch after a 401, the lambda
-- codec's thread, the delay before the next attempt, and the WebSocket transport. The
-- ack loop of that transport records failures of its own on the same breaker.
inductive Task where
  | start (send : Send)
  | posting (send : Send) (envelopeId : String) (attempt : Nat) (permit : Permit)
  | challenged (send : Send) (envelopeId : String) (attempt : Nat) (response : Response) (permit : Permit)
  | decoding (send : Send) (envelopeId : String) (attempt : Nat) (response : Response) (permit : Permit)
  | sleeping (send : Send) (envelopeId : String) (attempt : Nat) (error : SendError) (permit : Permit)
  | receiving (send : Send) (permit : Permit)
  | finished (result : Except SendError ResponseEnvelope) (permit : Permit)
  | ackExpiry
  | expired

-- How the WebSocket transport's `send_and_receive` ends.
inductive SocketOutcome where
  | envelope (envelope : ResponseEnvelope)
  | remoteError (code : Int) (message : String)
  | timeout
  | raised (fault : Fault)

-- What a step meets, and the clock it reads: the request written or not, a response,
-- a connect or timeout exception, any other exception, the end of a wait, a cancellation.
inductive Input where
  | started (now : Int) (unwritable : Option Fault)
  | response (now : Int) (response : Response)
  | transportError (now : Int) (isTimeout : Bool) (text : String)
  | raised (now : Int) (fault : Fault)
  | resumed (now : Int)
  | socket (outcome : SocketOutcome)
  | cancelled

abbrev Outcome := CircuitBreaker × Task × List Empty

def record (now : Int) (b : CircuitBreaker) : Record → CircuitBreaker
  | .success => b.recordSuccess
  | .failure => b.recordFailure now

def applyRecords (client : Client) (now : Int) (b : CircuitBreaker) (records : List Record) : CircuitBreaker :=
  if client.circuitBreaker then records.foldl (record now) b else b

def Permit.after (permit : Permit) (records : List Record) : Permit :=
  if permit = .held ∧ records ≠ [] then .matched else permit

-- The head of the retry loop.
def nextAttempt (send : Send) (envelopeId : String) (attempt : Nat) (last : Option SendError) (permit : Permit) : Task :=
  if attempt < send.client.maxRetries then .posting send envelopeId attempt permit
  else .finished (.error (last.getD (.connection ("Max retries (" ++ toString send.client.maxRetries ++ ") exceeded for " ++
    send.client.baseUrl ++ ". Verify the agent is running and accessible.")))) permit

-- The end of an attempt, past all its `except` clauses.
def endAttempt (b : CircuitBreaker) (send : Send) (envelopeId : String) (attempt : Nat) (permit : Permit) (now : Int)
    (outcome : List Record × Reply) : Outcome :=
  let (records,reply) := exceptException outcome
  let kept := permit.after records
  (applyRecords send.client now b records,(match reply with
    | .returned envelope => .finished (.ok envelope) kept
    | .raised error => .finished (.error error) kept
    | .retry error => .sleeping send envelopeId attempt error kept
    | .unexpected fault => .finished (.error (.unexpected fault)) kept),[])

-- `can_attempt`, where there is a breaker.
def permitFor (b : CircuitBreaker) (client : Client) (now : Int) : CircuitBreaker × Option Permit :=
  if client.circuitBreaker then
    match b.canAttempt now with
    | (next,true) => (next,some .held)
    | (next,false) => (next,none)
  else (b,some .unasked)

def start (b : CircuitBreaker) (send : Send) (now : Int) (unwritable : Option Fault) : Outcome :=
  match send.envelopeId,send.transport with
  | none,_ => (b,.finished (.error (.value "envelope cannot be None")) .unasked,[])
  | some _,.disconnected =>
    (b,.finished (.error (.connection "Client not connected. Use 'async with' context.")) .unasked,[])
  | some envelopeId,transport =>
    match permitFor b send.client now with
    | (next,none) => (next,.finished (.error (.circuitOpen next.consecutiveFailures)) .unasked,[])
    | (next,some permit) =>
      if transport = .websocket then (next,.receiving send permit,[])
      else match unwritable with
        | some fault => (next,.finished (.error (.escaped fault)) permit,[])
        | none => (next,nextAttempt send envelopeId 0 none permit,[])

def socketResult (client : Client) : SocketOutcome → Except SendError ResponseEnvelope
  | .envelope envelope => .ok envelope
  | .remoteError code message => .error (.remote code message)
  | .timeout => .error (.timeout ("WebSocket receive timed out after " ++ client.timeout ++ "s"))
  | .raised fault => .error (.escaped fault)

def cancel (b : CircuitBreaker) (permit : Permit) : Outcome := (b,.finished (.error .cancelled) permit,[])

section Sends
variable (codec : Codec)

def advance (b : CircuitBreaker) (task : Task) (input : Input) : Option Outcome :=
  match task,input with
  | .start send,.started now unwritable => some (start b send now unwritable)
  | .posting send envelopeId attempt permit,.response now response =>
    if response.status = 401 then some (b,.challenged send envelopeId attempt response permit,[])
    else if response.status < 400 ∧ response.lambda then some (b,.decoding send envelopeId attempt response permit,[])
    else some (endAttempt b send envelopeId attempt permit now (handleSendResponse codec send.client attempt envelopeId response))
  | .posting send envelopeId attempt permit,.transportError now isTimeout text =>
    some (endAttempt b send envelopeId attempt permit now (handleSendTransportException send.client attempt isTimeout text))
  | .posting send envelopeId attempt permit,.raised now fault =>
    some (endAttempt b send envelopeId attempt permit now ([],.unexpected fault))
  | .challenged send envelopeId attempt response permit,.resumed now =>
    some (endAttempt b send envelopeId attempt permit now (handleSendResponse codec send.client attempt envelopeId response))
  | .decoding send envelopeId attempt response permit,.resumed now =>
    some (endAttempt b send envelopeId attempt permit now (handleSendResponse codec send.client attempt envelopeId response))
  | .sleeping send envelopeId attempt error permit,.resumed _ =>
    some (b,nextAttempt send envelopeId (attempt + 1) (some error) permit,[])
  | .receiving send permit,.socket outcome => some (b,.finished (socketResult send.client outcome) permit,[])
  | .posting _ _ _ permit,.cancelled | .challenged _ _ _ _ permit,.cancelled | .decoding _ _ _ _ permit,.cancelled
  | .sleeping _ _ _ _ permit,.cancelled | .receiving _ permit,.cancelled => some (cancel b permit)
  | .ackExpiry,.resumed now => some (b.recordFailure now,.expired,[])
  | _,_ => none

def Task.arrives : Task → Bool
  | .start _ | .ackExpiry => true
  | _ => false

def program : Program CircuitBreaker Task Input Empty where
  arrives := Task.arrives
  advance := advance codec

abbrev State := Machine CircuitBreaker Task Empty

def Task.inFlight : Task → Bool
  | .start _ | .finished _ _ | .ackExpiry | .expired => false
  | _ => true

def Task.holding : Task → Bool
  | .posting _ _ _ permit | .challenged _ _ _ _ permit | .decoding _ _ _ _ permit | .sleeping _ _ _ _ permit
  | .receiving _ permit => permit = .held
  | _ => false

-- A body below status 400 whose outcome the breaker never hears of: no JSON, no
-- envelope, or the envelope of another request.
def silentBody (envelopeId : String) (decoded : Except String Value) : Bool :=
  match decoded with
  | .error _ => true
  | .ok json =>
    match json.contains "error",json.get "result" with
    | some false,some result =>
      match (result.getD (.dict [])).get "envelope" with
      | none => false
      | some found =>
        match found.getD .none with
        | .dict items => items.isEmpty || (match codec.envelope items with
          | .error _ => false
          | .ok envelope => !correlationBinds codec envelopeId envelope)
        | envelopeData => !envelopeData.truthy
    | _,_ => false

-- The steps that end an admitted send, one that has recorded nothing yet, without a record.
def silent (b : CircuitBreaker) (task : Task) (input : Input) : Bool :=
  match task,input with
  | .start send,.started now unwritable =>
    send.envelopeId.isSome && send.transport = .http && send.client.circuitBreaker && (b.canAttempt now).2 &&
      (unwritable.isSome || send.client.maxRetries ≤ 0)
  | .posting _ envelopeId _ .held,.response _ response =>
    response.status < 400 && !response.lambda && silentBody codec envelopeId response.decoded
  | .challenged _ envelopeId _ response .held,.resumed _ | .decoding _ envelopeId _ response .held,.resumed _ =>
    response.status < 400 && silentBody codec envelopeId response.decoded
  | .posting send _ attempt .held,.transportError _ _ _ => attempt < send.client.maxRetries - 1 && backoffOverflows attempt
  | .receiving _ .held,_ => true
  | task,.cancelled => task.holding
  | _,_ => false

theorem records_leave (now : Int) (b : CircuitBreaker) (records : List Record) (some : records ≠ []) :
    (records.foldl (record now) b).state ≠ .halfOpen := by
  obtain ⟨earlier,last,rfl⟩ := (List.eq_nil_or_concat records).resolve_left some
  simp only [List.concat_eq_append,List.foldl_append,List.foldl_cons,List.foldl_nil]
  cases last with
  | success => exact recordSuccess_left _
  | failure => exact recordFailure_left _ now

-- An attempt makes the breaker hear of it, or goes on to a next one that there is.
def Heard (client : Client) (attempt : Nat) (outcome : List Record × Reply) : Prop :=
  (exceptException outcome).1 ≠ [] ∨ ((∃ error, outcome.2 = .retry error) ∧ attempt < client.maxRetries - 1)

theorem heard_of_records {outcome : List Record × Reply} (some : outcome.1 ≠ []) : Heard client attempt outcome := by
  left
  unfold exceptException
  split
  · simp
  · exact some

theorem heard_unexpected (records : List Record) (fault : Fault) : Heard client attempt (records,.unexpected fault) := by
  left
  simp [exceptException]

theorem handleServerError_heard (client : Client) (attempt : Nat) (response : Response) :
    Heard client attempt (handleServerError client attempt response) := by
  simp only [handleServerError]
  split
  · rename_i again
    split
    · exact heard_unexpected _ _
    · exact .inr ⟨⟨_,rfl⟩,again⟩
  · exact heard_of_records (by simp)

theorem handleRateLimited_heard (client : Client) (attempt : Nat) (response : Response) :
    Heard client attempt (handleRateLimited client attempt response) := by
  simp only [handleRateLimited]
  split
  · exact heard_of_records (by simp)
  · rename_i again
    split
    · exact heard_unexpected _ _
    · exact .inr ⟨⟨_,rfl⟩,by omega⟩
    · split
      · exact heard_unexpected _ _
      · exact .inr ⟨⟨_,rfl⟩,by omega⟩

theorem handleJsonrpcError_heard (client : Client) (attempt : Nat) (json : Value) :
    Heard client attempt (handleJsonrpcError codec client attempt json) := by
  unfold handleJsonrpcError
  split
  · split <;> exact heard_of_records (by simp)
  · exact heard_of_records (by simp)

theorem handleSuccessResponse_heard (client : Client) (attempt : Nat) (envelopeId : String) (response : Response)
    (loud : silentBody codec envelopeId response.decoded = false) :
    Heard client attempt (handleSuccessResponse codec client attempt envelopeId response) := by
  simp only [handleSuccessResponse]
  unfold silentBody at loud
  split
  · rename_i known
    simp [known] at loud
  · rename_i json known
    simp only [known] at loud
    split
    · exact heard_unexpected _ _
    · exact handleJsonrpcError_heard codec client attempt json
    · rename_i plain
      split
      · exact heard_unexpected _ _
      · rename_i result member
        simp only [plain,member] at loud
        split
        · exact heard_unexpected _ _
        · rename_i found inner
          simp only [inner] at loud
          split
          · rename_i empty
            split at loud
            · rename_i items shape
              simp [shape,Value.truthy] at empty
              simp [empty] at loud
            · simp [empty] at loud
          · split
            · rename_i items shape
              simp only [shape,Bool.or_eq_false_iff] at loud
              split
              · exact heard_unexpected _ _
              · rename_i envelope valid
                simp only [valid] at loud
                have binds : correlationBinds codec envelopeId envelope = true := by simpa using loud.2
                simp only [binds,if_true]
                exact heard_of_records (by simp)
            · exact heard_unexpected _ _

theorem handleSendResponse_heard (client : Client) (attempt : Nat) (envelopeId : String) (response : Response)
    (loud : response.status < 400 → silentBody codec envelopeId response.decoded = false) :
    Heard client attempt (handleSendResponse codec client attempt envelopeId response) := by
  unfold handleSendResponse
  split
  · exact handleServerError_heard client attempt response
  · split
    · exact handleRateLimited_heard client attempt response
    · split
      · exact heard_of_records (by simp [handleClientError])
      · exact handleSuccessResponse_heard codec client attempt envelopeId response (loud (by omega))

theorem handleSendTransportException_heard (client : Client) (attempt : Nat) (isTimeout : Bool) (text : String)
    (fits : (decide (attempt < client.maxRetries - 1) && backoffOverflows attempt) = false) :
    Heard client attempt (handleSendTransportException client attempt isTimeout text) := by
  simp only [handleSendTransportException]
  split
  · rename_i again
    have fits : backoffOverflows attempt = false := by simpa [again] using fits
    simp only [fits]
    exact .inr ⟨⟨_,rfl⟩,again⟩
  · exact heard_of_records (by simp)

def Task.permit : Task → Permit
  | .posting _ _ _ permit | .challenged _ _ _ _ permit | .decoding _ _ _ _ permit | .sleeping _ _ _ _ permit
  | .receiving _ permit | .finished _ permit => permit
  | .start _ | .ackExpiry | .expired => .unasked

def Task.guarded : Task → Bool
  | .start send | .posting send _ _ _ | .challenged send _ _ _ _ | .decoding send _ _ _ _ | .sleeping send _ _ _ _
  | .receiving send _ => send.client.circuitBreaker
  | .finished _ _ | .ackExpiry | .expired => true

-- Only a send with a breaker holds a permission of it, and no finished one does.
-- A delay is followed by a further attempt.
structure Kept (task : Task) : Prop where
  guarded : task.permit = .held → task.guarded = true
  matched : task.permit = .held → task.holding = true
  again : ∀ send envelopeId attempt error, task = .sleeping send envelopeId attempt error .held →
    (attempt : Int) < send.client.maxRetries - 1

-- A step leaves the breaker alone and its permission held, takes the breaker out of
-- HALF_OPEN, or holds the permission afterwards.
def Sound (b : CircuitBreaker) (task : Task) (outcome : Outcome) : Prop :=
  Kept outcome.2.1 ∧
    ((outcome.1 = b ∧ (task.holding = true → outcome.2.1.holding = true)) ∨ outcome.1.state ≠ .halfOpen ∨
      outcome.2.1.holding = true)

theorem after_held {permit : Permit} {records : List Record} (held : permit.after records = .held) :
    permit = .held ∧ records = [] := by
  unfold Permit.after at held
  split at held
  · cases held
  · rename_i open'
    exact ⟨held,by_contra (fun some => open' ⟨held,some⟩)⟩

theorem exceptException_retry {outcome : List Record × Reply} (again : outcome.2 = .retry error) :
    exceptException outcome = outcome := by
  unfold exceptException
  split
  · simp at again
  · rfl

theorem holding_held {task : Task} (holding : task.holding = true) : task.permit = .held := by
  cases task <;> simp_all [Task.holding,Task.permit]

theorem endAttempt_sound (b : CircuitBreaker) (send : Send) (envelopeId : String) (attempt : Nat) (permit : Permit)
    (now : Int) (outcome : List Record × Reply) (task : Task) (own : task.permit = permit)
    (breaker : task.guarded = send.client.circuitBreaker) (kept : Kept task) (heard : permit = .held → Heard send.client attempt outcome) :
    Sound b task (endAttempt b send envelopeId attempt permit now outcome) := by
  have guarded : permit = .held → send.client.circuitBreaker = true := by
    intro held
    rw [← breaker]
    exact kept.guarded (own.trans held)
  -- Whoever recorded nothing was heard by going on to the next attempt.
  have going : permit = .held → (exceptException outcome).1 = [] →
      (∃ error, outcome.2 = .retry error) ∧ attempt < send.client.maxRetries - 1 :=
    fun held none => (heard held).resolve_left (fun some => some none)
  refine ⟨⟨?_,?_,?_⟩,?_⟩
  · intro held
    simp only [endAttempt] at held ⊢
    split at held <;> first | rfl | exact guarded (after_held held).1
  · intro held
    simp only [endAttempt] at held ⊢
    have before : permit = .held ∧ (exceptException outcome).1 = [] := by split at held <;> exact after_held held
    obtain ⟨⟨error,again⟩,_⟩ := going before.1 before.2
    simp only [exceptException_retry again,again] at held ⊢
    simpa [Task.holding,Task.permit] using held
  · intro other _ later _ asleep
    simp only [endAttempt] at asleep
    split at asleep
    · cases asleep
    · cases asleep
    · obtain ⟨rfl,_,rfl,_,held⟩ := Task.sleeping.inj asleep
      obtain ⟨held,none⟩ := after_held held
      exact (going held none).2
    · cases asleep
  · by_cases enabled : send.client.circuitBreaker = true
    · by_cases none : (exceptException outcome).1 = []
      · left
        refine ⟨by simp [endAttempt,applyRecords,none],?_⟩
        intro holding
        have held : permit = .held := own.symm.trans (holding_held holding)
        obtain ⟨⟨error,again⟩,_⟩ := going held none
        rw [exceptException_retry again] at none
        simp [endAttempt,exceptException_retry again,again,Task.holding,Permit.after,held,none]
      · right
        left
        simp only [endAttempt,applyRecords,enabled,if_true]
        exact records_leave now b _ none
    · left
      refine ⟨by simp [endAttempt,applyRecords,enabled],?_⟩
      intro holding
      exact absurd (guarded (own.symm.trans (holding_held holding))) enabled

theorem permitFor_cases (b : CircuitBreaker) (client : Client) (now : Int) :
    (permitFor b client now = (b,some .unasked) ∧ client.circuitBreaker = false) ∨
    (∃ next, permitFor b client now = (next,some .held) ∧ client.circuitBreaker = true ∧ (b.canAttempt now).2 = true) ∨
    permitFor b client now = (b,none) := by
  unfold permitFor
  cases enabled : client.circuitBreaker with
  | false => simp
  | true =>
    rcases canAttempt_cases b now with ⟨_,result⟩ | ⟨_,_,result⟩ | ⟨_,result⟩ | ⟨_,_,result⟩ | ⟨_,_,result⟩ <;> simp [result]

theorem nextAttempt_kept (send : Send) (envelopeId : String) (attempt : Nat) (last : Option SendError) (permit : Permit)
    (guarded : permit = .held → send.client.circuitBreaker = true)
    (again : permit = .held → (attempt : Int) < send.client.maxRetries) :
    Kept (nextAttempt send envelopeId attempt last permit) ∧
      (permit = .held → (nextAttempt send envelopeId attempt last permit).holding = true) := by
  unfold nextAttempt
  split
  · have holding : permit = .held → (Task.posting send envelopeId attempt permit).holding = true := by
      intro held
      simpa [Task.holding] using held
    exact ⟨⟨guarded,holding,fun _ _ _ _ asleep => (by cases asleep)⟩,holding⟩
  · rename_i spent
    exact ⟨⟨fun _ => rfl,fun held => absurd (again held) spent,fun _ _ _ _ asleep => (by cases asleep)⟩,
      fun held => absurd (again held) spent⟩

theorem kept_unheld {task : Task} (unheld : task.permit ≠ .held) : Kept task where
  guarded held := absurd held unheld
  matched held := absurd held unheld
  again send envelopeId attempt error asleep := by
    rw [asleep] at unheld
    exact absurd rfl unheld

theorem start_sound (b : CircuitBreaker) (send : Send) (now : Int) (unwritable : Option Fault)
    (loud : silent codec b (.start send) (.started now unwritable) = false) :
    Sound b (.start send) (start b send now unwritable) := by
  have untouched : ∀ task, Kept task → Sound b (.start send) (b,task,[]) :=
    fun task kept => ⟨kept,.inl ⟨rfl,fun holding => (by cases holding)⟩⟩
  unfold start
  split
  · exact untouched _ (kept_unheld (by simp [Task.permit]))
  · exact untouched _ (kept_unheld (by simp [Task.permit]))
  · rename_i envelopeId known connected
    rcases permitFor_cases b send.client now with ⟨result,_⟩ | ⟨next,result,enabled,granted⟩ | result
    · simp only [result]
      split
      · exact untouched _ (kept_unheld (by simp [Task.permit]))
      · split
        · exact untouched _ (kept_unheld (by simp [Task.permit]))
        · exact untouched _ (nextAttempt_kept send envelopeId 0 none .unasked (fun held => (by cases held))
            (fun held => (by cases held))).1
    · simp only [result]
      split
      · have holding : (Task.receiving send .held).holding = true := by simp [Task.holding]
        exact ⟨⟨fun _ => enabled,fun _ => holding,fun _ _ _ _ asleep => (by cases asleep)⟩,.inr (.inr holding)⟩
      · rename_i plain
        have http : send.transport = .http := by
          cases transport : send.transport with
          | disconnected => exact absurd transport connected
          | http => rfl
          | websocket => exact absurd transport plain
        simp only [silent,known,http,enabled,granted,Option.isSome_some,decide_true,Bool.true_and,
          Bool.or_eq_false_iff] at loud
        obtain ⟨written,retries⟩ := loud
        cases unwritable with
        | some fault => cases written
        | none =>
          have first : ((0 : Nat) : Int) < send.client.maxRetries := by simpa using retries
          obtain ⟨kept,holds⟩ := nextAttempt_kept send envelopeId 0 none .held (fun _ => enabled) (fun _ => first)
          exact ⟨kept,.inr (.inr (holds rfl))⟩
    · simp only [result]
      exact untouched _ (kept_unheld (by simp [Task.permit]))

theorem advance_sound (b : CircuitBreaker) (task : Task) (input : Input) (outcome : Outcome) (kept : Kept task)
    (loud : silent codec b task input = false) (advanced : advance codec b task input = some outcome) :
    Sound b task outcome := by
  -- A cancelled send, or one over the WebSocket, that is let end holds nothing.
  have ended : ∀ result permit, task.permit = permit → (permit = .held → False) →
      Sound b task (b,.finished result permit,[]) := by
    intro result permit own unheld
    refine ⟨kept_unheld (fun held => unheld held),.inl ⟨rfl,?_⟩⟩
    intro holding
    exact (unheld (own.symm.trans (holding_held holding))).elim
  unfold advance at advanced
  split at advanced
  · rename_i send now unwritable
    cases advanced
    exact start_sound codec b send now unwritable loud
  · rename_i send envelopeId attempt permit now response
    split at advanced
    · cases advanced
      exact ⟨⟨kept.guarded,kept.matched,fun _ _ _ _ asleep => (by cases asleep)⟩,.inl ⟨rfl,fun holding => holding⟩⟩
    · split at advanced
      · cases advanced
        exact ⟨⟨kept.guarded,kept.matched,fun _ _ _ _ asleep => (by cases asleep)⟩,.inl ⟨rfl,fun holding => holding⟩⟩
      · rename_i plain
        cases advanced
        refine endAttempt_sound b send envelopeId attempt permit now _ _ rfl rfl kept ?_
        rintro rfl
        refine handleSendResponse_heard codec send.client attempt envelopeId response ?_
        intro low
        have direct : response.lambda = false := by simpa [low] using plain
        simpa [silent,low,direct] using loud
  · rename_i send envelopeId attempt permit now isTimeout text
    cases advanced
    refine endAttempt_sound b send envelopeId attempt permit now _ _ rfl rfl kept ?_
    rintro rfl
    exact handleSendTransportException_heard send.client attempt isTimeout text loud
  · rename_i send envelopeId attempt permit now fault
    cases advanced
    exact endAttempt_sound b send envelopeId attempt permit now _ _ rfl rfl kept (fun _ => heard_unexpected _ _)
  · rename_i send envelopeId attempt response permit now
    cases advanced
    refine endAttempt_sound b send envelopeId attempt permit now _ _ rfl rfl kept ?_
    rintro rfl
    refine handleSendResponse_heard codec send.client attempt envelopeId response ?_
    intro low
    simpa [silent,low] using loud
  · rename_i send envelopeId attempt response permit now
    cases advanced
    refine endAttempt_sound b send envelopeId attempt permit now _ _ rfl rfl kept ?_
    rintro rfl
    refine handleSendResponse_heard codec send.client attempt envelopeId response ?_
    intro low
    simpa [silent,low] using loud
  · rename_i send envelopeId attempt error permit now
    cases advanced
    obtain ⟨next,holds⟩ := nextAttempt_kept send envelopeId (attempt + 1) (some error) permit kept.guarded (by
      rintro rfl
      have again := kept.again send envelopeId attempt error rfl
      push_cast
      omega)
    exact ⟨next,.inl ⟨rfl,fun holding => holds (holding_held holding)⟩⟩
  · rename_i send permit outcome
    cases advanced
    refine ended _ permit rfl ?_
    rintro rfl
    cases loud
  · cases advanced
    exact ended _ _ rfl (fun held => by simp [silent,Task.holding,held] at loud)
  · cases advanced
    exact ended _ _ rfl (fun held => by simp [silent,Task.holding,held] at loud)
  · cases advanced
    exact ended _ _ rfl (fun held => by simp [silent,Task.holding,held] at loud)
  · cases advanced
    exact ended _ _ rfl (fun held => by simp [silent,Task.holding,held] at loud)
  · cases advanced
    exact ended _ _ rfl (fun held => by simp [silent,held] at loud)
  · rename_i now
    cases advanced
    exact ⟨kept_unheld (by simp [Task.permit]),.inr (.inl (recordFailure_left b now))⟩
  · cases advanced

-- A breaker that tests the service does so for a send in flight.
structure Tested (m : State) : Prop where
  kept : ∀ id task, m.tasks.get id = some task → Kept task
  tester : m.store.state = .halfOpen → ∃ id task, m.tasks.get id = some task ∧ task.holding = true

def answered (m : State) : Move Task Input → Bool
  | .arrive _ _ => true
  | .proceed id input => (m.tasks.get id).all (fun task => !silent codec m.store task input)

theorem arrive_tested (m : State) (id : Nat) (task : Task) (arrives : task.arrives = true) (free : m.tasks.get id = none)
    (tested : Tested m) : Tested {m with tasks := m.tasks.set id task} := by
  constructor
  · intro other waiting found
    simp only [Dict.get_set] at found
    split at found
    · cases found
      refine kept_unheld ?_
      intro held
      cases task <;> simp [Task.arrives,Task.permit] at arrives held
    · exact tested.kept other waiting found
  · intro half
    obtain ⟨tester,waiting,found,holding⟩ := tested.tester half
    refine ⟨tester,waiting,?_,holding⟩
    rw [Dict.get_set_other _ _ (fun same => by simp [same,found] at free)]
    exact found

theorem proceed_tested (m : State) (id : Nat) (task : Task) (input : Input) (outcome : Outcome)
    (known : m.tasks.get id = some task) (loud : silent codec m.store task input = false)
    (advanced : advance codec m.store task input = some outcome) (tested : Tested m) :
    Tested ⟨outcome.1,m.tasks.set id outcome.2.1,m.log ++ outcome.2.2⟩ := by
  obtain ⟨kept,moved⟩ := advance_sound codec m.store task input outcome (tested.kept id task known) loud advanced
  constructor
  · intro other waiting found
    simp only [Dict.get_set] at found
    split at found
    · cases found
      exact kept
    · exact tested.kept other waiting found
  · intro half
    rcases moved with ⟨same,holds⟩ | left | holding
    · simp only [same] at half
      obtain ⟨tester,waiting,found,holding⟩ := tested.tester half
      by_cases own : id = tester
      · subst own
        rw [known] at found
        cases found
        exact ⟨id,_,Dict.get_set_self _ _ _,holds holding⟩
      · exact ⟨tester,waiting,(Dict.get_set_other _ _ own).trans found,holding⟩
    · exact absurd half left
    · exact ⟨id,_,Dict.get_set_self _ _ _,holding⟩

theorem run_tested (m final : State) (moves : List (Move Task Input))
    (run : Runs (program codec).next (fun m move => answered codec m move = true) m moves final) (tested : Tested m) :
    Tested final := by
  refine run.invariant Tested ?_ tested
  intro m move next permitted taken tested
  cases move with
  | arrive id task =>
    obtain ⟨arrives,free,rfl⟩ := (program codec).next_arrive m next id task taken
    exact arrive_tested m id task arrives free tested
  | proceed id input =>
    obtain ⟨task,store,task',events,known,advanced,rfl⟩ := (program codec).next_proceed m next id input taken
    have loud : silent codec m.store task input = false := by simpa [answered,known] using permitted
    exact proceed_tested codec m id task input (store,task',events) known loud advanced tested

theorem handleSuccessResponse_silent (client : Client) (attempt : Nat) (envelopeId : String) (response : Response)
    (quiet : silentBody codec envelopeId response.decoded = true) :
    ∃ error, handleSuccessResponse codec client attempt envelopeId response = ([],.raised error) := by
  unfold silentBody at quiet
  unfold handleSuccessResponse
  cases known : response.decoded with
  | error text => exact ⟨_,rfl⟩
  | ok json =>
    simp only [known] at quiet
    split at quiet
    · rename_i result plain member
      simp only [plain,member]
      split at quiet
      · cases quiet
      · rename_i found inner
        split at quiet
        · rename_i items shape
          simp only [shape]
          cases items with
          | nil => exact ⟨_,by simp [Value.truthy]; rfl⟩
          | cons item rest =>
            simp only [List.isEmpty_cons,Bool.false_or] at quiet
            split at quiet
            · cases quiet
            · rename_i envelope _
              have loose : correlationBinds codec envelopeId envelope = false := by simpa using quiet
              exact ⟨_,by simp [Value.truthy,loose]; rfl⟩
        · have empty : (found.getD .none).truthy = false := by simpa using quiet
          exact ⟨_,by simp [empty]; rfl⟩
    · cases quiet

theorem endAttempt_raised (b : CircuitBreaker) (send : Send) (envelopeId : String) (attempt : Nat) (now : Int)
    (error : SendError) :
    (endAttempt b send envelopeId attempt .held now ([],.raised error)).2.1 = .finished (.error error) .held := by
  simp [endAttempt,exceptException,Permit.after]

-- A silent step does end a send whose permission nothing has matched.
theorem silent_unmatched (b : CircuitBreaker) (task : Task) (input : Input) (outcome : Outcome)
    (quiet : silent codec b task input = true) (advanced : advance codec b task input = some outcome) :
    ∃ result, outcome.2.1 = .finished result .held := by
  have answer : ∀ send envelopeId attempt now response, response.status < 400 →
      silentBody codec envelopeId response.decoded = true →
      ∃ result, (endAttempt b send envelopeId attempt .held now
        (handleSendResponse codec send.client attempt envelopeId response)).2.1 = .finished result .held := by
    intro send envelopeId attempt now response low body
    obtain ⟨error,raised⟩ := handleSuccessResponse_silent codec send.client attempt envelopeId response body
    have handled : handleSendResponse codec send.client attempt envelopeId response = ([],.raised error) := by
      unfold handleSendResponse
      rw [if_neg (by omega),if_neg (by omega),if_neg (by omega)]
      exact raised
    rw [handled]
    exact ⟨_,endAttempt_raised b send envelopeId attempt now error⟩
  unfold silent at quiet
  split at quiet
  · rename_i send now unwritable
    simp only [Bool.and_eq_true,decide_eq_true_eq,Bool.or_eq_true] at quiet
    obtain ⟨⟨⟨⟨known,http⟩,enabled⟩,granted⟩,hopeless⟩ := quiet
    obtain ⟨envelopeId,known⟩ := Option.isSome_iff_exists.mp known
    cases advanced
    rcases permitFor_cases b send.client now with ⟨_,disabled⟩ | ⟨next,result,_⟩ | result
    · simp [enabled] at disabled
    · cases unwritable with
      | some fault => exact ⟨_,by simp [start,known,http,result]; rfl⟩
      | none =>
        have none : send.client.maxRetries ≤ 0 := by simpa using hopeless
        exact ⟨_,by simp [start,known,http,result,nextAttempt,show ¬ (0 < send.client.maxRetries) by omega]; rfl⟩
    · simp [permitFor,enabled] at result
      split at result
      · simp at result
      · rename_i refused
        rw [refused] at granted
        cases granted
  · rename_i send envelopeId attempt now response
    simp only [Bool.and_eq_true,decide_eq_true_eq,Bool.not_eq_true'] at quiet
    obtain ⟨⟨low,direct⟩,body⟩ := quiet
    simp only [advance,direct] at advanced
    rw [if_neg (by omega),if_neg (by simp)] at advanced
    cases advanced
    exact answer send envelopeId attempt now response low body
  · rename_i send envelopeId attempt response now
    simp only [Bool.and_eq_true,decide_eq_true_eq] at quiet
    cases advanced
    exact answer send envelopeId attempt now response quiet.1 quiet.2
  · rename_i send envelopeId attempt response now
    simp only [Bool.and_eq_true,decide_eq_true_eq] at quiet
    cases advanced
    exact answer send envelopeId attempt now response quiet.1 quiet.2
  · rename_i send envelopeId attempt now isTimeout text
    simp only [Bool.and_eq_true,decide_eq_true_eq] at quiet
    cases advanced
    simp only [handleSendTransportException,quiet.1,quiet.2,if_true]
    exact ⟨_,endAttempt_raised b send envelopeId attempt now _⟩
  · rename_i send
    cases input with
    | socket result =>
      cases advanced
      exact ⟨_,rfl⟩
    | cancelled =>
      cases advanced
      exact ⟨_,rfl⟩
    | _ => cases advanced
  · cases task <;> simp only [Task.holding,decide_eq_true_eq,Bool.false_eq_true] at quiet <;> subst quiet <;>
      cases advanced <;> exact ⟨_,rfl⟩
  · cases quiet

theorem finished_stays (m final : State) (moves : List (Move Task Input)) (allowed : State → Move Task Input → Prop)
    (run : Runs (program codec).next allowed m moves final) (id : Nat) (result : Except SendError ResponseEnvelope)
    (permit : Permit) (ended : m.tasks.get id = some (.finished result permit)) :
    final.tasks.get id = some (.finished result permit) := by
  refine run.invariant (fun m => m.tasks.get id = some (.finished result permit)) ?_ ended
  intro m move next _ taken ended
  cases move with
  | arrive other task =>
    obtain ⟨_,free,rfl⟩ := (program codec).next_arrive m next other task taken
    exact (Dict.get_set_other _ _ (fun same => by simp [same,ended] at free)).trans ended
  | proceed other input =>
    obtain ⟨task,store,task',events,known,advanced,rfl⟩ := (program codec).next_proceed m next other input taken
    refine (Dict.get_set_other _ _ ?_).trans ended
    rintro rfl
    rw [ended] at known
    cases known
    cases advanced

-- Where every send that has ended recorded something, no step was silent.
theorem matched_answered (m final : State) (moves : List (Move Task Input))
    (run : Runs (program codec).next (fun _ _ => True) m moves final)
    (matched : ∀ id result permit, final.tasks.get id = some (.finished result permit) → permit ≠ .held) :
    Runs (program codec).next (fun m move => answered codec m move = true) m moves final := by
  induction run with
  | nil => exact .nil _
  | cons m middle final move rest permitted taken remaining ih =>
    refine .cons m middle final move rest ?_ taken (ih matched)
    cases move with
    | arrive id task => rfl
    | proceed id input =>
      obtain ⟨task,store,task',events,known,advanced,rfl⟩ := (program codec).next_proceed m middle id input taken
      by_contra refused
      have quiet : silent codec m.store task input = true := by simpa [answered,known] using refused
      obtain ⟨result,ended⟩ := silent_unmatched codec m.store task input (store,task',events) quiet advanced
      refine matched id result .held ?_ rfl
      refine finished_stays codec _ final rest _ remaining id result .held ?_
      rw [Dict.get_set_self]
      exact congrArg some ended

theorem init_tested (threshold timeout : Int) : Tested (Machine.init (.init threshold timeout)) where
  kept id task found := by cases found
  tester half := by cases half

-- Every permission given is matched by a record before its send ends exactly when no
-- step is silent, and then no state without a send in flight has the breaker half open
-- with its permit taken.
theorem breaker_never_sticks (threshold timeout : Int) (moves : List (Move Task Input)) (final : State)
    (run : Runs (program codec).next (fun _ _ => True) (Machine.init (.init threshold timeout)) moves final) :
    ((∀ id result permit, final.tasks.get id = some (.finished result permit) → permit ≠ .held) ↔
      Runs (program codec).next (fun m move => answered codec m move = true)
        (Machine.init (.init threshold timeout)) moves final) ∧
    (Runs (program codec).next (fun m move => answered codec m move = true)
        (Machine.init (.init threshold timeout)) moves final →
      (∀ id task, final.tasks.get id = some task → task.inFlight = false) →
      ¬ (final.store.state = .halfOpen ∧ final.store.halfOpenPermit = false)) := by
  refine ⟨⟨matched_answered codec _ final moves run,?_⟩,?_⟩
  · intro loud id result permit found held
    have tested := run_tested codec _ final moves loud (init_tested threshold timeout)
    have holding := (tested.kept id _ found).matched held
    cases holding
  · rintro loud idle ⟨half,_⟩
    have tested := run_tested codec _ final moves loud (init_tested threshold timeout)
    obtain ⟨id,task,found,holding⟩ := tested.tester half
    have quiet := idle id task found
    cases task <;> simp [Task.inFlight,Task.holding] at quiet holding

end Sends

-- A server that answers with an error and then recovers, and clients of one try.
def plainCodec : Codec where
  envelope items := match lookupItem "payload_type" items,lookupItem "correlation_id" items with
    | some (.str payloadType),some (.str correlationId) => .ok ⟨payloadType,some correlationId⟩
    | _,_ => .error "validation error"
  normalizePayloadType text := String.ofList ((text.toList.map Char.toLower).filter Char.isAlphanum)
  intOfStr := String.toInt?
  str
    | .str text => text
    | _ => ""

def singleTry : Client := ⟨"http://localhost:8000","60.0",1,true⟩
def oneSend (transport : Transport) : Task := .start ⟨singleTry,transport,some "e1"⟩
def unavailable : Response := ⟨503,"",.unusable,false,.error ""⟩
def garbled : Response := ⟨200,"<html>",.unusable,false,.error "Expecting value: line 1 column 1 (char 0)"⟩
def replied : Response :=
  ⟨200,"",.unusable,false,.ok (.dict [(.str "jsonrpc",.str "2.0"),(.str "id",.str "req-2"),(.str "result",.dict [(.str "envelope",
    .dict [(.str "asap_version",.str "2.0"),(.str "sender",.str "urn:asap:agent:server"),
      (.str "recipient",.str "urn:asap:agent:client"),(.str "payload_type",.str "TaskResponse"),
      (.str "payload",.dict [(.str "task_id",.str "t1"),(.str "status",.str "completed")]),
      (.str "correlation_id",.str "e1")])])])⟩

-- The first send opens the breaker, the second tests it after the timeout.
def recovery (second : Response) : List (Move Task Input) :=
  [.arrive 0 (oneSend .http),.proceed 0 (.started 0 none),.proceed 0 (.response 1 unavailable),
    .arrive 1 (oneSend .http),.proceed 1 (.started 100 none),.proceed 1 (.response 101 second)]

theorem recovery_closes : (execute (program plainCodec).next (answered plainCodec) (Machine.init (.init 1 60)) (recovery replied)).map
    (fun final => (final.store.state,final.tasks.values.map Task.inFlight)) = some (.closed,[false,false]) := by
  decide +kernel

theorem breaker_recovers :
    ∃ final, Runs (program plainCodec).next (fun m move => answered plainCodec m move = true)
        (Machine.init (.init 1 60)) (recovery replied) final ∧
      final.store.state = .closed ∧
      ∀ id result permit, final.tasks.get id = some (.finished result permit) → permit ≠ .held := by
  obtain ⟨final,ran,shown⟩ := Option.map_eq_some_iff.mp recovery_closes
  have run := execute_runs (answered plainCodec) ran
  have matched := (breaker_never_sticks plainCodec 1 60 (recovery replied) final (run.mono (fun _ _ _ => trivial))).1.mpr run
  exact ⟨final,run,congrArg Prod.fst shown,matched⟩

theorem recovery_stuck : (execute (program plainCodec).next anyMove (Machine.init (.init 1 60)) (recovery garbled)).map
    (fun final => (final.store,final.tasks.entries.all (fun row => !row.2.inFlight))) =
      some (⟨1,60,.halfOpen,1,some 1,false⟩,true) := by
  decide +kernel

-- A body that is no JSON leaves the permit taken: from then on every attempt is refused.
theorem breaker_sticks :
    ∃ final, Runs (program plainCodec).next (fun _ _ => True) (Machine.init (.init 1 60)) (recovery garbled) final ∧
      (∀ id task, final.tasks.get id = some task → task.inFlight = false) ∧
      (final.store.state = .halfOpen ∧ final.store.halfOpenPermit = false) ∧
      ∀ now, (final.store.canAttempt now).2 = false := by
  obtain ⟨final,ran,shown⟩ := Option.map_eq_some_iff.mp recovery_stuck
  obtain ⟨store,idle⟩ := Prod.mk.inj shown
  refine ⟨final,execute_free ran,?_,?_,?_⟩
  · intro id task found
    have quiet := List.all_eq_true.mp idle (id,task) (final.tasks.mem_iff.mpr found)
    simpa using quiet
  · rw [store]
    exact ⟨rfl,rfl⟩
  · intro now
    rw [store]
    rfl

end Asap.ClientSend
