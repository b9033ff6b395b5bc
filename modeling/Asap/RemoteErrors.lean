import Asap.StreamErrors

-- The errors of the taxonomy: the data of a JSON-RPC error on the server, and the error that a
-- client makes of it.
namespace Asap.RemoteErrors
open PythonValue ClientSend

def jsonRpcAsapMin : Int := -32059
def jsonRpcAsapMax : Int := -32000
def rpcRemoteGeneric : Int := -32034

def isAsapJsonRpcCode (code : Int) : Bool := decide (jsonRpcAsapMin ≤ code ∧ code ≤ jsonRpcAsapMax)

-- `asap_slot`
def asapSlot (wireJsonrpcCode : Int) : Int := if isAsapJsonRpcCode wireJsonrpcCode then wireJsonrpcCode else rpcRemoteGeneric

-- What a RemoteRPCError has on top of an ASAPError.
structure Remote where
  jsonRpcCode : Int
  isRecoverable : Bool
  deriving DecidableEq

-- An instance of ASAPError or of a class under it; `recoverableError` is
-- `isinstance(exc, RecoverableError)`.
structure ASAPError where
  code : String
  rpcCode : Int
  message : String
  details : List (Key × Value)
  retryAfterMs : Option Int
  alternativeAgents : Option (List Value)
  fallbackAction : Option String
  recoverableError : Bool
  remote : Option Remote
  banded : isAsapJsonRpcCode rpcCode = true
  slotted : ∀ r, remote = some r → rpcCode = asapSlot r.jsonRpcCode

theorem asapSlot_banded (code : Int) : isAsapJsonRpcCode (asapSlot code) = true := by
  unfold asapSlot
  split
  · assumption
  · rfl

theorem asapSlot_band {code : Int} (banded : isAsapJsonRpcCode code = true) : asapSlot code = code := if_pos banded

-- Whether an error may succeed when it is tried again: a property of a RemoteRPCError, the class of
-- any other.
def ASAPError.recoverable (exc : ASAPError) : Bool :=
  match exc.remote with
  | some r => r.isRecoverable
  | none => exc.recoverableError

def optionalItem (name : String) (value : Option Value) : List (Key × Value) := (value.map (fun value => (Key.str name,value))).toList

def ASAPError.toDict (exc : ASAPError) (details : List (Key × Value)) : List (Key × Value) :=
  ([(.str "code",.str exc.code),(.str "rpc_code",.int exc.rpcCode),(.str "message",.str exc.message),(.str "details",.dict details)] :
    List (Key × Value)) ++
    optionalItem "retry_after_ms" (exc.retryAfterMs.map .int) ++
    optionalItem "alternative_agents" (exc.alternativeAgents.map .list) ++
    optionalItem "fallback_action" (exc.fallbackAction.map .str)

def jsonrpcErrorDataForAsapException (exc : ASAPError) (details : List (Key × Value)) : List (Key × Value) :=
  exc.toDict details ++ ([(.str "recoverable",.bool exc.recoverableError),(.str "asap_taxonomy_code",.str exc.code)] : List (Key × Value))

-- The data of the response: the challenge is popped from the details, and every caller that adds data
-- adds the text of an error.
def buildJsonrpcErrorForAsapException (exc : ASAPError) (extraData : Option String) : List (Key × Value) :=
  jsonrpcErrorDataForAsapException exc (exc.details.filter (fun item => decide (item.1 ≠ .str "_www_authenticate_asap"))) ++
    optionalItem "error" (extraData.map .str)

-- The errors that the preparation of a request raises, as errors of the taxonomy.
def raised (error : StreamErrors.AsapError) (banded : isAsapJsonRpcCode error.rpcCode = true) : ASAPError where
  code := error.code
  rpcCode := error.rpcCode
  message := error.message
  details := error.details
  retryAfterMs := error.retryAfterMs
  alternativeAgents := error.alternativeAgents.map (·.map .str)
  fallbackAction := error.fallbackAction
  recoverableError := error.recoverable
  remote := none
  banded
  slotted := fun _ same => by cases same

theorem raised_data (error : StreamErrors.AsapError) (banded : isAsapJsonRpcCode error.rpcCode = true) (extra : String) :
    buildJsonrpcErrorForAsapException (raised error banded) (some extra) = error.data ++ [(.str "error",.str extra)] := by
  simp [buildJsonrpcErrorForAsapException,jsonrpcErrorDataForAsapException,ASAPError.toDict,optionalItem,raised,
    StreamErrors.AsapError.data,Option.map_map,Function.comp_def]

section Client
variable (codec : Codec)

def strOf : Value → String
  | .str text => text
  | value => codec.str value

def startsWith (start text : String) : Bool := start.toList.isPrefixOf text.toList

def popped : List String :=
  ["asap_taxonomy_code","recoverable","retry_after_ms","alternative_agents","fallback_action","rpc_code","code"]

def taxonomyOf (raw : List (Key × Value)) : String :=
  match lookupItem "code" raw with
  | some (.str code) =>
    if startsWith "asap:" code then code else strOf codec ((lookupItem "asap_taxonomy_code" raw).getD (.str "asap:rpc/remote_error"))
  | _ => strOf codec ((lookupItem "asap_taxonomy_code" raw).getD (.str "asap:rpc/remote_error"))

-- `int(retry_raw) if retry_raw is not None else None`
def retryOf (raw : List (Key × Value)) : Except Fault (Option Int) :=
  match lookupItem "retry_after_ms" raw with
  | none | some .none => .ok none
  | some value => (toInt codec value).map some

def agentsOf (raw : List (Key × Value)) : Option (List Value) :=
  match lookupItem "alternative_agents" raw with
  | some (.list agents) => some agents
  | _ => none

def fallbackOf (raw : List (Key × Value)) : Option String :=
  match lookupItem "fallback_action" raw with
  | none | some .none => none
  | some value => some (strOf codec value)

def recoverableHint (raw : List (Key × Value)) : Bool :=
  match lookupItem "recoverable" raw with
  | some (.bool true) => true
  | _ => false

-- `RemoteRPCError.from_jsonrpc`, once the delay is read.
def fromJsonrpc (rpcCode : Int) (message : String) (raw : List (Key × Value)) (retryAfterMs : Option Int) : ASAPError where
  code := taxonomyOf codec raw
  rpcCode := asapSlot rpcCode
  message
  details := raw.filter (fun item => decide (∀ name ∈ popped, item.1 ≠ .str name))
  retryAfterMs
  alternativeAgents := agentsOf raw
  fallbackAction := fallbackOf codec raw
  recoverableError := false
  remote := some ⟨rpcCode,recoverableHint raw⟩
  banded := asapSlot_banded rpcCode
  slotted := fun _ same => by cases same; rfl

def remoteRpcErrorFromJson (rpcCode : Int) (message : String) (data : Option (List (Key × Value))) : Except Fault ASAPError :=
  (retryOf codec (data.getD [])).map (fromJsonrpc codec rpcCode message (data.getD []))

-- The client's error has what the server's has.
def RoundTrips (exc : ASAPError) (extraData : Option String) : Prop :=
  ∃ received, remoteRpcErrorFromJson codec exc.rpcCode exc.message (some (buildJsonrpcErrorForAsapException exc extraData)) = .ok received ∧
    received.code = exc.code ∧ received.rpcCode = exc.rpcCode ∧ received.remote.map Remote.jsonRpcCode = some exc.rpcCode ∧
    received.recoverable = exc.recoverable ∧ received.retryAfterMs = exc.retryAfterMs ∧
    received.alternativeAgents = exc.alternativeAgents ∧ received.fallbackAction = exc.fallbackAction

variable {name : String} {exc : ASAPError} {extraData : Option String}

theorem lookup_append (items others : List (Key × Value)) :
    lookupItem name (items ++ others) = (lookupItem name items).or (lookupItem name others) := by
  simp [lookupItem,List.find?_append,Option.map_or]

theorem lookup_optional (other : String) (value : Option Value) : lookupItem name (optionalItem other value) = if other = name then value else none := by
  cases value with
  | none => simp [optionalItem,lookupItem]
  | some value => by_cases same : other = name <;> simp [optionalItem,lookupItem,same]

theorem lookup_cons (other : String) (value : Value) (rest : List (Key × Value)) :
    lookupItem name ((.str other,value) :: rest) = if other = name then some value else lookupItem name rest := by
  by_cases same : other = name <;> simp [lookupItem,same]

-- What the client looks for in the data of a response.
structure Carries (exc : ASAPError) (data : List (Key × Value)) : Prop where
  code : lookupItem "code" data = some (.str exc.code)
  taxonomy : lookupItem "asap_taxonomy_code" data = some (.str exc.code)
  recoverable : lookupItem "recoverable" data = some (.bool exc.recoverableError)
  retry : lookupItem "retry_after_ms" data = exc.retryAfterMs.map .int
  agents : lookupItem "alternative_agents" data = exc.alternativeAgents.map .list
  fallback : lookupItem "fallback_action" data = exc.fallbackAction.map .str

theorem data_carries (exc : ASAPError) (extraData : Option String) : Carries exc (buildJsonrpcErrorForAsapException exc extraData) := by
  constructor
  all_goals
    simp only [buildJsonrpcErrorForAsapException,jsonrpcErrorDataForAsapException,ASAPError.toDict,lookup_append,lookup_cons,lookup_optional]
    simp [lookupItem]

variable {data : List (Key × Value)}

theorem Carries.taxonomyOf (carries : Carries exc data) : taxonomyOf codec data = exc.code := by
  unfold RemoteErrors.taxonomyOf
  rw [carries.code,carries.taxonomy]
  simp only
  split <;> rfl

theorem Carries.retryOf (carries : Carries exc data) : retryOf codec data = .ok exc.retryAfterMs := by
  unfold RemoteErrors.retryOf
  rw [carries.retry]
  cases exc.retryAfterMs <;> rfl

theorem Carries.agentsOf (carries : Carries exc data) : agentsOf data = exc.alternativeAgents := by
  unfold RemoteErrors.agentsOf
  rw [carries.agents]
  cases exc.alternativeAgents <;> rfl

theorem Carries.fallbackOf (carries : Carries exc data) : fallbackOf codec data = exc.fallbackAction := by
  unfold RemoteErrors.fallbackOf
  rw [carries.fallback]
  cases exc.fallbackAction <;> rfl

theorem Carries.recoverableHint (carries : Carries exc data) : recoverableHint data = exc.recoverableError := by
  unfold RemoteErrors.recoverableHint
  rw [carries.recoverable]
  cases exc.recoverableError <;> rfl

-- Everything survives but the recoverability of a RemoteRPCError, which the server takes from the
-- class.
theorem remote_error_round_trips_iff (codec : Codec) (exc : ASAPError) (extraData : Option String) :
    RoundTrips codec exc extraData ↔ ∀ r, exc.remote = some r → r.isRecoverable = exc.recoverableError := by
  have carries := data_carries exc extraData
  have decides : exc.recoverableError = exc.recoverable ↔ ∀ r, exc.remote = some r → r.isRecoverable = exc.recoverableError := by
    unfold ASAPError.recoverable
    cases exc.remote with
    | none => simp
    | some r => simp [eq_comm]
  have made : remoteRpcErrorFromJson codec exc.rpcCode exc.message (some (buildJsonrpcErrorForAsapException exc extraData)) =
      .ok (fromJsonrpc codec exc.rpcCode exc.message (buildJsonrpcErrorForAsapException exc extraData) exc.retryAfterMs) := by
    rw [remoteRpcErrorFromJson,Option.getD_some,carries.retryOf]
    rfl
  rw [← decides]
  constructor
  · intro ⟨received,accepted,_,_,_,hint,_⟩
    rw [made] at accepted
    cases accepted
    exact carries.recoverableHint.symm.trans hint
  · intro same
    exact ⟨_,made,carries.taxonomyOf codec,asapSlot_band exc.banded,rfl,carries.recoverableHint.trans same,rfl,carries.agentsOf,
      carries.fallbackOf codec⟩

end Client

-- The retry decision of a client reads the same error.
theorem recoveryHints_received (codec : Codec) (data : List (Key × Value)) (rpcCode : Int) (message : String) :
    recoveryHints codec data = (remoteRpcErrorFromJson codec rpcCode message (some data)).map (fun received =>
      (received.recoverable,received.retryAfterMs)) := by
  simp only [remoteRpcErrorFromJson,Option.getD_some,recoveryHints,retryOf]
  cases found : lookupItem "retry_after_ms" data with
  | none => rfl
  | some value =>
    cases value with
    | none => rfl
    | _ =>
      simp only
      cases toInt codec _ <;> rfl

def plainCodec : Codec where
  envelope _ := .error ""
  normalizePayloadType text := text
  intOfStr := String.toInt?
  str _ := ""

-- `RemoteRPCError.from_jsonrpc(-32033, "timeout", {"recoverable": True})`
def remoteTimeout : ASAPError where
  code := "asap:rpc/remote_error"
  rpcCode := -32033
  message := "timeout"
  details := []
  retryAfterMs := none
  alternativeAgents := none
  fallbackAction := none
  recoverableError := false
  remote := some ⟨-32033,true⟩
  banded := rfl
  slotted := fun _ same => by cases same; rfl

-- A server that passes it on calls it fatal.
theorem relayed_timeout_fatal : ¬ RoundTrips plainCodec remoteTimeout (some "Remote error -32033: timeout") := by
  rintro ⟨received,made,_,_,_,hint,_⟩
  have carries := data_carries remoteTimeout (some "Remote error -32033: timeout")
  rw [remoteRpcErrorFromJson,Option.getD_some,carries.retryOf] at made
  cases made
  have fatal := carries.recoverableHint.symm.trans hint
  cases fatal

end Asap.RemoteErrors
