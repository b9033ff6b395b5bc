import Asap.RemoteErrors
import Asap.Rounding
import Mathlib.Data.Rat.Floor

-- The remote errors of the TypeScript client, beside those that the Python client makes of the same JSON.
namespace Asap.TsRemoteErrors
open PythonValue ClientSend RemoteErrors Rounding

-- A whole number of a JSON text as a JavaScript number, where that is finite.
def doubleOf (value : Int) : Option Rat :=
  if nearest value.natAbs < 2 ^ 1024 then some (if value < 0 then -(nearest value.natAbs : Rat) else (nearest value.natAbs : Rat)) else none

-- `Number` of texts and of objects, where it is finite, and `String` of what is no text.
structure Js where
  numberOfText : String → Option Rat
  numberOfObject : Value → Option Rat
  string : Value → String

structure PoppedAsapRemoteMeta where
  taxonomyCode : String
  details : List (Key × Value)
  retryAfterMs : Option Rat
  alternativeAgents : Option (List String)
  fallbackAction : Option String

structure RemoteFatalRPCError where
  jsonRpcCode : Int
  taxonomyCode : String
  message : String
  rpcCode : Int
  details : List (Key × Value)
  retryAfterMs : Option Rat
  alternativeAgents : Option (List String)
  fallbackAction : Option String

-- Its class has no agents and no fallback.
structure RemoteRecoverableRPCError where
  jsonRpcCode : Int
  code : String
  message : String
  rpcCode : Int
  details : List (Key × Value)
  retryAfterMs : Option Rat

inductive RemoteError where
  | fatal (error : RemoteFatalRPCError)
  | recoverable (error : RemoteRecoverableRPCError)

def clampAsapRpcSlot (wireJsonRpcCode : Int) : Int := if isAsapJsonRpcCode wireJsonRpcCode then wireJsonRpcCode else rpcRemoteGeneric

def text? : Value → Option String
  | .str text => some text
  | _ => none

section Reading
variable (js : Js)

def numberOf : Value → Option Rat
  | .none => some 0
  | .bool value => some (if value then 1 else 0)
  | .int value => doubleOf value
  | .float value _ => some value
  | .nonFinite _ => none
  | .str text => js.numberOfText text
  | value => js.numberOfObject value

def stringOf : Value → String
  | .str text => text
  | value => js.string value

def popAsapRemoteErrorMeta (raw : List (Key × Value)) : PoppedAsapRemoteMeta :=
  let taxonomy := match lookupItem "asap_taxonomy_code" raw with
    | some (.str text) => text
    | _ => "asap:rpc/remote_error"
  let retryAfterMs := match lookupItem "retry_after_ms" raw with
    | none | some .none => none
    | some value => numberOf js value
  let alternativeAgents := match lookupItem "alternative_agents" raw with
    | some (.list items) => some (items.filterMap text?)
    | _ => none
  let fallbackAction := match lookupItem "fallback_action" raw with
    | none | some .none => none
    | some value => some (stringOf js value)
  {
    taxonomyCode := match lookupItem "code" raw with
      | some (.str code) => if startsWith "asap:" code then code else taxonomy
      | _ => taxonomy
    details := raw.filter (fun item => decide (∀ name ∈ popped, item.1 ≠ .str name))
    retryAfterMs
    alternativeAgents := if alternativeAgents = some [] then none else alternativeAgents
    fallbackAction
  }

def RemoteFatalRPCError.fromJsonRpc (wireCode : Int) (message : String) (data : List (Key × Value)) : RemoteFatalRPCError :=
  let popped := popAsapRemoteErrorMeta js data
  {
    jsonRpcCode := wireCode
    taxonomyCode := popped.taxonomyCode
    message
    rpcCode := clampAsapRpcSlot wireCode
    details := popped.details
    retryAfterMs := popped.retryAfterMs
    alternativeAgents := popped.alternativeAgents
    fallbackAction := popped.fallbackAction
  }

-- The constructor passes neither the agents nor the fallback on.
def RemoteRecoverableRPCError.fromJsonRpc (wireCode : Int) (message : String) (data : List (Key × Value)) : RemoteRecoverableRPCError :=
  let popped := popAsapRemoteErrorMeta js data
  {
    jsonRpcCode := wireCode
    code := popped.taxonomyCode
    message
    rpcCode := clampAsapRpcSlot wireCode
    details := popped.details
    retryAfterMs := popped.retryAfterMs
  }

def remoteRpcErrorFromJson (rpcCode : Int) (message : String) (data : Option (List (Key × Value))) : RemoteError :=
  let raw := data.getD []
  match lookupItem "recoverable" raw with
  | some (.bool true) => .recoverable (.fromJsonRpc js rpcCode message raw)
  | _ => .fatal (.fromJsonRpc js rpcCode message raw)
end Reading

-- What a caller reads of an error of either class; a property that a class does not have is undefined.
def RemoteError.taxonomyCode : RemoteError → String
  | .fatal error => error.taxonomyCode
  | .recoverable error => error.code

def RemoteError.rpcCode : RemoteError → Int
  | .fatal error => error.rpcCode
  | .recoverable error => error.rpcCode

def RemoteError.isRecoverable : RemoteError → Bool
  | .fatal _ => false
  | .recoverable _ => true

def RemoteError.retryAfterMs : RemoteError → Option Rat
  | .fatal error => error.retryAfterMs
  | .recoverable error => error.retryAfterMs

def RemoteError.alternativeAgents : RemoteError → Option (List String)
  | .fatal error => error.alternativeAgents
  | .recoverable _ => none

def RemoteError.fallbackAction : RemoteError → Option String
  | .fatal error => error.fallbackAction
  | .recoverable _ => none

-- The Python client raises nothing, and the two errors have the same to say.
def Agree (codec : Codec) (js : Js) (rpcCode : Int) (message : String) (data : Option (List (Key × Value))) : Prop :=
  ∃ received, RemoteErrors.remoteRpcErrorFromJson codec rpcCode message data = .ok received ∧
    (remoteRpcErrorFromJson js rpcCode message data).taxonomyCode = received.code ∧
    (remoteRpcErrorFromJson js rpcCode message data).rpcCode = received.rpcCode ∧
    (remoteRpcErrorFromJson js rpcCode message data).isRecoverable = received.recoverable ∧
    (remoteRpcErrorFromJson js rpcCode message data).retryAfterMs = received.retryAfterMs.map (fun (ms : Int) => (ms : Rat)) ∧
    (remoteRpcErrorFromJson js rpcCode message data).alternativeAgents.map (List.map Value.str) = received.alternativeAgents ∧
    (remoteRpcErrorFromJson js rpcCode message data).fallbackAction = received.fallbackAction

-- The data that both read alike.
section Alike
variable (codec : Codec) (js : Js) (raw : List (Key × Value))

-- A taxonomy code that is no text is written out by one client only.
def GivenAlike : Prop :=
  match lookupItem "asap_taxonomy_code" raw with
  | none | some (.str _) => True
  | some value => codec.str value = "asap:rpc/remote_error"

def TaxonomyAlike : Prop :=
  match lookupItem "code" raw with
  | some (.str code) => startsWith "asap:" code = true ∨ GivenAlike codec raw
  | _ => GivenAlike codec raw

-- Whole numbers that doubles hold, and texts that both languages read as the same whole number.
def RetryAlike : Prop :=
  match lookupItem "retry_after_ms" raw with
  | none | some .none | some (.bool _) => True
  | some (.int value) => doubleOf value = some (value : Rat)
  | some (.float value _) => value.den = 1
  | some (.str text) => ∃ value, codec.intOfStr text = some value ∧ js.numberOfText text = some (value : Rat)
  | _ => False

def AgentsAlike : Prop :=
  match lookupItem "alternative_agents" raw with
  | some (.list items) => recoverableHint raw = false ∧ items ≠ [] ∧ ∀ item ∈ items, (text? item).isSome = true
  | _ => True

def FallbackAlike : Prop :=
  match lookupItem "fallback_action" raw with
  | none | some .none => True
  | some (.str _) => recoverableHint raw = false
  | some value => recoverableHint raw = false ∧ js.string value = codec.str value

structure Alike : Prop where
  taxonomy : TaxonomyAlike codec raw
  retry : RetryAlike codec js raw
  agents : AgentsAlike raw
  fallback : FallbackAlike codec js raw

variable {codec js raw}

theorem taxonomy_iff : (popAsapRemoteErrorMeta js raw).taxonomyCode = taxonomyOf codec raw ↔ TaxonomyAlike codec raw := by
  have given : (match lookupItem "asap_taxonomy_code" raw with
      | some (.str text) => text
      | _ => "asap:rpc/remote_error") = strOf codec ((lookupItem "asap_taxonomy_code" raw).getD (.str "asap:rpc/remote_error")) ↔
      GivenAlike codec raw := by
    unfold GivenAlike
    cases lookupItem "asap_taxonomy_code" raw with
    | none => simp [strOf]
    | some value => cases value <;> simp [strOf,eq_comm]
  unfold TaxonomyAlike
  rw [← given]
  unfold popAsapRemoteErrorMeta taxonomyOf
  dsimp only
  cases lookupItem "code" raw with
  | none => rfl
  | some value =>
    cases value with
    | str code =>
      dsimp only
      by_cases starts : startsWith "asap:" code = true
      · simp only [starts,if_true,true_or]
      · simp only [starts,Bool.false_eq_true,if_false,false_or]
    | _ => rfl

theorem truncated_iff (value : Rat) : ((if value < 0 then -(-value).floor else value.floor : Int) : Rat) = value ↔ value.den = 1 := by
  constructor
  · intro whole
    rw [← whole]
    exact Rat.den_intCast _
  · intro whole
    have same : (value.num : Rat) = value := Rat.coe_int_num_of_den_eq_one whole
    rw [← same]
    split
    · rw [← Int.cast_neg,Rat.floor_intCast]
      simp
    · rw [Rat.floor_intCast]

theorem retry_iff : (∃ ms, retryOf codec raw = .ok ms ∧ (popAsapRemoteErrorMeta js raw).retryAfterMs = ms.map (fun (ms : Int) => (ms : Rat))) ↔
    RetryAlike codec js raw := by
  unfold RetryAlike retryOf popAsapRemoteErrorMeta
  dsimp only
  cases lookupItem "retry_after_ms" raw with
  | none => simp
  | some value =>
    cases value with
    | none => simp
    | bool value => cases value <;> simp [toInt,numberOf,Except.map]
    | int value => simp [toInt,numberOf,Except.map]
    | float value repr => simp [toInt,numberOf,Except.map,← truncated_iff,eq_comm]
    | nonFinite repr => simp [toInt,Except.map]
    | str text =>
      simp only [toInt,numberOf]
      cases codec.intOfStr text <;> simp [Except.map]
    | list items => simp [toInt,Except.map]
    | dict items => simp [toInt,Except.map]
    | other text => simp [toInt,Except.map]

theorem texts_all (items : List Value) : (items.filterMap text?).map Value.str = items ↔ ∀ item ∈ items, (text? item).isSome = true := by
  constructor
  · intro same item member
    rw [← same] at member
    obtain ⟨text,_,rfl⟩ := List.mem_map.mp member
    rfl
  · intro all
    induction items with
    | nil => rfl
    | cons item rest ih =>
      have later := ih (fun other member => all other (List.mem_cons_of_mem _ member))
      cases item with
      | str text => exact congrArg (Value.str text :: ·) later
      | _ => cases all _ List.mem_cons_self

theorem agents_iff : (if recoverableHint raw then none else (popAsapRemoteErrorMeta js raw).alternativeAgents).map (List.map Value.str) = agentsOf raw ↔
    AgentsAlike raw := by
  unfold AgentsAlike agentsOf popAsapRemoteErrorMeta
  dsimp only
  cases lookupItem "alternative_agents" raw with
  | none => simp
  | some value =>
    cases value with
    | list items =>
      cases recoverableHint raw with
      | true => simp
      | false =>
        have filtered := texts_all items
        by_cases empty : items.filterMap text? = []
        · rw [empty] at filtered
          simp only [empty,Bool.false_eq_true,if_false,if_true,Option.map_none,true_and]
          constructor
          · intro same
            cases same
          · rintro ⟨some,all⟩
            exact absurd (filtered.mpr all).symm some
        · simp only [Bool.false_eq_true,if_false,Option.some.injEq,empty,Option.map_some,filtered,true_and]
          constructor
          · intro all
            refine ⟨?_,all⟩
            rintro rfl
            exact empty rfl
          · exact And.right
    | _ => simp

theorem fallback_iff : (if recoverableHint raw then none else (popAsapRemoteErrorMeta js raw).fallbackAction) = fallbackOf codec raw ↔
    FallbackAlike codec js raw := by
  unfold FallbackAlike fallbackOf popAsapRemoteErrorMeta
  dsimp only
  cases lookupItem "fallback_action" raw with
  | none => simp
  | some value => cases value <;> cases recoverableHint raw <;> simp [strOf,stringOf]
end Alike

theorem remote_hint (js : Js) (rpcCode : Int) (message : String) (data : Option (List (Key × Value))) :
    remoteRpcErrorFromJson js rpcCode message data =
      if recoverableHint (data.getD []) then .recoverable (.fromJsonRpc js rpcCode message (data.getD []))
      else .fatal (.fromJsonRpc js rpcCode message (data.getD [])) := by
  unfold remoteRpcErrorFromJson recoverableHint
  dsimp only
  cases lookupItem "recoverable" (data.getD []) with
  | none => rfl
  | some value =>
    cases value with
    | bool flag => cases flag <;> rfl
    | _ => rfl

-- What the error of either class says, in terms of the data.
theorem error_parts (js : Js) (rpcCode : Int) (message : String) (data : Option (List (Key × Value))) :
    (remoteRpcErrorFromJson js rpcCode message data).taxonomyCode = (popAsapRemoteErrorMeta js (data.getD [])).taxonomyCode ∧
    (remoteRpcErrorFromJson js rpcCode message data).rpcCode = asapSlot rpcCode ∧
    (remoteRpcErrorFromJson js rpcCode message data).isRecoverable = recoverableHint (data.getD []) ∧
    (remoteRpcErrorFromJson js rpcCode message data).retryAfterMs = (popAsapRemoteErrorMeta js (data.getD [])).retryAfterMs ∧
    (remoteRpcErrorFromJson js rpcCode message data).alternativeAgents =
      (if recoverableHint (data.getD []) then none else (popAsapRemoteErrorMeta js (data.getD [])).alternativeAgents) ∧
    (remoteRpcErrorFromJson js rpcCode message data).fallbackAction =
      (if recoverableHint (data.getD []) then none else (popAsapRemoteErrorMeta js (data.getD [])).fallbackAction) := by
  rw [remote_hint]
  cases recoverableHint (data.getD []) <;> exact ⟨rfl,rfl,rfl,rfl,rfl,rfl⟩

-- Both clients read an error alike exactly where its data leaves them no room.
theorem agree_iff (codec : Codec) (js : Js) (rpcCode : Int) (message : String) (data : Option (List (Key × Value))) :
    Agree codec js rpcCode message data ↔ Alike codec js (data.getD []) := by
  obtain ⟨taxonomy,slot,hint,retry,agents,fallback⟩ := error_parts js rpcCode message data
  unfold Agree RemoteErrors.remoteRpcErrorFromJson
  rw [taxonomy,slot,hint,retry,agents,fallback]
  constructor
  · rintro ⟨received,made,sameTaxonomy,_,_,sameRetry,sameAgents,sameFallback⟩
    cases delay : retryOf codec (data.getD []) with
    | error fault =>
      rw [delay] at made
      cases made
    | ok ms =>
      rw [delay] at made
      cases made
      exact ⟨taxonomy_iff.mp sameTaxonomy,retry_iff.mp ⟨ms,delay,sameRetry⟩,agents_iff.mp sameAgents,fallback_iff.mp sameFallback⟩
  · intro alike
    obtain ⟨ms,delay,sameRetry⟩ := retry_iff.mpr alike.retry
    rw [delay]
    exact ⟨_,rfl,taxonomy_iff.mpr alike.taxonomy,rfl,rfl,sameRetry,agents_iff.mpr alike.agents,fallback_iff.mpr alike.fallback⟩

-- `String` and `Number` on the texts of whole numbers.
def plainJs : Js where
  numberOfText text := text.toInt?.map (fun value => (value : Rat))
  numberOfObject _ := none
  string _ := ""

-- The fallback and the agents of a recoverable error reach the caller of one client only.
theorem recoverable_hints_lost : ¬Agree RemoteErrors.plainCodec plainJs (-32033) "timeout"
    (some [(.str "recoverable",.bool true),(.str "fallback_action",.str "retry_with_backoff"),
      (.str "alternative_agents",.list [.str "urn:asap:agent:b"])]) := by
  rintro ⟨received,made,_,_,_,_,_,fallback⟩
  cases made
  cases fallback

end Asap.TsRemoteErrors
