import Asap.ModelFields

-- `asap.models.entities`: the manifest of an agent, its dump and its validation.
namespace Asap.Manifests
open OrderedDict PythonValue ModelFields

inductive VerificationState where
  | verified
  | pending
  | rejected
  deriving DecidableEq

inductive HardwareClass where
  | cloud
  | sbc
  | edgeAccelerator
  | microcontroller
  | desktop
  deriving DecidableEq

inductive HardwareIoType where
  | gpio
  | i2c
  | spi
  | uart
  | csiCamera
  | usbCamera
  | audioIn
  | audioOut
  | bluetooth
  | lora
  | ble
  deriving DecidableEq

inductive InferenceMode where
  | cloud
  | localCpu
  | localCuda
  | localMetal
  | localNpu
  deriving DecidableEq

def verificationState : Enumeration VerificationState where
  all := [.verified,.pending,.rejected]
  text
    | .verified => "verified"
    | .pending => "pending"
    | .rejected => "rejected"
  known a := by cases a <;> rfl

def hardwareClass : Enumeration HardwareClass where
  all := [.cloud,.sbc,.edgeAccelerator,.microcontroller,.desktop]
  text
    | .cloud => "cloud"
    | .sbc => "sbc"
    | .edgeAccelerator => "edge_accelerator"
    | .microcontroller => "microcontroller"
    | .desktop => "desktop"
  known a := by cases a <;> rfl

def hardwareIoType : Enumeration HardwareIoType where
  all := [.gpio,.i2c,.spi,.uart,.csiCamera,.usbCamera,.audioIn,.audioOut,.bluetooth,.lora,.ble]
  text
    | .gpio => "gpio"
    | .i2c => "i2c"
    | .spi => "spi"
    | .uart => "uart"
    | .csiCamera => "csi_camera"
    | .usbCamera => "usb_camera"
    | .audioIn => "audio_in"
    | .audioOut => "audio_out"
    | .bluetooth => "bluetooth"
    | .lora => "lora"
    | .ble => "ble"
  known a := by cases a <;> rfl

def inferenceMode : Enumeration InferenceMode where
  all := [.cloud,.localCpu,.localCuda,.localMetal,.localNpu]
  text
    | .cloud => "cloud"
    | .localCpu => "local_cpu"
    | .localCuda => "local_cuda"
    | .localMetal => "local_metal"
    | .localNpu => "local_npu"
  known a := by cases a <;> rfl

-- The digits of a regular expression, and what `packaging` takes for a version.
structure Rules where
  decimal : Char → Bool
  version : String → Bool

def isUrnChar (c : Char) : Bool := ('a' ≤ c && c ≤ 'z') || ('0' ≤ c && c ≤ '9') || c = '-'

def maxUrnLength : Nat := 256

-- The pattern ends where `$` does, which is also before a last line break.
def validateAgentUrn (v : String) : Bool :=
  let head := "urn:asap:agent:".toList
  let body := v.toList.drop head.length
  let words := (if body.getLast? = some '\n' then body.dropLast else body).splitOn ':'
  decide (v.length ≤ maxUrnLength) && head.isPrefixOf v.toList && (words.length = 1 || words.length = 2) &&
    words.all (fun word => !word.isEmpty && word.all isUrnChar)

def validatePercentageFormat (rules : Rules) (v : String) : Bool :=
  let digits := match (strip v).toList with
    | '-' :: rest => rest
    | rest => rest
  let isDigit := fun c => rules.decimal c || c = '.'
  let tail := (digits.dropWhile isDigit).dropWhile isSpace
  let rest := match tail with
    | '%' :: rest => rest.dropWhile isSpace
    | rest => rest
  !(digits.takeWhile isDigit).isEmpty && rest.isEmpty

def supportedAuthSchemes : List String := ["bearer","basic"]

def validateAuthScheme (schemes : List String) : Bool :=
  schemes.all (fun scheme => decide (String.ofList (scheme.toList.map Char.toLower) ∈ supportedAuthSchemes))

def nonnegative : PyFloat → Bool
  | .finite value _ => decide (0 ≤ value)
  | .nonFinite repr => decide (repr ≠ "-Infinity")

structure LocalModelInfo where
  id : Option String := none
  quantization : Option String := none
  throughputTokensPerSecond : Option PyFloat := none
  accepted : throughputTokensPerSecond.all nonnegative = true := by rfl

structure HardwareCapability where
  class_ : Option HardwareClass := none
  model : Option String := none
  io : List HardwareIoType := []
  accepted : model.all (fun text => decide (text.length ≤ 100)) = true := by rfl

structure InferenceCapability where
  modes : List InferenceMode := []
  localModels : List LocalModelInfo := []

structure Skill where
  id : String
  description : String
  inputSchema : Option (Dict String Value) := none
  outputSchema : Option (Dict String Value) := none

structure Capability where
  asapVersion : String := "0.1"
  skills : List Skill := []
  statePersistence : Bool := false
  streaming : Bool := false
  mcpTools : List String := []
  hardware : Option HardwareCapability := none
  inference : Option InferenceCapability := none

structure Endpoint where
  asap : String
  events : Option String := none

structure AuthScheme where
  schemes : List String
  oauth2 : Option (Dict String Value) := none

structure VerificationStatus where
  status : VerificationState
  verifiedAt : Option DateTime := none

structure SLADefinition (rules : Rules) where
  availability : Option String := none
  maxLatencyP95Ms : Option Int := none
  maxErrorRate : Option String := none
  supportHours : Option String := none
  accepted : (availability.all (validatePercentageFormat rules) && maxErrorRate.all (validatePercentageFormat rules) &&
    maxLatencyP95Ms.all (fun ms => decide (0 ≤ ms))) = true

def manifestAccepted (rules : Rules) (id version : String) (supportedVersions : List String) (auth : Option AuthScheme)
    (ttlSeconds : Int) : Bool :=
  validateAgentUrn id && rules.version version && !supportedVersions.isEmpty &&
    auth.all (fun auth => validateAuthScheme auth.schemes) && decide (1 ≤ ttlSeconds)

structure Manifest (rules : Rules) where
  id : String
  name : String
  version : String
  description : String
  capabilities : Capability
  endpoints : Endpoint
  supportedVersions : List String := ["2.2"]
  auth : Option AuthScheme := none
  signature : Option String := none
  sla : Option (SLADefinition rules) := none
  verification : Option VerificationStatus := none
  ttlSeconds : Int := 300
  accepted : manifestAccepted rules id version supportedVersions auth ttlSeconds = true

-- Reading a member of an object whose members are written out.
@[simp] theorem lookupItem_here (name : String) (value : α) (rest : List (Key × α)) :
    lookupItem name ((.str name,value) :: rest) = some value := by simp [lookupItem]

@[simp] theorem lookupItem_later {name other : String} (different : other ≠ name) (value : α) (rest : List (Key × α)) :
    lookupItem name ((.str other,value) :: rest) = lookupItem name rest := by simp [lookupItem,different]

def optionalStr : Codec (Option String) := optional str (fun _ null => by cases null)
def optionalObject : Codec (Option (Dict String Value)) := optional object (fun _ null => by cases null)

section Models
variable (conversions : Conversions)

def optionalFloat : Codec (Option PyFloat) := optional (float conversions) (fun a null => by cases a <;> cases null)
def optionalInt : Codec (Option Int) := optional (int conversions) (fun _ null => by cases null)

-- `Model.model_validate` of an object of known members.
def readObject (names : List String) (read : List (Key × Value) → Option α) : Value → Option α
  | .dict items => if onlyKeys names items then read items else none
  | _ => none

def localModelInfo : Codec LocalModelInfo where
  dump m := .dict [(.str "id",optionalStr.dump m.id),(.str "quantization",optionalStr.dump m.quantization),
    (.str "throughput_tokens_per_second",(optionalFloat conversions).dump m.throughputTokensPerSecond)]
  read := readObject ["id","quantization","throughput_tokens_per_second"] (fun items => do
    let id ← defaulted optionalStr none "id" items
    let quantization ← defaulted optionalStr none "quantization" items
    let throughput ← defaulted (optionalFloat conversions) none "throughput_tokens_per_second" items
    if accepted : throughput.all nonnegative = true then some ⟨id,quantization,throughput,accepted⟩ else none)
  plain m := optionalStr.plain m.id && optionalStr.plain m.quantization && (optionalFloat conversions).plain m.throughputTokensPerSecond
  json m := by simp [isJson,itemsAreJson,Key.string,Codec.json,Bool.and_assoc]
  reads m fits := by
    simp only [Bool.and_eq_true] at fits
    simp [readObject,onlyKeys,Key.string,defaulted,Codec.reads,fits,m.accepted]

def skill : Codec Skill where
  dump m := .dict [(.str "id",str.dump m.id),(.str "description",str.dump m.description),
    (.str "input_schema",optionalObject.dump m.inputSchema),(.str "output_schema",optionalObject.dump m.outputSchema)]
  read := readObject ["id","description","input_schema","output_schema"] (fun items => do
    let id ← required str "id" items
    let description ← required str "description" items
    let inputSchema ← defaulted optionalObject none "input_schema" items
    let outputSchema ← defaulted optionalObject none "output_schema" items
    some ⟨id,description,inputSchema,outputSchema⟩)
  plain m := str.plain m.id && str.plain m.description && optionalObject.plain m.inputSchema && optionalObject.plain m.outputSchema
  json m := by simp [isJson,itemsAreJson,Key.string,Codec.json,Bool.and_assoc]
  reads m fits := by
    simp only [Bool.and_eq_true] at fits
    simp [readObject,onlyKeys,Key.string,required,defaulted,Codec.reads,fits]

def optionalHardwareClass : Codec (Option HardwareClass) := optional hardwareClass.codec (fun _ null => by cases null)

-- A field with an alias is read under either of its names; the other one beside it is unknown.
def aliased (c : Codec α) (default : α) (aliasName name : String) (items : List (Key × Value)) : Option α :=
  match lookupItem aliasName items,lookupItem name items with
  | some _,some _ => none
  | some value,none => c.read value
  | none,some value => c.read value
  | none,none => some default

def hardwareCapability : Codec HardwareCapability where
  dump m := .dict [(.str "class_",optionalHardwareClass.dump m.class_),(.str "model",optionalStr.dump m.model),
    (.str "io",(list hardwareIoType.codec).dump m.io)]
  read := readObject ["class","class_","model","io"] (fun items => do
    let class_ ← aliased optionalHardwareClass none "class" "class_" items
    let model ← defaulted optionalStr none "model" items
    let io ← defaulted (list hardwareIoType.codec) [] "io" items
    if accepted : model.all (fun text => decide (text.length ≤ 100)) = true then some ⟨class_,model,io,accepted⟩ else none)
  plain m := optionalHardwareClass.plain m.class_ && optionalStr.plain m.model && (list hardwareIoType.codec).plain m.io
  json m := by simp [isJson,itemsAreJson,Key.string,Codec.json,Bool.and_assoc]
  reads m fits := by
    simp only [Bool.and_eq_true] at fits
    have accepted := m.accepted
    simp only [Option.all_eq_true,decide_eq_true_eq] at accepted
    have absent : lookupItem "class" [((.str "class_" : Key),optionalHardwareClass.dump m.class_),
        (.str "model",optionalStr.dump m.model),(.str "io",(list hardwareIoType.codec).dump m.io)] = none := by
      simp [lookupItem]
    simp [readObject,onlyKeys,Key.string,aliased,absent,defaulted,Codec.reads,fits,m.accepted]

def localModels : Codec (List LocalModelInfo) := list (localModelInfo conversions)

def inferenceCapability : Codec InferenceCapability where
  dump m := .dict [(.str "modes",(list inferenceMode.codec).dump m.modes),(.str "local_models",(localModels conversions).dump m.localModels)]
  read := readObject ["modes","local_models"] (fun items => do
    let modes ← defaulted (list inferenceMode.codec) [] "modes" items
    let localModels ← defaulted (localModels conversions) [] "local_models" items
    some ⟨modes,localModels⟩)
  plain m := (list inferenceMode.codec).plain m.modes && (localModels conversions).plain m.localModels
  json m := by simp [isJson,itemsAreJson,Key.string,Codec.json]
  reads m fits := by
    simp only [Bool.and_eq_true] at fits
    simp [readObject,onlyKeys,Key.string,defaulted,Codec.reads,fits]

def optionalHardware : Codec (Option HardwareCapability) := optional hardwareCapability (fun _ null => by cases null)
def optionalInference : Codec (Option InferenceCapability) := optional (inferenceCapability conversions) (fun _ null => by cases null)
def skills : Codec (List Skill) := list skill
def strs : Codec (List String) := list str

def capability : Codec Capability where
  dump m := .dict [(.str "asap_version",str.dump m.asapVersion),(.str "skills",skills.dump m.skills),
    (.str "state_persistence",(bool conversions).dump m.statePersistence),(.str "streaming",(bool conversions).dump m.streaming),
    (.str "mcp_tools",strs.dump m.mcpTools),(.str "hardware",optionalHardware.dump m.hardware),
    (.str "inference",(optionalInference conversions).dump m.inference)]
  read := readObject ["asap_version","skills","state_persistence","streaming","mcp_tools","hardware","inference"] (fun items => do
    let asapVersion ← defaulted str "0.1" "asap_version" items
    let skills ← defaulted skills [] "skills" items
    let statePersistence ← defaulted (bool conversions) false "state_persistence" items
    let streaming ← defaulted (bool conversions) false "streaming" items
    let mcpTools ← defaulted strs [] "mcp_tools" items
    let hardware ← defaulted optionalHardware none "hardware" items
    let inference ← defaulted (optionalInference conversions) none "inference" items
    some ⟨asapVersion,skills,statePersistence,streaming,mcpTools,hardware,inference⟩)
  plain m := str.plain m.asapVersion && skills.plain m.skills && (bool conversions).plain m.statePersistence &&
    (bool conversions).plain m.streaming && strs.plain m.mcpTools && optionalHardware.plain m.hardware &&
    (optionalInference conversions).plain m.inference
  json m := by simp [isJson,itemsAreJson,Key.string,Codec.json,Bool.and_assoc]
  reads m fits := by
    simp only [Bool.and_eq_true] at fits
    simp [readObject,onlyKeys,Key.string,defaulted,Codec.reads,fits]

def endpoint : Codec Endpoint where
  dump m := .dict [(.str "asap",str.dump m.asap),(.str "events",optionalStr.dump m.events)]
  read := readObject ["asap","events"] (fun items => do
    let asap ← required str "asap" items
    let events ← defaulted optionalStr none "events" items
    some ⟨asap,events⟩)
  plain m := str.plain m.asap && optionalStr.plain m.events
  json m := by simp [isJson,itemsAreJson,Key.string,Codec.json]
  reads m fits := by
    simp only [Bool.and_eq_true] at fits
    simp [readObject,onlyKeys,Key.string,required,defaulted,Codec.reads,fits]

def authScheme : Codec AuthScheme where
  dump m := .dict [(.str "schemes",strs.dump m.schemes),(.str "oauth2",optionalObject.dump m.oauth2)]
  read := readObject ["schemes","oauth2"] (fun items => do
    let schemes ← required strs "schemes" items
    let oauth2 ← defaulted optionalObject none "oauth2" items
    some ⟨schemes,oauth2⟩)
  plain m := strs.plain m.schemes && optionalObject.plain m.oauth2
  json m := by simp [isJson,itemsAreJson,Key.string,Codec.json]
  reads m fits := by
    simp only [Bool.and_eq_true] at fits
    simp [readObject,onlyKeys,Key.string,required,defaulted,Codec.reads,fits]

def optionalDatetime : Codec (Option DateTime) := optional (datetime conversions) (fun _ null => by cases null)

def verificationStatus : Codec VerificationStatus where
  dump m := .dict [(.str "status",verificationState.codec.dump m.status),(.str "verified_at",(optionalDatetime conversions).dump m.verifiedAt)]
  read := readObject ["status","verified_at"] (fun items => do
    let status ← required verificationState.codec "status" items
    let verifiedAt ← defaulted (optionalDatetime conversions) none "verified_at" items
    some ⟨status,verifiedAt⟩)
  plain m := verificationState.codec.plain m.status && (optionalDatetime conversions).plain m.verifiedAt
  json m := by simp [isJson,itemsAreJson,Key.string,Codec.json]
  reads m fits := by
    simp only [Bool.and_eq_true] at fits
    simp [readObject,onlyKeys,Key.string,required,defaulted,Codec.reads,fits]

variable (rules : Rules)

def slaDefinition : Codec (SLADefinition rules) where
  dump m := .dict [(.str "availability",optionalStr.dump m.availability),(.str "max_latency_p95_ms",(optionalInt conversions).dump m.maxLatencyP95Ms),
    (.str "max_error_rate",optionalStr.dump m.maxErrorRate),(.str "support_hours",optionalStr.dump m.supportHours)]
  read := readObject ["availability","max_latency_p95_ms","max_error_rate","support_hours"] (fun items => do
    let availability ← defaulted optionalStr none "availability" items
    let maxLatencyP95Ms ← defaulted (optionalInt conversions) none "max_latency_p95_ms" items
    let maxErrorRate ← defaulted optionalStr none "max_error_rate" items
    let supportHours ← defaulted optionalStr none "support_hours" items
    if accepted : (availability.all (validatePercentageFormat rules) && maxErrorRate.all (validatePercentageFormat rules) &&
        maxLatencyP95Ms.all (fun ms => decide (0 ≤ ms))) = true then
      some ⟨availability,maxLatencyP95Ms,maxErrorRate,supportHours,accepted⟩
    else none)
  plain m := optionalStr.plain m.availability && (optionalInt conversions).plain m.maxLatencyP95Ms && optionalStr.plain m.maxErrorRate &&
    optionalStr.plain m.supportHours
  json m := by simp [isJson,itemsAreJson,Key.string,Codec.json,Bool.and_assoc]
  reads m fits := by
    have accepted := m.accepted
    simp only [Bool.and_eq_true] at fits accepted
    simp [readObject,onlyKeys,Key.string,defaulted,Codec.reads,fits,accepted]

def optionalAuth : Codec (Option AuthScheme) := optional authScheme (fun _ null => by cases null)
def optionalSla : Codec (Option (SLADefinition rules)) := optional (slaDefinition conversions rules) (fun _ null => by cases null)
def optionalVerification : Codec (Option VerificationStatus) := optional (verificationStatus conversions) (fun _ null => by cases null)

def manifest : Codec (Manifest rules) where
  dump m := .dict [(.str "id",str.dump m.id),(.str "name",str.dump m.name),(.str "version",str.dump m.version),
    (.str "description",str.dump m.description),(.str "capabilities",(capability conversions).dump m.capabilities),
    (.str "endpoints",endpoint.dump m.endpoints),(.str "supported_versions",strs.dump m.supportedVersions),
    (.str "auth",optionalAuth.dump m.auth),(.str "signature",optionalStr.dump m.signature),
    (.str "sla",(optionalSla conversions rules).dump m.sla),
    (.str "verification",(optionalVerification conversions).dump m.verification),
    (.str "ttl_seconds",(int conversions).dump m.ttlSeconds)]
  read := readObject ["id","name","version","description","capabilities","endpoints","supported_versions","auth","signature","sla",
      "verification","ttl_seconds"] (fun items => do
    let id ← required str "id" items
    let name ← required str "name" items
    let version ← required str "version" items
    let description ← required str "description" items
    let capabilities ← required (capability conversions) "capabilities" items
    let endpoints ← required endpoint "endpoints" items
    let supportedVersions ← defaulted strs ["2.2"] "supported_versions" items
    let auth ← defaulted optionalAuth none "auth" items
    let signature ← defaulted optionalStr none "signature" items
    let sla ← defaulted (optionalSla conversions rules) none "sla" items
    let verification ← defaulted (optionalVerification conversions) none "verification" items
    let ttlSeconds ← defaulted (int conversions) 300 "ttl_seconds" items
    if accepted : manifestAccepted rules id version supportedVersions auth ttlSeconds = true then
      some ⟨id,name,version,description,capabilities,endpoints,supportedVersions,auth,signature,sla,verification,ttlSeconds,accepted⟩
    else none)
  plain m := str.plain m.id && str.plain m.name && str.plain m.version && str.plain m.description &&
    (capability conversions).plain m.capabilities && endpoint.plain m.endpoints && strs.plain m.supportedVersions &&
    optionalAuth.plain m.auth && optionalStr.plain m.signature && (optionalSla conversions rules).plain m.sla &&
    (optionalVerification conversions).plain m.verification && (int conversions).plain m.ttlSeconds
  json m := by simp [isJson,itemsAreJson,Key.string,Codec.json,Bool.and_assoc]
  reads m fits := by
    simp only [Bool.and_eq_true] at fits
    simp [readObject,onlyKeys,Key.string,required,defaulted,Codec.reads,fits,m.accepted]

def finite : PyFloat → Bool
  | .finite _ _ => true
  | .nonFinite _ => false

def freeForm (dict : Dict String Value) : Bool := dict.entries.all (fun item => isJson item.2)

-- The fields in which a manifest can hold what JSON has no form for.
def hasJsonDump (m : Manifest rules) : Bool :=
  m.capabilities.skills.all (fun s => s.inputSchema.all freeForm && s.outputSchema.all freeForm) &&
    m.capabilities.inference.all (fun i => i.localModels.all (fun l => l.throughputTokensPerSecond.all finite)) &&
    m.auth.all (fun a => a.oauth2.all freeForm) && m.verification.all (fun v => v.verifiedAt.isNone)

theorem optional_plain (c : Codec α) (filled : ∀ a, c.dump a ≠ .none) (a : Option α) : (optional c filled).plain a = a.all c.plain := by
  cases a <;> rfl

theorem list_plain (c : Codec α) (items : List α) : (list c).plain items = items.all c.plain := rfl

-- The fields of which every value has a form.
theorem optionalStr_plain (a : Option String) : optionalStr.plain a = true := by cases a <;> rfl
theorem strs_plain (items : List String) : strs.plain items = true := List.all_eq_true.mpr (fun _ _ => rfl)
theorem endpoint_plain (m : Endpoint) : endpoint.plain m = true := optionalStr_plain m.events
theorem enumeration_plain (e : Enumeration α) (items : List α) : (list e.codec).plain items = true :=
  List.all_eq_true.mpr (fun _ _ => rfl)
theorem hardware_plain (a : Option HardwareCapability) : optionalHardware.plain a = true := by
  cases a with
  | none => rfl
  | some m =>
    have first : optionalHardwareClass.plain m.class_ = true := by cases m.class_ <;> rfl
    exact Bool.and_eq_true_iff.mpr ⟨Bool.and_eq_true_iff.mpr ⟨first,optionalStr_plain m.model⟩,enumeration_plain _ _⟩
theorem sla_plain (a : Option (SLADefinition rules)) : (optionalSla conversions rules).plain a = true := by
  cases a with
  | none => rfl
  | some m =>
    have latency : (optionalInt conversions).plain m.maxLatencyP95Ms = true := by cases m.maxLatencyP95Ms <;> rfl
    show (optionalStr.plain m.availability && (optionalInt conversions).plain m.maxLatencyP95Ms && optionalStr.plain m.maxErrorRate &&
      optionalStr.plain m.supportHours) = true
    simp only [optionalStr_plain,latency,Bool.and_self]

theorem manifest_plain (m : Manifest rules) : (manifest conversions rules).plain m = hasJsonDump rules m := by
  have floats : (float conversions).plain = finite := by
    funext a
    cases a <;> rfl
  have models : (localModelInfo conversions).plain = (fun l => l.throughputTokensPerSecond.all finite) := by
    funext l
    show (optionalStr.plain l.id && optionalStr.plain l.quantization && (optionalFloat conversions).plain l.throughputTokensPerSecond) = _
    rw [optionalStr_plain,optionalStr_plain,optionalFloat,optional_plain,floats]
    rfl
  have inference : (inferenceCapability conversions).plain =
      (fun i => i.localModels.all (fun l => l.throughputTokensPerSecond.all finite)) := by
    funext i
    show ((list inferenceMode.codec).plain i.modes && (list (localModelInfo conversions)).plain i.localModels) = _
    rw [enumeration_plain,list_plain,models,Bool.true_and]
  have schemas : skill.plain = (fun s => s.inputSchema.all freeForm && s.outputSchema.all freeForm) := by
    funext s
    show (optionalObject.plain s.inputSchema && optionalObject.plain s.outputSchema) = _
    rw [optionalObject,optional_plain,optional_plain]
    rfl
  have auth : optionalAuth.plain m.auth = m.auth.all (fun a => a.oauth2.all freeForm) := by
    cases m.auth with
    | none => rfl
    | some a =>
      show (strs.plain a.schemes && optionalObject.plain a.oauth2) = _
      rw [strs_plain,optionalObject,optional_plain,Bool.true_and]
      rfl
  have verification : (optionalVerification conversions).plain m.verification = m.verification.all (fun v => v.verifiedAt.isNone) := by
    cases m.verification with
    | none => rfl
    | some v =>
      show (optionalDatetime conversions).plain v.verifiedAt = v.verifiedAt.isNone
      cases v.verifiedAt <;> rfl
  have capabilities : (capability conversions).plain m.capabilities =
      (m.capabilities.skills.all (fun s => s.inputSchema.all freeForm && s.outputSchema.all freeForm) &&
        m.capabilities.inference.all (fun i => i.localModels.all (fun l => l.throughputTokensPerSecond.all finite))) := by
    show (skills.plain m.capabilities.skills && true && true && strs.plain m.capabilities.mcpTools &&
      optionalHardware.plain m.capabilities.hardware && (optionalInference conversions).plain m.capabilities.inference) = _
    rw [strs_plain,hardware_plain,skills,list_plain,schemas,optionalInference,optional_plain,inference]
    simp only [Bool.and_true]
  show (true && true && true && true && (capability conversions).plain m.capabilities && endpoint.plain m.endpoints &&
    strs.plain m.supportedVersions && optionalAuth.plain m.auth && optionalStr.plain m.signature &&
    (optionalSla conversions rules).plain m.sla && (optionalVerification conversions).plain m.verification && true) = _
  rw [capabilities,endpoint_plain,strs_plain,auth,optionalStr_plain,sla_plain,verification]
  simp only [hasJsonDump,Bool.true_and,Bool.and_true]

end Models

end Asap.Manifests
