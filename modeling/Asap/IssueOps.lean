import Asap.Interleaving
import Asap.IssueForms
import Asap.Manifests
import Asap.RegistryMerge

-- `scripts/process_registration.py`, `process_removal.py` and `process_revocation.py`: agents are registered,
-- removed and revoked by issues, in registry.json and revoked_agents.json.
namespace Asap.IssueOps
open Interleaving OrderedDict PythonValue IssueForms
open RegistryMerge (RegistryEntry entryPayload optional)
open Manifests (Rules Manifest validateAgentUrn)

-- No key comes twice in an object that `json.loads` makes.
mutual
def distinctKeys : Value → Bool
  | .list items => listDistinct items
  | .dict items => decide (items.map Prod.fst).Nodup && itemsDistinct items
  | _ => true
def listDistinct : List Value → Bool
  | [] => true
  | value :: rest => distinctKeys value && listDistinct rest
def itemsDistinct : List (Key × Value) → Bool
  | [] => true
  | item :: rest => distinctKeys item.2 && itemsDistinct rest
end

abbrev Document := {value : Value // distinctKeys value = true}

-- What a file holds: nothing, a text that is no JSON, or a document.
inductive File where
  | missing
  | unreadable
  | json (document : Document)

structure Files where
  registry : File
  revoked : File

-- What a script writes as its result, or an exception that it only reports.
inductive Result where
  | valid
  | invalid (errors : List String)
  | raised
  deriving DecidableEq

structure Python where
  lower : String → String
  repr : String → String
  reprList : List String → String
  models : RegistryMerge.Python
  validationText : Value → String

inductive FetchError where
  | manifestValidation (message : String)
  | validation (count : Nat)
  | value (text : String)
  | http
  | other

-- What a registration finds outside; the second `none` is an exception.
structure World (rules : Rules) where
  fetchManifest : String → Except FetchError (Manifest rules)
  isSafeEndpointUrl : String → Option Bool
  now : String

section Files
theorem listDistinct_iff {items : List Value} : listDistinct items = true ↔ ∀ value ∈ items, distinctKeys value = true := by
  induction items with
  | nil => simp [listDistinct]
  | cons value rest ih => simp [listDistinct,ih]

theorem itemsDistinct_iff {items : List (Key × Value)} : itemsDistinct items = true ↔ ∀ item ∈ items, distinctKeys item.2 = true := by
  induction items with
  | nil => simp [itemsDistinct]
  | cons item rest ih => simp [itemsDistinct,ih]

theorem distinct_member {items : List (Key × Value)} {name : String} {value : Value} (distinct : distinctKeys (.dict items) = true)
    (found : lookupItem name items = some value) : distinctKeys value = true := by
  unfold lookupItem at found
  obtain ⟨item,listed,rfl⟩ := Option.map_eq_some_iff.mp found
  simp only [distinctKeys,Bool.and_eq_true] at distinct
  exact itemsDistinct_iff.mp distinct.2 item (List.mem_of_find?_eq_some listed)

def documents : (items : List Value) → listDistinct items = true → List Document
  | [],_ => []
  | value :: rest,distinct =>
    have both := Bool.and_eq_true_iff.mp distinct
    ⟨value,both.1⟩ :: documents rest both.2

-- What is iterated over as the agents: a list, or the texts of an object or of a text.
inductive Loaded where
  | list (agents : List Document)
  | texts (empty : Bool)
  | uniterable

def loaded : (value : Value) → distinctKeys value = true → Loaded
  | .list items,distinct => .list (documents items distinct)
  | .dict items,_ => .texts items.isEmpty
  | .str text,_ => .texts text.isEmpty
  | _,_ => .uniterable

-- `none` is an exception.
def loadRegistry : File → Option Loaded
  | .missing => some (.list [])
  | .unreadable => none
  | .json ⟨.list items,distinct⟩ => some (.list (documents items distinct))
  | .json ⟨.dict items,distinct⟩ =>
    match found : lookupItem "agents" items with
    | some agents => some (loaded agents (distinct_member distinct found))
    | none => some (.list [])
  | .json _ => some (.list [])

def registryVersionFromExisting : File → String
  | .json ⟨.dict items,_⟩ =>
    match lookupItem "version" items with
    | some (.str version) => if strip version = "" then "1.0" else strip version
    | _ => "1.0"
  | _ => "1.0"

theorem saved_distinct (version updatedAt : String) (agents : List Document) :
    distinctKeys (.dict [(.str "version",.str version),(.str "updated_at",.str updatedAt),(.str "agents",.list (agents.map Subtype.val))]) = true := by
  have inner : listDistinct (agents.map Subtype.val) = true := by
    rw [listDistinct_iff]
    intro value member
    obtain ⟨agent,-,rfl⟩ := List.mem_map.mp member
    exact agent.2
  simp only [distinctKeys,itemsDistinct,inner,Bool.and_true,decide_eq_true_eq,List.map_cons,List.map_nil]
  decide

def saveRegistry (file : File) (now : String) (agents : List Document) : File :=
  .json ⟨_,saved_distinct (registryVersionFromExisting file) now agents⟩

theorem documents_values (agents : List Document) (distinct : listDistinct (agents.map Subtype.val) = true) :
    documents (agents.map Subtype.val) distinct = agents := by
  induction agents with
  | nil => rfl
  | cons agent rest ih => rw [List.map_cons] at distinct; exact congrArg (agent :: ·) (ih (Bool.and_eq_true_iff.mp distinct).2)

theorem load_save (file : File) (now : String) (agents : List Document) : loadRegistry (saveRegistry file now agents) = some (.list agents) := by
  have found : lookupItem "agents" [(Key.str "version",Value.str (registryVersionFromExisting file)),(.str "updated_at",.str now),
      (.str "agents",.list (agents.map Subtype.val))] = some (.list (agents.map Subtype.val)) := by simp [lookupItem]
  unfold saveRegistry loadRegistry
  simp only
  split
  · rename_i value same
    rw [found] at same
    cases same
    exact congrArg (fun items => some (Loaded.list items)) (documents_values agents _)
  · rename_i none_
    rw [found] at none_
    cases none_
end Files

section Registration
variable {rules : Rules} (python : Python)

def registrationForm : Form where
  headerToField
    | "Agent name (slug-friendly)" => some "name"
    | "Description" => some "description"
    | "Manifest URL" => some "manifest_url"
    | "HTTP Endpoint" => some "http_endpoint"
    | "WebSocket Endpoint (optional)" => some "websocket_endpoint"
    | "Skills" => some "skills"
    | "Built with (framework)" => some "built_with"
    | "Category" => some "category"
    | "Tags" => some "tags"
    | "Repository URL (optional)" => some "repository_url"
    | "Documentation URL (optional)" => some "documentation_url"
    | "Confirmation" => some "confirm"
    | _ => none
  maxLength field := if field = "description" then 2000 else 500

def orNone (text : String) : Option String := if text = "" then none else some text

def required (form : Form) (body field label : String) : List String :=
  if form.text body field = "" then ["Missing required field: " ++ label] else []

-- `[part.strip() for part in text.split(",") if part.strip()]`.
def commaSeparated (text : String) : List String :=
  ((text.toList.splitOn ',').map (fun part => strip (String.ofList part))).filter (fun part => decide (part ≠ ""))

def agentUrn (author name : String) : String := "urn:asap:agent:" ++ python.lower author ++ ":" ++ name

-- The errors of a manifest that cannot be fetched; `none` where the exception is not caught.
def fetchErrors (manifestUrl : String) : FetchError → Option (List String)
  | .manifestValidation message =>
    some ["Manifest failed schema validation. " ++ message ++ " Ensure it follows the ASAP Manifest format."]
  | .validation count =>
    some ["Manifest failed schema validation (" ++ toString count ++ " error(s)). Ensure it follows the ASAP Manifest format."]
  | .value text =>
    if containsText "Blocked URL" text || containsText "private/metadata" text then some ["Blocked URL (private/metadata): " ++ manifestUrl]
    else some [text]
  | .http => some ["Manifest URL unreachable: " ++ manifestUrl]
  | .other => none

def manifestErrors (expectedId name httpEndpoint websocketEndpoint : String) (skills : List String) (manifest : Manifest rules) : List String :=
  let manifestSkills := manifest.capabilities.skills.map (fun skill => skill.id)
  (if manifest.id ≠ expectedId then ["Manifest id must be " ++ python.repr expectedId ++ ", got " ++ python.repr manifest.id] else []) ++
  (if manifest.name ≠ name then
    ["Manifest name must match issue name " ++ python.repr name ++ ", got " ++ python.repr manifest.name] else []) ++
  (skills.filter (fun skill => decide (skill ∉ manifestSkills))).map (fun skill =>
    "Skill " ++ python.repr skill ++ " not declared in manifest (manifest has " ++ python.reprList manifestSkills ++ ")") ++
  (if manifest.endpoints.asap ≠ httpEndpoint then
    ["HTTP endpoint must match manifest (manifest has " ++ python.repr manifest.endpoints.asap ++ ")"] else []) ++
  (if websocketEndpoint ≠ "" ∧ manifest.endpoints.events ≠ some websocketEndpoint then
    ["WebSocket endpoint must match manifest (manifest has " ++ (manifest.endpoints.events.map python.repr).getD "None" ++ ")"] else [])

def unsafeError (world : World rules) (url : String) : Option (List String) :=
  (world.isSafeEndpointUrl url).map (fun safe => if safe then [] else ["Blocked URL (private/metadata): " ++ url])

def unsafeEndpointErrors (world : World rules) (httpEndpoint websocketEndpoint : String) : Option (List String) :=
  (unsafeError world httpEndpoint).bind (fun http =>
    if websocketEndpoint = "" then some http else (unsafeError world websocketEndpoint).map (http ++ ·))

def registryCategories : List String :=
  ["Research","Coding","Productivity","Data","Security","Infrastructure","Creative","Finance","Other"]

def normalizeCategory (category : Option String) : Option String :=
  ((category.map strip).filter (fun v => decide (v ≠ ""))).map (fun v =>
    (registryCategories.find? (fun canonical => decide (python.lower v = python.lower canonical))).getD v)

def withHardware (manifest : Manifest rules) (entry : RegistryEntry) : RegistryEntry :=
  { entry with
    hardwareClass := (manifest.capabilities.hardware.bind (fun hardware => hardware.class_)).map Manifests.hardwareClass.text
    hardwareIo := (manifest.capabilities.hardware.map (fun hardware => hardware.io.map Manifests.hardwareIoType.text)).getD []
    inferenceModes := (manifest.capabilities.inference.map (fun inference => inference.modes.map Manifests.inferenceMode.text)).getD [] }

def generateRegistryEntry (manifest : Manifest rules) (endpoints : Dict String String) (repositoryUrl documentationUrl builtWith
    category : Option String) (tags : List String) : RegistryEntry :=
  withHardware manifest
    { id := manifest.id
      name := manifest.name
      description := manifest.description
      endpoints := endpoints
      skills := manifest.capabilities.skills.map (fun skill => skill.id)
      category := normalizeCategory python category
      tags := tags
      asapVersion := manifest.capabilities.asapVersion
      repositoryUrl := repositoryUrl.bind (fun url => orNone (strip url))
      documentationUrl := documentationUrl.bind (fun url => orNone (strip url))
      builtWith := builtWith.bind (fun framework => orNone (strip framework))
      verification := none
      onlineCheck := none
      hardwareClass := none
      inferenceModes := []
      hardwareIo := [] }

theorem texts_distinct (items : List String) : distinctKeys (RegistryMerge.texts items) = true := by
  unfold RegistryMerge.texts
  rw [distinctKeys,listDistinct_iff]
  intro value member
  obtain ⟨text,-,rfl⟩ := List.mem_map.mp member
  rfl

theorem optional_distinct (dump : α → Value) (plain : ∀ a, distinctKeys (dump a) = true) (a : Option α) :
    distinctKeys (optional dump a) = true := by
  cases a with
  | none => rfl
  | some a => exact plain a

theorem endpoints_distinct (endpoints : Dict String String) :
    distinctKeys (.dict (endpoints.entries.map (fun item => (.str item.1,.str item.2)))) = true := by
  simp only [distinctKeys,Bool.and_eq_true,decide_eq_true_eq,List.map_map,itemsDistinct_iff]
  refine ⟨?_,?_⟩
  · have keys : ((endpoints.entries.map Prod.fst).map Key.str).Nodup := endpoints.distinct.map (fun a b same => Key.str.inj same)
    rw [List.map_map] at keys
    exact keys
  · intro item member
    obtain ⟨row,-,rfl⟩ := List.mem_map.mp member
    rfl

theorem entry_distinct (models : RegistryMerge.Python) (entry : RegistryEntry) : distinctKeys (entryPayload models entry) = true := by
  have verification (v : RegistryMerge.VerificationStatus) : distinctKeys (RegistryMerge.verificationPayload models v) = true := by
    simp only [RegistryMerge.verificationPayload,distinctKeys,itemsDistinct,optional_distinct (fun t => .str (models.jsonDatetime t)) (fun _ => rfl),
      Bool.and_true,List.map_cons,List.map_nil,decide_eq_true_eq]
    decide
  have endpoints := endpoints_distinct entry.endpoints
  simp only [distinctKeys] at endpoints
  simp only [entryPayload,distinctKeys,itemsDistinct,texts_distinct,optional_distinct Value.str (fun _ => rfl),
    optional_distinct Value.bool (fun _ => rfl),optional_distinct (RegistryMerge.verificationPayload models) verification,endpoints,
    Bool.and_true,List.map_cons,List.map_nil,decide_eq_true_eq]
  decide

def hasId (urn : String) (agent : Document) : Bool :=
  match agent.1 with
  | .dict items =>
    match lookupItem "id" items with
    | some (.str id) => decide (id = urn)
    | _ => false
  | _ => false

-- An id that no set holds.
def unhashableId (agent : Document) : Bool :=
  match agent.1 with
  | .dict items =>
    match lookupItem "id" items with
    | some (.list _) | some (.dict _) => true
    | _ => false
  | _ => false

def addAgent (world : World rules) (manifest : Manifest rules) (entry : RegistryEntry) (files : Files) : Result × Files :=
  match loadRegistry files.registry with
  | some (.list agents) =>
    if agents.any unhashableId then (.raised,files)
    else if agents.any (hasId manifest.id) then (.invalid ["Agent id " ++ python.repr manifest.id ++ " is already registered"],files)
    else (.valid,{ files with
      registry := saveRegistry files.registry world.now (agents ++ [⟨entryPayload python.models entry,entry_distinct python.models entry⟩]) })
  | _ => (.raised,files)

def endpointsOf (httpEndpoint manifestUrl websocketEndpoint : String) : Dict String String :=
  let endpoints := (Dict.empty.set "http" httpEndpoint).set "manifest" manifestUrl
  if websocketEndpoint = "" then endpoints else endpoints.set "ws" websocketEndpoint

-- `run` of process_registration.
def register (world : World rules) (body author : String) (files : Files) : Result × Files :=
  let text := registrationForm.text body
  let missing := required registrationForm body "name" "name" ++ required registrationForm body "manifest_url" "manifest_url" ++
    required registrationForm body "http_endpoint" "http_endpoint" ++ required registrationForm body "skills" "skills"
  if missing ≠ [] then (.invalid missing,files)
  else
    match world.fetchManifest (text "manifest_url") with
    | .error failure =>
      match fetchErrors (text "manifest_url") failure with
      | some errors => (.invalid errors,files)
      | none => (.raised,files)
    | .ok manifest =>
      let errors := manifestErrors python (agentUrn python author (text "name")) (text "name") (text "http_endpoint") (text "websocket_endpoint")
        (commaSeparated (text "skills")) manifest
      if errors ≠ [] then (.invalid errors,files)
      else
        match unsafeEndpointErrors world (text "http_endpoint") (text "websocket_endpoint") with
        | none => (.raised,files)
        | some (error :: later) => (.invalid (error :: later),files)
        | some [] =>
          let entry := withHardware manifest (generateRegistryEntry python manifest
            (endpointsOf (text "http_endpoint") (text "manifest_url") (text "websocket_endpoint")) (orNone (text "repository_url"))
            (orNone (text "documentation_url")) (orNone (text "built_with")) (orNone (text "category")) (commaSeparated (text "tags")))
          addAgent python world manifest entry files
end Registration

section Removal
variable (python : Python)

def removalForm : Form where
  headerToField
    | "Agent name (slug-friendly)" => some "name"
    | _ => none
  maxLength _ := 100

def removeAgent (now expectedId : String) (files : Files) : Result × Files :=
  let notFound := .invalid ["Agent " ++ python.repr expectedId ++ " not found in the registry. " ++
    "Make sure you typed the exact name and that you are the original author."]
  match loadRegistry files.registry with
  | some (.list agents) =>
    match agents.find? (hasId expectedId) with
    | some found => (.valid,{ files with
        registry := saveRegistry files.registry now (agents.eraseP (fun agent => found.1.same agent.1)) })
    | none => (notFound,files)
  | some (.texts _) => (notFound,files)
  | _ => (.raised,files)

-- `run` of process_removal.
def remove (now body author : String) (files : Files) : Result × Files :=
  let name := removalForm.text body "name"
  if name = "" then (.invalid ["Missing required field: name"],files)
  else removeAgent python now (agentUrn python author name) files
end Removal

section Revocation
variable (python : Python)

def revocationForm : Form where
  headerToField
    | "Agent URN" => some "urn"
    | "Reason" => some "reason"
    | _ => none
  maxLength field := if field = "reason" then 500 else 200

structure RevokedEntry where
  urn : String
  reason : String
  revokedAt : String

structure RevokedAgentsList where
  revoked : List RevokedEntry
  version : String

-- `any(a.get("id") == urn for a in agents)`; `none` is the AttributeError of what is no object.
def anyHasId (urn : String) : List Document → Option Bool
  | [] => some false
  | agent :: rest =>
    match agent.1 with
    | .dict _ => if hasId urn agent then some true else anyHasId urn rest
    | _ => none

def defaultRevoked : Value := .dict [(.str "revoked",.list []),(.str "version",.str "1.0")]

def loadRevoked : File → Option Value
  | .missing => some defaultRevoked
  | .unreadable => none
  | .json ⟨.dict items,_⟩ => if (lookupItem "revoked" items).isSome then some (.dict items) else some defaultRevoked
  | .json _ => some defaultRevoked

def onlyMembers (names : List String) (items : List (Key × Value)) : Bool :=
  items.all (fun item => item.1.string.any (fun name => decide (name ∈ names)))

def text? : Option Value → Option String
  | some (.str text) => some text
  | _ => none

def readRevokedEntry : Value → Option RevokedEntry
  | .dict items =>
    if onlyMembers ["urn","reason","revoked_at"] items then
      match text? (lookupItem "urn" items),text? (lookupItem "reason" items),text? (lookupItem "revoked_at" items) with
      | some urn,some reason,some revokedAt => some ⟨urn,reason,revokedAt⟩
      | _,_,_ => none
    else none
  | _ => none

-- `RevokedAgentsList.model_validate`.
def validateRevoked : Value → Option RevokedAgentsList
  | .dict items =>
    if onlyMembers ["revoked","version"] items then
      let revoked := match lookupItem "revoked" items with
        | none => some []
        | some (.list entries) => entries.mapM readRevokedEntry
        | some _ => none
      let version := match lookupItem "version" items with
        | none => some "1.0"
        | version => text? version
      match revoked,version with
      | some revoked,some version => some ⟨revoked,version⟩
      | _,_ => none
    else none
  | _ => none

def dumpRevokedEntry (entry : RevokedEntry) : Value :=
  .dict [(.str "urn",.str entry.urn),(.str "reason",.str entry.reason),(.str "revoked_at",.str entry.revokedAt)]

theorem revoked_distinct (list : RevokedAgentsList) :
    distinctKeys (.dict [(.str "revoked",.list (list.revoked.map dumpRevokedEntry)),(.str "version",.str list.version)]) = true := by
  have entries : listDistinct (list.revoked.map dumpRevokedEntry) = true := by
    rw [listDistinct_iff]
    intro value member
    obtain ⟨entry,-,rfl⟩ := List.mem_map.mp member
    simp only [dumpRevokedEntry,distinctKeys,itemsDistinct,Bool.and_true,List.map_cons,List.map_nil,decide_eq_true_eq]
    decide
  simp only [distinctKeys,itemsDistinct,entries,Bool.and_true,List.map_cons,List.map_nil,decide_eq_true_eq]
  decide

def saveRevoked (list : RevokedAgentsList) : File := .json ⟨_,revoked_distinct list⟩

def recordRevoked (now urn reason : String) (files : Files) : Result × Files :=
  match loadRevoked files.revoked with
  | none => (.raised,files)
  | some revokedData =>
    match validateRevoked revokedData with
    | none => (.invalid ["revoked_agents.json schema invalid: " ++ python.validationText revokedData],files)
    | some list =>
      if list.revoked.any (fun entry => decide (entry.urn = urn)) then
        (.invalid ["Agent " ++ python.repr urn ++ " is already in the revocation list."],files)
      else (.valid,{ files with revoked := saveRevoked { list with revoked := list.revoked ++ [⟨urn,reason,now⟩] } })

-- `run` of process_revocation; `now` is the time as it is written.
def revoke (now body : String) (files : Files) : Result × Files :=
  let urn := revocationForm.text body "urn"
  let reason := revocationForm.text body "reason"
  let missing := required revocationForm body "urn" "Agent URN" ++ required revocationForm body "reason" "Reason"
  let notFound := .invalid ["Agent " ++ python.repr urn ++ " not found in the registry. " ++
    "The agent must be registered before it can be revoked."]
  if missing ≠ [] then (.invalid missing,files)
  else if ¬ "urn:asap:agent:".toList <+: urn.toList then
    (.invalid ["Invalid URN format: must start with 'urn:asap:agent:'. Got: " ++ truncate urn 50 ++ "..."],files)
  else
    match loadRegistry files.registry with
    | some (.list agents) =>
      match anyHasId urn agents with
      | none => (.raised,files)
      | some false => (notFound,files)
      | some true => recordRevoked python now urn reason files
    | some (.texts true) => (notFound,files)
    | _ => (.raised,files)
end Revocation

end Asap.IssueOps
