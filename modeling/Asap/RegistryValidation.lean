import Asap.CookieHeader
import Asap.Withdrawals
import Mathlib.Logic.Function.Basic

-- `scripts/validate_registry.py` and `validate_revoked.py`: what a pull request must not break, and the
-- catalog that `asap.discovery.registry` reads from what the issue scripts have written.
namespace Asap.RegistryValidation
open OrderedDict PythonValue ModelFields
open IssueOps hiding required
open Interleaving (Runs)
open Manifests (Rules Manifest readObject optionalStr optionalDatetime strs validateAgentUrn)
open RegistryMerge (RegistryEntry LiteRegistry ids findById entryPayload)

-- `reported` are the errors of a ValidationError, which has some.
structure Pydantic where
  conversions : Conversions
  reported : Value → List String
  some_reported : ∀ value, reported value ≠ []

def verificationState : Enumeration RegistryMerge.VerificationState where
  all := [RegistryMerge.VerificationState.verified,RegistryMerge.VerificationState.pending,RegistryMerge.VerificationState.rejected]
  text := RegistryMerge.VerificationState.value
  known a := by cases a <;> rfl

-- `dict[str, str]`.
def textDict : Codec (Dict String String) where
  dump dict := .dict (dict.entries.map (fun item => (Key.str item.1,Value.str item.2)))
  read
    | .dict items =>
      match items.mapM (fun item => item.1.string.bind (fun key => (str.read item.2).map (fun text => (key,text)))) with
      | none => none
      | some entries => if distinct : (entries.map Prod.fst).Nodup then some ⟨entries,distinct⟩ else none
    | _ => none
  plain _ := true
  json dict := by
    rw [isJson,itemsAreJson_all,List.all_map,List.all_eq_true]
    exact fun item _ => rfl
  reads dict _ := by
    have texts : (dict.entries.map (fun item => (Key.str item.1,Value.str item.2))).mapM
        (fun item => item.1.string.bind (fun key => (str.read item.2).map (fun text => (key,text)))) = some dict.entries := by
      generalize dict.entries = entries
      induction entries with
      | nil => rfl
      | cons item rest ih =>
        rw [List.map_cons,List.mapM_cons,ih]
        rfl
    simp only [texts,dif_pos dict.distinct]

section Models
variable (python : Python) (pydantic : Pydantic)

def readVerification : Value → Option RegistryMerge.VerificationStatus :=
  readObject ["status","verified_at"] (fun items => do
    let status ← required verificationState.codec "status" items
    let verifiedAt ← defaulted (optionalDatetime pydantic.conversions) none "verified_at" items
    some ⟨status,verifiedAt⟩)

def readOptionalVerification : Option Value → Option (Option RegistryMerge.VerificationStatus)
  | none | some .none => some none
  | some value => (readVerification pydantic value).map some

-- `RegistryEntry.model_validate`.
def readEntry : Value → Option RegistryEntry :=
  readObject ["id","name","description","endpoints","skills","category","tags","asap_version","repository_url","documentation_url",
      "built_with","verification","online_check","hardware_class","inference_modes","hardware_io"] (fun items => do
    let id ← required str "id" items
    let name ← required str "name" items
    let description ← required str "description" items
    let endpoints ← required textDict "endpoints" items
    let skills ← defaulted strs [] "skills" items
    let category ← defaulted optionalStr none "category" items
    let tags ← defaulted strs [] "tags" items
    let asapVersion ← required str "asap_version" items
    let repositoryUrl ← defaulted optionalStr none "repository_url" items
    let documentationUrl ← defaulted optionalStr none "documentation_url" items
    let builtWith ← defaulted optionalStr none "built_with" items
    let verification ← readOptionalVerification pydantic (lookupItem "verification" items)
    let onlineCheck ← defaulted (optional (bool pydantic.conversions) (fun _ null => by cases null)) none "online_check" items
    let hardwareClass ← defaulted optionalStr none "hardware_class" items
    let inferenceModes ← defaulted strs [] "inference_modes" items
    let hardwareIo ← defaulted strs [] "hardware_io" items
    if validateAgentUrn id then
      some ⟨id,name,description,endpoints,skills,normalizeCategory python category,tags,asapVersion,repositoryUrl,documentationUrl,builtWith,
        verification,onlineCheck,hardwareClass,inferenceModes,hardwareIo⟩
    else none)

def readEntries : Option Value → Option (List RegistryEntry)
  | none => some []
  | some (.list agents) => agents.mapM (readEntry python pydantic)
  | some _ => none

-- `LiteRegistry.model_validate`.
def readRegistry : Value → Option LiteRegistry :=
  readObject ["version","updated_at","agents"] (fun items => do
    let version ← required str "version" items
    let updatedAt ← required (datetime pydantic.conversions) "updated_at" items
    let agents ← readEntries python pydantic (lookupItem "agents" items)
    some ⟨version,updatedAt,agents⟩)

-- What `_duplicate_agent_id_errors` has seen, and what it has found.
def noteId (state : Dict String Nat × List String) (item : Nat × String) : Dict String Nat × List String :=
  match state.1.get item.2 with
  | none => (state.1.set item.2 item.1,state.2)
  | some seenAt => (state.1,state.2 ++ ["agents[" ++ toString item.1 ++ "].id: duplicate id " ++ python.repr item.2 ++
      " (first seen at agents[" ++ toString seenAt ++ "])"])

def duplicateAgentIdErrors (idsByIndex : List (Nat × String)) : List String := (idsByIndex.foldl (noteId python) (.empty,[])).2

def indexed (items : List α) : List (Nat × α) := items.zipIdx.map (fun item => (item.2,item.1))

def validateLiteRegistry (raw : Value) : List String :=
  match readRegistry python pydantic raw with
  | none => pydantic.reported raw
  | some registry => duplicateAgentIdErrors python (indexed (ids registry.agents))

def agentErrors (item : Nat × Value) : List String :=
  match item.2 with
  | .dict _ =>
    match readEntry python pydantic item.2 with
    | some _ => []
    | none => (pydantic.reported item.2).map (fun error => "agents[" ++ toString item.1 ++ "]." ++ error)
  | _ => ["agents[" ++ toString item.1 ++ "]: must be an object"]

def rawId (item : Nat × Value) : Option (Nat × String) :=
  match item.2 with
  | .dict items =>
    match lookupItem "id" items with
    | some (.str id) => some (item.1,id)
    | _ => none
  | _ => none

def validateAgentsList (agents : List Value) : List String :=
  (indexed agents).flatMap (agentErrors python pydantic) ++ duplicateAgentIdErrors python ((indexed agents).filterMap rawId)

def bareArrayError : String :=
  "Root must be a LiteRegistry object with 'version', 'updated_at', and 'agents' " ++
    "(not a bare agents array). Use --allow-agents-array for fixture dry-runs."

-- `validate_registry`; the texts of a path and of a decoding error are given.
def validateRegistry (path decodeError : String) (allowAgentsArray : Bool) : File → List String
  | .missing => ["File not found: " ++ path]
  | .unreadable => ["Invalid JSON: " ++ decodeError]
  | .json ⟨.list agents,_⟩ => if allowAgentsArray then validateAgentsList python pydantic agents else [bareArrayError]
  | .json ⟨.dict items,_⟩ =>
    if (lookupItem "agents" items).isSome then validateLiteRegistry python pydantic (.dict items)
    else ["Root must be a LiteRegistry object with 'version', 'updated_at', and 'agents', " ++
      "or (with --allow-agents-array) a JSON array of agents."]
  | .json _ => ["Root must be a LiteRegistry object with 'version', 'updated_at', and 'agents', " ++
      "or (with --allow-agents-array) a JSON array of agents."]

-- `validate_revoked`.
def validateRevokedFile (path decodeError : String) : File → List String
  | .missing => ["File not found: " ++ path]
  | .unreadable => ["Invalid JSON: " ++ decodeError]
  | .json ⟨.dict items,_⟩ => if (validateRevoked (.dict items)).isSome then [] else pydantic.reported (.dict items)
  | .json _ => ["Root must be a JSON object with 'revoked' and 'version'."]
end Models

section Duplicates
variable (python : Python)

theorem indexed_values (items : List α) : (indexed items).map Prod.snd = items := by
  unfold indexed
  rw [List.map_map]
  exact List.zipIdx_map_fst 0 items

theorem noteId_grows (items : List (Nat × String)) {state : Dict String Nat × List String} (some : state.2 ≠ []) :
    (items.foldl (noteId python) state).2 ≠ [] := by
  induction items generalizing state with
  | nil => exact some
  | cons item rest ih =>
    refine ih ?_
    unfold noteId
    split
    · exact some
    · simp

-- An id is reported exactly if it has been seen.
theorem noteIds_none {items : List (Nat × String)} {state : Dict String Nat × List String} (none : state.2 = []) :
    (items.foldl (noteId python) state).2 = [] ↔ (state.1.keys ++ items.map Prod.snd).Nodup := by
  induction items generalizing state with
  | nil =>
    simp only [List.foldl_nil,List.map_nil,List.append_nil]
    exact iff_of_true none state.1.distinct
  | cons item rest ih =>
    rw [List.foldl_cons,List.map_cons]
    cases seen : state.1.get item.2 with
    | none =>
      have fresh := (Dict.get_none_iff state.1).mp seen
      have noted : noteId python state item = (state.1.set item.2 item.1,state.2) := by
        unfold noteId
        rw [seen]
      have keys : (state.1.set item.2 item.1).keys = state.1.keys ++ [item.2] := by
        have entries : (state.1.set item.2 item.1).entries = state.1.entries ++ [(item.2,item.1)] := assign_absent _ _ fresh
        rw [Dict.keys,entries,List.map_append]
        rfl
      rw [noted]
      refine (@ih (state.1.set item.2 item.1,state.2) none).trans ?_
      rw [keys,List.append_assoc,List.singleton_append]
    | some seenAt =>
      have listed : item.2 ∈ state.1.keys := (Dict.mem_keys_iff state.1).mpr (by rw [seen]; rfl)
      have reported : (noteId python state item).2 ≠ [] := by
        unfold noteId
        rw [seen]
        simp
      refine iff_of_false (noteId_grows python rest reported) ?_
      intro distinct
      exact (List.nodup_append.mp distinct).2.2 item.2 listed item.2 List.mem_cons_self rfl

theorem no_duplicates_iff (names : List String) : duplicateAgentIdErrors python (indexed names) = [] ↔ names.Nodup := by
  unfold duplicateAgentIdErrors
  rw [noteIds_none python rfl,indexed_values]
  rfl
end Duplicates

section Passing
variable (python : Python) (pydantic : Pydantic)

def entriesOf (agents : List Document) : Option (List RegistryEntry) := agents.mapM (fun agent => readEntry python pydantic agent.1)

-- The agents of a file that the scripts load, each of them valid and each id once.
structure Listed (file : File) (entries : List RegistryEntry) : Prop where
  loads : ∃ agents, loadRegistry file = some (.list agents) ∧ entriesOf python pydantic agents = some entries
  distinct : (ids entries).Nodup

variable {python pydantic}

theorem entriesOf_documents {items : List Value} (distinct : listDistinct items = true) :
    entriesOf python pydantic (documents items distinct) = items.mapM (readEntry python pydantic) := by
  induction items with
  | nil => rfl
  | cons value rest ih =>
    have both := Bool.and_eq_true_iff.mp distinct
    unfold documents entriesOf
    rw [List.mapM_cons,List.mapM_cons]
    have later : List.mapM (fun agent : Document => readEntry python pydantic agent.1) (documents rest both.2) =
        rest.mapM (readEntry python pydantic) := ih both.2
    rw [later]

theorem entriesOf_values (agents : List Document) :
    (agents.map Subtype.val).mapM (readEntry python pydantic) = entriesOf python pydantic agents := by
  unfold entriesOf
  rw [List.mapM_map]
  rfl

theorem validateLiteRegistry_none {raw : Value} :
    validateLiteRegistry python pydantic raw = [] ↔
      ∃ registry, readRegistry python pydantic raw = some registry ∧ (ids registry.agents).Nodup := by
  unfold validateLiteRegistry
  cases reads : readRegistry python pydantic raw with
  | none => simp [pydantic.some_reported raw]
  | some registry => simp [no_duplicates_iff]

theorem readRegistry_agents {items : List (Key × Value)} {registry : LiteRegistry}
    (reads : readRegistry python pydantic (.dict items) = some registry) :
    readEntries python pydantic (lookupItem "agents" items) = some registry.agents := by
  unfold readRegistry readObject at reads
  simp only at reads
  split at reads
  · obtain ⟨_,-,reads⟩ := Option.bind_eq_some_iff.mp reads
    obtain ⟨_,-,reads⟩ := Option.bind_eq_some_iff.mp reads
    obtain ⟨agents,listed,same⟩ := Option.bind_eq_some_iff.mp reads
    cases same
    exact listed
  · cases reads

theorem passing_parts {path decodeError : String} {file : File}
    (passes : validateRegistry python pydantic path decodeError false file = []) :
    ∃ items distinct registry, file = .json ⟨.dict items,distinct⟩ ∧ (lookupItem "agents" items).isSome = true ∧
      readRegistry python pydantic (.dict items) = some registry ∧ (ids registry.agents).Nodup := by
  unfold validateRegistry at passes
  split at passes
  · cases passes
  · cases passes
  · cases passes
  · rename_i items distinct
    split at passes
    · rename_i present
      obtain ⟨registry,reads,unique⟩ := validateLiteRegistry_none.mp passes
      exact ⟨items,distinct,registry,rfl,present,reads,unique⟩
    · cases passes
  · cases passes

theorem passing_listed {path decodeError : String} {file : File}
    (passes : validateRegistry python pydantic path decodeError false file = []) : ∃ entries, Listed python pydantic file entries := by
  obtain ⟨items,distinct,registry,rfl,present,reads,unique⟩ := passing_parts passes
  have listed := readRegistry_agents reads
  obtain ⟨agents,found⟩ := Option.isSome_iff_exists.mp present
  rw [found] at listed
  cases agents with
  | list values =>
    have inner := distinct_member distinct found
    refine ⟨registry.agents,⟨documents values inner,?_,?_⟩,unique⟩
    · unfold loadRegistry
      simp only
      split
      · rename_i agents again
        rw [found] at again
        cases again
        rfl
      · rename_i absent
        rw [found] at absent
        cases absent
    · exact (entriesOf_documents inner).trans listed
  | _ => cases listed

-- What the discovery of a file finds under a URN.
variable (python pydantic) in
def catalog : File → String → Option RegistryEntry
  | .json document,urn => (readRegistry python pydantic document.1).bind (fun registry => findById registry urn)
  | _,_ => none

variable (python pydantic) in
def Valid (path decodeError : String) (file : File) : Prop :=
  file = .missing ∨ validateRegistry python pydantic path decodeError false file = []

theorem valid_listed {path decodeError : String} {file : File} (valid : Valid python pydantic path decodeError file) :
    ∃ entries, Listed python pydantic file entries ∧ catalog python pydantic file = fun urn => entries.find? (fun e => decide (e.id = urn)) := by
  rcases valid with rfl | passes
  · exact ⟨[],⟨⟨[],rfl,rfl⟩,List.nodup_nil⟩,rfl⟩
  · obtain ⟨entries,listed⟩ := passing_listed passes
    obtain ⟨items,distinct,registry,rfl,present,reads,-⟩ := passing_parts passes
    obtain ⟨agents,loads,read⟩ := listed.loads
    have same : registry.agents = entries := by
      have own := readRegistry_agents reads
      obtain ⟨value,found⟩ := Option.isSome_iff_exists.mp present
      rw [found] at own
      cases value with
      | list values =>
        unfold loadRegistry at loads
        simp only at loads
        split at loads
        · rename_i agents_ again
          rw [found] at again
          cases again
          cases loads
          have inner := distinct_member distinct found
          exact Option.some.inj (own.symm.trans ((entriesOf_documents inner).symm.trans read))
        · rename_i absent
          rw [found] at absent
          cases absent
      | _ => cases own
    refine ⟨entries,listed,?_⟩
    funext urn
    unfold catalog
    simp only [reads,Option.bind_some,findById,same]

variable (python pydantic) in
theorem saved_read (file : File) (now : String) (agents : List Document) :
    readRegistry python pydantic (.dict [(.str "version",.str (registryVersionFromExisting file)),(.str "updated_at",.str now),
      (.str "agents",.list (agents.map Subtype.val))]) =
      (pydantic.conversions.datetime (.str now)).bind (fun updatedAt => (entriesOf python pydantic agents).map (fun entries =>
        ⟨registryVersionFromExisting file,updatedAt,entries⟩)) := by
  have listed : readEntries python pydantic (some (.list (agents.map Subtype.val))) = entriesOf python pydantic agents := entriesOf_values agents
  generalize agents.map Subtype.val = values at listed ⊢
  simp [readRegistry,readObject,onlyKeys,Key.string,required,str,datetime,listed,Option.map_eq_bind]

-- What a script saves is valid if its agents are.
theorem saved_valid (path decodeError : String) (file : File) {now : String} {agents : List Document} {entries : List RegistryEntry}
    (timed : (pydantic.conversions.datetime (.str now)).isSome = true) (read : entriesOf python pydantic agents = some entries)
    (distinct : (ids entries).Nodup) :
    Valid python pydantic path decodeError (saveRegistry file now agents) ∧
      catalog python pydantic (saveRegistry file now agents) = fun urn => entries.find? (fun e => decide (e.id = urn)) := by
  obtain ⟨updatedAt,written⟩ := Option.isSome_iff_exists.mp timed
  have reads := saved_read python pydantic file now agents
  rw [written,read,Option.bind_some,Option.map_some] at reads
  constructor
  · right
    unfold saveRegistry validateRegistry
    simp only
    rw [if_pos (by simp [lookupItem])]
    exact validateLiteRegistry_none.mpr ⟨_,reads,distinct⟩
  · funext urn
    unfold saveRegistry catalog
    simp only [reads,Option.bind_some]
    rfl
end Passing

section Entries
variable {python : Python} {pydantic : Pydantic}

theorem optional_texts (text : Option String) : optionalStr.read (RegistryMerge.optional Value.str text) = some text := by
  cases text with
  | none => rfl
  | some text => rfl

-- A category in its canonical form is not changed again.
theorem normalizeCategory_twice (category : Option String) :
    normalizeCategory python (normalizeCategory python category) = normalizeCategory python category := by
  have canonical : ∀ name ∈ registryCategories, strip name = name ∧ name ≠ "" := by decide
  unfold normalizeCategory
  cases given : (category.map strip).filter (fun v => decide (v ≠ "")) with
  | none => rfl
  | some v =>
    simp only [Option.map_some]
    obtain ⟨some_v,nonempty⟩ := Option.filter_eq_some_iff.mp given
    obtain ⟨text,-,stripped⟩ := Option.map_eq_some_iff.mp some_v
    cases found : registryCategories.find? (fun canonical => decide (python.lower v = python.lower canonical)) with
    | none =>
      have kept : strip v = v := by
        rw [← stripped]
        exact congrArg String.ofList ((congrArg CookieHeader.trim String.toList_ofList).trans (CookieHeader.trim_twice text.toList))
      rw [Option.getD_none,kept]
      simp only [Option.filter_some,nonempty,if_true,Option.map_some,found,Option.getD_none]
    | some name =>
      obtain ⟨kept,some_name⟩ := canonical name (List.mem_of_find?_eq_some found)
      have same : python.lower v = python.lower name := by simpa using List.find?_some found
      rw [same] at found
      rw [Option.getD_some,kept]
      simp [some_name,found]

theorem readEntry_payload {entry : RegistryEntry} (named : validateAgentUrn entry.id = true)
    (category : normalizeCategory python entry.category = entry.category) (unverified : entry.verification = none) :
    readEntry python pydantic (entryPayload python.models entry) = some entry := by
  have texts (items : List String) : strs.read (RegistryMerge.texts items) = some items := strs.reads items (by simp [strs,list,str])
  have endpoints : textDict.read (.dict (entry.endpoints.entries.map (fun item => (.str item.1,.str item.2)))) = some entry.endpoints :=
    textDict.reads entry.endpoints rfl
  have checked : (optional (bool pydantic.conversions) (fun _ null => by cases null)).read (RegistryMerge.optional Value.bool entry.onlineCheck) =
      some entry.onlineCheck := by cases entry.onlineCheck <;> rfl
  obtain ⟨id,name,description,endpoints_,skills,category_,tags,asapVersion,repositoryUrl,documentationUrl,builtWith,verification,onlineCheck,
    hardwareClass,inferenceModes,hardwareIo⟩ := entry
  simp only at unverified named category
  subst unverified
  have absent : RegistryMerge.optional (RegistryMerge.verificationPayload python.models) none = .none := rfl
  simp [readEntry,readObject,onlyKeys,Key.string,required,defaulted,entryPayload,str,texts,endpoints,checked,optional_texts,absent,
    readOptionalVerification,named,category]

theorem readEntry_id {agent : Document} {entry : RegistryEntry} (reads : readEntry python pydantic agent.1 = some entry) :
    hasId entry.id agent = true := by
  unfold readEntry readObject at reads
  split at reads
  · rename_i items object
    split at reads
    · obtain ⟨id,named,reads⟩ := Option.bind_eq_some_iff.mp reads
      have text : lookupItem "id" items = some (.str id) := by
        obtain ⟨value,found,read⟩ := Option.bind_eq_some_iff.mp named
        rw [found]
        cases value with
        | str text =>
          cases read
          rfl
        | _ => cases read
      have same : entry.id = id := by
        iterate 15 obtain ⟨_,-,reads⟩ := Option.bind_eq_some_iff.mp reads
        split at reads
        · cases reads
          rfl
        · cases reads
      rw [same]
      exact hasId_iff.mpr ⟨items,object,text⟩
    · cases reads
  · cases reads
end Entries

section Agents
variable {python : Python} {pydantic : Pydantic} {agents : List Document} {entries : List RegistryEntry} (urn : String)

theorem entriesOf_iff : entriesOf python pydantic agents = some entries ↔
    List.Forall₂ (fun (agent : Document) entry => readEntry python pydantic agent.1 = some entry) agents entries := by
  unfold entriesOf
  induction agents generalizing entries with
  | nil => simp [eq_comm]
  | cons agent rest ih =>
    simp only [List.mapM_cons,Option.pure_def,Option.bind_eq_bind,Option.bind_eq_some_iff,Option.some.injEq,List.forall₂_cons_left_iff,ih]
    constructor
    · rintro ⟨entry,first,later,rest_,rfl⟩
      exact ⟨entry,later,first,rest_,rfl⟩
    · rintro ⟨entry,later,first,rest_,rfl⟩
      exact ⟨entry,first,later,rest_,rfl⟩

theorem hasId_entry {agent : Document} {entry : RegistryEntry} (reads : readEntry python pydantic agent.1 = some entry) :
    hasId urn agent = decide (entry.id = urn) := by
  have own := readEntry_id reads
  by_cases same : entry.id = urn
  · rw [← same,own,decide_eq_true rfl]
  · rw [decide_eq_false same,Bool.eq_false_iff]
    exact fun other => same (hasId_unique own other)

theorem entriesOf_append {entry : RegistryEntry} {document : Document} (read : entriesOf python pydantic agents = some entries)
    (own : readEntry python pydantic document.1 = some entry) : entriesOf python pydantic (agents ++ [document]) = some (entries ++ [entry]) :=
  entriesOf_iff.mpr (List.rel_append (entriesOf_iff.mp read) (.cons own .nil))

theorem entriesOf_filter (read : entriesOf python pydantic agents = some entries) :
    entriesOf python pydantic (agents.filter (fun agent => !hasId urn agent)) = some (entries.filter (fun entry => decide (entry.id ≠ urn))) := by
  refine entriesOf_iff.mpr (List.rel_filter ?_ (entriesOf_iff.mp read))
  intro agent entry reads
  simp [hasId_entry urn reads]

theorem marks_hasId (read : entriesOf python pydantic agents = some entries) :
    agents.map (hasId urn) = entries.map (fun entry => decide (entry.id = urn)) := by
  have both := entriesOf_iff.mp read
  clear read
  induction both with
  | nil => rfl
  | cons reads _ ih => rw [List.map_cons,List.map_cons,ih,hasId_entry urn reads]

theorem any_hasId (read : entriesOf python pydantic agents = some entries) : agents.any (hasId urn) = true ↔ urn ∈ ids entries := by
  have same : agents.any (hasId urn) = entries.any (fun entry => decide (entry.id = urn)) := by
    have marks := congrArg (List.any · id) (marks_hasId urn read)
    simpa only [List.any_map,Function.id_comp] using marks
  rw [same]
  simp [ids]

theorem once_agents (read : entriesOf python pydantic agents = some entries) (distinct : (ids entries).Nodup) :
    agents.countP (hasId urn) ≤ 1 := by
  have same : agents.countP (hasId urn) = entries.countP (fun entry => decide (entry.id = urn)) := by
    have marks := congrArg (List.countP id) (marks_hasId urn read)
    simpa only [List.countP_map,Function.id_comp] using marks
  have once := List.nodup_iff_count_le_one.mp distinct urn
  rw [same]
  rw [ids,List.count,List.countP_map] at once
  exact once
end Agents

section Scripts
variable {rules : Rules} {python : Python} {pydantic : Pydantic} {path decodeError : String}

-- The entry that an accepted registration adds.
def registeredEntry (python : Python) (body : String) (manifest : Manifest rules) : RegistryEntry :=
  withHardware manifest (generateRegistryEntry python manifest
    (endpointsOf (registrationForm.text body "http_endpoint") (registrationForm.text body "manifest_url")
      (registrationForm.text body "websocket_endpoint")) (orNone (registrationForm.text body "repository_url"))
    (orNone (registrationForm.text body "documentation_url")) (orNone (registrationForm.text body "built_with"))
    (orNone (registrationForm.text body "category")) (commaSeparated (registrationForm.text body "tags")))

section Generated
variable (manifest : Manifest rules) (endpoints : Dict String String) (repositoryUrl documentationUrl builtWith category : Option String)
    (tags : List String)

@[simp] theorem generated_id : (withHardware manifest (generateRegistryEntry python manifest endpoints repositoryUrl documentationUrl builtWith
    category tags)).id = manifest.id := rfl

@[simp] theorem generated_category : (withHardware manifest (generateRegistryEntry python manifest endpoints repositoryUrl documentationUrl
    builtWith category tags)).category = normalizeCategory python category := rfl

@[simp] theorem generated_verification : (withHardware manifest (generateRegistryEntry python manifest endpoints repositoryUrl
    documentationUrl builtWith category tags)).verification = none := rfl

-- What is generated is valid.
theorem generated_reads :
    readEntry python pydantic (entryPayload python.models (withHardware manifest (generateRegistryEntry python manifest endpoints
      repositoryUrl documentationUrl builtWith category tags))) =
      some (withHardware manifest (generateRegistryEntry python manifest endpoints repositoryUrl documentationUrl builtWith category tags)) := by
  have whole := manifest.accepted
  simp only [Manifests.manifestAccepted,Bool.and_eq_true] at whole
  refine readEntry_payload ?_ ?_ (generated_verification _ _ _ _ _ _ _)
  · rw [generated_id]
    exact whole.1.1.1.1
  · rw [generated_category]
    exact normalizeCategory_twice category
end Generated

theorem registeredEntry_reads (body : String) (manifest : Manifest rules) :
    readEntry python pydantic (entryPayload python.models (registeredEntry python body manifest)) = some (registeredEntry python body manifest) :=
  generated_reads manifest _ _ _ _ _ _

variable (python) in
theorem registeredEntry_id (body : String) (manifest : Manifest rules) : (registeredEntry python body manifest).id = manifest.id :=
  generated_id manifest _ _ _ _ _ _

theorem register_adds {world : World rules} {body author : String} {before after : Files}
    (accepted : register python world body author before = (.valid,after)) :
    ∃ manifest agents, world.fetchManifest (registrationForm.text body "manifest_url") = .ok manifest ∧
      manifest.id = agentUrn python author (registrationForm.text body "name") ∧
      loadRegistry before.registry = some (.list agents) ∧ agents.any (hasId manifest.id) = false ∧
      after = ⟨saveRegistry before.registry world.now (agents ++
        [⟨entryPayload python.models (registeredEntry python body manifest),entry_distinct python.models _⟩]),before.revoked⟩ := by
  unfold register at accepted
  simp only at accepted
  split at accepted
  · cases accepted
  · split at accepted
    · split at accepted
      · cases accepted
      · cases accepted
    · rename_i manifest fetched
      split at accepted
      · cases accepted
      · rename_i fine
        have correct := not_not.mp fine
        unfold manifestErrors at correct
        simp only [List.append_eq_nil_iff] at correct
        have identified : manifest.id = agentUrn python author (registrationForm.text body "name") := by
          by_contra different
          have first := correct.1.1.1.1
          rw [if_pos different] at first
          cases first
        split at accepted
        · cases accepted
        · cases accepted
        · obtain ⟨agents,loads,fresh,after_⟩ := addAgent_valid accepted
          exact ⟨manifest,agents,fetched,identified,loads,fresh,after_⟩

theorem remove_refused {now body author : String} {files : Files} (refused : (remove python now body author files).1 ≠ .valid) :
    (remove python now body author files).2 = files := by
  unfold remove at refused ⊢
  simp only at refused ⊢
  split
  · rfl
  · rename_i named
    rw [if_neg named] at refused
    unfold removeAgent at refused ⊢
    simp only at refused ⊢
    split
    · rename_i agents loads
      rw [loads] at refused
      split
      · rename_i found finds
        simp only [finds,ne_eq,not_true_eq_false] at refused
      · rfl
    · rfl
    · rfl

theorem remove_valid {now body author : String} {files : Files} {agents : List Document} (loads : loadRegistry files.registry = some (.list agents))
    (accepted : (remove python now body author files).1 = .valid) :
    ∃ found, agents.find? (hasId (agentUrn python author (removalForm.text body "name"))) = some found ∧
      remove python now body author files =
        (.valid,⟨saveRegistry files.registry now (agents.eraseP (fun agent => found.1.same agent.1)),files.revoked⟩) := by
  unfold remove at accepted ⊢
  simp only at accepted ⊢
  split at accepted
  · cases accepted
  · rename_i named
    obtain ⟨found,finds⟩ := removeAgent_valid loads accepted
    rw [if_neg named]
    exact ⟨found,finds,removeAgent_found loads finds⟩

theorem revoke_listed {now body : String} {files : Files} {agents : List Document} (loads : loadRegistry files.registry = some (.list agents))
    (accepted : (revoke python now body files).1 = .valid) : agents.any (hasId (revocationForm.text body "urn")) = true := by
  unfold revoke at accepted
  simp only [loads] at accepted
  split at accepted
  · cases accepted
  · split at accepted
    · cases accepted
    · split at accepted
      · cases accepted
      · cases accepted
      · rename_i listed
        exact (anyHasId_iff.mp listed).1

-- The revoked list is written in the form that is read.
theorem validateRevokedFile_save (list : RevokedAgentsList) : validateRevokedFile pydantic path decodeError (saveRevoked list) = [] := by
  have reads : (loadRevoked (saveRevoked list)).bind validateRevoked = some list := revokedList_save list
  have loads : loadRevoked (saveRevoked list) =
      some (.dict [(.str "revoked",.list (list.revoked.map dumpRevokedEntry)),(.str "version",.str list.version)]) := by
    simp [saveRevoked,loadRevoked,lookupItem]
  rw [loads,Option.bind_some] at reads
  unfold saveRevoked validateRevokedFile
  simp only
  rw [reads]
  rfl

variable (python) in
theorem revoke_revoked (now body : String) (files : Files) :
    (revoke python now body files).2.revoked = files.revoked ∨ ∃ list, (revoke python now body files).2.revoked = saveRevoked list := by
  unfold revoke
  simp only
  split
  · exact .inl rfl
  · split
    · exact .inl rfl
    · split
      · split
        · exact .inl rfl
        · exact .inl rfl
        · unfold recordRevoked
          split
          · exact .inl rfl
          · split
            · exact .inl rfl
            · split
              · exact .inl rfl
              · exact .inr ⟨_,rfl⟩
      · exact .inl rfl
      · exact .inl rfl
end Scripts

section Histories
variable {rules : Rules} (python : Python) (pydantic : Pydantic) (path decodeError : String)

-- Whether `pydantic` reads the time that a script writes into registry.json.
def Timed : Move rules → Prop
  | .register world _ _ => (pydantic.conversions.datetime (.str world.now)).isSome = true
  | .remove now _ _ => (pydantic.conversions.datetime (.str now)).isSome = true
  | .revoke _ _ => True

def outcome (files : Files) : Move rules → Result × Files
  | .register world body author => register python world body author files
  | .remove now body author => remove python now body author files
  | .revoke now body => revoke python now body files

def results : Files → List (Move rules) → List Result
  | _,[] => []
  | files,move :: rest => (outcome python files move).1 :: results (outcome python files move).2 rest

-- What the runs of the scripts do to the catalog, by what they report.
inductive Changes : (String → Option RegistryEntry) → Move rules → Result → (String → Option RegistryEntry) → Prop where
  | registered (listed : String → Option RegistryEntry) (world : World rules) (body author : String) (manifest : Manifest rules)
      (fetched : world.fetchManifest (registrationForm.text body "manifest_url") = .ok manifest)
      (own : manifest.id = agentUrn python author (registrationForm.text body "name")) (fresh : listed manifest.id = none) :
      Changes listed (.register world body author) .valid (Function.update listed manifest.id (some (registeredEntry python body manifest)))
  | removed (listed : String → Option RegistryEntry) (now body author : String)
      (known : (listed (agentUrn python author (removalForm.text body "name"))).isSome = true) :
      Changes listed (.remove now body author) .valid (Function.update listed (agentUrn python author (removalForm.text body "name")) none)
  | revoked (listed : String → Option RegistryEntry) (now body : String)
      (known : (listed (revocationForm.text body "urn")).isSome = true) : Changes listed (.revoke now body) .valid listed
  | refused (listed : String → Option RegistryEntry) (move : Move rules) (result : Result) (refused : result ≠ .valid) :
      Changes listed move result listed

inductive History : (String → Option RegistryEntry) → List (Move rules) → List Result → (String → Option RegistryEntry) → Prop where
  | nil (listed : String → Option RegistryEntry) : History listed [] [] listed
  | cons (before middle after : String → Option RegistryEntry) (move : Move rules) (rest : List (Move rules)) (result : Result)
      (later : List Result) (changes : Changes python before move result middle) (remaining : History middle rest later after) :
      History before (move :: rest) (result :: later) after

variable {python pydantic path decodeError}

theorem find_append {entries : List RegistryEntry} {entry : RegistryEntry} (fresh : entry.id ∉ ids entries) :
    (fun urn => (entries ++ [entry]).find? (fun e => decide (e.id = urn))) =
      Function.update (fun urn => entries.find? (fun e => decide (e.id = urn))) entry.id (some entry) := by
  funext urn
  rw [List.find?_append,Function.update_apply]
  split
  · rename_i same
    subst same
    have none : entries.find? (fun e => decide (e.id = entry.id)) = none := by
      rw [List.find?_eq_none]
      intro other member same
      exact fresh (List.mem_map.mpr ⟨other,member,of_decide_eq_true same⟩)
    rw [none,List.find?_cons_of_pos (by simp)]
    rfl
  · rename_i different
    rw [List.find?_cons_of_neg (by simpa using fun same => different same.symm)]
    simp

theorem find_filter (entries : List RegistryEntry) (urn : String) :
    (fun other => (entries.filter (fun e => decide (e.id ≠ urn))).find? (fun e => decide (e.id = other))) =
      Function.update (fun other => entries.find? (fun e => decide (e.id = other))) urn none := by
  funext other
  rw [List.find?_filter,Function.update_apply]
  split
  · rename_i same
    subst same
    simp
  · rename_i different
    congr 1
    funext e
    by_cases same : e.id = other
    · simp [same,different]
    · simp [same]

section Steps
variable {files : Files} {entries : List RegistryEntry} {agents : List Document}

theorem known_find (shown : catalog python pydantic files.registry = fun urn => entries.find? (fun e => decide (e.id = urn))) (urn : String) :
    urn ∈ ids entries ↔ (catalog python pydantic files.registry urn).isSome = true := by
  rw [shown,List.find?_isSome]
  simp [ids]

variable (loads : loadRegistry files.registry = some (.list agents))
    (read : entriesOf python pydantic agents = some entries) (unique : (ids entries).Nodup)
    (shown : catalog python pydantic files.registry = fun urn => entries.find? (fun e => decide (e.id = urn)))
include loads read unique shown

theorem register_changes {world : World rules} {body author : String} (timed : (pydantic.conversions.datetime (.str world.now)).isSome = true)
    {after : Files} (accepted : register python world body author files = (.valid,after)) :
    Valid python pydantic path decodeError after.registry ∧
      Changes python (catalog python pydantic files.registry) (.register world body author) .valid (catalog python pydantic after.registry) := by
  obtain ⟨manifest,agents_,fetched,own,again,fresh,rfl⟩ := register_adds accepted
  rw [loads] at again
  cases again
  have unlisted : (registeredEntry python body manifest).id ∉ ids entries := by
    rw [registeredEntry_id python,← any_hasId _ read]
    exact Bool.eq_false_iff.mp fresh
  have more : entriesOf python pydantic (agents ++ [⟨entryPayload python.models (registeredEntry python body manifest),entry_distinct _ _⟩]) =
      some (entries ++ [registeredEntry python body manifest]) := entriesOf_append read (registeredEntry_reads body manifest)
  have distinct : (ids (entries ++ [registeredEntry python body manifest])).Nodup := by
    rw [ids,List.map_append]
    refine List.nodup_append.mpr ⟨unique,List.nodup_singleton _,?_⟩
    intro urn known other alone same
    rw [List.map_singleton,List.mem_singleton] at alone
    rw [same,alone] at known
    exact unlisted known
  obtain ⟨kept,shows⟩ := saved_valid path decodeError files.registry timed more distinct
  refine ⟨kept,?_⟩
  have absent : catalog python pydantic files.registry manifest.id = none := by
    rw [shown,List.find?_eq_none]
    intro entry member same
    refine unlisted ?_
    rw [registeredEntry_id,← of_decide_eq_true same]
    exact List.mem_map_of_mem member
  have changes : Changes python _ (.register world body author) .valid _ := .registered _ world body author manifest fetched own absent
  rw [shown,← registeredEntry_id python body manifest,← find_append unlisted,← shows,← shown] at changes
  exact changes

theorem remove_changes {now body author : String} (timed : (pydantic.conversions.datetime (.str now)).isSome = true)
    (accepted : (remove python now body author files).1 = .valid) :
    Valid python pydantic path decodeError (remove python now body author files).2.registry ∧
      Changes python (catalog python pydantic files.registry) (.remove now body author : Move rules) .valid
        (catalog python pydantic (remove python now body author files).2.registry) := by
  obtain ⟨found,finds,after⟩ := remove_valid loads accepted
  have own := List.find?_some finds
  have member := List.mem_of_find?_eq_some finds
  have erased : agents.eraseP (fun agent => found.1.same agent.1) =
      agents.filter (fun agent => !hasId (agentUrn python author (removalForm.text body "name")) agent) :=
    eraseP_only (fun agent same => same_hasId same own) ⟨found,member,Value.same_refl found.1⟩ (once_agents _ read unique)
  have fewer := entriesOf_filter (agentUrn python author (removalForm.text body "name")) read
  have distinct : (ids (entries.filter (fun entry => decide (entry.id ≠ agentUrn python author (removalForm.text body "name"))))).Nodup :=
    unique.sublist (List.Sublist.map _ List.filter_sublist)
  obtain ⟨kept,shows⟩ := saved_valid path decodeError files.registry timed fewer distinct
  rw [after,erased]
  refine ⟨kept,?_⟩
  have known : (catalog python pydantic files.registry (agentUrn python author (removalForm.text body "name"))).isSome = true := by
    rw [← known_find shown,← any_hasId _ read]
    exact List.any_eq_true.mpr ⟨found,member,own⟩
  have changes : Changes python _ (.remove now body author : Move rules) .valid _ := .removed _ now body author known
  rw [shown,← find_filter,← shows,← shown] at changes
  exact changes

omit unique in
theorem revoke_changes {now body : String} (accepted : (revoke python now body files).1 = .valid) :
    Changes python (catalog python pydantic files.registry) (.revoke now body : Move rules) .valid
      (catalog python pydantic (revoke python now body files).2.registry) := by
  rw [revoke_registry]
  refine .revoked _ now body ?_
  rw [← known_find shown,← any_hasId _ read]
  exact revoke_listed loads accepted
end Steps

-- The catalog of the scripts' files, each of which CI accepts or which are not there yet.
structure Kept (python : Python) (pydantic : Pydantic) (path decodeError : String) (files : Files) : Prop where
  registry : Valid python pydantic path decodeError files.registry
  revoked : files.revoked = .missing ∨ validateRevokedFile pydantic path decodeError files.revoked = []

theorem register_revoked (world : World rules) (body author : String) (files : Files) :
    (register python world body author files).2.revoked = files.revoked := by
  by_cases accepted : (register python world body author files).1 = .valid
  · obtain ⟨_,_,-,-,-,-,after⟩ := register_adds (accepted_pair accepted)
    rw [after]
  · rw [register_refused accepted]

theorem remove_revoked (now body author : String) (files : Files) : (remove python now body author files).2.revoked = files.revoked := by
  unfold remove
  simp only
  split
  · rfl
  · unfold removeAgent
    split
    · split <;> rfl
    · rfl
    · rfl

theorem outcome_register (world : World rules) (body author : String) (files : Files) :
    outcome python files (.register world body author) = register python world body author files := rfl

theorem outcome_remove (now body author : String) (files : Files) :
    outcome python files (.remove now body author : Move rules) = remove python now body author files := rfl

theorem outcome_revoke (now body : String) (files : Files) :
    outcome python files (.revoke now body : Move rules) = revoke python now body files := rfl

theorem revoked_kept {files : Files} (kept : files.revoked = .missing ∨ validateRevokedFile pydantic path decodeError files.revoked = [])
    (move : Move rules) :
    (outcome python files move).2.revoked = .missing ∨ validateRevokedFile pydantic path decodeError (outcome python files move).2.revoked = [] := by
  cases move with
  | register world body author =>
    rw [outcome_register]
    rw [register_revoked]
    exact kept
  | remove now body author =>
    rw [outcome_remove]
    rw [remove_revoked]
    exact kept
  | revoke now body =>
    rw [outcome_revoke]
    rcases revoke_revoked python now body files with same | ⟨list,saved⟩
    · rw [same]
      exact kept
    · rw [saved]
      exact .inr (validateRevokedFile_save list)

-- What one script does to files that CI accepts, and to their catalog.
theorem outcome_changes {files : Files} {move : Move rules} (kept : Kept python pydantic path decodeError files) (timed : Timed pydantic move) :
    Kept python pydantic path decodeError (outcome python files move).2 ∧
      Changes python (catalog python pydantic files.registry) move (outcome python files move).1
        (catalog python pydantic (outcome python files move).2.registry) := by
  obtain ⟨entries,⟨⟨agents,loads,read⟩,unique⟩,shown⟩ := valid_listed kept.registry
  suffices both : Valid python pydantic path decodeError (outcome python files move).2.registry ∧
      Changes python (catalog python pydantic files.registry) move (outcome python files move).1
        (catalog python pydantic (outcome python files move).2.registry) from ⟨⟨both.1,revoked_kept kept.revoked move⟩,both.2⟩
  cases move with
  | register world body author =>
    rw [outcome_register]
    by_cases accepted : (register python world body author files).1 = .valid
    · rw [accepted]
      exact register_changes loads read unique shown timed (accepted_pair accepted)
    · rw [register_refused accepted]
      exact ⟨kept.registry,.refused _ _ _ accepted⟩
  | remove now body author =>
    rw [outcome_remove]
    by_cases accepted : (remove python now body author files).1 = .valid
    · rw [accepted]
      exact remove_changes loads read unique shown timed accepted
    · rw [remove_refused accepted]
      exact ⟨kept.registry,.refused _ _ _ accepted⟩
  | revoke now body =>
    rw [outcome_revoke]
    have same : (revoke python now body files).2.registry = files.registry := revoke_registry now body files
    by_cases accepted : (revoke python now body files).1 = .valid
    · have changes : Changes python _ (.revoke now body : Move rules) _ _ := revoke_changes loads read shown accepted
      rw [same] at changes ⊢
      rw [accepted]
      exact ⟨kept.registry,changes⟩
    · rw [same]
      exact ⟨kept.registry,.refused _ _ _ accepted⟩

theorem step_outcome (files : Files) (move : Move rules) : step python files move = some (outcome python files move).2 := by
  cases move <;> rfl

-- Whatever the issues are, a registry that CI accepts stays one.
theorem registry_stays_valid {before after : Files} {moves : List (Move rules)}
    (run : Runs (step python) (fun _ move => Timed pydantic move) before moves after)
    (kept : Kept python pydantic path decodeError before) : Kept python pydantic path decodeError after := by
  refine run.invariant (Kept python pydantic path decodeError) ?_ kept
  intro files move next timed taken kept
  rw [step_outcome] at taken
  cases taken
  exact (outcome_changes kept timed).1

-- The scripts' reports tell what discovery will find: an accepted registration adds its entry under the author's URN,
-- an accepted removal takes it away, and nothing else changes.
theorem reports_tell_catalog {before after : Files} {moves : List (Move rules)}
    (run : Runs (step python) (fun _ move => Timed pydantic move) before moves after)
    (kept : Kept python pydantic path decodeError before) :
    History python (catalog python pydantic before.registry) moves (results python before moves) (catalog python pydantic after.registry) := by
  induction run with
  | nil files => exact .nil _
  | cons files middle final move rest timed taken _ ih =>
    rw [step_outcome] at taken
    cases taken
    obtain ⟨still,changes⟩ := outcome_changes kept timed
    exact .cons _ _ _ _ _ _ _ changes (ih still)
theorem runs_outcome {before : Files} {moves : List (Move rules)} (timed : ∀ move ∈ moves, Timed pydantic move) :
    Runs (step python) (fun _ move => Timed pydantic move) before moves (moves.foldl (fun files move => (outcome python files move).2) before) := by
  induction moves generalizing before with
  | nil => exact .nil _
  | cons move rest ih =>
    exact .cons _ _ _ _ _ (timed move List.mem_cons_self) (step_outcome before move) (ih fun later member => timed later (List.mem_cons_of_mem _ member))

-- Every time that the scripts write is read.
def utcPydantic : Pydantic where
  conversions := ⟨fun _ => none,fun _ => none,fun _ => none,fun _ => some RegistryMerge.noon⟩
  reported _ := ["invalid"]
  some_reported _ := List.cons_ne_nil _ _

-- `echo` is registered, revoked and removed again.
def echoMoves : List (Move rules0) :=
  [.register (echoWorld (echoManifest (String.ofList ['e','c','h','o']) echo_urn)) (String.ofList (registrationBody ['e','c','h','o'])) "acme",
    .revoke "2026-01-02T12:00:00Z" (String.ofList (revocationBody "urn:asap:agent:acme:echo".toList)),
    .remove "2026-01-03T12:00:00Z" (String.ofList (removalBody ['e','c','h','o'])) "acme"]

theorem echo_timed : ∀ move ∈ echoMoves, Timed utcPydantic move := by
  simp [echoMoves,Timed,utcPydantic]

theorem echo_stays_valid : Kept plainPython utcPydantic "registry.json" "" (echoMoves.foldl (fun files move => (outcome plainPython files move).2)
    ⟨.missing,.missing⟩) :=
  registry_stays_valid (runs_outcome echo_timed) ⟨.inl rfl,.inl rfl⟩

theorem echo_reports_tell_catalog : History plainPython (catalog plainPython utcPydantic .missing) echoMoves
    (results plainPython ⟨.missing,.missing⟩ echoMoves)
    (catalog plainPython utcPydantic (echoMoves.foldl (fun files move => (outcome plainPython files move).2) ⟨.missing,.missing⟩).registry) :=
  reports_tell_catalog (runs_outcome echo_timed) (⟨.inl rfl,.inl rfl⟩ : Kept plainPython utcPydantic "registry.json" "" ⟨.missing,.missing⟩)
end Histories

end Asap.RegistryValidation
