import Asap.OrderedDict
import Asap.PythonValue
import Mathlib.Data.List.Sort
import Mathlib.Data.String.Basic

-- `scripts/check_auto_registration_merge_eligible.py` and `asap.registry.bot_pr`: what a pull request may
-- change in registry.json without review, and what the bot puts there.
namespace Asap.RegistryMerge
open OrderedDict PythonValue

inductive VerificationState where
  | verified
  | pending
  | rejected
  deriving DecidableEq

def VerificationState.value : VerificationState → String
  | .verified => "verified"
  | .pending => "pending"
  | .rejected => "rejected"

structure VerificationStatus where
  status : VerificationState
  verifiedAt : Option DateTime

structure RegistryEntry where
  id : String
  name : String
  description : String
  endpoints : Dict String String
  skills : List String
  category : Option String
  tags : List String
  asapVersion : String
  repositoryUrl : Option String
  documentationUrl : Option String
  builtWith : Option String
  verification : Option VerificationStatus
  onlineCheck : Option Bool
  hardwareClass : Option String
  inferenceModes : List String
  hardwareIo : List String

structure LiteRegistry where
  version : String
  updatedAt : DateTime
  agents : List RegistryEntry

-- A failure that `evaluate` catches (of the file, of its JSON, of the model) or one that it lets through.
inductive Failure where
  | caught (text : String)
  | escaped (text : String)

-- From `pydantic`: the text of a datetime in JSON and `LiteRegistry.model_validate`; `repr` is Python's.
structure Python where
  jsonDatetime : DateTime → String
  validate : Value → Except Failure LiteRegistry
  repr : String → String

variable (python : Python)

def isVerified (entry : RegistryEntry) : Bool :=
  match entry.verification with
  | some v => decide (v.status = .verified)
  | none => false

-- `_load` of a file; `file` is what `json.loads` makes of its text.
def load (file : Except Failure Value) : Except Failure LiteRegistry :=
  match file with
  | .error failure => .error failure
  | .ok (.list _) => .error (.caught ("registry.json must be a LiteRegistry object with " ++
      "'version', 'updated_at', and 'agents' (not a bare array)."))
  | .ok raw => python.validate raw

def optional (dump : α → Value) : Option α → Value
  | some a => dump a
  | none => .none

def texts (items : List String) : Value := .list (items.map .str)

-- `model_dump(mode="json")`.
def verificationPayload (v : VerificationStatus) : Value :=
  .dict [(.str "status",.str v.status.value),(.str "verified_at",optional (fun t => .str (python.jsonDatetime t)) v.verifiedAt)]

def entryPayload (entry : RegistryEntry) : Value :=
  .dict [(.str "id",.str entry.id),(.str "name",.str entry.name),(.str "description",.str entry.description),
    (.str "endpoints",.dict (entry.endpoints.entries.map (fun item => (.str item.1,.str item.2)))),
    (.str "skills",texts entry.skills),(.str "category",optional .str entry.category),(.str "tags",texts entry.tags),
    (.str "asap_version",.str entry.asapVersion),(.str "repository_url",optional .str entry.repositoryUrl),
    (.str "documentation_url",optional .str entry.documentationUrl),(.str "built_with",optional .str entry.builtWith),
    (.str "verification",optional (verificationPayload python) entry.verification),
    (.str "online_check",optional .bool entry.onlineCheck),(.str "hardware_class",optional .str entry.hardwareClass),
    (.str "inference_modes",texts entry.inferenceModes),(.str "hardware_io",texts entry.hardwareIo)]

def indexUnique (source : String) (byId : Dict String RegistryEntry) (agent : RegistryEntry) : Except String (Dict String RegistryEntry) :=
  if (byId.get agent.id).isSome then
    .error ("Duplicate agent id " ++ agent.id ++ " in " ++ source ++ " registry.json; auto-registration requires unique ids.")
  else .ok (byId.set agent.id agent)

def agentsByUniqueId (agents : List RegistryEntry) (source : String) : Except String (Dict String RegistryEntry) :=
  agents.foldlM (indexUnique source) .empty

-- What is wrong with an entry of the head.
def entryRefusal (baseById : Dict String RegistryEntry) (item : String × RegistryEntry) : Option String :=
  match baseById.get item.1 with
  | none =>
    if isVerified item.2 then
      some ("New agent " ++ item.1 ++ " must not use verification.status=verified (self-signed / auto-registration path only).")
    else none
  | some prev =>
    if (entryPayload python prev).same (entryPayload python item.2) then none
    else some ("Agent " ++ item.1 ++ " is already registered; auto-registration cannot modify existing entries.")

def compareRegistries (base head : LiteRegistry) : Bool × String :=
  match agentsByUniqueId base.agents "base" with
  | .error text => (false,text)
  | .ok baseById =>
    match agentsByUniqueId head.agents "head" with
    | .error text => (false,text)
    | .ok headById =>
      match headById.entries.findSome? (entryRefusal python baseById) with
      | some text => (false,text)
      | none =>
        match baseById.keys.find? (fun aid => (headById.get aid).isNone) with
        | some aid => (false,"Agent " ++ aid ++ " is missing from the PR; auto-registration cannot remove entries.")
        | none => (true,"Auto-merge eligible: add-only self-signed registration.")

-- `error` is an exception that leaves `evaluate`.
def evaluate (basePath headPath : Except Failure Value) : Except String (Bool × String) :=
  match load python basePath with
  | .error (.caught text) => .ok (false,"Failed to parse registry JSON: " ++ text)
  | .error (.escaped text) => .error text
  | .ok base =>
    match load python headPath with
    | .error (.caught text) => .ok (false,"Failed to parse registry JSON: " ++ text)
    | .error (.escaped text) => .error text
    | .ok head => .ok (compareRegistries python base head)

def findById (registry : LiteRegistry) (agentId : String) : Option RegistryEntry :=
  registry.agents.find? (fun e => decide (e.id = agentId))

-- `{a.id: a for a in agents}`.
def byIdOf (agents : List RegistryEntry) : Dict String RegistryEntry :=
  agents.foldl (fun byId a => byId.set a.id a) .empty

-- `now` is the clock's time; `error` is the ValueError.
def mergeLiteRegistry (registry : LiteRegistry) (newEntry : RegistryEntry) (now : DateTime) : Except String LiteRegistry :=
  let byId := byIdOf registry.agents
  if (byId.get newEntry.id).isSome then .error ("Agent id " ++ python.repr newEntry.id ++ " is already registered")
  else .ok ⟨registry.version,now,(byId.set newEntry.id newEntry).values.insertionSort (fun a b => a.id ≤ b.id)⟩

def rows (agents : List RegistryEntry) : List (String × RegistryEntry) := agents.map (fun a => (a.id,a))

def ids (agents : List RegistryEntry) : List String := agents.map RegistryEntry.id

-- An add-only update: what was listed is found as it was, what is new is not verified.
structure AddOnly (base head : LiteRegistry) : Prop where
  baseDistinct : (ids base.agents).Nodup
  distinct : (ids head.agents).Nodup
  kept : ∀ agent ∈ base.agents, ∃ found, findById head agent.id = some found ∧
    (entryPayload python agent).same (entryPayload python found) = true
  unverified : ∀ agent ∈ head.agents, agent.id ∉ ids base.agents → isVerified agent = false

def eligible : String := "Auto-merge eligible: add-only self-signed registration."

section Index

theorem rows_keys (agents : List RegistryEntry) : (rows agents).map Prod.fst = ids agents := by
  unfold rows ids
  rw [List.map_map]
  rfl

theorem rows_values (agents : List RegistryEntry) : (rows agents).map Prod.snd = agents := by
  unfold rows
  rw [List.map_map]
  exact List.map_id' agents

theorem findById_rows (registry : LiteRegistry) (agentId : String) : findById registry agentId = find agentId (rows registry.agents) := by
  unfold findById
  induction registry.agents with
  | nil => rfl
  | cons agent rest ih =>
    rw [List.find?_cons,rows,List.map_cons,find]
    by_cases same : agent.id = agentId
    · simp [same]
    · simp only [same,decide_false,if_false]
      exact ih

theorem set_absent (byId : Dict String RegistryEntry) (agent : RegistryEntry) (absent : agent.id ∉ byId.keys) :
    (byId.set agent.id agent).entries = byId.entries ++ [(agent.id,agent)] := assign_absent agent.id agent absent

theorem indexUnique_ok {source : String} {byId next : Dict String RegistryEntry} {agent : RegistryEntry} :
    indexUnique source byId agent = .ok next ↔ agent.id ∉ byId.keys ∧ byId.set agent.id agent = next := by
  unfold indexUnique
  rw [Dict.mem_keys_iff]
  split
  · rename_i taken
    simp [taken]
  · rename_i fresh
    simp [fresh]

-- The index is built exactly when no id comes twice, and then it is the list.
theorem index_ok {source : String} {agents : List RegistryEntry} {byId final : Dict String RegistryEntry} :
    agents.foldlM (indexUnique source) byId = .ok final ↔
      (byId.keys ++ ids agents).Nodup ∧ final.entries = byId.entries ++ rows agents := by
  induction agents generalizing byId with
  | nil =>
    simp only [List.foldlM_nil,ids,rows,List.map_nil,List.append_nil,pure,Except.pure,Except.ok.injEq]
    constructor
    · rintro rfl
      exact ⟨byId.distinct,rfl⟩
    · rintro ⟨-,same⟩
      exact Dict.ext same.symm
  | cons agent rest ih =>
    rw [List.foldlM_cons]
    have keys : byId.keys ++ ids (agent :: rest) = byId.keys ++ [agent.id] ++ ids rest := by simp [ids]
    rw [keys]
    cases step : indexUnique source byId agent with
    | error text =>
      refine ⟨(fun impossible => by cases impossible),?_⟩
      rintro ⟨distinct,-⟩
      have fresh : agent.id ∉ byId.keys := by
        intro seen
        exact (List.nodup_append.mp (List.nodup_append.mp distinct).1).2.2 _ seen _ (by simp) rfl
      rw [indexUnique_ok.mpr ⟨fresh,rfl⟩] at step
      cases step
    | ok next =>
      obtain ⟨fresh,rfl⟩ := indexUnique_ok.mp step
      have entries := set_absent byId agent fresh
      refine Iff.trans ih ?_
      have nextKeys : (byId.set agent.id agent).keys = byId.keys ++ [agent.id] := by
        rw [Dict.keys,entries,List.map_append]
        rfl
      rw [nextKeys,entries]
      simp [rows]

theorem agentsByUniqueId_ok {source : String} {agents : List RegistryEntry} {byId : Dict String RegistryEntry} :
    agentsByUniqueId agents source = .ok byId ↔ (ids agents).Nodup ∧ byId.entries = rows agents := by
  unfold agentsByUniqueId
  rw [index_ok]
  simp [Dict.empty,Dict.keys]

theorem get_findById {registry : LiteRegistry} {byId : Dict String RegistryEntry} (same : byId.entries = rows registry.agents) (agentId : String) :
    byId.get agentId = findById registry agentId := by
  rw [findById_rows,Dict.get,same]

theorem findById_id {registry : LiteRegistry} {agentId : String} {entry : RegistryEntry} (found : findById registry agentId = some entry) :
    entry.id = agentId ∧ entry ∈ registry.agents := by
  unfold findById at found
  refine ⟨?_,List.mem_of_find?_eq_some found⟩
  simpa using List.find?_some found

theorem findById_mem {registry : LiteRegistry} {entry : RegistryEntry} (distinct : (ids registry.agents).Nodup)
    (member : entry ∈ registry.agents) : findById registry entry.id = some entry := by
  rw [findById_rows]
  refine find_of_mem ?_ (List.mem_map_of_mem member)
  rw [rows_keys]
  exact distinct

theorem findById_none {registry : LiteRegistry} {agentId : String} : findById registry agentId = none ↔ agentId ∉ ids registry.agents := by
  rw [findById_rows,find_none_iff,rows_keys]
end Index

section Eligible
variable {python : Python} {base head : LiteRegistry}

theorem entryRefusal_none {baseById : Dict String RegistryEntry} (same : baseById.entries = rows base.agents) (agent : RegistryEntry) :
    entryRefusal python baseById (agent.id,agent) = none ↔
      (agent.id ∉ ids base.agents → isVerified agent = false) ∧
      ∀ prev, findById base agent.id = some prev → (entryPayload python prev).same (entryPayload python agent) = true := by
  unfold entryRefusal
  rw [get_findById same]
  cases found : findById base agent.id with
  | none =>
    have fresh := findById_none.mp found
    simp [fresh]
  | some prev =>
    have listed : agent.id ∈ ids base.agents := by
      by_contra fresh
      rw [findById_none.mpr fresh] at found
      cases found
    simp [listed]

theorem eligible_addOnly {text : String} (passed : compareRegistries python base head = (true,text)) : AddOnly python base head := by
  unfold compareRegistries at passed
  split at passed
  · cases passed
  · rename_i baseById baseIndexed
    split at passed
    · cases passed
    · rename_i headById headIndexed
      obtain ⟨baseDistinct,baseRows⟩ := agentsByUniqueId_ok.mp baseIndexed
      obtain ⟨distinct,headRows⟩ := agentsByUniqueId_ok.mp headIndexed
      split at passed
      · cases passed
      · rename_i unrefused
        split at passed
        · cases passed
        · rename_i present
          rw [headRows,List.findSome?_eq_none_iff] at unrefused
          rw [List.find?_eq_none] at present
          have fine : ∀ agent ∈ head.agents, entryRefusal python baseById (agent.id,agent) = none :=
            fun agent member => unrefused _ (List.mem_map_of_mem member)
          refine ⟨baseDistinct,distinct,?_,fun agent member => ((entryRefusal_none baseRows agent).mp (fine agent member)).1⟩
          intro agent member
          have listed : agent.id ∈ baseById.keys := by
            rw [Dict.keys,baseRows,rows_keys]
            exact List.mem_map_of_mem member
          have there := present _ listed
          rw [get_findById headRows] at there
          cases found : findById head agent.id with
          | none => simp [found] at there
          | some entry =>
            obtain ⟨named,inside⟩ := findById_id found
            have unchanged := ((entryRefusal_none baseRows entry).mp (fine entry inside)).2 agent
            rw [named] at unchanged
            exact ⟨entry,rfl,unchanged (findById_mem baseDistinct member)⟩

theorem addOnly_eligible (update : AddOnly python base head) : compareRegistries python base head = (true,eligible) := by
  obtain ⟨baseById,baseRows⟩ : ∃ byId : Dict String RegistryEntry, byId.entries = rows base.agents :=
    ⟨⟨rows base.agents,by rw [rows_keys]; exact update.baseDistinct⟩,rfl⟩
  obtain ⟨headById,headRows⟩ : ∃ byId : Dict String RegistryEntry, byId.entries = rows head.agents :=
    ⟨⟨rows head.agents,by rw [rows_keys]; exact update.distinct⟩,rfl⟩
  have unrefused : headById.entries.findSome? (entryRefusal python baseById) = none := by
    rw [headRows,List.findSome?_eq_none_iff]
    intro item member
    obtain ⟨agent,inside,rfl⟩ := List.mem_map.mp member
    refine (entryRefusal_none baseRows agent).mpr ⟨update.unverified agent inside,?_⟩
    intro prev found
    obtain ⟨named,listed⟩ := findById_id found
    obtain ⟨entry,there,unchanged⟩ := update.kept prev listed
    rw [named,findById_mem update.distinct inside] at there
    cases there
    exact unchanged
  have present : baseById.keys.find? (fun aid => (headById.get aid).isNone) = none := by
    rw [List.find?_eq_none]
    intro aid member
    rw [Dict.keys,baseRows,rows_keys] at member
    obtain ⟨agent,inside,rfl⟩ := List.mem_map.mp member
    obtain ⟨entry,there,-⟩ := update.kept agent inside
    rw [get_findById headRows,there]
    simp
  unfold compareRegistries
  rw [agentsByUniqueId_ok.mpr ⟨update.baseDistinct,baseRows⟩,agentsByUniqueId_ok.mpr ⟨update.distinct,headRows⟩]
  simp only [unrefused,present,eligible]

-- What `evaluate` finds eligible are two documents that load, the second an add-only update of the first.
theorem evaluate_eligible {basePath headPath : Except Failure Value} {text : String}
    (passed : evaluate python basePath headPath = .ok (true,text)) :
    ∃ base head, load python basePath = .ok base ∧ load python headPath = .ok head ∧ AddOnly python base head := by
  unfold evaluate at passed
  split at passed
  · cases passed
  · cases passed
  · rename_i base baseLoaded
    split at passed
    · cases passed
    · cases passed
    · rename_i head headLoaded
      exact ⟨base,head,baseLoaded,headLoaded,eligible_addOnly (Except.ok.inj passed)⟩

theorem eligible_evaluate {basePath headPath : Except Failure Value} (baseLoaded : load python basePath = .ok base)
    (headLoaded : load python headPath = .ok head) (update : AddOnly python base head) :
    evaluate python basePath headPath = .ok (true,eligible) := by
  unfold evaluate
  rw [baseLoaded,headLoaded]
  simp only [addOnly_eligible update]
end Eligible

section Merge
variable (python : Python)

theorem byIdOf_entries {agents : List RegistryEntry} (distinct : (ids agents).Nodup) : (byIdOf agents).entries = rows agents := by
  induction agents using List.reverseRecOn with
  | nil => rfl
  | append_singleton agents agent ih =>
    rw [ids,List.map_append,List.nodup_append] at distinct
    obtain ⟨earlier,-,apart⟩ := distinct
    have entries := ih earlier
    have fresh : agent.id ∉ (byIdOf agents).keys := by
      rw [Dict.keys,entries,rows_keys]
      intro seen
      exact apart _ seen _ (by simp) rfl
    rw [byIdOf,List.foldl_append,List.foldl_cons,List.foldl_nil,← byIdOf,set_absent _ agent fresh,entries]
    simp [rows]

-- The new entry is added to the agents, which come out in the order of their ids, each id once.
theorem mergeLiteRegistry_ok {registry : LiteRegistry} {newEntry : RegistryEntry} (now : DateTime)
    (distinct : (ids registry.agents).Nodup) (fresh : newEntry.id ∉ ids registry.agents) :
    ∃ merged, mergeLiteRegistry python registry newEntry now = .ok merged ∧ merged.agents.Perm (registry.agents ++ [newEntry]) ∧
      merged.agents.Pairwise (fun a b => a.id < b.id) := by
  have entries := byIdOf_entries distinct
  have absent : newEntry.id ∉ (byIdOf registry.agents).keys := by
    rw [Dict.keys,entries,rows_keys]
    exact fresh
  have agents : ((byIdOf registry.agents).set newEntry.id newEntry).values = registry.agents ++ [newEntry] := by
    rw [Dict.values,set_absent _ newEntry absent,entries,List.map_append,rows_values]
    rfl
  have apart : (ids (registry.agents ++ [newEntry])).Nodup := by
    rw [ids,List.map_append,List.nodup_append]
    refine ⟨distinct,List.nodup_singleton _,?_⟩
    intro a listed b new
    cases List.mem_singleton.mp new
    exact fun same => fresh (same ▸ listed)
  unfold mergeLiteRegistry
  rw [Dict.mem_keys_iff] at absent
  rw [if_neg absent,agents]
  refine ⟨_,rfl,List.perm_insertionSort _ _,?_⟩
  have sorted := List.pairwise_insertionSort (fun a b : RegistryEntry => a.id ≤ b.id) (registry.agents ++ [newEntry])
  have different := ((List.perm_insertionSort (fun a b : RegistryEntry => a.id ≤ b.id) (registry.agents ++ [newEntry])).map
    RegistryEntry.id).nodup_iff.mpr apart
  rw [List.nodup_iff_pairwise_ne,List.pairwise_map] at different
  exact List.Pairwise.imp (fun both => lt_of_le_of_ne both.1 both.2) (sorted.and different)

theorem merged_addOnly {base merged : LiteRegistry} {entry : RegistryEntry} (distinct : (ids base.agents).Nodup)
    (unverified : isVerified entry = false) (perm : merged.agents.Perm (base.agents ++ [entry]))
    (sorted : merged.agents.Pairwise (fun a b => a.id < b.id)) : AddOnly python base merged := by
  have mergedDistinct : (ids merged.agents).Nodup := by
    rw [ids,List.nodup_iff_pairwise_ne,List.pairwise_map]
    exact sorted.imp (fun less => ne_of_lt less)
  refine ⟨distinct,mergedDistinct,?_,?_⟩
  · intro agent member
    have inside : agent ∈ merged.agents := perm.mem_iff.mpr (List.mem_append_left _ member)
    exact ⟨agent,findById_mem mergedDistinct inside,Value.same_refl _⟩
  · intro agent member fresh
    rcases List.mem_append.mp (perm.mem_iff.mp member) with listed | new
    · exact absurd (List.mem_map_of_mem listed) fresh
    · cases List.mem_singleton.mp new
      exact unverified
end Merge

-- What is merged without review is an add-only update; and each unverified entry with a new id is merged
-- without review.
theorem auto_merge_safe_complete (python : Python) :
    (∀ basePath headPath text, evaluate python basePath headPath = .ok (true,text) →
      ∃ base head, load python basePath = .ok base ∧ load python headPath = .ok head ∧ AddOnly python base head) ∧
    ∀ base entry now, (ids base.agents).Nodup → isVerified entry = false → entry.id ∉ ids base.agents →
      ∃ merged, mergeLiteRegistry python base entry now = .ok merged ∧ merged.agents.Pairwise (fun a b => a.id < b.id) ∧
        ∀ basePath headPath, load python basePath = .ok base → load python headPath = .ok merged →
          evaluate python basePath headPath = .ok (true,eligible) := by
  refine ⟨fun basePath headPath text passed => evaluate_eligible passed,?_⟩
  intro base entry now distinct unverified fresh
  obtain ⟨merged,made,perm,sorted⟩ := mergeLiteRegistry_ok python now distinct fresh
  refine ⟨merged,made,sorted,?_⟩
  intro basePath headPath baseLoaded headLoaded
  exact eligible_evaluate baseLoaded headLoaded (merged_addOnly python distinct unverified perm sorted)

-- `model_dump(mode="json")` of a registry.
def document (python : Python) (registry : LiteRegistry) : Value :=
  .dict [(.str "version",.str registry.version),(.str "updated_at",.str (python.jsonDatetime registry.updatedAt)),
    (.str "agents",.list (registry.agents.map (entryPayload python)))]

def entryOf (id : String) : RegistryEntry :=
  ⟨id,"Echo","Echoes",⟨[("http","https://echo.test/asap")],by decide⟩,["echo"],none,[],"2.2.0",none,none,none,some ⟨.pending,none⟩,none,none,[],[]⟩

theorem noon_time : 12 < 24 ∧ 0 < 60 ∧ 0 < 60 ∧ 0 < 1000000 := by decide
theorem noon_offset : ∀ delta ∈ some (0 : Int), -86400000000 < delta ∧ delta < 86400000000 := by decide

def noon : DateTime := ⟨2026,1,1,12,0,0,0,some 0,by decide,noon_time,noon_offset⟩

def written : LiteRegistry := ⟨"1.0",noon,[entryOf "urn:asap:agent:late",entryOf "urn:asap:agent:early"]⟩

def enlarged : LiteRegistry := ⟨"1.0",noon,["urn:asap:agent:early","urn:asap:agent:late","urn:asap:agent:mid"].map entryOf⟩

-- The two documents are read back as what they were written from.
def dumping : Python := ⟨DateTime.isoformat,fun _ => .error (.escaped ""),fun text => "'" ++ text ++ "'"⟩

def twoDocuments : Python := { dumping with
  validate := fun raw =>
    if raw.same (document dumping written) then .ok written
    else if raw.same (document dumping enlarged) then .ok enlarged
    else .error (.caught "1 validation error for LiteRegistry") }

theorem load_document (registry : LiteRegistry) :
    load twoDocuments (.ok (document dumping registry)) =
      if (document dumping registry).same (document dumping written) then .ok written
      else if (document dumping registry).same (document dumping enlarged) then .ok enlarged
      else .error (.caught "1 validation error for LiteRegistry") := rfl

theorem written_loads : load twoDocuments (.ok (document dumping written)) = .ok written := by
  rw [load_document,if_pos (Value.same_refl _)]

theorem enlarged_loads : load twoDocuments (.ok (document dumping enlarged)) = .ok enlarged := by
  have different : ¬ (document dumping enlarged).same (document dumping written) = true := by decide +kernel
  rw [load_document,if_neg different,if_pos (Value.same_refl _)]

theorem auto_merge_mid :
    mergeLiteRegistry twoDocuments written (entryOf "urn:asap:agent:mid") noon = .ok enlarged ∧
      evaluate twoDocuments (.ok (document dumping written)) (.ok (document dumping enlarged)) = .ok (true,eligible) := by
  have made : mergeLiteRegistry twoDocuments written (entryOf "urn:asap:agent:mid") noon = .ok enlarged := rfl
  obtain ⟨merged,same,-,passes⟩ := (auto_merge_safe_complete twoDocuments).2 written (entryOf "urn:asap:agent:mid") noon
    (by decide) (by decide) (by decide)
  rw [made] at same
  cases same
  exact ⟨made,passes _ _ written_loads enlarged_loads⟩

end Asap.RegistryMerge
