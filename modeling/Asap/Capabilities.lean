import Asap.AgentIdentity

namespace Asap.Capabilities
open OrderedDict PythonValue AgentIdentity

inductive GrantStatus where
  | active
  | pending
  | denied
  deriving DecidableEq

structure CapabilityDefinition where
  name : String
  description : String

structure CapabilityGrant where
  capability : String
  status : GrantStatus := .pending
  constraints : Option (List (Key × Value)) := none
  grantedBy : Option String := none
  reason : Option String := none
  expiresAt : Option Int := none

def constraintsValue : Option (List (Key × Value)) → Value
  | none => .none
  | some items => .dict items

-- The `dict[str, Any] | None` field; `none` is a ValidationError.
def constraintsField : Value → Option (Option (List (Key × Value)))
  | .none => some none
  | .dict items => if items.all (fun item => item.1.string.isSome) then some (some items) else none
  | _ => none

-- `_definitions` and `_grants`: a grant is stored under its own capability.
structure CapabilityRegistry where
  definitions : Dict String CapabilityDefinition
  grants : Dict String (Dict String CapabilityGrant)
  keyed : ∀ agentId name grant, ((grants.get agentId).getD .empty).get name = some grant → grant.capability = name

theorem ungranted_keyed (agentId name : String) (grant : CapabilityGrant)
    (found : (((Dict.empty : Dict String (Dict String CapabilityGrant)).get agentId).getD .empty).get name = some grant) :
    grant.capability = name := by
  simp at found

def CapabilityRegistry.describe (r : CapabilityRegistry) (name : String) : Option CapabilityDefinition :=
  r.definitions.get name

def CapabilityRegistry.grantsOf (r : CapabilityRegistry) (agentId : String) : Dict String CapabilityGrant :=
  (r.grants.get agentId).getD .empty

def CapabilityRegistry.getGrants (r : CapabilityRegistry) (agentId : String) : List CapabilityGrant :=
  (r.grantsOf agentId).values

def CapabilityRegistry.put (r : CapabilityRegistry) (agentId : String) (grant : CapabilityGrant) : CapabilityRegistry where
  definitions := r.definitions
  grants := r.grants.set agentId ((r.grantsOf agentId).set grant.capability grant)
  keyed owner name stored found := by
    rw [Dict.get_set] at found
    split at found
    · simp only [Option.getD_some,Dict.get_set] at found
      split at found
      · rename_i same
        cases found
        exact same
      · exact r.keyed agentId name stored found
    · exact r.keyed owner name stored found

theorem grantsOf_put (r : CapabilityRegistry) (agentId : String) (grant : CapabilityGrant) :
    (r.put agentId grant).grantsOf agentId = (r.grantsOf agentId).set grant.capability grant := by
  simp [CapabilityRegistry.grantsOf,CapabilityRegistry.put,Dict.get_set_self]

-- `grant`: building the model comes first, so a refused one stores nothing.
def CapabilityRegistry.grant (r : CapabilityRegistry) (agentId capability : String) (constraints : Value)
    (grantedBy : Option String) (status : GrantStatus) (reason : Option String) : Option (CapabilityRegistry × CapabilityGrant) :=
  (constraintsField constraints).map (fun checked =>
    let g := {capability,status,constraints := checked,grantedBy,reason,expiresAt := none}
    (r.put agentId g,g))

def escalationRequiresUserConsent (host : HostIdentity) (requestedCapabilityNames : List String) : Bool :=
  if host.status ≠ .active then true
  else !requestedCapabilityNames.all (fun name => decide (name ∈ host.defaultCapabilities))

def autoGrantWouldReplaceExistingGrant (existing : Option CapabilityGrant) (requestedConstraints : Value) : Bool :=
  match existing with
  | none => false
  | some grant =>
    if grant.status ≠ .active ∨ (constraintsValue grant.constraints).same requestedConstraints = false then true
    else grant.expiresAt.isSome

-- A requested item that has passed the parser: a dictionary with a name.
structure Spec where
  fields : Dict String Value
  name : String
  named : fields.get "name" = some (.str name)
  nonempty : name ≠ ""

def Spec.constraints (spec : Spec) : Value := (spec.fields.get "constraints").getD .none

inductive RawCapability where
  | str (value : String)
  | dict (fields : Dict String Value)
  | other

theorem named_distinct (name : String) : ([("name",Value.str name)].map Prod.fst).Nodup := by simp

def namedSpec (name : String) (nonempty : name ≠ "") : Spec where
  fields := ⟨[("name",.str name)],named_distinct name⟩
  name := name
  named := by simp [Dict.get,find]
  nonempty := nonempty

def dictSpec (fields : Dict String Value) : Option Spec :=
  match named : fields.get "name" with
  | some (.str name) => if nonempty : name ≠ "" then some ⟨fields,name,named,nonempty⟩ else none
  | _ => none

def RawCapability.spec : RawCapability → Option Spec
  | .str value => if visible : strip value ≠ "" then some (namedSpec value (fun empty => visible (by subst empty; decide))) else none
  | .dict fields => dictSpec fields
  | .other => none

-- `none` where the body has no list of capabilities.
def parseCapabilityRegistrationBody (requested : Option (List RawCapability)) : List String × List Spec :=
  let specs := (requested.getD []).filterMap RawCapability.spec
  (specs.map Spec.name,specs)

def grantsByName (grants : List CapabilityGrant) : Dict String CapabilityGrant :=
  grants.foldl (fun byName grant => byName.set grant.capability grant) .empty

def needsConsent (host : HostIdentity) (existing : Dict String CapabilityGrant) (spec : Spec) : Bool :=
  escalationRequiresUserConsent host [strip spec.name] ||
    autoGrantWouldReplaceExistingGrant (existing.get (strip spec.name)) spec.constraints

-- Policy and existing grants are looked up under the stripped name; the copied
-- spec keeps the name as it came.
def partitionEscalationCapabilitySpecs (host : HostIdentity) (specs : List Spec) (existingGrants : List CapabilityGrant) :
    List Spec × List Spec :=
  let visible := specs.filter (fun spec => decide (strip spec.name ≠ ""))
  let existing := grantsByName existingGrants
  (visible.filter (needsConsent host existing),visible.filter (fun spec => !needsConsent host existing spec))

structure AppliedGrant where
  capability : String
  status : GrantStatus
  reason : Option String

def appliedGrantPayload (grant : CapabilityGrant) : AppliedGrant :=
  ⟨grant.capability,grant.status,grant.reason.filter (fun text => decide (text ≠ ""))⟩

-- `repr` is Python's, of the capability's name.
variable (repr : String → String)

def grantSpec (r : CapabilityRegistry) (agentId hostId : String) (spec : Spec) : Option (CapabilityRegistry × CapabilityGrant) :=
  match r.describe spec.name with
  | some _ => r.grant agentId spec.name spec.constraints (some hostId) .active none
  | none => r.grant agentId spec.name .none (some hostId) .denied (some ("capability " ++ repr spec.name ++ " not found"))

-- The loop, with the existing grants as they were before it.
def applyLoop (agentId hostId : String) (existing : Dict String CapabilityGrant) :
    CapabilityRegistry → List Spec → List AppliedGrant → CapabilityRegistry × Option (List AppliedGrant)
  | r,[],payloads => (r,some payloads)
  | r,spec :: rest,payloads =>
    match existing.get spec.name with
    | some grant =>
      if autoGrantWouldReplaceExistingGrant (some grant) spec.constraints then
        match grantSpec repr r agentId hostId spec with
        | none => (r,none)
        | some (next,g) => applyLoop agentId hostId existing next rest (payloads ++ [appliedGrantPayload g])
      else applyLoop agentId hostId existing r rest (payloads ++ [appliedGrantPayload grant])
    | none =>
      match grantSpec repr r agentId hostId spec with
      | none => (r,none)
      | some (next,g) => applyLoop agentId hostId existing next rest (payloads ++ [appliedGrantPayload g])

-- The second component is `none` when a constraints value is refused; the grants
-- written before it stay.
def applyCapabilitySpecsToRegistry (r : CapabilityRegistry) (agentId hostId : String) (specs : List Spec) :
    CapabilityRegistry × Option (List AppliedGrant) :=
  applyLoop repr agentId hostId (grantsByName (r.getGrants agentId)) r specs []

-- The grant that a spec leads to, `none` when its constraints are refused.
def granted (definition : Option CapabilityDefinition) (hostId : String) (spec : Spec) : Option CapabilityGrant :=
  match definition with
  | some _ => (constraintsField spec.constraints).map (fun constraints =>
      {capability := spec.name,status := .active,constraints,grantedBy := some hostId})
  | none => some {
      capability := spec.name
      status := .denied
      grantedBy := some hostId
      reason := some ("capability " ++ repr spec.name ++ " not found")}

-- What the loop does with one spec, judged on the registry before the loop.
inductive Verdict where
  | kept (grant : CapabilityGrant)
  | stored (grant : CapabilityGrant)
  | raised

def storing : Option CapabilityGrant → Verdict
  | some grant => .stored grant
  | none => .raised

def verdict (r : CapabilityRegistry) (agentId hostId : String) (spec : Spec) : Verdict :=
  match (r.grantsOf agentId).get spec.name with
  | none => storing (granted repr (r.describe spec.name) hostId spec)
  | some grant =>
    if autoGrantWouldReplaceExistingGrant (some grant) spec.constraints then
      storing (granted repr (r.describe spec.name) hostId spec)
    else .kept grant

theorem grantSpec_granted (r : CapabilityRegistry) (agentId hostId : String) (spec : Spec) :
    grantSpec repr r agentId hostId spec =
      (granted repr (r.describe spec.name) hostId spec).map (fun grant => (r.put agentId grant,grant)) := by
  unfold grantSpec granted CapabilityRegistry.grant
  cases r.describe spec.name with
  | none => rfl
  | some definition => cases constraintsField spec.constraints <;> rfl

theorem granted_capability (definition : Option CapabilityDefinition) (hostId : String) (spec : Spec)
    (written : granted repr definition hostId spec = some grant) : grant.capability = spec.name := by
  unfold granted at written
  cases definition with
  | none => cases written; rfl
  | some _ =>
    obtain ⟨constraints,_,rfl⟩ := Option.map_eq_some_iff.mp written
    rfl

theorem storing_stored (stored : storing outcome = .stored grant) : outcome = some grant := by
  cases outcome with
  | none => cases stored
  | some _ => cases stored; rfl

theorem storing_not_kept (outcome : Option CapabilityGrant) (grant : CapabilityGrant) : storing outcome ≠ .kept grant := by
  cases outcome <;> simp [storing]

theorem grantsByName_fold (rows : List (String × CapabilityGrant)) (byName : Dict String CapabilityGrant) (name : String)
    (distinct : (rows.map Prod.fst).Nodup) (keyed : ∀ row ∈ rows, row.2.capability = row.1) :
    ((rows.map Prod.snd).foldl (fun byName grant => byName.set grant.capability grant) byName).get name =
      (find name rows).or (byName.get name) := by
  induction rows generalizing byName with
  | nil => simp [find]
  | cons row rest ih =>
    obtain ⟨fresh,distinct⟩ := List.nodup_cons.mp distinct
    have own : row.2.capability = row.1 := keyed row (by simp)
    simp only [List.map_cons,List.foldl_cons,own]
    rw [ih _ distinct (fun other inside => keyed other (List.mem_cons_of_mem _ inside)),Dict.get_set]
    have head : find name (row :: rest) = if row.1 = name then some row.2 else find name rest := rfl
    rw [head]
    by_cases same : row.1 = name
    · have absent : find name rest = none := by
        rw [find_none_iff,← same]
        exact fresh
      simp [same,absent]
    · simp [same]

theorem grantsByName_get (r : CapabilityRegistry) (agentId name : String) :
    (grantsByName (r.getGrants agentId)).get name = (r.grantsOf agentId).get name := by
  have rows := grantsByName_fold (r.grantsOf agentId).entries .empty name (r.grantsOf agentId).distinct (by
    intro row inside
    exact r.keyed agentId row.1 row.2 ((Dict.mem_iff _).mp inside))
  rw [Dict.get_empty,Option.or_none] at rows
  exact rows

-- The grant the loop leaves under a name, when it writes one.
def lastStored (r : CapabilityRegistry) (agentId hostId name : String) : List Spec → Option CapabilityGrant
  | [] => none
  | spec :: rest =>
    match verdict repr r agentId hostId spec with
    | .raised => none
    | .kept _ => lastStored r agentId hostId name rest
    | .stored grant => (lastStored r agentId hostId name rest).or (if spec.name = name then some grant else none)

-- The specs the loop comes to before one raises.
def reached (r : CapabilityRegistry) (agentId hostId : String) : List Spec → List Spec
  | [] => []
  | spec :: rest =>
    match verdict repr r agentId hostId spec with
    | .raised => []
    | _ => spec :: reached r agentId hostId rest

theorem applyLoop_step (r before : CapabilityRegistry) (agentId hostId : String) (spec : Spec) (rest : List Spec)
    (payloads : List AppliedGrant) (same : ∀ name, r.describe name = before.describe name) :
    applyLoop repr agentId hostId (grantsByName (before.getGrants agentId)) r (spec :: rest) payloads =
      match verdict repr before agentId hostId spec with
      | .raised => (r,none)
      | .kept grant => applyLoop repr agentId hostId (grantsByName (before.getGrants agentId)) r rest
          (payloads ++ [appliedGrantPayload grant])
      | .stored grant => applyLoop repr agentId hostId (grantsByName (before.getGrants agentId)) (r.put agentId grant) rest
          (payloads ++ [appliedGrantPayload grant]) := by
  conv_lhs => unfold applyLoop
  unfold verdict
  rw [grantsByName_get,grantSpec_granted,same]
  cases (before.grantsOf agentId).get spec.name with
  | none => cases granted repr (before.describe spec.name) hostId spec <;> rfl
  | some grant =>
    by_cases replaces : autoGrantWouldReplaceExistingGrant (some grant) spec.constraints
    · simp only [replaces,if_true]
      cases granted repr (before.describe spec.name) hostId spec <;> rfl
    · simp [replaces]

theorem verdict_stored (r : CapabilityRegistry) (agentId hostId : String) (spec : Spec)
    (stored : verdict repr r agentId hostId spec = .stored grant) :
    granted repr (r.describe spec.name) hostId spec = some grant ∧
      ∀ existing, (r.grantsOf agentId).get spec.name = some existing →
        autoGrantWouldReplaceExistingGrant (some existing) spec.constraints = true := by
  unfold verdict at stored
  split at stored
  · rename_i absent
    refine ⟨storing_stored stored,?_⟩
    intro existing found
    rw [absent] at found
    cases found
  · rename_i existing found
    split at stored
    · rename_i replaces
      refine ⟨storing_stored stored,?_⟩
      intro other same
      rw [found] at same; cases same
      exact replaces
    · cases stored

-- Each name ends with the last grant stored under it, or as it was.
theorem applyLoop_get (before r : CapabilityRegistry) (agentId hostId name : String) (specs : List Spec)
    (payloads : List AppliedGrant) (same : ∀ name, r.describe name = before.describe name) :
    ((applyLoop repr agentId hostId (grantsByName (before.getGrants agentId)) r specs payloads).1.grantsOf agentId).get name =
      (lastStored repr before agentId hostId name specs).or ((r.grantsOf agentId).get name) := by
  induction specs generalizing r payloads with
  | nil => simp [applyLoop,lastStored]
  | cons spec rest ih =>
    rw [applyLoop_step repr r before agentId hostId spec rest payloads same]
    unfold lastStored
    cases outcome : verdict repr before agentId hostId spec with
    | raised => simp
    | kept grant => exact ih r _ same
    | stored grant =>
      have own := granted_capability repr _ hostId spec (verdict_stored repr before agentId hostId spec outcome).1
      simp only [ih (r.put agentId grant) _ same,grantsOf_put,Dict.get_set,own]
      by_cases here : spec.name = name <;> simp [here]

theorem lastStored_reached (r : CapabilityRegistry) (agentId hostId name : String) (specs : List Spec)
    (stored : lastStored repr r agentId hostId name specs = some grant) :
    ∃ spec ∈ reached repr r agentId hostId specs, spec.name = name ∧ verdict repr r agentId hostId spec = .stored grant := by
  induction specs with
  | nil => cases stored
  | cons spec rest ih =>
    unfold lastStored at stored
    unfold reached
    cases outcome : verdict repr r agentId hostId spec with
    | raised => simp [outcome] at stored
    | kept _ =>
      obtain ⟨other,inside,named,judged⟩ := ih (by simpa [outcome] using stored)
      exact ⟨other,List.mem_cons_of_mem _ inside,named,judged⟩
    | stored written =>
      simp only [outcome] at stored
      cases later : lastStored repr r agentId hostId name rest with
      | some last =>
        rw [later] at stored; cases stored
        obtain ⟨other,inside,named,judged⟩ := ih later
        exact ⟨other,List.mem_cons_of_mem _ inside,named,judged⟩
      | none =>
        rw [later,Option.none_or] at stored
        split at stored
        · rename_i named
          cases stored
          exact ⟨spec,by simp,named,outcome⟩
        · cases stored

theorem reached_lastStored (r : CapabilityRegistry) (agentId hostId : String) (specs : List Spec) (spec : Spec)
    (inside : spec ∈ reached repr r agentId hostId specs) (judged : verdict repr r agentId hostId spec = .stored grant) :
    ∃ last, lastStored repr r agentId hostId spec.name specs = some last := by
  induction specs with
  | nil => cases inside
  | cons head rest ih =>
    unfold reached at inside
    unfold lastStored
    cases outcome : verdict repr r agentId hostId head with
    | raised => simp [outcome] at inside
    | kept _ =>
      simp only [outcome,List.mem_cons] at inside
      rcases inside with rfl | later
      · rw [judged] at outcome; cases outcome
      · exact ih later
    | stored written =>
      simp only [outcome,List.mem_cons] at inside
      rcases inside with rfl | later
      · cases lastStored repr r agentId hostId spec.name rest with
        | none => exact ⟨written,by simp⟩
        | some last => exact ⟨last,by simp⟩
      · obtain ⟨last,found⟩ := ih later
        exact ⟨last,by simp [found]⟩

theorem reached_judged (r : CapabilityRegistry) (agentId hostId : String) (specs : List Spec) (spec : Spec)
    (inside : spec ∈ reached repr r agentId hostId specs) :
    spec ∈ specs ∧ verdict repr r agentId hostId spec ≠ .raised := by
  induction specs with
  | nil => cases inside
  | cons head rest ih =>
    unfold reached at inside
    cases outcome : verdict repr r agentId hostId head with
    | raised => simp [outcome] at inside
    | kept _ | stored _ =>
      simp only [outcome,List.mem_cons] at inside
      rcases inside with rfl | later
      · exact ⟨by simp,by simp [outcome]⟩
      · exact ⟨List.mem_cons_of_mem _ (ih later).1,(ih later).2⟩

def acceptable (spec : Spec) : Bool := (constraintsField spec.constraints).isSome

theorem granted_acceptable (definition : Option CapabilityDefinition) (hostId : String) (spec : Spec)
    (fine : acceptable spec = true) : ∃ grant, granted repr definition hostId spec = some grant := by
  unfold acceptable at fine
  obtain ⟨constraints,checked⟩ := Option.isSome_iff_exists.mp fine
  cases definition with
  | none => exact ⟨_,rfl⟩
  | some _ => exact ⟨_,by rw [granted,checked,Option.map_some]⟩

-- Specs whose constraints are objects or absent are all applied, in order.
theorem applyLoop_completes (before r : CapabilityRegistry) (agentId hostId : String) (specs : List Spec)
    (payloads : List AppliedGrant) (same : ∀ name, r.describe name = before.describe name)
    (fine : ∀ spec ∈ specs, acceptable spec = true) :
    ∃ added, (applyLoop repr agentId hostId (grantsByName (before.getGrants agentId)) r specs payloads).2 =
        some (payloads ++ added) ∧ added.map AppliedGrant.capability = specs.map Spec.name := by
  induction specs generalizing r payloads with
  | nil => exact ⟨[],by simp [applyLoop],rfl⟩
  | cons spec rest ih =>
    have later : ∀ other ∈ rest, acceptable other = true := fun other inside => fine other (List.mem_cons_of_mem _ inside)
    obtain ⟨written,leads⟩ := granted_acceptable repr (before.describe spec.name) hostId spec (fine spec (by simp))
    rw [applyLoop_step repr r before agentId hostId spec rest payloads same]
    cases outcome : verdict repr before agentId hostId spec with
    | raised =>
      unfold verdict at outcome
      split at outcome
      · rw [leads] at outcome; cases outcome
      · split at outcome
        · rw [leads] at outcome; cases outcome
        · cases outcome
    | kept grant =>
      obtain ⟨added,done,names⟩ := ih r (payloads ++ [appliedGrantPayload grant]) same later
      refine ⟨appliedGrantPayload grant :: added,by simpa using done,?_⟩
      have own : grant.capability = spec.name := by
        unfold verdict at outcome
        split at outcome
        · exact absurd outcome (storing_not_kept _ grant)
        · rename_i existing found
          split at outcome
          · exact absurd outcome (storing_not_kept _ grant)
          · cases outcome
            exact before.keyed agentId spec.name grant found
      simp [appliedGrantPayload,own,names]
    | stored grant =>
      have own := granted_capability repr _ hostId spec (verdict_stored repr before agentId hostId spec outcome).1
      obtain ⟨added,done,names⟩ := ih (r.put agentId grant) (payloads ++ [appliedGrantPayload grant]) same later
      exact ⟨appliedGrantPayload grant :: added,by simpa using done,by simp [appliedGrantPayload,own,names]⟩

inductive EscalationError where
  | inactiveAgent
  | emptyBody
  | unnamed
  | validation
  deriving DecidableEq

def escalationSpecs (capabilities : List (Dict String Value)) : List Spec :=
  (parseCapabilityRegistrationBody (some (capabilities.map .dict))).2

def autoSpecs (host : HostIdentity) (r : CapabilityRegistry) (agentId : String) (capabilities : List (Dict String Value)) :
    List Spec :=
  (partitionEscalationCapabilitySpecs host (escalationSpecs capabilities) (r.getGrants agentId)).2

-- `_handle_request_capability` up to the approval: the registry it leaves, and the
-- specs that need consent with the payloads of the granted ones.
def requestCapability (host : HostIdentity) (agent : AgentSession) (r : CapabilityRegistry)
    (capabilities : List (Dict String Value)) : CapabilityRegistry × Except EscalationError (List Spec × List AppliedGrant) :=
  if agent.status ≠ .active then (r,.error .inactiveAgent)
  else if capabilities = [] then (r,.error .emptyBody)
  else
    let (names,specs) := parseCapabilityRegistrationBody (some (capabilities.map .dict))
    if names = [] then (r,.error .unnamed)
    else
      let (needsSpecs,auto) := partitionEscalationCapabilitySpecs host specs (r.getGrants agent.agentId)
      match applyCapabilitySpecsToRegistry repr r agent.agentId host.hostId auto with
      | (next,some payloads) => (next,.ok (needsSpecs,payloads))
      | (next,none) => (next,.error .validation)

def Unchanged (before after : CapabilityGrant) : Prop :=
  after.status = before.status ∧ (constraintsValue before.constraints).same (constraintsValue after.constraints) = true ∧
    after.expiresAt = before.expiresAt

def NoSilentEscalation (host : HostIdentity) (agentId : String) (before after : CapabilityRegistry) : Prop :=
  (∀ name grant, (before.grantsOf agentId).get name = some grant →
    ∃ kept, (after.grantsOf agentId).get name = some kept ∧ Unchanged grant kept) ∧
  (∀ name grant, (after.grantsOf agentId).get name = some grant → grant.status = .active →
    (∀ old, (before.grantsOf agentId).get name = some old → old.status ≠ .active) →
    host.status = .active ∧ name ∈ host.defaultCapabilities)

-- What the name as it was sent must meet for the grant to be harmless.
def Harmless (host : HostIdentity) (r : CapabilityRegistry) (agentId : String) (spec : Spec) : Prop :=
  match (r.grantsOf agentId).get spec.name with
  | some grant => autoGrantWouldReplaceExistingGrant (some grant) spec.constraints = false ∨
      r.describe spec.name = none ∧ grant.status = .denied ∧ grant.constraints = none ∧ grant.expiresAt = none
  | none => r.describe spec.name = none ∨ spec.name ∈ host.defaultCapabilities

theorem Unchanged.refl (grant : CapabilityGrant) : Unchanged grant grant := ⟨rfl,Value.same_refl _,rfl⟩

theorem NoSilentEscalation.refl (host : HostIdentity) (agentId : String) (r : CapabilityRegistry) :
    NoSilentEscalation host agentId r r := by
  refine ⟨fun name grant found => ⟨grant,found,.refl grant⟩,?_⟩
  intro name grant found active inactive
  exact absurd active (inactive grant found)

theorem consent_free (host : HostIdentity) (name : String) (free : escalationRequiresUserConsent host [name] = false) :
    host.status = .active ∧ name ∈ host.defaultCapabilities := by
  unfold escalationRequiresUserConsent at free
  split at free
  · cases free
  · rename_i active
    exact ⟨not_not.mp active,by simpa using free⟩

theorem auto_spec (host : HostIdentity) (r : CapabilityRegistry) (agentId : String) (capabilities : List (Dict String Value))
    (spec : Spec) (inside : spec ∈ autoSpecs host r agentId capabilities) :
    host.status = .active ∧ strip spec.name ∈ host.defaultCapabilities ∧
      autoGrantWouldReplaceExistingGrant ((r.grantsOf agentId).get (strip spec.name)) spec.constraints = false := by
  simp only [autoSpecs,partitionEscalationCapabilitySpecs,List.mem_filter,needsConsent,grantsByName_get,
    Bool.not_eq_true',Bool.or_eq_false_iff] at inside
  obtain ⟨active,known⟩ := consent_free host _ inside.2.1
  exact ⟨active,known,inside.2.2⟩

-- The parts agree on a name that stripping does not change.
theorem stripped_harmless (host : HostIdentity) (r : CapabilityRegistry) (agentId : String)
    (capabilities : List (Dict String Value)) (spec : Spec) (inside : spec ∈ autoSpecs host r agentId capabilities)
    (stripped : strip spec.name = spec.name) : Harmless host r agentId spec := by
  obtain ⟨_,known,keeps⟩ := auto_spec host r agentId capabilities spec inside
  rw [stripped] at known keeps
  unfold Harmless
  cases found : (r.grantsOf agentId).get spec.name with
  | none => exact .inr known
  | some grant =>
    rw [found] at keeps
    exact .inl keeps

theorem granted_active (definition : Option CapabilityDefinition) (hostId : String) (spec : Spec)
    (written : granted repr definition hostId spec = some grant) :
    grant.expiresAt = none ∧
      (definition = none ∧ grant.status = .denied ∧ grant.constraints = none ∨
        definition ≠ none ∧ grant.status = .active ∧ constraintsField spec.constraints = some grant.constraints) := by
  unfold granted at written
  cases definition with
  | none =>
    cases written
    exact ⟨rfl,.inl ⟨rfl,rfl,rfl⟩⟩
  | some definition =>
    obtain ⟨constraints,checked,rfl⟩ := Option.map_eq_some_iff.mp written
    exact ⟨rfl,.inr ⟨by simp,rfl,checked⟩⟩

theorem constraintsField_value (checked : constraintsField value = some constraints) : constraintsValue constraints = value := by
  unfold constraintsField at checked
  split at checked
  · cases checked; rfl
  · split at checked
    · cases checked; rfl
    · cases checked
  · cases checked

theorem replaces_changed (grant : CapabilityGrant) (constraints : Option (List (Key × Value)))
    (replaces : autoGrantWouldReplaceExistingGrant (some grant) (constraintsValue constraints) = true)
    (status : grant.status = .active) (same : (constraintsValue grant.constraints).same (constraintsValue constraints) = true)
    (expiry : grant.expiresAt = none) : False := by
  simp [autoGrantWouldReplaceExistingGrant,status,same,expiry] at replaces

section Applied
variable (host : HostIdentity) (r : CapabilityRegistry) (agentId hostId : String) (specs : List Spec)

theorem applied_get (name : String) :
    ((applyCapabilitySpecsToRegistry repr r agentId hostId specs).1.grantsOf agentId).get name =
      (lastStored repr r agentId hostId name specs).or ((r.grantsOf agentId).get name) :=
  applyLoop_get repr r r agentId hostId name specs [] (fun _ => rfl)

theorem stored_verdict (spec : Spec) (inside : spec ∈ reached repr r agentId hostId specs)
    (replaced : ∀ grant, (r.grantsOf agentId).get spec.name = some grant →
      autoGrantWouldReplaceExistingGrant (some grant) spec.constraints = true) :
    ∃ last other, lastStored repr r agentId hostId spec.name specs = some last ∧ other.name = spec.name ∧
      verdict repr r agentId hostId other = .stored last := by
  have judged : ∃ written, verdict repr r agentId hostId spec = .stored written := by
    have completed := (reached_judged repr r agentId hostId specs spec inside).2
    cases outcome : verdict repr r agentId hostId spec with
    | raised => exact absurd outcome completed
    | stored written => exact ⟨written,rfl⟩
    | kept grant =>
      unfold verdict at outcome
      split at outcome
      · exact absurd outcome (storing_not_kept _ grant)
      · rename_i existing found
        rw [if_pos (replaced existing found)] at outcome
        exact absurd outcome (storing_not_kept _ grant)
  obtain ⟨written,judged⟩ := judged
  obtain ⟨last,found⟩ := reached_lastStored repr r agentId hostId specs spec inside judged
  obtain ⟨other,_,named,stored⟩ := lastStored_reached repr r agentId hostId spec.name specs found
  exact ⟨last,other,found,named,stored⟩

theorem harmless_of_silent
    (silent : NoSilentEscalation host agentId r (applyCapabilitySpecsToRegistry repr r agentId hostId specs).1)
    (spec : Spec) (inside : spec ∈ reached repr r agentId hostId specs) : Harmless host r agentId spec := by
  unfold Harmless
  split
  · rename_i grant existing
    by_cases replaces : autoGrantWouldReplaceExistingGrant (some grant) spec.constraints = false
    · exact .inl replaces
    · right
      obtain ⟨last,other,found,named,stored⟩ := stored_verdict repr r agentId hostId specs spec inside (by
        intro known same
        rw [existing] at same; cases same
        simpa using replaces)
      obtain ⟨kept,here,unchanged⟩ := silent.1 spec.name grant existing
      rw [applied_get,found] at here; cases here
      obtain ⟨written,replacing⟩ := verdict_stored repr r agentId hostId other stored
      obtain ⟨expiry,shape⟩ := granted_active repr _ hostId other written
      obtain ⟨status,same,lasting⟩ := unchanged
      rcases shape with ⟨undefined,denied,bare⟩ | ⟨_,active,checked⟩
      · refine ⟨named ▸ undefined,status.symm.trans denied,?_,lasting.symm.trans expiry⟩
        rw [bare] at same
        cases constraints : grant.constraints with
        | none => rfl
        | some items => simp [constraints,constraintsValue,Value.same,Value.number] at same
      · exfalso
        have replaced := replacing grant (named ▸ existing)
        rw [← constraintsField_value checked] at replaced
        exact replaces_changed grant last.constraints replaced (status.symm.trans active) same (lasting.symm.trans expiry)
  · rename_i absent
    by_cases defined : r.describe spec.name = none
    · exact .inl defined
    · right
      obtain ⟨last,other,found,named,stored⟩ := stored_verdict repr r agentId hostId specs spec inside (by
        intro known same
        rw [absent] at same; cases same)
      obtain ⟨_,shape⟩ := granted_active repr _ hostId other (verdict_stored repr r agentId hostId other stored).1
      have active : last.status = .active := by
        rcases shape with ⟨undefined,_⟩ | ⟨_,active,_⟩
        · exact absurd (named ▸ undefined) defined
        · exact active
      have here : ((applyCapabilitySpecsToRegistry repr r agentId hostId specs).1.grantsOf agentId).get spec.name =
          some last := by rw [applied_get,found,Option.some_or]
      exact (silent.2 spec.name last here active (fun old same => by rw [absent] at same; cases same)).2

theorem silent_of_harmless (admitted : ∀ spec ∈ specs, host.status = .active)
    (harmless : ∀ spec ∈ reached repr r agentId hostId specs, Harmless host r agentId spec) :
    NoSilentEscalation host agentId r (applyCapabilitySpecsToRegistry repr r agentId hostId specs).1 := by
  constructor
  · intro name grant existing
    cases found : lastStored repr r agentId hostId name specs with
    | none => exact ⟨grant,by rw [applied_get,found,existing,Option.none_or],.refl grant⟩
    | some last =>
      refine ⟨last,by rw [applied_get,found,Option.some_or],?_⟩
      obtain ⟨spec,inside,rfl,stored⟩ := lastStored_reached repr r agentId hostId name specs found
      obtain ⟨written,replacing⟩ := verdict_stored repr r agentId hostId spec stored
      have sound := harmless spec inside
      unfold Harmless at sound
      rw [existing] at sound
      rcases sound with keeps | ⟨undefined,denied,bare,lasting⟩
      · rw [replacing grant existing] at keeps; cases keeps
      · obtain ⟨expiry,shape⟩ := granted_active repr _ hostId spec written
        rcases shape with ⟨_,status,constraints⟩ | ⟨defined,_⟩
        · exact ⟨status.trans denied.symm,by rw [constraints,bare]; rfl,expiry.trans lasting.symm⟩
        · exact absurd undefined defined
  · intro name grant here active inactive
    rw [applied_get] at here
    cases found : lastStored repr r agentId hostId name specs with
    | none =>
      rw [found,Option.none_or] at here
      exact absurd active (inactive grant here)
    | some last =>
      rw [found,Option.some_or] at here; cases here
      obtain ⟨spec,inside,rfl,stored⟩ := lastStored_reached repr r agentId hostId name specs found
      obtain ⟨written,replacing⟩ := verdict_stored repr r agentId hostId spec stored
      refine ⟨admitted spec (reached_judged repr r agentId hostId specs spec inside).1,?_⟩
      have defined : r.describe spec.name ≠ none := by
        rcases (granted_active repr _ hostId spec written).2 with ⟨_,denied,_⟩ | ⟨defined,_⟩
        · rw [denied] at active; cases active
        · exact defined
      have sound := harmless spec inside
      unfold Harmless at sound
      cases existing : (r.grantsOf agentId).get spec.name with
      | none =>
        rw [existing] at sound
        exact sound.resolve_left defined
      | some old =>
        rw [existing] at sound
        rcases sound with keeps | ⟨undefined,_⟩
        · rw [replacing old existing] at keeps; cases keeps
        · exact absurd undefined defined
end Applied

theorem requestCapability_registry (host : HostIdentity) (agent : AgentSession) (r : CapabilityRegistry)
    (capabilities : List (Dict String Value)) (active : agent.status = .active) :
    (requestCapability repr host agent r capabilities).1 =
      (applyCapabilitySpecsToRegistry repr r agent.agentId host.hostId (autoSpecs host r agent.agentId capabilities)).1 := by
  unfold requestCapability
  rw [if_neg (not_not.mpr active)]
  split
  · rename_i empty
    subst empty
    rfl
  · simp only
    split
    · rename_i unnamed
      have none_left : escalationSpecs capabilities = [] := by
        simpa [parseCapabilityRegistrationBody,escalationSpecs] using unnamed
      simp [autoSpecs,none_left,partitionEscalationCapabilitySpecs,applyCapabilitySpecsToRegistry,applyLoop]
    · unfold autoSpecs escalationSpecs
      split <;> rename_i outcome <;> simp [outcome]

-- One request escalates nothing silently exactly when every granted spec whose name
-- carries outer whitespace is harmless under the name as it was sent.
theorem requestCapability_silent_iff (host : HostIdentity) (agent : AgentSession) (r : CapabilityRegistry)
    (capabilities : List (Dict String Value)) :
    NoSilentEscalation host agent.agentId r (requestCapability repr host agent r capabilities).1 ↔
      (agent.status = .active →
        ∀ spec ∈ reached repr r agent.agentId host.hostId (autoSpecs host r agent.agentId capabilities),
          strip spec.name ≠ spec.name → Harmless host r agent.agentId spec) := by
  by_cases active : agent.status = .active
  · rw [requestCapability_registry repr host agent r capabilities active]
    constructor
    · intro silent _ spec inside _
      exact harmless_of_silent repr host r agent.agentId host.hostId _ silent spec inside
    · intro harmless
      apply silent_of_harmless repr host r agent.agentId host.hostId
      · intro spec inside
        exact (auto_spec host r agent.agentId capabilities spec inside).1
      · intro spec inside
        by_cases stripped : strip spec.name = spec.name
        · have auto := (reached_judged repr r agent.agentId host.hostId _ spec inside).1
          exact stripped_harmless host r agent.agentId capabilities spec auto stripped
        · exact harmless active spec inside stripped
  · have refused : (requestCapability repr host agent r capabilities).1 = r := by simp [requestCapability,active]
    rw [refused]
    exact ⟨fun _ allowed => absurd allowed active,fun _ => .refl host agent.agentId r⟩

def readingHost : HostIdentity where
  hostId := "h1"
  publicKey := firstKey
  defaultCapabilities := ["file:read"]
  status := .active

-- A server that offers a capability whose registered name begins with a blank.
def blankRegistry : CapabilityRegistry where
  definitions := ⟨[(" file:read",⟨" file:read","every file"⟩)],by simp⟩
  grants := .empty
  keyed := ungranted_keyed

def blankRequest : List (Dict String Value) := [⟨[("name",.str " file:read")],by simp⟩]

def quoted (text : String) : String := "'" ++ text ++ "'"

theorem blank_name_granted :
    ((((requestCapability quoted readingHost liveSession blankRegistry blankRequest).1).grantsOf "a1").get " file:read").map
      CapabilityGrant.status = some .active := by
  decide +kernel

theorem blank_name_escalates :
    " file:read" ∉ readingHost.defaultCapabilities ∧ (blankRegistry.grantsOf "a1").get " file:read" = none ∧
      ¬NoSilentEscalation readingHost "a1" blankRegistry
        (requestCapability quoted readingHost liveSession blankRegistry blankRequest).1 := by
  refine ⟨by decide,rfl,?_⟩
  intro silent
  obtain ⟨grant,found,active⟩ := Option.map_eq_some_iff.mp blank_name_granted
  have known := (silent.2 " file:read" grant found active (fun _ stored => by cases stored)).2
  exact absurd known (by decide)

end Asap.Capabilities
