import Asap.OpenapiMapping

-- `index_capabilities`: the ids of the mapped operations, and when two of them are the same.
namespace Asap.OpenapiIds
open OrderedDict PythonValue OpenapiMapping

inductive IndexError where
  | duplicateCapabilityId (skillId : String)
  deriving DecidableEq

-- `repr` stands for itself.
def IndexError.message (repr : String → String) : IndexError → String
  | .duplicateCapabilityId skillId => "Duplicate OpenAPI capability id " ++ repr skillId ++ "."

def indexFrom (out : Dict String OpenAPICapability) : List OpenAPICapability → Except IndexError (Dict String OpenAPICapability)
  | [] => .ok out
  | item :: rest =>
    match out.get item.skill.id with
    | some _ => .error (.duplicateCapabilityId item.skill.id)
    | none => indexFrom (out.set item.skill.id item) rest

def indexCapabilities (caps : List OpenAPICapability) : Except IndexError (Dict String OpenAPICapability) := indexFrom .empty caps

def skillIds (caps : List OpenAPICapability) : List String := caps.map (fun cap => cap.skill.id)

def Accepted (caps : List OpenAPICapability) : Prop := ∃ out, indexCapabilities caps = .ok out

theorem indexFrom_accepts (caps : List OpenAPICapability) (out : Dict String OpenAPICapability) :
    (∃ indexed, indexFrom out caps = .ok indexed) ↔ (∀ cap ∈ caps, out.get cap.skill.id = none) ∧ (skillIds caps).Nodup := by
  induction caps generalizing out with
  | nil => exact ⟨fun _ => ⟨fun _ inside => (by cases inside),List.nodup_nil⟩,fun _ => ⟨out,rfl⟩⟩
  | cons cap rest ih =>
    rw [indexFrom,skillIds,List.map_cons,List.nodup_cons,List.forall_mem_cons]
    cases known : out.get cap.skill.id with
    | some _ => exact ⟨fun ⟨_,accepted⟩ => (by cases accepted),fun both => (by cases both.1.1)⟩
    | none =>
      refine (ih (out.set cap.skill.id cap)).trans ?_
      have apart : (∀ other ∈ rest, (out.set cap.skill.id cap).get other.skill.id = none) ↔
          (∀ other ∈ rest, out.get other.skill.id = none) ∧ cap.skill.id ∉ rest.map (fun other => other.skill.id) := by
        constructor
        · intro absent
          refine ⟨fun other inside => ?_,fun inside => ?_⟩
          · have := absent other inside
            rw [Dict.get_set] at this
            split at this
            · cases this
            · exact this
          · obtain ⟨other,inside,same⟩ := List.mem_map.mp inside
            have := absent other inside
            rw [Dict.get_set,if_pos same.symm] at this
            cases this
        · rintro ⟨absent,fresh⟩ other inside
          rw [Dict.get_set,if_neg (fun same => fresh (List.mem_map.mpr ⟨other,inside,same.symm⟩))]
          exact absent other inside
      rw [apart]
      exact ⟨fun ⟨⟨absent,fresh⟩,distinct⟩ => ⟨⟨rfl,absent⟩,fresh,distinct⟩,fun ⟨⟨_,absent⟩,fresh,distinct⟩ => ⟨⟨absent,fresh⟩,distinct⟩⟩

theorem accepted_iff (caps : List OpenAPICapability) : Accepted caps ↔ (skillIds caps).Nodup :=
  (indexFrom_accepts caps .empty).trans ⟨fun both => both.2,fun distinct => ⟨fun _ _ => rfl,distinct⟩⟩

def siteName (site : Site) : String := capName site.pathTemplate site.method site.operation

theorem capability_id {lower : String → String} {components : Option Components} {fuel : Nat} {site : Site} {cap : OpenAPICapability}
    (made : capability lower components fuel site = some cap) : cap.skill.id = siteName site := by
  obtain ⟨params,_,made⟩ := Option.bind_eq_some_iff.mp made
  obtain ⟨body,_,made⟩ := Option.bind_eq_some_iff.mp made
  obtain ⟨output,_,made⟩ := Option.bind_eq_some_iff.mp made
  obtain ⟨kind,_,made⟩ := Option.bind_eq_some_iff.mp made
  cases made
  rfl

theorem skillIds_mapped {lower : String → String} {components : Option Components} {fuel : Nat} {list : List Site} {caps : List OpenAPICapability}
    (mapped : list.mapM (capability lower components fuel) = some caps) : skillIds caps = list.map siteName := by
  induction list generalizing caps with
  | nil =>
    cases mapped
    rfl
  | cons site rest ih =>
    rw [List.mapM_cons] at mapped
    obtain ⟨cap,made,mapped⟩ := Option.bind_eq_some_iff.mp mapped
    obtain ⟨others,later,same⟩ := Option.bind_eq_some_iff.mp mapped
    cases same
    exact congrArg₂ List.cons (capability_id made) (ih later)

-- The name before the first mark.
theorem until_mark {α : Type} {mark : α} {first second restFirst restSecond : List α} (freeFirst : mark ∉ first) (freeSecond : mark ∉ second)
    (same : first ++ mark :: restFirst = second ++ mark :: restSecond) : first = second ∧ restFirst = restSecond := by
  induction first generalizing second with
  | nil =>
    cases second with
    | nil => exact ⟨rfl,(List.cons.inj same).2⟩
    | cons c second => exact absurd ((List.cons.inj same).1 ▸ List.mem_cons_self) freeSecond
  | cons c first ih =>
    cases second with
    | nil => exact absurd ((List.cons.inj same).1 ▸ List.mem_cons_self) freeFirst
    | cons d second =>
      obtain ⟨head,tail⟩ := List.cons.inj same
      obtain ⟨begins,rests⟩ := ih (fun inside => freeFirst (List.mem_cons_of_mem _ inside)) (fun inside => freeSecond (List.mem_cons_of_mem _ inside)) tail
      exact ⟨congrArg₂ List.cons head begins,rests⟩

theorem method_free (method : Method) : '_' ∉ method.text.toList := by
  cases method <;> decide +kernel

theorem method_text_injective {method other : Method} (same : method.text = other.text) : method = other := by
  cases method <;> cases other <;> first | rfl | (revert same; decide +kernel)

theorem fallbackCapabilityName_iff (method other : Method) (path template : String) :
    fallbackCapabilityName method path = fallbackCapabilityName other template ↔ method = other ∧ pathPart path = pathPart template := by
  constructor
  · intro same
    have letters := congrArg String.toList same
    simp only [fallbackCapabilityName,String.toList_append] at letters
    have marked : ∀ text rest : List Char, text ++ "_".toList ++ rest = text ++ '_' :: rest := by
      intro text rest
      rw [List.append_assoc]
      rfl
    rw [marked,marked] at letters
    obtain ⟨methods,parts⟩ := until_mark (method_free method) (method_free other) letters
    exact ⟨method_text_injective (String.toList_inj.mp methods),String.toList_inj.mp parts⟩
  · rintro ⟨rfl,parts⟩
    rw [fallbackCapabilityName,parts,fallbackCapabilityName]

-- Two operations with ids of their own have different ones once these are trimmed; two without
-- differ in the method or in the path as the name has it; and an id is not such a name.
def Apart (one two : Site) : Prop :=
  match opIdStr one.operation,opIdStr two.operation with
  | some id,some other => id ≠ other
  | some id,none => id ≠ fallbackCapabilityName two.method two.pathTemplate
  | none,some other => fallbackCapabilityName one.method one.pathTemplate ≠ other
  | none,none => one.method ≠ two.method ∨ pathPart one.pathTemplate ≠ pathPart two.pathTemplate

theorem siteName_apart (one two : Site) : siteName one ≠ siteName two ↔ Apart one two := by
  unfold siteName capName Apart
  cases opIdStr one.operation with
  | some id => cases opIdStr two.operation <;> rfl
  | none =>
    cases opIdStr two.operation with
    | some other => rfl
    | none =>
      show fallbackCapabilityName one.method one.pathTemplate ≠ fallbackCapabilityName two.method two.pathTemplate ↔ _
      rw [ne_eq,fallbackCapabilityName_iff,not_and_or]

-- The ids are distinct, and the index takes the list, exactly when all the operations are apart.
theorem capability_ids_distinct {lower : String → String} {doc : OpenAPIDocument} {spec : DefaultCapabilitiesFilter} {fuel : Nat} {caps : List OpenAPICapability}
    (mapped : mapOpenapiToCapabilities lower doc spec fuel = some caps) :
    ((skillIds caps).Nodup ↔ (selected lower doc spec).Pairwise Apart) ∧ (Accepted caps ↔ (selected lower doc spec).Pairwise Apart) := by
  have distinct : (skillIds caps).Nodup ↔ (selected lower doc spec).Pairwise Apart := by
    rw [skillIds_mapped mapped,List.Nodup,List.pairwise_map]
    exact List.Pairwise.iff siteName_apart
  exact ⟨distinct,(accepted_iff caps).trans distinct⟩

section Flattened
def plainOperation : Operation := ⟨none,none,none,[],none,.empty⟩

def plainItem : PathItem where
  operation method := if method = .get then some plainOperation else none
  summary := none
  description := none
  parameters := []

-- Two paths whose names without slashes are the same.
def flattenedDocument : OpenAPIDocument := ⟨(Dict.empty.set "/a/b" plainItem).set "/a_b" plainItem,none⟩

def everyOperation : DefaultCapabilitiesFilter := .predicate (fun _ => true)

theorem plain_mapped (site : Site) (plain : site.operation = plainOperation) (bare : site.pathItem.parameters = []) :
    ∃ cap, capability id none 0 site = some cap := by
  obtain ⟨pathTemplate,pathItem,method,operation⟩ := site
  obtain ⟨operations,summary,description,parameters⟩ := pathItem
  subst plain
  subst bare
  exact ⟨_,rfl⟩

theorem flattened_sites : selected id flattenedDocument everyOperation = [⟨"/a/b",plainItem,.get,plainOperation⟩,⟨"/a_b",plainItem,.get,plainOperation⟩] := by
  rfl

theorem flattened_mapped : ∃ caps, mapOpenapiToCapabilities id flattenedDocument everyOperation 0 = some caps := by
  obtain ⟨first,madeFirst⟩ := plain_mapped ⟨"/a/b",plainItem,.get,plainOperation⟩ rfl rfl
  obtain ⟨second,madeSecond⟩ := plain_mapped ⟨"/a_b",plainItem,.get,plainOperation⟩ rfl rfl
  refine ⟨[first,second],?_⟩
  unfold mapOpenapiToCapabilities
  rw [flattened_sites]
  show List.mapM (capability id none 0) _ = _
  rw [List.mapM_cons,madeFirst,List.mapM_cons,madeSecond]
  rfl

theorem capability_ids_distinct_flattened : ∃ caps, mapOpenapiToCapabilities id flattenedDocument everyOperation 0 = some caps ∧
    ((skillIds caps).Nodup ↔ (selected id flattenedDocument everyOperation).Pairwise Apart) ∧
    (Accepted caps ↔ (selected id flattenedDocument everyOperation).Pairwise Apart) := by
  obtain ⟨caps,mapped⟩ := flattened_mapped
  exact ⟨caps,mapped,capability_ids_distinct mapped⟩

theorem flattened_ids_collide : ¬∀ (lower : String → String) (doc : OpenAPIDocument) (spec : DefaultCapabilitiesFilter) (fuel : Nat)
    (caps : List OpenAPICapability), ((sites doc).filterMap (fun site => site.operation.operationId)).Nodup →
    mapOpenapiToCapabilities lower doc spec fuel = some caps → (skillIds caps).Nodup ∧ Accepted caps := by
  intro every
  obtain ⟨caps,mapped⟩ := flattened_mapped
  have unnamed : (sites flattenedDocument).filterMap (fun site => site.operation.operationId) = [] := rfl
  have distinct := (every id flattenedDocument everyOperation 0 caps (unnamed ▸ List.nodup_nil) mapped).1
  rw [skillIds_mapped mapped,flattened_sites,List.map_cons,List.map_singleton,List.nodup_cons,List.mem_singleton] at distinct
  refine distinct.1 ((fallbackCapabilityName_iff .get .get "/a/b" "/a_b").mpr ⟨rfl,?_⟩)
  decide +kernel
end Flattened

end Asap.OpenapiIds
