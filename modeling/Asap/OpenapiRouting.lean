import Asap.CookieHeader
import Asap.OpenapiReferences
import Asap.OpenapiRequests

-- What the mapper makes of an operation, and what the handler makes of that: the arguments
-- that arrive where the operation has declared them.
namespace Asap.OpenapiRouting
open OrderedDict PythonValue OpenapiMapping OpenapiReferences OpenapiRequests Fueled CookieHeader

section Declared
variable (components : Option Components) (site : Site)

def ParameterIs (components : Option Components) : Ref Parameter → Parameter → Prop :=
  StandsFor "#/components/parameters/" (components.map Components.parameters)

def RequestBodyIs (components : Option Components) : Ref RequestBody → RequestBody → Prop :=
  StandsFor "#/components/requestBodies/" (components.map Components.requestBodies)

def DeclaredAt (name : String) (loc : ParameterLocation) : Prop :=
  ∃ obj ∈ site.pathItem.parameters ++ site.operation.parameters, ∃ parameter, ParameterIs components obj parameter ∧
    parameter.name = name ∧ parameter.paramIn = loc

-- The JSON schema of the body.
def HasBody (schema : Value) : Prop :=
  ∃ obj body, site.operation.requestBody = some obj ∧ RequestBodyIs components obj body ∧ bodyJsonSchema (rawSchemas components) (some body) = some schema

variable {components site} {lower : String → String} {fuel : Nat}

theorem made_parts {cap : OpenAPICapability} (made : capability lower components fuel site = some cap) : ∃ params body,
    mergeParameters components fuel site.pathItem site.operation = some params ∧ resolveBody components fuel site.operation.requestBody = some body ∧
      cap.skill.inputSchema = buildInputSchema (rawSchemas components) params (bodyJsonSchema (rawSchemas components) body) := by
  obtain ⟨params,merged,made⟩ := Option.bind_eq_some_iff.mp made
  obtain ⟨body,resolved,made⟩ := Option.bind_eq_some_iff.mp made
  obtain ⟨output,_,made⟩ := Option.bind_eq_some_iff.mp made
  obtain ⟨kind,_,made⟩ := Option.bind_eq_some_iff.mp made
  cases made
  exact ⟨params,body,merged,resolved,rfl⟩

theorem resolve_stands {start : String} {bag : Option (Dict String (Ref α))} {obj : Ref α} {resolved : Option α}
    (found : resolve start bag fuel obj = some resolved) (value : α) : StandsFor start bag obj value ↔ resolved = some value := by
  rw [← yields_resolve]
  constructor
  · intro yields
    exact (resolve_persists obj).unique ⟨fuel,found⟩ yields
  · intro same
    exact ⟨fuel,found.trans (congrArg some same)⟩

theorem hasBody_iff {body : Option RequestBody} (resolved : resolveBody components fuel site.operation.requestBody = some body) (schema : Value) :
    HasBody components site schema ↔ bodyJsonSchema (rawSchemas components) body = some schema := by
  unfold HasBody
  cases declared : site.operation.requestBody with
  | none =>
    rw [declared] at resolved
    cases resolved
    exact ⟨fun ⟨_,_,same,_⟩ => (by cases same),fun same => (by cases same)⟩
  | some obj =>
    rw [declared] at resolved
    have stands := fun value => resolve_stands resolved value
    constructor
    · rintro ⟨other,value,same,is,schema⟩
      cases same
      rw [(stands value).mp is]
      exact schema
    · intro same
      cases body with
      | none => cases same
      | some value => exact ⟨obj,value,rfl,(stands value).mpr rfl,same⟩

theorem fill_get_some {rows : List (κ × α)} [DecidableEq κ] {key : κ} {value : α} (found : (fill rows).get key = some value) : (key,value) ∈ rows := by
  induction rows using List.reverseRecOn with
  | nil => cases found
  | append_singleton rows row ih =>
    rw [fill_append,Dict.get_set] at found
    split at found
    · rename_i same
      cases same
      cases found
      exact List.mem_append_right _ List.mem_cons_self
    · exact List.mem_append_left _ (ih found)

theorem fill_get_none {rows : List (κ × α)} [DecidableEq κ] {key : κ} : (fill rows).get key = none ↔ key ∉ rows.map Prod.fst := by
  rw [get_fill,Option.map_eq_none_iff,List.find?_eq_none]
  constructor
  · intro absent inside
    obtain ⟨row,listed,same⟩ := List.mem_map.mp inside
    exact absent row (List.mem_reverse.mpr listed) (decide_eq_true same)
  · intro absent row listed same
    exact absent (List.mem_map.mpr ⟨row,List.mem_reverse.mp listed,of_decide_eq_true same⟩)

-- The values of a dictionary of items by their keys: items of the list, and one for each key.
section Keyed
variable {κ α : Type} [DecidableEq κ] (key : α → κ) (items : List α)

theorem keyed_listed {item : α} (inside : item ∈ (fill (items.map (fun item => (key item,item)))).values) : item ∈ items := by
  obtain ⟨row,listed,same⟩ := List.mem_map.mp inside
  obtain ⟨other,among,equal⟩ := List.mem_map.mp (fill_get_some ((Dict.mem_iff _).mp (show (row.1,row.2) ∈ _ from listed)))
  have back : other = row.2 := congrArg Prod.snd equal
  rw [← same,← back]
  exact among

theorem keyed_present {item : α} (listed : item ∈ items) :
    ∃ other ∈ (fill (items.map (fun item => (key item,item)))).values, key other = key item := by
  cases held : (fill (items.map (fun item => (key item,item)))).get (key item) with
  | none =>
    refine absurd ?_ (fill_get_none.mp held)
    rw [List.map_map]
    exact List.mem_map.mpr ⟨item,listed,rfl⟩
  | some other =>
    obtain ⟨origin,_,equal⟩ := List.mem_map.mp (fill_get_some held)
    have first : key origin = key item := congrArg Prod.fst equal
    have second : origin = other := congrArg Prod.snd equal
    exact ⟨other,List.mem_map_of_mem ((Dict.mem_iff _).mpr held),second ▸ first⟩
end Keyed

theorem mergeParameters_fill {params : List Parameter} (merged : mergeParameters components fuel site.pathItem site.operation = some params) :
    ∃ resolved, (site.pathItem.parameters ++ site.operation.parameters).mapM (resolveParameter components fuel) = some resolved ∧
      params = (fill ((resolved.filterMap id).map (fun parameter => ((parameter.name,paramLocationStr parameter.paramIn),parameter)))).values := by
  obtain ⟨resolved,ran,same⟩ := Option.map_eq_some_iff.mp merged
  refine ⟨resolved,ran,same.symm.trans ?_⟩
  rw [fill,List.foldl_map]

theorem paramLocationStr_injective {one two : ParameterLocation} (same : paramLocationStr one = paramLocationStr two) : one = two := by
  cases one <;> cases two <;> first | rfl | exact absurd same (by simp [paramLocationStr])

theorem declaredAt_iff {params : List Parameter} (merged : mergeParameters components fuel site.pathItem site.operation = some params)
    (name : String) (loc : ParameterLocation) : DeclaredAt components site name loc ↔ ∃ parameter ∈ params, parameter.name = name ∧ parameter.paramIn = loc := by
  obtain ⟨resolved,ran,same⟩ := mergeParameters_fill merged
  have among : ∀ parameter, parameter ∈ resolved.filterMap id ↔
      ∃ obj ∈ site.pathItem.parameters ++ site.operation.parameters, ParameterIs components obj parameter := by
    intro parameter
    have listed : parameter ∈ resolved.filterMap id ↔ some parameter ∈ resolved := by simp
    rw [listed]
    constructor
    · intro inside
      obtain ⟨obj,inside,found⟩ := each_right (mapM_each ran) inside
      exact ⟨obj,inside,(resolve_stands found parameter).mpr rfl⟩
    · rintro ⟨obj,inside,is⟩
      obtain ⟨value,within,found⟩ := each_left (mapM_each ran) inside
      exact (resolve_stands found parameter).mp is ▸ within
  subst same
  constructor
  · rintro ⟨obj,inside,parameter,is,named,located⟩
    obtain ⟨other,held,same⟩ := keyed_present (fun parameter : Parameter => (parameter.name,paramLocationStr parameter.paramIn)) _
      ((among parameter).mpr ⟨obj,inside,is⟩)
    exact ⟨other,held,(congrArg Prod.fst same).trans named,(paramLocationStr_injective (congrArg Prod.snd same)).trans located⟩
  · rintro ⟨parameter,inside,named,located⟩
    obtain ⟨obj,listed,is⟩ := (among parameter).mp (keyed_listed (fun parameter : Parameter => (parameter.name,paramLocationStr parameter.paramIn)) _ inside)
    exact ⟨obj,listed,parameter,is,named,located⟩
end Declared

section Schemas
theorem lookupItem_find (name : String) (items : List (Key × α)) : lookupItem name items = find (.str name) items := by
  induction items with
  | nil => rfl
  | cons item rest ih =>
    obtain ⟨key,value⟩ := item
    by_cases same : key = .str name
    · subst same
      simp [lookupItem,find]
    · rw [find,if_neg same,← ih,lookupItem,List.find?_cons_of_neg (by simpa using same)]
      rfl

theorem lookupItem_assign (name other : String) (value : α) (items : List (Key × α)) :
    lookupItem name (assign (.str other) value items) = if other = name then some value else lookupItem name items := by
  rw [lookupItem_find,lookupItem_find,find_assign]
  simp only [Key.str.injEq]

theorem mem_marked {name text : String} {properties : List (Key × Value)} :
    (name,text) ∈ marked properties ↔ ∃ sub, (Key.str name,sub) ∈ properties ∧ paramMark sub = some text := by
  unfold marked
  rw [List.mem_filterMap]
  constructor
  · rintro ⟨⟨key,sub⟩,inside,found⟩
    obtain ⟨other,named,found⟩ := Option.bind_eq_some_iff.mp found
    obtain ⟨loc,mark,same⟩ := Option.map_eq_some_iff.mp found
    cases same
    cases key <;> cases named
    exact ⟨sub,inside,mark⟩
  · rintro ⟨sub,inside,mark⟩
    exact ⟨(.str name,sub),inside,by simp [Key.string,mark]⟩

theorem mem_propertyNames {name : String} {properties : List (Key × Value)} : name ∈ propertyNames properties ↔ ∃ sub, (Key.str name,sub) ∈ properties := by
  unfold propertyNames
  rw [List.mem_filterMap]
  constructor
  · rintro ⟨⟨key,sub⟩,inside,named⟩
    cases key <;> cases named
    exact ⟨sub,inside⟩
  · rintro ⟨sub,inside⟩
    exact ⟨(.str name,sub),inside,rfl⟩

variable (rawByName : Dict String Value)

theorem paramMark_dict {items : List (Key × Value)} {loc : String} (found : lookupItem "x-openapi-param-in" items = some (.str loc)) :
    paramMark (.dict items) = some loc := by
  rw [paramMark,dictItems,found]

theorem paramMark_propSchema (parameter : Parameter) : paramMark (propSchema rawByName parameter) = some (paramLocationStr parameter.paramIn) := by
  have described : ∀ (located : List (Key × Value)) (text : String) (mark : Value), lookupItem "x-openapi-param-in" located = some mark →
      lookupItem "x-openapi-param-in" (if text ≠ "" ∧ lookupItem "description" located = none then assign (.str "description") (.str text) located else located) =
        some mark := by
    intro located text mark found
    split
    · rw [lookupItem_assign,if_neg (by simp)]
      exact found
    · exact found
  have marks : ∀ items, lookupItem "x-openapi-param-in" (assign (.str "x-openapi-param-in") (Value.str (paramLocationStr parameter.paramIn)) items) =
      some (.str (paramLocationStr parameter.paramIn)) := fun items => (lookupItem_assign _ _ _ _).trans (if_pos rfl)
  refine paramMark_dict ?_
  cases parameter.description with
  | none => exact marks _
  | some text => exact described _ text _ (marks _)

theorem parameterProperties_fill (params : List Parameter) :
    (parameterProperties rawByName params).1 = fill (params.map (fun parameter => (parameter.name,propSchema rawByName parameter))) := by
  rw [fill,List.foldl_map]
  rfl

theorem parameterProperties_listed {params : List Parameter} {item : String × Value} (listed : item ∈ (parameterProperties rawByName params).1.entries) :
    ∃ parameter ∈ params, parameter.name = item.1 ∧ propSchema rawByName parameter = item.2 := by
  rw [parameterProperties_fill] at listed
  obtain ⟨parameter,declared,same⟩ := List.mem_map.mp (fill_get_some ((Dict.mem_iff _).mp (show (item.1,item.2) ∈ _ from listed)))
  exact ⟨parameter,declared,congrArg Prod.fst same,congrArg Prod.snd same⟩

def schemaItems (properties : Dict String Value) : List (Key × Value) := properties.entries.map (fun item => (.str item.1,item.2))

theorem parametersObject_typed (properties : Dict String Value) (required : List String) :
    typedProperties (dictItems (parametersObject properties required)) = some (schemaItems properties) := rfl

theorem parametersObject_plain (properties : Dict String Value) (required : List String) :
    lookupItem "allOf" (dictItems (parametersObject properties required)) = none := by
  unfold parametersObject dictItems lookupItem
  by_cases any : required ≠ []
  · simp [any]
  · simp [any]

-- Where the parameters go.
def paramRoutes (params : List Parameter) : Dict String String := fill (marked (schemaItems (parameterProperties rawByName params).1))

theorem paramRoutes_some {params : List Parameter} {name text : String} (found : (paramRoutes rawByName params).get name = some text) :
    ∃ parameter ∈ params, parameter.name = name ∧ paramLocationStr parameter.paramIn = text := by
  obtain ⟨sub,inside,mark⟩ := mem_marked.mp (fill_get_some found)
  obtain ⟨item,listed,same⟩ := List.mem_map.mp inside
  cases same
  obtain ⟨parameter,declared,named,schema⟩ := parameterProperties_listed rawByName listed
  rw [← schema,paramMark_propSchema] at mark
  exact ⟨parameter,declared,named,Option.some.inj mark⟩

theorem paramRoutes_present {params : List Parameter} {parameter : Parameter} (declared : parameter ∈ params) :
    (paramRoutes rawByName params).get parameter.name ≠ none := by
  intro absent
  have names := fill_get_none.mp absent
  cases held : (parameterProperties rawByName params).1.get parameter.name with
  | none =>
    rw [parameterProperties_fill] at held
    refine absurd ?_ (fill_get_none.mp held)
    rw [List.map_map]
    exact List.mem_map.mpr ⟨parameter,declared,rfl⟩
  | some sub =>
    have listed := (Dict.mem_iff _).mpr held
    obtain ⟨other,_,_,schema⟩ := parameterProperties_listed rawByName listed
    have mark := mem_marked.mpr ⟨sub,List.mem_map_of_mem (f := fun item : String × Value => (Key.str item.1,item.2)) listed,schema ▸ paramMark_propSchema rawByName other⟩
    exact names (List.mem_map_of_mem mark)

theorem buildInputSchema_alone (body : Option Value) : buildInputSchema rawByName [] body = body.filter Value.truthy := by
  cases body with
  | none => rfl
  | some schema =>
    cases truthy : schema.truthy with
    | true => simp [buildInputSchema,parameterProperties,Dict.empty,Option.filter,truthy]
    | false => simp [buildInputSchema,parameterProperties,Dict.empty,Option.filter,truthy]

theorem parameterProperties_some {params : List Parameter} (given : params ≠ []) : (parameterProperties rawByName params).1.entries.isEmpty = false := by
  obtain ⟨parameter,rest,split⟩ := List.exists_cons_of_ne_nil given
  cases empty : (parameterProperties rawByName params).1.entries with
  | cons item rest => rfl
  | nil =>
    refine absurd ?_ (paramRoutes_present rawByName (split ▸ List.mem_cons_self : parameter ∈ params))
    rw [paramRoutes,schemaItems,empty]
    rfl

theorem routing_params {params : List Parameter} (given : params ≠ []) (body : Option Value) :
    parseInputSchemaRouting (buildInputSchema rawByName params body) =
      (paramRoutes rawByName params,((body.filter Value.truthy).map collectBodyPropertyKeys).getD []) := by
  have filled := parameterProperties_some rawByName given
  unfold buildInputSchema
  dsimp only
  rw [filled]
  cases body.filter Value.truthy with
  | none =>
    show parseInputSchemaRouting (some (parametersObject (parameterProperties rawByName params).1 (parameterProperties rawByName params).2)) = _
    rw [parseInputSchemaRouting,parametersObject_plain,parametersObject_typed]
    have unmarked : bodyNames (schemaItems (parameterProperties rawByName params).1) = [] := by
      refine List.filterMap_eq_nil_iff.mpr (fun item inside => ?_)
      obtain ⟨row,listed,same⟩ := List.mem_map.mp inside
      obtain ⟨parameter,_,_,schema⟩ := parameterProperties_listed rawByName listed
      rw [← same,← schema,paramMark_propSchema]
      exact if_neg (by simp)
    exact congrArg (Prod.mk (paramRoutes rawByName params)) unmarked
  | some schema =>
    show parseInputSchemaRouting (some (.dict [(.str "allOf",.list [parametersObject (parameterProperties rawByName params).1 (parameterProperties rawByName params).2,schema])])) = _
    rw [parseInputSchemaRouting]
    show (paramPropsFromObject _ _,[schema].flatMap collectBodyPropertyKeys) = _
    rw [paramPropsFromObject,parametersObject_typed,List.flatMap_singleton]
    rfl
end Schemas

-- What a schema declares: its own properties, and those of the schemas it is composed of.
inductive Declares (name : String) : Value → Prop where
  | property {schema : List (Key × Value)} {properties : Value} (found : lookupItem "properties" schema = some properties)
      (listed : name ∈ propertyNames (dictItems properties)) : Declares name (.dict schema)
  | part {schema : List (Key × Value)} {part : Value} (inside : part ∈ allOfParts schema) (declares : Declares name part) : Declares name (.dict schema)

-- The same without what stands beside the properties of a schema of type `object`, and without properties of any other schema.
inductive Seen (name : String) : Value → Prop where
  | property {schema properties : List (Key × Value)} (typed : typedProperties schema = some properties) (listed : name ∈ propertyNames properties) :
      Seen name (.dict schema)
  | part {schema : List (Key × Value)} {part : Value} (untyped : typedProperties schema = none) (inside : part ∈ allOfParts schema) (seen : Seen name part) :
      Seen name (.dict schema)

def Marked (name : String) (part : Value) : Prop :=
  ∃ properties, typedProperties (dictItems part) = some properties ∧ ∃ sub, (Key.str name,sub) ∈ properties ∧ (paramMark sub).isSome

-- A body without parameters beside it. The first of the schemas it is composed of is not looked at, and with such schemas its own properties are not.
def SeenAlone (name : String) (schema : Value) : Prop :=
  match lookupItem "allOf" (dictItems schema) with
  | some parts => (∃ part ∈ (listItems parts).tail, Seen name part) ∧ ∀ first, (listItems parts).head? = some first → ¬Marked name first
  | none => (∃ properties, typedProperties (dictItems schema) = some properties ∧ name ∈ bodyNames properties) ∧ ¬Marked name schema

section Bodies
theorem mem_collect (name : String) (part : Value) : name ∈ collectBodyPropertyKeys part ↔ Seen name part := by
  induction part using collectBodyPropertyKeys.induct with
  | case1 schema properties typed =>
    rw [collectBodyPropertyKeys,typed]
    constructor
    · exact fun listed => .property typed listed
    · intro seen
      cases seen with
      | property other listed =>
        cases Option.some.inj (typed.symm.trans other)
        exact listed
      | part untyped _ _ => exact absurd (typed.symm.trans untyped) (by simp)
  | case2 schema untyped ih =>
    rw [collectBodyPropertyKeys,untyped]
    dsimp only
    rw [List.mem_flatMap]
    constructor
    · rintro ⟨⟨part,inside⟩,_,listed⟩
      exact .part untyped inside ((ih ⟨part,inside⟩).mp listed)
    · intro seen
      cases seen with
      | property typed _ => exact absurd (untyped.symm.trans typed) (by simp)
      | part _ inside seen => exact ⟨⟨_,inside⟩,List.mem_attach _ _,(ih ⟨_,inside⟩).mpr seen⟩
  | case3 part other =>
    constructor
    · intro listed
      rw [collectBodyPropertyKeys] at listed
      · cases listed
      · exact other
    · intro seen
      cases seen <;> exact absurd rfl (other _)

theorem fill_marked {name : String} {properties : List (Key × Value)} :
    (fill (marked properties)).get name = none ↔ ¬∃ sub, (Key.str name,sub) ∈ properties ∧ (paramMark sub).isSome := by
  rw [fill_get_none,not_iff_not]
  constructor
  · intro inside
    obtain ⟨⟨other,text⟩,listed,same⟩ := List.mem_map.mp inside
    cases same
    obtain ⟨sub,there,mark⟩ := mem_marked.mp listed
    exact ⟨sub,there,by rw [mark]; rfl⟩
  · rintro ⟨sub,there,mark⟩
    obtain ⟨text,mark⟩ := Option.isSome_iff_exists.mp mark
    exact List.mem_map_of_mem (mem_marked.mpr ⟨sub,there,mark⟩)

theorem marked_absent (name : String) (part : Value) : (paramPropsFromObject part .empty).get name = none ↔ ¬Marked name part := by
  unfold paramPropsFromObject Marked
  cases typedProperties (dictItems part) with
  | none => simp
  | some properties =>
    refine fill_marked.trans (not_congr ⟨fun found => ⟨properties,rfl,found⟩,fun ⟨other,same,found⟩ => ?_⟩)
    cases same
    exact found

theorem routing_alone (name : String) (schema : Value) :
    (parseInputSchemaRouting (some schema)).1.get name = none ∧ name ∈ (parseInputSchemaRouting (some schema)).2 ↔ SeenAlone name schema := by
  unfold SeenAlone
  rw [parseInputSchemaRouting]
  cases composed : lookupItem "allOf" (dictItems schema) with
  | some parts =>
    dsimp only
    rw [List.mem_flatMap,and_comm]
    simp only [mem_collect]
    refine and_congr_right (fun _ => ?_)
    cases (listItems parts).head? with
    | none => simp
    | some first => exact (marked_absent name first).trans ⟨fun unmarked other same => Option.some.inj same ▸ unmarked,fun every => every first rfl⟩
  | none =>
    have unmarked := marked_absent name schema
    unfold paramPropsFromObject at unmarked
    dsimp only
    cases typed : typedProperties (dictItems schema) with
    | none => simp
    | some properties =>
      rw [typed] at unmarked
      dsimp only
      rw [and_comm]
      refine and_congr ?_ unmarked
      exact ⟨fun listed => ⟨properties,rfl,listed⟩,fun ⟨other,same,listed⟩ => Option.some.inj same ▸ listed⟩

theorem seen_truthy {name : String} {schema : Value} (seen : Seen name schema) : schema.truthy = true := by
  have filled : ∀ schema : List (Key × Value), (typedProperties schema ≠ none ∨ allOfParts schema ≠ []) → (Value.dict schema).truthy = true := by
    intro schema some
    cases schema with
    | nil => exact absurd some (by simp [typedProperties,allOfParts,lookupItem])
    | cons item rest => simp [Value.truthy]
  cases seen with
  | property typed _ => exact filled _ (.inl (by simp [typed]))
  | part _ inside _ => exact filled _ (.inr (List.ne_nil_of_mem inside))

theorem seenAlone_truthy {name : String} {schema : Value} (seen : SeenAlone name schema) : schema.truthy = true := by
  cases schema with
  | dict schema =>
    cases schema with
    | nil => exact absurd seen (by simp [SeenAlone,dictItems,lookupItem,typedProperties])
    | cons item rest => simp [Value.truthy]
  | _ => exact absurd seen (by simp [SeenAlone,dictItems,lookupItem,typedProperties])
end Bodies

section Operation
variable (components : Option Components) (site : Site)

def InBody (name : String) : Prop := ∃ schema, HasBody components site schema ∧ Declares name schema

def Alone : Prop := ∀ name loc, ¬DeclaredAt components site name loc

-- The properties of the body that the handler knows of.
def Reached (name : String) : Prop :=
  ∃ schema, HasBody components site schema ∧ (Alone components site → SeenAlone name schema) ∧ (¬Alone components site → Seen name schema)

-- The routes of an operation.
structure Routes (paramIn : Dict String String) (bodyKeys : List String) : Prop where
  parameter : ∀ name loc, DeclaredAt components site name loc → ∃ other, DeclaredAt components site name other ∧ paramIn.get name = some (paramLocationStr other)
  marks : ¬Alone components site → ∀ name text, paramIn.get name = some text → ∃ loc, DeclaredAt components site name loc ∧ paramLocationStr loc = text
  body : ∀ name, (∀ loc, ¬DeclaredAt components site name loc) → (paramIn.get name = none ∧ name ∈ bodyKeys ↔ Reached components site name)

variable {components site} {lower : String → String} {fuel : Nat}

theorem truthy_body {schema : Option Value} {name : String} {seen : String → Value → Prop} (truthy : ∀ schema, seen name schema → schema.truthy = true) :
    (∃ body, schema.filter Value.truthy = some body ∧ seen name body) ↔ ∃ body, schema = some body ∧ seen name body := by
  constructor
  · rintro ⟨body,kept,there⟩
    exact ⟨body,(Option.filter_eq_some_iff.mp kept).1,there⟩
  · rintro ⟨body,same,there⟩
    exact ⟨body,Option.filter_eq_some_iff.mpr ⟨same,truthy body there⟩,there⟩

theorem made_routes {cap : OpenAPICapability} (made : capability lower components fuel site = some cap) :
    Routes components site (parseInputSchemaRouting cap.skill.inputSchema).1 (parseInputSchemaRouting cap.skill.inputSchema).2 := by
  obtain ⟨params,body,merged,resolved,schema⟩ := made_parts made
  have declared := declaredAt_iff merged
  have bodies := hasBody_iff resolved
  rw [schema]
  by_cases none' : params = []
  · subst none'
    have alone : Alone components site := by
      intro name loc there
      obtain ⟨_,inside,_⟩ := (declared name loc).mp there
      cases inside
    rw [buildInputSchema_alone]
    refine ⟨fun name loc there => absurd there (alone name loc),fun some => absurd alone some,fun name _ => ?_⟩
    have reached : Reached components site name ↔ ∃ schema, bodyJsonSchema (rawSchemas components) body = some schema ∧ SeenAlone name schema :=
      exists_congr (fun schema => and_congr (bodies schema) ⟨fun both => both.1 alone,fun seen => ⟨fun _ => seen,fun some => absurd alone some⟩⟩)
    rw [reached,← truthy_body (fun schema => seenAlone_truthy)]
    cases (bodyJsonSchema (rawSchemas components) body).filter Value.truthy with
    | none => exact ⟨fun both => (by cases both.2),fun ⟨_,same,_⟩ => (by cases same)⟩
    | some schema => exact (routing_alone name schema).trans ⟨fun seen => ⟨schema,rfl,seen⟩,fun ⟨other,same,seen⟩ => Option.some.inj same ▸ seen⟩
  · rw [routing_params _ none']
    have together : ¬Alone components site := by
      intro alone
      obtain ⟨parameter,rest,split⟩ := List.exists_cons_of_ne_nil none'
      exact alone parameter.name parameter.paramIn ((declared _ _).mpr ⟨parameter,split ▸ List.mem_cons_self,rfl,rfl⟩)
    have marks : ∀ name text, (paramRoutes (rawSchemas components) params).get name = some text →
        ∃ loc, DeclaredAt components site name loc ∧ paramLocationStr loc = text := by
      intro name text found
      obtain ⟨parameter,inside,named,located⟩ := paramRoutes_some _ found
      exact ⟨parameter.paramIn,(declared _ _).mpr ⟨parameter,inside,named,rfl⟩,located⟩
    refine ⟨fun name loc there => ?_,fun _ => marks,fun name absent => ?_⟩
    · obtain ⟨parameter,inside,named,_⟩ := (declared name loc).mp there
      cases found : (paramRoutes (rawSchemas components) params).get name with
      | none => exact absurd (named ▸ found) (paramRoutes_present (rawSchemas components) inside)
      | some text =>
        obtain ⟨other,declares,same⟩ := marks name text found
        exact ⟨other,declares,congrArg some same.symm⟩
    · have reached : Reached components site name ↔ ∃ schema, bodyJsonSchema (rawSchemas components) body = some schema ∧ Seen name schema :=
        exists_congr (fun schema => and_congr (bodies schema) ⟨fun both => both.2 together,fun seen => ⟨fun alone => absurd alone together,fun _ => seen⟩⟩)
      have unrouted : (paramRoutes (rawSchemas components) params).get name = none := by
        cases found : (paramRoutes (rawSchemas components) params).get name with
        | none => rfl
        | some text =>
          obtain ⟨loc,declares,_⟩ := marks name text found
          exact absurd declares (absent loc)
      rw [reached,← truthy_body (fun schema => seen_truthy)]
      cases (bodyJsonSchema (rawSchemas components) body).filter Value.truthy with
      | none => exact ⟨fun both => (by cases both.2),fun ⟨_,same,_⟩ => (by cases same)⟩
      | some schema =>
        refine ⟨fun both => ⟨schema,rfl,(mem_collect name schema).mp both.2⟩,?_⟩
        rintro ⟨other,same,seen⟩
        cases same
        exact ⟨unrouted,(mem_collect name schema).mpr seen⟩
end Operation

section Calls
variable (str : Value → String) (components : Option Components) (site : Site) (args : Dict String Value)

open Classical in
noncomputable def argumentsAt (place : String → Prop) : List (String × Value) := args.entries.filter (fun item => decide (place item.1))

noncomputable def argumentsIn (loc : ParameterLocation) : List (String × Value) := argumentsAt args (fun name => DeclaredAt components site name loc)

noncomputable def cookieArguments : List (String × String) := (argumentsIn components site args .cookie).map (headerLine str)

-- Every argument is at its place: a cookie in the `Cookie` header, which is there for the cookies only.
structure Faithful (parts : RequestParts) : Prop where
  path : parts.pathVals.entries = argumentsIn components site args .path
  query : parts.query.entries = argumentsIn components site args .query
  headers : parts.headers.entries = (argumentsIn components site args .header).map (headerLine str) ++
    if (cookieArguments str components site args).isEmpty then [] else [("Cookie",(parts.headers.get "Cookie").getD "")]
  cookies : parseCookies ((parts.headers.get "Cookie").getD "") = cookieArguments str components site args
  body : (parts.jsonBody.map Dict.entries).getD [] = argumentsAt args (InBody components site)

-- Only names the operation has declared.
def Declared : Prop := ∀ name ∈ args.keys, (∃ loc, DeclaredAt components site name loc) ∨ InBody components site name

-- An argument is declared for one place only, a property of the body is one the handler knows of,
-- and what becomes of the cookies can be read back.
structure Carried : Prop where
  once : ∀ name ∈ args.keys, ∀ one two, DeclaredAt components site name one → DeclaredAt components site name two → one = two
  apart : ∀ name ∈ args.keys, ∀ loc, DeclaredAt components site name loc → ¬InBody components site name
  reached : ∀ name ∈ args.keys, InBody components site name → Reached components site name
  cookies : ∀ pair ∈ cookieArguments str components site args, Clean (letters pair)
  header : ∀ value, args.get "Cookie" = some value → DeclaredAt components site "Cookie" .header →
    cookieArguments str components site args = [] ∧ parseCookies (str value) = []

-- The handler and the operation have the same place for every argument.
structure Agree (paramIn : Dict String String) : Prop where
  parameter : ∀ item ∈ args.entries, ∀ loc, paramIn.get item.1 = some (paramLocationStr loc) ↔ DeclaredAt components site item.1 loc
  body : ∀ item ∈ args.entries, paramIn.get item.1 = none ↔ InBody components site item.1

variable {str components site args} {paramIn : Dict String String} {bodyKeys : List String}

theorem filter_places {place : Option String} {declared : String → Prop} :
    args.entries.filter (goesTo paramIn place) = argumentsAt args declared ↔ ∀ item ∈ args.entries, (paramIn.get item.1 = place ↔ declared item.1) := by
  classical
  unfold argumentsAt goesTo
  constructor
  · intro same item inside
    have members := congrArg (item ∈ ·) same
    simpa [List.mem_filter,inside] using members
  · intro same
    refine List.filter_congr (fun item inside => ?_)
    exact decide_eq_decide.mpr (same item inside)

theorem mem_argumentsAt {declared : String → Prop} {item : String × Value} : item ∈ argumentsAt args declared ↔ item ∈ args.entries ∧ declared item.1 := by
  classical
  exact List.mem_filter.trans (and_congr_right (fun _ => decide_eq_true_iff))

theorem agree_of_carried (routes : Routes components site paramIn bodyKeys) (declared : Declared components site args)
    (carried : Carried str components site args) : Agree components site args paramIn ∧ ∀ item ∈ args.entries, paramIn.get item.1 = none → item.1 ∈ bodyKeys := by
  have each : ∀ item ∈ args.entries, (∀ loc, paramIn.get item.1 = some (paramLocationStr loc) ↔ DeclaredAt components site item.1 loc) ∧
      (paramIn.get item.1 = none ↔ InBody components site item.1) ∧ (paramIn.get item.1 = none → item.1 ∈ bodyKeys) := by
    intro item inside
    have named : item.1 ∈ args.keys := List.mem_map_of_mem inside
    by_cases parameter : ∃ loc, DeclaredAt components site item.1 loc
    · obtain ⟨loc,there⟩ := parameter
      obtain ⟨other,declares,found⟩ := routes.parameter item.1 loc there
      rw [found]
      refine ⟨fun here => ⟨fun same => ?_,fun again => ?_⟩,⟨fun absent => (by cases absent),fun within => ?_⟩,fun absent => (by cases absent)⟩
      · exact paramLocationStr_injective (Option.some.inj same) ▸ declares
      · rw [carried.once item.1 named other here declares again]
      · exact absurd within (carried.apart item.1 named loc there)
    · have absent : ∀ loc, ¬DeclaredAt components site item.1 loc := fun loc there => parameter ⟨loc,there⟩
      have within := (declared item.1 named).resolve_left parameter
      obtain ⟨unrouted,known⟩ := (routes.body item.1 absent).mpr (carried.reached item.1 named within)
      rw [unrouted]
      exact ⟨fun loc => ⟨fun impossible => (by cases impossible),fun there => absurd there (absent loc)⟩,⟨fun _ => within,fun _ => rfl⟩,fun _ => known⟩
  exact ⟨⟨fun item inside => (each item inside).1,fun item inside => (each item inside).2.1⟩,fun item inside => (each item inside).2.2⟩

-- What the run puts where, when the places agree.
theorem agree_places (agree : Agree components site args paramIn) (loc : ParameterLocation) :
    args.entries.filter (goesTo paramIn (some (paramLocationStr loc))) = argumentsIn components site args loc :=
  filter_places.mpr (fun item inside => agree.parameter item inside loc)

theorem agree_cookies (agree : Agree components site args paramIn) {split : Split} (placed : Placed str paramIn args.entries split) :
    split.cookiePairs = (cookieArguments str components site args).map (fun pair => pair.1 ++ "=" ++ pair.2) := by
  have same := agree_places agree .cookie
  rw [placed.cookies]
  unfold cookieArguments
  rw [← same,List.map_map]
  rfl

theorem agree_headers (agree : Agree components site args paramIn) {split : Split} (placed : Placed str paramIn args.entries split) :
    split.headers.entries = (argumentsIn components site args .header).map (headerLine str) := by
  rw [placed.headers]
  exact congrArg (List.map (headerLine str)) (agree_places agree .header)
theorem isEmpty_false {items : List α} (filled : items ≠ []) : items.isEmpty = false := by
  cases items with
  | nil => exact absurd rfl filled
  | cons item rest => rfl

theorem argument_header {value : Value} : (("Cookie",value) ∈ argumentsIn components site args .header) ↔
    args.get "Cookie" = some value ∧ DeclaredAt components site "Cookie" .header := by
  rw [← Dict.mem_iff]
  exact mem_argumentsAt

theorem agree_faithful (agree : Agree components site args paramIn) (known : ∀ item ∈ args.entries, paramIn.get item.1 = none → item.1 ∈ bodyKeys)
    (carried : Carried str components site args) {split : Split} (placed : Placed str paramIn args.entries split) :
    Faithful str components site args (requestParts bodyKeys split) := by
  have pairs := agree_cookies agree placed
  have lines := agree_headers agree placed
  have texts : split.cookiePairs = [] ↔ cookieArguments str components site args = [] := by rw [pairs,List.map_eq_nil_iff]
  have bodies : args.entries.filter (goesTo paramIn none) = argumentsAt args (InBody components site) :=
    filter_places.mpr (fun item inside => agree.body item inside)
  have json : ((requestParts bodyKeys split).jsonBody.map Dict.entries).getD [] = argumentsAt args (InBody components site) := by
    show ((if bodyKeys = [] then none else some split.body).map Dict.entries).getD [] = _
    by_cases keyless : bodyKeys = []
    · rw [if_pos keyless,← bodies]
      refine (List.filter_eq_nil_iff.mpr (fun item inside goes => ?_)).symm
      have listed := known item inside (of_decide_eq_true goes)
      rw [keyless] at listed
      cases listed
    · rw [if_neg keyless,← bodies]
      exact placed.body
  by_cases bare : cookieArguments str components site args = []
  · have headers : (requestParts bodyKeys split).headers = split.headers := if_pos (texts.mpr bare)
    refine ⟨placed.pathVals.trans (agree_places agree .path),placed.query.trans (agree_places agree .query),?_,?_,json⟩
    · rw [headers,bare,List.isEmpty_nil,if_pos rfl,List.append_nil]
      exact lines
    · rw [headers,bare]
      cases held : split.headers.get "Cookie" with
      | none => rfl
      | some text =>
        have listed := (Dict.mem_iff _).mpr held
        rw [lines] at listed
        obtain ⟨item,inside,same⟩ := List.mem_map.mp listed
        obtain ⟨name,value⟩ := item
        cases same
        obtain ⟨given,declares⟩ := argument_header.mp inside
        exact (carried.header value given declares).2
  · have headers : (requestParts bodyKeys split).headers = split.headers.set "Cookie" ("; ".intercalate split.cookiePairs) :=
      if_neg (fun empty => bare (texts.mp empty))
    have absent : "Cookie" ∉ split.headers.entries.map Prod.fst := by
      rw [lines,List.map_map]
      intro inside
      obtain ⟨⟨name,value⟩,listed,same⟩ := List.mem_map.mp inside
      cases same
      obtain ⟨given,declares⟩ := argument_header.mp listed
      exact bare (carried.header value given declares).1
    refine ⟨placed.pathVals.trans (agree_places agree .path),placed.query.trans (agree_places agree .query),?_,?_,json⟩
    · rw [headers,Dict.get_set_self,isEmpty_false bare,entries_set_absent _ _ absent,lines]
      rfl
    · rw [headers,Dict.get_set_self,Option.getD_some,pairs]
      exact (parseCookies_join _).mpr carried.cookies
-- What is sent as cookies, as pairs.
def sentCookies (str : Value → String) (paramIn : Dict String String) (args : Dict String Value) : List (String × String) :=
  (args.entries.filter (goesTo paramIn (some "cookie"))).map (headerLine str)

theorem sent_pairs {split : Split} (placed : Placed str paramIn args.entries split) :
    split.cookiePairs = (sentCookies str paramIn args).map (fun pair => pair.1 ++ "=" ++ pair.2) := by
  rw [placed.cookies,sentCookies,List.map_map]
  rfl

theorem sent_declared (marks : ∀ name text, paramIn.get name = some text → ∃ loc, DeclaredAt components site name loc ∧ paramLocationStr loc = text)
    {pair : String × String} (inside : pair ∈ sentCookies str paramIn args) : pair ∈ cookieArguments str components site args := by
  obtain ⟨item,listed,same⟩ := List.mem_map.mp inside
  obtain ⟨given,goes⟩ := List.mem_filter.mp listed
  obtain ⟨loc,declares,located⟩ := marks item.1 "cookie" (of_decide_eq_true goes)
  cases paramLocationStr_injective (located.trans (show "cookie" = paramLocationStr .cookie from rfl))
  exact List.mem_map.mpr ⟨item,mem_argumentsAt.mpr ⟨given,declares⟩,same⟩

section Accepted
variable {split : Split}

-- Two `Cookie` headers do not fit into a dictionary.
theorem headers_once (faithful : Faithful str components site args (requestParts bodyKeys split)) (cookies : cookieArguments str components site args ≠ [])
    {item : String × Value} (inside : item ∈ argumentsIn components site args .header) : item.1 ≠ "Cookie" := by
  intro named
  have distinct := (requestParts bodyKeys split).headers.distinct
  rw [faithful.headers,isEmpty_false cookies,List.map_append,List.nodup_append] at distinct
  refine distinct.2.2 item.1 ?_ "Cookie" List.mem_cons_self named
  rw [List.map_map]
  exact List.mem_map.mpr ⟨item,inside,rfl⟩

theorem header_agrees (routes : Routes components site paramIn bodyKeys) (placed : Placed str paramIn args.entries split)
    (faithful : Faithful str components site args (requestParts bodyKeys split)) (together : ¬Alone components site) {item : String × Value}
    (inside : item ∈ args.entries) : paramIn.get item.1 = some "header" ↔ DeclaredAt components site item.1 .header := by
  constructor
  · intro found
    obtain ⟨loc,declares,same⟩ := routes.marks together item.1 "header" found
    cases paramLocationStr_injective (same.trans (show "header" = paramLocationStr .header from rfl))
    exact declares
  · intro declares
    have argument : item ∈ argumentsIn components site args .header := mem_argumentsAt.mpr ⟨inside,declares⟩
    have line : headerLine str item ∈ (requestParts bodyKeys split).headers.entries := by
      rw [faithful.headers]
      exact List.mem_append_left _ (List.mem_map_of_mem argument)
    have sent : headerLine str item ∈ split.headers.entries := by
      by_cases none' : split.cookiePairs = []
      · rwa [requestParts,if_pos none'] at line
      · have cookies : cookieArguments str components site args ≠ [] := by
          intro bare
          rw [sent_pairs placed,List.map_eq_nil_iff] at none'
          obtain ⟨pair,listed⟩ := List.exists_mem_of_ne_nil _ none'
          have declared : pair ∈ cookieArguments str components site args := sent_declared (routes.marks together) listed
          rw [bare] at declared
          cases declared
        have held := (Dict.mem_iff _).mp line
        rw [requestParts,if_neg none'] at held
        dsimp only at held
        rw [Dict.get_set_other _ _ (headers_once faithful cookies argument).symm] at held
        exact (Dict.mem_iff _).mpr held
    rw [placed.headers] at sent
    obtain ⟨other,listed,same⟩ := List.mem_map.mp sent
    obtain ⟨_,goes⟩ := List.mem_filter.mp listed
    have named : other.1 = item.1 := (Prod.mk.inj same).1
    exact named ▸ of_decide_eq_true goes

theorem cookie_agrees (routes : Routes components site paramIn bodyKeys) (placed : Placed str paramIn args.entries split)
    (faithful : Faithful str components site args (requestParts bodyKeys split)) (together : ¬Alone components site) {item : String × Value}
    (inside : item ∈ args.entries) : paramIn.get item.1 = some "cookie" ↔ DeclaredAt components site item.1 .cookie := by
  constructor
  · intro found
    obtain ⟨loc,declares,same⟩ := routes.marks together item.1 "cookie" found
    cases paramLocationStr_injective (same.trans (show "cookie" = paramLocationStr .cookie from rfl))
    exact declares
  · intro declares
    have argument : headerLine str item ∈ cookieArguments str components site args := List.mem_map_of_mem (mem_argumentsAt.mpr ⟨inside,declares⟩)
    have cookies : cookieArguments str components site args ≠ [] := List.ne_nil_of_mem argument
    have lines : args.entries.filter (goesTo paramIn (some "header")) = argumentsIn components site args .header :=
      filter_places.mpr (fun item inside => header_agrees routes placed faithful together inside)
    have some' : split.cookiePairs ≠ [] := by
      intro none'
      have headers := faithful.headers
      rw [isEmpty_false cookies,requestParts,if_pos none'] at headers
      dsimp only at headers
      rw [placed.headers,lines] at headers
      exact absurd (congrArg List.length headers) (by simp)
    have text := faithful.cookies
    rw [requestParts,if_neg some'] at text
    dsimp only at text
    rw [Dict.get_set_self,Option.getD_some,sent_pairs placed] at text
    have clean : ∀ pair ∈ sentCookies str paramIn args, Clean (letters pair) := by
      intro pair listed
      have declared : pair ∈ cookieArguments str components site args := sent_declared (routes.marks together) listed
      rw [← text] at declared
      exact parseCookies_clean declared
    have same := ((parseCookies_join _).mpr clean).symm.trans text
    rw [← same] at argument
    obtain ⟨other,listed,equal⟩ := List.mem_map.mp argument
    obtain ⟨_,goes⟩ := List.mem_filter.mp listed
    have named : other.1 = item.1 := (Prod.mk.inj equal).1
    exact named ▸ of_decide_eq_true goes

theorem body_agrees (placed : Placed str paramIn args.entries split) (faithful : Faithful str components site args (requestParts bodyKeys split))
    (known : ∀ item ∈ args.entries, paramIn.get item.1 = none → item.1 ∈ bodyKeys) {item : String × Value} (inside : item ∈ args.entries) :
    paramIn.get item.1 = none ↔ InBody components site item.1 := by
  have json := faithful.body
  have bodies : args.entries.filter (goesTo paramIn none) = argumentsAt args (InBody components site) := by
    rw [← json]
    by_cases keyless : bodyKeys = []
    · rw [requestParts,if_pos keyless]
      refine List.filter_eq_nil_iff.mpr (fun item inside goes => ?_)
      have listed := known item inside (of_decide_eq_true goes)
      rw [keyless] at listed
      cases listed
    · rw [requestParts,if_neg keyless]
      exact placed.body.symm
  exact filter_places.mp bodies item inside

theorem agree_of_faithful (routes : Routes components site paramIn bodyKeys) (declared : Declared components site args)
    (placed : Placed str paramIn args.entries split) (faithful : Faithful str components site args (requestParts bodyKeys split))
    (known : ∀ item ∈ args.entries, paramIn.get item.1 = none → item.1 ∈ bodyKeys) : Agree components site args paramIn := by
  have body := fun item (inside : item ∈ args.entries) => body_agrees placed faithful known inside
  refine ⟨fun item inside loc => ?_,body⟩
  by_cases alone : Alone components site
  · have within := (declared item.1 (List.mem_map_of_mem inside)).resolve_left (fun ⟨loc,there⟩ => alone item.1 loc there)
    rw [(body item inside).mpr within]
    exact ⟨fun impossible => (by cases impossible),fun there => absurd there (alone item.1 loc)⟩
  · cases loc with
    | path => exact filter_places.mp (placed.pathVals.symm.trans faithful.path) item inside
    | query => exact filter_places.mp (placed.query.symm.trans faithful.query) item inside
    | header => exact header_agrees routes placed faithful alone inside
    | cookie => exact cookie_agrees routes placed faithful alone inside

theorem carried_of_faithful (routes : Routes components site paramIn bodyKeys) (declared : Declared components site args)
    (placed : Placed str paramIn args.entries split) (faithful : Faithful str components site args (requestParts bodyKeys split))
    (known : ∀ item ∈ args.entries, paramIn.get item.1 = none → item.1 ∈ bodyKeys) : Carried str components site args := by
  have agree := agree_of_faithful routes declared placed faithful known
  have given : ∀ name ∈ args.keys, ∃ item ∈ args.entries, item.1 = name := fun name inside => List.mem_map.mp inside
  refine ⟨fun name inside one two first second => ?_,fun name inside loc there within => ?_,fun name inside within => ?_,fun pair listed => ?_,?_⟩
  · obtain ⟨item,listed,same⟩ := given name inside
    subst same
    have found := (agree.parameter item listed one).mpr first
    rw [(agree.parameter item listed two).mpr second] at found
    exact (paramLocationStr_injective (Option.some.inj found)).symm
  · obtain ⟨item,listed,same⟩ := given name inside
    subst same
    have found := (agree.parameter item listed loc).mpr there
    rw [(agree.body item listed).mpr within] at found
    cases found
  · obtain ⟨item,listed,same⟩ := given name inside
    subst same
    have unrouted := (agree.body item listed).mpr within
    refine (routes.body item.1 (fun loc there => ?_)).mp ⟨unrouted,known item listed unrouted⟩
    rw [(agree.parameter item listed loc).mpr there] at unrouted
    cases unrouted
  · rw [← faithful.cookies] at listed
    exact parseCookies_clean listed
  · intro value given declares
    have argument := argument_header.mpr ⟨given,declares⟩
    have bare : cookieArguments str components site args = [] := by
      by_cases cookies : cookieArguments str components site args = []
      · exact cookies
      · exact absurd rfl (headers_once faithful cookies argument)
    have line : ("Cookie",str value) ∈ (requestParts bodyKeys split).headers.entries := by
      rw [faithful.headers]
      exact List.mem_append_left _ (List.mem_map.mpr ⟨("Cookie",value),argument,rfl⟩)
    have text := faithful.cookies
    rw [(Dict.mem_iff _).mp line,bare] at text
    exact ⟨bare,text⟩
end Accepted

theorem agree_admitted {inputSchema : Option Value} (declared : Declared components site args)
    (agree : Agree components site args (parseInputSchemaRouting inputSchema).1)
    (known : ∀ item ∈ args.entries, (parseInputSchemaRouting inputSchema).1.get item.1 = none → item.1 ∈ (parseInputSchemaRouting inputSchema).2) :
    Admitted inputSchema args := by
  refine ⟨fun absent => ?_,fun name inside => ?_,fun item inside text found => ?_⟩
  · subst absent
    refine List.eq_nil_iff_forall_not_mem.mpr (fun name inside => ?_)
    obtain ⟨item,listed,_⟩ := List.mem_map.mp inside
    exact List.not_mem_nil (known item listed rfl)
  · obtain ⟨item,listed,same⟩ := List.mem_map.mp inside
    subst same
    by_cases unrouted : (parseInputSchemaRouting inputSchema).1.get item.1 = none
    · exact .inr (known item listed unrouted)
    · exact .inl (Decidable.not_not.mp (fun absent => unrouted ((Dict.get_none_iff _).mpr absent)))
  · rcases declared item.1 (List.mem_map_of_mem inside) with ⟨loc,there⟩ | within
    · rw [(agree.parameter item inside loc).mpr there] at found
      cases found
      cases loc <;> simp [paramLocationStr]
    · rw [(agree.body item inside).mpr within] at found
      cases found

theorem operation_faithful {lower : String → String} {fuel : Nat} {cap : OpenAPICapability} (made : capability lower components fuel site = some cap)
    (declared : Declared components site args) :
    (∃ parts, splitArgumentsForRequest str cap.skill.inputSchema args = .ok parts ∧ Faithful str components site args parts) ↔
      Carried str components site args := by
  have routes := made_routes made
  constructor
  · rintro ⟨parts,accepted,faithful⟩
    obtain ⟨admitted,split,placed,same⟩ := split_accepted accepted
    subst same
    refine carried_of_faithful routes declared placed faithful (fun item inside unrouted => ?_)
    exact (admitted.allowed item.1 (List.mem_map_of_mem inside)).resolve_left ((Dict.get_none_iff _).mp unrouted)
  · intro carried
    obtain ⟨agree,known⟩ := agree_of_carried routes declared carried
    have admitted := agree_admitted declared agree known
    obtain ⟨split,placed,accepted⟩ : ∃ split, Placed str (parseInputSchemaRouting cap.skill.inputSchema).1 args.entries split ∧
        splitArgumentsForRequest str cap.skill.inputSchema args = .ok (requestParts (parseInputSchemaRouting cap.skill.inputSchema).2 split) :=
      split_admitted admitted
    exact ⟨_,accepted,agree_faithful agree known carried placed⟩
end Calls

-- Every mapped operation with its capability, for every call with names the operation has declared.
theorem mapped_faithful (str : Value → String) {lower : String → String} {doc : OpenAPIDocument} {spec : DefaultCapabilitiesFilter} {fuel : Nat}
    {caps : List OpenAPICapability} (mapped : mapOpenapiToCapabilities lower doc spec fuel = some caps) :
    List.Forall₂ (fun site cap => ∀ args, Declared doc.components site args →
      ((∃ parts, splitArgumentsForRequest str cap.skill.inputSchema args = .ok parts ∧ Faithful str doc.components site args parts) ↔
        Carried str doc.components site args)) (selected lower doc spec) caps :=
  (mapM_each mapped).imp (fun _ _ made _ declared => operation_faithful made declared)

section Paged
def limitParameter : Parameter := ⟨"limit",.query,false,none,none,.empty⟩

def sidParameter : Parameter := ⟨"sid",.cookie,false,none,none,.empty⟩

def pagedOperation : Operation := ⟨none,none,none,[.object limitParameter,.object sidParameter],none,.empty⟩

def pagedItem : PathItem where
  operation method := if method = .get then some pagedOperation else none
  summary := none
  description := none
  parameters := []

def pagedDocument : OpenAPIDocument := ⟨Dict.empty.set "/pets" pagedItem,none⟩

def pagedSite : Site := ⟨"/pets",pagedItem,.get,pagedOperation⟩

def pagedArguments : Dict String Value := (Dict.empty.set "limit" (.str "5")).set "sid" (.str "abc")

def plainText : Value → String
  | .str text => text
  | _ => ""

theorem paged_declaredAt (name : String) (loc : ParameterLocation) : DeclaredAt none pagedSite name loc ↔
    (name = "limit" ∧ loc = .query) ∨ (name = "sid" ∧ loc = .cookie) := by
  have merged : mergeParameters none 0 pagedSite.pathItem pagedSite.operation = some [limitParameter,sidParameter] := rfl
  rw [declaredAt_iff merged]
  simp [limitParameter,sidParameter,eq_comm]

theorem paged_bodiless (name : String) : ¬InBody none pagedSite name := by
  rintro ⟨schema,⟨obj,body,impossible,_⟩,_⟩
  cases impossible

theorem paged_declared : Declared none pagedSite pagedArguments := by
  intro name inside
  have either : name = "limit" ∨ name = "sid" := by simpa using (show name ∈ ["limit","sid"] from inside)
  rcases either with rfl | rfl
  · exact .inl ⟨.query,(paged_declaredAt _ _).mpr (.inl ⟨rfl,rfl⟩)⟩
  · exact .inl ⟨.cookie,(paged_declaredAt _ _).mpr (.inr ⟨rfl,rfl⟩)⟩

theorem paged_carried : Carried plainText none pagedSite pagedArguments := by
  refine ⟨fun name _ one two first second => ?_,fun name _ _ _ => paged_bodiless name,fun name _ within => absurd within (paged_bodiless name),?_,?_⟩
  · rw [paged_declaredAt] at first second
    rcases first with ⟨rfl,rfl⟩ | ⟨rfl,rfl⟩
    · exact (second.elim (fun both => both.2) (fun both => absurd both.1 (by simp))).symm
    · exact (second.elim (fun both => absurd both.1 (by simp)) (fun both => both.2)).symm
  · intro pair listed
    obtain ⟨item,inside,same⟩ := List.mem_map.mp listed
    obtain ⟨given,declares⟩ := mem_argumentsAt.mp inside
    have either : item = ("limit",.str "5") ∨ item = ("sid",.str "abc") := by
      simpa using (show item ∈ [("limit",Value.str "5"),("sid",Value.str "abc")] from given)
    rcases either with rfl | rfl
    · exact absurd ((paged_declaredAt _ _).mp declares) (by simp)
    · subst same
      refine ⟨⟨?_,?_,?_⟩,⟨?_,?_⟩,?_⟩ <;> decide +kernel
  · intro value given
    cases given

theorem paged_mapped : ∃ cap, mapOpenapiToCapabilities id pagedDocument (.predicate (fun _ => true)) 0 = some [cap] := by
  obtain ⟨cap,made⟩ : ∃ cap, capability id none 0 pagedSite = some cap := ⟨_,rfl⟩
  refine ⟨cap,?_⟩
  have sites : selected id pagedDocument (.predicate (fun _ => true)) = [pagedSite] := rfl
  unfold mapOpenapiToCapabilities
  rw [sites]
  show List.mapM (capability id none 0) _ = _
  rw [List.mapM_cons,made]
  rfl

theorem mapped_faithful_paged : ∃ caps, mapOpenapiToCapabilities id pagedDocument (.predicate (fun _ => true)) 0 = some caps ∧
    List.Forall₂ (fun site cap => ∃ parts, splitArgumentsForRequest plainText cap.skill.inputSchema pagedArguments = .ok parts ∧
      Faithful plainText none site pagedArguments parts) [pagedSite] caps := by
  obtain ⟨cap,mapped⟩ := paged_mapped
  have each := mapped_faithful plainText mapped
  rw [show selected id pagedDocument (.predicate (fun _ => true)) = [pagedSite] from rfl] at each
  refine ⟨[cap],mapped,?_⟩
  cases each with
  | cons faithful _ => exact .cons ((faithful pagedArguments paged_declared).mpr paged_carried) .nil
end Paged

section Composed
def typedPart (name : String) : Value :=
  .dict [(.str "type",.str "object"),(.str "properties",.dict [(.str name,.dict [(.str "type",.str "string")])])]

-- A body of two schemas, and no parameters.
def composedSchema : Value := .dict [(.str "allOf",.list [typedPart "name",typedPart "tag"])]

def composedBody : RequestBody := ⟨Dict.empty.set "application/json" ⟨some (.object composedSchema)⟩⟩

def composedOperation : Operation := ⟨none,none,none,[],some (.object composedBody),.empty⟩

def composedItem : PathItem where
  operation method := if method = .post then some composedOperation else none
  summary := none
  description := none
  parameters := []

def composedDocument : OpenAPIDocument := ⟨Dict.empty.set "/pets" composedItem,none⟩

def composedSite : Site := ⟨"/pets",composedItem,.post,composedOperation⟩

def composedArguments : Dict String Value := Dict.empty.set "name" (.str "Rex")

theorem composed_expands : expandRefs .empty maxDepth [] composedSchema = composedSchema := by rfl

theorem composed_hasBody (schema : Value) : HasBody none composedSite schema ↔ schema = composedSchema := by
  have expanded : bodyJsonSchema (rawSchemas none) (some composedBody) = some composedSchema := congrArg some composed_expands
  have resolved : resolveBody none 0 composedSite.operation.requestBody = some (some composedBody) := rfl
  rw [hasBody_iff resolved,expanded,Option.some.injEq,eq_comm]

theorem composed_declared : Declared none composedSite composedArguments := by
  intro name inside
  rw [List.mem_singleton.mp inside]
  refine .inr ⟨composedSchema,(composed_hasBody _).mpr rfl,.part (List.mem_cons_self : typedPart "name" ∈ _) ?_⟩
  exact .property rfl List.mem_cons_self

theorem composed_alone : Alone none composedSite := by
  rintro name loc ⟨obj,inside,_⟩
  cases inside

-- Only the second schema is looked at.
theorem composed_unreached : ¬Reached none composedSite "name" := by
  rintro ⟨schema,body,alone,_⟩
  rw [composed_hasBody] at body
  subst body
  obtain ⟨⟨part,inside,seen⟩,_⟩ := alone composed_alone
  rw [List.mem_singleton.mp (show part ∈ [typedPart "tag"] from inside)] at seen
  have known := (mem_collect "name" (typedPart "tag")).mpr seen
  rw [typedPart,collectBodyPropertyKeys] at known
  exact absurd known (by decide +kernel)

theorem composed_mapped : ∃ cap, capability id none 0 composedSite = some cap ∧
    mapOpenapiToCapabilities id composedDocument (.predicate (fun _ => true)) 0 = some [cap] := by
  obtain ⟨cap,made⟩ : ∃ cap, capability id none 0 composedSite = some cap := ⟨_,rfl⟩
  refine ⟨cap,made,?_⟩
  have sites : selected id composedDocument (.predicate (fun _ => true)) = [composedSite] := rfl
  unfold mapOpenapiToCapabilities
  rw [sites]
  show List.mapM (capability id none 0) _ = _
  rw [List.mapM_cons,made]
  rfl

theorem composed_rejected : ¬∀ (str : Value → String) (lower : String → String) (doc : OpenAPIDocument) (spec : DefaultCapabilitiesFilter) (fuel : Nat)
    (caps : List OpenAPICapability), mapOpenapiToCapabilities lower doc spec fuel = some caps →
      List.Forall₂ (fun site cap => ∀ args, Declared doc.components site args →
        ∃ parts, splitArgumentsForRequest str cap.skill.inputSchema args = .ok parts ∧ Faithful str doc.components site args parts) (selected lower doc spec) caps := by
  intro every
  obtain ⟨cap,made,mapped⟩ := composed_mapped
  have each := every (fun _ => "") id composedDocument _ 0 [cap] mapped
  rw [show selected id composedDocument (.predicate (fun _ => true)) = [composedSite] from rfl] at each
  cases each with
  | cons faithful _ =>
    have carried := (operation_faithful made composed_declared).mp (faithful composedArguments composed_declared)
    have within := (composed_declared "name" List.mem_cons_self).resolve_left (fun ⟨loc,there⟩ => composed_alone "name" loc there)
    exact composed_unreached (carried.reached "name" List.mem_cons_self within)
end Composed

end Asap.OpenapiRouting
