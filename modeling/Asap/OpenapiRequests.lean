import Asap.OpenapiMapping
import Mathlib.Data.List.Dedup

-- `_split_arguments_for_request`: the arguments of a call, back at their places of the request.
namespace Asap.OpenapiRequests
open OrderedDict PythonValue OpenapiMapping

inductive InvocationError where
  | noSchema (unexpected : List String)
  | unexpected (names allowed : List String)
  | unsupportedLocation (name location : String)
  deriving DecidableEq

-- `repr` stands for itself.
def InvocationError.message (repr : String → String) : InvocationError → String
  | .noSchema _ => "Unexpected arguments for capability with no input schema."
  | .unexpected names _ => "Unexpected argument name(s): " ++ ", ".intercalate names ++ "."
  | .unsupportedLocation name location => "Unsupported OpenAPI parameter location " ++ repr location ++ " for " ++ repr name ++ "."

-- In the dump of a schema `properties` is a dictionary and `allOf` a list.
def typedProperties (schema : List (Key × Value)) : Option (List (Key × Value)) :=
  match lookupItem "type" schema,lookupItem "properties" schema with
  | some (.str kind),some properties => if kind = "object" then some (dictItems properties) else none
  | _,_ => none

def listItems : Value → List Value
  | .list items => items
  | _ => []

def allOfParts (schema : List (Key × Value)) : List Value := ((lookupItem "allOf" schema).map listItems).getD []

def propertyNames (properties : List (Key × Value)) : List String := properties.filterMap (fun item => item.1.string)

def isDict : Value → Bool
  | .dict _ => true
  | _ => false

-- The location the mapper has put into the schema of a parameter.
def paramMark (sub : Value) : Option String :=
  match lookupItem "x-openapi-param-in" (dictItems sub) with
  | some (.str loc) => some loc
  | _ => none

def marked (properties : List (Key × Value)) : List (String × String) :=
  properties.filterMap (fun item => item.1.string.bind (fun name => (paramMark item.2).map (fun loc => (name,loc))))

def paramPropsFromObject (obj : Value) (paramIn : Dict String String) : Dict String String :=
  match typedProperties (dictItems obj) with
  | none => paramIn
  | some properties => (marked properties).foldl (fun paramIn item => paramIn.set item.1 item.2) paramIn

theorem part_smaller {schema : List (Key × Value)} {part : Value} (inside : part ∈ allOfParts schema) : sizeOf part < sizeOf (Value.dict schema) := by
  unfold allOfParts at inside
  cases found : lookupItem "allOf" schema with
  | none =>
    rw [found] at inside
    cases inside
  | some parts =>
    rw [found] at inside
    obtain ⟨item,there,same⟩ := Option.map_eq_some_iff.mp found
    have listed := List.sizeOf_lt_of_mem (List.mem_of_find?_eq_some there)
    cases parts with
    | list parts =>
      have within := List.sizeOf_lt_of_mem (show part ∈ parts from inside)
      have second : sizeOf item.2 < sizeOf item := by
        cases item
        simp only [Prod.mk.sizeOf_spec]
        omega
      rw [same] at second
      simp only [Value.list.sizeOf_spec,Value.dict.sizeOf_spec] at *
      omega
    | _ => cases inside

def collectBodyPropertyKeys (part : Value) : List String :=
  match part with
  | .dict schema =>
    match typedProperties schema with
    | some properties => propertyNames properties
    | none => (allOfParts schema).attach.flatMap (fun child => collectBodyPropertyKeys child.1)
  | _ => []
termination_by sizeOf part
decreasing_by exact part_smaller child.2

def bodyNames (properties : List (Key × Value)) : List String :=
  properties.filterMap (fun item => if isDict item.2 ∧ paramMark item.2 = none then item.1.string else none)

def parseInputSchemaRouting (inputSchema : Option Value) : Dict String String × List String :=
  match inputSchema with
  | none => (.empty,[])
  | some schema =>
    match lookupItem "allOf" (dictItems schema) with
    | some parts =>
      (match (listItems parts).head? with
        | some first => paramPropsFromObject first .empty
        | none => .empty,
      (listItems parts).tail.flatMap collectBodyPropertyKeys)
    | none =>
      match typedProperties (dictItems schema) with
      | some properties => ((marked properties).foldl (fun paramIn item => paramIn.set item.1 item.2) .empty,bodyNames properties)
      | none => (.empty,[])

structure RequestParts where
  pathVals : Dict String Value
  query : Dict String Value
  headers : Dict String String
  jsonBody : Option (Dict String Value)

structure Split where
  pathVals : Dict String Value
  query : Dict String Value
  headers : Dict String String
  cookiePairs : List String
  body : Dict String Value

def Split.start : Split := ⟨.empty,.empty,.empty,[],.empty⟩

-- `str` stands for itself.
section Arguments
variable (str : Value → String)

def cookieText (item : String × Value) : String := item.1 ++ "=" ++ str item.2

def placeArgument (paramIn : Dict String String) (split : Split) (item : String × Value) : Except InvocationError Split :=
  match paramIn.get item.1 with
  | none => .ok { split with body := split.body.set item.1 item.2 }
  | some loc =>
    if loc = "path" then .ok { split with pathVals := split.pathVals.set item.1 item.2 }
    else if loc = "query" then .ok { split with query := split.query.set item.1 item.2 }
    else if loc = "header" then .ok { split with headers := split.headers.set item.1 (str item.2) }
    else if loc = "cookie" then .ok { split with cookiePairs := split.cookiePairs ++ [cookieText str item] }
    else .error (.unsupportedLocation item.1 loc)

def sortedNames (names : List String) : List String := names.insertionSort (fun one two => one ≤ two)

def requestParts (bodyKeys : List String) (split : Split) : RequestParts where
  pathVals := split.pathVals
  query := split.query
  headers := if split.cookiePairs = [] then split.headers else split.headers.set "Cookie" ("; ".intercalate split.cookiePairs)
  jsonBody := if bodyKeys = [] then none else some split.body

def splitArgumentsForRequest (inputSchema : Option Value) (args : Dict String Value) : Except InvocationError RequestParts :=
  let (paramIn,bodyKeys) := parseInputSchemaRouting inputSchema
  let allowed := (paramIn.keys ++ bodyKeys).dedup
  if inputSchema.isNone ∧ args.keys ≠ [] then .error (.noSchema (sortedNames args.keys))
  else
    let extras := args.keys.filter (fun name => name ∉ allowed)
    if extras ≠ [] then .error (.unexpected (sortedNames extras) (sortedNames allowed))
    else (args.entries.foldlM (placeArgument str paramIn) Split.start).map (requestParts bodyKeys)
end Arguments

theorem entries_set_absent (dict : Dict String α) (value : α) (absent : key ∉ dict.entries.map Prod.fst) :
    (dict.set key value).entries = dict.entries ++ [(key,value)] := assign_absent key value absent

section Run
variable (str : Value → String) (paramIn : Dict String String)

-- The location of an argument; the body has none.
def goesTo (place : Option String) (item : String × Value) : Bool := decide (paramIn.get item.1 = place)

def Supported (name : String) : Prop := ∀ loc, paramIn.get name = some loc → loc ∈ ["path","query","header","cookie"]

def headerLine (item : String × Value) : String × String := (item.1,str item.2)

structure Placed (items : List (String × Value)) (split : Split) : Prop where
  pathVals : split.pathVals.entries = items.filter (goesTo paramIn (some "path"))
  query : split.query.entries = items.filter (goesTo paramIn (some "query"))
  headers : split.headers.entries = (items.filter (goesTo paramIn (some "header"))).map (headerLine str)
  cookies : split.cookiePairs = (items.filter (goesTo paramIn (some "cookie"))).map (cookieText str)
  body : split.body.entries = items.filter (goesTo paramIn none)

variable {str paramIn}

theorem Placed.start : Placed str paramIn [] Split.start := ⟨rfl,rfl,rfl,rfl,rfl⟩

theorem placed_here {items : List (String × Value)} {item : String × Value} {place : Option String} (there : paramIn.get item.1 = place) :
    (items ++ [item]).filter (goesTo paramIn place) = items.filter (goesTo paramIn place) ++ [item] := by
  rw [List.filter_append,List.filter_singleton,goesTo,decide_eq_true there]
  rfl

theorem placed_elsewhere {items : List (String × Value)} {item : String × Value} {place : Option String} (there : paramIn.get item.1 ≠ place) :
    (items ++ [item]).filter (goesTo paramIn place) = items.filter (goesTo paramIn place) := by
  rw [List.filter_append,List.filter_singleton,goesTo,decide_eq_false there]
  exact List.append_nil _

theorem placed_fresh {items : List (String × Value)} {item : String × Value} (fresh : item.1 ∉ items.map Prod.fst) (keep : String × Value → Bool) :
    item.1 ∉ (items.filter keep).map Prod.fst := fun inside => fresh ((List.filter_sublist.map Prod.fst).subset inside)

theorem place_step {items : List (String × Value)} {split : Split} {item : String × Value} (placed : Placed str paramIn items split)
    (fresh : item.1 ∉ items.map Prod.fst) (supported : Supported paramIn item.1) :
    ∃ next, placeArgument str paramIn split item = .ok next ∧ Placed str paramIn (items ++ [item]) next := by
  unfold placeArgument
  cases there : paramIn.get item.1 with
  | none =>
    have away : ∀ loc, (items ++ [item]).filter (goesTo paramIn (some loc)) = items.filter (goesTo paramIn (some loc)) :=
      fun loc => placed_elsewhere (by simp [there])
    refine ⟨_,rfl,?_,?_,?_,?_,?_⟩
    · rw [away,placed.pathVals]
    · rw [away,placed.query]
    · rw [away,placed.headers]
    · rw [away,placed.cookies]
    · rw [placed_here there,entries_set_absent _ _ (placed.body ▸ placed_fresh fresh _),placed.body]
  | some loc =>
    have away : ∀ place, some loc ≠ place → (items ++ [item]).filter (goesTo paramIn place) = items.filter (goesTo paramIn place) :=
      fun place different => placed_elsewhere (there ▸ different)
    have known := supported loc there
    simp only [List.mem_cons,List.not_mem_nil,or_false] at known
    rcases known with same | same | same | same <;> subst same
    · refine ⟨_,if_pos rfl,?_,?_,?_,?_,?_⟩
      · rw [placed_here there,entries_set_absent _ _ (placed.pathVals ▸ placed_fresh fresh _),placed.pathVals]
      · rw [away _ (by simp),placed.query]
      · rw [away _ (by simp),placed.headers]
      · rw [away _ (by simp),placed.cookies]
      · rw [away _ (by simp),placed.body]
    · refine ⟨_,(if_neg (by simp)).trans (if_pos rfl),?_,?_,?_,?_,?_⟩
      · rw [away _ (by simp),placed.pathVals]
      · rw [placed_here there,entries_set_absent _ _ (placed.query ▸ placed_fresh fresh _),placed.query]
      · rw [away _ (by simp),placed.headers]
      · rw [away _ (by simp),placed.cookies]
      · rw [away _ (by simp),placed.body]
    · refine ⟨_,(if_neg (by simp)).trans ((if_neg (by simp)).trans (if_pos rfl)),?_,?_,?_,?_,?_⟩
      · rw [away _ (by simp),placed.pathVals]
      · rw [away _ (by simp),placed.query]
      · have absent : item.1 ∉ split.headers.entries.map Prod.fst := by
          rw [placed.headers,List.map_map]
          exact placed_fresh fresh _
        rw [placed_here there,entries_set_absent _ _ absent,placed.headers,List.map_append]
        rfl
      · rw [away _ (by simp),placed.cookies]
      · rw [away _ (by simp),placed.body]
    · refine ⟨_,(if_neg (by simp)).trans ((if_neg (by simp)).trans ((if_neg (by simp)).trans (if_pos rfl))),?_,?_,?_,?_,?_⟩
      · rw [away _ (by simp),placed.pathVals]
      · rw [away _ (by simp),placed.query]
      · rw [away _ (by simp),placed.headers]
      · rw [placed_here there,List.map_append,placed.cookies]
        rfl
      · rw [away _ (by simp),placed.body]

theorem place_run (items : List (String × Value)) (distinct : (items.map Prod.fst).Nodup) (supported : ∀ item ∈ items, Supported paramIn item.1) :
    ∃ split, items.foldlM (placeArgument str paramIn) Split.start = .ok split ∧ Placed str paramIn items split := by
  induction items using List.reverseRecOn with
  | nil => exact ⟨_,rfl,.start⟩
  | append_singleton items item ih =>
    rw [List.map_append,List.nodup_append] at distinct
    obtain ⟨split,run,placed⟩ := ih distinct.1 (fun item inside => supported item (List.mem_append_left _ inside))
    have fresh : item.1 ∉ items.map Prod.fst := fun inside => distinct.2.2 item.1 inside item.1 List.mem_cons_self rfl
    obtain ⟨next,step,after⟩ := place_step placed fresh (supported item (List.mem_append_right _ List.mem_cons_self))
    refine ⟨next,?_,after⟩
    rw [List.foldlM_append,run]
    show (List.foldlM (placeArgument str paramIn) split [item]) = _
    rw [List.foldlM_cons,step]
    rfl

theorem placeArgument_supported {split next : Split} {item : String × Value} (step : placeArgument str paramIn split item = .ok next) :
    Supported paramIn item.1 := by
  intro loc there
  rw [placeArgument,there] at step
  by_cases known : loc ∈ ["path","query","header","cookie"]
  · exact known
  · simp only [List.mem_cons,List.not_mem_nil,or_false,not_or] at known
    obtain ⟨path,query,header,cookie⟩ := known
    simp only [if_neg path,if_neg query,if_neg header,if_neg cookie] at step
    cases step

theorem place_supported {items : List (String × Value)} {start split : Split} (run : items.foldlM (placeArgument str paramIn) start = .ok split) :
    ∀ item ∈ items, Supported paramIn item.1 := by
  induction items generalizing start with
  | nil => exact fun _ inside => (by cases inside)
  | cons item rest ih =>
    rw [List.foldlM_cons] at run
    cases step : placeArgument str paramIn start item with
    | error error =>
      rw [step] at run
      cases run
    | ok next =>
      rw [step] at run
      exact List.forall_mem_cons.mpr ⟨placeArgument_supported step,ih run⟩

-- When a call is accepted.
structure Admitted (inputSchema : Option Value) (args : Dict String Value) : Prop where
  schema : inputSchema = none → args.keys = []
  allowed : ∀ name ∈ args.keys, name ∈ (parseInputSchemaRouting inputSchema).1.keys ∨ name ∈ (parseInputSchemaRouting inputSchema).2
  supported : ∀ item ∈ args.entries, Supported (parseInputSchemaRouting inputSchema).1 item.1

theorem mem_allowed {name : String} (bodyKeys : List String) : name ∈ (paramIn.keys ++ bodyKeys).dedup ↔ name ∈ paramIn.keys ∨ name ∈ bodyKeys := by
  rw [List.mem_dedup,List.mem_append]

theorem split_accepted {inputSchema : Option Value} {args : Dict String Value} {parts : RequestParts}
    (accepted : splitArgumentsForRequest str inputSchema args = .ok parts) : Admitted inputSchema args ∧
      ∃ split, Placed str (parseInputSchemaRouting inputSchema).1 args.entries split ∧ parts = requestParts (parseInputSchemaRouting inputSchema).2 split := by
  unfold splitArgumentsForRequest at accepted
  dsimp only at accepted
  split at accepted
  · cases accepted
  · rename_i given
    split at accepted
    · cases accepted
    · rename_i within
      rw [ne_eq,Decidable.not_not,List.filter_eq_nil_iff] at within
      obtain ⟨split,run,same⟩ : ∃ split, args.entries.foldlM (placeArgument str (parseInputSchemaRouting inputSchema).1) Split.start = .ok split ∧
          requestParts (parseInputSchemaRouting inputSchema).2 split = parts := by
        cases run : args.entries.foldlM (placeArgument str (parseInputSchemaRouting inputSchema).1) Split.start with
        | error error =>
          rw [run] at accepted
          cases accepted
        | ok split =>
          rw [run] at accepted
          exact ⟨split,rfl,Except.ok.inj accepted⟩
      have supported := place_supported run
      obtain ⟨other,again,placed⟩ := place_run args.entries args.distinct supported
      cases run.symm.trans again
      refine ⟨⟨fun absent => ?_,fun name inside => ?_,supported⟩,split,placed,same.symm⟩
      · exact Decidable.not_not.mp (fun passed => given ⟨Option.isNone_iff_eq_none.mpr absent,passed⟩)
      · have listed := within name inside
        rw [decide_eq_true_eq,Decidable.not_not] at listed
        exact (mem_allowed _).mp listed

theorem split_admitted {inputSchema : Option Value} {args : Dict String Value} (admitted : Admitted inputSchema args) :
    ∃ split, Placed str (parseInputSchemaRouting inputSchema).1 args.entries split ∧
      splitArgumentsForRequest str inputSchema args = .ok (requestParts (parseInputSchemaRouting inputSchema).2 split) := by
  obtain ⟨split,run,placed⟩ := place_run args.entries args.distinct admitted.supported
  have given : ¬(inputSchema.isNone = true ∧ args.keys ≠ []) := fun ⟨absent,given⟩ => given (admitted.schema (Option.isNone_iff_eq_none.mp absent))
  have within : args.keys.filter (fun name => name ∉ ((parseInputSchemaRouting inputSchema).1.keys ++ (parseInputSchemaRouting inputSchema).2).dedup) = [] := by
    refine List.filter_eq_nil_iff.mpr (fun name inside => ?_)
    rw [decide_eq_true_eq,Decidable.not_not]
    exact (mem_allowed _).mpr (admitted.allowed name inside)
  refine ⟨split,placed,?_⟩
  unfold splitArgumentsForRequest
  dsimp only
  rw [if_neg given,if_neg (by rw [within]; exact fun wrong => wrong rfl),run]
  rfl
end Run

end Asap.OpenapiRequests
