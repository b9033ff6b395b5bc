import Asap.Fueled
import Asap.OpenapiMapping

-- Where the references of a document lead, and which documents the mapping comes to an end on.
namespace Asap.OpenapiReferences
open OrderedDict PythonValue OpenapiMapping Fueled Relation

section References
variable (start : String) (bag : Option (Dict String (Ref α)))

def next : Ref α → Option (Ref α)
  | .object _ => none
  | .reference ref => (refFragment ref start).bind (fun key => bag.bind (fun bag => bag.get key))

def held : Ref α → Option α
  | .object value => some value
  | .reference _ => none

variable {start bag}

theorem resolve_follow (fuel : Nat) (obj : Ref α) : resolve start bag fuel obj = (follow (next start bag) fuel obj).map held := by
  induction fuel generalizing obj with
  | zero =>
    cases obj with
    | object value => rfl
    | reference ref =>
      have step : next start bag (.reference ref) = (refFragment ref start).bind (fun key => bag.bind (fun bag => bag.get key)) := rfl
      rw [resolve,follow,step]
      cases (refFragment ref start).bind (fun key => bag.bind (fun bag => bag.get key)) <;> rfl
  | succ fuel ih =>
    cases obj with
    | object value => rfl
    | reference ref =>
      have step : next start bag (.reference ref) = (refFragment ref start).bind (fun key => bag.bind (fun bag => bag.get key)) := rfl
      rw [resolve,follow,step]
      cases (refFragment ref start).bind (fun key => bag.bind (fun bag => bag.get key)) with
      | none => rfl
      | some target => exact ih target

theorem resolve_persists (obj : Ref α) : Persists (fun fuel => resolve start bag fuel obj) := by
  have same : (fun fuel => resolve start bag fuel obj) = fun fuel => (follow (next start bag) fuel obj).map held :=
    funext (fun fuel => resolve_follow fuel obj)
  rw [same]
  exact (follow_persists obj).map held

def bagValues (bag : Option (Dict String (Ref α))) : List (Ref α) := (bag.map Dict.values).getD []

theorem next_listed {obj target : Ref α} (step : next start bag obj = some target) : target ∈ bagValues bag := by
  cases obj with
  | object value => cases step
  | reference ref =>
    obtain ⟨key,_,found⟩ := Option.bind_eq_some_iff.mp step
    obtain ⟨rows,same,got⟩ := Option.bind_eq_some_iff.mp found
    subst same
    exact List.mem_map_of_mem (find_some_mem got)

theorem returns_resolve (obj : Ref α) : Returns (fun fuel => resolve start bag fuel obj) ↔ ¬RunsIntoCycle (next start bag) obj := by
  have same : (fun fuel => resolve start bag fuel obj) = fun fuel => (follow (next start bag) fuel obj).map held :=
    funext (fun fuel => resolve_follow fuel obj)
  rw [same,returns_map]
  exact returns_follow (bagValues bag) (fun _ _ step => next_listed step) obj
-- The object at the end of the way.
def StandsFor (start : String) (bag : Option (Dict String (Ref α))) (obj : Ref α) (value : α) : Prop :=
  ReflTransGen (Leads (next start bag)) obj (.object value)

theorem yields_resolve (obj : Ref α) (value : α) : Yields (fun fuel => resolve start bag fuel obj) (some value) ↔ StandsFor start bag obj value := by
  constructor
  · rintro ⟨fuel,found⟩
    obtain ⟨last,followed,same⟩ := Option.map_eq_some_iff.mp ((resolve_follow fuel obj).symm.trans found)
    obtain ⟨way,_⟩ := follow_way followed
    cases last with
    | reference ref => cases same
    | object stands =>
      cases same
      exact way
  · intro way
    obtain ⟨fuel,found⟩ := (yields_follow obj (.object value)).mpr ⟨way,rfl⟩
    exact ⟨fuel,(resolve_follow fuel obj).trans (congrArg (Option.map held) found)⟩
end References

def nextParameter (components : Option Components) : Ref Parameter → Option (Ref Parameter) :=
  next "#/components/parameters/" (components.map Components.parameters)

def nextRequestBody (components : Option Components) : Ref RequestBody → Option (Ref RequestBody) :=
  next "#/components/requestBodies/" (components.map Components.requestBodies)

def nextResponse (components : Option Components) : Ref Response → Option (Ref Response) :=
  next "#/components/responses/" (components.map Components.responses)

def ResponseIs (components : Option Components) : Ref Response → Response → Prop :=
  StandsFor "#/components/responses/" (components.map Components.responses)

variable (lower : String → String) (components : Option Components)

-- No reference of the operation that the mapping follows runs into a cycle. A response is only
-- looked at when the responses before it did not have what is looked for.
structure OperationSettles (pathItem : PathItem) (operation : Operation) : Prop where
  parameters : ∀ parameter ∈ pathItem.parameters ++ operation.parameters, ¬RunsIntoCycle (nextParameter components) parameter
  requestBody : ∀ body, operation.requestBody = some body → ¬RunsIntoCycle (nextRequestBody components) body
  success : ∀ before code after, successCodes = before ++ code :: after →
    (∀ earlier ∈ before, ∀ passed, operation.responses.get earlier = some passed →
      ∀ response, ResponseIs components passed response → response.content.get "application/json" = none) →
    ∀ response, operation.responses.get code = some response → ¬RunsIntoCycle (nextResponse components) response
  stream : ∀ before response after, operation.responses.values = before ++ response :: after →
    (∀ earlier ∈ before, ∀ response, ResponseIs components earlier response → advertisesEventStream lower (some response) = false) →
    ¬RunsIntoCycle (nextResponse components) response

theorem mergeParameters_persists (pathItem : PathItem) (operation : Operation) :
    Persists (fun fuel => mergeParameters components fuel pathItem operation) :=
  (Persists.mapM (fun parameter => resolve_persists parameter) (pathItem.parameters ++ operation.parameters)).map _

theorem returns_mergeParameters (pathItem : PathItem) (operation : Operation) : Returns (fun fuel => mergeParameters components fuel pathItem operation) ↔
    ∀ parameter ∈ pathItem.parameters ++ operation.parameters, ¬RunsIntoCycle (nextParameter components) parameter := by
  unfold mergeParameters resolveParameter
  rw [returns_map,returns_mapM (fun parameter => resolve_persists parameter)]
  exact forall₂_congr (fun parameter _ => returns_resolve parameter)

theorem resolveBody_persists (body : Option (Ref RequestBody)) : Persists (fun fuel => resolveBody components fuel body) := by
  cases body with
  | none => exact Persists.const (some none)
  | some body => exact resolve_persists body

theorem returns_resolveBody (requestBody : Option (Ref RequestBody)) : Returns (fun fuel => resolveBody components fuel requestBody) ↔
    ∀ body, requestBody = some body → ¬RunsIntoCycle (nextRequestBody components) body := by
  cases requestBody with
  | none => exact ⟨fun _ body same => (by cases same),fun _ => ⟨none,0,rfl⟩⟩
  | some body =>
    refine (returns_resolve body).trans ⟨fun unbroken other same => ?_,fun every => every body rfl⟩
    cases same
    exact unbroken

-- Both looks at the responses are searches.
section Responses
variable (responses : Dict String (Ref Response))

def streamHit (response : Ref Response) (fuel : Nat) : Option (Option Unit) :=
  (resolveResponse components fuel response).map (fun resolved => if advertisesEventStream lower resolved then some () else none)

def jsonHit (code : String) (fuel : Nat) : Option (Option MediaType) :=
  match responses.get code with
  | none => some none
  | some response => (resolveResponse components fuel response).map jsonMedia

theorem streamHit_persists (response : Ref Response) : Persists (streamHit lower components response) := (resolve_persists response).map _

theorem jsonHit_persists (code : String) : Persists (jsonHit components responses code) := by
  unfold jsonHit
  cases responses.get code with
  | none => exact Persists.const (some none)
  | some response => exact (resolve_persists response).map jsonMedia

theorem responsesIncludeEventStream_search (fuel : Nat) (list : List (Ref Response)) :
    responsesIncludeEventStream lower components fuel list = (search (streamHit lower components) list fuel).map Option.isSome := by
  induction list with
  | nil => rfl
  | cons response rest ih =>
    rw [responsesIncludeEventStream,search,streamHit]
    cases resolveResponse components fuel response with
    | none => rfl
    | some resolved =>
      cases advertises : advertisesEventStream lower resolved with
      | true => simp [advertises]
      | false => simp [advertises,ih]

theorem successFrom_search (rawByName : Dict String Value) (fuel : Nat) (codes : List String) : successFrom rawByName components fuel responses codes =
    (search (jsonHit components responses) codes fuel).map (fun media => media.bind (fun media => media.mediaTypeSchema.map (materialize rawByName))) := by
  induction codes with
  | nil => rfl
  | cons code rest ih =>
    rw [successFrom,search,jsonHit]
    cases responses.get code with
    | none => exact ih
    | some response =>
      cases found : resolveResponse components fuel response with
      | none => simp [found]
      | some resolved =>
        cases media : jsonMedia resolved with
        | none => simp [found,media,ih]
        | some media => simp [found,media]

theorem streamHit_finds (response : Ref Response) :
    (∀ found, ¬Yields (streamHit lower components response) (some found)) ↔
      ∀ value, ResponseIs components response value → advertisesEventStream lower (some value) = false := by
  constructor
  · intro unfound value stands
    cases advertises : advertisesEventStream lower (some value) with
    | false => rfl
    | true =>
      obtain ⟨fuel,found⟩ := (yields_resolve response value).mpr stands
      exact absurd ⟨fuel,Option.map_eq_some_iff.mpr ⟨some value,found,if_pos advertises⟩⟩ (unfound ())
  · rintro quiet found ⟨fuel,yielded⟩
    obtain ⟨resolved,got,hit⟩ := Option.map_eq_some_iff.mp yielded
    cases resolved with
    | none => cases hit
    | some value =>
      rw [quiet value ((yields_resolve response value).mp ⟨fuel,got⟩)] at hit
      cases hit

theorem jsonHit_finds (code : String) : (∀ found, ¬Yields (jsonHit components responses code) (some found)) ↔
    ∀ passed, responses.get code = some passed → ∀ response, ResponseIs components passed response → response.content.get "application/json" = none := by
  constructor
  · intro unfound passed there response stands
    cases json : response.content.get "application/json" with
    | none => rfl
    | some media =>
      obtain ⟨fuel,found⟩ := (yields_resolve passed response).mpr stands
      refine absurd ⟨fuel,?_⟩ (unfound media)
      rw [jsonHit,there]
      exact Option.map_eq_some_iff.mpr ⟨some response,found,json⟩
  · rintro quiet found ⟨fuel,yielded⟩
    cases there : responses.get code with
    | none =>
      rw [jsonHit,there] at yielded
      cases yielded
    | some passed =>
      rw [jsonHit,there] at yielded
      obtain ⟨resolved,got,hit⟩ := Option.map_eq_some_iff.mp yielded
      cases resolved with
      | none => cases hit
      | some response => exact absurd (hit.symm.trans (quiet passed there response ((yields_resolve passed response).mp ⟨fuel,got⟩))) (by simp)

theorem returns_jsonHit (code : String) : Returns (jsonHit components responses code) ↔
    ∀ response, responses.get code = some response → ¬RunsIntoCycle (nextResponse components) response := by
  unfold jsonHit
  cases responses.get code with
  | none => exact ⟨fun _ response same => (by cases same),fun _ => ⟨none,0,rfl⟩⟩
  | some response =>
    refine ((returns_map jsonMedia).trans (returns_resolve response)).trans ⟨fun unbroken other same => ?_,fun every => every response rfl⟩
    cases same
    exact unbroken

theorem successFrom_persists (rawByName : Dict String Value) (codes : List String) :
    Persists (fun fuel => successFrom rawByName components fuel responses codes) := by
  rw [funext (fun fuel => successFrom_search components responses rawByName fuel codes)]
  exact (Persists.search (jsonHit_persists components responses) codes).map _

theorem responsesIncludeEventStream_persists (list : List (Ref Response)) :
    Persists (fun fuel => responsesIncludeEventStream lower components fuel list) := by
  rw [funext (fun fuel => responsesIncludeEventStream_search lower components fuel list)]
  exact (Persists.search (streamHit_persists lower components) list).map _
end Responses

theorem returns_successResponseSchema (rawByName : Dict String Value) (operation : Operation) :
    Returns (fun fuel => successResponseSchema rawByName components fuel operation) ↔
      ∀ before code after, successCodes = before ++ code :: after →
        (∀ earlier ∈ before, ∀ passed, operation.responses.get earlier = some passed →
          ∀ response, ResponseIs components passed response → response.content.get "application/json" = none) →
        ∀ response, operation.responses.get code = some response → ¬RunsIntoCycle (nextResponse components) response := by
  unfold successResponseSchema
  rw [funext (fun fuel => successFrom_search components operation.responses rawByName fuel successCodes),returns_map,
    returns_search (jsonHit_persists components operation.responses)]
  simp only [jsonHit_finds,returns_jsonHit]

theorem returns_detectOpenapiExecutionKind (operation : Operation) : Returns (fun fuel => detectOpenapiExecutionKind lower components fuel operation) ↔
    ∀ before response after, operation.responses.values = before ++ response :: after →
      (∀ earlier ∈ before, ∀ response, ResponseIs components earlier response → advertisesEventStream lower (some response) = false) →
      ¬RunsIntoCycle (nextResponse components) response := by
  unfold detectOpenapiExecutionKind
  rw [returns_map,funext (fun fuel => responsesIncludeEventStream_search lower components fuel operation.responses.values),returns_map,
    returns_search (streamHit_persists lower components)]
  have returns : ∀ response, Returns (streamHit lower components response) ↔ ¬RunsIntoCycle (nextResponse components) response :=
    fun response => (returns_map _).trans (returns_resolve response)
  simp only [streamHit_finds,returns]

section Capability
variable (site : Site)

theorem detectOpenapiExecutionKind_persists (operation : Operation) :
    Persists (fun fuel => detectOpenapiExecutionKind lower components fuel operation) :=
  (responsesIncludeEventStream_persists lower components operation.responses.values).map _

theorem successResponseSchema_persists (rawByName : Dict String Value) (operation : Operation) :
    Persists (fun fuel => successResponseSchema rawByName components fuel operation) :=
  successFrom_persists components operation.responses rawByName successCodes

theorem capability_persists : Persists (fun fuel => capability lower components fuel site) := by
  refine (mergeParameters_persists components site.pathItem site.operation).bind (fun params => ?_)
  refine (resolveBody_persists components site.operation.requestBody).bind (fun body => ?_)
  refine (successResponseSchema_persists components (rawSchemas components) site.operation).bind (fun output => ?_)
  exact (detectOpenapiExecutionKind_persists lower components site.operation).bind (fun kind => Persists.const _)

theorem returns_capability : Returns (fun fuel => capability lower components fuel site) ↔
    OperationSettles lower components site.pathItem site.operation := by
  have bodies := resolveBody_persists components site.operation.requestBody
  have outputs := successResponseSchema_persists components (rawSchemas components) site.operation
  have kinds := detectOpenapiExecutionKind_persists lower components site.operation
  have split : Returns (fun fuel => capability lower components fuel site) ↔
      Returns (fun fuel => mergeParameters components fuel site.pathItem site.operation) ∧
      Returns (fun fuel => resolveBody components fuel site.operation.requestBody) ∧
      Returns (fun fuel => successResponseSchema (rawSchemas components) components fuel site.operation) ∧
      Returns (fun fuel => detectOpenapiExecutionKind lower components fuel site.operation) := by
    refine returns_bind_both (mergeParameters_persists components site.pathItem site.operation) ?_ (fun params => ?_)
    · exact fun params => bodies.bind (fun body => outputs.bind (fun output => kinds.bind (fun kind => Persists.const _)))
    refine returns_bind_both bodies (fun body => outputs.bind (fun output => kinds.bind (fun kind => Persists.const _))) (fun body => ?_)
    refine returns_bind_both outputs (fun output => kinds.bind (fun kind => Persists.const _)) (fun output => ?_)
    refine (returns_bind kinds (fun kind => Persists.const _)).trans ?_
    exact ⟨fun ⟨kind,first,_⟩ => ⟨kind,first⟩,fun ⟨kind,first⟩ => ⟨kind,first,_,0,rfl⟩⟩
  rw [split,returns_mergeParameters,returns_resolveBody,returns_successResponseSchema,returns_detectOpenapiExecutionKind]
  exact ⟨fun ⟨parameters,requestBody,success,stream⟩ => ⟨parameters,requestBody,success,stream⟩,
    fun settles => ⟨settles.parameters,settles.requestBody,settles.success,settles.stream⟩⟩
end Capability

theorem mapOpenapiToCapabilities_returns (doc : OpenAPIDocument) (spec : DefaultCapabilitiesFilter) :
    Returns (mapOpenapiToCapabilities lower doc spec) ↔
      ∀ site ∈ selected lower doc spec, OperationSettles lower doc.components site.pathItem site.operation := by
  unfold mapOpenapiToCapabilities
  rw [returns_mapM (fun site => capability_persists lower doc.components site)]
  exact forall₂_congr (fun site _ => returns_capability lower doc.components site)

-- A parameter that is a reference to itself.
def selfReference : Ref Parameter := .reference "#/components/parameters/A"

def selfComponents : Components := ⟨.empty,Dict.empty.set "A" selfReference,.empty,.empty⟩

def selfOperation : Operation := ⟨none,none,none,[selfReference],none,.empty⟩

def selfItem : PathItem where
  operation method := if method = .get then some selfOperation else none
  summary := none
  description := none
  parameters := []

def selfDocument : OpenAPIDocument := ⟨Dict.empty.set "/a" selfItem,some selfComponents⟩

theorem selfReference_leads : nextParameter (some selfComponents) selfReference = some selfReference := by
  have fragment : refFragment "#/components/parameters/A" "#/components/parameters/" = some "A" := by decide +kernel
  show (refFragment "#/components/parameters/A" "#/components/parameters/").bind (fun key => (Dict.empty.set "A" selfReference).get key) = _
  rw [fragment]
  rfl

theorem mapping_endless : ¬∀ (lower : String → String) (doc : OpenAPIDocument) (spec : DefaultCapabilitiesFilter),
    Returns (mapOpenapiToCapabilities lower doc spec) := by
  intro every
  have returns := every id selfDocument (.predicate (fun _ => true))
  unfold mapOpenapiToCapabilities at returns
  rw [returns_mapM (fun site => capability_persists id selfDocument.components site)] at returns
  have settles := (returns_capability id (some selfComponents) _).mp (returns ⟨"/a",selfItem,.get,selfOperation⟩ List.mem_cons_self)
  exact settles.parameters selfReference List.mem_cons_self ⟨selfReference,.refl,.single selfReference_leads⟩

end Asap.OpenapiReferences
