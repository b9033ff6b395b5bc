import Asap.OrderedDict
import Asap.PythonValue

-- `map_openapi_to_capabilities`: the operations of an OpenAPI document as capabilities.
namespace Asap.OpenapiMapping
open OrderedDict PythonValue

-- A `Reference` model, or what it would lead to.
inductive Ref (α : Type) where
  | reference (ref : String)
  | object (value : α)

-- A schema is its JSON dump.
structure MediaType where
  mediaTypeSchema : Option (Ref Value)

inductive ParameterLocation where
  | query
  | header
  | path
  | cookie
  deriving DecidableEq

def paramLocationStr : ParameterLocation → String
  | .query => "query"
  | .header => "header"
  | .path => "path"
  | .cookie => "cookie"

structure Parameter where
  name : String
  paramIn : ParameterLocation
  required : Bool
  description : Option String
  paramSchema : Option (Ref Value)
  content : Dict String MediaType

structure RequestBody where
  content : Dict String MediaType

structure Response where
  content : Dict String MediaType

structure Operation where
  operationId : Option String
  summary : Option String
  description : Option String
  parameters : List (Ref Parameter)
  requestBody : Option (Ref RequestBody)
  responses : Dict String (Ref Response)

inductive Method where
  | get
  | put
  | post
  | delete
  | options
  | head
  | patch
  | trace
  deriving DecidableEq

def Method.text : Method → String
  | .get => "get"
  | .put => "put"
  | .post => "post"
  | .delete => "delete"
  | .options => "options"
  | .head => "head"
  | .patch => "patch"
  | .trace => "trace"

def httpMethods : List Method := [.get,.put,.post,.delete,.options,.head,.patch,.trace]

structure PathItem where
  operation : Method → Option Operation
  summary : Option String
  description : Option String
  parameters : List (Ref Parameter)

structure Components where
  schemas : Dict String Value
  parameters : Dict String (Ref Parameter)
  requestBodies : Dict String (Ref RequestBody)
  responses : Dict String (Ref Response)

structure OpenAPIDocument where
  paths : Dict String PathItem
  components : Option Components

inductive OpenAPIExecutionKind where
  | sync
  | streaming
  deriving DecidableEq

structure Skill where
  id : String
  description : String
  inputSchema : Option Value
  outputSchema : Option Value

structure OpenAPICapability where
  skill : Skill
  httpMethod : Method
  pathTemplate : String
  executionKind : OpenAPIExecutionKind
  operationId : Option String

structure OpenAPIOperationContext where
  httpMethod : Method
  pathTemplate : String
  capabilityName : String
  operationId : Option String
  openapiOperation : Operation

-- A verb, or "all"; a list of verbs; or a predicate of the caller's.
inductive DefaultCapabilitiesFilter where
  | verb (text : String)
  | verbs (texts : List String)
  | predicate (keep : OpenAPIOperationContext → Bool)

-- `str.lower` stands for itself.
variable (lower : String → String)

def predicateFromDefaultCapabilities (spec : DefaultCapabilitiesFilter) (ctx : OpenAPIOperationContext) : Bool :=
  match spec with
  | .verb text => decide (text = "all") || decide (ctx.httpMethod.text = lower (strip text))
  | .verbs texts => (texts.map (fun text => lower (strip text))).contains ctx.httpMethod.text
  | .predicate keep => keep ctx

def refFragment (ref start : String) : Option String :=
  if start.toList.isPrefixOf ref.toList then some (String.ofList (ref.toList.drop start.toList.length)) else none

section Schemas
variable (rawByName : Dict String Value)

-- What is left of the 50 levels; a node below them stays as it is.
def expandRefs : Nat → List String → Value → Value
  | 0,_,node => node
  | left + 1,seen,.dict items =>
    match lookupItem "$ref" items with
    | some (.str ref) =>
      match refFragment ref "#/components/schemas/" with
      | some name =>
        match rawByName.get name with
        | some base => if name ∈ seen then .dict [(.str "$ref",.str ref)] else expandRefs left (name :: seen) base
        | none => .dict (items.map (fun item => (item.1,expandRefs left seen item.2)))
      | none => .dict (items.map (fun item => (item.1,expandRefs left seen item.2)))
    | _ => .dict (items.map (fun item => (item.1,expandRefs left seen item.2)))
  | left + 1,seen,.list items => .list (items.map (expandRefs left seen))
  | _ + 1,_,node => node

def maxDepth : Nat := 51

def materialize : Ref Value → Value
  | .reference ref =>
    match (refFragment ref "#/components/schemas/").bind (fun name => (rawByName.get name).map (fun raw => (name,raw))) with
    | none => .dict [(.str "$ref",.str ref)]
    | some (name,raw) => expandRefs rawByName maxDepth [name] raw
  | .object dumped => expandRefs rawByName maxDepth [] dumped
end Schemas

-- The three resolvers differ in the references they follow and where these lead. References have
-- no guard against cycles: the fuel is for the steps along them, and `none` is that it ran out.
def resolve (start : String) (bag : Option (Dict String (Ref α))) : Nat → Ref α → Option (Option α)
  | _,.object value => some (some value)
  | fuel,.reference ref =>
    match (refFragment ref start).bind (fun key => bag.bind (fun bag => bag.get key)) with
    | none => some none
    | some target =>
      match fuel with
      | 0 => none
      | fuel + 1 => resolve start bag fuel target

def resolveParameter (components : Option Components) : Nat → Ref Parameter → Option (Option Parameter) :=
  resolve "#/components/parameters/" (components.map Components.parameters)

def resolveRequestBody (components : Option Components) : Nat → Ref RequestBody → Option (Option RequestBody) :=
  resolve "#/components/requestBodies/" (components.map Components.requestBodies)

def resolveResponse (components : Option Components) : Nat → Ref Response → Option (Option Response) :=
  resolve "#/components/responses/" (components.map Components.responses)

-- The parameters of the path item, then those of the operation: a later one replaces an earlier one of its name and location.
def mergeParameters (components : Option Components) (fuel : Nat) (pathItem : PathItem) (operation : Operation) : Option (List Parameter) :=
  ((pathItem.parameters ++ operation.parameters).mapM (resolveParameter components fuel)).map (fun resolved =>
    ((resolved.filterMap id).foldl (fun (merged : Dict (String × String) Parameter) parameter =>
      merged.set (parameter.name,paramLocationStr parameter.paramIn) parameter) .empty).values)

def advertisesEventStream (response : Option Response) : Bool :=
  response.any (fun response => response.content.keys.any (fun mediaType => decide (lower mediaType = "text/event-stream")))

def responsesIncludeEventStream (components : Option Components) (fuel : Nat) : List (Ref Response) → Option Bool
  | [] => some false
  | response :: rest => (resolveResponse components fuel response).bind (fun resolved =>
      if advertisesEventStream lower resolved then some true else responsesIncludeEventStream components fuel rest)

def detectOpenapiExecutionKind (components : Option Components) (fuel : Nat) (operation : Operation) : Option OpenAPIExecutionKind :=
  (responsesIncludeEventStream lower components fuel operation.responses.values).map (fun stream => if stream then .streaming else .sync)

section Bodies
variable (rawByName : Dict String Value)

def bodyJsonSchema (requestBody : Option RequestBody) : Option Value :=
  (requestBody.bind (fun body => body.content.get "application/json")).bind (fun media => media.mediaTypeSchema.map (materialize rawByName))

def jsonMedia (response : Option Response) : Option MediaType := response.bind (fun response => response.content.get "application/json")

def successFrom (components : Option Components) (fuel : Nat) (responses : Dict String (Ref Response)) : List String → Option (Option Value)
  | [] => some none
  | code :: rest =>
    match responses.get code with
    | none => successFrom components fuel responses rest
    | some response => (resolveResponse components fuel response).bind (fun resolved =>
        match jsonMedia resolved with
        | none => successFrom components fuel responses rest
        | some media => some (media.mediaTypeSchema.map (materialize rawByName)))

def successCodes : List String := ["200","201"]

def successResponseSchema (components : Option Components) (fuel : Nat) (operation : Operation) : Option (Option Value) :=
  successFrom rawByName components fuel operation.responses successCodes

def dictItems : Value → List (Key × Value)
  | .dict items => items
  | _ => []

def propSchema (parameter : Parameter) : Value :=
  let schemaObj := parameter.paramSchema.or ((parameter.content.get "application/json").bind MediaType.mediaTypeSchema)
  let base := match schemaObj with
    | some schema => dictItems (materialize rawByName schema)
    | none => [(.str "type",.str "string")]
  let located := assign (.str "x-openapi-param-in") (.str (paramLocationStr parameter.paramIn)) base
  .dict (match parameter.description with
    | some text => if text ≠ "" ∧ lookupItem "description" located = none then assign (.str "description") (.str text) located else located
    | none => located)

def parameterProperties (parameters : List Parameter) : Dict String Value × List String :=
  (parameters.foldl (fun properties parameter => properties.set parameter.name (propSchema rawByName parameter)) .empty,
    parameters.foldl (fun required parameter =>
      if parameter.required ∧ parameter.name ∉ required then required ++ [parameter.name] else required) [])

def parametersObject (properties : Dict String Value) (required : List String) : Value :=
  .dict (([(.str "type",.str "object"),(.str "properties",.dict (properties.entries.map (fun item => (.str item.1,item.2))))] :
    List (Key × Value)) ++ (if required ≠ [] then [(.str "required",.list (required.map .str))] else [] : List (Key × Value)))

def buildInputSchema (parameters : List Parameter) (bodySchema : Option Value) : Option Value :=
  let (properties,required) := parameterProperties rawByName parameters
  let parts := (if properties.entries.isEmpty then [] else [parametersObject properties required]) ++ (bodySchema.filter Value.truthy).toList
  match parts with
  | [] => none
  | [part] => some part
  | parts => some (.dict [(.str "allOf",.list parts)])
end Bodies

def isSlash (c : Char) : Bool := c == '/'

-- `path_template.strip("/")` with its slashes as underscores and without its braces.
def pathPart (pathTemplate : String) : String :=
  let trimmed := ((pathTemplate.toList.dropWhile isSlash).reverse.dropWhile isSlash).reverse
  if trimmed.isEmpty then "rootpath"
  else String.ofList ((trimmed.map (fun c => if c = '/' then '_' else c)).filter (fun c => c != '{' && c != '}'))

def fallbackCapabilityName (method : Method) (pathTemplate : String) : String := method.text ++ "_" ++ pathPart pathTemplate

def operationDescription (operation : Operation) (pathItem : PathItem) (fallback : String) : String :=
  let texts := [operation.summary,operation.description,pathItem.summary,pathItem.description].filterMap (fun text => text.map strip)
  (texts.find? (fun text => text ≠ "")).getD fallback

-- The id of the operation, where it has one that is not blank.
def opIdStr (operation : Operation) : Option String := (operation.operationId.map strip).filter (fun text => text ≠ "")

def capName (pathTemplate : String) (method : Method) (operation : Operation) : String :=
  (opIdStr operation).getD (fallbackCapabilityName method pathTemplate)

def context (pathTemplate : String) (method : Method) (operation : Operation) : OpenAPIOperationContext where
  httpMethod := method
  pathTemplate
  capabilityName := capName pathTemplate method operation
  operationId := opIdStr operation
  openapiOperation := operation

-- An operation where it stands in the document.
structure Site where
  pathTemplate : String
  pathItem : PathItem
  method : Method
  operation : Operation

def sites (doc : OpenAPIDocument) : List Site :=
  doc.paths.entries.flatMap (fun row => httpMethods.filterMap (fun method =>
    (row.2.operation method).map (fun operation => ⟨row.1,row.2,method,operation⟩)))

def selected (doc : OpenAPIDocument) (spec : DefaultCapabilitiesFilter) : List Site :=
  (sites doc).filter (fun site => predicateFromDefaultCapabilities lower spec (context site.pathTemplate site.method site.operation))

def rawSchemas (components : Option Components) : Dict String Value := (components.map Components.schemas).getD .empty

def resolveBody (components : Option Components) (fuel : Nat) (body : Option (Ref RequestBody)) : Option (Option RequestBody) :=
  match body with
  | none => some none
  | some body => resolveRequestBody components fuel body

def capability (components : Option Components) (fuel : Nat) (site : Site) : Option OpenAPICapability := do
  let params ← mergeParameters components fuel site.pathItem site.operation
  let rb ← resolveBody components fuel site.operation.requestBody
  let outputSchema ← successResponseSchema (rawSchemas components) components fuel site.operation
  let executionKind ← detectOpenapiExecutionKind lower components fuel site.operation
  let name := capName site.pathTemplate site.method site.operation
  pure {
    skill := {
      id := name
      description := operationDescription site.operation site.pathItem name
      inputSchema := buildInputSchema (rawSchemas components) params (bodyJsonSchema (rawSchemas components) rb)
      outputSchema
    }
    httpMethod := site.method
    pathTemplate := site.pathTemplate
    executionKind
    operationId := opIdStr site.operation
  }

def mapOpenapiToCapabilities (doc : OpenAPIDocument) (spec : DefaultCapabilitiesFilter) (fuel : Nat) : Option (List OpenAPICapability) :=
  (selected lower doc spec).mapM (capability lower doc.components fuel)

end Asap.OpenapiMapping
