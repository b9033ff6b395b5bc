import Asap.AgentJwt
import Asap.Constraints

namespace Asap.ProtectedServer
open OrderedDict PythonValue Capabilities Constraints AgentIdentity Interleaving
open HostJwt (Jose Claims FloatValue Audience text)

structure CallToolRequestParams where
  name : String
  arguments : List (Key × Value)
  callMeta : Option (List (Key × Value))

-- What a tool does with its arguments: a value, a TypeError or any other exception.
inductive Ended where
  | returned (out : Value)
  | typeError (message : String)
  | raised (message : String)

structure ToolRegistration where
  handler : List (Key × Value) → Ended
  schema : Value
  capabilities : Option String

structure MCPAuthConfig where
  toolCapabilityMap : Dict String String
  publicTools : List String
  enforceGrants : Bool
  jwtExtractor : Option (CallToolRequestParams → Option String)
  allowEnvJwtFallback : Bool
  jtiReplayCache : Bool
  expectedAudience : Option Audience

inductive SchemaCheck where
  | valid
  | invalid (message : String)
  | schemaError

-- Pydantic's text for parameters it refuses, jsonschema, `repr`, `str` and `json.dumps`,
-- which raises on what JSON has no form for.
structure Package where
  validationText : Dict String Value → String
  validate : Value → List (Key × Value) → SchemaCheck
  repr : Value → String
  str : Value → String
  dumps : Value → Option String

def stringKeyed : Value → Option (List (Key × Value))
  | .dict items => if items.all (fun item => item.1.string.isSome) then some items else none
  | _ => none

-- `CallToolRequestParams(**params)`: the metadata is read under its alias first.
def parseParams (params : Dict String Value) : Option CallToolRequestParams :=
  match params.get "name" with
  | some (.str name) =>
    match stringKeyed ((params.get "arguments").getD (.dict [])) with
    | none => none
    | some arguments =>
      match ((params.get "_meta").orElse (fun _ => params.get "meta")).getD .none with
      | .none => some ⟨name,arguments,none⟩
      | value => (stringKeyed value).map (fun items => ⟨name,arguments,some items⟩)
  | _ => none

def token (value : Option String) : Option String :=
  value.bind (fun text => if strip text = "" then none else some (strip text))

def defaultJwtExtractor (params : CallToolRequestParams) (environ : Option String) (allowEnvFallback : Bool) : Option String :=
  let carried := match lookupItem "asap_agent_jwt" (params.callMeta.getD []) with
    | some (.str text) => token (some text)
    | _ => none
  match carried with
  | some jwt => some jwt
  | none => if allowEnvFallback then token environ else none

-- `environ` is the variable ASAP_AGENT_JWT.
def extract (c : MCPAuthConfig) (params : CallToolRequestParams) (environ : Option String) : Option String :=
  match c.jwtExtractor with
  | some extractor => extractor params
  | none => defaultJwtExtractor params environ c.allowEnvJwtFallback

-- A result of `tools/call`, the ValueError that becomes an error for invalid parameters,
-- and an exception that leaves the handler.
inductive Reply where
  | result (text : String) (isError : Bool)
  | invalidParams (message : String)
  | raised

def authRequired : String := "asap:auth_required"
def invalidToken : String := "asap:invalid_token"
def capabilityDenied : String := "asap:capability_denied"
def constraintViolation : String := "asap:constraint_violation"

def toolErrorResult (code : String) (detail : Option String) : Reply :=
  .result (match detail with
    | none => code
    | some detail => code ++ ": " ++ detail) true

-- The stores, and the tools registered on the server.
structure Store where
  jwt : AgentJwt.Store
  registry : CapabilityRegistry
  tools : Dict String ToolRegistration

structure Input where
  jwt : AgentJwt.Input
  environ : Option String
  debug : Bool

def resolveCapability (c : MCPAuthConfig) (tools : Dict String ToolRegistration) (toolName : String) : String :=
  match c.toolCapabilityMap.get toolName with
  | some capability => capability
  | none => ((tools.get toolName).bind ToolRegistration.capabilities).getD toolName

def claimedCapabilities (claims : Claims) : List String :=
  match claims.get "capabilities" with
  | some (.list entries) => entries.filterMap text
  | _ => []

def formatConstraintViolations (violations : List ConstraintViolation) : String :=
  "; ".intercalate (violations.map ConstraintViolation.message)

variable (c : MCPAuthConfig) (package : Package)

-- `none` lets the call through.
def checkCapabilityGrant (s : Store) (now : Int) (parsed : CallToolRequestParams) (claims : Claims) (agent : AgentSession) : Option Reply :=
  let capability := resolveCapability c s.tools parsed.name
  if capability ∉ claimedCapabilities claims then
    some (toolErrorResult capabilityDenied (some ("JWT capabilities claim does not include " ++ package.repr (.str capability))))
  else match checkGrant package.repr s.registry now agent.agentId capability (some parsed.arguments) with
    | none => some .raised
    | some result =>
      if result.allowed then none
      else if result.violations.isEmpty then
        some (toolErrorResult capabilityDenied (some ("no active grant for capability " ++ package.repr (.str capability))))
      else some (toolErrorResult constraintViolation (some (formatConstraintViolations result.violations)))

-- A handler that was run: its tool and the arguments it got.
structure Ran where
  name : String
  arguments : List (Key × Value)

def internalToolErrorMessage : String := "Internal tool error"

def outText : Value → Option String
  | .str text => some text
  | .dict items => package.dumps (.dict items)
  | out => some (package.str out)

def runTool (tool : ToolRegistration) (arguments : List (Key × Value)) (debug : Bool) : Reply :=
  match tool.handler arguments with
  | .returned out => match outText package out with
    | none => .raised
    | some text => .result text false
  | .typeError message => .invalidParams ("Tool argument mismatch: " ++ message)
  | .raised message => .result (if debug then message else internalToolErrorMessage) true

-- `MCPServer._handle_tools_call`, which parses the parameters on its own.
def handleToolsCall (tools : Dict String ToolRegistration) (debug : Bool) (params : Dict String Value) : Reply × List Ran :=
  match parseParams params with
  | none => (.invalidParams ("Invalid params: " ++ package.validationText params),[])
  | some parsed =>
    match tools.get parsed.name with
    | none => (.result ("Unknown tool: " ++ parsed.name) true,[])
    | some tool =>
      match package.validate tool.schema parsed.arguments with
      | .invalid message => (.invalidParams ("Invalid arguments: " ++ message),[])
      | .schemaError => (.raised,[])
      | .valid => (runTool package tool parsed.arguments debug,[⟨parsed.name,parsed.arguments⟩])

-- A call between its accesses to the stores; `other` is whatever else happens to the
-- stores and the tools meanwhile.
inductive Task where
  | calling (params : Dict String Value)
  | verifying (params : Dict String Value) (parsed : CallToolRequestParams) (stage : AgentJwt.Task)
  | answered (reply : Reply)
  | other (next : Store)

-- The handler's run with the moment at which the call came to it.
structure Event where
  params : Dict String Value
  stage : Option AgentJwt.Task
  store : Store
  input : Input
  ran : Ran

abbrev Outcome := Store × Task × List Event

-- The rest of the call once it may go on: there is no suspension before the handler.
def proceed (s : Store) (input : Input) (params : Dict String Value) (stage : Option AgentJwt.Task) (jwt : AgentJwt.Store) : Outcome :=
  let (reply,ran) := handleToolsCall package s.tools input.debug params
  ({s with jwt},.answered reply,ran.map (fun ran => ⟨params,stage,s,input,ran⟩))

def agentCall (jwt : String) : AgentJwt.Call := ⟨jwt,c.expectedAudience,c.jtiReplayCache⟩

def callStart (s : Store) (input : Input) (params : Dict String Value) : Outcome :=
  match parseParams params with
  | none => (s,.answered (.invalidParams ("Invalid params: " ++ package.validationText params)),[])
  | some parsed =>
    if parsed.name ∈ c.publicTools then proceed package s input params none s.jwt
    else match (extract c parsed input.environ).filter (fun jwt => decide (jwt ≠ "")) with
      | none => (s,.answered (toolErrorResult authRequired none),[])
      | some jwt => (s,.verifying params parsed (.start (agentCall c jwt)),[])

-- One step of `verify_agent_jwt`; after its last one the grants are looked at.
def callVerify (digest : String → String) (floatOfStr : String → Option FloatValue) (jose : Jose) (importKey : PublicKey → Bool)
    (s : Store) (input : Input) (params : Dict String Value) (parsed : CallToolRequestParams) (stage : AgentJwt.Task) : Option Outcome :=
  (AgentJwt.advance digest floatOfStr jose importKey s.jwt stage input.jwt).map (fun (jwt,stage',_) =>
    match stage' with
    | .answered _ (.accepted claims _ agent) =>
      let refused := if c.enforceGrants then checkCapabilityGrant c package s input.jwt.now parsed claims agent else none
      match refused with
      | some reply => ({s with jwt},.answered reply,[])
      | none => proceed package s input params (some stage) jwt
    | .answered _ (.refused error) => ({s with jwt},.answered (toolErrorResult invalidToken (some error)),[])
    | .answered _ .raised => ({s with jwt},.answered .raised,[])
    | stage' => ({s with jwt},.verifying params parsed stage',[]))

section Gate
variable (digest : String → String) (floatOfStr : String → Option FloatValue) (jose : Jose) (importKey : PublicKey → Bool)

def advance (s : Store) (task : Task) (input : Input) : Option Outcome :=
  match task with
  | .calling params => some (callStart c package s input params)
  | .verifying params parsed stage => callVerify c package digest floatOfStr jose importKey s input params parsed stage
  | .answered _ => none
  | .other next => some (next,.answered .raised,[])

def Task.arrives : Task → Bool
  | .calling _ | .other _ => true
  | _ => false

def program : Program Store Task Input Event where
  arrives := Task.arrives
  advance := advance c package digest floatOfStr jose importKey

abbrev State := Machine Store Task Event

-- The call of a verification that has not left its stages.
def presented : AgentJwt.Task → Option AgentJwt.Call
  | .start call | .reading call _ | .resolving call _ _ _ | .sliding call _ _ _ | .touching call _ _ _ | .answered call _ => some call
  | _ => none

-- The token the client supplied with these parameters, or the environment for it.
def Supplied (parsed : CallToolRequestParams) (call : AgentJwt.Call) : Prop :=
  ∃ environ jwt, extract c parsed environ = some jwt ∧ jwt ≠ "" ∧ call = agentCall c jwt

-- `verify_agent_jwt` ends at this moment, on the supplied token, with these claims and
-- this agent.
def Verifies (event : Event) (parsed : CallToolRequestParams) (claims : Claims) (agent : AgentSession) : Prop :=
  ∃ stage call host jwt events, event.stage = some stage ∧ Supplied c parsed call ∧
    AgentJwt.advance digest floatOfStr jose importKey event.store.jwt stage event.input.jwt =
      some (jwt,.answered call (.accepted claims host agent),events)

-- The task waits for the verification of this token, or is over.
def Carries (jwt : String) : Task → Prop
  | .verifying _ _ stage => ∀ call, stage.presents = some call → call.token = jwt
  | .answered _ => True
  | _ => False

section Agree
variable {other : Jose} {jwt : String}

theorem callVerify_agree (s : Store) (input : Input) (params : Dict String Value) (parsed : CallToolRequestParams) {stage : AgentJwt.Task}
    (agree : ∀ call, stage.presents = some call → HostJwt.Agree jose other call.token) :
    callVerify c package digest floatOfStr jose importKey s input params parsed stage =
      callVerify c package digest floatOfStr other importKey s input params parsed stage := by
  unfold callVerify
  rw [AgentJwt.advance_agree digest floatOfStr jose importKey s.jwt input.jwt agree]

theorem callVerify_carries (s : Store) (input : Input) (params : Dict String Value) (parsed : CallToolRequestParams) (stage : AgentJwt.Task)
    (outcome : Outcome) (carries : Carries jwt (.verifying params parsed stage))
    (advanced : callVerify c package digest floatOfStr jose importKey s input params parsed stage = some outcome) : Carries jwt outcome.2.1 := by
  unfold callVerify at advanced
  obtain ⟨⟨next,stage',events⟩,stepped,rfl⟩ := Option.map_eq_some_iff.mp advanced
  have kept := AgentJwt.advance_presents digest floatOfStr jose importKey s.jwt stage input.jwt _ stepped
  simp only
  split
  · split <;> trivial
  · trivial
  · trivial
  · exact fun call has => carries call (kept.symm.trans has)

-- Where all calls carry one token, the library may be any that reads it the same.
theorem program_agree (agree : HostJwt.Agree jose other jwt) (m : State) (moves : List (Move Task Input))
    (joins : ∀ id task, Move.arrive id task ∈ moves → Carries jwt task) (start : ∀ id task, m.tasks.get id = some task → Carries jwt task) :
    execute (program c package digest floatOfStr jose importKey).next anyMove m moves =
      execute (program c package digest floatOfStr other importKey).next anyMove m moves := by
  refine (program c package digest floatOfStr jose importKey).execute_agree (program c package digest floatOfStr other importKey) anyMove
    (Carries jwt) rfl ?_ ?_ m moves joins start
  · intro s task input carries
    cases task with
    | verifying params parsed stage =>
      refine callVerify_agree c package digest floatOfStr jose importKey s input params parsed ?_
      intro call has
      rw [carries call has]
      exact agree
    | answered reply => rfl
    | calling | other => cases carries
  · intro s task input store task' events carries advanced
    cases task with
    | verifying params parsed stage =>
      exact callVerify_carries c package digest floatOfStr other importKey s input params parsed stage _ carries advanced
    | answered reply => cases advanced
    | calling | other => cases carries
end Agree

end Gate

-- A token like the agent's other one, with a claim of the capability.
def echoToken : String :=
  "eyJhbGciOiJFZERTQSIsInR5cCI6ImFnZW50K2p3dCJ9." ++
    "eyJpc3MiOiJGdEl1LVZiR3JmZV9LQjZDSDdHTndPREI3Mk1OeGpfbWwxMWRFdk8tN2trIiwic3ViIjoiYTEiLCJhdWQiOiJ1cm46YXNhcDphZ2VudDpz" ++
    "ZXJ2ZXIiLCJpYXQiOjE3MDAwMDAwMDAsImV4cCI6MTcwMDAwMDA2MCwianRpIjoiand0XzAxSEY3WUFUMDAwMDAwMDAwMDAwMDAwMDBCIiwiY2FwYWJp" ++
    "bGl0aWVzIjpbImVjaG8iXX0.nxX89XxvdRq27ME7cong_zLGO2OVCJFkf4DZ2LWIMMWzA8oyst0Dp3eIEqpz5bPPL5tvdnVS2l_h9NzoMUrfCQ"

def echoClaims : List (String × Value) := AgentJwt.agentTokenClaims ++ [("capabilities",.list [.str "echo"])]

theorem echoHeader_distinct : ([("alg",Value.str "EdDSA"),("typ",.str "agent+jwt")].map Prod.fst).Nodup := by simp

def echoJose : Jose where
  extractCompact jwt :=
    if jwt = echoToken then
      .ok (⟨[("alg",.str "EdDSA"),("typ",.str "agent+jwt")],echoHeader_distinct⟩,.dict (echoClaims.map (fun claim => (.str claim.1,claim.2))))
    else .error "Invalid JWS"
  importKey _ := .ok ()
  decode jwt key :=
    if jwt = echoToken ∧ (key.get "x").bind text = (firstKey.get "x").bind text then .ok ⟨echoClaims,by decide⟩
    else .error "bad_signature: "

def echoConfig : MCPAuthConfig where
  toolCapabilityMap := .empty
  publicTools := []
  enforceGrants := true
  jwtExtractor := none
  allowEnvJwtFallback := false
  jtiReplayCache := true
  expectedAudience := some (.one "urn:asap:agent:server")

-- The schema of the tool accepts every object.
def echoPackage : Package where
  validationText _ := "1 validation error for CallToolRequestParams"
  validate _ _ := .valid
  repr _ := "'echo'"
  str _ := "None"
  dumps _ := none

def echoTool : ToolRegistration where
  handler arguments := .returned ((lookupItem "message" arguments).getD .none)
  schema := .dict [(.str "type",.str "object")]
  capabilities := none

-- The agent may echo one of two messages.
def echoGrant : CapabilityGrant where
  capability := "echo"
  status := .active
  constraints := some [(.str "message",.dict [(.str "in",.list [.str "hi",.str "hello"])])]

def echoStore : Store where
  jwt := ⟨liveStore,JtiReplay.init⟩
  registry := blankRegistry.put "a1" echoGrant
  tools := Dict.empty.set "echo" echoTool

def echoParams : Dict String Value :=
  ⟨[("name",.str "echo"),("arguments",.dict [(.str "message",.str "hi")]),
    ("_meta",.dict [(.str "asap_agent_jwt",.str echoToken)])],by simp⟩

def echoInput : Input := ⟨AgentJwt.reading,none,false⟩

def echoMoves : List (Move Task Input) := .arrive 0 (.calling echoParams) :: List.replicate 6 (.proceed 0 echoInput)

def echoed : Option State :=
  execute (program echoConfig echoPackage keyDigest (fun _ => none) echoJose (fun _ => true)).next anyMove (.init echoStore) echoMoves

end Asap.ProtectedServer
