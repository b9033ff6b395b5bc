import Asap.JsonIndent
import Asap.Pipeline
import Asap.StreamErrors

-- The MCP server over stdio: what the lines of its input are answered with.
namespace Asap.McpServer
open PythonValue Pipeline Interleaving
open StreamErrors (parseError internalError methodNotFound invalidParams strOrInt optionalStrOrInt)

-- What `_handle_tools_call` comes to: a result, a ValueError, or any other exception.
inductive Called where
  | result (value : Value)
  | valueError (text : String)
  | raised (text : String)

inductive LoadsError where
  | json
  | other (text : String)

-- `encodable` is false of a str that holds a lone surrogate; the texts of exceptions are taken to hold none.
-- `validationText` and `formText` are those of a ValidationError and of the TypeError of `json.dumps`.
structure Server where
  loads : String → Except LoadsError Value
  encodable : String → Bool
  initializeResult : Value
  toolsList : Except String Value
  toolsCall : List (Key × Value) → Called
  validationText : List (Key × Value) → String
  formText : Value → String

structure JsonRpcRequest where
  id : Value
  method : String
  params : List (Key × Value)

def rstripNewlines (line : String) : String :=
  String.ofList ((line.toList.reverse.dropWhile (fun c => decide (c = '\n' ∨ c = '\r'))).reverse)

def parseErrorBody : List (Key × Value) :=
  [(.str "jsonrpc",.str "2.0"),(.str "id",.none),(.str "error",.dict [(.str "code",.int parseError),(.str "message",.str "Parse error")])]

def successResponse (id result : Value) : Value := .dict [(.str "jsonrpc",.str "2.0"),(.str "id",id),(.str "result",result)]

def errorResponse (id : Value) (code : Int) (message : String) : Value :=
  .dict [(.str "jsonrpc",.str "2.0"),(.str "id",id),
    (.str "error",.dict [(.str "code",.int code),(.str "message",.str message),(.str "data",.none)])]

section Serve
variable (server : Server)

-- The end of the input and an empty line read alike.
def readStdin (line : String) : Except String (Option (List (Key × Value))) :=
  let line := rstripNewlines line
  if line = "" then .ok none
  else match server.loads line with
    | .ok (.dict body) => .ok (some body)
    | .ok _ => .ok (some parseErrorBody)
    | .error .json => .ok (some parseErrorBody)
    | .error (.other text) => .error text

def encodableKey : Key → Bool
  | .str text => server.encodable text
  | _ => false

-- `dict[str, Any] | None`, and `req.params or {}`.
def paramsOf : Option Value → Option (List (Key × Value))
  | none | some .none => some []
  | some (.dict params) => if params.all (fun item => encodableKey server item.1) then some params else none
  | some _ => none

def isVersion : Option Value → Bool
  | none | some (.str "2.0") => true
  | _ => false

-- `JSONRPCRequest(**raw)`
def jsonRpcRequest (body : List (Key × Value)) : Option JsonRpcRequest :=
  match isVersion (lookupItem "jsonrpc" body),(lookupItem "id" body).bind (strOrInt server.encodable),lookupItem "method" body,
      paramsOf server (lookupItem "params" body) with
  | true,some id,some (.str method),some params => if server.encodable method then some ⟨id,method,params⟩ else none
  | _,_,_,_ => none

def respond (id result : Value) : Except String Value :=
  if hasForm (successResponse id result) then .ok (successResponse id result) else .error (server.formText result)

def dispatchRequest (request : JsonRpcRequest) : Except String Value :=
  if request.method = "initialize" then respond server request.id server.initializeResult
  else if request.method = "tools/list" then
    match server.toolsList with
    | .ok result => respond server request.id result
    | .error text => .error text
  else if request.method = "tools/call" then
    match server.toolsCall request.params with
    | .result result => respond server request.id result
    | .valueError text => .ok (errorResponse request.id invalidParams text)
    | .raised text => .error text
  else if request.method = "ping" then respond server request.id (.dict [])
  else .ok (errorResponse request.id methodNotFound ("Method not found: " ++ request.method))

-- The error of what a request raised echoes its id, and that may raise again.
def handleRequest (body : List (Key × Value)) (rid : Value) : Except String (List Value) :=
  let result : Except String Value := match jsonRpcRequest server body with
    | none => .error (server.validationText body)
    | some request => dispatchRequest server request
  match result with
  | .ok response => .ok [response]
  | .error text =>
    match optionalStrOrInt server.encodable rid with
    | some id => .ok [errorResponse id internalError text]
    | none => .error (server.validationText body)

-- `raw.get("error", {}).get("code") == PARSE_ERROR`, none where it raises.
def isParseError (body : List (Key × Value)) : Option Bool :=
  match lookupItem "error" body with
  | none => some false
  | some (.dict error) => some (((lookupItem "code" error).getD .none).same (.int parseError))
  | some _ => none

def handleMessage (body : List (Key × Value)) : Except String (List Value) :=
  match lookupItem "id" body,(lookupItem "method" body).getD .none with
  | some rid,method => if method.truthy then handleRequest server body rid else .ok []
  | none,_ => .ok []

-- One round of the consumer. A notification is answered with nothing, whether it is valid or not.
def consume (body : List (Key × Value)) : Except String (List Value) :=
  match lookupItem "method" body with
  | some _ => handleMessage server body
  | none =>
    match isParseError body with
    | none => .error "AttributeError"
    | some true => .ok [.dict body]
    | some false => handleMessage server body

def serveStdio : Stages String (List (Key × Value)) String Value where
  capacity := 128
  room := by decide
  read := readStdin server
  consume := consume server

-- The lines before the end of the input or the first empty line.
def beforeEnd (lines : List String) : List String := lines.takeWhile (fun line => decide (rstripNewlines line ≠ ""))

-- What one line is answered with.
def lineAnswers (line : String) : List Value :=
  match readStdin server line with
  | .ok (some body) => Pipeline.written (serveStdio server) body
  | _ => []

-- A JSON-RPC request with a string or an integer for its id.
def Asks (line : String) (id : Value) : Prop :=
  ∃ body method, readStdin server line = .ok (some body) ∧ lookupItem "id" body = some id ∧
    ((∃ text, id = .str text) ∨ ∃ n, id = .int n) ∧ lookupItem "method" body = some (.str method) ∧ method ≠ ""

def IsResponse (id content : Value) : Prop :=
  (∃ result, content = successResponse id result) ∨ ∃ code message, content = errorResponse id code message

-- A message that raises nothing: what it has for an error is an object, and the id of a request can be echoed.
structure Tolerable (body : List (Key × Value)) : Prop where
  errorObject : lookupItem "method" body = none → isParseError body ≠ none
  echoed : ∀ id method, lookupItem "id" body = some id → lookupItem "method" body = some method → method.truthy = true →
    (optionalStrOrInt server.encodable id).isSome = true

def Tolerated (line : String) : Prop :=
  match readStdin server line with
  | .error _ => False
  | .ok none => True
  | .ok (some body) => Tolerable server body
end Serve

section Answers
variable {server : Server}

theorem strOrInt_optional {encodable : String → Bool} {given id : Value} (taken : strOrInt encodable given = some id) :
    optionalStrOrInt encodable given = some id := by
  cases given with
  | none => cases taken
  | _ => exact taken

theorem dispatchRequest_response (request : JsonRpcRequest) {content : Value} (answered : dispatchRequest server request = .ok content) :
    IsResponse request.id content := by
  have responded : ∀ result, respond server request.id result = .ok content → IsResponse request.id content := by
    intro result answered
    unfold respond at answered
    split at answered
    · cases answered
      exact .inl ⟨result,rfl⟩
    · cases answered
  unfold dispatchRequest at answered
  split at answered
  · exact responded _ answered
  · split at answered
    · split at answered
      · exact responded _ answered
      · cases answered
    · split at answered
      · split at answered
        · exact responded _ answered
        · cases answered
          exact .inr ⟨_,_,rfl⟩
        · cases answered
      · split at answered
        · exact responded _ answered
        · cases answered
          exact .inr ⟨_,_,rfl⟩

theorem jsonRpcRequest_id {body : List (Key × Value)} {request : JsonRpcRequest} (valid : jsonRpcRequest server body = some request) :
    ∃ given, lookupItem "id" body = some given ∧ strOrInt server.encodable given = some request.id := by
  unfold jsonRpcRequest at valid
  split at valid
  · rename_i named _ _
    split at valid
    · cases valid
      exact Option.bind_eq_some_iff.mp named
    · cases valid
  · cases valid

-- A request whose id can be echoed is answered once, with that id.
theorem handleRequest_once {body : List (Key × Value)} {rid id : Value} (named : lookupItem "id" body = some rid)
    (echoed : optionalStrOrInt server.encodable rid = some id) : ∃ content, handleRequest server body rid = .ok [content] ∧ IsResponse id content := by
  unfold handleRequest
  cases valid : jsonRpcRequest server body with
  | none => exact ⟨errorResponse id internalError (server.validationText body),by simp only [echoed],.inr ⟨_,_,rfl⟩⟩
  | some request =>
    obtain ⟨given,carried,taken⟩ := jsonRpcRequest_id valid
    rw [named] at carried
    cases carried
    rw [strOrInt_optional taken] at echoed
    cases echoed
    cases dispatched : dispatchRequest server request with
    | error text =>
      exact ⟨errorResponse request.id internalError text,by simp only [dispatched,strOrInt_optional taken],.inr ⟨_,_,rfl⟩⟩
    | ok content => exact ⟨content,by simp only [dispatched],dispatchRequest_response request dispatched⟩

theorem handleMessage_ok {body : List (Key × Value)} (tolerable : Tolerable server body) : ∃ out, handleMessage server body = .ok out := by
  unfold handleMessage
  cases named : lookupItem "id" body with
  | none => exact ⟨[],rfl⟩
  | some rid =>
    simp only
    split
    · rename_i truthy
      cases carried : lookupItem "method" body with
      | none => simp [carried,Value.truthy] at truthy
      | some method =>
        rw [carried] at truthy
        obtain ⟨id,echoed⟩ := Option.isSome_iff_exists.mp (tolerable.echoed rid method named carried truthy)
        obtain ⟨content,answered,_⟩ := handleRequest_once named echoed
        exact ⟨_,answered⟩
    · exact ⟨[],rfl⟩

theorem consume_ok {body : List (Key × Value)} (tolerable : Tolerable server body) : ∃ out, consume server body = .ok out := by
  have handled := handleMessage_ok tolerable
  unfold consume
  cases carried : lookupItem "method" body with
  | some method => exact handled
  | none =>
    cases parsed : isParseError body with
    | none => exact absurd parsed (tolerable.errorObject carried)
    | some found =>
      cases found with
      | true => exact ⟨_,rfl⟩
      | false => exact handled

theorem lines_sound (lines : List String) (tolerated : ∀ line ∈ beforeEnd lines, Tolerated server line) : Sound (serveStdio server) lines := by
  induction lines with
  | nil => trivial
  | cons line rest ih =>
    unfold Sound
    by_cases blank : rstripNewlines line = ""
    · simp [serveStdio,readStdin,blank]
    · have before : beforeEnd (line :: rest) = line :: beforeEnd rest := by simp [beforeEnd,blank]
      rw [before] at tolerated
      have first := tolerated line List.mem_cons_self
      have later := ih (fun other member => tolerated other (List.mem_cons_of_mem _ member))
      unfold Tolerated at first
      simp only [serveStdio]
      cases reads : readStdin server line with
      | error text => simp [reads] at first
      | ok body =>
        cases body with
        | none => trivial
        | some body =>
          simp only [reads] at first
          exact ⟨consume_ok first,later⟩

theorem readStdin_none {line : String} (reads : readStdin server line = .ok none) : rstripNewlines line = "" := by
  unfold readStdin at reads
  simp only at reads
  split at reads
  · assumption
  · split at reads <;> cases reads

theorem answers_lines (lines : List String) (tolerated : ∀ line ∈ beforeEnd lines, Tolerated server line) :
    answers (serveStdio server) lines = (beforeEnd lines).flatMap (lineAnswers server) := by
  unfold answers
  induction lines with
  | nil => rfl
  | cons line rest ih =>
    unfold messages
    by_cases blank : rstripNewlines line = ""
    · simp [serveStdio,readStdin,blank,beforeEnd]
    · have before : beforeEnd (line :: rest) = line :: beforeEnd rest := by simp [beforeEnd,blank]
      rw [before] at tolerated ⊢
      have first := tolerated line List.mem_cons_self
      have later := ih (fun other member => tolerated other (List.mem_cons_of_mem _ member))
      unfold Tolerated at first
      have own : (serveStdio server).read line = readStdin server line := rfl
      rw [own,List.flatMap_cons,lineAnswers]
      cases reads : readStdin server line with
      | error text => simp [reads] at first
      | ok body =>
        cases body with
        | none => exact absurd (readStdin_none reads) blank
        | some body => simp only [List.flatMap_cons,later]

theorem asks_once {line : String} {id : Value} (tolerated : Tolerated server line) (asks : Asks server line id) :
    ∃ content, lineAnswers server line = [content] ∧ IsResponse id content := by
  obtain ⟨body,method,reads,named,form,carried,filled⟩ := asks
  have truthy : (Value.str method).truthy = true := by simpa [Value.truthy] using filled
  simp only [Tolerated,reads] at tolerated
  have echoed := tolerated.echoed id (.str method) named carried truthy
  have own : optionalStrOrInt server.encodable id = some id := by
    rcases form with ⟨text,rfl⟩ | ⟨n,rfl⟩
    · simp only [optionalStrOrInt,strOrInt] at echoed ⊢
      split at echoed
      · rename_i encodes
        rw [if_pos encodes]
      · cases echoed
    · rfl
  have once : ∃ content, handleRequest server body id = .ok [content] ∧ IsResponse id content := handleRequest_once named own
  obtain ⟨content,answered,response⟩ := once
  refine ⟨content,?_,response⟩
  have consumed : (serveStdio server).consume body = .ok [content] := by
    simp only [serveStdio,consume,carried,handleMessage,named,Option.getD_some,truthy,if_true,answered]
  rw [lineAnswers,reads]
  simp only [Pipeline.written,consumed]
  rfl

-- The server reads on to the end of its input or to an empty line, whatever the interleaving of its reader
-- and its writer, and every request before that is answered exactly once, with its id.
theorem serveStdio_answers (server : Server) (lines : List String) (tolerated : ∀ line ∈ beforeEnd lines, Tolerated server line)
    (turns : List Turn) (final : State String (List (Key × Value)) String Value)
    (run : Runs (step (serveStdio server)) (fun _ _ => True) (start lines) turns final) :
    (∀ error, final.producer ≠ .failed error) ∧ (∀ error, final.consumer ≠ .failed error) ∧ turns.length ≤ 3 * lines.length + 3 ∧
    ((∀ turn, step (serveStdio server) final turn = none) → final.consumer = .ended ∧ final.producer = .ended ∧
      final.output = (beforeEnd lines).flatMap (lineAnswers server)) ∧
    ∀ line ∈ beforeEnd lines, ∀ id, Asks server line id → ∃ content, lineAnswers server line = [content] ∧ IsResponse id content := by
  obtain ⟨producer,consumer,finite,ends⟩ := run_answers (lines_sound lines tolerated) run
  refine ⟨producer,consumer,finite,?_,fun line member id asks => asks_once (tolerated line member) asks⟩
  intro stuck
  rw [← answers_lines lines tolerated]
  exact ends stuck
end Answers

def pingBody : List (Key × Value) := [(.str "jsonrpc",.str "2.0"),(.str "id",.int 1),(.str "method",.str "ping")]

-- A server without tools, whose every line is a ping.
def pingServer : Server where
  loads _ := .ok (.dict pingBody)
  encodable _ := true
  initializeResult := .dict []
  toolsList := .ok (.dict [])
  toolsCall _ := .raised ""
  validationText _ := ""
  formText _ := ""

theorem ping_visible : rstripNewlines "ping\n" ≠ "" := by decide +kernel

theorem ping_read : readStdin pingServer "ping\n" = .ok (some pingBody) := by
  unfold readStdin
  rw [if_neg ping_visible]
  rfl

theorem ping_tolerated : ∀ line ∈ beforeEnd ["ping\n"], Tolerated pingServer line := by
  intro line member
  have same : line = "ping\n" := List.mem_singleton.mp ((List.takeWhile_prefix _).subset member)
  subst same
  rw [Tolerated,ping_read]
  have tolerable : Tolerable pingServer pingBody := by
    constructor
    · intro missing
      cases missing
    · intro id method named _ _
      cases named
      rfl
  exact tolerable

def pingAnswered : State String (List (Key × Value)) String Value := ⟨[],[],.ended,.ended,[successResponse (.int 1) (.dict [])]⟩

theorem ping_run : execute (step (serveStdio pingServer)) anyMove (start ["ping\n"]) [.read,.put,.take,.read,.put,.take] = some pingAnswered := by
  have reads := ping_read
  have consumes : consume pingServer pingBody = .ok [successResponse (.int 1) (.dict [])] := rfl
  simp [execute,anyMove,step,start,reads,consumes,pingAnswered,serveStdio]

theorem serveStdio_answers_ping : (∀ line ∈ beforeEnd ["ping\n"], Tolerated pingServer line) ∧
    Runs (step (serveStdio pingServer)) (fun _ _ => True) (start ["ping\n"]) [.read,.put,.take,.read,.put,.take] pingAnswered ∧
    pingAnswered.output = (beforeEnd ["ping\n"]).flatMap (lineAnswers pingServer) := by
  have run := execute_free ping_run
  refine ⟨ping_tolerated,run,?_⟩
  have stuck : ∀ turn, step (serveStdio pingServer) pingAnswered turn = none := by
    intro turn
    cases turn <;> rfl
  exact ((serveStdio_answers pingServer ["ping\n"] ping_tolerated _ pingAnswered run).2.2.2.1 stuck).2.2

def unreadPing : State String (List (Key × Value)) String Value := ⟨["ping\n"],[],.ended,.ended,[]⟩

-- An empty line ends the run; the request behind it is neither read nor answered.
theorem serveStdio_empty_line : Asks pingServer "ping\n" (.int 1) ∧
    Runs (step (serveStdio pingServer)) (fun _ _ => True) (start ["\n","ping\n"]) [.read,.put,.take] unreadPing ∧
    (∀ turn, step (serveStdio pingServer) unreadPing turn = none) ∧ unreadPing.output = [] := by
  refine ⟨⟨pingBody,"ping",ping_read,rfl,.inr ⟨1,rfl⟩,rfl,by decide⟩,?_,?_,rfl⟩
  · have blank : rstripNewlines "\n" = "" := by decide +kernel
    have reads : readStdin pingServer "\n" = .ok none := by simp only [readStdin,blank,if_true]
    apply execute_free
    simp [execute,anyMove,step,start,reads,unreadPing,serveStdio]
  · intro turn
    cases turn <;> rfl

end Asap.McpServer
