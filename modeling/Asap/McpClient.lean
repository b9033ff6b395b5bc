import Asap.Interleaving
import Asap.PythonValue

-- The MCP client: its calls, and the one stream of lines they read their responses from.
namespace Asap.McpClient
open PythonValue Interleaving

inductive Kind where
  | listTools
  | callTool

-- A line of the server: an object, what `_receive` makes None of (the end of the stream, an empty line,
-- no JSON, no object), or bytes that are no UTF-8, on which it raises.
inductive Line where
  | message (raw : List (Key × Value))
  | nothing
  | undecodable

-- What a call returns: the tools or the result that were read, or the text of an error.
inductive Payload where
  | result (value : Value)
  | error (text : Value)

structure Call where
  id : Value
  kind : Kind

structure Returned where
  call : Call
  raw : List (Key × Value)
  payload : Payload

-- `listToolsResult` and `callToolResult` are the models of the results, none where they raise.
structure Client where
  useStrIds : Bool
  listToolsResult : Value → Option Value
  callToolResult : Value → Option Value
  str : Value → String

-- A connected client. `calls` are waiting for a line, in the order they were sent; `buffer` has arrived.
structure State where
  requestId : Nat
  calls : List Call
  buffer : List Line
  returned : List Returned

inductive Move where
  | send (kind : Kind)
  | output (line : Line)
  | receive (index : Nat)
  | expire (index : Nat)

variable (client : Client)

def idOf (n : Nat) : Value := if client.useStrIds then .str (toString n) else .int n

-- The initialize request has taken the first id.
def connected : State := ⟨1,[],[],[]⟩

-- The end of `list_tools` and of `call_tool` with what they received; none where they raise.
def payload (kind : Kind) (raw : List (Key × Value)) : Option Payload :=
  match lookupItem "error" raw,kind with
  | some _,.listTools => none
  | some (.dict error),.callTool => some (.error ((lookupItem "message" error).getD (.str (client.str (.dict error)))))
  | some _,.callTool => none
  | none,.listTools => ((lookupItem "result" raw).bind client.listToolsResult).map .result
  | none,.callTool => ((lookupItem "result" raw).bind client.callToolResult).map .result

def finish (call : Call) : Line → List Returned
  | .message raw =>
    match payload client call.kind raw with
    | some payload => [⟨call,raw,payload⟩]
    | none => []
  | .nothing | .undecodable => []

-- A waiting call takes the next line that has come, whatever its id. It ends without one when it times out,
-- is cancelled, or finds another call waiting on the stream.
def step (s : State) : Move → Option State
  | .send kind => some { s with requestId := s.requestId + 1,calls := s.calls ++ [⟨idOf client (s.requestId + 1),kind⟩] }
  | .output line => some { s with buffer := s.buffer ++ [line] }
  | .receive index =>
    match s.calls[index]?,s.buffer with
    | some call,line :: rest =>
      some { s with calls := s.calls.eraseIdx index,buffer := rest,returned := s.returned ++ finish client call line }
    | _,_ => none
  | .expire index =>
    match s.calls[index]? with
    | some _ => some { s with calls := s.calls.eraseIdx index }
    | none => none

-- The line is the response to the call.
def Responds (call : Call) (line : Line) : Prop := ∃ raw, line = .message raw ∧ lookupItem "id" raw = some call.id

-- What a call returned was read from the response with its id.
def Correlated (s : State) : Prop := ∀ result ∈ s.returned, lookupItem "id" result.raw = some result.call.id

-- The server answers the waiting calls in the order they were sent, with nothing between; they read in that
-- order; and a call gives up only while no line has come for it.
def Orderly (s : State) : Move → Prop
  | .send _ => True
  | .output line => ∃ call, s.calls[s.buffer.length]? = some call ∧ Responds call line
  | .receive index => index = 0
  | .expire index => s.buffer.length ≤ index

-- Each line that has come is the response to the call that will read it.
structure Aligned (s : State) : Prop where
  correlated : Correlated s
  lines : ∀ (j : Nat) (line : Line), s.buffer[j]? = some line → ∃ call, s.calls[j]? = some call ∧ Responds call line

variable {client}

theorem connected_aligned : Aligned connected := by
  constructor
  · intro result member
    cases member
  · intro j line found
    cases found

theorem finish_raw {call : Call} {line : Line} {result : Returned} (member : result ∈ finish client call line) :
    result.call = call ∧ line = .message result.raw := by
  unfold finish at member
  split at member
  · split at member
    · cases List.mem_singleton.mp member
      exact ⟨rfl,rfl⟩
    · cases member
  · cases member
  · cases member

theorem send_aligned {s next : State} {kind : Kind} (taken : step client s (.send kind) = some next) (aligned : Aligned s) : Aligned next := by
  cases taken
  refine ⟨aligned.correlated,?_⟩
  intro j line found
  obtain ⟨call,waiting,responds⟩ := aligned.lines j line found
  have inside : j < s.calls.length := (List.getElem?_eq_some_iff.mp waiting).1
  exact ⟨call,by rw [List.getElem?_append_left inside]; exact waiting,responds⟩

theorem output_aligned {s next : State} {line : Line} (allowed : Orderly s (.output line)) (taken : step client s (.output line) = some next)
    (aligned : Aligned s) : Aligned next := by
  cases taken
  obtain ⟨call,waiting,responds⟩ := allowed
  refine ⟨aligned.correlated,?_⟩
  intro j other found
  by_cases here : j < s.buffer.length
  · rw [List.getElem?_append_left here] at found
    exact aligned.lines j other found
  · have last : j = s.buffer.length := by
      have bound := (List.getElem?_eq_some_iff.mp found).1
      rw [List.length_append,List.length_singleton] at bound
      omega
    subst last
    simp only [List.getElem?_concat_length,Option.some.injEq] at found
    subst found
    exact ⟨call,waiting,responds⟩

theorem receive_aligned {s next : State} (taken : step client s (.receive 0) = some next) (aligned : Aligned s) : Aligned next := by
  simp only [step] at taken
  split at taken
  · rename_i call line rest first buffer
    cases taken
    have lines := aligned.lines
    rw [buffer] at lines
    obtain ⟨own,waiting,raw,same,named⟩ := lines 0 line rfl
    rw [first] at waiting
    cases waiting
    cases calls : s.calls with
    | nil => simp [calls] at first
    | cons head later =>
      refine ⟨?_,?_⟩
      · intro result member
        rcases List.mem_append.mp member with old | new
        · exact aligned.correlated result old
        · obtain ⟨called,read⟩ := finish_raw new
          rw [same] at read
          cases read
          rw [called]
          exact named
      · intro j other found
        obtain ⟨answered,there,responds⟩ := lines (j + 1) other found
        rw [calls] at there
        exact ⟨answered,by simpa [calls] using there,responds⟩
  · cases taken

theorem expire_aligned {s next : State} {index : Nat} (allowed : Orderly s (.expire index)) (taken : step client s (.expire index) = some next)
    (aligned : Aligned s) : Aligned next := by
  simp only [step] at taken
  split at taken
  · cases taken
    refine ⟨aligned.correlated,?_⟩
    intro j line found
    obtain ⟨call,waiting,responds⟩ := aligned.lines j line found
    have bound : j < s.buffer.length := (List.getElem?_eq_some_iff.mp found).1
    have before : j < index := Nat.lt_of_lt_of_le bound allowed
    exact ⟨call,by rw [List.getElem?_eraseIdx_of_lt before]; exact waiting,responds⟩
  · cases taken

theorem step_aligned {s next : State} (move : Move) (allowed : Orderly s move) (taken : step client s move = some next) (aligned : Aligned s) :
    Aligned next := by
  cases move with
  | send kind => exact send_aligned taken aligned
  | output line => exact output_aligned allowed taken aligned
  | receive index =>
    cases allowed
    exact receive_aligned taken aligned
  | expire index => exact expire_aligned allowed taken aligned

-- In every orderly history each call that returns has read the response with its own id.
theorem returned_correlated {client : Client} {moves : List Move} {final : State} (run : Runs (step client) Orderly connected moves final) :
    Correlated final :=
  (run.invariant Aligned (fun _ move _ allowed taken aligned => step_aligned move allowed taken aligned) connected_aligned).correlated

def anyClient : Client := ⟨true,some,some,fun _ => ""⟩

def responseTo (id : Value) (result : Value) : List (Key × Value) := [(.str "jsonrpc",.str "2.0"),(.str "id",id),(.str "result",result)]

-- Two calls one after the other.
def orderlyMoves : List Move :=
  [.send .listTools,.output (.message (responseTo (.str "2") (.dict []))),.receive 0,
   .send .callTool,.output (.message (responseTo (.str "3") (.dict []))),.receive 0]

def orderlyFinal : State := ⟨3,[],[],[⟨⟨.str "2",.listTools⟩,responseTo (.str "2") (.dict []),.result (.dict [])⟩,
  ⟨⟨.str "3",.callTool⟩,responseTo (.str "3") (.dict []),.result (.dict [])⟩]⟩

theorem orderly_run : Runs (step anyClient) Orderly connected orderlyMoves orderlyFinal := by
  refine .cons _ _ _ _ _ trivial rfl ?_
  refine .cons _ _ _ _ _ ⟨_,rfl,_,rfl,rfl⟩ rfl ?_
  refine .cons _ _ _ _ _ rfl rfl ?_
  refine .cons _ _ _ _ _ trivial rfl ?_
  refine .cons _ _ _ _ _ ⟨_,rfl,_,rfl,rfl⟩ rfl ?_
  refine .cons _ _ _ _ _ rfl rfl ?_
  exact .nil _

theorem returned_correlated_two : Runs (step anyClient) Orderly connected orderlyMoves orderlyFinal ∧ Correlated orderlyFinal :=
  ⟨orderly_run,returned_correlated orderly_run⟩

-- A call times out, the response comes late, and the next call returns it.
def lateMoves : List Move :=
  [.send .callTool,.expire 0,.send .callTool,.output (.message (responseTo (.str "2") (.dict []))),.receive 0]

def lateFinal : State := ⟨3,[],[],[⟨⟨.str "3",.callTool⟩,responseTo (.str "2") (.dict []),.result (.dict [])⟩]⟩

theorem late_response_returned : Runs (step anyClient) (fun _ _ => True) connected lateMoves lateFinal ∧ ¬ Correlated lateFinal := by
  refine ⟨execute_free rfl,?_⟩
  intro correlated
  have named := correlated _ List.mem_cons_self
  have same : Value.str "2" = Value.str "3" := Option.some.inj named
  exact absurd (Value.str.inj same) (by decide)

end Asap.McpClient
