import Asap.Framing
import Asap.PythonJson
import Asap.ClientSend

-- Server-sent events between the stream generator of `/asap/stream` and `ASAPClient.stream`.
namespace Asap.SseStream
open PythonValue

-- pydantic's `model_dump(mode="json")` and `model_validate` of an `Envelope`, with what
-- `ClientSend` takes from Python's tables and texts.
structure Codec (Envelope : Type) where
  modelDump : Envelope → List (Key × Value)
  modelValidate : Value → Option Envelope
  payloadType : Envelope → String
  correlationId : Envelope → Option String
  texts : ClientSend.Codec

-- `escaped` is an exception that the error reading does not catch.
inductive StreamError where
  | jsonDecode
  | validation
  | correlation (requestId : String) (correlationId : Option String)
  | remote (code : Int) (message : String)
  | connection (status : Nat) (body : String)
  | escaped (fault : ClientSend.Fault)
  deriving DecidableEq

-- A response whose body arrives in chunks of text.
structure Response where
  status : Nat
  chunks : List (List Char)

def Response.text (response : Response) : List Char := response.chunks.flatten

def blankLine : List Char := ['\n','\n']

def streamBoundPayloadKeys : List String := ["taskresponse","mcptoolresult","mcpresourcedata","taskstream"]

-- `text.split(mark)`.
def splitOn (mark : Char) : List Char → List (List Char)
  | [] => [[]]
  | c :: rest =>
    if c = mark then [] :: splitOn mark rest
    else match splitOn mark rest with
      | [] => [[c]]
      | line :: lines => (c :: line) :: lines

section Streams
variable {Envelope : Type} (codec : Codec Envelope) (floats : Floats)

-- One event of the server: `f"data: {json.dumps(injected.model_dump(mode='json'))}\n\n"`.
def sseEvent (injected : Envelope) : List Char := "data: ".toList ++ render (.dict (codec.modelDump injected)) ++ blankLine

-- `inject` is `inject_envelope_trace_context` with the current span.
def sseEvents (inject : Envelope → Envelope) (envelopes : List Envelope) : List Char :=
  envelopes.flatMap (fun envelope => sseEvent codec (inject envelope))

def bindsStream (requestId : String) (envelope : Envelope) : Bool :=
  !streamBoundPayloadKeys.contains (codec.texts.normalizePayloadType (codec.payloadType envelope)) ||
    decide (codec.correlationId envelope = some requestId)

-- `none` for a line that is passed over.
def handleLine (requestId : String) (line : List Char) : Option (Except StreamError Envelope) :=
  let stripped := strip (String.ofList line)
  if !"data:".toList.isPrefixOf stripped.toList then none
  else
    let json := strip (String.ofList (stripped.toList.drop 5))
    if json = "" then none
    else match loads floats json with
      | none => some (.error .jsonDecode)
      | some data =>
        match codec.modelValidate data with
        | none => some (.error .validation)
        | some envelope =>
          if bindsStream codec requestId envelope then some (.ok envelope)
          else some (.error (.correlation requestId (codec.correlationId envelope)))

-- What has been yielded, and the exception that ended it.
abbrev Yielded (Envelope : Type) := List Envelope × Option StreamError

def handleLines (requestId : String) : List (List Char) → Yielded Envelope
  | [] => ([],none)
  | line :: rest =>
    match handleLine codec floats requestId line with
    | none => handleLines requestId rest
    | some (.error error) => ([],some error)
    | some (.ok envelope) => (envelope :: (handleLines requestId rest).1,(handleLines requestId rest).2)

def handleEvents (requestId : String) (events : List (List Char)) : Yielded Envelope :=
  handleLines codec floats requestId (events.flatMap (splitOn '\n'))

-- `async for chunk in response.aiter_text()`. The buffer is cut before its events are handled; at
-- the end what is left in it is dropped.
def consume (requestId : String) : List Char → List (List Char) → Yielded Envelope
  | _,[] => ([],none)
  | buffer,chunk :: rest =>
    let drained := Framing.drain blankLine (buffer ++ chunk)
    match handleEvents codec floats requestId drained.1 with
    | (yielded,some error) => (yielded,some error)
    | (yielded,none) => (yielded ++ (consume requestId drained.2 rest).1,(consume requestId drained.2 rest).2)

-- An error status: a JSON-RPC error in the body is raised as such.
def errorResponse (status : Nat) (body : String) : StreamError :=
  let plain := StreamError.connection status (String.ofList (body.toList.take 200))
  match loads floats body with
  | some (.dict items) =>
    match lookupItem "error" items with
    | none => plain
    | some (.dict error) =>
      let data := match lookupItem "data" error with
        | some (.dict data) => data
        | _ => []
      match (ClientSend.toInt codec.texts ((lookupItem "code" error).getD (.int (-32603)))).bind (fun code =>
          (ClientSend.recoveryHints codec.texts data).map (fun _ => code)) with
      | .ok code => .remote code (((lookupItem "message" error).map codec.texts.str).getD "Unknown error")
      | .error .overflowError => .escaped .overflowError
      | .error _ => plain
    | some _ => .escaped .attributeError
  | _ => plain

def stream (requestId : String) (response : Response) : Yielded Envelope :=
  if 400 ≤ response.status then ([],some (errorResponse codec floats response.status (String.ofList response.text)))
  else consume codec floats requestId [] response.chunks

section Chunks
variable (requestId : String)

theorem handleLines_append (lines more : List (List Char)) : handleLines codec floats requestId (lines ++ more) =
    match handleLines codec floats requestId lines with
    | (yielded,some error) => (yielded,some error)
    | (yielded,none) => (yielded ++ (handleLines codec floats requestId more).1,(handleLines codec floats requestId more).2) := by
  induction lines with
  | nil => rfl
  | cons line rest ih =>
    rw [List.cons_append]
    simp only [handleLines]
    cases handleLine codec floats requestId line with
    | none => exact ih
    | some outcome =>
      cases outcome with
      | error error => rfl
      | ok envelope =>
        simp only [ih]
        cases handleLines codec floats requestId rest with
        | mk yielded ended =>
          cases ended with
          | none => rfl
          | some error => rfl

-- What is yielded depends on the whole text alone, not on where it was cut.
theorem consume_flatten {buffer : List Char} (settled : Framing.drain blankLine buffer = ([],buffer)) (chunks : List (List Char)) :
    consume codec floats requestId buffer chunks =
      handleEvents codec floats requestId (Framing.drain blankLine (buffer ++ chunks.flatten)).1 := by
  have filled : blankLine ≠ [] := by decide
  induction chunks generalizing buffer with
  | nil =>
    rw [List.flatten_nil,List.append_nil,settled]
    rfl
  | cons chunk rest ih =>
    have later := ih (Framing.drain_rest filled (buffer ++ chunk))
    rw [consume,List.flatten_cons,← List.append_assoc,Framing.drain_append filled (buffer ++ chunk) rest.flatten]
    simp only [later,handleEvents,List.flatMap_append,handleLines_append]

theorem stream_text {response : Response} (success : response.status < 400) :
    stream codec floats requestId response = handleEvents codec floats requestId (Framing.drain blankLine response.text).1 := by
  have settled : Framing.drain blankLine [] = ([],[]) := rfl
  rw [stream,if_neg (by omega),consume_flatten codec floats requestId settled,List.nil_append]
  rfl
end Chunks

section Events
variable {floats}

theorem splitOn_free {mark : Char} {text : List Char} (free : mark ∉ text) : splitOn mark text = [text] := by
  induction text with
  | nil => rfl
  | cons c rest ih =>
    have different : c ≠ mark := fun same => free (List.mem_cons.mpr (.inl same.symm))
    rw [splitOn,if_neg different,ih (fun member => free (List.mem_cons_of_mem _ member))]

theorem strip_text {spaces body : List Char} {first last : Char} (blank : ∀ c ∈ spaces, isSpace c = true) (opens : isSpace first = false)
    (closes : isSpace last = false) : strip (String.ofList (spaces ++ first :: (body ++ [last]))) = String.ofList (first :: (body ++ [last])) := by
  have front : (spaces ++ first :: (body ++ [last])).dropWhile isSpace = first :: (body ++ [last]) := by
    rw [List.dropWhile_append_of_pos blank,List.dropWhile_cons_of_neg (by simp [opens])]
  have back : (first :: (body ++ [last])).reverse = last :: (first :: body).reverse := by
    rw [← List.cons_append,List.reverse_append]
    rfl
  unfold strip
  rw [String.toList_ofList,front,back,List.dropWhile_cons_of_neg (by simp [closes]),← back,List.reverse_reverse]

theorem strip_bare {body : List Char} {first last : Char} (opens : isSpace first = false) (closes : isSpace last = false) :
    strip (String.ofList (first :: (body ++ [last]))) = String.ofList (first :: (body ++ [last])) := by
  have nothing : ∀ c ∈ ([] : List Char), isSpace c = true := by
    intro c impossible
    cases impossible
  have stripped : strip (String.ofList ([] ++ first :: (body ++ [last]))) = String.ofList (first :: (body ++ [last])) :=
    strip_text nothing opens closes
  rw [List.nil_append] at stripped
  exact stripped

-- The line of one event.
def dataLine (injected : Envelope) : List Char := "data: ".toList ++ render (.dict (codec.modelDump injected))

-- Its data is JSON and is validated to the same envelope again.
structure Survives (floats : Floats) (envelope : Envelope) : Prop where
  plain : Plain floats (.dict (codec.modelDump envelope))
  restored : codec.modelValidate (collapse (.dict (codec.modelDump envelope))) = some envelope

variable {codec} {envelope : Envelope}

theorem dataLine_free (survives : Survives codec floats envelope) : '\n' ∉ dataLine codec envelope := by
  intro member
  rcases List.mem_append.mp member with label | json
  · revert label
    decide
  · have printable := (render_printable floats _ survives.plain _ json).1
    revert printable
    decide

-- Stripping leaves the line and then its JSON as they are.
theorem handleLine_data (survives : Survives codec floats envelope) (requestId : String) :
    handleLine codec floats requestId (dataLine codec envelope) = some
      (if bindsStream codec requestId envelope then .ok envelope else .error (.correlation requestId (codec.correlationId envelope))) := by
  have shape : render (.dict (codec.modelDump envelope)) = '\x7b' :: (joined (renderItems (codec.modelDump envelope)) ++ ['\x7d']) := rfl
  have line : dataLine codec envelope = 'd' :: ("ata: \x7b".toList ++ joined (renderItems (codec.modelDump envelope)) ++ ['\x7d']) := by
    delta dataLine
    rw [shape]
    rfl
  have whole : strip (String.ofList (dataLine codec envelope)) = String.ofList (dataLine codec envelope) := by
    rw [line]
    exact strip_bare rfl rfl
  have rest : (dataLine codec envelope).drop 5 = [' '] ++ render (.dict (codec.modelDump envelope)) := rfl
  have json : strip (String.ofList ((dataLine codec envelope).drop 5)) = String.ofList (render (.dict (codec.modelDump envelope))) := by
    rw [rest,shape]
    exact strip_text (List.all_eq_true.mp rfl) rfl rfl
  have labelled : "data:".toList.isPrefixOf (dataLine codec envelope) = true := rfl
  have filled : String.ofList (render (.dict (codec.modelDump envelope))) ≠ "" := by
    intro empty
    have chars := congrArg String.toList empty
    rw [String.toList_ofList,shape] at chars
    cases chars
  simp only [handleLine,whole,String.toList_ofList,labelled,Bool.not_true,Bool.false_eq_true,if_false,json,filled,
    loads_render floats _ survives.plain,survives.restored]
  split <;> rfl

-- The envelopes up to the first one that answers another request.
theorem handleEvents_data {envelopes : List Envelope} (survive : ∀ e ∈ envelopes, Survives codec floats e) (requestId : String) :
    handleEvents codec floats requestId (envelopes.map (dataLine codec)) =
      (envelopes.takeWhile (bindsStream codec requestId),
        (envelopes.find? (fun e => !bindsStream codec requestId e)).map (fun e => .correlation requestId (codec.correlationId e))) := by
  induction envelopes with
  | nil => rfl
  | cons e rest ih =>
    have first := survive e List.mem_cons_self
    have later := ih (fun other member => survive other (List.mem_cons_of_mem _ member))
    unfold handleEvents at later ⊢
    rw [List.map_cons,List.flatMap_cons,splitOn_free (dataLine_free first),List.singleton_append,handleLines,handleLine_data first]
    cases bound : bindsStream codec requestId e with
    | true => simp [bound,later]
    | false => simp [bound]

-- However the text of the server's events is cut into chunks, the client yields the envelopes in
-- order, up to the first one that answers another request.
theorem stream_yields (codec : Codec Envelope) (floats : Floats) (inject : Envelope → Envelope) (envelopes : List Envelope)
    (survive : ∀ e ∈ envelopes, Survives codec floats (inject e)) (requestId : String) (chunks : List (List Char))
    (cut : chunks.flatten = sseEvents codec inject envelopes) :
    stream codec floats requestId ⟨200,chunks⟩ =
      ((envelopes.map inject).takeWhile (bindsStream codec requestId),
        ((envelopes.map inject).find? (fun e => !bindsStream codec requestId e)).map
          (fun e => .correlation requestId (codec.correlationId e))) := by
  have lines : sseEvents codec inject envelopes = ((envelopes.map inject).map (dataLine codec)).flatMap (fun line => line ++ blankLine) := by
    unfold sseEvents
    simp only [List.flatMap_map]
    rfl
  have injected : ∀ e ∈ envelopes.map inject, Survives codec floats e := by
    intro e member
    obtain ⟨sent,listed,rfl⟩ := List.mem_map.mp member
    exact survive sent listed
  have free : ∀ line ∈ (envelopes.map inject).map (dataLine codec), '\n' ∉ line := by
    intro line member
    obtain ⟨e,listed,rfl⟩ := List.mem_map.mp member
    exact dataLine_free (injected e listed)
  have drained : Framing.drain blankLine (sseEvents codec inject envelopes) = ((envelopes.map inject).map (dataLine codec),[]) := by
    rw [lines]
    exact Framing.drain_parts free
  rw [stream_text codec floats requestId (by decide : (200 : Nat) < 400),Response.text,cut,drained]
  exact handleEvents_data injected requestId

end Events

end Streams

-- Chunks of a task, as far as the stream reads them.
structure Chunk where
  text : String
  answers : String
  deriving DecidableEq

def Chunk.dump (chunk : Chunk) : List (Key × Value) := [(.str "text",.str chunk.text),(.str "correlation_id",.str chunk.answers)]

def chunkOf : Value → Option Chunk
  | .dict items =>
    match lookupItem "text" items,lookupItem "correlation_id" items with
    | some (.str text),some (.str answers) => some ⟨text,answers⟩
    | _,_ => none
  | _ => none

def chunkCodec : Codec Chunk where
  modelDump := Chunk.dump
  modelValidate := chunkOf
  payloadType _ := "TaskStream"
  correlationId chunk := some chunk.answers
  texts := ⟨fun _ => .error "",fun text => if text = "TaskStream" then "taskstream" else text,fun _ => none,fun _ => ""⟩

theorem chunk_survives (chunk : Chunk) : Survives chunkCodec integersOnly chunk := ⟨⟨rfl,trivial,rfl,trivial,trivial⟩,rfl⟩

def twoChunks : List Chunk := [⟨"a","req"⟩,⟨"b","req"⟩]

-- Cut inside of the first blank line, and one character before the end.
def cutText : List (List Char) :=
  let text := sseEvents chunkCodec id twoChunks
  [text.take 45,(text.drop 45).dropLast,['\n']]

theorem stream_yields_two : cutText.flatten = sseEvents chunkCodec id twoChunks ∧
    stream chunkCodec integersOnly "req" ⟨200,cutText⟩ = (twoChunks,none) := by
  have whole : cutText.flatten = sseEvents chunkCodec id twoChunks := by decide +kernel
  exact ⟨whole,stream_yields chunkCodec integersOnly id twoChunks (fun chunk _ => chunk_survives chunk) "req" cutText whole⟩

-- A chunk that answers another request is not yielded.
theorem stream_refuses : Survives chunkCodec integersOnly ⟨"a","other"⟩ ∧
    stream chunkCodec integersOnly "req" ⟨200,[sseEvents chunkCodec id [⟨"a","other"⟩]]⟩ = ([],some (.correlation "req" (some "other"))) :=
  ⟨chunk_survives _,by decide +kernel⟩

end Asap.SseStream
