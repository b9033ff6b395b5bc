import Asap.ServerBatch

-- A request sent compressed beside the same request sent plain.
namespace Asap.RequestCompression
open PythonValue StreamErrors RequestHandler ServerBatch

section Compression
variable {Envelope : Type} {app : App Envelope}

-- What an encoding makes of a body. The compressed bytes are no JSON text: to the route they are undecodable.
inductive Packs (app : App Envelope) (encoding : String) (bytes packed : List UInt8) : Prop where
  | identity (named : encoding = "identity") (same : packed = bytes)
  | codec (supported : encoding ∈ app.supportedEncodings) (named : encoding ≠ "" ∧ encoding ≠ "identity")
      (inverts : app.decompress packed encoding = .ok bytes) (noJson : app.loadsBytes packed = .error .undecodable)

def packedRequest (plain : Request) (encoding : String) (chunks : List (List UInt8)) : Request :=
  { plain with contentEncoding := encoding, body := chunks }

-- The route hands the body on as a single request.
def TakenAlone (app : App Envelope) (bytes : List UInt8) : Prop :=
  (∀ items, app.loadsBytes bytes ≠ .ok (.list items)) ∧ ∀ crash, app.loadsBytes bytes ≠ .error (.other crash)

-- The limiter stops the batch as it stops the single request.
def BothLimited (app : App Envelope) (bytes : List UInt8) : Prop :=
  app.allows 1 = false ∧ ∃ items, app.loadsBytes bytes = .ok (.list items) ∧ ¬ NoBatch app items ∧ app.allows items.length = false

theorem readBody_fits (server : Server Envelope) (bytes : List UInt8) (chunks : List (List UInt8))
    (fits : (bytes ++ chunks.flatten).length ≤ server.maxRequestSize) : readBody server bytes chunks = .ok (bytes ++ chunks.flatten) := by
  induction chunks generalizing bytes with
  | nil => simp [readBody]
  | cons chunk rest ih =>
    have small : ¬ server.maxRequestSize < (bytes ++ chunk).length := by
      simp only [List.flatten_cons,List.length_append] at fits ⊢
      omega
    rw [readBody,if_neg small,ih]
    · simp
    · simpa using fits

-- What is read of a body whose bytes are known.
def readBytes (server : Server Envelope) (bytes : List UInt8) : Except Stop (Except String Value) :=
  match server.decodeUtf8 bytes with
  | .error text => .ok (.error ("Invalid UTF-8 encoding: " ++ text))
  | .ok text =>
    match server.loads text with
    | .error (.json text) => .ok (.error ("Invalid JSON: " ++ text))
    | .error (.value text) => .ok (.error text)
    | .error (.other crash) => .error (.crashed crash)
    | .ok body => .ok (.ok body)

-- Without a codec nothing stands between the bytes and their reading.
theorem parseJsonBody_bare (server : Server Envelope) {request : Request} (encoding : request.contentEncoding = "" ∨ request.contentEncoding = "identity") :
    parseJsonBody server request = readBody server [] request.body >>= readBytes server := by
  have known : ¬ (request.contentEncoding ≠ "" ∧ request.contentEncoding ∉ server.supportedEncodings ++ ["identity",""]) := by
    rcases encoding with none | identity <;> simp [*]
  rw [parseJsonBody,if_neg known]
  simp only [bind,Except.bind,decompressBody,if_pos encoding]
  rfl

theorem parseJsonBody_plain (server : Server Envelope) {request : Request} (encoding : request.contentEncoding = "" ∨ request.contentEncoding = "identity")
    (fits : request.body.flatten.length ≤ server.maxRequestSize) : parseJsonBody server request = readBytes server request.body.flatten := by
  rw [parseJsonBody_bare server encoding,readBody_fits server [] request.body (by simpa using fits)]
  rfl

theorem parseJsonBody_codec (server : Server Envelope) {request : Request} {bytes : List UInt8}
    (supported : request.contentEncoding ∈ server.supportedEncodings) (named : request.contentEncoding ≠ "" ∧ request.contentEncoding ≠ "identity")
    (inverts : server.decompress request.body.flatten request.contentEncoding = .ok bytes)
    (packedFits : request.body.flatten.length ≤ server.maxRequestSize) (fits : bytes.length ≤ server.maxRequestSize) :
    parseJsonBody server request = readBytes server bytes := by
  have known : ¬ (request.contentEncoding ≠ "" ∧ request.contentEncoding ∉ server.supportedEncodings ++ ["identity",""]) := by
    simp [supported]
  have packed : ¬ (request.contentEncoding = "" ∨ request.contentEncoding = "identity") := by
    rintro (none | identity)
    · exact named.1 none
    · exact named.2 identity
  rw [parseJsonBody,if_neg known,readBody_fits server [] request.body (by simpa using packedFits)]
  simp only [bind,Except.bind,decompressBody,if_neg packed,List.nil_append,inverts,if_neg (Nat.not_lt.mpr fits)]
  rfl

theorem prepareRequest_same (server : Server Envelope) {left right : Request} (parsed : parseJsonBody server left = parseJsonBody server right)
    (authorization : left.authorization = right.authorization) : prepareRequest server left = prepareRequest server right := by
  unfold prepareRequest parseAndValidateRequest authenticateRequest
  rw [parsed,authorization]

theorem handleMessage_same (environment : Environment Envelope) {left right : Request}
    (parsed : parseJsonBody (seen app environment) left = parseJsonBody (seen app environment) right)
    (authorization : left.authorization = right.authorization) (accept : left.accept = right.accept) :
    handleMessage app environment left = handleMessage app environment right := by
  unfold handleMessage
  rw [prepareRequest_same _ parsed authorization]
  cases prepareRequest (seen app environment) right with
  | error stop => rfl
  | ok ready =>
    obtain ⟨rpcRequest,envelope⟩ := ready
    simp only
    cases environment.dispatch envelope with
    | result dump => simp only [dispatched,buildSuccessResponse,accept]
    | threadPoolExhausted _ | handlerNotFound | asapError _ | crashed _ => rfl

theorem processOne_identity (environment : Environment Envelope) (plain : Request) (bare : plain.contentEncoding = "") (chunks : List (List UInt8))
    (item : Value) : processOne app (packedRequest plain "identity" chunks) environment item = processOne app plain environment item := by
  cases item with
  | dict body =>
    have parsed : parseJsonBody (seen app environment) (subRequest app (packedRequest plain "identity" chunks) (.dict body)) =
        parseJsonBody (seen app environment) (subRequest app plain (.dict body)) := by
      have none : (subRequest app plain (.dict body)).contentEncoding = "" := bare
      rw [parseJsonBody_bare _ (.inr rfl),parseJsonBody_bare _ (.inl none)]
      rfl
    simp only [processOne,handleMessage_same environment parsed rfl rfl]
  | none | bool _ | int _ | float _ _ | nonFinite _ | str _ | list _ | other _ => rfl

theorem gather_identity (plain : Request) (bare : plain.contentEncoding = "") (chunks : List (List UInt8)) (rows : List (Value × Environment Envelope)) :
    gather app (packedRequest plain "identity" chunks) rows = gather app plain rows := by
  induction rows with
  | nil => rfl
  | cons row rest ih =>
    obtain ⟨item,environment⟩ := row
    rw [gather,gather,processOne_identity environment plain bare chunks item,ih]

-- The identity encoding changes nothing, for a single request and for a batch.
theorem identity_transparent (environments : Nat → Environment Envelope) {plain : Request} (bare : plain.contentEncoding = "")
    {chunks : List (List UInt8)} (same : chunks.flatten = plain.body.flatten) (fits : plain.body.flatten.length ≤ app.maxRequestSize) :
    handleAsapMessage app environments (packedRequest plain "identity" chunks) = handleAsapMessage app environments plain := by
  have alone : handleMessage app (environments 0) (packedRequest plain "identity" chunks) = handleMessage app (environments 0) plain := by
    apply handleMessage_same
    · rw [parseJsonBody_plain (seen app (environments 0)) (.inr rfl) (same ▸ fits),
        parseJsonBody_plain (seen app (environments 0)) (.inl bare) fits,packedRequest,same]
    · rfl
    · rfl
  have bytes : (packedRequest plain "identity" chunks).body.flatten = plain.body.flatten := same
  unfold handleAsapMessage
  rw [bytes,alone]
  simp only [handleBatch,gather_identity plain bare chunks]

-- A reply whose error has a text: no batch has it.
def Reports (reply : Reply) : Prop :=
  ∃ code message text data id, reply = .response (.json 200 (Rejection.jsonRpc code message ((.str "error",text) :: data) id).content)

theorem reports_internal (crash : Crash) (id : Value) : Reports (internal app crash id) := by
  unfold internal handleInternalError
  split
  · exact ⟨_,_,_,_,_,rfl⟩
  · exact ⟨_,_,_,_,_,rfl⟩

theorem reports_built {server : Server Envelope} (code : Int) (text : Value) (data : List (Key × Value)) (given id : Value) :
    Reports (stopReply app id (buildErrorResponse server code ((.str "error",text) :: data) given)) := by
  unfold buildErrorResponse
  split
  · exact reports_internal _ _
  · unfold StreamErrors.render
    split
    · exact ⟨_,_,_,_,_,rfl⟩
    · exact reports_internal _ _

-- Bytes that are no object to the handler end in such an error.
theorem handleMessage_reports (environment : Environment Envelope) {request : Request} {bytes : List UInt8}
    (parsed : parseJsonBody (seen app environment) request = readBytes (seen app environment) bytes)
    (noObject : ∀ text body, app.decodeUtf8 bytes = .ok text → app.loads text ≠ .ok (.dict body)) :
    Reports (handleMessage app environment request) := by
  unfold handleMessage prepareRequest parseAndValidateRequest
  rw [parsed,readBytes]
  simp only [seen]
  cases decoded : app.decodeUtf8 bytes with
  | error text => exact reports_built _ _ _ _ _
  | ok text =>
    simp only
    cases loaded : app.loads text with
    | error failure =>
      cases failure with
      | json text => exact reports_built _ _ _ _ _
      | value text => exact reports_built _ _ _ _ _
      | other crash => exact reports_internal _ _
    | ok value =>
      cases value with
      | dict body => exact absurd loaded (noObject text body decoded)
      | none | bool _ | int _ | float _ _ | nonFinite _ | str _ | list _ | other _ => exact reports_built _ _ _ _ _

theorem handleBatch_reports (request : Request) (rows : List (Value × Environment Envelope)) : ¬ Reports (handleBatch app request rows) := by
  rintro ⟨code,message,text,data,id,same⟩
  unfold handleBatch at same
  split at same
  · simp [batchErrorResponse,Rejection.content] at same
  · split at same
    · simp [batchErrorResponse,Rejection.content] at same
    · split at same
      · cases same
      · split at same
        · cases same
        · simp [Rejection.content] at same

theorem codec_alone (environments : Nat → Environment Envelope) (plain : Request) {encoding : String} {chunks : List (List UInt8)}
    (noJson : app.loadsBytes chunks.flatten = .error .undecodable) :
    handleAsapMessage app environments (packedRequest plain encoding chunks) =
      if app.allows 1 then handleMessage app (environments 0) (packedRequest plain encoding chunks) else .limited := by
  unfold handleAsapMessage
  simp only [packedRequest,noJson]

theorem plain_alone (environments : Nat → Environment Envelope) {plain : Request} (alone : TakenAlone app plain.body.flatten) :
    handleAsapMessage app environments plain = if app.allows 1 then handleMessage app (environments 0) plain else .limited := by
  unfold handleAsapMessage
  cases loaded : app.loadsBytes plain.body.flatten with
  | error failure =>
    cases failure with
    | undecodable => rfl
    | other crash => exact absurd loaded (alone.2 crash)
  | ok value =>
    cases value with
    | list items => exact absurd loaded (alone.1 items)
    | none | bool _ | int _ | float _ _ | nonFinite _ | str _ | dict _ | other _ => rfl

theorem plain_batch (environments : Nat → Environment Envelope) {plain : Request} {items : List Value}
    (loaded : app.loadsBytes plain.body.flatten = .ok (.list items)) :
    handleAsapMessage app environments plain = handleBatch app plain (rowsOf environments items) := by
  unfold handleAsapMessage
  rw [loaded]
  rfl

theorem handleBatch_limited (environments : Nat → Environment Envelope) (request : Request) (items : List Value) :
    handleBatch app request (rowsOf environments items) = .limited ↔ ¬ NoBatch app items ∧ app.allows items.length = false := by
  have filled : rowsOf environments items = [] ↔ items = [] := by
    rw [← List.length_eq_zero_iff,rowsOf_length,List.length_eq_zero_iff]
  unfold handleBatch NoBatch
  rw [rowsOf_length]
  split
  · rename_i empty
    simp [batchErrorResponse,filled.mp empty]
  · rename_i some
    split
    · rename_i long
      simp [batchErrorResponse,long]
    · rename_i short
      split
      · rename_i stopped
        simpa [mt filled.mpr some,Nat.not_lt.mp short] using stopped
      · rename_i allowed
        have open' : app.allows items.length = true := by simpa using allowed
        rw [open']
        split <;> simp

-- A compressed body is answered as the plain one is, exactly if it is sent as it is, or the route takes the
-- plain one for a single request, or the limiter stops both.
theorem compression_transparent_iff {Envelope : Type} (app : App Envelope) (environments : Nat → Environment Envelope) (plain : Request)
    (bare : plain.contentEncoding = "") (encoding : String) (chunks : List (List UInt8)) (packs : Packs app encoding plain.body.flatten chunks.flatten)
    (fits : plain.body.flatten.length ≤ app.maxRequestSize) (packedFits : chunks.flatten.length ≤ app.maxRequestSize) :
    handleAsapMessage app environments (packedRequest plain encoding chunks) = handleAsapMessage app environments plain ↔
      encoding = "identity" ∨ TakenAlone app plain.body.flatten ∨ BothLimited app plain.body.flatten := by
  rcases packs with ⟨rfl,same⟩ | ⟨supported,named,inverts,noJson⟩
  · exact iff_of_true (identity_transparent environments bare same fits) (.inl rfl)
  · have parsed : parseJsonBody (seen app (environments 0)) (packedRequest plain encoding chunks) =
        readBytes (seen app (environments 0)) plain.body.flatten := parseJsonBody_codec _ supported named inverts packedFits fits
    have plainParsed : parseJsonBody (seen app (environments 0)) plain = readBytes (seen app (environments 0)) plain.body.flatten :=
      parseJsonBody_plain _ (.inl bare) fits
    have reports : (∀ text body, app.decodeUtf8 plain.body.flatten = .ok text → app.loads text ≠ .ok (.dict body)) →
        Reports (handleMessage app (environments 0) (packedRequest plain encoding chunks)) := handleMessage_reports (environments 0) parsed
    rw [codec_alone environments plain noJson]
    simp only [named.2,false_or]
    cases loaded : app.loadsBytes plain.body.flatten with
    | error failure =>
      cases failure with
      | undecodable =>
        have alone : TakenAlone app plain.body.flatten := by simp [TakenAlone,loaded]
        rw [plain_alone environments alone,handleMessage_same (environments 0) (parsed.trans plainParsed.symm) rfl rfl]
        simp [alone]
      | other crash =>
        have raised : handleAsapMessage app environments plain = .raised crash := by
          unfold handleAsapMessage
          rw [loaded]
        obtain ⟨_,_,_,_,_,answered⟩ := reports (fun text body decoded read => by
          have agreed := app.agrees _ text _ decoded read
          rw [loaded] at agreed
          cases agreed)
        rw [raised,answered]
        simp only [TakenAlone,BothLimited,loaded]
        split <;> simp
    | ok value =>
      by_cases array : ∃ items, value = .list items
      · obtain ⟨items,rfl⟩ := array
        have answered := reports (fun text body decoded read => by
          have agreed := app.agrees _ text _ decoded read
          rw [loaded] at agreed
          cases agreed)
        rw [plain_batch environments loaded]
        have together : TakenAlone app plain.body.flatten ∨ BothLimited app plain.body.flatten ↔
            app.allows 1 = false ∧ ¬ NoBatch app items ∧ app.allows items.length = false := by
          simp [TakenAlone,BothLimited,loaded]
        rw [together]
        split
        · rename_i allowed
          constructor
          · intro same
            rw [same] at answered
            exact absurd answered (handleBatch_reports plain _)
          · rintro ⟨stopped,_⟩
            rw [allowed] at stopped
            cases stopped
        · rename_i stopped
          rw [eq_comm,handleBatch_limited]
          simp [stopped]
      · have alone : TakenAlone app plain.body.flatten := by
          refine ⟨fun items listed => array ⟨items,?_⟩,?_⟩
          · rw [loaded] at listed
            exact Except.ok.inj listed
          · simp [loaded]
        rw [plain_alone environments alone,handleMessage_same (environments 0) (parsed.trans plainParsed.symm) rfl rfl]
        simp [alone]
end Compression

-- The array `[1]`, its item, and the byte the array is packed into.
def packingApp : App Unit where
  toServer := { plainServer 100 with
    ascii := ServerBatch.plain_ascii
    decompress := fun bytes _ => if bytes = [31] then .ok [91,49,93] else .error (.value "unsupported")
    decodeUtf8 := fun bytes => if bytes = [91,49,93] then .ok "[1]" else if bytes = [49] then .ok "1" else .error "invalid start byte"
    loads := fun text => if text = "[1]" then .ok (.list [.int 1]) else .ok (.int 1) }
  maxBatchSize := 50
  allows _ := true
  loadsBytes bytes := if bytes = [91,49,93] then .ok (.list [.int 1]) else if bytes = [49] then .ok (.int 1) else .error .undecodable
  dumps _ := [49]
  rereads bytes items same item member := by
    split at same
    · cases same
      cases List.mem_singleton.mp member
      exact ⟨"1",rfl,rfl⟩
    · split at same <;> cases same
  agrees bytes text value decoded loaded := by
    simp only at decoded loaded ⊢
    split at decoded
    · rename_i array
      cases decoded
      cases loaded
      rw [if_pos array]
    · rename_i noArray
      split at decoded
      · rename_i item
        cases decoded
        cases loaded
        rw [if_neg noArray,if_pos item]
      · cases decoded
  uncompressed _ _ _ _ _ same := by cases same
  dumpJson _ := none
  floats := integersOnly

def arrayRequest : Request := { contentEncoding := "",body := [[91,49,93]] }

theorem array_packs : Packs packingApp "gzip" arrayRequest.body.flatten [[31]].flatten :=
  .codec List.mem_cons_self ⟨by decide,by decide⟩ rfl rfl

theorem compression_transparent_array : arrayRequest.contentEncoding = "" ∧ Packs packingApp "gzip" arrayRequest.body.flatten [[31]].flatten ∧
    (handleAsapMessage packingApp (fun _ => plainEnvironment) (packedRequest arrayRequest "gzip" [[31]]) =
      handleAsapMessage packingApp (fun _ => plainEnvironment) arrayRequest ↔
        "gzip" = "identity" ∨ TakenAlone packingApp arrayRequest.body.flatten ∨ BothLimited packingApp arrayRequest.body.flatten) :=
  ⟨rfl,array_packs,compression_transparent_iff packingApp (fun _ => plainEnvironment) arrayRequest rfl "gzip" [[31]] array_packs (by decide) (by decide)⟩

-- A compressed batch is refused as one request that is no object; the plain one is a batch.
theorem compression_visible :
    handleAsapMessage packingApp (fun _ => plainEnvironment) arrayRequest = .response (.json 200 (.list [invalidItem])) ∧
    handleAsapMessage packingApp (fun _ => plainEnvironment) (packedRequest arrayRequest "gzip" [[31]]) =
      .response (.json 200 (Rejection.jsonRpc invalidRequest "Invalid request" [(.str "error",.str "JSON-RPC request must be an object"),
        (.str "received_type",.str "list")] .none).content) ∧
    handleAsapMessage packingApp (fun _ => plainEnvironment) (packedRequest arrayRequest "gzip" [[31]]) ≠
      handleAsapMessage packingApp (fun _ => plainEnvironment) arrayRequest := by
  refine ⟨rfl,rfl,?_⟩
  intro same
  have plain : handleAsapMessage packingApp (fun _ => plainEnvironment) arrayRequest = .response (.json 200 (.list [invalidItem])) := rfl
  rw [plain] at same
  cases same

end Asap.RequestCompression
