import Asap.OrderedDict
import Asap.HashChain
import Asap.PythonValue

namespace Asap.AuditLog
open OrderedDict PythonValue

-- An `AuditEntry` holds a datetime and a dictionary; a row of `audit_log` holds
-- the text of both.
structure AuditEntry (T D : Type) where
  id : String
  timestamp : T
  operation : String
  agentUrn : String
  details : D
  prevHash : String := ""
  hash : String := ""
  deriving DecidableEq

abbrev Entry := AuditEntry DateTime (Dict String Value)
abbrev Row := AuditEntry String String

def detailsValue (details : Dict String Value) : Value :=
  .dict (details.entries.map (fun item => (.str item.1,item.2)))

def canonical (prevHash iso operation json : String) : String :=
  prevHash ++ "|" ++ iso ++ "|" ++ operation ++ "|" ++ json

-- `sha256` takes the canonical text to the hex digest of its encoding.
variable (sha256 : String → String)

def computeEntryHash (prevHash : String) (timestamp : DateTime) (operation : String) (details : Value) : Option String :=
  (dumps spaced details).map (fun json => sha256 (canonical prevHash timestamp.isoformat operation json))

-- The hash an append links to: the last stored one, or the empty text.
def lastHash (log : List (AuditEntry T D)) : String :=
  match log.getLast? with
  | none => ""
  | some entry => entry.hash

-- `none`: the call raises and stores nothing.
def InMemory.append (log : List Entry) (entry : Entry) : Option (List Entry) :=
  (computeEntryHash sha256 (lastHash log) entry.timestamp entry.operation (detailsValue entry.details)).map (fun computed =>
    log ++ [{entry with prevHash := lastHash log,hash := computed}])

def InMemory.verifyLoop : String → List Entry → Option Bool
  | _,[] => some true
  | prevHash,entry :: rest =>
    match computeEntryHash sha256 prevHash entry.timestamp entry.operation (detailsValue entry.details) with
    | none => none
    | some expected =>
      if entry.hash ≠ expected ∨ entry.prevHash ≠ prevHash then some false
      else InMemory.verifyLoop entry.hash rest

def InMemory.verifyChain (log : List Entry) : Option Bool := InMemory.verifyLoop sha256 "" log

-- The id column is UNIQUE, so a second row under one id is refused.
def Sqlite.append (table : List Row) (entry : Entry) : Option (List Row) :=
  match computeEntryHash sha256 (lastHash table) entry.timestamp entry.operation (detailsValue entry.details),
      dumps spaced (detailsValue entry.details) with
  | some computed,some json =>
    if entry.id ∈ table.map AuditEntry.id then none
    else some (table ++ [{
      id := entry.id
      timestamp := entry.timestamp.isoformat
      operation := entry.operation
      agentUrn := entry.agentUrn
      details := json
      prevHash := lastHash table
      hash := computed}])
  | _,_ => none

-- `datetime.fromisoformat` and `json.loads`, `none` where they raise.
structure Decoder where
  fromisoformat : String → Option DateTime
  loads : String → Option Value

variable (decoder : Decoder)

def Sqlite.verifyLoop : String → List Row → Option Bool
  | _,[] => some true
  | prevHash,row :: rest =>
    match decoder.fromisoformat row.timestamp,decoder.loads row.details with
    | some ts,some details =>
      match computeEntryHash sha256 prevHash ts row.operation details with
      | none => none
      | some expected =>
        if row.hash ≠ expected ∨ row.prevHash ≠ prevHash then some false
        else Sqlite.verifyLoop row.hash rest
    | _,_ => none

def Sqlite.verifyChain (table : List Row) : Option Bool := Sqlite.verifyLoop sha256 decoder "" table

-- What either verifier reads of a stored entry: the texts of its timestamp and
-- its details, and the operation between them.
structure Texts (T D : Type) where
  iso : T → Option String
  json : D → Option String

def entryTexts : Texts DateTime (Dict String Value) where
  iso timestamp := some timestamp.isoformat
  json details := dumps spaced (detailsValue details)

def rowTexts : Texts String String where
  iso timestamp := (decoder.fromisoformat timestamp).map DateTime.isoformat
  json details := (decoder.loads details).bind (dumps spaced)

def reader (texts : Texts T D) : HashChain.Reader (AuditEntry T D) String (String × String × String) where
  payload entry := (texts.iso entry.timestamp).bind (fun iso =>
    (texts.json entry.details).map (fun json => (iso,entry.operation,json)))
  previous := AuditEntry.prevHash
  hash := AuditEntry.hash
  digest previous payload := sha256 (canonical previous payload.1 payload.2.1 payload.2.2)

theorem entry_payload (entry : Entry) : (reader sha256 entryTexts).payload entry =
    (dumps spaced (detailsValue entry.details)).map (fun json => (entry.timestamp.isoformat,entry.operation,json)) := rfl

theorem row_payload (row : Row) : (reader sha256 (rowTexts decoder)).payload row =
    ((decoder.fromisoformat row.timestamp).map DateTime.isoformat).bind (fun iso =>
      ((decoder.loads row.details).bind (dumps spaced)).map (fun json => (iso,row.operation,json))) := rfl

theorem inMemory_verifyLoop_eq (prevHash : String) (log : List Entry) :
    InMemory.verifyLoop sha256 prevHash log = HashChain.verifyFrom (reader sha256 entryTexts) prevHash log := by
  induction log generalizing prevHash with
  | nil => rfl
  | cons entry rest ih =>
    unfold InMemory.verifyLoop HashChain.verifyFrom computeEntryHash
    rw [entry_payload]
    cases dumps spaced (detailsValue entry.details) with
    | none => rfl
    | some json =>
      simp only [Option.map_some,ih]
      rfl

theorem sqlite_verifyLoop_eq (prevHash : String) (table : List Row) :
    Sqlite.verifyLoop sha256 decoder prevHash table =
      HashChain.verifyFrom (reader sha256 (rowTexts decoder)) prevHash table := by
  induction table generalizing prevHash with
  | nil => rfl
  | cons row rest ih =>
    unfold Sqlite.verifyLoop HashChain.verifyFrom computeEntryHash
    rw [row_payload]
    cases decoder.fromisoformat row.timestamp with
    | none => rfl
    | some ts =>
      cases decoder.loads row.details with
      | none => rfl
      | some details =>
        cases written : dumps spaced details with
        | none => simp [written]
        | some json =>
          simp only [Option.map_some,Option.bind_some,written,ih]
          rfl

-- One stored field replaced by another value.
inductive Tampering (T D : Type) where
  | id (value : String)
  | timestamp (value : T)
  | operation (value : String)
  | agentUrn (value : String)
  | details (value : D)
  | prevHash (value : String)
  | hash (value : String)

def Tampering.apply : Tampering T D → AuditEntry T D → AuditEntry T D
  | .id value,entry => {entry with id := value}
  | .timestamp value,entry => {entry with timestamp := value}
  | .operation value,entry => {entry with operation := value}
  | .agentUrn value,entry => {entry with agentUrn := value}
  | .details value,entry => {entry with details := value}
  | .prevHash value,entry => {entry with prevHash := value}
  | .hash value,entry => {entry with hash := value}

-- The hash covers neither the id nor the agent, and of a timestamp or a details
-- value only its text.
def Detectable (texts : Texts T D) (entry : AuditEntry T D) : Tampering T D → Prop
  | .id _ | .agentUrn _ => False
  | .operation _ | .prevHash _ | .hash _ => True
  | .timestamp value => ∃ iso, texts.iso value = some iso ∧ texts.iso entry.timestamp ≠ some iso
  | .details value => ∃ json, texts.json value = some json ∧ texts.json entry.details ≠ some json

theorem canonical_injective {prevHash iso iso' operation operation' json json' : String}
    (same : canonical prevHash iso operation json = canonical prevHash iso' operation' json') :
    iso ++ "|" ++ operation ++ "|" ++ json = iso' ++ "|" ++ operation' ++ "|" ++ json' := by
  unfold canonical at same
  simpa [String.append_assoc] using same

section Tamper
variable (texts : Texts T D) {before after : List (AuditEntry T D)} {entry : AuditEntry T D}

theorem sealed_texts (verified : HashChain.verifyFrom (reader sha256 texts) "" (before ++ entry :: after) = some true) :
    ∃ iso json, texts.iso entry.timestamp = some iso ∧ texts.json entry.details = some json ∧
      entry.hash = sha256 (canonical entry.prevHash iso entry.operation json) := by
  obtain ⟨payload,read,bound⟩ := HashChain.entry_sealed (reader sha256 texts) verified
  cases iso : texts.iso entry.timestamp with
  | none => simp [reader,iso] at read
  | some isoText =>
    cases json : texts.json entry.details with
    | none => simp [reader,iso,json] at read
    | some jsonText =>
      simp only [reader,iso,json,Option.bind_some,Option.map_some,Option.some.injEq] at read
      subst read
      exact ⟨isoText,jsonText,rfl,rfl,bound⟩

theorem reader_payload {forged : AuditEntry T D} (iso : texts.iso forged.timestamp = some isoText)
    (json : texts.json forged.details = some jsonText) :
    (reader sha256 texts).payload forged = some (isoText,forged.operation,jsonText) := by
  simp [reader,iso,json]

-- A replaced text is found out through the digest, an unreadable one stops the
-- walk, an equal one passes.
theorem tampered_text (injective : Function.Injective sha256)
    (verified : HashChain.verifyFrom (reader sha256 texts) "" (before ++ entry :: after) = some true)
    (forged : AuditEntry T D) (hash : forged.hash = entry.hash) (back : forged.prevHash = entry.prevHash)
    (iso : texts.iso entry.timestamp = some isoText) (json : texts.json entry.details = some jsonText) :
    HashChain.verifyFrom (reader sha256 texts) "" (before ++ forged :: after) = some false ↔
      ∃ isoText' jsonText', texts.iso forged.timestamp = some isoText' ∧ texts.json forged.details = some jsonText' ∧
        isoText' ++ "|" ++ forged.operation ++ "|" ++ jsonText' ≠ isoText ++ "|" ++ entry.operation ++ "|" ++ jsonText := by
  obtain ⟨_,_,isoEq,jsonEq,bound⟩ := sealed_texts sha256 texts verified
  rw [iso] at isoEq; cases isoEq
  rw [json] at jsonEq; cases jsonEq
  cases read : (reader sha256 texts).payload forged with
  | none =>
    rw [HashChain.replaced_unreadable _ verified read]
    constructor
    · intro impossible; cases impossible
    · intro ⟨_,_,iso',json',_⟩
      rw [reader_payload sha256 texts iso' json'] at read
      cases read
  | some payload =>
    have parts : ∃ isoText' jsonText', texts.iso forged.timestamp = some isoText' ∧
        texts.json forged.details = some jsonText' ∧ payload = (isoText',forged.operation,jsonText') := by
      cases iso' : texts.iso forged.timestamp with
      | none => simp [reader,iso'] at read
      | some isoText' =>
        cases json' : texts.json forged.details with
        | none => simp [reader,iso',json'] at read
        | some jsonText' =>
          rw [reader_payload sha256 texts iso' json'] at read
          cases read
          exact ⟨isoText',jsonText',rfl,rfl,rfl⟩
    obtain ⟨isoText',jsonText',iso',json',rfl⟩ := parts
    by_cases same : isoText' ++ "|" ++ forged.operation ++ "|" ++ jsonText' = isoText ++ "|" ++ entry.operation ++ "|" ++ jsonText
    · have digest : (reader sha256 texts).hash forged =
          (reader sha256 texts).digest ((reader sha256 texts).previous entry) (isoText',forged.operation,jsonText') := by
        have texts' : canonical entry.prevHash isoText' forged.operation jsonText' =
            canonical entry.prevHash isoText entry.operation jsonText := by
          unfold canonical
          simpa [String.append_assoc] using same
        show forged.hash = sha256 (canonical entry.prevHash isoText' forged.operation jsonText')
        rw [texts',hash,bound]
      rw [HashChain.replaced_accepted _ verified read digest back hash]
      constructor
      · intro impossible; cases impossible
      · intro ⟨_,_,iso'',json'',different⟩
        rw [iso'] at iso''; cases iso''
        rw [json'] at json''; cases json''
        exact absurd same different
    · have broken : (reader sha256 texts).hash forged ≠
          (reader sha256 texts).digest ((reader sha256 texts).previous entry) (isoText',forged.operation,jsonText') := by
        show forged.hash ≠ sha256 (canonical entry.prevHash isoText' forged.operation jsonText')
        rw [hash,bound]
        intro collision
        exact same (canonical_injective (injective collision)).symm
      rw [HashChain.replaced_refused _ verified read (.inl broken)]
      exact ⟨fun _ => ⟨isoText',jsonText',iso',json',same⟩,fun _ => rfl⟩

theorem tampered_link (verified : HashChain.verifyFrom (reader sha256 texts) "" (before ++ entry :: after) = some true)
    (forged : AuditEntry T D) (timestamp : forged.timestamp = entry.timestamp) (operation : forged.operation = entry.operation)
    (details : forged.details = entry.details) (broken : forged.hash ≠ entry.hash ∨ forged.prevHash ≠ entry.prevHash) :
    HashChain.verifyFrom (reader sha256 texts) "" (before ++ forged :: after) = some false := by
  obtain ⟨isoText,jsonText,iso,json,bound⟩ := sealed_texts sha256 texts verified
  have read : (reader sha256 texts).payload forged = some (isoText,entry.operation,jsonText) := by
    rw [← operation]
    exact reader_payload sha256 texts (timestamp ▸ iso) (details ▸ json)
  apply HashChain.replaced_refused _ verified read
  apply broken.imp
  · intro different
    show forged.hash ≠ sha256 (canonical entry.prevHash isoText entry.operation jsonText)
    rw [← bound]
    exact different
  · exact id

theorem tampered_iff (injective : Function.Injective sha256)
    (verified : HashChain.verifyFrom (reader sha256 texts) "" (before ++ entry :: after) = some true)
    (tampering : Tampering T D) (changed : tampering.apply entry ≠ entry) :
    HashChain.verifyFrom (reader sha256 texts) "" (before ++ tampering.apply entry :: after) = some false ↔
      Detectable texts entry tampering := by
  obtain ⟨isoText,jsonText,iso,json,_⟩ := sealed_texts sha256 texts verified
  cases tampering with
  | id value =>
    rw [tampered_text sha256 texts injective verified (Tampering.apply (.id value) entry) rfl rfl iso json]
    simp [Tampering.apply,Detectable,iso,json]
  | agentUrn value =>
    rw [tampered_text sha256 texts injective verified (Tampering.apply (.agentUrn value) entry) rfl rfl iso json]
    simp [Tampering.apply,Detectable,iso,json]
  | timestamp value =>
    rw [tampered_text sha256 texts injective verified (Tampering.apply (.timestamp value) entry) rfl rfl iso json]
    simp only [Tampering.apply,Detectable,iso,json,Option.some.injEq,ne_eq]
    constructor
    · intro ⟨isoText',_,iso',rfl,different⟩
      exact ⟨isoText',iso',fun same => different (by rw [same])⟩
    · intro ⟨isoText',iso',different⟩
      refine ⟨isoText',jsonText,iso',rfl,?_⟩
      intro same
      apply different
      simpa [String.append_assoc] using same.symm
  | operation value =>
    rw [tampered_text sha256 texts injective verified (Tampering.apply (.operation value) entry) rfl rfl iso json]
    simp only [Tampering.apply,Detectable,iff_true]
    refine ⟨isoText,jsonText,iso,json,?_⟩
    intro same
    apply changed
    have operation : value = entry.operation := by simpa [String.append_assoc] using same
    rw [operation]
    rfl
  | details value =>
    rw [tampered_text sha256 texts injective verified (Tampering.apply (.details value) entry) rfl rfl iso json]
    simp only [Tampering.apply,Detectable,iso,json,Option.some.injEq,ne_eq]
    constructor
    · intro ⟨_,jsonText',rfl,json',different⟩
      exact ⟨jsonText',json',fun same => different (by rw [same])⟩
    · intro ⟨jsonText',json',different⟩
      refine ⟨isoText,jsonText',rfl,json',?_⟩
      intro same
      apply different
      simpa [String.append_assoc] using same.symm
  | prevHash value =>
    simp only [Detectable,iff_true]
    apply tampered_link sha256 texts verified (Tampering.apply (.prevHash value) entry) rfl rfl rfl
    exact .inr (fun same => changed (by cases entry; cases same; rfl))
  | hash value =>
    simp only [Detectable,iff_true]
    apply tampered_link sha256 texts verified (Tampering.apply (.hash value) entry) rfl rfl rfl
    exact .inl (fun same => changed (by cases entry; cases same; rfl))
end Tamper

theorem lastHash_tip (texts : Texts T D) (log : List (AuditEntry T D)) :
    lastHash log = HashChain.tip (reader sha256 texts) "" log := by
  rcases List.eq_nil_or_concat log with rfl | ⟨before,entry,rfl⟩
  · rfl
  · simp [lastHash,HashChain.tip,reader]

-- Sealing one more entry onto the last hash keeps a chain linked.
theorem linked_sealed (texts : Texts T D) (log : List (AuditEntry T D)) (entry : AuditEntry T D)
    (linked : HashChain.Linked (reader sha256 texts) "" log)
    (iso : texts.iso entry.timestamp = some isoText) (json : texts.json entry.details = some jsonText)
    (back : entry.prevHash = lastHash log)
    (hash : entry.hash = sha256 (canonical (lastHash log) isoText entry.operation jsonText)) :
    HashChain.Linked (reader sha256 texts) "" (log ++ [entry]) := by
  rw [HashChain.linked_append,← lastHash_tip]
  exact ⟨linked,⟨_,reader_payload sha256 texts iso json,hash⟩,back,trivial⟩

-- The logs that appends can produce; a raising append changes nothing.
inductive InMemory.Appended : List Entry → Prop where
  | empty : InMemory.Appended []
  | append (log next : List Entry) (entry : Entry) (earlier : InMemory.Appended log)
      (accepted : InMemory.append sha256 log entry = some next) : InMemory.Appended next

theorem inMemory_append_linked (log next : List Entry) (entry : Entry)
    (linked : HashChain.Linked (reader sha256 entryTexts) "" log)
    (accepted : InMemory.append sha256 log entry = some next) :
    HashChain.Linked (reader sha256 entryTexts) "" next := by
  unfold InMemory.append computeEntryHash at accepted
  cases written : dumps spaced (detailsValue entry.details) with
  | none => simp [written] at accepted
  | some json =>
    rw [written] at accepted; cases accepted
    apply linked_sealed sha256 entryTexts log _ linked
    · rfl
    · exact written
    · rfl
    · rfl

theorem inMemory_appended_verified (log : List Entry) (produced : InMemory.Appended sha256 log) :
    InMemory.verifyChain sha256 log = some true := by
  have linked : HashChain.Linked (reader sha256 entryTexts) "" log := by
    induction produced with
    | empty => trivial
    | append log next entry _ accepted ih => exact inMemory_append_linked sha256 log next entry ih accepted
  unfold InMemory.verifyChain
  rw [inMemory_verifyLoop_eq]
  exact (HashChain.verifyFrom_true _ _ _).mpr linked

-- A table keeps verifying when the columns of the new row read back as what was hashed.
theorem sqlite_append_verified (table next : List Row) (entry : Entry)
    (verified : Sqlite.verifyChain sha256 decoder table = some true)
    (accepted : Sqlite.append sha256 table entry = some next)
    (iso : (rowTexts decoder).iso entry.timestamp.isoformat = some entry.timestamp.isoformat)
    (json : ∀ text, dumps spaced (detailsValue entry.details) = some text → (rowTexts decoder).json text = some text) :
    Sqlite.verifyChain sha256 decoder next = some true := by
  unfold Sqlite.verifyChain at verified ⊢
  rw [sqlite_verifyLoop_eq,HashChain.verifyFrom_true] at verified ⊢
  unfold Sqlite.append computeEntryHash at accepted
  cases written : dumps spaced (detailsValue entry.details) with
  | none => simp [written] at accepted
  | some text =>
    rw [written] at accepted
    simp only [Option.map_some] at accepted
    split at accepted
    · cases accepted
    · cases accepted
      exact linked_sealed sha256 (rowTexts decoder) table _ verified iso (json text written) rfl rfl

-- In every log that appends produced, and in every table that verifies, replacing
-- one field of one entry is found out exactly when it is detectable.
theorem tampering_found_iff (injective : Function.Injective sha256) :
    (∀ (before after : List Entry) (entry : Entry) (tampering : Tampering DateTime (Dict String Value)),
      InMemory.Appended sha256 (before ++ entry :: after) → tampering.apply entry ≠ entry →
        InMemory.verifyChain sha256 (before ++ entry :: after) = some true ∧
          (InMemory.verifyChain sha256 (before ++ tampering.apply entry :: after) = some false ↔
            Detectable entryTexts entry tampering)) ∧
    (∀ (decoder : Decoder) (before after : List Row) (row : Row) (tampering : Tampering String String),
      Sqlite.verifyChain sha256 decoder (before ++ row :: after) = some true → tampering.apply row ≠ row →
        (Sqlite.verifyChain sha256 decoder (before ++ tampering.apply row :: after) = some false ↔
          Detectable (rowTexts decoder) row tampering)) := by
  constructor
  · intro before after entry tampering produced changed
    have verified := inMemory_appended_verified sha256 _ produced
    refine ⟨verified,?_⟩
    unfold InMemory.verifyChain at verified ⊢
    rw [inMemory_verifyLoop_eq] at verified ⊢
    exact tampered_iff sha256 entryTexts injective verified tampering changed
  · intro decoder before after row tampering verified changed
    unfold Sqlite.verifyChain at verified ⊢
    rw [sqlite_verifyLoop_eq] at verified ⊢
    exact tampered_iff sha256 (rowTexts decoder) injective verified tampering changed

-- SHA-256 on the two texts hashed below; elsewhere a marked copy of the text.
def sampleRequest : String := "|2026-01-02T03:04:05+00:00|task.request|\x7b\"n\": 1\x7d"
def sampleCancel : String := "|2026-01-02T03:04:05+00:00|task.cancel|\x7b\"n\": 1\x7d"
def sampleRequestHash : String := "e573c9300d4276c0a028bec71049134caa2500eadefd810b94d813998bfdbd6e"
def sampleCancelHash : String := "1bc6cb076addd13b0ffd07a40d5b3e063a5e43a83a1f3f05c213d29ad647943c"

def sampleDigest (text : String) : String :=
  if text = sampleRequest then sampleRequestHash
  else if text = sampleCancel then sampleCancelHash
  else "?" ++ text

def samplePreimage (digest : String) : String :=
  if digest = sampleRequestHash then sampleRequest
  else if digest = sampleCancelHash then sampleCancel
  else String.ofList (digest.toList.drop 1)

theorem sampleDigest_injective : Function.Injective sampleDigest := by
  have marked (digest text : String) (head : digest.toList.head? ≠ some '?') : "?" ++ text ≠ digest := by
    intro same
    apply head
    rw [← same]
    simp
  apply Function.LeftInverse.injective (g := samplePreimage)
  intro text
  unfold sampleDigest
  split
  · rename_i request; rw [request]; decide
  · split
    · rename_i cancel; rw [cancel]; decide
    · unfold samplePreimage
      rw [if_neg (marked _ text (by decide)),if_neg (marked _ text (by decide))]
      simp

def sampleTime : DateTime where
  year := 2026
  month := 1
  day := 2
  hour := 3
  minute := 4
  second := 5
  microsecond := 0
  utcoffset := some 0
  date := by decide
  time := by decide
  offset := by decide

def sampleEntry : Entry where
  id := "01JG"
  timestamp := sampleTime
  operation := "task.request"
  agentUrn := "urn:asap:agent:alice"
  details := ⟨[("n",.int 1)],by decide⟩

def sampleSealed : Entry := {sampleEntry with hash := sampleRequestHash}

def sampleRow : Row where
  id := "01JG"
  timestamp := "2026-01-02T03:04:05+00:00"
  operation := "task.request"
  agentUrn := "urn:asap:agent:alice"
  details := "\x7b\"n\": 1\x7d"
  hash := sampleRequestHash

def sampleDecoder : Decoder where
  fromisoformat text := if text = sampleRow.timestamp then some sampleTime else none
  loads text := if text = sampleRow.details then some (.dict [(.str "n",.int 1)]) else none

theorem sample_appended : InMemory.Appended sampleDigest [sampleSealed] := by
  apply InMemory.Appended.append [] _ sampleEntry .empty
  have written : dumps spaced (detailsValue sampleEntry.details) = some sampleRow.details := by decide +kernel
  have hashed : sampleDigest (canonical "" sampleEntry.timestamp.isoformat sampleEntry.operation sampleRow.details) =
      sampleRequestHash := by decide +kernel
  unfold InMemory.append computeEntryHash
  rw [written]
  simp only [Option.map_some,lastHash,List.getLast?_nil,hashed,List.nil_append]
  rfl

theorem sample_row_verified : Sqlite.verifyChain sampleDigest sampleDecoder [sampleRow] = some true := by
  decide +kernel

theorem tampering_found_sample :
    InMemory.verifyChain sampleDigest [{sampleSealed with operation := "task.cancel"}] = some false ∧
      Sqlite.verifyChain sampleDigest sampleDecoder [{sampleRow with operation := "task.cancel"}] = some false := by
  have found := tampering_found_iff sampleDigest sampleDigest_injective
  have entryChanged : (Tampering.operation "task.cancel").apply sampleSealed ≠ sampleSealed :=
    fun same => absurd (congrArg AuditEntry.operation same) (by decide)
  have rowChanged : (Tampering.operation "task.cancel").apply sampleRow ≠ sampleRow :=
    fun same => absurd (congrArg AuditEntry.operation same) (by decide)
  exact ⟨(found.1 [] [] sampleSealed (.operation "task.cancel") sample_appended entryChanged).2.mpr trivial,
    (found.2 sampleDecoder [] [] sampleRow (.operation "task.cancel") sample_row_verified rowChanged).mpr trivial⟩

-- Another agent's URN on a sealed entry leaves both chains valid.
theorem replaced_agent_unnoticed :
    Function.Injective sampleDigest ∧ InMemory.Appended sampleDigest [sampleSealed] ∧
      InMemory.verifyChain sampleDigest [sampleSealed] = some true ∧
      "urn:asap:agent:mallory" ≠ sampleSealed.agentUrn ∧
      InMemory.verifyChain sampleDigest [{sampleSealed with agentUrn := "urn:asap:agent:mallory"}] = some true ∧
      Sqlite.append sampleDigest [] sampleEntry = some [sampleRow] ∧
      Sqlite.verifyChain sampleDigest sampleDecoder [sampleRow] = some true ∧
      Sqlite.verifyChain sampleDigest sampleDecoder [{sampleRow with agentUrn := "urn:asap:agent:mallory"}] = some true := by
  refine ⟨sampleDigest_injective,sample_appended,?_,?_,?_,?_,sample_row_verified,?_⟩
  · decide +kernel
  · decide
  · decide +kernel
  · decide +kernel
  · decide +kernel

end Asap.AuditLog
