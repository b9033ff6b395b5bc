import Asap.AuditLog
import Asap.Interleaving
import Asap.Isoformat
import Asap.JsonStability

-- Tables that `SQLiteAuditStore.append` filled, and what `verify_chain` makes of them.
namespace Asap.AuditLog
open OrderedDict PythonValue Interleaving

variable (sha256 : String → String) (floats : Floats)

def standardLibrary : Decoder := ⟨fromisoformat,loads floats⟩

-- The row an append writes above the hash it read; `none` where `json.dumps` raises.
def sealRow (entry : Entry) (prevHash : String) : Option Row :=
  match computeEntryHash sha256 prevHash entry.timestamp entry.operation (detailsValue entry.details),
      dumps spaced (detailsValue entry.details) with
  | some computed,some json => some {
      id := entry.id
      timestamp := entry.timestamp.isoformat
      operation := entry.operation
      agentUrn := entry.agentUrn
      details := json
      prevHash := prevHash
      hash := computed}
  | _,_ => none

theorem append_sealRow (table : List Row) (entry : Entry) : Sqlite.append sha256 table entry =
    (sealRow sha256 entry (lastHash table)).bind (fun row =>
      if entry.id ∈ table.map AuditEntry.id then none else some (table ++ [row])) := by
  unfold Sqlite.append sealRow
  cases computeEntryHash sha256 (lastHash table) entry.timestamp entry.operation (detailsValue entry.details) with
  | none => rfl
  | some computed => cases dumps spaced (detailsValue entry.details) <;> rfl

theorem sealRow_fields {entry : Entry} {prevHash : String} {row : Row} (sealing : sealRow sha256 entry prevHash = some row) :
    dumps spaced (detailsValue entry.details) = some row.details ∧ row.timestamp = entry.timestamp.isoformat ∧
      row.prevHash = prevHash ∧ row.hash = sha256 (canonical prevHash row.timestamp row.operation row.details) := by
  unfold sealRow computeEntryHash at sealing
  cases written : dumps spaced (detailsValue entry.details) with
  | none => simp [written] at sealing
  | some json =>
    simp only [written,Option.map_some,Option.some.injEq] at sealing
    rw [← sealing]
    exact ⟨rfl,rfl,rfl,rfl⟩

-- A chain goes on over a new row exactly when the row was sealed onto the last hash and its
-- details come back from the table as the text that was hashed.
section Sealed
variable {table : List Row} {entry : Entry} {row : Row} {prevHash : String}

theorem row_reread (sealing : sealRow sha256 entry prevHash = some row) (genuine : Genuine floats (detailsValue entry.details)) :
    ∃ again, (reader sha256 (rowTexts (standardLibrary floats))).payload row = some (row.timestamp,row.operation,again) ∧
      (again = row.details ↔ orderly (detailsValue entry.details) = true) := by
  obtain ⟨written,timestamp,_,_⟩ := sealRow_fields sha256 sealing
  obtain ⟨again,reread,same⟩ := reread_same_iff floats genuine written
  refine ⟨again,?_,same⟩
  have iso : (rowTexts (standardLibrary floats)).iso row.timestamp = some row.timestamp := by
    rw [timestamp]
    simp [rowTexts,standardLibrary,fromisoformat_isoformat]
  exact reader_payload sha256 _ iso reread

theorem sealed_linked (linked : HashChain.Linked (reader sha256 (rowTexts (standardLibrary floats))) "" table)
    (sealing : sealRow sha256 entry prevHash = some row) (genuine : Genuine floats (detailsValue entry.details))
    (fresh : prevHash = lastHash table) (stable : orderly (detailsValue entry.details) = true) :
    HashChain.Linked (reader sha256 (rowTexts (standardLibrary floats))) "" (table ++ [row]) := by
  obtain ⟨again,payload,same⟩ := row_reread sha256 floats sealing genuine
  obtain ⟨_,_,back,hash⟩ := sealRow_fields sha256 sealing
  rw [HashChain.linked_append,← lastHash_tip]
  refine ⟨linked,⟨_,payload,?_⟩,back.trans fresh,trivial⟩
  show row.hash = sha256 (canonical (lastHash table) row.timestamp row.operation again)
  rw [hash,same.mpr stable,fresh]

theorem linked_only_sealed (injective : Function.Injective sha256)
    (linked : HashChain.Linked (reader sha256 (rowTexts (standardLibrary floats))) "" (table ++ [row]))
    (sealing : sealRow sha256 entry prevHash = some row) (genuine : Genuine floats (detailsValue entry.details)) :
    prevHash = lastHash table ∧ orderly (detailsValue entry.details) = true := by
  obtain ⟨again,payload,same⟩ := row_reread sha256 floats sealing genuine
  obtain ⟨_,_,back,hash⟩ := sealRow_fields sha256 sealing
  rw [HashChain.linked_append,← lastHash_tip] at linked
  obtain ⟨_,⟨read,bound,digest⟩,previous,_⟩ := linked
  rw [payload] at bound
  cases bound
  have fresh : prevHash = lastHash table := back.symm.trans previous
  refine ⟨fresh,same.mp ?_⟩
  have hashes : sha256 (canonical prevHash row.timestamp row.operation row.details) =
      sha256 (canonical (lastHash table) row.timestamp row.operation again) := hash.symm.trans digest
  rw [fresh] at hashes
  have texts := canonical_injective (injective hashes)
  simpa [String.append_assoc] using texts.symm

theorem sealed_linked_iff (injective : Function.Injective sha256)
    (linked : HashChain.Linked (reader sha256 (rowTexts (standardLibrary floats))) "" table)
    (sealing : sealRow sha256 entry prevHash = some row) (genuine : Genuine floats (detailsValue entry.details)) :
    HashChain.Linked (reader sha256 (rowTexts (standardLibrary floats))) "" (table ++ [row]) ↔
      prevHash = lastHash table ∧ orderly (detailsValue entry.details) = true :=
  ⟨fun whole => linked_only_sealed sha256 floats injective whole sealing genuine,
    fun ⟨fresh,stable⟩ => sealed_linked sha256 floats linked sealing genuine fresh stable⟩
end Sealed

theorem verifyChain_linked (table : List Row) : Sqlite.verifyChain sha256 (standardLibrary floats) table = some true ↔
    HashChain.Linked (reader sha256 (rowTexts (standardLibrary floats))) "" table := by
  unfold Sqlite.verifyChain
  rw [sqlite_verifyLoop_eq,HashChain.verifyFrom_true]

-- One instance's calls in turn: the entries accepted and the table they leave. A call that
-- raises stores nothing.
def Sqlite.appendAll (table : List Row) : List Entry → List Entry × List Row
  | [] => ([],table)
  | entry :: rest =>
    match Sqlite.append sha256 table entry with
    | none => Sqlite.appendAll table rest
    | some next => (entry :: (Sqlite.appendAll next rest).1,(Sqlite.appendAll next rest).2)

theorem appendAll_extends (table : List Row) (calls : List Entry) : table <+: (Sqlite.appendAll sha256 table calls).2 := by
  induction calls generalizing table with
  | nil => exact List.prefix_refl table
  | cons entry rest ih =>
    unfold Sqlite.appendAll
    split
    · exact ih table
    · rename_i next accepted
      rw [append_sealRow] at accepted
      obtain ⟨row,_,unused⟩ := Option.bind_eq_some_iff.mp accepted
      split at unused
      · cases unused
      · cases unused
        exact (List.prefix_append table [row]).trans (ih _)

theorem linked_earlier {before after : List Row} (longer : before <+: after)
    (linked : HashChain.Linked (reader sha256 (rowTexts (standardLibrary floats))) "" after) :
    HashChain.Linked (reader sha256 (rowTexts (standardLibrary floats))) "" before := by
  obtain ⟨more,rfl⟩ := longer
  exact ((HashChain.linked_append _ _ _ _).mp linked).1

theorem appendAll_linked_iff (injective : Function.Injective sha256) (table : List Row) (calls : List Entry)
    (linked : HashChain.Linked (reader sha256 (rowTexts (standardLibrary floats))) "" table)
    (genuine : ∀ entry ∈ calls, Genuine floats (detailsValue entry.details)) :
    HashChain.Linked (reader sha256 (rowTexts (standardLibrary floats))) "" (Sqlite.appendAll sha256 table calls).2 ↔
      ∀ entry ∈ (Sqlite.appendAll sha256 table calls).1, orderly (detailsValue entry.details) = true := by
  induction calls generalizing table with
  | nil => simp [Sqlite.appendAll,linked]
  | cons entry rest ih =>
    have later := fun table linked => ih table linked (fun other member => genuine other (List.mem_cons_of_mem _ member))
    unfold Sqlite.appendAll
    split
    · exact later table linked
    · rename_i next accepted
      rw [append_sealRow] at accepted
      obtain ⟨row,sealing,unused⟩ := Option.bind_eq_some_iff.mp accepted
      split at unused
      · cases unused
      · cases unused
        have step := sealed_linked_iff sha256 floats injective linked sealing (genuine entry (by simp))
        simp only [true_and] at step
        rw [List.forall_mem_cons]
        by_cases stable : orderly (detailsValue entry.details) = true
        · rw [later _ (step.mpr stable)]
          simp [stable]
        · constructor
          · intro whole
            exact absurd (step.mp (linked_earlier sha256 floats (appendAll_extends sha256 _ rest) whole)) stable
          · exact fun all => absurd all.1 stable

-- After any calls on a table that verifies, it verifies exactly when the details of every
-- accepted entry are orderly.
theorem no_false_alarm_iff (injective : Function.Injective sha256) (table : List Row) (calls : List Entry)
    (verified : Sqlite.verifyChain sha256 (standardLibrary floats) table = some true)
    (genuine : ∀ entry ∈ calls, Genuine floats (detailsValue entry.details)) :
    Sqlite.verifyChain sha256 (standardLibrary floats) (Sqlite.appendAll sha256 table calls).2 = some true ↔
      ∀ entry ∈ (Sqlite.appendAll sha256 table calls).1, orderly (detailsValue entry.details) = true := by
  rw [verifyChain_linked] at verified ⊢
  exact appendAll_linked_iff sha256 floats injective table calls verified genuine

-- The repr of one half; no other float occurs in the samples.
def sampleFloats : Floats where
  float text := if text = "0.5" then .float (1 / 2) "0.5" else .nonFinite "NaN"
  repr value text := value = 1 / 2 ∧ text = "0.5"
  reads value text written := by simp [written.1,written.2]
  shaped value text written := by
    refine ⟨⟨[],['0'],['.','5'],[]⟩,⟨.inl rfl,.inl rfl,.inr ⟨['5'],rfl,by simp,?_⟩,.inl rfl⟩,by simp [NumberText.chars,written.2],by simp⟩
    intro c member
    rw [List.mem_singleton.mp member]
    rfl

def ratedEntry : Entry := {sampleEntry with details := ⟨[("rate",.float (1 / 2) "0.5"),("by_code",.dict [(.int 404,.int 2),(.int 200,.int 7)])],by decide⟩}
def sizedEntry : Entry := {sampleEntry with id := "01JH",details := ⟨[("by_size",.dict [(.int 9,.int 2),(.int 10,.int 7)])],by decide⟩}

-- Codes of one length ascend as numbers and as texts.
theorem no_false_alarm_rated : (Sqlite.appendAll sampleDigest [] [ratedEntry]).1.length = 1 ∧ Sqlite.verifyChain sampleDigest (standardLibrary sampleFloats)
    (Sqlite.appendAll sampleDigest [] [ratedEntry]).2 = some true := by
  refine ⟨by decide +kernel,(no_false_alarm_iff sampleDigest sampleFloats sampleDigest_injective [] [ratedEntry] rfl ?_).mpr ?_⟩
  · intro entry member
    rw [List.mem_singleton.mp member]
    exact ⟨⟨rfl,rfl⟩,⟨trivial,trivial,trivial⟩,trivial⟩
  · have all : (Sqlite.appendAll sampleDigest [] [ratedEntry]).1.all (fun entry => orderly (detailsValue entry.details)) = true := by
      decide +kernel
    exact List.all_eq_true.mp all

-- The keys 9 and 10 are written in this order and read back as texts, of which "10" is the
-- first: the store alarms on what it wrote itself.
theorem sized_entry_alarms : (Sqlite.appendAll sampleDigest [] [sizedEntry]).1.map AuditEntry.id = ["01JH"] ∧
    Sqlite.verifyChain sampleDigest (standardLibrary sampleFloats) (Sqlite.appendAll sampleDigest [] [sizedEntry]).2 = some false ∧
    (InMemory.append sampleDigest [] sizedEntry).bind (InMemory.verifyChain sampleDigest) = some true := by
  decide +kernel

end Asap.AuditLog
