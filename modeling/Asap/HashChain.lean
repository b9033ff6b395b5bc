import Mathlib.Data.List.Basic

namespace HashChain

-- How a verifier reads one entry of a hash-chained log. Reading the payload
-- can fail; the two stored hashes are there as they stand.
structure Reader (E : Type u) (H : Type v) (P : Type w) where
  payload : E → Option P
  previous : E → H
  hash : E → H
  digest : H → P → H

variable {E : Type u} {H : Type v} {P : Type w}

-- Each entry names its predecessor's hash and hashes its own payload onto it.
def Linked (reader : Reader E H P) : H → List E → Prop
  | _,[] => True
  | previous,entry :: rest =>
    (∃ payload, reader.payload entry = some payload ∧ reader.hash entry = reader.digest previous payload) ∧
      reader.previous entry = previous ∧ Linked reader (reader.hash entry) rest

def tip (reader : Reader E H P) (start : H) (entries : List E) : H :=
  entries.foldl (fun _ entry => reader.hash entry) start

theorem linked_append (reader : Reader E H P) (start : H) (before after : List E) :
    Linked reader start (before ++ after) ↔
      Linked reader start before ∧ Linked reader (tip reader start before) after := by
  induction before generalizing start with
  | nil => simp [Linked,tip]
  | cons entry rest ih =>
    have tail := ih (reader.hash entry)
    simp only [List.cons_append,Linked,tail,tip,List.foldl_cons]
    constructor
    · rintro ⟨bound,back,left,right⟩; exact ⟨⟨bound,back,left⟩,right⟩
    · rintro ⟨⟨bound,back,left⟩,right⟩; exact ⟨bound,back,left,right⟩

variable [DecidableEq H]

-- `none` when an entry cannot be read; otherwise the verdict of the first
-- entry that does not fit, or `true` at the end.
def verifyFrom (reader : Reader E H P) : H → List E → Option Bool
  | _,[] => some true
  | previous,entry :: rest =>
    match reader.payload entry with
    | none => none
    | some payload =>
      if reader.hash entry ≠ reader.digest previous payload ∨ reader.previous entry ≠ previous then some false
      else verifyFrom reader (reader.hash entry) rest

theorem verifyFrom_true (reader : Reader E H P) (start : H) (entries : List E) :
    verifyFrom reader start entries = some true ↔ Linked reader start entries := by
  induction entries generalizing start with
  | nil => simp [verifyFrom,Linked]
  | cons entry rest ih =>
    unfold verifyFrom Linked
    cases read : reader.payload entry with
    | none => simp
    | some payload =>
      by_cases bound : reader.hash entry = reader.digest start payload
      · by_cases back : reader.previous entry = start <;> simp [bound,back,← ih]
      · simp [bound]

theorem verifyFrom_append (reader : Reader E H P) (start : H) (before after : List E)
    (linked : Linked reader start before) :
    verifyFrom reader start (before ++ after) = verifyFrom reader (tip reader start before) after := by
  induction before generalizing start with
  | nil => rfl
  | cons entry rest ih =>
    obtain ⟨⟨payload,read,bound⟩,back,tail⟩ := linked
    simp only [List.cons_append,verifyFrom,read,bound,back,ne_eq,not_true_eq_false,or_self,if_false]
    rw [← bound]
    exact ih _ tail

-- Replacing one entry of a verified log. The entry is judged against the hash
-- its untouched predecessor still carries.
section Replace
variable (reader : Reader E H P) {start : H} {before after : List E} {entry forged : E}

theorem replaced_at_tip (verified : verifyFrom reader start (before ++ entry :: after) = some true) :
    verifyFrom reader start (before ++ forged :: after) =
      verifyFrom reader (reader.previous entry) (forged :: after) := by
  have linked := (linked_append reader start before (entry :: after)).mp ((verifyFrom_true reader _ _).mp verified)
  rw [verifyFrom_append reader start before _ linked.1,linked.2.2.1]

theorem replaced_unreadable (verified : verifyFrom reader start (before ++ entry :: after) = some true)
    (unread : reader.payload forged = none) :
    verifyFrom reader start (before ++ forged :: after) = none := by
  rw [replaced_at_tip reader verified]
  simp [verifyFrom,unread]

theorem replaced_refused (verified : verifyFrom reader start (before ++ entry :: after) = some true)
    (read : reader.payload forged = some payload)
    (broken : reader.hash forged ≠ reader.digest (reader.previous entry) payload ∨
      reader.previous forged ≠ reader.previous entry) :
    verifyFrom reader start (before ++ forged :: after) = some false := by
  rw [replaced_at_tip reader verified]
  simp [verifyFrom,read,broken]

theorem replaced_accepted (verified : verifyFrom reader start (before ++ entry :: after) = some true)
    (read : reader.payload forged = some payload)
    (bound : reader.hash forged = reader.digest (reader.previous entry) payload)
    (back : reader.previous forged = reader.previous entry) (same : reader.hash forged = reader.hash entry) :
    verifyFrom reader start (before ++ forged :: after) = some true := by
  have linked := (linked_append reader start before (entry :: after)).mp ((verifyFrom_true reader _ _).mp verified)
  rw [replaced_at_tip reader verified,verifyFrom_true]
  exact ⟨⟨payload,read,bound⟩,back,same ▸ linked.2.2.2⟩

theorem entry_sealed (verified : verifyFrom reader start (before ++ entry :: after) = some true) :
    ∃ payload, reader.payload entry = some payload ∧
      reader.hash entry = reader.digest (reader.previous entry) payload := by
  have linked := (linked_append reader start before (entry :: after)).mp ((verifyFrom_true reader _ _).mp verified)
  rw [linked.2.2.1]
  exact linked.2.1
end Replace
end HashChain
