import Asap.AuditChain

-- Several `SQLiteAuditStore` instances that append to one database file.
namespace Asap.AuditConcurrency
open OrderedDict PythonValue Interleaving AuditLog

-- The committed rows, the one open write transaction with the row it inserted, and the
-- instances whose `_lock` is held.
structure Database where
  table : List Row
  uncommitted : Option (Nat × Entry × Row) := none
  locked : List Nat := []

def Database.release (db : Database) (store : Nat) : Database := {db with locked := db.locked.erase store}

def Database.rollback (db : Database) (store : Nat) : Database :=
  {db with uncommitted := db.uncommitted.filter (fun pending => decide (pending.1 ≠ store))}

-- A call of `append` on an instance, by what it waits for: the lock, the SELECT, the INSERT,
-- the commit.
inductive Call where
  | locking (store : Nat) (entry : Entry)
  | selecting (store : Nat) (entry : Entry)
  | inserting (store : Nat) (entry : Entry) (row : Row)
  | committing (store : Nat)
  | finished (stored : Option Row)

def Call.stored : Call → Option Row
  | .finished stored => stored
  | _ => none

-- Whether the awaited statement succeeds; it raises after the busy timeout, on a full disk,
-- or when the caller is cancelled.
inductive Awaited where
  | succeeds
  | raises

-- A successful append, with the hash that was the last one when it was committed.
structure Stored where
  entry : Entry
  row : Row
  last : String

variable (sha256 : String → String)

abbrev Outcome := Database × Call × List Stored

def lock (db : Database) (store : Nat) (entry : Entry) : Option Outcome :=
  if store ∈ db.locked then none else some ({db with locked := store :: db.locked},.selecting store entry,[])

-- The SELECT stands in no transaction; the hash is computed before the next await.
def select (db : Database) (store : Nat) (entry : Entry) : Outcome :=
  match sealRow sha256 entry (lastHash db.table) with
  | none => (db.release store,.finished none,[])
  | some row => (db,.inserting store entry row,[])

-- The INSERT opens the transaction and waits for the write lock of the file.
def insert (db : Database) (store : Nat) (entry : Entry) (row : Row) : Option Outcome :=
  match db.uncommitted with
  | some _ => none
  | none =>
    if entry.id ∈ db.table.map AuditEntry.id then some (db.release store,.finished none,[])
    else some ({db with uncommitted := some (store,entry,row)},.committing store,[])

def commit (db : Database) (store : Nat) : Option Outcome :=
  match db.uncommitted with
  | none => none
  | some (owner,entry,row) =>
    if owner = store then
      some (({db with table := db.table ++ [row],uncommitted := none} : Database).release store,.finished (some row),
        [⟨entry,row,lastHash db.table⟩])
    else none

def advance (db : Database) : Call → Awaited → Option Outcome
  | .locking store entry,.succeeds => lock db store entry
  | .locking _ _,.raises => some (db,.finished none,[])
  | .selecting store entry,.succeeds => some (select sha256 db store entry)
  | .selecting store _,.raises => some (db.release store,.finished none,[])
  | .inserting store entry row,.succeeds => insert db store entry row
  | .inserting store _ _,.raises => some (db.release store,.finished none,[])
  | .committing store,.succeeds => commit db store
  | .committing store,.raises => some ((db.rollback store).release store,.finished none,[])
  | .finished _,_ => none

def arrives : Call → Bool
  | .locking _ _ => true
  | _ => false

def program : Program Database Call Awaited Stored := ⟨arrives,advance sha256⟩

abbrev State := Machine Database Call Stored
abbrev Step := Move Call Awaited

variable (floats : Floats)

-- What a call carries: entries of Python values, and a row sealed onto some hash.
def Carries : Call → Prop
  | .locking _ entry | .selecting _ entry => Genuine floats (detailsValue entry.details)
  | .inserting _ entry row => Genuine floats (detailsValue entry.details) ∧ sealRow sha256 entry row.prevHash = some row
  | .committing _ | .finished _ => True

-- What an advance can do: nothing to the rows and the transaction, insert, commit, or roll back.
inductive Effect (db : Database) : Call → Awaited → Outcome → Prop where
  | quiet (call next : Call) (awaited : Awaited) (after : Database) (table : after.table = db.table) (pending : after.uncommitted = db.uncommitted)
      (running : call.stored = none ∧ next.stored = none) (carried : Carries sha256 floats call → Carries sha256 floats next) :
      Effect db call awaited (after,next,[])
  | inserted (store : Nat) (entry : Entry) (row : Row) (free : db.uncommitted = none) :
      Effect db (.inserting store entry row) .succeeds ({db with uncommitted := some (store,entry,row)},.committing store,[])
  | committed (store : Nat) (entry : Entry) (row : Row) (after : Database) (own : db.uncommitted = some (store,entry,row))
      (table : after.table = db.table ++ [row]) (closed : after.uncommitted = none) :
      Effect db (.committing store) .succeeds (after,.finished (some row),[⟨entry,row,lastHash db.table⟩])
  | rolledBack (store : Nat) (after : Database) (table : after.table = db.table)
      (left : after.uncommitted = none ∨ after.uncommitted = db.uncommitted) :
      Effect db (.committing store) .raises (after,.finished none,[])

theorem advance_effect {db : Database} {call : Call} {awaited : Awaited} {outcome : Outcome}
    (advanced : advance sha256 db call awaited = some outcome) : Effect sha256 floats db call awaited outcome := by
  have ends : ∀ store, call.stored = none → Effect sha256 floats db call awaited (db.release store,.finished none,[]) :=
    fun store running => .quiet call (.finished none) awaited (db.release store) rfl rfl ⟨running,rfl⟩ (fun _ => trivial)
  cases call with
  | locking store entry =>
    cases awaited with
    | succeeds =>
      simp only [advance,lock] at advanced
      split at advanced
      · cases advanced
      · cases advanced
        exact .quiet _ _ _ _ rfl rfl ⟨rfl,rfl⟩ id
    | raises =>
      cases advanced
      exact .quiet _ _ _ _ rfl rfl ⟨rfl,rfl⟩ (fun _ => trivial)
  | selecting store entry =>
    cases awaited with
    | succeeds =>
      simp only [advance,select,Option.some.injEq] at advanced
      split at advanced
      · cases advanced
        exact ends store rfl
      · rename_i row sealing
        cases advanced
        refine .quiet _ _ _ _ rfl rfl ⟨rfl,rfl⟩ ?_
        intro genuine
        exact ⟨genuine,(sealRow_fields sha256 sealing).2.2.1 ▸ sealing⟩
    | raises =>
      cases advanced
      exact ends store rfl
  | inserting store entry row =>
    cases awaited with
    | succeeds =>
      simp only [advance,insert] at advanced
      split at advanced
      · cases advanced
      · rename_i free
        split at advanced
        · cases advanced
          exact ends store rfl
        · cases advanced
          exact .inserted store entry row free
    | raises =>
      cases advanced
      exact ends store rfl
  | committing store =>
    cases awaited with
    | succeeds =>
      simp only [advance,commit] at advanced
      split at advanced
      · cases advanced
      · rename_i owner entry row pending
        split at advanced
        · rename_i own
          cases advanced
          exact .committed store entry row _ (own ▸ pending) rfl rfl
        · cases advanced
    | raises =>
      cases advanced
      refine .rolledBack store _ rfl ?_
      cases pending : db.uncommitted with
      | none => exact .inl (by simp [Database.release,Database.rollback,pending])
      | some transaction =>
        by_cases own : transaction.1 = store
        · exact .inl (by simp [Database.release,Database.rollback,pending,own])
        · exact .inr (by simp [Database.release,Database.rollback,pending,own])
  | finished stored => cases awaited <;> cases advanced

abbrev Chained (table : List Row) : Prop := HashChain.Linked (reader sha256 (rowTexts (standardLibrary floats))) "" table

def Stored.Fresh (stored : Stored) : Prop :=
  stored.row.prevHash = stored.last ∧ orderly (detailsValue stored.entry.details) = true

-- The rows are those the file started with and one for each success, and they are chained
-- exactly when each was sealed onto the hash before it.
structure Sound (start : List Row) (db : Database) (log : List Stored) : Prop where
  rows : db.table = start ++ log.map Stored.row
  pending : ∀ store entry row, db.uncommitted = some (store,entry,row) →
    Genuine floats (detailsValue entry.details) ∧ sealRow sha256 entry row.prevHash = some row
  chained : (∀ stored ∈ log, stored.Fresh) → Chained sha256 floats db.table
  only : Function.Injective sha256 → Chained sha256 floats db.table → ∀ stored ∈ log, stored.Fresh

variable {sha256 floats}

theorem Sound.same {start : List Row} {db after : Database} {log : List Stored} (sound : Sound sha256 floats start db log)
    (table : after.table = db.table) (left : after.uncommitted = none ∨ after.uncommitted = db.uncommitted) :
    Sound sha256 floats start after log := by
  refine ⟨table.trans sound.rows,?_,?_,?_⟩
  · intro store entry row found
    rcases left with gone | same
    · rw [gone] at found
      cases found
    · exact sound.pending store entry row (same ▸ found)
  · rw [table]
    exact sound.chained
  · rw [table]
    exact sound.only

-- One step of any call, in any state.
theorem effect_sound {start : List Row} {db : Database} {log : List Stored} {call : Call} {awaited : Awaited}
    {outcome : Outcome} (effect : Effect sha256 floats db call awaited outcome) (sound : Sound sha256 floats start db log) (carries : Carries sha256 floats call) :
    Sound sha256 floats start outcome.1 (log ++ outcome.2.2) ∧ Carries sha256 floats outcome.2.1 := by
  cases effect with
  | quiet call next _ after table pending _ carried =>
    rw [List.append_nil]
    exact ⟨sound.same table (.inr pending),carried carries⟩
  | inserted store entry row _ =>
    rw [List.append_nil]
    refine ⟨⟨sound.rows,?_,sound.chained,sound.only⟩,trivial⟩
    intro owner other written found
    cases found
    exact carries
  | committed store entry row after own table closed =>
    obtain ⟨genuine,sealing⟩ := sound.pending store entry row own
    refine ⟨⟨?_,?_,?_,?_⟩,trivial⟩
    · rw [table,sound.rows]
      simp
    · intro owner other written found
      rw [closed] at found
      cases found
    · intro all
      rw [List.forall_mem_append,List.forall_mem_singleton] at all
      rw [table]
      exact sealed_linked sha256 floats (sound.chained all.1) sealing genuine all.2.1 all.2.2
    · intro injective whole
      rw [table] at whole
      rw [List.forall_mem_append,List.forall_mem_singleton]
      exact ⟨sound.only injective ((HashChain.linked_append _ _ _ _).mp whole).1,
        linked_only_sealed sha256 floats injective whole sealing genuine⟩
  | rolledBack store after table left =>
    rw [List.append_nil]
    exact ⟨sound.same table left,trivial⟩

-- Entries hold Python values, as far as the model can say it.
def Pythonic (floats : Floats) : Step → Prop
  | .arrive _ (.locking _ entry) => Genuine floats (detailsValue entry.details)
  | _ => True

-- A row is committed while the hash it was sealed onto is still the last one, and its
-- details are orderly.
def Undisturbed (m : State) : Step → Prop
  | .proceed id .succeeds => ∀ store entry row, m.tasks.get id = some (.committing store) →
    m.store.uncommitted = some (store,entry,row) → row.prevHash = lastHash m.store.table ∧ orderly (detailsValue entry.details) = true
  | _ => True

theorem effect_fresh {db : Database} {call : Call} {awaited : Awaited} {outcome : Outcome}
    (effect : Effect sha256 floats db call awaited outcome)
    (fresh : ∀ store entry row, awaited = .succeeds → call = .committing store → db.uncommitted = some (store,entry,row) →
      row.prevHash = lastHash db.table ∧ orderly (detailsValue entry.details) = true) :
    ∀ stored ∈ outcome.2.2, stored.Fresh := by
  cases effect with
  | quiet call next _ after table pending _ carried => simp
  | inserted store entry row _ => simp
  | committed store entry row after own table closed =>
    exact List.forall_mem_singleton.mpr (fresh store entry row rfl rfl own)
  | rolledBack store after table left => simp

theorem effect_reported {db : Database} {call : Call} {awaited : Awaited} {outcome : Outcome}
    (effect : Effect sha256 floats db call awaited outcome) :
    call.stored = none ∧ outcome.2.1.stored.toList = outcome.2.2.map Stored.row := by
  cases effect with
  | quiet call next _ after table pending running carried => exact ⟨running.1,by simp [running.2]⟩
  | inserted store entry row _ => exact ⟨rfl,rfl⟩
  | committed store entry row after own table closed => exact ⟨rfl,rfl⟩
  | rolledBack store after table left => exact ⟨rfl,rfl⟩

-- The successes of a run, by its calls and by its log.
def successes (m : State) : List Row := m.tasks.values.filterMap Call.stored

theorem run_logged (floats : Floats) (start : Database) (moves : List Step) (final : State)
    (run : Runs (program sha256).next allowed (Machine.init start) moves final) :
    (successes final).Perm (final.log.map Stored.row) := by
  refine (program sha256).results_logged Call.stored Stored.row allowed ?_ ?_ _ final moves run (List.Perm.refl _)
  · intro task arrives
    cases task <;> first | rfl | cases arrives
  · intro s task input store task' events advanced
    exact effect_reported (advance_effect sha256 floats advanced)

theorem run_sound (start : List Row) (verified : Chained sha256 floats start) (moves : List Step) (final : State)
    (run : Runs (program sha256).next (fun _ move => Pythonic floats move) (Machine.init ⟨start,none,[]⟩) moves final) :
    Sound sha256 floats start final.store final.log := by
  refine ((program sha256).interleaved_where _ (Sound sha256 floats start) (fun _ => Carries sha256 floats) ?_ ?_ _ final moves run
    ⟨⟨by simp [Machine.init],by simp [Machine.init],fun _ => verified,by simp [Machine.init]⟩,by simp [Machine.init]⟩).1
  · intro m id task pythonic arrives
    cases task with
    | locking store entry => exact pythonic
    | _ => cases arrives
  · intro m id input task store task' events holds _ known advanced
    obtain ⟨sound,carries⟩ := effect_sound (advance_effect sha256 floats advanced) holds.1 (holds.2 id task known)
    exact ⟨sound,carries,fun other waiting _ found => holds.2 other waiting found⟩

theorem run_fresh (start : List Row) (moves : List Step) (final : State)
    (run : Runs (program sha256).next (fun m move => Pythonic floats move ∧ Undisturbed m move) (Machine.init ⟨start,none,[]⟩) moves final) :
    ∀ stored ∈ final.log, stored.Fresh := by
  refine ((program sha256).interleaved _ (fun _ log => ∀ stored ∈ log, Stored.Fresh stored) (fun _ _ => True) ?_ ?_ _ final moves run
    ⟨by simp [Machine.init],by simp⟩).1
  · simp
  · intro m id input task store task' events holds allowed known advanced
    refine ⟨?_,trivial,by simp⟩
    have fresh := effect_fresh (advance_effect sha256 floats advanced) (by
      rintro owner entry row rfl rfl pending
      exact allowed.2 owner entry row known pending)
    exact List.forall_mem_append.mpr ⟨holds.1,fresh⟩

variable (sha256 floats)

-- In every run the table holds one row for each successful append, and it verifies exactly
-- when each row was committed onto the hash it was sealed with; so it does in every run whose
-- commits are undisturbed.
theorem concurrent_appends (start : List Row) (verified : Sqlite.verifyChain sha256 (standardLibrary floats) start = some true) :
    (∀ (moves : List Step) (final : State),
      Runs (program sha256).next (fun _ move => Pythonic floats move) (Machine.init ⟨start,none,[]⟩) moves final →
        ∃ stored, final.store.table = start ++ stored ∧ stored.Perm (successes final) ∧
          (Function.Injective sha256 → (Sqlite.verifyChain sha256 (standardLibrary floats) final.store.table = some true ↔
            ∀ stored ∈ final.log, stored.Fresh))) ∧
    (∀ (moves : List Step) (final : State),
      Runs (program sha256).next (fun m move => Pythonic floats move ∧ Undisturbed m move) (Machine.init ⟨start,none,[]⟩) moves final →
        Sqlite.verifyChain sha256 (standardLibrary floats) final.store.table = some true) := by
  rw [verifyChain_linked] at verified
  constructor
  · intro moves final run
    have sound := run_sound start verified moves final run
    refine ⟨_,sound.rows,(run_logged floats _ moves final run).symm,?_⟩
    intro injective
    rw [verifyChain_linked]
    exact ⟨sound.only injective,sound.chained⟩
  · intro moves final run
    have sound := run_sound start verified moves final (run.mono (fun _ _ both => both.1))
    rw [verifyChain_linked]
    exact sound.chained (run_fresh start moves final run)

def laterEntry : Entry := {sampleEntry with id := "01JH",operation := "task.cancel"}

-- Two instances, each with one append; `order` says which call goes on.
def appendMoves (order : List Nat) : List Step :=
  [.arrive 0 (.locking 0 sampleEntry),.arrive 1 (.locking 1 laterEntry)] ++ order.map (fun id => .proceed id .succeeds)

def verdictAfter (check : State → Step → Bool) (order : List Nat) : Option (Nat × Option Bool) :=
  (execute (program sampleDigest).next check (Machine.init ⟨[],none,[]⟩) (appendMoves order)).map (fun final =>
    (final.store.table.length,Sqlite.verifyChain sampleDigest (standardLibrary sampleFloats) final.store.table))

theorem sample_pythonic (order : List Nat) : ∀ move ∈ appendMoves order, Pythonic sampleFloats move := by
  intro move member
  simp only [appendMoves,List.cons_append,List.nil_append,List.mem_cons,List.mem_map] at member
  rcases member with rfl | rfl | ⟨id,_,rfl⟩
  · exact ⟨trivial,trivial⟩
  · exact ⟨trivial,trivial⟩
  · trivial

def undisturbed (m : State) : Step → Bool
  | .proceed id .succeeds =>
    match m.tasks.get id,m.store.uncommitted with
    | some (.committing store),some (owner,entry,row) =>
      decide (owner ≠ store) || decide (row.prevHash = lastHash m.store.table) && orderly (detailsValue entry.details)
    | _,_ => true
  | _ => true

theorem undisturbed_sound (m : State) (move : Step) (checked : undisturbed m move = true) : Undisturbed m move := by
  unfold undisturbed at checked
  unfold Undisturbed
  split at checked
  · rename_i id
    intro store entry row found pending
    simpa [found,pending] using checked
  · trivial

theorem appends_in_turn : verdictAfter undisturbed [0,1,0,0,0,1,1,1] = some (2,some true) := by decide +kernel

-- The second call reads after the first has committed.
theorem concurrent_appends_in_turn :
    ∃ final : State, Runs (program sampleDigest).next (fun m move => Pythonic sampleFloats move ∧ Undisturbed m move)
        (Machine.init ⟨[],none,[]⟩) (appendMoves [0,1,0,0,0,1,1,1]) final ∧
      Sqlite.verifyChain sampleDigest (standardLibrary sampleFloats) final.store.table = some true := by
  obtain ⟨final,ran,_⟩ := Option.map_eq_some_iff.mp appends_in_turn
  have run := ((execute_runs undisturbed ran).within).mono
    (fun m move ⟨checked,member⟩ => And.intro (sample_pythonic _ move member) (undisturbed_sound m move checked))
  exact ⟨final,run,(concurrent_appends sampleDigest sampleFloats [] rfl).2 _ final run⟩

-- Both read before either has committed: two rows above the same hash.
theorem forked_appends : verdictAfter anyMove [0,1,0,1,0,0,1,1] = some (2,some false) := by decide +kernel

theorem concurrent_appends_fork :
    ∃ final : State, Runs (program sampleDigest).next (fun _ move => Pythonic sampleFloats move)
        (Machine.init ⟨[],none,[]⟩) (appendMoves [0,1,0,1,0,0,1,1]) final ∧
      final.store.table.length = 2 ∧
      Sqlite.verifyChain sampleDigest (standardLibrary sampleFloats) final.store.table = some false := by
  obtain ⟨final,ran,shown⟩ := Option.map_eq_some_iff.mp forked_appends
  obtain ⟨rows,verdict⟩ := Prod.mk.injEq _ _ _ _ ▸ shown
  have run := ((execute_free ran).within).mono (fun _ move ⟨_,member⟩ => sample_pythonic _ move member)
  exact ⟨final,run,rows,verdict⟩

end Asap.AuditConcurrency
