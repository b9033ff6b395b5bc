import Asap.Interleaving
import Asap.ManifestSigning

-- Assertion ceremonies of `WebAuthnVerifierImpl`: calls that share the pending challenges and
-- the credential store, and may give way at every lock and at every call of the store.
namespace Asap.WebAuthn
open OrderedDict PythonValue Interleaving

abbrev Bytes := List UInt8

structure CredentialRecord where
  publicKey : Bytes
  signCount : Nat
  deriving DecidableEq

structure Store where
  rows : Dict (String × Bytes) CredentialRecord
  pendingAuthentication : Dict String Bytes := .empty
  deriving DecidableEq

abbrev Assertion := List (Key × Value)

-- `invalid` is an InvalidAuthenticationResponse, `raised` any other exception.
inductive Verdict where
  | verified (newSignCount : Nat)
  | invalid
  | raised
  deriving DecidableEq

-- The `webauthn` package. `genuine` is what it checks of the signature, the relying party, the
-- origin and the user's verification, beside the challenge and the counter.
structure Package where
  base64urlToBytes : String → Option Bytes
  verifyAuthenticationResponse : Assertion → Bytes → Bytes → Nat → Bool → Verdict
  challenge : Assertion → Option Bytes
  counter : Assertion → Nat
  genuine : Assertion → Bytes → Bool → Bool
  exact : ∀ assertion expected publicKey current userVerification new,
    verifyAuthenticationResponse assertion expected publicKey current userVerification = .verified new ↔
      genuine assertion publicKey userVerification = true ∧ challenge assertion = some expected ∧ counter assertion = new ∧
        (current < new ∨ current = 0 ∧ new = 0)

structure FinishCall where
  hostId : String
  assertion : Assertion
  claimedChallenge : Option String
  requireUserVerification : Bool

-- What a call of `finish_webauthn_assertion` has in hand once the assertion is verified.
structure Passed where
  hostId : String
  expected : Bytes
  credentialId : Bytes
  row : CredentialRecord
  newSignCount : Nat

-- A call by what it waits for next: the store's list of credentials, the lock, the store's row,
-- the lock again, the store's update.
inductive Task where
  | starting (hostId : String) (challenge : Bytes)
  | issuing (hostId : String) (challenge : Bytes)
  | started (hostId : String) (challenge : Bytes)
  | finishing (call : FinishCall)
  | loading (call : FinishCall) (expected credentialId : Bytes)
  | consuming (passed : Passed)
  | counting (passed : Passed)
  | accepted (hostId : String) (challenge : Bytes)
  | rejected
  | raised

-- The challenge that a finish call deletes, beside the one it verified.
structure Deletion where
  hostId : String
  verified : Bytes
  removed : Option Bytes
  deriving DecidableEq

section Ceremony
variable (package : Package)

def rawId (assertion : Assertion) : Value :=
  match lookupItem "rawId" assertion with
  | some value => value
  | none => (lookupItem "id" assertion).getD .none

def credentialId (assertion : Assertion) : Option Bytes :=
  match rawId assertion with
  | .str text => package.base64urlToBytes text
  | _ => none

-- `none` where the call returns False at once.
def readChallenge (s : Store) (call : FinishCall) : Option Bytes :=
  match s.pendingAuthentication.get call.hostId with
  | none => none
  | some expected =>
    match call.claimedChallenge with
    | none => some expected
    | some claimed => if package.base64urlToBytes (strip claimed) = some expected then some expected else none

def readRow (s : Store) (call : FinishCall) (expected credentialId : Bytes) : Task :=
  match s.rows.get (call.hostId,credentialId) with
  | none => .rejected
  | some row =>
    match package.verifyAuthenticationResponse call.assertion expected row.publicKey row.signCount call.requireUserVerification with
    | .verified newSignCount => .consuming ⟨call.hostId,expected,credentialId,row,newSignCount⟩
    | .invalid => .rejected
    | .raised => .raised

def updateSignCount (s : Store) (passed : Passed) : Store × Task :=
  match s.rows.get (passed.hostId,passed.credentialId) with
  | none => (s,.raised)
  | some row =>
    ({s with rows := s.rows.set (passed.hostId,passed.credentialId) {row with signCount := passed.newSignCount}},
      .accepted passed.hostId passed.expected)

def advance (s : Store) : Task → Option (Store × Task × List Deletion)
  | .starting hostId challenge => some (s,.issuing hostId challenge,[])
  | .issuing hostId challenge =>
    some ({s with pendingAuthentication := s.pendingAuthentication.set hostId challenge},.started hostId challenge,[])
  | .finishing call =>
    match readChallenge package s call,credentialId package call.assertion with
    | some expected,some credentialId => some (s,.loading call expected credentialId,[])
    | _,_ => some (s,.rejected,[])
  | .loading call expected credentialId => some (s,readRow package s call expected credentialId,[])
  | .consuming passed =>
    some ({s with pendingAuthentication := s.pendingAuthentication.erase passed.hostId},.counting passed,
      [⟨passed.hostId,passed.expected,s.pendingAuthentication.get passed.hostId⟩])
  | .counting passed => some ((updateSignCount s passed).1,(updateSignCount s passed).2,[])
  | .started _ _ | .accepted _ _ | .rejected | .raised => none

def Task.arrives : Task → Bool
  | .starting _ _ | .finishing _ => true
  | _ => false

def program : Program Store Task Unit Deletion where
  arrives := Task.arrives
  advance s task _ := advance package s task

abbrev State := Machine Store Task Deletion

end Ceremony

-- The challenge that a start call issues, and the one that a finish call has used up.
def Task.issue : Task → Option (String × Bytes)
  | .starting hostId challenge | .issuing hostId challenge | .started hostId challenge => some (hostId,challenge)
  | _ => none

def Task.spent : Task → Option (String × Bytes)
  | .counting passed => some (passed.hostId,passed.expected)
  | .accepted hostId challenge => some (hostId,challenge)
  | _ => none

-- A start call for a host comes with a challenge that no other call for it has.
def distinct (m : State) : Move Task Unit → Bool
  | .arrive _ task => m.tasks.values.all (fun other => decide (task.issue = none ∨ other.issue ≠ task.issue))
  | .proceed _ _ => true

-- A finish call deletes the challenge while it is still the one it read, and writes the counter
-- while the row's is still the one it read.
def undisturbed (m : State) : Move Task Unit → Bool
  | .arrive _ _ => true
  | .proceed id _ =>
    match m.tasks.get id with
    | some (.consuming passed) => decide (m.store.pendingAuthentication.get passed.hostId = some passed.expected)
    | some (.counting passed) =>
      decide ((m.store.rows.get (passed.hostId,passed.credentialId)).map CredentialRecord.signCount = some passed.row.signCount)
    | _ => true

def Issued (tasks : Dict Nat Task) (hostId : String) (challenge : Bytes) : Prop := ∃ i, tasks.get i = some (.started hostId challenge)

def Task.Rising : Task → Prop
  | .consuming passed | .counting passed => passed.row.signCount ≤ passed.newSignCount
  | _ => True

structure Sound (m : State) : Prop where
  unique : Sole Task.issue m.tasks
  issued : ∀ hostId challenge, m.store.pendingAuthentication.get hostId = some challenge → Issued m.tasks hostId challenge
  spent : ∀ i task hostId challenge, m.tasks.get i = some task → task.spent = some (hostId,challenge) →
    Issued m.tasks hostId challenge ∧ m.store.pendingAuthentication.get hostId ≠ some challenge
  once : Sole Task.spent m.tasks
  rising : ∀ i task, m.tasks.get i = some task → task.Rising
  deletions : ∀ deletion ∈ m.log, ∀ challenge, deletion.removed = some challenge → challenge = deletion.verified

theorem init_sound (rows : Dict (String × Bytes) CredentialRecord) : Sound (.init ⟨rows,.empty⟩) where
  unique _ _ _ _ _ found := by cases found
  issued _ _ found := by cases found
  spent _ _ _ _ found := by cases found
  once _ _ _ _ _ found := by cases found
  rising _ _ found := by cases found
  deletions _ member := by cases member

theorem Issued.set {tasks : Dict Nat Task} {id : Nat} {task : Task} (free : ∀ hostId challenge, tasks.get id ≠ some (.started hostId challenge))
    {hostId : String} {challenge : Bytes} (issued : Issued tasks hostId challenge) : Issued (tasks.set id task) hostId challenge := by
  obtain ⟨i,found⟩ := issued
  refine ⟨i,?_⟩
  rw [Dict.get_set_other]
  · exact found
  · rintro rfl
    exact free hostId challenge found

variable {m : State} {id : Nat} {old task : Task}

theorem Sound.risingSet (sound : Sound m) (rises : task.Rising) : ∀ i other, (m.tasks.set id task).get i = some other → other.Rising := by
  intro i other found
  rw [Dict.get_set] at found
  split at found
  · cases found
    exact rises
  · exact sound.rising i other found

-- A step that leaves the pending challenges as they are.
theorem Sound.goes (sound : Sound m) (free : ∀ hostId challenge, m.tasks.get id ≠ some (.started hostId challenge))
    (unique : Sole Task.issue (m.tasks.set id task)) (once : Sole Task.spent (m.tasks.set id task)) (rises : task.Rising)
    (spent : ∀ mark, task.spent = some mark → ∃ old, m.tasks.get id = some old ∧ old.spent = some mark)
    (rows : Dict (String × Bytes) CredentialRecord) :
    Sound ⟨{m.store with rows},m.tasks.set id task,m.log⟩ where
  unique := unique
  issued hostId challenge found := (sound.issued hostId challenge found).set free
  spent i other hostId challenge found mark := by
    rw [Dict.get_set] at found
    split at found
    · cases found
      obtain ⟨old,before,mark⟩ := spent _ mark
      obtain ⟨issued,gone⟩ := sound.spent id old hostId challenge before mark
      exact ⟨issued.set free,gone⟩
    · obtain ⟨issued,gone⟩ := sound.spent i other hostId challenge found mark
      exact ⟨issued.set free,gone⟩
  once := once
  rising := sound.risingSet rises
  deletions := sound.deletions

-- A call that goes on without a challenge of its own, or with the one it came with.
theorem Sound.proceeds (sound : Sound m) (found : m.tasks.get id = some old) (issue : task.issue = old.issue ∨ task.issue = none)
    (spent : task.spent = old.spent ∨ task.spent = none) (rises : task.Rising) (ended : ∀ hostId challenge, old ≠ .started hostId challenge)
    (rows : Dict (String × Bytes) CredentialRecord) : Sound ⟨{m.store with rows},m.tasks.set id task,m.log⟩ := by
  refine sound.goes ?_ (sound.unique.keep found issue) (sound.once.keep found spent) rises ?_ rows
  · intro hostId challenge same
    rw [found,Option.some.injEq] at same
    exact ended hostId challenge same
  · intro mark carries
    rcases spent with same | gone
    · exact ⟨old,found,same ▸ carries⟩
    · rw [gone] at carries
      cases carries

theorem Sound.waits (sound : Sound m) (found : m.tasks.get id = some old) (task : Task) (issue : task.issue = old.issue ∨ task.issue = none)
    (spent : task.spent = none) (rises : task.Rising) (ended : ∀ hostId challenge, old ≠ .started hostId challenge) :
    Sound ⟨m.store,m.tasks.set id task,m.log⟩ := sound.proceeds found issue (.inr spent) rises ended m.store.rows

theorem Sound.issues (sound : Sound m) {hostId : String} {challenge : Bytes} (found : m.tasks.get id = some (.issuing hostId challenge)) :
    Sound ⟨{m.store with pendingAuthentication := m.store.pendingAuthentication.set hostId challenge},
      m.tasks.set id (.started hostId challenge),m.log⟩ := by
  have free : ∀ host other, m.tasks.get id ≠ some (.started host other) := by
    intro host other same
    rw [found] at same
    cases same
  refine ⟨sound.unique.keep found (.inl rfl),?_,?_,sound.once.keep found (.inr rfl),sound.risingSet trivial,sound.deletions⟩
  · intro host other pending
    rw [Dict.get_set] at pending
    split at pending
    · rename_i same
      cases pending
      subst same
      exact ⟨id,Dict.get_set_self _ _ _⟩
    · exact (sound.issued host other pending).set free
  · intro i other host used otherFound mark
    rw [Dict.get_set] at otherFound
    split at otherFound
    · cases otherFound
      cases mark
    · obtain ⟨issued,gone⟩ := sound.spent i other host used otherFound mark
      refine ⟨issued.set free,fun pending => ?_⟩
      rw [Dict.get_set] at pending
      split at pending
      · rename_i same
        cases pending
        subst same
        -- The challenge was spent, so some other call had issued it before.
        obtain ⟨j,started⟩ := issued
        have same := sound.unique j id _ _ (hostId,challenge) started found rfl rfl
        subst same
        exact free _ _ started
      · exact gone pending

theorem Sound.consumes (sound : Sound m) {passed : Passed} (found : m.tasks.get id = some (.consuming passed))
    (still : m.store.pendingAuthentication.get passed.hostId = some passed.expected) :
    Sound ⟨{m.store with pendingAuthentication := m.store.pendingAuthentication.erase passed.hostId},m.tasks.set id (.counting passed),
      m.log ++ [⟨passed.hostId,passed.expected,m.store.pendingAuthentication.get passed.hostId⟩]⟩ := by
  have free : ∀ host other, m.tasks.get id ≠ some (.started host other) := by
    intro host other same
    rw [found] at same
    cases same
  have within : ∀ host other, (m.store.pendingAuthentication.erase passed.hostId).get host = some other →
      m.store.pendingAuthentication.get host = some other := by
    intro host other pending
    rw [Dict.get_erase] at pending
    split at pending
    · cases pending
    · exact pending
  have rises : (Task.counting passed).Rising := sound.rising id (.consuming passed) found
  refine ⟨sound.unique.keep found (.inl rfl),?_,?_,?_,sound.risingSet rises,?_⟩
  · exact fun host other pending => (sound.issued host other (within host other pending)).set free
  · intro i other host used otherFound mark
    rw [Dict.get_set] at otherFound
    split at otherFound
    · cases otherFound
      cases mark
      exact ⟨(sound.issued _ _ still).set free,by simp⟩
    · obtain ⟨issued,gone⟩ := sound.spent i other host used otherFound mark
      exact ⟨issued.set free,fun pending => gone (within host used pending)⟩
  · refine sound.once.set (fun j other mark _ otherFound carries mine => ?_)
    cases mine
    exact (sound.spent j other _ _ otherFound carries).2 still
  · intro deletion member challenge removed
    rcases List.mem_append.mp member with earlier | last
    · exact sound.deletions deletion earlier challenge removed
    · cases List.mem_singleton.mp last
      rw [still] at removed
      exact (Option.some.inj removed).symm

section Steps
variable (package : Package)

-- What a verified assertion says of its counter.
theorem readRow_rises (s : Store) (call : FinishCall) (expected credentialId : Bytes) : (readRow package s call expected credentialId).Rising := by
  unfold readRow
  split
  · trivial
  · rename_i row _
    split
    · rename_i new verified
      obtain ⟨-,-,-,above⟩ := (package.exact _ _ _ _ _ _).mp verified
      change row.signCount ≤ new
      omega
    · trivial
    · trivial

theorem readRow_plain (s : Store) (call : FinishCall) (expected credentialId : Bytes) :
    (readRow package s call expected credentialId).issue = none ∧ (readRow package s call expected credentialId).spent = none := by
  unfold readRow
  split
  · exact ⟨rfl,rfl⟩
  · split <;> exact ⟨rfl,rfl⟩

theorem updateSignCount_store (s : Store) (passed : Passed) :
    ∃ rows, (updateSignCount s passed).1 = {s with rows} ∧ (updateSignCount s passed).2.issue = none ∧
      ((updateSignCount s passed).2.spent = some (passed.hostId,passed.expected) ∨ (updateSignCount s passed).2.spent = none) ∧
      (updateSignCount s passed).2.Rising := by
  unfold updateSignCount
  split
  · exact ⟨s.rows,rfl,rfl,.inr rfl,trivial⟩
  · exact ⟨_,rfl,rfl,.inl rfl,trivial⟩

theorem proceed_sound {next : State} (sound : Sound m) (allowed : undisturbed m (.proceed id ()) = true)
    (taken : (program package).next m (.proceed id ()) = some next) : Sound next := by
  obtain ⟨task,store,task',events,found,advanced,rfl⟩ := (program package).next_proceed m next id () taken
  simp only [undisturbed,found] at allowed
  simp only [program] at advanced
  cases task with
  | starting hostId challenge =>
    cases advanced
    rw [List.append_nil]
    exact sound.waits found (.issuing hostId challenge) (.inl rfl) rfl trivial (fun _ _ same => by cases same)
  | issuing hostId challenge =>
    cases advanced
    rw [List.append_nil]
    exact sound.issues found
  | finishing call =>
    simp only [advance] at advanced
    split at advanced <;> cases advanced <;> rw [List.append_nil]
    · exact sound.waits found (.loading call _ _) (.inr rfl) rfl trivial (fun _ _ same => by cases same)
    · exact sound.waits found .rejected (.inr rfl) rfl trivial (fun _ _ same => by cases same)
  | loading call expected credentialId =>
    cases advanced
    rw [List.append_nil]
    obtain ⟨issue,spent⟩ := readRow_plain package m.store call expected credentialId
    exact sound.waits found _ (.inr issue) spent (readRow_rises package m.store call expected credentialId) (fun _ _ same => by cases same)
  | consuming passed =>
    cases advanced
    exact sound.consumes found (of_decide_eq_true allowed)
  | counting passed =>
    cases advanced
    rw [List.append_nil]
    obtain ⟨rows,same,issue,spent,rises⟩ := updateSignCount_store m.store passed
    rw [same]
    exact sound.proceeds found (.inr issue) spent rises (fun _ _ same => by cases same) rows
  | started => cases advanced
  | accepted => cases advanced
  | rejected => cases advanced
  | raised => cases advanced

theorem arrive_sound {next : State} (sound : Sound m) (apart : distinct m (.arrive id task) = true)
    (taken : (program package).next m (.arrive id task) = some next) : Sound next := by
  obtain ⟨arrives,absent,rfl⟩ := (program package).next_arrive m next id task taken
  have unspent : task.spent = none ∧ task.Rising := by
    cases task with
    | starting => exact ⟨rfl,trivial⟩
    | finishing => exact ⟨rfl,trivial⟩
    | _ => cases arrives
  refine sound.goes (by simp [absent]) ?_ ?_ unspent.2 (fun mark carries => ?_) m.store.rows
  · refine sound.unique.set (fun j other mark _ found carries mine => ?_)
    have listed : other ∈ m.tasks.values := List.mem_map.mpr ⟨(j,other),(Dict.mem_iff m.tasks).mpr found,rfl⟩
    have different := of_decide_eq_true (List.all_eq_true.mp apart other listed)
    rw [mine,carries] at different
    simp at different
  · refine sound.once.set (fun j other mark _ _ _ mine => ?_)
    rw [unspent.1] at mine
    cases mine
  · rw [unspent.1] at carries
    cases carries

-- Every counter of the first store is there in the second, and not lower.
def Above (before after : Store) : Prop :=
  ∀ key row, before.rows.get key = some row → ∃ later, after.rows.get key = some later ∧ row.signCount ≤ later.signCount

theorem Above.refl (s : Store) : Above s s := fun _ row found => ⟨row,found,Nat.le_refl _⟩

theorem Above.trans {first second third : Store} (low : Above first second) (high : Above second third) : Above first third := by
  intro key row found
  obtain ⟨later,next,above⟩ := low key row found
  obtain ⟨last,final,further⟩ := high key later next
  exact ⟨last,final,above.trans further⟩

theorem updateSignCount_above {s : Store} {passed : Passed} (rises : passed.row.signCount ≤ passed.newSignCount)
    (still : (s.rows.get (passed.hostId,passed.credentialId)).map CredentialRecord.signCount = some passed.row.signCount) :
    Above s (updateSignCount s passed).1 := by
  intro key row found
  unfold updateSignCount
  split
  · exact ⟨row,found,Nat.le_refl _⟩
  · rename_i stored known
    by_cases same : (passed.hostId,passed.credentialId) = key
    · subst same
      rw [known,Option.map_some,Option.some.injEq] at still
      rw [known,Option.some.injEq] at found
      subst found
      refine ⟨_,Dict.get_set_self _ _ _,?_⟩
      rw [still]
      exact rises
    · exact ⟨row,(Dict.get_set_other _ _ same).trans found,Nat.le_refl _⟩

theorem next_above {next : State} (sound : Sound m) (move : Move Task Unit) (allowed : undisturbed m move = true)
    (taken : (program package).next m move = some next) : Above m.store next.store := by
  cases move with
  | arrive id task =>
    obtain ⟨-,-,rfl⟩ := (program package).next_arrive m next id task taken
    exact .refl _
  | proceed id input =>
    obtain ⟨task,store,task',events,found,advanced,rfl⟩ := (program package).next_proceed m next id input taken
    simp only [undisturbed,found] at allowed
    simp only [program] at advanced
    cases task with
    | counting passed =>
      cases advanced
      exact updateSignCount_above (sound.rising id _ found) (of_decide_eq_true allowed)
    | finishing call =>
      simp only [advance] at advanced
      split at advanced <;> cases advanced <;> exact .refl _
    | starting | issuing | loading | consuming =>
      cases advanced
      exact fun key row known => ⟨row,known,Nat.le_refl _⟩
    | started | accepted | rejected | raised => cases advanced

theorem next_sound {next : State} (sound : Sound m) (move : Move Task Unit) (allowed : distinct m move = true ∧ undisturbed m move = true)
    (taken : (program package).next m move = some next) : Sound next := by
  cases move with
  | arrive id task => exact arrive_sound package sound allowed.1 taken
  | proceed id input => exact proceed_sound package sound allowed.2 taken

end Steps

-- In the words of the calls: a challenge is accepted once, a deleted challenge is the verified
-- one, and no counter falls between two states of a run.
theorem challenges_used_once (package : Package) (rows : Dict (String × Bytes) CredentialRecord) (moves more : List (Move Task Unit))
    (middle final : State)
    (run : Runs (program package).next (fun m move => distinct m move = true ∧ undisturbed m move = true) (.init ⟨rows,.empty⟩) moves middle)
    (further : Runs (program package).next (fun m move => distinct m move = true ∧ undisturbed m move = true) middle more final) :
    (∀ i j hostId challenge, final.tasks.get i = some (.accepted hostId challenge) →
      final.tasks.get j = some (.accepted hostId challenge) → i = j) ∧
    (∀ deletion ∈ final.log, ∀ challenge, deletion.removed = some challenge → challenge = deletion.verified) ∧
    (∀ key row, middle.store.rows.get key = some row →
      ∃ later, final.store.rows.get key = some later ∧ row.signCount ≤ later.signCount) := by
  have halfway : Sound middle := run.invariant Sound
    (fun m move next allowed taken sound => next_sound package sound move allowed taken) (init_sound rows)
  have reached : Sound final ∧ Above middle.store final.store := further.invariant (fun m => Sound m ∧ Above middle.store m.store)
    (fun m move next allowed taken held => ⟨next_sound package held.1 move allowed taken,
      held.2.trans (next_above package held.1 move allowed.2 taken)⟩) ⟨halfway,.refl _⟩
  refine ⟨fun i j hostId challenge left right => ?_,reached.1.deletions,reached.2⟩
  exact reached.1.once i j _ _ (hostId,challenge) left right rfl rfl

-- Assertions with the challenge and the counter in plain fields.
def sampleBytes (text : String) : Option Bytes := ManifestSigning.a2bBase64 0 0 0 (text.toList ++ ['=','=','='])

def sampleChallenge (assertion : Assertion) : Option Bytes :=
  match lookupItem "challenge" assertion with
  | some (.str text) => sampleBytes text
  | _ => none

def sampleCounter (assertion : Assertion) : Nat :=
  match lookupItem "counter" assertion with
  | some (.int value) => value.toNat
  | _ => 0

def sampleVerify (assertion : Assertion) (expected _ : Bytes) (current : Nat) (_ : Bool) : Verdict :=
  if sampleChallenge assertion = some expected ∧
    (current < sampleCounter assertion ∨ current = 0 ∧ sampleCounter assertion = 0) then .verified (sampleCounter assertion)
  else .invalid

def samplePackage : Package where
  base64urlToBytes := sampleBytes
  verifyAuthenticationResponse := sampleVerify
  challenge := sampleChallenge
  counter := sampleCounter
  genuine _ _ _ := true
  exact assertion expected publicKey current userVerification new := by
    simp only [sampleVerify,true_and]
    split
    · rename_i holds
      simp only [Verdict.verified.injEq]
      refine ⟨(fun same => ⟨holds.1,same,same ▸ holds.2⟩),fun known => known.2.1⟩
    · rename_i fails
      simp only [reduceCtorEq,false_iff]
      rintro ⟨bound,rfl,above⟩
      exact fails ⟨bound,above⟩

def sampleRows : Dict (String × Bytes) CredentialRecord := Dict.empty.set ("h",[1,0,0]) ⟨[],4⟩

def answering (challenge : String) (counter : Int) : Task :=
  .finishing ⟨"h",[(.str "rawId",.str "AQAA"),(.str "challenge",.str challenge),(.str "counter",.int counter)],some challenge,false⟩

def reached (check : State → Move Task Unit → Bool) (moves : List (Move Task Unit)) : Option State :=
  execute (program samplePackage).next check (.init ⟨sampleRows,.empty⟩) moves

-- Two calls read one challenge before either deletes it, and their counters are written in the
-- other order.
def overlapping : List (Move Task Unit) :=
  [.arrive 0 (.starting "h" [7,7,7]),.proceed 0 (),.proceed 0 (),.arrive 1 (answering "BwcH" 6),.arrive 2 (answering "BwcH" 5),
   .proceed 1 (),.proceed 2 (),.proceed 1 (),.proceed 2 (),.proceed 1 (),.proceed 2 (),.proceed 1 ()]

-- A new challenge comes in between the verification and the deletion.
def replaced : List (Move Task Unit) :=
  [.arrive 0 (.starting "h" [7,7,7]),.proceed 0 (),.proceed 0 (),.arrive 1 (answering "BwcH" 6),.proceed 1 (),.proceed 1 (),
   .arrive 2 (.starting "h" [8,8,8]),.proceed 2 (),.proceed 2 (),.proceed 1 ()]

def Task.acceptance : Task → Option (String × Bytes)
  | .accepted hostId challenge => some (hostId,challenge)
  | _ => none

theorem acceptance_some {found : Option Task} (accepts : found.bind Task.acceptance = some (hostId,challenge)) :
    found = some (.accepted hostId challenge) := by
  cases found with
  | none => cases accepts
  | some task =>
    cases task with
    | accepted => cases accepts; rfl
    | _ => cases accepts

theorem reached_runs (check : State → Move Task Unit → Bool) (moves : List (Move Task Unit)) (done : (reached check moves).isSome = true) :
    Runs (program samplePackage).next (fun m move => check m move = true) (.init ⟨sampleRows,.empty⟩) moves ((reached check moves).get done) :=
  execute_runs check (Option.some_get done).symm

theorem overlapping_done : (reached distinct (overlapping ++ [.proceed 2 ()])).isSome = true := by decide
theorem overlapping_halfway : (reached distinct overlapping).isSome = true := by decide
theorem replaced_done : (reached distinct replaced).isSome = true := by decide

def counterOf (m : State) : Option Nat := (m.store.rows.get ("h",[1,0,0])).map CredentialRecord.signCount

theorem challenge_used_twice :
    (∃ middle final, Runs (program samplePackage).next (fun m move => distinct m move = true) (.init ⟨sampleRows,.empty⟩) overlapping middle ∧
      Runs (program samplePackage).next (fun m move => distinct m move = true) (.init ⟨sampleRows,.empty⟩) (overlapping ++ [.proceed 2 ()]) final ∧
      final.tasks.get 1 = some (.accepted "h" [7,7,7]) ∧ final.tasks.get 2 = some (.accepted "h" [7,7,7]) ∧
      counterOf middle = some 6 ∧ counterOf final = some 5) ∧
    (∃ final, Runs (program samplePackage).next (fun m move => distinct m move = true) (.init ⟨sampleRows,.empty⟩) replaced final ∧
      final.log = [⟨"h",[7,7,7],some [8,8,8]⟩]) := by
  refine ⟨⟨_,_,reached_runs distinct overlapping overlapping_halfway,reached_runs distinct _ overlapping_done,?_,?_,?_,?_⟩,
    _,reached_runs distinct replaced replaced_done,?_⟩
  · exact acceptance_some (by decide)
  · exact acceptance_some (by decide)
  · decide
  · decide
  · decide

def careful (m : State) (move : Move Task Unit) : Bool := distinct m move && undisturbed m move

-- One ceremony after the other, with a call in between that fails.
def orderly : List (Move Task Unit) :=
  [.arrive 0 (.starting "h" [7,7,7]),.proceed 0 (),.proceed 0 (),.arrive 1 (answering "BwcH" 6),.arrive 2 (answering "CAgI" 9),
   .proceed 1 (),.proceed 2 (),.proceed 1 (),.proceed 1 (),.proceed 1 ()]

def orderlyMore : List (Move Task Unit) :=
  [.arrive 3 (.starting "h" [8,8,8]),.proceed 3 (),.proceed 3 (),.arrive 4 (answering "CAgI" 9),.proceed 4 (),.proceed 4 (),.proceed 4 (),
   .proceed 4 ()]

theorem orderly_done : ((reached careful orderly).bind (fun m => execute (program samplePackage).next careful m orderlyMore)).isSome = true := by
  decide

theorem challenges_used_once_orderly : ∃ middle final,
    Runs (program samplePackage).next (fun m move => distinct m move = true ∧ undisturbed m move = true) (.init ⟨sampleRows,.empty⟩) orderly middle ∧
    Runs (program samplePackage).next (fun m move => distinct m move = true ∧ undisturbed m move = true) middle orderlyMore final ∧
    (∀ i j hostId challenge, final.tasks.get i = some (.accepted hostId challenge) →
      final.tasks.get j = some (.accepted hostId challenge) → i = j) := by
  obtain ⟨final,ran⟩ := Option.isSome_iff_exists.mp orderly_done
  obtain ⟨middle,half,rest⟩ := Option.bind_eq_some_iff.mp ran
  have both : ∀ (m : State) (move : Move Task Unit), careful m move = true → distinct m move = true ∧ undisturbed m move = true :=
    fun m move allowed => Bool.and_eq_true_iff.mp allowed
  have first := (execute_runs careful half).mono both
  have second := (execute_runs careful rest).mono both
  exact ⟨middle,final,first,second,(challenges_used_once samplePackage sampleRows orderly orderlyMore middle final first second).1⟩

end Asap.WebAuthn
