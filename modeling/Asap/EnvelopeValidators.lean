import Asap.Interleaving
import Asap.PythonValue

namespace Asap.EnvelopeValidators
open OrderedDict PythonValue Interleaving

-- Instants are in microseconds from the first instant of year 1, durations in microseconds.
def maxEnvelopeAge : Int := 300000000
def maxFutureTolerance : Int := 30000000
def nonceTtl : Int := 2 * maxEnvelopeAge
def maxNonceStoreSize : Nat := 50000

structure Envelope where
  id : String
  timestamp : Option DateTime
  extensions : Option (Dict String Value)

-- `InvalidTimestampError` with the amount its message names, and the OverflowError of
-- a time that UTC has no year for.
inductive TimestampError where
  | required (envelopeId : String)
  | outOfRange
  | tooOld (envelopeId : String) (age : Int)
  | tooFarInFuture (envelopeId : String) (offset : Int)
  deriving DecidableEq

-- A naive time is read as UTC.
def utcTimestamp (stamp : DateTime) : Option Int :=
  match stamp.utcoffset with
  | none => some stamp.instant
  | some _ => stamp.astimezone

def validateEnvelopeTimestamp (envelope : Envelope) (now : Int) : Except TimestampError Int :=
  match envelope.timestamp with
  | none => .error (.required envelope.id)
  | some stamp =>
    match utcTimestamp stamp with
    | none => .error .outOfRange
    | some timestamp =>
      if maxEnvelopeAge < now - timestamp then .error (.tooOld envelope.id (now - timestamp))
      else if maxFutureTolerance < timestamp - now then .error (.tooFarInFuture envelope.id (timestamp - now))
      else .ok timestamp

abbrev NonceStore := Dict String Int

-- What one nonce check reads: whether the random number fell below the cleanup
-- probability, and the clock at the cleanup, at the comparison and at the mark.
structure Readings where
  roll : Bool
  cleanupNow : Int
  checkNow : Int
  markNow : Int

def cleanupExpired (s : NonceStore) (r : Readings) : NonceStore :=
  if s.size ≤ maxNonceStoreSize ∧ r.roll = false then s
  else s.retain (fun row => decide (r.cleanupNow ≤ row.2))

-- True when the nonce was used already.
def checkAndMark (s : NonceStore) (nonce : String) (ttl : Int) (r : Readings) : NonceStore × Bool :=
  let cleaned := cleanupExpired s r
  if (cleaned.get nonce).any (fun expiry => decide (r.checkNow ≤ expiry)) then (cleaned,true)
  else (cleaned.set nonce (r.markNow + ttl),false)

inductive NonceError where
  | malformed (envelopeId message : String)
  | duplicate (envelopeId message : String)
  deriving DecidableEq

def typeName : Value → String
  | .none => "NoneType"
  | .bool _ => "bool"
  | .int _ => "int"
  | .float _ _ | .nonFinite _ => "float"
  | .str _ => "empty string"
  | .list _ => "list"
  | .dict _ => "dict"
  | .other text => text

-- The nonce that was marked, if the envelope has one.
def validateEnvelopeNonce (envelope : Envelope) (s : NonceStore) (r : Readings) :
    NonceStore × Except NonceError (Option String) :=
  match envelope.extensions.bind (fun extensions => extensions.get "nonce") with
  | none => (s,.ok none)
  | some (.str nonce) =>
    if nonce = "" then (s,.error (.malformed envelope.id "Nonce must be a non-empty string, got empty string"))
    else match checkAndMark s nonce nonceTtl r with
      | (next,true) => (next,.error (.duplicate envelope.id ("Duplicate nonce detected: " ++ nonce)))
      | (next,false) => (next,.ok (some nonce))
  | some value => (s,.error (.malformed envelope.id ("Nonce must be a non-empty string, got " ++ typeName value)))

structure Server where
  clock : Int
  nonces : NonceStore

-- An envelope before its checks, between them, and after.
inductive Task where
  | received (envelope : Envelope)
  | stamped (envelope : Envelope) (timestamp stampedAt : Int)
  | rejectedStamp (error : TimestampError)
  | rejectedNonce (error : NonceError)
  | passed

-- An envelope with a nonce that passed both checks, with the clock at the age check
-- and at the comparison in the nonce store.
structure Pass where
  timestamp : Int
  nonce : String
  stampedAt : Int
  readAt : Int
  deriving DecidableEq

inductive Input where
  | stamp (now : Int)
  | check (readings : Readings)

def Readings.follow (r : Readings) (clock : Int) : Prop :=
  clock ≤ r.cleanupNow ∧ r.cleanupNow ≤ r.checkNow ∧ r.checkNow ≤ r.markNow

instance (r : Readings) (clock : Int) : Decidable (r.follow clock) := inferInstanceAs (Decidable (_ ∧ _ ∧ _))

-- The clock does not go back.
def advance (s : Server) (task : Task) (input : Input) : Option (Server × Task × List Pass) :=
  match task,input with
  | .received envelope,.stamp now =>
    if s.clock ≤ now then
      match validateEnvelopeTimestamp envelope now with
      | .error error => some ({s with clock := now},.rejectedStamp error,[])
      | .ok timestamp => some ({s with clock := now},.stamped envelope timestamp now,[])
    else none
  | .stamped envelope timestamp stampedAt,.check r =>
    if r.follow s.clock then
      match validateEnvelopeNonce envelope s.nonces r with
      | (nonces,.error error) => some (⟨r.markNow,nonces⟩,.rejectedNonce error,[])
      | (nonces,.ok none) => some (⟨r.markNow,nonces⟩,.passed,[])
      | (nonces,.ok (some nonce)) => some (⟨r.markNow,nonces⟩,.passed,[⟨timestamp,nonce,stampedAt,r.checkNow⟩])
    else none
  | _,_ => none

def Task.arrives : Task → Bool
  | .received _ => true
  | _ => false

def program : Program Server Task Input Pass where
  arrives := Task.arrives
  advance := advance

abbrev State := Machine Server Task Pass

-- How long a nonce outlives the last instant at which the age check accepts its envelope.
def slack : Int := nonceTtl - maxEnvelopeAge - maxFutureTolerance

-- A nonce stays in the store until its envelope is too old by the slack.
def Remembered (s : Server) (pass : Pass) : Prop :=
  (∃ expiry, s.nonces.get pass.nonce = some expiry ∧ pass.timestamp + maxEnvelopeAge + slack ≤ expiry) ∨
    pass.timestamp + maxEnvelopeAge + slack < s.clock

def Repeats (first second : Pass) : Prop := first.timestamp = second.timestamp ∧ first.nonce = second.nonce

-- A second pass means that the clock ran on for more than the slack between its checks.
def Late (log : List Pass) : Prop :=
  log.Pairwise (fun first second => Repeats first second → second.stampedAt + slack < second.readAt)

def Sound (s : Server) (log : List Pass) : Prop := (∀ pass ∈ log, Remembered s pass) ∧ Late log

def Timely (s : Server) : Task → Prop
  | .stamped _ timestamp stampedAt =>
    stampedAt ≤ s.clock ∧ stampedAt ≤ timestamp + maxEnvelopeAge ∧ timestamp ≤ stampedAt + maxFutureTolerance
  | _ => True

theorem timely_later (s next : Server) (task : Task) (later : s.clock ≤ next.clock) (timely : Timely s task) :
    Timely next task := by
  cases task with
  | stamped => exact ⟨timely.1.trans later,timely.2⟩
  | received | rejectedStamp | rejectedNonce | passed => trivial

theorem remembered_later (s : Server) (clock : Int) (pass : Pass) (later : s.clock ≤ clock) (remembered : Remembered s pass) :
    Remembered {s with clock := clock} pass :=
  remembered.imp id (fun elapsed => elapsed.trans_le later)

theorem validateEnvelopeTimestamp_ok (envelope : Envelope) (now timestamp : Int)
    (valid : validateEnvelopeTimestamp envelope now = .ok timestamp) :
    now ≤ timestamp + maxEnvelopeAge ∧ timestamp ≤ now + maxFutureTolerance := by
  unfold validateEnvelopeTimestamp at valid
  repeat' split at valid
  all_goals cases valid
  constructor <;> omega

theorem cleanupExpired_get (s : NonceStore) (r : Readings) (nonce : String) :
    (cleanupExpired s r).get nonce = s.get nonce ∨
      ∃ expiry, s.get nonce = some expiry ∧ expiry < r.cleanupNow ∧ (cleanupExpired s r).get nonce = none := by
  unfold cleanupExpired
  split
  · exact .inl rfl
  · rw [Dict.get_retain]
    cases s.get nonce with
    | none => exact .inl rfl
    | some expiry =>
      by_cases kept : r.cleanupNow ≤ expiry
      · exact .inl (by simp [kept])
      · exact .inr ⟨expiry,rfl,not_le.mp kept,by simpa using not_le.mp kept⟩

-- Only an entry that has expired by the comparison is dropped or replaced.
theorem checkAndMark_keeps (s : NonceStore) (nonce other : String) (r : Readings) (expiry : Int)
    (order : r.cleanupNow ≤ r.checkNow) (stored : s.get other = some expiry) :
    (checkAndMark s nonce nonceTtl r).1.get other = some expiry ∨ expiry < r.checkNow := by
  rcases cleanupExpired_get s r other with same | ⟨old,found,expired,_⟩
  · rw [stored] at same
    simp only [checkAndMark]
    split
    · exact .inl same
    · rename_i unused
      by_cases named : nonce = other
      · subst named
        right
        simpa [same] using unused
      · left
        simpa [Dict.get_set,named] using same
  · rw [stored] at found
    cases found
    exact .inr (expired.trans_le order)

theorem checkAndMark_unused (s : NonceStore) (nonce : String) (r : Readings) (order : r.cleanupNow ≤ r.checkNow)
    (unused : (checkAndMark s nonce nonceTtl r).2 = false) :
    (checkAndMark s nonce nonceTtl r).1.get nonce = some (r.markNow + nonceTtl) ∧
      ∀ expiry, s.get nonce = some expiry → expiry < r.checkNow := by
  simp only [checkAndMark] at unused ⊢
  split at unused
  · cases unused
  · rename_i free
    rw [if_neg free]
    refine ⟨Dict.get_set_self ..,?_⟩
    intro expiry stored
    rcases cleanupExpired_get s r nonce with same | ⟨old,found,expired,_⟩
    · rw [stored] at same
      simpa [same] using free
    · rw [stored] at found
      cases found
      exact expired.trans_le order

theorem validateEnvelopeNonce_keeps (envelope : Envelope) (s : NonceStore) (r : Readings) (other : String) (expiry : Int)
    (order : r.cleanupNow ≤ r.checkNow) (stored : s.get other = some expiry) :
    (validateEnvelopeNonce envelope s r).1.get other = some expiry ∨ expiry < r.checkNow := by
  unfold validateEnvelopeNonce
  split
  · exact .inl stored
  · rename_i nonce _
    have kept := checkAndMark_keeps s nonce other r expiry order stored
    split
    · exact .inl stored
    · split
      · rename_i marked
        rw [marked] at kept
        exact kept
      · rename_i marked
        rw [marked] at kept
        exact kept
  · exact .inl stored

theorem validateEnvelopeNonce_passed (envelope : Envelope) (s : NonceStore) (r : Readings) (nonce : String)
    (order : r.cleanupNow ≤ r.checkNow) (passed : (validateEnvelopeNonce envelope s r).2 = .ok (some nonce)) :
    (validateEnvelopeNonce envelope s r).1.get nonce = some (r.markNow + nonceTtl) ∧
      ∀ expiry, s.get nonce = some expiry → expiry < r.checkNow := by
  unfold validateEnvelopeNonce at passed ⊢
  split at passed
  · cases passed
  · rename_i found
    split at passed
    · cases passed
    · rename_i named
      split at passed
      · cases passed
      · rename_i marked
        cases passed
        have unused := checkAndMark_unused s nonce r order (by rw [marked])
        rw [marked] at unused
        simpa only [found,if_neg named,marked] using unused
  · cases passed

theorem late_append (log : List Pass) (pass : Pass) (late : Late log)
    (last : ∀ first ∈ log, Repeats first pass → pass.stampedAt + slack < pass.readAt) : Late (log ++ [pass]) := by
  apply List.pairwise_append.mpr
  refine ⟨late,List.pairwise_singleton _ _,?_⟩
  intro first member second same
  cases List.mem_singleton.mp same
  exact last first member

-- The nonce check of an envelope that is timely keeps the earlier passes in mind.
theorem check_remembers (s : Server) (envelope : Envelope) (r : Readings) (pass : Pass) (follows : r.follow s.clock)
    (remembered : Remembered s pass) : Remembered ⟨r.markNow,(validateEnvelopeNonce envelope s.nonces r).1⟩ pass := by
  obtain ⟨start,order,finish⟩ := follows
  rcases remembered with ⟨expiry,stored,long⟩ | elapsed
  · rcases validateEnvelopeNonce_keeps envelope s.nonces r pass.nonce expiry order stored with kept | expired
    · exact .inl ⟨expiry,kept,long⟩
    · right
      show pass.timestamp + maxEnvelopeAge + slack < r.markNow
      omega
  · right
    show pass.timestamp + maxEnvelopeAge + slack < r.markNow
    omega

theorem check_sound (s : Server) (log : List Pass) (envelope : Envelope) (timestamp stampedAt : Int) (r : Readings) (nonce : String)
    (follows : r.follow s.clock) (sound : Sound s log) (timely : Timely s (.stamped envelope timestamp stampedAt))
    (passed : (validateEnvelopeNonce envelope s.nonces r).2 = .ok (some nonce)) :
    Sound ⟨r.markNow,(validateEnvelopeNonce envelope s.nonces r).1⟩ (log ++ [⟨timestamp,nonce,stampedAt,r.checkNow⟩]) := by
  obtain ⟨start,order,finish⟩ := follows
  obtain ⟨arrived,young,near⟩ := timely
  obtain ⟨marked,unused⟩ := validateEnvelopeNonce_passed envelope s.nonces r nonce order passed
  refine ⟨?_,late_append log _ sound.2 ?_⟩
  · intro pass member
    rcases List.mem_append.mp member with old | new
    · exact check_remembers s envelope r pass ⟨start,order,finish⟩ (sound.1 pass old)
    · cases List.mem_singleton.mp new
      refine .inl ⟨r.markNow + nonceTtl,marked,?_⟩
      simp only [slack]
      omega
  · rintro first member ⟨sameTime,sameNonce⟩
    show stampedAt + slack < r.checkNow
    simp only at sameTime sameNonce
    rcases sound.1 first member with ⟨expiry,stored,long⟩ | elapsed
    · have expired := unused expiry (by rw [← sameNonce]; exact stored)
      omega
    · omega

theorem proceed_sound (s next : Server) (log : List Pass) (task task' : Task) (input : Input) (passes : List Pass)
    (sound : Sound s log) (timely : Timely s task) (stepped : advance s task input = some (next,task',passes)) :
    Sound next (log ++ passes) ∧ Timely next task' ∧ s.clock ≤ next.clock := by
  unfold advance at stepped
  split at stepped
  · split at stepped
    · rename_i later
      have waited (clock : Int) (later : s.clock ≤ clock) : Sound {s with clock := clock} log :=
        ⟨fun pass member => remembered_later s clock pass later (sound.1 pass member),sound.2⟩
      split at stepped
      · cases stepped
        exact ⟨by simpa using waited _ later,trivial,later⟩
      · rename_i timestamp valid
        cases stepped
        have bounds := validateEnvelopeTimestamp_ok _ _ _ valid
        exact ⟨by simpa using waited _ later,⟨le_rfl,bounds⟩,later⟩
    · cases stepped
  · rename_i envelope timestamp stampedAt r
    split at stepped
    · rename_i follows
      have later : s.clock ≤ r.markNow := by
        obtain ⟨start,order,finish⟩ := follows
        omega
      have kept : Sound ⟨r.markNow,(validateEnvelopeNonce envelope s.nonces r).1⟩ log :=
        ⟨fun pass member => check_remembers s envelope r pass follows (sound.1 pass member),sound.2⟩
      split at stepped
      · rename_i checked
        cases stepped
        rw [checked] at kept
        exact ⟨by simpa using kept,trivial,later⟩
      · rename_i checked
        cases stepped
        rw [checked] at kept
        exact ⟨by simpa using kept,trivial,later⟩
      · rename_i nonces nonce checked
        cases stepped
        have passed := check_sound s log envelope timestamp stampedAt r nonce follows sound timely (by rw [checked])
        rw [checked] at passed
        exact ⟨passed,trivial,later⟩
    · cases stepped
  · cases stepped

theorem run_holds {allowed : State → Move Task Input → Prop} {m final : State} {moves : List (Move Task Input)}
    (run : Runs program.next allowed m moves final) (start : Holds Sound Timely m) : Holds Sound Timely final := by
  refine program.interleaved allowed Sound Timely ?_ ?_ _ final moves run start
  · intro s task arrives
    cases task with
    | received => trivial
    | stamped | rejectedStamp | rejectedNonce | passed => cases arrives
  · intro m id input task next task' passes holds _ known stepped
    obtain ⟨sound,timely,later⟩ := proceed_sound m.store next m.log task task' input passes holds.1 (holds.2 id task known) stepped
    exact ⟨sound,timely,fun other waiting _ standing => timely_later m.store next waiting later (holds.2 other waiting standing)⟩

def Pass.envelope (pass : Pass) : Int × String := (pass.timestamp,pass.nonce)

-- In every interleaving and for every choice of the cleanups an envelope passes at most
-- once, as long as each nonce check compares within the slack of its age check.
theorem envelope_passes_once (start : Server) (moves : List (Move Task Input)) (final : State)
    (run : Runs program.next (fun _ _ => True) (Machine.init start) moves final)
    (prompt : ∀ pass ∈ final.log, pass.readAt ≤ pass.stampedAt + slack) : (final.log.map Pass.envelope).Nodup := by
  have holds : Holds Sound Timely final :=
    run_holds run ⟨⟨(fun pass member => by cases member),List.Pairwise.nil⟩,by simp [Machine.init]⟩
  apply List.pairwise_map.mpr
  apply holds.1.2.imp_of_mem
  intro first second _ member late same
  have elapsed := late ⟨congrArg Prod.fst same,congrArg Prod.snd same⟩
  exact absurd (prompt second member) (not_le.mpr elapsed)

theorem request_date : 1 ≤ 2026 ∧ 2026 ≤ 9999 ∧ 1 ≤ 1 ∧ 1 ≤ 12 ∧ 1 ≤ 2 ∧ 2 ≤ daysInMonth 2026 1 := by decide
theorem request_time : 3 < 24 ∧ 4 < 60 ∧ 5 < 60 ∧ 0 < 1000000 := by decide
theorem request_offset : ∀ delta ∈ some (0 : Int), -86400000000 < delta ∧ delta < 86400000000 := by decide

def request : Envelope where
  id := "01KDWZ0000000000000000000A"
  timestamp := some ⟨2026,1,2,3,4,5,0,some 0,request_date,request_time,request_offset⟩
  extensions := some ⟨[("nonce",.str "unique-nonce-123")],by simp⟩

-- The instant of that timestamp.
def sentAt : Int := 63902919845000000

def checkAt (instant : Int) : Input := .check ⟨false,instant,instant,instant⟩

-- The copy passes the age check at the last moment, then the process stands still until
-- the nonce has expired.
def pausedMoves : List (Move Task Input) :=
  [.arrive 0 (.received request),.proceed 0 (.stamp sentAt),.proceed 0 (checkAt sentAt),
    .arrive 1 (.received request),.proceed 1 (.stamp (sentAt + 300000000)),.proceed 1 (checkAt (sentAt + 600000001))]

def server : Server := ⟨sentAt,.empty⟩

theorem paused_log : (execute program.next anyMove (Machine.init server) pausedMoves).map Machine.log =
    some [⟨sentAt,"unique-nonce-123",sentAt,sentAt⟩,
      ⟨sentAt,"unique-nonce-123",sentAt + 300000000,sentAt + 600000001⟩] := by
  decide +kernel

theorem envelope_passes_again :
    ∃ final, Runs program.next (fun _ _ => True) (Machine.init server) pausedMoves final ∧
      ¬ (final.log.map Pass.envelope).Nodup := by
  obtain ⟨final,ran,log⟩ := Option.map_eq_some_iff.mp paused_log
  refine ⟨final,execute_free ran,?_⟩
  rw [log]
  decide

-- With the comparison 270 seconds after the age check the copy is refused.
def promptMoves : List (Move Task Input) :=
  [.arrive 0 (.received request),.proceed 0 (.stamp sentAt),.proceed 0 (checkAt sentAt),
    .arrive 1 (.received request),.proceed 1 (.stamp (sentAt + 300000000)),.proceed 1 (checkAt (sentAt + 570000000))]

theorem prompt_log : (execute program.next anyMove (Machine.init server) promptMoves).map Machine.log =
    some [⟨sentAt,"unique-nonce-123",sentAt,sentAt⟩] := by
  decide +kernel

theorem envelope_passes_once_prompt :
    ∃ final, Runs program.next (fun _ _ => True) (Machine.init server) promptMoves final ∧
      (final.log.map Pass.envelope).Nodup := by
  obtain ⟨final,ran,log⟩ := Option.map_eq_some_iff.mp prompt_log
  have run := execute_free ran
  exact ⟨final,run,envelope_passes_once server promptMoves final run (by rw [log]; decide)⟩

end Asap.EnvelopeValidators
