import Mathlib.Algebra.Order.Field.Basic
import Mathlib.Tactic.Linarith
import Mathlib.Tactic.NormNum
import Mathlib.Tactic.Ring

-- `WebSocketTokenBucket` and `_URLTokenBucket`, over an ordered field in place of the floats.
namespace Asap.TokenBucket

structure Bucket (K : Type) [Field K] [LinearOrder K] where
  rate : K
  capacity : K
  tokens : K
  lastRefill : K
  positive : 0 < rate

variable {K : Type} [Field K] [LinearOrder K]

-- `none` is the ValueError of a rate that is not positive.
def create (rate : K) (capacity : Option K) (now : K) : Option (Bucket K) :=
  if refused : rate ≤ 0 then none else some ⟨rate,capacity.getD rate,capacity.getD rate,now,not_le.mp refused⟩

def refill (b : Bucket K) (now : K) : Bucket K :=
  {b with tokens := min b.capacity (b.tokens + (now - b.lastRefill) * b.rate),lastRefill := now}

-- What both `consume`s do once they have refilled.
def take (b : Bucket K) (n : K) : Bucket K × Bool := if n ≤ b.tokens then ({b with tokens := b.tokens - n},true) else (b,false)

namespace WebSocketTokenBucket

def consume (b : Bucket K) (now : K) (n : Int) : Bucket K × Bool := if n ≤ 0 then (b,true) else take (refill b now) n

end WebSocketTokenBucket

namespace UrlTokenBucket

def consume (b : Bucket K) (now : K) : Bucket K × Bool := take (refill b now) 1

def secondsUntilAvailable (b : Bucket K) (now : K) : Bucket K × K :=
  let b := refill b now
  (b,if 1 ≤ b.tokens then 0 else (1 - b.tokens) / b.rate)

end UrlTokenBucket

inductive Call (K : Type) where
  | consumeMessages (now : K) (n : Int)
  | consumeDelivery (now : K)
  | secondsUntilAvailable (now : K)

def Call.now : Call K → K
  | .consumeMessages now _ | .consumeDelivery now | .secondsUntilAvailable now => now

-- The bucket after a call, and whether the call took tokens.
def step (b : Bucket K) : Call K → Bucket K × Bool
  | .consumeMessages now n => ((WebSocketTokenBucket.consume b now n).1,decide (0 < n) && (WebSocketTokenBucket.consume b now n).2)
  | .consumeDelivery now => UrlTokenBucket.consume b now
  | .secondsUntilAvailable now => ((UrlTokenBucket.secondsUntilAvailable b now).1,false)

def after (b : Bucket K) : List (Call K) → Bucket K
  | [] => b
  | call :: rest => after (step b call).1 rest

-- The clock does not go back from call to call; it ends where the last call read it.
def Timely (clock : K) : List (Call K) → Prop
  | [] => True
  | call :: rest => clock ≤ call.now ∧ Timely call.now rest

def lastReading (clock : K) : List (Call K) → K
  | [] => clock
  | call :: rest => lastReading call.now rest

-- The successful consumes from one time to another.
def successes (first last : K) (b : Bucket K) : List (Call K) → Nat
  | [] => 0
  | call :: rest => (if (step b call).2 = true ∧ first ≤ call.now ∧ call.now ≤ last then 1 else 0) + successes first last (step b call).1 rest

-- `_wait_for_rate_limit`: of every round, how long after `consume` the clock is read again and
-- how much longer than advertised the sleep takes. `none` where the rounds run out.
def waitForRateLimit (b : Bucket K) (now : K) : List (K × K) → Option (Bucket K × K)
  | [] => none
  | (pause,late) :: rounds =>
    let consumed := UrlTokenBucket.consume b now
    if consumed.2 then some (consumed.1,now)
    else
      let wait := UrlTokenBucket.secondsUntilAvailable consumed.1 (now + pause)
      waitForRateLimit wait.1 (now + pause + wait.2 + late) rounds

theorem create_spec {rate : K} {capacity : Option K} {now : K} {b : Bucket K} (created : create rate capacity now = some b) :
    0 < rate ∧ b.rate = rate ∧ b.capacity = capacity.getD rate ∧ b.tokens = b.capacity ∧ b.lastRefill = now := by
  unfold create at created
  split at created
  · cases created
  · rename_i accepted
    cases created
    exact ⟨not_le.mp accepted,rfl,rfl,rfl,rfl⟩

section Room
variable {b : Bucket K}

theorem consume_took (now : K) : (UrlTokenBucket.consume b now).2 = true ↔ 1 ≤ (refill b now).tokens := by
  unfold UrlTokenBucket.consume take
  split
  · rename_i enough
    simp [enough]
  · rename_i short
    simp [short]

-- With less room than a token no delivery is ever let through.
theorem small_never (small : b.capacity < 1) (now : K) : UrlTokenBucket.consume b now = (refill b now,false) := by
  have short : ¬ 1 ≤ (refill b now).tokens := not_le.mpr ((min_le_left _ _).trans_lt small)
  unfold UrlTokenBucket.consume take
  rw [if_neg short]

theorem small_waits (small : b.capacity < 1) (now : K) (rounds : List (K × K)) : waitForRateLimit b now rounds = none := by
  induction rounds generalizing b now with
  | nil => rfl
  | cons round rounds ih =>
    rw [waitForRateLimit]
    simp only [small_never small,Bool.false_eq_true,if_false]
    apply ih
    exact small
end Room

theorem successes_late {b : Bucket K} {clock : K} {calls : List (Call K)} (first last : K) (late : last < clock) (timely : Timely clock calls) : successes first last b calls = 0 := by
  induction calls generalizing b clock with
  | nil => rfl
  | cons call rest ih =>
    have later : last < call.now := late.trans_le timely.1
    have outside : ¬ ((step b call).2 = true ∧ first ≤ call.now ∧ call.now ≤ last) := fun inside => not_le.mpr later inside.2.2
    rw [successes,if_neg outside,ih later timely.2]

section Steps
variable [IsStrictOrderedRing K] {b : Bucket K}

structure Sound (b : Bucket K) : Prop where
  nonnegative : 0 ≤ b.tokens
  capped : b.tokens ≤ b.capacity

-- What any call can do: refill for the time that passed, and take a token or more.
structure Stepped (b next : Bucket K) (now : K) (took : Bool) : Prop where
  rate : next.rate = b.rate
  capacity : next.capacity = b.capacity
  sound : Sound next
  forward : b.lastRefill ≤ next.lastRefill
  reading : next.lastRefill ≤ now
  current : took = true → next.lastRefill = now
  paid : next.tokens + (if took then 1 else 0) ≤ b.tokens + (next.lastRefill - b.lastRefill) * b.rate
  burst : next.tokens + (if took then 1 else 0) ≤ b.capacity

theorem refill_sound (sound : Sound b) {now : K} (forward : b.lastRefill ≤ now) : Sound (refill b now) := by
  have earned := mul_nonneg (sub_nonneg.mpr forward) b.positive.le
  exact ⟨le_min (sound.nonnegative.trans sound.capped) (by have := sound.nonnegative; linarith),min_le_left _ _⟩

theorem refill_stepped (sound : Sound b) {now : K} (forward : b.lastRefill ≤ now) : Stepped b (refill b now) now false where
  rate := rfl
  capacity := rfl
  sound := refill_sound sound forward
  forward := forward
  reading := le_refl _
  current := by simp
  paid := by
    simp only [Bool.false_eq_true,if_false,add_zero]
    exact min_le_right _ _
  burst := by
    simp only [Bool.false_eq_true,if_false,add_zero]
    exact min_le_left _ _

theorem take_stepped (sound : Sound b) {now n : K} (forward : b.lastRefill ≤ now) (least : 1 ≤ n) :
    Stepped b (take (refill b now) n).1 now (take (refill b now) n).2 := by
  have filled := refill_stepped sound forward
  unfold take
  by_cases enough : n ≤ (refill b now).tokens
  · rw [if_pos enough]
    have paid := filled.paid
    have burst := filled.burst
    simp only [Bool.false_eq_true,if_false,add_zero] at paid burst
    refine ⟨rfl,rfl,⟨sub_nonneg.mpr enough,?_⟩,forward,le_refl _,fun _ => rfl,?_,?_⟩
    · have capped := filled.sound.capped
      change (refill b now).tokens - n ≤ (refill b now).capacity
      linarith
    · change (refill b now).tokens - n + 1 ≤ _
      linarith
    · change (refill b now).tokens - n + 1 ≤ _
      linarith
  · rw [if_neg enough]
    exact filled

theorem step_stepped (sound : Sound b) (call : Call K) (forward : b.lastRefill ≤ call.now) :
    Stepped b (step b call).1 call.now (step b call).2 := by
  cases call with
  | consumeMessages now n =>
    by_cases none : n ≤ 0
    · have idle : step b (.consumeMessages now n) = (b,false) := by
        simp [step,WebSocketTokenBucket.consume,none]
      rw [idle]
      refine ⟨rfl,rfl,sound,le_refl _,forward,by simp,?_,?_⟩
      · simp
      · simpa using sound.capped
    · have some : step b (.consumeMessages now n) = take (refill b now) n := by
        simp [step,WebSocketTokenBucket.consume,none,not_le.mp none]
      rw [some]
      exact take_stepped sound forward (by exact_mod_cast not_le.mp none)
  | consumeDelivery now => exact take_stepped sound forward (le_refl _)
  | secondsUntilAvailable now => exact refill_stepped sound forward
end Steps

section Runs
variable [IsStrictOrderedRing K] {b : Bucket K} {clock : K} {calls : List (Call K)}

-- What the calls of a run keep.
structure Ran (b ended : Bucket K) (reading : K) : Prop where
  rate : ended.rate = b.rate
  capacity : ended.capacity = b.capacity
  sound : Sound ended
  refilled : ended.lastRefill ≤ reading

theorem run_keeps (sound : Sound b) (refilled : b.lastRefill ≤ clock) (timely : Timely clock calls) :
    Ran b (after b calls) (lastReading clock calls) := by
  induction calls generalizing b clock with
  | nil => exact ⟨rfl,rfl,sound,refilled⟩
  | cons call rest ih =>
    have stepped := step_stepped sound call (refilled.trans timely.1)
    have ran := ih stepped.sound stepped.reading timely.2
    exact ⟨ran.rate.trans stepped.rate,ran.capacity.trans stepped.capacity,ran.sound,ran.refilled⟩

-- From a state on, successes up to a time are paid with the tokens there are and those earned until then.
theorem successes_paid (first last : K) (sound : Sound b) (refilled : b.lastRefill ≤ clock) (timely : Timely clock calls)
    (before : b.lastRefill ≤ last) : (successes first last b calls : K) ≤ b.tokens + (last - b.lastRefill) * b.rate := by
  induction calls generalizing b clock with
  | nil =>
    have earned := mul_nonneg (sub_nonneg.mpr before) b.positive.le
    have nonnegative := sound.nonnegative
    simp only [successes,Nat.cast_zero]
    linarith
  | cons call rest ih =>
    have stepped := step_stepped sound call (refilled.trans timely.1)
    rcases le_or_gt call.now last with inside | later
    · have rest := ih stepped.sound stepped.reading timely.2 (stepped.reading.trans inside)
      have paid := stepped.paid
      rw [stepped.rate] at rest
      have one : ((if (step b call).2 = true ∧ first ≤ call.now ∧ call.now ≤ last then 1 else 0 : Nat) : K) ≤
          if (step b call).2 then 1 else 0 := by
        cases (step b call).2 with
        | false => simp
        | true =>
          simp only [true_and,if_true]
          split <;> simp
      have split : (last - b.lastRefill) * b.rate = (last - (step b call).1.lastRefill) * b.rate + ((step b call).1.lastRefill - b.lastRefill) * b.rate := by
        ring
      rw [successes,Nat.cast_add]
      linarith
    · have outside : ¬ ((step b call).2 = true ∧ first ≤ call.now ∧ call.now ≤ last) := fun inside => not_le.mpr later inside.2.2
      rw [successes,if_neg outside,successes_late first last later timely.2]
      have earned := mul_nonneg (sub_nonneg.mpr before) b.positive.le
      have nonnegative := sound.nonnegative
      simp only [Nat.add_zero,Nat.cast_zero]
      linarith

-- The first success of an interval leaves less than the capacity; the others are paid as above.
theorem successes_bounded (first last : K) (ordered : first ≤ last) (sound : Sound b) (refilled : b.lastRefill ≤ clock)
    (timely : Timely clock calls) : (successes first last b calls : K) ≤ b.capacity + b.rate * (last - first) := by
  induction calls generalizing b clock with
  | nil =>
    have earned := mul_nonneg b.positive.le (sub_nonneg.mpr ordered)
    have capacity := sound.nonnegative.trans sound.capped
    simp only [successes,Nat.cast_zero]
    linarith
  | cons call rest ih =>
    have stepped := step_stepped sound call (refilled.trans timely.1)
    rw [successes]
    split
    · rename_i counted
      obtain ⟨took,started,inside⟩ := counted
      have current := stepped.current took
      have burst := stepped.burst
      have rest := successes_paid first last stepped.sound stepped.reading timely.2 (stepped.reading.trans inside)
      rw [current,stepped.rate] at rest
      rw [took] at burst
      have earned := mul_le_mul_of_nonneg_right (sub_le_sub_left started last) b.positive.le
      simp only [if_true] at burst
      rw [Nat.cast_add,Nat.cast_one]
      linarith
    · have rest := ih stepped.sound stepped.reading timely.2
      rw [stepped.capacity,stepped.rate] at rest
      simpa using rest
end Runs

section Progress
variable [IsStrictOrderedRing K] {b : Bucket K}

theorem advertised_succeeds (sound : Sound b) {now later : K} (refilled : b.lastRefill ≤ now) (room : 1 ≤ b.capacity)
    (waited : now + (UrlTokenBucket.secondsUntilAvailable b now).2 ≤ later) :
    (UrlTokenBucket.consume (UrlTokenBucket.secondsUntilAvailable b now).1 later).2 = true := by
  rw [consume_took]
  have ready := refill_sound sound refilled
  refine le_min room ?_
  change 1 ≤ (refill b now).tokens + (later - now) * b.rate
  unfold UrlTokenBucket.secondsUntilAvailable at waited
  simp only at waited
  split at waited
  · rename_i enough
    have earned := mul_nonneg (sub_nonneg.mpr (by simpa using waited)) b.positive.le
    linarith
  · have missing : (1 - (refill b now).tokens) / b.rate ≤ later - now := by
      change now + (1 - (refill b now).tokens) / b.rate ≤ later at waited
      linarith
    have earned := (div_le_iff₀ b.positive).mp missing
    linarith

theorem seconds_nonnegative (now : K) : 0 ≤ (UrlTokenBucket.secondsUntilAvailable b now).2 := by
  unfold UrlTokenBucket.secondsUntilAvailable
  simp only
  split
  · exact le_refl _
  · rename_i short
    exact div_nonneg (sub_nonneg.mpr (not_le.mp short).le) b.positive.le

-- A wait that ends keeps what the calls of a run keep.
theorem wait_keeps (sound : Sound b) {now : K} (refilled : b.lastRefill ≤ now) {rounds : List (K × K)}
    (delays : ∀ round ∈ rounds, 0 ≤ round.1 ∧ 0 ≤ round.2) (ended : waitForRateLimit b now rounds = some (next,time)) :
    Ran b next time := by
  induction rounds generalizing b now with
  | nil => cases ended
  | cons round rounds ih =>
    have stepped := take_stepped sound refilled (le_refl (1 : K))
    rw [waitForRateLimit] at ended
    simp only at ended
    split at ended
    · simp only [Option.some.injEq,Prod.mk.injEq] at ended
      obtain ⟨rfl,rfl⟩ := ended
      exact ⟨stepped.rate,stepped.capacity,stepped.sound,stepped.reading⟩
    · obtain ⟨pause,late⟩ := delays round List.mem_cons_self
      have paused : (UrlTokenBucket.consume b now).1.lastRefill ≤ now + round.1 := stepped.reading.trans (le_add_of_nonneg_right pause)
      have waited := seconds_nonnegative (b := (UrlTokenBucket.consume b now).1) (now + round.1)
      have ran := ih (refill_sound stepped.sound paused) (show now + round.1 ≤ _ by linarith)
        (fun other member => delays other (List.mem_cons_of_mem _ member)) ended
      exact ⟨ran.rate.trans stepped.rate,ran.capacity.trans stepped.capacity,ran.sound,ran.refilled⟩

theorem wait_forward {now : K} {rounds : List (K × K)} (delays : ∀ round ∈ rounds, 0 ≤ round.1 ∧ 0 ≤ round.2)
    (ended : waitForRateLimit b now rounds = some (next,time)) : now ≤ time := by
  induction rounds generalizing b now with
  | nil => cases ended
  | cons round rounds ih =>
    rw [waitForRateLimit] at ended
    simp only at ended
    split at ended
    · simp only [Option.some.injEq,Prod.mk.injEq] at ended
      exact ended.2.le
    · obtain ⟨pause,late⟩ := delays round List.mem_cons_self
      have waited := seconds_nonnegative (b := (UrlTokenBucket.consume b now).1) (now + round.1)
      have later := ih (fun other member => delays other (List.mem_cons_of_mem _ member)) ended
      linarith

-- The second `consume` succeeds at the latest.
theorem wait_ends (sound : Sound b) {now : K} (refilled : b.lastRefill ≤ now) (room : 1 ≤ b.capacity) (first second : K × K)
    (rounds : List (K × K)) (paused : 0 ≤ first.1) (late : 0 ≤ first.2) :
    (waitForRateLimit b now (first :: second :: rounds)).isSome = true := by
  rw [waitForRateLimit]
  cases took : (UrlTokenBucket.consume b now).2 with
  | true => simp
  | false =>
    have waiting : (UrlTokenBucket.consume b now).1 = refill b now := by
      have short : ¬ 1 ≤ (refill b now).tokens := fun enough => by
        rw [(consume_took now).mpr enough] at took
        cases took
      unfold UrlTokenBucket.consume take
      rw [if_neg short]
    have next : (UrlTokenBucket.consume (UrlTokenBucket.secondsUntilAvailable (refill b now) (now + first.1)).1
        (now + first.1 + (UrlTokenBucket.secondsUntilAvailable (refill b now) (now + first.1)).2 + first.2)).2 = true :=
      advertised_succeeds (refill_sound sound refilled) (le_add_of_nonneg_right paused) room (le_add_of_nonneg_right late)
    simp only [waiting,Bool.false_eq_true,if_false]
    rw [waitForRateLimit]
    simp only [next,if_true,Option.isSome_some]
end Progress

-- The bounds of every run, and what waiting for a token brings in every state of a run.
structure Honest [IsStrictOrderedRing K] (b : Bucket K) (start : K) : Prop where
  bounded : ∀ calls, Timely start calls → 0 ≤ (after b calls).tokens ∧ (after b calls).tokens ≤ b.capacity
  counted : ∀ calls, Timely start calls → ∀ first last, first ≤ last → (successes first last b calls : K) ≤ b.capacity + b.rate * (last - first)
  advertised : ∀ calls, Timely start calls → ∀ now, lastReading start calls ≤ now →
    ∀ later, now + (UrlTokenBucket.secondsUntilAvailable (after b calls) now).2 ≤ later →
      (UrlTokenBucket.consume (UrlTokenBucket.secondsUntilAvailable (after b calls) now).1 later).2 = true
  ends : ∀ calls, Timely start calls → ∀ now, lastReading start calls ≤ now → ∀ rounds : List (K × K), 2 ≤ rounds.length →
    (∀ round ∈ rounds, 0 ≤ round.1 ∧ 0 ≤ round.2) → (waitForRateLimit (after b calls) now rounds).isSome = true

theorem honest_room [IsStrictOrderedRing K] {b : Bucket K} {start : K} (honest : Honest b start) : 1 ≤ b.capacity := by
  by_contra short
  have took := honest.advertised [] trivial start (le_refl _) _ (le_refl _)
  rw [small_never (b := (UrlTokenBucket.secondsUntilAvailable (after b []) start).1) (not_le.mp short)] at took
  cases took

theorem token_bucket_honest_iff [IsStrictOrderedRing K] (rate : K) (capacity : Option K) (start : K) (b : Bucket K)
    (created : create rate capacity start = some b) : Honest b start ↔ 1 ≤ capacity.getD rate := by
  obtain ⟨_,_,room,full,fresh⟩ := create_spec created
  rw [← room]
  refine ⟨honest_room,fun room => ?_⟩
  have sound : Sound b := by
    rw [← full] at room
    exact ⟨zero_le_one.trans room,full.le⟩
  refine ⟨fun calls timely => ?_,fun calls timely first last ordered => ?_,fun calls timely now read later waited => ?_,
    fun calls timely now read rounds two delays => ?_⟩
  · have ran := run_keeps sound fresh.le timely
    exact ⟨ran.sound.nonnegative,ran.capacity ▸ ran.sound.capped⟩
  · exact successes_bounded first last ordered sound fresh.le timely
  · have ran := run_keeps sound fresh.le timely
    exact advertised_succeeds ran.sound (ran.refilled.trans read) (ran.capacity ▸ room) waited
  · have ran := run_keeps sound fresh.le timely
    match rounds,two,delays with
    | first :: second :: rounds,_,delays =>
      have nonnegative := delays first List.mem_cons_self
      exact wait_ends ran.sound (ran.refilled.trans read) (ran.capacity ▸ room) first second rounds nonnegative.1 nonnegative.2

theorem token_bucket_honest_iff_two : create (2 : Rat) none 0 = some ⟨2,2,2,0,by decide⟩ ∧ Honest (⟨2,2,2,0,by decide⟩ : Bucket Rat) 0 :=
  have created : create (2 : Rat) none 0 = some ⟨2,2,2,0,by decide⟩ := rfl
  ⟨created,(token_bucket_honest_iff 2 none 0 _ created).mpr (by decide)⟩

def halfPerSecond : Bucket Rat := ⟨1 / 2,1 / 2,1 / 2,0,by norm_num⟩

-- One delivery in two seconds: the wait for a token never ends.
theorem half_rate_waits : create (1 / 2 : Rat) none 0 = some halfPerSecond ∧ ¬ Honest halfPerSecond 0 ∧
    ∀ rounds, waitForRateLimit halfPerSecond 0 rounds = none := by
  have small : halfPerSecond.capacity < 1 := by norm_num [halfPerSecond]
  refine ⟨?_,fun honest => absurd (honest_room honest) (not_le.mpr small),small_waits small 0⟩
  unfold create
  rw [dif_neg (by norm_num)]
  rfl

end Asap.TokenBucket
