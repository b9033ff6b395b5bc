import Mathlib.Algebra.Order.Ring.Rat
import Mathlib.Data.List.Nodup

-- `ASAPRateLimiter`, over the moving windows of the limits package.
namespace Asap.RateLimiter

-- What the package promises of one limit and one key: the window of a counter holds the hits of the
-- last `expiry` seconds, `test` says whether so many more fit, and `hit` enters them if they do.
structure MovingWindow (RateLimitItem Storage : Type) where
  parseMany : String → Option (List RateLimitItem)
  str : RateLimitItem → String
  amount : RateLimitItem → Nat
  expiry : RateLimitItem → Rat
  counter : RateLimitItem → String → String
  hits : Storage → String → List Rat
  test : Storage → RateLimitItem → String → Nat → Rat → Bool
  hit : Storage → RateLimitItem → String → Nat → Rat → Bool × Storage
  resetTime : Storage → RateLimitItem → String → Rat → Rat
  test_room : ∀ s item key cost now, test s item key cost now = true ↔
    (hits s (counter item key)).countP (fun time => decide (now - expiry item ≤ time)) + cost ≤ amount item
  hit_room : ∀ s item key cost now,
    (hits s (counter item key)).countP (fun time => decide (now - expiry item ≤ time)) + cost ≤ amount item →
    (hit s item key cost now).1 = true ∧ ∀ other, hits (hit s item key cost now).2 other =
      (if counter item key = other then List.replicate cost now else []) ++ hits s other
  hit_full : ∀ s item key cost now,
    ¬ (hits s (counter item key)).countP (fun time => decide (now - expiry item ≤ time)) + cost ≤ amount item →
    (hit s item key cost now).1 = false ∧ ∀ other, hits (hit s item key cost now).2 other = hits s other

structure RateLimitExceeded where
  detail : String
  retryAfter : Int := 60
  limit : String := ""
  deriving DecidableEq

def defaultRateLimit : String := "10/second;100/minute"

variable {RateLimitItem Storage : Type} (window : MovingWindow RateLimitItem Storage)

-- `none` is the ValueError of a limit that is none.
def rateLimits (limits : List String) : Option (List RateLimitItem) :=
  ((if limits = [] then [defaultRateLimit] else limits).mapM window.parseMany).map List.flatten

-- A configured limit with the clock as it is read for it: when it is tested, when it is hit, and for
-- the two readings of a refusal.
structure Visit (RateLimitItem : Type) where
  rateLimit : RateLimitItem
  testedAt : Rat
  hitAt : Rat
  statsAt : Rat
  refusedAt : Rat

def exceeded (s : Storage) (key : String) (visit : Visit RateLimitItem) : RateLimitExceeded where
  detail := "Rate limit exceeded: " ++ window.str visit.rateLimit
  retryAfter :=
    let seconds := window.resetTime s visit.rateLimit key visit.statsAt - visit.refusedAt
    max 1 (seconds.num.tdiv seconds.den)
  limit := window.str visit.rateLimit

def testAll (s : Storage) (key : String) (n : Nat) : List (Visit RateLimitItem) → Option RateLimitExceeded
  | [] => none
  | visit :: rest =>
    if window.test s visit.rateLimit key n visit.testedAt then testAll s key n rest else some (exceeded window s key visit)

def hitAll (s : Storage) (key : String) (n : Nat) : List (Visit RateLimitItem) → Option RateLimitExceeded × Storage
  | [] => (none,s)
  | visit :: rest =>
    match window.hit s visit.rateLimit key n visit.hitAt with
    | (true,next) => hitAll next key n rest
    | (false,next) => (some (exceeded window next key visit),next)

-- `none` is a call that returns.
def checkN (s : Storage) (key : String) (n : Int) (visits : List (Visit RateLimitItem)) : Option RateLimitExceeded × Storage :=
  if n ≤ 0 then (none,s)
  else match testAll window s key n.toNat visits with
    | some error => (some error,s)
    | none => hitAll window s key n.toNat visits

variable {window} {s : Storage} {key : String} {n : Nat} {visit : Visit RateLimitItem} {visits : List (Visit RateLimitItem)}

-- What hits of `n` on these limits enter into a counter.
def charges (window : MovingWindow RateLimitItem Storage) (key : String) (n : Nat) : List (Visit RateLimitItem) → String → List Rat
  | [],_ => []
  | visit :: rest,counter =>
    charges window key n rest counter ++ if window.counter visit.rateLimit key = counter then List.replicate n visit.hitAt else []

-- `n` hits from every configured limit and a return, or an exception and no hit.
def AllOrNothing (window : MovingWindow RateLimitItem Storage) (s : Storage) (key : String) (n : Nat)
    (visits : List (Visit RateLimitItem)) (result : Option RateLimitExceeded × Storage) : Prop :=
  (result.1 = none ∧ ∀ counter, window.hits result.2 counter = charges window key n visits counter ++ window.hits s counter) ∨
  (result.1 ≠ none ∧ ∀ counter, window.hits result.2 counter = window.hits s counter)

-- `n` more hits fit into the limit at this moment, on top of some others.
def Room (window : MovingWindow RateLimitItem Storage) (s : Storage) (key : String) (n : Nat) (visit : Visit RateLimitItem)
    (now : Rat) (others : List Rat) : Prop :=
  (others ++ window.hits s (window.counter visit.rateLimit key)).countP (fun time => decide (now - window.expiry visit.rateLimit ≤ time)) +
    n ≤ window.amount visit.rateLimit

-- Each limit has room for its hits on top of those on the same counter before it.
def Fits (window : MovingWindow RateLimitItem Storage) (s : Storage) (key : String) (n : Nat) (visits : List (Visit RateLimitItem)) : Prop :=
  ∀ before visit after, visits = before ++ visit :: after →
    Room window s key n visit visit.hitAt (charges window key n before (window.counter visit.rateLimit key))

-- A limit has no room when it is tested, or the first one none when it is hit.
def Refused (window : MovingWindow RateLimitItem Storage) (s : Storage) (key : String) (n : Nat) (visits : List (Visit RateLimitItem)) : Prop :=
  (∃ visit ∈ visits, ¬ Room window s key n visit visit.testedAt []) ∨
  ∃ visit rest, visits = visit :: rest ∧ ¬ Room window s key n visit visit.hitAt []

theorem testAll_refuses : testAll window s key n visits ≠ none ↔ ∃ visit ∈ visits, ¬ Room window s key n visit visit.testedAt [] := by
  induction visits with
  | nil => simp [testAll]
  | cons visit rest ih =>
    have room := window.test_room s visit.rateLimit key n visit.testedAt
    unfold testAll
    simp only [List.exists_mem_cons_iff]
    split
    · rename_i passes
      rw [ih]
      constructor
      · exact fun refused => .inr refused
      · rintro (full | refused)
        · exact absurd (room.mp passes) full
        · exact refused
    · rename_i fails
      exact ⟨fun _ => .inl (fun fits => fails (room.mpr fits)),fun _ => by simp⟩

-- After a hit the room that is left is the room on top of it.
theorem room_entered {first : Visit RateLimitItem} {next : Storage} {now : Rat} {before : List (Visit RateLimitItem)}
    (entered : ∀ counter, window.hits next counter =
      (if window.counter first.rateLimit key = counter then List.replicate n first.hitAt else []) ++ window.hits s counter) :
    Room window next key n visit now (charges window key n before (window.counter visit.rateLimit key)) ↔
      Room window s key n visit now (charges window key n (first :: before) (window.counter visit.rateLimit key)) := by
  unfold Room
  rw [entered,charges,List.append_assoc]

theorem fits_cons {first : Visit RateLimitItem} {rest : List (Visit RateLimitItem)} {next : Storage}
    (entered : ∀ counter, window.hits next counter =
      (if window.counter first.rateLimit key = counter then List.replicate n first.hitAt else []) ++ window.hits s counter) :
    Fits window s key n (first :: rest) ↔ Room window s key n first first.hitAt [] ∧ Fits window next key n rest := by
  constructor
  · intro fits
    refine ⟨fits [] first rest rfl,?_⟩
    intro before visit after split
    exact (room_entered entered).mpr (fits (first :: before) visit after (by rw [split]; rfl))
  · intro ⟨room,fits⟩ before visit after split
    cases before with
    | nil =>
      cases split
      exact room
    | cons other before =>
      cases split
      exact (room_entered entered).mp (fits before visit after rfl)

theorem hitAll_stops {first : Visit RateLimitItem} (rest : List (Visit RateLimitItem)) (full : ¬ Room window s key n first first.hitAt []) :
    (hitAll window s key n (first :: rest)).1 ≠ none ∧
      ∀ counter, window.hits (hitAll window s key n (first :: rest)).2 counter = window.hits s counter := by
  obtain ⟨refused,kept⟩ := window.hit_full s first.rateLimit key n first.hitAt full
  rw [hitAll]
  split
  · rename_i hit
    rw [hit] at refused
    cases refused
  · rename_i next hit
    rw [hit] at kept
    exact ⟨by simp,kept⟩

-- Either every limit is hit, or the hits stop at a limit without room and those before it stay.
theorem hitAll_cases (window : MovingWindow RateLimitItem Storage) (key : String) (visits : List (Visit RateLimitItem)) (s : Storage) :
    (Fits window s key n visits ∧ (hitAll window s key n visits).1 = none ∧
      ∀ counter, window.hits (hitAll window s key n visits).2 counter = charges window key n visits counter ++ window.hits s counter) ∨
    ∃ before visit after, visits = before ++ visit :: after ∧
      ¬ Room window s key n visit visit.hitAt (charges window key n before (window.counter visit.rateLimit key)) ∧
      (hitAll window s key n visits).1 ≠ none ∧
      ∀ counter, window.hits (hitAll window s key n visits).2 counter = charges window key n before counter ++ window.hits s counter := by
  induction visits generalizing s with
  | nil =>
    refine .inl ⟨?_,rfl,fun _ => rfl⟩
    intro before visit after split
    cases before <;> cases split
  | cons first rest ih =>
    by_cases room : Room window s key n first first.hitAt []
    · obtain ⟨taken,entered⟩ := window.hit_room s first.rateLimit key n first.hitAt room
      have goes : hitAll window s key n (first :: rest) = hitAll window (window.hit s first.rateLimit key n first.hitAt).2 key n rest := by
        rw [hitAll]
        split
        · rename_i hit
          rw [hit]
        · rename_i refused
          rw [refused] at taken
          cases taken
      rw [goes]
      rcases ih (window.hit s first.rateLimit key n first.hitAt).2 with ⟨fits,returned,all⟩ | ⟨before,visit,after,split,full,raised,some⟩
      · refine .inl ⟨(fits_cons entered).mpr ⟨room,fits⟩,returned,?_⟩
        intro counter
        rw [all,entered,charges,List.append_assoc]
      · refine .inr ⟨first :: before,visit,after,by rw [split]; rfl,fun fits => full ((room_entered entered).mpr fits),raised,?_⟩
        intro counter
        rw [some,entered,charges,List.append_assoc]
    · obtain ⟨raised,kept⟩ := hitAll_stops rest room
      exact .inr ⟨[],first,rest,rfl,room,raised,kept⟩

theorem charges_nonempty (window : MovingWindow RateLimitItem Storage) (key : String) {before : List (Visit RateLimitItem)} (positive : 0 < n) (some : before ≠ []) :
    ∃ counter, charges window key n before counter ≠ [] := by
  cases before with
  | nil => exact absurd rfl some
  | cons first rest =>
    refine ⟨window.counter first.rateLimit key,?_⟩
    simp only [charges,if_true,ne_eq,List.append_eq_nil_iff,List.replicate_eq_nil_iff]
    exact fun both => absurd both.2 (Nat.ne_of_gt positive)

theorem hitAll_iff (positive : 0 < n) : AllOrNothing window s key n visits (hitAll window s key n visits) ↔
    (∃ visit rest, visits = visit :: rest ∧ ¬ Room window s key n visit visit.hitAt []) ∨ Fits window s key n visits := by
  rcases hitAll_cases window key visits s with ⟨fits,returned,all⟩ | ⟨before,visit,after,split,full,raised,some⟩
  · exact ⟨fun _ => .inr fits,fun _ => .inl ⟨returned,all⟩⟩
  · constructor
    · rintro (⟨returned,_⟩ | ⟨_,nothing⟩)
      · exact absurd returned raised
      · by_cases first : before = []
        · rw [first] at split full
          exact .inl ⟨visit,after,split,full⟩
        · obtain ⟨counter,charged⟩ := charges_nonempty window key positive first
          exact absurd (List.append_left_eq_self.mp ((some counter).symm.trans (nothing counter))) charged
    · rintro (⟨other,rest,first,none⟩ | fits)
      · rw [first]
        exact .inr (hitAll_stops rest none)
      · exact absurd (fits before visit after split) full

theorem charges_none (visits : List (Visit RateLimitItem)) (counter : String) : charges window key 0 visits counter = [] := by
  induction visits with
  | nil => rfl
  | cons visit rest ih => simp [charges,ih]

-- All-or-nothing exactly if the limits are not even tested, if a test or the first hit refuses, or if
-- there is room for every hit on top of those before it.
theorem check_n_all_or_nothing_iff (window : MovingWindow RateLimitItem Storage) (s : Storage) (key : String) (n : Int)
    (visits : List (Visit RateLimitItem)) :
    AllOrNothing window s key n.toNat visits (checkN window s key n visits) ↔
      n ≤ 0 ∨ Refused window s key n.toNat visits ∨ Fits window s key n.toNat visits := by
  by_cases idle : n ≤ 0
  · refine ⟨fun _ => .inl idle,fun _ => .inl ?_⟩
    rw [checkN,if_pos idle,Int.toNat_of_nonpos idle]
    exact ⟨rfl,fun counter => by rw [charges_none]; rfl⟩
  · have positive : 0 < n.toNat := by omega
    rw [checkN,if_neg idle]
    simp only [idle,false_or]
    by_cases tested : testAll window s key n.toNat visits = none
    · rw [tested]
      have admitted : ¬ ∃ visit ∈ visits, ¬ Room window s key n.toNat visit visit.testedAt [] :=
        fun refused => testAll_refuses.mpr refused tested
      simp only [hitAll_iff positive,Refused,admitted,false_or]
    · have refused := testAll_refuses.mp tested
      obtain ⟨error,found⟩ := Option.ne_none_iff_exists'.mp tested
      rw [found]
      exact ⟨fun _ => .inl (.inl refused),fun _ => .inr ⟨by simp,fun _ => rfl⟩⟩

theorem charges_other {visits : List (Visit RateLimitItem)} {counter : String}
    (others : ∀ visit ∈ visits, window.counter visit.rateLimit key ≠ counter) : charges window key n visits counter = [] := by
  induction visits with
  | nil => rfl
  | cons visit rest ih =>
    rw [charges,ih (fun other member => others other (List.mem_cons_of_mem _ member)),if_neg (others visit List.mem_cons_self)]
    rfl

-- As time passes, what fitted still fits.
theorem room_later {earlier later : Rat} (order : earlier ≤ later) (room : Room window s key n visit earlier []) :
    Room window s key n visit later [] := by
  refine Nat.le_trans (Nat.add_le_add_right (List.countP_mono_left ?_) n) room
  intro time _ inside
  simp only [decide_eq_true_eq] at inside ⊢
  exact le_trans (sub_le_sub_right order _) inside

-- Limits with a counter each have room for every hit once all the tests have passed.
theorem distinct_fits (distinct : (visits.map (fun visit => window.counter visit.rateLimit key)).Nodup)
    (forward : ∀ visit ∈ visits, visit.testedAt ≤ visit.hitAt)
    (tested : ∀ visit ∈ visits, Room window s key n visit visit.testedAt []) : Fits window s key n visits := by
  intro before visit after split
  have member : visit ∈ visits := by simp [split]
  rw [split,List.map_append,List.nodup_append] at distinct
  have untouched : charges window key n before (window.counter visit.rateLimit key) = [] := by
    refine charges_other ?_
    intro other inside
    exact distinct.2.2 _ (List.mem_map_of_mem inside) _ (by simp)
  rw [untouched]
  exact room_later (forward visit member) (tested visit member)

-- A limit of the package, and its storage in the memory of the process.
structure Limit where
  amount : Nat
  multiples : Nat
  granularity : String
  seconds : Nat
  deriving DecidableEq

def used (s : String → List Rat) (counter : String) (limit : Limit) (now : Rat) : Nat :=
  (s counter).countP (fun time => decide (now - (limit.seconds * limit.multiples : Nat) ≤ time))

def Limit.counter (limit : Limit) (key : String) : String :=
  "LIMITER/" ++ key ++ "/" ++ toString limit.amount ++ "/" ++ toString limit.multiples ++ "/" ++ limit.granularity

def Limit.hit (s : String → List Rat) (limit : Limit) (key : String) (cost : Nat) (now : Rat) : Bool × (String → List Rat) :=
  if used s (limit.counter key) limit now + cost ≤ limit.amount then
    (true,fun other => (if limit.counter key = other then List.replicate cost now else []) ++ s other)
  else (false,s)

def tenPerSecond : Limit := ⟨10,1,"second",1⟩

def memory : MovingWindow Limit (String → List Rat) where
  parseMany text := if text = "10/second" then some [tenPerSecond] else none
  str limit := toString limit.amount ++ " per " ++ toString limit.multiples ++ " " ++ limit.granularity
  amount := Limit.amount
  expiry limit := (limit.seconds * limit.multiples : Nat)
  counter := Limit.counter
  hits s := s
  test s limit key cost now := decide (used s (limit.counter key) limit now + cost ≤ limit.amount)
  hit := Limit.hit
  resetTime _ limit _ now := now + (limit.seconds * limit.multiples : Nat)
  test_room s limit key cost now := by simp [used]
  hit_room s limit key cost now room := by
    have fits : used s (limit.counter key) limit now + cost ≤ limit.amount := room
    rw [Limit.hit,if_pos fits]
    exact ⟨rfl,fun _ => rfl⟩
  hit_full s limit key cost now full := by
    have overrun : ¬ used s (limit.counter key) limit now + cost ≤ limit.amount := full
    rw [Limit.hit,if_neg overrun]
    exact ⟨rfl,fun _ => rfl⟩

def visitAt (limit : Limit) (now : Rat) : Visit Limit := ⟨limit,now,now,now,now⟩

def listedTwice : List (Visit Limit) := [visitAt tenPerSecond 1700000000,visitAt tenPerSecond 1700000000]

-- One limit given twice has one counter: the second hit is refused when the first is already counted.
theorem listed_twice_counted : rateLimits memory ["10/second","10/second"] = some (listedTwice.map Visit.rateLimit) ∧
    ¬ AllOrNothing memory (fun _ => []) "203.0.113.7" 6 listedTwice (checkN memory (fun _ => []) "203.0.113.7" 6 listedTwice) := by
  refine ⟨by decide +kernel,?_⟩
  have raised : (checkN memory (fun _ => []) "203.0.113.7" 6 listedTwice).1.isSome = true := by decide +kernel
  have counted : (memory.hits (checkN memory (fun _ => []) "203.0.113.7" 6 listedTwice).2 (tenPerSecond.counter "203.0.113.7")).length = 6 := by
    decide +kernel
  rintro (⟨returned,_⟩ | ⟨_,nothing⟩)
  · rw [returned] at raised
    cases raised
  · rw [nothing] at counted
    cases counted

end Asap.RateLimiter
