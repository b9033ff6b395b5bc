import Asap.Manifests
import Asap.Rounding
import Asap.Sla
import Mathlib.Data.List.TakeWhile

-- The breach conditions of an SLA: percentages as they are accepted and as they are parsed.
namespace Asap.SlaConditions
open PythonValue Manifests Rounding Sla

inductive BreachType where
  | availability
  | latency
  | errorRate
  deriving DecidableEq

inductive Severity where
  | warning
  | critical
  deriving DecidableEq

structure BreachConditionResult where
  breachType : BreachType
  threshold : String
  actual : String
  severity : Severity
  deriving DecidableEq

-- An int that is no float, and one of too many digits for `str`.
inductive Failure where
  | overflow
  | tooManyDigits
  deriving DecidableEq

def availabilityCriticalBelowPercent : Rat := 95
def errorRateCriticalPercent : Rat := 5
def errorRateCriticalMultiplier : Rat := 2

-- What Python's floats and digits are: the value of a digit, the nearest float and the text of a float.
structure Numbers where
  digit : Char → Nat
  float : Rat → Rat
  text : Rat → String

section Conditions
variable (rules : Rules) (numbers : Numbers)

def unsigned : List Char → List Char
  | '-' :: rest => rest
  | rest => rest

def withoutPercent : List Char → List Char
  | '%' :: rest => rest.dropWhile isSpace
  | rest => rest

-- The digits and dots a text starts with, after a sign, and what follows them.
def percentageDigits (v : String) : List Char := (unsigned (strip v).toList).takeWhile (fun c => rules.decimal c || c = '.')

def percentageTail (v : String) : List Char :=
  withoutPercent (((unsigned (strip v).toList).dropWhile (fun c => rules.decimal c || c = '.')).dropWhile isSpace)

-- `^(-?[\d.]+)\s*%?\s*$` on the stripped text: the sign and the digits of the group.
def matchPercentage (v : String) : Option (Bool × List Char) :=
  if !(percentageDigits rules v).isEmpty && (percentageTail rules v).isEmpty then
    some (decide ((strip v).toList.head? = some '-'),percentageDigits rules v)
  else none

-- `float` of digits and dots: digits with one dot at most.
def readDecimal (group : List Char) : Option Rat :=
  let whole := group.takeWhile (fun c => c ≠ '.')
  let fraction := (group.dropWhile (fun c => c ≠ '.')).drop 1
  if '.' ∈ fraction ∨ whole ++ fraction = [] then none
  else some (((whole ++ fraction).foldl (fun value c => value * 10 + numbers.digit c) 0 : Nat) / (10 ^ fraction.length : Nat))

def parsePercentage (s : String) : Option Rat :=
  (matchPercentage rules s).bind (fun (minus,group) => (readDecimal numbers group).map (fun value =>
    min 100 (max 0 (numbers.float (if minus then -value else value)))))

def percent (value : Rat) : String := numbers.text value ++ "%"

-- Where the floats and the ints that `str` writes end.
def floatEnd : Nat := 2 ^ 1024
def textEnd : Nat := 10 ^ 4300

def milliseconds (ms : Nat) : Except Failure String := if ms < textEnd then .ok (toString ms ++ "ms") else .error .tooManyDigits

-- `n * 2.0`, `none` where it is infinite.
def doubled (n : Nat) : Except Failure (Option Nat) :=
  if nearest n < floatEnd then .ok (if 2 * nearest n < floatEnd then some (2 * nearest n) else none) else .error .overflow

def availabilityBreach (availability : String) (metrics : SlaMetrics) : List BreachConditionResult :=
  match parsePercentage rules numbers availability with
  | none => []
  | some required =>
    if metrics.uptimePercent < required then
      [⟨.availability,percent numbers required,percent numbers metrics.uptimePercent,
        if metrics.uptimePercent < availabilityCriticalBelowPercent then .critical else .warning⟩]
    else []

def latencyBreach (maxLatencyP95Ms : Nat) (metrics : SlaMetrics) : Except Failure (List BreachConditionResult) :=
  if metrics.latencyP95Ms > maxLatencyP95Ms then do
    let limit ← doubled maxLatencyP95Ms
    let threshold ← milliseconds maxLatencyP95Ms
    let actual ← milliseconds metrics.latencyP95Ms
    .ok [⟨.latency,threshold,actual,if limit.any (fun limit => decide (metrics.latencyP95Ms ≥ limit)) then .critical else .warning⟩]
  else .ok []

def errorRateBreach (maxErrorRate : String) (metrics : SlaMetrics) : List BreachConditionResult :=
  match parsePercentage rules numbers maxErrorRate with
  | none => []
  | some maxAllowed =>
    if metrics.errorRatePercent > maxAllowed then
      [⟨.errorRate,percent numbers maxAllowed,percent numbers metrics.errorRatePercent,
        if metrics.errorRatePercent ≥ errorRateCriticalPercent ∨ metrics.errorRatePercent ≥ maxAllowed * errorRateCriticalMultiplier
        then .critical else .warning⟩]
    else []

def evaluateBreachConditions (sla : Option (SLADefinition rules)) (metrics : SlaMetrics) : Except Failure (List BreachConditionResult) :=
  match sla with
  | none => .ok []
  | some sla =>
    (sla.maxLatencyP95Ms.elim (.ok []) (fun most => latencyBreach most.toNat metrics)).map (fun latency =>
      sla.availability.elim [] (fun v => availabilityBreach rules numbers v metrics) ++ latency ++
        sla.maxErrorRate.elim [] (fun v => errorRateBreach rules numbers v metrics))
end Conditions

section Texts
variable (rules : Rules) (numbers : Numbers)

theorem given_if {α : Type} (b : Bool) (x : α) : (if b = true then some x else none).isSome = b := by cases b <;> rfl

theorem validated_parts (v : String) :
    validatePercentageFormat rules v = (!(percentageDigits rules v).isEmpty && (percentageTail rules v).isEmpty) := by
  unfold validatePercentageFormat percentageDigits percentageTail unsigned withoutPercent
  generalize (strip v).toList = text
  rfl

-- The validator and the parser match the same texts.
theorem match_validated (v : String) : (matchPercentage rules v).isSome = validatePercentageFormat rules v := by
  rw [validated_parts]
  exact given_if _ _

theorem match_group {v : String} (matched : matchPercentage rules v = some (minus,group)) : group = percentageDigits rules v := by
  unfold matchPercentage at matched
  split at matched
  · simp only [Option.some.injEq,Prod.mk.injEq] at matched
    exact matched.2.symm
  · cases matched

-- One dot at most, and a digit.
def Numeral (group : List Char) : Prop := group.count '.' ≤ 1 ∧ ∃ c ∈ group, c ≠ '.'

theorem dots_split (group : List Char) : (∀ c ∈ group.takeWhile (fun c => c ≠ '.'), c ≠ '.') ∧
    (group.dropWhile (fun c => c ≠ '.') = [] ∨
      group.dropWhile (fun c => c ≠ '.') = '.' :: (group.dropWhile (fun c => c ≠ '.')).drop 1) := by
  refine ⟨fun c member => of_decide_eq_true (List.mem_takeWhile_imp (p := fun c => decide (c ≠ '.')) member),?_⟩
  cases rest : group.dropWhile (fun c => c ≠ '.') with
  | nil => exact .inl rfl
  | cons c fraction =>
    have first := List.head?_dropWhile_not (fun c => decide (c ≠ '.')) group
    rw [rest] at first
    have dot : c = '.' := by simpa using first
    exact .inr (by rw [dot,List.drop_one,List.tail_cons])

theorem readDecimal_iff (group : List Char) : (∃ value, readDecimal numbers group = some value) ↔ Numeral group := by
  obtain ⟨plain,rest⟩ := dots_split group
  have whole := List.takeWhile_append_dropWhile (p := fun c => decide (c ≠ '.')) (l := group)
  have read (x : Prop) [Decidable x] (value : Rat) : (∃ v, (if x then none else some value) = some v) ↔ ¬ x := by
    by_cases failed : x <;> simp [failed]
  unfold readDecimal Numeral
  simp only [read]
  generalize group.takeWhile (fun c => c ≠ '.') = digits at *
  generalize group.dropWhile (fun c => c ≠ '.') = after at *
  subst whole
  have undotted : digits.count '.' = 0 := List.count_eq_zero.mpr (fun member => plain '.' member rfl)
  rw [List.count_append,undotted,Nat.zero_add,not_or]
  rcases rest with rfl | dotted
  · simp only [List.drop_nil,List.not_mem_nil,List.append_nil,List.count_nil,Nat.zero_le,true_and,not_false_eq_true]
    constructor
    · intro filled
      obtain ⟨c,member⟩ := List.exists_mem_of_ne_nil _ filled
      exact ⟨c,member,plain c member⟩
    · rintro ⟨c,member,_⟩
      exact List.ne_nil_of_mem member
  · generalize after.drop 1 = fraction at *
    subst dotted
    have single : fraction.count '.' + 1 ≤ 1 ↔ '.' ∉ fraction := by
      rw [← List.count_eq_zero]
      omega
    rw [List.count_cons_self,single]
    refine and_congr_right (fun single => ⟨fun filled => ?_,fun ⟨c,member,digit⟩ => ?_⟩)
    · obtain ⟨c,member⟩ := List.exists_mem_of_ne_nil _ filled
      rcases List.mem_append.mp member with before | later
      · exact ⟨c,List.mem_append_left _ before,plain c before⟩
      · refine ⟨c,List.mem_append_right _ (List.mem_cons_of_mem _ later),?_⟩
        rintro rfl
        exact single later
    · rcases List.mem_append.mp member with before | later
      · exact List.ne_nil_of_mem (List.mem_append_left _ before)
      · rcases List.mem_cons.mp later with dot | fraction
        · exact absurd dot digit
        · exact List.ne_nil_of_mem (List.mem_append_right _ fraction)

theorem parse_accepted {v : String} (accepted : validatePercentageFormat rules v = true) :
    (∃ value, parsePercentage rules numbers v = some value) ↔ Numeral (percentageDigits rules v) := by
  rw [← match_validated] at accepted
  obtain ⟨⟨minus,group⟩,matched⟩ := Option.isSome_iff_exists.mp accepted
  rw [← match_group rules matched,← readDecimal_iff numbers]
  unfold parsePercentage
  rw [matched,Option.bind_some]
  simp only [Option.map_eq_some_iff]
  constructor
  · rintro ⟨_,value,read,_⟩
    exact ⟨value,read⟩
  · rintro ⟨value,read⟩
    exact ⟨_,value,read,rfl⟩
end Texts

section Breaches
variable (rules : Rules) (numbers : Numbers) (sla : SLADefinition rules) (metrics : SlaMetrics)

def percentages : List String := sla.availability.toList ++ sla.maxErrorRate.toList

-- The declared conditions that the metrics violate.
def violates : BreachType → Bool
  | .availability => sla.availability.any (fun v => (parsePercentage rules numbers v).any (fun required => decide (metrics.uptimePercent < required)))
  | .latency => sla.maxLatencyP95Ms.any (fun most => decide (most.toNat < metrics.latencyP95Ms))
  | .errorRate => sla.maxErrorRate.any (fun v => (parsePercentage rules numbers v).any (fun most => decide (most < metrics.errorRatePercent)))

-- Every percentage parses, and there is one result for each violated condition and no other.
structure Enforced : Prop where
  parsed : ∀ v ∈ percentages rules sla, ∃ value, parsePercentage rules numbers v = some value
  exact : ∃ results, evaluateBreachConditions rules numbers (some sla) metrics = .ok results ∧
    results.map BreachConditionResult.breachType = [.availability,.latency,.errorRate].filter (violates rules numbers sla metrics)

theorem percentage_accepted (v : String) (declared : v ∈ percentages rules sla) : validatePercentageFormat rules v = true := by
  have accepted := sla.accepted
  simp only [Bool.and_eq_true] at accepted
  unfold percentages at declared
  rcases List.mem_append.mp declared with availability | errorRate
  · rw [Option.mem_toList] at availability
    simpa [availability] using accepted.1.1
  · rw [Option.mem_toList] at errorRate
    simpa [errorRate] using accepted.1.2

theorem availability_types (availability : String) : (availabilityBreach rules numbers availability metrics).map BreachConditionResult.breachType =
    if (parsePercentage rules numbers availability).any (fun required => decide (metrics.uptimePercent < required)) then [.availability] else [] := by
  unfold availabilityBreach
  cases parsePercentage rules numbers availability with
  | none => rfl
  | some required =>
    by_cases below : metrics.uptimePercent < required
    · simp only [if_pos below,Option.any_some,decide_eq_true below,if_true,List.map_cons,List.map_nil]
    · simp only [if_neg below,Option.any_some,decide_eq_false below,Bool.false_eq_true,if_false,List.map_nil]

theorem errorRate_types (maxErrorRate : String) : (errorRateBreach rules numbers maxErrorRate metrics).map BreachConditionResult.breachType =
    if (parsePercentage rules numbers maxErrorRate).any (fun most => decide (most < metrics.errorRatePercent)) then [.errorRate] else [] := by
  unfold errorRateBreach
  cases parsePercentage rules numbers maxErrorRate with
  | none => rfl
  | some most =>
    simp only [gt_iff_lt]
    by_cases above : most < metrics.errorRatePercent
    · simp only [if_pos above,Option.any_some,decide_eq_true above,if_true,List.map_cons,List.map_nil]
    · simp only [if_neg above,Option.any_some,decide_eq_false above,Bool.false_eq_true,if_false,List.map_nil]

-- A violated latency needs a float of its limit and texts of both numbers.
def Printable (most : Nat) : Prop := most < metrics.latencyP95Ms → nearest most < floatEnd ∧ metrics.latencyP95Ms < textEnd

theorem latency_answers (most : Nat) : (∃ results, latencyBreach most metrics = .ok results) ↔ Printable metrics most := by
  unfold latencyBreach Printable doubled milliseconds
  by_cases above : most < metrics.latencyP95Ms
  · by_cases float : nearest most < floatEnd
    · by_cases text : metrics.latencyP95Ms < textEnd
      · have limit : most < textEnd := above.trans text
        simp [above,float,text,limit,bind,Except.bind]
      · by_cases limit : most < textEnd <;> simp [above,float,text,limit,bind,Except.bind]
    · simp [above,float,bind,Except.bind]
  · simp [above]

theorem latency_types (most : Nat) (answered : latencyBreach most metrics = .ok results) :
    results.map BreachConditionResult.breachType = if most < metrics.latencyP95Ms then [.latency] else [] := by
  have printable := (latency_answers metrics most).mp ⟨results,answered⟩
  unfold latencyBreach doubled milliseconds at answered
  by_cases above : most < metrics.latencyP95Ms
  · obtain ⟨float,text⟩ := printable above
    have limit : most < textEnd := above.trans text
    simp only [gt_iff_lt,above,float,text,limit,if_true,bind,Except.bind,Except.ok.injEq] at answered
    rw [← answered,if_pos above]
    rfl
  · simp only [gt_iff_lt,above,if_false,Except.ok.injEq] at answered
    rw [← answered,if_neg above]
    rfl

theorem map_ok {α β : Type} {x : Except Failure α} {f : α → β} {y : β} (mapped : x.map f = .ok y) : ∃ a, x = .ok a ∧ y = f a := by
  cases x with
  | error failure => cases mapped
  | ok a =>
    cases mapped
    exact ⟨a,rfl,rfl⟩

theorem evaluate_types (answered : evaluateBreachConditions rules numbers (some sla) metrics = .ok results) :
    results.map BreachConditionResult.breachType = [.availability,.latency,.errorRate].filter (violates rules numbers sla metrics) := by
  obtain ⟨latency,computed,rfl⟩ := map_ok answered
  have parts : [BreachType.availability,.latency,.errorRate].filter (violates rules numbers sla metrics) =
      (if violates rules numbers sla metrics .availability then [BreachType.availability] else []) ++
      (if violates rules numbers sla metrics .latency then [BreachType.latency] else []) ++
      (if violates rules numbers sla metrics .errorRate then [BreachType.errorRate] else []) := by
    simp only [List.filter_cons,List.filter_nil]
    split <;> split <;> split <;> rfl
  have availability : (sla.availability.elim [] (fun v => availabilityBreach rules numbers v metrics)).map BreachConditionResult.breachType =
      if violates rules numbers sla metrics .availability then [.availability] else [] := by
    cases given : sla.availability with
    | none =>
      have absent : violates rules numbers sla metrics .availability = false := by simp only [violates,given,Option.any_none]
      rw [absent]
      rfl
    | some v =>
      have same : violates rules numbers sla metrics .availability =
          (parsePercentage rules numbers v).any (fun required => decide (metrics.uptimePercent < required)) := by
        simp only [violates,given,Option.any_some]
      rw [same,Option.elim_some,availability_types]
  have errorRate : (sla.maxErrorRate.elim [] (fun v => errorRateBreach rules numbers v metrics)).map BreachConditionResult.breachType =
      if violates rules numbers sla metrics .errorRate then [.errorRate] else [] := by
    cases given : sla.maxErrorRate with
    | none =>
      have absent : violates rules numbers sla metrics .errorRate = false := by simp only [violates,given,Option.any_none]
      rw [absent]
      rfl
    | some v =>
      have same : violates rules numbers sla metrics .errorRate =
          (parsePercentage rules numbers v).any (fun most => decide (most < metrics.errorRatePercent)) := by
        simp only [violates,given,Option.any_some]
      rw [same,Option.elim_some,errorRate_types]
  have late : latency.map BreachConditionResult.breachType = if violates rules numbers sla metrics .latency then [.latency] else [] := by
    cases given : sla.maxLatencyP95Ms with
    | none =>
      have absent : violates rules numbers sla metrics .latency = false := by simp only [violates,given,Option.any_none]
      rw [given] at computed
      cases computed
      rw [absent]
      rfl
    | some most =>
      have same : violates rules numbers sla metrics .latency = decide (most.toNat < metrics.latencyP95Ms) := by
        simp only [violates,given,Option.any_some]
      rw [given] at computed
      rw [same,latency_types metrics most.toNat computed]
      simp only [decide_eq_true_eq]
  rw [parts,List.map_append,List.map_append,availability,errorRate,late]

theorem evaluate_answers : (∃ results, evaluateBreachConditions rules numbers (some sla) metrics = .ok results) ↔
    ∀ most ∈ sla.maxLatencyP95Ms, Printable metrics most.toNat := by
  have mapped {α β : Type} (x : Except Failure α) (f : α → β) : (∃ y, x.map f = .ok y) ↔ ∃ a, x = .ok a := by
    cases x <;> simp [Except.map]
  unfold evaluateBreachConditions
  simp only [mapped]
  cases sla.maxLatencyP95Ms with
  | none => simp
  | some most => simp [latency_answers]

theorem sla_enforced_iff : Enforced rules numbers sla metrics ↔
    (∀ v ∈ percentages rules sla, Numeral (percentageDigits rules v)) ∧ ∀ most ∈ sla.maxLatencyP95Ms, Printable metrics most.toNat := by
  constructor
  · rintro ⟨parsed,results,answered,_⟩
    exact ⟨fun v declared => (parse_accepted rules numbers (percentage_accepted rules sla v declared)).mp (parsed v declared),
      (evaluate_answers rules numbers sla metrics).mp ⟨results,answered⟩⟩
  · rintro ⟨numerals,printable⟩
    obtain ⟨results,answered⟩ := (evaluate_answers rules numbers sla metrics).mpr printable
    exact ⟨fun v declared => (parse_accepted rules numbers (percentage_accepted rules sla v declared)).mpr (numerals v declared),
      results,answered,evaluate_types rules numbers sla metrics answered⟩
end Breaches

def asciiRules : Rules where
  decimal := Char.isDigit
  version _ := true

def exactNumbers : Numbers where
  digit c := c.toNat - 48
  float value := value
  text value := toString value

def twoDots : SLADefinition asciiRules where
  availability := some "99.9.9%"
  accepted := by decide +kernel

def downMetrics : SlaMetrics := {late with uptimePercent := 0}

-- Accepted, but no number: without any uptime no breach is reported.
theorem two_dots_skipped : ¬ Enforced asciiRules exactNumbers twoDots downMetrics ∧
    evaluateBreachConditions asciiRules exactNumbers (some twoDots) downMetrics = .ok [] := by
  have unread : parsePercentage asciiRules exactNumbers "99.9.9%" = none := by decide +kernel
  refine ⟨fun enforced => ?_,?_⟩
  · have declared : "99.9.9%" ∈ percentages asciiRules twoDots := by simp [percentages,twoDots]
    obtain ⟨value,parsed⟩ := enforced.parsed "99.9.9%" declared
    rw [unread] at parsed
    cases parsed
  · have skipped : availabilityBreach asciiRules exactNumbers "99.9.9%" downMetrics = [] := by
      unfold availabilityBreach
      rw [unread]
    unfold evaluateBreachConditions
    simp only [twoDots,Option.elim_none,Option.elim_some,skipped]
    rfl

end Asap.SlaConditions
