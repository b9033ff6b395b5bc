import Asap.Isoformat
import Mathlib.Data.String.Basic

-- Texts of `isoformat` in the order of texts, and the times they stand for.
namespace PythonValue

section Texts
variable {left right : List Char}

-- Where the first parts have one length, they decide.
theorem append_lt_of_lt (same : left.length = right.length) (before : left < right) (x y : List Char) : left ++ x < right ++ y := by
  induction left generalizing right with
  | nil =>
    cases right with
    | nil => exact absurd before (List.lt_irrefl [])
    | cons d rest => cases same
  | cons c rest ih =>
    cases right with
    | nil => cases same
    | cons d others =>
      rw [List.cons_append,List.cons_append]
      rcases List.cons_lt_cons_iff.mp before with less | ⟨equal,later⟩
      · exact List.cons_lt_cons_iff.mpr (.inl less)
      · exact List.cons_lt_cons_iff.mpr (.inr ⟨equal,ih (Nat.succ.inj same) later⟩)

def value (digits : List Char) : Nat := Nat.ofDigitChars 10 digits 0

theorem value_cons (c : Char) (rest : List Char) : value (c :: rest) = 10 ^ rest.length * (c.toNat - '0'.toNat) + value rest := by
  unfold value
  rw [Nat.ofDigitChars_cons,Nat.ofDigitChars_eq_ofDigitChars_zero]
  simp

theorem digit_bounds {c : Char} (digit : c.isDigit = true) : 48 ≤ c.toNat ∧ c.toNat ≤ 57 := by
  simp only [Char.isDigit,Bool.and_eq_true,decide_eq_true_eq] at digit
  exact ⟨digit.1,digit.2⟩

theorem value_lt (digits : ∀ c ∈ left, c.isDigit = true) : value left < 10 ^ left.length := by
  induction left with
  | nil => decide
  | cons c rest ih =>
    have bounds := digit_bounds (digits c List.mem_cons_self)
    have below := ih (fun d member => digits d (List.mem_cons_of_mem _ member))
    have zero : '0'.toNat = 48 := rfl
    have scaled : 10 ^ rest.length * (c.toNat - 48) ≤ 10 ^ rest.length * 9 := Nat.mul_le_mul_left _ (by omega)
    rw [value_cons,List.length_cons,Nat.pow_succ,zero]
    omega

-- Digits of one length are in the order of their values.
theorem value_mono (same : left.length = right.length) (first : ∀ c ∈ left, c.isDigit = true) (second : ∀ c ∈ right, c.isDigit = true)
    (before : left < right) : value left < value right := by
  induction left generalizing right with
  | nil =>
    cases right with
    | nil => exact absurd before (List.lt_irrefl [])
    | cons d rest => cases same
  | cons c rest ih =>
    cases right with
    | nil => cases same
    | cons d others =>
      have length : rest.length = others.length := Nat.succ.inj same
      have cBounds := digit_bounds (first c List.mem_cons_self)
      have dBounds := digit_bounds (second d List.mem_cons_self)
      have restDigits := fun x member => first x (List.mem_cons_of_mem _ member)
      have othersDigits := fun x member => second x (List.mem_cons_of_mem _ member)
      have zero : '0'.toNat = 48 := rfl
      rw [value_cons,value_cons,length,zero]
      rcases List.cons_lt_cons_iff.mp before with less | ⟨rfl,later⟩
      · have below := value_lt restDigits
        rw [length] at below
        have less : c.toNat < d.toNat := less
        have scaled : 10 ^ others.length * (c.toNat - 48 + 1) ≤ 10 ^ others.length * (d.toNat - 48) := Nat.mul_le_mul_left _ (by omega)
        rw [Nat.mul_add,Nat.mul_one] at scaled
        omega
      · have more := ih length restDigits othersDigits later
        omega
end Texts

section Pad
variable {width n m : Nat}

theorem pad_length (positive : 0 < width) (small : n < 10 ^ width) : (pad width n).toList.length = width := by
  have short : (Nat.toDigits 10 n).length ≤ width := (Nat.length_toDigits_le_iff (by omega) positive).mpr small
  rw [pad_chars,List.length_append,List.length_replicate]
  omega

theorem value_pad (width n : Nat) : value (pad width n).toList = n := by
  unfold value
  rw [pad_chars,Nat.ofDigitChars_append]
  simp

theorem pad_lt (positive : 0 < width) (less : n < m) (small : m < 10 ^ width) : (pad width n).toList < (pad width m).toList := by
  have same : (pad width m).toList.length = (pad width n).toList.length := by
    rw [pad_length positive small,pad_length positive (Nat.lt_trans less small)]
  apply Decidable.byContradiction
  intro unordered
  rcases lt_or_eq_of_le (not_lt.mp unordered) with before | equal
  · have values := value_mono same (pad_digits width m) (pad_digits width n) before
    rw [value_pad,value_pad] at values
    omega
  · have values := congrArg value equal
    rw [value_pad,value_pad] at values
    omega

-- A greater number of one width, whatever follows.
theorem pad_append_lt (positive : 0 < width) (less : n < m) (small : m < 10 ^ width) (x y : List Char) :
    (pad width n).toList ++ x < (pad width m).toList ++ y := by
  apply append_lt_of_lt _ (pad_lt positive less small)
  rw [pad_length positive small,pad_length positive (Nat.lt_trans less small)]
end Pad

section Calendar

def leapDay (year : Nat) : Nat := if year % 4 = 0 ∧ (year % 100 ≠ 0 ∨ year % 400 = 0) then 1 else 0

theorem quotient_succ (y d : Nat) : (y + 1) / d = y / d + if (y + 1) % d = 0 then 1 else 0 := by
  rw [Nat.succ_div]
  simp only [Nat.dvd_iff_mod_eq_zero]

theorem daysBeforeYear_succ {year : Nat} (low : 1 ≤ year) : daysBeforeYear (year + 1) = daysBeforeYear year + 365 + leapDay year := by
  obtain ⟨y,rfl⟩ : ∃ y, year = y + 1 := ⟨year - 1,by omega⟩
  have centuries : y / 100 ≤ y := Nat.div_le_self y 100
  have hundred : (y + 1) % 400 = 0 → (y + 1) % 100 = 0 := by omega
  have four : (y + 1) % 100 = 0 → (y + 1) % 4 = 0 := by omega
  unfold daysBeforeYear leapDay
  simp only [Nat.add_sub_cancel,quotient_succ y]
  generalize y / 4 = fours,y / 100 = hundreds,y / 400 = eras at *
  by_cases each : (y + 1) % 4 = 0
  · by_cases century : (y + 1) % 100 = 0
    · by_cases era : (y + 1) % 400 = 0
      · simp only [each,century,era,if_true,ne_eq,not_true_eq_false,or_true,and_self]
        omega
      · simp only [each,century,era,if_true,if_false,ne_eq,not_true_eq_false,or_self,and_false]
        omega
    · have era : (y + 1) % 400 ≠ 0 := fun zero => century (hundred zero)
      simp only [each,century,era,if_true,if_false,ne_eq,not_false_eq_true,true_or,and_self]
      omega
  · have century : (y + 1) % 100 ≠ 0 := fun zero => each (four zero)
    have era : (y + 1) % 400 ≠ 0 := fun zero => century (hundred zero)
    simp only [each,century,era,if_false,false_and]
    omega

theorem daysInMonth_eq (year month : Nat) : daysInMonth year month =
    if month = 2 then 28 + leapDay year else if month = 4 ∨ month = 6 ∨ month = 9 ∨ month = 11 then 30 else 31 := by
  unfold daysInMonth leapDay
  split
  · split <;> rfl
  · rfl

theorem daysBeforeMonth_succ {year month : Nat} (low : 1 ≤ month) :
    daysBeforeMonth year (month + 1) = daysBeforeMonth year month + daysInMonth year month := by
  obtain ⟨m,rfl⟩ : ∃ m, month = m + 1 := ⟨month - 1,by omega⟩
  unfold daysBeforeMonth
  rw [Nat.add_sub_cancel,Nat.add_sub_cancel,List.range_succ,List.map_append,List.sum_append]
  simp

theorem daysBeforeMonth_mono (year : Nat) {earlier later : Nat} (less : earlier ≤ later) :
    daysBeforeMonth year earlier ≤ daysBeforeMonth year later := by
  induction later,less using Nat.le_induction with
  | base => exact Nat.le_refl _
  | succ later less ih =>
    cases later with
    | zero => exact ih
    | succ m => rw [daysBeforeMonth_succ (by omega)]; omega

-- A day of one year comes before the next year.
theorem month_fits {year month day : Nat} (first : 1 ≤ year) (low : 1 ≤ month) (high : month ≤ 12) (inside : day ≤ daysInMonth year month) :
    daysBeforeYear year + daysBeforeMonth year month + day ≤ daysBeforeYear (year + 1) := by
  have whole : daysBeforeMonth year 13 = 365 + leapDay year := by
    simp [daysBeforeMonth,List.range_succ,daysInMonth_eq]
    omega
  have grows := daysBeforeMonth_mono year (Nat.succ_le_succ high)
  simp only [Nat.succ_eq_add_one] at grows
  rw [daysBeforeMonth_succ low,whole] at grows
  rw [daysBeforeYear_succ first]
  omega

theorem daysBeforeYear_mono {earlier later : Nat} (first : 1 ≤ earlier) (less : earlier ≤ later) :
    daysBeforeYear earlier ≤ daysBeforeYear later := by
  induction later,less using Nat.le_induction with
  | base => exact Nat.le_refl _
  | succ later less ih => rw [daysBeforeYear_succ (by omega)]; omega
end Calendar

-- The microseconds the fields count from the first instant of year 1, whatever the offset.
def DateTime.wall (t : DateTime) : Int := t.instant + t.utcoffset.getD 0

-- The fields of one time come before those of another.
def DateTime.Earlier (a b : DateTime) : Prop :=
  a.year < b.year ∨ a.year = b.year ∧ (a.month < b.month ∨ a.month = b.month ∧ (a.day < b.day ∨ a.day = b.day ∧
    (a.hour < b.hour ∨ a.hour = b.hour ∧ (a.minute < b.minute ∨ a.minute = b.minute ∧
      (a.second < b.second ∨ a.second = b.second ∧ a.microsecond < b.microsecond)))))

section Wall
variable {a b : DateTime}

def DateTime.days (t : DateTime) : Nat := daysBeforeYear t.year + daysBeforeMonth t.year t.month + (t.day - 1)

theorem wall_eq (t : DateTime) : t.wall = ((((t.days * 86400 + t.hour * 3600 + t.minute * 60 + t.second) * 1000000 + t.microsecond : Nat)) : Int) := by
  unfold DateTime.wall DateTime.instant DateTime.days
  simp only
  omega

theorem days_lt (earlier : a.year < b.year ∨ a.year = b.year ∧ (a.month < b.month ∨ a.month = b.month ∧ a.day < b.day)) : a.days < b.days := by
  obtain ⟨aFirst,_,aLow,aHigh,aDay,aInside⟩ := a.date
  obtain ⟨_,_,bLow,_,bDay,_⟩ := b.date
  unfold DateTime.days
  rcases earlier with year | ⟨year,month | ⟨month,day⟩⟩
  · have fits := month_fits aFirst aLow aHigh aInside
    have grows := daysBeforeYear_mono (Nat.le_succ_of_le aFirst) (Nat.succ_le_of_lt year)
    simp only [Nat.succ_eq_add_one] at grows
    omega
  · have grows := daysBeforeMonth_mono b.year (Nat.succ_le_of_lt month)
    simp only [Nat.succ_eq_add_one] at grows
    rw [year] at aInside ⊢
    rw [daysBeforeMonth_succ aLow] at grows
    omega
  · rw [year,month]
    omega

theorem DateTime.Earlier.wall_lt (earlier : a.Earlier b) : a.wall < b.wall := by
  obtain ⟨aHour,aMinute,aSecond,aMicro⟩ := a.time
  obtain ⟨bHour,bMinute,bSecond,bMicro⟩ := b.time
  rw [wall_eq,wall_eq]
  have order : a.days < b.days ∨ a.days = b.days ∧ (a.hour < b.hour ∨ a.hour = b.hour ∧ (a.minute < b.minute ∨ a.minute = b.minute ∧
      (a.second < b.second ∨ a.second = b.second ∧ a.microsecond < b.microsecond))) := by
    rcases earlier with year | ⟨year,month | ⟨month,day | ⟨day,time⟩⟩⟩
    · exact .inl (days_lt (.inl year))
    · exact .inl (days_lt (.inr ⟨year,.inl month⟩))
    · exact .inl (days_lt (.inr ⟨year,.inr ⟨month,day⟩⟩))
    · refine .inr ⟨?_,time⟩
      unfold DateTime.days
      rw [year,month,day]
  omega

theorem earlier_or (a b : DateTime) : a.Earlier b ∨ b.Earlier a ∨ (a.year = b.year ∧ a.month = b.month ∧ a.day = b.day ∧ a.hour = b.hour ∧
    a.minute = b.minute ∧ a.second = b.second ∧ a.microsecond = b.microsecond) := by
  unfold DateTime.Earlier
  omega

theorem earlier_of_wall (before : a.wall < b.wall) : a.Earlier b := by
  rcases earlier_or a b with earlier | later | ⟨year,month,day,hour,minute,second,microsecond⟩
  · exact earlier
  · have after := later.wall_lt
    omega
  · rw [wall_eq,wall_eq,DateTime.days,DateTime.days,year,month,day,hour,minute,second,microsecond] at before
    omega

theorem eq_of_wall (same : a.wall = b.wall) (offset : a.utcoffset = b.utcoffset) : a = b := by
  rcases earlier_or a b with earlier | later | ⟨year,month,day,hour,minute,second,microsecond⟩
  · have before := earlier.wall_lt
    omega
  · have after := later.wall_lt
    omega
  · cases a
    cases b
    simp only at year month day hour minute second microsecond offset
    subst year month day hour minute second microsecond offset
    rfl
end Wall

section Order
variable {a b : DateTime}

theorem same_then {mark : Char} (part : List Char) {x y : List Char} (later : x < y) : part ++ mark :: x < part ++ mark :: y := by
  apply List.append_left_lt
  exact List.cons_lt_cons_iff.mpr (.inr ⟨rfl,later⟩)

-- A sign, or no offset at all, comes before the point of a fraction.
theorem offset_before_point (t : DateTime) (fraction : List Char) : (match t.utcoffset with
    | none => ""
    | some delta => formatOffset delta).toList < '.' :: fraction := by
  cases t.utcoffset with
  | none => exact List.nil_lt_cons _ _
  | some delta =>
    obtain ⟨sign,_,either,chars⟩ := formatOffset_chars delta
    simp only
    rw [chars]
    apply List.cons_lt_cons_iff.mpr
    rcases either with rfl | rfl
    · exact .inl (by decide)
    · exact .inl (by decide)

theorem fraction_lt (less : a.microsecond < b.microsecond) (x : List Char) :
    (if a.microsecond = 0 then "" else "." ++ pad 6 a.microsecond).toList ++ (match a.utcoffset with
      | none => ""
      | some delta => formatOffset delta).toList < (if b.microsecond = 0 then "" else "." ++ pad 6 b.microsecond).toList ++ x := by
  have point : ".".toList = ['.'] := rfl
  have nonzero : b.microsecond ≠ 0 := by omega
  rw [if_neg nonzero,String.toList_append,point,List.cons_append,List.nil_append,List.cons_append]
  split
  · exact offset_before_point a _
  · rw [String.toList_append,point,List.cons_append,List.nil_append,List.cons_append]
    exact List.cons_lt_cons_iff.mpr (.inr ⟨rfl,pad_append_lt (by omega) less b.time.2.2.2 _ _⟩)

theorem DateTime.Earlier.isoformat_lt (earlier : a.Earlier b) : a.isoformat < b.isoformat := by
  obtain ⟨_,bYear,_,bMonth,_,bDay⟩ := b.date
  have monthDays : daysInMonth b.year b.month ≤ 31 := by rw [daysInMonth_eq]; unfold leapDay; split <;> split <;> omega
  obtain ⟨bHour,bMinute,bSecond,_⟩ := b.time
  rw [String.lt_iff_toList_lt,isoformat_chars,isoformat_chars]
  rcases earlier with less | ⟨year,less | ⟨month,less | ⟨day,less | ⟨hour,less | ⟨minute,less | ⟨second,less⟩⟩⟩⟩⟩⟩
  · exact pad_append_lt (by omega) less (by omega) _ _
  · rw [year]
    apply same_then
    exact pad_append_lt (by omega) less (by omega) _ _
  · rw [year,month]
    apply same_then
    apply same_then
    exact pad_append_lt (by omega) less (by omega) _ _
  · rw [year,month,day]
    apply same_then
    apply same_then
    apply same_then
    exact pad_append_lt (by omega) less (by omega) _ _
  · rw [year,month,day,hour]
    apply same_then
    apply same_then
    apply same_then
    apply same_then
    exact pad_append_lt (by omega) less (by omega) _ _
  · rw [year,month,day,hour,minute]
    apply same_then
    apply same_then
    apply same_then
    apply same_then
    apply same_then
    exact pad_append_lt (by omega) less (by omega) _ _
  · rw [year,month,day,hour,minute,second]
    apply same_then
    apply same_then
    apply same_then
    apply same_then
    apply same_then
    apply List.append_left_lt
    exact fraction_lt less _

-- `<=` of two times; a naive and an aware one raise TypeError.
def DateTime.le? (a b : DateTime) : Option Bool :=
  if a.utcoffset.isSome = b.utcoffset.isSome then some (decide (a.instant ≤ b.instant)) else none

-- Two times that their texts can compare: both are aware or both naive, and they share their offset
-- or their fields and their instants are in one strict order.
structure Comparable (a b : DateTime) : Prop where
  aware : a.utcoffset.isSome = b.utcoffset.isSome
  ordered : a.utcoffset = b.utcoffset ∨ (a.wall < b.wall ∧ a.instant < b.instant) ∨ (b.wall < a.wall ∧ b.instant < a.instant)

instance (a b : DateTime) : Decidable (Comparable a b) := decidable_of_iff (a.utcoffset.isSome = b.utcoffset.isSome ∧
    (a.utcoffset = b.utcoffset ∨ (a.wall < b.wall ∧ a.instant < b.instant) ∨ (b.wall < a.wall ∧ b.instant < a.instant)))
  ⟨fun both => ⟨both.1,both.2⟩,fun comparable => ⟨comparable.aware,comparable.ordered⟩⟩

theorem comparable_of_offset (same : a.utcoffset = b.utcoffset) : Comparable a b := ⟨by rw [same],.inl same⟩

theorem Comparable.symm (comparable : Comparable a b) : Comparable b a := by
  refine ⟨comparable.aware.symm,?_⟩
  rcases comparable.ordered with same | less | more
  · exact .inl same.symm
  · exact .inr (.inr less)
  · exact .inr (.inl more)

theorem Comparable.cases (comparable : Comparable a b) : (a.instant < b.instant ∧ a.isoformat < b.isoformat) ∨ a = b ∨
    (b.instant < a.instant ∧ b.isoformat < a.isoformat) := by
  have walls : a.wall = a.instant + a.utcoffset.getD 0 ∧ b.wall = b.instant + b.utcoffset.getD 0 := ⟨rfl,rfl⟩
  rcases comparable.ordered with same | ⟨less,before⟩ | ⟨more,after⟩
  · rw [same] at walls
    rcases lt_trichotomy a.wall b.wall with less | equal | more
    · exact .inl ⟨by omega,(earlier_of_wall less).isoformat_lt⟩
    · exact .inr (.inl (eq_of_wall equal same))
    · exact .inr (.inr ⟨by omega,(earlier_of_wall more).isoformat_lt⟩)
  · exact .inl ⟨before,(earlier_of_wall less).isoformat_lt⟩
  · exact .inr (.inr ⟨after,(earlier_of_wall more).isoformat_lt⟩)

theorem Comparable.le_iff (comparable : Comparable a b) : a.isoformat ≤ b.isoformat ↔ a.instant ≤ b.instant := by
  rcases comparable.cases with ⟨before,texts⟩ | rfl | ⟨after,texts⟩
  · exact ⟨fun _ => Int.le_of_lt before,fun _ => le_of_lt texts⟩
  · exact ⟨fun _ => Int.le_refl _,fun _ => le_refl _⟩
  · exact ⟨fun texts' => absurd texts (not_lt.mpr texts'),fun le => absurd after (by omega)⟩

theorem Comparable.lt_iff (comparable : Comparable a b) : a.isoformat < b.isoformat ↔ a.instant < b.instant := by
  rw [← not_le,comparable.symm.le_iff,Int.not_le]

theorem Comparable.le_text (comparable : Comparable a b) : a.le? b = some (decide (a.isoformat ≤ b.isoformat)) := by
  unfold DateTime.le?
  rw [if_pos comparable.aware]
  simp only [comparable.le_iff]

-- Rows sorted by the texts of times stand as what they were made of stands sorted by the times.
theorem sort_times (time : α → DateTime) (row : α → ρ) (column : ρ → String) {items : List α} (written : ∀ a, column (row a) = (time a).isoformat)
    (comparable : ∀ x ∈ items, ∀ y ∈ items, Comparable (time x) (time y)) :
    (items.map row).mergeSort (fun left right => decide (column left ≤ column right)) =
      (items.mergeSort (fun x y => decide ((time x).instant ≤ (time y).instant))).map row := by
  symm
  apply List.map_mergeSort
  intro x first y second
  have compare := (comparable x first y second).le_iff
  simp only [written]
  exact decide_eq_decide.mpr compare.symm

-- A time of `datetime.now(timezone.utc)`.
def UtcTime := {t : DateTime // t.utcoffset = some 0}
  deriving DecidableEq

theorem UtcTime.comparable (s t : UtcTime) : Comparable s.val t.val := comparable_of_offset (s.property.trans t.property.symm)
end Order

section Arithmetic

-- `date.fromordinal`, counted from 0.
def fromDays (days : Nat) : Nat × Nat × Nat :=
  let eras := days / 146097
  let centuries := days % 146097 / 36524
  let cycles := days % 146097 % 36524 / 1461
  let years := days % 146097 % 36524 % 1461 / 365
  let rest := days % 146097 % 36524 % 1461 % 365
  let year := eras * 400 + 1 + centuries * 100 + cycles * 4 + years
  if years = 4 ∨ centuries = 4 then (year - 1,12,31)
  else
    let month := ((List.range 12).filter (fun m => decide (daysBeforeMonth year (m + 1) ≤ rest))).length
    (year,month,rest - daysBeforeMonth year month + 1)

-- `t - timedelta(seconds=seconds)`, `none` where it raises OverflowError.
def DateTime.minusSeconds (t : DateTime) (seconds : Int) : Option DateTime :=
  let micros := t.wall - seconds * 1000000
  if micros < 0 then none
  else
    let (year,month,day) := fromDays (micros.toNat / 86400000000)
    let rest := micros.toNat % 86400000000
    DateTime.make year month day (rest / 3600000000) (rest / 60000000 % 60) (rest / 1000000 % 60) (rest % 1000000) t.utcoffset

theorem minusSeconds_offset {t earlier : DateTime} {seconds : Int} (computed : t.minusSeconds seconds = some earlier) :
    earlier.utcoffset = t.utcoffset := by
  unfold DateTime.minusSeconds at computed
  simp only [DateTime.make] at computed
  split at computed
  · cases computed
  · split at computed
    · cases computed
      rfl
    · cases computed

-- `t.replace(microsecond=0)`.
def DateTime.wholeSeconds (t : DateTime) : DateTime := {t with microsecond := 0,time := ⟨t.time.1,t.time.2.1,t.time.2.2.1,by decide⟩}

def DateTime.dateIsoformat (t : DateTime) : String := pad 4 t.year ++ "-" ++ pad 2 t.month ++ "-" ++ pad 2 t.day

-- The Monday of the first ISO week, in days from the first day of year 1.
def isoWeek1Monday (year : Nat) : Int :=
  let first : Int := daysBeforeYear year
  let weekday := first % 7
  if weekday > 3 then first - weekday + 7 else first - weekday

-- Year and week of `date.isocalendar`.
def DateTime.isocalendar (t : DateTime) : Nat × Nat :=
  let today : Int := t.days
  let week := (today - isoWeek1Monday t.year) / 7
  if week < 0 then (t.year - 1,((today - isoWeek1Monday (t.year - 1)) / 7).toNat + 1)
  else if week ≥ 52 ∧ today ≥ isoWeek1Monday (t.year + 1) then (t.year + 1,1)
  else (t.year,week.toNat + 1)

example : (fromDays 738000,fromDays 146096,fromDays 0) = ((2021,7,30),(400,12,31),(1,1,1)) := by decide +kernel
end Arithmetic

end PythonValue
