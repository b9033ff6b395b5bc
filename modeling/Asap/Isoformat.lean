import Asap.PythonValue

-- `datetime.fromisoformat` on the forms that `isoformat` writes:
-- `YYYY-MM-DDTHH:MM:SS[.ffffff][+HH:MM[:SS[.ffffff]]]`.
namespace PythonValue

-- Exactly `width` decimal digits.
def scanDigits (width : Nat) (chars : List Char) : Option (Nat × List Char) :=
  let digits := chars.take width
  if digits.length = width ∧ digits.all Char.isDigit then some (Nat.ofDigitChars 10 digits 0,chars.drop width) else none

def scanMark (mark : Char) : List Char → Option (List Char)
  | [] => none
  | c :: rest => if c = mark then some rest else none

def scanMicroseconds (chars : List Char) : Option (Nat × List Char) :=
  match chars with
  | '.' :: rest => scanDigits 6 rest
  | _ => some (0,chars)

-- The seconds of an offset and their fraction, both of which may be missing.
def scanOffsetSeconds (chars : List Char) : Option (Nat × Nat × List Char) :=
  match chars with
  | ':' :: rest => (scanDigits 2 rest).bind (fun (second,rest) =>
    (scanMicroseconds rest).map (fun (microsecond,rest) => (second,microsecond,rest)))
  | _ => some (0,0,chars)

def scanOffset : List Char → Option (Option Int)
  | [] => some none
  | sign :: rest =>
    if sign ≠ '+' ∧ sign ≠ '-' then none
    else do
      let (hour,rest) ← scanDigits 2 rest
      let rest ← scanMark ':' rest
      let (minute,rest) ← scanDigits 2 rest
      let (second,microsecond,rest) ← scanOffsetSeconds rest
      let micros : Int := ((hour * 3600 + minute * 60 + second) * 1000000 + microsecond : Nat)
      if rest = [] then some (some (if sign = '-' then -micros else micros)) else none

-- The constructor, `none` where it raises ValueError.
def DateTime.make (year month day hour minute second microsecond : Nat) (utcoffset : Option Int) : Option DateTime :=
  if valid : (1 ≤ year ∧ year ≤ 9999 ∧ 1 ≤ month ∧ month ≤ 12 ∧ 1 ≤ day ∧ day ≤ daysInMonth year month) ∧
      (hour < 24 ∧ minute < 60 ∧ second < 60 ∧ microsecond < 1000000) ∧
      ∀ delta ∈ utcoffset, -86400000000 < delta ∧ delta < 86400000000 then
    some ⟨year,month,day,hour,minute,second,microsecond,utcoffset,valid.1,valid.2.1,valid.2.2⟩
  else none

def fromisoformat (text : String) : Option DateTime := do
  let (year,rest) ← scanDigits 4 text.toList
  let rest ← scanMark '-' rest
  let (month,rest) ← scanDigits 2 rest
  let rest ← scanMark '-' rest
  let (day,rest) ← scanDigits 2 rest
  let rest ← scanMark 'T' rest
  let (hour,rest) ← scanDigits 2 rest
  let rest ← scanMark ':' rest
  let (minute,rest) ← scanDigits 2 rest
  let rest ← scanMark ':' rest
  let (second,rest) ← scanDigits 2 rest
  let (microsecond,rest) ← scanMicroseconds rest
  let utcoffset ← scanOffset rest
  DateTime.make year month day hour minute second microsecond utcoffset

theorem pad_chars (width n : Nat) :
    (pad width n).toList = List.replicate (width - (Nat.toDigits 10 n).length) '0' ++ Nat.toDigits 10 n := by
  simp [pad,Nat.toString_eq_repr,← String.length_toList]

theorem pad_digits (width n : Nat) : ∀ c ∈ (pad width n).toList, c.isDigit = true := by
  intro c member
  rw [pad_chars,List.mem_append] at member
  rcases member with zero | digit
  · rw [(List.mem_replicate.mp zero).2]
    rfl
  · exact Nat.isDigit_of_mem_toDigits (by omega) (by omega) digit

theorem scanDigits_pad (width : Nat) {n : Nat} (positive : 0 < width) (small : n < 10 ^ width) (rest : List Char) :
    scanDigits width ((pad width n).toList ++ rest) = some (n,rest) := by
  have short : (Nat.toDigits 10 n).length ≤ width := (Nat.length_toDigits_le_iff (by omega) positive).mpr small
  have length : (pad width n).toList.length = width := by
    rw [pad_chars,List.length_append,List.length_replicate]
    omega
  have digits : (pad width n).toList.all Char.isDigit = true := by
    exact List.all_eq_true.mpr (pad_digits width n)
  have value : Nat.ofDigitChars 10 (pad width n).toList 0 = n := by
    rw [pad_chars,Nat.ofDigitChars_append]
    simp
  have taken : ((pad width n).toList ++ rest).take width = (pad width n).toList := List.take_left' length
  have dropped : ((pad width n).toList ++ rest).drop width = rest := List.drop_left' length
  simp only [scanDigits,taken,dropped,length,digits,value,and_self,if_true]

@[simp] theorem scanMark_self (mark : Char) (rest : List Char) : scanMark mark (mark :: rest) = some rest := by simp [scanMark]

-- One step of a scanner whose first part is known.
theorem bind_read {read : Option α} {value : α} (known : read = some value) (next : α → Option β) : (read >>= next) = next value := by
  rw [known]
  rfl

theorem dash_chars : "-".toList = ['-'] := rfl
theorem colon_chars : ":".toList = [':'] := rfl
theorem letter_chars : "T".toList = ['T'] := rfl

-- A fraction that is zero is not written.
theorem scanMicroseconds_written {micros : Nat} (small : micros < 1000000) (rest : List Char) (ends : ∀ c ∈ rest.head?, c ≠ '.') :
    scanMicroseconds ((if micros = 0 then "" else "." ++ pad 6 micros).toList ++ rest) = some (micros,rest) := by
  split
  · rename_i zero
    rw [zero]
    cases rest with
    | nil => rfl
    | cons c tail =>
      have other : c ≠ '.' := ends c (by simp)
      show scanMicroseconds (c :: tail) = _
      unfold scanMicroseconds
      split
      · rename_i same
        cases same
        exact absurd rfl other
      · rfl
  · have read := scanDigits_pad 6 (by omega) small rest
    simpa [scanMicroseconds] using read

-- The seconds are written when they or their fraction are not zero.
theorem scanOffsetSeconds_written (micros : Nat) :
    scanOffsetSeconds ((if micros % 60000000 = 0 then "" else ":" ++ pad 2 (micros / 1000000 % 60)).toList ++
      (if micros % 1000000 = 0 then "" else "." ++ pad 6 (micros % 1000000)).toList) =
        some (micros / 1000000 % 60,micros % 1000000,[]) := by
  have fraction := scanMicroseconds_written (show micros % 1000000 < 1000000 by omega) [] (by simp)
  rw [List.append_nil] at fraction
  split
  · rename_i whole
    rw [if_pos (show micros % 1000000 = 0 by omega),show micros / 1000000 % 60 = 0 by omega,
      show micros % 1000000 = 0 by omega]
    rfl
  · have seconds := scanDigits_pad 2 (n := micros / 1000000 % 60) (by omega) (by omega)
      (if micros % 1000000 = 0 then "" else "." ++ pad 6 (micros % 1000000)).toList
    rw [String.toList_append,List.append_assoc,colon_chars]
    simp only [List.cons_append,List.nil_append,scanOffsetSeconds,seconds,Option.bind_some,fraction,Option.map_some]

theorem formatOffset_chars (delta : Int) : ∃ sign : Char, (sign = '-' ↔ delta < 0) ∧ (sign = '+' ∨ sign = '-') ∧
    (formatOffset delta).toList = sign :: ((pad 2 (delta.natAbs / 1000000 / 3600)).toList ++ ':' ::
      ((pad 2 (delta.natAbs / 1000000 / 60 % 60)).toList ++
        ((if delta.natAbs % 60000000 = 0 then "" else ":" ++ pad 2 (delta.natAbs / 1000000 % 60)).toList ++
          (if delta.natAbs % 1000000 = 0 then "" else "." ++ pad 6 (delta.natAbs % 1000000)).toList))) := by
  by_cases negative : delta < 0
  · refine ⟨'-',by simp [negative],.inr rfl,?_⟩
    simp [formatOffset,negative]
  · refine ⟨'+',by simp [negative],.inl rfl,?_⟩
    simp [formatOffset,negative]

theorem scanOffset_written {delta : Int} (bounded : -86400000000 < delta ∧ delta < 86400000000) :
    scanOffset (formatOffset delta).toList = some (some delta) := by
  obtain ⟨sign,minus,either,chars⟩ := formatOffset_chars delta
  have hours : delta.natAbs / 1000000 / 3600 < 10 ^ 2 := by omega
  have minutes : delta.natAbs / 1000000 / 60 % 60 < 10 ^ 2 := by omega
  have signed : ¬ (sign ≠ '+' ∧ sign ≠ '-') := by
    rintro ⟨notPlus,notMinus⟩
    exact either.elim notPlus notMinus
  have total : (delta.natAbs / 1000000 / 3600 * 3600 + delta.natAbs / 1000000 / 60 % 60 * 60 + delta.natAbs / 1000000 % 60) * 1000000 +
      delta.natAbs % 1000000 = delta.natAbs := by omega
  rw [chars]
  simp only [scanOffset,if_neg signed,scanDigits_pad 2 (by omega) hours,scanDigits_pad 2 (by omega) minutes,scanMark_self,
    scanOffsetSeconds_written,Option.bind_eq_bind,Option.bind_some,if_true,total,minus]
  split
  · congr 2
    omega
  · congr 2
    omega

theorem DateTime.make_self (t : DateTime) :
    DateTime.make t.year t.month t.day t.hour t.minute t.second t.microsecond t.utcoffset = some t := by
  unfold DateTime.make
  rw [dif_pos ⟨t.date,t.time,t.offset⟩]

-- What isoformat wrote is read back as it was.
theorem isoformat_chars (t : DateTime) : t.isoformat.toList = (pad 4 t.year).toList ++ '-' :: ((pad 2 t.month).toList ++ '-' :: ((pad 2 t.day).toList ++ 'T' ::
    ((pad 2 t.hour).toList ++ ':' :: ((pad 2 t.minute).toList ++ ':' :: ((pad 2 t.second).toList ++
      ((if t.microsecond = 0 then "" else "." ++ pad 6 t.microsecond).toList ++ (match t.utcoffset with
        | none => ""
        | some delta => formatOffset delta).toList)))))) := by
  have fields : t.isoformat = pad 4 t.year ++ "-" ++ pad 2 t.month ++ "-" ++ pad 2 t.day ++ "T" ++ pad 2 t.hour ++ ":" ++
      pad 2 t.minute ++ ":" ++ pad 2 t.second ++ (if t.microsecond = 0 then "" else "." ++ pad 6 t.microsecond) ++
        (match t.utcoffset with
          | none => ""
          | some delta => formatOffset delta) := rfl
  rw [fields]
  simp only [String.toList_append,List.append_assoc,dash_chars,colon_chars,letter_chars,List.cons_append,List.nil_append]

theorem fromisoformat_isoformat (t : DateTime) : fromisoformat t.isoformat = some t := by
  obtain ⟨_,year,_,month,_,day⟩ := t.date
  obtain ⟨hour,minute,second,microsecond⟩ := t.time
  have days : t.day < 10 ^ 2 := by
    refine lt_of_le_of_lt day ?_
    unfold daysInMonth
    split
    · split <;> omega
    · split <;> omega
  have offset : scanOffset (match t.utcoffset with
      | none => ""
      | some delta => formatOffset delta).toList = some t.utcoffset := by
    cases zone : t.utcoffset with
    | none => rfl
    | some delta => exact scanOffset_written (t.offset delta zone)
  have fraction := scanMicroseconds_written microsecond (match t.utcoffset with
      | none => ""
      | some delta => formatOffset delta).toList (by
    cases t.utcoffset with
    | none => simp
    | some delta =>
      obtain ⟨sign,_,either,chars⟩ := formatOffset_chars delta
      rw [chars]
      rcases either with rfl | rfl <;> simp)
  unfold fromisoformat
  rw [isoformat_chars]
  refine (bind_read (scanDigits_pad 4 (by omega) (show t.year < 10 ^ 4 by omega) _) _).trans ?_
  refine (bind_read (scanMark_self '-' _) _).trans ?_
  refine (bind_read (scanDigits_pad 2 (by omega) (show t.month < 10 ^ 2 by omega) _) _).trans ?_
  refine (bind_read (scanMark_self '-' _) _).trans ?_
  refine (bind_read (scanDigits_pad 2 (by omega) days _) _).trans ?_
  refine (bind_read (scanMark_self 'T' _) _).trans ?_
  refine (bind_read (scanDigits_pad 2 (by omega) (show t.hour < 10 ^ 2 by omega) _) _).trans ?_
  refine (bind_read (scanMark_self ':' _) _).trans ?_
  refine (bind_read (scanDigits_pad 2 (by omega) (show t.minute < 10 ^ 2 by omega) _) _).trans ?_
  refine (bind_read (scanMark_self ':' _) _).trans ?_
  refine (bind_read (scanDigits_pad 2 (by omega) (show t.second < 10 ^ 2 by omega) _) _).trans ?_
  refine (bind_read fraction _).trans ?_
  refine (bind_read offset _).trans ?_
  exact DateTime.make_self t

-- `text.replace("Z", "+00:00")`, which the readers of stored times apply before `fromisoformat`.
def offsetForZulu (text : String) : String := String.ofList (text.toList.flatMap (fun c => if c = 'Z' then "+00:00".toList else [c]))

-- The characters of a written time.
def TimeText (chars : List Char) : Prop := ∀ c ∈ chars, c.isDigit = true ∨ c ∈ ['+','-','.',':','T']

theorem TimeText.append {left right : List Char} (first : TimeText left) (second : TimeText right) : TimeText (left ++ right) := by
  intro c member
  rcases List.mem_append.mp member with before | after
  · exact first c before
  · exact second c after

theorem TimeText.cons {mark : Char} {rest : List Char} (first : mark ∈ ['+','-','.',':','T']) (second : TimeText rest) :
    TimeText (mark :: rest) := by
  intro c member
  rcases List.mem_cons.mp member with rfl | later
  · exact .inr first
  · exact second c later

theorem pad_timeText (width n : Nat) : TimeText (pad width n).toList := fun c member => .inl (pad_digits width n c member)

theorem optional_timeText (missing : Prop) [Decidable missing] (mark : Char) (known : mark ∈ ['+','-','.',':','T']) (width n : Nat) :
    TimeText (if missing then "" else String.singleton mark ++ pad width n).toList := by
  split
  · intro c member
    cases member
  · rw [String.toList_append,String.toList_singleton]
    exact TimeText.cons known (pad_timeText width n)

theorem formatOffset_timeText (delta : Int) : TimeText (formatOffset delta).toList := by
  obtain ⟨sign,_,signed,chars⟩ := formatOffset_chars delta
  rw [chars]
  apply TimeText.cons (by rcases signed with rfl | rfl <;> decide)
  apply (pad_timeText 2 _).append
  apply TimeText.cons (by decide)
  apply (pad_timeText 2 _).append
  exact (optional_timeText _ ':' (by decide) 2 _).append (optional_timeText _ '.' (by decide) 6 _)

theorem isoformat_timeText (t : DateTime) : TimeText t.isoformat.toList := by
  rw [isoformat_chars]
  apply (pad_timeText 4 _).append
  apply TimeText.cons (by decide)
  apply (pad_timeText 2 _).append
  apply TimeText.cons (by decide)
  apply (pad_timeText 2 _).append
  apply TimeText.cons (by decide)
  apply (pad_timeText 2 _).append
  apply TimeText.cons (by decide)
  apply (pad_timeText 2 _).append
  apply TimeText.cons (by decide)
  apply (pad_timeText 2 _).append
  apply (optional_timeText _ '.' (by decide) 6 _).append
  cases t.utcoffset with
  | none =>
    intro c member
    cases member
  | some delta => exact formatOffset_timeText delta

theorem offsetForZulu_isoformat (t : DateTime) : offsetForZulu t.isoformat = t.isoformat := by
  have kept : ∀ chars, TimeText chars → chars.flatMap (fun c => if c = 'Z' then "+00:00".toList else [c]) = chars := by
    intro chars text
    induction chars with
    | nil => rfl
    | cons c rest ih =>
      have plain : c ≠ 'Z' := by
        rintro rfl
        rcases text 'Z' List.mem_cons_self with digit | mark
        · cases digit
        · exact absurd mark (by decide)
      rw [List.flatMap_cons,if_neg plain,ih (fun other member => text other (List.mem_cons_of_mem _ member))]
      rfl
  rw [offsetForZulu,kept _ (isoformat_timeText t),String.ofList_toList]

end PythonValue
