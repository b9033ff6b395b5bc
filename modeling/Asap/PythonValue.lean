import Mathlib

-- Python values as far as text is made of them: `str.strip`, `datetime.isoformat`
-- and `json.dumps(value, sort_keys=True)`.
namespace PythonValue

-- The characters `str.isspace` accepts.
def isSpace (c : Char) : Bool :=
  let n := c.toNat
  (9 ≤ n ∧ n ≤ 13) || (28 ≤ n ∧ n ≤ 32) || n = 0x85 || n = 0xa0 || n = 0x1680 || (0x2000 ≤ n ∧ n ≤ 0x200a) ||
    n = 0x2028 || n = 0x2029 || n = 0x202f || n = 0x205f || n = 0x3000

def strip (text : String) : String :=
  String.ofList (((text.toList.dropWhile isSpace).reverse.dropWhile isSpace).reverse)

def pad (width n : Nat) : String :=
  let digits := toString n
  String.ofList (List.replicate (width - digits.length) '0') ++ digits

def daysInMonth (year month : Nat) : Nat :=
  if month = 2 then if year % 4 = 0 ∧ (year % 100 ≠ 0 ∨ year % 400 = 0) then 29 else 28
  else if month = 4 ∨ month = 6 ∨ month = 9 ∨ month = 11 then 30
  else 31

-- A `datetime`. The offset, in microseconds, is absent for a naive one.
structure DateTime where
  year : Nat
  month : Nat
  day : Nat
  hour : Nat
  minute : Nat
  second : Nat
  microsecond : Nat
  utcoffset : Option Int
  date : 1 ≤ year ∧ year ≤ 9999 ∧ 1 ≤ month ∧ month ≤ 12 ∧ 1 ≤ day ∧ day ≤ daysInMonth year month
  time : hour < 24 ∧ minute < 60 ∧ second < 60 ∧ microsecond < 1000000
  offset : ∀ delta ∈ utcoffset, -86400000000 < delta ∧ delta < 86400000000
  deriving DecidableEq

def formatOffset (delta : Int) : String :=
  let micros := delta.natAbs
  let seconds := micros / 1000000
  (if delta < 0 then "-" else "+") ++ pad 2 (seconds / 3600) ++ ":" ++ pad 2 (seconds / 60 % 60) ++
    (if micros % 60000000 = 0 then "" else ":" ++ pad 2 (seconds % 60)) ++
    (if micros % 1000000 = 0 then "" else "." ++ pad 6 (micros % 1000000))

def DateTime.isoformat (t : DateTime) : String :=
  pad 4 t.year ++ "-" ++ pad 2 t.month ++ "-" ++ pad 2 t.day ++ "T" ++
    pad 2 t.hour ++ ":" ++ pad 2 t.minute ++ ":" ++ pad 2 t.second ++
    (if t.microsecond = 0 then "" else "." ++ pad 6 t.microsecond) ++
    (match t.utcoffset with
      | none => ""
      | some delta => formatOffset delta)

def daysBeforeYear (year : Nat) : Nat := 365 * (year - 1) + (year - 1) / 4 - (year - 1) / 100 + (year - 1) / 400

def daysBeforeMonth (year month : Nat) : Nat := ((List.range (month - 1)).map (fun m => daysInMonth year (m + 1))).sum

-- Microseconds from the first instant of year 1, in UTC for an aware time.
def DateTime.instant (t : DateTime) : Int :=
  let days := daysBeforeYear t.year + daysBeforeMonth t.year t.month + (t.day - 1)
  let seconds := days * 86400 + t.hour * 3600 + t.minute * 60 + t.second
  (seconds * 1000000 + t.microsecond : Nat) - t.utcoffset.getD 0

-- `astimezone(timezone.utc)` of an aware time; outside of the years 1 to 9999 it raises
-- OverflowError.
def DateTime.astimezone (t : DateTime) : Option Int :=
  if 0 ≤ t.instant ∧ t.instant < 315537897600000000 then some t.instant else none

-- The dictionary keys JSON can write. A finite float carries the text of its repr. NaN
-- is left out: beside other keys it has no defined place in a sorted list.
inductive Key where
  | none
  | bool (value : Bool)
  | int (value : Int)
  | float (value : Rat) (repr : String)
  | infinity (positive : Bool)
  | str (value : String)
  deriving DecidableEq

-- `nonFinite` is NaN or an infinity; `other` is any object JSON has no form for,
-- with its `str`.
inductive Value where
  | none
  | bool (value : Bool)
  | int (value : Int)
  | float (value : Rat) (repr : String)
  | nonFinite (repr : String)
  | str (value : String)
  | list (items : List Value)
  | dict (items : List (Key × Value))
  | other (text : String)

def hexDigit (n : Nat) : Char := if n < 10 then Char.ofNat (48 + n) else Char.ofNat (87 + n)

def unicodeEscape (n : Nat) : List Char :=
  ['\\','u',hexDigit (n / 4096 % 16),hexDigit (n / 256 % 16),hexDigit (n / 16 % 16),hexDigit (n % 16)]

-- `ensure_ascii`: outside the basic plane a character becomes a surrogate pair.
def escapeChar (c : Char) : List Char :=
  if c = '"' then ['\\','"']
  else if c = '\\' then ['\\','\\']
  else if c = '\n' then ['\\','n']
  else if c = '\r' then ['\\','r']
  else if c = '\t' then ['\\','t']
  else if c.toNat = 12 then ['\\','f']
  else if c.toNat = 8 then ['\\','b']
  else if 32 ≤ c.toNat ∧ c.toNat ≤ 126 then [c]
  else if c.toNat < 65536 then unicodeEscape c.toNat
  else unicodeEscape (55296 + (c.toNat - 65536) / 1024) ++ unicodeEscape (56320 + (c.toNat - 65536) % 1024)

def quote (text : String) : String := String.ofList ('"' :: text.toList.flatMap escapeChar ++ ['"'])

def Key.text : Key → String
  | .none => "null"
  | .bool value => if value then "true" else "false"
  | .int value => toString value
  | .float _ repr => repr
  | .infinity positive => if positive then "Infinity" else "-Infinity"
  | .str value => value

def Key.number : Key → Option Rat
  | .bool value => some (if value then 1 else 0)
  | .int value => some value
  | .float value _ => some value
  | _ => Option.none

def Key.numeric : Key → Bool
  | .infinity _ => true
  | key => key.number.isSome

-- `<=` of two numeric keys.
def Key.le : Key → Key → Bool
  | .infinity false,_ => true
  | _,.infinity true => true
  | .infinity true,_ => false
  | _,.infinity false => false
  | left,right => left.number.getD 0 ≤ right.number.getD 0

def Key.string : Key → Option String
  | .str value => some value
  | _ => Option.none

def Value.number : Value → Option Rat
  | .bool value => some (if value then 1 else 0)
  | .int value => some value
  | .float value _ => some value
  | _ => Option.none

def Key.same (left right : Key) : Bool :=
  match left.number,right.number with
  | some a,some b => a = b
  | _,_ => left = right

-- Python's `==`: numbers by value, dictionaries whatever their order. A NaN equals
-- itself, as it does inside a container that holds the same object.
mutual
def Value.same : Value → Value → Bool
  | .none,.none => true
  | .str a,.str b => a = b
  | .nonFinite a,.nonFinite b => a = b
  | .other a,.other b => a = b
  | .list xs,.list ys => sameList xs ys
  | .dict xs,.dict ys => xs.length = ys.length && sameItems xs ys
  | a,b =>
    match a.number,b.number with
    | some x,some y => x = y
    | _,_ => false
def sameList : List Value → List Value → Bool
  | [],[] => true
  | x :: xs,y :: ys => x.same y && sameList xs ys
  | _,_ => false
def sameItems : List (Key × Value) → List (Key × Value) → Bool
  | [],_ => true
  | (key,value) :: rest,ys => ys.any (fun item => item.1.same key && value.same item.2) && sameItems rest ys
end

-- `bool(value)`. An object JSON has no form for is taken as true.
def Value.truthy : Value → Bool
  | .none => false
  | .bool value => value
  | .int value => value ≠ 0
  | .float value _ => value ≠ 0
  | .str value => value ≠ ""
  | .list items => items ≠ []
  | .dict items => items ≠ []
  | .nonFinite _ | .other _ => true

def lookupItem (name : String) (items : List (Key × α)) : Option α :=
  (items.find? (fun item => decide (item.1 = .str name))).map Prod.snd

-- `value.get(name)`; the outer `none` is the AttributeError of what is no dictionary.
def Value.get (value : Value) (name : String) : Option (Option Value) :=
  match value with
  | .dict items => some (lookupItem name items)
  | _ => Option.none

def containsText (part text : String) : Bool := text.toList.tails.any (fun rest => part.toList.isPrefixOf rest)

-- `name in value`; `none` is the TypeError of what is no container.
def Value.contains (value : Value) (name : String) : Option Bool :=
  match value with
  | .dict items => some (lookupItem name items).isSome
  | .list items => some (items.any (fun item => item.same (.str name)))
  | .str text => some (containsText name text)
  | _ => Option.none

theorem Key.same_refl (key : Key) : key.same key = true := by
  cases key <;> simp [Key.same,Key.number]

-- A computation that raises is an `Except`: it succeeds step by step.
theorem bind_ok_iff {ε α β : Type} {first : Except ε α} {next : α → Except ε β} {result : β} :
    first >>= next = .ok result ↔ ∃ value, first = .ok value ∧ next value = .ok result := by
  cases first <;> simp [bind,Except.bind]

theorem Key.eq_of_same_str {key : Key} {name : String} (same : key.same (.str name) = true) : key = .str name := by
  cases key with
  | str other => simpa [Key.same,Key.number] using same
  | _ => simp [Key.same,Key.number] at same

-- Only a text equals a text.
theorem Value.same_str_iff {value : Value} {text : String} : value.same (.str text) = true ↔ value = .str text := by
  cases value with
  | str other => simp [Value.same]
  | _ => simp [Value.same,Value.number]

theorem Value.eq_of_str_same {text : String} {value : Value} (same : (Value.str text).same value = true) : value = .str text := by
  cases value with
  | str other =>
    simp only [Value.same,decide_eq_true_eq] at same
    rw [same]
  | _ => simp [Value.same,Value.number] at same

theorem sameItems_member (items : List (Key × Value)) (ys : List (Key × Value))
    (each : ∀ item ∈ items, item ∈ ys ∧ item.2.same item.2 = true) : sameItems items ys = true := by
  induction items with
  | nil => rfl
  | cons item rest ih =>
    obtain ⟨member,itself⟩ := each item (by simp)
    have found : ys.any (fun other => other.1.same item.1 && item.2.same other.2) = true :=
      List.any_eq_true.mpr ⟨item,member,by simp [Key.same_refl,itself]⟩
    simp only [sameItems,found,Bool.true_and]
    exact ih (fun other inside => each other (List.mem_cons_of_mem _ inside))

mutual
theorem Value.same_refl : (value : Value) → value.same value = true
  | .none => rfl
  | .bool _ => by simp [Value.same,Value.number]
  | .int _ => by simp [Value.same,Value.number]
  | .float _ _ => by simp [Value.same,Value.number]
  | .nonFinite _ => by simp [Value.same]
  | .str _ => by simp [Value.same]
  | .other _ => by simp [Value.same]
  | .list items => by simpa [Value.same] using sameList_refl items
  | .dict items => by
    simp only [Value.same,decide_true,Bool.true_and]
    exact sameItems_member items items (fun item member => ⟨member,items_refl items item member⟩)
theorem sameList_refl : (items : List Value) → sameList items items = true
  | [] => rfl
  | value :: rest => by simp [sameList,Value.same_refl value,sameList_refl rest]
theorem items_refl : (items : List (Key × Value)) → ∀ item ∈ items, item.2.same item.2 = true
  | [],_,member => by cases member
  | (key,value) :: rest,item,member => by
    rcases List.mem_cons.mp member with rfl | later
    · exact Value.same_refl value
    · exact items_refl rest item later
end

-- Sorting compares neighbours, so two keys of kinds that do not compare make it
-- raise. Keys are distinct: the values are never compared.
def sortItems (items : List (Key × α)) : Option (List (Key × α)) :=
  if items.length ≤ 1 then some items
  else if items.all (fun item => item.1.string.isSome) then
    some (items.insertionSort (fun a b => a.1.string.getD "" ≤ b.1.string.getD ""))
  else if items.all (fun item => item.1.numeric) then
    some (items.insertionSort (fun a b => a.1.le b.1))
  else Option.none

-- The `separators` argument, and whether `default=str` is given.
structure Format where
  item : String
  key : String
  defaultStr : Bool

def spaced : Format := ⟨", ",": ",true⟩
def compact : Format := ⟨",",":",false⟩

-- `none` is the TypeError of keys that do not compare, or of an object without a form.
mutual
def dumps (format : Format) : Value → Option String
  | .none => some "null"
  | .bool value => some (if value then "true" else "false")
  | .int value => some (toString value)
  | .float _ repr => some repr
  | .nonFinite repr => some repr
  | .str value => some (quote value)
  | .other text => if format.defaultStr then some (quote text) else none
  | .list items => (dumpsList format items).map (fun texts => "[" ++ String.intercalate format.item texts ++ "]")
  | .dict items =>
    ((dumpsItems format items).bind sortItems).map (fun texts =>
      "\x7b" ++ String.intercalate format.item (texts.map (fun item => quote item.1.text ++ format.key ++ item.2)) ++ "\x7d")
def dumpsList (format : Format) : List Value → Option (List String)
  | [] => some []
  | value :: rest => (dumps format value).bind (fun text => (dumpsList format rest).map (text :: ·))
def dumpsItems (format : Format) : List (Key × Value) → Option (List (Key × String))
  | [] => some []
  | (key,value) :: rest => (dumps format value).bind (fun text => (dumpsItems format rest).map ((key,text) :: ·))
end

example : Value.same (.dict [(.str "a",.int 1),(.str "b",.none)]) (.dict [(.str "b",.none),(.str "a",.bool true)]) = true := by
  decide +kernel

-- The keys are ordered by code points and by value, not as they were inserted.
example : dumps spaced (.dict [(.str "b",.int (-3)),(.str "a",.list [.none,.str "é\n"])]) =
    some "\x7b\"a\": [null, \"\\u00e9\\n\"], \"b\": -3\x7d" := by decide +kernel

example : dumps spaced (.dict [(.int 10,.none),(.int 9,.none)]) = some "\x7b\"9\": null, \"10\": null\x7d" := by decide +kernel

end PythonValue
