import Asap.OrderedDict
import Asap.PythonValue

-- `json.loads`, and what it makes of a text that `json.dumps(value, sort_keys=True)` wrote.
namespace PythonValue

def isJsonSpace (c : Char) : Bool := c = ' ' || c = '\t' || c = '\n' || c = '\r'

def skipSpace (chars : List Char) : List Char := chars.dropWhile isJsonSpace

def hexValue (c : Char) : Option Nat :=
  if 48 ≤ c.toNat ∧ c.toNat ≤ 57 then some (c.toNat - 48)
  else if 97 ≤ c.toNat ∧ c.toNat ≤ 102 then some (c.toNat - 87)
  else if 65 ≤ c.toNat ∧ c.toNat ≤ 70 then some (c.toNat - 55)
  else none

def scanHex : List Char → Option (Nat × List Char)
  | a :: b :: c :: d :: rest =>
    match hexValue a,hexValue b,hexValue c,hexValue d with
    | some a,some b,some c,some d => some (a * 4096 + b * 256 + c * 16 + d,rest)
    | _,_,_,_ => none
  | _ => none

-- A pair of surrogates is one character. A lone surrogate, which only Python's strings
-- can hold, is not read.
def scanUnicode (chars : List Char) : Option (Char × List Char) :=
  (scanHex chars).bind (fun (high,rest) =>
    if 55296 ≤ high ∧ high ≤ 56319 then
      match rest with
      | '\\' :: 'u' :: rest => (scanHex rest).bind (fun (low,rest) =>
        if 56320 ≤ low ∧ low ≤ 57343 then some (Char.ofNat (65536 + (high - 55296) * 1024 + (low - 56320)),rest) else none)
      | _ => none
    else if 56320 ≤ high ∧ high ≤ 57343 then none
    else some (Char.ofNat high,rest))

def scanEscape : List Char → Option (Char × List Char)
  | [] => none
  | c :: rest =>
    if c = '"' ∨ c = '\\' ∨ c = '/' then some (c,rest)
    else if c = 'b' then some (Char.ofNat 8,rest)
    else if c = 'f' then some (Char.ofNat 12,rest)
    else if c = 'n' then some ('\n',rest)
    else if c = 'r' then some ('\r',rest)
    else if c = 't' then some ('\t',rest)
    else if c = 'u' then scanUnicode rest
    else none

-- From behind the opening quote to behind the closing one.
def scanString : Nat → List Char → Option (List Char × List Char)
  | 0,_ => none
  | _,[] => none
  | fuel + 1,c :: rest =>
    if c = '"' then some ([],rest)
    else if c = '\\' then
      (scanEscape rest).bind (fun (c,rest) => (scanString fuel rest).map (fun (text,rest) => (c :: text,rest)))
    else if c.toNat < 32 then none
    else (scanString fuel rest).map (fun (text,rest) => (c :: text,rest))

def scanInteger : List Char → Option (List Char × List Char)
  | [] => none
  | c :: rest =>
    if c = '0' then some (['0'],rest)
    else if c.isDigit then some (c :: rest.takeWhile Char.isDigit,rest.dropWhile Char.isDigit)
    else none

def scanFraction : List Char → List Char × List Char
  | '.' :: rest =>
    if rest.takeWhile Char.isDigit = [] then ([],'.' :: rest)
    else ('.' :: rest.takeWhile Char.isDigit,rest.dropWhile Char.isDigit)
  | chars => ([],chars)

def scanSign : List Char → List Char × List Char
  | '+' :: rest => (['+'],rest)
  | '-' :: rest => (['-'],rest)
  | chars => ([],chars)

def scanExponent : List Char → List Char × List Char
  | [] => ([],[])
  | mark :: rest =>
    let (sign,digits) := scanSign rest
    if (mark = 'e' ∨ mark = 'E') ∧ digits.takeWhile Char.isDigit ≠ [] then
      (mark :: sign ++ digits.takeWhile Char.isDigit,digits.dropWhile Char.isDigit)
    else ([],mark :: rest)

-- `(-?(?:0|[1-9]\d*))(\.\d+)?([eE][-+]?\d+)?`: the four parts and what follows.
structure NumberText where
  sign : List Char
  whole : List Char
  fraction : List Char
  exponent : List Char

def NumberText.chars (number : NumberText) : List Char := number.sign ++ number.whole ++ number.fraction ++ number.exponent

def scanMinus : List Char → List Char × List Char
  | '-' :: rest => (['-'],rest)
  | chars => ([],chars)

def scanNumberText (chars : List Char) : Option (NumberText × List Char) :=
  let (sign,unsigned) := scanMinus chars
  (scanInteger unsigned).map (fun (whole,rest) =>
    let (fraction,rest) := scanFraction rest
    let (exponent,rest) := scanExponent rest
    (⟨sign,whole,fraction,exponent⟩,rest))

def Digits (chars : List Char) : Prop := ∀ c ∈ chars, c.isDigit = true

structure NumberText.Grammar (number : NumberText) : Prop where
  sign : number.sign = [] ∨ number.sign = ['-']
  whole : number.whole = ['0'] ∨ ∃ first digits, number.whole = first :: digits ∧ first ≠ '0' ∧ Digits (first :: digits)
  fraction : number.fraction = [] ∨ ∃ digits, number.fraction = '.' :: digits ∧ digits ≠ [] ∧ Digits digits
  exponent : number.exponent = [] ∨ ∃ mark sign digits, number.exponent = mark :: (sign ++ digits) ∧ (mark = 'e' ∨ mark = 'E') ∧
    (sign = [] ∨ sign = ['+'] ∨ sign = ['-']) ∧ digits ≠ [] ∧ Digits digits

-- What follows a number in a JSON text.
def Ends (rest : List Char) : Prop := ∀ c ∈ rest.head?, c.isDigit = false ∧ c ≠ '.' ∧ c ≠ 'e' ∧ c ≠ 'E'

theorem span_digits {digits rest : List Char} (all : Digits digits) (stop : ∀ c ∈ rest.head?, c.isDigit = false) :
    (digits ++ rest).takeWhile Char.isDigit = digits ∧ (digits ++ rest).dropWhile Char.isDigit = rest := by
  have none : rest.takeWhile Char.isDigit = [] ∧ rest.dropWhile Char.isDigit = rest := by
    cases rest with
    | nil => exact ⟨rfl,rfl⟩
    | cons c tail => simp [stop c (by simp)]
  rw [List.takeWhile_append_of_pos all,List.dropWhile_append_of_pos all,none.1,none.2]
  simp

theorem scanInteger_whole {number : NumberText} (grammar : number.Grammar) {rest : List Char}
    (stop : ∀ c ∈ rest.head?, c.isDigit = false) : scanInteger (number.whole ++ rest) = some (number.whole,rest) := by
  rcases grammar.whole with zero | ⟨first,digits,shape,nonzero,all⟩
  · rw [zero]
    rfl
  · have span := span_digits (fun c member => all c (List.mem_cons_of_mem _ member)) stop
    rw [shape]
    simp only [List.cons_append,scanInteger,if_neg nonzero,all first (by simp),if_true,span]

theorem scanFraction_fraction {number : NumberText} (grammar : number.Grammar) {rest : List Char}
    (stop : ∀ c ∈ rest.head?, c.isDigit = false ∧ c ≠ '.') : scanFraction (number.fraction ++ rest) = (number.fraction,rest) := by
  rcases grammar.fraction with none | ⟨digits,shape,some,all⟩
  · rw [none]
    cases rest with
    | nil => rfl
    | cons c tail =>
      have other : c ≠ '.' := (stop c (by simp)).2
      simp only [List.nil_append]
      unfold scanFraction
      split
      · rename_i same
        cases same
        exact absurd rfl other
      · rfl
  · have span := span_digits all (fun c member => (stop c member).1)
    rw [shape]
    simp only [List.cons_append,scanFraction,span,if_neg some]

theorem scanSign_sign {sign digits : List Char} (shape : sign = [] ∨ sign = ['+'] ∨ sign = ['-']) (some : digits ≠ [])
    (all : Digits digits) (rest : List Char) : scanSign (sign ++ digits ++ rest) = (sign,digits ++ rest) := by
  rcases shape with rfl | rfl | rfl
  · cases digits with
    | nil => exact absurd rfl some
    | cons c tail =>
      have digit : c.isDigit = true := all c (by simp)
      simp only [List.nil_append,List.cons_append]
      unfold scanSign
      split
      · rename_i same
        cases same
        cases digit
      · rename_i same
        cases same
        cases digit
      · rfl
  · rfl
  · rfl

theorem scanExponent_exponent {number : NumberText} (grammar : number.Grammar) {rest : List Char} (ends : Ends rest) :
    scanExponent (number.exponent ++ rest) = (number.exponent,rest) := by
  rcases grammar.exponent with none | ⟨mark,sign,digits,shape,letter,signed,some,all⟩
  · rw [none]
    cases rest with
    | nil => rfl
    | cons c tail =>
      obtain ⟨_,_,small,large⟩ := ends c (by simp)
      simp [scanExponent,small,large]
  · have span := span_digits all (fun c member => (ends c member).1)
    rw [shape]
    simp only [List.cons_append,scanExponent,scanSign_sign signed some all rest,span,letter,true_and]
    rw [if_pos some]

theorem scanMinus_sign {number : NumberText} (grammar : number.Grammar) (rest : List Char) :
    scanMinus (number.sign ++ (number.whole ++ rest)) = (number.sign,number.whole ++ rest) := by
  rcases grammar.sign with none | minus
  · obtain ⟨first,digits,shape,digit⟩ : ∃ first digits, number.whole = first :: digits ∧ first.isDigit = true := by
      rcases grammar.whole with zero | ⟨first,digits,shape,_,all⟩
      · exact ⟨'0',[],zero,rfl⟩
      · exact ⟨first,digits,shape,all first (by simp)⟩
    rw [none,shape]
    simp only [List.nil_append,List.cons_append]
    unfold scanMinus
    split
    · rename_i same
      cases same
      cases digit
    · rfl
  · rw [minus]
    rfl

theorem scanNumberText_chars {number : NumberText} (grammar : number.Grammar) {rest : List Char} (ends : Ends rest) :
    scanNumberText (number.chars ++ rest) = some (number,rest) := by
  have exponentStops : ∀ c ∈ (number.exponent ++ rest).head?, c.isDigit = false ∧ c ≠ '.' := by
    rcases grammar.exponent with none | ⟨mark,sign,digits,shape,letter,_⟩
    · rw [none]
      exact fun c member => ⟨(ends c member).1,(ends c member).2.1⟩
    · rw [shape]
      rcases letter with rfl | rfl <;> simp
  have fractionStops : ∀ c ∈ (number.fraction ++ (number.exponent ++ rest)).head?, c.isDigit = false := by
    rcases grammar.fraction with none | ⟨digits,shape,_⟩
    · rw [none]
      exact fun c member => (exponentStops c member).1
    · rw [shape]
      simp
  have unsigned := scanMinus_sign grammar (number.fraction ++ (number.exponent ++ rest))
  have parts : number.chars ++ rest = number.sign ++ (number.whole ++ (number.fraction ++ (number.exponent ++ rest))) := by
    simp [NumberText.chars]
  unfold scanNumberText
  rw [parts]
  simp only [unsigned,scanInteger_whole grammar fractionStops,Option.map_some,scanFraction_fraction grammar exponentStops,
    scanExponent_exponent grammar ends]

-- Python's floats as far as JSON meets them: `float` of a number text, and which texts
-- are the repr of which value. A repr reads back as its float, and it is a number with a
-- fraction or an exponent.
structure Floats where
  float : String → Value
  repr : Rat → String → Prop
  reads : ∀ value text, repr value text → float text = .float value text
  shaped : ∀ value text, repr value text → ∃ number : NumberText, number.Grammar ∧ number.chars = text.toList ∧
    (number.fraction ≠ [] ∨ number.exponent ≠ [])

-- For texts in which no float is written.
def integersOnly : Floats where
  float text := .nonFinite text
  repr _ _ := False
  reads _ _ impossible := impossible.elim
  shaped _ _ impossible := impossible.elim

section Loads
variable (floats : Floats)

def scanNumber (chars : List Char) : Option (Value × List Char) :=
  (scanNumberText chars).map (fun (number,rest) =>
    (if number.fraction = [] ∧ number.exponent = [] then
      let magnitude : Int := Nat.ofDigitChars 10 number.whole 0
      .int (if number.sign = [] then magnitude else -magnitude)
    else floats.float (String.ofList number.chars),rest))

def scanWord (word : String) (value : Value) (chars : List Char) : Option (Value × List Char) :=
  if word.toList.isPrefixOf chars then some (value,chars.drop word.length) else none

def scanAtom (chars : List Char) : Option (Value × List Char) :=
  scanWord "null" .none chars <|> scanWord "true" (.bool true) chars <|> scanWord "false" (.bool false) chars <|>
    scanNumber floats chars <|> scanWord "NaN" (.nonFinite "NaN") chars <|>
    scanWord "Infinity" (.nonFinite "Infinity") chars <|> scanWord "-Infinity" (.nonFinite "-Infinity") chars

-- Every call takes at least one character, so the length of the text is fuel enough.
mutual
def scanValue : Nat → List Char → Option (Value × List Char)
  | 0,_ => none
  | _,[] => none
  | fuel + 1,c :: rest =>
    if c = '"' then (scanString (rest.length + 1) rest).map (fun (text,rest) => (.str (String.ofList text),rest))
    else if c = '[' then
      match skipSpace rest with
      | [] => none
      | next :: after =>
        if next = ']' then some (.list [],after)
        else (scanElements fuel (next :: after)).map (fun (items,rest) => (.list items,rest))
    else if c = '\x7b' then
      match skipSpace rest with
      | [] => none
      | next :: after =>
        if next = '\x7d' then some (.dict [],after)
        else (scanMembers fuel (next :: after)).map (fun (items,rest) => (.dict items,rest))
    else scanAtom floats (c :: rest)
def scanElements : Nat → List Char → Option (List Value × List Char)
  | 0,_ => none
  | fuel + 1,chars =>
    (scanValue fuel chars).bind (fun (value,rest) =>
      match skipSpace rest with
      | [] => none
      | next :: after =>
        if next = ',' then (scanElements fuel (skipSpace after)).map (fun (items,rest) => (value :: items,rest))
        else if next = ']' then some ([value],after)
        else none)
def scanMembers : Nat → List Char → Option (List (Key × Value) × List Char)
  | 0,_ => none
  | _,[] => none
  | fuel + 1,quote :: rest =>
    if quote ≠ '"' then none
    else (scanString (rest.length + 1) rest).bind (fun (key,rest) =>
      match skipSpace rest with
      | [] => none
      | colon :: rest =>
        if colon ≠ ':' then none
        else (scanValue fuel (skipSpace rest)).bind (fun (value,rest) =>
          let item : Key × Value := (.str (String.ofList key),value)
          match skipSpace rest with
          | [] => none
          | next :: after =>
            if next = ',' then (scanMembers fuel (skipSpace after)).map (fun (items,rest) => (item :: items,rest))
            else if next = '\x7d' then some ([item],after)
            else none))
end

-- A key that comes again replaces the value at its first place.
def fromPairs (pairs : List (Key × Value)) : List (Key × Value) :=
  pairs.foldl (fun rows item => OrderedDict.assign item.1 item.2 rows) []

mutual
def collapse : Value → Value
  | .list items => .list (collapseList items)
  | .dict items => .dict (fromPairs (collapseItems items))
  | value => value
def collapseList : List Value → List Value
  | [] => []
  | value :: rest => collapse value :: collapseList rest
def collapseItems : List (Key × Value) → List (Key × Value)
  | [] => []
  | (key,value) :: rest => (key,collapse value) :: collapseItems rest
end

-- `none` is a JSONDecodeError.
def loads (text : String) : Option Value :=
  (scanValue floats (text.length + 1) (skipSpace text.toList)).bind (fun (value,rest) =>
    if skipSpace rest = [] then some (collapse value) else none)

end Loads

theorem hexValue_hexDigit : ∀ n < 16, hexValue (hexDigit n) = some n := by decide

theorem scanHex_digits (n : Nat) (rest : List Char) (small : n < 65536) :
    scanHex (hexDigit (n / 4096 % 16) :: hexDigit (n / 256 % 16) :: hexDigit (n / 16 % 16) :: hexDigit (n % 16) :: rest) =
      some (n,rest) := by
  have digit : ∀ m, hexValue (hexDigit (m % 16)) = some (m % 16) := fun m => hexValue_hexDigit _ (by omega)
  simp only [scanHex,digit,Option.some.injEq,Prod.mk.injEq,and_true]
  omega

theorem scalar (c : Char) : c.toNat < 55296 ∨ (57343 < c.toNat ∧ c.toNat < 1114112) := by
  have valid := c.valid
  rcases valid with low | ⟨above,below⟩
  · exact .inl low
  · exact .inr ⟨above,below⟩

theorem scanUnicode_basic (c : Char) (rest : List Char) (basic : c.toNat < 65536) :
    scanUnicode ((unicodeEscape c.toNat).drop 2 ++ rest) = some (c,rest) := by
  have plain := scalar c
  simp only [unicodeEscape,List.drop_succ_cons,List.drop_zero,List.cons_append,List.nil_append,scanUnicode,
    scanHex_digits c.toNat rest basic,Option.bind_some]
  rw [if_neg (by omega),if_neg (by omega),Char.ofNat_toNat]

theorem scanUnicode_surrogates (high low : Nat) (rest : List Char) (first : 55296 ≤ high ∧ high ≤ 56319)
    (second : 56320 ≤ low ∧ low ≤ 57343) :
    scanUnicode ((unicodeEscape high).drop 2 ++ (unicodeEscape low ++ rest)) =
      some (Char.ofNat (65536 + (high - 55296) * 1024 + (low - 56320)),rest) := by
  have highRead := scanHex_digits high (unicodeEscape low ++ rest) (by omega)
  have lowRead := scanHex_digits low rest (by omega)
  simp only [unicodeEscape,List.cons_append,List.nil_append,List.drop_succ_cons,List.drop_zero] at highRead ⊢
  simp only [scanUnicode,highRead,lowRead,Option.bind_some,if_pos first,if_pos second]

theorem scanUnicode_pair (c : Char) (rest : List Char) (beyond : ¬ c.toNat < 65536) :
    scanUnicode ((unicodeEscape (55296 + (c.toNat - 65536) / 1024)).drop 2 ++
      (unicodeEscape (56320 + (c.toNat - 65536) % 1024) ++ rest)) = some (c,rest) := by
  have plain := scalar c
  obtain ⟨offset,place⟩ : ∃ offset, c.toNat = 65536 + offset := ⟨c.toNat - 65536,by omega⟩
  have within : offset / 1024 < 1024 := by omega
  have whole : 65536 + (55296 + offset / 1024 - 55296) * 1024 + (56320 + offset % 1024 - 56320) = c.toNat := by omega
  rw [show c.toNat - 65536 = offset by omega,
    scanUnicode_surrogates (55296 + offset / 1024) (56320 + offset % 1024) rest (by omega) (by omega),whole,Char.ofNat_toNat]

theorem scanEscape_unicode (rest : List Char) : scanEscape ('u' :: rest) = scanUnicode rest := by
  simp [scanEscape]

-- The forms in which a character is written.
inductive Escaped (c : Char) : List Char → Prop where
  | plain (printable : 32 ≤ c.toNat) (quote : c ≠ '"') (backslash : c ≠ '\\') : Escaped c [c]
  | short (letter : Char) (read : ∀ rest, scanEscape (letter :: rest) = some (c,rest)) : Escaped c ['\\',letter]
  | basic (inside : c.toNat < 65536) : Escaped c (unicodeEscape c.toNat)
  | pair (beyond : ¬ c.toNat < 65536) :
      Escaped c (unicodeEscape (55296 + (c.toNat - 65536) / 1024) ++ unicodeEscape (56320 + (c.toNat - 65536) % 1024))

theorem escapeChar_escaped (c : Char) : Escaped c (escapeChar c) := by
  have control : ∀ letter code, (∀ rest, scanEscape (letter :: rest) = some (Char.ofNat code,rest)) → c.toNat = code →
      Escaped c ['\\',letter] := by
    intro letter code read same
    rw [← same,Char.ofNat_toNat] at read
    exact .short letter read
  unfold escapeChar
  by_cases quote : c = '"'
  · rw [if_pos quote]
    exact .short '"' (fun rest => by rw [quote]; rfl)
  rw [if_neg quote]
  by_cases backslash : c = '\\'
  · rw [if_pos backslash]
    exact .short '\\' (fun rest => by rw [backslash]; rfl)
  rw [if_neg backslash]
  by_cases newline : c = '\n'
  · rw [if_pos newline]
    exact .short 'n' (fun rest => by rw [newline]; rfl)
  rw [if_neg newline]
  by_cases carriage : c = '\r'
  · rw [if_pos carriage]
    exact .short 'r' (fun rest => by rw [carriage]; rfl)
  rw [if_neg carriage]
  by_cases tab : c = '\t'
  · rw [if_pos tab]
    exact .short 't' (fun rest => by rw [tab]; rfl)
  rw [if_neg tab]
  by_cases formFeed : c.toNat = 12
  · rw [if_pos formFeed]
    exact control 'f' 12 (fun _ => rfl) formFeed
  rw [if_neg formFeed]
  by_cases backspace : c.toNat = 8
  · rw [if_pos backspace]
    exact control 'b' 8 (fun _ => rfl) backspace
  rw [if_neg backspace]
  by_cases printable : 32 ≤ c.toNat ∧ c.toNat ≤ 126
  · rw [if_pos printable]
    exact .plain printable.1 quote backslash
  rw [if_neg printable]
  by_cases inside : c.toNat < 65536
  · rw [if_pos inside]
    exact .basic inside
  · rw [if_neg inside]
    exact .pair inside

-- One written character is one read character.
theorem scanString_escapeChar (fuel : Nat) (c : Char) (rest : List Char) :
    scanString (fuel + 1) (escapeChar c ++ rest) = (scanString fuel rest).map (fun (text,rest) => (c :: text,rest)) := by
  have escaped : ∀ body, scanEscape body = some (c,rest) →
      scanString (fuel + 1) ('\\' :: body) = (scanString fuel rest).map (fun (text,rest) => (c :: text,rest)) := by
    intro body read
    simp [scanString,read]
  have forms := escapeChar_escaped c
  generalize escapeChar c = chars at forms
  cases forms with
  | plain printable quote backslash =>
    simp only [List.cons_append,List.nil_append,scanString,if_neg quote,if_neg backslash]
    rw [if_neg (by omega)]
  | short letter read => exact escaped _ (read rest)
  | basic inside => exact escaped _ ((scanEscape_unicode _).trans (scanUnicode_basic c rest inside))
  | pair beyond =>
    rw [List.append_assoc]
    exact escaped _ ((scanEscape_unicode _).trans (scanUnicode_pair c rest beyond))

theorem scanString_quoted (text rest : List Char) (fuel : Nat) (enough : text.length < fuel) :
    scanString fuel (text.flatMap escapeChar ++ '"' :: rest) = some (text,rest) := by
  induction text generalizing fuel with
  | nil =>
    cases fuel with
    | zero => cases enough
    | succ fuel => simp [scanString]
  | cons c text ih =>
    cases fuel with
    | zero => cases enough
    | succ fuel =>
      rw [List.flatMap_cons,List.append_assoc,scanString_escapeChar,ih fuel (by simpa using enough)]
      rfl

theorem escapeChar_positive (c : Char) : 0 < (escapeChar c).length := by
  have forms := escapeChar_escaped c
  generalize escapeChar c = chars at forms
  cases forms <;> simp [unicodeEscape]

theorem escaped_length (text : List Char) : text.length ≤ (text.flatMap escapeChar).length := by
  induction text with
  | nil => simp
  | cons c text ih =>
    have positive := escapeChar_positive c
    simp only [List.flatMap_cons,List.length_append,List.length_cons]
    omega

theorem digitChar_nonzero : ∀ n < 10, 0 < n → n.digitChar ≠ '0' := by decide

theorem toDigits_grammar (n : Nat) :
    Nat.toDigits 10 n = ['0'] ∨ ∃ first digits, Nat.toDigits 10 n = first :: digits ∧ first ≠ '0' ∧ Digits (first :: digits) := by
  have all : Digits (Nat.toDigits 10 n) := fun c member => Nat.isDigit_of_mem_toDigits (by omega) (by omega) member
  have leading : 0 < n → ∃ first digits, Nat.toDigits 10 n = first :: digits ∧ first ≠ '0' := by
    clear all
    induction n using Nat.strongRecOn with
    | ind n ih =>
      intro positive
      by_cases small : n < 10
      · exact ⟨n.digitChar,[],Nat.toDigits_of_lt_base small,digitChar_nonzero n small positive⟩
      · obtain ⟨first,digits,shape,nonzero⟩ := ih (n / 10) (by omega) (by omega)
        refine ⟨first,digits ++ [(n % 10).digitChar],?_,nonzero⟩
        rw [Nat.toDigits_of_base_le (by omega) (by omega),shape]
        rfl
  rcases Nat.eq_zero_or_pos n with rfl | positive
  · exact .inl (Nat.toDigits_zero 10)
  · obtain ⟨first,digits,shape,nonzero⟩ := leading positive
    exact .inr ⟨first,digits,shape,nonzero,shape ▸ all⟩

def intText (value : Int) : NumberText := ⟨if 0 ≤ value then [] else ['-'],Nat.toDigits 10 value.natAbs,[],[]⟩

theorem intText_grammar (value : Int) : (intText value).Grammar where
  sign := by
    unfold intText
    split <;> simp
  whole := toDigits_grammar value.natAbs
  fraction := .inl rfl
  exponent := .inl rfl

theorem intText_chars (value : Int) : (intText value).chars = (toString value).toList := by
  rw [Int.toString_eq_repr,Int.repr_eq_if]
  unfold intText NumberText.chars
  split
  · rename_i positive
    simp [show value.natAbs = value.toNat by omega]
  · rename_i negative
    simp [show value.natAbs = (-value).toNat by omega]

section Reading
variable (floats : Floats)

theorem scanNumber_int (value : Int) {rest : List Char} (ends : Ends rest) :
    scanNumber floats ((toString value).toList ++ rest) = some (.int value,rest) := by
  rw [← intText_chars]
  have digits : Nat.ofDigitChars 10 (Nat.toDigits 10 value.natAbs) 0 = value.natAbs := by simp
  simp only [scanNumber,scanNumberText_chars (intText_grammar value) ends,Option.map_some,Option.some.injEq,Prod.mk.injEq,
    and_true]
  simp only [intText,and_self,if_true,digits,Value.int.injEq]
  by_cases positive : 0 ≤ value
  · rw [if_pos (if_pos positive)]
    omega
  · rw [if_neg (by simp [positive])]
    omega

theorem scanNumber_float {value : Rat} {text : String} (genuine : floats.repr value text) {rest : List Char} (ends : Ends rest) :
    scanNumber floats (text.toList ++ rest) = some (.float value text,rest) := by
  obtain ⟨number,grammar,chars,float⟩ := floats.shaped value text genuine
  have notInt : ¬ (number.fraction = [] ∧ number.exponent = []) := by
    rintro ⟨noFraction,noExponent⟩
    exact float.elim (fun some => some noFraction) (fun some => some noExponent)
  have read := scanNumberText_chars grammar ends
  rw [chars] at read
  simp only [scanNumber,read,Option.map_some,if_neg notInt,chars,String.ofList_toList,floats.reads value text genuine]

theorem scanWord_self (word : String) (value : Value) (rest : List Char) :
    scanWord word value (word.toList ++ rest) = some (value,rest) := by
  unfold scanWord
  rw [if_pos (List.isPrefixOf_iff_prefix.mpr (List.prefix_append _ _)),← String.length_toList,List.drop_left]

theorem scanWord_other (word : String) {first c : Char} {tail rest : List Char} (shape : word.toList = first :: tail)
    (different : first ≠ c) (value : Value) : scanWord word value (c :: rest) = none := by
  simp [scanWord,shape,different]

def NumberHead (c : Char) : Prop := c = '-' ∨ c.isDigit = true

theorem grammar_head {number : NumberText} (grammar : number.Grammar) : ∃ c tail, number.chars = c :: tail ∧ NumberHead c := by
  unfold NumberText.chars
  rcases grammar.sign with none | minus
  · rcases grammar.whole with zero | ⟨first,digits,shape,_,all⟩
    · exact ⟨'0',_,by rw [none,zero]; rfl,.inr rfl⟩
    · exact ⟨first,_,by rw [none,shape]; rfl,.inr (all first (by simp))⟩
  · exact ⟨'-',_,by rw [minus]; rfl,.inl rfl⟩

theorem scanAtom_number {c : Char} {tail rest : List Char} {value : Value} (head : NumberHead c)
    (number : scanNumber floats (c :: tail) = some (value,rest)) : scanAtom floats (c :: tail) = some (value,rest) := by
  have skip : ∀ first : Char, first ∈ ['n','t','f'] → first ≠ c := by
    rintro first member rfl
    rcases head with minus | digit
    · subst minus
      simp at member
    · simp only [List.mem_cons,List.not_mem_nil,or_false] at member
      rcases member with rfl | rfl | rfl <;> cases digit
  unfold scanAtom
  rw [scanWord_other "null" rfl (skip 'n' (by simp)),scanWord_other "true" rfl (skip 't' (by simp)),
    scanWord_other "false" rfl (skip 'f' (by simp)),number]
  rfl

end Reading

-- The items of an array or an object between `, `.
def joined : List (List Char) → List Char
  | [] => []
  | [text] => text
  | text :: next :: rest => text ++ ',' :: ' ' :: joined (next :: rest)

-- The text of a value as it stands, its keys in their order.
mutual
def render : Value → List Char
  | .none => "null".toList
  | .bool value => (if value then "true" else "false").toList
  | .int value => (toString value).toList
  | .float _ repr => repr.toList
  | .nonFinite repr => repr.toList
  | .str value => (quote value).toList
  | .other text => (quote text).toList
  | .list items => '[' :: (joined (renderList items) ++ [']'])
  | .dict items => '\x7b' :: (joined (renderItems items) ++ ['\x7d'])
def renderList : List Value → List (List Char)
  | [] => []
  | value :: rest => render value :: renderList rest
def renderItems : List (Key × Value) → List (List Char)
  | [] => []
  | (key,value) :: rest => ((quote key.text).toList ++ ':' :: ' ' :: render value) :: renderItems rest
end

section Plain
variable (floats : Floats)

-- The values JSON texts stand for.
mutual
def Plain : Value → Prop
  | .none | .bool _ | .int _ | .str _ => True
  | .float value repr => floats.repr value repr
  | .nonFinite repr => repr = "NaN" ∨ repr = "Infinity" ∨ repr = "-Infinity"
  | .other _ => False
  | .list items => PlainList items
  | .dict items => PlainItems items
def PlainList : List Value → Prop
  | [] => True
  | value :: rest => Plain value ∧ PlainList rest
def PlainItems : List (Key × Value) → Prop
  | [] => True
  | (key,value) :: rest => key.string.isSome = true ∧ Plain value ∧ PlainItems rest
end

theorem skipSpace_stays {c : Char} (rest : List Char) (visible : isJsonSpace c = false) : skipSpace (c :: rest) = c :: rest := by
  simp [skipSpace,visible]

-- A value starts with a character that is no space and closes nothing.
structure Opens (c : Char) : Prop where
  visible : isJsonSpace c = false
  bracket : c ≠ ']'
  brace : c ≠ '\x7d'

theorem numberHead_opens {c : Char} (head : NumberHead c) : Opens c := by
  rcases head with rfl | digit
  · exact ⟨rfl,by decide,by decide⟩
  · refine ⟨?_,?_,?_⟩
    · cases space : isJsonSpace c with
      | false => rfl
      | true =>
        simp only [isJsonSpace,Bool.or_eq_true,decide_eq_true_eq] at space
        rcases space with ((rfl | rfl) | rfl) | rfl <;> cases digit
    · rintro rfl
      cases digit
    · rintro rfl
      cases digit

theorem number_opens {number : NumberText} {text : List Char} (grammar : number.Grammar) (chars : number.chars = text) :
    ∃ c tail, text = c :: tail ∧ Opens c := by
  obtain ⟨c,tail,shape,head⟩ := grammar_head grammar
  exact ⟨c,tail,chars.symm.trans shape,numberHead_opens head⟩

theorem quote_chars (text : String) : (quote text).toList = '"' :: (text.toList.flatMap escapeChar ++ ['"']) := by
  simp [quote]

theorem render_opens (value : Value) (plain : Plain floats value) : ∃ c tail, render value = c :: tail ∧ Opens c := by
  cases value with
  | none => exact ⟨_,_,rfl,rfl,by decide,by decide⟩
  | bool value => cases value <;> exact ⟨_,_,rfl,rfl,by decide,by decide⟩
  | int value => exact number_opens (intText_grammar value) (intText_chars value)
  | float value repr =>
    obtain ⟨number,grammar,chars,_⟩ := floats.shaped value repr plain
    exact number_opens grammar chars
  | nonFinite repr => rcases plain with rfl | rfl | rfl <;> exact ⟨_,_,rfl,rfl,by decide,by decide⟩
  | str value => exact ⟨_,_,quote_chars value,rfl,by decide,by decide⟩
  | list items => exact ⟨_,_,rfl,rfl,by decide,by decide⟩
  | dict items => exact ⟨_,_,rfl,rfl,by decide,by decide⟩
  | other text => exact plain.elim

theorem ends_cons {c : Char} (rest : List Char) (closes : c ∈ [',',']','\x7d']) : Ends (c :: rest) := by
  intro d head
  simp only [List.head?_cons,Option.mem_def,Option.some.injEq] at head
  subst head
  simp only [List.mem_cons,List.not_mem_nil,or_false] at closes
  rcases closes with rfl | rfl | rfl <;> decide

theorem scanString_text (text : String) (rest : List Char) :
    scanString ((text.toList.flatMap escapeChar ++ '"' :: rest).length + 1) (text.toList.flatMap escapeChar ++ '"' :: rest) =
      some (text.toList,rest) := by
  refine scanString_quoted text.toList rest _ ?_
  have enough := escaped_length text.toList
  simp only [List.length_append]
  omega

-- What a value's text reads as where nothing but its own head decides.
theorem scanValue_number {c : Char} {tail rest : List Char} {value : Value} (fuel : Nat) (head : NumberHead c)
    (number : scanNumber floats (c :: tail) = some (value,rest)) : scanValue floats (fuel + 1) (c :: tail) = some (value,rest) := by
  have plain : c ≠ '"' ∧ c ≠ '[' ∧ c ≠ '\x7b' := by
    rcases head with rfl | digit
    · decide
    · refine ⟨?_,?_,?_⟩ <;> rintro rfl <;> cases digit
  simp only [scanValue,if_neg plain.1,if_neg plain.2.1,if_neg plain.2.2]
  exact scanAtom_number floats head number

theorem scanValue_grammar {number : NumberText} {text rest : List Char} {value : Value} (fuel : Nat) (grammar : number.Grammar)
    (chars : number.chars = text) (read : scanNumber floats (text ++ rest) = some (value,rest)) :
    scanValue floats (fuel + 1) (text ++ rest) = some (value,rest) := by
  obtain ⟨c,tail,shape,head⟩ := grammar_head grammar
  rw [chars] at shape
  rw [shape] at read ⊢
  exact scanValue_number floats fuel head read

theorem scanValue_string (fuel : Nat) (text : String) (rest : List Char) :
    scanValue floats (fuel + 1) ((quote text).toList ++ rest) = some (.str text,rest) := by
  have body := scanString_text text rest
  rw [quote_chars,List.cons_append,List.append_assoc,scanValue,if_pos rfl]
  rw [List.singleton_append,body]
  simp

theorem scanValue_word (fuel : Nat) (repr : String) (rest : List Char) (word : repr = "NaN" ∨ repr = "Infinity" ∨ repr = "-Infinity") :
    scanValue floats (fuel + 1) (repr.toList ++ rest) = some (.nonFinite repr,rest) := by
  rcases word with rfl | rfl | rfl
  · have read := scanWord_self "NaN" (.nonFinite "NaN") rest
    simp [scanValue,scanAtom,scanWord,scanNumber,scanNumberText,scanMinus,scanInteger] at read ⊢
    exact read
  · have read := scanWord_self "Infinity" (.nonFinite "Infinity") rest
    simp [scanValue,scanAtom,scanWord,scanNumber,scanNumberText,scanMinus,scanInteger] at read ⊢
    exact read
  · have read := scanWord_self "-Infinity" (.nonFinite "-Infinity") rest
    simp [scanValue,scanAtom,scanWord,scanNumber,scanNumberText,scanMinus,scanInteger] at read ⊢
    exact read

theorem scanValue_null (fuel : Nat) (rest : List Char) : scanValue floats (fuel + 1) ("null".toList ++ rest) = some (.none,rest) := by
  have read := scanWord_self "null" .none rest
  simp [scanValue,scanAtom,scanWord] at read ⊢
  exact read

theorem scanValue_bool (fuel : Nat) (value : Bool) (rest : List Char) :
    scanValue floats (fuel + 1) ((if value then "true" else "false").toList ++ rest) = some (.bool value,rest) := by
  cases value with
  | true =>
    have read := scanWord_self "true" (.bool true) rest
    simp [scanValue,scanAtom,scanWord] at read ⊢
    exact read
  | false =>
    have read := scanWord_self "false" (.bool false) rest
    simp [scanValue,scanAtom,scanWord] at read ⊢
    exact read

theorem joined_opens {text : List Char} (rest : List (List Char)) (head : ∃ c tail, text = c :: tail ∧ Opens c) :
    ∃ c tail, joined (text :: rest) = c :: tail ∧ Opens c := by
  obtain ⟨c,tail,rfl,opens⟩ := head
  cases rest with
  | nil => exact ⟨c,tail,rfl,opens⟩
  | cons next rest => exact ⟨c,tail ++ ',' :: ' ' :: joined (next :: rest),rfl,opens⟩

theorem skipSpace_opens {text : List Char} (rest : List Char) (head : ∃ c tail, text = c :: tail ∧ Opens c) :
    skipSpace (text ++ rest) = text ++ rest := by
  obtain ⟨c,tail,rfl,opens⟩ := head
  exact skipSpace_stays _ opens.visible

-- A value whose text reads as the value, whatever may follow it.
structure Reads (value : Value) : Prop where
  opens : ∃ c tail, render value = c :: tail ∧ Opens c
  back : ∀ fuel rest, (render value).length ≤ fuel → Ends rest → scanValue floats fuel (render value ++ rest) = some (value,rest)

theorem reads_of_step {value : Value} (opens : ∃ c tail, render value = c :: tail ∧ Opens c)
    (step : ∀ fuel rest, (render value).length ≤ fuel + 1 → Ends rest →
      scanValue floats (fuel + 1) (render value ++ rest) = some (value,rest)) : Reads floats value := by
  refine ⟨opens,?_⟩
  intro fuel rest enough ends
  cases fuel with
  | zero =>
    obtain ⟨c,tail,shape,_⟩ := opens
    rw [shape] at enough
    cases enough
  | succ fuel => exact step fuel rest enough ends

theorem scanElements_joined (value : Value) (items : List Value) (each : ∀ item ∈ value :: items, Reads floats item)
    (fuel : Nat) (rest : List Char) (enough : (joined (renderList (value :: items))).length < fuel) :
    scanElements floats fuel (joined (renderList (value :: items)) ++ ']' :: rest) = some (value :: items,rest) := by
  induction items generalizing value fuel with
  | nil =>
    obtain ⟨fuel,rfl⟩ : ∃ more, fuel = more + 1 := ⟨fuel - 1,by omega⟩
    simp only [renderList,joined] at enough ⊢
    have read := (each value (by simp)).back fuel (']' :: rest) (by omega) (ends_cons rest (by simp))
    simp [scanElements,read,skipSpace,isJsonSpace]
  | cons next items ih =>
    obtain ⟨fuel,rfl⟩ : ∃ more, fuel = more + 1 := ⟨fuel - 1,by omega⟩
    simp only [renderList,joined,List.length_append,List.length_cons] at enough ih ⊢
    have read := (each value (by simp)).back fuel (',' :: ' ' :: (joined (render next :: renderList items) ++ ']' :: rest))
      (by omega) (ends_cons _ (by simp))
    have later := ih next (fun item member => each item (List.mem_cons_of_mem _ member)) fuel (by omega)
    have comma : skipSpace (',' :: ' ' :: (joined (render next :: renderList items) ++ ']' :: rest)) =
        ',' :: ' ' :: (joined (render next :: renderList items) ++ ']' :: rest) := skipSpace_stays _ rfl
    have space : skipSpace (' ' :: (joined (render next :: renderList items) ++ ']' :: rest)) =
        joined (render next :: renderList items) ++ ']' :: rest := by
      have stays := skipSpace_opens (']' :: rest) (joined_opens (renderList items) (each next (by simp)).opens)
      simpa [skipSpace,isJsonSpace] using stays
    rw [List.append_assoc,List.cons_append,List.cons_append,scanElements,read]
    simp [comma,space,later]

theorem string_key {key : Key} (named : key.string.isSome = true) : key = .str key.text := by
  cases key <;> first | rfl | cases named

theorem member_opens (key : Key) (value : Value) :
    ∃ c tail, (quote key.text).toList ++ ':' :: ' ' :: render value = c :: tail ∧ Opens c := by
  rw [quote_chars]
  exact ⟨_,_,rfl,rfl,by decide,by decide⟩

-- One member up to the comma or the brace behind it.
theorem scanMembers_member {key : Key} {value : Value} (named : key.string.isSome = true) (reads : Reads floats value)
    (fuel : Nat) (next : Char) (after : List Char) (enough : (render value).length ≤ fuel) (closes : next ∈ [',','\x7d']) :
    scanMembers floats (fuel + 1) (((quote key.text).toList ++ ':' :: ' ' :: render value) ++ next :: after) =
      if next = ',' then (scanMembers floats fuel (skipSpace after)).map (fun (items,rest) => ((key,value) :: items,rest))
      else some ([(key,value)],after) := by
  have body := scanString_text key.text (':' :: ' ' :: (render value ++ next :: after))
  have ends : Ends (next :: after) := ends_cons after (by
    simp only [List.mem_cons,List.not_mem_nil,or_false] at closes ⊢
    tauto)
  have read := reads.back fuel (next :: after) enough ends
  have colon : skipSpace (':' :: ' ' :: (render value ++ next :: after)) = ':' :: ' ' :: (render value ++ next :: after) :=
    skipSpace_stays _ rfl
  have space : skipSpace (' ' :: (render value ++ next :: after)) = render value ++ next :: after := by
    have stays := skipSpace_opens (next :: after) reads.opens
    simpa [skipSpace,isJsonSpace] using stays
  have stop : skipSpace (next :: after) = next :: after := by
    refine skipSpace_stays _ ?_
    simp only [List.mem_cons,List.not_mem_nil,or_false] at closes
    rcases closes with rfl | rfl <;> rfl
  have shape : ((quote key.text).toList ++ ':' :: ' ' :: render value) ++ next :: after =
      '"' :: (key.text.toList.flatMap escapeChar ++ '"' :: ':' :: ' ' :: (render value ++ next :: after)) := by
    simp [quote_chars]
  rw [shape,scanMembers,if_neg (by simp),body]
  simp only [Option.bind_some,colon,ne_eq,not_true_eq_false,if_false,space,read,stop,String.ofList_toList,← string_key named]
  simp only [List.mem_cons,List.not_mem_nil,or_false] at closes
  rcases closes with rfl | rfl <;> simp

theorem scanMembers_joined (key : Key) (value : Value) (items : List (Key × Value))
    (each : ∀ item ∈ (key,value) :: items, item.1.string.isSome = true ∧ Reads floats item.2)
    (fuel : Nat) (rest : List Char) (enough : (joined (renderItems ((key,value) :: items))).length < fuel) :
    scanMembers floats fuel (joined (renderItems ((key,value) :: items)) ++ '\x7d' :: rest) = some ((key,value) :: items,rest) := by
  induction items generalizing key value fuel with
  | nil =>
    obtain ⟨fuel,rfl⟩ : ∃ more, fuel = more + 1 := ⟨fuel - 1,by omega⟩
    simp only [renderItems,joined,List.length_append,List.length_cons] at enough ⊢
    obtain ⟨named,reads⟩ : key.string.isSome = true ∧ Reads floats value := each (key,value) (by simp)
    rw [scanMembers_member floats named reads fuel '\x7d' rest (by omega) (by simp),if_neg (by decide)]
  | cons next items ih =>
    obtain ⟨nextKey,nextValue⟩ := next
    obtain ⟨fuel,rfl⟩ : ∃ more, fuel = more + 1 := ⟨fuel - 1,by omega⟩
    simp only [renderItems,joined,List.length_append,List.length_cons] at enough ih ⊢
    obtain ⟨named,reads⟩ : key.string.isSome = true ∧ Reads floats value := each (key,value) (by simp)
    have later := ih nextKey nextValue (fun item member => each item (List.mem_cons_of_mem _ member)) fuel (by omega)
    have stays := skipSpace_opens ('\x7d' :: rest) (joined_opens (renderItems items) (member_opens nextKey nextValue))
    rw [List.append_assoc _ (',' :: _),List.cons_append,List.cons_append,
      scanMembers_member floats named reads fuel ',' _ (by omega) (by simp),if_pos rfl]
    have space : skipSpace (' ' :: (joined (((quote nextKey.text).toList ++ ':' :: ' ' :: render nextValue) :: renderItems items) ++
        '\x7d' :: rest)) = joined (((quote nextKey.text).toList ++ ':' :: ' ' :: render nextValue) :: renderItems items) ++
        '\x7d' :: rest := by simpa [skipSpace,isJsonSpace] using stays
    rw [space,later]
    rfl

theorem list_reads (items : List Value) (each : ∀ item ∈ items, Reads floats item) : Reads floats (.list items) := by
  refine reads_of_step floats ⟨_,_,rfl,rfl,by decide,by decide⟩ ?_
  intro fuel rest enough _
  cases items with
  | nil => simp [render,renderList,joined,scanValue,skipSpace,isJsonSpace]
  | cons value items =>
    simp only [render,List.length_append,List.length_cons,List.length_nil] at enough
    have read := scanElements_joined floats value items each fuel rest (by omega)
    obtain ⟨c,tail,shape,opens⟩ := joined_opens (renderList items) (each value (by simp)).opens
    have body : joined (renderList (value :: items)) = c :: tail := shape
    rw [body] at read
    simp only [render,body,List.cons_append,List.append_assoc,List.nil_append,scanValue] at read ⊢
    simp [skipSpace_stays _ opens.visible,opens.bracket,read]

theorem dict_reads (items : List (Key × Value)) (each : ∀ item ∈ items, item.1.string.isSome = true ∧ Reads floats item.2) :
    Reads floats (.dict items) := by
  refine reads_of_step floats ⟨_,_,rfl,rfl,by decide,by decide⟩ ?_
  intro fuel rest enough _
  cases items with
  | nil => simp [render,renderItems,joined,scanValue,skipSpace,isJsonSpace]
  | cons item items =>
    obtain ⟨key,value⟩ := item
    simp only [render,List.length_append,List.length_cons,List.length_nil] at enough
    have read := scanMembers_joined floats key value items each fuel rest (by omega)
    obtain ⟨c,tail,shape,opens⟩ := joined_opens (renderItems items) (member_opens key value)
    have body : joined (renderItems ((key,value) :: items)) = c :: tail := shape
    rw [body] at read
    simp only [render,body,List.cons_append,List.append_assoc,List.nil_append,scanValue] at read ⊢
    simp [skipSpace_stays _ opens.visible,opens.brace,read]

mutual
theorem plain_reads : (value : Value) → Plain floats value → Reads floats value
  | .none,_ => reads_of_step floats ⟨_,_,rfl,rfl,by decide,by decide⟩ (fun fuel rest _ _ => scanValue_null floats fuel rest)
  | .bool value,plain => reads_of_step floats (render_opens floats _ plain) (fun fuel rest _ _ => scanValue_bool floats fuel value rest)
  | .int value,plain => reads_of_step floats (render_opens floats _ plain) (fun fuel _ _ ends =>
    scanValue_grammar floats fuel (intText_grammar value) (intText_chars value) (scanNumber_int floats value ends))
  | .float value repr,plain => reads_of_step floats (render_opens floats _ plain) (fun fuel _ _ ends => by
    obtain ⟨number,grammar,chars,_⟩ := floats.shaped value repr plain
    exact scanValue_grammar floats fuel grammar chars (scanNumber_float floats plain ends))
  | .nonFinite repr,plain => reads_of_step floats (render_opens floats _ plain) (fun fuel rest _ _ =>
    scanValue_word floats fuel repr rest plain)
  | .str value,plain => reads_of_step floats (render_opens floats _ plain) (fun fuel rest _ _ => scanValue_string floats fuel value rest)
  | .other _,plain => plain.elim
  | .list items,plain => list_reads floats items (plainList_reads items plain)
  | .dict items,plain => dict_reads floats items (plainItems_reads items plain)
theorem plainList_reads : (items : List Value) → PlainList floats items → ∀ item ∈ items, Reads floats item
  | [],_,_,member => by cases member
  | value :: rest,plain,item,member => by
    rcases List.mem_cons.mp member with same | later
    · rw [same]
      exact plain_reads value plain.1
    · exact plainList_reads rest plain.2 item later
theorem plainItems_reads : (items : List (Key × Value)) → PlainItems floats items →
    ∀ item ∈ items, item.1.string.isSome = true ∧ Reads floats item.2
  | [],_,_,member => by cases member
  | (key,value) :: rest,plain,item,member => by
    rcases List.mem_cons.mp member with same | later
    · rw [same]
      exact ⟨plain.1,plain_reads value plain.2.1⟩
    · exact plainItems_reads rest plain.2.2 item later
end

-- A rendered text reads as the value, but for keys that come twice.
theorem loads_render (value : Value) (plain : Plain floats value) :
    loads floats (String.ofList (render value)) = some (collapse value) := by
  have reads := plain_reads floats value plain
  have read := reads.back ((render value).length + 1) [] (by omega) (by intro c head; cases head)
  have stays := skipSpace_opens [] reads.opens
  have finished : skipSpace [] = [] := rfl
  simp only [List.append_nil] at read stays
  simp [loads,stays,read,finished]

-- The text determines the value.
theorem render_injective {left right : Value} (plainLeft : Plain floats left) (plainRight : Plain floats right)
    (same : render left = render right) : left = right := by
  have ends : Ends [] := by intro c head; cases head
  have readLeft := (plain_reads floats left plainLeft).back _ [] (Nat.le_refl _) ends
  have readRight := (plain_reads floats right plainRight).back _ [] (Nat.le_refl _) ends
  rw [same,readRight] at readLeft
  cases readLeft
  rfl

end Plain

section Printable

-- A JSON text is printable ASCII; so it has no line break in it.
def Printable (chars : List Char) : Prop := ∀ c ∈ chars, 32 ≤ c.toNat ∧ c.toNat ≤ 126

theorem printable_of_all {chars : List Char} (all : chars.all (fun c => decide (32 ≤ c.toNat) && decide (c.toNat ≤ 126)) = true) : Printable chars := by
  intro c member
  have range := List.all_eq_true.mp all c member
  simp only [Bool.and_eq_true,decide_eq_true_eq] at range
  exact range

theorem Printable.append {left right : List Char} (first : Printable left) (second : Printable right) : Printable (left ++ right) := by
  intro c member
  rcases List.mem_append.mp member with inside | inside
  · exact first c inside
  · exact second c inside

theorem Printable.cons {c : Char} {rest : List Char} (first : 32 ≤ c.toNat ∧ c.toNat ≤ 126) (second : Printable rest) : Printable (c :: rest) := by
  intro d member
  rcases List.mem_cons.mp member with rfl | inside
  · exact first
  · exact second d inside

theorem digits_printable {chars : List Char} (digits : Digits chars) : Printable chars := by
  intro c member
  have digit := digits c member
  simp only [Char.isDigit,Bool.and_eq_true,decide_eq_true_eq] at digit
  have low : 48 ≤ c.toNat := digit.1
  have high : c.toNat ≤ 57 := digit.2
  omega

theorem number_printable {number : NumberText} (grammar : number.Grammar) : Printable number.chars := by
  have nothing : Printable [] := fun _ member => by cases member
  have sign : Printable number.sign := by
    rcases grammar.sign with shape | shape
    · rw [shape]
      exact nothing
    · rw [shape]
      exact nothing.cons (by decide)
  have whole : Printable number.whole := by
    rcases grammar.whole with shape | ⟨first,digits,shape,_,all⟩
    · rw [shape]
      exact nothing.cons (by decide)
    · rw [shape]
      exact digits_printable all
  have fraction : Printable number.fraction := by
    rcases grammar.fraction with shape | ⟨digits,shape,_,all⟩
    · rw [shape]
      exact nothing
    · rw [shape]
      exact (digits_printable all).cons (by decide)
  have exponent : Printable number.exponent := by
    rcases grammar.exponent with shape | ⟨mark,plus,digits,shape,marked,signed,_,all⟩
    · rw [shape]
      exact nothing
    · have front : Printable plus := by
        rcases signed with rfl | rfl | rfl
        · exact nothing
        · exact nothing.cons (by decide)
        · exact nothing.cons (by decide)
      rw [shape]
      apply (front.append (digits_printable all)).cons
      rcases marked with rfl | rfl <;> decide
  exact ((sign.append whole).append fraction).append exponent

theorem hexDigit_printable (n : Nat) : 32 ≤ (hexDigit (n % 16)).toNat ∧ (hexDigit (n % 16)).toNat ≤ 126 := by
  have every : ∀ k < 16, 32 ≤ (hexDigit k).toNat ∧ (hexDigit k).toNat ≤ 126 := by decide
  exact every (n % 16) (Nat.mod_lt n (by omega))

theorem unicodeEscape_printable (n : Nat) : Printable (unicodeEscape n) := by
  intro c member
  simp only [unicodeEscape,List.mem_cons,List.not_mem_nil,or_false] at member
  rcases member with rfl | rfl | rfl | rfl | rfl | rfl
  · decide
  · decide
  all_goals exact hexDigit_printable _

theorem escapeChar_printable (c : Char) : Printable (escapeChar c) := by
  have short : ∀ letter : Char, 32 ≤ letter.toNat ∧ letter.toNat ≤ 126 → Printable ['\\',letter] := by
    intro letter known d member
    simp only [List.mem_cons,List.not_mem_nil,or_false] at member
    rcases member with rfl | rfl
    · decide
    · exact known
  have either {p : Prop} [Decidable p] {yes no : List Char} (first : p → Printable yes) (second : ¬p → Printable no) :
      Printable (if p then yes else no) := by
    split
    · exact first ‹p›
    · exact second ‹¬p›
  unfold escapeChar
  refine either (fun _ => short _ (by decide)) (fun _ => ?_)
  refine either (fun _ => short _ (by decide)) (fun _ => ?_)
  refine either (fun _ => short _ (by decide)) (fun _ => ?_)
  refine either (fun _ => short _ (by decide)) (fun _ => ?_)
  refine either (fun _ => short _ (by decide)) (fun _ => ?_)
  refine either (fun _ => short _ (by decide)) (fun _ => ?_)
  refine either (fun _ => short _ (by decide)) (fun _ => ?_)
  refine either (fun printable => ?_) (fun _ => ?_)
  · intro d member
    cases List.mem_singleton.mp member
    exact printable
  · exact either (fun _ => unicodeEscape_printable _) (fun _ => (unicodeEscape_printable _).append (unicodeEscape_printable _))

theorem quote_printable (text : String) : Printable (quote text).toList := by
  rw [quote_chars]
  apply Printable.cons (by decide)
  apply Printable.append
  · intro c member
    obtain ⟨d,_,inside⟩ := List.mem_flatMap.mp member
    exact escapeChar_printable d c inside
  · intro c member
    cases List.mem_singleton.mp member
    decide

theorem joined_printable {texts : List (List Char)} (all : ∀ text ∈ texts, Printable text) : Printable (joined texts) := by
  induction texts with
  | nil =>
    intro c member
    cases member
  | cons text rest ih =>
    cases rest with
    | nil => exact all text List.mem_cons_self
    | cons next others =>
      have later := ih (fun other member => all other (List.mem_cons_of_mem _ member))
      exact (all text List.mem_cons_self).append ((later.cons (by decide)).cons (by decide))

theorem closed_printable {body : List Char} {left right : Char} (first : 32 ≤ left.toNat ∧ left.toNat ≤ 126)
    (last : 32 ≤ right.toNat ∧ right.toNat ≤ 126) (inside : Printable body) : Printable (left :: (body ++ [right])) := by
  apply Printable.cons first
  apply inside.append
  intro c member
  cases List.mem_singleton.mp member
  exact last

variable (floats : Floats)

mutual
theorem render_printable : (value : Value) → Plain floats value → Printable (render value)
  | .none,_ => printable_of_all (by decide)
  | .bool true,_ => printable_of_all (by decide)
  | .bool false,_ => printable_of_all (by decide)
  | .int value,_ => by
    have text := number_printable (intText_grammar value)
    rw [intText_chars] at text
    exact text
  | .float value repr,plain => by
    obtain ⟨number,grammar,chars,_⟩ := floats.shaped value repr plain
    have text := number_printable grammar
    rw [chars] at text
    exact text
  | .nonFinite repr,plain => by rcases plain with rfl | rfl | rfl <;> exact printable_of_all (by decide)
  | .str value,_ => quote_printable value
  | .other _,plain => plain.elim
  | .list items,plain => closed_printable (by decide) (by decide) (joined_printable (renderList_printable items plain))
  | .dict items,plain => closed_printable (by decide) (by decide) (joined_printable (renderItems_printable items plain))
theorem renderList_printable : (items : List Value) → PlainList floats items → ∀ text ∈ renderList items, Printable text
  | [],_,_,member => by cases member
  | value :: rest,plain,text,member => by
    rcases List.mem_cons.mp member with same | later
    · rw [same]
      exact render_printable value plain.1
    · exact renderList_printable rest plain.2 text later
theorem renderItems_printable : (items : List (Key × Value)) → PlainItems floats items → ∀ text ∈ renderItems items, Printable text
  | [],_,_,member => by cases member
  | (key,value) :: rest,plain,text,member => by
    rcases List.mem_cons.mp member with same | later
    · rw [same]
      exact (quote_printable key.text).append (((render_printable value plain.2.1).cons (by decide)).cons (by decide))
    · exact renderItems_printable rest plain.2.2 text later
end
end Printable

-- What `json.dumps(value, sort_keys=True, default=str)` writes: every key as its text,
-- the keys in sorted order, another object as its `str`.
mutual
def written : Value → Option Value
  | .other text => some (.str text)
  | .list items => (writtenList items).map .list
  | .dict items => ((writtenItems items).bind sortItems).map (fun sorted =>
    .dict (sorted.map (fun item => (.str item.1.text,item.2))))
  | value => some value
def writtenList : List Value → Option (List Value)
  | [] => some []
  | value :: rest => (written value).bind (fun value => (writtenList rest).map (value :: ·))
def writtenItems : List (Key × Value) → Option (List (Key × Value))
  | [] => some []
  | (key,value) :: rest => (written value).bind (fun value => (writtenItems rest).map ((key,value) :: ·))
end

-- Sorting looks at the keys alone.
theorem sortItems_map (f : α → β) (items : List (Key × α)) :
    sortItems (items.map (fun item => (item.1,f item.2))) =
      (sortItems items).map (List.map (fun item => (item.1,f item.2))) := by
  unfold sortItems
  simp only [List.length_map,List.all_map,Function.comp_def]
  split
  · rfl
  · split
    · refine congrArg some (List.map_insertionSort _ _ (fun item => (item.1,f item.2)) items ?_).symm
      exact fun _ _ _ _ => Iff.rfl
    · split
      · refine congrArg some (List.map_insertionSort _ _ (fun item => (item.1,f item.2)) items ?_).symm
        exact fun _ _ _ _ => Iff.rfl
      · rfl

theorem sortItems_perm {items sorted : List (Key × α)} (success : sortItems items = some sorted) : sorted.Perm items := by
  unfold sortItems at success
  split at success
  · cases success
    exact .refl _
  · split at success
    · cases success
      exact List.perm_insertionSort _ _
    · split at success
      · cases success
        exact List.perm_insertionSort _ _
      · cases success

@[simp] theorem Key.text_str (text : String) : (Key.str text).text = text := rfl

theorem intercalate_joined (texts : List (List Char)) :
    String.intercalate ", " (texts.map String.ofList) = String.ofList (joined texts) := by
  induction texts with
  | nil => rfl
  | cons text rest ih =>
    cases rest with
    | nil => simp [joined]
    | cons next rest =>
      simp only [List.map_cons] at ih ⊢
      rw [String.intercalate_cons_cons,ih]
      simp [joined,String.ofList_append,← String.toList_inj]

theorem renderList_map (items : List Value) : renderList items = items.map render := by
  induction items with
  | nil => rfl
  | cons value rest ih => simp [renderList,ih]

theorem renderItems_map (items : List (Key × Value)) :
    renderItems items = items.map (fun item => (quote item.1.text).toList ++ ':' :: ' ' :: render item.2) := by
  induction items with
  | nil => rfl
  | cons item rest ih => simp [renderItems,ih]

mutual
theorem dumps_written : (value : Value) → dumps spaced value = (written value).map (fun shown => String.ofList (render shown))
  | .none => rfl
  | .bool value => by simp [dumps,written,render]
  | .int value => by simp [dumps,written,render]
  | .float _ repr => by simp [dumps,written,render]
  | .nonFinite repr => by simp [dumps,written,render]
  | .str value => by simp [dumps,written,render]
  | .other text => by simp [dumps,written,render,spaced]
  | .list items => by
    rw [dumps,dumpsList_written items,written,Option.map_map,Option.map_map]
    congr 1
    funext shown
    have texts := intercalate_joined (shown.map render)
    rw [List.map_map] at texts
    simp only [Function.comp_apply,render,renderList_map,spaced]
    simp only [Function.comp_def] at texts
    rw [texts]
    simp [← String.toList_inj]
  | .dict items => by
    rw [dumps,dumpsItems_written items,written,Option.map_map]
    cases writtenItems items with
    | none => rfl
    | some shown =>
      simp only [Option.map_some,Option.bind_some]
      rw [sortItems_map (fun shown => String.ofList (render shown)),Option.map_map]
      congr 1
      funext sorted
      have texts := intercalate_joined (renderItems (sorted.map (fun item => (.str item.1.text,item.2))))
      simp only [renderItems_map,List.map_map,Function.comp_def,Key.text_str] at texts
      simp only [Function.comp_apply,render,renderItems_map,List.map_map,Function.comp_def,Key.text_str,spaced]
      have shape : (fun item : Key × Value => quote item.1.text ++ ": " ++ String.ofList (render item.2)) =
          fun item => String.ofList ((quote item.1.text).toList ++ ':' :: ' ' :: render item.2) := by
        funext item
        simp [← String.toList_inj]
      rw [shape,texts]
      simp [← String.toList_inj]
theorem dumpsList_written : (items : List Value) →
    dumpsList spaced items = (writtenList items).map (List.map (fun shown => String.ofList (render shown)))
  | [] => rfl
  | value :: rest => by
    rw [dumpsList,dumps_written value,dumpsList_written rest,writtenList]
    cases written value with
    | none => rfl
    | some shown => cases writtenList rest <;> rfl
theorem dumpsItems_written : (items : List (Key × Value)) →
    dumpsItems spaced items = (writtenItems items).map (List.map (fun item => (item.1,String.ofList (render item.2))))
  | [] => rfl
  | (key,value) :: rest => by
    rw [dumpsItems,dumps_written value,dumpsItems_written rest,writtenItems]
    cases written value with
    | none => rfl
    | some shown => cases writtenItems rest <;> rfl
end

end PythonValue
