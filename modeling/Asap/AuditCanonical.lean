import Asap.AuditLog
import Asap.Isoformat
import Asap.JsonStability
import Asap.LiteralSubstitution

-- The canonical text of an audit entry can be taken apart in one way only.
namespace Asap.AuditCanonical
open PythonValue AuditLog LiteralSubstitution

def canonicalInput (prevHash : String) (timestamp : DateTime) (operation : String) (details : Value) : Option String :=
  (dumps spaced details).map (canonical prevHash timestamp.isoformat operation)

theorem computeEntryHash_input (sha256 : String → String) (prevHash : String) (timestamp : DateTime) (operation : String) (details : Value) :
    computeEntryHash sha256 prevHash timestamp operation details = (canonicalInput prevHash timestamp operation details).map sha256 := by
  unfold computeEntryHash canonicalInput
  rw [Option.map_map]
  rfl

-- A hex digest, or the empty text.
def HexText (text : String) : Prop :=
  ∀ c ∈ text.toList, c.isDigit = true ∨ ('a'.toNat ≤ c.toNat ∧ c.toNat ≤ 'f'.toNat) ∨ ('A'.toNat ≤ c.toNat ∧ c.toNat ≤ 'F'.toNat)

-- Where a reader of JSON stands: between the strings, within one, or after a backslash in one.
inductive Place where
  | between
  | within
  | escaped
  deriving DecidableEq

def step : Place → Char → Option Place
  | .between,c => if c = '"' then some .within else if c = '\\' ∨ c = '|' then none else some .between
  | .within,c => if c = '"' then some .between else if c = '\\' then some .escaped else some .within
  | .escaped,c => if c = '|' then none else some .within

def read (place : Place) (text : List Char) : Option Place := text.foldlM step place

section Reading
theorem read_append {place next : Place} {left : List Char} (first : read place left = some next) (right : List Char) :
    read place (left ++ right) = read next right := by
  unfold read at first ⊢
  rw [List.foldlM_append,first]
  rfl

theorem read_cons {place next : Place} {c : Char} (first : step place c = some next) (rest : List Char) : read place (c :: rest) = read next rest := by
  unfold read
  rw [List.foldlM_cons,first]
  rfl

theorem read_between {text : List Char} (clear : ∀ c ∈ text, c ≠ '"' ∧ c ≠ '\\' ∧ c ≠ '|') : read .between text = some .between := by
  induction text with
  | nil => rfl
  | cons c rest ih =>
    obtain ⟨quote,slash,bar⟩ := clear c List.mem_cons_self
    have stays : step .between c = some .between := by simp [step,quote,slash,bar]
    rw [read_cons stays]
    exact ih (fun d member => clear d (List.mem_cons_of_mem _ member))

theorem read_within {text : List Char} (clear : ∀ c ∈ text, c ≠ '"' ∧ c ≠ '\\') : read .within text = some .within := by
  induction text with
  | nil => rfl
  | cons c rest ih =>
    obtain ⟨quote,slash⟩ := clear c List.mem_cons_self
    have stays : step .within c = some .within := by simp [step,quote,slash]
    rw [read_cons stays]
    exact ih (fun d member => clear d (List.mem_cons_of_mem _ member))

-- Read from opposite places, a text leads to opposite places: outside of strings there is no backslash.
def Opposite (left right : Place) : Prop := (left = .between ∧ right = .within) ∨ (left = .within ∧ right = .between)

theorem step_opposite {c : Char} {left right next next' : Place} (apart : Opposite left right) (first : step left c = some next)
    (second : step right c = some next') : Opposite next next' := by
  have cases {a b : Place} (outside : step .between c = some a) (inside : step .within c = some b) : Opposite a b := by
    unfold step at outside inside
    dsimp only at outside inside
    split at outside
    · rename_i quote
      rw [if_pos quote] at inside
      cases outside
      cases inside
      exact .inr ⟨rfl,rfl⟩
    · rename_i other
      split at outside
      · cases outside
      · rename_i plain
        rw [if_neg other,if_neg (fun slash => plain (.inl slash))] at inside
        cases outside
        cases inside
        exact .inl ⟨rfl,rfl⟩
  rcases apart with ⟨rfl,rfl⟩ | ⟨rfl,rfl⟩
  · exact cases first second
  · exact (cases second first).symm.imp And.symm And.symm

theorem read_opposite {text : List Char} {left right next next' : Place} (apart : Opposite left right) (first : read left text = some next)
    (second : read right text = some next') : Opposite next next' := by
  induction text generalizing left right with
  | nil =>
    cases first
    cases second
    exact apart
  | cons c rest ih =>
    unfold read at first second
    rw [List.foldlM_cons] at first second
    obtain ⟨middle,stepped,later⟩ := Option.bind_eq_some_iff.mp first
    obtain ⟨middle',stepped',later'⟩ := Option.bind_eq_some_iff.mp second
    exact ih (step_opposite apart stepped stepped') later later'
end Reading

-- What JSON writes closes all of its strings, and has no `|` and no backslash outside of them.
def Closed (text : List Char) : Prop := read .between text = some .between

section Written
theorem Closed.append {left right : List Char} (first : Closed left) (second : Closed right) : Closed (left ++ right) :=
  (read_append first right).trans second

theorem Closed.cons {c : Char} {rest : List Char} (clear : c ≠ '"' ∧ c ≠ '\\' ∧ c ≠ '|') (closed : Closed rest) : Closed (c :: rest) := by
  have single : Closed [c] := read_between (fun d member => by rw [List.mem_singleton.mp member]; exact clear)
  exact single.append closed

theorem closed_of_all {text : List Char} (all : text.all (fun c => c != '"' && c != '\\' && c != '|') = true) : Closed text := by
  apply read_between
  intro c member
  have clear := List.all_eq_true.mp all c member
  simpa [and_assoc] using clear

theorem digit_clear {c : Char} (digit : c.isDigit = true) : c ≠ '"' ∧ c ≠ '\\' ∧ c ≠ '|' := by
  refine ⟨?_,?_,?_⟩
  all_goals
    rintro rfl
    revert digit
    decide

theorem digits_closed {chars : List Char} (digits : Digits chars) : Closed chars := read_between (fun c member => digit_clear (digits c member))

theorem number_closed {number : NumberText} (grammar : number.Grammar) : Closed number.chars := by
  have sign : Closed number.sign := by
    rcases grammar.sign with shape | shape <;> rw [shape] <;> rfl
  have whole : Closed number.whole := by
    rcases grammar.whole with shape | ⟨first,digits,shape,_,all⟩
    · rw [shape]
      rfl
    · rw [shape]
      exact digits_closed all
  have fraction : Closed number.fraction := by
    rcases grammar.fraction with shape | ⟨digits,shape,_,all⟩
    · rw [shape]
      rfl
    · rw [shape]
      exact (digits_closed all).cons (by decide)
  have exponent : Closed number.exponent := by
    rcases grammar.exponent with shape | ⟨mark,plus,digits,shape,marked,signed,_,all⟩
    · rw [shape]
      rfl
    · have front : Closed plus := by
        rcases signed with rfl | rfl | rfl <;> rfl
      rw [shape]
      apply (front.append (digits_closed all)).cons
      rcases marked with rfl | rfl <;> decide
  exact ((sign.append whole).append fraction).append exponent

theorem unicodeEscape_within (n : Nat) : read .within (unicodeEscape n) = some .within := by
  have every : ∀ k < 16, hexDigit k ≠ '"' ∧ hexDigit k ≠ '\\' := by decide
  have digit (k : Nat) : hexDigit (k % 16) ≠ '"' ∧ hexDigit (k % 16) ≠ '\\' := every (k % 16) (Nat.mod_lt k (by omega))
  show read .within [hexDigit (n / 4096 % 16),hexDigit (n / 256 % 16),hexDigit (n / 16 % 16),hexDigit (n % 16)] = _
  apply read_within
  intro c member
  simp only [List.mem_cons,List.not_mem_nil,or_false] at member
  rcases member with rfl | rfl | rfl | rfl
  all_goals exact digit _

theorem escapeChar_within (c : Char) : read .within (escapeChar c) = some .within := by
  have shape := escapeChar_escaped c
  revert shape
  generalize escapeChar c = text
  intro shape
  cases shape with
  | plain printable quote backslash =>
    apply read_within
    intro d member
    rw [List.mem_singleton.mp member]
    exact ⟨quote,backslash⟩
  | short letter reads =>
    -- There is no escape `\\|`.
    have other : letter ≠ '|' := by
      rintro rfl
      cases reads []
    have closes : step .escaped letter = some .within := if_neg other
    show read .escaped [letter] = _
    rw [read_cons closes]
    rfl
  | basic inside => exact unicodeEscape_within c.toNat
  | pair beyond => exact (read_append (unicodeEscape_within _) _).trans (unicodeEscape_within _)

theorem quote_closed (text : String) : Closed (quote text).toList := by
  have body (chars : List Char) : read .within (chars.flatMap escapeChar) = some .within := by
    induction chars with
    | nil => rfl
    | cons c rest ih => exact (read_append (escapeChar_within c) _).trans ih
  rw [quote_chars]
  exact (read_append (body text.toList) ['"']).trans rfl

theorem joined_closed {texts : List (List Char)} (all : ∀ text ∈ texts, Closed text) : Closed (joined texts) := by
  induction texts with
  | nil => rfl
  | cons text rest ih =>
    cases rest with
    | nil => exact all text List.mem_cons_self
    | cons next others =>
      have later := ih (fun other member => all other (List.mem_cons_of_mem _ member))
      exact (all text List.mem_cons_self).append ((later.cons (by decide)).cons (by decide))

variable (floats : Floats)

mutual
theorem render_closed : (value : Value) → Plain floats value → Closed (render value)
  | .none,_ => closed_of_all (by decide)
  | .bool true,_ => closed_of_all (by decide)
  | .bool false,_ => closed_of_all (by decide)
  | .int value,_ => by
    have text := number_closed (intText_grammar value)
    rw [intText_chars] at text
    exact text
  | .float value repr,plain => by
    obtain ⟨number,grammar,chars,_⟩ := floats.shaped value repr plain
    have text := number_closed grammar
    rw [chars] at text
    exact text
  | .nonFinite repr,plain => by rcases plain with rfl | rfl | rfl <;> exact closed_of_all (by decide)
  | .str value,_ => quote_closed value
  | .other _,plain => plain.elim
  | .list items,plain => ((joined_closed (renderList_closed items plain)).append (closed_of_all rfl)).cons (by decide)
  | .dict items,plain => ((joined_closed (renderItems_closed items plain)).append (closed_of_all rfl)).cons (by decide)
theorem renderList_closed : (items : List Value) → PlainList floats items → ∀ text ∈ renderList items, Closed text
  | [],_,_,member => by cases member
  | value :: rest,plain,text,member => by
    rcases List.mem_cons.mp member with same | later
    · rw [same]
      exact render_closed value plain.1
    · exact renderList_closed rest plain.2 text later
theorem renderItems_closed : (items : List (Key × Value)) → PlainItems floats items → ∀ text ∈ renderItems items, Closed text
  | [],_,_,member => by cases member
  | (key,value) :: rest,plain,text,member => by
    rcases List.mem_cons.mp member with same | later
    · rw [same]
      exact (quote_closed key.text).append (((render_closed value plain.2.1).cons (by decide)).cons (by decide))
    · exact renderItems_closed rest plain.2.2 text later
end

theorem dumps_closed {details : Value} {json : String} (genuine : Genuine floats details) (dumped : dumps spaced details = some json) :
    Closed json.toList := by
  rw [dumps_written] at dumped
  obtain ⟨shown,writing,rfl⟩ := Option.map_eq_some_iff.mp dumped
  rw [String.toList_ofList]
  exact render_closed floats shown (written_plain floats details shown genuine writing)
end Written

section Separated
-- A text of JSON that ends another one after a `|` would start within a string of it.
theorem no_later_start {front json json' : List Char} (closed : Closed json) (closed' : Closed json') (same : '|' :: json = front ++ '|' :: json') :
    front = [] := by
  cases front with
  | nil => rfl
  | cons c before =>
    exfalso
    have split : json = before ++ '|' :: json' := (List.cons.inj same).2
    unfold Closed at closed closed'
    rw [split,read,List.foldlM_append] at closed
    obtain ⟨place,_,later⟩ := Option.bind_eq_some_iff.mp closed
    rw [List.foldlM_cons] at later
    obtain ⟨next,barred,rest⟩ := Option.bind_eq_some_iff.mp later
    have inside : next = .within := by
      cases place with
      | between => cases barred
      | within => exact (Option.some.inj barred).symm
      | escaped => cases barred
    subst inside
    rcases read_opposite (.inl ⟨rfl,rfl⟩) closed' rest with ⟨_,ends⟩ | ⟨ends,_⟩ <;> cases ends

theorem tail_unique {operation operation' json json' : List Char} (closed : Closed json) (closed' : Closed json')
    (same : operation ++ '|' :: json = operation' ++ '|' :: json') : operation = operation' ∧ json = json' := by
  rcases List.append_eq_append_iff.mp same with ⟨front,longer,rest⟩ | ⟨front,longer,rest⟩
  · cases no_later_start closed closed' rest
    exact ⟨by rw [longer,List.append_nil],(List.cons.inj rest).2⟩
  · cases no_later_start closed' closed rest
    exact ⟨by rw [longer,List.append_nil],(List.cons.inj rest).2.symm⟩
end Separated

theorem isoformat_free (timestamp : DateTime) : '|' ∉ timestamp.isoformat.toList := by
  intro member
  rcases isoformat_timeText timestamp '|' member with digit | mark
  · exact absurd digit (by decide)
  · exact absurd mark (by decide)

theorem hexText_free {text : String} (hex : HexText text) : '|' ∉ text.toList := by
  intro member
  exact absurd (hex '|' member) (by decide)

-- Equal canonical texts are of equal parts, whatever operations and details hold.
theorem canonicalInput_injective (floats : Floats) {prevHash prevHash' operation operation' text : String} {timestamp timestamp' : DateTime}
    {details details' : Value} (hex : HexText prevHash) (hex' : HexText prevHash') (genuine : Genuine floats details)
    (genuine' : Genuine floats details') (first : canonicalInput prevHash timestamp operation details = some text)
    (second : canonicalInput prevHash' timestamp' operation' details' = some text) :
    prevHash = prevHash' ∧ timestamp.isoformat = timestamp'.isoformat ∧ operation = operation' ∧ dumps spaced details = dumps spaced details' := by
  obtain ⟨json,dumped,rfl⟩ := Option.map_eq_some_iff.mp first
  obtain ⟨json',dumped',same⟩ := Option.map_eq_some_iff.mp second
  have parts (hash iso op tail : String) : (canonical hash iso op tail).toList =
      hash.toList ++ '|' :: (iso.toList ++ '|' :: (op.toList ++ '|' :: tail.toList)) := by
    simp [canonical]
  have chars := congrArg String.toList same.symm
  rw [parts,parts] at chars
  have hashes := closed_unique (hexText_free hex) (hexText_free hex') chars
  rw [hashes] at chars
  have dated := (List.cons.inj (List.append_cancel_left chars)).2
  have isos := closed_unique (isoformat_free timestamp) (isoformat_free timestamp') dated
  rw [isos] at dated
  have tails := (List.cons.inj (List.append_cancel_left dated)).2
  obtain ⟨operations,jsons⟩ := tail_unique (dumps_closed floats genuine dumped) (dumps_closed floats genuine' dumped') tails
  exact ⟨String.toList_injective hashes,String.toList_injective isos,String.toList_injective operations,
    by rw [dumped,dumped',String.toList_injective jsons]⟩

theorem sampleTime_offset : ∀ delta ∈ some (0 : Int), -86400000000 < delta ∧ delta < 86400000000 := by decide

def sampleTime : DateTime := ⟨2026,3,1,12,0,0,0,some 0,by decide,by decide,sampleTime_offset⟩

-- Details that were filled in two orders.
def firstDetails : Value := .dict [(.str "b",.int 1),(.str "a",.str "x|\x7b")]
def secondDetails : Value := .dict [(.str "a",.str "x|\x7b"),(.str "b",.int 1)]

def detailsText : String := "\x7b\"a\": \"x|\x7b\", \"b\": 1\x7d"

theorem detailsText_first : dumps spaced firstDetails = some detailsText := by decide +kernel
theorem detailsText_second : dumps spaced secondDetails = some detailsText := by decide +kernel

theorem hexText_ab : HexText "ab" := by
  intro c member
  rcases List.mem_pair.mp (show c ∈ ['a','b'] from member) with rfl | rfl <;> decide

theorem canonicalInput_injective_orders : "ab" = "ab" ∧ sampleTime.isoformat = sampleTime.isoformat ∧ "task|x" = "task|x" ∧
    dumps spaced firstDetails = dumps spaced secondDetails :=
  canonicalInput_injective integersOnly hexText_ab hexText_ab ⟨trivial,trivial,trivial⟩ ⟨trivial,trivial,trivial⟩ (congrArg (Option.map _) detailsText_first)
    (congrArg (Option.map _) detailsText_second)

end Asap.AuditCanonical
