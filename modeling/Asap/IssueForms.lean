import Asap.OrderedDict
import Asap.PythonValue

-- The forms that `scripts/process_*.py` read from the body of an issue.
namespace Asap.IssueForms
open OrderedDict PythonValue

-- `re.sub(pattern, "", text)`; `matches` gives what follows a match at the head of a text.
def substitute (matchAt : List Char → Option (List Char)) : Nat → List Char → List Char
  | 0,text => text
  | _ + 1,[] => []
  | fuel + 1,c :: rest =>
    match matchAt (c :: rest) with
    | some tail => substitute matchAt fuel tail
    | none => c :: substitute matchAt fuel rest

def sub (matchAt : List Char → Option (List Char)) (text : List Char) : List Char := substitute matchAt text.length text

def afterFence : List Char → Option (List Char)
  | '`' :: '`' :: '`' :: rest => some rest
  | _ :: rest => afterFence rest
  | [] => none

def fencedCode : List Char → Option (List Char)
  | '`' :: '`' :: '`' :: rest => afterFence rest
  | _ => none

def inlineCode : List Char → Option (List Char)
  | '`' :: rest =>
    match rest.dropWhile (fun c => decide (c ≠ '`')) with
    | _ :: tail => some tail
    | [] => none
  | _ => none

def htmlTag : List Char → Option (List Char)
  | '<' :: '>' :: _ => none
  | '<' :: rest =>
    match rest.dropWhile (fun c => decide (c ≠ '>')) with
    | _ :: tail => some tail
    | [] => none
  | _ => none

def isControl (c : Char) : Bool :=
  let n := c.toNat
  n ≤ 8 || n = 0xb || n = 0xc || (0xe ≤ n && n ≤ 0x1f) || n = 0x7f

def controlChar : List Char → Option (List Char)
  | c :: rest => if isControl c then some rest else none
  | [] => none

def truncate (text : String) (length : Nat) : String := String.ofList (text.toList.take length)

def trim (text : List Char) : List Char := ((text.dropWhile isSpace).reverse.dropWhile isSpace).reverse

def sanitizeInput (text : List Char) (maxLength : Nat) : List Char :=
  if text = [] then []
  else (trim (sub controlChar (sub htmlTag (sub inlineCode (sub fencedCode text))))).take maxLength

-- `###` and white space at the head of a line.
def headerAt : List Char → Option (List Char)
  | '#' :: '#' :: '#' :: c :: rest => if isSpace c then some (rest.dropWhile isSpace) else none
  | _ => none

-- `re.split(r"(?im)^###\s+", body)`; `lineStart` is whether a line begins here.
def splitHeaders : Nat → Bool → List Char → List Char → List (List Char)
  | 0,_,part,text => [part ++ text]
  | _ + 1,_,part,[] => [part]
  | fuel + 1,lineStart,part,c :: rest =>
    match if lineStart then headerAt (c :: rest) else none with
    | some tail => part :: splitHeaders fuel (decide (((c :: rest).take (rest.length + 1 - tail.length)).getLast? = some '\n')) [] tail
    | none => splitHeaders fuel (decide (c = '\n')) (part ++ [c]) rest

def headerAndValue (part : List Char) : String × List Char :=
  let firstLine := part.takeWhile (fun c => decide (c ≠ '\n'))
  (String.ofList (trim firstLine),trim (part.drop (firstLine.length + 1)))

-- The sections of a body under their headers.
def sections (body : List Char) : List (String × List Char) :=
  (((splitHeaders body.length true [] body).map trim).filter (fun part => decide (part ≠ []))).map headerAndValue

-- A form: the fields its headers stand for, and how long each may get.
structure Form where
  headerToField : String → Option String
  maxLength : String → Nat

def Form.add (form : Form) (fields : Dict String (List Char)) (section_ : String × List Char) : Dict String (List Char) :=
  match form.headerToField section_.1 with
  | some field => fields.set field (sanitizeInput section_.2 (form.maxLength field))
  | none => fields

def Form.parseIssueBody (form : Form) (body : List Char) : Dict String (List Char) :=
  if trim body = [] then .empty else (sections body).foldl form.add .empty

-- `(parsed.get(field) or "").strip()`.
def Form.characters (form : Form) (body : List Char) (field : String) : List Char := trim (((form.parseIssueBody body).get field).getD [])

def Form.text (form : Form) (body field : String) : String := String.ofList (form.characters body.toList field)

-- What an issue holds for a field, before it is sanitised: the last section under its header.
def Form.given (form : Form) (body field : String) : Option (List Char) :=
  if trim body.toList = [] then none
  else (((sections body.toList).filter (fun section_ => decide (form.headerToField section_.1 = some field))).getLast?).map Prod.snd

example : sections "### Agent name (slug-friendly)\nmy-agent\n\n### Confirmation\n- [x] yes".toList =
    [("Agent name (slug-friendly)","my-agent".toList),("Confirmation","- [x] yes".toList)] := by decide +kernel

section Plain
-- A character that no pattern of the sanitiser matches and that is no white space.
def isPlain (c : Char) : Bool := decide (c ≠ '`') && decide (c ≠ '<') && !isControl c && !isSpace c

theorem substitute_unmatched (matchAt : List Char → Option (List Char)) {text : List Char} (fuel : Nat)
    (unmatched : ∀ c ∈ text, ∀ rest, matchAt (c :: rest) = none) : substitute matchAt fuel text = text := by
  induction fuel generalizing text with
  | zero => rfl
  | succ fuel ih =>
    cases text with
    | nil => rfl
    | cons c rest =>
      rw [substitute,unmatched c List.mem_cons_self rest]
      simp only
      rw [ih (fun d member => unmatched d (List.mem_cons_of_mem _ member))]

theorem fencedCode_other {c : Char} (different : c ≠ '`') (rest : List Char) : fencedCode (c :: rest) = none := by
  unfold fencedCode
  split
  · rename_i same
    cases same
    exact absurd rfl different
  · rfl

theorem inlineCode_other {c : Char} (different : c ≠ '`') (rest : List Char) : inlineCode (c :: rest) = none := by
  unfold inlineCode
  split
  · rename_i same
    cases same
    exact absurd rfl different
  · rfl

theorem htmlTag_other {c : Char} (different : c ≠ '<') (rest : List Char) : htmlTag (c :: rest) = none := by
  unfold htmlTag
  split
  · rfl
  · rename_i same
    cases same
    exact absurd rfl different
  · rfl

theorem dropWhile_unspaced {text : List Char} (plain : ∀ c ∈ text, isSpace c = false) : text.dropWhile isSpace = text := by
  cases text with
  | nil => rfl
  | cons c rest => rw [List.dropWhile_cons,plain c List.mem_cons_self]; rfl

theorem trim_unspaced {text : List Char} (plain : ∀ c ∈ text, isSpace c = false) : trim text = text := by
  unfold trim
  rw [dropWhile_unspaced plain,dropWhile_unspaced (fun c member => plain c (List.mem_reverse.mp member)),List.reverse_reverse]

variable {text : List Char} (plain : ∀ c ∈ text, isPlain c = true)
include plain

theorem plain_unspaced : ∀ c ∈ text, isSpace c = false := by
  intro c member
  have fine := plain c member
  simp only [isPlain,Bool.and_eq_true,Bool.not_eq_true'] at fine
  exact fine.2

theorem sub_plain : sub controlChar (sub htmlTag (sub inlineCode (sub fencedCode text))) = text := by
  have apart : ∀ c ∈ text, c ≠ '`' ∧ c ≠ '<' ∧ isControl c = false := by
    intro c member
    have fine := plain c member
    simp only [isPlain,Bool.and_eq_true,Bool.not_eq_true',decide_eq_true_eq] at fine
    exact ⟨fine.1.1.1,fine.1.1.2,fine.1.2⟩
  have fenced : sub fencedCode text = text :=
    substitute_unmatched fencedCode _ (fun c member rest => fencedCode_other (apart c member).1 rest)
  have code : sub inlineCode text = text :=
    substitute_unmatched inlineCode _ (fun c member rest => inlineCode_other (apart c member).1 rest)
  have tags : sub htmlTag text = text :=
    substitute_unmatched htmlTag _ (fun c member rest => htmlTag_other (apart c member).2.1 rest)
  have control : sub controlChar text = text :=
    substitute_unmatched controlChar _ (fun c member rest => by simp [controlChar,(apart c member).2.2])
  rw [fenced,code,tags,control]

-- The sanitiser only clamps a text of such characters.
theorem sanitizeInput_plain (maxLength : Nat) : sanitizeInput text maxLength = text.take maxLength := by
  unfold sanitizeInput
  rw [sub_plain plain,trim_unspaced (plain_unspaced plain)]
  split
  · rename_i blank
    simp [blank]
  · rfl
end Plain

section Fields
variable (form : Form)

theorem get_add (fields : Dict String (List Char)) (section_ : String × List Char) (field : String) :
    (form.add fields section_).get field =
      if form.headerToField section_.1 = some field then some (sanitizeInput section_.2 (form.maxLength field)) else fields.get field := by
  unfold Form.add
  cases named : form.headerToField section_.1 with
  | none => simp
  | some other =>
    simp only [Dict.get_set,Option.some.injEq]
    split
    · rename_i same
      rw [same]
    · rfl

-- A field holds the last section of its header, sanitised.
theorem get_fold (all : List (String × List Char)) (field : String) :
    (all.foldl form.add .empty).get field =
      ((all.filter (fun section_ => decide (form.headerToField section_.1 = some field))).getLast?).map
        (fun section_ => sanitizeInput section_.2 (form.maxLength field)) := by
  induction all using List.reverseRecOn with
  | nil => rfl
  | append_singleton all last ih =>
    rw [List.foldl_append,List.foldl_cons,List.foldl_nil,get_add,ih,List.filter_append]
    by_cases named : form.headerToField last.1 = some field
    · simp [named]
    · simp [named]

theorem text_given (body field : String) :
    form.text body field = String.ofList (trim (((form.given body field).map (fun value => sanitizeInput value (form.maxLength field))).getD [])) := by
  unfold Form.text Form.characters Form.parseIssueBody Form.given
  split
  · rfl
  · rw [get_fold,Option.map_map]
    rfl

-- A text of plain characters is only clamped.
theorem text_plain {body field value : String} (given : form.given body field = some value.toList)
    (plain : ∀ c ∈ value.toList, isPlain c = true) : form.text body field = truncate value (form.maxLength field) := by
  rw [text_given,given,truncate]
  simp only [Option.map_some,Option.getD_some]
  rw [sanitizeInput_plain plain,trim_unspaced]
  intro c member
  exact plain_unspaced plain c (List.mem_of_mem_take member)

theorem text_ofList (body : List Char) (field : String) : form.text (String.ofList body) field = String.ofList (form.characters body field) := by
  rw [Form.text,String.toList_ofList]
end Fields

end Asap.IssueForms
