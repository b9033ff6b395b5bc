import Asap.ApprovalStore
import Asap.LiteralSubstitution
import Asap.Regex
import Mathlib.Data.List.TakeWhile

-- `_fill_path_template`: the arguments of a path template put in for its placeholders.
namespace Asap.PathTemplates
open OrderedDict PythonValue Regex LiteralSubstitution
open ApprovalStore (fromKeys)

-- `urllib.parse.quote(text, safe="")`
def isUnreserved (c : Char) : Bool := c.isAlphanum || c == '_' || c == '.' || c == '-' || c == '~'

def percent (byte : UInt8) : List Char := ['%',(Nat.digitChar (byte.toNat / 16)).toUpper,(Nat.digitChar (byte.toNat % 16)).toUpper]

def quoteChar (c : Char) : List Char := if isUnreserved c then [c] else (String.utf8EncodeChar c).flatMap percent

def quote (text : String) : String := String.ofList (text.toList.flatMap quoteChar)

-- `\{([^}]+)\}`
def placeholder : List Char → Option (Way Char) := matchGroup (.set (· == '{')) (plus (.set (· != '}'))) (.set (· == '}'))

def findNames (template : String) : List String := (findAll placeholder template.toList).map String.ofList

-- What is raised: for the template and the names, or from `str(value)`.
inductive PathError where
  | missing (pathTemplate : String) (names : List String)
  | invalid (pathTemplate : String) (names : List String)
  | raised
  deriving DecidableEq

def PathError.message (repr : String → String) : PathError → String
  | .missing pathTemplate names =>
    "Missing path parameter(s) for template " ++ repr pathTemplate ++ ": " ++ String.intercalate ", " names ++ "."
  | .invalid pathTemplate names =>
    "Invalid path parameter value(s) for template " ++ repr pathTemplate ++ ": " ++ String.intercalate ", " names ++
      " (must not be None, empty, whitespace-only, or a '.'/'..' path segment)."
  | .raised => ""

def dotPathSegments : List String := [".",".."]

-- `str(value)` of what is no text, which may raise.
variable (str : Value → Option String)

def textOf (value : Value) : Except PathError String :=
  match value with
  | .str text => .ok text
  | other => (str other).elim (.error .raised) .ok

def isInvalidPathParamValue (value : Value) : Except PathError Bool :=
  match value with
  | .none => .ok true
  | .str text => .ok (decide (strip text = "") || dotPathSegments.contains text)
  | other => (textOf str other).map dotPathSegments.contains

def filledPathHasDotSegment (path : String) : Bool :=
  (path.toList.splitOn '/').any (fun segment => dotPathSegments.contains (String.ofList segment))

def lookup (pathParams : Dict String Value) (name : String) : Except PathError Value := (pathParams.get name).elim (.error .raised) .ok

def fillName (pathParams : Dict String Value) (out name : String) : Except PathError String := do
  let raw ← lookup pathParams name
  let text ← textOf str raw
  pure (String.ofList (replace ('{' :: (name.toList ++ ['}'])) (quote text).toList out.toList))

def fillPathTemplate (pathTemplate : String) (pathParams : Dict String Value) : Except PathError String := do
  let namesOrder := fromKeys (findNames pathTemplate)
  let missing := namesOrder.filter (fun name => (pathParams.get name).isNone)
  if missing ≠ [] then throw (.missing pathTemplate missing)
  let invalidNames ← namesOrder.filterM (fun name => do isInvalidPathParamValue str (← lookup pathParams name))
  if invalidNames ≠ [] then throw (.invalid pathTemplate invalidNames)
  let out ← namesOrder.foldlM (fillName str pathParams) pathTemplate
  if filledPathHasDotSegment out then throw (.invalid pathTemplate (if namesOrder ≠ [] then namesOrder else [pathTemplate]))
  pure out

section Quoting
theorem hexDigit_unreserved (n : Nat) (small : n < 16) : isUnreserved (Nat.digitChar n).toUpper = true := by
  revert n
  decide

theorem quote_chars (text : String) : ∀ c ∈ (quote text).toList, isUnreserved c = true ∨ c = '%' := by
  intro c member
  rw [quote,String.toList_ofList] at member
  obtain ⟨d,_,inside⟩ := List.mem_flatMap.mp member
  unfold quoteChar at inside
  split at inside
  · rename_i unreserved
    rw [List.mem_singleton.mp inside]
    exact .inl unreserved
  · obtain ⟨byte,_,written⟩ := List.mem_flatMap.mp inside
    have bound := byte.toNat_lt
    rcases List.mem_cons.mp written with rfl | digit
    · exact .inr rfl
    · rcases List.mem_pair.mp digit with rfl | rfl
      · exact .inl (hexDigit_unreserved _ (by omega))
      · exact .inl (hexDigit_unreserved _ (by omega))

theorem quote_free {c : Char} (reserved : isUnreserved c = false) (other : c ≠ '%') (text : String) : c ∉ (quote text).toList := by
  intro member
  rcases quote_chars text c member with unreserved | percent
  · rw [reserved] at unreserved
    cases unreserved
  · exact other percent
end Quoting

section Placeholders
theorem placeholder_open (rest : List Char) : placeholder ('{' :: rest) =
    if rest.takeWhile (· != '}') = [] then none
    else (ways (.set (· == '}')) (rest.dropWhile (· != '}'))).head?.map (fun back => (rest.takeWhile (· != '}'),back.2)) :=
  matchGroup_run (ways_set_inside rfl rest) (fun _ _ inside => ways_set_outside (by simpa using inside) _)

theorem placeholder_elsewhere {c : Char} (other : c ≠ '{') (rest : List Char) : placeholder (c :: rest) = none := by
  have closed : ways (.set (· == '{')) (c :: rest) = [] := ways_set_outside (p := (· == '{')) (beq_false_of_ne other) rest
  unfold placeholder matchGroup
  rw [closed]
  rfl

-- A placeholder is a name between braces.
theorem placeholder_some {text name left : List Char} (found : placeholder text = some (name,left)) :
    text = '{' :: (name ++ ['}']) ++ left ∧ name ≠ [] ∧ '}' ∉ name := by
  cases text with
  | nil => cases found
  | cons c rest =>
    by_cases opened : c = '{'
    · subst opened
      rw [placeholder_open] at found
      split at found
      · cases found
      · rename_i some
        obtain ⟨back,first,same⟩ := Option.map_eq_some_iff.mp found
        cases same
        have free : '}' ∉ rest.takeWhile (· != '}') := by
          intro inside
          have other := List.mem_takeWhile_imp inside
          cases other
        refine ⟨?_,some,free⟩
        have whole := List.takeWhile_append_dropWhile (p := (· != '}')) (l := rest)
        cases closing : rest.dropWhile (· != '}') with
        | nil =>
          rw [closing] at first
          cases first
        | cons d after =>
          have ends : d = '}' := by
            have stop := List.head?_dropWhile_not (· != '}') rest
            rw [closing] at stop
            simpa using stop
          subst ends
          rw [closing] at first whole
          cases first
          rw [List.cons_append,List.append_assoc]
          exact congrArg _ whole.symm
    · rw [placeholder_elsewhere opened] at found
      cases found

theorem placeholder_shrinks : Shrinks placeholder := by
  intro text name left found
  rw [(placeholder_some found).1]
  simp only [List.length_append,List.length_cons]
  omega

theorem placeholder_none {rest : List Char} (nothing : placeholder ('{' :: rest) = none) : rest.head? = some '}' ∨ rest = [] ∨ '}' ∉ rest := by
  rw [placeholder_open] at nothing
  split at nothing
  · rename_i empty
    cases rest with
    | nil => exact .inr (.inl rfl)
    | cons c tail =>
      by_cases closed : c = '}'
      · exact .inl (congrArg some closed)
      · rw [List.takeWhile_cons_of_pos (by simpa using closed)] at empty
        cases empty
  · cases closing : rest.dropWhile (· != '}') with
    | nil =>
      refine .inr (.inr ?_)
      intro inside
      have other := List.dropWhile_eq_nil_iff.mp closing '}' inside
      cases other
    | cons d after =>
      have ends : d = '}' := by
        have stop := List.head?_dropWhile_not (· != '}') rest
        rw [closing] at stop
        simpa using stop
      rw [closing,ends] at nothing
      cases nothing
end Placeholders

-- The pieces of a template: a brace that opens no placeholder is closed at once, or nothing after it is.
def WellFormed : List (Char ⊕ List Char) → Prop
  | [] => True
  | .inl c :: rest => (c = '{' → rest.head? = some (.inl '}') ∨ ∀ piece ∈ rest, ∃ d, piece = .inl d ∧ d ≠ '}') ∧ WellFormed rest
  | .inr name :: rest => name ≠ [] ∧ '}' ∉ name ∧ WellFormed rest

theorem WellFormed.name {items : List (Char ⊕ List Char)} {name : List Char} (formed : WellFormed items) (inside : .inr name ∈ items) :
    name ≠ [] ∧ '}' ∉ name := by
  induction items with
  | nil => cases inside
  | cons piece rest ih =>
    cases piece with
    | inl c =>
      rcases List.mem_cons.mp inside with same | later
      · cases same
      · exact ih formed.2 later
    | inr other =>
      rcases List.mem_cons.mp inside with same | later
      · cases same
        exact ⟨formed.1,formed.2.1⟩
      · exact ih formed.2.2 later

section Pieces
theorem pieces_unclosed (text : List Char) : '}' ∉ text → pieces placeholder text = text.map .inl := by
  refine pieces_induction (motive := fun text items => '}' ∉ text → items = text.map .inl) placeholder_shrinks (fun _ => rfl) ?_ ?_ text
  · intro c rest _ ih free
    exact congrArg (Sum.inl c :: ·) (ih (fun inside => free (List.mem_cons_of_mem _ inside)))
  · intro c rest name left found _ free
    refine absurd ?_ free
    rw [(placeholder_some found).1]
    simp

theorem pieces_wellFormed (text : List Char) : WellFormed (pieces placeholder text) := by
  refine pieces_induction (motive := fun _ items => WellFormed items) placeholder_shrinks trivial ?_ ?_ text
  · intro c rest nothing ih
    refine ⟨?_,ih⟩
    rintro rfl
    rcases placeholder_none nothing with closed | rfl | free
    · cases rest with
      | nil => cases closed
      | cons d tail =>
        cases closed
        rw [pieces_cons placeholder_shrinks,placeholder_elsewhere (by decide)]
        exact .inl rfl
    · exact .inr (fun _ inside => by cases inside)
    · rw [pieces_unclosed rest free]
      refine .inr ?_
      intro piece inside
      obtain ⟨d,member,rfl⟩ := List.mem_map.mp inside
      refine ⟨d,rfl,?_⟩
      rintro rfl
      exact free member
  · intro c rest name left found ih
    obtain ⟨-,some,free⟩ := placeholder_some found
    exact ⟨some,free,ih⟩

-- The text with the placeholders of some names filled.
def partText (shown : List Char → List Char) (done : List Char → Bool) (items : List (Char ⊕ List Char)) : List Char :=
  items.flatMap (Sum.elim (fun c => [c]) (fun name => if done name then shown name else '{' :: (name ++ ['}'])))

theorem partText_whole (shown : List Char → List Char) (text : List Char) : partText shown (fun _ => false) (pieces placeholder text) = text :=
  pieces_text placeholder_shrinks (fun _ _ _ found => (placeholder_some found).1) text

-- One name is filled in the text that the names before it have left.
theorem replace_part {shown : List Char → List Char} {done : List Char → Bool} {items : List (Char ⊕ List Char)} {name : List Char}
    (formed : WellFormed items) (names : ∀ other, .inr other ∈ items → '{' ∉ other) (free : ∀ other, '{' ∉ shown other)
    (some : name ≠ []) (closed : '}' ∉ name) : replace ('{' :: (name ++ ['}'])) (shown name) (partText shown done items) =
      partText shown (fun other => done other || decide (other = name)) items := by
  induction items with
  | nil => rfl
  | cons piece rest ih =>
    have later : ∀ other, .inr other ∈ rest → '{' ∉ other := fun other inside => names other (List.mem_cons_of_mem _ inside)
    cases piece with
    | inl c =>
      have elsewhere : ¬ '{' :: (name ++ ['}']) <+: c :: partText shown done rest := by
        rintro ⟨tail,same⟩
        have body : (name ++ ['}']) ++ tail = partText shown done rest := (List.cons.inj same).2
        cases (List.cons.inj same).1
        rw [List.append_assoc] at body
        rcases formed.1 rfl with closes | plain
        · obtain ⟨others,rfl⟩ : ∃ others, rest = .inl '}' :: others := by
            cases rest with
            | nil => cases closes
            | cons piece others =>
              cases closes
              exact ⟨others,rfl⟩
          obtain ⟨d,front,rfl⟩ := List.exists_cons_of_ne_nil some
          have first := (List.cons.inj body).1
          rw [first] at closed
          exact closed List.mem_cons_self
        · have inside : '}' ∈ partText shown done rest := by
            rw [← body]
            simp
          obtain ⟨piece,member,found⟩ := List.mem_flatMap.mp inside
          obtain ⟨d,rfl,other⟩ := plain piece member
          exact other (List.mem_singleton.mp found).symm
      exact (replace_skips (List.cons_ne_nil _ _) elsewhere (shown name)).trans (congrArg (c :: ·) (ih formed.2 later))
    | inr other =>
      obtain ⟨filled,unclosed,rests⟩ := formed
      have step := ih rests later
      show replace _ _ ((if done other then shown other else '{' :: (other ++ ['}'])) ++ partText shown done rest) =
        (if done other || decide (other = name) then shown other else '{' :: (other ++ ['}'])) ++ partText shown _ rest
      by_cases earlier : done other = true
      · rw [if_pos earlier,earlier,Bool.true_or,if_pos rfl,replace_passes (free other),step]
      · rw [if_neg earlier,Bool.eq_false_iff.mpr earlier,Bool.false_or]
        by_cases same : other = name
        · subst same
          rw [if_pos (decide_eq_true rfl),replace_starts (List.cons_ne_nil _ _),step]
        · -- Another placeholder has another name between its braces.
          have elsewhere : ¬ '{' :: (name ++ ['}']) <+: '{' :: ((other ++ ['}']) ++ partText shown done rest) := by
            rintro ⟨tail,equal⟩
            have body : (name ++ ['}']) ++ tail = (other ++ ['}']) ++ partText shown done rest := (List.cons.inj equal).2
            rw [List.append_assoc,List.append_assoc] at body
            exact same (closed_unique closed unclosed body).symm
          have passed : '{' ∉ other ++ ['}'] := by
            intro inside
            rcases List.mem_append.mp inside with front | last
            · exact names other List.mem_cons_self front
            · cases List.mem_singleton.mp last
          rw [decide_eq_false same,if_neg Bool.false_ne_true,List.cons_append,replace_skips (List.cons_ne_nil _ _) elsewhere,
            replace_passes passed,step]
          rfl
end Pieces

section Filling
variable {str : Value → Option String} {pathParams : Dict String Value}

-- What a name's argument is as a text.
def givenText (str : Value → Option String) (pathParams : Dict String Value) (name : String) : Option String :=
  (pathParams.get name).bind (fun value => (textOf str value).toOption)

def shownText (str : Value → Option String) (pathParams : Dict String Value) (name : List Char) : List Char :=
  (quote ((givenText str pathParams (String.ofList name)).getD "")).toList

theorem fillName_ok {out name next : String} (ran : fillName str pathParams out name = .ok next) :
    (givenText str pathParams name).isSome = true ∧
      next = String.ofList (replace ('{' :: (name.toList ++ ['}'])) (shownText str pathParams name.toList) out.toList) := by
  obtain ⟨raw,looked,later⟩ := bind_ok_iff.mp ran
  obtain ⟨text,read,same⟩ := bind_ok_iff.mp later
  have given : givenText str pathParams name = some text := by
    unfold lookup at looked
    cases found : pathParams.get name with
    | none =>
      rw [found] at looked
      cases looked
    | some value =>
      rw [found] at looked
      cases looked
      unfold givenText
      rw [found,Option.bind_some,read]
      rfl
  refine ⟨by rw [given]; rfl,?_⟩
  cases same
  unfold shownText
  rw [String.ofList_toList,given]
  rfl

theorem shownText_free (name : List Char) : '{' ∉ shownText str pathParams name := quote_free rfl (by decide) _

theorem fill_loop {items : List (Char ⊕ List Char)} (formed : WellFormed items) (plain : ∀ other, .inr other ∈ items → '{' ∉ other)
    (names : List String) (each : ∀ name ∈ names, name.toList ≠ [] ∧ '}' ∉ name.toList) (done : List Char → Bool) {out : String}
    (ran : names.foldlM (fillName str pathParams) (String.ofList (partText (shownText str pathParams) done items)) = .ok out) :
    (∀ name ∈ names, (givenText str pathParams name).isSome = true) ∧
      out = String.ofList (partText (shownText str pathParams) (fun other => done other || names.any (fun name => decide (other = name.toList))) items) := by
  induction names generalizing done with
  | nil =>
    cases ran
    refine ⟨fun _ inside => (by cases inside),?_⟩
    simp only [List.any_nil,Bool.or_false]
  | cons name rest ih =>
    obtain ⟨next,filled,later⟩ := bind_ok_iff.mp ran
    obtain ⟨given,rfl⟩ := fillName_ok filled
    obtain ⟨some,closed⟩ := each name List.mem_cons_self
    rw [String.toList_ofList,replace_part formed plain shownText_free some closed] at later
    obtain ⟨others,same⟩ := ih (fun other member => each other (List.mem_cons_of_mem _ member)) _ later
    refine ⟨?_,?_⟩
    · intro other member
      rcases List.mem_cons.mp member with rfl | inside
      · exact given
      · exact others other inside
    · rw [same]
      simp only [List.any_cons,Bool.or_assoc]

theorem mem_fromKeys (names : List String) (name : String) : name ∈ fromKeys names ↔ name ∈ names := by
  have added (seen : List String) : name ∈ names.foldl (fun seen name => if name ∈ seen then seen else seen ++ [name]) seen ↔ name ∈ seen ∨ name ∈ names := by
    induction names generalizing seen with
    | nil => simp
    | cons other rest ih =>
      rw [List.foldl_cons,ih]
      split
      · rename_i known
        constructor
        · rintro (earlier | later)
          · exact .inl earlier
          · exact .inr (List.mem_cons_of_mem _ later)
        · rintro (earlier | member)
          · exact .inl earlier
          · rcases List.mem_cons.mp member with rfl | later
            · exact .inl known
            · exact .inr later
      · simp [or_assoc]
  exact (added []).trans (by simp)

theorem mem_findNames {template name : String} : name ∈ findNames template ↔ .inr name.toList ∈ pieces placeholder template.toList := by
  unfold findNames findAll
  constructor
  · intro member
    obtain ⟨chars,found,rfl⟩ := List.mem_map.mp member
    obtain ⟨piece,inside,right⟩ := List.mem_filterMap.mp found
    rw [String.toList_ofList,← Sum.getRight?_eq_some_iff.mp right]
    exact inside
  · intro inside
    exact List.mem_map.mpr ⟨name.toList,List.mem_filterMap.mpr ⟨_,inside,rfl⟩,String.ofList_toList⟩

-- What a filled template has come through.
theorem fillPathTemplate_ok {template filled : String} (ran : fillPathTemplate str template pathParams = .ok filled) :
    (fromKeys (findNames template)).foldlM (fillName str pathParams) template = .ok filled ∧ filledPathHasDotSegment filled = false := by
  unfold fillPathTemplate at ran
  dsimp only at ran
  split at ran
  · cases ran
  · obtain ⟨invalidNames,_,checked⟩ := bind_ok_iff.mp ran
    split at checked
    · cases checked
    · obtain ⟨out,looped,last⟩ := bind_ok_iff.mp checked
      split at last
      · cases last
      · rename_i clean
        cases last
        exact ⟨looped,Bool.eq_false_iff.mpr clean⟩
end Filling

-- A text has one segment more than it has slashes.
theorem segments_length (text : List Char) : (text.splitOn '/').length = text.count '/' + 1 := by
  rw [List.splitOn_eq_splitOnP]
  induction text with
  | nil => rfl
  | cons c rest ih =>
    rw [List.splitOnP_cons_eq_if_modifyHead,List.count_cons]
    split
    · rw [List.length_cons,ih]
    · rw [List.length_modifyHead,ih]

-- A filled template is the template with each placeholder's text in its place at once. No text leaves its segment.
theorem fillPathTemplate_confined {template : String} {pathParams : Dict String Value} {filled : String} (str : Value → Option String)
    (plain : ∀ name ∈ findNames template, '{' ∉ name.toList ∧ '/' ∉ name.toList) (ran : fillPathTemplate str template pathParams = .ok filled) :
    (∀ name ∈ findNames template, (givenText str pathParams name).isSome = true) ∧
      filled = String.ofList (sub placeholder (fun name => (quote ((givenText str pathParams (String.ofList name)).getD "")).toList) template.toList) ∧
      (filled.toList.splitOn '/').length = (template.toList.splitOn '/').length ∧
      (∀ text, ∀ c ∈ ['?','#','/'], c ∉ (quote text).toList) ∧
      ∀ segment ∈ filled.toList.splitOn '/', segment ≠ ['.'] ∧ segment ≠ ['.','.'] := by
  have formed := pieces_wellFormed template.toList
  have named (name : List Char) (inside : .inr name ∈ pieces placeholder template.toList) : String.ofList name ∈ findNames template := by
    rw [mem_findNames,String.toList_ofList]
    exact inside
  have opened (name : List Char) (inside : .inr name ∈ pieces placeholder template.toList) : '{' ∉ name ∧ '/' ∉ name := by
    have fine := plain _ (named name inside)
    rwa [String.toList_ofList] at fine
  obtain ⟨looped,clean⟩ := fillPathTemplate_ok ran
  have start : String.ofList (partText (shownText str pathParams) (fun _ => false) (pieces placeholder template.toList)) = template := by
    rw [partText_whole,String.ofList_toList]
  have each : ∀ name ∈ fromKeys (findNames template), name.toList ≠ [] ∧ '}' ∉ name.toList :=
    fun name member => formed.name (mem_findNames.mp ((mem_fromKeys _ name).mp member))
  have looping : (fromKeys (findNames template)).foldlM (fillName str pathParams)
      (String.ofList (partText (shownText str pathParams) (fun _ => false) (pieces placeholder template.toList))) = .ok filled := by
    rw [start]
    exact looped
  obtain ⟨given,same⟩ := fill_loop formed (fun name inside => (opened name inside).1) _ each _ looping
  have whole : filled.toList = sub placeholder (shownText str pathParams) template.toList := by
    rw [same,String.toList_ofList]
    apply List.flatMap_congr
    intro piece inside
    cases piece with
    | inl c => rw [Sum.elim_inl,Sum.elim_inl]
    | inr name =>
      have filling : (fromKeys (findNames template)).any (fun other => decide (name = other.toList)) = true :=
        List.any_eq_true.mpr ⟨String.ofList name,(mem_fromKeys _ _).mpr (named name inside),decide_eq_true String.toList_ofList.symm⟩
      simp only [Sum.elim_inr,Bool.false_or,if_pos filling]
  have slashes : filled.toList.count '/' = template.toList.count '/' := by
    conv_rhs => rw [← partText_whole (shownText str pathParams) template.toList]
    rw [whole,sub,partText,List.count_flatMap,List.count_flatMap]
    apply congrArg List.sum
    apply List.map_congr_left
    intro piece inside
    cases piece with
    | inl c => rw [Function.comp_apply,Function.comp_apply,Sum.elim_inl,Sum.elim_inl]
    | inr name =>
      have replaced : (shownText str pathParams name).count '/' = 0 := List.count_eq_zero.mpr (quote_free rfl (by decide) _)
      have held : ('{' :: (name ++ ['}'])).count '/' = 0 := by
        refine List.count_eq_zero.mpr ?_
        simpa using (opened name inside).2
      simp only [Function.comp_apply,Sum.elim_inr,Bool.false_eq_true,if_false]
      rw [replaced,held]
  refine ⟨fun name member => given name ((mem_fromKeys _ name).mpr member),?_,by rw [segments_length,segments_length,slashes],?_,?_⟩
  · rw [← String.ofList_toList (s := filled),whole]
    rfl
  · intro text c reserved
    simp only [List.mem_cons,List.not_mem_nil,or_false] at reserved
    rcases reserved with rfl | rfl | rfl
    · exact quote_free rfl (by decide) text
    · exact quote_free rfl (by decide) text
    · exact quote_free rfl (by decide) text
  · intro segment member
    have outside := List.any_eq_false.mp clean segment member
    constructor
    · rintro rfl
      exact outside (by decide)
    · rintro rfl
      exact outside (by decide)

-- A value that holds a slash and a placeholder itself.
def sampleTemplate : String := "/\x7ba\x7d"

def sampleParams : Dict String Value := ⟨[("a",.str "/\x7ba\x7d")],List.nodup_singleton _⟩

theorem sample_filled : fillPathTemplate (fun _ => none) sampleTemplate sampleParams = .ok "/%2F%7Ba%7D" := by decide +kernel

theorem sample_plain : ∀ name ∈ findNames sampleTemplate, '{' ∉ name.toList ∧ '/' ∉ name.toList := by
  have names : findNames sampleTemplate = ["a"] := by decide +kernel
  rw [names]
  intro name member
  rw [List.mem_singleton.mp member]
  decide

theorem fillPathTemplate_confined_sample :
    (∀ name ∈ findNames sampleTemplate, (givenText (fun _ => none) sampleParams name).isSome = true) ∧
      "/%2F%7Ba%7D" = String.ofList (sub placeholder
        (fun name => (quote ((givenText (fun _ => none) sampleParams (String.ofList name)).getD "")).toList) sampleTemplate.toList) ∧
      ("/%2F%7Ba%7D".toList.splitOn '/').length = (sampleTemplate.toList.splitOn '/').length ∧
      (∀ text, ∀ c ∈ ['?','#','/'], c ∉ (quote text).toList) ∧
      ∀ segment ∈ "/%2F%7Ba%7D".toList.splitOn '/', segment ≠ ['.'] ∧ segment ≠ ['.','.'] :=
  fillPathTemplate_confined _ sample_plain sample_filled

end Asap.PathTemplates
