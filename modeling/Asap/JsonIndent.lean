import Asap.JsonStability

-- `json.dumps(value, indent=2)`: the members of a list or of a dictionary on lines of their
-- own. The text reads as the value, as the one without line breaks does.
namespace PythonValue

def newline (level : Nat) : List Char := '\n' :: List.replicate (2 * level) ' '

mutual
def indented : Nat → Value → List Char
  | level,.list items =>
    if items.isEmpty then ['[',']'] else '[' :: (indentedList (level + 1) items ++ (newline level ++ [']']))
  | level,.dict items =>
    if items.isEmpty then ['\x7b','\x7d'] else '\x7b' :: (indentedItems (level + 1) items ++ (newline level ++ ['\x7d']))
  | _,value => render value
def indentedList : Nat → List Value → List Char
  | _,[] => []
  | level,value :: rest => newline level ++ (indented level value ++ if rest.isEmpty then [] else ',' :: indentedList level rest)
def indentedItems : Nat → List (Key × Value) → List Char
  | _,[] => []
  | level,(key,value) :: rest =>
    newline level ++ (((quote key.text).toList ++ ':' :: ' ' :: indented level value) ++
      if rest.isEmpty then [] else ',' :: indentedItems level rest)
end

-- No object JSON has no form for.
mutual
def hasForm : Value → Bool
  | .other _ => false
  | .list items => listHasForm items
  | .dict items => itemsHaveForm items
  | _ => true
def listHasForm : List Value → Bool
  | [] => true
  | value :: rest => hasForm value && listHasForm rest
def itemsHaveForm : List (Key × Value) → Bool
  | [] => true
  | (_,value) :: rest => hasForm value && itemsHaveForm rest
end

-- `none` is the TypeError of an object without a form.
def dumpsIndented (value : Value) : Option String := if hasForm value then some (String.ofList (indented 0 value)) else none

theorem skipSpace_newline (level : Nat) (rest : List Char) : skipSpace (newline level ++ rest) = skipSpace rest := by
  have spaces : ∀ c ∈ newline level, isJsonSpace c = true := by
    intro c member
    rcases List.mem_cons.mp member with rfl | later
    · rfl
    · rw [List.eq_of_mem_replicate later]
      rfl
  exact List.dropWhile_append_of_pos spaces

theorem ends_newline (level : Nat) (rest : List Char) : Ends (newline level ++ rest) := by
  intro c head
  cases head
  exact ⟨by decide,by decide,by decide,by decide⟩

section Reads
variable (floats : Floats)

-- `Reads` for any text of the value.
structure ReadsAs (text : List Char) (value : Value) : Prop where
  opens : ∃ c tail, text = c :: tail ∧ Opens c
  back : ∀ fuel rest, text.length ≤ fuel → Ends rest → scanValue floats fuel (text ++ rest) = some (value,rest)

theorem readsAs_of_step {text : List Char} {value : Value} (opens : ∃ c tail, text = c :: tail ∧ Opens c)
    (step : ∀ fuel rest, text.length ≤ fuel + 1 → scanValue floats (fuel + 1) (text ++ rest) = some (value,rest)) :
    ReadsAs floats text value := by
  refine ⟨opens,?_⟩
  intro fuel rest enough _
  cases fuel with
  | zero =>
    obtain ⟨c,tail,rfl,_⟩ := opens
    cases enough
  | succ fuel => exact step fuel rest enough

-- The space in front of an element is skipped before it is read.
theorem scanElements_indented (level close : Nat) (items : List Value) (some_ : items ≠ [])
    (each : ∀ item ∈ items, ReadsAs floats (indented level item) item)
    (fuel : Nat) (rest : List Char) (enough : (indentedList level items).length ≤ fuel) :
    scanElements floats fuel (skipSpace (indentedList level items ++ (newline close ++ ']' :: rest))) = some (items,rest) := by
  induction items generalizing fuel with
  | nil => exact absurd rfl some_
  | cons value items ih =>
    obtain ⟨opens,back⟩ := each value (by simp)
    have width : 1 ≤ (newline level).length := by simp [newline]
    rw [indentedList,List.length_append,List.length_append] at enough
    obtain ⟨fuel,rfl⟩ : ∃ more, fuel = more + 1 := ⟨fuel - 1,by omega⟩
    rw [indentedList,List.append_assoc,List.append_assoc,skipSpace_newline,skipSpace_opens _ opens,scanElements]
    cases items with
    | nil =>
      have read := back fuel (newline close ++ ']' :: rest) (by omega) (ends_newline close _)
      have stop : skipSpace (newline close ++ ']' :: rest) = ']' :: rest := by
        rw [skipSpace_newline]
        exact skipSpace_stays rest rfl
      simp [read,stop]
    | cons next items =>
      have later := ih (by simp) (fun item member => each item (List.mem_cons_of_mem _ member)) fuel (by
        simp only [List.isEmpty_cons,Bool.false_eq_true,if_false,List.length_cons] at enough
        omega)
      have read := back fuel (',' :: (indentedList level (next :: items) ++ (newline close ++ ']' :: rest))) (by omega)
        (ends_cons _ (by simp))
      have comma : skipSpace (',' :: (indentedList level (next :: items) ++ (newline close ++ ']' :: rest))) =
          ',' :: (indentedList level (next :: items) ++ (newline close ++ ']' :: rest)) := skipSpace_stays _ rfl
      simp only [List.isEmpty_cons,Bool.false_eq_true,if_false,List.cons_append,read,Option.bind_some,comma,if_true,later,
        Option.map_some]

-- One member up to what follows it; the space before that is skipped.
theorem scanMembers_one {level : Nat} {key : Key} {value : Value} (named : key.string.isSome = true)
    (reads : ReadsAs floats (indented level value) value) (fuel : Nat) (rest : List Char) (next : Char) (after : List Char)
    (enough : (indented level value).length ≤ fuel) (ends : Ends rest) (stop : skipSpace rest = next :: after) :
    scanMembers floats (fuel + 1) (((quote key.text).toList ++ ':' :: ' ' :: indented level value) ++ rest) =
      if next = ',' then (scanMembers floats fuel (skipSpace after)).map (fun (items,rest) => ((key,value) :: items,rest))
      else if next = '\x7d' then some ([(key,value)],after)
      else none := by
  have body := scanString_text key.text (':' :: ' ' :: (indented level value ++ rest))
  have read := reads.back fuel rest enough ends
  have colon : skipSpace (':' :: ' ' :: (indented level value ++ rest)) = ':' :: ' ' :: (indented level value ++ rest) :=
    skipSpace_stays _ rfl
  have space : skipSpace (' ' :: (indented level value ++ rest)) = indented level value ++ rest := by
    have stays := skipSpace_opens rest reads.opens
    simpa [skipSpace,isJsonSpace] using stays
  have shape : ((quote key.text).toList ++ ':' :: ' ' :: indented level value) ++ rest =
      '"' :: (key.text.toList.flatMap escapeChar ++ '"' :: ':' :: ' ' :: (indented level value ++ rest)) := by
    simp [quote_chars]
  rw [shape,scanMembers,if_neg (by simp),body]
  simp only [Option.bind_some,colon,ne_eq,not_true_eq_false,if_false,space,read,stop,String.ofList_toList,← string_key named]

theorem memberText_opens (level : Nat) (key : Key) (value : Value) :
    ∃ c tail, (quote key.text).toList ++ ':' :: ' ' :: indented level value = c :: tail ∧ Opens c := by
  rw [quote_chars]
  exact ⟨_,_,rfl,rfl,by decide,by decide⟩

theorem scanMembers_indented (level close : Nat) (items : List (Key × Value)) (some_ : items ≠ [])
    (each : ∀ item ∈ items, item.1.string.isSome = true ∧ ReadsAs floats (indented level item.2) item.2)
    (fuel : Nat) (rest : List Char) (enough : (indentedItems level items).length ≤ fuel) :
    scanMembers floats fuel (skipSpace (indentedItems level items ++ (newline close ++ '\x7d' :: rest))) = some (items,rest) := by
  induction items generalizing fuel with
  | nil => exact absurd rfl some_
  | cons item items ih =>
    obtain ⟨key,value⟩ := item
    obtain ⟨named,reads⟩ : key.string.isSome = true ∧ ReadsAs floats (indented level value) value := each (key,value) (by simp)
    have width : 1 ≤ (newline level).length := by simp [newline]
    simp only [indentedItems,List.length_append,List.length_cons] at enough
    obtain ⟨fuel,rfl⟩ : ∃ more, fuel = more + 1 := ⟨fuel - 1,by omega⟩
    have opens := memberText_opens level key value
    cases items with
    | nil =>
      have stop : skipSpace (newline close ++ '\x7d' :: rest) = '\x7d' :: rest := by
        rw [skipSpace_newline]
        exact skipSpace_stays rest rfl
      simp only [indentedItems,List.isEmpty_nil,if_true,List.append_nil]
      rw [List.append_assoc,skipSpace_newline,skipSpace_opens _ opens,
        scanMembers_one floats named reads fuel _ _ _ (by omega) (ends_newline close _) stop,if_neg (by decide),if_pos rfl]
    | cons next items =>
      have later := ih (by simp) (fun item member => each item (List.mem_cons_of_mem _ member)) fuel (by
        simp only [List.isEmpty_cons,Bool.false_eq_true,if_false,List.length_cons] at enough
        omega)
      have comma : skipSpace (',' :: (indentedItems level (next :: items) ++ (newline close ++ '\x7d' :: rest))) =
          ',' :: (indentedItems level (next :: items) ++ (newline close ++ '\x7d' :: rest)) := skipSpace_stays _ rfl
      rw [indentedItems,List.append_assoc,List.append_assoc,skipSpace_newline,skipSpace_opens _ opens]
      simp only [List.isEmpty_cons,Bool.false_eq_true,if_false,List.cons_append]
      rw [scanMembers_one floats named reads fuel _ _ _ (by omega) (ends_cons _ (by simp)) comma,if_pos rfl,later]
      rfl

theorem indentedList_space (level : Nat) (items : List Value) (some_ : items ≠ []) (each : ∀ item ∈ items, ReadsAs floats (indented level item) item)
    (rest : List Char) : ∃ c tail, skipSpace (indentedList level items ++ rest) = c :: tail ∧ Opens c := by
  cases items with
  | nil => exact absurd rfl some_
  | cons value items =>
    obtain ⟨c,tail,shape,opens⟩ := (each value (by simp)).opens
    rw [indentedList,List.append_assoc,List.append_assoc,skipSpace_newline,shape,List.cons_append,skipSpace_stays _ opens.visible]
    exact ⟨_,_,rfl,opens⟩

theorem indentedItems_space (level : Nat) (items : List (Key × Value)) (some_ : items ≠ []) (rest : List Char) :
    ∃ c tail, skipSpace (indentedItems level items ++ rest) = c :: tail ∧ Opens c := by
  cases items with
  | nil => exact absurd rfl some_
  | cons item items =>
    obtain ⟨key,value⟩ := item
    obtain ⟨c,tail,shape,opens⟩ := memberText_opens level key value
    rw [indentedItems,List.append_assoc,List.append_assoc,skipSpace_newline,shape,List.cons_append,skipSpace_stays _ opens.visible]
    exact ⟨_,_,rfl,opens⟩

theorem list_readsAs (level : Nat) (items : List Value) (each : ∀ item ∈ items, ReadsAs floats (indented (level + 1) item) item) :
    ReadsAs floats (indented level (.list items)) (.list items) := by
  cases items with
  | nil =>
    refine readsAs_of_step floats ⟨'[',[']'],rfl,rfl,by decide,by decide⟩ ?_
    intro fuel rest _
    simp [indented,scanValue,skipSpace,isJsonSpace]
  | cons value items =>
    have shape : indented level (.list (value :: items)) =
        '[' :: (indentedList (level + 1) (value :: items) ++ (newline level ++ [']'])) := by simp [indented]
    rw [shape]
    refine readsAs_of_step floats ⟨_,_,rfl,rfl,by decide,by decide⟩ ?_
    intro fuel rest enough
    simp only [List.length_append,List.length_cons,List.length_nil] at enough
    have read := scanElements_indented floats (level + 1) level (value :: items) (by simp) each fuel rest (by omega)
    obtain ⟨c,tail,first,opens⟩ := indentedList_space floats (level + 1) (value :: items) (by simp) each (newline level ++ ']' :: rest)
    rw [first] at read
    simp only [List.cons_append,List.append_assoc,List.nil_append,scanValue] at first ⊢
    simp [first,opens.bracket,read]

theorem dict_readsAs (level : Nat) (items : List (Key × Value))
    (each : ∀ item ∈ items, item.1.string.isSome = true ∧ ReadsAs floats (indented (level + 1) item.2) item.2) :
    ReadsAs floats (indented level (.dict items)) (.dict items) := by
  cases items with
  | nil =>
    refine readsAs_of_step floats ⟨'\x7b',['\x7d'],rfl,rfl,by decide,by decide⟩ ?_
    intro fuel rest _
    simp [indented,scanValue,skipSpace,isJsonSpace]
  | cons item items =>
    have shape : indented level (.dict (item :: items)) =
        '\x7b' :: (indentedItems (level + 1) (item :: items) ++ (newline level ++ ['\x7d'])) := by simp [indented]
    rw [shape]
    refine readsAs_of_step floats ⟨_,_,rfl,rfl,by decide,by decide⟩ ?_
    intro fuel rest enough
    simp only [List.length_append,List.length_cons,List.length_nil] at enough
    have read := scanMembers_indented floats (level + 1) level (item :: items) (by simp) each fuel rest (by omega)
    obtain ⟨c,tail,first,opens⟩ := indentedItems_space (level + 1) (item :: items) (by simp) (newline level ++ '\x7d' :: rest)
    rw [first] at read
    simp only [List.cons_append,List.append_assoc,List.nil_append,scanValue] at first ⊢
    simp [first,opens.brace,read]

-- A value that is written on one line.
theorem line_readsAs (level : Nat) (value : Value) (plain : Plain floats value) (line : indented level value = render value) :
    ReadsAs floats (indented level value) value := by
  rw [line]
  obtain ⟨opens,back⟩ := plain_reads floats value plain
  exact ⟨opens,back⟩

mutual
theorem indented_readsAs : (level : Nat) → (value : Value) → Plain floats value → ReadsAs floats (indented level value) value
  | level,.none,plain => line_readsAs floats level _ plain rfl
  | level,.bool _,plain => line_readsAs floats level _ plain rfl
  | level,.int _,plain => line_readsAs floats level _ plain rfl
  | level,.float _ _,plain => line_readsAs floats level _ plain rfl
  | level,.nonFinite _,plain => line_readsAs floats level _ plain rfl
  | level,.str _,plain => line_readsAs floats level _ plain rfl
  | _,.other _,plain => plain.elim
  | level,.list items,plain => list_readsAs floats level items (indentedList_readsAs (level + 1) items plain)
  | level,.dict items,plain => dict_readsAs floats level items (indentedItems_readsAs (level + 1) items plain)
theorem indentedList_readsAs : (level : Nat) → (items : List Value) → PlainList floats items →
    ∀ item ∈ items, ReadsAs floats (indented level item) item
  | _,[],_,_,member => by cases member
  | level,value :: rest,plain,item,member => by
    rcases List.mem_cons.mp member with same | later
    · rw [same]
      exact indented_readsAs level value plain.1
    · exact indentedList_readsAs level rest plain.2 item later
theorem indentedItems_readsAs : (level : Nat) → (items : List (Key × Value)) → PlainItems floats items →
    ∀ item ∈ items, item.1.string.isSome = true ∧ ReadsAs floats (indented level item.2) item.2
  | _,[],_,_,member => by cases member
  | level,(key,value) :: rest,plain,item,member => by
    rcases List.mem_cons.mp member with same | later
    · rw [same]
      exact ⟨plain.1,indented_readsAs level value plain.2.1⟩
    · exact indentedItems_readsAs level rest plain.2.2 item later
end

mutual
theorem plain_hasForm : (value : Value) → Plain floats value → hasForm value = true
  | .none,_ | .bool _,_ | .int _,_ | .float _ _,_ | .nonFinite _,_ | .str _,_ => rfl
  | .other _,plain => plain.elim
  | .list items,plain => plainList_hasForm items plain
  | .dict items,plain => plainItems_haveForm items plain
theorem plainList_hasForm : (items : List Value) → PlainList floats items → listHasForm items = true
  | [],_ => rfl
  | value :: rest,plain => by rw [listHasForm,plain_hasForm value plain.1,plainList_hasForm rest plain.2,Bool.and_self]
theorem plainItems_haveForm : (items : List (Key × Value)) → PlainItems floats items → itemsHaveForm items = true
  | [],_ => rfl
  | (_,value) :: rest,plain => by rw [itemsHaveForm,plain_hasForm value plain.2.1,plainItems_haveForm rest plain.2.2,Bool.and_self]
end

-- `json.loads(json.dumps(value, indent=2))`
theorem loads_dumpsIndented (value : Value) (plain : Plain floats value) :
    (dumpsIndented value).bind (loads floats) = some (collapse value) := by
  obtain ⟨opens,back⟩ := indented_readsAs floats 0 value plain
  have read := back ((indented 0 value).length + 1) [] (by omega) (by intro c head; cases head)
  have stays := skipSpace_opens [] opens
  have finished : skipSpace [] = [] := rfl
  simp only [List.append_nil] at read stays
  simp [dumpsIndented,plain_hasForm floats value plain,loads,stays,read,finished]

end Reads

example : dumpsIndented (.dict [(.str "a",.list [.int 1,.none]),(.str "b",.dict [])]) =
    some "\x7b\n  \"a\": [\n    1,\n    null\n  ],\n  \"b\": \x7b\x7d\n\x7d" := by decide +kernel

end PythonValue
