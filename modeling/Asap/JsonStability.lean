import Mathlib.Data.String.Basic
import Asap.PythonJson

-- Which values survive `json.dumps(…, sort_keys=True)`, `json.loads` and `json.dumps` again
-- with the same text. `sort_keys` orders the keys of a dictionary before they become texts,
-- numbers as numbers; `json.loads` returns texts, which the second call orders as texts.
namespace PythonValue
open OrderedDict

section Genuine
variable (floats : Floats)

-- A value whose floats are Python's, each with its repr.
mutual
def Genuine : Value → Prop
  | .float value repr => floats.repr value repr
  | .nonFinite repr => repr = "NaN" ∨ repr = "Infinity" ∨ repr = "-Infinity"
  | .list items => GenuineList items
  | .dict items => GenuineItems items
  | _ => True
def GenuineList : List Value → Prop
  | [] => True
  | value :: rest => Genuine value ∧ GenuineList rest
def GenuineItems : List (Key × Value) → Prop
  | [] => True
  | (_,value) :: rest => Genuine value ∧ GenuineItems rest
end

theorem plainItems_iff (items : List (Key × Value)) :
    PlainItems floats items ↔ ∀ item ∈ items, item.1.string.isSome = true ∧ Plain floats item.2 := by
  induction items with
  | nil => simp [PlainItems]
  | cons item rest ih => simp [PlainItems,ih,and_assoc]

mutual
theorem written_plain : (value shown : Value) → Genuine floats value → written value = some shown → Plain floats shown
  | .none,shown,_,result => by cases result; trivial
  | .bool _,shown,_,result => by cases result; trivial
  | .int _,shown,_,result => by cases result; trivial
  | .float _ _,shown,genuine,result => by cases result; exact genuine
  | .nonFinite _,shown,genuine,result => by cases result; exact genuine
  | .str _,shown,_,result => by cases result; trivial
  | .other _,shown,_,result => by cases result; trivial
  | .list items,shown,genuine,result => by
    obtain ⟨inner,inside,rfl⟩ := Option.map_eq_some_iff.mp result
    exact writtenList_plain items inner genuine inside
  | .dict items,shown,genuine,result => by
    obtain ⟨sorted,sorting,rfl⟩ := Option.map_eq_some_iff.mp result
    obtain ⟨inner,inside,order⟩ := Option.bind_eq_some_iff.mp sorting
    show PlainItems floats _
    rw [plainItems_iff]
    intro item member
    obtain ⟨original,origin,rfl⟩ := List.mem_map.mp member
    exact ⟨rfl,writtenItems_plain items inner genuine inside original ((sortItems_perm order).mem_iff.mp origin)⟩
theorem writtenList_plain : (items shown : List Value) → GenuineList floats items → writtenList items = some shown →
    PlainList floats shown
  | [],shown,_,result => by cases result; trivial
  | value :: rest,shown,genuine,result => by
    obtain ⟨first,head,tail⟩ := Option.bind_eq_some_iff.mp result
    obtain ⟨others,later,rfl⟩ := Option.map_eq_some_iff.mp tail
    exact ⟨written_plain value first genuine.1 head,writtenList_plain rest others genuine.2 later⟩
theorem writtenItems_plain : (items shown : List (Key × Value)) → GenuineItems floats items → writtenItems items = some shown →
    ∀ item ∈ shown, Plain floats item.2
  | [],shown,_,result,item,member => by cases result; cases member
  | (key,value) :: rest,shown,genuine,result,item,member => by
    obtain ⟨first,head,tail⟩ := Option.bind_eq_some_iff.mp result
    obtain ⟨others,later,rfl⟩ := Option.map_eq_some_iff.mp tail
    rcases List.mem_cons.mp member with same | inside
    · rw [same]
      exact written_plain value first genuine.1 head
    · exact writtenItems_plain rest others genuine.2 later item inside
end
end Genuine

def ascending (items : List (Key × α)) : Prop := items.Pairwise (fun a b => a.1.text < b.1.text)

instance (items : List (Key × α)) : Decidable (ascending items) := inferInstanceAs (Decidable (List.Pairwise _ _))

-- In every dictionary the texts of the keys ascend in the order that `sort_keys` gives the
-- keys: always so for string keys, and for numbers where both orders agree.
mutual
def orderly : Value → Bool
  | .list items => orderlyList items
  | .dict items => (sortItems items).all (fun sorted => decide (ascending sorted)) && orderlyItems items
  | _ => true
def orderlyList : List Value → Bool
  | [] => true
  | value :: rest => orderly value && orderlyList rest
def orderlyItems : List (Key × Value) → Bool
  | [] => true
  | (_,value) :: rest => orderly value && orderlyItems rest
end

example : orderly (.dict [(.int 2,.none),(.int 1,.none)]) = true := by decide +kernel
example : orderly (.dict [(.int 9,.none),(.int 10,.none)]) = false := by decide +kernel

-- A value whose keys already stand in the order of their texts.
mutual
def Ascending : Value → Prop
  | .list items => AscendingList items
  | .dict items => ascending items ∧ AscendingItems items
  | _ => True
def AscendingList : List Value → Prop
  | [] => True
  | value :: rest => Ascending value ∧ AscendingList rest
def AscendingItems : List (Key × Value) → Prop
  | [] => True
  | (_,value) :: rest => Ascending value ∧ AscendingItems rest
end

theorem ascendingItems_iff (items : List (Key × Value)) : AscendingItems items ↔ ∀ item ∈ items, Ascending item.2 := by
  induction items with
  | nil => simp [AscendingItems]
  | cons item rest ih => simp [AscendingItems,ih]

theorem writtenItems_keys {items shown : List (Key × Value)} (result : writtenItems items = some shown) :
    shown.map Prod.fst = items.map Prod.fst := by
  induction items generalizing shown with
  | nil =>
    cases result
    rfl
  | cons item rest ih =>
    obtain ⟨first,_,tail⟩ := Option.bind_eq_some_iff.mp result
    obtain ⟨others,later,rfl⟩ := Option.map_eq_some_iff.mp tail
    simp [ih later]

-- The order that sorting gives depends on the keys alone.
theorem sortItems_keys {items : List (Key × α)} {shown : List (Key × β)} (keys : shown.map Prod.fst = items.map Prod.fst) :
    (sortItems items).map (List.map Prod.fst) = (sortItems shown).map (List.map Prod.fst) := by
  have bare : shown.map (fun item => (item.1,())) = items.map (fun item => (item.1,())) := by
    have paired := congrArg (List.map (fun key : Key => (key,()))) keys
    simpa [Function.comp_def] using paired
  have left := sortItems_map (fun _ : α => ()) items
  have right := sortItems_map (fun _ : β => ()) shown
  rw [bare,left] at right
  have same := congrArg (Option.map (List.map Prod.fst)) right
  simpa [Option.map_map,Function.comp_def] using same

theorem ascending_keys {items : List (Key × α)} {shown : List (Key × β)} (keys : shown.map Prod.fst = items.map Prod.fst) :
    ascending items ↔ ascending shown := by
  have left := List.pairwise_map (f := Prod.fst) (R := fun a b : Key => a.text < b.text) (l := items)
  have right := List.pairwise_map (f := Prod.fst) (R := fun a b : Key => a.text < b.text) (l := shown)
  rw [keys,left] at right
  exact right

theorem ascending_texts (items : List (Key × Value)) :
    ascending (items.map (fun item => ((.str item.1.text : Key),item.2))) ↔ ascending items := List.pairwise_map

mutual
theorem written_ascending : (value shown : Value) → written value = some shown → (Ascending shown ↔ orderly value = true)
  | .none,shown,result => by cases result; simp [Ascending,orderly]
  | .bool _,shown,result => by cases result; simp [Ascending,orderly]
  | .int _,shown,result => by cases result; simp [Ascending,orderly]
  | .float _ _,shown,result => by cases result; simp [Ascending,orderly]
  | .nonFinite _,shown,result => by cases result; simp [Ascending,orderly]
  | .str _,shown,result => by cases result; simp [Ascending,orderly]
  | .other _,shown,result => by cases result; simp [Ascending,orderly]
  | .list items,shown,result => by
    obtain ⟨inner,inside,rfl⟩ := Option.map_eq_some_iff.mp result
    simp only [Ascending,orderly]
    exact writtenList_ascending items inner inside
  | .dict items,shown,result => by
    obtain ⟨sorted,sorting,rfl⟩ := Option.map_eq_some_iff.mp result
    obtain ⟨inner,inside,order⟩ := Option.bind_eq_some_iff.mp sorting
    have keys := sortItems_keys (writtenItems_keys inside)
    rw [order] at keys
    obtain ⟨arranged,arrangement,sameKeys⟩ := Option.map_eq_some_iff.mp keys
    have outer : ascending arranged ↔ ascending sorted := ascending_keys sameKeys.symm
    have members : (∀ item ∈ sorted, Ascending item.2) ↔ ∀ item ∈ inner, Ascending item.2 := by
      simp only [(sortItems_perm order).mem_iff]
    have within := writtenItems_ascending items inner inside
    rw [ascendingItems_iff] at within
    simp only [Ascending,ascending_texts,ascendingItems_iff,List.forall_mem_map,members,within,orderly,arrangement,
      Option.all_some,outer,Bool.and_eq_true,decide_eq_true_eq]
theorem writtenList_ascending : (items shown : List Value) → writtenList items = some shown →
    (AscendingList shown ↔ orderlyList items = true)
  | [],shown,result => by cases result; simp [AscendingList,orderlyList]
  | value :: rest,shown,result => by
    obtain ⟨first,head,tail⟩ := Option.bind_eq_some_iff.mp result
    obtain ⟨others,later,rfl⟩ := Option.map_eq_some_iff.mp tail
    simp only [AscendingList,orderlyList,Bool.and_eq_true]
    exact and_congr (written_ascending value first head) (writtenList_ascending rest others later)
theorem writtenItems_ascending : (items shown : List (Key × Value)) → writtenItems items = some shown →
    (AscendingItems shown ↔ orderlyItems items = true)
  | [],shown,result => by cases result; simp [AscendingItems,orderlyItems]
  | (key,value) :: rest,shown,result => by
    obtain ⟨first,head,tail⟩ := Option.bind_eq_some_iff.mp result
    obtain ⟨others,later,rfl⟩ := Option.map_eq_some_iff.mp tail
    simp only [AscendingItems,orderlyItems,Bool.and_eq_true]
    exact and_congr (written_ascending value first head) (writtenItems_ascending rest others later)
end

-- `fromPairs` keeps a list without repeated keys, and repeats no key.
theorem assign_fold (pairs rows : List (Key × Value)) (distinct : ((rows ++ pairs).map Prod.fst).Nodup) :
    pairs.foldl (fun rows item => assign item.1 item.2 rows) rows = rows ++ pairs := by
  induction pairs generalizing rows with
  | nil => simp
  | cons item rest ih =>
    have absent : item.1 ∉ rows.map Prod.fst := by
      intro present
      rw [List.map_append,List.map_cons] at distinct
      exact (List.nodup_append.mp distinct).2.2 _ present _ (by simp) rfl
    rw [List.foldl_cons,assign_absent _ _ absent,ih _ (by simpa using distinct)]
    simp

theorem fromPairs_distinct (pairs : List (Key × Value)) : ((fromPairs pairs).map Prod.fst).Nodup := by
  unfold fromPairs
  suffices general : ∀ rows : List (Key × Value), (rows.map Prod.fst).Nodup →
      ((pairs.foldl (fun rows item => assign item.1 item.2 rows) rows).map Prod.fst).Nodup from general [] List.nodup_nil
  induction pairs with
  | nil => exact fun rows distinct => distinct
  | cons item rest ih => exact fun rows distinct => ih _ (assign_distinct _ _ distinct)

theorem mem_assign {key : Key} {value : Value} {rows : List (Key × Value)} {item : Key × Value}
    (member : item ∈ assign key value rows) : item = (key,value) ∨ item ∈ rows := by
  induction rows with
  | nil => exact .inl (List.mem_singleton.mp member)
  | cons row rest ih =>
    unfold assign at member
    split at member
    · exact (List.mem_cons.mp member).imp_right (List.mem_cons_of_mem _)
    · rcases List.mem_cons.mp member with same | later
      · exact .inr (same ▸ List.mem_cons_self)
      · exact (ih later).imp_right (List.mem_cons_of_mem _)

theorem mem_fromPairs {pairs : List (Key × Value)} {item : Key × Value} (member : item ∈ fromPairs pairs) : item ∈ pairs := by
  unfold fromPairs at member
  suffices general : ∀ rows : List (Key × Value),
      item ∈ pairs.foldl (fun rows item => assign item.1 item.2 rows) rows → item ∈ rows ∨ item ∈ pairs from
    (general [] member).resolve_left (by simp)
  clear member
  induction pairs with
  | nil => exact fun rows inside => .inl inside
  | cons next rest ih =>
    intro rows inside
    rcases ih _ inside with assigned | later
    · rcases mem_assign assigned with same | earlier
      · exact .inr (same ▸ List.mem_cons_self)
      · exact .inl earlier
    · exact .inr (List.mem_cons_of_mem _ later)

theorem ascending_distinct {items : List (Key × α)} (ascends : ascending items) : (items.map Prod.fst).Nodup := by
  rw [List.nodup_iff_pairwise_ne,List.pairwise_map]
  refine ascends.imp ?_
  intro a b less same
  rw [same] at less
  exact lt_irrefl _ less

theorem string_text {key : Key} (named : key.string.isSome = true) : key.string.getD "" = key.text := by
  rw [string_key named]
  rfl

-- Items under string keys that stand in order stay as they are.
theorem sortItems_ascending {items : List (Key × α)} (named : ∀ item ∈ items, item.1.string.isSome = true)
    (ascends : ascending items) : sortItems items = some items := by
  unfold sortItems
  split
  · rfl
  · rw [if_pos (List.all_eq_true.mpr named)]
    refine congrArg some (List.Pairwise.insertionSort_eq ?_)
    refine List.Pairwise.imp_of_mem ?_ ascends
    intro a b first second less
    rw [string_text (named a first),string_text (named b second)]
    exact le_of_lt less

theorem restored_keys {items : List (Key × Value)} (named : ∀ item ∈ items, item.1.string.isSome = true) :
    items.map (fun item => ((.str item.1.text : Key),item.2)) = items := by
  have same : items.map (fun item => ((.str item.1.text : Key),item.2)) = items.map id := by
    apply List.map_congr_left
    intro item member
    exact Prod.ext (string_key (named item member)).symm rfl
  rw [same,List.map_id]

section Stable
variable (floats : Floats)

-- Such a value is its own canonical form.
mutual
theorem ascending_written : (value : Value) → Plain floats value → Ascending value → collapse value = value ∧ written value = some value
  | .none,_,_ => ⟨rfl,rfl⟩
  | .bool _,_,_ => ⟨rfl,rfl⟩
  | .int _,_,_ => ⟨rfl,rfl⟩
  | .float _ _,_,_ => ⟨rfl,rfl⟩
  | .nonFinite _,_,_ => ⟨rfl,rfl⟩
  | .str _,_,_ => ⟨rfl,rfl⟩
  | .other _,plain,_ => plain.elim
  | .list items,plain,ascends => by
    obtain ⟨collapsed,shown⟩ := ascendingList_written items plain ascends
    simp only [collapse,written,collapsed,shown,Option.map_some,and_self]
  | .dict items,plain,ascends => by
    obtain ⟨collapsed,shown⟩ := ascendingItems_written items plain ascends.2
    have named : ∀ item ∈ items, item.1.string.isSome = true := fun item member => ((plainItems_iff floats items).mp plain item member).1
    have pairs : fromPairs items = items := by
      exact assign_fold items [] (ascending_distinct ascends.1)
    simp only [collapse,written,collapsed,pairs,shown,Option.bind_some,sortItems_ascending named ascends.1,Option.map_some,
      restored_keys named,and_self]
theorem ascendingList_written : (items : List Value) → PlainList floats items → AscendingList items →
    collapseList items = items ∧ writtenList items = some items
  | [],_,_ => ⟨rfl,rfl⟩
  | value :: rest,plain,ascends => by
    obtain ⟨first,head⟩ := ascending_written value plain.1 ascends.1
    obtain ⟨others,later⟩ := ascendingList_written rest plain.2 ascends.2
    simp only [collapseList,writtenList,first,head,others,later,Option.bind_some,Option.map_some,and_self]
theorem ascendingItems_written : (items : List (Key × Value)) → PlainItems floats items → AscendingItems items →
    collapseItems items = items ∧ writtenItems items = some items
  | [],_,_ => ⟨rfl,rfl⟩
  | (key,value) :: rest,plain,ascends => by
    obtain ⟨first,head⟩ := ascending_written value plain.2.1 ascends.1
    obtain ⟨others,later⟩ := ascendingItems_written rest plain.2.2 ascends.2
    simp only [collapseItems,writtenItems,first,head,others,later,Option.bind_some,Option.map_some,and_self]
end

theorem writtenItems_each (good : Value → Prop) {items : List (Key × Value)}
    (each : ∀ item ∈ items, ∃ shown, written item.2 = some shown ∧ good shown) :
    ∃ shown, writtenItems items = some shown ∧ ∀ item ∈ shown, good item.2 := by
  induction items with
  | nil => exact ⟨[],rfl,by simp⟩
  | cons item rest ih =>
    obtain ⟨first,head,fine⟩ := each item (by simp)
    obtain ⟨others,later,fineLater⟩ := ih (fun other member => each other (List.mem_cons_of_mem _ member))
    refine ⟨(item.1,first) :: others,by simp [writtenItems,head,later],?_⟩
    intro other member
    rcases List.mem_cons.mp member with rfl | inside
    · exact fine
    · exact fineLater other inside

-- String keys that come once are sorted into ascending texts.
theorem sortItems_strings {items : List (Key × α)} (named : ∀ item ∈ items, item.1.string.isSome = true)
    (distinct : (items.map Prod.fst).Nodup) : ∃ sorted, sortItems items = some sorted ∧ ascending sorted := by
  unfold sortItems
  split
  · rename_i short
    refine ⟨items,rfl,?_⟩
    match items,short with
    | [],_ => exact .nil
    | [_],_ => exact List.pairwise_singleton _ _
  · rw [if_pos (List.all_eq_true.mpr named)]
    refine ⟨_,rfl,?_⟩
    have perm := List.perm_insertionSort (fun a b : Key × α => a.1.string.getD "" ≤ b.1.string.getD "") items
    have sorted := List.pairwise_insertionSort (fun a b : Key × α => a.1.string.getD "" ≤ b.1.string.getD "") items
    have apart : ((items.insertionSort (fun a b => a.1.string.getD "" ≤ b.1.string.getD "")).map Prod.fst).Nodup :=
      (perm.map Prod.fst).nodup_iff.mpr distinct
    rw [List.nodup_iff_pairwise_ne,List.pairwise_map] at apart
    refine List.Pairwise.imp_of_mem ?_ (sorted.and apart)
    intro a b first second ⟨le,different⟩
    have namedA := named a (perm.mem_iff.mp first)
    have namedB := named b (perm.mem_iff.mp second)
    rw [string_text namedA,string_text namedB] at le
    refine lt_of_le_of_ne le ?_
    intro same
    apply different
    rw [string_key namedA,string_key namedB,same]

-- Whatever was written, what is read back of it is written in ascending order.
mutual
theorem reread_written : (value : Value) → Plain floats value →
    ∃ shown, written (collapse value) = some shown ∧ Plain floats shown ∧ Ascending shown
  | .none,_ => ⟨_,rfl,trivial,trivial⟩
  | .bool _,_ => ⟨_,rfl,trivial,trivial⟩
  | .int _,_ => ⟨_,rfl,trivial,trivial⟩
  | .float _ _,plain => ⟨_,rfl,plain,trivial⟩
  | .nonFinite _,plain => ⟨_,rfl,plain,trivial⟩
  | .str _,_ => ⟨_,rfl,trivial,trivial⟩
  | .other _,plain => plain.elim
  | .list items,plain => by
    obtain ⟨shown,result,fine,ascends⟩ := rereadList_written items plain
    exact ⟨.list shown,by simp [collapse,written,result],fine,ascends⟩
  | .dict items,plain => by
    have each := rereadItems_written items plain
    obtain ⟨shown,result,fine⟩ := writtenItems_each (fun shown => Plain floats shown ∧ Ascending shown)
      (fun item member => (each item (mem_fromPairs member)).2)
    have keys := writtenItems_keys result
    have named : ∀ item ∈ shown, item.1.string.isSome = true := by
      intro item member
      have present : item.1 ∈ (fromPairs (collapseItems items)).map Prod.fst := keys ▸ List.mem_map_of_mem member
      obtain ⟨original,inside,same⟩ := List.mem_map.mp present
      rw [← same]
      exact (each original (mem_fromPairs inside)).1
    obtain ⟨sorted,order,ascends⟩ := sortItems_strings named (keys ▸ fromPairs_distinct (collapseItems items))
    have inside : ∀ item ∈ sorted, item ∈ shown := fun item member => (sortItems_perm order).mem_iff.mp member
    have restored := restored_keys (fun item member => named item (inside item member))
    refine ⟨.dict sorted,by simp [collapse,written,result,order,restored],?_,ascends,?_⟩
    · exact (plainItems_iff floats sorted).mpr (fun item member => ⟨named item (inside item member),(fine item (inside item member)).1⟩)
    · exact (ascendingItems_iff sorted).mpr (fun item member => (fine item (inside item member)).2)
theorem rereadList_written : (items : List Value) → PlainList floats items →
    ∃ shown, writtenList (collapseList items) = some shown ∧ PlainList floats shown ∧ AscendingList shown
  | [],_ => ⟨[],rfl,trivial,trivial⟩
  | value :: rest,plain => by
    obtain ⟨first,head,fine,ascends⟩ := reread_written value plain.1
    obtain ⟨others,later,fineLater,ascendsLater⟩ := rereadList_written rest plain.2
    exact ⟨first :: others,by simp [collapseList,writtenList,head,later],⟨fine,fineLater⟩,ascends,ascendsLater⟩
theorem rereadItems_written : (items : List (Key × Value)) → PlainItems floats items → ∀ item ∈ collapseItems items,
    item.1.string.isSome = true ∧ ∃ shown, written item.2 = some shown ∧ Plain floats shown ∧ Ascending shown
  | [],_,item,member => by cases member
  | (key,value) :: rest,plain,item,member => by
    rcases List.mem_cons.mp member with same | later
    · rw [same]
      exact ⟨plain.1,reread_written value plain.2.1⟩
    · exact rereadItems_written rest plain.2.2 item later
end

-- Dumping what was loaded from the dump always works, and gives the same text exactly for
-- an orderly value.
theorem reread_same_iff {value : Value} {text : String} (genuine : Genuine floats value) (dumped : dumps spaced value = some text) :
    ∃ again, (loads floats text).bind (dumps spaced) = some again ∧ (again = text ↔ orderly value = true) := by
  rw [dumps_written] at dumped
  obtain ⟨shown,result,rfl⟩ := Option.map_eq_some_iff.mp dumped
  have plain := written_plain floats value shown genuine result
  obtain ⟨reread,rewritten,plainAgain,ascends⟩ := reread_written floats shown plain
  refine ⟨String.ofList (render reread),?_,?_⟩
  · rw [loads_render floats shown plain,Option.bind_some,dumps_written,rewritten,Option.map_some]
  · rw [← written_ascending value shown result]
    constructor
    · intro same
      have chars : render reread = render shown := by simpa using congrArg String.toList same
      rw [← render_injective floats plainAgain plain chars]
      exact ascends
    · intro already
      obtain ⟨collapsed,itself⟩ := ascending_written floats shown plain already
      rw [collapsed,itself] at rewritten
      cases rewritten
      rfl
end Stable
end PythonValue
