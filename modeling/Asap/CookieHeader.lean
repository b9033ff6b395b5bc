import Asap.PythonValue
import Mathlib.Data.List.DropRight

-- A `Cookie` header as its receiver reads it: the pairs between the semicolons, without the blanks around them.
namespace CookieHeader
open PythonValue

def trim (text : List Char) : List Char := ((text.dropWhile isSpace).reverse.dropWhile isSpace).reverse

def readPair (chunk : List Char) : List Char × List Char :=
  if '=' ∈ chunk then (trim (chunk.takeWhile (fun c => c ≠ '=')),trim ((chunk.dropWhile (fun c => c ≠ '=')).drop 1)) else ([],trim chunk)

def readPairs (text : List Char) : List (List Char × List Char) := ((text.splitOn ';').map readPair).filter (fun pair => pair ≠ ([],[]))

def writePair (pair : List Char × List Char) : List Char := pair.1 ++ '=' :: pair.2

def writePairs (pairs : List (List Char × List Char)) : List Char := [';',' '].intercalate (pairs.map writePair)

-- What a pair needs to come through.
structure Clean (pair : List Char × List Char) : Prop where
  name : '=' ∉ pair.1 ∧ ';' ∉ pair.1 ∧ trim pair.1 = pair.1
  value : ';' ∉ pair.2 ∧ trim pair.2 = pair.2
  something : pair ≠ ([],[])

theorem dropWhile_opens {p : Char → Bool} {text rest : List Char} {c : Char} (left : text.dropWhile p = c :: rest) : p c = false := by
  induction text with
  | nil => cases left
  | cons d text ih =>
    cases blank : p d with
    | true =>
      rw [List.dropWhile_cons_of_pos blank] at left
      exact ih left
    | false =>
      rw [List.dropWhile_cons_of_neg (by simp [blank])] at left
      cases left
      exact blank

theorem dropWhile_twice (p : Char → Bool) (text : List Char) : (text.dropWhile p).dropWhile p = text.dropWhile p := by
  cases left : text.dropWhile p with
  | nil => rfl
  | cons c rest => exact List.dropWhile_cons_of_neg (by simp [dropWhile_opens left])

theorem trim_subset {text : List Char} {c : Char} (inside : c ∈ trim text) : c ∈ text := by
  have kept := List.mem_reverse.mp ((List.dropWhile_sublist isSpace).subset (List.mem_reverse.mp inside))
  exact (List.dropWhile_sublist isSpace).subset kept

-- The end of what is left is not blank, and neither is its start, which is that of the text without the blanks before it.
theorem trim_twice (text : List Char) : trim (trim text) = trim text := by
  have front : (trim text).dropWhile isSpace = trim text := by
    cases left : trim text with
    | nil => rfl
    | cons c rest =>
      obtain ⟨blanks,split⟩ := List.dropWhile_suffix (l := (text.dropWhile isSpace).reverse) isSpace
      have whole : text.dropWhile isSpace = c :: (rest ++ blanks.reverse) := by
        rw [← List.reverse_reverse (text.dropWhile isSpace),← split,List.reverse_append]
        exact congrArg (· ++ blanks.reverse) left
      exact List.dropWhile_cons_of_neg (by simp [dropWhile_opens whole])
  rw [trim,front,trim,List.reverse_reverse,dropWhile_twice]

theorem trim_blank {c : Char} (blank : isSpace c = true) (text : List Char) : trim (c :: text) = trim text := by
  rw [trim,List.dropWhile_cons_of_pos blank,trim]

theorem readPair_clean {chunk : List Char} (whole : ';' ∉ chunk) (something : readPair chunk ≠ ([],[])) : Clean (readPair chunk) := by
  unfold readPair at something ⊢
  split
  · refine ⟨⟨fun inside => ?_,fun inside => ?_,trim_twice _⟩,⟨fun inside => ?_,trim_twice _⟩,?_⟩
    · have kept := List.mem_takeWhile_imp (trim_subset inside)
      exact absurd kept (by decide)
    · exact whole ((List.takeWhile_sublist _).subset (trim_subset inside))
    · exact whole ((List.dropWhile_sublist _).subset ((List.drop_sublist 1 _).subset (trim_subset inside)))
    · rwa [if_pos ‹_›] at something
  · refine ⟨⟨List.not_mem_nil,List.not_mem_nil,rfl⟩,⟨fun inside => whole (trim_subset inside),trim_twice _⟩,?_⟩
    rwa [if_neg ‹_›] at something

theorem readPair_written {pair : List Char × List Char} (clean : Clean pair) (blanks : List Char) (blank : ∀ c ∈ blanks, isSpace c = true)
    (plain : '=' ∉ blanks) : readPair (blanks ++ writePair pair) = pair := by
  obtain ⟨name,value⟩ := pair
  have free : ∀ c ∈ blanks ++ name, decide (c ≠ '=') = true := by
    intro c inside
    refine decide_eq_true (fun same => ?_)
    subst same
    exact (List.mem_append.mp inside).elim plain clean.name.1
  have trimmed : trim (blanks ++ name) = name := by
    rw [trim,List.dropWhile_append_of_pos blank]
    exact clean.name.2.2
  have text : blanks ++ writePair (name,value) = (blanks ++ name) ++ '=' :: value := by
    rw [writePair,List.append_assoc]
  rw [readPair,text,if_pos (List.mem_append_right _ List.mem_cons_self),List.takeWhile_append_of_pos free,List.dropWhile_append_of_pos free,
    List.takeWhile_cons_of_neg (by decide),List.dropWhile_cons_of_neg (by decide),List.append_nil,trimmed]
  exact Prod.ext rfl clean.value.2

theorem writePair_whole {pair : List Char × List Char} (clean : Clean pair) : ';' ∉ writePair pair := by
  intro inside
  rcases List.mem_append.mp inside with inside | inside
  · exact clean.name.2.1 inside
  · rcases List.mem_cons.mp inside with impossible | inside
    · exact absurd impossible (by decide)
    · exact clean.value.1 inside

-- The induction is on the pairs after the first: each of them has the blank of the separator before it.
theorem readPair_chunks (first : List Char × List Char) (rest : List (List Char × List Char)) (blanks : List Char)
    (blank : ∀ c ∈ blanks, isSpace c = true) (plain : '=' ∉ blanks ∧ ';' ∉ blanks) (clean : ∀ pair ∈ first :: rest, Clean pair) :
    ((blanks ++ writePairs (first :: rest)).splitOn ';').map readPair = first :: rest := by
  induction rest generalizing first blanks with
  | nil =>
    have begins := clean first List.mem_cons_self
    have whole : ';' ∉ blanks ++ writePair first := fun inside => (List.mem_append.mp inside).elim plain.2 (writePair_whole begins)
    rw [writePairs,List.map_singleton,List.intercalate_singleton,List.splitOn_eq_singleton whole,List.map_singleton,
      readPair_written begins blanks blank plain.1]
  | cons second rest ih =>
    have begins := clean first List.mem_cons_self
    have whole : ';' ∉ blanks ++ writePair first := fun inside => (List.mem_append.mp inside).elim plain.2 (writePair_whole begins)
    have text : blanks ++ writePairs (first :: second :: rest) = (blanks ++ writePair first) ++ ';' :: ([' '] ++ writePairs (second :: rest)) := by
      simp only [writePairs,List.map_cons,List.intercalate_cons_cons,List.append_assoc,List.cons_append,List.nil_append]
    have single : ∀ c ∈ [' '], isSpace c = true := by
      intro c inside
      rw [List.mem_singleton.mp inside]
      rfl
    rw [text,List.splitOn_append_cons_self_of_not_mem whole,List.map_cons,readPair_written begins blanks blank plain.1,
      ih second [' '] single ⟨by decide,by decide⟩ (fun pair inside => clean pair (List.mem_cons_of_mem _ inside))]

theorem chunk_whole {mark : Char} {chunk text : List Char} (inside : chunk ∈ text.splitOn mark) : mark ∉ chunk := by
  induction text generalizing chunk with
  | nil =>
    rw [List.splitOn_nil,List.mem_singleton] at inside
    subst inside
    exact List.not_mem_nil
  | cons c text ih =>
    rw [List.splitOn_cons_eq_if_modifyHead] at inside
    by_cases marks : c = mark
    · rw [if_pos (beq_iff_eq.mpr marks)] at inside
      rcases List.mem_cons.mp inside with same | inside
      · subst same
        exact List.not_mem_nil
      · exact ih inside
    · rw [if_neg (fun equal => marks (beq_iff_eq.mp equal))] at inside
      cases chunks : text.splitOn mark with
      | nil => exact absurd chunks (List.splitOn_ne_nil mark text)
      | cons first rest =>
        rw [chunks,List.modifyHead_cons] at inside
        rw [chunks] at ih
        rcases List.mem_cons.mp inside with same | inside
        · subst same
          intro within
          rcases List.mem_cons.mp within with equal | within
          · exact marks equal.symm
          · exact ih List.mem_cons_self within
        · exact ih (List.mem_cons_of_mem _ inside)

theorem readPairs_clean {text : List Char} {pair : List Char × List Char} (inside : pair ∈ readPairs text) : Clean pair := by
  obtain ⟨read,something⟩ := List.mem_filter.mp inside
  obtain ⟨chunk,among,same⟩ := List.mem_map.mp read
  subst same
  exact readPair_clean (chunk_whole among) (of_decide_eq_true something)

-- What is read is clean, and what is clean is read as it was written.
theorem readPairs_writePairs (pairs : List (List Char × List Char)) : readPairs (writePairs pairs) = pairs ↔ ∀ pair ∈ pairs, Clean pair := by
  constructor
  · intro same pair inside
    rw [← same] at inside
    exact readPairs_clean inside
  · intro clean
    cases pairs with
    | nil => rfl
    | cons first rest =>
      have chunks := readPair_chunks first rest [] (fun c inside => (by cases inside)) ⟨List.not_mem_nil,List.not_mem_nil⟩ clean
      rw [List.nil_append] at chunks
      rw [readPairs,chunks]
      exact List.filter_eq_self.mpr (fun pair inside => decide_eq_true (clean pair inside).something)

def parseCookies (header : String) : List (String × String) :=
  (readPairs header.toList).map (fun pair => (String.ofList pair.1,String.ofList pair.2))

def letters (pair : String × String) : List Char × List Char := (pair.1.toList,pair.2.toList)

theorem parseCookies_iff (header : String) (pairs : List (String × String)) : parseCookies header = pairs ↔ readPairs header.toList = pairs.map letters := by
  constructor
  · intro same
    rw [← same,parseCookies,List.map_map]
    refine (List.map_id _).symm.trans (List.map_congr_left (fun pair _ => ?_))
    simp [letters]
  · intro same
    rw [parseCookies,same,List.map_map]
    refine (List.map_congr_left (fun pair _ => ?_)).trans (List.map_id pairs)
    simp [letters]

theorem parseCookies_join (pairs : List (String × String)) :
    parseCookies ("; ".intercalate (pairs.map (fun pair => pair.1 ++ "=" ++ pair.2))) = pairs ↔ ∀ pair ∈ pairs, Clean (letters pair) := by
  have written : ("; ".intercalate (pairs.map (fun pair => pair.1 ++ "=" ++ pair.2))).toList = writePairs (pairs.map letters) := by
    rw [String.toList_intercalate,writePairs,List.map_map,List.map_map]
    have each : ∀ pair : String × String, (String.toList ∘ fun pair : String × String => pair.1 ++ "=" ++ pair.2) pair = (writePair ∘ letters) pair := by
      intro pair
      simp [writePair,letters,String.toList_append]
    rw [funext each]
    rfl
  rw [parseCookies_iff,written,readPairs_writePairs,List.forall_mem_map]

theorem parseCookies_clean {header : String} {pair : String × String} (inside : pair ∈ parseCookies header) : Clean (letters pair) := by
  obtain ⟨read,listed,same⟩ := List.mem_map.mp inside
  have back : letters pair = read := by
    rw [← same]
    exact Prod.ext String.toList_ofList String.toList_ofList
  rw [back]
  exact readPairs_clean listed

end CookieHeader
