import Asap.Regex
import Mathlib.Computability.Language

-- The language of a pattern, whatever the order in which a matcher tries it: a text is taken at the head
-- of another one exactly when it is a word of the language.
namespace Regex
open scoped Computability
universe u
variable {α : Type u}

def language : Pattern α → Language α
  | .empty => 1
  | .set p => {word | ∃ c, p c = true ∧ word = [c]}
  | .seq first second => language first * language second
  | .alt first second => language first + language second
  | .star body => (language body)∗

def optional (body : Pattern α) : Pattern α := .alt body .empty

-- A pattern with an anchor behind it: the first way that leaves a text which the anchor allows.
def matchEnd (atEnd : List α → Bool) (pattern : Pattern α) (text : List α) : Option (Way α) :=
  (ways pattern text).find? (fun way => atEnd way.2)

section Language
theorem mem_set {p : α → Bool} {word : List α} : word ∈ language (.set p) ↔ ∃ c, p c = true ∧ word = [c] := Iff.rfl

theorem mem_seq {first second : Pattern α} {word : List α} :
    word ∈ language (.seq first second) ↔ ∃ front ∈ language first, ∃ back ∈ language second, front ++ back = word := Language.mem_mul

theorem mem_alt {first second : Pattern α} {word : List α} :
    word ∈ language (.alt first second) ↔ word ∈ language first ∨ word ∈ language second := Language.mem_add _ _ _

theorem mem_optional {body : Pattern α} {word : List α} : word ∈ language (optional body) ↔ word ∈ language body ∨ word = [] := mem_alt

theorem mem_literal [DecidableEq α] {word text : List α} : text ∈ language (literal word) ↔ text = word := by
  induction word generalizing text with
  | nil => exact Language.mem_one text
  | cons c word ih =>
    rw [literal,mem_seq]
    constructor
    · rintro ⟨front,⟨d,same,rfl⟩,back,later,rfl⟩
      rw [of_decide_eq_true same,ih.mp later]
      rfl
    · intro eq
      exact ⟨[c],⟨c,decide_eq_true rfl,rfl⟩,word,ih.mpr rfl,eq.symm⟩

theorem star_cons {body : Pattern α} {front back : List α} (first : front ∈ language body) (later : back ∈ language (.star body)) :
    front ++ back ∈ language (.star body) := by
  obtain ⟨words,rfl,inside⟩ := Language.mem_kstar.mp later
  have all : ∀ word ∈ front :: words, word ∈ language body := by
    intro word member
    rcases List.mem_cons.mp member with rfl | belongs
    · exact first
    · exact inside word belongs
  exact Language.join_mem_kstar all

theorem mem_star_set {p : α → Bool} {word : List α} : word ∈ language (.star (.set p)) ↔ ∀ c ∈ word, p c = true := by
  constructor
  · intro member
    obtain ⟨words,rfl,inside⟩ := Language.mem_kstar.mp member
    intro c belongs
    obtain ⟨one,listed,within⟩ := List.mem_flatten.mp belongs
    obtain ⟨d,fine,rfl⟩ := inside one listed
    rw [List.mem_singleton.mp within]
    exact fine
  · intro all
    induction word with
    | nil => exact Language.nil_mem_kstar _
    | cons c rest ih =>
      have head : [c] ∈ language (.set p) := ⟨c,all c List.mem_cons_self,rfl⟩
      exact star_cons head (ih (fun d member => all d (List.mem_cons_of_mem c member)))

theorem mem_plus_set {p : α → Bool} {word : List α} : word ∈ language (plus (.set p)) ↔ word ≠ [] ∧ ∀ c ∈ word, p c = true := by
  rw [plus,mem_seq]
  constructor
  · rintro ⟨front,⟨c,fine,rfl⟩,back,later,rfl⟩
    refine ⟨List.cons_ne_nil c back,?_⟩
    intro d member
    rcases List.mem_cons.mp member with rfl | belongs
    · exact fine
    · exact mem_star_set.mp later d belongs
  · rintro ⟨nonempty,all⟩
    obtain ⟨c,rest,rfl⟩ := List.exists_cons_of_ne_nil nonempty
    have later : rest ∈ language (.star (.set p)) := mem_star_set.mpr (fun d member => all d (List.mem_cons_of_mem c member))
    exact ⟨[c],⟨c,all c List.mem_cons_self,rfl⟩,rest,later,rfl⟩
end Language

section Ways
variable {body : Pattern α}

theorem mem_ways_star {way : Way α} {text : List α} : way ∈ ways (.star body) text ↔
    (∃ front ∈ ways body text, front.1 ≠ [] ∧ ∃ back ∈ ways (.star body) front.2, back.after front.1 = way) ∨ way = ([],text) := by
  rw [ways_star,List.mem_append,List.mem_singleton,List.mem_flatMap]
  apply or_congr_left
  apply exists_congr
  intro front
  rw [and_congr_right_iff]
  intro _
  split
  · rename_i empty
    exact iff_of_false List.not_mem_nil (fun both => both.1 (List.isEmpty_iff.mp empty))
  · rename_i nonempty
    rw [List.mem_map]
    exact (and_iff_right (fun empty => nonempty (List.isEmpty_iff.mpr empty))).symm

-- Each round takes a word of the body.
theorem star_sound (sound : ∀ (way : Way α) text, way ∈ ways body text → way.1 ∈ language body) (bound : Nat) :
    ∀ (way : Way α) (text : List α), text.length ≤ bound → way ∈ ways (.star body) text → way.1 ∈ language (.star body) := by
  induction bound with
  | zero =>
    intro way text short member
    rw [List.eq_nil_of_length_eq_zero (Nat.le_zero.mp short)] at member
    have split := ways_append (.star body) [] way member
    rw [(List.append_eq_nil_iff.mp split).1]
    exact Language.nil_mem_kstar _
  | succ bound ih =>
    intro way text short member
    rcases mem_ways_star.mp member with ⟨front,found,nonempty,back,later,rfl⟩ | rfl
    · have split := congrArg List.length (ways_append body text front found)
      rw [List.length_append] at split
      have positive : 0 < front.1.length := List.length_pos_iff.mpr nonempty
      exact star_cons (sound front text found) (ih back front.2 (by omega) later)
    · exact Language.nil_mem_kstar _

-- A word of the star is a list of words that are not empty, one for each round.
theorem star_complete (complete : ∀ taken rest : List α, taken ∈ language body → (taken,rest) ∈ ways body (taken ++ rest)) (words : List (List α))
    (inside : ∀ word ∈ words, word ∈ language body ∧ word ≠ []) (rest : List α) :
    (words.flatten,rest) ∈ ways (.star body) (words.flatten ++ rest) := by
  induction words with
  | nil => exact mem_ways_star.mpr (.inr rfl)
  | cons word words ih =>
    have later := ih (fun other member => inside other (List.mem_cons_of_mem word member))
    obtain ⟨first,nonempty⟩ := inside word List.mem_cons_self
    have front := complete word (words.flatten ++ rest) first
    rw [List.flatten_cons,List.append_assoc]
    exact mem_ways_star.mpr (.inl ⟨_,front,nonempty,_,later,rfl⟩)
end Ways

theorem ways_sound (pattern : Pattern α) (way : Way α) (text : List α) (found : way ∈ ways pattern text) : way.1 ∈ language pattern := by
  induction pattern generalizing way text with
  | empty =>
    rw [List.mem_singleton.mp found]
    exact Language.nil_mem_one
  | set p =>
    cases text with
    | nil => cases found
    | cons c rest =>
      rw [ways_set_cons] at found
      split at found
      · rename_i inside
        rw [List.mem_singleton.mp found]
        exact ⟨c,inside,rfl⟩
      · cases found
  | seq first second ihFirst ihSecond =>
    obtain ⟨front,start,inside⟩ := List.mem_flatMap.mp found
    obtain ⟨back,later,rfl⟩ := List.mem_map.mp inside
    exact Language.append_mem_mul (ihFirst front text start) (ihSecond back front.2 later)
  | alt first second ihFirst ihSecond =>
    rcases List.mem_append.mp found with left | right
    · exact mem_alt.mpr (.inl (ihFirst way text left))
    · exact mem_alt.mpr (.inr (ihSecond way text right))
  | star body ih => exact star_sound ih text.length way text (Nat.le_refl _) found

theorem ways_complete (pattern : Pattern α) (taken rest : List α) (word : taken ∈ language pattern) : (taken,rest) ∈ ways pattern (taken ++ rest) := by
  induction pattern generalizing taken rest with
  | empty =>
    rw [(Language.mem_one taken).mp word]
    exact List.mem_singleton.mpr rfl
  | set p =>
    obtain ⟨c,inside,rfl⟩ := word
    rw [List.singleton_append,ways_set_inside inside]
    exact List.mem_singleton.mpr rfl
  | seq first second ihFirst ihSecond =>
    obtain ⟨front,start,back,later,rfl⟩ := mem_seq.mp word
    rw [List.append_assoc]
    exact List.mem_flatMap.mpr ⟨_,ihFirst front (back ++ rest) start,List.mem_map.mpr ⟨_,ihSecond back rest later,rfl⟩⟩
  | alt first second ihFirst ihSecond =>
    rcases mem_alt.mp word with left | right
    · exact List.mem_append_left _ (ihFirst taken rest left)
    · exact List.mem_append_right _ (ihSecond taken rest right)
  | star body ih =>
    obtain ⟨words,rfl,inside⟩ := Language.mem_kstar_iff_exists_nonempty.mp word
    exact star_complete ih words inside rest

-- The ways of a pattern at a text are the splits of it whose front is a word.
theorem mem_ways {pattern : Pattern α} {way : Way α} {text : List α} :
    way ∈ ways pattern text ↔ way.1 ++ way.2 = text ∧ way.1 ∈ language pattern := by
  constructor
  · exact fun found => ⟨ways_append pattern text way found,ways_sound pattern way text found⟩
  · rintro ⟨rfl,word⟩
    exact ways_complete pattern way.1 way.2 word

theorem matchEnd_isSome {atEnd : List α → Bool} {pattern : Pattern α} {text : List α} :
    (matchEnd atEnd pattern text).isSome = true ↔ ∃ taken rest, taken ++ rest = text ∧ taken ∈ language pattern ∧ atEnd rest = true := by
  unfold matchEnd
  rw [List.find?_isSome]
  constructor
  · rintro ⟨way,found,ended⟩
    obtain ⟨split,word⟩ := mem_ways.mp found
    exact ⟨way.1,way.2,split,word,ended⟩
  · rintro ⟨taken,rest,split,word,ended⟩
    exact ⟨(taken,rest),mem_ways.mpr ⟨split,word⟩,ended⟩
end Regex
