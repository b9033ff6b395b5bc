import Asap.OrderedDict
import Mathlib.Data.List.Infix

-- The substitution of literal texts in one pass: `re.sub` of an alternation of keys by their
-- values, and the way back by the inverted table.
namespace LiteralSubstitution
open OrderedDict
variable {α : Type u}

-- A word between two delimiters that holds neither of them, nor the other delimiter.
def Wrapped (delimiter other : α) (text : List α) : Prop :=
  text = delimiter :: (text.tail.dropLast ++ [delimiter]) ∧ delimiter ∉ text.tail.dropLast ∧ other ∉ text.tail.dropLast

theorem closed_unique {delimiter : α} {left right leftRest rightRest : List α} (freeLeft : delimiter ∉ left) (freeRight : delimiter ∉ right)
    (same : left ++ delimiter :: leftRest = right ++ delimiter :: rightRest) : left = right := by
  induction left generalizing right with
  | nil =>
    cases right with
    | nil => rfl
    | cons c right =>
      cases (List.cons.inj same).1
      exact absurd (List.mem_cons_self) freeRight
  | cons c left ih =>
    cases right with
    | nil =>
      cases (List.cons.inj same).1
      exact absurd (List.mem_cons_self) freeLeft
    | cons d right =>
      obtain ⟨rfl,rests⟩ := List.cons.inj same
      rw [ih (fun inside => freeLeft (List.mem_cons_of_mem _ inside)) (fun inside => freeRight (List.mem_cons_of_mem _ inside)) rests]

theorem Wrapped.shape {delimiter other : α} {text : List α} (wrapped : Wrapped delimiter other text) :
    ∃ word, text = delimiter :: (word ++ [delimiter]) ∧ delimiter ∉ word ∧ other ∉ word := ⟨text.tail.dropLast,wrapped⟩

-- At most one wrapped word starts at a place.
theorem Wrapped.unique {delimiter other : α} {left right text : List α} (leftWrapped : Wrapped delimiter other left)
    (rightWrapped : Wrapped delimiter other right) (leftStarts : left <+: text) (rightStarts : right <+: text) : left = right := by
  obtain ⟨word,rfl,free,-⟩ := leftWrapped.shape
  obtain ⟨word',rfl,free',-⟩ := rightWrapped.shape
  obtain ⟨leftRest,rfl⟩ := leftStarts
  obtain ⟨rightRest,same⟩ := rightStarts
  simp only [List.cons_append,List.append_assoc,List.nil_append,List.cons.injEq,true_and] at same
  rw [closed_unique free' free same]

theorem Wrapped.free {delimiter other : α} {text : List α} (wrapped : Wrapped delimiter other text) (apart : other ≠ delimiter) :
    other ∉ text := by
  obtain ⟨word,rfl,-,free⟩ := wrapped.shape
  simp [apart,free]

theorem Wrapped.starts {delimiter other c : α} {text rest : List α} (wrapped : Wrapped delimiter other text) (starts : text <+: c :: rest) :
    c = delimiter := by
  obtain ⟨word,rfl,-⟩ := wrapped.shape
  exact (List.cons_prefix_cons.mp starts).1.symm

theorem reclosed (delimiter : α) (word closing : List α) :
    (delimiter :: (word ++ [delimiter])).dropLast ++ closing = delimiter :: (word ++ closing) := by
  rw [← List.cons_append,List.dropLast_concat,List.cons_append]

theorem infix_after {c : α} {pattern before after : List α} (free : c ∉ before) : c :: pattern <:+: before ++ after ↔ c :: pattern <:+: after := by
  induction before with
  | nil => rfl
  | cons b before ih =>
    simp only [List.mem_cons,not_or] at free
    rw [List.cons_append,List.infix_cons_iff,List.cons_prefix_cons,ih free.2]
    simp [free.1]

variable [DecidableEq α]

instance (delimiter other : α) (text : List α) : Decidable (Wrapped delimiter other text) :=
  inferInstanceAs (Decidable (text = delimiter :: (text.tail.dropLast ++ [delimiter]) ∧ delimiter ∉ text.tail.dropLast ∧ other ∉ text.tail.dropLast))

-- The first alternative that matches here, with what replaces it.
def firstMatch (table : Dict (List α) (List α)) (text : List α) : Option (List α × List α) :=
  table.entries.find? (fun row => row.1.isPrefixOf text)

-- The count is what is left of the last match: matches do not overlap.
def substituteFrom (table : Dict (List α) (List α)) : Nat → List α → List α
  | _,[] => []
  | skip + 1,_ :: rest => substituteFrom table skip rest
  | 0,c :: rest =>
    match firstMatch table (c :: rest) with
    | some (key,value) => value ++ substituteFrom table (key.length - 1) rest
    | none => c :: substituteFrom table 0 rest

def substitute (table : Dict (List α) (List α)) (text : List α) : List α := substituteFrom table 0 text

theorem substituteFrom_drop (table : Dict (List α) (List α)) (skip : Nat) (text : List α) :
    substituteFrom table skip text = substitute table (text.drop skip) := by
  induction text generalizing skip with
  | nil => simp [substitute,substituteFrom]
  | cons c rest ih =>
    cases skip with
    | zero => rfl
    | succ skip => exact ih skip

theorem substitute_plain {table : Dict (List α) (List α)} {c : α} {rest : List α} (unmatched : firstMatch table (c :: rest) = none) :
    substitute table (c :: rest) = c :: substitute table rest := by
  simp only [substitute,substituteFrom,unmatched]

theorem substitute_match {table : Dict (List α) (List α)} {key value : List α} (filled : key ≠ []) {rest : List α}
    (matched : firstMatch table (key ++ rest) = some (key,value)) :
    substitute table (key ++ rest) = value ++ substitute table rest := by
  obtain ⟨c,tail,rfl⟩ := List.exists_cons_of_ne_nil filled
  rw [List.cons_append] at matched ⊢
  simp only [substitute,substituteFrom,matched]
  rw [substituteFrom_drop]
  simp [substitute]

section Bracketed
variable {delimiter other : α} {table : Dict (List α) (List α)} (bracketed : ∀ row ∈ table.entries, Wrapped delimiter other row.1)
include bracketed

theorem firstMatch_key {key value : List α} (entry : (key,value) ∈ table.entries) (rest : List α) :
    firstMatch table (key ++ rest) = some (key,value) := by
  cases found : firstMatch table (key ++ rest) with
  | none =>
    have never := List.find?_eq_none.mp found (key,value) entry
    simp at never
  | some row =>
    have starts : row.1 <+: key ++ rest := by simpa using List.find?_some found
    have inside := List.mem_of_find?_eq_some found
    have same : row.1 = key := (bracketed row inside).unique (bracketed _ entry) starts (List.prefix_append key rest)
    have value' := (Dict.mem_iff table).mp (show (key,row.2) ∈ table.entries by rw [← same]; exact inside)
    rw [(Dict.mem_iff table).mp entry] at value'
    rw [Option.some.injEq,Prod.ext_iff]
    exact ⟨same,(Option.some.inj value').symm⟩

theorem substitute_key {key value : List α} (entry : (key,value) ∈ table.entries) (rest : List α) :
    substitute table (key ++ rest) = value ++ substitute table rest := by
  have filled : key ≠ [] := by
    obtain ⟨word,shape,-⟩ := (bracketed _ entry).shape
    rw [show key = delimiter :: (word ++ [delimiter]) from shape]
    exact List.cons_ne_nil _ _
  exact substitute_match filled (firstMatch_key bracketed entry rest)

theorem firstMatch_other {c : α} (different : c ≠ delimiter) (rest : List α) : firstMatch table (c :: rest) = none := by
  refine List.find?_eq_none.mpr (fun row inside starts => different ?_)
  exact (bracketed row inside).starts (List.isPrefixOf_iff_prefix.mp starts)

theorem substitute_free {word : List α} (free : delimiter ∉ word) (rest : List α) : substitute table (word ++ rest) = word ++ substitute table rest := by
  induction word with
  | nil => rfl
  | cons c word ih =>
    obtain ⟨different,free⟩ := not_or.mp (mt List.mem_cons.mpr free)
    rw [List.cons_append,substitute_plain (firstMatch_other bracketed (Ne.symm different) _),ih free,List.cons_append]

-- The way `substitute` reads a text.
theorem reading_induction {motive : List α → Prop} (nil : motive [])
    (key : ∀ key value rest, (key,value) ∈ table.entries → motive rest → motive (key ++ rest))
    (plain : ∀ c rest, firstMatch table (c :: rest) = none → motive rest → motive (c :: rest)) (text : List α) : motive text := by
  induction length : text.length using Nat.strong_induction_on generalizing text with
  | _ n ih =>
    subst length
    cases text with
    | nil => exact nil
    | cons c rest =>
      cases found : firstMatch table (c :: rest) with
      | none => exact plain c rest found (ih rest.length (by simp) rest rfl)
      | some row =>
        have starts : row.1 <+: c :: rest := by simpa using List.find?_some found
        have inside := List.mem_of_find?_eq_some found
        obtain ⟨after,same⟩ := starts
        obtain ⟨word,shape,-⟩ := (bracketed row inside).shape
        have shorter : after.length < (c :: rest).length := by
          rw [← same,shape]
          simp
          omega
        rw [← same]
        exact key row.1 row.2 after inside (ih after.length shorter after rfl)
end Bracketed

-- Tokens in quotes stand for atoms in marks; the way back looks for the atoms.
structure Codebook (α : Type u) [DecidableEq α] where
  quote : α
  mark : α
  table : Dict (List α) (List α)
  apart : quote ≠ mark
  tokens : ∀ row ∈ table.entries, Wrapped quote mark row.1
  atoms : ∀ row ∈ table.entries, Wrapped mark quote row.2
  injective : table.values.Nodup

namespace Codebook
variable (book : Codebook α)

def encode (text : List α) : List α := substitute book.table text
def decode (text : List α) : List α := substitute book.table.invert text

-- An atom that is in the text already, or comes to be when the token after it is replaced.
def confusable : List (List α) :=
  book.table.values.flatMap (fun atom => ([book.mark] :: book.table.keys).map (fun closing => atom.dropLast ++ closing))

def Confuses (text : List α) : Prop := ∃ pattern ∈ book.confusable, pattern <:+: text

theorem inverted {token atom : List α} : (atom,token) ∈ book.table.invert.entries ↔ (token,atom) ∈ book.table.entries := by
  rw [Dict.entries_invert book.table book.injective,List.mem_map]
  constructor
  · rintro ⟨row,inside,same⟩
    cases same
    exact inside
  · intro inside
    exact ⟨(token,atom),inside,rfl⟩

theorem inverted_atoms : ∀ row ∈ book.table.invert.entries, Wrapped book.mark book.quote row.1 :=
  fun row inside => book.atoms (row.2,row.1) (book.inverted.mp inside)

theorem encode_token {token atom : List α} (entry : (token,atom) ∈ book.table.entries) (rest : List α) :
    book.encode (token ++ rest) = atom ++ book.encode rest := substitute_key book.tokens entry rest

theorem decode_atom {token atom : List α} (entry : (token,atom) ∈ book.table.entries) (rest : List α) :
    book.decode (atom ++ rest) = token ++ book.decode rest := substitute_key book.inverted_atoms (book.inverted.mpr entry) rest

theorem atom_shape {token atom : List α} (entry : (token,atom) ∈ book.table.entries) :
    ∃ name, atom = book.mark :: (name ++ [book.mark]) ∧ book.mark ∉ name ∧ book.quote ∉ name := (book.atoms _ entry).shape

theorem encode_plain {c : α} {rest : List α} (unmatched : firstMatch book.table (c :: rest) = none) :
    book.encode (c :: rest) = c :: book.encode rest := substitute_plain unmatched

theorem encode_other {c : α} (different : c ≠ book.quote) (rest : List α) : book.encode (c :: rest) = c :: book.encode rest :=
  book.encode_plain (firstMatch_other book.tokens different rest)

-- The encoded text has a mark where the text has one, or a token.
theorem encode_mark (rest : List α) :
    [book.mark] <+: book.encode rest ↔ ∃ closing ∈ [book.mark] :: book.table.keys, closing <+: rest := by
  constructor
  · intro starts
    induction rest using reading_induction book.tokens with
    | nil => simp [encode,substitute,substituteFrom] at starts
    | key token atom rest entry _ =>
      have listed : token ∈ book.table.keys := List.mem_map.mpr ⟨(token,atom),entry,rfl⟩
      exact ⟨token,List.mem_cons_of_mem _ listed,List.prefix_append token rest⟩
    | plain c rest unmatched _ =>
      rw [book.encode_plain unmatched,List.cons_prefix_cons] at starts
      exact ⟨[book.mark],List.mem_cons_self,by rw [starts.1]; exact List.prefix_append [c] rest⟩
  · rintro ⟨closing,listed,rest,rfl⟩
    rcases List.mem_cons.mp listed with rfl | listed
    · rw [List.singleton_append,book.encode_other (Ne.symm book.apart)]
      exact List.prefix_append [book.mark] _
    · obtain ⟨⟨token,atom⟩,entry,rfl⟩ := List.mem_map.mp listed
      obtain ⟨name,rfl,-⟩ := book.atom_shape entry
      rw [book.encode_token entry,List.cons_append]
      exact List.prefix_append [book.mark] _

-- A letter that is no delimiter is copied.
theorem encode_letter {c : α} (noMark : c ≠ book.mark) (noQuote : c ≠ book.quote) (word text : List α) :
    c :: word <+: book.encode text ↔ ∃ rest, text = c :: rest ∧ word <+: book.encode rest := by
  constructor
  · intro starts
    induction text using reading_induction book.tokens with
    | nil => simp [encode,substitute,substituteFrom] at starts
    | key token atom rest entry _ =>
      obtain ⟨name,rfl,-⟩ := book.atom_shape entry
      rw [book.encode_token entry,List.cons_append,List.cons_prefix_cons] at starts
      exact absurd starts.1 noMark
    | plain first rest unmatched _ =>
      rw [book.encode_plain unmatched,List.cons_prefix_cons] at starts
      obtain ⟨rfl,starts⟩ := starts
      exact ⟨rest,rfl,starts⟩
  · rintro ⟨rest,rfl,starts⟩
    rw [book.encode_other noQuote,List.cons_prefix_cons]
    exact ⟨rfl,starts⟩

theorem encode_name {name : List α} (noMark : book.mark ∉ name) (noQuote : book.quote ∉ name) (text : List α) :
    name ++ [book.mark] <+: book.encode text ↔ ∃ closing ∈ [book.mark] :: book.table.keys, name ++ closing <+: text := by
  induction name generalizing text with
  | nil => exact book.encode_mark text
  | cons c name ih =>
    simp only [List.mem_cons,not_or] at noMark noQuote
    rw [List.cons_append,book.encode_letter (Ne.symm noMark.1) (Ne.symm noQuote.1)]
    constructor
    · rintro ⟨rest,rfl,starts⟩
      obtain ⟨closing,listed,starts⟩ := (ih noMark.2 noQuote.2 rest).mp starts
      exact ⟨closing,listed,List.cons_prefix_cons.mpr ⟨rfl,starts⟩⟩
    · rintro ⟨closing,listed,after,rfl⟩
      refine ⟨name ++ closing ++ after,by simp,?_⟩
      exact (ih noMark.2 noQuote.2 _).mpr ⟨closing,listed,List.prefix_append _ after⟩

theorem mem_confusable (pattern : List α) : pattern ∈ book.confusable ↔
    ∃ token name closing, (token,book.mark :: (name ++ [book.mark])) ∈ book.table.entries ∧ closing ∈ [book.mark] :: book.table.keys ∧
      pattern = book.mark :: (name ++ closing) := by
  rw [confusable,List.mem_flatMap]
  constructor
  · rintro ⟨atom,listed,member⟩
    obtain ⟨⟨token,atom⟩,entry,rfl⟩ := List.mem_map.mp listed
    obtain ⟨closing,closes,rfl⟩ := List.mem_map.mp member
    obtain ⟨name,rfl,-⟩ := book.atom_shape entry
    exact ⟨token,name,closing,entry,closes,reclosed _ name closing⟩
  · rintro ⟨token,name,closing,entry,closes,rfl⟩
    refine ⟨_,List.mem_map.mpr ⟨_,entry,rfl⟩,List.mem_map.mpr ⟨closing,closes,?_⟩⟩
    exact reclosed _ name closing

-- Where the encoder copies a character, the decoder sees an atom exactly if the text confuses it there.
theorem decode_misreads {c : α} {rest : List α} (unmatched : firstMatch book.table (c :: rest) = none) :
    (∃ token atom, (token,atom) ∈ book.table.entries ∧ atom <+: book.encode (c :: rest)) ↔
      ∃ pattern ∈ book.confusable, pattern <+: c :: rest := by
  rw [book.encode_plain unmatched]
  constructor
  · rintro ⟨token,atom,entry,starts⟩
    obtain ⟨name,rfl,noMark,noQuote⟩ := book.atom_shape entry
    obtain ⟨rfl,named⟩ := List.cons_prefix_cons.mp starts
    obtain ⟨closing,closes,starts⟩ := (book.encode_name noMark noQuote rest).mp named
    exact ⟨_,(book.mem_confusable _).mpr ⟨token,name,closing,entry,closes,rfl⟩,List.cons_prefix_cons.mpr ⟨rfl,starts⟩⟩
  · rintro ⟨pattern,member,starts⟩
    obtain ⟨token,name,closing,entry,closes,rfl⟩ := (book.mem_confusable pattern).mp member
    obtain ⟨rfl,named⟩ := List.cons_prefix_cons.mp starts
    obtain ⟨-,noMark,noQuote⟩ := book.atoms _ entry
    rw [List.tail_cons,List.dropLast_concat] at noMark noQuote
    refine ⟨token,_,entry,List.cons_prefix_cons.mpr ⟨rfl,?_⟩⟩
    exact (book.encode_name noMark noQuote rest).mpr ⟨closing,closes,named⟩

theorem confuses_token {token atom : List α} (entry : (token,atom) ∈ book.table.entries) (rest : List α) :
    book.Confuses (token ++ rest) ↔ book.Confuses rest := by
  have free : book.mark ∉ token := (book.tokens _ entry).free (Ne.symm book.apart)
  unfold Confuses
  refine exists_congr (fun pattern => and_congr_right (fun member => ?_))
  obtain ⟨_,name,closing,-,-,rfl⟩ := (book.mem_confusable pattern).mp member
  exact infix_after free

theorem confuses_cons (c : α) (rest : List α) :
    book.Confuses (c :: rest) ↔ (∃ pattern ∈ book.confusable, pattern <+: c :: rest) ∨ book.Confuses rest := by
  unfold Confuses
  rw [← exists_or]
  refine exists_congr (fun pattern => ?_)
  rw [List.infix_cons_iff,and_or_left]

theorem decode_encode_iff (text : List α) : book.decode (book.encode text) = text ↔ ¬ book.Confuses text := by
  induction text using reading_induction book.tokens with
  | nil =>
    have none : ¬ book.Confuses [] := by
      rintro ⟨pattern,member,starts⟩
      obtain ⟨_,name,closing,-,-,rfl⟩ := (book.mem_confusable pattern).mp member
      simp at starts
    simp [none,encode,decode,substitute,substituteFrom]
  | key token atom rest entry ih =>
    rw [book.encode_token entry,book.decode_atom entry,List.append_cancel_left_eq,book.confuses_token entry]
    exact ih
  | plain c rest unmatched ih =>
    rw [book.confuses_cons,← book.decode_misreads unmatched]
    by_cases misread : ∃ token atom, (token,atom) ∈ book.table.entries ∧ atom <+: book.encode (c :: rest)
    · obtain ⟨token,atom,entry,after,same⟩ := misread
      obtain ⟨word,rfl,-⟩ := (book.tokens _ entry).shape
      obtain ⟨name,rfl,-⟩ := book.atom_shape entry
      refine ⟨fun kept => ?_,fun clear => absurd (Or.inl ⟨_,_,entry,after,same⟩) clear⟩
      -- The token that the decoder puts there starts with a quote, the text with a mark.
      have opened : c = book.mark := by
        rw [book.encode_plain unmatched] at same
        exact (List.cons.inj same).1.symm
      rw [← same,book.decode_atom entry] at kept
      exact absurd ((List.cons.inj kept).1.trans opened) book.apart
    · have copied : book.decode (book.encode (c :: rest)) = c :: book.decode (book.encode rest) := by
        rw [book.encode_plain unmatched] at misread ⊢
        refine substitute_plain (List.find?_eq_none.mpr (fun row inside starts => misread ?_))
        exact ⟨row.2,row.1,book.inverted.mp inside,List.isPrefixOf_iff_prefix.mp starts⟩
      rw [copied,List.cons_inj_right,ih]
      simp [misread]

end Codebook

end LiteralSubstitution
