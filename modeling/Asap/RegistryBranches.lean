import Mathlib.Data.List.DropRight
import Mathlib.Data.List.Forall2
import Asap.Manifests
import Asap.Regex

-- The branch a registration is pushed to, by the URN of the agent.
namespace Asap.RegistryBranches
open PythonValue Manifests Regex

-- `[^a-zA-Z0-9._-]`
def isUnsafe (c : Char) : Bool := !(c.isAlphanum || c == '.' || c == '_' || c == '-')

def isHyphen (c : Char) : Bool := c == '-'

def sanitizeUrnForBranch (urn : String) : String :=
  let slug := ((sub (matchHead (plus (.set isUnsafe))) (fun _ => ['-']) (strip urn).toList).dropWhile isHyphen).rdropWhile isHyphen
  if slug.isEmpty then "unknown" else String.ofList (slug.take 200)

def branchName (urn : String) : String := "auto-reg/" ++ sanitizeUrnForBranch urn

-- The part of a URN that its branch shows: without a line break at the end and the colons and hyphens before it, and cut.
def isSeparator (c : Char) : Bool := c == ':' || c == '-'

def shown (urn : String) : List Char :=
  ((if urn.toList.getLast? = some '\n' then urn.toList.dropLast else urn.toList).rdropWhile isSeparator).take 200

-- A colon and a hyphen look alike in a branch.
def Alike (c d : Char) : Prop := c = d ∨ (c = ':' ∧ d = '-') ∨ (c = '-' ∧ d = ':')

def dashed (c : Char) : Char := if c = ':' then '-' else c

section Accepted
theorem urnChar_safe {c : Char} (urn : isUrnChar c = true) : isUnsafe c = false ∧ isSpace c = false ∧ c ≠ ':' := by
  simp only [isUrnChar,Bool.or_eq_true,Bool.and_eq_true,decide_eq_true_eq] at urn
  have bounds : (97 ≤ c.toNat ∧ c.toNat ≤ 122) ∨ (48 ≤ c.toNat ∧ c.toNat ≤ 57) ∨ c.toNat = 45 := by
    rcases urn with (letter | digit) | rfl
    · exact .inl letter
    · exact .inr (.inl digit)
    · exact .inr (.inr rfl)
  refine ⟨?_,?_,?_⟩
  · rcases urn with (letter | digit) | rfl
    · have lower : c.isLower = true := by
        simp only [Char.isLower,Bool.and_eq_true,decide_eq_true_eq]
        exact letter
      simp [isUnsafe,Char.isAlphanum,Char.isAlpha,lower]
    · have decimal : c.isDigit = true := by
        simp only [Char.isDigit,Bool.and_eq_true,decide_eq_true_eq]
        exact digit
      simp [isUnsafe,Char.isAlphanum,decimal]
    · rfl
  · simp only [isSpace,Bool.or_eq_false_iff,decide_eq_false_iff_not]
    omega
  · rintro rfl
    revert bounds
    decide

-- What is accepted is the prefix and one or two words, and perhaps a line break.
theorem accepted_shape {urn : String} (accepted : validateAgentUrn urn = true) :
    ∃ first later tail, urn.toList = "urn:asap:agent:".toList ++ (first ++ later) ++ tail ∧ (tail = [] ∨ tail = ['\n']) ∧
      first ≠ [] ∧ (∀ c ∈ first, isUrnChar c = true) ∧
      (later = [] ∨ ∃ second, later = ':' :: second ∧ second ≠ [] ∧ ∀ c ∈ second, isUrnChar c = true) := by
  simp only [validateAgentUrn,Bool.and_eq_true,Bool.or_eq_true,decide_eq_true_eq] at accepted
  obtain ⟨⟨⟨-,starts⟩,number⟩,words⟩ := accepted
  obtain ⟨body,split⟩ := List.isPrefixOf_iff_prefix.mp starts
  rw [← split,List.drop_left] at number words
  obtain ⟨tail,broken,apart⟩ : ∃ tail, (tail = [] ∨ tail = ['\n']) ∧
      body = (if body.getLast? = some '\n' then body.dropLast else body) ++ tail := by
    split
    · rename_i last
      exact ⟨['\n'],.inr rfl,(List.dropLast_append_getLast? '\n' last).symm⟩
    · exact ⟨[],.inl rfl,(List.append_nil body).symm⟩
  revert number words apart
  generalize (if body.getLast? = some '\n' then body.dropLast else body) = bare
  intro words number apart
  have joined : [':'].intercalate (bare.splitOn ':') = bare := List.intercalate_splitOn ':'
  have fine (word : List Char) (listed : word ∈ bare.splitOn ':') : word ≠ [] ∧ ∀ c ∈ word, isUrnChar c = true := by
    have both := List.all_eq_true.mp words word listed
    simp only [Bool.and_eq_true,Bool.not_eq_true',List.isEmpty_eq_false_iff,List.all_eq_true] at both
    exact both
  rw [← split,apart,← List.append_assoc]
  rcases number with one | two
  · obtain ⟨word,only⟩ := List.length_eq_one_iff.mp one
    rw [only] at joined fine
    refine ⟨word,[],tail,?_,broken,(fine word List.mem_cons_self).1,(fine word List.mem_cons_self).2,.inl rfl⟩
    rw [← joined,List.append_nil]
    simp
  · obtain ⟨word,other,both⟩ := List.length_eq_two.mp two
    rw [both] at joined fine
    have second : other ∈ [word,other] := List.mem_cons_of_mem _ List.mem_cons_self
    refine ⟨word,':' :: other,tail,?_,broken,(fine word List.mem_cons_self).1,(fine word List.mem_cons_self).2,
      .inr ⟨other,rfl,(fine other second).1,(fine other second).2⟩⟩
    rw [← joined]
    simp

-- Without the line break, a URN has no two colons next to one another, and nothing but colons is replaced.
theorem accepted_bare {urn : String} (accepted : validateAgentUrn urn = true) :
    ∃ bare tail, urn.toList = bare ++ tail ∧ (tail = [] ∨ tail = ['\n']) ∧ bare.head? = some 'u' ∧
      (∀ c ∈ bare, isSpace c = false ∧ isUnsafe c = (c == ':')) ∧
      bare.IsChain (fun c d => isUnsafe c = true → isUnsafe d = false) := by
  obtain ⟨first,later,tail,split,broken,some,letters,more⟩ := accepted_shape accepted
  have word {chars : List Char} (fine : ∀ c ∈ chars, isUrnChar c = true) : chars.IsChain (fun c d => isUnsafe c = true → isUnsafe d = false) := by
    have pairs : chars.Pairwise (fun c d => isUnsafe c = true → isUnsafe d = false) :=
      List.pairwise_of_forall_mem_list (fun _ _ d inside _ => (urnChar_safe (fine d inside)).1)
    exact pairs.isChain
  refine ⟨"urn:asap:agent:".toList ++ (first ++ later),tail,split,broken,rfl,?_,?_⟩
  · have plain {c : Char} (urn : isUrnChar c = true) : isSpace c = false ∧ isUnsafe c = (c == ':') := by
      obtain ⟨safe,visible,other⟩ := urnChar_safe urn
      exact ⟨visible,by rw [safe]; exact (beq_false_of_ne other).symm⟩
    have colon : isSpace ':' = false ∧ isUnsafe ':' = (':' == ':') := by decide
    have all : "urn:asap:agent:".toList.all (fun c => !isSpace c && isUnsafe c == (c == ':')) = true := by decide
    have head (c : Char) (front : c ∈ "urn:asap:agent:".toList) : isSpace c = false ∧ isUnsafe c = (c == ':') := by
      simpa using List.all_eq_true.mp all c front
    intro c member
    rcases List.mem_append.mp member with front | body
    · exact head c front
    · rcases List.mem_append.mp body with inside | inside
      · exact plain (letters c inside)
      · rcases more with rfl | ⟨second,rfl,_,fine⟩
        · cases inside
        · rcases List.mem_cons.mp inside with rfl | last
          · exact colon
          · exact plain (fine c last)
  · have head : "urn:asap:agent:".toList.IsChain (fun c d => isUnsafe c = true → isUnsafe d = false) := by decide
    have starts {chars : List Char} (rest : List Char) (some : chars ≠ []) (fine : ∀ c ∈ chars, isUrnChar c = true) :
        ∀ d ∈ (chars ++ rest).head?, isUnsafe d = false := by
      obtain ⟨c,others,rfl⟩ := List.exists_cons_of_ne_nil some
      intro d member
      cases member
      exact (urnChar_safe (fine c List.mem_cons_self)).1
    have body : (first ++ later).IsChain (fun c d => isUnsafe c = true → isUnsafe d = false) := by
      rcases more with rfl | ⟨second,rfl,filled,fine⟩
      · rw [List.append_nil]
        exact word letters
      · have next : ∀ d ∈ second.head?, isUnsafe d = false := by
          have found := starts [] filled fine
          rwa [List.append_nil] at found
        refine (word letters).append ((word fine).cons (fun d member _ => next d member)) ?_
        intro c last d _ bad
        rw [(urnChar_safe (letters c (List.mem_of_getLast? last))).1] at bad
        cases bad
    exact head.append body (fun _ _ d member _ => starts later some letters d member)
end Accepted

section Slug
-- `strip` takes nothing but the line break.
theorem strip_bare {bare tail : List Char} (some : bare ≠ []) (visible : ∀ c ∈ bare, isSpace c = false) (broken : tail = [] ∨ tail = ['\n']) :
    ((bare ++ tail).dropWhile isSpace).reverse.dropWhile isSpace = bare.reverse := by
  obtain ⟨c,rest,rfl⟩ := List.exists_cons_of_ne_nil some
  obtain ⟨d,others,last⟩ := List.exists_cons_of_ne_nil (List.reverse_ne_nil_iff.mpr some)
  have left : isSpace c = false := visible c List.mem_cons_self
  have right : isSpace d = false := visible d (List.mem_reverse.mp (by rw [last]; exact List.mem_cons_self))
  have kept : ((c :: rest) ++ tail).dropWhile isSpace = (c :: rest) ++ tail := List.dropWhile_cons_of_neg (Bool.eq_false_iff.mp left)
  rw [kept,List.reverse_append,last]
  rcases broken with rfl | rfl
  · exact List.dropWhile_cons_of_neg (Bool.eq_false_iff.mp right)
  · exact List.dropWhile_cons_of_neg (Bool.eq_false_iff.mp right)

theorem hyphen_dashed : isHyphen ∘ dashed = isSeparator := by
  funext c
  unfold Function.comp isHyphen dashed isSeparator
  by_cases colon : c = ':'
  · subst colon
    rfl
  · rw [if_neg colon,beq_false_of_ne colon,Bool.false_or]

theorem rdropWhile_dashed (text : List Char) : (text.map dashed).rdropWhile isHyphen = (text.rdropWhile isSeparator).map dashed := by
  unfold List.rdropWhile
  rw [← List.map_reverse,List.dropWhile_map,hyphen_dashed,← List.map_reverse]

theorem sanitizeUrnForBranch_shown {urn : String} (accepted : validateAgentUrn urn = true) :
    sanitizeUrnForBranch urn = String.ofList ((shown urn).map dashed) := by
  obtain ⟨bare,tail,split,broken,head,plain,isolated⟩ := accepted_bare accepted
  have nonempty : bare ≠ [] := by
    rintro rfl
    cases head
  have unbroken : (if urn.toList.getLast? = some '\n' then urn.toList.dropLast else urn.toList) = bare := by
    rw [split]
    rcases broken with rfl | rfl
    · rw [List.append_nil,if_neg]
      intro last
      have visible := (plain '\n' (List.mem_of_getLast? last)).1
      cases visible
    · rw [List.getLast?_concat,if_pos rfl,List.dropLast_concat]
  have stripped : (strip urn).toList = bare := by
    rw [strip,String.toList_ofList,split,strip_bare nonempty (fun c member => (plain c member).1) broken,List.reverse_reverse]
  have replaced : sub (matchHead (plus (.set isUnsafe))) (fun _ => ['-']) bare = bare.map dashed := by
    rw [sub_isolated '-' isolated]
    apply List.map_congr_left
    intro c member
    rw [(plain c member).2]
    simp [dashed]
  have kept : (bare.map dashed).dropWhile isHyphen = bare.map dashed := by
    obtain ⟨c,rest,rfl⟩ := List.exists_cons_of_ne_nil nonempty
    cases head
    rfl
  have filled : (bare.rdropWhile isSeparator).map dashed ≠ [] := by
    intro empty
    have all := List.rdropWhile_eq_nil_iff.mp (List.map_eq_nil_iff.mp empty) 'u' (List.mem_of_mem_head? head)
    cases all
  unfold sanitizeUrnForBranch shown
  rw [stripped,replaced,kept,rdropWhile_dashed,unbroken]
  dsimp only
  rw [if_neg (by rwa [List.isEmpty_iff]),List.map_take]
end Slug

theorem dashed_eq_iff (c d : Char) : dashed c = dashed d ↔ Alike c d := by
  unfold dashed Alike
  by_cases first : c = ':' <;> by_cases second : d = ':' <;> simp only [first,second] <;> grind

theorem branchName_eq_iff {left right : String} (acceptedLeft : validateAgentUrn left = true) (acceptedRight : validateAgentUrn right = true) :
    branchName left = branchName right ↔ List.Forall₂ Alike (shown left) (shown right) := by
  unfold branchName
  rw [sanitizeUrnForBranch_shown acceptedLeft,sanitizeUrnForBranch_shown acceptedRight,String.append_right_inj,String.ofList_inj]
  rw [← List.forall₂_eq_eq_eq,List.forall₂_map_left_iff,List.forall₂_map_right_iff]
  simp only [dashed_eq_iff]

-- Two URNs have branches of their own exactly where what the branches show of them differs by more than colons for hyphens.
theorem branchName_distinct {left right : String} (acceptedLeft : validateAgentUrn left = true) (acceptedRight : validateAgentUrn right = true) :
    (left ≠ right → branchName left ≠ branchName right) ↔ (left = right ∨ ¬List.Forall₂ Alike (shown left) (shown right)) := by
  rw [ne_eq,ne_eq,branchName_eq_iff acceptedLeft acceptedRight]
  exact Classical.or_iff_not_imp_left.symm

def colonUrn : String := "urn:asap:agent:a:b"
def hyphenUrn : String := "urn:asap:agent:a-b"
def otherUrn : String := "urn:asap:agent:a:c"

theorem colonUrn_accepted : validateAgentUrn colonUrn = true := by decide
theorem hyphenUrn_accepted : validateAgentUrn hyphenUrn = true := by decide
theorem otherUrn_accepted : validateAgentUrn otherUrn = true := by decide

theorem branchName_distinct_other :
    (colonUrn ≠ otherUrn → branchName colonUrn ≠ branchName otherUrn) ↔
      (colonUrn = otherUrn ∨ ¬List.Forall₂ Alike (shown colonUrn) (shown otherUrn)) :=
  branchName_distinct colonUrn_accepted otherUrn_accepted

theorem branches_collide :
    ¬∀ left right : String, validateAgentUrn left = true → validateAgentUrn right = true → left ≠ right → branchName left ≠ branchName right := by
  intro distinct
  refine distinct colonUrn hyphenUrn colonUrn_accepted hyphenUrn_accepted (by simp [colonUrn,hyphenUrn]) ?_
  unfold branchName
  rw [sanitizeUrnForBranch_shown colonUrn_accepted,sanitizeUrnForBranch_shown hyphenUrn_accepted]
  decide

end Asap.RegistryBranches
