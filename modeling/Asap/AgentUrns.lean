import Asap.RegexLanguage
import Asap.RegistryBranches

-- `asap.models.validators`: the URNs of agents, the pattern that checks them, and the language that it is for.
namespace Asap.AgentUrns
open Manifests (isUrnChar maxUrnLength)
open Regex

-- `^` asks for nothing: `match` is at the head of the text.
def agentUrnPattern : Pattern Char :=
  .seq (literal "urn:asap:agent:".toList) (.seq (plus (.set isUrnChar)) (optional (.seq (literal [':']) (plus (.set isUrnChar)))))

-- `$`: the end of the text, and also the place before a line break that ends it.
def atEnd (rest : List Char) : Bool := rest = [] || rest = ['\n']

def validateAgentUrn (v : String) : Except String String :=
  if v.length > maxUrnLength then
    .error ("Agent URN must be at most " ++ toString maxUrnLength ++ " characters, got " ++ toString v.length)
  else if (matchEnd atEnd agentUrnPattern v.toList).isNone then
    .error ("Agent ID must follow URN format 'urn:asap:agent:\x7bname\x7d', got: " ++ v)
  else .ok v

def Accepted (v : String) : Prop := ∃ urn, validateAgentUrn v = .ok urn

-- The language: a prefix, and one or two words with a colon between them.
def Word (word : List Char) : Prop := word ≠ [] ∧ ∀ c ∈ word, isUrnChar c = true

def agentUrns : Language Char :=
  {text | ∃ words : List (List Char), (words.length = 1 ∨ words.length = 2) ∧ (∀ word ∈ words, Word word) ∧
    text = "urn:asap:agent:".toList ++ [':'].intercalate words}

def InLanguage (v : String) : Prop := v.toList ∈ agentUrns ∧ v.length ≤ maxUrnLength

-- A URN of the language and one line break behind it.
def Trailing (v : String) : Prop := ∃ urn, InLanguage urn ∧ v = urn ++ "\n" ∧ v.length ≤ maxUrnLength

-- What a reader sees of a text in a line: the line breaks at its end do not show.
def printed (v : String) : List Char := v.toList.rdropWhile (fun c => decide (c = '\n'))

theorem validateAgentUrn_ok {v urn : String} (accepted : validateAgentUrn v = .ok urn) : urn = v := by
  unfold validateAgentUrn at accepted
  split at accepted
  · cases accepted
  · split at accepted
    · cases accepted
    · exact (Except.ok.inj accepted).symm

theorem atEnd_iff {rest : List Char} : atEnd rest = true ↔ rest = [] ∨ rest = ['\n'] := by
  unfold atEnd
  rw [Bool.or_eq_true,decide_eq_true_eq,decide_eq_true_eq]

section Words
theorem mem_word {word : List Char} : word ∈ language (plus (.set isUrnChar)) ↔ Word word := mem_plus_set

theorem mem_second {text : List Char} : text ∈ language (optional (.seq (literal [':']) (plus (.set isUrnChar)))) ↔
    (∃ word, Word word ∧ text = ':' :: word) ∨ text = [] := by
  rw [mem_optional,mem_seq]
  apply or_congr_left
  constructor
  · rintro ⟨colon,here,word,letters,rfl⟩
    rw [mem_literal.mp here]
    exact ⟨word,mem_word.mp letters,rfl⟩
  · rintro ⟨word,letters,rfl⟩
    exact ⟨[':'],mem_literal.mpr rfl,word,mem_word.mpr letters,rfl⟩

-- The pattern is for the language.
theorem mem_agentUrnPattern {text : List Char} : text ∈ language agentUrnPattern ↔ text ∈ agentUrns := by
  unfold agentUrnPattern
  rw [mem_seq]
  constructor
  · rintro ⟨head,start,body,words,rfl⟩
    rw [mem_literal.mp start]
    obtain ⟨first,letters,later,more,rfl⟩ := mem_seq.mp words
    rcases mem_second.mp more with ⟨second,others,rfl⟩ | rfl
    · refine ⟨[first,second],.inr rfl,?_,by simp⟩
      intro word member
      rcases List.mem_cons.mp member with rfl | last
      · exact mem_word.mp letters
      · rw [List.mem_singleton.mp last]
        exact others
    · refine ⟨[first],.inl rfl,?_,by simp⟩
      intro word member
      rw [List.mem_singleton.mp member]
      exact mem_word.mp letters
  · rintro ⟨words,number,all,rfl⟩
    refine ⟨_,mem_literal.mpr rfl,_,?_,rfl⟩
    rcases number with one | two
    · obtain ⟨first,rfl⟩ := List.length_eq_one_iff.mp one
      have letters := mem_word.mpr (all first List.mem_cons_self)
      exact mem_seq.mpr ⟨first,letters,[],mem_second.mpr (.inr rfl),by simp⟩
    · obtain ⟨first,second,rfl⟩ := List.length_eq_two.mp two
      have letters := mem_word.mpr (all first List.mem_cons_self)
      have others := all second (List.mem_cons_of_mem first List.mem_cons_self)
      exact mem_seq.mpr ⟨first,letters,':' :: second,mem_second.mpr (.inl ⟨second,others,rfl⟩),by simp⟩

theorem urnChar_other {c d : Char} (other : isUrnChar d = false) (urn : isUrnChar c = true) : c ≠ d := by
  rintro rfl
  rw [other] at urn
  cases urn

theorem words_bare {words : List (List Char)} (all : ∀ word ∈ words, Word word) : ∀ word ∈ words, '\n' ∉ word ∧ ':' ∉ word := by
  intro word member
  have letters := (all word member).2
  exact ⟨fun inside => urnChar_other rfl (letters _ inside) rfl,fun inside => urnChar_other rfl (letters _ inside) rfl⟩

theorem joined_bare {words : List (List Char)} (all : ∀ word ∈ words, Word word) : '\n' ∉ [':'].intercalate words := by
  induction words with
  | nil => exact List.not_mem_nil
  | cons first words ih =>
    have front := (words_bare all first List.mem_cons_self).1
    have later := ih (fun word member => all word (List.mem_cons_of_mem first member))
    cases words with
    | nil => rwa [List.intercalate_singleton]
    | cons second words =>
      rw [List.intercalate_cons_cons]
      intro member
      rcases List.mem_append.mp member with before | last
      · rcases List.mem_append.mp before with inside | colon
        · exact front inside
        · exact absurd (List.mem_singleton.mp colon) (by decide)
      · exact later last

-- No URN of the language has a line break in it.
theorem agentUrns_bare {text : List Char} (inside : text ∈ agentUrns) : '\n' ∉ text := by
  obtain ⟨words,_,all,rfl⟩ := inside
  intro member
  rcases List.mem_append.mp member with head | body
  · exact absurd head (by decide)
  · exact joined_bare all body
end Words

theorem toList_break (v : String) : (v ++ "\n").toList = v.toList ++ ['\n'] := String.toList_append

theorem accepted_iff {v : String} : Accepted v ↔
    v.length ≤ maxUrnLength ∧ ∃ taken rest, taken ++ rest = v.toList ∧ taken ∈ agentUrns ∧ (rest = [] ∨ rest = ['\n']) := by
  have matched : (matchEnd atEnd agentUrnPattern v.toList).isSome = true ↔
      ∃ taken rest, taken ++ rest = v.toList ∧ taken ∈ agentUrns ∧ (rest = [] ∨ rest = ['\n']) := by
    rw [matchEnd_isSome]
    simp only [mem_agentUrnPattern,atEnd_iff]
  rw [← matched]
  unfold Accepted validateAgentUrn
  by_cases long : v.length > maxUrnLength
  · rw [if_pos long]
    exact iff_of_false (fun accepted => by cases accepted.choose_spec) (fun both => Nat.not_le.mpr long both.1)
  · rw [if_neg long,and_iff_right (Nat.not_lt.mp long)]
    cases matchEnd atEnd agentUrnPattern v.toList with
    | none => exact iff_of_false (fun accepted => by cases accepted.choose_spec) Bool.false_ne_true
    | some way => exact iff_of_true ⟨v,rfl⟩ rfl

-- What is accepted is a URN of the language, or one with a line break behind it.
theorem accepted_language {v : String} : Accepted v ↔ InLanguage v ∨ Trailing v := by
  rw [accepted_iff]
  constructor
  · rintro ⟨short,taken,rest,split,inside,nothing | broken⟩
    · rw [nothing,List.append_nil] at split
      rw [split] at inside
      exact .inl ⟨inside,short⟩
    · have apart : v = String.ofList taken ++ "\n" := by
        apply String.toList_inj.mp
        rw [toList_break,String.toList_ofList,← split,broken]
      have fits : (String.ofList taken).length ≤ maxUrnLength := by
        rw [apart,String.length_append] at short
        omega
      refine .inr ⟨String.ofList taken,⟨?_,fits⟩,apart,short⟩
      rw [String.toList_ofList]
      exact inside
  · rintro (⟨inside,short⟩ | ⟨urn,⟨inside,_⟩,rfl,short⟩)
    · exact ⟨short,v.toList,[],List.append_nil _,inside,.inl rfl⟩
    · exact ⟨short,urn.toList,['\n'],(toList_break urn).symm,inside,.inr rfl⟩

section Printed
theorem printed_bare {v : String} (bare : '\n' ∉ v.toList) : printed v = v.toList := by
  unfold printed
  rw [List.rdropWhile_eq_self_iff]
  intro nonempty broken
  have last := List.getLast_mem nonempty
  rw [of_decide_eq_true broken] at last
  exact bare last

theorem printed_language {v : String} (inside : InLanguage v) : printed v = v.toList := printed_bare (agentUrns_bare inside.1)

theorem printed_break (v : String) : printed (v ++ "\n") = printed v := by
  unfold printed
  rw [toList_break]
  exact List.rdropWhile_concat_pos _ _ _ rfl

theorem trailing_out {v : String} (trailing : Trailing v) : ¬InLanguage v := by
  obtain ⟨urn,_,rfl,_⟩ := trailing
  intro inside
  refine agentUrns_bare inside.1 ?_
  rw [toList_break]
  exact List.mem_append_right _ (List.mem_singleton.mpr rfl)

-- Each accepted string prints as the one URN of the language that it holds.
theorem accepted_printed {v : String} (accepted : Accepted v) : ∃ urn, InLanguage urn ∧ printed v = urn.toList ∧ (v = urn ∨ v = urn ++ "\n") := by
  rcases accepted_language.mp accepted with inside | ⟨urn,inside,rfl,_⟩
  · exact ⟨v,inside,printed_language inside,.inl rfl⟩
  · exact ⟨urn,inside,(printed_break urn).trans (printed_language inside),.inr rfl⟩

-- Two accepted strings that print alike differ at most in a line break at the end.
theorem accepted_alike {v w : String} (acceptedV : Accepted v) (acceptedW : Accepted w) (alike : printed v = printed w) :
    v = w ∨ v = w ++ "\n" ∨ w = v ++ "\n" := by
  obtain ⟨urn,_,shown,first⟩ := accepted_printed acceptedV
  obtain ⟨other,_,also,second⟩ := accepted_printed acceptedW
  have same : urn = other := String.toList_inj.mp (shown.symm.trans (alike.trans also))
  subst same
  rcases first with rfl | rfl
  · rcases second with rfl | rfl
    · exact .inl rfl
    · exact .inr (.inr rfl)
  · rcases second with rfl | rfl
    · exact .inr (.inl rfl)
    · exact .inl rfl
end Printed

-- Validation accepts the language, and prints tell the accepted strings apart, exactly where no URN has a line break behind it.
theorem validateAgentUrn_exact (v w : String) :
    ((Accepted v ↔ InLanguage v) ∧ (Accepted w ↔ InLanguage w) ∧ (Accepted v → Accepted w → printed v = printed w → v = w)) ↔
      ¬Trailing v ∧ ¬Trailing w := by
  constructor
  · rintro ⟨exactV,exactW,_⟩
    refine ⟨?_,?_⟩
    · exact fun trailing => trailing_out trailing (exactV.mp (accepted_language.mpr (.inr trailing)))
    · exact fun trailing => trailing_out trailing (exactW.mp (accepted_language.mpr (.inr trailing)))
  · rintro ⟨closedV,closedW⟩
    have exactV : Accepted v ↔ InLanguage v := accepted_language.trans (or_iff_left closedV)
    have exactW : Accepted w ↔ InLanguage w := accepted_language.trans (or_iff_left closedW)
    refine ⟨exactV,exactW,?_⟩
    intro acceptedV acceptedW alike
    rw [printed_language (exactV.mp acceptedV),printed_language (exactW.mp acceptedW)] at alike
    exact String.toList_inj.mp alike

theorem lookAlike_accepted : Accepted "urn:asap:agent:a\n" ∧ Accepted "urn:asap:agent:a" ∧
    ¬(Accepted "urn:asap:agent:a\n" ↔ InLanguage "urn:asap:agent:a\n") ∧
    ¬(Accepted "urn:asap:agent:a\n" → Accepted "urn:asap:agent:a" →
      printed "urn:asap:agent:a\n" = printed "urn:asap:agent:a" → "urn:asap:agent:a\n" = "urn:asap:agent:a") := by
  have word : Word ['a'] := ⟨List.cons_ne_nil _ _,List.forall_mem_singleton.mpr (by decide)⟩
  have inside : InLanguage "urn:asap:agent:a" := by
    refine ⟨⟨[['a']],.inl rfl,?_,by decide⟩,by decide⟩
    intro one member
    rw [List.mem_singleton.mp member]
    exact word
  have trailing : Trailing "urn:asap:agent:a\n" := ⟨"urn:asap:agent:a",inside,by decide,by decide⟩
  have accepted := accepted_language.mpr (.inr trailing)
  have plain := accepted_language.mpr (.inl inside)
  refine ⟨accepted,plain,?_,?_⟩
  · exact fun exact => trailing_out trailing (exact.mp accepted)
  · intro apart
    have same := apart accepted plain (by decide)
    exact absurd same (by decide)

-- The check of a manifest's `id`, read off the shape of its words, is this one.
theorem accepted_manifest {v : String} : Accepted v ↔ Manifests.validateAgentUrn v = true := by
  rw [accepted_iff]
  constructor
  · rintro ⟨short,taken,rest,split,⟨words,number,all,rfl⟩,broken⟩
    have nonempty : words ≠ [] := by
      rintro rfl
      rcases number with one | two
      · cases one
      · cases two
    have bare : '\n' ∉ [':'].intercalate words := joined_bare all
    have cut : ([':'].intercalate words).splitOn ':' = words :=
      List.splitOn_intercalate ':' (fun word member => (words_bare all word member).2) nonempty
    have body : (if ([':'].intercalate words ++ rest).getLast? = some '\n' then ([':'].intercalate words ++ rest).dropLast
        else [':'].intercalate words ++ rest) = [':'].intercalate words := by
      rcases broken with rfl | rfl
      · rw [List.append_nil,if_neg]
        exact fun last => bare (List.mem_of_getLast? last)
      · rw [if_pos List.getLast?_concat,List.dropLast_concat]
    rw [List.append_assoc] at split
    unfold Manifests.validateAgentUrn
    simp only [← split,List.drop_left,body,cut]
    simp only [Bool.and_eq_true,decide_eq_true_eq,List.all_eq_true,Bool.or_eq_true,Bool.not_eq_true',List.isEmpty_eq_false_iff]
    exact ⟨⟨⟨short,List.isPrefixOf_iff_prefix.mpr (List.prefix_append _ _)⟩,number⟩,all⟩
  · intro valid
    obtain ⟨first,later,tail,split,broken,some,letters,more⟩ := RegistryBranches.accepted_shape valid
    simp only [Manifests.validateAgentUrn,Bool.and_eq_true,decide_eq_true_eq] at valid
    have front : first ∈ language (plus (.set isUrnChar)) := mem_word.mpr ⟨some,letters⟩
    have back : later ∈ language (optional (.seq (literal [':']) (plus (.set isUrnChar)))) := by
      apply mem_second.mpr
      rcases more with nothing | ⟨second,shape,nonempty,others⟩
      · exact .inr nothing
      · exact .inl ⟨second,⟨nonempty,others⟩,shape⟩
    have whole : "urn:asap:agent:".toList ++ (first ++ later) ∈ language agentUrnPattern :=
      mem_seq.mpr ⟨_,mem_literal.mpr rfl,_,mem_seq.mpr ⟨first,front,later,back,rfl⟩,rfl⟩
    exact ⟨valid.1.1.1,_,tail,split.symm,mem_agentUrnPattern.mp whole,broken⟩
end Asap.AgentUrns
