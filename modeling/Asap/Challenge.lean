import Asap.Regex
import Asap.PythonValue

-- The `WWW-Authenticate: ASAP` challenge: the header with the discovery URL quoted, and its parser.
namespace Asap.Challenge
open Regex PythonValue

def formatWwwAuthenticateAsap (discoveryUrl : String) : String :=
  let escaped := replace ['"'] ['\\','"'] (replace ['\\'] ['\\','\\'] discoveryUrl.toList)
  String.ofList ("ASAP discovery=\"".toList ++ escaped ++ ['"'])

-- What a letter of a pattern stands for when case is ignored: two letters have forms beyond ASCII.
def caseVariants : Char → List Char
  | 'i' => ['i','I',Char.ofNat 0x131,Char.ofNat 0x130]
  | 's' => ['s','S',Char.ofNat 0x17f]
  | c => [c,c.toUpper]

def keyword : List Char → Pattern Char
  | [] => .empty
  | c :: rest => .seq (.set (caseVariants c).contains) (keyword rest)

section Scheme
-- The characters beyond ASCII that are part of words.
variable (wide : Char → Bool)

def isWord (c : Char) : Bool := c.isAlphanum || c == '_' || (decide (127 < c.toNat) && wide c)

def boundary (before after : Option Char) : Bool := before.any (isWord wide) != after.any (isWord wide)

def schemeAt (before : Option Char) (text : List Char) : Bool :=
  boundary wide before text.head? && (ways (keyword "asap".toList) text).any (fun way => boundary wide way.1.getLast? way.2.head?)

-- `_ASAP_SCHEME_RE.search`, after a character.
def hasScheme (before : Option Char) : List Char → Bool
  | [] => schemeAt wide before []
  | c :: rest => schemeAt wide before (c :: rest) || hasScheme (some c) rest
end Scheme

def discoveryStart : Pattern Char :=
  .seq (keyword "discovery".toList) (.seq (.star (.set isSpace)) (.seq (.set (· == '=')) (.seq (.star (.set isSpace)) (.set (· == '"')))))

def quotedItem : Pattern Char := .alt (.set (fun c => c != '"' && c != '\\')) (.seq (.set (· == '\\')) (.set (· != '\n')))

def discoveryMatch : List Char → Option (Way Char) := matchGroup discoveryStart (.star quotedItem) (.set (· == '"'))

def unescape (raw : List Char) : List Char := replace ['\\','\\'] ['\\'] (replace ['\\','"'] ['"'] raw)

def parseWwwAuthenticateAsap (wide : Char → Bool) (headerValue : Option String) : Option String :=
  match headerValue with
  | none => none
  | some value =>
    if value.toList.isEmpty || !hasScheme wide none value.toList then none
    else (search discoveryMatch value.toList).map (fun raw => String.ofList (unescape raw))

section Escaping
def doubledChar (c : Char) : List Char := if c = '\\' then ['\\','\\'] else [c]

def escapedChar (c : Char) : List Char := if c = '\\' then ['\\','\\'] else if c = '"' then ['\\','"'] else [c]

theorem escaped_chars (text : List Char) :
    replace ['"'] ['\\','"'] (replace ['\\'] ['\\','\\'] text) = text.flatMap escapedChar := by
  rw [replace_single,replace_single,List.flatMap_assoc]
  apply List.flatMap_congr
  intro c _
  unfold escapedChar
  split
  · rfl
  · rw [List.flatMap_singleton]

theorem escaped_unquoted (text : List Char) : ∀ c ∈ (text.flatMap escapedChar).head?, c ≠ '"' := by
  intro c first
  cases text with
  | nil => cases first
  | cons d rest =>
    rw [List.flatMap_cons] at first
    unfold escapedChar at first
    split at first
    · cases first
      decide
    · split at first
      · cases first
        decide
      · rename_i plain
        cases first
        exact plain

-- The quotes are read back first: the backslash before a quote is never the second one of a pair.
theorem unquoted_chars (text : List Char) : replace ['\\','"'] ['"'] (text.flatMap escapedChar) = text.flatMap doubledChar := by
  have pair : ['\\','"'] ≠ [] := List.cons_ne_nil _ _
  induction text with
  | nil => rfl
  | cons c rest ih =>
    rw [List.flatMap_cons,List.flatMap_cons,← ih]
    by_cases slash : c = '\\'
    · subst slash
      have second : ¬['\\','"'] <+: '\\' :: rest.flatMap escapedChar := by
        rintro ⟨tail,same⟩
        exact escaped_unquoted rest '"' (by rw [← (List.cons.inj same).2]; rfl) rfl
      show replace _ _ ('\\' :: '\\' :: rest.flatMap escapedChar) = '\\' :: '\\' :: _
      rw [replace_skips pair (by simp),replace_skips pair second]
      rfl
    · by_cases quote : c = '"'
      · subst quote
        exact replace_starts pair ['"'] (rest.flatMap escapedChar)
      · rw [show escapedChar c = [c] by simp [escapedChar,slash,quote],show doubledChar c = [c] from if_neg slash]
        exact replace_skips pair (fun starts => slash (List.cons_prefix_cons.mp starts).1.symm) ['"']

theorem undoubled_chars (text : List Char) : replace ['\\','\\'] ['\\'] (text.flatMap doubledChar) = text := by
  have pair : ['\\','\\'] ≠ [] := List.cons_ne_nil _ _
  induction text with
  | nil => rfl
  | cons c rest ih =>
    rw [List.flatMap_cons]
    by_cases slash : c = '\\'
    · subst slash
      exact (replace_starts pair ['\\'] (rest.flatMap doubledChar)).trans (congrArg _ ih)
    · rw [show doubledChar c = [c] from if_neg slash]
      exact (replace_skips pair (fun starts => slash (List.cons_prefix_cons.mp starts).1.symm) ['\\']).trans (congrArg _ ih)

theorem unescape_escaped (text : List Char) : unescape (text.flatMap escapedChar) = text :=
  (congrArg _ (unquoted_chars text)).trans (undoubled_chars text)
end Escaping

section Matching
theorem caseVariants_self (c : Char) : (caseVariants c).contains c = true := by
  unfold caseVariants
  split <;> simp

theorem ways_keyword (word rest : List Char) : ways (keyword word) (word ++ rest) = [(word,rest)] := by
  induction word with
  | nil => rfl
  | cons c word ih =>
    rw [keyword,List.cons_append,ways_seq_only (ways_set_inside (caseVariants_self c) _),ih]
    rfl

theorem keyword_elsewhere {c d : Char} {word rest : List Char} (other : (caseVariants c).contains d = false) :
    ways (keyword (c :: word)) (d :: rest) = [] := by
  rw [keyword,ways_seq,ways_set_outside other,List.flatMap_nil]

-- Each character is quoted as one item of the group.
theorem item_char (c : Char) (rest : List Char) : ways quotedItem (escapedChar c ++ rest) = [(escapedChar c,rest)] := by
  by_cases slash : c = '\\'
  · subst slash
    rfl
  · by_cases quote : c = '"'
    · subst quote
      rfl
    · have plain : escapedChar c = [c] := by simp [escapedChar,slash,quote]
      rw [plain,quotedItem,List.singleton_append,ways,ways_set_inside (by simp [slash,quote]),ways_seq,ways_set_outside (by simp [slash])]
      rfl

theorem escapedChar_some (c : Char) : (escapedChar c).isEmpty = false := by
  unfold escapedChar
  split
  · rfl
  · split <;> rfl

-- The first way of the group takes all that was quoted, up to the closing quote.
theorem items_head (text rest : List Char) : ∃ others,
    ways (.star quotedItem) (text.flatMap escapedChar ++ '"' :: rest) = (text.flatMap escapedChar,'"' :: rest) :: others := by
  induction text with
  | nil => exact ⟨[],by rw [ways_star]; rfl⟩
  | cons c tail ih =>
    obtain ⟨others,first⟩ := ih
    rw [List.flatMap_cons,List.append_assoc,ways_star,item_char,List.flatMap_singleton,escapedChar_some,if_neg Bool.false_ne_true,first]
    exact ⟨_,rfl⟩

theorem start_ways (rest : List Char) : ways discoveryStart ("discovery=\"".toList ++ rest) = [("discovery=\"".toList,rest)] := by
  have equals : ways (.seq (.star (.set isSpace)) (.seq (.set (· == '=')) (.seq (.star (.set isSpace)) (.set (· == '"'))))) ('=' :: '"' :: rest) =
      [(['=','"'],rest)] := by
    rw [ways_seq_only (star_set_outside (by simp; decide)),ways_seq_only (ways_set_inside (by decide) _),
      ways_seq_only (star_set_outside (by simp; decide)),ways_set_inside (by decide)]
    rfl
  show ways discoveryStart ("discovery".toList ++ '=' :: '"' :: rest) = _
  rw [discoveryStart,ways_seq_only (ways_keyword _ _),equals]
  rfl

theorem discoveryMatch_escaped (text : List Char) :
    discoveryMatch ("discovery=\"".toList ++ (text.flatMap escapedChar ++ ['"'])) = some (text.flatMap escapedChar,[]) := by
  obtain ⟨others,first⟩ := items_head text []
  unfold discoveryMatch matchGroup
  rw [start_ways,List.flatMap_singleton,first,List.flatMap_cons]
  rfl

theorem discoveryMatch_elsewhere {c : Char} (other : (caseVariants 'd').contains c = false) (rest : List Char) : discoveryMatch (c :: rest) = none := by
  have nothing : ways discoveryStart (c :: rest) = [] := by
    rw [discoveryStart,ways_seq]
    show (ways (keyword ('d' :: "iscovery".toList)) (c :: rest)).flatMap _ = []
    rw [keyword_elsewhere other,List.flatMap_nil]
  unfold discoveryMatch matchGroup
  rw [nothing]
  rfl
end Matching

theorem hasScheme_format (wide : Char → Bool) (rest : List Char) : hasScheme wide none ("ASAP ".toList ++ rest) = true := by
  have here : schemeAt wide none ("ASAP ".toList ++ rest) = true := by
    have only : ways (keyword "asap".toList) ('A' :: 'S' :: 'A' :: 'P' :: ' ' :: rest) = [(['A','S','A','P'],' ' :: rest)] := rfl
    show (boundary wide none (some 'A') && (ways (keyword "asap".toList) ('A' :: 'S' :: 'A' :: 'P' :: ' ' :: rest)).any _) = true
    rw [only]
    rfl
  exact Bool.or_eq_true_iff.mpr (.inl here)

-- What the formatter writes is read back as it was, whatever characters it holds.
theorem parse_format (wide : Char → Bool) (discoveryUrl : String) :
    parseWwwAuthenticateAsap wide (some (formatWwwAuthenticateAsap discoveryUrl)) = some discoveryUrl := by
  have written : (formatWwwAuthenticateAsap discoveryUrl).toList =
      "ASAP ".toList ++ ("discovery=\"".toList ++ (discoveryUrl.toList.flatMap escapedChar ++ ['"'])) := by
    unfold formatWwwAuthenticateAsap
    rw [escaped_chars,String.toList_ofList,List.append_assoc]
    rfl
  have found : search discoveryMatch (formatWwwAuthenticateAsap discoveryUrl).toList = some (discoveryUrl.toList.flatMap escapedChar) := by
    rw [written]
    show search discoveryMatch ('A' :: 'S' :: 'A' :: 'P' :: ' ' :: ("discovery=\"".toList ++ _)) = _
    rw [search_skip (discoveryMatch_elsewhere (by decide) _),search_skip (discoveryMatch_elsewhere (by decide) _),
      search_skip (discoveryMatch_elsewhere (by decide) _),search_skip (discoveryMatch_elsewhere (by decide) _),
      search_skip (discoveryMatch_elsewhere (by decide) _)]
    exact search_found (discoveryMatch_escaped discoveryUrl.toList)
  have scheme : hasScheme wide none (formatWwwAuthenticateAsap discoveryUrl).toList = true := by
    rw [written]
    exact hasScheme_format wide _
  have some : (formatWwwAuthenticateAsap discoveryUrl).toList.isEmpty = false := by
    rw [written]
    rfl
  unfold parseWwwAuthenticateAsap
  simp only [some,scheme,found,Bool.not_true,Bool.or_self,Bool.false_eq_true,if_false,Option.map_some,unescape_escaped,String.ofList_toList]

end Asap.Challenge
