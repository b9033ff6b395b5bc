import Asap.Metrics

-- The exported text as a scraper reads it: one sample a line, its labels between braces.
namespace Asap.MetricsText
open OrderedDict Metrics
variable {K : Type}

-- Letters, digits, underscores and colons make names; floats are written with points, signs and letters.
def isNameChar (c : Char) : Bool := c.isAlphanum || c == '_' || c == ':'
def isNumberChar (c : Char) : Bool := c.isAlphanum || c == '.' || c == '+' || c == '-'

-- Up to the closing quote, in the text format's escapes; a line has no line breaks in it.
def readValue : List Char → Option (List Char × List Char)
  | [] => none
  | '"' :: rest => some ([],rest)
  | '\\' :: '\\' :: rest => (readValue rest).map (fun read => ('\\' :: read.1,read.2))
  | '\\' :: '"' :: rest => (readValue rest).map (fun read => ('"' :: read.1,read.2))
  | '\\' :: 'n' :: rest => (readValue rest).map (fun read => ('\n' :: read.1,read.2))
  | '\\' :: _ => none
  | c :: rest => (readValue rest).map (fun read => (c :: read.1,read.2))

-- Each label has more than one character, so that the length of the text bounds their number.
def readItems : Nat → List Char → Option LabelKey
  | 0,_ => none
  | fuel + 1,text =>
    match text.dropWhile isNameChar with
    | '=' :: '"' :: quoted =>
      match readValue quoted with
      | some (value,'\x7d' :: _) => some [(String.ofList (text.takeWhile isNameChar),String.ofList value)]
      | some (value,',' :: rest) => (readItems fuel rest).map ((String.ofList (text.takeWhile isNameChar),String.ofList value) :: ·)
      | _ => none
    | _ => none

def readSample (text : List Char) : Option (String × LabelKey) :=
  match text.dropWhile isNameChar with
  | '\x7b' :: rest => (readItems rest.length rest).map (fun labels => (String.ofList (text.takeWhile isNameChar),labels))
  | ' ' :: _ => some (String.ofList (text.takeWhile isNameChar),[])
  | _ => none

-- What a sample is of.
def suffix : Series K → String
  | .value => ""
  | .bucket _ => "_bucket"
  | .sum => "_sum"
  | .count => "_count"

def shownLabels (texts : Texts K) (labels : LabelKey) : Series K → LabelKey
  | .bucket (some bound) => labels ++ [("le",texts.number (.number bound))]
  | .bucket none => labels ++ [("le","+Inf")]
  | _ => labels

-- A text that is a line of a document.
def OneLine (document text : List Char) : Prop :=
  '\n' ∉ text ∧ ∃ before after, document = before ++ text ++ '\n' :: after ∧ (before = [] ∨ before.getLast? = some '\n')

def Faithful (texts : Texts K) (document : List Char) : Line K → Prop
  | .sample name series labels amount =>
    OneLine document (Line.text texts (.sample name series labels amount)).toList ∧
      readSample (Line.text texts (.sample name series labels amount)).toList = some (name ++ suffix series,shownLabels texts labels series)
  | _ => True

structure Named (collector : MetricsCollector K) : Prop where
  counters : ∀ counter ∈ collector.counters.values, counter.name.toList.all isNameChar = true ∧
    ∀ key ∈ counter.values.keys, ∀ row ∈ key, row.1.toList.all isNameChar = true
  histograms : ∀ histogram ∈ collector.histograms.values, histogram.name.toList.all isNameChar = true ∧
    ∀ key ∈ histogram.values.keys, ∀ row ∈ key, row.1.toList.all isNameChar = true

structure Numeric (texts : Texts K) : Prop where
  number : ∀ value, (texts.number value).toList.all isNumberChar = true
  seconds : ∀ value, (texts.seconds value).toList.all isNumberChar = true

def labelKeys (collector : MetricsCollector K) : List LabelKey :=
  collector.counters.values.flatMap (fun counter => counter.values.keys) ++
    collector.histograms.values.flatMap (fun histogram => histogram.values.keys)

def Unbroken (labels : LabelKey) : Prop := ∀ row ∈ labels, '\n' ∉ row.2.toList

section Escaping
def escapedChar (c : Char) : List Char := if c = '\\' then ['\\','\\'] else if c = '"' then ['\\','"'] else [c]

theorem escaped_chars (value : String) : (escapeLabelValue value).toList = value.toList.flatMap escapedChar := by
  unfold escapeLabelValue replaceChar
  simp only [String.toList_ofList,List.flatMap_assoc]
  apply List.flatMap_congr
  intro c _
  unfold escapedChar
  split
  · rfl
  · exact List.flatMap_singleton ..

theorem readValue_escapedChar (c : Char) (rest : List Char) :
    readValue (escapedChar c ++ rest) = (readValue rest).map (fun read => (c :: read.1,read.2)) := by
  unfold escapedChar
  split
  · rename_i slash
    subst slash
    rfl
  · split
    · rename_i quote
      subst quote
      rfl
    · rename_i slash quote
      exact readValue.eq_7 c rest (by grind) (by grind) (by grind) (by grind) (by grind)

-- Reading is the way back from escaping.
theorem readValue_escaped (value rest : List Char) : readValue (value.flatMap escapedChar ++ '"' :: rest) = some (value,rest) := by
  induction value with
  | nil => rfl
  | cons c tail ih =>
    rw [List.flatMap_cons,List.append_assoc,readValue_escapedChar,ih]
    rfl

theorem mem_escaped {value : List Char} : '\n' ∈ value.flatMap escapedChar ↔ '\n' ∈ value := by
  have single (c : Char) : '\n' ∈ escapedChar c ↔ '\n' = c := by
    unfold escapedChar
    split
    · rename_i slash
      subst slash
      decide
    · split
      · rename_i quote
        subst quote
        decide
      · exact List.mem_singleton
  simp only [List.mem_flatMap,single,exists_eq_right']

-- Texts of numbers need no escapes.
theorem escaped_number {text : String} (number : text.toList.all isNumberChar = true) : escapeLabelValue text = text := by
  apply String.toList_injective
  rw [escaped_chars]
  conv_rhs => rw [← List.flatMap_singleton' text.toList]
  apply List.flatMap_congr
  intro c member
  have fine := List.all_eq_true.mp number c member
  unfold escapedChar
  rw [if_neg,if_neg]
  · rintro rfl
    cases fine
  · rintro rfl
    cases fine
end Escaping

section Labels
def labelChars (row : String × String) : List Char := row.1.toList ++ '=' :: '"' :: (row.2.toList.flatMap escapedChar ++ ['"'])

def itemsChars : LabelKey → List Char
  | [] => []
  | [row] => labelChars row
  | row :: next :: rest => labelChars row ++ ',' :: itemsChars (next :: rest)

theorem formatLabel_chars (row : String × String) : (formatLabel row).toList = labelChars row := by
  unfold formatLabel labelChars
  simp only [String.toList_append,escaped_chars,List.append_assoc]
  rfl

theorem formatLabels_chars (labels : LabelKey) : (formatLabels labels).toList = if labels = [] then [] else '\x7b' :: (itemsChars labels ++ ['\x7d']) := by
  have items : ∀ rows : LabelKey, (String.intercalate "," (rows.map formatLabel)).toList = itemsChars rows := by
    intro rows
    induction rows with
    | nil => rfl
    | cons row rest ih =>
      cases rest with
      | nil => simp [itemsChars,formatLabel_chars]
      | cons next rest =>
        rw [List.map_cons] at ih
        rw [List.map_cons,List.map_cons,String.intercalate_cons_cons,String.toList_append,String.toList_append,ih,formatLabel_chars,itemsChars,List.append_assoc]
        rfl
  unfold formatLabels
  split
  · rfl
  · rw [String.toList_append,String.toList_append,items]
    rfl

theorem name_reads {name : List Char} (named : name.all isNameChar = true) {c : Char} (other : isNameChar c = false) (rest : List Char) :
    (name ++ c :: rest).takeWhile isNameChar = name ∧ (name ++ c :: rest).dropWhile isNameChar = c :: rest := by
  have all := List.all_eq_true.mp named
  constructor
  · rw [List.takeWhile_append_of_pos all,List.takeWhile_cons_of_neg (Bool.eq_false_iff.mp other),List.append_nil]
  · rw [List.dropWhile_append_of_pos all,List.dropWhile_cons_of_neg (Bool.eq_false_iff.mp other)]

-- One label, and what stands after it.
theorem readItems_label {row : String × String} (named : row.1.toList.all isNameChar = true) (fuel : Nat) (rest : List Char) :
    readItems (fuel + 1) (labelChars row ++ '\x7d' :: rest) = some [row] ∧
      readItems (fuel + 1) (labelChars row ++ ',' :: rest) = (readItems fuel rest).map (row :: ·) := by
  have chars (tail : List Char) : labelChars row ++ tail = row.1.toList ++ '=' :: '"' :: (row.2.toList.flatMap escapedChar ++ '"' :: tail) := by
    simp [labelChars]
  have reads (tail : List Char) := name_reads named (show isNameChar '=' = false from rfl) ('"' :: (row.2.toList.flatMap escapedChar ++ '"' :: tail))
  constructor
  all_goals
    conv_lhs => unfold readItems
    rw [chars,(reads _).1,(reads _).2]
    simp only [readValue_escaped,String.ofList_toList]

theorem readItems_items (labels : LabelKey) (nonempty : labels ≠ []) (named : ∀ row ∈ labels, row.1.toList.all isNameChar = true) (fuel : Nat)
    (enough : labels.length ≤ fuel) (rest : List Char) : readItems fuel (itemsChars labels ++ '\x7d' :: rest) = some labels := by
  induction labels generalizing fuel with
  | nil => exact absurd rfl nonempty
  | cons row others ih =>
    cases fuel with
    | zero => cases enough
    | succ fuel =>
      cases others with
      | nil => exact (readItems_label (named row List.mem_cons_self) fuel rest).1
      | cons next others =>
        rw [itemsChars,List.append_assoc,List.cons_append,(readItems_label (named row List.mem_cons_self) fuel _).2,
          ih (List.cons_ne_nil _ _) (fun other member => named other (List.mem_cons_of_mem _ member)) fuel (Nat.le_of_succ_le_succ enough)]
        rfl

theorem itemsChars_length (labels : LabelKey) : labels.length ≤ (itemsChars labels).length := by
  have label (row : String × String) : 0 < (labelChars row).length := by
    simp only [labelChars,List.length_append,List.length_cons]
    omega
  induction labels with
  | nil => exact Nat.le_refl 0
  | cons row rest ih =>
    have some := label row
    cases rest with
    | nil => exact some
    | cons next rest =>
      rw [itemsChars,List.length_append,@List.length_cons _ row,@List.length_cons _ ',']
      omega

theorem mem_items (labels : LabelKey) (named : ∀ row ∈ labels, row.1.toList.all isNameChar = true) :
    '\n' ∈ itemsChars labels ↔ ∃ row ∈ labels, '\n' ∈ row.2.toList := by
  have label (row : String × String) (fine : row.1.toList.all isNameChar = true) : '\n' ∈ labelChars row ↔ '\n' ∈ row.2.toList := by
    have outside : '\n' ∉ row.1.toList := by
      intro inside
      cases List.all_eq_true.mp fine _ inside
    simp only [labelChars,List.mem_append,List.mem_cons,List.mem_nil_iff,mem_escaped,outside,false_or,or_false]
    simp
  induction labels with
  | nil => simp [itemsChars]
  | cons row rest ih =>
    have later := ih (fun other member => named other (List.mem_cons_of_mem _ member))
    cases rest with
    | nil => simp [itemsChars,label row (named row List.mem_cons_self)]
    | cons next rest =>
      rw [itemsChars,List.mem_append,List.mem_cons,label row (named row List.mem_cons_self)]
      simp [later]
end Labels

section Samples
-- Every sample is a name, its labels and a number.
theorem sample_text (texts : Texts K) (numeric : Numeric texts) (name : String) (series : Series K) (labels : LabelKey) (amount : Amount K) :
    (Line.text texts (.sample name series labels amount)).toList =
      (name ++ suffix series).toList ++ ((formatLabels (shownLabels texts labels series)).toList ++ ' ' :: (amount.text texts).toList) := by
  have shown : series.text texts (formatLabels labels) = suffix series ++ formatLabels (shownLabels texts labels series) := by
    cases series with
    | value => exact (String.empty_append).symm
    | bucket le =>
      cases le with
      | none => exact congrArg ("_bucket" ++ ·) (insertLe_last labels "+Inf" (escaped_number (by decide)))
      | some bound => exact congrArg ("_bucket" ++ ·) (insertLe_last labels _ (escaped_number (numeric.number _)))
    | sum => rfl
    | count => rfl
  show (name ++ series.text texts (formatLabels labels) ++ " " ++ amount.text texts).toList = _
  rw [shown]
  simp only [String.toList_append,List.append_assoc]
  rfl

theorem no_newline {p : Char → Bool} (outside : p '\n' = false) {text : List Char} (all : text.all p = true) : '\n' ∉ text := by
  intro inside
  rw [List.all_eq_true.mp all _ inside] at outside
  cases outside

theorem suffix_name (series : Series K) : (suffix series).toList.all isNameChar = true := by
  cases series with
  | value => rfl
  | bucket le => exact (by decide : "_bucket".toList.all isNameChar = true)
  | sum => exact (by decide : "_sum".toList.all isNameChar = true)
  | count => exact (by decide : "_count".toList.all isNameChar = true)

theorem amount_number (texts : Texts K) (numeric : Numeric texts) (amount : Amount K) : (amount.text texts).toList.all isNumberChar = true := by
  cases amount with
  | zero => exact (by decide : "0".toList.all isNumberChar = true)
  | counted count => exact numeric.number _
  | float value => exact numeric.number _
  | seconds value => exact numeric.seconds _

theorem shownLabels_named (texts : Texts K) {labels : LabelKey} (named : ∀ row ∈ labels, row.1.toList.all isNameChar = true) (series : Series K) :
    ∀ row ∈ shownLabels texts labels series, row.1.toList.all isNameChar = true := by
  have longer (le : String) : ∀ row ∈ labels ++ [("le",le)], row.1.toList.all isNameChar = true := by
    intro row member
    rcases List.mem_append.mp member with inside | last
    · exact named row inside
    · rw [List.mem_singleton.mp last]
      exact (by decide : "le".toList.all isNameChar = true)
  cases series with
  | value => exact named
  | bucket le =>
    cases le with
    | none => exact longer _
    | some bound => exact longer _
  | sum => exact named
  | count => exact named

-- The bounds of buckets hold no line breaks.
theorem shownLabels_broken (texts : Texts K) (numeric : Numeric texts) (labels : LabelKey) (series : Series K) :
    (∃ row ∈ shownLabels texts labels series, '\n' ∈ row.2.toList) ↔ ∃ row ∈ labels, '\n' ∈ row.2.toList := by
  have longer (le : String) (number : le.toList.all isNumberChar = true) :
      (∃ row ∈ labels ++ [("le",le)], '\n' ∈ row.2.toList) ↔ ∃ row ∈ labels, '\n' ∈ row.2.toList := by
    have unbroken := no_newline (by decide) number
    simp [or_and_right,exists_or,unbroken]
  cases series with
  | value => rfl
  | bucket le =>
    cases le with
    | none => exact longer _ (by decide)
    | some bound => exact longer _ (numeric.number _)
  | sum => rfl
  | count => rfl

theorem sample_read (texts : Texts K) (numeric : Numeric texts) {name : String} {labels : LabelKey} (named : name.toList.all isNameChar = true)
    (rows : ∀ row ∈ labels, row.1.toList.all isNameChar = true) (series : Series K) (amount : Amount K) :
    readSample (Line.text texts (.sample name series labels amount)).toList = some (name ++ suffix series,shownLabels texts labels series) := by
  have whole : (name ++ suffix series).toList.all isNameChar = true := by
    rw [String.toList_append,List.all_append,named,suffix_name]
    rfl
  rw [sample_text texts numeric,formatLabels_chars]
  unfold readSample
  by_cases none : shownLabels texts labels series = []
  · obtain ⟨taken,left⟩ := name_reads whole (show isNameChar ' ' = false from rfl) (amount.text texts).toList
    rw [if_pos none,List.nil_append,taken,left,none,String.ofList_toList]
    rfl
  · have opened : ('\x7b' :: (itemsChars (shownLabels texts labels series) ++ ['\x7d']) ++ ' ' :: (amount.text texts).toList) =
        '\x7b' :: (itemsChars (shownLabels texts labels series) ++ '\x7d' :: ' ' :: (amount.text texts).toList) := by simp
    obtain ⟨taken,left⟩ := name_reads whole (show isNameChar '\x7b' = false from rfl)
      (itemsChars (shownLabels texts labels series) ++ '\x7d' :: ' ' :: (amount.text texts).toList)
    have enough : (shownLabels texts labels series).length ≤
        (itemsChars (shownLabels texts labels series) ++ '\x7d' :: ' ' :: (amount.text texts).toList).length :=
      (itemsChars_length _).trans (by simp)
    rw [if_neg none,opened,taken,left]
    simp only [readItems_items _ none (shownLabels_named texts rows series) _ enough,Option.map_some,String.ofList_toList]

theorem sample_broken (texts : Texts K) (numeric : Numeric texts) {name : String} {labels : LabelKey} (named : name.toList.all isNameChar = true)
    (rows : ∀ row ∈ labels, row.1.toList.all isNameChar = true) (series : Series K) (amount : Amount K) :
    '\n' ∈ (Line.text texts (.sample name series labels amount)).toList ↔ ¬Unbroken labels := by
  have front := no_newline (show isNameChar '\n' = false from rfl) named
  have back := no_newline (show isNameChar '\n' = false from rfl) (suffix_name series)
  have last := no_newline (show isNumberChar '\n' = false from rfl) (amount_number texts numeric amount)
  have inside : '\n' ∈ (formatLabels (shownLabels texts labels series)).toList ↔ ∃ row ∈ labels, '\n' ∈ row.2.toList := by
    rw [← shownLabels_broken texts numeric labels series,← mem_items _ (shownLabels_named texts rows series),formatLabels_chars]
    split
    · rename_i none
      rw [none]
      rfl
    · simp
  rw [sample_text texts numeric]
  simp only [String.toList_append,List.mem_append,List.mem_cons,front,back,last,inside,Unbroken]
  simp
end Samples

section Document
theorem document_chars (rows : List String) (nonempty : rows ≠ []) :
    (String.intercalate "\n" rows ++ "\n").toList = rows.flatMap (fun row => row.toList ++ ['\n']) := by
  induction rows with
  | nil => exact absurd rfl nonempty
  | cons row rest ih =>
    cases rest with
    | nil => simp
    | cons next rest =>
      rw [List.flatMap_cons,← ih (List.cons_ne_nil _ _),String.intercalate_cons_cons]
      simp

-- Every text without a line break is a line.
theorem line_of_member {rows : List String} {row : String} (member : row ∈ rows) (unbroken : '\n' ∉ row.toList) :
    OneLine (rows.flatMap (fun row => row.toList ++ ['\n'])) row.toList := by
  obtain ⟨before,after,rfl⟩ := List.append_of_mem member
  refine ⟨unbroken,before.flatMap (fun row => row.toList ++ ['\n']),after.flatMap (fun row => row.toList ++ ['\n']),?_,?_⟩
  · rw [List.flatMap_append,List.flatMap_cons]
    simp
  · rcases List.eq_nil_or_concat before with rfl | ⟨front,last,rfl⟩
    · exact .inl rfl
    · rw [List.concat_eq_append,List.flatMap_append,List.flatMap_singleton,← List.append_assoc]
      exact .inr List.getLast?_concat
end Document

section Collector
theorem counterLines_sample {counter : Counter K} {name : String} {series : Series K} {labels : LabelKey} {amount : Amount K}
    (member : Line.sample name series labels amount ∈ counter.lines) : name = counter.name ∧ (labels = [] ∨ labels ∈ counter.values.keys) := by
  rcases List.mem_append.mp member with comment | sample
  · simp only [comments,List.mem_cons,List.not_mem_nil,or_false] at comment
    rcases comment with same | same <;> cases same
  · split at sample
    · cases List.mem_singleton.mp sample
      exact ⟨rfl,.inl rfl⟩
    · obtain ⟨row,stored,same⟩ := List.mem_map.mp sample
      cases same
      exact ⟨rfl,.inr (List.mem_map_of_mem stored)⟩

variable [LinearOrder K]

theorem dataLines_sample {name other : String} {bounds : List K} {key labels : LabelKey} {data : Data K} {series : Series K} {amount : Amount K}
    (member : Line.sample other series labels amount ∈ data.lines name bounds key) : other = name ∧ labels = key := by
  rcases List.mem_append.mp member with bucket | last
  · obtain ⟨row,_,same⟩ := List.mem_map.mp bucket
    cases same
    exact ⟨rfl,rfl⟩
  · simp only [List.mem_cons,List.not_mem_nil,or_false] at last
    rcases last with same | same | same <;> cases same <;> exact ⟨rfl,rfl⟩

theorem histogramLines_sample {histogram : Histogram K} {name : String} {series : Series K} {labels : LabelKey} {amount : Amount K}
    (member : Line.sample name series labels amount ∈ histogram.lines) :
    name = histogram.name ∧ (labels = [] ∨ labels ∈ histogram.values.keys) := by
  rcases List.mem_append.mp member with comment | sample
  · simp only [comments,List.mem_cons,List.not_mem_nil,or_false] at comment
    rcases comment with same | same <;> cases same
  · split at sample
    · rcases List.mem_append.mp sample with bucket | last
      · obtain ⟨bound,_,same⟩ := List.mem_map.mp bucket
        cases same
        exact ⟨rfl,.inl rfl⟩
      · simp only [List.mem_cons,List.not_mem_nil,or_false] at last
        rcases last with same | same | same <;> cases same <;> exact ⟨rfl,.inl rfl⟩
    · obtain ⟨row,stored,inside⟩ := List.mem_flatMap.mp sample
      obtain ⟨same,key⟩ := dataLines_sample inside
      exact ⟨same,.inr (key ▸ List.mem_map_of_mem stored)⟩

variable (collector : MetricsCollector K) (uptime : Value K)

-- Where the samples' labels come from.
theorem sample_source (named : Named collector) {name : String} {series : Series K} {labels : LabelKey} {amount : Amount K}
    (member : Line.sample name series labels amount ∈ collector.lines uptime) :
    name.toList.all isNameChar = true ∧ (labels = [] ∨ labels ∈ labelKeys collector) ∧ ∀ row ∈ labels, row.1.toList.all isNameChar = true := by
  have nothing : ∀ row ∈ ([] : LabelKey), row.1.toList.all isNameChar = true := fun _ inside => by cases inside
  rcases List.mem_append.mp member with earlier | last
  · rcases List.mem_append.mp earlier with metrics | comment
    · rcases List.mem_append.mp metrics with counted | observed
      · obtain ⟨counter,stored,inside⟩ := List.mem_flatMap.mp counted
        obtain ⟨fine,keys⟩ := named.counters counter stored
        obtain ⟨rfl,rfl | key⟩ := counterLines_sample inside
        · exact ⟨fine,.inl rfl,nothing⟩
        · exact ⟨fine,.inr (List.mem_append_left _ (List.mem_flatMap.mpr ⟨counter,stored,key⟩)),keys labels key⟩
      · obtain ⟨histogram,stored,inside⟩ := List.mem_flatMap.mp observed
        obtain ⟨fine,keys⟩ := named.histograms histogram stored
        obtain ⟨rfl,rfl | key⟩ := histogramLines_sample inside
        · exact ⟨fine,.inl rfl,nothing⟩
        · exact ⟨fine,.inr (List.mem_append_right _ (List.mem_flatMap.mpr ⟨histogram,stored,key⟩)),keys labels key⟩
    · simp only [comments,List.mem_cons,List.not_mem_nil,or_false] at comment
      rcases comment with same | same <;> cases same
  · cases List.mem_singleton.mp last
    exact ⟨by decide,.inl rfl,nothing⟩

-- Every stored label set is that of a sample.
theorem sample_exists {labels : LabelKey} (stored : labels ∈ labelKeys collector) :
    ∃ name series amount, Line.sample name series labels amount ∈ collector.lines uptime := by
  have filled {α : Type} {values : Dict LabelKey α} {row : LabelKey × α} (member : row ∈ values.entries) : ¬values.entries.isEmpty = true := by
    intro empty
    rw [List.isEmpty_iff.mp empty] at member
    cases member
  rcases List.mem_append.mp stored with counted | observed
  · obtain ⟨counter,member,key⟩ := List.mem_flatMap.mp counted
    obtain ⟨row,entry,rfl⟩ := List.mem_map.mp key
    have line : Line.sample counter.name .value row.1 (.float row.2) ∈ counter.lines := by
      unfold Counter.lines
      rw [if_neg (filled entry)]
      exact List.mem_append_right _ (List.mem_map_of_mem entry)
    exact ⟨_,_,_,List.mem_append_left _ (List.mem_append_left _ (List.mem_append_left _ (List.mem_flatMap.mpr ⟨counter,member,line⟩)))⟩
  · obtain ⟨histogram,member,key⟩ := List.mem_flatMap.mp observed
    obtain ⟨row,entry,rfl⟩ := List.mem_map.mp key
    have line : Line.sample histogram.name .sum row.1 (.float row.2.sum) ∈ histogram.lines := by
      unfold Histogram.lines
      rw [if_neg (filled entry)]
      apply List.mem_append_right
      apply List.mem_flatMap.mpr ⟨row,entry,_⟩
      apply List.mem_append_right
      exact List.mem_cons_of_mem _ List.mem_cons_self
    exact ⟨_,_,_,List.mem_append_left _ (List.mem_append_left _ (List.mem_append_right _ (List.mem_flatMap.mpr ⟨histogram,member,line⟩)))⟩

-- Each sample has its line, and its labels can be read back from it, exactly where no label value has a line break.
theorem export_faithful (texts : Texts K) (numeric : Numeric texts) (named : Named collector) :
    (∀ line ∈ collector.lines uptime, Faithful texts (exportPrometheus texts collector uptime).toList line) ↔
      ∀ labels ∈ labelKeys collector, Unbroken labels := by
  constructor
  · intro faithful labels stored
    obtain ⟨name,series,amount,member⟩ := sample_exists collector uptime stored
    obtain ⟨fine,-,rows⟩ := sample_source collector uptime named member
    exact Classical.byContradiction (fun broken =>
      (faithful _ member).1.1 ((sample_broken texts numeric fine rows series amount).mpr broken))
  · intro unbroken line member
    cases line with
    | help => trivial
    | type => trivial
    | sample name series labels amount =>
      obtain ⟨fine,origin,rows⟩ := sample_source collector uptime named member
      have whole : Unbroken labels := by
        rcases origin with rfl | stored
        · exact fun _ inside => by cases inside
        · exact unbroken labels stored
      have nonempty : (collector.lines uptime).map (Line.text texts) ≠ [] := by
        rw [ne_eq,List.map_eq_nil_iff]
        exact List.ne_nil_of_mem member
      refine ⟨?_,sample_read texts numeric fine rows series amount⟩
      unfold exportPrometheus
      rw [document_chars _ nonempty]
      exact line_of_member (List.mem_map_of_mem member) (fun inside => (sample_broken texts numeric fine rows series amount).mp inside whole)
end Collector

-- Whole numbers as floats.
def wholeFloats : Floats Nat where
  plus left right :=
    match left,right with
    | .number a,.number b => .number (a + b)
    | _,_ => .nan
  zero := .number 0

def wholeText : Value Nat → String
  | .nan => "nan"
  | .number value => toString value ++ ".0"

def wholeTexts : Texts Nat where
  number := wholeText
  seconds value := wholeText value ++ "00"
  ofNat := .number

theorem wholeTexts_numeric : Numeric wholeTexts := by
  have text (value : Value Nat) : (wholeText value).toList.all isNumberChar = true := by
    cases value with
    | nan => exact (by decide : "nan".toList.all isNumberChar = true)
    | number n =>
      have digits : (toString n).toList.all isNumberChar = true := by
        rw [List.all_eq_true]
        intro c member
        have inside : c ∈ Nat.toDigits 10 n := by simpa [Nat.toString_eq_repr] using member
        have digit : c.isDigit = true := Nat.isDigit_of_mem_toDigits (by omega) (by omega) inside
        simp [isNumberChar,Char.isAlphanum,digit]
      show (toString n ++ ".0").toList.all isNumberChar = true
      rw [String.toList_append,List.all_append,digits]
      decide
  refine ⟨text,?_⟩
  intro value
  show (wholeText value ++ "00").toList.all isNumberChar = true
  rw [String.toList_append,List.all_append,text value]
  decide

def counted (payloadType : String) : MetricsCollector Nat :=
  .run wholeFloats .init [.registerCounter "asap_requests_total" "Requests",
    .incrementCounter "asap_requests_total" (some ⟨[("payload_type",payloadType)],List.nodup_singleton _⟩) (.number 1)]

theorem counted_keys (payloadType : String) : labelKeys (counted payloadType) = [[("payload_type",payloadType)]] := rfl

theorem counted_named (payloadType : String) : Named (counted payloadType) where
  counters := by
    intro counter member
    cases List.mem_singleton.mp member
    refine ⟨(by decide : "asap_requests_total".toList.all isNameChar = true),?_⟩
    intro key stored row inside
    cases List.mem_singleton.mp stored
    cases List.mem_singleton.mp inside
    exact (by decide : "payload_type".toList.all isNameChar = true)
  histograms := by
    intro histogram member
    cases member

theorem export_faithful_quoted :
    (∀ line ∈ (counted "a\\\"b").lines (.number 5),
        Faithful wholeTexts (exportPrometheus wholeTexts (counted "a\\\"b") (.number 5)).toList line) ↔
      ∀ labels ∈ labelKeys (counted "a\\\"b"), Unbroken labels :=
  export_faithful _ _ wholeTexts wholeTexts_numeric (counted_named _)

-- A payload type of two lines.
theorem export_broken :
    ¬∀ line ∈ (counted "a\nb").lines (.number 5), Faithful wholeTexts (exportPrometheus wholeTexts (counted "a\nb") (.number 5)).toList line := by
  intro faithful
  have stored : [("payload_type","a\nb")] ∈ labelKeys (counted "a\nb") := List.mem_singleton_self _
  obtain ⟨name,series,amount,member⟩ := sample_exists _ (.number 5) stored
  obtain ⟨fine,-,rows⟩ := sample_source _ _ (counted_named _) member
  have broken : ¬Unbroken [("payload_type","a\nb")] := fun whole => whole _ List.mem_cons_self (by decide)
  exact (faithful _ member).1.1 ((sample_broken wholeTexts wholeTexts_numeric fine rows series amount).mpr broken)

end Asap.MetricsText
