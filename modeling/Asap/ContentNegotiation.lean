import Asap.OrderedDict
import Asap.PythonValue
import Mathlib.Algebra.Order.Ring.Rat
import Mathlib.Order.WithBot

-- `select_best_encoding`: what an Accept-Encoding header allows, and what is picked from it.
namespace Asap.ContentNegotiation
open OrderedDict PythonValue

inductive CompressionAlgorithm where
  | gzip
  | brotli
  | identity
  deriving DecidableEq

def CompressionAlgorithm.value : CompressionAlgorithm → String
  | .gzip => "gzip"
  | .brotli => "br"
  | .identity => "identity"

-- A quality: the floats in their order, and `⊥` for NaN, which no number is below.
abbrev Quality (K : Type) := WithBot K

-- `str.lower` and `float` (`none` is its ValueError), and `list.sort` by falling quality: some order of
-- the rows, and the stable one where all the qualities compare.
def higher {K : Type} [LinearOrder K] (left right : String × Quality K) : Bool := decide (right.2 ≤ left.2)

structure Python (K : Type) [LinearOrder K] where
  lower : String → String
  float : String → Option (Quality K)

structure Sorting (K : Type) [LinearOrder K] where
  sort : List (String × Quality K) → List (String × Quality K)
  perm : ∀ rows, (sort rows).Perm rows
  stable : ∀ rows, (∀ row ∈ rows, row.2 ≠ ⊥) → sort rows = rows.mergeSort higher

-- `text.split(mark,1)`, none where the mark is not in the text.
def cut (mark : List Char) : List Char → Option (List Char × List Char)
  | [] => none
  | c :: rest =>
    if mark.isPrefixOf (c :: rest) then some ([],(c :: rest).drop mark.length)
    else (cut mark rest).map (fun (before,after) => (c :: before,after))

section Select
variable {K : Type} [LinearOrder K] [Zero K] [One K] (python : Python K) (brotliAvailable : Bool)

def readPart (part : List Char) : Option (String × Quality K) :=
  let part := strip (String.ofList part)
  if part = "" then none
  else
    let (encoding,quality) := match cut ";q=".toList (python.lower part).toList with
      | some (encoding,q) => (String.ofList encoding,(python.float (String.ofList q)).getD ((1 : K) : Quality K))
      | none => (python.lower part,((1 : K) : Quality K))
    if strip encoding = "" then none else some (strip encoding,quality)

-- A name that comes again keeps its place and takes the new quality.
def encodings (header : String) : Dict String (Quality K) := fill ((header.toList.splitOn ',').filterMap (readPart python))

def getSupportedEncodings : List String := if brotliAvailable then ["br","gzip"] else ["gzip"]

def candidates (header : String) : List (String × Quality K) :=
  (encodings python header).entries.filter (fun row => decide (row.1 ∈ getSupportedEncodings brotliAvailable ∨ row.1 = "identity"))

def selectBestEncoding (sorting : Sorting K) (acceptEncoding : Option String) : CompressionAlgorithm :=
  match acceptEncoding with
  | none => .identity
  | some header =>
    if header = "" then .identity
    else match sorting.sort (candidates python brotliAvailable header) with
      | [] => .identity
      | (best,_) :: _ =>
        if best = "br" ∧ brotliAvailable = true then .brotli
        else if best = "gzip" then .gzip
        else .identity

-- What a header says of an encoding: its own quality, else that of `*`. Without a header nothing is said.
def quality (acceptEncoding : Option String) (encoding : String) : Option (Quality K) :=
  acceptEncoding.bind (fun header => ((encodings python header).get encoding).or ((encodings python header).get "*"))

def Allows (acceptEncoding : Option String) (encoding : String) : Prop :=
  ∃ q, quality python acceptEncoding encoding = some q ∧ ((0 : K) : Quality K) < q

def NothingAllowed (acceptEncoding : Option String) : Prop :=
  ∀ encoding ∈ getSupportedEncodings brotliAvailable, ¬ Allows python acceptEncoding encoding

-- An encoding that the header allows, or identity where it allows none of the others.
def Respects (acceptEncoding : Option String) (selected : CompressionAlgorithm) : Prop :=
  Allows python acceptEncoding selected.value ∨ (selected = .identity ∧ NothingAllowed python brotliAvailable acceptEncoding)

-- Identity is listed first among the highest qualities, all of which compare.
def IdentityFirst (rows : List (String × Quality K)) : Prop :=
  ∃ before q after, rows = before ++ ("identity",q) :: after ∧
    (∀ row ∈ before, row.2 < q) ∧ (∀ row ∈ after, row.2 ≠ ⊥ ∧ row.2 ≤ q) ∧ ∀ row ∈ before, row.2 ≠ ⊥

-- No encoding that could be picked is listed; or one is listed with a positive quality and no NaN
-- beside it; or identity comes first and nothing is allowed.
def Negotiable (acceptEncoding : Option String) : Prop :=
  let rows := (acceptEncoding.map (candidates python brotliAvailable)).getD []
  rows = [] ∨ ((∀ row ∈ rows, row.2 ≠ ⊥) ∧ ∃ row ∈ rows, ((0 : K) : Quality K) < row.2) ∨
    (IdentityFirst rows ∧ NothingAllowed python brotliAvailable acceptEncoding)
end Select

section Sorted
variable {K : Type} [LinearOrder K]

theorem higher_trans (a b c : String × Quality K) (ab : higher a b = true) (bc : higher b c = true) : higher a c = true := by
  simp only [higher,decide_eq_true_eq] at ab bc ⊢
  exact bc.trans ab

theorem higher_total (a b : String × Quality K) : (higher a b || higher b a) = true := by
  simp only [higher,Bool.or_eq_true,decide_eq_true_eq]
  exact le_total b.2 a.2

-- A row before the first of the sorted rows has less quality: a row of the same one would have stayed before it.
theorem before_first {rows tail : List (String × Quality K)} {row first : String × Quality K} (distinct : rows.Nodup)
    (sorted : rows.mergeSort higher = first :: tail) (pair : [row,first].Sublist rows) : row.2 < first.2 := by
  have perm : (first :: tail).Perm rows := sorted ▸ List.mergeSort_perm rows higher
  have alone : first ∉ tail := (List.nodup_cons.mp (perm.nodup_iff.mpr distinct)).1
  by_contra level
  have kept := List.pair_sublist_mergeSort higher_trans higher_total (by simpa [higher] using level) pair
  rw [sorted] at kept
  have again : [first].Sublist tail := by
    cases kept with
    | cons _ rest => exact (List.sublist_cons_self row [first]).trans rest
    | cons_cons _ rest => exact rest
  exact alone (List.singleton_sublist.mp again)

theorem first_highest {rows tail : List (String × Quality K)} {first : String × Quality K}
    (sorted : rows.mergeSort higher = first :: tail) : first ∈ rows ∧ ∀ row ∈ rows, row.2 ≤ first.2 := by
  have perm : (first :: tail).Perm rows := sorted ▸ List.mergeSort_perm rows higher
  have ordered : (first :: tail).Pairwise (fun a b => higher a b = true) := sorted ▸ List.pairwise_mergeSort higher_trans higher_total rows
  refine ⟨perm.subset List.mem_cons_self,?_⟩
  intro row inside
  rcases List.mem_cons.mp (perm.symm.subset inside) with same | later
  · rw [same]
  · simpa [higher] using (List.pairwise_cons.mp ordered).1 row later

def stableSort : Sorting K where
  sort rows := rows.mergeSort higher
  perm rows := List.mergeSort_perm rows higher
  stable _ _ := rfl

-- Rows that do not all compare may come in any order.
def sortedAs (rows order : List (String × Quality K)) (perm : order.Perm rows) (unordered : ∃ row ∈ rows, row.2 = ⊥) : Sorting K where
  sort other := if other = rows then order else other.mergeSort higher
  perm other := by
    split
    · rename_i same
      rw [same]
      exact perm
    · exact List.mergeSort_perm other higher
  stable other known := by
    obtain ⟨row,member,unknown⟩ := unordered
    rw [if_neg]
    intro same
    exact known row (same ▸ member) unknown

theorem identity_sorted {rows : List (String × Quality K)} (distinct : rows.Nodup) (identity : IdentityFirst rows) (sorting : Sorting K) :
    ∃ q tail, sorting.sort rows = ("identity",q) :: tail := by
  obtain ⟨before,q,after,split,lower,upper,known⟩ := identity
  by_cases unknown : q = ⊥
  · have none : before = [] := List.eq_nil_iff_forall_not_mem.mpr (fun row inside => absurd (lower row inside) (by simp [unknown]))
    have alone : after = [] := List.eq_nil_iff_forall_not_mem.mpr (fun row inside =>
      (upper row inside).1 (le_bot_iff.mp ((upper row inside).2.trans_eq unknown)))
    rw [none,alone] at split
    exact ⟨q,[],List.perm_singleton.mp (split ▸ sorting.perm rows)⟩
  · have compare : ∀ row ∈ rows, row.2 ≠ ⊥ := by
      intro row inside
      rw [split] at inside
      rcases List.mem_append.mp inside with earlier | later
      · exact known row earlier
      · rcases List.mem_cons.mp later with same | later
        · rw [same]
          exact unknown
        · exact (upper row later).1
    rw [sorting.stable rows compare]
    cases sorted : rows.mergeSort higher with
    | nil =>
      have empty : rows = [] := (sorted ▸ List.mergeSort_perm rows higher : [].Perm rows).symm.eq_nil
      rw [empty] at split
      cases before <;> cases split
    | cons first tail =>
      obtain ⟨member,highest⟩ := first_highest sorted
      have best : q ≤ first.2 := highest ("identity",q) (by simp [split])
      rw [split] at member
      rcases List.mem_append.mp member with earlier | later
      · exact absurd (lower first earlier) (not_lt.mpr best)
      · rcases List.mem_cons.mp later with same | later
        · exact ⟨q,tail,by rw [same]⟩
        · have pair : [("identity",q),first].Sublist rows := by
            rw [split]
            exact (List.Sublist.cons_cons _ (List.singleton_sublist.mpr later)).trans (List.sublist_append_right _ _)
          exact absurd (before_first distinct sorted pair) (not_lt.mpr (upper first later).2)

theorem identity_first {rows tail : List (String × Quality K)} {q : Quality K} (distinct : rows.Nodup) (known : ∀ row ∈ rows, row.2 ≠ ⊥)
    (sorted : rows.mergeSort higher = ("identity",q) :: tail) : IdentityFirst rows := by
  obtain ⟨member,highest⟩ := first_highest sorted
  obtain ⟨before,after,split⟩ := List.append_of_mem member
  refine ⟨before,q,after,split,?_,?_,fun row inside => known row (by simp [split,inside])⟩
  · intro row inside
    refine before_first distinct sorted ?_
    rw [split]
    exact (List.singleton_sublist.mpr inside).append (List.singleton_sublist.mpr List.mem_cons_self)
  · exact fun row inside => ⟨known row (by simp [split,inside]),highest row (by simp [split,inside])⟩
end Sorted

section Negotiated
variable {K : Type} [LinearOrder K] [One K] {python : Python K} {brotliAvailable : Bool} {header : String} {sorting : Sorting K}

theorem candidates_distinct : ((candidates python brotliAvailable header).map Prod.fst).Nodup :=
  (List.filter_sublist.map Prod.fst).nodup (encodings python header).distinct

theorem candidates_nodup : (candidates python brotliAvailable header).Nodup := candidates_distinct.of_map Prod.fst

theorem mem_candidates {row : String × Quality K} : row ∈ candidates python brotliAvailable header ↔
    (encodings python header).get row.1 = some row.2 ∧ (row.1 ∈ getSupportedEncodings brotliAvailable ∨ row.1 = "identity") := by
  simp only [candidates,List.mem_filter,decide_eq_true_eq]
  exact and_congr_left (fun _ => (encodings python header).mem_iff)

theorem quality_listed {row : String × Quality K} (listed : row ∈ candidates python brotliAvailable header) :
    quality python (some header) row.1 = some row.2 := by
  simp [quality,(mem_candidates.mp listed).1]

theorem quality_unlisted (brotliAvailable : Bool) {encoding : String} (named : encoding ∈ getSupportedEncodings brotliAvailable ∨ encoding = "identity")
    (unlisted : ∀ q, (encoding,q) ∉ candidates python brotliAvailable header) :
    quality python (some header) encoding = (encodings python header).get "*" := by
  have absent : (encodings python header).get encoding = none := by
    cases found : (encodings python header).get encoding with
    | none => rfl
    | some q => exact absurd (mem_candidates.mpr ⟨found,named⟩) (unlisted q)
  simp [quality,absent]

-- What is picked is the name of the first row.
theorem select_value {first : String × Quality K} {tail : List (String × Quality K)} (named : header ≠ "")
    (sorted : sorting.sort (candidates python brotliAvailable header) = first :: tail) :
    (selectBestEncoding python brotliAvailable sorting (some header)).value = first.1 := by
  have listed : first ∈ candidates python brotliAvailable header := (sorting.perm _).subset (sorted ▸ List.mem_cons_self)
  simp only [selectBestEncoding,if_neg named,sorted]
  rcases (mem_candidates.mp listed).2 with supported | identity
  · unfold getSupportedEncodings at supported
    cases brotliAvailable with
    | true =>
      rcases List.mem_cons.mp supported with brotli | rest
      · simp [brotli,CompressionAlgorithm.value]
      · simp [List.mem_singleton.mp rest,CompressionAlgorithm.value]
    | false => simp [List.mem_singleton.mp supported,CompressionAlgorithm.value]
  · simp [identity,CompressionAlgorithm.value]

theorem value_identity {selected : CompressionAlgorithm} : selected.value = "identity" ↔ selected = .identity := by
  cases selected <;> decide

theorem select_unlisted (unlisted : candidates python brotliAvailable header = []) :
    selectBestEncoding python brotliAvailable sorting (some header) = .identity := by
  have sorted : sorting.sort (candidates python brotliAvailable header) = [] := by
    rw [unlisted]
    exact (sorting.perm []).eq_nil
  simp [selectBestEncoding,sorted]

section Allowed
variable [Zero K]

theorem allows_listed {row : String × Quality K} (listed : row ∈ candidates python brotliAvailable header) :
    Allows python (some header) row.1 ↔ ((0 : K) : Quality K) < row.2 := by
  simp [Allows,quality_listed listed]

-- Where nothing could be picked, `*` speaks for identity as for the others.
theorem respects_unlisted (unlisted : candidates python brotliAvailable header = []) :
    Respects python brotliAvailable (some header) .identity := by
  have none : ∀ encoding q, (encoding,q) ∉ candidates python brotliAvailable header := by simp [unlisted]
  by_cases allowed : Allows python (some header) "identity"
  · exact .inl allowed
  · refine .inr ⟨rfl,?_⟩
    intro encoding supported
    unfold Allows at allowed ⊢
    rw [quality_unlisted brotliAvailable (.inr rfl) (none "identity")] at allowed
    rwa [quality_unlisted brotliAvailable (.inl supported) (none encoding)]

theorem respects_first (sorting : Sorting K) {first : String × Quality K} {tail : List (String × Quality K)} (named : header ≠ "")
    (sorted : sorting.sort (candidates python brotliAvailable header) = first :: tail) :
    Respects python brotliAvailable (some header) (selectBestEncoding python brotliAvailable sorting (some header)) ↔
      ((0 : K) : Quality K) < first.2 ∨ (first.1 = "identity" ∧ NothingAllowed python brotliAvailable (some header)) := by
  have listed : first ∈ candidates python brotliAvailable header := (sorting.perm _).subset (sorted ▸ List.mem_cons_self)
  have value := select_value named sorted
  rw [Respects,value,allows_listed listed,← value_identity,value]

theorem negotiable_respects (sorting : Sorting K) (named : header ≠ "") (negotiable : Negotiable python brotliAvailable (some header)) :
    Respects python brotliAvailable (some header) (selectBestEncoding python brotliAvailable sorting (some header)) := by
  cases sorted : sorting.sort (candidates python brotliAvailable header) with
  | nil =>
    have unlisted := (sorted ▸ sorting.perm _ : [].Perm (candidates python brotliAvailable header)).symm.eq_nil
    rw [select_unlisted unlisted]
    exact respects_unlisted unlisted
  | cons first tail =>
    refine (respects_first sorting named sorted).mpr ?_
    rcases negotiable with unlisted | ⟨known,row,listed,positive⟩ | ⟨identity,nothing⟩
    · have unlisted : candidates python brotliAvailable header = [] := unlisted
      rw [unlisted,(sorting.perm []).eq_nil] at sorted
      cases sorted
    · have compare : ∀ row ∈ candidates python brotliAvailable header, row.2 ≠ ⊥ := known
      rw [sorting.stable _ compare] at sorted
      exact .inl (positive.trans_le ((first_highest sorted).2 row listed))
    · obtain ⟨q,rest,same⟩ := identity_sorted candidates_nodup identity sorting
      have same := sorted.symm.trans same
      cases same
      exact .inr ⟨rfl,nothing⟩

-- With a NaN among the candidates any of them can come first.
theorem unordered_first (named : header ≠ "") (unordered : ∃ row ∈ candidates python brotliAvailable header, row.2 = ⊥)
    (respects : ∀ sorting : Sorting K, Respects python brotliAvailable (some header) (selectBestEncoding python brotliAvailable sorting (some header)))
    {row : String × Quality K} (listed : row ∈ candidates python brotliAvailable header) :
    ((0 : K) : Quality K) < row.2 ∨ (row.1 = "identity" ∧ NothingAllowed python brotliAvailable (some header)) := by
  have perm := (List.perm_cons_erase listed).symm
  exact (respects_first (sortedAs _ _ perm unordered) named (if_pos rfl)).mp (respects _)

theorem unordered_negotiable (named : header ≠ "") (unordered : ∃ row ∈ candidates python brotliAvailable header, row.2 = ⊥)
    (respects : ∀ sorting : Sorting K, Respects python brotliAvailable (some header) (selectBestEncoding python brotliAvailable sorting (some header))) :
    IdentityFirst (candidates python brotliAvailable header) ∧ NothingAllowed python brotliAvailable (some header) := by
  obtain ⟨row,listed,unknown⟩ := unordered
  rcases unordered_first named ⟨row,listed,unknown⟩ respects listed with positive | ⟨identity,nothing⟩
  · rw [unknown] at positive
    exact absurd positive not_lt_bot
  · have others : ∀ other ∈ candidates python brotliAvailable header, other.1 = "identity" := by
      intro other member
      rcases unordered_first named ⟨row,listed,unknown⟩ respects member with positive | ⟨identity,_⟩
      · rcases (mem_candidates.mp member).2 with supported | identity
        · exact absurd ((allows_listed member).mpr positive) (nothing other.1 supported)
        · exact identity
      · exact identity
    have alone : candidates python brotliAvailable header = [row] := by
      refine List.perm_singleton.mp ((List.perm_ext_iff_of_nodup candidates_nodup (List.nodup_singleton row)).mpr ?_)
      intro other
      rw [List.mem_singleton]
      constructor
      · exact fun member => List.inj_on_of_nodup_map candidates_distinct member listed ((others other member).trans identity.symm)
      · exact fun same => same ▸ listed
    refine ⟨⟨[],row.2,[],?_,by simp,by simp,by simp⟩,nothing⟩
    rw [alone,← identity]
    rfl

-- Whatever the sort does with qualities that do not compare, the selection respects the header exactly
-- if the header is negotiable.
theorem selection_respects_iff (python : Python K) (brotliAvailable : Bool) (acceptEncoding : Option String) :
    (∀ sorting : Sorting K, Respects python brotliAvailable acceptEncoding (selectBestEncoding python brotliAvailable sorting acceptEncoding)) ↔
      Negotiable python brotliAvailable acceptEncoding := by
  cases acceptEncoding with
  | none =>
    refine ⟨fun _ => .inl rfl,fun _ _ => .inr ⟨rfl,?_⟩⟩
    rintro encoding _ ⟨q,said,_⟩
    cases said
  | some header =>
    by_cases named : header = ""
    · have unlisted : candidates python brotliAvailable header = [] := by
        rw [named]
        rfl
      refine ⟨fun _ => .inl unlisted,fun _ sorting => ?_⟩
      rw [select_unlisted unlisted]
      exact respects_unlisted unlisted
    · refine ⟨fun respects => ?_,fun negotiable sorting => negotiable_respects sorting named negotiable⟩
      by_cases unordered : ∃ row ∈ candidates python brotliAvailable header, row.2 = ⊥
      · exact .inr (.inr (unordered_negotiable named unordered respects))
      · have known : ∀ row ∈ candidates python brotliAvailable header, row.2 ≠ ⊥ := fun row member unknown => unordered ⟨row,member,unknown⟩
        cases sorted : (candidates python brotliAvailable header).mergeSort higher with
        | nil => exact .inl (sorted ▸ List.mergeSort_perm _ higher : [].Perm (candidates python brotliAvailable header)).symm.eq_nil
        | cons first tail =>
          obtain ⟨name,q⟩ := first
          rcases (respects_first stableSort named sorted).mp (respects stableSort) with positive | ⟨identity,nothing⟩
          · exact .inr (.inl ⟨known,(name,q),(first_highest sorted).1,positive⟩)
          · cases identity
            exact .inr (.inr ⟨identity_first candidates_nodup known sorted,nothing⟩)
end Allowed
end Negotiated

-- ASCII case and the weights 0 and 1.
def asciiPython : Python Rat where
  lower text := text.toLower
  float text := if text = "0" then some ((0 : Rat) : Quality Rat) else if text = "1" then some ((1 : Rat) : Quality Rat) else none

-- The one encoding that the header refuses is picked.
theorem refused_selected : selectBestEncoding asciiPython false stableSort (some "gzip;q=0") = .gzip ∧
    quality asciiPython (some "gzip;q=0") "gzip" = some ((0 : Rat) : Quality Rat) ∧
    ¬ Respects asciiPython false (some "gzip;q=0") (selectBestEncoding asciiPython false stableSort (some "gzip;q=0")) := by
  have listed : candidates asciiPython false "gzip;q=0" = [("gzip",((0 : Rat) : Quality Rat))] := by decide +kernel
  have said : quality asciiPython (some "gzip;q=0") "gzip" = some ((0 : Rat) : Quality Rat) := by decide +kernel
  have sorted : stableSort.sort (candidates asciiPython false "gzip;q=0") = [("gzip",((0 : Rat) : Quality Rat))] := by
    rw [listed]
    exact List.perm_singleton.mp (stableSort.perm _)
  have picked : selectBestEncoding asciiPython false stableSort (some "gzip;q=0") = .gzip := by
    simp [selectBestEncoding,sorted]
  refine ⟨picked,said,?_⟩
  rw [picked]
  rintro (⟨q,found,positive⟩ | ⟨impossible,_⟩)
  · rw [CompressionAlgorithm.value,said] at found
    cases found
    exact lt_irrefl _ positive
  · cases impossible

end Asap.ContentNegotiation
