import Mathlib.Data.List.Chain
import Mathlib.Data.List.Infix

-- Regular expressions as a backtracking matcher reads them: the ways a pattern matches at the head of
-- a text, in the order in which they are tried.
namespace Regex
universe u v w
variable {α : Type u} {β : Type v}

inductive Pattern (α : Type u) where
  | empty
  | set (p : α → Bool)
  | seq (first second : Pattern α)
  | alt (first second : Pattern α)
  | star (body : Pattern α)

-- A way to match: what is taken, and what is left.
abbrev Way (α : Type u) := List α × List α

def Way.after (taken : List α) (way : Way α) : Way α := (taken ++ way.1,way.2)

-- Greedy, and without empty rounds: each round takes something of the text, so that its length
-- bounds their number.
def rounds (body : List α → List (Way α)) : Nat → List α → List (Way α)
  | 0,text => [([],text)]
  | fuel + 1,text =>
    (body text).flatMap (fun way => if way.1.isEmpty then [] else (rounds body fuel way.2).map (Way.after way.1)) ++ [([],text)]

def ways : Pattern α → List α → List (Way α)
  | .empty,text => [([],text)]
  | .set _,[] => []
  | .set p,c :: rest => if p c then [([c],rest)] else []
  | .seq first second,text => (ways first text).flatMap (fun way => (ways second way.2).map (Way.after way.1))
  | .alt first second,text => ways first text ++ ways second text
  | .star body,text => rounds (ways body) text.length text

def plus (body : Pattern α) : Pattern α := .seq body (.star body)

def literal [DecidableEq α] : List α → Pattern α
  | [] => .empty
  | c :: rest => .seq (.set (fun d => decide (d = c))) (literal rest)

-- `match`: the first way at the head of a text.
def matchHead (pattern : Pattern α) (text : List α) : Option (Way α) := (ways pattern text).head?

-- The text of the group in the first way of `first(group)last`, and what follows it all.
def matchGroup (first group last : Pattern α) (text : List α) : Option (Way α) :=
  ((ways first text).flatMap (fun front => (ways group front.2).flatMap (fun way => (ways last way.2).map (fun back => (way.1,back.2))))).head?

-- `search`: at the first place where there is a match.
def search (matchAt : List α → Option (β × List α)) : List α → Option β
  | [] => (matchAt []).map Prod.fst
  | c :: rest => ((matchAt (c :: rest)).map Prod.fst).or (search matchAt rest)

-- `findall` and `sub` go over a text from left to right, for matches that are never empty.
def scan (matchAt : List α → Option (β × List α)) : Nat → List α → List (α ⊕ β)
  | 0,_ => []
  | _ + 1,[] => []
  | fuel + 1,c :: rest =>
    match matchAt (c :: rest) with
    | some (found,left) => .inr found :: scan matchAt fuel left
    | none => .inl c :: scan matchAt fuel rest

def pieces (matchAt : List α → Option (β × List α)) (text : List α) : List (α ⊕ β) := scan matchAt text.length text

def findAll (matchAt : List α → Option (β × List α)) (text : List α) : List β := (pieces matchAt text).filterMap Sum.getRight?

def sub (matchAt : List α → Option (β × List α)) (new : β → List α) (text : List α) : List α :=
  (pieces matchAt text).flatMap (Sum.elim (fun c => [c]) new)

-- `text.replace(old, new)` of a text that is not empty.
def replace [DecidableEq α] (old new text : List α) : List α := sub (matchHead (literal old)) (fun _ => new) text

@[simp] theorem after_nil : (Way.after [] : Way α → Way α) = id := rfl

theorem after_after (first second : List α) : Way.after first ∘ Way.after second = Way.after (first ++ second) := by
  funext way
  exact Prod.ext (List.append_assoc first second way.1).symm rfl

section Ways

theorem rounds_append {body : List α → List (Way α)} (whole : ∀ text, ∀ way ∈ body text, way.1 ++ way.2 = text)
    (fuel : Nat) (text : List α) : ∀ way ∈ rounds body fuel text, way.1 ++ way.2 = text := by
  induction fuel generalizing text with
  | zero =>
    intro way member
    rw [List.mem_singleton.mp member]
    rfl
  | succ fuel ih =>
    intro way member
    rcases List.mem_append.mp member with more | last
    · obtain ⟨first,found,inside⟩ := List.mem_flatMap.mp more
      split at inside
      · cases inside
      · obtain ⟨later,tail,rfl⟩ := List.mem_map.mp inside
        exact (List.append_assoc _ _ _).trans ((congrArg _ (ih first.2 later tail)).trans (whole text first found))
    · rw [List.mem_singleton.mp last]
      rfl

-- A way splits the text.
theorem ways_append (pattern : Pattern α) (text : List α) : ∀ way ∈ ways pattern text, way.1 ++ way.2 = text := by
  induction pattern generalizing text with
  | empty =>
    intro way member
    rw [List.mem_singleton.mp member]
    rfl
  | set p =>
    intro way member
    cases text with
    | nil => cases member
    | cons c tail =>
      unfold ways at member
      split at member
      · rw [List.mem_singleton.mp member]
        rfl
      · cases member
  | seq first second ihFirst ihSecond =>
    intro way member
    obtain ⟨front,found,inside⟩ := List.mem_flatMap.mp member
    obtain ⟨back,later,rfl⟩ := List.mem_map.mp inside
    exact (List.append_assoc _ _ _).trans ((congrArg _ (ihSecond front.2 back later)).trans (ihFirst text front found))
  | alt first second ihFirst ihSecond =>
    intro way member
    rcases List.mem_append.mp member with left | right
    · exact ihFirst text way left
    · exact ihSecond text way right
  | star body ih => exact rounds_append ih text.length text

section Star
variable {body : List α → List (Way α)} (whole : ∀ text, ∀ way ∈ body text, way.1 ++ way.2 = text)
include whole

theorem rounds_nil (fuel : Nat) : rounds body fuel [] = [([],[])] := by
  cases fuel with
  | zero => rfl
  | succ fuel =>
    have nothing : (body []).flatMap (fun way => if way.1.isEmpty then [] else (rounds body fuel way.2).map (Way.after way.1)) = [] := by
      apply List.flatMap_eq_nil_iff.mpr
      intro way found
      exact if_pos (List.isEmpty_iff.mpr (List.append_eq_nil_iff.mp (whole [] way found)).1)
    unfold rounds
    rw [nothing,List.nil_append]

-- More rounds than the text is long do nothing.
theorem rounds_enough (bound : Nat) : ∀ (text : List α) (fuel more : Nat), text.length ≤ bound → text.length ≤ fuel → text.length ≤ more →
    rounds body fuel text = rounds body more text := by
  induction bound with
  | zero =>
    intro text fuel more short _ _
    rw [List.eq_nil_of_length_eq_zero (Nat.le_zero.mp short),rounds_nil whole,rounds_nil whole]
  | succ bound ih =>
    intro text fuel more short enough alsoEnough
    cases text with
    | nil => rw [rounds_nil whole,rounds_nil whole]
    | cons c tail =>
      cases fuel with
      | zero => cases enough
      | succ fuel =>
        cases more with
        | zero => cases alsoEnough
        | succ more =>
          unfold rounds
          congr 1
          apply List.flatMap_congr
          intro way found
          split
          · rfl
          · rename_i some
            have split := congrArg List.length (whole (c :: tail) way found)
            have positive : 0 < way.1.length := List.length_pos_iff.mpr (fun empty => some (List.isEmpty_iff.mpr empty))
            simp only [List.length_append,List.length_cons] at split short enough alsoEnough
            rw [ih way.2 fuel more (by omega) (by omega) (by omega)]
end Star

-- One round, and then the others.
theorem ways_star (body : Pattern α) (text : List α) : ways (.star body) text =
    (ways body text).flatMap (fun way => if way.1.isEmpty then [] else (ways (.star body) way.2).map (Way.after way.1)) ++ [([],text)] := by
  have whole := ways_append body
  conv_lhs => unfold ways
  rw [rounds_enough whole text.length text text.length (text.length + 1) (Nat.le_refl _) (Nat.le_refl _) (Nat.le_succ _),rounds]
  congr 1
  apply List.flatMap_congr
  intro way found
  have split := congrArg List.length (whole text way found)
  rw [List.length_append] at split
  rw [rounds_enough whole way.2.length way.2 text.length way.2.length (Nat.le_refl _) (by omega) (Nat.le_refl _)]
  rfl

theorem ways_seq (first second : Pattern α) (text : List α) :
    ways (.seq first second) text = (ways first text).flatMap (fun way => (ways second way.2).map (Way.after way.1)) := rfl

theorem ways_set_cons (p : α → Bool) (c : α) (rest : List α) : ways (.set p) (c :: rest) = if p c then [([c],rest)] else [] := rfl

theorem star_set_inside {p : α → Bool} {c : α} (inside : p c = true) (rest : List α) :
    ways (.star (.set p)) (c :: rest) = (ways (.star (.set p)) rest).map (Way.after [c]) ++ [([],c :: rest)] := by
  rw [ways_star,ways_set_cons,if_pos inside,List.flatMap_singleton]
  rfl

theorem star_set_outside {p : α → Bool} {text : List α} (outside : ∀ c ∈ text.head?, p c = false) : ways (.star (.set p)) text = [([],text)] := by
  rw [ways_star]
  cases text with
  | nil => rfl
  | cons c rest =>
    rw [ways_set_cons,if_neg (by rw [outside c rfl]; exact Bool.false_ne_true)]
    rfl

-- A run of a set goes to its end where what comes after it does not start in the set.
theorem star_flatMap {γ : Type v} {δ : Type w} {p : α → Bool} {next : List α → List γ} (stops : ∀ c rest, p c = true → next (c :: rest) = [])
    (join : List α → γ → δ) (text : List α) : (ways (.star (.set p)) text).flatMap (fun way => (next way.2).map (join way.1)) =
      (next (text.dropWhile p)).map (join (text.takeWhile p)) := by
  induction text generalizing join with
  | nil => rw [star_set_outside (fun _ member => by cases member),List.flatMap_singleton,List.dropWhile_nil,List.takeWhile_nil]
  | cons c rest ih =>
    by_cases inside : p c = true
    · rw [List.dropWhile_cons_of_pos inside,List.takeWhile_cons_of_pos inside,star_set_inside inside,List.flatMap_append,
        List.flatMap_singleton,stops c rest inside,List.map_nil,List.append_nil,List.flatMap_map]
      exact ih (fun taken => join (c :: taken))
    · rw [List.dropWhile_cons_of_neg inside,List.takeWhile_cons_of_neg inside,star_set_outside,List.flatMap_singleton]
      intro d member
      cases member
      exact Bool.eq_false_iff.mpr inside

theorem ways_literal [DecidableEq α] (word text : List α) : ways (literal word) text = if word <+: text then [(word,text.drop word.length)] else [] := by
  induction word generalizing text with
  | nil => simp [literal,ways]
  | cons c word ih =>
    cases text with
    | nil => simp [literal,ways]
    | cons d rest =>
      rw [literal,ways_seq,ways_set_cons]
      by_cases same : d = c
      · subst same
        rw [if_pos (decide_eq_true rfl),List.flatMap_singleton,ih]
        simp only [List.prefix_cons_inj]
        split <;> rfl
      · rw [decide_eq_false same,if_neg Bool.false_ne_true,if_neg]
        · rfl
        · exact fun starts => same (List.cons_prefix_cons.mp starts).1.symm

-- Where the front can match in one way only, the back goes on from there.
theorem ways_seq_only {first second : Pattern α} {text taken rest : List α} (only : ways first text = [(taken,rest)]) :
    ways (.seq first second) text = (ways second rest).map (Way.after taken) := by
  rw [ways_seq,only,List.flatMap_singleton]

theorem ways_set_inside {p : α → Bool} {c : α} (inside : p c = true) (rest : List α) : ways (.set p) (c :: rest) = [([c],rest)] := by
  rw [ways_set_cons,if_pos inside]

theorem ways_set_outside {p : α → Bool} {c : α} (outside : p c = false) (rest : List α) : ways (.set p) (c :: rest) = [] := by
  rw [ways_set_cons,if_neg (Bool.eq_false_iff.mp outside)]
-- A group that is a run of a set, and is not empty.
theorem matchGroup_run {first last : Pattern α} {p : α → Bool} {text taken rest : List α} (front : ways first text = [(taken,rest)])
    (stops : ∀ c rest, p c = true → ways last (c :: rest) = []) : matchGroup first (plus (.set p)) last text =
      if rest.takeWhile p = [] then none else (ways last (rest.dropWhile p)).head?.map (fun back => (rest.takeWhile p,back.2)) := by
  unfold matchGroup plus
  rw [front,List.flatMap_singleton,ways_seq]
  cases rest with
  | nil => rfl
  | cons c tail =>
    by_cases inside : p c = true
    · rw [ways_set_inside inside,List.flatMap_singleton,List.flatMap_map,List.takeWhile_cons_of_pos inside,List.dropWhile_cons_of_pos inside,
        if_neg (List.cons_ne_nil _ _),← List.head?_map]
      exact congrArg List.head? (star_flatMap stops (fun run (back : Way α) => (c :: run,back.2)) tail)
    · rw [ways_set_outside (Bool.eq_false_iff.mpr inside),List.takeWhile_cons_of_neg inside,if_pos rfl]
      rfl
end Ways

section Scanning
variable {matchAt : List α → Option (β × List α)}

theorem search_skip {c : α} {rest : List α} (nothing : matchAt (c :: rest) = none) : search matchAt (c :: rest) = search matchAt rest := by
  rw [search,nothing]
  rfl

theorem search_found {text left : List α} {found : β} (here : matchAt text = some (found,left)) : search matchAt text = some found := by
  cases text <;> simp only [search,here,Option.map_some,Option.some_or]

-- A match takes something of the text.
def Shrinks (matchAt : List α → Option (β × List α)) : Prop :=
  ∀ text found left, matchAt text = some (found,left) → left.length < text.length

theorem scan_enough (shrinks : Shrinks matchAt) (bound : Nat) : ∀ (text : List α) (fuel more : Nat), text.length ≤ bound →
    text.length ≤ fuel → text.length ≤ more → scan matchAt fuel text = scan matchAt more text := by
  induction bound with
  | zero =>
    intro text fuel more short _ _
    rw [List.eq_nil_of_length_eq_zero (Nat.le_zero.mp short)]
    cases fuel <;> cases more <;> rfl
  | succ bound ih =>
    intro text fuel more short enough alsoEnough
    cases text with
    | nil => cases fuel <;> cases more <;> rfl
    | cons c rest =>
      cases fuel with
      | zero => cases enough
      | succ fuel =>
        cases more with
        | zero => cases alsoEnough
        | succ more =>
          simp only [List.length_cons] at short enough alsoEnough
          unfold scan
          cases here : matchAt (c :: rest) with
          | none => exact congrArg _ (ih rest fuel more (by omega) (by omega) (by omega))
          | some way =>
            have shorter := shrinks _ way.1 way.2 here
            rw [List.length_cons] at shorter
            exact congrArg _ (ih way.2 fuel more (by omega) (by omega) (by omega))

@[simp] theorem pieces_nil : pieces matchAt [] = [] := rfl

theorem pieces_cons (shrinks : Shrinks matchAt) (c : α) (rest : List α) : pieces matchAt (c :: rest) =
    match matchAt (c :: rest) with
    | some (found,left) => .inr found :: pieces matchAt left
    | none => .inl c :: pieces matchAt rest := by
  show scan matchAt (rest.length + 1) (c :: rest) = _
  unfold scan
  cases here : matchAt (c :: rest) with
  | none => rfl
  | some way =>
    have shorter := shrinks _ way.1 way.2 here
    rw [List.length_cons] at shorter
    exact congrArg _ (scan_enough shrinks way.2.length way.2 rest.length way.2.length (Nat.le_refl _) (by omega) (Nat.le_refl _))

-- Induction over the pieces of a text, from left to right.
theorem pieces_induction (shrinks : Shrinks matchAt) {motive : List α → List (α ⊕ β) → Prop} (nil : motive [] [])
    (skip : ∀ c rest, matchAt (c :: rest) = none → motive rest (pieces matchAt rest) → motive (c :: rest) (.inl c :: pieces matchAt rest))
    (found : ∀ c rest item left, matchAt (c :: rest) = some (item,left) → motive left (pieces matchAt left) →
      motive (c :: rest) (.inr item :: pieces matchAt left))
    (text : List α) : motive text (pieces matchAt text) := by
  have bounded (bound : Nat) : ∀ text : List α, text.length ≤ bound → motive text (pieces matchAt text) := by
    induction bound with
    | zero =>
      intro text short
      rw [List.eq_nil_of_length_eq_zero (Nat.le_zero.mp short)]
      exact nil
    | succ bound ih =>
      intro text short
      cases text with
      | nil => exact nil
      | cons c rest =>
        rw [pieces_cons shrinks]
        cases here : matchAt (c :: rest) with
        | none => exact skip c rest here (ih rest (Nat.le_of_succ_le_succ short))
        | some way =>
          have shorter := shrinks _ way.1 way.2 here
          exact found c rest way.1 way.2 here (ih way.2 (by omega))
  exact bounded text.length text (Nat.le_refl _)

-- The pieces hold the text, where what is found is shown as it stood.
theorem pieces_text (shrinks : Shrinks matchAt) {shown : β → List α}
    (whole : ∀ text found left, matchAt text = some (found,left) → text = shown found ++ left) (text : List α) :
    (pieces matchAt text).flatMap (Sum.elim (fun c => [c]) shown) = text := by
  refine pieces_induction (motive := fun text items => items.flatMap (Sum.elim (fun c => [c]) shown) = text) shrinks rfl ?_ ?_ text
  · intro c rest here ih
    exact congrArg (c :: ·) ih
  · intro c rest item left here ih
    show shown item ++ (pieces matchAt left).flatMap _ = c :: rest
    rw [ih,whole _ item left here]

@[simp] theorem sub_nil (new : β → List α) : sub matchAt new [] = [] := rfl

theorem sub_skip (shrinks : Shrinks matchAt) {c : α} {rest : List α} (nothing : matchAt (c :: rest) = none) (new : β → List α) :
    sub matchAt new (c :: rest) = c :: sub matchAt new rest := by
  unfold sub
  rw [pieces_cons shrinks,nothing]
  rfl

theorem sub_found (shrinks : Shrinks matchAt) {c : α} {rest left : List α} {found : β} (here : matchAt (c :: rest) = some (found,left))
    (new : β → List α) : sub matchAt new (c :: rest) = new found ++ sub matchAt new left := by
  unfold sub
  rw [pieces_cons shrinks,here]
  rfl
end Scanning

-- Runs of a set, as long as they go.
section Runs
variable {p : α → Bool}

theorem star_set_head (text : List α) : ∃ others, ways (.star (.set p)) text = (text.takeWhile p,text.dropWhile p) :: others := by
  induction text with
  | nil => exact ⟨[],star_set_outside (fun _ member => by cases member)⟩
  | cons c rest ih =>
    by_cases inside : p c = true
    · obtain ⟨others,first⟩ := ih
      rw [star_set_inside inside,first,List.takeWhile_cons_of_pos inside,List.dropWhile_cons_of_pos inside]
      exact ⟨_,rfl⟩
    · rw [List.takeWhile_cons_of_neg inside,List.dropWhile_cons_of_neg inside,star_set_outside]
      · exact ⟨[],rfl⟩
      · intro d member
        cases member
        exact Bool.eq_false_iff.mpr inside

theorem run_inside {c : α} (inside : p c = true) (rest : List α) :
    matchHead (plus (.set p)) (c :: rest) = some (c :: rest.takeWhile p,rest.dropWhile p) := by
  obtain ⟨others,first⟩ := star_set_head (p := p) rest
  unfold matchHead plus
  rw [ways_seq_only (ways_set_inside inside rest),first]
  rfl

theorem run_outside {c : α} (outside : p c = false) (rest : List α) : matchHead (plus (.set p)) (c :: rest) = none := by
  unfold matchHead plus
  rw [ways_seq,ways_set_outside outside]
  rfl

theorem run_shrinks : Shrinks (matchHead (plus (.set p))) := by
  intro text found left here
  cases text with
  | nil => cases here
  | cons c rest =>
    cases inside : p c with
    | true =>
      rw [run_inside inside] at here
      cases here
      exact Nat.lt_succ_of_le (List.dropWhile_suffix p).length_le
    | false =>
      rw [run_outside inside] at here
      cases here

-- Where no two members of the set are neighbours, each of them is replaced for itself.
theorem sub_isolated (mark : α) {text : List α} (isolated : text.IsChain (fun c d => p c = true → p d = false)) :
    sub (matchHead (plus (.set p))) (fun _ => [mark]) text = text.map (fun c => if p c then mark else c) := by
  induction text with
  | nil => rfl
  | cons c rest ih =>
    have later := ih isolated.tail
    cases inside : p c with
    | true =>
      have single : rest.takeWhile p = [] ∧ rest.dropWhile p = rest := by
        cases rest with
        | nil => exact ⟨rfl,rfl⟩
        | cons d others =>
          have outside : ¬p d = true := Bool.eq_false_iff.mp ((List.isChain_cons_cons.mp isolated).1 inside)
          exact ⟨List.takeWhile_cons_of_neg outside,List.dropWhile_cons_of_neg outside⟩
      rw [sub_found run_shrinks (run_inside inside rest),single.2,later,List.map_cons,if_pos inside]
      rfl
    | false => rw [sub_skip run_shrinks (run_outside inside rest),later,List.map_cons,inside,if_neg Bool.false_ne_true]
end Runs

section Replace
variable [DecidableEq α] {old : List α}

theorem matchHead_literal (word text : List α) :
    matchHead (literal word) text = if word <+: text then some (word,text.drop word.length) else none := by
  unfold matchHead
  rw [ways_literal]
  split <;> rfl

theorem literal_shrinks (some : old ≠ []) : Shrinks (matchHead (literal old)) := by
  intro text found left here
  rw [matchHead_literal] at here
  split at here
  · rename_i starts
    cases here
    have positive := List.length_pos_iff.mpr some
    have fits := starts.length_le
    rw [List.length_drop]
    omega
  · cases here

theorem replace_starts (some : old ≠ []) (new rest : List α) : replace old new (old ++ rest) = new ++ replace old new rest := by
  obtain ⟨c,tail,rfl⟩ := List.exists_cons_of_ne_nil some
  apply sub_found (literal_shrinks some)
  show matchHead (literal (c :: tail)) ((c :: tail) ++ rest) = _
  rw [matchHead_literal,if_pos (List.prefix_append _ _),List.drop_left]

theorem replace_skips (some : old ≠ []) {c : α} {rest : List α} (elsewhere : ¬old <+: c :: rest) (new : List α) :
    replace old new (c :: rest) = c :: replace old new rest := by
  apply sub_skip (literal_shrinks some)
  rw [matchHead_literal,if_neg elsewhere]

-- A front without the first character of what is replaced stays.
theorem replace_passes {c : α} {tail front : List α} (free : c ∉ front) (new rest : List α) :
    replace (c :: tail) new (front ++ rest) = front ++ replace (c :: tail) new rest := by
  induction front with
  | nil => rfl
  | cons d front ih =>
    rw [List.cons_append,replace_skips (List.cons_ne_nil c tail)]
    · exact congrArg (d :: ·) (ih (fun inside => free (List.mem_cons_of_mem _ inside)))
    · intro starts
      cases (List.cons_prefix_cons.mp starts).1
      exact free List.mem_cons_self

-- A single character is replaced wherever it stands.
theorem replace_single (c : α) (new text : List α) : replace [c] new text = text.flatMap (fun d => if d = c then new else [d]) := by
  have some : [c] ≠ [] := List.cons_ne_nil c []
  induction text with
  | nil => rfl
  | cons d rest ih =>
    rw [List.flatMap_cons,← ih]
    split
    · rename_i same
      subst same
      exact replace_starts some new rest
    · rename_i other
      exact replace_skips some (fun starts => other (List.cons_prefix_cons.mp starts).1.symm) new
end Replace

end Regex
