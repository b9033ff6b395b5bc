import Mathlib

namespace DepthFirst
section Chains
variable {V : Type u}

-- Reachability by at most `n` hops along the successor lists.
inductive Within (succ : V → List V) : Nat → V → V → Prop where
  | here : Within succ n v v
  | hop : c ∈ succ v → Within succ n c w → Within succ (n+1) v w

theorem Within.mono {small large : V → List V} (included : ∀ v, ∀ c ∈ small v, c ∈ large v)
    (reach : Within small n v w) : Within large n v w := by
  induction reach with
  | here => exact .here
  | hop edge _ ih => exact .hop (included _ _ edge) ih

-- A chain is its last vertex with the earlier ones, newest first. `chains`
-- lists every chain of at most `budget` further hops depth-first, the last
-- successor before the others, with no regard to what was met before.
def chains (succ : V → List V) : Nat → V → List V → List (V × List V)
  | 0,v,up => [(v,up)]
  | budget+1,v,up => (v,up) :: (succ v).reverse.flatMap (fun c => chains succ budget c (v :: up))

def ends (kept : List (V × List V)) : List V := kept.map Prod.fst

def Parent (kept : List (V × List V)) (up : List V) : Prop :=
  up = [] ∨ ∃ p ∈ kept, p.1 :: p.2 = up

def Rooted (kept : List (V × List V)) : Prop := ∀ chain ∈ kept, Parent kept chain.2

theorem parent_cons {kept : List (V × List V)} : Parent kept (v :: up) ↔ (v,up) ∈ kept := by
  constructor
  · rintro (empty | ⟨⟨p,q⟩,member,equal⟩)
    · cases empty
    · cases equal; exact member
  · exact fun member => Or.inr ⟨_,member,rfl⟩

theorem ends_mono {small large : List (V × List V)} (included : ∀ chain ∈ small, chain ∈ large)
    (member : v ∈ ends small) : v ∈ ends large := by
  obtain ⟨chain,inside,rfl⟩ := List.mem_map.mp member
  exact List.mem_map_of_mem (included chain inside)

theorem Parent.mono {small large : List (V × List V)} (included : ∀ chain ∈ small, chain ∈ large)
    (parent : Parent small up) : Parent large up := by
  rcases parent with empty | ⟨p,member,equal⟩
  · exact Or.inl empty
  · exact Or.inr ⟨p,included p member,equal⟩

theorem Rooted.snoc {kept : List (V × List V)} (rooted : Rooted kept) (parent : Parent kept up) (v : V) :
    Rooted (kept ++ [(v,up)]) := by
  intro chain member
  have included : ∀ x ∈ kept, x ∈ kept ++ [(v,up)] := fun x inside => List.mem_append_left _ inside
  rcases List.mem_append.mp member with old | new
  · exact (rooted chain old).mono included
  · rw [List.mem_singleton] at new
    subst new
    exact parent.mono included

-- Folds that only ever add to their accumulator, and where what they add comes from.
theorem foldl_keeps {f : List α → β → List α} (step : ∀ acc c, ∀ x ∈ acc, x ∈ f acc c) (items : List β) :
    ∀ acc, ∀ x ∈ acc, x ∈ items.foldl f acc := by
  induction items with
  | nil => exact fun acc x member => member
  | cons c rest ih => exact fun acc x member => ih _ x (step acc c x member)

theorem foldl_origin {f : List α → β → List α} {Q : β → α → Prop} (items : List β)
    (step : ∀ acc, ∀ c ∈ items, ∀ x ∈ f acc c, x ∈ acc ∨ Q c x) :
    ∀ acc, ∀ x ∈ items.foldl f acc, x ∈ acc ∨ ∃ c ∈ items, Q c x := by
  induction items with
  | nil => exact fun acc x member => Or.inl member
  | cons c rest ih =>
    intro acc x member
    rcases ih (fun acc d inside => step acc d (List.mem_cons_of_mem _ inside)) _ x member with early | ⟨d,inside,late⟩
    · rcases step acc c List.mem_cons_self x early with old | new
      · exact Or.inl old
      · exact Or.inr ⟨c,List.mem_cons_self,new⟩
    · exact Or.inr ⟨d,List.mem_cons_of_mem _ inside,late⟩
end Chains

variable {V : Type u} [DecidableEq V]

-- Explicit stack with a visited list and a depth cut, top of the stack first.
-- `none` only when the fuel runs out while the stack is not empty.
def walk (succ : V → List V) (limit : Nat) : Nat → List V → List (V × Nat) → Option (List V)
  | _,visited,[] => some visited
  | 0,_,_ :: _ => none
  | fuel+1,visited,(v,depth) :: rest =>
    if v ∈ visited ∨ limit < depth then walk succ limit fuel visited rest
    else walk succ limit fuel (visited ++ [v]) ((succ v).reverse.map (·,depth+1) ++ rest)

-- The same search as recursion on the remaining depth.
def explore (succ : V → List V) : Nat → List V → V → List V
  | budget,visited,v =>
    if v ∈ visited then visited else
      match budget with
      | 0 => visited ++ [v]
      | budget+1 => (succ v).reverse.foldl (explore succ budget) (visited ++ [v])

theorem explore_seen (succ : V → List V) (budget : Nat) (seen : v ∈ visited) :
    explore succ budget visited v = visited := by
  unfold explore; simp [seen]

theorem explore_zero (succ : V → List V) (fresh : v ∉ visited) :
    explore succ 0 visited v = visited ++ [v] := by
  unfold explore; simp [fresh]

theorem explore_succ (succ : V → List V) (budget : Nat) (fresh : v ∉ visited) :
    explore succ (budget+1) visited v = (succ v).reverse.foldl (explore succ budget) (visited ++ [v]) := by
  conv_lhs => unfold explore
  simp [fresh]

def serve (succ : V → List V) (limit : Nat) (visited : List V) (item : V × Nat) : List V :=
  if item.2 ≤ limit then explore succ (limit-item.2) visited item.1 else visited

theorem serve_deep (succ : V → List V) (deep : limit < depth) (children : List V) (visited : List V) :
    (children.map (·,depth)).foldl (serve succ limit) visited = visited := by
  induction children with
  | nil => rfl
  | cons c rest ih => simpa [serve,Nat.not_le.mpr deep] using ih

theorem serve_shallow (succ : V → List V) (shallow : depth ≤ limit) (children visited : List V) :
    (children.map (·,depth)).foldl (serve succ limit) visited =
      children.foldl (explore succ (limit-depth)) visited := by
  induction children generalizing visited with
  | nil => rfl
  | cons c rest ih => simpa [serve,shallow] using ih _

theorem serve_expand (succ : V → List V) (shallow : depth ≤ limit) (fresh : v ∉ visited) :
    ((succ v).reverse.map (·,depth+1)).foldl (serve succ limit) (visited ++ [v]) =
      serve succ limit visited (v,depth) := by
  rcases Nat.lt_or_eq_of_le shallow with less | rfl
  · obtain ⟨budget,eq⟩ : ∃ budget, limit - depth = budget+1 := ⟨limit-depth-1,by omega⟩
    have rest : limit - (depth+1) = budget := by omega
    rw [serve_shallow succ less,rest]
    simp [serve,shallow,eq,explore_succ succ budget fresh]
  · rw [serve_deep succ (Nat.lt_succ_self depth)]
    simp [serve,explore_zero succ fresh]

-- Successors that expansions still to come can push: every vertex outside
-- `support` has none, and each vertex is expanded at most once.
def outstanding (succ : V → List V) (support visited : List V) : Nat :=
  ((support.filter (· ∉ visited)).map (fun v => (succ v).length)).sum

theorem outstanding_cons (succ : V → List V) (w : V) (rest visited : List V) :
    outstanding succ (w :: rest) visited =
      (if w ∈ visited then 0 else (succ w).length) + outstanding succ rest visited := by
  by_cases seen : w ∈ visited <;> simp [outstanding,seen]

theorem outstanding_absent (succ : V → List V) {support : List V} (visited : List V) (v : V)
    (absent : v ∉ support) : outstanding succ support (visited ++ [v]) = outstanding succ support visited := by
  unfold outstanding
  congr 2
  apply List.filter_congr
  intro w member
  have different : w ≠ v := by rintro rfl; exact absent member
  simp [different]

theorem outstanding_member (succ : V → List V) {support : List V} (distinct : support.Nodup)
    (member : v ∈ support) (fresh : v ∉ visited) :
    outstanding succ support (visited ++ [v]) + (succ v).length = outstanding succ support visited := by
  induction support with
  | nil => cases member
  | cons w rest ih =>
    rw [List.nodup_cons] at distinct
    rw [outstanding_cons,outstanding_cons]
    by_cases same : w = v
    · subst same
      rw [outstanding_absent succ visited w distinct.1]
      simp [fresh,Nat.add_comm]
    · have inside : v ∈ rest := by
        rcases List.mem_cons.mp member with equal | later
        · exact absurd equal.symm same
        · exact later
      have tail := ih distinct.2 inside
      simp only [List.mem_append,List.mem_singleton,same,or_false]
      omega

-- One unit of fuel per stack entry ever pushed is enough, and the stack loop
-- then computes the recursive search.
theorem walk_complete (succ : V → List V) (limit : Nat) {support : List V} (distinct : support.Nodup)
    (bare : ∀ v, v ∉ support → succ v = []) (visited : List V) (stack : List (V × Nat))
    (enough : stack.length + outstanding succ support visited ≤ fuel) :
    walk succ limit fuel visited stack = some (stack.foldl (serve succ limit) visited) := by
  induction fuel generalizing visited stack with
  | zero =>
    have empty : stack = [] := List.length_eq_zero_iff.mp (by omega)
    subst empty
    rfl
  | succ fuel ih =>
    cases stack with
    | nil => rfl
    | cons item rest =>
      obtain ⟨v,depth⟩ := item
      simp only [List.length_cons] at enough
      unfold walk
      split
      · rename_i skipped
        have unchanged : serve succ limit visited (v,depth) = visited := by
          unfold serve
          split
          · rename_i shallow
            exact explore_seen succ _ (skipped.resolve_right (Nat.not_lt.mpr shallow))
          · rfl
        rw [ih visited rest (by omega),List.foldl_cons,unchanged]
      · rename_i taken
        simp only [not_or,Nat.not_lt] at taken
        have budget : ((succ v).reverse.map (·,depth+1) ++ rest).length +
            outstanding succ support (visited ++ [v]) ≤ fuel := by
          by_cases member : v ∈ support
          · have less := outstanding_member succ distinct member taken.1
            simp only [List.length_append,List.length_map,List.length_reverse]
            omega
          · have same := outstanding_absent succ visited v member
            simp only [bare v member,List.reverse_nil,List.map_nil,List.nil_append]
            omega
        rw [ih _ _ budget,List.foldl_append,serve_expand succ taken.2 taken.1,List.foldl_cons]

theorem explore_within (succ : V → List V) (budget : Nat) (visited : List V) (v : V) :
    ∀ w ∈ explore succ budget visited v, w ∈ visited ∨ Within succ budget v w := by
  induction budget generalizing visited v with
  | zero =>
    intro w member
    by_cases seen : v ∈ visited
    · rw [explore_seen succ 0 seen] at member
      exact Or.inl member
    · rw [explore_zero succ seen] at member
      rcases List.mem_append.mp member with old | new
      · exact Or.inl old
      · rw [List.mem_singleton.mp new]
        exact Or.inr .here
  | succ budget ih =>
    intro w member
    by_cases seen : v ∈ visited
    · rw [explore_seen succ _ seen] at member
      exact Or.inl member
    · rw [explore_succ succ budget seen] at member
      rcases foldl_origin _ (fun acc c _ => ih acc c) _ w member with early | ⟨c,inside,reach⟩
      · rcases List.mem_append.mp early with old | new
        · exact Or.inl old
        · rw [List.mem_singleton.mp new]
          exact Or.inr .here
      · exact Or.inr (.hop (List.mem_reverse.mp inside) reach)

instance (kept : List (V × List V)) (up : List V) : Decidable (Parent kept up) :=
  inferInstanceAs (Decidable (_ ∨ _))

-- A chain is kept when its parent chain was kept and no kept chain has the
-- same last vertex.
def keep (kept : List (V × List V)) (chain : V × List V) : List (V × List V) :=
  if Parent kept chain.2 ∧ chain.1 ∉ ends kept then kept ++ [chain] else kept

-- The leading chain of a vertex is the first one the depth-first reading keeps.
def leading (succ : V → List V) (limit : Nat) (source : V) : List (V × List V) :=
  (chains succ limit source []).foldl keep []

-- Search that records the chain each vertex was first met along.
def trail (succ : V → List V) : Nat → List (V × List V) → V → List V → List (V × List V)
  | budget,kept,v,up =>
    if v ∈ ends kept then kept else
      match budget with
      | 0 => kept ++ [(v,up)]
      | budget+1 => (succ v).reverse.foldl (fun acc c => trail succ budget acc c (v :: up)) (kept ++ [(v,up)])

theorem trail_seen (succ : V → List V) (budget : Nat) (up : List V) (seen : v ∈ ends kept) :
    trail succ budget kept v up = kept := by
  unfold trail; simp [seen]

theorem trail_zero (succ : V → List V) (up : List V) (fresh : v ∉ ends kept) :
    trail succ 0 kept v up = kept ++ [(v,up)] := by
  unfold trail; simp [fresh]

theorem trail_succ (succ : V → List V) (budget : Nat) (up : List V) (fresh : v ∉ ends kept) :
    trail succ (budget+1) kept v up =
      (succ v).reverse.foldl (fun acc c => trail succ budget acc c (v :: up)) (kept ++ [(v,up)]) := by
  conv_lhs => unfold trail
  simp [fresh]

theorem trail_ends (succ : V → List V) (budget : Nat) (kept : List (V × List V)) (v : V) (up : List V) :
    ends (trail succ budget kept v up) = explore succ budget (ends kept) v := by
  induction budget generalizing kept v up with
  | zero =>
    by_cases seen : v ∈ ends kept
    · rw [trail_seen succ 0 up seen,explore_seen succ 0 seen]
    · rw [trail_zero succ up seen,explore_zero succ seen]
      simp [ends]
  | succ budget ih =>
    have fold : ∀ (children : List V) (acc : List (V × List V)),
        ends (children.foldl (fun acc c => trail succ budget acc c (v :: up)) acc) =
          children.foldl (explore succ budget) (ends acc) := by
      intro children
      induction children with
      | nil => exact fun acc => rfl
      | cons c rest inner =>
        intro acc
        simp only [List.foldl_cons]
        rw [inner,ih]
    by_cases seen : v ∈ ends kept
    · rw [trail_seen succ _ up seen,explore_seen succ _ seen]
    · rw [trail_succ succ budget up seen,explore_succ succ budget seen,fold]
      simp [ends]

-- One induction for everything the recorded chains satisfy: `P` holds of the
-- chain just met and passes from a chain to its children within the budget.
theorem trail_chains (succ : V → List V) (P : Nat → V × List V → Prop)
    (child : ∀ budget v up c, P (budget+1) (v,up) → c ∈ succ v → P budget (c,v :: up))
    (budget : Nat) (kept : List (V × List V)) (v : V) (up : List V) (start : P budget (v,up)) :
    ∀ chain ∈ trail succ budget kept v up, chain ∈ kept ∨ ∃ left ≤ budget, P left chain := by
  induction budget generalizing kept v up with
  | zero =>
    intro chain member
    by_cases seen : v ∈ ends kept
    · rw [trail_seen succ 0 up seen] at member
      exact Or.inl member
    · rw [trail_zero succ up seen] at member
      rcases List.mem_append.mp member with old | new
      · exact Or.inl old
      · rw [List.mem_singleton.mp new]
        exact Or.inr ⟨0,Nat.le_refl _,start⟩
  | succ budget ih =>
    intro chain member
    by_cases seen : v ∈ ends kept
    · rw [trail_seen succ _ up seen] at member
      exact Or.inl member
    · rw [trail_succ succ budget up seen] at member
      have children := foldl_origin _ (fun acc c inside =>
        ih acc c (v :: up) (child budget v up c start (List.mem_reverse.mp inside))) _ chain member
      rcases children with early | ⟨_,_,left,bound,holds⟩
      · rcases List.mem_append.mp early with old | new
        · exact Or.inl old
        · rw [List.mem_singleton.mp new]
          exact Or.inr ⟨budget+1,Nat.le_refl _,start⟩
      · exact Or.inr ⟨left,Nat.le_succ_of_le bound,holds⟩

theorem trail_keeps (succ : V → List V) (budget : Nat) (kept : List (V × List V)) (v : V) (up : List V) :
    ∀ chain ∈ kept, chain ∈ trail succ budget kept v up := by
  induction budget generalizing kept v up with
  | zero =>
    intro chain member
    by_cases seen : v ∈ ends kept
    · rwa [trail_seen succ 0 up seen]
    · rw [trail_zero succ up seen]
      exact List.mem_append_left _ member
  | succ budget ih =>
    intro chain member
    by_cases seen : v ∈ ends kept
    · rwa [trail_seen succ _ up seen]
    · rw [trail_succ succ budget up seen]
      exact foldl_keeps (fun acc c => ih acc c (v :: up)) _ _ chain (List.mem_append_left _ member)

theorem trail_fold_keeps (succ : V → List V) (budget : Nat) (up children : List V)
    (acc : List (V × List V)) :
    ∀ chain ∈ acc, chain ∈ children.foldl (fun acc c => trail succ budget acc c up) acc :=
  foldl_keeps (fun acc c => trail_keeps succ budget acc c up) children acc

theorem trail_meets (succ : V → List V) (budget : Nat) (kept : List (V × List V)) (v : V) (up : List V) :
    v ∈ ends (trail succ budget kept v up) := by
  by_cases seen : v ∈ ends kept
  · rwa [trail_seen succ _ up seen]
  · have self : v ∈ ends (kept ++ [(v,up)]) := by simp [ends]
    cases budget with
    | zero => rwa [trail_zero succ up seen]
    | succ budget =>
      rw [trail_succ succ budget up seen]
      exact ends_mono (trail_fold_keeps succ budget _ _ _) self

theorem trail_fold_meets (succ : V → List V) (budget : Nat) (up children : List V)
    (acc : List (V × List V)) : ∀ c ∈ children,
      c ∈ ends (children.foldl (fun acc c => trail succ budget acc c up) acc) := by
  induction children generalizing acc with
  | nil => intro c member; cases member
  | cons d rest ih =>
    intro c member
    rcases List.mem_cons.mp member with rfl | later
    · exact ends_mono (trail_fold_keeps succ budget up rest _) (trail_meets succ budget acc c up)
    · exact ih _ c later

-- A chain recorded with depth to spare has all its successors met as well.
theorem trail_closed (succ : V → List V) (budget : Nat) (kept : List (V × List V)) (v : V) (up : List V) :
    ∀ chain ∈ trail succ budget kept v up, chain ∈ kept ∨
      (chain.2.length < up.length + budget → ∀ c ∈ succ chain.1, c ∈ ends (trail succ budget kept v up)) := by
  induction budget generalizing kept v up with
  | zero =>
    intro chain member
    by_cases seen : v ∈ ends kept
    · rw [trail_seen succ 0 up seen] at member
      exact Or.inl member
    · rw [trail_zero succ up seen] at member
      rcases List.mem_append.mp member with old | new
      · exact Or.inl old
      · rw [List.mem_singleton] at new
        subst new
        exact Or.inr (fun short => absurd short (Nat.lt_irrefl _))
  | succ budget ih =>
    have fold : ∀ (children : List V) (acc : List (V × List V)),
        ∀ chain ∈ children.foldl (fun acc c => trail succ budget acc c (v :: up)) acc, chain ∈ acc ∨
          (chain.2.length < (v :: up).length + budget → ∀ c ∈ succ chain.1,
            c ∈ ends (children.foldl (fun acc c => trail succ budget acc c (v :: up)) acc)) := by
      intro children
      induction children with
      | nil => exact fun acc chain member => Or.inl member
      | cons d rest inner =>
        intro acc chain member
        rcases inner _ chain member with early | late
        · rcases ih acc d (v :: up) chain early with old | closed
          · exact Or.inl old
          · exact Or.inr (fun short c edge =>
              ends_mono (trail_fold_keeps succ budget (v :: up) rest _) (closed short c edge))
        · exact Or.inr late
    intro chain member
    by_cases seen : v ∈ ends kept
    · rw [trail_seen succ _ up seen] at member
      exact Or.inl member
    · rw [trail_succ succ budget up seen] at member ⊢
      rcases fold _ _ chain member with early | closed
      · rcases List.mem_append.mp early with old | new
        · exact Or.inl old
        · rw [List.mem_singleton] at new
          subst new
          exact Or.inr (fun _ c edge =>
            trail_fold_meets succ budget (v :: up) _ _ c (List.mem_reverse.mpr edge))
      · refine Or.inr (fun short => closed ?_)
        simp only [List.length_cons]
        omega

theorem trail_rooted (succ : V → List V) (budget : Nat) (rooted : Rooted kept) (parent : Parent kept up) :
    Rooted (trail succ budget kept v up) := by
  induction budget generalizing kept v up with
  | zero =>
    by_cases seen : v ∈ ends kept
    · rwa [trail_seen succ 0 up seen]
    · rw [trail_zero succ up seen]
      exact rooted.snoc parent v
  | succ budget ih =>
    have fold : ∀ (children : List V) (acc : List (V × List V)), Rooted acc → (v,up) ∈ acc →
        Rooted (children.foldl (fun acc c => trail succ budget acc c (v :: up)) acc) := by
      intro children
      induction children with
      | nil => exact fun acc rooted _ => rooted
      | cons c rest inner =>
        intro acc rooted member
        exact inner _ (ih rooted (Or.inr ⟨_,member,rfl⟩)) (trail_keeps succ budget acc c _ _ member)
    by_cases seen : v ∈ ends kept
    · rwa [trail_seen succ _ up seen]
    · rw [trail_succ succ budget up seen]
      exact fold _ _ (rooted.snoc parent v) (List.mem_append_right _ (List.mem_singleton.mpr rfl))

theorem keep_refused (missing : (v,up) ∉ kept) (c : V) : keep kept (c,v :: up) = kept := by
  unfold keep
  rw [if_neg]
  exact fun both => missing (parent_cons.mp both.1)

-- Below a chain that was not kept, nothing is kept.
theorem keep_barren (succ : V → List V) (budget : Nat) (rooted : Rooted kept) (missing : (v,up) ∉ kept) (c : V) :
    (chains succ budget c (v :: up)).foldl keep kept = kept := by
  induction budget generalizing c v up with
  | zero => simp [chains,keep_refused missing c]
  | succ budget ih =>
    have below : (c,v :: up) ∉ kept := fun member => missing (parent_cons.mp (rooted _ member))
    have tail : ∀ children : List V,
        (children.flatMap (fun d => chains succ budget d (c :: v :: up))).foldl keep kept = kept := by
      intro children
      induction children with
      | nil => rfl
      | cons d rest inner => rw [List.flatMap_cons,List.foldl_append,ih below d,inner]
    simp only [chains,List.foldl_cons,keep_refused missing c]
    exact tail _

def Extends (chain : V × List V) (v : V) (up : List V) : Prop := (v :: up) <:+ (chain.1 :: chain.2)

theorem trail_extends (succ : V → List V) (budget : Nat) (kept : List (V × List V)) (v : V) (up : List V) :
    ∀ chain ∈ trail succ budget kept v up, chain ∈ kept ∨ Extends chain v up := by
  intro chain member
  rcases trail_chains succ (fun _ chain => Extends chain v up)
      (fun _ w above c holds _ => holds.trans (List.suffix_cons c (w :: above)))
      budget kept v up (List.suffix_refl _) chain member with old | ⟨_,_,holds⟩
  · exact Or.inl old
  · exact Or.inr holds

theorem Extends.sibling (left : Extends chain c up) (right : Extends chain d up) : c = d := by
  have nested := List.suffix_of_suffix_length_le left right (by simp)
  have same := nested.eq_of_length (by simp)
  exact (List.cons.inj same).1

-- The depth-first reading of all chains keeps exactly what the search records.
theorem keep_chains (succ : V → List V) (distinct : ∀ v, (succ v).Nodup) (budget : Nat)
    (rooted : Rooted kept) (parent : Parent kept up) (unmet : ∀ chain ∈ kept, ¬ Extends chain v up) :
    (chains succ budget v up).foldl keep kept = trail succ budget kept v up := by
  induction budget generalizing kept v up with
  | zero =>
    by_cases seen : v ∈ ends kept
    · simp [chains,keep,seen,trail_seen succ 0 up seen]
    · simp [chains,keep,seen,parent,trail_zero succ up seen]
  | succ budget ih =>
    by_cases seen : v ∈ ends kept
    · have missing : (v,up) ∉ kept := fun member => unmet _ member (List.suffix_refl _)
      have refused : keep kept (v,up) = kept := by simp [keep,seen]
      have tail : ∀ children : List V,
          (children.flatMap (fun c => chains succ budget c (v :: up))).foldl keep kept = kept := by
        intro children
        induction children with
        | nil => rfl
        | cons c rest inner => rw [List.flatMap_cons,List.foldl_append,keep_barren succ budget rooted missing c,inner]
      rw [trail_seen succ _ up seen]
      simp only [chains,List.foldl_cons,refused]
      exact tail _
    · have taken : keep kept (v,up) = kept ++ [(v,up)] := by simp [keep,seen,parent]
      -- Children already read keep their chains under their own last vertex,
      -- so a child still to come is not extended by any kept chain.
      have fold : ∀ (children : List V) (acc : List (V × List V)), children.Nodup → Rooted acc → (v,up) ∈ acc →
          (∀ c ∈ children, ∀ chain ∈ acc, ¬ Extends chain c (v :: up)) →
          (children.flatMap (fun c => chains succ budget c (v :: up))).foldl keep acc =
            children.foldl (fun acc c => trail succ budget acc c (v :: up)) acc := by
        intro children
        induction children with
        | nil => exact fun acc _ _ _ _ => rfl
        | cons c rest inner =>
          intro acc nodup rooted member unmet
          rw [List.nodup_cons] at nodup
          have above : Parent acc (v :: up) := parent_cons.mpr member
          rw [List.flatMap_cons,List.foldl_append,ih rooted above (unmet c List.mem_cons_self),List.foldl_cons]
          refine inner _ nodup.2 (trail_rooted succ budget rooted above) (trail_keeps succ budget acc c _ _ member) ?_
          intro d later chain recorded extended
          rcases trail_extends succ budget acc c (v :: up) chain recorded with old | new
          · exact unmet d (List.mem_cons_of_mem _ later) chain old extended
          · exact nodup.1 (new.sibling extended ▸ later)
      rw [trail_succ succ budget up seen]
      simp only [chains,List.foldl_cons,taken]
      refine fold _ _ (List.nodup_reverse.mpr (distinct v)) (rooted.snoc parent v) (by simp) ?_
      intro c _ chain member extended
      rcases List.mem_append.mp member with old | new
      · exact unmet chain old ((List.suffix_cons c (v :: up)).trans extended)
      · rw [List.mem_singleton.mp new] at extended
        have long := extended.length_le
        simp only [List.length_cons] at long
        omega

theorem leading_eq (succ : V → List V) (distinct : ∀ v, (succ v).Nodup) (limit : Nat) (source : V) :
    leading succ limit source = trail succ limit [] source [] :=
  keep_chains succ distinct limit (by simp [Rooted]) (Or.inl rfl) (by simp)

-- Apart from the source, the bounded search meets exactly the successors of
-- the vertices whose leading chain leaves a hop to spare.
theorem explore_leading (succ : V → List V) (distinct : ∀ v, (succ v).Nodup) (limit : Nat) (source v : V) :
    v ∈ explore succ limit [] source ↔
      v = source ∨ ∃ chain ∈ leading succ limit source, chain.2.length < limit ∧ v ∈ succ chain.1 := by
  have met : explore succ limit [] source = ends (trail succ limit [] source []) := by
    rw [trail_ends]
    rfl
  rw [met,leading_eq succ distinct]
  constructor
  · intro recorded
    obtain ⟨⟨w,up⟩,member,rfl⟩ := List.mem_map.mp recorded
    have facts := trail_chains succ
      (fun left chain => chain.2.length + left = limit ∧ (chain.2 = [] → chain.1 = source) ∧
        ∀ p above, chain.2 = p :: above → chain.1 ∈ succ p)
      (fun left v up c holds edge => ⟨by have length := holds.1; simp only [List.length_cons] at length ⊢; omega,
        by simp,by rintro p above ⟨⟩; exact edge⟩)
      limit [] source [] ⟨by simp,fun _ => rfl,by simp⟩ _ member
    rcases facts with impossible | ⟨left,_,length,root,edge⟩
    · cases impossible
    · cases up with
      | nil => exact Or.inl (root rfl)
      | cons p above =>
        have rooted : Rooted (trail succ limit [] source []) :=
          trail_rooted succ limit (by simp [Rooted]) (Or.inl rfl)
        refine Or.inr ⟨(p,above),parent_cons.mp (rooted _ member),?_,edge p above rfl⟩
        simp only [List.length_cons] at length ⊢
        omega
  · rintro (rfl | ⟨chain,member,short,edge⟩)
    · exact trail_meets succ limit [] v []
    · rcases trail_closed succ limit [] source [] chain member with impossible | closed
      · cases impossible
      · exact closed (by simpa using short) v edge
end DepthFirst
