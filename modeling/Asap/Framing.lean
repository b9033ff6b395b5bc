import Mathlib.Data.List.Infix

-- A buffer that is cut at a separator as often as it holds one, filled chunk by chunk.
namespace Framing
variable {α : Type u} [DecidableEq α] (separator : List α)

-- What stands before and after the first separator: `buffer.split(separator, 1)`.
def cut : List α → Option (List α × List α)
  | [] => none
  | c :: rest =>
    if separator.isPrefixOf (c :: rest) then some ([],(c :: rest).drop separator.length)
    else (cut rest).map (fun parts => (c :: parts.1,parts.2))

theorem cut_length {buffer before after : List α} (found : cut separator buffer = some (before,after)) :
    before.length + separator.length + after.length = buffer.length := by
  induction buffer generalizing before with
  | nil => cases found
  | cons c rest ih =>
    unfold cut at found
    split at found
    · rename_i starts
      cases found
      have short := (List.isPrefixOf_iff_prefix.mp starts).length_le
      rw [List.length_nil,List.length_drop]
      omega
    · obtain ⟨⟨first,second⟩,deeper,same⟩ := Option.map_eq_some_iff.mp found
      cases same
      have known : first.length + separator.length + second.length = rest.length := ih deeper
      simp only [List.length_cons]
      omega

-- Text that comes later does not move the first separator.
theorem cut_append {buffer before after : List α} (found : cut separator buffer = some (before,after)) (more : List α) :
    cut separator (buffer ++ more) = some (before,after ++ more) := by
  induction buffer generalizing before with
  | nil => cases found
  | cons c rest ih =>
    rw [List.cons_append]
    unfold cut at found ⊢
    split at found
    · rename_i starts
      have start := List.isPrefixOf_iff_prefix.mp starts
      have still : separator.isPrefixOf (c :: (rest ++ more)) = true := List.isPrefixOf_iff_prefix.mpr (start.trans ⟨more,rfl⟩)
      cases found
      rw [if_pos still,← List.cons_append,List.drop_append_of_le_length start.length_le]
    · rename_i other
      obtain ⟨⟨first,second⟩,deeper,same⟩ := Option.map_eq_some_iff.mp found
      cases same
      have long := cut_length separator deeper
      have never : ¬ separator.isPrefixOf (c :: (rest ++ more)) = true := by
        intro starts
        have start := List.isPrefixOf_iff_prefix.mp starts
        apply other
        apply List.isPrefixOf_iff_prefix.mpr
        apply List.prefix_of_prefix_length_le start ⟨more,rfl⟩
        simp only [List.length_cons]
        omega
      rw [if_neg never,ih deeper,Option.map_some]

-- A part without the first mark of the separator, and the separator after it.
theorem cut_part {mark : α} {rest part : List α} (free : mark ∉ part) (after : List α) :
    cut (mark :: rest) (part ++ (mark :: rest ++ after)) = some (part,after) := by
  induction part with
  | nil =>
    have starts : (mark :: rest).isPrefixOf (mark :: (rest ++ after)) = true := List.isPrefixOf_iff_prefix.mpr ⟨after,rfl⟩
    rw [List.nil_append,List.cons_append,cut,if_pos starts]
    simp
  | cons c others ih =>
    have different : ¬ (mark :: rest).isPrefixOf (c :: (others ++ (mark :: rest ++ after))) = true := by
      intro starts
      obtain ⟨_,same⟩ := List.isPrefixOf_iff_prefix.mp starts
      exact free (List.mem_cons.mpr (.inl (List.cons.inj same).1))
    have later := ih (fun member => free (List.mem_cons_of_mem _ member))
    rw [List.cons_append,cut,if_neg different,later,Option.map_some]

theorem cut_free {mark : α} {rest buffer : List α} (free : mark ∉ buffer) : cut (mark :: rest) buffer = none := by
  induction buffer with
  | nil => rfl
  | cons c others ih =>
    have different : ¬ (mark :: rest).isPrefixOf (c :: others) = true := by
      intro starts
      obtain ⟨_,same⟩ := List.isPrefixOf_iff_prefix.mp starts
      exact free (List.mem_cons.mpr (.inl (List.cons.inj same).1))
    rw [cut,if_neg different,ih (fun member => free (List.mem_cons_of_mem _ member)),Option.map_none]

-- `while separator in buffer`, at most so many times.
def drainFuel : Nat → List α → List (List α) × List α
  | 0,buffer => ([],buffer)
  | fuel + 1,buffer =>
    match cut separator buffer with
    | none => ([],buffer)
    | some (part,rest) => (part :: (drainFuel fuel rest).1,(drainFuel fuel rest).2)

def drain (buffer : List α) : List (List α) × List α := drainFuel separator buffer.length buffer

section Drain
variable {separator} (filled : separator ≠ [])
include filled

theorem cut_shrinks {buffer before after : List α} (found : cut separator buffer = some (before,after)) : after.length < buffer.length := by
  have whole := cut_length separator found
  have mark := List.length_pos_of_ne_nil filled
  omega

-- Each turn takes a separator away, so the length of the buffer is fuel enough.
theorem drainFuel_enough {fuel : Nat} {buffer : List α} (enough : buffer.length ≤ fuel) :
    drainFuel separator fuel buffer = drain separator buffer := by
  induction fuel using Nat.strongRecOn generalizing buffer with
  | ind fuel ih =>
    unfold drain
    cases fuel with
    | zero => rw [Nat.le_zero.mp enough]
    | succ fuel =>
      cases size : buffer.length with
      | zero =>
        rw [List.length_eq_zero_iff.mp size]
        rfl
      | succ n =>
        unfold drainFuel
        cases found : cut separator buffer with
        | none => rfl
        | some parts =>
          obtain ⟨part,rest⟩ := parts
          have shorter := cut_shrinks filled found
          have first := ih fuel (by omega) (show rest.length ≤ fuel by omega)
          have second := ih n (by omega) (show rest.length ≤ n by omega)
          simp only [first,second]

theorem drain_cut {buffer part rest : List α} (found : cut separator buffer = some (part,rest)) :
    drain separator buffer = (part :: (drain separator rest).1,(drain separator rest).2) := by
  have shorter := cut_shrinks filled found
  have again := drainFuel_enough filled (show buffer.length ≤ buffer.length + 1 by omega)
  rw [← again,drainFuel,found]
  simp only [drainFuel_enough filled (Nat.le_of_lt shorter)]

omit filled in
theorem drain_stop {buffer : List α} (missing : cut separator buffer = none) : drain separator buffer = ([],buffer) := by
  unfold drain
  cases buffer.length with
  | zero => rfl
  | succ n => rw [drainFuel,missing]

-- What more text adds to the parts of a buffer, the rest of the buffer decides.
theorem drain_append (buffer more : List α) : drain separator (buffer ++ more) =
    ((drain separator buffer).1 ++ (drain separator ((drain separator buffer).2 ++ more)).1,
      (drain separator ((drain separator buffer).2 ++ more)).2) := by
  induction size : buffer.length using Nat.strongRecOn generalizing buffer with
  | ind n ih =>
    cases found : cut separator buffer with
    | none =>
      rw [drain_stop found]
      rfl
    | some parts =>
      obtain ⟨part,rest⟩ := parts
      have shorter := cut_shrinks filled found
      have later := ih rest.length (by omega) rest rfl
      rw [drain_cut filled found,drain_cut filled (cut_append separator found more),later]
      rfl

theorem drain_rest (buffer : List α) : drain separator (drain separator buffer).2 = ([],(drain separator buffer).2) := by
  have again := drain_append filled buffer []
  rw [List.append_nil,List.append_nil] at again
  have parts := congrArg Prod.fst again
  have rest := congrArg Prod.snd again
  exact Prod.ext (List.self_eq_append_right.mp parts) rest.symm
end Drain

-- Parts that each end in the separator.
theorem drain_parts {mark : α} {rest : List α} {parts : List (List α)} (free : ∀ part ∈ parts, mark ∉ part) :
    drain (mark :: rest) (parts.flatMap (fun part => part ++ mark :: rest)) = (parts,[]) := by
  induction parts with
  | nil => rfl
  | cons part others ih =>
    have found : cut (mark :: rest) (part ++ (mark :: rest ++ others.flatMap (fun part => part ++ mark :: rest))) =
        some (part,others.flatMap (fun part => part ++ mark :: rest)) := cut_part (free part List.mem_cons_self) _
    have later := ih (fun other member => free other (List.mem_cons_of_mem _ member))
    rw [List.flatMap_cons,List.append_assoc,drain_cut (List.cons_ne_nil mark rest) found,later]

end Framing
