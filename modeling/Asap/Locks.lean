import Asap.Interleaving

-- Tasks that take locks from their store, and logs in which every event has its reason in the events before it.
namespace Interleaving
open OrderedDict

section Strengthen
variable {S : Type u} {L : Type v} {step : S → L → Option S} {allowed : S → L → Prop} {s final : S} {labels : List L}

-- What every step keeps may be used in the next ones.
theorem Runs.strengthen (invariant : S → Prop)
    (keeps : ∀ s label next, allowed s label → step s label = some next → invariant s → invariant next)
    (run : Runs step allowed s labels final) (start : invariant s) :
    Runs step (fun s label => allowed s label ∧ invariant s) s labels final := by
  induction run with
  | nil => exact .nil _
  | cons s middle final label rest permitted taken _ ih =>
    exact .cons s middle final label rest ⟨permitted,start⟩ taken (ih (keeps s label middle permitted taken start))

theorem Runs.append {middle : S} {others : List L} (one : Runs step allowed s labels middle) (two : Runs step allowed middle others final) :
    Runs step allowed s (labels ++ others) final := by
  induction one with
  | nil => exact two
  | cons s middle _ label rest permitted taken _ ih => exact .cons s middle final label (rest ++ others) permitted taken (ih two)
end Strengthen

section Locks
variable {S : Type u} {K : Type v} {I : Type w} {E : Type x} {L : Type y} (held : S → List L) (holds : K → Option L)

-- Every lock that is held is held by one task in flight.
structure Exclusive (m : Machine S K E) : Prop where
  distinct : (held m.store).Nodup
  sole : Sole holds m.tasks
  held_iff : ∀ lock, lock ∈ held m.store ↔ ∃ id task, m.tasks.get id = some task ∧ holds task = some lock

variable {held holds} {m : Machine S K E} {id : Nat} {task task' : K} {store : S}

theorem exclusive_init (store : S) (unlocked : held store = []) : Exclusive held holds (.init store : Machine S K E) := by
  refine ⟨?_,?_,?_⟩
  · rw [Machine.init,unlocked]
    exact List.nodup_nil
  · intro _ _ _ _ _ found
    cases found
  · intro lock
    rw [Machine.init,unlocked]
    refine iff_of_false List.not_mem_nil ?_
    rintro ⟨_,_,found,_⟩
    cases found

-- Another task does not hold the lock of this one.
theorem Exclusive.apart (exclusive : Exclusive held holds m) {other : Nat} {waiting : K} {lock : L} (known : m.tasks.get id = some task)
    (own : holds task = some lock) (different : other ≠ id) (found : m.tasks.get other = some waiting) : holds waiting ≠ some lock :=
  fun marked => different (exclusive.sole other id waiting task lock found known marked own)

theorem Exclusive.arrive (exclusive : Exclusive held holds m) (absent : m.tasks.get id = none) (without : holds task = none) :
    Exclusive held holds {m with tasks := m.tasks.set id task} := by
  refine ⟨exclusive.distinct,?_,?_⟩
  · refine exclusive.sole.set ?_
    intro _ _ _ _ _ _ own
    rw [without] at own
    cases own
  · intro lock
    rw [exclusive.held_iff]
    constructor
    · rintro ⟨other,waiting,found,own⟩
      refine ⟨other,waiting,?_,own⟩
      rw [Dict.get_set_other]
      · exact found
      · rintro rfl
        rw [absent] at found
        cases found
    · rintro ⟨other,waiting,found,own⟩
      rw [Dict.get_set] at found
      split at found
      · cases found
        rw [without] at own
        cases own
      · exact ⟨other,waiting,found,own⟩

variable [DecidableEq L]

variable (held holds) in
-- What a step may do with the locks: nothing, take a free one, or give its own back.
inductive LockStep (before : S) (task : K) (after : S) (task' : K) : Prop where
  | keeps (same : held after = held before) (still : holds task' = holds task)
  | takes (lock : L) (without : holds task = none) (free : lock ∉ held before) (taken : held after = lock :: held before)
      (own : holds task' = some lock)
  | gives (lock : L) (own : holds task = some lock) (back : held after = (held before).erase lock) (without : holds task' = none)

theorem Exclusive.proceed (exclusive : Exclusive held holds m) (known : m.tasks.get id = some task)
    (moved : LockStep held holds m.store task store task') (log : List E) : Exclusive held holds ⟨store,m.tasks.set id task',log⟩ := by
  cases moved with
  | keeps same still =>
    refine ⟨same ▸ exclusive.distinct,exclusive.sole.keep known (.inl still),?_⟩
    intro lock
    simp only [same,exclusive.held_iff]
    constructor
    · rintro ⟨other,waiting,found,own⟩
      by_cases itself : id = other
      · subst itself
        rw [known] at found
        cases found
        exact ⟨id,task',Dict.get_set_self _ _ _,still.trans own⟩
      · exact ⟨other,waiting,(Dict.get_set_other _ _ itself).trans found,own⟩
    · rintro ⟨other,waiting,found,own⟩
      rw [Dict.get_set] at found
      split at found
      · cases found
        exact ⟨id,task,known,still.symm.trans own⟩
      · exact ⟨other,waiting,found,own⟩
  | takes lock without free taken own =>
    have unheld (other : Nat) (waiting : K) (found : m.tasks.get other = some waiting) : holds waiting ≠ some lock :=
      fun marked => free ((exclusive.held_iff lock).mpr ⟨other,waiting,found,marked⟩)
    refine ⟨taken ▸ List.nodup_cons.mpr ⟨free,exclusive.distinct⟩,exclusive.sole.set ?_,?_⟩
    · intro other waiting mark _ found marked mine
      rw [own] at mine
      cases mine
      exact unheld other waiting found marked
    · intro mark
      simp only [taken,List.mem_cons,exclusive.held_iff]
      constructor
      · rintro (rfl | ⟨other,waiting,found,marked⟩)
        · exact ⟨id,task',Dict.get_set_self _ _ _,own⟩
        · refine ⟨other,waiting,?_,marked⟩
          rw [Dict.get_set_other]
          · exact found
          · rintro rfl
            rw [known] at found
            cases found
            rw [without] at marked
            cases marked
      · rintro ⟨other,waiting,found,marked⟩
        rw [Dict.get_set] at found
        split at found
        · cases found
          rw [own] at marked
          cases marked
          exact .inl rfl
        · exact .inr ⟨other,waiting,found,marked⟩
  | gives lock own back without =>
    refine ⟨back ▸ exclusive.distinct.erase lock,exclusive.sole.keep known (.inr without),?_⟩
    intro mark
    simp only [back,exclusive.distinct.mem_erase_iff,exclusive.held_iff]
    constructor
    · rintro ⟨different,other,waiting,found,marked⟩
      refine ⟨other,waiting,?_,marked⟩
      rw [Dict.get_set_other]
      · exact found
      · rintro rfl
        rw [known] at found
        cases found
        rw [own] at marked
        exact different (Option.some.inj marked).symm
    · rintro ⟨other,waiting,found,marked⟩
      rw [Dict.get_set] at found
      split at found
      · cases found
        rw [without] at marked
        cases marked
      · rename_i different
        refine ⟨?_,other,waiting,found,marked⟩
        rintro rfl
        exact different (exclusive.sole id other task waiting mark known found own marked)

theorem Program.next_exclusive (p : Program S K I E) (arrives : ∀ task, p.arrives task → holds task = none)
    (advances : ∀ s task input store task' events, p.advance s task input = some (store,task',events) → LockStep held holds s task store task')
    (move : Move K I) (m next : Machine S K E) (taken : p.next m move = some next) (exclusive : Exclusive held holds m) :
    Exclusive held holds next := by
  cases move with
  | arrive id task =>
    obtain ⟨joins,absent,rfl⟩ := p.next_arrive m next id task taken
    exact exclusive.arrive absent (arrives task joins)
  | proceed id input =>
    obtain ⟨task,store,task',events,known,advanced,rfl⟩ := p.next_proceed m next id input taken
    exact exclusive.proceed known (advances m.store task input store task' events advanced) _

-- Programs that only take free locks and give back their own.
theorem Program.exclusive (p : Program S K I E) (allowed : Machine S K E → Move K I → Prop)
    (arrives : ∀ task, p.arrives task → holds task = none)
    (advances : ∀ s task input store task' events, p.advance s task input = some (store,task',events) → LockStep held holds s task store task')
    {m final : Machine S K E} {moves : List (Move K I)} (run : Runs p.next allowed m moves final) (start : Exclusive held holds m) :
    Exclusive held holds final :=
  run.invariant (Exclusive held holds) (fun m move next _ taken exclusive => p.next_exclusive arrives advances move m next taken exclusive) start
end Locks

section Logs
variable {E : Type u} (reason : List E → E → Prop)

-- Each event of the log has its reason in the events before it.
inductive Justified : List E → Prop where
  | nil : Justified []
  | snoc (earlier : List E) (event : E) (before : Justified earlier) (given : reason earlier event) : Justified (earlier ++ [event])

variable {reason}

theorem justified_iff {log : List E} : Justified reason log ↔ ∀ earlier event later, log = earlier ++ event :: later → reason earlier event := by
  constructor
  · intro justified
    induction justified with
    | nil => simp
    | snoc before last _ given ih =>
      intro earlier event later same
      rcases List.eq_nil_or_concat later with rfl | ⟨rest,final,rfl⟩
      · obtain ⟨rfl,rfl⟩ := List.append_inj' same rfl |>.imp_right List.singleton_inj.mp
        exact given
      · rw [List.concat_eq_append,← List.cons_append,← List.append_assoc] at same
        exact ih earlier event rest (List.append_inj' same rfl).1
  · induction log using List.reverseRecOn with
    | nil => exact fun _ => .nil
    | append_singleton earlier event ih =>
      intro all
      refine .snoc earlier event (ih fun before middle later same => ?_) (all earlier event [] rfl)
      exact all before middle (later ++ [event]) (by rw [same,List.append_assoc,List.cons_append])

theorem Justified.append {log : List E} (justified : Justified reason log) (event : E) (given : reason log event) :
    Justified reason (log ++ [event]) :=
  .snoc log event justified given

-- What the last event tells of something, among those that tell of it.
def latest (tells : E → Option α) (log : List E) : Option α := log.reverse.findSome? tells

theorem latest_append (tells : E → Option α) (log : List E) (event : E) : latest tells (log ++ [event]) = (tells event).or (latest tells log) := by
  unfold latest
  rw [List.reverse_append,List.reverse_singleton,List.singleton_append,List.findSome?_cons]
  cases tells event <;> rfl

theorem latest_other {tells : E → Option α} {event : E} (other : tells event = none) (log : List E) :
    latest tells (log ++ [event]) = latest tells log := by
  rw [latest_append,other,Option.none_or]

theorem latest_own {tells : E → Option α} {event : E} {told : α} (own : tells event = some told) (log : List E) :
    latest tells (log ++ [event]) = some told := by
  rw [latest_append,own,Option.some_or]
end Logs

end Interleaving
