import Asap.Interleaving

-- A producer that reads an input and a consumer, with a bounded queue between them. An item that
-- reads as `none` is the last one: it ends the producer, and the consumer when it comes out.
namespace Pipeline
open Interleaving

structure Stages (I : Type u) (M : Type v) (E : Type w) (O : Type x) where
  capacity : Nat
  room : 0 < capacity
  read : I → Except E (Option M)
  consume : M → Except E (List O)

-- What the producer is about to do. `failed` and `ended` are for good.
inductive Producer (M : Type v) (E : Type w) where
  | reading
  | putting (item : Option M)
  | ended
  | failed (error : E)

inductive Consumer (E : Type w) where
  | running
  | ended
  | failed (error : E)

structure State (I : Type u) (M : Type v) (E : Type w) (O : Type x) where
  input : List I
  queue : List (Option M)
  producer : Producer M E
  consumer : Consumer E
  output : List O

inductive Turn where
  | read
  | put
  | take

variable {I : Type u} {M : Type v} {E : Type w} {O : Type x} (stages : Stages I M E O)

def start (input : List I) : State I M E O := ⟨input,[],.reading,.running,[]⟩

-- The end of the input reads as `none` as well.
def step (s : State I M E O) : Turn → Option (State I M E O)
  | .read =>
    match s.producer,s.input with
    | .reading,[] => some { s with producer := .putting none }
    | .reading,line :: rest =>
      match stages.read line with
      | .ok item => some { s with input := rest,producer := .putting item }
      | .error error => some { s with input := rest,producer := .failed error }
    | _,_ => none
  | .put =>
    match s.producer with
    | .putting item =>
      if s.queue.length < stages.capacity then
        some { s with queue := s.queue ++ [item],producer := if item.isSome then .reading else .ended }
      else none
    | _ => none
  | .take =>
    match s.consumer,s.queue with
    | .running,none :: rest => some { s with queue := rest,consumer := .ended }
    | .running,some item :: rest =>
      match stages.consume item with
      | .ok written => some { s with queue := rest,output := s.output ++ written }
      | .error error => some { s with queue := rest,consumer := .failed error }
    | _,_ => none

-- The messages of an input, up to the item that ends it.
def messages : List I → List M
  | [] => []
  | line :: rest =>
    match stages.read line with
    | .ok (some item) => item :: messages rest
    | _ => []

-- What is written for a message that is consumed without an error.
def written (item : M) : List O := ((stages.consume item).toOption).getD []

def answers (input : List I) : List O := (messages stages input).flatMap (written stages)

-- No item up to the end fails, neither where it is read nor where it is consumed.
def Sound : List I → Prop
  | [] => True
  | line :: rest =>
    match stages.read line with
    | .error _ => False
    | .ok none => True
    | .ok (some item) => (∃ out, stages.consume item = .ok out) ∧ Sound rest

def Consumable (items : List M) : Prop := ∀ item ∈ items, ∃ out, stages.consume item = .ok out

-- `items` are the messages still to be consumed: those in the queue, the one in hand, and those not read.
def Ahead (s : State I M E O) (items : List M) : Prop :=
  match s.producer with
  | .reading => Sound stages s.input ∧ ∃ queued, s.queue = queued.map some ∧ items = queued ++ messages stages s.input
  | .putting (some item) => Sound stages s.input ∧ ∃ queued, s.queue = queued.map some ∧ items = queued ++ item :: messages stages s.input
  | .putting none => s.queue = items.map some
  | .ended => s.queue = items.map some ++ [none]
  | .failed _ => False

-- The invariant of a sound input: nothing has failed, and what is written with what is ahead is all of it.
def Keeps (input : List I) (s : State I M E O) : Prop :=
  (s.consumer = .ended ∧ s.producer = .ended ∧ s.queue = [] ∧ s.output = answers stages input) ∨
    (s.consumer = .running ∧ ∃ items, Ahead stages s items ∧ Consumable stages items ∧
      s.output ++ items.flatMap (written stages) = answers stages input)

variable {stages}

theorem sound_consumable (input : List I) (sound : Sound stages input) : Consumable stages (messages stages input) := by
  induction input with
  | nil =>
    intro item member
    cases member
  | cons line rest ih =>
    unfold Sound at sound
    unfold messages
    cases reads : stages.read line with
    | error error =>
      intro item member
      cases member
    | ok item =>
      cases item with
      | none =>
        intro item member
        cases member
      | some item =>
        simp only [reads] at sound
        intro other member
        rcases List.mem_cons.mp member with rfl | later
        · exact sound.1
        · exact ih sound.2 other later

theorem start_keeps {input : List I} (sound : Sound stages input) : Keeps stages input (start input) :=
  .inr ⟨rfl,messages stages input,⟨sound,[],rfl,rfl⟩,sound_consumable input sound,rfl⟩

theorem read_keeps {input : List I} {s next : State I M E O} (taken : step stages s .read = some next) (keeps : Keeps stages input s) :
    Keeps stages input next := by
  rcases keeps with ⟨_,ended,_⟩ | ⟨running,items,ahead,consumable,total⟩
  · simp [step,ended] at taken
  · simp only [step] at taken
    unfold Ahead at ahead
    split at taken
    · rename_i reading empty
      cases taken
      simp only [reading,empty,messages,List.append_nil] at ahead
      obtain ⟨_,queued,shape,rfl⟩ := ahead
      exact .inr ⟨running,items,shape,consumable,total⟩
    · rename_i line rest reading found
      simp only [reading,found,Sound,messages] at ahead
      obtain ⟨sound,queued,shape,same⟩ := ahead
      cases reads : stages.read line with
      | error error => simp [reads] at sound
      | ok item =>
        simp only [reads,Option.some.injEq] at taken sound same
        subst taken
        cases item with
        | none =>
          simp only [List.append_nil] at same
          subst same
          exact .inr ⟨running,items,shape,consumable,total⟩
        | some item => exact .inr ⟨running,items,⟨sound.2,queued,shape,same⟩,consumable,total⟩
    · cases taken

theorem put_keeps {input : List I} {s next : State I M E O} (taken : step stages s .put = some next) (keeps : Keeps stages input s) :
    Keeps stages input next := by
  rcases keeps with ⟨_,ended,_⟩ | ⟨running,items,ahead,consumable,total⟩
  · simp [step,ended] at taken
  · simp only [step] at taken
    unfold Ahead at ahead
    split at taken
    · rename_i item putting
      split at taken
      · cases taken
        cases item with
        | none =>
          simp only [putting] at ahead
          exact .inr ⟨running,items,by simp [Ahead,ahead],consumable,total⟩
        | some item =>
          simp only [putting] at ahead
          obtain ⟨sound,queued,shape,same⟩ := ahead
          exact .inr ⟨running,items,⟨sound,queued ++ [item],by simp [shape],by simp [same]⟩,consumable,total⟩
      · cases taken
    · cases taken

-- What comes out of the queue is the first of what is ahead.
theorem ahead_take {s : State I M E O} {items : List M} {item : M} {rest : List (Option M)} (ahead : Ahead stages s items)
    (queue : s.queue = some item :: rest) : ∃ later, items = item :: later ∧ Ahead stages { s with queue := rest } later := by
  unfold Ahead at ahead ⊢
  rw [queue] at ahead
  cases producer : s.producer with
  | reading =>
    simp only [producer] at ahead ⊢
    obtain ⟨sound,queued,shape,rfl⟩ := ahead
    cases queued with
    | nil => cases shape
    | cons first others =>
      cases shape
      exact ⟨_,rfl,sound,others,rfl,rfl⟩
  | putting held =>
    cases held with
    | none =>
      simp only [producer] at ahead ⊢
      cases items with
      | nil => cases ahead
      | cons first others =>
        cases ahead
        exact ⟨others,rfl,rfl⟩
    | some held =>
      simp only [producer] at ahead ⊢
      obtain ⟨sound,queued,shape,rfl⟩ := ahead
      cases queued with
      | nil => cases shape
      | cons first others =>
        cases shape
        exact ⟨_,rfl,sound,others,rfl,rfl⟩
  | ended =>
    simp only [producer] at ahead ⊢
    cases items with
    | nil => cases ahead
    | cons first others =>
      cases ahead
      exact ⟨others,rfl,rfl⟩
  | failed error => simp [producer] at ahead

theorem ahead_end {s : State I M E O} {items : List M} {rest : List (Option M)} (ahead : Ahead stages s items)
    (queue : s.queue = none :: rest) : items = [] ∧ rest = [] ∧ s.producer = .ended := by
  unfold Ahead at ahead
  rw [queue] at ahead
  split at ahead
  · obtain ⟨_,queued,shape,_⟩ := ahead
    cases queued <;> cases shape
  · obtain ⟨_,queued,shape,_⟩ := ahead
    cases queued <;> cases shape
  · cases items <;> cases ahead
  · rename_i ended
    cases items with
    | nil =>
      cases ahead
      exact ⟨rfl,rfl,ended⟩
    | cons first others => cases ahead
  · exact ahead.elim

theorem take_keeps {input : List I} {s next : State I M E O} (taken : step stages s .take = some next) (keeps : Keeps stages input s) :
    Keeps stages input next := by
  rcases keeps with ⟨ended,_,empty,_⟩ | ⟨running,items,ahead,consumable,total⟩
  · simp [step,ended] at taken
  · simp only [step] at taken
    split at taken
    · rename_i rest _ queue
      cases taken
      obtain ⟨rfl,rfl,ended⟩ := ahead_end ahead queue
      exact .inl ⟨rfl,ended,rfl,by simpa using total⟩
    · rename_i item rest _ queue
      obtain ⟨later,rfl,others⟩ := ahead_take ahead queue
      obtain ⟨out,consumed⟩ := consumable item List.mem_cons_self
      simp only [consumed,Option.some.injEq] at taken
      subst taken
      refine .inr ⟨running,later,others,fun other member => consumable other (List.mem_cons_of_mem _ member),?_⟩
      rw [← total,List.flatMap_cons,written,consumed,List.append_assoc]
      rfl
    · cases taken

theorem step_keeps {input : List I} {s next : State I M E O} (turn : Turn) (taken : step stages s turn = some next) (keeps : Keeps stages input s) :
    Keeps stages input next := by
  cases turn with
  | read => exact read_keeps taken keeps
  | put => exact put_keeps taken keeps
  | take => exact take_keeps taken keeps

-- A state in which no turn can be taken has nothing left to do.
theorem stuck_ended {input : List I} {s : State I M E O} (keeps : Keeps stages input s) (stuck : ∀ turn, step stages s turn = none) :
    s.consumer = .ended ∧ s.producer = .ended ∧ s.output = answers stages input := by
  rcases keeps with ⟨ended,done,_,output⟩ | ⟨running,items,ahead,consumable,_⟩
  · exact ⟨ended,done,output⟩
  · exfalso
    have taking := stuck .take
    cases queue : s.queue with
    | cons first rest =>
      cases first with
      | none => simp [step,running,queue] at taking
      | some item =>
        obtain ⟨later,rfl,_⟩ := ahead_take ahead queue
        obtain ⟨out,consumed⟩ := consumable item List.mem_cons_self
        simp [step,running,queue,consumed] at taking
    | nil =>
      have room := stages.room
      have reading := stuck .read
      have putting := stuck .put
      unfold Ahead at ahead
      cases producer : s.producer with
      | reading =>
        simp only [producer] at ahead
        cases input : s.input with
        | nil => simp [step,producer,input] at reading
        | cons line rest =>
          have sound := ahead.1
          rw [input,Sound] at sound
          cases reads : stages.read line with
          | error error => simp [reads] at sound
          | ok item => simp [step,producer,input,reads] at reading
      | putting item => simp [step,producer,queue,room] at putting
      | ended => simp [producer,queue] at ahead
      | failed error => simp [producer] at ahead

-- How many turns a state can still take.
def left (s : State I M E O) : Nat :=
  3 * s.input.length + s.queue.length + (match s.producer with
    | .reading => 3
    | .putting none => 2
    | .putting (some _) => 5
    | .ended | .failed _ => 0)

theorem step_left {s next : State I M E O} (turn : Turn) (taken : step stages s turn = some next) : left next < left s := by
  cases turn with
  | read =>
    simp only [step] at taken
    split at taken
    · rename_i reading empty
      cases taken
      simp [left,reading]
    · rename_i line rest reading found
      split at taken
      · rename_i item _
        cases taken
        simp only [left,reading,found,List.length_cons]
        cases item <;> simp only <;> omega
      · cases taken
        simp only [left,reading,found,List.length_cons]
        omega
    · cases taken
  | put =>
    simp only [step] at taken
    split at taken
    · rename_i item putting
      split at taken
      · cases taken
        cases item with
        | none =>
          simp only [left,putting,List.length_append,List.length_singleton,Option.isSome_none,Bool.false_eq_true,if_false]
          omega
        | some item =>
          simp only [left,putting,List.length_append,List.length_singleton,Option.isSome_some,if_true]
          omega
      · cases taken
    · cases taken
  | take =>
    simp only [step] at taken
    split at taken
    · rename_i queue
      cases taken
      simp [left,queue]
    · rename_i queue
      split at taken
      · cases taken
        simp [left,queue]
      · cases taken
        simp [left,queue]
    · cases taken

-- Every run is finite.
theorem run_length {s final : State I M E O} {turns : List Turn} {allowed : State I M E O → Turn → Prop}
    (run : Runs (step stages) allowed s turns final) : turns.length + left final ≤ left s := by
  induction run with
  | nil s => simp
  | cons s middle final turn rest _ taken _ ih =>
    have less := step_left turn taken
    rw [List.length_cons]
    omega

-- In every run over a sound input nothing fails, and where the run can go no further everything has been
-- read, and what is written is the answers to the whole input.
theorem run_answers {input : List I} {final : State I M E O} {turns : List Turn} {allowed : State I M E O → Turn → Prop}
    (sound : Sound stages input) (run : Runs (step stages) allowed (start input) turns final) :
    (∀ error, final.producer ≠ .failed error) ∧ (∀ error, final.consumer ≠ .failed error) ∧ turns.length ≤ 3 * input.length + 3 ∧
      ((∀ turn, step stages final turn = none) → final.consumer = .ended ∧ final.producer = .ended ∧ final.output = answers stages input) := by
  have keeps : Keeps stages input final := run.invariant (Keeps stages input)
    (fun _ turn _ _ taken kept => step_keeps turn taken kept) (start_keeps sound)
  refine ⟨?_,?_,?_,stuck_ended keeps⟩
  · intro error failed
    rcases keeps with ⟨_,ended,_⟩ | ⟨_,items,ahead,_⟩
    · rw [ended] at failed
      cases failed
    · simp [Ahead,failed] at ahead
  · intro error failed
    rcases keeps with ⟨ended,_⟩ | ⟨running,_⟩
    · rw [ended] at failed
      cases failed
    · rw [running] at failed
      cases failed
  · have bound := run_length run
    simp only [left,start,List.length_nil] at bound
    omega

end Pipeline
