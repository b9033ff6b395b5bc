import Asap.IssueOps

-- What becomes of an agent that an issue has registered: how later issues remove and revoke it.
namespace Asap.IssueOps
open Interleaving OrderedDict PythonValue IssueForms
open Manifests (Rules Manifest validateAgentUrn isUrnChar)

section Urns

theorem mem_intersperse {sep x : α} {items : List α} (member : x ∈ items.intersperse sep) : x = sep ∨ x ∈ items := by
  match items with
  | [] => cases member
  | [only] => exact Or.inr (by simpa using member)
  | first :: second :: rest =>
    rw [List.intersperse_cons_cons] at member
    rcases List.mem_cons.mp member with rfl | member
    · exact Or.inr List.mem_cons_self
    · rcases List.mem_cons.mp member with rfl | member
      · exact Or.inl rfl
      · rcases mem_intersperse member with same | later
        · exact Or.inl same
        · exact Or.inr (List.mem_cons_of_mem _ later)

theorem mem_splitOn (mark : Char) {c : Char} {text : List Char} (member : c ∈ text) : c = mark ∨ ∃ word ∈ text.splitOn mark, c ∈ word := by
  have joined : [mark].intercalate (text.splitOn mark) = text := List.intercalate_splitOn mark
  rw [← joined] at member
  obtain ⟨word,listed,inside⟩ := List.mem_flatten.mp member
  rcases mem_intersperse listed with rfl | listed
  · exact Or.inl (List.mem_singleton.mp inside)
  · exact Or.inr ⟨word,listed,inside⟩

theorem urnChar_plain {c : Char} (fine : isUrnChar c = true) : isPlain c = true := by
  have bounds : (97 ≤ c.toNat ∧ c.toNat ≤ 122) ∨ (48 ≤ c.toNat ∧ c.toNat ≤ 57) ∨ c.toNat = 45 := by
    simp only [isUrnChar,Bool.or_eq_true,Bool.and_eq_true,decide_eq_true_eq] at fine
    rcases fine with (both | both) | rfl
    · exact Or.inl both
    · exact Or.inr (Or.inl both)
    · exact Or.inr (Or.inr rfl)
  have apart (d : Char) (different : c.toNat ≠ d.toNat) : c ≠ d := fun same => different (by rw [same])
  have mark : c ≠ '`' := apart '`' (by
    have : '`'.toNat = 96 := rfl
    omega)
  have less : c ≠ '<' := apart '<' (by
    have : '<'.toNat = 60 := rfl
    omega)
  simp only [isPlain,isControl,isSpace,mark,less,Bool.and_eq_true,decide_eq_true_eq,ne_eq,not_false_eq_true,Bool.not_eq_true',
    Bool.or_eq_false_iff,decide_eq_false_iff_not,Bool.and_eq_false_iff,true_and]
  omega

theorem head_plain : "urn:asap:agent:".toList.all isPlain = true := by decide

-- A URN without a line break at its end is made of characters that the sanitiser leaves alone.
theorem validUrn_plain {urn : String} (valid : validateAgentUrn urn = true) (closed : urn.toList.getLast? ≠ some '\n') :
    ∀ c ∈ urn.toList, isPlain c = true := by
  simp only [validateAgentUrn,Bool.and_eq_true,decide_eq_true_eq] at valid
  obtain ⟨⟨⟨-,starts⟩,-⟩,words⟩ := valid
  obtain ⟨body,split⟩ := List.isPrefixOf_iff_prefix.mp starts
  rw [← split,List.drop_left] at words
  have unbroken : body.getLast? ≠ some '\n' := by
    intro broken
    rw [← split,List.getLast?_append,broken] at closed
    exact closed rfl
  rw [if_neg unbroken,List.all_eq_true] at words
  rw [← split]
  intro c member
  rcases List.mem_append.mp member with first | later
  · exact List.all_eq_true.mp head_plain c first
  · rcases mem_splitOn ':' later with rfl | ⟨word,listed,inside⟩
    · decide
    · have fine := words word listed
      simp only [Bool.and_eq_true,List.all_eq_true] at fine
      exact urnChar_plain (fine.2 c inside)

theorem four_toList (a b c d : String) : (a ++ b ++ c ++ d).toList = a.toList ++ b.toList ++ c.toList ++ d.toList := by
  rw [String.toList_append,String.toList_append,String.toList_append]

theorem agentUrn_toList (python : Python) (author name : String) :
    (agentUrn python author name).toList = "urn:asap:agent:".toList ++ (python.lower author).toList ++ ":".toList ++ name.toList :=
  four_toList _ _ _ _

theorem trim_last {text : List Char} {c : Char} (last : (trim text).getLast? = some c) : isSpace c = false := by
  rw [trim,List.getLast?_reverse] at last
  cases trimmed : (text.dropWhile isSpace).reverse.dropWhile isSpace with
  | nil => simp [trimmed] at last
  | cons d rest =>
    rw [trimmed] at last
    cases last
    have kept := List.head?_dropWhile_not isSpace (text.dropWhile isSpace).reverse
    rw [trimmed] at kept
    simpa using kept
end Urns

section Accepted
variable {rules : Rules} {python : Python} {world : World rules} {body author : String} {before after : Files}

def agentsOf (file : File) : List Document :=
  match loadRegistry file with
  | some (.list agents) => agents
  | _ => []

theorem agentsOf_save (file : File) (now : String) (agents : List Document) : agentsOf (saveRegistry file now agents) = agents := by
  unfold agentsOf
  rw [load_save]

theorem entry_hasId (models : RegistryMerge.Python) (entry : RegistryMerge.RegistryEntry) (urn : String) :
    hasId urn ⟨RegistryMerge.entryPayload models entry,entry_distinct models entry⟩ = decide (entry.id = urn) := by
  simp [hasId,RegistryMerge.entryPayload,lookupItem]

theorem addAgent_valid {manifest : Manifest rules} {entry : RegistryMerge.RegistryEntry}
    (accepted : addAgent python world manifest entry before = (.valid,after)) :
    ∃ agents, loadRegistry before.registry = some (.list agents) ∧ agents.any (hasId manifest.id) = false ∧
      after = ⟨saveRegistry before.registry world.now
        (agents ++ [⟨RegistryMerge.entryPayload python.models entry,entry_distinct python.models entry⟩]),before.revoked⟩ := by
  unfold addAgent at accepted
  split at accepted
  · rename_i agents loads
    split at accepted
    · cases accepted
    · split at accepted
      · cases accepted
      · rename_i fresh
        cases accepted
        exact ⟨agents,loads,Bool.eq_false_iff.mpr fresh,rfl⟩
  · cases accepted

theorem required_none {form : Form} {field label : String} (none : required form body field label = []) : form.text body field ≠ "" := by
  intro missing
  rw [required,if_pos missing] at none
  cases none

-- An accepted registration has added the agent of the issue's name, whose URN was not listed.
theorem register_valid (accepted : register python world body author before = (.valid,after)) :
    ∃ (manifest : Manifest rules) (agents : List Document) (entry : Document),
      manifest.id = agentUrn python author (registrationForm.text body "name") ∧ registrationForm.text body "name" ≠ "" ∧
      loadRegistry before.registry = some (.list agents) ∧ agents.any (hasId manifest.id) = false ∧
      (∀ urn, hasId urn entry = decide (manifest.id = urn)) ∧
      after = ⟨saveRegistry before.registry world.now (agents ++ [entry]),before.revoked⟩ := by
  unfold register at accepted
  simp only at accepted
  split at accepted
  · cases accepted
  · rename_i complete
    have given := not_not.mp complete
    simp only [List.append_eq_nil_iff] at given
    split at accepted
    · split at accepted
      · cases accepted
      · cases accepted
    · rename_i manifest fetched
      split at accepted
      · cases accepted
      · rename_i fine
        have correct := not_not.mp fine
        unfold manifestErrors at correct
        simp only [List.append_eq_nil_iff] at correct
        have identified : manifest.id = agentUrn python author (registrationForm.text body "name") := by
          by_contra different
          have first := correct.1.1.1.1
          rw [if_pos different] at first
          cases first
        split at accepted
        · cases accepted
        · cases accepted
        · obtain ⟨agents,loads,fresh,rfl⟩ := addAgent_valid accepted
          refine ⟨manifest,agents,_,identified,required_none given.1.1.1,loads,fresh,?_,rfl⟩
          intro urn
          exact entry_hasId _ _ urn
end Accepted

section Same
variable {urn : String}

theorem lookup_unique {items : List (Key × Value)} {name : String} {value : Value} (distinct : (items.map Prod.fst).Nodup)
    (member : (Key.str name,value) ∈ items) : lookupItem name items = some value := by
  unfold lookupItem
  cases found : items.find? (fun item => decide (item.1 = .str name)) with
  | none =>
    have absent := List.find?_eq_none.mp found _ member
    simp at absent
  | some item =>
    have key : item.1 = .str name := by simpa using List.find?_some found
    have same : item = (.str name,value) := List.inj_on_of_nodup_map distinct (List.mem_of_find?_eq_some found) member key
    rw [same]
    rfl

theorem sameItems_find {items others : List (Key × Value)} {item : Key × Value} (same : sameItems items others = true) (member : item ∈ items) :
    ∃ other ∈ others, other.1.same item.1 = true ∧ item.2.same other.2 = true := by
  induction items with
  | nil => cases member
  | cons first rest ih =>
    simp only [sameItems,Bool.and_eq_true] at same
    rcases List.mem_cons.mp member with rfl | later
    · obtain ⟨other,there,both⟩ := List.any_eq_true.mp same.1
      exact ⟨other,there,Bool.and_eq_true_iff.mp both⟩
    · exact ih same.2 later

theorem hasId_iff {agent : Document} :
    hasId urn agent = true ↔ ∃ items, agent.1 = .dict items ∧ lookupItem "id" items = some (.str urn) := by
  unfold hasId
  constructor
  · intro has
    split at has
    · rename_i items object
      split at has
      · rename_i id named
        have same := of_decide_eq_true has
        subst same
        exact ⟨items,object,named⟩
      · cases has
    · cases has
  · rintro ⟨items,object,named⟩
    simp only [object,named,decide_true]

-- Equal objects have the same id.
theorem same_hasId {a b : Document} (same : a.1.same b.1 = true) (has : hasId urn a = true) : hasId urn b = true := by
  obtain ⟨items,object,named⟩ := hasId_iff.mp has
  obtain ⟨item,found,text⟩ := Option.map_eq_some_iff.mp named
  have key : item.1 = .str "id" := by simpa using List.find?_some found
  rw [object] at same
  cases there : b.1 with
  | dict others =>
    rw [there] at same
    simp only [Value.same,Bool.and_eq_true] at same
    obtain ⟨other,member,sameKey,sameText⟩ := sameItems_find same.2 (List.mem_of_find?_eq_some found)
    rw [key] at sameKey
    rw [text] at sameText
    have written : other = (.str "id",.str urn) := Prod.ext (Key.eq_of_same_str sameKey) (Value.eq_of_str_same sameText)
    rw [written] at member
    have distinct := b.2
    rw [there] at distinct
    simp only [distinctKeys,Bool.and_eq_true,decide_eq_true_eq] at distinct
    exact hasId_iff.mpr ⟨others,there,lookup_unique distinct.1 member⟩
  | _ =>
    rw [there] at same
    simp [Value.same,Value.number] at same

theorem hasId_unique {other : String} {agent : Document} (has : hasId urn agent = true) (also_ : hasId other agent = true) : urn = other := by
  obtain ⟨items,object,named⟩ := hasId_iff.mp has
  obtain ⟨others,again,renamed⟩ := hasId_iff.mp also_
  rw [object] at again
  cases again
  rw [named] at renamed
  cases renamed
  rfl
end Same

section Once
variable {urn : String}

-- At most one agent is listed under the URN.
def Once (urn : String) (files : Files) : Prop := (agentsOf files.registry).countP (hasId urn) ≤ 1

-- Erasing the one element of a kind keeps the others.
theorem eraseP_only {p q : α → Bool} {items : List α} (narrower : ∀ a, p a = true → q a = true) (some : ∃ a ∈ items, p a = true)
    (once : items.countP q ≤ 1) : items.eraseP p = items.filter (fun a => !q a) := by
  induction items with
  | nil => simp at some
  | cons a rest ih =>
    rw [List.countP_cons] at once
    by_cases here : p a = true
    · have kind := narrower a here
      rw [if_pos kind] at once
      have none : rest.countP q = 0 := by omega
      rw [List.eraseP_cons_of_pos here,List.filter_cons_of_neg (by simp [kind])]
      refine (List.filter_eq_self.mpr ?_).symm
      intro b member
      simpa using List.countP_eq_zero.mp none b member
    · have later : ∃ b ∈ rest, p b = true := by
        obtain ⟨b,member,kind⟩ := some
        rcases List.mem_cons.mp member with rfl | inside
        · exact absurd kind here
        · exact ⟨b,inside,kind⟩
      have positive : 0 < rest.countP q := by
        obtain ⟨b,member,kind⟩ := later
        exact List.countP_pos_iff.mpr ⟨b,member,narrower b kind⟩
      have other : ¬ q a = true := by
        intro kind
        rw [if_pos kind] at once
        omega
      rw [List.eraseP_cons_of_neg here,List.filter_cons_of_pos (by simp [other]),ih later (by rw [if_neg other] at once; omega)]
theorem agentsOf_loads {file : File} {agents : List Document} (loads : loadRegistry file = some (.list agents)) : agentsOf file = agents := by
  unfold agentsOf
  rw [loads]

theorem any_agentsOf {file : File} (listed : (agentsOf file).any (hasId urn) = true) : loadRegistry file = some (.list (agentsOf file)) := by
  unfold agentsOf at listed ⊢
  split at listed
  · rename_i agents loads
    rw [loads]
  · simp at listed

variable {rules : Rules} {python : Python}

inductive Move (rules : Rules) where
  | register (world : World rules) (body author : String)
  | remove (now body author : String)
  | revoke (now body : String)

def step (python : Python) (files : Files) : Move rules → Option Files
  | .register world body author => some (register python world body author files).2
  | .remove now body author => some (remove python now body author files).2
  | .revoke now body => some (revoke python now body files).2

theorem addAgent_refused {world : World rules} {manifest : Manifest rules} {entry : RegistryMerge.RegistryEntry} {files : Files}
    (refused : (addAgent python world manifest entry files).1 ≠ .valid) : (addAgent python world manifest entry files).2 = files := by
  unfold addAgent at refused ⊢
  split
  · split
    · rfl
    · split
      · rfl
      · rename_i agents loads hashable fresh
        rw [loads] at refused
        simp only [if_neg hashable,if_neg fresh,ne_eq,not_true_eq_false] at refused
  · rfl

theorem register_refused {world : World rules} {body author : String} {files : Files}
    (refused : (register python world body author files).1 ≠ .valid) : (register python world body author files).2 = files := by
  unfold register at refused ⊢
  simp only at refused ⊢
  split
  · rfl
  · rename_i complete
    rw [if_neg complete] at refused
    split
    · split <;> rfl
    · rename_i manifest fetched
      rw [fetched] at refused
      simp only at refused
      split
      · rfl
      · rename_i fine
        rw [if_neg fine] at refused
        split
        · rfl
        · rfl
        · rename_i safe
          rw [safe] at refused
          exact addAgent_refused refused

theorem recordRevoked_registry (now urn reason : String) (files : Files) : (recordRevoked python now urn reason files).2.registry = files.registry := by
  unfold recordRevoked
  split
  · rfl
  · split
    · rfl
    · split <;> rfl

theorem revoke_registry (now body : String) (files : Files) : (revoke python now body files).2.registry = files.registry := by
  unfold revoke
  simp only
  split
  · rfl
  · split
    · rfl
    · split
      · split
        · rfl
        · rfl
        · exact recordRevoked_registry _ _ _ _
      · rfl
      · rfl

theorem removeAgent_agents (now expectedId : String) (files : Files) :
    ∃ p, agentsOf (removeAgent python now expectedId files).2.registry = (agentsOf files.registry).eraseP p := by
  have unchanged : ∃ p, agentsOf files.registry = (agentsOf files.registry).eraseP p :=
    ⟨fun _ => false,(List.eraseP_of_forall_not (fun _ _ impossible => by cases impossible)).symm⟩
  unfold removeAgent
  simp only
  split
  · rename_i agents loads
    split
    · rename_i found finds
      refine ⟨fun agent => found.1.same agent.1,?_⟩
      rw [agentsOf_save,agentsOf_loads loads]
    · exact unchanged
  · exact unchanged
  · exact unchanged

theorem remove_agents (python : Python) (now body author : String) (files : Files) :
    ∃ p, agentsOf (remove python now body author files).2.registry = (agentsOf files.registry).eraseP p := by
  unfold remove
  simp only
  split
  · exact ⟨fun _ => false,(List.eraseP_of_forall_not (fun _ _ impossible => by cases impossible)).symm⟩
  · exact removeAgent_agents _ _ _

theorem register_once {world : World rules} {body author : String} {files after : Files} {result : Result}
    (ran : register python world body author files = (result,after)) (once : Once urn files) : Once urn after := by
  by_cases accepted : result = .valid
  · rw [accepted] at ran
    obtain ⟨manifest,agents,entry,-,-,loads,fresh,identified,after_⟩ := register_valid ran
    unfold Once at once ⊢
    rw [after_,agentsOf_save,List.countP_append,List.countP_singleton,identified urn]
    rw [agentsOf_loads loads] at once
    by_cases own : manifest.id = urn
    · have none : agents.countP (hasId urn) = 0 := by
        rw [List.countP_eq_zero]
        intro agent member has
        rw [own,List.any_eq_false] at fresh
        exact fresh agent member has
      rw [none]
      split <;> omega
    · simpa [own] using once
  · have refused : (register python world body author files).1 ≠ .valid := by
      rw [ran]
      exact accepted
    have same := register_refused refused
    rw [ran] at same
    simp only at same
    rw [same]
    exact once

theorem step_once {files next : Files} (move : Move rules) (taken : step python files move = some next) (once : Once urn files) :
    Once urn next := by
  cases move with
  | register world body author =>
    simp only [step,Option.some.injEq] at taken
    rw [← taken]
    exact register_once Prod.mk.eta.symm once
  | remove now body author =>
    simp only [step,Option.some.injEq] at taken
    obtain ⟨p,after⟩ := remove_agents python now body author files
    rw [taken] at after
    unfold Once
    rw [after]
    exact le_trans (List.Sublist.countP_le List.eraseP_sublist) once
  | revoke now body =>
    simp only [step,Option.some.injEq] at taken
    unfold Once
    rw [← taken,revoke_registry]
    exact once
end Once

section Removed
variable {urn : String} {python : Python}

-- The run has removed the agent with the URN and nothing else.
structure Removed (urn : String) (before : Files) (outcome : Result × Files) : Prop where
  valid : outcome.1 = .valid
  agents : agentsOf outcome.2.registry = (agentsOf before.registry).filter (fun agent => !hasId urn agent)
  revoked : outcome.2.revoked = before.revoked

theorem truncate_short {text : String} {n : Nat} (short : text.length ≤ n) : truncate text n = text := by
  unfold truncate
  rw [List.take_of_length_le (by rw [String.length_toList]; exact short),String.ofList_toList]

theorem truncate_length (text : String) (n : Nat) : (truncate text n).length = min n text.length := by
  rw [truncate,String.length_ofList,List.length_take,String.length_toList]

theorem truncate_nonempty {text : String} {n : Nat} (positive : 0 < n) (nonempty : text ≠ "") : truncate text n ≠ "" := by
  intro empty
  have length := truncate_length text n
  rw [empty] at length
  have some : text.length ≠ 0 := fun none => nonempty (String.length_eq_zero_iff.mp none)
  simp only [String.length_empty] at length
  omega

theorem four_length (a b c d : String) : (a ++ b ++ c ++ d).length = a.length + b.length + c.length + d.length := by
  rw [String.length_append,String.length_append,String.length_append]

theorem agentUrn_length (python : Python) (author name : String) :
    (agentUrn python author name).length = "urn:asap:agent:".length + (python.lower author).length + ":".length + name.length :=
  four_length _ _ _ _

theorem removeAgent_found {now expectedId : String} {files : Files} {agents : List Document} {found : Document}
    (loads : loadRegistry files.registry = some (.list agents)) (finds : agents.find? (hasId expectedId) = some found) :
    removeAgent python now expectedId files =
      (.valid,⟨saveRegistry files.registry now (agents.eraseP (fun agent => found.1.same agent.1)),files.revoked⟩) := by
  unfold removeAgent
  simp only [loads,finds]

theorem removeAgent_valid {now expectedId : String} {files : Files} {agents : List Document}
    (loads : loadRegistry files.registry = some (.list agents)) (valid : (removeAgent python now expectedId files).1 = .valid) :
    ∃ found, agents.find? (hasId expectedId) = some found := by
  unfold removeAgent at valid
  simp only [loads] at valid
  split at valid
  · rename_i found finds
    exact ⟨found,finds⟩
  · cases valid

-- A removal with the agent's own URN removes it.
theorem removeAgent_removed {now : String} {files : Files} (once : Once urn files) (listed : (agentsOf files.registry).any (hasId urn) = true) :
    Removed urn files (removeAgent python now urn files) := by
  have loads := any_agentsOf listed
  cases finds : (agentsOf files.registry).find? (hasId urn) with
  | none =>
    obtain ⟨agent,member,has⟩ := List.any_eq_true.mp listed
    exact absurd has (List.find?_eq_none.mp finds agent member)
  | some found =>
    rw [removeAgent_found loads finds]
    refine ⟨rfl,?_,rfl⟩
    rw [agentsOf_save]
    have own : hasId urn found = true := List.find?_some finds
    exact eraseP_only (fun agent same => same_hasId same own) ⟨found,List.mem_of_find?_eq_some finds,Value.same_refl _⟩ once

-- A removal with another URN leaves it.
theorem removeAgent_other {now expectedId : String} {files : Files} (different : expectedId ≠ urn)
    (listed : (agentsOf files.registry).any (hasId urn) = true) : ¬ Removed urn files (removeAgent python now expectedId files) := by
  intro removed
  have loads := any_agentsOf listed
  obtain ⟨found,finds⟩ := removeAgent_valid loads removed.valid
  have after := removed.agents
  rw [removeAgent_found loads finds,agentsOf_save] at after
  obtain ⟨agent,member,has⟩ := List.any_eq_true.mp listed
  have apart : ¬ found.1.same agent.1 = true := fun same =>
    different (hasId_unique (same_hasId same (List.find?_some finds)) has)
  have kept : agent ∈ (agentsOf files.registry).filter (fun agent => !hasId urn agent) := by
    rw [← after]
    exact (List.mem_eraseP_of_neg (p := fun agent : Document => found.1.same agent.1) apart).mpr member
  have dropped := (List.mem_filter.mp kept).2
  rw [has] at dropped
  cases dropped

theorem removed_iff {now removal author name : String} {files : Files} (given : removalForm.given removal "name" = some name.toList)
    (plain : ∀ c ∈ name.toList, isPlain c = true) (named : name ≠ "") (once : Once (agentUrn python author name) files)
    (listed : (agentsOf files.registry).any (hasId (agentUrn python author name)) = true) :
    Removed (agentUrn python author name) files (remove python now removal author files) ↔ name.length ≤ 100 := by
  have text : removalForm.text removal "name" = truncate name 100 := text_plain removalForm given plain
  have run : remove python now removal author files = removeAgent python now (agentUrn python author (truncate name 100)) files := by
    unfold remove
    have some : truncate name 100 ≠ "" := truncate_nonempty (by decide) named
    simp only [text,if_neg some]
  rw [run]
  constructor
  · intro removed
    by_contra long
    refine removeAgent_other ?_ listed removed
    intro same
    have lengths := congrArg String.length same
    rw [agentUrn_length,agentUrn_length,truncate_length] at lengths
    omega
  · intro short
    rw [truncate_short short]
    exact removeAgent_removed once listed
end Removed

section Recorded
variable {urn : String} {python : Python}

def revokedList (file : File) : Option RevokedAgentsList := (loadRevoked file).bind validateRevoked

def isObject (agent : Document) : Bool :=
  match agent.1 with
  | .dict _ => true
  | _ => false

-- The run has added the URN to the revoked ones, and nothing else.
structure Recorded (urn reason now : String) (before : Files) (outcome : Result × Files) : Prop where
  valid : outcome.1 = .valid
  registry : outcome.2.registry = before.registry
  revoked : ∃ list, revokedList before.revoked = some list ∧
    revokedList outcome.2.revoked = some { list with revoked := list.revoked ++ [⟨urn,reason,now⟩] }

theorem readRevokedEntry_dump (entry : RevokedEntry) : readRevokedEntry (dumpRevokedEntry entry) = some entry := by
  simp [readRevokedEntry,dumpRevokedEntry,onlyMembers,lookupItem,text?,Key.string]

theorem revokedList_save (list : RevokedAgentsList) : revokedList (saveRevoked list) = some list := by
  have entries : (list.revoked.map dumpRevokedEntry).mapM readRevokedEntry = some list.revoked := by
    induction list.revoked with
    | nil => rfl
    | cons entry rest ih => simp [readRevokedEntry_dump,ih]
  simp [revokedList,saveRevoked,loadRevoked,validateRevoked,onlyMembers,lookupItem,text?,Key.string,entries]

theorem anyHasId_iff {agents : List Document} :
    anyHasId urn agents = some true ↔
      agents.any (hasId urn) = true ∧ (agents.takeWhile (fun agent => !hasId urn agent)).all isObject = true := by
  induction agents with
  | nil => simp [anyHasId]
  | cons agent rest ih =>
    unfold anyHasId
    split
    · rename_i items object
      by_cases has : hasId urn agent = true
      · simp [has]
      · have object_ : isObject agent = true := by simp [isObject,object]
        rw [if_neg has,ih]
        simp [has,object_]
    · rename_i other
      have none : hasId urn agent = false := by
        rw [Bool.eq_false_iff]
        intro has
        obtain ⟨items,object,-⟩ := hasId_iff.mp has
        exact other items object
      have odd : isObject agent = false := by
        unfold isObject
        split
        · rename_i items object
          exact absurd object (other items)
        · rfl
      simp [none,odd]

theorem recordRevoked_iff {now reason : String} {files : Files} (id : String) :
    Recorded urn reason now files (recordRevoked python now id reason files) ↔
      id = urn ∧ ∃ list, revokedList files.revoked = some list ∧ ∀ entry ∈ list.revoked, entry.urn ≠ urn := by
  unfold recordRevoked revokedList
  cases loads : loadRevoked files.revoked with
  | none =>
    refine ⟨?_,?_⟩
    · intro recorded
      cases recorded.valid
    · rintro ⟨-,list,impossible,-⟩
      cases impossible
  | some revokedData =>
    simp only [Option.bind_some]
    cases reads : validateRevoked revokedData with
    | none =>
      refine ⟨?_,?_⟩
      · intro recorded
        cases recorded.valid
      · rintro ⟨-,list,impossible,-⟩
        cases impossible
    | some list =>
      have before : revokedList files.revoked = some list := by rw [revokedList,loads]; exact reads
      simp only
      split
      · rename_i listed
        refine ⟨?_,?_⟩
        · intro recorded
          cases recorded.valid
        · rintro ⟨rfl,_,same,fresh⟩
          cases same
          obtain ⟨entry,member,named⟩ := List.any_eq_true.mp listed
          exact absurd (of_decide_eq_true named) (fresh entry member)
      · rename_i fresh
        have unlisted : ∀ entry ∈ list.revoked, entry.urn ≠ id := by
          intro entry member same
          exact fresh (List.any_eq_true.mpr ⟨entry,member,decide_eq_true same⟩)
        constructor
        · intro recorded
          obtain ⟨list_,same,after⟩ := recorded.revoked
          rw [before] at same
          cases same
          rw [revokedList_save] at after
          have appended := List.append_cancel_left (congrArg RevokedAgentsList.revoked (Option.some.inj after))
          have equal : id = urn := by
            cases appended
            rfl
          subst equal
          exact ⟨rfl,list,rfl,unlisted⟩
        · rintro ⟨rfl,-⟩
          exact ⟨rfl,rfl,list,before,revokedList_save _⟩
theorem required_given {form : Form} {body field label : String} (given : form.text body field ≠ "") : required form body field label = [] :=
  if_neg given

-- The agents before the URN's are objects.
def ObjectsBefore (urn : String) (file : File) : Prop := ((agentsOf file).takeWhile (fun agent => !hasId urn agent)).all isObject = true

def Unrevoked (urn : String) (file : File) : Prop := ∃ list, revokedList file = some list ∧ ∀ entry ∈ list.revoked, entry.urn ≠ urn

theorem recorded_iff {now revocation : String} {files : Files} (given : revocationForm.given revocation "urn" = some urn.toList)
    (plain : ∀ c ∈ urn.toList, isPlain c = true) (starts : "urn:asap:agent:".toList <+: urn.toList)
    (reasoned : revocationForm.text revocation "reason" ≠ "") (listed : (agentsOf files.registry).any (hasId urn) = true) :
    Recorded urn (revocationForm.text revocation "reason") now files (revoke python now revocation files) ↔
      urn.length ≤ 200 ∧ ObjectsBefore urn files.registry ∧ Unrevoked urn files.revoked := by
  have text : revocationForm.text revocation "urn" = truncate urn 200 := text_plain revocationForm given plain
  have nonempty : urn ≠ "" := by
    rintro rfl
    exact absurd starts (by decide)
  have named : revocationForm.text revocation "urn" ≠ "" := by
    rw [text]
    exact truncate_nonempty (by decide) nonempty
  have prefix_ : "urn:asap:agent:".toList <+: (truncate urn 200).toList := by
    have taken : (truncate urn 200).toList = urn.toList.take 200 := by rw [truncate,String.toList_ofList]
    have bound : "urn:asap:agent:".toList.length ≤ 200 := by decide
    rw [taken]
    exact List.prefix_take_iff.mpr ⟨starts,bound⟩
  have run : revoke python now revocation files =
      (anyHasId (truncate urn 200) (agentsOf files.registry)).elim (.raised,files) (fun present =>
        cond present (recordRevoked python now (truncate urn 200) (revocationForm.text revocation "reason") files)
          (.invalid ["Agent " ++ python.repr (truncate urn 200) ++ " not found in the registry. " ++
            "The agent must be registered before it can be revoked."],files)) := by
    rcases found : anyHasId (truncate urn 200) (agentsOf files.registry) with _ | _ | _ <;>
      simp only [revoke,required_given named,required_given reasoned,List.append_nil,ne_eq,not_true_eq_false,if_false,text,
        if_neg (not_not.mpr prefix_),any_agentsOf listed,found,Option.elim,cond]
  rw [run]
  constructor
  · intro recorded
    cases found : anyHasId (truncate urn 200) (agentsOf files.registry) with
    | none =>
      rw [found] at recorded
      cases recorded.valid
    | some answer =>
      rw [found] at recorded
      cases answer with
      | false => cases recorded.valid
      | true =>
        obtain ⟨same,unrevoked⟩ := (recordRevoked_iff _).mp recorded
        rw [same] at found
        have short : urn.length ≤ 200 := by
          rw [← same,truncate_length]
          exact Nat.min_le_left _ _
        exact ⟨short,(anyHasId_iff.mp found).2,unrevoked⟩
  · rintro ⟨short,objects,unrevoked⟩
    rw [truncate_short short,anyHasId_iff.mpr ⟨listed,objects⟩]
    exact (recordRevoked_iff urn).mpr ⟨rfl,unrevoked⟩
end Recorded

section Withdrawn
variable {rules : Rules} {python : Python} {world : World rules} {body author : String} {before registered : Files}

-- The texts of an accepted registration, and that its URN is listed once.
theorem registered_parts (accepted : register python world body author before = (.valid,registered)) :
    registrationForm.text body "name" ≠ "" ∧
      (∀ c ∈ (agentUrn python author (registrationForm.text body "name")).toList, isPlain c = true) ∧
      Once (agentUrn python author (registrationForm.text body "name")) registered ∧
      (agentsOf registered.registry).any (hasId (agentUrn python author (registrationForm.text body "name"))) = true := by
  obtain ⟨manifest,agents,entry,identified,named,loads,fresh,own,rfl⟩ := register_valid accepted
  have has : hasId (agentUrn python author (registrationForm.text body "name")) entry = true := by
    rw [own]
    exact decide_eq_true identified
  refine ⟨named,?_,?_,?_⟩
  · have valid : validateAgentUrn manifest.id = true := by
      have whole := manifest.accepted
      simp only [Manifests.manifestAccepted,Bool.and_eq_true] at whole
      exact whole.1.1.1.1
    rw [identified] at valid
    refine validUrn_plain valid ?_
    intro last
    have nonempty : (registrationForm.text body "name").toList ≠ [] := fun none => named (String.toList_eq_nil_iff.mp none)
    rw [agentUrn_toList,List.getLast?_append_of_ne_nil _ nonempty,Form.text,String.toList_ofList] at last
    have visible := trim_last last
    exact absurd visible (by decide)
  · unfold Once
    rw [agentsOf_save,List.countP_append,List.countP_singleton,if_pos has]
    have none : agents.countP (hasId (agentUrn python author (registrationForm.text body "name"))) = 0 := by
      rw [List.countP_eq_zero]
      intro agent member other
      rw [identified,List.any_eq_false] at fresh
      exact fresh agent member other
    rw [none]
  · rw [agentsOf_save,List.any_append]
    simp [has]

-- The first agent of a registry has none before it, and is not revoked where there is no list.
theorem first_registered (accepted : register python world body author ⟨.missing,.missing⟩ = (.valid,registered)) :
    ObjectsBefore (agentUrn python author (registrationForm.text body "name")) registered.registry ∧
      Unrevoked (agentUrn python author (registrationForm.text body "name")) registered.revoked := by
  obtain ⟨manifest,agents,entry,identified,-,loads,-,own,rfl⟩ := register_valid accepted
  have has : hasId (agentUrn python author (registrationForm.text body "name")) entry = true := by
    rw [own]
    exact decide_eq_true identified
  cases loads
  constructor
  · unfold ObjectsBefore
    rw [agentsOf_save]
    simp [has]
  · exact ⟨⟨[],"1.0"⟩,rfl,fun entry impossible => by cases impossible⟩
end Withdrawn

-- After an accepted registration, and as long as the agent is listed, the removal with its name and the revocation
-- with its URN take effect exactly when the name has at most 100 and the URN at most 200 characters, what is listed
-- before the agent are objects, and revoked_agents.json can be read and does not hold the URN yet.
theorem withdrawn_iff {rules : Rules} {python : Python} {world : World rules} {body author : String} {before registered later : Files}
    {moves : List (Move rules)} {removal revocation : String} (removalTime revocationTime : String)
    (accepted : register python world body author before = (.valid,registered))
    (run : Runs (step python) (fun _ _ => True) registered moves later)
    (listed : (agentsOf later.registry).any (hasId (agentUrn python author (registrationForm.text body "name"))) = true)
    (named : removalForm.given removal "name" = some (registrationForm.text body "name").toList)
    (given : revocationForm.given revocation "urn" = some (agentUrn python author (registrationForm.text body "name")).toList)
    (reasoned : revocationForm.text revocation "reason" ≠ "") :
    (Removed (agentUrn python author (registrationForm.text body "name")) later (remove python removalTime removal author later) ∧
      Recorded (agentUrn python author (registrationForm.text body "name")) (revocationForm.text revocation "reason") revocationTime later
        (revoke python revocationTime revocation later)) ↔
      (registrationForm.text body "name").length ≤ 100 ∧
      (agentUrn python author (registrationForm.text body "name")).length ≤ 200 ∧
      ObjectsBefore (agentUrn python author (registrationForm.text body "name")) later.registry ∧
      Unrevoked (agentUrn python author (registrationForm.text body "name")) later.revoked := by
  obtain ⟨nonempty,plain,start,-⟩ := registered_parts accepted
  have once : Once (agentUrn python author (registrationForm.text body "name")) later :=
    run.invariant (Once _) (fun _ move _ _ taken once => step_once move taken once) start
  have namePlain : ∀ c ∈ (registrationForm.text body "name").toList, isPlain c = true := by
    intro c member
    refine plain c ?_
    rw [agentUrn_toList]
    exact List.mem_append_right _ member
  have starts : "urn:asap:agent:".toList <+: (agentUrn python author (registrationForm.text body "name")).toList := by
    rw [agentUrn_toList,List.append_assoc,List.append_assoc]
    exact List.prefix_append _ _
  rw [removed_iff named namePlain nonempty once listed,recorded_iff given plain starts reasoned listed]

section Accepts
variable {rules : Rules} {python : Python} {world : World rules} {body author : String}

-- A complete form whose manifest and endpoints are in order registers the first agent.
theorem register_accepts {manifest : Manifest rules}
    (complete : ∀ field ∈ ["name","manifest_url","http_endpoint","skills"], registrationForm.text body field ≠ "")
    (fetched : world.fetchManifest (registrationForm.text body "manifest_url") = .ok manifest)
    (correct : manifestErrors python (agentUrn python author (registrationForm.text body "name")) (registrationForm.text body "name")
      (registrationForm.text body "http_endpoint") (registrationForm.text body "websocket_endpoint")
      (commaSeparated (registrationForm.text body "skills")) manifest = [])
    (safe : unsafeEndpointErrors world (registrationForm.text body "http_endpoint") (registrationForm.text body "websocket_endpoint") = some []) :
    (register python world body author ⟨.missing,.missing⟩).1 = .valid := by
  obtain ⟨name,manifestUrl,httpEndpoint,skills⟩ : _ ∧ _ ∧ _ ∧ _ := ⟨complete "name" (by simp),complete "manifest_url" (by simp),
    complete "http_endpoint" (by simp),complete "skills" (by simp)⟩
  unfold register
  simp only [required_given name,required_given manifestUrl,required_given httpEndpoint,required_given skills,List.append_nil,ne_eq,
    not_true_eq_false,if_false,fetched,correct,safe]
  rfl
end Accepts

def registrationBody (name : List Char) : List Char :=
  "### Agent name (slug-friendly)\n".toList ++ name ++ "\n### Manifest URL\nm\n### HTTP Endpoint\nh\n### Skills\necho".toList

def removalBody (name : List Char) : List Char := "### Agent name (slug-friendly)\n".toList ++ name

def revocationBody (urn : List Char) : List Char := "### Agent URN\n".toList ++ urn ++ "\n### Reason\nclosed".toList

def rules0 : Rules := ⟨Char.isDigit,fun _ => true⟩

def plainPython : Python := ⟨id,fun text => "'" ++ text ++ "'",fun _ => "[]",⟨DateTime.isoformat,fun _ => .error (.escaped ""),id⟩,fun _ => ""⟩

-- The manifest of an agent of `acme`, with one skill.
def echoManifest (name : String)
    (accepted : Manifests.manifestAccepted rules0 (agentUrn plainPython "acme" name) "1.0.0" ["2.2"] none 300 = true) : Manifest rules0 where
  id := agentUrn plainPython "acme" name
  name := name
  version := "1.0.0"
  description := "Echoes"
  capabilities := { skills := [⟨"echo","Echo",none,none⟩] }
  endpoints := { asap := "h" }
  accepted := accepted

def echoWorld (manifest : Manifest rules0) : World rules0 := ⟨fun _ => .ok manifest,fun _ => some true,"2026-01-01T12:00:00Z"⟩

section Registration
variable {name : List Char}

def entriesOf (name : List Char) : List (String × List Char) :=
  [("name",name),("manifest_url",['m']),("http_endpoint",['h']),("skills",['e','c','h','o'])]

theorem registration_text (parsed : (registrationForm.parseIssueBody (registrationBody name)).entries = entriesOf name) (field : String) :
    registrationForm.text (String.ofList (registrationBody name)) field = String.ofList (trim ((find field (entriesOf name)).getD [])) := by
  rw [text_ofList,Form.characters,Dict.get,parsed]

theorem registration_valid
    (accepted : Manifests.manifestAccepted rules0 (agentUrn plainPython "acme" (String.ofList name)) "1.0.0" ["2.2"] none 300 = true)
    (parsed : (registrationForm.parseIssueBody (registrationBody name)).entries = entriesOf name) (nonempty : name ≠ [])
    (trimmed : trim name = name) :
    (register plainPython (echoWorld (echoManifest (String.ofList name) accepted)) (String.ofList (registrationBody name)) "acme"
      ⟨.missing,.missing⟩).1 = .valid := by
  have named : registrationForm.text (String.ofList (registrationBody name)) "name" = String.ofList name := by
    rw [registration_text parsed]
    exact congrArg String.ofList trimmed
  have manifestUrl : registrationForm.text (String.ofList (registrationBody name)) "manifest_url" = "m" := registration_text parsed _
  have httpEndpoint : registrationForm.text (String.ofList (registrationBody name)) "http_endpoint" = "h" := registration_text parsed _
  have websocketEndpoint : registrationForm.text (String.ofList (registrationBody name)) "websocket_endpoint" = "" := registration_text parsed _
  have skills : registrationForm.text (String.ofList (registrationBody name)) "skills" = "echo" := registration_text parsed _
  have comma : commaSeparated "echo" = ["echo"] := by decide
  refine register_accepts ?_ rfl ?_ ?_
  · intro field member
    simp only [List.mem_cons,List.not_mem_nil,or_false] at member
    rcases member with rfl | rfl | rfl | rfl
    · rw [named]
      exact fun empty => nonempty (by simpa using congrArg String.toList empty)
    · rw [manifestUrl]
      decide
    · rw [httpEndpoint]
      decide
    · rw [skills]
      decide
  · rw [named,httpEndpoint,websocketEndpoint,skills,comma]
    simp [manifestErrors,echoManifest]
  · rw [httpEndpoint,websocketEndpoint]
    rfl
end Registration

theorem accepted_pair {outcome : Result × Files} (valid : outcome.1 = .valid) : outcome = (.valid,outcome.2) := by
  rw [← valid]

theorem echo_urn : Manifests.manifestAccepted rules0 (agentUrn plainPython "acme" (String.ofList ['e','c','h','o'])) "1.0.0" ["2.2"] none 300 = true := by
  decide

theorem echo_entries : (registrationForm.parseIssueBody (registrationBody ['e','c','h','o'])).entries = entriesOf ['e','c','h','o'] := by
  decide

def echoRegistered : Files :=
  (register plainPython (echoWorld (echoManifest (String.ofList ['e','c','h','o']) echo_urn)) (String.ofList (registrationBody ['e','c','h','o']))
    "acme" ⟨.missing,.missing⟩).2

-- `echo` is registered, and both issues take effect on it.
theorem withdrawn_echo :
    Removed (agentUrn plainPython "acme" "echo") echoRegistered
        (remove plainPython "" (String.ofList (removalBody ['e','c','h','o'])) "acme" echoRegistered) ∧
      Recorded (agentUrn plainPython "acme" "echo") "closed" "" echoRegistered
        (revoke plainPython "" (String.ofList (revocationBody "urn:asap:agent:acme:echo".toList)) echoRegistered) := by
  have accepted : register plainPython (echoWorld (echoManifest (String.ofList ['e','c','h','o']) echo_urn))
      (String.ofList (registrationBody ['e','c','h','o'])) "acme" ⟨.missing,.missing⟩ = (.valid,echoRegistered) :=
    accepted_pair (registration_valid echo_urn echo_entries (by decide) (by decide))
  have name : registrationForm.text (String.ofList (registrationBody ['e','c','h','o'])) "name" = "echo" := registration_text echo_entries _
  have reason : revocationForm.text (String.ofList (revocationBody "urn:asap:agent:acme:echo".toList)) "reason" = "closed" := by
    rw [text_ofList]
    decide
  obtain ⟨objects,unrevoked⟩ := first_registered accepted
  obtain ⟨-,-,-,listed⟩ := registered_parts accepted
  have named : removalForm.given (String.ofList (removalBody ['e','c','h','o'])) "name" =
      some (registrationForm.text (String.ofList (registrationBody ['e','c','h','o'])) "name").toList := by
    rw [name,Form.given,String.toList_ofList]
    decide
  have given : revocationForm.given (String.ofList (revocationBody "urn:asap:agent:acme:echo".toList)) "urn" =
      some (agentUrn plainPython "acme" (registrationForm.text (String.ofList (registrationBody ['e','c','h','o'])) "name")).toList := by
    rw [name,Form.given,String.toList_ofList]
    decide
  have reasoned : revocationForm.text (String.ofList (revocationBody "urn:asap:agent:acme:echo".toList)) "reason" ≠ "" := by
    rw [reason]
    decide
  have short : (registrationForm.text (String.ofList (registrationBody ['e','c','h','o'])) "name").length ≤ 100 := by
    rw [name]
    decide
  have within : (agentUrn plainPython "acme" (registrationForm.text (String.ofList (registrationBody ['e','c','h','o'])) "name")).length ≤ 200 := by
    rw [name]
    decide
  have run : Runs (step plainPython) (fun _ _ => True) echoRegistered ([] : List (Move rules0)) echoRegistered := .nil _
  have settled := (withdrawn_iff "" "" accepted run listed named given reasoned).mpr ⟨short,within,objects,unrevoked⟩
  rw [name,reason] at settled
  exact settled

theorem long_urn : Manifests.manifestAccepted rules0 (agentUrn plainPython "acme" (String.ofList (List.replicate 101 'a'))) "1.0.0" ["2.2"] none 300 =
    true := by
  have characters : (agentUrn plainPython "acme" (String.ofList (List.replicate 101 'a'))).toList =
      "urn:asap:agent:acme:".toList ++ List.replicate 101 'a' := by
    rw [agentUrn_toList,String.toList_ofList]
    rfl
  unfold Manifests.manifestAccepted validateAgentUrn
  rw [← String.length_toList,characters]
  decide +kernel

theorem long_entries : (registrationForm.parseIssueBody (registrationBody (List.replicate 101 'a'))).entries = entriesOf (List.replicate 101 'a') := by
  decide +kernel

def longRegistered : Result × Files :=
  register plainPython (echoWorld (echoManifest (String.ofList (List.replicate 101 'a')) long_urn))
    (String.ofList (registrationBody (List.replicate 101 'a'))) "acme" ⟨.missing,.missing⟩

-- An agent whose name has 101 letters is accepted, and its removal under that name leaves it in the registry.
theorem long_name_stays : longRegistered.1 = .valid ∧
    removalForm.given (String.ofList (removalBody (List.replicate 101 'a'))) "name" = some (List.replicate 101 'a') ∧
    ¬ Removed (agentUrn plainPython "acme" (String.ofList (List.replicate 101 'a'))) longRegistered.2
        (remove plainPython "" (String.ofList (removalBody (List.replicate 101 'a'))) "acme" longRegistered.2) := by
  have valid : longRegistered.1 = .valid := registration_valid long_urn long_entries (by decide) (by decide)
  have given : removalForm.given (String.ofList (removalBody (List.replicate 101 'a'))) "name" = some (List.replicate 101 'a') := by
    rw [Form.given,String.toList_ofList]
    decide +kernel
  have name : registrationForm.text (String.ofList (registrationBody (List.replicate 101 'a'))) "name" = String.ofList (List.replicate 101 'a') := by
    rw [registration_text long_entries]
    exact congrArg String.ofList (by decide)
  have accepted : longRegistered = (.valid,longRegistered.2) := accepted_pair valid
  obtain ⟨nonempty,plain,once,listed⟩ := registered_parts accepted
  rw [name] at nonempty plain once listed
  refine ⟨valid,given,?_⟩
  have letters : ∀ c ∈ (String.ofList (List.replicate 101 'a')).toList, isPlain c = true := by
    intro c member
    refine plain c ?_
    rw [agentUrn_toList]
    exact List.mem_append_right _ member
  have named : removalForm.given (String.ofList (removalBody (List.replicate 101 'a'))) "name" =
      some (String.ofList (List.replicate 101 'a')).toList := by rw [given,String.toList_ofList]
  intro removed
  have short := (removed_iff named letters nonempty once listed).mp removed
  rw [String.length_ofList,List.length_replicate] at short
  exact absurd short (by decide)

end Asap.IssueOps
