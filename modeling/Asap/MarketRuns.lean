import Asap.Interleaving
import Asap.Market

-- Agents that were resolved and are run: by their callers, and through framework tools, which
-- keep the agent they resolved, as a client keeps those it resolved for its tools.
namespace Asap.MarketRuns
open Interleaving OrderedDict ManifestSigning Market

-- A reading of the list of revocations for a URN, a task request to the agent of the URN and
-- its completion, in the order of time.
inductive Event where
  | checked (urn : String) (revoked : Bool)
  | sent (urn : String)
  | completed (urn : String)
  deriving DecidableEq

-- A `ResolvedAgent`, and the length of the log when it was being resolved.
structure Resolution (Manifest : Type) where
  agent : ResolvedAgent Manifest
  moment : Nat

def Resolution.urn {Manifest : Type} (r : Resolution Manifest) : String := r.agent.entry.id

structure Tool where
  client : Nat
  urn : String
  resolved : Option Nat
  skillId : String

-- `resolvedByUrn` are the caches `_asap_resolved_by_urn` of the clients. Agents are known
-- by the number of their object.
structure Session (Manifest : Type) where
  agents : Dict Nat (Resolution Manifest)
  resolvedByUrn : Dict (Nat × String) (Nat × String)
  tools : Dict Nat Tool
  log : List Event

def Session.init {Manifest : Type} : Session Manifest := ⟨.empty,.empty,.empty,[]⟩

-- What comes back from a request that was sent.
inductive Delivery where
  | failed
  | answered
  deriving DecidableEq

section Runs
variable {Manifest PublicKey : Type} (sdk : Sdk Manifest PublicKey)

-- The list is read once the manifest is there.
def readings (world : World) (urn : String) : List Event :=
  match world.registry.bind (fun registry => findById registry urn) with
  | none => []
  | some entry =>
    match fetchSigned sdk world entry,isRevoked urn world.revocations with
    | .ok _,some revoked => [.checked urn revoked]
    | _,_ => []

def resolveAs (s : Session Manifest) (id : Nat) (world : World) (urn : String) : Session Manifest × Option (ResolvedAgent Manifest) :=
  let log := s.log ++ readings sdk world urn
  match resolve sdk world urn with
  | .error _ => ({s with log},none)
  | .ok agent => ({s with agents := s.agents.set id ⟨agent,s.log.length⟩,log},some agent)

def firstSkill (agent : ResolvedAgent Manifest) : String := (sdk.skillIds agent.manifest).head?.getD ""

-- `resolve_and_cache_skill`; it is not entered again while it runs.
def resolveAndCacheSkill (s : Session Manifest) (id client : Nat) (world : World) (urn : String) (loopRunning : Bool) :
    Session Manifest × Option (Nat × String) :=
  if loopRunning then (s,none)
  else match s.resolvedByUrn.get (client,urn) with
    | some cached => (s,some cached)
    | none =>
      match resolveAs sdk s id world urn with
      | (next,none) => (next,none)
      | (next,some agent) =>
        let entry := (id,firstSkill sdk agent)
        ({next with resolvedByUrn := next.resolvedByUrn.set (client,urn) entry},some entry)

-- A tool is made with the agent if that can be had at once (`eager_resolve_or_defer`).
def newTool (s : Session Manifest) (tool id client : Nat) (world : World) (urn : String) (loopRunning : Bool) : Session Manifest :=
  let (next,eager) := resolveAndCacheSkill sdk s id client world urn loopRunning
  {next with tools := next.tools.set tool ⟨client,urn,eager.map Prod.fst,(eager.map Prod.snd).getD ""⟩}

-- `ResolvedAgent.run`: a payload that is no task request and an agent without an endpoint
-- are refused before anything is sent.
def run (s : Session Manifest) (r : Resolution Manifest) (valid : Bool) (delivery : Delivery) : Session Manifest :=
  if valid && ((r.agent.entry.endpoints.get "http").filter (fun url => decide (url ≠ ""))).isSome then
    {s with log := s.log ++ .sent r.urn :: (match delivery with
      | .failed => []
      | .answered => [.completed r.urn])}
  else s

-- `invoke_skill_async`; `id` is the object that a resolve makes.
def invoke (s : Session Manifest) (toolId : Nat) (tool : Tool) (id : Nat) (world : World) (valid : Bool) (delivery : Delivery) :
    Option (Session Manifest) :=
  match tool.resolved with
  | some cached =>
    (s.agents.get cached).map (fun r => if tool.skillId = "" then s else run s r valid delivery)
  | none =>
    match resolveAs sdk s id world tool.urn with
    | (next,none) => some next
    | (next,some agent) =>
      let kept := {next with tools := next.tools.set toolId {tool with resolved := some id,skillId := firstSkill sdk agent}}
      some (if firstSkill sdk agent = "" then kept else run kept ⟨agent,s.log.length⟩ valid delivery)

inductive Call where
  | resolve (id : Nat) (world : World) (urn : String)
  | newTool (tool id client : Nat) (world : World) (urn : String) (loopRunning : Bool)
  | run (id : Nat) (valid : Bool) (delivery : Delivery)
  | invoke (tool id : Nat) (world : World) (valid : Bool) (delivery : Delivery)

-- An object that is made has a number of its own.
def call (s : Session Manifest) : Call → Option (Session Manifest)
  | .resolve id world urn => if s.agents.get id = none then some (resolveAs sdk s id world urn).1 else none
  | .newTool tool id client world urn loopRunning =>
    if s.agents.get id = none then some (newTool sdk s tool id client world urn loopRunning) else none
  | .run id valid delivery => (s.agents.get id).map (fun r => run s r valid delivery)
  | .invoke toolId id world valid delivery =>
    match s.tools.get toolId with
    | none => none
    | some tool => if s.agents.get id = none then invoke sdk s toolId tool id world valid delivery else none

-- No task request to the agent has completed since this object was resolved.
def current (s : Session Manifest) (r : Resolution Manifest) : Bool := !(s.log.drop r.moment).contains (.completed r.urn)

def usesCurrent (s : Session Manifest) : Call → Bool
  | .run id _ _ => match s.agents.get id with
    | some r => current s r
    | none => true
  | .invoke toolId _ _ _ _ =>
    match ((s.tools.get toolId).bind Tool.resolved).bind s.agents.get with
    | some r => current s r
    | none => true
  | _ => true

-- The list was read after the last completed request to the agent, and did not have it.
def Fresh (log : List Event) (urn : String) : Prop :=
  ∃ i, log[i]? = some (.checked urn false) ∧ .completed urn ∉ log.drop i

def Checked (log : List Event) : Prop := ∀ i urn, log[i]? = some (.sent urn) → Fresh (log.take i) urn

theorem Checked.append {log events : List Event} (checked : Checked log)
    (later : ∀ j urn, events[j]? = some (.sent urn) → Fresh (log ++ events.take j) urn) : Checked (log ++ events) := by
  intro i urn sent
  by_cases early : i < log.length
  · rw [List.getElem?_append_left early] at sent
    rw [List.take_append_of_le_length (Nat.le_of_lt early)]
    exact checked i urn sent
  · have late : log.length ≤ i := Nat.le_of_not_lt early
    rw [List.getElem?_append_right late] at sent
    rw [List.take_append,List.take_of_length_le late]
    exact later (i - log.length) urn sent

-- The log is in order, and every object was made at a reading that did not have its URN.
structure Sound (s : Session Manifest) : Prop where
  checked : Checked s.log
  known : ∀ id r, s.agents.get id = some r → s.log[r.moment]? = some (.checked r.urn false)

theorem known_append {log : List Event} {moment : Nat} {event : Event} (known : log[moment]? = some event) (events : List Event) :
    (log ++ events)[moment]? = some event := by
  obtain ⟨inside,_⟩ := List.getElem?_eq_some_iff.mp known
  rw [List.getElem?_append_left inside]
  exact known

theorem readings_plain (world : World) (urn : String) : ∀ event ∈ readings sdk world urn, ∃ revoked, event = .checked urn revoked := by
  intro event inside
  unfold readings at inside
  split at inside
  · cases inside
  · split at inside
    · exact ⟨_,List.mem_singleton.mp inside⟩
    · cases inside

-- A resolve that succeeds has read the list and did not find the URN.
theorem resolve_readings (world : World) (urn : String) (agent : ResolvedAgent Manifest)
    (resolved : resolve sdk world urn = .ok agent) : readings sdk world urn = [.checked urn false] ∧ agent.entry.id = urn := by
  unfold resolve at resolved
  split at resolved
  · cases resolved
  · rename_i registry content
    split at resolved
    · cases resolved
    · rename_i entry found
      split at resolved
      · cases resolved
      · rename_i signed fetched
        split at resolved
        · cases resolved
        · cases resolved
        · cases resolved
        · rename_i verified clear
          cases resolved
          refine ⟨?_,by simpa using List.find?_some found⟩
          simp [readings,content,found,fetched,clear]

theorem resolveAs_sound (s : Session Manifest) (id : Nat) (world : World) (urn : String) (sound : Sound s) :
    Sound (resolveAs sdk s id world urn).1 ∧
      ∀ agent, (resolveAs sdk s id world urn).2 = some agent →
        (resolveAs sdk s id world urn).1.log = s.log ++ [.checked urn false] ∧ agent.entry.id = urn := by
  have ordered : Checked (s.log ++ readings sdk world urn) := by
    refine sound.checked.append ?_
    intro j other sent
    obtain ⟨revoked,same⟩ := readings_plain sdk world urn _ (List.mem_of_getElem? sent)
    cases same
  have kept : ∀ other r, s.agents.get other = some r → (s.log ++ readings sdk world urn)[r.moment]? = some (.checked r.urn false) :=
    fun other r found => known_append (sound.known other r found) _
  unfold resolveAs
  simp only
  split
  · exact ⟨⟨ordered,kept⟩,fun agent none_made => by cases none_made⟩
  · rename_i agent resolved
    obtain ⟨read,named⟩ := resolve_readings sdk world urn agent resolved
    refine ⟨⟨ordered,?_⟩,?_⟩
    · intro other r found
      rw [Dict.get_set] at found
      split at found
      · cases found
        simp [read,Resolution.urn,named]
      · exact kept other r found
    · intro made same
      cases same
      exact ⟨by rw [read],named⟩

theorem run_sound (s : Session Manifest) (r : Resolution Manifest) (valid : Bool) (delivery : Delivery)
    (known : s.log[r.moment]? = some (.checked r.urn false)) (fresh : current s r = true) (sound : Sound s) :
    Sound (run s r valid delivery) := by
  unfold run
  split
  · refine ⟨sound.checked.append ?_,fun id other found => known_append (sound.known id other found) _⟩
    intro j urn sent
    cases j with
    | zero =>
      simp only [List.getElem?_cons_zero,Option.some.injEq,Event.sent.injEq] at sent
      subst sent
      refine ⟨r.moment,?_,?_⟩
      · simpa using known
      · simpa [current] using fresh
    | succ j =>
      cases delivery <;> cases j <;> simp at sent
  · exact sound

theorem resolveAndCacheSkill_sound (s : Session Manifest) (id client : Nat) (world : World) (urn : String) (loopRunning : Bool)
    (sound : Sound s) : Sound (resolveAndCacheSkill sdk s id client world urn loopRunning).1 := by
  obtain ⟨resolved,_⟩ := resolveAs_sound sdk s id world urn sound
  unfold resolveAndCacheSkill
  split
  · exact sound
  · split
    · exact sound
    · split <;> rename_i outcome <;> rw [outcome] at resolved
      · exact resolved
      · exact ⟨resolved.checked,resolved.known⟩

theorem invoke_sound (s next : Session Manifest) (toolId : Nat) (tool : Tool) (id : Nat) (world : World) (valid : Bool)
    (delivery : Delivery) (fresh : ∀ r, tool.resolved.bind s.agents.get = some r → current s r = true)
    (taken : invoke sdk s toolId tool id world valid delivery = some next) (sound : Sound s) : Sound next := by
  unfold invoke at taken
  split at taken
  · rename_i cached kept
    obtain ⟨r,found,rfl⟩ := Option.map_eq_some_iff.mp taken
    split
    · exact sound
    · exact run_sound s r valid delivery (sound.known cached r found) (fresh r (by rw [kept]; exact found)) sound
  · obtain ⟨resolved,made⟩ := resolveAs_sound sdk s id world tool.urn sound
    split at taken <;> rename_i outcome <;> rw [outcome] at resolved made <;> cases taken
    · exact resolved
    · rename_i agent
      obtain ⟨read,named⟩ := made agent rfl
      simp only at read
      split
      · exact ⟨resolved.checked,resolved.known⟩
      · refine run_sound _ _ valid delivery ?_ ?_ ⟨resolved.checked,resolved.known⟩
        · simp [read,Resolution.urn,named]
        · simp [current,read]

theorem call_sound (s next : Session Manifest) (made : Call) (allowed : usesCurrent s made = true)
    (taken : call sdk s made = some next) (sound : Sound s) : Sound next := by
  cases made with
  | resolve id world urn =>
    simp only [call] at taken
    split at taken
    · cases taken
      exact (resolveAs_sound sdk s id world urn sound).1
    · cases taken
  | newTool tool id client world urn loopRunning =>
    simp only [call] at taken
    split at taken
    · cases taken
      have resolved := resolveAndCacheSkill_sound sdk s id client world urn loopRunning sound
      exact ⟨resolved.checked,resolved.known⟩
    · cases taken
  | run id valid delivery =>
    obtain ⟨r,found,rfl⟩ := Option.map_eq_some_iff.mp taken
    simp only [usesCurrent,found] at allowed
    exact run_sound s r valid delivery (sound.known id r found) allowed sound
  | invoke toolId id world valid delivery =>
    simp only [call] at taken
    split at taken
    · cases taken
    · rename_i tool found
      split at taken
      · refine invoke_sound sdk s next toolId tool id world valid delivery ?_ taken sound
        intro r kept
        simp only [usesCurrent,found,Option.bind_some,kept] at allowed
        exact allowed
      · cases taken

theorem init_sound : Sound (Session.init : Session Manifest) where
  checked i urn sent := by simp [Session.init] at sent
  known id r found := by simp [Session.init] at found

-- In the runs that use every resolved agent, be it kept by a tool or not, only until a request
-- to the agent completes, every request is sent after a reading of the list that is newer than
-- the last completed request and does not have the agent.
theorem requests_checked (calls : List Call) (s : Session Manifest)
    (run : Runs (call sdk) (fun s made => usesCurrent s made = true) .init calls s) : Checked s.log :=
  (run.invariant Sound (fun s made next allowed taken => call_sound sdk s next made allowed taken) init_sound).checked
end Runs

def withEndpoint (world : World) : World :=
  {world with registry := some [⟨"urn:asap:agent:beta",(Dict.empty.set "manifest" "https://b/.well-known/asap/manifest.json").set "http" "https://b/asap"⟩]}

-- A revocation list that has the agent, and one that names nobody.
def revokedNow : World := withEndpoint (worldOf "urn:asap:agent:beta" (revocationList ["urn:asap:agent:beta"]))
def trustedNow : World := withEndpoint (worldOf "urn:asap:agent:beta" (revocationList []))

def reached (check : Session Card → Call → Bool) (calls : List Call) : Option (Session Card) :=
  execute (call cardSdk) check .init calls

-- The same object is run twice; between the runs anything may happen to the list.
def runTwice : List Call :=
  [.resolve 0 trustedNow "urn:asap:agent:beta",.run 0 true .answered,.run 0 true .answered]

-- A tool that resolves its agent when it is first invoked, and is invoked again after the
-- agent was revoked.
def invokedTwice : List Call :=
  [.newTool 0 0 0 trustedNow "urn:asap:agent:beta" true,.invoke 0 1 trustedNow true .answered,.invoke 0 2 revokedNow true .answered]

def oneReading : List Event :=
  [.checked "urn:asap:agent:beta" false,.sent "urn:asap:agent:beta",.completed "urn:asap:agent:beta",.sent "urn:asap:agent:beta",
    .completed "urn:asap:agent:beta"]

theorem runTwice_log : (reached anyMove runTwice).map Session.log = some oneReading := by decide +kernel
theorem invokedTwice_log : (reached anyMove invokedTwice).map Session.log = some oneReading := by decide +kernel

theorem oneReading_unchecked : ¬Checked oneReading := by
  intro checked
  obtain ⟨i,read,none_since⟩ := checked 3 "urn:asap:agent:beta" rfl
  match i with
  | 0 => exact none_since (by decide)
  | 1 => cases read
  | 2 => cases read
  | i + 3 => cases read

theorem oneReading_run (calls : List Call) (logged : (reached anyMove calls).map Session.log = some oneReading) :
    ∃ s, Runs (call cardSdk) (fun _ _ => True) .init calls s ∧ ¬Checked s.log := by
  obtain ⟨s,ran,same⟩ := Option.map_eq_some_iff.mp logged
  exact ⟨s,execute_free ran,same ▸ oneReading_unchecked⟩

theorem run_again_unchecked :
    (∃ s, Runs (call cardSdk) (fun _ _ => True) .init runTwice s ∧ ¬Checked s.log) ∧
      ∃ s, Runs (call cardSdk) (fun _ _ => True) .init invokedTwice s ∧ ¬Checked s.log :=
  ⟨oneReading_run runTwice runTwice_log,oneReading_run invokedTwice invokedTwice_log⟩

-- The caller resolves again for its second run, beside a tool that runs once.
def resolvedAgain : List Call :=
  [.resolve 0 trustedNow "urn:asap:agent:beta",.run 0 true .answered,.resolve 1 trustedNow "urn:asap:agent:beta",.run 1 true .failed,
    .newTool 0 2 0 trustedNow "urn:asap:agent:beta" false,.invoke 0 3 revokedNow true .answered]

theorem resolvedAgain_done : (reached usesCurrent resolvedAgain).isSome = true := by decide +kernel

theorem requests_checked_again : ∃ s,
    Runs (call cardSdk) (fun s made => usesCurrent s made = true) .init resolvedAgain s ∧ Checked s.log := by
  have run := execute_runs usesCurrent (Option.some_get resolvedAgain_done).symm
  exact ⟨_,run,requests_checked cardSdk resolvedAgain _ run⟩

end Asap.MarketRuns
