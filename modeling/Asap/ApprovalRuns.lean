import Asap.ApprovalStore

-- Runs of an approval store's own operations: what is approved, denied or expired stays so.
namespace Asap.ApprovalRuns
open OrderedDict AgentIdentity ApprovalStore

inductive Op where
  | create (agentId : String) (createdAt : Int) (c : Creation)
  | remove (agentId : String)
  | get (agentId : String)
  | approve (agentId userId : String)
  | deny (agentId reason : String)

-- An operation and the clock it reads.
structure Call where
  now : Int
  op : Op

def wellFormed (c : Creation) : Bool := decide (1 ≤ c.expiresIn) && decide (1 ≤ c.interval)

-- A create reads its clock before it takes the lock; a model that is refused is not stored.
def step (s : Store) (call : Call) : Store :=
  match call.op with
  | .create agentId createdAt c => if wellFormed c then create s createdAt agentId c else s
  | .remove agentId => remove s agentId
  | .get agentId => (get s call.now agentId).1
  | .approve agentId userId => (approve s call.now agentId userId).1
  | .deny agentId reason => (deny s call.now agentId reason).1

def after (s : Store) (calls : List Call) : Store := calls.foldl step s

-- A stored create or a remove of the agent's row.
def Call.renews (call : Call) (agentId : String) : Bool :=
  match call.op with
  | .create owner _ c => decide (owner = agentId) && wellFormed c
  | .remove owner => decide (owner = agentId)
  | _ => false

-- The call is an approve or a deny of the agent's row, and it succeeds.
def resolves (s : Store) (call : Call) (agentId : String) : Bool :=
  match call.op with
  | .approve owner userId => decide (owner = agentId) && (approve s call.now owner userId).2.isOk
  | .deny owner reason => decide (owner = agentId) && (deny s call.now owner reason).2.isOk
  | _ => false

theorem refresh_settled (now : Int) {row : ApprovalRequestState} (settled : row.status ≠ .pending) : refreshExpired now row = row := by
  unfold refreshExpired
  rw [if_pos settled]

-- An earlier reading makes no difference to a later one.
theorem refresh_twice {early late : Int} (row : ApprovalRequestState) (ordered : early ≤ late) :
    refreshExpired late (refreshExpired early row) = refreshExpired late row := by
  by_cases pending : row.status = .pending
  · by_cases past : deadline row ≤ early
    · have expired : refreshExpired early row = {row with status := .expired} := by simp [refreshExpired,pending,past]
      rw [expired,refresh_settled late (by simp)]
      simp [refreshExpired,pending,show deadline row ≤ late by omega]
    · have kept : refreshExpired early row = row := by simp [refreshExpired,pending,past]
      rw [kept]
  · rw [refresh_settled early pending]

-- A row that is settled at one time is read alike at every later one.
theorem refresh_final {early late : Int} (row : ApprovalRequestState) (ordered : early ≤ late)
    (settled : (refreshExpired early row).status ≠ .pending) : refreshExpired late row = refreshExpired early row := by
  rw [← refresh_twice row ordered,refresh_settled late settled]

-- What a call that neither creates nor removes it does to a stored row.
inductive Change (now : Int) (raw : ApprovalRequestState) : ApprovalRequestState → Bool → Prop where
  | kept : Change now raw raw false
  | read : Change now raw (refreshExpired now raw) false
  | resolved (row : ApprovalRequestState) (pending : raw.status = .pending) (early : now < deadline raw)
      (settled : row.status ≠ .pending) : Change now raw row true

theorem settle_change (finish : ApprovalRequestState → ApprovalRequestState) (s : Store) (now : Int) (owner agentId : String)
    (raw : ApprovalRequestState) (settles : ∀ row, (finish row).status ≠ .pending) (stored : Dict.get s agentId = some raw) :
    ∃ row, Dict.get (settle finish s now owner).1 agentId = some row ∧
      Change now raw row (decide (owner = agentId) && (settle finish s now owner).2.isOk) := by
  by_cases own : owner = agentId
  · subst own
    unfold settle
    rw [stored]
    by_cases expired : (refreshExpired now raw).status = .expired
    · refine ⟨refreshExpired now raw,?_,?_⟩
      · simp [expired]
      · simpa [expired,Except.isOk,Except.toBool] using Change.read
    · by_cases pending : (refreshExpired now raw).status = .pending
      · obtain ⟨same,waiting⟩ := refreshExpired_pending now raw pending
        have early : now < deadline raw := by
          by_contra late
          simp [refreshExpired,waiting,show deadline raw ≤ now by omega] at pending
        refine ⟨finish raw,?_,?_⟩
        · simp [same,waiting]
        · simpa [same,waiting,Except.isOk,Except.toBool] using Change.resolved (finish raw) waiting early (settles raw)
      · refine ⟨raw,?_,?_⟩
        · simp [expired,pending,stored]
        · simpa [expired,pending,Except.isOk,Except.toBool] using Change.kept
  · refine ⟨raw,?_,by simpa [own] using Change.kept⟩
    unfold settle
    cases found : Dict.get s owner with
    | none => exact stored
    | some other =>
      simp only
      split
      · rw [Dict.get_set,if_neg own]
        exact stored
      · split
        · exact stored
        · rw [Dict.get_set,if_neg own]
          exact stored

theorem step_change (s : Store) (call : Call) (agentId : String) (raw : ApprovalRequestState)
    (stored : Dict.get s agentId = some raw) (same : call.renews agentId = false) :
    ∃ row, Dict.get (step s call) agentId = some row ∧ Change call.now raw row (resolves s call agentId) := by
  unfold step resolves
  unfold Call.renews at same
  cases made : call.op with
  | create owner createdAt c =>
    simp only [made,Bool.and_eq_false_iff,decide_eq_false_iff_not] at same
    refine ⟨raw,?_,.kept⟩
    simp only
    split
    · rename_i valid
      rw [create,Dict.get_set,if_neg (by rcases same with other | refused; exacts [other,absurd valid (by simp [refused])])]
      exact stored
    · exact stored
  | remove owner =>
    simp only [made,decide_eq_false_iff_not] at same
    refine ⟨raw,?_,.kept⟩
    simp only [remove]
    rw [Dict.get_erase,if_neg same]
    exact stored
  | get owner =>
    simp only
    by_cases own : owner = agentId
    · subst own
      rw [get_present s call.now owner raw stored]
      exact ⟨_,Dict.get_set_self ..,.read⟩
    · refine ⟨raw,?_,.kept⟩
      cases found : Dict.get s owner with
      | none =>
        rw [get_absent s call.now owner found]
        exact stored
      | some other =>
        rw [get_present s call.now owner other found,Dict.get_set,if_neg own]
        exact stored
  | approve owner userId => exact settle_change _ s call.now owner agentId raw (fun _ => by simp) stored
  | deny owner reason => exact settle_change _ s call.now owner agentId raw (fun _ => by simp) stored

theorem resolves_stored (s : Store) (call : Call) (agentId : String) (resolved : resolves s call agentId = true) :
    ∃ raw, Dict.get s agentId = some raw := by
  cases stored : Dict.get s agentId with
  | some raw => exact ⟨raw,rfl⟩
  | none =>
    have missing (finish : ApprovalRequestState → ApprovalRequestState) :
        settle finish s call.now agentId = (s,.error (.missing agentId)) := by
      unfold settle
      rw [stored]
    unfold resolves at resolved
    cases made : call.op with
    | create _ _ _ | remove _ | get _ => simp [made] at resolved
    | approve owner _ | deny owner _ =>
      simp only [made,Bool.and_eq_true,decide_eq_true_eq] at resolved
      obtain ⟨rfl,done⟩ := resolved
      simp [approve,deny,missing,Except.isOk,Except.toBool] at done

theorem resolves_pending (s : Store) (call : Call) (agentId : String) (resolved : resolves s call agentId = true) :
    ∃ raw row, Dict.get s agentId = some raw ∧ raw.status = .pending ∧ call.now < deadline raw ∧
      Dict.get (step s call) agentId = some row ∧ row.status ≠ .pending := by
  obtain ⟨raw,stored⟩ := resolves_stored s call agentId resolved
  have same : call.renews agentId = false := by
    unfold resolves at resolved
    unfold Call.renews
    cases made : call.op <;> simp_all
  obtain ⟨row,left,change⟩ := step_change s call agentId raw stored same
  rw [resolved] at change
  cases change with
  | resolved _ pending early settled => exact ⟨raw,row,stored,pending,early,left,settled⟩

-- A stored status other than pending is final, with the whole row.
theorem stored_final (s : Store) (calls : List Call) (agentId : String) (row : ApprovalRequestState)
    (same : ∀ call ∈ calls, call.renews agentId = false) (stored : Dict.get s agentId = some row) (settled : row.status ≠ .pending) :
    Dict.get (after s calls) agentId = some row := by
  induction calls generalizing s with
  | nil => exact stored
  | cons call rest ih =>
    refine ih (step s call) (fun other member => same other (List.mem_cons_of_mem call member)) ?_
    obtain ⟨next,reached,change⟩ := step_change s call agentId row stored (same call List.mem_cons_self)
    generalize resolves s call agentId = done at change
    cases change with
    | kept => exact reached
    | read => rwa [refresh_settled call.now settled] at reached
    | resolved _ pending => exact absurd pending settled

-- A row settled at some time, by its status or by its deadline, is read alike at every later one.
theorem settled_final (s : Store) (calls : List Call) (agentId : String) (raw : ApprovalRequestState) (now : Int)
    (same : ∀ call ∈ calls, call.renews agentId = false) (later : ∀ call ∈ calls, now ≤ call.now)
    (stored : Dict.get s agentId = some raw) (settled : (refreshExpired now raw).status ≠ .pending) :
    ∃ row, Dict.get (after s calls) agentId = some row ∧ ∀ clock, now ≤ clock → refreshExpired clock row = refreshExpired now raw := by
  induction calls generalizing s raw with
  | nil => exact ⟨raw,stored,fun clock ordered => refresh_final raw ordered settled⟩
  | cons call rest ih =>
    have ordered : now ≤ call.now := later call List.mem_cons_self
    have sameRest := fun other member => same other (List.mem_cons_of_mem call member)
    have laterRest := fun other member => later other (List.mem_cons_of_mem call member)
    obtain ⟨next,left,change⟩ := step_change s call agentId raw stored (same call List.mem_cons_self)
    generalize resolves s call agentId = done at change
    cases change with
    | kept => exact ih (step s call) raw sameRest laterRest left settled
    | read =>
      have again : refreshExpired now (refreshExpired call.now raw) = refreshExpired now raw := by
        rw [refresh_final raw ordered settled,refresh_settled now settled]
      obtain ⟨row,reached,alike⟩ := ih (step s call) (refreshExpired call.now raw) sameRest laterRest left (again ▸ settled)
      exact ⟨row,reached,fun clock after => (alike clock after).trans again⟩
    | resolved _ pending early _ =>
      have alive : refreshExpired now raw = raw := by simp [refreshExpired,pending,show ¬deadline raw ≤ now by omega]
      rw [alive] at settled
      exact absurd pending settled

theorem resolved_once (s : Store) (first second : Call) (between : List Call) (agentId : String)
    (opened : resolves s first agentId = true) (again : resolves (after s (first :: between)) second agentId = true) :
    ∃ call ∈ between, call.renews agentId = true := by
  by_contra none_renews
  have same : ∀ call ∈ between, call.renews agentId = false := by
    intro call member
    by_contra renewed
    exact none_renews ⟨call,member,by simpa using renewed⟩
  obtain ⟨_,row,_,_,_,left,settled⟩ := resolves_pending s first agentId opened
  obtain ⟨current,_,stored,pending,_⟩ := resolves_pending _ second agentId again
  have kept : Dict.get (after s (first :: between)) agentId = some row := stored_final (step s first) between agentId row same left settled
  rw [kept] at stored
  cases stored
  exact settled pending

-- From any store, over any calls: at most one approve or deny between two renewals, only
-- of a pending row before its deadline; what is settled stays as it is.
theorem approvals_final (s : Store) (agentId : String) :
    (∀ call, resolves s call agentId = true →
      ∃ row, Dict.get s agentId = some row ∧ row.status = .pending ∧ call.now < deadline row) ∧
    (∀ first between second, resolves s first agentId = true → resolves (after s (first :: between)) second agentId = true →
      ∃ call ∈ between, call.renews agentId = true) ∧
    ∀ calls row now, (∀ call ∈ calls, call.renews agentId = false) → (∀ call ∈ calls, now ≤ call.now) →
      Dict.get s agentId = some row → (refreshExpired now row).status ≠ .pending →
      ∃ next, Dict.get (after s calls) agentId = some next ∧ (row.status ≠ .pending → next = row) ∧
        ∀ clock, now ≤ clock → refreshExpired clock next = refreshExpired now row := by
  refine ⟨?_,fun first between second => resolved_once s first second between agentId,?_⟩
  · intro call resolved
    obtain ⟨raw,_,stored,pending,early,_⟩ := resolves_pending s call agentId resolved
    exact ⟨raw,stored,pending,early⟩
  · intro calls row now same later stored settled
    obtain ⟨next,reached,alike⟩ := settled_final s calls agentId row now same later stored settled
    refine ⟨next,reached,?_,alike⟩
    intro final
    rw [stored_final s calls agentId row same stored final] at reached
    exact (Option.some.inj reached).symm

def askedAt : Int := 1000000

def asking : Call := ⟨askedAt,.create "a1" askedAt
  {method := .deviceAuthorization,capabilities := [],capabilitySpecs := [],approvalKind := .registration,expiresIn := 10}⟩

def asked : Store := step .empty asking

-- Approved in time, and expired at the very deadline.
theorem approvals_final_asked :
    (∃ row, Dict.get asked "a1" = some row ∧ row.status = .pending ∧ 2000000 < deadline row) ∧
    (∃ call ∈ [asking], call.renews "a1" = true) ∧
    ∃ next, Dict.get (after asked [⟨11000000,.approve "a1" "u1"⟩]) "a1" = some next ∧
      ∀ clock, 11000000 ≤ clock → (refreshExpired clock next).status = .expired := by
  have stored : Dict.get asked "a1" = some (createdRow askedAt "a1"
    {method := .deviceAuthorization,capabilities := [],capabilitySpecs := [],approvalKind := .registration,expiresIn := 10}) := rfl
  have finals := approvals_final asked "a1"
  refine ⟨finals.1 ⟨2000000,.approve "a1" "u1"⟩ (by decide +kernel),?_,?_⟩
  · exact finals.2.1 ⟨2000000,.approve "a1" "u1"⟩ [asking] ⟨3000000,.deny "a1" "late"⟩ (by decide +kernel) (by decide +kernel)
  · obtain ⟨next,reached,_,alike⟩ := finals.2.2 [⟨11000000,.approve "a1" "u1"⟩] _ 11000000 (by simp [Call.renews]) (by simp) stored
      (by decide +kernel)
    refine ⟨next,reached,fun clock later => ?_⟩
    rw [alike clock later]
    decide +kernel

end Asap.ApprovalRuns
