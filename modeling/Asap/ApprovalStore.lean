import Asap.Capabilities

namespace Asap.ApprovalStore
open OrderedDict PythonValue AgentIdentity Capabilities Interleaving

inductive ApprovalMethod where
  | deviceAuthorization
  | ciba
  deriving DecidableEq

inductive ApprovalStatus where
  | pending
  | approved
  | denied
  | expired
  deriving DecidableEq

inductive ApprovalKind where
  | registration
  | escalation
  deriving DecidableEq

def defaultDeviceVerificationUri : String := "https://asap.local/device"
def defaultDeviceExpiresInSeconds : Nat := 600
def defaultPollIntervalSeconds : Nat := 5
def defaultCibaBindingMessage : String := "Approve ASAP agent registration"

structure ApprovalRequestState where
  agentId : String
  method : ApprovalMethod
  capabilities : List String
  capabilitySpecs : List Spec
  approvalKind : ApprovalKind
  status : ApprovalStatus
  userCode : Option String
  verificationUri : Option String
  verificationUriComplete : Option String
  bindingMessage : Option String
  expiresIn : Nat
  interval : Nat
  createdAt : Int
  approvedBy : Option String := none
  denyReason : Option String := none

def specValue (spec : Spec) : Value := .dict (spec.fields.entries.map (fun item => (.str item.1,item.2)))

-- Python's `==` on two lists of spec dictionaries.
def specsSame (left right : List Spec) : Bool := (Value.list (left.map specValue)).same (.list (right.map specValue))

def deadline (state : ApprovalRequestState) : Int := state.createdAt + 1000000 * state.expiresIn

def refreshExpired (now : Int) (state : ApprovalRequestState) : ApprovalRequestState :=
  if state.status ≠ .pending then state
  else if deadline state ≤ now then {state with status := .expired}
  else state

-- `_by_agent`. Each operation below is one critical section of the store's lock.
abbrev Store := Dict String ApprovalRequestState

structure Creation where
  method : ApprovalMethod
  capabilities : List String
  capabilitySpecs : List Spec
  approvalKind : ApprovalKind
  userCode : Option String := none
  verificationUri : Option String := none
  verificationUriComplete : Option String := none
  bindingMessage : Option String := none
  expiresIn : Nat := defaultDeviceExpiresInSeconds
  interval : Nat := defaultPollIntervalSeconds

def createdRow (now : Int) (agentId : String) (c : Creation) : ApprovalRequestState where
  agentId := agentId
  method := c.method
  capabilities := c.capabilities
  capabilitySpecs := c.capabilitySpecs
  approvalKind := c.approvalKind
  status := .pending
  userCode := c.userCode
  verificationUri := c.verificationUri
  verificationUriComplete := c.verificationUriComplete
  bindingMessage := c.bindingMessage
  expiresIn := c.expiresIn
  interval := c.interval
  createdAt := now

def create (s : Store) (now : Int) (agentId : String) (c : Creation) : Store := s.set agentId (createdRow now agentId c)

def remove (s : Store) (agentId : String) : Store := s.erase agentId

-- Reading a row writes back its expiry.
def get (s : Store) (now : Int) (agentId : String) : Store × Option ApprovalRequestState :=
  match Dict.get s agentId with
  | none => (s,none)
  | some raw => (s.set agentId (refreshExpired now raw),some (refreshExpired now raw))

inductive ResolutionError where
  | missing (agentId : String)
  | expired
  | settled (status : ApprovalStatus)
  deriving DecidableEq

def settle (finish : ApprovalRequestState → ApprovalRequestState) (s : Store) (now : Int) (agentId : String) :
    Store × Except ResolutionError ApprovalRequestState :=
  match Dict.get s agentId with
  | none => (s,.error (.missing agentId))
  | some raw =>
    let current := refreshExpired now raw
    if current.status = .expired then (s.set agentId current,.error .expired)
    else if current.status ≠ .pending then (s,.error (.settled current.status))
    else (s.set agentId (finish current),.ok (finish current))

def approve (s : Store) (now : Int) (agentId userId : String) : Store × Except ResolutionError ApprovalRequestState :=
  settle (fun current => {current with status := .approved,approvedBy := some userId}) s now agentId

def deny (s : Store) (now : Int) (agentId reason : String) : Store × Except ResolutionError ApprovalRequestState :=
  settle (fun current => {current with status := .denied,denyReason := some reason}) s now agentId

def mergeCapabilitySpecs (existing incoming : List Spec) : List Spec :=
  ((existing ++ incoming).foldl (fun (byName : Dict String Spec) spec => byName.set spec.name spec) .empty).values

-- `list(dict.fromkeys(names))`
def fromKeys (names : List String) : List String :=
  names.foldl (fun seen name => if name ∈ seen then seen else seen ++ [name]) []

def mergedPendingPayload (existing : ApprovalRequestState) (capabilities : List String) (specs : List Spec) :
    List String × List Spec :=
  (fromKeys (existing.capabilities ++ capabilities),mergeCapabilitySpecs existing.capabilitySpecs specs)

def pendingPayloadUnchanged (existing : ApprovalRequestState) (capabilities : List String) (specs : List Spec) : Bool :=
  specsSame specs existing.capabilitySpecs && decide (capabilities = existing.capabilities)

def pendingMatchesExpected (state : Option ApprovalRequestState) (expected : List Spec) : Bool :=
  match state with
  | none => false
  | some row => decide (row.status = .pending) && specsSame row.capabilitySpecs expected

def creationOf (method : ApprovalMethod) (kind : ApprovalKind) (capabilities : List String) (specs : List Spec)
    (userCode : String) : Creation :=
  match method with
  | .deviceAuthorization => {
      method
      capabilities
      capabilitySpecs := specs
      approvalKind := kind
      userCode := some userCode
      verificationUri := some defaultDeviceVerificationUri
      verificationUriComplete := some (defaultDeviceVerificationUri ++ "?user_code=" ++ userCode)}
  | .ciba => {
      method
      capabilities
      capabilitySpecs := specs
      approvalKind := kind
      bindingMessage := some defaultCibaBindingMessage}

-- The arguments of a create flow, with where its consent prompt goes: `principalId`
-- is absent when no A2H channel is configured.
structure Request where
  agentId : String
  method : ApprovalMethod
  capabilities : List String
  capabilitySpecs : List Spec
  approvalKind : ApprovalKind
  principalId : Option String

inductive Answer where
  | approve
  | decline (reason : Option String)

def selectApprovalMethod (host : HostIdentity) (hostSupportsCiba : Bool) (preferredMethod : Option ApprovalMethod)
    (agentControlsBrowser : Bool) : ApprovalMethod :=
  let linked := match host.userId with
    | none => false
    | some userId => decide (strip userId ≠ "")
  let canCiba := linked && hostSupportsCiba
  if agentControlsBrowser && canCiba then .ciba
  else match preferredMethod with
    | some .deviceAuthorization => .deviceAuthorization
    | some .ciba => if canCiba then .ciba else .deviceAuthorization
    | none => if canCiba then .ciba else .deviceAuthorization

-- A handler between two operations on the approval store.
inductive Task where
  | requesting (request : Request)
  | creating (request : Request) (capabilities : List String) (specs : List Spec)
  | confirming (request : Request)
  | consenting (request : Request)
  | prompting (agentId principalId : String) (expected : List Spec)
  | checking (agentId principalId : String) (expected : List Spec) (answer : Answer)
  | deciding (agentId principalId : String) (expected : List Spec) (answer : Answer)
  | polling (agentId : String) (sessionActive : Bool)
  | removing (agentId : String)
  | finished

-- What an operation takes from outside: the clock, a generated code, the human's answer.
structure Input where
  now : Int
  userCode : String
  answer : Answer

-- A row that a prompt's answer approved, with the specs the prompt showed.
structure Approval where
  agentId : String
  expected : List Spec
  row : List Spec

def Task.arrives : Task → Bool
  | .requesting _ | .prompting _ _ _ | .polling _ _ => true
  | _ => false

def promptTask (request : Request) (expected : List Spec) : Task :=
  match request.principalId with
  | none => .finished
  | some principalId => .prompting request.agentId principalId expected

-- The rest of a create flow after its first read: reuse the pending row, or issue a new one.
def afterRead (request : Request) (existing : Option ApprovalRequestState) : Task :=
  match existing with
  | none => .creating request request.capabilities request.capabilitySpecs
  | some row =>
    if row.method = request.method ∧ row.status = .pending ∧ row.approvalKind = request.approvalKind then
      let (capabilities,specs) := mergedPendingPayload row request.capabilities request.capabilitySpecs
      if pendingPayloadUnchanged row capabilities specs then .consenting request
      else .creating request capabilities specs
    else .creating request request.capabilities request.capabilitySpecs

def afterPoll (agentId : String) (sessionActive : Bool) (existing : Option ApprovalRequestState) : Task :=
  match existing with
  | some row =>
    if sessionActive ∧ row.approvalKind = .escalation ∧ row.status ≠ .pending then .removing agentId else .finished
  | none => .finished

def advance (s : Store) (task : Task) (input : Input) : Option (Store × Task × List Approval) :=
  match task with
  | .requesting request =>
    let (next,existing) := get s input.now request.agentId
    some (next,afterRead request existing,[])
  | .creating request capabilities specs =>
    let creation := creationOf request.method request.approvalKind capabilities specs input.userCode
    some (create s input.now request.agentId creation,.confirming request,[])
  | .confirming request =>
    let (next,fresh) := get s input.now request.agentId
    match fresh with
    | none => some (next,.finished,[])
    | some _ => some (next,.consenting request,[])
  | .consenting request =>
    match request.approvalKind with
    | .registration => some (s,promptTask request request.capabilitySpecs,[])
    | .escalation =>
      let (next,pending) := get s input.now request.agentId
      some (next,promptTask request ((pending.map ApprovalRequestState.capabilitySpecs).getD request.capabilitySpecs),[])
  | .prompting agentId principalId expected => some (s,.checking agentId principalId expected input.answer,[])
  | .checking agentId principalId expected answer =>
    let (next,state) := get s input.now agentId
    if pendingMatchesExpected state expected then some (next,.deciding agentId principalId expected answer,[])
    else some (next,.finished,[])
  | .deciding agentId principalId expected .approve =>
    match approve s input.now agentId principalId with
    | (next,.ok row) => some (next,.finished,[⟨agentId,expected,row.capabilitySpecs⟩])
    | (next,.error _) => some (next,.finished,[])
  | .deciding agentId _ _ (.decline reason) => some ((deny s input.now agentId (reason.getD "declined")).1,.finished,[])
  | .polling agentId sessionActive =>
    let (next,existing) := get s input.now agentId
    some (next,afterPoll agentId sessionActive existing,[])
  | .removing agentId => some (remove s agentId,.finished,[])
  | .finished => none

-- `create_device_authorization` or `create_ciba_approval` without interruption.
def createApproval (s : Store) (now : Int) (userCode : String) (request : Request) : Store :=
  let (read,existing) := get s now request.agentId
  match afterRead request existing with
  | .creating _ capabilities specs =>
    let creation := creationOf request.method request.approvalKind capabilities specs userCode
    (get (create read now request.agentId creation) now request.agentId).1
  | _ => read

def program : Program Store Task Input Approval where
  arrives := Task.arrives
  advance := advance

-- The last spec of a name in the two lists is the one the merge keeps.
theorem assigned_last (specs : List Spec) (byName : Dict String Spec) (name : String) (first : Spec)
    (known : byName.get name = some first) :
    ∃ last, (specs.foldl (fun (byName : Dict String Spec) spec => byName.set spec.name spec) byName).get name = some last ∧
      (last = first ∨ last ∈ specs ∧ last.name = name) := by
  induction specs generalizing byName first with
  | nil => exact ⟨first,known,.inl rfl⟩
  | cons spec rest ih =>
    simp only [List.foldl_cons]
    by_cases same : spec.name = name
    · obtain ⟨last,found,origin⟩ := ih (byName.set spec.name spec) spec (by rw [← same]; exact Dict.get_set_self ..)
      refine ⟨last,found,.inr ?_⟩
      rcases origin with rfl | ⟨inside,named⟩
      · exact ⟨by simp,same⟩
      · exact ⟨List.mem_cons_of_mem _ inside,named⟩
    · obtain ⟨last,found,origin⟩ := ih (byName.set spec.name spec) first (by rw [Dict.get_set_other _ _ same]; exact known)
      exact ⟨last,found,origin.imp_right (fun inside => ⟨List.mem_cons_of_mem _ inside.1,inside.2⟩)⟩

theorem assigned_origin (specs : List Spec) (byName : Dict String Spec) (name : String) (spec : Spec)
    (found : (specs.foldl (fun (byName : Dict String Spec) spec => byName.set spec.name spec) byName).get name = some spec) :
    byName.get name = some spec ∨ spec ∈ specs := by
  induction specs generalizing byName with
  | nil => exact .inl found
  | cons head rest ih =>
    rcases ih (byName.set head.name head) found with old | later
    · rw [Dict.get_set] at old
      split at old
      · cases old
        exact .inr (by simp)
      · exact .inl old
    · exact .inr (List.mem_cons_of_mem _ later)

theorem mem_merged {existing incoming : List Spec} (inside : spec ∈ mergeCapabilitySpecs existing incoming) :
    spec ∈ existing ++ incoming := by
  obtain ⟨item,stored,rfl⟩ := List.mem_map.mp inside
  rcases assigned_origin (existing ++ incoming) .empty item.1 item.2 ((Dict.mem_iff _).mp stored) with empty | member
  · simp at empty
  · exact member

-- A spec is kept, or replaced by a later one of its name.
def KeptIn (existing incoming merged : List Spec) : Prop :=
  ∀ front spec back, existing = front ++ spec :: back →
    spec ∈ merged ∨ ∃ later ∈ back ++ incoming, later.name = spec.name ∧ later ∈ merged

theorem KeptIn.refl (existing incoming : List Spec) : KeptIn existing incoming existing := by
  intro front spec back split
  exact .inl (by simp [split])

theorem merged_keeps (existing incoming : List Spec) : KeptIn existing incoming (mergeCapabilitySpecs existing incoming) := by
  intro front spec back split
  have listed : existing ++ incoming = front ++ spec :: (back ++ incoming) := by simp [split]
  unfold mergeCapabilitySpecs
  rw [listed,List.foldl_append,List.foldl_cons]
  obtain ⟨last,found,origin⟩ := assigned_last (back ++ incoming) _ spec.name spec (Dict.get_set_self ..)
  have member : last ∈ Dict.values _ := List.mem_map.mpr ⟨_,(Dict.mem_iff _).mpr found,rfl⟩
  rcases origin with rfl | ⟨inside,named⟩
  · exact .inl member
  · exact .inr ⟨last,inside,named,member⟩

theorem refreshExpired_pending (now : Int) (raw : ApprovalRequestState)
    (pending : (refreshExpired now raw).status = .pending) : refreshExpired now raw = raw ∧ raw.status = .pending := by
  unfold refreshExpired at pending ⊢
  split at pending
  · rename_i settled
    exact absurd pending settled
  · rename_i waiting
    split at pending
    · cases pending
    · rename_i alive
      rw [if_neg alive]
      exact ⟨by simp,pending⟩

-- No operation but a create leaves a pending row that was not there before.
theorem get_pending (s : Store) (now : Int) (agentId id : String) (row : ApprovalRequestState)
    (found : Dict.get (get s now agentId).1 id = some row) (pending : row.status = .pending) : Dict.get s id = some row := by
  unfold get at found
  cases stored : Dict.get s agentId with
  | none =>
    rw [stored] at found
    exact found
  | some raw =>
    simp only [stored,Dict.get_set] at found
    split at found
    · rename_i same
      cases found
      subst same
      rw [(refreshExpired_pending now raw pending).1]
      exact stored
    · exact found

theorem settle_pending (finish : ApprovalRequestState → ApprovalRequestState) (s : Store) (now : Int) (agentId id : String)
    (row : ApprovalRequestState) (settles : ∀ state, (finish state).status ≠ .pending)
    (found : Dict.get (settle finish s now agentId).1 id = some row) (pending : row.status = .pending) :
    Dict.get s id = some row := by
  unfold settle at found
  cases stored : Dict.get s agentId with
  | none =>
    rw [stored] at found
    exact found
  | some raw =>
    simp only [stored] at found
    split at found
    · rename_i expired
      simp only [Dict.get_set] at found
      split at found
      · cases found
        rw [pending] at expired
        cases expired
      · exact found
    · split at found
      · exact found
      · simp only [Dict.get_set] at found
        split at found
        · cases found
          exact absurd pending (settles _)
        · exact found

theorem settle_row (finish : ApprovalRequestState → ApprovalRequestState) (s : Store) (now : Int) (agentId : String)
    (row : ApprovalRequestState) (done : (settle finish s now agentId).2 = .ok row) :
    ∃ raw, Dict.get s agentId = some raw ∧ raw.status = .pending ∧ row = finish raw := by
  unfold settle at done
  cases stored : Dict.get s agentId with
  | none => simp [stored] at done
  | some raw =>
    simp only [stored] at done
    split at done
    · cases done
    · split at done
      · cases done
      · rename_i waiting
        obtain ⟨same,pending⟩ := refreshExpired_pending now raw (not_not.mp waiting)
        cases done
        exact ⟨raw,rfl,pending,by rw [same]⟩

theorem get_row (s : Store) (now : Int) (agentId : String) (row : ApprovalRequestState)
    (found : Dict.get (get s now agentId).1 agentId = some row) : (get s now agentId).2 = some row := by
  unfold get at found ⊢
  cases stored : Dict.get s agentId with
  | none =>
    rw [stored] at found
    rw [stored] at found
    cases found
  | some raw =>
    simp only [stored,Dict.get_set_self] at found
    exact found

theorem get_absent (s : Store) (now : Int) (agentId : String) (absent : Dict.get s agentId = none) :
    get s now agentId = (s,none) := by
  unfold get
  rw [absent]

theorem get_present (s : Store) (now : Int) (agentId : String) (raw : ApprovalRequestState)
    (stored : Dict.get s agentId = some raw) :
    get s now agentId = (s.set agentId (refreshExpired now raw),some (refreshExpired now raw)) := by
  unfold get
  rw [stored]

-- A row read in the instant of its creation is still pending.
theorem created_read (s : Store) (now : Int) (agentId : String) (c : Creation) (lasting : 0 < c.expiresIn) :
    Dict.get (get (create s now agentId c) now agentId).1 agentId = some (createdRow now agentId c) := by
  have stored : Dict.get (create s now agentId c) agentId = some (createdRow now agentId c) := Dict.get_set_self ..
  have alive : ¬deadline (createdRow now agentId c) ≤ now := by
    simp only [deadline,createdRow]
    omega
  have same : refreshExpired now (createdRow now agentId c) = createdRow now agentId c := by
    unfold refreshExpired
    rw [if_neg alive]
    split <;> rfl
  rw [get_present _ _ _ _ stored,same]
  exact Dict.get_set_self ..

theorem creationOf_fields (method : ApprovalMethod) (kind : ApprovalKind) (capabilities : List String) (specs : List Spec)
    (userCode : String) :
    (creationOf method kind capabilities specs userCode).method = method ∧
      (creationOf method kind capabilities specs userCode).approvalKind = kind ∧
      (creationOf method kind capabilities specs userCode).capabilitySpecs = specs ∧
      0 < (creationOf method kind capabilities specs userCode).expiresIn := by
  cases method <;> exact ⟨rfl,rfl,rfl,Nat.succ_pos _⟩

-- The row a create flow leaves: a matching pending row as it was or merged with the
-- request, or the request alone where there was no such row.
def FlowRow (s : Store) (now : Int) (request : Request) (row : ApprovalRequestState) : Prop :=
  row.method = request.method ∧ row.approvalKind = request.approvalKind ∧ row.status = .pending ∧
    ((∃ old, Dict.get s request.agentId = some old ∧ old.status = .pending ∧ old.method = request.method ∧
        old.approvalKind = request.approvalKind ∧
        (row = old ∨ row.capabilitySpecs = mergeCapabilitySpecs old.capabilitySpecs request.capabilitySpecs)) ∨
      row.capabilitySpecs = request.capabilitySpecs ∧
        ∀ old, Dict.get s request.agentId = some old → old.method = request.method →
          old.approvalKind = request.approvalKind → (refreshExpired now old).status ≠ .pending)

theorem afterRead_cases (request : Request) (row : ApprovalRequestState) :
    (row.method = request.method ∧ row.status = .pending ∧ row.approvalKind = request.approvalKind ∧
      afterRead request (some row) = .consenting request) ∨
    (row.method = request.method ∧ row.status = .pending ∧ row.approvalKind = request.approvalKind ∧
      afterRead request (some row) = .creating request
        (mergedPendingPayload row request.capabilities request.capabilitySpecs).1
        (mergedPendingPayload row request.capabilities request.capabilitySpecs).2) ∨
    (¬(row.method = request.method ∧ row.status = .pending ∧ row.approvalKind = request.approvalKind) ∧
      afterRead request (some row) = .creating request request.capabilities request.capabilitySpecs) := by
  unfold afterRead
  split
  · rename_i impossible; cases impossible
  · rename_i known
    cases known
    split
    · rename_i agreed
      obtain ⟨method,pending,kind⟩ := agreed
      simp only
      split
      · exact .inl ⟨method,pending,kind,rfl⟩
      · exact .inr (.inl ⟨method,pending,kind,rfl⟩)
    · rename_i differs
      exact .inr (.inr ⟨differs,rfl⟩)

theorem createApproval_row (s : Store) (now : Int) (userCode : String) (request : Request) :
    ∃ row, Dict.get (createApproval s now userCode request) request.agentId = some row ∧ FlowRow s now request row := by
  have created (read : Store) (capabilities : List String) (specs : List Spec) :
      ∃ row, Dict.get (get (create read now request.agentId
          (creationOf request.method request.approvalKind capabilities specs userCode)) now request.agentId).1
          request.agentId = some row ∧
        row.method = request.method ∧ row.approvalKind = request.approvalKind ∧ row.status = .pending ∧
        row.capabilitySpecs = specs := by
    obtain ⟨method,kind,content,lasting⟩ := creationOf_fields request.method request.approvalKind capabilities specs userCode
    exact ⟨_,created_read read now request.agentId _ lasting,method,kind,rfl,content⟩
  unfold createApproval
  cases stored : Dict.get s request.agentId with
  | none =>
    rw [get_absent s now request.agentId stored]
    obtain ⟨row,found,method,kind,pending,specs⟩ := created s request.capabilities request.capabilitySpecs
    refine ⟨row,found,method,kind,pending,.inr ⟨specs,?_⟩⟩
    intro old known
    rw [stored] at known; cases known
  | some raw =>
    rw [get_present s now request.agentId raw stored]
    rcases afterRead_cases request (refreshExpired now raw) with
      ⟨method,pending,kind,next⟩ | ⟨method,pending,kind,next⟩ | ⟨differs,next⟩
    · obtain ⟨same,waiting⟩ := refreshExpired_pending now raw pending
      rw [same] at method kind next
      simp only [same,next]
      exact ⟨raw,Dict.get_set_self ..,method,kind,waiting,.inl ⟨raw,stored,waiting,method,kind,.inl rfl⟩⟩
    · obtain ⟨same,waiting⟩ := refreshExpired_pending now raw pending
      rw [same] at method kind next
      simp only [same,next]
      obtain ⟨row,found,method',kind',pending',specs⟩ := created (s.set request.agentId raw) _
        (mergedPendingPayload raw request.capabilities request.capabilitySpecs).2
      exact ⟨row,found,method',kind',pending',.inl ⟨raw,stored,waiting,method,kind,.inr specs⟩⟩
    · simp only [next]
      obtain ⟨row,found,method,kind,pending,specs⟩ := created (s.set request.agentId (refreshExpired now raw))
        request.capabilities request.capabilitySpecs
      refine ⟨row,found,method,kind,pending,.inr ⟨specs,?_⟩⟩
      intro old known oldMethod oldKind waiting
      rw [stored] at known; cases known
      apply differs
      have fields := (refreshExpired_pending now raw waiting).1
      rw [fields] at waiting ⊢
      exact ⟨oldMethod,waiting,oldKind⟩

theorem advance_pending (s next : Store) (task task' : Task) (input : Input) (events : List Approval) (id : String)
    (row : ApprovalRequestState) (stepped : advance s task input = some (next,task',events))
    (found : Dict.get next id = some row) (pending : row.status = .pending) :
    Dict.get s id = some row ∨
      ∃ request capabilities specs, task = .creating request capabilities specs ∧ request.agentId = id ∧
        row.capabilitySpecs = specs := by
  cases task with
  | requesting request =>
    cases stepped
    exact .inl (get_pending s input.now request.agentId id row found pending)
  | creating request capabilities specs =>
    cases stepped
    simp only [create,Dict.get_set] at found
    split at found
    · rename_i same
      cases found
      refine .inr ⟨request,capabilities,specs,rfl,same,?_⟩
      cases request.method <;> rfl
    · exact .inl found
  | confirming request =>
    have kept : next = (get s input.now request.agentId).1 := by
      simp only [advance] at stepped
      split at stepped <;> cases stepped <;> rfl
    subst kept
    exact .inl (get_pending s input.now request.agentId id row found pending)
  | consenting request =>
    left
    simp only [advance] at stepped
    split at stepped
    · cases stepped
      exact found
    · cases stepped
      exact get_pending s input.now request.agentId id row found pending
  | prompting agentId principalId expected =>
    cases stepped
    exact .inl found
  | checking agentId principalId expected answer =>
    have kept : next = (get s input.now agentId).1 := by
      simp only [advance] at stepped
      split at stepped <;> cases stepped <;> rfl
    subst kept
    exact .inl (get_pending s input.now agentId id row found pending)
  | deciding agentId principalId expected answer =>
    left
    cases answer with
    | approve =>
      have kept : next = (approve s input.now agentId principalId).1 := by
        simp only [advance] at stepped
        split at stepped <;> rename_i outcome <;> cases stepped <;> rw [outcome]
      subst kept
      exact settle_pending _ s input.now agentId id row (by simp) found pending
    | decline reason =>
      cases stepped
      exact settle_pending _ s input.now agentId id row (by simp) found pending
  | polling agentId sessionActive =>
    cases stepped
    exact .inl (get_pending s input.now agentId id row found pending)
  | removing agentId =>
    cases stepped
    simp only [remove,Dict.get_erase] at found
    split at found
    · cases found
    · exact .inl found
  | finished => cases stepped

abbrev State := Machine Store Task Approval

def awaitsApproval (agentId : String) (specs : List Spec) : Task → Bool
  | .deciding id _ expected .approve => decide (id = agentId) && !specsSame specs expected
  | _ => false

-- No row with other specs is created while an approval stands between its check and its write.
def rotationFree (m : State) : Move Task Input → Bool
  | .arrive _ _ => true
  | .proceed id _ =>
    match m.tasks.get id with
    | some (.creating request _ specs) => m.tasks.values.all (fun task => !awaitsApproval request.agentId specs task)
    | _ => true

def Shown (s : Store) : Task → Prop
  | .deciding agentId _ expected .approve =>
    ∀ row, Dict.get s agentId = some row → row.status = .pending → specsSame row.capabilitySpecs expected = true
  | _ => True

theorem checked_shown (s : Store) (now : Int) (agentId principalId : String) (expected : List Spec) (answer : Answer)
    (checked : pendingMatchesExpected (get s now agentId).2 expected = true) :
    Shown (get s now agentId).1 (.deciding agentId principalId expected answer) := by
  cases answer with
  | decline => trivial
  | approve =>
    intro row found _
    rw [get_row s now agentId row found] at checked
    simp only [pendingMatchesExpected,Bool.and_eq_true] at checked
    exact checked.2

theorem afterRead_shown (s : Store) (request : Request) (existing : Option ApprovalRequestState) :
    Shown s (afterRead request existing) := by
  unfold afterRead
  split
  · trivial
  · split
    · simp only
      split <;> trivial
    · trivial

theorem afterPoll_shown (s : Store) (agentId : String) (sessionActive : Bool) (existing : Option ApprovalRequestState) :
    Shown s (afterPoll agentId sessionActive existing) := by
  unfold afterPoll
  split
  · split <;> trivial
  · trivial

theorem promptTask_shown (s : Store) (request : Request) (expected : List Spec) :
    Shown s (promptTask request expected) := by
  unfold promptTask
  split <;> trivial

theorem advance_shown (s next : Store) (task task' : Task) (input : Input) (events : List Approval)
    (stepped : advance s task input = some (next,task',events)) : Shown next task' := by
  cases task with
  | requesting request =>
    cases stepped
    exact afterRead_shown _ request _
  | creating => cases stepped; trivial
  | confirming request =>
    simp only [advance] at stepped
    split at stepped <;> cases stepped <;> trivial
  | consenting request =>
    simp only [advance] at stepped
    split at stepped <;> cases stepped <;> exact promptTask_shown _ request _
  | prompting => cases stepped; trivial
  | checking agentId principalId expected answer =>
    simp only [advance] at stepped
    split at stepped
    · rename_i checked
      cases stepped
      exact checked_shown s input.now agentId principalId expected answer checked
    · cases stepped; trivial
  | deciding agentId principalId expected answer =>
    cases answer with
    | decline => cases stepped; trivial
    | approve =>
      simp only [advance] at stepped
      split at stepped <;> cases stepped <;> trivial
  | polling agentId sessionActive =>
    cases stepped
    exact afterPoll_shown _ agentId sessionActive _
  | removing => cases stepped; trivial
  | finished => cases stepped

theorem advance_approval (s next : Store) (task task' : Task) (input : Input) (events : List Approval)
    (shown : Shown s task) (stepped : advance s task input = some (next,task',events)) :
    ∀ approval ∈ events, specsSame approval.row approval.expected = true := by
  intro approval member
  cases task with
  | requesting | creating | prompting | polling | removing => cases stepped; cases member
  | finished => cases stepped
  | confirming | consenting | checking =>
    simp only [advance] at stepped
    split at stepped <;> cases stepped <;> cases member
  | deciding agentId principalId expected answer =>
    cases answer with
    | decline => cases stepped; cases member
    | approve =>
      simp only [advance] at stepped
      split at stepped
      · rename_i after row outcome
        cases stepped
        obtain ⟨raw,found,pending,rfl⟩ := settle_row _ s input.now agentId row (by
          have done := congrArg Prod.snd outcome
          exact done)
        simp only [List.mem_singleton] at member
        subst member
        exact shown raw found pending
      · cases stepped; cases member

-- In every run without such a rotation, each row approved through a prompt holds the
-- specs the prompt showed.
theorem approved_as_shown (s : Store) (moves : List (Move Task Input)) (final : State)
    (run : Runs program.next (fun m move => rotationFree m move = true) (Machine.init s) moves final) :
    ∀ approval ∈ final.log, specsSame approval.row approval.expected = true := by
  have start : Holds (fun _ log => ∀ approval ∈ log, specsSame approval.row approval.expected = true) Shown
      (Machine.init s : State) := ⟨by simp [Machine.init],by simp [Machine.init]⟩
  refine (program.interleaved _ _ Shown ?_ ?_ (Machine.init s) final moves run start).1
  · intro store task arrives
    cases task with
    | requesting | prompting | polling => trivial
    | creating | confirming | consenting | checking | deciding | removing | finished => cases arrives
  · intro m id input task next task' events holds free known stepped
    refine ⟨?_,advance_shown m.store next task task' input events stepped,?_⟩
    · intro approval member
      rcases List.mem_append.mp member with old | new
      · exact holds.1 approval old
      · exact advance_approval m.store next task task' input events (holds.2 id task known) stepped approval new
    · intro other waiting _ standing
      have before := holds.2 other waiting standing
      cases waiting with
      | deciding agentId principalId expected answer =>
        cases answer with
        | decline => trivial
        | approve =>
          intro row found pending
          rcases advance_pending m.store next task task' input events agentId row stepped found pending with
            same | ⟨request,capabilities,specs,rfl,rfl,rfl⟩
          · exact before row same pending
          · -- the only way to a new pending row is a create, and that one was not a rotation
            simp only [rotationFree,known,List.all_eq_true] at free
            have member : Task.deciding request.agentId principalId expected .approve ∈ m.tasks.values :=
              List.mem_map.mpr ⟨_,(Dict.mem_iff m.tasks).mpr standing,rfl⟩
            simpa [awaitsApproval] using free _ member
      | requesting | creating | confirming | consenting | prompting | checking | polling | removing | finished => trivial

def readSpec : Spec := namedSpec "file:read" (by decide)
def writeSpec : Spec := namedSpec "file:write" (by decide)

def escalation (spec : Spec) : Request := ⟨"a1",.deviceAuthorization,[spec.name],[spec],.escalation,some "user-1"⟩

def promptly : Input := ⟨0,"AB12CD34",.approve⟩

-- One request up to its answered prompt: read, create, confirm, consent, answer, check.
def promptedMoves : List (Move Task Input) :=
  .arrive 0 (.requesting (escalation readSpec)) :: List.replicate 6 (.proceed 0 promptly)

-- A second request widens the row after the check and before the approval.
def widenedMoves : List (Move Task Input) :=
  promptedMoves ++ ([.arrive 1 (.requesting (escalation writeSpec)),.proceed 1 promptly,.proceed 1 promptly,.proceed 0 promptly] :
    List (Move Task Input))

theorem widened_log : (execute program.next anyMove (Machine.init .empty) widenedMoves).map
    (fun m => m.log.map (fun approval => specsSame approval.row approval.expected)) = some [false] := by
  decide +kernel

theorem widened_row_approved :
    ∃ final, Runs program.next (fun _ _ => True) (Machine.init .empty) widenedMoves final ∧
      ∃ approval ∈ final.log, specsSame approval.row approval.expected = false := by
  obtain ⟨final,ran,log⟩ := Option.map_eq_some_iff.mp widened_log
  refine ⟨final,execute_free ran,?_⟩
  have member : false ∈ final.log.map (fun approval => specsSame approval.row approval.expected) := by simp [log]
  obtain ⟨approval,inside,same⟩ := List.mem_map.mp member
  exact ⟨approval,inside,same⟩

theorem prompted_log : (execute program.next rotationFree (Machine.init .empty) (promptedMoves ++ [.proceed 0 promptly])).map
    (fun m => m.log.length) = some 1 := by
  decide +kernel

theorem approved_as_shown_prompted :
    ∃ final : State, final.log.length = 1 ∧ ∀ approval ∈ final.log, specsSame approval.row approval.expected = true := by
  obtain ⟨final,ran,log⟩ := Option.map_eq_some_iff.mp prompted_log
  exact ⟨final,log,approved_as_shown .empty _ final (execute_runs rotationFree ran)⟩

end Asap.ApprovalStore
