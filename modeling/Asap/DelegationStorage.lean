import Asap.OrderedDict
import Asap.DepthFirst

namespace Asap.DelegationStorage
open OrderedDict DepthFirst

-- `_MAX_CASCADE_DEPTH`
def maxCascadeDepth : Nat := 50

structure IssuedEntry (Time : Type) where
  delegatorUrn : String
  delegateUrn : Option String
  createdAt : Time

structure Revocation (Time : Type) where
  tokenId : String
  revokedAt : Time
  reason : Option String

-- The two dictionaries of the in-memory store, or the two tables of the SQLite
-- one. The order of `issued` is the order in which a scan returns its rows;
-- SQLite promises none, so nothing below depends on how it came about.
structure Storage (Time : Type) where
  revoked : Dict String (Time × Option String)
  issued : Dict String (IssuedEntry Time)

inductive Backend where
  | inMemory
  | sqlite
  deriving DecidableEq

variable {Time : Type}

def Storage.init : Storage Time := ⟨.empty,.empty⟩

def revoke (s : Storage Time) (row : Revocation Time) : Storage Time :=
  {s with revoked := s.revoked.set row.tokenId (row.revokedAt,row.reason)}

def isRevoked (s : Storage Time) (tokenId : String) : Bool := (s.revoked.get tokenId).isSome

-- A dictionary assignment keeps the place of a known id; `INSERT OR REPLACE`
-- deletes the old row and inserts the new one at the end.
def registerIssued (backend : Backend) (s : Storage Time) (tokenId delegatorUrn : String)
    (delegateUrn : Option String) (now : Time) : Storage Time :=
  let entry := ⟨delegatorUrn,delegateUrn,now⟩
  match backend with
  | .inMemory => {s with issued := s.issued.set tokenId entry}
  | .sqlite => {s with issued := (s.issued.erase tokenId).set tokenId entry}

-- The SQLite getter turns an empty URN into no URN; the dictionary one keeps it.
def getDelegate (backend : Backend) (s : Storage Time) (tokenId : String) : Option String :=
  match s.issued.get tokenId with
  | none => none
  | some entry =>
    match backend with
    | .inMemory => entry.delegateUrn
    | .sqlite => entry.delegateUrn.filter (fun urn => decide (urn ≠ ""))

def listTokenIdsIssuedBy (s : Storage Time) (delegatorUrn : String) : List String :=
  (s.issued.entries.filter (fun row => decide (row.2.delegatorUrn = delegatorUrn))).map Prod.fst

-- Ids the loop pushes for one token, in push order: none unless the delegate
-- URN is present and non-empty.
def cascadeChildren (backend : Backend) (s : Storage Time) (tokenId : String) : List String :=
  match getDelegate backend s tokenId with
  | none => []
  | some delegateUrn => if delegateUrn ≠ "" then listTokenIdsIssuedBy s delegateUrn else []

-- The `while stack` loop, top of the stack first. It returns the revocation
-- rows in the order they are written; nothing in the loop reads them back.
def cascadeLoop (backend : Backend) (s : Storage Time) (reason : Option String) (now : Nat → Time) :
    Nat → List String → List (String × Nat) → List (Revocation Time) → Option (List (Revocation Time))
  | _,_,[],written => some written
  | 0,_,_ :: _,_ => none
  | fuel+1,visited,(tid,depth) :: stack,written =>
    if tid ∈ visited ∨ maxCascadeDepth < depth then cascadeLoop backend s reason now fuel visited stack written
    else cascadeLoop backend s reason now fuel (visited ++ [tid])
      ((cascadeChildren backend s tid).reverse.map (·,depth+1) ++ stack)
      (written ++ [⟨tid,now written.length,reason⟩])

-- One iteration for each entry that is ever pushed.
def cascadeFuel (backend : Backend) (s : Storage Time) : Nat :=
  1 + (s.issued.keys.map (fun id => (cascadeChildren backend s id).length)).sum

def cascadeRevocations (backend : Backend) (s : Storage Time) (tokenId : String) (reason : Option String)
    (now : Nat → Time) : Option (List (Revocation Time)) :=
  cascadeLoop backend s reason now (cascadeFuel backend s) [] [(tokenId,0)] []

-- Both backends make the walk one atomic unit: the lock is held, or the
-- transaction is open, until the last row is written.
def revokeCascade (backend : Backend) (s : Storage Time) (tokenId : String) (reason : Option String)
    (now : Nat → Time) : Option (Storage Time) :=
  (cascadeRevocations backend s tokenId reason now).map (fun rows => rows.foldl revoke s)

theorem cascadeChildren_eq (s : Storage Time) (left right : Backend) (tokenId : String) :
    cascadeChildren left s tokenId = cascadeChildren right s tokenId := by
  unfold cascadeChildren getDelegate
  cases s.issued.get tokenId with
  | none => rfl
  | some entry =>
    obtain ⟨delegator,delegate,created⟩ := entry
    cases delegate with
    | none => cases left <;> cases right <;> rfl
    | some urn => by_cases empty : urn = "" <;> cases left <;> cases right <;> simp [Option.filter,empty]

theorem listTokenIdsIssuedBy_nodup (s : Storage Time) (urn : String) : (listTokenIdsIssuedBy s urn).Nodup :=
  (List.filter_sublist.map Prod.fst).nodup s.issued.distinct

theorem cascadeChildren_nodup (backend : Backend) (s : Storage Time) (tokenId : String) :
    (cascadeChildren backend s tokenId).Nodup := by
  unfold cascadeChildren
  split
  · exact List.nodup_nil
  · split
    · exact listTokenIdsIssuedBy_nodup s _
    · exact List.nodup_nil

theorem cascadeChildren_unissued (backend : Backend) (s : Storage Time) (tokenId : String)
    (absent : tokenId ∉ s.issued.keys) : cascadeChildren backend s tokenId = [] := by
  have missing : s.issued.get tokenId = none := (Dict.get_none_iff s.issued).mpr absent
  simp [cascadeChildren,getDelegate,missing]

-- The loop is the bounded depth-first walk over the children, one row written
-- for each token the walk marks as visited.
theorem cascadeLoop_walk (backend : Backend) (s : Storage Time) (reason : Option String) (now : Nat → Time)
    (fuel : Nat) (visited : List String) (stack : List (String × Nat)) (written : List (Revocation Time))
    (marked : written.map Revocation.tokenId = visited) :
    (cascadeLoop backend s reason now fuel visited stack written).map (List.map Revocation.tokenId) =
      walk (cascadeChildren backend s) maxCascadeDepth fuel visited stack := by
  induction fuel generalizing visited stack written with
  | zero =>
    cases stack with
    | nil => simp [cascadeLoop,walk,marked]
    | cons item rest => rfl
  | succ fuel ih =>
    cases stack with
    | nil => simp [cascadeLoop,walk,marked]
    | cons item rest =>
      obtain ⟨tid,depth⟩ := item
      unfold cascadeLoop walk
      split
      · exact ih visited rest written marked
      · exact ih _ _ _ (by simp [marked])

theorem cascadeRevocations_explore (backend : Backend) (s : Storage Time) (tokenId : String)
    (reason : Option String) (now : Nat → Time) :
    ∃ rows, cascadeRevocations backend s tokenId reason now = some rows ∧
      rows.map Revocation.tokenId = explore (cascadeChildren backend s) maxCascadeDepth [] tokenId := by
  have walked := cascadeLoop_walk backend s reason now (cascadeFuel backend s) [] [(tokenId,0)] [] rfl
  have enough : [(tokenId,0)].length + outstanding (cascadeChildren backend s) s.issued.keys [] ≤
      cascadeFuel backend s := by
    simp [outstanding,cascadeFuel]
  rw [walk_complete _ _ s.issued.distinct (cascadeChildren_unissued backend s) _ _ enough] at walked
  cases ran : cascadeLoop backend s reason now (cascadeFuel backend s) [] [(tokenId,0)] [] with
  | none => simp [ran] at walked
  | some rows =>
    refine ⟨rows,ran,?_⟩
    simpa [ran,serve] using walked

-- What one call leaves behind: the written tokens are revoked, every other
-- record is as it was.
theorem revoke_all_get (rows : List (Revocation Time)) (s : Storage Time) (tokenId : String) :
    isRevoked (rows.foldl revoke s) tokenId = true ↔
      tokenId ∈ rows.map Revocation.tokenId ∨ isRevoked s tokenId = true := by
  induction rows generalizing s with
  | nil => simp
  | cons row rest ih =>
    rw [List.foldl_cons,ih]
    by_cases same : row.tokenId = tokenId
    · simp [isRevoked,revoke,same]
    · simp [isRevoked,revoke,Dict.get_set,same,Ne.symm same]

theorem revoke_all_issued (rows : List (Revocation Time)) (s : Storage Time) :
    (rows.foldl revoke s).issued = s.issued := by
  induction rows generalizing s with
  | nil => rfl
  | cons row rest ih => rw [List.foldl_cons,ih]; rfl

theorem revokeCascade_spec (backend : Backend) (s : Storage Time) (tokenId : String)
    (reason : Option String) (now : Nat → Time) :
    ∃ after, revokeCascade backend s tokenId reason now = some after ∧ after.issued = s.issued ∧
      ∀ id, isRevoked after id = true ↔
        id ∈ explore (cascadeChildren backend s) maxCascadeDepth [] tokenId ∨ isRevoked s id = true := by
  obtain ⟨rows,ran,ids⟩ := cascadeRevocations_explore backend s tokenId reason now
  refine ⟨rows.foldl revoke s,by simp [revokeCascade,ran],revoke_all_issued rows s,?_⟩
  intro id
  rw [revoke_all_get,ids]

-- Issuance: a token is a child of another when its delegator is the other's
-- delegate. The loop's own children leave out an empty delegate URN.
def issuedUnder (s : Storage Time) (tokenId : String) : List String :=
  match (s.issued.get tokenId).bind IssuedEntry.delegateUrn with
  | none => []
  | some delegateUrn => listTokenIdsIssuedBy s delegateUrn

theorem mem_issuedUnder (s : Storage Time) : child ∈ issuedUnder s parent ↔
    ∃ p c, s.issued.get parent = some p ∧ s.issued.get child = some c ∧ p.delegateUrn = some c.delegatorUrn := by
  unfold issuedUnder
  cases got : s.issued.get parent with
  | none => simp
  | some p =>
    cases delegate : p.delegateUrn with
    | none => simp [delegate]
    | some urn =>
      simp only [Option.bind_some,delegate,listTokenIdsIssuedBy,List.mem_map,List.mem_filter,decide_eq_true_eq,
        Option.some.injEq]
      constructor
      · rintro ⟨⟨id,c⟩,⟨member,same⟩,rfl⟩
        exact ⟨p,c,rfl,(Dict.mem_iff s.issued).mp member,by rw [delegate,same]⟩
      · rintro ⟨q,c,rfl,found,same⟩
        rw [delegate] at same
        exact ⟨(child,c),⟨(Dict.mem_iff s.issued).mpr found,(Option.some.inj same).symm⟩,rfl⟩

theorem cascadeChildren_issued (backend : Backend) (s : Storage Time) (parent : String) :
    ∀ child ∈ cascadeChildren backend s parent, child ∈ issuedUnder s parent := by
  intro child member
  rw [cascadeChildren_eq s backend .inMemory] at member
  unfold cascadeChildren getDelegate at member
  unfold issuedUnder
  cases got : s.issued.get parent with
  | none => simp [got] at member
  | some p =>
    cases delegate : p.delegateUrn with
    | none => simp [got,delegate] at member
    | some urn =>
      simp only [got,delegate] at member
      simp only [Option.bind_some,delegate]
      split at member
      · exact member
      · cases member

end Asap.DelegationStorage
