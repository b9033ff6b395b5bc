import Mathlib.Data.Rat.Floor
import Mathlib.Order.Monotone.Basic
import Asap.OrderedDict
import Asap.PythonValue

-- Delegation tokens: `create_delegation_jwt` and `validate_delegation`.
namespace Asap.DelegationTokens
open OrderedDict PythonValue

abbrev Claims := Dict String Value

-- The exceptions that some `except` of the module names, and all others.
inductive Kind where
  | keyError
  | valueError
  | typeError
  | joseError
  | overflowError
  | other
  deriving DecidableEq

structure Raise where
  kind : Kind
  text : String

def jwtAlg : String := "Ed25519"
def jwtAlgsVerify : List String := [jwtAlg,"EdDSA"]
def xAsapConstraintsClaim : String := "x-asap-constraints"
def wildcardScope : String := "*"

-- joserfc: `encode` signs header and claims, `decode` checks signature and algorithm.
structure Jose (PublicKey PrivateKey : Type) where
  encode : Claims → Claims → PrivateKey → List String → Except Raise String
  decode : String → PublicKey → List String → Except Raise Claims

-- `json.loads` of a decoded segment, `str` of what is no string, and `int` of a text.
structure Python where
  segment : String → Except Raise Value
  str : Value → String
  intOfStr : String → Option Int

-- The rounding of a time in seconds to a double.
structure Doubles where
  round : Rat → Rat
  monotone : Monotone round
  one : round 1 = 1

def DateTime.epochMicros (t : DateTime) : Int := t.instant - 62135596800000000

-- `timestamp()` of a time that many microseconds after the epoch.
def timestamp (d : Doubles) (epochMicros : Int) : Rat := d.round (epochMicros / 1000000)

-- `int` of a float, towards zero.
def truncate (value : Rat) : Int := if value < 0 then -(-value).floor else value.floor

section Create
variable {PublicKey PrivateKey : Type} (jose : Jose PublicKey PrivateKey) (d : Doubles)

-- A float that passes `ge=0`.
def atLeastZero : Value → Bool
  | .float value _ => decide (0 ≤ value)
  | .nonFinite repr => decide (repr = "Infinity")
  | _ => false

structure DelegationConstraints where
  maxCostUsd : Option {value : Value // atLeastZero value = true}
  maxTasks : Option Nat
  expiresAt : DateTime

def optionalRow (name : String) (value : Option Value) : List (String × Value) := (value.map (fun v => (name,v))).toList

def xConstraints (constraints : DelegationConstraints) : List (String × Value) :=
  optionalRow "max_tasks" (constraints.maxTasks.map (fun n => .int n)) ++ optionalRow "max_cost_usd" (constraints.maxCostUsd.map Subtype.val)

def delegationClaims (delegatorUrn delegateUrn jti : String) (scopes : List String) (constraints : DelegationConstraints)
    (now : Int) : Claims :=
  let limits := xConstraints constraints
  fill (([("iss",.str delegatorUrn),("aud",.str delegateUrn),("jti",.str jti),
      ("iat",.int (truncate (timestamp d now))),
      ("exp",.int (truncate (timestamp d (DateTime.epochMicros constraints.expiresAt)))),
      ("scp",.list (scopes.map Value.str))] : List (String × Value)) ++
    (if limits = [] then [] else [(xAsapConstraintsClaim,.dict (limits.map (fun row => (.str row.1,row.2))))] : List (String × Value)))

-- A naive `expires_at` is read as UTC. `drawn` is what `generate_id` gives.
def createDelegationJwt (delegatorUrn delegateUrn : String) (scopes : List String) (constraints : DelegationConstraints)
    (privateKey : PrivateKey) (tokenId : Option String) (drawn : String) (now : Int) : Except Raise String :=
  if scopes = [] then .error ⟨.valueError,"scopes must not be empty"⟩
  else
    jose.encode (fill [("alg",.str jwtAlg),("typ",.str "JWT")])
      (delegationClaims d delegatorUrn delegateUrn (tokenId.getD ("del_" ++ drawn)) scopes constraints now) privateKey [jwtAlg]
end Create

structure ValidationResult where
  success : Bool
  error : Option String
  delegator : Option String
  delegate : Value
  jti : Option String
  scopes : Option (List Value)

def ValidationResult.failed (error : String) : ValidationResult := ⟨false,some error,none,.none,none,none⟩

-- What the caller passes in. The allowed delegators are a set.
structure Callables (PublicKey : Type) where
  publicKeyResolver : String → Except Raise PublicKey
  usageCountForToken : Option (String → Except Raise Int)
  allowedDelegators : Option (List String)
  isRevoked : Option (String → Except Raise Bool)

-- A check ends the validation with a failed result or with an exception.
inductive Stop where
  | failed (error : String)
  | raised (exception : Raise)

section Validate
variable {PublicKey PrivateKey : Type} (jose : Jose PublicKey PrivateKey) (python : Python) (d : Doubles)

def strOf : Value → String
  | .str text => text
  | value => python.str value

def parseClaimFromJwt (token claim : String) : Except Raise (Option String) :=
  match token.toList.splitOn '.' with
  | [_,payload,_] =>
    match python.segment (String.ofList payload) with
    | .ok (.dict claims) =>
      match lookupItem claim claims with
      | none | some .none => .ok none
      | some value => .ok (some (strOf python value))
    | .ok _ => .ok none
    | .error exception =>
      if exception.kind = .valueError ∨ exception.kind = .keyError ∨ exception.kind = .typeError then .ok none else .error exception
  | _ => .ok none

def issuer (token : String) : Except Stop String :=
  match parseClaimFromJwt python token "iss" with
  | .error exception => .error (.raised exception)
  | .ok iss => if iss.getD "" = "" then .error (.failed "Invalid or malformed token") else .ok (iss.getD "")

def delegatorAllowed (allowed : Option (List String)) (iss : String) : Bool := allowed.all (fun urns => urns.contains iss)

def verifiedClaims (callables : Callables PublicKey) (token iss : String) : Except Stop Claims :=
  if !delegatorAllowed callables.allowedDelegators iss then .error (.failed "Delegator not allowed to issue delegations")
  else match callables.publicKeyResolver iss with
    | .error exception =>
      if exception.kind = .keyError ∨ exception.kind = .valueError then
        .error (.failed ("Delegator key not found or invalid: " ++ exception.text))
      else .error (.raised exception)
    | .ok publicKey =>
      match jose.decode token publicKey jwtAlgsVerify with
      | .ok claims => .ok claims
      | .error exception =>
        if exception.kind = .joseError then .error (.failed ("Invalid or expired token: " ++ exception.text))
        else .error (.raised exception)

-- `int(exp)` of a number. NaN is passed over, an infinity raises.
def expTs : Value → Except Raise (Option Int)
  | .bool value => .ok (some (if value then 1 else 0))
  | .int value => .ok (some value)
  | .float value _ => .ok (some (truncate value))
  | .nonFinite repr => if repr = "NaN" then .ok none else .error ⟨.overflowError,"cannot convert float infinity to integer"⟩
  | _ => .ok none

def notExpired (claims : Claims) (now : Int) : Except Stop Unit :=
  match expTs ((claims.get "exp").getD .none) with
  | .error exception => .error (.raised exception)
  | .ok exp =>
    -- an `exp` that is not positive is cleared
    match exp.filter (fun ts => decide (0 < ts)) with
    | some ts => if (ts : Rat) ≤ timestamp d now then .error (.failed "Token expired") else .ok ()
    | none => .ok ()

def scopeIncludesAction (scopes : List Value) (action : String) : Bool :=
  if scopes = [] then false
  else if scopes.any (fun scope => scope.same (.str wildcardScope)) then true
  else scopes.any (fun scope => scope.same (.str action))

def scopesFor (claims : Claims) (action : String) : Except Stop (List Value) :=
  let scp := match claims.get "scp" with
    | some (.list scopes) => scopes
    | _ => []
  if scopeIncludesAction scp action then .ok scp else .error (.failed "Action not allowed by token scopes")

def jtiStr (claims : Claims) : Option String :=
  match claims.get "jti" with
  | none | some .none => none
  | some jti => some (strOf python jti)

-- The id as the two checks below use it: an empty one is skipped like a missing one.
def tokenId (claims : Claims) : Option String := (jtiStr python claims).filter (fun jti => decide (jti ≠ ""))

def notRevoked (callables : Callables PublicKey) (claims : Claims) : Except Stop Unit :=
  match tokenId python claims,callables.isRevoked with
  | some jti,some isRevoked =>
    match isRevoked jti with
    | .error exception => .error (.raised exception)
    | .ok revoked => if revoked then .error (.failed "Token revoked") else .ok ()
  | _,_ => .ok ()

def toInt : Value → Except Raise Int
  | .bool value => .ok (if value then 1 else 0)
  | .int value => .ok value
  | .float value _ => .ok (truncate value)
  | .nonFinite repr => .error ⟨if repr = "NaN" then .valueError else .overflowError,"cannot convert float to integer"⟩
  | .str text => match python.intOfStr text with
    | some value => .ok value
    | none => .error ⟨.valueError,"invalid literal for int()"⟩
  | _ => .error ⟨.typeError,"int() argument must be a string, a bytes-like object or a real number"⟩

def maxTasks (claims : Claims) : Option Value :=
  match claims.get xAsapConstraintsClaim with
  | some (.dict constraints) =>
    match lookupItem "max_tasks" constraints with
    | none | some .none => none
    | some value => some value
  | _ => none

def withinLimit (callables : Callables PublicKey) (claims : Claims) : Except Stop Unit :=
  match maxTasks claims,callables.usageCountForToken,tokenId python claims with
  | some maxTasks,some usageCountForToken,some jti =>
    match (usageCountForToken jti).bind (fun used => (toInt python maxTasks).map (fun limit => decide (limit ≤ used))) with
    | .ok exceeded => if exceeded then .error (.failed "Delegation task limit exceeded") else .ok ()
    | .error exception =>
      if exception.kind = .typeError ∨ exception.kind = .valueError then .ok () else .error (.raised exception)
  | _,_,_ => .ok ()

def delegateOf (claims : Claims) : Value :=
  match claims.get "aud" with
  | some (.list aud) => aud.head?.getD .none
  | none | some .none => .none
  | some aud => .str (strOf python aud)

def accepted (callables : Callables PublicKey) (token action : String) (now : Int) : Except Stop ValidationResult := do
  let iss ← issuer python token
  let claims ← verifiedClaims jose callables token iss
  notExpired d claims now
  let scopes ← scopesFor claims action
  notRevoked python callables claims
  withinLimit python callables claims
  return ⟨true,none,some iss,delegateOf python claims,jtiStr python claims,some scopes⟩

def validateDelegation (callables : Callables PublicKey) (token action : String) (now : Int) : Except Raise ValidationResult :=
  match accepted jose python d callables token action now with
  | .ok result => .ok result
  | .error (.failed error) => .ok (.failed error)
  | .error (.raised exception) => .error exception

def Succeeds (callables : Callables PublicKey) (token action : String) (now : Int) : Prop :=
  ∃ result, validateDelegation jose python d callables token action now = .ok result ∧ result.success = true

variable {jose python d} {callables : Callables PublicKey} {token action : String} {claims : Claims} {now : Int}

theorem verifiedClaims_ok : verifiedClaims jose callables token iss = .ok claims ↔
    delegatorAllowed callables.allowedDelegators iss = true ∧
      ∃ key, callables.publicKeyResolver iss = .ok key ∧ jose.decode token key jwtAlgsVerify = .ok claims := by
  unfold verifiedClaims
  cases delegatorAllowed callables.allowedDelegators iss with
  | false => simp
  | true =>
    cases callables.publicKeyResolver iss with
    | error exception => by_cases caught : exception.kind = .keyError ∨ exception.kind = .valueError <;> simp [caught]
    | ok key =>
      cases decoded : jose.decode token key jwtAlgsVerify with
      | ok found => simp [decoded]
      | error exception => by_cases caught : exception.kind = .joseError <;> simp [decoded,caught]

theorem notExpired_ok : notExpired d claims now = .ok () ↔
    ∃ exp, expTs ((claims.get "exp").getD .none) = .ok exp ∧ ∀ ts ∈ exp, 0 < ts → timestamp d now < ts := by
  unfold notExpired
  cases expTs ((claims.get "exp").getD .none) with
  | error exception => simp
  | ok exp =>
    cases exp with
    | none => simp
    | some ts =>
      by_cases positive : 0 < ts
      · by_cases passed : (ts : Rat) ≤ timestamp d now
        · simp [Option.filter,positive,passed]
        · simp [Option.filter,positive,passed,not_le.mp passed]
      · simp [Option.filter,positive]

theorem scopeIncludesAction_iff (scopes : List Value) :
    scopeIncludesAction scopes action = true ↔ .str action ∈ scopes ∨ .str wildcardScope ∈ scopes := by
  have listed : ∀ text, scopes.any (fun scope => scope.same (.str text)) = true ↔ Value.str text ∈ scopes := by
    intro text
    simp [Value.same_str_iff]
  unfold scopeIncludesAction
  by_cases empty : scopes = []
  · simp [empty]
  · simp only [if_neg empty]
    by_cases wildcard : scopes.any (fun scope => scope.same (.str wildcardScope)) = true
    · simp [wildcard,(listed wildcardScope).mp wildcard]
    · rw [if_neg wildcard,listed action]
      exact ⟨.inl,fun either => either.resolve_right (fun member => wildcard ((listed wildcardScope).mpr member))⟩

theorem scopesFor_ok : scopesFor claims action = .ok scopes ↔
    claims.get "scp" = some (.list scopes) ∧ (.str action ∈ scopes ∨ .str wildcardScope ∈ scopes) := by
  unfold scopesFor
  split
  · rename_i found given
    rw [given,← scopeIncludesAction_iff]
    by_cases included : scopeIncludesAction found action = true
    · simp only [if_pos included,Except.ok.injEq,Option.some.injEq,Value.list.injEq]
      exact ⟨fun same => ⟨same,same ▸ included⟩,And.left⟩
    · simp only [if_neg included]
      constructor
      · intro impossible
        cases impossible
      · rintro ⟨same,needed⟩
        cases same
        exact absurd needed included
  · rename_i absent
    constructor
    · intro impossible
      cases impossible
    · rintro ⟨given,_⟩
      exact absurd given (absent scopes)

theorem notRevoked_ok : notRevoked python callables claims = .ok () ↔
    ∀ jti isRevoked, tokenId python claims = some jti → callables.isRevoked = some isRevoked → isRevoked jti = .ok false := by
  unfold notRevoked
  cases tokenId python claims with
  | none => simp
  | some jti =>
    cases callables.isRevoked with
    | none => simp
    | some isRevoked =>
      cases answered : isRevoked jti with
      | error exception => simp [answered]
      | ok revoked => cases revoked <;> simp [answered]

-- The limit is passed over where the count or the limit raises TypeError or ValueError.
theorem withinLimit_below (within : withinLimit python callables claims = .ok ()) (id : tokenId python claims = some jti)
    (counter : callables.usageCountForToken = some usageCount) (limited : maxTasks claims = some limit)
    (counted : usageCount jti = .ok used) (read : toInt python limit = .ok n) : used < n := by
  unfold withinLimit at within
  simp only [id,counter,limited,counted,read,Except.bind,Except.map] at within
  by_cases exceeded : n ≤ used
  · simp [exceeded] at within
  · exact Int.not_le.mp exceeded

-- A success passes every check.
theorem validateDelegation_succeeds (succeeds : Succeeds jose python d callables token action now) :
    ∃ iss key claims scopes, issuer python token = .ok iss ∧ callables.publicKeyResolver iss = .ok key ∧
      jose.decode token key jwtAlgsVerify = .ok claims ∧ notExpired d claims now = .ok () ∧ scopesFor claims action = .ok scopes ∧
      notRevoked python callables claims = .ok () ∧ withinLimit python callables claims = .ok () := by
  obtain ⟨result,validated,success⟩ := succeeds
  unfold validateDelegation at validated
  cases checked : accepted jose python d callables token action now with
  | error stop =>
    rw [checked] at validated
    cases stop with
    | failed error =>
      cases validated
      cases success
    | raised exception => cases validated
  | ok found =>
    unfold accepted at checked
    obtain ⟨iss,issued,checked⟩ := bind_ok_iff.mp checked
    obtain ⟨claims,verified,checked⟩ := bind_ok_iff.mp checked
    obtain ⟨_,live,checked⟩ := bind_ok_iff.mp checked
    obtain ⟨scopes,granted,checked⟩ := bind_ok_iff.mp checked
    obtain ⟨_,current,checked⟩ := bind_ok_iff.mp checked
    obtain ⟨_,within,_⟩ := bind_ok_iff.mp checked
    obtain ⟨-,key,resolved,decoded⟩ := verifiedClaims_ok.mp verified
    exact ⟨iss,key,claims,scopes,issued,resolved,decoded,live,granted,current,within⟩

-- Rounding keeps the order of two times, so a token that has expired is past its `exp`.
theorem truncate_le {value : Rat} (nonneg : 0 ≤ value) : (truncate value : Rat) ≤ value := by
  rw [truncate,if_neg (not_lt.mpr nonneg)]
  exact Rat.floor_le value

theorem timestamp_mono (d : Doubles) {early late : Int} (ordered : early ≤ late) : timestamp d early ≤ timestamp d late := by
  apply d.monotone
  apply div_le_div_of_nonneg_right _ (by norm_num)
  exact_mod_cast ordered

theorem one_le_timestamp (d : Doubles) {micros : Int} (late : 1000000 ≤ micros) : 1 ≤ timestamp d micros := by
  have rounded := timestamp_mono d late
  have second : timestamp d 1000000 = 1 := by
    rw [timestamp,← d.one]
    norm_num
  rwa [second] at rounded

theorem truncate_pos {value : Rat} (late : 1 ≤ value) : 0 < truncate value := by
  rw [truncate,if_neg (not_lt.mpr (le_trans (by norm_num) late))]
  have floor : (1 : Int) ≤ value.floor := Rat.le_floor_iff.mpr (by exact_mod_cast late)
  omega

theorem delegationClaims_exp (d : Doubles) (delegatorUrn delegateUrn jti : String) (scopes : List String)
    (constraints : DelegationConstraints) (issuedAt : Int) :
    (delegationClaims d delegatorUrn delegateUrn jti scopes constraints issuedAt).get "exp" =
      some (.int (truncate (timestamp d (DateTime.epochMicros constraints.expiresAt)))) := by
  unfold delegationClaims
  rw [get_fill]
  by_cases free : xConstraints constraints = [] <;> simp [free,xAsapConstraintsClaim]

-- What joserfc promises of its own tokens: a token decodes to the claims it was encoded from.
variable (jose) in
def DecodesOwn : Prop := ∀ header claims privateKey algorithms token publicKey decoded,
  jose.encode header claims privateKey algorithms = .ok token → jose.decode token publicKey jwtAlgsVerify = .ok decoded → decoded = claims

-- A token that expires at least a second after the epoch has a positive `exp`.
theorem created_expires (own : DecodesOwn jose) {constraints : DelegationConstraints}
    (created : createDelegationJwt jose d delegatorUrn delegateUrn scopes constraints privateKey given drawn issuedAt = .ok token)
    (late : 1000000 ≤ DateTime.epochMicros constraints.expiresAt)
    (succeeds : Succeeds jose python d callables token action now) : now < DateTime.epochMicros constraints.expiresAt := by
  obtain ⟨iss,key,claims,granted,-,-,decoded,live,-⟩ := validateDelegation_succeeds succeeds
  unfold createDelegationJwt at created
  split at created
  · cases created
  · have same := own _ _ _ _ _ _ _ created decoded
    subst same
    obtain ⟨exp,read,unexpired⟩ := notExpired_ok.mp live
    rw [delegationClaims_exp] at read
    cases read
    have second := one_le_timestamp d late
    have before := unexpired _ rfl (truncate_pos second)
    have floor := truncate_le (le_trans (by norm_num) second)
    by_contra passed
    have ordered := timestamp_mono d (not_lt.mp passed)
    exact absurd (lt_of_lt_of_le before (le_trans floor ordered)) (lt_irrefl _)

theorem delegation_checked (jose : Jose PublicKey PrivateKey) (python : Python) (d : Doubles) (own : DecodesOwn jose) :
    (∀ delegatorUrn delegateUrn scopes constraints privateKey tokenId drawn issuedAt token callables action now,
      createDelegationJwt jose d delegatorUrn delegateUrn scopes constraints privateKey tokenId drawn issuedAt = .ok token →
      1000000 ≤ DateTime.epochMicros constraints.expiresAt → Succeeds jose python d callables token action now →
      now < DateTime.epochMicros constraints.expiresAt) ∧
    (∀ callables token action now, Succeeds jose python d callables token action now →
      ∃ iss key claims scopes, callables.publicKeyResolver iss = .ok key ∧ jose.decode token key jwtAlgsVerify = .ok claims ∧
        claims.get "scp" = some (.list scopes) ∧ (.str action ∈ scopes ∨ .str wildcardScope ∈ scopes) ∧
        (∀ jti isRevoked, tokenId python claims = some jti → callables.isRevoked = some isRevoked → isRevoked jti = .ok false) ∧
        (∀ jti usageCount limit used n, tokenId python claims = some jti → callables.usageCountForToken = some usageCount →
          maxTasks claims = some limit → usageCount jti = .ok used → toInt python limit = .ok n → used < n)) := by
  refine ⟨?_,?_⟩
  · intro _ _ _ constraints _ _ _ _ token callables action now created late succeeds
    exact created_expires own created late succeeds
  · intro callables token action now succeeds
    obtain ⟨iss,key,claims,scopes,-,resolved,decoded,-,granted,current,within⟩ := validateDelegation_succeeds succeeds
    obtain ⟨listed,included⟩ := scopesFor_ok.mp granted
    refine ⟨iss,key,claims,scopes,resolved,decoded,listed,included,notRevoked_ok.mp current,?_⟩
    intro jti usageCount limit used n id counter limited counted read
    exact withinLimit_below within id counter limited counted read
end Validate

section Samples

def exactDoubles : Doubles := ⟨id,monotone_id,rfl⟩

def sampleUrn : String := "urn:asap:agent:a"

def claimsUntil (exp : Int) : Claims :=
  ⟨[("iss",.str sampleUrn),("aud",.str "urn:asap:agent:b"),("jti",.str "del_1"),("iat",.int 0),("exp",.int exp),
    ("scp",.list [.str "task.execute"])],by simp⟩

def anonymousClaims : Claims := ⟨[("iss",.str sampleUrn),("scp",.list [.str "task.execute"])],by decide⟩

def unreadableClaims : Claims :=
  ⟨[("iss",.str sampleUrn),("jti",.str "del_2"),("scp",.list [.str "task.execute"]),
    ("x-asap-constraints",.dict [(.str "max_tasks",.list [.int 0])])],by decide⟩

-- A library that signs and reads these tokens only.
def sampleDecoded (token : String) : Except Raise Claims :=
  if token = "h.epoch.s" then .ok (claimsUntil 0)
  else if token = "h.later.s" then .ok (claimsUntil 4000000000)
  else if token = "h.anonymous.s" then .ok anonymousClaims
  else if token = "h.unreadable.s" then .ok unreadableClaims
  else .error ⟨.joseError,"bad_signature"⟩

def sampleEncoded (claims : Claims) : Except Raise String :=
  match claims.entries with
  | [(k1,.str v1),(k2,.str v2),(k3,.str v3),(k4,.int v4),(k5,.int exp),(k6,.list [.str v6])] =>
    if [k1,v1,k2,v2,k3,v3,k4,k5,k6,v6] =
        ["iss",sampleUrn,"aud","urn:asap:agent:b","jti","del_1","iat","exp","scp","task.execute"] ∧ v4 = 0 then
      if exp = 0 then .ok "h.epoch.s" else if exp = 4000000000 then .ok "h.later.s" else .error ⟨.other,""⟩
    else .error ⟨.other,""⟩
  | _ => .error ⟨.other,""⟩

def sampleJose : Jose Unit Unit := ⟨fun _ claims _ _ => sampleEncoded claims,fun token _ _ => sampleDecoded token⟩

theorem sampleJose_own : DecodesOwn sampleJose := by
  intro header claims privateKey algorithms token publicKey decoded encoded read
  change sampleEncoded claims = .ok token at encoded
  change sampleDecoded token = .ok decoded at read
  unfold sampleEncoded at encoded
  split at encoded
  · rename_i k1 v1 k2 v2 k3 v3 k4 v4 k5 exp k6 v6 entries
    split at encoded
    · rename_i known
      obtain ⟨texts,zero⟩ := known
      simp only [List.cons.injEq,and_true] at texts
      obtain ⟨rfl,rfl,rfl,rfl,rfl,rfl,rfl,rfl,rfl,rfl⟩ := texts
      subst zero
      have shape : claims = claimsUntil exp := Dict.ext entries
      split at encoded
      · rename_i epoch
        cases encoded
        cases Except.ok.inj read
        rw [shape,epoch]
      · split at encoded
        · rename_i later
          cases encoded
          cases Except.ok.inj read
          rw [shape,later]
        · cases encoded
    · cases encoded
  · cases encoded

def samplePython : Python where
  segment payload :=
    match sampleDecoded ("h." ++ payload ++ ".s") with
    | .ok claims => .ok (.dict (claims.entries.map (fun row => (.str row.1,row.2))))
    | .error exception => .error ⟨.valueError,exception.text⟩
  str _ := ""
  intOfStr := String.toInt?

def sampleCallables (revoked : Bool) (used : Int) : Callables Unit :=
  ⟨fun _ => .ok (),some (fun _ => .ok used),none,some (fun _ => .ok revoked)⟩

theorem utc_offset : ∀ delta ∈ some (0 : Int), -86400000000 < delta ∧ delta < 86400000000 := by decide

def epoch : DateTime := ⟨1970,1,1,0,0,0,0,some 0,by decide,by decide,utc_offset⟩
def later : DateTime := ⟨2096,10,2,7,6,40,0,some 0,by decide,by decide,utc_offset⟩

def sampleCreated (expiresAt : DateTime) : Except Raise String :=
  createDelegationJwt sampleJose exactDoubles sampleUrn "urn:asap:agent:b" ["task.execute"] ⟨none,none,expiresAt⟩ () (some "del_1") "" 0

theorem sample_seconds : truncate (timestamp exactDoubles 0) = 0 ∧ truncate (timestamp exactDoubles (DateTime.epochMicros epoch)) = 0 ∧
    truncate (timestamp exactDoubles (DateTime.epochMicros later)) = 4000000000 := by decide +kernel

theorem sampleCreated_claims (expiresAt : DateTime) :
    sampleCreated expiresAt = sampleEncoded (claimsUntil (truncate (timestamp exactDoubles (DateTime.epochMicros expiresAt)))) := by
  have claims : delegationClaims exactDoubles sampleUrn "urn:asap:agent:b" "del_1" ["task.execute"] ⟨none,none,expiresAt⟩ 0 =
      claimsUntil (truncate (timestamp exactDoubles (DateTime.epochMicros expiresAt))) := by
    apply Dict.ext
    unfold delegationClaims
    rw [entries_fill _ (by simp [xConstraints,optionalRow]),sample_seconds.1]
    rfl
  change sampleEncoded (delegationClaims exactDoubles sampleUrn "urn:asap:agent:b" "del_1" ["task.execute"] ⟨none,none,expiresAt⟩ 0) = _
  rw [claims]

theorem sampleCreated_epoch : sampleCreated epoch = .ok "h.epoch.s" := by
  rw [sampleCreated_claims,sample_seconds.2.1]
  rfl

theorem sampleCreated_later : sampleCreated later = .ok "h.later.s" := by
  rw [sampleCreated_claims,sample_seconds.2.2]
  rfl

def sampleValidated (callables : Callables Unit) (token : String) (now : Int) : Bool :=
  match validateDelegation sampleJose samplePython exactDoubles callables token "task.execute" now with
  | .ok result => result.success
  | .error _ => false

theorem sampleValidated_succeeds (validated : sampleValidated callables token now = true) :
    Succeeds sampleJose samplePython exactDoubles callables token "task.execute" now := by
  unfold sampleValidated at validated
  split at validated
  · rename_i result found
    exact ⟨result,found,validated⟩
  · cases validated

theorem sample_accepts : sampleValidated (sampleCallables false 0) "h.later.s" 1700000000000000 = true ∧
    sampleValidated (sampleCallables false 0) "h.epoch.s" 1700000000000000 = true ∧
    sampleValidated (sampleCallables true 0) "h.anonymous.s" 1700000000000000 = true ∧
    sampleValidated (sampleCallables false 7) "h.unreadable.s" 1700000000000000 = true := by
  decide +kernel

theorem delegation_checked_later : 1700000000000000 < DateTime.epochMicros later ∧
    ∃ key claims scopes, sampleJose.decode "h.later.s" key jwtAlgsVerify = .ok claims ∧ claims.get "scp" = some (.list scopes) ∧
      (.str "task.execute" ∈ scopes ∨ .str wildcardScope ∈ scopes) := by
  have checked := delegation_checked sampleJose samplePython exactDoubles sampleJose_own
  have succeeds := sampleValidated_succeeds sample_accepts.1
  have late : 1000000 ≤ DateTime.epochMicros later := by decide
  have created := sampleCreated_later
  unfold sampleCreated at created
  have before := checked.1 sampleUrn "urn:asap:agent:b" ["task.execute"] ⟨none,none,later⟩ () (some "del_1") "" 0 "h.later.s"
    (sampleCallables false 0) "task.execute" 1700000000000000 created late succeeds
  refine ⟨before,?_⟩
  obtain ⟨_,key,claims,scopes,-,decoded,listed,included,-⟩ := checked.2 _ _ _ _ succeeds
  exact ⟨key,claims,scopes,decoded,listed,included⟩

-- An `exp` that is not positive never expires, and a token without an id, or with a limit that
-- `int` refuses, is not asked for its revocation or its usage.
theorem delegation_unchecked :
    (¬ ∀ expiresAt token callables action now, sampleCreated expiresAt = .ok token →
      Succeeds sampleJose samplePython exactDoubles callables token action now → now < DateTime.epochMicros expiresAt) ∧
    (¬ ∀ callables token action now isRevoked, callables.isRevoked = some isRevoked →
      Succeeds sampleJose samplePython exactDoubles callables token action now →
      ∃ claims jti, sampleDecoded token = .ok claims ∧ jtiStr samplePython claims = some jti ∧ isRevoked jti = .ok false) ∧
    (¬ ∀ callables token action now claims limit usageCount jti used, callables.usageCountForToken = some usageCount →
      Succeeds sampleJose samplePython exactDoubles callables token action now → sampleDecoded token = .ok claims →
      maxTasks claims = some limit → jtiStr samplePython claims = some jti → usageCount jti = .ok used →
      ∃ n, toInt samplePython limit = .ok n ∧ used < n) := by
  refine ⟨fun claimed => ?_,fun claimed => ?_,fun claimed => ?_⟩
  · have before := claimed epoch _ _ _ _ sampleCreated_epoch (sampleValidated_succeeds sample_accepts.2.1)
    revert before
    decide
  · obtain ⟨claims,jti,decoded,present,-⟩ := claimed _ _ _ _ _ rfl (sampleValidated_succeeds sample_accepts.2.2.1)
    have read : sampleDecoded "h.anonymous.s" = .ok anonymousClaims := by simp [sampleDecoded]
    have absent : jtiStr samplePython anonymousClaims = none := rfl
    rw [read] at decoded
    rw [← Except.ok.inj decoded,absent] at present
    cases present
  · obtain ⟨n,read,-⟩ := claimed (sampleCallables false 7) "h.unreadable.s" "task.execute" 1700000000000000 unreadableClaims (.list [.int 0])
      _ "del_2" 7 rfl (sampleValidated_succeeds sample_accepts.2.2.2) (by simp [sampleDecoded]) rfl rfl rfl
    cases read
end Samples
end Asap.DelegationTokens
