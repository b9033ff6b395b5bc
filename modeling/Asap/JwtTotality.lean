import Asap.AgentJwt

-- Which tokens `verify_host_jwt` and `verify_agent_jwt` answer, and on which they raise.
namespace Asap.JwtTotality
open OrderedDict PythonValue AgentIdentity JtiReplay AgentJwt
open HostJwt (Claims FloatValue toFloat expValid iatNotInFuture publicKeyOf hostJwtTyp hostPublicKeyClaim)

inductive Kind where
  | joseError
  | valueError
  | typeError
  | recursionError
  deriving DecidableEq

structure Raise where
  kind : Kind
  text : String

-- The first `except` of both functions: JSONDecodeError and UnicodeDecodeError are ValueErrors.
def Raise.caught (raise : Raise) : Bool := decide (raise.kind = .valueError ∨ raise.kind = .joseError)

-- joserfc and `json.loads`. The headers and the loaded payload are any JSON values; the errors
-- of the last two calls are caught whichever of JoseError, ValueError and TypeError they are.
structure Libraries (Payload : Type) where
  extractCompact : String → Except Raise (Value × Payload)
  loads : Payload → Except Raise Value
  importKey : PublicKey → Except String Unit
  decode : String → PublicKey → Except String Claims

-- One element of an iterable that `dict` takes for a pair.
def pairOf : Value → Except Raise (Value × Value)
  | .list [key,value] => .ok (key,value)
  | .list _ => .error ⟨.valueError,"dictionary update sequence element has the wrong length"⟩
  | .str text =>
    match text.toList with
    | [key,value] => .ok (.str (String.singleton key),.str (String.singleton value))
    | _ => .error ⟨.valueError,"dictionary update sequence element has the wrong length"⟩
  | .dict [(.str key,_),(.str value,_)] => .ok (.str key,.str value)
  | .dict _ => .error ⟨.valueError,"dictionary update sequence element has the wrong length"⟩
  | _ => .error ⟨.typeError,"cannot convert dictionary update sequence element to a sequence"⟩

def addPair (header : Claims) (item : Value) : Except Raise Claims :=
  (pairOf item).bind (fun (key,value) =>
    match key with
    | .str name => .ok (header.set name value)
    | .list _ | .dict _ => .error ⟨.typeError,"unhashable type"⟩
    | _ => .ok header)

-- `dict` of a JSON value, as far as its string keys go.
def dictOf : Value → Except Raise Claims
  | .dict items => .ok (publicKeyOf items)
  | .list items => items.foldlM addPair .empty
  | .str text => if text = "" then .ok .empty else .error ⟨.valueError,"dictionary update sequence element has the wrong length"⟩
  | _ => .error ⟨.typeError,"object is not iterable"⟩

variable (digest : String → String) (floatOfStr : String → Option FloatValue) (importKey : PublicKey → Bool)
variable {Payload : Type} (libraries : Libraries Payload)

def unverifiedHeaderAndPayload (token : String) : Except Raise (Claims × Value) :=
  (libraries.extractCompact token).bind (fun (headers,raw) =>
    (dictOf headers).bind (fun header => (libraries.loads raw).map (fun payload => (header,payload))))

-- What the rest of a verification sees of the libraries.
def jose (parsed : Claims × Value) : HostJwt.Jose := ⟨fun _ => .ok parsed,libraries.importKey,libraries.decode⟩

def verifyHostJwt (cache : JtiReplayCache) (call : HostJwt.Call) : JtiReplayCache × HostJwt.Result :=
  match unverifiedHeaderAndPayload libraries call.token with
  | .error raise => (cache,if raise.caught then .refused ("invalid JWT structure: " ++ raise.text) else .raised)
  | .ok parsed => HostJwt.verifyHostJwt digest floatOfStr (jose libraries parsed) cache call

-- A verification of an agent token waits between its steps; each finds the stores as it finds them.
abbrev Visit := Store × Input

def resume (jose : HostJwt.Jose) (task : Task) (visit : Visit) : Task :=
  ((AgentJwt.advance digest floatOfStr jose importKey visit.1 task visit.2).map (fun outcome => outcome.2.1)).getD task

structure Visits where
  start : Visit
  read : Visit
  resolve : Visit
  slide : Visit
  touch : Visit

def Visits.all (visits : Visits) : List Visit := [visits.start,visits.read,visits.resolve,visits.slide,visits.touch]

def verifyAgentJwt (call : AgentJwt.Call) (visits : Visits) : Task :=
  match unverifiedHeaderAndPayload libraries call.token with
  | .error raise => .answered call (if raise.caught then .refused ("invalid JWT structure: " ++ raise.text) else .raised)
  | .ok parsed => visits.all.foldl (resume digest floatOfStr importKey (jose libraries parsed)) (.start call)

-- With an extraction that fails in the caught ways only this is the function of `HostJwt`.
theorem verifyHostJwt_caught (cache : JtiReplayCache) (call : HostJwt.Call)
    (caught : ∀ raise, unverifiedHeaderAndPayload libraries call.token = .error raise → raise.caught = true) :
    verifyHostJwt digest floatOfStr libraries cache call =
      HostJwt.verifyHostJwt digest floatOfStr
        ⟨fun token => (unverifiedHeaderAndPayload libraries token).mapError Raise.text,libraries.importKey,libraries.decode⟩ cache call := by
  unfold verifyHostJwt HostJwt.verifyHostJwt HostJwt.verifiedClaims
  cases parsed : unverifiedHeaderAndPayload libraries call.token with
  | error raise => simp [parsed,caught raise parsed,Except.mapError]
  | ok pair => simp [parsed,jose,Except.mapError]

-- An integer claim that no double comes near.
def Overflows (claims : Claims) (name : String) : Prop := ∃ n, claims.get name = some (.int n) ∧ 2 ^ 1024 - 2 ^ 970 ≤ n.natAbs

-- `iat` is read where `exp` has been found valid.
def Convertible (claims : Claims) (nowTs : Int) : Prop :=
  ¬Overflows claims "exp" ∧ (expValid floatOfStr claims nowTs = .ok true → ¬Overflows claims "iat")

def Extracted (token : String) : Prop := ∀ raise, unverifiedHeaderAndPayload libraries token = .error raise → raise.caught = true

-- The payload of a host token, after the header: it is an object, and where the token verifies
-- under its own key, its times convert and its key has a thumbprint.
def HostPayload (call : HostJwt.Call) (payload : Value) : Prop :=
  ∃ items, payload = .dict items ∧
    ∀ hostPubClaim claims, HostJwt.lookup hostPublicKeyClaim items = some (.dict hostPubClaim) →
      libraries.importKey (publicKeyOf hostPubClaim) = .ok () → libraries.decode call.token (publicKeyOf hostPubClaim) = .ok claims →
      Convertible floatOfStr claims call.nowTs ∧
        (HostJwt.validateStandardClaims floatOfStr claims call.nowTs call.expectedAudience = .ok none →
          ∀ hostPub, claims.get hostPublicKeyClaim = some (.dict hostPub) → jwkThumbprintSha256 digest (publicKeyOf hostPub) ≠ none)

def HostTotal (call : HostJwt.Call) : Prop :=
  Extracted libraries call.token ∧
    ∀ header payload, unverifiedHeaderAndPayload libraries call.token = .ok (header,payload) →
      (header.get "typ").bind HostJwt.text = some hostJwtTyp → HostPayload digest floatOfStr libraries call payload

theorem toFloat_overflow (value : Value) :
    toFloat floatOfStr value = .error .overflow ↔ ∃ n, value = .int n ∧ 2 ^ 1024 - 2 ^ 970 ≤ n.natAbs := by
  cases value with
  | int n =>
    have reads : toFloat floatOfStr (.int n) = if 2 ^ 1024 - 2 ^ 970 ≤ n.natAbs then .error .overflow else .ok (.finite n) := by rw [toFloat]
    rw [reads]
    constructor
    · intro overflow
      by_contra small
      rw [if_neg (fun large => small ⟨n,rfl,large⟩)] at overflow
      cases overflow
    · rintro ⟨m,same,large⟩
      cases same
      rw [if_pos large]
  | str text => cases parsed : floatOfStr text <;> simp [toFloat,parsed]
  | none | bool | float | nonFinite | list | dict | other => simp [toFloat]

theorem expValid_raises (claims : Claims) (nowTs : Int) : expValid floatOfStr claims nowTs = .error () ↔ Overflows claims "exp" := by
  unfold expValid Overflows
  cases claims.get "exp" with
  | none => simp
  | some value =>
    simp only [Option.getD_some,Option.some.injEq,← toFloat_overflow floatOfStr value]
    split
    · simp [toFloat]
    · cases toFloat floatOfStr value with
      | ok number => simp
      | error error => cases error <;> simp

theorem iatNotInFuture_raises (claims : Claims) (nowTs : Int) :
    iatNotInFuture floatOfStr claims nowTs = .error () ↔ Overflows claims "iat" := by
  unfold iatNotInFuture Overflows
  cases claims.get "iat" with
  | none => simp
  | some value =>
    simp only [Option.getD_some,Option.some.injEq,← toFloat_overflow floatOfStr value]
    split
    · simp [toFloat]
    · cases toFloat floatOfStr value with
      | ok number => simp
      | error error => cases error <;> simp

theorem validateStandardClaims_raises (claims : Claims) (nowTs : Int) (expectedAudience : Option HostJwt.Audience) :
    HostJwt.validateStandardClaims floatOfStr claims nowTs expectedAudience = .error () ↔ ¬Convertible floatOfStr claims nowTs := by
  have expRaises := expValid_raises floatOfStr claims nowTs
  have iatRaises := iatNotInFuture_raises floatOfStr claims nowTs
  unfold HostJwt.validateStandardClaims Convertible
  cases unexpired : expValid floatOfStr claims nowTs with
  | error stop => simp [expRaises.mp unexpired,Except.bind]
  | ok valid =>
    have finite : ¬Overflows claims "exp" := fun overflow => by
      rw [expRaises.mpr overflow] at unexpired
      cases unexpired
    cases valid with
    | false => simp [finite,Except.bind]
    | true =>
      cases issued : iatNotInFuture floatOfStr claims nowTs with
      | error stop => simp [finite,iatRaises.mp issued,Except.bind]
      | ok past =>
        have known : ¬Overflows claims "iat" := fun overflow => by
          rw [iatRaises.mpr overflow] at issued
          cases issued
        simp only [finite,known,Except.bind,Bool.not_true,Bool.false_eq_true,if_false,not_false_eq_true,implies_true,and_self,not_true,iff_false]
        repeat' split
        all_goals simp

theorem standard_jti {claims : Claims} {nowTs : Int} {expectedAudience : Option HostJwt.Audience}
    (standard : HostJwt.validateStandardClaims floatOfStr claims nowTs expectedAudience = .ok none) : HostJwt.jtiOf claims ≠ none := by
  unfold HostJwt.validateStandardClaims at standard
  intro missing
  cases unexpired : expValid floatOfStr claims nowTs with
  | error stop => simp [unexpired,Except.bind] at standard
  | ok valid =>
    cases issued : iatNotInFuture floatOfStr claims nowTs with
    | error stop => cases valid <;> simp [unexpired,issued,Except.bind] at standard
    | ok past => cases valid <;> cases past <;> simp [unexpired,issued,missing,Except.bind] at standard

-- After the signature: what raises is the conversion of a time or the thumbprint.
theorem verified_raises (call : HostJwt.Call) (claims : Claims) :
    (match HostJwt.validateStandardClaims floatOfStr claims call.nowTs call.expectedAudience with
      | .error _ => .error .raised
      | .ok (some error) => .error (.refused error)
      | .ok none =>
        match claims.get hostPublicKeyClaim with
        | some (.dict hostPub) =>
          match jwkThumbprintSha256 digest (publicKeyOf hostPub) with
          | none => .error .raised
          | some expectedIss =>
            if (claims.get "iss").bind HostJwt.text ≠ some expectedIss then
              .error (.refused "iss does not match host_public_key thumbprint")
            else match HostJwt.jtiOf claims with
              | none => .error .raised
              | some jti => .ok (claims,(expectedIss,jti))
        | _ => .error (.refused "missing host_public_key in verified claims") : Except HostJwt.Result (Claims × ReplayKey)) = .error .raised ↔
    ¬(Convertible floatOfStr claims call.nowTs ∧
      (HostJwt.validateStandardClaims floatOfStr claims call.nowTs call.expectedAudience = .ok none →
        ∀ hostPub, claims.get hostPublicKeyClaim = some (.dict hostPub) → jwkThumbprintSha256 digest (publicKeyOf hostPub) ≠ none)) := by
  have raises := validateStandardClaims_raises floatOfStr claims call.nowTs call.expectedAudience
  cases standard : HostJwt.validateStandardClaims floatOfStr claims call.nowTs call.expectedAudience with
  | error stop => simp [raises.mp standard]
  | ok outcome =>
    have convertible : Convertible floatOfStr claims call.nowTs := by
      by_contra not
      rw [raises.mpr not] at standard
      cases standard
    cases outcome with
    | some error => simp [convertible]
    | none =>
      simp only [convertible,true_and,forall_const]
      split
      · rename_i hostPub given
        have only : ∀ other, claims.get hostPublicKeyClaim = some (.dict other) → other = hostPub := by
          intro other found
          rw [given] at found
          cases found
          rfl
        cases thumbprint : jwkThumbprintSha256 digest (publicKeyOf hostPub) with
        | none =>
          simp only [true_iff]
          intro total
          exact total hostPub given thumbprint
        | some expectedIss =>
          have total : ∀ other, claims.get hostPublicKeyClaim = some (.dict other) → jwkThumbprintSha256 digest (publicKeyOf other) ≠ none := by
            intro other found
            rw [only other found,thumbprint]
            simp
          obtain ⟨jti,present⟩ := Option.ne_none_iff_exists'.mp (standard_jti floatOfStr standard)
          simp only [present]
          split <;> simpa using total
      · rename_i absent
        refine iff_of_false (by simp) (fun not => not ?_)
        intro hostPub given
        exact absurd given (absent hostPub)

theorem hostPayload_raises (call : HostJwt.Call) (header : Claims) (payload : Value)
    (typed : (header.get "typ").bind HostJwt.text = some hostJwtTyp) :
    HostJwt.verifiedClaims digest floatOfStr (jose libraries (header,payload)) call = .error .raised ↔
      ¬HostPayload digest floatOfStr libraries call payload := by
  unfold HostJwt.verifiedClaims HostPayload
  simp only [jose,typed,ne_eq,not_true,if_false]
  cases payload with
  | dict items =>
    simp only [Value.dict.injEq,exists_eq_left']
    split
    · rename_i hostPubClaim given
      have only : ∀ other, HostJwt.lookup hostPublicKeyClaim items = some (.dict other) → other = hostPubClaim := by
        intro other found
        rw [given] at found
        cases found
        rfl
      cases imported : libraries.importKey (publicKeyOf hostPubClaim) with
      | error text =>
        refine iff_of_false (by simp [Except.bind]) (fun not => not ?_)
        intro other claims found accepted _
        rw [only other found,imported] at accepted
        cases accepted
      | ok _ =>
        cases decoded : libraries.decode call.token (publicKeyOf hostPubClaim) with
        | error text =>
          refine iff_of_false (by simp [Except.bind]) (fun not => not ?_)
          intro other claims found _ read
          rw [only other found,decoded] at read
          cases read
        | ok claims =>
          refine (verified_raises digest floatOfStr call claims).trans (not_congr ?_)
          constructor
          · intro total other read found _ same
            rw [only other found,decoded] at same
            cases same
            exact total
          · intro total
            exact total hostPubClaim claims given imported decoded
    · rename_i absent
      refine iff_of_false (by simp) (fun not => not ?_)
      intro hostPubClaim claims given
      exact absurd given (absent hostPubClaim)
  | none | bool | int | float | nonFinite | str | list | other => simp

theorem verifyHostJwt_returns (cache : JtiReplayCache) (call : HostJwt.Call) :
    (verifyHostJwt digest floatOfStr libraries cache call).2 ≠ .raised ↔ HostTotal digest floatOfStr libraries call := by
  unfold verifyHostJwt HostTotal Extracted
  cases parsed : unverifiedHeaderAndPayload libraries call.token with
  | error raise => cases caught : raise.caught <;> simp [caught]
  | ok pair =>
    obtain ⟨header,payload⟩ := pair
    have answered : (HostJwt.verifyHostJwt digest floatOfStr (jose libraries (header,payload)) cache call).2 = .raised ↔
        HostJwt.verifiedClaims digest floatOfStr (jose libraries (header,payload)) call = .error .raised := by
      unfold HostJwt.verifyHostJwt
      cases verified : HostJwt.verifiedClaims digest floatOfStr (jose libraries (header,payload)) call with
      | error result => simp
      | ok found =>
        obtain ⟨claims,iss,jti⟩ := found
        refine iff_of_false ?_ (by simp)
        simp only [HostJwt.resolveHost]
        split
        · split <;> simp
        · simp
    simp only [reduceCtorEq,false_implies,implies_true,true_and,Except.ok.injEq,Prod.mk.injEq,ne_eq,answered]
    by_cases typed : (header.get "typ").bind HostJwt.text = some hostJwtTyp
    · rw [hostPayload_raises digest floatOfStr libraries call header payload typed,not_not]
      constructor
      · rintro total _ _ ⟨rfl,rfl⟩ _
        exact total
      · intro total
        exact total header payload ⟨rfl,rfl⟩ typed
    · have refused : HostJwt.verifiedClaims digest floatOfStr (jose libraries (header,payload)) call =
          .error (.refused "invalid typ for host JWT") := by
        unfold HostJwt.verifiedClaims
        simp [jose,typed]
      rw [refused]
      simp only [Except.error.injEq,reduceCtorEq,not_false_eq_true,true_iff]
      rintro _ _ ⟨rfl,rfl⟩ given
      exact absurd given typed

-- The keys that the re-read row and the verified one are compared by.
def Comparable (s : AgentStore) (agent : AgentSession) : Prop :=
  ∀ current, s.get agent.agentId = some current → AgentLifecycle.unusableAgentError current = none → current.hostId = agent.hostId →
    jwkThumbprintSha256 digest current.publicKey ≠ none ∧ jwkThumbprintSha256 digest agent.publicKey ≠ none

-- The row that `sub` names, where the token verifies under its key: the times convert, and if the
-- verification comes to the second read, the keys compare.
def RowTotal (parsed : Claims × Value) (call : AgentJwt.Call) (visits : Visits) (sub : String) : Prop :=
  ∀ agent claims, visits.read.1.agents.get sub = some agent → AgentLifecycle.unusableAgentError agent = none →
    libraries.importKey agent.publicKey = .ok () → libraries.decode call.token agent.publicKey = .ok claims →
    Convertible floatOfStr claims visits.read.2.now ∧
      ∀ iss host, verifyClaims floatOfStr (jose libraries parsed) call agent visits.read.2.now = .ok (claims,iss) →
        (verifyHost visits.resolve.1 call agent claims visits.resolve.2).2.1 = .sliding call agent claims host →
        Comparable digest visits.slide.1.agents agent

def AgentPayload (parsed : Claims × Value) (call : AgentJwt.Call) (visits : Visits) : Prop :=
  ∃ items, parsed.2 = .dict items ∧ ∀ sub, HostJwt.lookup "sub" items = some (.str sub) → strip sub ≠ "" →
    RowTotal digest floatOfStr libraries parsed call visits sub

def AgentTotal (call : AgentJwt.Call) (visits : Visits) : Prop :=
  Extracted libraries call.token ∧
    ∀ header payload, unverifiedHeaderAndPayload libraries call.token = .ok (header,payload) →
      (header.get "typ").bind HostJwt.text = some agentJwtTyp → AgentPayload digest floatOfStr libraries (header,payload) call visits

section AgentSteps
variable (jose : HostJwt.Jose)

theorem touching_returns (call : AgentJwt.Call) (agent : AgentSession) (claims : Claims) (host : HostIdentity) (touch : Visit) :
    ∃ result, resume digest floatOfStr importKey jose (.touching call agent claims host) touch = .answered call result ∧ result ≠ .raised := by
  change ∃ result, (verifyTouch digest touch.1 call agent claims host touch.2).2.1 = .answered call result ∧ result ≠ .raised
  unfold verifyTouch
  split
  · exact ⟨_,rfl,by simp⟩
  · exact ⟨_,rfl,by simp⟩

theorem sliding_returns (call : AgentJwt.Call) (agent : AgentSession) (claims : Claims) (host : HostIdentity) (slide touch : Visit) :
    ∃ result, [slide,touch].foldl (resume digest floatOfStr importKey jose) (.sliding call agent claims host) = .answered call result ∧
      (result ≠ .raised ↔ Comparable digest slide.1.agents agent) := by
  have stays : ∀ result, [touch].foldl (resume digest floatOfStr importKey jose) (.answered call result) = .answered call result := fun _ => rfl
  rw [List.foldl_cons]
  have slid : resume digest floatOfStr importKey jose (.sliding call agent claims host) slide =
      (verifySlide digest slide.1 call agent claims host slide.2.now).2.1 := rfl
  rw [slid]
  unfold verifySlide AgentLifecycle.slideStart Comparable
  cases found : slide.1.agents.get agent.agentId with
  | none => exact ⟨_,stays _,by simp⟩
  | some current =>
    cases unusable : AgentLifecycle.unusableAgentError current with
    | some message =>
      refine ⟨.refused message,by simp [unusable,AgentLifecycle.fail,answer,resume,AgentJwt.advance],?_⟩
      simp [unusable]
    | none =>
      by_cases own : current.hostId = agent.hostId
      · cases currentTp : jwkThumbprintSha256 digest current.publicKey with
        | none =>
          refine ⟨.raised,by simp [unusable,own,currentTp,AgentLifecycle.fail,answer,stays],?_⟩
          simp [unusable,own,currentTp]
        | some known =>
          cases verifiedTp : jwkThumbprintSha256 digest agent.publicKey with
          | none =>
            refine ⟨.raised,by simp [unusable,own,currentTp,AgentLifecycle.fail,answer,stays],?_⟩
            simp [unusable,own]
          | some expected =>
            have comparable : ∀ other, some current = some other → AgentLifecycle.unusableAgentError other = none → other.hostId = agent.hostId →
                jwkThumbprintSha256 digest other.publicKey ≠ none ∧ (some expected : Option String) ≠ none := by
              intro other same _ _
              cases same
              rw [currentTp]
              simp
            by_cases same : known = expected
            · cases expiry : checkAgentExpiry slide.2.now current with
              | active =>
                obtain ⟨result,answered,returned⟩ := touching_returns digest floatOfStr importKey jose call agent claims host touch
                refine ⟨result,?_,iff_of_true returned comparable⟩
                simpa [unusable,own,currentTp,verifiedTp,same,expiry,AgentLifecycle.fail,answer] using answered
              | expired =>
                refine ⟨.refused "agent_expired",?_,iff_of_true (by simp) comparable⟩
                simp [unusable,own,currentTp,same,expiry,AgentLifecycle.fail,answer,resume,AgentJwt.advance]
              | revoked =>
                refine ⟨.refused "agent_revoked",?_,iff_of_true (by simp) comparable⟩
                simp [unusable,own,currentTp,same,expiry,AgentLifecycle.fail,answer,resume,AgentJwt.advance]
            · refine ⟨.refused "agent key changed during verification",?_,iff_of_true (by simp) comparable⟩
              simp [unusable,own,currentTp,same,AgentLifecycle.fail,answer,resume,AgentJwt.advance]
      · refine ⟨.refused "agent host_id changed during verification",?_,?_⟩
        · simp [unusable,own,AgentLifecycle.fail,answer,resume,AgentJwt.advance]
        · refine iff_of_true (by simp) ?_
          intro other same _ hosted
          cases same
          exact absurd hosted own

theorem jtiCheck_returns (cache : JtiReplayCache) (call : AgentJwt.Call) (agent : AgentSession) {claims : Claims} (cacheNow : Int)
    (present : HostJwt.jtiOf claims ≠ none) : (jtiCheck cache call agent claims cacheNow).2 ≠ some .raised := by
  unfold jtiCheck
  split
  · split
    · rename_i missing
      exact absurd missing present
    · split <;> simp
  · simp

theorem resolving_returns (call : AgentJwt.Call) (agent : AgentSession) {claims : Claims} (iss : String) (resolve slide touch : Visit)
    (present : HostJwt.jtiOf claims ≠ none) :
    ∃ result, [resolve,slide,touch].foldl (resume digest floatOfStr importKey jose) (.resolving call agent claims iss) = .answered call result ∧
      (result ≠ .raised ↔ ∀ host, (verifyHost resolve.1 call agent claims resolve.2).2.1 = .sliding call agent claims host →
        Comparable digest slide.1.agents agent) := by
  have stays : ∀ result, [slide,touch].foldl (resume digest floatOfStr importKey jose) (.answered call result) = .answered call result := fun _ => rfl
  have stepped : [resolve,slide,touch].foldl (resume digest floatOfStr importKey jose) (.resolving call agent claims iss) =
      [slide,touch].foldl (resume digest floatOfStr importKey jose) (verifyHost resolve.1 call agent claims resolve.2).2.1 := rfl
  rw [stepped]
  have returned := jtiCheck_returns resolve.1.cache call agent resolve.2.cacheNow present
  simp only [verifyHost]
  split
  · exact ⟨_,stays _,by simp [answer]⟩
  · rename_i host found
    split
    · exact ⟨_,stays _,by simp [answer]⟩
    · split
      · exact ⟨_,stays _,by simp [answer]⟩
      · cases checked : (jtiCheck resolve.1.cache call agent claims resolve.2.cacheNow).2 with
        | some result =>
          refine ⟨result,stays result,iff_of_true (fun raised => returned (raised ▸ checked)) ?_⟩
          simp [answer]
        | none =>
          cases expired : expiredAgentError resolve.2.now agent with
          | some error => exact ⟨_,stays _,by simp [answer]⟩
          | none =>
            obtain ⟨result,answered,exact⟩ := sliding_returns digest floatOfStr importKey jose call agent claims host slide touch
            exact ⟨result,answered,exact.trans (by simp)⟩

theorem verifyClaims_raises (call : AgentJwt.Call) (agent : AgentSession) (nowTs : Int) :
    verifyClaims floatOfStr jose call agent nowTs = .error .raised ↔
      AgentLifecycle.unusableAgentError agent = none ∧ jose.importKey agent.publicKey = .ok () ∧
        ∃ claims, jose.decode call.token agent.publicKey = .ok claims ∧ ¬Convertible floatOfStr claims nowTs := by
  unfold verifyClaims
  cases AgentLifecycle.unusableAgentError agent with
  | some error => simp
  | none =>
    cases jose.importKey agent.publicKey with
    | error text => simp [Except.bind]
    | ok _ =>
      cases jose.decode call.token agent.publicKey with
      | error text => simp [Except.bind]
      | ok claims =>
        simp only [Except.bind,true_and,Except.ok.injEq,exists_eq_left',← validateStandardClaims_raises floatOfStr claims nowTs call.expectedAudience]
        cases HostJwt.validateStandardClaims floatOfStr claims nowTs call.expectedAudience with
        | error stop => simp
        | ok outcome =>
          cases outcome with
          | some error => simp
          | none =>
            refine iff_of_false ?_ (by simp)
            simp only
            split
            · simp
            · split
              · split <;> simp
              · simp

theorem verifyClaims_passed (call : AgentJwt.Call) (agent : AgentSession) (nowTs : Int) {claims : Claims} {iss : String}
    (verified : verifyClaims floatOfStr jose call agent nowTs = .ok (claims,iss)) :
    AgentLifecycle.unusableAgentError agent = none ∧ jose.importKey agent.publicKey = .ok () ∧
      jose.decode call.token agent.publicKey = .ok claims ∧ HostJwt.jtiOf claims ≠ none := by
  have decoded := verifyClaims_decoded floatOfStr jose call agent nowTs claims iss verified
  unfold verifyClaims at verified
  cases usable : AgentLifecycle.unusableAgentError agent with
  | some error => simp [usable] at verified
  | none =>
    cases imported : jose.importKey agent.publicKey with
    | error text => simp [usable,imported,Except.bind] at verified
    | ok _ =>
      simp only [usable,imported,decoded,Except.bind] at verified
      cases standard : HostJwt.validateStandardClaims floatOfStr claims nowTs call.expectedAudience with
      | error stop => simp [standard] at verified
      | ok outcome =>
        cases outcome with
        | some error => simp [standard] at verified
        | none => exact ⟨rfl,rfl,decoded,standard_jti floatOfStr standard⟩
end AgentSteps

theorem reading_returns (parsed : Claims × Value) (call : AgentJwt.Call) (visits : Visits) (sub : String) :
    ∃ result, [visits.read,visits.resolve,visits.slide,visits.touch].foldl (resume digest floatOfStr importKey (jose libraries parsed))
        (.reading call sub) = .answered call result ∧
      (result ≠ .raised ↔ RowTotal digest floatOfStr libraries parsed call visits sub) := by
  have stays : ∀ result, [visits.resolve,visits.slide,visits.touch].foldl (resume digest floatOfStr importKey (jose libraries parsed))
      (.answered call result) = .answered call result := fun _ => rfl
  rw [List.foldl_cons]
  have read : resume digest floatOfStr importKey (jose libraries parsed) (.reading call sub) visits.read =
      (verifyRead floatOfStr (jose libraries parsed) visits.read.1 call sub visits.read.2.now).2.1 := rfl
  rw [read]
  unfold verifyRead RowTotal
  cases found : visits.read.1.agents.get sub with
  | none => exact ⟨_,stays _,by simp⟩
  | some agent =>
    cases verified : verifyClaims floatOfStr (jose libraries parsed) call agent visits.read.2.now with
    | error result =>
      refine ⟨result,by simp only [verified]; exact stays result,?_⟩
      constructor
      · intro returned other claims same usable imported decoded
        cases same
        constructor
        · by_contra failed
          have raises := (verifyClaims_raises floatOfStr (jose libraries parsed) call agent visits.read.2.now).mpr
            ⟨usable,imported,claims,decoded,failed⟩
          rw [verified] at raises
          exact returned (Except.error.inj raises)
        · intro iss host passed
          rw [verified] at passed
          cases passed
      · intro total raised
        subst raised
        obtain ⟨usable,imported,claims,decoded,failed⟩ :=
          (verifyClaims_raises floatOfStr (jose libraries parsed) call agent visits.read.2.now).mp verified
        exact failed (total agent claims rfl usable imported decoded).1
    | ok established =>
      obtain ⟨claims,iss⟩ := established
      obtain ⟨usable,imported,decoded,present⟩ := verifyClaims_passed floatOfStr (jose libraries parsed) call agent visits.read.2.now verified
      obtain ⟨result,answered,exact⟩ := resolving_returns digest floatOfStr importKey (jose libraries parsed) call agent iss
        visits.resolve visits.slide visits.touch present
      refine ⟨result,by simp only [verified]; exact answered,exact.trans ?_⟩
      constructor
      · intro comparable other others same _ _ read
        cases same
        cases Except.ok.inj (read.symm.trans decoded)
        constructor
        · by_contra failed
          have raises := (verifyClaims_raises floatOfStr (jose libraries parsed) call agent visits.read.2.now).mpr
            ⟨usable,imported,claims,decoded,failed⟩
          rw [verified] at raises
          cases raises
        · intro _ host _ reached
          exact comparable host reached
      · intro total host reached
        exact (total agent claims rfl usable imported decoded).2 iss host verified reached

theorem verifyAgentJwt_returns (call : AgentJwt.Call) (visits : Visits) :
    ∃ result, verifyAgentJwt digest floatOfStr importKey libraries call visits = .answered call result ∧
      (result ≠ .raised ↔ AgentTotal digest floatOfStr libraries call visits) := by
  unfold verifyAgentJwt AgentTotal Extracted
  cases unverified : unverifiedHeaderAndPayload libraries call.token with
  | error raise =>
    refine ⟨_,rfl,?_⟩
    cases caught : raise.caught <;> simp [caught]
  | ok parsed =>
    obtain ⟨header,payload⟩ := parsed
    have stays : ∀ result, [visits.read,visits.resolve,visits.slide,visits.touch].foldl
        (resume digest floatOfStr importKey (jose libraries (header,payload))) (.answered call result) = .answered call result := fun _ => rfl
    have started : visits.all.foldl (resume digest floatOfStr importKey (jose libraries (header,payload))) (.start call) =
        [visits.read,visits.resolve,visits.slide,visits.touch].foldl (resume digest floatOfStr importKey (jose libraries (header,payload)))
          (verifyStart (jose libraries (header,payload)) visits.start.1 call).2.1 := rfl
    simp only [reduceCtorEq,false_implies,implies_true,true_and,Except.ok.injEq,Prod.mk.injEq,and_imp,started]
    by_cases typed : (header.get "typ").bind HostJwt.text = some agentJwtTyp
    · have total : (∀ h p, header = h → payload = p → (h.get "typ").bind HostJwt.text = some agentJwtTyp →
          AgentPayload digest floatOfStr libraries (h,p) call visits) ↔ AgentPayload digest floatOfStr libraries (header,payload) call visits := by
        constructor
        · intro each
          exact each header payload rfl rfl typed
        · rintro payload _ _ rfl rfl _
          exact payload
      rw [total]
      unfold verifyStart AgentPayload
      simp only [jose,typed,ne_eq,not_true,if_false]
      cases payload with
      | dict items =>
        simp only [Value.dict.injEq,exists_eq_left']
        cases named : HostJwt.lookup "sub" items with
        | none => exact ⟨_,stays _,by simp⟩
        | some value =>
          cases value with
          | str sub =>
            by_cases blank : strip sub = ""
            · refine ⟨.refused "missing sub (agent id)",by simp only [blank,if_true]; exact stays _,?_⟩
              simp [blank]
            · obtain ⟨result,answered,exact⟩ := reading_returns digest floatOfStr importKey libraries (header,.dict items) call visits sub
              refine ⟨result,by simp only [blank,if_false]; exact answered,exact.trans ?_⟩
              simp [blank]
          | none | bool | int | float | nonFinite | list | dict | other => exact ⟨_,stays _,by simp⟩
      | none | bool | int | float | nonFinite | str | list | other => exact ⟨_,stays _,by simp⟩
    · refine ⟨.refused "invalid typ for agent JWT",?_,?_⟩
      · have refused : verifyStart (jose libraries (header,payload)) visits.start.1 call =
            answer visits.start.1 call (.refused "invalid typ for agent JWT") := by
          unfold verifyStart
          simp [jose,typed]
        rw [refused]
        exact stays _
      · refine iff_of_true (by simp) ?_
        rintro _ _ rfl rfl given
        exact absurd given typed

-- Both functions answer exactly where their condition holds.
theorem verification_returns_iff :
    (∀ cache call, (verifyHostJwt digest floatOfStr libraries cache call).2 ≠ .raised ↔ HostTotal digest floatOfStr libraries call) ∧
    (∀ call visits, ∃ result, verifyAgentJwt digest floatOfStr importKey libraries call visits = .answered call result ∧
      (result ≠ .raised ↔ AgentTotal digest floatOfStr libraries call visits)) :=
  ⟨verifyHostJwt_returns digest floatOfStr libraries,verifyAgentJwt_returns digest floatOfStr importKey libraries⟩

-- A token whose payload is the JSON text `[]`.
def arrayPayload (typ : String) : Libraries String where
  extractCompact _ := .ok (.dict [(.str "alg",.str "EdDSA"),(.str "typ",.str typ)],"[]")
  loads _ := .ok (.list [])
  importKey _ := .ok ()
  decode _ _ := .error "Invalid payload"

def idleVisit : Visit := (⟨.init,init⟩,⟨0,0,0,none⟩)

theorem array_payload_raises :
    ¬(∀ libraries : Libraries String,
      (∀ cache call, (verifyHostJwt id (fun _ => none) libraries cache call).2 ≠ .raised) ∧
      (∀ call visits result, verifyAgentJwt id (fun _ => none) (fun _ => true) libraries call visits = .answered call result → result ≠ .raised)) ∧
    (verifyHostJwt id (fun _ => none) (arrayPayload "host+jwt") init ⟨"h.p.s",none,true,0,0,fun _ => none⟩).2 = .raised ∧
    verifyAgentJwt id (fun _ => none) (fun _ => true) (arrayPayload "agent+jwt") ⟨"h.p.s",none,false⟩
      ⟨idleVisit,idleVisit,idleVisit,idleVisit,idleVisit⟩ = .answered ⟨"h.p.s",none,false⟩ .raised := by
  have raised : (verifyHostJwt id (fun _ => none) (arrayPayload "host+jwt") init ⟨"h.p.s",none,true,0,0,fun _ => none⟩).2 = .raised := rfl
  refine ⟨?_,raised,rfl⟩
  intro claimed
  exact (claimed (arrayPayload "host+jwt")).1 _ _ raised

end Asap.JwtTotality
