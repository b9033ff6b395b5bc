import Asap.AgentIdentity
import Asap.JtiReplay

namespace Asap.HostJwt
open OrderedDict PythonValue AgentIdentity JtiReplay SlidingWindow Interleaving

abbrev Claims := Dict String Value

-- joserfc, as far as verification uses it. An error is the text of a JoseError,
-- ValueError or TypeError; a payload is any JSON value.
structure Jose where
  extractCompact : String → Except String (Dict String Value × Value)
  importKey : PublicKey → Except String Unit
  decode : String → PublicKey → Except String Claims

def hostJwtTyp : String := "host+jwt"
def hostPublicKeyClaim : String := "host_public_key"
def hostRevokedError : String := "host revoked"
def iatMaxFutureSkew : Int := 60000000

inductive FloatValue where
  | finite (value : Rat)
  | infinity (positive : Bool)
  | nan
  deriving DecidableEq

inductive FloatError where
  | typeOrValue
  | overflow
  deriving DecidableEq

section Claims
-- `float` of a text.
variable (floatOfStr : String → Option FloatValue)

-- Integers that round beyond the largest double raise OverflowError.
def toFloat : Value → Except FloatError FloatValue
  | .bool value => .ok (.finite (if value then 1 else 0))
  | .int value => if 2 ^ 1024 - 2 ^ 970 ≤ value.natAbs then .error .overflow else .ok (.finite value)
  | .float value _ => .ok (.finite value)
  | .nonFinite repr => .ok (if repr = "Infinity" then .infinity true else if repr = "-Infinity" then .infinity false else .nan)
  | .str text => match floatOfStr text with
    | none => .error .typeOrValue
    | some value => .ok value
  | _ => .error .typeOrValue

-- A claim is in seconds, the clock in microseconds.
def FloatValue.after (now : Int) : FloatValue → Bool
  | .finite value => decide ((now : Rat) < value * 1000000)
  | .infinity positive => positive
  | .nan => false

def FloatValue.notAfter (now : Int) : FloatValue → Bool
  | .finite value => decide (value * 1000000 ≤ (now : Rat))
  | .infinity positive => !positive
  | .nan => false

-- The error is an OverflowError that nobody catches.
def iatNotInFuture (claims : Claims) (nowTs : Int) : Except Unit Bool :=
  match (claims.get "iat").getD .none with
  | .none => .ok true
  | iat => match toFloat floatOfStr iat with
    | .ok value => .ok (value.notAfter (nowTs + iatMaxFutureSkew))
    | .error .typeOrValue => .ok false
    | .error .overflow => .error ()

def expValid (claims : Claims) (nowTs : Int) : Except Unit Bool :=
  match (claims.get "exp").getD .none with
  | .none => .ok false
  | exp => match toFloat floatOfStr exp with
    | .ok value => .ok (value.after nowTs)
    | .error .typeOrValue => .ok false
    | .error .overflow => .error ()

def jtiOf (claims : Claims) : Option String :=
  match claims.get "jti" with
  | some (.str jti) => if strip jti = "" then none else some jti
  | _ => none

inductive Audience where
  | one (value : String)
  | many (values : List String)

def Audience.expected : Audience → List String
  | .one value => [value]
  | .many values => values

def text : Value → Option String
  | .str value => some value
  | _ => none

def audienceMatchesExpected (claims : Claims) (expectedAudience : Audience) : Bool :=
  match claims.get "aud" with
  | some (.str aud) => expectedAudience.expected.contains aud
  | some (.list auds) => (auds.filterMap text).any expectedAudience.expected.contains
  | _ => false

def validateStandardClaims (claims : Claims) (nowTs : Int) (expectedAudience : Option Audience) : Except Unit (Option String) :=
  (expValid floatOfStr claims nowTs).bind (fun unexpired =>
    if !unexpired then .ok (some "token expired or missing exp")
    else (iatNotInFuture floatOfStr claims nowTs).bind (fun issued =>
      if !issued then .ok (some "invalid iat (too far in the future)")
      else if jtiOf claims = none then .ok (some "missing jti")
      else match expectedAudience with
        | some expected => .ok (if audienceMatchesExpected claims expected then none else some "audience mismatch")
        | none => .ok none))
end Claims

-- One call with the two readings of the clock it makes and the answer of the host
-- store, which is asked last.
structure Call where
  token : String
  expectedAudience : Option Audience
  recordJti : Bool
  nowTs : Int
  cacheNow : Int
  getByPublicKey : String → Option HostIdentity

inductive Result where
  | accepted (claims : Claims) (host : Option HostIdentity)
  | refused (error : String)
  | raised

def lookup (name : String) (items : List (Key × Value)) : Option Value :=
  (items.find? (fun item => decide (item.1 = .str name))).map Prod.snd

def publicKeyOf (items : List (Key × Value)) : PublicKey :=
  items.foldl (fun key (name,value) => match name with
    | .str name => key.set name value
    | _ => key) .empty

variable (digest : String → String) (floatOfStr : String → Option FloatValue) (jose : Jose)

-- Everything before the replay cache: the verified claims with their iss and jti, or
-- how the call ends.
def verifiedClaims (call : Call) : Except Result (Claims × ReplayKey) :=
  match jose.extractCompact call.token with
  | .error text => .error (.refused ("invalid JWT structure: " ++ text))
  | .ok (header,payload) =>
    if (header.get "typ").bind text ≠ some hostJwtTyp then .error (.refused "invalid typ for host JWT")
    else match payload with
      | .dict items =>
        match lookup hostPublicKeyClaim items with
        | some (.dict hostPubClaim) =>
          match (jose.importKey (publicKeyOf hostPubClaim)).bind (fun _ => jose.decode call.token (publicKeyOf hostPubClaim)) with
          | .error text => .error (.refused ("invalid host JWT: " ++ text))
          | .ok claims =>
            match validateStandardClaims floatOfStr claims call.nowTs call.expectedAudience with
            | .error _ => .error .raised
            | .ok (some error) => .error (.refused error)
            | .ok none =>
              match claims.get hostPublicKeyClaim with
              | some (.dict hostPub) =>
                match jwkThumbprintSha256 digest (publicKeyOf hostPub) with
                | none => .error .raised
                | some expectedIss =>
                  if (claims.get "iss").bind text ≠ some expectedIss then
                    .error (.refused "iss does not match host_public_key thumbprint")
                  else match jtiOf claims with
                    | none => .error .raised
                    | some jti => .ok (claims,(expectedIss,jti))
              | _ => .error (.refused "missing host_public_key in verified claims")
        | _ => .error (.refused "missing or invalid host_public_key claim")
      -- only an object has `get`
      | _ => .error .raised

-- A call that does not record only asks.
def jtiCheck (c : JtiReplayCache) (call : Call) (iss jti : String) : JtiReplayCache × Bool :=
  if call.recordJti then checkAndRecord c iss jti call.cacheNow
  else
    let (pruned,seen) := contains c iss jti call.cacheNow
    (pruned,!seen)

def resolveHost (call : Call) (claims : Claims) (iss : String) : Result :=
  let host := call.getByPublicKey iss
  if host.map HostIdentity.status = some .revoked then .refused hostRevokedError else .accepted claims host

def verifyHostJwt (c : JtiReplayCache) (call : Call) : JtiReplayCache × Result :=
  match verifiedClaims digest floatOfStr jose call with
  | .error result => (c,result)
  | .ok (claims,(iss,jti)) =>
    let (next,jtiOk) := jtiCheck c call iss jti
    (next,if jtiOk then resolveHost call claims iss else .refused "jti replay detected")

def Result.isAccepted : Result → Bool
  | .accepted _ _ => true
  | _ => false

-- A call that reached the cache: whether the cache let it pass, and its outcome.
structure Event where
  key : ReplayKey
  readAt : Int
  recordJti : Bool
  fresh : Bool
  accepted : Bool
  deriving DecidableEq

def Event.recorded (e : Event) : Bool := e.recordJti && e.fresh

def event (c : JtiReplayCache) (call : Call) : List Event :=
  match verifiedClaims digest floatOfStr jose call with
  | .error _ => []
  | .ok (_,(iss,jti)) => [{
      key := (iss,jti)
      readAt := call.cacheNow
      recordJti := call.recordJti
      fresh := (jtiCheck c call iss jti).2
      accepted := (verifyHostJwt digest floatOfStr jose c call).2.isAccepted }]

structure Service where
  clock : Int
  cache : JtiReplayCache
  log : List Event

def Service.start (clock : Int) : Service := ⟨clock,init,[]⟩

-- The clock does not go back. From the first reading on a call is not suspended before
-- the cache has answered, so whole calls follow one another.
def serve (s : Service) (call : Call) : Option Service :=
  if s.clock ≤ call.nowTs ∧ call.nowTs ≤ call.cacheNow then
    some ⟨call.cacheNow,(verifyHostJwt digest floatOfStr jose s.cache call).1,s.log ++ event digest floatOfStr jose s.cache call⟩
  else none

-- Two libraries that make the same of a token. A verification asks them about no other one.
structure Agree (jose other : Jose) (token : String) : Prop where
  compact : jose.extractCompact token = other.extractCompact token
  imported : ∀ key, jose.importKey key = other.importKey key
  decoded : ∀ key, jose.decode token key = other.decode token key

section Agree
variable {other : Jose}

theorem verifiedClaims_agree {call : Call} (agree : Agree jose other call.token) :
    verifiedClaims digest floatOfStr jose call = verifiedClaims digest floatOfStr other call := by
  unfold verifiedClaims
  simp only [agree.compact,agree.imported,agree.decoded]

theorem verifyHostJwt_agree (c : JtiReplayCache) {call : Call} (agree : Agree jose other call.token) :
    verifyHostJwt digest floatOfStr jose c call = verifyHostJwt digest floatOfStr other c call := by
  unfold verifyHostJwt
  rw [verifiedClaims_agree digest floatOfStr jose agree]

end Agree

def recordings (log : List Event) : List Recording := (log.filter Event.recorded).map (fun e => (e.key,e.readAt + defaultTtl))

-- Between a recording and a later pass of the same key lie the ttl or a cache full of
-- other recordings.
def Spaced (log : List Event) : Prop :=
  ∀ before (first : Event) between (second : Event) after, log = before ++ first :: (between ++ second :: after) → first.recorded = true →
    second.fresh = true → second.key = first.key →
      first.readAt + defaultTtl ≤ second.readAt ∨ defaultMaxSize ≤ (between.filter Event.recorded).length

structure Good (s : Service) : Prop where
  ttl : s.cache.ttl = defaultTtl
  maxSize : s.cache.maxSize = defaultMaxSize
  tracks : ∃ pruned ≤ s.clock, Tracks s.cache pruned (recordings s.log)
  spaced : Spaced s.log
  passed : ∀ e ∈ s.log, e.accepted = true → e.fresh = true

-- A token that the first key has signed, made at 1700000000 for the default 300 seconds.
def hostToken : String :=
  "eyJhbGciOiJFZERTQSIsInR5cCI6Imhvc3Qrand0In0." ++
    "eyJpc3MiOiJrUHJLX3FteFZXYVlWQTl3d0JGNkl1bzN2Vnp6N1R4SENUd1hCeWdyUzRrIiwiYXVkIjoidXJuOmFzYXA6YWdlbnQ6c2VydmVyIi" ++
    "wiaWF0IjoxNzAwMDAwMDAwLCJleHAiOjE3MDAwMDAzMDAsImp0aSI6Imp3dF8wMUhGN1lBVDAwMDAwMDAwMDAwMDAwMDAwQSIsImhvc3RfcHVi" ++
    "bGljX2tleSI6eyJrdHkiOiJPS1AiLCJjcnYiOiJFZDI1NTE5IiwieCI6IjExcVlBWUt4Q3JmVlNfN1R5V1FIT2c3aGN2UGFwaU1scndJYWFQY0" ++
    "hVUm8ifX0" ++
    ".9Cvc8dUOOtY30XrmjsowwV0TOuMSbBARL4PkucUwO6HEOhkB8oBCr13-xYAegB4VsWbKNCwcuQpvXesSMrPmCA"

def presented (recordJti : Bool) (now : Int) : Call :=
  ⟨hostToken,some (.one "urn:asap:agent:server"),recordJti,now,now,fun _ => none⟩

end Asap.HostJwt
