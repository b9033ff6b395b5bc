import Asap.SelfAuth

-- The identities of the TypeScript client: the keys it makes, the tokens it signs with
-- them and the registration it sends.
namespace Asap.TypescriptClient
open OrderedDict PythonValue AgentIdentity ApprovalStore
open HostJwt (Claims Audience hostJwtTyp hostPublicKeyClaim)

def agentJwtTyp : String := "agent+jwt"
def agentPublicKeyClaim : String := "agent_public_key"
def capabilitiesClaim : String := "capabilities"
def defaultHostJwtTtlSeconds : Int := 300
def agentJwtTtlSeconds : Int := 60

structure PublicJwk where
  kty : String
  crv : String
  x : String
  deriving DecidableEq

structure PrivateJwk where
  publicJwk : PublicJwk
  d : String

def isBase64Url (c : Char) : Bool :=
  ('A' ≤ c ∧ c ≤ 'Z') || ('a' ≤ c ∧ c ≤ 'z') || ('0' ≤ c ∧ c ≤ '9') || c = '-' || c = '_'

-- What Web Crypto exports of a new pair.
structure Ed25519KeyPair where
  x : String
  d : String
  encoded : x.toList.all isBase64Url = true

def Ed25519KeyPair.publicJwk (pair : Ed25519KeyPair) : PublicJwk := ⟨"OKP","Ed25519",pair.x⟩
def Ed25519KeyPair.privateJwk (pair : Ed25519KeyPair) : PrivateJwk := ⟨pair.publicJwk,pair.d⟩

-- `JSON.stringify` of a text leaves characters outside ASCII as they are.
def stringifyChar (c : Char) : List Char := if c = '"' ∨ c = '\\' ∨ c.toNat < 32 then escapeChar c else [c]
def stringify (value : String) : String := String.ofList ('"' :: value.toList.flatMap stringifyChar ++ ['"'])

section Identity
variable (digest : String → String)

def jwkThumbprintSha256 (publicKey : PublicJwk) : Except String String :=
  if publicKey.kty = "OKP" then
    .ok (digest ("\x7b\"crv\":" ++ stringify publicKey.crv ++ ",\"kty\":" ++ stringify publicKey.kty ++ ",\"x\":" ++
      stringify publicKey.x ++ "\x7d"))
  else .error ("unsupported kty for thumbprint: " ++ publicKey.kty)

def publicJwkForClaims (jwk : PublicJwk) : Except String PublicJwk :=
  if jwk.kty ≠ "OKP" ∨ jwk.crv ≠ "Ed25519" then .error "Expected Ed25519 OKP public JWK" else .ok ⟨"OKP","Ed25519",jwk.x⟩

-- The object a key is in a payload.
def PublicJwk.claim (jwk : PublicJwk) : List (Key × Value) :=
  [(.str "crv",.str jwk.crv),(.str "kty",.str jwk.kty),(.str "x",.str jwk.x)]

-- The private keys kept under their names; the JSON text of each is read as the key.
abbrev Storage := Dict String PrivateJwk

def hostPrivateJwkKey (hostId : String) : String := "asap/v2/host/" ++ hostId ++ "/ed25519-private.jwk.json"

def agentPrivateJwkKey (hostId agentId : String) : String :=
  "asap/v2/host/" ++ hostId ++ "/agent/" ++ agentId ++ "/ed25519-private.jwk.json"

structure HostContext where
  hostId : String
  hostThumbprint : String
  publicJwk : PublicJwk

structure AgentContext where
  agentId : String
  hostId : String
  mode : AgentMode
  hostThumbprint : String
  publicJwk : PublicJwk

def createHost (storage : Storage) (pair : Ed25519KeyPair) (randomUuid : String) : Except String (HostContext × Storage) :=
  ((publicJwkForClaims pair.publicJwk).bind (jwkThumbprintSha256 digest)).map (fun hostThumbprint =>
    let hostId := "host_" ++ randomUuid
    (⟨hostId,hostThumbprint,pair.publicJwk⟩,storage.set (hostPrivateJwkKey hostId) pair.privateJwk))

def createAgent (storage : Storage) (host : HostContext) (mode : AgentMode) (pair : Ed25519KeyPair) (randomUuid : String) :
    AgentContext × Storage :=
  let agentId := "agent_" ++ randomUuid
  (⟨agentId,host.hostId,mode,host.hostThumbprint,pair.publicJwk⟩,storage.set (agentPrivateJwkKey host.hostId agentId) pair.privateJwk)
end Identity

section Signing
-- `SignJWT` of jose: the compact token of a header and a payload under a key.
variable (sign : PrivateJwk → Dict String Value → Claims → String)

def protectedHeader (typ : String) : Dict String Value := ((.empty : Dict String Value).set "alg" (.str "EdDSA")).set "typ" (.str typ)

def audClaim : Audience → Value
  | .one value => .str value
  | .many values => .list (values.map .str)

-- `Date.now()`, in milliseconds within the range of a Date.
structure DateNow where
  milliseconds : Int
  bounded : milliseconds.natAbs ≤ 8640000000000000

def DateNow.seconds (dateNow : DateNow) : Int := dateNow.milliseconds / 1000

def hostClaims (hostThumbprint : String) (hostPubClaim : PublicJwk) (agentPubClaim : Option PublicJwk) (aud : Audience)
    (now ttl : Int) (ulid : String) : Claims :=
  let named : Claims := Dict.empty.set hostPublicKeyClaim (.dict hostPubClaim.claim)
  let body : Claims := match agentPubClaim with
    | none => named
    | some agent => named.set agentPublicKeyClaim (.dict agent.claim)
  ((((body.set "iss" (.str hostThumbprint)).set "aud" (audClaim aud)).set "iat" (.int now)).set "exp" (.int (now + ttl))).set
    "jti" (.str ("jwt_" ++ ulid))

def signHostJwt (storage : Storage) (host : HostContext) (aud : Audience) (agentPublicKey : Option PublicJwk)
    (ttlSeconds : Option Int) (dateNow : DateNow) (ulid : String) : Except String String :=
  match storage.get (hostPrivateJwkKey host.hostId) with
  | none => .error ("missing host private key for " ++ host.hostId)
  | some privateJwk =>
    (publicJwkForClaims host.publicJwk).bind (fun hostPubClaim =>
      (agentPublicKey.mapM publicJwkForClaims).map (fun agentPubClaim =>
        sign privateJwk (protectedHeader hostJwtTyp) (hostClaims host.hostThumbprint hostPubClaim agentPubClaim aud
          dateNow.seconds (ttlSeconds.getD defaultHostJwtTtlSeconds) ulid)))

def agentClaims (hostThumbprint agentId : String) (aud : Audience) (capabilities : Option (List String)) (now : Int)
    (ulid : String) : Claims :=
  let body : Claims := match capabilities with
    | none => .empty
    | some names => Dict.set .empty capabilitiesClaim (.list (names.map .str))
  (((((body.set "iss" (.str hostThumbprint)).set "sub" (.str agentId)).set "aud" (audClaim aud)).set "iat" (.int now)).set
    "exp" (.int (now + agentJwtTtlSeconds))).set "jti" (.str ("jwt_" ++ ulid))

def signAgentJwt (storage : Storage) (agent : AgentContext) (aud : Audience) (capabilities : Option (List String)) (dateNow : DateNow)
    (ulid : String) : Except String String :=
  match storage.get (agentPrivateJwkKey agent.hostId agent.agentId) with
  | none => .error ("missing agent private key for " ++ agent.agentId)
  | some privateJwk =>
    .ok (sign privateJwk (protectedHeader agentJwtTyp) (agentClaims agent.hostThumbprint agent.agentId aud capabilities
      dateNow.seconds ulid))
end Signing

structure ConnectAgentOptions where
  audience : String
  approvalMethod : Option ApprovalMethod := none
  agentControlsBrowser : Bool := false

-- The members of the body the register handler reads; it reads no mode.
def registerBody (capabilities : List String) (options : ConnectAgentOptions) : SelfAuth.RegisterBody where
  capabilities := some (capabilities.map .str)
  approvalMethod := options.approvalMethod
  agentControlsBrowser := options.agentControlsBrowser
  webauthn := .none

structure ConnectAgentResult where
  agentId : String
  hostId : String
  status : AgentSessionStatus

-- The response of the provider as far as the client reads it.
inductive Response where
  | registered (agentId hostId : String) (status : AgentSessionStatus)
  | failed (code : Nat) (detail : String)

def connectResult : Response → Except String ConnectAgentResult
  | .registered agentId hostId status => .ok ⟨agentId,hostId,status⟩
  | .failed code detail => .error ("connectAgent failed: HTTP " ++ toString code ++ " " ++ detail)

-- The provider takes the token and the body.
def connectAgent {σ : Type u} (sign : PrivateJwk → Dict String Value → Claims → String) (storage : Storage) (host : HostContext)
    (agent : AgentContext) (capabilities : List String) (options : ConnectAgentOptions) (dateNow : DateNow) (ulid : String)
    (fetch : String → SelfAuth.RegisterBody → σ → σ × Response) (s : σ) : σ × Except String ConnectAgentResult :=
  match signHostJwt sign storage host (.one options.audience) (some agent.publicJwk) none dateNow ulid with
  | .error error => (s,.error error)
  | .ok token =>
    let (next,response) := fetch token (registerBody capabilities options) s
    (next,connectResult response)

theorem base64Url_plain (c : Char) (plain : isBase64Url c = true) : stringifyChar c = escapeChar c := by
  unfold isBase64Url at plain
  have printable : 32 ≤ c.toNat ∧ c.toNat ≤ 126 := by
    simp only [Bool.or_eq_true,decide_eq_true_eq,Char.le_def,UInt32.le_iff_toNat_le] at plain
    rcases plain with ((((upper | lower) | digit) | rfl) | rfl)
    · exact ⟨le_trans (by decide) upper.1,le_trans upper.2 (by decide)⟩
    · exact ⟨le_trans (by decide) lower.1,le_trans lower.2 (by decide)⟩
    · exact ⟨le_trans (by decide) digit.1,le_trans digit.2 (by decide)⟩
    · decide
    · decide
  unfold stringifyChar
  split
  · rfl
  · rename_i unescaped
    have large : ¬c.toNat < 32 := not_lt.mpr printable.1
    simp only [large,or_false,not_or] at unescaped
    have whitespace (other : Char) (small : other.toNat < 32) : c ≠ other := by
      rintro rfl
      omega
    simp [escapeChar,unescaped,whitespace,printable,show c.toNat ≠ 12 by omega,show c.toNat ≠ 8 by omega]

theorem stringify_base64Url (text : String) (encoded : text.toList.all isBase64Url = true) : stringify text = quote text := by
  have same : text.toList.flatMap stringifyChar = text.toList.flatMap escapeChar :=
    List.flatMap_congr (fun c member => base64Url_plain c (List.all_eq_true.mp encoded c member))
  unfold stringify quote
  rw [same]

theorem sortItems_okp (crv kty x : α) :
    sortItems [(Key.str "crv",crv),(Key.str "kty",kty),(Key.str "x",x)] =
      some [(Key.str "crv",crv),(Key.str "kty",kty),(Key.str "x",x)] := by
  have ordered : List.Pairwise (fun a b : Key × α => a.1.string.getD "" ≤ b.1.string.getD "")
      [(Key.str "crv",crv),(Key.str "kty",kty),(Key.str "x",x)] := by
    refine .cons ?_ (.cons ?_ (List.pairwise_singleton _ _))
    · simp only [List.mem_cons,List.not_mem_nil,or_false]
      rintro b (rfl | rfl)
      · exact (by decide +kernel : ("crv" : String) ≤ "kty")
      · exact (by decide +kernel : ("crv" : String) ≤ "x")
    · simp only [List.mem_cons,List.not_mem_nil,or_false]
      rintro b rfl
      exact (by decide +kernel : ("kty" : String) ≤ "x")
  have sorted := ordered.insertionSort_eq
  unfold sortItems
  rw [if_neg (by simp),if_pos (by simp [Key.string]),sorted]

theorem thumbprint_agrees (digest : String → String) (pair : Ed25519KeyPair) :
    AgentIdentity.jwkThumbprintSha256 digest (HostJwt.publicKeyOf pair.publicJwk.claim) =
      (jwkThumbprintSha256 digest pair.publicJwk).toOption := by
  have members : requiredMembers (HostJwt.publicKeyOf pair.publicJwk.claim) "OKP" ["crv","kty","x"] = some pair.publicJwk.claim := rfl
  have kty : (HostJwt.publicKeyOf pair.publicJwk.claim).get "kty" = some (.str "OKP") := rfl
  unfold AgentIdentity.jwkThumbprintSha256 jwkThumbprintSha256
  simp only [kty,members,Option.bind_some]
  rw [if_pos (by rfl),stringify_base64Url pair.publicJwk.x pair.encoded]
  have texts : ["crv","kty","x","Ed25519","OKP"].map quote = ["\"crv\"","\"kty\"","\"x\"","\"Ed25519\"","\"OKP\""] ∧
      ["Ed25519","OKP"].map stringify = ["\"Ed25519\"","\"OKP\""] := by decide +kernel
  simp only [List.map_cons,List.map_nil,List.cons.injEq,and_true] at texts
  simp only [dumps,dumpsItems,Ed25519KeyPair.publicJwk,PublicJwk.claim,Option.map_some,Option.bind_some,sortItems_okp,
    Except.toOption,compact,Key.text,List.map_cons,List.map_nil,texts,String.intercalate_cons_cons,String.intercalate_singleton,
    Option.some.injEq]
  apply congrArg digest
  apply String.toList_injective
  simp

end Asap.TypescriptClient
