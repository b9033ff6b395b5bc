import Asap.Discovery

-- `asap.client`: an agent of the registry is resolved to its signed manifest, whose CA trust is
-- verified and whose URN is looked up in the list of revocations.
namespace Asap.Market
open OrderedDict PythonValue ManifestSigning
open Discovery (wellknownManifestPath rstripSlashes)

-- The fields that resolving reads.
structure RegistryEntry where
  id : String
  endpoints : Dict String String

def findById (registry : List RegistryEntry) (agentId : String) : Option RegistryEntry :=
  registry.find? (fun entry => decide (entry.id = agentId))

-- `none` is the ValueError of an entry without these endpoints; an empty one counts as absent.
def manifestUrlFromEntry (entry : RegistryEntry) : Option String :=
  match (entry.endpoints.get "manifest").filter (fun url => decide (url ≠ "")) with
  | some manifest => some manifest
  | none => ((entry.endpoints.get "http").filter (fun url => decide (url ≠ ""))).map (fun base => rstripSlashes base ++ wellknownManifestPath)

-- What else comes from `pydantic` and `cryptography`.
structure Sdk (Manifest PublicKey : Type) extends Crypto Manifest PublicKey where
  publicBytes : PublicKey → List UInt8
  validateSignedJson : String → Option (SignedManifest Manifest)
  manifestId : Manifest → String
  skillIds : Manifest → List String

structure Response where
  status : Nat
  text : String

-- `json` is `response.json()`, `none` where it raises.
structure Listing where
  status : Nat
  json : Option Value

-- What one call finds outside: the registry, the endpoints' answers, the CA key in the
-- environment and the list of revocations. `none` is an exception, or an unset variable.
structure World where
  registry : Option (List RegistryEntry)
  fetch : String → Option Response
  caPublicKey : Option String
  revocations : Option Listing

inductive TrustError where
  | noCaKey
  | trustLevel (level : TrustLevel)
  | noPublicKey
  | publicKey
  | unknownCa
  | verify (error : VerifyError)
  deriving DecidableEq

inductive ResolveError where
  | registry
  | notFound (urn : String)
  | noEndpoint (id : String)
  | manifestResponse
  | invalidManifest
  | trust (error : TrustError)
  | revocations
  | revoked (urn : String)
  deriving DecidableEq

-- `raise_for_status` lets these through.
def isSuccess (status : Nat) : Bool := 200 ≤ status && status < 300

def listedUrn (urn : String) : Value → Bool
  | .dict fields => match lookupItem "urn" fields with
    | some (.str listed) => decide (listed = urn)
    | _ => false
  | _ => false

-- A document of another shape lists nobody.
def revokedIn (urn : String) : Value → Bool
  | .dict items => match lookupItem "revoked" items with
    | some (.list entries) => entries.any (listedUrn urn)
    | _ => false
  | _ => false

-- `none` is an exception: of the request, of its status or of its body.
def isRevoked (urn : String) (revocations : Option Listing) : Option Bool :=
  match revocations with
  | none => none
  | some response => if isSuccess response.status then response.json.map (revokedIn urn) else none

section Resolve
variable {Manifest PublicKey : Type} (sdk : Sdk Manifest PublicKey)

def publicKeyToBase64 (key : PublicKey) : String := b64encode (sdk.publicBytes key)

def verifyCaSignature (signed : SignedManifest Manifest) (knownCas : List String) : Except TrustError Unit :=
  if signed.signature.trustLevel ≠ .verified then .error (.trustLevel signed.signature.trustLevel)
  else match signed.publicKey.filter (fun text => decide (text ≠ "")) with
    | none => .error .noPublicKey
    | some text =>
      match loadPublicKeyFromBase64 sdk.toCrypto text with
      | none => .error .publicKey
      | some key =>
        if publicKeyToBase64 sdk key ∉ knownCas then .error .unknownCa
        else match verifyManifest sdk.toCrypto signed (some key) with
          | .error error => .error (.verify error)
          | .ok _ => .ok ()

def verifyAgentTrust (signed : SignedManifest Manifest) (caPublicKey : Option String) : Except TrustError Unit :=
  match caPublicKey.filter (fun text => decide (text ≠ "")) with
  | none => .error .noCaKey
  | some key => verifyCaSignature sdk signed [key]

structure ResolvedAgent (Manifest : Type) where
  manifest : Manifest
  entry : RegistryEntry

def fetchSigned (world : World) (entry : RegistryEntry) : Except ResolveError (SignedManifest Manifest) :=
  match manifestUrlFromEntry entry with
  | none => .error (.noEndpoint entry.id)
  | some url =>
    match world.fetch url with
    | none => .error .manifestResponse
    | some response =>
      if isSuccess response.status then
        match sdk.validateSignedJson response.text with
        | none => .error .invalidManifest
        | some signed => .ok signed
      else .error .manifestResponse

-- Trust and revocation are looked at together; of two errors the first to come is raised,
-- and any of them ends the call.
def resolve (world : World) (urn : String) : Except ResolveError (ResolvedAgent Manifest) :=
  match world.registry with
  | none => .error .registry
  | some registry =>
    match findById registry urn with
    | none => .error (.notFound urn)
    | some entry =>
      match fetchSigned sdk world entry with
      | .error error => .error error
      | .ok signed =>
        match verifyAgentTrust sdk signed world.caPublicKey,isRevoked urn world.revocations with
        | .error error,_ => .error (.trust error)
        | .ok _,none => .error .revocations
        | .ok _,some true => .error (.revoked urn)
        | .ok _,some false => .ok ⟨signed.manifest,entry⟩

-- The signature is genuine, at the verified level, under the key of the CA.
structure Trusted (signed : SignedManifest Manifest) (caPublicKey : String) : Prop where
  level : signed.signature.trustLevel = .verified
  byCa : ∃ text key, signed.publicKey = some text ∧ loadPublicKeyFromBase64 sdk.toCrypto text = some key ∧
    publicKeyToBase64 sdk key = caPublicKey ∧ Genuine sdk.toCrypto signed key

-- The document is an object with a list under its key, and an object of that list has the URN.
def Lists (urn : String) (document : Value) : Prop :=
  ∃ items entries fields, document = .dict items ∧ lookupItem "revoked" items = some (.list entries) ∧
    .dict fields ∈ entries ∧ lookupItem "urn" fields = some (.str urn)

-- The manifest that the registry's entry for the URN leads to, with the answer it was read from.
structure Served (world : World) (urn : String) (entry : RegistryEntry) (signed : SignedManifest Manifest) : Prop where
  listed : ∃ registry, world.registry = some registry ∧ entry ∈ registry ∧ entry.id = urn
  answered : ∃ url response, manifestUrlFromEntry entry = some url ∧ world.fetch url = some response ∧
    isSuccess response.status = true ∧ sdk.validateSignedJson response.text = some signed

theorem listedUrn_iff (urn : String) (entry : Value) :
    listedUrn urn entry = true ↔ ∃ fields, entry = .dict fields ∧ lookupItem "urn" fields = some (.str urn) := by
  constructor
  · intro listed
    unfold listedUrn at listed
    split at listed
    · rename_i fields
      split at listed
      · rename_i known
        refine ⟨fields,rfl,?_⟩
        rw [known,decide_eq_true_eq.mp listed]
      · cases listed
    · cases listed
  · rintro ⟨fields,rfl,known⟩
    simp [listedUrn,known]

theorem revokedIn_iff (urn : String) (document : Value) : revokedIn urn document = true ↔ Lists urn document := by
  constructor
  · intro revoked
    unfold revokedIn at revoked
    split at revoked
    · rename_i items
      split at revoked
      · rename_i entries known
        obtain ⟨entry,inside,listed⟩ := List.any_eq_true.mp revoked
        obtain ⟨fields,rfl,named⟩ := (listedUrn_iff urn entry).mp listed
        exact ⟨items,entries,fields,rfl,known,inside,named⟩
      · cases revoked
    · cases revoked
  · rintro ⟨items,entries,fields,rfl,known,inside,named⟩
    simp only [revokedIn,known]
    exact List.any_eq_true.mpr ⟨.dict fields,inside,(listedUrn_iff urn _).mpr ⟨fields,rfl,named⟩⟩

theorem isRevoked_false (urn : String) (revocations : Option Listing) (clear : isRevoked urn revocations = some false) :
    ∃ listing document, revocations = some listing ∧ isSuccess listing.status = true ∧ listing.json = some document ∧
      ¬Lists urn document := by
  unfold isRevoked at clear
  split at clear
  · cases clear
  · rename_i listing
    split at clear
    · rename_i success
      obtain ⟨document,read,unlisted⟩ := Option.map_eq_some_iff.mp clear
      refine ⟨listing,document,rfl,success,read,?_⟩
      rw [← revokedIn_iff,unlisted]
      exact Bool.false_ne_true
    · cases clear

theorem verifyCaSignature_trusted (signed : SignedManifest Manifest) (caPublicKey : String)
    (verified : verifyCaSignature sdk signed [caPublicKey] = .ok ()) : Trusted sdk signed caPublicKey := by
  unfold verifyCaSignature at verified
  split at verified
  · cases verified
  · rename_i level
    split at verified
    · cases verified
    · rename_i text present
      split at verified
      · cases verified
      · rename_i key loaded
        split at verified
        · cases verified
        · rename_i known
          split at verified
          · cases verified
          · rename_i accepted
            refine ⟨not_not.mp level,text,key,(Option.filter_eq_some_iff.mp present).1,loaded,?_,?_⟩
            · exact List.mem_singleton.mp (not_not.mp known)
            · exact (verifyManifest_genuine sdk.toCrypto signed key).mp accepted

theorem verifyAgentTrust_trusted (signed : SignedManifest Manifest) (caPublicKey : Option String)
    (verified : verifyAgentTrust sdk signed caPublicKey = .ok ()) :
    ∃ ca, caPublicKey = some ca ∧ ca ≠ "" ∧ Trusted sdk signed ca := by
  unfold verifyAgentTrust at verified
  split at verified
  · cases verified
  · rename_i ca present
    obtain ⟨known,nonempty⟩ := Option.filter_eq_some_iff.mp present
    exact ⟨ca,known,of_decide_eq_true nonempty,verifyCaSignature_trusted sdk signed ca verified⟩

theorem fetchSigned_answered (world : World) (entry : RegistryEntry) (signed : SignedManifest Manifest)
    (fetched : fetchSigned sdk world entry = .ok signed) :
    ∃ url response, manifestUrlFromEntry entry = some url ∧ world.fetch url = some response ∧
      isSuccess response.status = true ∧ sdk.validateSignedJson response.text = some signed := by
  unfold fetchSigned at fetched
  split at fetched
  · cases fetched
  · rename_i url located
    split at fetched
    · cases fetched
    · rename_i response answered
      split at fetched
      · rename_i success
        split at fetched
        · cases fetched
        · rename_i parsed
          cases fetched
          exact ⟨url,response,located,answered,success,parsed⟩
      · cases fetched

-- A resolved agent has the manifest that the entry of its URN serves, trusted by the CA, and
-- the list of revocations as it was read at that time does not have the URN.
theorem resolve_vouched (world : World) (urn : String) (agent : ResolvedAgent Manifest) (resolved : resolve sdk world urn = .ok agent) :
    ∃ signed ca listing document, agent.manifest = signed.manifest ∧ Served sdk world urn agent.entry signed ∧
      world.caPublicKey = some ca ∧ ca ≠ "" ∧ Trusted sdk signed ca ∧
      world.revocations = some listing ∧ isSuccess listing.status = true ∧ listing.json = some document ∧
      ¬Lists urn document := by
  unfold resolve at resolved
  split at resolved
  · cases resolved
  · rename_i registry content
    split at resolved
    · cases resolved
    · rename_i entry found
      split at resolved
      · cases resolved
      · rename_i signed fetched
        split at resolved
        · cases resolved
        · cases resolved
        · cases resolved
        · rename_i verified clear
          cases resolved
          obtain ⟨ca,known,nonempty,trusted⟩ := verifyAgentTrust_trusted sdk signed world.caPublicKey verified
          obtain ⟨listing,document,listed,success,read,unlisted⟩ := isRevoked_false urn world.revocations clear
          have named : entry.id = urn := by simpa using List.find?_some found
          exact ⟨signed,ca,listing,document,rfl,
            ⟨⟨registry,content,List.mem_of_find?_eq_some found,named⟩,fetchSigned_answered sdk world entry signed fetched⟩,
            known,nonempty,trusted,listed,success,read,unlisted⟩
end Resolve

-- A manifest of which only the id and the skills are looked at.
structure Card where
  id : String
  skills : List String
  deriving DecidableEq

def neutralKey : String := "AQAA" ++ String.ofList (List.replicate 39 'A') ++ "="
def neutralSignature : String := "AQAA" ++ String.ofList (List.replicate 82 'A') ++ "=="

-- The document that the endpoint of one agent serves.
def betaText : String :=
  "\x7b\"manifest\": \x7b\"id\": \"urn:asap:agent:beta\", \"name\": \"Beta\", \"version\": \"1.0.0\", \"description\": \"Echo\", " ++
    "\"capabilities\": \x7b\"skills\": [\x7b\"id\": \"echo\", \"description\": \"Echo\"\x7d]\x7d, " ++
    "\"endpoints\": \x7b\"asap\": \"https://b/asap\"\x7d\x7d, \"signature\": \x7b\"alg\": \"ed25519\", \"signature\": \"" ++
    neutralSignature ++ "\", \"trust_level\": \"verified\"\x7d, \"public_key\": \"" ++ neutralKey ++ "\"\x7d"

def betaSigned : SignedManifest Card where
  manifest := ⟨"urn:asap:agent:beta",["echo"]⟩
  signature := ⟨"ed25519",neutralSignature,.verified⟩
  publicKey := some neutralKey

def cardSdk : Sdk Card (List UInt8) where
  validateManifest _ := none
  validateSigned _ := none
  canonicalize card := some (card.id.toList.map (fun c => UInt8.ofNat c.toNat))
  fromPublicBytes := some
  verify key raw _ := decide (key = Discovery.neutralPoint ∧ raw = Discovery.neutralPoint ++ List.replicate 32 0)
  publicBytes key := key
  validateSignedJson text := if text = betaText then some betaSigned else none
  manifestId card := card.id
  skillIds card := card.skills

def revocation (urn : String) : Value :=
  .dict [(.str "urn",.str urn),(.str "reason",.str "compromised"),(.str "revoked_at",.str "2026-01-01T00:00:00Z")]

def revocationList (urns : List String) : Value :=
  .dict [(.str "revoked",.list (urns.map revocation)),(.str "version",.str "1.0")]

-- The registry's entry for the URN leads to the endpoint of that agent.
def worldOf (urn : String) (document : Value) : World where
  registry := some [⟨urn,Dict.empty.set "manifest" "https://b/.well-known/asap/manifest.json"⟩]
  fetch url := if url = "https://b/.well-known/asap/manifest.json" then some ⟨200,betaText⟩ else none
  caPublicKey := some neutralKey
  revocations := some ⟨200,some document⟩

def resolvedId (world : World) (urn : String) : Option String :=
  (resolve cardSdk world urn).toOption.map (fun agent => cardSdk.manifestId agent.manifest)

theorem resolvedId_some {world : World} {served : String} (found : resolvedId world urn = some served) :
    ∃ agent, resolve cardSdk world urn = .ok agent ∧ cardSdk.manifestId agent.manifest = served := by
  obtain ⟨agent,resolved,named⟩ := Option.map_eq_some_iff.mp found
  cases outcome : resolve cardSdk world urn with
  | error error =>
    rw [outcome] at resolved
    cases resolved
  | ok other =>
    rw [outcome] at resolved
    cases resolved
    exact ⟨agent,rfl,named⟩

theorem impostor_resolves : resolvedId (worldOf "urn:asap:agent:alpha" (revocationList ["urn:asap:agent:beta"])) "urn:asap:agent:alpha" =
    some "urn:asap:agent:beta" := by decide +kernel

theorem unlisting_resolves : resolvedId (worldOf "urn:asap:agent:beta" (.list [revocation "urn:asap:agent:beta"])) "urn:asap:agent:beta" =
    some "urn:asap:agent:beta" := by decide +kernel

-- An entry that leads to the manifest of a revoked agent, and a document that is a bare list.
theorem resolved_revoked_manifest :
    (∃ agent, resolve cardSdk (worldOf "urn:asap:agent:alpha" (revocationList ["urn:asap:agent:beta"])) "urn:asap:agent:alpha" = .ok agent ∧
      cardSdk.manifestId agent.manifest ≠ "urn:asap:agent:alpha" ∧
      Lists (cardSdk.manifestId agent.manifest) (revocationList ["urn:asap:agent:beta"])) ∧
    (∃ agent, resolve cardSdk (worldOf "urn:asap:agent:beta" (.list [revocation "urn:asap:agent:beta"])) "urn:asap:agent:beta" = .ok agent) ∧
    ∀ items, Value.list [revocation "urn:asap:agent:beta"] ≠ .dict items := by
  obtain ⟨agent,resolved,named⟩ := resolvedId_some impostor_resolves
  obtain ⟨other,other_resolved,_⟩ := resolvedId_some unlisting_resolves
  refine ⟨⟨agent,resolved,?_,?_⟩,⟨other,other_resolved⟩,fun items same => by cases same⟩
  · rw [named]
    decide
  · rw [named]
    exact ⟨_,_,_,rfl,rfl,List.mem_singleton_self _,rfl⟩

theorem listed_resolves : resolvedId (worldOf "urn:asap:agent:beta" (revocationList ["urn:asap:agent:alpha"])) "urn:asap:agent:beta" =
    some "urn:asap:agent:beta" := by decide +kernel

theorem resolve_vouched_beta : ∃ agent,
    resolve cardSdk (worldOf "urn:asap:agent:beta" (revocationList ["urn:asap:agent:alpha"])) "urn:asap:agent:beta" = .ok agent ∧
    ∃ signed ca, agent.manifest = signed.manifest ∧ Trusted cardSdk signed ca := by
  obtain ⟨agent,resolved,_⟩ := resolvedId_some listed_resolves
  obtain ⟨signed,ca,_,_,same,_,_,_,trusted,_⟩ := resolve_vouched cardSdk _ _ agent resolved
  exact ⟨agent,resolved,signed,ca,same,trusted⟩

end Asap.Market
