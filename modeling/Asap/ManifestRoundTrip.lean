import Asap.JsonIndent
import Asap.ManifestSigning
import Asap.Manifests

-- `asap manifest sign` and `asap manifest verify`: what is signed, written, read and verified.
namespace Asap.ManifestRoundTrip
open OrderedDict PythonValue ModelFields Manifests ManifestSigning

theorem base64Value_char : ∀ value < 64, base64Value (base64Char value) = some value ∧ base64Char value ≠ '=' := by decide

theorem a2bBase64_char (quad left pads : Nat) {value : Nat} (small : value < 64) (rest : List Char) :
    a2bBase64 quad left pads (base64Char value :: rest) =
      match quad with
      | 0 => a2bBase64 1 value 0 rest
      | 1 => (a2bBase64 2 (value % 16) 0 rest).map (UInt8.ofNat (left * 4 + value / 16) :: ·)
      | 2 => (a2bBase64 3 (value % 4) 0 rest).map (UInt8.ofNat (left * 16 + value / 4) :: ·)
      | _ => (a2bBase64 0 0 0 rest).map (UInt8.ofNat (left * 64 + value) :: ·) := by
  obtain ⟨read,letter⟩ := base64Value_char value small
  rcases quad with _ | _ | _ | quad <;> simp only [a2bBase64,if_neg letter,read]

-- The bits of a byte that stand in two characters.
theorem ofNat_joined {n : Nat} {byte : UInt8} (joined : n = byte.toNat) : UInt8.ofNat n = byte := by
  rw [joined,UInt8.ofNat_toNat]

theorem a2bBase64_b2a (raw : List UInt8) : a2bBase64 0 0 0 (b2aBase64 raw) = some raw := by
  induction raw using b2aBase64.induct with
  | case1 => rfl
  | case2 a =>
    have byte := a.toNat_lt
    rw [b2aBase64,a2bBase64_char _ _ _ (by omega)]
    simp only
    rw [a2bBase64_char _ _ _ (by omega)]
    simp only
    have first : UInt8.ofNat (a.toNat / 4 * 4 + a.toNat % 4 * 16 / 16) = a := ofNat_joined (by omega)
    rw [first]
    simp [a2bBase64]
  | case3 a b =>
    have byte := a.toNat_lt
    have byte' := b.toNat_lt
    rw [b2aBase64,a2bBase64_char _ _ _ (by omega)]
    simp only
    rw [a2bBase64_char _ _ _ (by omega)]
    simp only
    rw [a2bBase64_char _ _ _ (by omega)]
    simp only
    have first : UInt8.ofNat (a.toNat / 4 * 4 + (a.toNat % 4 * 16 + b.toNat / 16) / 16) = a := ofNat_joined (by omega)
    have second : UInt8.ofNat ((a.toNat % 4 * 16 + b.toNat / 16) % 16 * 16 + b.toNat % 16 * 4 / 4) = b := ofNat_joined (by omega)
    rw [first,second]
    simp [a2bBase64]
  | case4 a b d rest ih =>
    have byte := a.toNat_lt
    have byte' := b.toNat_lt
    have byte'' := d.toNat_lt
    rw [b2aBase64,a2bBase64_char _ _ _ (by omega)]
    simp only
    rw [a2bBase64_char _ _ _ (by omega)]
    simp only
    rw [a2bBase64_char _ _ _ (by omega)]
    simp only
    rw [a2bBase64_char _ _ _ (by omega)]
    have first : UInt8.ofNat (a.toNat / 4 * 4 + (a.toNat % 4 * 16 + b.toNat / 16) / 16) = a := ofNat_joined (by omega)
    have second : UInt8.ofNat ((a.toNat % 4 * 16 + b.toNat / 16) % 16 * 16 + (b.toNat % 16 * 4 + d.toNat / 64) / 4) = b :=
      ofNat_joined (by omega)
    have third : UInt8.ofNat ((b.toNat % 16 * 4 + d.toNat / 64) % 4 * 64 + d.toNat % 64) = d := ofNat_joined (by omega)
    rw [first,second,third,ih]
    rfl

def isBase64Char (c : Char) : Bool :=
  ('A' ≤ c && c ≤ 'Z') || ('a' ≤ c && c ≤ 'z') || ('0' ≤ c && c ≤ '9') || c = '+' || c = '/' || c = '='

-- `BASE64_PATTERN`
def matchesBase64 (text : String) : Bool := !text.toList.isEmpty && text.toList.all isBase64Char

theorem base64Char_matches : ∀ value < 64, isBase64Char (base64Char value) = true := by decide

theorem b2aBase64_matches (raw : List UInt8) : (b2aBase64 raw).all isBase64Char = true := by
  have letter := base64Char_matches
  have padding : isBase64Char '=' = true := by decide
  induction raw using b2aBase64.induct with
  | case1 => rfl
  | case2 a =>
    have byte := a.toNat_lt
    simp only [b2aBase64,List.all_cons,List.all_nil,padding,Bool.and_true,Bool.and_eq_true]
    exact ⟨letter _ (by omega),letter _ (by omega)⟩
  | case3 a b =>
    have byte := a.toNat_lt
    have byte' := b.toNat_lt
    simp only [b2aBase64,List.all_cons,List.all_nil,padding,Bool.and_true,Bool.and_eq_true]
    exact ⟨letter _ (by omega),letter _ (by omega),letter _ (by omega)⟩
  | case4 a b d rest ih =>
    have byte := a.toNat_lt
    have byte' := b.toNat_lt
    have byte'' := d.toNat_lt
    simp only [b2aBase64,List.all_cons,Bool.and_eq_true]
    exact ⟨letter _ (by omega),letter _ (by omega),letter _ (by omega),letter _ (by omega),ih⟩

theorem isBase64Char_ascii {c : Char} (letter : isBase64Char c = true) : c.toNat < 128 := by
  simp only [isBase64Char,Bool.or_eq_true,Bool.and_eq_true,decide_eq_true_eq] at letter
  rcases letter with ((((upper | lower) | digit) | rfl) | rfl) | rfl
  · exact Nat.lt_of_le_of_lt upper.2 (by decide)
  · exact Nat.lt_of_le_of_lt lower.2 (by decide)
  · exact Nat.lt_of_le_of_lt digit.2 (by decide)
  · decide
  · decide
  · decide

theorem matchesBase64_ascii {text : String} (fits : matchesBase64 text = true) : text.toList.all (fun c => c.toNat < 128) = true := by
  have letters := (Bool.and_eq_true_iff.mp fits).2
  rw [List.all_eq_true] at letters ⊢
  intro c member
  exact decide_eq_true (isBase64Char_ascii (letters c member))

theorem b64encode_matches (raw : List UInt8) (some_ : raw ≠ []) : matchesBase64 (b64encode raw) = true := by
  have filled : (b2aBase64 raw).isEmpty = false := by
    cases raw with
    | nil => exact absurd rfl some_
    | cons a rest =>
      cases rest with
      | nil => rfl
      | cons b rest => cases rest <;> rfl
  simp [matchesBase64,b64encode,filled,b2aBase64_matches]

theorem b64decode_b64encode (raw : List UInt8) : b64decode (b64encode raw) = .ok raw := by
  cases raw with
  | nil => rfl
  | cons a rest =>
    have ascii := matchesBase64_ascii (b64encode_matches (a :: rest) (by simp))
    have back := a2bBase64_b2a (a :: rest)
    unfold b64decode
    rw [if_pos ascii]
    simp [b64encode,back]

-- `cryptography`'s Ed25519 keys.
structure Ed25519 (PrivateKey PublicKey : Type) where
  sign : PrivateKey → List UInt8 → List UInt8
  publicKey : PrivateKey → PublicKey
  publicBytes : PublicKey → List UInt8
  fromPublicBytes : List UInt8 → Option PublicKey
  verify : PublicKey → List UInt8 → List UInt8 → Bool

-- RFC 8032: a signature is a point and a scalar below the group order, and it verifies under
-- the key's public half, which its 32 bytes stand for.
structure Ed25519.Sound (ed : Ed25519 PrivateKey PublicKey) : Prop where
  length : ∀ key payload, (ed.sign key payload).length = 64
  scalar : ∀ key payload, fromBytesLittle ((ed.sign key payload).drop 32) < ed25519Order
  verifies : ∀ key payload, ed.verify (ed.publicKey key) (ed.sign key payload) payload = true
  keyLength : ∀ key, (ed.publicBytes key).length = 32
  keyBytes : ∀ key, ed.fromPublicBytes (ed.publicBytes key) = some key

def trustLevel : Enumeration TrustLevel where
  all := [.selfSigned,.verified,.enterprise]
  text
    | .selfSigned => "self-signed"
    | .verified => "verified"
    | .enterprise => "enterprise"
  known a := by cases a <;> rfl

def blockAccepted (block : SignatureBlock) : Bool := decide (block.alg = "ed25519") && matchesBase64 block.signature

-- The blocks the model accepts.
abbrev Block : Type := {block : SignatureBlock // blockAccepted block = true}

def signatureBlock : Codec Block where
  dump b := .dict [(.str "alg",str.dump b.val.alg),(.str "signature",str.dump b.val.signature),
    (.str "trust_level",trustLevel.codec.dump b.val.trustLevel)]
  read := readObject ["alg","signature","trust_level"] (fun items => do
    let alg ← required str "alg" items
    let signature ← required str "signature" items
    let trustLevel ← defaulted trustLevel.codec .selfSigned "trust_level" items
    if accepted : blockAccepted ⟨alg,signature,trustLevel⟩ = true then some ⟨⟨alg,signature,trustLevel⟩,accepted⟩ else none)
  plain b := str.plain b.val.alg && str.plain b.val.signature && trustLevel.codec.plain b.val.trustLevel
  json b := by simp [isJson,itemsAreJson,Key.string,Codec.json,Bool.and_assoc]
  reads b fits := by
    obtain ⟨block,accepted⟩ := b
    simp only [Bool.and_eq_true] at fits
    simp [readObject,onlyKeys,Key.string,required,defaulted,Codec.reads,fits,accepted]

def signedAccepted {Manifest : Type} (signed : SignedManifest Manifest) : Bool :=
  blockAccepted signed.signature && signed.publicKey.all matchesBase64

section Signing
variable {PrivateKey PublicKey : Type} (ed : Ed25519 PrivateKey PublicKey) (jcs : Value → Option (List UInt8))
variable (conversions : Conversions) (rules : Rules)

-- The signed manifests the model accepts.
abbrev Signed : Type := {signed : SignedManifest (Manifest rules) // signedAccepted signed = true}

def Signed.block (signed : Signed rules) : Block := ⟨signed.val.signature,(Bool.and_eq_true_iff.mp signed.property).1⟩

def signedManifest : Codec (Signed rules) where
  dump s := .dict [(.str "manifest",(manifest conversions rules).dump s.val.manifest),(.str "signature",signatureBlock.dump s.block),
    (.str "public_key",optionalStr.dump s.val.publicKey)]
  read := readObject ["manifest","signature","public_key"] (fun items => do
    let manifest ← required (manifest conversions rules) "manifest" items
    let signature ← required signatureBlock "signature" items
    let publicKey ← defaulted optionalStr none "public_key" items
    if accepted : signedAccepted ⟨manifest,signature.val,publicKey⟩ = true then some ⟨⟨manifest,signature.val,publicKey⟩,accepted⟩
    else none)
  plain s := (manifest conversions rules).plain s.val.manifest && signatureBlock.plain s.block && optionalStr.plain s.val.publicKey
  json s := by simp [isJson,itemsAreJson,Key.string,Codec.json,Bool.and_assoc]
  reads s fits := by
    obtain ⟨signed,accepted⟩ := s
    simp only [Bool.and_eq_true,Signed.block] at fits
    simp [readObject,onlyKeys,Key.string,required,defaulted,Codec.reads,fits,Signed.block,accepted]

-- `model_dump(exclude={name})`
def without (name : String) : Value → Value
  | .dict items => .dict (items.filter (fun item => decide (item.1 ≠ .str name)))
  | value => value

def canonicalize (m : Manifest rules) : Option (List UInt8) := jcs (without "signature" ((manifest conversions rules).dump m))

def publicKeyToBase64 (key : PublicKey) : String := b64encode (ed.publicBytes key)

-- `none` is an exception: of `jcs`, of the length, or of the models.
def signManifest (m : Manifest rules) (privateKey : PrivateKey) : Option (Signed rules) :=
  (canonicalize jcs conversions rules m).bind (fun payload =>
    let rawSignature := ed.sign privateKey payload
    if rawSignature.length ≠ 64 then none
    else
      let signed : SignedManifest (Manifest rules) :=
        ⟨m,⟨"ed25519",b64encode rawSignature,.selfSigned⟩,some (publicKeyToBase64 ed (ed.publicKey privateKey))⟩
      if accepted : signedAccepted signed = true then some ⟨signed,accepted⟩ else none)

def crypto : Crypto (Manifest rules) PublicKey where
  validateManifest := (manifest conversions rules).read
  validateSigned value := ((signedManifest conversions rules).read value).map Subtype.val
  canonicalize := canonicalize jcs conversions rules
  fromPublicBytes := ed.fromPublicBytes
  verify := ed.verify

-- `manifest_sign` writes this text.
def signedText (signed : Signed rules) : Option String := dumpsIndented ((signedManifest conversions rules).dump signed)

-- The manifest is signed and written; the text is read back and the signature verified,
-- under the key it came with and under the signer's.
def RoundTrip (floats : Floats) (m : Manifest rules) (key : PrivateKey) : Prop :=
  ∃ signed text data back, signManifest ed jcs conversions rules m key = some signed ∧
    signedText conversions rules signed = some text ∧ loads floats text = some data ∧
    (crypto ed jcs conversions rules).validateSigned data = some back ∧
    verifyManifest (crypto ed jcs conversions rules) back none = .ok () ∧
    verifyManifest (crypto ed jcs conversions rules) back (some (ed.publicKey key)) = .ok ()

-- `True` or a SignatureVerificationError.
def Settles (signed : SignedManifest (Manifest rules)) (publicKey : Option PublicKey) : Prop :=
  verifyManifest (crypto ed jcs conversions rules) signed publicKey ≠ .error .other

theorem without_isJson (name : String) (items : List (Key × Value)) (removed : ∀ item ∈ items, item.1 = .str name → isJson item.2 = true) :
    isJson (without name (.dict items)) = isJson (.dict items) := by
  rw [without,isJson,isJson,itemsAreJson_all,itemsAreJson_all]
  induction items with
  | nil => rfl
  | cons item rest ih =>
    have later := ih (fun item member => removed item (List.mem_cons_of_mem _ member))
    by_cases same : item.1 = .str name
    · have value := removed item (by simp) same
      rw [List.filter_cons_of_neg (by simpa using same),later,List.all_cons,same,value]
      rfl
    · rw [List.filter_cons_of_pos (by simpa using same),List.all_cons,List.all_cons,later]

theorem without_json (m : Manifest rules) :
    isJson (without "signature" ((manifest conversions rules).dump m)) = hasJsonDump rules m := by
  rw [← manifest_plain conversions,← (manifest conversions rules).json]
  refine without_isJson "signature" _ ?_
  intro item member same
  simp only [List.mem_cons,List.not_mem_nil,or_false] at member
  rcases member with rfl | rfl | rfl | rfl | rfl | rfl | rfl | rfl | rfl | rfl | rfl | rfl <;>
    first | (simp at same; done) | (exact (Codec.json _ _).trans (optionalStr_plain _))

section Laws
variable {ed jcs conversions rules} (sound : ed.Sound) (defined : ∀ value, (jcs value).isSome = isJson value)

include sound defined in
theorem signManifest_plain {m : Manifest rules} (plain : hasJsonDump rules m = true) (key : PrivateKey) :
    ∃ signed payload, signManifest ed jcs conversions rules m key = some signed ∧ canonicalize jcs conversions rules m = some payload ∧
      signed.val = ⟨m,⟨"ed25519",b64encode (ed.sign key payload),.selfSigned⟩,some (publicKeyToBase64 ed (ed.publicKey key))⟩ := by
  have canonical : (canonicalize jcs conversions rules m).isSome = true := by
    rw [canonicalize,defined,without_json,plain]
  obtain ⟨payload,bytes⟩ := Option.isSome_iff_exists.mp canonical
  have signature : matchesBase64 (b64encode (ed.sign key payload)) = true :=
    b64encode_matches _ (by rw [← List.length_pos_iff,sound.length]; decide)
  have publicKey : matchesBase64 (publicKeyToBase64 ed (ed.publicKey key)) = true :=
    b64encode_matches _ (by rw [← List.length_pos_iff,sound.keyLength]; decide)
  have accepted : signedAccepted (⟨m,⟨"ed25519",b64encode (ed.sign key payload),.selfSigned⟩,
      some (publicKeyToBase64 ed (ed.publicKey key))⟩ : SignedManifest (Manifest rules)) = true := by
    simp [signedAccepted,blockAccepted,signature,publicKey]
  refine ⟨⟨_,accepted⟩,payload,?_,bytes,rfl⟩
  simp [signManifest,bytes,sound.length,accepted]

include defined in
-- Without a JSON dump there are no bytes to sign.
theorem signManifest_other {m : Manifest rules} (other : hasJsonDump rules m = false) (key : PrivateKey) :
    signManifest ed jcs conversions rules m key = none := by
  have canonical : canonicalize jcs conversions rules m = none := by
    rw [← Option.isNone_iff_eq_none,← Option.not_isSome,canonicalize,defined,without_json,other,Bool.not_false]
  rw [signManifest,canonical,Option.bind_none]

include sound in
-- A signature that `sign_manifest` made verifies, under the key in the manifest and under the signer's.
theorem verifyManifest_signed {m : Manifest rules} {signed : SignedManifest (Manifest rules)} {payload : List UInt8} (key : PrivateKey)
    (bytes : canonicalize jcs conversions rules m = some payload)
    (same : signed = ⟨m,⟨"ed25519",b64encode (ed.sign key payload),.selfSigned⟩,some (publicKeyToBase64 ed (ed.publicKey key))⟩)
    (publicKey : Option PublicKey) (known : publicKey = none ∨ publicKey = some (ed.publicKey key)) :
    verifyManifest (crypto ed jcs conversions rules) signed publicKey = .ok () := by
  subst same
  have signature : verifySignature (crypto ed jcs conversions rules)
      ⟨m,⟨"ed25519",b64encode (ed.sign key payload),.selfSigned⟩,some (publicKeyToBase64 ed (ed.publicKey key))⟩ (ed.publicKey key) =
      .ok () := by
    rw [verifySignature_ok_iff]
    exact ⟨ed.sign key payload,payload,b64decode_b64encode _,sound.length _ _,sound.scalar _ _,bytes,sound.verifies _ _⟩
  have filled : publicKeyToBase64 ed (ed.publicKey key) ≠ "" := by
    have letters := b64encode_matches (ed.publicBytes (ed.publicKey key)) (by rw [← List.length_pos_iff,sound.keyLength]; decide)
    intro empty
    rw [← publicKeyToBase64,empty] at letters
    exact absurd letters (by decide)
  have loaded : loadPublicKeyFromBase64 (crypto ed jcs conversions rules) (publicKeyToBase64 ed (ed.publicKey key)) =
      some (ed.publicKey key) := by
    simp [loadPublicKeyFromBase64,publicKeyToBase64,b64decode_b64encode,sound.keyLength,crypto,sound.keyBytes]
  have verifying : verifyingKey (crypto ed jcs conversions rules)
      ⟨m,⟨"ed25519",b64encode (ed.sign key payload),.selfSigned⟩,some (publicKeyToBase64 ed (ed.publicKey key))⟩ publicKey =
      .ok (ed.publicKey key) := by
    rcases known with rfl | rfl
    · simp [verifyingKey,filled,loaded]
    · rfl
  simp [verifyManifest,verifying,signature]

end Laws

-- How values of Python are given here: a float with its repr, and no key twice in a dictionary.
structure Represented (floats : Floats) (value : Value) : Prop where
  genuine : PythonValue.Genuine floats value
  distinct : collapse value = value

mutual
theorem isJson_plain {floats : Floats} : (value : Value) → isJson value = true → PythonValue.Genuine floats value → Plain floats value
  | .none,_,_ | .bool _,_,_ | .int _,_,_ | .str _,_,_ => trivial
  | .float _ _,_,genuine => genuine
  | .nonFinite _,fits,_ => by cases fits
  | .other _,fits,_ => by cases fits
  | .list items,fits,genuine => listIsJson_plain items fits genuine
  | .dict items,fits,genuine => itemsAreJson_plain items fits genuine
theorem listIsJson_plain {floats : Floats} : (items : List Value) → listIsJson items = true → GenuineList floats items →
    PlainList floats items
  | [],_,_ => trivial
  | value :: rest,fits,genuine => by
    obtain ⟨first,later⟩ := Bool.and_eq_true_iff.mp fits
    exact ⟨isJson_plain value first genuine.1,listIsJson_plain rest later genuine.2⟩
theorem itemsAreJson_plain {floats : Floats} : (items : List (Key × Value)) → itemsAreJson items = true → GenuineItems floats items →
    PlainItems floats items
  | [],_,_ => trivial
  | (_,value) :: rest,fits,genuine => by
    obtain ⟨first,later⟩ := Bool.and_eq_true_iff.mp fits
    obtain ⟨named,json⟩ := Bool.and_eq_true_iff.mp first
    exact ⟨named,isJson_plain value json genuine.1,itemsAreJson_plain rest later genuine.2⟩
end

theorem signedManifest_represented {floats : Floats} (signed : Signed rules)
    (represented : Represented floats ((manifest conversions rules).dump signed.val.manifest)) :
    Represented floats ((signedManifest conversions rules).dump signed) := by
  have text : ∀ a : Option String, PythonValue.Genuine floats (optionalStr.dump a) ∧ collapse (optionalStr.dump a) = optionalStr.dump a := by
    intro a
    cases a <;> exact ⟨trivial,rfl⟩
  have block : collapse (signatureBlock.dump signed.block) = signatureBlock.dump signed.block := rfl
  constructor
  · exact ⟨represented.genuine,⟨trivial,trivial,trivial,trivial⟩,(text signed.val.publicKey).1,trivial⟩
  · simp only [signedManifest,collapse,collapseItems,represented.distinct,block,(text signed.val.publicKey).2]
    rfl

-- What is written for a signed manifest is read as that signed manifest.
theorem signed_read_back {floats : Floats} (signed : Signed rules) (plain : hasJsonDump rules signed.val.manifest = true)
    (represented : Represented floats ((manifest conversions rules).dump signed.val.manifest)) :
    ∃ text, signedText conversions rules signed = some text ∧
      loads floats text = some ((signedManifest conversions rules).dump signed) ∧
      (crypto ed jcs conversions rules).validateSigned ((signedManifest conversions rules).dump signed) = some signed.val := by
  have fits : (signedManifest conversions rules).plain signed = true := by
    show ((manifest conversions rules).plain signed.val.manifest && signatureBlock.plain signed.block &&
      optionalStr.plain signed.val.publicKey) = true
    rw [manifest_plain,plain,optionalStr_plain]
    rfl
  have whole := signedManifest_represented conversions rules signed represented
  have json := ((signedManifest conversions rules).json signed).trans fits
  have back := loads_dumpsIndented floats _ (isJson_plain _ json whole.genuine)
  rw [whole.distinct] at back
  obtain ⟨text,written,read⟩ := Option.bind_eq_some_iff.mp back
  refine ⟨text,written,read,?_⟩
  simp only [crypto,(signedManifest conversions rules).reads signed fits,Option.map_some]

def keyUsable (signed : SignedManifest (Manifest rules)) (publicKey : Option PublicKey) : Bool :=
  match publicKey with
  | some _ => true
  | none => (signed.publicKey.bind (loadPublicKeyFromBase64 (crypto ed jcs conversions rules))).isSome

-- 64 bytes in base64, with a scalar below the group order.
def signatureWellFormed (block : SignatureBlock) : Bool :=
  match b64decode block.signature with
  | .error _ => false
  | .ok raw => decide (raw.length = 64) && decide (fromBytesLittle (raw.drop 32) < ed25519Order)

theorem verifyingKey_usable (signed : SignedManifest (Manifest rules)) (publicKey : Option PublicKey) :
    (∃ key, verifyingKey (crypto ed jcs conversions rules) signed publicKey = .ok key ∧
      keyUsable ed jcs conversions rules signed publicKey = true) ∨
    (∃ error, verifyingKey (crypto ed jcs conversions rules) signed publicKey = .error (.signature error) ∧
      keyUsable ed jcs conversions rules signed publicKey = false) := by
  cases publicKey with
  | some key => exact .inl ⟨key,rfl,rfl⟩
  | none =>
    cases embedded : signed.publicKey with
    | none => exact .inr ⟨.noPublicKey,by simp [verifyingKey,embedded],by simp [keyUsable,embedded]⟩
    | some text =>
      by_cases empty : text = ""
      · refine .inr ⟨.noPublicKey,by simp [verifyingKey,embedded,empty],?_⟩
        simp [keyUsable,embedded,empty,loadPublicKeyFromBase64,b64decode,a2bBase64]
      · cases loaded : loadPublicKeyFromBase64 (crypto ed jcs conversions rules) text with
        | none => exact .inr ⟨.invalidPublicKey,by simp [verifyingKey,embedded,empty,loaded],by simp [keyUsable,embedded,loaded]⟩
        | some key => exact .inl ⟨key,by simp [verifyingKey,embedded,empty,loaded],by simp [keyUsable,embedded,loaded]⟩

-- An accepted block's text is ASCII, so `b64decode` raises nothing but a `binascii.Error`.
theorem b64decode_accepted {block : SignatureBlock} (accepted : blockAccepted block = true) : b64decode block.signature ≠ .error .notAscii := by
  have ascii := matchesBase64_ascii (Bool.and_eq_true_iff.mp accepted).2
  rw [b64decode,if_pos ascii]
  split <;> simp

theorem verifySignature_settles (signed : Signed rules) (key : PublicKey) (defined : ∀ value, (jcs value).isSome = isJson value) :
    verifySignature (crypto ed jcs conversions rules) signed.val key ≠ .error .other ↔
      hasJsonDump rules signed.val.manifest = true ∨ signatureWellFormed signed.val.signature = false := by
  have canonical : (canonicalize jcs conversions rules signed.val.manifest).isSome = hasJsonDump rules signed.val.manifest := by
    rw [canonicalize,defined,without_json]
  have ascii := b64decode_accepted signed.block.property
  unfold verifySignature signatureWellFormed
  cases decoded : b64decode signed.val.signature.signature with
  | error error =>
    cases error with
    | notAscii => exact absurd decoded ascii
    | binascii => simp
  | ok raw =>
    by_cases length : raw.length = 64
    · by_cases scalar : fromBytesLittle (raw.drop 32) < ed25519Order
      · cases bytes : canonicalize jcs conversions rules signed.val.manifest with
        | none =>
          rw [bytes] at canonical
          simp [length,scalar,Nat.not_le.mpr scalar,crypto,bytes,← canonical]
        | some payload =>
          rw [bytes] at canonical
          simp only [length,ne_eq,not_true_eq_false,if_false,Nat.not_le.mpr scalar,crypto,bytes,← canonical,Option.isSome_some,true_or,
            iff_true]
          by_cases verified : ed.verify key raw payload = true <;> simp [verified]
      · simp [length,scalar,Nat.not_lt.mp scalar]
    · simp [length]

theorem verifyManifest_settles (signed : Signed rules) (publicKey : Option PublicKey)
    (defined : ∀ value, (jcs value).isSome = isJson value) :
    Settles ed jcs conversions rules signed.val publicKey ↔ hasJsonDump rules signed.val.manifest = true ∨
      keyUsable ed jcs conversions rules signed.val publicKey = false ∨ signatureWellFormed signed.val.signature = false := by
  have algorithm : signed.val.signature.alg = "ed25519" :=
    of_decide_eq_true (Bool.and_eq_true_iff.mp signed.block.property).1
  rcases verifyingKey_usable ed jcs conversions rules signed.val publicKey with ⟨key,found,usable⟩ | ⟨error,failed,unusable⟩
  · have rest := verifySignature_settles ed jcs conversions rules signed key defined
    simp only [Settles,verifyManifest,algorithm,ne_eq,not_true_eq_false,if_false,found,usable,Bool.true_eq_false,false_or] at rest ⊢
    exact rest
  · simp [Settles,verifyManifest,algorithm,failed,unusable]

-- The round trip is made by the manifests with a JSON dump, and by these alone: any other is
-- refused by `jcs`, which is a TypeError or a ValueError.
theorem manifest_round_trip (floats : Floats) (sound : ed.Sound) (defined : ∀ value, (jcs value).isSome = isJson value) :
    (∀ (m : Manifest rules) (key : PrivateKey), Represented floats ((manifest conversions rules).dump m) →
      (RoundTrip ed jcs conversions rules floats m key ↔ hasJsonDump rules m = true)) ∧
    ∀ (signed : Signed rules) (publicKey : Option PublicKey),
      Settles ed jcs conversions rules signed.val publicKey ↔ hasJsonDump rules signed.val.manifest = true ∨
        keyUsable ed jcs conversions rules signed.val publicKey = false ∨ signatureWellFormed signed.val.signature = false := by
  refine ⟨?_,fun signed publicKey => verifyManifest_settles ed jcs conversions rules signed publicKey defined⟩
  intro m key represented
  constructor
  · rintro ⟨signed,_,_,_,made,_⟩
    cases plain : hasJsonDump rules m with
    | true => rfl
    | false =>
      rw [signManifest_other defined plain] at made
      cases made
  · intro plain
    obtain ⟨signed,payload,made,bytes,same⟩ := signManifest_plain sound defined plain key
    have kept : signed.val.manifest = m := by rw [same]
    obtain ⟨text,written,read,validated⟩ := signed_read_back ed jcs conversions rules signed (by rw [kept,plain]) (by rwa [kept])
    exact ⟨signed,text,_,signed.val,made,written,read,validated,
      verifyManifest_signed sound key bytes same none (.inl rfl),verifyManifest_signed sound key bytes same _ (.inr rfl)⟩

end Signing

-- A manifest of ASCII texts, and the signature of its canonical bytes under one key.
def workshopRules : Rules where
  decimal := Char.isDigit
  version v := decide (v = "1.0.0")

def noConversions : Conversions := ⟨fun _ => none,fun _ => none,fun _ => none,fun _ => none⟩

def workshop : Manifest workshopRules where
  id := "urn:asap:agent:workshop"
  name := "Workshop"
  version := "1.0.0"
  description := "Repairs"
  capabilities := {skills := [{id := "repair",description := "Repair"}]}
  endpoints := {asap := "https://workshop.example/asap"}
  accepted := by decide +kernel

def asciiBytes (text : String) : List UInt8 := text.toList.map (fun c => UInt8.ofNat c.toNat)

def workshopSignature : List UInt8 :=
  [69,26,217,122,90,0,148,50,123,216,159,176,48,231,129,102,12,7,44,153,100,197,116,157,182,180,198,247,218,171,36,171,
   116,57,153,18,112,5,167,98,196,139,147,163,142,6,254,249,249,8,229,173,18,71,43,120,148,16,210,171,55,144,220,5]

def workshopKey : List UInt8 :=
  [215,90,152,1,130,177,10,183,213,75,254,211,201,100,7,58,14,225,114,243,218,166,35,37,175,2,26,104,247,7,81,26]

-- One key, which signs nothing but the canonical bytes of the manifest.
def workshopEd : Ed25519 Unit Unit where
  sign _ _ := workshopSignature
  publicKey _ := ()
  publicBytes _ := workshopKey
  fromPublicBytes raw := if raw = workshopKey then some () else none
  verify _ raw _ := decide (raw = workshopSignature)

theorem workshopEd_sound : workshopEd.Sound where
  length _ _ := rfl
  scalar _ _ := show fromBytesLittle (workshopSignature.drop 32) < ed25519Order by decide +kernel
  verifies _ _ := show decide (workshopSignature = workshopSignature) = true from decide_eq_true rfl
  keyLength _ := rfl
  keyBytes _ := show (if workshopKey = workshopKey then some () else none) = some () from if_pos rfl

def workshopJcs (value : Value) : Option (List UInt8) :=
  if isJson value then some (asciiBytes ((dumps compact value).getD "")) else none

theorem workshopJcs_defined (value : Value) : (workshopJcs value).isSome = isJson value := by
  cases json : isJson value <;> simp [workshopJcs,json]

theorem workshop_represented : Represented integersOnly ((manifest noConversions workshopRules).dump workshop) := by
  constructor
  · repeat' first | exact trivial | apply And.intro
  · rfl

theorem manifest_round_trip_workshop :
    RoundTrip workshopEd workshopJcs noConversions workshopRules integersOnly workshop () :=
  ((manifest_round_trip workshopEd workshopJcs noConversions workshopRules integersOnly workshopEd_sound
    workshopJcs_defined).1 workshop () workshop_represented).mpr (by decide +kernel)

-- The same manifest with the time at which it was verified.
theorem verifiedAt_date : 1 ≤ 2026 ∧ 2026 ≤ 9999 ∧ 1 ≤ 3 ∧ 3 ≤ 12 ∧ 1 ≤ 1 ∧ 1 ≤ daysInMonth 2026 3 := by decide
theorem verifiedAt_time : 12 < 24 ∧ 0 < 60 ∧ 0 < 60 ∧ 0 < 1000000 := by decide
theorem verifiedAt_offset : ∀ delta ∈ some (0 : Int), -86400000000 < delta ∧ delta < 86400000000 := by decide

def verifiedAt : DateTime := ⟨2026,3,1,12,0,0,0,some 0,verifiedAt_date,verifiedAt_time,verifiedAt_offset⟩

def verifiedWorkshop : Manifest workshopRules :=
  {workshop with verification := some {status := .verified,verifiedAt := some verifiedAt}}

def signedWorkshop : Signed workshopRules :=
  ⟨⟨verifiedWorkshop,⟨"ed25519",b64encode workshopSignature,.selfSigned⟩,none⟩,by decide +kernel⟩

theorem verifiedWorkshop_represented : Represented integersOnly ((manifest noConversions workshopRules).dump verifiedWorkshop) := by
  constructor
  · repeat' first | exact trivial | apply And.intro
  · rfl

-- It is not signed, and verification raises what is no SignatureVerificationError.
theorem verified_manifest_refused : workshopEd.Sound ∧ (∀ value, (workshopJcs value).isSome = isJson value) ∧
    Represented integersOnly ((manifest noConversions workshopRules).dump verifiedWorkshop) ∧
    ¬RoundTrip workshopEd workshopJcs noConversions workshopRules integersOnly verifiedWorkshop () ∧
    ¬Settles workshopEd workshopJcs noConversions workshopRules signedWorkshop.val (some ()) := by
  refine ⟨workshopEd_sound,workshopJcs_defined,verifiedWorkshop_represented,?_,?_⟩
  · rintro ⟨signed,_,_,_,made,_⟩
    rw [signManifest_other workshopJcs_defined (by decide +kernel)] at made
    cases made
  · rw [verifyManifest_settles _ _ _ _ _ _ workshopJcs_defined]
    decide +kernel

end Asap.ManifestRoundTrip
