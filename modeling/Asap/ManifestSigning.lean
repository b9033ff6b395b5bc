import Asap.PythonValue

-- `asap.crypto`: keys and manifests with an Ed25519 signature.
namespace Asap.ManifestSigning
open PythonValue

def base64Value (c : Char) : Option Nat :=
  if 'A' ≤ c ∧ c ≤ 'Z' then some (c.toNat - 'A'.toNat)
  else if 'a' ≤ c ∧ c ≤ 'z' then some (c.toNat - 'a'.toNat + 26)
  else if '0' ≤ c ∧ c ≤ '9' then some (c.toNat - '0'.toNat + 52)
  else if c = '+' then some 62
  else if c = '/' then some 63
  else none

-- `binascii.a2b_base64` outside of its strict mode: `quad` characters of a group of four are
-- read, `left` holds the bits of the last one that are still to be written. Other characters
-- are skipped, and the padding of a group ends the text.
def a2bBase64 : Nat → Nat → Nat → List Char → Option (List UInt8)
  | quad,_,_,[] => if quad = 0 then some [] else none
  | quad,left,pads,c :: rest =>
    if c = '=' then
      if 2 ≤ quad then
        if 4 ≤ quad + (pads + 1) then some [] else a2bBase64 quad left (pads + 1) rest
      else a2bBase64 quad left pads rest
    else match base64Value c with
      | none => a2bBase64 quad left pads rest
      | some value =>
        match quad with
        | 0 => a2bBase64 1 value 0 rest
        | 1 => (a2bBase64 2 (value % 16) 0 rest).map (UInt8.ofNat (left * 4 + value / 16) :: ·)
        | 2 => (a2bBase64 3 (value % 4) 0 rest).map (UInt8.ofNat (left * 16 + value / 4) :: ·)
        | _ => (a2bBase64 0 0 0 rest).map (UInt8.ofNat (left * 64 + value) :: ·)

inductive Base64Error where
  | notAscii
  | binascii
  deriving DecidableEq

def b64decode (text : String) : Except Base64Error (List UInt8) :=
  if text.toList.all (fun c => c.toNat < 128) then
    match a2bBase64 0 0 0 text.toList with
    | some bytes => .ok bytes
    | none => .error .binascii
  else .error .notAscii

example : b64decode "AQAA/w==" = .ok [1,0,0,255] ∧ b64decode "AQAA/" = .error .binascii := by decide +kernel

def base64Char (value : Nat) : Char :=
  if value < 26 then Char.ofNat (65 + value)
  else if value < 52 then Char.ofNat (71 + value)
  else if value < 62 then Char.ofNat (value - 4)
  else if value = 62 then '+'
  else '/'

def b2aBase64 : List UInt8 → List Char
  | [] => []
  | [a] => [base64Char (a.toNat / 4),base64Char (a.toNat % 4 * 16),'=','=']
  | [a,b] => [base64Char (a.toNat / 4),base64Char (a.toNat % 4 * 16 + b.toNat / 16),base64Char (b.toNat % 16 * 4),'=']
  | a :: b :: d :: rest =>
    base64Char (a.toNat / 4) :: base64Char (a.toNat % 4 * 16 + b.toNat / 16) ::
      base64Char (b.toNat % 16 * 4 + d.toNat / 64) :: base64Char (d.toNat % 64) :: b2aBase64 rest

-- `b64encode(raw).decode("ascii")`
def b64encode (raw : List UInt8) : String := String.ofList (b2aBase64 raw)

inductive TrustLevel where
  | selfSigned
  | verified
  | enterprise
  deriving DecidableEq

structure SignatureBlock where
  alg : String
  signature : String
  trustLevel : TrustLevel := .selfSigned
  deriving DecidableEq

structure SignedManifest (Manifest : Type) where
  manifest : Manifest
  signature : SignatureBlock
  publicKey : Option String := none
  deriving DecidableEq

-- What comes from `pydantic`, `jcs` and `cryptography`. `none` is an exception.
structure Crypto (Manifest PublicKey : Type) where
  validateManifest : Value → Option Manifest
  validateSigned : Value → Option (SignedManifest Manifest)
  canonicalize : Manifest → Option (List UInt8)
  fromPublicBytes : List UInt8 → Option PublicKey
  verify : PublicKey → List UInt8 → List UInt8 → Bool

inductive SignatureError where
  | unsupportedAlgorithm (alg : String)
  | noPublicKey
  | invalidPublicKey
  | signatureEncoding
  | signatureLength (length : Nat)
  | malleable
  | tampered
  | noTrustedKey
  deriving DecidableEq

def ed25519Order : Nat := 2 ^ 252 + 27742317777372353535851937790883648493

-- `int.from_bytes(bytes, "little")`
def fromBytesLittle (bytes : List UInt8) : Nat := bytes.foldr (fun byte value => byte.toNat + 256 * value) 0

section Verify
variable {Manifest PublicKey : Type} (crypto : Crypto Manifest PublicKey)

-- `none` is a ValueError, of the text, of its length or of the point.
def loadPublicKeyFromBase64 (b64 : String) : Option PublicKey :=
  match b64decode b64 with
  | .error _ => none
  | .ok raw => if raw.length = 32 then crypto.fromPublicBytes raw else none

-- `other` is an exception that is no SignatureVerificationError.
inductive VerifyError where
  | signature (error : SignatureError)
  | other
  deriving DecidableEq

def verifyingKey (signed : SignedManifest Manifest) (publicKey : Option PublicKey) : Except VerifyError PublicKey :=
  match publicKey with
  | some key => .ok key
  | none =>
    match signed.publicKey with
    | none => .error (.signature .noPublicKey)
    | some text =>
      if text = "" then .error (.signature .noPublicKey)
      else match loadPublicKeyFromBase64 crypto text with
        | none => .error (.signature .invalidPublicKey)
        | some key => .ok key

def verifySignature (signed : SignedManifest Manifest) (key : PublicKey) : Except VerifyError Unit :=
  match b64decode signed.signature.signature with
  | .error .binascii => .error (.signature .signatureEncoding)
  | .error .notAscii => .error .other
  | .ok raw =>
    if raw.length ≠ 64 then .error (.signature (.signatureLength raw.length))
    else if ed25519Order ≤ fromBytesLittle (raw.drop 32) then .error (.signature .malleable)
    else match crypto.canonicalize signed.manifest with
      | none => .error .other
      | some payload => if crypto.verify key raw payload then .ok () else .error (.signature .tampered)

def verifyManifest (signed : SignedManifest Manifest) (publicKey : Option PublicKey) : Except VerifyError Unit :=
  if signed.signature.alg ≠ "ed25519" then .error (.signature (.unsupportedAlgorithm signed.signature.alg))
  else match verifyingKey crypto signed publicKey with
    | .error error => .error error
    | .ok key => verifySignature crypto signed key

-- The signature block is an Ed25519 signature of the manifest's canonical bytes under the key,
-- with a scalar below the group order.
structure Genuine (signed : SignedManifest Manifest) (key : PublicKey) : Prop where
  algorithm : signed.signature.alg = "ed25519"
  signed : ∃ raw payload, b64decode signed.signature.signature = .ok raw ∧ raw.length = 64 ∧
    fromBytesLittle (raw.drop 32) < ed25519Order ∧ crypto.canonicalize signed.manifest = some payload ∧
    crypto.verify key raw payload = true

theorem verifySignature_ok_iff (signed : SignedManifest Manifest) (key : PublicKey) : verifySignature crypto signed key = .ok () ↔
    ∃ raw payload, b64decode signed.signature.signature = .ok raw ∧ raw.length = 64 ∧
      fromBytesLittle (raw.drop 32) < ed25519Order ∧ crypto.canonicalize signed.manifest = some payload ∧
      crypto.verify key raw payload = true := by
  constructor
  · intro verified
    unfold verifySignature at verified
    split at verified
    · cases verified
    · cases verified
    · rename_i raw decoded
      split at verified
      · cases verified
      · rename_i length
        split at verified
        · cases verified
        · rename_i scalar
          split at verified
          · cases verified
          · rename_i payload canonical
            split at verified
            · rename_i accepted
              exact ⟨raw,payload,decoded,not_not.mp length,Nat.lt_of_not_le scalar,canonical,accepted⟩
            · cases verified
  · rintro ⟨raw,payload,decoded,length,scalar,canonical,accepted⟩
    simp [verifySignature,decoded,length,Nat.not_le.mpr scalar,canonical,accepted]

theorem verifyManifest_genuine (signed : SignedManifest Manifest) (key : PublicKey) :
    verifyManifest crypto signed (some key) = .ok () ↔ Genuine crypto signed key := by
  unfold verifyManifest
  split
  · rename_i different
    exact ⟨(fun impossible => by cases impossible),(fun genuine => absurd genuine.algorithm different)⟩
  · rename_i algorithm
    simp only [verifyingKey,verifySignature_ok_iff]
    exact ⟨fun signed => ⟨not_not.mp algorithm,signed⟩,fun genuine => genuine.signed⟩
end Verify

end Asap.ManifestSigning
