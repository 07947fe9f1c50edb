import OpenWorkProof.Foundation.Base64
import OpenWorkProof.Signing.Snapshot
/-!
# Signed payloads

`canonical_bytes`, `sign_payload` and `verify_payload`: the domains of each protocol version, the
payload without its digest and signature, and the bytes under both that are signed. A document that
is passed on is traversed as the value it is, each of its containers an object of its own.
-/

namespace OpenWorkProof.Signing

/-! ## Domains -/

/-- `ALLOWED_CANONICAL_DOMAINS`. -/
def allowedCanonicalDomains : List String :=
  ["work-order", "capability-grant", "action-receipt", "acceptance-receipt",
    "acceptance-rejection-receipt", "acceptance-decision-binding", "acceptance-transition",
    "agent-request", "human-decision", "sidecar-event", "manifest", "subject-claim",
    "verification-profile", "verification-arm-result", "verification-decision", "scope-member",
    "scope-requirement", "scope-population", "evaluation-scope", "human-agency-profile",
    "agency-profile-transition", "agency-appeal", "handler-agency-binding",
    "dsh-observation-record"]

/-- `_UNSIGNED_ONLY_DOMAINS`. -/
def unsignedOnlyDomains : List String :=
  ["sidecar-event", "verification-decision", "scope-member", "scope-requirement",
    "scope-population", "evaluation-scope"]

/-- `ALLOWED_SIGNED_DOMAINS`. -/
def allowedSignedDomains : List String :=
  allowedCanonicalDomains.filter fun domain => !unsignedOnlyDomains.contains domain

/-- `_V01_CANONICAL_DOMAINS`. -/
def v01CanonicalDomains : List String :=
  allowedCanonicalDomains.filter fun domain =>
    !(["scope-member", "scope-requirement", "scope-population", "evaluation-scope"] :
      List String).contains domain

/-- `_V03_CANONICAL_DOMAINS`. -/
def v03CanonicalDomains : List String :=
  ["scope-member", "scope-requirement", "scope-population", "evaluation-scope",
    "verification-profile", "verification-arm-result", "verification-decision"]

/-- `_V03_SIGNED_DOMAINS`. -/
def v03SignedDomains : List String :=
  ["evaluation-scope", "verification-profile", "verification-arm-result"]

/-- `_V04_CANONICAL_DOMAINS`. -/
def v04CanonicalDomains : List String :=
  ["action-binding-manifest", "action-receipt", "agent-request", "authority-checkpoint",
    "binding-decision", "judgment-commitment"]

/-- `_V04_SIGNED_DOMAINS`. -/
def v04SignedDomains : List String :=
  ["action-binding-manifest", "action-receipt", "agent-request", "binding-decision",
    "judgment-commitment"]

/-- `_V05_CANONICAL_DOMAINS`. -/
def v05CanonicalDomains : List String :=
  ["verification-profile", "verification-arm-result", "verification-decision",
    "retraction-receipt"]

/-- `_V05_SIGNED_DOMAINS`. -/
def v05SignedDomains : List String :=
  ["verification-profile", "verification-arm-result", "retraction-receipt"]

/-- `_canonical_domains_for_version`. -/
def canonicalDomainsForVersion (version : String) : Except ValueError (List String) :=
  if version = "0.1" then .ok v01CanonicalDomains
  else if version = "0.3" then .ok v03CanonicalDomains
  else if version = "0.4" then .ok v04CanonicalDomains
  else if version = "0.5" then .ok v05CanonicalDomains
  else .error ⟨"unknown protocol version"⟩

/-- `_signed_domains_for_version`. -/
def signedDomainsForVersion (version : String) : Except ValueError (List String) :=
  if version = "0.1" then .ok allowedSignedDomains
  else if version = "0.3" then .ok v03SignedDomains
  else if version = "0.4" then .ok v04SignedDomains
  else if version = "0.5" then .ok v05SignedDomains
  else .error ⟨"unknown protocol version"⟩

/-! ## Documents as values -/

/-- A value of a document, its containers known by the indices that lead to them from the outermost
one, the last first. -/
def valueAt (path : List Nat) : Json → PyValue (List Nat)
  | .null => .none
  | .bool value => .bool value
  | .int value => .int value
  | .str value => .str value
  | .other => .other
  | .arr _ | .obj _ => .ref path

def child? (document : Json) (i : Nat) : Option Json :=
  match document with
  | .arr items => items[i]?
  | .obj fields => fields[i]?.map (·.2)
  | _ => none

/-- The part of a document at some indices. -/
def find? (document : Json) : List Nat → Option Json
  | [] => some document
  | i :: path => (find? document path).bind (child? · i)

def itemValues (path : List Nat) : Nat → List Json → List (PyValue (List Nat))
  | _, [] => []
  | i, item :: items => valueAt (i :: path) item :: itemValues path (i + 1) items

def fieldValues (path : List Nat) : Nat → List (String × Json) → List (String × PyValue (List Nat))
  | _, [] => []
  | i, (key, item) :: fields => (key, valueAt (i :: path) item) :: fieldValues path (i + 1) fields

/-- The containers of a document. -/
def objects (document : Json) (path : List Nat) : PyObject (List Nat) :=
  match find? document path with
  | some (.arr items) => .sequence (itemValues path 0 items)
  | some (.obj fields) =>
    .mapping ((fieldValues path 0 fields).map fun (key, value) => .pair (.str key) value) false
  | _ => .untraversable 0

/-! ## Signing -/

/-- `Ed25519PrivateKey` and `Ed25519PublicKey`, `hashlib.sha256(…).hexdigest()`, and `rfc8785.dumps`
where it does not raise. -/
structure Crypto (Key PublicKey : Type) where
  publicKey : Key → PublicKey
  publicBytes : PublicKey → Octets
  sign : Key → Octets → Octets
  verify : PublicKey → Octets → Octets → Bool
  sha256Hex : Octets → String
  dumps : Json → Option Octets

section Payload

variable {ι : Type} [DecidableEq ι]

/-- `isinstance(value, Mapping)`. -/
def isMapping (heap : ι → PyObject ι) : PyValue ι → Bool
  | .ref id =>
    match heap id with
    | .mapping _ _ => true
    | _ => false
  | _ => false

/-- `unsigned_payload`: the fields of the snapshot. -/
def unsignedPayload (heap : ι → PyObject ι) (value : PyValue ι) :
    Except ValueError (List (String × Json)) :=
  if !isMapping heap value then .error ⟨"signed payload must be a mapping"⟩
  else do
    match ← snapshotJson heap ["digest", "signature"] value with
    | .obj fields => .ok fields
    | _ => .error ⟨"signed payload snapshot must be an object"⟩

variable {Key PublicKey : Type} (crypto : Crypto Key PublicKey)

/-- The domain and the payload under it. -/
def canonicalInput (objectType version : String) (payload : List (String × Json)) : Json :=
  .obj [("domain", .str ("openworkproof/" ++ objectType ++ "/v" ++ version)),
    ("payload", .obj payload)]

/-- `canonical_bytes`. -/
def canonicalBytes (objectType : String) (heap : ι → PyObject ι) (payload : PyValue ι)
    (version : String) : Except ValueError Octets := do
  let allowedDomains ← canonicalDomainsForVersion version
  if !allowedDomains.contains objectType then .error ⟨"unknown canonical domain"⟩
  else
    let payload ← unsignedPayload heap payload
    match crypto.dumps (canonicalInput objectType version payload) with
    | some encoded => .ok encoded
    | none => .error ⟨"payload is not canonicalizable JCS"⟩

/-- `key_id`. -/
def keyId (key : PublicKey) : String := "ed25519:" ++ crypto.sha256Hex (crypto.publicBytes key)

/-- `_encode_base64url`. -/
def encodeBase64url (raw : Octets) : String := String.ofList (Base64.strip (Base64.encode raw))

/-- `_BASE64URL_NO_PAD`. -/
def isBase64urlNoPad (text : Text) : Bool :=
  !text.isEmpty && text.all fun c => c.isAlphanum || c = '_' || c = '-'

/-- `_decode_base64url`. -/
def decodeBase64url (value : Option Json) (expectedLength : Nat) : Except ValueError Octets :=
  match value with
  | some (.str value) =>
    if !isBase64urlNoPad value.toList || value.toList.contains '=' then
      .error ⟨"value is not unpadded base64url"⟩
    else
      match Base64.decode (value.toList ++ Base64.padding value.toList) with
      | none => .error ⟨"value is not valid base64url"⟩
      | some raw =>
        if raw.length ≠ expectedLength ∨ encodeBase64url raw ≠ value then
          .error ⟨"base64url value has the wrong length or encoding"⟩
        else .ok raw
  | _ => .error ⟨"value is not unpadded base64url"⟩

/-- The snapshot of a document in the code's own hands. -/
def snapshotObject (fields : List (String × Json)) (message : String) :
    Except ValueError (List (String × Json)) := do
  match ← snapshotJson (objects (.obj fields)) [] (.ref []) with
  | .obj fields => .ok fields
  | _ => .error ⟨message⟩

/-- `sign_payload`. -/
def signPayload (objectType : String) (heap : ι → PyObject ι) (payload : PyValue ι) (key : Key)
    (version : String) : Except ValueError (List (String × Json)) := do
  let allowedDomains ← signedDomainsForVersion version
  if !allowedDomains.contains objectType then .error ⟨"object type cannot be signed"⟩
  else
    let result ← unsignedPayload heap payload
    let result := setEntry "signature_alg" (.str "Ed25519") result
    let result := setEntry "signer_key_id" (.str (keyId crypto (crypto.publicKey key))) result
    let encoded ← canonicalBytes crypto objectType (objects (.obj result)) (.ref []) version
    let result := setEntry "digest" (.str (crypto.sha256Hex encoded)) result
    let result := setEntry "signature" (.str (encodeBase64url (crypto.sign key encoded))) result
    snapshotObject result "signed payload snapshot must be an object"

/-- Whether a looked up field is a text. -/
def isText (text : String) : Option Json → Bool
  | some (.str held) => held = text
  | _ => false

/-- What `verify_payload` does inside its `try`. -/
def verifySnapshot (objectType : String) (heap : ι → PyObject ι) (signed : PyValue ι)
    (key : PublicKey) (version : String) : Except ValueError Bool := do
  match ← snapshotJson heap [] signed with
  | .obj snapshot =>
    if !isText "Ed25519" (snapshot.lookup "signature_alg") ||
        !isText (keyId crypto key) (snapshot.lookup "signer_key_id") then .ok false
    else
      let encoded ← canonicalBytes crypto objectType (objects (.obj snapshot)) (.ref []) version
      if !isText (crypto.sha256Hex encoded) (snapshot.lookup "digest") then .ok false
      else
        let signature ← decodeBase64url (snapshot.lookup "signature") 64
        .ok (crypto.verify key signature encoded)
  | _ => .ok false

/-- `verify_payload`. -/
def verifyPayload (objectType : String) (heap : ι → PyObject ι) (signed : PyValue ι)
    (key : PublicKey) (version : String) : Bool :=
  match signedDomainsForVersion version with
  | .error _ => false
  | .ok allowedDomains =>
    if !allowedDomains.contains objectType || !isMapping heap signed then false
    else
      match verifySnapshot crypto objectType heap signed key version with
      | .ok verified => verified
      | .error _ => false

end Payload

end OpenWorkProof.Signing
