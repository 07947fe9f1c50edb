import OpenWorkProof.Signing.Documents
/-!
# What is signed is verified, and only as what it was signed

The bytes under a signature fix the object type, the version and the unsigned content: the domain
names the first two, a version always being three characters long, and the content follows it. What
is signed passes the same snapshots when it is verified, because the last step of signing has taken
the snapshot that verifying starts with.
-/

namespace OpenWorkProof.Signing

/-! ## Fields -/

section Fields

variable {α : Type} {key other : String} {value : α} {entries : List (String × α)}

theorem lookup_setEntry_self : (setEntry key value entries).lookup key = some value := by
  induction entries with
  | nil => rw [setEntry, List.lookup_cons_self]
  | cons entry entries ih =>
    rw [setEntry]
    split
    · next same => rw [← same, List.lookup_cons_self]
    · next different =>
      rw [List.lookup_cons, ih, beq_false_of_ne (Ne.symm different)]

theorem lookup_setEntry_ne (different : other ≠ key) :
    (setEntry key value entries).lookup other = entries.lookup other := by
  induction entries with
  | nil =>
    rw [setEntry, List.lookup_cons, beq_false_of_ne different]
  | cons entry entries ih =>
    rw [setEntry]
    split
    · next same =>
      rw [List.lookup_cons, List.lookup_cons, same, beq_false_of_ne different]
    · rw [List.lookup_cons, List.lookup_cons, ih]

theorem mem_keys_setEntry {name : String} (h : name ∈ (setEntry key value entries).map (·.1)) :
    name = key ∨ name ∈ entries.map (·.1) := by
  induction entries with
  | nil => exact .inl (List.mem_singleton.mp h)
  | cons entry entries ih =>
    rw [setEntry] at h
    split at h
    · exact .inr h
    · rw [List.map_cons, List.mem_cons] at h ⊢
      rcases h with here | later
      · exact .inr (.inl here)
      · rcases ih later with same | inside
        · exact .inl same
        · exact .inr (.inr inside)

theorem nodup_setEntry (distinct : (entries.map (·.1)).Nodup) :
    ((setEntry key value entries).map (·.1)).Nodup := by
  induction entries with
  | nil => exact List.nodup_singleton key
  | cons entry entries ih =>
    rw [setEntry]
    split
    · exact distinct
    · next different =>
      rw [List.map_cons, List.nodup_cons] at distinct ⊢
      refine ⟨fun member => ?_, ih distinct.2⟩
      rcases mem_keys_setEntry member with same | inside
      · exact different same
      · exact distinct.1 inside

theorem treeFields_setText {text : String} {fields : List (String × Json)}
    (h : TreeFields fields) : TreeFields (setEntry key (.str text) fields) := by
  induction fields with
  | nil => exact ⟨trivial, trivial⟩
  | cons field fields ih =>
    rw [setEntry]
    split
    · exact ⟨trivial, h.2⟩
    · exact ⟨h.1, ih h.2⟩

theorem tree_setText {text : String} {fields : List (String × Json)} (h : Tree (.obj fields)) :
    Tree (.obj (setEntry key (.str text) fields)) :=
  ⟨nodup_setEntry h.1, treeFields_setText h.2⟩

/-- A digest and a signature are added to what has none. -/
theorem setEntry_signed {content : List (String × Json)}
    (unsigned : ∀ name ∈ content.map (·.1), name ∉ ["digest", "signature"]) (digest signature : Json) :
    setEntry "signature" signature (setEntry "digest" digest content) =
      content ++ [("digest", digest), ("signature", signature)] := by
  have fresh : "digest" ∉ content.map (·.1) := fun member => unsigned _ member (by decide)
  have fresh' : "signature" ∉ (content ++ [("digest", digest)]).map (·.1) := by
    rw [List.map_append, List.mem_append]
    rintro (member | member)
    · exact unsigned _ member (by decide)
    · have same : "signature" = "digest" := List.mem_singleton.mp member
      exact absurd same (by decide)
  rw [setEntry_of_fresh fresh, setEntry_of_fresh fresh', List.append_assoc]
  rfl

end Fields

/-! ## The same JSON -/

/-- The same value, whatever the order of the fields. -/
inductive Same : Json → Json → Prop
  | null : Same .null .null
  | bool (value : Bool) : Same (.bool value) (.bool value)
  | int (value : Int) : Same (.int value) (.int value)
  | str (value : String) : Same (.str value) (.str value)
  | arr {items items' : List Json} : List.Forall₂ Same items items' → Same (.arr items) (.arr items')
  | obj {fields fields' : List (String × Json)} :
      (fields.map (·.1)).Perm (fields'.map (·.1)) →
      (∀ key item item', (key, item) ∈ fields → (key, item') ∈ fields' → Same item item') →
      Same (.obj fields) (.obj fields')

/-- An object is the same as itself if its fields are. -/
theorem Same.obj_self {fields : List (String × Json)} (distinct : (fields.map (·.1)).Nodup)
    (each : ∀ field ∈ fields, Same field.2 field.2) : Same (.obj fields) (.obj fields) := by
  refine .obj (.refl _) fun key item item' member member' => ?_
  have same := List.inj_on_of_nodup_map distinct member member' rfl
  cases same
  exact each _ member

/-- The laws of the libraries: a signature is 64 octets and verifies, and documents with the same
canonical form are the same JSON. -/
structure Crypto.Lawful {Key PublicKey : Type} (crypto : Crypto Key PublicKey) : Prop where
  sign_length : ∀ key message, (crypto.sign key message).length = 64
  verify_sign : ∀ key message,
    crypto.verify (crypto.publicKey key) (crypto.sign key message) message = true
  dumps_same : ∀ document document' encoded, crypto.dumps document = some encoded →
    crypto.dumps document' = some encoded → Same document document'

/-! ## Signatures as texts -/

theorem digit_allowed {n : Nat} (h : n < 64) :
    ((Base64.digit n).isAlphanum || Base64.digit n = '_' || Base64.digit n = '-') = true := by
  have each : ∀ n : Fin 64, ((Base64.digit n).isAlphanum || Base64.digit n = '_' ||
    Base64.digit n = '-') = true := by decide +kernel
  exact each ⟨n, h⟩

/-- What has been encoded is decoded again. -/
theorem decodeBase64url_encode {raw : Octets} (some_ : raw ≠ []) :
    decodeBase64url (some (.str (encodeBase64url raw))) raw.length = .ok raw := by
  obtain ⟨padded, digits⟩ := Base64.strip_encode raw
  have text : (encodeBase64url raw).toList = Base64.strip (Base64.encode raw) := by
    rw [encodeBase64url, String.toList_ofList]
  have allowed : isBase64urlNoPad (encodeBase64url raw).toList = true := by
    rw [isBase64urlNoPad, text, Bool.and_eq_true, List.all_eq_true]
    constructor
    · cases stripped : Base64.strip (Base64.encode raw) with
      | cons c rest => rfl
      | nil =>
        -- without digits there is nothing to decode
        rw [stripped] at padded
        have decoded := Base64.decode_encode raw
        rw [← padded] at decoded
        exact absurd (Option.some.inj decoded).symm some_
    · intro c member
      obtain ⟨n, small, rfl⟩ := digits c member
      exact digit_allowed small
  have unpadded : (encodeBase64url raw).toList.contains '=' = false := by
    rw [text, List.contains_eq_mem, decide_eq_false_iff_not]
    intro member
    obtain ⟨n, small, same⟩ := digits _ member
    exact Base64.digit_ne_pad small same.symm
  rw [decodeBase64url, allowed, unpadded, text, padded, Base64.decode_encode]
  simp

/-! ## The bytes -/

section Bytes

variable {Key PublicKey : Type} {crypto : Crypto Key PublicKey} {ι : Type} [DecidableEq ι]
  {heap : ι → PyObject ι} {payload : PyValue ι} {objectType version : String} {encoded : Octets}

theorem canonicalBytes_ok :
    canonicalBytes crypto objectType heap payload version = .ok encoded ↔
      (∃ domains, canonicalDomainsForVersion version = .ok domains ∧
        domains.contains objectType = true) ∧
      ∃ fields, unsignedPayload heap payload = .ok fields ∧
        crypto.dumps (canonicalInput objectType version fields) = some encoded := by
  rw [canonicalBytes, Replay.bind_eq_ok]
  constructor
  · rintro ⟨domains, known, h⟩
    split at h
    · cases h
    next allowed =>
    obtain ⟨fields, made, h⟩ := Replay.bind_eq_ok.mp h
    split at h
    · next found =>
      cases h
      exact ⟨⟨domains, known, by simpa using allowed⟩, fields, made, found⟩
    · cases h
  · rintro ⟨⟨domains, known, allowed⟩, fields, made, dumped⟩
    refine ⟨domains, known, ?_⟩
    rw [allowed, made]
    simp [dumped, bind, Except.bind]

theorem length_of_version {domains : List String}
    (h : canonicalDomainsForVersion version = .ok domains) : version.toList.length = 3 := by
  rw [canonicalDomainsForVersion] at h
  split at h
  · next same => rw [same]; rfl
  split at h
  · next same => rw [same]; rfl
  split at h
  · next same => rw [same]; rfl
  split at h
  · next same => rw [same]; rfl
  · cases h

/-- The domain names the object type and the version. -/
theorem domain_injective {objectType' version' : String} (size : version.toList.length = 3)
    (size' : version'.toList.length = 3)
    (h : "openworkproof/" ++ objectType ++ "/v" ++ version =
      "openworkproof/" ++ objectType' ++ "/v" ++ version') :
    objectType = objectType' ∧ version = version' := by
  have texts := congrArg String.toList h
  simp only [String.toList_append, List.append_assoc] at texts
  have rest := List.append_cancel_left texts
  rw [← List.append_assoc, ← List.append_assoc] at rest
  obtain ⟨front, back⟩ := List.append_inj' rest (by rw [size, size'])
  exact ⟨String.toList_injective (List.append_cancel_right front), String.toList_injective back⟩

/-- **The bytes say what they are of**: the object type, the version and the unsigned content. -/
theorem canonicalBytes_same (lawful : crypto.Lawful) {κ : Type} [DecidableEq κ]
    {heap' : κ → PyObject κ} {payload' : PyValue κ} {objectType' version' : String}
    (h : canonicalBytes crypto objectType heap payload version = .ok encoded)
    (h' : canonicalBytes crypto objectType' heap' payload' version' = .ok encoded) :
    objectType = objectType' ∧ version = version' ∧ ∃ fields fields',
      unsignedPayload heap payload = .ok fields ∧ unsignedPayload heap' payload' = .ok fields' ∧
      Same (.obj fields) (.obj fields') := by
  obtain ⟨⟨domains, known, -⟩, fields, made, dumped⟩ := canonicalBytes_ok.mp h
  obtain ⟨⟨domains', known', -⟩, fields', made', dumped'⟩ := canonicalBytes_ok.mp h'
  have same := lawful.dumps_same _ _ _ dumped dumped'
  rw [canonicalInput, canonicalInput] at same
  cases same with
  | obj keys each =>
    have domain := each "domain" _ _ List.mem_cons_self List.mem_cons_self
    have content := each "payload" _ _ (List.mem_cons_of_mem _ List.mem_cons_self)
      (List.mem_cons_of_mem _ List.mem_cons_self)
    have texts : "openworkproof/" ++ objectType ++ "/v" ++ version =
        "openworkproof/" ++ objectType' ++ "/v" ++ version' := by
      generalize "openworkproof/" ++ objectType ++ "/v" ++ version = text at domain
      generalize "openworkproof/" ++ objectType' ++ "/v" ++ version' = text' at domain
      cases domain
      rfl
    obtain ⟨types, versions⟩ := domain_injective (length_of_version known)
      (length_of_version known') texts
    exact ⟨types, versions, fields, fields', made, made', content⟩

/-! ## Signing -/

variable {key : Key}

/-- What is signed and what comes of it. -/
structure SignedFrom (crypto : Crypto Key PublicKey) (objectType version : String) (key : Key)
    (content result : List (String × Json)) (encoded : Octets) : Prop where
  allowed : ∃ domains, signedDomainsForVersion version = .ok domains ∧
    domains.contains objectType = true
  tree : Tree (.obj content)
  unsigned : ∀ name ∈ content.map (·.1), name ∉ ["digest", "signature"]
  alg : content.lookup "signature_alg" = some (.str "Ed25519")
  keyId : content.lookup "signer_key_id" = some (.str (keyId crypto (crypto.publicKey key)))
  bytes : canonicalBytes crypto objectType (objects (.obj content)) (.ref []) version = .ok encoded
  made : result = content ++ [("digest", .str (crypto.sha256Hex encoded)),
    ("signature", .str (encodeBase64url (crypto.sign key encoded)))]
  resultTree : Tree (.obj result)
  fits : Fits (.obj result)

theorem signedFrom_of_sign {result : List (String × Json)}
    (h : signPayload crypto objectType heap payload key version = .ok result) :
    ∃ content encoded, SignedFrom crypto objectType version key content result encoded := by
  rw [signPayload] at h
  obtain ⟨domains, known, h⟩ := Replay.bind_eq_ok.mp h
  split at h
  · cases h
  next allowed =>
  obtain ⟨start, made, h⟩ := Replay.bind_eq_ok.mp h
  obtain ⟨encoded, bytes, h⟩ := Replay.bind_eq_ok.mp h
  obtain ⟨represented, -⟩ := unsignedPayload_ok.mp made
  have unsigned := represented.not_omitted
  generalize content_eq : setEntry "signer_key_id" _ (setEntry "signature_alg" _ start) = content
    at bytes h
  have content_unsigned : ∀ name ∈ content.map (·.1), name ∉ ["digest", "signature"] := by
    intro name member
    rw [← content_eq] at member
    rcases mem_keys_setEntry member with rfl | member
    · decide
    rcases mem_keys_setEntry member with rfl | member
    · decide
    · exact unsigned name member
  have content_tree : Tree (.obj content) := by
    rw [← content_eq]
    exact tree_setText (tree_setText represented.tree)
  have result_tree (digest signature : String) : Tree (.obj (setEntry "signature" (.str signature)
      (setEntry "digest" (.str digest) content))) := tree_setText (tree_setText content_tree)
  obtain ⟨rfl, fits⟩ := (snapshotObject_ok (result_tree _ _)).mp h
  refine ⟨content, encoded, ⟨domains, known, by simpa using allowed⟩, content_tree,
    content_unsigned, ?_, ?_, bytes, setEntry_signed content_unsigned _ _, result_tree _ _,
    fits⟩
  · rw [← content_eq, lookup_setEntry_ne (by decide), lookup_setEntry_self]
  · rw [← content_eq, lookup_setEntry_self]

/-- What has no digest and no signature is its own unsigned content. -/
theorem SignedFrom.unsignedContent {content result : List (String × Json)}
    (h : SignedFrom crypto objectType version key content result encoded) :
    keptFields ["digest", "signature"] content = content := by
  refine List.filter_eq_self.mpr fun field member => ?_
  simpa using h.unsigned field.1 (List.mem_map_of_mem member)

/-- The content of a signed result is what was signed. -/
theorem SignedFrom.resultContent {content result : List (String × Json)}
    (h : SignedFrom crypto objectType version key content result encoded) :
    keptFields ["digest", "signature"] result = content := by
  have all := h.unsignedContent
  rw [keptFields] at all ⊢
  rw [h.made, List.filter_append, all]
  exact List.append_nil content

/-- The bytes of a result are those of its content. -/
theorem SignedFrom.canonical {content result : List (String × Json)}
    (h : SignedFrom crypto objectType version key content result encoded) :
    canonicalBytes crypto objectType (objects (.obj result)) (.ref []) version = .ok encoded := by
  obtain ⟨known, fields, made, dumped⟩ := canonicalBytes_ok.mp h.bytes
  obtain ⟨represented, fits⟩ := unsignedPayload_ok.mp made
  have same : Json.obj fields = .obj content := by
    rw [(represents_object h.tree).mp represented, h.unsignedContent]
  cases same
  refine canonicalBytes_ok.mpr ⟨known, content, unsignedPayload_ok.mpr ⟨?_, fits⟩, dumped⟩
  rw [represents_object h.resultTree, h.resultContent]

theorem SignedFrom.lookup_old {content result : List (String × Json)} {name : String} {item : Json}
    (h : SignedFrom crypto objectType version key content result encoded)
    (found : content.lookup name = some item) : result.lookup name = some item := by
  rw [h.made, List.lookup_append, found]
  rfl

/-- The digest and the signature of a result. -/
theorem SignedFrom.lookup_new {content result : List (String × Json)} {name : String}
    (h : SignedFrom crypto objectType version key content result encoded)
    (new : name ∈ ["digest", "signature"]) :
    result.lookup name = [("digest", Json.str (crypto.sha256Hex encoded)),
      ("signature", .str (encodeBase64url (crypto.sign key encoded)))].lookup name := by
  have none_ : content.lookup name = none := by
    rw [List.lookup_eq_none_iff]
    intro field member
    rw [bne_iff_ne]
    rintro rfl
    exact h.unsigned field.1 (List.mem_map_of_mem member) new
  rw [h.made, List.lookup_append, none_]
  rfl

/-! ## Verifying -/

theorem isText_iff {text : String} {found : Option Json} :
    isText text found = true ↔ found = some (.str text) := by
  cases found with
  | none => exact ⟨nofun, nofun⟩
  | some item =>
    cases item with
    | str held =>
      rw [isText, decide_eq_true_eq, Option.some.injEq, Json.str.injEq]
    | null | bool held | int held | other | arr items | obj fields => exact ⟨nofun, nofun⟩

theorem verifySnapshot_ok {publicKey : PublicKey} :
    verifySnapshot crypto objectType heap payload publicKey version = .ok true ↔
      ∃ snapshot, snapshotJson heap [] payload = .ok (.obj snapshot) ∧
        snapshot.lookup "signature_alg" = some (.str "Ed25519") ∧
        snapshot.lookup "signer_key_id" = some (.str (keyId crypto publicKey)) ∧
        ∃ encoded, canonicalBytes crypto objectType (objects (.obj snapshot)) (.ref []) version =
            .ok encoded ∧
          snapshot.lookup "digest" = some (.str (crypto.sha256Hex encoded)) ∧
          ∃ signature, decodeBase64url (snapshot.lookup "signature") 64 = .ok signature ∧
            crypto.verify publicKey signature encoded = true := by
  rw [verifySnapshot, Replay.bind_eq_ok]
  constructor
  · rintro ⟨document, taken, h⟩
    split at h
    · next snapshot =>
      split at h
      · cases h
      next named =>
      rw [Bool.or_eq_true, not_or, Bool.not_eq_true', Bool.not_eq_true', Bool.not_eq_false,
        Bool.not_eq_false, isText_iff, isText_iff] at named
      obtain ⟨encoded, bytes, h⟩ := Replay.bind_eq_ok.mp h
      split at h
      · cases h
      next digest =>
      rw [Bool.not_eq_true', Bool.not_eq_false, isText_iff] at digest
      obtain ⟨signature, decoded, h⟩ := Replay.bind_eq_ok.mp h
      exact ⟨snapshot, taken, named.1, named.2, encoded, bytes, digest, signature, decoded,
        Except.ok.inj h⟩
    · cases h
  · rintro ⟨snapshot, taken, alg, name, encoded, bytes, digest, signature, decoded, verified⟩
    refine ⟨_, taken, ?_⟩
    dsimp only
    rw [isText_iff.mpr alg, isText_iff.mpr name]
    show (canonicalBytes crypto objectType (objects (.obj snapshot)) (.ref []) version >>= _) = _
    rw [bytes]
    show (if !isText (crypto.sha256Hex encoded) (snapshot.lookup "digest") then _ else _) = _
    rw [isText_iff.mpr digest]
    show (decodeBase64url (snapshot.lookup "signature") 64 >>= _) = _
    rw [decoded]
    exact congrArg _ verified

theorem verifyPayload_iff {publicKey : PublicKey} :
    verifyPayload crypto objectType heap payload publicKey version = true ↔
      (∃ domains, signedDomainsForVersion version = .ok domains ∧
        domains.contains objectType = true) ∧ isMapping heap payload = true ∧
      verifySnapshot crypto objectType heap payload publicKey version = .ok true := by
  rw [verifyPayload]
  constructor
  · intro h
    split at h
    · cases h
    next domains known =>
    split at h
    · cases h
    next passed =>
    rw [Bool.or_eq_true, not_or, Bool.not_eq_true', Bool.not_eq_true', Bool.not_eq_false,
      Bool.not_eq_false] at passed
    split at h
    · next verified found =>
      subst h
      exact ⟨⟨domains, known, passed.1⟩, passed.2, found⟩
    · cases h
  · rintro ⟨⟨domains, known, allowed⟩, mapping, verified⟩
    rw [known]
    dsimp only
    rw [allowed, mapping, verified]
    rfl

/-- **What is signed is verified**, as any value that is the result. -/
theorem SignedFrom.verified (lawful : crypto.Lawful) {content result : List (String × Json)}
    (h : SignedFrom crypto objectType version key content result encoded)
    (same : Represents heap [] payload (.obj result)) :
    verifyPayload crypto objectType heap payload (crypto.publicKey key) version = true := by
  have size := lawful.sign_length key encoded
  have decoded : decodeBase64url (some (.str (encodeBase64url (crypto.sign key encoded))))
      (crypto.sign key encoded).length = .ok (crypto.sign key encoded) :=
    decodeBase64url_encode fun none_ => by rw [none_] at size; cases size
  rw [size] at decoded
  refine verifyPayload_iff.mpr ⟨h.allowed, isMapping_of_represents same, verifySnapshot_ok.mpr
    ⟨result, snapshotJson_ok.mpr ⟨same, h.fits⟩, h.lookup_old h.alg, h.lookup_old h.keyId, encoded,
      h.canonical, h.lookup_new (by decide), crypto.sign key encoded, ?_,
      lawful.verify_sign key encoded⟩⟩
  rw [h.lookup_new (by decide)]
  exact decoded

end Bytes

/-! ## Signed as -/

/-- What has been signed: the object type, the version and the result. -/
structure SignedPayload where
  objectType : String
  version : String
  result : List (String × Json)

section SignedAs

variable {Key PublicKey : Type} (crypto : Crypto Key PublicKey) (key : Key)

/-- `sign_payload` made the result, of some payload. -/
def SignedPayload.Made (signing : SignedPayload) : Prop :=
  ∃ (ι : Type) (_ : DecidableEq ι) (heap : ι → PyObject ι) (payload : PyValue ι),
    signPayload crypto signing.objectType heap payload key signing.version = .ok signing.result

/-- The bytes under its signature. -/
def SignedPayload.bytes (signing : SignedPayload) : Except ValueError Octets :=
  canonicalBytes crypto signing.objectType (objects (.obj signing.result)) (.ref []) signing.version

/-- A value is taken for what was signed: the object type, the version and the unsigned content. -/
def SignedPayload.Matches {ι : Type} [DecidableEq ι] (signing : SignedPayload) (objectType version : String)
    (heap : ι → PyObject ι) (value : PyValue ι) : Prop :=
  signing.objectType = objectType ∧ signing.version = version ∧ ∃ fields fields',
    unsignedPayload (objects (.obj signing.result)) (.ref []) = .ok fields ∧
    unsignedPayload heap value = .ok fields' ∧ Same (.obj fields) (.obj fields')

/-- The signature that a value carries is no forgery: it stands under what was signed only. -/
def Unforged {ι : Type} [DecidableEq ι] (signings : List SignedPayload) (heap : ι → PyObject ι)
    (value : PyValue ι) : Prop :=
  ∀ fields signature message, snapshotJson heap [] value = .ok (.obj fields) →
    decodeBase64url (fields.lookup "signature") 64 = .ok signature →
    crypto.verify (crypto.publicKey key) signature message = true →
    ∃ signing ∈ signings, signing.bytes crypto = .ok message

variable {crypto key}

/-- **Everything signed can be verified, and only as what it was signed.** A result is accepted with
the matching key, object type and version. A value that does not match a signing has other bytes than
those that were signed, and it is rejected unless its signature is a forgery. -/
theorem signed_and_verified (lawful : crypto.Lawful) {signings : List SignedPayload}
    (made : ∀ signing ∈ signings, signing.Made crypto key) :
    (∀ signing ∈ signings, ∀ (ι : Type) [DecidableEq ι] (heap : ι → PyObject ι) (value : PyValue ι),
      Represents heap [] value (.obj signing.result) →
      verifyPayload crypto signing.objectType heap value (crypto.publicKey key) signing.version =
        true) ∧
    ∀ (ι : Type) [DecidableEq ι] (heap : ι → PyObject ι) (value : PyValue ι)
      (objectType version : String),
      (∀ signing ∈ signings, ¬signing.Matches objectType version heap value →
        ∃ bytes, signing.bytes crypto = .ok bytes ∧
          canonicalBytes crypto objectType heap value version ≠ .ok bytes) ∧
      ((∀ signing ∈ signings, ¬signing.Matches objectType version heap value) →
        Unforged crypto key signings heap value →
        verifyPayload crypto objectType heap value (crypto.publicKey key) version = false) := by
  refine ⟨fun signing member ι _ heap value same => ?_, fun ι _ heap value objectType version =>
    ⟨fun signing member differs => ?_, fun differ unforged => ?_⟩⟩
  · obtain ⟨κ, _, heap', payload, h⟩ := made signing member
    obtain ⟨content, encoded, from_⟩ := signedFrom_of_sign h
    exact from_.verified lawful same
  · obtain ⟨κ, _, heap', payload, h⟩ := made signing member
    obtain ⟨content, encoded, from_⟩ := signedFrom_of_sign h
    exact ⟨encoded, from_.canonical, fun same =>
      differs (canonicalBytes_same lawful from_.canonical same)⟩
  · by_contra accepted
    rw [Bool.not_eq_false] at accepted
    obtain ⟨-, -, verified⟩ := verifyPayload_iff.mp accepted
    obtain ⟨snapshot, taken, -, -, encoded, bytes, -, signature, decoded, verified⟩ :=
      verifySnapshot_ok.mp verified
    obtain ⟨signing, member, same⟩ := unforged snapshot signature encoded taken decoded verified
    obtain ⟨types, versions, fields, fields', content, content', equal⟩ :=
      canonicalBytes_same lawful same bytes
    obtain ⟨represented, -⟩ := snapshotJson_ok.mp taken
    refine differ signing member ⟨types, versions, fields, fields', content, ?_, equal⟩
    rwa [unsignedPayload_snapshot represented] at content'

end SignedAs

namespace SignSample

def keyHex : String := "21fe31dfa154a261626bf854046fd2271b7bed4b6abe45aa58877ef47f9721b9"

def messageHex : String := "19e70a2ce852aa3a88cfe63fd08ac6a604447673cf37d987a37f0cd553a3d01a"

def signerKeyId : String := "ed25519:" ++ keyHex

/-- A signed document. -/
def result : List (String × Json) :=
  [("sequence", .int 7), ("signature_alg", .str "Ed25519"), ("signer_key_id", .str signerKeyId),
    ("digest", .str messageHex),
    ("signature", .str ("Qfb_i7-WIk5VwOZ4nfLfp0wguYl84b5uHTJUcBZ25iSDpmjxjifir3vNDyRxFVVcEMnR4wiM" ++
      "Ws-niVlFx9_jCA"))]

/-- Its bytes. -/
def message : Octets := Utf8.encode
  ("\x7b\"domain\":\"openworkproof/manifest/v0.1\",\"payload\":".toList ++
    "\x7b\"sequence\":7,\"signature_alg\":\"Ed25519\",\"signer_key_id\":\"".toList ++
    signerKeyId.toList ++ "\"\x7d\x7d".toList)

def signature : Octets := ((decodeBase64url (result.lookup "signature") 64).toOption).getD []

def publicKey : Octets :=
  ((decodeBase64url (some (.str "11qYAYKxCrfVS_7TyWQHOg7hcvPapiMlrwIaaPcHURo")) 32).toOption).getD []

/-- The canonical form of the document that is signed, and of no other one. -/
def dumps : Json → Option Octets
  | .obj [("domain", .str "openworkproof/manifest/v0.1"),
      ("payload", .obj [("sequence", .int 7), ("signature_alg", .str "Ed25519"),
        ("signer_key_id", .str name)])] => if name = signerKeyId then some message else none
  | _ => none

/-- A function that is known at one place. -/
def knownAt {α : Type} (place : Octets) (value default : α) (m : Octets) : α :=
  if m = place then value else default

theorem knownAt_self {α : Type} {place : Octets} {value default : α} :
    knownAt place value default place = value := if_pos rfl

theorem knownAt_ne {α : Type} {place m : Octets} {value default : α} (h : m ≠ place) :
    knownAt place value default m = default := if_neg h

/-- One key, its signature of the message, and the digests of both. -/
def crypto : Crypto Unit Unit where
  publicKey := id
  publicBytes _ := publicKey
  sign _ := knownAt message signature (List.replicate 64 0)
  verify _ s m := s = knownAt message signature (List.replicate 64 0) m
  sha256Hex m := knownAt message messageHex
    (knownAt publicKey keyHex "" m) m
  dumps := dumps

/-- The payload that is signed; its digest is no part of it. -/
def heap : Unit → PyObject Unit :=
  fun _ => .mapping [.pair (.str "digest") (.float true), .pair (.str "sequence") (.int 7)] false

def signed : SignedPayload := ⟨"manifest", "0.1", result⟩

theorem tree_result : Tree (.obj result) :=
  ⟨by decide, trivial, trivial, trivial, trivial, trivial, trivial⟩

theorem fits_result : Fits (.obj result) := by
  refine ⟨⟨⟨fun _ => .inr ⟨7, rfl, rfl⟩, rfl⟩, ⟨?_, trivial⟩, ⟨?_, trivial⟩, ⟨?_, trivial⟩,
    ⟨?_, trivial⟩, trivial⟩, by decide, by decide⟩
  all_goals exact fun named => absurd named (by decide)

theorem encode_signature : encodeBase64url signature =
    "Qfb_i7-WIk5VwOZ4nfLfp0wguYl84b5uHTJUcBZ25iSDpmjxjifir3vNDyRxFVVcEMnR4wiM" ++
      "Ws-niVlFx9_jCA" := by decide +kernel

theorem sign_eq (m : Octets) :
    crypto.sign () m = knownAt message signature (List.replicate 64 0) m := rfl

theorem sha256Hex_eq (m : Octets) :
    crypto.sha256Hex m = knownAt message messageHex (knownAt publicKey keyHex "" m) m := rfl

theorem keyId_eq : keyId crypto (crypto.publicKey ()) = signerKeyId := by
  have other : publicKey ≠ message := by decide +kernel
  rw [keyId, sha256Hex_eq]
  show "ed25519:" ++ knownAt message messageHex (knownAt publicKey keyHex "" publicKey) publicKey = _
  rw [knownAt_ne other, knownAt_self]
  rfl

theorem bytes_content :
    canonicalBytes crypto "manifest" (objects (.obj (result.take 3))) (.ref []) "0.1" = .ok message :=
  canonicalBytes_ok.mpr ⟨⟨_, rfl, by decide⟩, result.take 3, by rfl, by rfl⟩

theorem made : ∀ payload ∈ [signed], payload.Made crypto () := by
  intro payload member
  rw [List.mem_singleton.mp member]
  refine ⟨Unit, inferInstance, heap, .ref (), ?_⟩
  have start : unsignedPayload heap (.ref ()) = .ok [("sequence", .int 7)] := by rfl
  have content : setEntry "signer_key_id" (.str (keyId crypto (crypto.publicKey ())))
      (setEntry "signature_alg" (.str "Ed25519") [("sequence", .int 7)]) = result.take 3 := by
    rw [keyId_eq]
    rfl
  have whole : setEntry "signature" (.str (encodeBase64url signature)) (setEntry "digest"
      (.str messageHex) (result.take 3)) = result := by
    rw [encode_signature]
    rfl
  show signPayload crypto "manifest" heap (.ref ()) () "0.1" = .ok result
  rw [signPayload]
  refine Replay.bind_eq_ok.mpr ⟨_, rfl, ?_⟩
  rw [if_neg (by decide), start]
  refine Replay.bind_eq_ok.mpr ⟨_, rfl, ?_⟩
  dsimp only
  rw [content, bytes_content]
  refine Replay.bind_eq_ok.mpr ⟨_, rfl, ?_⟩
  rw [sha256Hex_eq, knownAt_self, sign_eq, knownAt_self, whole]
  exact (snapshotObject_ok tree_result).mpr ⟨rfl, fits_result⟩

theorem length_signature : signature.length = 64 := by decide +kernel

theorem of_dumps {document : Json} {encoded : Octets} (h : dumps document = some encoded) :
    document = canonicalInput "manifest" "0.1" (result.take 3) := by
  unfold dumps at h
  split at h
  · split at h
    · next same => rw [same]; rfl
    · cases h
  · cases h

theorem same_input : Same (canonicalInput "manifest" "0.1" (result.take 3))
    (canonicalInput "manifest" "0.1" (result.take 3)) := by
  have content : Same (.obj (result.take 3)) (.obj (result.take 3)) :=
    .obj_self (by decide) (List.forall_mem_cons.mpr ⟨.int 7, List.forall_mem_cons.mpr
      ⟨.str _, List.forall_mem_cons.mpr ⟨.str _, nofun⟩⟩⟩)
  exact .obj_self (by decide) (List.forall_mem_cons.mpr ⟨.str _, List.forall_mem_cons.mpr
    ⟨content, nofun⟩⟩)

theorem lawful : crypto.Lawful := by
  refine ⟨fun _ m => ?_, fun _ m => ?_, fun document document' encoded h h' => ?_⟩
  · show (knownAt message signature (List.replicate 64 0) m).length = 64
    rw [knownAt]
    split
    · exact length_signature
    · rfl
  · exact decide_eq_true rfl
  · rw [of_dumps h, of_dumps h']
    exact same_input

theorem bytes_signed : signed.bytes crypto = .ok message :=
  canonicalBytes_ok.mpr ⟨⟨_, rfl, by decide⟩, result.take 3, by rfl, by rfl⟩

theorem unforged : Unforged crypto () [signed] (objects (.obj result)) (.ref []) := by
  intro fields found m taken decoded verified
  have same := (represents_object tree_result).mp (snapshotJson_ok.mp taken).1
  rw [keptFields_nil] at same
  cases same
  refine ⟨signed, List.mem_singleton_self _, ?_⟩
  by_cases known : m = message
  · rw [known]
    exact bytes_signed
  · have zeros : found = knownAt message signature (List.replicate 64 0) m :=
      of_decide_eq_true verified
    have first : signature.head? = some 65 := by decide +kernel
    rw [signature, decoded, zeros, knownAt_ne known] at first
    cases first

end SignSample

/-- A signed manifest is verified as a manifest and as nothing else. -/
theorem signed_and_verified_sample :
    verifyPayload SignSample.crypto "manifest" (objects (.obj SignSample.result)) (.ref []) () "0.1" =
      true ∧
    verifyPayload SignSample.crypto "subject-claim" (objects (.obj SignSample.result)) (.ref []) ()
      "0.1" = false := by
  have itself : Represents (objects (.obj SignSample.result)) [] (.ref []) (.obj SignSample.result) := by
    rw [represents_object SignSample.tree_result, keptFields_nil]
  obtain ⟨verified, only⟩ := signed_and_verified SignSample.lawful SignSample.made
  refine ⟨verified SignSample.signed (List.mem_singleton_self _) _ _ _ itself,
    (only _ _ _ "subject-claim" "0.1").2 ?_ SignSample.unforged⟩
  intro signing member same
  rw [List.mem_singleton.mp member] at same
  exact absurd same.1 (by decide)

end OpenWorkProof.Signing
