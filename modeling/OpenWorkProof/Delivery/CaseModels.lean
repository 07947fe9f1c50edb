import OpenWorkProof.Delivery.CaseTree
import OpenWorkProof.Foundation.Spelling
import OpenWorkProof.RepoTools.SourceArchive
import OpenWorkProof.Settlement.Acceptance
/-!
# Documents of a delivery case

The closed models of `delivery_case.py` and the parts of the settlement status, as dictionaries that
`model_validate` takes and `model_dump` gives. A digest stands as its text here, since the documents
are compared as octets. A document that is dumped is validated as what it was.
-/

namespace OpenWorkProof.DeliveryCase

/-! ## Scalars -/

/-- `Digest64` as its text. -/
@[ext] structure DigestText where
  digits : Text
  length : digits.length = 64
  hex : digits.all isHexDigit = true

instance : DecidableEq DigestText :=
  fun _ _ => decidable_of_iff _ DigestText.ext_iff.symm

/-- `_digest64`. -/
def DigestText.parse (text : Text) : Option DigestText :=
  if length : text.length = 64 then
    if hex : text.all isHexDigit = true then some ⟨text, length, hex⟩ else none
  else none

@[simp] theorem DigestText.parse_digits (digest : DigestText) :
    DigestText.parse digest.digits = some digest := by
  rw [parse, dif_pos digest.length, dif_pos digest.hex]

theorem DigestText.digits_injective : Function.Injective DigestText.digits := by
  intro first second same
  have parsed := first.parse_digits
  rw [same, parse_digits] at parsed
  exact (Option.some.inj parsed).symm

/-- The number that digits write. -/
def numberOf (digits : Text) : Nat :=
  digits.foldl (fun number digit => 10 * number + (digit.toNat - '0'.toNat)) 0

def isLeapYear (year : Nat) : Bool := year % 4 == 0 && (year % 100 != 0 || year % 400 == 0)

def daysInMonth (year month : Nat) : Nat :=
  if month = 2 then if isLeapYear year then 29 else 28
  else if [4, 6, 9, 11].contains month then 30 else 31

/-- `_parse_canonical_time`: a text YYYY-MM-DDTHH:MM:SSZ of a second since the epoch. -/
def isUtcSecond : Text → Bool
  | [y₁, y₂, y₃, y₄, '-', m₁, m₂, '-', d₁, d₂, 'T', h₁, h₂, ':', n₁, n₂, ':', s₁, s₂, 'Z'] =>
    let year := numberOf [y₁, y₂, y₃, y₄]
    let month := numberOf [m₁, m₂]
    let day := numberOf [d₁, d₂]
    [y₁, y₂, y₃, y₄, m₁, m₂, d₁, d₂, h₁, h₂, n₁, n₂, s₁, s₂].all Char.isDigit &&
      decide (1970 ≤ year ∧ 1 ≤ month ∧ month ≤ 12 ∧ 1 ≤ day ∧ day ≤ daysInMonth year month ∧
        numberOf [h₁, h₂] ≤ 23 ∧ numberOf [n₁, n₂] ≤ 59 ∧ numberOf [s₁, s₂] ≤ 59)
  | _ => false

/-- `CanonicalUTCTime` as its text. -/
structure UtcSecond where
  text : Text
  canonical : isUtcSecond text = true
  deriving DecidableEq

def UtcSecond.parse (text : Text) : Option UtcSecond :=
  if canonical : isUtcSecond text = true then some ⟨text, canonical⟩ else none

@[simp] theorem UtcSecond.parse_text (second : UtcSecond) :
    UtcSecond.parse second.text = some second := by
  rw [parse, dif_pos second.canonical]

/-- The bound `_freeze_json` puts on strings. -/
def maxJsonStringBytes : Nat := 4096

/-- A string of a protocol model. -/
structure BoundedText where
  text : Text
  bounded : (Utf8.encode text).length ≤ maxJsonStringBytes
  deriving DecidableEq

def BoundedText.parse (text : Text) : Option BoundedText :=
  if bounded : (Utf8.encode text).length ≤ maxJsonStringBytes then some ⟨text, bounded⟩ else none

@[simp] theorem BoundedText.parse_text (text : BoundedText) :
    BoundedText.parse text.text = some text := by
  rw [parse, dif_pos text.bounded]

/-! ## Vocabularies -/

inductive EvidenceStatus
  | notEvidenced | externalReferencePresent
  deriving DecidableEq

def evidenceStatuses : Spelling EvidenceStatus Text where
  values := [.notEvidenced, .externalReferencePresent]
  spell
    | .notEvidenced => "not_evidenced".toList
    | .externalReferencePresent => "external_reference_present".toList
  complete := by intro value; cases value <;> decide
  distinct := by decide

/-- `DeliveryCaseStage`. -/
inductive Stage
  | scopeDrafted | sowReferenced | readyForVerification | verified | refuted | unknown
  | readyForAcceptance | accepted | rejected | readyForSettlementReview | externalPaymentEvidenced
  deriving DecidableEq

def stages : Spelling Stage Text where
  values := [.scopeDrafted, .sowReferenced, .readyForVerification, .verified, .refuted, .unknown,
    .readyForAcceptance, .accepted, .rejected, .readyForSettlementReview, .externalPaymentEvidenced]
  spell
    | .scopeDrafted => "SCOPE_DRAFTED".toList
    | .sowReferenced => "SOW_REFERENCED".toList
    | .readyForVerification => "READY_FOR_VERIFICATION".toList
    | .verified => "VERIFIED".toList
    | .refuted => "REFUTED".toList
    | .unknown => "UNKNOWN".toList
    | .readyForAcceptance => "READY_FOR_ACCEPTANCE".toList
    | .accepted => "ACCEPTED".toList
    | .rejected => "REJECTED".toList
    | .readyForSettlementReview => "READY_FOR_SETTLEMENT_REVIEW".toList
    | .externalPaymentEvidenced => "EXTERNAL_PAYMENT_EVIDENCED".toList
  complete := by intro value; cases value <;> decide
  distinct := by decide

def verdicts : Spelling Verdict Text where
  values := [.verified, .refuted, .unknown]
  spell
    | .verified => "VERIFIED".toList
    | .refuted => "REFUTED".toList
    | .unknown => "UNKNOWN".toList
  complete := by intro value; cases value <;> decide
  distinct := by decide

/-- `terminal_decision`. -/
inductive TerminalDecision
  | accepted | rejected
  deriving DecidableEq

def terminalDecisions : Spelling TerminalDecision Text where
  values := [.accepted, .rejected]
  spell
    | .accepted => "ACCEPTED".toList
    | .rejected => "REJECTED".toList
  complete := by intro value; cases value <;> decide
  distinct := by decide

def effectiveAcceptances : Spelling EffectiveAcceptance Text where
  values := [.none, .active, .suspended, .withdrawn, .superseded]
  spell
    | .none => "NONE".toList
    | .active => "ACTIVE".toList
    | .suspended => "SUSPENDED".toList
    | .withdrawn => "WITHDRAWN".toList
    | .superseded => "SUPERSEDED".toList
  complete := by intro value; cases value <;> decide
  distinct := by decide

def settlementReadinesses : Spelling SettlementReadiness Text where
  values := [.notReady, .readyForAcceptance, .acceptedForSettlement, .readyForSettlementReview,
    .suspended, .withdrawn, .superseded]
  spell
    | .notReady => "NOT_READY".toList
    | .readyForAcceptance => "READY_FOR_ACCEPTANCE".toList
    | .acceptedForSettlement => "ACCEPTED_FOR_SETTLEMENT".toList
    | .readyForSettlementReview => "READY_FOR_SETTLEMENT_REVIEW".toList
    | .suspended => "SUSPENDED".toList
    | .withdrawn => "WITHDRAWN".toList
    | .superseded => "SUPERSEDED".toList
  complete := by intro value; cases value <;> decide
  distinct := by decide

/-- `DeliveryCaseReasonCode`. -/
inductive ReasonCode
  | acceptanceMissing | customerRejected | operationalError | paymentNotEvidenced
  | settlementStatusMissing | sowNotEvidenced | surfaceMissing | surfaceRefuted | surfaceUnknown
  deriving DecidableEq

def ReasonCode.text : ReasonCode → Text
  | .acceptanceMissing => "ACCEPTANCE_MISSING".toList
  | .customerRejected => "CUSTOMER_REJECTED".toList
  | .operationalError => "OPERATIONAL_ERROR".toList
  | .paymentNotEvidenced => "PAYMENT_NOT_EVIDENCED".toList
  | .settlementStatusMissing => "SETTLEMENT_STATUS_MISSING".toList
  | .sowNotEvidenced => "SOW_NOT_EVIDENCED".toList
  | .surfaceMissing => "SURFACE_MISSING".toList
  | .surfaceRefuted => "SURFACE_REFUTED".toList
  | .surfaceUnknown => "SURFACE_UNKNOWN".toList

/-- The codes as items of a JSON list, in the UTF-8 order of their texts. -/
def codeItems : Spelling ReasonCode JsonItem where
  values := [.acceptanceMissing, .customerRejected, .operationalError, .paymentNotEvidenced,
    .settlementStatusMissing, .sowNotEvidenced, .surfaceMissing, .surfaceRefuted, .surfaceUnknown]
  spell code := .other ('"' :: code.text ++ ['"'])
  complete := by intro value; cases value <;> decide
  distinct := by decide

/-- `sorted(codes, key=lambda value: value.encode("utf-8"))`. -/
def sortedCodes (codes : Finset ReasonCode) : List ReasonCode :=
  codeItems.values.filter (· ∈ codes)

theorem sortedCodes_toFinset (codes : Finset ReasonCode) : (sortedCodes codes).toFinset = codes := by
  ext code
  rw [List.mem_toFinset, sortedCodes, List.mem_filter, decide_eq_true_eq]
  exact and_iff_right (codeItems.complete code)

/-! ## Fields -/

def jsonNull : JsonField := .scalar (.other "null".toList)

def fieldText : JsonField → Option Text
  | .scalar (.text value) => some value
  | _ => none

/-- A text that may be `null`. -/
def nullable : Option Text → JsonField
  | none => jsonNull
  | some value => .text value

section Fields

variable {α : Type} (fields : JsonObject) (key : String)

/-- A `Literal` of one text. -/
def literalField (value : String) : Option Unit :=
  if fields.lookup key.toList = some (.text value.toList) then some () else none

def textField (parse : Text → Option α) : Option α :=
  ((fields.lookup key.toList).bind fieldText).bind parse

def optionalField (parse : Text → Option α) : Option (Option α) :=
  if fields.lookup key.toList = some jsonNull then some none
  else (textField fields key parse).map some

variable {fields key}

theorem literalField_eq {value : String}
    (h : fields.lookup key.toList = some (.text value.toList)) :
    literalField fields key value = some () :=
  if_pos h

theorem textField_eq {parse : Text → Option α} {text : Text} {value : α}
    (h : fields.lookup key.toList = some (.text text)) (parsed : parse text = some value) :
    textField fields key parse = some value := by
  rw [textField, h]
  exact parsed

theorem optionalField_eq {parse : Text → Option α} {spell : α → Text} {value : Option α}
    (h : fields.lookup key.toList = some (nullable (value.map spell)))
    (parsed : ∀ value, parse (spell value) = some value) :
    optionalField fields key parse = some value := by
  cases value with
  | none => exact if_pos h
  | some value =>
    have text : fields.lookup key.toList ≠ some jsonNull := by
      rw [h]
      intro same
      cases Option.some.inj same
    rw [optionalField, if_neg text, textField_eq h (parsed value)]
    rfl

end Fields

/-! ## Models -/

/-- `DeliveryCaseManifestV01`. -/
structure CaseManifest where
  caseId : DigestText
  buyerAlias : BoundedText
  deliveryProviderAlias : BoundedText
  createdAt : UtcSecond
  deriving DecidableEq

def CaseManifest.keys : Finset Text :=
  {"schema_version".toList, "case_id".toList, "profile".toList, "buyer_alias".toList,
    "delivery_provider_alias".toList, "created_at".toList}

/-- `DeliveryCaseManifestV01.model_validate`. -/
def CaseManifest.validate (fields : JsonObject) : Option CaseManifest := do
  guard (fields.keys = CaseManifest.keys)
  literalField fields "schema_version" "openworkproof-delivery-case/0.1"
  let caseId ← textField fields "case_id" DigestText.parse
  literalField fields "profile" "coding-agent"
  let buyerAlias ← textField fields "buyer_alias" BoundedText.parse
  let deliveryProviderAlias ← textField fields "delivery_provider_alias" BoundedText.parse
  let createdAt ← textField fields "created_at" UtcSecond.parse
  some ⟨caseId, buyerAlias, deliveryProviderAlias, createdAt⟩

def CaseManifest.document (manifest : CaseManifest) : JsonObject :=
  List.toFinmap [
    ⟨"schema_version".toList, .text "openworkproof-delivery-case/0.1".toList⟩,
    ⟨"case_id".toList, .text manifest.caseId.digits⟩,
    ⟨"profile".toList, .text "coding-agent".toList⟩,
    ⟨"buyer_alias".toList, .text manifest.buyerAlias.text⟩,
    ⟨"delivery_provider_alias".toList, .text manifest.deliveryProviderAlias.text⟩,
    ⟨"created_at".toList, .text manifest.createdAt.text⟩]

/-- `ExternalEvidenceReferenceV01`, whose status says whether there is a reference. -/
structure ExternalReference where
  status : EvidenceStatus
  referenceDigest : Option DigestText
  observedAt : Option UtcSecond
  observed : referenceDigest.isSome = observedAt.isSome
  present : (status = .externalReferencePresent) ↔ referenceDigest.isSome = true
  deriving DecidableEq

def ExternalReference.keys : Finset Text :=
  {"schema_version".toList, "status".toList, "reference_digest".toList, "observed_at".toList}

/-- `ExternalEvidenceReferenceV01.model_validate`. -/
def ExternalReference.validate (fields : JsonObject) : Option ExternalReference := do
  guard (fields.keys = ExternalReference.keys)
  literalField fields "schema_version" "openworkproof-external-evidence/0.1"
  let status ← textField fields "status" evidenceStatuses.parse
  let referenceDigest ← optionalField fields "reference_digest" DigestText.parse
  let observedAt ← optionalField fields "observed_at" UtcSecond.parse
  if observed : referenceDigest.isSome = observedAt.isSome then
    if present : (status = .externalReferencePresent) ↔ referenceDigest.isSome = true then
      some ⟨status, referenceDigest, observedAt, observed, present⟩
    else none
  else none

def ExternalReference.document (reference : ExternalReference) : JsonObject :=
  List.toFinmap [
    ⟨"schema_version".toList, .text "openworkproof-external-evidence/0.1".toList⟩,
    ⟨"status".toList, .text (evidenceStatuses.spell reference.status)⟩,
    ⟨"reference_digest".toList, nullable (reference.referenceDigest.map (·.digits))⟩,
    ⟨"observed_at".toList, nullable (reference.observedAt.map (·.text))⟩]

/-- `SettlementSnapshot`, as a document. -/
structure SettlementStatus where
  currentDecisionId : Option DigestText
  effectiveAcceptance : EffectiveAcceptance
  settlementReadiness : SettlementReadiness
  deriving DecidableEq

def SettlementStatus.keys : Finset Text :=
  {"current_decision_id".toList, "effective_acceptance".toList, "settlement_readiness".toList}

/-- `SettlementSnapshot.model_validate`. -/
def SettlementStatus.validate (fields : JsonObject) : Option SettlementStatus := do
  guard (fields.keys = SettlementStatus.keys)
  let currentDecisionId ← optionalField fields "current_decision_id" DigestText.parse
  let effectiveAcceptance ← textField fields "effective_acceptance" effectiveAcceptances.parse
  let settlementReadiness ← textField fields "settlement_readiness" settlementReadinesses.parse
  some ⟨currentDecisionId, effectiveAcceptance, settlementReadiness⟩

def SettlementStatus.document (status : SettlementStatus) : JsonObject :=
  List.toFinmap [
    ⟨"current_decision_id".toList, nullable (status.currentDecisionId.map (·.digits))⟩,
    ⟨"effective_acceptance".toList, .text (effectiveAcceptances.spell status.effectiveAcceptance)⟩,
    ⟨"settlement_readiness".toList, .text (settlementReadinesses.spell status.settlementReadiness)⟩]

/-- `DeliveryCaseResultV01`; the reason codes are sorted and unique. -/
structure DeliveryCaseResult where
  caseId : DigestText
  caseStage : Stage
  verificationDecision : Option Verdict
  acceptanceDecision : Option TerminalDecision
  settlementReadiness : Option SettlementReadiness
  sowEvidence : EvidenceStatus
  paymentEvidence : EvidenceStatus
  surfaceManifestDigest : Option DigestText
  acceptanceBindingDigest : Option DigestText
  reasonCodes : Finset ReasonCode
  deriving DecidableEq

def boundary : String := "not payment, completed settlement, legal audit, or customer adoption"

def DeliveryCaseResult.keys : Finset Text :=
  {"schema_version".toList, "case_id".toList, "case_stage".toList, "verification_decision".toList,
    "acceptance_decision".toList, "settlement_readiness".toList, "sow_evidence".toList,
    "payment_evidence".toList, "surface_manifest_digest".toList,
    "acceptance_binding_digest".toList, "reason_codes".toList, "boundary".toList}

/-- The reason codes of a document, with `_closed_reason_codes`. -/
def codesField (fields : JsonObject) : Option (Finset ReasonCode) :=
  match fields.lookup "reason_codes".toList with
  | some (.list items) => do
    let codes ← items.mapM codeItems.parse
    if codes = sortedCodes codes.toFinset then some codes.toFinset else none
  | _ => none

/-- `DeliveryCaseResultV01.model_validate`. -/
def DeliveryCaseResult.validate (fields : JsonObject) : Option DeliveryCaseResult := do
  guard (fields.keys = DeliveryCaseResult.keys)
  literalField fields "schema_version" "openworkproof-delivery-case-result/0.1"
  let caseId ← textField fields "case_id" DigestText.parse
  let caseStage ← textField fields "case_stage" stages.parse
  let verificationDecision ← optionalField fields "verification_decision" verdicts.parse
  let acceptanceDecision ← optionalField fields "acceptance_decision" terminalDecisions.parse
  let settlementReadiness ←
    optionalField fields "settlement_readiness" settlementReadinesses.parse
  let sowEvidence ← textField fields "sow_evidence" evidenceStatuses.parse
  let paymentEvidence ← textField fields "payment_evidence" evidenceStatuses.parse
  let surfaceManifestDigest ← optionalField fields "surface_manifest_digest" DigestText.parse
  let acceptanceBindingDigest ← optionalField fields "acceptance_binding_digest" DigestText.parse
  let codes ← codesField fields
  literalField fields "boundary" boundary
  some ⟨caseId, caseStage, verificationDecision, acceptanceDecision, settlementReadiness,
    sowEvidence, paymentEvidence, surfaceManifestDigest, acceptanceBindingDigest, codes⟩

def DeliveryCaseResult.document (result : DeliveryCaseResult) : JsonObject :=
  List.toFinmap [
    ⟨"schema_version".toList, .text "openworkproof-delivery-case-result/0.1".toList⟩,
    ⟨"case_id".toList, .text result.caseId.digits⟩,
    ⟨"case_stage".toList, .text (stages.spell result.caseStage)⟩,
    ⟨"verification_decision".toList, nullable (result.verificationDecision.map verdicts.spell)⟩,
    ⟨"acceptance_decision".toList,
      nullable (result.acceptanceDecision.map terminalDecisions.spell)⟩,
    ⟨"settlement_readiness".toList,
      nullable (result.settlementReadiness.map settlementReadinesses.spell)⟩,
    ⟨"sow_evidence".toList, .text (evidenceStatuses.spell result.sowEvidence)⟩,
    ⟨"payment_evidence".toList, .text (evidenceStatuses.spell result.paymentEvidence)⟩,
    ⟨"surface_manifest_digest".toList, nullable (result.surfaceManifestDigest.map (·.digits))⟩,
    ⟨"acceptance_binding_digest".toList,
      nullable (result.acceptanceBindingDigest.map (·.digits))⟩,
    ⟨"reason_codes".toList, .list ((sortedCodes result.reasonCodes).map codeItems.spell)⟩,
    ⟨"boundary".toList, .text boundary.toList⟩]

/-! ## Round trips -/

section RoundTrips

theorem guard_eq {p : Prop} [Decidable p] (h : p) : (guard p : Option Unit) = some () := if_pos h

theorem read_then {α β : Type} {x : Option α} {f : α → Option β} {a : α} {b : Option β}
    (h : x = some a) (rest : f a = b) : (x >>= f) = b := by
  rw [h]
  exact rest

theorem CaseManifest.validate_document (manifest : CaseManifest) :
    CaseManifest.validate manifest.document = some manifest := by
  have keys : manifest.document.keys = CaseManifest.keys := rfl
  rw [CaseManifest.validate]
  refine read_then (guard_eq keys) (read_then (literalField_eq rfl) ?_)
  refine read_then (textField_eq rfl manifest.caseId.parse_digits) ?_
  refine read_then (literalField_eq rfl) ?_
  refine read_then (textField_eq rfl manifest.buyerAlias.parse_text) ?_
  refine read_then (textField_eq rfl manifest.deliveryProviderAlias.parse_text) ?_
  exact read_then (textField_eq rfl manifest.createdAt.parse_text) rfl

theorem ExternalReference.validate_document (reference : ExternalReference) :
    ExternalReference.validate reference.document = some reference := by
  have keys : reference.document.keys = ExternalReference.keys := rfl
  rw [ExternalReference.validate]
  refine read_then (guard_eq keys) (read_then (literalField_eq rfl) ?_)
  refine read_then (textField_eq rfl Spelling.parse_spell) ?_
  refine read_then (optionalField_eq rfl DigestText.parse_digits) ?_
  refine read_then (optionalField_eq rfl UtcSecond.parse_text) ?_
  rw [dif_pos reference.observed, dif_pos reference.present]

theorem codesField_eq {fields : JsonObject} {codes : Finset ReasonCode}
    (h : fields.lookup "reason_codes".toList = some (.list ((sortedCodes codes).map codeItems.spell))) :
    codesField fields = some codes := by
  have parsed : ((sortedCodes codes).map codeItems.spell).mapM codeItems.parse =
      some (sortedCodes codes) := by
    rw [List.mapM_map]
    exact Replay.mapM_some.mpr (List.forall₂_same.mpr fun _ _ => Spelling.parse_spell)
  rw [codesField, h]
  refine read_then parsed ?_
  rw [sortedCodes_toFinset, if_pos rfl]

/-- **A result reads back** from its document. -/
theorem DeliveryCaseResult.validate_document (result : DeliveryCaseResult) :
    DeliveryCaseResult.validate result.document = some result := by
  have keys : result.document.keys = DeliveryCaseResult.keys := rfl
  rw [DeliveryCaseResult.validate]
  refine read_then (guard_eq keys) (read_then (literalField_eq rfl) ?_)
  refine read_then (textField_eq rfl result.caseId.parse_digits) ?_
  refine read_then (textField_eq rfl Spelling.parse_spell) ?_
  refine read_then (optionalField_eq rfl fun _ => Spelling.parse_spell) ?_
  refine read_then (optionalField_eq rfl fun _ => Spelling.parse_spell) ?_
  refine read_then (optionalField_eq rfl fun _ => Spelling.parse_spell) ?_
  refine read_then (textField_eq rfl Spelling.parse_spell) ?_
  refine read_then (textField_eq rfl Spelling.parse_spell) ?_
  refine read_then (optionalField_eq rfl DigestText.parse_digits) ?_
  refine read_then (optionalField_eq rfl DigestText.parse_digits) ?_
  exact read_then (codesField_eq rfl) (read_then (literalField_eq rfl) rfl)

end RoundTrips

end OpenWorkProof.DeliveryCase
