import OpenWorkProof.Delivery.CaseStatus
/-!
# Exported delivery cases

`delivery_case_render.py`, `export_delivery_case` and `verify_exported_delivery_case`: a case below
`case/`, its result, a summary, and a manifest of all three. The export is written into a new
directory, verified there and renamed; what is left after a failure is not part of the model.
-/

namespace OpenWorkProof.DeliveryCase

/-! ## Rendering -/

/-- `_display`. -/
def display : Option Text → Text
  | none => "—".toList
  | some value => value

/-- `", ".join(result.reason_codes) or "—"`. -/
def displayReasons (codes : Finset ReasonCode) : Text :=
  if codes = ∅ then "—".toList
  else ", ".toList.intercalate ((sortedCodes codes).map ReasonCode.text)

/-- A line of the list below the table. -/
def summaryLine (label : String) (value : Text) : Text :=
  "- ".toList ++ label.toList ++ ": `".toList ++ value ++ "`".toList

/-- `render_delivery_summary`. -/
def renderDeliverySummary (result : DeliveryCaseResult) : Text :=
  let acceptance := display (result.acceptanceDecision.map terminalDecisions.spell)
  let settlement := display (result.settlementReadiness.map settlementReadinesses.spell)
  ['\n'].intercalate [
    "# OpenWorkProof Verified Agent Delivery".toList,
    [],
    "| Question | Answer |".toList,
    "|---|---|".toList,
    "| Who authorized | The WorkOrder authority chain in the surface bundle |".toList,
    "| What was executed | The action receipts and evidence index in the delivery package |".toList,
    "| Who verified | The independent Verifier environment fingerprint and key binding |".toList,
    "| Can the buyer accept | ".toList ++ acceptance ++ " |".toList,
    "| Settlement review | ".toList ++ settlement ++ " |".toList,
    [],
    summaryLine "Case id" (result.caseId.digits.take 12),
    summaryLine "Case stage" (stages.spell result.caseStage),
    summaryLine "Verification decision" (display (result.verificationDecision.map verdicts.spell)),
    summaryLine "Human acceptance" acceptance,
    summaryLine "Settlement review status" settlement,
    summaryLine "SOW evidence" (evidenceStatuses.spell result.sowEvidence),
    summaryLine "Payment evidence" (evidenceStatuses.spell result.paymentEvidence),
    summaryLine "Reason codes" (displayReasons result.reasonCodes),
    [],
    "Boundary: ".toList ++ boundary.toList ++ ".".toList,
    [],
    "This summary is derived from the offline-verifiable Surface Bundle, ".toList ++
      "Acceptance Bundle and settlement status. It is not an authorization, ".toList ++
      "acceptance, payment receipt, legal audit or evidence of customer ".toList ++
      "adoption.".toList,
    []]

/-! ## The manifest of an export -/

/-- The paths beside the case. -/
def manifestPath : Text := "delivery-case-manifest.json".toList
def resultPath : Text := "delivery-result.json".toList
def summaryPath : Text := "delivery-summary.md".toList

/-- `_EXPORT_MANIFEST_BOUNDARY`. -/
def exportBoundary : String :=
  "integrity only; not an authorization, acceptance, payment, or legal trust root"

def exportSchema : String := "openworkproof-delivery-case-manifest/0.1"

/-- An entry of the manifest of an export. -/
structure ExportEntry where
  path : Text
  sha256 : Text
  sizeBytes : Int
  deriving DecidableEq

def ExportEntry.keys : Finset Text := {"path".toList, "sha256".toList, "size_bytes".toList}

def ExportEntry.document (entry : ExportEntry) : JsonEntry :=
  List.toFinmap [
    ⟨"path".toList, .text entry.path⟩,
    ⟨"sha256".toList, .text entry.sha256⟩,
    ⟨"size_bytes".toList, .integer entry.sizeBytes⟩]

def exportManifestKeys : Finset Text :=
  {"schema_version".toList, "case_id".toList, "boundary".toList, "entries".toList}

def exportManifest (caseId : DigestText) (entries : List ExportEntry) : JsonObject :=
  List.toFinmap [
    ⟨"schema_version".toList, .text exportSchema.toList⟩,
    ⟨"case_id".toList, .text caseId.digits⟩,
    ⟨"boundary".toList, .text exportBoundary.toList⟩,
    ⟨"entries".toList, .list (entries.map fun entry => .object entry.document)⟩]

/-- An item of `_load_export_manifest`. -/
def loadExportEntry : JsonItem → Except DeliveryCaseError ExportEntry
  | .other _ => .error ⟨"export manifest entry is invalid"⟩
  | .object entry => do
    require (entry.keys == ExportEntry.keys) ⟨"export manifest entry is invalid"⟩
    match entry.lookup "path".toList with
    | some (.text value) =>
      match safeRelative value with
      | .error _ => .error ⟨"export manifest path is invalid"⟩
      | .ok path =>
        match entry.lookup "sha256".toList, entry.lookup "size_bytes".toList with
        | some (.text sha256), some (.integer sizeBytes) => do
          require (decide (sha256.length = 64 ∧ 0 ≤ sizeBytes ∧ sizeBytes ≤ maxCaseTotalBytes))
            ⟨"export manifest entry is invalid"⟩
          .ok ⟨path, sha256, sizeBytes⟩
        | _, _ => .error ⟨"export manifest entry is invalid"⟩
    | _ => .error ⟨"export manifest path is invalid"⟩

/-- The fields of `_load_export_manifest`. -/
def loadExportFields (manifest : JsonObject) : Except DeliveryCaseError (List ExportEntry) := do
  require (manifest.keys == exportManifestKeys) ⟨"export manifest envelope is not closed"⟩
  require (manifest.lookup "schema_version".toList == some (.text exportSchema.toList))
    ⟨"export manifest schema is invalid"⟩
  require (manifest.lookup "boundary".toList == some (.text exportBoundary.toList))
    ⟨"export manifest boundary is invalid"⟩
  require (((manifest.lookup "case_id".toList).bind fieldText).any (·.length == 64))
    ⟨"export manifest case id is invalid"⟩
  match manifest.lookup "entries".toList with
  | some (.list items) => do
    require (items != []) ⟨"export manifest entries are invalid"⟩
    let entries ← items.mapM loadExportEntry
    require (decide ((entries.map fun entry => Utf8.encode entry.path).Pairwise (· < ·)))
      ⟨"export manifest entries are not sorted or unique"⟩
    .ok entries
  | _ => .error ⟨"export manifest entries are invalid"⟩

section Codec

variable (codec : CaseCodec)

/-- `_load_export_manifest`, of which the entries are used. -/
def loadExportManifest (payload : Octets) : Except DeliveryCaseError (List ExportEntry) :=
  match codec.loads payload with
  | none => .error ⟨"export manifest is invalid"⟩
  | some (.other canonical) => do
    require (Utf8.encode canonical == payload) ⟨"export manifest is not canonical"⟩
    .error ⟨"export manifest envelope is not closed"⟩
  | some (.object manifest) => do
    -- `rfc8785.dumps` raises an error of its own where there is no canonical form.
    require (codec.dumps manifest == some payload) ⟨"export manifest is not canonical"⟩
    loadExportFields manifest

def exportEntry (path : Text) (payload : Octets) : ExportEntry :=
  ⟨path, (codec.sha256 payload).digits, payload.length⟩

/-- The entries of `_compose_export_manifest`. -/
def exportEntries (snapshot : Snapshot) (resultBytes summaryBytes : Octets) : List ExportEntry :=
  (snapshot.map (fun file => exportEntry codec (casePrefix ++ file.path) file.payload) ++
    [exportEntry codec resultPath resultBytes, exportEntry codec summaryPath summaryBytes]
    ).insertionSort fun first second => Utf8.encode first.path ≤ Utf8.encode second.path

/-! ## Verification -/

/-- An entry describes the file of its path. -/
def entryHolds (snapshot : Snapshot) (entry : ExportEntry) : Bool :=
  match fileOf snapshot entry.path with
  | none => false
  | some file => decide (entry.sizeBytes = file.payload.length) &&
      (codec.sha256 file.payload).digits == entry.sha256

/-- `verify_exported_delivery_case`. -/
def verifyExportedDeliveryCase (tree : CaseTree) : Except DeliveryCaseError DeliveryCaseResult := do
  let snapshot ← scanExportTree tree
  let manifestRaw ← required snapshot "delivery-case-manifest.json"
    "delivery case export manifest is missing"
  let resultRaw ← required snapshot "delivery-result.json" "delivery case export result is missing"
  let entries ← loadExportManifest codec manifestRaw
  require (decide ((snapshot.map (·.path)).toFinset.erase manifestPath =
    (entries.map (·.path)).toFinset)) ⟨"delivery case export manifest file set is not exact"⟩
  require (entries.all (entryHolds codec snapshot)) ⟨"delivery case export integrity failed"⟩
  let stored ← loadStrictModel codec DeliveryCaseResult.validate DeliveryCaseResult.document
    "delivery result" resultRaw
  match tree.child "case".toList with
  | none => .error ⟨"delivery case path cannot be resolved"⟩
  | some inner => do
    let derived ← inspectDeliveryCase codec inner
    require (decide (derived = stored)) ⟨"delivery result does not match the replayed case"⟩
    .ok derived

/-! ## Export -/

/-- `0o600`. -/
def privateMode : Nat := 384

/-- A file beside the case. -/
def besideCase (path : Text) (payload : Octets)
    (legal : ∀ part ∈ pathSegments path, part ∉ unsafeSegments := by decide) : CaseFile :=
  ⟨path, payload, privateMode, legal⟩

/-- What an export writes. -/
def exportFiles (snapshot : Snapshot) (resultBytes summaryBytes manifestBytes : Octets) :
    List CaseFile :=
  snapshot.map CaseFile.exported ++ [besideCase resultPath resultBytes,
    besideCase summaryPath summaryBytes, besideCase manifestPath manifestBytes]

/-- What a dictionary is dumped as; the documents of an export have a canonical form. -/
def dumped (fields : JsonObject) : Except DeliveryCaseError Octets :=
  match codec.dumps fields with
  | none => .error ⟨"delivery case export failed"⟩
  | some payload => .ok payload

def writeAll (files : List CaseFile) : Except DeliveryCaseError CaseTree :=
  match files.foldlM writeNew CaseTree.empty with
  | .error _ => .error ⟨"delivery case export failed"⟩
  | .ok tree => .ok tree

/-- `export_delivery_case`: the result, and the directory the output name stands for then. -/
def exportDeliveryCase (taken : Bool) (source : CaseTree) :
    Except DeliveryCaseError (DeliveryCaseResult × CaseTree) := do
  require (!taken) ⟨"delivery case export target already exists"⟩
  let result ← inspectDeliveryCase codec source
  let snapshot ← scanCaseTree source
  let resultBytes ← dumped codec result.document
  let summaryBytes := Utf8.encode (renderDeliverySummary result)
  let manifestBytes ← dumped codec
    (exportManifest result.caseId (exportEntries codec snapshot resultBytes summaryBytes))
  let stage ← writeAll (exportFiles snapshot resultBytes summaryBytes manifestBytes)
  let _ ← verifyExportedDeliveryCase codec stage
  .ok (result, stage)

end Codec

end OpenWorkProof.DeliveryCase
