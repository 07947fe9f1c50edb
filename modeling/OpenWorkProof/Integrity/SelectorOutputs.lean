import OpenWorkProof.Integrity.Population
/-!
# The outputs of selector rules

A selector rule is replayed from its signed specification: the first file among its required
evidence that has the digest of the specification. The ledger reads the files beside it and a
package its own copies, so reading is a parameter here. Where two readings agree on the outputs of
all rules, the tables of the outputs agree.
-/

namespace OpenWorkProof

variable {Bytes ε : Type} (reader : EvidenceReader Bytes)

/-- The first file with the digest of a specification; files are read in order until it is met. -/
def findSelectorSpec (read : CanonicalRoot → Except ε Bytes) (specDigest : Digest64) :
    List CanonicalRoot → Except ε (Option Bytes)
  | [] => .ok none
  | path :: rest => do
    let payload ← read path
    if reader.sha256 payload = specDigest then .ok (some payload)
    else findSelectorSpec read specDigest rest

/-- `kind_partition`. -/
def kindPartition (manifest : EvaluationScopeManifest) (kind : ScopeMemberKind) : List Digest64 :=
  ((manifest.members.filter fun member => member.memberKind == kind).map (·.memberId)).insertionSort
    (· ≤ ·)

/-- The members with one of the locators a specification names. -/
def locatedMembers (manifest : EvaluationScopeManifest) (locators : List String) : List Digest64 :=
  ((manifest.members.filter fun member => locators.contains member.locator).map
    (·.memberId)).insertionSort (· ≤ ·)

/-- The output of a specification; the locators of an explicit one are read by a parameter, since
the two readers are not equally strict about them. -/
def selectorOutput (manifest : EvaluationScopeManifest) (locators : Json → Except ε (List String))
    (unsupported : ε) (document : Json) : Except ε (List Digest64) :=
  match (document.field "selector_kind").bind Json.text? with
  | some "git_diff_closure" => .ok (kindPartition manifest .sourceFile)
  | some "pytest_collection" => .ok (kindPartition manifest .testCase)
  | some "explicit" => do
    let named ← locators document
    .ok (locatedMembers manifest named)
  | _ => .error unsupported

/-- `outputs[rule.rule_id] = …` for every rule. -/
def outputsOf (output : ScopeSelectorRule → Except ε (List Digest64))
    (rules : List ScopeSelectorRule) : Except ε RuleOutputs :=
  rules.foldlM (fun outputs rule => do
    let members ← output rule
    .ok (outputs.set rule.ruleId members)) ∅

variable {reader}

/-- The file that is found is the first one already when that one has the digest. -/
theorem findSelectorSpec_first {read : CanonicalRoot → Except ε Bytes} {specDigest : Digest64}
    {path : CanonicalRoot} {rest : List CanonicalRoot} {payload : Bytes}
    (held : read path = .ok payload) (matched : reader.sha256 payload = specDigest) :
    findSelectorSpec reader read specDigest (path :: rest) = .ok (some payload) := by
  rw [findSelectorSpec, held]
  exact if_pos matched

/-- Where every rule has the same output under two readings, so have all. -/
theorem outputsOf_congr {ε' : Type} {output : ScopeSelectorRule → Except ε (List Digest64)}
    {output' : ScopeSelectorRule → Except ε' (List Digest64)} {rules : List ScopeSelectorRule}
    {outputs : RuleOutputs} (agree : ∀ rule ∈ rules, ∀ members, output rule = .ok members →
      output' rule = .ok members) (h : outputsOf output rules = .ok outputs) :
    outputsOf output' rules = .ok outputs := by
  unfold outputsOf at h ⊢
  generalize (∅ : RuleOutputs) = start at h ⊢
  induction rules generalizing start with
  | nil => exact Except.ok.inj h ▸ rfl
  | cons rule rules ih =>
    obtain ⟨next, hstep, hrest⟩ := Replay.foldlM_cons_ok.mp h
    obtain ⟨members, houtput, hnext⟩ := Replay.bind_eq_ok.mp hstep
    refine Replay.foldlM_cons_ok.mpr ⟨next, ?_, ?_⟩
    · exact Replay.bind_eq_ok.mpr ⟨members, agree rule (by simp) members houtput,
        congrArg Except.ok (Except.ok.inj hnext)⟩
    · exact ih (fun other hother => agree other (by simp [hother])) next hrest

/-- Every rule of accepted outputs has one. -/
theorem output_of_outputsOf {output : ScopeSelectorRule → Except ε (List Digest64)}
    {rules : List ScopeSelectorRule} {outputs : RuleOutputs}
    (h : outputsOf output rules = .ok outputs) {rule : ScopeSelectorRule} (hrule : rule ∈ rules) :
    ∃ members, output rule = .ok members := by
  obtain ⟨before, after, hstep⟩ := Replay.step_of_mem h hrule
  obtain ⟨members, houtput, _⟩ := Replay.bind_eq_ok.mp hstep
  exact ⟨members, houtput⟩

end OpenWorkProof
