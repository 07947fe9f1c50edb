import Mathlib.Logic.Equiv.List
import OpenWorkProof.Bridge.Session
/-!
# Decision tokens over a run

Where an accepted token comes from: an earlier authorization of the same execution, for a case whose
manifest allows the tool. The store binds a token to an execution identity, not to a case.
-/

namespace OpenWorkProof.Dsh

open Reactive (Outcome after trace)

/-! ## What one line does to the tokens -/

/-- The effects the token store takes part in, and the opening of cases. -/
def Effect.isMark : Effect → Bool
  | .opened _ | .issued _ _ _ _ _ | .accepted _ _ _ _ => true
  | _ => false

def marks (effects : List Effect) : List Effect := effects.filter Effect.isMark

theorem marks_append {front rest : List Effect} : marks (front ++ rest) = marks front ++ marks rest :=
  List.filter_append _ _

theorem mem_marks {effects : List Effect} {event : Effect} (h : event.isMark = true) :
    event ∈ marks effects ↔ event ∈ effects := by
  simp [marks, h]

/-- One line leaves the tokens, opens a case, issues a token or presents one. -/
inductive TokenStep (config : BridgeConfig) (s t : BridgeState) (effects : List Effect) : Prop
  | idle (tokens : t.decisionTokens = s.decisionTokens) (cases : t.cases = s.cases)
      (silent : marks effects = [])
  | opens (manifest : DshCaseManifest) (tokens : t.decisionTokens = s.decisionTokens)
      (cases : t.cases = s.cases.set manifest.caseId manifest)
      (mark : marks effects = [.opened manifest])
  | issues (caseId : Digest64) (manifest : DshCaseManifest) (execution : DshExecutionIdentity)
      (secret : Digest64) (now : Int) (opened : s.cases.get caseId = some manifest)
      (allowed : execution.toolName ∈ manifest.allowedTools)
      (tokens : t.decisionTokens = s.decisionTokens.set (config.digests.token secret)
        ⟨config.digests.execution execution, now + decisionLifetime⟩)
      (cases : t.cases = s.cases)
      (mark : marks effects = [.issued manifest execution secret now (now + decisionLifetime)])
  | presents (caseId : Digest64) (manifest : DshCaseManifest) (execution : DshExecutionIdentity)
      (token : Digest64) (time : Int) (opened : s.cases.get caseId = some manifest)
      (tokens : t.decisionTokens =
        (consume config.digests s.decisionTokens time token execution).2)
      (cases : t.cases = s.cases)
      (mark : marks effects =
        if (consume config.digests s.decisionTokens time token execution).1 then
          [.accepted caseId execution token time] else [])

section Step

variable {config : BridgeConfig} {world : Surroundings} {s : BridgeState}

theorem openCase_tokens {path : String} :
    TokenStep config s (openCase world s path).state (openCase world s path).effects := by
  rw [openCase]
  split
  · exact .idle rfl rfl rfl
  case h_2 manifest _ => exact .opens manifest rfl rfl rfl

theorem checkAuthorization_tokens {payload : DshAuthorizationCheckPayload} :
    TokenStep config s (checkAuthorization config world s payload).state
      (checkAuthorization config world s payload).effects := by
  rw [checkAuthorization]
  cases opened : s.cases.get payload.caseId with
  | none => exact .idle rfl rfl rfl
  | some manifest =>
    dsimp only
    split
    case isFalse => exact .idle rfl rfl rfl
    case isTrue allowed =>
      cases reading : bridgeNow world.now with
      | error fault => exact .idle rfl rfl rfl
      | ok now =>
        dsimp only
        cases stored : issue config.digests s.decisionTokens world.issueNow world.secret
            payload.execution (now + decisionLifetime) with
        | error fault => exact .idle rfl rfl rfl
        | ok tokens =>
          exact .issues payload.caseId manifest payload.execution world.secret now opened allowed
            (issue_ok.mp stored).2 rfl rfl

theorem commitObservation_tokens {payload : DshObservationCommitPayload} :
    TokenStep config s (commitObservation config world s payload).state
      (commitObservation config world s payload).effects := by
  rw [commitObservation]
  split
  · exact .idle rfl rfl rfl
  · dsimp only
    split
    · exact .idle rfl rfl rfl
    · split <;> exact .idle rfl rfl rfl

/-- An execution leaves the tokens or presents the one of its payload. -/
theorem executeAction_tokens {digests : DshDigests} {manifest : DshCaseManifest}
    {truth : Except HandlerFault CaseTruth} {ports : ActionPorts} {tokens : DecisionTokens}
    {payload : DshActionExecutePayload} :
    let run := executeAction digests manifest truth ports tokens payload
    (run.tokens = tokens ∧ run.acceptedAt = none) ∨
      ∃ time, run.tokens = (consume digests tokens time payload.decisionToken payload.execution).2 ∧
        run.acceptedAt = if (consume digests tokens time payload.decisionToken payload.execution).1
          then some time else none := by
  have checked {α : Type} {result : Except HandlerFault α} {perform} :
      let run := executeChecked digests result ports tokens payload.decisionToken
        payload.execution perform
      (run.tokens = tokens ∧ run.acceptedAt = none) ∨
        ∃ time, run.tokens =
            (consume digests tokens time payload.decisionToken payload.execution).2 ∧
          run.acceptedAt =
            if (consume digests tokens time payload.decisionToken payload.execution).1
            then some time else none := by
    intro run
    cases result with
    | error fault => exact .inl ⟨rfl, rfl⟩
    | ok a =>
      refine .inr ⟨ports.consumeNow, ?_⟩
      simp only [run, executeChecked]
      cases answer : consume digests tokens ports.consumeNow payload.decisionToken
          payload.execution with
      | mk accepted left => cases accepted <;> exact ⟨rfl, rfl⟩
  intro run
  simp only [run, executeAction]
  cases truth.bind (caseRuntime manifest) with
  | error fault => exact .inl ⟨rfl, rfl⟩
  | ok case =>
    cases payload.action with
    | patch patchText targetPaths => exact checked
    | tests testProfileDigest => exact checked

theorem finishAction_tokens {payload : DshActionExecutePayload} {effects : List Effect}
    {result : Except HandlerFault ActionReceipt} :
    let reaction := s.finishAction config payload effects result
    reaction.state.decisionTokens = s.decisionTokens ∧ reaction.state.cases = s.cases ∧
      marks reaction.effects = marks effects := by
  rw [BridgeState.finishAction.eq_def]
  split
  · refine ⟨rfl, rfl, ?_⟩
    show marks (_ ++ _) = _
    rw [marks_append]
    exact List.append_nil _
  · exact ⟨rfl, rfl, rfl⟩
  · split <;> exact ⟨rfl, rfl, rfl⟩
  · exact ⟨rfl, rfl, rfl⟩

theorem executeRequest_tokens {payload : DshActionExecutePayload} :
    TokenStep config s (executeRequest config world s payload).state
      (executeRequest config world s payload).effects := by
  rw [executeRequest]
  cases opened : s.cases.get payload.caseId with
  | none => exact .idle rfl rfl rfl
  | some manifest =>
    dsimp only
    cases (world.ledger manifest).bind fun ledger =>
        durableActionReceipt config.digests manifest ledger payload with
    | error fault => exact .idle rfl rfl rfl
    | ok known =>
      cases known with
      | some receipt => exact .idle rfl rfl rfl
      | none =>
        dsimp only
        have left : ((executeAction config.digests manifest (world.truth manifest)
            (world.ports manifest) s.decisionTokens payload).tokens = _ ∧ _) ∨ _ :=
          executeAction_tokens
        generalize executeAction config.digests manifest (world.truth manifest)
          (world.ports manifest) s.decisionTokens payload = run at left ⊢
        obtain ⟨keptTokens, keptCases, keptMarks⟩ : _ ∧ _ ∧ _ := finishAction_tokens
        rcases left with ⟨same, silent⟩ | ⟨time, presented, accepted⟩
        · refine .idle (keptTokens.trans same) keptCases (keptMarks.trans ?_)
          rw [silent]
          rfl
        · refine .presents payload.caseId manifest payload.execution payload.decisionToken time
            opened (keptTokens.trans presented) keptCases (keptMarks.trans ?_)
          rw [accepted]
          split <;> rfl

theorem answerHandled_tokens {caseId : Digest64} {request : HandledRequest} :
    TokenStep config s (answerHandled world s caseId request).state
      (answerHandled world s caseId request).effects := by
  rw [answerHandled]
  split
  · exact .idle rfl rfl rfl
  · split
    · exact .idle rfl rfl rfl
    · split <;> exact .idle rfl rfl rfl
    · exact .idle rfl rfl rfl

theorem dispatch_tokens {message : DshMessage} :
    TokenStep config s (dispatch config world s message).state
      (dispatch config world s message).effects := by
  cases message with
  | hello hostVersion => exact .idle rfl rfl rfl
  | caseOpen path => exact openCase_tokens
  | authorizationCheck payload => exact checkAuthorization_tokens
  | observationCommit payload => exact commitObservation_tokens
  | actionExecute payload => exact executeRequest_tokens
  | handled caseId request => exact answerHandled_tokens
  | shutdown => exact .idle rfl rfl rfl

end Step

/-! ## Runs -/

/-- The tokens issued in a run, in order. -/
def issuedTokens (effects : List Effect) : List Digest64 :=
  effects.filterMap fun
    | .issued _ _ token _ _ => some token
    | _ => none

/-- What stands behind an accepted token: its case is open; the token was issued for the same
execution under a manifest that allows the tool, thirty seconds before it expires, and has not
expired; and it was not accepted before. -/
structure Authorized (past : List Effect) (caseId : Digest64) (execution : DshExecutionIdentity)
    (token : Digest64) (time : Int) : Prop where
  opened : ∃ manifest, .opened manifest ∈ past ∧ manifest.caseId = caseId
  issued : ∃ manifest checkedAt expiresAt,
    .issued manifest execution token checkedAt expiresAt ∈ past ∧ .opened manifest ∈ past ∧
      execution.toolName ∈ manifest.allowedTools ∧ expiresAt = checkedAt + decisionLifetime ∧
      time < expiresAt
  unspent : ∀ otherCase other at_, .accepted otherCase other token at_ ∉ past

/-- Every accepted token of a run was authorized when it was accepted. -/
def AllAuthorized (effects : List Effect) : Prop :=
  ∀ past caseId execution token time rest,
    effects = past ++ .accepted caseId execution token time :: rest →
      Authorized past caseId execution token time

/-- How the store and the cases follow from the marks of a run. -/
structure TokensFollow (config : BridgeConfig) (s : BridgeState) (past : List Effect) : Prop where
  opened : ∀ caseId manifest, s.cases.get caseId = some manifest →
    .opened manifest ∈ past ∧ manifest.caseId = caseId
  issued : ∀ manifest execution token checkedAt expiresAt,
    .issued manifest execution token checkedAt expiresAt ∈ past → .opened manifest ∈ past ∧
      execution.toolName ∈ manifest.allowedTools ∧ expiresAt = checkedAt + decisionLifetime
  stored : ∀ hash stored, s.decisionTokens.get hash = some stored →
    ∃ manifest execution token checkedAt,
      .issued manifest execution token checkedAt stored.expiresAt ∈ past ∧
        config.digests.token token = hash ∧ config.digests.execution execution = stored.executionDigest
  spent : ∀ caseId execution token time, .accepted caseId execution token time ∈ past →
    token ∈ issuedTokens past ∧ s.decisionTokens.get (config.digests.token token) = none
  authorized : AllAuthorized past

section Runs

variable {config : BridgeConfig} {s t : BridgeState} {past effects : List Effect}

theorem issuedTokens_append {front rest : List Effect} :
    issuedTokens (front ++ rest) = issuedTokens front ++ issuedTokens rest :=
  List.filterMap_append

theorem mem_issuedTokens {token : Digest64} : token ∈ issuedTokens effects ↔
    ∃ manifest execution checkedAt expiresAt,
      .issued manifest execution token checkedAt expiresAt ∈ effects := by
  rw [issuedTokens, List.mem_filterMap]
  constructor
  · intro ⟨event, member, same⟩
    cases event with
    | issued manifest execution other checkedAt expiresAt =>
      obtain rfl := Option.some.inj same
      exact ⟨manifest, execution, checkedAt, expiresAt, member⟩
    | _ => cases same
  · intro ⟨manifest, execution, checkedAt, expiresAt, member⟩
    exact ⟨_, member, rfl⟩

/-- One more mark that is no acceptance. -/
theorem AllAuthorized.snoc {event : Effect} (h : AllAuthorized past)
    (last : ∀ caseId execution token time, event = .accepted caseId execution token time →
      Authorized past caseId execution token time) : AllAuthorized (past ++ [event]) := by
  intro front caseId execution token time rest split
  rcases Reactive.split_snoc split with ⟨rfl, accepted⟩ | ⟨between, before⟩
  · exact last caseId execution token time accepted.symm
  · exact h front caseId execution token time between before

/-- A line keeps it, as long as no secret is drawn twice. -/
theorem TokensFollow.step (injectiveToken : Function.Injective config.digests.token)
    (injectiveExecution : Function.Injective config.digests.execution)
    (h : TokensFollow config s past) (line : TokenStep config s t effects)
    (fresh : (issuedTokens (past ++ marks effects)).Nodup) :
    TokensFollow config t (past ++ marks effects) := by
  cases line with
  | idle tokens cases silent =>
    rw [silent, List.append_nil]
    exact ⟨cases ▸ h.opened, h.issued, tokens ▸ h.stored, tokens ▸ h.spent, h.authorized⟩
  | opens manifest tokens cases mark =>
    rw [mark] at fresh ⊢
    refine ⟨?_, ?_, ?_, ?_, h.authorized.snoc nofun⟩
    · intro caseId other held
      rw [cases, Table.get_set_eq] at held
      by_cases same : caseId = manifest.caseId
      · rw [if_pos same] at held
        obtain rfl := Option.some.inj held
        exact ⟨by simp, same.symm⟩
      · rw [if_neg same] at held
        exact ⟨List.mem_append_left _ (h.opened caseId other held).1, (h.opened caseId other held).2⟩
    · intro other execution token checkedAt expiresAt member
      have old := h.issued other execution token checkedAt expiresAt (by simpa using member)
      exact ⟨List.mem_append_left _ old.1, old.2⟩
    · intro hash stored held
      rw [tokens] at held
      obtain ⟨other, execution, token, checkedAt, member, same⟩ := h.stored hash stored held
      exact ⟨other, execution, token, checkedAt, List.mem_append_left _ member, same⟩
    · intro caseId execution token time member
      have old := h.spent caseId execution token time (by simpa using member)
      rw [tokens, issuedTokens_append]
      exact ⟨List.mem_append_left _ old.1, old.2⟩
  | issues caseId manifest execution secret now opened allowed tokens cases mark =>
    rw [mark] at fresh ⊢
    rw [issuedTokens_append] at fresh
    refine ⟨?_, ?_, ?_, ?_, h.authorized.snoc nofun⟩
    · intro id other held
      rw [cases] at held
      exact ⟨List.mem_append_left _ (h.opened id other held).1, (h.opened id other held).2⟩
    · intro other executed token checkedAt expiresAt member
      rcases List.mem_append.mp member with old | new
      · have known := h.issued other executed token checkedAt expiresAt old
        exact ⟨List.mem_append_left _ known.1, known.2⟩
      · cases List.mem_singleton.mp new
        exact ⟨List.mem_append_left _ (h.opened caseId manifest opened).1, allowed, rfl⟩
    · intro hash stored held
      rw [tokens, Table.get_set_eq] at held
      by_cases same : hash = config.digests.token secret
      · rw [if_pos same] at held
        obtain rfl := Option.some.inj held
        exact ⟨manifest, execution, secret, now, by simp, same.symm, rfl⟩
      · rw [if_neg same] at held
        obtain ⟨other, executed, token, checkedAt, member, rest⟩ := h.stored hash stored held
        exact ⟨other, executed, token, checkedAt, List.mem_append_left _ member, rest⟩
    · intro id executed token time member
      obtain ⟨known, absent⟩ := h.spent id executed token time (by simpa using member)
      -- the secret is new, so its hash is not that of a spent token
      have other : config.digests.token token ≠ config.digests.token secret := by
        intro same
        obtain rfl := injectiveToken same
        exact (List.nodup_append.mp fresh).2.2 token known token List.mem_cons_self rfl
      rw [issuedTokens_append, tokens, Table.get_set_ne _ _ other]
      exact ⟨List.mem_append_left _ known, absent⟩
  | presents caseId manifest execution token time opened tokens cases mark =>
    -- presenting a token stores none, and leaves no trace of it
    have stored : ∀ hash stored, t.decisionTokens.get hash = some stored →
        s.decisionTokens.get hash = some stored := by
      intro hash stored held
      rw [tokens] at held
      exact get_of_consume held
    have gone : t.decisionTokens.get (config.digests.token token) = none := by
      rw [tokens]
      exact get_consume
    have absent : ∀ hash, s.decisionTokens.get hash = none → t.decisionTokens.get hash = none := by
      intro hash missing
      cases held : t.decisionTokens.get hash with
      | none => rfl
      | some found =>
        rw [stored hash found held] at missing
        cases missing
    by_cases accepted : (consume config.digests s.decisionTokens time token execution).1 = true
    · rw [mark, if_pos accepted]
      obtain ⟨expiresAt, held, early⟩ := consume_accepted accepted
      obtain ⟨issuer, executed, drawn, checkedAt, member, sameToken, sameExecution⟩ :=
        h.stored _ _ held
      obtain rfl := injectiveToken sameToken
      obtain rfl := injectiveExecution sameExecution
      have known : drawn ∈ issuedTokens past :=
        mem_issuedTokens.mpr ⟨issuer, executed, checkedAt, expiresAt, member⟩
      refine ⟨?_, ?_, ?_, ?_, ?_⟩
      · intro id other heldCase
        rw [cases] at heldCase
        exact ⟨List.mem_append_left _ (h.opened id other heldCase).1, (h.opened id other heldCase).2⟩
      · intro other execution token checkedAt expiresAt member
        have old := h.issued other execution token checkedAt expiresAt (by simpa using member)
        exact ⟨List.mem_append_left _ old.1, old.2⟩
      · intro hash found heldToken
        obtain ⟨other, execution, token, checkedAt, member, same⟩ :=
          h.stored hash found (stored hash found heldToken)
        exact ⟨other, execution, token, checkedAt, List.mem_append_left _ member, same⟩
      · intro id other spentToken at_ member
        rw [issuedTokens_append]
        rcases List.mem_append.mp member with old | new
        · obtain ⟨issuedBefore, missing⟩ := h.spent id other spentToken at_ old
          exact ⟨List.mem_append_left _ issuedBefore, absent _ missing⟩
        · cases List.mem_singleton.mp new
          exact ⟨List.mem_append_left _ known, gone⟩
      · refine h.authorized.snoc ?_
        intro id other spentToken at_ same
        cases same
        obtain ⟨issuerOpened, allowed, lifetime⟩ := h.issued _ _ _ _ _ member
        refine ⟨⟨manifest, h.opened caseId manifest opened⟩,
          ⟨issuer, checkedAt, expiresAt, member, issuerOpened, allowed, lifetime, early⟩, ?_⟩
        intro otherCase other at_ before
        rw [(h.spent otherCase other drawn at_ before).2] at held
        cases held
    · rw [mark, if_neg accepted, List.append_nil]
      refine ⟨cases ▸ h.opened, h.issued, fun hash found held => h.stored hash found
        (stored hash found held), ?_, h.authorized⟩
      intro id other spentToken at_ member
      obtain ⟨known, missing⟩ := h.spent id other spentToken at_ member
      exact ⟨known, absent _ missing⟩

/-- A step is one of the tokens and the cases alone. -/
theorem TokenStep.transport {s' : BridgeState} {effects' : List Effect}
    (h : TokenStep config s t effects) (tokens : s.decisionTokens = s'.decisionTokens)
    (sameCases : s.cases = s'.cases) (sameMarks : marks effects = marks effects') :
    TokenStep config s' t effects' := by
  cases h with
  | idle kept cases silent =>
    exact .idle (tokens ▸ kept) (sameCases ▸ cases) (sameMarks ▸ silent)
  | opens manifest kept cases mark =>
    exact .opens manifest (tokens ▸ kept) (sameCases ▸ cases) (sameMarks ▸ mark)
  | issues caseId manifest execution secret now opened allowed stored cases mark =>
    exact .issues caseId manifest execution secret now (sameCases ▸ opened) allowed
      (tokens ▸ stored) (sameCases ▸ cases) (sameMarks ▸ mark)
  | presents caseId manifest execution token time opened left cases mark =>
    exact .presents caseId manifest execution token time (sameCases ▸ opened) (tokens ▸ left)
      (sameCases ▸ cases) (by rw [← sameMarks, mark, tokens])

/-- A line dispatches its request, or has no effect and changes at most the session. -/
theorem handleLine_cases {app : DshBridgeApplication} {call : Surroundings × Octets} :
    (∃ request, (handleLine config app call).state.inner =
        (dispatch config call.1 { app.inner with nextSequence := app.inner.nextSequence + 1 }
          request.message).state ∧
      (handleLine config app call).effects = .dispatched request ::
        (dispatch config call.1 { app.inner with nextSequence := app.inner.nextSequence + 1 }
          request.message).effects) ∨
    (handleLine config app call).effects = [] ∧ ∃ sessionId nextSequence,
      (handleLine config app call).state.inner =
        { app.inner with sessionId := sessionId, nextSequence := nextSequence } := by
  cases decoded : readCall config call with
  | error fault =>
    rw [handleLine_unread decoded]
    exact .inr ⟨rfl, _, _, rfl⟩
  | ok request =>
    cases known : app.answers.get request.requestId with
    | some held =>
      rw [handleLine_known decoded known]
      exact .inr ⟨rfl, _, _, rfl⟩
    | none =>
      obtain ⟨-, state, made⟩ := handleLine_new decoded known
      rw [state, made]
      by_cases dispatches : Dispatches app.inner request
      · rw [answerNew_dispatches dispatches]
        exact .inl ⟨request, rfl, rfl⟩
      · by_cases greeted : app.inner.shutdown = false ∧ app.inner.sessionId = none ∧ Greets request
        · obtain ⟨-, newState, silent⟩ : _ ∧ _ ∧ _ :=
            answerNew_greets greeted.1 greeted.2.1 greeted.2.2
          exact .inr ⟨silent, _, _, newState⟩
        · obtain ⟨-, newState, silent⟩ : _ ∧ _ ∧ _ := answerNew_rejects dispatches greeted
          exact .inr ⟨silent, _, _, newState⟩

theorem handleLine_tokens {app : DshBridgeApplication} {call : Surroundings × Octets} :
    TokenStep config app.inner (handleLine config app call).state.inner
      (handleLine config app call).effects := by
  rcases handleLine_cases with ⟨request, state, made⟩ | ⟨silent, _, _, state⟩
  · rw [state, made]
    exact dispatch_tokens.transport rfl rfl rfl
  · rw [state, silent]
    exact .idle rfl rfl rfl

theorem tokens_follow (injectiveToken : Function.Injective config.digests.token)
    (injectiveExecution : Function.Injective config.digests.execution)
    {observations : String → Observations} {calls : List (Surroundings × Octets)}
    (fresh : (issuedTokens
      (marks (trace (handleLine config) (newApplication observations) calls))).Nodup) :
    TokensFollow config (after (handleLine config) (newApplication observations) calls).inner
      (marks (trace (handleLine config) (newApplication observations) calls)) := by
  induction calls using List.reverseRecOn with
  | nil =>
    refine ⟨?_, nofun, ?_, nofun, ?_⟩
    · intro caseId manifest held
      have missing : (∅ : Table Digest64 DshCaseManifest).get caseId = none :=
        Table.get_empty caseId
      cases missing.symm.trans held
    · intro hash stored held
      have missing : (∅ : DecisionTokens).get hash = none := Table.get_empty hash
      cases missing.symm.trans held
    · intro past caseId execution token time rest split
      cases past <;> cases split
  | append_singleton past call ih =>
    rw [Reactive.after_snoc, Reactive.trace_snoc, marks_append] at *
    refine (ih ?_).step injectiveToken injectiveExecution handleLine_tokens fresh
    rw [issuedTokens_append] at fresh
    exact (List.nodup_append.mp fresh).1

/-- What is authorized by the marks is by all effects. -/
theorem AllAuthorized.of_marks (h : AllAuthorized (marks effects)) : AllAuthorized effects := by
  intro front caseId execution token time rest split
  have here : Authorized (marks front) caseId execution token time := by
    refine h (marks front) caseId execution token time (marks rest) ?_
    rw [split, marks_append]
    rfl
  obtain ⟨manifest, opened, same⟩ := here.opened
  obtain ⟨issuer, checkedAt, expiresAt, issued, issuerOpened, facts⟩ := here.issued
  refine ⟨⟨manifest, (mem_marks rfl).mp opened, same⟩,
    ⟨issuer, checkedAt, expiresAt, (mem_marks rfl).mp issued, (mem_marks rfl).mp issuerOpened,
      facts⟩, ?_⟩
  intro otherCase other at_ before
  exact here.unspent otherCase other at_ ((mem_marks rfl).mpr before)

/-- The tokens accepted in a run, in order. -/
def acceptedTokens (effects : List Effect) : List Digest64 :=
  effects.filterMap fun
    | .accepted _ _ token _ => some token
    | _ => none

theorem AllAuthorized.nodup (h : AllAuthorized effects) : (acceptedTokens effects).Nodup := by
  induction effects using List.reverseRecOn with
  | nil => exact List.nodup_nil
  | append_singleton front event ih =>
    have earlier : AllAuthorized front := by
      intro past caseId execution token time rest split
      exact h past caseId execution token time (rest ++ [event]) (by
        rw [split, List.append_assoc]
        rfl)
    rw [acceptedTokens, List.filterMap_append, List.nodup_append]
    refine ⟨ih earlier, ?_, ?_⟩
    · cases event <;> simp
    · intro token before last member
      cases event with
      | accepted caseId execution presented time =>
        obtain rfl := List.mem_singleton.mp member
        intro same
        subst same
        obtain ⟨other, inside, found⟩ := List.mem_filterMap.mp before
        cases other with
        | accepted otherCase executed _ at_ =>
          obtain rfl := Option.some.inj found
          exact (h front caseId execution _ time [] rfl).unspent otherCase executed at_ inside
        | _ => cases found
      | _ => cases member

/-- **Every action the ledger executes was authorized.** Over any lines, with handlers that may
raise; SHA-256 is taken without collisions, and the secrets drawn in a run are distinct. -/
theorem authorized_of_accepted (injectiveToken : Function.Injective config.digests.token)
    (injectiveExecution : Function.Injective config.digests.execution)
    {observations : String → Observations} {calls : List (Surroundings × Octets)}
    (fresh : (issuedTokens
      (trace (handleLine config) (newApplication observations) calls)).Nodup) :
    AllAuthorized (trace (handleLine config) (newApplication observations) calls) ∧
      (acceptedTokens (trace (handleLine config) (newApplication observations) calls)).Nodup := by
  have same : issuedTokens (marks (trace (handleLine config) (newApplication observations) calls)) =
      issuedTokens (trace (handleLine config) (newApplication observations) calls) := by
    rw [issuedTokens, issuedTokens, marks, List.filterMap_filter]
    congr 1
    funext event
    cases event <;> rfl
  have all := (tokens_follow injectiveToken injectiveExecution (same ▸ fresh)).authorized.of_marks
  exact ⟨all, all.nodup⟩

end Runs

/-! ## Samples -/

namespace Sample

open OpenWorkProof.Sample

/-- A test run of the profile of the sample work order. -/
def testRun : DshExecutionIdentity := ⟨"session", "call", "root", .owpRunTests, 31⟩

/-- A case that allows test runs. -/
def testCase : DshCaseManifest where
  caseId := 101
  workOrderDigest := workOrder.digest
  sourceRevision := workOrder.sourceCommit
  allowedTools := [.owpRunTests]
  testProfileDigest := 31
  evidenceRoot := "evidence"
  verifierSocketPath := some "verifier"
  mode := .enforce

/-- A case of the same work order that allows patches only. -/
def patchCase : DshCaseManifest :=
  { testCase with
    caseId := 102
    allowedTools := [.owpApplyPatch]
    ownTools := by decide
    someTool := by decide
    verifierReady := by decide }

def emptyLedger : Ledger where
  workOrder := workOrder
  receipts := []
  bound := List.forall_mem_nil _

/-- A ledger without receipts, and a verifier out of reach. -/
def idleWorld : Surroundings :=
  { silent with
    loadCase := fun path => .ok (if path = "tests" then testCase else patchCase)
    secret := 7
    ledger := fun _ => .ok emptyLedger
    truth := fun _ => .ok ⟨workOrder, [], 54, 55, 11, 12⟩
    ports := fun manifest =>
      { silent.ports manifest with
        runTests := fun _ _ _ => .error (.runtime "VERIFIER_TRANSPORT_UNAVAILABLE") } }

/-- The test run as an action of a case, with the token that is drawn. -/
def testAction (caseId : Digest64) : DshActionExecutePayload where
  caseId := caseId
  execution := testRun
  decisionToken := 7
  action := .tests 31

/-- Requests that open both cases, authorize the test run in the first, and execute it in either. -/
def testRequests : List DshBridgeRequest :=
  [greeting,
    ⟨2, "session", 1, 1, .caseOpen "tests"⟩,
    ⟨3, "session", 2, 2, .caseOpen "patches"⟩,
    ⟨4, "session", 3, 3, .authorizationCheck ⟨101, testRun⟩⟩,
    ⟨5, "session", 4, 4, .actionExecute (testAction 101)⟩,
    ⟨6, "session", 4, 4, .actionExecute (testAction 102)⟩]

/-- The lines of the named requests. -/
def lines (world : Surroundings) (octets : Octets) : List (Surroundings × Octets) :=
  octets.map fun octet => (world, [octet])

/-- An injective code of an identity. -/
def identityCode (execution : DshExecutionIdentity) : Digest64 :=
  Encodable.encode [execution.sessionId.toList.map Char.toNat, execution.callId.toList.map Char.toNat,
    execution.rootCallId.toList.map Char.toNat,
    [execution.toolName.ctorIdx, execution.argumentsDigest]]

theorem nameCode_injective : Function.Injective fun name : String => name.toList.map Char.toNat := by
  intro first second same
  exact String.toList_injective (List.map_injective_iff.mpr (fun _ _ => Char.toNat_inj.mp) same)

theorem identityCode_injective : Function.Injective identityCode := by
  have tools : ∀ first second : DshToolName, first.ctorIdx = second.ctorIdx → first = second := by
    intro first second same
    cases first <;> cases second <;> first | rfl | cases same
  intro first second same
  have parts := Encodable.encode_injective same
  simp only [List.cons.injEq, and_true] at parts
  obtain ⟨session, call, root, tool, arguments⟩ := parts
  cases first
  cases second
  simp only [DshExecutionIdentity.mk.injEq]
  exact ⟨nameCode_injective session, nameCode_injective call, nameCode_injective root,
    tools _ _ tool, arguments⟩

def injectiveConfig (requests : List DshBridgeRequest) : BridgeConfig :=
  { bridgeConfig requests with digests := { bridgeDigests with execution := identityCode } }

end Sample

theorem authorized_of_accepted_test :
    AllAuthorized (trace (handleLine (Sample.injectiveConfig Sample.testRequests))
        (newApplication fun _ => ∅) (Sample.lines Sample.idleWorld [0, 1, 2, 3, 4])) ∧
      acceptedTokens (trace (handleLine (Sample.injectiveConfig Sample.testRequests))
        (newApplication fun _ => ∅) (Sample.lines Sample.idleWorld [0, 1, 2, 3, 4])) = [7] := by
  have fresh : (issuedTokens (trace (handleLine (Sample.injectiveConfig Sample.testRequests))
      (newApplication fun _ => ∅) (Sample.lines Sample.idleWorld [0, 1, 2, 3, 4]))).Nodup := by
    have drawn : issuedTokens (trace (handleLine (Sample.injectiveConfig Sample.testRequests))
        (newApplication fun _ => ∅) (Sample.lines Sample.idleWorld [0, 1, 2, 3, 4])) = [7] := rfl
    rw [drawn]
    exact List.nodup_singleton 7
  exact ⟨(authorized_of_accepted (fun _ _ same => same) Sample.identityCode_injective fresh).1, rfl⟩

/-- What authorizing an action for its own case would mean. -/
structure AuthorizedInCase (past : List Effect) (caseId : Digest64)
    (execution : DshExecutionIdentity) (token : Digest64) (time : Int) : Prop where
  issued : ∃ manifest checkedAt expiresAt,
    .issued manifest execution token checkedAt expiresAt ∈ past ∧ manifest.caseId = caseId ∧
      execution.toolName ∈ manifest.allowedTools ∧ time < expiresAt
  unspent : ∀ otherCase other at_, .accepted otherCase other token at_ ∉ past

/-- A token of the case that allows test runs executes one in the case that allows patches only. -/
theorem accepted_in_other_case :
    ¬∀ past caseId execution token time rest,
      trace (handleLine (Sample.injectiveConfig Sample.testRequests)) (newApplication fun _ => ∅)
          (Sample.lines Sample.idleWorld [0, 1, 2, 3, 5]) =
        past ++ .accepted caseId execution token time :: rest →
      AuthorizedInCase past caseId execution token time := by
  intro claimed
  have split : trace (handleLine (Sample.injectiveConfig Sample.testRequests))
      (newApplication fun _ => ∅) (Sample.lines Sample.idleWorld [0, 1, 2, 3, 5]) =
        _ ++ [.accepted 102 Sample.testRun 7 0] :=
    (List.dropLast_append_getLast (List.cons_ne_nil _ _)).symm
  obtain ⟨manifest, checkedAt, expiresAt, issued, sameCase, -⟩ :=
    (claimed _ 102 Sample.testRun 7 0 [] split).issued
  have only : manifest = Sample.testCase := by
    have marked : Effect.issued manifest Sample.testRun 7 checkedAt expiresAt ∈
        [.opened Sample.testCase, .opened Sample.patchCase,
          .issued Sample.testCase Sample.testRun 7 0 30000000] := (mem_marks rfl).mpr issued
    simp only [List.mem_cons, reduceCtorEq, List.not_mem_nil, or_false, false_or,
      Effect.issued.injEq] at marked
    exact marked.1
  subst only
  cases sameCase

end OpenWorkProof.Dsh
