import OpenWorkProof.Bridge.Application
/-!
# The session protocol of the bridge

Which requests one application dispatches, over any sequence of lines: those of the accepted
session, in the order of their numbers, each once, and none after a shutdown.
-/

namespace OpenWorkProof.Dsh

open Reactive (Outcome after trace)

/-! ## What a run dispatched -/

def Effect.request? : Effect → Option DshBridgeRequest
  | .dispatched request => some request
  | _ => none

def dispatchedRequests (effects : List Effect) : List DshBridgeRequest :=
  effects.filterMap Effect.request?

theorem mem_dispatchedRequests {effects : List Effect} {request : DshBridgeRequest} :
    request ∈ dispatchedRequests effects ↔ .dispatched request ∈ effects := by
  rw [dispatchedRequests, List.mem_filterMap]
  constructor
  · intro ⟨event, member, same⟩
    cases event with
    | dispatched other =>
      obtain rfl := Option.some.inj same
      exact member
    | _ => cases same
  · intro member
    exact ⟨_, member, rfl⟩

theorem dispatchedRequests_append {front rest : List Effect} :
    dispatchedRequests (front ++ rest) = dispatchedRequests front ++ dispatchedRequests rest :=
  List.filterMap_append

section Cascade

variable {config : BridgeConfig} {world : Surroundings} {s : BridgeState}
  {request : DshBridgeRequest} {message : DshMessage}

theorem finishAction_dispatched {payload : DshActionExecutePayload} {effects : List Effect}
    {result : Except HandlerFault ActionReceipt} :
    dispatchedRequests (s.finishAction config payload effects result).effects =
      dispatchedRequests effects := by
  rw [BridgeState.finishAction.eq_def]
  split
  · show dispatchedRequests (_ ++ _) = _
    rw [dispatchedRequests_append]
    exact List.append_nil _
  · rfl
  · split <;> rfl
  · rfl

theorem executeRequest_dispatched {payload : DshActionExecutePayload} :
    dispatchedRequests (executeRequest config world s payload).effects = [] := by
  rw [executeRequest]
  split
  · rfl
  · split
    · rfl
    · rfl
    · rw [finishAction_dispatched]
      cases (executeAction _ _ _ _ _ _).acceptedAt <;> rfl

/-- Only the cascade dispatches. -/
theorem dispatch_dispatched :
    dispatchedRequests (dispatch config world s message).effects = [] := by
  cases message with
  | actionExecute payload => exact executeRequest_dispatched
  | caseOpen path =>
    rw [dispatch, openCase]
    split <;> rfl
  | authorizationCheck payload =>
    rw [dispatch, checkAuthorization]
    repeat' split
    all_goals rfl
  | observationCommit payload =>
    rw [dispatch, commitObservation]
    dsimp only
    repeat' split
    all_goals rfl
  | handled caseId request =>
    rw [dispatch, answerHandled]
    repeat' split
    all_goals rfl
  | hello hostVersion => rfl
  | shutdown => rfl

/-- The cascade lets the request through. -/
def Dispatches (s : BridgeState) (request : DshBridgeRequest) : Prop :=
  s.shutdown = false ∧ s.sessionId = some request.sessionId ∧ request.sequence = s.nextSequence

/-- The request is a hello that starts a session. -/
def Greets (request : DshBridgeRequest) : Prop :=
  request.message.hostVersion?.isSome ∧ request.sequence = 0

instance : Decidable (Greets request) := inferInstanceAs (Decidable (_ ∧ _))

theorem answerNew_dispatches (h : Dispatches s request) :
    answerNew config world s request =
      let reaction := dispatch config world { s with nextSequence := s.nextSequence + 1 }
        request.message
      ⟨reaction.answer.bind (response config request), reaction.state,
        .dispatched request :: reaction.effects⟩ := by
  obtain ⟨live, session, number⟩ := h
  rw [answerNew, live, session]
  simp [number]

theorem response_ok {reply : Reply} (valid : reply.payload.valid = true) :
    ∃ answer, response config request reply = .ok answer := by
  rw [response, valid]
  exact ⟨_, rfl⟩

theorem answerNew_greets (live : s.shutdown = false) (waiting : s.sessionId = none)
    (h : Greets request) :
    (∃ answer, (answerNew config world s request).answer = .ok answer) ∧
      (answerNew config world s request).state =
        { s with sessionId := some request.sessionId, nextSequence := 1 } ∧
      (answerNew config world s request).effects = [] := by
  obtain ⟨hello, first⟩ := h
  obtain ⟨hostVersion, hello⟩ := Option.isSome_iff_exists.mp hello
  rw [answerNew, live, waiting, hello, first]
  exact ⟨response_ok rfl, rfl, rfl⟩

/-- Every other request gets an error and changes nothing. -/
theorem answerNew_rejects (notDispatched : ¬ Dispatches s request)
    (notGreeted : ¬ (s.shutdown = false ∧ s.sessionId = none ∧ Greets request)) :
    (∃ answer, (answerNew config world s request).answer = .ok answer) ∧
      (answerNew config world s request).state = s ∧
      (answerNew config world s request).effects = [] := by
  rw [answerNew]
  cases live : s.shutdown with
  | true => exact ⟨response_ok rfl, rfl, rfl⟩
  | false =>
    cases session : s.sessionId with
    | none =>
      cases hello : request.message.hostVersion? with
      | none => exact ⟨response_ok rfl, rfl, rfl⟩
      | some hostVersion =>
        cases number : request.sequence with
        | zero => exact absurd ⟨live, session, by rw [hello]; rfl, number⟩ notGreeted
        | succ n => exact ⟨response_ok rfl, rfl, rfl⟩
    | some sessionId =>
      by_cases same : request.sessionId = sessionId
      · by_cases number : request.sequence = s.nextSequence
        · exact absurd ⟨live, by rw [session, same], number⟩ notDispatched
        · simp only [same, number, Bool.false_eq_true, ne_eq, not_true_eq_false, not_false_eq_true,
            if_false, if_true]
          exact ⟨response_ok rfl, trivial, trivial⟩
      · simp only [same, Bool.false_eq_true, ne_eq, not_false_eq_true, if_false, if_true]
        exact ⟨response_ok rfl, trivial, trivial⟩

end Cascade

/-! ## The lines of a run -/

section Lines

variable (config : BridgeConfig)

/-- The request a line holds. -/
def readCall (call : Surroundings × Octets) : Except String DshBridgeRequest :=
  readLine config (stripped call).2

/-- No line of `past` has the id of the request. -/
def FirstUnderId (past : List (Surroundings × Octets)) (request : DshBridgeRequest) : Prop :=
  ∀ call ∈ past, ∀ earlier, readCall config call = .ok earlier →
    earlier.requestId ≠ request.requestId

/-- The ids seen so far, and the first hello of sequence zero under an id not seen before it. -/
def scanHello (scan : List Digest64 × Option DshBridgeRequest) (call : Surroundings × Octets) :
    List Digest64 × Option DshBridgeRequest :=
  match readCall config call with
  | .error _ => scan
  | .ok request =>
    (request.requestId :: scan.1,
      if scan.2.isNone ∧ request.requestId ∉ scan.1 ∧ Greets request then some request else scan.2)

/-- The hello that is accepted in a run. -/
def acceptedHello (past : List (Surroundings × Octets)) : Option DshBridgeRequest :=
  (past.foldl (scanHello config) ([], none)).2

/-- Every request that is dispatched is answered: no handler raises. -/
def NoHandlerRaises (start : DshBridgeApplication) (calls : List (Surroundings × Octets)) : Prop :=
  ∀ past call rest, calls = past ++ call :: rest → ∀ request,
    .dispatched request ∈ (handleLine config (after (handleLine config) start past) call).effects →
      ∃ answer, (handleLine config (after (handleLine config) start past) call).answer = .ok answer

variable {config} {past : List (Surroundings × Octets)} {call : Surroundings × Octets}
  {request : DshBridgeRequest} {start : DshBridgeApplication}

theorem mem_scanHello {id : Digest64} : id ∈ (past.foldl (scanHello config) ([], none)).1 ↔
    ∃ call ∈ past, ∃ request, readCall config call = .ok request ∧ request.requestId = id := by
  induction past using List.reverseRecOn with
  | nil => simp
  | append_singleton past call ih =>
    rw [List.foldl_append, List.foldl_cons, List.foldl_nil, scanHello]
    cases decoded : readCall config call with
    | error _ => simp [ih, decoded]
    | ok request => simp [ih, decoded, or_comm, eq_comm]

theorem firstUnderId_iff : FirstUnderId config past request ↔
    request.requestId ∉ (past.foldl (scanHello config) ([], none)).1 := by
  rw [mem_scanHello]
  constructor
  · intro first ⟨call, member, earlier, decoded, same⟩
    exact first call member earlier decoded same
  · intro absent call member earlier decoded same
    exact absent ⟨call, member, earlier, decoded, same⟩

instance : Decidable (FirstUnderId config past request) :=
  decidable_of_iff _ firstUnderId_iff.symm

/-- One more line accepts a hello when none was, and never another. -/
theorem acceptedHello_snoc (decoded : readCall config call = .ok request) :
    acceptedHello config (past ++ [call]) =
      if (acceptedHello config past).isNone ∧ FirstUnderId config past request ∧ Greets request then
        some request
      else acceptedHello config past := by
  simp only [acceptedHello, firstUnderId_iff]
  rw [List.foldl_append, List.foldl_cons, List.foldl_nil, scanHello, decoded]

theorem acceptedHello_unread {fault : String} (h : readCall config call = .error fault) :
    acceptedHello config (past ++ [call]) = acceptedHello config past := by
  simp only [acceptedHello]
  rw [List.foldl_append, List.foldl_cons, List.foldl_nil, scanHello, h]

theorem NoHandlerRaises.front {rest : List (Surroundings × Octets)}
    (h : NoHandlerRaises config start (past ++ rest)) : NoHandlerRaises config start past := by
  intro before call later split
  exact h before call (later ++ rest) (by rw [split, List.append_assoc]; rfl)

theorem handleLine_unread {fault : String} {app : DshBridgeApplication}
    (h : readCall config call = .error fault) :
    handleLine config app call = ⟨.error fault, app, []⟩ :=
  Endpoint.receive_unread h

theorem handleLine_known {app : DshBridgeApplication} {bytes answer : Octets}
    (decoded : readCall config call = .ok request)
    (known : app.answers.get request.requestId = some (bytes, answer)) :
    handleLine config app call =
      ⟨if bytes = (stripped call).2 then .ok answer else conflictResponse config request, app, []⟩ :=
  Endpoint.receive_known decoded known

theorem handleLine_new {app : DshBridgeApplication} (decoded : readCall config call = .ok request)
    (new : app.answers.get request.requestId = none) :
    (handleLine config app call).answer = (answerNew config call.1 app.inner request).answer ∧
      (handleLine config app call).state.inner =
        (answerNew config call.1 app.inner request).state ∧
      (handleLine config app call).effects = (answerNew config call.1 app.inner request).effects :=
  Endpoint.receive_new decoded new

/-- A request is answered unless its handler raises. -/
theorem answered_of_quiet {app : DshBridgeApplication} (decoded : readCall config call = .ok request)
    (quiet : ∀ request', .dispatched request' ∈ (handleLine config app call).effects →
      ∃ answer, (handleLine config app call).answer = .ok answer) :
    ∃ answer, (handleLine config app call).answer = .ok answer := by
  cases known : app.answers.get request.requestId with
  | some held =>
    rw [handleLine_known decoded known]
    dsimp only
    split
    · exact ⟨_, rfl⟩
    · exact response_ok rfl
  | none =>
    obtain ⟨answer, -, effects⟩ := handleLine_new decoded known
    by_cases dispatched : Dispatches app.inner request
    · refine quiet request ?_
      rw [effects, answerNew_dispatches dispatched]
      exact List.mem_cons_self
    · rw [answer]
      by_cases greeted : app.inner.shutdown = false ∧ app.inner.sessionId = none ∧ Greets request
      · exact (answerNew_greets greeted.1 greeted.2.1 greeted.2.2).1
      · exact (answerNew_rejects dispatched greeted).1

/-- In a quiet run the unknown ids are those of no earlier line. -/
theorem unknown_iff_first {observations : String → Observations}
    (quiet : NoHandlerRaises config (newApplication observations) past) :
    (after (handleLine config) (newApplication observations) past).answers.get
        request.requestId = none ↔ FirstUnderId config past request := by
  have lines (calls : List (Surroundings × Octets)) :
      after (handleLine config) (newApplication observations) calls =
        after (Endpoint.receive (readLine config) DshBridgeRequest.requestId (answerNew config)
          (conflictResponse config)) (newApplication observations) (calls.map stripped) := by
    rw [← Reactive.after_map]
    rfl
  have answered : ∀ before call rest, past = before ++ call :: rest → ∀ request,
      readCall config call = .ok request → ∃ answer, (handleLine config
        (after (handleLine config) (newApplication observations) before) call).answer = .ok answer :=
    fun before call rest split request decoded =>
      answered_of_quiet decoded (quiet before call rest split)
  rw [lines, Endpoint.unknown_iff rfl]
  · simp only [Endpoint.First, List.forall_mem_map, FirstUnderId, readCall]
  · intro before line rest split request decoded
    obtain ⟨front, back, rfl, rfl, tail⟩ := List.map_eq_append_iff.mp split
    obtain ⟨call, later, rfl, rfl, -⟩ := List.map_eq_cons_iff.mp tail
    have reply := answered front call later rfl request decoded
    rw [lines] at reply
    exact reply

/-- What the handling of one line dispatches. -/
theorem dispatched_iff {app : DshBridgeApplication} :
    .dispatched request ∈ (handleLine config app call).effects ↔
      readCall config call = .ok request ∧ app.answers.get request.requestId = none ∧
        Dispatches app.inner request := by
  cases decoded : readCall config call with
  | error fault =>
    rw [handleLine_unread decoded]
    simp
  | ok message =>
    cases known : app.answers.get message.requestId with
    | some held =>
      rw [handleLine_known decoded known]
      constructor
      · intro member
        cases member
      · intro ⟨same, new, _⟩
        rw [← Except.ok.inj same, known] at new
        cases new
    | none =>
      rw [(handleLine_new decoded known).2.2, ← mem_dispatchedRequests]
      by_cases dispatches : Dispatches app.inner message
      · rw [answerNew_dispatches dispatches]
        show request ∈ message :: dispatchedRequests _ ↔ _
        rw [dispatch_dispatched, List.mem_singleton]
        constructor
        · rintro rfl
          exact ⟨rfl, known, dispatches⟩
        · intro ⟨same, _⟩
          exact (Except.ok.inj same).symm
      · have silent : (answerNew config call.1 app.inner message).effects = [] := by
          by_cases greeted : app.inner.shutdown = false ∧ app.inner.sessionId = none ∧
              Greets message
          · exact (answerNew_greets greeted.1 greeted.2.1 greeted.2.2).2.2
          · exact (answerNew_rejects dispatches greeted).2.2
        rw [silent]
        constructor
        · intro member
          cases member
        · intro ⟨same, _, through⟩
          rw [← Except.ok.inj same] at through
          exact absurd through dispatches

/-! ## Runs -/

/-- How the session of a state follows from the lines and the dispatched requests. -/
structure SessionFollows (config : BridgeConfig) (past : List (Surroundings × Octets))
    (s : BridgeState) (dispatched : List DshBridgeRequest) : Prop where
  session : s.sessionId = (acceptedHello config past).map (·.sessionId)
  waiting : acceptedHello config past = none → dispatched = []
  next : (acceptedHello config past).isSome → s.nextSequence = dispatched.length + 1
  shutdown : s.shutdown = dispatched.any (·.message.isShutdown)
  numbers : dispatched.map (·.sequence) = List.range' 1 dispatched.length

/-- A line keeps it. -/
theorem SessionFollows.step {app : DshBridgeApplication} {dispatched : List DshBridgeRequest}
    (h : SessionFollows config past app.inner dispatched)
    (unknown : ∀ request, app.answers.get request.requestId = none ↔
      FirstUnderId config past request) :
    SessionFollows config (past ++ [call]) (handleLine config app call).state.inner
      (dispatched ++ dispatchedRequests (handleLine config app call).effects) := by
  -- a line that leaves the state, the effects and the accepted hello alone
  have idle (state : (handleLine config app call).state.inner = app.inner)
      (effects : (handleLine config app call).effects = [])
      (hello : acceptedHello config (past ++ [call]) = acceptedHello config past) :
      SessionFollows config (past ++ [call]) (handleLine config app call).state.inner
        (dispatched ++ dispatchedRequests (handleLine config app call).effects) := by
    rw [state, effects]
    show SessionFollows config (past ++ [call]) app.inner (dispatched ++ [])
    rw [List.append_nil]
    exact ⟨hello ▸ h.session, hello ▸ h.waiting, hello ▸ h.next, h.shutdown, h.numbers⟩
  cases decoded : readCall config call with
  | error fault =>
    have same : handleLine config app call = ⟨.error fault, app, []⟩ := handleLine_unread decoded
    exact idle (by rw [same]) (by rw [same]) (acceptedHello_unread decoded)
  | ok request =>
    have hello : acceptedHello config (past ++ [call]) = _ := acceptedHello_snoc decoded
    cases known : app.answers.get request.requestId with
    | some held =>
      have same : handleLine config app call = _ := handleLine_known decoded known
      have notFirst : ¬ FirstUnderId config past request := by
        rw [← unknown, known]
        simp
      exact idle (by rw [same]) (by rw [same]) (by rw [hello, if_neg fun all => notFirst all.2.1])
    | none =>
      have first := (unknown request).mp known
      obtain ⟨-, state, effects⟩ := handleLine_new decoded known
      by_cases dispatches : Dispatches app.inner request
      · obtain ⟨live, session, number⟩ := dispatches
        have accepted : (acceptedHello config past).isSome := by
          rw [h.session] at session
          cases known : acceptedHello config past with
          | none => rw [known] at session; cases session
          | some hello => rfl
        have same : acceptedHello config (past ++ [call]) = acceptedHello config past := by
          rw [hello, if_neg]
          intro all
          rw [Option.isNone_iff_eq_none] at all
          rw [all.1] at accepted
          cases accepted
        rw [state, effects, answerNew_dispatches ⟨live, session, number⟩]
        have kept : (dispatch config call.1
            { app.inner with nextSequence := app.inner.nextSequence + 1 }
            request.message).state.sessionId = _ ∧ _ ∧ _ := dispatch_session
        obtain ⟨keptSession, keptNext, keptShutdown⟩ := kept
        show SessionFollows config (past ++ [call]) _ (dispatched ++ request :: dispatchedRequests _)
        rw [dispatch_dispatched]
        refine ⟨?_, ?_, ?_, ?_, ?_⟩
        · rw [same, ← h.session]
          exact keptSession
        · intro absent
          rw [same] at absent
          rw [absent] at accepted
          cases accepted
        · intro _
          refine keptNext.trans ?_
          show app.inner.nextSequence + 1 = _
          rw [h.next accepted, List.length_append]
          rfl
        · rw [List.any_append, ← h.shutdown, List.any_cons, List.any_nil, Bool.or_false]
          exact keptShutdown
        · rw [List.map_append, h.numbers, List.length_append, List.length_singleton,
            List.range'_concat, List.map_singleton, number, h.next accepted]
          simp [Nat.add_comm]
      · by_cases greeted : app.inner.shutdown = false ∧ app.inner.sessionId = none ∧ Greets request
        · obtain ⟨live, waiting, greets⟩ := greeted
          have made : (∃ answer, (answerNew config call.1 app.inner request).answer = .ok answer) ∧
            _ ∧ _ := answerNew_greets live waiting greets
          obtain ⟨-, newState, silent⟩ := made
          have absent : acceptedHello config past = none := by
            rw [h.session] at waiting
            exact Option.map_eq_none_iff.mp waiting
          have accepted : acceptedHello config (past ++ [call]) = some request := by
            rw [hello, if_pos ⟨by rw [absent]; rfl, first, greets⟩]
          obtain rfl := h.waiting absent
          rw [state, effects, newState, silent]
          refine ⟨by rw [accepted]; rfl, ?_, fun _ => rfl, live, rfl⟩
          intro missing
          rw [accepted] at missing
          cases missing
        · have made : (∃ answer, (answerNew config call.1 app.inner request).answer = .ok answer) ∧
            _ ∧ _ := answerNew_rejects dispatches greeted
          obtain ⟨-, newState, silent⟩ := made
          refine idle (state.trans newState) (effects.trans silent) ?_
          rw [hello, if_neg]
          intro ⟨absent, _, greets⟩
          rw [Option.isNone_iff_eq_none] at absent
          refine greeted ⟨?_, ?_, greets⟩
          · rw [h.shutdown, h.waiting absent]
            rfl
          · rw [h.session, absent]
            rfl

/-- It holds of every quiet run. -/
theorem session_follows {observations : String → Observations}
    (quiet : NoHandlerRaises config (newApplication observations) past) :
    SessionFollows config past
      (after (handleLine config) (newApplication observations) past).inner
      (dispatchedRequests (trace (handleLine config) (newApplication observations) past)) := by
  induction past using List.reverseRecOn with
  | nil => exact ⟨rfl, fun _ => rfl, nofun, rfl, rfl⟩
  | append_singleton past call ih =>
    rw [Reactive.after_snoc, Reactive.trace_snoc, dispatchedRequests_append]
    exact (ih quiet.front).step fun request => unknown_iff_first quiet.front

/-- Bytes that were answered are answered the same, at any later point, and nothing changes. -/
theorem handleLine_again {app : DshBridgeApplication} {answer : Octets}
    (answered : (handleLine config app call).answer = .ok answer)
    (middle : List (Surroundings × Octets)) {again : Surroundings × Octets}
    (same : again.2 = call.2) :
    handleLine config (after (handleLine config) (handleLine config app call).state middle) again =
      ⟨.ok answer, after (handleLine config) (handleLine config app call).state middle, []⟩ := by
  have repeated := Endpoint.receive_again answered (middle.map stripped) again.1
  rw [← Reactive.after_map] at repeated
  rw [handleLine, stripped, same]
  exact repeated

/-- The law of a session over a sequence of lines. -/
structure SessionLaw (config : BridgeConfig) (start : DshBridgeApplication)
    (calls : List (Surroundings × Octets)) : Prop where
  /-- The dispatched requests are numbered from one, without gap or repetition. -/
  numbers : (dispatchedRequests (trace (handleLine config) start calls)).map (·.sequence) =
    List.range' 1 (dispatchedRequests (trace (handleLine config) start calls)).length
  /-- What each line dispatches. -/
  dispatched : ∀ past call rest, calls = past ++ call :: rest → ∀ request,
    .dispatched request ∈ (handleLine config (after (handleLine config) start past) call).effects ↔
      readCall config call = .ok request ∧ FirstUnderId config past request ∧
      (acceptedHello config past).map (·.sessionId) = some request.sessionId ∧
      (∀ earlier ∈ dispatchedRequests (trace (handleLine config) start past),
        earlier.message.isShutdown = false) ∧
      request.sequence =
        (dispatchedRequests (trace (handleLine config) start past)).length + 1
  /-- A resent request has its answer again, and nothing else happens. -/
  resent : ∀ past call middle again rest, calls = past ++ call :: (middle ++ again :: rest) →
    again.2 = call.2 → ∀ request, readCall config call = .ok request →
      ∃ answer,
        (handleLine config (after (handleLine config) start past) call).answer = .ok answer ∧
        handleLine config (after (handleLine config) start (past ++ call :: middle)) again =
          ⟨.ok answer, after (handleLine config) start (past ++ call :: middle), []⟩
  /-- A known id is never dispatched again. -/
  reused : ∀ past call middle again rest, calls = past ++ call :: (middle ++ again :: rest) →
    ∀ first second, readCall config call = .ok first → readCall config again = .ok second →
      second.requestId = first.requestId →
        (handleLine config (after (handleLine config) start (past ++ call :: middle)) again).state =
            after (handleLine config) start (past ++ call :: middle) ∧
          (handleLine config (after (handleLine config) start (past ++ call :: middle))
            again).effects = []

/-- **The session protocol.** Over every sequence of lines in which no handler raises. -/
theorem session_law {observations : String → Observations} {calls : List (Surroundings × Octets)}
    (quiet : NoHandlerRaises config (newApplication observations) calls) :
    SessionLaw config (newApplication observations) calls := by
  have front {past call rest} (split : calls = past ++ call :: rest) :
      NoHandlerRaises config (newApplication observations) past := (split ▸ quiet).front
  refine ⟨(session_follows quiet).numbers, ?_, ?_, ?_⟩
  · intro past call rest split request
    have follows := session_follows (front split)
    rw [dispatched_iff, unknown_iff_first (front split)]
    refine and_congr_right fun _ => and_congr_right fun _ => ?_
    rw [Dispatches, follows.session, follows.shutdown, List.any_eq_false]
    constructor
    · intro ⟨live, session, number⟩
      have accepted : (acceptedHello config past).isSome := by
        cases hello : acceptedHello config past with
        | none => rw [hello] at session; cases session
        | some _ => rfl
      exact ⟨session, by simpa using live, by rw [number, follows.next accepted]⟩
    · intro ⟨session, live, number⟩
      have accepted : (acceptedHello config past).isSome := by
        cases hello : acceptedHello config past with
        | none => rw [hello] at session; cases session
        | some _ => rfl
      exact ⟨by simpa using live, session, by rw [number, follows.next accepted]⟩
  · intro past call middle again rest split same request decoded
    obtain ⟨answer, answered⟩ := answered_of_quiet decoded (quiet past call _ split)
    refine ⟨answer, answered, ?_⟩
    rw [Reactive.after_append]
    exact handleLine_again answered middle same
  · intro past call middle again rest split first second decodedFirst decodedSecond same
    have earlier : NoHandlerRaises config (newApplication observations) (past ++ call :: middle) :=
      by
      have whole : calls = (past ++ call :: middle) ++ again :: rest := by
        rw [split, List.append_assoc]
        rfl
      exact front whole
    cases known : (after (handleLine config) (newApplication observations)
        (past ++ call :: middle)).answers.get second.requestId with
    | none =>
      have new := (unknown_iff_first earlier).mp known
      exact absurd same.symm (new call (by simp) first decodedFirst)
    | some held =>
      rw [handleLine_known decodedSecond known]
      exact ⟨rfl, rfl⟩

end Lines

/-! ## Samples -/

theorem noHandlerRaises_snoc {config : BridgeConfig} {start : DshBridgeApplication}
    {past : List (Surroundings × Octets)} {call : Surroundings × Octets}
    (quiet : NoHandlerRaises config start past)
    (last : ∃ answer,
      (handleLine config (after (handleLine config) start past) call).answer = .ok answer) :
    NoHandlerRaises config start (past ++ [call]) := by
  have front : Reactive.Each (handleLine config) start (fun app call => ∀ request,
      .dispatched request ∈ (handleLine config app call).effects →
        ∃ answer, (handleLine config app call).answer = .ok answer) past := quiet
  exact Reactive.each_snoc.mpr ⟨front, fun _ _ => last⟩

namespace Sample

def bridgeDigests : DshDigests where
  hashes := ⟨fun _ => Oid.zero, fun octets => octets.length⟩
  token token := token
  execution execution := execution.argumentsDigest
  context names := names.1.length + names.2.1.length + names.2.2.length
  container session := session.length
  actionArguments
    | .patch patchText _ => patchText.length
    | .tests testProfileDigest => testProfileDigest
  testProfile profile := profile.commandDigest

def observationCodec : ObservationCodec where
  keyId key := key
  recordId draft _ := draft.nonce
  signPayload key _ _ recordId := (recordId, key)
  verify record key := record.signature == key
  encode record := Utf8.encode (Nat.toDigits 10 record.recordId)
  decode _ := none

/-- The bridge that reads a line of one octet as the request of that place. -/
def bridgeConfig (requests : List DshBridgeRequest) : BridgeConfig where
  digests := bridgeDigests
  codec := observationCodec
  decode
    | [octet] => (requests[octet.toNat]?).elim (.error "bridge line is not strict UTF-8 JSON") .ok
    | _ => .error "bridge line is not strict UTF-8 JSON"
  encode response := Utf8.encode (Nat.toDigits 10 response.requestId)

/-- Nothing outside answers. -/
def silent : Surroundings where
  now := 0
  issueNow := 0
  loadCase _ := .error "case directory is unavailable"
  secret := 0
  ledger _ := .error (.other "ledger is unavailable")
  truth _ := .error (.other "ledger is unavailable")
  ports _ := {
    handlerNow := 0
    consumeNow := 0
    applyPatch := fun _ _ => .error .toolCallDenied
    runTests := fun _ _ _ => .error .toolCallDenied
    readback := .ok [] }
  sidecarKey _ := .error "sidecar key is unavailable"
  storeFault := none
  handled _ _ := .error (.runtime "VERIFIER_TRANSPORT_UNAVAILABLE")

def greeting : DshBridgeRequest := ⟨1, "session", 0, 0, .hello "0.1.1"⟩

def farewell : DshBridgeRequest := ⟨2, "session", 1, 1, .shutdown⟩

/-- A greeting, a shutdown, and the shutdown again. -/
def shortSession : List (Surroundings × Octets) :=
  [(silent, [0]), (silent, [1]), (silent, [1])]

end Sample

theorem session_law_short :
    NoHandlerRaises (Sample.bridgeConfig [Sample.greeting, Sample.farewell])
        (newApplication fun _ => ∅) Sample.shortSession ∧
      SessionLaw (Sample.bridgeConfig [Sample.greeting, Sample.farewell])
        (newApplication fun _ => ∅) Sample.shortSession := by
  have start : NoHandlerRaises (Sample.bridgeConfig [Sample.greeting, Sample.farewell])
      (newApplication fun _ => ∅) [] := by
    intro before call rest split
    cases before <;> cases split
  have greeted : NoHandlerRaises (Sample.bridgeConfig [Sample.greeting, Sample.farewell])
      (newApplication fun _ => ∅) ([] ++ [(Sample.silent, [0])]) :=
    noHandlerRaises_snoc start ⟨_, rfl⟩
  have stopped : NoHandlerRaises (Sample.bridgeConfig [Sample.greeting, Sample.farewell])
      (newApplication fun _ => ∅) ([(Sample.silent, [0])] ++ [(Sample.silent, [1])]) :=
    noHandlerRaises_snoc greeted ⟨_, rfl⟩
  have quiet : NoHandlerRaises (Sample.bridgeConfig [Sample.greeting, Sample.farewell])
      (newApplication fun _ => ∅)
      ([(Sample.silent, [0]), (Sample.silent, [1])] ++ [(Sample.silent, [1])]) :=
    noHandlerRaises_snoc stopped ⟨_, rfl⟩
  exact ⟨quiet, session_law quiet⟩

end OpenWorkProof.Dsh
