import OpenWorkProof.Foundation.Reactive
import OpenWorkProof.Foundation.Window
import OpenWorkProof.Soc.Ledger
/-!
# The egress proxy of the SOC

`aisoc/sandbox/egress.py`: everything that leaves the sandbox of an agent goes through `forward`, which
lets it out after its type, its size and its rate are checked and it is recorded.
-/

namespace OpenWorkProof.Soc

/-- `EgressConfig`, as it is deployed. -/
structure EgressConfig where
  maxMsgBytes : Nat := 32768
  maxPerMinute : Nat := 30
  failOpenOnAuditError : Bool := false

inductive EgressCode
  | ok | malformed | rejectedByProxy | rateLimited | auditUnavailable
  deriving DecidableEq

def EgressCode.text : EgressCode → String
  | ok => "OK"
  | malformed => "MALFORMED"
  | rejectedByProxy => "REJECTED_BY_PROXY"
  | rateLimited => "RATE_LIMITED"
  | auditUnavailable => "AUDIT_UNAVAILABLE"

/-- `EgressResult`. -/
structure EgressResult where
  ok : Bool
  code : EgressCode
  msgType : Option Text
  msgDigest : Option Text
  agentId : Text
  size : Nat := 0

/-- An entry of the audit ledger. -/
inductive EgressEntry
  | dropped (caseId : Text) (reason : String) (msgType : Text) (size : Option Nat) (agentId : Text)
  | forwarded (caseId msgType msgDigest : Text) (size : Nat) (agentId : Text)
  deriving DecidableEq

def EgressEntry.entryType : EgressEntry → String
  | dropped .. => "egress_dropped"
  | forwarded .. => "agent_egress"

/-- A message, with what the clock says in microseconds and whether the audit sink can append. Its
payload stands as its canonical octets, if it has any. -/
structure EgressMessage where
  msgType : Text
  payload : Option Octets
  caseId : Text
  now : Int
  audited : Bool

/-- What is let out. -/
structure Forwarded where
  message : EgressMessage
  payload : Octets

/-- The state of `ControlledEgressProxy`, with the entries its sink has appended. -/
structure EgressProxy where
  audit : List EgressEntry
  times : List Int
  dropped : List EgressResult

def EgressProxy.new : EgressProxy := ⟨[], [], []⟩

/-- `ALLOWED_MESSAGE_TYPES`. -/
def allowedMessageTypes : List Text := ["investigation_report".toList, "action_request".toList]

/-- A minute. -/
def egressWindow : Int := 60000000

/-- The outcome of a call of the proxy. -/
abbrev EgressOutcome := Reactive.Outcome EgressProxy EgressResult Empty Forwarded

section Forward

variable (sha256Hex : Octets → Text) (channelAgentId : Text) (config : EgressConfig)

def messageDigest (payload : Octets) : Text := digestPrefix ++ sha256Hex payload

/-- `_log`. -/
def EgressProxy.log (proxy : EgressProxy) (audited : Bool) (entry : EgressEntry) : EgressProxy :=
  if audited then { proxy with audit := proxy.audit ++ [entry] } else proxy

def EgressProxy.drop (proxy : EgressProxy) (result : EgressResult) : EgressOutcome :=
  ⟨.ok result, { proxy with dropped := proxy.dropped ++ [result] }, []⟩

/-- The entry under which a message is let out. -/
def Forwarded.entry (forwarded : Forwarded) : EgressEntry :=
  .forwarded forwarded.message.caseId forwarded.message.msgType
    (messageDigest sha256Hex forwarded.payload) forwarded.payload.length channelAgentId

/-- The end of `forward`, when the message counts against the rate. -/
def EgressProxy.release (proxy : EgressProxy) (message : EgressMessage) (payload : Octets) :
    EgressOutcome :=
  let result (ok : Bool) (code : EgressCode) : EgressResult :=
    ⟨ok, code, some message.msgType, some (messageDigest sha256Hex payload), channelAgentId,
      payload.length⟩
  let logged := proxy.log message.audited
    (Forwarded.entry sha256Hex channelAgentId ⟨message, payload⟩)
  if !message.audited && !config.failOpenOnAuditError then
    logged.drop (result false .auditUnavailable)
  else ⟨.ok (result true .ok), logged, [⟨message, payload⟩]⟩

/-- `forward`. -/
def forward (proxy : EgressProxy) (message : EgressMessage) : EgressOutcome :=
  match message.payload with
  | none => proxy.drop ⟨false, .malformed, none, none, channelAgentId, 0⟩
  | some payload =>
    let refused (code : EgressCode) : EgressResult :=
      ⟨false, code, some message.msgType, some (messageDigest sha256Hex payload), channelAgentId,
        payload.length⟩
    if !allowedMessageTypes.contains message.msgType ∨ payload.length > config.maxMsgBytes then
      (proxy.log message.audited
        (.dropped message.caseId "type_or_size" message.msgType (some payload.length)
          channelAgentId)).drop (refused .rejectedByProxy)
    else
      let current := { proxy with times := Window.recent egressWindow message.now proxy.times }
      if config.maxPerMinute ≤ current.times.length then
        (current.log message.audited
          (.dropped message.caseId "rate_limit" message.msgType none channelAgentId)).drop
            (refused .rateLimited)
      else
        { current with times := current.times ++ [message.now] }.release sha256Hex channelAgentId
          config message payload

/-! ## Mediation -/

/-- The entries under which something is let out. -/
def EgressProxy.releases (proxy : EgressProxy) : List EgressEntry :=
  proxy.audit.filter fun entry => entry.entryType = "agent_egress"

/-- What was let out against the records of a proxy. -/
structure Mediated (proxy : EgressProxy) (calls : Nat) (trace : List Forwarded) : Prop where
  allowed : ∀ forwarded ∈ trace, forwarded.message.msgType ∈ allowedMessageTypes ∧
    forwarded.message.payload = some forwarded.payload ∧
      forwarded.payload.length ≤ config.maxMsgBytes
  recorded : proxy.releases = trace.map (Forwarded.entry sha256Hex channelAgentId)
  counted : proxy.dropped.length + trace.length = calls

/-- The times of a proxy against those it admitted, for every time from the last call on. -/
structure Paced (proxy : EgressProxy) (past : List EgressMessage) (trace : List Forwarded)
    (admitted : List Int) : Prop where
  limited : Window.Limited egressWindow config.maxPerMinute admitted
  kept : ∀ later, (∀ message ∈ past, message.now ≤ later) →
    Window.recent egressWindow later proxy.times = Window.recent egressWindow later admitted
  sent : List.Sublist (trace.map (·.message.now)) admitted

variable {sha256Hex channelAgentId config} {proxy : EgressProxy} {message : EgressMessage}
  {trace : List Forwarded} {calls : Nat} {past : List EgressMessage} {admitted : List Int}

theorem Mediated.drop (mediated : Mediated sha256Hex channelAgentId config proxy calls trace)
    (result : EgressResult) :
    Mediated sha256Hex channelAgentId config (proxy.drop result).state (calls + 1)
      (trace ++ (proxy.drop result).effects) := by
  have quiet : trace ++ (proxy.drop result).effects = trace := List.append_nil trace
  rw [quiet]
  refine ⟨mediated.allowed, mediated.recorded, ?_⟩
  have counted := mediated.counted
  simp only [EgressProxy.drop, List.length_append, List.length_singleton]
  omega

theorem releases_log_dropped {audited : Bool} {caseId msgType agentId : Text} {reason : String}
    {size : Option Nat} :
    (proxy.log audited (.dropped caseId reason msgType size agentId)).releases = proxy.releases := by
  cases audited with
  | false => rfl
  | true =>
    have other : ¬ "egress_dropped" = "agent_egress" := by decide
    simp [EgressProxy.releases, EgressProxy.log, EgressEntry.entryType, other]

theorem releases_log_forwarded {forwarded : Forwarded} :
    (proxy.log true (forwarded.entry sha256Hex channelAgentId)).releases =
      proxy.releases ++ [forwarded.entry sha256Hex channelAgentId] := by
  simp [EgressProxy.releases, EgressProxy.log, EgressEntry.entryType, Forwarded.entry]

theorem dropped_log {audited : Bool} {entry : EgressEntry} :
    (proxy.log audited entry).dropped = proxy.dropped := by
  cases audited <;> rfl

theorem times_log {audited : Bool} {entry : EgressEntry} :
    (proxy.log audited entry).times = proxy.times := by
  cases audited <;> rfl

theorem Mediated.of_records {proxy' : EgressProxy}
    (mediated : Mediated sha256Hex channelAgentId config proxy calls trace)
    (releases : proxy'.releases = proxy.releases) (dropped : proxy'.dropped = proxy.dropped) :
    Mediated sha256Hex channelAgentId config proxy' calls trace where
  allowed := mediated.allowed
  recorded := releases.trans mediated.recorded
  counted := by rw [dropped, mediated.counted]

/-- A proxy that fails closed lets out what it has recorded. -/
theorem Mediated.release {payload : Octets}
    (mediated : Mediated sha256Hex channelAgentId config proxy calls trace)
    (closed : config.failOpenOnAuditError = false) (known : message.payload = some payload)
    (allowed : message.msgType ∈ allowedMessageTypes) (fits : payload.length ≤ config.maxMsgBytes) :
    Mediated sha256Hex channelAgentId config
      (proxy.release sha256Hex channelAgentId config message payload).state (calls + 1)
      (trace ++ (proxy.release sha256Hex channelAgentId config message payload).effects) := by
  cases audited : message.audited with
  | false =>
    simp only [EgressProxy.release, audited, closed, Bool.not_false, Bool.true_and, if_true]
    exact mediated.drop _
  | true =>
    simp only [EgressProxy.release, audited, Bool.not_true, Bool.false_and, Bool.false_eq_true,
      if_false]
    refine ⟨fun forwarded member => ?_, ?_, ?_⟩
    · rcases List.mem_append.mp member with before | last
      · exact mediated.allowed forwarded before
      · rw [List.mem_singleton.mp last]
        exact ⟨allowed, known, fits⟩
    · rw [releases_log_forwarded, mediated.recorded, List.map_append, List.map_singleton]
    · have counted := mediated.counted
      rw [dropped_log, List.length_append, List.length_singleton]
      omega

/-- **What a call lets out is mediated.** -/
theorem Mediated.forward (closed : config.failOpenOnAuditError = false)
    (mediated : Mediated sha256Hex channelAgentId config proxy calls trace) :
    Mediated sha256Hex channelAgentId config
      (forward sha256Hex channelAgentId config proxy message).state (calls + 1)
      (trace ++ (forward sha256Hex channelAgentId config proxy message).effects) := by
  rw [Soc.forward]
  cases known : message.payload with
  | none => exact mediated.drop _
  | some payload =>
    dsimp only
    by_cases refused :
        !allowedMessageTypes.contains message.msgType ∨ payload.length > config.maxMsgBytes
    · rw [if_pos refused]
      exact (mediated.of_records releases_log_dropped dropped_log).drop _
    · rw [if_neg refused]
      obtain ⟨listed, fits⟩ := not_or.mp refused
      have allowed : message.msgType ∈ allowedMessageTypes := by
        rwa [Bool.not_eq_true', Bool.not_eq_false, List.contains_iff_mem] at listed
      have current (times : List Int) : Mediated sha256Hex channelAgentId config
          { proxy with times := times } calls trace := mediated.of_records rfl rfl
      by_cases full : config.maxPerMinute ≤
          (Window.recent egressWindow message.now proxy.times).length
      · rw [if_pos full]
        exact ((current _).of_records releases_log_dropped dropped_log).drop _
      · rw [if_neg full]
        exact (current _).release closed known allowed (not_lt.mp fits)

/-! ## The rate -/

theorem Paced.of_times {proxy' : EgressProxy} (paced : Paced config proxy past trace admitted)
    (times : proxy'.times = proxy.times) :
    Paced config proxy' (past ++ [message]) (trace ++ []) admitted where
  limited := paced.limited
  kept later after_ := by
    rw [times]
    exact paced.kept later fun earlier member => after_ earlier (List.mem_append_left _ member)
  sent := by
    rw [List.append_nil]
    exact paced.sent

/-- Forgetting what is a minute old forgets nothing that counts from then on. -/
theorem Paced.forget {proxy' : EgressProxy} (paced : Paced config proxy past trace admitted)
    (times : proxy'.times = Window.recent egressWindow message.now proxy.times) :
    Paced config proxy' (past ++ [message]) (trace ++ []) admitted where
  limited := paced.limited
  kept later after_ := by
    rw [times, Window.recent_recent (after_ message (by simp))]
    exact paced.kept later fun earlier member => after_ earlier (List.mem_append_left _ member)
  sent := by
    rw [List.append_nil]
    exact paced.sent

theorem Paced.admit {proxy' : EgressProxy} {effects : List Forwarded}
    (paced : Paced config proxy past trace admitted)
    (ordered : ∀ earlier ∈ past, earlier.now ≤ message.now)
    (room : (Window.recent egressWindow message.now proxy.times).length < config.maxPerMinute)
    (times : proxy'.times = Window.recent egressWindow message.now proxy.times ++ [message.now])
    (sent : List.Sublist (effects.map (·.message.now)) [message.now]) :
    Paced config proxy' (past ++ [message]) (trace ++ effects) (admitted ++ [message.now]) where
  limited := by
    rw [paced.kept _ ordered] at room
    exact Window.limited_snoc paced.limited room
  kept later after_ := by
    rw [times, Window.recent_append, Window.recent_append,
      Window.recent_recent (after_ message (by simp)),
      paced.kept later fun earlier member => after_ earlier (List.mem_append_left _ member)]
  sent := by
    rw [List.map_append]
    exact paced.sent.append sent

/-- **What a call lets out keeps the pace.** -/
theorem Paced.forward (paced : Paced config proxy past trace admitted)
    (ordered : ∀ earlier ∈ past, earlier.now ≤ message.now) :
    ∃ admitted', Paced config (forward sha256Hex channelAgentId config proxy message).state
      (past ++ [message])
      (trace ++ (forward sha256Hex channelAgentId config proxy message).effects) admitted' := by
  rw [Soc.forward]
  cases message.payload with
  | none => exact ⟨admitted, paced.of_times rfl⟩
  | some payload =>
    dsimp only
    by_cases refused :
        !allowedMessageTypes.contains message.msgType ∨ payload.length > config.maxMsgBytes
    · rw [if_pos refused]
      exact ⟨admitted, paced.of_times times_log⟩
    · rw [if_neg refused]
      by_cases full : config.maxPerMinute ≤
          (Window.recent egressWindow message.now proxy.times).length
      · rw [if_pos full]
        exact ⟨admitted, paced.forget times_log⟩
      · rw [if_neg full]
        refine ⟨admitted ++ [message.now], paced.admit ordered (not_le.mp full) ?_ ?_⟩
        · rw [EgressProxy.release]
          split <;> exact times_log
        · rw [EgressProxy.release]
          split
          · exact List.nil_sublist _
          · exact List.Sublist.refl _

/-- **Egress is mediated.** Under a clock that does not go back, whatever is sent through a proxy that
fails closed: what it lets out has an allowed type and size; the ledger has an entry for each, in
order and under the identity of the channel, and no other; no minute has more of it than the limit;
and each call lets its message out or is on record as dropped. -/
theorem egress_is_mediated {messages : List EgressMessage}
    (closed : config.failOpenOnAuditError = false)
    (clock : (messages.map (·.now)).Pairwise (· ≤ ·)) :
    (∀ forwarded ∈ Reactive.trace (forward sha256Hex channelAgentId config) .new messages,
      forwarded.message.msgType ∈ allowedMessageTypes ∧
        forwarded.message.payload = some forwarded.payload ∧
          forwarded.payload.length ≤ config.maxMsgBytes) ∧
    (Reactive.after (forward sha256Hex channelAgentId config) .new messages).releases =
      (Reactive.trace (forward sha256Hex channelAgentId config) .new messages).map
        (Forwarded.entry sha256Hex channelAgentId) ∧
    (∀ start, ((Reactive.trace (forward sha256Hex channelAgentId config) .new messages).filter
      fun forwarded => start ≤ forwarded.message.now ∧
        forwarded.message.now < start + egressWindow).length ≤ config.maxPerMinute) ∧
    (Reactive.after (forward sha256Hex channelAgentId config) .new messages).dropped.length +
      (Reactive.trace (forward sha256Hex channelAgentId config) .new messages).length =
        messages.length := by
  have mediated := @Reactive.invariant _ _ _ _ _ (forward sha256Hex channelAgentId config)
    .new (fun past proxy trace => Mediated sha256Hex channelAgentId config proxy past.length trace)
    ⟨by simp, rfl, rfl⟩
    (by
      intro past proxy trace message mediated
      rw [List.length_append, List.length_singleton]
      exact mediated.forward closed)
    messages
  obtain ⟨admitted, paced⟩ := @Reactive.invariant _ _ _ _ _ (forward sha256Hex channelAgentId config)
    .new (fun past proxy trace => (past.map (·.now)).Pairwise (· ≤ ·) →
      ∃ admitted, Paced config proxy past trace admitted)
    (fun _ => ⟨[], Window.limited_nil, fun _ _ => rfl, List.Sublist.refl _⟩)
    (by
      intro past proxy trace message keeps clock
      rw [List.map_append, List.pairwise_append] at clock
      obtain ⟨admitted, paced⟩ := keeps clock.1
      refine paced.forward fun earlier member => ?_
      exact clock.2.2 _ (List.mem_map_of_mem member) _ (List.mem_singleton_self _))
    messages clock
  refine ⟨mediated.allowed, mediated.recorded, fun start => ?_, mediated.counted⟩
  refine le_trans ?_ (paced.limited.count_le start)
  refine le_trans (Eq.le ?_) (paced.sent.filter _).length_le
  rw [List.filter_map, List.length_map]
  rfl

end Forward

namespace Sample

def egressMessages : List EgressMessage :=
  [⟨"action_request".toList, some (Utf8.encode "\x7b\x7d".toList), "case-1".toList, 0, true⟩,
    ⟨"shell".toList, some (Utf8.encode "\x7b\x7d".toList), "case-1".toList, 5, true⟩,
    ⟨"action_request".toList, some (Utf8.encode "\x7b\x7d".toList), "case-1".toList, 9, false⟩]

end Sample

theorem egress_is_mediated_sample :
    ((Reactive.trace (forward Sample.ledgerCodec.sha256Hex "triage".toList {}) .new
      Sample.egressMessages).filter fun forwarded => 0 ≤ forwarded.message.now ∧
        forwarded.message.now < 0 + egressWindow).length ≤ 30 :=
  (egress_is_mediated rfl (by decide)).2.2.1 0

end OpenWorkProof.Soc
