import LorahamBridge.Bridge.Dialogue

/-!
# A client and a session in accord

Both protocol machines give up on any frame they do not expect.  Here is what keeps
them from it: for every phase of the server, where its client is and which frames are
on their way between the two, and for a client what it can still be told after the
server has closed.  Either end handles the next frame it is sent, and the accord
goes on.

Main results:

- Theorem `Accord.balance`: every transmission is somewhere between the two ends.
- Theorems `Accord.frame`, `Accord.tick` and `Accord.call`: the server goes on.
- Theorem `Accord.hear`: the client handles the next frame of the server.
- Theorem `Accord.submission_of_result`: a result belongs to the submission of the same
  number, and says what the backend reported.
-/

namespace LorahamBridge

open Foundation Extradio

/-! ## Requests and results among frames -/

/-- The requests among some frames, by number and packet. -/
def requestsOf (frames : List Frame) : List (UInt16 × Bytes) :=
  (frames.filter (·.type == .txRequest)).map fun f => (f.seq, f.payload)

/-- The results among frames, as a client records them. -/
def resultsOf (frames : List Frame) : List (UInt16 × Session.TxOutcome) :=
  (frames.filter (·.type == .txResult)).map fun f =>
    (f.seq, Session.outcomeOfCode (f.payload.getD 0 0))

/-- The requests among more frames. -/
@[simp]
theorem requestsOf_append (frames more : List Frame) :
    requestsOf (frames ++ more) = requestsOf frames ++ requestsOf more := by
  simp [requestsOf]

/-- The results among more frames. -/
@[simp]
theorem resultsOf_append (frames more : List Frame) :
    resultsOf (frames ++ more) = resultsOf frames ++ resultsOf more := by
  simp [resultsOf]

/-- Other frames are no requests. -/
theorem requestsOf_of_type {f : Frame} (h : f.type ≠ .txRequest) : requestsOf [f] = [] := by
  simp [requestsOf, h]

/-- Other frames are no results. -/
theorem resultsOf_of_type {f : Frame} (h : f.type ≠ .txResult) : resultsOf [f] = [] := by
  simp [resultsOf, h]

/-! ## The server's accounts -/

/-- A session that keeps to its automaton, has handed over the requests it received,
and waits for nothing whose failure would be the client's fault. -/
structure Accountable (env : XrEnv) (s : XrSession) : Prop where
  conducted : Conducted env s
  accepted : acceptedRequests s.log <+: requestsOf (receivedFrames s.log)
  all : s.phase ≠ .closed → acceptedRequests s.log = requestsOf (receivedFrames s.log)
  deadline : XrSession.blamesClient s.deadlineReason = false

namespace XrSession

section Outcomes

variable {β : Type} {R : RadioBackend β} {env : XrEnv} {now : Nat} {f : Frame}
  {s s' : XrSession} {b b' : β}

theorem acceptedRequests_emitted (frames : List Frame) :
    acceptedRequests (frames.map SessionEvent.emitted) = [] := by
  simp [acceptedRequests, List.filterMap_map]

/-- The transmissions handed over because of a frame. -/
theorem FrameOutcome.acceptedRequests_eq (h : FrameOutcome R env now f s b (s', b')) :
    acceptedRequests s'.log = acceptedRequests s.log ++ requestsOf [f] ∨
      s'.phase = .closed ∧ acceptedRequests s'.log = acceptedRequests s.log := by
  have hquiet : f.type ≠ .txRequest → acceptedRequests s'.log = acceptedRequests s.log →
      acceptedRequests s'.log = acceptedRequests s.log ++ requestsOf [f] := by
    intro htype heq
    rw [heq, requestsOf_of_type htype, List.append_nil]
  cases h with
  | challenged _ _ _ htype | helloOpen _ _ htype | authenticated _ _ htype | ponged _ htype =>
      refine Or.inl (hquiet (by simp [htype]) ?_)
      simp only [arm, queue, record, acceptPong, acceptedRequests_append, acceptedRequests_emitted]
      simp [acceptedRequests]
  | configStarted _ _ _ _ hconfig =>
      have htype : f.type = .configure := by
        by_contra htype
        simp [decodeConfig, htype] at hconfig
      refine Or.inl (hquiet (by simp [htype]) ?_)
      simp only [arm, record, acceptedRequests_append]
      simp [acceptedRequests]
  | submitted _ _ htype =>
      refine Or.inl ?_
      simp only [record, acceptedRequests_append]
      simp [acceptedRequests, requestsOf, htype]
  | _ =>
      refine Or.inr ⟨rfl, ?_⟩
      simp only [shut, queue, record, acceptedRequests_append, acceptedRequests_emitted]
      simp [acceptedRequests]

/-- Handling a frame keeps the books of the session. -/
theorem FrameOutcome.accountable (h : FrameOutcome R env now f s b (s', b'))
    (hopen : s.phase ≠ .closed) (hs : Accountable env s) : Accountable env s' := by
  have hreceived : requestsOf (receivedFrames s'.log) =
      requestsOf (receivedFrames s.log) ++ requestsOf [f] := by
    rw [h.received, requestsOf_append]
  refine ⟨h.conducted hopen hs.conducted, ?_, ?_, ?_⟩
  · rw [hreceived, ← hs.all hopen]
    rcases h.acceptedRequests_eq with heq | ⟨-, heq⟩ <;> rw [heq]
    exact List.prefix_append _ _
  · intro hopen'
    rw [hreceived, ← hs.all hopen]
    exact h.acceptedRequests_eq.resolve_right fun hclosed => hopen' hclosed.1
  · cases h with
    | challenged | helloOpen | authenticated | configStarted => rfl
    | _ => exact hs.deadline

/-- What neither receives a frame nor hands anything over keeps the accounts. -/
theorem accountable_of_log (hs : Accountable env s) (hconducted : Conducted env s')
    (hlog : ∃ events, s'.log = s.log ++ events ∧ receivedFrames events = [] ∧
      acceptedRequests events = [])
    (hphase : s'.phase ≠ .closed → s.phase ≠ .closed)
    (hdeadline : s'.deadlineReason = s.deadlineReason) : Accountable env s' := by
  obtain ⟨events, hlog, hreceived, haccepted⟩ := hlog
  have hboth : receivedFrames s'.log = receivedFrames s.log ∧
      acceptedRequests s'.log = acceptedRequests s.log := by
    rw [hlog, receivedFrames_append, acceptedRequests_append, hreceived, haccepted]
    simp
  refine ⟨hconducted, ?_, fun hopen => ?_, hdeadline ▸ hs.deadline⟩
  · rw [hboth.1, hboth.2]
    exact hs.accepted
  · rw [hboth.1, hboth.2]
    exact hs.all (hphase hopen)

/-- Handling a frame applies no configuration. -/
theorem FrameOutcome.appliedCfg_eq (h : FrameOutcome R env now f s b (s', b')) :
    s'.appliedCfg = s.appliedCfg := by
  cases h <;> rfl

/-- Only a frame that was not expected is held against the client. -/
theorem FrameOutcome.innocent (h : FrameOutcome R env now f s b (s', b'))
    (hexpects : s.expects f = true) (hs : blamesClient s.closeReason = false) :
    blamesClient s'.closeReason = false := by
  cases h with
  | rejected reason hnot => simp [hexpects] at hnot
  | helloFailed _ _ _ _ _ _ _ hreason => exact hreason
  | authClosed _ _ _ _ _ _ _ _ _ hreason => exact hreason
  | configInvalid _ _ _ _ _ _ hreason => exact hreason
  | configRefused _ _ _ _ _ _ _ _ _ _ hreason => exact hreason
  | submitRefused => rfl
  | challenged | helloOpen | authenticated | configStarted | ponged | submitted => exact hs

/-- A callback adds itself, then frames sent, then at most a close to the history. -/
theorem CallOutcome.log_eq {call : SinkCall} (h : CallOutcome env now s call s') :
    ∃ (frames : List Frame) (reasons : List CloseReason), s'.log = s.log ++
      .callback call :: (frames.map SessionEvent.emitted ++ reasons.map SessionEvent.closed) := by
  cases h with
  | ignored => exact ⟨[], [], rfl⟩
  | failed => exact ⟨[], [.backendFailure], by simp [shut, record]⟩
  | forwarded rx => exact ⟨[rxFrame rx], [], by simp [queue, record]⟩
  | completed outcome => exact ⟨[txResultFrame s.txSeq outcome], [], by simp [queue, record]⟩
  | configured token res =>
      exact ⟨[configOkFrame res.effective], [], by simp [enterReady, queue, record]⟩
  | rxOverflow | completeOverflow | configOverflow =>
      exact ⟨[], [.outputOverflow], by simp [shut, record]⟩
  | configFailed token res outbox frames reason =>
      exact ⟨frames, [reason], by simp [shut, queue, record]⟩

/-- A callback keeps the books of the session. -/
theorem CallOutcome.accountable {call : SinkCall} (h : CallOutcome env now s call s')
    (hs : Accountable env s) : Accountable env s' := by
  obtain ⟨frames, reasons, hlog⟩ := h.log_eq
  refine accountable_of_log hs (h.conducted hs.conducted) ⟨_, hlog, ?_, ?_⟩
    (fun hopen => (h.parser hopen).1) (by cases h <;> rfl)
  · simp [receivedFrames, List.filterMap_map]
  · simp [acceptedRequests, List.filterMap_map]

end Outcomes

end XrSession

/-- Every session keeps its books. -/
theorem accountable_invariant {β : Type} (R : RadioBackend β) (env : XrEnv) :
    SessionInvariant R env (fun _ => True) (Accountable env) where
  opened id entropy b _ :=
    ⟨XrSession.conducted_opened R env _ id entropy b, List.nil_prefix, fun _ => rfl, rfl⟩
  parser buf h := ⟨(conducted_invariant R env).parser buf h.conducted, h.accepted, h.all, h.deadline⟩
  frame _ h hopen hout := hout.accountable hopen h
  parserError h hopen :=
    XrSession.accountable_of_log h ((conducted_invariant R env).parserError h.conducted hopen)
      ⟨[.closed .parserError], rfl, rfl, rfl⟩ (by simp [XrSession.shut]) rfl
  tick hnow h hout := by
    have hconducted := (conducted_invariant R env).tick hnow h.conducted hout
    cases hout with
    | quiet => exact h
    | expired reason hopen =>
        exact XrSession.accountable_of_log h hconducted ⟨[.closed reason], rfl, rfl, rfl⟩
          (fun _ => hopen) rfl
    | abandoned hphase =>
        exact XrSession.accountable_of_log h hconducted
          ⟨[.abandonCalled, .closed .txTimeoutUncertain],
            by simp [XrSession.shut, XrSession.record], rfl, rfl⟩ (by simp [hphase]) rfl
    | pinged outbox hphase =>
        exact XrSession.accountable_of_log h hconducted ⟨[.emitted ⟨.ping, 0, []⟩], rfl, rfl, rfl⟩
          (by simp [hphase]) rfl
  call _ h hout := hout.accountable h
  consume n h :=
    ⟨(conducted_invariant R env).consume n h.conducted, h.accepted, h.all, h.deadline⟩

/-! ## What is on its way -/

/-- The frames a client can take one after the other.  A grant names the configuration
that is applied. -/
inductive Hears (applied : RadioConfig) : Session.State → List Frame → Prop
  | silent (state : Session.State) : Hears applied state []
  | acked {frames : List Frame} (h : Hears applied .authenticating frames) :
      Hears applied .handshake (⟨.helloAck, 0, [kVersion]⟩ :: frames)
  | challenged (nonce : Bytes) {frames : List Frame} (h : Hears applied .authenticating frames) :
      Hears applied .authenticating (⟨.authChallenge, 0, nonce⟩ :: frames)
  | admitted {frames : List Frame} (h : Hears applied .configuring frames) :
      Hears applied .authenticating (⟨.authResult, 0, [authOk]⟩ :: frames)
  | refused : Hears applied .authenticating [⟨.authResult, 0, [authFail]⟩]
  | granted {frames : List Frame} (h : Traffic frames) :
      Hears applied .configuring (XrSession.configOkFrame applied :: frames)
  | denied (status : UInt8) : Hears applied .configuring [⟨.configResult, 0, [status]⟩]
  | operating {state : Session.State} {frames : List Frame}
      (hstate : state = .readyRx ∨ state = .txPending) (h : Traffic frames) :
      Hears applied state frames

/-- The server's answer to `HELLO` is on its way, with or without its first frame. -/
def Ahead (state : Session.State) (answer : Frame) (frames : List Frame) : Prop :=
  (state = .handshake ∧ frames = [⟨.helloAck, 0, [kVersion]⟩, answer]) ∨
    (state = .authenticating ∧ frames = [answer])

/-- What is on its way between a server and a client that are both ready. -/
structure Operating (awaitingPong : Bool) (toServer toClient : List Frame) : Prop where
  requests : ∀ f ∈ toServer, f.type = .pong ∨ f.type = .txRequest
  traffic : Traffic toClient
  keepalive : toServer.countP (·.type == .pong) + toClient.countP (·.type == .ping) =
    awaitingPong.toNat

/-- The server is ready.  Its client is too, or the grant is still on its way. -/
def Configured (state : Session.State) (cfg applied : RadioConfig) (awaitingPong : Bool)
    (toServer toClient : List Frame) : Prop :=
  applied = cfg ∧
    ((state = .configuring ∧ toServer = [] ∧ ∃ frames,
        toClient = XrSession.configOkFrame applied :: frames ∧ Operating awaitingPong [] frames) ∨
      ((state = .readyRx ∨ state = .txPending) ∧ Operating awaitingPong toServer toClient))

/-- Where the client of an open session is, and what is on its way between them. -/
def Concord (env : XrEnv) (state : Session.State) (cfg : RadioConfig) (s : XrSession)
    (toServer toClient : List Frame) : Prop :=
  match s.phase with
  | .waitHello => state = .handshake ∧ toServer = [⟨.hello, 0, [kVersion]⟩] ∧ toClient = []
  | .waitAuth =>
      (toServer = [] ∧ Ahead state ⟨.authChallenge, 0, s.nonce⟩ toClient) ∨
        (state = .authenticating ∧ toClient = [] ∧ (toServer = [] ∨ ∃ response,
          hmacSha256 env.hmac env.auth.password s.nonce = some response ∧
            toServer = [⟨.authResponse, 0, response⟩]))
  | .waitConfigure =>
      (toServer = [] ∧ Ahead state ⟨.authResult, 0, [authOk]⟩ toClient) ∨
        (state = .configuring ∧ toClient = [] ∧ toServer = [⟨.configure, 0, packConfig cfg⟩])
  | .configuring =>
      state = .configuring ∧ toServer = [] ∧ toClient = [] ∧ s.requestedCfg = cfg
  | .ready => Configured state cfg s.appliedCfg s.awaitingPong toServer toClient
  | .closed => True

/-- The server sends a packet, a ping or a result. -/
theorem Operating.send {f : Frame} {awaiting awaiting' : Bool} {toServer toClient : List Frame}
    (h : Operating awaiting toServer toClient)
    (hf : f.type = .rxPacket ∨ f.type = .ping ∨ f.type = .txResult)
    (hawaiting : awaiting'.toNat = awaiting.toNat + if f.type = .ping then 1 else 0) :
    Operating awaiting' toServer (toClient ++ [f]) where
  requests := h.requests
  traffic := h.traffic.append (by simpa [Traffic] using hf)
  keepalive := by
    rw [hawaiting, ← h.keepalive, List.countP_append]
    simp [Nat.add_assoc]

/-- A server that is ready sends one more frame. -/
theorem Configured.send {state : Session.State} {cfg applied : RadioConfig} {f : Frame}
    {awaiting awaiting' : Bool} {toServer toClient : List Frame}
    (h : Configured state cfg applied awaiting toServer toClient)
    (hf : f.type = .rxPacket ∨ f.type = .ping ∨ f.type = .txResult)
    (hawaiting : awaiting'.toNat = awaiting.toNat + if f.type = .ping then 1 else 0) :
    Configured state cfg applied awaiting' toServer (toClient ++ [f]) := by
  refine ⟨h.1, ?_⟩
  rcases h.2 with ⟨hstate, hnone, frames, rfl, hoperating⟩ | ⟨hstate, hoperating⟩
  · exact Or.inl ⟨hstate, hnone, frames ++ [f], rfl, hoperating.send hf hawaiting⟩
  · exact Or.inr ⟨hstate, hoperating.send hf hawaiting⟩

/-- What is on the way to a client in operation is what it may hear. -/
theorem Configured.hears {state : Session.State} {cfg applied : RadioConfig} {awaiting : Bool}
    {toServer toClient : List Frame} (h : Configured state cfg applied awaiting toServer toClient) :
    Hears applied state toClient := by
  rcases h.2 with ⟨hstate, -, frames, rfl, hoperating⟩ | ⟨hstate, hoperating⟩
  · rw [hstate]
    exact .granted hoperating.traffic
  · exact .operating hstate hoperating.traffic

/-- A client that takes the next frame of a ready server may answer it. -/
theorem Operating.hear {f : Frame} {awaiting : Bool} {toServer toClient out : List Frame}
    (h : Operating awaiting toServer (f :: toClient))
    (hout : ∀ g ∈ out, g.type = .pong ∨ g.type = .txRequest)
    (hping : out.countP (·.type == .pong) = if f.type = .ping then 1 else 0) :
    Operating awaiting (toServer ++ out) toClient where
  requests g hg := (List.mem_append.mp hg).elim (h.requests g) (hout g)
  traffic g hg := h.traffic g (by simp [hg])
  keepalive := by
    rw [← h.keepalive, List.countP_append, hping, List.countP_cons]
    simp only [beq_iff_eq]
    omega

/-- A session in operation is in concord with a configured client. -/
theorem concord_of_ready {env : XrEnv} {state : Session.State} {cfg : RadioConfig} {s : XrSession}
    {toServer toClient : List Frame} (hphase : s.phase = .ready)
    (h : Configured state cfg s.appliedCfg s.awaitingPong toServer toClient) :
    Concord env state cfg s toServer toClient := by
  rwa [Concord, hphase]

/-- A closed session is in concord with any client. -/
theorem concord_of_closed {env : XrEnv} {state : Session.State} {cfg : RadioConfig} {s : XrSession}
    (toServer toClient : List Frame) (hphase : s.phase = .closed) :
    Concord env state cfg s toServer toClient := by
  rw [Concord, hphase]
  trivial

/-- A client that has not failed. -/
structure Firmware.Live (k : Firmware) : Prop where
  working : k.session.state ≠ .degraded
  error : k.session.lastErr = .none
  config : radioConfigValid k.session.cfg = true
  nextSeq : k.session.nextSeq ≠ 0
  sent : ∀ f ∈ k.sent, validate f = .none
  submissions : k.submissions = requestsOf k.sent
  idle : k.session.state ≠ .txPending → k.submissions.length = k.recorded.length
  pending : k.session.state = .txPending → k.submissions.length = k.recorded.length + 1 ∧
    ∃ payload, k.submissions[k.recorded.length]? = some (k.session.txSeq, payload)

/-- A client and a server session that understand each other, with the frames on their
way between them. -/
structure Accord (env : XrEnv) (k : Firmware) (s : XrSession) (toServer toClient : List Frame) :
    Prop where
  client : k.Live
  server : Accountable env s
  innocent : XrSession.blamesClient s.closeReason = false
  heard : k.heard ++ toClient = emittedFrames s.log
  recorded : k.recorded = resultsOf k.heard
  received : receivedFrames s.log <+: k.sent
  unread : s.phase ≠ .closed → receivedFrames s.log ++ toServer = k.sent
  hears : Hears s.appliedCfg k.session.state toClient
  applied : k.session.state = .readyRx ∨ k.session.state = .txPending →
    s.appliedCfg = k.session.cfg
  concord : Concord env k.session.state k.session.cfg s toServer toClient

namespace Accord

variable {env : XrEnv} {k : Firmware} {s : XrSession} {f : Frame}
  {toServer toClient : List Frame}

/-- Every transmission is recorded, or its result is on its way, or it is in flight, or
its request is on its way. -/
theorem balance (h : Accord env k s toServer toClient) (hopen : s.phase ≠ .closed) :
    k.recorded.length + (resultsOf toClient).length + (if s.txInFlight then 1 else 0) +
      (requestsOf toServer).length = k.submissions.length := by
  have hbalance := h.server.conducted.balance hopen
  have hresults : (view s.log).results.length =
      k.recorded.length + (resultsOf toClient).length := by
    rw [h.recorded, ← List.length_append, ← resultsOf_append, h.heard]
    simp [view_eq, resultsOf]
  rw [view_accepted, h.server.all hopen, hresults] at hbalance
  rw [h.client.submissions, ← h.unread hopen, requestsOf_append, List.length_append, hbalance]

/-- No more than one transmission is on its way. -/
theorem length_submissions_le (h : Accord env k s toServer toClient) :
    k.submissions.length ≤ k.recorded.length + 1 := by
  by_cases hstate : k.session.state = .txPending
  · exact (h.client.pending hstate).1.le
  · rw [h.client.idle hstate]
    omega

/-- The next frame of the client is legal where it arrives. -/
theorem expects (h : Accord env k s (f :: toServer) toClient) (hopen : s.phase ≠ .closed) :
    s.expects f = true := by
  have hvalid : validate f = .none := h.client.sent f (by simp [← h.unread hopen])
  have hconcord := h.concord
  unfold Concord at hconcord
  unfold XrSession.expects
  cases hphase : s.phase with
  | waitHello =>
      simp only [hphase, List.cons.injEq] at hconcord
      obtain ⟨-, ⟨rfl, -⟩, -⟩ := hconcord
      rfl
  | waitAuth =>
      simp only [hphase] at hconcord
      rcases hconcord with ⟨hnone, -⟩ | ⟨-, -, hnone | ⟨response, -, hresponse⟩⟩
      · cases hnone
      · cases hnone
      · cases hresponse
        simp [hvalid]
  | waitConfigure =>
      simp only [hphase] at hconcord
      rcases hconcord with ⟨hnone, -⟩ | ⟨-, -, hconfigure⟩
      · cases hnone
      · cases hconfigure
        simp [hvalid]
  | configuring =>
      simp only [hphase] at hconcord
      cases hconcord.2.1
  | ready =>
      simp only [hphase] at hconcord
      rcases hconcord.2 with ⟨-, hnone, -⟩ | ⟨-, hoperating⟩
      · cases hnone
      · have hkeepalive := hoperating.keepalive
        rcases hoperating.requests f (by simp) with htype | htype
        · have hawaiting : s.awaitingPong = true := by
            cases hawaiting : s.awaitingPong with
            | true => rfl
            | false => simp [htype, hawaiting] at hkeepalive
          simp [hvalid, htype, hawaiting]
        · have hidle : s.txInFlight = false := by
            have hbalance := h.balance hopen
            have hbound := h.length_submissions_le
            cases hflight : s.txInFlight with
            | false => rfl
            | true =>
                simp [requestsOf, htype, hflight] at hbalance
                omega
          simp [hvalid, htype, hidle]
  | closed => exact absurd hphase hopen

/-- The server has gone on, and its client not yet. -/
theorem advance {s' : XrSession} {rest out : List Frame} (h : Accord env k s toServer toClient)
    (hserver : Accountable env s') (hinnocent : XrSession.blamesClient s'.closeReason = false)
    (hemitted : emittedFrames s'.log = emittedFrames s.log ++ out)
    (hreceived : receivedFrames s'.log <+: k.sent)
    (hunread : s'.phase ≠ .closed → receivedFrames s'.log ++ rest = k.sent)
    (hhears : Hears s'.appliedCfg k.session.state (toClient ++ out))
    (happlied : k.session.state = .readyRx ∨ k.session.state = .txPending →
      s'.appliedCfg = s.appliedCfg)
    (hconcord : Concord env k.session.state k.session.cfg s' rest (toClient ++ out)) :
    Accord env k s' rest (toClient ++ out) where
  client := h.client
  server := hserver
  innocent := hinnocent
  heard := by rw [← List.append_assoc, h.heard, hemitted]
  recorded := h.recorded
  received := hreceived
  unread := hunread
  hears := hhears
  applied hstate := (happlied hstate).trans (h.applied hstate)
  concord := hconcord

section Server

variable {β : Type} {R : RadioBackend β} {now : Nat} {s' : XrSession} {b b' : β}

/-- What the server sends on a frame of its client, and where that leaves the two. -/
theorem reply (h : Accord env k s (f :: toServer) toClient) (hopen : s.phase ≠ .closed)
    (hout : XrSession.FrameOutcome R env now f s b (s', b')) :
    ∃ out, emittedFrames s'.log = emittedFrames s.log ++ out ∧
      Hears s.appliedCfg k.session.state (toClient ++ out) ∧
      Concord env k.session.state k.session.cfg s' toServer (toClient ++ out) := by
  have hexpects := h.expects hopen
  have hhears := h.hears
  have hconcord := h.concord
  unfold Concord at hconcord
  cases hout with
  | rejected reason hnot => simp [hexpects] at hnot
  | helloFailed outbox frames nonce reason hphase hframes =>
      simp only [hphase] at hconcord
      obtain ⟨hstate, -, rfl⟩ := hconcord
      refine ⟨frames, by simp [XrSession.shut, XrSession.queue, XrSession.record,
        emittedFrames_append]; simp [emittedFrames], ?_, trivial⟩
      rw [hstate]
      rcases hframes with rfl | rfl
      · exact .silent _
      · exact .acked (.silent _)
  | challenged outbox nonce hphase htype hauth hnonce hqueued =>
      simp only [hphase, List.cons.injEq] at hconcord
      obtain ⟨hstate, ⟨-, rfl⟩, rfl⟩ := hconcord
      refine ⟨[⟨.helloAck, 0, [kVersion]⟩, ⟨.authChallenge, 0, nonce.bytes⟩], ?_, ?_, ?_⟩
      · simp [XrSession.arm, XrSession.queue, XrSession.record, emittedFrames]
      · rw [hstate]
        exact .acked (.challenged _ (.silent _))
      · exact Or.inl ⟨rfl, Or.inl ⟨hstate, rfl⟩⟩
  | helloOpen outbox hphase =>
      simp only [hphase, List.cons.injEq] at hconcord
      obtain ⟨hstate, ⟨-, rfl⟩, rfl⟩ := hconcord
      refine ⟨[⟨.helloAck, 0, [kVersion]⟩, ⟨.authResult, 0, [authOk]⟩], ?_, ?_, ?_⟩
      · simp [XrSession.arm, XrSession.queue, XrSession.record, emittedFrames]
      · rw [hstate]
        exact .acked (.admitted (.silent _))
      · exact Or.inl ⟨rfl, Or.inl ⟨hstate, rfl⟩⟩
  | authClosed outbox frames ok reason hphase htype hok hframes =>
      simp only [hphase] at hconcord
      rcases hconcord with ⟨hnone, -⟩ | ⟨hstate, rfl, -⟩
      · cases hnone
      · refine ⟨frames, ?_, ?_, trivial⟩
        · simp [XrSession.shut, XrSession.queue, XrSession.record, emittedFrames_append]
          simp [emittedFrames]
        · rw [hstate]
          rcases hframes with rfl | ⟨-, rfl⟩
          · exact .silent _
          · exact .refused
  | authenticated outbox hphase =>
      simp only [hphase] at hconcord
      rcases hconcord with ⟨hnone, -⟩ | ⟨hstate, rfl, hnone | ⟨response, -, hresponse⟩⟩
      · cases hnone
      · cases hnone
      · cases hresponse
        refine ⟨[⟨.authResult, 0, [authOk]⟩], ?_, ?_, ?_⟩
        · simp [XrSession.arm, XrSession.queue, XrSession.record, emittedFrames]
        · rw [hstate]
          exact .admitted (.silent _)
        · exact Or.inl ⟨rfl, Or.inr ⟨hstate, rfl⟩⟩
  | configInvalid outbox frames _ hphase hframes
  | configRefused outbox frames _ _ _ hphase _ _ hframes =>
      simp only [hphase] at hconcord
      rcases hconcord with ⟨hnone, -⟩ | ⟨hstate, rfl, -⟩
      · cases hnone
      · refine ⟨frames, ?_, ?_, trivial⟩
        · simp [XrSession.shut, XrSession.queue, XrSession.record, emittedFrames_append]
          simp [emittedFrames]
        · rw [hstate]
          rcases hframes with rfl | rfl
          · exact .silent _
          · exact .denied _
  | configStarted requested token b' hphase hconfig =>
      simp only [hphase] at hconcord
      rcases hconcord with ⟨hnone, -⟩ | ⟨hstate, rfl, hconfigure⟩
      · cases hnone
      · cases hconfigure
        refine ⟨[], ?_, hhears, hstate, rfl, rfl, ?_⟩
        · simp [XrSession.arm, XrSession.record, emittedFrames]
        · have hcfg : requested = k.session.cfg := by
            simpa [decodeConfig, unpackConfig_packConfig h.client.config] using hconfig.symm
          exact hcfg
  | ponged hphase htype hawaiting =>
      simp only [hphase] at hconcord
      rcases hconcord with ⟨hcfg, ⟨-, hnone, -⟩ | ⟨hstate, hoperating⟩⟩
      · cases hnone
      · refine ⟨[], ?_, by simpa using hhears, ?_⟩
        · simp [XrSession.acceptPong, XrSession.record, emittedFrames]
        · have hkeepalive := hoperating.keepalive
          simp only [htype, hawaiting, List.countP_cons, beq_self_eq_true, if_true,
            Bool.toNat_true] at hkeepalive
          have hrest : Operating false toServer toClient :=
            ⟨fun g hg => hoperating.requests g (by simp [hg]), hoperating.traffic,
              by rw [Bool.toNat_false]; omega⟩
          rw [List.append_nil]
          exact concord_of_ready hphase ⟨hcfg, Or.inr ⟨hstate, hrest⟩⟩
  | submitRefused =>
      refine ⟨[], ?_, by simpa using hhears, trivial⟩
      simp [XrSession.shut, XrSession.record, emittedFrames]
  | submitted b' hphase htype =>
      simp only [hphase] at hconcord
      rcases hconcord with ⟨hcfg, ⟨-, hnone, -⟩ | ⟨hstate, hoperating⟩⟩
      · cases hnone
      · refine ⟨[], ?_, by simpa using hhears, ?_⟩
        · simp [XrSession.record, emittedFrames]
        · have hrest : Operating s.awaitingPong toServer toClient :=
            ⟨fun g hg => hoperating.requests g (by simp [hg]), hoperating.traffic,
              by simpa [htype] using hoperating.keepalive⟩
          rw [List.append_nil]
          exact concord_of_ready hphase ⟨hcfg, Or.inr ⟨hstate, hrest⟩⟩

/-- The server handles the next frame of its client. -/
theorem frame (h : Accord env k s (f :: toServer) toClient) (hopen : s.phase ≠ .closed)
    (hout : XrSession.FrameOutcome R env now f s b (s', b')) :
    ∃ out, Accord env k s' toServer (toClient ++ out) := by
  obtain ⟨out, hemitted, hhears, hconcord⟩ := h.reply hopen hout
  have hunread : receivedFrames s'.log ++ toServer = k.sent := by
    rw [hout.received, List.append_assoc]
    exact h.unread hopen
  exact ⟨out, h.advance (hout.accountable hopen h.server)
    (hout.innocent (h.expects hopen) h.innocent) hemitted ⟨toServer, hunread⟩ (fun _ => hunread)
    (hout.appliedCfg_eq ▸ hhears) (fun _ => hout.appliedCfg_eq) hconcord⟩

/-- The server goes on without a frame of its client. -/
theorem unprompted (h : Accord env k s toServer toClient) (out : List Frame)
    (hserver : Accountable env s') (hinnocent : XrSession.blamesClient s'.closeReason = false)
    (hlog : ∃ events, s'.log = s.log ++ events ∧ receivedFrames events = [] ∧
      emittedFrames events = out)
    (hopen : s'.phase ≠ .closed → s.phase ≠ .closed)
    (hhears : Hears s'.appliedCfg k.session.state (toClient ++ out))
    (happlied : k.session.state = .readyRx ∨ k.session.state = .txPending →
      s'.appliedCfg = s.appliedCfg)
    (hconcord : Concord env k.session.state k.session.cfg s' toServer (toClient ++ out)) :
    ∃ out, Accord env k s' toServer (toClient ++ out) := by
  obtain ⟨events, hlog, hnone, hsent⟩ := hlog
  have hreceived : receivedFrames s'.log = receivedFrames s.log := by
    rw [hlog, receivedFrames_append, hnone, List.append_nil]
  exact ⟨out, h.advance hserver hinnocent (by rw [hlog, emittedFrames_append, hsent])
    (hreceived ▸ h.received) (fun hphase => hreceived ▸ h.unread (hopen hphase)) hhears happlied
    hconcord⟩

/-- The server closes, and sends nothing more. -/
theorem close (h : Accord env k s toServer toClient) (hserver : Accountable env s')
    (hphase : s'.phase = .closed) (hinnocent : XrSession.blamesClient s'.closeReason = false)
    (hlog : ∃ events, s'.log = s.log ++ events ∧ receivedFrames events = [] ∧
      emittedFrames events = [])
    (happlied : s'.appliedCfg = s.appliedCfg) :
    ∃ out, Accord env k s' toServer (toClient ++ out) :=
  h.unprompted [] hserver hinnocent hlog (fun hopen => absurd hphase hopen)
    (by simpa [happlied] using h.hears) (fun _ => happlied) (concord_of_closed _ _ hphase)

/-- The server's clock ticks. -/
theorem tick (h : Accord env k s toServer toClient)
    (hout : XrSession.TickOutcome R env now s b (s', b')) :
    ∃ out, Accord env k s' toServer (toClient ++ out) := by
  have hserver := (accountable_invariant R env).tick trivial h.server hout
  cases hout with
  | quiet => exact ⟨[], by simpa using h⟩
  | expired reason hopen hreason =>
      refine h.close hserver rfl ?_ ⟨[.closed reason], rfl, rfl, rfl⟩ rfl
      rcases hreason with ⟨rfl, -⟩ | ⟨rfl, -⟩ | rfl
      · exact h.server.deadline
      · rfl
      · rfl
  | abandoned =>
      exact h.close hserver rfl rfl ⟨[.abandonCalled, .closed .txTimeoutUncertain],
        by simp [XrSession.shut, XrSession.record], rfl, rfl⟩ rfl
  | pinged outbox hphase hidle =>
      have hconcord := h.concord
      rw [Concord, hphase] at hconcord
      have hsent : Configured k.session.state k.session.cfg s.appliedCfg true toServer
          (toClient ++ [⟨.ping, 0, []⟩]) := hconcord.send (by simp) (by simp [hidle])
      exact h.unprompted [⟨.ping, 0, []⟩] hserver h.innocent
        ⟨[.emitted ⟨.ping, 0, []⟩], rfl, rfl, rfl⟩
        (by simp [hphase]) hsent.hears (fun _ => rfl) (concord_of_ready hphase hsent)

/-- The backend calls back. -/
theorem call {call : SinkCall} (h : Accord env k s toServer toClient)
    (hout : XrSession.CallOutcome env now s call s') :
    ∃ out, Accord env k s' toServer (toClient ++ out) := by
  have hserver := hout.accountable h.server
  have hconcord := h.concord
  cases hout with
  | ignored =>
      exact h.unprompted [] hserver h.innocent ⟨[.callback call], rfl, rfl, rfl⟩ id
        (by rw [List.append_nil]; exact h.hears) (fun _ => rfl)
        (by rw [List.append_nil]; exact hconcord)
  | failed =>
      exact h.close hserver rfl rfl ⟨[.callback .onBackendFailure, .closed .backendFailure],
        by simp [XrSession.shut, XrSession.record], rfl, rfl⟩ rfl
  | rxOverflow rx =>
      exact h.close hserver rfl rfl ⟨[.callback (.onRx rx), .closed .outputOverflow],
        by simp [XrSession.shut, XrSession.record], rfl, rfl⟩ rfl
  | completeOverflow outcome =>
      exact h.close hserver rfl rfl ⟨[.callback (.onTxComplete outcome), .closed .outputOverflow],
        by simp [XrSession.shut, XrSession.record], rfl, rfl⟩ rfl
  | forwarded rx outbox hphase =>
      rw [Concord, hphase] at hconcord
      have hsent : Configured k.session.state k.session.cfg s.appliedCfg s.awaitingPong toServer
          (toClient ++ [XrSession.rxFrame rx]) :=
        hconcord.send (by simp [XrSession.rxFrame]) (by simp [XrSession.rxFrame])
      exact h.unprompted [XrSession.rxFrame rx] hserver h.innocent
        ⟨[.callback (.onRx rx), .emitted (XrSession.rxFrame rx)],
          by simp [XrSession.queue, XrSession.record], rfl, rfl⟩
        (by simp [hphase]) hsent.hears (fun _ => rfl) (concord_of_ready hphase hsent)
  | completed outcome outbox hphase =>
      rw [Concord, hphase] at hconcord
      have hsent : Configured k.session.state k.session.cfg s.appliedCfg s.awaitingPong toServer
          (toClient ++ [XrSession.txResultFrame s.txSeq outcome]) :=
        hconcord.send (by simp [XrSession.txResultFrame]) (by simp [XrSession.txResultFrame])
      exact h.unprompted [XrSession.txResultFrame s.txSeq outcome] hserver h.innocent
        ⟨[.callback (.onTxComplete outcome), .emitted (XrSession.txResultFrame s.txSeq outcome)],
          by simp [XrSession.queue, XrSession.record], rfl, rfl⟩
        (by simp [hphase]) hsent.hears (fun _ => rfl) (concord_of_ready hphase hsent)
  | configured token res outbox hphase htoken happlied heffective =>
      rw [Concord, hphase] at hconcord
      obtain ⟨hstate, rfl, rfl, hrequested⟩ := hconcord
      have hsent : Configured k.session.state k.session.cfg res.effective false []
          [XrSession.configOkFrame res.effective] :=
        ⟨heffective.trans hrequested, Or.inl ⟨hstate, rfl, [], rfl, by simp, by simp [Traffic], rfl⟩⟩
      exact h.unprompted [XrSession.configOkFrame res.effective] hserver h.innocent
        ⟨[.callback (.onConfigureComplete token res),
            .emitted (XrSession.configOkFrame res.effective)],
          by simp [XrSession.enterReady, XrSession.queue, XrSession.record], rfl, rfl⟩
        (by simp [hphase]) hsent.hears (by simp [hstate]) (concord_of_ready rfl hsent)
  | configOverflow token res hphase =>
      rw [Concord, hphase] at hconcord
      obtain ⟨hstate, rfl, rfl, -⟩ := hconcord
      exact h.unprompted [] hserver rfl
        ⟨[.callback (.onConfigureComplete token res), .closed .outputOverflow],
          by simp [XrSession.shut, XrSession.record], rfl, rfl⟩
        (by simp [hphase]) (.silent _) (by simp [hstate]) (concord_of_closed _ _ rfl)
  | configFailed token res outbox frames reason hphase htoken hframes hqueued hreason =>
      rw [Concord, hphase] at hconcord
      obtain ⟨hstate, rfl, rfl, -⟩ := hconcord
      refine h.unprompted frames hserver hreason
        ⟨.callback (.onConfigureComplete token res) :: (frames.map .emitted ++ [.closed reason]),
          by simp [XrSession.shut, XrSession.queue, XrSession.record],
          by simp [receivedFrames, List.filterMap_map],
          by simp [emittedFrames, List.filterMap_map]⟩
        (by simp [hphase]) ?_ (by simp [hstate]) (concord_of_closed _ _ rfl)
      rw [hstate]
      rcases hframes with rfl | rfl
      · exact .silent _
      · exact .denied _

end Server

end Accord

/-! ## The client's side -/

namespace Firmware

variable {env : XrEnv} {k k' : Firmware} {f : Frame}

/-- The client has given up, for a reason that is no fault of the server's frames. -/
structure Failed (k k' : Firmware) : Prop where
  state : k'.session.state = .degraded
  error : k'.session.lastErr = .auth ∨ k'.session.lastErr = .config ∨ k'.session.lastErr = .timeout
  sent : k'.sent = k.sent
  submissions : k'.submissions = k.submissions
  recorded : k'.recorded = k.recorded

/-- Handling a frame, by what the session makes of it. -/
theorem handle_of_onFrame {event : Session.Event} {session : Session}
    (h : k.session.onFrame f = (event, session)) :
    k.handle env f = act env event { k with session := session, heard := k.heard ++ [f] } := by
  rw [handle, h]

/-- A frame that the session refuses ends the connection. -/
theorem failed_of_onFrame {e : ErrorCode} (h : k.session.onFrame f = k.session.fail e)
    (he : e = .auth ∨ e = .config ∨ e = .timeout) : Failed k (k.handle env f) := by
  rw [handle_of_onFrame h]
  exact ⟨rfl, he, rfl, rfl, rfl⟩

/-- A live client stays so while it neither submits nor records a transmission. -/
theorem Live.next (h : k.Live) (hworking : k'.session.state ≠ .degraded)
    (herror : k'.session.lastErr = k.session.lastErr) (hcfg : k'.session.cfg = k.session.cfg)
    (hnext : k'.session.nextSeq = k.session.nextSeq) (hseq : k'.session.txSeq = k.session.txSeq)
    (hpending : k'.session.state = .txPending ↔ k.session.state = .txPending)
    (hsubmissions : k'.submissions = k.submissions) (hrecorded : k'.recorded = k.recorded)
    {out : List Frame} (hsent : k'.sent = k.sent ++ out)
    (hout : ∀ f ∈ out, validate f = .none ∧ f.type ≠ .txRequest) : k'.Live where
  working := hworking
  error := herror.trans h.error
  config := hcfg ▸ h.config
  nextSeq := hnext ▸ h.nextSeq
  sent := by
    intro f hf
    rw [hsent, List.mem_append] at hf
    exact hf.elim (h.sent f) fun hf => (hout f hf).1
  submissions := by
    have hnone : requestsOf out = [] := by
      simpa [requestsOf] using fun f hf => (hout f hf).2
    rw [hsubmissions, hsent, requestsOf_append, hnone, List.append_nil, h.submissions]
  idle hstate := by
    rw [hsubmissions, hrecorded]
    exact h.idle (mt hpending.mpr hstate)
  pending hstate := by
    rw [hsubmissions, hrecorded, hseq]
    exact h.pending (hpending.mp hstate)

end Firmware

namespace Accord

variable {env : XrEnv} {k k' : Firmware} {s : XrSession} {f : Frame}
  {toServer toClient : List Frame}

/-- The next frame on the way to the client is a valid one. -/
theorem valid (h : Accord env k s toServer (f :: toClient)) : validate f = .none := by
  obtain ⟨c, hreplay, -⟩ := h.server.conducted.conduct
  exact (replay_promised hreplay).sent f (by simp [← h.heard])

/-- The client has gone on by one frame, and the server not yet. -/
theorem listen {out : List Frame} (h : Accord env k s toServer (f :: toClient)) (hlive : k'.Live)
    (hheard : k'.heard = k.heard ++ [f]) (hsent : k'.sent = k.sent ++ out)
    (hrecorded : k'.recorded = k.recorded ++ resultsOf [f])
    (hhears : Hears s.appliedCfg k'.session.state toClient)
    (happlied : k'.session.state = .readyRx ∨ k'.session.state = .txPending →
      s.appliedCfg = k'.session.cfg)
    (hconcord : Concord env k'.session.state k'.session.cfg s (toServer ++ out) toClient) :
    Accord env k' s (toServer ++ out) toClient where
  client := hlive
  server := h.server
  innocent := h.innocent
  heard := by
    rw [hheard, List.append_assoc]
    exact h.heard
  recorded := by rw [hrecorded, hheard, resultsOf_append, h.recorded]
  received := hsent ▸ h.received.trans (List.prefix_append _ _)
  unread hopen := by rw [hsent, ← h.unread hopen, List.append_assoc]
  hears := hhears
  applied := happlied
  concord := hconcord

/-- What a client does about the next frame: it stays in accord with the server, or gives
up for a reason of its own. -/
def Follows (env : XrEnv) (k k' : Firmware) (s : XrSession) (toServer toClient : List Frame) :
    Prop :=
  (∃ out, k'.sent = k.sent ++ out ∧ Accord env k' s (toServer ++ out) toClient) ∨
    Firmware.Failed k k'

/-- The client takes a frame that is no result, and sends `out`. -/
theorem follow {event : Session.Event} {state : Session.State} {nonce : Bytes} {rx : RxPacket}
    (h : Accord env k s toServer (f :: toClient)) (out : List Frame)
    (hevent : k.session.onFrame f =
      (event, { k.session with state := state, nonce := nonce, lastRx := rx }))
    (hact : ∀ k' : Firmware, k'.session.nonce = nonce → k'.session.cfg = k.session.cfg →
      Firmware.act env event k' = { k' with sent := k'.sent ++ out })
    (htype : f.type ≠ .txResult) (hworking : state ≠ .degraded)
    (hpending : state = .txPending ↔ k.session.state = .txPending)
    (hout : ∀ f ∈ out, validate f = .none ∧ f.type ≠ .txRequest)
    (hhears : Hears s.appliedCfg state toClient)
    (happlied : state = .readyRx ∨ state = .txPending → s.appliedCfg = k.session.cfg)
    (hconcord : Concord env state k.session.cfg s (toServer ++ out) toClient) :
    Follows env k (k.handle env f) s toServer toClient := by
  have hsent := hact
    { k with
      session := { k.session with state := state, nonce := nonce, lastRx := rx }
      heard := k.heard ++ [f] } rfl rfl
  rw [Firmware.handle_of_onFrame hevent, hsent]
  refine Or.inl ⟨out, rfl, h.listen ?_ rfl rfl ?_ hhears happlied hconcord⟩
  · exact h.client.next hworking rfl rfl rfl rfl hpending rfl rfl rfl hout
  · rw [resultsOf_of_type htype, List.append_nil]

/-- `HELLO_ACK`. -/
theorem hear_acked (h : Accord env k s toServer (⟨.helloAck, 0, [kVersion]⟩ :: toClient))
    (hstate : k.session.state = .handshake)
    (hhears : Hears s.appliedCfg .authenticating toClient) :
    Follows env k (k.handle env ⟨.helloAck, 0, [kVersion]⟩) s toServer toClient := by
  have hevent : k.session.onFrame ⟨.helloAck, 0, [kVersion]⟩ =
      (.none, { k.session with state := .authenticating }) := by
    rw [Session.onFrame_of_valid _ h.valid (by simp), Session.onStateFrame, hstate]
  refine h.follow [] hevent (by simp [Firmware.act]) (by simp) (by simp) (by simp [hstate])
    (by simp) hhears (by simp) ?_
  have hconcord := h.concord
  unfold Concord Ahead Configured at hconcord
  unfold Concord Ahead
  cases hphase : s.phase <;> simp_all

/-- `AUTH_CHALLENGE`. -/
theorem hear_challenged {nonce : Bytes}
    (h : Accord env k s toServer (⟨.authChallenge, 0, nonce⟩ :: toClient))
    (hstate : k.session.state = .authenticating)
    (hhears : Hears s.appliedCfg .authenticating toClient) :
    Follows env k (k.handle env ⟨.authChallenge, 0, nonce⟩) s toServer toClient := by
  have hlength : nonce.length = kAuthNonceSize := by
    by_contra hlength
    have hvalid := h.valid
    simp [validate, hlength] at hvalid
  have hevent : k.session.onFrame ⟨.authChallenge, 0, nonce⟩ =
      (.sendAuth, { k.session with nonce := nonce }) := by
    rw [Session.onFrame_of_valid _ h.valid (by simp), Session.onStateFrame, hstate]
    simp [← hlength, hstate]
  have hconcord := h.concord
  unfold Concord Ahead Configured at hconcord
  cases hdigest : hmacSha256 env.hmac env.auth.password nonce with
  | none =>
      refine h.follow [] hevent ?_ (by simp) h.client.working Iff.rfl (by simp)
        (hstate ▸ hhears) (by simp [hstate]) ?_
      · rintro k' hnonce -
        simp [Firmware.act, hnonce, hdigest]
      · unfold Concord Ahead
        cases hphase : s.phase <;> simp_all
  | some response =>
      have hvalid : validate ⟨.authResponse, 0, response⟩ = .none := by
        simp [validate, length_of_hmacSha256 hdigest]
      refine h.follow [⟨.authResponse, 0, response⟩] hevent ?_ (by simp) h.client.working Iff.rfl
        (by simpa using hvalid) (hstate ▸ hhears) (by simp [hstate]) ?_
      · rintro k' hnonce -
        simp [Firmware.act, Firmware.send, hnonce, hdigest]
      · unfold Concord Ahead
        cases hphase : s.phase <;> simp_all

/-- `AUTH_RESULT` in favour of the client. -/
theorem hear_admitted (h : Accord env k s toServer (⟨.authResult, 0, [authOk]⟩ :: toClient))
    (hstate : k.session.state = .authenticating)
    (hhears : Hears s.appliedCfg .configuring toClient) :
    Follows env k (k.handle env ⟨.authResult, 0, [authOk]⟩) s toServer toClient := by
  have hevent : k.session.onFrame ⟨.authResult, 0, [authOk]⟩ =
      (.sendConfig, { k.session with state := .configuring }) := by
    rw [Session.onFrame_of_valid _ h.valid (by simp), Session.onStateFrame, hstate]
    rfl
  have hvalid := validate_configure h.client.config
  refine h.follow [⟨.configure, 0, packConfig k.session.cfg⟩] hevent ?_ (by simp) (by simp)
    (by simp [hstate]) (by simpa using hvalid) hhears (by simp) ?_
  · rintro k' - hcfg
    simp [Firmware.act, Firmware.send, hcfg]
  · have hconcord := h.concord
    unfold Concord Ahead Configured at hconcord
    unfold Concord Ahead
    cases hphase : s.phase <;> simp_all

/-- The grant. -/
theorem hear_granted (h : Accord env k s toServer (XrSession.configOkFrame s.appliedCfg :: toClient))
    (hstate : k.session.state = .configuring) (htraffic : Traffic toClient) :
    Follows env k (k.handle env (XrSession.configOkFrame s.appliedCfg)) s toServer toClient := by
  have hvalid := radioConfigValid_of_validate_configOkFrame h.valid
  have hframe := Session.onFrame_of_valid k.session h.valid (by simp [XrSession.configOkFrame])
  rw [Session.onStateFrame, hstate] at hframe
  rcases k.session.onConfigResult_cases s.appliedCfg hvalid 0 with hfail | ⟨hcfg, hready⟩
  · exact Or.inr (Firmware.failed_of_onFrame (hframe.trans hfail) (by simp))
  · refine h.follow [] (hframe.trans hready) (by simp [Firmware.act])
      (by simp [XrSession.configOkFrame]) (by simp) (by simp [hstate]) (by simp)
      (.operating (by simp) htraffic) (fun _ => hcfg) ?_
    have hconcord := h.concord
    unfold Concord Ahead Configured at hconcord
    unfold Concord Configured
    cases hphase : s.phase <;> simp_all

/-- Only a ready server, or one that has closed, has a ready client. -/
theorem ready (h : Accord env k s toServer toClient)
    (hstate : k.session.state = .readyRx ∨ k.session.state = .txPending) :
    s.phase = .closed ∨
      s.phase = .ready ∧ Operating s.awaitingPong toServer toClient := by
  have hconcord := h.concord
  unfold Concord Ahead Configured at hconcord
  cases hphase : s.phase <;> rcases hstate with hstate | hstate <;> simp_all

/-- The client takes one more frame of a ready server. -/
theorem concord_hear {out : List Frame} {state : Session.State}
    (h : Accord env k s toServer (f :: toClient))
    (hstate : k.session.state = .readyRx ∨ k.session.state = .txPending)
    (hstate' : state = .readyRx ∨ state = .txPending)
    (hout : ∀ g ∈ out, g.type = .pong ∨ g.type = .txRequest)
    (hping : out.countP (·.type == .pong) = if f.type = .ping then 1 else 0) :
    Concord env state k.session.cfg s (toServer ++ out) toClient := by
  rcases h.ready hstate with hphase | ⟨hphase, hoperating⟩
  · exact concord_of_closed _ _ hphase
  · exact concord_of_ready hphase
      ⟨h.applied hstate, Or.inr ⟨hstate', hoperating.hear hout hping⟩⟩

/-- A result that was sent belongs to the submission of the same number. -/
theorem submission_of_result (h : Accord env k s toServer toClient) {n : Nat}
    (hf : (view s.log).results[n]? = some f) :
    ∃ log payload outcome,
      log ++ [.callback (.onTxComplete outcome), .emitted f] <+: s.log ∧
      f = XrSession.txResultFrame f.seq outcome ∧ (acceptedRequests log).length = n + 1 ∧
      (acceptedRequests log)[n]? = some (f.seq, payload) ∧
      k.submissions[n]? = some (f.seq, payload) := by
  obtain ⟨log, payload, outcome, hle, hframe, hlength, hrequest⟩ :=
    h.server.conducted.result_of_request hf
  have haccepted : acceptedRequests log <+: k.submissions := by
    obtain ⟨rest, hrest⟩ := hle
    calc acceptedRequests log
        <+: acceptedRequests s.log := by
          rw [← hrest, List.append_assoc, acceptedRequests_append]
          exact List.prefix_append _ _
      _ <+: requestsOf (receivedFrames s.log) := h.server.accepted
      _ <+: k.submissions := by
          rw [h.client.submissions]
          obtain ⟨others, hothers⟩ := h.received
          rw [← hothers, requestsOf_append]
          exact List.prefix_append _ _
  refine ⟨log, payload, outcome, hle, hframe, hlength, hrequest, ?_⟩
  obtain ⟨hlt, hget⟩ := List.getElem?_eq_some_iff.mp hrequest
  rw [List.prefix_iff_getElem?.mp haccepted n hlt, hget]

/-- The next result is the one the client waits for. -/
theorem awaited_of_result (h : Accord env k s toServer (f :: toClient))
    (htype : f.type = .txResult) : k.session.state = .txPending ∧ f.seq = k.session.txSeq := by
  have hresult : (view s.log).results[k.recorded.length]? = some f := by
    simp [view_eq, ← h.heard, h.recorded, resultsOf, htype]
  obtain ⟨-, payload, -, -, -, -, -, hsubmission⟩ := h.submission_of_result hresult
  have hlt := (List.getElem?_eq_some_iff.mp hsubmission).1
  have hstate : k.session.state = .txPending := by
    by_contra hstate
    rw [h.client.idle hstate] at hlt
    omega
  obtain ⟨-, payload', hpending⟩ := h.client.pending hstate
  rw [hsubmission] at hpending
  simp only [Option.some.injEq, Prod.mk.injEq] at hpending
  exact ⟨hstate, hpending.1⟩

/-- `TX_RESULT`. -/
theorem hear_result (h : Accord env k s toServer (f :: toClient)) (htype : f.type = .txResult)
    (htraffic : Traffic toClient) :
    Follows env k (k.handle env f) s toServer toClient := by
  obtain ⟨hstate, hseq⟩ := h.awaited_of_result htype
  have hevent : k.session.onFrame f =
      (.txDone,
        { k.session with
          lastTxOutcome := Session.outcomeOfCode (f.payload.getD 0 0)
          txInFlight := false
          state := .readyRx }) := by
    rw [Session.onFrame_of_valid _ h.valid (by simp [htype]), Session.onStateFrame, hstate, htype]
    simp [Session.onTxResult, hseq]
  have hpending := h.client.pending hstate
  rw [Firmware.handle_of_onFrame hevent]
  refine Or.inl ⟨[], by simp [Firmware.act], h.listen ?_ rfl (by simp [Firmware.act]) ?_
    (.operating (by simp [Firmware.act]) htraffic) (fun _ => h.applied (Or.inr hstate)) ?_⟩
  · exact
      { working := by simp [Firmware.act]
        error := h.client.error
        config := h.client.config
        nextSeq := h.client.nextSeq
        sent := h.client.sent
        submissions := h.client.submissions
        idle := fun _ => by simp [Firmware.act, hpending.1]
        pending := by simp [Firmware.act] }
  · simp [Firmware.act, resultsOf, htype, hseq]
  · exact h.concord_hear (Or.inr hstate) (Or.inl rfl) (by simp) (by simp [htype])

/-- Frames of a configured connection. -/
theorem hear_traffic (h : Accord env k s toServer (f :: toClient))
    (hstate : k.session.state = .readyRx ∨ k.session.state = .txPending)
    (htraffic : Traffic (f :: toClient)) :
    Follows env k (k.handle env f) s toServer toClient := by
  have hrest : Traffic toClient := fun g hg => htraffic g (by simp [hg])
  have hworking : k.session.state ≠ .degraded := h.client.working
  rcases htraffic f (by simp) with htype | htype | htype
  · obtain ⟨rx, hrx⟩ := k.session.onRxPacket_of_valid htype h.valid
    have hevent : k.session.onFrame f = (.rx, { k.session with lastRx := rx }) := by
      rw [Session.onFrame_of_valid _ h.valid (by simp [htype]), ← hrx]
      rcases hstate with hstate | hstate <;> simp [Session.onStateFrame, hstate, htype]
    exact h.follow [] hevent (by simp [Firmware.act]) (by simp [htype]) hworking Iff.rfl (by simp)
      (.operating hstate hrest) h.applied (h.concord_hear hstate hstate (by simp) (by simp [htype]))
  · have hevent : k.session.onFrame f = (.sendPong, k.session) := by
      rw [Session.onFrame, if_neg (by simp [h.valid]), if_neg (by simp [htype]), if_pos htype,
        if_pos hstate]
    exact h.follow [⟨.pong, 0, []⟩] hevent (by simp [Firmware.act, Firmware.send])
      (by simp [htype]) hworking Iff.rfl (by simp [validate]) (.operating hstate hrest) h.applied
      (h.concord_hear hstate hstate (by simp) (by simp [htype]))
  · exact h.hear_result htype hrest

/-- The client handles the next frame of the server. -/
theorem hear (h : Accord env k s toServer (f :: toClient)) :
    Follows env k (k.handle env f) s toServer toClient := by
  have hhears := h.hears
  have hvalid := h.valid
  generalize hstate : k.session.state = state at hhears
  generalize hframes : f :: toClient = frames at hhears
  cases hhears with
  | silent => cases hframes
  | acked hrest =>
      cases hframes
      exact h.hear_acked hstate hrest
  | challenged nonce hrest =>
      cases hframes
      exact h.hear_challenged hstate hrest
  | admitted hrest =>
      cases hframes
      exact h.hear_admitted hstate hrest
  | refused =>
      cases hframes
      refine Or.inr (Firmware.failed_of_onFrame (e := .auth) ?_ (by simp))
      rw [Session.onFrame_of_valid _ hvalid (by simp), Session.onStateFrame, hstate]
      rfl
  | granted htraffic =>
      cases hframes
      exact h.hear_granted hstate htraffic
  | denied status =>
      cases hframes
      refine Or.inr (Firmware.failed_of_onFrame (e := .config) ?_ (by simp))
      rw [Session.onFrame_of_valid _ hvalid (by simp), Session.onStateFrame, hstate]
      rfl
  | operating hready htraffic => exact h.hear_traffic (hstate ▸ hready) (hframes ▸ htraffic)

end Accord

end LorahamBridge
