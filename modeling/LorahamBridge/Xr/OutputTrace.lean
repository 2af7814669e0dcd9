import LorahamBridge.Xr.Conduct

/-!
# What a session sends

The bytes a connection has sent and those it still holds are its frames, whole and
in order.  The output queue in between is a plain byte queue, however it compacts
its storage and however the socket takes the bytes.

The frames themselves follow the protocol: their sequence is a beginning of one a
server may send, every one of them passes the validation a client applies, there is
at most one `PING` unanswered, and every `TX_RESULT` answers the request accepted
last.  All of this is read off the automaton of `Conduct`.

Main results:

- Theorem `outbox_exact_fifo`: the queue, and what goes through it.
- Theorem `replay_sent`: the frames sent at each stage of the automaton.
- Theorem `replay_promised`: every frame sent is valid, and every result answers a
  request.
- Theorem `server_trace_legal`: all of it for the session of any run.
-/

namespace LorahamBridge

open Foundation Extradio

/-- The output queue is a plain byte queue of its capacity, in storage of at most
twice that, and refuses exactly what does not fit.  What the `send` calls of a run have
accepted, whatever their answers were, and what is left are the emitted frames. -/
theorem outbox_exact_fifo :
    (∀ (cap : Nat) (ops : List BoundedBuffer.Op),
      let q := BoundedBuffer.run cap ops
      q.data = BoundedBuffer.fifo cap ops ∧ q.size ≤ cap ∧ q.buf.length ≤ 2 * cap ∧
        ∀ (grow : Nat → Nat → Nat) (bytes : Bytes),
          (q.append grow bytes = none ↔ cap < q.size + bytes.length) ∧
            BoundedBuffer.run cap (ops ++ [.append grow bytes]) =
              (q.append grow bytes).getD q) ∧
      ∀ (β : Type) (R : RadioBackend β) (env : XrEnv) (o : XrConnection.Opening β)
        (ops : List (XrConnection.Op β)),
        let s := (XrConnection.run R env o ops).1.session
        s.drained = XrConnection.sent R env o ops ∧
          XrConnection.sent R env o ops ++ s.outbox.data =
            (emittedFrames s.log).flatMap frameBytes := by
  refine ⟨fun cap ops => ?_, fun β R env o ops => ?_⟩
  swap
  · have hsent := XrConnection.run_drained R env o ops
    exact ⟨hsent, hsent ▸ (run_conducted R env o ops).written⟩
  obtain ⟨hq, hcap, hdata⟩ := BoundedBuffer.run_fifo cap ops
  refine ⟨hdata, hq.live.trans_eq hcap, by simpa [hcap] using hq.storage, fun grow bytes => ⟨?_, ?_⟩⟩
  · simpa [hcap] using BoundedBuffer.append_eq_none_iff grow bytes hq
  · simp [BoundedBuffer.run, BoundedBuffer.step]

/-! ## The legal traces -/

/-- The frames of a successful authentication. -/
def Admission (auth : AuthConfig) (frames : List Frame) : Prop :=
  if auth.passwordConfigured then
    ∃ nonce, frames =
      [⟨.helloAck, 0, [kVersion]⟩, ⟨.authChallenge, 0, nonce⟩, ⟨.authResult, 0, [authOk]⟩]
  else frames = [⟨.helloAck, 0, [kVersion]⟩, ⟨.authResult, 0, [authOk]⟩]

/-- The frames of a configured connection. -/
def Traffic (frames : List Frame) : Prop :=
  ∀ f ∈ frames, f.type = .rxPacket ∨ f.type = .ping ∨ f.type = .txResult

/-- What a server may send over a whole connection. -/
inductive ServerTrace (auth : AuthConfig) : List Frame → Prop
  | refused (hauth : auth.passwordConfigured = true) (nonce : Bytes) :
      ServerTrace auth
        [⟨.helloAck, 0, [kVersion]⟩, ⟨.authChallenge, 0, nonce⟩, ⟨.authResult, 0, [authFail]⟩]
  | unconfigured {admission : List Frame} (hadmission : Admission auth admission) (code : UInt8)
      (hcode : code ≠ cfgOk) :
      ServerTrace auth (admission ++ [⟨.configResult, 0, [code]⟩])
  | served {admission traffic : List Frame} (hadmission : Admission auth admission)
      (cfg : RadioConfig) (htraffic : Traffic traffic) :
      ServerTrace auth (admission ++ XrSession.configOkFrame cfg :: traffic)

/-- The frames are the beginning of a legal trace. -/
def Legal (auth : AuthConfig) (frames : List Frame) : Prop :=
  ∃ trace, ServerTrace auth trace ∧ frames <+: trace

/-- The beginning of a legal output is legal. -/
theorem Legal.mono {auth : AuthConfig} {frames more : List Frame} (h : Legal auth more)
    (hle : frames <+: more) : Legal auth frames :=
  h.imp fun _ ht => ⟨ht.1, hle.trans ht.2⟩

/-- The output of a session is legal. -/
theorem ServerTrace.legal {auth : AuthConfig} {frames : List Frame} (h : ServerTrace auth frames) :
    Legal auth frames :=
  ⟨frames, h, List.prefix_rfl⟩

theorem Admission.legal {auth : AuthConfig} {frames : List Frame} (h : Admission auth frames) :
    Legal auth frames :=
  (ServerTrace.unconfigured h cfgInvalid (by decide)).legal.mono (List.prefix_append _ _)

theorem legal_acked (auth : AuthConfig) : Legal auth [⟨.helloAck, 0, [kVersion]⟩] := by
  by_cases hauth : auth.passwordConfigured = true
  · exact (ServerTrace.refused hauth []).legal.mono ⟨_, rfl⟩
  · have hadmission : Admission auth [⟨.helloAck, 0, [kVersion]⟩, ⟨.authResult, 0, [authOk]⟩] := by
      simp [Admission, hauth]
    exact hadmission.legal.mono ⟨_, rfl⟩

/-- The frames a session has sent when its automaton is at a stage. -/
def SentAt (auth : AuthConfig) : Stage → List Frame → Prop
  | .start, frames => frames = []
  | .acked, frames => frames = [⟨.helloAck, 0, [kVersion]⟩]
  | .challenged nonce, frames =>
      auth.passwordConfigured = true ∧
        frames = [⟨.helloAck, 0, [kVersion]⟩, ⟨.authChallenge, 0, nonce⟩]
  | .admitted, frames | .configuring _ _, frames => Admission auth frames
  | .ready, frames =>
      ∃ admission cfg traffic, Admission auth admission ∧ Traffic traffic ∧
        frames = admission ++ XrSession.configOkFrame cfg :: traffic
  | .due f next, frames => SentAt auth next (frames ++ [f])
  | .closing, frames | .closed, frames => Legal auth frames

/-- At every stage the trace is legal. -/
theorem SentAt.legal {auth : AuthConfig} {stage : Stage} {frames : List Frame}
    (h : SentAt auth stage frames) : Legal auth frames := by
  induction stage generalizing frames with
  | start => exact h ▸ (legal_acked auth).mono List.nil_prefix
  | acked => exact h ▸ legal_acked auth
  | challenged nonce =>
      rw [h.2]
      exact (ServerTrace.refused h.1 nonce).legal.mono ⟨[_], rfl⟩
  | admitted => exact Admission.legal h
  | configuring => exact Admission.legal h
  | ready =>
      obtain ⟨admission, cfg, traffic, hadmission, htraffic, rfl⟩ := h
      exact (ServerTrace.served hadmission cfg htraffic).legal
  | due f next ih => exact (ih h).mono (List.prefix_append _ _)
  | closing => exact h
  | closed => exact h

/-- Traffic after traffic. -/
theorem Traffic.append {frames more : List Frame} (h : Traffic frames) (hmore : Traffic more) :
    Traffic (frames ++ more) := by
  intro f hf
  exact (List.mem_append.mp hf).elim (h f) (hmore f)

/-- A ready session goes on with its traffic. -/
theorem SentAt.ready_append {auth : AuthConfig} {frames : List Frame} (h : SentAt auth .ready frames)
    {f : Frame} (hf : f.type = .rxPacket ∨ f.type = .ping ∨ f.type = .txResult) :
    SentAt auth .ready (frames ++ [f]) := by
  obtain ⟨admission, cfg, traffic, hadmission, htraffic, rfl⟩ := h
  exact ⟨admission, cfg, traffic ++ [f], hadmission, htraffic.append (by simpa [Traffic] using hf),
    by simp⟩

/-- Every move keeps the output within what its stage allows. -/
theorem SentAt.move {env : XrEnv} {c c' : Conduct} {e : SessionEvent} (hmove : c.Move env e c')
    {frames : List Frame} (h : SentAt env.auth c.stage frames) :
    SentAt env.auth c'.stage (frames ++ emittedFrames [e]) := by
  cases hmove with
  | received | ignored | ponged => simpa [emittedFrames] using h
  | acked hstage =>
      rw [hstage] at h
      simpa [emittedFrames, SentAt] using h
  | challenged nonce hstage hauth hlen =>
      rw [hstage] at h
      exact ⟨hauth, by rw [h]; rfl⟩
  | admitted hstage hauth =>
      rw [hstage] at h
      rw [h]
      simp [SentAt, Admission, hauth, emittedFrames]
  | configInvalid hstage =>
      rw [hstage] at h
      exact (ServerTrace.unconfigured h cfgInvalid (by decide)).legal
  | pinged hstage =>
      simp only [hstage] at h ⊢
      exact h.ready_append (by simp)
  | paid f next hstage =>
      rw [hstage] at h
      exact h
  | authenticated f nonce hstage =>
      rw [hstage] at h
      obtain ⟨hauth, rfl⟩ := h
      simp [SentAt, Admission, hauth, emittedFrames]
  | refused response nonce hstage =>
      rw [hstage] at h
      obtain ⟨hauth, rfl⟩ := h
      exact (ServerTrace.refused hauth nonce).legal
  | configRefused requested hstage =>
      rw [hstage] at h
      simpa [emittedFrames, SentAt] using (ServerTrace.unconfigured h cfgUnsupported (by decide)).legal
  | configStarted f requested token hstage =>
      rw [hstage] at h
      simpa [emittedFrames, SentAt] using h
  | submitted f hstage =>
      simpa [emittedFrames] using h
  | submitRefused | abandoned | closed => simpa [emittedFrames, SentAt] using h.legal
  | configured call requested token hstage =>
      rw [hstage] at h
      exact ⟨frames, requested, [], h, by simp [Traffic], by simp [emittedFrames]⟩
  | configFailed call requested token hstage =>
      rw [hstage] at h
      simpa [emittedFrames, SentAt] using (ServerTrace.unconfigured h cfgUnsupported (by decide)).legal
  | forwarded rx hstage =>
      rw [hstage] at h
      simpa [emittedFrames, SentAt] using h.ready_append (by simp [XrSession.rxFrame])
  | completed seq outcome hstage =>
      rw [hstage] at h
      simpa [emittedFrames, SentAt] using h.ready_append (by simp [XrSession.txResultFrame])

/-- The frames of a history suit its stage. -/
theorem replay_sent {env : XrEnv} {log : List SessionEvent} {c : Conduct}
    (h : replay env log = some c) : SentAt env.auth c.stage (emittedFrames log) :=
  replay_induction (P := fun log c => SentAt env.auth c.stage (emittedFrames log)) rfl
    (fun _ _ _ _ _ hsent hmove => emittedFrames_append _ _ ▸ hsent.move hmove) h

/-! ## Valid frames -/

/-- Requests and results carry a sequence number. -/
theorem seq_ne_zero_of_validate {f : Frame} (hvalid : validate f = .none)
    (htype : f.type = .txRequest ∨ f.type = .txResult) : f.seq ≠ 0 := by
  intro hseq
  rcases htype with htype | htype <;> simp [validate, htype, hseq] at hvalid

/-- The echo of a valid configuration is a valid frame. -/
theorem validate_configOkFrame {cfg : RadioConfig} (h : radioConfigValid cfg = true) :
    validate (XrSession.configOkFrame cfg) = .none := by
  simp only [radioConfigValid, Bool.and_eq_true] at h
  simp [validate, XrSession.configOkFrame, packConfig, putBE32, putBE16, kConfigPayloadSize,
    h.1, h.2]

theorem radioConfigValid_of_validate_configOkFrame {cfg : RadioConfig}
    (h : validate (XrSession.configOkFrame cfg) = .none) : radioConfigValid cfg = true := by
  simpa [validate, XrSession.configOkFrame, packConfig, putBE32, putBE16, kConfigPayloadSize,
    radioConfigValid] using h

/-- The result of a numbered request is a valid frame. -/
theorem validate_txResultFrame {seq : UInt16} (h : seq ≠ 0) (outcome : TxOutcome) :
    validate (XrSession.txResultFrame seq outcome) = .none := by
  cases outcome <;> simp [validate, XrSession.txResultFrame, h, XrSession.resultCode] <;> decide

/-- The length field of a forwarded packet is its length. -/
theorem rxPayload_lengthField {rx : RxEvent} (h : rx.data.length ≤ kMaxLoraPayload) :
    (getBE16 ((XrSession.rxPayload rx).getD 4 0) ((XrSession.rxPayload rx).getD 5 0)).toNat =
      rx.data.length := by
  change (getBE16 (rx.data.length.toUInt16 >>> 8).toUInt8 rx.data.length.toUInt16.toUInt8).toNat = _
  rw [getBE16_putBE16]
  exact UInt16.toNat_ofNat_of_lt (h.trans_lt (by decide))

/-- A forwarded packet is a valid frame. -/
theorem validate_rxFrame {rx : RxEvent} (h : rxPayloadAcceptable rx.data.length = true) :
    validate (XrSession.rxFrame rx) = .none := by
  have hle := ((rxPayloadAcceptable_iff _).mp h).2
  simp only [validate, XrSession.rxFrame, rxPayload_lengthField hle,
    XrSession.rxPayload_length]
  simp [hle]

/-- Everything sent so far is valid, and so is what the automaton owes. -/
structure Promised (log : List SessionEvent) (c : Conduct) : Prop where
  sent : ∀ f ∈ emittedFrames log, validate f = .none
  requested : ∀ cfg token, c.stage = .configuring cfg token → radioConfigValid cfg = true
  owed : ∀ f next, c.stage = .due f next → validate f = .none ∧ f.type ≠ .ping ∧
    (next = .admitted ∨ next = .ready ∨ next = .closing)
  flight : ∀ seq, c.flight = some seq → seq ≠ 0

/-- A configuration that is asked for is valid. -/
theorem radioConfigValid_of_decodeConfig {f : Frame} {cfg : RadioConfig}
    (h : decodeConfig f = some cfg) : radioConfigValid cfg = true := by
  unfold decodeConfig at h
  split at h
  · contradiction
  · exact radioConfigValid_of_unpackConfig h

/-- Every move keeps what the session owes. -/
theorem Promised.move {env : XrEnv} {log : List SessionEvent} {c c' : Conduct} {e : SessionEvent}
    (h : Promised log c) (hmove : c.Move env e c') : Promised (log ++ [e]) c' := by
  have hsent : (∀ f ∈ emittedFrames [e], validate f = .none) →
      ∀ f ∈ emittedFrames (log ++ [e]), validate f = .none := by
    intro hnew f hf
    rw [emittedFrames_append, List.mem_append] at hf
    exact hf.elim (h.sent f) (hnew f)
  cases hmove with
  | received | ignored => exact ⟨hsent (by simp [emittedFrames]), h.requested, h.owed, h.flight⟩
  | ponged => exact ⟨hsent (by simp [emittedFrames]), h.requested, h.owed, h.flight⟩
  | pinged => exact ⟨hsent (by simp [emittedFrames]; rfl), h.requested, h.owed, h.flight⟩
  | acked => exact ⟨hsent (by simp [emittedFrames]; rfl), by simp, by simp, h.flight⟩
  | challenged nonce hstage hauth hlen =>
      exact ⟨hsent (by simp [emittedFrames, validate, hlen]), by simp, by simp, h.flight⟩
  | admitted => exact ⟨hsent (by simp [emittedFrames]; rfl), by simp, by simp, h.flight⟩
  | configInvalid => exact ⟨hsent (by simp [emittedFrames]; rfl), by simp, by simp, h.flight⟩
  | paid f next hstage =>
      obtain ⟨hvalid, -, hnext⟩ := h.owed f next hstage
      refine ⟨hsent (by simpa [emittedFrames] using hvalid), ?_, ?_, h.flight⟩ <;>
        rcases hnext with rfl | rfl | rfl <;> simp
  | authenticated | refused | configRefused | configFailed =>
      refine ⟨hsent (by simp [emittedFrames]), by simp, ?_, h.flight⟩
      rintro f next ⟨⟩
      exact ⟨rfl, by simp, by simp⟩
  | configStarted f requested token hstage hheard hconfig =>
      refine ⟨hsent (by simp [emittedFrames]), ?_, by simp, h.flight⟩
      rintro cfg token ⟨⟩
      exact radioConfigValid_of_decodeConfig hconfig
  | submitted f hstage hidle hheard htype hvalid =>
      refine ⟨hsent (by simp [emittedFrames]), h.requested, h.owed, ?_⟩
      rintro seq ⟨⟩
      exact seq_ne_zero_of_validate hvalid (Or.inl htype)
  | submitRefused | abandoned => exact ⟨hsent (by simp [emittedFrames]), by simp, by simp, h.flight⟩
  | closed => exact ⟨hsent (by simp [emittedFrames]), by simp, by simp, by simp⟩
  | configured call requested token hstage =>
      refine ⟨hsent (by simp [emittedFrames]), by simp, ?_, h.flight⟩
      rintro f next ⟨⟩
      exact ⟨validate_configOkFrame (h.requested requested token hstage),
        by simp [XrSession.configOkFrame], by simp⟩
  | forwarded rx hstage hrx =>
      refine ⟨hsent (by simp [emittedFrames]), by simp, ?_, h.flight⟩
      rintro f next ⟨⟩
      exact ⟨validate_rxFrame hrx, by simp [XrSession.rxFrame], by simp⟩
  | completed seq outcome hstage hflight =>
      refine ⟨hsent (by simp [emittedFrames]), by simp, ?_, by simp⟩
      rintro f next ⟨⟩
      exact ⟨validate_txResultFrame (h.flight seq hflight) outcome,
        by simp [XrSession.txResultFrame], by simp⟩

/-- Every frame of a history is valid. -/
theorem replay_promised {env : XrEnv} {log : List SessionEvent} {c : Conduct}
    (h : replay env log = some c) : Promised log c :=
  replay_induction ⟨by simp [emittedFrames], by simp [Conduct.initial], by simp [Conduct.initial],
      by simp [Conduct.initial]⟩
    (fun _ _ _ _ _ hlog hmove => hlog.move hmove) h

/-! ## Requests and their results -/

/-- The request handed over last is unanswered. -/
def Unanswered (seq : UInt16) (log : List SessionEvent) : Prop :=
  ∃ earlier payload between, log = earlier ++ .submitCalled seq payload true :: between ∧
    (receivedFrames earlier).getLast? = some ⟨.txRequest, seq, payload⟩ ∧
    acceptedRequests between = [] ∧ ∀ f ∈ emittedFrames between, f.type ≠ .txResult

/-- No request is handed over and no result is sent. -/
def Bystander (e : SessionEvent) : Prop :=
  acceptedRequests [e] = [] ∧ ∀ f ∈ emittedFrames [e], f.type ≠ .txResult

/-- A request stays unanswered until its result. -/
theorem Unanswered.append {seq : UInt16} {log : List SessionEvent} (h : Unanswered seq log)
    {e : SessionEvent} (he : Bystander e) : Unanswered seq (log ++ [e]) := by
  obtain ⟨earlier, payload, between, rfl, hreceived, haccepted, hsent⟩ := h
  refine ⟨earlier, payload, between ++ [e], by simp, hreceived, ?_, ?_⟩
  · rw [acceptedRequests, List.filterMap_append]
    exact List.append_eq_nil_iff.mpr ⟨haccepted, he.1⟩
  · intro f hf
    rw [emittedFrames_append, List.mem_append] at hf
    exact hf.elim (hsent f) (he.2 f)

/-- Every result answers the request handed over last, once. -/
structure Answering (log : List SessionEvent) (c : Conduct) : Prop where
  flight : ∀ seq, c.flight = some seq → Unanswered seq log
  owed : ∀ f next, c.stage = .due f next → f.type = .txResult →
    c.flight = none ∧ Unanswered f.seq log
  answered : ∀ earlier f, earlier ++ [.emitted f] <+: log → f.type = .txResult →
    Unanswered f.seq earlier

/-- One more event, which answers a request if it is a result. -/
theorem Answering.answered_append {log : List SessionEvent} {c : Conduct} (h : Answering log c)
    {e : SessionEvent} (he : ∀ f, e = .emitted f → f.type = .txResult → Unanswered f.seq log)
    (earlier : List SessionEvent) (f : Frame) (hle : earlier ++ [.emitted f] <+: log ++ [e])
    (htype : f.type = .txResult) : Unanswered f.seq earlier := by
  rcases List.prefix_concat_iff.mp hle with heq | hle
  · obtain ⟨rfl, hlast⟩ := List.append_inj' heq rfl
    exact he f (List.cons.inj hlast).1.symm htype
  · exact h.answered earlier f hle htype

/-- An event that concerns no request leaves the accounts as they are. -/
theorem Answering.append {log : List SessionEvent} {c c' : Conduct} (h : Answering log c)
    {e : SessionEvent} (he : Bystander e) (hflight : ∀ seq, c'.flight = some seq → c.flight = some seq)
    (howed : ∀ f next, c'.stage = .due f next → f.type = .txResult →
      c'.flight = none ∧ Unanswered f.seq log) : Answering (log ++ [e]) c' where
  flight seq hseq := (h.flight seq (hflight seq hseq)).append he
  owed f next hdue htype := (howed f next hdue htype).imp_right (·.append he)
  answered := by
    refine h.answered_append ?_
    rintro f rfl htype
    exact absurd htype (he.2 f (by simp [emittedFrames]))

/-- Every move keeps the account of the answers. -/
theorem Answering.move {env : XrEnv} {log : List SessionEvent} {c c' : Conduct} {e : SessionEvent}
    (h : Answering log c) (hheard : ∀ f, c.heard = some f → (receivedFrames log).getLast? = some f)
    (hnext : ∀ f next, c.stage = .due f next → ∀ f' next', next ≠ .due f' next')
    (hmove : c.Move env e c') : Answering (log ++ [e]) c' := by
  cases hmove with
  | received | ignored | ponged => exact h.append ⟨rfl, by simp [emittedFrames]⟩ (fun _ => id) h.owed
  | pinged => exact h.append ⟨rfl, by simp [emittedFrames]⟩ (fun _ => id) h.owed
  | acked | challenged | admitted | configInvalid =>
      exact h.append ⟨rfl, by simp [emittedFrames]⟩ (fun _ => id) (by simp)
  | configRefused | configStarted | submitRefused | abandoned =>
      exact h.append ⟨rfl, by simp [emittedFrames]⟩ (fun _ => id) (by simp)
  | closed => exact h.append ⟨rfl, by simp [emittedFrames]⟩ (by simp) (by simp)
  | authenticated | refused | configFailed | configured | forwarded =>
      refine h.append ⟨rfl, by simp [emittedFrames]⟩ (fun _ => id) ?_
      rintro f next ⟨⟩ ⟨⟩
  | paid f next hstage =>
      by_cases htype : f.type = .txResult
      · obtain ⟨hidle, hopen⟩ := h.owed f next hstage htype
        refine ⟨fun seq hseq => ?_, fun f' next' hdue => absurd hdue (hnext f next hstage f' next'),
          h.answered_append ?_⟩
        · exact absurd (hidle.symm.trans hseq) (by simp)
        · rintro f' ⟨⟩ -
          exact hopen
      · exact h.append ⟨rfl, by simpa [emittedFrames] using htype⟩ (fun _ => id)
          fun f' next' hdue => absurd hdue (hnext f next hstage f' next')
  | submitted f hstage hidle hf htype hvalid =>
      refine ⟨?_, by simp [hstage], h.answered_append (by simp)⟩
      rintro seq ⟨⟩
      refine ⟨log, f.payload, [], rfl, ?_, rfl, by simp [emittedFrames]⟩
      rw [hheard f hf, ← htype]
  | completed seq outcome hstage hflight =>
      refine h.append ⟨rfl, by simp [emittedFrames]⟩ (by simp) ?_
      rintro f next ⟨⟩ -
      exact ⟨rfl, h.flight seq hflight⟩

/-- The frame that is being handled is the last one received. -/
theorem replay_heard {env : XrEnv} {log : List SessionEvent} {c : Conduct}
    (h : replay env log = some c) (f : Frame) (hf : c.heard = some f) :
    (receivedFrames log).getLast? = some f := by
  refine replay_induction
    (P := fun log c => ∀ f, c.heard = some f → (receivedFrames log).getLast? = some f)
    (by simp [Conduct.initial]) ?_ h f hf
  intro log c e c' _ hheard hmove
  rw [receivedFrames_append]
  cases hmove with
  | received f =>
      rintro f' ⟨⟩
      exact List.getLast?_concat
  | challenged => simp
  | _ =>
      rw [show receivedFrames [_] = [] from rfl, List.append_nil]
      exact hheard

/-- Every result of a history answers the request before it. -/
theorem replay_answering {env : XrEnv} {log : List SessionEvent} {c : Conduct}
    (h : replay env log = some c) : Answering log c := by
  refine replay_induction ⟨by simp [Conduct.initial], by simp [Conduct.initial],
    fun _ _ hle => by simp at hle⟩ ?_ h
  intro log c e c' hreplay hlog hmove
  refine hlog.move (replay_heard hreplay) ?_ hmove
  rintro f next hdue f' next' rfl
  simpa using ((replay_promised hreplay).owed f _ hdue).2.2

/-! ## Keepalive -/

/-- The number of `PING` frames sent. -/
def pings (log : List SessionEvent) : Nat :=
  (emittedFrames log).countP (·.type == .ping)

/-- The number of `PONG` frames accepted. -/
def pongs (log : List SessionEvent) : Nat :=
  log.count .pongAccepted

/-- The automaton knows whether a `PING` is unanswered. -/
theorem replay_pings {env : XrEnv} {log : List SessionEvent} {c : Conduct}
    (h : replay env log = some c) : pings log = pongs log + c.pinged.toNat := by
  refine replay_induction (P := fun log c => pings log = pongs log + c.pinged.toNat) rfl ?_ h
  intro log c e c' hreplay hlog hmove
  have hsplit : pings (log ++ [e]) = pings log + pings [e] ∧
      pongs (log ++ [e]) = pongs log + pongs [e] := by
    simp [pings, pongs, emittedFrames_append]
  rw [hsplit.1, hsplit.2, hlog]
  cases hmove with
  | pinged hstage hidle => simp [hidle, pings, pongs, emittedFrames]
  | ponged hstage hpinged => simp [hpinged, pings, pongs, emittedFrames]
  | paid f next hstage =>
      have hping := ((replay_promised hreplay).owed f next hstage).2.1
      simp [pings, pongs, emittedFrames, hping]
  | _ => simp [pings, pongs, emittedFrames]

/-! ## After the close -/

namespace XrConnection

variable {β : Type} (R : RadioBackend β) (env : XrEnv)

/-- The session is closed, and has only ignored callbacks since it was `s`. -/
structure Silent (s s' : XrSession) : Prop where
  phase : s'.phase = .closed
  idle : s'.txInFlight = false
  reason : s'.closeReason = s.closeReason
  output : s'.output = s.output
  log : ∃ calls : List SinkCall, s'.log = s.log ++ calls.map .callback

/-- A closed session ignores callbacks. -/
theorem onCall_of_closed {now : Nat} {s : XrSession} (hphase : s.phase = .closed)
    (hidle : s.txInFlight = false) (call : SinkCall) :
    s.onCall env now call = s.record (.callback call) := by
  cases call <;>
    simp [XrSession.onCall, XrSession.onRx, XrSession.onTxComplete, XrSession.onBackendFailure,
      XrSession.onConfigureComplete, XrSession.close, XrSession.record, hphase, hidle]

/-- Whatever happens to a closed connection, the backend hears nothing of it. -/
theorem step_of_closed {p : XrConnection × β} (hphase : p.1.session.phase = .closed) (op : Op β)
    (hop : ∀ next, op.action ≠ .backend next) : (step R env p op).2 = p.2 := by
  unfold step
  split
  · simp [XrSession.feed, hphase]
  · simp [XrSession.tick, hphase]
  · rfl
  · rfl
  · rename_i next haction
    exact absurd haction (hop next)

/-- A closed session stays silent. -/
theorem Silent.step {s : XrSession} {p : XrConnection × β} (h : Silent s p.1.session) (op : Op β) :
    Silent s (step R env p op).1.session := by
  unfold XrConnection.step
  split
  · simpa [XrSession.feed, h.phase] using h
  · simpa [XrSession.tick, h.phase] using h
  · rename_i call _
    simp only [onCall_of_closed env h.phase h.idle]
    obtain ⟨calls, hlog⟩ := h.log
    exact ⟨h.phase, h.idle, h.reason, h.output, calls ++ [call], by simp [XrSession.record, hlog]⟩
  · refine flush_rule ?_ _ h
    intro s' n h'
    exact ⟨h'.phase, h'.idle, h'.reason, (XrSession.output_sendSome n s').trans h'.output, h'.log⟩
  · exact h

/-- A closed connection stays as it is, but for callbacks it ignores. -/
theorem run_silent (o : Opening β) (ops more : List (Op β))
    (hphase : (run R env o ops).1.session.phase = .closed) :
    Silent (run R env o ops).1.session (run R env o (ops ++ more)).1.session := by
  induction more using List.reverseRecOn with
  | nil =>
      have hflight := (SessionInvariant.inFlight R env).run o ops trivial fun _ _ => trivial
      rw [List.append_nil]
      exact ⟨hphase, by simpa [hphase] using hflight, rfl, rfl, [], by simp⟩
  | append_singleton more op ih =>
      rw [← List.append_assoc, run_append_singleton]
      exact ih.step R env op

end XrConnection

/-- What a session of any run sends is a legal server trace. -/
theorem server_trace_legal {β : Type} (R : RadioBackend β) (env : XrEnv)
    (o : XrConnection.Opening β) (ops : List (XrConnection.Op β)) :
    let p := XrConnection.run R env o ops
    let s := p.1.session
    s.drained ++ s.outbox.data = (emittedFrames s.log).flatMap frameBytes ∧
      (∀ f ∈ emittedFrames s.log, validate f = .none) ∧
      (∃ trace, ServerTrace env.auth trace ∧ emittedFrames s.log <+: trace) ∧
      (∀ log, log <+: s.log → pongs log ≤ pings log ∧ pings log ≤ pongs log + 1) ∧
      (∀ log f, log ++ [.emitted f] <+: s.log → f.type = .txResult →
        f.seq ≠ 0 ∧ Unanswered f.seq log) ∧
      (s.phase = .closed → ∀ more,
        XrConnection.Silent s (XrConnection.run R env o (ops ++ more)).1.session ∧
          ∀ op : XrConnection.Op β, (∀ next, op.action ≠ .backend next) →
            (XrConnection.step R env (XrConnection.run R env o (ops ++ more)) op).2 =
              (XrConnection.run R env o (ops ++ more)).2) := by
  intro p s
  have hs : Conducted env s := run_conducted R env o ops
  obtain ⟨c, hreplay, -⟩ := hs.conduct
  have hvalid := (replay_promised hreplay).sent
  refine ⟨hs.written, hvalid, (replay_sent hreplay).legal, ?_, ?_, ?_⟩
  · rintro log ⟨rest, hlog⟩
    obtain ⟨c₀, hreplay₀⟩ := replay_prefix (hlog ▸ hreplay)
    have hpings := replay_pings hreplay₀
    have hbound := c₀.pinged.toNat_le
    omega
  · rintro log f hle htype
    refine ⟨?_, (replay_answering hreplay).answered log f hle htype⟩
    obtain ⟨rest, hlog⟩ := hle
    exact seq_ne_zero_of_validate (hvalid f (by simp [← hlog, emittedFrames])) (Or.inr htype)
  · intro hphase more
    have hsilent := XrConnection.run_silent R env o ops more hphase
    exact ⟨hsilent, fun op hop => XrConnection.step_of_closed R env hsilent.phase op hop⟩

end LorahamBridge
