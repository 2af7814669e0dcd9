import LorahamBridge.Bridge.Accord

/-!
# Bridge and firmware agree

In a dialogue both ends stay in accord, however the bytes on the two channels are cut
and whatever else happens in between.  So the server never blames its client, the
client gives up only over a refusal or a timeout, a client that is ready is configured
as it asked to be, and the outcome it records for a transmission is the one the
backend reported for it.

Main results:

- Theorem `run_attuned`: the two ends of every dialogue are in accord.
- Theorem `protocol_agreement`: what follows for the two protocol machines.
-/

namespace LorahamBridge

open Foundation Extradio

/-! ## Reads of whole frames -/

namespace Accord

variable {β : Type} {R : RadioBackend β} {env : XrEnv} {now : Nat} {k : Firmware}
  {s : XrSession} {toServer toClient parsed others : List Frame}

theorem flatMap_pop {frames : List Frame} (h : ∀ f ∈ frames, validate f = .none) :
    ∀ f ∈ frames, ∀ more, xrFormat.pop (frameBytes f ++ more) = .gotFrame f more :=
  fun f hf => pop_frameBytes (payload_length_le_of_validate (h f hf))

/-- What the accord does not speak of may change. -/
theorem withServer {s' : XrSession} (h : Accord env k s toServer toClient)
    (hserver : Accountable env s') (hphase : s'.phase = s.phase)
    (hreason : s'.closeReason = s.closeReason) (hnonce : s'.nonce = s.nonce)
    (hcfg : s'.appliedCfg = s.appliedCfg ∧ s'.requestedCfg = s.requestedCfg)
    (hpong : s'.awaitingPong = s.awaitingPong) (hlog : s'.log = s.log) :
    Accord env k s' toServer toClient where
  client := h.client
  server := hserver
  innocent := hreason ▸ h.innocent
  heard := hlog ▸ h.heard
  recorded := h.recorded
  received := hlog ▸ h.received
  unread hopen := hlog ▸ h.unread (hphase ▸ hopen)
  hears := hcfg.1 ▸ h.hears
  applied := hcfg.1 ▸ h.applied
  concord := by
    have hconcord := h.concord
    unfold Concord at hconcord ⊢
    rw [hphase, hnonce, hcfg.1, hcfg.2, hpong]
    exact hconcord

/-- Nor does it speak of the bytes the client has buffered. -/
theorem withParser (h : Accord env k s toServer toClient) (buf : Bytes) :
    Accord env (k.withParser buf) s toServer toClient :=
  { h with
    client :=
      { working := h.client.working
        error := h.client.error
        config := h.client.config
        nextSeq := h.client.nextSeq
        sent := h.client.sent
        submissions := h.client.submissions
        idle := h.client.idle
        pending := h.client.pending } }

variable (R now) in
/-- The server handles frames of its client until it closes. -/
theorem handleFrames (h : Accord env k s (parsed ++ others) toClient) (b : β) :
    ∃ rest out,
      Accord env k (XrSession.handleFrames R env now parsed (s, b)).1 rest (toClient ++ out) ∧
      ((XrSession.handleFrames R env now parsed (s, b)).1.phase ≠ .closed → rest = others) ∧
      (XrSession.handleFrames R env now parsed (s, b)).1.drained = s.drained := by
  induction parsed generalizing s b toClient with
  | nil => exact ⟨others, [], by simpa [XrSession.handleFrames, FrameFormat.consume] using h,
      fun _ => rfl, rfl⟩
  | cons f parsed ih =>
      by_cases hclosed : s.phase = .closed
      · rw [XrSession.handleFrames_of_closed (q := (s, b)) hclosed]
        exact ⟨_, [], by simpa using h, fun hopen => absurd hclosed hopen, rfl⟩
      · rw [XrSession.handleFrames_cons (q := (s, b)) hclosed]
        have hout := XrSession.handleFrame_cases R env now f b hclosed
        generalize XrSession.handleFrame R env now f s b = q at hout
        obtain ⟨s', b'⟩ := q
        obtain ⟨out, hnext⟩ := h.frame hclosed hout
        obtain ⟨rest, more, haccord, hrest, hdrained⟩ := ih hnext b'
        refine ⟨rest, out ++ more, by simpa using haccord, hrest, hdrained.trans ?_⟩
        cases hout <;> rfl

/-- The client handles frames of the server until it fails. -/
theorem hearFrames (h : Accord env k s toServer (parsed ++ others)) :
    ∃ k' out rest, k'.sent = k.sent ++ out ∧ Accord env k' s (toServer ++ out) rest ∧
      (Firmware.handleFrames env parsed k = k' ∧ rest = others ∨
        Firmware.Failed k' (Firmware.handleFrames env parsed k)) := by
  induction parsed generalizing k toServer with
  | nil => exact ⟨k, [], others, by simp, by simpa using h, Or.inl ⟨rfl, rfl⟩⟩
  | cons f parsed ih =>
      have hstep : Firmware.handleFrames env (f :: parsed) k =
          Firmware.handleFrames env parsed (k.handle env f) := by
        simp [Firmware.handleFrames, FrameFormat.consume, h.client.working]
      rw [hstep]
      rcases h.hear with ⟨out, hsent, hnext⟩ | hfailed
      · obtain ⟨k', more, rest, hsent', haccord, hend⟩ := ih hnext
        exact ⟨k', out ++ more, rest, by simp [hsent', hsent], by simpa using haccord, hend⟩
      · refine ⟨k, [], f :: parsed ++ others, by simp, by simpa using h, Or.inr ?_⟩
        rwa [Firmware.handleFrames, FrameFormat.consume_of_stop _ _ (by simp [hfailed.state])]

end Accord

/-! ## The client acts on its own -/

namespace Firmware

variable {k k' : Firmware}

/-- A client that has given up neither submits nor times out. -/
theorem Failed.submit (h : Failed k k') (payload : TxPayload) : Failed k (k'.submit payload) := by
  have hrefused : k'.session.submitTx = (none, k'.session) := by
    simp [Session.submitTx, Session.canSubmitTx, h.state]
  simpa [Firmware.submit, hrefused] using h

theorem Failed.expire (h : Failed k k') (kind : Session.TimeoutKind) :
    Failed k (k'.expire kind) := by
  have hquiet : k'.session.onTimeout kind = (.none, k'.session) := by
    cases kind <;> simp [Session.onTimeout, h.state]
  simpa [Firmware.expire, hquiet] using h

/-- A timeout is ignored, or the client gives up. -/
theorem expire_cases (k : Firmware) (kind : Session.TimeoutKind) :
    k.expire kind = k ∨ Failed k (k.expire kind) := by
  have hcases : k.session.onTimeout kind = (.none, k.session) ∨
      k.session.onTimeout kind = k.session.fail .timeout := by
    unfold Session.onTimeout
    split <;> simp
  rcases hcases with hquiet | hfail
  · left
    simp [Firmware.expire, hquiet]
  · right
    rw [Firmware.expire, hfail]
    exact ⟨rfl, Or.inr (Or.inr rfl), rfl, rfl, rfl⟩

end Firmware

namespace Accord

variable {env : XrEnv} {k : Firmware} {s : XrSession} {toServer toClient : List Frame}

/-- The request of a new submission. -/
theorem request (h : Accord env k s toServer toClient) (payload : TxPayload)
    (hstate : k.session.state = .readyRx) {next : UInt16} (hnext : next ≠ 0) :
    let request : Frame := ⟨.txRequest, k.session.nextSeq, payload.bytes⟩
    Accord env
      { k with
        session := { k.session with
          nextSeq := next
          txSeq := k.session.nextSeq
          txInFlight := true
          state := .txPending }
        submissions := k.submissions ++ [(k.session.nextSeq, payload.bytes)]
        sent := k.sent ++ [request] }
      s (toServer ++ [request]) toClient := by
  intro request
  have hlength := h.client.idle (by simp [hstate])
  have hvalid : validate request = .none := by
    simp [request, validate, h.client.nextSeq, payload.fits]
  have htraffic : Traffic toClient := by
    have hhears := h.hears
    generalize k.session.state = state at hstate hhears
    cases hhears with
    | silent => simp [Traffic]
    | operating _ htraffic => exact htraffic
    | _ => cases hstate
  refine
    { client :=
        { working := by simp
          error := h.client.error
          config := h.client.config
          nextSeq := hnext
          sent := by
            intro f hf
            rcases List.mem_append.mp hf with hf | hf
            · exact h.client.sent f hf
            · exact List.mem_singleton.mp hf ▸ hvalid
          submissions := by
            rw [requestsOf_append, ← h.client.submissions]
            rfl
          idle := by simp
          pending := fun _ => ⟨by simp [hlength], payload.bytes, by simp [← hlength]⟩ }
      server := h.server
      innocent := h.innocent
      heard := h.heard
      recorded := h.recorded
      received := h.received.trans (List.prefix_append _ _)
      unread := fun hopen => by rw [← List.append_assoc, h.unread hopen]
      hears := .operating (Or.inr rfl) htraffic
      applied := fun _ => h.applied (Or.inl hstate)
      concord := ?_ }
  rcases h.ready (Or.inl hstate) with hphase | ⟨hphase, hoperating⟩
  · exact concord_of_closed _ _ hphase
  · refine concord_of_ready hphase ⟨h.applied (Or.inl hstate), Or.inr ⟨Or.inr rfl, ?_, htraffic, ?_⟩⟩
    · intro f hf
      rcases List.mem_append.mp hf with hf | hf
      · exact hoperating.requests f hf
      · exact Or.inr (by rw [List.mem_singleton.mp hf])
    · rw [← hoperating.keepalive, List.countP_append]
      simp [request]

end Accord

/-! ## Bytes on their way -/

/-- The ends of a dialogue are in accord, and each channel holds what is left of the
frames sent.  A client that has failed is remembered as it was before. -/
structure Attuned {β : Type} (env : XrEnv) (d : Dialogue β) (k : Firmware) : Prop where
  accord : ∃ toServer toClient, Accord env k d.server.1.session toServer toClient
  upstream : d.server.1.session.phase ≠ .closed →
    (receivedFrames d.server.1.session.log).flatMap frameBytes ++ d.server.1.session.parser ++
      d.toServer = k.sent.flatMap frameBytes
  downstream : d.client = k ∧
      d.server.1.session.drained = k.heard.flatMap frameBytes ++ k.parser ++ d.toClient ∨
    Firmware.Failed k d.client

namespace Attuned

variable {β : Type} {R : RadioBackend β} {env : XrEnv} {d : Dialogue β} {k : Firmware}

/-- The server has gone on, and the socket has taken some more of its output. -/
theorem serve {op : XrConnection.Op β} {bytes : Bytes} (h : Attuned env d k) (taken : Bytes)
    (haccord : ∃ toServer toClient,
      Accord env k (XrConnection.step R env d.server op).1.session toServer toClient)
    (hupstream : (XrConnection.step R env d.server op).1.session.phase ≠ .closed →
      (receivedFrames (XrConnection.step R env d.server op).1.session.log).flatMap frameBytes ++
        (XrConnection.step R env d.server op).1.session.parser ++ bytes =
          k.sent.flatMap frameBytes)
    (hdrained : (XrConnection.step R env d.server op).1.session.drained =
      d.server.1.session.drained ++ taken) :
    Attuned env (Dialogue.serve R env op { d with toServer := bytes }) k where
  accord := haccord
  upstream := hupstream
  downstream := by
    rcases h.downstream with ⟨hclient, hbytes⟩ | hfailed
    · refine Or.inl ⟨hclient, ?_⟩
      simp only [Dialogue.serve]
      rw [hdrained, hbytes, List.drop_left]
      simp
    · exact Or.inr hfailed

/-- The server goes on without bytes of its client. -/
theorem serve_unprompted {op : XrConnection.Op β} (h : Attuned env d k) (taken : Bytes)
    (haccord : ∀ {toServer toClient}, Accord env k d.server.1.session toServer toClient →
      ∃ out, Accord env k (XrConnection.step R env d.server op).1.session toServer
        (toClient ++ out))
    (hopen : (XrConnection.step R env d.server op).1.session.phase ≠ .closed →
      d.server.1.session.phase ≠ .closed ∧
        (XrConnection.step R env d.server op).1.session.parser = d.server.1.session.parser)
    (hdrained : (XrConnection.step R env d.server op).1.session.drained =
      d.server.1.session.drained ++ taken) :
    Attuned env (Dialogue.serve R env op d) k := by
  obtain ⟨toServer, toClient, hbefore⟩ := h.accord
  obtain ⟨out, hafter⟩ := haccord hbefore
  refine h.serve taken ⟨_, _, hafter⟩ (fun hphase => ?_) hdrained
  obtain ⟨hphase', hparser⟩ := hopen hphase
  have hreceived := (hafter.unread hphase).trans (hbefore.unread hphase').symm
  rw [List.append_cancel_right hreceived, hparser]
  exact h.upstream hphase'

/-- Some bytes of the client reach the server. -/
theorem deliver (h : Attuned env d k) (now n : Nat) :
    Attuned env
      (Dialogue.serve R env ⟨now, .feed (d.toServer.take n)⟩
        { d with toServer := d.toServer.drop n }) k := by
  obtain ⟨toServer, toClient, haccord⟩ := h.accord
  by_cases hclosed : d.server.1.session.phase = .closed
  · have hquiet : XrConnection.step R env d.server ⟨now, .feed (d.toServer.take n)⟩ = d.server := by
      simp [XrConnection.step, XrSession.feed_of_closed hclosed]
    refine h.serve [] ?_ ?_ ?_ <;> rw [hquiet]
    · exact ⟨_, _, haccord⟩
    · exact fun hopen => absurd hclosed hopen
    · simp
  · have hbytes : d.server.1.session.parser ++ d.toServer.take n ++ d.toServer.drop n =
        toServer.flatMap frameBytes := by
      have hupstream := h.upstream hclosed
      rw [← haccord.unread hclosed, List.flatMap_append, List.append_assoc] at hupstream
      rw [List.append_assoc, List.take_append_drop]
      exact List.append_cancel_left hupstream
    have hvalid : ∀ f ∈ toServer, validate f = .none := fun f hf =>
      haccord.client.sent f (by simp [← haccord.unread hclosed, hf])
    obtain ⟨parsed, others, rest, rfl, hparse, hrest⟩ :=
      xrFormat.parse_of_append_eq_flatMap (Accord.flatMap_pop hvalid) hbytes
    obtain ⟨hview, hparser, -⟩ := XrSession.feed_parse R env now (d.toServer.take n)
      d.server.2 hclosed
    rw [hparse, XrSession.digest_pending] at hview
    have hserver : Accountable env
        (XrSession.feed R env now (d.toServer.take n) d.server.1.session d.server.2).1 :=
      (accountable_invariant R env).feed trivial _ _ haccord.server
    have hbare : Accord env k (d.server.1.session.withParser []) (parsed ++ others) toClient :=
      haccord.withServer ((accountable_invariant R env).parser [] haccord.server) rfl rfl rfl
        ⟨rfl, rfl⟩ rfl rfl
    obtain ⟨left, out, hafter, hleft, hdrained⟩ := hbare.handleFrames R now d.server.2
    change XrSession.bare _ = XrSession.handleFrames R env now parsed
      (d.server.1.session.withParser [], d.server.2) at hview
    rw [← hview] at hafter hleft hdrained
    have hafter' := hafter.withServer hserver rfl rfl rfl ⟨rfl, rfl⟩ rfl rfl
    refine h.serve [] ⟨_, _, hafter'⟩ (fun hopen => ?_)
      (hdrained.trans (List.append_nil _).symm)
    have hpending := hparser hopen
    rw [hparse, Remainder.pending.injEq] at hpending
    have hunread := hafter'.unread hopen
    rw [hleft hopen] at hunread
    rw [← hunread, List.flatMap_append, ← hrest, hpending]
    exact List.append_assoc _ _ _

/-- The client's end of the stream the server has sent. -/
theorem downstream_eq {toServer toClient : List Frame}
    (haccord : Accord env k d.server.1.session toServer toClient)
    (hbytes : d.server.1.session.drained = k.heard.flatMap frameBytes ++ k.parser ++ d.toClient) :
    k.parser ++ d.toClient ++ d.server.1.session.outbox.data = toClient.flatMap frameBytes := by
  have hwritten := haccord.server.conducted.written
  rw [XrSession.output, hbytes, ← haccord.heard, List.flatMap_append] at hwritten
  simp only [List.append_assoc] at hwritten ⊢
  exact List.append_cancel_left hwritten

/-- The client has gone on. -/
theorem withClient {k' next : Firmware} {bytes : Bytes} (h : Attuned env d k) (out : List Frame)
    (hnext : next.sent = d.client.sent ++ out) (hsent : k'.sent = k.sent ++ out)
    (haccord : ∃ toServer toClient, Accord env k' d.server.1.session toServer toClient)
    (hdownstream : next = k' ∧
        d.server.1.session.drained = k'.heard.flatMap frameBytes ++ k'.parser ++ bytes ∨
      Firmware.Failed k' next) :
    Attuned env (Dialogue.withClient next { d with toClient := bytes }) k' where
  accord := haccord
  upstream hopen := by
    simp only [Dialogue.withClient, hnext, List.drop_left, hsent, List.flatMap_append]
    rw [← h.upstream hopen, List.append_assoc _ d.toServer]
  downstream := hdownstream

/-- A client that has failed stays so. -/
theorem withFailed {next : Firmware} {bytes : Bytes} (h : Attuned env d k)
    (hfailed : Firmware.Failed k d.client) (hnext : Firmware.Failed k next) :
    Attuned env (Dialogue.withClient next { d with toClient := bytes }) k :=
  h.withClient [] (by simp [hnext.sent, hfailed.sent]) (by simp) h.accord (Or.inr hnext)

/-- Some bytes of the server reach the client. -/
theorem receive (h : Attuned env d k) (n : Nat) :
    ∃ k', Attuned env (Dialogue.withClient (d.client.receive env (d.toClient.take n))
      { d with toClient := d.toClient.drop n }) k' := by
  rcases h.downstream with ⟨hclient, hbytes⟩ | hfailed
  · subst hclient
    obtain ⟨toServer, toClient, haccord⟩ := h.accord
    have hstream : d.client.parser ++ d.toClient.take n ++
        (d.toClient.drop n ++ d.server.1.session.outbox.data) = toClient.flatMap frameBytes := by
      rw [← downstream_eq haccord hbytes]
      simp only [List.append_assoc]
      rw [← List.append_assoc (d.toClient.take n), List.take_append_drop]
    have hvalid : ∀ f ∈ toClient, validate f = .none := by
      obtain ⟨c, hreplay, -⟩ := haccord.server.conducted.conduct
      exact fun f hf => (replay_promised hreplay).sent f (by simp [← haccord.heard, hf])
    obtain ⟨parsed, others, rest, rfl, hparse, hrest⟩ :=
      xrFormat.parse_of_append_eq_flatMap (Accord.flatMap_pop hvalid) hstream
    obtain ⟨hview, hparser⟩ := Firmware.receive_parse env haccord.client.working hparse
    generalize d.client.receive env (d.toClient.take n) = next at hview hparser
    obtain ⟨k', out, left, hsent, hafter, hend⟩ := (haccord.withParser []).hearFrames
    rw [← hview] at hend
    rcases hend with ⟨rfl, rfl⟩ | hfailed
    · have hafter' := hafter.withParser next.parser
      refine ⟨next, h.withClient out hsent hsent ⟨_, _, hafter'⟩ (Or.inl ⟨rfl, ?_⟩)⟩
      have hwritten := haccord.server.conducted.written
      rw [XrSession.output, ← hafter'.heard, List.flatMap_append, ← hrest,
        ← hparser hafter.client.working, ← List.append_assoc, ← List.append_assoc] at hwritten
      exact List.append_cancel_right hwritten
    · exact ⟨k', h.withClient out (hfailed.sent.trans hsent) hsent ⟨_, _, hafter⟩
        (Or.inr ⟨hfailed.state, hfailed.error, hfailed.sent, hfailed.submissions,
          hfailed.recorded⟩)⟩
  · have hquiet : d.client.receive env (d.toClient.take n) = d.client := by
      rw [Firmware.receive, if_pos hfailed.state]
    rw [hquiet]
    exact ⟨k, h.withFailed hfailed hfailed⟩

/-- The client asks for a transmission. -/
theorem submit (h : Attuned env d k) (payload : TxPayload) :
    ∃ k', Attuned env (d.withClient (d.client.submit payload)) k' := by
  rcases h.downstream with ⟨hclient, hbytes⟩ | hfailed
  · subst hclient
    rcases d.client.session.submitTx_cases with hrefused | ⟨hstate, next, hnext, haccepted⟩
    · have hquiet : d.client.submit payload = d.client := by
        rw [Firmware.submit, hrefused]
      rw [hquiet]
      exact ⟨d.client, h.withClient [] (by simp) (by simp) h.accord (Or.inl ⟨rfl, hbytes⟩)⟩
    · obtain ⟨toServer, toClient, haccord⟩ := h.accord
      have hrequest := haccord.request payload hstate hnext
      rw [Firmware.submit, haccepted]
      exact ⟨_, h.withClient [⟨.txRequest, d.client.session.nextSeq, payload.bytes⟩] rfl rfl
        ⟨_, _, hrequest⟩ (Or.inl ⟨rfl, hbytes⟩)⟩
  · exact ⟨k, h.withFailed hfailed (hfailed.submit payload)⟩

/-- The client's patience ends. -/
theorem expire (h : Attuned env d k) (kind : Session.TimeoutKind) :
    Attuned env (d.withClient (d.client.expire kind)) k := by
  rcases h.downstream with ⟨hclient, hbytes⟩ | hfailed
  · subst hclient
    rcases d.client.expire_cases kind with hquiet | hgone
    · rw [hquiet]
      exact h.withClient [] (by simp) (by simp) h.accord (Or.inl ⟨rfl, hbytes⟩)
    · exact h.withClient [] (by simp [hgone.sent]) (by simp) h.accord (Or.inr hgone)
  · exact h.withFailed hfailed (hfailed.expire kind)

/-- The socket takes some of the server's output. -/
theorem flush (h : Attuned env d k) (now : Nat) (answers : List SendAnswer) :
    Attuned env (Dialogue.serve R env ⟨now, .flush answers⟩ d) k := by
  obtain ⟨outbox, taken, hflush⟩ := XrConnection.flush_rule
    (P := fun s => ∃ outbox taken, s = { d.server.1.session with
      outbox := outbox
      drained := d.server.1.session.drained ++ taken })
    (fun s n ⟨outbox, taken, hs⟩ => ⟨outbox.consume (outbox.data.take n).length,
      taken ++ outbox.data.take n,
      by rw [hs]; simp [XrSession.sendSome, XrSession.accepted, XrSession.outConsume]⟩)
    answers (c := d.server.1) ⟨d.server.1.session.outbox, [], by simp⟩
  have hstep : (XrConnection.step R env d.server ⟨now, .flush answers⟩).1.session = _ := hflush
  refine h.serve_unprompted taken ?_ ?_ ?_
  · intro toServer toClient haccord
    have hserver := (accountable_invariant R env).flush answers haccord.server
    rw [hflush] at hserver
    rw [hstep]
    exact ⟨[], (List.append_nil toClient).symm ▸
      haccord.withServer hserver rfl rfl rfl ⟨rfl, rfl⟩ rfl rfl⟩
  · rw [hstep]
    exact fun hopen => ⟨hopen, rfl⟩
  · rw [hstep]

/-- Whatever happens next, the ends stay in accord. -/
theorem step (h : Attuned env d k) (op : Dialogue.Op β) :
    ∃ k', Attuned env (Dialogue.step R env d op) k' := by
  have hflight : d.server.1.session.txInFlight = true → d.server.1.session.phase = .ready := by
    obtain ⟨_, _, haccord⟩ := h.accord
    obtain ⟨c, -, hagrees⟩ := haccord.server.conducted.conduct
    exact hagrees.ready
  unfold Dialogue.step
  cases op.action with
  | deliver n => exact ⟨k, h.deliver op.now n⟩
  | tick =>
      have hout := XrSession.tick_cases R env op.now d.server.1.session d.server.2
      refine ⟨k, h.serve_unprompted [] (fun haccord => haccord.tick hout) hout.parser ?_⟩
      rw [List.append_nil]
      cases hout' : XrSession.tick R env op.now d.server.1.session d.server.2 with
      | mk s' b' =>
          simp only [XrConnection.step, hout']
          rw [hout'] at hout
          cases hout <;> rfl
  | call call =>
      have hout := XrSession.onCall_cases env op.now call hflight
      refine ⟨k, h.serve_unprompted [] (fun haccord => haccord.call hout) hout.parser ?_⟩
      rw [List.append_nil]
      simp only [XrConnection.step]
      generalize XrSession.onCall env op.now call d.server.1.session = s' at hout
      cases hout <;> rfl
  | flush answers => exact ⟨k, h.flush op.now answers⟩
  | backend next =>
      exact ⟨k, h.serve_unprompted []
        (fun haccord => ⟨[], by rw [List.append_nil]; exact haccord⟩)
        (fun hopen => ⟨hopen, rfl⟩) (List.append_nil _).symm⟩
  | receive n => exact h.receive n
  | submit payload => exact h.submit payload
  | timeout kind => exact ⟨k, h.expire kind⟩

/-- Both ends of a new connection. -/
theorem opened (R : RadioBackend β) (env : XrEnv) (o : XrConnection.Opening β)
    (cfg : RadioConfig) :
    Attuned env (Dialogue.opened R env o cfg) (Firmware.connected env cfg) := by
  obtain ⟨cfg', haveCfg, hvalid, hconnected⟩ : ∃ cfg' haveCfg, radioConfigValid cfg' = true ∧
      (Session.new.setDesiredConfig cfg).2.onConnected =
        (.sendHello, { Session.new with
          state := .handshake
          cfg := cfg'
          haveCfg := haveCfg }) := by
    cases hcfg : radioConfigValid cfg with
    | true => exact ⟨cfg, true, hcfg, by simp [Session.setDesiredConfig, Session.new, hcfg,
        Session.onConnected, Session.clearVolatile]⟩
    | false => exact ⟨RadioConfig.zero, false, by decide, by simp [Session.setDesiredConfig,
        Session.new, hcfg, Session.onConnected, Session.clearVolatile]⟩
  have hclient : Firmware.connected env cfg =
      { session := { Session.new with
          state := .handshake
          cfg := cfg'
          haveCfg := haveCfg }
        parser := []
        sent := [⟨.hello, 0, [kVersion]⟩]
        heard := []
        submissions := []
        recorded := [] } := by
    rw [Firmware.connected, hconnected]
    rfl
  have haccord : Accord env (Firmware.connected env cfg)
      (XrConnection.opened R env o).1.session [⟨.hello, 0, [kVersion]⟩] [] := by
    rw [hclient]
    exact
      { client :=
          { working := by simp
            error := rfl
            config := hvalid
            nextSeq := by simp [Session.new]
            sent := by simp [validate]
            submissions := rfl
            idle := fun _ => rfl
            pending := by simp }
        server := (accountable_invariant R env).opened o.id o.entropy o.backend trivial
        innocent := rfl
        heard := rfl
        recorded := rfl
        received := List.nil_prefix
        unread := fun _ => rfl
        hears := .silent _
        applied := by simp
        concord := ⟨rfl, rfl, rfl⟩ }
  refine ⟨⟨_, _, haccord⟩, fun _ => rfl, Or.inl ⟨rfl, ?_⟩⟩
  rw [hclient]
  rfl

end Attuned

/-- The two ends of every dialogue are in accord. -/
theorem run_attuned {β : Type} (R : RadioBackend β) (env : XrEnv) (o : XrConnection.Opening β)
    (cfg : RadioConfig) (ops : List (Dialogue.Op β)) :
    ∃ k, Attuned env (Dialogue.run R env o cfg ops) k := by
  induction ops using List.reverseRecOn with
  | nil => exact ⟨_, Attuned.opened R env o cfg⟩
  | append_singleton ops op ih =>
      obtain ⟨k, hk⟩ := ih
      rw [Dialogue.run_append_singleton]
      exact hk.step op

/-- What a client records for each outcome a backend can report. -/
def recordedAs : TxOutcome → Session.TxOutcome
  | .success => .success
  | .channelBusy => .channelBusy
  | .timeout => .timeout
  | .radioError => .radioError

/-- The two ends read the result codes alike. -/
theorem outcomeOfCode_resultCode (reported : TxOutcome) :
    Session.outcomeOfCode (XrSession.resultCode reported) = recordedAs reported := by
  cases reported <;> rfl

/-- In every dialogue the bridge never blames its client, the client gives up only over a
refusal or a timeout, a ready client is configured as it asked to be, and it records for
its transmissions what the backend reported. -/
theorem protocol_agreement {β : Type} (R : RadioBackend β) (env : XrEnv)
    (o : XrConnection.Opening β) (cfg : RadioConfig) (ops : List (Dialogue.Op β)) :
    let d := Dialogue.run R env o cfg ops
    let s := d.server.1.session
    let k := d.client
    (s.closeReason ≠ .badState ∧ s.closeReason ≠ .malformedFrame ∧
        s.closeReason ≠ .parserError) ∧
      (k.session.lastErr = .none ∨ k.session.lastErr = .auth ∨ k.session.lastErr = .config ∨
        k.session.lastErr = .timeout) ∧
      (k.session.state = .readyRx ∨ k.session.state = .txPending →
        (s.phase = .ready ∨ s.phase = .closed) ∧ s.appliedCfg = k.session.cfg) ∧
      ∀ n seq outcome, k.recorded[n]? = some (seq, outcome) →
        ∃ payload log reported,
          k.submissions[n]? = some (seq, payload) ∧
          log ++ [.callback (.onTxComplete reported),
            .emitted (XrSession.txResultFrame seq reported)] <+: s.log ∧
          (acceptedRequests log).length = n + 1 ∧
          (acceptedRequests log)[n]? = some (seq, payload) ∧
          outcome = recordedAs reported := by
  intro d s k
  obtain ⟨k', hattuned⟩ := run_attuned R env o cfg ops
  obtain ⟨toServer, toClient, haccord⟩ := hattuned.accord
  have hbooks : k.recorded = k'.recorded ∧ k.submissions = k'.submissions := by
    rcases hattuned.downstream with ⟨hclient, -⟩ | hfailed
    · exact ⟨congrArg Firmware.recorded hclient, congrArg Firmware.submissions hclient⟩
    · exact ⟨hfailed.recorded, hfailed.submissions⟩
  refine ⟨?_, ?_, ?_, ?_⟩
  · have hinnocent := haccord.innocent
    refine ⟨?_, ?_, ?_⟩ <;> intro hreason <;> simp [s, d] at hreason <;>
      simp [hreason, XrSession.blamesClient] at hinnocent
  · rcases hattuned.downstream with ⟨hclient, -⟩ | hfailed
    · left
      simpa [k, d, hclient] using haccord.client.error
    · exact Or.inr hfailed.error
  · intro hstate
    rcases hattuned.downstream with ⟨hclient, -⟩ | hfailed
    · have hk : k = k' := hclient
      rw [hk] at hstate ⊢
      exact ⟨(haccord.ready hstate).elim Or.inr fun h => Or.inl h.1, haccord.applied hstate⟩
    · have hdegraded : k.session.state = .degraded := hfailed.state
      simp [hdegraded] at hstate
  · intro n seq outcome hrecorded
    rw [hbooks.1, haccord.recorded, resultsOf, List.getElem?_map, Option.map_eq_some_iff] at hrecorded
    obtain ⟨f, hf, hpair⟩ := hrecorded
    cases hpair
    have hresult : (view s.log).results[n]? = some f := by
      have hlt := (List.getElem?_eq_some_iff.mp hf).1
      rw [view_eq]
      simp only [s, d, ← haccord.heard, List.filter_append]
      rw [List.getElem?_append_left hlt, hf]
    obtain ⟨log, payload, reported, hle, hframe, hlength, hrequest, hsubmission⟩ :=
      haccord.submission_of_result hresult
    refine ⟨payload, log, reported, hbooks.2 ▸ hsubmission, hframe ▸ hle, hlength, hrequest, ?_⟩
    rw [hframe]
    exact outcomeOfCode_resultCode reported

end LorahamBridge
