import LorahamBridge.Bridge.Attribution
import LorahamBridge.Bridge.Configuration
import LorahamBridge.Bridge.RxPath
import LorahamBridge.Bridge.System
import LorahamBridge.Bridge.TxPath
import LorahamBridge.Wire.ClientRun

/-!
# From client to radio and back

The bridge as its clients and the daemon see it, with the firmware's own session at one
end and any daemon at the other.  Clients come and go, reads and writes are cut anywhere,
and sockets fail; yet what is transmitted are the client's submissions, what a client
hears are the packets of its connection, what it records are the daemon's verdicts, and a
client that is ready has the radio it asked for.

Main results:

- Theorem `run_linkOwners`: no session opens two connections.
- Theorem `transmitted_submissions`: nothing is invented, repeated or reordered on its way
  to the daemon.
- Theorem `heard_packets`: nor on the way back.
- Theorem `recorded_outcomes`: a recorded outcome is the daemon's answer to that packet.
- Theorem `ready_configured`: a ready client's configuration is confirmed by the daemon.
-/

namespace LorahamBridge

open Foundation Extradio LorahamBackend

/-! ## What a client has heard -/

/-- An operation only ever extends the history of the session. -/
theorem XrConnection.step_log {β : Type} (R : RadioBackend β) (env : XrEnv) (p : XrConnection × β)
    (op : XrConnection.Op β)
    (hflight : p.1.session.txInFlight = true → p.1.session.phase = .ready) :
    p.1.session.log <+: (step R env p op).1.session.log := by
  unfold step
  cases op.action with
  | feed data =>
      exact XrSession.feed_rule (fun s _ => p.1.session.log <+: s.log) (fun _ _ _ h => h)
        (fun f _ b h hopen => h.trans (XrSession.handleFrame_cases R env op.now f b hopen).log_append)
        (fun _ _ h _ => h.trans (by simp [XrSession.shut])) data p.1.session p.2 List.prefix_rfl
  | tick => exact (XrSession.tick_cases R env op.now p.1.session p.2).log_append
  | call call => exact (XrSession.onCall_cases env op.now call hflight).log_append
  | flush answers =>
      exact XrConnection.flush_rule (P := fun s => p.1.session.log <+: s.log) (fun _ _ h => h)
        answers List.prefix_rfl
  | backend next => exact List.prefix_rfl

namespace Firmware

variable (env : XrEnv)

/-- Acting on an event handles no frame. -/
theorem act_heard (event : Session.Event) (k : Firmware) : (act env event k).heard = k.heard := by
  unfold act
  cases event with
  | sendAuth =>
      simp only
      split <;> rfl
  | _ => rfl

/-- A read hears frames from the front. -/
theorem handleFrames_heard (frames : List Frame) (k : Firmware) :
    (handleFrames env frames k).heard <+: k.heard ++ frames := by
  induction frames generalizing k with
  | nil => simp [handleFrames, FrameFormat.consume]
  | cons f frames ih =>
      rw [handleFrames, FrameFormat.consume]
      split
      · exact List.prefix_append _ _
      · have hheard : (k.handle env f).heard = k.heard ++ [f] := act_heard env _ _
        have hrest := ih (k.handle env f)
        rw [hheard, List.append_assoc] at hrest
        exact hrest

end Firmware

/-- A read of a client hears frames its session has sent. -/
theorem Attuned.receive_heard {β : Type} {env : XrEnv} {d : Dialogue β} {k : Firmware}
    (h : Attuned env d k) (n : Nat)
    (hheard : d.client.heard <+: emittedFrames d.server.1.session.log) :
    (d.client.receive env (d.toClient.take n)).heard <+:
      emittedFrames d.server.1.session.log := by
  rcases h.downstream with ⟨hclient, hbytes⟩ | hfailed
  · subst hclient
    obtain ⟨toServer, toClient, haccord⟩ := h.accord
    have hvalid : ∀ f ∈ toClient, validate f = .none := by
      obtain ⟨c, hreplay, -⟩ := haccord.server.conducted.conduct
      exact fun f hf => (replay_promised hreplay).sent f (by simp [← haccord.heard, hf])
    have hstream : d.client.parser ++ d.toClient.take n ++
        (d.toClient.drop n ++ d.server.1.session.outbox.data) = toClient.flatMap frameBytes := by
      rw [← Attuned.downstream_eq haccord hbytes]
      simp only [List.append_assoc]
      rw [← List.append_assoc (d.toClient.take n), List.take_append_drop]
    obtain ⟨parsed, others, rest, rfl, hparse, -⟩ :=
      xrFormat.parse_of_append_eq_flatMap (Accord.flatMap_pop hvalid) hstream
    obtain ⟨hread, -⟩ := Firmware.receive_parse env haccord.client.working hparse
    have hframes := congrArg Firmware.heard hread
    calc (d.client.receive env (d.toClient.take n)).heard
        = (Firmware.handleFrames env parsed (d.client.withParser [])).heard := hframes
      _ <+: d.client.heard ++ parsed := Firmware.handleFrames_heard env parsed _
      _ <+: emittedFrames d.server.1.session.log := by
          rw [← haccord.heard, ← List.append_assoc]
          exact List.prefix_append _ _
  · rw [Firmware.receive, if_pos hfailed.state]
    exact hheard

namespace Dialogue

variable {β : Type} (R : RadioBackend β) (env : XrEnv)

/-- What a client has heard is what its session has sent, as far as it got. -/
theorem run_heard (o : XrConnection.Opening β) (cfg : RadioConfig) (ops : List (Op β)) :
    (run R env o cfg ops).client.heard <+:
      emittedFrames (run R env o cfg ops).server.1.session.log := by
  induction ops using List.reverseRecOn with
  | nil =>
      have hheard : (Firmware.connected env cfg).heard = [] := Firmware.act_heard env _ _
      simp [run, opened, hheard]
  | append_singleton ops op ih =>
      obtain ⟨k, hattuned⟩ := run_attuned R env o cfg ops
      rw [run_append_singleton]
      generalize run R env o cfg ops = d at ih hattuned
      obtain ⟨toServer, toClient, haccord⟩ := hattuned.accord
      obtain ⟨c, -, hagrees⟩ := haccord.server.conducted.conduct
      have hserve : ∀ (d' : Dialogue β) (serverOp : XrConnection.Op β), d'.server = d.server →
          d'.client = d.client → (serve R env serverOp d').client.heard <+:
            emittedFrames (serve R env serverOp d').server.1.session.log := by
        intro d' serverOp hserver hclient
        have hlog := XrConnection.step_log R env d'.server serverOp (hserver ▸ hagrees.ready)
        rw [hserver] at hlog
        simp only [serve, hclient, hserver]
        exact ih.trans (hlog.filterMap _)
      unfold step
      cases op.action with
      | deliver n => exact hserve _ _ rfl rfl
      | tick => exact hserve _ _ rfl rfl
      | call call => exact hserve _ _ rfl rfl
      | flush answers => exact hserve _ _ rfl rfl
      | backend next => exact hserve _ _ rfl rfl
      | receive n => exact hattuned.receive_heard n ih
      | submit payload =>
          have hheard : (d.client.submit payload).heard = d.client.heard := by
            unfold Firmware.submit
            split <;> rfl
          exact hheard ▸ ih
      | timeout kind => exact ih

end Dialogue

/-! ## What a ready client has been told -/

namespace Firmware

variable (env : XrEnv)

/-- Acting on an event leaves the session as it is. -/
theorem act_session (event : Session.Event) (k : Firmware) :
    (act env event k).session = k.session := by
  unfold act
  cases event with
  | sendAuth =>
      simp only
      split <;> rfl
  | _ => rfl

/-- Handling a frame keeps the account of the handshake. -/
theorem handle_progress {k : Firmware} (f : Frame) (h : Progress k.session k.heard) :
    Progress (k.handle env f).session (k.handle env f).heard := by
  rw [handle, act_session, act_heard]
  exact h.frame f

/-- Receiving bytes keeps the account of the handshake. -/
theorem receive_progress {k : Firmware} (data : Bytes) (h : Progress k.session k.heard) :
    Progress (k.receive env data).session (k.receive env data).heard := by
  unfold receive
  split
  · exact h
  · rename_i hlive
    obtain ⟨exit, buf, unread, k', heq, hprogress, -⟩ := xrFormat.drive_rule
      (fun f rest (k : Firmware) => (k.withParser rest).handle env f)
      (fun k => k.session.state == .degraded) (fun _ _ k => Progress k.session k.heard)
      (fun _ _ k f rest hk _ _ => handle_progress env f (k := k.withParser rest) hk)
      (fun _ _ _ _ hk _ _ => hk) k.parser data k h (by simpa using hlive)
    simp only
    rw [heq]
    cases exit with
    | halted | drained => exact hprogress
    | malformed | stuck => exact Progress.of_failed (Or.inl rfl)

end Firmware

/-- Every client's state has the frames that lead to it behind it. -/
theorem Dialogue.run_progress {β : Type} (R : RadioBackend β) (env : XrEnv)
    (o : XrConnection.Opening β) (cfg : RadioConfig) (ops : List (Dialogue.Op β)) :
    Progress (run R env o cfg ops).client.session (run R env o cfg ops).client.heard := by
  induction ops using List.reverseRecOn with
  | nil =>
      have hprogress := Client.run_progress [.setDesiredConfig cfg, .connected]
      have hheard : (Client.run [.setDesiredConfig cfg, .connected]).heard = [] := by
        simp [Client.run, Client.step, Client.hear, Client.new]
      rw [hheard] at hprogress
      change Progress (Firmware.connected env cfg).session (Firmware.connected env cfg).heard
      rw [Firmware.connected, Firmware.act_session, Firmware.act_heard]
      exact hprogress
  | append_singleton ops op ih =>
      rw [run_append_singleton]
      unfold step
      cases op.action with
      | receive n => exact Firmware.receive_progress env _ ih
      | submit payload =>
          have hsubmit : ((run R env o cfg ops).client.submit payload).session =
                (run R env o cfg ops).client.session.submitTx.2 ∧
              ((run R env o cfg ops).client.submit payload).heard =
                (run R env o cfg ops).client.heard := by
            unfold Firmware.submit
            split <;> rename_i hresult <;> rw [hresult] <;> exact ⟨rfl, rfl⟩
          change Progress ((run R env o cfg ops).client.submit payload).session _
          rw [hsubmit.1]
          exact hsubmit.2 ▸ ih.submit
      | timeout kind => exact ih.timeout kind
      | deliver | tick | call | flush | backend => exact ih

/-- An echo that the client accepts is a grant of the server. -/
theorem isGrant_of_decodeConfigEcho {f : Frame} {cfg : RadioConfig}
    (h : decodeConfigEcho f = some cfg) : isGrant f = true := by
  obtain ⟨htype, hpayload⟩ := eq_of_decodeConfigEcho h
  simp [isGrant, htype, hpayload]

/-- The client reads its configuration back from the server's echo. -/
theorem decodeConfigEcho_configOkFrame {cfg : RadioConfig} (h : radioConfigValid cfg = true) :
    decodeConfigEcho (XrSession.configOkFrame cfg) = some cfg := by
  have hlength : (cfgOk :: packConfig cfg).length = 1 + kConfigPayloadSize := by
    simp [Nat.add_comm]
  simp only [decodeConfigEcho, XrSession.configOkFrame, hlength, List.getD_cons_zero,
    List.drop_one, List.tail_cons]
  simpa using unpackConfig_packConfig h

/-! ## Packets received and forwarded -/

/-- The `RX_PACKET` frames sent are the packets of the connection, as far as it got. -/
def Bond.RxBacked (β : Bond) : Prop :=
  β.view.rxs <+: (β.link.frames.filterMap deliverable).map XrSession.rxFrame

/-- The packets sent so far stay backed while the connection goes on. -/
theorem Bond.RxBacked.grow {m m' : BondMode} {v v' : SessionView} {l l' : Link}
    (h : Bond.RxBacked ⟨m, v, l⟩) (hrxs : v'.rxs = v.rxs) (hframes : l.frames <+: l'.frames) :
    Bond.RxBacked ⟨m', v', l'⟩ := by
  unfold RxBacked
  rw [hrxs]
  exact h.trans ((hframes.filterMap _).map _)

/-- Every step of a bond keeps the packets sent backed by the connection. -/
theorem BondStep.rxBacked {honest : Prop} {β β' : Bond} (hstep : BondStep honest β β')
    (htied : β'.RxTied) (h : β.RxBacked) : β'.RxBacked := by
  cases hstep with
  | carry m v hgrows => exact h.grow rfl hgrows.frames
  | close m v hgrows => exact h.grow rfl hgrows.frames
  | reject m v l f =>
      exact h.grow (by rw [SessionView.receive_eq]) List.prefix_rfl
  | refuse cfg v payload hgrows =>
      rcases hgrows with hgrows | hgrows
      · exact h.grow rfl hgrows.frames
      · exact h.grow rfl hgrows.frames
  | grant | ignore | forward | result | submit =>
      have heq : _ = _ := htied
      rw [Bond.RxBacked, heq]

/-- In every reachable bond the packets sent are backed by the connection. -/
theorem Bond.Reachable.rxBacked {honest : Prop} {β : Bond} (h : β.Reachable honest) :
    β.RxBacked := by
  have hboth : β.RxTied ∧ β.RxBacked := by
    refine h.induction (P := fun β => β.RxTied ∧ β.RxBacked) (fun β hβ => ?_) fun _ _ hstep hβ =>
      ⟨hstep.rxTied hβ.1, hstep.rxBacked (hstep.rxTied hβ.1) hβ.2⟩
    refine ⟨(hβ.reachable honest).rxTied, ?_⟩
    rw [Bond.RxBacked, hβ.blank.2.2.1]
    exact List.nil_prefix
  exact hboth.2

/-- The frames taken off any connection stand at the front of the bytes it received. -/
theorem run_dispatches (env : BridgeEnv) (ops : List XrServer.Op) {l : Link}
    (hl : l ∈ links (XrServer.run env ops).backend.trace) : Dispatches l := by
  have h := run_backend env
    (I := fun x => Sound x ∧ ∀ l ∈ earlierLinks x.1.trace, Dispatches l)
    ⟨sound_of_new rfl rfl, by simp [XrServer.initial, earlierLinks, linkHistory]⟩
    (by
      rintro x y hstep ⟨hsound, hearlier⟩
      obtain ⟨events, htrace, hcustody⟩ := hstep.moves
      refine ⟨hstep.sound hsound, fun l hl => ?_⟩
      rw [htrace] at hl
      rcases hcustody.earlierLinks x.1.trace with heq | heq <;> rw [heq] at hl
      · exact hearlier l hl
      · rcases mem_links.mp hl with hl | rfl
        · exact hearlier l hl
        · exact hsound.dispatches) ops
  rcases mem_links.mp hl with hl | rfl
  · exact h.2 l hl
  · exact h.1.dispatches

/-! ## One connection for every session -/

/-- The sessions that opened the connections, in order. -/
def linkOwners (trace : List Event) : List Nat :=
  (links trace).filterMap Link.owner

/-- The owners of the earlier connections, and the one of the present. -/
theorem linkOwners_eq (trace : List Event) :
    linkOwners trace = (earlierLinks trace).filterMap Link.owner ++ (link trace).owner.toList := by
  rw [linkOwners, links_eq, List.filterMap_append]
  cases howner : (link trace).owner <;> simp [howner]

/-- A connection that goes on keeps its owner. -/
theorem LorahamBackend.Goes.linkOwners {b b' : LorahamBackend} (h : Goes b b') :
    linkOwners b'.trace = LorahamBridge.linkOwners b.trace := by
  rw [linkOwners_eq, linkOwners_eq, h.earlier, h.grows.owner]

/-- Nothing but opening a connection adds an owner. -/
theorem linkOwners_append {trace events : List Event} (h : ∀ e ∈ events, e.isOpened = false) :
    linkOwners (trace ++ events) = linkOwners trace := by
  rw [linkOwners_eq, linkOwners_eq, earlierLinks_append h, (link_of_not_opened trace h).1]

/-- Opening a connection adds its owner. -/
theorem linkOwners_opened (trace : List Event) (owner : Option Nat) (band : Loraham.Band) :
    linkOwners (trace ++ [.opened owner band]) = linkOwners trace ++ owner.toList := by
  rw [linkOwners_eq, earlierLinks_opened, link_append_singleton]
  rfl

/-- A request to configure adds the present session as an owner, or nobody. -/
theorem LorahamBackend.BeganConfigure.linkOwners {requested : RadioConfig} {b : LorahamBackend}
    {r : UInt32 × LorahamBackend} (h : BeganConfigure requested b r) :
    LorahamBridge.linkOwners r.2.trace = LorahamBridge.linkOwners b.trace ∨
      LorahamBridge.linkOwners r.2.trace = LorahamBridge.linkOwners b.trace ++ b.sink.toList := by
  cases h with
  | refused => exact Or.inl rfl
  | unreachable => exact Or.inl (linkOwners_append (by simp [Event.isOpened]))
  | opened band => exact Or.inr (linkOwners_opened b.trace b.sink band)

/-- A request to transmit adds nobody. -/
theorem LorahamBackend.SubmittedTx.linkOwners {data : Bytes} {b : LorahamBackend}
    {r : Bool × LorahamBackend} (h : SubmittedTx data b r) :
    LorahamBridge.linkOwners r.2.trace = LorahamBridge.linkOwners b.trace := by
  have hsubmitted : ∀ c : LorahamBackend, Goes (b.holdTx data) c →
      LorahamBridge.linkOwners c.trace = LorahamBridge.linkOwners b.trace := fun c hgoes =>
    hgoes.linkOwners.trans (linkOwners_append (by simp [Event.isOpened]))
  cases h with
  | refused => rfl
  | failed transport off writes =>
      exact hsubmitted _ ((goes_wrote _ transport off writes).trans (goes_reset _))
  | accepted transport off writes =>
      exact hsubmitted ((b.holdTx data).wrote transport off writes) (goes_wrote _ _ _ _)

/-- A client frame opens a connection only for a session that has none. -/
theorem XrSession.FrameOutcome.linkOwners {env : XrEnv} {now : Nat} {f : Frame} {s s' : XrSession}
    {b b' : LorahamBackend}
    (h : XrSession.FrameOutcome lorahamRadio env now f s b (s', b')) :
    LorahamBridge.linkOwners b'.trace = LorahamBridge.linkOwners b.trace ∨
      s.phase = .waitConfigure ∧
        LorahamBridge.linkOwners b'.trace = LorahamBridge.linkOwners b.trace ++ b.sink.toList := by
  cases h with
  | configRefused _ _ _ requested _ hphase _ hbackend
  | configStarted requested _ _ hphase _ _ hbackend =>
      have hlinks := (beginConfigure_cases requested b).linkOwners
      change b.beginConfigure requested = _ at hbackend
      rw [hbackend] at hlinks
      exact hlinks.imp_right fun h => ⟨hphase, h⟩
  | submitRefused _ _ _ _ _ hbackend | submitted _ _ _ _ _ hbackend =>
      have hlinks := (submitTx_cases f.payload b).linkOwners
      change b.submitTx f.payload = _ at hbackend
      rw [hbackend] at hlinks
      exact Or.inl hlinks
  | _ => exact Or.inl rfl

/-- The number of the next session belongs to no connection yet. -/
theorem nodup_append_owner {past : List XrSession} {b : LorahamBackend}
    (hnumbered : Numbered past)
    (h : ∀ honest, Honest honest b.trace → ∀ l ∈ links b.trace, Attributed honest past l)
    (hnodup : (linkOwners b.trace).Nodup) : (linkOwners b.trace ++ [past.length]).Nodup := by
  refine hnodup.append (List.nodup_singleton _) ?_
  intro id hid hlast
  rw [List.mem_singleton] at hlast
  obtain ⟨l, hl, howner⟩ := List.mem_filterMap.mp hid
  rcases h False False.elim l hl with hnone | ⟨t, ht, hown, -⟩
  · simp [hnone.1] at howner
  · have hlt := hnumbered.id_lt ht
    rw [howner, Option.some.injEq] at hown
    omega

/-- No session opens two connections. -/
def soleOwner (env : BridgeEnv) : Extension (bonds env).toInvariant where
  idle _ b _ := (linkOwners b.trace).Nodup
  active _ _ b _ := (linkOwners b.trace).Nodup
  initial := by simp [XrServer.initial, linkOwners, links, linkHistory, Link.none]
  idle_environment _ _ h := h
  active_environment _ _ h := h
  idle_poll := by
    intro past b unread b' unread' hC h hstep
    cases hstep with
    | quiet hstep => exact (hstep.goes hC.1.2.confed).linkOwners ▸ h
    | call hstep => exact hstep.goes.linkOwners ▸ h
  quiet_poll hC h hstep := (hstep.goes hC.1.2.confed).linkOwners ▸ h
  call_poll _ h hstep _ := hstep.goes.linkOwners ▸ h
  accept _ _ h := h
  parser _ h := h
  parserError _ h _ := h
  frame := by
    intro past s b f s' b' hC h hopen hout
    rcases hout.linkOwners with hsame | ⟨hphase, hnew⟩
    · rwa [hsame]
    · rw [hnew, hC.1.1.2.2.sink, hC.1.1.2.1]
      refine nodup_append_owner hC.1.1.1 ?_ h
      rcases hC.2.session with hf | ho
      · exact hf.links
      · rcases ho.phase with hs | hs | hs <;> simp [hs] at hphase
  tick := by
    intro past s b s' b' hC h hout
    cases hout with
    | abandoned => exact (goes_abandonPendingTx b).linkOwners ▸ h
    | _ => exact h
  consume _ h := h
  teardown _ h := by
    rw [(goes_teardown _).linkOwners]
    exact h

/-- Of the connections of a run no two belong to the same session. -/
theorem run_linkOwners (env : BridgeEnv) (ops : List XrServer.Op) :
    (linkOwners (XrServer.run env ops).backend.trace).Nodup := by
  have h := (soleOwner env).toInvariant.run ops
  unfold Invariant.holds at h
  split at h <;> exact h.2

/-- The connections session `k` opened. -/
def linksOf (k : Nat) (trace : List Event) : List Link :=
  (links trace).filter fun l => l.owner == some k

/-- Where keys are not repeated, a key selects one element. -/
theorem filter_key_eq_singleton {α : Type} {key : α → Option Nat} {l : List α} {k : Nat} {a : α}
    (hnodup : (l.filterMap key).Nodup) (ha : a ∈ l) (hkey : key a = some k) :
    l.filter (fun x => key x == some k) = [a] := by
  induction l with
  | nil => cases ha
  | cons x l ih =>
      cases hx : key x with
      | none =>
          rw [List.filterMap_cons, hx] at hnodup
          rcases List.mem_cons.mp ha with rfl | ha
          · simp [hx] at hkey
          · simpa [hx] using ih hnodup ha
      | some j =>
          rw [List.filterMap_cons, hx] at hnodup
          obtain ⟨hnot, hrest⟩ := List.nodup_cons.mp hnodup
          rcases List.mem_cons.mp ha with rfl | ha
          · obtain rfl : j = k := by simpa [hx] using hkey
            have hnone : l.filter (fun x => key x == some j) = [] := by
              rw [List.filter_eq_nil_iff]
              intro y hy hyk
              exact hnot (List.mem_filterMap.mpr ⟨y, hy, by simpa using hyk⟩)
            simp [hx, hnone]
          · have hne : j ≠ k := by
              rintro rfl
              exact hnot (List.mem_filterMap.mpr ⟨a, ha, hkey⟩)
            simpa [hx, hne] using ih hrest ha

/-- A session has no connection but its own. -/
theorem run_linksOf (env : BridgeEnv) (ops : List XrServer.Op) {l : Link} {k : Nat}
    (hl : l ∈ links (XrServer.run env ops).backend.trace) (howner : l.owner = some k) :
    linksOf k (XrServer.run env ops).backend.trace = [l] :=
  filter_key_eq_singleton (run_linkOwners env ops) hl howner

/-! ## Clients of a run -/

/-- A recorded outcome is the one of a result the session sent. -/
theorem Accord.result_of_recorded {env : XrEnv} {k : Firmware} {s : XrSession}
    {toServer toClient : List Frame} (h : Accord env k s toServer toClient) {n : Nat}
    {seq : UInt16} {outcome : Session.TxOutcome} (hrecorded : k.recorded[n]? = some (seq, outcome)) :
    ∃ f, (view s.log).results[n]? = some f ∧ f.seq = seq ∧
      Session.outcomeOfCode (f.payload.getD 0 0) = outcome := by
  rw [h.recorded, resultsOf, List.getElem?_map, Option.map_eq_some_iff] at hrecorded
  obtain ⟨f, hf, hpair⟩ := hrecorded
  cases hpair
  refine ⟨f, ?_, rfl, rfl⟩
  have hlt := (List.getElem?_eq_some_iff.mp hf).1
  rw [view_eq]
  simp only [← h.heard, List.filter_append]
  rw [List.getElem?_append_left hlt, hf]

/-- What joins a client to its session. -/
structure Serves (env : XrEnv) (s : XrSession) (p : Peer) : Prop where
  heard : p.firmware.heard <+: emittedFrames s.log
  progress : Progress p.firmware.session p.firmware.heard
  accord : ∃ k toServer toClient, Accord env k s toServer toClient ∧
    p.firmware.recorded = k.recorded ∧ p.firmware.submissions = k.submissions

/-- A client that has just joined is served. -/
theorem Joined.serves {env : XrEnv} {s : XrSession} {p : Peer} (h : Joined env s p) :
    Serves env s p := by
  obtain ⟨o, cfg, ops, hd⟩ := h
  obtain ⟨k, hattuned⟩ := run_attuned lorahamRadio env o cfg ops
  obtain ⟨toServer, toClient, haccord⟩ := hattuned.accord
  have hheard := Dialogue.run_heard lorahamRadio env o cfg ops
  have hprogress := Dialogue.run_progress lorahamRadio env o cfg ops
  rw [hd.client] at hheard hprogress
  rw [hd.session] at hheard haccord
  refine ⟨hheard, hprogress, k, toServer, toClient, haccord, ?_⟩
  rw [← hd.client]
  rcases hattuned.downstream with ⟨hclient, -⟩ | hfailed
  · rw [hclient]
    exact ⟨rfl, rfl⟩
  · exact ⟨hfailed.recorded, hfailed.submissions⟩

namespace System

variable (env : BridgeEnv) (ops : List Op)

/-- Every client of a run has the session of its number. -/
theorem run_client {k : Nat} {p : Peer} (hp : (run env ops).peers[k]? = some p) :
    ∃ s ∈ (run env ops).server.sessions, s.id = k ∧ Serves env.toXrEnv s p := by
  have hpaired := run_joined env ops
  have hlt : k < (run env ops).server.sessions.length := by
    rw [← hpaired.length]
    exact (List.getElem?_eq_some_iff.mp hp).1
  have hs := List.getElem?_eq_getElem hlt
  refine ⟨(run env ops).server.sessions[k], List.getElem_mem hlt, ?_,
    (hpaired.joined k _ p hs hp).serves⟩
  obtain ⟨serverOps, hserver⟩ := run_server env ops
  have hid := congrArg (fun l : List Nat => l[k]?) (run_sessions_id env serverOps)
  rw [← hserver, List.getElem?_map, hs, List.getElem?_range hlt] at hid
  exact Option.some.inj hid

/-- A connection of a client's session. -/
theorem run_link {s : XrSession} (hs : s ∈ (run env ops).server.sessions) {l : Link}
    (hl : l ∈ links (run env ops).server.backend.trace) (howner : l.owner = some s.id) :
    ∃ m, Bond.Reachable False ⟨m, view s.log, l⟩ := by
  obtain ⟨serverOps, hserver⟩ := run_server env ops
  rw [hserver] at hs hl
  have hhonest : Honest False (XrServer.run env serverOps).backend.trace := False.elim
  rcases run_link_bond env serverOps hhonest hl with hnone | ⟨t, ht, howner', hbond⟩
  · simp [hnone.1] at howner
  · have hid : s.id = t.id := Option.some.inj (howner.symm.trans howner')
    rwa [run_session_unique env serverOps hs ht hid]

/-! ## A round trip -/

/-- An open bridge with the default timeouts. -/
def openBridge : BridgeEnv :=
  ⟨⟨⟨[]⟩, fun _ _ => none, defaultTimeouts, 65536, fun _ n => n⟩, 2000, 30000⟩

/-- A client configures the radio, transmits a packet and receives one. -/
def roundTrip : List Op :=
  [.server 0 {} (.connect meshConfig none),
    .server 1 {} (.deliver 100), .server 0 {} (.flush [.took 100]), .client 0 (.receive 100),
    .server 1 { beginConnect := [true] } (.deliver 100),
    .server 1
      { pollConnect := [.connected]
        confSendSome := [.took 512]
        confRecv := [.data readyStatus] } .poll,
    .server 0 {} (.flush [.took 100]), .client 0 (.receive 100),
    .client 0 (.submit ⟨[1, 2, 3], by decide, by decide⟩),
    .server 1 { dataSendSome := [.took 512] } (.deliver 100),
    .server 1
      { dataRecv := [.data ⟨Loraham.framedBytes .rxPacket [16, 39, 0, 0, 9] ++
          Loraham.framedBytes .txResult [0, 0, 0, 0], by decide⟩] } .poll,
    .server 0 {} (.flush [.took 100]), .client 0 (.receive 100)]

/-- Its client is ready in the end, and has the result of its transmission. -/
theorem roundTrip_client : ∃ p, (run openBridge roundTrip).peers[0]? = some p ∧
    p.firmware.session.Operational ∧ p.firmware.recorded[0]? = some (1, .success) := by
  have hclient : (run openBridge roundTrip).peers[0]?.map
      (fun p => (p.firmware.session.state, p.firmware.recorded)) =
        some (.readyRx, [(1, .success)]) := by decide +kernel
  obtain ⟨p, hp, hpair⟩ := Option.map_eq_some_iff.mp hclient
  obtain ⟨hstate, hrecorded⟩ := Prod.mk.inj hpair
  exact ⟨p, hp, Or.inl hstate, by rw [hrecorded]; rfl⟩

/-! ## Main results -/

/-- What is written to the daemon for a client are its own submissions, in order, from the
first on, each at most once and unaltered. -/
theorem transmitted_submissions {k : Nat} {p : Peer} (hp : (run env ops).peers[k]? = some p) :
    (linksOf k (run env ops).server.backend.trace).flatMap (fun l => Loraham.txPackets l.sent) <+:
      p.firmware.submissions.map Prod.snd := by
  obtain ⟨s, hs, hid, hserves⟩ := run_client env ops hp
  obtain ⟨f, toServer, toClient, haccord, -, hsubmissions⟩ := hserves.accord
  obtain ⟨serverOps, hserver⟩ := run_server env ops
  cases hlinks : linksOf k (run env ops).server.backend.trace with
  | nil => exact List.nil_prefix
  | cons l rest =>
      have hmem : l ∈ linksOf k (run env ops).server.backend.trace := by simp [hlinks]
      obtain ⟨hl, howner⟩ := List.mem_filter.mp hmem
      have howner : l.owner = some k := by simpa using howner
      obtain ⟨m, hbond⟩ := run_link env ops hs hl (hid ▸ howner)
      have hone := run_linksOf env serverOps (hserver ▸ hl) howner
      rw [← hserver, hlinks] at hone
      have hrequests : (view s.log).requests <+: p.firmware.submissions.map Prod.snd := by
        rw [hsubmissions, haccord.client.submissions, view_eq]
        simp only [requestsOf, List.map_map]
        exact (haccord.received.filter _).map _
      rw [hone, List.flatMap_singleton]
      calc Loraham.txPackets l.sent
          <+: l.submitted := run_txPackets_submitted env serverOps (hserver ▸ hl)
        _ <+: (view s.log).requests := by
            rcases hbond.txTied with heq | ⟨-, payload, heq⟩
            · exact heq ▸ List.prefix_rfl
            · exact heq ▸ List.prefix_append _ _
        _ <+: p.firmware.submissions.map Prod.snd := hrequests

/-- The first client of `roundTrip`, which transmits a packet. -/
theorem transmitted_submissions_roundTrip :
    ∃ p, (run openBridge roundTrip).peers[0]? = some p ∧
      (linksOf 0 (run openBridge roundTrip).server.backend.trace).flatMap
        (fun l => Loraham.txPackets l.sent) <+: p.firmware.submissions.map Prod.snd := by
  obtain ⟨p, hp, -⟩ := roundTrip_client
  exact ⟨p, hp, transmitted_submissions openBridge roundTrip hp⟩

/-- The packets a client hears are those the daemon delivered on the connection of its
session, in order, from the first on, with their signal levels and their bytes. -/
theorem heard_packets {k : Nat} {p : Peer} (hp : (run env ops).peers[k]? = some p) :
    (p.firmware.heard.filter (·.type == .rxPacket)).map decodeRxPacket <+:
      ((linksOf k (run env ops).server.backend.trace).flatMap fun l =>
        (Loraham.daemonFormat.parse l.received).1.filterMap rfPacket?).map some := by
  obtain ⟨s, hs, hid, hserves⟩ := run_client env ops hp
  obtain ⟨serverOps, hserver⟩ := run_server env ops
  have hrxs : p.firmware.heard.filter (·.type == .rxPacket) <+: (view s.log).rxs := by
    rw [view_eq]
    exact hserves.heard.filter _
  have hhonest : Honest False (XrServer.run env serverOps).backend.trace := False.elim
  rcases run_session_bond env serverOps hhonest (hserver ▸ hs) with hblank | ⟨l, hl, howner, m, hbond⟩
  · rw [hblank.2.2.1, List.prefix_nil] at hrxs
    rw [hrxs]
    exact List.nil_prefix
  · rw [hserver, run_linksOf env serverOps hl (hid ▸ howner), List.flatMap_singleton]
    calc (p.firmware.heard.filter (·.type == .rxPacket)).map decodeRxPacket
        <+: (view s.log).rxs.map decodeRxPacket := hrxs.map _
      _ <+: ((l.frames.filterMap deliverable).map XrSession.rxFrame).map decodeRxPacket :=
          hbond.rxBacked.map _
      _ = (l.frames.filterMap rfPacket?).map some := decodeRxPacket_deliverable _
      _ <+: ((Loraham.daemonFormat.parse l.received).1.filterMap rfPacket?).map some :=
          ((run_dispatches env serverOps hl).filterMap _).map _

/-- The same client, which hears a packet of the daemon. -/
theorem heard_packets_roundTrip :
    ∃ p, (run openBridge roundTrip).peers[0]? = some p ∧
      (p.firmware.heard.filter (·.type == .rxPacket)).map decodeRxPacket <+:
        ((linksOf 0 (run openBridge roundTrip).server.backend.trace).flatMap fun l =>
          (Loraham.daemonFormat.parse l.received).1.filterMap rfPacket?).map some := by
  obtain ⟨p, hp, -⟩ := roundTrip_client
  exact ⟨p, hp, heard_packets openBridge roundTrip hp⟩

/-- A client in operation has its radio: the daemon was sent the five command lines for
exactly the client's configuration, whole and once, on the only connection of its session
and for the band of the configuration, and the first of its replies that decides anything
is a status line that says `RADIO=READY`. -/
theorem ready_configured {k : Nat} {p : Peer} (hp : (run env ops).peers[k]? = some p)
    (hready : p.firmware.session.Operational) :
    ∃ l, linksOf k (run env ops).server.backend.trace = [l] ∧
      (∃ band, Loraham.validateConfig p.firmware.session.cfg = .ok band ∧ l.band = some band) ∧
      LorahamBackend.Commanded p.firmware.session.cfg l.confSent ∧
      ∃ core, LorahamBackend.RadioReported l.confReceived core := by
  obtain ⟨s, hs, hid, hserves⟩ := run_client env ops hp
  obtain ⟨f, toServer, toClient, haccord, -⟩ := hserves.accord
  obtain ⟨serverOps, hserver⟩ := run_server env ops
  obtain ⟨-, admission, echo, traffic, hheard, -, hecho, -⟩ := hserves.progress.operational hready
  have hemitted : echo ∈ emittedFrames s.log := hserves.heard.subset (by simp [hheard])
  have hgrant : echo ∈ (view s.log).grants := by
    rw [view_eq]
    exact List.mem_filter.mpr ⟨hemitted, isGrant_of_decodeConfigEcho hecho⟩
  have hhonest : Honest False (XrServer.run env serverOps).backend.trace := False.elim
  rcases run_session_bond env serverOps hhonest (hserver ▸ hs) with hblank | ⟨l, hl, howner, m, hbond⟩
  · rw [hblank.2.1] at hgrant
    cases hgrant
  · rcases hbond.granted.backed with hnone | ⟨cfg, hgrants, -, hconfigured⟩
    · have hnone : (view s.log).grants = [] := hnone
      rw [hnone] at hgrant
      cases hgrant
    · have hgrants : (view s.log).grants = [XrSession.configOkFrame cfg] := hgrants
      rw [hgrants, List.mem_singleton] at hgrant
      have hcfg : cfg = p.firmware.session.cfg := by
        obtain ⟨c, hreplay, -⟩ := haccord.server.conducted.conduct
        have hvalid := (replay_promised hreplay).sent echo hemitted
        rw [hgrant] at hvalid hecho
        rw [decodeConfigEcho_configOkFrame (radioConfigValid_of_validate_configOkFrame hvalid)]
          at hecho
        exact Option.some.inj hecho
      rw [hcfg] at hconfigured
      refine ⟨l, ?_, hconfigured.band, hconfigured.commanded, hconfigured.reported⟩
      rw [hserver]
      exact run_linksOf env serverOps hl (hid ▸ howner)

/-- The same client, in operation. -/
theorem ready_configured_roundTrip :
    ∃ p, (run openBridge roundTrip).peers[0]? = some p ∧ p.firmware.session.Operational ∧
      ∃ l, linksOf 0 (run openBridge roundTrip).server.backend.trace = [l] ∧
        LorahamBackend.Commanded p.firmware.session.cfg l.confSent ∧
        ∃ core, LorahamBackend.RadioReported l.confReceived core := by
  obtain ⟨p, hp, hready, -⟩ := roundTrip_client
  obtain ⟨l, hl, -, hconfigured⟩ := ready_configured openBridge roundTrip hp hready
  exact ⟨p, hp, hready, l, hl, hconfigured⟩

/-- What a client records of a terminal frame: of the statuses of a `TX_RESULT`, `OK` (0) is
a success and `CHANNEL_BUSY` (2) a busy channel; every other status and every `ERROR` is an
error of the radio. -/
def recordOf (answer : Loraham.Frame) : Session.TxOutcome :=
  match answer.type with
  | .txResult =>
      if answer.payload.getD 0 0 = 0x00 then .success
      else if answer.payload.getD 0 0 = 0x02 then .channelBusy
      else .radioError
  | _ => .radioError

/-- The client reads the result code of the bridge back. -/
theorem outcomeOfCode_resultByte (answer : Loraham.Frame) :
    Session.outcomeOfCode (resultByte answer) = recordOf answer := by
  obtain ⟨type, payload⟩ := answer
  cases type with
  | txResult =>
      simp only [resultByte, recordOf]
      split
      · rfl
      · split <;> rfl
  | _ => rfl

/-- When the table says success. -/
theorem recordOf_eq_success_iff (answer : Loraham.Frame) :
    recordOf answer = .success ↔ answer.type = .txResult ∧ answer.payload.getD 0 0 = 0x00 := by
  obtain ⟨type, payload⟩ := answer
  cases type with
  | txResult =>
      simp only [recordOf, true_and]
      split
      · simp_all
      · split <;> simp_all
  | _ => simp [recordOf]

/-- If the daemon answers only packets it has received whole and each at most once, then
what a client records for its submission `n` is the daemon's answer to that very packet,
which was written whole as packet `n` of the connection of its session; and a success is
a `TX_RESULT` of the daemon with the status `OK`. -/
theorem recorded_outcomes {answered : Nat → Nat → Nat}
    (hobedient : Obedient answered (run env ops).server.backend.trace) {k : Nat} {p : Peer}
    (hp : (run env ops).peers[k]? = some p) {n : Nat} {seq : UInt16} {outcome : Session.TxOutcome}
    (hrecorded : p.firmware.recorded[n]? = some (seq, outcome)) :
    ∃ payload j l answer, p.firmware.submissions[n]? = some (seq, payload) ∧
      (links (run env ops).server.backend.trace)[j]? = some l ∧ l.owner = some k ∧
      (Loraham.txPackets l.sent)[n]? = some payload ∧
      (l.frames.filter LorahamBackend.isTerminal)[n]? = some answer ∧ answered j n = n ∧
      outcome = recordOf answer ∧
      (outcome = .success ↔ answer.type = .txResult ∧ answer.payload.getD 0 0 = 0x00) := by
  obtain ⟨s, hs, hid, hserves⟩ := run_client env ops hp
  obtain ⟨f, toServer, toClient, haccord, hrecords, hsubmissions⟩ := hserves.accord
  obtain ⟨serverOps, hserver⟩ := run_server env ops
  rw [hrecords] at hrecorded
  obtain ⟨result, hresult, rfl, rfl⟩ := haccord.result_of_recorded hrecorded
  obtain ⟨log, payload, told, hle, -, hlength, hrequest, hsubmission⟩ :=
    haccord.submission_of_result hresult
  have hresulted : log ++ [.callback (.onTxComplete told)] ++ [.emitted result] <+: s.log := by
    simpa using hle
  have htype : result.type = .txResult := by
    have hmem := List.mem_of_getElem? hresult
    rw [view_eq] at hmem
    simpa using (List.mem_filter.mp hmem).2
  rw [hserver] at hs hobedient ⊢
  have hhonest : Honest True (XrServer.run env serverOps).backend.trace :=
    fun _ => ⟨answered, hobedient⟩
  rcases run_session_bond env serverOps hhonest hs with hblank | ⟨l, hl, howner, m, hbond⟩
  · rw [hblank.2.2.2] at hresult
    cases hresult
  · obtain ⟨j, hj⟩ := List.mem_iff_getElem?.mp hl
    obtain ⟨n', payload', answer, hattributed⟩ := attributedTo_of_settled
      haccord.server.conducted hbond.settled (run_matched env serverOps hobedient hj)
      (run_txPackets_submitted env serverOps hl) hresulted htype
    have hlog : ∀ call, acceptedRequests (log ++ [.callback call]) = acceptedRequests log := by
      simp [acceptedRequests]
    have hlast := hattributed.last
    rw [hlog, hlength] at hlast
    obtain rfl : n' = n := by omega
    have hsame := hattributed.request
    rw [hlog, hrequest, Option.some.injEq, Prod.mk.injEq] at hsame
    have hrecord : Session.outcomeOfCode (result.payload.getD 0 0) = recordOf answer := by
      rw [hattributed.code, List.getD_cons_zero, outcomeOfCode_resultByte]
    refine ⟨payload, j, l, answer, hsubmissions ▸ hsubmission, hj, hid ▸ howner,
      hsame.2 ▸ hattributed.packet, hattributed.terminal, hattributed.about, hrecord, ?_⟩
    rw [hrecord]
    exact recordOf_eq_success_iff answer

/-- The same client, with a success recorded for its first packet. -/
theorem recorded_outcomes_roundTrip :
    ∃ p, (run openBridge roundTrip).peers[0]? = some p ∧
      p.firmware.recorded[0]? = some (1, .success) ∧
      ∃ (payload : Bytes) (l : Link) (answer : Loraham.Frame),
        p.firmware.submissions[0]? = some (1, payload) ∧ l.owner = some 0 ∧
        (Loraham.txPackets l.sent)[0]? = some payload ∧
        (l.frames.filter LorahamBackend.isTerminal)[0]? = some answer ∧
        answer.type = .txResult ∧ answer.payload.getD 0 0 = 0x00 := by
  have hanswers : ∀ pre ∈ (run openBridge roundTrip).server.backend.trace.inits,
      (link pre).answersReceived ≤ (Loraham.txPackets (link pre).sent).length := by
    decide +kernel
  have hobedient : Obedient (fun _ n => n) (run openBridge roundTrip).server.backend.trace :=
    ⟨fun pre hpre j hj => hj.trans_le (hanswers pre ((List.mem_inits _ _).mpr hpre)),
      fun _ _ _ _ _ _ heq => heq⟩
  obtain ⟨p, hp, -, hrecorded⟩ := roundTrip_client
  obtain ⟨payload, j, l, answer, hsubmitted, -, howner, hpacket, hanswer, -, -, hsuccess⟩ :=
    recorded_outcomes openBridge roundTrip hobedient hp hrecorded
  exact ⟨p, hp, hrecorded, payload, l, answer, hsubmitted, howner, hpacket, hanswer,
    hsuccess.mp rfl⟩

end System

end LorahamBridge
