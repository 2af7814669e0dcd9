import LorahamBridge.Bridge.Agreement
import LorahamBridge.Bridge.Coupling

/-!
# The bridge and its clients

The whole installation: the server with its backend, and the firmware of every client
that ever connected, each joined to the server by a byte channel in each direction.
Clients come one after the other; what the server still had to say to one when its
connection was torn down may reach it later.

Main results:

- Theorem `System.run_server`: the server's part is a run of the server.
- Theorem `System.run_joined`: every client and its session hold a dialogue.
-/

namespace LorahamBridge

open Foundation Extradio

/-! ## Clients and their channels -/

/-- A client, with the bytes on their way from and to it. -/
structure Peer where
  firmware : Firmware
  toServer : Bytes
  toClient : Bytes

namespace Peer

variable (env : XrEnv)

/-- What a client does. -/
inductive Action where
  | receive (n : Nat)
  | submit (payload : TxPayload)
  | timeout (kind : Session.TimeoutKind)

/-- A client that has just connected. -/
def connected (cfg : RadioConfig) : Peer where
  firmware := Firmware.connected env cfg
  toServer := (Firmware.connected env cfg).sent.flatMap frameBytes
  toClient := []

/-- The client as it is now; the frames it has sent meanwhile enter the channel. -/
def withFirmware (k : Firmware) (p : Peer) : Peer :=
  { p with
    firmware := k
    toServer := p.toServer ++ (k.sent.drop p.firmware.sent.length).flatMap frameBytes }

/-- One action of a client. -/
def act (action : Action) (p : Peer) : Peer :=
  match action with
  | .receive n =>
      withFirmware (p.firmware.receive env (p.toClient.take n))
        { p with toClient := p.toClient.drop n }
  | .submit payload => p.withFirmware (p.firmware.submit payload)
  | .timeout kind => p.withFirmware (p.firmware.expire kind)

/-- The socket has taken some output of the server. -/
def transmit (bytes : Bytes) (p : Peer) : Peer :=
  { p with toClient := p.toClient ++ bytes }

end Peer

/-! ## The installation -/

/-- Client `k` is the one of session `k`. -/
structure System where
  server : XrServer
  peers : List Peer

namespace System

/-- What the server does; its client's bytes come out of the channel. -/
inductive Action where
  | connect (cfg : RadioConfig) (entropy : Option Nonce)
  | deliver (n : Nat)
  | socketFailed
  | poll
  | tick
  | flush (answers : List SendAnswer)
  | dropConnectionIfFinished
  | teardown

/-- What happens in the system: an action of the server or one of a client. -/
inductive Op where
  | server (elapsed : Nat) (transport : DaemonTransport) (action : Action)
  | client (k : Nat) (action : Peer.Action)

variable (env : BridgeEnv)

/-- The system before any client has connected. -/
def initial : System where
  server := XrServer.initial env
  peers := []

/-- The bytes of the present client that have not arrived yet. -/
def inbound (sys : System) : Bytes :=
  (sys.peers[sys.server.past.length]?.map Peer.toServer).getD []

/-- The output of the present session that the `send` calls on its socket have accepted, as
the answers of those calls say. -/
def outbound (sv : XrServer) : Bytes :=
  (sv.conn.map fun c => c.session.drained).getD []

/-- The operation of the server. -/
def serverAction (sys : System) : Action → XrServer.Action
  | .connect _ entropy => .accept entropy
  | .deliver n => .feed (sys.inbound.take n)
  | .socketFailed => .socketFailed
  | .poll => .poll
  | .tick => .tick
  | .flush answers => .flush answers
  | .dropConnectionIfFinished => .dropConnectionIfFinished
  | .teardown => .teardown

/-- The clients after an operation that took the server to `sv`. -/
def serverPeers (sys : System) (sv : XrServer) : Action → List Peer
  | .connect cfg _ =>
      match sys.server.conn with
      | none => sys.peers ++ [Peer.connected env.toXrEnv cfg]
      | some _ => sys.peers
  | .deliver n =>
      sys.peers.modify sys.server.past.length fun p => { p with toServer := p.toServer.drop n }
  | .flush _ =>
      sys.peers.modify sys.server.past.length fun p =>
        p.transmit ((outbound sv).drop (outbound sys.server).length)
  | _ => sys.peers

/-- One step of the system. -/
def step (sys : System) (op : Op) : System :=
  match op with
  | .server elapsed transport action =>
      let sv := XrServer.step env sys.server ⟨elapsed, transport, sys.serverAction action⟩
      { server := sv, peers := sys.serverPeers env sv action }
  | .client k action => { sys with peers := sys.peers.modify k (Peer.act env.toXrEnv action) }

/-- The installation after a run of operations. -/
def run (ops : List Op) : System :=
  ops.foldl (step env) (initial env)

theorem run_append_singleton (ops : List Op) (op : Op) :
    run env (ops ++ [op]) = step env (run env ops) op := by
  simp [run]

/-- The server's part of a run. -/
theorem run_server (ops : List Op) :
    ∃ serverOps, (run env ops).server = XrServer.run env serverOps := by
  induction ops using List.reverseRecOn with
  | nil => exact ⟨[], rfl⟩
  | append_singleton ops op ih =>
      obtain ⟨serverOps, ih⟩ := ih
      rw [run_append_singleton]
      cases op with
      | server elapsed transport action =>
          refine ⟨serverOps ++ [⟨elapsed, transport, (run env ops).serverAction action⟩], ?_⟩
          rw [XrServer.run_append, ← ih]
          rfl
      | client k action => exact ⟨serverOps, ih⟩

end System

/-! ## Dialogues -/

/-- What the socket takes does not depend on its earlier errors. -/
theorem XrConnection.flush_session (answers : List SendAnswer) {c c' : XrConnection}
    (h : c.session = c'.session) : (c.flush answers).session = (c'.flush answers).session := by
  induction answers generalizing c c' with
  | nil => exact h
  | cons answer answers ih =>
      cases answer with
      | failed => simp only [flush, h]; split <;> simp [h]
      | took n =>
          simp only [flush, h]
          split
          · exact h
          · split
            · exact h
            · exact ih rfl

/-- A dialogue in which these are the session, the client and the channels. -/
structure Dialogue.Shows (d : Dialogue LorahamBackend) (s : XrSession) (p : Peer) : Prop where
  session : d.server.1.session = s
  client : d.client = p.firmware
  toServer : d.toServer = p.toServer
  toClient : d.toClient = p.toClient

/-- A session and a client hold a dialogue. -/
def Joined (env : XrEnv) (s : XrSession) (p : Peer) : Prop :=
  ∃ o cfg ops, (Dialogue.run lorahamRadio env o cfg ops).Shows s p

namespace Joined

variable {env : XrEnv} {s : XrSession} {p : Peer}

/-- A client that connects is joined to the session opened for it. -/
theorem connected (cfg : RadioConfig) (o : XrConnection.Opening LorahamBackend) :
    Joined env (XrConnection.opened lorahamRadio env o).1.session (Peer.connected env cfg) :=
  ⟨o, cfg, [], rfl, rfl, rfl, rfl⟩

/-- The next operation, in whatever state the backend is by then. -/
theorem next {s' : XrSession} {p' : Peer} (h : Joined env s p) (b : LorahamBackend)
    (op : Dialogue.Op LorahamBackend)
    (hstep : ∀ d : Dialogue LorahamBackend, d.Shows s p → d.server.2 = b →
      (Dialogue.step lorahamRadio env d op).Shows s' p') : Joined env s' p' := by
  obtain ⟨o, cfg, ops, hd⟩ := h
  refine ⟨o, cfg, ops ++ [⟨0, .backend fun _ => b⟩] ++ [op], ?_⟩
  rw [Dialogue.run_append_singleton, Dialogue.run_append_singleton]
  refine hstep _ ⟨hd.session, hd.client, hd.toServer, ?_⟩ rfl
  simp [Dialogue.step, Dialogue.serve, XrConnection.step, hd.toClient]

/-- Bytes delivered to the server keep client and session joined. -/
theorem feed (h : Joined env s p) (now n : Nat) (b : LorahamBackend) :
    Joined env (s.feed lorahamRadio env now (p.toServer.take n) b).1
      { p with toServer := p.toServer.drop n } := by
  refine h.next b ⟨now, .deliver n⟩ fun d hd hb => ?_
  have hsession : (Dialogue.step lorahamRadio env d ⟨now, .deliver n⟩).server.1.session =
      (s.feed lorahamRadio env now (p.toServer.take n) b).1 := by
    simp [Dialogue.step, Dialogue.serve, XrConnection.step, hd.session, hd.toServer, hb]
  refine ⟨hsession, hd.client, by simp [Dialogue.step, Dialogue.serve, hd.toServer], ?_⟩
  simp only [Dialogue.step, Dialogue.serve] at hsession ⊢
  rw [hsession, XrSession.feed_drained, hd.session, List.drop_length, List.append_nil]
  exact hd.toClient

theorem tick (h : Joined env s p) (now : Nat) (b : LorahamBackend) :
    Joined env (s.tick lorahamRadio env now b).1 p := by
  refine h.next b ⟨now, .tick⟩ fun d hd hb => ?_
  have hsession : (Dialogue.step lorahamRadio env d ⟨now, .tick⟩).server.1.session =
      (s.tick lorahamRadio env now b).1 := by
    simp [Dialogue.step, Dialogue.serve, XrConnection.step, hd.session, hb]
  refine ⟨hsession, hd.client, hd.toServer, ?_⟩
  simp only [Dialogue.step, Dialogue.serve] at hsession ⊢
  rw [hsession, XrSession.tick_drained, hd.session, List.drop_length, List.append_nil]
  exact hd.toClient

/-- A joined session has a transmission in flight only in operation. -/
theorem flight (h : Joined env s p) : s.txInFlight = true → s.phase = .ready := by
  obtain ⟨o, cfg, ops, hd⟩ := h
  obtain ⟨serverOps, hserver⟩ := Dialogue.run_server lorahamRadio env o cfg ops
  rw [← hd.session, hserver]
  exact (SessionInvariant.inFlight lorahamRadio env).run o serverOps trivial fun _ _ => trivial

/-- A callback keeps client and session joined. -/
theorem call (h : Joined env s p) (now : Nat) (call : SinkCall) :
    Joined env (s.onCall env now call) p := by
  have hflight := h.flight
  refine h.next {} ⟨now, .call call⟩ fun d hd hb => ?_
  have hsession : (Dialogue.step lorahamRadio env d ⟨now, .call call⟩).server.1.session =
      s.onCall env now call := by
    simp [Dialogue.step, Dialogue.serve, XrConnection.step, hd.session]
  refine ⟨hsession, hd.client, hd.toServer, ?_⟩
  simp only [Dialogue.step, Dialogue.serve] at hsession ⊢
  rw [hsession, XrSession.onCall_drained env now call hflight, hd.session, List.drop_length,
    List.append_nil]
  exact hd.toClient

theorem calls (h : Joined env s p) (now : Nat) (calls : List (Nat × SinkCall)) :
    Joined env (s.runCalls env now calls) p := by
  induction calls generalizing s with
  | nil => exact h
  | cons c calls ih =>
      rw [XrSession.runCalls, List.foldl_cons]
      split
      · exact ih (h.call now c.2)
      · exact ih h

/-- A flush keeps them joined: what the socket takes is on its way to the client. -/
theorem flush (h : Joined env s p) (err : Bool) (answers : List SendAnswer) :
    Joined env (XrConnection.flush ⟨s, err⟩ answers).session
      (p.transmit ((XrConnection.flush ⟨s, err⟩ answers).session.drained.drop s.drained.length)) := by
  refine h.next {} ⟨0, .flush answers⟩ fun d hd hb => ?_
  have hsession : (d.server.1.flush answers).session =
      (XrConnection.flush ⟨s, err⟩ answers).session := by
    rw [← hd.session]
    exact XrConnection.flush_session answers rfl
  refine ⟨hsession, hd.client, hd.toServer, ?_⟩
  simp only [Dialogue.step, Dialogue.serve, XrConnection.step, hsession, hd.session, hd.toClient]
  rfl

/-- The client goes on. -/
theorem act (h : Joined env s p) (action : Peer.Action) : Joined env s (p.act env action) := by
  cases action with
  | receive n =>
      refine h.next {} ⟨0, .receive n⟩ fun d hd hb => ⟨hd.session, ?_, ?_, ?_⟩ <;>
        simp [Dialogue.step, Dialogue.withClient, Peer.act, Peer.withFirmware, hd.client,
          hd.toServer, hd.toClient]
  | submit payload =>
      refine h.next {} ⟨0, .submit payload⟩ fun d hd hb => ⟨hd.session, ?_, ?_, ?_⟩ <;>
        simp [Dialogue.step, Dialogue.withClient, Peer.act, Peer.withFirmware, hd.client,
          hd.toServer, hd.toClient]
  | timeout kind =>
      refine h.next {} ⟨0, .timeout kind⟩ fun d hd hb => ⟨hd.session, ?_, ?_, ?_⟩ <;>
        simp [Dialogue.step, Dialogue.withClient, Peer.act, Peer.withFirmware, hd.client,
          hd.toServer, hd.toClient]

end Joined

/-! ## Every client of a run -/

namespace System

variable {env : BridgeEnv} {sys : System}

/-- Every session has its client. -/
structure Paired (env : XrEnv) (sys : System) : Prop where
  length : sys.peers.length = sys.server.sessions.length
  joined : ∀ (k : Nat) s p, sys.server.sessions[k]? = some s → sys.peers[k]? = some p → Joined env s p

/-- An action of a client keeps all pairs. -/
theorem Paired.client (h : Paired env.toXrEnv sys) (k : Nat) (action : Peer.Action) :
    Paired env.toXrEnv
      { sys with peers := sys.peers.modify k (Peer.act env.toXrEnv action) } where
  length := by rw [List.length_modify]; exact h.length
  joined j s p hs hp := by
    rw [List.getElem?_modify] at hp
    obtain ⟨q, hq, rfl⟩ := Option.map_eq_some_iff.mp hp
    split
    · exact (h.joined j s q hs hq).act action
    · exact h.joined j s q hs hq

/-- The present session and its client have gone on together. -/
theorem Paired.present {sv : XrServer} (h : Paired env.toXrEnv sys) {c c' : XrConnection}
    {f : Peer → Peer} (hconn : sys.server.conn = some c) (hpast : sv.past = sys.server.past)
    (hconn' : sv.conn = some c')
    (hjoined : ∀ p, sys.peers[sys.server.past.length]? = some p →
      Joined env.toXrEnv c.session p → Joined env.toXrEnv c'.session (f p)) :
    Paired env.toXrEnv ⟨sv, sys.peers.modify sys.server.past.length f⟩ where
  length := by
    have hlength := h.length
    simpa [XrServer.sessions, hconn, hconn', hpast] using hlength
  joined k s p hs hp := by
    have hall := h.joined k
    simp only [XrServer.sessions, hconn, hconn', hpast, Option.map_some, Option.toList_some,
      List.getElem?_append] at hs hall
    rw [List.getElem?_modify] at hp
    obtain ⟨q, hq, rfl⟩ := Option.map_eq_some_iff.mp hp
    by_cases hk : k < sys.server.past.length
    · simp only [hk, if_true] at hs hall
      rw [if_neg (by omega)]
      exact hall s q hs hq
    · simp only [hk, if_false] at hs hall
      rw [List.getElem?_singleton] at hs hall
      split at hs <;> rename_i hlast
      · obtain rfl : k = sys.server.past.length := by omega
        obtain rfl := Option.some.inj hs
        rw [if_pos rfl]
        exact hjoined q hq (hall c.session q (by simp) hq)
      · cases hs

/-- A server with the same sessions keeps all pairs. -/
theorem Paired.same {sv : XrServer} (h : Paired env.toXrEnv sys)
    (hsessions : sv.sessions = sys.server.sessions) : Paired env.toXrEnv ⟨sv, sys.peers⟩ where
  length := by simpa [hsessions] using h.length
  joined := by simpa [hsessions] using h.joined

/-- The end of a connection moves its session to the past. -/
theorem sessions_teardown (sv : XrServer) : sv.teardown.sessions = sv.sessions := by
  unfold XrServer.teardown
  cases hconn : sv.conn with
  | none => rfl
  | some c => simp [XrServer.sessions, hconn]

/-- A new client, if there is none. -/
theorem Paired.connect (h : Paired env.toXrEnv sys) (elapsed : Nat) (transport : DaemonTransport)
    (cfg : RadioConfig) (entropy : Option Nonce) :
    Paired env.toXrEnv (step env sys (.server elapsed transport (.connect cfg entropy))) := by
  have hwait : (sys.server.wait elapsed transport).conn = sys.server.conn := rfl
  simp only [step, serverPeers, serverAction, XrServer.step, XrServer.act, XrServer.accept, hwait]
  cases hconn : sys.server.conn with
  | some c => exact h.same rfl
  | none =>
      have hidle : sys.server.sessions = sys.server.past := by simp [XrServer.sessions, hconn]
      have hlength : sys.peers.length = sys.server.past.length := hidle ▸ h.length
      refine ⟨by simp [XrServer.sessions, hlength, XrServer.wait], ?_⟩
      intro k s p hs hp
      change (sys.server.past ++ [_])[k]? = some s at hs
      change (sys.peers ++ [_])[k]? = some p at hp
      rw [List.getElem?_append] at hs hp
      rw [hlength] at hp
      split at hs <;> rename_i hk
      · rw [if_pos hk] at hp
        exact h.joined k s p (hidle ▸ hs) hp
      · rw [if_neg hk] at hp
        rw [List.getElem?_singleton] at hs hp
        split at hs <;> rename_i hlast
        · rw [if_pos hlast] at hp
          obtain rfl := Option.some.inj hs
          obtain rfl := Option.some.inj hp
          exact Joined.connected cfg ⟨_, _, entropy, sys.server.backend⟩
        · cases hs

/-- Without a connection nothing is sent or delivered. -/
theorem Paired.idle (h : Paired env.toXrEnv sys) (hconn : sys.server.conn = none) {sv : XrServer}
    (hsessions : sv.sessions = sys.server.past) (f : Peer → Peer) :
    Paired env.toXrEnv ⟨sv, sys.peers.modify sys.server.past.length f⟩ := by
  have hidle : sys.server.sessions = sys.server.past := by simp [XrServer.sessions, hconn]
  have hpeers : sys.peers.modify sys.server.past.length f = sys.peers := by
    rw [List.modify_eq_self]
    rw [h.length, hidle]
  rw [hpeers]
  exact h.same (hsessions.trans hidle.symm)

/-- The present client's bytes arrive. -/
theorem Paired.deliver (h : Paired env.toXrEnv sys) (elapsed : Nat) (transport : DaemonTransport)
    (n : Nat) : Paired env.toXrEnv (step env sys (.server elapsed transport (.deliver n))) := by
  have hwait : (sys.server.wait elapsed transport).conn = sys.server.conn := rfl
  simp only [step, serverPeers, serverAction, XrServer.step, XrServer.act, XrServer.feed, hwait]
  cases hconn : sys.server.conn with
  | none => exact h.idle hconn (by simp [XrServer.sessions, hconn, XrServer.wait]) _
  | some c =>
      refine h.present (f := fun p => { p with toServer := p.toServer.drop n }) hconn rfl rfl ?_
      intro p hp hjoined
      have hinbound : sys.inbound = p.toServer := by simp [inbound, hp]
      rw [hinbound]
      exact hjoined.feed _ n _

/-- The socket takes output of the present session. -/
theorem Paired.flush (h : Paired env.toXrEnv sys) (elapsed : Nat) (transport : DaemonTransport)
    (answers : List SendAnswer) :
    Paired env.toXrEnv (step env sys (.server elapsed transport (.flush answers))) := by
  have hwait : (sys.server.wait elapsed transport).conn = sys.server.conn := rfl
  simp only [step, serverPeers, serverAction, XrServer.step, XrServer.act, XrServer.flush, hwait]
  cases hconn : sys.server.conn with
  | none => exact h.idle hconn (by simp [XrServer.sessions, XrServer.wait]) _
  | some c =>
      refine h.present (f := fun p => p.transmit _) hconn rfl rfl fun p hp hjoined => ?_
      rw [outbound, outbound, hconn]
      exact hjoined.flush c.socketError answers

/-- What the present session does on its own. -/
theorem Paired.session (h : Paired env.toXrEnv sys) (elapsed : Nat) (transport : DaemonTransport)
    (action : XrServer.Action)
    (hnone : ∀ sv, sv.conn = none → (XrServer.act env action sv).sessions = sv.past)
    (hsome : ∀ sv c, sv.conn = some c → (XrServer.act env action sv).past = sv.past ∧
      ∃ c', (XrServer.act env action sv).conn = some c' ∧
        ∀ p, Joined env.toXrEnv c.session p → Joined env.toXrEnv c'.session p) :
    Paired env.toXrEnv ⟨XrServer.step env sys.server ⟨elapsed, transport, action⟩, sys.peers⟩ := by
  have hpeers : sys.peers = sys.peers.modify sys.server.past.length id := by simp
  rw [hpeers]
  cases hconn : sys.server.conn with
  | none => exact h.idle hconn (hnone (sys.server.wait elapsed transport) hconn) id
  | some c =>
      obtain ⟨hpast, c', hconn', hjoined⟩ := hsome (sys.server.wait elapsed transport) c hconn
      exact h.present hconn hpast hconn' fun p _ => hjoined p

/-- Every operation keeps the clients with their sessions. -/
theorem Paired.step (h : Paired env.toXrEnv sys) (op : Op) :
    Paired env.toXrEnv (System.step env sys op) := by
  cases op with
  | client k action => exact h.client k action
  | server elapsed transport action =>
      cases action with
      | connect cfg entropy => exact h.connect elapsed transport cfg entropy
      | deliver n => exact h.deliver elapsed transport n
      | flush answers => exact h.flush elapsed transport answers
      | socketFailed =>
          refine h.session elapsed transport .socketFailed (fun sv hconn => ?_) fun sv c hconn =>
            ⟨rfl, { c with socketError := true }, ?_, fun _ hjoined => hjoined⟩ <;>
          simp [XrServer.act, XrServer.socketFailed, XrServer.sessions, hconn]
      | poll =>
          refine h.session elapsed transport .poll (fun sv hconn => ?_) fun sv c hconn =>
            ⟨rfl,
              { c with
                session := c.session.runCalls env.toXrEnv sv.backend.now sv.backend.poll.calls },
              ?_, fun _ hjoined => hjoined.calls _ _⟩ <;>
          simp [XrServer.act, XrServer.poll, XrServer.sessions, hconn]
      | tick =>
          refine h.session elapsed transport .tick (fun sv hconn => ?_) fun sv c hconn =>
            ⟨?_, { c with session := _ }, ?_, fun _ hjoined =>
              hjoined.tick sv.backend.now sv.backend⟩ <;>
          simp [XrServer.act, XrServer.tick, XrServer.sessions, hconn]
      | teardown => exact h.same (sessions_teardown (sys.server.wait elapsed transport))
      | dropConnectionIfFinished =>
          refine h.same ?_
          simp only [XrServer.step, XrServer.act, serverAction, XrServer.dropConnectionIfFinished]
          split
          · exact sessions_teardown (sys.server.wait elapsed transport)
          · rfl

variable (env) in
/-- In every run each client and its session hold a dialogue. -/
theorem run_joined (ops : List Op) : Paired env.toXrEnv (run env ops) := by
  induction ops using List.reverseRecOn with
  | nil => exact ⟨rfl, by simp [run, initial]⟩
  | append_singleton ops op ih =>
      rw [run_append_singleton]
      exact ih.step op

end System

end LorahamBridge
