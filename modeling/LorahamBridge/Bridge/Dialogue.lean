import LorahamBridge.Wire.ClientSession
import LorahamBridge.Xr.Fragmentation
import LorahamBridge.Xr.Results

/-!
# A bridge session and its client

The firmware's end of a connection: the client session, the streaming parser in front
of it, and a transport that does what the session's events ask for and nothing else.
The two ends are joined by a byte channel in each direction, and whatever happens
next is any party's choice: bytes arrive in pieces of any size, the server's clock
ticks, its backend calls back, the socket takes some of its output, the client
submits a transmission or gives up waiting.

`sent`, `heard`, `submissions` and `recorded` are history variables of the client.

Main results:

- Theorem `receive_parse`: one read as a fold over its parsed frames.
- Theorem `Dialogue.run_server`: the server's side is a run of a connection.
-/

namespace LorahamBridge

open Foundation Extradio

/-! ## The firmware's end -/

/-- A packet the firmware may transmit. -/
structure TxPayload where
  bytes : Bytes
  nonempty : bytes ≠ []
  fits : bytes.length ≤ kMaxLoraPayload

/-- The client: its session, the bytes not yet parsed, and as history variables the frames it
has sent and handled, its submissions and the outcomes it has recorded. -/
structure Firmware where
  session : Session
  parser : Bytes
  sent : List Frame
  heard : List Frame
  submissions : List (UInt16 × Bytes)
  recorded : List (UInt16 × Session.TxOutcome)

namespace Firmware

/-- The client sends a frame. -/
def send (f : Frame) (k : Firmware) : Firmware :=
  { k with sent := k.sent ++ [f] }

/-- The client with other unparsed bytes. -/
def withParser (buf : Bytes) (k : Firmware) : Firmware :=
  { k with parser := buf }

section Transport

variable (env : XrEnv)

/-- What the transport does about an event.  It knows the server's password; without a
digest there is nothing to answer a challenge with. -/
def act (event : Session.Event) (k : Firmware) : Firmware :=
  match event with
  | .sendHello => k.send ⟨.hello, 0, [kVersion]⟩
  | .sendAuth =>
      match hmacSha256 env.hmac env.auth.password k.session.nonce with
      | none => k
      | some response => k.send ⟨.authResponse, 0, response⟩
  | .sendConfig => k.send ⟨.configure, 0, packConfig k.session.cfg⟩
  | .sendPong => k.send ⟨.pong, 0, []⟩
  | .txDone =>
      { k with recorded := k.recorded ++ [(k.session.txSeq, k.session.lastTxOutcome)] }
  | .none | .ready | .rx | .needDisconnect => k

/-- A client that has just connected, with the configuration it wants. -/
def connected (cfg : RadioConfig) : Firmware :=
  let r := (Session.new.setDesiredConfig cfg).2.onConnected
  act env r.1
    { session := r.2
      parser := []
      sent := []
      heard := []
      submissions := []
      recorded := [] }

/-- The client handles a frame and acts on the event its session reports. -/
def handle (f : Frame) (k : Firmware) : Firmware :=
  let r := k.session.onFrame f
  act env r.1 { k with session := r.2, heard := k.heard ++ [f] }

/-- Feed received bytes until the read is used up or the session has failed. -/
def receive (data : Bytes) (k : Firmware) : Firmware :=
  if k.session.state = .degraded then k
  else
    let r := xrFormat.drive (fun f rest k => (k.withParser rest).handle env f)
      (fun k => k.session.state == .degraded) k.parser data k
    match r.exit with
    | .halted => r.state
    | .malformed e => { r.state with session := (r.state.session.fail e).2 }
    | .stuck => { r.state with session := (r.state.session.fail .badLength).2 }
    | .drained => r.state.withParser r.buf

end Transport

/-- Ask for a transmission; the request goes out if the session is ready for it. -/
def submit (payload : TxPayload) (k : Firmware) : Firmware :=
  match k.session.submitTx with
  | (none, session) => { k with session := session }
  | (some seq, session) =>
      send ⟨.txRequest, seq, payload.bytes⟩
        { k with session := session, submissions := k.submissions ++ [(seq, payload.bytes)] }

/-- One of the client's timers expires. -/
def expire (kind : Session.TimeoutKind) (k : Firmware) : Firmware :=
  { k with session := (k.session.onTimeout kind).2 }

/-! ## A read as a fold over its frames -/

section Receive

variable (env : XrEnv)

/-- Handle frames one after the other until the session fails. -/
def handleFrames (frames : List Frame) (k : Firmware) : Firmware :=
  FrameFormat.consume (handle env) (fun k => k.session.state == .degraded) frames k

/-- Acting on an event does not look at the unparsed bytes. -/
theorem act_withParser (event : Session.Event) (buf : Bytes) (k : Firmware) :
    act env event (k.withParser buf) = (act env event k).withParser buf := by
  have hnonce : (k.withParser buf).session = k.session := rfl
  unfold act
  cases event with
  | sendAuth =>
      simp only [hnonce]
      split <;> rfl
  | _ => rfl

theorem handle_withParser (f : Frame) (buf : Bytes) (k : Firmware) :
    (k.withParser buf).handle env f = (k.handle env f).withParser buf :=
  act_withParser env _ buf { k with session := (k.session.onFrame f).2, heard := k.heard ++ [f] }

/-- One read of well-formed bytes handles the frames it completes. -/
theorem receive_parse {data rest : Bytes} {frames : List Frame} {k : Firmware}
    (hlive : k.session.state ≠ .degraded)
    (hparse : xrFormat.parse (k.parser ++ data) = (frames, .pending rest)) :
    (k.receive env data).withParser [] = handleFrames env frames (k.withParser []) ∧
      ((k.receive env data).session.state ≠ .degraded → (k.receive env data).parser = rest) := by
  obtain ⟨hview, hexit⟩ := xrFormat.drive_parse
    (fun f rest (k : Firmware) => (k.withParser rest).handle env f)
    (fun k => k.session.state == .degraded) (handle env) (fun k => k.session.state == .degraded)
    (fun k => k.withParser [])
    (fun f rest k => by
      rw [handle_withParser, handle_withParser]
      rfl)
    (fun _ => rfl) k.parser data k (by simpa using hlive)
  rw [hparse] at hview hexit
  unfold receive handleFrames
  rw [if_neg hlive, ← hview]
  simp only
  generalize xrFormat.drive _ _ k.parser data k = r at hexit
  obtain ⟨exit, buf, k'⟩ := r
  simp only [beq_iff_eq, beq_eq_false_iff_ne] at hexit
  rcases hexit with ⟨rfl, hfailed⟩ | ⟨-, ⟨e, -, hrest⟩ | ⟨rfl, hrest⟩⟩
  · exact ⟨rfl, fun hnot => absurd hfailed hnot⟩
  · cases hrest
  · cases hrest
    exact ⟨rfl, fun _ => rfl⟩

end Receive

end Firmware

/-! ## Both ends -/

/-- A connection of the server, its client, and the bytes on the way between them. -/
structure Dialogue (β : Type) where
  server : XrConnection × β
  client : Firmware
  toServer : Bytes
  toClient : Bytes

namespace Dialogue

/-- What can happen next. -/
inductive Action (β : Type) where
  | deliver (n : Nat)
  | tick
  | call (call : SinkCall)
  | flush (answers : List SendAnswer)
  | backend (next : β → β)
  | receive (n : Nat)
  | submit (payload : TxPayload)
  | timeout (kind : Session.TimeoutKind)

/-- What happens, and when. -/
structure Op (β : Type) where
  now : Nat
  action : Action β

variable {β : Type} (R : RadioBackend β) (env : XrEnv)

/-- An operation of the server; what the socket takes of its output enters the channel. -/
def serve (op : XrConnection.Op β) (d : Dialogue β) : Dialogue β :=
  let server := XrConnection.step R env d.server op
  { d with
    server := server
    toClient := d.toClient ++ server.1.session.drained.drop d.server.1.session.drained.length }

/-- The client as it is now; the frames it has sent meanwhile enter the channel. -/
def withClient (k : Firmware) (d : Dialogue β) : Dialogue β :=
  { d with
    client := k
    toServer := d.toServer ++ (k.sent.drop d.client.sent.length).flatMap frameBytes }

/-- A new connection: the client has sent its first frame. -/
def opened (o : XrConnection.Opening β) (cfg : RadioConfig) : Dialogue β where
  server := XrConnection.opened R env o
  client := Firmware.connected env cfg
  toServer := (Firmware.connected env cfg).sent.flatMap frameBytes
  toClient := []

/-- One step of either side, or of the bytes between them. -/
def step (d : Dialogue β) (op : Op β) : Dialogue β :=
  match op.action with
  | .deliver n =>
      serve R env ⟨op.now, .feed (d.toServer.take n)⟩ { d with toServer := d.toServer.drop n }
  | .tick => serve R env ⟨op.now, .tick⟩ d
  | .call call => serve R env ⟨op.now, .call call⟩ d
  | .flush answers => serve R env ⟨op.now, .flush answers⟩ d
  | .backend next => serve R env ⟨op.now, .backend next⟩ d
  | .receive n =>
      withClient (d.client.receive env (d.toClient.take n))
        { d with toClient := d.toClient.drop n }
  | .submit payload => d.withClient (d.client.submit payload)
  | .timeout kind => d.withClient (d.client.expire kind)

/-- The dialogue after a run of operations. -/
def run (o : XrConnection.Opening β) (cfg : RadioConfig) (ops : List (Op β)) : Dialogue β :=
  ops.foldl (step R env) (opened R env o cfg)

theorem run_append_singleton (o : XrConnection.Opening β) (cfg : RadioConfig)
    (ops : List (Op β)) (op : Op β) :
    run R env o cfg (ops ++ [op]) = step R env (run R env o cfg ops) op := by
  simp [run]

/-- The server's side of a dialogue is a run of a connection. -/
theorem run_server (o : XrConnection.Opening β) (cfg : RadioConfig) (ops : List (Op β)) :
    ∃ serverOps, (run R env o cfg ops).server = XrConnection.run R env o serverOps := by
  induction ops using List.reverseRecOn with
  | nil => exact ⟨[], rfl⟩
  | append_singleton ops op ih =>
      obtain ⟨serverOps, ih⟩ := ih
      have hserve : ∀ (serverOp : XrConnection.Op β) (d : Dialogue β),
          d.server = (run R env o cfg ops).server →
          ∃ serverOps, (serve R env serverOp d).server = XrConnection.run R env o serverOps := by
        intro serverOp d hd
        refine ⟨serverOps ++ [serverOp], ?_⟩
        rw [XrConnection.run_append_singleton, ← ih, ← hd]
        rfl
      rw [run_append_singleton]
      unfold step
      split
      · exact hserve _ _ rfl
      · exact hserve _ _ rfl
      · exact hserve _ _ rfl
      · exact hserve _ _ rfl
      · exact hserve _ _ rfl
      · exact ⟨serverOps, ih⟩
      · exact ⟨serverOps, ih⟩
      · exact ⟨serverOps, ih⟩

end Dialogue

end LorahamBridge
