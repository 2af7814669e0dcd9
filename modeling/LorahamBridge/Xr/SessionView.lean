import LorahamBridge.Xr.SessionSteps

/-!
# What a session has to do with its radio link

The history of a session, cut down to the events that concern the daemon link it
opened: the configurations and transmissions its client asked for, and the grants,
packets and results it sent back.

Main results:

- Theorem `view_eq`: the view lists the frames of the history by their type.
- The `view_*` lemmas: what each update of a session means for the view.
-/

namespace LorahamBridge

open Foundation Extradio

/-- The part of a session's history that concerns its radio link. -/
structure SessionView where
  /-- Payloads of the `CONFIGURE` frames received. -/
  configures : List Bytes
  /-- Payloads of the `TX_REQUEST` frames received. -/
  requests : List Bytes
  /-- Requests the backend accepted. -/
  accepted : List (UInt16 × Bytes)
  /-- `CONFIG_RESULT` frames with `CFG_OK` sent. -/
  grants : List Frame
  /-- `RX_PACKET` frames sent. -/
  rxs : List Frame
  /-- `TX_RESULT` frames sent. -/
  results : List Frame
deriving DecidableEq

/-- A `CONFIG_RESULT` with `CFG_OK`. -/
def isGrant (f : Frame) : Bool :=
  f.type == .configResult && f.payload.head? == some cfgOk

namespace SessionView

/-- The view of a session without a history. -/
def empty : SessionView :=
  ⟨[], [], [], [], [], []⟩

/-- What a received frame adds: a requested configuration or a requested packet. -/
def receive (f : Frame) (v : SessionView) : SessionView :=
  match f.type with
  | .configure => { v with configures := v.configures ++ [f.payload] }
  | .txRequest => { v with requests := v.requests ++ [f.payload] }
  | _ => v

/-- What an emitted frame adds: a granted configuration, a packet or a result. -/
def send (f : Frame) (v : SessionView) : SessionView :=
  match f.type with
  | .configResult =>
      if isGrant f then { v with grants := v.grants ++ [f] } else v
  | .rxPacket => { v with rxs := v.rxs ++ [f] }
  | .txResult => { v with results := v.results ++ [f] }
  | _ => v

/-- What an event of the history adds. -/
def step (v : SessionView) : SessionEvent → SessionView
  | .received f => v.receive f
  | .emitted f => v.send f
  | .submitCalled seq payload true => { v with accepted := v.accepted ++ [(seq, payload)] }
  | _ => v

/-- The same field by field, without cases. -/
theorem receive_eq (f : Frame) (v : SessionView) :
    v.receive f =
      { v with
        configures := v.configures ++ if f.type = .configure then [f.payload] else []
        requests := v.requests ++ if f.type = .txRequest then [f.payload] else [] } := by
  unfold receive
  split <;> simp_all

/-- The same field by field, without cases. -/
theorem send_eq (f : Frame) (v : SessionView) :
    v.send f =
      { v with
        grants := v.grants ++ if isGrant f then [f] else []
        rxs := v.rxs ++ if f.type = .rxPacket then [f] else []
        results := v.results ++ if f.type = .txResult then [f] else [] } := by
  unfold send
  split
  · split <;> simp_all
  · simp_all [isGrant]
  · simp_all [isGrant]
  · simp_all [isGrant]

/-- The session has sent nothing that depends on a radio link. -/
def Blank (v : SessionView) : Prop :=
  v.accepted = [] ∧ v.grants = [] ∧ v.rxs = [] ∧ v.results = []

end SessionView

/-! ## The view of a history -/

/-- The view of a session's history. -/
def view (log : List SessionEvent) : SessionView :=
  log.foldl SessionView.step SessionView.empty

theorem view_append (log events : List SessionEvent) :
    view (log ++ events) = events.foldl SessionView.step (view log) :=
  List.foldl_append

@[simp]
theorem view_append_singleton (log : List SessionEvent) (e : SessionEvent) :
    view (log ++ [e]) = (view log).step e := by
  simp [view_append]

/-- The frames a session received, in order. -/
def receivedFrames (log : List SessionEvent) : List Frame :=
  log.filterMap fun
    | .received f => some f
    | _ => none

/-- The frames a session sent, in order. -/
def emittedFrames (log : List SessionEvent) : List Frame :=
  log.filterMap fun
    | .emitted f => some f
    | _ => none

/-- The transmissions a session handed over, in order. -/
def acceptedRequests (log : List SessionEvent) : List (UInt16 × Bytes) :=
  log.filterMap fun
    | .submitCalled seq payload true => some (seq, payload)
    | _ => none

theorem receivedFrames_append (log events : List SessionEvent) :
    receivedFrames (log ++ events) = receivedFrames log ++ receivedFrames events :=
  List.filterMap_append

theorem emittedFrames_append (log events : List SessionEvent) :
    emittedFrames (log ++ events) = emittedFrames log ++ emittedFrames events :=
  List.filterMap_append

@[simp]
theorem emittedFrames_emitted (frames : List Frame) :
    emittedFrames (frames.map SessionEvent.emitted) = frames := by
  simp [emittedFrames, List.filterMap_map]

/-- The view lists the frames of the history by their type. -/
theorem view_eq (log : List SessionEvent) :
    view log =
      { configures := ((receivedFrames log).filter (·.type == .configure)).map Frame.payload
        requests := ((receivedFrames log).filter (·.type == .txRequest)).map Frame.payload
        accepted := acceptedRequests log
        grants := (emittedFrames log).filter isGrant
        rxs := (emittedFrames log).filter (·.type == .rxPacket)
        results := (emittedFrames log).filter (·.type == .txResult) } := by
  induction log using List.reverseRecOn with
  | nil => rfl
  | append_singleton log e ih =>
      rw [view_append_singleton, ih]
      cases e with
      | received f =>
          by_cases h : f.type = .configure <;> by_cases h' : f.type = .txRequest <;>
            simp_all [SessionView.step, SessionView.receive_eq, receivedFrames, emittedFrames,
              acceptedRequests]
      | emitted f =>
          by_cases h : f.type = .rxPacket <;> by_cases h' : f.type = .txResult <;>
            cases h'' : isGrant f <;>
            simp_all [SessionView.step, SessionView.send_eq, receivedFrames, emittedFrames,
              acceptedRequests]
      | submitCalled seq payload accepted =>
          cases accepted <;>
            simp [SessionView.step, receivedFrames, emittedFrames, acceptedRequests]
      | _ => simp [SessionView.step, receivedFrames, emittedFrames, acceptedRequests]

namespace XrSession

/-- Recording an event is a step of the view. -/
@[simp]
theorem view_record (e : SessionEvent) (s : XrSession) :
    view (s.record e).log = (view s.log).step e := by
  simp [record]

/-- Closing a session shows nothing new. -/
@[simp]
theorem view_shut (reason : CloseReason) (s : XrSession) :
    view (s.shut reason).log = view s.log := by
  simp [shut, SessionView.step]

/-- Queued frames show as if they were sent one by one. -/
@[simp]
theorem view_queue (outbox : BoundedBuffer) (frames : List Frame) (s : XrSession) :
    view (s.queue outbox frames).log =
      frames.foldl (fun v f => v.send f) (view s.log) := by
  simp [queue, view_append, List.foldl_map, SessionView.step]

/-- The view after a received frame that is none of the two requests. -/
theorem receive_of_type {f : Frame} (v : SessionView) (hconfigure : f.type ≠ .configure)
    (hrequest : f.type ≠ .txRequest) : v.receive f = v := by
  unfold SessionView.receive
  split <;> simp_all

/-! ## Histories grow -/

section History

variable {β : Type} {R : RadioBackend β} {env : XrEnv} {now : Nat} {s s' : XrSession} {b b' : β}

/-- Handling a frame only adds to the history. -/
theorem FrameOutcome.log_append {f : Frame} (h : FrameOutcome R env now f s b (s', b')) :
    s.log <+: s'.log := by
  cases h <;> simp [shut, queue, record, arm, acceptPong]

/-- A tick only adds to the history. -/
theorem TickOutcome.log_append (h : TickOutcome R env now s b (s', b')) : s.log <+: s'.log := by
  cases h <;> simp [shut, queue, record]

/-- A callback only adds to the history. -/
theorem CallOutcome.log_append {call : SinkCall} (h : CallOutcome env now s call s') :
    s.log <+: s'.log := by
  cases h <;> simp [shut, queue, record, enterReady]

end History

end XrSession

end LorahamBridge
