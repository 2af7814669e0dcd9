import LorahamBridge.Xr.Server

/-!
# Runs of a connection

A connection by itself, with any backend behind it: client bytes, ticks, callbacks
and flushes in any order and at any times, while the backend goes on in ways of its
own in between.  Every session of the server has such a run.

Main results:

- Theorem `SessionInvariant.run`: what the outcomes of `SessionSteps` keep holds
  after every run.
- Theorem `XrConnection.run_drained`: what is recorded as sent is what the answers of the
  `send` calls have accepted.
-/

namespace LorahamBridge

open Foundation Extradio

namespace XrConnection

/-- What happens to a connection. -/
inductive Action (β : Type) where
  | feed (data : Bytes)
  | tick
  | call (call : SinkCall)
  | flush (answers : List SendAnswer)
  | backend (next : β → β)

/-- What happens, and when. -/
structure Op (β : Type) where
  now : Nat
  action : Action β

/-- How a connection begins. -/
structure Opening (β : Type) where
  now : Nat
  id : Nat
  entropy : Option Nonce
  backend : β

variable {β : Type} (R : RadioBackend β) (env : XrEnv)

/-- A connection that has just been accepted. -/
def opened (o : Opening β) : XrConnection × β :=
  match (XrSession.new env o.id o.entropy).openSession R env o.now o.backend with
  | (s, b) => (⟨s, false⟩, b)

/-- One operation on a connection and the backend. -/
def step (p : XrConnection × β) (op : Op β) : XrConnection × β :=
  match op.action with
  | .feed data =>
      match p.1.session.feed R env op.now data p.2 with
      | (s, b) => ({ p.1 with session := s }, b)
  | .tick =>
      match p.1.session.tick R env op.now p.2 with
      | (s, b) => ({ p.1 with session := s }, b)
  | .call call => ({ p.1 with session := p.1.session.onCall env op.now call }, p.2)
  | .flush answers => (p.1.flush answers, p.2)
  | .backend next => (p.1, next p.2)

/-- The connection after a run of operations. -/
def run (o : Opening β) (ops : List (Op β)) : XrConnection × β :=
  ops.foldl (step R env) (opened R env o)

theorem run_append_singleton (o : Opening β) (ops : List (Op β)) (op : Op β) :
    run R env o (ops ++ [op]) = step R env (run R env o ops) op := by
  simp [run]

end XrConnection

/-- A property of sessions that every outcome keeps at the times in `T`. -/
structure SessionInvariant {β : Type} (R : RadioBackend β) (env : XrEnv) (T : Nat → Prop)
    (P : XrSession → Prop) : Prop where
  opened : ∀ {now} id entropy b, T now →
    P ((XrSession.new env id entropy).openSession R env now b).1
  parser : ∀ {s} buf, P s → P (s.withParser buf)
  frame : ∀ {now f s s' b b'}, T now → P s → s.phase ≠ .closed →
    XrSession.FrameOutcome R env now f s b (s', b') → P s'
  parserError : ∀ {s}, P s → s.phase ≠ .closed → P (s.shut .parserError)
  tick : ∀ {now s s' b b'}, T now → P s → XrSession.TickOutcome R env now s b (s', b') → P s'
  call : ∀ {now s s' call}, T now → P s → XrSession.CallOutcome env now s call s' → P s'
  consume : ∀ {s} n, P s → P (s.sendSome n)

namespace SessionInvariant

variable {β : Type} {R : RadioBackend β} {env : XrEnv} {T : Nat → Prop} {P : XrSession → Prop}

/-- Feeding bytes keeps the invariant: frame by frame, and on a parse error. -/
theorem feed (I : SessionInvariant R env T P) {now : Nat} (hnow : T now) (data : Bytes)
    {s : XrSession} (b : β) (h : P s) : P (s.feed R env now data b).1 :=
  XrSession.feed_rule (fun s _ => P s) (fun _ _ buf h => I.parser buf h)
    (fun f _ b h hopen => I.frame hnow h hopen (XrSession.handleFrame_cases R env now f b hopen))
    (fun _ _ h hopen => I.parserError h hopen) data s b h

/-- A flush keeps the invariant. -/
theorem flush (I : SessionInvariant R env T P) (answers : List SendAnswer) {c : XrConnection}
    (h : P c.session) : P (c.flush answers).session :=
  XrConnection.flush_rule (fun _ n hs => I.consume n hs) answers h

/-- A transmission in flight belongs to a ready session. -/
theorem inFlight (R : RadioBackend β) (env : XrEnv) :
    SessionInvariant R env (fun _ => True) fun s => s.txInFlight = true → s.phase = .ready where
  opened _ _ _ _ := by simp [XrSession.openSession, XrSession.arm]
  parser _ h := h
  frame _ h _ hout := by
    cases hout with
    | submitted _ hphase => exact fun _ => hphase
    | ponged => exact h
    | challenged _ _ hphase | helloOpen _ hphase | authenticated _ hphase
    | configStarted _ _ _ hphase =>
        intro hflight
        exact absurd (h hflight) (by simp [hphase])
    | _ => simp [XrSession.shut]
  parserError _ _ := by simp [XrSession.shut]
  tick _ h hout := by
    cases hout with
    | quiet => exact h
    | pinged => exact h
    | _ => simp [XrSession.shut]
  call _ h hout := by
    cases hout with
    | ignored => exact h
    | forwarded => exact h
    | completed | configured => simp [XrSession.enterReady]
    | _ => simp [XrSession.shut]
  consume _ h := h

/-- An invariant holds after every run at such times. -/
theorem run (I : SessionInvariant R env T P) (o : XrConnection.Opening β)
    (ops : List (XrConnection.Op β)) (hopening : T o.now) (hops : ∀ op ∈ ops, T op.now) :
    P (XrConnection.run R env o ops).1.session := by
  suffices h : P (XrConnection.run R env o ops).1.session ∧
      ((XrConnection.run R env o ops).1.session.txInFlight = true →
        (XrConnection.run R env o ops).1.session.phase = .ready) from h.1
  -- the second part lets a callback be split into its outcomes
  induction ops using List.reverseRecOn with
  | nil => exact ⟨I.opened _ _ o.backend hopening, (inFlight R env).opened _ _ o.backend trivial⟩
  | append_singleton ops op ih =>
      have hnow : T op.now := hops op (by simp)
      obtain ⟨hP, hflight⟩ := ih fun op hop => hops op (List.mem_append_left _ hop)
      rw [XrConnection.run_append_singleton]
      unfold XrConnection.step
      split
      · exact ⟨I.feed hnow _ _ hP, (inFlight R env).feed trivial _ _ hflight⟩
      · have hcases := XrSession.tick_cases R env op.now
          (XrConnection.run R env o ops).1.session (XrConnection.run R env o ops).2
        exact ⟨I.tick hnow hP hcases, (inFlight R env).tick trivial hflight hcases⟩
      · rename_i call _
        have hcases := XrSession.onCall_cases env op.now call hflight
        exact ⟨I.call hnow hP hcases, (inFlight R env).call trivial hflight hcases⟩
      · exact ⟨I.flush _ hP, (inFlight R env).flush _ hflight⟩
      · exact ⟨hP, hflight⟩

end SessionInvariant

/-! ## What is sent -/

namespace XrSession

variable {β : Type} (R : RadioBackend β) (env : XrEnv) (now : Nat)

/-- Feeding bytes writes nothing. -/
theorem feed_drained (data : Bytes) (s : XrSession) (b : β) :
    (s.feed R env now data b).1.drained = s.drained :=
  feed_rule (R := R) (fun s' (_ : β) => s'.drained = s.drained) (fun _ _ _ h => h)
    (fun f s' b' h hopen => by
      have hout := handleFrame_cases R env now f b' hopen
      generalize handleFrame R env now f s' b' = r at hout
      cases hout <;> exact h)
    (fun _ _ h _ => h) data s b rfl

theorem tick_drained (s : XrSession) (b : β) : (s.tick R env now b).1.drained = s.drained := by
  have hout := tick_cases R env now s b
  generalize s.tick R env now b = r at hout
  cases hout <;> rfl

theorem onCall_drained {s : XrSession} (call : SinkCall)
    (hflight : s.txInFlight = true → s.phase = .ready) :
    (s.onCall env now call).drained = s.drained := by
  have hout := onCall_cases env now call hflight
  generalize s.onCall env now call = s' at hout
  cases hout <;> rfl

end XrSession

namespace XrConnection

/-- The bytes a socket accepts of a queue whose rest is offered again and again: as many as
each answer says, until one says none or fails. -/
def takenBy : List SendAnswer → Bytes → Bytes
  | .took n :: answers, queued =>
      if n = 0 then [] else queued.take n ++ takenBy answers (queued.drop n)
  | _, _ => []

/-- Of an empty queue nothing is accepted. -/
theorem takenBy_nil (answers : List SendAnswer) : takenBy answers [] = [] := by
  induction answers with
  | nil => rfl
  | cons answer answers ih =>
      cases answer with
      | failed => rfl
      | took n => simp [takenBy, ih]

/-- A flush sends what the answers accept of the queue. -/
theorem flush_drained (answers : List SendAnswer) (c : XrConnection) :
    (c.flush answers).session.drained =
      c.session.drained ++ takenBy answers c.session.outbox.data := by
  induction answers generalizing c with
  | nil => simp [flush, takenBy]
  | cons answer answers ih =>
      unfold flush
      split
      · rename_i hempty
        have hnil : c.session.outbox.data = [] := by
          rw [← List.length_eq_zero_iff, BoundedBuffer.length_data, hempty]
        rw [hnil, takenBy_nil, List.append_nil]
      · cases answer with
        | failed => simp [takenBy]
        | took n =>
            simp only
            by_cases hn : n = 0
            · simp [hn, takenBy]
            · have hrest : c.session.outbox.data.drop (c.session.outbox.data.take n).length =
                  c.session.outbox.data.drop n := by
                rw [List.length_take]
                exact (List.drop_eq_drop_min ..).symm
              rw [if_neg hn, ih, takenBy, if_neg hn]
              simp only [XrSession.sendSome, XrSession.accepted, XrSession.outConsume,
                BoundedBuffer.data_consume, hrest, List.append_assoc]

variable {β : Type} (R : RadioBackend β) (env : XrEnv)

/-- What the `send` calls of one operation accept. -/
def sentIn (p : XrConnection × β) (op : Op β) : Bytes :=
  match op.action with
  | .flush answers => takenBy answers p.1.session.outbox.data
  | _ => []

/-- What all `send` calls of a run accept. -/
def sent (o : Opening β) (ops : List (Op β)) : Bytes :=
  (ops.foldl (fun q op => (q.1 ++ sentIn q.2 op, step R env q.2 op)) ([], opened R env o)).1

/-- The bytes of a run are collected operation by operation. -/
theorem sent_append_singleton (o : Opening β) (ops : List (Op β)) (op : Op β) :
    sent R env o (ops ++ [op]) = sent R env o ops ++ sentIn (run R env o ops) op := by
  have hrun : (ops.foldl (fun q op => (q.1 ++ sentIn q.2 op, step R env q.2 op))
      ([], opened R env o)).2 = run R env o ops := by
    induction ops using List.reverseRecOn with
    | nil => rfl
    | append_singleton ops op ih =>
        rw [List.foldl_append, List.foldl_cons, ih, run_append_singleton]
        rfl
  rw [sent, List.foldl_append, List.foldl_cons, hrun]
  rfl

/-- The history variable is what the `send` calls have accepted. -/
theorem run_drained (o : Opening β) (ops : List (Op β)) :
    (run R env o ops).1.session.drained = sent R env o ops := by
  induction ops using List.reverseRecOn with
  | nil => rfl
  | append_singleton ops op ih =>
      have hflight := (SessionInvariant.inFlight R env).run o ops trivial fun _ _ => trivial
      rw [run_append_singleton, sent_append_singleton, ← ih]
      unfold step sentIn
      cases op.action with
      | feed data => simp [XrSession.feed_drained]
      | tick => simp [XrSession.tick_drained]
      | call call => simp [XrSession.onCall_drained env op.now call hflight]
      | flush answers => exact flush_drained answers _
      | backend next => simp

end XrConnection

end LorahamBridge
