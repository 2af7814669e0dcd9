import LorahamBridge.Loraham.Link

/-!
# Custody of a packet

What the backend does to a packet, with everything else removed: the DATA
connection is closed or free, a packet is being written, the daemon owns it, or
custody is lost for good.  Each step of this machine is labelled with the events
it adds to the history.

Main results:

- Theorem `Micro.moves`: every step of the backend is a step of this machine.
-/

namespace LorahamBridge

open Foundation Loraham

/-- Who holds the packet of the DATA connection. -/
inductive Custody where
  | closed
  | free
  | writing (frame : Bytes) (off : Nat)
  | owned
  | faulted
deriving DecidableEq

/-- Events that neither open a connection, hand over or write a packet, nor answer
one. -/
def Event.inert : Event → Bool
  | .opened _ _ | .submitted _ | .dataSent _ => false
  | .dispatched f => (LorahamBackend.answer? f).isNone
  | _ => true

/-- The steps of the machine, with the events they add. -/
inductive CustodyStep : Custody → List Event → Custody → Prop
  | stay (c : Custody) (events : List Event) (hinert : ∀ e ∈ events, e.inert = true) :
      CustodyStep c events c
  | unsolicited (c : Custody) (f : Loraham.Frame)
      (hc : c = .free ∨ ∃ frame off, c = .writing frame off) :
      CustodyStep c [.dispatched f] c
  | opened (c : Custody) (owner : Option Nat) (band : Band) (hc : c = .closed ∨ c = .free) :
      CustodyStep c [.opened owner band] .free
  | submit (payload : Bytes) (hpos : 0 < payload.length) (hlen : payload.length ≤ kMaxRfPayload) :
      CustodyStep .free [.submitted payload] (.writing (framedBytes .txPacket payload) 0)
  | write (frame : Bytes) (off n : Nat) (hleft : off + n < frame.length) :
      CustodyStep (.writing frame off) [.dataSent ((frame.drop off).take n)]
        (.writing frame (off + n))
  | finish (frame : Bytes) (off : Nat) (hleft : off < frame.length) :
      CustodyStep (.writing frame off) [.dataSent (frame.drop off)] .owned
  | drop (c : Custody) (events : List Event) (hinert : ∀ e ∈ events, e.inert = true)
      (hclosed : .closed ∈ events) (hc : c ≠ .owned) (hfaulted : c ≠ .faulted) :
      CustodyStep c events .closed
  | resolve (f : Loraham.Frame) (events : List Event) (c : Custody)
      (hanswer : (LorahamBackend.answer? f).isSome = true)
      (hinert : ∀ e ∈ events, e.inert = true) (hc : c = .free ∨ c = .closed) :
      CustodyStep .owned (.dispatched f :: events) c
  | fault (events : List Event) (hinert : ∀ e ∈ events, e.inert = true) :
      CustodyStep .owned events .faulted

namespace LorahamBackend

/-! ## The backend refines the machine -/

/-- The custody a backend state stands for. -/
def custody (b : LorahamBackend) : Custody :=
  match b.state with
  | .disconnected => .closed
  | .connecting | .configuring | .ready => .free
  | .txWriting => .writing b.txOut b.txOutOff
  | .txPending | .draining => .owned
  | .faulted => .faulted

/-- One backend continues another by inert events. -/
def Continues (b b' : LorahamBackend) : Prop :=
  ∃ events, b'.trace = b.trace ++ events ∧ ∀ e ∈ events, e.inert = true

/-- Inert events continue a history. -/
theorem Continues.of_append {b b' : LorahamBackend} (events : List Event)
    (h : b'.trace = b.trace ++ events) (hinert : ∀ e ∈ events, e.inert = true) :
    Continues b b' :=
  ⟨events, h, hinert⟩

/-- A history continues itself. -/
theorem Continues.of_eq {b b' : LorahamBackend} (h : b'.trace = b.trace) : Continues b b' :=
  ⟨[], by simp [h], by simp⟩

theorem Continues.trans {b b' b'' : LorahamBackend} (h : Continues b b')
    (h' : Continues b' b'') : Continues b b'' := by
  obtain ⟨events, heq, hinert⟩ := h
  obtain ⟨events', heq', hinert'⟩ := h'
  refine ⟨events ++ events', by rw [heq', heq, List.append_assoc], ?_⟩
  intro e he
  rcases List.mem_append.mp he with he | he
  · exact hinert e he
  · exact hinert' e he

/-- A callback is inert. -/
theorem continues_notify (call : SinkCall) (b : LorahamBackend) : Continues b (b.notify call) := by
  refine .of_append _ rfl ?_
  intro e he
  simp only [List.mem_map] at he
  obtain ⟨id, -, rfl⟩ := he
  rfl

/-- All that a fault records is inert. -/
theorem continues_enterFault (b : LorahamBackend) : Continues b b.enterFault := by
  have hlog : Continues b (b.logTxOutcome .unconfirmed) := by
    refine .of_append _ rfl ?_
    intro e he
    split at he
    · simp at he
    · simp only [List.mem_singleton] at he
      subst he
      rfl
  exact hlog.trans (.of_append [.closed] rfl (by simp [Event.inert]))

/-- Reading CONF replies is inert. -/
theorem ConfTaken.continues {b c : LorahamBackend} (h : ConfTaken b c) : Continues b c := by
  rcases h with rfl | ⟨chunk, line, rfl⟩
  · exact .of_eq rfl
  · exact .of_append _ rfl (by simp [Event.inert])

/-- The line for an answer is inert. -/
theorem inert_confirmation (f : Loraham.Frame) (b : LorahamBackend) :
    ∀ e ∈ confirmation f b, e.inert = true := by
  unfold confirmation
  split <;> simp [Event.inert]

/-- A step of the machine together with the history it leaves. -/
def Moves (b b' : LorahamBackend) : Prop :=
  ∃ events, b'.trace = b.trace ++ events ∧ CustodyStep b.custody events b'.custody

/-- A step over inert events that leaves custody where it is. -/
theorem Continues.stay {b b' : LorahamBackend} (h : Continues b b')
    (hcustody : b'.custody = b.custody) : Moves b b' := by
  obtain ⟨events, heq, hinert⟩ := h
  exact ⟨events, heq, hcustody ▸ .stay _ events hinert⟩

/-- Closing the link without an owned packet, whatever inert events surround it. -/
theorem Continues.drop {b c b' : LorahamBackend} (h : Continues b c)
    (h' : Continues c.resetLinkUnconfigured b')
    (hstate : b.state ≠ .txPending ∧ b.state ≠ .draining ∧ b.state ≠ .faulted)
    (hdisconnected : b'.state = .disconnected) : Moves b b' := by
  obtain ⟨events, heq, hinert⟩ := h
  obtain ⟨events', heq', hinert'⟩ := h'
  have hcustody : b'.custody = .closed := by simp [custody, hdisconnected]
  refine ⟨events ++ .closed :: events', by rw [heq']; simp [resetLinkUnconfigured, heq], ?_⟩
  rw [hcustody]
  refine .drop _ _ ?_ (by simp) ?_ ?_
  · intro e he
    rcases List.mem_append.mp he with he | he
    · exact hinert e he
    · rcases List.mem_cons.mp he with rfl | he
      · rfl
      · exact hinert' e he
  all_goals
    unfold custody
    split <;> simp_all

/-- A fault over inert events ends the custody. -/
theorem Continues.fault {b b' : LorahamBackend} (h : Continues b b')
    (hstate : b.state = .txPending ∨ b.state = .draining) (hfaulted : b'.state = .faulted) :
    Moves b b' := by
  obtain ⟨events, heq, hinert⟩ := h
  refine ⟨events, heq, ?_⟩
  have hcustody : b'.custody = .faulted := by simp [custody, hfaulted]
  have howned : b.custody = .owned := by
    rcases hstate with hs | hs <;> simp [custody, hs]
  rw [hcustody, howned]
  exact .fault events hinert

/-- A lost link faults with an owned packet and closes without one. -/
theorem moves_lost {b c : LorahamBackend} (hc : ConfTaken b c) (hstate : rxOk b.state = true) :
    Moves b c.handleDisconnect := by
  have hcont := hc.continues
  have hs : c.state = b.state := by rcases hc with rfl | ⟨chunk, line, rfl⟩ <;> rfl
  rcases handleDisconnect_cases c with ⟨hdrain, -⟩ | ⟨hpending, heq⟩ | ⟨hdrain, hpending, heq⟩
  · rw [hs] at hdrain
    simp [hdrain, rxOk] at hstate
  · rw [heq]
    exact (hcont.trans ((continues_enterFault c).trans (continues_notify _ _))).fault
      (Or.inl (hs ▸ hpending)) rfl
  · rw [heq]
    refine hcont.drop (continues_notify _ _)
      ⟨hs ▸ hpending, hs ▸ hdrain, ?_⟩ rfl
    intro hfaulted
    simp [hfaulted, rxOk] at hstate

/-- Every quiet step is a step of the machine. -/
theorem QuietStep.moves {x y : Snapshot} (h : QuietStep x y) : Moves x.1 y.1 := by
  cases h with
  | answers | confWritten | dataPush | dataDrained | discard => exact (Continues.of_eq rfl).stay rfl
  | connected b hstate =>
      refine Continues.stay (.of_eq rfl) ?_
      simp [custody, hstate]
  | confWrite | configQuiet | confQuiet | dataRead | confDiscard =>
      exact (Continues.of_append _ rfl (by simp [Event.inert])).stay rfl
  | dataWrite b n hstate hleft =>
      refine ⟨_, rfl, ?_⟩
      have hlen : ((b.txOut.drop b.txOutOff).take n).length = n := by
        simp only [List.length_take, List.length_drop]
        omega
      have h := CustodyStep.write b.txOut b.txOutOff n hleft
      simpa [custody, sendData_eq, hstate, hlen] using h
  | dataWriteLast b n hstate hleft hlast =>
      refine ⟨_, rfl, ?_⟩
      have hall : (b.txOut.drop b.txOutOff).take n = b.txOut.drop b.txOutOff :=
        List.take_of_length_le (by rw [List.length_drop]; omega)
      have h := CustodyStep.finish b.txOut b.txOutOff hleft
      simpa [custody, sendData_eq, hstate, hall] using h
  | dataIgnored b unread f rest hstate hpop hrx hanswer =>
      refine ⟨_, rfl, ?_⟩
      rcases hanswer with hnone | ⟨hpending, hdrain⟩
      · exact .stay _ _ (by simp [Event.inert, hnone])
      · refine .unsolicited _ f ?_
        simp only [custody]
        split <;> simp_all [onLink, rxOk]
  | dataHeard b unread f rest rx hstate hpop hrx =>
      exact (Continues.of_append _ rfl
        (by simp [Event.inert, answer?_of_decodeRx hrx])).stay rfl
  | dataFenced b unread f rest outcome hstate hpop hanswer =>
      refine ⟨_, rfl, ?_⟩
      have h := CustodyStep.resolve f (confirmation f b) .free (by simp [hanswer])
        (inert_confirmation f b) (Or.inl rfl)
      simpa [custody, hstate] using h
  | dataCleared b unread f rest outcome hstate hpop hanswer =>
      refine ⟨.dispatched f :: (confirmation f b ++ [.closed]), by simp [resetLinkUnconfigured], ?_⟩
      have h := CustodyStep.resolve f (confirmation f b ++ [.closed]) .closed (by simp [hanswer])
        (by
          intro e he
          rcases List.mem_append.mp he with he | he
          · exact inert_confirmation f b e he
          · simp at he
            simp [he, Event.inert])
        (Or.inr rfl)
      simpa [custody, hstate, resetLinkUnconfigured] using h
  | drainLost b _ hstate | drainExpired b hstate =>
      exact (continues_enterFault b).fault (Or.inr hstate) rfl

/-- Every step that calls the session is a step of the machine. -/
theorem CallStep.moves {call : SinkCall} {x y : Snapshot} (h : CallStep call x y) :
    Moves x.1 y.1 := by
  cases h with
  | configSucceed b chunk rest hstate =>
      have hcont : Continues b (b.takeConf chunk rest).configSucceed :=
        (ConfTaken.continues (Or.inr ⟨chunk, rest, rfl⟩)).trans
          ((Continues.of_eq rfl).trans (continues_notify _ _))
      exact hcont.stay (by simp [custody, hstate, LorahamBackend.configSucceed, notify])
  | configFail b c hc hstate =>
      refine hc.continues.drop (continues_notify _ _) ?_ rfl
      rcases hstate with hs | hs <;> simp [hs]
  | lost b c unread hc hstate => exact moves_lost hc hstate
  | received b unread f rest rx hstate hpop hrx =>
      have hcont : Continues b
          { b with parser := rest, trace := b.trace ++ [.dispatched f, .loggedRx rx] } :=
        .of_append _ rfl (by simp [Event.inert, answer?_of_decodeRx hrx])
      exact (hcont.trans (continues_notify _ _)).stay rfl
  | completed b unread f rest outcome hstate hpop hanswer =>
      obtain ⟨events, heq, hinert⟩ := continues_notify (.onTxComplete outcome)
        { b with
          state := .ready
          parser := rest
          txOut := []
          txOutOff := 0
          trace := b.trace ++ (.dispatched f :: confirmation f b) }
      refine ⟨.dispatched f :: (confirmation f b ++ events), by rw [heq]; simp, ?_⟩
      have h := CustodyStep.resolve f (confirmation f b ++ events) .free (by simp [hanswer])
        (by
          intro e he
          rcases List.mem_append.mp he with he | he
          · exact inert_confirmation f b e he
          · exact hinert e he)
        (Or.inl rfl)
      simpa [custody, hstate, notify] using h

/-- Every step of the backend is a step of the machine. -/
theorem Micro.moves {x y : Snapshot} (h : Micro x y) : Moves x.1 y.1 := by
  cases h with
  | poll h =>
      cases h with
      | quiet h => exact h.moves
      | call h => exact h.moves
  | environment | attach => exact (Continues.of_eq rfl).stay rfl
  | openLink b requested band setCmd hstate =>
      refine ⟨_, rfl, .opened _ b.sink band ?_⟩
      rcases hstate with hs | hs <;> simp [custody, hs]
  | connectRefused b band =>
      exact (Continues.of_append _ rfl (by simp [Event.inert])).stay rfl
  | holdTx b data hstate hpos hlen =>
      refine ⟨_, rfl, ?_⟩
      have h := CustodyStep.submit data hpos hlen
      simpa [custody, hstate, LorahamBackend.holdTx] using h
  | abandon b hstate =>
      refine Continues.stay (.of_eq rfl) ?_
      simp [custody, hstate]
  | reset b hstate => exact (Continues.of_eq rfl).drop (.of_eq rfl) hstate rfl

end LorahamBackend

end LorahamBridge
