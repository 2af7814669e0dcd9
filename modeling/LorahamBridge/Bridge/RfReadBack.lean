import LorahamBridge.Bridge.RfAccount
import LorahamBridge.Loraham.Configure
import LorahamBridge.Util.RfReader

/-!
# What the RF log files tell

`RfAccount` says which lines the backend logs, `RfReader` what becomes of lines that are
written.  Together: whoever reads the two files of a bridge reads what its radio heard and
sent.

Main results:

- Theorem `run_txBounded`: no logged packet is longer than a radio packet.
- Theorem `rf_log_read_back`: the files of every run read back as its last log entries.
-/

namespace LorahamBridge

open Foundation Extradio Loraham LorahamBackend

/-- What an event logs. -/
def Event.logged? : Event → Option RfLog.Logged
  | .loggedRx rx => some (.rx rx)
  | .loggedTx outcome rf => some (.tx outcome rf)
  | _ => none

/-- Everything a history logs, in order. -/
def loggedEvents (trace : List Event) : List RfLog.Logged :=
  trace.filterMap Event.logged?

/-! ## Bounds -/

namespace LorahamBackend

/-- The held frame and all transmit lines are within the limit of a radio packet. -/
structure TxBounded (b : LorahamBackend) : Prop where
  held : b.txOut.length ≤ kFramedHeaderLen + kMaxRfPayload
  lines : ∀ l ∈ txLines b.trace, l.2.length ≤ kMaxRfPayload

/-- A quiet step holds no longer frame. -/
theorem QuietStep.txOut_le {x y : Snapshot} (h : QuietStep x y) {n : Nat}
    (hx : x.1.txOut.length ≤ n) : y.1.txOut.length ≤ n := by
  cases h with
  | dataFenced | dataCleared | drainLost | drainExpired => exact Nat.zero_le _
  | _ => exact hx

theorem CallStep.txOut_le {call : SinkCall} {x y : Snapshot} (h : CallStep call x y) {n : Nat}
    (hx : x.1.txOut.length ≤ n) : y.1.txOut.length ≤ n := by
  cases h with
  | configFail | completed => exact Nat.zero_le _
  | configSucceed | received => exact hx
  | lost b c _ hc hstate =>
      rcases handleDisconnect_cases c with ⟨-, heq⟩ | ⟨-, heq⟩ | ⟨-, -, heq⟩ <;>
      · rw [heq]
        exact Nat.zero_le _

/-- A held frame fits the daemon's limit. -/
theorem Micro.txOut_le {x y : Snapshot} (h : Micro x y)
    (hx : x.1.txOut.length ≤ kFramedHeaderLen + kMaxRfPayload) :
    y.1.txOut.length ≤ kFramedHeaderLen + kMaxRfPayload := by
  cases h with
  | poll h =>
      cases h with
      | quiet h => exact h.txOut_le hx
      | call h => exact h.txOut_le hx
  | environment | attach | openLink | connectRefused | abandon => exact hx
  | reset => exact Nat.zero_le _
  | holdTx b data _ _ hlen =>
      simp only [LorahamBackend.holdTx, framedBytes_length]
      omega

/-- The held packet fits the limit too. -/
theorem Holds.length_le {b : LorahamBackend} {p : Bytes} (h : b.Holds p)
    (hheld : b.txOut.length ≤ kFramedHeaderLen + kMaxRfPayload) : p.length ≤ kMaxRfPayload := by
  rw [h.frame, framedBytes_length] at hheld
  omega

/-- A transmit line carries the held frame. -/
theorem Logs.lines_le {b b' : LorahamBackend} (h : Logs b b') (hb : b.TxBounded) :
    ∀ l ∈ txLines b'.trace, l.2.length ≤ kMaxRfPayload := by
  cases h with
  | quiet events htrace hplain =>
      rw [htrace, txLines_append, txLines_of_plain hplain, List.append_nil]
      exact hb.lines
  | write w htrace =>
      rw [htrace, txLines_append]
      simpa [txLines, Event.txLine?] using hb.lines
  | resolve p f rest _ hheld _ htrace hrest =>
      have hp := hheld.length_le hb.held
      intro l hl
      rw [htrace, List.append_cons, ← List.append_assoc, txLines_append, txLines_append,
        txLines_append, txLines_of_plain hrest, List.append_nil] at hl
      simp only [List.mem_append] at hl
      rcases hl with (hl | hl) | hl
      · exact hb.lines l hl
      · simp [txLines, Event.txLine?] at hl
      · split at hl
        · simp only [txLines, Event.txLine?, List.filterMap_cons, List.filterMap_nil,
            List.mem_singleton] at hl
          rw [hl]
          exact hp
        · simp [txLines] at hl
  | fault p front rest _ hheld htrace hfront hrest =>
      have hp := hheld.length_le hb.held
      intro l hl
      rw [htrace, txLines_append, txLines_append, txLines_of_plain hfront.1, List.nil_append,
        List.mem_append] at hl
      rcases hl with hl | hl
      · exact hb.lines l hl
      · have hline : txLines (.loggedTx .unconfirmed p :: rest) =
            [(LoggedOutcome.unconfirmed, p)] := by
          rw [← List.singleton_append, txLines_append, txLines_of_plain hrest.1, List.append_nil]
          rfl
        rw [hline, List.mem_singleton] at hl
        rw [hl]
        exact hp

end LorahamBackend

/-- No logged packet is longer than a radio packet. -/
theorem run_txBounded (env : BridgeEnv) (ops : List XrServer.Op) :
    (XrServer.run env ops).backend.TxBounded := by
  have h := run_backend env (I := fun x => x.1.TxKept ∧ x.1.TxBounded)
    ⟨txKept_of_state (by simp [XrServer.initial]), Nat.zero_le _,
      by simp [XrServer.initial, txLines]⟩
    (fun _ _ h hx => ⟨h.txKept hx.1, h.txOut_le hx.2.held, (h.logs hx.1).lines_le hx.2⟩) ops
  exact h.2

/-- A received packet fits the limit. -/
theorem decodeRx_length_le {f : Loraham.Frame} {rx : RxEvent} (h : decodeRx f = some rx) :
    rx.data.length ≤ kMaxRfPayload := by
  unfold decodeRx at h
  split at h
  · cases h
  · split at h
    · cases h
    · split at h <;> rename_i hlen
      · cases h
      · cases h
        rw [List.length_drop]
        omega

/-- Every packet that is logged fits a line. -/
theorem loggedEvents_le (env : BridgeEnv) (ops : List XrServer.Op) :
    ∀ what ∈ loggedEvents (XrServer.run env ops).backend.trace,
      what.payload.length ≤ 255 := by
  intro what hwhat
  obtain ⟨e, he, hlogged⟩ := List.mem_filterMap.mp hwhat
  cases e with
  | loggedRx rx =>
      cases hlogged
      have hline : rx ∈ rxLines (XrServer.run env ops).backend.trace :=
        List.mem_filterMap.mpr ⟨_, he, rfl⟩
      rw [(run_booked env ops).rx] at hline
      obtain ⟨f, -, hf⟩ := List.mem_filterMap.mp hline
      exact decodeRx_length_le hf
  | loggedTx outcome rf =>
      cases hlogged
      exact (run_txBounded env ops).lines (outcome, rf) (List.mem_filterMap.mpr ⟨_, he, rfl⟩)
  | _ => cases hlogged

/-! ## Main result -/

/-- The files of the RF log of every run, begun empty and with no failing system call, are
within their limit and read back as the last entries of the run, each with its time, its
signal levels or outcome, and its packet.  Entries are lost only behind a second rollover, and
then the previous file alone is full up to a line. -/
theorem rf_log_read_back (env : BridgeEnv) (ops : List XrServer.Op) {maxBytes : Nat}
    (hmax : RfLog.kLineMax ≤ maxBytes) (entries : List (RfLog.LogCall × RfLog.Logged))
    (hentries : entries.map Prod.snd = loggedEvents (XrServer.run env ops).backend.trace)
    (hio : ∀ entry ∈ entries, RfLog.Faultless entry.1.io) :
    ∃ log lost kept, (⟨maxBytes, [], [], 0⟩ : RfLog).follow entries = some log ∧
      entries = lost ++ kept ∧
      RfLog.readLog (log.prev ++ log.live) = some (kept.map RfLog.entryOf) ∧
      log.live.length ≤ maxBytes ∧
      (lost ≠ [] → 1 < log.rolls ∧ maxBytes < log.prev.length + RfLog.kLineMax) := by
  refine RfLog.readLog_follow hmax entries hio ?_
  intro entry hentry
  refine loggedEvents_le env ops entry.2 ?_
  rw [← hentries]
  exact List.mem_map_of_mem hentry

/-- A client transmits a packet, and one is heard before its result. -/
def overheard : List XrServer.Op :=
  [⟨0, {}, .accept none⟩,
    ⟨1, { beginConnect := [true] }, .feed (Extradio.frameBytes ⟨.hello, 0, [kVersion]⟩ ++
      Extradio.frameBytes ⟨.configure, 0, packConfig meshConfig⟩)⟩,
    ⟨1, { pollConnect := [.connected]
          confSendSome := [.took 512]
          confRecv := [.data readyStatus] }, .poll⟩,
    ⟨1, { dataSendSome := [.took 512] },
      .feed (Extradio.frameBytes ⟨.txRequest, 7, [1, 2, 3]⟩)⟩,
    ⟨1, { dataRecv := [.data ⟨Loraham.framedBytes .rxPacket [16, 39, 0, 0, 4, 2] ++
        Loraham.framedBytes .txResult [0, 0, 0, 0], by decide⟩] }, .poll⟩]

/-- Its two lines, with the smallest limit a file may have. -/
theorem rf_log_read_back_overheard :
    let env : BridgeEnv :=
      ⟨⟨⟨[]⟩, fun _ _ => none, defaultTimeouts, 65536, fun _ n => n⟩, 2000, 30000⟩
    let call : RfLog.LogCall :=
      ⟨⟨ascii "2026-09-12T16:03:47.412Z", ⟨by decide, by decide⟩, by decide⟩,
        List.replicate RfLog.kLineMax 0, List.length_replicate, {}⟩
    let entries : List (RfLog.LogCall × RfLog.Logged) :=
      [(call, .rx ⟨10000, 0, [4, 2]⟩), (call, .tx .ok [1, 2, 3])]
    entries.map Prod.snd = loggedEvents (XrServer.run env overheard).backend.trace ∧
      ∃ log lost kept, (⟨RfLog.kLineMax, [], [], 0⟩ : RfLog).follow entries = some log ∧
        entries = lost ++ kept ∧
        RfLog.readLog (log.prev ++ log.live) = some (kept.map RfLog.entryOf) ∧
        log.live.length ≤ RfLog.kLineMax ∧
        (lost ≠ [] → 1 < log.rolls ∧ RfLog.kLineMax < log.prev.length + RfLog.kLineMax) := by
  intro env call entries
  have hentries :
      entries.map Prod.snd = loggedEvents (XrServer.run env overheard).backend.trace := by
    decide +kernel
  have hio : ∀ entry ∈ entries, RfLog.Faultless entry.1.io := by
    intro entry hentry
    have hcall : entry.1 = call := by
      simp only [entries, List.mem_cons, List.not_mem_nil, or_false] at hentry
      rcases hentry with rfl | rfl <;> rfl
    rw [hcall]
    constructor <;> decide
  exact ⟨hentries, rf_log_read_back env overheard (Nat.le_refl _) entries hentries hio⟩

end LorahamBridge
