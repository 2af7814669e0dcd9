import LorahamBridge.Loraham.BackendRun

/-!
# Starting a configuration

`begin_configure` either starts a configuration and returns its token, or refuses
with zero and should then have done nothing.  The transport replaces an existing
link when it is asked for a new one, also if it then fails; and the token is a
32-bit counter, whose zero means refusal.  These are the two ways in which the
answer can be wrong.

Main results:

- Theorem `configure_atomic_iff`: exactly when the answer tells the truth.
- Theorem `refused_connect_drops_link`: a run in which it does not.
-/

namespace LorahamBridge

open Foundation Extradio Loraham

/-! ## The daemon link -/

/-- The connections made so far, and the one the transport holds. -/
structure Connections where
  made : Nat
  held : Option Nat
deriving DecidableEq

/-- A new connection replaces the one held, and so does a refused one. -/
def Connections.step (c : Connections) : Event → Connections
  | .opened _ _ => ⟨c.made + 1, some c.made⟩
  | .connectRefused _ | .closed => { c with held := none }
  | _ => c

def connections (trace : List Event) : Connections :=
  trace.foldl Connections.step ⟨0, none⟩

@[simp]
theorem connections_append_singleton (trace : List Event) (e : Event) :
    connections (trace ++ [e]) = (connections trace).step e := by
  simp [connections]

namespace LorahamBackend

/-- The daemon link the transport holds. -/
def daemonLink (b : LorahamBackend) : Option Nat :=
  (connections b.trace).held

/-! ## What `begin_configure` promises -/

/-- A configuration was started: the backend has gone to `Connecting`. -/
def Starts (requested : RadioConfig) (b : LorahamBackend) : Prop :=
  b.state ≠ .connecting ∧ (b.beginConfigure requested).2.state = .connecting

/-- A refusal changes nothing, and a token is returned exactly for a configuration
that was started. -/
structure ConfigureAtomic (requested : RadioConfig) (b : LorahamBackend) : Prop where
  refused : (b.beginConfigure requested).1 = 0 ↔ ¬Starts requested b
  unchanged : (b.beginConfigure requested).1 = 0 →
    (b.beginConfigure requested).2.state = b.state ∧
      (b.beginConfigure requested).2.ready = b.ready ∧
      (b.beginConfigure requested).2.daemonLink = b.daemonLink
  connecting : (b.beginConfigure requested).1 ≠ 0 →
    (b.beginConfigure requested).2.state = .connecting

/-- The request gets as far as the transport. -/
def reachesTransport (requested : RadioConfig) (b : LorahamBackend) : Bool :=
  (b.state == .disconnected || b.state == .ready) && (buildSetCommand requested).isSome

/-- What the transport answers to the next connect. -/
def connectAnswer (b : LorahamBackend) : Bool :=
  b.transport.beginConnect.headD false

variable {requested : RadioConfig} {b : LorahamBackend}

theorem beginConfigure_of_not_reaching (h : reachesTransport requested b = false) :
    b.beginConfigure requested = (0, b) := by
  unfold reachesTransport at h
  unfold beginConfigure
  split <;> rename_i hstate
  any_goals rfl
  all_goals
    have hcmd : buildSetCommand requested = none := by simpa [hstate] using h
    unfold startConfigure
    split
    · rfl
    · simp [hcmd]

/-- A request that reaches the transport has an outcome decided there. -/
theorem beginConfigure_of_reaching (h : reachesTransport requested b = true) :
    ∃ band setCmd, validateConfig requested = .ok band ∧
      b.beginConfigure requested =
        if b.connectAnswer then
          (b.nextToken + 1, openLink requested band setCmd
            { b with transport := { b.transport with
                beginConnect := b.transport.beginConnect.tail } })
        else
          (0, record (.connectRefused band)
            { b with transport := { b.transport with
                beginConnect := b.transport.beginConnect.tail } }) := by
  simp only [reachesTransport, Bool.and_eq_true, Bool.or_eq_true, beq_iff_eq] at h
  obtain ⟨setCmd, hcmd⟩ := Option.isSome_iff_exists.mp h.2
  obtain ⟨band, hband⟩ := validateConfig_of_buildSetCommand hcmd
  have hstart : b.beginConfigure requested = b.startConfigure requested := by
    unfold beginConfigure
    rcases h.1 with hs | hs <;> simp [hs]
  refine ⟨band, setCmd, hband, ?_⟩
  rw [hstart, startConfigure, hband]
  rcases Bool.eq_false_or_eq_true b.connectAnswer with hanswer | hanswer
  all_goals
    have hhead : b.transport.beginConnect.headD false = _ := hanswer
    simp only [hcmd, beginConnect, hanswer, hhead]
    rfl

/-- The answer tells the truth unless a connect is refused while a link is held, or
the token counter wraps to zero. -/
theorem configure_atomic_iff (requested : RadioConfig) (b : LorahamBackend) :
    ConfigureAtomic requested b ↔
      (reachesTransport requested b = true →
        if b.connectAnswer then b.nextToken + 1 ≠ 0 else b.daemonLink = none) := by
  by_cases hreach : reachesTransport requested b = true
  · obtain ⟨band, setCmd, -, heq⟩ := beginConfigure_of_reaching hreach
    have hstate : b.state ≠ .connecting := by
      simp only [reachesTransport, Bool.and_eq_true, Bool.or_eq_true, beq_iff_eq] at hreach
      rcases hreach.1 with hs | hs <;> simp [hs]
    simp only [hreach, true_implies]
    split <;> rename_i hanswer
    · rw [if_pos hanswer] at heq
      have hstarts : Starts requested b := ⟨hstate, by rw [heq]; rfl⟩
      constructor
      · intro h hzero
        exact h.refused.mp (by rw [heq]; exact hzero) hstarts
      · intro htoken
        have hne : (b.beginConfigure requested).1 ≠ 0 := by rwa [heq]
        exact ⟨⟨fun h => absurd h hne, fun h => absurd hstarts h⟩, fun h => absurd h hne,
          fun _ => hstarts.2⟩
    · rw [if_neg hanswer] at heq
      have hlink : (b.beginConfigure requested).2.daemonLink = none := by
        rw [heq]
        simp [daemonLink, record, Connections.step]
      constructor
      · intro h
        rw [← (h.unchanged (by rw [heq])).2.2, hlink]
      · intro hheld
        refine ⟨⟨fun _ hstarts => ?_, fun _ => by rw [heq]⟩, fun _ => ⟨?_, ?_, ?_⟩,
          fun h => absurd (by rw [heq]) h⟩
        · refine hstate ?_
          simpa [heq, record] using hstarts.2
        · rw [heq]
          rfl
        · rw [heq]
          rfl
        · rw [hlink, hheld]
  · have heq := beginConfigure_of_not_reaching (by simpa using hreach)
    refine iff_of_true ⟨⟨fun _ hstarts => ?_, fun _ => by rw [heq]⟩, fun _ => by simp [heq],
      fun h => absurd (by rw [heq]) h⟩ fun h => absurd h hreach
    rw [Starts, heq] at hstarts
    exact hstarts.1 hstarts.2

/-! ## A run -/

/-- A configuration within the daemon's limits. -/
def meshConfig : RadioConfig :=
  { freqHz := 433900000, bwHz := 125000, sf := 12, crDenom := 5, syncWord := 0x12,
    preamble := 8, txPowerDbm := 14, crc := 1, ldro := 1 }

/-- The daemon's reply to the last command of a configuration. -/
def readyStatus : Chunk kReadChunk :=
  ⟨ascii "STATUS RADIO=READY\n", by decide +kernel⟩

/-- The calls that bring a new backend to `Ready`, with the daemon's last CONF read. -/
def configureCalls (read : Chunk kReadChunk) : List Call :=
  [{ now := 0, method := .start },
    { now := 0, transport := { beginConnect := [true] }, method := .beginConfigure meshConfig },
    { now := 1
      transport :=
        { pollConnect := [.connected], confSendSome := [.took 512], confRecv := [.data read] }
      method := .poll }]

/-- A reconfiguration from `Ready` whose connect fails: the call answers that nothing
was started, the state is still `Ready`, but the link is gone. -/
theorem refused_connect_drops_link :
    ¬ConfigureAtomic meshConfig
      ((runCalls 2000 30000
        (configureCalls readyStatus)).enter 2 { beginConnect := [false] }) := by
  intro h
  have hlink := (h.unchanged (by decide +kernel)).2.2
  revert hlink
  decide +kernel

end LorahamBackend

end LorahamBridge
