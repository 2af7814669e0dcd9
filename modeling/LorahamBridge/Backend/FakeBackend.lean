import LorahamBridge.Xr.Served

/-!
# The fake backend

The backend the program runs with unless told otherwise.  It has no radio: it honours every
configuration, reports every transmission as a success, and receives nothing, except as a
script tells it.  This file embeds `fake_backend`.

`promised` and `scripts` are history variables: the outcomes the backend has settled on, with
the session each was submitted by, and everything it was ever told.
-/

namespace LorahamBridge

open Foundation Extradio

/-- How the next configuration is to end. -/
inductive ConfigMode where
  | exact
  | failure
  | mismatch
deriving DecidableEq

/-- One scripting call. -/
inductive Script where
  | configFailure
  | configEffective (eff : RadioConfig)
  | configExact
  | txOutcome (outcome : TxOutcome)
  | staleTxComplete (outcome : TxOutcome)
  | rx (e : RxEvent)
  | backendFailure
deriving DecidableEq

/-- The fake backend.  The history variables `promised` and `scripts` are the outcomes it has
settled on, with the session each is for, and its scripts. -/
structure FakeBackend where
  sink : Option Nat := none
  started : Bool := false
  configured : Bool := false
  configMode : ConfigMode := .exact
  forcedEffective : RadioConfig := RadioConfig.zero
  configPending : Bool := false
  configToken : UInt32 := 0
  nextToken : UInt32 := 0
  pendingRequested : RadioConfig := RadioConfig.zero
  txPending : Bool := false
  submitCount : Nat := 0
  nextTxOutcome : Option TxOutcome := none
  pendingTxResult : Option TxOutcome := none
  staleCompletions : List TxOutcome := []
  rxQueue : List RxEvent := []
  failPending : Bool := false
  promised : List (Nat × TxOutcome) := []
  scripts : List Script := []
deriving DecidableEq

namespace FakeBackend

/-! ## Scripting -/

/-- A test scripts the backend. -/
def script (e : Script) (b : FakeBackend) : FakeBackend :=
  let b := { b with scripts := b.scripts ++ [e] }
  match e with
  | .configFailure => { b with configMode := .failure }
  | .configEffective eff => { b with configMode := .mismatch, forcedEffective := eff }
  | .configExact => { b with configMode := .exact }
  | .txOutcome outcome => { b with nextTxOutcome := some outcome }
  | .staleTxComplete outcome => { b with staleCompletions := b.staleCompletions ++ [outcome] }
  | .rx e => { b with rxQueue := b.rxQueue ++ [e] }
  | .backendFailure => { b with failPending := true }

/-! ## The backend interface -/

/-- Who is called. -/
def setSink (sink : Option Nat) (b : FakeBackend) : FakeBackend :=
  { b with sink := sink }

def start (b : FakeBackend) : FakeBackend :=
  { b with started := true }

def stop (b : FakeBackend) : FakeBackend :=
  { b with started := false }

/-- Started and configured. -/
def ready (b : FakeBackend) : Bool :=
  b.started && b.configured

/-- Record the request; its result is delivered by the next poll. -/
def beginConfigure (requested : RadioConfig) (b : FakeBackend) : UInt32 × FakeBackend :=
  (b.nextToken + 1,
    { b with
      configPending := true
      pendingRequested := requested
      nextToken := b.nextToken + 1
      configToken := b.nextToken + 1 })

/-- Settle on an outcome, a success unless scripted; the next poll delivers it. -/
def submitTx (data : Bytes) (b : FakeBackend) : Bool × FakeBackend :=
  if !b.ready then (false, b)
  else if b.txPending then (false, b)
  else if data.length > kMaxLoraPayload then (false, b)
  else
    let outcome := b.nextTxOutcome.getD .success
    (true,
      { b with
        txPending := true
        submitCount := (b.submitCount + 1) % 2 ^ 64
        pendingTxResult := some outcome
        nextTxOutcome := none
        promised := b.promised ++ b.sink.toList.map fun id => (id, outcome) })

/-- There is no one to recover the transmission from. -/
def abandonPendingTx (b : FakeBackend) : FakeBackend :=
  { b with txPending := false, pendingTxResult := none }

/-- The result of the pending configuration. -/
def resolveConfig (b : FakeBackend) : ConfigureResult × FakeBackend :=
  match b.configMode with
  | .failure => (.failed, { b with configPending := false, configured := false })
  | .mismatch =>
      (⟨true, b.forcedEffective⟩, { b with configPending := false, configured := true })
  | .exact => (⟨true, b.pendingRequested⟩, { b with configPending := false, configured := true })

/-- The result of the transmission in flight, if there is one. -/
def takeTxResult (b : FakeBackend) : List SinkCall × FakeBackend :=
  match b.txPending, b.pendingTxResult with
  | true, some outcome =>
      ([.onTxComplete outcome], { b with txPending := false, pendingTxResult := none })
  | _, _ => ([], b)

/-- Deliver what is pending: a configuration result alone, else a failure alone, else the
packets received, the result in flight, and the stale completions. -/
def poll (b : FakeBackend) : List (Nat × SinkCall) × FakeBackend :=
  match b.sink with
  | none => ([], b)
  | some id =>
      if b.configPending then
        ([(id, .onConfigureComplete b.configToken b.resolveConfig.1)], b.resolveConfig.2)
      else if b.failPending then
        ([(id, .onBackendFailure)],
          { b with failPending := false, txPending := false, pendingTxResult := none })
      else
        let calls := b.rxQueue.map SinkCall.onRx ++ (b.takeTxResult.1 ++
          b.staleCompletions.map SinkCall.onTxComplete)
        (calls.map fun call => (id, call),
          { b.takeTxResult.2 with rxQueue := [], staleCompletions := [] })

end FakeBackend

/-- The fake backend behind the interface the server is written against. -/
def fakeServed : ServedBackend FakeBackend where
  start := FakeBackend.start
  beginConfigure := FakeBackend.beginConfigure
  submitTx := FakeBackend.submitTx
  abandonPendingTx := FakeBackend.abandonPendingTx
  setSink := FakeBackend.setSink
  stop := FakeBackend.stop
  poll := FakeBackend.poll

/-- To the fake backend its scripts are the outside. -/
def fakeWorld (scripts : List Script) (b : FakeBackend) : FakeBackend :=
  scripts.foldl (fun b e => b.script e) b

namespace FakeBackend

/-! ## What a poll does -/

/-- Resolving a configuration touches nothing else. -/
theorem resolveConfig_snd (b : FakeBackend) :
    b.resolveConfig.2 =
      { b with configPending := false, configured := b.resolveConfig.1.applied } := by
  unfold resolveConfig
  split <;> rfl

/-- Every way a poll can end. -/
inductive PollOutcome (b : FakeBackend) : List (Nat × SinkCall) × FakeBackend → Prop
  | detached (hsink : b.sink = none) : PollOutcome b ([], b)
  | configured (id : Nat) (hsink : b.sink = some id) (hpending : b.configPending = true) :
      PollOutcome b ([(id, .onConfigureComplete b.configToken b.resolveConfig.1)],
        { b with configPending := false, configured := b.resolveConfig.1.applied })
  | failed (id : Nat) (hsink : b.sink = some id) (hpending : b.failPending = true) :
      PollOutcome b ([(id, .onBackendFailure)],
        { b with failPending := false, txPending := false, pendingTxResult := none })
  | delivered (id : Nat) (hsink : b.sink = some id) (hconfig : b.configPending = false) :
      PollOutcome b
        ((b.rxQueue.map SinkCall.onRx ++ (b.takeTxResult.1 ++
            b.staleCompletions.map SinkCall.onTxComplete)).map fun call => (id, call),
          { b.takeTxResult.2 with rxQueue := [], staleCompletions := [] })

/-- Every poll is one of these. -/
theorem poll_cases (b : FakeBackend) : PollOutcome b b.poll := by
  unfold poll
  split <;> rename_i hsink
  · exact .detached hsink
  · rename_i id
    split <;> rename_i hconfig
    · rw [resolveConfig_snd]
      exact .configured id hsink hconfig
    · split <;> rename_i hfail
      · exact .failed id hsink hfail
      · exact .delivered id hsink (by simpa using hconfig)

end FakeBackend

end LorahamBridge
