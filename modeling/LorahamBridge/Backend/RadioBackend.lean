import LorahamBridge.Wire.Protocol

/-!
# The radio backend interface

The session drives a radio backend and receives asynchronous events back from it.
Both directions are interfaces in the source: the session is written against any
`RadioBackend`, and a backend delivers its events to a `BackendSink`.  A backend
is modelled as a state type with the operations the session calls on it; the
callbacks are values of `SinkCall`, delivered in the order in which they were made.
-/

namespace LorahamBridge

open Foundation Extradio

/-! ## The clock -/

/-- Largest clock value; also the answer for "no deadline". -/
def uint64Max : Nat := 2 ^ 64 - 1

/-- Addition of two 64-bit clock values. -/
def addMs (a b : Nat) : Nat :=
  (a + b) % 2 ^ 64

/-- Difference of two 64-bit clock values. -/
def subMs (a b : Nat) : Nat :=
  (a + 2 ^ 64 - b) % 2 ^ 64

/-! ## Backend and sink -/

/-- Terminal outcome of a single submitted transmission. -/
inductive TxOutcome where
  | success
  | channelBusy
  | timeout
  | radioError
deriving DecidableEq

/-- One received packet handed up from the backend; the length field of the
source is the length of `data`. -/
structure RxEvent where
  rssiCdbm : Int16
  snrCdb : Int16
  data : Bytes
deriving DecidableEq

/-- Result of a configuration request. -/
structure ConfigureResult where
  applied : Bool
  effective : RadioConfig
deriving DecidableEq

/-- The result a backend reports for a configuration it could not apply. -/
def ConfigureResult.failed : ConfigureResult :=
  ⟨false, RadioConfig.zero⟩

/-- The callbacks of `BackendSink`. -/
inductive SinkCall where
  | onRx (rx : RxEvent)
  | onTxComplete (outcome : TxOutcome)
  | onBackendFailure
  | onConfigureComplete (opToken : UInt32) (res : ConfigureResult)
deriving DecidableEq

/-- The operations a session calls on its backend, over the backend's state. -/
structure RadioBackend (β : Type) where
  start : β → β
  beginConfigure : RadioConfig → β → UInt32 × β
  submitTx : Bytes → β → Bool × β
  abandonPendingTx : β → β

end LorahamBridge
