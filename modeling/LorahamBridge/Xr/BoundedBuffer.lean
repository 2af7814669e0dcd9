import LorahamBridge.Foundation.ByteOrder

/-!
# Bounded output queue

Each XR connection has an output queue with a hard byte capacity.  `append` takes
all bytes or none, and consumed bytes at the front are reclaimed lazily: a head
index moves forward and the storage is compacted only when it pays.  This file
embeds `bounded_buffer`.

The growth policy of the underlying vector is unspecified in the source language;
it is a parameter here.

Main results:

- Theorem `data_append`: a successful append extends the queued bytes and
  keeps the capacity, whatever compaction did.
- Theorem `data_consume`: consuming removes bytes at the front and nothing else.
- Theorem `run_fifo`: over any run the queue is a bounded byte queue, in storage of
  at most twice its capacity.
-/

namespace LorahamBridge

open Foundation

/-- Byte queue with a head index into its storage.  `room` is the capacity of the
allocated vector. -/
structure BoundedBuffer where
  cap : Nat
  buf : Bytes
  head : Nat
  room : Nat
  head_le : head ≤ buf.length
deriving DecidableEq

namespace BoundedBuffer

/-- An empty queue without storage. -/
def new (cap : Nat) : BoundedBuffer :=
  ⟨cap, [], 0, 0, Nat.le_refl 0⟩

/-- The number of bytes that wait. -/
def size (q : BoundedBuffer) : Nat :=
  q.buf.length - q.head

/-- The queued bytes. -/
def data (q : BoundedBuffer) : Bytes :=
  q.buf.drop q.head

/-- Drop the consumed bytes at the front if they outweigh the live ones, or if
the vector would have to grow otherwise. -/
def compactIfNeeded (incoming : Nat) (q : BoundedBuffer) : BoundedBuffer :=
  if q.head = 0 then q
  else if q.size ≤ q.head ∨ q.room < q.head + incoming + q.size then
    ⟨q.cap, q.data, 0, q.size + incoming, Nat.zero_le _⟩
  else q

/-- Append bytes at the end of the storage; `grow` is the growth policy. -/
def insert (grow : Nat → Nat → Nat) (bytes : Bytes) (q : BoundedBuffer) : BoundedBuffer :=
  { q with
    buf := q.buf ++ bytes
    room := if q.buf.length + bytes.length ≤ q.room then q.room
      else grow q.room (q.buf.length + bytes.length)
    head_le := by
      have := q.head_le
      simp only [List.length_append]
      omega }

/-- Append all bytes, or nothing and fail if that would exceed the capacity. -/
def append (grow : Nat → Nat → Nat) (bytes : Bytes) (q : BoundedBuffer) :
    Option BoundedBuffer :=
  if bytes.length = 0 then some q
  else if q.cap < q.size + bytes.length then none
  else some ((q.compactIfNeeded bytes.length).insert grow bytes)

/-- Drop everything. -/
def clear (q : BoundedBuffer) : BoundedBuffer :=
  ⟨q.cap, [], 0, q.room, Nat.le_refl 0⟩

/-- Consume bytes from the front. -/
def consume (n : Nat) (q : BoundedBuffer) : BoundedBuffer :=
  if h : q.size ≤ n then q.clear
  else { q with
    head := q.head + n
    head_le := by
      have := q.head_le
      simp only [size] at h
      omega }

/-! ## The queue as a byte string -/

@[simp]
theorem length_data (q : BoundedBuffer) : q.data.length = q.size := by
  simp only [data, size, List.length_drop]

@[simp]
theorem data_clear (q : BoundedBuffer) : q.clear.data = [] := rfl

/-- Compaction is invisible in the queued bytes. -/
theorem data_compactIfNeeded (incoming : Nat) (q : BoundedBuffer) :
    (q.compactIfNeeded incoming).data = q.data ∧ (q.compactIfNeeded incoming).cap = q.cap := by
  unfold compactIfNeeded
  split
  · exact ⟨rfl, rfl⟩
  · split
    · exact ⟨List.drop_zero, rfl⟩
    · exact ⟨rfl, rfl⟩

/-- Whether it is compacted or not, the buffer holds the old bytes and the new. -/
theorem data_insert (grow : Nat → Nat → Nat) (bytes : Bytes) (q : BoundedBuffer) :
    (q.insert grow bytes).data = q.data ++ bytes :=
  List.drop_append_of_le_length q.head_le

/-- A successful append extends the queued bytes. -/
theorem data_append {grow : Nat → Nat → Nat} {bytes : Bytes} {q q' : BoundedBuffer}
    (h : q.append grow bytes = some q') : q'.data = q.data ++ bytes ∧ q'.cap = q.cap := by
  unfold append at h
  split at h <;> rename_i hlen
  · simp only [Option.some.injEq] at h
    simp [← h, List.length_eq_zero_iff.mp hlen]
  · split at h
    · contradiction
    · simp only [Option.some.injEq] at h
      obtain ⟨hdata, hcap⟩ := data_compactIfNeeded bytes.length q
      rw [← h]
      exact ⟨by rw [data_insert, hdata], hcap⟩

/-- Consuming removes bytes at the front. -/
theorem data_consume (n : Nat) (q : BoundedBuffer) : (q.consume n).data = q.data.drop n := by
  unfold consume
  split <;> rename_i h
  · rw [data_clear, List.drop_eq_nil_of_le (by simpa using h)]
  · simp only [data, List.drop_drop]

/-! ## Runs -/

/-- The operations on a queue.  The vector may be reallocated at any time, as its
implementation likes. -/
inductive Op where
  | append (grow : Nat → Nat → Nat) (bytes : Bytes)
  | consume (n : Nat)
  | clear
  | reallocate (room : Nat)

/-- A refused append leaves the queue as it is. -/
def step (q : BoundedBuffer) : Op → BoundedBuffer
  | .append grow bytes => (q.append grow bytes).getD q
  | .consume n => q.consume n
  | .clear => q.clear
  | .reallocate room => { q with room := max room q.buf.length }

def run (cap : Nat) (ops : List Op) : BoundedBuffer :=
  ops.foldl step (new cap)

/-- The same operation on a plain byte queue. -/
def fifoStep (cap : Nat) (q : Bytes) : Op → Bytes
  | .append _ bytes => if q.length + bytes.length ≤ cap then q ++ bytes else q
  | .consume n => q.drop n
  | .clear => []
  | .reallocate _ => q

def fifo (cap : Nat) (ops : List Op) : Bytes :=
  ops.foldl (fifoStep cap) []

/-- What holds of every queue in use.  A queue that is not compacted has fewer
consumed bytes than live ones, so that storage stays within twice the capacity. -/
structure Bounded (q : BoundedBuffer) : Prop where
  live : q.size ≤ q.cap
  storage : q.buf.length ≤ 2 * q.cap

/-- An append fails exactly if the bytes do not fit. -/
theorem append_eq_none_iff (grow : Nat → Nat → Nat) (bytes : Bytes) {q : BoundedBuffer}
    (hq : q.Bounded) : q.append grow bytes = none ↔ q.cap < q.size + bytes.length := by
  have hlive := hq.live
  unfold append
  split
  · simp only [reduceCtorEq, false_iff]
    omega
  · split <;> simp_all

/-- Compaction leaves room for what is to come. -/
theorem length_compactIfNeeded (incoming : Nat) (q : BoundedBuffer) :
    (q.compactIfNeeded incoming).buf.length ≤ 2 * q.size := by
  have hsize : q.size = q.buf.length - q.head := rfl
  unfold compactIfNeeded
  split
  · omega
  · split
    · simp only [length_data]
      omega
    · omega

/-- An append keeps the bound. -/
theorem bounded_append {grow : Nat → Nat → Nat} {bytes : Bytes} {q q' : BoundedBuffer}
    (hq : q.Bounded) (h : q.append grow bytes = some q') : q'.Bounded := by
  obtain ⟨hdata, hcap⟩ := data_append h
  have hfits := mt (append_eq_none_iff grow bytes hq).mpr (by simp [h])
  have hcompact := length_compactIfNeeded bytes.length q
  have hstorage := hq.storage
  refine ⟨?_, ?_⟩
  · rw [← length_data, hdata, hcap, List.length_append, length_data]
    omega
  · rw [append, if_neg hfits] at h
    split at h
    · cases h
      exact hstorage
    · cases h
      simp only [insert, List.length_append, (data_compactIfNeeded bytes.length q).2]
      omega

/-- Taking bytes keeps the bound. -/
theorem bounded_consume (n : Nat) {q : BoundedBuffer} (hq : q.Bounded) : (q.consume n).Bounded := by
  have hlive := hq.live
  have hstorage := hq.storage
  unfold consume
  split
  · exact ⟨Nat.zero_le _, Nat.zero_le _⟩
  · refine ⟨?_, hstorage⟩
    simp only [size] at hlive ⊢
    omega

/-- One operation keeps the bounds and does what the plain queue does. -/
theorem step_fifo (op : Op) {q : BoundedBuffer} (hq : q.Bounded) :
    (q.step op).Bounded ∧ (q.step op).cap = q.cap ∧
      (q.step op).data = fifoStep q.cap q.data op := by
  cases op with
  | append grow bytes =>
      simp only [step, fifoStep, length_data]
      cases happend : q.append grow bytes with
      | none =>
          have hfull := (append_eq_none_iff grow bytes hq).mp happend
          refine ⟨hq, rfl, ?_⟩
          rw [if_neg (by omega)]
          rfl
      | some q' =>
          have hfits := mt (append_eq_none_iff grow bytes hq).mpr
            (by simp [happend])
          obtain ⟨hdata, hcap⟩ := data_append happend
          refine ⟨bounded_append hq happend, hcap, ?_⟩
          rw [if_pos (by omega)]
          exact hdata
  | consume n =>
      refine ⟨bounded_consume n hq, ?_, data_consume n q⟩
      simp only [step, consume]
      split <;> rfl
  | clear => exact ⟨⟨Nat.zero_le _, Nat.zero_le _⟩, rfl, rfl⟩
  | reallocate room => exact ⟨⟨hq.live, hq.storage⟩, rfl, rfl⟩

/-- A run keeps the bounds and does what the plain queue does. -/
theorem run_fifo (cap : Nat) (ops : List Op) :
    (run cap ops).Bounded ∧ (run cap ops).cap = cap ∧ (run cap ops).data = fifo cap ops := by
  induction ops using List.reverseRecOn with
  | nil => exact ⟨⟨Nat.zero_le _, Nat.zero_le _⟩, rfl, rfl⟩
  | append_singleton ops op ih =>
      obtain ⟨hq, hcap, hdata⟩ := ih
      have hstep := step_fifo op hq
      rw [hcap, hdata] at hstep
      simpa [run, fifo] using hstep

end BoundedBuffer

end LorahamBridge
