import LorahamBridge.Foundation.Descriptors
import LorahamBridge.Foundation.ByteOrder

/-!
# Sockets of the process

The system calls by which the bridge creates, connects, accepts, uses and closes sockets.
What a call answers is up to the kernel and is given with the call; what it does to the
table of descriptors follows from the answer.

The bridge has one thread, so a call that blocks stops everything.  The history variable
`waited` records whether `accept`, `connect`, `send` or `recv` could block: they can on a
socket in blocking mode, unless a transfer has the flag `MSG_DONTWAIT`.  The bridge also
waits on purpose, in `poll` and for a given time; `pauses` records for how long.

Main results:

- Theorems `Kernel.Has.add`, `Kernel.Has.close`, `Kernel.Has.setNonblocking_cases`,
  `Kernel.Has.connect_eq`, `Kernel.Has.accept`, `Kernel.Has.transfer`: what the calls do to
  the sockets of the process.
-/

namespace LorahamBridge

open Foundation

/-- How far a connection of a socket has come; in the end its peer hangs up. -/
inductive SocketProgress where
  | idle
  | connecting
  | established
  | hungUp
  | failed
deriving DecidableEq

/-- A socket: its mode, the address it was connected to, and how that went. -/
structure Socket where
  nonblocking : Bool := false
  address : Bytes := []
  progress : SocketProgress := .idle
deriving DecidableEq

/-- The connect of the socket has succeeded, whatever the peer has done since. -/
def Socket.Joined (s : Socket) : Prop :=
  s.progress = .established ∨ s.progress = .hungUp

/-- The sockets of the process, whether a call could block, and the waits that were asked
for, in milliseconds. -/
structure Kernel where
  sockets : Descriptors Socket
  waited : Bool := false
  pauses : List Nat := []

/-- The longest wait the bridge asks for, in milliseconds. -/
def kLongestPauseMs : Nat := 100

/-- A socket with its descriptor. -/
abbrev OpenSocket : Type :=
  Sigma fun _ : Nat => Socket

/-- Whether the two `fcntl` calls of `set_nonblocking` succeed. -/
structure FcntlAnswers where
  getFlags : Bool
  setFlags : Bool
deriving DecidableEq

/-- Answer of `connect`. -/
inductive ConnectAnswer where
  | connected
  | inProgress
  | refused
deriving DecidableEq

/-- What `connect` leaves of a connection. -/
def ConnectAnswer.progress : ConnectAnswer → SocketProgress
  | .connected => .established
  | .inProgress => .connecting
  | .refused => .failed

namespace Kernel

/-- Open a socket. -/
def add (s : Socket) (k : Kernel) : Kernel :=
  { k with sockets := k.sockets.add s }

/-- Close a descriptor. -/
def close (fd : Nat) (k : Kernel) : Kernel :=
  { k with sockets := k.sockets.close fd }

/-- Put a socket into non-blocking mode, unless one of the two calls fails. -/
def setNonblocking (fd : Nat) (answers : FcntlAnswers) (k : Kernel) : Bool × Kernel :=
  match k.sockets.lookup fd with
  | none => (false, k)
  | some s =>
      if !answers.getFlags then (false, k)
      else if !answers.setFlags then (false, k)
      else (true, { k with sockets := k.sockets.set fd { s with nonblocking := true } })

/-- Only a socket in blocking mode waits for its connection. -/
def connect (fd : Nat) (address : Bytes) (answer : ConnectAnswer) (k : Kernel) :
    ConnectAnswer × Kernel :=
  match k.sockets.lookup fd with
  | none => (.refused, k)
  | some s =>
      (answer,
        { k with
          sockets := k.sockets.set fd
            { s with
              address := address
              progress := answer.progress }
          waited := k.waited || !s.nonblocking })

/-- A connect in progress comes to its end. -/
def settle (fd : Nat) (ok : Bool) (k : Kernel) : Kernel :=
  match k.sockets.lookup fd with
  | none => k
  | some s =>
      if s.progress = .connecting then
        let s := { s with progress := if ok then .established else .failed }
        { k with sockets := k.sockets.set fd s }
      else k

/-- The peer of a connection hangs up. -/
def hangUp (fd : Nat) (k : Kernel) : Kernel :=
  match k.sockets.lookup fd with
  | none => k
  | some s =>
      if s.progress = .established then
        { k with sockets := k.sockets.set fd { s with progress := .hungUp } }
      else k

/-- A call on this descriptor can block. -/
def blocking (fd : Nat) (k : Kernel) : Bool :=
  !((k.sockets.lookup fd).map Socket.nonblocking).getD true

/-- Accept on a listening socket waits if that is in blocking mode. -/
def accept (fd : Nat) (k : Kernel) : Kernel :=
  { k with waited := k.waited || k.blocking fd }

/-- `send` or `recv`, with or without `MSG_DONTWAIT`. -/
def transfer (fd : Nat) (dontWait : Bool) (k : Kernel) : Kernel :=
  { k with waited := k.waited || (!dontWait && k.blocking fd) }

/-- `poll` with a time limit. -/
def pause (ms : Nat) (k : Kernel) : Kernel :=
  { k with pauses := k.pauses ++ [ms] }

/-- The process has these sockets, no call on them could block, and no wait was long. -/
structure Has (k : Kernel) (es : List OpenSocket) : Prop where
  sockets : k.sockets.Holds es
  waited : k.waited = false
  pauses : ∀ ms ∈ k.pauses, ms ≤ kLongestPauseMs

variable {k : Kernel} {es : List OpenSocket} {fd : Nat} {s : Socket}

/-- The order of the sockets does not matter. -/
theorem Has.perm {es' : List OpenSocket} (h : k.Has es) (hperm : es.Perm es') : k.Has es' :=
  ⟨h.sockets.perm hperm, h.waited, h.pauses⟩

/-- A new socket has a descriptor of its own. -/
theorem Has.add (h : k.Has es) (s : Socket) : (k.add s).Has (⟨k.sockets.next, s⟩ :: es) :=
  ⟨h.sockets.add s, h.waited, h.pauses⟩

/-- Closing a descriptor removes its socket and no other. -/
theorem Has.close (h : k.Has (⟨fd, s⟩ :: es)) : (k.close fd).Has es :=
  ⟨h.sockets.close, h.waited, h.pauses⟩

/-- Either nothing changes, or the socket is non-blocking. -/
theorem Has.setNonblocking_cases (h : k.Has (⟨fd, s⟩ :: es)) (answers : FcntlAnswers) :
    (∃ k', k.setNonblocking fd answers = (false, k') ∧ k'.Has (⟨fd, s⟩ :: es)) ∨
      ∃ k', k.setNonblocking fd answers = (true, k') ∧
        k'.Has (⟨fd, { s with nonblocking := true }⟩ :: es) := by
  unfold setNonblocking
  rw [h.sockets.lookup]
  simp only
  split
  · exact Or.inl ⟨k, rfl, h⟩
  · split
    · exact Or.inl ⟨k, rfl, h⟩
    · exact Or.inr ⟨_, rfl, h.sockets.set _, h.waited, h.pauses⟩

/-- Connecting a non-blocking socket does not block. -/
theorem Has.connect_eq (h : k.Has (⟨fd, s⟩ :: es)) (hnonblocking : s.nonblocking = true)
    (address : Bytes) (answer : ConnectAnswer) :
    ∃ k', k.connect fd address answer = (answer, k') ∧
      k'.Has (⟨fd, { s with address := address, progress := answer.progress }⟩ :: es) := by
  unfold connect
  rw [h.sockets.lookup]
  exact ⟨_, rfl, h.sockets.set _, by simp [h.waited, hnonblocking], h.pauses⟩

/-- What time does to a socket: its mode and address stay, and a connect that has
succeeded has succeeded. -/
structure Ages (s s' : Socket) : Prop where
  nonblocking : s'.nonblocking = s.nonblocking
  address : s'.address = s.address
  joined : s.Joined → s'.Joined

/-- A connect that ends changes no other socket. -/
theorem Has.settle (h : k.Has (⟨fd, s⟩ :: es)) (ok : Bool) :
    ∃ s', (k.settle fd ok).Has (⟨fd, s'⟩ :: es) ∧ Ages s s' := by
  unfold Kernel.settle
  rw [h.sockets.lookup]
  simp only
  split <;> rename_i hconnecting
  · refine ⟨_, ⟨h.sockets.set _, h.waited, h.pauses⟩, rfl, rfl, fun hs => ?_⟩
    simp [Socket.Joined, hconnecting] at hs
  · exact ⟨s, h, rfl, rfl, id⟩

/-- A peer that hangs up changes no other socket. -/
theorem Has.hangUp (h : k.Has (⟨fd, s⟩ :: es)) :
    ∃ s', (k.hangUp fd).Has (⟨fd, s'⟩ :: es) ∧ Ages s s' := by
  unfold Kernel.hangUp
  rw [h.sockets.lookup]
  simp only
  split
  · exact ⟨_, ⟨h.sockets.set _, h.waited, h.pauses⟩, rfl, rfl, fun _ => Or.inr rfl⟩
  · exact ⟨s, h, rfl, rfl, id⟩

/-- Accept on a non-blocking socket does not block. -/
theorem Has.accept (h : k.Has es) (hmem : ⟨fd, s⟩ ∈ es) (hnonblocking : s.nonblocking = true) :
    (k.accept fd).Has es := by
  obtain ⟨front, back, rfl⟩ := List.append_of_mem hmem
  have hfirst : k.Has (⟨fd, s⟩ :: (front ++ back)) := h.perm List.perm_middle
  exact ⟨h.sockets, by simp [Kernel.accept, blocking, h.waited, hfirst.sockets.lookup, hnonblocking],
    h.pauses⟩

/-- A transfer with `MSG_DONTWAIT` does not block. -/
theorem Has.transfer (h : k.Has es) (fd : Nat) : (k.transfer fd true).Has es :=
  ⟨h.sockets, by simp [Kernel.transfer, h.waited], h.pauses⟩

/-- A short wait. -/
theorem Has.pause (h : k.Has es) {ms : Nat} (hms : ms ≤ kLongestPauseMs) : (k.pause ms).Has es := by
  refine ⟨h.sockets, h.waited, fun m hm => ?_⟩
  rcases List.mem_append.mp hm with hm | hm
  · exact h.pauses m hm
  · rw [List.mem_singleton.mp hm]
    exact hms

end Kernel

end LorahamBridge
