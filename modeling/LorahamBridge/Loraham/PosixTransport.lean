import LorahamBridge.Loraham.Backend
import LorahamBridge.Util.Sockets

/-!
# The POSIX transport to the daemon

Two local sockets lead to the daemon, one for framed data and one for configuration lines.
The transport opens them together, tells when both are connected, and closes them together.
This file embeds `loraham_posix_transport`, over the system calls of `Sockets`.

Main results:

- Theorems `Owns.close`, `Owns.beginConnect`, `Owns.pollConnect`: whatever the kernel
  answers, the transport has both of its sockets or none, and touches no other.
- Theorem `pollConnect_of_established`: it reports a connection once both sockets are
  connected and the kernel has nothing against it.
-/

namespace LorahamBridge

open Foundation Loraham

/-- Socket paths for each band. -/
structure DaemonPaths where
  data433 : Bytes
  conf433 : Bytes
  data868 : Bytes
  conf868 : Bytes
deriving DecidableEq

namespace DaemonPaths

/-- The path of the DATA socket. -/
def data (paths : DaemonPaths) : Band → Bytes
  | .band433 => paths.data433
  | .band868 => paths.data868

/-- The path of the CONF socket. -/
def conf (paths : DaemonPaths) : Band → Bytes
  | .band433 => paths.conf433
  | .band868 => paths.conf868

end DaemonPaths

/-- Size of `sun_path`. -/
def kSunPath : Nat := 108

/-- The address in `sun_path`: the path up to its first zero byte. -/
def sunPath (path : Bytes) : Bytes :=
  (path.takeWhile (· != 0)).take (kSunPath - 1)

/-- The answers of the system calls that start one connection. -/
structure ConnectAnswers where
  socket : Bool
  fcntl : FcntlAnswers
  connect : ConnectAnswer
deriving DecidableEq

/-- The answers of the system calls that check a connection: whether the socket is
writable, whether an error is flagged, and whether `SO_ERROR` can be read. -/
structure PollAnswers where
  writable : Bool
  flagged : Bool
  getsockopt : Bool
deriving DecidableEq

/-- Answer of `send` or `recv` on a socket that is open. -/
inductive TransferAnswer (α : Type) where
  | moved (x : α)
  | wouldBlock
  | interrupted
  | failed
deriving DecidableEq

/-- The transport to the daemon: the two descriptors, and which of them are still connecting. -/
structure PosixDaemonTransport where
  paths : DaemonPaths
  dataFd : Option Nat := none
  confFd : Option Nat := none
  dataConnecting : Bool := false
  confConnecting : Bool := false
deriving DecidableEq

namespace PosixDaemonTransport

/-- Create a non-blocking socket and start connecting it.  The flag tells whether the
connect is still in progress. -/
def unixBeginConnect (path : Bytes) (answers : ConnectAnswers) (k : Kernel) :
    Option (Nat × Bool) × Kernel :=
  if path = [] ∨ kSunPath ≤ path.length then (none, k)
  else if !answers.socket then (none, k)
  else
    let fd := k.sockets.next
    match (k.add {}).setNonblocking fd answers.fcntl with
    | (false, k) => (none, k.close fd)
    | (true, k) =>
        match k.connect fd (sunPath path) answers.connect with
        | (.connected, k) => (some (fd, false), k)
        | (.inProgress, k) => (some (fd, true), k)
        | (.refused, k) => (none, k.close fd)

/-- One socket.  While a connect is in progress the socket is not writable, and a peer that
has hung up is flagged.  Once the connect was seen to succeed, nothing is asked any more. -/
def checkOne (fd : Option Nat) (connecting : Bool) (answers : PollAnswers) (k : Kernel) :
    ConnectState × Bool :=
  match fd with
  | none => (.failed, connecting)
  | some fd =>
      if !connecting then (.connected, connecting)
      else
        let progress := ((k.sockets.lookup fd).map Socket.progress).getD .failed
        if progress = .connecting ∨ !answers.writable then (.connecting, connecting)
        else if answers.flagged ∨ progress = .hungUp then (.failed, connecting)
        else if !answers.getsockopt then (.failed, connecting)
        else if progress ≠ .established then (.failed, connecting)
        else (.connected, false)

/-- `send` with `MSG_DONTWAIT`. -/
def sendSome (fd : Option Nat) (data : Bytes) (answer : TransferAnswer Nat) : SendAnswer :=
  match fd with
  | none => .failed
  | some _ =>
      if data = [] then .took 0
      else
        match answer with
        | .moved n => .took (min n data.length)
        | .wouldBlock | .interrupted => .took 0
        | .failed => .failed

/-- `recv` with `MSG_DONTWAIT`.  A read of no bytes is the end of the stream. -/
def recvSome (cap : Nat) (fd : Option Nat) (answer : TransferAnswer (Chunk cap)) :
    RecvAnswer cap :=
  match fd with
  | none => .failed
  | some _ =>
      if cap = 0 then .failed
      else
        match answer with
        | .moved chunk => if chunk.bytes = [] then .failed else .data chunk
        | .wouldBlock | .interrupted => .data ⟨[], Nat.zero_le cap⟩
        | .failed => .failed

/-- Close whatever is open. -/
def close (t : PosixDaemonTransport) (k : Kernel) : PosixDaemonTransport × Kernel :=
  let k := match t.dataFd with
    | none => k
    | some fd => k.close fd
  let k := match t.confFd with
    | none => k
    | some fd => k.close fd
  ({ paths := t.paths }, k)

/-- Connect the two sockets of a band in place of any there were. -/
def beginConnect (band : Band) (data conf : ConnectAnswers) (t : PosixDaemonTransport)
    (k : Kernel) : Bool × PosixDaemonTransport × Kernel :=
  let (t, k) := t.close k
  match unixBeginConnect (t.paths.data band) data k with
  | (none, k) => (false, t, k)
  | (some (dfd, dataConnecting), k) =>
      match unixBeginConnect (t.paths.conf band) conf k with
      | (none, k) => (false, t, k.close dfd)
      | (some (cfd, confConnecting), k) =>
          (true,
            { t with
              dataFd := some dfd
              confFd := some cfd
              dataConnecting := dataConnecting
              confConnecting := confConnecting }, k)

/-- Both sockets are asked; the connection is finished when both are. -/
def pollConnect (data conf : PollAnswers) (t : PosixDaemonTransport) (k : Kernel) :
    ConnectState × PosixDaemonTransport :=
  let (d, dataConnecting) := checkOne t.dataFd t.dataConnecting data k
  let (c, confConnecting) := checkOne t.confFd t.confConnecting conf k
  let t := { t with dataConnecting := dataConnecting, confConnecting := confConnecting }
  if d = .failed ∨ c = .failed then (.failed, t)
  else if d = .connected ∧ c = .connected then (.connected, t)
  else (.connecting, t)

def confSendSome (data : Bytes) (answer : TransferAnswer Nat) (t : PosixDaemonTransport) :
    SendAnswer :=
  sendSome t.confFd data answer

def dataSendSome (data : Bytes) (answer : TransferAnswer Nat) (t : PosixDaemonTransport) :
    SendAnswer :=
  sendSome t.dataFd data answer

def confRecv (cap : Nat) (answer : TransferAnswer (Chunk cap)) (t : PosixDaemonTransport) :
    RecvAnswer cap :=
  recvSome cap t.confFd answer

def dataRecv (cap : Nat) (answer : TransferAnswer (Chunk cap)) (t : PosixDaemonTransport) :
    RecvAnswer cap :=
  recvSome cap t.dataFd answer

/-! ## Whose sockets are whose -/

/-- A socket on its way to an address.  If its connect is not in progress any more, it has
succeeded. -/
structure Leads (path : Bytes) (connecting : Bool) (s : Socket) : Prop where
  nonblocking : s.nonblocking = true
  address : s.address = sunPath path
  joined : connecting = false → s.Joined

/-- The sockets a transport refers to: none, or the two of a band. -/
inductive Refers (t : PosixDaemonTransport) : List OpenSocket → Prop
  | closed (hdata : t.dataFd = none) (hconf : t.confFd = none) : Refers t []
  | linked (band : Band) {dfd cfd : Nat} {ds cs : Socket} (hdata : t.dataFd = some dfd)
      (hconf : t.confFd = some cfd) (hds : Leads (t.paths.data band) t.dataConnecting ds)
      (hcs : Leads (t.paths.conf band) t.confConnecting cs) :
      Refers t [⟨dfd, ds⟩, ⟨cfd, cs⟩]

/-- Next to the sockets `rest` of others, the process has exactly those of the transport. -/
def Owns (t : PosixDaemonTransport) (k : Kernel) (rest : List OpenSocket) : Prop :=
  ∃ own, t.Refers own ∧ k.Has (own ++ rest)

variable {t : PosixDaemonTransport} {k : Kernel} {rest : List OpenSocket}

/-- A connection is started on a new socket, or everything is as before. -/
theorem unixBeginConnect_cases (path : Bytes) (answers : ConnectAnswers) (h : k.Has rest) :
    (∃ k', unixBeginConnect path answers k = (none, k') ∧ k'.Has rest) ∨
      ∃ fd connecting s k', unixBeginConnect path answers k = (some (fd, connecting), k') ∧
        Leads path connecting s ∧ k'.Has (⟨fd, s⟩ :: rest) := by
  unfold unixBeginConnect
  split
  · exact Or.inl ⟨k, rfl, h⟩
  · split
    · exact Or.inl ⟨k, rfl, h⟩
    · simp only
      rcases (h.add {}).setNonblocking_cases answers.fcntl with ⟨k', heq, hk⟩ | ⟨k', heq, hk⟩
      · rw [heq]
        exact Or.inl ⟨_, rfl, hk.close⟩
      · rw [heq]
        obtain ⟨k'', heq', hk'⟩ := hk.connect_eq rfl (sunPath path) answers.connect
        simp only [heq']
        cases hanswer : answers.connect with
        | connected =>
            rw [hanswer] at hk'
            exact Or.inr ⟨_, _, _, _, rfl, ⟨rfl, rfl, fun _ => Or.inl rfl⟩, hk'⟩
        | inProgress =>
            exact Or.inr ⟨_, _, _, _, rfl, ⟨rfl, rfl, fun hc => Bool.noConfusion hc⟩, hk'⟩
        | refused => exact Or.inl ⟨_, rfl, hk'.close⟩

/-- After closing, the process has the sockets of others only. -/
theorem Owns.close_has (h : t.Owns k rest) : (t.close k).2.Has rest := by
  obtain ⟨own, hrefers, hhas⟩ := h
  cases hrefers with
  | closed hdata hconf =>
      simp only [close, hdata, hconf]
      exact hhas
  | linked band hdata hconf =>
      simp only [close, hdata, hconf]
      exact (Kernel.Has.close hhas).close

/-- After closing the transport owns nothing. -/
theorem Owns.close (h : t.Owns k rest) : (t.close k).1.Owns (t.close k).2 rest :=
  ⟨[], .closed rfl rfl, h.close_has⟩

/-- Connecting ends with both sockets of the band or with none. -/
theorem Owns.beginConnect_cases (h : t.Owns k rest) (band : Band) (data conf : ConnectAnswers) :
    (∃ k', t.beginConnect band data conf k = (false, { paths := t.paths }, k') ∧ k'.Has rest) ∨
      ∃ t' k' dfd cfd ds cs, t.beginConnect band data conf k = (true, t', k') ∧
        t'.paths = t.paths ∧ t'.dataFd = some dfd ∧ t'.confFd = some cfd ∧
        Leads (t.paths.data band) t'.dataConnecting ds ∧
        Leads (t.paths.conf band) t'.confConnecting cs ∧
        k'.Has (⟨dfd, ds⟩ :: ⟨cfd, cs⟩ :: rest) := by
  have hclosed := h.close_has
  have heq : t.close k = ({ paths := t.paths }, (t.close k).2) := rfl
  unfold PosixDaemonTransport.beginConnect
  rw [heq]
  generalize (t.close k).2 = k at hclosed
  simp only
  rcases unixBeginConnect_cases (t.paths.data band) data hclosed with
    ⟨k', hdata, hk⟩ | ⟨dfd, dataConnecting, ds, k', hdata, hds, hk⟩
  · rw [hdata]
    exact Or.inl ⟨k', rfl, hk⟩
  · simp only [hdata]
    rcases unixBeginConnect_cases (t.paths.conf band) conf hk with
      ⟨k'', hconf, hk'⟩ | ⟨cfd, confConnecting, cs, k'', hconf, hcs, hk'⟩
    · rw [hconf]
      exact Or.inl ⟨_, rfl, hk'.close⟩
    · rw [hconf]
      exact Or.inr ⟨_, k'', dfd, cfd, ds, cs, rfl, rfl, rfl, rfl, hds, hcs,
        hk'.perm (List.Perm.swap _ _ _)⟩

/-- Whatever the kernel answers, the transport then owns both sockets or neither. -/
theorem Owns.beginConnect (h : t.Owns k rest) (band : Band) (data conf : ConnectAnswers) :
    (t.beginConnect band data conf k).2.1.Owns (t.beginConnect band data conf k).2.2 rest := by
  rcases h.beginConnect_cases band data conf with
    ⟨k', heq, hk⟩ | ⟨t', k', dfd, cfd, ds, cs, heq, hpaths, hdata, hconf, hds, hcs, hk⟩
  · rw [heq]
    exact ⟨[], .closed rfl rfl, hk⟩
  · rw [heq]
    exact ⟨_, .linked band hdata hconf (hpaths ▸ hds) (hpaths ▸ hcs), hk⟩

/-- Checking a socket that leads somewhere keeps what is known about it. -/
theorem Leads.checkOne {path : Bytes} {connecting : Bool} {s : Socket} {fd : Nat}
    {es : List OpenSocket} (h : Leads path connecting s) (hk : k.Has (⟨fd, s⟩ :: es))
    (answers : PollAnswers) :
    Leads path (checkOne (some fd) connecting answers k).2 s ∧
      ((checkOne (some fd) connecting answers k).1 = .connected → s.Joined) := by
  unfold PosixDaemonTransport.checkOne
  simp only [hk.sockets.lookup, Option.map_some, Option.getD_some]
  split <;> rename_i hconnecting
  · exact ⟨h, fun _ => h.joined (by simpa using hconnecting)⟩
  · split
    · exact ⟨h, fun hc => by cases hc⟩
    · split
      · exact ⟨h, fun hc => by cases hc⟩
      · split
        · exact ⟨h, fun hc => by cases hc⟩
        · split <;> rename_i hprogress
          · exact ⟨h, fun hc => by cases hc⟩
          · have hjoined : s.Joined := Or.inl (not_not.mp hprogress)
            exact ⟨⟨h.nonblocking, h.address, fun _ => hjoined⟩, fun _ => hjoined⟩

/-- A socket keeps its path as it ages, and a connection that was made stays made. -/
theorem Leads.ages {path : Bytes} {connecting : Bool} {s s' : Socket}
    (h : Leads path connecting s) (hages : Kernel.Ages s s') : Leads path connecting s' :=
  ⟨hages.nonblocking.trans h.nonblocking, hages.address.trans h.address,
    fun hc => hages.joined (h.joined hc)⟩

/-- Whatever ages one of the two sockets leaves the transport with both. -/
theorem Owns.ages {k' : Kernel} {fd : Nat} (h : t.Owns k rest)
    (hfd : t.dataFd = some fd ∨ t.confFd = some fd)
    (hages : ∀ {s es}, k.Has (⟨fd, s⟩ :: es) → ∃ s', k'.Has (⟨fd, s'⟩ :: es) ∧ Kernel.Ages s s') :
    t.Owns k' rest := by
  obtain ⟨own, hrefers, hhas⟩ := h
  cases hrefers with
  | closed hdata hconf => simp [hdata, hconf] at hfd
  | @linked band dfd cfd ds cs hdata hconf hds hcs =>
      rw [hdata, hconf, Option.some.injEq, Option.some.injEq] at hfd
      rcases hfd with rfl | rfl
      · obtain ⟨s', hk, hs⟩ := hages hhas
        exact ⟨_, .linked band hdata hconf (hds.ages hs) hcs, hk⟩
      · obtain ⟨s', hk, hs⟩ := hages (hhas.perm (List.Perm.swap _ _ _))
        exact ⟨_, .linked band hdata hconf hds (hcs.ages hs), hk.perm (List.Perm.swap _ _ _)⟩

/-- Calls that leave the sockets alone. -/
theorem Owns.same {k' : Kernel} (h : t.Owns k rest)
    (hsame : ∀ {es}, k.Has es → k'.Has es) : t.Owns k' rest := by
  obtain ⟨own, hrefers, hhas⟩ := h
  exact ⟨own, hrefers, hsame hhas⟩

/-! ## Others next to the transport -/

/-- The order of the other sockets does not matter. -/
theorem Owns.perm {rest' : List OpenSocket} (h : t.Owns k rest) (hperm : rest.Perm rest') :
    t.Owns k rest' := by
  obtain ⟨own, hrefers, hhas⟩ := h
  exact ⟨own, hrefers, hhas.perm (hperm.append_left own)⟩

/-- Another socket is opened. -/
theorem Owns.add (h : t.Owns k rest) (s : Socket) :
    t.Owns (k.add s) (⟨k.sockets.next, s⟩ :: rest) := by
  obtain ⟨own, hrefers, hhas⟩ := h
  exact ⟨own, hrefers, (hhas.add s).perm List.perm_middle.symm⟩

/-- Another socket is closed. -/
theorem Owns.closeOther {fd : Nat} {s : Socket} (h : t.Owns k (⟨fd, s⟩ :: rest)) :
    t.Owns (k.close fd) rest := by
  obtain ⟨own, hrefers, hhas⟩ := h
  exact ⟨own, hrefers, Kernel.Has.close (hhas.perm List.perm_middle)⟩

/-- Another socket is made non-blocking, or not. -/
theorem Owns.setNonblocking_cases {fd : Nat} {s : Socket} (h : t.Owns k (⟨fd, s⟩ :: rest))
    (answers : FcntlAnswers) :
    (∃ k', k.setNonblocking fd answers = (false, k') ∧ t.Owns k' (⟨fd, s⟩ :: rest)) ∨
      ∃ k', k.setNonblocking fd answers = (true, k') ∧
        t.Owns k' (⟨fd, { s with nonblocking := true }⟩ :: rest) := by
  obtain ⟨own, hrefers, hhas⟩ := h
  rcases (hhas.perm List.perm_middle).setNonblocking_cases answers with
    ⟨k', heq, hk⟩ | ⟨k', heq, hk⟩
  · exact Or.inl ⟨k', heq, own, hrefers, hk.perm List.perm_middle.symm⟩
  · exact Or.inr ⟨k', heq, own, hrefers, hk.perm List.perm_middle.symm⟩

/-- An `accept` on another socket that is non-blocking. -/
theorem Owns.accept {fd : Nat} {s : Socket} (h : t.Owns k rest) (hmem : ⟨fd, s⟩ ∈ rest)
    (hnonblocking : s.nonblocking = true) : t.Owns (k.accept fd) rest := by
  obtain ⟨own, hrefers, hhas⟩ := h
  exact ⟨own, hrefers, hhas.accept (List.mem_append_right own hmem) hnonblocking⟩

/-! ## Connected -/

/-- A transport with two sockets that were connected to the daemon's sockets of a band and
have the property `P`. -/
def Both (P : Socket → Prop) (t : PosixDaemonTransport) (k : Kernel) : Prop :=
  ∃ band dfd cfd ds cs, t.dataFd = some dfd ∧ t.confFd = some cfd ∧
    k.sockets.lookup dfd = some ds ∧ k.sockets.lookup cfd = some cs ∧
    ds.address = sunPath (t.paths.data band) ∧ cs.address = sunPath (t.paths.conf band) ∧
    P ds ∧ P cs

/-- The transport reports a connection only if each socket does. -/
theorem pollConnect_eq_connected {data conf : PollAnswers}
    (h : (t.pollConnect data conf k).1 = .connected) :
    (checkOne t.dataFd t.dataConnecting data k).1 = .connected ∧
      (checkOne t.confFd t.confConnecting conf k).1 = .connected := by
  unfold pollConnect at h
  simp only at h
  split at h
  · cases h
  · split at h
    · assumption
    · cases h

/-- Checking the connection keeps the sockets, and reports a connection only when the
connect of both has succeeded. -/
theorem Owns.pollConnect (h : t.Owns k rest) (data conf : PollAnswers) :
    (t.pollConnect data conf k).2.Owns k rest ∧
      ((t.pollConnect data conf k).1 = .connected → t.Both Socket.Joined k) := by
  have hfields : (t.pollConnect data conf k).2 = { t with
      dataConnecting := (checkOne t.dataFd t.dataConnecting data k).2
      confConnecting := (checkOne t.confFd t.confConnecting conf k).2 } := by
    unfold PosixDaemonTransport.pollConnect
    simp only
    split
    · rfl
    · split <;> rfl
  rw [hfields]
  obtain ⟨own, hrefers, hhas⟩ := h
  cases hrefers with
  | closed hdata hconf =>
      refine ⟨⟨[], .closed hdata hconf, hhas⟩, fun hconnected => ?_⟩
      have hfailed := (pollConnect_eq_connected hconnected).1
      rw [hdata] at hfailed
      cases hfailed
  | @linked band dfd cfd ds cs hdata hconf hds hcs =>
      have hswapped : k.Has (⟨cfd, cs⟩ :: ⟨dfd, ds⟩ :: rest) := hhas.perm (List.Perm.swap _ _ _)
      have hcheckData := hds.checkOne hhas data
      have hcheckConf := hcs.checkOne hswapped conf
      rw [← hdata] at hcheckData
      rw [← hconf] at hcheckConf
      refine ⟨⟨_, .linked band hdata hconf hcheckData.1 hcheckConf.1, hhas⟩, fun hconnected => ?_⟩
      obtain ⟨hd, hc⟩ := pollConnect_eq_connected hconnected
      exact ⟨band, dfd, cfd, ds, cs, hdata, hconf, hhas.sockets.lookup, hswapped.sockets.lookup,
        hds.address, hcs.address, hcheckData.2 hd, hcheckConf.2 hc⟩

/-- A socket that is connected is reported so if the kernel has nothing against it. -/
theorem checkOne_of_established {fd : Nat} {s : Socket} (connecting : Bool)
    (hlookup : k.sockets.lookup fd = some s) (hprogress : s.progress = .established) :
    (checkOne (some fd) connecting ⟨true, false, true⟩ k).1 = .connected := by
  unfold PosixDaemonTransport.checkOne
  cases connecting <;> simp [hlookup, hprogress]

/-- Two connected sockets are reported if nothing speaks against it. -/
theorem pollConnect_of_established (h : t.Both (·.progress = .established) k) :
    (t.pollConnect ⟨true, false, true⟩ ⟨true, false, true⟩ k).1 = .connected := by
  obtain ⟨band, dfd, cfd, ds, cs, hdata, hconf, hds, hcs, -, -, hdp, hcp⟩ := h
  have hcheckData := checkOne_of_established t.dataConnecting hds hdp
  have hcheckConf := checkOne_of_established t.confConnecting hcs hcp
  unfold PosixDaemonTransport.pollConnect
  simp [hdata, hconf, hcheckData, hcheckConf]

end PosixDaemonTransport

end LorahamBridge
