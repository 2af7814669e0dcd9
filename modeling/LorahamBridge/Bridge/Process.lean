import LorahamBridge.Bridge.Coupling
import LorahamBridge.Loraham.Configure
import LorahamBridge.Loraham.PosixTransport
import LorahamBridge.Xr.Deadlines

/-!
# The sockets of the bridge process

A process that runs for months must not lose descriptors, and a process with one thread
must not block in a call on a socket.  This file embeds the socket set-up of `xr_server`:
listening, accepting and refusing clients, backing off when descriptors or memory are
short, and closing their sockets.  Together with the transport to the daemon these are all
sockets of the bridge.

Other parts of the process open and close descriptors of their own at any time.

Main results:

- Theorem `Process.sockets_accounted`: at every moment the process has the listening socket,
  the socket of the client if one is connected, the two sockets to the daemon or neither,
  and those of others; all of them differ, no `accept`, `connect`, `send` or `recv` on them
  could block, and the waits of the loop and of the back-off are short.
- Theorem `Process.connection_reported`: a reported connection was established.
- Theorem `daemon_sockets_iff`: the daemon's sockets are open exactly while the backend is
  neither disconnected nor faulted.
-/

namespace LorahamBridge

open Foundation Extradio Loraham LorahamBackend

/-! ## The sockets of the server -/

/-- The answers of the system calls of `listen`. -/
structure ListenAnswers where
  socket : Bool
  inetPton : Bool
  bind : Bool
  listen : Bool
  fcntl : FcntlAnswers
deriving DecidableEq

/-- Answer of `accept`, with those of the `fcntl` calls on the new socket.  It fails for
want of descriptors or memory (`EMFILE`, `ENFILE`, `ENOBUFS`, `ENOMEM`) or for another
reason. -/
inductive AcceptAnswer where
  | accepted (fcntl : FcntlAnswers)
  | exhausted
  | failed
deriving DecidableEq

/-- How long `try_accept` backs off, in milliseconds. -/
def kAcceptBackoffMs : Nat := 20

/-- What happens on the link to the daemon. -/
inductive LinkEvent where
  | opened (band : Band)
  | refused (band : Band)
  | closed
deriving DecidableEq

/-- The descriptors of the bridge, and the open sockets of the process.  The history
variables `others` and `history` are the sockets of everybody else, and what happened on
the link to the daemon. -/
structure Process where
  kernel : Kernel
  listenFd : Option Nat := none
  connFd : Option Nat := none
  transport : PosixDaemonTransport
  others : List OpenSocket
  history : List LinkEvent := []

namespace Process

/-- Start to listen, or say why not. -/
def listen (answers : ListenAnswers) (p : Process) : Option String × Process :=
  if !answers.socket then (some "socket() failed", p)
  else
    let fd := p.kernel.sockets.next
    let k := p.kernel.add {}
    if !answers.inetPton then (some "invalid bind address", { p with kernel := k.close fd })
    else if !answers.bind then (some "bind() failed", { p with kernel := k.close fd })
    else if !answers.listen then (some "listen() failed", { p with kernel := k.close fd })
    else
      match k.setNonblocking fd answers.fcntl with
      | (false, k) => (some "fcntl(O_NONBLOCK) failed", { p with kernel := k.close fd })
      | (true, k) => (none, { p with kernel := k, listenFd := some fd })

/-- Accept whoever waits.  One client is served, every other is refused.  A newcomer that
cannot be accepted for want of resources stays there, so the loop would find it again at
once; it is slowed down instead. -/
def tryAccept (p : Process) : List AcceptAnswer → Process
  | [] => p
  | answer :: answers =>
      match p.listenFd with
      | none => p
      | some lfd =>
          let k := p.kernel.accept lfd
          match answer with
          | .failed => { p with kernel := k }
          | .exhausted => { p with kernel := k.pause kAcceptBackoffMs }
          | .accepted fcntl =>
              let cfd := k.sockets.next
              let k := k.add { progress := .established }
              if p.connFd.isSome then tryAccept { p with kernel := k.close cfd } answers
              else
                match k.setNonblocking cfd fcntl with
                | (false, k) => tryAccept { p with kernel := k.close cfd } answers
                | (true, k) => tryAccept { p with kernel := k, connFd := some cfd } answers

/-- The socket of a connection that is destroyed. -/
def dropConnection (p : Process) : Process :=
  match p.connFd with
  | none => p
  | some fd => { p with kernel := p.kernel.close fd, connFd := none }

/-! ## Steps of the process -/

/-- What happens to the sockets: calls of the server and of the transport, the kernel's
progress with a connection, the daemon hanging up, and what others do. -/
inductive Op where
  | poll (now : Nat) (sv : XrServer)
  | tryAccept (answers : List AcceptAnswer)
  | transferClient
  | transferDaemon (data : Bool)
  | dropConnection
  | beginConnect (band : Band) (data conf : ConnectAnswers)
  | pollConnect (data conf : PollAnswers)
  | close
  | settle (data : Bool) (ok : Bool)
  | hangUp (data : Bool)
  | openOther (s : Socket)
  | closeOther (i : Nat)

/-- One of the two descriptors of the transport. -/
def daemonFd (data : Bool) (p : Process) : Option Nat :=
  if data then p.transport.dataFd else p.transport.confFd

/-- One step.  The loop waits in `poll` for as long as the deadlines of the server allow;
every transfer has the flag `MSG_DONTWAIT`. -/
def step (p : Process) : Op → Process
  | .poll now sv => { p with kernel := p.kernel.pause (sv.computeTimeoutMs now).toInt.toNat }
  | .tryAccept answers => p.tryAccept answers
  | .transferClient =>
      match p.connFd with
      | none => p
      | some fd => { p with kernel := p.kernel.transfer fd true }
  | .transferDaemon data =>
      match p.daemonFd data with
      | none => p
      | some fd => { p with kernel := p.kernel.transfer fd true }
  | .dropConnection => p.dropConnection
  | .beginConnect band data conf =>
      let r := p.transport.beginConnect band data conf p.kernel
      { p with
        transport := r.2.1
        kernel := r.2.2
        history := p.history ++ [if r.1 then .opened band else .refused band] }
  | .pollConnect data conf =>
      { p with transport := (p.transport.pollConnect data conf p.kernel).2 }
  | .close =>
      let r := p.transport.close p.kernel
      { p with transport := r.1, kernel := r.2, history := p.history ++ [.closed] }
  | .settle data ok =>
      match p.daemonFd data with
      | none => p
      | some fd => { p with kernel := p.kernel.settle fd ok }
  | .hangUp data =>
      match p.daemonFd data with
      | none => p
      | some fd => { p with kernel := p.kernel.hangUp fd }
  | .openOther s =>
      { p with
        kernel := p.kernel.add s
        others := ⟨p.kernel.sockets.next, s⟩ :: p.others }
  | .closeOther i =>
      match p.others[i]? with
      | none => p
      | some e => { p with kernel := p.kernel.close e.1, others := p.others.eraseIdx i }

/-- The process before it listens, with the descriptors others have opened so far. -/
def initial (paths : DaemonPaths) (before : List Socket) : Process :=
  before.foldl (fun p s => p.step (.openOther s))
    { kernel := { sockets := ∅ }, transport := { paths := paths }, others := [] }

/-- A run of the process: it listens, and goes on if that succeeds. -/
def run (paths : DaemonPaths) (before : List Socket) (answers : ListenAnswers) (ops : List Op) :
    Process :=
  match (initial paths before).listen answers with
  | (some _, p) => p
  | (none, p) => ops.foldl step p

/-- The end of the process: server and transport are destroyed. -/
def shutdown (p : Process) : Process :=
  let p := p.dropConnection
  let k := match p.listenFd with
    | none => p.kernel
    | some fd => p.kernel.close fd
  step { p with kernel := k, listenFd := none } .close

/-! ## Everything is accounted for -/

/-- A descriptor of the server with its socket, which is non-blocking. -/
inductive Serves : Option Nat → List OpenSocket → Prop
  | none : Serves none []
  | some (fd : Nat) {s : Socket} (hnonblocking : s.nonblocking = true) : Serves (some fd) [⟨fd, s⟩]

/-- The process has the sockets of the server, those of the transport, and those of
others. -/
def Accounted (p : Process) : Prop :=
  ∃ listening client, Serves p.listenFd listening ∧ Serves p.connFd client ∧
    p.transport.Owns p.kernel (client ++ (listening ++ p.others))

variable {p : Process}

/-- Another's socket is accounted for as another's. -/
theorem Accounted.openOther (h : p.Accounted) (s : Socket) : (p.step (.openOther s)).Accounted := by
  obtain ⟨listening, client, hlisten, hconn, howns⟩ := h
  refine ⟨listening, client, hlisten, hconn, (howns.add s).perm ?_⟩
  rw [← List.append_assoc, ← List.append_assoc]
  exact List.perm_middle.symm

/-- Another's socket is closed by its owner. -/
theorem Accounted.closeOther (h : p.Accounted) (i : Nat) : (p.step (.closeOther i)).Accounted := by
  unfold Process.step
  simp only
  cases hother : p.others[i]? with
  | none => exact h
  | some e =>
      obtain ⟨listening, client, hlisten, hconn, howns⟩ := h
      obtain ⟨hi, rfl⟩ := List.getElem?_eq_some_iff.mp hother
      have hfirst : (client ++ (listening ++ p.others)).Perm
          (p.others[i] :: (client ++ (listening ++ p.others.eraseIdx i))) := by
        have hperm := ((List.getElem_cons_eraseIdx_perm hi).symm.append_left
          (client ++ listening)).trans List.perm_middle
        simpa using hperm
      exact ⟨listening, client, hlisten, hconn, (howns.perm hfirst).closeOther⟩

/-- Every exit of `listen` closes its socket or keeps it as the listening one. -/
theorem Accounted.listen (h : p.Accounted) (hnew : p.listenFd = none) (answers : ListenAnswers) :
    (p.listen answers).2.Accounted := by
  obtain ⟨listening, client, hlisten, hconn, howns⟩ := h
  rw [hnew] at hlisten
  cases hlisten
  have hclosed := (howns.add {}).closeOther
  have haccounted : ∀ k, p.transport.Owns k (client ++ p.others) →
      Accounted { p with kernel := k } := fun k hk =>
    ⟨[], client, hnew ▸ .none, hconn, hk⟩
  unfold Process.listen
  split
  · exact haccounted _ howns
  · simp only
    split
    · exact haccounted _ hclosed
    · split
      · exact haccounted _ hclosed
      · split
        · exact haccounted _ hclosed
        · rcases (howns.add {}).setNonblocking_cases answers.fcntl with ⟨k', heq, hk⟩ | ⟨k', heq, hk⟩
          · rw [heq]
            exact haccounted _ hk.closeOther
          · rw [heq]
            exact ⟨_, client, .some _ rfl, hconn, hk.perm List.perm_middle.symm⟩

/-- Every accepted socket is kept as that of the client or closed. -/
theorem Accounted.tryAccept (h : p.Accounted) (answers : List AcceptAnswer) :
    (p.tryAccept answers).Accounted := by
  induction answers generalizing p with
  | nil => exact h
  | cons answer answers ih =>
      obtain ⟨listening, client, hlisten, hconn, howns⟩ := h
      unfold Process.tryAccept
      cases hfd : p.listenFd with
      | none => exact ⟨listening, client, hlisten, hconn, howns⟩
      | some lfd =>
          rw [hfd] at hlisten
          cases hlisten with
          | @some _ s hnonblocking =>
              have hmem : ⟨lfd, s⟩ ∈ client ++ ([⟨lfd, s⟩] ++ p.others) := by simp
              have haccept := howns.accept hmem hnonblocking
              simp only
              cases answer with
              | failed => exact ⟨_, client, hfd ▸ .some _ hnonblocking, hconn, haccept⟩
              | exhausted =>
                  exact ⟨_, client, hfd ▸ .some _ hnonblocking, hconn,
                    haccept.same fun hk => hk.pause (by decide)⟩
              | accepted fcntl =>
                  have hnew := haccept.add { progress := .established }
                  simp only
                  split
                  · exact ih ⟨_, client, hfd ▸ .some _ hnonblocking, hconn, hnew.closeOther⟩
                  · rename_i hnone
                    have hidle : p.connFd = none := by simpa using hnone
                    rcases hnew.setNonblocking_cases fcntl with ⟨k', heq, hk⟩ | ⟨k', heq, hk⟩
                    · rw [heq]
                      exact ih ⟨_, client, hfd ▸ .some _ hnonblocking, hconn, hk.closeOther⟩
                    · rw [heq]
                      rw [hidle] at hconn
                      cases hconn
                      exact ih ⟨_, _, hfd ▸ .some _ hnonblocking, .some _ rfl, hk⟩

/-- The socket of a finished client is closed. -/
theorem Accounted.dropConnection (h : p.Accounted) : p.dropConnection.Accounted := by
  obtain ⟨listening, client, hlisten, hconn, howns⟩ := h
  unfold Process.dropConnection
  cases hfd : p.connFd with
  | none => exact ⟨listening, client, hlisten, hconn, howns⟩
  | some fd =>
      rw [hfd] at hconn
      cases hconn
      exact ⟨listening, [], hlisten, .none, howns.closeOther⟩

/-- A call that leaves the sockets alone. -/
theorem Accounted.same {k : Kernel} (h : p.Accounted)
    (hsame : ∀ {es}, p.kernel.Has es → k.Has es) : Accounted { p with kernel := k } := by
  obtain ⟨listening, client, hlisten, hconn, howns⟩ := h
  exact ⟨listening, client, hlisten, hconn, howns.same hsame⟩

/-- Something happens to a socket of the transport. -/
theorem Accounted.ages {k : Kernel} {data : Bool} {fd : Nat} (h : p.Accounted)
    (hfd : p.daemonFd data = some fd)
    (hages : ∀ {s es}, p.kernel.Has (⟨fd, s⟩ :: es) →
      ∃ s', k.Has (⟨fd, s'⟩ :: es) ∧ Kernel.Ages s s') : Accounted { p with kernel := k } := by
  obtain ⟨listening, client, hlisten, hconn, howns⟩ := h
  have hown : p.transport.dataFd = some fd ∨ p.transport.confFd = some fd := by
    cases data with
    | true => exact Or.inl hfd
    | false => exact Or.inr hfd
  exact ⟨listening, client, hlisten, hconn, howns.ages hown hages⟩

/-- The loop never waits for longer than a tenth of a second. -/
theorem computeTimeoutMs_le (now : Nat) (sv : XrServer) :
    (sv.computeTimeoutMs now).toInt.toNat ≤ kLongestPauseMs := by
  rw [XrServer.computeTimeoutMs_eq]
  simp only [kLongestPauseMs]
  omega

/-- Every step accounts for its sockets. -/
theorem Accounted.step (h : p.Accounted) (op : Op) : (p.step op).Accounted := by
  cases op with
  | poll now sv => exact h.same fun hk => hk.pause (computeTimeoutMs_le now sv)
  | tryAccept answers => exact h.tryAccept answers
  | transferClient | transferDaemon =>
      unfold Process.step
      simp only
      split
      · exact h
      · exact h.same fun hk => hk.transfer _
  | dropConnection => exact h.dropConnection
  | openOther s => exact h.openOther s
  | closeOther i => exact h.closeOther i
  | beginConnect band data conf =>
      obtain ⟨listening, client, hlisten, hconn, howns⟩ := h
      exact ⟨listening, client, hlisten, hconn, howns.beginConnect band data conf⟩
  | pollConnect data conf =>
      obtain ⟨listening, client, hlisten, hconn, howns⟩ := h
      exact ⟨listening, client, hlisten, hconn, (howns.pollConnect data conf).1⟩
  | close =>
      obtain ⟨listening, client, hlisten, hconn, howns⟩ := h
      exact ⟨listening, client, hlisten, hconn, howns.close⟩
  | settle data ok =>
      unfold Process.step
      simp only
      split
      · exact h
      · rename_i fd hfd
        exact h.ages hfd fun hk => hk.settle ok
  | hangUp data =>
      unfold Process.step
      simp only
      split
      · exact h
      · rename_i fd hfd
        exact h.ages hfd fun hk => hk.hangUp

/-- Before it listens the process has the sockets of others only. -/
theorem Accounted.initial (paths : DaemonPaths) (before : List Socket) :
    (initial paths before).Accounted ∧ (Process.initial paths before).listenFd = none := by
  unfold Process.initial
  induction before using List.reverseRecOn with
  | nil =>
      exact ⟨⟨[], [], .none, .none, [], .closed rfl rfl, Descriptors.holds_empty, rfl,
        by simp⟩, rfl⟩
  | append_singleton before s ih =>
      rw [List.foldl_append]
      exact ⟨ih.1.openOther s, ih.2⟩

/-- What holds after listening and is kept by every step holds at every moment. -/
theorem run_rule {P : Process → Prop} {paths : DaemonPaths} {before : List Socket}
    {answers : ListenAnswers} (hlisten : P ((Process.initial paths before).listen answers).2)
    (hstep : ∀ p op, P p → P (p.step op)) (ops : List Op) : P (run paths before answers ops) := by
  unfold run
  generalize (Process.initial paths before).listen answers = r at hlisten
  obtain ⟨failed, p⟩ := r
  cases failed with
  | some why => exact hlisten
  | none =>
      induction ops using List.reverseRecOn with
      | nil => exact hlisten
      | append_singleton ops op ih =>
          simp only [List.foldl_append] at ih ⊢
          exact hstep _ op ih

/-- At every moment the process has its own sockets and those of others. -/
theorem run_accounted (paths : DaemonPaths) (before : List Socket) (answers : ListenAnswers)
    (ops : List Op) : (run paths before answers ops).Accounted := by
  obtain ⟨hinitial, hnew⟩ := Accounted.initial paths before
  exact run_rule (hinitial.listen hnew answers) (fun _ op h => h.step op) ops

/-- In the end only the sockets of others are left. -/
theorem Accounted.shutdown (h : p.Accounted) : p.shutdown.kernel.Has p.others := by
  obtain ⟨listening, client, hlisten, hconn, howns⟩ := h.dropConnection
  have hothers : p.dropConnection.others = p.others := by
    unfold Process.dropConnection
    split <;> rfl
  have hgone : p.dropConnection.connFd = none := by
    unfold Process.dropConnection
    split
    · assumption
    · rfl
  rw [hgone] at hconn
  cases hconn
  unfold Process.shutdown
  simp only [Process.step]
  rw [← hothers]
  cases hfd : p.dropConnection.listenFd with
  | none =>
      rw [hfd] at hlisten
      cases hlisten
      exact howns.close_has
  | some fd =>
      rw [hfd] at hlisten
      cases hlisten
      exact howns.closeOther.close_has

/-! ## The link in the history -/

/-- The link is up if it was opened last. -/
def linkUp (history : List LinkEvent) : Bool :=
  match history.getLast? with
  | some (.opened _) => true
  | _ => false

/-- Whether the link is up is decided by the last event. -/
@[simp]
theorem linkUp_append_singleton (history : List LinkEvent) (e : LinkEvent) :
    linkUp (history ++ [e]) = linkUp [e] := by
  simp [linkUp]

/-- The transport has its sockets exactly while the link is up. -/
def Tracked (p : Process) : Prop :=
  p.transport.dataFd.isSome = linkUp p.history ∧ p.transport.confFd.isSome = linkUp p.history

/-- Accepting clients leaves the transport alone. -/
theorem tryAccept_frame (answers : List AcceptAnswer) (p : Process) :
    (p.tryAccept answers).transport = p.transport ∧
      (p.tryAccept answers).history = p.history := by
  induction answers generalizing p with
  | nil => exact ⟨rfl, rfl⟩
  | cons answer answers ih =>
      unfold tryAccept
      split
      · exact ⟨rfl, rfl⟩
      · cases answer with
        | failed | exhausted => exact ⟨rfl, rfl⟩
        | accepted fcntl =>
            simp only
            split
            · exact ih _
            · split
              · exact ih _
              · exact ih _

/-- Asking for a connection opens and closes nothing. -/
theorem pollConnect_fds (data conf : PollAnswers) (t : PosixDaemonTransport) (k : Kernel) :
    (t.pollConnect data conf k).2.dataFd = t.dataFd ∧
      (t.pollConnect data conf k).2.confFd = t.confFd := by
  unfold PosixDaemonTransport.pollConnect
  simp only
  split
  · exact ⟨rfl, rfl⟩
  · split <;> exact ⟨rfl, rfl⟩

/-- Every step keeps the sockets in agreement with the history of the link. -/
theorem Tracked.step (h : p.Tracked) (haccounted : p.Accounted) (op : Op) : (p.step op).Tracked := by
  cases op with
  | tryAccept answers =>
      obtain ⟨htransport, hhistory⟩ := tryAccept_frame answers p
      unfold Tracked Process.step
      simp only [htransport, hhistory]
      exact h
  | dropConnection =>
      unfold Process.step Process.dropConnection
      simp only
      split <;> exact h
  | beginConnect band data conf =>
      obtain ⟨listening, client, -, -, howns⟩ := haccounted
      unfold Tracked Process.step
      rcases howns.beginConnect_cases band data conf with
        ⟨k', heq, -⟩ | ⟨t', k', dfd, cfd, ds, cs, heq, -, hdata, hconf, -⟩
      · simp [heq, linkUp]
      · simp [heq, linkUp, hdata, hconf]
  | pollConnect data conf =>
      obtain ⟨hdata, hconf⟩ := pollConnect_fds data conf p.transport p.kernel
      unfold Tracked Process.step
      simp only [hdata, hconf]
      exact h
  | close =>
      unfold Tracked Process.step
      simp [PosixDaemonTransport.close, linkUp]
  | poll | openOther => exact h
  | transferClient | transferDaemon | settle | hangUp | closeOther =>
      unfold Process.step
      simp only
      split <;> exact h

/-- Listening leaves the transport alone. -/
theorem listen_frame (answers : ListenAnswers) (p : Process) :
    (p.listen answers).2.transport = p.transport ∧ (p.listen answers).2.history = p.history := by
  unfold listen
  split
  · exact ⟨rfl, rfl⟩
  · simp only
    split
    · exact ⟨rfl, rfl⟩
    · split
      · exact ⟨rfl, rfl⟩
      · split
        · exact ⟨rfl, rfl⟩
        · split <;> exact ⟨rfl, rfl⟩

/-- At first there is no link. -/
theorem initial_tracked (paths : DaemonPaths) (before : List Socket) :
    (Process.initial paths before).Tracked := by
  unfold Process.initial
  induction before using List.reverseRecOn with
  | nil => exact ⟨rfl, rfl⟩
  | append_singleton before s ih =>
      rw [List.foldl_append]
      exact ih

/-- In every run the sockets agree with the history of the link. -/
theorem run_tracked (paths : DaemonPaths) (before : List Socket) (answers : ListenAnswers)
    (ops : List Op) : (run paths before answers ops).Tracked := by
  obtain ⟨hinitial, hnew⟩ := Accounted.initial paths before
  obtain ⟨htransport, hhistory⟩ := listen_frame answers (Process.initial paths before)
  have htracked : ((Process.initial paths before).listen answers).2.Tracked := by
    unfold Tracked
    rw [htransport, hhistory]
    exact initial_tracked paths before
  exact (run_rule (P := fun p => p.Accounted ∧ p.Tracked)
    ⟨hinitial.listen hnew answers, htracked⟩
    (fun _ op h => ⟨h.1.step op, h.2.step h.1 op⟩) ops).2

end Process

/-! ## The link of the backend -/

/-- What an event of the backend means for the link. -/
def linkEvent? : Event → Option LinkEvent
  | .opened _ band => some (.opened band)
  | .connectRefused band => some (.refused band)
  | .closed => some .closed
  | _ => none

/-- What a history of the backend did to its link. -/
def linkEvents (trace : List Event) : List LinkEvent :=
  trace.filterMap linkEvent?

theorem linkEvents_append (trace events : List Event) :
    linkEvents (trace ++ events) = linkEvents trace ++ linkEvents events :=
  List.filterMap_append

/-- The states in which the backend has a link. -/
def onSockets : BackendState → Bool
  | .disconnected | .faulted => false
  | _ => true

/-- The link is up exactly in those states. -/
def LinkTracked (b : LorahamBackend) : Prop :=
  Process.linkUp (linkEvents b.trace) = onSockets b.state

namespace LinkTracked

variable {b b' : LorahamBackend}

/-- A step that does nothing to the link. -/
theorem plain (h : LinkTracked b) (events : List Event) (htrace : b'.trace = b.trace ++ events)
    (hplain : ∀ e ∈ events, linkEvent? e = none) (hstate : onSockets b'.state = onSockets b.state) :
    LinkTracked b' := by
  have hnil : linkEvents events = [] := List.filterMap_eq_nil_iff.mpr hplain
  unfold LinkTracked at h ⊢
  rw [htrace, linkEvents_append, hnil, List.append_nil, hstate]
  exact h

/-- A step after which the link is closed. -/
theorem closed (trace events : List Event) (htrace : b'.trace = trace ++ .closed :: events)
    (hplain : ∀ e ∈ events, linkEvent? e = none) (hstate : onSockets b'.state = false) :
    LinkTracked b' := by
  have hevents : linkEvents (.closed :: events) = [.closed] := by
    have hnil : events.filterMap linkEvent? = [] := List.filterMap_eq_nil_iff.mpr hplain
    simp [linkEvents, linkEvent?, hnil]
  unfold LinkTracked
  rw [htrace, hstate, linkEvents_append, hevents]
  exact Process.linkUp_append_singleton _ _

/-- A callback does nothing to the link. -/
theorem notify (h : LinkTracked b) (call : SinkCall) : LinkTracked (b.notify call) :=
  h.plain _ rfl (by simp [linkEvent?]) rfl

/-- A reset closes the link and leaves the backend disconnected. -/
theorem resetLinkUnconfigured (b : LorahamBackend) : LinkTracked b.resetLinkUnconfigured :=
  closed b.trace [] rfl (by simp) rfl

/-- A fault closes the link and leaves the backend faulted. -/
theorem enterFault (b : LorahamBackend) : LinkTracked b.enterFault :=
  closed (b.logTxOutcome .unconfirmed).trace [] rfl (by simp) rfl

/-- A disconnect closes the link. -/
theorem handleDisconnect (b : LorahamBackend) : LinkTracked b.handleDisconnect := by
  unfold LorahamBackend.handleDisconnect
  split
  · exact enterFault b
  · exact (enterFault b).notify _
  · exact (resetLinkUnconfigured b).notify _

/-- The line for an answer does nothing to the link. -/
theorem confirmation_plain (f : Loraham.Frame) (b : LorahamBackend) :
    ∀ e ∈ confirmation f b, linkEvent? e = none := by
  unfold confirmation
  split <;> simp [linkEvent?]

/-- Every quiet step keeps the state in agreement with the link. -/
theorem quiet {x y : Snapshot} (h : LinkTracked x.1) (hstep : QuietStep x y) :
    LinkTracked y.1 := by
  cases hstep with
  | answers | dataPush | dataDrained | discard => exact h
  | connected b hstate => exact h.plain [] (by simp) (by simp) (by simp [hstate, onSockets])
  | confWritten => exact h
  | confWrite | configQuiet | confQuiet | dataWrite | dataRead | dataIgnored | dataHeard
  | confDiscard => exact h.plain _ rfl (by simp [linkEvent?]) rfl
  | dataWriteLast b n hstate =>
      exact h.plain _ rfl (by simp [linkEvent?]) (by simp [hstate, onSockets])
  | dataFenced b unread f rest outcome hstate =>
      exact h.plain _ rfl (by simpa [linkEvent?] using confirmation_plain f b)
        (by simp [hstate, onSockets])
  | dataCleared => exact resetLinkUnconfigured _
  | drainLost | drainExpired => exact enterFault _

/-- Every step that calls the session keeps the state in agreement with the link. -/
theorem call {x y : Snapshot} {call : SinkCall} (h : LinkTracked x.1)
    (hstep : CallStep call x y) : LinkTracked y.1 := by
  cases hstep with
  | configSucceed b chunk rest hstate =>
      refine notify (h.plain [.confReceived chunk] rfl (by simp [linkEvent?]) ?_) _
      simp [hstate, onSockets]
  | configFail b c => exact (resetLinkUnconfigured c).notify _
  | lost b c => exact handleDisconnect c
  | received b unread f rest rx =>
      have hheard : LinkTracked
          { b with parser := rest, trace := b.trace ++ [.dispatched f, .loggedRx rx] } :=
        h.plain _ rfl (by simp [linkEvent?]) rfl
      exact hheard.notify _
  | completed b unread f rest outcome hstate =>
      refine notify (h.plain _ rfl (by simpa [linkEvent?] using confirmation_plain f b) ?_) _
      simp [hstate, onSockets]

theorem abandonPendingTx (h : LinkTracked b) : LinkTracked b.abandonPendingTx := by
  unfold LorahamBackend.abandonPendingTx
  split <;> rename_i hstate
  · exact h.plain [] (by simp) (by simp) (by simp [hstate, onSockets])
  · exact resetLinkUnconfigured b
  · exact h

/-- Stopping closes the link, unless an answer is still awaited on it. -/
theorem stop (h : LinkTracked b) : LinkTracked b.stop := by
  unfold LorahamBackend.stop
  split
  · exact h
  · exact resetLinkUnconfigured b

/-- A request to configure opens the link, or leaves a backend without one disconnected. -/
theorem beginConfigure (h : LinkTracked b) (requested : RadioConfig) (hready : b.state ≠ .ready) :
    LinkTracked (b.beginConfigure requested).2 := by
  have hcases := beginConfigure_cases requested b
  generalize b.beginConfigure requested = r at hcases
  cases hcases with
  | refused => exact h
  | unreachable band transport hstate =>
      have hdown : b.state = .disconnected := hstate.resolve_right hready
      unfold LinkTracked
      simp [record, linkEvents, linkEvent?, hdown, onSockets, Process.linkUp]
  | opened band setCmd transport =>
      unfold LinkTracked
      simp [openLink, linkEvents, linkEvent?, onSockets, Process.linkUp]

/-- A request to transmit keeps the state in agreement with the link. -/
theorem submitTx (h : LinkTracked b) (data : Bytes) : LinkTracked (b.submitTx data).2 := by
  have hcases := submitTx_cases data b
  generalize b.submitTx data = r at hcases
  cases hcases with
  | refused => exact h
  | failed => exact resetLinkUnconfigured _
  | accepted transport off writes state hstate _ _ hnext =>
      refine h.plain (.submitted data :: writes.map .dataSent) (by simp [wrote, holdTx])
        (by simp [linkEvent?]) ?_
      rcases hnext with rfl | rfl <;> simp [hstate, onSockets]

end LinkTracked

/-- The link is up exactly in the states that have one, in every run of the server. -/
def linkTracked (env : BridgeEnv) : Extension (coupling env) where
  idle _ b _ := LinkTracked b
  active _ _ b _ := LinkTracked b
  initial := rfl
  idle_environment _ _ h := h
  active_environment _ _ h := h
  idle_poll := by
    intro past b unread b' unread' _ h hstep
    cases hstep with
    | quiet hstep => exact h.quiet hstep
    | call hstep => exact h.call hstep
  quiet_poll _ h hstep := h.quiet hstep
  call_poll _ h hstep _ := h.call hstep
  accept _ _ h := h
  parser _ h := h
  parserError _ h _ := h
  frame := by
    intro past s b f s' b' hC h hopen hout
    cases hout with
    | configRefused _ _ _ requested b' hphase _ hbackend
    | configStarted requested _ b' hphase _ _ hbackend =>
        have hready : b.state ≠ .ready := by
          rcases hC.2.2.early (Or.inr (Or.inr hphase)) with hs | hs | hs <;> simp [hs]
        have hbegun := h.beginConfigure requested hready
        change b.beginConfigure requested = _ at hbackend
        rwa [hbackend] at hbegun
    | submitRefused b' _ _ _ _ hbackend | submitted b' _ _ _ _ hbackend =>
        have hsubmitted := h.submitTx f.payload
        change b.submitTx f.payload = _ at hbackend
        rwa [hbackend] at hsubmitted
    | _ => exact h
  tick := by
    intro past s b s' b' _ h hout
    cases hout with
    | abandoned => exact h.abandonPendingTx
    | _ => exact h
  consume _ h := h
  teardown _ h := LinkTracked.stop h.abandonPendingTx

/-- In every run the state of the backend agrees with its link. -/
theorem run_linkTracked (env : BridgeEnv) (ops : List XrServer.Op) :
    LinkTracked (XrServer.run env ops).backend := by
  have h := (linkTracked env).toInvariant.run ops
  unfold Invariant.holds at h
  split at h <;> exact h.2

/-! ## Main results -/

namespace Process

/-- Whatever the kernel answers: the process has the listening socket, the socket of the
client, the two sockets to the daemon of one band or neither, and those of others; they all
differ, those of the bridge are non-blocking, and only those of others are left in the end.
No `accept`, `connect`, `send` or `recv` of the bridge could block, and what it waits for on
purpose, in the `poll` of its loop and when it backs off, is at most a tenth of a second
each time. -/
theorem sockets_accounted (paths : DaemonPaths) (before : List Socket) (answers : ListenAnswers)
    (ops : List Op) :
    let p := run paths before answers ops
    (∃ listening client daemon, Serves p.listenFd listening ∧ Serves p.connFd client ∧
      p.transport.Refers daemon ∧
      p.kernel.sockets.Holds (daemon ++ (client ++ (listening ++ p.others))) ∧
      ((daemon ++ (client ++ (listening ++ p.others))).map Sigma.fst).Nodup) ∧
    p.kernel.waited = false ∧ (∀ ms ∈ p.kernel.pauses, ms ≤ 100) ∧
    p.shutdown.kernel.sockets.Holds p.others := by
  intro p
  have haccounted := run_accounted paths before answers ops
  have hshutdown := haccounted.shutdown
  obtain ⟨listening, client, hlisten, hconn, daemon, hrefers, hhas⟩ := haccounted
  exact ⟨⟨listening, client, daemon, hlisten, hconn, hrefers, hhas.sockets, hhas.sockets.nodup⟩,
    hhas.waited, hhas.pauses, hshutdown.sockets⟩

/-- The transport reports a connection only when the connects of both of its sockets to the
daemon's sockets of one band have succeeded.  The daemon may have hung up since: that shows
when the sockets are used.  And it does report a connection when both are established and
the kernel has nothing against it. -/
theorem connection_reported (paths : DaemonPaths) (before : List Socket)
    (answers : ListenAnswers) (ops : List Op) (data conf : PollAnswers) :
    let p := run paths before answers ops
    ((p.transport.pollConnect data conf p.kernel).1 = .connected →
      p.transport.Both Socket.Joined p.kernel) ∧
    (data = ⟨true, false, true⟩ → conf = ⟨true, false, true⟩ →
      p.transport.Both (·.progress = .established) p.kernel →
      (p.transport.pollConnect data conf p.kernel).1 = .connected) := by
  intro p
  obtain ⟨listening, client, -, -, howns⟩ := run_accounted paths before answers ops
  refine ⟨(howns.pollConnect data conf).2, ?_⟩
  rintro rfl rfl hestablished
  exact PosixDaemonTransport.pollConnect_of_established hestablished

/-- One client is accepted, one refused, and a third has to wait for want of descriptors;
then a connect takes its time. -/
def linking : List Op :=
  [.tryAccept [.accepted ⟨true, true⟩, .accepted ⟨true, true⟩, .exhausted],
    .beginConnect .band433 ⟨true, ⟨true, true⟩, .connected⟩ ⟨true, ⟨true, true⟩, .inProgress⟩]

/-- The paths of the daemon's sockets. -/
def devicePaths : DaemonPaths :=
  ⟨ascii "d433", ascii "c433", ascii "d868", ascii "c868"⟩

/-- Every call of `listen` succeeds. -/
def listening : ListenAnswers :=
  ⟨true, true, true, true, ⟨true, true⟩⟩

/-- The process while one connect is in progress. -/
def linked : Process :=
  run devicePaths [{}] listening linking

/-- The connect that is in progress succeeds, and the daemon hangs up the other socket. -/
def settling : List Op :=
  linking ++ [.settle false true, .hangUp true]

/-- A connection in progress is not reported, and one that was established is. -/
theorem connection_reported_linking :
    (linked.transport.pollConnect ⟨true, false, true⟩ ⟨true, false, true⟩ linked.kernel).1 =
        .connecting ∧
      ∃ p : Process, p = run devicePaths [{}] listening settling ∧
        p.transport.Both Socket.Joined p.kernel := by
  have hreported : ((run devicePaths [{}] listening settling).transport.pollConnect
      ⟨true, false, true⟩ ⟨true, false, true⟩
      (run devicePaths [{}] listening settling).kernel).1 = .connected := by
    decide +kernel
  obtain ⟨hsound, -⟩ := connection_reported devicePaths [{}] listening settling
    ⟨true, false, true⟩ ⟨true, false, true⟩
  exact ⟨by decide +kernel, _, rfl, hsound hreported⟩

end Process

/-- If the transport of a process was asked for what the backend of a server did to its
link, then it has both of its sockets open exactly while the backend is neither
disconnected nor faulted, and none otherwise. -/
theorem daemon_sockets_iff (env : BridgeEnv) (serverOps : List XrServer.Op) (paths : DaemonPaths)
    (before : List Socket) (answers : ListenAnswers) (ops : List Process.Op)
    (hlink : (Process.run paths before answers ops).history =
      linkEvents (XrServer.run env serverOps).backend.trace) :
    (Process.run paths before answers ops).transport.dataFd.isSome =
        onSockets (XrServer.run env serverOps).backend.state ∧
      (Process.run paths before answers ops).transport.confFd.isSome =
        onSockets (XrServer.run env serverOps).backend.state := by
  obtain ⟨hdata, hconf⟩ := Process.run_tracked paths before answers ops
  have hlinked : Process.linkUp (linkEvents (XrServer.run env serverOps).backend.trace) =
      onSockets (XrServer.run env serverOps).backend.state := run_linkTracked env serverOps
  rw [hlink, hlinked] at hdata hconf
  exact ⟨hdata, hconf⟩

/-- A client that asks for a configuration, with both sockets of the daemon opened for it. -/
theorem daemon_sockets_iff_linking :
    let env : BridgeEnv :=
      ⟨⟨⟨[]⟩, fun _ _ => none, defaultTimeouts, 65536, fun _ n => n⟩, 2000, 30000⟩
    let ops : List XrServer.Op :=
      [⟨0, {}, .accept none⟩,
        ⟨1, { beginConnect := [true] }, .feed (frameBytes ⟨.hello, 0, [kVersion]⟩ ++
          frameBytes ⟨.configure, 0, packConfig meshConfig⟩)⟩]
    let p := Process.run Process.devicePaths [] Process.listening Process.linking
    p.history = linkEvents (XrServer.run env ops).backend.trace ∧
      (p.transport.dataFd.isSome = onSockets (XrServer.run env ops).backend.state ∧
        p.transport.confFd.isSome = onSockets (XrServer.run env ops).backend.state) := by
  intro env ops p
  have hlink : p.history = linkEvents (XrServer.run env ops).backend.trace := by decide +kernel
  exact ⟨hlink, daemon_sockets_iff env ops Process.devicePaths [] Process.listening
    Process.linking hlink⟩

end LorahamBridge
