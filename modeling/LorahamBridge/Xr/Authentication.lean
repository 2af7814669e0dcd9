import LorahamBridge.Xr.OutputTrace

/-!
# Authentication

With a password configured, a session grants nothing before its client has answered
the challenge.  Everything the session does for an authenticated client, frames it
sends and calls it makes, is preceded by a response that is the keyed hash of the one
nonce it sent, and no session evaluates a second response.

Main results:

- Theorem `replay_gated`: the invariant of the automaton.
- Theorem `authentication_gate`: no session of any run gets around it.
-/

namespace LorahamBridge

open Foundation Extradio

/-- What a session does only for an authenticated client. -/
def Privileged : SessionEvent → Prop
  | .emitted f =>
      f.type = .authResult ∧ f.payload = [authOk] ∨ f.type = .configResult ∨
        f.type = .rxPacket ∨ f.type = .txResult ∨ f.type = .ping
  | .configureCalled _ _ | .submitCalled _ _ _ => True
  | _ => False

/-- The responses a session evaluated. -/
def verifications (log : List SessionEvent) : List Bytes :=
  log.filterMap fun
    | .verified response _ => some response
    | _ => none

/-- A response to this challenge, received after it was sent, is its keyed hash. -/
def Proven (env : XrEnv) (nonce : Bytes) (log : List SessionEvent) : Prop :=
  ∃ earlier f between, log = earlier ++ .received f :: between ∧
    ⟨.authChallenge, 0, nonce⟩ ∈ emittedFrames earlier ∧
    f.type = .authResponse ∧ f.payload.length = kAuthResponseSize ∧
    env.hmac env.auth.password nonce = some f.payload

/-- A proof stays a proof. -/
theorem Proven.append {env : XrEnv} {nonce : Bytes} {log : List SessionEvent}
    (h : Proven env nonce log) (events : List SessionEvent) : Proven env nonce (log ++ events) := by
  obtain ⟨earlier, f, between, rfl, hproof⟩ := h
  exact ⟨earlier, f, between ++ events, by simp, hproof⟩

/-! ## The gate -/

/-- The stages before a response is evaluated. -/
def BeforeGate : Stage → Prop
  | .start | .acked | .challenged _ => True
  | _ => False

/-- The stages behind the gate. -/
def Granted : Stage → Prop
  | .admitted | .configuring _ _ | .ready => True
  | .due f next => ¬(f = ⟨.authResult, 0, [authFail]⟩ ∧ next = .closing)
  | _ => False

/-- The frame was received after the challenge was sent. -/
def HeardAfter (nonce : Bytes) (f : Frame) (log : List SessionEvent) : Prop :=
  ∃ earlier between, log = earlier ++ .received f :: between ∧
    ⟨.authChallenge, 0, nonce⟩ ∈ emittedFrames earlier

/-- What a history has let through, by its stage. -/
structure Gated (env : XrEnv) (log : List SessionEvent) (c : Conduct) : Prop where
  heard : ∀ nonce f, c.stage = .challenged nonce → c.heard = some f → HeardAfter nonce f log
  unverified : BeforeGate c.stage → verifications log = []
  once : (verifications log).length ≤ 1
  granted : Granted c.stage → ∃ nonce, Proven env nonce log
  gate : ∀ earlier e, earlier ++ [e] <+: log → Privileged e → ∃ nonce, Proven env nonce earlier

theorem verifications_append (log events : List SessionEvent) :
    verifications (log ++ events) = verifications log ++ verifications events :=
  List.filterMap_append

namespace Gated

variable {env : XrEnv} {log : List SessionEvent} {c c' : Conduct} {e : SessionEvent}

/-- One more event, which passes the gate only if it is open. -/
theorem gate_append (h : Gated env log c) (he : Privileged e → Granted c.stage)
    (earlier : List SessionEvent) (e' : SessionEvent) (hle : earlier ++ [e'] <+: log ++ [e])
    (hprivileged : Privileged e') : ∃ nonce, Proven env nonce earlier := by
  rcases List.prefix_concat_iff.mp hle with heq | hle
  · obtain ⟨rfl, hlast⟩ := List.append_inj' heq rfl
    exact h.granted (he ((List.cons.inj hlast).1 ▸ hprivileged))
  · exact h.gate earlier e' hle hprivileged

/-- No response is evaluated, and nobody gets past the gate. -/
theorem append (h : Gated env log c) (hverified : verifications [e] = [])
    (hheard : ∀ nonce f, c'.stage = .challenged nonce → c'.heard = some f →
      HeardAfter nonce f (log ++ [e]))
    (hearly : BeforeGate c'.stage → BeforeGate c.stage)
    (hgranted : Granted c'.stage → Granted c.stage)
    (hprivileged : Privileged e → Granted c.stage) : Gated env (log ++ [e]) c' where
  heard := hheard
  unverified hstage := by
    rw [verifications_append, hverified, h.unverified (hearly hstage), List.append_nil]
  once := by
    rw [verifications_append, hverified, List.append_nil]
    exact h.once
  granted hstage := (h.granted (hgranted hstage)).imp fun _ hproven => hproven.append [e]
  gate := h.gate_append hprivileged

/-- The session is behind the gate and stays there, or closes. -/
theorem behind (h : Gated env log c) (hgranted : Granted c.stage)
    (hverified : verifications [e] = []) (hlate : ¬BeforeGate c'.stage) :
    Gated env (log ++ [e]) c' := by
  refine h.append hverified ?_ (fun hearly => absurd hearly hlate) (fun _ => hgranted)
    fun _ => hgranted
  intro nonce f hstage
  exact absurd (hstage ▸ trivial) hlate

/-- The only response of a session is evaluated. -/
theorem evaluate (h : Gated env log c) {response : Bytes} {ok : Bool} (hearly : BeforeGate c.stage)
    (hlate : ¬BeforeGate c'.stage)
    (hgranted : Granted c'.stage → ∃ nonce, Proven env nonce (log ++ [.verified response ok])) :
    Gated env (log ++ [.verified response ok]) c' where
  heard nonce f hstage := absurd (hstage ▸ trivial) hlate
  unverified hstage := absurd hstage hlate
  once := by
    rw [verifications_append, h.unverified hearly]
    exact le_rfl
  granted := hgranted
  gate := h.gate_append False.elim

/-- Every move of a session keeps the gate. -/
theorem move (h : Gated env log c) (hpassword : env.auth.passwordConfigured = true)
    (hsent : SentAt env.auth c.stage (emittedFrames log)) (howed : Promised log c)
    (hmove : c.Move env e c') : Gated env (log ++ [e]) c' := by
  cases hmove with
  | received f =>
      refine h.append rfl ?_ id id False.elim
      rintro nonce f' hstage ⟨⟩
      rw [hstage] at hsent
      exact ⟨log, [], rfl, by simp [hsent.2]⟩
  | ignored call =>
      refine h.append rfl ?_ id id False.elim
      intro nonce f hstage hf
      obtain ⟨earlier, between, rfl, hnonce⟩ := h.heard nonce f hstage hf
      exact ⟨earlier, between ++ [.callback call], by simp, hnonce⟩
  | acked hstage =>
      exact h.append rfl (by simp) (by simp [BeforeGate, hstage]) False.elim (by simp [Privileged])
  | challenged nonce hstage =>
      exact h.append rfl (by simp) (by simp [BeforeGate, hstage]) False.elim (by simp [Privileged])
  | admitted hstage hauth => simp [hauth] at hpassword
  | closed => exact h.append rfl (by simp) False.elim False.elim False.elim
  | configInvalid hstage | configRefused _ hstage | configStarted _ _ _ hstage
  | submitRefused _ _ hstage | abandoned hstage | configured _ _ _ hstage
  | configFailed _ _ _ hstage | forwarded _ hstage | completed _ _ hstage =>
      exact h.behind (by simp [Granted, hstage]) rfl (by simp [BeforeGate])
  | pinged hstage | ponged hstage | submitted _ hstage =>
      exact h.behind (by simp [Granted, hstage]) rfl (by simp [BeforeGate, hstage])
  | refused response nonce hstage =>
      exact h.evaluate (by simp [BeforeGate, hstage]) (by simp [BeforeGate])
        fun hnot => absurd ⟨rfl, rfl⟩ hnot
  | authenticated f nonce hstage hf htype hok =>
      refine h.evaluate (by simp [BeforeGate, hstage]) (by simp [BeforeGate])
        fun _ => ⟨nonce, Proven.append ?_ _⟩
      obtain ⟨earlier, between, rfl, hnonce⟩ := h.heard nonce f hstage hf
      exact ⟨earlier, f, between, rfl, hnonce, htype, hmac_of_verifyAuthResponse hok⟩
  | paid f next hstage =>
      by_cases hfail : f = ⟨.authResult, 0, [authFail]⟩ ∧ next = .closing
      · obtain ⟨rfl, rfl⟩ := hfail
        exact h.append rfl (by simp) False.elim False.elim (by simp [Privileged, authFail, authOk])
      · have hlate : ¬BeforeGate next := by
          rcases (howed.owed f next hstage).2.2 with rfl | rfl | rfl <;>
            simp [BeforeGate]
        exact h.behind (by simpa [Granted, hstage] using hfail) rfl hlate

end Gated

/-- Every history with a password is gated. -/
theorem replay_gated {env : XrEnv} (hpassword : env.auth.passwordConfigured = true)
    {log : List SessionEvent} {c : Conduct} (h : replay env log = some c) : Gated env log c :=
  replay_induction
    ⟨by simp [Conduct.initial], fun _ => rfl, Nat.zero_le _, False.elim,
      fun _ _ hle => by simp at hle⟩
    (fun _ _ _ _ hreplay hlog hmove =>
      hlog.move hpassword (replay_sent hreplay) (replay_promised hreplay) hmove) h

/-! ## The challenge -/

/-- The challenges among some frames. -/
def challenges (frames : List Frame) : List Frame :=
  frames.filter (·.type == .authChallenge)

/-- A handshake has one challenge at most. -/
theorem Admission.challenges_le {auth : AuthConfig} {frames : List Frame}
    (h : Admission auth frames) : (challenges frames).length ≤ 1 := by
  unfold Admission at h
  split at h
  · obtain ⟨nonce, rfl⟩ := h
    simp [challenges]
  · simp [challenges, h]

/-- In operation there is none. -/
theorem Traffic.challenges {frames : List Frame} (h : Traffic frames) : challenges frames = [] := by
  refine List.filter_eq_nil_iff.mpr fun f hf => ?_
  rcases h f hf with htype | htype | htype <;> simp [htype]

/-- A server challenges its client once at most. -/
theorem Legal.challenges_le {auth : AuthConfig} {frames : List Frame} (h : Legal auth frames) :
    (challenges frames).length ≤ 1 := by
  obtain ⟨trace, htrace, hle⟩ := h
  refine (hle.sublist.filter _).length_le.trans ?_
  change (challenges trace).length ≤ 1
  cases htrace with
  | refused => simp [challenges]
  | unconfigured hadmission =>
      simpa [challenges] using hadmission.challenges_le
  | @served admission traffic hadmission cfg htraffic =>
      have hsplit : challenges (admission ++ XrSession.configOkFrame cfg :: traffic) =
          challenges admission ++ challenges traffic := by
        simp [challenges, XrSession.configOkFrame]
      rw [hsplit, htraffic.challenges, List.append_nil]
      exact hadmission.challenges_le

/-- With a password, whatever a session does for an authenticated client follows a
response to its one challenge, and it evaluates one response at most. -/
theorem authentication_gate {β : Type} (R : RadioBackend β) (env : XrEnv)
    (o : XrConnection.Opening β) (ops : List (XrConnection.Op β))
    (hpassword : env.auth.password ≠ []) :
    let s := (XrConnection.run R env o ops).1.session
    (∀ log e, log ++ [e] <+: s.log → Privileged e →
      ∃ nonce, challenges (emittedFrames s.log) = [⟨.authChallenge, 0, nonce⟩] ∧
        Proven env nonce log) ∧
      (verifications s.log).length ≤ 1 := by
  intro s
  obtain ⟨c, hreplay, -⟩ := (run_conducted R env o ops).conduct
  have hgated := replay_gated (by simpa [AuthConfig.passwordConfigured] using hpassword) hreplay
  refine ⟨?_, hgated.once⟩
  intro log e hle hprivileged
  obtain ⟨nonce, hproven⟩ := hgated.gate log e hle hprivileged
  refine ⟨nonce, ?_, hproven⟩
  obtain ⟨earlier, f, between, rfl, hnonce, -⟩ := hproven
  obtain ⟨rest, hlog⟩ := hle
  have hsent : ⟨.authChallenge, 0, nonce⟩ ∈ challenges (emittedFrames s.log) := by
    refine List.mem_filter.mpr ⟨?_, rfl⟩
    rw [← hlog]
    simp only [List.append_assoc, emittedFrames_append]
    exact List.mem_append_left _ hnonce
  have hone : (challenges (emittedFrames s.log)).length ≤ 1 := (replay_sent hreplay).legal.challenges_le
  obtain ⟨f, hf⟩ := List.length_eq_one_iff.mp (le_antisymm hone (List.length_pos_of_mem hsent))
  rw [hf, List.mem_singleton] at hsent
  rw [hf, hsent]

/-- A client that knows the hash is let in, behind its response. -/
theorem authentication_gate_admitted :
    let env : XrEnv :=
      ⟨⟨[112]⟩, fun _ nonce => some (nonce ++ nonce), defaultTimeouts, 65536, fun _ n => n⟩
    let nonce : Nonce := ⟨List.replicate 16 7, rfl⟩
    let s := (XrConnection.run lorahamRadio env ⟨0, 0, some nonce, {}⟩
      [⟨0, .feed (frameBytes ⟨.hello, 0, [kVersion]⟩)⟩,
        ⟨1, .feed (frameBytes ⟨.authResponse, 0, nonce.bytes ++ nonce.bytes⟩)⟩]).1.session
    emittedFrames s.log =
        [⟨.helloAck, 0, [kVersion]⟩, ⟨.authChallenge, 0, nonce.bytes⟩, ⟨.authResult, 0, [authOk]⟩] ∧
      (∀ log e, log ++ [e] <+: s.log → Privileged e →
        ∃ nonce, challenges (emittedFrames s.log) = [⟨.authChallenge, 0, nonce⟩] ∧
          Proven env nonce log) ∧
        (verifications s.log).length ≤ 1 :=
  ⟨by decide +kernel, authentication_gate lorahamRadio _ _ _ (by simp)⟩

end LorahamBridge
