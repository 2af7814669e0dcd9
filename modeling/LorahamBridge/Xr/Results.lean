import LorahamBridge.Xr.OutputTrace

/-!
# The requests and results of a session

How many transmissions a session has handed over, how many results it has sent, and
which result belongs to which request, all read off its history.

Main results:

- Theorem `replay_balanced`: every request has its result or still awaits it.
- Theorem `Conducted.balance`: the same for a session between two operations.
- Theorem `Conducted.result_of_request`: result `n` answers request `n`, and says what
  the backend has just reported.
-/

namespace LorahamBridge

open Foundation Extradio

/-! ## The balance -/

/-- The requests whose results are still to be sent: one in flight, or one whose
result is owed. -/
def Conduct.awaited (c : Conduct) : Nat :=
  (if c.flight.isSome then 1 else 0) +
    match c.stage with
    | .due f _ => if f.type = .txResult then 1 else 0
    | _ => 0

/-- Every request handed over has its result or still awaits it. -/
def Balanced (log : List SessionEvent) (c : Conduct) : Prop :=
  c.stage ≠ .closed → (view log).accepted.length = (view log).results.length + c.awaited

/-- Every move keeps requests and results balanced. -/
theorem Balanced.move {env : XrEnv} {log : List SessionEvent} {c c' : Conduct} {e : SessionEvent}
    (hreplay : replay env log = some c) (h : Balanced log c) (hmove : c.Move env e c') :
    Balanced (log ++ [e]) c' := by
  unfold Balanced Conduct.awaited at h ⊢
  cases hmove with
  | received f => simpa [SessionView.step, SessionView.receive_eq] using h
  | ignored | ponged => simpa [SessionView.step] using h
  | acked hstage | challenged _ hstage | admitted hstage | pinged hstage =>
      simpa [SessionView.step, SessionView.send, hstage] using h
  | configInvalid hstage => simpa [SessionView.step, SessionView.send_eq, hstage] using h
  | authenticated _ _ hstage | refused _ _ hstage | configRefused _ hstage
  | configStarted _ _ _ hstage | configured _ _ _ hstage | configFailed _ _ _ hstage =>
      simpa [SessionView.step, XrSession.configOkFrame, hstage] using h
  | submitRefused _ _ hstage | abandoned hstage | forwarded _ hstage =>
      simpa [SessionView.step, XrSession.rxFrame, hstage] using h
  | submitted f hstage hidle =>
      simp [SessionView.step, hstage, hidle] at h ⊢
      omega
  | completed seq outcome hstage hflight =>
      simpa [SessionView.step, XrSession.txResultFrame, hstage, hflight] using h
  | closed => simp
  | paid f next hstage =>
      -- Behind the frame that was owed no other is.
      have hnext := ((replay_promised hreplay).owed f _ hstage).2.2
      by_cases htype : f.type = .txResult
      · rcases hnext with rfl | rfl | rfl <;>
          simp [SessionView.step, SessionView.send, hstage, htype] at h ⊢ <;> omega
      · rcases hnext with rfl | rfl | rfl <;>
          simpa [SessionView.step, SessionView.send_eq, hstage, htype] using h

/-- Requests and results are balanced in every history of a session. -/
theorem replay_balanced {env : XrEnv} {log : List SessionEvent} {c : Conduct}
    (h : replay env log = some c) : Balanced log c :=
  replay_induction (fun _ => rfl) (fun _ _ _ _ hreplay hlog hmove => hlog.move hreplay hmove) h

/-- When a result is sent, all requests but the last one have theirs. -/
theorem accepted_of_result {env : XrEnv} {log : List SessionEvent} {f : Frame} {c : Conduct}
    (h : replay env (log ++ [.emitted f]) = some c) (htype : f.type = .txResult) :
    (view log).accepted.length = (view log).results.length + 1 := by
  rw [replay_append_singleton, Option.bind_eq_some_iff] at h
  obtain ⟨c₀, hreplay, hstep⟩ := h
  cases Conduct.move_of_step hstep with
  | acked | challenged | admitted | configInvalid | pinged => cases htype
  | paid f next hstage =>
      have hbalance := replay_balanced hreplay
      have hidle := ((replay_answering hreplay).owed f next hstage htype).1
      simpa [Balanced, Conduct.awaited, hstage, hidle, htype] using hbalance

/-- Between two operations at most the request in flight awaits its result. -/
theorem Conducted.balance {env : XrEnv} {s : XrSession} (h : Conducted env s)
    (hopen : s.phase ≠ .closed) :
    (view s.log).accepted.length =
      (view s.log).results.length + if s.txInFlight then 1 else 0 := by
  obtain ⟨c, hreplay, hagrees⟩ := h.conduct
  have hresting := hagrees.resting hopen
  have hbalance := replay_balanced hreplay fun hclosed => by
    simp [hclosed, Conduct.resting] at hresting
  have hawaited : c.awaited = if s.txInFlight then 1 else 0 := by
    unfold Conduct.awaited
    rw [hagrees.flight]
    cases hstage : c.stage <;> simp_all [Conduct.resting]
  rw [hbalance, hawaited]

/-! ## Results and their requests -/

theorem acceptedRequests_append (log events : List SessionEvent) :
    acceptedRequests (log ++ events) = acceptedRequests log ++ acceptedRequests events :=
  List.filterMap_append

/-- The accepted requests of the view. -/
theorem view_accepted (log : List SessionEvent) : (view log).accepted = acceptedRequests log := by
  rw [view_eq]

/-- A result keeps its place among the results, and so do the requests before it. -/
theorem view_of_emitted {log full : List SessionEvent} {f : Frame} (htype : f.type = .txResult)
    (hle : log ++ [.emitted f] <+: full) :
    (view full).results[(view log).results.length]? = some f ∧
      (view log).accepted <+: (view full).accepted := by
  obtain ⟨rest, rfl⟩ := hle
  refine ⟨?_, ?_⟩
  · simp [view_eq, emittedFrames, htype]
  · simp [view_eq, acceptedRequests, List.append_assoc]

/-- The history before a result was sent. -/
theorem emitted_of_result {log : List SessionEvent} {n : Nat} {f : Frame}
    (h : (view log).results[n]? = some f) :
    ∃ earlier, earlier ++ [.emitted f] <+: log ∧ f.type = .txResult ∧
      (view earlier).results.length = n := by
  induction log using List.reverseRecOn with
  | nil => simp [view, SessionView.empty] at h
  | append_singleton log e ih =>
      have hkeep : (view log).results[n]? = some f → ∃ earlier,
          earlier ++ [.emitted f] <+: log ++ [e] ∧ f.type = .txResult ∧
            (view earlier).results.length = n := fun hlog => by
        obtain ⟨earlier, hle, hrest⟩ := ih hlog
        exact ⟨earlier, hle.trans (List.prefix_append _ _), hrest⟩
      rw [view_append_singleton] at h
      cases e with
      | emitted g =>
          by_cases htype : g.type = .txResult
          · rw [SessionView.step, SessionView.send_eq, if_pos htype] at h
            rcases Nat.lt_or_ge n (view log).results.length with hn | hn
            · exact hkeep (by rwa [List.getElem?_append_left hn] at h)
            · rw [List.getElem?_append_right hn, List.getElem?_singleton] at h
              split at h <;> rename_i hlast
              · obtain rfl := Option.some.inj h
                exact ⟨log, List.prefix_rfl, htype, by omega⟩
              · cases h
          · exact hkeep (by simpa [SessionView.step, SessionView.send_eq, htype] using h)
      | received g => exact hkeep (by simpa [SessionView.step, SessionView.receive_eq] using h)
      | submitCalled seq payload accepted =>
          cases accepted <;> exact hkeep (by simpa [SessionView.step] using h)
      | _ => exact hkeep (by simpa [SessionView.step] using h)

/-- A result is owed only right after the backend has reported an outcome. -/
theorem replay_reported {env : XrEnv} {log : List SessionEvent} {c : Conduct} {f : Frame}
    {next : Stage} (h : replay env log = some c) (hdue : c.stage = .due f next)
    (htype : f.type = .txResult) :
    ∃ earlier outcome, log = earlier ++ [.callback (.onTxComplete outcome)] ∧
      f = XrSession.txResultFrame f.seq outcome := by
  rcases List.eq_nil_or_concat log with rfl | ⟨earlier, e, rfl⟩
  · cases h
    cases hdue
  · rw [List.concat_eq_append, replay_append_singleton, Option.bind_eq_some_iff] at h
    obtain ⟨c₀, hreplay, hstep⟩ := h
    cases Conduct.move_of_step hstep with
    | received f' hresting => simp [show c₀.stage = _ from hdue, Conduct.resting] at hresting
    | ignored call hrest => simp [hdue, Conduct.resting] at hrest
    | pinged hstage | ponged hstage | submitted _ hstage =>
        exact absurd (hstage.symm.trans hdue) (by simp)
    | paid f' next' hstage =>
        have hnext := ((replay_promised hreplay).owed f' _ hstage).2.2
        simp [show next' = _ from hdue] at hnext
    | completed seq outcome =>
        cases hdue
        exact ⟨earlier, outcome, by simp, rfl⟩
    | authenticated | refused | configRefused | configured | configFailed | forwarded =>
        cases hdue
        cases htype
    | _ => cases hdue

/-- Result `n` answers request `n` and says what the backend has just reported. -/
theorem Conducted.result_of_request {env : XrEnv} {s : XrSession} {n : Nat} {f : Frame}
    (h : Conducted env s) (hf : (view s.log).results[n]? = some f) :
    ∃ earlier payload outcome,
      earlier ++ [.callback (.onTxComplete outcome), .emitted f] <+: s.log ∧
      f = XrSession.txResultFrame f.seq outcome ∧ (acceptedRequests earlier).length = n + 1 ∧
      (acceptedRequests earlier)[n]? = some (f.seq, payload) := by
  obtain ⟨c, hreplay, -⟩ := h.conduct
  obtain ⟨log, hle, htype, hn⟩ := emitted_of_result hf
  obtain ⟨before, payload, between, hlog, -, hnone, -⟩ :=
    (replay_answering hreplay).answered log f hle htype
  obtain ⟨rest, hrest⟩ := hle
  obtain ⟨c₁, hreplay₁⟩ := replay_prefix (hrest ▸ hreplay)
  have hcount := accepted_of_result hreplay₁ htype
  obtain ⟨earlier, outcome, rfl, hframe⟩ : ∃ earlier outcome,
      log = earlier ++ [.callback (.onTxComplete outcome)] ∧
        f = XrSession.txResultFrame f.seq outcome := by
    rw [replay_append_singleton, Option.bind_eq_some_iff] at hreplay₁
    obtain ⟨c₀, hreplay₀, hstep⟩ := hreplay₁
    cases Conduct.move_of_step hstep with
    | acked | challenged | admitted | configInvalid | pinged => cases htype
    | paid f next hstage => exact replay_reported hreplay₀ hstage htype
  have haccepted : acceptedRequests earlier = acceptedRequests before ++ [(f.seq, payload)] := by
    have hsplit := congrArg acceptedRequests hlog
    rw [acceptedRequests_append, List.append_cons, acceptedRequests_append, hnone,
      acceptedRequests_append] at hsplit
    simpa [show acceptedRequests [SessionEvent.callback (.onTxComplete outcome)] = [] from rfl,
      show acceptedRequests [SessionEvent.submitCalled f.seq payload true] = [(f.seq, payload)]
        from rfl] using hsplit
  have hlength : (acceptedRequests earlier).length = n + 1 := by
    rw [view_accepted, acceptedRequests_append, hn] at hcount
    simpa [show acceptedRequests [SessionEvent.callback (.onTxComplete outcome)] = [] from rfl]
      using hcount
  refine ⟨earlier, payload, outcome, ⟨rest, by simpa using hrest⟩, hframe, hlength, ?_⟩
  rw [haccepted, List.length_append, List.length_singleton, Nat.add_right_cancel_iff] at hlength
  rw [haccepted, ← hlength, List.getElem?_concat_length]

end LorahamBridge
