import LorahamBridge.Loraham.ConfLines

/-!
# The bound on CONF lines

`pump_conf` gives up on a link when the bytes it keeps exceed the longest line.  It
checks this when a read has been appended and before complete lines are taken off,
so that the beginning of a line and a whole read count together, whatever lines the
read completes.

Main results:

- Theorem `pumpConf_tripped_iff`: the reads at which the bound trips.
- Theorem `not_tripped_of_short_lines`: with shorter lines it never does.
- Theorem `conf_bound_iff`: exactly when the bound rejects over-long lines only.
- Theorem `bound_trips_on_legal_lines`: a run in which it does not.
-/

namespace LorahamBridge

open Foundation Extradio Loraham

namespace LorahamBackend

/-! ## Lines within a limit -/

/-- Every line with its newline is within the limit, where `n` bytes of the first
have gone before; the last line still has room for its newline. -/
def linesFitFrom (limit n : Nat) : Bytes → Bool
  | [] => n < limit
  | c :: rest =>
      if c = 0x0A then decide (n < limit) && linesFitFrom limit 0 rest
      else linesFitFrom limit (n + 1) rest

/-- Every line, and what follows the last one, is shorter than the limit. -/
def linesFit (limit : Nat) (text : Bytes) : Bool :=
  linesFitFrom limit 0 text

/-- What has been counted is below the limit. -/
theorem linesFitFrom_lt {limit n : Nat} {text : Bytes} (h : linesFitFrom limit n text = true) :
    n < limit := by
  induction text generalizing n with
  | nil => simpa [linesFitFrom] using h
  | cons c rest ih =>
      unfold linesFitFrom at h
      split at h
      · simp only [Bool.and_eq_true, decide_eq_true_eq] at h
        exact h.1
      · have := ih h
        omega

/-- A beginning of a text with legal lines has legal lines. -/
theorem linesFitFrom_of_append {limit n : Nat} {text more : Bytes}
    (h : linesFitFrom limit n (text ++ more) = true) : linesFitFrom limit n text = true := by
  induction text generalizing n with
  | nil => simpa [linesFitFrom] using linesFitFrom_lt h
  | cons c rest ih =>
      rw [List.cons_append] at h
      unfold linesFitFrom at h ⊢
      split at h <;> rename_i hc
      · simp only [Bool.and_eq_true] at h
        rw [if_pos hc, Bool.and_eq_true]
        exact ⟨h.1, ih h.2⟩
      · rw [if_neg hc]
        exact ih h

/-- The beginning of a line is shorter than the limit. -/
theorem unterminated_lt_of_linesFitFrom {limit n : Nat} {text : Bytes}
    (h : linesFitFrom limit n text = true) :
    (unterminated text).length + (if 0x0A ∈ text then 0 else n) < limit := by
  induction text generalizing n with
  | nil =>
      simpa [linesFitFrom, unterminated] using h
  | cons c rest ih =>
      unfold linesFitFrom at h
      split at h <;> rename_i hc
      · simp only [Bool.and_eq_true] at h
        have hrest := ih h.2
        have hcut : unterminated (c :: rest) = unterminated rest :=
          unterminated_append (show LineStart [c] from Or.inr ⟨[], by simp [hc]⟩) rest
        rw [hcut, if_pos (by simp [hc])]
        split at hrest <;> omega
      · have hrest := ih h
        by_cases hmem : 0x0A ∈ rest
        · obtain ⟨before, after, rfl⟩ := List.append_of_mem hmem
          rw [if_pos hmem] at hrest
          rw [if_pos (by simp)]
          have hcut : unterminated (c :: (before ++ 0x0A :: after)) =
              unterminated (before ++ 0x0A :: after) := by
            have hleft := unterminated_append
              (show LineStart (c :: before ++ [0x0A]) from Or.inr ⟨_, rfl⟩) after
            have hright := unterminated_append
              (show LineStart (before ++ [0x0A]) from Or.inr ⟨_, rfl⟩) after
            simp only [List.append_assoc, List.cons_append, List.nil_append] at hleft hright
            rw [hleft, hright]
          rwa [hcut]
        · have hnot : 0x0A ∉ c :: rest := by
            simp only [List.mem_cons, not_or]
            exact ⟨Ne.symm hc, hmem⟩
          rw [if_neg hmem, unterminated_of_not_mem hmem] at hrest
          rw [if_neg hnot, unterminated_of_not_mem hnot, List.length_cons]
          omega

/-- What follows the last line is below the limit. -/
theorem unterminated_lt_of_linesFit {limit : Nat} {text : Bytes}
    (h : linesFit limit text = true) : (unterminated text).length < limit := by
  have hlt := unterminated_lt_of_linesFitFrom h
  split at hlt <;> omega

/-! ## Where the bound trips -/

/-- `pump_conf` has given up because of the bound. -/
def boundTripped (r : ConfOutcome × LorahamBackend) : Prop :=
  r.1 = .fatal ∧ kMaxConfLine < r.2.confLine.length

/-- The last read of a call, together with the unfinished line it continues, exceeds
the longest line. -/
def Overfull (b c : LorahamBackend) : Prop :=
  ∃ reads chunk, c.trace = b.trace ++ (reads ++ [chunk]).map Event.confReceived ∧
    kMaxConfLine <
      (unterminated ((link b.trace).confReceived ++ reads.flatten)).length + chunk.length

variable {b b' c : LorahamBackend} {chunk : Bytes}

/-- Without a read nothing overflows. -/
theorem not_overfull_of_unread (h : c.trace = b.trace) : ¬Overfull b c := by
  rintro ⟨reads, chunk, htrace, -⟩
  have hlen := congrArg List.length (h.symm.trans htrace)
  simp at hlen

/-- A call with a single read. -/
theorem overfull_iff_of_one (h : c.trace = b.trace ++ [.confReceived chunk]) :
    Overfull b c ↔
      kMaxConfLine < (unterminated (link b.trace).confReceived).length + chunk.length := by
  constructor
  · rintro ⟨reads, chunk', htrace, hfull⟩
    have heq := List.append_cancel_left (htrace.symm.trans h)
    cases reads with
    | nil =>
        simp only [List.nil_append, List.map_cons, List.map_nil, List.cons.injEq,
          Event.confReceived.injEq, and_true] at heq
        simpa [heq] using hfull
    | cons read reads => simp at heq
  · intro hfull
    exact ⟨[], chunk, by simpa using h, by simpa using hfull⟩

/-- A call that goes on after a first read that fits. -/
theorem overfull_iff_of_more (hfirst : b'.trace = b.trace ++ [.confReceived chunk])
    (hfits : (unterminated (link b.trace).confReceived).length + chunk.length ≤ kMaxConfLine)
    (hmore : ∃ reads : List Bytes, c.trace = b'.trace ++ reads.map Event.confReceived) :
    Overfull b c ↔ Overfull b' c := by
  have hreceived : (link b'.trace).confReceived = (link b.trace).confReceived ++ chunk := by
    rw [hfirst, link_append_singleton]
    rfl
  constructor
  · rintro ⟨reads, last, htrace, hfull⟩
    obtain ⟨more, hmore⟩ := hmore
    rw [hmore, hfirst, List.append_assoc] at htrace
    have heq := List.append_cancel_left htrace
    cases reads with
    | nil =>
        simp only [List.nil_append, List.map_cons, List.map_nil, List.singleton_append,
          List.cons.injEq, Event.confReceived.injEq] at heq
        simp only [List.flatten_nil, List.append_nil, ← heq.1] at hfull
        omega
    | cons read reads =>
        simp only [List.cons_append, List.nil_append, List.map_cons, List.cons.injEq,
          Event.confReceived.injEq] at heq
        refine ⟨reads, last, by rw [hmore, heq.2], ?_⟩
        simpa [hreceived, heq.1] using hfull
  · rintro ⟨reads, last, htrace, hfull⟩
    refine ⟨chunk :: reads, last, by simp [htrace, hfirst], ?_⟩
    simpa [hreceived] using hfull

/-- A call of `pump_conf` records its reads and nothing else. -/
theorem pumpConf_trace (awaiting : Bool) (b : LorahamBackend)
    (answers : List (RecvAnswer kReadChunk)) :
    ∃ reads : List Bytes, (∀ read ∈ reads, read.length ≤ kReadChunk) ∧
      (b.pumpConf awaiting answers).2.trace = b.trace ++ reads.map Event.confReceived := by
  induction answers generalizing b with
  | nil => exact ⟨[], by simp [pumpConf, answered]⟩
  | cons answer answers ih =>
      cases answer with
      | failed => exact ⟨[], by simp [pumpConf, answered]⟩
      | data chunk =>
          unfold pumpConf
          simp only
          split
          · exact ⟨[], by simp [answered]⟩
          · split
            · exact ⟨[chunk.bytes], by simpa using chunk.fits, by simp [takeConf, answered]⟩
            · split
              · split
                · exact ⟨[chunk.bytes], by simpa using chunk.fits, by simp [takeConf, answered]⟩
                · rename_i rest _ _
                  obtain ⟨reads, hsize, hreads⟩ := ih (LorahamBackend.takeConf chunk.bytes rest
                    (b.answered fun t => { t with confRecv := answers }))
                  refine ⟨chunk.bytes :: reads, ?_, ?_⟩
                  · simpa using ⟨chunk.fits, hsize⟩
                  · rw [hreads]
                    simp [takeConf, answered]
              · exact ⟨[chunk.bytes], by simpa using chunk.fits, by simp [takeConf, answered]⟩

/-- The bytes of several reads. -/
theorem confReceived_reads (trace : List Event) (reads : List Bytes) :
    (link (trace ++ reads.map Event.confReceived)).confReceived =
      (link trace).confReceived ++ reads.flatten := by
  induction reads using List.reverseRecOn with
  | nil => simp
  | append_singleton reads read ih =>
      rw [List.map_append, ← List.append_assoc, List.map_singleton, link_append_singleton]
      simp [Link.step, ih]

/-- What the bound needs to know about the kept bytes. -/
structure Reassembles (b : LorahamBackend) : Prop where
  cut : b.ConfCut
  bound : b.confLine.length ≤ kMaxConfLine
  short : 0x0A ∉ b.confLine ∨ b.confLine.length < kReadChunk

/-- The kept bytes end as the bytes received do. -/
theorem Reassembles.unterminated_eq (h : b.Reassembles) :
    unterminated (link b.trace).confReceived = unterminated b.confLine := by
  obtain ⟨lines, heq, hstart⟩ := h.cut
  rw [heq, unterminated_append hstart]

/-- The kept bytes and a read exceed the bound together exactly if the unfinished line
does: whole lines are kept only where they are short. -/
theorem Reassembles.full_iff (h : b.Reassembles) (hchunk : chunk.length ≤ kReadChunk) :
    kMaxConfLine < (b.confLine ++ chunk).length ↔
      kMaxConfLine < (unterminated (link b.trace).confReceived).length + chunk.length := by
  rw [h.unterminated_eq, List.length_append]
  rcases h.short with hline | hshort
  · rw [unterminated_of_not_mem hline]
  · have hle := length_unterminated_le b.confLine
    simp only [kMaxConfLine, kReadChunk] at *
    omega

/-- The bound trips exactly at a read that, together with the unfinished line it
continues, exceeds the longest line. -/
theorem pumpConf_tripped_iff (awaiting : Bool) (b : LorahamBackend)
    (answers : List (RecvAnswer kReadChunk)) (h : b.Reassembles) :
    boundTripped (b.pumpConf awaiting answers) ↔ Overfull b (b.pumpConf awaiting answers).2 := by
  induction answers generalizing b with
  | nil =>
      refine iff_of_false (by simp [boundTripped, pumpConf]) (not_overfull_of_unread rfl)
  | cons answer answers ih =>
      cases answer with
      | failed =>
          refine iff_of_false ?_ (not_overfull_of_unread rfl)
          exact fun htripped => absurd htripped.2 (Nat.not_lt.mpr h.bound)
      | data chunk =>
          unfold pumpConf
          simp only
          split
          · exact iff_of_false (by simp [boundTripped]) (not_overfull_of_unread rfl)
          · split <;> rename_i hbound
            · refine iff_of_true ⟨rfl, hbound⟩ ((overfull_iff_of_one rfl).mpr ?_)
              exact (h.full_iff chunk.fits).mp hbound
            · have hfits := Nat.not_lt.mp (mt (h.full_iff chunk.fits).mpr hbound)
              split <;> rename_i hscan
              · rename_i rest
                split
                · exact iff_of_false (by simp [boundTripped])
                    (mt (overfull_iff_of_one rfl).mp (Nat.not_lt.mpr hfits))
                · have hnext : (LorahamBackend.takeConf chunk.bytes rest
                      (b.answered fun t => { t with confRecv := answers })).Reassembles := by
                    obtain ⟨-, -, -, hrest, -⟩ := scanConf_cut hscan
                    exact ⟨h.cut.read hscan rfl (by simp [answered, Link.step]),
                      (length_rest_le hscan).trans (Nat.not_lt.mp hbound), Or.inl (hrest rfl)⟩
                  rw [ih _ hnext]
                  obtain ⟨reads, -, hreads⟩ := pumpConf_trace awaiting _ answers
                  exact (overfull_iff_of_more rfl hfits ⟨reads, hreads⟩).symm
              · refine iff_of_false (fun htripped => ?_)
                  (mt (overfull_iff_of_one rfl).mp (Nat.not_lt.mpr hfits))
                have hle := (length_rest_le hscan).trans (Nat.not_lt.mp hbound)
                exact absurd htripped.2 (Nat.not_lt.mpr hle)

/-! ## Over-long lines only -/

/-- The states in which a poll may call `pump_conf`. -/
def confOpen (state : BackendState) : Bool :=
  state == .connecting || state == .configuring || rxOk state

/-- The status reply is still awaited. -/
def awaitsStatus (state : BackendState) : Bool :=
  state == .connecting || state == .configuring

/-- In every run the kept bytes are the end of those received. -/
theorem runCalls_reassembles (configTimeoutMs drainTimeoutMs : Nat) (calls : List Call)
    (h : confOpen (runCalls configTimeoutMs drainTimeoutMs calls).state = true) :
    (runCalls configTimeoutMs drainTimeoutMs calls).Reassembles := by
  have hkept := runCalls_confKept configTimeoutMs drainTimeoutMs calls
  generalize runCalls configTimeoutMs drainTimeoutMs calls = b at h hkept
  simp only [confOpen, Bool.or_eq_true, beq_iff_eq] at h
  rcases h with hstate | hstate
  · obtain ⟨hcut, hbound, hline⟩ := (confKept_iff_of_configuring hstate).mp hkept
    exact ⟨hcut, hbound, Or.inl hline⟩
  · obtain ⟨hcut, hbound, hshort, -⟩ := (confKept_iff_of_rxOk hstate).mp hkept
    exact ⟨hcut, hbound, hshort⟩

/-- A call of `pump_conf` on a stream of legal lines does not give up because of the
bound. -/
def BoundSound (b : LorahamBackend) (answers : List (RecvAnswer kReadChunk)) : Prop :=
  confOpen b.state = true →
    linesFit kMaxConfLine
        (link (b.pumpConf (awaitsStatus b.state) answers).2.trace).confReceived = true →
      ¬boundTripped (b.pumpConf (awaitsStatus b.state) answers)

/-- On legal lines the bound never trips exactly if no read, together with the
unfinished line it continues, exceeds the longest line. -/
theorem conf_bound_iff (configTimeoutMs drainTimeoutMs : Nat) (calls : List Call) (now : Nat)
    (transport : DaemonTransport) :
    let b := (runCalls configTimeoutMs drainTimeoutMs calls).enter now transport
    let c := (b.pumpConf (awaitsStatus b.state) transport.confRecv).2
    BoundSound b transport.confRecv ↔
      (confOpen b.state = true → linesFit kMaxConfLine (link c.trace).confReceived = true →
        ¬Overfull b c) := by
  intro b c
  refine forall_congr' fun hopen => forall_congr' fun _ => not_congr ?_
  have h := runCalls_reassembles configTimeoutMs drainTimeoutMs calls hopen
  exact pumpConf_tripped_iff (awaitsStatus b.state) b transport.confRecv
    ⟨h.cut, h.bound, h.short⟩

/-- With lines of at most one read and a byte the bound never trips, however the
stream is cut. -/
theorem not_tripped_of_short_lines {b : LorahamBackend} (h : b.Reassembles) (awaiting : Bool)
    (answers : List (RecvAnswer kReadChunk))
    (hlines : linesFit (kReadChunk + 1)
      (link (b.pumpConf awaiting answers).2.trace).confReceived = true) :
    ¬boundTripped (b.pumpConf awaiting answers) := by
  rw [pumpConf_tripped_iff awaiting b answers h]
  rintro ⟨reads, chunk, htrace, hfull⟩
  obtain ⟨reads', hsize, htrace'⟩ := pumpConf_trace awaiting b answers
  have hreads : reads ++ [chunk] = reads' :=
    List.map_injective_iff.mpr (fun _ _ heq => Event.confReceived.inj heq)
      (List.append_cancel_left (htrace.symm.trans htrace'))
  have hchunk : chunk.length ≤ kReadChunk := hsize chunk (by simp [← hreads])
  rw [htrace, confReceived_reads, List.flatten_append, ← List.append_assoc] at hlines
  have hline := unterminated_lt_of_linesFit (linesFitFrom_of_append hlines)
  simp only [kMaxConfLine, kReadChunk] at *
  omega

/-- A line of 514 bytes, cut at its end, and a full read that finishes it. -/
theorem bound_trips_on_legal_lines :
    ¬BoundSound
      ((runCalls 2000 30000
        (configureCalls readyStatus ++
          [{ now := 2
             transport :=
               { confRecv :=
                   [.data ⟨ascii "TX=" ++ List.replicate 509 0x61, by decide +kernel⟩,
                     .data ⟨[0x61], by decide +kernel⟩] }
             method := .poll }])).enter 3
          { confRecv :=
              [.data ⟨0x0A :: ascii "TX=" ++ List.replicate 507 0x61 ++ [0x0A],
                by decide +kernel⟩] })
      [.data ⟨0x0A :: ascii "TX=" ++ List.replicate 507 0x61 ++ [0x0A], by decide +kernel⟩] := by
  intro h
  refine h (by decide +kernel) (by decide +kernel) ⟨by decide +kernel, by decide +kernel⟩

end LorahamBackend

end LorahamBridge
