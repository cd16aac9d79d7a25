import RestrictedShell.Proofs.Dispatch
import RestrictedShell.Proofs.Launch.ChildTable
import RestrictedShell.Proofs.Source.Script

namespace RestrictedShell

def Reading.isFailed : Reading → Bool
  | .failed _ => true
  | _ => false

namespace Script

/-- How many reads in a row have failed up to request number `k`, after `count` before the first. -/
def row (s : Script) (count : Nat) : Nat → Nat
  | 0 => if (s.reading 0).isFailed then count + 1 else 0
  | k + 1 => if (s.reading (k + 1)).isFailed then s.row count k + 1 else 0

/-- A session that reads the script has a reason to end after request number `k`. -/
def EndsAt (s : Script) (settings : Settings) (count k : Nat) : Prop :=
  s.reading k = .line (Text.encode "termina") ∨ s.reading k = .endOfInput ∨
    s.row count k = max 1 settings.maxReadFailures.toNat

instance (s : Script) (settings : Settings) (count k : Nat) :
    Decidable (s.EndsAt settings count k) :=
  inferInstanceAs (Decidable (_ ∨ _ ∨ _))

theorem row_succ (s : Script) (count k : Nat) :
    s.row count (k + 1) = (⟨s.readings.tail⟩ : Script).row (s.row count 0) k := by
  induction k with
  | zero => simp only [row, reading_succ]
  | succ k ih =>
      have hrow : s.row count (k + 1 + 1) =
          if (s.reading (k + 1 + 1)).isFailed then s.row count (k + 1) + 1 else 0 := rfl
      rw [hrow, ih, reading_succ]
      rfl

theorem endsAt_succ {s : Script} {settings : Settings} {count k : Nat} :
    s.EndsAt settings count (k + 1) ↔
      (⟨s.readings.tail⟩ : Script).EndsAt settings (s.row count 0) k := by
  unfold EndsAt
  rw [row_succ, reading_succ]

theorem row_of_line {s : Script} {line : Bytes} (h : s.reading 0 = .line line) (count : Nat) :
    s.row count 0 = 0 := by
  simp [row, h, Reading.isFailed]

theorem row_of_failed {s : Script} {error : ReadError} (h : s.reading 0 = .failed error)
    (count : Nat) : s.row count 0 = count + 1 := by
  simp [row, h, Reading.isFailed]

theorem endsAt_of_line {s : Script} {settings : Settings} {count : Nat} {line : Bytes}
    (h : s.reading 0 = .line line) :
    s.EndsAt settings count 0 ↔ line = Text.encode "termina" := by
  have hlimit : 0 ≠ max 1 settings.maxReadFailures.toNat := by omega
  simp [EndsAt, row_of_line h, h, hlimit]

theorem endsAt_of_failed {s : Script} {settings : Settings} {count : Nat} {error : ReadError}
    (h : s.reading 0 = .failed error) :
    s.EndsAt settings count 0 ↔ count + 1 = max 1 settings.maxReadFailures.toNat := by
  simp [EndsAt, row_of_failed h, h]

theorem least_succ {s : Script} {settings : Settings} {count k : Nat}
    (hzero : ¬ s.EndsAt settings count 0)
    (h : ∀ j < k, ¬ (⟨s.readings.tail⟩ : Script).EndsAt settings (s.row count 0) j) :
    ∀ j < k + 1, ¬ s.EndsAt settings count j := by
  intro j hj
  cases j with
  | zero => exact hzero
  | succ j =>
      rw [endsAt_succ]
      exact h j (Nat.lt_of_succ_lt_succ hj)

end Script

namespace Trace

/-- What is done, apart from the log. -/
def deeds (trace : Trace) : Trace :=
  trace.filter fun event => match event with
    | .logged _ => false
    | _ => true

theorem count_deeds {event : Event} (h : ∀ entry, event ≠ .logged entry) (trace : Trace) :
    (deeds trace).count event = trace.count event := by
  refine List.count_filter ?_
  cases event with
  | logged entry => exact absurd rfl (h entry)
  | _ => rfl

theorem deeds_visible (filter : Log.Filter) (trace : Trace) :
    deeds (visible filter trace) = deeds trace := by
  rw [deeds, visible, List.filter_filter, deeds]
  refine List.filter_congr fun event _ => ?_
  cases event <;> simp [Log.Filter.reveals]

end Trace

namespace Session

/-- What a session does between an answer of its source and the next request. -/
structure Answered (t : ChildTable) (reading : Reading) (block : Trace) : Prop where
  asked_free : ∀ event ∈ block, event.isAsked = false
  failed : ∀ error, reading = .failed error → block.deeds = [readComplaint]
  ended : reading = .endOfInput ∨ reading = .line (Text.encode "termina") → block.deeds = []
  remarked : ∀ line, reading = .line line → readComplaint ∈ block →
    ∃ c child, .ok child ∈ t.answers c ∧ readComplaint = .wrote .err child.remark

theorem Answered.visible {t : ChildTable} {reading : Reading} {block : Trace}
    (h : Answered t reading block) (filter : Log.Filter) :
    Answered t reading (Trace.visible filter block) where
  asked_free event hevent := h.asked_free event (List.mem_of_mem_filter hevent)
  failed error hreading := (Trace.deeds_visible filter block).trans (h.failed error hreading)
  ended hreading := (Trace.deeds_visible filter block).trans (h.ended hreading)
  remarked line hline hmem := h.remarked line hline (List.mem_of_mem_filter hmem)

theorem encode_append_ne {a text complaint : String}
    (h : ¬ Text.encode a <+: Text.encode complaint) :
    Text.encode (a ++ text) ≠ Text.encode complaint := by
  rw [Text.encode_append]
  rintro heq
  exact h ⟨_, heq⟩

theorem unrecognized_ne_readComplaint (name : String) :
    .wrote .err (Text.encode ("command not recognized: " ++ name ++ "\n")) ≠ readComplaint := by
  rw [String.append_assoc]
  intro h
  exact encode_append_ne (by decide) (Event.wrote.inj h).2

theorem spawnError_ne_readComplaint (message : String) :
    .wrote .err (Text.encode ("error creating a new process: " ++ message ++ "\n")) ≠
      readComplaint := by
  rw [String.append_assoc]
  intro h
  exact encode_append_ne (by decide) (Event.wrote.inj h).2

/-- A step writes the complaint about a failed read only on behalf of a child that says it. -/
theorem exists_child_of_readComplaint {σ : Type} [LineSource σ] {line : Bytes}
    {e : σ × ChildTable} (h : readComplaint ∈ (stepCourse line e).trace) :
    ∃ c child, .ok child ∈ e.2.answers c ∧ readComplaint = .wrote .err child.remark := by
  rw [trace_stepCourse] at h
  cases hline : classify line with
  | external i =>
      have hmem : readComplaint ∈ (Environment.launch i e).1.aftermath i := by
        simpa [hline, Dispatch.opening, readComplaint] using h
      rcases Launched.eq_of_wrote_err hmem with ⟨child, hchild, hremark⟩ | ⟨error, _, hmessage⟩
      · rcases ChildTable.mem_or_eq_silent hchild with htable | rfl
        · exact ⟨i.command, child, htable, congrArg (Event.wrote .err) hremark⟩
        · cases hremark
      · exact absurd (congrArg (Event.wrote .err) hmessage).symm
          (spawnError_ne_readComplaint error.message)
  | unrecognized name =>
      have hwrote : readComplaint =
          .wrote .err (Text.encode ("command not recognized: " ++ name ++ "\n")) := by
        simpa [hline, Dispatch.opening, readComplaint] using h
      exact absurd hwrote.symm (unrecognized_ne_readComplaint name)
  | _ => simp [hline, Dispatch.opening, readComplaint] at h

theorem answered_step {σ : Type} [LineSource σ] {line : Bytes} {e : σ × ChildTable}
    (hline : classify line ≠ .quit) : Answered e.2 (.line line) (stepCourse line e).trace where
  asked_free := asked_free_stepCourse line e
  failed error hreading := by cases hreading
  ended hreading := by
    rcases hreading with hreading | hreading
    · cases hreading
    · exact absurd (classify_eq_quit_iff.mpr (Reading.line.inj hreading)) hline
  remarked line' hreading hmem := exists_child_of_readComplaint hmem

theorem answered_ended (t : ChildTable) {reading : Reading}
    (h : reading = .endOfInput ∨ reading = .line (Text.encode "termina")) (log : List Log.Entry) :
    Answered t reading (log.map .logged) where
  asked_free := by simp [Event.isAsked]
  failed error hreading := by rcases h with rfl | rfl <;> cases hreading
  ended _ := by simp [Trace.deeds]
  remarked line _ hmem := by simp [readComplaint] at hmem

theorem answered_complaint (t : ChildTable) (error : ReadError) (failures : UInt32)
    (log : List Log.Entry) :
    Answered t (.failed error) (complaint error failures ++ log.map .logged) where
  asked_free := by simp [complaint, Event.isAsked]
  failed _ _ := by simp [complaint, Trace.deeds, readComplaint]
  ended hreading := by rcases hreading with hreading | hreading <;> cases hreading
  remarked line hreading := by cases hreading

/-- `Stops settings s t count trace k blocks`: with `count` failures behind it, a session that reads
the script ends after request number `k`, and for each of its requests there is a block of what is
done about the answer. -/
structure Stops (settings : Settings) (s : Script) (t : ChildTable) (count : Nat) (trace : Trace)
    (k : Nat) (blocks : List Trace) : Prop where
  ends : s.EndsAt settings count k
  least : ∀ j < k, ¬ s.EndsAt settings count j
  trace_eq : trace = blocks.flatMap fun block => .asked (Text.encode settings.prompt) :: block
  length_eq : blocks.length = k + 1
  answered : ∀ j block, blocks[j]? = some block → Answered t (s.reading j) block

namespace Stops

variable {settings : Settings} {s : Script} {t t' : ChildTable} {count k : Nat} {trace : Trace}
  {blocks : List Trace} {block : Trace}

theorem first (hends : s.EndsAt settings count 0) (hblock : Answered t (s.reading 0) block) :
    Stops settings s t count (.asked (Text.encode settings.prompt) :: block) 0 [block] where
  ends := hends
  least j hj := absurd hj (Nat.not_lt_zero j)
  trace_eq := by simp
  length_eq := rfl
  answered j block' hget := by
    cases j with
    | zero => exact Option.some.inj hget ▸ hblock
    | succ j => simp at hget

theorem later (hzero : ¬ s.EndsAt settings count 0) (hblock : Answered t (s.reading 0) block)
    (h : Stops settings ⟨s.readings.tail⟩ t' (s.row count 0) trace k blocks)
    (ht : ∀ c child, .ok child ∈ t'.answers c → .ok child ∈ t.answers c) :
    Stops settings s t count (.asked (Text.encode settings.prompt) :: (block ++ trace)) (k + 1)
      (block :: blocks) where
  ends := Script.endsAt_succ.mpr h.ends
  least := Script.least_succ hzero h.least
  trace_eq := by rw [List.flatMap_cons, ← h.trace_eq, List.cons_append]
  length_eq := by rw [List.length_cons, h.length_eq]
  answered j block' hget := by
    cases j with
    | zero => exact Option.some.inj hget ▸ hblock
    | succ j =>
        obtain ⟨hfree, hfailed, hended, hremarked⟩ := h.answered j block' hget
        rw [Script.reading_succ]
        refine ⟨hfree, hfailed, hended, fun line hline hmem => ?_⟩
        obtain ⟨c, child, hchild, hremark⟩ := hremarked line hline hmem
        exact ⟨c, child, ht c child hchild, hremark⟩

theorem visible (h : Stops settings s t count trace k blocks) (filter : Log.Filter) :
    Stops settings s t count (Trace.visible filter trace) k
      (blocks.map (Trace.visible filter)) where
  ends := h.ends
  least := h.least
  trace_eq := by
    rw [h.trace_eq, Trace.visible, List.filter_flatMap, List.flatMap_map]
    rfl
  length_eq := by rw [List.length_map, h.length_eq]
  answered j block hget := by
    rw [List.getElem?_map, Option.map_eq_some_iff] at hget
    obtain ⟨block', hget, rfl⟩ := hget
    exact (h.answered j block' hget).visible filter

end Stops

theorem Runs.stops {settings : Settings} {failures : UInt32} {e : Script × ChildTable}
    {course : Course (Script × ChildTable)} {result : Except IoError Ending}
    (h : Runs settings failures e course result) (hreliable : e.2.Reliable)
    (hfailures : failures.toNat < max 1 settings.maxReadFailures.toNat) :
    ∃ k ending blocks, result = .ok ending ∧
      Stops settings e.1 e.2 failures.toNat course.trace k blocks := by
  induction h with
  | @endOfInput failures e hread =>
      rw [Script.reading_next] at hread
      rw [Script.trace_turn, Course.trace_still]
      exact ⟨0, .endOfInput, _, rfl, .first (.inr (.inl hread))
        (answered_ended e.2 (.inl hread) [.endOfInput])⟩
  | @quit failures e line hread hquit =>
      rw [Script.reading_next, classify_eq_quit_iff.mp hquit] at hread
      rw [Script.trace_turn, Course.trace_still]
      exact ⟨0, .quit, _, rfl, .first (.inl hread)
        (answered_ended e.2 (.inr hread) [.dispatching, .quitRequested])⟩
  | @broken failures e line error hread hstep =>
      exact absurd hstep (ChildTable.Reliable.stepResult_ne_error
        (e := (Environment.next e).2) hreliable line error)
  | @proceed failures e line course result hread hstep hrest ih =>
      rw [Script.reading_next] at hread
      have hline : classify line ≠ .quit := not_quit_of_proceed hstep
      have hzero : ¬ e.1.EndsAt settings failures.toNat 0 := by
        rwa [Script.endsAt_of_line hread, ← classify_eq_quit_iff]
      have hblock : Answered e.2 (e.1.reading 0)
          (stepCourse line (Environment.next e).2).trace := by
        rw [hread]
        exact answered_step (e := (Environment.next e).2) hline
      obtain ⟨k, ending, blocks, hresult, hstops⟩ :=
        ih (ChildTable.Reliable.env_stepCourse (e := (Environment.next e).2) hreliable line)
          (Nat.lt_of_lt_of_le Nat.zero_lt_one (Nat.le_max_left _ _))
      rw [Course.fst_env_stepCourse, Script.fst_next, UInt32.toNat_zero,
        ← Script.row_of_line hread failures.toNat] at hstops
      rw [Script.trace_turn, Course.trace_append]
      refine ⟨k + 1, ending, _, hresult, .later hzero hblock hstops ?_⟩
      intro c child hchild
      rw [(Course.tracks_stepCourse line _).env_eq] at hchild
      exact ChildTable.mem_of_mem_following hchild
  | @exhausted failures e error hread hlimit =>
      rw [Script.reading_next] at hread
      rw [UInt32.le_iff_toNat_le, toNat_succ hfailures] at hlimit
      have hzero : e.1.EndsAt settings failures.toNat 0 := by
        rw [Script.endsAt_of_failed hread]
        omega
      have hblock := answered_complaint e.2 error (failures + 1) [.inputKeepsFailing]
      rw [← hread] at hblock
      rw [Script.trace_turn, Course.trace_still]
      exact ⟨0, .readFailures, _, rfl, .first hzero hblock⟩
  | @retry failures e error course result hread hlimit hrest ih =>
      rw [Script.reading_next] at hread
      have hsucc := toNat_succ hfailures
      rw [UInt32.le_iff_toNat_le, hsucc] at hlimit
      have hzero : ¬ e.1.EndsAt settings failures.toNat 0 := by
        rw [Script.endsAt_of_failed hread]
        omega
      have hblock := answered_complaint e.2 error (failures + 1) []
      rw [← hread, List.map_nil, List.append_nil] at hblock
      obtain ⟨k, ending, blocks, hresult, hstops⟩ := ih hreliable (by omega)
      rw [hsucc, ← Script.row_of_failed hread, Script.fst_next] at hstops
      rw [Script.trace_turn, Course.trace_append, Course.trace_still]
      exact ⟨k + 1, ending, _, hresult, .later hzero hblock hstops fun _ _ hchild => hchild⟩

theorem Answered.count_readComplaint {t : ChildTable} {reading : Reading} {block : Trace}
    (h : Answered t reading block)
    (ht : ∀ c child, .ok child ∈ t.answers c → readComplaint ≠ .wrote .err child.remark) :
    block.count readComplaint = if reading.isFailed then 1 else 0 := by
  have hdeeds : block.deeds.count readComplaint = block.count readComplaint :=
    Trace.count_deeds (by simp [readComplaint]) block
  cases reading with
  | failed error =>
      rw [← hdeeds, h.failed error rfl]
      rfl
  | endOfInput =>
      rw [← hdeeds, h.ended (.inl rfl)]
      rfl
  | line line =>
      refine List.count_eq_zero.mpr fun hmem => ?_
      obtain ⟨c, child, hchild, hremark⟩ := h.remarked line rfl hmem
      exact ht c child hchild hremark

theorem count_flatMap_asked {prompt : Bytes} {blocks : List Trace} {readings : Nat → Reading}
    (h : ∀ j block, blocks[j]? = some block →
      block.count readComplaint = if (readings j).isFailed then 1 else 0) :
    (blocks.flatMap fun block => .asked prompt :: block).count readComplaint =
      ((List.range blocks.length).map readings).countP Reading.isFailed := by
  induction blocks generalizing readings with
  | nil => rfl
  | cons block blocks ih =>
      have hfirst := h 0 block rfl
      have hrest := @ih (readings ∘ Nat.succ) fun j => h (j + 1)
      rw [List.flatMap_cons, List.count_append, hrest,
        List.count_cons_of_ne (by simp [readComplaint]), hfirst, List.length_cons,
        List.range_succ_eq_map, List.map_cons, List.countP_cons, List.map_map, Nat.add_comm]

/-- A session on streams that refuse nothing ends after the first of its requests at which the
script gives it a reason to end. Behind that it does nothing, and it complains once about each read
that failed. -/
theorem run_stops (settings : Settings) (s : Script) (t : ChildTable) (c : Console)
    (ht : t.Reliable) (hc : c.Unlimited) :
    ∃ k ending blocks,
      (run settings).result ⟨(s, t), c⟩ = .ok ending ∧
        Stops settings s t 0 ((run settings).trace ⟨(s, t), c⟩) k blocks ∧
        ((∀ d child, .ok child ∈ t.answers d → readComplaint ≠ .wrote .err child.remark) →
          ((run settings).trace ⟨(s, t), c⟩).count readComplaint =
            ((List.range (k + 1)).map s.reading).countP Reading.isFailed) := by
  obtain ⟨course, result, stop, hruns, hseen, hresult, hfree⟩ :=
    exists_course settings (w := ⟨(s, t), c⟩) (Script.heard c)
  obtain rfl := hfree hc
  obtain ⟨k, ending, blocks, rfl, hstops⟩ := hruns.stops ht
    (Nat.lt_of_lt_of_le Nat.zero_lt_one (Nat.le_max_left _ _))
  have hvisible := hstops.visible c.filter
  rw [← Trace.curtailed_none_iff.mp hseen] at hvisible
  refine ⟨k, ending, _, hresult, hvisible, fun hremarks => ?_⟩
  rw [hvisible.trace_eq, ← hvisible.length_eq]
  exact count_flatMap_asked fun j block hblock =>
    (hvisible.answered j block hblock).count_readComplaint hremarks

theorem run_stops_after_two_failures :
    let settings : Settings := ⟨"% ", 2⟩
    let failure : Reading := .failed (.input (.plain .other))
    let s : Script := ⟨[failure, .line (Text.encode "lista"), failure, failure, .line []]⟩
    let t : ChildTable := ⟨fun _ => [.ok (.silent (.signaled 9))]⟩
    t.Reliable ∧ (Console.fresh .off).Unlimited ∧
      (∀ d child, .ok child ∈ t.answers d → readComplaint ≠ .wrote .err child.remark) ∧
      ∃ ending blocks,
        (run settings).result ⟨(s, t), Console.fresh .off⟩ = .ok ending ∧
          Stops settings s t 0 ((run settings).trace ⟨(s, t), Console.fresh .off⟩) 3 blocks ∧
          ((run settings).trace ⟨(s, t), Console.fresh .off⟩).count readComplaint = 3 := by
  intro settings failure s t
  have ht : t.Reliable := ChildTable.reliable_silent (.signaled 9)
  have hremarks : ∀ d child, .ok child ∈ t.answers d → readComplaint ≠ .wrote .err child.remark := by
    intro d child hchild
    obtain rfl := Except.ok.inj (List.mem_singleton.mp hchild)
    nofun
  obtain ⟨k, ending, blocks, hresult, hstops, hcount⟩ :=
    run_stops settings s t (Console.fresh .off) ht (Console.unlimited_fresh .off)
  have hk : k = 3 := by
    rcases Nat.lt_trichotomy k 3 with hless | heq | hmore
    · have hnone : ∀ j < 3, ¬ s.EndsAt settings 0 j := by decide
      exact absurd hstops.ends (hnone k hless)
    · exact heq
    · exact absurd (by decide) (hstops.least 3 hmore)
  subst hk
  exact ⟨ht, Console.unlimited_fresh .off, hremarks, ending, blocks, hresult, hstops,
    hcount hremarks⟩

end Session

end RestrictedShell
