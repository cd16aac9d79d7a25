import Mathlib.Data.List.Induction
import RestrictedShell.Proofs.Session.Attendance

namespace RestrictedShell

open Launcher Trace

/-- What follows the wait for a child. The error stream refuses something that is said during the
wait; or all of it is said and then, if the child exited, the line about its code is written before
anything else, whole or as far as the standard output takes it. -/
def Reported {α : Type} (name : String) (child : Child) (rest : Trace)
    (result : Except IoError α) : Prop :=
  (¬ child.said <+: rest ∧ (result = .error (Output.refusedWrite .err) ∨
      result = .error (Output.refusedFlush .err))) ∨
    ∃ later, rest = child.said ++ later ∧ ∀ code, child.ending = .ok (.exited code) →
      let line := Text.encode (name ++ " finished with code " ++ toString code.toInt ++ "\n")
      ∃ quiet bytes after, later = quiet ++ .wrote .out bytes :: after ∧
        (∀ event ∈ quiet, event.isQuiet = true) ∧
        (bytes = line ∨ after = [] ∧ result = .error (Output.refusedWrite .out) ∧
          ∃ n < line.length, bytes = line.take n)

/-- What follows the launch of a command, given the answer of the launcher. -/
structure Tended {α : Type} (i : Invocation) (l : Launched) (after : Trace)
    (result : Except IoError α) : Prop where
  accepted : ∀ child, l.result = .ok child →
    ∃ quiet rest, after = quiet ++ .waited i.command.name :: rest ∧
      (∀ event ∈ quiet, event.isQuiet = true) ∧ Reported i.command.name child rest result
  refused : ∀ error, l.result = .error error → ∀ event ∈ after.episode, event.isWaited = false
  unreported : (∀ child code, l.result = .ok child → child.ending ≠ .ok (.exited code)) →
    ∀ bytes, .wrote .out bytes ∉ after.episode

/-- At the end of the trace there is a child of this invocation that has not been waited for. -/
def Pending {κ : Type} [Launcher κ] (k : κ) (i : Invocation) (trace : Trace) : Prop :=
  ∃ earlier quiet child, trace = earlier ++ .launched i.argv :: quiet ∧
    (∀ event ∈ quiet, event.isQuiet = true) ∧ (answer k earlier i).result = .ok child

/-- The launches of a trace that ends with a result, and the waits in it, belong together. -/
structure Supervised {κ α : Type} [Launcher κ] (k : κ) (trace : Trace)
    (result : Except IoError α) : Prop where
  tended : ∀ {before after argv}, trace = before ++ .launched argv :: after →
    ∃ i, argv = i.argv ∧ Tended i (answer k before i) after result
  pending : ∀ {before after name}, trace = before ++ .waited name :: after →
    ∃ i, Pending k i before ∧ name = i.command.name

namespace Trace

variable {filter : Log.Filter} {α : Type} {result result' : Except IoError α}

theorem visible_said (filter : Log.Filter) (child : Child) :
    visible filter child.said = child.said := by
  obtain ⟨output, remark, settled, ending⟩ := child
  cases settled <;> rfl

theorem Curtailed.reported {i : Invocation} {l : Launched} {child : Child} {rest later : Trace}
    {stop : Option IoError}
    (h : Curtailed filter (child.said ++ (l.conclusion i ++ later)) rest stop)
    (hchild : l.result = .ok child) (hresult : result = (stop.map .error).getD result') :
    Reported i.command.name child rest result := by
  rcases h.append_cases with ⟨rest, rfl, hrest⟩ | ⟨error, rfl, hcut⟩
  · rw [visible_said]
    refine .inr ⟨rest, rfl, fun code hcode => ?_⟩
    have hconclusion : l.conclusion i ++ later =
        .logged (.commandFinished i.command.name code) ::
          .wrote .out (Text.encode (completionLine i.command.name code)) ::
            (.flushed .out :: .flushed .out :: later) := by
      simp [Launched.conclusion, hchild, hcode, Outcome.reported]
    rw [hconclusion] at hrest
    obtain ⟨rest, rfl, hwrite⟩ := hrest.uncut_cons (by rintro _ _ ⟨⟩)
    have hquiet : ∀ event ∈ visible filter [.logged (.commandFinished i.command.name code)],
        event.isQuiet = true := by
      intro event hevent
      rw [List.mem_singleton.mp (List.mem_of_mem_filter hevent)]
      rfl
    cases hwrite with
    | cons _ hafter => exact ⟨_, _, _, rfl, hquiet, .inl rfl⟩
    | cut hcut =>
        cases hcut with
        | @write _ _ n hless => exact ⟨_, _, _, rfl, hquiet, .inr ⟨rfl, hresult, n, hless, rfl⟩⟩
  · refine .inl ⟨?_, ?_⟩
    · have hnot := hcut.not_prefix
      rwa [visible_said] at hnot
    · obtain ⟨before, event, after, stump, hsaid, hevent, _⟩ := curtailed_some_iff.mp hcut
      have hmem : event ∈ child.said := by simp [hsaid]
      rcases Child.eq_of_mem_said hmem with rfl | rfl
      · cases hevent
        exact .inl hresult
      · cases hevent
        exact .inr hresult

theorem Curtailed.tended {i : Invocation} {l : Launched} {after later : Trace}
    {stop : Option IoError} (h : Curtailed filter (l.aftermath i ++ later) after stop)
    (hrested : later.Rested) (hresult : result = (stop.map .error).getD result') :
    Tended i l after result where
  accepted child hchild := by
    rw [Launched.aftermath_of_ok hchild, List.append_assoc, List.cons_append,
      List.append_assoc child.said] at h
    obtain ⟨rest, rfl, hrest⟩ := h.uncut fun event hevent stump error hcut => by
      have hquiet := l.quiet_before_wait event hevent
      cases hcut <;> cases hquiet
    obtain ⟨rest, rfl, hwait⟩ := hrest.uncut_cons (by rintro _ _ ⟨⟩)
    refine ⟨_, rest, rfl, fun event hevent => ?_, hwait.reported hchild hresult⟩
    exact l.quiet_before_wait event (List.mem_of_mem_filter hevent)
  refused error herror event hevent := by
    obtain ⟨e, he, rfl | ⟨error', hcut⟩⟩ :=
      h.mem_episode (fun e he => (l.aftermath_free i e he).1) hrested hevent
    · exact Launched.waited_free_aftermath herror e he
    · cases hcut
      rfl
  unreported hnone bytes hmem := by
    obtain ⟨e, he, rfl | ⟨error, hcut⟩⟩ :=
      h.mem_episode (fun e he => (l.aftermath_free i e he).1) hrested hmem
    · exact Launched.out_free_aftermath hnone bytes he
    · cases hcut
      exact Launched.out_free_aftermath hnone _ he

theorem Curtailed.supervised {κ : Type} [Launcher κ] {k : κ} {course seen : Trace}
    {stop : Option IoError} (h : Curtailed filter course seen stop) (hcourse : Attended k course)
    (hresult : result = (stop.map .error).getD result') : Supervised k seen result where
  tended := by
    rintro before after argv rfl
    obtain ⟨before', event, after', rfl, rfl, ⟨rfl, hafter⟩ | ⟨_, error, _, hcut⟩⟩ := h.split
    · obtain ⟨i, later, rfl, rfl, hrested⟩ := hcourse.of_launched
      refine ⟨i, rfl, ?_⟩
      rw [answer_visible]
      exact hafter.tended hrested hresult
    · cases hcut
  pending := by
    rintro before after name rfl
    obtain ⟨before', event, after', rfl, rfl, ⟨rfl, _⟩ | ⟨_, error, _, hcut⟩⟩ := h.split
    · obtain ⟨earlier, i, quiet, child, rfl, hquiet, hchild, hname⟩ := hcourse.of_waited
      refine ⟨i, ⟨visible filter earlier, visible filter quiet, child, ?_, ?_, ?_⟩, hname⟩
      · rw [visible_append, visible_cons]
        rfl
      · exact fun event hevent => hquiet event (List.mem_of_mem_filter hevent)
      · rw [answer_visible]
        exact hchild
    · cases hcut

end Trace

variable {κ : Type} [Launcher κ] {k : κ}

theorem pending_snoc {i : Invocation} {before : Trace} {event : Event} :
    Pending k i (before ++ [event]) ↔ event.isQuiet = true ∧ Pending k i before ∨
      event = .launched i.argv ∧ ∃ child, (answer k before i).result = .ok child := by
  constructor
  · rintro ⟨earlier, quiet, child, htrace, hquiet, hchild⟩
    rcases List.eq_nil_or_concat quiet with rfl | ⟨quiet, last, rfl⟩
    · obtain ⟨rfl, hlast⟩ := List.append_inj' htrace rfl
      exact .inr ⟨List.singleton_inj.mp hlast, child, hchild⟩
    · rw [List.concat_eq_append, ← List.cons_append, ← List.append_assoc] at htrace
      obtain ⟨rfl, hlast⟩ := List.append_inj' htrace rfl
      obtain rfl := List.singleton_inj.mp hlast
      refine .inl ⟨hquiet event (by simp), earlier, quiet, child, rfl, fun e he => ?_, hchild⟩
      exact hquiet e (by simp [he])
  · rintro (⟨hevent, earlier, quiet, child, rfl, hquiet, hchild⟩ | ⟨rfl, child, hchild⟩)
    · refine ⟨earlier, quiet ++ [event], child, by simp, fun e he => ?_, hchild⟩
      rcases List.mem_append.mp he with he | he
      · exact hquiet e he
      · rwa [List.mem_singleton.mp he]
    · exact ⟨before, [], child, rfl, by simp, hchild⟩

/-- Children come and go one at a time: none is left at a reading, nor at the end. -/
structure Balanced (k : κ) (trace : Trace) : Prop where
  single : ∀ before, before <+: trace → 0 ≤ outstanding k before ∧ outstanding k before ≤ 1
  asked : ∀ {before after prompt}, trace = before ++ .asked prompt :: after →
    outstanding k before = 0
  ended : outstanding k trace = 0

namespace Supervised

variable {α : Type} {result : Except IoError α}

theorem wait_follows {i : Invocation} {before after : Trace}
    (h : Supervised k (before ++ after) result) (hpending : Pending k i before) :
    ∃ quiet rest, after = quiet ++ .waited i.command.name :: rest ∧
      ∀ event ∈ quiet, event.isQuiet = true := by
  obtain ⟨earlier, quiet, child, rfl, hquiet, hchild⟩ := hpending
  rw [List.append_assoc, List.cons_append] at h
  obtain ⟨i', hargv, htended⟩ := h.tended rfl
  obtain rfl := Invocation.argv_injective hargv
  obtain ⟨quiet', rest, hafter, hquiet', _⟩ := htended.accepted child hchild
  rcases append_split hafter with ⟨more, rfl, _⟩ | ⟨more, rfl, hrest⟩
  · cases hquiet (.waited i.command.name) (by simp)
  · exact ⟨more, rest, hrest, fun event hevent => hquiet' event (List.mem_append_right _ hevent)⟩

theorem next_of_pending {i : Invocation} {before after : Trace} {event : Event}
    (h : Supervised k (before ++ event :: after) result) (hpending : Pending k i before) :
    event.isQuiet = true ∨ event = .waited i.command.name := by
  obtain ⟨quiet, rest, hafter, hquiet⟩ := h.wait_follows hpending
  cases quiet with
  | nil => exact .inr (List.cons.inj hafter).1
  | cons first quiet =>
      rw [(List.cons.inj hafter).1]
      exact .inl (hquiet first List.mem_cons_self)

theorem not_pending_at_end {i : Invocation} {trace : Trace} (h : Supervised k trace result) :
    ¬ Pending k i trace := by
  intro hpending
  rw [← List.append_nil trace] at h
  obtain ⟨quiet, rest, hafter, _⟩ := h.wait_follows hpending
  simp at hafter

/-- A child is outstanding from its launch to the wait for it, and at no other time. -/
theorem outstanding_prefix {before after : Trace} (h : Supervised k (before ++ after) result) :
    (∃ i, Pending k i before) ∧ outstanding k before = 1 ∨
      (∀ i, ¬ Pending k i before) ∧ outstanding k before = 0 := by
  induction before using List.reverseRecOn generalizing after with
  | nil =>
      refine .inr ⟨?_, rfl⟩
      rintro i ⟨earlier, quiet, child, htrace, _⟩
      simp at htrace
  | append_singleton before event ih =>
      rw [List.append_assoc, List.singleton_append] at h
      rw [outstanding_append]
      simp only [pending_snoc]
      cases hquiet : event.isQuiet with
      | true =>
          obtain ⟨_, hlaunched, hwaited⟩ := Event.kinds_of_quiet hquiet
          have hne : ∀ i : Invocation, event ≠ .launched i.argv := by
            rintro i rfl
            cases hlaunched
          simpa [outstanding_free _ hlaunched hwaited, hne] using ih h
      | false =>
          rcases ih h with ⟨⟨i, hpending⟩, hone⟩ | ⟨hnone, hzero⟩
          · rcases h.next_of_pending hpending with htrue | rfl
            · rw [hquiet] at htrue
              cases htrue
            · simp [hone, outstanding_waited]
          · -- No child is pending, and of all events only a launch that is accepted changes that.
            rw [hzero]
            cases event with
            | launched argv =>
                obtain ⟨i, rfl, _⟩ := h.tended rfl
                rw [outstanding_launched]
                cases hchild : (answer k before i).result with
                | ok child => exact .inl ⟨⟨i, .inr ⟨rfl, child, hchild⟩⟩, rfl⟩
                | error error =>
                    refine .inr ⟨?_, rfl⟩
                    rintro i' (⟨hfalse, _⟩ | ⟨hargv, child, hother⟩)
                    · cases hfalse
                    · rw [← Invocation.argv_injective (Event.launched.inj hargv), hchild] at hother
                      cases hother
            | waited name =>
                obtain ⟨i, hpending, _⟩ := h.pending rfl
                exact absurd hpending (hnone i)
            | logged entry => cases hquiet
            | childWrote s bytes => cases hquiet
            | _ => exact .inr ⟨by simp, rfl⟩

theorem balanced {trace : Trace} (h : Supervised k trace result) : Balanced k trace where
  single := by
    rintro before ⟨after, rfl⟩
    rcases h.outstanding_prefix with ⟨_, hone⟩ | ⟨_, hzero⟩ <;> omega
  asked := by
    rintro before after prompt rfl
    rcases h.outstanding_prefix with ⟨⟨i, hpending⟩, _⟩ | ⟨_, hzero⟩
    · rcases h.next_of_pending hpending with hquiet | hwaited
      · cases hquiet
      · cases hwaited
    · exact hzero
  ended := by
    have htrace := h
    rw [← List.append_nil trace] at htrace
    rcases htrace.outstanding_prefix with ⟨⟨i, hpending⟩, _⟩ | ⟨_, hzero⟩
    · exact absurd hpending h.not_pending_at_end
    · exact hzero

end Supervised

end RestrictedShell
