import Mathlib.Data.List.Basic
import RestrictedShell.Console
import RestrictedShell.Dispatch

namespace RestrictedShell

namespace Event

def isAsked : Event → Bool
  | .asked _ => true
  | _ => false

def isLaunched : Event → Bool
  | .launched _ => true
  | _ => false

def isWaited : Event → Bool
  | .waited _ => true
  | _ => false

/-- Nothing that the session does apart from keeping its log: an entry of the log, or output of a
child itself. -/
def isQuiet : Event → Bool
  | .logged _ | .childWrote .. => true
  | _ => false

theorem kinds_of_quiet {e : Event} (h : e.isQuiet = true) :
    e.isAsked = false ∧ e.isLaunched = false ∧ e.isWaited = false := by
  cases e <;> simp_all [isQuiet, isAsked, isLaunched, isWaited]

/-- The words of a launch. -/
def argv? : Event → Option (List Bytes)
  | .launched argv => some argv
  | _ => none

end Event

/-- The invocation that starts a command with these words. -/
def Invocation.ofArgv? (argv : List Bytes) : Option Invocation :=
  match Dispatch.ofWords argv with
  | .external i => some i
  | _ => none

@[simp]
theorem Invocation.ofArgv?_argv (i : Invocation) : Invocation.ofArgv? i.argv = some i := by
  simp only [ofArgv?, Dispatch.ofWords_eq_external_iff.mpr rfl]

theorem Invocation.argv_injective {i i' : Invocation} (h : i.argv = i'.argv) : i = i' := by
  have hsome := congrArg Invocation.ofArgv? h
  rwa [ofArgv?_argv, ofArgv?_argv, Option.some.injEq] at hsome

/-- Is the event to be seen where the log is filtered? -/
def Log.Filter.reveals (filter : Log.Filter) : Event → Bool
  | .logged entry => filter.shows entry
  | _ => true

namespace Trace

theorem append_split {a b before after : Trace} {e : Event}
    (h : a ++ b = before ++ e :: after) :
    (∃ rest, a = before ++ e :: rest ∧ after = rest ++ b) ∨
      ∃ rest, before = a ++ rest ∧ b = rest ++ e :: after := by
  rcases List.append_eq_append_iff.mp h with ⟨rest, hbefore, hb⟩ | ⟨rest, ha, hafter⟩
  · exact .inr ⟨rest, hbefore, hb⟩
  · cases rest with
    | nil => exact .inr ⟨[], by simpa using ha.symm, by simpa using hafter.symm⟩
    | cons first rest =>
        simp only [List.cons_append, List.cons.injEq] at hafter
        obtain ⟨rfl, rfl⟩ := hafter
        exact .inl ⟨rest, ha, rfl⟩

theorem cons_split {before t after : Trace} {first e : Event}
    (h : first :: t = before ++ e :: after) (hne : first ≠ e) :
    ∃ before', before = first :: before' ∧ t = before' ++ e :: after := by
  cases before with
  | nil =>
      simp only [List.nil_append, List.cons.injEq] at h
      exact absurd h.1 hne
  | cons first' before =>
      simp only [List.cons_append, List.cons.injEq] at h
      obtain ⟨rfl, rfl⟩ := h
      exact ⟨before, rfl, rfl⟩

theorem ne_split_of_free {p : Event → Bool} {trace before after : Trace} {e : Event}
    (hfree : ∀ y ∈ trace, p y = false) (he : p e = true) : trace ≠ before ++ e :: after := by
  rintro rfl
  rw [hfree e (by simp)] at he
  cases he

theorem split_unique {p : Event → Bool} {a b before after : Trace} {x e : Event}
    (ha : ∀ y ∈ a, p y = false) (hb : ∀ y ∈ b, p y = false) (he : p e = true)
    (h : a ++ x :: b = before ++ e :: after) : before = a ∧ e = x ∧ after = b := by
  rcases append_split h with ⟨rest, rfl, _⟩ | ⟨rest, rfl, hrest⟩
  · simp [ha e (by simp)] at he
  · cases rest with
    | nil =>
        simp only [List.nil_append, List.cons.injEq] at hrest
        exact ⟨List.append_nil a, hrest.1.symm, hrest.2.symm⟩
    | cons first rest =>
        simp only [List.cons_append, List.cons.injEq] at hrest
        obtain ⟨rfl, rfl⟩ := hrest
        simp [hb e (by simp)] at he

/-- The words of every launch, in order. -/
def launches (trace : Trace) : List (List Bytes) :=
  trace.filterMap Event.argv?

/-- What was launched, in order. -/
def invocations (trace : Trace) : List Invocation :=
  trace.launches.filterMap Invocation.ofArgv?

/-- What is to be seen of a trace where the log is filtered. -/
def visible (filter : Log.Filter) (trace : Trace) : Trace :=
  trace.filter filter.reveals

theorem launches_append (a b : Trace) : launches (a ++ b) = launches a ++ launches b :=
  List.filterMap_append

theorem invocations_append (a b : Trace) :
    invocations (a ++ b) = invocations a ++ invocations b := by
  simp only [invocations, launches_append, List.filterMap_append]

theorem visible_append (filter : Log.Filter) (a b : Trace) :
    visible filter (a ++ b) = visible filter a ++ visible filter b :=
  List.filter_append a b

theorem visible_cons (filter : Log.Filter) (e : Event) (rest : Trace) :
    visible filter (e :: rest) = visible filter [e] ++ visible filter rest :=
  visible_append filter [e] rest

theorem launches_visible (filter : Log.Filter) (trace : Trace) :
    launches (visible filter trace) = launches trace := by
  rw [launches, visible, List.filterMap_filter]
  refine List.filterMap_congr fun e _ => ?_
  cases e with
  | logged entry =>
      split <;> rfl
  | _ => rfl

theorem countP_visible (filter : Log.Filter) {p : Event → Bool}
    (hp : ∀ entry, p (.logged entry) = false) (trace : Trace) :
    (visible filter trace).countP p = trace.countP p := by
  rw [visible, List.countP_filter]
  refine List.countP_congr fun e _ => ?_
  cases e <;> simp [Log.Filter.reveals, hp]

/-- The part of a trace that comes before the next reading. -/
def episode (trace : Trace) : Trace :=
  trace.takeWhile fun event => !event.isAsked

/-- There is nothing more, or a reading comes first. -/
def Rested (trace : Trace) : Prop :=
  ∀ event ∈ trace.head?, event.isAsked = true

theorem rested_nil : Rested [] := by
  simp [Rested]

theorem episode_of_rested {trace : Trace} (h : trace.Rested) : trace.episode = [] := by
  cases trace with
  | nil => rfl
  | cons event trace => simp [episode, h event rfl]

end Trace

end RestrictedShell
