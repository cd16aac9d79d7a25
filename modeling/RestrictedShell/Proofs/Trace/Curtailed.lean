import RestrictedShell.Proofs.Trace.Basic
/-!
What is seen of a course of events on a console. Entries that the log does not show are left out,
and the first operation that a stream refuses ends it all: a refused write leaves the bytes that
were taken, and a refused flush leaves nothing.
-/

namespace RestrictedShell.Trace

/-- What is left of an event that a stream refuses, and the error it is refused with. -/
inductive Cut : Event → Trace → IoError → Prop
  | write {s : Stream} {bytes : Bytes} {n : Nat} (hless : n < bytes.length) :
      Cut (.wrote s bytes) [.wrote s (bytes.take n)] (Output.refusedWrite s)
  | flush (s : Stream) : Cut (.flushed s) [] (Output.refusedFlush s)

theorem Cut.launches {e : Event} {stump : Trace} {error : IoError} (h : Cut e stump error) :
    launches stump = [] := by
  cases h <;> rfl

/-- `Curtailed filter course seen stop`: of the course, this much is seen, all of it unless `stop`
gives the error of a refused operation. -/
inductive Curtailed (filter : Log.Filter) : Trace → Trace → Option IoError → Prop
  | nil : Curtailed filter [] [] none
  | cons (e : Event) {course seen : Trace} {stop : Option IoError}
      (hrest : Curtailed filter course seen stop) :
      Curtailed filter (e :: course) (visible filter [e] ++ seen) stop
  | cut {e : Event} {course stump : Trace} {error : IoError} (hcut : Cut e stump error) :
      Curtailed filter (e :: course) stump (some error)

variable {filter : Log.Filter}

theorem curtailed_none_iff {course seen : Trace} :
    Curtailed filter course seen none ↔ seen = visible filter course := by
  constructor
  · intro h
    generalize hstop : (none : Option IoError) = stop at h
    induction h with
    | nil => rfl
    | cons e hrest ih => rw [ih hstop, ← visible_cons]
    | cut hcut => cases hstop
  · rintro rfl
    induction course with
    | nil => exact .nil
    | cons e course ih =>
        rw [visible_cons]
        exact .cons e ih

theorem curtailed_some_iff {course seen : Trace} {error : IoError} :
    Curtailed filter course seen (some error) ↔
      ∃ before e after stump, course = before ++ e :: after ∧ Cut e stump error ∧
        seen = visible filter before ++ stump := by
  constructor
  · intro h
    generalize hstop : some error = stop at h
    induction h with
    | nil => cases hstop
    | cons e hrest ih =>
        obtain ⟨before, refused, after, stump, rfl, hcut, rfl⟩ := ih hstop
        refine ⟨e :: before, refused, after, stump, rfl, hcut, ?_⟩
        rw [← List.append_assoc, ← visible_cons]
    | @cut e course stump error' hcut =>
        cases hstop
        exact ⟨[], e, course, stump, rfl, hcut, rfl⟩
  · rintro ⟨before, e, after, stump, rfl, hcut, rfl⟩
    induction before with
    | nil => exact .cut hcut
    | cons first before ih =>
        rw [visible_cons, List.append_assoc]
        exact .cons first ih

theorem Curtailed.append_cases {a b seen : Trace} {stop : Option IoError}
    (h : Curtailed filter (a ++ b) seen stop) :
    (∃ rest, seen = visible filter a ++ rest ∧ Curtailed filter b rest stop) ∨
      ∃ error, stop = some error ∧ Curtailed filter a seen (some error) := by
  induction a generalizing seen with
  | nil => exact .inl ⟨seen, rfl, h⟩
  | cons e a ih =>
      cases h with
      | cons _ hrest =>
          rcases ih hrest with ⟨rest, rfl, hb⟩ | ⟨error, rfl, ha⟩
          · refine .inl ⟨rest, ?_, hb⟩
            rw [← List.append_assoc, ← visible_cons]
          · exact .inr ⟨error, rfl, .cons e ha⟩
      | cut hcut => exact .inr ⟨_, rfl, .cut hcut⟩

/-- Every event that is seen stands in the course at the same place, or is what is left of a refused
one. -/
theorem Curtailed.split {course before after : Trace} {e : Event} {stop : Option IoError}
    (h : Curtailed filter course (before ++ e :: after) stop) :
    ∃ before' e' after', course = before' ++ e' :: after' ∧ before = visible filter before' ∧
      (e' = e ∧ Curtailed filter after' after stop ∨
        after = [] ∧ ∃ error, stop = some error ∧ Cut e' [e] error) := by
  generalize hseen : before ++ e :: after = seen at h
  induction h generalizing before with
  | nil => simp at hseen
  | cons first hrest ih =>
      cases hshown : filter.reveals first with
      | false =>
          have hnone : visible filter [first] = [] := by simp [visible, hshown]
          rw [hnone, List.nil_append] at hseen
          obtain ⟨before', e', after', rfl, rfl, hcase⟩ := ih hseen
          refine ⟨first :: before', e', after', rfl, ?_, hcase⟩
          rw [visible_cons, hnone, List.nil_append]
      | true =>
          have hone : visible filter [first] = [first] := by simp [visible, hshown]
          rw [hone, List.singleton_append] at hseen
          cases before with
          | nil =>
              simp only [List.nil_append, List.cons.injEq] at hseen
              obtain ⟨rfl, rfl⟩ := hseen
              exact ⟨[], e, _, rfl, rfl, .inl ⟨rfl, hrest⟩⟩
          | cons _ before =>
              simp only [List.cons_append, List.cons.injEq] at hseen
              obtain ⟨rfl, hseen⟩ := hseen
              obtain ⟨before', e', after', rfl, rfl, hcase⟩ := ih hseen
              refine ⟨_ :: before', e', after', rfl, ?_, hcase⟩
              rw [visible_cons, hone, List.singleton_append]
  | @cut refused course stump error hcut =>
      cases hcut with
      | flush => simp at hseen
      | @write s bytes n hless =>
          cases before with
          | nil =>
              simp only [List.nil_append, List.cons.injEq] at hseen
              obtain ⟨rfl, rfl⟩ := hseen
              exact ⟨[], _, course, rfl, rfl, .inr ⟨rfl, _, rfl, .write hless⟩⟩
          | cons _ before => simp at hseen

theorem Curtailed.uncut {a b seen : Trace} {stop : Option IoError}
    (h : Curtailed filter (a ++ b) seen stop)
    (ha : ∀ event ∈ a, ∀ stump error, ¬ Cut event stump error) :
    ∃ rest, seen = visible filter a ++ rest ∧ Curtailed filter b rest stop := by
  rcases h.append_cases with hrest | ⟨error, rfl, hcut⟩
  · exact hrest
  · obtain ⟨before, event, after, stump, rfl, hevent, _⟩ := curtailed_some_iff.mp hcut
    exact absurd hevent (ha event (by simp) stump error)

theorem Curtailed.uncut_cons {e : Event} {course seen : Trace} {stop : Option IoError}
    (h : Curtailed filter (e :: course) seen stop) (he : ∀ stump error, ¬ Cut e stump error) :
    ∃ rest, seen = visible filter [e] ++ rest ∧ Curtailed filter course rest stop := by
  cases h with
  | cons _ hrest => exact ⟨_, rfl, hrest⟩
  | cut hcut => exact absurd hcut (he _ _)

theorem Curtailed.resume {a b rest : Trace} {stop : Option IoError}
    (h : Curtailed filter (a ++ b) (visible filter a ++ rest) stop) :
    Curtailed filter b rest stop := by
  induction a with
  | nil => exact h
  | cons event a ih =>
      rw [visible_cons, List.append_assoc, List.cons_append] at h
      generalize hseen : visible filter [event] ++ (visible filter a ++ rest) = seen at h
      cases h with
      | cons _ hrest =>
          rw [← List.append_cancel_left hseen] at hrest
          exact ih hrest
      | cut hcut =>
          cases hcut with
          | write hless =>
              simp only [visible, Log.Filter.reveals, List.filter_cons, List.filter_nil, if_true,
                List.singleton_append, List.cons.injEq, Event.wrote.injEq, true_and] at hseen
              have hlength := congrArg List.length hseen.1
              simp only [List.length_take] at hlength
              omega
          | flush s => simp [visible, Log.Filter.reveals] at hseen

theorem Curtailed.not_prefix {course seen : Trace} {error : IoError}
    (h : Curtailed filter course seen (some error)) : ¬ visible filter course <+: seen := by
  rintro ⟨rest, rfl⟩
  rw [← List.append_nil course, visible_append, List.append_assoc] at h
  cases h.resume

theorem Curtailed.mem {course seen : Trace} {stop : Option IoError} {event : Event}
    (h : Curtailed filter course seen stop) (hevent : event ∈ seen) :
    ∃ e ∈ course, e = event ∨ ∃ error, Cut e [event] error := by
  obtain ⟨before, after, rfl⟩ := List.append_of_mem hevent
  obtain ⟨before', e, after', rfl, _, hcase⟩ := h.split
  refine ⟨e, by simp, ?_⟩
  rcases hcase with ⟨rfl, _⟩ | ⟨_, error, _, hcut⟩
  · exact .inl rfl
  · exact .inr ⟨error, hcut⟩

theorem Curtailed.rested {course seen : Trace} {stop : Option IoError}
    (h : Curtailed filter course seen stop) (hrested : course.Rested) : seen.Rested := by
  cases h with
  | nil => exact hrested
  | @cons event course seen stop hrest =>
      have hasked := hrested event rfl
      cases event with
      | asked prompt => exact hrested
      | _ => cases hasked
  | @cut event course stump error hcut =>
      have hasked := hrested event rfl
      cases hcut <;> cases hasked

theorem Curtailed.mem_episode {a b seen : Trace} {stop : Option IoError} {event : Event}
    (h : Curtailed filter (a ++ b) seen stop) (ha : ∀ e ∈ a, e.isAsked = false)
    (hb : b.Rested) (hevent : event ∈ seen.episode) :
    ∃ e ∈ a, e = event ∨ ∃ error, Cut e [event] error := by
  rcases h.append_cases with ⟨rest, rfl, hrest⟩ | ⟨error, rfl, hcut⟩
  · have hfree : ∀ e ∈ visible filter a, (!e.isAsked) = true := fun e he => by
      rw [ha e (List.mem_of_mem_filter he)]
      rfl
    rw [episode, List.takeWhile_append_of_pos hfree] at hevent
    rcases List.mem_append.mp hevent with hmem | hmem
    · exact ⟨event, List.mem_of_mem_filter hmem, .inl rfl⟩
    · have hnone : rest.episode = [] := episode_of_rested (hrest.rested hb)
      rw [episode] at hnone
      rw [hnone] at hmem
      cases hmem
  · exact hcut.mem (List.takeWhile_sublist _ |>.mem hevent)

end RestrictedShell.Trace
