import RestrictedShell.Proofs.Console
/-!
What a console takes and what it refuses, told from its limits. What a stream has taken counts
against its allowance, so that the console after some events is known from the console before them,
and with it the first operation that is refused. Traces act on consoles: two of them put together
act as one after the other.
-/

namespace RestrictedShell

namespace Trace

/-- The bytes that a stream took from the session. -/
def written (s : Stream) (trace : Trace) : Bytes :=
  trace.flatMap fun
    | .wrote s' bytes => if s' = s then bytes else []
    | _ => []

theorem written_append (s : Stream) (a b : Trace) :
    written s (a ++ b) = written s a ++ written s b :=
  List.flatMap_append

theorem written_visible (filter : Log.Filter) (s : Stream) (trace : Trace) :
    written s (visible filter trace) = written s trace := by
  induction trace with
  | nil => rfl
  | cons e trace ih =>
      have hfirst : written s (visible filter [e]) = written s [e] := by
        cases e with
        | logged entry =>
            unfold visible
            cases hshown : filter.reveals (.logged entry) <;> simp [hshown, written]
        | _ => rfl
      rw [visible_cons, written_append, ih, hfirst, ← written_append, List.singleton_append]

theorem count_flushed_visible (filter : Log.Filter) (s : Stream) (trace : Trace) :
    (visible filter trace).count (.flushed s) = trace.count (.flushed s) :=
  countP_visible filter (p := (· == .flushed s)) (fun _ => rfl) trace

theorem visible_visible (filter : Log.Filter) (trace : Trace) :
    visible filter (visible filter trace) = visible filter trace := by
  simp [visible, List.filter_filter]

theorem visible_split {filter : Log.Filter} {trace before later : Trace} {e : Event}
    (h : visible filter trace = before ++ e :: later) :
    ∃ before' later', trace = before' ++ e :: later' ∧ visible filter before' = before ∧
      visible filter later' = later := by
  obtain ⟨before', rest, rfl, hbefore, hrest⟩ := List.filter_eq_append_iff.mp h
  obtain ⟨hidden, later', rfl, hhidden, _, hlater⟩ := List.filter_eq_cons_iff.mp hrest
  refine ⟨before' ++ hidden, later', by simp, ?_, hlater⟩
  have hnone : visible filter hidden = [] :=
    List.filter_eq_nil_iff.mpr fun event hevent => by simp [hhidden event hevent]
  rw [visible_append, hnone, List.append_nil]
  exact hbefore

end Trace

/-- What is left of the allowance of a stream after some events. -/
def Allowance.after (a : Allowance) (s : Stream) (trace : Trace) : Allowance where
  bytes := a.bytes.map (· - (trace.written s).length)
  flushes := a.flushes.map (· - trace.count (.flushed s))

theorem Allowance.after_append (a : Allowance) (s : Stream) (t u : Trace) :
    a.after s (t ++ u) = (a.after s t).after s u := by
  obtain ⟨bytes, flushes⟩ := a
  cases bytes <;> cases flushes <;>
    simp [after, Trace.written_append, List.count_append, Nat.sub_sub]

theorem Allowance.after_of_free {s : Stream} {trace : Trace} (hwritten : trace.written s = [])
    (hflushed : trace.count (.flushed s) = 0) (a : Allowance) : a.after s trace = a := by
  obtain ⟨bytes, flushes⟩ := a
  cases bytes <;> cases flushes <;> simp [after, hwritten, hflushed]

namespace Console

/-- The console after events that it took. -/
def after (c : Console) (trace : Trace) : Console where
  out := c.out.after .out trace
  err := c.err.after .err trace
  prompt := c.prompt.after .prompt trace
  filter := c.filter
  trace := c.trace ++ (trace.visible c.filter).toArray

/-- What is left of an event that the console refuses, and the error it is refused with. -/
def refusal? (c : Console) : Event → Option (Trace × IoError)
  | .wrote s bytes =>
      match (c.allowance s).bytes with
      | some left =>
          if left < bytes.length then
            some ([.wrote s (bytes.take left)], Output.refusedWrite s)
          else none
      | none => none
  | .flushed s =>
      if (c.allowance s).flushes = some 0 then some ([], Output.refusedFlush s) else none
  | _ => none

/-- The console refuses none of these events. -/
def Takes (c : Console) (trace : Trace) : Prop :=
  ∀ before e later, trace = before ++ e :: later → (c.after before).refusal? e = none

/-- The same console, with no limit on any stream. -/
def boundless (c : Console) : Console :=
  { c with out := .unlimited, err := .unlimited, prompt := .unlimited }

theorem unlimited_boundless (c : Console) : c.boundless.Unlimited := by
  intro s
  cases s <;> rfl

@[simp]
theorem filter_after (c : Console) (trace : Trace) : (c.after trace).filter = c.filter := rfl

@[simp]
theorem allowance_after (c : Console) (trace : Trace) (s : Stream) :
    (c.after trace).allowance s = (c.allowance s).after s trace := by
  cases s <;> rfl

@[simp]
theorem history_after (c : Console) (trace : Trace) :
    (c.after trace).history = c.history ++ trace.visible c.filter := by
  simp [after, history]

theorem ext_allowance {c c' : Console} (hallowance : ∀ s, c.allowance s = c'.allowance s)
    (hfilter : c.filter = c'.filter) (hhistory : c.history = c'.history) : c = c' := by
  obtain ⟨out, err, prompt, filter, trace⟩ := c
  obtain ⟨out', err', prompt', filter', trace'⟩ := c'
  obtain rfl : out = out' := hallowance .out
  obtain rfl : err = err' := hallowance .err
  obtain rfl : prompt = prompt' := hallowance .prompt
  obtain rfl : filter = filter' := hfilter
  obtain rfl : trace = trace' := Array.toList_inj.mp hhistory
  rfl

@[simp]
theorem after_nil (c : Console) : c.after [] = c := by
  refine ext_allowance (fun s => ?_) rfl ?_
  · rw [allowance_after, Allowance.after_of_free rfl rfl]
  · rw [history_after]
    exact List.append_nil _

theorem after_append (c : Console) (t u : Trace) : c.after (t ++ u) = (c.after t).after u := by
  refine ext_allowance (fun s => ?_) rfl ?_
  · simp only [allowance_after, Allowance.after_append]
  · simp only [history_after, filter_after, Trace.visible_append, List.append_assoc]

theorem after_visible (c : Console) (trace : Trace) :
    c.after (trace.visible c.filter) = c.after trace := by
  refine ext_allowance (fun s => ?_) rfl ?_
  · simp only [allowance_after, Allowance.after, Trace.written_visible,
      Trace.count_flushed_visible]
  · rw [history_after, history_after, Trace.visible_visible]

theorem refusal?_congr {c c' : Console} (h : ∀ s, c.allowance s = c'.allowance s) (e : Event) :
    c.refusal? e = c'.refusal? e := by
  cases e <;> simp only [refusal?, h]

theorem refusal?_eq_none_of_unlimited {c : Console} (h : c.Unlimited) (e : Event) :
    c.refusal? e = none := by
  cases e <;> simp [refusal?, h _, Allowance.unlimited]

theorem reveals_of_refusal? {c : Console} {e : Event} {stump : Trace} {error : IoError}
    (h : c.refusal? e = some (stump, error)) (filter : Log.Filter) :
    filter.reveals e = true ∧ stump.visible filter = stump := by
  cases e with
  | wrote s bytes =>
      refine ⟨rfl, ?_⟩
      simp only [refusal?] at h
      split at h
      · split at h
        · cases h
          rfl
        · cases h
      · cases h
  | flushed s =>
      refine ⟨rfl, ?_⟩
      simp only [refusal?] at h
      split at h
      · cases h
        rfl
      · cases h
  | _ => cases h

theorem takes_nil (c : Console) : c.Takes [] := by
  intro before e later h
  simp at h

theorem takes_append {c : Console} {t u : Trace} :
    c.Takes (t ++ u) ↔ c.Takes t ∧ (c.after t).Takes u := by
  constructor
  · refine fun h => ⟨fun before e later ht => ?_, fun before e later hu => ?_⟩
    · exact h before e (later ++ u) (by rw [ht]; simp)
    · rw [← after_append]
      exact h (t ++ before) e later (by rw [hu]; simp)
  · rintro ⟨ht, hu⟩ before e later h
    rcases Trace.append_split h with ⟨rest, hfirst, _⟩ | ⟨rest, rfl, hsecond⟩
    · exact ht before e rest hfirst
    · rw [after_append]
      exact hu rest e later hsecond

theorem takes_singleton {c : Console} {e : Event} : c.Takes [e] ↔ c.refusal? e = none := by
  constructor
  · intro h
    have hfirst := h [] e [] rfl
    rwa [after_nil] at hfirst
  · intro h before e' later hsplit
    obtain ⟨rfl, rfl, _⟩ : before = [] ∧ e' = e ∧ later = [] := by
      cases before <;> simp_all
    rwa [after_nil]

theorem takes_cons {c : Console} {e : Event} {t : Trace} :
    c.Takes (e :: t) ↔ c.refusal? e = none ∧ (c.after [e]).Takes t := by
  rw [← List.singleton_append, takes_append, takes_singleton]

theorem refusal?_flushed {c : Console} {s : Stream} (h : ¬ c.Takes [.flushed s]) :
    c.refusal? (.flushed s) = some ([], Output.refusedFlush s) := by
  rw [takes_singleton] at h
  simp only [refusal?] at h ⊢
  split
  · rfl
  · rename_i hmore
    exact absurd (if_neg hmore) h

theorem exists_refusal?_wrote {c : Console} {s : Stream} {bytes : Bytes}
    (h : ¬ c.Takes [.wrote s bytes]) :
    ∃ part, c.refusal? (.wrote s bytes) = some ([.wrote s part], Output.refusedWrite s) := by
  rw [takes_singleton] at h
  simp only [refusal?] at h ⊢
  split
  · split
    · exact ⟨_, rfl⟩
    · simp_all
  · simp_all

theorem takes_of_unlimited {c : Console} (h : c.Unlimited) (trace : Trace) : c.Takes trace := by
  intro before e later _
  refine refusal?_eq_none_of_unlimited (fun s => ?_) e
  rw [allowance_after, h s]
  rfl

theorem takes_visible {c : Console} {trace : Trace} :
    c.Takes (trace.visible c.filter) ↔ c.Takes trace := by
  induction trace generalizing c with
  | nil => rfl
  | cons e trace ih =>
      have hfirst : c.Takes (Trace.visible c.filter [e]) ↔ c.Takes [e] := by
        cases hshown : c.filter.reveals e with
        | true => simp [Trace.visible, hshown]
        | false =>
            obtain ⟨entry, rfl⟩ : ∃ entry, e = .logged entry := by
              cases e <;> simp_all [Log.Filter.reveals]
            simp [Trace.visible, hshown, takes_nil, takes_singleton, refusal?]
      rw [Trace.visible_cons, takes_append, after_visible, ← List.singleton_append (l := trace),
        takes_append, hfirst, ← ih (c := c.after [e]), filter_after]

theorem takes_congr {c c' : Console} (h : c.clear = c'.clear) {trace : Trace} :
    c.Takes trace ↔ c'.Takes trace := by
  change c.clear.Takes trace ↔ c'.clear.Takes trace
  rw [h]

theorem refusal?_after_congr {c c' : Console} (h : c.clear = c'.clear) (trace : Trace) (e : Event) :
    (c.after trace).refusal? e = (c'.after trace).refusal? e := by
  change (c.clear.after trace).refusal? e = (c'.clear.after trace).refusal? e
  rw [h]

theorem clear_after_congr {c c' : Console} (h : c.clear = c'.clear) (trace : Trace) :
    (c.after trace).clear = (c'.after trace).clear := by
  change (c.clear.after trace).clear = (c'.clear.after trace).clear
  rw [h]

theorem clear_after_of_free {trace : Trace}
    (h : ∀ s, trace.written s = [] ∧ trace.count (.flushed s) = 0) (c : Console) :
    (c.after trace).clear = c.clear := by
  refine ext_allowance (fun s => ?_) rfl rfl
  change (c.after trace).allowance s = c.allowance s
  rw [allowance_after, Allowance.after_of_free (h s).1 (h s).2]

theorem clear_after_logged (c : Console) (entry : Log.Entry) :
    (c.after [.logged entry]).clear = c.clear :=
  clear_after_of_free (fun s => ⟨rfl, by simp⟩) c

/-- Either all events of a trace are taken, or there is a first one that is refused. -/
theorem takes_or_refuses (c : Console) (trace : Trace) :
    c.Takes trace ∨ ∃ before e later stump error, trace = before ++ e :: later ∧
      c.Takes before ∧ (c.after before).refusal? e = some (stump, error) := by
  induction trace generalizing c with
  | nil => exact .inl (takes_nil c)
  | cons e trace ih =>
      cases hrefused : c.refusal? e with
      | some refusal =>
          refine .inr ⟨[], e, trace, refusal.1, refusal.2, rfl, takes_nil c, ?_⟩
          rw [after_nil, hrefused]
      | none =>
          rcases ih (c.after [e]) with
            hrest | ⟨before, e', later, stump, error, rfl, htaken, hrefused'⟩
          · exact .inl (takes_cons.mpr ⟨hrefused, hrest⟩)
          · refine .inr ⟨e :: before, e', later, stump, error, rfl, ?_, ?_⟩
            · exact takes_cons.mpr ⟨hrefused, htaken⟩
            · rwa [← List.singleton_append, after_append]

theorem refusal?_after_isSome {c : Console} {e : Event} (h : (c.refusal? e).isSome = true)
    (u : Trace) : ((c.after u).refusal? e).isSome = true := by
  cases e with
  | wrote s bytes =>
      simp only [refusal?, allowance_after, Allowance.after] at h ⊢
      cases hleft : (c.allowance s).bytes with
      | none => simp [hleft] at h
      | some left =>
          have hless : left < bytes.length := by
            by_contra hnot
            simp [hleft, hnot] at h
          simp only [Option.map_some]
          rw [if_pos (by omega)]
          rfl
  | flushed s =>
      simp only [refusal?, allowance_after, Allowance.after] at h ⊢
      have hnone : (c.allowance s).flushes = some 0 := by
        by_contra hnot
        simp [hnot] at h
      simp [hnone]
  | _ => cases h

theorem not_takes_after {c : Console} {t : Trace} (h : ¬ c.Takes t) (u : Trace) :
    ¬ (c.after u).Takes t := by
  intro htakes
  rcases takes_or_refuses c t with ht | ⟨before, e, later, stump, error, rfl, _, hrefused⟩
  · exact h ht
  · -- The event that `c` refuses is refused after `u` as well: in either order, the same is left.
    have hallowance : ∀ s, ((c.after u).after before).allowance s =
        ((c.after before).after u).allowance s := by
      intro s
      simp only [allowance_after, ← Allowance.after_append]
      simp only [Allowance.after, Trace.written_append, List.count_append, List.length_append,
        Nat.add_comm]
    have hnone := htakes before e later rfl
    have hsome := refusal?_after_isSome (e := e) (by rw [hrefused]; rfl) u
    rw [← refusal?_congr hallowance, hnone] at hsome
    cases hsome

end Console

namespace Console

theorem setAllowance_self (c : Console) (s : Stream) : c.setAllowance (c.allowance s) s = c := by
  cases s <;> rfl

theorem allowance_setAllowance_of_ne {c : Console} {a : Allowance} {s s' : Stream} (h : s' ≠ s) :
    (c.setAllowance a s).allowance s' = c.allowance s' := by
  cases s <;> cases s' <;> first | rfl | exact absurd rfl h

theorem record_setAllowance {c : Console} {s : Stream} {e : Event}
    (hothers : ∀ s' ≠ s, Trace.written s' [e] = [] ∧ [e].count (.flushed s') = 0)
    (hshown : c.filter.reveals e = true) :
    (c.setAllowance ((c.allowance s).after s [e]) s).record e = c.after [e] := by
  refine ext_allowance (fun s' => ?_) (filter_setAllowance _ _ _) ?_
  · change (c.setAllowance _ s).allowance s' = _
    rw [allowance_after]
    by_cases hs : s' = s
    · rw [hs, allowance_setAllowance]
    · obtain ⟨hwritten, hflushed⟩ := hothers s' hs
      rw [allowance_setAllowance_of_ne hs, Allowance.after_of_free hwritten hflushed]
  · rw [history_record, history_setAllowance, history_after]
    simp [Trace.visible, hshown]

theorem record_setAllowance_wrote (c : Console) (s : Stream) (bytes : Bytes) :
    (c.setAllowance ((c.allowance s).after s [.wrote s bytes]) s).record (.wrote s bytes) =
      c.after [.wrote s bytes] :=
  record_setAllowance (fun s' hs => ⟨by simp [Trace.written, Ne.symm hs], by simp⟩) rfl

theorem record_setAllowance_flushed (c : Console) (s : Stream) :
    (c.setAllowance ((c.allowance s).after s [.flushed s]) s).record (.flushed s) =
      c.after [.flushed s] :=
  record_setAllowance (fun s' hs => ⟨rfl, by simp [Ne.symm hs]⟩) rfl

theorem record_eq_after {c : Console} {e : Event}
    (hfree : ∀ s, Trace.written s [e] = [] ∧ [e].count (.flushed s) = 0)
    (hshown : c.filter.reveals e = true) : c.record e = c.after [e] := by
  have hkept := record_setAllowance (c := c) (s := .out) (fun s _ => hfree s) hshown
  rwa [Allowance.after_of_free (hfree .out).1 (hfree .out).2, setAllowance_self] at hkept

theorem record_asked (c : Console) (prompt : Bytes) :
    c.record (.asked prompt) = c.after [.asked prompt] :=
  record_eq_after (fun _ => ⟨rfl, by simp⟩) rfl

theorem log_eq_after (c : Console) (entry : Log.Entry) :
    c.log entry = c.after [.logged entry] := by
  unfold log
  cases hshown : c.filter.shows entry with
  | true =>
      have hrecord := record_eq_after (e := .logged entry) (fun _ => ⟨rfl, by simp⟩) hshown
      rw [if_pos rfl, hrecord]
  | false =>
      have hhidden : Trace.visible c.filter [.logged entry] = [] := by
        simp [Trace.visible, Log.Filter.reveals, hshown]
      rw [← after_visible, hhidden, after_nil]
      rfl

end Console

namespace Output

open Console

theorem write_eq (s : Stream) (bytes : Bytes) (c : Console) :
    write s bytes c = match c.refusal? (.wrote s bytes) with
      | some (stump, error) => .error error (c.after stump)
      | none => .ok () (c.after [.wrote s bytes]) := by
  have hwrote := record_setAllowance_wrote c s
  rcases hlimits : c.allowance s with ⟨_ | left, flushes⟩ <;> simp only [write, refusal?, hlimits]
  · have hall := hwrote bytes
    have hkept : c.setAllowance ⟨none, flushes⟩ s = c := hlimits ▸ setAllowance_self c s
    rw [hlimits] at hall
    simp [← hall, Allowance.after, hkept]
  · by_cases hfits : bytes.length ≤ left
    · have hall := hwrote bytes
      rw [hlimits] at hall
      rw [if_pos hfits, if_neg (Nat.not_lt_of_le hfits), ← hall]
      simp [Allowance.after, Trace.written]
    · have hless : left < bytes.length := Nat.lt_of_not_le hfits
      have hpart := hwrote (bytes.take left)
      rw [hlimits] at hpart
      rw [if_neg hfits, if_pos hless]
      have hnone : left - min left bytes.length = left - bytes.length := by omega
      simp [← hpart, Allowance.after, Trace.written, hnone]

theorem flush_eq (s : Stream) (c : Console) :
    flush s c = match c.refusal? (.flushed s) with
      | some (stump, error) => .error error (c.after stump)
      | none => .ok () (c.after [.flushed s]) := by
  have hflushed := record_setAllowance_flushed c s
  rcases hlimits : c.allowance s with ⟨bytes, _ | _ | left⟩ <;>
    simp only [flush, refusal?, hlimits]
  · have hkept : c.setAllowance ⟨bytes, none⟩ s = c := hlimits ▸ setAllowance_self c s
    rw [hlimits] at hflushed
    simp [← hflushed, Allowance.after, Trace.written, hkept]
  · simp
  · rw [hlimits] at hflushed
    simp [← hflushed, Allowance.after, Trace.written]

theorem perform_eq (e : Event) (c : Console) :
    perform e c = match c.refusal? e with
      | some (stump, error) => .error error (c.after stump)
      | none => .ok () (c.after [e]) := by
  cases e with
  | wrote s bytes => exact write_eq s bytes c
  | flushed s => exact flush_eq s c
  | logged entry => exact congrArg (EStateM.Result.ok ()) (c.log_eq_after entry)
  | _ => exact congrArg (EStateM.Result.ok ()) (record_eq_after (fun _ => ⟨rfl, by simp⟩) rfl)

end Output

end RestrictedShell
