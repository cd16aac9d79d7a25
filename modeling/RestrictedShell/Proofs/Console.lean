import RestrictedShell.Proofs.Trace.Curtailed

namespace RestrictedShell

namespace Console

/-- No stream ever refuses anything. -/
def Unlimited (c : Console) : Prop :=
  ∀ s, c.allowance s = .unlimited

theorem unlimited_fresh (filter : Log.Filter) : (Console.fresh filter).Unlimited := by
  intro s
  cases s <;> rfl

theorem filter_setAllowance (c : Console) (a : Allowance) (s : Stream) :
    (c.setAllowance a s).filter = c.filter := by
  cases s <;> rfl

end Console

namespace Output

/-- Does what an event tells of. -/
def perform : Event → Output Unit
  | .wrote s bytes => write s bytes
  | .flushed s => flush s
  | .logged entry => log entry
  | e => note e

/-- How a console takes an event: it shows what the log filter lets through, or it refuses a write
or a flush. -/
inductive Performed (e : Event) (c : Console) : EStateM.Result IoError Console Unit → Prop
  | taken {c' : Console} (hhistory : c'.history = c.history ++ Trace.visible c.filter [e])
      (hfilter : c'.filter = c.filter) (hkept : c.Unlimited → c'.Unlimited) :
      Performed e c (.ok () c')
  | refused {c' : Console} {stump : Trace} {error : IoError} (hcut : Trace.Cut e stump error)
      (hhistory : c'.history = c.history ++ stump) (hfilter : c'.filter = c.filter)
      (hlimited : ¬ c.Unlimited) : Performed e c (.error error c')

theorem performed_write (s : Stream) (bytes : Bytes) (c : Console) :
    Performed (.wrote s bytes) c (write s bytes c) := by
  unfold write
  dsimp only
  split
  · exact .taken (Console.history_record _ _) rfl id
  · rename_i left hleft
    have hlimited : ¬ c.Unlimited := fun h => by
      rw [h s] at hleft
      cases hleft
    split
    · refine .taken ?_ (Console.filter_setAllowance _ _ _) fun h => absurd h hlimited
      rw [Console.history_record, Console.history_setAllowance]
      rfl
    · rename_i hmore
      refine .refused (.write (Nat.lt_of_not_le hmore)) ?_ (Console.filter_setAllowance _ _ _)
        hlimited
      rw [Console.history_record, Console.history_setAllowance]

theorem performed_flush (s : Stream) (c : Console) :
    Performed (.flushed s) c (flush s c) := by
  unfold flush
  dsimp only
  split
  · exact .taken (Console.history_record _ _) rfl id
  · rename_i hnone
    refine .refused (.flush s) (List.append_nil _).symm rfl fun h => ?_
    rw [h s] at hnone
    cases hnone
  · rename_i left hleft
    refine .taken ?_ (Console.filter_setAllowance _ _ _) fun h => ?_
    · rw [Console.history_record, Console.history_setAllowance]
      rfl
    · rw [h s] at hleft
      cases hleft

theorem performed_log (entry : Log.Entry) (c : Console) :
    Performed (.logged entry) c (log entry c) := by
  unfold log Console.log
  cases hshown : c.filter.shows entry with
  | true =>
      refine .taken ?_ rfl id
      simp [Trace.visible, Log.Filter.reveals, hshown]
  | false =>
      refine .taken ?_ rfl id
      simp [Trace.visible, Log.Filter.reveals, hshown]

theorem performed_perform (e : Event) (c : Console) : Performed e c (perform e c) := by
  cases e with
  | wrote s bytes => exact performed_write s bytes c
  | flushed s => exact performed_flush s c
  | logged entry => exact performed_log entry c
  | _ => exact .taken (Console.history_record _ _) rfl id

theorem exists_perform_of_unlimited (e : Event) {c : Console} (h : c.Unlimited) :
    ∃ c', perform e c = .ok () c' ∧ c'.Unlimited := by
  have hperformed := performed_perform e c
  cases hrun : perform e c with
  | ok u c' =>
      rw [hrun] at hperformed
      cases hperformed with
      | taken _ _ hkept => exact ⟨c', rfl, hkept h⟩
  | error error c' =>
      rw [hrun] at hperformed
      cases hperformed with
      | refused _ _ _ hlimited => exact absurd h hlimited

end Output

end RestrictedShell
