import RegistryHive.Proofs.Pacing

namespace RegistryHive

def Event.isRead : Event → Bool
  | .read .. => true
  | .check => false

/-- Whether a signal just before the `k`th read of an action leaves it one more read at most. -/
def Action.Prompt {α : Type} (action : Action α) : Prop :=
  ∀ session, let events := (action.after session).since session
    (action.after session).trace = events ++ session.trace ∧
    ∀ k later read earlier, events = later ++ read :: earlier → read.isRead = true →
      (read :: earlier).countP Event.isRead = k →
      0 < session.signals (read :: (earlier ++ session.trace)) →
      events.countP Event.isRead ≤ k + 1

/-- A signal stays pending until the next check, and no check in a course finds one. So after a read that
a signal came before there are only reads, which all count. -/
theorem Course.reads_since_signal {first session : Session} {later earlier : List Event} {read : Event}
    (course : Course allowed start first count session) (isRead : read.isRead = true)
    (split : session.trace = later ++ read :: (earlier ++ first.trace))
    (signalled : 0 < first.signals (read :: (earlier ++ first.trace))) :
    session.raised = true ∧ later.countP Event.isRead < count := by
  induction course generalizing later with
  | still =>
    have length := congrArg List.length split
    simp only [List.length_append, List.length_cons] at length
    omega
  | @read count session before room offset length within ih =>
    obtain ⟨source, _, left | met⟩ := Action.after_read_cases offset length session
    · rw [left] at split ⊢
      obtain ⟨raised, few⟩ := ih split
      exact ⟨raised, Nat.lt_succ_of_lt few⟩
    · rw [met] at split ⊢
      cases later with
      | nil =>
        obtain ⟨same, rest⟩ := List.cons.inj split
        have arrives : 0 < session.signals (.read offset length :: session.trace) := by
          rw [before.continues.signals, same, rest]
          exact signalled
        exact ⟨by simp [Session.meet, arrives], Nat.succ_pos _⟩
      | cons event later =>
        obtain ⟨same, rest⟩ := List.cons.inj split
        obtain ⟨raised, few⟩ := ih rest
        refine ⟨by simp [Session.meet, raised], ?_⟩
        rw [← same, List.countP_cons_of_pos rfl]
        exact Nat.succ_lt_succ few
  | @check count session before unraised ih =>
    cases later with
    | nil =>
      obtain ⟨same, _⟩ := List.cons.inj split
      rw [← same] at isRead
      cases isRead
    | cons event later =>
      obtain ⟨_, rest⟩ := List.cons.inj split
      obtain ⟨raised, _⟩ := ih rest
      simp [Session.meet, raised] at unraised
  | block before missing block ih => exact ih split
  | entry before missing entry ih => exact ih split

/-- How many reads there are after one that a signal came before, when an action has ended. -/
theorem Action.Paced.reads_after {α : Type} {action : Action α} (paced : Paced allowed 0 2 action)
    {session : Session} {later earlier : List Event} {read : Event} (isRead : read.isRead = true)
    (split : (action.after session).trace = later ++ read :: (earlier ++ session.trace))
    (signalled : 0 < session.signals (read :: (earlier ++ session.trace))) :
    later.countP Event.isRead ≤ 1 := by
  have ends := paced.ends (.still 0 session) (Nat.le_refl 0)
  unfold after at split
  generalize action session = outcome at ends split
  cases ends with
  | value course within value =>
    obtain ⟨_, few⟩ := course.reads_since_signal isRead split signalled
    have enough := course.count_le (by decide)
    omega
  | failure course error own =>
    obtain ⟨_, few⟩ := course.reads_since_signal isRead split signalled
    have enough := course.count_le (by decide)
    omega
  | aborted course raised operation =>
    cases later with
    | nil =>
      obtain ⟨same, _⟩ := List.cons.inj split
      rw [← same] at isRead
      cases isRead
    | cons event later =>
      obtain ⟨same, rest⟩ := List.cons.inj split
      obtain ⟨_, few⟩ := course.reads_since_signal isRead rest signalled
      have enough := course.count_le (by decide)
      rw [← same, List.countP_cons_of_neg (by simp [Event.isRead])]
      omega

theorem Action.Paced.prompt {α : Type} {action : Action α} (paced : Paced allowed 0 2 action) :
    action.Prompt := by
  intro session events
  have grown := (paced.continues_after session).trace_eq
  refine ⟨grown, ?_⟩
  intro k later read earlier split isRead count signalled
  have place : (action.after session).trace = later ++ read :: (earlier ++ session.trace) := by
    rw [grown]
    change events ++ session.trace = _
    rw [split, List.append_assoc, List.cons_append]
  have few := paced.reads_after isRead place signalled
  rw [split, List.countP_append, count]
  omega

/-- Whatever the file holds and whatever is cached, opening and every operation make at most one more read
after one that a signal came before. -/
theorem reads_stop_after_signal :
    (∀ codepage, (Hive.attach codepage).Prompt) ∧
    ∀ {α : Type} (hive : Hive) (operation : Operation α), (operation.run hive).Prompt :=
  ⟨fun codepage => (Hive.paced_attach codepage).prompt,
    fun hive operation => (operation.paced_run hive.staysIn_anywhere).prompt⟩

end RegistryHive
