import RegistryHive.Session
import RegistryHive.Proofs.Fetch

/-! What an operation answers and what it leaves. An operation is steady where its answer depends on
the file alone: on nothing that was read before, and on signals only in that they can abort it. -/
namespace RegistryHive

theorem exists_of_bind {α β : Type} {result : Except Error α} {next : α → Except Error β} {value : β}
    (ended : (result >>= next) = .ok value) :
    ∃ first, result = .ok first ∧ next first = .ok value := by
  cases result with
  | ok first => exact ⟨first, rfl, ended⟩
  | error error => cases ended

theorem bind_congr_ok {α β : Type} {result : Except Error α} {first second : α → Except Error β}
    (same : ∀ value, result = .ok value → first value = second value) :
    (result >>= first) = (result >>= second) := by
  cases result with
  | ok value => exact same value rfl
  | error error => rfl

/-- No abort signal is pending, and none comes. -/
structure Session.Quiet (session : Session) : Prop where
  lowered : session.raised = false
  silent : ∀ event events, session.signals (event :: (events ++ session.trace)) = 0

theorem Session.Quiet.meet {session : Session} (quiet : session.Quiet) (event : Event) :
    (session.meet event).Quiet where
  lowered := by
    have none : session.signals (event :: session.trace) = 0 := quiet.silent event []
    simp [Session.meet, quiet.lowered, none]
  silent next events := by
    simpa [Session.meet] using quiet.silent next (events ++ [event])

/-- What a session has of its file. Cursor, signals and trace are not part of it. -/
structure Store where
  source : Source
  blocks : Std.TreeMap Nat DataBlock
  entries : Std.TreeMap Location KeyNameEntry Location.compare

def Session.store (session : Session) : Store :=
  ⟨session.source.rewound, session.blocks, session.entries⟩

namespace Action

variable {α β : Type}

/-- The value or the error that an operation ends with. -/
def answer (action : Action α) (session : Session) : Except Error α :=
  match action session with
  | .ok value _ => .ok value
  | .error error _ => .error error

/-- The session that an operation leaves. -/
def after (action : Action α) (session : Session) : Session :=
  match action session with
  | .ok _ session => session
  | .error _ session => session

theorem answer_bind (action : Action α) (next : α → Action β) (session : Session) :
    (action >>= next).answer session =
      match action.answer session with
      | .ok value => (next value).answer (action.after session)
      | .error error => .error error := by
  simp only [answer, after, bind, EStateM.bind]
  cases action session <;> rfl

theorem after_bind (action : Action α) (next : α → Action β) (session : Session) :
    (action >>= next).after session =
      match action.answer session with
      | .ok value => (next value).after (action.after session)
      | .error _ => action.after session := by
  simp only [answer, after, bind, EStateM.bind]
  cases action session <;> rfl

/-- What follows an action leaves what the action left, if it changes nothing itself. -/
theorem after_bind_still {action : Action α} {next : α → Action β}
    (still : ∀ value session, (next value).after session = session) (session : Session) :
    (action >>= next).after session = action.after session := by
  rw [after_bind]
  cases action.answer session with
  | ok value => exact still value _
  | error error => rfl

theorem answer_of_eq {action : Action α} {session next : Session} {value : α}
    (gives : action session = .ok value next) :
    action.answer session = .ok value ∧ action.after session = next := by
  simp [answer, after, gives]

theorem eq_ok_of_answer {action : Action α} {session : Session} {value : α}
    (answered : action.answer session = .ok value) :
    action session = .ok value (action.after session) := by
  unfold answer at answered
  unfold after
  cases result : action session with
  | ok found after =>
    simp only [result, Except.ok.injEq] at answered
    rw [answered]
  | error error after => simp [result] at answered

theorem eq_error_of_answer {action : Action α} {session : Session} {error : Error}
    (answered : action.answer session = .error error) :
    action session = .error error (action.after session) := by
  unfold answer at answered
  unfold after
  cases result : action session with
  | ok found after => simp [result] at answered
  | error found after =>
    simp only [result, Except.error.injEq] at answered
    rw [answered]

@[simp] theorem answer_ofExcept (result : Except Error α) (session : Session) :
    (ofExcept result).answer session = result := by
  cases result <;> rfl

@[simp] theorem after_ofExcept (result : Except Error α) (session : Session) :
    (ofExcept result).after session = session := by
  cases result <;> rfl

/-- Whether an operation answers `result`, unless a signal aborts it. -/
def EndsAs (action : Action α) (session : Session) (result : Except Error α) : Prop :=
  action.answer session = result ∨
    ¬session.Quiet ∧ ∃ operation, action.answer session = .error (.aborted operation)

/-- From every session whose store is kept, the operation leads to such a session, and it gives
`result` unless a signal aborts it. -/
structure Steady (kept : Store → Prop) (action : Action α) (result : Except Error α) : Prop where
  keeps : ∀ session, kept session.store → kept (action.after session).store
  hushed : ∀ session, kept session.store → session.Quiet → (action.after session).Quiet
  answers : ∀ session, kept session.store → action.EndsAs session result

namespace Steady

variable {kept : Store → Prop} {action : Action α} {next : α → Action β}

theorem answer_eq {result : Except Error α} (steady : Steady kept action result)
    {session : Session} (keeps : kept session.store) (quiet : session.Quiet) :
    action.answer session = result := by
  rcases steady.answers session keeps with same | ⟨loud, _⟩
  · exact same
  · exact absurd quiet loud

/-- An operation that comes to an answer of its own was not aborted. -/
theorem eq_of_ok {result : Except Error α} (steady : Steady kept action result)
    {session : Session} (keeps : kept session.store) {value : α}
    (answered : action.answer session = .ok value) : result = .ok value := by
  rcases steady.answers session keeps with same | ⟨_, operation, aborted⟩
  · rw [← same, answered]
  · simp [answered] at aborted

theorem lift (result : Except Error α) : Steady kept (ofExcept result) result where
  keeps session keeps := by simpa using keeps
  hushed session _ quiet := by simpa using quiet
  answers session _ := .inl (by simp)

theorem pure (value : α) : Steady kept (pure value) (.ok value) := lift (.ok value)

theorem throw (error : Error) : Steady kept (throw error : Action α) (.error error) :=
  lift (.error error)

theorem bind_ok {value : α} {result : Except Error β} (first : Steady kept action (.ok value))
    (second : Steady kept (next value) result) : Steady kept (action >>= next) result where
  keeps session keeps := by
    rw [after_bind]
    rcases first.answers session keeps with same | ⟨_, _, same⟩
    · simpa only [same] using second.keeps _ (first.keeps session keeps)
    · simpa only [same] using first.keeps session keeps
  hushed session keeps quiet := by
    rw [after_bind, first.answer_eq keeps quiet]
    exact second.hushed _ (first.keeps session keeps) (first.hushed session keeps quiet)
  answers session keeps := by
    rw [EndsAs, answer_bind]
    rcases first.answers session keeps with same | ⟨loud, operation, same⟩
    · rcases second.answers _ (first.keeps session keeps) with answered | ⟨loud, operation, answered⟩
      · exact .inl (by simp only [same, answered])
      · refine .inr ⟨fun quiet => loud (first.hushed session keeps quiet), operation, ?_⟩
        simp only [same, answered]
    · exact .inr ⟨loud, operation, by simp only [same]⟩

theorem bind_error {error : Error} (first : Steady kept action (.error error)) :
    Steady kept (action >>= next) (.error error) where
  keeps session keeps := by
    rw [after_bind]
    rcases first.answers session keeps with same | ⟨_, _, same⟩
    all_goals simpa only [same] using first.keeps session keeps
  hushed session keeps quiet := by
    rw [after_bind, first.answer_eq keeps quiet]
    exact first.hushed session keeps quiet
  answers session keeps := by
    rw [EndsAs, answer_bind]
    rcases first.answers session keeps with same | ⟨loud, operation, same⟩
    · exact .inl (by simp only [same])
    · exact .inr ⟨loud, operation, by simp only [same]⟩

/-- Operations in sequence answer as their answers in sequence do. -/
theorem bind {first : Except Error α} {second : α → Except Error β}
    (start : Steady kept action first)
    (continues : ∀ value, first = .ok value → Steady kept (next value) (second value)) :
    Steady kept (action >>= next) (first >>= second) := by
  cases first with
  | ok value => exact start.bind_ok (continues value rfl)
  | error error => exact start.bind_error

theorem map {result : Except Error α} (steady : Steady kept action result) (change : α → β) :
    Steady kept (do return change (← action)) (result.map change) := by
  cases result with
  | ok value => exact steady.bind_ok (Steady.pure (change value))
  | error error => exact steady.bind_error

/-- It is enough that from each session the operation does what some steady operation does. -/
theorem of_same {result : Except Error α}
    (same : ∀ session, kept session.store →
      ∃ other, Steady kept other result ∧ action session = other session) :
    Steady kept action result where
  keeps session keeps := by
    obtain ⟨other, steady, equal⟩ := same session keeps
    simpa only [after, equal] using steady.keeps session keeps
  hushed session keeps quiet := by
    obtain ⟨other, steady, equal⟩ := same session keeps
    simpa only [after, equal] using steady.hushed session keeps quiet
  answers session keeps := by
    obtain ⟨other, steady, equal⟩ := same session keeps
    simpa only [EndsAs, answer, equal] using steady.answers session keeps

/-- A look at the session gives nothing away as long as what follows is steady. -/
theorem get {next : Session → Action β} {result : Except Error β}
    (continues : ∀ session, kept session.store → Steady kept (next session) result) :
    Steady kept (get >>= next) result :=
  of_same fun session keeps => ⟨next session, continues session keeps, rfl⟩

end Steady

/-- A check for signals changes no store. -/
theorem steady_checkAbort (kept : Store → Prop) (operation : String) :
    Steady kept (checkAbort operation) (.ok ()) where
  keeps session keeps := by
    simp only [after, checkAbort]
    split
    · rename_i found
      split at found <;> cases found
      exact keeps
    · rename_i found
      split at found <;> cases found
      exact keeps
  hushed session _ quiet := by
    simp only [after, checkAbort, (quiet.meet .check).lowered]
    exact quiet.meet .check
  answers session _ := by
    by_cases raised : (session.meet .check).raised = true
    · refine .inr ⟨fun quiet => ?_, operation, ?_⟩
      · simp [(quiet.meet .check).lowered] at raised
      · simp [answer, checkAbort, raised]
    · exact .inl (by simp [answer, checkAbort, raised])

/-- The session as a read finds it: only what reaches the source is an event. -/
def approach (offset length : Nat) (session : Session) : Session :=
  if session.source.holds offset length && length != 0 then session.meet (.read offset length)
  else session

@[simp] theorem source_approach (offset length : Nat) (session : Session) :
    (approach offset length session).source = session.source := by
  unfold approach
  split <;> rfl

theorem answer_read (offset length : Nat) (session : Session) :
    (read offset length).answer session = session.source.fetch offset length := by
  have found : (approach offset length session).source.fetch offset length =
      session.source.fetch offset length := by rw [source_approach]
  exact (answer_ofExcept _ _).trans found

theorem after_read (offset length : Nat) (session : Session) :
    (read offset length).after session =
      { approach offset length session with
        source := (session.source.read offset length).2 } := by
  have moved : (approach offset length session).source.read offset length =
      session.source.read offset length := by rw [source_approach]
  rw [← moved]
  exact after_ofExcept _ _

/-- A read gives what is at its place, and moves only the cursor. -/
theorem steady_read {kept : Store → Prop} {reads : Nat → Nat → Except Error Bytes}
    (agrees : ∀ store, kept store → store.source.fetch = reads) (offset length : Nat) :
    Steady kept (read offset length) (reads offset length) where
  keeps session keeps := by
    have same : ((read offset length).after session).store = session.store := by
      rw [after_read]
      simp only [Session.store, Source.rewound_read, approach]
      split <;> rfl
    rw [same]
    exact keeps
  hushed session _ quiet := by
    rw [after_read]
    have met : (approach offset length session).Quiet := by
      unfold approach
      split
      · exact quiet.meet _
      · exact quiet
    exact ⟨met.lowered, met.silent⟩
  answers session keeps := by
    refine .inl ?_
    rw [answer_read, ← Source.fetch_rewound, ← agrees session.store keeps]
    rfl

end Action

end RegistryHive
