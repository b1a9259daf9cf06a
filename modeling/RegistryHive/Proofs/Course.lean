import RegistryHive.Proofs.Failures

/-! The course of an operation: its reads, its checks and what it puts into the caches, one after another.
At most two reads lie between two checks, and the check that finds a signal is the last thing an
operation does. -/
namespace RegistryHive

/-- How a session goes on inside an operation that makes only such reads as are allowed. The numbers count
the reads since the operation began or last checked for signals, refused and empty ones too. -/
inductive Course (allowed : Nat → Nat → Prop) : Nat → Session → Nat → Session → Prop where
  | still (count : Nat) (session : Session) : Course allowed count session count session
  | read (before : Course allowed start first count session) (room : count < 2) {offset length : Nat}
      (within : allowed offset length) :
      Course allowed start first (count + 1) ((Action.read offset length).after session)
  | check (before : Course allowed start first count session)
      (unraised : (session.meet .check).raised = false) :
      Course allowed start first 0 (session.meet .check)
  | block (before : Course allowed start first count session) {number : Nat}
      (missing : session.blocks[number]? = none) (block : DataBlock) :
      Course allowed start first count { session with blocks := session.blocks.insert number block }
  | entry (before : Course allowed start first count session) {location : Location}
      (missing : session.entries[location]? = none) (entry : KeyNameEntry) :
      Course allowed start first count { session with entries := session.entries.insert location entry }

/-- How an operation ends, with at most `limit` reads after its last check. Only a check that finds a
signal aborts it, and takes the signal back. -/
inductive Ends {α : Type} (allowed : Nat → Nat → Prop) (start : Nat) (first : Session)
    (limit : Nat) : EStateM.Result Error Session α → Prop where
  | value (course : Course allowed start first count session) (within : count ≤ limit) (value : α) :
      Ends allowed start first limit (.ok value session)
  | failure (course : Course allowed start first count session) (error : Error)
      (own : error.kind ≠ .aborted) : Ends allowed start first limit (.error error session)
  | aborted (course : Course allowed start first count session)
      (raised : (session.meet .check).raised = true) (operation : String) :
      Ends allowed start first limit
        (.error (.aborted operation) { session.meet .check with raised := false })

namespace Action

variable {α β : Type}

/-- Whether the action, where at most `start` reads lie behind it since the last check, goes on to an end
with at most `limit` of them. -/
structure Paced (allowed : Nat → Nat → Prop) (start limit : Nat) (action : Action α) : Prop where
  ends : ∀ {initial first count session}, Course allowed initial first count session →
    count ≤ start → Ends allowed initial first limit (action session)

/-- An action that succeeds is followed by the next one. -/
theorem ends_bind {action : Action α} {next : α → Action β} {session : Session}
    (ends : Ends allowed initial first limit (action session))
    (rest : ∀ count value after, Course allowed initial first count after → count ≤ limit →
      action session = .ok value after → Ends allowed initial first bound (next value after)) :
    Ends allowed initial first bound ((action >>= next) session) := by
  simp only [bind, EStateM.bind]
  generalize result : action session = outcome at ends rest
  cases ends with
  | value course within value => exact rest _ value _ course within rfl
  | failure course error own => exact .failure course error own
  | aborted course raised operation => exact .aborted course raised operation

namespace Paced

theorem mono {action : Action α} (paced : Paced allowed start limit action) (sooner : start' ≤ start)
    (later : limit ≤ limit') : Paced allowed start' limit' action := by
  constructor
  intro initial first count session course behind
  have ends := paced.ends course (Nat.le_trans behind sooner)
  generalize action session = outcome at ends
  cases ends with
  | value course within value => exact .value course (Nat.le_trans within later) value
  | failure course error own => exact .failure course error own
  | aborted course raised operation => exact .aborted course raised operation

theorem lift {result : Except Error α} (own : FailsAs (· ≠ .aborted) result) :
    Paced allowed start start (ofExcept result) := by
  constructor
  intro initial first count session course behind
  cases result with
  | ok value => exact .value course behind value
  | error error => exact .failure course error (own error rfl)

theorem pure (value : α) : Paced allowed start start (pure value : Action α) := lift (.ok value)

theorem throw {error : Error} (own : error.kind ≠ .aborted) :
    Paced allowed start start (throw error : Action α) := lift (.error own)

theorem bind {action : Action α} {next : α → Action β} (paced : Paced allowed start limit action)
    (rest : ∀ value, Paced allowed limit bound (next value)) :
    Paced allowed start bound (action >>= next) := by
  constructor
  intro initial first count session course behind
  apply ends_bind (paced.ends course behind)
  intro count value after course within _
  exact (rest value).ends course within

theorem get {next : Session → Action β}
    (rest : ∀ session, Paced allowed start limit (next session)) :
    Paced allowed start limit (get >>= next) := by
  constructor
  intro initial first count session course behind
  exact (rest session).ends course behind

theorem map {action : Action α} (paced : Paced allowed start limit action) (change : α → β) :
    Paced allowed start limit (do return change (← action)) :=
  paced.bind fun value => pure (change value)

end Paced

theorem paced_checkAbort (operation : String) : Paced allowed start 0 (checkAbort operation) := by
  constructor
  intro initial first count session course _
  by_cases raised : (session.meet .check).raised = true
  · have stops : checkAbort operation session =
        .error (.aborted operation) { session.meet .check with raised := false } := by
      simp only [checkAbort, raised, if_true]
    rw [stops]
    exact .aborted course raised operation
  · have passes : checkAbort operation session = .ok () (session.meet .check) := by
      simp only [checkAbort, raised]
      rfl
    rw [passes]
    exact .value (course.check (Bool.eq_false_iff.mpr raised)) (Nat.zero_le _) ()

theorem paced_read (room : start < 2) {offset length : Nat} (within : allowed offset length) :
    Paced allowed start (start + 1) (read offset length) := by
  constructor
  intro initial first count session course behind
  have further := course.read (by omega) within
  cases answered : (read offset length).answer session with
  | ok data =>
    rw [eq_ok_of_answer answered]
    exact .value further (by omega) data
  | error error =>
    rw [eq_error_of_answer answered]
    rw [answer_read] at answered
    have own : FailsAs (· ≠ .aborted) (session.source.fetch offset length) :=
      Source.failsAs_fetch (by decide) (by decide) _ _ _
    exact .failure further error (own error answered)

theorem caches_after_read (offset length : Nat) (session : Session) :
    ((read offset length).after session).blocks = session.blocks ∧
      ((read offset length).after session).entries = session.entries := by
  rw [after_read, approach]
  split
  · exact ⟨rfl, rfl⟩
  · exact ⟨rfl, rfl⟩

/-- What a read leaves: a moved cursor, and an event if it reached the source. -/
theorem after_read_cases (offset length : Nat) (session : Session) : ∃ source : Source,
    source.rewound = session.source.rewound ∧
    ((read offset length).after session = { session with source } ∨
      (read offset length).after session = { session.meet (.read offset length) with source }) := by
  refine ⟨(session.source.read offset length).2, Source.rewound_read _ _ _, ?_⟩
  rw [after_read, approach]
  split
  · right
    rfl
  · left
    rfl

end Action

/-- What is put where nothing was replaces nothing. -/
theorem getElem?_insert_new {κ ν : Type} {compare : κ → κ → Ordering} [Std.TransCmp compare]
    [Std.LawfulEqCmp compare] {map : Std.TreeMap κ ν compare} {key other : κ} {value found : ν}
    (missing : map[key]? = none) (present : map[other]? = some found) :
    (map.insert key value)[other]? = some found := by
  have different : key ≠ other := by
    intro same
    rw [← same, missing] at present
    cases present
  rw [Std.TreeMap.getElem?_insert, if_neg (mt Std.LawfulEqCmp.compare_eq_iff_eq.mp different)]
  exact present

/-- What one session has of another that it began as: the file, the signals and all that was cached. -/
structure Session.Continues (session first : Session) : Prop where
  source : session.source.rewound = first.source.rewound
  signals : session.signals = first.signals
  trace : first.trace <:+ session.trace
  blocks : ∀ (number : Nat) (block : DataBlock), first.blocks[number]? = some block →
    session.blocks[number]? = some block
  entries : ∀ (location : Location) (entry : KeyNameEntry), first.entries[location]? = some entry →
    session.entries[location]? = some entry

/-- The events in a session since it was `first`, latest first. -/
def Session.since (session first : Session) : List Event :=
  session.trace.take (session.trace.length - first.trace.length)

theorem Session.since_eq {session first : Session} {events : List Event}
    (grown : session.trace = events ++ first.trace) : session.since first = events := by
  rw [since, grown, List.length_append, Nat.add_sub_cancel, List.take_left]

namespace Session.Continues

variable {session first : Session}

theorem trace_eq (continues : session.Continues first) :
    session.trace = session.since first ++ first.trace :=
  (List.suffix_iff_eq_append.mp continues.trace).symm

theorem since_after {last : Session} {events : List Event} (continues : session.Continues first)
    (grown : last.trace = events ++ session.trace) :
    last.since first = events ++ session.since first := by
  apply Session.since_eq
  rw [grown, List.append_assoc, ← continues.trace_eq]

theorem mem_since_meet (continues : session.Continues first) {event other : Event} :
    other ∈ (session.meet event).since first ↔ other = event ∨ other ∈ session.since first := by
  have grown : (session.meet event).trace = [event] ++ session.trace := rfl
  rw [continues.since_after grown]
  exact List.mem_cons

theorem refl (session : Session) : session.Continues session :=
  ⟨rfl, rfl, List.suffix_refl _, fun _ _ found => found, fun _ _ found => found⟩

theorem trans {last : Session} (later : last.Continues session) (continues : session.Continues first) :
    last.Continues first where
  source := later.source.trans continues.source
  signals := later.signals.trans continues.signals
  trace := continues.trace.trans later.trace
  blocks number block found := later.blocks number block (continues.blocks number block found)
  entries location entry found := later.entries location entry (continues.entries location entry found)

theorem fetch (continues : session.Continues first) : session.source.fetch = first.source.fetch := by
  rw [← session.source.fetch_rewound, continues.source, first.source.fetch_rewound]

theorem size (continues : session.Continues first) : session.source.size = first.source.size := by
  rw [← session.source.size_rewound, continues.source, first.source.size_rewound]

theorem meet (continues : session.Continues first) (event : Event) :
    (session.meet event).Continues first where
  source := continues.source
  signals := continues.signals
  trace := continues.trace.trans (List.suffix_cons event session.trace)
  blocks := continues.blocks
  entries := continues.entries

theorem with_source (continues : session.Continues first) {source : Source}
    (same : source.rewound = session.source.rewound) :
    Session.Continues { session with source } first where
  source := same.trans continues.source
  signals := continues.signals
  trace := continues.trace
  blocks := continues.blocks
  entries := continues.entries

theorem insert_block (continues : session.Continues first) {number : Nat}
    (missing : session.blocks[number]? = none) (block : DataBlock) :
    Session.Continues { session with blocks := session.blocks.insert number block } first where
  source := continues.source
  signals := continues.signals
  trace := continues.trace
  blocks other found present := getElem?_insert_new missing (continues.blocks other found present)
  entries := continues.entries

theorem insert_entry (continues : session.Continues first) {location : Location}
    (missing : session.entries[location]? = none) (entry : KeyNameEntry) :
    Session.Continues { session with entries := session.entries.insert location entry } first where
  source := continues.source
  signals := continues.signals
  trace := continues.trace
  blocks := continues.blocks
  entries other found present := getElem?_insert_new missing (continues.entries other found present)

end Session.Continues

namespace Course

variable {first session : Session}

theorem continues (course : Course allowed start first count session) : session.Continues first := by
  induction course with
  | still => exact .refl first
  | @read count session before room offset length within ih =>
    obtain ⟨source, same, left | met⟩ := Action.after_read_cases offset length session
    · rw [left]
      exact ih.with_source same
    · rw [met]
      exact (ih.meet _).with_source same
  | check before unraised ih => exact ih.meet _
  | block before missing block ih => exact ih.insert_block missing block
  | entry before missing entry ih => exact ih.insert_entry missing entry

theorem count_le (course : Course allowed start first count session) (few : start ≤ 2) :
    count ≤ 2 := by
  induction course with
  | still => exact few
  | read before room within ih => exact room
  | check before unraised ih => exact Nat.zero_le 2
  | block before missing block ih => exact ih
  | entry before missing entry ih => exact ih

/-- Of a course, the reads that reach the source are allowed ones. -/
theorem allowed_of_mem (course : Course allowed start first count session) {offset length : Nat}
    (made : .read offset length ∈ session.since first) : allowed offset length := by
  induction course with
  | still =>
    have nothing : first.since first = [] := Session.since_eq rfl
    rw [nothing] at made
    cases made
  | @read count session before room next further within ih =>
    obtain ⟨source, _, left | met⟩ := Action.after_read_cases next further session
    · rw [left] at made
      exact ih made
    · rw [met] at made
      rcases before.continues.mem_since_meet.mp made with latest | earlier
      · cases latest
        exact within
      · exact ih earlier
  | check before unraised ih =>
    rcases before.continues.mem_since_meet.mp made with latest | earlier
    · cases latest
    · exact ih earlier
  | block before missing block ih => exact ih made
  | entry before missing entry ih => exact ih made

end Course

theorem Action.Paced.allowed_of_mem {α : Type} {action : Action α}
    (paced : Paced allowed start limit action) {session : Session} {offset length : Nat}
    (made : .read offset length ∈ (action.after session).since session) : allowed offset length := by
  have ends := paced.ends (.still 0 session) (Nat.zero_le start)
  unfold after at made
  generalize action session = outcome at ends made
  cases ends with
  | value course within value => exact course.allowed_of_mem made
  | failure course error own => exact course.allowed_of_mem made
  | aborted course raised operation =>
    rcases course.continues.mem_since_meet.mp made with latest | earlier
    · cases latest
    · exact course.allowed_of_mem earlier

theorem Action.Paced.continues_after {α : Type} {action : Action α}
    (paced : Paced allowed start limit action) (session : Session) :
    (action.after session).Continues session := by
  have ends := paced.ends (.still 0 session) (Nat.zero_le start)
  unfold after
  generalize action session = outcome at ends
  cases ends with
  | value course within value => exact course.continues
  | failure course error own => exact course.continues
  | aborted course raised operation =>
    obtain ⟨source, signals, trace, blocks, entries⟩ := course.continues.meet .check
    exact ⟨source, signals, trace, blocks, entries⟩

namespace Action

theorem trace_after_read {session : Session} {offset length : Nat}
    (held : session.source.holds offset length = true) (some : length ≠ 0) :
    ((read offset length).after session).trace = .read offset length :: session.trace := by
  have met : approach offset length session = session.meet (.read offset length) := by
    simp [approach, held, some]
  rw [after_read, met]
  rfl

theorem trace_after_checkAbort (operation : String) (session : Session) :
    ((checkAbort operation).after session).trace = .check :: session.trace := by
  simp only [after, checkAbort]
  cases (session.meet .check).raised <;> rfl

theorem caches_after_checkAbort (operation : String) (session : Session) :
    ((checkAbort operation).after session).blocks = session.blocks ∧
      ((checkAbort operation).after session).entries = session.entries := by
  simp only [after, checkAbort]
  cases (session.meet .check).raised <;> exact ⟨rfl, rfl⟩

theorem continues_after_checkAbort (operation : String) (session : Session) :
    ((checkAbort operation).after session).Continues session := by
  have paced : Paced (fun _ _ => True) 0 0 (checkAbort operation) := paced_checkAbort operation
  exact paced.continues_after session

end Action

end RegistryHive
