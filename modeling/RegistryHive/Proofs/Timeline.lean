import RegistryHive.Proofs.Usage

/-! The timeline of a handle: its signals, checks and answers in order. A signal stays pending until a
check finds it, and the operation that checked answers at once that it was aborted. -/
namespace RegistryHive

/-- Whether a signal is pending after these ticks: one came that no check has followed. -/
def pending : List Tick → Bool
  | [] => false
  | .signal :: _ => true
  | .event .check :: _ => false
  | _ :: earlier => pending earlier

/-- Ticks in which every check that finds a signal pending is followed by an aborted answer, and no
other answer is aborted. -/
inductive Timeline : List Tick → Prop where
  | start : Timeline []
  | signal (before : Timeline ticks) : Timeline (.signal :: ticks)
  | read (before : Timeline ticks) (offset length : Nat) :
      Timeline (.event (.read offset length) :: ticks)
  | check (before : Timeline ticks) (calm : pending ticks = false) :
      Timeline (.event .check :: ticks)
  | answered (before : Timeline ticks) : Timeline (.ended false :: ticks)
  | aborted (before : Timeline ticks) (raised : pending ticks = true) :
      Timeline (.ended true :: .event .check :: ticks)

/-- The moment between a check that has found a signal and the answer that it leads to. -/
def Interrupted (later past : List Tick) : Prop :=
  ∃ rest earlier, later = rest ++ [.ended true] ∧ past = .event .check :: earlier ∧
    Timeline earlier ∧ pending earlier = true

theorem Interrupted.cons (interrupted : Interrupted later past) (tick : Tick) :
    Interrupted (tick :: later) past := by
  obtain ⟨rest, earlier, same, moment⟩ := interrupted
  refine ⟨tick :: rest, earlier, ?_, moment⟩
  rw [same, List.cons_append]

namespace Timeline

theorem cut_cons (timeline : Timeline (tick :: ticks))
    (cut : ∀ {later}, ticks = later ++ past → Timeline past ∨ Interrupted later past)
    (split : tick :: ticks = later ++ past) : Timeline past ∨ Interrupted later past := by
  rcases List.cons_eq_append_iff.mp split with ⟨_, whole⟩ | ⟨rest, same, shorter⟩
  · rw [whole]
    exact .inl timeline
  · rw [same]
    exact (cut shorter).imp_right fun interrupted => interrupted.cons tick

/-- Whatever moment a timeline is cut at, a timeline came before it, or a check that found a signal and
whose answer comes next. -/
theorem cut (timeline : Timeline ticks) (split : ticks = later ++ past) :
    Timeline past ∨ Interrupted later past := by
  induction timeline generalizing later with
  | start =>
    rw [(List.append_eq_nil_iff.mp split.symm).2]
    exact .inl .start
  | signal before ih => exact cut_cons (.signal before) ih split
  | read before offset length ih => exact cut_cons (.read before offset length) ih split
  | check before calm ih => exact cut_cons (.check before calm) ih split
  | answered before ih => exact cut_cons (.answered before) ih split
  | aborted before raised ih =>
    rcases List.cons_eq_append_iff.mp split with ⟨_, whole⟩ | ⟨rest, same, shorter⟩
    · rw [whole]
      exact .inl (.aborted before raised)
    · rw [same]
      rcases List.cons_eq_append_iff.mp shorter with ⟨none, found⟩ | ⟨rest, same, shorter⟩
      · rw [none]
        exact .inr ⟨[], _, rfl, found, before, raised⟩
      · rw [same]
        exact (ih shorter).imp_right fun interrupted => (interrupted.cons _).cons _

theorem count_le (timeline : Timeline ticks) :
    ticks.count (.ended true) + (pending ticks).toNat ≤ ticks.count .signal := by
  induction timeline with
  | start => exact Nat.le_refl 0
  | @signal ticks before ih =>
    have answers : (Tick.signal :: ticks).count (.ended true) = ticks.count (.ended true) :=
      List.count_cons_of_ne (by decide)
    rw [answers, List.count_cons_self]
    exact Nat.succ_le_succ (Nat.le_trans (Nat.le_add_right _ _) ih)
  | read before offset length ih => simpa [pending] using ih
  | check before calm ih => simpa [pending, calm] using ih
  | answered before ih => simpa [pending] using ih
  | aborted before raised ih => simpa [pending, raised] using ih

theorem signal_answered (timeline : Timeline ticks) (signalled : .signal ∈ ticks) :
    .ended true ∈ ticks ∨ pending ticks = true := by
  induction timeline with
  | start => cases signalled
  | signal before ih => exact .inr rfl
  | read before offset length ih => simpa [pending] using ih (by simpa using signalled)
  | check before calm ih => simpa [pending, calm] using ih (by simpa using signalled)
  | answered before ih => simpa [pending] using ih (by simpa using signalled)
  | aborted before raised ih => exact .inl List.mem_cons_self

end Timeline

/-- A timeline at whose end the flag is as given. -/
structure Shows (ticks : List Tick) (raised : Bool) : Prop where
  timeline : Timeline ticks
  flag : pending ticks = raised

namespace Shows

theorem signals (shows : Shows ticks raised) (count : Nat) :
    Shows (List.replicate count .signal ++ ticks) (raised || decide (0 < count)) := by
  induction count with
  | zero => simpa using shows
  | succ count ih =>
    rw [List.replicate_succ, List.cons_append]
    exact ⟨.signal ih.timeline, by simp [pending]⟩

theorem answered (shows : Shows ticks raised) : Shows (.ended false :: ticks) raised :=
  ⟨.answered shows.timeline, shows.flag⟩

end Shows

/-- The signals before an event raise the flag as meeting the event does. -/
theorem Session.Continues.shows_meet {session first : Session} {past : List Tick}
    (continues : session.Continues first) (event : Event)
    (shows : Shows (first.signals.ticks first.trace (session.since first) ++ past) session.raised) :
    ∃ ticks, first.signals.ticks first.trace ((session.meet event).since first) ++ past =
      .event event :: ticks ∧ Shows ticks (session.meet event).raised := by
  have met : (session.meet event).trace = [event] ++ session.trace := rfl
  have grown : (session.meet event).since first = event :: session.since first :=
    continues.since_after met
  rw [grown, Signals.ticks, ← continues.trace_eq, List.cons_append, List.append_assoc]
  refine ⟨_, rfl, ?_⟩
  rw [← continues.signals] at shows ⊢
  exact shows.signals _

theorem Course.shows {first session : Session} {past : List Tick}
    (course : Course allowed start first count session) (shows : Shows past first.raised) :
    Shows (first.signals.ticks first.trace (session.since first) ++ past) session.raised := by
  induction course with
  | still =>
    rw [Session.since_eq (List.nil_append first.trace).symm]
    exact shows
  | @read count session before room offset length within ih =>
    obtain ⟨source, _, left | met⟩ := Action.after_read_cases offset length session
    · rw [left]
      exact ih
    · obtain ⟨ticks, same, shown⟩ := before.continues.shows_meet (.read offset length) ih
      rw [met]
      exact ⟨same ▸ .read shown.timeline offset length, same ▸ shown.flag⟩
  | check before unraised ih =>
    obtain ⟨ticks, same, shown⟩ := before.continues.shows_meet .check ih
    rw [unraised] at shown
    rw [same, unraised]
    exact ⟨.check shown.timeline shown.flag, rfl⟩
  | block before missing block ih => exact ih
  | entry before missing entry ih => exact ih

/-- The work of a request and its answer, on the timeline. -/
theorem Work.shows (work : Work) (paced : work.action.Paced allowed 0 2) {past : List Tick}
    (shows : Shows past work.session.raised) :
    Shows (.ended (aborted (work.action.answer work.session)) :: (work.ticks ++ past))
      (work.action.after work.session).raised := by
  have ends := paced.ends (.still 0 work.session) (Nat.le_refl 0)
  unfold Work.ticks Action.answer Action.after
  generalize work.action work.session = outcome at ends
  cases ends with
  | value course within value => exact (course.shows shows).answered
  | failure course error own =>
    have calm : aborted (Except.error error : Except Error work.Result) = false := by
      simp [aborted, failureOf, own]
    simp only [calm]
    exact (course.shows shows).answered
  | @aborted count session course raised operation =>
    obtain ⟨ticks, same, shown⟩ := course.continues.shows_meet .check (course.shows shows)
    have since : Session.since { session.meet .check with raised := false } work.session =
      (session.meet .check).since work.session := rfl
    rw [raised] at shown
    simp only [since, same]
    exact ⟨.aborted shown.timeline shown.flag, rfl⟩

/-- A request works on a source, with the flag as it finds it, or leaves the flag alone. -/
theorem Request.Effect.works {request : Request} {file later : File} {failure : Option Error}
    (effect : request.Effect file failure later) (asks : request ≠ .signalAbort) :
    (∃ work, request.work? file = some work ∧ work.action.Paced anywhere 0 2 ∧
      work.session.raised = file.raised ∧
      failure = failureOf (work.action.answer work.session) ∧
      later.raised = (work.action.after work.session).raised) ∨
    request.work? file = none ∧ (∀ error, failure = some error → error.kind ≠ .aborted) ∧
      later.raised = file.raised := by
  cases effect with
  | @attached place mode source signals found hive session accepted =>
    obtain ⟨answered, left⟩ := Action.answer_of_eq accepted
    refine .inl ⟨⟨Hive.attach file.codepage, { source, signals, raised := file.raised }⟩, ?_,
      Hive.paced_attach file.codepage, rfl, ?_, ?_⟩
    · simp only [work?, found]
    · rw [answered]
      rfl
    · rw [left]
      rfl
  | @rejected place mode source signals found error session refused =>
    refine .inl ⟨⟨Hive.attach file.codepage, { source, signals, raised := file.raised }⟩, ?_,
      Hive.paced_attach file.codepage, rfl, ?_, ?_⟩
    · simp only [work?, found]
    · simp only [Action.answer, refused]
      rfl
    · simp only [Action.after, refused]
      rfl
  | closed holds =>
    refine .inr ⟨rfl, by simp, ?_⟩
    simp only [File.raised, holds]
  | recoded known =>
    refine .inr ⟨rfl, by simp, ?_⟩
    obtain ⟨codepage, attachment⟩ := file
    cases attachment <;> rfl
  | signalled => exact absurd rfl asks
  | told asks =>
    rcases asks with rfl | rfl
    · exact .inr ⟨rfl, by simp, rfl⟩
    · exact .inr ⟨rfl, by simp, rfl⟩
  | @worked hive session holds α operation =>
    obtain ⟨codepage, attachment⟩ := file
    cases holds
    have paced := operation.paced_run hive.staysIn_anywhere
    exact .inl ⟨⟨operation.run hive, session⟩, rfl, paced, rfl, rfl, rfl⟩
  | refused _ idle error own =>
    refine .inr ⟨idle, ?_, rfl⟩
    intro other same
    cases same
    exact own

theorem Request.ticks_eq {request : Request} (asks : request ≠ .signalAbort) (file : File) :
    request.ticks file = .ended (aborted (request.answer file)) ::
      match request.work? file with
      | none => []
      | some work => work.ticks := by
  cases request with
  | signalAbort => exact absurd rfl asks
  | _ => rfl

theorem Request.shows (request : Request) (file : File) {past : List Tick}
    (shows : Shows past file.raised) :
    Shows (request.ticks file ++ past) (request.after file).raised := by
  by_cases asks : request = .signalAbort
  · obtain ⟨codepage, attachment⟩ := file
    rw [asks]
    cases attachment with
    | closed raised => exact ⟨.signal shows.timeline, rfl⟩
    | opened hive session => exact ⟨.signal shows.timeline, rfl⟩
  · rw [request.ticks_eq asks]
    rcases (request.effect file).works asks with
      ⟨work, comes, paced, flag, answer, left⟩ | ⟨idle, own, left⟩
    · rw [← flag] at shows
      rw [comes, left, aborted, answer]
      exact work.shows paced shows
    · have calm : aborted (request.answer file) = false := by
        unfold aborted
        cases failed : failureOf (request.answer file) with
        | none => rfl
        | some error => simpa using own error failed
      rw [idle, left, calm]
      exact shows.answered

/-- Events and signals are no answers. -/
theorem Signals.count_ended (signals : Signals) (earlier events : List Event) (aborted : Bool) :
    (signals.ticks earlier events).count (.ended aborted) = 0 := by
  induction events with
  | nil => rfl
  | cons event rest ih => simp [ticks, ih, List.count_replicate]

theorem Request.count_aborted (request : Request) (file : File) :
    (request.ticks file).count (.ended true) = (aborted (request.answer file)).toNat := by
  by_cases asks : request = .signalAbort
  · rw [asks]
    rfl
  · have none : List.count (.ended true) (match request.work? file with
        | none => []
        | some work => work.ticks) = 0 := by
      cases request.work? file with
      | none => rfl
      | some work => exact Signals.count_ended _ _ _ _
    rw [request.ticks_eq asks, List.count_cons, none]
    cases aborted (request.answer file) <;> rfl

namespace Usage

/-- The timeline leads to the flag, and has the answers of the log. -/
structure Kept (usage : Usage) : Prop where
  shows : Shows usage.ticks usage.file.raised
  counted : usage.ticks.count (.ended true) = usage.log.countP fun record => aborted record.answer

theorem Kept.serve {usage : Usage} (kept : usage.Kept) (request : Request) :
    (usage.serve request).Kept where
  shows := request.shows usage.file kept.shows
  counted := by
    simp only [Usage.serve]
    rw [List.count_append, request.count_aborted, List.countP_cons, kept.counted, Nat.add_comm]
    cases aborted (request.answer usage.file) <;> rfl

theorem kept_serveAll {usage : Usage} (kept : usage.Kept) (requests : List Request) :
    (usage.serveAll requests).Kept := by
  induction requests generalizing usage with
  | nil => exact kept
  | cons request rest ih => exact ih (kept.serve request)

theorem kept_new : ({} : Usage).Kept := ⟨⟨.start, rfl⟩, rfl⟩

end Usage

/-- What holds at a moment of a timeline, with `later` still to come. -/
structure Accounted (later past : List Tick) : Prop where
  /-- Every aborted answer had a signal of its own, and so has the flag. -/
  counted : past.count (.ended true) + (pending past).toNat ≤ past.count .signal
  /-- No signal is lost: the flag is set, or an operation has answered that it was aborted, or is about
  to. -/
  heard : .signal ∈ past → .ended true ∈ past ∨ pending past = true ∨
    later.getLast? = some (.ended true)
  /-- Only a check clears the flag, and the operation ends there, aborted. -/
  cleared : pending past = true → ∀ rest tick, later = rest ++ [tick] →
    pending (tick :: past) = false → tick = .event .check ∧ rest.getLast? = some (.ended true)
  /-- An operation that answers so has just found the flag set. -/
  found : later.getLast? = some (.ended true) →
    ∃ earlier, past = .event .check :: earlier ∧ pending earlier = true

namespace Timeline

theorem cleared (timeline : Timeline ((rest ++ [tick]) ++ past)) (raised : pending past = true)
    (falls : pending (tick :: past) = false) :
    tick = .event .check ∧ rest.getLast? = some (.ended true) := by
  rcases timeline.cut (List.append_assoc rest [tick] past) with whole | interrupted
  · cases whole with
    | signal before => cases falls
    | read before offset length => exact absurd (raised.symm.trans falls) (by decide)
    | check before calm => exact absurd (raised.symm.trans calm) (by decide)
    | answered before => exact absurd (raised.symm.trans falls) (by decide)
    | aborted before _ => cases raised
  · obtain ⟨_, _, same, moment, _⟩ := interrupted
    refine ⟨(List.cons.inj moment).1, ?_⟩
    rw [same, List.getLast?_concat]

theorem found (timeline : Timeline (later ++ past)) (answers : later.getLast? = some (.ended true)) :
    ∃ earlier, past = .event .check :: earlier ∧ pending earlier = true := by
  obtain ⟨rest, same⟩ := List.getLast?_eq_some_iff.mp answers
  rw [same, List.append_assoc] at timeline
  rcases timeline.cut rfl with whole | interrupted
  · cases whole with
    | aborted before raised => exact ⟨_, rfl, raised⟩
  · obtain ⟨_, _, _, moment, _⟩ := interrupted
    cases moment

theorem accounted (timeline : Timeline (later ++ past)) : Accounted later past := by
  have cleared : pending past = true → ∀ rest tick, later = rest ++ [tick] →
      pending (tick :: past) = false →
      tick = .event .check ∧ rest.getLast? = some (.ended true) := by
    intro raised rest tick same falls
    rw [same] at timeline
    exact timeline.cleared raised falls
  rcases timeline.cut rfl with before | interrupted
  · refine ⟨before.count_le, ?_, cleared, timeline.found⟩
    intro signalled
    exact (before.signal_answered signalled).imp_right Or.inl
  · obtain ⟨rest, earlier, same, moment, before, raised⟩ := interrupted
    refine ⟨?_, ?_, cleared, timeline.found⟩
    · have enough := before.count_le
      rw [raised] at enough
      rw [moment]
      simpa [pending] using Nat.le_of_succ_le enough
    · intro _
      rw [same, List.getLast?_concat]
      exact .inr (.inr rfl)

end Timeline

/-- In every use of a handle, with signals between any two events, the flag is as the timeline has it, and
every moment accounts for every signal so far. -/
theorem signals_answered_once (requests : List Request) :
    let usage := ({} : Usage).serveAll requests
    pending usage.ticks = usage.file.raised ∧
    usage.ticks.count (.ended true) = (usage.log.countP fun record => aborted record.answer) ∧
    (.signal ∈ usage.ticks →
      (∃ record ∈ usage.log, aborted record.answer = true) ∨ usage.file.raised = true) ∧
    ∀ later past, usage.ticks = later ++ past → Accounted later past := by
  intro usage
  obtain ⟨⟨timeline, flag⟩, counted⟩ := Usage.kept_serveAll Usage.kept_new requests
  refine ⟨flag, counted, ?_, ?_⟩
  · intro signalled
    rw [← flag]
    refine (timeline.signal_answered signalled).imp_left fun answered => ?_
    apply List.countP_pos_iff.mp
    rw [← counted]
    exact List.count_pos_iff.mpr answered
  · intro later past split
    rw [split] at timeline
    exact timeline.accounted

end RegistryHive
