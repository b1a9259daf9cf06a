import RegistryHive.Proofs.Alike
import RegistryHive.Proofs.History

namespace RegistryHive

theorem Agree.require (condition : Prop) [Decidable condition] (error : Error) :
    Agree (fun _ _ => condition) (RegistryHive.require condition error)
      (RegistryHive.require condition error) := by
  unfold RegistryHive.require
  split
  · exact .value ‹_›
  · exact .error error

/-- What an answer is known to be may be added to what it has in common with the other. -/
theorem Action.Alike.and {α β : Type} {left right : Source} {alike stronger : α → β → Prop}
    {action : Action α} {other : Action β} (goes : Action.Alike left right alike action other)
    (adds : ∀ first second value found, Session.Alike left right first second →
      action.answer first = .ok value → other.answer second = .ok found → alike value found →
      stronger value found) :
    Action.Alike left right stronger action other where
  answers {first second} sessions := by
    have agree := goes.answers sessions
    generalize ours : action.answer first = answered, theirs : other.answer second = also at agree ⊢
    cases agree with
    | value same => exact .value (adds first second _ _ sessions ours theirs same)
    | error error => exact .error error
  keeps := goes.keeps

theorem Action.Alike.runs {α β : Type} {left right : Source} {alike : α → β → Prop} {action : Action α}
    {other : Action β} (goes : Action.Alike left right alike action other) {first second : Session}
    (sessions : Session.Alike left right first second) :
    (∃ value found after later, action first = .ok value after ∧ other second = .ok found later ∧
      alike value found ∧ Session.Alike left right after later) ∨
    ∃ error after later, action first = .error error after ∧ other second = .error error later ∧
      Session.Alike left right after later := by
  have keeps := goes.keeps sessions
  have agree := goes.answers sessions
  generalize ours : action.answer first = answered, theirs : other.answer second = found at agree
  cases agree with
  | value same =>
    exact .inl ⟨_, _, _, _, eq_ok_of_answer ours, eq_ok_of_answer theirs, same, keeps⟩
  | error error =>
    exact .inr ⟨_, _, _, eq_error_of_answer ours, eq_error_of_answer theirs, keeps⟩

/-- Whether the scan for data blocks goes on alike from what it reads at an offset in two files. -/
structure ScansAlike (reached : Nat → Prop) (size offset : Nat) (data other : Bytes) : Prop where
  opens : Signature.dataBlock.opens data = Signature.dataBlock.opens other
  block : Signature.dataBlock.opens data = true →
    Agree (fun block found => block.plain = found.plain ∧
        (block.nextOffset ≤ size → reached (offset + block.size)))
      (BlockHeader.parse data offset) (BlockHeader.parse other offset)

/-- Whether two sources have the same navigation block, and their data blocks at the same places. The offsets
that the scan comes to are `reached`, the first of them `starts`. -/
structure Source.HeadedAlike (left right : Source) (starts reached : Nat → Prop) : Prop where
  sizes : left.size = right.size
  header : Agree (fun data other =>
      Agree (fun header found => header.dataBlocksOffset = found.dataBlocksOffset ∧
        starts header.dataBlocksOffset) (FileHeader.parse data) (FileHeader.parse other))
    (left.fetch 0 FileHeader.byteSize) (right.fetch 0 FileHeader.byteSize)
  navigation : Agree (fun data other =>
      Agree (fun navigation found => navigation = found ∧
        (Navigation.start + navigation.size ≤ left.size → ∀ offset, starts offset → reached offset))
        (Navigation.parse data) (Navigation.parse other))
    (left.fetch Navigation.start Navigation.headerSize)
    (right.fetch Navigation.start Navigation.headerSize)
  blocks : ∀ offset, reached offset → offset + BlockHeader.byteSize ≤ left.size →
    Agree (ScansAlike reached left.size offset) (left.fetch offset BlockHeader.byteSize)
      (right.fetch offset BlockHeader.byteSize)

namespace Hive

open RegistryHive.Action

variable {left right : Source} {starts reached : Nat → Prop} (headed : left.HeadedAlike right starts reached)

include headed

theorem alike_scan {found others : List BlockHeader} (same : found.map BlockHeader.plain =
      others.map BlockHeader.plain) {offset : Nat} (reach : reached offset) :
    Action.Alike left right
      (fun blocks others => blocks.map BlockHeader.plain = others.map BlockHeader.plain)
      (scan left.size offset found) (scan left.size offset others) := by
  induction offset, found using Hive.scan.induct left.size generalizing others with
  | case1 offset found before ih =>
    rw [scan, scan.eq_def _ _ others]
    simp only [before, if_true]
    refine .bind (alike_checkAbort "open") fun _ _ _ => ?_
    split
    · rename_i held
      refine .bind (alike_read (headed.blocks offset reach held)) fun data other scans => ?_
      rw [← scans.opens]
      split
      · rename_i opens
        refine .bind (.lift (scans.block opens)) fun block twin alike => ?_
        obtain ⟨plain, reaches⟩ := alike
        rw [← BlockHeader.nextOffset_of_plain plain, ← BlockHeader.size_of_plain plain]
        refine .bind (.lift (.require _ _)) fun _ _ inside => ?_
        have extended : (block :: found).map BlockHeader.plain =
            (twin :: others).map BlockHeader.plain := by
          simp only [List.map_cons, plain, same]
        exact ih block extended (reaches inside)
      · have empty : found.isEmpty = others.isEmpty := by
          simpa only [List.isEmpty_map] using congrArg List.isEmpty same
        rw [empty]
        exact .bind (.lift (.require _ _)) fun _ _ _ => .pure rfl
    · exact .pure (by rw [List.map_reverse, same, List.map_reverse])
  | case2 offset found past =>
    rw [scan, scan.eq_def _ _ others]
    simp only [past, if_false]
    exact .pure (by rw [List.map_reverse, same, List.map_reverse])

theorem alike_attach (codepage : Codepage) :
    Action.Alike left right Resembles (attach codepage) (attach codepage) := by
  refine .bind (alike_checkAbort "open") fun _ _ _ => ?_
  refine .bind (alike_read headed.header) fun data other headers => ?_
  refine .bind (.lift headers) fun header found starting => ?_
  obtain ⟨start, starts⟩ := starting
  refine .bind (alike_read headed.navigation) fun data other navigations => ?_
  refine .bind (.lift navigations) fun navigation found alike => ?_
  obtain ⟨same, reaches⟩ := alike
  refine .get fun first second sessions => ?_
  rw [← same, sessions.left_size, sessions.right_size, ← sessions.sizes]
  refine .bind (.lift (.require _ _)) fun _ _ inside => ?_
  rw [← start]
  refine .bind (alike_scan headed rfl (reaches inside _ starts)) fun blocks others same => ?_
  exact .pure ⟨rfl, rfl, same⟩

end Hive

/-- A likeness of hives that operations and changes of the codepage keep. -/
structure Hive.Likeness (same : Hive → Hive → Prop) : Prop where
  refl : ∀ hive, same hive hive
  resembles : ∀ {hive other : Hive}, same hive other → hive.Resembles other
  recoded : ∀ {hive other : Hive}, same hive other →
    ∀ codepage, same { hive with codepage } { other with codepage }

/-- Whether opening goes on alike in two sources, and comes to hives that are alike, of which the same is
read. -/
structure Source.Alike (same : Hive → Hive → Prop) (left right : Source) : Prop where
  sizes : left.size = right.size
  attach : ∀ codepage, Action.Alike left right
    (fun hive other => same hive other ∧
      hive.StaysIn fun offset length => left.fetch offset length = right.fetch offset length)
    (Hive.attach codepage) (Hive.attach codepage)

/-- Two sources that serve the same are alike. -/
theorem Source.Alike.of_fetch {same : Hive → Hive → Prop} (likeness : Hive.Likeness same)
    {left right : Source} (sizes : left.size = right.size) (fetch : left.fetch = right.fetch) :
    left.Alike same right := by
  have headed : left.HeadedAlike right (fun _ => True) (fun _ => True) := by
    refine ⟨sizes, ?_, ?_, fun offset _ _ => ?_⟩
    · rw [fetch]
      exact .self (fun data => .self (fun _ => ⟨rfl, trivial⟩) _) _
    · rw [fetch]
      exact .self (fun data => .self (fun _ => ⟨rfl, fun _ _ _ => trivial⟩) _) _
    · rw [fetch]
      exact .self (fun data => ⟨rfl, fun _ => .self (fun _ => ⟨rfl, fun _ => trivial⟩) _⟩) _
  refine ⟨sizes, fun codepage => (Hive.alike_attach headed codepage).and ?_⟩
  intro first second hive other sessions ours theirs _
  have reading := (Hive.steady_attach first codepage).eq_of_ok rfl ours
  have also := (Hive.steady_attach second codepage).eq_of_ok rfl theirs
  rw [sessions.left_fetch, sessions.left_size, fetch, sizes, ← sessions.right_fetch,
    ← sessions.right_size, also, Except.ok.injEq] at reading
  rw [reading]
  exact ⟨likeness.refl hive, fun _ _ => by rw [fetch], fun _ _ => by rw [fetch]⟩

/-- Whether two open files have come the same way. -/
inductive Opened.Alike (same : Hive → Hive → Prop) : Opened → Opened → Prop where
  | intro {left right : Source} {hive other : Hive} {first second : Session} (hives : same hive other)
      (agree : hive.StaysIn fun offset length => left.fetch offset length = right.fetch offset length)
      (sessions : Session.Alike left right first second) : Alike same ⟨hive, first⟩ ⟨other, second⟩

namespace Opened.Alike

variable {same : Hive → Hive → Prop} {opened found : Opened} (alike : opened.Alike same found)

include alike

theorem hives : same opened.hive found.hive := by
  obtain ⟨hives, agree, sessions⟩ := alike
  exact hives

theorem raised : opened.session.raised = found.session.raised := by
  obtain ⟨hives, agree, sessions⟩ := alike
  exact sessions.raised

theorem recoded (likeness : Hive.Likeness same) (codepage : Codepage) :
    Opened.Alike same { opened with hive := { opened.hive with codepage } }
      { found with hive := { found.hive with codepage } } := by
  obtain ⟨hives, agree, sessions⟩ := alike
  exact .intro (likeness.recoded hives codepage) ⟨agree.entries, agree.areas⟩ sessions

theorem signalled : Opened.Alike same { opened with session := { opened.session with raised := true } }
    { found with session := { found.session with raised := true } } := by
  obtain ⟨hives, agree, sessions⟩ := alike
  exact .intro hives agree (sessions.with_raised true)

variable (likeness : Hive.Likeness same) {α : Type} (operation : Operation α)

include likeness

theorem runs :
    (∃ value after later, operation.run opened.hive opened.session = .ok value after ∧
      operation.run found.hive found.session = .ok value later ∧
      Opened.Alike same ⟨opened.hive, after⟩ ⟨found.hive, later⟩) ∨
    ∃ error after later, operation.run opened.hive opened.session = .error error after ∧
      operation.run found.hive found.session = .error error later ∧
      Opened.Alike same ⟨opened.hive, after⟩ ⟨found.hive, later⟩ := by
  obtain ⟨hives, agree, sessions⟩ := alike
  rcases (operation.alike_run (likeness.resembles hives) agree).runs sessions with
    ⟨value, other, after, later, ours, theirs, equal, sessions⟩ |
    ⟨error, after, later, ours, theirs, sessions⟩
  · rw [equal] at ours
    exact .inl ⟨other, after, later, ours, theirs, .intro hives agree sessions⟩
  · exact .inr ⟨error, after, later, ours, theirs, .intro hives agree sessions⟩

theorem answer_eq : opened.answer operation = found.answer operation := by
  simp only [Opened.answer, Action.answer]
  rcases alike.runs likeness operation with ⟨value, after, later, ours, theirs, _⟩ |
    ⟨error, after, later, ours, theirs, _⟩
  · rw [ours, theirs]
  · rw [ours, theirs]

theorem step (happening : Happening) : Opened.Alike same (opened.step happening) (found.step happening) := by
  cases happening with
  | operation operation =>
    simp only [Opened.step, Action.after]
    rcases alike.runs likeness operation with ⟨value, after, later, ours, theirs, alike⟩ |
      ⟨error, after, later, ours, theirs, alike⟩
    · rw [ours, theirs]
      exact alike
    · rw [ours, theirs]
      exact alike
  | codepage codepage => exact alike.recoded likeness codepage
  | signal => exact alike.signalled

theorem after (history : List Happening) :
    Opened.Alike same (opened.after history) (found.after history) := by
  induction history generalizing opened found with
  | nil => exact alike
  | cons happening rest ih => exact ih (alike.step likeness happening)

end Opened.Alike

end RegistryHive
