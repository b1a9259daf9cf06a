import RegistryHive.Proofs.Composition
import RegistryHive.Proofs.Promptness
import RegistryHive.Proofs.Validation

/-! The calls that operations are made of: checks for signals, reads of hierarchy entries, requests for data
blocks, and key name entries put into their cache. Once a request for a data block was met, no later one
reads it again, in whatever operation it is made. -/
namespace RegistryHive

/-- What operations do to a session, one call after the other. -/
inductive Call where
  | check
  /-- A hierarchy entry is read. -/
  | key (offset : Nat)
  /-- A data block is asked for, which makes some reads, the latest first. -/
  | block (number : Nat) (found : Except Error DataBlock) (reads : List Event)
  /-- A key name entry is put into the cache. -/
  | entry (location : Location)
  | signal

/-- The read of the hierarchy entry at an offset. -/
def Event.entry (offset : Nat) : Event := .read (Navigation.absolute offset) HierarchyEntry.byteSize

namespace Call

/-- The events of a call, the latest first. -/
def events : Call → List Event
  | check => [.check]
  | key offset => [.entry offset]
  | block _ _ reads => reads
  | entry _ => []
  | signal => []

/-- Whether a call leads from one session to another. -/
inductive Made (hive : Hive) (session : Session) : Call → Session → Prop where
  | check (operation : String) : Made hive session check ((Action.checkAbort operation).after session)
  | key (holds : hive.navigation.Holds offset) :
      Made hive session (key offset) ((Hive.readKey offset).after session)
  | block (number : Nat) :
      Made hive session (block number ((hive.dataBlock number).answer session)
        (((hive.dataBlock number).after session).since session)) ((hive.dataBlock number).after session)
  | entry (missing : session.entries[location]? = none) (found : KeyNameEntry) :
      Made hive session (entry location)
        { session with entries := session.entries.insert location found }
  | signal : Made hive session signal { session with raised := true }

end Call

/-- The calls that lead from one session to another, the latest first. -/
inductive Calls (hive : Hive) (first : Session) : List Call → Session → Prop where
  | none : Calls hive first [] first
  | next (before : Calls hive first calls session) (made : call.Made hive session after) :
      Calls hive first (call :: calls) after

namespace Hive

variable {hive : Hive} {number : Nat} {session : Session}

/-- A request for a key name entry does nothing, or asks for its data block and may then fill the cache. -/
theorem after_nameEntryAt_cases (hive : Hive) (location : Location) (session : Session) :
    let asked := (hive.dataBlock location.block).after session
    (hive.nameEntryAt location).after session = session ∨
      (hive.nameEntryAt location).after session = asked ∨
      asked.entries[location]? = none ∧ ∃ entry, (hive.nameEntryAt location).after session =
        { asked with entries := asked.entries.insert location entry } := by
  intro asked
  cases cached : session.entries[location]? with
  | some entry => exact .inl (Action.answer_of_eq (nameEntryAt_cached cached)).2
  | none =>
    right
    have missing : asked.entries[location]? = none := by
      rw [hive.entries_after_dataBlock]
      exact cached
    have uncached : (hive.nameEntryAt location).after session =
        (hive.readNameEntry location).after session := by
      simp only [Action.after, nameEntryAt_uncached cached]
    rw [uncached, readNameEntry, Action.after_bind]
    cases (hive.dataBlock location.block).answer session with
    | error error => exact .inl rfl
    | ok block =>
      dsimp only
      cases block.entry? location.entry with
      | none => exact .inl rfl
      | some place =>
        obtain ⟨offset, data⟩ := place
        dsimp only
        cases KeyNameEntry.parse data offset with
        | error error => exact .inl rfl
        | ok entry => exact .inr ⟨missing, entry, rfl⟩

/-- A data block that was given is in the cache. -/
theorem cached_of_dataBlock {block : DataBlock}
    (found : (hive.dataBlock number).answer session = .ok block) :
    ((hive.dataBlock number).after session).blocks[number]? = some block := by
  cases cached : session.blocks[number]? with
  | some other =>
    simp only [Action.answer, Action.after, dataBlock_cached cached] at found ⊢
    rw [cached, Except.ok.inj found]
  | none =>
    have same : hive.dataBlock number session = hive.readBlock number session :=
      dataBlock_uncached cached
    have given : (hive.readBlock number).answer session = .ok block := by
      simpa only [Action.answer, same] using found
    have left : (hive.dataBlock number).after session = (hive.readBlock number).after session := by
      simp only [Action.after, same]
    rw [left]
    unfold readBlock at given ⊢
    cases listed : hive.dataBlocks[number]? with
    | none =>
      rw [listed] at given
      cases given
    | some header =>
      simp only [listed, Action.answer_bind] at given
      simp only [Action.after_bind]
      cases read : (Action.read header.dataOffset header.dataSize).answer session with
      | error error =>
        rw [read] at given
        cases given
      | ok data =>
        simp only [read] at given ⊢
        cases indexed : DataBlock.ofData header data with
        | error error =>
          rw [indexed] at given
          cases given
        | ok other =>
          rw [indexed] at given
          cases given
          exact Std.TreeMap.getElem?_insert_self

end Hive

theorem Hive.after_readKey (offset : Nat) (session : Session) :
    (readKey offset).after session =
      (Action.read (Navigation.absolute offset) HierarchyEntry.byteSize).after session := by
  apply Action.after_bind_still
  intro data session
  exact (Action.after_bind_still (fun _ _ => rfl) session).trans (Action.after_ofExcept _ _)

/-- The read of a hierarchy entry that is inside the source is an event. -/
theorem Hive.trace_after_readKey {hive : Hive} {session : Session} {offset : Nat}
    (stays : hive.StaysIn (endsBy session.source.size)) (holds : hive.navigation.Holds offset) :
    ((readKey offset).after session).trace = .entry offset :: session.trace := by
  rw [after_readKey]
  exact Action.trace_after_read (decide_eq_true (stays.entries offset holds)) (by decide)

namespace Call.Made

variable {hive : Hive} {call : Call} {session after : Session}

theorem continues (made : call.Made hive session after) : after.Continues session := by
  have stays := hive.staysIn_anywhere
  cases made with
  | check operation => exact Action.continues_after_checkAbort operation session
  | key holds =>
    have paced : Action.Paced anywhere 0 1 (Hive.readKey _) :=
      Hive.paced_readKey (by decide) (stays.entries _ holds)
    exact paced.continues_after session
  | block number =>
    have paced : Action.Paced anywhere 0 1 (hive.dataBlock number) :=
      Hive.paced_dataBlock stays (by decide) number
    exact paced.continues_after session
  | entry missing found => exact (Session.Continues.refl session).insert_entry missing found
  | signal =>
    exact ⟨rfl, rfl, List.suffix_refl _, fun _ _ present => present, fun _ _ present => present⟩

/-- A call makes its events, where the hierarchy entries are inside the source. -/
theorem trace_eq (made : call.Made hive session after)
    (stays : hive.StaysIn (endsBy session.source.size)) :
    after.trace = call.events ++ session.trace := by
  cases made with
  | check operation => exact Action.trace_after_checkAbort operation session
  | key holds => exact Hive.trace_after_readKey stays holds
  | block number =>
    have asked : Call.Made hive session _ ((hive.dataBlock number).after session) := .block number
    exact asked.continues.trace_eq
  | entry missing found => rfl
  | signal => rfl

theorem of_block {number : Nat} {found : Except Error DataBlock} {reads : List Event}
    (made : (Call.block number found reads).Made hive session after) :
    found = (hive.dataBlock number).answer session ∧ reads = after.since session ∧
      after = (hive.dataBlock number).after session := by
  cases made
  exact ⟨rfl, rfl, rfl⟩

/-- A request for a data block makes no read but that of the data area. -/
theorem reads_of_block {number : Nat} {found : Except Error DataBlock} {reads : List Event}
    (made : (Call.block number found reads).Made hive session after) :
    reads = [] ∨ ∃ header, hive.dataBlocks[number]? = some header ∧
      reads = [.read header.dataOffset header.dataSize] := by
  obtain ⟨_, same, left⟩ := made.of_block
  rw [same, left]
  rcases hive.after_dataBlock_cases number session with still | ⟨header, blocks, listed, read⟩
  · left
    rw [still]
    exact Session.since_eq rfl
  · rw [read]
    obtain ⟨source, _, moved | met⟩ :=
      Action.after_read_cases header.dataOffset header.dataSize session
    · left
      rw [moved]
      exact Session.since_eq rfl
    · right
      refine ⟨header, listed, ?_⟩
      rw [met]
      exact Session.since_eq rfl

/-- A request for a data block in the cache is met from it. -/
theorem of_cached {number : Nat} {found : Except Error DataBlock} {reads : List Event}
    {block : DataBlock} (made : (Call.block number found reads).Made hive session after)
    (cached : session.blocks[number]? = some block) : found = .ok block ∧ reads = [] := by
  obtain ⟨answered, same, left⟩ := made.of_block
  have met : hive.dataBlock number session = .ok block session := Hive.dataBlock_cached cached
  obtain ⟨gives, still⟩ := Action.answer_of_eq met
  rw [still] at left
  refine ⟨answered.trans gives, same.trans ?_⟩
  rw [left]
  exact Session.since_eq rfl

theorem cached_after {number : Nat} {block : DataBlock} {reads : List Event}
    (made : (Call.block number (.ok block) reads).Made hive session after) :
    after.blocks[number]? = some block := by
  obtain ⟨answered, _, left⟩ := made.of_block
  rw [left]
  exact Hive.cached_of_dataBlock answered.symm

/-- The codepage has no part in any call. -/
theorem of_recoded {codepage : Codepage} (made : call.Made { hive with codepage } session after) :
    call.Made hive session after := by
  cases made with
  | check operation => exact .check operation
  | key holds => exact .key holds
  | block number => exact .block number
  | entry missing found => exact .entry missing found
  | signal => exact .signal

end Call.Made

namespace Calls

variable {hive : Hive} {first middle last : Session} {earlier later calls : List Call}

theorem append (before : Calls hive first earlier middle) (after : Calls hive middle later last) :
    Calls hive first (later ++ earlier) last := by
  induction after with
  | none => exact before
  | next _ made ih => exact ih.next made

theorem split {call : Call} (whole : Calls hive first (later ++ call :: earlier) last) :
    ∃ before after, Calls hive first earlier before ∧ call.Made hive before after ∧
      Calls hive after later last := by
  induction later generalizing last with
  | nil =>
    cases whole with
    | next before made => exact ⟨_, last, before, made, .none⟩
  | cons latest later ih =>
    cases whole with
    | next whole made =>
      obtain ⟨before, after, begun, here, rest⟩ := ih whole
      exact ⟨before, after, begun, here, rest.next made⟩

theorem continues (made : Calls hive first calls last) : last.Continues first := by
  induction made with
  | none => exact .refl first
  | next _ made ih => exact made.continues.trans ih

theorem trace_eq (made : Calls hive first calls last)
    (stays : hive.StaysIn (endsBy first.source.size)) :
    last.trace = calls.flatMap Call.events ++ first.trace := by
  induction made with
  | none => rfl
  | next before made ih =>
    rw [← before.continues.size] at stays
    rw [made.trace_eq stays, ih, List.flatMap_cons, List.append_assoc]

theorem of_recoded {codepage : Codepage} (made : Calls { hive with codepage } first calls last) :
    Calls hive first calls last := by
  induction made with
  | none => exact .none
  | next _ made ih => exact ih.next made.of_recoded

/-- Once a request for a data block was met, every later one is met with the same block and reads
nothing. -/
theorem read_once {number : Nat} {block : DataBlock} {reads again : List Event}
    {found : Except Error DataBlock}
    (made : Calls hive first (later ++ .block number (.ok block) reads :: earlier) last)
    (member : .block number found again ∈ later) : found = .ok block ∧ again = [] := by
  obtain ⟨_, after, _, here, rest⟩ := made.split
  obtain ⟨latest, between, same⟩ := List.append_of_mem member
  rw [same] at rest
  -- the caches only grow between the two requests
  obtain ⟨now, _, meanwhile, there, _⟩ := rest.split
  exact there.of_cached (meanwhile.continues.blocks number block here.cached_after)

end Calls

/-- Whether an action is made of calls, wherever it begins. -/
def Action.Calling (hive : Hive) {α : Type} (action : Action α) : Prop :=
  ∀ session, ∃ calls, Calls hive session calls (action.after session)

namespace Action

variable {α β : Type} {hive : Hive}

theorem calling_bind {action : Action α} {next : α → Action β} (calling : Calling hive action)
    (rest : ∀ value, Calling hive (next value)) : Calling hive (action >>= next) := by
  intro session
  rw [after_bind]
  obtain ⟨earlier, before⟩ := calling session
  cases action.answer session with
  | error error => exact ⟨earlier, before⟩
  | ok value =>
    obtain ⟨later, after⟩ := rest value (action.after session)
    exact ⟨later ++ earlier, before.append after⟩

theorem calling_lift (result : Except Error α) : Calling hive (ofExcept result) := by
  intro session
  rw [after_ofExcept]
  exact ⟨[], .none⟩

theorem calling_nameEntryAt (location : Location) : Calling hive (hive.nameEntryAt location) := by
  intro session
  have asked : Calls hive session _ ((hive.dataBlock location.block).after session) :=
    .next .none (.block location.block)
  rcases hive.after_nameEntryAt_cases location session with still | same | ⟨missing, entry, filled⟩
  · rw [still]
    exact ⟨[], .none⟩
  · rw [same]
    exact ⟨_, asked⟩
  · rw [filled]
    exact ⟨_, asked.next (.entry missing entry)⟩

/-- Every operation is made of calls. -/
theorem composes_calling (hive : Hive) : Composes hive (Calling hive) where
  lift := calling_lift
  bind := calling_bind
  check operation := fun _ => ⟨_, .next .none (.check operation)⟩
  key _ holds := fun _ => ⟨_, .next .none (.key holds)⟩
  record := calling_nameEntryAt

end Action

/-- Whatever is done with an open file, it is done by calls. -/
theorem Opened.Follows.calls_after {opened : Opened} {hive : Hive} {reads : Reads}
    (follows : opened.Follows hive reads) (history : List Happening) :
    ∃ calls, Calls hive opened.session calls (opened.after history).session := by
  induction history generalizing opened with
  | nil => exact ⟨[], .none⟩
  | cons happening rest ih =>
    have here : ∃ calls, Calls hive opened.session calls (opened.step happening).session := by
      cases happening with
      | operation operation =>
        obtain ⟨calls, made⟩ : ∃ calls, Calls opened.hive opened.session calls
            (opened.step (.operation operation)).session :=
          (Action.composes_calling opened.hive).run operation opened.session
        rw [follows.recoded] at made
        exact ⟨calls, made.of_recoded⟩
      | codepage codepage => exact ⟨[], .none⟩
      | signal => exact ⟨[.signal], .next .none .signal⟩
    obtain ⟨earlier, before⟩ := here
    obtain ⟨later, after⟩ := ih (follows.step happening)
    exact ⟨later ++ earlier, before.append after⟩

end RegistryHive
