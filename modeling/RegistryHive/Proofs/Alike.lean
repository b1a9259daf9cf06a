import RegistryHive.Proofs.Composition
import RegistryHive.Proofs.Pacing

/-! Two files side by side. Where what operations read is the same in both, sessions on them go on alike:
with the same answers, the same events and the same entries in the caches. What is recorded of a data block
and nothing relies on has no part in it. -/
namespace RegistryHive

/-- The header without what nothing relies on. -/
def BlockHeader.plain (header : BlockHeader) : BlockHeader :=
  { header with unusedSize := 0, index := 0 }

namespace BlockHeader

variable {header other : BlockHeader} (same : header.plain = other.plain)

include same

theorem offset_of_plain : header.offset = other.offset := (BlockHeader.mk.inj same).1

theorem size_of_plain : header.size = other.size := (BlockHeader.mk.inj same).2.1

theorem dataOffset_of_plain : header.dataOffset = other.dataOffset := by
  simp only [dataOffset, offset_of_plain same]

theorem dataSize_of_plain : header.dataSize = other.dataSize := by
  simp only [dataSize, size_of_plain same]

theorem nextOffset_of_plain : header.nextOffset = other.nextOffset := by
  simp only [nextOffset, offset_of_plain same, size_of_plain same]

theorem entriesSize_of_plain : header.entriesSize = other.entriesSize := by
  have used : header.usedSize = other.usedSize := (BlockHeader.mk.inj same).2.2.2.2
  simp only [entriesSize, dataSize_of_plain same, used]

end BlockHeader

def DataBlock.plain (block : DataBlock) : DataBlock := { block with header := block.header.plain }

/-- Whether two results are values that are alike, or the same error. -/
inductive Agree {α β : Type} (alike : α → β → Prop) : Except Error α → Except Error β → Prop where
  | value (same : alike value other) : Agree alike (.ok value) (.ok other)
  | error (error : Error) : Agree alike (.error error) (.error error)

namespace Agree

variable {α β : Type}

theorem self {alike : α → α → Prop} (refl : ∀ value, alike value value) (result : Except Error α) :
    Agree alike result result := by
  cases result with
  | ok value => exact .value (refl value)
  | error error => exact .error error

theorem refl (result : Except Error α) : Agree Eq result result := self (fun _ => rfl) result

theorem imp {alike weaker : α → β → Prop} {result : Except Error α} {other : Except Error β}
    (agree : Agree alike result other) (implies : ∀ value found, alike value found → weaker value found) :
    Agree weaker result other := by
  cases agree with
  | value same => exact .value (implies _ _ same)
  | error error => exact .error error

end Agree

/-- Whether two sessions, one on each of two sources, have come the same way. -/
structure Session.Alike (left right : Source) (first second : Session) : Prop where
  sizes : left.size = right.size
  here : first.source.rewound = left.rewound
  there : second.source.rewound = right.rewound
  signals : first.signals = second.signals
  trace : first.trace = second.trace
  raised : first.raised = second.raised
  blocks : ∀ number : Nat,
    first.blocks[number]?.map DataBlock.plain = second.blocks[number]?.map DataBlock.plain
  entries : first.entries = second.entries

/-- Before anything was read, all that counts is that the sources have one size. -/
theorem Session.Alike.start {left right : Source} (sizes : left.size = right.size) (signals : Signals)
    (raised : Bool) :
    Session.Alike left right { source := left, signals, raised } { source := right, signals, raised } :=
  ⟨sizes, rfl, rfl, rfl, rfl, rfl, fun _ => rfl, rfl⟩

namespace Session.Alike

variable {left right : Source} {first second : Session} (alike : Session.Alike left right first second)

include alike

theorem left_fetch : first.source.fetch = left.fetch := by
  rw [← Source.fetch_rewound, alike.here, Source.fetch_rewound]

theorem right_fetch : second.source.fetch = right.fetch := by
  rw [← Source.fetch_rewound, alike.there, Source.fetch_rewound]

theorem left_size : first.source.size = left.size := by
  rw [← Source.size_rewound, alike.here, Source.size_rewound]

theorem right_size : second.source.size = right.size := by
  rw [← Source.size_rewound, alike.there, Source.size_rewound]

theorem size : first.source.size = second.source.size := by
  rw [alike.left_size, alike.right_size, alike.sizes]

theorem meet (event : Event) : Session.Alike left right (first.meet event) (second.meet event) := by
  refine ⟨alike.sizes, alike.here, alike.there, alike.signals, ?_, ?_, alike.blocks, alike.entries⟩
  · simp only [Session.meet, alike.trace]
  · simp only [Session.meet, alike.trace, alike.raised, alike.signals]

theorem with_raised (raised : Bool) :
    Session.Alike left right { first with raised } { second with raised } :=
  ⟨alike.sizes, alike.here, alike.there, alike.signals, alike.trace, rfl, alike.blocks, alike.entries⟩

theorem insert_block (number : Nat) {block other : DataBlock} (same : block.plain = other.plain) :
    Session.Alike left right { first with blocks := first.blocks.insert number block }
      { second with blocks := second.blocks.insert number other } := by
  refine ⟨alike.sizes, alike.here, alike.there, alike.signals, alike.trace, alike.raised, ?_,
    alike.entries⟩
  intro wanted
  simp only [Std.TreeMap.getElem?_insert]
  split
  · simp only [Option.map_some, same]
  · exact alike.blocks wanted

theorem insert_entry (location : Location) (entry : KeyNameEntry) :
    Session.Alike left right { first with entries := first.entries.insert location entry }
      { second with entries := second.entries.insert location entry } := by
  refine ⟨alike.sizes, alike.here, alike.there, alike.signals, alike.trace, alike.raised, alike.blocks, ?_⟩
  simp only [alike.entries]

/-- A read that reaches the one source reaches the other, and moves no more than their cursors. -/
theorem after_read (offset length : Nat) :
    Session.Alike left right ((Action.read offset length).after first)
      ((Action.read offset length).after second) := by
  have approached : Session.Alike left right (Action.approach offset length first)
      (Action.approach offset length second) := by
    have held : first.source.holds offset length = second.source.holds offset length := by
      simp only [Source.holds, alike.size]
    simp only [Action.approach, held]
    split
    · exact alike.meet _
    · exact alike
  rw [Action.after_read, Action.after_read]
  refine ⟨alike.sizes, ?_, ?_, approached.signals, approached.trace, approached.raised,
    approached.blocks, approached.entries⟩
  · exact (Source.rewound_read _ _ _).trans alike.here
  · exact (Source.rewound_read _ _ _).trans alike.there

end Session.Alike

namespace Action

variable {α β : Type}

theorem answer_checkAbort (operation : String) (session : Session) :
    (checkAbort operation).answer session =
      if (session.meet .check).raised then .error (.aborted operation) else .ok () := by
  simp only [answer, checkAbort]
  cases (session.meet .check).raised <;> rfl

/-- After a check no signal is pending. -/
theorem after_checkAbort (operation : String) (session : Session) :
    (checkAbort operation).after session = { session.meet .check with raised := false } := by
  simp only [after, checkAbort]
  cases lowered : (session.meet .check).raised with
  | true => rfl
  | false => exact congrArg (fun raised => { session.meet .check with raised }) lowered

/-- Whether two actions, begun in sessions that are alike, come to answers that agree, and leave the
sessions alike. -/
structure Alike (left right : Source) (alike : α → β → Prop) (action : Action α) (other : Action β) :
    Prop where
  answers : ∀ {first second}, Session.Alike left right first second →
    Agree alike (action.answer first) (other.answer second)
  keeps : ∀ {first second}, Session.Alike left right first second →
    Session.Alike left right (action.after first) (other.after second)

namespace Alike

variable {left right : Source} {γ δ : Type} {alike : α → β → Prop} {action : Action α} {other : Action β}

theorem lift {result : Except Error α} {found : Except Error β} (agree : Agree alike result found) :
    Alike left right alike (ofExcept result) (ofExcept found) where
  answers _ := by simpa only [answer_ofExcept] using agree
  keeps sessions := by simpa only [after_ofExcept] using sessions

theorem pure {value : α} {found : β} (same : alike value found) :
    Alike left right alike (pure value : Action α) (pure found : Action β) := lift (.value same)

theorem throw (error : Error) :
    Alike left right alike (throw error : Action α) (throw error : Action β) := lift (.error error)

theorem bind {rest : γ → δ → Prop} {next : α → Action γ} {following : β → Action δ}
    (start : Alike left right alike action other)
    (continues : ∀ value found, alike value found →
      Alike left right rest (next value) (following found)) :
    Alike left right rest (action >>= next) (other >>= following) where
  answers {first second} sessions := by
    have left := start.keeps sessions
    rw [answer_bind, answer_bind]
    generalize other.answer second = theirs, action.answer first = ours, start.answers sessions = agree
    cases agree with
    | value same => exact (continues _ _ same).answers left
    | error error => exact .error error
  keeps {first second} sessions := by
    have left := start.keeps sessions
    rw [after_bind, after_bind]
    generalize other.answer second = theirs, action.answer first = ours, start.answers sessions = agree
    cases agree with
    | value same => exact (continues _ _ same).keeps left
    | error error => exact left

/-- What follows a look at the session may go by what is alike in both. -/
theorem get {next : Session → Action α} {following : Session → Action β}
    (continues : ∀ first second, Session.Alike left right first second →
      Alike left right alike (next first) (following second)) :
    Alike left right alike (get >>= next) (get >>= following) where
  answers sessions := (continues _ _ sessions).answers sessions
  keeps sessions := (continues _ _ sessions).keeps sessions

/-- It is enough that from sessions that are alike both do what some actions do that are alike. -/
theorem of_same
    (same : ∀ first second, Session.Alike left right first second → ∃ ours theirs,
      Alike left right alike ours theirs ∧ action first = ours first ∧ other second = theirs second) :
    Alike left right alike action other where
  answers {first second} sessions := by
    obtain ⟨ours, theirs, agree, here, there⟩ := same first second sessions
    simpa only [answer, here, there] using agree.answers sessions
  keeps {first second} sessions := by
    obtain ⟨ours, theirs, agree, here, there⟩ := same first second sessions
    simpa only [after, here, there] using agree.keeps sessions

/-- Storing what is alike. -/
theorem modify {change changing : Session → Session} {value : α} {found : β} (same : alike value found)
    (keeps : ∀ first second, Session.Alike left right first second →
      Session.Alike left right (change first) (changing second)) :
    Alike left right alike (do modify change; return value) (do modify changing; return found) where
  answers _ := .value same
  keeps sessions := keeps _ _ sessions

end Alike

variable {left right : Source}

theorem alike_checkAbort (operation : String) :
    Alike left right Eq (checkAbort operation) (checkAbort operation) where
  answers sessions := by
    rw [answer_checkAbort, answer_checkAbort, (sessions.meet .check).raised]
    exact .refl _
  keeps sessions := by
    rw [after_checkAbort, after_checkAbort]
    exact (sessions.meet .check).with_raised false

theorem alike_read {alike : Bytes → Bytes → Prop} {offset length : Nat}
    (agree : Agree alike (left.fetch offset length) (right.fetch offset length)) :
    Alike left right alike (read offset length) (read offset length) where
  answers sessions := by
    rw [answer_read, answer_read, sessions.left_fetch, sessions.right_fetch]
    exact agree
  keeps sessions := sessions.after_read offset length

theorem alike_read_same {offset length : Nat}
    (agree : left.fetch offset length = right.fetch offset length) :
    Alike left right Eq (read offset length) (read offset length) := by
  refine alike_read ?_
  rw [agree]
  exact .refl _

end Action

namespace DataBlock

/-- Only its offset tells one header from another where entries are cut off a data area. -/
theorem cut_congr {header other : BlockHeader} (same : header.offset = other.offset)
    (limit position remaining : Nat) (rest : Bytes) (found : List BlockEntry) :
    cut header limit position remaining rest found = cut other limit position remaining rest found := by
  induction position, remaining, rest, found using cut.induct limit with
  | case1 position remaining rest found more ih =>
    rw [cut, cut.eq_def other]
    simp only [more, and_self, if_true]
    refine bind_congr_ok fun size _ => ?_
    split
    · rename_i fits
      refine bind_congr_ok fun bytes _ => bind_congr_ok fun after _ => ?_
      exact ih size fits bytes after
    · rw [same]
  | case2 position remaining rest found complete =>
    rw [cut, cut.eq_def other]
    simp only [complete, if_false]

theorem alike_ofData {header other : BlockHeader} (same : header.plain = other.plain) (data : Bytes) :
    Agree (fun block found => block.plain = found.plain) (ofData header data) (ofData other data) := by
  simp only [ofData, BlockHeader.entriesSize_of_plain same, cut_congr (BlockHeader.offset_of_plain same)]
  cases cut other (min other.entriesSize data.length) 0 data.length data [] with
  | error error => exact .error error
  | ok entries => exact .value (by simp only [plain, same])

section

variable {block other : DataBlock} (same : block.plain = other.plain)

include same

theorem numberOfEntries_of_plain : block.numberOfEntries = other.numberOfEntries := by
  simp only [numberOfEntries, (DataBlock.mk.inj same).2]

theorem entry?_of_plain (number : Nat) : block.entry? number = other.entry? number := by
  obtain ⟨header, entries⟩ := DataBlock.mk.inj same
  simp only [entries, BlockHeader.dataOffset_of_plain header, DataBlock.entry?]

end

end DataBlock

/-- Whether hives have the same hierarchy, the same codepage, and data blocks that differ at most in what
nothing relies on. -/
structure Hive.Resembles (first second : Hive) : Prop where
  navigation : first.navigation = second.navigation
  codepage : first.codepage = second.codepage
  dataBlocks : first.dataBlocks.map BlockHeader.plain = second.dataBlocks.map BlockHeader.plain

namespace Hive

open RegistryHive.Action

variable {left right : Source} {hive : Hive} {header : FileHeader} {dataBlocks : List BlockHeader}

theorem alike_readKey {offset : Nat}
    (agree : left.fetch (Navigation.absolute offset) HierarchyEntry.byteSize =
      right.fetch (Navigation.absolute offset) HierarchyEntry.byteSize) :
    Action.Alike left right Eq (readKey offset) (readKey offset) := by
  refine .bind (alike_read_same agree) fun data found same => ?_
  rw [same]
  refine .bind (.lift (.refl _)) fun entry found same => ?_
  rw [same]
  exact .pure rfl

section

variable (plain : hive.dataBlocks.map BlockHeader.plain = dataBlocks.map BlockHeader.plain)
  (agree : hive.StaysIn fun offset length => left.fetch offset length = right.fetch offset length)

include plain agree

theorem alike_readBlock (number : Nat) :
    Action.Alike left right (fun block found => block.plain = found.plain) (hive.readBlock number)
      ({ hive with header, dataBlocks }.readBlock number) := by
  have listed := congrArg (·[number]?) plain
  have length : hive.dataBlocks.length = dataBlocks.length := by simpa using congrArg List.length plain
  simp only [List.getElem?_map] at listed
  unfold readBlock
  cases ours : hive.dataBlocks[number]? with
  | none =>
    rw [ours, Option.map_none, eq_comm, Option.map_eq_none_iff] at listed
    simp only [listed, length]
    exact .throw _
  | some block =>
    rw [ours, Option.map_some, eq_comm, Option.map_eq_some_iff] at listed
    obtain ⟨other, theirs, same⟩ := listed
    simp only [theirs, BlockHeader.dataOffset_of_plain same, BlockHeader.dataSize_of_plain same]
    have area := agree.areas block (List.mem_of_getElem? ours)
    refine .bind (alike_read_same area) fun data found equal => ?_
    rw [equal]
    refine .bind (.lift (DataBlock.alike_ofData same.symm found)) fun read found alike => ?_
    exact .modify alike fun _ _ sessions => sessions.insert_block number alike

theorem alike_dataBlock (number : Nat) :
    Action.Alike left right (fun block found => block.plain = found.plain) (hive.dataBlock number)
      ({ hive with header, dataBlocks }.dataBlock number) := by
  refine .of_same fun first second sessions => ?_
  have cached := sessions.blocks number
  cases ours : first.blocks[number]? with
  | some block =>
    rw [ours, Option.map_some, eq_comm, Option.map_eq_some_iff] at cached
    obtain ⟨other, theirs, same⟩ := cached
    exact ⟨pure block, pure other, .pure same.symm, dataBlock_cached ours, dataBlock_cached theirs⟩
  | none =>
    rw [ours, Option.map_none, eq_comm, Option.map_eq_none_iff] at cached
    exact ⟨_, _, alike_readBlock plain agree number, dataBlock_uncached ours,
      dataBlock_uncached cached⟩

theorem alike_readNameEntry (location : Location) :
    Action.Alike left right Eq (hive.readNameEntry location)
      ({ hive with header, dataBlocks }.readNameEntry location) := by
  refine .bind (alike_dataBlock plain agree location.block) fun block found same => ?_
  rw [DataBlock.entry?_of_plain same, DataBlock.numberOfEntries_of_plain same]
  cases found.entry? location.entry with
  | none => exact .throw _
  | some place =>
    obtain ⟨offset, data⟩ := place
    refine .bind (.lift (.refl _)) fun entry found equal => ?_
    rw [equal]
    exact .modify rfl fun _ _ sessions => sessions.insert_entry location found

theorem alike_nameEntryAt (location : Location) :
    Action.Alike left right Eq (hive.nameEntryAt location)
      ({ hive with header, dataBlocks }.nameEntryAt location) := by
  refine .of_same fun first second sessions => ?_
  cases ours : first.entries[location]? with
  | some entry =>
    have theirs : second.entries[location]? = some entry := by rw [← sessions.entries, ours]
    exact ⟨pure entry, pure entry, .pure rfl, nameEntryAt_cached ours, nameEntryAt_cached theirs⟩
  | none =>
    have theirs : second.entries[location]? = none := by rw [← sessions.entries, ours]
    exact ⟨_, _, alike_readNameEntry plain agree location, nameEntryAt_uncached ours,
      nameEntryAt_uncached theirs⟩

/-- What operations are composed of goes on alike. -/
theorem relates_alike : Relates hive header dataBlocks (Action.Alike left right Eq) where
  lift result := .lift (.refl result)
  bind start continues := start.bind fun value found same => by
    rw [same]
    exact continues found
  check := alike_checkAbort
  key offset holds := alike_readKey (agree.entries offset holds)
  record := alike_nameEntryAt plain agree

end

end Hive

theorem Operation.alike_run {α : Type} {left right : Source} {first second : Hive}
    (alike : first.Resembles second)
    (agree : first.StaysIn fun offset length => left.fetch offset length = right.fetch offset length)
    (operation : Operation α) :
    Action.Alike left right Eq (operation.run first) (operation.run second) := by
  obtain ⟨header, navigation, dataBlocks, codepage⟩ := second
  obtain ⟨sameNavigation, sameCodepage, plain⟩ := alike
  have relates : Action.Relates first header dataBlocks (Action.Alike left right Eq) :=
    Hive.relates_alike plain agree
  dsimp only at sameNavigation sameCodepage
  rw [← sameNavigation, ← sameCodepage]
  exact relates.run operation

end RegistryHive
