import RegistryHive.Proofs.History
import RegistryHive.Proofs.Pacing

namespace RegistryHive

namespace HierarchyEntry

/-- The entry whose 28 bytes stand at `offset`. -/
def ofField (data : Bytes) (offset : Nat) : HierarchyEntry where
  nameHash := data.number (offset + 0x04) 4
  parent := data.number (offset + 0x0C) 4
  firstSubKey := data.number (offset + 0x10) 4
  nextSibling := data.number (offset + 0x14) 4
  entryNumber := data.number (offset + 0x18) 2
  blockNumber := data.number (offset + 0x1A) 2

/-- Every 28 bytes are a hierarchy entry. -/
theorem parse_field {data : Bytes} {offset : Nat} (inside : offset + byteSize ≤ data.length)
    (place : Nat) : parse (data.field offset byteSize) place = .ok (ofField data offset) := by
  have length : (data.field offset byteSize).length = 28 := Bytes.length_field inside
  have held : (data.field offset byteSize).holds byteSize = true :=
    Bytes.holds_iff.mpr (Nat.le_of_eq length.symm)
  unfold parse
  rw [Bytes.u32At_eq (by omega), Bytes.u32At_eq (by omega), Bytes.u32At_eq (by omega),
    Bytes.u32At_eq (by omega), Bytes.u16At_eq (by omega), Bytes.u16At_eq (by omega),
    Bytes.number_field (by decide), Bytes.number_field (by decide), Bytes.number_field (by decide),
    Bytes.number_field (by decide), Bytes.number_field (by decide), Bytes.number_field (by decide)]
  simp only [require, held, if_true]
  rfl

end HierarchyEntry

namespace Reads

/-- The navigation block that opening finds ends within the size. -/
theorem navigation_of_attach {reads : Reads} {size : Nat} {codepage : Codepage} {hive : Hive}
    (opens : reads.attach size codepage = .ok hive) :
    Navigation.start + hive.navigation.size ≤ size := by
  obtain ⟨_, _, opens⟩ := exists_of_bind opens
  obtain ⟨header, _, opens⟩ := exists_of_bind opens
  obtain ⟨_, _, opens⟩ := exists_of_bind opens
  obtain ⟨navigation, _, opens⟩ := exists_of_bind opens
  obtain ⟨_, within, opens⟩ := exists_of_bind opens
  obtain ⟨blocks, _, same⟩ := exists_of_bind opens
  cases same
  exact require_ok_iff.mp within

section

variable {first second : Reads} {hive : Hive}
  (agree : hive.StaysIn fun offset length => first offset length = second offset length)

include agree

theorem readKey_congr {offset : Nat} (holds : hive.navigation.Holds offset) :
    first.readKey offset = second.readKey offset := by
  unfold Reads.readKey
  rw [agree.entries offset holds]

theorem keyAt_congr (offset : Nat) :
    first.keyAt hive.navigation offset = second.keyAt hive.navigation offset :=
  bind_congr_ok fun inside _ => readKey_congr agree inside.down

theorem dataBlock_congr (number : Nat) :
    first.dataBlock hive.dataBlocks number = second.dataBlock hive.dataBlocks number := by
  unfold Reads.dataBlock
  cases listed : hive.dataBlocks[number]? with
  | none => rfl
  | some header => simp only [agree.areas header (List.mem_of_getElem? listed)]

theorem nameEntry_congr (key : Key) :
    first.nameEntry hive.dataBlocks key = second.nameEntry hive.dataBlocks key := by
  unfold Reads.nameEntry Reads.nameEntryAt
  cases key.entry.location with
  | none => rfl
  | some location => simp only [dataBlock_congr agree location.block]

theorem chainFrom_congr (owner : Nat) (passed : Passed hive.navigation) (next : Option Nat) :
    first.chainFrom hive.navigation owner passed next =
      second.chainFrom hive.navigation owner passed next := by
  induction passed, next using Reads.chainFrom.induct first hive.navigation owner with
  | case1 passed => rw [Reads.chainFrom, Reads.chainFrom]
  | case2 passed offset repeated =>
    rw [Reads.chainFrom, Reads.chainFrom]
    simp only [dif_pos repeated]
  | case3 passed offset fresh failed checked =>
    rw [Reads.chainFrom, Reads.chainFrom]
    simp only [dif_neg fresh, checked]
  | case4 passed offset fresh holds checked failed missing =>
    rw [first.chainFrom_of_holds fresh holds, second.chainFrom_of_holds fresh holds,
      ← readKey_congr agree holds, missing]
  | case5 passed offset fresh holds checked key found smaller ih =>
    rw [first.chainFrom_of_holds fresh holds, second.chainFrom_of_holds fresh holds,
      ← readKey_congr agree holds, found]
    simp only [ih]

/-- Operations go back to no other reads. -/
theorem access_congr : first.access hive = second.access hive := by
  simp only [Reads.access, Access.mk.injEq]
  refine ⟨?_, ?_, ?_, ?_⟩
  · simp only [Reads.rootKey, keyAt_congr agree]
  · funext key
    simp only [Reads.parent, keyAt_congr agree]
  · funext key
    exact chainFrom_congr agree _ _ _
  · exact funext (nameEntry_congr agree)

end

/-- Whether reads give the bytes of `data` wherever they stay inside it. What they give beyond its end is
left open. -/
def Serves (reads : Reads) (data : Bytes) : Prop :=
  ∀ offset length, offset + length ≤ data.length →
    reads offset length = .ok (data.field offset length)

end Reads

/-- Whether a read ends at or before `size`. -/
def endsBy (size : Nat) : Nat → Nat → Prop := fun offset length => offset + length ≤ size

namespace Hive

theorem staysIn_of_attach {reads : Reads} {size : Nat} {codepage : Codepage} {hive : Hive}
    (opens : reads.attach size codepage = .ok hive) : hive.StaysIn (endsBy size) where
  entries offset holds := by
    have enough := Reads.navigation_of_attach opens
    have fits := holds.2
    simp only [endsBy, Navigation.absolute]
    omega
  areas block listed := by
    have enough := Reads.inside_of_attach opens block listed
    have header := block.holdsHeader
    simp only [BlockHeader.nextOffset] at enough
    simp only [endsBy, BlockHeader.dataOffset, BlockHeader.dataSize, BlockHeader.byteSize]
    omega

/-- What lies beyond the end of the file has no part in any operation. -/
theorem access_of_serves {hive : Hive} {data : Bytes} (stays : hive.StaysIn (endsBy data.length))
    {reads : Reads} (serves : reads.Serves data) : reads.access hive = data.reads.access hive := by
  apply Reads.access_congr
  constructor
  · intro offset holds
    have inside := stays.entries offset holds
    rw [serves _ _ inside, Bytes.reads_inside inside]
  · intro block listed
    have inside := stays.areas block listed
    rw [serves _ _ inside, Bytes.reads_inside inside]

theorem answer_readKey (offset : Nat) (session : Session) :
    (readKey offset).answer session = Reads.readKey session.source.fetch offset := by
  rw [readKey, Action.answer_bind, Action.answer_read]
  unfold Reads.readKey
  cases session.source.fetch (Navigation.absolute offset) HierarchyEntry.byteSize with
  | error error => rfl
  | ok data =>
    change (Action.ofExcept (HierarchyEntry.parse data offset) >>= fun entry =>
        (pure ⟨offset, entry⟩ : Action Key)).answer _ =
      HierarchyEntry.parse data offset >>= fun entry => pure ⟨offset, entry⟩
    rw [Action.answer_bind, Action.answer_ofExcept]
    cases HierarchyEntry.parse data offset <;> rfl

/-- No signal stops the lookup of an entry: nothing checks on the way. -/
theorem answer_keyAt (hive : Hive) (offset : Nat) (session : Session) :
    (hive.keyAt offset).answer session = Reads.keyAt session.source.fetch hive.navigation offset := by
  rw [keyAt, Reads.keyAt]
  cases hive.navigation.checkEntry offset with
  | error error => rfl
  | ok inside => exact answer_readKey offset session

/-- Every offset where an entry fits gives one. -/
theorem answer_keyAt_of_staysIn {hive : Hive} {data : Bytes}
    (stays : hive.StaysIn (endsBy data.length)) {session : Session}
    (fetched : session.source.fetch = data.reads) (offset : Nat) :
    (hive.keyAt offset).answer session =
      if 32 ≤ offset ∧ offset + 28 ≤ hive.navigation.size then
        .ok ⟨offset, .ofField data (Navigation.absolute offset)⟩
      else .error (.invalidOffset offset hive.navigation.size) := by
  rw [answer_keyAt, fetched]
  by_cases holds : 32 ≤ offset ∧ offset + 28 ≤ hive.navigation.size
  · have inside := stays.entries offset holds
    rw [if_pos holds, data.reads.keyAt_of_holds holds, Reads.readKey, Bytes.reads_inside inside]
    change HierarchyEntry.parse _ offset >>= _ = _
    rw [HierarchyEntry.parse_field inside]
    rfl
  · have refused : hive.navigation.checkEntry offset =
        .error (.invalidOffset offset hive.navigation.size) := dif_neg holds
    rw [if_neg holds, Reads.keyAt, refused]
    rfl

end Hive

/-- Whatever was done with an open file, its hierarchy entries and data areas end by the size of its
source. -/
theorem Opened.staysIn_after {source : Source} {signals : Signals} {raised : Bool}
    {codepage : Codepage} {hive : Hive} {session : Session}
    (opens : Hive.attach codepage { source, signals, raised } = .ok hive session)
    (history : List Happening) :
    (Opened.after ⟨hive, session⟩ history).hive.StaysIn (endsBy source.size) := by
  have reading := Hive.reads_of_attach opens
  obtain ⟨entries, areas⟩ := Hive.staysIn_of_attach reading
  rw [((Opened.follows_of_attach opens).after history).recoded]
  exact ⟨entries, areas⟩

/-- The kinds of errors that are left once a file is open. -/
def ErrorKind.later : List ErrorKind := [.corruptData, .invalidArgument, .notFound, .valueType, .aborted]

theorem Operation.failsAs_later {α : Type} (operation : Operation α) (hive : Hive) (data : Bytes) :
    FailsAs (· ∈ ErrorKind.later) (operation.reading (data.reads.access hive) hive.codepage) := by
  have corrupt : ErrorKind.corruptData ∈ ErrorKind.later := by decide
  have read (offset length : Nat) : FailsAs (· ∈ ErrorKind.later) (data.reads offset length) := by
    unfold Bytes.reads
    split
    · exact .ok _
    · exact .error corrupt
  exact operation.failsAs_reading corrupt (by decide) (by decide) (by decide)
    (Reads.failAs_access read corrupt hive) hive.codepage

/-- After every history of a file whose size is true: hierarchy entries can be read just where they fit, and
the data area of every block can be read. No read that an operation asks for is refused: with any other
source in place of its own, also one that refuses nothing, all its reads end by the end of the file, and
what a read beyond it gives makes no difference. So it fails for what it found or for its arguments. -/
theorem reads_stay_inside {source : Source} (honest : source.Honest) {signals : Signals}
    {raised : Bool} {codepage : Codepage} {hive : Hive} {session : Session}
    (opens : Hive.attach codepage { source, signals, raised } = .ok hive session)
    (history : List Happening) :
    let now := Opened.after ⟨hive, session⟩ history
    let size := now.hive.navigation.size
    (∀ offset, (now.hive.keyAt offset).answer now.session =
      if 32 ≤ offset ∧ offset + 28 ≤ size then
        .ok ⟨offset, .ofField source.content (Navigation.absolute offset)⟩
      else .error (.invalidOffset offset size)) ∧
    (∀ block ∈ now.hive.dataBlocks,
      (Action.read block.dataOffset block.dataSize).answer now.session =
        .ok (source.content.field block.dataOffset block.dataSize)) ∧
    ∀ {α : Type} (operation : Operation α),
      Ends (endsBy source.size) 0 now.session 2 (operation.run now.hive now.session) ∧
      (∀ (wider : Source) (offset length : Nat),
        let there := { now.session with source := wider }
        .read offset length ∈ ((operation.run now.hive).after there).since there →
          offset + length ≤ source.content.length) ∧
      (∀ reads : Reads, reads.Serves source.content →
        (operation.run now.hive).EndsAs now.session
          (operation.reading (reads.access now.hive) now.hive.codepage)) ∧
      ∀ error, (operation.run now.hive).answer now.session = .error error →
        error.kind ∈ ErrorKind.later := by
  intro now size
  have follows := (Opened.follows_of_attach opens).after history
  have stays : now.hive.StaysIn (endsBy source.content.length) := by
    rw [follows.recoded, ← honest.size_eq]
    obtain ⟨entries, areas⟩ := Hive.staysIn_of_attach (Hive.reads_of_attach opens)
    exact ⟨entries, areas⟩
  have fetched : now.session.source.fetch = source.content.reads := by
    rw [← Source.fetch_of_honest_eq honest, follows.fetched]
  refine ⟨Hive.answer_keyAt_of_staysIn stays fetched, ?_, ?_⟩
  · intro block listed
    rw [Action.answer_read, fetched]
    exact Bytes.reads_inside (stays.areas block listed)
  · intro α operation
    have ends := (operation.steady_run now.hive).answers now.session follows.faithful_own
    rw [Source.fetch_of_honest_eq honest] at ends
    have paced := operation.paced_run stays
    refine ⟨?_, ?_, ?_, ?_⟩
    · rw [honest.size_eq]
      exact paced.ends (.still 0 now.session) (Nat.le_refl 0)
    · intro wider offset length there made
      exact paced.allowed_of_mem made
    · intro reads serves
      rw [Hive.access_of_serves stays serves]
      exact ends
    · intro error failed
      rcases ends with same | ⟨_, name, stopped⟩
      · exact operation.failsAs_later now.hive source.content error (same.symm.trans failed)
      · rw [stopped] at failed
        cases failed
        exact (by decide : ErrorKind.aborted ∈ ErrorKind.later)

/-- A key at the only offset that has one, after a signal and an operation, and a block of four bytes. -/
theorem reads_stay_inside_one_key :
    let headers : Bytes := Signature.file.bytes ++ .ofNumber 2 0 ++ .ofNumber 2 1 ++ .ofNumber 4 92 ++
      .zeros 20 ++ Signature.navigation.bytes ++ .ofNumber 4 60 ++ .ofNumber 4 32 ++ .zeros 48
    let block : Bytes := Signature.dataBlock.bytes ++ .ofNumber 4 36 ++ .zeros 8 ++ .ofNumber 4 36 ++
      .zeros 12 ++ [1, 2, 3, 4]
    let source : Source := .mapped (headers ++ block).toArray
    source.Honest ∧ ∃ hive session, Hive.attach .standard { source } = .ok hive session ∧
      let now := Opened.after ⟨hive, session⟩ [.signal, .operation .rootKey]
      (∃ entry, (now.hive.keyAt 32).answer now.session = .ok ⟨32, entry⟩) ∧
      (now.hive.keyAt 33).answer now.session = .error (.invalidOffset 33 60) ∧
      (Action.read 124 4).answer now.session = .ok [1, 2, 3, 4] := by
  intro headers block source
  have honest : source.Honest := .mapped _
  have length : source.content.length = 128 := by decide +kernel
  have fit : HeadersFit source.content :=
    ⟨by omega, by decide +kernel, by decide +kernel, by decide +kernel, by decide +kernel⟩
  let header : BlockHeader := ⟨92, 36, 0, 0, 36, by decide⟩
  have stands : header.StandsAt source.content 92 :=
    ⟨rfl, by decide +kernel, by decide +kernel, by decide +kernel, by decide +kernel,
      by decide +kernel, Nat.le_of_eq length.symm⟩
  have start : source.content.number 0x08 4 = 92 := by decide +kernel
  have list : BlockList source.content (source.content.number 0x08 4)
      (.ok [header]) := by
    rw [start]
    exact .run (.cons stands (.nil 128)) (by simp) (by omega)
  have silent (event : Event) (events : List Event) : Signals.never (event :: events) = 0 := rfl
  obtain ⟨answered, _⟩ :=
    Hive.answer_attach honest silent .standard fit.long (Verdict.blocks fit list)
  let hive := Hive.ofFields source.content .standard [header]
  obtain ⟨session, opens⟩ : ∃ session, Hive.attach .standard { source } = .ok hive session :=
    ⟨_, Action.eq_ok_of_answer answered⟩
  obtain ⟨entries, areas, _⟩ := reads_stay_inside honest opens [.signal, .operation .rootKey]
  have size : hive.navigation.size = 60 := by decide +kernel
  have area : source.content.field 124 4 = [1, 2, 3, 4] := by decide +kernel
  refine ⟨honest, hive, session, opens, ⟨_, (entries 32).trans (if_pos ?_)⟩, ?_, ?_⟩
  · exact ⟨Nat.le_refl 32, Nat.le_of_eq size.symm⟩
  · rw [← size]
    refine (entries 33).trans (if_neg fun within => ?_)
    exact absurd (Nat.le_trans within.2 (Nat.le_of_eq size)) (by decide)
  · exact (areas header (List.mem_singleton_self header)).trans (congrArg Except.ok area)

end RegistryHive
