import RegistryHive.Proofs.Outcome
import RegistryHive.Proofs.Reading

/-! The caches of an open file. Each entry is what reading its part of the file afresh would give, so
an operation answers the same whatever was read before it. Nothing in them depends on a codepage. -/
namespace RegistryHive

theorem Reads.dataBlock_of_header (reads : Reads) {headers : List BlockHeader} {number : Nat}
    {header : BlockHeader} (listed : headers[number]? = some header) :
    reads.dataBlock headers number =
      reads header.dataOffset header.dataSize >>= DataBlock.ofData header := by
  simp only [dataBlock, listed]

/-- What is in the caches is what the file says. -/
structure Store.Faithful (headers : List BlockHeader) (reads : Reads) (store : Store) : Prop where
  agrees : store.source.fetch = reads
  blocks : ∀ number block, store.blocks[number]? = some block →
    reads.dataBlock headers number = .ok block
  entries : ∀ location entry, store.entries[location]? = some entry →
    reads.nameEntryAt headers location = .ok entry

namespace Store.Faithful

variable {headers : List BlockHeader} {reads : Reads} {store : Store}

theorem of_empty (agrees : store.source.fetch = reads) (noBlocks : store.blocks = ∅)
    (noEntries : store.entries = ∅) : store.Faithful headers reads where
  agrees := agrees
  blocks number block found := by simp [noBlocks] at found
  entries location entry found := by simp [noEntries] at found

theorem insert_block (faithful : store.Faithful headers reads) {number : Nat} {block : DataBlock}
    (read : reads.dataBlock headers number = .ok block) :
    Store.Faithful headers reads { store with blocks := store.blocks.insert number block } where
  agrees := faithful.agrees
  blocks other found present := by
    simp only [Std.TreeMap.getElem?_insert, Nat.compare_eq_eq] at present
    split at present
    · rename_i same
      cases present
      rw [← same]
      exact read
    · exact faithful.blocks other found present
  entries := faithful.entries

theorem insert_entry (faithful : store.Faithful headers reads) {location : Location}
    {entry : KeyNameEntry} (parsed : reads.nameEntryAt headers location = .ok entry) :
    Store.Faithful headers reads { store with entries := store.entries.insert location entry } where
  agrees := faithful.agrees
  blocks := faithful.blocks
  entries other found present := by
    simp only [Std.TreeMap.getElem?_insert, Std.LawfulEqCmp.compare_eq_iff_eq] at present
    split at present
    · rename_i same
      cases present
      rw [← same]
      exact parsed
    · exact faithful.entries other found present

end Store.Faithful

namespace Action

variable {α : Type} {kept : Store → Prop}

theorem get_bind (next : Session → Action α) (session : Session) :
    (get >>= next) session = next session session :=
  rfl

/-- Storing what may be stored. -/
theorem steady_modify {change : Session → Session} {value : α}
    (keeps : ∀ session, kept session.store → kept (change session).store)
    (hushed : ∀ session : Session, session.Quiet → (change session).Quiet) :
    Steady kept (do modify change; return value) (.ok value) where
  keeps session held := keeps session held
  hushed session _ quiet := hushed session quiet
  answers _ _ := .inl rfl

end Action

namespace Hive

open RegistryHive.Action

variable {reads : Reads} {kept : Store → Prop}

theorem steady_readKey (agrees : ∀ store, kept store → store.source.fetch = reads)
    (offset : Nat) : Steady kept (readKey offset) (reads.readKey offset) := by
  refine Steady.bind (steady_read agrees _ _) fun data _ => ?_
  exact Steady.bind (Steady.lift _) fun entry _ => Steady.pure _

theorem steady_keyAt (agrees : ∀ store, kept store → store.source.fetch = reads) (hive : Hive)
    (offset : Nat) : Steady kept (hive.keyAt offset) (reads.keyAt hive.navigation offset) :=
  Steady.bind (Steady.lift _) fun _ _ => steady_readKey agrees offset

theorem dataBlock_cached {hive : Hive} {number : Nat} {session : Session} {block : DataBlock}
    (cached : session.blocks[number]? = some block) :
    hive.dataBlock number session = .ok block session := by
  simp only [dataBlock, get_bind, cached]
  rfl

/-- A data block that is not cached is read, indexed and stored. -/
def readBlock (hive : Hive) (number : Nat) : Action DataBlock :=
  match hive.dataBlocks[number]? with
  | none => throw (.invalidFormat (.blockNumber number hive.dataBlocks.length))
  | some header => do
    let data ← Action.read header.dataOffset header.dataSize
    let block ← DataBlock.ofData header data
    modify fun session => { session with blocks := session.blocks.insert number block }
    return block

theorem dataBlock_uncached {hive : Hive} {number : Nat} {session : Session}
    (uncached : session.blocks[number]? = none) :
    hive.dataBlock number session = hive.readBlock number session := by
  simp only [dataBlock, get_bind, uncached]
  rfl

theorem steady_readBlock (hive : Hive) (number : Nat) :
    Steady (Store.Faithful hive.dataBlocks reads) (hive.readBlock number)
      (reads.dataBlock hive.dataBlocks number) := by
  cases listed : hive.dataBlocks[number]? with
  | none =>
    simp only [readBlock, Reads.dataBlock, listed]
    exact Steady.throw _
  | some header =>
    have fresh := reads.dataBlock_of_header listed
    simp only [readBlock, listed]
    rw [fresh]
    refine Steady.bind (steady_read (fun _ faithful => faithful.agrees) _ _) fun data fetched => ?_
    cases indexed : DataBlock.ofData header data with
    | error error => exact (Steady.lift (.error error)).bind_error
    | ok block =>
      refine (Steady.lift (.ok block)).bind_ok (steady_modify (fun _ faithful => ?_) fun _ quiet => ?_)
      · exact faithful.insert_block (by rw [fresh, fetched]; exact indexed)
      · exact ⟨quiet.lowered, quiet.silent⟩

theorem steady_dataBlock (hive : Hive) (number : Nat) :
    Steady (Store.Faithful hive.dataBlocks reads) (hive.dataBlock number)
      (reads.dataBlock hive.dataBlocks number) := by
  refine Steady.of_same fun session faithful => ?_
  cases cached : session.blocks[number]? with
  | some block =>
    refine ⟨pure block, ?_, dataBlock_cached cached⟩
    rw [faithful.blocks number block cached]
    exact Steady.pure block
  | none => exact ⟨hive.readBlock number, steady_readBlock hive number, dataBlock_uncached cached⟩

theorem nameEntryAt_cached {hive : Hive} {location : Location} {session : Session}
    {entry : KeyNameEntry} (cached : session.entries[location]? = some entry) :
    hive.nameEntryAt location session = .ok entry session := by
  simp only [nameEntryAt, get_bind, cached]
  rfl

/-- A key name entry that is not cached is parsed and stored. -/
def readNameEntry (hive : Hive) (location : Location) : Action KeyNameEntry := do
  let block ← hive.dataBlock location.block
  match block.entry? location.entry with
  | none =>
    throw (.invalidFormat (.entryNumber location.entry location.block block.numberOfEntries))
  | some (offset, data) =>
    let entry ← KeyNameEntry.parse data offset
    modify fun session => { session with entries := session.entries.insert location entry }
    return entry

theorem nameEntryAt_uncached {hive : Hive} {location : Location} {session : Session}
    (uncached : session.entries[location]? = none) :
    hive.nameEntryAt location session = hive.readNameEntry location session := by
  simp only [nameEntryAt, get_bind, uncached]
  rfl

theorem steady_readNameEntry (hive : Hive) (location : Location) :
    Steady (Store.Faithful hive.dataBlocks reads) (hive.readNameEntry location)
      (reads.nameEntryAt hive.dataBlocks location) := by
  unfold readNameEntry
  refine Steady.bind (steady_dataBlock hive location.block) fun block read => ?_
  cases listed : block.entry? location.entry with
  | none => exact Steady.throw _
  | some place =>
    obtain ⟨offset, data⟩ := place
    simp only
    cases parsed : KeyNameEntry.parse data offset with
    | error error => exact (Steady.lift (.error error)).bind_error
    | ok entry =>
      refine (Steady.lift (.ok entry)).bind_ok (steady_modify (fun _ faithful => ?_) fun _ quiet => ?_)
      · refine faithful.insert_entry ?_
        simp only [Reads.nameEntryAt, read, bind, Except.bind, listed, parsed]
      · exact ⟨quiet.lowered, quiet.silent⟩

theorem steady_nameEntryAt (hive : Hive) (location : Location) :
    Steady (Store.Faithful hive.dataBlocks reads) (hive.nameEntryAt location)
      (reads.nameEntryAt hive.dataBlocks location) := by
  refine Steady.of_same fun session faithful => ?_
  cases cached : session.entries[location]? with
  | some entry =>
    refine ⟨pure entry, ?_, nameEntryAt_cached cached⟩
    rw [faithful.entries location entry cached]
    exact Steady.pure entry
  | none =>
    exact ⟨hive.readNameEntry location, steady_readNameEntry hive location,
      nameEntryAt_uncached cached⟩

theorem steady_nameEntry (hive : Hive) (key : Key) :
    Steady (Store.Faithful hive.dataBlocks reads) (hive.nameEntry key)
      (reads.nameEntry hive.dataBlocks key) := by
  unfold nameEntry Reads.nameEntry
  cases key.entry.location with
  | none => exact Steady.pure none
  | some location =>
    exact (steady_nameEntryAt hive location).map some

end Hive

end RegistryHive
