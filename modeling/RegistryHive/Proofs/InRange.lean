import RegistryHive.Proofs.Guarded
import RegistryHive.Proofs.RoundTrip

namespace RegistryHive

theorem storedOffset_lt {raw offset : Nat} (stored : storedOffset raw = some offset) :
    offset < 0x80000000 := by
  unfold storedOffset at stored
  split at stored
  · rename_i small
    cases stored
    exact small
  · cases stored

namespace Guarded

/-- Bounds come with every read: no more is claimed than signed 64-bit numbers count, and a read gives all
that it was asked for. -/
structure Bounded (reads : Reads) (size : Nat) (headers : List BlockHeader) : Prop where
  small : size < 0x8000000000000000
  whole : ∀ {offset length data}, reads offset length = .ok data → data.length = length
  inside : ∀ header ∈ headers, header.nextOffset ≤ size

section Names

variable {reads : Reads} {size : Nat} {headers : List BlockHeader}

/-- A data block is cut where it is indexed, within the size. -/
theorem dataBlock_eq (bounded : Bounded reads size headers) (number : Nat) :
    reads.dataBlock headers number = (dataBlock reads headers number).map Block.cut ∧
    ∀ block, dataBlock reads headers number = .ok block →
      block.header.offset + 32 + block.data.length ≤ size ∧
      ∀ extent ∈ block.extents, extent.position + extent.size ≤ block.data.length := by
  have small := bounded.small
  unfold dataBlock Reads.dataBlock
  cases listed : headers[number]? with
  | none => exact ⟨rfl, fun _ failed => by cases failed⟩
  | some header =>
    have holdsHeader := header.holdsHeader
    have inside : header.offset + header.size ≤ size :=
      bounded.inside header (List.mem_of_getElem? listed)
    simp only [bind, Except.bind]
    rw [sum_ok (by omega), difference_ok holdsHeader]
    cases fetched : reads (header.offset + 32) (header.size - 32) with
    | error error =>
      have missing : reads header.dataOffset header.dataSize = .error error := fetched
      simp only [missing]
      exact ⟨rfl, fun _ failed => by cases failed⟩
    | ok data =>
      have found : reads header.dataOffset header.dataSize = .ok data := fetched
      have length := bounded.whole fetched
      obtain ⟨same, indexed⟩ := block_eq header (show data.length < 0x8000000000000000 by omega)
      constructor
      · simp only [found, same]
      · intro block ok
        obtain ⟨sameHeader, sameData, places⟩ := indexed block ok
        rw [sameHeader, sameData]
        exact ⟨by omega, places⟩

theorem nameEntryAt_eq (bounded : Bounded reads size headers) (location : Location) :
    nameEntryAt reads headers location = reads.nameEntryAt headers location := by
  have small := bounded.small
  obtain ⟨same, indexed⟩ := dataBlock_eq bounded location.block
  unfold nameEntryAt Reads.nameEntryAt
  rw [same]
  cases found : dataBlock reads headers location.block with
  | error error => rfl
  | ok block =>
    obtain ⟨inside, places⟩ := indexed block found
    simp only [Except.map, bind, Except.bind]
    rw [entry?_eq location.entry places (by omega)]
    cases listed : block.extents[location.entry]? with
    | none => simp [DataBlock.entry?, DataBlock.numberOfEntries, Block.cut, listed]
    | some extent =>
      have within := places extent (List.mem_of_getElem? listed)
      have length : (block.data.field extent.position extent.size).length = extent.size :=
        Bytes.length_field within
      simp only [DataBlock.entry?, Block.cut, List.getElem?_toArray, List.getElem?_map, listed,
        Option.map_some, Extent.entry, BlockHeader.dataOffset, BlockHeader.byteSize]
      exact nameEntry_eq (by omega)

end Names

section Keys

variable (reads : Reads) (navigation : Navigation)

/-- All offsets that are stored have 31 bits. -/
theorem keyAt_eq {offset : Nat} (stored : offset < 0x80000000) :
    keyAt reads navigation offset = reads.keyAt navigation offset := by
  unfold keyAt Reads.keyAt
  rw [sum_ok (by omega), sum_ok (by omega)]
  rfl

theorem chainFrom_eq (owner : Nat) (passed : Passed navigation) (next : Option Nat)
    (stored : ∀ offset, next = some offset → offset < 0x80000000) :
    chainFrom reads navigation owner passed next = reads.chainFrom navigation owner passed next := by
  induction passed, next using Reads.chainFrom.induct reads navigation owner with
  | case1 passed => rw [chainFrom, Reads.chainFrom]
  | case2 passed offset repeated =>
    rw [chainFrom, Reads.chainFrom]
    simp only [dif_pos repeated]
  | case3 passed offset fresh error outside =>
    have failed : reads.keyAt navigation offset = .error error := by
      simp only [Reads.keyAt, outside, bind, Except.bind]
    rw [chainFrom, Reads.chainFrom, keyAt_eq reads navigation (stored offset rfl)]
    simp only [dif_neg fresh, failed, outside]
  | case4 passed offset fresh holds checked error missing =>
    rw [chainFrom, keyAt_eq reads navigation (stored offset rfl), reads.keyAt_of_holds holds,
      reads.chainFrom_of_holds fresh holds]
    simp only [dif_neg fresh, missing]
  | case5 passed offset fresh holds checked key found smaller ih =>
    have same := ih fun offset => storedOffset_lt
    rw [chainFrom, keyAt_eq reads navigation (stored offset rfl), reads.keyAt_of_holds holds,
      reads.chainFrom_of_holds fresh holds]
    simp only [dif_neg fresh, dif_pos holds, found, same]

end Keys

section Opening

variable {reads : Reads} {size : Nat}

theorem scan_eq (small : size < 0x8000000000000000) (offset : Nat) (found : List BlockHeader) :
    scan reads size offset found = reads.scan size offset found := by
  induction offset, found using Reads.scan.induct size with
  | case1 offset found before held ih =>
    have inside : offset + 32 ≤ size := held
    rw [scan, Reads.scan]
    simp only [before, inside, held, if_true]
    rw [sum_ok (by omega)]
    change (reads offset 32 >>= _) = (reads offset 32 >>= _)
    refine bind_congr_ok fun data _ => ?_
    by_cases opens : Signature.dataBlock.opens data = true
    · simp only [opens, if_true]
      refine bind_congr_ok fun block parsed => ?_
      obtain ⟨place, length⟩ := BlockHeader.of_parse parsed
      rw [sum_ok (by omega)]
      by_cases within : block.nextOffset ≤ size
      · simp only [require, within, if_true]
        exact ih block
      · simp only [require, within, if_false]
        rw [difference_ok (by omega)]
        rfl
    · simp only [opens]
      rfl
  | case2 offset found before short =>
    have tail : ¬offset + 32 ≤ size := short
    rw [scan, Reads.scan]
    simp only [before, short, tail, if_true, if_false]
    rw [sum_ok (by omega), difference_ok (by omega)]
    rfl
  | case3 offset found past =>
    rw [scan, Reads.scan]
    simp only [past, if_false]

theorem attach_eq (small : size < 0x8000000000000000) (codepage : Codepage) :
    attach reads size codepage = reads.attach size codepage := by
  refine bind_congr_ok fun data _ => ?_
  refine bind_congr_ok fun header _ => ?_
  refine bind_congr_ok fun data _ => ?_
  refine bind_congr_ok fun navigation parsed => ?_
  have length := Navigation.size_of_parse parsed
  rw [sum_ok (by omega), scan_eq small]
  rfl

end Opening

/-- What is claimed to be there is read, and its end is a 64-bit number. -/
theorem fetch_eq {source : Source} (small : source.size < 0x8000000000000000) :
    fetch source = source.fetch := by
  funext offset length
  by_cases inside : offset + length ≤ source.size
  · have bounded : offset + length < 0x10000000000000000 := by omega
    have held : source.holds offset length = true := decide_eq_true inside
    simp only [fetch, Source.fetch, Source.read, bounded, inside, held, and_self, if_true]
    cases source with
    | mapped content =>
      have sliced : Bytes.slice content.toList offset (offset + length) = _ :=
        Bytes.slice_of_le (Nat.le_add_right offset length) inside
      simp only [sliced, Array.toList_extract, List.extract_eq_take_drop, List.drop_take]
    | stream attached => rfl
    | reader attached => rfl
  · have outside : source.size < offset + length := Nat.not_le.mp inside
    simp only [fetch, inside, and_false, if_false]
    exact (Source.fetch_outside outside).symm

theorem access_eq {reads : Reads} {size : Nat} {hive : Hive}
    (bounded : Bounded reads size hive.dataBlocks) : access reads hive = reads.access hive := by
  have named := nameEntryAt_eq bounded
  have root : (access reads hive).rootKey = reads.rootKey hive := by
    simp only [access, Reads.rootKey]
    cases stored : storedOffset hive.navigation.root with
    | none => rfl
    | some offset => exact keyAt_eq reads hive.navigation (storedOffset_lt stored)
  have parent : (access reads hive).parent = reads.parent hive := by
    funext key
    simp only [access, Reads.parent]
    cases stored : storedOffset key.entry.parent with
    | none => rfl
    | some offset => simp only [keyAt_eq reads hive.navigation (storedOffset_lt stored)]
  have chain : (access reads hive).chain = reads.chain hive.navigation := by
    funext key
    exact chainFrom_eq reads hive.navigation key.offset .nothing _ fun _ => storedOffset_lt
  have nameEntry : (access reads hive).nameEntry = reads.nameEntry hive.dataBlocks := by
    funext key
    simp only [access, Reads.nameEntry]
    cases key.entry.location with
    | none => rfl
    | some location => simp only [named]
  calc access reads hive
      = ⟨reads.rootKey hive, reads.parent hive, reads.chain hive.navigation,
          reads.nameEntry hive.dataBlocks⟩ := by
        rw [← root, ← parent, ← chain, ← nameEntry]
    _ = reads.access hive := rfl

end Guarded

/-- Whether no check failed on the way to a result. -/
def InRange {α : Type} (result : Except Error α) : Prop := FailsAs (· ≠ .outOfRange) result

/-- Whether a value is one that an open file hands out. -/
inductive Opened.HandsOut (opened : Opened) (key : Key) (value : Value) : Prop where
  | byIndex (index : Nat) (given : (key.view opened.hive index).answer opened.session = .ok value)
  | listed (values : List Value) (given : (key.views opened.hive).answer opened.session = .ok values)
      (member : value ∈ values)
  | byName (name : String) (given : (key.viewByName opened.hive name).answer opened.session = .ok value)

/-- The guard of every way to a value lets only indexes of values through. -/
theorem Opened.HandsOut.shows {opened : Opened} {key : Key} {value : Value}
    (handed : opened.HandsOut key value) {hive : Hive} {reads : Reads}
    (follows : opened.Follows hive reads) : ∃ shown, value.Shows shown := by
  cases handed with
  | byIndex index given =>
    have read := (key.steady_view opened.hive index).eq_of_ok follows.faithful_own given
    obtain ⟨found, _, looked⟩ := exists_of_bind read
    exact Value.shows_of_atIndex looked
  | listed values given member =>
    have read := (key.steady_views opened.hive).eq_of_ok follows.faithful_own given
    obtain ⟨found, _, same⟩ := exists_of_bind read
    cases same
    exact Value.shows_of_mem member
  | byName name given =>
    have read := (key.steady_viewByName opened.hive name).eq_of_ok follows.faithful_own given
    obtain ⟨found, _, looked⟩ := exists_of_bind read
    exact Value.shows_of_named looked

/-- Whatever a source holds and claims to hold, in every operation of every history all sums, differences,
indexes and slices are in range. So is the index of every value that is handed out, whatever is asked of it
and whenever. -/
theorem stays_in_range {source : Source} (small : source.size < 0x8000000000000000)
    (signals : Signals) (raised : Bool) (codepage : Codepage) :
    let reads := Guarded.fetch source
    let opening := Guarded.attach reads source.size codepage
    InRange opening ∧ (Hive.attach codepage).EndsAs { source, signals, raised } opening ∧
    ∀ hive session, Hive.attach codepage { source, signals, raised } = .ok hive session → ∀ history,
      let now := Opened.after ⟨hive, session⟩ history
      (∀ {α : Type} (operation : Operation α),
        let reading := operation.reading (Guarded.access reads now.hive) now.hive.codepage
        InRange reading ∧ (operation.run now.hive).EndsAs now.session reading) ∧
      ∀ key value, now.HandsOut key value →
        (∃ entry, value.entry = .ok entry) ∧
        ∀ {α : Type} (getter : Getter α) (codepage : Codepage), InRange (value.get codepage getter) := by
  intro reads opening
  have same : reads = source.fetch := Guarded.fetch_eq small
  have opened : opening = Reads.attach source.fetch source.size codepage := by
    rw [← same]
    exact Guarded.attach_eq small codepage
  have read (offset length : Nat) : InRange (source.fetch offset length) :=
    Source.failsAs_fetch (by decide) (by decide) source offset length
  refine ⟨?_, ?_, ?_⟩
  · rw [opened]
    exact Reads.failsAs_attach read (by decide) (by decide) source.size codepage
  · let session : Session := { source, signals, raised }
    rw [opened]
    exact (Hive.steady_attach session codepage).answers session rfl
  · intro hive session opens history now
    have follows := (Opened.follows_of_attach opens).after history
    have bounded : Guarded.Bounded source.fetch source.size now.hive.dataBlocks := by
      refine ⟨small, Source.length_of_fetch, ?_⟩
      rw [follows.dataBlocks]
      exact Reads.inside_of_attach (Hive.reads_of_attach opens)
    refine ⟨?_, ?_⟩
    · intro α operation reading
      have plain : reading =
          operation.reading (Reads.access source.fetch now.hive) now.hive.codepage := by
        rw [← Guarded.access_eq bounded, ← same]
      rw [plain]
      refine ⟨?_, (operation.steady_run now.hive).answers now.session follows.faithful_own⟩
      exact operation.failsAs_reading (by decide) (by decide) (by decide) (by decide)
        (Reads.failAs_access read (by decide) now.hive) now.hive.codepage
    · intro key value handed
      obtain ⟨shown, shows⟩ := handed.shows follows
      refine ⟨⟨shown, shows⟩, fun getter codepage => ?_⟩
      rw [shows.get getter]
      exact getter.failsAs_read (by decide) (by decide) shown codepage

/-- The only value of a key is handed out and answers, also when asked for a number that it is not. An
index behind it is refused before it is used. -/
theorem stays_in_range_one_value :
    let keys : Siblings := .cons (some ⟨[0x61], [⟨1, [0x42], [0x43, 0x00]⟩]⟩) .nil .nil
    let source : Source := .mapped (keys.toBytes 1).toArray
    source.size < 0x8000000000000000 ∧ ∃ hive session,
      Hive.attach .standard { source } = .ok hive session ∧ ∃ (key : Key) (value : Value) (entry : ValueEntry),
        (key.view hive 0).answer session = .ok value ∧ value.entry = .ok entry ∧
        entry.record = ⟨1, [0x42], [0x43, 0x00]⟩ ∧ InRange (value.get .standard .number32) ∧
        (key.view hive 1).answer session = .error (.invalidArgument "value" (.valueIndex 1 1)) := by
  intro keys source
  have small : source.size < 0x8000000000000000 := by decide +kernel
  have stored : ValueRecord.Fits ⟨1, [0x42], [0x43, 0x00]⟩ := ⟨by decide, by decide, by decide⟩
  have record : KeyRecord.Fits ⟨[0x61], [⟨1, [0x42], [0x43, 0x00]⟩]⟩ := by
    refine ⟨by decide, by decide, fun value member => ?_, by decide⟩
    rw [List.mem_singleton.mp member]
    exact stored
  obtain ⟨hive, session, opens, quiet, root, listed, _, _, shows⟩ :=
    Siblings.exists_attached (Siblings.fits_single record (by decide)) .standard
  have follows := Opened.follows_of_attach opens
  obtain ⟨_, _, later⟩ := stays_in_range small .never false .standard
  obtain ⟨_, handedOut⟩ := later hive session opens []
  cases shows with
  | @cons key _ _ _ _ _ _ here below after =>
    obtain ⟨values, found, same, _⟩ := here.values
    obtain ⟨entry, rfl, told⟩ := List.map_eq_singleton_iff.mp same
    have gives : (Reads.access source.fetch hive).values key = .ok [entry] :=
      follows.reading_of_gives (found [] quiet)
    rw [Access.values_eq] at gives
    cases read : (Reads.access source.fetch hive).nameEntry key with
    | error error =>
      rw [read] at gives
      cases gives
    | ok stored =>
      rw [read] at gives
      have only : KeyNameEntry.valuesOf stored = [entry] := Except.ok.inj gives
      have answered (index : Nat) : (key.view hive index).answer session = Value.atIndex stored index := by
        rw [(key.steady_view hive index).answer_eq follows.faithful quiet, Access.view, read]
        rfl
      obtain ⟨value, looked, shows⟩ := Value.atIndex_of_some stored 0 (by rw [only]; rfl)
      have given := (answered 0).trans looked
      obtain ⟨_, inRange⟩ := handedOut key value (.byIndex 0 given)
      refine ⟨small, hive, session, opens, key, value, entry, given, shows, told, inRange .number32 .standard, ?_⟩
      rw [answered, Value.atIndex_of_none stored 1 (by rw [only]; rfl), only]
      rfl

end RegistryHive
