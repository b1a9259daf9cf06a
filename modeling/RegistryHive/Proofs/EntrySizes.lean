import RegistryHive.Proofs.Pieces
import RegistryHive.Proofs.NameEntries
import RegistryHive.Proofs.SubKeyReaders

namespace RegistryHive

namespace Pieces

variable {data : Bytes} {limit position finish : Nat} {pieces : List BlockEntry}

theorem of_mem (run : Pieces data limit position pieces finish) {piece : BlockEntry} (member : piece ∈ pieces) :
    PieceFits data piece.position ∧ piece.bytes = data.field piece.position (data.number piece.position 4) := by
  induction run with
  | nil position => cases member
  | cons begins fits rest ih =>
    rcases List.mem_cons.mp member with same | later
    · rw [same]
      exact ⟨fits, rfl⟩
    · exact ih later

end Pieces

namespace KeyNameEntry

/-- Whether the bytes of an entry have the size that the first of them give. -/
structure OwnSize (bytes : Bytes) : Prop where
  header : 20 ≤ bytes.length
  size : bytes.number 0x00 4 = bytes.length

/-- The errors of an entry that has its own size: for the used size, for the name size, and for the first of its
value records that does not fit. -/
inductive Refused (bytes : Bytes) (offset : Nat) : Error → Prop where
  | usedSize (bad : ¬(20 ≤ bytes.number 0x08 4 ∧ bytes.number 0x08 4 ≤ bytes.length)) :
      Refused bytes offset (.invalidFormat (.nameEntryUsedSize offset (bytes.number 0x08 4)))
  | nameSize (used : 20 ≤ bytes.number 0x08 4 ∧ bytes.number 0x08 4 ≤ bytes.length)
      (bad : ¬20 + bytes.number 0x0C 2 ≤ bytes.number 0x08 4) :
      Refused bytes offset (.invalidFormat (.nameSize offset (bytes.number 0x0C 2)))
  | record (framed : Framed bytes) (early : places.length < bytes.number 0x0E 2)
      (run : RecordRun (usedArea bytes) (20 + bytes.number 0x0C 2) places position)
      (misfits : (usedArea bytes).length < position + ValueEntry.sizeIn ((usedArea bytes).drop position)) :
      Refused bytes offset (.truncated (offset + position)
        (if position + 12 ≤ (usedArea bytes).length then ValueEntry.sizeIn ((usedArea bytes).drop position) else 12)
        ((usedArea bytes).length - position))

end KeyNameEntry

theorem DataBlock.ownSize_of_entry {header : BlockHeader} {data : Bytes} {block : DataBlock}
    (indexed : ofData header data = .ok block) {number offset : Nat} {bytes : Bytes}
    (listed : block.entry? number = some (offset, bytes)) : KeyNameEntry.OwnSize bytes := by
  obtain ⟨pieces, finish, run, same⟩ := exists_pieces_of_ofData indexed
  rw [same] at listed
  obtain ⟨piece, found, entry⟩ := Option.map_eq_some_iff.mp listed
  obtain ⟨⟨least, fits⟩, field⟩ := run.of_mem (List.mem_of_getElem? (List.getElem?_toArray.symm.trans found))
  cases entry
  rw [leastEntrySize] at least
  have length : piece.bytes.length = data.number piece.position 4 := by
    rw [field]
    exact Bytes.length_field fits
  have size : piece.bytes.number 0x00 4 = data.number piece.position 4 := by
    rw [field]
    exact Bytes.number_field (by omega)
  exact ⟨by omega, size.trans length.symm⟩

namespace RecordRun

variable {area : Bytes} {position finish : Nat} {places : List Nat}

/-- A record takes the bytes of its header at least. -/
theorem add_mul_length_le (run : RecordRun area position places finish) : position + 12 * places.length ≤ finish := by
  induction run with
  | nil position => exact Nat.le_refl position
  | @cons position places finish fits rest ih =>
    have header := ValueEntry.le_sizeIn (area.drop position)
    rw [List.length_cons]
    omega

end RecordRun

namespace KeyNameEntry

variable {bytes : Bytes} {offset : Nat}

/-- An entry that has its own size is rejected only for what it holds. -/
theorem OwnSize.parse_eq_error_iff (own : OwnSize bytes) {error : Error} :
    parse bytes offset = .error error ↔ Refused bytes offset error := by
  obtain ⟨header, same⟩ := own
  -- The checks of the size are passed, and those of the used size are against the length of the bytes.
  have size : 20 ≤ bytes.number 0x00 4 ∧ bytes.number 0x00 4 ≤ bytes.length := by omega
  have parsed := parse_eq bytes offset
  rw [if_pos header, if_pos size, same] at parsed
  constructor
  · intro failed
    by_cases used : 20 ≤ bytes.number 0x08 4 ∧ bytes.number 0x08 4 ≤ bytes.length
    · by_cases name : 20 + bytes.number 0x0C 2 ≤ bytes.number 0x08 4
      · have framed : Framed bytes := ⟨header, size, by omega, name⟩
        obtain ⟨places, position, run, ended | ⟨early, misfits⟩⟩ :=
          RecordRun.exists_upTo (usedArea bytes) (20 + bytes.number 0x0C 2) (bytes.number 0x0E 2)
        · rw [parse_of_run framed ended run] at failed
          cases failed
        · rw [parse_of_misfit framed early run misfits] at failed
          cases failed
          exact .record framed early run misfits
      · rw [parsed, if_pos used, if_neg name] at failed
        cases failed
        exact .nameSize used name
    · rw [parsed, if_neg used] at failed
      cases failed
      exact .usedSize used
  · intro refused
    cases refused with
    | usedSize bad => rw [parsed, if_neg bad]
    | nameSize used bad => rw [parsed, if_pos used, if_neg bad]
    | record framed early run misfits => exact parse_of_misfit framed early run misfits

/-- None of the errors is that of an entry too short for its header, or with a size that it cannot have. -/
theorem Refused.ne_size {error : Error} (refused : Refused bytes offset error) (size : Nat) :
    error ≠ .truncated offset 20 size ∧ error ≠ .invalidFormat (.nameEntrySize offset size) := by
  cases refused with
  | usedSize | nameSize => exact ⟨nofun, nofun⟩
  | @record places position framed early run misfits =>
    refine ⟨fun same => ?_, nofun⟩
    have behind := run.add_mul_length_le
    have there := (Error.truncated.inj same).1
    omega

theorem size_of_parse {entry : KeyNameEntry} (parsed : parse bytes offset = .ok entry) :
    entry.size = bytes.number 0x00 4 ∧ 20 + 12 * entry.values.length ≤ entry.size := by
  obtain ⟨_, size, used, name⟩ := framed_of_parse parsed
  have area := (framed_of_parse parsed).length_usedArea
  obtain ⟨places, finish, count, run, same⟩ := run_of_parse parsed
  have least := run.add_mul_length_le
  have inside := run.inside (by omega)
  rw [same]
  refine ⟨rfl, ?_⟩
  change 20 + 12 * (ValueEntry.atPlaces (usedArea bytes) offset places).length ≤ bytes.number 0x00 4
  rw [ValueEntry.atPlaces, List.length_map]
  omega

end KeyNameEntry

namespace Hive

variable {hive : Hive} {location : Location} {session : Session} {error : Error}

/-- A name entry cannot be had if its data block cannot, if the block has no such entry, or if that is rejected. -/
theorem nameEntryAt_cases (failed : (hive.nameEntryAt location).answer session = .error error) :
    (hive.dataBlock location.block).answer session = .error error ∨
    ∃ block, (hive.dataBlock location.block).answer session = .ok block ∧
      (block.entry? location.entry = none ∧ error =
        .invalidFormat (.entryNumber location.entry location.block block.numberOfEntries) ∨
      ∃ offset bytes, block.entry? location.entry = some (offset, bytes) ∧
        KeyNameEntry.parse bytes offset = .error error) := by
  cases cached : session.entries[location]? with
  | some entry =>
    rw [Action.answer, nameEntryAt_cached cached] at failed
    cases failed
  | none =>
    rw [Action.answer, nameEntryAt_uncached cached] at failed
    change (hive.readNameEntry location).answer session = _ at failed
    rw [readNameEntry, Action.answer_bind] at failed
    cases had : (hive.dataBlock location.block).answer session with
    | error other =>
      simp only [had] at failed
      cases failed
      exact .inl rfl
    | ok block =>
      simp only [had] at failed
      refine .inr ⟨block, rfl, ?_⟩
      cases listed : block.entry? location.entry with
      | none =>
        simp only [listed] at failed
        cases failed
        exact .inl ⟨rfl, rfl⟩
      | some place =>
        obtain ⟨offset, bytes⟩ := place
        refine .inr ⟨offset, bytes, rfl, ?_⟩
        simp only [listed, Action.answer_bind] at failed
        cases parsed : KeyNameEntry.parse bytes offset with
        | error other =>
          rw [parsed] at failed
          cases failed
          rfl
        | ok entry =>
          rw [parsed] at failed
          cases failed

end Hive

theorem Reads.exists_indexed {reads : Reads} {headers : List BlockHeader} {number : Nat} {block : DataBlock}
    (read : reads.dataBlock headers number = .ok block) :
    ∃ header data, DataBlock.ofData header data = .ok block := by
  cases listed : headers[number]? with
  | none =>
    simp only [dataBlock, listed] at read
    cases read
  | some header =>
    rw [reads.dataBlock_of_header listed] at read
    obtain ⟨data, _, indexed⟩ := exists_of_bind read
    exact ⟨header, data, indexed⟩

/-- The entries that a data block was indexed with have their own size, so that parsing them never fails for it, and
only for the used size, the name size or a value record. An entry that is read has that size, with room for its
header and those of its values. In an open file, whatever was done with it before, a name entry that was found is
rejected for no other reasons. -/
theorem indexed_entries_own_size :
    (∀ header data block number offset bytes, DataBlock.ofData header data = .ok block →
      block.entry? number = some (offset, bytes) →
      20 ≤ bytes.length ∧ bytes.number 0x00 4 = bytes.length ∧
      (∀ error, KeyNameEntry.parse bytes offset = .error error ↔ KeyNameEntry.Refused bytes offset error) ∧
      (∀ size, KeyNameEntry.parse bytes offset ≠ .error (.truncated offset 20 size) ∧
        KeyNameEntry.parse bytes offset ≠ .error (.invalidFormat (.nameEntrySize offset size))) ∧
      ∀ entry, KeyNameEntry.parse bytes offset = .ok entry →
        entry.size = bytes.length ∧ 20 + 12 * entry.values.length ≤ bytes.length) ∧
    ∀ now : Opened, now.Reachable → ∀ location error,
      (now.hive.nameEntryAt location).answer now.session = .error error →
      (now.hive.dataBlock location.block).answer now.session = .error error ∨
      ∃ block, (now.hive.dataBlock location.block).answer now.session = .ok block ∧
        (block.entry? location.entry = none ∧ error =
          .invalidFormat (.entryNumber location.entry location.block block.numberOfEntries) ∨
        ∃ offset bytes, block.entry? location.entry = some (offset, bytes) ∧
          KeyNameEntry.Refused bytes offset error) := by
  constructor
  · intro header data block number offset bytes indexed listed
    have own := DataBlock.ownSize_of_entry indexed listed
    refine ⟨own.header, own.size, fun error => own.parse_eq_error_iff,
      fun size => ⟨fun failed => ?_, fun failed => ?_⟩, ?_⟩
    · exact ((own.parse_eq_error_iff.mp failed).ne_size size).1 rfl
    · exact ((own.parse_eq_error_iff.mp failed).ne_size size).2 rfl
    · intro entry parsed
      have sized := KeyNameEntry.size_of_parse parsed
      rw [own.size] at sized
      exact ⟨sized.1, sized.1 ▸ sized.2⟩
  · intro now reachable location error failed
    obtain ⟨hive, source, follows⟩ := reachable.exists_source
    rcases Hive.nameEntryAt_cases failed with unread | ⟨block, had, missing | ⟨offset, bytes, listed, rejected⟩⟩
    · exact .inl unread
    · exact .inr ⟨block, had, .inl missing⟩
    · have read := (Hive.steady_dataBlock now.hive location.block).eq_of_ok follows.faithful_own had
      obtain ⟨header, data, indexed⟩ := Reads.exists_indexed read
      have own := DataBlock.ownSize_of_entry indexed listed
      exact .inr ⟨block, had, .inr ⟨offset, bytes, listed, own.parse_eq_error_iff.mp rejected⟩⟩

/-- Two entries without a name. The first holds nothing, and the second counts a value that its two bytes do not
hold. -/
theorem indexed_entries_own_size_missing_value :
    let raw : Bytes := Signature.dataBlock.bytes ++ .ofNumber 4 76 ++ .zeros 8 ++ .ofNumber 4 76 ++ .zeros 12
    let data : Bytes := Bytes.ofNumber 4 20 ++ .zeros 4 ++ .ofNumber 4 20 ++ .zeros 8 ++
      (Bytes.ofNumber 4 24 ++ .zeros 4 ++ .ofNumber 4 22 ++ .zeros 2 ++ .ofNumber 2 1 ++ .zeros 8)
    ∃ header block, BlockHeader.parse raw 0x200 = .ok header ∧ DataBlock.ofData header data = .ok block ∧
      block.entry? 0 = some (0x220, data.field 0 20) ∧
      (∃ entry, KeyNameEntry.parse (data.field 0 20) 0x220 = .ok entry ∧ entry.size = 20) ∧
      block.entry? 1 = some (0x234, data.field 20 24) ∧
      KeyNameEntry.parse (data.field 20 24) 0x234 = .error (.truncated 0x248 12 2) := by
  intro raw data
  let header : BlockHeader := ⟨0x200, 76, 0, 0, 76, by decide⟩
  have first : data.number 0 4 = 20 := by decide
  have second : data.number 20 4 = 24 := by decide
  have limit : min header.entriesSize data.length = 44 := by decide
  have run : Pieces data (min header.entriesSize data.length) 0
      [⟨0, data.field 0 20⟩, ⟨20, data.field 20 24⟩] 44 := by
    rw [limit, ← first]
    refine .cons (by decide) (by decide) ?_
    rw [first, ← second]
    exact .cons (by decide) (by decide) (.nil _)
  have ends : ¬PieceBegins data (min header.entriesSize data.length) 44 := by
    rw [limit]
    decide
  have indexed := DataBlock.ofData_of_ends run ends
  obtain ⟨_, _, _, _, sizes⟩ := indexed_entries_own_size.1 header data _ 0 0x220 (data.field 0 20) indexed rfl
  obtain ⟨_, _, errors, _⟩ := indexed_entries_own_size.1 header data _ 1 0x234 (data.field 20 24) indexed rfl
  have whole : KeyNameEntry.Framed (data.field 0 20) := ⟨by decide, by decide, by decide, by decide⟩
  have parsed : KeyNameEntry.parse (data.field 0 20) 0x220 = .ok _ := KeyNameEntry.parse_of_run whole rfl (.nil _)
  have framed : KeyNameEntry.Framed (data.field 20 24) := ⟨by decide, by decide, by decide, by decide⟩
  have refused : KeyNameEntry.Refused (data.field 20 24) 0x234 _ := .record framed (by decide) (.nil _) (by decide)
  exact ⟨header, _, rfl, indexed, rfl, ⟨_, parsed, (sizes _ parsed).1⟩, rfl, (errors _).mpr refused⟩

end RegistryHive
