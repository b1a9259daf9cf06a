import RegistryHive.Proofs.NameEntries
import RegistryHive.Proofs.Pieces
import RegistryHive.Proofs.RoundTrip
import RegistryHive.Proofs.Validation

namespace RegistryHive

/-- The stored form of a value, with four bytes in it that mean nothing. -/
def ValueEntry.stored (value : ValueEntry) (ignored : Bytes) : Bytes :=
  Bytes.ofNumber 4 value.type.number ++ ignored ++ .ofNumber 2 value.name.length ++
    .ofNumber 2 value.data.length ++ value.name ++ value.data

/-- Whether the bytes at an offset are the stored form of a value. -/
structure ValueEntry.StandsAt (value : ValueEntry) (data : Bytes) (offset : Nat) : Prop where
  place : value.offset = offset
  bytes : ∃ ignored, ignored.length = 4 ∧ PartAt data offset (value.stored ignored)

/-- Values that stand one after another, from the first offset up to the second. -/
inductive ValueRun (data : Bytes) : Nat → List ValueEntry → Nat → Prop where
  | nil (offset : Nat) : ValueRun data offset [] offset
  | cons {value : ValueEntry} (stands : value.StandsAt data offset)
      (rest : ValueRun data (offset + value.size) values finish) :
      ValueRun data offset (value :: values) finish

/-- Whether a key name entry stands at an offset: its sizes, its name, and behind the name its values, which
end within the used area. -/
structure KeyNameEntry.StandsAt (entry : KeyNameEntry) (data : Bytes) (offset : Nat) : Prop where
  place : entry.offset = offset
  size : entry.size = data.number offset 4
  usedSize : entry.usedSize = data.number (offset + 0x08) 4
  used : entry.usedSize ≤ entry.size
  nameSize : entry.name.length = data.number (offset + 0x0C) 2
  name : PartAt data (offset + headerSize) entry.name
  count : entry.values.length = data.number (offset + 0x0E) 2
  values : ∃ finish, ValueRun data (offset + headerSize + entry.name.length) entry.values finish ∧
    finish ≤ offset + entry.usedSize

/-- Entries that stand one after another in an area that begins at `base`, from the first position up to the
second, each as long as its first field says. -/
inductive EntryRun (data : Bytes) (base : Nat) : Nat → List BlockEntry → Nat → Prop where
  | nil (position : Nat) : EntryRun data base position [] position
  | cons {entry : BlockEntry} (place : entry.position = position)
      (stands : PartAt data (base + position) entry.bytes)
      (size : entry.bytes.length = data.number (base + position) 4)
      (rest : EntryRun data base (position + entry.bytes.length) entries finish) :
      EntryRun data base position (entry :: entries) finish

/-- Whether a location names a key name entry: the data area of the block lies in the file, entries stand in
it from its start, and the one with the number holds the key name entry. -/
inductive EntryAt (data : Bytes) (hive : Hive) (location : Location) : KeyNameEntry → Prop where
  | found {header : BlockHeader} {pieces : List BlockEntry} {piece : BlockEntry} {entry : KeyNameEntry}
      (listed : hive.dataBlocks[location.block]? = some header)
      (area : header.dataOffset + header.dataSize ≤ data.length)
      (run : EntryRun data header.dataOffset 0 pieces finish) (inside : finish ≤ header.dataSize)
      (numbered : pieces[location.entry]? = some piece)
      (stands : entry.StandsAt data (header.dataOffset + piece.position))
      (held : entry.size ≤ piece.bytes.length) : EntryAt data hive location entry

/-- The values of a key, where they stand. -/
inductive ValuesAt (data : Bytes) (hive : Hive) (key : Key) : List ValueEntry → Prop where
  | unnamed (missing : key.entry.location = none) : ValuesAt data hive key []
  | stored (located : key.entry.location = some location) (named : EntryAt data hive location entry) :
      ValuesAt data hive key entry.values

/-- Whether a value lies behind the name of a key name entry and in its used area, that in the data area
of a block, and that in the file. -/
structure ValueEntry.LiesIn (value : ValueEntry) (data : Bytes) (header : BlockHeader)
    (entry : KeyNameEntry) : Prop where
  named : entry.offset + KeyNameEntry.headerSize + entry.name.length ≤ value.offset
  used : value.offset + value.size ≤ entry.offset + entry.usedSize
  start : header.dataOffset ≤ entry.offset
  area : entry.offset + entry.usedSize ≤ header.dataOffset + header.dataSize
  file : header.dataOffset + header.dataSize ≤ data.length

namespace ValueRun

variable {data : Bytes} {start finish : Nat} {values : List ValueEntry}

theorem le (run : ValueRun data start values finish) : start ≤ finish := by
  induction run with
  | nil offset => exact Nat.le_refl offset
  | cons stands rest ih => exact Nat.le_of_add_right_le ih

theorem stands {value : ValueEntry} (run : ValueRun data start values finish)
    (member : value ∈ values) :
    value.StandsAt data value.offset ∧ start ≤ value.offset ∧ value.offset + value.size ≤ finish := by
  induction run with
  | nil offset => cases member
  | cons stands rest ih =>
    rcases List.mem_cons.mp member with same | later
    · rw [same, stands.place]
      exact ⟨stands, Nat.le_refl _, rest.le⟩
    · obtain ⟨found, behind, within⟩ := ih later
      exact ⟨found, Nat.le_of_add_right_le behind, within⟩

end ValueRun

namespace ValueEntry

variable {data : Bytes}

/-- What was read at the start of some bytes is stored there. -/
theorem stored_ofFields (inside : sizeIn data ≤ data.length) (offset : Nat) :
    (ofFields data offset).stored (data.field 4 4) = data.field 0 (sizeIn data) := by
  have enough : 12 + data.number 0x08 2 + data.number 0x0A 2 ≤ data.length := inside
  have name : (data.field 12 (data.number 0x08 2)).length = data.number 0x08 2 :=
    Bytes.length_field (by omega)
  have content : (data.field (12 + data.number 0x08 2) (data.number 0x0A 2)).length =
      data.number 0x0A 2 := Bytes.length_field enough
  simp only [stored, ofFields, ValueType.number_ofNumber, name, content]
  rw [Bytes.ofNumber_number (by omega), Bytes.ofNumber_number (by omega),
    Bytes.ofNumber_number (by omega)]
  calc data.field 0 4 ++ data.field 4 4 ++ data.field 8 2 ++ data.field 10 2 ++
          data.field 12 (data.number 0x08 2) ++
          data.field (12 + data.number 0x08 2) (data.number 0x0A 2)
      = data.field 0 12 ++ data.field 12 (data.number 0x08 2) ++
          data.field (12 + data.number 0x08 2) (data.number 0x0A 2) := by
        rw [Bytes.field_append data 0 4 4, Bytes.field_append data 0 8 2,
          Bytes.field_append data 0 10 2]
    _ = data.field 0 (sizeIn data) := by
        have named := Bytes.field_append data 0 12 (data.number 0x08 2)
        have whole := Bytes.field_append data 0 (12 + data.number 0x08 2) (data.number 0x0A 2)
        rw [Nat.zero_add] at named whole
        rw [named, whole, sizeIn]

theorem stands_ofFields {whole : Bytes} {offset : Nat} (place : PartAt whole offset data)
    (inside : sizeIn data ≤ data.length) : (ofFields data offset).StandsAt whole offset := by
  have header := le_sizeIn data
  refine ⟨rfl, data.field 4 4, Bytes.length_field (by omega), ?_⟩
  rw [stored_ofFields inside]
  have part : PartAt data 0 (data.field 0 (sizeIn data)) :=
    PartAt.of_field (by rw [Nat.zero_add]; exact inside)
  exact place.trans part

end ValueEntry

/-- Values whose records follow one another stand in the file one after another. -/
theorem RecordRun.valueRun {whole area : Bytes} {offset position finish : Nat} {places : List Nat}
    (place : PartAt whole offset area) (run : RecordRun area position places finish) :
    ValueRun whole (offset + position) (ValueEntry.atPlaces area offset places) (offset + finish) := by
  induction run with
  | nil position => exact .nil _
  | @cons position places finish fits rest ih =>
    have within : position ≤ area.length := Nat.le_of_add_right_le fits
    have inside : ValueEntry.sizeIn (area.drop position) ≤ (area.drop position).length := by
      rw [List.length_drop]
      omega
    refine .cons (ValueEntry.stands_ofFields (place.drop within) inside) ?_
    rw [ValueEntry.size_ofFields _ inside, Nat.add_assoc]
    exact ih

namespace KeyNameEntry

theorem stands_of_parse {whole data : Bytes} {offset : Nat} {entry : KeyNameEntry}
    (place : PartAt whole offset data) (parsed : parse data offset = .ok entry) :
    entry.StandsAt whole offset ∧ entry.size ≤ data.length := by
  have framed := framed_of_parse parsed
  have area := framed.length_usedArea
  obtain ⟨header, sized, used, named⟩ := framed
  obtain ⟨places, finish, count, run, same⟩ := run_of_parse parsed
  have name : (data.field 20 (data.number 0x0C 2)).length = data.number 0x0C 2 :=
    Bytes.length_field (by omega)
  have spelled : PartAt data 20 (data.field 20 (data.number 0x0C 2)) := PartAt.of_field (by omega)
  have last := run.inside (by omega)
  have values := run.valueRun (place.take (data.number 0x08 4))
  rw [same]
  refine ⟨⟨rfl, ?_, ?_, used.2, ?_, ?_, ?_, offset + finish, ?_, ?_⟩, sized.2⟩
  · exact (place.number 0 4 (by omega)).symm
  · exact (place.number 0x08 4 (by omega)).symm
  · rw [place.number 0x0C 2 (by omega)]
    exact name
  · exact place.trans spelled
  · rw [place.number 0x0E 2 (by omega), ← count]
    exact List.length_map _
  · have start : offset + headerSize + (ofFields data offset
        (ValueEntry.atPlaces (usedArea data) offset places)).name.length =
        offset + (20 + data.number 0x0C 2) := by
      simp only [ofFields, name, headerSize, leastEntrySize]
      omega
    rw [start]
    exact values
  · simp only [ofFields]
    omega

end KeyNameEntry

/-- The pieces of a data area stand in the file one after another. -/
theorem Pieces.entryRun {whole data : Bytes} {base limit position finish : Nat} {pieces : List BlockEntry}
    (place : PartAt whole base data) (run : Pieces data limit position pieces finish) :
    EntryRun whole base position pieces finish := by
  induction run with
  | nil position => exact .nil position
  | @cons position pieces finish begins fits rest ih =>
    have room : position + 20 ≤ data.length := begins.2
    have length := Bytes.length_field fits.2
    refine .cons rfl (place.trans (.of_field fits.2)) ?_ ?_
    · rw [length, place.number position 4 (by omega)]
    · rw [length]
      exact ih

namespace EntryRun

variable {data : Bytes} {base position finish : Nat} {pieces : List BlockEntry}

theorem le (run : EntryRun data base position pieces finish) : position ≤ finish := by
  induction run with
  | nil position => exact Nat.le_refl position
  | cons place stands size rest ih => exact Nat.le_of_add_right_le ih

theorem stands {number : Nat} {piece : BlockEntry} (run : EntryRun data base position pieces finish)
    (listed : pieces[number]? = some piece) :
    PartAt data (base + piece.position) piece.bytes ∧
      piece.position + piece.bytes.length ≤ finish := by
  induction run generalizing number with
  | nil position => simp at listed
  | cons place stands size rest ih =>
    cases number with
    | zero =>
      cases listed
      rw [place]
      exact ⟨stands, rest.le⟩
    | succ number => exact ih listed

end EntryRun

theorem DataBlock.run_of_ofData {whole data : Bytes} {header : BlockHeader} {block : DataBlock}
    (place : PartAt whole header.dataOffset data) (indexed : ofData header data = .ok block) :
    block.header = header ∧ ∃ finish,
      EntryRun whole header.dataOffset 0 block.entries.toList finish ∧ finish ≤ data.length := by
  obtain ⟨pieces, finish, run, stops⟩ := Pieces.exists_from data (min header.entriesSize data.length) 0
  rw [ofData_of_pieces run stops] at indexed
  split at indexed
  · cases indexed
  · cases indexed
    exact ⟨rfl, finish, run.entryRun place, run.inside (Nat.zero_le _)⟩

section Reading

variable {data : Bytes} {hive : Hive} (stays : hive.StaysIn (endsBy data.length))

include stays

theorem Reads.entryAt_of_nameEntryAt {location : Location} {entry : KeyNameEntry}
    (found : data.reads.nameEntryAt hive.dataBlocks location = .ok entry) :
    EntryAt data hive location entry := by
  obtain ⟨block, read, parsed⟩ := exists_of_bind found
  unfold Reads.dataBlock at read
  cases listed : hive.dataBlocks[location.block]? with
  | none =>
    rw [listed] at read
    cases read
  | some header =>
    have area : header.dataOffset + header.dataSize ≤ data.length :=
      stays.areas header (List.mem_of_getElem? listed)
    simp only [listed, Bytes.reads_inside area] at read
    obtain ⟨same, finish, run, inside⟩ := DataBlock.run_of_ofData (PartAt.of_field area) read
    rw [Bytes.length_field area] at inside
    cases numbered : block.entry? location.entry with
    | none =>
      rw [numbered] at parsed
      cases parsed
    | some place =>
      obtain ⟨piece, member, placed⟩ := Option.map_eq_some_iff.mp numbered
      rw [numbered, ← placed, same] at parsed
      rw [← Array.getElem?_toList] at member
      obtain ⟨part, _⟩ := run.stands member
      obtain ⟨stands, held⟩ := KeyNameEntry.stands_of_parse part parsed
      exact .found listed area run inside member stands held

theorem Reads.valuesAt_of_values {key : Key} {values : List ValueEntry}
    (found : (data.reads.access hive).values key = .ok values) : ValuesAt data hive key values := by
  rw [Access.values_eq] at found
  change (data.reads.nameEntry hive.dataBlocks key).map _ = _ at found
  unfold Reads.nameEntry at found
  cases located : key.entry.location with
  | none =>
    rw [located] at found
    cases found
    exact .unnamed located
  | some location =>
    simp only [located] at found
    cases read : data.reads.nameEntryAt hive.dataBlocks location with
    | error error =>
      rw [read] at found
      cases found
    | ok stored =>
      rw [read] at found
      cases found
      exact .stored located (Reads.entryAt_of_nameEntryAt stays read)

end Reading

theorem ValuesAt.stands {data : Bytes} {hive : Hive} {key : Key} {values : List ValueEntry}
    {value : ValueEntry} (places : ValuesAt data hive key values) (member : value ∈ values) :
    value.StandsAt data value.offset ∧ ∃ location header entry, key.entry.location = some location ∧
      hive.dataBlocks[location.block]? = some header ∧ entry.values = values ∧
      value.LiesIn data header entry := by
  cases places with
  | unnamed missing => cases member
  | @stored location entry located named =>
    cases named with
    | @found finish header pieces piece _ listed area run inside numbered stands held =>
      obtain ⟨last, following, used⟩ := stands.values
      obtain ⟨bytes, behind, within⟩ := following.stands member
      obtain ⟨_, ends⟩ := run.stands numbered
      have place := stands.place
      have short := stands.used
      refine ⟨bytes, location, header, entry, located, listed, rfl, ?_, ?_, ?_, ?_, area⟩
      · rw [place]
        exact behind
      · rw [place]
        exact Nat.le_trans within used
      · rw [place]
        exact Nat.le_add_right _ _
      · omega

/-- Every value that an open file gives stands in the file at the offset that it reports, as its type, its
name and its data say. -/
theorem values_stand_in_file {source : Source} (honest : source.Honest) {signals : Signals}
    {raised : Bool} {codepage : Codepage} {hive : Hive} {session : Session}
    (opens : Hive.attach codepage { source, signals, raised } = .ok hive session)
    (history : List Happening) :
    let now := Opened.after ⟨hive, session⟩ history
    let data := source.content
    (∀ key values, now.Gives (.values key) values → ValuesAt data now.hive key values) ∧
    (∀ key index value, now.Gives (.value key index) value →
      ∃ values, ValuesAt data now.hive key values ∧ values[index]? = some value) ∧
    (∀ key name value, now.Gives (.valueByName key name) value →
      ∃ values, ValuesAt data now.hive key values ∧ value ∈ values) ∧
    (∀ key values value, ValuesAt data now.hive key values → value ∈ values →
      value.StandsAt data value.offset ∧
      ∃ location header entry, key.entry.location = some location ∧
        now.hive.dataBlocks[location.block]? = some header ∧ entry.values = values ∧
        value.LiesIn data header entry) ∧
    ∀ value, now.Gives (.valueName value) (now.hive.codepage.decode value.name) := by
  intro now data
  have follows := (Opened.follows_of_attach opens).after history
  have stays : now.hive.StaysIn (endsBy source.size) := Opened.staysIn_after opens history
  rw [honest.size_eq] at stays
  rw [Source.fetch_of_honest_eq honest] at follows
  have placed {key : Key} {values : List ValueEntry}
      (found : (data.reads.access now.hive).values key = .ok values) : ValuesAt data now.hive key values :=
    Reads.valuesAt_of_values stays found
  refine ⟨?_, ?_, ?_, ?_, ?_⟩
  · intro key values gives
    exact placed (follows.reading_of_gives gives)
  · intro key index value gives
    have read := follows.reading_of_gives gives
    simp only [Operation.reading, Access.value_eq] at read
    obtain ⟨values, found, chosen⟩ := exists_of_bind read
    refine ⟨values, placed found, ?_⟩
    cases listed : values[index]? with
    | none =>
      rw [listed] at chosen
      cases chosen
    | some other =>
      rw [listed] at chosen
      cases chosen
      rfl
  · intro key name value gives
    have read := follows.reading_of_gives gives
    simp only [Operation.reading, Access.valueByName_eq] at read
    obtain ⟨values, found, chosen⟩ := exists_of_bind read
    refine ⟨values, placed found, ?_⟩
    split at chosen
    · rename_i other first
      cases chosen
      exact List.mem_of_find?_eq_some first
    · cases chosen
  · intro key values value places member
    exact places.stands member
  · intro value
    rfl

/-- The only value of the only sub key of a root key. -/
theorem values_stand_in_file_one_value :
    let keys : Siblings := .cons (some ⟨[0x61], [⟨1, [0x42], [0x43, 0x00]⟩]⟩) .nil .nil
    let source : Source := .mapped (keys.toBytes 1).toArray
    source.Honest ∧ ∃ hive session, Hive.attach .standard { source } = .ok hive session ∧
      let now := Opened.after ⟨hive, session⟩ [.operation .rootKey]
      ∃ key value, now.Gives (.values key) [value] ∧ value.record = ⟨1, [0x42], [0x43, 0x00]⟩ ∧
        ValuesAt source.content now.hive key [value] ∧ value.StandsAt source.content value.offset := by
  intro keys source
  have honest : source.Honest := .mapped _
  let history : List Happening := [.operation .rootKey]
  have stored : ValueRecord.Fits ⟨1, [0x42], [0x43, 0x00]⟩ := ⟨by decide, by decide, by decide⟩
  have record : KeyRecord.Fits ⟨[0x61], [⟨1, [0x42], [0x43, 0x00]⟩]⟩ := by
    refine ⟨by decide, by decide, fun value member => ?_, by decide⟩
    rw [List.mem_singleton.mp member]
    exact stored
  obtain ⟨hive, session, opens, quiet, root, listed, _, _, shows⟩ :=
    Siblings.exists_attached (Siblings.fits_single record (by decide)) .standard
  have later := (Opened.follows_of_attach opens).quiet_after quiet history (by simp [history])
  obtain ⟨placed, _, _, stands, _⟩ := values_stand_in_file honest opens history
  cases shows with
  | @cons key _ _ _ _ _ _ here below after =>
    obtain ⟨values, found, same, _⟩ := here.values
    obtain ⟨value, rfl, told⟩ := List.map_eq_singleton_iff.mp same
    have gives := found history later
    have places := placed key [value] gives
    obtain ⟨bytes, _⟩ := stands key [value] value places List.mem_cons_self
    exact ⟨honest, hive, session, opens, key, value, gives, told, places, bytes⟩

end RegistryHive
