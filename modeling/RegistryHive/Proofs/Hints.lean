import RegistryHive.Proofs.Interchange

namespace RegistryHive

namespace Bytes

/-- Whether the scan for data blocks comes to an offset, behind blocks that stand one after another. -/
def Scanned (data : Bytes) (offset : Nat) : Prop :=
  ∃ blocks, BlockRun data (data.number 0x08 4) blocks offset

/-- Whether a byte is in a field that only hints at what else is in the file: of the file header, of the header
of the navigation block or of the header of a data block. -/
inductive Hint (data : Bytes) (place : Nat) : Prop where
  | version (low : 0x04 ≤ place) (high : place < 0x08)
  | numberOfBlocks (low : 0x0C ≤ place) (high : place < 0x20)
  | navigation (low : 0x2C ≤ place) (high : place < 0x40)
  | ofBlock (scanned : data.Scanned offset) (low : offset + 0x08 ≤ place) (high : place < offset + 0x10)
  | afterUsedSize (scanned : data.Scanned offset) (low : offset + 0x14 ≤ place)
      (high : place < offset + 0x20)

/-- Whether two files of one length differ at most in hints. -/
structure SameButHints (first second : Bytes) : Prop where
  length : first.length = second.length
  rest : ∀ place, ¬first.Hint place → first[place]? = second[place]?

/-- Fields are the same where all their bytes are. -/
theorem field_congr {first second : Bytes} {offset width : Nat}
    (same : ∀ place, offset ≤ place → place < offset + width → first[place]? = second[place]?) :
    first.field offset width = second.field offset width := by
  apply List.ext_getElem?
  intro index
  simp only [field, List.getElem?_take, List.getElem?_drop]
  split
  · exact same _ (by omega) (by omega)
  · rfl

end Bytes

namespace BlockRun

variable {data : Bytes} {start offset further : Nat} {blocks others : List BlockHeader}

theorem le (run : BlockRun data start blocks offset) : start ≤ offset := by
  induction run with
  | nil offset => exact Nat.le_refl offset
  | cons stands rest ih => exact Nat.le_trans (Nat.le_add_right _ _) ih

/-- Of two places that a scan comes to, a block stands at the first and ends before the second. -/
theorem apart (run : BlockRun data start blocks offset) (other : BlockRun data start others further)
    (before : offset < further) :
    ∃ block : BlockHeader, block.StandsAt data offset ∧ offset + block.size ≤ further := by
  induction run generalizing others with
  | nil offset =>
    cases other with
    | nil => omega
    | cons stands rest => exact ⟨_, stands, rest.le⟩
  | cons stands rest ih =>
    cases other with
    | nil =>
      have reached := rest.le
      omega
    | cons also following =>
      rw [← stands.unique also] at following
      exact ih following before

/-- Each block of a run stands where the run comes to after those before it. -/
theorem of_mem (run : BlockRun data start blocks offset) {block : BlockHeader} (member : block ∈ blocks) :
    ∃ earlier, BlockRun data start earlier block.offset ∧ block.StandsAt data block.offset := by
  induction run with
  | nil offset => simp at member
  | @cons offset _ _ first stands rest ih =>
    rcases List.mem_cons.mp member with same | later
    · rw [same, stands.place]
      exact ⟨[], .nil offset, stands⟩
    · obtain ⟨earlier, reaches, also⟩ := ih later
      exact ⟨first :: earlier, .cons stands reaches, also⟩

end BlockRun

/-- Each block that the scan finds stands at a place that it comes to. -/
theorem BlockList.of_mem {data : Bytes} {blocks : List BlockHeader}
    (list : BlockList data (data.number 0x08 4) (.ok blocks)) {block : BlockHeader} (member : block ∈ blocks) :
    data.Scanned block.offset ∧ block.StandsAt data block.offset := by
  cases list with
  | beyond short => simp at member
  | absent held other => simp at member
  | run run some tail =>
    obtain ⟨earlier, reaches, stands⟩ := run.of_mem member
    exact ⟨⟨earlier, reaches⟩, stands⟩

namespace Bytes

/-- Whether there is a whole header of a navigation block, and no data block begins before its end. -/
structure LaidOut (data : Bytes) : Prop where
  holdsHeader : 32 ≤ data.number 0x24 4
  apart : 0x20 + data.number 0x24 4 ≤ data.number 0x08 4

variable {data : Bytes} {offset place : Nat}

theorem Scanned.le (scanned : data.Scanned offset) : data.number 0x08 4 ≤ offset := by
  obtain ⟨blocks, run⟩ := scanned
  exact run.le

/-- Whatever is in the header of a data block is behind the places that the scan came to before. -/
theorem Scanned.apart {further : Nat} (scanned : data.Scanned offset) (also : data.Scanned further)
    (before : offset < further) :
    ∃ block : BlockHeader, block.StandsAt data offset ∧ offset + block.size ≤ further := by
  obtain ⟨blocks, run⟩ := scanned
  obtain ⟨others, other⟩ := also
  exact run.apart other before

/-- The places that the scan comes to are at least a header apart. -/
theorem Scanned.far {further : Nat} (scanned : data.Scanned offset) (also : data.Scanned further)
    (before : offset < further) : offset + 0x20 ≤ further := by
  obtain ⟨block, stands, ends⟩ := scanned.apart also before
  have long := block.holdsHeader
  omega

/-- A hint behind the header of the navigation block is in the header of a data block. -/
theorem Hint.scanned (hint : data.Hint place) (behind : 0x40 ≤ place) :
    ∃ offset, data.Scanned offset ∧ offset + 0x08 ≤ place ∧ place < offset + 0x20 ∧
      (place < offset + 0x10 ∨ offset + 0x14 ≤ place) := by
  cases hint with
  | version low high => omega
  | numberOfBlocks low high => omega
  | navigation low high => omega
  | ofBlock scanned low high => exact ⟨_, scanned, low, by omega, .inl high⟩
  | afterUsedSize scanned low high => exact ⟨_, scanned, by omega, high, .inr low⟩

/-- The hierarchy is free of hints. -/
theorem not_hint_of_hierarchy (low : 0x40 ≤ place) (high : place < data.number 0x08 4) :
    ¬data.Hint place := by
  intro hint
  obtain ⟨offset, scanned, above, _⟩ := hint.scanned low
  have start := scanned.le
  omega

/-- In the two headers, the signatures, the offset of the data blocks and the size are no hints. -/
theorem not_hint_of_headers (apart : 0x20 ≤ data.number 0x08 4)
    (among : place < 0x04 ∨ 0x08 ≤ place ∧ place < 0x0C ∨ 0x20 ≤ place ∧ place < 0x28) :
    ¬data.Hint place := by
  intro hint
  cases hint with
  | version low high => omega
  | numberOfBlocks low high => omega
  | navigation low high => omega
  | ofBlock scanned low high | afterUsedSize scanned low high =>
    have start := scanned.le
    omega

namespace LaidOut

variable (laid : data.LaidOut)

include laid

/-- In the header of a data block, its signature, its size and its used size are no hints. -/
theorem not_hint_of_block (scanned : data.Scanned offset) (low : offset ≤ place)
    (high : place < offset + 0x08 ∨ offset + 0x10 ≤ place ∧ place < offset + 0x14) : ¬data.Hint place := by
  intro hint
  have start := scanned.le
  have holdsHeader := laid.holdsHeader
  have apart := laid.apart
  obtain ⟨other, also, above, below, hinted⟩ := hint.scanned (by omega)
  rcases Nat.lt_trichotomy offset other with before | same | after
  · have far := scanned.far also before
    omega
  · omega
  · have far := also.far scanned after
    omega

/-- The offset of the root key is no hint. -/
theorem not_hint_of_root (low : 0x28 ≤ place) (high : place < 0x2C) : ¬data.Hint place := by
  intro hint
  have holdsHeader := laid.holdsHeader
  have apart := laid.apart
  cases hint with
  | version low high => omega
  | numberOfBlocks low high => omega
  | navigation low high => omega
  | ofBlock scanned low high | afterUsedSize scanned low high =>
    have start := scanned.le
    omega

/-- The data areas are free of hints. -/
theorem not_hint_of_area (scanned : data.Scanned offset) {block : BlockHeader}
    (stands : block.StandsAt data offset) (low : offset + 0x20 ≤ place) (high : place < offset + block.size) :
    ¬data.Hint place := by
  intro hint
  have start := scanned.le
  have holdsHeader := laid.holdsHeader
  have apart := laid.apart
  obtain ⟨other, also, above, below, hinted⟩ := hint.scanned (by omega)
  by_cases before : offset < other
  · obtain ⟨standing, there, ends⟩ := scanned.apart also before
    rw [there.unique stands] at ends
    omega
  · omega

end LaidOut

namespace SameButHints

variable {first second : Bytes} (same : first.SameButHints second)

include same

theorem field (offset width : Nat)
    (free : ∀ place, offset ≤ place → place < offset + width → ¬first.Hint place) :
    first.field offset width = second.field offset width :=
  field_congr fun place low high => same.rest place (free place low high)

theorem number (offset width : Nat)
    (free : ∀ place, offset ≤ place → place < offset + width → ¬first.Hint place) :
    first.number offset width = second.number offset width :=
  congrArg littleEndian (same.field offset width free)

/-- The scan makes the same of both files, and finds their blocks equal but for hints. -/
theorem scansAlike (laid : first.LaidOut) {offset : Nat} (scanned : first.Scanned offset)
    (held : offset + 32 ≤ first.length) :
    ScansAlike (fun offset => first.LaidOut ∧ first.Scanned offset) first.length offset
      (first.field offset 32) (second.field offset 32) := by
  have also : offset + 32 ≤ second.length := same.length ▸ held
  have free (low width : Nat) (among : low + width ≤ 0x08 ∨ 0x10 ≤ low ∧ low + width ≤ 0x14) :
      first.field (offset + low) width = second.field (offset + low) width :=
    same.field _ _ fun place above below => laid.not_hint_of_block scanned (by omega) (by omega)
  have signature : first.field offset 4 = second.field offset 4 := free 0 4 (by omega)
  have size : first.number (offset + 0x04) 4 = second.number (offset + 0x04) 4 :=
    congrArg littleEndian (free 0x04 4 (by omega))
  have usedSize : first.number (offset + 0x10) 4 = second.number (offset + 0x10) 4 :=
    congrArg littleEndian (free 0x10 4 (by omega))
  constructor
  · rw [Bool.eq_iff_iff, Signature.opens_iff, Signature.opens_iff, field_field (by decide),
      field_field (by decide), Nat.add_zero, signature]
  · intro opens
    rw [Signature.opens_iff, field_field (by decide), Nat.add_zero] at opens
    rw [BlockHeader.parse_field held opens, BlockHeader.parse_field also (signature ▸ opens)]
    by_cases holdsHeader : 32 ≤ first.number (offset + 0x04) 4
    · have holdsAlso : 32 ≤ second.number (offset + 0x04) 4 := size ▸ holdsHeader
      rw [dif_pos holdsHeader, dif_pos holdsAlso]
      refine .value ⟨?_, fun inside => ⟨laid, ?_⟩⟩
      · simp only [BlockHeader.plain, size, usedSize]
      · obtain ⟨blocks, run⟩ := scanned
        exact ⟨_, run.snoc ⟨rfl, opens, rfl, rfl, rfl, rfl, inside⟩⟩
    · have lacksAlso : ¬32 ≤ second.number (offset + 0x04) 4 := size ▸ holdsHeader
      rw [dif_neg holdsHeader, dif_neg lacksAlso, size]
      exact .error _

variable {left right : Source} (here : left.Offers first) (there : right.Offers second)

include here there

/-- What is read without hints is the same. -/
theorem fetch (offset length : Nat)
    (free : ∀ place, offset ≤ place → place < offset + length → ¬first.Hint place) :
    left.fetch offset length = right.fetch offset length := by
  rw [here.fetch, there.fetch, reads, reads, same.length, same.field offset length free]

theorem headedAlike (apart : 0x20 + first.number 0x24 4 ≤ first.number 0x08 4) (long : 64 ≤ first.length) :
    left.HeadedAlike right (· = first.number 0x08 4)
      (fun offset => first.LaidOut ∧ first.Scanned offset) := by
  have also : 64 ≤ second.length := same.length ▸ long
  have fields (offset width : Nat) (among : offset + width ≤ 0x04 ∨ 0x08 ≤ offset ∧ offset + width ≤ 0x0C ∨
      0x20 ≤ offset ∧ offset + width ≤ 0x28) : first.field offset width = second.field offset width :=
    same.field offset width fun place low high => not_hint_of_headers (by omega) (by omega)
  have signature := fields 0x00 4 (by omega)
  have start : first.number 0x08 4 = second.number 0x08 4 := congrArg littleEndian (fields 0x08 4 (by omega))
  have navigation := fields 0x20 4 (by omega)
  have size : first.number 0x24 4 = second.number 0x24 4 := congrArg littleEndian (fields 0x24 4 (by omega))
  constructor
  · rw [here.size, there.size, same.length]
  · rw [here.fetch, there.fetch, reads_inside (by simp [FileHeader.byteSize]; omega),
      reads_inside (by simp [FileHeader.byteSize]; omega)]
    refine .value ?_
    simp only [FileHeader.byteSize]
    rw [FileHeader.parse_field long, FileHeader.parse_field also, ← signature]
    split
    · exact .value ⟨start, rfl⟩
    · exact .error _
  · rw [here.fetch, there.fetch,
      reads_inside (by simp [Navigation.start, Navigation.headerSize, FileHeader.byteSize]; omega),
      reads_inside (by simp [Navigation.start, Navigation.headerSize, FileHeader.byteSize]; omega)]
    refine .value ?_
    simp only [Navigation.start, Navigation.headerSize, FileHeader.byteSize]
    rw [Navigation.parse_field long, Navigation.parse_field also, ← navigation, ← size]
    split
    · split
      · rename_i holdsHeader
        have laid : first.LaidOut := ⟨holdsHeader, apart⟩
        have root : first.number 0x28 4 = second.number 0x28 4 :=
          same.number 0x28 4 fun place low high => laid.not_hint_of_root low high
        refine .value ⟨?_, fun _ offset starts => ⟨laid, [], ?_⟩⟩
        · simp only [Hive.ofFields, size, root]
        · rw [starts]
          exact .nil _
      · exact .error _
    · exact .error _
  · intro offset reached held
    obtain ⟨laid, scanned⟩ := reached
    rw [here.size] at held ⊢
    rw [here.fetch, there.fetch, reads_inside held, reads_inside (same.length ▸ held)]
    exact .value (same.scansAlike laid scanned held)

/-- What operations on an open file read is free of hints. -/
theorem staysIn (apart : 0x20 + first.number 0x24 4 ≤ first.number 0x08 4) {codepage : Codepage}
    {hive : Hive} (opens : first.reads.attach first.length codepage = .ok hive) :
    hive.StaysIn fun offset length => left.fetch offset length = right.fetch offset length := by
  obtain ⟨blocks, verdict, rfl⟩ := Reads.verdict_of_attach opens
  obtain ⟨fit, list⟩ := Verdict.ok_iff.mp verdict
  have laid : first.LaidOut := ⟨fit.holdsHeader, apart⟩
  constructor
  · intro offset ⟨low, high⟩
    have inside : offset + 28 ≤ first.number 0x24 4 := high
    refine same.fetch here there _ _ fun place above below => ?_
    simp only [Navigation.absolute, Navigation.start, Navigation.headerSize, FileHeader.byteSize,
      HierarchyEntry.byteSize] at low above below
    exact not_hint_of_hierarchy (by omega) (by omega)
  · intro block member
    obtain ⟨scanned, stands⟩ := list.of_mem member
    have long := block.holdsHeader
    refine same.fetch here there _ _ fun place above below => ?_
    simp only [BlockHeader.dataOffset, BlockHeader.dataSize, BlockHeader.byteSize] at above below
    exact laid.not_hint_of_area scanned stands (by omega) (by omega)

theorem sources_alike (apart : 0x20 + first.number 0x24 4 ≤ first.number 0x08 4) (long : 64 ≤ first.length) :
    left.Alike Hive.Resembles right := by
  have headed := same.headedAlike here there apart long
  refine ⟨headed.sizes, fun codepage => (Hive.alike_attach headed codepage).and ?_⟩
  intro initial other hive found sessions ours _ resembles
  have reading := (Hive.steady_attach initial codepage).eq_of_ok rfl ours
  rw [sessions.left_fetch, sessions.left_size, here.fetch, here.size] at reading
  exact ⟨resembles, same.staysIn here there apart reading⟩

end SameButHints

end Bytes

theorem Hive.likeness_resembles : Hive.Likeness Hive.Resembles where
  refl _ := ⟨rfl, rfl, rfl⟩
  resembles same := same
  recoded same _ := ⟨same.navigation, rfl, same.dataBlocks⟩

/-- Whether places offer the two files. -/
def Place.Offer (first second : Bytes) (place other : Place) : Prop :=
  place.Offers first ∧ other.Offers second

/-- Files that differ at most in hints are opened or refused alike, and answer the same; only what they say of
their versions may differ. -/
theorem hints_never_steer {first second : Bytes} (same : first.SameButHints second)
    (apart : 0x20 + first.number 0x24 4 ≤ first.number 0x08 4) :
    (∀ {requests asked : List Request},
      List.Forall₂ (Request.Alike (Place.Offer first second)) requests asked →
      let usage := Usage.serveAll {} requests
      let other := Usage.serveAll {} asked
      List.Forall₂ (Record.Agree Request.TellsVersion) usage.log other.log ∧
        usage.file.isOpen = other.file.isOpen ∧ usage.file.raised = other.file.raised ∧
        usage.file.codepage = other.file.codepage) ∧
    ∀ {place other : Place}, Place.Offer first second place other → ∀ signals,
      Agree (fun opened found => ∀ history,
          (opened.after history).hive.Resembles (found.after history).hive ∧
          (opened.after history).session.raised = (found.after history).session.raised ∧
          ∀ {α : Type} (operation : Operation α),
            (opened.after history).answer operation = (found.after history).answer operation)
        (place.openHive signals) (other.openHive signals) := by
  have alike : first.Alike Hive.Resembles second :=
    ⟨same.length, fun long _ _ here there => same.sources_alike here there apart long⟩
  constructor
  · intro requests asked paired usage other
    have places : List.Forall₂ (Request.Alike (Place.Alike Hive.Resembles)) requests asked :=
      paired.imp fun _ _ requests => requests.imp fun ⟨offers, also⟩ => ⟨first, second, offers, also, alike⟩
    have goes : Usage.Alike Hive.Resembles Request.TellsVersion usage other :=
      Usage.alike_of_places Hive.likeness_resembles (fun _ tells => .inl tells) places
    exact ⟨goes.logs, goes.files.isOpen, goes.files.raised, goes.files.codepage⟩
  · intro place other ⟨offers, also⟩ signals
    refine (offers.openHive also alike signals).imp fun opened found alike history => ?_
    have later := alike.after Hive.likeness_resembles history
    exact ⟨later.hives, later.raised, later.answer_eq Hive.likeness_resembles⟩

/-- A file with one data block, and the same file of another version, with other counts and another number in
the header of the block. -/
theorem hints_never_steer_renumbered_block :
    let headers : Bytes := Signature.file.bytes ++ .ofNumber 2 0 ++ .ofNumber 2 1 ++ .ofNumber 4 92 ++
      .zeros 20 ++ Signature.navigation.bytes ++ .ofNumber 4 60 ++ .ofNumber 4 32 ++ .zeros 48
    let entry : Bytes := Bytes.ofNumber 4 21 ++ .zeros 4 ++ .ofNumber 4 21 ++ .ofNumber 2 1 ++
      .zeros 6 ++ [0x41]
    let block : Bytes := Signature.dataBlock.bytes ++ .ofNumber 4 53 ++ .zeros 8 ++ .ofNumber 4 53 ++
      .zeros 12 ++ entry
    let first : Bytes := headers ++ block
    let second : Bytes := (((first.set 0x06 3).set 0x10 7).set 0x2C 1).set 0x6A 9
    let place : Place := .path "SYSTEM.DAT" (.file first.toArray)
    let other : Place := .path "SYSTEM.DAT" (.file second.toArray)
    let requests (place : Place) : List Request :=
      [.opening place .read .never, .reading .rootKey, .formatVersion]
    first.SameButHints second ∧ 0x20 + first.number 0x24 4 ≤ first.number 0x08 4 ∧
      Place.Offer first second place other ∧
      List.Forall₂ (Record.Agree Request.TellsVersion) (Usage.serveAll {} (requests place)).log
        (Usage.serveAll {} (requests other)).log ∧
      Agree (fun opened found => opened.answer .rootKey = found.answer .rootKey)
        (place.openHive .never) (other.openHive .never) := by
  intro headers entry block first second place other requests
  have start : first.number 0x08 4 = 92 := by decide +kernel
  have size : first.number 0x24 4 = 60 := by decide +kernel
  have scanned : first.Scanned 92 := by
    rw [← start]
    exact ⟨[], .nil _⟩
  have same : first.SameButHints second := by
    refine ⟨by simp only [second, List.length_set], fun index free => ?_⟩
    have version : index ≠ 0x06 := fun here => free (.version (by omega) (by omega))
    have count : index ≠ 0x10 := fun here => free (.numberOfBlocks (by omega) (by omega))
    have unknown : index ≠ 0x2C := fun here => free (.navigation (by omega) (by omega))
    have number : index ≠ 0x6A := fun here => free (.ofBlock scanned (by omega) (by omega))
    rw [List.getElem?_set_ne number.symm, List.getElem?_set_ne unknown.symm,
      List.getElem?_set_ne count.symm, List.getElem?_set_ne version.symm]
  have apart : 0x20 + first.number 0x24 4 ≤ first.number 0x08 4 := by omega
  have offer : Place.Offer first second place other :=
    ⟨.file (by decide) first.toArray, .file (by decide) second.toArray⟩
  have paired : List.Forall₂ (Request.Alike (Place.Offer first second)) (requests place) (requests other) :=
    .cons (.opening offer .read .never) (.cons (.same _) (.cons (.same _) .nil))
  refine ⟨same, apart, offer, ((hints_never_steer same apart).1 paired).1, ?_⟩
  exact ((hints_never_steer same apart).2 offer .never).imp fun _ _ alike => (alike []).2.2 .rootKey

end RegistryHive
