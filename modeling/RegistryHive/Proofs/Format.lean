import RegistryHive.File
import RegistryHive.Proofs.BlockList

/-! Which byte strings are registry files. Opening accepts exactly these, with the data blocks that stand
in them, and rejects all others for the first condition of the format that they violate. -/
namespace RegistryHive

/-- Whether the two headers of a registry file are in place. -/
structure HeadersFit (data : Bytes) : Prop where
  long : 64 ≤ data.length
  file : data.field 0x00 4 = Signature.file.bytes
  navigation : data.field 0x20 4 = Signature.navigation.bytes
  holdsHeader : 32 ≤ data.number 0x24 4
  inside : 0x20 + data.number 0x24 4 ≤ data.length

/-- What opening makes of a byte string: the headers of its data blocks, or the error of the condition
that it violates first. -/
inductive Verdict (data : Bytes) : Except Error (List BlockHeader) → Prop where
  | short (short : data.length < 64) : Verdict data (.error (.fileTooSmall data.length 64))
  | notFile (long : 64 ≤ data.length) (other : data.field 0x00 4 ≠ Signature.file.bytes) :
      Verdict data (.error (.invalidSignature Signature.file.bytes (data.field 0x00 4)))
  | noNavigation (long : 64 ≤ data.length) (file : data.field 0x00 4 = Signature.file.bytes)
      (other : data.field 0x20 4 ≠ Signature.navigation.bytes) :
      Verdict data (.error (.invalidSignature Signature.navigation.bytes (data.field 0x20 4)))
  | undersized (long : 64 ≤ data.length) (file : data.field 0x00 4 = Signature.file.bytes)
      (navigation : data.field 0x20 4 = Signature.navigation.bytes)
      (small : data.number 0x24 4 < 32) :
      Verdict data (.error (.invalidFormat (.navigationSize (data.number 0x24 4))))
  | oversized (long : 64 ≤ data.length) (file : data.field 0x00 4 = Signature.file.bytes)
      (navigation : data.field 0x20 4 = Signature.navigation.bytes)
      (holdsHeader : 32 ≤ data.number 0x24 4) (large : data.length < 0x20 + data.number 0x24 4) :
      Verdict data (.error (.truncated 0x20 (data.number 0x24 4) (data.length - 0x20)))
  | blocks (fit : HeadersFit data) (list : BlockList data (data.number 0x08 4) result) :
      Verdict data result

/-- The hive that the headers of `data` describe, with these data blocks. -/
def Hive.ofFields (data : Bytes) (codepage : Codepage) (dataBlocks : List BlockHeader) : Hive where
  header := {
    majorVersion := data.number 0x06 2
    minorVersion := data.number 0x04 2
    dataBlocksOffset := data.number 0x08 4
    numberOfDataBlocks := data.number 0x10 2 }
  navigation := { size := data.number 0x24 4, root := data.number 0x28 4 }
  dataBlocks
  codepage

variable {data : Bytes}

theorem FileHeader.parse_field (long : 64 ≤ data.length) :
    parse (data.field 0 32) =
      if data.field 0x00 4 = Signature.file.bytes then
        .ok (Hive.ofFields data .standard []).header
      else .error (.invalidSignature Signature.file.bytes (data.field 0x00 4)) := by
  have length : (data.field 0 32).length = 32 := Bytes.length_field (by omega)
  have held : (data.field 0 32).holds byteSize = true :=
    Bytes.holds_iff.mpr (by simp [length, byteSize])
  unfold parse
  rw [Signature.check_eq _ (by omega), Bytes.u16At_eq (by omega), Bytes.u16At_eq (by omega),
    Bytes.u32At_eq (by omega), Bytes.u16At_eq (by omega), Bytes.field_field (by decide),
    Bytes.number_field (by decide), Bytes.number_field (by decide), Bytes.number_field (by decide),
    Bytes.number_field (by decide)]
  simp only [require, held, if_true, Nat.zero_add]
  split
  · rfl
  · rfl

theorem Navigation.parse_field (long : 64 ≤ data.length) :
    parse (data.field 0x20 32) =
      if data.field 0x20 4 = Signature.navigation.bytes then
        if 32 ≤ data.number 0x24 4 then .ok (Hive.ofFields data .standard []).navigation
        else .error (.invalidFormat (.navigationSize (data.number 0x24 4)))
      else .error (.invalidSignature Signature.navigation.bytes (data.field 0x20 4)) := by
  have length : (data.field 0x20 32).length = 32 := Bytes.length_field (by omega)
  have held : (data.field 0x20 32).holds 32 = true := Bytes.holds_iff.mpr (by simp [length])
  unfold parse
  rw [Signature.check_eq _ (by omega), Bytes.u32At_eq (by omega), Bytes.u32At_eq (by omega),
    Bytes.field_field (by decide), Bytes.number_field (by decide), Bytes.number_field (by decide)]
  simp only [require, headerSize, held, if_true, Nat.add_zero, Nat.reduceAdd, bind, Except.bind]
  by_cases named : data.field 0x20 4 = Signature.navigation.bytes
  · simp only [if_pos named]
    by_cases holdsHeader : 32 ≤ data.number 0x24 4
    · simp only [holdsHeader, if_true]
      rfl
    · simp only [holdsHeader, if_false]
  · simp only [if_neg named]

namespace Reads

/-- Whether the reads begin with the 64 bytes that `data` begins with. -/
structure StartsAs (reads : Reads) (data : Bytes) : Prop where
  long : 64 ≤ data.length
  first : reads 0 FileHeader.byteSize = .ok (data.field 0 32)
  second : reads Navigation.start Navigation.headerSize = .ok (data.field 0x20 32)

theorem startsAs_self (long : 64 ≤ data.length) : data.reads.StartsAs data where
  long := long
  first := Bytes.reads_inside (by simp [FileHeader.byteSize]; omega)
  second := Bytes.reads_inside
    (by simp [Navigation.start, Navigation.headerSize, FileHeader.byteSize]; omega)

variable {reads : Reads} {size : Nat}

theorem attach_of_start (starts : reads.StartsAs data) (codepage : Codepage) :
    reads.attach size codepage = (do
      let header ← FileHeader.parse (data.field 0 32)
      let navigation ← Navigation.parse (data.field 0x20 32)
      require (0x20 + navigation.size ≤ size) (.truncated 0x20 navigation.size (size - 0x20))
      let dataBlocks ← reads.scan size header.dataBlocksOffset []
      return { header, navigation, dataBlocks, codepage }) := by
  unfold attach
  rw [starts.first, starts.second]
  rfl

/-- Headers that fit are followed by the scan for data blocks. -/
theorem attach_of_headers (starts : reads.StartsAs data)
    (file : data.field 0x00 4 = Signature.file.bytes)
    (navigation : data.field 0x20 4 = Signature.navigation.bytes)
    (holdsHeader : 32 ≤ data.number 0x24 4) (inside : 0x20 + data.number 0x24 4 ≤ size)
    (codepage : Codepage) :
    reads.attach size codepage =
      (reads.scan size (data.number 0x08 4) []).map (Hive.ofFields data codepage) := by
  have fits : 0x20 + (Hive.ofFields data .standard []).navigation.size ≤ size := inside
  rw [attach_of_start starts, FileHeader.parse_field starts.long, if_pos file,
    Navigation.parse_field starts.long, if_pos navigation, if_pos holdsHeader]
  have start : (Hive.ofFields data .standard []).header.dataBlocksOffset = data.number 0x08 4 := rfl
  simp only [bind, Except.bind, require, if_pos fits, start]
  cases reads.scan size (data.number 0x08 4) [] <;> rfl

/-- Opening gives what the bytes have. -/
theorem attach_of_verdict {result : Except Error (List BlockHeader)} (verdict : Verdict data result)
    (long : 64 ≤ data.length) (codepage : Codepage) :
    data.reads.attach data.length codepage = result.map (Hive.ofFields data codepage) := by
  have starts := startsAs_self long
  cases verdict with
  | short short => omega
  | notFile _ other =>
    rw [attach_of_start starts, FileHeader.parse_field long, if_neg other]
    rfl
  | noNavigation _ file other =>
    rw [attach_of_start starts, FileHeader.parse_field long, if_pos file,
      Navigation.parse_field long, if_neg other]
    rfl
  | undersized _ file navigation small =>
    rw [attach_of_start starts, FileHeader.parse_field long, if_pos file,
      Navigation.parse_field long, if_pos navigation, if_neg (by omega)]
    rfl
  | oversized _ file navigation holdsHeader large =>
    have outside : ¬0x20 + (Hive.ofFields data .standard []).navigation.size ≤ data.length :=
      Nat.not_le.mpr large
    rw [attach_of_start starts, FileHeader.parse_field long, if_pos file,
      Navigation.parse_field long, if_pos navigation, if_pos holdsHeader]
    simp only [bind, Except.bind, require, if_neg outside]
    rfl
  | blocks fit list =>
    rw [attach_of_headers starts fit.file fit.navigation fit.holdsHeader fit.inside,
      scan_of_list list]

end Reads

/-- Every byte string is either accepted or rejected. -/
theorem Verdict.exists (data : Bytes) : ∃ result, Verdict data result := by
  by_cases long : 64 ≤ data.length
  · by_cases file : data.field 0x00 4 = Signature.file.bytes
    · by_cases navigation : data.field 0x20 4 = Signature.navigation.bytes
      · by_cases holdsHeader : 32 ≤ data.number 0x24 4
        · by_cases inside : 0x20 + data.number 0x24 4 ≤ data.length
          · obtain ⟨result, list⟩ :=
              (BlockRun.nil (data.number 0x08 4) : BlockRun data _ [] _).exists_list
            exact ⟨result, .blocks ⟨long, file, navigation, holdsHeader, inside⟩ list⟩
          · exact ⟨_, .oversized long file navigation holdsHeader (Nat.not_le.mp inside)⟩
        · exact ⟨_, .undersized long file navigation (Nat.not_le.mp holdsHeader)⟩
      · exact ⟨_, .noNavigation long file navigation⟩
    · exact ⟨_, .notFile long file⟩
  · exact ⟨_, .short (Nat.not_le.mp long)⟩

theorem Verdict.ok_iff {blocks : List BlockHeader} :
    Verdict data (.ok blocks) ↔ HeadersFit data ∧ BlockList data (data.number 0x08 4) (.ok blocks) := by
  constructor
  · intro verdict
    cases verdict with
    | blocks fit list => exact ⟨fit, list⟩
  · intro ⟨fit, list⟩
    exact .blocks fit list

/-- Bytes that open have a list of data blocks, and opening finds it. -/
theorem Reads.verdict_of_attach {codepage : Codepage} {hive : Hive}
    (opens : data.reads.attach data.length codepage = .ok hive) :
    ∃ dataBlocks, Verdict data (.ok dataBlocks) ∧ hive = Hive.ofFields data codepage dataBlocks := by
  have long : 64 ≤ data.length := by
    obtain ⟨_, _, rest⟩ := exists_of_bind opens
    obtain ⟨_, _, rest⟩ := exists_of_bind rest
    obtain ⟨_, second, _⟩ := exists_of_bind rest
    by_cases inside : Navigation.start + Navigation.headerSize ≤ data.length
    · exact inside
    · rw [Bytes.reads, if_neg inside] at second
      cases second
  obtain ⟨result, verdict⟩ := Verdict.exists data
  rw [Reads.attach_of_verdict verdict long codepage] at opens
  cases result with
  | error error => cases opens
  | ok dataBlocks => exact ⟨dataBlocks, verdict, (Except.ok.inj opens).symm⟩

/-- Attaching a source that reports its true length comes to the verdict on its bytes. -/
theorem Hive.answer_attach {source : Source} (honest : source.Honest) {signals : Signals}
    (silent : ∀ event events, signals (event :: events) = 0) (codepage : Codepage)
    (long : 64 ≤ source.content.length) {result : Except Error (List BlockHeader)}
    (verdict : Verdict source.content result) :
    (Hive.attach codepage).answer { source, signals } =
        result.map (Hive.ofFields source.content codepage) ∧
      ((Hive.attach codepage).after { source, signals }).Quiet := by
  let session : Session := { source, signals }
  have quiet : session.Quiet := ⟨rfl, fun event events => silent event (events ++ [])⟩
  have steady := Hive.steady_attach session codepage
  have reading := Reads.attach_of_verdict verdict long codepage
  rw [← Source.fetch_of_honest_eq honest, ← honest.size_eq] at reading
  exact ⟨(steady.answer_eq rfl quiet).trans reading, steady.hushed session rfl quiet⟩

/-- Bytes with headers and data blocks in place can be attached. -/
theorem Hive.exists_attach {source : Source} (honest : source.Honest) (codepage : Codepage)
    {dataBlocks : List BlockHeader} (verdict : Verdict source.content (.ok dataBlocks)) :
    ∃ session, Hive.attach codepage { source } =
      .ok (Hive.ofFields source.content codepage dataBlocks) session ∧ session.Quiet := by
  have silent (event : Event) (events : List Event) : Signals.never (event :: events) = 0 := rfl
  obtain ⟨fit, _⟩ := Verdict.ok_iff.mp verdict
  obtain ⟨answered, quiet⟩ := Hive.answer_attach honest silent codepage fit.long verdict
  exact ⟨_, Action.eq_ok_of_answer answered, quiet⟩

namespace FileAction

variable {α β : Type}

theorem bind_of_ok {action : FileAction α} {next : α → FileAction β} {file after : File} {value : α}
    (gives : action file = .ok value after) : (action >>= next) file = next value after := by
  simp only [bind, EStateM.bind, gives]

theorem bind_lift (result : Except Error α) (next : α → FileAction β) (file : File) :
    ((liftM result : FileAction α) >>= next) file =
      match result with
      | .ok value => next value file
      | .error error => .error error file := by
  cases result <;> rfl

end FileAction

theorem File.checkCanOpen_closed (operation : String) (codepage : Codepage) :
    checkCanOpen operation .read { codepage } = .ok () { codepage } := rfl

namespace File

variable {source : Source} {signals : Signals} {codepage : Codepage} {session : Session}

theorem attach_of_ok {hive : Hive}
    (attached : Hive.attach codepage { source, signals } = .ok hive session) :
    File.attach source signals { codepage } = .ok () ⟨codepage, .opened hive session⟩ := by
  simp only [File.attach, raised, attached]

theorem attach_of_error {error : Error}
    (failed : Hive.attach codepage { source, signals } = .error error session) :
    File.attach source signals { codepage } = .error error ⟨codepage, .closed session.raised⟩ := by
  simp only [File.attach, raised, failed]

end File

/-- The ways to open a file of these bytes: by its path, or as a stream, wherever the cursor is. -/
inductive Opening (content : Array UInt8) (signals : Signals) : FileAction Unit → Prop where
  | path (path : String) (named : path.isEmpty = false) :
      Opening content signals (File.openPath path (.file content) .read signals)
  | stream (cursor : Nat) :
      Opening content signals (File.openStream ⟨content, content.size, cursor⟩ .read signals)

namespace Opening

variable {content : Array UInt8} {signals : Signals} {opening : FileAction Unit}

/-- Both ways come to a source that serves the bytes, unless they are too few. -/
theorem attaches (opens : Opening content signals opening) (codepage : Codepage) :
    ∃ source : Source, source.Honest ∧ source.content = content.toList ∧
      opening { codepage } =
        if content.size < 64 then .error (.fileTooSmall content.size 64) { codepage }
        else File.attach source signals { codepage } := by
  cases opens with
  | path path named =>
    refine ⟨.mapped content, .mapped content, rfl, ?_⟩
    unfold File.openPath
    rw [FileAction.bind_of_ok (File.checkCanOpen_closed "open" codepage), FileAction.bind_lift]
    simp only [require, named, Bool.not_false, if_true]
    rw [FileAction.bind_lift]
    simp only [Source.ofPath, Hive.minimumSize, FileHeader.byteSize, Navigation.headerSize]
    by_cases small : content.size < 64
    · simp only [small, if_true]
    · simp only [small, if_false]
  | stream cursor =>
    refine ⟨.stream ⟨content, content.size, 0⟩, .stream rfl, rfl, ?_⟩
    unfold File.openStream
    rw [FileAction.bind_of_ok (File.checkCanOpen_closed "open_stream" codepage),
      FileAction.bind_lift]
    simp only [Source.ofStream, Hive.minimumSize, FileHeader.byteSize, Navigation.headerSize]
    by_cases small : content.size < 64
    · simp only [small, if_true]
    · simp only [small, if_false]
      rfl

/-- Enough bytes are attached, which comes to the verdict on them and calls no signal forth. -/
theorem attach_of_verdict (opens : Opening content signals opening)
    (silent : ∀ event events, signals (event :: events) = 0) (codepage : Codepage)
    (long : 64 ≤ content.size) {result : Except Error (List BlockHeader)}
    (verdict : Verdict content.toList result) :
    ∃ source : Source, source.fetch = Bytes.reads content.toList ∧
      opening { codepage } = File.attach source signals { codepage } ∧
      (Hive.attach codepage).answer { source, signals } =
        result.map (Hive.ofFields content.toList codepage) ∧
      ((Hive.attach codepage).after { source, signals }).Quiet := by
  obtain ⟨source, honest, same, runs⟩ := opens.attaches codepage
  rw [← same] at verdict
  obtain ⟨answered, quiet⟩ := Hive.answer_attach honest silent codepage (by rw [same]; exact long) verdict
  rw [same] at answered
  refine ⟨source, ?_, ?_, answered, quiet⟩
  · rw [Source.fetch_of_honest_eq honest, same]
  · rw [runs, if_neg (Nat.not_lt.mpr long)]

/-- Opening comes to the verdict on the bytes, and leaves the handle closed if it fails. -/
theorem run_of_verdict (opens : Opening content signals opening)
    (silent : ∀ event events, signals (event :: events) = 0) (codepage : Codepage)
    {result : Except Error (List BlockHeader)} (verdict : Verdict content.toList result) :
    match result with
    | .ok dataBlocks => ∃ session, opening { codepage } = .ok ()
        ⟨codepage, .opened (Hive.ofFields content.toList codepage dataBlocks) session⟩
    | .error error => opening { codepage } = .error error { codepage } := by
  by_cases long : 64 ≤ content.size
  · obtain ⟨source, _, runs, answered, quiet⟩ := opens.attach_of_verdict silent codepage long verdict
    rw [runs]
    cases result with
    | ok dataBlocks => exact ⟨_, File.attach_of_ok (Action.eq_ok_of_answer answered)⟩
    | error error =>
      rw [File.attach_of_error (Action.eq_error_of_answer answered), quiet.lowered]
  · obtain ⟨_, _, _, runs⟩ := opens.attaches codepage
    rw [runs, if_pos (Nat.not_le.mp long)]
    cases verdict with
    | short _ => rfl
    | blocks fit _ => exact absurd fit.long long
    | notFile enough _ | noNavigation enough _ _ | undersized enough _ _ _
    | oversized enough _ _ _ _ => exact absurd enough long

/-- Nothing but the verdict on the bytes decides how opening ends. -/
theorem verdict_of_run (opens : Opening content signals opening)
    (silent : ∀ event events, signals (event :: events) = 0) (codepage : Codepage) :
    (∀ file, opening { codepage } = .ok () file → ∃ dataBlocks session,
      file = ⟨codepage, .opened (Hive.ofFields content.toList codepage dataBlocks) session⟩ ∧
      Verdict content.toList (.ok dataBlocks)) ∧
    ∀ error file, opening { codepage } = .error error file →
      Verdict content.toList (.error error) ∧ file = { codepage } := by
  obtain ⟨result, verdict⟩ := Verdict.exists content.toList
  have ended := opens.run_of_verdict silent codepage verdict
  cases result with
  | ok dataBlocks =>
    obtain ⟨session, succeeds⟩ := ended
    constructor
    · intro file run
      rw [succeeds] at run
      cases run
      exact ⟨dataBlocks, session, rfl, verdict⟩
    · intro error file run
      rw [succeeds] at run
      cases run
  | error error =>
    constructor
    · intro file run
      rw [ended] at run
      cases run
    · intro found file run
      rw [ended] at run
      cases run
      exact ⟨verdict, rfl⟩

end Opening

/-- Opening succeeds exactly on the byte strings whose headers fit and whose data blocks reach their end.
It finds those data blocks, one after another; otherwise it fails for the first condition violated. -/
theorem opening_iff_format {content : Array UInt8} {signals : Signals} {opening : FileAction Unit}
    (opens : Opening content signals opening)
    (silent : ∀ event events, signals (event :: events) = 0) (codepage : Codepage) :
    let data : Bytes := content.toList
    let start := data.number 0x08 4
    ((∃ file, opening { codepage } = .ok () file) ↔
      HeadersFit data ∧ ∃ dataBlocks, BlockList data start (.ok dataBlocks)) ∧
    (∀ file, opening { codepage } = .ok () file → ∃ hive session,
      file = ⟨codepage, .opened hive session⟩ ∧
      (∀ dataBlocks, BlockList data start (.ok dataBlocks) ↔ hive.dataBlocks = dataBlocks) ∧
      BlockHeader.Consecutive start hive.dataBlocks) ∧
    ∀ error file, opening { codepage } = .error error file ↔
      Verdict data (.error error) ∧ file = { codepage } := by
  intro data start
  obtain ⟨accepted, rejected⟩ := opens.verdict_of_run silent codepage
  refine ⟨⟨?_, ?_⟩, ?_, ?_⟩
  · intro ⟨file, run⟩
    obtain ⟨dataBlocks, session, _, verdict⟩ := accepted file run
    obtain ⟨fit, list⟩ := Verdict.ok_iff.mp verdict
    exact ⟨fit, dataBlocks, list⟩
  · intro ⟨fit, dataBlocks, list⟩
    obtain ⟨session, run⟩ := opens.run_of_verdict silent codepage (Verdict.blocks fit list)
    exact ⟨_, run⟩
  · intro file run
    obtain ⟨dataBlocks, session, same, verdict⟩ := accepted file run
    obtain ⟨_, list⟩ := Verdict.ok_iff.mp verdict
    refine ⟨_, session, same, ?_, list.consecutive⟩
    intro other
    constructor
    · intro listed
      exact Except.ok.inj (list.unique listed)
    · intro equal
      rw [← equal]
      exact list
  · intro error file
    constructor
    · exact rejected error file
    · intro ⟨verdict, same⟩
      rw [same]
      exact opens.run_of_verdict silent codepage verdict

/-- A file with one empty data block. -/
theorem opening_iff_format_one_block :
    let headers : Bytes := Signature.file.bytes ++ .ofNumber 2 0 ++ .ofNumber 2 1 ++ .ofNumber 4 64 ++
      .zeros 20 ++ Signature.navigation.bytes ++ .ofNumber 4 32 ++ .zeros 24
    let block : Bytes := Signature.dataBlock.bytes ++ .ofNumber 4 32 ++ .zeros 24
    let content : Array UInt8 := (headers ++ block).toArray
    (∀ event events, Signals.never (event :: events) = 0) ∧
    Opening content .never (File.openStream (Stream.ofBytes content) .read) ∧
    ∃ file, File.openStream (Stream.ofBytes content) .read .never {} = .ok () file := by
  intro headers block content
  have silent (event : Event) (events : List Event) : Signals.never (event :: events) = 0 := rfl
  have opens : Opening content .never (File.openStream (Stream.ofBytes content) .read) := .stream 0
  have fit : HeadersFit content.toList :=
    ⟨by decide, by decide, by decide, by decide, by decide⟩
  have stands : BlockHeader.StandsAt ⟨64, 32, 0, 0, 0, by decide⟩ content.toList 64 :=
    ⟨by decide, by decide, by decide, by decide, by decide, by decide, by decide⟩
  have list : BlockList content.toList 64 (.ok [⟨64, 32, 0, 0, 0, by decide⟩]) :=
    .run (.cons stands (.nil 96)) (by simp) (by decide)
  exact ⟨silent, opens, (opening_iff_format opens silent .standard).1.mpr ⟨fit, _, list⟩⟩

end RegistryHive
