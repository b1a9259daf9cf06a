import RegistryHive.Proofs.Format
import RegistryHive.Proofs.Operation

/-! What came before an operation has no part in its answer. After every history of an open file, failed
and aborted operations included, the caches hold what the file says, and the next operation answers
as on the same file freshly opened. -/
namespace RegistryHive

/-- An open file between two operations. -/
structure Opened where
  hive : Hive
  session : Session

/-- What can happen to an open file. Signals come between operations, and during them as the session
says. -/
inductive Happening where
  | operation {α : Type} (operation : Operation α)
  | codepage (codepage : Codepage)
  | signal

namespace Opened

def step (opened : Opened) : Happening → Opened
  | .operation operation =>
    { opened with session := (operation.run opened.hive).after opened.session }
  | .codepage codepage => { opened with hive := { opened.hive with codepage } }
  | .signal => { opened with session := { opened.session with raised := true } }

/-- The open file after a history. -/
def after (opened : Opened) (history : List Happening) : Opened := history.foldl step opened

/-- The headers are those of `hive`, and the caches hold what the reads give. -/
structure Follows (opened : Opened) (hive : Hive) (reads : Reads) : Prop where
  recoded : opened.hive = { hive with codepage := opened.hive.codepage }
  faithful : opened.session.store.Faithful hive.dataBlocks reads

namespace Follows

variable {opened : Opened} {hive : Hive} {reads : Reads}

theorem dataBlocks (follows : opened.Follows hive reads) :
    opened.hive.dataBlocks = hive.dataBlocks := by
  rw [follows.recoded]

theorem access (follows : opened.Follows hive reads) :
    reads.access opened.hive = reads.access hive := by
  rw [follows.recoded]
  rfl

theorem faithful_own (follows : opened.Follows hive reads) :
    opened.session.store.Faithful opened.hive.dataBlocks reads := by
  rw [follows.dataBlocks]
  exact follows.faithful

theorem fetched (follows : opened.Follows hive reads) : opened.session.source.fetch = reads :=
  opened.session.source.fetch_rewound.symm.trans follows.faithful.agrees

theorem step (follows : opened.Follows hive reads) (happening : Happening) :
    (opened.step happening).Follows hive reads := by
  cases happening with
  | operation operation =>
    refine ⟨follows.recoded, ?_⟩
    have kept := (operation.steady_run opened.hive).keeps opened.session follows.faithful_own
    rwa [follows.dataBlocks] at kept
  | codepage codepage =>
    refine ⟨?_, follows.faithful⟩
    simp only [Opened.step]
    rw [follows.recoded]
  | signal => exact ⟨follows.recoded, follows.faithful⟩

theorem after (follows : opened.Follows hive reads) (history : List Happening) :
    (opened.after history).Follows hive reads := by
  induction history generalizing opened with
  | nil => exact follows
  | cons happening rest ih => exact ih (follows.step happening)

/-- Operations and changes of the codepage call no signal forth. -/
theorem quiet_after (follows : opened.Follows hive reads) (quiet : opened.session.Quiet)
    (history : List Happening) (unsignalled : .signal ∉ history) :
    (opened.after history).session.Quiet := by
  induction history generalizing opened with
  | nil => exact quiet
  | cons happening rest ih =>
    refine ih (follows.step happening) ?_ fun member => unsignalled (List.mem_cons_of_mem _ member)
    cases happening with
    | operation operation =>
      exact (operation.steady_run opened.hive).hushed opened.session follows.faithful_own quiet
    | codepage codepage => exact quiet
    | signal => exact absurd List.mem_cons_self unsignalled

end Follows

/-- The answer of an operation on an open file. -/
abbrev answer (opened : Opened) {α : Type} (operation : Operation α) : Except Error α :=
  (operation.run opened.hive).answer opened.session

/-- Whether an operation on an open file gives a value. -/
def Gives (opened : Opened) {α : Type} (operation : Operation α) (value : α) : Prop :=
  (operation.run opened.hive).answer opened.session = .ok value

/-- What an operation gives is what the file says, also where a signal could have aborted it. -/
theorem Follows.reading_of_gives {opened : Opened} {hive : Hive} {reads : Reads}
    (follows : opened.Follows hive reads) {α : Type}
    {operation : Operation α} {value : α} (gives : opened.Gives operation value) :
    operation.reading (reads.access opened.hive) opened.hive.codepage = .ok value :=
  (operation.steady_run opened.hive).eq_of_ok follows.faithful_own gives

/-- With no signal to disturb it, an operation answers what the file says. -/
theorem Follows.answer_eq {opened : Opened} {hive : Hive} {reads : Reads}
    (follows : opened.Follows hive reads) (quiet : opened.session.Quiet)
    {α : Type} (operation : Operation α) :
    opened.answer operation = operation.reading (reads.access opened.hive) opened.hive.codepage :=
  (operation.steady_run opened.hive).answer_eq follows.faithful_own quiet

theorem Follows.gives_iff {opened : Opened} {hive : Hive} {reads : Reads}
    (follows : opened.Follows hive reads) (quiet : opened.session.Quiet)
    {α : Type} {operation : Operation α} {value : α} :
    opened.Gives operation value ↔
      operation.reading (reads.access opened.hive) opened.hive.codepage = .ok value := by
  change opened.answer operation = _ ↔ _
  rw [follows.answer_eq quiet]

/-- Whether an operation gives this value, in the codepage that is set, after every history that leaves
no signal pending or to come. -/
def Answers (opened : Opened) {α : Type} (operation : Operation α) (value : Codepage → α) : Prop :=
  ∀ history, (opened.after history).session.Quiet →
    (operation.run (opened.after history).hive).answer (opened.after history).session =
      .ok (value (opened.after history).hive.codepage)

theorem Follows.answers {opened : Opened} {hive : Hive} {reads : Reads}
    (follows : opened.Follows hive reads) {α : Type} {operation : Operation α} {value : Codepage → α}
    (gives : ∀ codepage, operation.reading (reads.access hive) codepage = .ok (value codepage)) :
    opened.Answers operation value := by
  intro history quiet
  have later := follows.after history
  refine (later.answer_eq quiet operation).trans ?_
  rw [later.access]
  exact gives (opened.after history).hive.codepage

end Opened

/-- Opening a source that no signal disturbs succeeds where it did before, and fills no cache. -/
theorem Hive.attach_again {source : Source} {signals : Signals} {raised : Bool}
    {codepage : Codepage} {hive : Hive} {session : Session}
    (opens : Hive.attach codepage { source, signals, raised } = .ok hive session)
    (other : Codepage) :
    ∃ fresh, Hive.attach other { source } = .ok { hive with codepage := other } fresh ∧
      fresh.Quiet ∧ fresh.store = ⟨source.rewound, ∅, ∅⟩ :=
  Hive.exists_session (Reads.attach_codepage (Hive.reads_of_attach opens) other)

theorem Opened.follows_of_attach {source : Source} {signals : Signals} {raised : Bool}
    {codepage : Codepage} {hive : Hive} {session : Session}
    (opens : Hive.attach codepage { source, signals, raised } = .ok hive session) :
    Opened.Follows ⟨hive, session⟩ hive source.fetch where
  recoded := rfl
  faithful := by
    rw [Hive.store_of_attach opens]
    exact .of_empty source.fetch_rewound rfl rfl

/-- The caches hold what reading, indexing and parsing afresh gives, and the answer to the next
operation is that on the same source freshly opened with the present codepage. All kinds of sources
are covered: what a read gives need only be a function of its place and length. -/
theorem answer_after_history {source : Source} {signals : Signals} {raised : Bool}
    {codepage : Codepage} {hive : Hive} {session : Session}
    (opens : Hive.attach codepage { source, signals, raised } = .ok hive session)
    (history : List Happening) {α : Type} (operation : Operation α) :
    let now := Opened.after ⟨hive, session⟩ history
    now.session.store.Faithful now.hive.dataBlocks source.fetch ∧
    (now.session.Quiet → ∃ fresh,
      Hive.attach now.hive.codepage { source } = .ok now.hive fresh ∧
      fresh.blocks = ∅ ∧ fresh.entries = ∅ ∧
      (operation.run now.hive).answer now.session = (operation.run now.hive).answer fresh) := by
  intro now
  have follows := (Opened.follows_of_attach opens).after history
  refine ⟨follows.faithful_own, ?_⟩
  intro quiet
  obtain ⟨fresh, reopens, freshQuiet, store⟩ := Hive.attach_again opens now.hive.codepage
  rw [← follows.recoded] at reopens
  have empty : fresh.store.Faithful now.hive.dataBlocks source.fetch := by
    rw [store]
    exact .of_empty source.fetch_rewound rfl rfl
  refine ⟨fresh, reopens, congrArg Store.blocks store, congrArg Store.entries store, ?_⟩
  calc (operation.run now.hive).answer now.session
      = operation.reading (Reads.access source.fetch now.hive) now.hive.codepage :=
        (operation.steady_run now.hive).answer_eq follows.faithful_own quiet
    _ = (operation.run now.hive).answer fresh :=
        ((operation.steady_run now.hive).answer_eq empty freshQuiet).symm

/-- A reader whose bytes from 92 to 120, a hierarchy entry, cannot be read: the name of a key after it was
read once, its sub keys could not be, and the codepage changed. -/
theorem answer_after_history_recoded :
    let headers : Bytes := Signature.file.bytes ++ .ofNumber 2 0 ++ .ofNumber 2 1 ++ .ofNumber 4 120 ++
      .zeros 20 ++ Signature.navigation.bytes ++ .ofNumber 4 88 ++ .ofNumber 4 32 ++ .zeros 76
    let entry : Bytes := Bytes.ofNumber 4 21 ++ .zeros 4 ++ .ofNumber 4 21 ++ .ofNumber 2 1 ++
      .zeros 6 ++ [0xE4]
    let block : Bytes := Signature.dataBlock.bytes ++ .ofNumber 4 53 ++ .zeros 8 ++ .ofNumber 4 53 ++
      .zeros 12 ++ entry
    let image := headers ++ block
    let reader : Reader := ⟨173, fun offset length =>
      if readable : (image.field offset length).length = length ∧ (offset + length ≤ 92 ∨ 120 ≤ offset) then
        .ok ⟨image.field offset length, readable.1⟩
      else .error (.other "unreadable")⟩
    let source : Source := .reader reader
    let key : Key := ⟨32, ⟨0, 0xFFFFFFFF, 60, 0xFFFFFFFF, 0, 0⟩⟩
    let history : List Happening :=
      [.operation (.name key), .operation (.subKeys key), .codepage .windows1251]
    ∃ hive session, Hive.attach .standard { source } = .ok hive session ∧
      Opened.answer ⟨hive, session⟩ (.subKeys key) = .error (.io (.other "unreadable")) ∧
      let now := Opened.after ⟨hive, session⟩ history
      now.session.Quiet ∧ ∃ fresh, Hive.attach .windows1251 { source } = .ok now.hive fresh ∧
        ((Operation.name key).run now.hive).answer now.session =
          ((Operation.name key).run now.hive).answer fresh := by
  intro headers entry block image reader source key history
  have served {offset length : Nat} (whole : (image.field offset length).length = length)
      (inside : offset + length ≤ 173) (apart : offset + length ≤ 92 ∨ 120 ≤ offset) :
      source.fetch offset length = .ok (image.field offset length) := by
    rw [Source.fetch_reader, if_pos inside]
    simp only [Reader.read, reader, whole, apart, and_self, dif_pos]
  have starts : Reads.StartsAs source.fetch image :=
    ⟨by decide +kernel, served (by decide +kernel) (by decide) (.inl (by decide)),
      served (by decide +kernel) (by decide) (.inl (by decide))⟩
  let header : BlockHeader := ⟨120, 53, 0, 0, 53, by decide⟩
  have scanned : Reads.scan source.fetch 173 (image.number 0x08 4) [] = .ok [header] := by
    have start : image.number 0x08 4 = 120 := by decide +kernel
    have opens : Signature.dataBlock.opens (image.field 120 32) = true := by decide +kernel
    have parsed : BlockHeader.parse (image.field 120 32) 120 = .ok header := rfl
    have read : source.fetch 120 BlockHeader.byteSize = .ok (image.field 120 32) :=
      served (by decide +kernel) (by decide) (.inr (by decide))
    have finished : Reads.scan source.fetch 173 header.nextOffset [header] = .ok [header] := by
      rw [Reads.scan, if_neg (by decide)]
      rfl
    rw [start, Reads.scan, if_pos (by decide), if_pos (by decide), read]
    simp only [bind, Except.bind, opens, if_true, parsed]
    exact finished
  let hive := Hive.ofFields image .standard [header]
  have attached : Reads.attach source.fetch 173 .standard = .ok hive := by
    rw [Reads.attach_of_headers starts (by decide +kernel) (by decide +kernel) (by decide +kernel)
      (by decide +kernel), scanned]
    rfl
  obtain ⟨session, opens, quiet, _⟩ := Hive.exists_session attached
  have follows := Opened.follows_of_attach opens
  have broken : Opened.answer ⟨hive, session⟩ (.subKeys key) = .error (.io (.other "unreadable")) := by
    have first : storedOffset key.entry.firstSubKey = some 60 := by decide
    have holds : hive.navigation.Holds 60 := by decide +kernel
    have missing : Reads.readKey source.fetch 60 = .error (.io (.other "unreadable")) := by
      rw [Reads.readKey, Source.fetch_reader]
      rfl
    rw [follows.answer_eq quiet]
    simp only [Operation.reading, Reads.access, Reads.chain, first]
    rw [Reads.chainFrom_of_holds _ (by decide) holds, missing]
    rfl
  have later := follows.quiet_after quiet history (by simp [history])
  obtain ⟨_, same⟩ := answer_after_history opens history (.name key)
  obtain ⟨reopened, reopens, _, _, equal⟩ := same later
  exact ⟨hive, session, opens, broken, later, reopened, reopens, equal⟩

end RegistryHive
