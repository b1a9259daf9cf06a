import RegistryHive.Proofs.Validation

namespace RegistryHive

/-- Questions to an open file, each of which may depend on the answers before it. The first error ends
them. -/
inductive Inquiry (α : Type) : Type 1 where
  | give (value : α)
  | ask {β : Type} (operation : Operation β) (next : β → Inquiry α)

namespace Inquiry

variable {α : Type}

def run (hive : Hive) : Inquiry α → Action α
  | give value => return value
  | ask operation next => do
    let answer ← operation.run hive
    (next answer).run hive

/-- What the file says in answer to an inquiry, in a codepage. -/
def reading (access : Access) (codepage : Codepage) : Inquiry α → Except Error α
  | give value => .ok value
  | ask operation next => do
    let answer ← operation.reading access codepage
    (next answer).reading access codepage

theorem steady_run {reads : Reads} (hive : Hive) (inquiry : Inquiry α) :
    Action.Steady (Store.Faithful hive.dataBlocks reads) (inquiry.run hive)
      (inquiry.reading (reads.access hive) hive.codepage) := by
  induction inquiry with
  | give value => exact .pure value
  | ask operation next ih => exact .bind (operation.steady_run hive) fun answer _ => ih answer

/-- Asked of a file that was just opened, an inquiry comes to what the file says. -/
theorem answer_run {source : Source} {codepage : Codepage} {hive : Hive} {session : Session}
    (opens : Hive.attach codepage { source } = .ok hive session) (inquiry : Inquiry α) :
    (inquiry.run hive).answer session =
      inquiry.reading (Reads.access source.fetch hive) hive.codepage := by
  have quiet : Session.Quiet { source } := ⟨rfl, fun _ _ => rfl⟩
  have left := (Hive.steady_attach { source } codepage).hushed _ rfl quiet
  rw [(Action.answer_of_eq opens).2] at left
  exact (inquiry.steady_run hive).answer_eq (Opened.follows_of_attach opens).faithful left

end Inquiry

/-- Whether a result is another one, or else an error that tells of corrupt data. -/
def SameOrCorrupt {α : Type} (found whole : Except Error α) : Prop :=
  found = whole ∨ ∃ error, found = .error error ∧ error.kind = .corruptData

namespace SameOrCorrupt

variable {α β : Type} {found whole : Except Error α}

theorem refl (result : Except Error α) : SameOrCorrupt result result := .inl rfl

theorem bind {next other : α → Except Error β} (first : SameOrCorrupt found whole)
    (rest : ∀ value, SameOrCorrupt (next value) (other value)) :
    SameOrCorrupt (found >>= next) (whole >>= other) := by
  rcases first with same | ⟨error, failed, corrupt⟩
  · rw [same]
    cases whole with
    | ok value => exact rest value
    | error error => exact refl _
  · rw [failed]
    exact .inr ⟨error, rfl, corrupt⟩

theorem map (first : SameOrCorrupt found whole) (change : α → β) :
    SameOrCorrupt (found.map change) (whole.map change) := by
  rcases first with same | ⟨error, failed, corrupt⟩
  · rw [same]
    exact refl _
  · rw [failed]
    exact .inr ⟨error, rfl, corrupt⟩

end SameOrCorrupt

theorem Chain.sameOrCorrupt_visit {β : Type} (chain : Chain)
    {visit other : β → Key → Except Error (ForInStep β)}
    (visits : ∀ state key, SameOrCorrupt (visit state key) (other state key)) (start : β) :
    SameOrCorrupt (chain.visit visit start) (chain.visit other start) := by
  obtain ⟨keys, failure⟩ := chain
  induction keys generalizing start with
  | nil => exact .refl _
  | cons key rest ih =>
    refine .bind (visits start key) fun step => ?_
    cases step with
    | done final => exact .refl _
    | yield following => exact ih following

/-- Whether one access has the keys of another, and its names and values where it does not find corrupt
data in their place. -/
structure Access.KeepsTo (cut whole : Access) : Prop where
  rootKey : cut.rootKey = whole.rootKey
  parent : cut.parent = whole.parent
  chain : cut.chain = whole.chain
  nameEntry : ∀ key, SameOrCorrupt (cut.nameEntry key) (whole.nameEntry key)

namespace Access.KeepsTo

variable {cut whole : Access} (keeps : cut.KeepsTo whole) (codepage : Codepage)

include keeps

theorem name (key : Key) : SameOrCorrupt (cut.name codepage key) (whole.name codepage key) :=
  .bind (keeps.nameEntry key) fun _ => .refl _

theorem views (key : Key) : SameOrCorrupt (cut.views key) (whole.views key) :=
  .bind (keeps.nameEntry key) fun _ => .refl _

theorem values (key : Key) : SameOrCorrupt (cut.values key) (whole.values key) :=
  .bind (keeps.views key) fun _ => .refl _

theorem value (key : Key) (index : Nat) :
    SameOrCorrupt (cut.value key index) (whole.value key index) :=
  .bind (.bind (keeps.nameEntry key) fun _ => .refl _) fun _ => .refl _

theorem valueByName (key : Key) (name : String) :
    SameOrCorrupt (cut.valueByName codepage key name) (whole.valueByName codepage key name) :=
  .bind (.bind (keeps.nameEntry key) fun _ => .refl _) fun _ => .refl _

theorem findSubKey (key : Key) (name : String) :
    SameOrCorrupt (cut.findSubKey codepage key name) (whole.findSubKey codepage key name) := by
  unfold Access.findSubKey
  rw [keeps.chain]
  refine Chain.sameOrCorrupt_visit _ (fun _ sub => ?_) none
  exact .bind (keeps.name codepage sub) fun _ => .refl _

theorem subKeyByName (key : Key) (name : String) :
    SameOrCorrupt (cut.subKeyByName codepage key name) (whole.subKeyByName codepage key name) :=
  .bind (keeps.findSubKey codepage key name) fun _ => .refl _

theorem descend (path : String) (key : Key) (segments : List String) :
    SameOrCorrupt (cut.descend codepage path key segments)
      (whole.descend codepage path key segments) := by
  induction segments generalizing key with
  | nil => exact .refl _
  | cons segment rest ih =>
    refine .bind (keeps.findSubKey codepage key segment) fun found => ?_
    cases found with
    | none => exact .refl _
    | some sub => exact ih sub

theorem operation {α : Type} (operation : Operation α) :
    SameOrCorrupt (operation.reading cut codepage) (operation.reading whole codepage) := by
  cases operation with
  | rootKey => exact .inl keeps.rootKey
  | keyByPath path =>
    simp only [Operation.reading, keeps.rootKey]
    exact .bind (.refl _) fun root => keeps.descend codepage path root _
  | parent key => exact .inl (congrFun keeps.parent key)
  | numberOfSubKeys key =>
    simp only [Operation.reading, keeps.chain]
    exact .refl _
  | subKey key index =>
    simp only [Operation.reading, keeps.chain]
    exact .refl _
  | subKeys key =>
    simp only [Operation.reading, keeps.chain]
    exact .refl _
  | subKeyByName key wanted => exact keeps.subKeyByName codepage key wanted
  | subKeyByPath key path => exact keeps.descend codepage path key _
  | name key => exact keeps.name codepage key
  | numberOfValues key => exact .map (keeps.views key) _
  | value key index => exact keeps.value key index
  | values key => exact keeps.values key
  | valueByName key wanted => exact keeps.valueByName codepage key wanted
  | valueName entry | parsed entry | number32 entry | number64 entry | text entry
  | binary entry => exact .refl _

theorem inquiry {α : Type} (inquiry : Inquiry α) :
    SameOrCorrupt (inquiry.reading cut codepage) (inquiry.reading whole codepage) := by
  induction inquiry with
  | give value => exact .refl _
  | ask operation next ih => exact .bind (keeps.operation codepage operation) ih

end Access.KeepsTo

/-- The first data blocks of a file give the same key name entries as all of them, as far as they go. -/
theorem Reads.keepsTo_of_prefix (reads : Reads) (hive : Hive) {first : List BlockHeader}
    (begins : first <+: hive.dataBlocks) :
    (reads.access { hive with dataBlocks := first }).KeepsTo (reads.access hive) := by
  have dataBlock (number : Nat) : SameOrCorrupt (reads.dataBlock first number)
      (reads.dataBlock hive.dataBlocks number) := by
    unfold Reads.dataBlock
    cases listed : first[number]? with
    | none => exact .inr ⟨_, rfl, rfl⟩
    | some header =>
      have same : hive.dataBlocks[number]? = some header := by
        obtain ⟨rest, whole⟩ := begins
        rw [← whole, List.getElem?_append_left (List.getElem?_eq_some_iff.mp listed).1]
        exact listed
      rw [same]
      exact .refl _
  have nameEntry (key : Key) : SameOrCorrupt (reads.nameEntry first key)
      (reads.nameEntry hive.dataBlocks key) := by
    unfold Reads.nameEntry
    cases key.entry.location with
    | none => exact .refl _
    | some location => exact .map (.bind (dataBlock location.block) fun _ => .refl _) some
  exact ⟨rfl, rfl, rfl, nameEntry⟩

namespace BlockRun

variable {data : Bytes} {start finish : Nat} {blocks all : List BlockHeader}

/-- Blocks from one offset onward are among those that reach the end of the file from there. -/
theorem prefix_of_reaches (run : BlockRun data start blocks finish) {last : Nat}
    (whole : BlockRun data start all last) (tail : data.length < last + 32) : blocks <+: all := by
  induction run generalizing all with
  | nil offset => exact List.nil_prefix
  | @cons offset blocks finish block stands rest ih =>
    have long := block.holdsHeader
    have inside := stands.inside
    cases whole with
    | nil => omega
    | cons other others =>
      have same := stands.unique other
      rw [← same] at others ⊢
      exact List.cons_prefix_cons.mpr ⟨rfl, ih others⟩

theorem prefix_of_list (run : BlockRun data start blocks finish)
    (list : BlockList data start (.ok all)) : blocks <+: all := by
  cases list with
  | beyond short => exact run.prefix_of_reaches (.nil start) short
  | absent held other =>
    cases run with
    | nil => exact List.nil_prefix
    | cons stands rest => exact absurd stands.signature other
  | run whole some tail => exact run.prefix_of_reaches whole tail

end BlockRun

section Beginning

variable {whole cut : Bytes} (begins : PartAt whole 0 cut)

include begins

theorem BlockHeader.StandsAt.of_beginning {block : BlockHeader} {offset : Nat}
    (stands : block.StandsAt cut offset) : block.StandsAt whole offset := by
  have long := block.holdsHeader
  have inside := stands.inside
  have enough := begins.inside
  have number (low width : Nat) (within : low + width ≤ 32) :
      whole.number (offset + low) width = cut.number (offset + low) width := by
    have same := begins.number (offset + low) width (by omega)
    rwa [Nat.zero_add] at same
  have signature := begins.field offset 4 (by omega)
  rw [Nat.zero_add] at signature
  refine ⟨stands.place, signature.trans stands.signature, ?_, ?_, ?_, ?_, by omega⟩
  · rw [number 0x04 4 (by decide), stands.size]
  · rw [number 0x08 4 (by decide), stands.unusedSize]
  · rw [number 0x0E 2 (by decide), stands.index]
  · rw [number 0x10 4 (by decide), stands.usedSize]

theorem BlockRun.of_beginning {start finish : Nat} {blocks : List BlockHeader}
    (run : BlockRun cut start blocks finish) : BlockRun whole start blocks finish := by
  induction run with
  | nil offset => exact .nil offset
  | cons stands rest ih => exact .cons (stands.of_beginning begins) ih

/-- The list of a beginning is the beginning of the list. -/
theorem BlockList.prefix_of_beginning {start : Nat} {first all : List BlockHeader}
    (list : BlockList cut start (.ok first)) (longer : BlockList whole start (.ok all)) :
    first <+: all := by
  cases list with
  | beyond short => exact List.nil_prefix
  | absent held other => exact List.nil_prefix
  | run run some tail => exact (run.of_beginning begins).prefix_of_list longer

/-- Reads inside a beginning are reads of the whole. -/
theorem Reads.serves_beginning : whole.reads.Serves cut := by
  intro offset length inside
  have enough := begins.inside
  have same := begins.field offset length inside
  rw [Nat.zero_add] at same
  rw [Bytes.reads_inside (by omega), same]

/-- A beginning that opens has the headers of the whole file and the first of its data blocks. -/
theorem Hive.ofFields_beginning (long : 64 ≤ cut.length) (codepage : Codepage)
    (first all : List BlockHeader) :
    Hive.ofFields cut codepage first =
      { Hive.ofFields whole codepage all with dataBlocks := first } := by
  have number (offset width : Nat) (inside : offset + width ≤ 64) :
      cut.number offset width = whole.number offset width := by
    have same := begins.number offset width (by omega)
    rw [Nat.zero_add] at same
    exact same.symm
  simp only [Hive.ofFields]
  rw [number 0x06 2 (by decide), number 0x04 2 (by decide), number 0x08 4 (by decide),
    number 0x10 2 (by decide), number 0x24 4 (by decide), number 0x28 4 (by decide)]

theorem Reads.keepsTo_of_beginning {codepage : Codepage} {hive cutHive : Hive}
    (opens : whole.reads.attach whole.length codepage = .ok hive)
    (cutOpens : cut.reads.attach cut.length codepage = .ok cutHive) :
    (cut.reads.access cutHive).KeepsTo (whole.reads.access hive) := by
  obtain ⟨all, verdict, same⟩ := Reads.verdict_of_attach opens
  obtain ⟨first, cutVerdict, cutSame⟩ := Reads.verdict_of_attach cutOpens
  obtain ⟨_, list⟩ := Verdict.ok_iff.mp verdict
  obtain ⟨fit, cutList⟩ := Verdict.ok_iff.mp cutVerdict
  have start : cut.number 0x08 4 = whole.number 0x08 4 := by
    have same := begins.number 0x08 4 (by have := fit.long; omega)
    exact same.symm
  rw [start] at cutList
  have earlier := cutList.prefix_of_beginning begins list
  have stays := Hive.staysIn_of_attach cutOpens
  rw [← Hive.access_of_serves stays (Reads.serves_beginning begins), cutSame,
    Hive.ofFields_beginning begins fit.long codepage first all, ← same]
  apply Reads.keepsTo_of_prefix
  rw [same]
  exact earlier

end Beginning

/-- Whatever a file that was cut short is asked, it answers as the whole file does, or it tells of corrupt
data. -/
theorem same_or_corrupt_of_prefix {whole cut : Source} (honest : whole.Honest) (cutHonest : cut.Honest)
    (begins : cut.content <+: whole.content) {codepage : Codepage} {hive cutHive : Hive}
    {session cutSession : Session} (opens : Hive.attach codepage { source := whole } = .ok hive session)
    (cutOpens : Hive.attach codepage { source := cut } = .ok cutHive cutSession)
    {α : Type} (inquiry : Inquiry α) :
    (inquiry.run cutHive).answer cutSession = (inquiry.run hive).answer session ∨
      ∃ error, (inquiry.run cutHive).answer cutSession = .error error ∧
        error.kind = .corruptData := by
  obtain ⟨rest, split⟩ := begins
  have stands : PartAt whole.content 0 cut.content := ⟨[], rest, by simp [split], rfl⟩
  have reading := Hive.reads_of_attach opens
  have cutReading := Hive.reads_of_attach cutOpens
  rw [inquiry.answer_run opens, inquiry.answer_run cutOpens, Hive.codepage_of_attach opens,
    Hive.codepage_of_attach cutOpens]
  rw [Source.fetch_of_honest_eq honest] at reading ⊢
  rw [Source.fetch_of_honest_eq cutHonest] at cutReading ⊢
  rw [honest.size_eq] at reading
  rw [cutHonest.size_eq] at cutReading
  exact (Reads.keepsTo_of_beginning stands reading cutReading).inquiry codepage inquiry

/-- The name of the root key, of a file with its data block and of one without. -/
theorem same_or_corrupt_of_prefix_without_block :
    let headers : Bytes := Signature.file.bytes ++ .ofNumber 2 0 ++ .ofNumber 2 1 ++ .ofNumber 4 92 ++
      .zeros 20 ++ Signature.navigation.bytes ++ .ofNumber 4 60 ++ .ofNumber 4 32 ++ .zeros 48
    let entry : Bytes := Bytes.ofNumber 4 21 ++ .zeros 4 ++ .ofNumber 4 21 ++ .ofNumber 2 1 ++
      .zeros 6 ++ [0x41]
    let block : Bytes := Signature.dataBlock.bytes ++ .ofNumber 4 53 ++ .zeros 8 ++ .ofNumber 4 53 ++
      .zeros 12 ++ entry
    let whole : Source := .mapped (headers ++ block).toArray
    let cut : Source := .stream (Stream.ofBytes headers.toArray)
    let inquiry : Inquiry String := .ask .rootKey fun root => .ask (.name root) .give
    whole.Honest ∧ cut.Honest ∧ cut.content <+: whole.content ∧
      ∃ hive session cutHive cutSession,
        Hive.attach .standard { source := whole } = .ok hive session ∧
        Hive.attach .standard { source := cut } = .ok cutHive cutSession ∧
        ((inquiry.run cutHive).answer cutSession = (inquiry.run hive).answer session ∨
          ∃ error, (inquiry.run cutHive).answer cutSession = .error error ∧
            error.kind = .corruptData) := by
  intro headers entry block whole cut inquiry
  have honest : whole.Honest := .mapped _
  have cutHonest : cut.Honest := .stream rfl
  have begins : cut.content <+: whole.content := List.prefix_append headers block
  have fit : HeadersFit whole.content :=
    ⟨by decide +kernel, by decide +kernel, by decide +kernel, by decide +kernel, by decide +kernel⟩
  have cutFit : HeadersFit cut.content :=
    ⟨by decide +kernel, by decide +kernel, by decide +kernel, by decide +kernel, by decide +kernel⟩
  have stands : BlockHeader.StandsAt ⟨92, 53, 0, 0, 53, by decide⟩ whole.content 92 :=
    ⟨rfl, by decide +kernel, by decide +kernel, by decide +kernel, by decide +kernel,
      by decide +kernel, by decide +kernel⟩
  have start : whole.content.number 0x08 4 = 92 := by decide +kernel
  have list : BlockList whole.content (whole.content.number 0x08 4)
      (.ok [⟨92, 53, 0, 0, 53, by decide⟩]) := by
    rw [start]
    exact .run (.cons stands (.nil 145)) (by simp) (by decide +kernel)
  have cutList : BlockList cut.content (cut.content.number 0x08 4) (.ok []) :=
    .beyond (by decide +kernel)
  obtain ⟨session, opens, _⟩ := Hive.exists_attach honest .standard (.blocks fit list)
  obtain ⟨cutSession, cutOpens, _⟩ := Hive.exists_attach cutHonest .standard (.blocks cutFit cutList)
  exact ⟨honest, cutHonest, begins, _, session, _, cutSession, opens, cutOpens,
    same_or_corrupt_of_prefix honest cutHonest begins opens cutOpens inquiry⟩

end RegistryHive
