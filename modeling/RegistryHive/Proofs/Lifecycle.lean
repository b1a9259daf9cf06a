import RegistryHive.Proofs.Timeline

namespace RegistryHive

namespace Codepage

/-- Whether a name is the identifier of a codepage, with ASCII letters of either case. -/
def IsNamed (codepage : Codepage) (name : String) : Prop :=
  codepage.name.toList = name.toList.map Char.toLower

variable {name : String}

theorem ofName_of_isNamed {codepage : Codepage} (known : codepage.IsNamed name) :
    ofName name = .ok codepage := by
  have found : all.find? (fun other => other.name.toList == codepage.name.toList) = some codepage := by
    cases codepage <;> decide +kernel
  rw [known] at found
  simp only [ofName, found]

theorem ofName_of_unknown (unknown : ∀ codepage : Codepage, ¬ codepage.IsNamed name) :
    ofName name = .error (.unsupportedCodepage name) := by
  have missing : all.find? (fun other => other.name.toList == name.toList.map Char.toLower) = none := by
    rw [List.find?_eq_none]
    intro other _ same
    exact unknown other (eq_of_beq same)
  simp only [ofName, missing]

theorem isNamed_name (codepage : Codepage) : codepage.IsNamed codepage.name := by
  unfold IsNamed
  cases codepage <;> decide +kernel

end Codepage

namespace Request

variable {name : String} (file : File)

theorem setCodepage_of_isNamed {codepage : Codepage} (known : codepage.IsNamed name) :
    (setCodepage name).answer file = .ok () ∧
      (setCodepage name).after file = ⟨codepage, file.attachment.recoded codepage⟩ := by
  have runs := run_setCodepage name file
  rw [Codepage.ofName_of_isNamed known] at runs
  exact of_ok runs

theorem setCodepage_of_unknown (unknown : ∀ codepage : Codepage, ¬ codepage.IsNamed name) :
    (setCodepage name).answer file = .error (.unsupportedCodepage name) ∧
      (setCodepage name).after file = file := by
  have runs := run_setCodepage name file
  rw [Codepage.ofName_of_unknown unknown] at runs
  exact of_error runs

end Request

/-- Whether a request that ends so opens the handle. -/
def Request.opens (request : Request) (failure : Option Error) : Bool :=
  match request, failure with
  | .opening .., none => true
  | _, _ => false

def Request.closes (request : Request) (failure : Option Error) : Bool :=
  match request, failure with
  | .close, none => true
  | _, _ => false

def Record.opens (record : Record) : Bool := record.request.opens (failureOf record.answer)

def Record.closes (record : Record) : Bool := record.request.closes (failureOf record.answer)

theorem Request.isOpen_after (request : Request) (file : File) :
    (request.after file).isOpen =
      (request.opens (failureOf (request.answer file)) ||
        file.isOpen && !request.closes (failureOf (request.answer file))) := by
  have effect := request.effect file
  generalize failureOf (request.answer file) = failure at effect
  generalize request.after file = later at effect
  cases effect with
  | attached found accepted => rfl
  | rejected found refused =>
    rw [Place.closed_of_source found]
    rfl
  | closed holds => simp [File.isOpen, opens, closes]
  | recoded known =>
    obtain ⟨codepage, attachment⟩ := file
    cases attachment <;> rfl
  | signalled =>
    obtain ⟨codepage, attachment⟩ := file
    cases attachment <;> rfl
  | told asks =>
    rcases asks with rfl | rfl
    · simp [opens, closes]
    · simp [opens, closes]
  | worked holds operation => simp [File.isOpen, holds, opens, closes]
  | refused asks idle error own => simp [opens, closes]

/-- Whether the last successful opening in a log has no successful closing after it. -/
def StaysOpen (log : List Record) : Prop :=
  ∃ later opening earlier, log = later ++ opening :: earlier ∧ opening.opens = true ∧
    ∀ record ∈ later, record.opens = false ∧ record.closes = false

theorem staysOpen_cons (record : Record) (log : List Record) :
    StaysOpen (record :: log) ↔
      record.opens = true ∨ record.opens = false ∧ record.closes = false ∧ StaysOpen log := by
  constructor
  · intro ⟨later, opening, earlier, split, opens, unchanged⟩
    cases later with
    | nil =>
      obtain ⟨same, _⟩ := List.cons.inj split
      rw [same]
      exact .inl opens
    | cons latest later =>
      obtain ⟨same, rest⟩ := List.cons.inj split
      obtain ⟨unopened, unclosed⟩ := unchanged latest List.mem_cons_self
      rw [same]
      refine .inr ⟨unopened, unclosed, later, opening, earlier, rest, opens, ?_⟩
      intro other member
      exact unchanged other (List.mem_cons_of_mem latest member)
  · intro latest
    rcases latest with opens | ⟨unopened, unclosed, later, opening, earlier, split, opens, unchanged⟩
    · exact ⟨[], record, log, rfl, opens, fun _ member => absurd member List.not_mem_nil⟩
    · refine ⟨record :: later, opening, earlier, by rw [split, List.cons_append], opens, ?_⟩
      intro other member
      rcases List.mem_cons.mp member with same | member
      · rw [same]
        exact ⟨unopened, unclosed⟩
      · exact unchanged other member

/-- Whether what is open, if anything is, decodes with this codepage. -/
def Attachment.Decodes (codepage : Codepage) : Attachment → Prop
  | closed _ => True
  | opened hive _ => hive.codepage = codepage

theorem Request.decodes_after (request : Request) {file : File}
    (decodes : file.attachment.Decodes file.codepage) :
    (request.after file).attachment.Decodes (request.after file).codepage := by
  have effect := request.effect file
  generalize failureOf (request.answer file) = failure at effect
  generalize request.after file = later at effect
  cases effect with
  | attached found accepted => exact Hive.codepage_of_attach accepted
  | rejected found refused => trivial
  | closed holds => trivial
  | recoded known =>
    cases file.attachment with
    | closed raised => trivial
    | opened hive session => rfl
  | signalled =>
    obtain ⟨codepage, attachment⟩ := file
    cases attachment with
    | closed raised => trivial
    | opened hive session => exact decodes
  | told asks => exact decodes
  | worked holds operation =>
    rw [holds] at decodes
    exact decodes
  | refused asks idle error own => exact decodes

/-- What is left of a handle when a request has failed: all but the flag, with more in the caches. -/
inductive Attachment.Keeps : Attachment → Attachment → Prop where
  | closed (raised later : Bool) : Keeps (.closed raised) (.closed later)
  | opened (hive : Hive) {first session : Session} (continues : session.Continues first) :
      Keeps (.opened hive first) (.opened hive session)

theorem Attachment.Keeps.refl (attachment : Attachment) : attachment.Keeps attachment := by
  cases attachment with
  | closed raised => exact .closed raised raised
  | opened hive session => exact .opened hive (.refl session)

theorem Request.keeps_of_error {request : Request} {file : File} {error : Error}
    (failed : request.answer file = .error error) :
    (request.after file).codepage = file.codepage ∧
      file.attachment.Keeps (request.after file).attachment := by
  have effect := request.effect file
  rw [failed] at effect
  generalize request.after file = later at effect
  generalize same : failureOf (Except.error error) = failure at effect
  cases effect with
  | attached found accepted => cases same
  | rejected found refused =>
    have free := Place.closed_of_source found
    obtain ⟨codepage, attachment⟩ := file
    cases attachment with
    | closed raised => exact ⟨rfl, .closed raised _⟩
    | opened hive session => cases free
  | closed holds => cases same
  | recoded known => cases same
  | signalled => cases same
  | told asks => cases same
  | worked holds operation =>
    rw [holds]
    exact ⟨rfl, .opened _ ((operation.paced_run (Hive.staysIn_anywhere _)).continues_after _)⟩
  | refused asks idle error own => exact ⟨rfl, .refl file.attachment⟩

theorem signal_mem_of_pending {ticks past : List Tick} (raised : pending (ticks ++ past) = true) :
    .signal ∈ ticks ∨ pending past = true := by
  induction ticks with
  | nil => exact .inr raised
  | cons tick rest ih =>
    cases tick with
    | signal => exact .inl List.mem_cons_self
    | event event =>
      cases event with
      | check => cases raised
      | read offset length => exact (ih raised).imp_left (List.mem_cons_of_mem _)
    | ended aborted => exact (ih raised).imp_left (List.mem_cons_of_mem _)

/-- Only a signal sets the flag. -/
theorem Request.signal_of_raised (request : Request) {file : File}
    (raised : (request.after file).raised = true) :
    file.raised = true ∨ .signal ∈ request.ticks file := by
  cases before : file.raised with
  | true => exact .inl rfl
  | false =>
    have start : Shows [] file.raised := ⟨.start, before.symm⟩
    have shown := (request.shows file start).flag.trans raised
    rcases signal_mem_of_pending shown with signalled | lowered
    · exact .inr signalled
    · cases lowered

theorem File.eq_of_closed {file : File} (closed : file.isOpen = false) :
    file = ⟨file.codepage, .closed file.raised⟩ := by
  obtain ⟨codepage, attachment⟩ := file
  cases attachment with
  | closed raised => rfl
  | opened hive session => cases closed

/-- How a new handle comes to this codepage and this flag. -/
def preparing (codepage : Codepage) (raised : Bool) : List Request :=
  .setCodepage codepage.name :: if raised then [.signalAbort] else []

namespace Usage

theorem file_preparing (codepage : Codepage) (raised : Bool) :
    (({} : Usage).serveAll (preparing codepage raised)).file = ⟨codepage, .closed raised⟩ := by
  have recoded : Request.after (.setCodepage codepage.name) {} = ⟨codepage, .closed false⟩ :=
    (Request.setCodepage_of_isNamed {} codepage.isNamed_name).2
  cases raised with
  | false => simp [preparing, serveAll, serve, recoded]
  | true =>
    simp only [preparing, serveAll, serve, if_true, List.foldl_cons, List.foldl_nil, recoded]
    rfl

theorem serveAll_file (file : File) (further : List Request) : ∃ final newer later,
    ∀ log ticks,
      Usage.serveAll ⟨file, log, ticks⟩ further = ⟨final, newer ++ log, later ++ ticks⟩ := by
  induction further generalizing file with
  | nil => exact ⟨file, [], [], fun _ _ => rfl⟩
  | cons request rest ih =>
    obtain ⟨final, newer, later, same⟩ := ih (request.after file)
    refine ⟨final, newer ++ [⟨request, request.answer file⟩], later ++ request.ticks file, ?_⟩
    intro log ticks
    rw [List.append_assoc, List.append_assoc]
    exact same _ _

/-- Nothing but the handle decides what further requests come to. -/
theorem serveAll_of_same {usage other : Usage} (same : other.file = usage.file)
    (further : List Request) : ∃ file log ticks,
      usage.serveAll further = ⟨file, log ++ usage.log, ticks ++ usage.ticks⟩ ∧
      other.serveAll further = ⟨file, log ++ other.log, ticks ++ other.ticks⟩ := by
  obtain ⟨file, log, ticks, serves⟩ := serveAll_file usage.file further
  refine ⟨file, log, ticks, serves usage.log usage.ticks, ?_⟩
  rw [← same] at serves
  exact serves other.log other.ticks

/-- What holds of a handle in use. -/
structure Sound (usage : Usage) : Prop where
  staysOpen : usage.file.isOpen = true ↔ StaysOpen usage.log
  decodes : usage.file.attachment.Decodes usage.file.codepage

theorem Sound.serve {usage : Usage} (sound : usage.Sound) (request : Request) :
    (usage.serve request).Sound where
  staysOpen := by
    rw [Usage.serve, staysOpen_cons, ← sound.staysOpen, request.isOpen_after, Record.opens,
      Record.closes]
    cases request.opens (failureOf (request.answer usage.file)) with
    | true => simp
    | false => simp [and_comm]
  decodes := request.decodes_after sound.decodes

theorem sound_serveAll {usage : Usage} (sound : usage.Sound) (requests : List Request) :
    (usage.serveAll requests).Sound := by
  induction requests generalizing usage with
  | nil => exact sound
  | cons request rest ih => exact ih (sound.serve request)

theorem sound_new : ({} : Usage).Sound := by
  refine ⟨⟨fun opened => absurd opened Bool.false_ne_true, ?_⟩, trivial⟩
  intro ⟨later, opening, earlier, split, _⟩
  simp at split

end Usage

/-- In every use of a handle: it is open just when its last opening has not been closed since, and then it
decodes with its codepage; a request that fails changes no more than the flag and the caches; setting the
codepage changes it in both places and nothing else, and is refused for a name that is not known; and once
closed, the handle goes on as a new one with its codepage and its flag would. -/
theorem handle_in_use (requests : List Request) :
    let usage := ({} : Usage).serveAll requests
    (usage.file.isOpen = true ↔ StaysOpen usage.log) ∧
    (∀ hive session, usage.file.attachment = .opened hive session →
      hive.codepage = usage.file.codepage) ∧
    (∀ request error, request.answer usage.file = .error error →
      let left := (usage.serve request).file
      left.codepage = usage.file.codepage ∧ usage.file.attachment.Keeps left.attachment ∧
      (left.raised = true → usage.file.raised = true ∨ .signal ∈ request.ticks usage.file)) ∧
    (∀ name, let setting := Request.setCodepage name
      (∀ codepage : Codepage, codepage.IsNamed name → setting.answer usage.file = .ok () ∧
        (usage.serve setting).file = ⟨codepage, usage.file.attachment.recoded codepage⟩) ∧
      ((∀ codepage : Codepage, ¬ codepage.IsNamed name) →
        setting.answer usage.file = .error (.unsupportedCodepage name) ∧
        (usage.serve setting).file = usage.file)) ∧
    (usage.file.isOpen = false → ∀ further,
      let fresh := ({} : Usage).serveAll (preparing usage.file.codepage usage.file.raised)
      ∃ file log ticks,
        usage.serveAll further = ⟨file, log ++ usage.log, ticks ++ usage.ticks⟩ ∧
        fresh.serveAll further = ⟨file, log ++ fresh.log, ticks ++ fresh.ticks⟩) := by
  intro usage
  have sound := Usage.sound_serveAll Usage.sound_new requests
  refine ⟨sound.staysOpen, ?_, ?_, ?_, ?_⟩
  · intro hive session holds
    have decodes := sound.decodes
    rw [holds] at decodes
    exact decodes
  · intro request error failed
    obtain ⟨same, keeps⟩ := Request.keeps_of_error failed
    exact ⟨same, keeps, request.signal_of_raised⟩
  · intro name setting
    refine ⟨?_, Request.setCodepage_of_unknown usage.file⟩
    intro codepage known
    exact Request.setCodepage_of_isNamed usage.file known
  · intro closed further fresh
    have same : fresh.file = usage.file :=
      (Usage.file_preparing _ _).trans (File.eq_of_closed closed).symm
    exact Usage.serveAll_of_same same further

end RegistryHive
