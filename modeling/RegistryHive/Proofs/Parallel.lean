import RegistryHive.Proofs.Counterparts
import RegistryHive.Proofs.Usage
import Mathlib.Data.List.Forall2

namespace RegistryHive

inductive Attachment.Alike (same : Hive → Hive → Prop) : Attachment → Attachment → Prop where
  | closed (raised : Bool) : Alike same (.closed raised) (.closed raised)
  | opened {hive other : Hive} {first second : Session}
      (alike : Opened.Alike same ⟨hive, first⟩ ⟨other, second⟩) :
      Alike same (.opened hive first) (.opened other second)

/-- Whether two handles have come the same way. -/
inductive File.Alike (same : Hive → Hive → Prop) : File → File → Prop where
  | intro (codepage : Codepage) {attachment other : Attachment}
      (attachments : Attachment.Alike same attachment other) :
      Alike same ⟨codepage, attachment⟩ ⟨codepage, other⟩

/-- An error without the name of the opening that refused its arguments. -/
def Error.unnamed : Error → Error
  | .unsupportedMode _ mode => .unsupportedMode "" mode
  | .alreadyOpen _ => .alreadyOpen ""
  | error => error

/-- Whether two openings fail the same, up to the name of the opening, which is the same if both are openings
of one kind. -/
def Place.SameError (place other : Place) (error found : Error) : Prop :=
  error.unnamed = found.unnamed ∧ (place.title = other.title → error = found)

/-- Whether two results are the same value or errors that are alike, and leave handles that are alike. -/
inductive FileAction.EndAlike (same : Hive → Hive → Prop) (errors : Error → Error → Prop) {α : Type} :
    EStateM.Result Error File α → EStateM.Result Error File α → Prop where
  | value {file other : File} (files : file.Alike same other) (value : α) :
      EndAlike same errors (.ok value file) (.ok value other)
  | error {file other : File} (files : file.Alike same other) {error found : Error}
      (alike : errors error found) : EndAlike same errors (.error error file) (.error found other)

/-- Whether two places are opened to the same, or refused for the same reason. -/
inductive Place.Opens (same : Hive → Hive → Prop) (place other : Place) :
    Except Error Source → Except Error Source → Prop where
  | source {left right : Source} (alike : left.Alike same right) :
      Opens same place other (.ok left) (.ok right)
  | error {error found : Error} (alike : place.SameError other error found) :
      Opens same place other (.error error) (.error found)

variable {same : Hive → Hive → Prop}

theorem Place.opens_self (likeness : Hive.Likeness same) (place : Place) (mode : AccessMode)
    {file later : File} (isOpen : file.isOpen = later.isOpen) :
    place.Opens same place (place.source mode file) (place.source mode later) := by
  have equal : place.source mode file = place.source mode later := by
    unfold source
    rw [isOpen]
  rw [equal]
  cases place.source mode later with
  | ok source => exact .source (.of_fetch likeness rfl rfl)
  | error error => exact .error ⟨rfl, fun _ => rfl⟩

theorem FileAction.EndAlike.imp {α : Type} {errors weaker : Error → Error → Prop}
    {result other : EStateM.Result Error File α} (ends : EndAlike same errors result other)
    (implies : ∀ error found, errors error found → weaker error found) :
    EndAlike same weaker result other := by
  cases ends with
  | value files value => exact .value files value
  | error files alike => exact .error files (implies _ _ alike)

namespace File.Alike

variable {file other : File} (alike : file.Alike same other)

include alike

theorem isOpen : file.isOpen = other.isOpen := by
  obtain ⟨codepage, attachments⟩ := alike
  cases attachments <;> rfl

theorem codepage : file.codepage = other.codepage := by
  obtain ⟨codepage, attachments⟩ := alike
  rfl

theorem raised : file.raised = other.raised := by
  obtain ⟨codepage, attachments⟩ := alike
  cases attachments with
  | closed raised => rfl
  | opened alike => exact alike.raised

theorem attach {left right : Source} (sources : left.Alike same right) (signals : Signals) :
    FileAction.EndAlike same Eq (File.attach left signals file) (File.attach right signals other) := by
  have raised := alike.raised
  obtain ⟨codepage, attachments⟩ := alike
  simp only [File.attach, raised]
  rcases (sources.attach codepage).runs (.start sources.sizes signals _) with
    ⟨hive, found, after, later, ours, theirs, ⟨hives, agree⟩, sessions⟩ |
    ⟨error, after, later, ours, theirs, sessions⟩
  · rw [ours, theirs]
    exact .value (.intro codepage (.opened (.intro hives agree sessions))) ()
  · rw [ours, theirs]
    refine .error (.intro codepage ?_) rfl
    rw [sessions.raised]
    exact .closed later.raised

end File.Alike

/-- Whether a request asks for what the file header says of the version. -/
def Request.TellsVersion (request : Request) : Prop :=
  request = .fileType ∨ request = .formatVersion

namespace File.Alike

open FileAction

variable {file other : File} (alike : file.Alike same other)

include alike

theorem ends_opening {place found : Place} {mode : AccessMode} (signals : Signals)
    (opens : place.Opens same found (place.source mode file) (found.source mode other)) :
    EndAlike same (place.SameError found) ((Request.opening place mode signals).run file)
      ((Request.opening found mode signals).run other) := by
  rw [Place.run_opening, Place.run_opening]
  generalize place.source mode file = ours, found.source mode other = theirs at opens
  cases opens with
  | error errors => exact .error alike errors
  | source sources =>
    exact (alike.attach sources signals).imp fun error found same => ⟨by rw [same], fun _ => same⟩

theorem ends_close : EndAlike same Eq (Request.close.run file) (Request.close.run other) := by
  obtain ⟨codepage, attachments⟩ := alike
  cases attachments with
  | closed raised => exact .error (.intro codepage (.closed raised)) rfl
  | opened alike =>
    refine .value (.intro codepage ?_) ()
    rw [alike.raised]
    exact .closed _

theorem ends_setCodepage (likeness : Hive.Likeness same) (name : String) :
    EndAlike same Eq ((Request.setCodepage name).run file) ((Request.setCodepage name).run other) := by
  simp only [Request.run, File.setCodepage]
  rw [FileAction.bind_lift, FileAction.bind_lift]
  cases Codepage.ofName name with
  | error error => exact .error alike rfl
  | ok codepage =>
    obtain ⟨_, attachments⟩ := alike
    cases attachments with
    | closed raised => exact .value (.intro codepage (.closed raised)) ()
    | opened alike => exact .value (.intro codepage (.opened (alike.recoded likeness codepage))) ()

theorem ends_signalAbort : EndAlike same Eq (Request.signalAbort.run file) (Request.signalAbort.run other) := by
  obtain ⟨codepage, attachments⟩ := alike
  cases attachments with
  | closed raised => exact .value (.intro codepage (.closed true)) ()
  | opened alike => exact .value (.intro codepage (.opened alike.signalled)) ()

theorem ends_reading (likeness : Hive.Likeness same) {α : Type} (operation : Operation α) :
    EndAlike same Eq ((Request.reading operation).run file) ((Request.reading operation).run other) := by
  obtain ⟨codepage, attachments⟩ := alike
  cases attachments with
  | closed raised => exact .error (.intro codepage (.closed raised)) rfl
  | opened alike =>
    simp only [Request.run, File.onHive]
    rcases alike.runs likeness operation with
      ⟨value, after, later, ours, theirs, alike⟩ | ⟨error, after, later, ours, theirs, alike⟩
    · rw [ours, theirs]
      exact .value (.intro codepage (.opened alike)) value
    · rw [ours, theirs]
      exact .error (.intro codepage (.opened alike)) rfl

/-- What the header says is the same where the headers are. -/
theorem ends_telling (headers : ∀ {hive other : Hive}, same hive other → hive.header = other.header)
    {α : Type} (title : String) (tell : FileHeader → α) :
    EndAlike same Eq (File.onHive title (fun hive => return tell hive.header) file)
      (File.onHive title (fun hive => return tell hive.header) other) := by
  obtain ⟨codepage, attachments⟩ := alike
  cases attachments with
  | closed raised => exact .error (.intro codepage (.closed raised)) rfl
  | @opened hive other _ _ alike =>
    have equal : tell hive.header = tell other.header := by rw [headers alike.hives]
    simp only [File.onHive, equal]
    exact .value (.intro codepage (.opened alike)) (tell other.header)

end File.Alike

theorem Request.TellsVersion.after {request : Request} (tells : request.TellsVersion) (file : File) :
    request.after file = file := by
  obtain ⟨codepage, attachment⟩ := file
  rcases tells with rfl | rfl
  · cases attachment <;> rfl
  · cases attachment <;> rfl

/-- Whether two requests are the same, but for openings of places that are alike. -/
inductive Request.Alike (places : Place → Place → Prop) : Request → Request → Prop where
  | same (request : Request) : Alike places request request
  | opening {place other : Place} (alike : places place other) (mode : AccessMode) (signals : Signals) :
      Alike places (.opening place mode signals) (.opening other mode signals)

theorem Request.Alike.imp {places others : Place → Place → Prop} {request asked : Request}
    (alike : request.Alike places asked) (implies : ∀ {place other}, places place other → others place other) :
    request.Alike others asked := by
  cases alike with
  | same => exact .same request
  | opening places mode signals => exact .opening (implies places) mode signals

/-- Whether two requests got the same answer, up to the name of the opening in the errors of two openings.
Where a request is excused the answers are not compared. -/
inductive Record.Agree (excused : Request → Prop) : Record → Record → Prop where
  | same (request : Request) {answer found : Except Error request.Answer}
      (equal : excused request ∨ answer = found) : Agree excused ⟨request, answer⟩ ⟨request, found⟩
  | opening {place other : Place} (mode : AccessMode) (signals : Signals) {answer found : Except Error Unit}
      (unnamed : answer.mapError Error.unnamed = found.mapError Error.unnamed)
      (titled : place.title = other.title → answer = found) :
      Agree excused ⟨.opening place mode signals, answer⟩ ⟨.opening other mode signals, found⟩

/-- Whether two handles have come the same way and their requests, one by one, got the same answers. -/
structure Usage.Alike (same : Hive → Hive → Prop) (excused : Request → Prop) (usage other : Usage) :
    Prop where
  files : usage.file.Alike same other.file
  logs : List.Forall₂ (Record.Agree excused) usage.log other.log

namespace Usage.Alike

variable {excused : Request → Prop} {usage other : Usage} (alike : usage.Alike same excused other)

include alike

theorem serve_same {request : Request}
    (ends : FileAction.EndAlike same Eq (request.run usage.file) (request.run other.file)) :
    Usage.Alike same excused (usage.serve request) (other.serve request) := by
  have both : File.Alike same (request.after usage.file) (request.after other.file) ∧
      request.answer usage.file = request.answer other.file := by
    unfold Request.after Request.answer
    generalize request.run usage.file = ours, request.run other.file = theirs at ends
    cases ends with
    | value files value => exact ⟨files, rfl⟩
    | error files alike => exact ⟨files, by rw [alike]⟩
  exact ⟨both.1, .cons (.same request (.inr both.2)) alike.logs⟩

theorem serve_opening {place found : Place} {mode : AccessMode} {signals : Signals}
    (ends : FileAction.EndAlike same (place.SameError found)
      ((Request.opening place mode signals).run usage.file)
      ((Request.opening found mode signals).run other.file)) :
    Usage.Alike same excused (usage.serve (.opening place mode signals))
      (other.serve (.opening found mode signals)) := by
  simp only [serve, Request.after, Request.answer]
  generalize (Request.opening place mode signals).run usage.file = ours,
    (Request.opening found mode signals).run other.file = theirs at ends
  cases ends with
  | value files value => exact ⟨files, .cons (.opening mode signals rfl fun _ => rfl) alike.logs⟩
  | error files errors =>
    refine ⟨files, .cons (.opening mode signals ?_ fun titled => ?_) alike.logs⟩
    · exact congrArg Except.error errors.1
    · exact congrArg Except.error (errors.2 titled)

/-- One request of each handle. -/
theorem serve (likeness : Hive.Likeness same) {places : Place → Place → Prop}
    (opens : ∀ {place found}, places place found → ∀ mode {file later : File},
      file.isOpen = later.isOpen →
      place.Opens same found (place.source mode file) (found.source mode later))
    (told : ∀ request, request.TellsVersion → excused request ∨
      ∀ {hive other : Hive}, same hive other → hive.header = other.header)
    {request asked : Request} (requests : request.Alike places asked) :
    Usage.Alike same excused (usage.serve request) (other.serve asked) := by
  have telling {request : Request} (tells : request.TellsVersion)
      (ends : (∀ {hive other : Hive}, same hive other → hive.header = other.header) →
        FileAction.EndAlike same Eq (request.run usage.file) (request.run other.file)) :
      Usage.Alike same excused (usage.serve request) (other.serve request) := by
    rcases told request tells with free | headers
    · refine ⟨?_, .cons (.same request (.inl free)) alike.logs⟩
      simp only [Usage.serve, tells.after]
      exact alike.files
    · exact alike.serve_same (ends headers)
  cases requests with
  | opening places mode signals =>
    exact alike.serve_opening (alike.files.ends_opening signals (opens places mode alike.files.isOpen))
  | same =>
    cases request with
    | opening place mode signals =>
      have opens := place.opens_self likeness mode alike.files.isOpen
      exact alike.serve_opening (alike.files.ends_opening signals opens)
    | close => exact alike.serve_same alike.files.ends_close
    | setCodepage name => exact alike.serve_same (alike.files.ends_setCodepage likeness name)
    | signalAbort => exact alike.serve_same alike.files.ends_signalAbort
    | fileType =>
      exact telling (.inl rfl) fun headers =>
        alike.files.ends_telling headers "file_type" FileHeader.hiveType
    | formatVersion =>
      exact telling (.inr rfl) fun headers =>
        alike.files.ends_telling headers "format_version" fun header =>
          (header.majorVersion, header.minorVersion)
    | reading operation => exact alike.serve_same (alike.files.ends_reading likeness operation)

/-- Requests, one after another, of each handle. -/
theorem serveAll (likeness : Hive.Likeness same) {places : Place → Place → Prop}
    (opens : ∀ {place found}, places place found → ∀ mode {file later : File},
      file.isOpen = later.isOpen →
      place.Opens same found (place.source mode file) (found.source mode later))
    (told : ∀ request, request.TellsVersion → excused request ∨
      ∀ {hive other : Hive}, same hive other → hive.header = other.header)
    {requests asked : List Request} (paired : List.Forall₂ (Request.Alike places) requests asked) :
    Usage.Alike same excused (usage.serveAll requests) (other.serveAll asked) := by
  induction paired generalizing usage other with
  | nil => exact alike
  | cons first rest ih => exact ih (alike.serve likeness opens told first)

end Usage.Alike

end RegistryHive
