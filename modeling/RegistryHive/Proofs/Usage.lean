import RegistryHive.Proofs.Format
import RegistryHive.Proofs.Pacing

namespace RegistryHive

/-- Where a file is opened. -/
inductive Place where
  | path (path : String) (target : PathTarget)
  | stream (stream : Stream)

/-- What can be asked of a handle. An opening says how many signals come inside the operations on what
it opens; signals between requests are requests themselves. -/
inductive Request : Type 1 where
  | opening (place : Place) (mode : AccessMode) (signals : Signals)
  | close
  | setCodepage (name : String)
  | signalAbort
  | fileType
  | formatVersion
  | reading {α : Type} (operation : Operation α)

/-- The call that fails where a handle is not open. No key comes from such a handle, so all that would be asked
of a key or a value ends with the call for the root key. -/
def Operation.title {α : Type} : Operation α → String
  | keyByPath _ => "key_by_path"
  | _ => "root_key"

namespace Request

def Answer : Request → Type
  | fileType => HiveType
  | formatVersion => Nat × Nat
  | @reading α _ => α
  | _ => Unit

def run : (request : Request) → FileAction request.Answer
  | opening (.path path target) mode signals => File.openPath path target mode signals
  | opening (.stream stream) mode signals => File.openStream stream mode signals
  | close => File.close
  | setCodepage name => File.setCodepage name
  | signalAbort => File.signalAbort
  | fileType => File.fileType
  | formatVersion => File.formatVersion
  | reading operation => File.onHive operation.title operation.run

/-- What a request comes to. -/
def answer (request : Request) (file : File) : Except Error request.Answer :=
  match request.run file with
  | .ok value _ => .ok value
  | .error error _ => .error error

/-- The handle that a request leaves. -/
def after (request : Request) (file : File) : File :=
  match request.run file with
  | .ok _ file => file
  | .error _ file => file

theorem of_ok {request : Request} {file later : File} {value : request.Answer}
    (runs : request.run file = .ok value later) :
    request.answer file = .ok value ∧ request.after file = later := by
  simp only [answer, after, runs, and_self]

theorem of_error {request : Request} {file later : File} {error : Error}
    (runs : request.run file = .error error later) :
    request.answer file = .error error ∧ request.after file = later := by
  simp only [answer, after, runs, and_self]

end Request

def failureOf {α : Type} : Except Error α → Option Error
  | .ok _ => none
  | .error error => some error

namespace Place

def title : Place → String
  | path _ _ => "open"
  | stream _ => "open_stream"

/-- What an opening attaches, unless it is refused before. -/
def source (place : Place) (mode : AccessMode) (file : File) : Except Error Source := do
  require (mode = .read) (.unsupportedMode place.title mode.display)
  require (!file.isOpen) (.alreadyOpen place.title)
  match place with
  | path name target =>
    require (!name.isEmpty) (.invalidArgument "open" .emptyPath)
    Source.ofPath name target Hive.minimumSize
  | stream attached => Source.ofStream attached Hive.minimumSize

theorem checkCanOpen_eq (operation : String) (mode : AccessMode) (file : File) :
    File.checkCanOpen operation mode file = FileAction.ofExcept (do
      require (mode = .read) (.unsupportedMode operation mode.display)
      require (!file.isOpen) (.alreadyOpen operation)) file := by
  unfold File.checkCanOpen
  rw [FileAction.bind_lift]
  cases require (mode = .read) (.unsupportedMode operation mode.display) with
  | error error => rfl
  | ok _ => rfl

theorem run_opening (place : Place) (mode : AccessMode) (signals : Signals) (file : File) :
    (Request.opening place mode signals).run file =
      match place.source mode file with
      | .ok source => File.attach source signals file
      | .error error => .error error file := by
  cases place with
  | path path target =>
    simp only [Request.run, File.openPath, bind, EStateM.bind, checkCanOpen_eq, source, title]
    cases require (mode = .read) (.unsupportedMode "open" mode.display) with
    | error error => rfl
    | ok _ =>
      cases require (!file.isOpen) (.alreadyOpen "open") with
      | error error => rfl
      | ok _ =>
        cases require (!path.isEmpty) (.invalidArgument "open" .emptyPath) with
        | error error => rfl
        | ok _ => cases Source.ofPath path target Hive.minimumSize <;> rfl
  | stream stream =>
    simp only [Request.run, File.openStream, bind, EStateM.bind, checkCanOpen_eq, source, title]
    cases require (mode = .read) (.unsupportedMode "open_stream" mode.display) with
    | error error => rfl
    | ok _ =>
      cases require (!file.isOpen) (.alreadyOpen "open_stream") with
      | error error => rfl
      | ok _ => cases Source.ofStream stream Hive.minimumSize <;> rfl

/-- Only a closed handle attaches a source. -/
theorem closed_of_source {place : Place} {mode : AccessMode} {file : File} {found : Source}
    (comes : place.source mode file = .ok found) : file.isOpen = false := by
  obtain ⟨_, _, comes⟩ := exists_of_bind comes
  obtain ⟨_, free, _⟩ := exists_of_bind comes
  simpa using require_ok_iff.mp free

theorem failsAs_source (place : Place) (mode : AccessMode) (file : File) :
    FailsAs (· ≠ .aborted) (place.source mode file) := by
  refine .bind (.require (by simp [Error.kind])) fun _ _ => ?_
  refine .bind (.require (by simp [Error.kind])) fun _ _ => ?_
  cases place with
  | path path target =>
    refine .bind (.require (by simp [Error.kind])) fun _ _ => ?_
    cases target with
    | missing => exact .error (by simp [Error.kind])
    | directory => exact .error (by simp [Error.kind])
    | file content =>
      simp only [Source.ofPath]
      split
      · exact .error (by simp [Error.kind])
      · exact .ok _
  | stream attached =>
    simp only [Source.ofStream]
    split
    · exact .error (by simp [Error.kind])
    · exact .ok _

end Place

theorem Codepage.failsAs_ofName (name : String) : FailsAs (· ≠ .aborted) (ofName name) := by
  unfold ofName
  split
  · exact .ok _
  · exact .error (by simp [Error.kind])

/-- What a request does on a source, and the session it does it in. -/
structure Work where
  {Result : Type}
  action : Action Result
  session : Session

/-- The work of a request, if it comes to a source. -/
def Request.work? : Request → File → Option Work
  | opening place mode signals, file =>
    match place.source mode file with
    | .ok source => some ⟨Hive.attach file.codepage, { source, signals, raised := file.raised }⟩
    | .error _ => none
  | reading operation, ⟨_, .opened hive session⟩ => some ⟨operation.run hive, session⟩
  | _, _ => none

namespace Attachment

def recoded (codepage : Codepage) : Attachment → Attachment
  | closed raised => closed raised
  | opened hive session => opened { hive with codepage } session

def signalled : Attachment → Attachment
  | closed _ => closed true
  | opened hive session => opened hive { session with raised := true }

end Attachment

theorem Request.run_setCodepage (name : String) (file : File) :
    (Request.setCodepage name).run file =
      match Codepage.ofName name with
      | .ok codepage => .ok () { codepage, attachment := file.attachment.recoded codepage }
      | .error error => .error error file := by
  obtain ⟨former, attachment⟩ := file
  have runs : (Request.setCodepage name).run ⟨former, attachment⟩ = _ :=
    FileAction.bind_lift (Codepage.ofName name) _ _
  rw [runs]
  cases Codepage.ofName name with
  | error error => rfl
  | ok codepage => cases attachment <;> rfl

/-- What can come of a request: the error it fails with, if it does, and the handle it leaves. -/
inductive Request.Effect (file : File) : Request → Option Error → File → Prop where
  | attached {place : Place} {mode : AccessMode} {source : Source} {signals : Signals}
      (found : place.source mode file = .ok source) {hive : Hive} {session : Session}
      (accepted : Hive.attach file.codepage { source, signals, raised := file.raised } =
        .ok hive session) :
      Effect file (.opening place mode signals) none { file with attachment := .opened hive session }
  | rejected {place : Place} {mode : AccessMode} {source : Source} {signals : Signals}
      (found : place.source mode file = .ok source) {error : Error} {session : Session}
      (refused : Hive.attach file.codepage { source, signals, raised := file.raised } =
        .error error session) :
      Effect file (.opening place mode signals) (some error)
        { file with attachment := .closed session.raised }
  | closed {hive : Hive} {session : Session} (holds : file.attachment = .opened hive session) :
      Effect file .close none { file with attachment := .closed session.raised }
  | recoded {name : String} {codepage : Codepage} (known : Codepage.ofName name = .ok codepage) :
      Effect file (.setCodepage name) none
        { codepage, attachment := file.attachment.recoded codepage }
  | signalled :
      Effect file .signalAbort none
        { file with attachment := file.attachment.signalled }
  | told {request : Request} (asks : request = .fileType ∨ request = .formatVersion) :
      Effect file request none file
  | worked {hive : Hive} {session : Session} (holds : file.attachment = .opened hive session)
      {α : Type} (operation : Operation α) :
      Effect file (.reading operation) (failureOf ((operation.run hive).answer session))
        { file with attachment := .opened hive ((operation.run hive).after session) }
  /-- Before it comes to a source, a request fails on its own account. -/
  | refused {request : Request} (asks : request ≠ .signalAbort) (idle : request.work? file = none)
      (error : Error) (own : error.kind ≠ .aborted) : Effect file request (some error) file

theorem Request.effect (request : Request) (file : File) :
    request.Effect file (failureOf (request.answer file)) (request.after file) := by
  cases request with
  | opening place mode signals =>
    have runs := place.run_opening mode signals file
    cases found : place.source mode file with
    | error error =>
      simp only [found] at runs
      rw [(of_error runs).1, (of_error runs).2]
      have idle : work? (.opening place mode signals) file = none := by simp only [work?, found]
      exact .refused (by simp) idle error (place.failsAs_source mode file error found)
    | ok source =>
      simp only [found, File.attach] at runs
      cases attached : Hive.attach file.codepage { source, signals, raised := file.raised } with
      | ok hive session =>
        simp only [attached] at runs
        rw [(of_ok runs).1, (of_ok runs).2]
        exact .attached found attached
      | error error session =>
        simp only [attached] at runs
        rw [(of_error runs).1, (of_error runs).2]
        exact .rejected found attached
  | close =>
    obtain ⟨codepage, attachment⟩ := file
    cases attachment with
    | closed raised => exact .refused (by simp) rfl (.notOpen "close") (by simp [Error.kind])
    | opened hive session => exact .closed rfl
  | setCodepage name =>
    have runs := run_setCodepage name file
    cases known : Codepage.ofName name with
    | error error =>
      simp only [known] at runs
      rw [(of_error runs).1, (of_error runs).2]
      exact .refused (by simp) rfl error (Codepage.failsAs_ofName name error known)
    | ok codepage =>
      simp only [known] at runs
      rw [(of_ok runs).1, (of_ok runs).2]
      exact .recoded known
  | signalAbort =>
    obtain ⟨codepage, attachment⟩ := file
    cases attachment with
    | closed raised => exact .signalled
    | opened hive session => exact .signalled
  | fileType =>
    obtain ⟨codepage, attachment⟩ := file
    cases attachment with
    | closed raised => exact .refused (by simp) rfl (.notOpen "file_type") (by simp [Error.kind])
    | opened hive session => exact .told (.inl rfl)
  | formatVersion =>
    obtain ⟨codepage, attachment⟩ := file
    cases attachment with
    | closed raised => exact .refused (by simp) rfl (.notOpen "format_version") (by simp [Error.kind])
    | opened hive session => exact .told (.inr rfl)
  | reading operation =>
    obtain ⟨codepage, attachment⟩ := file
    cases attachment with
    | closed raised => exact .refused (by simp) rfl (.notOpen operation.title) (by simp [Error.kind])
    | opened hive session =>
      have effect : Effect ⟨codepage, .opened hive session⟩ (.reading operation) _ _ :=
        .worked rfl operation
      cases ended : operation.run hive session with
      | ok value later =>
        have runs : Request.run (.reading operation) ⟨codepage, .opened hive session⟩ =
            .ok value ⟨codepage, .opened hive later⟩ := by
          simp only [Request.run, File.onHive, ended]
        simp only [Action.answer, Action.after, ended] at effect
        rw [(of_ok runs).1, (of_ok runs).2]
        exact effect
      | error error later =>
        have runs : Request.run (.reading operation) ⟨codepage, .opened hive session⟩ =
            .error error ⟨codepage, .opened hive later⟩ := by
          simp only [Request.run, File.onHive, ended]
        simp only [Action.answer, Action.after, ended] at effect
        rw [(of_error runs).1, (of_error runs).2]
        exact effect

/-- What happens in the use of a handle, as far as signals are concerned. -/
inductive Tick where
  | signal
  | event (event : Event)
  /-- A request other than a signal comes to its answer. -/
  | ended (aborted : Bool)
deriving DecidableEq

/-- The ticks of new events, with the signals just before each. All are latest first. -/
def Signals.ticks (signals : Signals) (earlier : List Event) : List Event → List Tick
  | [] => []
  | event :: rest =>
    .event event :: (List.replicate (signals (event :: (rest ++ earlier))) .signal ++
      signals.ticks earlier rest)

/-- Whether a result tells of an abort. -/
def aborted {α : Type} (result : Except Error α) : Bool :=
  (failureOf result).any (·.kind = .aborted)

def Work.ticks (work : Work) : List Tick :=
  let final := work.action.after work.session
  work.session.signals.ticks work.session.trace (final.since work.session)

/-- The ticks of a request, latest first. -/
def Request.ticks (request : Request) (file : File) : List Tick :=
  match request with
  | .signalAbort => [.signal]
  | _ => .ended (aborted (request.answer file)) ::
    match request.work? file with
    | none => []
    | some work => work.ticks

/-- A request with its answer. -/
structure Record where
  request : Request
  answer : Except Error request.Answer

/-- A handle, which is new at first, and what has happened to it, latest first. -/
structure Usage where
  file : File := {}
  log : List Record := []
  ticks : List Tick := []

namespace Usage

def serve (usage : Usage) (request : Request) : Usage where
  file := request.after usage.file
  log := ⟨request, request.answer usage.file⟩ :: usage.log
  ticks := request.ticks usage.file ++ usage.ticks

def serveAll (usage : Usage) (requests : List Request) : Usage := requests.foldl serve usage

end Usage

end RegistryHive
