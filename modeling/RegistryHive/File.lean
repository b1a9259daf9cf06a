import RegistryHive.Hive.Key

/-! The handle of a registry file, which is opened, read and closed, and may be opened again. The
codepage and a pending abort signal outlive what is open. -/
namespace RegistryHive

inductive AccessMode where
  | read
  | write
deriving DecidableEq, Repr

namespace AccessMode

def display : AccessMode → String
  | .read => "r"
  | .write => "w"

def ofText (text : String) : Except Error AccessMode :=
  if ["r", "rb"].contains text then .ok .read
  else if ["w", "wb", "a", "ab", "r+", "rb+", "r+b", "w+", "wb+", "w+b", "a+", "ab+", "a+b"].contains
      text then .ok .write
  else .error (.unsupportedMode "open" text)

end AccessMode

/-- What a handle holds, besides its codepage. -/
inductive Attachment where
  /-- Nothing, but an abort signal may be pending. -/
  | closed (raised : Bool)
  | opened (hive : Hive) (session : Session)

structure File where
  codepage : Codepage := .standard
  attachment : Attachment := .closed false

/-- An operation on a handle. What it did stays done when it fails. -/
abbrev FileAction := EStateM Error File

namespace FileAction

variable {α : Type}

def ofExcept (result : Except Error α) : FileAction α := fun file =>
  match result with
  | .ok value => .ok value file
  | .error error => .error error file

instance : MonadLift (Except Error) FileAction := ⟨ofExcept⟩

end FileAction

namespace File

variable {α : Type}

def isOpen (file : File) : Bool :=
  match file.attachment with
  | .closed _ => false
  | .opened .. => true

/-- Whether an abort signal is pending. -/
def raised (file : File) : Bool :=
  match file.attachment with
  | .closed raised => raised
  | .opened _ session => session.raised

def checkCanOpen (operation : String) (mode : AccessMode) : FileAction Unit := do
  require (mode = .read) (.unsupportedMode operation mode.display)
  require (!(← get).isOpen) (.alreadyOpen operation)

/-- Validates a source and keeps it if it is a registry file. -/
def attach (source : Source) (signals : Signals) : FileAction Unit := fun file =>
  match Hive.attach file.codepage { source, signals, raised := file.raised } with
  | .ok hive session => .ok () { file with attachment := .opened hive session }
  | .error error session => .error error { file with attachment := .closed session.raised }

/-- Opens what is at a path. -/
def openPath (path : String) (target : PathTarget) (mode : AccessMode)
    (signals : Signals := .never) : FileAction Unit := do
  checkCanOpen "open" mode
  require (!path.isEmpty) (.invalidArgument "open" .emptyPath)
  let source ← Source.ofPath path target Hive.minimumSize
  attach source signals

def openStream (stream : Stream) (mode : AccessMode) (signals : Signals := .never) :
    FileAction Unit := do
  checkCanOpen "open_stream" mode
  let source ← Source.ofStream stream Hive.minimumSize
  attach source signals

def close : FileAction Unit := do
  let file ← get
  match file.attachment with
  | .closed _ => throw (.notOpen "close")
  | .opened _ session => set { file with attachment := .closed session.raised }

/-- Makes the operation that runs, or the next one, stop. -/
def signalAbort : FileAction Unit := modify fun file =>
  match file.attachment with
  | .closed _ => { file with attachment := .closed true }
  | .opened hive session =>
    { file with attachment := .opened hive { session with raised := true } }

/-- Chooses the codepage of what is open and of what will be opened. -/
def setCodepage (name : String) : FileAction Unit := do
  let codepage ← Codepage.ofName name
  modify fun file =>
    match file.attachment with
    | .closed _ => { file with codepage }
    | .opened hive session =>
      { codepage, attachment := .opened { hive with codepage } session }

/-- Runs an operation on the open registry file. -/
def onHive (operation : String) (use : Hive → Action α) : FileAction α := fun file =>
  match file.attachment with
  | .closed _ => .error (.notOpen operation) file
  | .opened hive session =>
    match use hive session with
    | .ok value session => .ok value { file with attachment := .opened hive session }
    | .error error session => .error error { file with attachment := .opened hive session }

def fileType : FileAction HiveType := onHive "file_type" fun hive => return hive.hiveType

/-- The major and the minor version. -/
def formatVersion : FileAction (Nat × Nat) := onHive "format_version" fun hive =>
  return (hive.header.majorVersion, hive.header.minorVersion)

def rootKey : FileAction Key := onHive "root_key" Hive.rootKey

def keyByPath (path : String) : FileAction Key := onHive "key_by_path" (·.keyByPath path)

def describe (file : File) : String :=
  let hive :=
    match file.attachment with
    | .closed _ => "None"
    | .opened hive session => s!"Some({hive.describe session.source})"
  s!"File \x7b hive: {hive}, codepage: {file.codepage.title} \x7d"

end File

end RegistryHive
