import RegistryHive.Bytes

namespace RegistryHive

structure Stream where
  content : Array UInt8
  /-- The length that measuring the stream gives, whatever it really holds. -/
  reported : Nat
  cursor : Nat
deriving Repr

namespace Stream

def ofBytes (content : Array UInt8) : Stream := ⟨content, content.size, 0⟩

def seek (stream : Stream) (position : Nat) : Stream := { stream with cursor := position }

/-- Reads up to `count` bytes, fewer only at the end of the stream. -/
def read (stream : Stream) (count : Nat) : Bytes × Stream :=
  let data := (stream.content.extract stream.cursor (stream.cursor + count)).toList
  (data, { stream with cursor := stream.cursor + data.length })

/-- Reads `count` bytes or fails. -/
def readExact (stream : Stream) (count : Nat) : Except Error Bytes × Stream :=
  let (data, after) := stream.read count
  if data.length = count then (.ok data, after) else (.error (.io .endedEarly), after)

/-- Whether a registry file begins at the start of the stream, wherever its cursor is. -/
def isRegistryFile (stream : Stream) : Except Error Bool × Stream :=
  let (data, after) := (stream.seek 0).read 4
  if data.length < 4 then (.error (.truncated 0 4 data.length), after)
  else (.ok (Signature.file.opens data), after)

end Stream

/-- A stream of some other kind, such as a device: what a read gives is a function of its place and its
length, and every read may fail. -/
structure Reader where
  /-- The length that measuring the reader gives. -/
  reported : Nat
  fill : (offset length : Nat) → Except IoFailure { data : Bytes // data.length = length }

/-- Reads `length` bytes at `offset` or fails. -/
def Reader.read (reader : Reader) (offset length : Nat) : Except Error Bytes :=
  match reader.fill offset length with
  | .ok data => .ok data.val
  | .error failure => .error (.io failure)

/-- What the file system has at a path. -/
inductive PathTarget where
  | missing
  | directory
  | file (content : Array UInt8)

namespace PathTarget

/-- Whether a registry file is at `path`. Only its first four bytes are read. -/
def isRegistryFile (target : PathTarget) (path : String) : Except Error Bool :=
  if path.isEmpty then .error (.invalidArgument "check_file_signature" .emptyPath)
  else
    match target with
    | .missing => .error (.io .noSuchFile)
    | .directory => .error (.io .isDirectory)
    | .file content => (Stream.ofBytes content).isRegistryFile.1

end PathTarget

/-- What an open registry file is read from, by position. -/
inductive Source where
  | mapped (content : Array UInt8)
  | stream (attached : Stream)
  | reader (attached : Reader)

namespace Source

/-- The size that bounds all reads. For a stream or a reader it is measured once. -/
def size : Source → Nat
  | .mapped content => content.size
  | .stream attached => attached.reported
  | .reader attached => attached.reported

/-- Maps the file at `path`, which must have at least `minimum` bytes. -/
def ofPath (path : String) (target : PathTarget) (minimum : Nat) : Except Error Source :=
  match target with
  | .missing => .error (.io .noSuchFile)
  | .directory => .error (.invalidArgument "open" (.notRegularFile path))
  | .file content =>
    if content.size < minimum then .error (.fileTooSmall content.size minimum)
    else .ok (.mapped content)

/-- Attaches a stream, which must report at least `minimum` bytes. -/
def ofStream (attached : Stream) (minimum : Nat) : Except Error Source :=
  if attached.reported < minimum then .error (.fileTooSmall attached.reported minimum)
  else .ok (.stream (attached.seek 0))

/-- Whether `length` bytes at `offset` end at or before the size of the source. -/
def holds (source : Source) (offset length : Nat) : Bool := offset + length ≤ source.size

/-- Reads `length` bytes at `offset`. -/
def read (source : Source) (offset length : Nat) : Except Error Bytes × Source :=
  if source.holds offset length then
    match source with
    | .mapped content => (.ok (content.extract offset (offset + length)).toList, source)
    | .stream attached =>
      let (data, after) := (attached.seek offset).readExact length
      (data, .stream after)
    | .reader attached => (attached.read offset length, source)
  else (.error (.truncated offset length (source.size - offset)), source)

def describe : Source → String
  | .mapped content => s!"Mapped({content.size})"
  | source => s!"Stream \x7b size: {source.size}, .. \x7d"

end Source

end RegistryHive
