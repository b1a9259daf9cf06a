import RegistryHive.Source
import RegistryHive.DataBlock
import RegistryHive.KeyNameEntry
import RegistryHive.Navigation
import Std.Data.TreeMap

/-! What reading from an open registry file leaves behind: the source, the caches, the abort flag,
and a trace of all that a signal can come between. -/
namespace RegistryHive

/-- A point at which an abort signal that came before it makes a difference. -/
inductive Event where
  | read (offset length : Nat)
  | check
deriving DecidableEq, Repr

/-- The number of abort signals that come just before the first event of a trace, latest first. -/
abbrev Signals := List Event → Nat

def Signals.never : Signals := fun _ => 0

/-- Orders locations by block, then by entry. -/
def Location.compare (left right : Location) : Ordering :=
  compareLex (compareOn Location.block) (compareOn Location.entry) left right

instance : Std.TransCmp Location.compare := by unfold Location.compare; infer_instance

instance : Std.LawfulEqCmp Location.compare where
  eq_of_compare {left right} same := by
    simp only [Location.compare, compareLex, compareOn, Ordering.then_eq_eq, Nat.compare_eq_eq] at same
    cases left
    cases right
    simp_all

structure Session where
  source : Source
  signals : Signals := .never
  trace : List Event := []
  /-- Whether an abort was signalled that no operation has answered yet. -/
  raised : Bool := false
  /-- The data blocks read so far. -/
  blocks : Std.TreeMap Nat DataBlock := ∅
  /-- The key name entries parsed so far. -/
  entries : Std.TreeMap Location KeyNameEntry Location.compare := ∅

/-- Lets the signals before an event arrive. -/
def Session.meet (session : Session) (event : Event) : Session :=
  let trace := event :: session.trace
  { session with trace, raised := session.raised || 0 < session.signals trace }

/-- An operation on an open registry file. What it did stays done when it fails. -/
abbrev Action := EStateM Error Session

namespace Action

variable {α : Type}

def ofExcept (result : Except Error α) : Action α := fun session =>
  match result with
  | .ok value => .ok value session
  | .error error => .error error session

instance : MonadLift (Except Error) Action := ⟨ofExcept⟩

/-- Fails if an abort was signalled, and takes the signal back. -/
def checkAbort (operation : String) : Action Unit := fun session =>
  let session := session.meet .check
  if session.raised then .error (.aborted operation) { session with raised := false }
  else .ok () session

/-- Reads from the source. Only what reaches the source is an event: no bytes, or bytes out of its
bounds, do not. -/
def read (offset length : Nat) : Action Bytes := fun session =>
  let session :=
    if session.source.holds offset length && length != 0 then session.meet (.read offset length)
    else session
  let (result, source) := session.source.read offset length
  ofExcept result { session with source }

end Action

end RegistryHive
