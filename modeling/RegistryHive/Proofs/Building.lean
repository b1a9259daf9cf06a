import RegistryHive.Proofs.Calls
import RegistryHive.Proofs.SiblingChains

namespace RegistryHive

/-- How an operation on the hierarchy goes on, and the keys that it builds, in their order. -/
inductive Builds (hive : Hive) (first : Session) : List Key → Session → Prop where
  | start : Builds hive first [] first
  | check (before : Builds hive first built session) (operation : String) :
      Builds hive first built ((Action.checkAbort operation).after session)
  | key (before : Builds hive first built session) (holds : hive.navigation.Holds offset)
      (found : (Hive.readKey offset).answer session = .ok key) :
      Builds hive first (built ++ [key]) ((Hive.readKey offset).after session)

/-- How an operation on the hierarchy ends, with a value that belongs to the keys built, or with an error.
A read that fails builds no key. -/
inductive BuildsTo {α : Type} (hive : Hive) (first : Session) (lists : α → List Key → Prop) :
    EStateM.Result Error Session α → Prop where
  | value (builds : Builds hive first built session) (listed : lists value built) :
      BuildsTo hive first lists (.ok value session)
  | failure (builds : Builds hive first built session) (error : Error) :
      BuildsTo hive first lists (.error error session)
  | unread (builds : Builds hive first built session) (holds : hive.navigation.Holds offset)
      (failed : (Hive.readKey offset).answer session = .error error) :
      BuildsTo hive first lists (.error error ((Hive.readKey offset).after session))

/-- The keys that a walk from an offset onward shows its visitor, up to the end of the chain or to the key
that the visitor is done with. -/
inductive Shown {β : Type} (keyAt : Nat → Except Error Key) (owner : Nat)
    (visit : β → Key → ForInStep β) : List Nat → Option Nat → β → List Key → β → Prop where
  | ends (passed : List Nat) (state : β) : Shown keyAt owner visit passed none state [] state
  | done (fresh : offset ∉ owner :: passed) (read : keyAt offset = .ok key)
      (stops : visit state key = .done final) :
      Shown keyAt owner visit passed (some offset) state [key] final
  | goes (fresh : offset ∉ owner :: passed) (read : keyAt offset = .ok key)
      (onward : visit state key = .yield following)
      (rest : Shown keyAt owner visit (passed ++ [offset]) (storedOffset key.entry.nextSibling)
        following keys final) :
      Shown keyAt owner visit passed (some offset) state (key :: keys) final

/-- One read of a hierarchy entry for each key built, the latest first, and perhaps one more that failed and
ended the operation. -/
inductive EntryReads {α : Type} (reads : Reads) (built : List Key) (result : Except Error α) :
    List Event → Prop where
  | all : EntryReads reads built result (built.map fun key => .entry key.offset).reverse
  | unread (failed : reads.readKey offset = .error error) (ends : result = .error error) :
      EntryReads reads built result (.entry offset :: (built.map fun key => .entry key.offset).reverse)

namespace Shown

variable {β : Type} {keyAt : Nat → Except Error Key} {owner : Nat} {passed : List Nat}
  {next : Option Nat} {keys : List Key}

/-- What is shown stands at the beginning of the chain. -/
theorem isPrefix {visit : β → Key → ForInStep β} {start final : β}
    (shown : Shown keyAt owner visit passed next start keys final) {all : List Key}
    {stop : Option Error} (walk : SiblingWalk keyAt owner passed next all stop) : keys <+: all := by
  induction shown generalizing all with
  | ends passed state => exact List.nil_prefix
  | done fresh read stops =>
    obtain ⟨later, listed, _⟩ := walk.cons_of_read fresh read
    rw [listed]
    exact List.prefix_append _ later
  | goes fresh read onward rest ih =>
    obtain ⟨later, listed, following⟩ := walk.cons_of_read fresh read
    rw [listed]
    exact List.prefix_cons_inj _ |>.mpr (ih following)

section

variable {step : β → Key → β} {start final : β}
  (shown : Shown keyAt owner (fun state key => .yield (step state key)) passed next start keys final)

include shown

/-- A visitor that is never done is shown the whole chain. -/
theorem walk_of_yield : SiblingWalk keyAt owner passed next keys none := by
  induction shown with
  | ends passed state => exact .ends passed
  | done fresh read stops => cases stops
  | goes fresh read onward rest ih => exact .key fresh read ih

theorem foldl_eq : keys.foldl step start = final := by
  induction shown with
  | ends passed state => rfl
  | done fresh read stops => cases stops
  | goes fresh read onward rest ih =>
    cases onward
    exact ih

end

/-- The visitor that looks for the key at a place. -/
def stopAt (index : Nat) (state : Nat × Option Key) (key : Key) : ForInStep (Nat × Option Key) :=
  if state.1 = index then .done (state.1, some key) else .yield (state.1 + 1, none)

theorem of_stopAt {index count found : Nat} {key : Key}
    (shown : Shown keyAt owner (stopAt index) passed next (count, none) keys (found, some key))
    (before : count ≤ index) : count + keys.length = index + 1 ∧ keys[index - count]? = some key := by
  induction keys generalizing passed next count with
  | nil => cases shown
  | cons first others ih =>
    cases shown with
    | done fresh read stops =>
      unfold stopAt at stops
      split at stops
      · rename_i here
        cases stops
        have same : count = index := here
        simp [same]
      · cases stops
    | goes fresh read onward rest =>
      unfold stopAt at onward
      split at onward
      · cases onward
      · rename_i elsewhere
        cases onward
        have other : count ≠ index := elsewhere
        have further : index - count = index - (count + 1) + 1 := by omega
        obtain ⟨length, listed⟩ := ih rest (by omega)
        refine ⟨by simpa [Nat.add_assoc, Nat.add_comm 1] using length, ?_⟩
        rw [further]
        exact listed

end Shown

namespace Hive

variable {session : Session}

theorem caches_after_readKey (offset : Nat) (session : Session) :
    ((readKey offset).after session).blocks = session.blocks ∧
      ((readKey offset).after session).entries = session.entries := by
  rw [after_readKey]
  exact Action.caches_after_read _ _ _

end Hive

theorem Reads.offset_of_readKey {reads : Reads} {offset : Nat} {key : Key}
    (found : reads.readKey offset = .ok key) : key.offset = offset := by
  obtain ⟨data, _, found⟩ := exists_of_bind found
  obtain ⟨entry, _, same⟩ := exists_of_bind found
  cases same
  rfl

namespace Builds

variable {hive : Hive} {first middle session : Session} {built earlier later : List Key}

theorem append (before : Builds hive first earlier middle) (after : Builds hive middle later session) :
    Builds hive first (earlier ++ later) session := by
  induction after with
  | start =>
    rw [List.append_nil]
    exact before
  | check _ operation ih => exact ih.check operation
  | key _ holds found ih =>
    rw [← List.append_assoc]
    exact ih.key holds found

theorem continues (builds : Builds hive first built session) : session.Continues first := by
  induction builds with
  | start => exact .refl first
  | check _ operation ih => exact (Action.continues_after_checkAbort operation _).trans ih
  | key _ holds _ ih => exact (Call.Made.key holds).continues.trans ih

theorem caches (builds : Builds hive first built session) :
    session.blocks = first.blocks ∧ session.entries = first.entries := by
  induction builds with
  | start => exact ⟨rfl, rfl⟩
  | @check _ session _ operation ih =>
    obtain ⟨blocks, entries⟩ := Action.caches_after_checkAbort operation session
    exact ⟨blocks.trans ih.1, entries.trans ih.2⟩
  | @key _ session offset _ _ _ _ ih =>
    obtain ⟨blocks, entries⟩ := Hive.caches_after_readKey offset session
    exact ⟨blocks.trans ih.1, entries.trans ih.2⟩

/-- What is built is what the source has. -/
theorem found (builds : Builds hive first built session) :
    ∀ key ∈ built, Reads.readKey first.source.fetch key.offset = .ok key := by
  induction builds with
  | start =>
    intro key member
    cases member
  | check _ _ ih => exact ih
  | key before _ given ih =>
    intro key member
    rcases List.mem_append.mp member with earlier | last
    · exact ih key earlier
    · rw [List.mem_singleton.mp last]
      have same := before.continues.fetch
      rw [Hive.answer_readKey, same] at given
      rw [Reads.offset_of_readKey given]
      exact given

theorem since_readKey (builds : Builds hive first built session)
    (stays : hive.StaysIn (endsBy first.source.size)) {offset : Nat}
    (holds : hive.navigation.Holds offset) :
    (((Hive.readKey offset).after session).since first).filter Event.isRead =
      .entry offset :: (session.since first).filter Event.isRead := by
  rw [← builds.continues.size] at stays
  have grown : ((Hive.readKey offset).after session).since first =
      [.entry offset] ++ session.since first :=
    builds.continues.since_after (Hive.trace_after_readKey stays holds)
  rw [grown]
  rfl

/-- Every key built was read once, and nothing else was read. -/
theorem reads (builds : Builds hive first built session)
    (stays : hive.StaysIn (endsBy first.source.size)) :
    (session.since first).filter Event.isRead = (built.map fun key => .entry key.offset).reverse := by
  induction builds with
  | start =>
    have nothing : first.since first = [] := Session.since_eq rfl
    rw [nothing]
    rfl
  | @check built session before operation ih =>
    have checked : ((Action.checkAbort operation).after session).since first =
        [.check] ++ session.since first :=
      before.continues.since_after (Action.trace_after_checkAbort operation session)
    rw [checked]
    exact ih
  | @key built session offset key before holds given ih =>
    rw [before.since_readKey stays holds, ih, List.map_append, List.reverse_append]
    rw [Hive.answer_readKey] at given
    rw [← Reads.offset_of_readKey given]
    rfl

end Builds

namespace BuildsTo

variable {α : Type} {hive : Hive} {first session : Session} {lists : α → List Key → Prop}

theorem after {rest : α → List Key → Prop} {earlier : List Key}
    {outcome : EStateM.Result Error Session α} (builds : Builds hive first earlier session)
    (ends : BuildsTo hive session rest outcome)
    (joins : ∀ value later, rest value later → lists value (earlier ++ later)) :
    BuildsTo hive first lists outcome := by
  cases ends with
  | value further listed => exact .value (builds.append further) (joins _ _ listed)
  | failure further error => exact .failure (builds.append further) error
  | unread further holds failed => exact .unread (builds.append further) holds failed

/-- What an action built, and what it read and left for it. -/
theorem reads {action : Action α} (ends : BuildsTo hive session lists (action session))
    (stays : hive.StaysIn (endsBy session.source.size)) :
    let after := action.after session
    after.blocks = session.blocks ∧ after.entries = session.entries ∧
      ∃ built, (∀ key ∈ built, Reads.readKey session.source.fetch key.offset = .ok key) ∧
        EntryReads session.source.fetch built (action.answer session)
          ((after.since session).filter Event.isRead) ∧
        ∀ value, action.answer session = .ok value → lists value built := by
  unfold Action.after Action.answer
  generalize action session = outcome at ends
  cases ends with
  | value builds listed =>
    refine ⟨builds.caches.1, builds.caches.2, _, builds.found, ?_, ?_⟩
    · rw [builds.reads stays]
      exact .all
    · intro other same
      cases same
      exact listed
  | failure builds error =>
    refine ⟨builds.caches.1, builds.caches.2, _, builds.found, ?_, ?_⟩
    · rw [builds.reads stays]
      exact .all
    · intro value same
      cases same
  | @unread built between offset error builds holds failed =>
    obtain ⟨blocks, entries⟩ := Hive.caches_after_readKey offset between
    refine ⟨blocks.trans builds.caches.1, entries.trans builds.caches.2, built, builds.found, ?_, ?_⟩
    · rw [builds.since_readKey stays holds, builds.reads stays]
      rw [Hive.answer_readKey, builds.continues.fetch] at failed
      exact .unread failed rfl
    · intro value same
      cases same

end BuildsTo

/-- Whether an action, wherever it begins on a file, does no more than build keys, and its value belongs to
them. -/
def Action.Building {α : Type} (hive : Hive) (reads : Reads) (lists : α → List Key → Prop)
    (action : Action α) : Prop :=
  ∀ session : Session, session.source.fetch = reads → BuildsTo hive session lists (action session)

namespace Action.Building

variable {α β : Type} {hive : Hive} {reads : Reads} {action : Action α} {next : α → Action β}

theorem imp {lists other : α → List Key → Prop} (building : Building hive reads lists action)
    (implies : ∀ value built, lists value built → other value built) :
    Building hive reads other action := by
  intro session fetched
  exact .after .start (building session fetched) implies

theorem lift (result : Except Error α) {lists : α → List Key → Prop}
    (nothing : ∀ value, lists value []) : Building hive reads lists (ofExcept result) := by
  intro session _
  cases result with
  | ok value => exact .value .start (nothing value)
  | error error => exact .failure .start error

theorem pure {value : α} {lists : α → List Key → Prop} (nothing : lists value []) :
    Building hive reads lists (pure value : Action α) := fun _ _ => .value .start nothing

theorem throw (error : Error) {lists : α → List Key → Prop} :
    Building hive reads lists (throw error : Action α) := fun _ _ => .failure .start error

/-- What follows an action completes what it built. -/
theorem bind {first : α → List Key → Prop} {lists : β → List Key → Prop}
    (building : Building hive reads first action)
    (rest : ∀ value, Building hive reads
      (fun final later => ∀ earlier, first value earlier → lists final (earlier ++ later)) (next value)) :
    Building hive reads lists (action >>= next) := by
  intro session fetched
  have start := building session fetched
  simp only [Bind.bind, EStateM.bind]
  generalize action session = outcome at start
  cases start with
  | @value built between value builds listed =>
    have further := rest value between (builds.continues.fetch.trans fetched)
    exact .after builds further fun final later joins => joins built listed
  | failure builds error => exact .failure builds error
  | unread builds holds failed => exact .unread builds holds failed

/-- An action before that builds nothing. -/
theorem bind_still {lists : β → List Key → Prop}
    (still : Building hive reads (fun _ built => built = []) action)
    (rest : ∀ value, Building hive reads lists (next value)) :
    Building hive reads lists (action >>= next) := by
  apply still.bind
  intro value
  apply (rest value).imp
  intro final later listed earlier none
  rw [none]
  exact listed

theorem check (operation : String) :
    Building hive reads (fun _ built => built = []) (checkAbort operation) := by
  intro session _
  have builds : Builds hive session [] ((checkAbort operation).after session) := .check .start operation
  cases answered : (checkAbort operation).answer session with
  | ok value =>
    rw [eq_ok_of_answer answered]
    exact .value builds rfl
  | error error =>
    rw [eq_error_of_answer answered]
    exact .failure builds error

theorem readKey {offset : Nat} (holds : hive.navigation.Holds offset) :
    Building hive reads (fun key built => built = [key] ∧ reads.readKey offset = .ok key)
      (Hive.readKey offset) := by
  intro session fetched
  cases answered : (Hive.readKey offset).answer session with
  | ok key =>
    have builds : Builds hive session [key] ((Hive.readKey offset).after session) :=
      .key .start holds answered
    rw [eq_ok_of_answer answered]
    rw [Hive.answer_readKey, fetched] at answered
    exact .value builds ⟨rfl, answered⟩
  | error error =>
    rw [eq_error_of_answer answered]
    exact .unread .start holds answered

theorem keyAt (offset : Nat) :
    Building hive reads (fun key built => built = [key]) (hive.keyAt offset) := by
  apply bind_still (lift (hive.navigation.checkEntry offset) fun _ => rfl)
  intro inside
  exact (readKey inside.down).imp fun _ _ found => found.1

/-- A walk builds the keys that it shows to its visitor. -/
theorem walkFrom (owner : Nat) (visit : β → Key → ForInStep β) (passed : Passed hive.navigation)
    (next : Option Nat) (state : β) (behind : List Nat)
    (same : ∀ offset, offset ∈ behind ↔ offset ∈ passed.offsets) :
    Building hive reads
      (fun final built => Shown (reads.keyAt hive.navigation) owner visit behind next state built final)
      (hive.walkFrom owner (fun state key => return visit state key) passed next state) := by
  induction passed, next, state using Hive.walkFrom.induct hive owner generalizing behind with
  | case1 passed state =>
    rw [Hive.walkFrom]
    exact pure (.ends behind state)
  | case2 passed state offset ih =>
    rw [Hive.walkFrom]
    apply bind_still (check "sub_keys")
    intro _
    by_cases repeated : offset = owner ∨ offset ∈ passed.offsets
    · simp only [repeated, dite_true]
      exact throw _
    · simp only [repeated, dite_false]
      have fresh : offset ∉ owner :: behind := by rwa [List.mem_cons, same]
      apply bind_still (lift (hive.navigation.checkEntry offset) fun _ => rfl)
      intro inside
      -- this key is built before those that the rest of the walk builds
      apply (readKey inside.down).bind
      intro key
      rw [pure_bind]
      have read {found : Key} (read : reads.readKey offset = .ok found) :
          reads.keyAt hive.navigation offset = .ok found :=
        (reads.keyAt_of_holds inside.down).trans read
      cases visited : visit state key with
      | done final =>
        refine pure fun earlier given => ?_
        obtain ⟨listed, found⟩ := given
        rw [listed]
        exact .done fresh (read found) visited
      | yield following =>
        have onward := passed.mem_append same inside.down
        apply (ih repeated inside.down key following _ onward).imp
        intro final later shown earlier given
        obtain ⟨listed, found⟩ := given
        rw [listed]
        exact .goes fresh (read found) visited shown

/-- The walk along all sub keys of a key. -/
theorem walkSubKeys (key : Key) (visit : β → Key → ForInStep β) (start : β) :
    Building hive reads
      (fun final built => Shown (reads.keyAt hive.navigation) key.offset visit []
        (storedOffset key.entry.firstSubKey) start built final)
      (key.walkSubKeys hive (fun state sub => return visit state sub) start) :=
  walkFrom key.offset visit .nothing _ start [] (by simp [Passed.nothing])

end Action.Building

end RegistryHive
