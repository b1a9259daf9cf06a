import RegistryHive.Proofs.RoundTrip

namespace RegistryHive

namespace Chain

variable {chain : Chain}

theorem get_eq_ok {index : Nat} {key : Key} :
    chain.get index = .ok key ↔ chain.keys[index]? = some key := by
  unfold get
  cases found : chain.keys[index]? with
  | some other => simp
  | none => cases chain.failure <;> simp

end Chain

/-- Whether the key at `place` is the first with a name: the keys before it are there, their names can be
read, and they are others. -/
structure FirstNamed (stands : Nat → Key → Prop) (reads : Key → String → Prop) (name : String)
    (place : Nat) (key : Key) : Prop where
  listed : stands place key
  named : ∃ found, reads key found ∧ Name.same found name = true
  earlier : ∀ before < place, ∃ other found, stands before other ∧ reads other found ∧
    Name.same found name = false

namespace Access

variable (access : Access) (codepage : Codepage) (name : String)

/-- The first of some keys with a name. -/
abbrev FirstIn (keys : List Key) : Nat → Key → Prop :=
  FirstNamed (fun place key => keys[place]? = some key)
    (fun key found => access.name codepage key = .ok found) name

variable {access codepage name}

theorem firstIn_zero {key : Key} {rest : List Key} {found : String}
    (readable : access.name codepage key = .ok found) (same : Name.same found name = true) :
    access.FirstIn codepage name (key :: rest) 0 key :=
  ⟨rfl, ⟨found, readable, same⟩, fun place before => absurd before (Nat.not_lt_zero place)⟩

theorem firstIn_succ {key sub : Key} {rest : List Key} {index : Nat} {found : String}
    (first : access.FirstIn codepage name rest index sub)
    (readable : access.name codepage key = .ok found) (other : Name.same found name = false) :
    access.FirstIn codepage name (key :: rest) (index + 1) sub := by
  refine ⟨by simpa using first.listed, first.named, ?_⟩
  intro place before
  cases place with
  | zero => exact ⟨key, found, rfl, readable, other⟩
  | succ place =>
    obtain ⟨other, found, listed, differs⟩ := first.earlier place (Nat.lt_of_succ_lt_succ before)
    exact ⟨other, found, by simpa using listed, differs⟩

theorem firstIn_of_succ {key sub : Key} {rest : List Key} {index : Nat}
    (first : access.FirstIn codepage name (key :: rest) (index + 1) sub) :
    access.FirstIn codepage name rest index sub ∧
      ∃ found, access.name codepage key = .ok found ∧ Name.same found name = false := by
  constructor
  · refine ⟨by simpa using first.listed, first.named, ?_⟩
    intro place before
    obtain ⟨other, found, listed, differs⟩ := first.earlier (place + 1) (Nat.succ_lt_succ before)
    exact ⟨other, found, by simpa using listed, differs⟩
  · obtain ⟨other, found, listed, differs⟩ := first.earlier 0 (Nat.succ_pos index)
    have same : key = other := by simpa using listed
    rw [same]
    exact ⟨found, differs⟩

/-- The first key decides unless it has another name. -/
theorem exists_firstIn_cons {key sub : Key} {rest : List Key} :
    (∃ index, access.FirstIn codepage name (key :: rest) index sub) ↔
      ∃ found, access.name codepage key = .ok found ∧
        if Name.same found name = true then key = sub
        else ∃ index, access.FirstIn codepage name rest index sub := by
  constructor
  · intro ⟨place, first⟩
    cases place with
    | zero =>
      have here : key = sub := by simpa using first.listed
      obtain ⟨found, readable, same⟩ := first.named
      rw [← here] at readable
      exact ⟨found, readable, by rw [if_pos same]; exact here⟩
    | succ place =>
      obtain ⟨later, found, readable, other⟩ := firstIn_of_succ first
      exact ⟨found, readable, by rw [other]; exact ⟨place, later⟩⟩
  · intro ⟨found, readable, decided⟩
    cases same : Name.same found name with
    | true =>
      rw [if_pos same] at decided
      rw [← decided]
      exact ⟨0, firstIn_zero readable same⟩
    | false =>
      rw [same] at decided
      obtain ⟨index, first⟩ := decided
      exact ⟨index + 1, firstIn_succ first readable same⟩

/-- The search for a name finds the first key with it, and nothing else. -/
theorem findSubKey_eq_some {key sub : Key} :
    access.findSubKey codepage key name = .ok (some sub) ↔
      ∃ index, access.FirstIn codepage name (access.chain key).keys index sub := by
  unfold findSubKey
  generalize access.chain key = chain
  obtain ⟨keys, failure⟩ := chain
  induction keys with
  | nil =>
    constructor
    · intro found
      cases failure <;> cases found
    · intro ⟨index, first⟩
      simpa using first.listed
  | cons key rest ih =>
    rw [Chain.visit_cons _ none key ⟨rest, failure⟩, exists_firstIn_cons, ← ih]
    cases access.name codepage key with
    | error error => simp [bind, Except.bind]
    | ok found =>
      by_cases same : Name.same found name = true
      · simp [bind, Except.bind, pure, Except.pure, same]
      · simp [bind, Except.bind, pure, Except.pure, same]

theorem descend_cons {path : String} {key target : Key} {rest : List String} :
    access.descend codepage path key (name :: rest) = .ok target ↔
      ∃ sub, access.findSubKey codepage key name = .ok (some sub) ∧
        access.descend codepage path sub rest = .ok target := by
  rw [descend]
  cases access.findSubKey codepage key name with
  | error error => simp [bind, Except.bind]
  | ok found => cases found <;> simp [bind, Except.bind, throw, throwThe, MonadExceptOf.throw]

end Access

namespace Opened

/-- The first sub key with a name, among those that a walk along the siblings reads before it ends or
fails. -/
abbrev FirstSubKey (opened : Opened) (key : Key) : String → Nat → Key → Prop :=
  FirstNamed (fun index sub => opened.Gives (.subKey key index) sub)
    (fun sub found => opened.Gives (.name sub) found)

/-- A way down from a key, to the first sub key with each of the names. -/
inductive Descends (opened : Opened) : Key → List String → Key → Prop where
  | here (key : Key) : opened.Descends key [] key
  | down (first : opened.FirstSubKey key name index sub) (rest : opened.Descends sub names target) :
      opened.Descends key (name :: names) target

/-- A way down from a key by the places of sub keys, and the names it leads through. No name is empty or
has a separator in it, and none is hidden by a sibling before it. -/
inductive Addresses (opened : Opened) : Key → List String → Key → Prop where
  | here (key : Key) : opened.Addresses key [] key
  | down (reached : opened.Gives (.subKey key index) sub) (named : opened.Gives (.name sub) name)
      (nonempty : name ≠ "") (plain : '\\' ∉ name.toList)
      (visible : ∀ place < index, ∀ other, opened.Gives (.subKey key place) other →
        ∃ found, opened.Gives (.name other) found ∧ Name.same found name = false)
      (rest : opened.Addresses sub names target) : opened.Addresses key (name :: names) target

end Opened

/-- The spellings of a path: its names with one or more separators between them, and any number before and
after them. -/
inductive Name.Joins : List String → List Char → Prop where
  | nil : Joins [] []
  | separator (rest : Joins names path) : Joins names ('\\' :: path)
  | last (name : String) : Joins [name] name.toList
  | name (name : String) (rest : Joins names path) : Joins (name :: names) (name.toList ++ '\\' :: path)

namespace Name

theorem segments_eq_splitOn (path : String) :
    segments path =
      ((path.toList.splitOn '\\').filter fun segment => !segment.isEmpty).map String.ofList := by
  rw [segments, Text.runs_eq_splitOnP, List.splitOn_eq_splitOnP]

/-- Two spellings are of one name just when they are equally long, with characters of the same uppercase form at
every place. -/
theorem same_iff_forall₂ {left right : String} : same left right = true ↔
    List.Forall₂ (fun one other => Text.upper one = Text.upper other) left.toList right.toList := by
  rw [same, beq_iff_eq, folded, folded, ← List.forall₂_eq_eq_eq, List.forall₂_map_left_iff,
    List.forall₂_map_right_iff]

theorem same_self (name : String) : same name name = true :=
  same_iff_forall₂.mpr (List.forall₂_same.mpr fun _ _ => rfl)

/-- Whether all names can stand in a path. -/
def Plain (names : List String) : Prop := ∀ name ∈ names, name ≠ "" ∧ '\\' ∉ name.toList

theorem runs_of_plain {name : String} (nonempty : name ≠ "") (plain : '\\' ∉ name.toList) :
    Text.runs (· == '\\') name.toList = [name.toList] := by
  have some : name.toList.isEmpty = false := by simpa using nonempty
  rw [Text.runs_of_free plain, Text.keepRun, some]
  rfl

/-- However names are joined, they are the segments of the path. -/
theorem segments_of_joins {names : List String} {path : List Char} (joins : Joins names path)
    (plain : Plain names) : (Text.runs (· == '\\') path).map String.ofList = names := by
  have split (before after : List Char) := Text.runs_append_cons (· == '\\') before after
    (beq_self_eq_true '\\')
  induction joins with
  | nil => rfl
  | @separator names path rest ih =>
    rw [← List.nil_append ('\\' :: path), split]
    exact ih plain
  | last name =>
    obtain ⟨nonempty, without⟩ := plain name List.mem_cons_self
    rw [runs_of_plain nonempty without]
    simp
  | name name rest ih =>
    obtain ⟨nonempty, without⟩ := plain name List.mem_cons_self
    rw [split, runs_of_plain nonempty without, List.map_append,
      ih fun other member => plain other (List.mem_cons_of_mem _ member)]
    simp

end Name

namespace Opened

variable {opened : Opened} {hive : Hive} {reads : Reads}

section

variable (follows : opened.Follows hive reads) (quiet : opened.session.Quiet)

include follows quiet

theorem Follows.gives_subKey_iff {key sub : Key} {index : Nat} :
    opened.Gives (.subKey key index) sub ↔
      ((reads.access opened.hive).chain key).keys[index]? = some sub :=
  (follows.gives_iff quiet).trans Chain.get_eq_ok

theorem Follows.gives_subKey_of_subKeys {key sub : Key} {keys : List Key} {index : Nat}
    (listed : opened.Gives (.subKeys key) keys) (found : keys[index]? = some sub) :
    opened.Gives (.subKey key index) sub := by
  have whole := Chain.whole_eq_ok.mp ((follows.gives_iff quiet).mp listed)
  rw [follows.gives_subKey_iff quiet, whole]
  exact found

theorem Follows.gives_name_iff {key : Key} {name : String} :
    opened.Gives (.name key) name ↔
      (reads.access opened.hive).name opened.hive.codepage key = .ok name :=
  follows.gives_iff quiet

theorem Follows.firstSubKey_iff {key sub : Key} {name : String} {index : Nat} :
    opened.FirstSubKey key name index sub ↔
      (reads.access opened.hive).FirstIn opened.hive.codepage name
        ((reads.access opened.hive).chain key).keys index sub := by
  simp only [FirstSubKey, Access.FirstIn, follows.gives_subKey_iff quiet, follows.gives_name_iff quiet]

theorem Follows.descends_iff {path : String} {key target : Key} {names : List String} :
    opened.Descends key names target ↔
      (reads.access opened.hive).descend opened.hive.codepage path key names = .ok target := by
  induction names generalizing key with
  | nil =>
    constructor
    · intro way
      cases way
      rfl
    · intro same
      cases same
      exact .here _
  | cons name rest ih =>
    rw [Access.descend_cons]
    constructor
    · intro way
      cases way with
      | @down _ _ index sub _ _ first below =>
        refine ⟨sub, Access.findSubKey_eq_some.mpr ⟨index, ?_⟩, ih.mp below⟩
        exact (follows.firstSubKey_iff quiet).mp first
    · intro ⟨sub, found, below⟩
      obtain ⟨index, first⟩ := Access.findSubKey_eq_some.mp found
      exact .down ((follows.firstSubKey_iff quiet).mpr first) (ih.mpr below)

/-- Keys before one that a walk reads are read too. -/
theorem Follows.descends_of_addresses {key target : Key} {names : List String}
    (addresses : opened.Addresses key names target) : opened.Descends key names target := by
  induction addresses with
  | here key => exact .here key
  | @down key index sub name names target reached named nonempty plain visible rest ih =>
    refine .down ⟨reached, ⟨name, named, Name.same_self name⟩, ?_⟩ ih
    intro place before
    -- a walk that comes to this key has come to all places before it
    obtain ⟨within, _⟩ :=
      List.getElem?_eq_some_iff.mp ((follows.gives_subKey_iff quiet).mp reached)
    have listed := List.getElem?_eq_getElem (Nat.lt_trans before within)
    have given := (follows.gives_subKey_iff quiet).mpr listed
    obtain ⟨found, readable, differs⟩ := visible place before _ given
    exact ⟨_, found, given, readable, differs⟩

theorem Follows.gives_keyByPath_iff {path : String} {key : Key} :
    opened.Gives (.keyByPath path) key ↔
      ∃ root, opened.Gives .rootKey root ∧ opened.Descends root (Name.segments path) key := by
  rw [follows.gives_iff quiet]
  constructor
  · intro found
    obtain ⟨root, rooted, below⟩ := exists_of_bind found
    exact ⟨root, (follows.gives_iff quiet).mpr rooted, (follows.descends_iff quiet).mpr below⟩
  · intro ⟨root, rooted, below⟩
    have start : (reads.access opened.hive).rootKey = .ok root := (follows.gives_iff quiet).mp rooted
    simp only [Operation.reading, start]
    exact (follows.descends_iff quiet).mp below

end

theorem Addresses.plain {key target : Key} {names : List String}
    (addresses : opened.Addresses key names target) : Name.Plain names := by
  induction addresses with
  | here key => exact fun name member => absurd member List.not_mem_nil
  | down reached named nonempty plain visible rest ih =>
    intro name member
    rcases List.mem_cons.mp member with same | later
    · rw [same]
      exact ⟨nonempty, plain⟩
    · exact ih name later

end Opened

/-- Whatever was done with an open file before, a path leads to the key at the end of the descent along its
nonempty segments and to no other, and a descent along names that can stand in a path is one along every
path that joins them. -/
theorem keyByPath_iff_descends {source : Source} {signals : Signals} {raised : Bool}
    {codepage : Codepage} {hive : Hive} {session : Session}
    (opens : Hive.attach codepage { source, signals, raised } = .ok hive session)
    (history : List Happening) (quiet : (Opened.after ⟨hive, session⟩ history).session.Quiet) :
    let now := Opened.after ⟨hive, session⟩ history
    (∀ path key, now.Gives (.keyByPath path) key ↔ ∃ root, now.Gives .rootKey root ∧
      now.Descends root
        (((path.toList.splitOn '\\').filter fun segment => !segment.isEmpty).map String.ofList) key) ∧
    ∀ root names key path, now.Gives .rootKey root → now.Addresses root names key →
      Name.Joins names path.toList → now.Gives (.keyByPath path) key := by
  intro now
  have follows := (Opened.follows_of_attach opens).after history
  constructor
  · intro path key
    rw [← Name.segments_eq_splitOn]
    exact follows.gives_keyByPath_iff quiet
  · intro root names key path rooted addresses joins
    refine (follows.gives_keyByPath_iff quiet).mpr ⟨root, rooted, ?_⟩
    rw [Name.segments, Name.segments_of_joins joins addresses.plain]
    exact follows.descends_of_addresses quiet addresses

/-- The only sub key of a root key, by a path with more separators than it takes. -/
theorem keyByPath_iff_descends_one_key :
    let keys : Siblings := .cons (some ⟨[0x61], []⟩) .nil .nil
    let source : Source := .mapped (keys.toBytes 1).toArray
    let history : List Happening := [.operation .rootKey]
    ∃ hive session, Hive.attach .standard { source } = .ok hive session ∧
      let now := Opened.after ⟨hive, session⟩ history
      now.session.Quiet ∧ ∃ root key, now.Gives .rootKey root ∧ now.Addresses root ["a"] key ∧
        now.Gives (.keyByPath "\\a\\\\") key := by
  intro keys source history
  have record : KeyRecord.Fits ⟨[0x61], []⟩ := KeyRecord.fits_of_name (by decide)
  obtain ⟨hive, session, opens, quiet, root, listed, rooted, shown, shows⟩ :=
    Siblings.exists_attached (Siblings.fits_single record (by decide)) .standard
  have follows := Opened.follows_of_attach opens
  have later := follows.quiet_after quiet history (by simp [history])
  have now := follows.after history
  cases shows with
  | @cons key _ _ _ _ _ _ here below after =>
    cases after
    have first := now.gives_subKey_of_subKeys later (shown.subKeys history later)
      (List.getElem?_cons_zero : [key][0]? = some key)
    have spelled : Codepage.decode (Opened.after ⟨hive, session⟩ history).hive.codepage [0x61] =
        "a" := by
      have same : (Opened.after ⟨hive, session⟩ history).hive.codepage = hive.codepage := rfl
      rw [same, Hive.codepage_of_attach opens]
      decide +kernel
    have named := here.name history later
    dsimp only [Option.map_some, Option.getD_some] at named
    rw [spelled] at named
    have addresses : Opened.Addresses (Opened.after ⟨hive, session⟩ history) root ["a"] key :=
      .down first named (by decide) (by decide)
        (fun place before => absurd before (Nat.not_lt_zero place)) (.here key)
    have joins : Name.Joins ["a"] "\\a\\\\".toList := by
      have letters : "\\a\\\\".toList = '\\' :: ("a".toList ++ '\\' :: ['\\']) := by decide
      rw [letters]
      exact .separator (.name "a" (.separator .nil))
    have start := rooted history later
    obtain ⟨_, found⟩ := keyByPath_iff_descends opens history later
    exact ⟨hive, session, opens, later, root, key, start, addresses,
      found root ["a"] key _ start addresses joins⟩

end RegistryHive
