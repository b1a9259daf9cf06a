import Mathlib.Data.List.Forall2
import RegistryHive.Proofs.Paths
import RegistryHive.Proofs.SubKeyReaders

namespace RegistryHive

/-- The same error, but for the name of what was not found. -/
def Error.quoting (name : String) : Error → Error
  | .notFound item _ => .notFound item name
  | error => error

/-- Errors of other kinds quote nothing that was looked for. -/
theorem FailsAs.mapError_quoting {α : Type} {result : Except Error α}
    (fails : FailsAs (· ≠ .notFound) result) (name : String) :
    result.mapError (Error.quoting name) = result := by
  cases result with
  | ok value => rfl
  | error error =>
    have kind := fails error rfl
    cases error with
    | notFound item missing => exact absurd rfl kind
    | _ => rfl

theorem mapError_bind {α β : Type} (result : Except Error α) (next : α → Except Error β)
    (change : Error → Error) :
    (result >>= next).mapError change = result.mapError change >>= fun value => (next value).mapError change := by
  cases result <;> rfl

namespace Name

theorem segments_append (before after : String) :
    segments (before ++ "\\" ++ after) = segments before ++ segments after := by
  have split := Text.runs_append_cons (· == '\\') before.toList after.toList (beq_self_eq_true '\\')
  have letters : (before ++ "\\" ++ after).toList = before.toList ++ '\\' :: after.toList := by
    simp [String.toList_append]
  rw [segments, letters, split, List.map_append]
  rfl

section

variable {separators : String} (only : ∀ letter ∈ separators.toList, letter = '\\')

include only

theorem segments_of_separators : segments separators = [] := by
  rw [segments, Text.runs_of_separators fun letter member => beq_iff_eq.mpr (only letter member)]
  rfl

theorem segments_separators_append (path : String) : segments (separators ++ path) = segments path := by
  rw [segments, String.toList_append,
    Text.runs_separators_append fun letter member => beq_iff_eq.mpr (only letter member)]
  rfl

theorem segments_append_separators (path : String) : segments (path ++ separators) = segments path := by
  rw [segments, String.toList_append,
    Text.runs_append_separators fun letter member => beq_iff_eq.mpr (only letter member)]
  rfl

end

theorem segments_of_plain {name : String} (nonempty : name ≠ "") (plain : '\\' ∉ name.toList) :
    segments name = [name] := by
  rw [segments, runs_of_plain nonempty plain]
  simp

/-- Spellings of one name are the same as the same names. -/
theorem same_congr {first second : String} (same : Name.same first second = true) (name : String) :
    Name.same name first = Name.same name second := by
  have equal : folded first = folded second := eq_of_beq same
  rw [Name.same, equal]
  rfl

end Name

namespace Access

variable {access : Access} {codepage : Codepage} {key : Key}

theorem descend_append (path : String) (key : Key) (first second : List String) :
    access.descend codepage path key (first ++ second) =
      access.descend codepage path key first >>= fun found => access.descend codepage path found second := by
  induction first generalizing key with
  | nil => rfl
  | cons name rest ih =>
    rw [List.cons_append, descend, descend, bind_assoc]
    refine bind_congr fun found => ?_
    cases found with
    | none => rfl
    | some sub => exact ih sub

theorem descend_of_found {path name : String} {rest : List String} {sub : Key}
    (found : access.findSubKey codepage key name = .ok (some sub)) :
    access.descend codepage path key (name :: rest) = access.descend codepage path sub rest := by
  rw [descend, found]
  rfl

theorem descend_of_missing {path name : String} {rest : List String}
    (missing : access.findSubKey codepage key name = .ok none) :
    access.descend codepage path key (name :: rest) = .error (.notFound "key path" path) := by
  rw [descend, missing]
  rfl

theorem subKeyByName_eq_ok {name : String} {sub : Key} :
    access.subKeyByName codepage key name = .ok sub ↔ access.findSubKey codepage key name = .ok (some sub) := by
  rw [subKeyByName]
  cases access.findSubKey codepage key name with
  | error error => simp [bind, Except.bind]
  | ok found => cases found <;> simp [bind, Except.bind, pure, Except.pure, throw, throwThe, MonadExceptOf.throw]

/-- A path of one name leads to the sub key with that name. -/
theorem subKeyByPath_eq_ok_of_plain {name : String} (nonempty : name ≠ "") (plain : '\\' ∉ name.toList)
    {sub : Key} :
    access.subKeyByPath codepage key name = .ok sub ↔ access.subKeyByName codepage key name = .ok sub := by
  rw [subKeyByPath, Name.segments_of_plain nonempty plain, descend_cons, subKeyByName_eq_ok]
  simp [descend, pure, Except.pure]

theorem valueByName_of_first {name : String} {value : ValueEntry} {rest : List ValueEntry}
    (read : access.values key = .ok (value :: rest))
    (same : Name.same (codepage.decode value.name) name = true) :
    access.valueByName codepage key name = .ok value := by
  have first : (value :: rest).find? (fun value => Name.same (codepage.decode value.name) name) = some value :=
    List.find?_cons_of_pos same
  rw [valueByName_eq, read]
  simp only [bind, Except.bind, ValueEntry.decodedName, first]
  rfl

/-- Names in another case lead to the same sub key. -/
theorem findSubKey_congr {first second : String} (same : Name.same first second = true) :
    access.findSubKey codepage key first = access.findSubKey codepage key second := by
  simp only [findSubKey, Name.same_congr same]

theorem descend_congr {path : String} {names others : List String}
    (same : List.Forall₂ (fun name other => Name.same name other = true) names others) :
    access.descend codepage path key names = access.descend codepage path key others := by
  induction same generalizing key with
  | nil => rfl
  | cons first rest ih =>
    rw [descend, descend, findSubKey_congr first]
    refine bind_congr fun found => ?_
    cases found with
    | none => rfl
    | some sub => exact ih

section

variable (fails : access.FailAs (· ≠ .notFound))

include fails

theorem findSubKey_quoting (key : Key) (name quoted : String) :
    (access.findSubKey codepage key name).mapError (Error.quoting quoted) = access.findSubKey codepage key name :=
  (failsAs_findSubKey fails codepage key name).mapError_quoting quoted

/-- The path of a descent shows only in the error of a name that no sub key has. -/
theorem descend_quoting (path quoted : String) (key : Key) (names : List String) :
    (access.descend codepage path key names).mapError (Error.quoting quoted) =
      access.descend codepage quoted key names := by
  induction names generalizing key with
  | nil => rfl
  | cons name rest ih =>
    rw [descend, descend, mapError_bind, findSubKey_quoting fails]
    refine bind_congr fun found => ?_
    cases found with
    | none => rfl
    | some sub => exact ih sub

theorem subKeyByPath_append (key : Key) (before after : String) :
    access.subKeyByPath codepage key (before ++ "\\" ++ after) =
      (do
        let found ← access.subKeyByPath codepage key before
        access.subKeyByPath codepage found after).mapError (Error.quoting (before ++ "\\" ++ after)) := by
  simp only [subKeyByPath, mapError_bind, descend_quoting fails, Name.segments_append, descend_append]

/-- Paths of the same names, in whatever case, lead to the same key. -/
theorem subKeyByPath_congr {path other : String}
    (same : List.Forall₂ (fun name other => Name.same name other = true) (Name.segments path)
      (Name.segments other)) :
    access.subKeyByPath codepage key other =
      (access.subKeyByPath codepage key path).mapError (Error.quoting other) := by
  rw [subKeyByPath, subKeyByPath, descend_quoting fails, descend_congr same]

theorem subKeyByName_congr {name other : String} (same : Name.same name other = true) :
    access.subKeyByName codepage key other =
      (access.subKeyByName codepage key name).mapError (Error.quoting other) := by
  rw [subKeyByName, subKeyByName, mapError_bind, findSubKey_quoting fails, findSubKey_congr same]
  refine bind_congr fun found => ?_
  cases found <;> rfl

theorem valueByName_congr {name other : String} (same : Name.same name other = true) :
    access.valueByName codepage key other =
      (access.valueByName codepage key name).mapError (Error.quoting other) := by
  rw [valueByName_eq, valueByName_eq, mapError_bind, (failsAs_values fails key).mapError_quoting]
  simp only [Name.same_congr same]
  refine bind_congr fun values => ?_
  cases values.find? _ <;> rfl

end

end Access

/-- No reads say that a name was looked for and not found. -/
theorem Source.failAs_access (source : Source) (hive : Hive) :
    (Reads.access source.fetch hive).FailAs (· ≠ .notFound) :=
  Reads.failAs_access (source.failsAs_fetch (by decide) (by decide)) (by decide) hive

namespace Opened

variable {opened : Opened}

/-- Whether the second path leads from a key to what the first one does, but for the path that an error quotes. -/
def LeadAlike (opened : Opened) (key : Key) (path other : String) : Prop :=
  opened.answer (.subKeyByPath key other) =
    (opened.answer (.subKeyByPath key path)).mapError (Error.quoting other)

/-- Goes down by one path, and by another from the key found. -/
def inTurn (opened : Opened) (key : Key) (before after : String) : Except Error Key :=
  Action.answer (do
    let found ← key.subKeyByPath opened.hive before
    found.subKeyByPath opened.hive after) opened.session

section

variable {hive : Hive} {reads : Reads} (follows : opened.Follows hive reads) (quiet : opened.session.Quiet)

include follows quiet

theorem Follows.inTurn_eq (key : Key) (before after : String) :
    opened.inTurn key before after = (do
      let found ← (reads.access opened.hive).subKeyByPath opened.hive.codepage key before
      (reads.access opened.hive).subKeyByPath opened.hive.codepage found after) :=
  (Action.Steady.bind (key.steady_descend opened.hive before _) fun found _ =>
    found.steady_descend opened.hive after _).answer_eq follows.faithful_own quiet

theorem Follows.leadAlike (fails : (reads.access opened.hive).FailAs (· ≠ .notFound)) {path other : String}
    (same : List.Forall₂ (fun name other => Name.same name other = true) (Name.segments path)
      (Name.segments other)) (key : Key) : opened.LeadAlike key path other := by
  rw [LeadAlike, follows.answer_eq quiet, follows.answer_eq quiet]
  exact Access.subKeyByPath_congr fails same

end

end Opened

/-- A path that joins two leads where they lead in turn, or to the same error, but for the path that is quoted.
A path of one name leads to the sub key with that name, one without names to the key itself, and separators before,
after and between names change nothing. -/
theorem paths_compose {now : Opened} (reachable : now.Reachable) (quiet : now.session.Quiet) (key : Key) :
    (∀ before after : String, now.answer (.subKeyByPath key (before ++ "\\" ++ after)) =
      (now.inTurn key before after).mapError (Error.quoting (before ++ "\\" ++ after))) ∧
    (∀ name : String, name ≠ "" → '\\' ∉ name.toList → ∀ sub,
      now.Gives (.subKeyByPath key name) sub ↔ now.Gives (.subKeyByName key name) sub) ∧
    ∀ separators : String, (∀ letter ∈ separators.toList, letter = '\\') →
      now.answer (.subKeyByPath key separators) = .ok key ∧
      (∀ path, now.LeadAlike key path (separators ++ path) ∧ now.LeadAlike key path (path ++ separators)) ∧
      ∀ before after,
        now.LeadAlike key (before ++ "\\" ++ after) (before ++ "\\" ++ (separators ++ after)) := by
  obtain ⟨hive, source, follows⟩ := reachable.exists_source
  have fails := source.failAs_access now.hive
  have alike {path other : String} (same : Name.segments path = Name.segments other) :
      now.LeadAlike key path other := by
    refine follows.leadAlike quiet fails ?_ key
    rw [same]
    exact List.forall₂_same.mpr fun name _ => Name.same_self name
  refine ⟨?_, ?_, ?_⟩
  · intro before after
    rw [follows.answer_eq quiet, follows.inTurn_eq quiet]
    exact Access.subKeyByPath_append fails key before after
  · intro name nonempty plain sub
    rw [follows.gives_iff quiet, follows.gives_iff quiet]
    exact Access.subKeyByPath_eq_ok_of_plain nonempty plain
  · intro separators only
    refine ⟨?_, ?_, ?_⟩
    · rw [follows.answer_eq quiet, Operation.reading, Access.subKeyByPath, Name.segments_of_separators only]
      rfl
    · intro path
      exact ⟨alike (Name.segments_separators_append only path).symm,
        alike (Name.segments_append_separators only path).symm⟩
    · intro before after
      refine alike ?_
      rw [Name.segments_append, Name.segments_append, Name.segments_separators_append only]

/-- A file of one key below the root key, as an open file gives it after every history without signals. -/
structure Opened.GivesSingle (opened : Opened) (record : KeyRecord) (root key : Key) : Prop where
  subKeys : opened.Gives (.subKeys root) [key]
  name : opened.Gives (.name key) (opened.hive.codepage.decode record.name)
  below : opened.Gives (.subKeys key) []
  values : ∃ values, opened.Gives (.values key) values ∧ values.map ValueEntry.record = record.values

theorem Siblings.exists_single {record : KeyRecord} (fits : record.Fits)
    (small : KeyRecord.blockSize [record] < 0x100000000) (codepage : Codepage) (history : List Happening)
    (unsignalled : .signal ∉ history) :
    ∃ hive session, Hive.attach codepage
        { source := .mapped ((cons (some record) .nil .nil).toBytes 1).toArray } = .ok hive session ∧
      let now := Opened.after ⟨hive, session⟩ history
      now.Reachable ∧ now.session.Quiet ∧ ∃ root key, now.GivesSingle record root key := by
  obtain ⟨hive, session, opens, quiet, root, listed, _, shown, shows⟩ :=
    exists_attached (fits_single fits small) codepage
  have later := (Opened.follows_of_attach opens).quiet_after quiet history unsignalled
  refine ⟨hive, session, opens, ⟨_, _, _, _, hive, session, history, opens, rfl⟩, later, root, ?_⟩
  cases shows with
  | @cons key _ _ _ _ _ _ here below after =>
    cases after
    cases below
    obtain ⟨values, given, same, _⟩ := here.values
    exact ⟨key, shown.subKeys history later, here.name history later, here.subKeys history later, values,
      given history later, same⟩

section

variable {opened : Opened} {record : KeyRecord} {root key : Key} (gives : opened.GivesSingle record root key)
  {hive : Hive} {reads : Reads} (follows : opened.Follows hive reads) (quiet : opened.session.Quiet)

include gives follows quiet

/-- The only key is found by its name. -/
theorem Opened.GivesSingle.findSubKey :
    (reads.access opened.hive).findSubKey opened.hive.codepage root
      (opened.hive.codepage.decode record.name) = .ok (some key) := by
  have chain := Chain.whole_eq_ok.mp ((follows.gives_iff quiet).mp gives.subKeys)
  refine Access.findSubKey_eq_some.mpr ⟨0, ?_⟩
  rw [chain]
  exact Access.firstIn_zero ((follows.gives_name_iff quiet).mp gives.name) (Name.same_self _)

theorem Opened.GivesSingle.answer_subKeyByName :
    opened.answer (.subKeyByName root (opened.hive.codepage.decode record.name)) = .ok key :=
  (follows.gives_iff quiet).mpr (Access.subKeyByName_eq_ok.mpr (gives.findSubKey follows quiet))

/-- No name is found below the only key. -/
theorem Opened.GivesSingle.findSubKey_below (name : String) :
    (reads.access opened.hive).findSubKey opened.hive.codepage key name = .ok none := by
  have chain := Chain.whole_eq_ok.mp ((follows.gives_iff quiet).mp gives.below)
  rw [Access.findSubKey, chain]
  rfl

end

/-- A path to the only key and on to one that is not there, with more separators than it takes. -/
theorem paths_compose_missing :
    let record : KeyRecord := ⟨[0x61], []⟩
    let source : Source := .mapped ((Siblings.cons (some record) .nil .nil).toBytes 1).toArray
    ∃ hive session, Hive.attach .standard { source } = .ok hive session ∧
      let now := Opened.after ⟨hive, session⟩ [.operation .rootKey]
      now.Reachable ∧ now.session.Quiet ∧ ∃ root key, now.Gives (.subKeyByPath root "a") key ∧
        now.inTurn root "\\a" "b" = .error (.notFound "key path" "b") ∧
        now.answer (.subKeyByPath root ("\\a" ++ "\\" ++ "b")) =
          .error (.notFound "key path" "\\a\\b") ∧
        now.answer (.subKeyByPath root ("\\a" ++ "\\" ++ ("\\" ++ "b"))) =
          .error (.notFound "key path" "\\a\\\\b") ∧
        now.answer (.subKeyByPath key "\\\\") = .ok key := by
  intro record source
  have fits : record.Fits := KeyRecord.fits_of_name (by decide)
  obtain ⟨hive, session, opens, reachable, quiet, root, key, gives⟩ :=
    Siblings.exists_single fits (by decide) .standard [.operation .rootKey] (by simp)
  let now := Opened.after ⟨hive, session⟩ [.operation .rootKey]
  have codepage : now.hive.codepage = .standard := Hive.codepage_of_attach opens
  have spelled : now.hive.codepage.decode record.name = "a" := by
    rw [codepage]
    decide +kernel
  obtain ⟨_, reads, follows⟩ := Opened.Reachable.follows reachable
  have there := gives.findSubKey follows quiet
  have named := gives.answer_subKeyByName follows quiet
  have missing := gives.findSubKey_below follows quiet "b"
  rw [spelled] at there named
  have names : Name.segments "\\a" = ["a"] ∧ Name.segments "b" = ["b"] := by decide +kernel
  have turned : now.inTurn root "\\a" "b" = .error (.notFound "key path" "b") := by
    refine (follows.inTurn_eq quiet root "\\a" "b").trans ?_
    simp only [Access.subKeyByPath, names, Access.descend_of_found there]
    exact Access.descend_of_missing missing
  obtain ⟨compose, single, separated⟩ := paths_compose reachable quiet root
  obtain ⟨_, _, repeated⟩ := separated "\\" (by simp)
  obtain ⟨_, _, below⟩ := paths_compose reachable quiet key
  have first := (single "a" (by decide) (by decide) key).mpr named
  have joined := compose "\\a" "b"
  rw [turned] at joined
  have apart := repeated "\\a" "b"
  rw [Opened.LeadAlike, joined] at apart
  exact ⟨hive, session, opens, reachable, quiet, root, key, first, turned, joined, apart,
    (below "\\\\" (by simp)).left⟩

/-- The case in which names are spelled changes nothing but the name or the path that an error quotes: paths of
names that are pairwise the same lead to the same key, and a name finds the sub key and the value that another
spelling of it finds. -/
theorem spelling_changes_nothing {now : Opened} (reachable : now.Reachable) (quiet : now.session.Quiet)
    (key : Key) :
    (∀ path other, List.Forall₂ (fun name other => Name.same name other = true) (Name.segments path)
      (Name.segments other) → now.LeadAlike key path other) ∧
    ∀ name other, Name.same name other = true →
      now.answer (.subKeyByName key other) =
        (now.answer (.subKeyByName key name)).mapError (Error.quoting other) ∧
      now.answer (.valueByName key other) =
        (now.answer (.valueByName key name)).mapError (Error.quoting other) := by
  obtain ⟨hive, source, follows⟩ := reachable.exists_source
  have fails := source.failAs_access now.hive
  constructor
  · intro path other same
    exact follows.leadAlike quiet fails same key
  · intro name other same
    constructor
    · rw [follows.answer_eq quiet, follows.answer_eq quiet]
      exact Access.subKeyByName_congr fails same
    · rw [follows.answer_eq quiet, follows.answer_eq quiet]
      exact Access.valueByName_congr fails same

/-- The only key and its value, by their name in another case. One of its letters has no single uppercase letter. -/
theorem spelling_changes_nothing_sharp_s :
    let record : KeyRecord := ⟨[0x73, 0xDF], [⟨1, [0x73, 0xDF], []⟩]⟩
    let source : Source := .mapped ((Siblings.cons (some record) .nil .nil).toBytes 1).toArray
    ∃ hive session, Hive.attach .standard { source } = .ok hive session ∧
      let now := Opened.after ⟨hive, session⟩ [.operation .rootKey]
      now.Reachable ∧ now.session.Quiet ∧
        List.Forall₂ (fun name other => Name.same name other = true) (Name.segments "sß")
          (Name.segments "\\Sß") ∧
        Name.same "sß" "Sß" = true ∧ ∃ root key value,
          now.answer (.subKeyByPath root "\\Sß") = .ok key ∧
          now.answer (.subKeyByName root "Sß") = .ok key ∧
          now.answer (.valueByName key "Sß") = .ok value := by
  intro record source
  have fits : record.Fits := by
    refine ⟨by decide, by decide, fun value member => ?_, by decide⟩
    rw [List.mem_singleton.mp member]
    exact ⟨by decide, by decide, by decide⟩
  obtain ⟨hive, session, opens, reachable, quiet, root, key, gives⟩ :=
    Siblings.exists_single fits (by decide) .standard [.operation .rootKey] (by simp)
  let now := Opened.after ⟨hive, session⟩ [.operation .rootKey]
  have codepage : now.hive.codepage = .standard := Hive.codepage_of_attach opens
  have spelled : now.hive.codepage.decode record.name = "sß" := by
    rw [codepage]
    decide +kernel
  have same : Name.same "sß" "Sß" = true := by decide +kernel
  have segments : Name.segments "sß" = ["sß"] ∧ Name.segments "\\Sß" = ["Sß"] := by decide +kernel
  have pairwise : List.Forall₂ (fun name other => Name.same name other = true) (Name.segments "sß")
      (Name.segments "\\Sß") := by
    rw [segments.left, segments.right]
    exact .cons same .nil
  obtain ⟨_, reads, follows⟩ := Opened.Reachable.follows reachable
  have there := gives.findSubKey follows quiet
  have named := gives.answer_subKeyByName follows quiet
  rw [spelled] at there named
  have led : now.answer (.subKeyByPath root "sß") = .ok key := by
    refine (follows.answer_eq quiet _).trans ?_
    exact (Access.subKeyByPath_eq_ok_of_plain (by decide) (by decide)).mpr (Access.subKeyByName_eq_ok.mpr there)
  obtain ⟨values, listed, records⟩ := gives.values
  obtain ⟨value, only, written⟩ := List.map_eq_singleton_iff.mp records
  have valued : now.answer (.valueByName key "sß") = .ok value := by
    have read : (reads.access now.hive).values key = .ok [value] := by
      rw [← only]
      exact (follows.gives_iff quiet).mp listed
    have name : now.hive.codepage.decode value.name = "sß" := by
      rw [← spelled, show value.name = record.name from congrArg ValueRecord.name written]
    refine (follows.answer_eq quiet _).trans (Access.valueByName_of_first read ?_)
    rw [name]
    exact Name.same_self "sß"
  obtain ⟨paths, names⟩ := spelling_changes_nothing reachable quiet root
  obtain ⟨_, others⟩ := spelling_changes_nothing reachable quiet key
  have path := paths "sß" "\\Sß" pairwise
  obtain ⟨name, _⟩ := names "sß" "Sß" same
  obtain ⟨_, other⟩ := others "sß" "Sß" same
  rw [Opened.LeadAlike, led] at path
  rw [named] at name
  rw [valued] at other
  exact ⟨hive, session, opens, reachable, quiet, pairwise, same, root, key, value, path, name, other⟩

end RegistryHive
