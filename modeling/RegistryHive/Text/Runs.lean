namespace RegistryHive.Text

variable {α : Type}

/-- Puts a run in front of the others, unless it is empty. -/
def keepRun (run : List α) (others : List (List α)) : List (List α) :=
  if run.isEmpty then others else run :: others

/-- The run that reaches the end of what was read, and the closed runs after it. -/
def extendRuns (isSeparator : α → Bool) (item : α) (read : List α × List (List α)) :
    List α × List (List α) :=
  if isSeparator item then ([], keepRun read.1 read.2) else (item :: read.1, read.2)

def runs (isSeparator : α → Bool) (items : List α) : List (List α) :=
  let read := items.foldr (extendRuns isSeparator) ([], [])
  keepRun read.1 read.2

theorem keepRun_append (run : List α) (others more : List (List α)) :
    keepRun run (others ++ more) = keepRun run others ++ more := by
  unfold keepRun
  split <;> rfl

theorem foldr_extendRuns (isSeparator : α → Bool) (items : List α) (closed : List (List α)) :
    items.foldr (extendRuns isSeparator) ([], closed) =
      ((items.foldr (extendRuns isSeparator) ([], [])).1,
        (items.foldr (extendRuns isSeparator) ([], [])).2 ++ closed) := by
  induction items with
  | nil => rfl
  | cons item rest ih =>
    simp only [List.foldr_cons, ih, extendRuns]
    split
    · simp [keepRun_append]
    · rfl

/-- A separator that stands between two lists keeps their runs apart. -/
theorem runs_append_cons (isSeparator : α → Bool) (before after : List α) {separator : α}
    (separates : isSeparator separator = true) :
    runs isSeparator (before ++ separator :: after) =
      runs isSeparator before ++ runs isSeparator after := by
  simp only [runs, List.foldr_append, List.foldr_cons, extendRuns, separates, if_true]
  rw [foldr_extendRuns]
  simp [keepRun_append]

section

variable {isSeparator : α → Bool} {separators : List α}
  (only : ∀ separator ∈ separators, isSeparator separator = true)

include only

/-- Separators before a list make no difference to its runs. -/
theorem runs_separators_append (items : List α) :
    runs isSeparator (separators ++ items) = runs isSeparator items := by
  induction separators with
  | nil => rfl
  | cons separator rest ih =>
    obtain ⟨here, later⟩ := List.forall_mem_cons.mp only
    have split := runs_append_cons isSeparator [] (rest ++ items) here
    exact split.trans (ih later)

theorem runs_of_separators : runs isSeparator separators = [] := by
  have whole := runs_separators_append only []
  rwa [List.append_nil] at whole

/-- Separators after a list make no difference to its runs. -/
theorem runs_append_separators (items : List α) :
    runs isSeparator (items ++ separators) = runs isSeparator items := by
  cases separators with
  | nil => rw [List.append_nil]
  | cons separator rest =>
    obtain ⟨here, later⟩ := List.forall_mem_cons.mp only
    rw [runs_append_cons isSeparator items rest here, runs_of_separators later, List.append_nil]

end

/-- What was read of a list so far is the first of its pieces, and the nonempty ones after it. -/
private theorem splitOnP_eq_cons (isSeparator : α → Bool) (items : List α) :
    ∃ first others, items.splitOnP isSeparator = first :: others ∧
      items.foldr (extendRuns isSeparator) ([], []) =
        (first, others.filter fun run => !run.isEmpty) := by
  induction items with
  | nil => exact ⟨[], [], rfl, rfl⟩
  | cons item rest ih =>
    obtain ⟨first, others, split, read⟩ := ih
    rw [List.splitOnP_cons_eq_if_modifyHead, split, List.foldr_cons, read, extendRuns]
    by_cases separates : isSeparator item = true
    · rw [if_pos separates, if_pos separates]
      refine ⟨[], first :: others, rfl, ?_⟩
      cases first <;> rfl
    · rw [if_neg separates, if_neg separates]
      exact ⟨item :: first, others, rfl, rfl⟩

/-- The runs are the nonempty pieces between the separators. -/
theorem runs_eq_splitOnP (isSeparator : α → Bool) (items : List α) :
    runs isSeparator items = (items.splitOnP isSeparator).filter fun run => !run.isEmpty := by
  obtain ⟨first, others, split, read⟩ := splitOnP_eq_cons isSeparator items
  rw [runs, read, split]
  cases first <;> rfl

/-- Whether a run is nonempty and has no separator. -/
def IsRun (isSeparator : α → Bool) (run : List α) : Prop :=
  run ≠ [] ∧ ∀ item ∈ run, isSeparator item = false

private theorem isRun_keepRun {isSeparator : α → Bool} {run : List α} {others : List (List α)}
    (free : ∀ item ∈ run, isSeparator item = false) (closed : ∀ other ∈ others, IsRun isSeparator other) :
    ∀ other ∈ keepRun run others, IsRun isSeparator other := by
  cases run with
  | nil => exact closed
  | cons item run => exact List.forall_mem_cons.mpr ⟨⟨List.cons_ne_nil _ _, free⟩, closed⟩

private theorem isRun_foldr (isSeparator : α → Bool) (items : List α) :
    (∀ item ∈ (items.foldr (extendRuns isSeparator) ([], [])).1, isSeparator item = false) ∧
      ∀ run ∈ (items.foldr (extendRuns isSeparator) ([], [])).2, IsRun isSeparator run := by
  induction items with
  | nil => exact ⟨List.forall_mem_nil _, List.forall_mem_nil _⟩
  | cons item rest ih =>
    obtain ⟨free, closed⟩ := ih
    rw [List.foldr_cons, extendRuns]
    by_cases separates : isSeparator item = true
    · rw [if_pos separates]
      exact ⟨List.forall_mem_nil _, isRun_keepRun free closed⟩
    · rw [if_neg separates]
      exact ⟨List.forall_mem_cons.mpr ⟨Bool.eq_false_iff.mpr separates, free⟩, closed⟩

theorem isRun_of_mem_runs {isSeparator : α → Bool} {items run : List α} (member : run ∈ runs isSeparator items) :
    IsRun isSeparator run := by
  obtain ⟨free, closed⟩ := isRun_foldr isSeparator items
  exact isRun_keepRun free closed run member

section

variable [BEq α] [LawfulBEq α] {separator : α} {items : List α} (free : separator ∉ items)

include free

private theorem not_separates : ∀ item ∈ items, (item == separator) = false := by
  intro item member
  apply beq_false_of_ne
  intro same
  rw [same] at member
  exact free member

theorem splitOnP_of_free : items.splitOnP (· == separator) = [items] :=
  List.splitOnP_eq_singleton (not_separates free)

theorem splitOnP_append_of_free (after : List α) :
    (items ++ separator :: after).splitOnP (· == separator) = items :: after.splitOnP (· == separator) :=
  List.splitOnP_append_cons_of_forall_mem (not_separates free) separator (beq_self_eq_true separator) after

/-- Items without a separator are a run, unless there are none. -/
theorem runs_of_free : runs (· == separator) items = keepRun items [] := by
  rw [runs_eq_splitOnP, splitOnP_of_free free]
  cases items <;> rfl

theorem runs_append_of_free (after : List α) :
    runs (· == separator) (items ++ separator :: after) = keepRun items (runs (· == separator) after) := by
  have split := runs_append_cons (· == separator) items after (beq_self_eq_true separator)
  rw [runs_of_free free, ← keepRun_append] at split
  exact split

end

end RegistryHive.Text
