import Mathlib.Data.List.Chain
import RegistryHive.Hive
import RegistryHive.Proofs.Parsing

namespace RegistryHive

variable {σ α β : Type}

/-- Where the scan turns to what is outside of it. Reads may give any bytes or fail, differently each time. -/
structure Scanner (σ : Type) where
  check : EStateM Error σ Unit
  /-- Comes before offsets and sizes are added. -/
  sum : Nat → Nat → EStateM Error σ Unit
  read : Nat → Nat → EStateM Error σ Bytes

inductive ScanStep where
  | check
  | sum (left right : Nat)
  | read (offset length : Nat)
deriving DecidableEq

namespace Scanner

def lift (result : Except Error α) : EStateM Error σ α := fun state =>
  match result with
  | .ok value => .ok value state
  | .error error => .error error state

/-- Reads the block headers from `offset` to the end of the file, as when a registry file is opened. -/
def scan (scanner : Scanner σ) (size offset : Nat) (found : List BlockHeader) : EStateM Error σ (List BlockHeader) := do
  if offset < size then
    scanner.check
    scanner.sum offset BlockHeader.byteSize
    if offset + BlockHeader.byteSize ≤ size then
      let data ← scanner.read offset BlockHeader.byteSize
      if Signature.dataBlock.opens data then
        let block ← lift (BlockHeader.parse data offset)
        scanner.sum block.offset block.size
        lift (require (block.nextOffset ≤ size) (.truncated offset block.size (size - offset)))
        have := block.holdsHeader
        scan scanner size (offset + block.size) (block :: found)
      else
        lift (require found.isEmpty (.invalidFormat (.noBlockSignature offset)))
        return []
    else return found.reverse
  else return found.reverse
termination_by size - offset

/-- The scan of an open registry file. -/
def session : Scanner Session where
  check := Action.checkAbort "open"
  sum _ _ := return
  read := Action.read

/-- Does a step, and records it as the latest. -/
def record (step : ScanStep) (action : EStateM Error σ α) : EStateM Error (σ × List ScanStep) α :=
  fun (state, steps) =>
    match action state with
    | .ok value next => .ok value (next, steps ++ [step])
    | .error error next => .error error (next, steps ++ [step])

def recorded (scanner : Scanner σ) : Scanner (σ × List ScanStep) where
  check := record .check scanner.check
  sum left right := record (.sum left right) (scanner.sum left right)
  read offset length := record (.read offset length) (scanner.read offset length)

end Scanner

/-- Opening a registry file scans it in this way. -/
theorem Hive.scan_eq_session (size offset : Nat) (found : List BlockHeader) :
    scan size offset found = Scanner.session.scan size offset found := by
  induction offset, found using Hive.scan.induct size with
  | case1 offset found before ih =>
    rw [scan, Scanner.scan]
    simp only [before, if_true, ih]
    rfl
  | case2 offset found past =>
    rw [scan, Scanner.scan]
    simp only [past, if_false]

/-- The steps of a scan from an offset onward, in order. It may end after each of them, by what they come to or by
the size of the file, and goes on behind a block that ends in the file. -/
inductive ScanSteps (size : Nat) : Nat → List ScanStep → Prop where
  | past (offset : Nat) : ScanSteps size offset []
  | checked (before : offset < size) : ScanSteps size offset [.check]
  | summed (before : offset < size) : ScanSteps size offset [.check, .sum offset 32]
  | read (held : offset + 32 ≤ size) : ScanSteps size offset [.check, .sum offset 32, .read offset 32]
  | measured (held : offset + 32 ≤ size) (small : length < 0x100000000) :
      ScanSteps size offset [.check, .sum offset 32, .read offset 32, .sum offset length]
  | block (least : 32 ≤ length) (small : length < 0x100000000) (inside : offset + length ≤ size)
      (later : ScanSteps size (offset + length) steps) :
      ScanSteps size offset (.check :: .sum offset 32 :: .read offset 32 :: .sum offset length :: steps)

namespace ScanStep

/-- The offsets of the reads among some steps. -/
def reads : List ScanStep → List Nat
  | [] => []
  | .read offset _ :: steps => offset :: reads steps
  | _ :: steps => reads steps

end ScanStep

namespace ScanSteps

open ScanStep

variable {size offset : Nat} {steps : List ScanStep}

theorem count_check_le (taken : ScanSteps size offset steps) : steps.count .check ≤ (size - offset) / 32 + 1 := by
  induction taken with
  | past => exact Nat.zero_le _
  | checked | summed | read | measured => exact Nat.le_add_left 1 _
  | block least small inside later ih =>
    simp only [List.count_cons, beq_self_eq_true, beq_iff_eq, if_true, reduceCtorEq, if_false] at ih ⊢
    omega

theorem reads_of_mem (taken : ScanSteps size offset steps) {place : Nat} (member : place ∈ reads steps) :
    offset ≤ place ∧ place + 32 ≤ size := by
  induction taken with
  | past | checked | summed => cases member
  | read held | measured held =>
    cases List.mem_singleton.mp member
    exact ⟨Nat.le_refl _, held⟩
  | block least small inside later ih =>
    rcases List.mem_cons.mp member with same | behind
    · omega
    · have further := ih behind
      omega

theorem length_reads_le (taken : ScanSteps size offset steps) : (reads steps).length ≤ (size - offset) / 32 := by
  induction taken with
  | past | checked | summed => exact Nat.zero_le _
  | read held | measured held =>
    simp only [reads, List.length_singleton]
    omega
  | block least small inside later ih =>
    simp only [reads, List.length_cons]
    omega

theorem isChain_reads (taken : ScanSteps size offset steps) : (reads steps).IsChain (· + 32 ≤ ·) := by
  induction taken with
  | past | checked | summed => exact .nil
  | read | measured => exact .singleton _
  | block least small inside later ih =>
    refine List.isChain_cons.mpr ⟨fun next first => ?_, ih⟩
    have further := later.reads_of_mem (List.mem_of_mem_head? first)
    omega

theorem sum_of_mem (taken : ScanSteps size offset steps) {left right : Nat} (member : .sum left right ∈ steps) :
    left < size ∧ right < 0x100000000 := by
  induction taken with
  | past | checked => simp at member
  | summed | read | measured =>
    simp only [List.mem_cons, List.not_mem_nil, reduceCtorEq, false_or, or_false, ScanStep.sum.injEq] at member
    omega
  | block least small inside later ih =>
    simp only [List.mem_cons, reduceCtorEq, false_or, ScanStep.sum.injEq] at member
    rcases member with header | whole | behind
    · omega
    · omega
    · exact ih behind

end ScanSteps

namespace Scanner

/-- The same end of an action, with recorded steps. -/
def withSteps (steps : List ScanStep) : EStateM.Result Error σ α → EStateM.Result Error (σ × List ScanStep) α
  | .ok value state => .ok value (state, steps)
  | .error error state => .error error (state, steps)

def outcome : EStateM.Result Error σ α → Except Error α
  | .ok value _ => .ok value
  | .error error _ => .error error

/-- Whether an action ends as another one does and records steps besides, which go with the outcome. -/
def Records (holds : List ScanStep → Except Error α → Prop) (recorded : EStateM Error (σ × List ScanStep) α)
    (plain : EStateM Error σ α) : Prop :=
  ∀ state, ∃ steps, (∀ before, recorded (state, before) = withSteps (before ++ steps) (plain state)) ∧
    holds steps (outcome (plain state))

namespace Records

variable {holds : List ScanStep → Except Error β → Prop} {others : α → EStateM Error (σ × List ScanStep) β}
  {next : α → EStateM Error σ β}

theorem pure {value : β} (ends : holds [] (.ok value)) :
    Records holds (pure value) (pure value : EStateM Error σ β) :=
  fun _ => ⟨[], fun before => by rw [List.append_nil]; rfl, ends⟩

theorem mono {other : List ScanStep → Except Error β → Prop} {recorded : EStateM Error (σ × List ScanStep) β}
    {plain : EStateM Error σ β} (records : Records holds recorded plain)
    (implies : ∀ steps outcome, holds steps outcome → other steps outcome) : Records other recorded plain := by
  intro state
  obtain ⟨steps, same, held⟩ := records state
  exact ⟨steps, same, implies _ _ held⟩

theorem lift_bind (result : Except Error α) (fails : ∀ error, holds [] (.error error))
    (goesOn : ∀ value, result = .ok value → Records holds (others value) (next value)) :
    Records holds (lift result >>= others) (lift result >>= next) := by
  cases result with
  | ok value => exact goesOn value rfl
  | error error => exact fun _ => ⟨[], fun before => by rw [List.append_nil]; rfl, fails error⟩

/-- A step that is recorded comes before those of what follows. -/
theorem record_bind {step : ScanStep} (action : EStateM Error σ α) (fails : ∀ error, holds [step] (.error error))
    (goesOn : ∀ value, Records (fun steps => holds (step :: steps)) (others value) (next value)) :
    Records holds (record step action >>= others) (action >>= next) := by
  intro state
  simp only [bind, EStateM.bind, record]
  cases action state with
  | ok value after =>
    obtain ⟨steps, same, held⟩ := goesOn value after
    refine ⟨step :: steps, fun before => ?_, held⟩
    have behind := same (before ++ [step])
    rwa [List.append_assoc] at behind
  | error error after => exact ⟨[step], fun before => rfl, fails error⟩

end Records

theorem records_scan (scanner : Scanner σ) (size offset : Nat) (found : List BlockHeader)
    (earlier : ∀ block ∈ found, block.nextOffset ≤ size) :
    Records (fun steps outcome => ScanSteps size offset steps ∧
        ∀ blocks, outcome = .ok blocks → ∀ block ∈ blocks, block.nextOffset ≤ size)
      (scanner.recorded.scan size offset found) (scanner.scan size offset found) := by
  induction offset, found using Hive.scan.induct size with
  | case1 offset found before ih =>
    rw [scan, scan]
    simp only [before, if_true]
    -- The scan may end after each step that is recorded, and goes on after the last of them only.
    refine .record_bind _ (fun _ => ⟨.checked before, nofun⟩) fun _ => ?_
    refine .record_bind _ (fun _ => ⟨.summed before, nofun⟩) fun _ => ?_
    split
    · rename_i held
      refine .record_bind _ (fun _ => ⟨.read held, nofun⟩) fun data => ?_
      split
      · refine .lift_bind _ (fun _ => ⟨.read held, nofun⟩) fun block parsed => ?_
        obtain ⟨place, small⟩ := BlockHeader.of_parse parsed
        rw [place]
        refine .record_bind _ (fun _ => ⟨.measured held small, nofun⟩) fun _ => ?_
        refine .lift_bind _ (fun _ => ⟨.measured held small, nofun⟩) fun _ within => ?_
        have inside := require_ok_iff.mp within
        have further := ih block (List.forall_mem_cons.mpr ⟨inside, earlier⟩)
        rw [BlockHeader.nextOffset, place] at inside
        exact further.mono fun _ _ ⟨taken, listed⟩ => ⟨.block block.holdsHeader small inside taken, listed⟩
      · refine .lift_bind _ (fun _ => ⟨.read held, nofun⟩) fun _ _ => .pure ⟨.read held, ?_⟩
        rintro _ ⟨⟩
        exact List.forall_mem_nil _
    · refine .pure ⟨.summed before, ?_⟩
      rintro _ ⟨⟩ block member
      exact earlier block (List.mem_reverse.mp member)
  | case2 offset found past =>
    rw [scan, scan]
    simp only [past, if_false]
    refine .pure ⟨.past offset, ?_⟩
    rintro _ ⟨⟩ block member
    exact earlier block (List.mem_reverse.mp member)

end Scanner

/-- The scan of the data blocks ends, whatever its reads give and whether or not they fail, after no more reads than
headers fit behind its start. Each of them is behind the one before it by a header at least. All sums of offsets have
64 bits, and the blocks that are listed end within the size. -/
theorem scan_ends {size : Nat} (small : size < 0x8000000000000000) :
    (∀ offset found, Hive.scan size offset found = Scanner.session.scan size offset found) ∧
    ∀ {σ : Type} (scanner : Scanner σ) (state : σ) (start : Nat), ∃ steps : List ScanStep,
      (∀ before, scanner.recorded.scan size start [] (state, before) =
        Scanner.withSteps (before ++ steps) (scanner.scan size start [] state)) ∧
      steps.count .check ≤ (size - start) / 32 + 1 ∧
      (ScanStep.reads steps).length ≤ (size - start) / 32 ∧
      (ScanStep.reads steps).IsChain (· + 32 ≤ ·) ∧
      (∀ offset ∈ ScanStep.reads steps, start ≤ offset ∧ offset + 32 ≤ size) ∧
      (∀ left right, .sum left right ∈ steps → left + right < 0x10000000000000000) ∧
      ∀ blocks after, scanner.scan size start [] state = .ok blocks after →
        ∀ block ∈ blocks, block.nextOffset ≤ size := by
  refine ⟨Hive.scan_eq_session size, fun scanner state start => ?_⟩
  obtain ⟨steps, same, taken, listed⟩ := scanner.records_scan size start [] (List.forall_mem_nil _) state
  refine ⟨steps, same, taken.count_check_le, taken.length_reads_le, taken.isChain_reads,
    fun offset => taken.reads_of_mem, fun left right member => ?_, fun blocks after scanned => listed blocks ?_⟩
  · have bounds := taken.sum_of_mem member
    omega
  · rw [scanned]
    rfl

/-- A source of which every part is the header of a block of 32 bytes, until it fails at the third read. -/
theorem scan_ends_failing_read :
    let header : Bytes := Signature.dataBlock.bytes ++ .ofNumber 4 32 ++ .zeros 24
    let scanner : Scanner Nat := {
      check := return
      sum _ _ := return
      read _ _ count := if count = 2 then .error (.io .endedEarly) count else .ok header (count + 1) }
    ∃ error after steps, scanner.recorded.scan 200 32 [] (0, []) = .error error (after, steps) ∧
      ScanStep.reads steps = [32, 64, 96] ∧ (ScanStep.reads steps).length ≤ 5 := by
  intro header scanner
  have stepwise : (match scanner.recorded.scan 200 32 [] (0, []) with
      | .ok _ _ => []
      | .error _ (_, steps) => steps) = [.check, .sum 32 32, .read 32 32, .sum 32 32, .check, .sum 64 32,
        .read 64 32, .sum 64 32, .check, .sum 96 32, .read 96 32] := by
    decide +kernel
  have small : 200 < 0x8000000000000000 := by decide
  obtain ⟨steps, same, _, few, _⟩ := (scan_ends small).2 scanner 0 32
  have recorded := same []
  cases plain : scanner.scan 200 32 [] 0 with
  | ok blocks after =>
    rw [recorded, plain] at stepwise
    cases stepwise
  | error error after =>
    rw [plain] at recorded
    rw [recorded] at stepwise
    have listed : steps = _ := stepwise
    exact ⟨error, after, steps, recorded, by rw [listed]; rfl, few⟩

end RegistryHive
