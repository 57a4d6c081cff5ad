import Spreadsheet.Proofs.Evaluation.Agreement
import Spreadsheet.Session

namespace Spreadsheet

open Spreadsheet.Formula

variable {σ τ : Type}

namespace Meter

theorem remaining_toNat (meter : Meter) :
    meter.remaining.toNat = meter.allowed.toNat - meter.read.toNat := by
  unfold remaining
  split
  next within => exact UInt64.toNat_sub_of_le _ _ within
  next beyond =>
    have exceeds : meter.allowed.toNat < meter.read.toNat :=
      Nat.lt_of_not_le fun within => beyond (UInt64.le_iff_toNat_le.mpr within)
    simp only [UInt64.toNat_zero]
    omega

theorem remaining_fresh (allowed : UInt64) : (fresh allowed).remaining = allowed :=
  UInt64.toNat_inj.mp (remaining_toNat _)

/-- A draw within what remains does not wrap around. -/
theorem draw_read_toNat {meter : Meter} {cells : UInt64} (within : meter.read ≤ meter.allowed)
    (covered : ¬ meter.remaining < cells) :
    (meter.draw cells).read.toNat = meter.read.toNat + cells.toNat ∧
      meter.read.toNat + cells.toNat ≤ meter.allowed.toNat := by
  rw [UInt64.lt_iff_toNat_lt, remaining_toNat] at covered
  rw [UInt64.le_iff_toNat_le] at within
  have total : meter.read.toNat + cells.toNat ≤ meter.allowed.toNat := by omega
  have bound := meter.allowed.toNat_lt
  refine ⟨?_, total⟩
  change (meter.read + cells).toNat = _
  rw [UInt64.toNat_add, Nat.mod_eq_of_lt (by omega)]

end Meter

/-- Writes down each range that is read, with the state before. -/
def Source.recording (source : Source σ) : Source (σ × List (σ × Range)) where
  cell := source.cell
  range range := fun (state, log) =>
    match (source.range range).run state with
    | (.ok value, after) => (.ok value, after, log ++ [(state, range)])
    | (.error error, after) => (.error error, after, log)

theorem Source.recording_range_run (source : Source σ) (range : Range) (state : σ)
    (log : List (σ × Range)) :
    (source.recording.range range).run (state, log) =
      match (source.range range).run state with
      | (.ok value, after) => (.ok value, after, log ++ [(state, range)])
      | (.error error, after) => (.error error, after, log) := rfl

def cellsRead (log : List (σ × Range)) : Nat := (log.map fun entry => entry.2.cellCount.toNat).sum

/-- A meter that counts the reads of a log, each of which found what it needed. -/
structure Meter.Accounts (allowed : UInt64) (meter : Meter) (log : List (Meter × Range)) :
    Prop where
  limit : meter.allowed = allowed
  within : meter.read ≤ allowed
  total : meter.read.toNat = cellsRead log
  each : ∀ entry ∈ log, entry.1.read.toNat + entry.2.cellCount.toNat ≤ allowed.toNat

theorem Meter.Accounts.fresh (allowed : UInt64) : Accounts allowed (.fresh allowed) [] :=
  ⟨rfl, UInt64.zero_le, rfl, by simp⟩

theorem Meter.Accounts.draw {allowed : UInt64} {meter : Meter} {log : List (Meter × Range)}
    (accounts : Accounts allowed meter log) {range : Range}
    (covered : ¬ meter.remaining < range.cellCount) :
    Accounts allowed (meter.draw range.cellCount) (log ++ [(meter, range)]) := by
  have within : meter.read ≤ meter.allowed := accounts.limit ▸ accounts.within
  obtain ⟨read, total⟩ := draw_read_toNat within covered
  rw [accounts.limit] at total
  refine ⟨accounts.limit, ?_, ?_, ?_⟩
  · rw [UInt64.le_iff_toNat_le, read]
    exact total
  · rw [read, accounts.total]
    simp [cellsRead]
  · intro entry listed
    rcases List.mem_append.mp listed with earlier | last
    · exact accounts.each entry earlier
    · rw [List.mem_singleton.mp last]
      exact total

def Meter.Recorded (allowed : UInt64) (meter : Meter) (state : Meter × List (Meter × Range)) :
    Prop :=
  state.1 = meter ∧ Accounts allowed meter state.2

theorem Grid.recording_agrees (grid : Grid) (allowed : UInt64) (range : Range) :
    Agrees (Meter.Recorded allowed) (grid.source.range range)
      (grid.source.recording.range range) := by
  rintro _ ⟨meter, log⟩ ⟨rfl, accounts⟩
  rw [Source.recording_range_run, Grid.source_range_run]
  split
  next => exact ⟨rfl, rfl, accounts⟩
  next covered => exact ⟨rfl, rfl, accounts.draw covered⟩

/-- The second meter counts on from `start`, where the first has got further. -/
structure Meter.Resumes (start : UInt64) (meter later : Meter) : Prop where
  within : later.read ≤ later.allowed
  allowed : meter.allowed.toNat = start.toNat + later.allowed.toNat
  read : meter.read.toNat = start.toNat + later.read.toNat

theorem Meter.Resumes.fresh {meter : Meter} (within : meter.read ≤ meter.allowed) :
    Resumes meter.read meter (.fresh meter.remaining) := by
  refine ⟨UInt64.zero_le, ?_, rfl⟩
  rw [UInt64.le_iff_toNat_le] at within
  change _ = _ + meter.remaining.toNat
  rw [remaining_toNat]
  omega

theorem Meter.Resumes.remaining {start : UInt64} {meter later : Meter}
    (resumes : Resumes start meter later) : meter.remaining = later.remaining := by
  rw [← UInt64.toNat_inj, remaining_toNat, remaining_toNat, resumes.allowed, resumes.read]
  omega

theorem Meter.Resumes.draw {start cells : UInt64} {meter later : Meter}
    (resumes : Resumes start meter later) (covered : ¬ meter.remaining < cells) :
    Resumes start (meter.draw cells) (later.draw cells) := by
  have within := UInt64.le_iff_toNat_le.mp resumes.within
  have reached := resumes.read
  have bound := resumes.allowed
  have reachedWithin : meter.read ≤ meter.allowed := UInt64.le_iff_toNat_le.mpr (by omega)
  obtain ⟨read, _⟩ := draw_read_toNat reachedWithin covered
  obtain ⟨laterRead, total⟩ := draw_read_toNat resumes.within (resumes.remaining ▸ covered)
  refine ⟨?_, bound, ?_⟩
  · rw [UInt64.le_iff_toNat_le, laterRead]
    exact total
  · omega

theorem Grid.resumed_agrees (grid : Grid) (start : UInt64) (range : Range) :
    Agrees (Meter.Resumes start) (grid.source.range range) (grid.source.range range) := by
  intro meter later resumes
  rw [Grid.source_range_run, Grid.source_range_run, ← resumes.remaining]
  split
  next => exact ⟨rfl, resumes⟩
  next covered => exact ⟨rfl, resumes.draw covered⟩

inductive Operation
  | evaluate (expr : Expr)
  | readRange (range : Range)
  | readCell (address : Address)

namespace Operation

def run (source : Source σ) : Operation → Metered σ Value
  | .evaluate expr => source.evaluate expr
  | .readRange range => source.range range
  | .readCell address => return source.cell address

/-- The state after operations one by one, whatever each of them gives. -/
def runAll (source : Source σ) (operations : List Operation) (state : σ) : σ :=
  operations.foldl (fun state operation => ((operation.run source).run state).2) state

variable {related : σ → τ → Prop} {a : Source σ} {b : Source τ}

theorem run_agrees (cell : a.cell = b.cell)
    (range : ∀ range, Agrees related (a.range range) (b.range range)) (operation : Operation) :
    Agrees related (operation.run a) (operation.run b) := by
  cases operation with
  | evaluate expr =>
      exact Source.evaluate_agrees expr
        ⟨fun address _ => congrFun cell address, fun rectangle _ => range rectangle⟩
  | readRange rectangle => exact range rectangle
  | readCell address =>
      change Agrees related (Pure.pure (a.cell address)) (Pure.pure (b.cell address))
      rw [cell]
      exact .pure _

theorem run_recording_agrees (grid : Grid) (allowed : UInt64) (operation : Operation) :
    Agrees (Meter.Recorded allowed) (operation.run grid.source)
      (operation.run grid.source.recording) :=
  run_agrees (a := grid.source) (b := grid.source.recording) rfl (grid.recording_agrees allowed)
    operation

theorem runAll_related (step : ∀ operation : Operation,
      Agrees related (operation.run a) (operation.run b)) (operations : List Operation)
    {s : σ} {t : τ} (states : related s t) :
    related (runAll a operations s) (runAll b operations t) := by
  induction operations generalizing s t with
  | nil => exact states
  | cons operation rest continues => exact continues (step operation s t states).2

end Operation

namespace Session

def perform (session : Session) : Operation → Except FormulaError Value × Session
  | .evaluate expr => session.evaluate expr
  | .readRange range => session.readRange range
  | .readCell address => (.ok (session.readCell address), session)

def after (session : Session) (operations : List Operation) : Session :=
  operations.foldl (fun session operation => (session.perform operation).2) session

theorem perform_eq (session : Session) (operation : Operation) :
    session.perform operation = session.run (operation.run session.grid.source) := by
  cases operation <;> rfl

theorem after_eq (session : Session) (operations : List Operation) :
    session.after operations =
      { session with meter := Operation.runAll session.grid.source operations session.meter } := by
  induction operations generalizing session with
  | nil => rfl
  | cons operation rest continues =>
      change (session.perform operation).2.after rest = _
      rw [continues, perform_eq]
      rfl

theorem after_grid (session : Session) (operations : List Operation) :
    (session.after operations).grid = session.grid := by
  rw [after_eq]

theorem after_recorded (grid : Grid) (options : Options) (operations : List Operation) :
    Meter.Recorded options.maxRangeCells ((start grid options).after operations).meter
      (Operation.runAll grid.source.recording operations (.fresh options.maxRangeCells, [])) := by
  rw [after_eq]
  exact Operation.runAll_related (Operation.run_recording_agrees grid options.maxRangeCells)
    operations ⟨rfl, .fresh options.maxRangeCells⟩

theorem readRange_refused {session : Session} {range : Range} {error : FormulaError}
    (refused : (session.readRange range).1 = .error error) :
    (session.readRange range).2 = session := by
  have reads := session.grid.source_range_run range session.meter
  change ((session.grid.source.range range).run session.meter).1 = _ at refused
  change { session with meter := ((session.grid.source.range range).run session.meter).2 } = _
  rw [reads] at refused ⊢
  split at refused
  next exceeded => rw [if_pos exceeded]
  next => exact nomatch refused

/-- A session with a part of its allowance used up works as one that starts with the rest. -/
theorem perform_resumed {session : Session} (within : session.meter.read ≤ session.meter.allowed)
    (options : Options) (operation : Operation) :
    let fresh := start session.grid { options with maxRangeCells := session.meter.remaining }
    (session.perform operation).1 = (fresh.perform operation).1 ∧
      Meter.Resumes session.meter.read (session.perform operation).2.meter
        (fresh.perform operation).2.meter := by
  intro fresh
  rw [perform_eq, perform_eq]
  exact Operation.run_agrees rfl (session.grid.resumed_agrees session.meter.read) operation
    session.meter fresh.meter (.fresh within)

/-- Whatever a session has been used for: its meter counts the ranges that were read, within what
was allowed, and what follows goes as in a new session that is allowed the rest. -/
theorem allowance_accounts (grid : Grid) (options : Options) (operations : List Operation) :
    let session := (start grid options).after operations
    let recorded := Operation.runAll grid.source.recording operations
      (.fresh options.maxRangeCells, [])
    recorded.1 = session.meter ∧
    (∀ operation : Operation,
      ((operation.run grid.source.recording).run recorded).1 = (session.perform operation).1) ∧
    Meter.Accounts options.maxRangeCells session.meter recorded.2 ∧
    session.remaining = options.maxRangeCells.toNat - cellsRead recorded.2 ∧
    (∀ range error, (session.readRange range).1 = .error error →
      (session.readRange range).2 = session) ∧
    ∀ operation : Operation,
      let fresh := start grid { options with maxRangeCells := session.meter.remaining }
      (session.perform operation).1 = (fresh.perform operation).1 ∧
      (session.perform operation).2.meter.read.toNat =
        session.meter.read.toNat + (fresh.perform operation).2.meter.read.toNat ∧
      (session.perform operation).2.remaining = (fresh.perform operation).2.remaining := by
  intro session recorded
  have kept : session.grid = grid := after_grid _ operations
  have records : Meter.Recorded options.maxRangeCells session.meter recorded :=
    after_recorded grid options operations
  have accounts : Meter.Accounts options.maxRangeCells session.meter recorded.2 :=
    records.1 ▸ records.2
  refine ⟨records.1, ?_, accounts, ?_, fun _ _ => readRange_refused, ?_⟩
  · intro operation
    rw [perform_eq, kept]
    exact (Operation.run_recording_agrees grid options.maxRangeCells operation
      session.meter recorded records).1.symm
  · change session.meter.remaining.toNat = _
    rw [Meter.remaining_toNat, accounts.limit, accounts.total]
  · intro operation fresh
    have within : session.meter.read ≤ session.meter.allowed := accounts.limit ▸ accounts.within
    have resumed := perform_resumed within options operation
    rw [kept] at resumed
    exact ⟨resumed.1, resumed.2.read, congrArg UInt64.toNat resumed.2.remaining⟩

end Session

end Spreadsheet
