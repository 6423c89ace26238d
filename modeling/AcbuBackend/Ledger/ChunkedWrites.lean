import AcbuBackend.Effects.Evaluation
import AcbuBackend.Runtime.Errors
import AcbuBackend.Runtime.Text
import Mathlib.Algebra.Order.Floor.Div

/-! Ledger entries written in chunks, each in a transaction of its own.
The chunks before one that fails stay, and nothing after it is written.
-/

namespace AcbuBackend.Ledger

open Effects Effects.Prog AcbuBackend.Runtime

-- Configuration

def DEFAULT_LEDGER_BATCH_SIZE : Nat := 100

def DEFAULT_LEDGER_TX_TIMEOUT_MS : Nat := 8000

def DEFAULT_LEDGER_TX_MAX_WAIT_MS : Nat := 2000

def parsePositiveInt (value : Option String) (fallback : Nat) : Nat :=
  match jsParseInt (value.getD "") with
  | some parsed => if 0 < parsed then parsed.toNat else fallback
  | none => fallback

theorem parsePositiveInt_pos {value : Option String} {fallback : Nat} (positive : 0 < fallback)
    : 0 < parsePositiveInt value fallback := by
  unfold parsePositiveInt
  split
  · split
    · omega
    · exact positive
  · exact positive

/-- The options of `$transaction`. -/
structure TransactionOptions where
  timeout : Nat
  maxWait : Nat

/-- The settings of the service. A batch is never empty. -/
structure LedgerConfig where
  batchSize : Nat
  options : TransactionOptions
  positive : 0 < batchSize

/-- The settings from the three environment variables. -/
def LedgerConfig.fromEnv (batchSize timeout maxWait : Option String) : LedgerConfig where
  batchSize := parsePositiveInt batchSize DEFAULT_LEDGER_BATCH_SIZE
  options :=
    { timeout := parsePositiveInt timeout DEFAULT_LEDGER_TX_TIMEOUT_MS
      maxWait := parsePositiveInt maxWait DEFAULT_LEDGER_TX_MAX_WAIT_MS }
  positive := parsePositiveInt_pos (by decide)

-- The service

/-- What is logged of a chunk that fails. -/
structure FailureContext where
  chunkStart : Nat
  chunkSize : Nat
  committedSoFar : Nat
  committedBatches : Nat
  error : String

structure CreateLedgerEntriesResult where
  inserted : Nat
  batches : Nat

variable {ε : Type}

inductive LedgerOp (ε : Type)
  /-- `prisma.$transaction` around one `createMany`. -/
  | createMany (data : List ε) (options : TransactionOptions)
  | logError (context : FailureContext)

abbrev ledgerInterface (ε : Type) : Interface where
  Op := LedgerOp ε
  Ret
    | .createMany _ _ => Nat
    | .logError _ => Unit
  Err := JsError

def ask (op : LedgerOp ε) : Prog (ledgerInterface ε) ((ledgerInterface ε).Ret op) :=
  Prog.await (I := ledgerInterface ε) op

/-- The rounds of the loop from an index on. As many as there are entries are enough. -/
def createFrom (config : LedgerConfig) (entries : List ε)
    : Nat → Nat → CreateLedgerEntriesResult → Prog (ledgerInterface ε) CreateLedgerEntriesResult
  | 0, _, result => return result
  | rounds + 1, start, result =>
      if start < entries.length then do
        let chunk := (entries.drop start).take config.batchSize
        let count ← catchWith (ask (.createMany chunk config.options)) (fun error => do
          ask (.logError
            { chunkStart := start
              chunkSize := chunk.length
              committedSoFar := result.inserted
              committedBatches := result.batches
              error := error.message })
          fail error)
        createFrom config entries rounds (start + config.batchSize)
          { inserted := result.inserted + count, batches := result.batches + 1 }
      else return result

def createLedgerEntries (config : LedgerConfig) (entries : List ε)
    : Prog (ledgerInterface ε) CreateLedgerEntriesResult :=
  if entries.length = 0 then return { inserted := 0, batches := 0 }
  else createFrom config entries entries.length 0 { inserted := 0, batches := 0 }

-- The table

structure World (ε : Type) where
  rows : List ε := []
  /-- The number of writes so far. -/
  writes : Nat := 0
  logs : List FailureContext := []

/-- The writes fail that `fails` has an error for, and leave no row. -/
def World.act (fails : Nat → Option JsError) (w : World ε)
    : (op : LedgerOp ε) → (ledgerInterface ε).Reply op × World ε
  | .createMany data _ =>
      match fails w.writes with
      | none => (.ok data.length, { w with rows := w.rows ++ data, writes := w.writes + 1 })
      | some error => (.error error, { w with writes := w.writes + 1 })
  | .logError context => (.ok (), { w with logs := w.logs ++ [context] })

def ledgerSemantics (fails : Nat → Option JsError)
    : Semantics (ledgerInterface ε) (World ε) Unit where
  act _ op _ w := some (w.act fails op)

theorem createMany_cases {fails : Nat → Option JsError} {i : Nat} {x : Unit} {data : List ε}
    {options : TransactionOptions} {w w' : World ε} {reply : Except JsError Nat}
    (h : (ledgerSemantics fails).act i (.createMany data options) x w = some (reply, w'))
    : fails w.writes = none ∧ reply = .ok data.length
        ∧ w' = { w with rows := w.rows ++ data, writes := w.writes + 1 }
      ∨ ∃ error, fails w.writes = some error ∧ reply = .error error
        ∧ w' = { w with writes := w.writes + 1 } := by
  have answered : w.act fails (.createMany data options) = (reply, w') := Option.some.inj h
  simp only [World.act] at answered
  split at answered
  · obtain ⟨rfl, rfl⟩ := Prod.mk.inj answered
    exact .inl ⟨‹_›, rfl, rfl⟩
  · obtain ⟨rfl, rfl⟩ := Prod.mk.inj answered
    exact .inr ⟨_, ‹_›, rfl, rfl⟩

-- Runs

/-- From a world on, the first write that fails is the one of chunk `k`. -/
structure FailsAt (fails : Nat → Option JsError) (config : LedgerConfig) (entries : List ε)
    (w : World ε) (k : Nat) (error : JsError) : Prop where
  within : k * config.batchSize < entries.length
  failed : fails (w.writes + k) = some error
  first : ∀ j < k, fails (w.writes + j) = none

/-- No write of a chunk fails. -/
def Succeeds (fails : Nat → Option JsError) (config : LedgerConfig) (entries : List ε)
    (w : World ε) : Prop :=
  ∀ k, k * config.batchSize < entries.length → fails (w.writes + k) = none

section

variable {fails : Nat → Option JsError} {config : LedgerConfig} {entries : List ε} {w : World ε}

/-- What is left after the chunk that failed: the entries before it, with the log of it. -/
def LeftByFailure (config : LedgerConfig) (entries : List ε) (w : World ε) (k : Nat)
    (error : JsError) (w' : World ε) : Prop :=
  w'.rows = w.rows ++ entries.take (k * config.batchSize)
    ∧ w'.logs = w.logs
      ++ [{ chunkStart := k * config.batchSize
            chunkSize := min config.batchSize (entries.length - k * config.batchSize)
            committedSoFar := k * config.batchSize
            committedBatches := k
            error := error.message }]

/-- The world in front of chunk `k`. -/
structure InFront (fails : Nat → Option JsError) (config : LedgerConfig) (entries : List ε)
    (w : World ε) (k : Nat) (middle : World ε) : Prop where
  rows : middle.rows = w.rows ++ entries.take (k * config.batchSize)
  writes : middle.writes = w.writes + k
  logs : middle.logs = w.logs
  first : ∀ j < k, fails (w.writes + j) = none

theorem InFront.write {k : Nat} {middle : World ε} (h : InFront fails config entries w k middle)
    (written : fails (w.writes + k) = none)
    : InFront fails config entries w (k + 1)
        { middle with
          rows := middle.rows ++ (entries.drop (k * config.batchSize)).take config.batchSize
          writes := middle.writes + 1 } where
  rows := by
    rw [h.rows, List.append_assoc, Nat.add_mul, Nat.one_mul, List.take_add]
  writes := by
    rw [h.writes, Nat.add_assoc]
  logs := h.logs
  first := by
    intro j before
    rcases Nat.lt_succ_iff_lt_or_eq.mp before with earlier | rfl
    · exact h.first j earlier
    · exact written

/-- The loop from chunk `k` on, by induction on its rounds. -/
theorem wlp_createFrom {rounds k i : Nat} {middle : World ε} {result : CreateLedgerEntriesResult}
    (enough : entries.length ≤ (k + rounds) * config.batchSize)
    (front : InFront fails config entries w k middle)
    (inserted : result.inserted = min (k * config.batchSize) entries.length)
    (batches : result.batches = min k (entries.length ⌈/⌉ config.batchSize))
    : (ledgerSemantics fails).wlp i
        (createFrom config entries rounds (k * config.batchSize) result) middle
        (fun result w' => Succeeds fails config entries w
          ∧ result = ⟨entries.length, entries.length ⌈/⌉ config.batchSize⟩
          ∧ w'.rows = w.rows ++ entries ∧ w'.logs = w.logs)
        (fun error w' => ∃ k, FailsAt fails config entries w k error
          ∧ LeftByFailure config entries w k error w') := by
  have positive := config.positive
  -- at the end of the loop every chunk has been written
  have complete : ∀ {k : Nat} {middle : World ε} {result : CreateLedgerEntriesResult},
      entries.length ≤ k * config.batchSize → InFront fails config entries w k middle →
      result.inserted = min (k * config.batchSize) entries.length →
      result.batches = min k (entries.length ⌈/⌉ config.batchSize) →
      Succeeds fails config entries w
        ∧ result = ⟨entries.length, entries.length ⌈/⌉ config.batchSize⟩
        ∧ middle.rows = w.rows ++ entries ∧ middle.logs = w.logs := by
    intro k middle result all front inserted batches
    have count : entries.length ⌈/⌉ config.batchSize ≤ k := by
      rw [ceilDiv_le_iff_le_mul positive]
      rwa [Nat.mul_comm]
    refine ⟨fun j within => front.first j ?_, ?_, ?_, front.logs⟩
    · exact lt_of_mul_lt_mul_right (within.trans_le all) (Nat.zero_le _)
    · rw [Nat.min_eq_right all] at inserted
      rw [Nat.min_eq_right count] at batches
      rw [← batches, ← inserted]
    · rw [front.rows, List.take_of_length_le all]
  induction rounds generalizing k middle result with
  | zero => exact complete enough front inserted batches
  | succ rounds ih =>
      unfold createFrom
      split
      · rename_i within
        have count : k < entries.length ⌈/⌉ config.batchSize := by
          rw [← not_le, ceilDiv_le_iff_le_mul positive, not_le]
          rwa [Nat.mul_comm]
        rw [Nat.min_eq_left within.le] at inserted
        rw [Nat.min_eq_left count.le] at batches
        have chunk : ((entries.drop (k * config.batchSize)).take config.batchSize).length
            = min config.batchSize (entries.length - k * config.batchSize) := by
          rw [List.length_take, List.length_drop]
        rw [Semantics.wlp_bind, Semantics.wlp_catchWith, ask, Semantics.wlp_await]
        constructor
        · intro _ value after answered
          rcases createMany_cases answered with ⟨written, same, rfl⟩ | ⟨_, -, same, -⟩
          · obtain rfl := Except.ok.inj same
            rw [front.writes] at written
            have moved := @ih (k + 1) _
              { inserted := result.inserted
                  + ((entries.drop (k * config.batchSize)).take config.batchSize).length
                batches := result.batches + 1 }
              (by rwa [Nat.add_assoc, Nat.add_comm 1]) (front.write written) ?_ ?_
            · rwa [Nat.add_mul, Nat.one_mul] at moved
            · simp only [inserted, chunk, Nat.add_mul, Nat.one_mul]
              omega
            · rw [batches, Nat.min_eq_left count]
          · cases same
        · intro _ error after answered
          rcases createMany_cases answered with ⟨-, same, -⟩ | ⟨_, failed, same, rfl⟩
          · cases same
          · obtain rfl := Except.error.inj same
            rw [front.writes] at failed
            rw [Semantics.wlp_bind, ask, Semantics.wlp_await]
            refine ⟨fun _ _ _ logged => ?_, fun _ _ _ logged => ?_⟩
            · obtain ⟨-, rfl⟩ := Prod.mk.inj (Option.some.inj logged)
              refine ⟨k, ⟨within, failed, front.first⟩, front.rows, ?_⟩
              rw [← chunk, ← front.logs]
              simp only [inserted, batches]
            · cases (Prod.mk.inj (Option.some.inj logged)).1
      · rename_i all
        exact complete (not_lt.mp all) front inserted batches

/-- A run of `createLedgerEntries` ends. With a chunk that fails it throws, and just the entries
before that chunk have been written, in order and once each. Without one, all of them have.
-/
theorem createLedgerEntries_settles (fails : Nat → Option JsError) (config : LedgerConfig)
    (entries : List ε) (i : Nat) (w : World ε)
    : (∃ result w', (createLedgerEntries config entries).Evaluates (ledgerSemantics fails) i w
        result w')
      ∧ ∀ result w',
        (createLedgerEntries config entries).Evaluates (ledgerSemantics fails) i w result w' →
        (∃ k error, FailsAt fails config entries w k error ∧ result = .error error
          ∧ LeftByFailure config entries w k error w')
        ∨ Succeeds fails config entries w
          ∧ result = .ok ⟨entries.length, entries.length ⌈/⌉ config.batchSize⟩
          ∧ w'.rows = w.rows ++ entries ∧ w'.logs = w.logs := by
  have live : ∀ op (w : World ε), ∃ x reply w',
      (ledgerSemantics fails).act i op x w = some (reply, w') :=
    fun op w => ⟨(), _, _, rfl⟩
  have judged : (ledgerSemantics fails).wlp i (createLedgerEntries config entries) w
      (fun result w' => Succeeds fails config entries w
        ∧ result = ⟨entries.length, entries.length ⌈/⌉ config.batchSize⟩
        ∧ w'.rows = w.rows ++ entries ∧ w'.logs = w.logs)
      (fun error w' => ∃ k, FailsAt fails config entries w k error
        ∧ LeftByFailure config entries w k error w') := by
    unfold createLedgerEntries
    split
    · rename_i none_
      obtain rfl := List.length_eq_zero_iff.mp none_
      exact ⟨fun k within => absurd within (Nat.not_lt_zero _), by simp, by simp, rfl⟩
    · have start := @wlp_createFrom ε fails config entries w entries.length 0 i w
        { inserted := 0, batches := 0 }
        (by rw [Nat.zero_add]; exact Nat.le_mul_of_pos_right _ config.positive)
        ⟨by simp, rfl, rfl, fun j before => absurd before (Nat.not_lt_zero j)⟩ (by simp) (by simp)
      rwa [Nat.zero_mul] at start
  refine ⟨Prog.exists_evaluates live w, fun result w' run => ?_⟩
  cases result with
  | ok value =>
      obtain ⟨succeeds, rfl, rows, logs⟩ := Semantics.wlp_value judged run
      exact .inr ⟨succeeds, rfl, rows, logs⟩
  | error error =>
      obtain ⟨k, failed, left⟩ := Semantics.wlp_error judged run
      exact .inl ⟨k, error, failed, rfl, left⟩

end

/-- Two chunks, of a size from the environment. -/
example
    : ((createLedgerEntries (.fromEnv (some "2") none none) [1, 2, 3]).evaluate
        (ledgerSemantics fun _ => none) 0 [(), ()] { rows := [] }).map (fun (_, w) => w.rows)
      = some [1, 2, 3] := by
  decide +kernel

end AcbuBackend.Ledger
