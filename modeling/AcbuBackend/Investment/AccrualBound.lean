import AcbuBackend.Investment.Model
import AcbuBackend.Jobs.JobLock
import AcbuBackend.Runtime.Spacing

/-! `yieldAccountingService`, and the job that posts a day of yield when its process starts and
once a day from then on: what the accruals of a strategy add up to, for any number of processes
that start and tick at any times, where no accrual of the strategy is created within a day of
another.
-/

namespace AcbuBackend.Investment

open Effects AcbuBackend.Runtime Jobs

-- Calls

/-- The columns of an accrual transaction; `source` and `strategyId` are its `rateSnapshot`. -/
structure AccrualTransaction where
  type : String := "accrual"
  status : String := "completed"
  usdcAmount : ℚ
  source : String := "yield_accrual"
  strategyId : StrategyId
  completedAt : Nat

/-- The calls of the job. `tick` is answered when a timer of `setInterval` is due. -/
inductive YieldOp
  | lock (op : LockOp)
  | findMany (status : String)
  | createTransaction (data : AccrualTransaction)
  | tick (due : Nat)

abbrev YieldOp.Ret : YieldOp → Type
  | .lock op => op.Ret
  | .findMany _ => List (StrategyId × Strategy)
  | _ => Unit

abbrev yieldInterface : Interface where
  Op := YieldOp
  Ret := YieldOp.Ret
  Err := JsError

abbrev yieldCall (op : YieldOp) : Prog yieldInterface op.Ret :=
  Prog.await (I := yieldInterface) op

def lockCalls : Inclusion lockInterface yieldInterface where
  op := .lock
  value _ := id
  error := id
  throws := id

-- Accruals

/-- `toFixed(8)` of a nonnegative amount, as a number. -/
def toFixed8 (amount : ℚ) : ℚ :=
  ⌊amount * 10 ^ 8 + 1 / 2⌋ / 10 ^ 8

def accrualUsd (days : ℚ) (strategy : Strategy) : Option ℚ :=
  match strategy.targetApyBps with
  | none => none
  | some targetApyBps =>
      let principal := strategy.deployedNotionalUsd.value
      if targetApyBps ≤ 0 ∨ principal ≤ 0 then none
      else
        let apy : ℚ := targetApyBps / 10000
        let amountUsd := toFixed8 (principal * apy * days / 365)
        if amountUsd ≤ 0 then none else some amountUsd

/-- The loop of `accrueFromStrategies`. A posting that fails is logged. -/
def postAccruals (days : ℚ) (asOf : Nat) : List (StrategyId × Strategy) → Prog yieldInterface Unit
  | [] => .done ()
  | (strategyId, strategy) :: rest => do
      match accrualUsd days strategy with
      | none => pure ()
      | some usdcAmount =>
          Prog.swallow
            (yieldCall (.createTransaction { usdcAmount, strategyId, completedAt := asOf }))
      postAccruals days asOf rest

def accrueFromStrategies (days : ℚ) (asOf : Nat) : Prog yieldInterface Unit := do
  let strategies ← yieldCall (.findMany "active")
  postAccruals days asOf strategies

-- The job

def JOB_NAME : String :=
  "yield-accrual"

def LOCK_TTL_S : Nat :=
  23 * 60 * 60

/-- `24 * 60 * 60 * 1000`. -/
def DAY_MS : Nat :=
  24 * 60 * 60 * 1000

def runOnce : Prog yieldInterface Unit := do
  let acquired ← (acquireJobLock JOB_NAME LOCK_TTL_S).within lockCalls
  if acquired then
    Prog.swallow (do
      let asOf ← yieldCall (.lock .now)
      accrueFromStrategies 1 asOf)
    (releaseJobLock JOB_NAME).within lockCalls

/-- The ticks of `setInterval`, the first of them after those that have passed. -/
def dailyRuns (startedAt passed : Nat) : Nat → Prog yieldInterface Unit
  | 0 => .done ()
  | ticks + 1 => do
      yieldCall (.tick (startedAt + (passed + 1) * DAY_MS))
      runOnce.swallow
      dailyRuns startedAt (passed + 1) ticks

/-- `startYieldAccrualScheduler`, for a process that lives as many ticks. -/
def startYieldAccrualScheduler (ticks : Nat) : Prog yieldInterface Unit := do
  runOnce.swallow
  let startedAt ← yieldCall (.lock .now)
  dailyRuns startedAt 0 ticks

-- The database and the locks

/-- An accrual transaction with the time it was created at. -/
structure RecordedAccrual where
  createdAt : Nat
  transaction : AccrualTransaction

/-- The locks, the strategies, and the accrual transactions, the newest first. -/
structure YieldWorld where
  locks : LockWorld
  strategies : AList (fun _ : StrategyId => Strategy)
  accruals : List RecordedAccrual := []

def YieldWorld.findMany (w : YieldWorld) (status : String) : List (StrategyId × Strategy) :=
  (w.strategies.entries.filter (fun e => e.2.status = status)).map (fun e => (e.1, e.2))

/-- What a call answers, and what it leaves. -/
def yieldEffect (x : LockChoice) (w : YieldWorld)
    : (op : YieldOp) → Except JsError op.Ret × YieldWorld
  | .lock op =>
      let (reply, locks) := lockEffect (w.locks.at x) op
      (reply, { w with locks })
  | .findMany status => (.ok (w.findMany status), { w with locks := w.locks.at x })
  | .createTransaction data =>
      (.ok (), { w with
        locks := w.locks.at x
        accruals := ⟨x.time, data⟩ :: w.accruals })
  | .tick _ => (.ok (), { w with locks := w.locks.at x })

/-- Time does not go back; reading it does not fail, and a timer does not go off before it is due.
-/
def yieldAdmissible (op : YieldOp) (x : LockChoice) (w : YieldWorld) : Bool :=
  match op with
  | .lock op => lockAdmissible op x w.locks
  | .tick due => lockAdmissible .now x w.locks && due ≤ x.time
  | _ => w.locks.clock ≤ x.time

def yieldEnvironment : Environment yieldInterface YieldWorld LockChoice where
  outcome := LockChoice.outcome
  effect := yieldEffect
  admissible := yieldAdmissible

def yieldSemantics : Semantics yieldInterface YieldWorld LockChoice :=
  yieldEnvironment.semantics

-- Processes

abbrev YieldConfig := Config yieldInterface Unit YieldWorld

/-- The processes before they start, each with the number of its ticks. -/
def yieldInstances (instances : List Nat) (w : YieldWorld) : YieldConfig :=
  .initial w (instances.map startYieldAccrualScheduler)

def accrualsOf (id : StrategyId) (w : YieldWorld) : List RecordedAccrual :=
  w.accruals.filter (fun accrual => accrual.transaction.strategyId = id)

def accrualsWithin (id : StrategyId) (start days : Nat) (w : YieldWorld) : List RecordedAccrual :=
  inWindow RecordedAccrual.createdAt DAY_MS start days (accrualsOf id w)

def yearlyRate (strategy : Strategy) : ℚ :=
  max 0 (strategy.targetApyBps.getD 0) / 10000

/-- The accruals of a strategy on consecutive days do not exceed its yield, up to half a unit of the
eighth decimal for each of them.
-/
def WithinYield (id : StrategyId) (row : Strategy) (w : YieldWorld) : Prop :=
  ∀ start days,
    ((accrualsWithin id start days w).map (·.transaction.usdcAmount)).sum
      ≤ row.deployedNotionalUsd.value * yearlyRate row * days / 365
        + (accrualsWithin id start days w).length * (1 / (2 * 10 ^ 8))

/-- The strategy a call is about to create an accrual for. -/
def creates? : Option YieldOp → Option StrategyId
  | some (.createTransaction data) => some data.strategyId
  | _ => none

/-- An accrual of the strategy is only created a day or more after its last one. -/
def DayApart (id : StrategyId) (c : YieldConfig) (i : Nat) (x : LockChoice) : Prop :=
  creates? (c.pending? i) = some id → x.outcome.isFailed = false →
    ∀ accrual ∈ accrualsOf id c.world, accrual.createdAt + DAY_MS ≤ x.time

instance (id : StrategyId) (c : YieldConfig) (i : Nat) (x : LockChoice)
    : Decidable (DayApart id c i x) := by
  unfold DayApart
  exact inferInstance

-- One posting

section

variable {row : Strategy} {amount : ℚ}

theorem toFixed8_le : toFixed8 amount ≤ amount + 1 / (2 * 10 ^ 8) := by
  have floor : (⌊amount * 10 ^ 8 + 1 / 2⌋ : ℚ) ≤ amount * 10 ^ 8 + 1 / 2 := Int.floor_le _
  rw [toFixed8, div_le_iff₀ (by norm_num)]
  linarith

/-- A posting is the yield of a day, rounded. -/
theorem accrualUsd_le (h : accrualUsd 1 row = some amount)
    : amount ≤ row.deployedNotionalUsd.value * yearlyRate row / 365 + 1 / (2 * 10 ^ 8) := by
  unfold accrualUsd at h
  split at h
  · cases h
  · rename_i targetApyBps rate
    dsimp only at h
    split at h
    · cases h
    · rename_i positive
      split at h
      · cases h
      · obtain rfl := Option.some.inj h
        have yearly : yearlyRate row = targetApyBps / 10000 := by
          have nonneg : (0 : ℤ) ≤ targetApyBps := by
            rw [not_or, not_le] at positive
            exact positive.1.le
          rw [yearlyRate, rate, Option.getD_some, max_eq_right (by exact_mod_cast nonneg)]
        rw [yearly]
        refine toFixed8_le.trans (le_of_eq ?_)
        ring

theorem yearlyYield_nonneg : 0 ≤ row.deployedNotionalUsd.value * yearlyRate row / 365 :=
  have rate : (0 : ℚ) ≤ (max 0 (row.targetApyBps.getD 0) : ℤ) := Int.cast_nonneg (le_max_left _ _)
  div_nonneg (mul_nonneg Cents.value_nonneg (div_nonneg rate (by norm_num))) (by norm_num)

end

-- The rows a run has read

/-- The protocol of a process that posts accruals of the rows it has read last. -/
def yieldProtocol : Protocol yieldInterface (List (StrategyId × Strategy)) where
  next rows op reply :=
    match op, reply with
    | .findMany _, .ok found => some found
    | .createTransaction data, _ =>
        if (rows.filter (fun e => e.1 = data.strategyId)).any
          (fun e => accrualUsd 1 e.2 = some data.usdcAmount)
        then some rows
        else none
    | _, _ => some rows

section

variable {rows : List (StrategyId × Strategy)}

theorem yield_lock_ignored {α : Type} {prog : Prog lockInterface α}
    : yieldProtocol.wp (prog.within lockCalls) rows (fun _ rows' => rows' = rows)
        (fun _ rows' => rows' = rows) :=
  Protocol.wp_within_of_ignored fun _ _ => rfl

theorem postAccruals_wp {asOf : Nat} {rest : List (StrategyId × Strategy)}
    (read : ∀ e ∈ rest, e ∈ rows)
    : yieldProtocol.wp (postAccruals 1 asOf rest) rows (fun _ rows' => rows' = rows)
        (fun _ _ => True) := by
  induction rest with
  | nil => exact rfl
  | cons e rest ih =>
      obtain ⟨first, others⟩ := List.forall_mem_cons.mp read
      have later := ih others
      rw [postAccruals]
      cases accrued : accrualUsd 1 e.2 with
      | none => exact later
      | some usdcAmount =>
          have allowed : (rows.filter (fun other => other.1 = e.1)).any
              (fun other => accrualUsd 1 other.2 = some usdcAmount) = true :=
            List.any_eq_true.mpr ⟨e, List.mem_filter.mpr ⟨first, by simp⟩, by simp [accrued]⟩
          simp only [Protocol.wp_bind, Protocol.wp_swallow, Protocol.wp_await]
          exact ⟨fun _ => ⟨rows, if_pos allowed, later⟩, fun _ => ⟨rows, if_pos allowed, later⟩⟩

theorem runOnce_wp : yieldProtocol.wp runOnce rows (fun _ _ => True) (fun _ _ => True) := by
  have release : ∀ {rows}, yieldProtocol.wp ((releaseJobLock JOB_NAME).within lockCalls) rows
      (fun _ _ => True) (fun _ _ => True) :=
    Protocol.wp_mono yield_lock_ignored (fun _ _ _ => trivial) (fun _ _ _ => trivial)
  rw [runOnce, Protocol.wp_bind]
  refine Protocol.wp_mono yield_lock_ignored (fun acquired rows' _ => ?_) (fun _ _ _ => trivial)
  rw [Protocol.wp_ite]
  refine ⟨fun _ => ?_, fun _ => trivial⟩
  simp only [accrueFromStrategies, Protocol.wp_bind, Protocol.wp_swallow, Protocol.wp_await]
  refine ⟨fun asOf => ⟨rows', rfl, fun found => ⟨found, rfl, ?_⟩, fun _ => ⟨rows', rfl, release⟩⟩,
    fun _ => ⟨rows', rfl, release⟩⟩
  exact Protocol.wp_mono (postAccruals_wp fun _ member => member) (fun _ _ _ => release)
    (fun _ _ _ => release)

theorem dailyRuns_wp {startedAt passed ticks : Nat}
    : yieldProtocol.wp (dailyRuns startedAt passed ticks) rows (fun _ _ => True)
        (fun _ _ => True) := by
  induction ticks generalizing passed rows with
  | zero => trivial
  | succ ticks ih =>
      simp only [dailyRuns, Protocol.wp_bind, Protocol.wp_swallow, Protocol.wp_await]
      refine ⟨fun _ => ⟨rows, rfl, ?_⟩, fun _ => ⟨rows, rfl, trivial⟩⟩
      exact Protocol.wp_mono runOnce_wp (fun _ _ _ => ih) (fun _ _ _ => ih)

theorem startYieldAccrualScheduler_wp {ticks : Nat}
    : yieldProtocol.wp (startYieldAccrualScheduler ticks) rows (fun _ _ => True)
        (fun _ _ => True) := by
  have timers : ∀ {rows}, yieldProtocol.wp (do
      let startedAt ← yieldCall (.lock .now)
      dailyRuns startedAt 0 ticks) rows (fun _ _ => True) (fun _ _ => True) := by
    intro rows
    rw [Protocol.wp_bind, Protocol.wp_await]
    exact ⟨fun _ => ⟨rows, rfl, dailyRuns_wp⟩, fun _ => ⟨rows, rfl, trivial⟩⟩
  rw [startYieldAccrualScheduler, Protocol.wp_bind, Protocol.wp_swallow]
  exact Protocol.wp_mono runOnce_wp (fun _ _ _ => timers) (fun _ _ _ => timers)

end

-- Steps

/-- The rows process `i` has read. -/
def rowsOf (c : YieldConfig) (i : Nat) : List (StrategyId × Strategy) :=
  yieldProtocol.phase (fun _ => []) c i

/-- The strategies stay as they are, all rows that were read are of them, and the accruals of a
strategy are a day apart, each of them the yield of a day.
-/
structure Accruing (strategies : AList (fun _ : StrategyId => Strategy)) (id : StrategyId)
    (c : YieldConfig)
    : Prop where
  constant : c.world.strategies = strategies
  read : ∀ i, ∀ e ∈ rowsOf c i, strategies.lookup e.1 = some e.2
  apart : Spaced RecordedAccrual.createdAt DAY_MS (accrualsOf id c.world)
  posted : ∀ accrual ∈ accrualsOf id c.world, ∃ row,
    strategies.lookup id = some row ∧ accrualUsd 1 row = some accrual.transaction.usdcAmount

section

variable {strategies : AList (fun _ : StrategyId => Strategy)} {id : StrategyId} {w w' : YieldWorld}
  {c c' : YieldConfig} {i : Nat} {x : LockChoice}

theorem governed_yieldInstances {instances : List Nat}
    : yieldProtocol.Governs (fun _ => []) (fun _ _ _ => True) (fun _ _ _ => True)
        (yieldInstances instances w) := by
  refine Protocol.governs_initial fun i prog found => ?_
  rw [List.getElem?_map] at found
  obtain ⟨ticks, -, rfl⟩ := Option.map_eq_some_iff.mp found
  exact startYieldAccrualScheduler_wp

theorem yield_frame {op : YieldOp} {reply : yieldInterface.Reply op}
    (h : yieldSemantics.act i op x w = some (reply, w'))
    : w'.strategies = w.strategies
      ∧ (accrualsOf id w' = accrualsOf id w
        ∨ x.outcome.isFailed = false ∧ ∃ data, op = .createTransaction data ∧ data.strategyId = id
          ∧ accrualsOf id w' = ⟨x.time, data⟩ :: accrualsOf id w) := by
  obtain ⟨-, answer⟩ := Environment.act_eq_some h
  rcases Outcome.answer_cases answer with ⟨-, rfl⟩ | ⟨effective, rfl⟩
  · exact ⟨rfl, .inl rfl⟩
  · cases op with
    | lock op => exact ⟨rfl, .inl rfl⟩
    | findMany _ => exact ⟨rfl, .inl rfl⟩
    | tick _ => exact ⟨rfl, .inl rfl⟩
    | createTransaction data =>
        refine ⟨rfl, ?_⟩
        by_cases same : data.strategyId = id
        · exact .inr ⟨effective, data, rfl, same, List.filter_cons_of_pos (by simpa using same)⟩
        · exact .inl (List.filter_cons_of_neg (by simpa using same))

theorem findMany_rows {status : String} {e : StrategyId × Strategy} (member : e ∈ w.findMany status)
    : w.strategies.lookup e.1 = some e.2 := by
  obtain ⟨entry, there, rfl⟩ := List.mem_map.mp member
  exact AList.mem_lookup_iff.mpr (List.mem_filter.mp there).1

theorem rows_of_next {rows rows' : List (StrategyId × Strategy)} {op : YieldOp}
    {reply : yieldInterface.Reply op} (moved : yieldProtocol.next rows op reply = some rows')
    (answered : yieldSemantics.act i op x w = some (reply, w'))
    : rows' = rows ∨ ∃ status, rows' = w.findMany status := by
  cases op with
  | lock _ => exact .inl (Option.some.inj moved).symm
  | tick _ => exact .inl (Option.some.inj moved).symm
  | createTransaction _ =>
      simp only [yieldProtocol, Option.ite_none_right_eq_some, Option.some.injEq] at moved
      exact .inl moved.2.symm
  | findMany status =>
      cases reply with
      | error _ => exact .inl (Option.some.inj moved).symm
      | ok found =>
          obtain ⟨-, effective⟩ := Outcome.answer_ok (Environment.act_eq_some answered).2
          obtain rfl : w.findMany status = found := Except.ok.inj (congrArg Prod.fst effective)
          exact .inr ⟨status, (Option.some.inj moved).symm⟩

theorem posted_of_next {rows rows' : List (StrategyId × Strategy)} {data : AccrualTransaction}
    {reply : Except JsError Unit}
    (moved : yieldProtocol.next rows (.createTransaction data) reply = some rows')
    : ∃ e ∈ rows, e.1 = data.strategyId ∧ accrualUsd 1 e.2 = some data.usdcAmount := by
  simp only [yieldProtocol, Option.ite_none_right_eq_some] at moved
  obtain ⟨e, member, accrued⟩ := List.any_eq_true.mp moved.1
  obtain ⟨member, same⟩ := List.mem_filter.mp member
  exact ⟨e, member, of_decide_eq_true same, of_decide_eq_true accrued⟩

theorem Accruing.step
    (governed : yieldProtocol.Governs (fun _ => []) (fun _ _ _ => True) (fun _ _ _ => True) c)
    (h : Accruing strategies id c) (apart : DayApart id c i x)
    (stepped : c.step yieldSemantics i x = some c')
    : Accruing strategies id c' := by
  obtain ⟨op, reply, -, asks, answered, moved, -, others, -⟩ := governed.step_cases stepped
  have others : ∀ j, j ≠ i → rowsOf c' j = rowsOf c j := fun j different => (others j different).1
  change yieldProtocol.next (rowsOf c i) op reply = some (rowsOf c' i) at moved
  have reads : ∀ j, ∀ e ∈ rowsOf c' j, strategies.lookup e.1 = some e.2 := by
    intro j e member
    by_cases same : j = i
    · subst same
      rcases rows_of_next moved answered with same | ⟨status, same⟩
      · exact h.read j e (same ▸ member)
      · rw [same] at member
        rw [← h.constant]
        exact findMany_rows member
    · rw [others j same] at member
      exact h.read j e member
  obtain ⟨kept, same | ⟨effective, data, rfl, target, added⟩⟩ :
      c'.world.strategies = c.world.strategies
        ∧ (accrualsOf id c'.world = accrualsOf id c.world
          ∨ x.outcome.isFailed = false ∧ ∃ data, op = .createTransaction data ∧ data.strategyId = id
            ∧ accrualsOf id c'.world = ⟨x.time, data⟩ :: accrualsOf id c.world) :=
    yield_frame answered
  · exact ⟨kept.trans h.constant, reads, same ▸ h.apart, same ▸ h.posted⟩
  · refine ⟨kept.trans h.constant, reads, ?_, ?_⟩
    · rw [added]
      exact h.apart.cons (apart (by rw [asks, ← target]; rfl) effective)
    · rw [added]
      obtain ⟨e, member, same, accrued⟩ := posted_of_next moved
      refine List.forall_mem_cons.mpr ⟨⟨e.2, ?_, accrued⟩, h.posted⟩
      rw [← target, ← same]
      exact h.read i e member

end

/-- In every run in which each accrual of a strategy is created a day or more after its last one,
the accruals of the strategy on any consecutive days do not exceed its yield.
-/
theorem accruals_within_yield (instances : List Nat) (locks : LockWorld)
    (strategies : AList (fun _ : StrategyId => Strategy)) (id : StrategyId) (row : Strategy)
    (stored : strategies.lookup id = some row) (c : YieldConfig)
    (reached : Config.Reaches yieldSemantics (DayApart id)
      (yieldInstances instances { locks, strategies }) c)
    : WithinYield id row c.world := by
  have base : Accruing strategies id (yieldInstances instances { locks, strategies }) := by
    refine ⟨rfl, fun i e member => ?_, List.Pairwise.nil, nofun⟩
    rw [rowsOf, yieldInstances, Protocol.phase_initial] at member
    cases member
  obtain ⟨-, accruing⟩ := Protocol.Governs.invariant governed_yieldInstances base
    (fun _ _ _ _ governed h apart stepped => h.step governed apart stepped) reached
  have daily : ∀ accrual ∈ accrualsOf id c.world, accrual.transaction.usdcAmount
      ≤ row.deployedNotionalUsd.value * yearlyRate row / 365 + 1 / (2 * 10 ^ 8) := by
    intro accrual member
    obtain ⟨row', stored', accrued⟩ := accruing.posted accrual member
    obtain rfl := Option.some.inj (stored.symm.trans stored')
    exact accrualUsd_le accrued
  intro start days
  calc ((accrualsWithin id start days c.world).map (·.transaction.usdcAmount)).sum
      ≤ days * (row.deployedNotionalUsd.value * yearlyRate row / 365)
          + (accrualsWithin id start days c.world).length * (1 / (2 * 10 ^ 8)) :=
        accruing.apart.sum_inWindow_le daily yearlyYield_nonneg
    _ = row.deployedNotionalUsd.value * yearlyRate row * days / 365
          + (accrualsWithin id start days c.world).length * (1 / (2 * 10 ^ 8)) := by
        ring

-- Runs with a strategy that yields a dollar a day

/-- A strategy of 36500 dollars at a rate of one per cent. -/
def yieldingStrategy : Strategy where
  name := "Vault"
  policyLimitUsd := ⟨5000000⟩
  deployedNotionalUsd := ⟨3650000⟩
  targetApyBps := some 100

def yieldStart (instances : List Nat) : YieldConfig :=
  yieldInstances instances
    { locks := { clock := 0, locks := fun _ => none }
      strategies := AList.singleton "vault" yieldingStrategy }

/-- The steps of a process at a time, all its calls being answered. -/
def stepsAt (i time steps : Nat) : List (Nat × LockChoice) :=
  List.replicate steps (i, { time })

/-- A process that ticks a day after its start. -/
theorem accruals_within_yield_tick
    : ∃ c, Config.Reaches yieldSemantics (DayApart "vault") (yieldStart [1]) c
      ∧ ((accrualsWithin "vault" 0 2 c.world).map (·.transaction.usdcAmount)) = [1, 1]
      ∧ WithinYield "vault" yieldingStrategy c.world := by
  have executed :
      ((yieldStart [1]).run yieldSemantics (DayApart "vault")
        (stepsAt 0 0 7 ++ stepsAt 0 DAY_MS 7)).map
        (fun c => (accrualsWithin "vault" 0 2 c.world).map (·.transaction.usdcAmount))
          = some [1, 1] := by
    decide +kernel
  obtain ⟨c, reached, posted⟩ := Config.reaches_of_run executed
  exact ⟨c, reached, posted, accruals_within_yield [1] _ _ "vault" yieldingStrategy rfl c reached⟩

/-- Two processes that start an hour apart post the yield of a day each. -/
theorem restart_accrues_twice
    : ∃ c, Config.Reaches yieldSemantics Config.anyStep (yieldStart [0, 0]) c
      ∧ ((accrualsWithin "vault" 0 1 c.world).map (·.transaction.usdcAmount)) = [1, 1]
      ∧ ¬ WithinYield "vault" yieldingStrategy c.world := by
  have executed :
      ((yieldStart [0, 0]).run yieldSemantics Config.anyStep
        (stepsAt 0 0 7 ++ stepsAt 1 3600000 7)).map
        (fun c => (accrualsWithin "vault" 0 1 c.world).map (·.transaction.usdcAmount))
          = some [1, 1] := by
    decide +kernel
  obtain ⟨c, reached, posted⟩ := Config.reaches_of_run executed
  refine ⟨c, reached, posted, fun within => ?_⟩
  have bound := within 0 1
  have length : (accrualsWithin "vault" 0 1 c.world).length = 2 := by
    simpa using congrArg List.length posted
  rw [posted, length] at bound
  exact absurd bound (by decide +kernel)

end AcbuBackend.Investment
