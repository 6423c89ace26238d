import AcbuBackend.Effects.Outcome
import AcbuBackend.Rates.AcbuRates

/-! The cache of the latest rate, with loads that take time, and what an invalidation of it ends.
A miss starts a load, and the calls that miss while it is under way share it. A row is stamped with
the number of invalidations before it was read from the database, and a call with the number before
it started.
A load that has read its row before an invalidation still fills the cache afterwards, and is still
shared. So calls are served no older rows where an invalidation finds no such load under way.
-/

namespace AcbuBackend.RateCache

open Effects Effects.Prog AcbuBackend.Runtime
open Rates (AcbuRate AcbuRateTable ttlMs)

/-- A row, and the number of invalidations before it was read. -/
structure ReadRow where
  row : AcbuRate
  readAfter : Nat
deriving DecidableEq

abbrev LoadId := Nat

/-- What a call finds: a cached row, no load so that it starts one, or a load to share. -/
inductive Entry
  | cached (row : ReadRow)
  | started (load : LoadId)
  | joined (load : LoadId)

/-- What a call finds, and the number of invalidations before it started. -/
structure Entered where
  entry : Entry
  startedAfter : Nat

/-- The steps of the module between two points where it waits. `findFirst` is the moment of the read
in the database, `fill` goes on with its row, and `settle` is the `finally` of a load.
-/
inductive RateCacheOp
  | enter
  | findFirst
  | fill (row : ReadRow)
  | settle (load : LoadId) (result : Except JsError ReadRow)
  | awaitLoad (load : LoadId)
  | createRate (row : AcbuRate)
  | invalidate

abbrev RateCacheOp.Ret : RateCacheOp → Type
  | .enter => Entered
  | .findFirst => Option ReadRow
  | .awaitLoad _ => ReadRow
  | .fill _ | .settle .. | .createRate _ | .invalidate => Unit

abbrev rateCacheInterface : Interface where
  Op := RateCacheOp
  Ret := RateCacheOp.Ret
  Err := JsError

/-- Makes a step. -/
abbrev perform (op : RateCacheOp) : Prog rateCacheInterface op.Ret :=
  Prog.await (I := rateCacheInterface) op

-- getLatestAcbuRate

def ratesNotAvailable : JsError :=
  .error "ACBU rates not available"

def fetchFromDb : Prog rateCacheInterface ReadRow := do
  let found ← perform .findFirst
  let row ← orThrow found ratesNotAvailable
  perform (.fill row)
  return row

/-- The load `fetchFromDb().finally(...)`. -/
def runLoad (load : LoadId) : Prog rateCacheInterface ReadRow := do
  let result ← catchWith
    (do
      let row ← fetchFromDb
      return .ok row)
    (fun error => return .error error)
  perform (.settle load result)
  fromExcept result

/-- The row of a call, by what it has found. -/
def rowOf : Entry → Prog rateCacheInterface ReadRow
  | .cached row => return row
  | .started load => runLoad load
  | .joined load => perform (.awaitLoad load)

/-- The row a call returns, and the number of invalidations before it started. -/
structure Served where
  row : ReadRow
  startedAfter : Nat
deriving DecidableEq

def getLatestAcbuRate : Prog rateCacheInterface Served := do
  let entered ← perform .enter
  let row ← rowOf entered.entry
  return { row, startedAfter := entered.startedAfter }

-- The module state and the table

/-- The variables of the module, the results of its loads, the table, and the number of
invalidations so far.
-/
structure World where
  table : AcbuRateTable
  cached : Option ReadRow := none
  expiresAt : ℤ := 0
  inflight : Option LoadId := none
  loads : List (Option (Except JsError ReadRow)) := []
  invalidations : Nat := 0

/-- What becomes of a step, and the time it is made at. -/
structure Choice where
  outcome : Outcome JsError := .done
  now : ℤ := 0

/-- The start of a call, up to where it waits. -/
def World.enter (w : World) (now : ℤ) : Entry × World :=
  match w.cached.filter (fun _ => now < w.expiresAt), w.inflight with
  | some row, _ => (.cached row, w)
  | none, some load => (.joined load, w)
  | none, none =>
      (.started w.loads.length,
        { w with inflight := some w.loads.length, loads := w.loads ++ [none] })

/-- What the shared promise of a load yields. -/
def World.resultOf (w : World) (load : LoadId) : Except JsError ReadRow :=
  (w.loads[load]?.join).getD (.error ratesNotAvailable)

def effect (x : Choice) (w : World) : (op : RateCacheOp) → Except JsError op.Ret × World
  | .enter =>
      let (entry, w') := w.enter x.now
      (.ok { entry, startedAfter := w.invalidations }, w')
  | .findFirst =>
      (.ok (w.table.latest.map (fun row => { row, readAfter := w.invalidations })), w)
  | .fill row => (.ok (), { w with cached := some row, expiresAt := x.now + ttlMs })
  | .settle load result =>
      (.ok (), { w with inflight := none, loads := w.loads.set load (some result) })
  | .awaitLoad load => (w.resultOf load, w)
  | .createRate row => (.ok (), { w with table := w.table.create row })
  | .invalidate =>
      (.ok (), { w with cached := none, expiresAt := 0, invalidations := w.invalidations + 1 })

/-- Only a query can fail, and a load is waited for until it is settled. -/
def admissible (op : RateCacheOp) (x : Choice) (w : World) : Bool :=
  match op with
  | .findFirst | .createRate _ => true
  | .awaitLoad load => x.outcome = .done && (w.loads[load]?.join).isSome
  | .enter | .fill _ | .settle .. | .invalidate => x.outcome = .done

def rateCacheEnvironment : Environment rateCacheInterface World Choice where
  outcome := Choice.outcome
  effect := effect
  admissible := admissible

def rateCacheSemantics : Semantics rateCacheInterface World Choice :=
  rateCacheEnvironment.semantics

-- Runs

inductive RateCall
  | getLatest
  | createRate (row : AcbuRate)
  | invalidateAcbuRateCache

def RateCall.prog : RateCall → Prog rateCacheInterface (Option Served)
  | .getLatest => do
      let served ← getLatestAcbuRate
      return some served
  | .createRate row => do
      perform (.createRate row)
      return none
  | .invalidateAcbuRateCache => do
      perform .invalidate
      return none

abbrev RateCacheConfig := Config rateCacheInterface (Option Served) World

def initialConfig (calls : List RateCall) (table : AcbuRateTable) : RateCacheConfig :=
  .initial { table } (calls.map RateCall.prog)

-- Coherence

/-- No call that started after an invalidation has returned a row that was read before it. -/
def Coherent (c : RateCacheConfig) : Prop :=
  ∀ i served, c.value? i = some (some served) → served.startedAfter ≤ served.row.readAfter

/-- The next step of a load that has read its row. -/
def RateCacheOp.carriesRow : RateCacheOp → Bool
  | .fill _ | .settle _ (.ok _) => true
  | _ => false

def RateCacheOp.isInvalidate : RateCacheOp → Bool
  | .invalidate => true
  | _ => false

/-- An invalidation finds no load that has read its row and is not settled. -/
def Undisturbed (c : RateCacheConfig) (i : Nat) (_ : Choice) : Prop :=
  (c.pending? i).any RateCacheOp.isInvalidate = true →
    ∀ j < c.threads.length, (c.pending? j).any RateCacheOp.carriesRow = false

instance (c : RateCacheConfig) (i : Nat) (x : Choice) : Decidable (Undisturbed c i x) :=
  decidable_of_iff
    ((!(c.pending? i).any RateCacheOp.isInvalidate
      || (List.range c.threads.length).all (fun j => !(c.pending? j).any RateCacheOp.carriesRow))
        = true)
    (by
      unfold Undisturbed
      cases (c.pending? i).any RateCacheOp.isInvalidate <;> simp)

-- The phases of a call

/-- How far a call has come; `startedAfter` is the number of invalidations before it started. -/
inductive Phase
  | idle
  | loading (startedAfter : Nat) (load : LoadId)
  | carrying (startedAfter : Nat) (load : LoadId) (row : ReadRow)
  | failing (startedAfter : Nat) (load : LoadId)
  | waiting (startedAfter : Nat) (load : LoadId)
  | served (served : Served)
  | over

/-- The phase after the start of a call. -/
def afterEnter (entered : Entered) : Phase :=
  match entered.entry with
  | .cached row => .served { row, startedAfter := entered.startedAfter }
  | .started load => .loading entered.startedAfter load
  | .joined load => .waiting entered.startedAfter load

def afterRead (startedAfter : Nat) (load : LoadId) : Except JsError (Option ReadRow) → Phase
  | .ok (some row) => .carrying startedAfter load row
  | _ => .failing startedAfter load

/-- The phase of a load after its `finally`. -/
def afterSettle (load : LoadId) (result : Except JsError ReadRow) (ok : Bool) : Phase → Option Phase
  | .carrying k held row =>
      match result with
      | .ok settled =>
          if load = held ∧ settled = row then
            some (if ok then .served { row, startedAfter := k } else .over)
          else none
      | .error _ => none
  | .failing _ held =>
      match result with
      | .ok _ => none
      | .error _ => if load = held then some .over else none
  | _ => none

def rateCacheProtocol : Protocol rateCacheInterface Phase where
  next phase
    | .enter, reply =>
        match phase with
        | .idle => some (reply.toOption.elim .over afterEnter)
        | _ => none
    | .createRate _, _ | .invalidate, _ =>
        match phase with
        | .idle => some .over
        | _ => none
    | .findFirst, reply =>
        match phase with
        | .loading k load => some (afterRead k load reply)
        | _ => none
    | .fill row, reply =>
        match phase with
        | .carrying k load held =>
            if row = held then some (if Except.isOk reply then .carrying k load held else .failing k
              load)
            else none
        | _ => none
    | .settle load result, reply => afterSettle load result (Except.isOk reply) phase
    | .awaitLoad load, reply =>
        match phase with
        | .waiting k awaited =>
            if load = awaited then
              some (reply.toOption.elim .over (fun row => .served { row, startedAfter := k }))
            else none
        | _ => none

/-- A load whose row has been read is under way. -/
def Phase.Carrying : Phase → Prop
  | .carrying .. => True
  | _ => False

/-- A call ends with the row it was served, and leaves no load under way. -/
abbrev Ends (prog : Prog rateCacheInterface (Option Served)) (phase : Phase) : Prop :=
  rateCacheProtocol.wp prog phase
    (fun value phase' => ¬ phase'.Carrying ∧ ∀ served,
      value = some served → phase' = .served served)
    (fun _ phase' => ¬ phase'.Carrying)

/-- A call that has got a row returns it. -/
abbrev Serves (prog : Prog rateCacheInterface ReadRow) (phase : Phase) (startedAfter : Nat)
    : Prop :=
  rateCacheProtocol.wp prog phase (fun row phase' => phase' = .served { row, startedAfter })
    (fun _ phase' => ¬ phase'.Carrying)

theorem serves_runLoad {k : Nat} {load : LoadId} : Serves (runLoad load) (.loading k load) k := by
  unfold runLoad
  -- the load has its row, or has failed
  have loaded : rateCacheProtocol.wp
      (catchWith (do let row ← fetchFromDb; return (.ok row : Except JsError ReadRow))
        (fun error => return .error error))
      (.loading k load)
      (fun result phase => match result with
        | .ok row => phase = .carrying k load row
        | .error _ => phase = .failing k load)
      (fun _ _ => False) := by
    refine Protocol.wp_catchWith.mpr (Protocol.wp_bind.mpr (Protocol.wp_bind.mpr ?_))
    refine Protocol.wp_await.mpr ⟨fun found => ?_, fun error => ⟨_, rfl, rfl⟩⟩
    cases found with
    | none => exact ⟨_, rfl, rfl⟩
    | some row =>
        refine ⟨_, rfl, Protocol.wp_bind.mpr (Protocol.wp_orThrow.mpr
          ⟨fun read same => ?_, fun none => nomatch none⟩)⟩
        obtain rfl := Option.some.inj same
        refine Protocol.wp_bind.mpr (Protocol.wp_await.mpr ⟨fun _ => ?_, fun _ => ?_⟩)
        · exact ⟨_, if_pos rfl, rfl⟩
        · exact ⟨_, if_pos rfl, rfl⟩
  refine Protocol.wp_bind.mpr (Protocol.wp_mono loaded ?_ fun _ _ absurd => absurd.elim)
  rintro (error | row) phase rfl
  · refine Protocol.wp_bind.mpr (Protocol.wp_await.mpr ⟨fun _ => ?_, fun _ => ?_⟩)
    · exact ⟨_, if_pos rfl, not_false⟩
    · exact ⟨_, if_pos rfl, not_false⟩
  · refine Protocol.wp_bind.mpr (Protocol.wp_await.mpr ⟨fun _ => ?_, fun _ => ?_⟩)
    · exact ⟨_, if_pos ⟨rfl, rfl⟩, rfl⟩
    · exact ⟨_, if_pos ⟨rfl, rfl⟩, not_false⟩

theorem serves_rowOf (entered : Entered)
    : Serves (rowOf entered.entry) (afterEnter entered) entered.startedAfter := by
  obtain ⟨entry, startedAfter⟩ := entered
  cases entry with
  | cached row => rfl
  | started load => exact serves_runLoad
  | joined load =>
      exact Protocol.wp_await.mpr ⟨fun _ => ⟨_, if_pos rfl, rfl⟩,
        fun _ => ⟨_, if_pos rfl, not_false⟩⟩

theorem ends_prog (call : RateCall) : Ends call.prog .idle := by
  unfold RateCall.prog
  cases call with
  | createRate row =>
      refine Protocol.wp_bind.mpr (Protocol.wp_await.mpr
        ⟨fun _ => ⟨.over, rfl, not_false, ?_⟩, fun _ => ⟨.over, rfl, not_false⟩⟩)
      exact fun _ absurd => nomatch absurd
  | invalidateAcbuRateCache =>
      refine Protocol.wp_bind.mpr (Protocol.wp_await.mpr
        ⟨fun _ => ⟨.over, rfl, not_false, ?_⟩, fun _ => ⟨.over, rfl, not_false⟩⟩)
      exact fun _ absurd => nomatch absurd
  | getLatest =>
      unfold getLatestAcbuRate
      refine Protocol.wp_bind.mpr (Protocol.wp_bind.mpr (Protocol.wp_await.mpr
        ⟨fun entered => ⟨afterEnter entered, rfl, ?_⟩, fun _ => ⟨.over, rfl, not_false⟩⟩))
      refine Protocol.wp_bind.mpr (Protocol.wp_mono (serves_rowOf entered) ?_
        fun _ _ known => known)
      rintro row _ rfl
      exact ⟨not_false, fun served same => congrArg Phase.served (Option.some.inj same)⟩

-- Fresh rows

/-- What a call holds is as new as the invalidations require. -/
def Phase.Fresh (w : World) : Phase → Prop
  | .loading k _ => k ≤ w.invalidations
  | .carrying k _ row => k ≤ w.invalidations ∧ row.readAfter = w.invalidations
  | .waiting k load =>
      k ≤ w.invalidations ∧ ∀ row, w.loads[load]? = some (some (Except.ok row)) → k ≤ row.readAfter
  | .served answer => answer.startedAfter ≤ answer.row.readAfter
  | _ => True

/-- The cached row was read after the last invalidation, and the load to share is not settled. -/
structure World.Fresh (w : World) : Prop where
  cached : ∀ row, w.cached = some row → row.readAfter = w.invalidations
  inflight : ∀ load, w.inflight = some load → w.loads[load]? = some none

abbrev Governed (c : RateCacheConfig) : Prop :=
  rateCacheProtocol.Governs (fun _ => .idle)
    (fun _ value phase => ¬ phase.Carrying ∧ ∀ served, value = some served → phase = .served served)
    (fun _ _ phase => ¬ phase.Carrying) c

def phaseOf (c : RateCacheConfig) (i : Nat) : Phase :=
  rateCacheProtocol.phase (fun _ => .idle) c i

structure FreshRun (c : RateCacheConfig) : Prop where
  world : c.world.Fresh
  phases : ∀ i, (phaseOf c i).Fresh c.world

theorem carriesRow_of_carrying {c : RateCacheConfig} {i : Nat} (governed : Governed c)
    (carrying : (phaseOf c i).Carrying)
    : i < c.threads.length ∧ (c.pending? i).any RateCacheOp.carriesRow = true := by
  cases found : c.threads[i]? with
  | none =>
      rw [phaseOf, Protocol.phase_of_none _ found] at carrying
      exact carrying.elim
  | some thread =>
      refine ⟨(List.getElem?_eq_some_iff.mp found).1, ?_⟩
      obtain ⟨prog, past⟩ := thread
      have rest := (governed.phase_eq found).2
      cases prog with
      | done value => exact absurd carrying rest.1
      | fail error => exact absurd carrying rest
      | call op next =>
          obtain ⟨_, moved, -⟩ := rest (.error ratesNotAvailable)
          have pending : c.pending? i = some op := by simp [Config.pending?, found]
          rw [pending]
          change rateCacheProtocol.next (phaseOf c i) op _ = _ at moved
          generalize phaseOf c i = phase at carrying moved
          cases phase with
          | carrying k load row =>
              cases op with
              | fill filled => rfl
              | settle load result =>
                  cases result with
                  | ok => rfl
                  | error => cases moved
              | _ => cases moved
          | _ => exact carrying.elim

/-- A step that is no invalidation keeps what the other calls hold fresh, unless it settles a load
with a row that is older.
-/
theorem Phase.Fresh.of_loads {w w' : World} {phase : Phase} (h : phase.Fresh w)
    (invalidations : w'.invalidations = w.invalidations)
    (loads : ∀ (load : LoadId) (row : ReadRow), w'.loads[load]? = some (some (Except.ok row)) →
      w.loads[load]? = some (some (Except.ok row)) ∨ row.readAfter = w.invalidations)
    : phase.Fresh w' := by
  cases phase with
  | loading k load => exact h.trans_eq invalidations.symm
  | carrying k load row => exact ⟨h.1.trans_eq invalidations.symm, h.2.trans invalidations.symm⟩
  | waiting k load =>
      refine ⟨invalidations ▸ h.1, fun row settled => ?_⟩
      rcases loads load row settled with before | new
      · exact h.2 row before
      · exact new ▸ h.1
  | served _ => exact h
  | _ => trivial

theorem Phase.Fresh.of_invalidate {w w' : World} {phase : Phase} (h : phase.Fresh w)
    (notCarrying : ¬ phase.Carrying) (invalidations : w'.invalidations = w.invalidations + 1)
    (loads : w'.loads = w.loads)
    : phase.Fresh w' := by
  cases phase with
  | loading k load => exact (Nat.le_succ_of_le h).trans_eq invalidations.symm
  | carrying => exact absurd trivial notCarrying
  | waiting k load =>
      exact ⟨(Nat.le_succ_of_le h.1).trans_eq invalidations.symm, loads ▸ h.2⟩
  | served _ => exact h
  | _ => trivial

theorem fresh_enter {w : World} (h : w.Fresh) (now : ℤ)
    : (w.enter now).2.Fresh ∧ (w.enter now).2.invalidations = w.invalidations
      ∧ (∀ (load : LoadId) (row : ReadRow), (w.enter now).2.loads[load]?
        = some (some (Except.ok row)) →
          w.loads[load]? = some (some (Except.ok row)))
      ∧ (afterEnter ⟨(w.enter now).1, w.invalidations⟩).Fresh (w.enter now).2 := by
  unfold World.enter
  split
  · rename_i row valid
    have there : w.cached = some row := (Option.filter_eq_some_iff.mp valid).1
    exact ⟨h, rfl, fun _ _ same => same, Nat.le_of_eq (h.cached row there).symm⟩
  · rename_i load _ flying
    refine ⟨h, rfl, fun _ _ same => same, Nat.le_refl _, fun row settled => ?_⟩
    rw [h.inflight load flying] at settled
    cases settled
  · refine ⟨⟨h.cached, fun load same => ?_⟩, rfl, fun load row settled => ?_, Nat.le_refl _⟩
    · obtain rfl := Option.some.inj same
      simp
    · by_cases inside : load < w.loads.length
      · rwa [List.getElem?_append_left inside] at settled
      · rw [List.getElem?_append_right (Nat.le_of_not_lt inside)] at settled
        obtain ⟨bound, last⟩ := List.getElem?_eq_some_iff.mp settled
        simp at last

section

variable {c c' : RateCacheConfig} {i : Nat} {x : Choice} {w w' : World}

theorem effect_of_local {op : RateCacheOp} {reply : rateCacheInterface.Reply op}
    (answered : rateCacheSemantics.act i op x w = some (reply, w'))
    (done : admissible op x w = true → x.outcome = .done)
    : effect x w op = (reply, w') := by
  obtain ⟨possible, answered⟩ := Environment.act_eq_some answered
  have answered : x.outcome.answer (effect x w op) w = (reply, w') := answered
  rwa [done possible] at answered

theorem read_of_act {reply : Except JsError (Option ReadRow)}
    (answered : rateCacheSemantics.act i .findFirst x w = some (reply, w'))
    : w' = w ∧ ∀ row, reply = .ok (some row) → row.readAfter = w.invalidations := by
  obtain ⟨-, answered⟩ := Environment.act_eq_some answered
  refine ⟨by rcases Outcome.answer_world answered with same | same <;> exact same, ?_⟩
  rintro row rfl
  have told := (Outcome.answer_ok answered).2
  obtain ⟨newest, -, rfl⟩ := Option.map_eq_some_iff.mp (Except.ok.inj (Prod.mk.inj told).1)
  rfl

theorem table_of_act {row : AcbuRate} {reply : Except JsError Unit}
    (answered : rateCacheSemantics.act i (.createRate row) x w = some (reply, w'))
    : ∃ table, w' = { w with table } := by
  obtain ⟨-, answered⟩ := Environment.act_eq_some answered
  rcases Outcome.answer_world answered with rfl | rfl
  · exact ⟨w'.table, rfl⟩
  · exact ⟨_, rfl⟩

/-- A step leaves fresh the world, what its call holds, and what other calls hold, as long as it
does not invalidate the row of a load.
-/
structure StaysFresh (op : RateCacheOp) (w w' : World) (phase' : Phase) : Prop where
  world : w'.Fresh
  own : phase'.Fresh w'
  others : ∀ other : Phase, (op.isInvalidate = true → ¬ other.Carrying) → other.Fresh w
    → other.Fresh w'

variable {phase phase' : Phase}

theorem stays_enter {reply : Except JsError Entered} (fresh : w.Fresh)
    (moved : rateCacheProtocol.next phase .enter reply = some phase')
    (answered : rateCacheSemantics.act i .enter x w = some (reply, w'))
    : StaysFresh .enter w w' phase' := by
  cases phase with
  | idle =>
      obtain ⟨rfl, rfl⟩ := Prod.mk.inj (effect_of_local answered
        (fun done => of_decide_eq_true done))
      obtain ⟨world, invalidations, loads, mine⟩ := fresh_enter fresh x.now
      obtain rfl := Option.some.inj moved
      exact ⟨world, mine, fun other _ held =>
        held.of_loads invalidations fun load row settled => .inl (loads load row settled)⟩
  | _ => cases moved

theorem stays_findFirst {reply : Except JsError (Option ReadRow)} (fresh : w.Fresh)
    (own : phase.Fresh w)
    (moved : rateCacheProtocol.next phase .findFirst reply = some phase')
    (answered : rateCacheSemantics.act i .findFirst x w = some (reply, w'))
    : StaysFresh .findFirst w w' phase' := by
  cases phase with
  | loading k load =>
      obtain ⟨rfl, read⟩ := read_of_act answered
      obtain rfl := Option.some.inj moved
      refine ⟨fresh, ?_, fun _ _ held => held⟩
      unfold afterRead
      split
      · exact ⟨own, read _ rfl⟩
      · trivial
  | _ => cases moved

theorem stays_fill {row : ReadRow} {reply : Except JsError Unit} (fresh : w.Fresh)
    (own : phase.Fresh w)
    (moved : rateCacheProtocol.next phase (.fill row) reply = some phase')
    (answered : rateCacheSemantics.act i (.fill row) x w = some (reply, w'))
    : StaysFresh (.fill row) w w' phase' := by
  cases phase with
  | carrying k load held =>
      obtain ⟨rfl, moved⟩ := Option.ite_none_right_eq_some.mp moved
      obtain ⟨rfl, rfl⟩ := Prod.mk.inj (effect_of_local answered
        (fun done => of_decide_eq_true done))
      obtain rfl := Option.some.inj moved
      refine ⟨⟨?_, fresh.inflight⟩, own, fun _ _ held => held.of_loads rfl
        fun _ _ settled => .inl settled⟩
      rintro _ ⟨⟩
      exact own.2
  | _ => cases moved

theorem stays_settle {load : LoadId} {result : Except JsError ReadRow} {reply : Except JsError Unit}
    (fresh : w.Fresh) (own : phase.Fresh w)
    (moved : rateCacheProtocol.next phase (.settle load result) reply = some phase')
    (answered : rateCacheSemantics.act i (.settle load result) x w = some (reply, w'))
    : StaysFresh (.settle load result) w w' phase' := by
  obtain ⟨rfl, rfl⟩ := Prod.mk.inj (effect_of_local answered (fun done => of_decide_eq_true done))
  have known : phase'.Fresh { w with inflight := none, loads := w.loads.set load (some result) }
      ∧ ∀ row, result = .ok row → row.readAfter = w.invalidations := by
    cases phase with
    | carrying k held row =>
        cases result with
        | error => cases moved
        | ok settled =>
            obtain ⟨⟨-, rfl⟩, moved⟩ := Option.ite_none_right_eq_some.mp moved
            obtain rfl := Option.some.inj moved
            refine ⟨own.1.trans_eq own.2.symm, ?_⟩
            rintro _ ⟨⟩
            exact own.2
    | failing k held =>
        cases result with
        | ok => cases moved
        | error =>
            obtain ⟨-, moved⟩ := Option.ite_none_right_eq_some.mp moved
            obtain rfl := Option.some.inj moved
            exact ⟨trivial, fun _ absurd => (nomatch absurd)⟩
    | _ => cases moved
  refine ⟨⟨fresh.cached, fun _ absurd => (nomatch absurd)⟩, known.1, fun _ _ held =>
    held.of_loads rfl fun other row settled => ?_⟩
  have settled : (w.loads.set load (some result))[other]? = some (some (.ok row)) := settled
  rw [List.getElem?_set] at settled
  split at settled
  · split at settled
    · exact .inr (known.2 row (Option.some.inj (Option.some.inj settled)))
    · cases settled
  · exact .inl settled

theorem settled_of_result {load : LoadId} {row : ReadRow} (told : w.resultOf load = .ok row)
    : w.loads[load]? = some (some (.ok row)) := by
  unfold World.resultOf at told
  cases there : w.loads[load]? with
  | none =>
      rw [there] at told
      cases told
  | some result =>
      rw [there] at told
      cases result with
      | none => cases told
      | some result => rw [show result = .ok row from told]

theorem stays_awaitLoad {load : LoadId} {reply : Except JsError ReadRow} (fresh : w.Fresh)
    (own : phase.Fresh w)
    (moved : rateCacheProtocol.next phase (.awaitLoad load) reply = some phase')
    (answered : rateCacheSemantics.act i (.awaitLoad load) x w = some (reply, w'))
    : StaysFresh (.awaitLoad load) w w' phase' := by
  cases phase with
  | waiting k awaited =>
      obtain ⟨here, after⟩ := Option.ite_none_right_eq_some.mp moved
      subst here
      obtain rfl := Option.some.inj after
      obtain ⟨told, rfl⟩ := Prod.mk.inj (effect_of_local answered (fun possible =>
        of_decide_eq_true ((Bool.and_eq_true _ _).mp possible).1))
      refine ⟨fresh, ?_, fun _ _ held => held⟩
      cases reply with
      | error => trivial
      | ok row => exact own.2 row (settled_of_result told)
  | _ => cases moved

theorem stays_createRate {row : AcbuRate} {reply : Except JsError Unit} (fresh : w.Fresh)
    (moved : rateCacheProtocol.next phase (.createRate row) reply = some phase')
    (answered : rateCacheSemantics.act i (.createRate row) x w = some (reply, w'))
    : StaysFresh (.createRate row) w w' phase' := by
  cases phase with
  | idle =>
      obtain ⟨table, rfl⟩ := table_of_act answered
      obtain rfl := Option.some.inj moved
      exact ⟨⟨fresh.cached, fresh.inflight⟩, trivial, fun _ _ held =>
        held.of_loads rfl fun _ _ settled => .inl settled⟩
  | _ => cases moved

theorem stays_invalidate {reply : Except JsError Unit} (fresh : w.Fresh)
    (moved : rateCacheProtocol.next phase .invalidate reply = some phase')
    (answered : rateCacheSemantics.act i .invalidate x w = some (reply, w'))
    : StaysFresh .invalidate w w' phase' := by
  cases phase with
  | idle =>
      obtain ⟨rfl, rfl⟩ := Prod.mk.inj (effect_of_local answered
        (fun done => of_decide_eq_true done))
      obtain rfl := Option.some.inj moved
      refine ⟨⟨fun _ absurd => (nomatch absurd), fresh.inflight⟩, trivial,
        fun _ notCarrying held => ?_⟩
      exact held.of_invalidate (notCarrying rfl) rfl rfl
  | _ => cases moved

theorem FreshRun.step (h : FreshRun c) (governed : Governed c) (undisturbed : Undisturbed c i x)
    (stepped : c.step rateCacheSemantics i x = some c')
    : FreshRun c' := by
  obtain ⟨op, reply, -, pending, answered, moved, -, others, -⟩ := governed.step_cases stepped
  have stays : StaysFresh op c.world c'.world (phaseOf c' i) := by
    cases op with
    | enter => exact stays_enter h.world moved answered
    | findFirst => exact stays_findFirst h.world (h.phases i) moved answered
    | fill row => exact stays_fill h.world (h.phases i) moved answered
    | settle load result => exact stays_settle h.world (h.phases i) moved answered
    | awaitLoad load => exact stays_awaitLoad h.world (h.phases i) moved answered
    | createRate row => exact stays_createRate h.world moved answered
    | invalidate => exact stays_invalidate h.world moved answered
  refine ⟨stays.world, fun j => ?_⟩
  by_cases mine : j = i
  · exact mine ▸ stays.own
  · rw [show phaseOf c' j = phaseOf c j from (others j mine).1]
    refine stays.others _ (fun invalidates carrying => ?_) (h.phases j)
    obtain ⟨bound, carries⟩ := carriesRow_of_carrying governed carrying
    rw [undisturbed (by rw [pending]; exact invalidates) j bound] at carries
    cases carries

end

/-- In a run in which every invalidation finds no load that has read its row, no call returns a row
that was read before an invalidation that it started after.
-/
theorem rate_cache_coherent (calls : List RateCall) (table : AcbuRateTable)
    {c : RateCacheConfig}
    (reached : Config.Reaches rateCacheSemantics Undisturbed (initialConfig calls table) c)
    : Coherent c := by
  have governed : Governed (initialConfig calls table) := by
    refine Protocol.governs_initial fun i prog found => ?_
    rw [List.getElem?_map, Option.map_eq_some_iff] at found
    obtain ⟨call, -, rfl⟩ := found
    exact ends_prog call
  have base : FreshRun (initialConfig calls table) := by
    refine ⟨⟨fun _ absurd => ?_, fun _ absurd => ?_⟩, fun i => ?_⟩
    · cases absurd
    · cases absurd
    · rw [phaseOf, initialConfig, Protocol.phase_initial]
      trivial
  obtain ⟨governed, h⟩ := governed.invariant (J := FreshRun) base
    (fun _ _ _ _ governed h undisturbed stepped => h.step governed undisturbed stepped) reached
  intro i served returned
  have fresh := h.phases i
  rw [phaseOf, (governed.value returned).2 served rfl] at fresh
  exact fresh

-- Sample runs

def sampleRate (acbuUsd : ℚ) (timestamp : ℤ) : AcbuRate where
  acbuUsd := acbuUsd
  acbuEur := none
  acbuGbp := none
  acbuNgn := none
  acbuKes := none
  acbuZar := none
  acbuRwf := none
  acbuGhs := none
  acbuEgp := none
  acbuMad := none
  acbuTzs := none
  acbuUgx := none
  acbuXof := none
  change24hUsd := none
  timestamp := timestamp

def oldRate : AcbuRate := sampleRate 1 0
def newRate : AcbuRate := sampleRate 2 1

def sampleTable : AcbuRateTable :=
  ⟨[oldRate], List.pairwise_singleton _ _⟩

def sampleCalls : List RateCall :=
  [.getLatest, .createRate newRate, .invalidateAcbuRateCache, .getLatest]

/-- A call after the invalidation is served the new rate. -/
theorem rate_cache_coherent_renewed
    : ∃ c, (c.value? 3).join = some ⟨⟨newRate, 1⟩, 1⟩ ∧ Coherent c := by
  have executed :
      ((initialConfig sampleCalls sampleTable).run rateCacheSemantics Undisturbed
        [(0, {}), (0, {}), (0, {}), (0, {}), (1, {}), (2, {}), (3, {}), (3, {}), (3, {}),
          (3, {})]).map
          (fun c => (c.value? 3).join)
        = some (some ⟨⟨newRate, 1⟩, 1⟩) := by
    decide +kernel
  obtain ⟨c, reached, served⟩ := Config.reaches_of_run executed
  exact ⟨c, served, rate_cache_coherent _ _ reached⟩

/-- A load that has read the old rate before the invalidation fills the cache after it. -/
theorem stale_load_fills_cache
    : ∃ c, Config.Reaches rateCacheSemantics Config.anyStep
        (initialConfig sampleCalls sampleTable) c
      ∧ (c.value? 3).join = some ⟨⟨oldRate, 0⟩, 1⟩
      ∧ ¬ Coherent c := by
  have executed :
      ((initialConfig sampleCalls sampleTable).run rateCacheSemantics Config.anyStep
        [(0, {}), (0, {}), (1, {}), (2, {}), (0, {}), (0, {}), (3, {})]).map
          (fun c => (c.value? 3).join)
        = some (some ⟨⟨oldRate, 0⟩, 1⟩) := by
    decide +kernel
  obtain ⟨c, reached, served⟩ := Config.reaches_of_run executed
  refine ⟨c, reached, served, fun coherent => ?_⟩
  exact absurd (coherent 3 _ (Option.join_eq_some_iff.mp served)) (by decide)

end AcbuBackend.RateCache
