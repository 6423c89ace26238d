import AcbuBackend.Reserves.ReserveTracker
import Mathlib.Algebra.BigOperators.Ring.List
import Mathlib.Data.List.Infix
import Mathlib.Tactic.Linarith
import Mathlib.Tactic.Ring

/-! What a tracking run stores as actual weights.
The total a currency is divided by is read before its own row is stored: it counts the values of
this run for the currencies before it, and of earlier runs for itself and those after it.
-/

namespace AcbuBackend.Reserves

open Effects Effects.Prog AcbuBackend.Runtime

-- The weights of a run

/-- The total value of a run. -/
def totalOf (updates : List ReserveUpdate) : ℚ :=
  (updates.map (·.reserveValueUsd)).sum

/-- The sum of the newest values stored of the currencies of a run. -/
def World.storedOf (w : World) (updates : List ReserveUpdate) : ℚ :=
  (updates.map (fun u => w.latestValue SEGMENT_TRANSACTIONS u.currency)).sum

def World.latestWeight (w : World) (currency : String) : ℚ :=
  ((w.latest currency SEGMENT_TRANSACTIONS).map (·.actualWeight)).getD 0

/-- The newest weight of each currency is its share of the total value of the run, so that the
newest weights of the basket sum to 100.
-/
structure WeightsOfRun (updates : List ReserveUpdate) (w' : World) : Prop where
  share : ∀ u ∈ updates, w'.latestWeight u.currency = 100 * u.reserveValueUsd / totalOf updates
  total : (w'.currencies.map w'.latestWeight).sum = 100

/-- Wherever a currency has a value, the values stored before the run of it and of the currencies
after it sum to those of the run.
-/
def StoredBefore (w : World) (updates : List ReserveUpdate) : Prop :=
  ∀ u rest, u :: rest <:+ updates → u.reserveValueUsd ≠ 0
    → w.storedOf (u :: rest) = totalOf (u :: rest)

-- What is read

section

variable {w : World} {i : Nat} {op : ReserveOp} {Q : op.Ret → World → Prop}
    {E : JsError → World → Prop}

theorem wlp_read (reads : op.isCreate = false)
    (ok : ∀ x value, effect x w op = (.ok value, w) → Q value w) (err : ∀ error, E error w)
    : reserveSemantics.wlp i (ask op) w Q E := by
  refine Semantics.wlp_await.mpr ⟨fun x value w' answered => ?_, fun x error w' answered => ?_⟩
  · obtain rfl := act_same answered reads
    exact ok x value (act_ok answered)
  · obtain rfl := act_same answered reads
    exact err error

end

variable {w : World} {i : Nat}

/-- The sum of the newest values of the basket's currencies. -/
def World.totalValue (w : World) (segment : String) : ℚ :=
  (w.currencies.map (w.latestValue segment)).sum

theorem wlp_getCurrencies
    : reserveSemantics.wlp i getCurrencies w (fun currencies w' => currencies = w.currencies
        ∧ w' = w)
        (fun _ w' => w' = w) := by
  unfold getCurrencies
  rw [Semantics.wlp_bind]
  refine wlp_read rfl ?_ (fun _ => rfl)
  rintro x _ read
  obtain rfl := Except.ok.inj (Prod.mk.inj read).1
  exact ⟨rfl, rfl⟩

theorem wlp_addLatestValues {segment : String} {currencies : List String} {total : ℚ}
    : reserveSemantics.wlp i (addLatestValues segment total currencies) w
        (fun value w' => value = total + (currencies.map (w.latestValue segment)).sum ∧ w' = w)
        (fun _ w' => w' = w) := by
  induction currencies generalizing total with
  | nil => simp [addLatestValues]
  | cons currency rest ih =>
      unfold addLatestValues
      rw [Semantics.wlp_bind]
      refine wlp_read rfl ?_ (fun _ => rfl)
      rintro x _ read
      obtain rfl := Except.ok.inj (Prod.mk.inj read).1
      apply Semantics.wlp_mono ih _ (fun _ _ same => same)
      rintro value _ ⟨rfl, rfl⟩
      exact ⟨by rw [List.map_cons, List.sum_cons, add_assoc, World.latestValue], rfl⟩

theorem wlp_getTotalReserveValue {segment : String}
    : reserveSemantics.wlp i (getTotalReserveValue segment) w
        (fun value w' => value = w.totalValue segment ∧ w' = w) (fun _ w' => w' = w) := by
  unfold getTotalReserveValue
  rw [Semantics.wlp_bind]
  apply Semantics.wlp_mono wlp_getCurrencies _ (fun _ _ same => same)
  rintro currencies _ ⟨rfl, rfl⟩
  apply Semantics.wlp_mono wlp_addLatestValues _ (fun _ _ same => same)
  rintro value _ ⟨rfl, rfl⟩
  exact ⟨zero_add _, rfl⟩

/-- A program that creates no row leaves the world. -/
def Reads {α : Type} (prog : Prog reserveInterface α) : Prop :=
  (Protocol.only (fun op : ReserveOp => op.isCreate = false)).wp prog () (fun _ _ => True)
    (fun _ _ => True)

theorem Reads.wlp {α : Type} {prog : Prog reserveInterface α} (h : Reads prog)
    : reserveSemantics.wlp i prog w (fun _ w' => w' = w) (fun _ w' => w' = w) := by
  have kept : reserveSemantics.wlp i prog w (fun _ w' => True ∧ w' = w)
    (fun _ w' => True ∧ w' = w) :=
    Semantics.wlp_of_only (R := fun w w' => w' = w) (fun _ => rfl)
      (fun first second => second.trans first)
      (fun _ _ _ _ _ reads answered => act_same answered reads) h
  exact Semantics.wlp_mono kept (fun _ _ known => known.2) (fun _ _ known => known.2)

theorem Reads.withRetry {α : Type} {fn : Prog reserveInterface α} (h : Reads fn)
    : Reads (withRetry fn) := by
  have again : ∀ attempts, Reads (retry fn attempts) := by
    intro attempts
    induction attempts with
    | zero => exact h
    | succ attempts ih =>
        unfold Reads retry
        rw [Protocol.wp_catchWith]
        exact Protocol.wp_mono h (fun _ _ _ => trivial) (fun _ _ _ => ih)
  exact again _

theorem Reads.ask {op : ReserveOp} (reads : op.isCreate = false) : Reads (ask op) :=
  Protocol.only_await reads

theorem reads_custody (dep : Deployment) (currency : String)
    : Reads (readOnChainCustody dep currency) := by
  unfold readOnChainCustody
  split
  · simp [Reads, ReserveOp.isCreate]
  · trivial

theorem reads_balanceAndValue (currency : String) (custody : Option Custody)
    : Reads (balanceAndValue currency custody) := by
  cases custody with
  | some custody => trivial
  | none =>
      have rate : Reads (getCurrencyRate currency) := by
        simp [Reads, getCurrencyRate, ReserveOp.isCreate]
      unfold balanceAndValue Reads
      rw [Protocol.wp_bind]
      apply Protocol.wp_mono (Reads.ask rfl).withRetry _ (fun _ _ _ => trivial)
      rintro balance ⟨⟩ -
      rw [Protocol.wp_bind]
      exact Protocol.wp_mono rate.withRetry (fun _ _ _ => trivial) (fun _ _ _ => trivial)

theorem reads_getTargetWeight (currency : String) : Reads (getTargetWeight currency) := by
  simp [Reads, getTargetWeight, ReserveOp.isCreate]

theorem reads_custodyIfReadable (dep : Deployment) (currency : String)
    : Reads (custodyIfReadable dep currency) := by
  unfold custodyIfReadable
  split
  · unfold Reads
    rw [Protocol.wp_catchWith]
    exact Protocol.wp_mono (reads_custody dep currency).withRetry (fun _ _ _ => trivial)
      (fun _ _ _ => trivial)
  · trivial

theorem reads_syncToChain (currency : String) (custody : Option Custody)
    : Reads (syncToChain currency custody) := by
  cases custody with
  | none => trivial
  | some custody => simp [Reads, syncToChain, ReserveOp.isCreate]

theorem reads_alertIfCritical (health : ReserveHealth) : Reads (alertIfCritical health) := by
  unfold alertIfCritical
  split
  · simp [Reads, triggerAlert, ReserveOp.isCreate]
  · trivial

theorem reads_getTotalReserveValue (segment : String) : Reads (getTotalReserveValue segment) := by
  have sums : ∀ currencies total, Reads (addLatestValues segment total currencies) := by
    intro currencies
    induction currencies with
    | nil => exact fun _ => trivial
    | cons currency rest ih =>
        intro total
        unfold addLatestValues Reads
        rw [Protocol.wp_bind]
        exact Protocol.wp_mono (Reads.ask rfl) (fun _ _ _ => ih _) (fun _ _ _ => trivial)
  unfold getTotalReserveValue getCurrencies Reads
  rw [Protocol.wp_bind, Protocol.wp_bind]
  exact Protocol.wp_mono (Reads.ask rfl) (fun _ _ _ => sums _ _) (fun _ _ _ => trivial)

theorem reads_getTotalAcbuSupply (dep : Deployment) : Reads (getTotalAcbuSupply dep) := by
  simp only [Reads, getTotalAcbuSupply, getTotalAcbuSupplyFromLedger, Protocol.wp_bind]
  refine Protocol.wp_mono (Reads.ask rfl) (fun _ _ _ => ?_) (fun _ _ _ => trivial)
  refine Protocol.wp_mono (Reads.ask rfl) (fun _ _ _ => ?_) (fun _ _ _ => trivial)
  rw [Protocol.wp_pure, Protocol.wp_fromExcept]
  refine ⟨fun asset _ => ?_, fun _ _ => trivial⟩
  cases asset.issuer with
  | none => trivial
  | some issuer => simp [ReserveOp.isCreate]

theorem reads_getReserveStatus (dep : Deployment) (segment : String)
    : Reads (getReserveStatus dep segment) := by
  have statuses : ∀ currencies, Reads (currencyStatuses segment currencies) := by
    intro currencies
    induction currencies with
    | nil => trivial
    | cons currency rest ih =>
        unfold currencyStatuses Reads
        rw [Protocol.wp_bind]
        refine Protocol.wp_mono (Reads.ask rfl) (fun _ _ _ => ?_) (fun _ _ _ => trivial)
        rw [Protocol.wp_bind]
        exact Protocol.wp_mono ih (fun _ _ _ => trivial) (fun _ _ _ => trivial)
  simp only [Reads, getReserveStatus, getCurrencies, Protocol.wp_bind]
  refine Protocol.wp_mono (reads_getTotalAcbuSupply dep) (fun _ _ _ => ?_) (fun _ _ _ => trivial)
  refine Protocol.wp_mono (reads_getTotalReserveValue segment) (fun _ _ _ => ?_)
    (fun _ _ _ => trivial)
  refine Protocol.wp_mono (Reads.ask rfl) (fun _ _ _ => ?_) (fun _ _ _ => trivial)
  rw [Protocol.wp_pure]
  exact Protocol.wp_mono (statuses _) (fun _ _ _ => trivial) (fun _ _ _ => trivial)

-- The loop

/-- Each update is stored on top of the world the ones before it have left, with the weight of
its value in the total of that world.
-/
def Tracked (w : World) : List ReserveUpdate → World → Prop
  | [], w' => w' = w
  | u :: rest, w' =>
      u.actualWeight = actualWeightOf u.reserveValueUsd (w.totalValue SEGMENT_TRANSACTIONS)
      ∧ Tracked (w.create u.row) rest w'

theorem wlp_trackCurrency {dep : Deployment} {currency : String}
    : reserveSemantics.wlp i (trackCurrency dep currency) w
        (fun u w' => u.currency = currency
          ∧ u.actualWeight = actualWeightOf u.reserveValueUsd (w.totalValue SEGMENT_TRANSACTIONS)
          ∧ w' = w.create u.row)
        (fun _ _ => True) := by
  unfold trackCurrency
  rw [Semantics.wlp_bind]
  apply Semantics.wlp_mono (reads_custodyIfReadable dep currency).wlp _ (fun _ _ _ => trivial)
  rintro custody _ rfl
  rw [Semantics.wlp_bind]
  apply Semantics.wlp_mono (reads_balanceAndValue currency custody).wlp _ (fun _ _ _ => trivial)
  rintro ⟨balance, reserveValueUsd⟩ _ rfl
  rw [Semantics.wlp_bind]
  apply Semantics.wlp_mono (reads_getTargetWeight currency).wlp _ (fun _ _ _ => trivial)
  rintro targetWeight _ rfl
  rw [Semantics.wlp_bind]
  apply Semantics.wlp_mono wlp_getTotalReserveValue _ (fun _ _ _ => trivial)
  rintro totalReserveValue _ ⟨rfl, rfl⟩
  rw [Semantics.wlp_bind, Semantics.wlp_await]
  refine ⟨fun x _ w' answered => ?_, fun _ _ _ _ => trivial⟩
  obtain rfl := (Prod.mk.inj (act_ok answered)).2
  rw [Semantics.wlp_bind]
  apply Semantics.wlp_mono (reads_syncToChain currency custody).wlp _ (fun _ _ _ => trivial)
  rintro _ _ rfl
  exact ⟨rfl, rfl, rfl⟩

theorem wlp_trackCurrencies {dep : Deployment} {currencies : List String}
    : reserveSemantics.wlp i (trackCurrencies dep currencies) w
        (fun updates w' => updates.length ≤ currencies.length
          ∧ (updates.length = currencies.length →
            updates.map (·.currency) = currencies ∧ Tracked w updates w'))
        (fun _ _ => True) := by
  induction currencies generalizing w with
  | nil => exact ⟨le_rfl, fun _ => ⟨rfl, rfl⟩⟩
  | cons currency rest ih =>
      unfold trackCurrencies
      rw [Semantics.wlp_bind, Semantics.wlp_catchWith, Semantics.wlp_bind]
      apply Semantics.wlp_mono wlp_trackCurrency
      · rintro u _ ⟨named, weight, rfl⟩
        rw [Semantics.wlp_pure, Semantics.wlp_bind]
        apply Semantics.wlp_mono ih _ (fun _ _ _ => trivial)
        rintro updates w' ⟨bound, complete⟩
        refine ⟨by simpa using bound, fun full => ?_⟩
        obtain ⟨names, tracked⟩ := complete (by simpa using full)
        exact ⟨by simp [named, names], weight, tracked⟩
      · rintro error w' -
        rw [Semantics.wlp_pure, Semantics.wlp_bind]
        apply Semantics.wlp_mono ih _ (fun _ _ _ => trivial)
        rintro updates w'' ⟨bound, -⟩
        refine ⟨by simpa using Nat.le_succ_of_le bound, fun full => ?_⟩
        have short : updates.length = rest.length + 1 := by simpa using full
        omega

theorem tracked_of_run {dep : Deployment} {w' : World} {updates : List ReserveUpdate}
    (run : (trackReserves dep).Evaluates reserveSemantics i w (.ok updates) w')
    (complete : updates.length = w.currencies.length)
    : updates.map (·.currency) = w.currencies ∧ Tracked w updates w' := by
  have judged : reserveSemantics.wlp i (trackReserves dep) w
      (fun updates w' => updates.length = w.currencies.length →
        updates.map (·.currency) = w.currencies ∧ Tracked w updates w')
      (fun _ _ => True) := by
    unfold trackReserves
    rw [Semantics.wlp_bind]
    apply Semantics.wlp_mono wlp_getCurrencies _ (fun _ _ _ => trivial)
    rintro currencies _ ⟨rfl, rfl⟩
    rw [Semantics.wlp_bind]
    apply Semantics.wlp_mono wlp_trackCurrencies _ (fun _ _ _ => trivial)
    rintro updates w₁ ⟨-, tracked⟩
    rw [Semantics.wlp_bind]
    apply Semantics.wlp_mono (reads_getReserveStatus dep SEGMENT_TRANSACTIONS).wlp _
      (fun _ _ _ => trivial)
    rintro health _ rfl
    rw [Semantics.wlp_bind]
    apply Semantics.wlp_mono (reads_alertIfCritical health).wlp _ (fun _ _ _ => trivial)
    rintro _ _ rfl
    exact tracked
  exact Semantics.wlp_value judged run complete

-- The totals of the loop

theorem latest_create_row {u : ReserveUpdate} {currency : String}
    : (w.create u.row).latest currency SEGMENT_TRANSACTIONS
      = if u.currency = currency then some u.row else w.latest currency SEGMENT_TRANSACTIONS := by
  rw [latest_create]
  simp [ReserveUpdate.row]

theorem latestValue_create_row {u : ReserveUpdate} {currency : String}
    : (w.create u.row).latestValue SEGMENT_TRANSACTIONS currency
      = if u.currency = currency then u.reserveValueUsd
        else w.latestValue SEGMENT_TRANSACTIONS currency := by
  rw [latestValue_create]
  simp [ReserveUpdate.row]

theorem Tracked.currencies {w' : World} {updates : List ReserveUpdate} (h : Tracked w updates w')
    : w'.currencies = w.currencies := by
  induction updates generalizing w with
  | nil => exact congrArg World.currencies h
  | cons u rest ih => exact (ih (w := w.create u.row) h.2).trans currencies_create

theorem Tracked.latest_of_notMem {w' : World} {updates : List ReserveUpdate} {currency : String}
    (h : Tracked w updates w') (other : currency ∉ updates.map (·.currency))
    : w'.latest currency SEGMENT_TRANSACTIONS = w.latest currency SEGMENT_TRANSACTIONS := by
  induction updates generalizing w with
  | nil => rw [h]
  | cons u rest ih =>
      have apart : u.currency ≠ currency ∧ currency ∉ rest.map (·.currency) := by
        simpa [eq_comm] using other
      rw [ih h.2 apart.2, latest_create_row, if_neg apart.1]

theorem Tracked.latest_of_mem {w' : World} {updates : List ReserveUpdate} {u : ReserveUpdate}
    (h : Tracked w updates w') (distinct : (updates.map (·.currency)).Nodup) (member : u ∈ updates)
    : w'.latest u.currency SEGMENT_TRANSACTIONS = some u.row := by
  induction updates generalizing w with
  | nil => cases member
  | cons v rest ih =>
      have parts := List.nodup_cons.mp (List.map_cons ▸ distinct)
      rcases List.mem_cons.mp member with rfl | later
      · rw [h.2.latest_of_notMem parts.1, latest_create_row, if_pos rfl]
      · exact ih h.2 parts.2 later

/-- The total a currency of a run is divided by: what the run has stored before it, and what was
stored before the run of itself and the currencies after it. `done` are the currencies in front of
the updates, which the induction extends.
-/
theorem Tracked.actualWeight {w' : World} {updates : List ReserveUpdate} (done : List String)
    (h : Tracked w updates w') (currencies : w.currencies = done ++ updates.map (·.currency))
    (distinct : w.currencies.Nodup)
    : ∀ before u rest, updates = before ++ u :: rest →
      u.actualWeight = actualWeightOf u.reserveValueUsd
        ((done.map (w.latestValue SEGMENT_TRANSACTIONS)).sum + totalOf before
          + w.storedOf (u :: rest)) := by
  induction updates generalizing w done with
  | nil => rintro before u rest split; simp at split
  | cons v later ih =>
      rw [currencies] at distinct
      obtain ⟨-, laterDistinct, apart⟩ := List.nodup_append.mp distinct
      have notLater : v.currency ∉ later.map (·.currency) := (List.nodup_cons.mp laterDistinct).1
      rintro (_ | ⟨first, before⟩) u rest split
      · obtain ⟨rfl, rfl⟩ := List.cons.inj split
        have total : w.totalValue SEGMENT_TRANSACTIONS
            = (done.map (w.latestValue SEGMENT_TRANSACTIONS)).sum + totalOf []
              + w.storedOf (v :: later) := by
          simp [World.totalValue, currencies, World.storedOf, totalOf, Function.comp_def]
        rw [← total]
        exact h.1
      · obtain ⟨rfl, later'⟩ := List.cons.inj split
        have unstored : ∀ currency ≠ v.currency,
          (w.create v.row).latestValue SEGMENT_TRANSACTIONS currency
            = w.latestValue SEGMENT_TRANSACTIONS currency := by
          intro currency other
          rw [latestValue_create_row, if_neg other.symm]
        have known : ((done ++ [v.currency]).map ((w.create v.row).latestValue
          SEGMENT_TRANSACTIONS)).sum
            = (done.map (w.latestValue SEGMENT_TRANSACTIONS)).sum + v.reserveValueUsd := by
          rw [List.map_append, List.sum_append, List.map_congr_left
            fun c member => unstored c (apart c member v.currency (by simp))]
          simp [latestValue_create_row]
        have rest : (w.create v.row).storedOf (u :: rest) = w.storedOf (u :: rest) := by
          unfold World.storedOf
          refine congrArg List.sum (List.map_congr_left fun x member => unstored x.currency ?_)
          rintro same
          refine notLater (same ▸ List.mem_map_of_mem ?_)
          rw [later']
          exact List.mem_append_right _ member
        have weight := ih (done ++ [v.currency]) h.2
          (by rw [currencies_create, currencies]; simp)
          (by rw [currencies_create, currencies]; exact distinct)
          before u _ later'
        rw [weight, known, rest]
        congr 1
        simp [totalOf]
        ring

/-- A weight is the share of the run's total exactly when its value is nothing or its total is
that of the run.
-/
theorem actualWeightOf_eq_iff {value total runTotal : ℚ} (positive : 0 < runTotal)
    : actualWeightOf value total = 100 * value / runTotal ↔ value = 0 ∨ total = runTotal := by
  unfold actualWeightOf
  split
  · rename_i divides
    rw [div_mul_eq_mul_div, div_eq_div_iff divides.ne' positive.ne']
    constructor
    · intro same
      have product : value * (total - runTotal) = 0 := by linarith
      rcases mul_eq_zero.mp product with none | equal
      · exact .inl none
      · exact .inr (sub_eq_zero.mp equal)
    · rintro (rfl | rfl)
      · ring
      · ring
  · rename_i empty
    constructor
    · intro same
      have nothing : value = 0 := by
        have := (div_eq_zero_iff.mp same.symm).resolve_right positive.ne'
        linarith
      exact .inl nothing
    · rintro (rfl | rfl)
      · simp
      · exact absurd positive empty

-- Tracked runs

/-- After a run in which every currency succeeds and the reserves are worth something, the stored
weights are those of the run exactly when the earlier values it has divided by sum to its own.
-/
theorem weightsOfRun_iff {dep : Deployment} {w' : World} {updates : List ReserveUpdate}
    (run : (trackReserves dep).Evaluates reserveSemantics i w (.ok updates) w')
    (complete : updates.length = w.currencies.length) (positive : 0 < totalOf updates)
    : WeightsOfRun updates w' ↔ StoredBefore w updates := by
  obtain ⟨names, tracked⟩ := tracked_of_run run complete
  have distinct : (updates.map (·.currency)).Nodup := names ▸ w.distinct
  have weight : ∀ u ∈ updates, w'.latestWeight u.currency = u.actualWeight := by
    intro u member
    rw [World.latestWeight, tracked.latest_of_mem distinct member]
    rfl
  have each : ∀ before u rest, updates = before ++ u :: rest →
      (w'.latestWeight u.currency = 100 * u.reserveValueUsd / totalOf updates
        ↔ u.reserveValueUsd = 0 ∨ w.storedOf (u :: rest) = totalOf (u :: rest)) := by
    intro before u rest split
    have total : totalOf updates = totalOf before + totalOf (u :: rest) := by simp [split, totalOf]
    rw [weight u (by simp [split]), tracked.actualWeight []
      (by simp [names]) w.distinct before u rest split, actualWeightOf_eq_iff positive]
    refine or_congr_right ?_
    constructor
    · intro same
      simp only [List.map_nil, List.sum_nil] at same
      linarith
    · intro same
      simp only [List.map_nil, List.sum_nil]
      linarith
  have shares : (∀ u ∈ updates, w'.latestWeight u.currency
    = 100 * u.reserveValueUsd / totalOf updates)
      ↔ StoredBefore w updates := by
    constructor
    · rintro share u rest ⟨before, split⟩ valued
      exact ((each before u rest split.symm).mp (share u (by simp [← split]))).resolve_left valued
    · intro stored u member
      obtain ⟨before, rest, split⟩ := List.append_of_mem member
      exact (each before u rest split).mpr (or_iff_not_imp_left.mpr
        (stored u rest ⟨before, split.symm⟩))
  refine ⟨fun h => shares.mp h.share, fun stored => ⟨shares.mpr stored, ?_⟩⟩
  rw [tracked.currencies, ← names, List.map_map]
  calc (updates.map (w'.latestWeight ∘ (·.currency))).sum
      = (updates.map (fun u => u.reserveValueUsd * (100 / totalOf updates))).sum := by
        refine congrArg List.sum (List.map_congr_left fun u member => ?_)
        rw [Function.comp_apply, shares.mpr stored u member]
        ring
    _ = totalOf updates * (100 / totalOf updates) := List.sum_map_mul_right _ _ _
    _ = 100 := mul_div_cancel₀ 100 positive.ne'

-- Two runs

def basketOfTwo (reserves : List Reserve) : World where
  basket := [{ currency := "NGN", weight := 60 }, { currency := "KES", weight := 40 }]
  reserves := reserves
  distinct := by decide

/-- The update of a currency whose balance is worth as much in dollars. -/
def sampleUpdate (currency : String) (targetWeight actualWeight : ℚ) : ReserveUpdate where
  currency := currency
  balance := targetWeight
  reserveValueUsd := targetWeight
  actualWeight := actualWeight
  targetWeight := targetWeight

/-- Sixty are held of the first currency and forty of the second, each worth a dollar. -/
def sampleReplies : List Choice :=
  [{}, { decimal := 60 }, { sum := some 1 }, {}, {}, {}, {}, {},
    { decimal := 40 }, { sum := some 1 }, {}, {}, {}, {}, {},
    {}, {}, {}, {}, {}, {}, {}, {}, {}]

theorem weightsOfRun_iff_sample
    : WeightsOfRun [sampleUpdate "NGN" 60 60, sampleUpdate "KES" 40 40]
        ((trackReserves providerDeployment).after reserveSemantics 0 sampleReplies
          (basketOfTwo [(sampleUpdate "KES" 40 40).row, (sampleUpdate "NGN" 60 60).row])) :=
  (weightsOfRun_iff (Prog.evaluates_after (by decide +kernel)) (by decide)
    (by decide +kernel)).mpr (by
      intro u rest suffix _
      have member := (List.mem_tails _ _).mpr suffix
      simp only [List.tails, List.mem_cons, List.cons.injEq, List.not_mem_nil, or_false,
        reduceCtorEq] at member
      rcases member with ⟨rfl, rfl⟩ | ⟨rfl, rfl⟩ <;> decide +kernel)

/-- In the first run of all, the first currency is divided by nothing and the second by the first,
so that neither weight is its share of the hundred dollars held.
-/
theorem firstRun_weights
    : ∃ w', (trackReserves providerDeployment).Evaluates reserveSemantics 0 (basketOfTwo [])
          (.ok [sampleUpdate "NGN" 60 0, sampleUpdate "KES" 40 (200 / 3)]) w'
        ∧ totalOf [sampleUpdate "NGN" 60 0, sampleUpdate "KES" 40 (200 / 3)] = 100
        ∧ ¬ WeightsOfRun [sampleUpdate "NGN" 60 0, sampleUpdate "KES" 40 (200 / 3)] w' := by
  have run : (trackReserves providerDeployment).Evaluates reserveSemantics 0 (basketOfTwo [])
      (.ok [sampleUpdate "NGN" 60 0, sampleUpdate "KES" 40 (200 / 3)])
      ((trackReserves providerDeployment).after reserveSemantics 0 sampleReplies
        (basketOfTwo [])) :=
    Prog.evaluates_after (by decide +kernel)
  refine ⟨_, run, by decide +kernel, fun h => ?_⟩
  have share := h.share (sampleUpdate "NGN" 60 0) (by simp)
  revert share
  decide +kernel

end AcbuBackend.Reserves
