import AcbuBackend.Conversion.ExactSplit
import AcbuBackend.Conversion.ExactlyOnce
import AcbuBackend.Effects.Evaluation

/-! What the reserve history records of a deposit.
The shares of a deposit are exact in units of seven decimals, and the column of the history holds
cents. The recorded amounts add up to the deposit where the parts of a cent that are dropped and
added balance.
-/

namespace AcbuBackend.Conversion

open Effects Effects.Protocol Fintech Numeric AcbuBackend.Runtime
open Mint (TxId)

-- The decimal shares

def decimalShares (usdcAmount : ℚ) (basket : List BasketEntry) : List ℚ :=
  if basket.length = 1 then [usdcAmount]
  else
    (exactShares (atomicTotal usdcAmount USDC_CONVERSION_DECIMALS) basket).map
      (fun share : ℤ => roundToDigits DECIMAL_PRECISION (share / 10 ^ USDC_CONVERSION_DECIMALS))

def belowCent (amount : ℚ) : ℚ :=
  Int.fract (amount * 100)

/-- The shares end in parts of a cent that add up to one cent for each share that is rounded up, and
to what the shares exceed the amount by.
-/
def CentsBalance (usdcAmount : ℚ) (basket : List BasketEntry) : Prop :=
  ((decimalShares usdcAmount basket).map belowCent).sum
    = (decimalShares usdcAmount basket).countP (fun share => 1 / 2 ≤ belowCent share)
      + ((decimalShares usdcAmount basket).sum - usdcAmount) * 100

section

variable {usdcAmount : ℚ} {basket : List BasketEntry} {allocations : List BasketShareAllocation}

theorem length_decimalShares : (decimalShares usdcAmount basket).length = basket.length := by
  rw [decimalShares]
  split
  · rename_i single
    exact single.symm
  · simp [exactShares]

theorem amountDecimal_sublist (amount : 0 < usdcAmount) (weights : ∀ e ∈ basket, 0 ≤ e.weight)
    (calculated : calculateBasketDistribution usdcAmount basket = .ok allocations)
    : (allocations.map (·.amountDecimal)).Sublist (decimalShares usdcAmount basket) := by
  have scaled : 0 ≤ usdcAmount * 10 ^ USDC_CONVERSION_DECIMALS := by positivity
  have total : toBigIntDown (roundToDigits DECIMAL_PRECISION
    (usdcAmount * 10 ^ USDC_CONVERSION_DECIMALS))
      = atomicTotal usdcAmount USDC_CONVERSION_DECIMALS :=
    if_pos (roundToDigits_nonneg scaled)
  unfold calculateBasketDistribution at calculated
  rw [total] at calculated
  cases basket with
  | nil =>
      obtain rfl := Except.ok.inj calculated
      exact List.nil_sublist _
  | cons entry rest =>
      dsimp only at calculated
      split at calculated
      · obtain rfl := Except.ok.inj calculated
        exact List.nil_sublist _
      · rename_i some
        have nonneg : 0 ≤ atomicTotal usdcAmount USDC_CONVERSION_DECIMALS :=
          (not_le.mp (not_or.mp some).2).le
        split at calculated
        · rename_i single
          subst single
          obtain rfl := Except.ok.inj calculated
          exact List.Sublist.refl _
        · rename_i several
          have positive : 0 < totalWeight (entry :: rest) := by
            by_contra none
            rw [distribute, totalWeight] at *
            rw [if_pos (not_lt.mp none)] at calculated
            cases calculated
          obtain ⟨found, distributed, -, decimals, -⟩ :=
            @distribute_eq _ _ USDC_CONVERSION_DECIMALS nonneg
              (fun e member => weightInt_nonneg (weights e member)) positive
          obtain rfl := Except.ok.inj (distributed.symm.trans calculated)
          rw [decimalShares, if_neg (by simpa using several)]
          exact decimals ▸ List.Sublist.refl _

theorem exactShares_nonneg {total : ℤ} (nonneg : 0 ≤ total)
    (weights : ∀ e ∈ basket, 0 ≤ weightInt e)
    : ∀ share ∈ exactShares total basket, 0 ≤ share := by
  have positive : 0 ≤ totalWeight basket :=
    List.sum_nonneg (List.forall_mem_map.mpr weights)
  refine List.forall_mem_map.mpr fun i member => largestRemainder_nonneg ?_
  have inside := List.mem_range.mp member
  have weight := weights _ (List.getElem_mem inside)
  rw [quota_eq (List.getElem?_eq_getElem inside), exactPart]
  exact div_nonneg (mul_nonneg (by exact_mod_cast nonneg) (by exact_mod_cast weight))
    (by exact_mod_cast positive)

theorem atomicTotal_nonneg {decimals : Nat} (amount : 0 < usdcAmount)
    : 0 ≤ atomicTotal usdcAmount decimals :=
  Int.floor_nonneg.mpr (roundToDigits_nonneg (by positivity))

theorem decimalShares_nonneg (amount : 0 < usdcAmount) (weights : ∀ e ∈ basket, 0 ≤ e.weight)
    : ∀ share ∈ decimalShares usdcAmount basket, 0 ≤ share := by
  rw [decimalShares]
  split
  · simpa using amount.le
  · refine List.forall_mem_map.mpr fun share member => roundToDigits_nonneg ?_
    have := exactShares_nonneg (atomicTotal_nonneg amount)
      (fun e member => weightInt_nonneg (weights e member))
      share member
    exact div_nonneg (by exact_mod_cast this) (by positivity)

theorem toCents_eq {amount : ℚ} (nonneg : 0 ≤ amount)
    : toCents amount * 100
      = amount * 100 - belowCent amount + (if 1 / 2 ≤ belowCent amount then 1 else 0) := by
  have whole := Int.floor_add_fract (amount * 100)
  have low := Int.fract_nonneg (amount * 100)
  have high := Int.fract_lt_one (amount * 100)
  rw [toCents, if_pos nonneg, div_mul_cancel₀ _ (by norm_num), belowCent]
  split
  · rename_i up
    have : ⌊amount * 100 + 1 / 2⌋ = ⌊amount * 100⌋ + 1 := by
      rw [Int.floor_eq_iff]
      push_cast
      constructor <;> linarith
    rw [this]
    push_cast
    linarith
  · rename_i down
    have : ⌊amount * 100 + 1 / 2⌋ = ⌊amount * 100⌋ := by
      rw [Int.floor_eq_iff]
      constructor <;> linarith
    rw [this]
    linarith

theorem sum_toCents {shares : List ℚ} (nonneg : ∀ share ∈ shares, 0 ≤ share)
    : (shares.map toCents).sum * 100 = shares.sum * 100 - (shares.map belowCent).sum
        + shares.countP (fun share => 1 / 2 ≤ belowCent share) := by
  induction shares with
  | nil => simp
  | cons share rest ih =>
      have ih := ih fun share member => nonneg share (List.mem_cons_of_mem _ member)
      have first := toCents_eq (nonneg share List.mem_cons_self)
      rw [List.map_cons, List.sum_cons, List.map_cons, List.sum_cons, List.sum_cons,
        List.countP_cons]
      simp only [decide_eq_true_eq]
      split
      · rename_i up
        rw [if_pos up] at first
        push_cast
        linarith
      · rename_i down
        rw [if_neg down] at first
        push_cast
        linarith

end

-- The history

def World.recordedAmounts (w : World) : List ℚ :=
  w.history.map (·.amountChange)

/-- Some of the shares were recorded in cents, in their order. -/
def Records (shares : List ℚ) (w w' : World) : Prop :=
  ∃ recorded : List ℚ, recorded.Sublist shares
    ∧ w'.recordedAmounts = (recorded.map toCents).reverse ++ w.recordedAmounts

theorem Records.none {shares : List ℚ} {w w' : World} (same : w'.history = w.history)
    : Records shares w w' :=
  ⟨[], List.nil_sublist _, congrArg (List.map _) same⟩

theorem Records.of_eq {shares : List ℚ} {w middle w' : World} (same : middle.history = w.history)
    (h : Records shares middle w')
    : Records shares w w' := by
  obtain ⟨recorded, some, left⟩ := h
  exact ⟨recorded, some, by rw [left, World.recordedAmounts, same, World.recordedAmounts]⟩

theorem Records.skip {share : ℚ} {shares : List ℚ} {w w' : World} (h : Records shares w w')
    : Records (share :: shares) w w' := by
  obtain ⟨recorded, some, left⟩ := h
  exact ⟨recorded, some.cons _, left⟩

theorem Records.head {share : ℚ} {shares : List ℚ} {w middle w' : World}
    (h : Records shares middle w')
    (first : middle.recordedAmounts = toCents share :: w.recordedAmounts)
    : Records (share :: shares) w w' := by
  obtain ⟨recorded, some, left⟩ := h
  exact ⟨share :: recorded, some.cons_cons _, by simp [left, first]⟩

section

variable {dep : Deployment} {i : Nat} {transactionId : Option TxId} {w w' : World}

theorem wlp_purchase {share : BasketShareAllocation}
    : conversionSemantics.wlp i (purchase dep transactionId share) w
        (fun _ w' => w'.history = w.history)
        (fun _ w' => w'.history = w.history) := by
  have calls : Only (I := conversionInterface) (fun op => ∃ call, op = .fintech transactionId call)
      (purchase dep transactionId share) :=
    only_purchase fun call => ⟨call, rfl⟩
  refine Semantics.wlp_mono (Semantics.wlp_of_only (R := fun w w' : World => w'.history = w.history)
    (fun _ => rfl) (fun first second => second.trans first) ?_ calls) (fun _ _ h => h.2)
      fun _ _ h => h.2
  rintro op x w reply w' ⟨call, rfl⟩ answered
  rcases history_of_act answered with same | ⟨data, absurd, -⟩
  · exact same
  · cases absurd

theorem recordedAmounts_of_create {data : ReserveHistory} {x : Choice}
    {reply : conversionInterface.Reply (.createReserveHistory data)}
    (answered : conversionSemantics.act i (.createReserveHistory data) x w = some (reply, w'))
    : w'.history = w.history ∧ Except.isOk reply = false
      ∨ w'.recordedAmounts = toCents data.amountChange :: w.recordedAmounts := by
  obtain ⟨-, ⟨rfl, failed⟩ | ⟨rfl, -⟩⟩ := Environment.act_cases answered
  · exact .inl ⟨rfl, failed⟩
  · exact .inr rfl

theorem wlp_convertShares {shares : List BasketShareAllocation}
    : conversionSemantics.wlp i (convertShares dep transactionId shares) w
        (fun _ w' => Records (shares.map (·.amountDecimal)) w w')
        (fun _ w' => Records (shares.map (·.amountDecimal)) w w') := by
  induction shares generalizing w with
  | nil => exact .none rfl
  | cons share rest ih =>
      refine Semantics.wlp_bind.mpr (Semantics.wlp_mono wlp_purchase
        (fun purchased middle same => ?_)
        fun _ _ same => .none same)
      cases purchased with
      | false =>
          refine Semantics.wlp_mono ih (fun _ _ later => ?_) fun _ _ later => ?_
          all_goals exact (Records.of_eq same later).skip
      | true =>
          refine Semantics.wlp_bind.mpr (Semantics.wlp_await.mpr ⟨fun x _ left answered => ?_,
            fun x _ left answered => ?_⟩)
          · rcases recordedAmounts_of_create answered with ⟨-, failed⟩ | written
            · cases failed
            · refine Semantics.wlp_mono ih (fun _ _ later => ?_) fun _ _ later => ?_
              all_goals exact Records.of_eq same (later.head written)
          · rcases recordedAmounts_of_create answered with ⟨unchanged, -⟩ | written
            · exact .none (unchanged.trans same)
            · exact Records.of_eq same ((Records.none rfl).head written)

theorem wlp_completeTransaction {txHash : String}
    : conversionSemantics.wlp i (completeTransaction transactionId txHash) w
        (fun _ w' => w'.history = w.history)
        (fun _ w' => w'.history = w.history) := by
  have quiet : ∀ id x reply (w w' : World),
      conversionSemantics.act i (.completeTransaction id txHash) x w = some (reply, w')
        → w'.history = w.history := by
    intro id x reply w w' answered
    rcases history_of_act answered with same | ⟨data, absurd, -⟩
    · exact same
    · cases absurd
  unfold completeTransaction
  split
  · exact Semantics.wlp_await.mpr ⟨fun x _ w' => quiet _ x _ w w', fun x _ w' => quiet _ x _ w w'⟩
  · rfl

theorem Records.then {shares : List ℚ} {middle : World} (h : Records shares w middle)
    (same : w'.history = middle.history)
    : Records shares w w' := by
  obtain ⟨recorded, some, left⟩ := h
  exact ⟨recorded, some, by rw [← left, World.recordedAmounts, same, World.recordedAmounts]⟩

theorem Records.mono {shares shares' : List ℚ} (h : Records shares w w')
    (more : shares.Sublist shares')
    : Records shares' w w' := by
  obtain ⟨recorded, some, left⟩ := h
  exact ⟨recorded, some.trans more, left⟩

theorem records_of_evaluate {payload : Message} {usdcAmount : ℚ} {x : Choice}
    {choices : List Choice}
    {result : Except JsError Unit} (parsed : positiveAmount dep payload.usdcAmount
      = some usdcAmount)
    (amount : 0 < usdcAmount) (weights : ∀ e ∈ x.basket, 0 ≤ e.weight)
    (ran : (processUsdcConversion dep payload).evaluate conversionSemantics i (x :: choices) w
      = some (result, w'))
    : Records (decimalShares usdcAmount x.basket) w w' := by
  unfold processUsdcConversion at ran
  rw [parsed] at ran
  obtain ⟨⟨reply, middle⟩, answered, later⟩ := Option.bind_eq_some_iff.mp ran
  have same : middle.history = w.history := by
    rcases history_of_act answered with same | ⟨data, absurd, -⟩
    · exact same
    · cases absurd
  cases reply with
  | error error =>
      obtain rfl := (Prod.mk.inj (Option.some.inj later)).2
      exact .none same
  | ok basket =>
      obtain ⟨-, answered⟩ := Environment.act_eq_some answered
      obtain rfl : x.basket = basket :=
        Except.ok.inj (congrArg Prod.fst (Outcome.answer_ok answered).2)
      refine Records.of_eq same (Semantics.wlp_world ?_ (Prog.evaluates_of_evaluate later))
      change conversionSemantics.wlp i
        (if x.basket = [] then return ()
        else do
          let allocations ← Prog.fromExcept (calculateBasketDistribution usdcAmount x.basket)
          convertShares dep payload.transactionId allocations
          completeTransaction payload.transactionId payload.txHash) middle _ _
      split
      · exact .none rfl
      · refine Semantics.wlp_bind.mpr (Semantics.wlp_fromExcept.mpr
          ⟨fun allocations calculated => ?_, fun _ _ => .none rfl⟩)
        have shares := amountDecimal_sublist amount weights calculated
        refine Semantics.wlp_bind.mpr (Semantics.wlp_mono wlp_convertShares
          (fun _ left recorded => ?_)
          fun _ _ recorded => recorded.mono shares)
        exact Semantics.wlp_mono wlp_completeTransaction
          (fun _ _ kept => (recorded.mono shares).then kept)
          fun _ _ kept => (recorded.mono shares).then kept

-- What is recorded of a deposit

theorem pos_of_positiveAmount {usdcAmount : String} {amount : ℚ}
    (parsed : positiveAmount dep usdcAmount = some amount)
    : 0 < amount := by
  unfold positiveAmount at parsed
  split at parsed
  · split at parsed
    · rename_i positive
      exact Option.some.inj parsed ▸ positive
    · cases parsed
  · cases parsed

theorem recorded_shares {payload : Message} {usdcAmount : ℚ} {x : Choice} {choices : List Choice}
    {result : Except JsError Unit} (parsed : positiveAmount dep payload.usdcAmount
      = some usdcAmount)
    (weights : ∀ e ∈ x.basket, 0 ≤ e.weight)
    (ran : (processUsdcConversion dep payload).evaluate conversionSemantics i (x :: choices) w
      = some (result, w'))
    (all : w'.history.length = w.history.length + x.basket.length)
    : (w'.recordedAmounts.take x.basket.length).sum
        = ((decimalShares usdcAmount x.basket).map toCents).sum := by
  obtain ⟨recorded, some, left⟩ :=
    records_of_evaluate parsed (pos_of_positiveAmount parsed) weights ran
  have length : recorded.length = x.basket.length := by
    have := congrArg List.length left
    simp only [World.recordedAmounts, List.length_map, List.length_append,
      List.length_reverse] at this
    omega
  obtain rfl := some.eq_of_length (length.trans length_decimalShares.symm)
  rw [left, List.take_left' (by simp [length]), List.sum_reverse]

/-- The recorded amounts add up to the deposit exactly when the parts of a cent balance. -/
theorem recorded_sum_iff (dep : Deployment) (payload : Message) (usdcAmount : ℚ) (i : Nat)
    (x : Choice)
    (choices : List Choice) (result : Except JsError Unit) (w w' : World)
    (parsed : positiveAmount dep payload.usdcAmount = some usdcAmount)
    (weights : ∀ e ∈ x.basket, 0 ≤ e.weight)
    (ran : (processUsdcConversion dep payload).evaluate conversionSemantics i (x :: choices) w
      = some (result, w'))
    (all : w'.history.length = w.history.length + x.basket.length)
    : (w'.recordedAmounts.take x.basket.length).sum = usdcAmount
        ↔ CentsBalance usdcAmount x.basket := by
  have nonneg := decimalShares_nonneg (pos_of_positiveAmount parsed) weights
  have cents := sum_toCents nonneg
  rw [recorded_shares parsed weights ran all, CentsBalance]
  constructor
  · intro exact
    rw [exact] at cents
    linarith
  · intro balance
    rw [balance] at cents
    linarith

end

def threeCents : Deployment where
  router := fintechRouter
  parseDecimal _ := some (.finite (3 / 100))

def threeCentsPayload : Message where
  usdcAmount := "0.03"
  recipient := "GRECIPIENT"
  txHash := "tx-hash"
  transactionId := none

def noTables : World where
  transactions := ∅
  history := []
  queue := []
  converted := []

def afterThreeCents (basket : List BasketEntry) : World :=
  (processUsdcConversion threeCents threeCentsPayload).after conversionSemantics 0
    ({ basket } :: List.replicate (3 * basket.length) {}) noTables

/-- One currency gets the three cents. -/
theorem recorded_sum_iff_single
    : ((afterThreeCents [⟨"NGN", 100⟩]).recordedAmounts.take 1).sum = 3 / 100
      ↔ CentsBalance (3 / 100) [⟨"NGN", 100⟩] :=
  recorded_sum_iff threeCents threeCentsPayload (3 / 100) 0 { basket := [⟨"NGN", 100⟩] }
    (List.replicate 3 {})
    (.ok ()) noTables (afterThreeCents [⟨"NGN", 100⟩]) (by decide +kernel) (by decide +kernel)
    (Prog.evaluate_after (by decide +kernel)) (by decide +kernel)

/-- Two equal currencies get one and a half cents each, and two cents are recorded for each. -/
theorem three_cents_recorded_as_four
    : (processUsdcConversion threeCents threeCentsPayload).Evaluates conversionSemantics 0 noTables
        (.ok ())
        (afterThreeCents [⟨"NGN", 50⟩, ⟨"KES", 50⟩])
      ∧ positiveAmount threeCents "0.03" = some (3 / 100)
      ∧ (afterThreeCents [⟨"NGN", 50⟩, ⟨"KES", 50⟩]).recordedAmounts = [2 / 100, 2 / 100]
      ∧ (afterThreeCents [⟨"NGN", 50⟩, ⟨"KES", 50⟩]).recordedAmounts.sum ≠ 3 / 100 := by
  have recorded : (afterThreeCents [⟨"NGN", 50⟩, ⟨"KES", 50⟩]).recordedAmounts
      = [2 / 100, 2 / 100] := by
    decide +kernel
  refine ⟨Prog.evaluates_after (by decide +kernel), by decide +kernel, recorded, ?_⟩
  rw [recorded]
  norm_num

end AcbuBackend.Conversion
