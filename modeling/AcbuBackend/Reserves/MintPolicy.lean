import AcbuBackend.Reserves.ReserveTracker
import Mathlib.Tactic.Linarith

/-! The two functions that judge minting by the reserve ratio: the circuit breaker and the mint fee.
Without a supply the ratio counts as nothing, which is below every threshold.
-/

namespace AcbuBackend.Reserves

open Effects Effects.Prog AcbuBackend.Runtime

def isMintingPaused (dep : Deployment) : Prog reserveInterface Bool := do
  let ratio ← calculateReserveRatio dep SEGMENT_TRANSACTIONS
  let minReserveRatio ← ask .getCircuitBreakerMinReserveRatio
  pure (decide (ratio < minReserveRatio))

def BASE_MINT_FEE_BPS : Nat := 30
def STRESSED_MINT_FEE_BPS : Nat := 50
def MAX_MINT_FEE_BPS : Nat := 100
def MIN_SANITY_FEE_BPS : Nat := 1
def MAX_SANITY_FEE_BPS : Nat := 500

def validateFeeSanity (feeBps : Nat) (context : String) : Except JsError Unit :=
  if feeBps < MIN_SANITY_FEE_BPS ∨ MAX_SANITY_FEE_BPS < feeBps then
    .error (.error
      (s!"Fee sanity check failed for {context}: {feeBps} BPS is outside acceptable range "
      ++ s!"[{MIN_SANITY_FEE_BPS}, {MAX_SANITY_FEE_BPS}]"))
  else .ok ()

def mintFeeAt (minRatio ratio : ℚ) : Nat :=
  min (if ratio < minRatio then STRESSED_MINT_FEE_BPS else BASE_MINT_FEE_BPS) MAX_MINT_FEE_BPS

/-- `getMintFeeBps`. `toFixed4` writes a ratio with four decimals. -/
def getMintFeeBps (dep : Deployment) (toFixed4 : ℚ → String) : Prog reserveInterface Nat := do
  let ratio ← calculateReserveRatio dep SEGMENT_TRANSACTIONS
  let feeBps := mintFeeAt dep.reserve.minRatio ratio
  fromExcept (validateFeeSanity feeBps s!"mint (ratio: {toFixed4 ratio})")
  pure feeBps

-- What the two answer

/-- The ratio of a reserve value and a supply, as `calculateReserveRatio` counts it. -/
def reserveRatio (totalReserveValue totalAcbuSupply : ℚ) : ℚ :=
  if totalAcbuSupply = 0 then 0 else totalReserveValue / totalAcbuSupply

/-- The calls read this reserve value and this supply, and the limits this minimal ratio, which is
checked not to be negative when it is read.
-/
structure Backing (dep : Deployment) (reply : (op : ReserveOp) → reserveInterface.Reply op)
    (totalReserveValue totalAcbuSupply minReserveRatio : ℚ)
    : Prop where
  value : (getTotalReserveValue SEGMENT_TRANSACTIONS).answered reply = .ok totalReserveValue
  supply : (getTotalAcbuSupply dep).answered reply = .ok totalAcbuSupply
  limit : reply .getCircuitBreakerMinReserveRatio = .ok minReserveRatio
  nonneg : 0 ≤ minReserveRatio

variable {dep : Deployment} {toFixed4 : ℚ → String}
  {reply : (op : ReserveOp) → reserveInterface.Reply op} {R S minimum : ℚ}

theorem answered_calculateReserveRatio (h : Backing dep reply R S minimum)
    : (calculateReserveRatio dep SEGMENT_TRANSACTIONS).answered reply = .ok (reserveRatio R S) := by
  unfold calculateReserveRatio reserveRatio
  rw [answered_bind, h.supply]
  simp only [Except.bind, answered_bind, h.value]
  by_cases empty : S = 0
  · simp [empty]
  · simp [empty]

theorem answered_isMintingPaused (h : Backing dep reply R S minimum)
    : (isMintingPaused dep).answered reply = .ok (decide (reserveRatio R S < minimum)) := by
  unfold isMintingPaused
  rw [answered_bind, answered_calculateReserveRatio h]
  have limit : (ask .getCircuitBreakerMinReserveRatio).answered reply = .ok minimum :=
    answered_await.trans h.limit
  simp only [Except.bind, answered_bind, limit, answered_pure]

theorem validateFeeSanity_mintFeeAt {minRatio ratio : ℚ} {context : String}
    : validateFeeSanity (mintFeeAt minRatio ratio) context = .ok () := by
  unfold validateFeeSanity mintFeeAt
  rw [if_neg]
  split <;> decide

theorem answered_getMintFeeBps (h : Backing dep reply R S minimum)
    : (getMintFeeBps dep toFixed4).answered reply
      = .ok (mintFeeAt dep.reserve.minRatio (reserveRatio R S)) := by
  unfold getMintFeeBps
  rw [answered_bind, answered_calculateReserveRatio h]
  simp only [Except.bind, answered_bind, answered_fromExcept, validateFeeSanity_mintFeeAt,
    answered_pure]

theorem mintFeeAt_of_lt {minRatio ratio : ℚ} (low : ratio < minRatio)
    : mintFeeAt minRatio ratio = STRESSED_MINT_FEE_BPS := by
  rw [mintFeeAt, if_pos low]
  rfl

theorem mintFeeAt_of_le {minRatio ratio : ℚ} (healthy : minRatio ≤ ratio)
    : mintFeeAt minRatio ratio = BASE_MINT_FEE_BPS := by
  rw [mintFeeAt, if_neg (not_lt.mpr healthy)]
  rfl

theorem mintFeeAt_le_iff {minRatio first second : ℚ}
    : mintFeeAt minRatio second ≤ mintFeeAt minRatio first
      ↔ (minRatio ≤ first → minRatio ≤ second) := by
  rcases lt_or_ge second minRatio with low | healthy
  · rcases lt_or_ge first minRatio with low' | healthy'
    · simp [mintFeeAt_of_lt low, mintFeeAt_of_lt low', low']
    · rw [mintFeeAt_of_lt low, mintFeeAt_of_le healthy']
      exact ⟨fun less => absurd less (by decide), fun kept => absurd (kept healthy')
        (not_le.mpr low)⟩
  · refine ⟨fun _ _ => healthy, fun _ => ?_⟩
    rw [mintFeeAt_of_le healthy]
    unfold mintFeeAt
    split <;> decide

theorem le_reserveRatio {R₁ S₁ R₂ S₂ threshold : ℚ} (nonneg : 0 ≤ threshold) (more : R₁ ≤ R₂)
    (less : S₂ ≤ S₁) (some : 0 < S₂) (above : threshold ≤ reserveRatio R₁ S₁)
    : threshold ≤ reserveRatio R₂ S₂ := by
  have supply : 0 < S₁ := some.trans_le less
  rw [reserveRatio, if_neg supply.ne', le_div_iff₀ supply] at above
  rw [reserveRatio, if_neg some.ne', le_div_iff₀ some]
  calc threshold * S₂ ≤ threshold * S₁ := mul_le_mul_of_nonneg_left less nonneg
    _ ≤ R₁ := above
    _ ≤ R₂ := more

/-- A ratio without supply is below every threshold but zero: a threshold that was passed is still
passed, unless the supply has become nothing.
-/
theorem threshold_monotone_iff {R₁ S₁ R₂ S₂ threshold : ℚ} (nonneg : 0 ≤ threshold) (more : R₁ ≤ R₂)
    (less : S₂ ≤ S₁) (supplied : 0 ≤ S₂)
    : (threshold ≤ reserveRatio R₁ S₁ → threshold ≤ reserveRatio R₂ S₂)
      ↔ (S₂ = 0 → 0 < S₁ → 0 < threshold → R₁ < threshold * S₁) := by
  rcases supplied.eq_or_lt with rfl | some
  · rcases nonneg.eq_or_lt with rfl | positive
    · simp [reserveRatio]
    · have nothing : ¬ threshold ≤ reserveRatio R₂ 0 := by simp [reserveRatio, positive]
      simp only [nothing, imp_false, not_le, true_implies, positive]
      rcases less.eq_or_lt with rfl | supply
      · simp [reserveRatio, positive]
      · simp [reserveRatio, supply, supply.ne', div_lt_iff₀ supply]
  · exact ⟨fun _ none => absurd none some.ne', fun _ => le_reserveRatio nonneg more less some⟩

-- More backing or less supply

/-- From the first state to the second, minting does not become paused and its fee does not rise. -/
structure NotStressed (dep : Deployment) (toFixed4 : ℚ → String)
    (first second : (op : ReserveOp) → reserveInterface.Reply op)
    : Prop where
  running : (isMintingPaused dep).answered first = .ok false
    → (isMintingPaused dep).answered second = .ok false
  fee : ∃ fee₁ fee₂, (getMintFeeBps dep toFixed4).answered first = .ok fee₁
    ∧ (getMintFeeBps dep toFixed4).answered second = .ok fee₂ ∧ fee₂ ≤ fee₁

/-- More value for less supply never stresses minting, except when the supply becomes nothing and
the reserves covered the supply before by one of the two thresholds.
-/
theorem notStressed_iff {first second : (op : ReserveOp) → reserveInterface.Reply op}
    {R₁ S₁ R₂ S₂ : ℚ}
    (before : Backing dep first R₁ S₁ minimum) (after : Backing dep second R₂ S₂ minimum)
    (more : R₁ ≤ R₂) (less : S₂ ≤ S₁) (supplied : 0 ≤ S₂)
    : NotStressed dep toFixed4 first second
      ↔ (S₂ = 0 → 0 < S₁ → (0 < minimum → R₁ < minimum * S₁) ∧ R₁ < dep.reserve.minRatio * S₁) := by
  have running : ((isMintingPaused dep).answered first = .ok false
        → (isMintingPaused dep).answered second = .ok false)
      ↔ (S₂ = 0 → 0 < S₁ → 0 < minimum → R₁ < minimum * S₁) := by
    rw [answered_isMintingPaused before, answered_isMintingPaused after,
      ← threshold_monotone_iff before.nonneg more less supplied]
    simp
  have fee : mintFeeAt dep.reserve.minRatio (reserveRatio R₂ S₂)
    ≤ mintFeeAt dep.reserve.minRatio (reserveRatio R₁ S₁)
      ↔ (S₂ = 0 → 0 < S₁ → R₁ < dep.reserve.minRatio * S₁) := by
    rw [mintFeeAt_le_iff, threshold_monotone_iff dep.reserve.minRatio_pos.le more less supplied]
    exact forall_congr' fun _ => forall_congr' fun _ => forall_prop_of_true dep.reserve.minRatio_pos
  constructor
  · rintro ⟨stays, fee₁, fee₂, charged₁, charged₂, lower⟩ none some
    obtain rfl := Except.ok.inj (charged₁.symm.trans (answered_getMintFeeBps before))
    obtain rfl := Except.ok.inj (charged₂.symm.trans (answered_getMintFeeBps after))
    exact ⟨running.mp stays none some, fee.mp lower none some⟩
  · intro covered
    refine ⟨running.mpr fun none some => (covered none some).1, _, _, answered_getMintFeeBps before,
      answered_getMintFeeBps after, fee.mpr fun none some => (covered none some).2⟩

-- One currency

/-- Reserves of one currency worth `value`, and a ledger on which `minted` is in circulation. -/
def oneCurrency (value minted : ℚ) : (op : ReserveOp) → reserveInterface.Reply op
  | .getCurrentBasket => .ok [{ currency := "NGN", weight := 100 }]
  | .findLatestReserve currency segment => .ok (some
      { currency
        segment
        targetWeight := 100
        actualWeight := 100
        reserveAmount := value
        reserveValueUsd := value })
  | .sumMinted => .ok (some minted)
  | .sumBurned => .ok none
  | .getCircuitBreakerMinReserveRatio => .ok (102 / 100)
  | .getRate _ | .balanceOf .. => .ok 0
  | .getSTokenAddress _ | .updateReserve _ => .ok ""
  | .getProviderBalance _ => .ok 0
  | .findLatestRate _ | .getKeypair => .ok none
  | .createReserve _ | .sendNotification _ => .ok ()
  | .acbuAssets .. => .ok []

theorem backing_oneCurrency {value minted : ℚ} (nonneg : 0 ≤ minted)
    : Backing providerDeployment (oneCurrency value minted) value minted (102 / 100) where
  value := by
    change Except.ok (0 + value) = _
    rw [zero_add]
  supply := by
    change Except.ok (max 0 (minted - 0)) = _
    rw [sub_zero, max_eq_right nonneg]
  limit := rfl
  nonneg := by norm_num

theorem notStressed_iff_sample
    : NotStressed providerDeployment (fun _ => "") (oneCurrency 110 100) (oneCurrency 120 90) :=
  (notStressed_iff (backing_oneCurrency (by norm_num)) (backing_oneCurrency (by norm_num))
    (by norm_num) (by norm_num) (by norm_num)).mpr fun none => absurd none (by norm_num)

/-- With a hundred and ten dollars in reserve, minting runs at the base fee for a supply of a
hundred.
When the whole supply is burned it is paused, and its fee is the stressed one.
-/
theorem noSupply_stressed
    : Backing providerDeployment (oneCurrency 110 100) 110 100 (102 / 100)
      ∧ Backing providerDeployment (oneCurrency 110 0) 110 0 (102 / 100)
      ∧ (isMintingPaused providerDeployment).answered (oneCurrency 110 100) = .ok false
      ∧ (isMintingPaused providerDeployment).answered (oneCurrency 110 0) = .ok true
      ∧ (getMintFeeBps providerDeployment (fun _ => "")).answered (oneCurrency 110 100) = .ok 30
      ∧ (getMintFeeBps providerDeployment (fun _ => "")).answered (oneCurrency 110 0) = .ok 50
      ∧ ¬ NotStressed providerDeployment (fun _ => "") (oneCurrency 110 100)
        (oneCurrency 110 0) := by
  have before : Backing providerDeployment (oneCurrency 110 100) 110 100 (102 / 100) :=
    backing_oneCurrency (by norm_num)
  have after : Backing providerDeployment (oneCurrency 110 0) 110 0 (102 / 100) :=
    backing_oneCurrency le_rfl
  have running : (isMintingPaused providerDeployment).answered (oneCurrency 110 100)
      = .ok false := by
    rw [answered_isMintingPaused before]
    norm_num [reserveRatio]
  have paused : (isMintingPaused providerDeployment).answered (oneCurrency 110 0) = .ok true := by
    rw [answered_isMintingPaused after]
    norm_num [reserveRatio]
  refine ⟨before, after, running, paused, ?_, ?_, fun h => ?_⟩
  · rw [answered_getMintFeeBps before]
    norm_num [reserveRatio, mintFeeAt, providerDeployment, BASE_MINT_FEE_BPS, MAX_MINT_FEE_BPS]
  · rw [answered_getMintFeeBps after]
    norm_num [reserveRatio, mintFeeAt, providerDeployment, STRESSED_MINT_FEE_BPS, MAX_MINT_FEE_BPS]
  · cases paused.symm.trans (h.running running)

end AcbuBackend.Reserves
