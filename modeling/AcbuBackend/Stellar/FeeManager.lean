import AcbuBackend.Runtime.Text
import Mathlib.Algebra.Order.Floor.Ring
import Mathlib.Tactic.FieldSimp
import Mathlib.Tactic.Linarith

/-! The fee of a classic payment: the base fee of the network and a surge buffer, below a ceiling.
Numbers are exact.
-/

namespace AcbuBackend.Stellar

open AcbuBackend.Runtime

-- The quote

def DEFAULT_FEE_SURGE_BUFFER_BPS : ℚ := 2000

def DEFAULT_MAX_PAYMENT_FEE_STROOPS : ℚ := 1000000

/-- The fee knobs of `config.stellar`, where they are numbers. -/
structure FeeConfig where
  feeSurgeBufferBps : Option JsNumber := none
  maxPaymentFeeStroops : Option JsNumber := none

def numericConfig (value : Option JsNumber) (fallback : ℚ) : JsNumber :=
  match value with
  | some (.finite value) => .finite value
  | _ => .finite fallback

def getFeeSurgeBufferBps (config : FeeConfig) : JsNumber :=
  numericConfig config.feeSurgeBufferBps DEFAULT_FEE_SURGE_BUFFER_BPS

def getMaxPaymentFeeStroops (config : FeeConfig) : JsNumber :=
  numericConfig config.maxPaymentFeeStroops DEFAULT_MAX_PAYMENT_FEE_STROOPS

structure PaymentFeeQuote where
  feeStroops : ℚ
  networkFeeStroops : ℚ
  buffered : Bool
  clampedToCeiling : Bool
  maxFeeStroops : ℚ
deriving DecidableEq

/-- What `applyFeeSurgeBuffer` throws. -/
inductive FeeError
  | baseFee (value : JsNumber)
  | maxPaymentFee (value : JsNumber)
  | surgeBuffer (value : JsNumber)
deriving DecidableEq

def FeeError.message (numberText : JsNumber → String) : FeeError → String
  | .baseFee value => s!"Invalid Stellar base fee: {numberText value}"
  | .maxPaymentFee value => s!"Invalid Stellar max payment fee: {numberText value}"
  | .surgeBuffer value => s!"Invalid Stellar fee surge buffer: {numberText value}"

def admissibleFee? : JsNumber → Option ℚ
  | .finite value => if value < 0 then none else some value
  | _ => none

/-- The quote for numbers that are admissible. -/
def surgeQuote (networkFeeStroops maxFeeStroops bufferBps : ℚ) : PaymentFeeQuote :=
  let buffered : ℚ := ⌈networkFeeStroops * (1 + bufferBps / 10000)⌉
  let feeStroops := min buffered maxFeeStroops
  { feeStroops
    networkFeeStroops
    buffered := networkFeeStroops < buffered
    clampedToCeiling := feeStroops < buffered
    maxFeeStroops }

def applyFeeSurgeBuffer (networkFeeStroops maxFeeStroops bufferBps : JsNumber)
    : Except FeeError PaymentFeeQuote :=
  match admissibleFee? networkFeeStroops, admissibleFee? maxFeeStroops,
    admissibleFee? bufferBps with
  | none, _, _ => .error (.baseFee networkFeeStroops)
  | _, none, _ => .error (.maxPaymentFee maxFeeStroops)
  | _, _, none => .error (.surgeBuffer bufferBps)
  | some networkFee, some maxFee, some bps => .ok (surgeQuote networkFee maxFee bps)

/-- `applyFeeSurgeBuffer` with the knobs of the configuration. -/
def configuredQuote (config : FeeConfig) (networkFeeStroops : JsNumber)
    : Except FeeError PaymentFeeQuote :=
  applyFeeSurgeBuffer networkFeeStroops (getMaxPaymentFeeStroops config)
    (getFeeSurgeBufferBps config)

-- The fee and its flag

variable {network ceiling bps : ℚ}

theorem admissibleFee?_of_nonneg {value : ℚ} (nonneg : 0 ≤ value)
    : admissibleFee? (.finite value) = some value :=
  if_neg nonneg.not_gt

theorem applyFeeSurgeBuffer_ok (network_nonneg : 0 ≤ network) (ceiling_nonneg : 0 ≤ ceiling)
    (bps_nonneg : 0 ≤ bps)
    : applyFeeSurgeBuffer (.finite network) (.finite ceiling) (.finite bps)
      = .ok (surgeQuote network ceiling bps) := by
  unfold applyFeeSurgeBuffer
  rw [admissibleFee?_of_nonneg network_nonneg, admissibleFee?_of_nonneg ceiling_nonneg,
    admissibleFee?_of_nonneg bps_nonneg]

theorem network_le_buffered (network_nonneg : 0 ≤ network) (bps_nonneg : 0 ≤ bps)
    : network ≤ ⌈network * (1 + bps / 10000)⌉ := by
  have factor : (1 : ℚ) ≤ 1 + bps / 10000 := le_add_of_nonneg_right (by positivity)
  exact (le_mul_of_one_le_right network_nonneg factor).trans (Int.le_ceil _)

theorem feeStroops_le : (surgeQuote network ceiling bps).feeStroops ≤ ceiling :=
  min_le_right _ _

theorem network_le_feeStroops (network_nonneg : 0 ≤ network) (bps_nonneg : 0 ≤ bps)
    (covered : network ≤ ceiling)
    : network ≤ (surgeQuote network ceiling bps).feeStroops :=
  le_min (network_le_buffered network_nonneg bps_nonneg) covered

theorem feeStroops_lt_network_iff (network_nonneg : 0 ≤ network) (bps_nonneg : 0 ≤ bps)
    : (surgeQuote network ceiling bps).feeStroops < network ↔ ceiling < network := by
  constructor
  · intro low
    by_contra covered
    exact low.not_ge (network_le_feeStroops network_nonneg bps_nonneg (not_lt.mp covered))
  · exact feeStroops_le.trans_lt

/-- The whole stroops below the ceiling cover the fee of the network with its buffer. -/
def CoversBuffer (network ceiling bps : ℚ) : Prop :=
  network * (10000 + bps) ≤ 10000 * ⌊ceiling⌋

theorem clampedToCeiling_iff
    : (surgeQuote network ceiling bps).clampedToCeiling = true
      ↔ ¬ CoversBuffer network ceiling bps := by
  have buffered : network * (1 + bps / 10000) = network * (10000 + bps) / 10000 := by
    field_simp
  unfold surgeQuote CoversBuffer
  dsimp only
  rw [decide_eq_true_eq, min_lt_iff, or_iff_right (lt_irrefl _), ← not_le, not_iff_not,
    ← Int.le_floor, Int.ceil_le, buffered, div_le_iff₀ (by norm_num), mul_comm (10000 : ℚ)]

theorem clampedToCeiling_iff_lt
    : (surgeQuote network ceiling bps).clampedToCeiling = true
      ↔ ceiling < ⌈network * (1 + bps / 10000)⌉ := by
  unfold surgeQuote
  dsimp only
  rw [decide_eq_true_eq, min_lt_iff, or_iff_right (lt_irrefl _)]

theorem covering (network_nonneg : 0 ≤ network) (bps_nonneg : 0 ≤ bps)
    (covers : CoversBuffer network ceiling bps)
    : ¬ ceiling < network := by
  intro below
  have whole : (⌊ceiling⌋ : ℚ) ≤ ceiling := Int.floor_le ceiling
  have product : 0 ≤ network * bps := mul_nonneg network_nonneg bps_nonneg
  unfold CoversBuffer at covers
  linarith

/-- What a quote says of its fee and of the buffered one. -/
structure PaymentFeeQuote.Sound (quote : PaymentFeeQuote) (bufferBps : ℚ) : Prop where
  bounded : quote.feeStroops ≤ quote.maxFeeStroops
  covers : quote.networkFeeStroops ≤ quote.maxFeeStroops →
    quote.networkFeeStroops ≤ quote.feeStroops
  flagged : quote.clampedToCeiling = true
    ↔ quote.maxFeeStroops < ⌈quote.networkFeeStroops * (1 + bufferBps / 10000)⌉
  insufficient : quote.feeStroops < quote.networkFeeStroops → quote.clampedToCeiling = true
  -- where the flag says no more than that the fee is insufficient
  precise : (quote.clampedToCeiling = true ↔ quote.feeStroops < quote.networkFeeStroops)
    ↔ quote.maxFeeStroops < quote.networkFeeStroops
      ∨ CoversBuffer quote.networkFeeStroops quote.maxFeeStroops bufferBps

/-- A quote is flagged exactly when its ceiling is below the buffered fee. So an insufficient fee is
flagged, and so is one between the fee of the network and the buffered one.
-/
theorem quote_sound (network ceiling bps : ℚ) (network_nonneg : 0 ≤ network)
    (ceiling_nonneg : 0 ≤ ceiling) (bps_nonneg : 0 ≤ bps)
    : ∃ quote,
        applyFeeSurgeBuffer (.finite network) (.finite ceiling) (.finite bps) = .ok quote
        ∧ quote.networkFeeStroops = network ∧ quote.maxFeeStroops = ceiling
        ∧ quote.Sound bps := by
  have low := @feeStroops_lt_network_iff network ceiling bps network_nonneg bps_nonneg
  have flagged := @clampedToCeiling_iff network ceiling bps
  have apart := @covering network ceiling bps network_nonneg bps_nonneg
  refine ⟨surgeQuote network ceiling bps,
    applyFeeSurgeBuffer_ok network_nonneg ceiling_nonneg bps_nonneg, rfl, rfl, feeStroops_le,
    network_le_feeStroops network_nonneg bps_nonneg, clampedToCeiling_iff_lt, ?_, ?_⟩
  · intro insufficient
    exact flagged.mpr fun covers => apart covers (low.mp insufficient)
  · constructor
    · intro same
      by_cases covers : CoversBuffer network ceiling bps
      · exact .inr covers
      · exact .inl (low.mp (same.mp (flagged.mpr covers)))
    · intro agreed
      refine flagged.trans (Iff.trans ?_ low.symm)
      exact ⟨agreed.resolve_right, fun below covers => apart covers below⟩

/-- The default knobs and a base fee of 100 stroops. -/
theorem quote_sound_default
    : ∃ quote, configuredQuote {} (.finite 100) = .ok quote
      ∧ quote.networkFeeStroops = 100 ∧ quote.maxFeeStroops = 1000000 ∧ quote.Sound 2000 :=
  quote_sound 100 1000000 2000 (by norm_num) (by norm_num) (by norm_num)

/-- A ceiling of 110 stroops is enough for a base fee of 100, but the quote is flagged. -/
theorem quote_flagged_in_vain
    : ∃ quote, applyFeeSurgeBuffer (.finite 100) (.finite 110) (.finite 2000) = .ok quote
      ∧ quote.feeStroops = 110 ∧ quote.networkFeeStroops = 100 ∧ quote.clampedToCeiling = true
      ∧ ¬ (quote.clampedToCeiling = true ↔ quote.feeStroops < quote.networkFeeStroops) :=
  ⟨⟨110, 100, true, true, 110⟩, by decide +kernel⟩

end AcbuBackend.Stellar
