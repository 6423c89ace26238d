import AcbuBackend.Reserves.Model
import Mathlib.Tactic.NormNum

/-! `ReserveTracker`: the tracking run, the totals and ratios it is judged by, and the health of
the reserves. Logging and the delays between attempts are left out.
-/

namespace AcbuBackend.Reserves

open Effects Effects.Prog AcbuBackend.Runtime

def SEGMENT_TRANSACTIONS : String := "transactions"

def RESERVE_DECIMALS : ℤ := 10000000

def RESERVE_TRACKER_RETRIES : Nat := 3

structure ContractAddresses where
  oracle : String
  reserveTracker : String
  minting : String

structure AcbuAssetConfig where
  code : String
  issuer : Option String

/-- `config.reserve`, whose ratios are checked to be positive when it is read. -/
structure ReserveConfig where
  minRatio : ℚ := 102 / 100
  targetRatio : ℚ := 105 / 100
  alertThreshold : ℚ := 102 / 100
  minRatio_pos : 0 < minRatio 
  targetRatio_pos : 0 < targetRatio := by decide
  alertThreshold_pos : 0 < alertThreshold := by decide

/-- The configuration the tracker runs under. -/
structure Deployment where
  addresses : ContractAddresses
  reserve : ReserveConfig
  /-- `getAcbuAssetConfig()`. -/
  acbuAsset : Except JsError AcbuAssetConfig

/-- The ledger and the providers are read, with nothing configured on chain. -/
def providerDeployment : Deployment where
  addresses := { oracle := "", reserveTracker := "", minting := "" }
  reserve := {
    minRatio_pos := by norm_num
    targetRatio_pos := by norm_num
    alertThreshold_pos := by norm_num }
  acbuAsset := .ok { code := "ACBU", issuer := none }

/-- Whether the contracts of the on-chain custody are configured. -/
def Deployment.onChainEnabled (dep : Deployment) : Bool :=
  dep.addresses.reserveTracker ≠ "" && dep.addresses.oracle ≠ "" && dep.addresses.minting ≠ ""

-- The balances of a currency

/-- Attempts a program until it does not throw, at most `attempts + 1` times. -/
def retry {α : Type} (fn : Prog reserveInterface α) : Nat → Prog reserveInterface α
  | 0 => fn
  | attempts + 1 => fn.catchWith (fun _ => retry fn attempts)

def withRetry {α : Type} (fn : Prog reserveInterface α) : Prog reserveInterface α :=
  retry fn (RESERVE_TRACKER_RETRIES - 1)

structure Custody where
  amountAtomic : ℤ
  rateUsdAtomic : ℤ
  valueUsdAtomic : ℤ

def readOnChainCustody (dep : Deployment) (currency : String)
    : Prog reserveInterface (Option Custody) :=
  if dep.onChainEnabled then do
    let rateUsdAtomic ← ask (.getRate currency)
    let sToken ← ask (.getSTokenAddress currency)
    let amountAtomic ← ask (.balanceOf sToken dep.addresses.minting)
    pure (some
      { amountAtomic
        rateUsdAtomic
        valueUsdAtomic := (amountAtomic * rateUsdAtomic).tdiv RESERVE_DECIMALS })
  else pure none

def getCurrencyRate (currency : String) : Prog reserveInterface ℚ := do
  let latestRate ← ask (.findLatestRate currency)
  orThrow latestRate (.error s!"Oracle rate not available for {currency}")

/-- The balance of a currency and its value: the custody on chain, else what the provider holds
at the oracle rate.
-/
def balanceAndValue (currency : String) : Option Custody → Prog reserveInterface (ℚ × ℚ)
  | some custody =>
      pure ((custody.amountAtomic : ℚ) / RESERVE_DECIMALS,
        (custody.valueUsdAtomic : ℚ) / RESERVE_DECIMALS)
  | none => do
      let balance ← withRetry (ask (.getProviderBalance currency))
      let rate ← withRetry (getCurrencyRate currency)
      pure (balance, balance * rate)

-- Totals

/-- `basketService.getCurrencies`. -/
def getCurrencies : Prog reserveInterface (List String) := do
  let basket ← ask .getCurrentBasket
  pure (basket.map (·.currency))

/-- `basketService.getTargetWeight`. -/
def getTargetWeight (currency : String) : Prog reserveInterface ℚ := do
  let basket ← ask .getCurrentBasket
  pure (((basket.find? (fun e => e.currency = currency)).map (·.weight)).getD 0)

/-- The loop of `getTotalReserveValue`. -/
def addLatestValues (segment : String) (total : ℚ) : List String → Prog reserveInterface ℚ
  | [] => pure total
  | currency :: rest => do
      let latest ← ask (.findLatestReserve currency segment)
      addLatestValues segment (total + (latest.map (·.reserveValueUsd)).getD 0) rest

def getTotalReserveValue (segment : String) : Prog reserveInterface ℚ := do
  let currencies ← getCurrencies
  addLatestValues segment 0 currencies

def getTotalAcbuSupplyFromLedger : Prog reserveInterface ℚ := do
  let minted ← ask .sumMinted
  let burned ← ask .sumBurned
  pure (max 0 (minted.getD 0 - burned.getD 0))

def getTotalAcbuSupply (dep : Deployment) : Prog reserveInterface ℚ := do
  let ledgerSupply ← getTotalAcbuSupplyFromLedger
  let asset ← fromExcept dep.acbuAsset
  match asset.issuer with
  | none => pure ledgerSupply
  | some issuer =>
      catchWith
        (do
          let records ← ask (.acbuAssets asset.code issuer)
          pure (records.head?.getD ledgerSupply))
        (fun _ => pure ledgerSupply)

def calculateReserveRatio (dep : Deployment) (segment : String) : Prog reserveInterface ℚ := do
  let totalAcbuSupply ← getTotalAcbuSupply dep
  let totalReserveValue ← getTotalReserveValue segment
  if totalAcbuSupply = 0 then pure 0
  else pure (totalReserveValue / totalAcbuSupply)

-- Health

structure ReserveStatus where
  currency : String
  targetWeight : ℚ
  actualWeight : ℚ
  reserveAmount : ℚ
  reserveValueUsd : ℚ
  weightDrift : ℚ
deriving DecidableEq

structure ReserveHealth where
  totalAcbuSupply : ℚ
  totalReserveValueUsd : ℚ
  overcollateralizationRatio : ℚ
  health : Health
  currencies : List ReserveStatus

def Reserve.status (row : Reserve) (currency : String) : ReserveStatus where
  currency := currency
  targetWeight := row.targetWeight
  actualWeight := row.actualWeight
  reserveAmount := row.reserveAmount
  reserveValueUsd := row.reserveValueUsd
  weightDrift := row.actualWeight - row.targetWeight

/-- The loop of `getReserveStatus`. -/
def currencyStatuses (segment : String) : List String → Prog reserveInterface (List ReserveStatus)
  | [] => pure []
  | currency :: rest => do
      let latestReserve ← ask (.findLatestReserve currency segment)
      let statuses ← currencyStatuses segment rest
      pure ((latestReserve.map (·.status currency)).toList ++ statuses)

def getReserveStatus (dep : Deployment) (segment : String)
    : Prog reserveInterface ReserveHealth := do
  let totalAcbuSupply ← getTotalAcbuSupply dep
  let totalReserveValue ← getTotalReserveValue segment
  let overcollateralizationRatio :=
    if 0 < totalAcbuSupply then totalReserveValue / totalAcbuSupply * 100 else 0
  let currencies ← getCurrencies
  let statuses ← currencyStatuses segment currencies
  pure
    { totalAcbuSupply
      totalReserveValueUsd := totalReserveValue
      overcollateralizationRatio
      health :=
        if dep.reserve.targetRatio * 100 ≤ overcollateralizationRatio then .healthy
        else if dep.reserve.alertThreshold * 100 ≤ overcollateralizationRatio then .warning
        else .critical
      currencies := statuses }

def triggerAlert (health : ReserveHealth) : Prog reserveInterface Unit :=
  swallow (ask (.sendNotification
    { health := health.health
      totalAcbuSupply := health.totalAcbuSupply
      totalReserveValueUsd := health.totalReserveValueUsd
      overcollateralizationRatio := health.overcollateralizationRatio }))

def alertIfCritical (health : ReserveHealth) : Prog reserveInterface Unit :=
  if health.health = .critical then triggerAlert health else pure ()

-- The tracking run

/-- What a run reports of a currency it has tracked. -/
structure ReserveUpdate where
  currency : String
  balance : ℚ
  reserveValueUsd : ℚ
  actualWeight : ℚ
  targetWeight : ℚ
deriving DecidableEq

def ReserveUpdate.row (u : ReserveUpdate) : Reserve where
  currency := u.currency
  segment := SEGMENT_TRANSACTIONS
  targetWeight := u.targetWeight
  actualWeight := u.actualWeight
  reserveAmount := u.balance
  reserveValueUsd := u.reserveValueUsd

def actualWeightOf (reserveValueUsd totalReserveValue : ℚ) : ℚ :=
  if 0 < totalReserveValue then reserveValueUsd / totalReserveValue * 100 else 0

/-- The custody on chain, if it is configured and can be read. -/
def custodyIfReadable (dep : Deployment) (currency : String)
    : Prog reserveInterface (Option Custody) :=
  if dep.onChainEnabled then
    catchWith (withRetry (readOnChainCustody dep currency)) (fun _ => pure none)
  else pure none

/-- A custody that was read goes to the contract; a failure is only logged. -/
def syncToChain (currency : String) : Option Custody → Prog reserveInterface Unit
  | none => pure ()
  | some custody =>
      swallow (do
        let publicKey ← ask .getKeypair
        let sourceAccount ← orThrow publicKey (.error "No source account available")
        let _ ← ask (.updateReserve
          { updater := sourceAccount
            currency
            amount := custody.amountAtomic
            valueUsd := custody.valueUsdAtomic })
        pure ())

/-- The body of the loop of `trackReserves`. -/
def trackCurrency (dep : Deployment) (currency : String) : Prog reserveInterface ReserveUpdate := do
  let custody ← custodyIfReadable dep currency
  let (balance, reserveValueUsd) ← balanceAndValue currency custody
  let targetWeight ← getTargetWeight currency
  let totalReserveValue ← getTotalReserveValue SEGMENT_TRANSACTIONS
  let update : ReserveUpdate :=
    { currency
      balance
      reserveValueUsd
      actualWeight := actualWeightOf reserveValueUsd totalReserveValue
      targetWeight }
  ask (.createReserve update.row)
  syncToChain currency custody
  pure update

/-- The loop of `trackReserves`. A currency that fails is logged and left out. -/
def trackCurrencies (dep : Deployment) : List String → Prog reserveInterface (List ReserveUpdate)
  | [] => pure []
  | currency :: rest => do
      let update ← catchWith
        (do
          let update ← trackCurrency dep currency
          pure (some update))
        (fun _ => pure none)
      let updates ← trackCurrencies dep rest
      pure (update.toList ++ updates)

/-- `trackReserves`, with the `reserveUpdates` it logs. -/
def trackReserves (dep : Deployment) : Prog reserveInterface (List ReserveUpdate) := do
  let currencies ← getCurrencies
  let reserveUpdates ← trackCurrencies dep currencies
  let health ← getReserveStatus dep SEGMENT_TRANSACTIONS
  alertIfCritical health
  pure reserveUpdates

end AcbuBackend.Reserves
