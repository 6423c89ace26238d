import AcbuBackend.Bills.Model

/-! The bills service: payments, refunds and the reconciliation of the partner's events. -/

namespace AcbuBackend.Bills

open Effects Effects.Prog AcbuBackend.Runtime Burn
open Mint (TxId TransactionStatus)

/-- What the service takes from the configuration. `billsProvider` is the configured provider,
trimmed and in lower case.
-/
structure Deployment where
  burn : Burn.Deployment
  billsProvider : String

structure BillPaymentRequest where
  userId : Option String
  organizationId : Option String
  audience : Option String
  billerId : String
  productId : String
  customerReference : String
  amount : ℚ

structure BillsRefundRequest where
  transactionId : TxId
  reason : Option String := none

/-- What an operation answers with. -/
inductive BillsResult
  | payment (transactionId : TxId) (status : DispatchStatus) (provider providerReference : String)
      (billerId productId : String) (localAmount : ℚ) (currency : String) (reconciled : Bool)
  | refund (transactionId : TxId) (provider providerReference : String)
  | reconciled (transactionId : TxId) (status : TransactionStatus)
  | burned (response : BurnResponse)

-- Helpers

def DEFAULT_PROVIDER_ID : String := "simulated"

/-- `getBillsProvider`. One provider is registered. -/
def getBillsProvider (providerId : String) : Except JsError String :=
  if providerId = DEFAULT_PROVIDER_ID then .ok providerId
  else .error (plainAppError s!"Bills provider '{providerId}' is not configured" 503)

def BillsWebhookStatus.text : BillsWebhookStatus → String
  | .completed => "completed"
  | .failed => "failed"
  | .refunded => "refunded"

def getWebhookEventType (provider : String) (status : BillsWebhookStatus) : String :=
  s!"bills:{provider}:{status.text}"

def getTransactionStatusFromWebhook : BillsWebhookStatus → TransactionStatus
  | .completed => .completed
  | .failed => .failed
  | .refunded => .refunded

/-- `Math.round`. -/
def jsRound (x : ℚ) : ℤ :=
  ⌊x + 1 / 2⌋

def resolveCatalogSelection (dep : Deployment) (billerId productId : String)
    : Prog billsInterface (String × BillsCatalogBiller × BillsCatalogProduct) := do
  let provider ← fromExcept (getBillsProvider dep.billsProvider)
  let catalog ← issue .getCatalog
  let biller ← orThrow (catalog.find? (fun item => item.id = billerId))
    (plainAppError "Biller not found" 404)
  let product ← orThrow (biller.products.find? (fun item => item.id = productId))
    (plainAppError "Biller product not found" 404)
  return (provider, biller, product)

/-- The row of type `bill_payment` a lookup has found. -/
def billPayment (found : Option Transaction) : Prog billsInterface Transaction :=
  orThrow (found.filter (fun row => row.type = "bill_payment"))
    (plainAppError "Bill payment transaction not found" 404)

-- Reconciliation

/-- What a reconciliation writes over a row it has read. -/
def reconciliation (event : BillsWebhookEvent) (transaction : Transaction) : TransactionUpdate where
  status := getTransactionStatusFromWebhook event.status
  recipientAddress := some event.providerReference
  rateSnapshot :=
    { transaction.rateSnapshot with
      provider_reference := some event.providerReference
      webhook_status := some event.status }

/-- The notification of an event; there is none of a refund. -/
def notifyEvent (event : BillsWebhookEvent) : Prog billsInterface Unit :=
  match event.status with
  | .completed => issue (.enqueueWebhook "transaction.completed" event.transactionId)
  | .failed => issue (.enqueueWebhook "transaction.failed" event.transactionId)
  | .refunded => return ()

/-- `reconcileBillsWebhook`: the status it has written. -/
def reconcileBillsWebhook (event : BillsWebhookEvent) : Prog billsInterface TransactionStatus := do
  let found ← issue (.findTransaction event.transactionId)
  let transaction ← billPayment found
  issue (.createWebhook (getWebhookEventType event.provider event.status) event)
  issue (.updateTransaction event.transactionId (reconciliation event transaction))
  issue (.logAudit event.transactionId s!"bill_payment_{event.status.text}")
  notifyEvent event
  return getTransactionStatusFromWebhook event.status

-- Payments

/-- A payment whose checks have passed. -/
structure BillOrder where
  request : BillPaymentRequest
  provider : String
  biller : BillsCatalogBiller
  product : BillsCatalogProduct

/-- The `rateSnapshot` an order is created with. -/
def BillOrder.snapshot (order : BillOrder) : RateSnapshot where
  provider := some order.provider
  organizationId := order.request.organizationId

/-- The row an order is created with. Its organisation is not a column of it. -/
def BillOrder.pendingRow (order : BillOrder) : Transaction where
  userId := order.request.userId
  type := "bill_payment"
  status := .pending
  acbuAmountBurned := some order.request.amount
  localCurrency := some order.product.currency
  localAmount := some order.request.amount
  rateSnapshot := order.snapshot

/-- The request the partner is sent for the row `id`. -/
def BillOrder.partnerRequest (order : BillOrder) (id : TxId) : PartnerBillPaymentRequest where
  transactionId := id
  biller := order.biller
  product := order.product
  customerReference := order.request.customerReference
  amount := order.request.amount

def BillOrder.dispatched (order : BillOrder) (providerResult : PartnerBillPaymentResponse)
    : TransactionUpdate where
  status := providerResult.dispatchStatus.toStatus
  recipientAddress := some providerResult.providerReference
  rateSnapshot :=
    { order.snapshot with
      provider_reference := some providerResult.providerReference
      dispatch_status := some providerResult.dispatchStatus }

/-- What is written when the payment has thrown. -/
def BillOrder.failed (order : BillOrder) (error : JsError) : TransactionUpdate where
  status := .failed
  rateSnapshot := { order.snapshot with failure_reason := some error.message }

/-- The status answered: `completed` when the event in the partner's answer said so. -/
def reconcileAnswer (providerResult : PartnerBillPaymentResponse)
    : Prog billsInterface DispatchStatus :=
  match providerResult.reconciliationEvent with
  | none => return providerResult.dispatchStatus
  | some event => do
      let reconciled ← reconcileBillsWebhook event
      return if reconciled = .completed then .completed else providerResult.dispatchStatus

/-- The `try` of `payBill` for the row `id`. -/
def dispatchOrder (order : BillOrder) (id : TxId) : Prog billsInterface BillsResult := do
  let providerResult ← issue (.payBill (order.partnerRequest id))
  issue (.updateTransaction id (order.dispatched providerResult))
  let status ← reconcileAnswer providerResult
  return .payment id status order.provider providerResult.providerReference order.biller.id
    order.product.id order.request.amount order.product.currency (status = .completed)

/-- The `catch` of `payBill`. -/
def failOrder (order : BillOrder) (id : TxId) (error : JsError)
    : Prog billsInterface BillsResult := do
  issue (.updateTransaction id (order.failed error))
  issue (.logAudit id "bill_payment_failed")
  issue (.enqueueWebhook "transaction.failed" id)
  fail error

/-- What `payBill` does once its checks have passed. -/
def placeOrder (order : BillOrder) : Prog billsInterface BillsResult := do
  let id ← issue (.createTransaction order.pendingRow)
  issue (.logAudit id "bill_payment_created")
  catchWith (dispatchOrder order id) (failOrder order id)

/-- The amount checks of `payBill`. -/
def checkAmount (dep : Deployment) (amount : ℚ) (product : BillsCatalogProduct)
    : Prog billsInterface Unit := do
  ensure (product.minAmount ≤ amount && amount ≤ product.maxAmount)
    (plainAppError
      (s!"Amount must be between {dep.burn.toText product.minAmount} and "
        ++ s!"{dep.burn.toText product.maxAmount} {product.currency}")
      400)
  ensure (product.fixedAmount.all (fun fixedAmount => jsRound (amount * 100)
    = jsRound (fixedAmount * 100)))
    (plainAppError
      (s!"Amount must equal {dep.burn.toText (product.fixedAmount.getD 0)} {product.currency} "
        ++ s!"for {product.name}")
      400)

def payBill (dep : Deployment) (request : BillPaymentRequest)
    : Prog billsInterface BillsResult := do
  let (provider, biller, product) ←
    resolveCatalogSelection dep request.billerId request.productId
  checkAmount dep request.amount product
  let paused ← (isCurrencyWithdrawalPaused product.currency).within burnCalls
  ensure (!paused)
    (plainAppError
      (s!"Bill payments in {product.currency} are temporarily paused "
        ++ "due to reserve protection.")
      503)
  (checkWithdrawalLimits dep.burn ((request.audience.filter (fun audience => audience ≠ "")).getD
    "retail")
    request.amount (some product.currency) request.userId request.organizationId).within burnCalls
  placeOrder { request, provider, biller, product }

-- Refunds

def refundRequest (request : BillsRefundRequest) (transaction : Transaction)
    (providerReference : String)
    : PartnerBillRefundRequest where
  transactionId := request.transactionId
  providerReference := providerReference
  amount := transaction.localAmount.getD 0
  currency := transaction.localCurrency.getD "NGN"
  reason := request.reason

def refundBillPayment (request : BillsRefundRequest) : Prog billsInterface BillsResult := do
  let found ← issue (.findTransaction request.transactionId)
  let transaction ← billPayment found
  let providerReference ← orThrow (transaction.recipientAddress.filter (fun ref => ref ≠ ""))
    (plainAppError "Bill payment has no provider reference" 400)
  ensure (transaction.status = .completed)
    (plainAppError "Only completed bill payments can be refunded" 409)
  let _ ← fromExcept (getBillsProvider
    ((transaction.rateSnapshot.provider.filter (fun id => id ≠ "")).getD DEFAULT_PROVIDER_ID))
  let refundResponse ← issue (.refundBill (refundRequest request transaction providerReference))
  let _ ← reconcileBillsWebhook refundResponse.reconciliationEvent
  return .refund request.transactionId refundResponse.provider refundResponse.providerReference

-- All entry points

/-- A request to the service, an event of the partner, or a burn. -/
inductive BillsRequest
  | pay (request : BillPaymentRequest)
  | refund (request : BillsRefundRequest)
  | webhook (event : BillsWebhookEvent)
  | burn (request : BurnRequest)

def handle (dep : Deployment) : BillsRequest → Prog billsInterface BillsResult
  | .pay request => payBill dep request
  | .refund request => refundBillPayment request
  | .webhook event => do
      let status ← reconcileBillsWebhook event
      return .reconciled event.transactionId status
  | .burn request => do
      let response ← (burnAcbu dep.burn request).within burnCalls
      return .burned response

abbrev BillsConfig := Config billsInterface BillsResult World

/-- The requests, all before their first call, on the tables as they are. -/
def initialConfig (dep : Deployment) (requests : List BillsRequest) (world : World) : BillsConfig :=
  .initial world (requests.map (handle dep))

/-- The tables before any of the modelled requests. -/
def World.start (burn : Burn.World) (transactions : AList (fun _ : TxId => Transaction))
    (createdAt : TxId → Instant) (burnedAt : BurnId → Instant)
    : World :=
  { burn, transactions, createdAt, burnedAt }

end AcbuBackend.Bills
