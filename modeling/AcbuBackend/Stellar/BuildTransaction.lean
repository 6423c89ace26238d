import AcbuBackend.Effects.Evaluation
import AcbuBackend.Effects.Outcome
import AcbuBackend.Runtime.Errors
import AcbuBackend.Runtime.Text

/-! `StellarClient.buildTransaction` and the guard of the treasury in front of it: which operations
a transaction of the treasury account may contain.
The guard reads the source of the transaction; an operation may run as another account.
-/

namespace AcbuBackend.Stellar

open Effects Effects.Prog AcbuBackend.Runtime

/-- An operation, as far as the guard and the transaction builder distinguish it. -/
structure Operation where
  type : String
  /-- The account the operation runs as, instead of the transaction's. -/
  source : Option String := none
  destination : Option String := none

def FORBIDDEN_TREASURY_OPERATIONS : List String :=
  ["accountMerge"]

def ALLOWED_TREASURY_OPERATIONS : List String :=
  ["payment", "createAccount", "pathPaymentStrictReceive", "pathPaymentStrictSend", "changeTrust",
    "setOptions", "bumpSequence"]

def DESTINATION_OPERATION_TYPES : List String :=
  ["payment", "createAccount", "pathPaymentStrictReceive", "pathPaymentStrictSend"]

/-- `getTreasuryAllowedDestinations`, of the variable `TREASURY_ALLOWED_DESTINATIONS`. -/
def getTreasuryAllowedDestinations (raw : Option String) : List String :=
  match raw with
  | none => []
  | some raw =>
      ((raw.toList.splitOn ',').map (fun entry => jsTrim (String.ofList entry))).filter
      (fun entry => entry ≠ "")

def forbiddenOperation (opType : String) : JsError :=
  .error s!"Operation '{opType}' is forbidden for the treasury account to prevent asset drainage attacks"

def disallowedOperation (opType : String) : JsError :=
  .error (s!"Operation '{opType}' is not allowed for the treasury account: "
    ++ "only allow-listed operation types may be executed")

def unapprovedDestination (destination : String) : JsError :=
  .error s!"Treasury operation destination '{destination}' is not on the approved destination allow-list"

/-- The destination an operation pays, if its type has one. -/
def Operation.paid (operation : Operation) : Option String :=
  operation.destination.filter
    (fun destination => destination ≠ "" && DESTINATION_OPERATION_TYPES.contains operation.type)

/-- The body of the loop of `validateOperationsForTreasuryAccount`. -/
def validateOperation (allowedDestinations : List String) (treasuryAccountId : String)
    (operation : Operation)
    : Except JsError Unit :=
  if FORBIDDEN_TREASURY_OPERATIONS.contains operation.type then
    .error (forbiddenOperation operation.type)
  else if !ALLOWED_TREASURY_OPERATIONS.contains operation.type then
    .error (disallowedOperation operation.type)
  else
    match operation.paid with
    | none => .ok ()
    | some destination =>
        if destination ≠ treasuryAccountId ∧ 0 < allowedDestinations.length
            ∧ !allowedDestinations.contains destination then
          .error (unapprovedDestination destination)
        else .ok ()

def validateOperations (allowedDestinations : List String) (treasuryAccountId : String)
    : List Operation → Except JsError Unit
  | [] => .ok ()
  | operation :: rest => do
      validateOperation allowedDestinations treasuryAccountId operation
      validateOperations allowedDestinations treasuryAccountId rest

def validateOperationsForTreasuryAccount (allowedDestinations : List String)
    (operations : List Operation)
    (accountId treasuryAccountId : String)
    : Except JsError Unit :=
  if accountId ≠ treasuryAccountId then .ok ()
  else validateOperations allowedDestinations treasuryAccountId operations

-- What the guard admits

/-- An operation the treasury must not run: its type is forbidden or not on the list, or it pays
a destination that is neither the treasury nor approved.
-/
def Unsafe (allowedDestinations : List String) (treasuryAccountId : String) (operation : Operation)
    : Prop :=
  operation.type ∈ FORBIDDEN_TREASURY_OPERATIONS ∨ operation.type ∉ ALLOWED_TREASURY_OPERATIONS
    ∨ ∃ destination, operation.paid = some destination ∧ destination ≠ treasuryAccountId
      ∧ destination ∉ allowedDestinations

variable {allowedDestinations : List String} {treasuryAccountId accountId : String}

theorem validateOperation_ok_iff {operation : Operation} (listed : allowedDestinations ≠ [])
    : validateOperation allowedDestinations treasuryAccountId operation = .ok ()
      ↔ ¬ Unsafe allowedDestinations treasuryAccountId operation := by
  have some : 0 < allowedDestinations.length := List.length_pos_of_ne_nil listed
  unfold validateOperation Unsafe
  by_cases forbidden : operation.type ∈ FORBIDDEN_TREASURY_OPERATIONS
  · simp [forbidden]
  · by_cases allowed : operation.type ∈ ALLOWED_TREASURY_OPERATIONS
    · cases paid : operation.paid with
      | none => simp [forbidden, allowed]
      | some destination =>
          by_cases self : destination = treasuryAccountId
          · simp [forbidden, allowed, self]
          · by_cases approved : destination ∈ allowedDestinations
            · simp [forbidden, allowed, approved]
            · simp [forbidden, allowed, self, approved, some]
    · simp [forbidden, allowed]

theorem validateOperations_ok_iff {operations : List Operation} (listed : allowedDestinations ≠ [])
    : validateOperations allowedDestinations treasuryAccountId operations = .ok ()
      ↔ ∀ operation ∈ operations, ¬ Unsafe allowedDestinations treasuryAccountId operation := by
  induction operations with
  | nil => simp [validateOperations]
  | cons operation rest ih =>
      rw [List.forall_mem_cons, ← validateOperation_ok_iff listed, ← ih]
      rw [validateOperations]
      cases validateOperation allowedDestinations treasuryAccountId operation with
      | error error => exact ⟨nofun, fun h => absurd h.1 nofun⟩
      | ok _ => exact (and_iff_right rfl).symm

theorem validateOperationsForTreasuryAccount_ok_iff {operations : List Operation}
    (listed : allowedDestinations ≠ [])
    : validateOperationsForTreasuryAccount allowedDestinations operations accountId
        treasuryAccountId = .ok ()
      ↔ (accountId = treasuryAccountId
        → ∀ operation ∈ operations, ¬ Unsafe allowedDestinations treasuryAccountId operation) := by
  unfold validateOperationsForTreasuryAccount
  by_cases same : accountId = treasuryAccountId
  · rw [if_neg (by simp [same]), validateOperations_ok_iff listed]
    simp [same]
  · simp [same]

-- The builder of transactions

/-- The account Horizon answers with: its id and the sequence number of its last transaction. -/
structure Account where
  accountId : String
  sequence : Nat

structure Timebounds where
  minTime : Nat
  maxTime : Nat

structure TransactionOptions where
  fee : Option String := none
  timebounds : Option Timebounds := none

/-- What the transaction builder is given. -/
structure Transaction where
  source : Account
  fee : String
  networkPassphrase : String
  timebounds : Option Timebounds
  operations : List Operation
  /-- The public keys it is signed with. -/
  signers : List String := []

/-- The calls of `buildTransaction`. `build` is that of the transaction builder, which refuses what
cannot be encoded.
-/
inductive StellarOp
  | canExecute
  | recordSuccess
  | recordFailure
  | loadAccount (accountId : String)
  | fetchBaseFee
  | build (transaction : Transaction)

abbrev StellarOp.Ret : StellarOp → Type
  | .canExecute => Bool
  | .recordSuccess | .recordFailure | .build _ => Unit
  | .loadAccount _ => Nat
  | .fetchBaseFee => Nat

abbrev stellarInterface : Interface where
  Op := StellarOp
  Ret := StellarOp.Ret
  Err := JsError

/-- Issues a call of the client. -/
abbrev ask (op : StellarOp) : Prog stellarInterface op.Ret :=
  Prog.await (I := stellarInterface) op

/-- A client and the configuration it reads. -/
structure StellarClient where
  treasuryAccountId : Option String
  /-- The variable `TREASURY_ALLOWED_DESTINATIONS`. -/
  treasuryAllowedDestinations : Option String
  /-- The public key of its keypair. -/
  keypair : Option String
  networkPassphrase : String
  useDynamicFees : Bool
  baseFeeStroops : Nat

def breakerOpen : JsError := .error "Horizon circuit breaker is OPEN — skipping request"

/-- `getAccount` with the attempts that are left. -/
def getAccount (accountId : String) : Nat → Prog stellarInterface Account
  | 0 => .fail (.error "Failed to load account")
  | attempts + 1 =>
      catchWith
        (do
          let allowed ← ask .canExecute
          ensure allowed breakerOpen
          let sequence ← ask (.loadAccount accountId)
          ask .recordSuccess
          pure { accountId, sequence })
        (fun error => do
          ask .recordFailure
          if attempts = 0 then .fail error else getAccount accountId attempts)

/-- The base fee of the network, if it can be asked for. -/
def dynamicFee (client : StellarClient) : Prog stellarInterface (Option String) :=
  if client.useDynamicFees then
    catchWith
      (do
        let allowed ← ask .canExecute
        if allowed then do
          let baseFee ← ask .fetchBaseFee
          ask .recordSuccess
          pure (some (toString baseFee))
        else pure none)
      (fun _ => do
        ask .recordFailure
        pure none)
  else pure none

def transactionFee (client : StellarClient) (options : TransactionOptions)
    : Prog stellarInterface String :=
  match options.fee.filter (· ≠ "") with
  | some fee => pure fee
  | none => do
      let fee ← dynamicFee client
      pure (fee.getD (toString client.baseFeeStroops))

/-- The guard in front of the builder, where a treasury is configured. -/
def checkTreasury (client : StellarClient) (sourceAccountId : String) (operations : List Operation)
    : Except JsError Unit :=
  match client.treasuryAccountId.filter (· ≠ "") with
  | none => .ok ()
  | some treasuryAccountId =>
      validateOperationsForTreasuryAccount
        (getTreasuryAllowedDestinations client.treasuryAllowedDestinations) operations
          sourceAccountId
        treasuryAccountId

/-- The transaction that is built and signed. -/
def StellarClient.assemble (client : StellarClient) (options : TransactionOptions)
    (operations : List Operation) (source : Account) (fee : String)
    : Transaction where
  source := source
  fee := fee
  networkPassphrase := client.networkPassphrase
  timebounds := options.timebounds
  operations := operations

def buildTransaction (client : StellarClient) (sourceAccountId : String)
    (operations : List Operation)
    (options : TransactionOptions)
    : Prog stellarInterface Transaction := do
  fromExcept (checkTreasury client sourceAccountId operations)
  let sourceAccount ← getAccount sourceAccountId 3
  let fee ← transactionFee client options
  let transaction := client.assemble options operations sourceAccount fee
  ask (.build transaction)
  pure { transaction with signers := client.keypair.toList }

-- What is built

/-- What the environment answers a call with. -/
structure Choice where
  outcome : Outcome JsError := .done
  allowed : Bool := true
  number : Nat := 0

def effect (x : Choice) (w : Unit) : (op : StellarOp) → Except JsError op.Ret × Unit
  | .canExecute => (.ok x.allowed, w)
  | .recordSuccess | .recordFailure | .build _ => (.ok (), w)
  | .loadAccount _ | .fetchBaseFee => (.ok x.number, w)

/-- Horizon, the breaker and the builder answer as they like. -/
def stellarSemantics : Semantics stellarInterface Unit Choice :=
  Environment.semantics
    { outcome := Choice.outcome
      effect := effect
      admissible := fun _ _ _ => true }

variable {client : StellarClient} {sourceAccountId : String} {operations : List Operation}
  {options : TransactionOptions} {i : Nat}

theorem wlp_after {α β : Type} {prog : Prog stellarInterface α} {f : α → Prog stellarInterface β}
    {Q : β → Unit → Prop}
    (h : ∀ value, stellarSemantics.wlp i (f value) () Q (fun _ _ => True))
    : stellarSemantics.wlp i (prog >>= f) () Q (fun _ _ => True) := by
  have ends : stellarSemantics.wlp i prog () (fun _ _ => True) (fun _ _ => True) :=
    Semantics.wlp_of_kept (R := fun _ _ => True) (fun _ => trivial) (fun _ _ => trivial)
      (fun _ _ _ _ _ _ => trivial)
  rw [Semantics.wlp_bind]
  exact Semantics.wlp_mono ends (fun value _ _ => h value) (fun _ _ _ => trivial)

theorem wlp_getAccount {accountId : String} {attempts : Nat}
    : stellarSemantics.wlp i (getAccount accountId attempts) ()
        (fun (account : Account) _ => account.accountId = accountId) (fun _ _ => True) := by
  induction attempts with
  | zero => trivial
  | succ attempts ih =>
      unfold getAccount
      rw [Semantics.wlp_catchWith]
      have loaded : stellarSemantics.wlp i
          (do
            let allowed ← ask .canExecute
            ensure allowed breakerOpen
            let sequence ← ask (.loadAccount accountId)
            ask .recordSuccess
            pure { accountId, sequence })
          () (fun (account : Account) _ => account.accountId = accountId) (fun _ _ => True) :=
        wlp_after fun _ => wlp_after fun _ => wlp_after fun _ => wlp_after fun _ => rfl
      refine Semantics.wlp_mono loaded (fun _ _ named => named) (fun error _ _ => ?_)
      refine wlp_after fun _ => ?_
      split
      · trivial
      · exact ih

/-- What is built comes from the source asked for, contains the operations in their order, and has
passed the guard.
-/
theorem built {transaction : Transaction} {w w' : Unit}
    (evaluates : (buildTransaction client sourceAccountId operations options).Evaluates
      stellarSemantics i w
      (.ok transaction) w')
    : checkTreasury client sourceAccountId operations = .ok ()
      ∧ transaction.source.accountId = sourceAccountId ∧ transaction.operations = operations
      ∧ transaction.signers = client.keypair.toList := by
  have judged : stellarSemantics.wlp i (buildTransaction client sourceAccountId operations
    options) ()
      (fun transaction _ => checkTreasury client sourceAccountId operations = .ok ()
        ∧ transaction.source.accountId = sourceAccountId ∧ transaction.operations = operations
        ∧ transaction.signers = client.keypair.toList)
      (fun _ _ => True) := by
    unfold buildTransaction
    rw [Semantics.wlp_bind, Semantics.wlp_fromExcept]
    refine ⟨fun _ passed => ?_, fun _ _ => trivial⟩
    rw [Semantics.wlp_bind]
    refine Semantics.wlp_mono wlp_getAccount (fun account _ named => ?_) (fun _ _ _ => trivial)
    exact wlp_after fun fee => wlp_after fun _ => ⟨passed, named, rfl, rfl⟩
  have known := Semantics.wlp_value judged evaluates
  exact known

def answering : (op : StellarOp) → stellarInterface.Reply op
  | .canExecute => .ok true
  | .recordSuccess | .recordFailure | .build _ => .ok ()
  | .loadAccount _ | .fetchBaseFee => .ok 0

theorem exists_built (options : TransactionOptions)
    (passed : checkTreasury client sourceAccountId operations = .ok ())
    : ∃ transaction,
        (buildTransaction client sourceAccountId operations options).Evaluates stellarSemantics i ()
          (.ok transaction) () := by
  have result : ∃ transaction,
      (buildTransaction client sourceAccountId operations options).answered answering
        = .ok transaction := by
    have loaded : (getAccount sourceAccountId 3).answered answering
        = .ok { accountId := sourceAccountId, sequence := 0 } :=
      rfl
    obtain ⟨fee, charged⟩ : ∃ fee,
        (transactionFee client options).answered answering = .ok fee := by
      unfold transactionFee dynamicFee
      split
      · exact ⟨_, rfl⟩
      · split
        · exact ⟨_, rfl⟩
        · exact ⟨_, rfl⟩
    unfold buildTransaction
    simp only [answered_bind, answered_fromExcept, passed, loaded, charged, Except.bind]
    exact ⟨_, rfl⟩
  obtain ⟨transaction, answered⟩ := result
  refine ⟨transaction, answered ▸ evaluates_answered_all fun op => ?_⟩
  cases op <;> exact ⟨{}, rfl⟩

-- The operations of the treasury

/-- The account an operation runs as. -/
def Operation.effectiveSource (operation : Operation) (transactionSource : String) : String :=
  operation.source.getD transactionSource

/-- No transaction that is built and signed makes the treasury run an unsafe operation. -/
def TreasuryGuarded (client : StellarClient) (treasuryAccountId sourceAccountId : String)
    (operations : List Operation) (options : TransactionOptions)
    : Prop :=
  ∀ transaction,
    (buildTransaction client sourceAccountId operations options).Evaluates stellarSemantics 0 ()
      (.ok transaction) () →
    transaction.signers ≠ [] →
    ∀ operation ∈ transaction.operations,
      operation.effectiveSource transaction.source.accountId = treasuryAccountId →
      ¬ Unsafe (getTreasuryAllowedDestinations client.treasuryAllowedDestinations) treasuryAccountId
        operation

/-- A client that signs keeps the treasury from unsafe operations exactly when the treasury is the
source of the whole transaction, or no operation that names it as its own source is unsafe.
-/
theorem treasuryGuarded_iff {treasuryAccountId : String}
    (configured : client.treasuryAccountId = some treasuryAccountId)
    (nonempty : treasuryAccountId ≠ "")
    (listed : getTreasuryAllowedDestinations client.treasuryAllowedDestinations ≠ [])
    (signs : client.keypair.isSome = true)
    : TreasuryGuarded client treasuryAccountId sourceAccountId operations options
      ↔ sourceAccountId = treasuryAccountId
        ∨ ∀ operation ∈ operations, operation.source = some treasuryAccountId →
          ¬ Unsafe (getTreasuryAllowedDestinations client.treasuryAllowedDestinations)
            treasuryAccountId
            operation := by
  have checked : checkTreasury client sourceAccountId operations = .ok ()
      ↔ (sourceAccountId = treasuryAccountId → ∀ operation ∈ operations,
        ¬ Unsafe (getTreasuryAllowedDestinations client.treasuryAllowedDestinations)
          treasuryAccountId
          operation) := by
    have guarded : client.treasuryAccountId.filter (· ≠ "") = some treasuryAccountId := by
      simp [configured, Option.filter, nonempty]
    unfold checkTreasury
    rw [guarded]
    exact validateOperationsForTreasuryAccount_ok_iff listed
  constructor
  · intro guarded
    by_cases own : sourceAccountId = treasuryAccountId
    · exact .inl own
    · refine .inr fun operation member source => ?_
      -- the guard has nothing to check, so that the transaction is built
      obtain ⟨transaction, evaluates⟩ := exists_built (i := 0) options
        (checked.mpr fun same => absurd same own)
      obtain ⟨-, -, same, signers⟩ := built evaluates
      refine guarded transaction evaluates ?_ operation (same ▸ member)
        (by simp [Operation.effectiveSource, source])
      obtain ⟨key, signed⟩ := Option.isSome_iff_exists.mp signs
      simp [signers, signed]
  · rintro safe transaction evaluates - operation member effective
    obtain ⟨passed, source, rfl, -⟩ := built evaluates
    rcases safe with own | named
    · exact checked.mp passed own operation member
    · rw [source] at effective
      cases own : operation.source with
      | none =>
          rw [Operation.effectiveSource, own] at effective
          exact checked.mp passed effective operation member
      | some account =>
          rw [Operation.effectiveSource, own] at effective
          exact named operation member (own.trans (congrArg some effective))

def guardedClient : StellarClient where
  treasuryAccountId := some "TREASURY"
  treasuryAllowedDestinations := some "APPROVED"
  keypair := some "PLATFORM"
  networkPassphrase := "Test SDF Network ; September 2015"
  useDynamicFees := false
  baseFeeStroops := 100

/-- A payment out of the treasury to an account that is not approved. -/
def drain : Operation where
  type := "payment"
  source := some "TREASURY"
  destination := some "ATTACKER"

theorem treasuryGuarded_iff_sample
    : TreasuryGuarded guardedClient "TREASURY" "PLATFORM"
        [{ drain with destination := some "APPROVED" }] {}
      ↔ "PLATFORM" = "TREASURY"
        ∨ ∀ operation ∈ [{ drain with destination := some "APPROVED" }],
          operation.source = some "TREASURY" →
            ¬ Unsafe (getTreasuryAllowedDestinations (some "APPROVED")) "TREASURY" operation :=
  treasuryGuarded_iff rfl (by decide) (by decide +kernel) rfl

/-- A transaction of another account carries a payment out of the treasury past the guard. -/
theorem drain_built
    : ∃ transaction,
        (buildTransaction guardedClient "PLATFORM" [drain] {}).Evaluates stellarSemantics 0 ()
        (.ok transaction) ()
        ∧ transaction.signers = ["PLATFORM"]
        ∧ transaction.operations = [drain]
        ∧ drain.effectiveSource transaction.source.accountId = "TREASURY"
        ∧ Unsafe (getTreasuryAllowedDestinations guardedClient.treasuryAllowedDestinations)
          "TREASURY" drain
        ∧ ¬ TreasuryGuarded guardedClient "TREASURY" "PLATFORM" [drain] {} := by
  obtain ⟨transaction, evaluates⟩ := exists_built (i := 0) {}
    (show checkTreasury guardedClient "PLATFORM" [drain] = .ok () by rfl)
  obtain ⟨-, source, same, signers⟩ := built evaluates
  have unapproved : Unsafe (getTreasuryAllowedDestinations
    guardedClient.treasuryAllowedDestinations) "TREASURY"
      drain :=
    .inr (.inr ⟨"ATTACKER", by decide, by decide, by decide +kernel⟩)
  refine ⟨transaction, evaluates, signers, same, rfl, unapproved, fun guarded => ?_⟩
  exact guarded transaction evaluates (by simp [signers, guardedClient]) drain
    (by simp [same]) rfl unapproved

end AcbuBackend.Stellar
