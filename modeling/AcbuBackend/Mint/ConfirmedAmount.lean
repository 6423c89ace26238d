import AcbuBackend.Mint.MintSteps

/-! The amount a confirmation mints.
`confirmMint` converts the amount and the currency of its body. What the deposit recorded in
the row is never read, so the two agree exactly when the body repeats it.
-/

namespace AcbuBackend.Mint

open Effects AcbuBackend.Runtime AcbuBackend.Units Rates

variable {dep : Deployment} {requests : List MintRequest}

-- What a deposit recorded

/-- The currency and the amount in a row. -/
def Transaction.deposit? (row : Transaction) : Option (String × ℚ) :=
  row.localCurrency.bind (fun currency => row.localAmount.map (fun amount => (currency, amount)))

/-- The deposit recorded for a row. -/
def World.depositOf (w : World) (id : TxId) : Option (String × ℚ) :=
  (w.transactions.lookup id).bind Transaction.deposit?

@[simp] theorem deposit?_apply {row : Transaction} {data : TransactionUpdate}
    : (row.apply data).deposit? = row.deposit? :=
  rfl

theorem depositOf_put_self {w : World} {id : TxId} {row : Transaction}
    : (w.put id row).depositOf id = row.deposit? := by
  simp [World.depositOf, World.put]

theorem depositOf_put_of_ne {w : World} {id other : TxId} {row : Transaction} (h : other ≠ id)
    : (w.put id row).depositOf other = w.depositOf other := by
  simp [World.depositOf, World.put, AList.lookup_insert_ne h]

theorem Updated.depositOf {w w' : World} {id : TxId} {data : TransactionUpdate}
    (h : Updated w w' id data) (other : TxId)
    : w'.depositOf other = w.depositOf other := by
  rcases h with rfl | ⟨row, found, rfl⟩
  · rfl
  · by_cases same : other = id
    · subst same
      rw [depositOf_put_self, deposit?_apply]
      simp [World.depositOf, found]
    · exact depositOf_put_of_ne same

theorem MintMove.depositOf {request : MintRequest} {x : Choice} {w w' : World}
    {event : Event mintInterface} {stage stage' : Stage}
    (h : MintMove dep request x w w' event stage stage') {id : TxId} (known : id ∈ w.transactions)
    : id ∈ w'.transactions ∧ w'.depositOf id = w.depositOf id := by
  have created : ∀ data : Transaction, x.freshId ∉ w.transactions →
      id ∈ (w.put x.freshId data).transactions
      ∧ (w.put x.freshId data).depositOf id = w.depositOf id := by
    intro data fresh
    refine ⟨mem_put.mpr (.inr known), depositOf_put_of_ne ?_⟩
    rintro rfl
    exact fresh known
  have updated : ∀ {other data}, Updated w w' other data →
      id ∈ w'.transactions ∧ w'.depositOf id = w.depositOf id := by
    intro other data left
    refine ⟨?_, left.depositOf id⟩
    rcases left with rfl | ⟨row, _, rfl⟩
    · exact known
    · exact mem_put.mpr (.inr known)
  cases h with
  | read | verify | auditLost => exact ⟨known, rfl⟩
  | create data _ fresh => exact created data fresh
  | createLost data _ _ _ fresh left =>
      rcases left with rfl | rfl
      · exact ⟨known, rfl⟩
      · exact created data fresh
  | claim _ _ row _ _ _ found | complete _ _ row _ _ _ _ found =>
      exact updated (.inr ⟨row, found, rfl⟩)
  | claimLost _ _ _ _ _ left | fail _ _ _ _ _ _ _ left
  | completeLost _ _ _ _ _ _ _ _ _ left =>
      exact updated left
  | mint => exact ⟨known, rfl⟩
  | mintLost _ _ _ _ _ _ _ left =>
      rcases left with rfl | ⟨-, rfl⟩ <;> exact ⟨known, rfl⟩
  | redeem _ _ _ _ _ _ left =>
      rcases left with rfl | rfl <;> exact ⟨known, rfl⟩

-- What a confirmation mints

/-- A body names the currency and the amount of the deposit recorded for a row. -/
def NamesRecorded (w : World) (body : ParsedConfirm) (id : TxId) : Prop :=
  ∃ amount, parseMonetaryString body.amount "amount" = .ok amount
    ∧ w.depositOf id = some (body.currency, amount)

/-- A confirmation mints `units` as it should: its body names the recorded deposit, and the
units are the conversion of that deposit at a rate the confirmation has read.
-/
structure MintsRecorded (c : MintConfig) (i : Nat) (body : ParsedConfirm) (units : ℤ)
    (id : TxId) : Prop where
  named : NamesRecorded c.world body id
  converted : ∃ currency amount latestRate result,
    c.world.depositOf id = some (currency, amount)
    ∧ (⟨.getLatestAcbuRate, .ok latestRate⟩ : Event mintInterface) ∈ c.past i
    ∧ convertAtRate latestRate amount currency = .ok result
    ∧ stringToBigInt (unitsText result.acbuEquivalent) = .ok units

def ConfirmRequest.units? (req : ConfirmRequest) (latestRate : Option AcbuRate) : Option ℤ :=
  match mintConfirmBodySchema req.body with
  | .error _ => none
  | .ok body =>
      match parseMonetaryString body.amount "amount" with
      | .error _ => none
      | .ok amount =>
          (convertAtRate latestRate amount body.currency).toOption.bind
            (fun result => (stringToBigInt (unitsText result.acbuEquivalent)).toOption)

/-- A request and the rates it has read. -/
structure RatesRead where
  request : MintRequest
  rates : List (Option AcbuRate)

def RatesRead.allows (phase : RatesRead) (call : ContractCall) : Bool :=
  match phase.request, call with
  | .confirm req, .mintFromBasket _ _ units =>
      phase.rates.any (fun latestRate => req.units? latestRate = some units)
  | .confirm _, _ => false
  | _, _ => true

def conversionProtocol : Protocol mintInterface RatesRead where
  next phase
  | .getLatestAcbuRate, reply =>
      match reply with
      | .ok latestRate => some { phase with rates := latestRate :: phase.rates }
      | .error _ => some phase
  | .invokeContract _ call _, _ => if phase.allows call then some phase else none
  | _, _ => some phase

def ratesStart (requests : List MintRequest) (i : Nat) : RatesRead :=
  { request := requestAt requests i, rates := [] }

section

variable {req : ConfirmRequest} {rates : List (Option AcbuRate)}

theorem wp_invokeMint_conversion {row : TxId} {user recipient acbuAmount : String}
    {Q : ContractResult → RatesRead → Prop} {E : JsError → RatesRead → Prop}
    (allowed : ∀ units, stringToBigInt acbuAmount = .ok units →
      rates.any (fun latestRate => req.units? latestRate = some units) = true)
    (hQ : ∀ result, Q result ⟨.confirm req, rates⟩) (hE : ∀ error, E error ⟨.confirm req, rates⟩)
    : conversionProtocol.wp (mintFromBasket row user recipient acbuAmount) ⟨.confirm req, rates⟩
        Q E := by
  have marked : ∀ error, conversionProtocol.wp (markTransactionFailed (some row))
      ⟨.confirm req, rates⟩
      (fun _ phase => conversionProtocol.wp (.fail error : Prog mintInterface ContractResult)
        phase Q E) E := by
    intro error
    simp [markTransactionFailed, conversionProtocol, hE]
  unfold mintFromBasket invokeMint
  simp only [Protocol.wp_catchWith, Protocol.wp_bind, Protocol.wp_await, Protocol.wp_orThrow,
    Protocol.wp_fromExcept]
  refine ⟨fun publicKey => ⟨_, rfl, fun sourceAccount _ => ⟨fun units converted => ?_, ?_⟩, ?_⟩,
    fun error => ⟨_, rfl, marked error⟩⟩
  · have accounted : ∀ reply, conversionProtocol.next ⟨.confirm req, rates⟩
        (.invokeContract sourceAccount (.mintFromBasket user recipient units) row) reply
        = some ⟨.confirm req, rates⟩ := by
      intro reply
      simp [conversionProtocol, RatesRead.allows, allowed units converted]
    exact ⟨fun result => ⟨_, accounted _, hQ result⟩, fun error => ⟨_, accounted _, marked error⟩⟩
  · exact fun error _ => marked error
  · exact fun _ => marked noSourceAccount

theorem wp_mintConfirmed_conversion {body : ParsedConfirm} {sourceAccount userWallet : String}
    {acbuAmount : ℚ}
    (allowed : ∀ units, stringToBigInt (unitsText acbuAmount) = .ok units →
      rates.any (fun latestRate => req.units? latestRate = some units) = true)
    : conversionProtocol.wp (mintConfirmed body sourceAccount userWallet acbuAmount)
        ⟨.confirm req, rates⟩ (fun _ _ => True) (fun _ _ => True) := by
  unfold mintConfirmed
  simp only [Protocol.wp_catchWith, Protocol.wp_bind]
  apply wp_invokeMint_conversion allowed
  · intro result
    simp [conversionProtocol]
  · intro error
    simp [conversionProtocol]

theorem wp_confirmPending_conversion {body : ParsedConfirm} {tx : Transaction}
    (parsed : mintConfirmBodySchema req.body = .ok body)
    : conversionProtocol.wp (confirmPending body tx) ⟨.confirm req, []⟩
        (fun _ _ => True) (fun _ _ => True) := by
  unfold confirmPending convertLocal
  simp only [Protocol.wp_bind, Protocol.wp_ensure, Protocol.wp_orThrow, Protocol.wp_fromExcept,
    Protocol.wp_await, implies_true, and_true]
  refine fun _ => ⟨fun paused => ⟨_, rfl, fun _ => ?_⟩, fun _ => ⟨_, rfl⟩⟩
  refine ⟨fun wallet => ⟨_, rfl, fun userWallet _ amount money => ?_⟩, fun _ => ⟨_, rfl⟩⟩
  refine fun _ => ⟨fun latestRate => ⟨_, rfl, fun result converted => ?_⟩, fun _ => ⟨_, rfl⟩⟩
  refine ⟨fun publicKey => ⟨_, rfl, fun sourceAccount _ _ => ?_⟩, fun _ => ⟨_, rfl⟩⟩
  refine ⟨fun _ => ⟨_, rfl, wp_mintConfirmed_conversion fun units read => ?_⟩, fun _ => ⟨_, rfl⟩⟩
  simp [ConfirmRequest.units?, parsed, money, converted, read, Except.toOption]

theorem wp_confirm_conversion
    : conversionProtocol.wp (confirmRoute dep req) ⟨.confirm req, []⟩
        (fun _ _ => True) (fun _ _ => True) := by
  unfold confirmRoute verifyMintConfirmationSignature confirmMint
  simp only [Protocol.wp_bind, Protocol.wp_fromExcept, Protocol.wp_await, Protocol.wp_ite,
    Protocol.wp_orThrow, Protocol.wp_pure, implies_true, and_true, true_and]
  rintro ⟨secret, tsNum⟩ _
  refine ⟨fun nowS => ⟨_, rfl, fun verified _ _ body parsed => ?_⟩, fun _ => ⟨_, rfl⟩⟩
  refine ⟨fun found => ⟨_, rfl, fun tx _ _ => ?_⟩, fun _ => ⟨_, rfl⟩⟩
  exact wp_confirmPending_conversion parsed

theorem conversionProtocol_total (phase : RatesRead) (op : MintOp)
    (reply : mintInterface.Reply op) (other : phase.request.isConfirm = false)
    : ∃ phase', conversionProtocol.next phase op reply = some phase'
        ∧ phase'.request.isConfirm = false := by
  obtain ⟨request, rates⟩ := phase
  cases op with
  | getLatestAcbuRate =>
      cases reply with
      | error _ => exact ⟨_, rfl, other⟩
      | ok latestRate => exact ⟨_, rfl, other⟩
  | invokeContract sourceAccount call id =>
      have free : RatesRead.allows ⟨request, rates⟩ call = true := by
        cases request with
        | confirm _ => cases other
        | deposit _ | usdc _ => rfl
      exact ⟨⟨request, rates⟩, by simp [conversionProtocol, free], other⟩
  | _ => exact ⟨_, rfl, other⟩

theorem wp_program_conversion (dep : Deployment) (request : MintRequest)
    : conversionProtocol.wp (request.program dep) ⟨request, []⟩
        (fun _ _ => True) (fun _ _ => True) := by
  cases request with
  | confirm req => exact wp_confirm_conversion
  | deposit _ | usdc _ => exact Protocol.wp_of_total _ conversionProtocol_total rfl

theorem conversion_next {phase phase' : RatesRead} {op : MintOp} {reply : mintInterface.Reply op}
    (h : conversionProtocol.next phase op reply = some phase')
    : phase'.request = phase.request
      ∧ (∀ latestRate ∈ phase'.rates,
          latestRate ∈ phase.rates
          ∨ (⟨op, reply⟩ : Event mintInterface) = ⟨.getLatestAcbuRate, .ok latestRate⟩)
      ∧ ∀ sourceAccount call id, op = .invokeContract sourceAccount call id →
          phase.allows call = true := by
  cases op with
  | getLatestAcbuRate =>
      cases reply with
      | error _ =>
          obtain rfl := Option.some.inj h
          exact ⟨rfl, fun _ before => .inl before, by simp⟩
      | ok read =>
          obtain rfl := Option.some.inj h
          refine ⟨rfl, ?_, by simp⟩
          intro latestRate member
          rcases List.mem_cons.mp member with rfl | before
          · exact .inr rfl
          · exact .inl before
  | invokeContract sourceAccount call id =>
      simp only [conversionProtocol] at h
      split at h
      · rename_i allowed
        obtain rfl := Option.some.inj h
        refine ⟨rfl, fun _ before => .inl before, ?_⟩
        intro _ _ _ invoked
        cases invoked
        exact allowed
      · cases h
  | _ =>
      obtain rfl := Option.some.inj h
      exact ⟨rfl, fun _ before => .inl before, by simp⟩

theorem replay_conversion {start phase : RatesRead} {past : List (Event mintInterface)}
    (h : conversionProtocol.replay start past = some phase) (fresh : start.rates = [])
    : phase.request = start.request
      ∧ (∀ latestRate ∈ phase.rates,
          (⟨.getLatestAcbuRate, .ok latestRate⟩ : Event mintInterface) ∈ past)
      ∧ ∀ event ∈ past, ∀ sourceAccount call id,
          event.op = .invokeContract sourceAccount call id →
          ∃ rates : List (Option AcbuRate),
            (∀ latestRate ∈ rates,
              (⟨.getLatestAcbuRate, .ok latestRate⟩ : Event mintInterface) ∈ past)
            ∧ RatesRead.allows ⟨start.request, rates⟩ call = true := by
  induction past generalizing phase with
  | nil =>
      obtain rfl := Option.some.inj h
      exact ⟨rfl, by simp [fresh], by simp⟩
  | cons event older ih =>
      obtain ⟨before, replayed, moved⟩ := Option.bind_eq_some_iff.mp h
      obtain ⟨request, read, calls⟩ := ih replayed
      obtain ⟨sameRequest, rates, allows⟩ := conversion_next moved
      refine ⟨sameRequest.trans request, ?_, ?_⟩
      · intro latestRate member
        rcases rates latestRate member with known | same
        · exact List.mem_cons_of_mem _ (read latestRate known)
        · exact List.mem_cons.mpr (.inl same.symm)
      · intro performed member sourceAccount call id invoked
        rcases List.mem_cons.mp member with rfl | earlier
        · refine ⟨before.rates, fun rate known => List.mem_cons_of_mem _ (read rate known), ?_⟩
          rw [← request]
          exact allows sourceAccount call id invoked
        · obtain ⟨known, inPast, allowed⟩ := calls performed earlier sourceAccount call id invoked
          exact ⟨known, fun rate member => List.mem_cons_of_mem _ (inPast rate member), allowed⟩

end

theorem units?_eq_some {req : ConfirmRequest} {body : ParsedConfirm} {amount : ℚ}
    {latestRate : Option AcbuRate} {units : ℤ}
    (h : req.units? latestRate = some units) (parsed : mintConfirmBodySchema req.body = .ok body)
    (money : parseMonetaryString body.amount "amount" = .ok amount)
    : ∃ result, convertAtRate latestRate amount body.currency = .ok result
        ∧ stringToBigInt (unitsText result.acbuEquivalent) = .ok units := by
  unfold ConfirmRequest.units? at h
  rw [parsed] at h
  simp only [money] at h
  cases converted : convertAtRate latestRate amount body.currency with
  | error _ => simp [converted, Except.toOption] at h
  | ok result =>
      rw [converted] at h
      refine ⟨result, rfl, ?_⟩
      cases read : stringToBigInt (unitsText result.acbuEquivalent) with
      | error _ => simp [read, Except.toOption] at h
      | ok _ =>
          simp only [read, Except.toOption, Option.bind_some] at h
          rw [Option.some.inj h]

/-- In every run, the units a confirmation asks the contract for are the conversion of its
body at a rate it has read.
-/
theorem units_of_confirm {transactions : AList (fun _ : TxId => Transaction)} {c : MintConfig}
    {i : Nat}
    {req : ConfirmRequest} {reply : Except JsError ContractResult}
    {sourceAccount user recipient : String} {units : ℤ} {id : TxId}
    (reached : Config.Reaches mintSemantics Config.anyStep
      (initialConfig dep requests transactions) c)
    (request : requests[i]? = some (.confirm req))
    (issued : (⟨.invokeContract sourceAccount (.mintFromBasket user recipient units) id, reply⟩
        : Event mintInterface) ∈ c.past i)
    : ∃ latestRate,
        (⟨.getLatestAcbuRate, .ok latestRate⟩ : Event mintInterface) ∈ c.past i
        ∧ req.units? latestRate = some units := by
  have governed : conversionProtocol.Governs (ratesStart requests) (fun _ _ _ => True)
      (fun _ _ _ => True) (initialConfig dep requests transactions) := by
    apply Protocol.governs_initial
    intro j prog found
    rw [List.getElem?_map, Option.map_eq_some_iff] at found
    obtain ⟨other, found, rfl⟩ := found
    simp only [ratesStart, requestAt, found, Option.getD_some]
    exact wp_program_conversion dep other
  have follows := (Protocol.Governs.invariant (J := fun _ => True) governed trivial
    (fun _ _ _ _ _ _ _ _ => trivial) reached).1
  cases found : c.threads[i]? with
  | none =>
      simp [Config.past, found] at issued
  | some thread =>
      have history : c.past i = thread.past := by simp [Config.past, found]
      rw [history] at issued ⊢
      obtain ⟨replayed, -⟩ := follows.phase_eq found
      obtain ⟨-, -, calls⟩ := replay_conversion replayed rfl
      obtain ⟨rates, known, allowed⟩ := calls _ issued sourceAccount _ id rfl
      simp only [ratesStart, requestAt, request, Option.getD_some, RatesRead.allows] at allowed
      obtain ⟨latestRate, member, accounts⟩ := List.any_eq_true.mp allowed
      exact ⟨latestRate, known latestRate member, by simpa using accounts⟩

/-- A confirmation that reaches the contract call for a row mints what the deposit recorded
exactly when its body names the currency and the amount of the deposit.
-/
theorem mintsRecorded_iff (dep : Deployment) (requests : List MintRequest)
    (transactions : AList (fun _ : TxId => Transaction)) (c : MintConfig) (i : Nat)
    (req : ConfirmRequest) (body : ParsedConfirm) (reply : Except JsError ContractResult)
    (sourceAccount user recipient : String) (units : ℤ) (id : TxId)
    (reached : Config.Reaches mintSemantics Config.anyStep
      (initialConfig dep requests transactions) c)
    (request : requests[i]? = some (.confirm req))
    (parsed : mintConfirmBodySchema req.body = .ok body)
    (issued : (⟨.invokeContract sourceAccount (.mintFromBasket user recipient units) id, reply⟩
        : Event mintInterface) ∈ c.past i)
    : MintsRecorded c i body units id ↔ NamesRecorded c.world body id := by
  constructor
  · exact fun h => h.named
  · intro named
    refine ⟨named, ?_⟩
    obtain ⟨amount, money, recorded⟩ := named
    obtain ⟨latestRate, read, accounts⟩ := units_of_confirm reached request issued
    obtain ⟨result, converted, same⟩ := units?_eq_some accounts parsed money
    exact ⟨body.currency, amount, latestRate, result, recorded, read, converted, same⟩

-- A deposit of 100 NGN and its confirmation

/-- A call of `mint_from_basket`. -/
structure BasketMint where
  sourceAccount : String
  user : String
  recipient : String
  units : ℤ
  id : TxId
deriving DecidableEq

def BasketMint.op (mint : BasketMint) : MintOp :=
  .invokeContract mint.sourceAccount (.mintFromBasket mint.user mint.recipient mint.units) mint.id

def basketMint? (event : Event mintInterface) : Option BasketMint :=
  match event.op with
  | .invokeContract sourceAccount (.mintFromBasket user recipient units) id =>
      some ⟨sourceAccount, user, recipient, units, id⟩
  | _ => none

theorem issued_of_basketMint? {past : List (Event mintInterface)} {mint : BasketMint}
    (h : mint ∈ past.filterMap basketMint?)
    : ∃ reply, (⟨mint.op, reply⟩ : Event mintInterface) ∈ past := by
  obtain ⟨⟨op, reply⟩, member, read⟩ := List.mem_filterMap.mp h
  simp only [basketMint?] at read
  split at read
  · cases read
    exact ⟨reply, member⟩
  · cases read

/-- The deposit as far as its row, and then the confirmation. -/
def sampleSchedule : List (Nat × Choice) :=
  List.replicate 5 (0, sampleChoice) ++ List.replicate 9 (1, sampleChoice)

def sampleConfirmed (amount : String) : ParsedConfirm where
  transactionId := "t1"
  partnerReference := "reference"
  amount := amount
  currency := "NGN"
  confirmedAt := 1

def sampleMint (units : ℤ) : BasketMint where
  sourceAccount := "operator"
  user := "operator"
  recipient := sampleWallet
  units := units
  id := "t1"

/-- A confirmation that repeats the 100 NGN of the deposit mints one ACBU. -/
theorem mintsRecorded_iff_repeated
    : ∃ c, Config.Reaches mintSemantics Config.anyStep
          (initialConfig sampleDeployment [.deposit sampleDeposit,
            .confirm (sampleConfirm "100")] ∅)
          c
        ∧ MintsRecorded c 1 (sampleConfirmed "100") 10000000 "t1" := by
  have executed :
      ((initialConfig sampleDeployment [.deposit sampleDeposit, .confirm (sampleConfirm "100")]
          ∅).run mintSemantics Config.anyStep sampleSchedule).map
        (fun c => ((c.past 1).filterMap basketMint?, c.world.depositOf "t1"))
        = some ([sampleMint 10000000], some ("NGN", 100)) := by
    decide +kernel
  obtain ⟨c, reached, read⟩ := Config.reaches_of_run executed
  obtain ⟨mints, recorded⟩ := Prod.mk.inj read
  obtain ⟨reply, issued⟩ := issued_of_basketMint? (by
    rw [mints]
    exact List.mem_singleton.mpr rfl)
  refine ⟨c, reached, (mintsRecorded_iff _ _ _ c 1 (sampleConfirm "100") (sampleConfirmed "100")
    reply _ _ _ _ _ reached rfl (by decide +kernel) issued).mpr ?_⟩
  exact ⟨100, by decide +kernel, recorded⟩

/-- A confirmation over 200 NGN mints two ACBU for the deposit of 100. -/
theorem not_mintsRecorded_raised
    : ∃ c reply, Config.Reaches mintSemantics Config.anyStep
          (initialConfig sampleDeployment [.deposit sampleDeposit,
            .confirm (sampleConfirm "200")] ∅)
          c
        ∧ mintConfirmBodySchema (sampleConfirm "200").body = .ok (sampleConfirmed "200")
        ∧ (⟨(sampleMint 20000000).op, reply⟩ : Event mintInterface) ∈ c.past 1
        ∧ c.world.depositOf "t1" = some ("NGN", 100)
        ∧ ¬ MintsRecorded c 1 (sampleConfirmed "200") 20000000 "t1" := by
  have executed :
      ((initialConfig sampleDeployment [.deposit sampleDeposit, .confirm (sampleConfirm "200")]
          ∅).run mintSemantics Config.anyStep sampleSchedule).map
        (fun c => ((c.past 1).filterMap basketMint?, c.world.depositOf "t1"))
        = some ([sampleMint 20000000], some ("NGN", 100)) := by
    decide +kernel
  obtain ⟨c, reached, read⟩ := Config.reaches_of_run executed
  obtain ⟨mints, recorded⟩ := Prod.mk.inj read
  obtain ⟨reply, issued⟩ := issued_of_basketMint? (by
    rw [mints]
    exact List.mem_singleton.mpr rfl)
  refine ⟨c, reply, reached, by decide +kernel, issued, recorded, ?_⟩
  rintro ⟨⟨amount, money, named⟩, -⟩
  rw [recorded] at named
  obtain rfl : (100 : ℚ) = amount := congrArg Prod.snd (Option.some.inj named)
  revert money
  decide +kernel

end AcbuBackend.Mint
