import AcbuBackend.Mint.MintSteps

/-! The ACBU a direct USDC mint issues, and what it records of it.
`mintFromUsdcInternal` burns what it minted when the completed row cannot be written, and
then writes that row again with the full amount. The amount is read from a double of the units.
-/

namespace AcbuBackend.Mint

open Effects AcbuBackend.Runtime AcbuBackend.Units

-- The ledger of a call

/-- What the calls of a mint have issued and burnt, in units of the contract, and what its
last write to the table recorded. `missed` counts the completing writes that reported an
error.
-/
structure Ledger where
  issued : ℤ := 0
  burned : ℤ := 0
  redeemed : Bool := false
  missed : Nat := 0
  recorded : Option (TxId × ℚ) := none

namespace Ledger

/-- A contract call that was applied: only what `recipient` was minted counts as issued. -/
def applied (ledger : Ledger) (recipient : String) (result : ContractResult)
    : ContractCall → Ledger
  | .mintFromUsdc _ _ holder | .mintFromBasket _ holder _ =>
      if holder = recipient then { ledger with issued := ledger.issued + result.result } else ledger
  | .redeemSingle _ _ acbuAmount _ _ =>
      { ledger with burned := ledger.burned + acbuAmount, redeemed := true }

def written (ledger : Ledger) (id : TxId) (data : TransactionUpdate) (ok : Bool) : Ledger :=
  if data.status = .completed then
    if ok then { ledger with recorded := data.acbuAmount.map (fun amount => (id, amount)) }
    else { ledger with missed := ledger.missed + 1, recorded := none }
  else { ledger with recorded := none }

def after (ledger : Ledger) (recipient : String) : (op : MintOp) → mintInterface.Reply op → Ledger
  | .invokeContract _ call _, reply =>
      match reply with
      | .ok result => ledger.applied recipient result call
      | .error _ => ledger
  | .updateTransaction id data, reply => ledger.written id data (Except.isOk reply)
  | .createTransaction _, _ => { ledger with recorded := none }
  | _, _ => ledger

/-- The ACBU `recipient` was issued, net of the burns. -/
def net (ledger : Ledger) : ℚ :=
  (ledger.issued - ledger.burned) / 10 ^ 7

end Ledger

/-- The ledger of the calls so far. -/
def ledgerOf (recipient : String) (past : List (Event mintInterface)) : Ledger :=
  past.foldr (fun event ledger => ledger.after recipient event.op event.reply) {}

def ledgerProtocol (recipient : String) : Protocol mintInterface Ledger :=
  .observer (fun ledger event => ledger.after recipient event.op event.reply)

@[simp] theorem ledgerProtocol_next {recipient : String} {ledger : Ledger} {op : MintOp}
    {reply : mintInterface.Reply op}
    : (ledgerProtocol recipient).next ledger op reply = some (ledger.after recipient op reply) :=
  rfl

-- The ledger along the program

/-- The ledger after `units` were minted and the row was not completed, with what was burnt
for them.
-/
def Ledger.compensating (units : ℤ) (burn : Option ℤ) : Ledger where
  issued := units
  burned := burn.getD 0
  redeemed := burn.isSome
  missed := 1

/-- What is burnt for `units` is their amount in ACBU, taken for units. -/
def Misread (units : ℤ) (burn : Option ℤ) : Prop :=
  ∀ burned ∈ burn, (burned : ℚ) = recordedAmount units

/-- The ledger of a mint that ends with a value: the row records all that was minted. -/
def Ledger.Answered (ledger : Ledger) (result : MintResult) : Prop :=
  ∃ id units, result = .minted id (recordedAmount units)
    ∧ (ledger
          = { issued := units, recorded := some (id, recordedAmount units) }
      ∨ ∃ burn, Misread units burn
          ∧ ledger
            = { Ledger.compensating units burn with
                recorded := some (id, recordedAmount units) })

/-- The ledger of a mint that ends with an error: nothing was minted, or the row could not be
completed twice.
-/
def Ledger.Thrown (ledger : Ledger) : Prop :=
  ledger = {}
  ∨ ∃ units burn, Misread units burn ∧ ledger = { Ledger.compensating units burn with missed := 2 }

section

variable {req : UsdcMintRequest} {id : TxId} {sourceAccount : String}

theorem misread_none {units : ℤ} : Misread units none := by
  simp [Misread]

theorem misread_of_toBigInt {units burned : ℤ}
    (h : toBigInt (recordedAmount units) = .ok burned)
    : Misread units (some burned) := by
  intro other read
  obtain rfl := Option.some.inj read
  exact toBigInt_ok h

theorem wp_mintFromUsdc_ledger {user recipient usdcAmount : String}
    : (ledgerProtocol recipient).wp (mintFromUsdc id user usdcAmount recipient) {}
        (fun result ledger => ledger = { issued := result.result })
        (fun _ ledger => ledger = {}) := by
  unfold mintFromUsdc invokeMint
  simp [markTransactionFailed, Ledger.after, Ledger.applied]

theorem wp_redeemSingle_ledger {user recipient currency key : String} {units : ℤ}
    {Q : ContractResult → Ledger → Prop} {E : JsError → Ledger → Prop}
    (hQ : ∀ result burn, Misread units burn → Q result (.compensating units burn))
    (hE : ∀ error, E error (.compensating units none))
    : (ledgerProtocol recipient).wp
        (redeemSingle id user user (toBigInt (recordedAmount units)) currency key)
        (.compensating units none) Q E := by
  unfold redeemSingle
  simp only [Protocol.wp_bind, Protocol.wp_ensure, Protocol.wp_orThrow, Protocol.wp_fromExcept,
    Protocol.wp_await, ledgerProtocol_next]
  refine ⟨fun _ => ⟨fun publicKey => ⟨_, rfl, fun source _ => ⟨fun burned read => ?_, ?_⟩, ?_⟩, ?_⟩,
    fun _ => hE _⟩
  · refine ⟨fun result => ⟨_, rfl, ?_⟩, fun error => ⟨_, rfl, hE error⟩⟩
    have burnt : Ledger.compensating units (some burned)
        = { Ledger.compensating units none with burned := 0 + burned, redeemed := true } := by
      simp [Ledger.compensating]
    have held := hQ result (some burned) (misread_of_toBigInt read)
    rw [burnt] at held
    exact held
  · exact fun error _ => hE error
  · exact fun _ => hE _
  · exact fun error => ⟨_, rfl, hE error⟩

theorem wp_completeUsdcMint_ledger {recipient : String} {result : ContractResult}
    : (ledgerProtocol recipient).wp (completeUsdcMint id sourceAccount result)
        { issued := result.result }
        (fun _ ledger => ledger.Answered (.minted id (recordedAmount result.result)))
        (fun _ ledger => ledger.Thrown) := by
  have again : ∀ burn, Misread result.result burn →
      (ledgerProtocol recipient).wp
        (ask (.updateTransaction id
          { status := .completed
            acbuAmount := some (recordedAmount result.result)
            blockchainTxHash := some result.transactionHash }))
        (.compensating result.result burn)
        (fun _ ledger => ledger.Answered (.minted id (recordedAmount result.result)))
        (fun _ ledger => ledger.Thrown) := by
    intro burn misread
    refine Protocol.wp_await.mpr ⟨fun _ => ⟨_, rfl, ?_⟩, fun _ => ⟨_, rfl, ?_⟩⟩
    · exact ⟨id, result.result, rfl, .inr ⟨burn, misread, rfl⟩⟩
    · exact .inr ⟨result.result, burn, misread, rfl⟩
  unfold completeUsdcMint
  simp only [Protocol.wp_catchWith, Protocol.wp_await]
  constructor
  · exact fun _ => ⟨_, rfl, id, result.result, rfl, .inl rfl⟩
  · intro _
    refine ⟨Ledger.compensating result.result none, rfl, ?_⟩
    simp only [Protocol.wp_bind, Protocol.wp_swallow, Protocol.wp_pure]
    exact wp_redeemSingle_ledger (fun _ burn misread => again burn misread)
      (fun _ => again none misread_none)

theorem Ledger.Thrown.written_failed {ledger : Ledger} {ok : Bool} (h : ledger.Thrown)
    : (ledger.written id { status := .failed } ok).Thrown := by
  rcases h with rfl | ⟨units, burn, misread, rfl⟩
  · exact .inl rfl
  · exact .inr ⟨units, burn, misread, rfl⟩

theorem wp_mintUsdc_ledger
    : (ledgerProtocol req.walletAddress).wp (mintUsdc req id sourceAccount) {}
        (fun result ledger => ledger.Answered result) (fun _ ledger => ledger.Thrown) := by
  unfold mintUsdc
  rw [Protocol.wp_catchWith]
  apply Protocol.wp_mono (Q := fun result ledger => ledger.Answered result)
    (E := fun _ ledger => ledger.Thrown)
  · rw [Protocol.wp_bind]
    apply Protocol.wp_mono wp_mintFromUsdc_ledger
    · rintro result _ rfl
      rw [Protocol.wp_bind]
      apply Protocol.wp_mono wp_completeUsdcMint_ledger
      · intro _ ledger answered
        simp only [Protocol.wp_bind, Protocol.wp_swallow, Protocol.wp_await, Protocol.wp_pure]
        exact ⟨fun _ => ⟨_, rfl, answered⟩, fun _ => ⟨_, rfl, answered⟩⟩
      · exact fun _ _ thrown => thrown
    · exact fun _ ledger untouched => .inl untouched
  · exact fun _ _ answered => answered
  · intro error ledger thrown
    have failed : ∀ ok, (ledger.written id { status := .failed } ok).Thrown :=
      fun _ => thrown.written_failed
    simp only [Protocol.wp_bind, Protocol.wp_await, Protocol.wp_swallow, ledgerProtocol_next]
    refine ⟨fun _ => ⟨_, rfl, ?_⟩, fun _ => ⟨_, rfl, failed false⟩⟩
    exact ⟨fun _ => ⟨_, rfl, failed true⟩, fun _ => ⟨_, rfl, failed true⟩⟩

theorem wp_usdc_ledger (req : UsdcMintRequest)
    : (ledgerProtocol req.walletAddress).wp (mintFromUsdcInternal req) {}
        (fun result ledger => ledger.Answered result) (fun _ ledger => ledger.Thrown) := by
  have untouched : Ledger.Thrown {} := .inl rfl
  unfold mintFromUsdcInternal
  simp only [Protocol.wp_bind, Protocol.wp_await, ledgerProtocol_next]
  refine ⟨fun id => ⟨_, rfl, ?_⟩, fun _ => ⟨_, rfl, untouched⟩⟩
  refine ⟨fun mintingAddress => ⟨_, rfl, ?_⟩, fun _ => ⟨_, rfl, untouched⟩⟩
  rw [Protocol.wp_ite]
  constructor
  · intro _
    simp only [Protocol.wp_bind, Protocol.wp_await, ledgerProtocol_next]
    exact ⟨fun _ => ⟨_, rfl, untouched⟩, fun _ => ⟨_, rfl, untouched⟩⟩
  · intro _
    simp only [Protocol.wp_bind, Protocol.wp_await, ledgerProtocol_next]
    refine ⟨fun publicKey => ⟨_, rfl, ?_⟩, fun _ => ⟨_, rfl, untouched⟩⟩
    cases publicKey with
    | none =>
        simp only [Protocol.wp_bind, Protocol.wp_await, ledgerProtocol_next]
        exact ⟨fun _ => ⟨_, rfl, untouched⟩, fun _ => ⟨_, rfl, untouched⟩⟩
    | some sourceAccount => exact wp_mintUsdc_ledger

end

-- Runs

def MintOp.isInvoke : MintOp → Bool
  | .invokeContract .. => true
  | _ => false

/-- A contract call applies or does not apply as it reports. -/
def AsReported (c : MintConfig) (i : Nat) (x : Choice) : Prop :=
  (c.pending? i).any MintOp.isInvoke = true → x.outcome.isLost = false

instance (c : MintConfig) (i : Nat) (x : Choice) : Decidable (AsReported c i x) :=
  inferInstanceAs (Decidable (_ → _))

/-- The contract calls a request was told were applied. -/
def reportedCall? (event : Event mintInterface) : Option (ContractCall × TxId) :=
  match event.op, event.reply with
  | .invokeContract _ call id, .ok _ => some (call, id)
  | _, _ => none

variable {req : UsdcMintRequest} {dep : Deployment}
  {transactions : AList (fun _ : TxId => Transaction)}

/-- The row `id` is completed and records `amount`. -/
def World.Records (w : World) (id : TxId) (amount : ℚ) : Prop :=
  ∃ row, w.transactions.lookup id = some row
    ∧ row.status = .completed ∧ row.acbuAmount = some amount

/-- What was recorded last is what the table holds, and what was reported is what was
applied.
-/
structure LedgerHolds (recipient : String) (c : MintConfig) : Prop where
  recorded : ∀ id amount, (ledgerOf recipient (c.past 0)).recorded = some (id, amount) →
    c.world.Records id amount
  applied : c.world.applied = (c.past 0).filterMap reportedCall?

theorem ledgerOf_cons {recipient : String} {event : Event mintInterface}
    {past : List (Event mintInterface)}
    : ledgerOf recipient (event :: past)
      = (ledgerOf recipient past).after recipient event.op event.reply :=
  rfl

theorem Ledger.recorded_written {ledger : Ledger} {id other : TxId} {data : TransactionUpdate}
    {ok : Bool} {amount : ℚ}
    (h : (ledger.written id data ok).recorded = some (other, amount))
    : ok = true ∧ data.status = .completed ∧ data.acbuAmount = some amount ∧ other = id := by
  unfold written at h
  split at h
  · rename_i completed
    split at h
    · rename_i answered
      obtain ⟨written, read, same⟩ := Option.map_eq_some_iff.mp h
      cases same
      exact ⟨answered, completed, read, rfl⟩
    · cases h
  · cases h

theorem records_put {w : World} {id : TxId} {row : Transaction} {data : TransactionUpdate}
    {amount : ℚ} (completed : data.status = .completed) (h : data.acbuAmount = some amount)
    : (w.put id (row.apply data)).Records id amount := by
  refine ⟨row.apply data, by simp [World.put], completed, ?_⟩
  simp [Transaction.apply, h]

theorem applied_of_act {i : Nat} {x : Choice} {w w' : World} {op : MintOp}
    {reply : mintInterface.Reply op}
    (answered : mintSemantics.act i op x w = some (reply, w'))
    (reported : op.isInvoke = true → x.outcome.isLost = false)
    : w'.applied = ((reportedCall? ⟨op, reply⟩).toList ++ w.applied) := by
  cases op with
  | invokeContract sourceAccount call id =>
      obtain ⟨-, invoked, refused⟩ := act_invoke answered
      cases reply with
      | ok result => rw [invoked rfl]; rfl
      | error error =>
          rcases refused rfl with rfl | ⟨⟨lost, outcome⟩, -⟩
          · rfl
          · have kept := reported rfl
            simp [outcome, Outcome.isLost] at kept
  | updateTransaction id data =>
      obtain ⟨rfl | ⟨row, -, rfl⟩, -⟩ := act_update answered <;> rfl
  | createTransaction data =>
      obtain ⟨-, rfl | rfl, -⟩ := act_create answered <;> rfl
  | _ =>
      obtain rfl := act_same answered rfl
      rfl

theorem records_of_act {i : Nat} {x : Choice} {w w' : World} {op : MintOp}
    {reply : mintInterface.Reply op} {ledger : Ledger} {recipient : String}
    (answered : mintSemantics.act i op x w = some (reply, w'))
    (before : ∀ id amount, ledger.recorded = some (id, amount) → w.Records id amount)
    {id : TxId} {amount : ℚ} (recorded : (ledger.after recipient op reply).recorded
      = some (id, amount))
    : w'.Records id amount := by
  cases op with
  | updateTransaction other data =>
      obtain ⟨-, written, -⟩ := act_update answered
      obtain ⟨ok, completed, read, rfl⟩ := Ledger.recorded_written recorded
      cases reply with
      | error _ => cases ok
      | ok _ =>
          obtain ⟨row, -, rfl⟩ := written rfl
          exact records_put completed read
  | createTransaction data => cases recorded
  | invokeContract sourceAccount call other =>
      obtain ⟨left, -, -⟩ := act_invoke answered
      have kept : ledger.recorded = some (id, amount) := by
        cases reply with
        | error _ => exact recorded
        | ok result =>
            cases call <;> simp only [Ledger.after, Ledger.applied] at recorded
            · split at recorded <;> exact recorded
            · split at recorded <;> exact recorded
            · exact recorded
      rcases left with rfl | rfl
      · exact before id amount kept
      · exact before id amount kept
  | _ =>
      obtain rfl := act_same answered rfl
      exact before id amount recorded

theorem ledgerHolds {c : MintConfig}
    (reached : Config.Reaches mintSemantics AsReported
      (initialConfig dep [.usdc req] transactions) c)
    : (ledgerProtocol req.walletAddress).Governs (fun _ => {})
          (fun _ result ledger => ledger.Answered result) (fun _ _ ledger => ledger.Thrown) c
      ∧ LedgerHolds req.walletAddress c := by
  have start : (ledgerProtocol req.walletAddress).Governs (fun _ => {})
      (fun _ result ledger => ledger.Answered result) (fun _ _ ledger => ledger.Thrown)
      (initialConfig dep [.usdc req] transactions) := by
    apply Protocol.governs_initial
    intro i prog found
    obtain rfl : prog = (MintRequest.usdc req).program dep := by
      simpa using List.mem_of_getElem? found
    exact wp_usdc_ledger req
  have base : LedgerHolds req.walletAddress (initialConfig dep [.usdc req] transactions) := by
    constructor
    · intro id amount recorded
      rw [past_initial] at recorded
      cases recorded
    · rw [past_initial]
      rfl
  refine (start.invariant (J := fun c => c.threads.length = 1 ∧ LedgerHolds req.walletAddress c)
    ⟨rfl, base⟩ ?_ reached).imp_right And.right
  rintro c c' i x governed ⟨single, holds⟩ reported stepped
  refine ⟨(Config.length_threads_of_reaches (.single ⟨i, x, reported, stepped⟩)).trans single, ?_⟩
  obtain ⟨op, reply, live, pending, answered, -, past, -, -⟩ := governed.step_cases stepped
  obtain rfl : i = 0 := by
    have bound := Config.lt_of_live live
    omega
  have asked : op.isInvoke = true → x.outcome.isLost = false := by
    intro invokes
    exact reported (by simpa [pending] using invokes)
  constructor
  · intro id amount recorded
    rw [past, ledgerOf_cons] at recorded
    exact records_of_act answered holds.recorded recorded
  · rw [past, applied_of_act answered asked, holds.applied]
    cases read : reportedCall? ⟨op, reply⟩ <;> simp [read]

-- Ledger agreement

/-- When the call has returned, the completed row records what the recipient was issued net
of the burn; when it has thrown, nothing is left issued.
-/
structure LedgerAgrees (req : UsdcMintRequest) (c : MintConfig) : Prop where
  returned : ∀ result, c.value? 0 = some result →
    ∃ id amount, result = .minted id amount
      ∧ c.world.Records id (ledgerOf req.walletAddress (c.past 0)).net
  thrown : ∀ error, c.error? 0 = some error →
    (ledgerOf req.walletAddress (c.past 0)).net = 0

/-- Units are read back from their double. -/
def SurviveDouble (units : ℤ) : Prop :=
  contractNumberToDecimal (numberValue units) = some ((units : ℚ) / 10 ^ 7)

instance {units : ℤ} : Decidable (SurviveDouble units) :=
  inferInstanceAs (Decidable (_ = _))

/-- Nothing was issued; or no compensating burn was applied, at most one write of the completed row
reported an error, and the units survive the double that the amount is read from.
-/
def Ledger.Uncompensated (ledger : Ledger) : Prop :=
  ledger.issued = 0
  ∨ ledger.redeemed = false ∧ ledger.missed ≤ 1 ∧ SurviveDouble ledger.issued

section

variable {units burned : ℤ} {burn : Option ℤ}

theorem recordedAmount_cases
    : recordedAmount units = 0
      ∨ |recordedAmount units * 10 ^ 7 - units| ≤ |(units : ℚ)| / 10 ^ 8 := by
  unfold recordedAmount
  rcases read : contractNumberToDecimal (numberValue (units : ℚ)) with _ | amount
  · exact .inl rfl
  · exact .inr (abs_contractNumberToDecimal_sub_le read)

@[simp] theorem recordedAmount_zero : recordedAmount 0 = 0 := by
  have none_ : contractNumberToDecimal (numberValue (0 : ℤ)) = some 0 := by decide +kernel
  rw [recordedAmount, none_, Option.getD_some]

theorem recordedAmount_eq_iff
    : recordedAmount units = units / 10 ^ 7 ↔ units = 0 ∨ SurviveDouble units := by
  constructor
  · intro same
    unfold recordedAmount at same
    unfold SurviveDouble
    rcases read : contractNumberToDecimal (numberValue (units : ℚ)) with _ | amount
    · rw [read, Option.getD_none, eq_comm, div_eq_zero_iff] at same
      exact .inl (by simpa using same)
    · rw [read, Option.getD_some] at same
      exact .inr (congrArg some same)
  · rintro (rfl | survives)
    · simp
    · rw [recordedAmount, survives, Option.getD_some]

/-- Where a burn of the amount in ACBU leaves nothing, or the amount, nothing was minted. -/
theorem Misread.units_eq_zero (h : Misread units (some burned))
    (left : units = burned ∨ units = (10 ^ 7 + 1) * burned)
    : units = 0 := by
  have amount := h burned rfl
  have nonneg := abs_nonneg (burned : ℚ)
  rcases @recordedAmount_cases units with none_ | near
  · rw [none_, Int.cast_eq_zero] at amount
    simpa [amount] using left
  · rw [← amount] at near
    have zero : |(burned : ℚ)| ≤ 0 := by
      rcases left with rfl | rfl
      · have rest : (units : ℚ) * 10 ^ 7 - units = (10 ^ 7 - 1) * units := by ring
        rw [rest, abs_mul, abs_of_pos (show (0 : ℚ) < 10 ^ 7 - 1 by norm_num)] at near
        linarith
      · have rest : (burned : ℚ) * 10 ^ 7 - ((10 ^ 7 + 1) * burned : ℤ) = -burned := by
          push_cast
          ring
        rw [rest, abs_neg, Int.cast_mul, abs_mul,
          abs_of_pos (show (0 : ℚ) < (10 ^ 7 + 1 : ℤ) by norm_num)] at near
        push_cast at near
        linarith
    obtain rfl : burned = 0 := by exact_mod_cast abs_nonpos_iff.mp zero
    simpa using left

/-- What is left of units is their amount in ACBU exactly when nothing was burnt for them, and the
amount is that of the units.
-/
theorem Misread.net_iff (h : Misread units burn)
    : ((units : ℚ) - (burn.getD 0 : ℤ)) / 10 ^ 7 = recordedAmount units
      ↔ units = 0 ∨ burn.isSome = false ∧ SurviveDouble units := by
  cases burn with
  | none =>
      rw [Option.getD_none, Int.cast_zero, sub_zero, eq_comm, recordedAmount_eq_iff]
      simp
  | some burned =>
      have amount := h burned rfl
      simp only [Option.isSome_some, Bool.true_eq_false, false_and, or_false, Option.getD_some]
      constructor
      · intro left
        rw [← amount, div_eq_iff (by norm_num)] at left
        have left : units - burned = burned * 10 ^ 7 := by exact_mod_cast left
        exact h.units_eq_zero (.inr (by omega))
      · rintro rfl
        simp [amount]

theorem Misread.zero_iff (h : Misread units burn)
    : ((units : ℚ) - (burn.getD 0 : ℤ)) / 10 ^ 7 = 0 ↔ units = 0 := by
  cases burn with
  | none => simp
  | some burned =>
      have amount := h burned rfl
      rw [Option.getD_some]
      constructor
      · intro left
        have left : (units : ℚ) = burned := by simpa [sub_eq_zero] using left
        exact h.units_eq_zero (.inl (by exact_mod_cast left))
      · rintro rfl
        simp [amount]

end

theorem Ledger.Answered.recorded {ledger : Ledger} {result : MintResult}
    (h : ledger.Answered result)
    : ∃ id amount, result = .minted id amount ∧ ledger.recorded = some (id, amount) := by
  obtain ⟨id, units, rfl, rfl | ⟨burn, -, rfl⟩⟩ := h
  · exact ⟨id, _, rfl, rfl⟩
  · exact ⟨id, _, rfl, rfl⟩

theorem Ledger.Answered.net_iff {ledger : Ledger} {id : TxId} {amount : ℚ}
    (h : ledger.Answered (.minted id amount))
    : ledger.net = amount ↔ ledger.Uncompensated := by
  obtain ⟨_, units, same, rfl | ⟨burn, misread, rfl⟩⟩ := h
  · cases same
    simpa [net, Uncompensated] using (@misread_none units).net_iff
  · cases same
    simpa [net, Uncompensated, compensating] using misread.net_iff

theorem Ledger.Thrown.net_iff {ledger : Ledger} (h : ledger.Thrown)
    : ledger.net = 0 ↔ ledger.Uncompensated := by
  rcases h with rfl | ⟨units, burn, misread, rfl⟩
  · simp [net, Uncompensated]
  · simpa [net, Uncompensated, compensating] using misread.zero_iff

/-- A direct mint that has come to its end agrees with its ledger exactly when it issued
nothing, or burnt nothing in compensation, missed at most one completing write and issued units that
survive their double.
-/
theorem ledgerAgrees_iff (dep : Deployment) (req : UsdcMintRequest)
    (transactions : AList (fun _ : TxId => Transaction)) (c : MintConfig)
    (reached : Config.Reaches mintSemantics AsReported
      (initialConfig dep [.usdc req] transactions) c)
    (ended : c.live 0 = false)
    : LedgerAgrees req c ↔ (ledgerOf req.walletAddress (c.past 0)).Uncompensated := by
  obtain ⟨governed, holds⟩ := ledgerHolds reached
  have phase : (ledgerProtocol req.walletAddress).phase (fun _ => {}) c 0
      = ledgerOf req.walletAddress (c.past 0) :=
    Protocol.phase_observer
  have bound : 0 < c.threads.length := by
    rw [Config.length_threads_of_reaches reached]
    simp [initialConfig, Config.initial]
  rcases Config.ended_cases bound ended with ⟨result, returned⟩ | ⟨error, thrown⟩
  · have answered := governed.value returned
    rw [phase] at answered
    obtain ⟨id, amount, rfl, recorded⟩ := answered.recorded
    have stored := holds.recorded id amount recorded
    rw [← answered.net_iff]
    constructor
    · intro agrees
      obtain ⟨_, _, same, row, found, -, read⟩ := agrees.returned _ returned
      obtain ⟨row', found', -, read'⟩ := stored
      cases same
      obtain rfl : row = row' := Option.some.inj (found.symm.trans found')
      exact Option.some.inj (read.symm.trans read')
    · intro net
      refine ⟨fun result same => ?_, fun error thrown => ?_⟩
      · obtain rfl := Option.some.inj (returned.symm.trans same)
        exact ⟨id, amount, rfl, net ▸ stored⟩
      · rw [Config.error?_of_value? returned] at thrown
        cases thrown
  · have left := governed.error thrown
    rw [phase] at left
    rw [← left.net_iff]
    constructor
    · exact fun agrees => agrees.thrown error thrown
    · intro net
      refine ⟨fun result returned => ?_, fun _ _ => net⟩
      rw [Config.error?_of_value? returned] at thrown
      cases thrown

-- A mint of 100 ACBU

def sampleUsdcRequest : UsdcMintRequest where
  usdcAmount := 100
  walletAddress := sampleWallet
  userId := some "user"
  organizationId := none

/-- The contract mints 100 ACBU, and every call has the outcome. -/
def hundredChoice (outcome : Outcome JsError) : Choice :=
  { sampleChoice with outcome, contractResult := { transactionHash := "hash", result := 10 ^ 9 } }

/-- The choices of a run of one request. -/
def ofOne (choices : List Choice) : List (Nat × Choice) :=
  choices.map (fun x => (0, x))

/-- A mint whose calls all succeed records what it issued. -/
theorem ledgerAgrees_iff_done
    : ∃ c, Config.Reaches mintSemantics AsReported
          (initialConfig sampleDeployment [.usdc sampleUsdcRequest] ∅) c
        ∧ c.value? 0 = some (.minted "t1" 100)
        ∧ LedgerAgrees sampleUsdcRequest c := by
  have executed :
      ((initialConfig sampleDeployment [.usdc sampleUsdcRequest] ∅).run mintSemantics AsReported
        (ofOne (List.replicate 7 (hundredChoice .done)))).map
        (fun c => (c.value? 0, c.live 0, (ledgerOf sampleWallet (c.past 0)).redeemed,
          (ledgerOf sampleWallet (c.past 0)).missed, (ledgerOf sampleWallet (c.past 0)).issued))
        = some (some (.minted "t1" 100), false, false, 0, 10 ^ 9) := by
    decide +kernel
  obtain ⟨c, reached, read⟩ := Config.reaches_of_run executed
  obtain ⟨returned, rest⟩ := Prod.mk.inj read
  obtain ⟨ended, rest⟩ := Prod.mk.inj rest
  obtain ⟨redeemed, rest⟩ := Prod.mk.inj rest
  obtain ⟨missed, issued⟩ := Prod.mk.inj rest
  refine ⟨c, reached, returned, (ledgerAgrees_iff _ _ _ c reached ended).mpr (.inr ⟨redeemed, ?_⟩)⟩
  refine ⟨missed.trans_le zero_le_one, ?_⟩
  rw [show sampleUsdcRequest.walletAddress = sampleWallet from rfl, issued]
  decide +kernel

/-- The completed row cannot be written, the compensation burns 100 units of the operator
for the 100 ACBU, and the second write records all of them.
-/
theorem not_ledgerAgrees_compensated
    : ∃ c, Config.Reaches mintSemantics AsReported
          (initialConfig sampleDeployment [.usdc sampleUsdcRequest] ∅) c
        ∧ c.value? 0 = some (.minted "t1" 100)
        ∧ (ledgerOf sampleWallet (c.past 0)).net = 100 - 1 / 10 ^ 5
        ∧ ¬ LedgerAgrees sampleUsdcRequest c := by
  have executed :
      ((initialConfig sampleDeployment [.usdc sampleUsdcRequest] ∅).run mintSemantics AsReported
        (ofOne (List.replicate 5 (hundredChoice .done)
          ++ hundredChoice (.failed (.error "connection lost"))
            :: List.replicate 4 (hundredChoice .done)))).map
        (fun c => (c.value? 0, (ledgerOf sampleWallet (c.past 0)).net,
          (c.world.transactions.lookup "t1").bind (·.acbuAmount)))
        = some (some (.minted "t1" 100), 100 - 1 / 10 ^ 5, some 100) := by
    decide +kernel
  obtain ⟨c, reached, read⟩ := Config.reaches_of_run executed
  obtain ⟨returned, rest⟩ := Prod.mk.inj read
  obtain ⟨net, recorded⟩ := Prod.mk.inj rest
  refine ⟨c, reached, returned, net, fun agrees => ?_⟩
  obtain ⟨id, amount, same, row, found, -, stored⟩ := agrees.returned _ returned
  obtain ⟨rfl, -⟩ := MintResult.minted.inj same
  have different : (100 : ℚ) = (ledgerOf sampleWallet (c.past 0)).net := by
    rw [found] at recorded
    exact Option.some.inj (recorded.symm.trans stored)
  rw [net] at different
  norm_num at different

end AcbuBackend.Mint
