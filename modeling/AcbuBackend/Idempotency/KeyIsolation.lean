import AcbuBackend.Burn.RefusedBurns
import AcbuBackend.OnRamp.AnnouncedSwaps
import AcbuBackend.OnRamp.KeyIsolation
import AcbuBackend.Salary.BatchCreation
import AcbuBackend.Transfer.KeyIsolation

/-! Raw idempotency keys of different users.
Four handlers store the key of a client as it is, in a column that is unique in the whole table.
A user is undisturbed by the keys of others where none of its own keys meets one of them.
-/

namespace AcbuBackend.Idempotency

open Effects AcbuBackend.Runtime

-- Burns

def burnsOf (requests : List Burn.BurnRequest) (userId : String) (i : Nat) : Bool :=
  (requests[i]?).bind (fun req => callerId? req.apiKey) = some userId

/-- The worlds are those of two burn tables beside the same wallets. -/
def SameWallets (wallets : AList (fun _ : Burn.WalletId => Burn.Wallet)) (w s : Burn.World)
    : Prop :=
  ∃ burns less, w = Burn.World.start wallets burns ∧ s = Burn.World.start wallets less

theorem SameWallets.act {wallets : AList (fun _ : Burn.WalletId => Burn.Wallet)}
    {w s w' : Burn.World} {phase phase' : Unit} {i : Nat} {x : Burn.Choice} {op : Burn.BurnOp}
    {reply : Burn.burnInterface.Reply op} (related : SameWallets wallets w s)
    (allowed : Burn.readingProtocol.next phase op reply = some phase')
    (answered : Burn.burnSemantics.act i op x w = some (reply, w'))
    : ∃ s', Burn.burnSemantics.act i op x s = some (reply, s') ∧ SameWallets wallets w' s' := by
  have possible : Burn.admissible op x w = true → Burn.admissible op x s = true := by
    intro possible
    cases op with
    | getReserveStatus | getLimitsSnapshot | findWallet => exact possible
    | _ => cases allowed
  have answers : x.outcome = .done → (Burn.effect x s op).1 = (Burn.effect x w op).1 := by
    obtain ⟨burns, less, rfl, rfl⟩ := related
    intro _
    cases op with
    | getReserveStatus | getLimitsSnapshot | findWallet => rfl
    | _ => cases allowed
  have leaves : x.outcome.isFailed = false →
      SameWallets wallets (Burn.effect x w op).2 (Burn.effect x s op).2 := by
    intro _
    cases op with
    | getReserveStatus | getLimitsSnapshot | findWallet => exact related
    | _ => cases allowed
  exact Environment.act_of_related related possible answers leaves answered

theorem burns_isolated {dep : Burn.Deployment} {requests : List Burn.BurnRequest} {userId : String}
    {wallets : AList (fun _ : Burn.WalletId => Burn.Wallet)}
    {burns less : AList (fun _ : Burn.BurnId => Burn.BurnTransaction)}
    {schedule : List (Nat × Burn.Choice)} {c : Burn.BurnConfig}
    (executed : (Burn.initialConfig dep requests wallets burns).run Burn.burnSemantics
      Config.anyStep schedule = some c)
    : (∃ s, (Burn.initialConfig dep requests wallets less).run Burn.burnSemantics Config.anyStep
          (Config.stepsOf (burnsOf requests userId) schedule) = some s
        ∧ Config.SameThreads (burnsOf requests userId) c s)
      ∧ ∀ i, c.value? i = none := by
  have reads : ∀ {c c' : Burn.BurnConfig} {i : Nat} {x : Burn.Choice}, Burn.Refusing c →
      c.step Burn.burnSemantics i x = some c' → Burn.Refusing c' ∧ c'.world = c.world := by
    intro c c' i x governed stepped
    obtain ⟨op, reply, -, -, answered, moved, -, -, governed'⟩ := governed.step_cases stepped
    exact ⟨governed', Burn.readingProtocol_reads moved answered⟩
  have start : Config.SameThreads (burnsOf requests userId)
      (Burn.initialConfig dep requests wallets burns)
      (Burn.initialConfig dep requests wallets less) :=
    fun _ _ => rfl
  have governed : Burn.Refusing (Burn.initialConfig dep requests wallets burns) :=
    (Burn.refused .refl).1
  obtain ⟨kept, s, alone, same, -⟩ := Config.run_stepsOf (J := Burn.Refusing)
    (R := SameWallets wallets) (fun _ _ _ _ h _ stepped => (reads h stepped).1)
    (fun _ _ _ _ _ h related _ stepped => (reads h stepped).2 ▸ related)
    (fun c w i x op reply w' h related _ _ pending answered => by
      obtain ⟨_, allowed⟩ := h.pending pending reply
      exact related.act allowed answered)
    executed governed start ⟨burns, less, rfl, rfl⟩
  refine ⟨⟨s, alone, same⟩, fun i => ?_⟩
  cases finished : c.value? i with
  | none => rfl
  | some response => exact (kept.value finished).elim

-- All four handlers

/-- In every run of requests of any users, those of one user do what they would do without the
others' requests and rows, and name its own records, where none of its keys meets a record of
another user. A burn request never gets as far as its key.
-/
theorem raw_keys_isolated (userId : String)
    : (∀ (dep : OnRamp.Deployment) (requests : List OnRamp.UsdcRequest)
        (swaps less : AList (fun _ : OnRamp.SwapId => OnRamp.OnRampSwap))
        (queue : List OnRamp.Message) (schedule : List (Nat × OnRamp.Choice))
        (c : OnRamp.OnRampConfig),
        OnRamp.swapColumns.Unique swaps →
        OnRamp.swapColumns.Apart userId swaps less →
        (OnRamp.depositsConfig dep requests swaps queue).run OnRamp.onRampSemantics
          (OnRamp.KeyFree requests userId) schedule = some c →
        (∃ s, (OnRamp.depositsConfig dep requests less queue).run OnRamp.onRampSemantics
              Config.anyStep (Config.stepsOf (OnRamp.requestsOf requests userId) schedule) = some s
            ∧ Config.SameThreads (OnRamp.requestsOf requests userId) c s
            ∧ OnRamp.swapColumns.Apart userId c.world.swaps s.world.swaps)
          ∧ ∀ i body, OnRamp.requestsOf requests userId i = true →
            c.value? i = some (.accepted body) →
            ∃ row, c.world.swaps.lookup body.on_ramp_swap_id = some row ∧ row.userId = userId)
      ∧ (∀ (dep : Transfer.Deployment) (requests : List Transfer.TransferRequest)
        (transfers less : AList (fun _ : Mint.TxId => Transfer.TransferRow))
        (schedule : List (Nat × Transfer.Choice)) (c : Transfer.TransferConfig),
        Transfer.transferColumns.Unique transfers →
        Transfer.transferColumns.Apart userId transfers less →
        (Transfer.transfersConfig dep requests transfers).run Transfer.transferSemantics
          (Transfer.KeyFree requests userId) schedule = some c →
        (∃ s, (Transfer.transfersConfig dep requests less).run Transfer.transferSemantics
              Config.anyStep (Config.stepsOf (Transfer.requestsOf requests userId) schedule)
                = some s
            ∧ Config.SameThreads (Transfer.requestsOf requests userId) c s
            ∧ Transfer.transferColumns.Apart userId c.world.transfers s.world.transfers)
          ∧ ∀ i result, Transfer.requestsOf requests userId i = true → c.value? i = some result →
            ∃ row, c.world.transfers.lookup result.transactionId = some row ∧ row.userId = userId)
      ∧ (∀ (dec : Salary.DecimalText) (requests : List Salary.CreateSalaryBatchParams)
        (batches less : AList (fun _ : Salary.BatchId => Salary.BatchRow))
        (schedule : List (Nat × Salary.CreationChoice)) (c : Salary.CreationConfig),
        Salary.batchColumns.Unique batches →
        Salary.batchColumns.Apart userId batches less →
        (Salary.batchesConfig dec requests batches).run Salary.creationSemantics
          (Salary.KeyFree requests userId) schedule = some c →
        (∃ s, (Salary.batchesConfig dec requests less).run Salary.creationSemantics
              Config.anyStep (Config.stepsOf (Salary.requestsOf requests userId) schedule) = some s
            ∧ Config.SameThreads (Salary.requestsOf requests userId) c s
            ∧ Salary.batchColumns.Apart userId c.world.batches s.world.batches)
          ∧ ∀ i result, Salary.requestsOf requests userId i = true → c.value? i = some result →
            ∃ row, c.world.batches.lookup result.batchId = some row ∧ row.userId = userId)
      ∧ (∀ (dep : Burn.Deployment) (requests : List Burn.BurnRequest)
        (wallets : AList (fun _ : Burn.WalletId => Burn.Wallet))
        (burns less : AList (fun _ : Burn.BurnId => Burn.BurnTransaction))
        (schedule : List (Nat × Burn.Choice)) (c : Burn.BurnConfig),
        (Burn.initialConfig dep requests wallets burns).run Burn.burnSemantics Config.anyStep
          schedule
          = some c →
        (∃ s, (Burn.initialConfig dep requests wallets less).run Burn.burnSemantics Config.anyStep
              (Config.stepsOf (burnsOf requests userId) schedule) = some s
            ∧ Config.SameThreads (burnsOf requests userId) c s)
          ∧ ∀ i, c.value? i = none) :=
  ⟨fun _ _ _ _ _ _ _ unique apart executed => OnRamp.callers_isolated unique apart executed,
    fun _ _ _ _ _ _ unique apart executed => Transfer.senders_isolated unique apart executed,
    fun _ _ _ _ _ _ unique apart executed => Salary.creations_isolated unique apart executed,
    fun _ _ _ _ _ _ _ executed => burns_isolated executed⟩

-- Two users with one key

def usdcRequestOf (userId key : String) : OnRamp.UsdcRequest :=
  { OnRamp.sampleUsdcRequest with
    apiKey := some { userId := some userId, organizationId := none }
    idempotencyHeader := some key }

def batchRequestOf (userId key : String) : Salary.CreateSalaryBatchParams where
  organizationId := none
  userId := userId
  totalAmount := none
  currency := "ACBU"
  idempotencyKey := some key
  items := []

def sampleDecimals : Salary.DecimalText where
  parse := fun _ => .ok 5
  toText := fun _ => "5"

/-- Both users deposit under keys of their own. -/
def depositSchedule : List (Nat × OnRamp.Choice) :=
  List.replicate 6 (0, { OnRamp.sampleChoice 0 with freshSwapId := "s1" })
    ++ List.replicate 6 (1, { OnRamp.sampleChoice 0 with freshSwapId := "s2" })

/-- With different keys the second user's deposit is what it is alone. -/
theorem raw_keys_isolated_sample
    : ∃ c s : OnRamp.OnRampConfig,
        (OnRamp.depositsConfig OnRamp.sampleDeployment
            [usdcRequestOf "alice" "k1", usdcRequestOf "bob" "k2"] ∅ []).run OnRamp.onRampSemantics
          (OnRamp.KeyFree [usdcRequestOf "alice" "k1", usdcRequestOf "bob" "k2"] "bob")
          depositSchedule = some c
        ∧ (c.value? 1).isSome = true
        ∧ s.value? 1 = c.value? 1 := by
  have executed :
      ((OnRamp.depositsConfig OnRamp.sampleDeployment
            [usdcRequestOf "alice" "k1", usdcRequestOf "bob" "k2"] ∅ []).run OnRamp.onRampSemantics
          (OnRamp.KeyFree [usdcRequestOf "alice" "k1", usdcRequestOf "bob" "k2"] "bob")
          depositSchedule).map (fun c => (c.value? 1).isSome) = some true := by
    decide +kernel
  obtain ⟨c, run, answered⟩ := Option.map_eq_some_iff.mp executed
  obtain ⟨⟨s, -, same, -⟩, -⟩ := (raw_keys_isolated "bob").1 OnRamp.sampleDeployment
    [usdcRequestOf "alice" "k1", usdcRequestOf "bob" "k2"] ∅ ∅ [] depositSchedule c
    (fun _ _ _ _ _ found => by simp at found) .refl run
  have mine : OnRamp.requestsOf [usdcRequestOf "alice" "k1", usdcRequestOf "bob" "k2"] "bob" 1
      = true := by
    decide +kernel
  exact ⟨c, s, run, answered, same.value? mine⟩

/-- The batch schedule: the first user's request runs to its end before the second one's. -/
def batchSchedule : List (Nat × Salary.CreationChoice) :=
  [(0, {}), (0, { freshId := "b1" }), (0, {}), (1, {})]

/-- With the same key, the second user's batch request is answered with the first user's batch,
and the second user's deposit, which would be accepted alone, is refused.
-/
theorem raw_keys_interfere
    : (∃ c,
        (Salary.batchesConfig sampleDecimals [batchRequestOf "alice" "k", batchRequestOf "bob" "k"]
            ∅).run Salary.creationSemantics Config.anyStep batchSchedule = some c
        ∧ (c.world.batches.lookup "b1").map (fun row => row.userId) = some "alice"
        ∧ c.value? 1 = some { batchId := "b1", status := .pending })
      ∧ ∃ c s,
        (OnRamp.depositsConfig OnRamp.sampleDeployment
            [usdcRequestOf "alice" "k", usdcRequestOf "bob" "k"] ∅ []).run OnRamp.onRampSemantics
          Config.anyStep depositSchedule = some c
        ∧ (OnRamp.depositsConfig OnRamp.sampleDeployment
            [usdcRequestOf "alice" "k", usdcRequestOf "bob" "k"] ∅ []).run OnRamp.onRampSemantics
          Config.anyStep (depositSchedule.drop 6) = some s
        ∧ c.error? 1 = some .uniqueConstraint
        ∧ (s.value? 1).isSome = true := by
  have batches :
      ((Salary.batchesConfig sampleDecimals [batchRequestOf "alice" "k", batchRequestOf "bob" "k"]
          ∅).run Salary.creationSemantics Config.anyStep batchSchedule).map
        (fun c => ((c.world.batches.lookup "b1").map (fun row => row.userId), c.value? 1))
        = some (some "alice", some { batchId := "b1", status := .pending }) := by
    decide +kernel
  have beside :
      ((OnRamp.depositsConfig OnRamp.sampleDeployment
          [usdcRequestOf "alice" "k", usdcRequestOf "bob" "k"] ∅ []).run OnRamp.onRampSemantics
        Config.anyStep depositSchedule).map (fun c => c.error? 1)
          = some (some .uniqueConstraint) := by
    decide +kernel
  have alone :
      ((OnRamp.depositsConfig OnRamp.sampleDeployment
          [usdcRequestOf "alice" "k", usdcRequestOf "bob" "k"] ∅ []).run OnRamp.onRampSemantics
        Config.anyStep (depositSchedule.drop 6)).map (fun s => (s.value? 1).isSome)
          = some true := by
    decide +kernel
  obtain ⟨b, ranBatches, answer⟩ := Option.map_eq_some_iff.mp batches
  obtain ⟨owner, answered⟩ := Prod.mk.inj answer
  obtain ⟨c, ran, refused⟩ := Option.map_eq_some_iff.mp beside
  obtain ⟨s, ranAlone, accepted⟩ := Option.map_eq_some_iff.mp alone
  exact ⟨⟨b, ranBatches, owner, answered⟩, c, s, ran, ranAlone, refused, accepted⟩

end AcbuBackend.Idempotency
