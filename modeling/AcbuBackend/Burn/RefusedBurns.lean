import AcbuBackend.Burn.BurnController

/-! Every burn request ends at its fee lookup or before it.
The handler asks for the fee without a currency, and the reserve status has no entry for
that. So a request only ever reads, and no run of requests changes a table or the chain.
-/

namespace AcbuBackend.Burn

open Effects AcbuBackend.Runtime Mint

variable {dep : Deployment} {requests : List BurnRequest}
  {wallets : AList (fun _ : WalletId => Wallet)}
  {burns : AList (fun _ : BurnId => BurnTransaction)}

/-- The calls in front of the fee: all of them read. -/
def readingProtocol : Protocol burnInterface Unit where
  next _ op _ :=
    match op with
    | .getReserveStatus | .getLimitsSnapshot | .findWallet _ => some ()
    | _ => none

theorem readingProtocol_reads {i : Nat} {phase phase' : Unit} {op : BurnOp}
    {reply : burnInterface.Reply op} {x : Choice} {w w' : World}
    (allowed : readingProtocol.next phase op reply = some phase')
    (answered : burnSemantics.act i op x w = some (reply, w'))
    : w' = w := by
  obtain ⟨-, taken⟩ := Environment.act_eq_some answered
  cases op with
  | getReserveStatus | getLimitsSnapshot | findWallet _ =>
      rcases Outcome.answer_world taken with same | same <;> exact same
  | _ => cases allowed

section

variable {Q : ℚ → Unit → Prop} {E : JsError → Unit → Prop}

theorem wp_getBurnFeeBps_none (hE : ∀ error, E error ())
    : readingProtocol.wp (getBurnFeeBps dep none) () Q E := by
  unfold getBurnFeeBps
  simp only [Protocol.wp_bind]
  refine Protocol.wp_await.mpr ⟨?_, fun error => ⟨(), rfl, hE error⟩⟩
  intro status
  refine ⟨(), rfl, Protocol.wp_orThrow.mpr ⟨?_, fun _ => hE _⟩⟩
  intro curr found
  have absent : status.find? (fun c => some c.currency = none) = none := by simp
  rw [absent] at found
  cases found

end

theorem wp_isCurrencyWithdrawalPaused {currency : String} {Q : Bool → Unit → Prop}
    {E : JsError → Unit → Prop} (hQ : ∀ paused, Q paused ()) (hE : ∀ error, E error ())
    : readingProtocol.wp (isCurrencyWithdrawalPaused currency) () Q E := by
  unfold isCurrencyWithdrawalPaused
  simp only [Protocol.wp_bind]
  refine Protocol.wp_await.mpr ⟨?_, fun error => ⟨(), rfl, hE error⟩⟩
  intro status
  refine ⟨(), rfl, ?_⟩
  cases status.find? (fun c => c.currency = currency) with
  | none => exact hQ false
  | some curr =>
      simp only [Protocol.wp_ite, Protocol.wp_pure, Protocol.wp_bind]
      refine ⟨fun _ => hQ false, fun _ => ?_⟩
      refine Protocol.wp_await.mpr ⟨?_, fun error => ⟨(), rfl, hE error⟩⟩
      exact fun limits => ⟨(), rfl, hQ _⟩

theorem wp_burnAcbu (req : BurnRequest)
    : readingProtocol.wp (burnAcbu dep req) () (fun _ _ => False) (fun _ _ => True) := by
  unfold burnAcbu
  simp only [Protocol.wp_bind, Protocol.wp_orThrow, Protocol.wp_fromExcept, Protocol.wp_ensure,
    implies_true, and_true]
  intro userId _ key _ body _
  apply wp_isCurrencyWithdrawalPaused _ (fun _ => trivial)
  intro paused _ acbuAmount _ _
  refine Protocol.wp_await.mpr ⟨?_, fun _ => ⟨(), rfl, trivial⟩⟩
  intro found
  refine ⟨(), rfl, ?_⟩
  intro wallet _ _
  exact wp_getBurnFeeBps_none (fun _ => trivial)

/-- Requests that only read and never answer. -/
abbrev Refusing (c : BurnConfig) : Prop :=
  readingProtocol.Governs (fun _ => ()) (fun _ _ _ => False) (fun _ _ _ => True) c

theorem refused {c : BurnConfig}
    (reached : Config.Reaches burnSemantics Config.anyStep
      (initialConfig dep requests wallets burns) c)
    : Refusing c ∧ c.world = World.start wallets burns := by
  have start : Refusing (initialConfig dep requests wallets burns) := by
    apply Protocol.governs_initial
    intro i prog member
    obtain ⟨req, _, rfl⟩ := List.mem_map.mp (List.mem_of_getElem? member)
    exact wp_burnAcbu req
  exact start.world_eq
    (fun _ _ _ _ _ _ _ _ allowed answered => readingProtocol_reads allowed answered) reached

-- Sample requests

def sampleDeployment : Deployment where
  burning := "burning-contract-id"
  toText := fun _ => ""
  toFixed := fun _ _ => ""

def sampleRequest : BurnRequest where
  apiKey := some { userId := some "user", organizationId := none }
  idempotencyHeader := .text "key"
  body := { acbu_amount := .text "10", currency := .text "NGN" }

def sampleWallets : AList (fun _ : WalletId => Wallet) :=
  AList.singleton "w1" { userId := "user", acbuBalance := 1000 }

def sampleCap : LimitConfig where
  withdrawalSingleCurrencyDailyUsd := 10000
  withdrawalSingleCurrencyMonthlyUsd := 80000

/-- An environment in which every call succeeds and the naira reserve holds so many percent
of its target.
-/
def sampleChoice (actualWeight : ℚ) : Choice where
  reserveStatus := [{ currency := "NGN", targetWeight := 100, actualWeight }]
  limits :=
    { retail := sampleCap
      business := sampleCap
      government := sampleCap
      reserveWeightThresholdPct := 10 }

-- The ledger

/-- The wallets and the burns agree with what was applied on chain since `start`. -/
structure LedgerAgrees (start w : World) : Prop where
  /-- A balance is what it was, less the burns that were redeemed. -/
  balance : ∀ id before, start.wallets.lookup id = some before →
    ∃ wallet, w.wallets.lookup id = some wallet
      ∧ wallet.userId = before.userId
      ∧ wallet.acbuBalance = before.acbuBalance - w.charged before.userId
  nonnegative : ∀ id wallet, w.wallets.lookup id = some wallet → 0 ≤ wallet.acbuBalance
  failed : ∀ id row, w.burns.lookup id = some row → row.status = .FAILED → w.redeemed id = false

/-- No balance of the table is negative. -/
def Funded (wallets : AList (fun _ : WalletId => Wallet)) : Prop :=
  ∀ id wallet, wallets.lookup id = some wallet → 0 ≤ wallet.acbuBalance

@[simp] theorem redeemed_start {id : BurnId} : (World.start wallets burns).redeemed id = false :=
  rfl

@[simp] theorem charged_start {userId : String}
  : (World.start wallets burns).charged userId = 0 := by
  simp [World.charged]

theorem ledgerAgrees_start (funded : Funded wallets)
    : LedgerAgrees (World.start wallets burns) (World.start wallets burns) where
  balance := fun _ before found => ⟨before, found, rfl, by simp⟩
  nonnegative := funded
  failed := fun _ _ _ _ => redeemed_start

/-- In every run of burn requests, at its end and before, the ledger agrees with the chain.
-/
theorem ledgerAgrees (dep : Deployment) (requests : List BurnRequest)
    (wallets : AList (fun _ : WalletId => Wallet))
    (burns : AList (fun _ : BurnId => BurnTransaction)) (funded : Funded wallets)
    (c : BurnConfig)
    (reached : Config.Reaches burnSemantics Config.anyStep
      (initialConfig dep requests wallets burns) c)
    : LedgerAgrees (World.start wallets burns) c.world := by
  rw [(refused reached).2]
  exact ledgerAgrees_start funded

/-- Two requests of one user, run to their ends: both are refused for the fee. -/
theorem ledgerAgrees_two
    : ∃ c, Config.Reaches burnSemantics Config.anyStep
          (initialConfig sampleDeployment [sampleRequest, sampleRequest] sampleWallets ∅) c
        ∧ c.error? 0 = some (currencyNotFound none)
        ∧ c.error? 1 = some (currencyNotFound none)
        ∧ LedgerAgrees (World.start sampleWallets ∅) c.world := by
  have executed :
      ((initialConfig sampleDeployment [sampleRequest, sampleRequest] sampleWallets ∅).run
        burnSemantics Config.anyStep
        ((List.replicate 4 [(0, sampleChoice 100), (1, sampleChoice 100)]).flatten)).map
        (fun c => (c.error? 0, c.error? 1))
        = some (some (currencyNotFound none), some (currencyNotFound none)) := by
    decide +kernel
  have funded : Funded sampleWallets := by
    intro id wallet found
    have member : (⟨id, wallet⟩ : Sigma (fun _ : WalletId => Wallet))
        ∈ [⟨"w1", { userId := "user", acbuBalance := 1000 }⟩] :=
      AList.mem_lookup_iff.mp found
    obtain ⟨-, rfl⟩ : id = "w1" ∧ wallet = { userId := "user", acbuBalance := 1000 } := by
      simpa using member
    norm_num
  obtain ⟨c, reached, read⟩ := Config.reaches_of_run executed
  obtain ⟨first, second⟩ := Prod.mk.inj read
  exact ⟨c, reached, first, second, ledgerAgrees _ _ _ _ funded c reached⟩

-- Replays

/-- The request comes from the user of a burn, with its key and its body. -/
structure BurnRequest.Repeats (req : BurnRequest) (row : BurnTransaction) : Prop where
  user : callerId? req.apiKey = some row.userId
  key : req.key? = some row.idempotencyKey
  body : ∃ body, burnBodySchema req.body = some body
    ∧ parseMonetaryString body.acbuAmount = .ok row.acbuAmount
    ∧ body.currency = row.currency

def BurnOp.isRedemption : BurnOp → Bool
  | .mint (.invokeContract _ call _) => !call.isMint
  | _ => false

/-- A request was answered with a burn and made no redemption. -/
structure ReplayAnswered (c : BurnConfig) (i : Nat) (id : BurnId) : Prop where
  answer : ∃ response, c.value? i = some response ∧ response.transaction_id = id
  noRedemption : ∀ event ∈ c.past i, event.op.isRedemption = false

/-- Request `j` created that burn on the way from the start. -/
def Created (start c : BurnConfig) (j : Nat) (id : BurnId) : Prop :=
  ∃ before x after, Config.Reaches burnSemantics Config.anyStep start before
    ∧ before.step burnSemantics j x = some after
    ∧ id ∉ before.world.burns ∧ id ∈ after.world.burns
    ∧ Config.Reaches burnSemantics Config.anyStep after c

/-- Every repetition of a burn that some other request created, once it has ended, was answered
with that burn.
-/
def ReplaysAnswered (start : BurnConfig) (requests : List BurnRequest) (c : BurnConfig) : Prop :=
  ∀ j id row, Created start c j id → c.world.burns.lookup id = some row →
    ∀ i req, i ≠ j → requests[i]? = some req → req.Repeats row → c.live i = false →
      ReplayAnswered c i id

theorem not_created {c : BurnConfig} {j : Nat} {id : BurnId}
    : ¬ Created (initialConfig dep requests wallets burns) c j id := by
  rintro ⟨before, x, after, reached, stepped, absent, present, -⟩
  have unchanged := (refused reached).2
  have unchanged' := (refused (reached.tail ⟨j, x, trivial, stepped⟩)).2
  rw [unchanged] at absent
  rw [unchanged'] at present
  exact absent present

/-- In every run of burn requests the replay law holds: no request gets as far as creating a
burn.
-/
theorem replaysAnswered (dep : Deployment) (requests : List BurnRequest)
    (wallets : AList (fun _ : WalletId => Wallet))
    (burns : AList (fun _ : BurnId => BurnTransaction)) (c : BurnConfig)
    : ReplaysAnswered (initialConfig dep requests wallets burns) requests c := by
  intro j id row created
  exact absurd created not_created

end AcbuBackend.Burn
