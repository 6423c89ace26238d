import AcbuBackend.Mint.MintProtocol

/-! What one step of a run of mint requests does to the world and to a stage. -/

namespace AcbuBackend.Mint

open Effects AcbuBackend.Runtime

/-- An update of a row was applied, or was not. -/
def Updated (w w' : World) (id : TxId) (data : TransactionUpdate) : Prop :=
  w' = w ∨ ∃ row, w.transactions.lookup id = some row ∧ w' = w.put id (row.apply data)

/-- A call that a request issued, with the world it changed and the stage it led to. -/
inductive MintMove (dep : Deployment) (request : MintRequest) (x : Choice) (w : World)
    : World → Event mintInterface → Stage → Stage → Prop
  | read (event : Event mintInterface) (stage : Stage)
      (notInvoke : ∀ sourceAccount call id, event.op ≠ .invokeContract sourceAccount call id)
      (notCreate : ∀ data, event.op ≠ .createTransaction data)
      : MintMove dep request x w w event stage stage
  | verify (nowS : ℚ) (accepted : request.accepts dep nowS = true)
      : MintMove dep request x w w ⟨.now, .ok nowS⟩ .arriving .admitted
  | create (data : Transaction)
      (pending : data.status = .pending) (fresh : x.freshId ∉ w.transactions)
      (creates : request.isConfirm = false)
      : MintMove dep request x w (w.put x.freshId data) ⟨.createTransaction data, .ok x.freshId⟩
          .admitted (.holding x.freshId)
  | createLost (data : Transaction) (error : JsError) (w' : World)
      (pending : data.status = .pending) (fresh : x.freshId ∉ w.transactions)
      (left : w' = w ∨ w' = w.put x.freshId data)
      : MintMove dep request x w w' ⟨.createTransaction data, .error error⟩ .admitted .admitted
  | claim (id : TxId) (data : TransactionUpdate) (row : Transaction) (reply : Except JsError Unit)
      (processing : data.status = .processing) (named : request.confirms? = some id)
      (found : w.transactions.lookup id = some row)
      : MintMove dep request x w (w.put id (row.apply data)) ⟨.updateTransaction id data, reply⟩
          .admitted (.holding id)
  | claimLost (id : TxId) (data : TransactionUpdate) (reply : Except JsError Unit) (w' : World)
      (processing : data.status = .processing)
      (left : Updated w w' id data)
      : MintMove dep request x w w' ⟨.updateTransaction id data, reply⟩ .admitted .admitted
  | mint (sourceAccount : String) (call : ContractCall) (id : TxId)
      (reply : Except JsError ContractResult) (mints : call.isMint = true)
      (route : call.isMintFromBasket = !request.isUsdc)
      : MintMove dep request x w (w.invoke call id) ⟨.invokeContract sourceAccount call id, reply⟩
          (.holding id) (.minted id)
  | mintLost (sourceAccount : String) (call : ContractCall) (id : TxId)
      (reply : Except JsError ContractResult) (w' : World) (mints : call.isMint = true)
      (route : call.isMintFromBasket = !request.isUsdc)
      (left : w' = w ∨ (∃ error, x.outcome = .lost error) ∧ w' = w.invoke call id)
      : MintMove dep request x w w' ⟨.invokeContract sourceAccount call id, reply⟩
          (.holding id) (.lapsed id)
  | redeem (sourceAccount : String) (call : ContractCall) (id : TxId)
      (reply : Except JsError ContractResult) (w' : World) (redeems : call.isMint = false)
      (left : w' = w ∨ w' = w.invoke call id)
      : MintMove dep request x w w' ⟨.invokeContract sourceAccount call id, reply⟩
          (.compensating id) (.compensating id)
  | fail (id : TxId) (data : TransactionUpdate) (reply : Except JsError Unit) (w' : World)
      (stage : Stage) (unrecorded : stage = .holding id ∨ stage = .lapsed id)
      (failed : data.status = .failed)
      (left : Updated w w' id data)
      : MintMove dep request x w w' ⟨.updateTransaction id data, reply⟩ stage (.lapsed id)
  | complete (id : TxId) (data : TransactionUpdate) (row : Transaction)
      (reply : Except JsError Unit) (stage : Stage)
      (minted : stage = .minted id ∨ stage = .compensating id)
      (completed : data.status = .completed) (found : w.transactions.lookup id = some row)
      : MintMove dep request x w (w.put id (row.apply data)) ⟨.updateTransaction id data, reply⟩
          stage (.recorded id)
  | completeLost (id : TxId) (data : TransactionUpdate) (reply : Except JsError Unit)
      (w' : World) (stage stage' : Stage)
      (minted : stage = .minted id ∧ stage' = (if request.isUsdc then .compensating id else
        .lapsed id)
        ∨ stage = .compensating id ∧ stage' = .lapsed id)
      (completed : data.status = .completed)
      (refused : x.outcome ≠ .done ∨ id ∉ w.transactions)
      (left : Updated w w' id data)
      : MintMove dep request x w w' ⟨.updateTransaction id data, reply⟩ stage stage'
  | auditLost (id entityId : TxId) (action : String) (reply : Except JsError Unit)
      (confirm : request.isConfirm = true) (refused : x.outcome ≠ .done)
      : MintMove dep request x w w ⟨.logAudit entityId action, reply⟩ (.recorded id) (.lapsed id)

section

variable {i : Nat} {x : Choice} {w w' : World}

theorem act_eq_some {op : MintOp} {reply : mintInterface.Reply op}
    (h : mintSemantics.act i op x w = some (reply, w'))
    : admissible op x w = true ∧ x.outcome.answer (effect x w op) w = (reply, w') :=
  Environment.act_eq_some h

theorem act_create {data : Transaction} {reply : Except JsError TxId}
    (h : mintSemantics.act i (.createTransaction data) x w = some (reply, w'))
    : x.freshId ∉ w.transactions
      ∧ (w' = w ∨ w' = w.put x.freshId data)
      ∧ (∀ id, reply = .ok id → id = x.freshId ∧ w' = w.put x.freshId data) := by
  obtain ⟨fresh, answered⟩ := act_eq_some h
  refine ⟨by simpa [admissible] using fresh, ?_, ?_⟩
  · rcases Outcome.answer_world answered with same | changed
    · exact .inl same
    · simp only [effect, World.create] at changed
      split at changed
      · exact .inl changed
      · exact .inr changed
  · rintro id rfl
    obtain ⟨-, taken⟩ := Outcome.answer_ok answered
    simp only [effect, World.create] at taken
    split at taken
    · cases taken
    · cases taken
      exact ⟨rfl, rfl⟩

theorem act_update {id : TxId} {data : TransactionUpdate} {reply : Except JsError Unit}
    (h : mintSemantics.act i (.updateTransaction id data) x w = some (reply, w'))
    : Updated w w' id data
      ∧ (reply = .ok () →
          ∃ row, w.transactions.lookup id = some row ∧ w' = w.put id (row.apply data))
      ∧ (reply.isOk = false → x.outcome ≠ .done ∨ id ∉ w.transactions) := by
  obtain ⟨-, answered⟩ := act_eq_some h
  cases found : w.transactions.lookup id with
  | none =>
      have absent : id ∉ w.transactions := AList.lookup_eq_none.mp found
      refine ⟨?_, ?_, fun _ => .inr absent⟩
      · rcases Outcome.answer_world answered with same | changed
        · exact .inl same
        · exact .inl (by simpa [effect, World.update, found] using changed)
      · rintro rfl
        obtain ⟨-, taken⟩ := Outcome.answer_ok answered
        simp [effect, World.update, found] at taken
  | some row =>
      refine ⟨?_, ?_, ?_⟩
      · rcases Outcome.answer_world answered with same | changed
        · exact .inl same
        · exact .inr ⟨row, found, by simpa [effect, World.update, found] using changed⟩
      · rintro rfl
        obtain ⟨-, taken⟩ := Outcome.answer_ok answered
        simp only [effect, World.update, found, Prod.mk.injEq] at taken
        exact ⟨row, rfl, taken.2.symm⟩
      · intro refused
        refine .inl (fun done => ?_)
        simp only [Outcome.answer, done, effect, World.update, found, Prod.mk.injEq] at answered
        rw [← answered.1] at refused
        cases refused

theorem act_invoke {sourceAccount : String} {call : ContractCall} {id : TxId}
    {reply : Except JsError ContractResult}
    (h : mintSemantics.act i (.invokeContract sourceAccount call id) x w = some (reply, w'))
    : (w' = w ∨ w' = w.invoke call id)
      ∧ (reply.isOk = true → w' = w.invoke call id)
      ∧ (reply.isOk = false →
          w' = w ∨ (∃ error, x.outcome = .lost error) ∧ w' = w.invoke call id) := by
  obtain ⟨-, answered⟩ := act_eq_some h
  unfold Outcome.answer at answered
  cases outcome : x.outcome with
  | done =>
      rw [outcome] at answered
      cases answered
      simp
  | failed error =>
      rw [outcome] at answered
      cases answered
      simp
  | lost error =>
      rw [outcome] at answered
      cases answered
      simp [effect]

theorem act_same {op : MintOp} {reply : mintInterface.Reply op}
    (h : mintSemantics.act i op x w = some (reply, w')) (keeps : (effect x w op).2 = w)
    : w' = w := by
  obtain ⟨-, answered⟩ := act_eq_some h
  rcases Outcome.answer_world answered with same | changed
  · exact same
  · exact changed.trans keeps

/-- What the protocol and the environment together make of a call. Witness: case analysis
on the call and on whether it was answered with a value.
-/
theorem MintMove.of_act {dep : Deployment} {request : MintRequest} {op : MintOp}
    {reply : mintInterface.Reply op} {stage stage' : Stage}
    (answered : mintSemantics.act i op x w = some (reply, w'))
    (next : nextStage dep request stage op reply = some stage')
    : MintMove dep request x w w' ⟨op, reply⟩ stage stage' := by
  cases op with
  | now =>
      obtain rfl := act_same answered rfl
      cases reply with
      | error e =>
          obtain rfl := Option.some.inj next
          exact .read _ _ (by simp) (by simp)
      | ok nowS =>
          obtain rfl := Option.some.inj next
          unfold afterClock
          split
          · rename_i verified
            obtain ⟨rfl, accepted⟩ := verified
            exact .verify nowS accepted
          · exact .read _ _ (by simp) (by simp)
  | createTransaction data =>
      obtain ⟨fresh, left, created⟩ := act_create answered
      simp only [nextStage] at next
      split at next
      · rename_i checked
        obtain ⟨rfl, pending, creates⟩ := checked
        cases reply with
        | error e =>
            obtain rfl := Option.some.inj next
            exact .createLost data e w' pending fresh left
        | ok id =>
            obtain ⟨rfl, rfl⟩ := created id rfl
            obtain rfl := Option.some.inj next
            exact .create data pending fresh (by simpa using creates)
      · cases next
  | updateTransaction id data =>
      obtain ⟨left, written, refused⟩ := act_update answered
      simp only [nextStage] at next
      cases stage with
      | arriving | recorded => cases next
      | admitted =>
          simp only [afterUpdate] at next
          split at next
          · rename_i checked
            obtain ⟨processing, named⟩ := checked
            cases reply with
            | error e =>
                obtain rfl := Option.some.inj next
                exact .claimLost id data _ w' processing left
            | ok _ =>
                obtain ⟨row, found, rfl⟩ := written rfl
                obtain rfl := Option.some.inj next
                exact .claim id data row _ processing named found
          · cases next
      | holding row | lapsed row =>
          simp only [afterUpdate] at next
          split at next
          · rename_i checked
            obtain ⟨failed, rfl⟩ := checked
            obtain rfl := Option.some.inj next
            exact .fail row data _ w' _ (by simp) failed left
          · cases next
      | minted row | compensating row =>
          simp only [afterUpdate] at next
          split at next
          · rename_i checked
            obtain ⟨completed, rfl⟩ := checked
            obtain rfl := Option.some.inj next
            cases reply with
            | error e =>
                exact .completeLost row data _ w' _ _ (by simp) completed (refused rfl) left
            | ok _ =>
                obtain ⟨row', found, rfl⟩ := written rfl
                exact .complete row data row' _ _ (by simp) completed found
          · cases next
  | logAudit entityId action =>
      obtain rfl := act_same answered rfl
      simp only [nextStage] at next
      cases stage with
      | recorded id =>
          obtain rfl := Option.some.inj next
          split
          · rename_i checked
            obtain ⟨unanswered, confirm⟩ := checked
            have refused : x.outcome ≠ .done := by
              intro done
              obtain ⟨-, taken⟩ := act_eq_some answered
              simp only [Outcome.answer, done, effect, Prod.mk.injEq, and_true] at taken
              rw [← taken] at unanswered
              cases unanswered
            exact .auditLost id entityId action _ confirm refused
          · exact .read _ _ (by simp) (by simp)
      | lapsed id =>
          obtain rfl := Option.some.inj next
          exact .read _ _ (by simp) (by simp)
      | _ => cases next
  | invokeContract sourceAccount call id =>
      obtain ⟨left, invoked, unanswered⟩ := act_invoke answered
      simp only [nextStage] at next
      cases stage with
      | holding row =>
          simp only [afterInvoke] at next
          split at next
          · rename_i checked
            obtain ⟨mints, route, rfl⟩ := checked
            obtain rfl := Option.some.inj next
            cases reply with
            | error e => exact .mintLost sourceAccount call row _ w' mints route (unanswered rfl)
            | ok _ =>
                obtain rfl := invoked rfl
                exact .mint sourceAccount call row _ mints route
          · cases next
      | compensating row =>
          simp only [afterInvoke] at next
          split at next
          · rename_i checked
            obtain ⟨redeems, rfl⟩ := checked
            obtain rfl := Option.some.inj next
            exact .redeem sourceAccount call row _ w' (by simpa using redeems) left
          · cases next
      | _ => cases next
  | _ =>
      obtain rfl := act_same answered rfl
      obtain rfl := Option.some.inj next
      exact .read _ _ (by simp) (by simp)

end

-- Runs

instance : Inhabited MintRequest :=
  ⟨.usdc { usdcAmount := 0, walletAddress := "", userId := none, organizationId := none }⟩

abbrev MintConfig := Config mintInterface MintResult World

/-- The requests, all before their first call, on a table. -/
def initialConfig (dep : Deployment) (requests : List MintRequest)
    (transactions : AList (fun _ : TxId => Transaction))
    : MintConfig :=
  .initial (World.start transactions) (requests.map (MintRequest.program dep))

def requestAt (requests : List MintRequest) (i : Nat) : MintRequest :=
  requests[i]?.getD default

/-- The stage request `i` has come to by its calls so far. -/
def stageOf (dep : Deployment) (requests : List MintRequest) (c : MintConfig) (i : Nat) : Stage :=
  ((mintProtocol dep).phase (fun i => (requestAt requests i).start) c i).stage

/-- Every request keeps to the protocol. -/
abbrev Governed (dep : Deployment) (requests : List MintRequest) (c : MintConfig) : Prop :=
  (mintProtocol dep).Governs (fun i => (requestAt requests i).start) (fun _ _ _ => True)
    (fun _ _ _ => True) c

section

variable {dep : Deployment} {requests : List MintRequest}

theorem governed_initial {transactions : AList (fun _ : TxId => Transaction)}
    : Governed dep requests (initialConfig dep requests transactions) := by
  apply Protocol.governs_initial
  intro i prog found
  rw [List.getElem?_map, Option.map_eq_some_iff] at found
  obtain ⟨request, found, rfl⟩ := found
  simp only [requestAt, found, Option.getD_some]
  exact wp_program dep request

theorem replay_request {start phase : Phase} {past : List (Event mintInterface)}
    (h : (mintProtocol dep).replay start past = some phase)
    : phase.request = start.request := by
  induction past generalizing phase with
  | nil =>
      obtain rfl := Option.some.inj h
      rfl
  | cons event older ih =>
      obtain ⟨before, replayed, moved⟩ := Option.bind_eq_some_iff.mp h
      rw [mintProtocol_next] at moved
      obtain ⟨stage, -, rfl⟩ := Option.map_eq_some_iff.mp moved
      have same : before.request = start.request := ih replayed
      exact same

@[simp] theorem start_request (request : MintRequest) : request.start.request = request := by
  cases request <;> rfl

theorem phase_request (c : MintConfig) (i : Nat)
    : ((mintProtocol dep).phase (fun i => (requestAt requests i).start) c i).request
      = requestAt requests i := by
  unfold Protocol.phase
  cases replayed : (mintProtocol dep).replay (requestAt requests i).start (c.past i) with
  | none => simp
  | some phase => simp [replay_request replayed]

theorem mint_step {c c' : MintConfig} {i : Nat} {x : Choice}
    (governed : Governed dep requests c) (stepped : c.step mintSemantics i x = some c')
    : ∃ event,
        c.live i = true
        ∧ c.pending? i = some event.op
        ∧ MintMove dep (requestAt requests i) x c.world c'.world event
            (stageOf dep requests c i) (stageOf dep requests c' i)
        ∧ c'.past i = event :: c.past i
        ∧ ∀ j, j ≠ i →
            stageOf dep requests c' j = stageOf dep requests c j
            ∧ c'.live j = c.live j
            ∧ c'.past j = c.past j := by
  obtain ⟨op, reply, live, pending, answered, moved, past, others, -⟩ :=
    governed.step_cases stepped
  refine ⟨⟨op, reply⟩, live, pending, ?_, past, ?_⟩
  · rw [mintProtocol_next] at moved
    obtain ⟨stage, next, same⟩ := Option.map_eq_some_iff.mp moved
    rw [phase_request] at next
    have reached : stageOf dep requests c' i = stage := by
      rw [stageOf, ← same]
    rw [reached]
    exact .of_act answered next
  · intro j other
    obtain ⟨samePhase, sameLive, samePast⟩ := others j other
    exact ⟨congrArg Phase.stage samePhase, sameLive, samePast⟩

theorem past_initial {transactions : AList (fun _ : TxId => Transaction)} (i : Nat)
    : (initialConfig dep requests transactions).past i = [] :=
  Config.past_initial

theorem stageOf_initial {transactions : AList (fun _ : TxId => Transaction)} (i : Nat)
    : stageOf dep requests (initialConfig dep requests transactions) i
      = (requestAt requests i).start.stage := by
  simp [stageOf, initialConfig]

theorem stageOf_of_none {c : MintConfig} {i : Nat} (absent : c.threads[i]? = none)
    : stageOf dep requests c i = (requestAt requests i).start.stage := by
  rw [stageOf, Protocol.phase_of_none _ absent]

theorem start_row? (request : MintRequest) : request.start.stage.row? = none := by
  cases request <;> rfl

end

-- Sample requests

def sampleWallet : String := String.ofList (List.replicate 56 'G')

def sampleDeployment : Deployment where
  confirmationSecret := some "secret"
  sha256Hex := id
  hmacSha256 := fun _ _ => [171]
  isValidStellarAddress := fun _ => true

def sampleDeposit : DepositRequest where
  apiKey := some { userId := some "user", organizationId := none }
  audience := none
  idempotencyHeader := none
  body :=
    { currency := .text "NGN"
      amount := .text "100"
      wallet_address := .text sampleWallet
      fintech_tx_id := .absent }

/-- A signed confirmation of the row `t1`. -/
def sampleConfirm (amount : String) : ConfirmRequest where
  timestampHeader := some "0"
  signatureHeader := some "ab"
  rawBody := some "body"
  body :=
    { transaction_id := .text "t1"
      partner_reference := .text "reference"
      amount := .text amount
      currency := .text "NGN"
      confirmed_at := .text "1" }

def sampleRate : AcbuBackend.Rates.AcbuRate where
  acbuUsd := 1
  acbuEur := none
  acbuGbp := none
  acbuNgn := some 100
  acbuKes := none
  acbuZar := none
  acbuRwf := none
  acbuGhs := none
  acbuEgp := none
  acbuMad := none
  acbuTzs := none
  acbuUgx := none
  acbuXof := none
  change24hUsd := none
  timestamp := 0

/-- An environment in which every call succeeds. -/
def sampleChoice : Choice where
  latestRate := some sampleRate
  wallet := some sampleWallet
  publicKey := some "operator"
  mintingAddress := "minting"
  freshId := "t1"
  contractResult := { transactionHash := "hash", result := 10000000 }

/-- The row of `sampleDeposit` as it is created. -/
def sampleRow : Transaction where
  userId := some "user"
  status := .pending
  localCurrency := some "NGN"
  localAmount := some 100

end AcbuBackend.Mint
