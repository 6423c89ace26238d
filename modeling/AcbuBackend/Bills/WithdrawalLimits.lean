import AcbuBackend.Bills.LimitProtocol
import AcbuBackend.Bills.TerminalStatus
import AcbuBackend.Runtime.Tables

/-! Withdrawals and their limits.
A check sums the rows that `buildActorWhere` selects at some moment before the row of its own
payment is recorded. Limits are kept where, at that later moment, the actor has withdrawn no
more than the check was told.
-/

namespace AcbuBackend.Bills

open Effects AcbuBackend.Runtime Burn
open Mint (TxId TransactionStatus)

-- What an actor has withdrawn

/-- The withdrawals of an actor in one currency. -/
structure Account where
  actor : ActorWhere
  currency : String

/-- Whether a withdrawal by a user, in the name of an organisation, is the actor's. A user's
withdrawals are also those of the user's organisation.
-/
def Setting.belongs (setting : Setting) (actor : ActorWhere) (userId organizationId : Option String)
    : Bool :=
  match actor with
  | .user user => userId = some user
  | .organization organization =>
      organizationId = some organization || userId.bind setting.organizationOf = some organization
  | .noUser => buildActorWhere userId organizationId = .noUser

/-- The organisation a row names. -/
def Transaction.organization (row : Transaction) : Option String :=
  row.organizationId.or row.rateSnapshot.organizationId

/-- The same day, or the same month. -/
def Setting.together (setting : Setting) (window : Window) (a b : Instant) : Bool :=
  setting.startOf window a = setting.startOf window b

/-- A withdrawal of the account that is not failed. -/
def Transaction.counts (setting : Setting) (account : Account) (row : Transaction) : Bool :=
  (row.type = "burn" || row.type = "bill_payment") && row.localCurrency = some account.currency
  && counted row.status && setting.belongs account.actor row.userId row.organization

/-- What a row adds to the withdrawals of an account in the window of `time`. -/
def rowAmount (setting : Setting) (account : Account) (createdAt : TxId → Instant) (window : Window)
    (time : Instant) (id : TxId) (row : Transaction)
    : ℚ :=
  if row.counts setting account && setting.together window (createdAt id) time
  then row.acbuAmountBurned.getD 0 else 0

/-- What a burn adds to them. -/
def burnAmount (setting : Setting) (account : Account) (burnedAt : BurnId → Instant)
    (window : Window) (time : Instant) (id : BurnId) (row : BurnTransaction)
    : ℚ :=
  if row.currency.code = account.currency && row.status ≠ .FAILED
    && setting.belongs account.actor (some row.userId) none
    && setting.together window (burnedAt id) time
  then row.acbuAmount else 0

/-- The ACBU amount of the account's withdrawals in the window of `time`, in both tables. -/
def World.withdrawn (setting : Setting) (account : Account) (w : World) (window : Window)
    (time : Instant)
    : ℚ :=
  tableSum w.transactions (rowAmount setting account w.createdAt window time)
  + tableSum w.burn.burns (burnAmount setting account w.burnedAt window time)

/-- The USD value of the account's withdrawals is within the limit, in every day and month. -/
def WithinLimits (setting : Setting) (account : Account) (rate : ℚ) (limit : Window → ℚ) (w : World)
    : Prop :=
  ∀ window time, w.withdrawn setting account window time * rate ≤ limit window

-- Runs

/-- The requests on the tables as they are. -/
def withdrawalConfig (dep : Deployment) (withdrawals : List Withdrawal) (world : World)
    : BillsConfig :=
  initialConfig dep (withdrawals.map Withdrawal.toRequest) world

/-- The stages the requests start in. -/
def limitStart (withdrawals : List Withdrawal) (i : Nat) : LimitStage :=
  (withdrawals[i]?).elim .reading Withdrawal.start

/-- How far request `i` is. -/
abbrev limitStage (withdrawals : List Withdrawal) (c : BillsConfig) (i : Nat) : LimitStage :=
  limitProtocol.phase (limitStart withdrawals) c i

/-- What the check of a request was told about a window. -/
def LimitStage.told : LimitStage → Window → Option ℚ
  | .paying _ check, window => (check.told window).map Prod.snd
  | _, _ => none

/-- The limits and the rate are the configured ones. -/
def Configured (limits : LimitsSnapshot) (rate : ℚ) (x : Choice) : Prop :=
  x.limits = limits ∧ x.acbuUsdRate = rate

instance (limits : LimitsSnapshot) (rate : ℚ) (x : Choice) : Decidable (Configured limits rate x) :=
  inferInstanceAs (Decidable (_ ∧ _))

/-- When a payment of the account is recorded, the account's withdrawals in the day and in the
month amount to no more than the limit check of the payment was told.
-/
def SeesWithdrawals (setting : Setting) (account : Account) (withdrawals : List Withdrawal)
    (c : BillsConfig) (i : Nat) (x : Choice)
    : Prop :=
  match c.pending? i with
  | some (.createTransaction data) =>
      x.outcome.isFailed = false → data.counts setting account = true →
        [Window.startOfDay, .startOfMonth].all (fun window =>
          ((limitStage withdrawals c i).told window).any (fun told =>
            c.world.withdrawn setting account window x.time ≤ told)) = true
  | _ => True

instance (setting : Setting) (account : Account) (withdrawals : List Withdrawal) (c : BillsConfig)
    (i : Nat) (x : Choice)
    : Decidable (SeesWithdrawals setting account withdrawals c i x) := by
  unfold SeesWithdrawals
  rcases c.pending? i with _ | op
  · exact .isTrue trivial
  · cases op with
    | createTransaction data => exact inferInstance
    | _ => exact .isTrue trivial

-- What calls change

variable {setting : Setting} {dep : Deployment} {account : Account} {withdrawals : List Withdrawal}
  {limits : LimitsSnapshot} {rate : ℚ} {limit : Window → ℚ}

/-- The rows of withdrawals are the same. -/
structure SameLedger (w w' : World) : Prop where
  transactions : w'.transactions = w.transactions
  createdAt : w'.createdAt = w.createdAt
  burns : w'.burn.burns = w.burn.burns
  burnedAt : w'.burnedAt = w.burnedAt

theorem SameLedger.refl {w : World} : SameLedger w w :=
  ⟨rfl, rfl, rfl, rfl⟩

theorem SameLedger.withdrawn_eq {w w' : World} (h : SameLedger w w') {window : Window}
    {time : Instant}
    : w'.withdrawn setting account window time = w.withdrawn setting account window time := by
  rw [World.withdrawn, World.withdrawn, h.transactions, h.createdAt, h.burns, h.burnedAt]

/-- A world in which a row was written over. -/
def World.rewritten (w : World) (id : TxId) (row : Transaction) (data : TransactionUpdate)
    : World :=
  { w with
    transactions := w.transactions.insert id (row.apply data)
    updates := { id, before := row.status, data } :: w.updates }

theorem ledger_of_act {i : Nat} {op : BillsOp} {x : Choice} {w w' : World}
    {reply : billsInterface.Reply op} {stage stage' : LimitStage}
    (h : (billsSemantics setting).act i op x w = some (reply, w'))
    (moved : stage.next op reply = some stage')
    : SameLedger w w'
      ∨ (∃ data, op = .createTransaction data ∧ x.outcome.isFailed = false
          ∧ x.freshId ∉ w.transactions ∧ w' = w.create x.freshId x.time data)
      ∨ ∃ id data row, op = .updateTransaction id data ∧ w.transactions.lookup id = some row
          ∧ w' = w.rewritten id row data := by
  obtain ⟨possible, answered⟩ := Environment.act_eq_some h
  rcases Outcome.answer_cases answered with ⟨-, rfl⟩ | ⟨effective, left⟩
  · exact .inl .refl
  · have left : w' = (effect setting x w op).2 := left
    cases op with
    | burn op =>
        refine .inl (left ▸ ?_)
        cases stage with
        | reading => cases op <;> first | exact .refl | cases moved
        | paying request check =>
            cases op <;> first | exact .refl | (cases reply <;> cases moved)
        | recorded entry => cases moved
    | createTransaction data =>
        have fresh : x.freshId ∉ w.transactions := by
          simpa [billsEnvironment, admissible] using possible
        exact .inr (.inl ⟨data, rfl, effective, fresh, left⟩)
    | updateTransaction id data =>
        simp only [effect, World.update] at left
        split at left
        · exact .inl (left ▸ .refl)
        · rename_i row found
          exact .inr (.inr ⟨id, data, row, rfl, found, left⟩)
    | payBill request =>
        refine .inl (left ▸ ?_)
        simp only [effect]
        split <;> exact ⟨rfl, rfl, rfl, rfl⟩
    | _ => exact .inl (left ▸ ⟨rfl, rfl, rfl, rfl⟩)

theorem withdrawn_create {w : World} {id : TxId} {created time : Instant} {data : Transaction}
    {window : Window} (fresh : id ∉ w.transactions)
    : (w.create id created data).withdrawn setting account window time
      = rowAmount setting account (fun _ => created) window time id data
        + w.withdrawn setting account window time := by
  have others : tableSum w.transactions
      (rowAmount setting account (Function.update w.createdAt id created) window time)
      = tableSum w.transactions (rowAmount setting account w.createdAt window time) := by
    refine tableSum_congr fun other row found => ?_
    have different : other ≠ id := by
      rintro rfl
      exact fresh (AList.lookup_isSome.mp (found ▸ rfl))
    rw [rowAmount, rowAmount, Function.update_of_ne different]
  simp only [World.withdrawn, World.create, tableSum_insert_fresh fresh, others]
  rw [add_assoc]
  congr 1
  simp [rowAmount]

theorem withdrawn_rewritten_le {w : World} {id : TxId} {row : Transaction}
    {data : TransactionUpdate}
    {window : Window} {time : Instant} (found : w.transactions.lookup id = some row)
    (amount : 0 ≤ row.acbuAmountBurned.getD 0)
    (still : counted data.status = true → counted row.status = true)
    (named : data.rateSnapshot.organizationId = row.rateSnapshot.organizationId)
    : (w.rewritten id row data).withdrawn setting account window time
      ≤ w.withdrawn setting account window time := by
  have replaced : tableSum (w.transactions.insert id (row.apply data))
        (rowAmount setting account w.createdAt window time)
      + rowAmount setting account w.createdAt window time id row
      = rowAmount setting account w.createdAt window time id (row.apply data)
        + tableSum w.transactions (rowAmount setting account w.createdAt window time) :=
    tableSum_insert_of_lookup found
  have lower : rowAmount setting account w.createdAt window time id (row.apply data)
      ≤ rowAmount setting account w.createdAt window time id row := by
    have organization : (row.apply data).organization = row.organization := by
      simp [Transaction.organization, Transaction.apply, named]
    unfold rowAmount
    by_cases standing : counted data.status = true
    · have same : (row.apply data).counts setting account = row.counts setting account := by
        simp only [Transaction.counts, organization]
        simp only [Transaction.apply, standing, still standing]
        rfl
      rw [same]
      exact le_rfl
    · have out : (row.apply data).counts setting account = false := by
        simp [Transaction.counts, Transaction.apply, standing]
      rw [out]
      simp only [Bool.false_and, Bool.false_eq_true, if_false]
      split
      · exact amount
      · exact le_rfl
  simp only [World.withdrawn, World.rewritten]
  linarith

-- The invariant

/-- What an entry says of its row, and that the event and its lookup are about that row. -/
structure Entry.Agrees (entry : Entry) (w : World) : Prop where
  stored : ∃ row, w.transactions.lookup entry.id = some row
    ∧ row.rateSnapshot.organizationId = entry.organizationId
    ∧ (entry.live = true → counted row.status = true)
  event : ∀ id, entry.event = some id → id = entry.id
  read : ∀ organizationId, entry.read = some organizationId → organizationId = entry.organizationId

/-- What the stage of a request says of the configuration and of the rows. -/
def StageAgrees (withdrawals : List Withdrawal) (limits : LimitsSnapshot) (rate : ℚ) (w : World)
    : LimitStage → Prop
  | .reading => True
  | .paying request check =>
      .payBill request ∈ withdrawals
      ∧ (∀ read, check.limits = some read → read = limits)
      ∧ ∀ read, check.rate = some read → read = rate
  | .recorded entry => entry.Agrees w

/-- The row a request has recorded. -/
def LimitStage.row? : LimitStage → Option TxId
  | .recorded entry => some entry.id
  | _ => none

/-- The limits are kept, and every request is on its way as it should be. -/
structure LimitsKept (setting : Setting) (account : Account) (withdrawals : List Withdrawal)
    (limits : LimitsSnapshot) (rate : ℚ) (limit : Window → ℚ) (c : BillsConfig)
    : Prop where
  stages : ∀ i, StageAgrees withdrawals limits rate c.world (limitStage withdrawals c i)
  distinct : ∀ i j id, (limitStage withdrawals c i).row? = some id →
    (limitStage withdrawals c j).row? = some id → i = j
  amounts : ∀ id row, c.world.transactions.lookup id = some row → 0 ≤ row.acbuAmountBurned.getD 0
  within : WithinLimits setting account rate limit c.world

theorem StageAgrees.mono {w w' : World} {stage : LimitStage}
    (h : StageAgrees withdrawals limits rate w stage)
    (same : ∀ id, stage.row? = some id → w'.transactions.lookup id = w.transactions.lookup id)
    : StageAgrees withdrawals limits rate w' stage := by
  cases stage with
  | reading => trivial
  | paying request check => exact h
  | recorded entry =>
      obtain ⟨⟨row, found, known⟩, event, read⟩ := h
      exact ⟨⟨row, (same entry.id rfl).trans found, known⟩, event, read⟩

theorem StageAgrees.mem {w : World} {stage : LimitStage} {id : TxId}
    (h : StageAgrees withdrawals limits rate w stage) (recorded : stage.row? = some id)
    : id ∈ w.transactions := by
  cases stage with
  | reading => cases recorded
  | paying request check => cases recorded
  | recorded entry =>
      obtain rfl := Option.some.inj recorded
      obtain ⟨row, found, -⟩ := Entry.Agrees.stored h
      exact AList.lookup_isSome.mp (found ▸ rfl)

section

variable {c c' : BillsConfig} {i : Nat}

theorem LimitsKept.quiet (h : LimitsKept setting account withdrawals limits rate limit c)
    (others : ∀ j, j ≠ i → limitStage withdrawals c' j = limitStage withdrawals c j)
    (same : SameLedger c.world c'.world)
    (mine : StageAgrees withdrawals limits rate c'.world (limitStage withdrawals c' i))
    (entry : (limitStage withdrawals c' i).row? = (limitStage withdrawals c i).row?)
    : LimitsKept setting account withdrawals limits rate limit c' := by
  have entries : ∀ j, (limitStage withdrawals c' j).row? = (limitStage withdrawals c j).row? := by
    intro j
    by_cases own : j = i
    · rw [own]
      exact entry
    · rw [others j own]
  constructor
  · intro j
    by_cases own : j = i
    · rw [own]
      exact mine
    · rw [others j own]
      exact (h.stages j).mono fun id _ => by rw [same.transactions]
  · intro j k id
    rw [entries j, entries k]
    exact h.distinct j k id
  · rw [same.transactions]
    exact h.amounts
  · intro window time
    rw [same.withdrawn_eq]
    exact h.within window time

theorem LimitsKept.rewritten (h : LimitsKept setting account withdrawals limits rate limit c)
    (others : ∀ j, j ≠ i → limitStage withdrawals c' j = limitStage withdrawals c j)
    (rate_nonneg : 0 ≤ rate) {id : TxId} {row : Transaction} {data : TransactionUpdate}
    (found : c.world.transactions.lookup id = some row)
    (world : c'.world = c.world.rewritten id row data)
    (still : counted data.status = true → counted row.status = true)
    (named : data.rateSnapshot.organizationId = row.rateSnapshot.organizationId)
    (before : (limitStage withdrawals c i).row? = some id)
    (after : (limitStage withdrawals c' i).row? = some id)
    (mine : StageAgrees withdrawals limits rate c'.world (limitStage withdrawals c' i))
    : LimitsKept setting account withdrawals limits rate limit c' := by
  have entries : ∀ j, (limitStage withdrawals c' j).row? = (limitStage withdrawals c j).row? := by
    intro j
    by_cases own : j = i
    · rw [own, after, before]
    · rw [others j own]
  constructor
  · intro j
    by_cases own : j = i
    · rw [own]
      exact mine
    · rw [others j own]
      refine (h.stages j).mono fun other recorded => ?_
      have different : other ≠ id := by
        rintro rfl
        exact own (h.distinct j i other recorded before)
      rw [world]
      exact AList.lookup_insert_ne different
  · intro j k other
    rw [entries j, entries k]
    exact h.distinct j k other
  · intro other stored
    rw [world]
    by_cases same : other = id
    · subst same
      intro read
      obtain rfl : row.apply data = stored := by simpa [World.rewritten] using read
      exact h.amounts other row found
    · intro read
      exact h.amounts other stored ((AList.lookup_insert_ne same).symm.trans read)
  · intro window time
    have lower : (c.world.rewritten id row data).withdrawn setting account window time
        ≤ c.world.withdrawn setting account window time :=
      withdrawn_rewritten_le found (h.amounts id row found) still named
    rw [world]
    exact (mul_le_mul_of_nonneg_right lower rate_nonneg).trans (h.within window time)

theorem cleared_le {request : BillPaymentRequest} {check : LimitCheck} {currency : Option String}
    {window : Window} {told : Option String × ℚ}
    (agrees : StageAgrees withdrawals limits rate c.world (.paying request check))
    (cleared : check.clears request currency = true) (asked : check.told window = some told)
    : ∃ config, limits.audience? request.audienceOf = some config
        ∧ (told.2 + request.amount) * rate ≤ withdrawalCap config window := by
  obtain ⟨-, readLimits, readRate⟩ := agrees
  simp only [LimitCheck.clears, Option.any_eq_true, Bool.and_eq_true] at cleared
  obtain ⟨config, found, rate', read, daily, monthly⟩ := cleared
  obtain ⟨snapshot, known, audience⟩ := Option.bind_eq_some_iff.mp found
  obtain rfl := readLimits snapshot known
  obtain rfl := readRate rate' read
  refine ⟨config, audience, ?_⟩
  have within : check.clearsWindow config rate' request.amount currency window = true := by
    cases window
    · exact daily
    · exact monthly
  simp only [LimitCheck.clearsWindow, asked, Option.any_some, Bool.and_eq_true,
    decide_eq_true_eq] at within
  exact within.2

theorem withdrawn_together {w : World} {window : Window} {a b : Instant}
    (h : setting.together window a b = true)
    : w.withdrawn setting account window a = w.withdrawn setting account window b := by
  have same : setting.startOf window a = setting.startOf window b := by
    simpa [Setting.together] using h
  have turn : ∀ t, setting.together window t a = setting.together window t b := by
    intro t
    rw [Setting.together, Setting.together, same]
  have rows : rowAmount setting account w.createdAt window a
      = rowAmount setting account w.createdAt window b := by
    funext id row
    rw [rowAmount, rowAmount, turn]
  have burns : burnAmount setting account w.burnedAt window a
      = burnAmount setting account w.burnedAt window b := by
    funext id row
    rw [burnAmount, burnAmount, turn]
  rw [World.withdrawn, World.withdrawn, rows, burns]

theorem LimitsKept.created (h : LimitsKept setting account withdrawals limits rate limit c)
    (others : ∀ j, j ≠ i → limitStage withdrawals c' j = limitStage withdrawals c j)
    {request : BillPaymentRequest} {check : LimitCheck} {data : Transaction} {id : TxId}
    {time : Instant} (before : limitStage withdrawals c i = .paying request check)
    (fresh : id ∉ c.world.transactions) (world : c'.world = c.world.create id time data)
    (records : request.records data = true)
    (cleared : check.clears request data.localCurrency = true) (amount : 0 ≤ request.amount)
    (cap : setting.belongs account.actor request.userId request.organizationId = true →
      ∀ config, limits.audience? request.audienceOf = some config →
        ∀ window, withdrawalCap config window ≤ limit window)
    (rate_nonneg : 0 ≤ rate)
    (sees : data.counts setting account = true → ∀ window, ∃ told,
      check.told window = some told
      ∧ c.world.withdrawn setting account window time ≤ told.2)
    (mine : StageAgrees withdrawals limits rate c'.world (limitStage withdrawals c' i))
    (after : ∀ other, (limitStage withdrawals c' i).row? = some other → other = id)
    : LimitsKept setting account withdrawals limits rate limit c' := by
  have agrees := h.stages i
  rw [before] at agrees
  simp only [BillPaymentRequest.records, Bool.and_eq_true, decide_eq_true_eq] at records
  obtain ⟨⟨⟨⟨user, column⟩, organization⟩, paid⟩, -⟩ := records
  have stored : ∀ j, j ≠ i → ∀ other, (limitStage withdrawals c j).row? = some other →
      other ≠ id := by
    rintro j - other recorded rfl
    exact fresh ((h.stages j).mem recorded)
  constructor
  · intro j
    by_cases own : j = i
    · rw [own]
      exact mine
    · rw [others j own]
      refine (h.stages j).mono fun other recorded => ?_
      rw [world]
      exact AList.lookup_insert_ne (stored j own other recorded)
  · intro j k other first second
    by_cases ownJ : j = i <;> by_cases ownK : k = i
    · rw [ownJ, ownK]
    · rw [ownJ] at first
      rw [others k ownK] at second
      exact absurd (after other first) (stored k ownK other second)
    · rw [others j ownJ] at first
      rw [ownK] at second
      exact absurd (after other second) (stored j ownJ other first)
    · rw [others j ownJ] at first
      rw [others k ownK] at second
      exact h.distinct j k other first second
  · intro other row
    rw [world]
    by_cases same : other = id
    · subst same
      intro read
      obtain rfl : data = row := by simpa [World.create] using read
      rw [paid]
      exact amount
    · intro read
      exact h.amounts other row ((AList.lookup_insert_ne same).symm.trans read)
  · intro window now
    rw [world, withdrawn_create fresh, rowAmount]
    split
    · rename_i counts
      obtain ⟨counts, together⟩ := Bool.and_eq_true_iff.mp counts
      have belongs : setting.belongs account.actor request.userId request.organizationId
          = true := by
        have own : data.organization = request.organizationId := by
          simp [Transaction.organization, column, organization]
        rw [← own, ← user]
        exact (Bool.and_eq_true_iff.mp counts).2
      obtain ⟨told, asked, seen⟩ := sees counts window
      obtain ⟨config, audience, within⟩ := cleared_le agrees cleared asked
      rw [← withdrawn_together together, paid, Option.getD_some]
      calc (request.amount + c.world.withdrawn setting account window time) * rate
          ≤ (told.2 + request.amount) * rate :=
            mul_le_mul_of_nonneg_right (by linarith) rate_nonneg
        _ ≤ withdrawalCap config window := within
        _ ≤ limit window := cap belongs config audience window
    · rw [zero_add]
      exact h.within window now

theorem checked_of_act {x : Choice} {w w' : World} {i : Nat} {op : BurnOp}
    {reply : burnInterface.Reply op} {request : BillPaymentRequest} {check check' : LimitCheck}
    (known : Configured limits rate x)
    (answered : (billsSemantics setting).act i (.burn op) x w = some (reply, w'))
    (told : check.next request op reply = some check')
    (agrees : StageAgrees withdrawals limits rate w (.paying request check))
    : StageAgrees withdrawals limits rate w' (.paying request check') := by
  have answer := (Environment.act_eq_some answered).2
  cases op with
  | getReserveStatus =>
      obtain rfl := Option.some.inj told
      exact agrees
  | getLimitsSnapshot =>
      cases reply with
      | ok read =>
          obtain rfl := Option.some.inj told
          have same : x.limits = read := Except.ok.inj (congrArg Prod.fst
            (Outcome.answer_ok answer).2)
          refine ⟨agrees.1, fun other found => ?_, agrees.2.2⟩
          rw [← Option.some.inj found, ← same]
          exact known.1
      | error error =>
          obtain rfl := Option.some.inj told
          exact agrees
  | sumAcbuAmountBurned window currency actor =>
      simp only [LimitCheck.next] at told
      split at told
      · cases reply with
        | ok sum =>
            obtain rfl := Option.some.inj told
            cases window <;> exact agrees
        | error error =>
            obtain rfl := Option.some.inj told
            exact agrees
      · cases told
  | getAcbuUsdRate =>
      cases reply with
      | ok read =>
          obtain rfl := Option.some.inj told
          have same : x.acbuUsdRate = read := Except.ok.inj
            (congrArg Prod.fst (Outcome.answer_ok answer).2)
          refine ⟨agrees.1, agrees.2.1, fun other found => ?_⟩
          rw [← Option.some.inj found, ← same]
          exact known.2
      | error error =>
          obtain rfl := Option.some.inj told
          exact agrees
  | _ => cases reply <;> cases told

theorem Entry.Agrees.quiet {x : Choice} {w w' : World} {i : Nat} {op : BillsOp}
    {reply : billsInterface.Reply op} {entry entry' : Entry} (h : entry.Agrees w')
    (answered : (billsSemantics setting).act i op x w = some (reply, w'))
    (taken : entry.next op reply = some entry') (same : SameLedger w w')
    : entry'.Agrees w' ∧ entry'.id = entry.id := by
  obtain ⟨possible, answer⟩ := Environment.act_eq_some answered
  cases op with
  | payBill request =>
      simp only [Entry.next] at taken
      split at taken
      · rename_i own
        obtain rfl := Option.some.inj taken
        cases reply with
        | ok response =>
            have told : x.payment = response :=
              Except.ok.inj (congrArg Prod.fst (Outcome.answer_ok answer).2)
            refine ⟨⟨h.stored, fun id about => ?_, h.read⟩, rfl⟩
            obtain ⟨event, reported, rfl⟩ := Option.map_eq_some_iff.mp about
            rw [← told] at reported
            change event.transactionId = entry.id
            simpa [billsEnvironment, admissible, reported, own] using possible
        | error error => exact ⟨h, rfl⟩
      · cases taken
  | findTransaction id =>
      simp only [Entry.next] at taken
      split at taken
      · rename_i about
        obtain rfl := Option.some.inj taken
        cases reply with
        | ok read =>
            cases read with
            | none => exact ⟨h, rfl⟩
            | some row =>
                refine ⟨⟨h.stored, h.event, fun organizationId read => ?_⟩, rfl⟩
                obtain ⟨stored, found, named, -⟩ := h.stored
                have looked : w.transactions.lookup id = some row :=
                  Except.ok.inj (congrArg Prod.fst (Outcome.answer_ok answer).2)
                rw [← same.transactions, h.event id about, found] at looked
                rw [← Option.some.inj read, ← Option.some.inj looked]
                exact named
        | error error => exact ⟨h, rfl⟩
      · cases taken
  | updateTransaction id data =>
      simp only [Entry.next] at taken
      split at taken
      · rename_i allowed
        obtain rfl := Option.some.inj taken
        obtain ⟨row, found, named, standing⟩ := h.stored
        exact ⟨⟨⟨row, found, named, fun live => standing (allowed.2 live)⟩, h.event, h.read⟩, rfl⟩
      · cases taken
  | createWebhook _ _ | logAudit _ _ | enqueueWebhook _ _ =>
      obtain rfl := Option.some.inj taken
      exact ⟨h, rfl⟩
  | _ => cases taken

theorem StageAgrees.quiet {x : Choice} {w w' : World} {i : Nat} {op : BillsOp}
    {reply : billsInterface.Reply op} {stage stage' : LimitStage}
    (h : StageAgrees withdrawals limits rate w stage) (known : Configured limits rate x)
    (answered : (billsSemantics setting).act i op x w = some (reply, w'))
    (moved : stage.next op reply = some stage') (same : SameLedger w w')
    : StageAgrees withdrawals limits rate w' stage' ∧ stage'.row? = stage.row? := by
  have kept : StageAgrees withdrawals limits rate w' stage :=
    h.mono fun _ _ => by rw [same.transactions]
  cases stage with
  | reading =>
      cases op with
      | burn op =>
          obtain ⟨-, -, rfl⟩ := Option.map_eq_some_iff.mp moved
          exact ⟨trivial, rfl⟩
      | _ => cases moved
  | paying request check =>
      cases op with
      | burn op =>
          obtain ⟨check', told, rfl⟩ := Option.map_eq_some_iff.mp moved
          exact ⟨checked_of_act known answered told h, rfl⟩
      | getCatalog =>
          obtain rfl := Option.some.inj moved
          exact ⟨kept, rfl⟩
      | createTransaction data =>
          simp only [LimitStage.next] at moved
          split at moved
          · cases reply with
            | ok id =>
                -- a creation that was answered has added a row
                obtain ⟨possible, answer⟩ := Environment.act_eq_some answered
                have left : w.create x.freshId x.time data = w' :=
                  congrArg Prod.snd (Outcome.answer_ok answer).2
                have fresh : x.freshId ∉ w.transactions := by
                  simpa [billsEnvironment, admissible] using possible
                refine absurd ?_ fresh
                rw [← same.transactions, ← left]
                exact (AList.mem_insert _).mpr (.inl rfl)
            | error error =>
                obtain rfl := Option.some.inj moved
                exact ⟨kept, rfl⟩
          · cases moved
      | _ => cases moved
  | recorded entry =>
      obtain ⟨entry', taken, rfl⟩ := Option.map_eq_some_iff.mp moved
      obtain ⟨agrees, own⟩ := Entry.Agrees.quiet kept answered taken same
      exact ⟨agrees, congrArg some own⟩

theorem Entry.Agrees.writes_own {w : World} {entry : Entry} {id : TxId} {data : TransactionUpdate}
    (h : entry.Agrees w) (writes : entry.writes id data = true)
    : id = entry.id ∧ data.rateSnapshot.organizationId = entry.organizationId := by
  simp only [Entry.writes, Bool.or_eq_true, Bool.and_eq_true, decide_eq_true_eq] at writes
  rcases writes with own | ⟨about, read⟩
  · exact own
  · exact ⟨h.event id about, h.read _ read⟩

/-- What the requests and the configuration are taken to be: amounts are positive, and the
configured limits of a payment of the actor are no more than `limit`.
-/
structure Permitted (setting : Setting) (account : Account) (withdrawals : List Withdrawal)
    (limits : LimitsSnapshot) (limit : Window → ℚ)
    : Prop where
  positive : ∀ request, .payBill request ∈ withdrawals → 0 < request.amount
  configured : ∀ request, .payBill request ∈ withdrawals →
    setting.belongs account.actor request.userId request.organizationId = true →
      ∀ config, limits.audience? request.audienceOf = some config →
        ∀ window, withdrawalCap config window ≤ limit window

theorem created_of_move {x : Choice} {w w' : World} {request : BillPaymentRequest}
    {check : LimitCheck} {data : Transaction} {reply : Except JsError TxId} {stage' : LimitStage}
    (agrees : StageAgrees withdrawals limits rate w (.paying request check))
    (answered : (billsSemantics setting).act i (.createTransaction data) x w = some (reply, w'))
    (moved : LimitStage.next (.paying request check) (.createTransaction data) reply = some stage')
    (world : w' = w.create x.freshId x.time data)
    : request.records data = true
      ∧ check.clears request data.localCurrency = true
      ∧ StageAgrees withdrawals limits rate w' stage'
      ∧ ∀ id, stage'.row? = some id → id = x.freshId := by
  have answer := (Environment.act_eq_some answered).2
  simp only [LimitStage.next] at moved
  split at moved
  · rename_i allowed
    obtain ⟨records, cleared⟩ := allowed
    refine ⟨records, cleared, ?_⟩
    cases reply with
    | ok id =>
        obtain rfl := Option.some.inj moved
        obtain rfl : x.freshId = id := Except.ok.inj (congrArg Prod.fst
          (Outcome.answer_ok answer).2)
        simp only [BillPaymentRequest.records, Bool.and_eq_true, decide_eq_true_eq] at records
        obtain ⟨⟨⟨-, organization⟩, -⟩, pending⟩ := records
        refine ⟨⟨⟨data, ?_, organization, fun _ => by rw [pending]; rfl⟩, ?_, ?_⟩, ?_⟩
        · rw [world]
          exact AList.lookup_insert _
        · intro _ absurd
          cases absurd
        · intro _ absurd
          cases absurd
        · exact fun _ recorded => (Option.some.inj recorded).symm
    | error error =>
        obtain rfl := Option.some.inj moved
        refine ⟨agrees, fun _ absurd => ?_⟩
        cases absurd
  · cases moved

theorem told_of_sees {w : World} {request : BillPaymentRequest} {check : LimitCheck}
    {time : Instant}
    (sees : [Window.startOfDay, .startOfMonth].all (fun window =>
      ((LimitStage.paying request check).told window).any (fun told =>
        w.withdrawn setting account window time ≤ told)) = true)
    (window : Window)
    : ∃ told, check.told window = some told
        ∧ w.withdrawn setting account window time ≤ told.2 := by
  have listed : window ∈ [Window.startOfDay, .startOfMonth] := by
    cases window <;> simp
  obtain ⟨amount, asked, within⟩ := (Option.any_eq_true _ _).mp
    (List.all_eq_true.mp sees window listed)
  obtain ⟨told, known, rfl⟩ := Option.map_eq_some_iff.mp asked
  exact ⟨told, known, by simpa using within⟩

theorem LimitsKept.step (permitted : Permitted setting account withdrawals limits limit)
    (rate_nonneg : 0 ≤ rate) {x : Choice}
    (governed : limitProtocol.Governs (limitStart withdrawals) (fun _ _ _ => True)
      (fun _ _ _ => True) c)
    (h : LimitsKept setting account withdrawals limits rate limit c)
    (known : Configured limits rate x) (sees : SeesWithdrawals setting account withdrawals c i x)
    (stepped : c.step (billsSemantics setting) i x = some c')
    : LimitsKept setting account withdrawals limits rate limit c' := by
  obtain ⟨op, reply, -, pending, answered, moved, -, others, -⟩ := governed.step_cases stepped
  have others : ∀ j, j ≠ i → limitStage withdrawals c' j = limitStage withdrawals c j :=
    fun j different => (others j different).1
  have moved : LimitStage.next (limitStage withdrawals c i) op reply
      = some (limitStage withdrawals c' i) := moved
  rcases ledger_of_act answered moved with
    same | ⟨data, rfl, effective, fresh, world⟩ | ⟨id, data, row, rfl, found, world⟩
  · obtain ⟨mine, entry⟩ := (h.stages i).quiet known answered moved same
    exact h.quiet others same mine entry
  · have mine := h.stages i
    unfold SeesWithdrawals at sees
    rw [pending] at sees
    replace sees := sees effective
    cases before : limitStage withdrawals c i with
    | reading =>
        rw [before] at moved
        cases moved
    | recorded entry =>
        rw [before] at moved
        simp [LimitStage.next, Entry.next] at moved
    | paying request check =>
        rw [before] at moved mine sees
        have asked : .payBill request ∈ withdrawals := mine.1
        obtain ⟨records, cleared, agrees, after⟩ :=
          created_of_move mine answered moved world
        refine h.created others before fresh world records cleared
          (permitted.positive request asked).le
          (permitted.configured request asked) rate_nonneg ?_ agrees after
        intro counts window
        exact told_of_sees (sees counts) window
  · have mine := h.stages i
    cases before : limitStage withdrawals c i with
    | reading =>
        rw [before] at moved
        cases moved
    | paying request check =>
        rw [before] at moved
        cases moved
    | recorded entry =>
        rw [before] at moved mine
        obtain ⟨entry', taken, after⟩ := Option.map_eq_some_iff.mp moved
        simp only [Entry.next] at taken
        split at taken
        · rename_i allowed
          obtain rfl := Option.some.inj taken
          obtain ⟨rfl, own⟩ := Entry.Agrees.writes_own mine allowed.1
          obtain ⟨⟨stored, read, named, standing⟩, event, found'⟩ := mine
          obtain rfl := Option.some.inj (found.symm.trans read)
          refine h.rewritten others rate_nonneg found world (fun live => standing (allowed.2 live))
            (own.trans named.symm) (by rw [before]; rfl) (by rw [← after]; rfl) ?_
          rw [← after, world]
          exact ⟨⟨row.apply data, AList.lookup_insert _, own, id⟩, event, found'⟩
        · cases taken

end

theorem governs_withdrawalConfig {world : World}
    : limitProtocol.Governs (limitStart withdrawals) (fun _ _ _ => True) (fun _ _ _ => True)
        (withdrawalConfig dep withdrawals world) := by
  refine Protocol.governs_initial ?_
  intro i prog found
  simp only [List.map_map, List.getElem?_map, Option.map_eq_some_iff] at found
  obtain ⟨withdrawal, member, rfl⟩ := found
  rw [limitStart, member]
  exact wp_withdrawal

theorem limitsKept_start {world : World}
    (amounts : ∀ id row, world.transactions.lookup id = some row → 0 ≤ row.acbuAmountBurned.getD 0)
    (within : WithinLimits setting account rate limit world)
    : LimitsKept setting account withdrawals limits rate limit
        (withdrawalConfig dep withdrawals world) := by
  have stage : ∀ i, limitStage withdrawals (withdrawalConfig dep withdrawals world) i
      = limitStart withdrawals i :=
    fun _ => Protocol.phase_initial _
  constructor
  · intro i
    rw [stage, limitStart]
    cases found : withdrawals[i]? with
    | none => trivial
    | some withdrawal =>
        cases withdrawal with
        | burnAcbu request => trivial
        | payBill request =>
            refine ⟨List.mem_of_getElem? found, fun _ absurd => ?_, fun _ absurd => ?_⟩
            all_goals cases absurd
  · intro i j id recorded
    rw [stage, limitStart] at recorded
    cases found : withdrawals[i]? with
    | none =>
        rw [found] at recorded
        cases recorded
    | some withdrawal =>
        rw [found] at recorded
        cases withdrawal <;> cases recorded
  · exact amounts
  · exact within

/-- In a run whose payments see the withdrawals of the actor, its limits are kept. Witness: the
invariant `LimitsKept`, by induction on the run.
-/
theorem withinLimits (setting : Setting) (dep : Deployment) (withdrawals : List Withdrawal)
    (burn : Burn.World) (transactions : AList (fun _ : TxId => Transaction))
    (createdAt : TxId → Instant) (burnedAt : BurnId → Instant) (limits : LimitsSnapshot) (rate : ℚ)
    (account : Account) (limit : Window → ℚ) (c : BillsConfig) (rate_nonneg : 0 ≤ rate)
    (permitted : Permitted setting account withdrawals limits limit)
    (amounts : ∀ id row, transactions.lookup id = some row → 0 ≤ row.acbuAmountBurned.getD 0)
    (start : WithinLimits setting account rate limit (.start burn transactions createdAt burnedAt))
    (reached : Config.Reaches (billsSemantics setting)
      (fun c i x => Configured limits rate x ∧ SeesWithdrawals setting account withdrawals c i x)
      (withdrawalConfig dep withdrawals (.start burn transactions createdAt burnedAt)) c)
    : WithinLimits setting account rate limit c.world := by
  have kept : LimitsKept setting account withdrawals limits rate limit
      (withdrawalConfig dep withdrawals (.start burn transactions createdAt burnedAt)) :=
    limitsKept_start amounts start
  refine (governs_withdrawalConfig.invariant kept ?_ reached).2.within
  intro c c' i x governed h allowed stepped
  exact h.step permitted rate_nonneg governed allowed.1 allowed.2 stepped

-- Two payments of 1000 ACBU each

/-- Every call succeeds, a new row gets this id, and an ACBU is worth so many dollars. -/
def limitChoice (id : TxId) (rate : ℚ) : Choice :=
  { sampleChoice .done with
    toBurnChoice := { Burn.sampleChoice 100 with freshId := id, acbuUsdRate := rate }
    payment :=
      { (sampleChoice .done).payment with
        reconciliationEvent := some { sampleEvent .completed with transactionId := id } } }

def sampleLimits : LimitsSnapshot :=
  (Burn.sampleChoice 100).limits

def userAccount : Account where
  actor := .user "user"
  currency := "NGN"

/-- A payment made with the API key of an organisation, which has no user. -/
def organizationPayment : BillPaymentRequest :=
  { samplePayment with userId := none, organizationId := some "org" }

def organizationAccount : Account where
  actor := .organization "org"
  currency := "NGN"

/-- The payments are made one after the other. -/
def oneByOne (rate : ℚ) : List (Nat × Choice) :=
  List.replicate 15 (0, limitChoice "t1" rate) ++ List.replicate 15 (1, limitChoice "t2" rate)

/-- A user pays twice and stays within the limit. -/
theorem withinLimits_twice
    : ∃ c, Config.Reaches (billsSemantics sampleSetting)
          (fun c i x => Configured sampleLimits 4 x
            ∧ SeesWithdrawals sampleSetting userAccount [.payBill samplePayment,
              .payBill samplePayment]
                c i x)
          (withdrawalConfig sampleDeployment [.payBill samplePayment, .payBill samplePayment]
            sampleWorld) c
        ∧ c.world.withdrawn sampleSetting userAccount .startOfDay 0 = 2000
        ∧ WithinLimits sampleSetting userAccount 4 (withdrawalCap Burn.sampleCap) c.world := by
  have executed :
      ((withdrawalConfig sampleDeployment [.payBill samplePayment, .payBill samplePayment]
          sampleWorld).run (billsSemantics sampleSetting)
        (fun c i x => Configured sampleLimits 4 x
          ∧ SeesWithdrawals sampleSetting userAccount [.payBill samplePayment,
            .payBill samplePayment]
              c i x)
        (oneByOne 4)).map
        (fun c => c.world.withdrawn sampleSetting userAccount .startOfDay 0) = some 2000 := by
    decide +kernel
  have permitted : Permitted sampleSetting userAccount
      [.payBill samplePayment, .payBill samplePayment] sampleLimits
      (withdrawalCap Burn.sampleCap) := by
    constructor
    · intro request asked
      obtain rfl : request = samplePayment := by simpa using asked
      norm_num [samplePayment]
    · intro request asked _ config found
      obtain rfl : request = samplePayment := by simpa using asked
      obtain rfl : Burn.sampleCap = config := Option.some.inj found
      exact fun _ => le_rfl
  obtain ⟨c, reached, withdrawn⟩ := Config.reaches_of_run executed
  refine ⟨c, reached, withdrawn, withinLimits _ _ _ _ _ _ _ _ 4 userAccount _ c (by norm_num)
    permitted ?_ ?_ reached⟩
  · intro id row found
    cases found
  · intro window time
    cases window <;> norm_num [World.withdrawn, World.start, Burn.World.start,
      tableSum, withdrawalCap, Burn.sampleCap]

/-- An organisation's key pays twice: its rows are not among those that are summed up. -/
theorem not_withinLimits_organization
    : ∃ c, Config.Reaches (billsSemantics sampleSetting) (fun _ _ x => Configured sampleLimits 6 x)
          (withdrawalConfig sampleDeployment
            [.payBill organizationPayment, .payBill organizationPayment] sampleWorld) c
        ∧ ¬ WithinLimits sampleSetting organizationAccount 6 (withdrawalCap Burn.sampleCap)
              c.world := by
  have executed :
      ((withdrawalConfig sampleDeployment
          [.payBill organizationPayment, .payBill organizationPayment] sampleWorld).run
        (billsSemantics sampleSetting) (fun _ _ x => Configured sampleLimits 6 x) (oneByOne 6)).map
        (fun c => c.world.withdrawn sampleSetting organizationAccount .startOfDay 0)
          = some 2000 := by
    decide +kernel
  obtain ⟨c, reached, withdrawn⟩ := Config.reaches_of_run executed
  refine ⟨c, reached, fun within => ?_⟩
  have daily := within .startOfDay 0
  rw [withdrawn] at daily
  norm_num [withdrawalCap, Burn.sampleCap] at daily

end AcbuBackend.Bills
