import AcbuBackend.Effects.Exclusive
import AcbuBackend.Withdrawal.WithdrawalProcessingJob

/-! At most one disbursement for a withdrawal.
A delivery reads the status of its transaction and then pays, a second time with another
provider when the first one throws. Nothing is paid twice where a transaction is only found
open by one delivery at a time, with nothing paid, and the failover starts with nothing paid.
-/

namespace AcbuBackend.Withdrawal

open Effects AcbuBackend.Runtime Fintech
open Mint (TxId TransactionStatus)

variable {router : FintechProviderRouter}

-- The stages of a delivery

/-- How far a delivery has come: it has not found an open row, it is about to pay for one, its
first provider has thrown, or it asks no provider any more.
-/
inductive Stage
  | idle
  | paying (id : TxId)
  | failover (id : TxId)
  | over
deriving DecidableEq

namespace Stage

/-- A delivery that may still pay. -/
def payable (stage : Stage) (id : TxId) : Prop :=
  stage = .paying id ∨ stage = .failover id

instance (stage : Stage) (id : TxId) : Decidable (stage.payable id) :=
  inferInstanceAs (Decidable (_ ∨ _))

/-- A delivery that has asked no provider to pay yet. -/
def unpaid (stage : Stage) (id : TxId) : Prop :=
  stage = .paying id

/-- After a provider was asked to pay. -/
def afterDisburse (stage : Stage) (id : TxId) (ok : Bool) : Stage :=
  if stage = .paying id ∧ ok = false then .failover id else .over

/-- The stage a call leads to. -/
def next (stage : Stage) : (op : WithdrawalOp) → withdrawalInterface.Reply op → Option Stage
  | .findTransaction id, reply =>
      if stage = .idle then
        match reply with
        | .ok (some tx) => some (if tx.isOpen then .paying id else .idle)
        | _ => some .idle
      else none
  | .fintech id op, reply =>
      if stage.payable id then
        match op, reply with
        | .getBalance .., _ => some stage
        | .convertCurrency .., _ => none
        | .disburseFunds .., reply => some (stage.afterDisburse id (Except.isOk reply))
      else none
  | _, _ => some (if stage = .idle then .idle else .over)

end Stage

def payoutProtocol : Protocol withdrawalInterface Stage where
  next := Stage.next

section

variable {id : TxId} {stage : Stage}

/-- A call that ends the work on a transaction: it asks no provider and reads no row. -/
def WithdrawalOp.ends : WithdrawalOp → Bool
  | .findTransaction _ | .fintech .. => false
  | _ => true

theorem next_of_ends {op : WithdrawalOp} (reply : withdrawalInterface.Reply op)
    (ends : op.ends = true)
    : payoutProtocol.next stage op reply = some (if stage = .idle then .idle else .over) := by
  cases op with
  | findTransaction _ | fintech _ _ => cases ends
  | _ => rfl

theorem wp_ending {op : WithdrawalOp} {Q : op.Ret → Stage → Prop} {E : JsError → Stage → Prop}
    (ends : op.ends = true)
    (hQ : ∀ value stage, Q value stage) (hE : ∀ error stage, E error stage)
    : payoutProtocol.wp (issue op) stage Q E :=
  Protocol.wp_await.mpr ⟨fun value => ⟨_, next_of_ends _ ends, hQ value _⟩,
    fun error => ⟨_, next_of_ends _ ends, hE error _⟩⟩

theorem wp_resend {msg : Message} {Q : Unit → Stage → Prop} {E : JsError → Stage → Prop}
    (hQ : ∀ value stage, Q value stage) (hE : ∀ error stage, E error stage)
    : payoutProtocol.wp (resend msg) stage Q E := by
  unfold resend
  rw [Protocol.wp_bind]
  exact wp_ending rfl (fun _ _ => wp_ending rfl hQ hE) hE

theorem wp_disburse {payout : Payout} {outage : Option FintechProviderId}
    (payable : stage.payable id)
    : payoutProtocol.wp (disburse router id payout outage) stage
        (fun _ stage' => stage' = .over)
        (fun _ stage' => stage' = stage ∨ stage' = stage.afterDisburse id false) := by
  have asked : ∀ provider (reply : Except JsError DisburseResult), payoutProtocol.next stage
      (.fintech id (.disburseFunds provider payout.amount payout.currency payout.recipient)) reply
      = some (stage.afterDisburse id (Except.isOk reply)) := by
    intro provider reply
    exact if_pos payable
  unfold disburse
  simp only [Protocol.wp_bind]
  apply Protocol.wp_mono (wp_getProvider (fun _ _ _ => if_pos payable) router payout.currency
    outage)
  · rintro provider _ rfl
    refine Protocol.wp_await.mpr ⟨fun result => ⟨_, asked provider _, ?_⟩,
      fun error => ⟨_, asked provider _, .inr rfl⟩⟩
    simp [Stage.afterDisburse, Except.isOk, Except.toBool]
  · rintro _ _ rfl
    exact .inl rfl

theorem wp_disburseWithFailover {payout : Payout}
    : payoutProtocol.wp (disburseWithFailover router id payout) (.paying id)
        (fun _ _ => True) (fun _ _ => True) := by
  unfold disburseWithFailover
  rw [Protocol.wp_catchWith]
  apply Protocol.wp_mono (wp_disburse (.inl rfl))
  · exact fun _ _ _ => trivial
  · intro error stage thrown
    have payable : stage.payable id := by
      rcases thrown with rfl | rfl
      · exact .inl rfl
      · exact .inr (by simp [Stage.afterDisburse])
    exact Protocol.wp_mono (wp_disburse payable) (fun _ _ _ => trivial) (fun _ _ _ => trivial)

theorem wp_publish {tx : Transaction} {payout : Payout} {status : String}
    {Q : Unit → Stage → Prop} {E : JsError → Stage → Prop} (hQ : ∀ value stage, Q value stage)
    : payoutProtocol.wp (publishWithdrawalNotification id tx payout status) stage Q E := by
  unfold publishWithdrawalNotification
  rw [Protocol.wp_swallow]
  exact wp_ending rfl hQ (fun _ stage => hQ () stage)

theorem wp_payOut {msg : Message} {tx : Transaction} {payout : Payout}
    : payoutProtocol.wp (payOut router msg tx payout) (.paying msg.transactionId)
        (fun _ _ => True) (fun _ _ => True) := by
  unfold payOut
  rw [Protocol.wp_catchWith, Protocol.wp_bind]
  have handled : ∀ stage, payoutProtocol.wp
      (if MAX_RETRIES ≤ msg.retries then do
        issue (.updateTransaction msg.transactionId { status := .failed })
        publishWithdrawalNotification msg.transactionId tx payout "failed"
        issue (.nack msg)
        return false
      else do
        resend msg
        return false)
      stage (fun _ _ => True) (fun _ _ => True) := by
    intro stage
    rw [Protocol.wp_ite]
    constructor
    · intro _
      simp only [Protocol.wp_bind]
      refine wp_ending rfl (fun _ _ => wp_publish (fun _ _ => ?_)) (fun _ _ => trivial)
      exact wp_ending rfl (fun _ _ => trivial) (fun _ _ => trivial)
    · intro _
      rw [Protocol.wp_bind]
      exact wp_resend (fun _ _ => trivial) (fun _ _ => trivial)
  apply Protocol.wp_mono wp_disburseWithFailover
  · intro provider stage _
    simp only [Protocol.wp_bind]
    refine wp_ending rfl (fun _ _ => wp_publish (fun _ _ => trivial)) ?_
    exact fun _ stage => handled stage
  · exact fun _ stage _ => handled stage

theorem wp_processWithdrawal {msg : Message}
    : payoutProtocol.wp (processWithdrawal router msg) .idle (fun _ _ => True)
        (fun _ _ => True) := by
  have acked : ∀ stage, payoutProtocol.wp (issue (.ack msg)) stage (fun _ _ => True)
      (fun _ _ => True) :=
    fun _ => wp_ending rfl (fun _ _ => trivial) (fun _ _ => trivial)
  unfold processWithdrawal
  rw [Protocol.wp_ite]
  refine ⟨fun _ => acked _, fun _ => ?_⟩
  rw [Protocol.wp_bind]
  refine Protocol.wp_await.mpr ⟨fun found => ?_, fun _ => ⟨.idle, rfl, trivial⟩⟩
  cases found with
  | none => exact ⟨.idle, rfl, acked _⟩
  | some tx =>
      refine ⟨if tx.isOpen then .paying msg.transactionId else .idle, rfl, ?_⟩
      by_cases opened : tx.isOpen = true
      · simp only [opened, if_true]
        unfold processOpen
        cases payoutOf tx with
        | none =>
            rw [Protocol.wp_bind]
            exact wp_ending rfl (fun _ stage => acked stage) (fun _ _ => trivial)
        | some payout =>
            rw [Protocol.wp_bind]
            apply Protocol.wp_mono wp_payOut
            · intro paid stage _
              rw [Protocol.wp_ite]
              exact ⟨fun _ => acked stage, fun _ => trivial⟩
            · exact fun _ _ _ => trivial
      · simp only [opened]
        exact acked _

theorem wp_withdrawalProcessingConsumer
    : payoutProtocol.wp (withdrawalProcessingConsumer router) .idle
        (fun _ _ => True) (fun _ _ => True) := by
  unfold withdrawalProcessingConsumer
  rw [Protocol.wp_bind]
  refine Protocol.wp_await.mpr ⟨fun msg => ⟨.idle, rfl, ?_⟩, fun _ => ⟨.idle, rfl, trivial⟩⟩
  rw [Protocol.wp_catchWith]
  apply Protocol.wp_mono wp_processWithdrawal
  · exact fun _ _ _ => trivial
  · intro _ stage _
    rw [Protocol.wp_ite]
    exact ⟨fun _ => wp_ending rfl (fun _ _ => trivial) (fun _ _ => trivial),
      fun _ => wp_resend (fun _ _ => trivial) (fun _ _ => trivial)⟩

end

-- Runs

/-- How far delivery `i` has come. -/
def stageOf (c : WithdrawalConfig) (i : Nat) : Stage :=
  payoutProtocol.phase (fun _ => .idle) c i

/-- A row is only found open while nothing was disbursed for it and no other delivery may
still pay for it; and a failover only asks its provider while nothing was disbursed.
-/
def PaysOnce (c : WithdrawalConfig) (i : Nat) (x : Choice) : Prop :=
  match c.pending? i with
  | some (.findTransaction id) =>
      x.outcome = .done → (c.world.transactions.lookup id).any Transaction.isOpen = true →
        c.world.disbursementsFor id = 0
        ∧ payoutProtocol.Alone (fun _ => .idle) Stage.payable c i id
  | some (.fintech id (.disburseFunds ..)) =>
      stageOf c i = .failover id → c.world.disbursementsFor id = 0
  | _ => True

instance (c : WithdrawalConfig) (i : Nat) (x : Choice) : Decidable (PaysOnce c i x) := by
  unfold PaysOnce
  split <;> infer_instance

theorem act_find {i : Nat} {x : Choice} {w w' : World} {id : TxId} {tx : Transaction}
    (h : withdrawalSemantics.act i (.findTransaction id) x w = some (.ok (some tx), w'))
    : x.outcome = .done ∧ w' = w ∧ w.transactions.lookup id = some tx := by
  obtain ⟨-, answered⟩ := Environment.act_eq_some h
  obtain ⟨done, taken⟩ := Outcome.answer_ok answered
  exact ⟨done, (congrArg Prod.snd taken).symm, Except.ok.inj (congrArg Prod.fst taken)⟩

/-- What a call does to the stage of a delivery. -/
inductive PayoutMove (stage : Stage) : Event withdrawalInterface → Stage → Prop
  | other (event : Event withdrawalInterface) (stage' : Stage)
      (unasked : ∀ id provider amount currency recipient,
        event.op ≠ .fintech id (.disburseFunds provider amount currency recipient))
      (left : stage' = stage ∨ stage' = .over)
      : PayoutMove stage event stage'
  | found (id : TxId) (tx : Transaction) (opened : tx.isOpen = true)
      : PayoutMove stage ⟨.findTransaction id, .ok (some tx)⟩ (.paying id)
  | asked (id : TxId) (provider : FintechProviderId) (amount : ℚ) (currency : String)
      (recipient : DisburseRecipient) (reply : Except JsError DisburseResult)
      (payable : stage.payable id)
      : PayoutMove stage ⟨.fintech id (.disburseFunds provider amount currency recipient), reply⟩
          (stage.afterDisburse id (Except.isOk reply))

theorem PayoutMove.of_next {stage stage' : Stage} {op : WithdrawalOp}
    {reply : withdrawalInterface.Reply op} (h : Stage.next stage op reply = some stage')
    : PayoutMove stage ⟨op, reply⟩ stage' := by
  cases op with
  | findTransaction id =>
      simp only [Stage.next] at h
      split at h
      · rename_i idle
        subst idle
        split at h
        · rename_i tx
          obtain rfl := Option.some.inj h
          split
          · rename_i opened
            exact .found id tx opened
          · exact .other _ _ (by simp) (.inl rfl)
        · obtain rfl := Option.some.inj h
          exact .other _ _ (by simp) (.inl rfl)
      · cases h
  | fintech id call =>
      simp only [Stage.next] at h
      split at h
      · rename_i payable
        cases call with
        | disburseFunds provider amount currency recipient =>
            obtain rfl := Option.some.inj h
            exact .asked id provider amount currency recipient reply payable
        | getBalance provider currency =>
            obtain rfl := Option.some.inj h
            exact .other _ _ (by simp) (.inl rfl)
        | convertCurrency _ _ _ _ => cases h
      · cases h
  | _ =>
      obtain rfl := Option.some.inj h
      refine .other _ _ (by simp) ?_
      split
      · rename_i idle
        exact .inl idle.symm
      · exact .inr rfl

theorem payable_afterDisburse {stage : Stage} {id other : TxId} {ok : Bool}
    (h : (stage.afterDisburse id ok).payable other)
    : stage = .paying id ∧ other = id ∧ ¬ (stage.afterDisburse id ok).unpaid other := by
  unfold Stage.afterDisburse at *
  split at h
  · rename_i failed
    rcases h with h | h
    · cases h
    · cases h
      exact ⟨failed.1, rfl, by simp [failed, Stage.unpaid]⟩
  · rcases h with h | h <;> cases h

theorem exclusiveStep {c c' : WithdrawalConfig} {i : Nat} {x : Choice} {op : WithdrawalOp}
    {reply : withdrawalInterface.Reply op} (pending : c.pending? i = some op)
    (allowed : PaysOnce c i x)
    (answered : withdrawalSemantics.act i op x c.world = some (reply, c'.world))
    (moved : Stage.next (stageOf c i) op reply = some (stageOf c' i)) (id : TxId)
    : payoutProtocol.ExclusiveStep (fun _ => .idle) Stage.payable Stage.unpaid
        World.disbursementsFor c c' i id := by
  have counted := disbursementsFor_of_act answered id
  have move := PayoutMove.of_next moved
  simp only [PaysOnce, pending] at allowed
  have before : payoutProtocol.phase (fun _ => .idle) c i = stageOf c i := rfl
  have after : payoutProtocol.phase (fun _ => .idle) c' i = stageOf c' i := rfl
  generalize stageOf c' i = stage' at move after
  cases move with
  | other _ _ unasked left =>
      have same : c'.world.disbursementsFor id = c.world.disbursementsFor id := by
        rcases counted with same | ⟨-, provider, amount, currency, recipient, paid⟩
        · exact same
        · exact absurd paid (unasked _ _ _ _ _)
      constructor
      · rw [after, before]
        rcases left with rfl | rfl
        · exact .inl
        · rintro (ended | ended) <;> cases ended
      · rw [after, before]
        rcases left with rfl | rfl
        · exact fun unpaid => ⟨same, .inl unpaid⟩
        · intro ended
          cases ended
      · exact .inl same
  | found other tx opened =>
      obtain ⟨done, same, stored⟩ := act_find answered
      have entered : id = other → c.world.disbursementsFor id = 0
          ∧ payoutProtocol.Alone (fun _ => .idle) Stage.payable c i id := by
        rintro rfl
        exact allowed done (by rw [stored]; exact opened)
      constructor
      · rw [after]
        rintro (found | found)
        · cases found
          exact .inr (entered rfl)
        · cases found
      · rw [after]
        intro found
        cases found
        exact ⟨by rw [same], .inr (entered rfl)⟩
      · exact .inl (by rw [same])
  | asked other provider amount currency recipient _ payable =>
      constructor
      · rw [after, before]
        intro still
        obtain ⟨paying, rfl, -⟩ := payable_afterDisburse still
        exact .inl (.inl paying)
      · rw [after]
        intro unpaid
        exact absurd unpaid (payable_afterDisburse (.inl unpaid)).2.2
      · rcases counted with same | ⟨added, _, _, _, _, paid⟩
        · exact .inl same
        · cases paid
          refine .inr ⟨added, ?_⟩
          rw [before]
          rcases payable with paying | failover
          · exact .inl paying
          · exact .inr ⟨.inr failover, allowed failover⟩

/-- In a run whose deliveries find a transaction open one at a time and unpaid, and fail over
unpaid, a withdrawal is disbursed at most once.
-/
theorem disbursementsFor_le_one (router : FintechProviderRouter) (deliveries : Nat)
    (transactions : AList (fun _ : TxId => Transaction)) (queue : List Message)
    (c : WithdrawalConfig)
    (reached : Config.Reaches withdrawalSemantics PaysOnce
      (initialConfig router deliveries transactions queue) c)
    (id : TxId)
    : c.world.disbursementsFor id ≤ 1 := by
  have governed : payoutProtocol.Governs (fun _ => .idle) (fun _ _ _ => True) (fun _ _ _ => True)
      (initialConfig router deliveries transactions queue) := by
    apply Protocol.governs_initial
    intro i prog found
    obtain rfl := List.eq_of_mem_replicate (List.mem_of_getElem? found)
    exact wp_withdrawalProcessingConsumer
  have once : payoutProtocol.Exclusive (fun _ => .idle) Stage.payable Stage.unpaid
      World.disbursementsFor c id := by
    refine Protocol.Governs.atMostOnce (fun _ unpaid => .inl unpaid) governed ?_ rfl ?_ reached
    · intro i payable
      rw [initialConfig, Protocol.phase_initial] at payable
      rcases payable with idle | idle <;> cases idle
    · intro c c' i x governed allowed stepped
      obtain ⟨op, reply, -, pending, answered, moved, -, -, -⟩ := governed.step_cases stepped
      exact exclusiveStep pending allowed answered moved id
  exact once.once

-- A withdrawal of 1000 naira

def sampleTransaction : Transaction where
  type := "burn"
  status := .processing
  userId := some "user"
  localCurrency := some "NGN"
  localAmount := some 1000
  recipientAccount := some { account_number := some "0123456789", bank_code := some "058" }

def sampleMessage (retries : Nat) : Message :=
  { transactionId := "t1", retries }

/-- A call with the outcome, for a delivery of the message as often retried. -/
def sampleChoice (retries : Nat) (outcome : Outcome JsError := .done) : Choice :=
  { outcome, message := sampleMessage retries }

def connectionLost : JsError := .error "connection lost"

/-- Two deliveries of the sample message. -/
def sampleConfig : WithdrawalConfig :=
  initialConfig fintechRouter 2 (AList.singleton "t1" sampleTransaction) [sampleMessage 0]

/-- A payment that fails without an effect is made by the second delivery. -/
theorem disbursementsFor_le_one_retried
    : ∃ c, Config.Reaches withdrawalSemantics PaysOnce sampleConfig c
        ∧ c.world.disbursementsFor "t1" = 1
        ∧ c.world.disbursementsFor "t1" ≤ 1 := by
  have executed :
      (sampleConfig.run withdrawalSemantics PaysOnce
        (List.replicate 3 (0, sampleChoice 0) ++ [(0, sampleChoice 0 (.failed connectionLost))]
          ++ List.replicate 2 (0, sampleChoice 0)
          ++ List.replicate 7 (1, sampleChoice 1))).map
        (fun c => c.world.disbursementsFor "t1") = some 1 := by
    decide +kernel
  obtain ⟨c, reached, paid⟩ := Config.reaches_of_run executed
  exact ⟨c, reached, paid, disbursementsFor_le_one _ _ _ _ c reached "t1"⟩

/-- The first delivery pays and fails to write its completion: it sends its message again,
and the second one finds the row open.
-/
theorem disbursed_twice
    : ∃ c, Config.Reaches withdrawalSemantics Config.anyStep sampleConfig c
        ∧ c.world.disbursementsFor "t1" = 2 := by
  have executed :
      (sampleConfig.run withdrawalSemantics Config.anyStep
        (List.replicate 4 (0, sampleChoice 0) ++ [(0, sampleChoice 0 (.failed connectionLost))]
          ++ List.replicate 2 (0, sampleChoice 0)
          ++ List.replicate 4 (1, sampleChoice 1))).map
        (fun c => c.world.disbursementsFor "t1") = some 2 := by
    decide +kernel
  exact Config.reaches_of_run executed

end AcbuBackend.Withdrawal
