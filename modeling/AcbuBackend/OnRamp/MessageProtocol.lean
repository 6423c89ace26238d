import AcbuBackend.OnRamp.RequestProtocol

/-! What a delivery does with the message it holds.
It acknowledges the message when its processing returns, or after it has sent it again. The
processing returns early when the claim finds nothing to do.
-/

namespace AcbuBackend.OnRamp

open Effects AcbuBackend.Runtime Mint

def Queue.source : Queue → SwapSource
  | .USDC_CONVERT_AND_MINT => .usdc_deposit
  | .XLM_TO_ACBU => .xlm_deposit

/-- How far a delivery has come with its message. `cleared` is one with nothing left to do for
it, `misrouted` one that got a message of another queue.
-/
inductive Handling
  | idle
  | misrouted
  | working (message : Message)
  | cleared (message : Message)
  | resent (message : Message)

namespace Handling

/-- The message a delivery holds. -/
def message? : Handling → Option Message
  | .working message | .cleared message | .resent message => some message
  | .idle | .misrouted => none

/-- The message of a delivery that has not sent it again. -/
def open? : Handling → Option Message
  | .working message | .cleared message => some message
  | _ => none

def afterReceive (queue : Queue) (message : Message) : Handling :=
  if message.payload.queue = queue then .working message else .misrouted

/-- After the claimed row was read: a USDC job has nothing to do without an amount. -/
def afterFind (message : Message) : Option OnRampSwap → Handling
  | none => .cleared message
  | some row =>
      if message.payload.queue = .USDC_CONVERT_AND_MINT ∧ row.usdcAmount.getD 0 ≤ 0 then
        .cleared message
      else .working message

/-- A delivery that sends a message again, or gives it up. -/
def leave (message : Message) : (op : OnRampOp) → onRampInterface.Reply op → Option Handling
  | .sendToQueue again, reply =>
      if again = { message with retries := message.retries + 1 } then
        some (if Except.isOk reply then .resent message else .idle)
      else none
  | .nack given, _ => if given = message then some .idle else none
  | _, _ => none

def work (message : Message) : (op : OnRampOp) → onRampInterface.Reply op → Option Handling
  | .claimSwap id source, reply =>
      if id = message.payload.onRampSwapId
          ∧ source.getD .xlm_deposit = message.payload.queue.source then
        match reply with
        | .ok 0 => some (.cleared message)
        | _ => some (.working message)
      else none
  | .findSwap id, reply =>
      if id = message.payload.onRampSwapId then
        match reply with
        | .ok found => some (afterFind message found)
        | .error _ => some (.working message)
      else none
  | .updateSwap id data, reply =>
      if id = message.payload.onRampSwapId then
        some (if Except.isOk reply ∧ data.status = some .completed then .cleared message
          else .working message)
      else none
  | .mint .., _ | .swapUsdcToXlm .., _ | .fetchXlmRateUsd, _ => some (.working message)
  | op, reply => leave message op reply

/-- A delivery with nothing left to do: it may acknowledge. -/
def clear (message : Message) : (op : OnRampOp) → onRampInterface.Reply op → Option Handling
  | .updateSwap .., _ => some (.cleared message)
  | .ack given, reply =>
      if given = message then some (if Except.isOk reply then .idle else .working message)
      else none
  | op, reply => leave message op reply

/-- The stage a call leads to. -/
def next : Handling → (op : OnRampOp) → onRampInterface.Reply op → Option Handling
  | .idle, .receive queue, reply =>
      match reply with
      | .ok message => some (afterReceive queue message)
      | .error _ => some .idle
  | .idle, .ack _, _ | .idle, .nack _, _ => none
  | .idle, _, _ => some .idle
  | .misrouted, _, _ => some .misrouted
  | .working message, op, reply => work message op reply
  | .cleared message, op, reply => clear message op reply
  | .resent message, .ack given, _ => if given = message then some .idle else none
  | .resent _, _, _ => none

end Handling

def messageProtocol : Protocol onRampInterface Handling where
  next := Handling.next

-- Deliveries

section

variable {message : Message} {stage : Handling}

theorem wp_service_message {α : Type} {onRampSwapId : Option SwapId} {prog : Prog mintInterface α}
    : messageProtocol.wp (service onRampSwapId prog) (.working message)
        (fun _ stage => stage = .working message) (fun _ stage => stage = .working message) :=
  Protocol.wp_within_of_ignored (fun _ _ => rfl)

theorem wp_write_message {id : SwapId} {data : SwapUpdate} {Q : Unit → Handling → Prop}
    {E : JsError → Handling → Prop} (own : id = message.payload.onRampSwapId)
    (incomplete : data.status ≠ some .completed) (hQ : Q () (.working message))
    (hE : ∀ error, E error (.working message))
    : messageProtocol.wp (issue (.updateSwap id data)) (.working message) Q E := by
  have stays : ∀ reply, messageProtocol.next (.working message) (.updateSwap id data) reply
      = some (.working message) := by
    intro reply
    simp [messageProtocol, Handling.next, Handling.work, own, incomplete]
  exact Protocol.wp_await.mpr ⟨fun _ => ⟨_, stays _, hQ⟩, fun error => ⟨_, stays _, hE error⟩⟩

theorem wp_mintForSwap_message {id : SwapId} {req : UsdcMintRequest}
    (own : id = message.payload.onRampSwapId)
    : messageProtocol.wp (mintForSwap id req) (.working message)
        (fun _ stage => stage = .cleared message) (fun _ stage => stage = .working message) := by
  unfold mintForSwap
  rw [Protocol.wp_bind]
  apply Protocol.wp_mono wp_service_message
  · rintro minted _ rfl
    refine Protocol.wp_await.mpr ⟨fun _ => ⟨.cleared message, ?_, rfl⟩,
      fun _ => ⟨.working message, ?_, rfl⟩⟩
    · simp [messageProtocol, Handling.next, Handling.work, own, Except.isOk, Except.toBool]
    · simp [messageProtocol, Handling.next, Handling.work, own, Except.isOk, Except.toBool]
  · exact fun _ _ same => same

theorem wp_attempt_message {id : SwapId} {data : SwapUpdate} {body : Prog onRampInterface Unit}
    (own : id = message.payload.onRampSwapId) (incomplete : data.status ≠ some .completed)
    (work : messageProtocol.wp body (.working message)
      (fun _ stage => stage = .cleared message) (fun _ stage => stage = .working message))
    : messageProtocol.wp
        (body.catchWith (fun e => do
          issue (.updateSwap id data)
          .fail e))
        (.working message)
        (fun _ stage => stage = .cleared message) (fun _ stage => stage.open? = some message) := by
  rw [Protocol.wp_catchWith]
  apply Protocol.wp_mono work
  · exact fun _ _ same => same
  · rintro e _ rfl
    rw [Protocol.wp_bind]
    exact wp_write_message own incomplete rfl (fun _ => rfl)

theorem wp_withClaimedSwap_message {id : SwapId} {source : Option SwapSource}
    {work : OnRampSwap → Prog onRampInterface Unit} (own : id = message.payload.onRampSwapId)
    (kind : source.getD .xlm_deposit = message.payload.queue.source)
    (worked : ∀ row, messageProtocol.wp (work row) (Handling.afterFind message (some row))
      (fun _ stage => stage = .cleared message) (fun _ stage => stage.open? = some message))
    : messageProtocol.wp (withClaimedSwap id source work) (.working message)
        (fun _ stage => stage = .cleared message) (fun _ stage => stage.open? = some message) := by
  have claims : ∀ reply, messageProtocol.next (.working message) (.claimSwap id source) reply
      = match reply with
        | .ok 0 => some (.cleared message)
        | _ => some (.working message) :=
    fun reply => if_pos ⟨own, kind⟩
  unfold withClaimedSwap
  rw [Protocol.wp_bind]
  refine Protocol.wp_await.mpr ⟨fun claimed => ?_, fun _ => ⟨_, claims _, rfl⟩⟩
  cases claimed with
  | zero => exact ⟨_, claims _, rfl⟩
  | succ n =>
      refine ⟨_, claims _, ?_⟩
      simp only [Nat.succ_ne_zero, if_false, Protocol.wp_bind]
      refine Protocol.wp_await.mpr ⟨fun found => ⟨_, if_pos own, ?_⟩, fun _ => ⟨_, if_pos own, rfl⟩⟩
      cases found with
      | none => rfl
      | some row => exact worked row

theorem wp_processUsdcConvertAndMint_message {finalAttempt : Bool}
    (routed : message.payload.queue = .USDC_CONVERT_AND_MINT)
    : messageProtocol.wp (processUsdcConvertAndMint message.payload.onRampSwapId finalAttempt)
        (.working message)
        (fun _ stage => stage = .cleared message) (fun _ stage => stage.open? = some message) := by
  apply wp_withClaimedSwap_message rfl (by rw [routed]; rfl)
  intro swap
  by_cases unpaid : swap.usdcAmount.getD 0 ≤ 0
  · simp only [unpaid, if_true, Handling.afterFind, routed, and_self]
    exact Protocol.wp_await.mpr ⟨fun _ => ⟨_, rfl, rfl⟩, fun _ => ⟨_, rfl, rfl⟩⟩
  · simp only [unpaid, if_false, Handling.afterFind, and_false]
    apply wp_attempt_message rfl (by cases finalAttempt <;> simp)
    rw [Protocol.wp_bind]
    have converted : messageProtocol.wp
        (convertUsdc message.payload.onRampSwapId swap (swap.usdcAmount.getD 0)) (.working message)
        (fun _ stage => stage = .working message) (fun _ stage => stage = .working message) := by
      unfold convertUsdc
      cases swap.xlmAmount with
      | some _ => rfl
      | none =>
          rw [Protocol.wp_bind]
          refine Protocol.wp_await.mpr ⟨fun swapped => ⟨_, rfl, ?_⟩, fun _ => ⟨_, rfl, rfl⟩⟩
          exact wp_write_message rfl (by simp) rfl (fun _ => rfl)
    apply Protocol.wp_mono converted
    · rintro _ _ rfl
      exact wp_mintForSwap_message rfl
    · exact fun _ _ same => same

theorem wp_processXlmToAcbu_message {dep : Deployment} {payload : XlmToAcbuPayload}
    (carried : message.payload = .xlmToAcbu payload)
    : messageProtocol.wp (processXlmToAcbu dep payload) (.working message)
        (fun _ stage => stage = .cleared message) (fun _ stage => stage.open? = some message) := by
  have own : payload.onRampSwapId = message.payload.onRampSwapId := by rw [carried]; rfl
  have routed : message.payload.queue = .XLM_TO_ACBU := by rw [carried]; rfl
  have priced : messageProtocol.wp (usdcAmountOf dep payload) (.working message)
      (fun _ stage => stage = .working message) (fun _ stage => stage = .working message) := by
    unfold usdcAmountOf
    split
    · rfl
    · rw [Protocol.wp_bind]
      exact Protocol.wp_await.mpr ⟨fun _ => ⟨_, rfl, rfl⟩, fun _ => ⟨_, rfl, rfl⟩⟩
  unfold processXlmToAcbu
  rw [Protocol.wp_bind]
  apply Protocol.wp_mono priced
  · rintro usdcAmount _ rfl
    apply wp_withClaimedSwap_message own (by rw [routed]; rfl)
    intro swap
    have stays : Handling.afterFind message (some swap) = .working message := by
      simp [Handling.afterFind, routed]
    rw [stays]
    apply wp_attempt_message own (by simp)
    rw [Protocol.wp_bind, Protocol.wp_fromExcept]
    exact ⟨fun _ _ => wp_mintForSwap_message own, fun _ _ => rfl⟩
  · rintro _ _ rfl
    rfl

theorem next_of_open {op : OnRampOp} {reply : onRampInterface.Reply op}
    (held : stage.open? = some message)
    (leaves : (∃ again, op = .sendToQueue again) ∨ ∃ given, op = .nack given)
    : messageProtocol.next stage op reply = Handling.leave message op reply := by
  cases stage with
  | working other | cleared other =>
      obtain rfl := Option.some.inj held
      rcases leaves with ⟨again, rfl⟩ | ⟨given, rfl⟩ <;> rfl
  | idle | misrouted | resent _ => cases held

theorem wp_retry_message (held : stage.open? = some message)
    : messageProtocol.wp
        (if MAX_RETRIES ≤ message.retries then issue (.nack message)
          else do
            issue (.sendToQueue { message with retries := message.retries + 1 })
            issue (.ack message))
        stage (fun _ _ => True) (fun _ _ => True) := by
  rw [Protocol.wp_ite]
  constructor
  · intro _
    have given : ∀ reply, messageProtocol.next stage (.nack message) reply = some .idle :=
      fun reply => (next_of_open held (.inr ⟨_, rfl⟩)).trans (if_pos rfl)
    exact Protocol.wp_await.mpr ⟨fun _ => ⟨_, given _, trivial⟩, fun _ => ⟨_, given _, trivial⟩⟩
  · intro _
    have again : ∀ reply, messageProtocol.next stage
        (.sendToQueue { message with retries := message.retries + 1 }) reply
        = some (if Except.isOk reply then .resent message else .idle) :=
      fun reply => (next_of_open held (.inl ⟨_, rfl⟩)).trans (if_pos rfl)
    rw [Protocol.wp_bind]
    refine Protocol.wp_await.mpr ⟨fun _ => ⟨_, again _, ?_⟩, fun _ => ⟨_, again _, trivial⟩⟩
    exact Protocol.wp_await.mpr
      ⟨fun _ => ⟨_, if_pos rfl, trivial⟩, fun _ => ⟨_, if_pos rfl, trivial⟩⟩

theorem wp_consume_message {queue : Queue} {process : Message → Prog onRampInterface Unit}
    (worked : ∀ message, message.payload.queue = queue →
      messageProtocol.wp (process message) (.working message)
        (fun _ stage => stage = .cleared message) (fun _ stage => stage.open? = some message))
    : messageProtocol.wp (consume queue process) .idle (fun _ _ => True) (fun _ _ => True) := by
  unfold consume
  rw [Protocol.wp_bind]
  refine Protocol.wp_await.mpr ⟨fun message => ⟨_, rfl, ?_⟩, fun _ => ⟨_, rfl, trivial⟩⟩
  by_cases routed : message.payload.queue = queue
  · simp only [Handling.afterReceive, routed, if_true]
    rw [Protocol.wp_bind, Protocol.wp_catchWith, Protocol.wp_bind]
    apply Protocol.wp_mono (worked message routed)
    · rintro _ _ rfl
      exact Protocol.wp_await.mpr
        ⟨fun _ => ⟨_, if_pos rfl, trivial⟩, fun _ => ⟨_, if_pos rfl, wp_retry_message rfl⟩⟩
    · exact fun _ stage held => wp_retry_message held
  · simp only [Handling.afterReceive, routed, if_false]
    exact Protocol.wp_of_total (fun stage => stage = .misrouted)
      (by rintro _ _ _ rfl; exact ⟨_, rfl, rfl⟩) rfl

end

theorem wp_messageProtocol (dep : Deployment) (party : Party)
    : messageProtocol.wp (party.program dep) .idle (fun _ _ => True) (fun _ _ => True) := by
  cases party with
  | usdcDelivery =>
      exact wp_consume_message (fun _ routed => wp_processUsdcConvertAndMint_message routed)
  | xlmDelivery =>
      apply wp_consume_message
      intro message routed
      cases carried : message.payload with
      | xlmToAcbu payload => exact wp_processXlmToAcbu_message carried
      | usdcConvertAndMint _ =>
          rw [carried] at routed
          cases routed
  | mintFromUsdc _ | registerOnRampSwap _ =>
      apply Protocol.wp_mono (wp_of_request rfl ?_) (fun _ _ _ => trivial) (fun _ _ _ => trivial)
      intro other op reply other' _ moved
      cases op with
      | receive _ | ack _ | nack _ => cases moved
      | _ => rfl

end AcbuBackend.OnRamp
