import AcbuBackend.OnRamp.RequestProtocol

/-! What a delivery does with its message.
It sends no other message again, and the XLM job mints for the amount its message stands for:
the declared one, or the XLM amount at a rate that was read.
-/

namespace AcbuBackend.OnRamp

open Effects AcbuBackend.Runtime Mint

variable {dep : Deployment}

/-- An amount is the one a message stands for, at one of the rates that were read. -/
def StandsFor (dep : Deployment) (payload : XlmToAcbuPayload) (rates : Option ℚ → Prop)
    (usdcAmount : ℚ)
    : Prop :=
  match payload.usdcEquivalent.filter (fun s => s ≠ "") with
  | some declared => jsNumber declared = .finite usdcAmount
  | none => ∃ liveRate, rates liveRate
      ∧ (jsNumber payload.xlmAmount).mul (rateInForce dep liveRate) = .finite usdcAmount

/-- A party, the message it was delivered and the rates it has read. -/
structure DeliveryPhase where
  party : Party
  message : Option Message
  rates : List (Option ℚ)

def DeliveryPhase.start (party : Party) : DeliveryPhase :=
  { party, message := none, rates := [] }

/-- Whether the row of a mint is the one its message stands for. -/
def MintsMessage (dep : Deployment) (phase : DeliveryPhase) (id : SwapId) (data : Transaction)
    : Prop :=
  ∃ message payload usdcAmount, phase.message = some message
    ∧ message.payload = .xlmToAcbu payload ∧ payload.onRampSwapId = id
    ∧ data.usdcAmount = some usdcAmount
    ∧ StandsFor dep payload (fun liveRate => liveRate ∈ phase.rates) usdcAmount

/-- Whether a delivery sends its own message again. -/
def Resends (phase : DeliveryPhase) (message : Message) : Prop :=
  ∃ delivered, phase.message = some delivered ∧ message.payload = delivered.payload

open Classical in
/-- The phase a call of a delivery leads to. -/
noncomputable def nextDelivery (dep : Deployment) (phase : DeliveryPhase)
    : (op : OnRampOp) → onRampInterface.Reply op → Option DeliveryPhase
  | .receive _, reply =>
      match reply with
      | .ok message => some { phase with message := some message }
      | .error _ => some phase
  | .fetchXlmRateUsd, reply =>
      match reply with
      | .ok liveRate => some { phase with rates := liveRate :: phase.rates }
      | .error _ => some phase
  | .sendToQueue message, _ => if Resends phase message then some phase else none
  | .mint (some id) (.createTransaction data), _ =>
      if phase.party = .xlmDelivery → MintsMessage dep phase id data then some phase else none
  | _, _ => some phase

/-- The protocol of the deliveries. Requests are free in it. -/
noncomputable def deliveryProtocol (dep : Deployment) : Protocol onRampInterface DeliveryPhase where
  next phase op reply :=
    if phase.party.isDelivery then nextDelivery dep phase op reply else some phase

theorem deliveryProtocol_next {phase : DeliveryPhase} {op : OnRampOp}
    {reply : onRampInterface.Reply op} (delivery : phase.party.isDelivery = true)
    : (deliveryProtocol dep).next phase op reply = nextDelivery dep phase op reply :=
  if_pos delivery

/-- What a call does to the phase of a delivery. -/
structure DeliveryMove (dep : Deployment) (phase phase' : DeliveryPhase)
    (event : Event onRampInterface)
    : Prop where
  party : phase'.party = phase.party
  message : ∀ message, phase'.message = some message →
    phase.message = some message ∨ ∃ queue, event = ⟨.receive queue, .ok message⟩
  rates : ∀ liveRate ∈ phase'.rates,
    liveRate ∈ phase.rates ∨ event = ⟨.fetchXlmRateUsd, .ok liveRate⟩
  sent : ∀ message, event.op = .sendToQueue message → phase.party.isDelivery = true →
    Resends phase message
  minted : ∀ id data, event.op = .mint (some id) (.createTransaction data) →
    phase.party = .xlmDelivery → MintsMessage dep phase id data

theorem DeliveryMove.refl {phase : DeliveryPhase} {event : Event onRampInterface}
    (sent : ∀ message, event.op = .sendToQueue message → phase.party.isDelivery = true →
      Resends phase message)
    (minted : ∀ id data, event.op = .mint (some id) (.createTransaction data) →
      phase.party = .xlmDelivery → MintsMessage dep phase id data)
    : DeliveryMove dep phase phase event where
  party := rfl
  message := fun _ before => .inl before
  rates := fun _ before => .inl before
  sent := sent
  minted := minted

theorem DeliveryMove.of_next {phase phase' : DeliveryPhase} {op : OnRampOp}
    {reply : onRampInterface.Reply op}
    (h : nextDelivery dep phase op reply = some phase')
    : DeliveryMove dep phase phase' ⟨op, reply⟩ := by
  cases op with
  | receive queue =>
      simp only [nextDelivery] at h
      split at h
      · rename_i message
        obtain rfl := Option.some.inj h
        refine ⟨rfl, ?_, fun _ before => .inl before, by simp, by simp⟩
        rintro _ ⟨⟩
        exact .inr ⟨queue, rfl⟩
      · obtain rfl := Option.some.inj h
        exact .refl (by simp) (by simp)
  | fetchXlmRateUsd =>
      simp only [nextDelivery] at h
      split at h
      · obtain rfl := Option.some.inj h
        refine ⟨rfl, fun _ before => .inl before, ?_, by simp, by simp⟩
        intro liveRate member
        rcases List.mem_cons.mp member with rfl | before
        · exact .inr rfl
        · exact .inl before
      · obtain rfl := Option.some.inj h
        exact .refl (by simp) (by simp)
  | sendToQueue message =>
      simp only [nextDelivery] at h
      split at h
      · rename_i again
        obtain rfl := Option.some.inj h
        refine .refl ?_ (by simp)
        rintro _ ⟨⟩ _
        exact again
      · cases h
  | mint onRampSwapId op =>
      by_cases creates : ∃ id data, onRampSwapId = some id ∧ op = .createTransaction data
      · obtain ⟨id, data, rfl, rfl⟩ := creates
        simp only [nextDelivery] at h
        split at h
        · rename_i allowed
          obtain rfl := Option.some.inj h
          refine .refl (by simp) ?_
          rintro _ _ ⟨⟩ xlm
          exact allowed xlm
        · cases h
      · have stays : nextDelivery dep phase (.mint onRampSwapId op) reply = some phase := by
          cases onRampSwapId with
          | none => rfl
          | some id =>
              cases op with
              | createTransaction data => exact absurd ⟨id, data, rfl, rfl⟩ creates
              | _ => rfl
        rw [stays] at h
        obtain rfl := Option.some.inj h
        refine .refl (by simp) ?_
        rintro id data ⟨⟩
        exact absurd ⟨_, _, rfl, rfl⟩ creates
  | _ =>
      obtain rfl := Option.some.inj h
      exact .refl (by simp) (by simp)

theorem DeliveryMove.of_protocol {phase phase' : DeliveryPhase} {op : OnRampOp}
    {reply : onRampInterface.Reply op}
    (h : (deliveryProtocol dep).next phase op reply = some phase')
    : DeliveryMove dep phase phase' ⟨op, reply⟩ := by
  by_cases delivery : phase.party.isDelivery = true
  · rw [deliveryProtocol_next delivery] at h
    exact .of_next h
  · obtain rfl := Option.some.inj ((if_neg delivery).symm.trans h)
    refine .refl (fun _ _ other => absurd other delivery) ?_
    intro _ _ _ xlm
    rw [xlm] at delivery
    exact absurd rfl delivery

-- Parties

open Classical in
/-- A mint records the amount it was asked for. -/
noncomputable def amountProtocol (usdcAmount : ℚ) : Protocol mintInterface Unit where
  next _ op _ :=
    match op with
    | .createTransaction data => if data.usdcAmount = some usdcAmount then some () else none
    | _ => some ()

theorem wp_amount (req : UsdcMintRequest)
    : (amountProtocol req.usdcAmount).wp (mintFromUsdcInternal req) ()
        (fun _ _ => True) (fun _ _ => True) := by
  unfold mintFromUsdcInternal
  refine Protocol.wp_bind.mpr (Protocol.wp_await.mpr
    ⟨fun id => ⟨(), if_pos rfl, ?_⟩, fun _ => ⟨(), if_pos rfl, trivial⟩⟩)
  refine Protocol.wp_bind.mpr (Protocol.wp_await.mpr
    ⟨fun mintingAddress => ⟨(), rfl, ?_⟩, fun _ => ⟨(), rfl, trivial⟩⟩)
  rw [Protocol.wp_ite]
  refine ⟨fun _ => by simp [amountProtocol], fun _ => ?_⟩
  refine Protocol.wp_bind.mpr (Protocol.wp_await.mpr
    ⟨fun publicKey => ⟨(), rfl, ?_⟩, fun _ => ⟨(), rfl, trivial⟩⟩)
  cases publicKey with
  | none => simp [amountProtocol]
  | some sourceAccount =>
      simp [mintUsdc, completeUsdcMint, Mint.mintFromUsdc, invokeMint, markTransactionFailed,
        redeemSingle, amountProtocol]

section

variable {phase : DeliveryPhase} {α β : Type}

/-- A program that leaves the phase of its delivery as it is. -/
def Keeps (dep : Deployment) (phase : DeliveryPhase) (prog : Prog onRampInterface α) : Prop :=
  (deliveryProtocol dep).wp prog phase (fun _ phase' => phase' = phase)
    (fun _ phase' => phase' = phase)

theorem Keeps.bind {prog : Prog onRampInterface α} {f : α → Prog onRampInterface β}
    (h : Keeps dep phase prog) (next : ∀ value, Keeps dep phase (f value))
    : Keeps dep phase (prog >>= f) := by
  unfold Keeps
  rw [Protocol.wp_bind]
  apply Protocol.wp_mono h
  · rintro value _ rfl
    exact next value
  · exact fun _ _ same => same

theorem Keeps.catchWith {prog : Prog onRampInterface α} {handler : JsError → Prog onRampInterface α}
    (h : Keeps dep phase prog) (next : ∀ error, Keeps dep phase (handler error))
    : Keeps dep phase (prog.catchWith handler) := by
  unfold Keeps
  rw [Protocol.wp_catchWith]
  apply Protocol.wp_mono h
  · exact fun _ _ same => same
  · rintro error _ rfl
    exact next error

theorem keeps_issue {op : OnRampOp}
    (kept : ∀ reply, (deliveryProtocol dep).next phase op reply = some phase)
    : Keeps dep phase (issue op) :=
  Protocol.wp_await.mpr ⟨fun _ => ⟨phase, kept _, rfl⟩, fun _ => ⟨phase, kept _, rfl⟩⟩

theorem keeps_updateSwap (delivery : phase.party.isDelivery = true) (id : SwapId)
    (data : SwapUpdate)
    : Keeps dep phase (issue (.updateSwap id data)) :=
  keeps_issue (fun _ => deliveryProtocol_next delivery)

theorem keeps_mintForSwap {id : SwapId} {req : UsdcMintRequest}
    (delivery : phase.party.isDelivery = true)
    (allowed : ∀ data : Transaction, phase.party = .xlmDelivery →
      data.usdcAmount = some req.usdcAmount → MintsMessage dep phase id data)
    : Keeps dep phase (mintForSwap id req) := by
  have inside := Protocol.wp_within (R := deliveryProtocol dep) (ι := mintCalls (some id))
    (fun _ other => other = phase)
    (fun _ _ other op reply same moved => by
      subst same
      refine ⟨other, (deliveryProtocol_next delivery).trans ?_, rfl⟩
      cases op with
      | createTransaction data =>
          simp only [amountProtocol] at moved
          split at moved
          · rename_i recorded
            exact if_pos (fun xlm => allowed data xlm recorded)
          · cases moved
      | _ => rfl)
    (wp_amount req) rfl
  refine Keeps.bind ?_ (fun _ => keeps_updateSwap delivery id _)
  apply Protocol.wp_mono inside
  · exact fun _ _ ⟨_, same, _⟩ => same
  · exact fun _ _ ⟨_, _, same, _⟩ => same

theorem keeps_withClaimedSwap {id : SwapId} {source : Option SwapSource}
    {work : OnRampSwap → Prog onRampInterface Unit} (delivery : phase.party.isDelivery = true)
    (worked : ∀ row, Keeps dep phase (work row))
    : Keeps dep phase (withClaimedSwap id source work) := by
  refine Keeps.bind (keeps_issue (fun _ => deliveryProtocol_next delivery)) (fun claimed => ?_)
  cases claimed with
  | zero => rfl
  | succ _ =>
      refine Keeps.bind (keeps_issue (fun _ => deliveryProtocol_next delivery)) (fun found => ?_)
      cases found with
      | none => rfl
      | some row => exact worked row

/-- A throwing attempt writes its row and throws again. -/
theorem keeps_handledBack {id : SwapId} {data : SwapUpdate} {body : Prog onRampInterface Unit}
    (delivery : phase.party.isDelivery = true) (work : Keeps dep phase body)
    : Keeps dep phase
        (body.catchWith (fun e => do
          issue (.updateSwap id data)
          .fail e)) :=
  work.catchWith (fun _ => (keeps_updateSwap delivery id data).bind (fun _ => rfl))

theorem keeps_processUsdcConvertAndMint {id : SwapId} {finalAttempt : Bool}
    (usdc : phase.party = .usdcDelivery)
    : Keeps dep phase (processUsdcConvertAndMint id finalAttempt) := by
  have delivery : phase.party.isDelivery = true := usdc ▸ rfl
  refine keeps_withClaimedSwap delivery (fun swap => ?_)
  by_cases unset : swap.usdcAmount.getD 0 ≤ 0
  · simp only [unset, if_true]
    exact keeps_updateSwap delivery id _
  · simp only [unset, if_false]
    apply keeps_handledBack delivery
    refine Keeps.bind ?_ (fun _ => keeps_mintForSwap delivery ?_)
    · unfold convertUsdc
      cases swap.xlmAmount with
      | some _ => rfl
      | none =>
          exact Keeps.bind (keeps_issue (fun _ => deliveryProtocol_next delivery))
            (fun _ => keeps_updateSwap delivery id _)
    · intro data xlm
      rw [usdc] at xlm
      cases xlm

theorem wp_usdcAmountOf {message : Message} {payload : XlmToAcbuPayload}
    : (deliveryProtocol dep).wp (usdcAmountOf dep payload) ⟨.xlmDelivery, some message, []⟩
        (fun amount phase => ∃ rates, phase = ⟨.xlmDelivery, some message, rates⟩
          ∧ ∀ usdcAmount, amount = .finite usdcAmount →
              StandsFor dep payload (fun liveRate => liveRate ∈ rates) usdcAmount)
        (fun _ phase => ∃ rates, phase = ⟨.xlmDelivery, some message, rates⟩) := by
  unfold usdcAmountOf StandsFor
  cases payload.usdcEquivalent.filter (fun s => s ≠ "") with
  | some declared => exact ⟨[], rfl, fun _ same => same⟩
  | none =>
      rw [Protocol.wp_bind]
      refine Protocol.wp_await.mpr ⟨fun liveRate => ⟨_, rfl, ?_⟩, fun _ => ⟨_, rfl, [], rfl⟩⟩
      exact ⟨[liveRate], rfl, fun _ same => ⟨liveRate, List.mem_singleton.mpr rfl, same⟩⟩

theorem wp_processXlmToAcbu_delivery {message : Message} {payload : XlmToAcbuPayload}
    (carried : message.payload = .xlmToAcbu payload)
    : (deliveryProtocol dep).wp (processXlmToAcbu dep payload) ⟨.xlmDelivery, some message, []⟩
        (fun _ phase => ∃ rates, phase = ⟨.xlmDelivery, some message, rates⟩)
        (fun _ phase => ∃ rates, phase = ⟨.xlmDelivery, some message, rates⟩) := by
  unfold processXlmToAcbu
  rw [Protocol.wp_bind]
  apply Protocol.wp_mono wp_usdcAmountOf
  · rintro amount _ ⟨rates, rfl, stands⟩
    have kept : Keeps dep ⟨.xlmDelivery, some message, rates⟩
        (withClaimedSwap payload.onRampSwapId none (fun _ =>
          Prog.catchWith
            (do
              let usdcAmount ← Prog.fromExcept (decimalColumn amount)
              mintForSwap payload.onRampSwapId
                { usdcAmount
                  walletAddress := payload.stellarAddress
                  userId := some payload.userId
                  organizationId := none })
            (fun e => do
              issue (.updateSwap payload.onRampSwapId { status := some .failed })
              .fail e))) := by
      refine keeps_withClaimedSwap rfl (fun _ => keeps_handledBack rfl ?_)
      cases finite : decimalColumn amount with
      | error _ => rfl
      | ok usdcAmount =>
          apply keeps_mintForSwap rfl
          intro data _ recorded
          exact ⟨message, payload, usdcAmount, rfl, carried, rfl, recorded,
            stands usdcAmount (decimalColumn_ok finite)⟩
    apply Protocol.wp_mono kept
    · exact fun _ _ same => ⟨rates, same⟩
    · exact fun _ _ same => ⟨rates, same⟩
  · exact fun _ _ ended => ended

theorem wp_consume_delivery {party : Party} {queue : Queue}
    {process : Message → Prog onRampInterface Unit} (delivery : party.isDelivery = true)
    (work : ∀ message, (deliveryProtocol dep).wp (process message) ⟨party, some message, []⟩
      (fun _ phase => ∃ rates, phase = ⟨party, some message, rates⟩)
      (fun _ phase => ∃ rates, phase = ⟨party, some message, rates⟩))
    : (deliveryProtocol dep).wp (consume queue process) (.start party)
        (fun _ _ => True) (fun _ _ => True) := by
  unfold consume
  rw [Protocol.wp_bind]
  refine Protocol.wp_await.mpr ⟨fun message => ⟨_, deliveryProtocol_next delivery, ?_⟩,
    fun _ => ⟨_, deliveryProtocol_next delivery, trivial⟩⟩
  -- what the callback does with the message of a delivery that failed
  have sentAgain : ∀ rates, Keeps dep ⟨party, some message, rates⟩
      (if MAX_RETRIES ≤ message.retries then issue (.nack message)
        else do
          issue (.sendToQueue { message with retries := message.retries + 1 })
          issue (.ack message)) := by
    intro rates
    split
    · exact keeps_issue (fun _ => deliveryProtocol_next delivery)
    · refine Keeps.bind (keeps_issue (fun _ => ?_))
        (fun _ => keeps_issue (fun _ => deliveryProtocol_next delivery))
      exact (deliveryProtocol_next delivery).trans (if_pos ⟨message, rfl, rfl⟩)
  have acked : ∀ rates, Keeps dep ⟨party, some message, rates⟩ (issue (.ack message)) :=
    fun rates => keeps_issue (fun _ => deliveryProtocol_next delivery)
  simp only [Protocol.wp_bind, Protocol.wp_catchWith, Protocol.wp_pure]
  apply Protocol.wp_mono (work message)
  · rintro _ _ ⟨rates, rfl⟩
    apply Protocol.wp_mono (acked rates)
    · exact fun _ _ _ => trivial
    · rintro error _ rfl
      exact Protocol.wp_mono (sentAgain rates) (fun _ _ _ => trivial) (fun _ _ _ => trivial)
  · rintro _ _ ⟨rates, rfl⟩
    exact Protocol.wp_mono (sentAgain rates) (fun _ _ _ => trivial) (fun _ _ _ => trivial)

theorem Keeps.rates {message : Message} {party : Party} {prog : Prog onRampInterface Unit}
    (h : Keeps dep ⟨party, some message, []⟩ prog)
    : (deliveryProtocol dep).wp prog ⟨party, some message, []⟩
        (fun _ phase => ∃ rates, phase = ⟨party, some message, rates⟩)
        (fun _ phase => ∃ rates, phase = ⟨party, some message, rates⟩) :=
  Protocol.wp_mono h (fun _ _ same => ⟨[], same⟩) (fun _ _ same => ⟨[], same⟩)

theorem wp_deliveryProtocol (dep : Deployment) (party : Party)
    : (deliveryProtocol dep).wp (party.program dep) (.start party)
        (fun _ _ => True) (fun _ _ => True) := by
  cases party with
  | usdcDelivery =>
      exact wp_consume_delivery rfl (fun _ => (keeps_processUsdcConvertAndMint rfl).rates)
  | xlmDelivery =>
      refine wp_consume_delivery rfl (fun message => ?_)
      cases carried : message.payload with
      | xlmToAcbu payload => exact wp_processXlmToAcbu_delivery carried
      | usdcConvertAndMint _ => exact ⟨[], rfl⟩
  | mintFromUsdc _ | registerOnRampSwap _ =>
      refine Protocol.wp_of_total (fun phase => phase.party.isDelivery = false) ?_ rfl
      exact fun phase _ _ request => ⟨phase, if_neg (by simp [request]), request⟩

end

end AcbuBackend.OnRamp
