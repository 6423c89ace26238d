import AcbuBackend.OnRamp.AnnouncedSwaps
import AcbuBackend.OnRamp.DeliveryProtocol

/-! The amount the XLM job mints for.
It is followed from the body of a registration through the row and the message to the mint:
the XLM amount times the rate in force, unless the body declares an amount of its own.
-/

namespace AcbuBackend.OnRamp

open Effects AcbuBackend.Runtime Mint

variable {dep : Deployment} {parties : List Party}

/-- Every party keeps to the protocols of the requests and of the deliveries. -/
abbrev BothGoverned (dep : Deployment) (parties : List Party) (c : OnRampConfig) : Prop :=
  ((requestProtocol dep).prod (deliveryProtocol dep)).Governs
    (fun i => (.start (partyAt parties i), .start (partyAt parties i)))
    (fun _ _ _ => True) (fun _ _ _ => True) c

theorem bothGoverned_initial {swaps : AList (fun _ : SwapId => OnRampSwap)} {queue : List Message}
    : BothGoverned dep parties (initialConfig dep parties swaps queue) := by
  apply Protocol.governs_initial
  intro i prog found
  rw [List.getElem?_map, Option.map_eq_some_iff] at found
  obtain ⟨party, found, rfl⟩ := found
  simp only [partyAt, found, Option.getD_some]
  apply Protocol.wp_mono
    (Protocol.wp_prod (wp_requestProtocol dep party) (wp_deliveryProtocol dep party))
  · exact fun _ _ _ => trivial
  · exact fun _ _ _ => trivial

/-- The phases of party `i` in both protocols. -/
noncomputable def phasesOf (dep : Deployment) (parties : List Party) (c : OnRampConfig) (i : Nat)
    : RequestPhase × DeliveryPhase :=
  ((requestProtocol dep).prod (deliveryProtocol dep)).phase
    (fun i => (.start (partyAt parties i), .start (partyAt parties i))) c i

-- From a registration to a mint

/-- A registration of the run created the row of a message and sent it. -/
def Registered (dep : Deployment) (parties : List Party) (c : OnRampConfig)
    (payload : XlmToAcbuPayload)
    : Prop :=
  ∃ j req row, partyAt parties j = .registerOnRampSwap req
    ∧ (⟨.createSwap row, .ok payload.onRampSwapId⟩ : Event onRampInterface) ∈ c.past j
    ∧ Registers dep req payload.onRampSwapId row (.xlmToAcbu payload)

/-- A row of a mint stands for a registered message at a rate read for it. -/
def MintsRegistered (dep : Deployment) (parties : List Party) (c : OnRampConfig) (i : Nat)
    (id : SwapId) (data : Transaction)
    : Prop :=
  ∃ payload usdcAmount, Registered dep parties c payload ∧ payload.onRampSwapId = id
    ∧ data.usdcAmount = some usdcAmount
    ∧ StandsFor dep payload
        (fun liveRate =>
          (⟨.fetchXlmRateUsd, .ok liveRate⟩ : Event onRampInterface) ∈ c.past i) usdcAmount

/-- What is known in a run is traced back to a call that was answered. -/
structure Traced (dep : Deployment) (parties : List Party) (c : OnRampConfig) : Prop where
  party : ∀ i, (phasesOf dep parties c i).1.party = partyAt parties i
    ∧ (phasesOf dep parties c i).2.party = partyAt parties i
  created : ∀ i id row, (phasesOf dep parties c i).1.created = some (id, row) →
    (⟨.createSwap row, .ok id⟩ : Event onRampInterface) ∈ c.past i
  queued : ∀ message payload, message ∈ c.world.queue → message.payload = .xlmToAcbu payload →
    Registered dep parties c payload
  received : ∀ i message payload, (phasesOf dep parties c i).2.message = some message →
    message.payload = .xlmToAcbu payload → Registered dep parties c payload
  rates : ∀ i, ∀ liveRate ∈ (phasesOf dep parties c i).2.rates,
    (⟨.fetchXlmRateUsd, .ok liveRate⟩ : Event onRampInterface) ∈ c.past i
  minted : ∀ i id data reply, partyAt parties i = .xlmDelivery →
    (⟨.mint (some id) (.createTransaction data), reply⟩ : Event onRampInterface) ∈ c.past i →
    MintsRegistered dep parties c i id data

theorem StandsFor.mono {payload : XlmToAcbuPayload} {rates rates' : Option ℚ → Prop}
    {usdcAmount : ℚ} (h : StandsFor dep payload rates usdcAmount)
    (more : ∀ liveRate, rates liveRate → rates' liveRate)
    : StandsFor dep payload rates' usdcAmount := by
  unfold StandsFor at h ⊢
  split at h
  · exact h
  · obtain ⟨liveRate, read, same⟩ := h
    exact ⟨liveRate, more liveRate read, same⟩

theorem prod_next {phases phases' : RequestPhase × DeliveryPhase} {op : OnRampOp}
    {reply : onRampInterface.Reply op}
    (h : ((requestProtocol dep).prod (deliveryProtocol dep)).next phases op reply = some phases')
    : RequestMove dep phases.1 phases'.1 ⟨op, reply⟩
      ∧ DeliveryMove dep phases.2 phases'.2 ⟨op, reply⟩ := by
  obtain ⟨first, requested, rest⟩ := Option.bind_eq_some_iff.mp h
  obtain ⟨second, delivered, rfl⟩ := Option.map_eq_some_iff.mp rest
  exact ⟨.of_protocol requested, .of_protocol delivered⟩

theorem Traced.sent {c : OnRampConfig} {i : Nat} {message : Message} {payload : XlmToAcbuPayload}
    {phases' : RequestPhase × DeliveryPhase} {reply : Except JsError Unit}
    (h : Traced dep parties c)
    (request : RequestMove dep (phasesOf dep parties c i).1 phases'.1
      ⟨.sendToQueue message, reply⟩)
    (delivery : DeliveryMove dep (phasesOf dep parties c i).2 phases'.2
      ⟨.sendToQueue message, reply⟩)
    (carried : message.payload = .xlmToAcbu payload)
    : Registered dep parties c payload := by
  obtain ⟨party, party'⟩ := h.party i
  cases delivers : (partyAt parties i).isDelivery with
  | true =>
      obtain ⟨delivered, held, again⟩ := delivery.sent message rfl (party'.symm ▸ delivers)
      exact h.received i delivered payload held (again ▸ carried)
  | false =>
      obtain ⟨id, row, created, named, agrees⟩ := request.sent message rfl (party.symm ▸ delivers)
      have sameId : payload.onRampSwapId = id := by
        rw [← named, carried]
        rfl
      cases registering : partyAt parties i with
      | registerOnRampSwap req =>
          simp only [party, registering] at agrees
          refine ⟨i, req, row, registering, ?_, ?_⟩
          · rw [sameId]
            exact h.created i id row created
          · rw [sameId, ← carried]
            exact agrees
      | mintFromUsdc req =>
          simp only [party, registering] at agrees
          rw [carried] at agrees
          cases agrees
      | usdcDelivery | xlmDelivery =>
          rw [registering] at delivers
          cases delivers

theorem Traced.step {c c' : OnRampConfig} {i : Nat} {x : Choice}
    (governed : BothGoverned dep parties c) (h : Traced dep parties c)
    (stepped : c.step onRampSemantics i x = some c')
    : Traced dep parties c' := by
  obtain ⟨op, reply, -, -, answered, moved, past, others, -⟩ := governed.step_cases stepped
  obtain ⟨request, delivery⟩ := prod_next moved
  change RequestMove dep (phasesOf dep parties c i).1 (phasesOf dep parties c' i).1 _ at request
  change DeliveryMove dep (phasesOf dep parties c i).2 (phasesOf dep parties c' i).2 _ at delivery
  have same : ∀ j, j ≠ i → phasesOf dep parties c' j = phasesOf dep parties c j :=
    fun j different => (others j different).1
  have grows : ∀ j event, event ∈ c.past j → event ∈ c'.past j := by
    intro j event member
    by_cases own : j = i
    · rw [own] at member ⊢
      rw [past]
      exact List.mem_cons_of_mem _ member
    · rw [(others j own).2.2]
      exact member
  have issued : (⟨op, reply⟩ : Event onRampInterface) ∈ c'.past i := by
    rw [past]
    exact List.mem_cons_self
  have stays : ∀ payload, Registered dep parties c payload → Registered dep parties c' payload := by
    rintro payload ⟨j, req, row, party, member, agrees⟩
    exact ⟨j, req, row, party, grows j _ member, agrees⟩
  constructor
  · intro j
    by_cases own : j = i
    · subst own
      exact ⟨request.party.trans (h.party j).1, delivery.party.trans (h.party j).2⟩
    · exact same j own ▸ h.party j
  · intro j id row created
    by_cases own : j = i
    · subst own
      rcases request.created id row created with before | here
      · exact grows j _ (h.created j id row before)
      · exact here ▸ issued
    · exact grows j _ (h.created j id row (same j own ▸ created))
  · intro message payload member carried
    apply stays
    rcases act_queue answered message member with before | rfl
    · exact h.queued message payload before carried
    · exact h.sent request delivery carried
  · intro j message payload held carried
    apply stays
    by_cases own : j = i
    · subst own
      rcases delivery.message message held with before | ⟨queue, here⟩
      · exact h.received j message payload before carried
      · cases here
        exact h.queued message payload (act_receive answered).1 carried
    · exact h.received j message payload (same j own ▸ held) carried
  · intro j liveRate member
    by_cases own : j = i
    · subst own
      rcases delivery.rates liveRate member with before | here
      · exact grows j _ (h.rates j liveRate before)
      · exact here ▸ issued
    · exact grows j _ (h.rates j liveRate (same j own ▸ member))
  · intro j id data reply' xlm member
    have mono : MintsRegistered dep parties c j id data
        → MintsRegistered dep parties c' j id data := by
      rintro ⟨payload, usdcAmount, registered, named, recorded, stands⟩
      exact ⟨payload, usdcAmount, stays payload registered, named, recorded,
        stands.mono (fun _ read => grows j _ read)⟩
    apply mono
    by_cases own : j = i
    · subst own
      rw [past] at member
      rcases List.mem_cons.mp member with here | before
      · cases here
        obtain ⟨message, payload, usdcAmount, held, carried, named, recorded, stands⟩ :=
          delivery.minted id data rfl ((h.party j).2.trans xlm)
        exact ⟨payload, usdcAmount, h.received j message payload held carried, named, recorded,
          stands.mono (fun liveRate read => h.rates j liveRate read)⟩
      · exact h.minted j id data reply' xlm before
    · rw [(others j own).2.2] at member
      exact h.minted j id data reply' xlm member

theorem traced_initial {swaps : AList (fun _ : SwapId => OnRampSwap)}
    : Traced dep parties (initialConfig dep parties swaps []) := by
  have start : ∀ i, phasesOf dep parties (initialConfig dep parties swaps []) i
      = (.start (partyAt parties i), .start (partyAt parties i)) :=
    fun i => Protocol.phase_initial _
  constructor
  · intro i
    rw [start]
    exact ⟨rfl, rfl⟩
  · intro i id row created
    rw [start] at created
    cases created
  · rintro message payload ⟨⟩
  · intro i message payload held
    rw [start] at held
    cases held
  · intro i liveRate member
    rw [start] at member
    cases member
  · intro i id data reply _ member
    rw [initialConfig, Config.past_initial] at member
    cases member

theorem ne_empty_of_bodySchema {body : RegisterBody} {parsed : ParsedRegister} {declared : String}
    (h : bodySchema dep body = .ok parsed) (given : parsed.usdcAmount = some declared)
    : declared ≠ "" := by
  have accepted : declaredUsdcSchema body.usdc_amount = some (some declared) := by
    unfold bodySchema at h
    simp only at h
    split at h
    · rename_i usdcAmount _ _ schema
      obtain rfl := Except.ok.inj h
      rw [schema]
      exact congrArg some given
    · cases h
  rintro rfl
  unfold declaredUsdcSchema at accepted
  split at accepted
  · cases accepted
  · split at accepted
    · rename_i value passed
      obtain rfl := Option.some.inj (Option.some.inj accepted)
      exact absurd passed.1 (by decide)
    · cases accepted
  · cases accepted

theorem getElem?_of_registers {j : Nat} {req : RegisterRequest}
    (h : partyAt parties j = .registerOnRampSwap req)
    : parties[j]? = some (.registerOnRampSwap req) := by
  unfold partyAt at h
  cases found : parties[j]? with
  | none =>
      rw [found] at h
      cases h
  | some party =>
      rw [found] at h
      exact congrArg some h

theorem mul_eq_finite {a : ℚ} {b : JsNumber} {value : ℚ}
    (h : (JsNumber.finite a).mul b = .finite value)
    : ∃ rate, b = .finite rate ∧ value = a * rate := by
  cases b with
  | finite rate => exact ⟨rate, rfl, (JsNumber.finite.inj h).symm⟩
  | nan => cases h
  | infinity negative =>
      simp only [JsNumber.mul] at h
      split at h <;> cases h

/-- The row of a mint goes back to a registration whose row holds its XLM amount: it is for
that amount times the rate in force when the body declares no USDC amount, and for the
declared amount when it does.
-/
def MintsAsRegistered (dep : Deployment) (parties : List Party) (c : OnRampConfig) (i : Nat)
    (id : SwapId) (data : Transaction)
    : Prop :=
  ∃ j req row body xlmAmount usdcAmount,
    parties[j]? = some (.registerOnRampSwap req)
    ∧ (⟨.createSwap row, .ok id⟩ : Event onRampInterface) ∈ c.past j
    ∧ bodySchema dep req.body = .ok body
    ∧ jsNumber body.xlmAmount = .finite xlmAmount
    ∧ row.xlmAmount = some xlmAmount
    ∧ data.usdcAmount = some usdcAmount
    ∧ (body.usdcAmount = none → ∃ liveRate rate,
        (⟨.fetchXlmRateUsd, .ok liveRate⟩ : Event onRampInterface) ∈ c.past i
        ∧ rateInForce dep liveRate = .finite rate
        ∧ usdcAmount = xlmAmount * rate)
    ∧ ∀ declared, body.usdcAmount = some declared →
        jsNumber declared = .finite usdcAmount ∧ row.usdcAmount = some usdcAmount

/-- In every run, the XLM job mints as it was registered. -/
theorem mintsAsRegistered (dep : Deployment) (parties : List Party)
    (swaps : AList (fun _ : SwapId => OnRampSwap)) (c : OnRampConfig) (i : Nat) (id : SwapId)
    (data : Transaction) (reply : Except JsError TxId)
    (reached : Config.Reaches onRampSemantics Config.anyStep
      (initialConfig dep parties swaps []) c)
    (delivery : parties[i]? = some .xlmDelivery)
    (minted : (⟨.mint (some id) (.createTransaction data), reply⟩ : Event onRampInterface)
      ∈ c.past i)
    : MintsAsRegistered dep parties c i id data := by
  obtain ⟨-, traced⟩ := Protocol.Governs.invariant (J := Traced dep parties)
    (@bothGoverned_initial dep parties swaps []) traced_initial
    (fun _ _ _ _ governed h _ stepped => h.step governed stepped) reached
  have xlm : partyAt parties i = .xlmDelivery := by simp [partyAt, delivery]
  obtain ⟨payload, usdcAmount, registered, rfl, recorded, stands⟩ :=
    traced.minted i id data reply xlm minted
  obtain ⟨j, req, row, party, created, body, parsed, agrees, ⟨xlmAmount, finite, held⟩, declares⟩ :=
    registered
  have carried := Payload.xlmToAcbu.inj agrees
  have sameXlm : payload.xlmAmount = body.xlmAmount := congrArg XlmToAcbuPayload.xlmAmount carried
  have sameUsdc : payload.usdcEquivalent = body.usdcAmount :=
    congrArg XlmToAcbuPayload.usdcEquivalent carried
  unfold StandsFor at stands
  rw [sameUsdc, sameXlm, finite] at stands
  refine ⟨j, req, row, body, xlmAmount, usdcAmount, getElem?_of_registers party, created, parsed,
    finite, held, recorded, ?_, ?_⟩
  · intro undeclared
    rw [undeclared] at stands
    obtain ⟨liveRate, read, product⟩ := stands
    obtain ⟨rate, inForce, same⟩ := mul_eq_finite product
    exact ⟨liveRate, rate, read, inForce, same⟩
  · intro declared given
    have kept : body.usdcAmount.filter (fun s => s ≠ "") = some declared := by
      simp [given, ne_empty_of_bodySchema parsed given]
    rw [kept] at stands
    obtain ⟨value, number, stored⟩ := declares declared given
    refine ⟨stands, ?_⟩
    rw [stored]
    exact congrArg some (JsNumber.finite.inj (number.symm.trans stands))

-- A registration of one XLM

def sampleRegister (declared : BodyField) : RegisterRequest where
  apiKey := some { userId := some "user", organizationId := none }
  idempotencyHeader := none
  body :=
    { stellar_address := .text Mint.sampleWallet
      xlm_amount := .text "1"
      usdc_amount := declared }

/-- An environment with a price of 0.2 USD, in which the message of the registration is
delivered.
-/
def sampleXlmChoice (declared : Option String) : Choice :=
  { sampleChoice 0 with
    xlmRateUsd := some (1 / 5)
    message :=
      { payload := .xlmToAcbu
          { onRampSwapId := "s1"
            userId := "user"
            stellarAddress := Mint.sampleWallet
            xlmAmount := "1"
            usdcEquivalent := declared } } }

def mintRow? (event : Event onRampInterface) : Option (SwapId × Transaction) :=
  match event.op with
  | .mint (some id) (.createTransaction data) => some (id, data)
  | _ => none

theorem minted_of_mintRow? {past : List (Event onRampInterface)} {id : SwapId} {data : Transaction}
    (h : (id, data) ∈ past.filterMap mintRow?)
    : ∃ reply, (⟨.mint (some id) (.createTransaction data), reply⟩ : Event onRampInterface)
        ∈ past := by
  obtain ⟨⟨op, reply⟩, member, read⟩ := List.mem_filterMap.mp h
  simp only [mintRow?] at read
  split at read
  · cases read
    exact ⟨reply, member⟩
  · cases read

def sampleMintRow (usdcAmount : ℚ) : Transaction where
  userId := some "user"
  status := .pending
  usdcAmount := some usdcAmount
  fee := some (calculateFee usdcAmount mintFeeBps)

/-- Without a declared amount, one XLM is minted for as 0.2 USDC. -/
theorem mintsAsRegistered_undeclared
    : ∃ c, Config.Reaches onRampSemantics Config.anyStep
          (initialConfig sampleDeployment
            [.registerOnRampSwap (sampleRegister .absent), .xlmDelivery] ∅ []) c
        ∧ MintsAsRegistered sampleDeployment
            [.registerOnRampSwap (sampleRegister .absent), .xlmDelivery] c 1 "s1"
            (sampleMintRow (1 / 5)) := by
  have executed :
      ((initialConfig sampleDeployment
          [.registerOnRampSwap (sampleRegister .absent), .xlmDelivery] ∅ []).run onRampSemantics
        Config.anyStep
        (List.replicate 3 (0, sampleXlmChoice none)
          ++ List.replicate 5 (1, sampleXlmChoice none))).map
        (fun c => (c.past 1).filterMap mintRow?) = some [("s1", sampleMintRow (1 / 5))] := by
    decide +kernel
  obtain ⟨c, reached, rows⟩ := Config.reaches_of_run executed
  obtain ⟨reply, minted⟩ := minted_of_mintRow? (rows ▸ List.mem_singleton.mpr rfl)
  exact ⟨c, reached, mintsAsRegistered _ _ _ c 1 _ _ reply reached rfl minted⟩

/-- One XLM with 1000 USDC declared is minted for as 1000 USDC, whatever the rate. -/
theorem minted_above_rate
    : ∃ c reply, Config.Reaches onRampSemantics Config.anyStep
          (initialConfig sampleDeployment
            [.registerOnRampSwap (sampleRegister (.text "1000")), .xlmDelivery] ∅ []) c
        ∧ (⟨.mint (some "s1") (.createTransaction (sampleMintRow 1000)), reply⟩
            : Event onRampInterface) ∈ c.past 1
        ∧ (jsNumber "1").mul (rateInForce sampleDeployment (some (1 / 5))) = .finite (1 / 5)
        ∧ (jsNumber "1").mul (rateInForce sampleDeployment none) = .finite (1 / 5) := by
  have executed :
      ((initialConfig sampleDeployment
          [.registerOnRampSwap (sampleRegister (.text "1000")), .xlmDelivery] ∅ []).run
        onRampSemantics Config.anyStep
        (List.replicate 3 (0, sampleXlmChoice (some "1000"))
          ++ List.replicate 4 (1, sampleXlmChoice (some "1000")))).map
        (fun c => (c.past 1).filterMap mintRow?) = some [("s1", sampleMintRow 1000)] := by
    decide +kernel
  obtain ⟨c, reached, rows⟩ := Config.reaches_of_run executed
  obtain ⟨reply, minted⟩ := minted_of_mintRow? (rows ▸ List.mem_singleton.mpr rfl)
  exact ⟨c, reply, reached, minted, by decide +kernel, by decide +kernel⟩

end AcbuBackend.OnRamp
