import AcbuBackend.OnRamp.OnRampController

/-! What a request of the on-ramp does with its row.
It answers with a row it was shown or with one it has created and announced, and what it
announces is what its body and its row say.
-/

namespace AcbuBackend.OnRamp

open Effects Effects.Prog AcbuBackend.Runtime Mint

variable {dep : Deployment}

/-- A party, the swaps it may answer with and the row it has created. -/
structure RequestPhase where
  party : Party
  known : List SwapId
  created : Option (SwapId × OnRampSwap)

def Party.isDelivery : Party → Bool
  | .usdcDelivery | .xlmDelivery => true
  | _ => false

/-- The message of the XLM job for a registration: body, row and message agree. -/
def Registers (dep : Deployment) (req : RegisterRequest) (id : SwapId) (row : OnRampSwap)
    (payload : Payload)
    : Prop :=
  ∃ body, bodySchema dep req.body = .ok body
    ∧ payload = .xlmToAcbu
      { onRampSwapId := id
        userId := row.userId
        stellarAddress := row.stellarAddress
        xlmAmount := body.xlmAmount
        usdcEquivalent := body.usdcAmount }
    ∧ (∃ xlmAmount, jsNumber body.xlmAmount = .finite xlmAmount ∧ row.xlmAmount = some xlmAmount)
    ∧ ∀ declared, body.usdcAmount = some declared →
        ∃ usdcAmount, jsNumber declared = .finite usdcAmount ∧ row.usdcAmount = some usdcAmount

/-- Whether a message is the one a request sends for the row it has created. -/
def Announces (dep : Deployment) (phase : RequestPhase) (message : Message) : Prop :=
  ∃ id row, phase.created = some (id, row)
    ∧ message.payload.onRampSwapId = id
    ∧ match phase.party with
      | .mintFromUsdc _ => message.payload = .usdcConvertAndMint id
      | .registerOnRampSwap req => Registers dep req id row message.payload
      | _ => False

open Classical in
/-- The phase a call of a request leads to. -/
noncomputable def nextRequest (dep : Deployment) (phase : RequestPhase)
    : (op : OnRampOp) → onRampInterface.Reply op → Option RequestPhase
  | .mint none op, _ =>
      match op with
      | .invokeContract .. => none
      | _ => some phase
  | .findByIdempotencyKey .., reply =>
      match reply with
      | .ok (some (id, _)) => some { phase with known := id :: phase.known }
      | _ => some phase
  | .createSwap data, reply =>
      match reply with
      | .ok id => some { phase with created := some (id, data) }
      | .error _ => some phase
  | .sendToQueue message, reply =>
      if Announces dep phase message then
        match reply with
        | .ok _ => some { phase with known := message.payload.onRampSwapId :: phase.known }
        | .error _ => some phase
      else none
  | _, _ => none

/-- The protocol of the requests. Deliveries are free in it. -/
noncomputable def requestProtocol (dep : Deployment) : Protocol onRampInterface RequestPhase where
  next phase op reply := if phase.party.isDelivery then some phase else nextRequest dep phase op
    reply

theorem requestProtocol_next {phase : RequestPhase} {op : OnRampOp}
    {reply : onRampInterface.Reply op} (request : phase.party.isDelivery = false)
    : (requestProtocol dep).next phase op reply = nextRequest dep phase op reply :=
  if_neg (by simp [request])

/-- What a call does to the phase of a request. -/
structure RequestMove (dep : Deployment) (phase phase' : RequestPhase)
    (event : Event onRampInterface)
    : Prop where
  party : phase'.party = phase.party
  /-- A swap becomes known by its row being shown or its message being sent. -/
  known : ∀ id ∈ phase'.known, id ∈ phase.known
    ∨ (∃ key userId row, event = ⟨.findByIdempotencyKey key userId, .ok (some (id, row))⟩)
    ∨ ∃ message, event = ⟨.sendToQueue message, .ok ()⟩ ∧ message.payload.onRampSwapId = id
  created : ∀ id row, phase'.created = some (id, row) →
    phase.created = some (id, row) ∨ event = ⟨.createSwap row, .ok id⟩
  sent : ∀ message, event.op = .sendToQueue message → phase.party.isDelivery = false →
    Announces dep phase message

theorem RequestMove.refl {phase : RequestPhase} {event : Event onRampInterface}
    (sent : ∀ message, event.op = .sendToQueue message → phase.party.isDelivery = false →
      Announces dep phase message)
    : RequestMove dep phase phase event where
  party := rfl
  known := fun _ before => .inl before
  created := fun _ _ before => .inl before
  sent := sent

theorem RequestMove.of_next {phase phase' : RequestPhase} {op : OnRampOp}
    {reply : onRampInterface.Reply op}
    (h : nextRequest dep phase op reply = some phase')
    : RequestMove dep phase phase' ⟨op, reply⟩ := by
  cases op with
  | mint onRampSwapId op =>
      cases onRampSwapId with
      | some _ => cases h
      | none =>
          cases op with
          | invokeContract _ _ _ => cases h
          | _ =>
              obtain rfl := Option.some.inj h
              exact .refl (by simp)
  | findByIdempotencyKey key userId =>
      simp only [nextRequest] at h
      split at h
      · rename_i id row
        obtain rfl := Option.some.inj h
        refine ⟨rfl, ?_, fun _ _ before => .inl before, by simp⟩
        intro other member
        rcases List.mem_cons.mp member with rfl | before
        · exact .inr (.inl ⟨key, userId, row, rfl⟩)
        · exact .inl before
      · obtain rfl := Option.some.inj h
        exact .refl (by simp)
  | createSwap data =>
      simp only [nextRequest] at h
      split at h
      · rename_i id
        obtain rfl := Option.some.inj h
        refine ⟨rfl, fun _ before => .inl before, ?_, by simp⟩
        rintro _ _ ⟨⟩
        exact .inr rfl
      · obtain rfl := Option.some.inj h
        exact .refl (by simp)
  | sendToQueue message =>
      simp only [nextRequest] at h
      split at h
      · rename_i announced
        have sent : ∀ other, OnRampOp.sendToQueue message = .sendToQueue other →
            phase.party.isDelivery = false → Announces dep phase other := by
          rintro _ ⟨⟩ _
          exact announced
        split at h
        · obtain rfl := Option.some.inj h
          refine ⟨rfl, ?_, fun _ _ before => .inl before, sent⟩
          intro other member
          rcases List.mem_cons.mp member with rfl | before
          · exact .inr (.inr ⟨message, rfl, rfl⟩)
          · exact .inl before
        · obtain rfl := Option.some.inj h
          exact .refl sent
      · cases h
  | _ => cases h

theorem RequestMove.of_protocol {phase phase' : RequestPhase} {op : OnRampOp}
    {reply : onRampInterface.Reply op}
    (h : (requestProtocol dep).next phase op reply = some phase')
    : RequestMove dep phase phase' ⟨op, reply⟩ := by
  by_cases delivery : phase.party.isDelivery = true
  · obtain rfl := Option.some.inj ((if_pos delivery).symm.trans h)
    exact .refl (fun _ _ request => by simp [delivery] at request)
  · rw [requestProtocol_next (by simpa using delivery)] at h
    exact .of_next h

def RequestPhase.start (party : Party) : RequestPhase :=
  { party, known := [], created := none }

-- Calls of the mint code

/-- The calls of the mint code that do not go to a contract. -/
def quietProtocol : Protocol mintInterface Unit where
  next _ op _ :=
    match op with
    | .invokeContract .. => none
    | _ => some ()

theorem wp_service {S α : Type} {R : Protocol onRampInterface S} {prog : Prog mintInterface α}
    {phase : S}
    (quiet : quietProtocol.wp prog () (fun _ _ => True) (fun _ _ => True))
    (ignored : ∀ op reply, (∀ sourceAccount call row, op ≠ .invokeContract sourceAccount call row) →
      R.next phase (.mint none op) reply = some phase)
    {Q : α → S → Prop} {E : JsError → S → Prop}
    (hQ : ∀ value, Q value phase) (hE : ∀ error, E error phase)
    : R.wp (service none prog) phase Q E := by
  have inside := Protocol.wp_within (R := R) (ι := mintCalls none)
    (fun _ other => other = phase)
    (fun _ _ other op reply same moved => by
      subst same
      refine ⟨other, ignored op reply ?_, rfl⟩
      rintro sourceAccount call row rfl
      cases moved)
    quiet rfl
  apply Protocol.wp_mono inside
  · rintro value _ ⟨_, rfl, -⟩
    exact hQ value
  · rintro error _ ⟨_, _, rfl, -⟩
    exact hE error

theorem quiet_assertUserWalletAddress {dep : Mint.Deployment} {userId address : String}
    : quietProtocol.wp (assertUserWalletAddress dep userId address) ()
        (fun _ _ => True) (fun _ _ => True) := by
  simp [assertUserWalletAddress, quietProtocol]

theorem nextRequest_mint {phase : RequestPhase} (op : MintOp)
    (reply : onRampInterface.Reply (.mint none op)) (request : phase.party.isDelivery = false)
    (quiet : ∀ sourceAccount call row, op ≠ .invokeContract sourceAccount call row)
    : (requestProtocol dep).next phase (.mint none op) reply = some phase := by
  rw [requestProtocol_next request]
  cases op with
  | invokeContract sourceAccount call row => exact absurd rfl (quiet sourceAccount call row)
  | _ => rfl

-- Requests

/-- A 202 names a swap the request may answer with. -/
def AnswersKnown (result : OnRampResult) (phase : RequestPhase) : Prop :=
  ∀ body, result = .accepted body → body.on_ramp_swap_id ∈ phase.known

section

variable {party : Party} {known : List SwapId}

theorem wp_findExisting {key : Option String} {userId : String}
    (request : party.isDelivery = false)
    : (requestProtocol dep).wp (findExisting key userId) ⟨party, known, none⟩
        (fun found phase =>
          match found with
          | some (id, _) => id ∈ phase.known
          | none => phase = ⟨party, known, none⟩)
        (fun _ _ => True) := by
  cases key with
  | none => rfl
  | some key =>
      refine Protocol.wp_await.mpr ⟨?_, fun _ => ⟨_, requestProtocol_next request, trivial⟩⟩
      rintro (_ | ⟨id, row⟩)
      · exact ⟨_, requestProtocol_next request, rfl⟩
      · exact ⟨_, requestProtocol_next request, List.mem_cons_self⟩

theorem wp_createSwap {data : OnRampSwap} (request : party.isDelivery = false)
    : (requestProtocol dep).wp (createSwap data) ⟨party, known, none⟩
        (fun created phase =>
          match created with
          | .inl id => phase = ⟨party, known, some (id, data)⟩
          | .inr (id, _) => id ∈ phase.known)
        (fun _ _ => True) := by
  unfold createSwap
  simp only [Protocol.wp_catchWith, Protocol.wp_bind, Protocol.wp_await, Protocol.wp_pure]
  constructor
  · intro id
    exact ⟨_, requestProtocol_next request, rfl⟩
  · intro createError
    refine ⟨_, requestProtocol_next request, ?_⟩
    cases data.idempotencyKey with
    | none => trivial
    | some key =>
        cases createError with
        | app _ | error _ => trivial
        | uniqueConstraint =>
            simp only [Protocol.wp_bind, Protocol.wp_orThrow, Protocol.wp_pure]
            refine Protocol.wp_await.mpr
              ⟨?_, fun _ => ⟨_, requestProtocol_next request, trivial⟩⟩
            rintro (_ | ⟨id, row⟩)
            · exact ⟨_, requestProtocol_next request, by simp⟩
            · refine ⟨_, requestProtocol_next request, ?_, by simp⟩
              rintro _ ⟨⟩
              exact List.mem_cons_self

theorem wp_registerSwap {data : OnRampSwap} {payload : SwapId → Payload} {message : String}
    (request : party.isDelivery = false)
    (announced : ∀ id, Announces dep ⟨party, known, some (id, data)⟩ { payload := payload id })
    : (requestProtocol dep).wp (registerSwap data payload message) ⟨party, known, none⟩
        AnswersKnown (fun _ _ => True) := by
  unfold registerSwap
  rw [Protocol.wp_bind]
  apply Protocol.wp_mono (wp_createSwap request)
  · rintro (id | ⟨id, row⟩) phase created
    · obtain rfl := created
      have sameId : (payload id).onRampSwapId = id := by
        obtain ⟨_, _, created, named, -⟩ := announced id
        cases created
        exact named
      simp only [Protocol.wp_bind, Protocol.wp_await, Protocol.wp_pure]
      constructor
      · intro _
        refine ⟨_, (requestProtocol_next request).trans (if_pos (announced id)), ?_⟩
        rintro _ ⟨⟩
        exact List.mem_cons.mpr (.inl sameId.symm)
      · intro _
        exact ⟨_, (requestProtocol_next request).trans (if_pos (announced id)), trivial⟩
    · rintro _ ⟨⟩
      exact created
  · exact fun _ _ _ => trivial

end

theorem wp_mintFromUsdc (req : UsdcRequest)
    : (requestProtocol dep).wp (mintFromUsdc dep req) (.start (.mintFromUsdc req))
        AnswersKnown (fun _ _ => True) := by
  have request : (Party.mintFromUsdc req).isDelivery = false := rfl
  unfold mintFromUsdc
  simp only [Protocol.wp_bind, Protocol.wp_orThrow, Protocol.wp_fromExcept, implies_true, and_true]
  intro userId _ key _
  apply Protocol.wp_mono (wp_findExisting request)
  · rintro (_ | ⟨id, row⟩) phase found
    · obtain rfl := found
      unfold submitUsdc
      simp only [Protocol.wp_bind, Protocol.wp_fromExcept, Protocol.wp_ensure, implies_true,
        and_true]
      intro body _
      apply wp_service quiet_assertUserWalletAddress
        (fun op reply => nextRequest_mint op reply request) _ (fun _ => trivial)
      intro wallet amount _
      apply wp_service (by simp [quietProtocol])
        (fun op reply => nextRequest_mint op reply request) _ (fun _ => trivial)
      intro paused _
      apply wp_service (by simp [quietProtocol])
        (fun op reply => nextRequest_mint op reply request) _ (fun _ => trivial)
      intro _
      exact wp_registerSwap request (fun id => ⟨id, _, rfl, rfl, rfl⟩)
    · rintro _ ⟨⟩
      exact found
  · exact fun _ _ _ => trivial

theorem decimalColumn_ok {number : JsNumber} {value : ℚ} (h : decimalColumn number = .ok value)
    : number = .finite value := by
  cases number with
  | finite _ =>
      cases h
      rfl
  | nan | infinity _ => cases h

theorem wp_registerOnRampSwap (req : RegisterRequest)
    : (requestProtocol dep).wp (registerOnRampSwap dep req) (.start (.registerOnRampSwap req))
        AnswersKnown (fun _ _ => True) := by
  have request : (Party.registerOnRampSwap req).isDelivery = false := rfl
  unfold registerOnRampSwap
  simp only [Protocol.wp_bind, Protocol.wp_orThrow, Protocol.wp_fromExcept, implies_true, and_true]
  intro userId _ body parsed
  apply wp_service quiet_assertUserWalletAddress
    (fun op reply => nextRequest_mint op reply request) _ (fun _ => trivial)
  intro wallet key _
  apply Protocol.wp_mono (wp_findExisting request)
  · rintro (_ | ⟨id, row⟩) phase found
    · obtain rfl := found
      simp only [Protocol.wp_bind, Protocol.wp_fromExcept, implies_true, and_true]
      intro xlmAmount xlm usdcAmount usdc
      apply wp_registerSwap request
      intro id
      refine ⟨id, _, rfl, rfl, body, parsed, rfl, ⟨xlmAmount, decimalColumn_ok xlm, rfl⟩, ?_⟩
      intro declared same
      rw [same] at usdc
      cases parsedUsdc : decimalColumn (jsNumber declared) with
      | error _ => simp [parsedUsdc] at usdc
      | ok value =>
          refine ⟨value, decimalColumn_ok parsedUsdc, ?_⟩
          simpa [parsedUsdc, eq_comm] using usdc
    · rintro _ ⟨⟩
      exact found
  · exact fun _ _ _ => trivial

theorem wp_of_request {S : Type} {R : Protocol onRampInterface S} {phase : S} {party : Party}
    (request : party.isDelivery = false)
    (ignored : ∀ other op reply other',
      other.party = party → nextRequest dep other op reply = some other' →
      R.next phase op reply = some phase)
    : R.wp (party.program dep) phase (fun _ phase' => phase' = phase)
        (fun _ phase' => phase' = phase) := by
  have own : (requestProtocol dep).wp (party.program dep) (.start party) AnswersKnown
      (fun _ _ => True) := by
    cases party with
    | mintFromUsdc req => exact wp_mintFromUsdc req
    | registerOnRampSwap req => exact wp_registerOnRampSwap req
    | usdcDelivery | xlmDelivery => cases request
  have inside := Protocol.wp_of_simulation (R := R)
    (fun other outer => other.party = party ∧ outer = phase)
    (by
      intro other other' outer op reply similar moved
      obtain ⟨same, rfl⟩ := similar
      rw [requestProtocol_next (same ▸ request)] at moved
      refine ⟨outer, ignored other op reply other' same moved, ?_, rfl⟩
      exact (RequestMove.of_next moved).party.trans same)
    own ⟨rfl, rfl⟩
  apply Protocol.wp_mono inside
  · rintro _ _ ⟨_, ⟨-, same⟩, -⟩
    exact same
  · rintro _ _ ⟨_, ⟨-, same⟩, -⟩
    exact same

end AcbuBackend.OnRamp
