import AcbuBackend.Mint.MintSteps

/-! The signature check in front of a mint.
`confirmMint` mints behind its signature check only. The deposit handler makes the same
contract call for the row it has just created, with no check in front of it.
-/

namespace AcbuBackend.Mint

open Effects AcbuBackend.Runtime

variable {dep : Deployment} {requests : List MintRequest}

/-- A confirmation of the row has passed the signature check. -/
def Verified (dep : Deployment) (requests : List MintRequest) (c : MintConfig) (id : TxId)
    : Prop :=
  ∃ j req nowS,
    requests[j]? = some (.confirm req)
    ∧ req.transactionId? = some id
    ∧ (⟨.now, .ok nowS⟩ : Event mintInterface) ∈ c.past j
    ∧ req.signatureAccepted dep nowS = true

/-- Every `mint_from_basket` call issued so far, whatever became of it, was made for a row
with a verified confirmation.
-/
def BasketMintsVerified (dep : Deployment) (requests : List MintRequest) (c : MintConfig)
    : Prop :=
  ∀ i (event : Event mintInterface), event ∈ c.past i →
    ∀ sourceAccount call id,
      event.op = .invokeContract sourceAccount call id → call.isMintFromBasket = true →
      Verified dep requests c id

def basketCall? : Option MintOp → Bool
  | some (.invokeContract _ call _) => call.isMintFromBasket
  | _ => false

/-- No deposit issues the contract call of its own mint. -/
def DepositsDoNotMint (requests : List MintRequest) (c : MintConfig) (i : Nat) (_ : Choice)
    : Prop :=
  (requestAt requests i).isDeposit = true → basketCall? (c.pending? i) = false

instance (c : MintConfig) (i : Nat) (x : Choice) : Decidable (DepositsDoNotMint requests c i x) :=
  inferInstanceAs (Decidable (_ → _))

/-- The gate: a confirmation past its first stage was verified, and holds the row it names. -/
structure Gated (dep : Deployment) (requests : List MintRequest) (c : MintConfig) : Prop where
  admitted : ∀ i req, requestAt requests i = .confirm req →
    stageOf dep requests c i ≠ .arriving →
    ∃ nowS, (⟨.now, .ok nowS⟩ : Event mintInterface) ∈ c.past i
      ∧ req.signatureAccepted dep nowS = true
  named : ∀ i id, (requestAt requests i).isConfirm = true →
    stageOf dep requests c i = .holding id → (requestAt requests i).confirms? = some id
  verified : BasketMintsVerified dep requests c

theorem getElem?_of_requestAt {i : Nat} {req : ConfirmRequest}
    (h : requestAt requests i = .confirm req)
    : requests[i]? = some (.confirm req) := by
  unfold requestAt at h
  cases found : requests[i]? with
  | none =>
      rw [found] at h
      cases h
  | some request =>
      rw [found] at h
      exact congrArg some h

theorem Gated.verified_of_holding {c : MintConfig} {i : Nat} {id : TxId}
    (h : Gated dep requests c) (confirm : (requestAt requests i).isConfirm = true)
    (holds : stageOf dep requests c i = .holding id)
    : Verified dep requests c id := by
  have named := h.named i id confirm holds
  cases request : requestAt requests i with
  | confirm req =>
      rw [request] at named
      obtain ⟨nowS, read, accepted⟩ := h.admitted i req request (by simp [holds])
      exact ⟨i, req, nowS, getElem?_of_requestAt request, named, read, accepted⟩
  | deposit _ | usdc _ =>
      rw [request] at confirm
      cases confirm

theorem Verified.mono {c c' : MintConfig} {id : TxId} (h : Verified dep requests c id)
    (grows : ∀ j event, event ∈ c.past j → event ∈ c'.past j)
    : Verified dep requests c' id := by
  obtain ⟨j, req, nowS, request, named, read, accepted⟩ := h
  exact ⟨j, req, nowS, request, named, grows j _ read, accepted⟩

theorem MintMove.gate {request : MintRequest} {x : Choice} {w w' : World}
    {event : Event mintInterface} {stage stage' : Stage}
    (h : MintMove dep request x w w' event stage stage')
    : (stage = .arriving → stage' ≠ .arriving →
        ∃ nowS, event = ⟨.now, .ok nowS⟩ ∧ request.accepts dep nowS = true)
      ∧ (∀ id, request.isConfirm = true → stage' = .holding id →
          stage = .holding id ∨ request.confirms? = some id)
      ∧ (∀ sourceAccount call id, event.op = .invokeContract sourceAccount call id →
          call.isMintFromBasket = true → stage = .holding id ∧ request.isUsdc = false) := by
  cases h with
  | read _ _ notInvoke =>
      refine ⟨fun arriving left => absurd arriving left, fun id _ holds => .inl holds, ?_⟩
      exact fun sourceAccount call id issued => absurd issued (notInvoke sourceAccount call id)
  | verify nowS accepted =>
      exact ⟨fun _ _ => ⟨nowS, rfl, accepted⟩, by simp, by simp⟩
  | create _ _ _ creates => exact ⟨by simp, by simp [creates], by simp⟩
  | claim id _ _ _ _ named =>
      refine ⟨by simp, ?_, by simp⟩
      intro other _ holds
      obtain rfl : id = other := by simpa using holds
      exact .inr named
  | mint sourceAccount call id _ _ route =>
      refine ⟨by simp, by simp, ?_⟩
      intro _ _ other issued basket
      cases issued
      exact ⟨rfl, by simpa [basket] using route⟩
  | mintLost sourceAccount call id _ _ _ route =>
      refine ⟨by simp, by simp, ?_⟩
      intro _ _ other issued basket
      cases issued
      exact ⟨rfl, by simpa [basket] using route⟩
  | redeem sourceAccount call id _ _ redeems =>
      refine ⟨by simp, by simp, ?_⟩
      intro _ _ other issued basket
      cases issued
      cases call <;> simp_all [ContractCall.isMint, ContractCall.isMintFromBasket]
  | fail _ _ _ _ _ unrecorded =>
      refine ⟨?_, by simp, by simp⟩
      rcases unrecorded with rfl | rfl <;> simp
  | complete _ _ _ _ _ minted =>
      refine ⟨?_, by simp, by simp⟩
      rcases minted with rfl | rfl <;> simp
  | completeLost _ _ _ _ _ _ minted =>
      rcases minted with ⟨rfl, rfl⟩ | ⟨rfl, rfl⟩
      · refine ⟨by simp, ?_, by simp⟩
        intro other _ holds
        split at holds <;> cases holds
      · exact ⟨by simp, by simp, by simp⟩
  | createLost | claimLost | auditLost => exact ⟨by simp, by simp, by simp⟩

theorem Gated.step {c c' : MintConfig} {i : Nat} {x : Choice}
    (governed : Governed dep requests c) (h : Gated dep requests c)
    (noMint : DepositsDoNotMint requests c i x) (stepped : c.step mintSemantics i x = some c')
    : Gated dep requests c' := by
  obtain ⟨event, _, pending, move, past, rest⟩ := mint_step governed stepped
  obtain ⟨entered, claimed, issued⟩ := move.gate
  have grows : ∀ j event, event ∈ c.past j → event ∈ c'.past j := by
    intro j earlier member
    by_cases same : j = i
    · subst same
      rw [past]
      exact List.mem_cons_of_mem _ member
    · rw [(rest j same).2.2]
      exact member
  constructor
  · intro j req request left
    by_cases same : j = i
    · subst same
      by_cases arriving : stageOf dep requests c j = .arriving
      · obtain ⟨nowS, rfl, accepted⟩ := entered arriving left
        rw [request] at accepted
        exact ⟨nowS, by rw [past]; exact List.mem_cons_self, accepted⟩
      · obtain ⟨nowS, read, accepted⟩ := h.admitted j req request arriving
        exact ⟨nowS, grows j _ read, accepted⟩
    · rw [(rest j same).1] at left
      obtain ⟨nowS, read, accepted⟩ := h.admitted j req request left
      exact ⟨nowS, grows j _ read, accepted⟩
  · intro j id confirm holds
    by_cases same : j = i
    · subst same
      rcases claimed id confirm holds with before | named
      · exact h.named j id confirm before
      · exact named
    · rw [(rest j same).1] at holds
      exact h.named j id confirm holds
  · intro j performed member sourceAccount call id invoked basket
    by_cases earlier : performed ∈ c.past j
    · exact (h.verified j performed earlier sourceAccount call id invoked basket).mono grows
    · have mine : j = i := by
        by_contra different
        rw [(rest j different).2.2] at member
        exact earlier member
      subst mine
      rw [past] at member
      rcases List.mem_cons.mp member with rfl | before
      · obtain ⟨holds, notUsdc⟩ := issued sourceAccount call id invoked basket
        have notDeposit : (requestAt requests j).isDeposit ≠ true := by
          intro deposit
          have excluded := noMint deposit
          rw [pending, invoked] at excluded
          simp [basketCall?, basket] at excluded
        have confirm : (requestAt requests j).isConfirm = true := by
          cases request : requestAt requests j <;>
            simp_all [MintRequest.isDeposit, MintRequest.isUsdc, MintRequest.isConfirm]
        exact (h.verified_of_holding confirm holds).mono grows
      · exact absurd before earlier

theorem gated_initial {transactions : AList (fun _ : TxId => Transaction)}
    : Gated dep requests (initialConfig dep requests transactions) := by
  constructor
  · intro i req request left
    rw [stageOf_initial, request] at left
    exact absurd rfl left
  · intro i id _ holds
    have row := start_row? (requestAt requests i)
    rw [← @stageOf_initial dep requests transactions, holds] at row
    cases row
  · intro i event member
    rw [past_initial] at member
    cases member

/-- Where no deposit makes the contract call itself, every basket mint is issued behind the
signature check.
-/
theorem basketMintsVerified_of_depositsDoNotMint (dep : Deployment) (requests : List MintRequest)
    (transactions : AList (fun _ : TxId => Transaction)) (c : MintConfig)
    (reached : Config.Reaches mintSemantics (DepositsDoNotMint requests)
      (initialConfig dep requests transactions) c)
    : BasketMintsVerified dep requests c := by
  have invariant := Protocol.Governs.invariant (J := Gated dep requests)
    (@governed_initial dep requests transactions)
    gated_initial
    (fun _ _ _ _ governed h noMint stepped => h.step governed noMint stepped) reached
  exact invariant.2.verified

/-- Whether request `i` has issued a basket mint. -/
def issuedBasketMint (c : MintConfig) (i : Nat) : Bool :=
  (c.past i).any (fun event => basketCall? (some event.op))

/-- A signed confirmation of a pending row, up to its mint. -/
theorem basketMintsVerified_confirm
    : ∃ c, Config.Reaches mintSemantics (DepositsDoNotMint [.confirm (sampleConfirm "100")])
          (initialConfig sampleDeployment [.confirm (sampleConfirm "100")]
            (AList.singleton "t1" sampleRow)) c
        ∧ issuedBasketMint c 0 = true
        ∧ BasketMintsVerified sampleDeployment [.confirm (sampleConfirm "100")] c := by
  have executed :
      ((initialConfig sampleDeployment [.confirm (sampleConfirm "100")]
          (AList.singleton "t1" sampleRow)).run mintSemantics
        (DepositsDoNotMint [.confirm (sampleConfirm "100")])
        (List.replicate 9 (0, sampleChoice))).map
        (fun c => issuedBasketMint c 0) = some true := by
    decide +kernel
  obtain ⟨c, reached, issued⟩ := Config.reaches_of_run executed
  exact ⟨c, reached, issued, basketMintsVerified_of_depositsDoNotMint _ _ _ c reached⟩

/-- A deposit mints by itself, without any confirmation. -/
theorem not_basketMintsVerified_deposit
    : ∃ c, Config.Reaches mintSemantics Config.anyStep
          (initialConfig sampleDeployment [.deposit sampleDeposit] ∅) c
        ∧ c.world.mintsFor "t1" = 1
        ∧ ¬ BasketMintsVerified sampleDeployment [.deposit sampleDeposit] c := by
  have executed :
      ((initialConfig sampleDeployment [.deposit sampleDeposit] ∅).run mintSemantics
        Config.anyStep (List.replicate 9 (0, sampleChoice))).map
        (fun c => (c.world.mintsFor "t1", issuedBasketMint c 0)) = some (1, true) := by
    decide +kernel
  obtain ⟨c, reached, read⟩ := Config.reaches_of_run executed
  obtain ⟨minted, issued⟩ := Prod.mk.inj read
  refine ⟨c, reached, minted, fun verified => ?_⟩
  obtain ⟨⟨op, reply⟩, member, basket⟩ := List.any_eq_true.mp issued
  cases op with
  | invokeContract sourceAccount call id =>
      obtain ⟨j, req, -, request, -⟩ := verified 0 _ member sourceAccount call id rfl basket
      cases j <;> simp at request
  | _ => cases basket

end AcbuBackend.Mint
