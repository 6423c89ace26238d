import AcbuBackend.OnRamp.SwapSteps

/-! No accepted swap without a message for its job.
The row is created before its message is sent, and a replay answers from the row. Where a
replay is only shown rows whose message was sent, every 202 stands for a swap the job knows.
-/

namespace AcbuBackend.OnRamp

open Effects AcbuBackend.Runtime Mint

variable {dep : Deployment} {parties : List Party}

/-- A message for the swap was sent to a job. -/
def World.Announced (w : World) (id : SwapId) : Prop :=
  ∃ payload ∈ w.published, payload.onRampSwapId = id

instance (w : World) (id : SwapId) : Decidable (w.Announced id) :=
  inferInstanceAs (Decidable (∃ payload ∈ w.published, payload.onRampSwapId = id))

def lookedUp? (w : World) : Option OnRampOp → Option SwapId
  | some (.findByIdempotencyKey key userId) => (w.findFirst key userId).map (·.1)
  | _ => none

/-- A lookup by key only shows a row whose message was sent. -/
def LookupsAnnounced (c : OnRampConfig) (i : Nat) (x : Choice) : Prop :=
  x.outcome = .done → ∀ id ∈ lookedUp? c.world (c.pending? i), c.world.Announced id

instance (c : OnRampConfig) (i : Nat) (x : Choice) : Decidable (LookupsAnnounced c i x) :=
  inferInstanceAs (Decidable (_ → ∀ id ∈ lookedUp? c.world (c.pending? i), c.world.Announced id))

-- Parties

theorem wp_consume_request {party : Party} {queue : Queue}
    {process : Message → Prog onRampInterface Unit} (delivery : party.isDelivery = true)
    : (requestProtocol dep).wp (consume queue process) (.start party)
        AnswersKnown (fun _ _ => True) := by
  have free : ∀ {β : Type} {prog : Prog onRampInterface β} {phase : RequestPhase},
      phase.party.isDelivery = true →
      (requestProtocol dep).wp prog phase (fun _ _ => True) (fun _ _ => True) := by
    intro β prog phase delivers
    refine Protocol.wp_of_total (fun phase => phase.party.isDelivery = true) ?_ delivers
    exact fun phase _ _ delivers => ⟨phase, if_pos delivers, delivers⟩
  unfold consume
  rw [Protocol.wp_bind]
  refine Protocol.wp_await.mpr
    ⟨fun msg => ⟨_, if_pos delivery, ?_⟩, fun _ => ⟨_, if_pos delivery, trivial⟩⟩
  rw [Protocol.wp_bind]
  apply Protocol.wp_mono (free delivery)
  · rintro _ _ _ _ ⟨⟩
  · exact fun _ _ _ => trivial

theorem wp_requestProtocol (dep : Deployment) (party : Party)
    : (requestProtocol dep).wp (party.program dep) (.start party)
        AnswersKnown (fun _ _ => True) := by
  cases party with
  | mintFromUsdc req => exact wp_mintFromUsdc req
  | registerOnRampSwap req => exact wp_registerOnRampSwap req
  | usdcDelivery | xlmDelivery => exact wp_consume_request rfl

/-- Every party keeps to the protocol of the requests. -/
abbrev RequestsGoverned (dep : Deployment) (parties : List Party) (c : OnRampConfig) : Prop :=
  (requestProtocol dep).Governs (fun i => .start (partyAt parties i)) (fun _ => AnswersKnown)
    (fun _ _ _ => True) c

theorem requestsGoverned_initial {swaps : AList (fun _ : SwapId => OnRampSwap)}
    {queue : List Message}
    : RequestsGoverned dep parties (initialConfig dep parties swaps queue) := by
  apply Protocol.governs_initial
  intro i prog found
  rw [List.getElem?_map, Option.map_eq_some_iff] at found
  obtain ⟨party, found, rfl⟩ := found
  simp only [partyAt, found, Option.getD_some]
  exact wp_requestProtocol dep party

/-- What party `i` knows and has created. -/
noncomputable def requestPhaseOf (dep : Deployment) (parties : List Party) (c : OnRampConfig)
    (i : Nat)
    : RequestPhase :=
  (requestProtocol dep).phase (fun i => .start (partyAt parties i)) c i

-- Steps of a run

theorem act_published {i : Nat} {x : Choice} {w w' : World} {op : OnRampOp}
    {reply : onRampInterface.Reply op}
    (h : onRampSemantics.act i op x w = some (reply, w'))
    : ∀ payload ∈ w.published, payload ∈ w'.published := by
  intro payload member
  rcases act_broker h with ⟨-, same⟩ | ⟨message, -, -, sent⟩ | ⟨message, -, -, same⟩
  · exact same ▸ member
  · exact sent ▸ List.mem_cons_of_mem _ member
  · exact same ▸ member

/-- Whatever a party may answer with was announced. -/
def KnownAnnounced (dep : Deployment) (parties : List Party) (c : OnRampConfig) : Prop :=
  ∀ i, ∀ id ∈ (requestPhaseOf dep parties c i).known, c.world.Announced id

theorem KnownAnnounced.step {c c' : OnRampConfig} {i : Nat} {x : Choice}
    (governed : RequestsGoverned dep parties c) (h : KnownAnnounced dep parties c)
    (lookups : LookupsAnnounced c i x) (stepped : c.step onRampSemantics i x = some c')
    : KnownAnnounced dep parties c' := by
  obtain ⟨op, reply, -, pending, answered, moved, -, others, -⟩ := governed.step_cases stepped
  have stays : ∀ id, c.world.Announced id → c'.world.Announced id := by
    rintro id ⟨payload, member, named⟩
    exact ⟨payload, act_published answered payload member, named⟩
  intro j id known
  by_cases same : j = i
  · subst same
    rcases (RequestMove.of_protocol moved).known id known with
      before | ⟨key, userId, row, shown⟩ | ⟨message, sent, rfl⟩
    · exact stays id (h j id before)
    · cases shown
      obtain ⟨-, taken⟩ := act_eq_some answered
      obtain ⟨done, shown⟩ := Outcome.answer_ok taken
      have found : c.world.findFirst key userId = some (id, row) :=
        Except.ok.inj (congrArg Prod.fst shown)
      apply stays id
      apply lookups done
      simp [pending, lookedUp?, found]
    · cases sent
      obtain ⟨-, taken⟩ := act_eq_some answered
      obtain ⟨-, sent⟩ := Outcome.answer_ok taken
      have world : c'.world = (effect x c.world (.sendToQueue message)).2 :=
        (congrArg Prod.snd sent).symm
      exact ⟨message.payload, world ▸ List.mem_cons_self, rfl⟩
  · have unchanged : requestPhaseOf dep parties c' j = requestPhaseOf dep parties c j :=
      (others j same).1
    rw [unchanged] at known
    exact stays id (h j id known)

/-- In a run whose lookups only show announced rows, a 202 names a swap whose message was sent.
-/
theorem announced_of_accepted (dep : Deployment) (parties : List Party)
    (swaps : AList (fun _ : SwapId => OnRampSwap)) (queue : List Message) (c : OnRampConfig)
    (reached : Config.Reaches onRampSemantics LookupsAnnounced
      (initialConfig dep parties swaps queue) c)
    (i : Nat) (body : AcceptedResponse) (answered : c.value? i = some (.accepted body))
    : c.world.Announced body.on_ramp_swap_id := by
  obtain ⟨governed, known⟩ := Protocol.Governs.invariant (J := KnownAnnounced dep parties)
    (@requestsGoverned_initial dep parties swaps queue)
    (by
      intro j id member
      simp [requestPhaseOf, initialConfig, RequestPhase.start] at member)
    (fun _ _ _ _ governed h lookups stepped => h.step governed lookups stepped) reached
  exact known i _ (governed.value answered body rfl)

def sampleUsdcRequest : UsdcRequest where
  apiKey := some { userId := some "user", organizationId := none }
  audience := none
  idempotencyHeader := some "key"
  body :=
    { usdc_amount := .text "100"
      wallet_address := .text Mint.sampleWallet
      currency_preference := .absent }

def sampleReplays : List Party :=
  [.mintFromUsdc sampleUsdcRequest, .mintFromUsdc sampleUsdcRequest]

def sampleAccepted : AcceptedResponse where
  on_ramp_swap_id := "s1"
  status := .pending_convert
  message := usdcReceived

/-- A replay after a deposit whose message was sent. -/
theorem announced_of_accepted_replay
    : ∃ c, Config.Reaches onRampSemantics LookupsAnnounced
          (initialConfig sampleDeployment sampleReplays ∅ []) c
        ∧ c.value? 1 = some (.accepted sampleAccepted)
        ∧ c.world.Announced "s1" := by
  have executed :
      ((initialConfig sampleDeployment sampleReplays ∅ []).run onRampSemantics LookupsAnnounced
        (List.replicate 6 (0, sampleChoice 0) ++ [(1, sampleChoice 0)])).map
        (fun c => c.value? 1) = some (some (.accepted sampleAccepted)) := by
    decide +kernel
  obtain ⟨c, reached, answered⟩ := Config.reaches_of_run executed
  exact ⟨c, reached, answered, announced_of_accepted _ _ _ _ c reached 1 sampleAccepted answered⟩

/-- The first deposit ends in an error because its message could not be sent; its replay is
accepted from the row that was left.
-/
theorem accepted_not_announced
    : ∃ c, Config.Reaches onRampSemantics Config.anyStep
          (initialConfig sampleDeployment sampleReplays ∅ []) c
        ∧ c.value? 1 = some (.accepted sampleAccepted)
        ∧ ¬ c.world.Announced "s1" := by
  have executed :
      ((initialConfig sampleDeployment sampleReplays ∅ []).run onRampSemantics Config.anyStep
        (List.replicate 5 (0, sampleChoice 0) ++ [(0, sampleFailure), (1, sampleChoice 0)])).map
        (fun c => (c.value? 1, c.world.published))
        = some (some (.accepted sampleAccepted), []) := by
    decide +kernel
  obtain ⟨c, reached, read⟩ := Config.reaches_of_run executed
  obtain ⟨answered, published⟩ := Prod.mk.inj read
  refine ⟨c, reached, answered, ?_⟩
  rintro ⟨payload, member, -⟩
  rw [published] at member
  cases member

end AcbuBackend.OnRamp
