import AcbuBackend.OnRamp.AnnouncedSwaps
import AcbuBackend.OnRamp.MessageProtocol

/-! No message is dropped before its swap is completed.
A delivery that finds its swap claimed or failed acknowledges as if all were done. Where
every claim finds its swap waiting or completed, a message leaves the queue only for the
dead letters or with a completed swap.
-/

namespace AcbuBackend.OnRamp

open Effects AcbuBackend.Runtime Mint

variable {dep : Deployment} {parties : List Party}

/-- A message has nothing left to do: its swap is missing, of another kind, or completed. -/
def Settled (w : World) (payload : Payload) : Prop :=
  ∀ row, w.swaps.lookup payload.onRampSwapId = some row → row.source = payload.queue.source →
    row.status = .completed

-- Moves of a delivery

/-- What a call does to the stage of a delivery. -/
inductive HandlingMove : Handling → Event onRampInterface → Handling → Prop
  | stay (stage : Handling) (event : Event onRampInterface)
      (unacked : stage = .misrouted ∨ ∀ message, event.op ≠ .ack message)
      : HandlingMove stage event stage
  | receive (queue : Queue) (message : Message)
      : HandlingMove .idle ⟨.receive queue, .ok message⟩ (.afterReceive queue message)
  | nothingClaimed (message : Message) (source : Option SwapSource)
      (kind : source.getD .xlm_deposit = message.payload.queue.source)
      : HandlingMove (.working message) ⟨.claimSwap message.payload.onRampSwapId source, .ok 0⟩
          (.cleared message)
  | found (message : Message) (found : Option OnRampSwap)
      : HandlingMove (.working message) ⟨.findSwap message.payload.onRampSwapId, .ok found⟩
          (.afterFind message found)
  | completed (message : Message) (data : SwapUpdate) (status : data.status = some .completed)
      : HandlingMove (.working message) ⟨.updateSwap message.payload.onRampSwapId data, .ok ()⟩
          (.cleared message)
  | resend (message : Message) (stage : Handling) (held : stage.open? = some message)
      : HandlingMove stage
          ⟨.sendToQueue { message with retries := message.retries + 1 }, .ok ()⟩
          (.resent message)
  | ackLost (message : Message) (error : JsError)
      : HandlingMove (.cleared message) ⟨.ack message, .error error⟩ (.working message)
  | leave (stage : Handling) (event : Event onRampInterface)
      (acked : ∀ message, event.op = .ack message →
        stage = .cleared message ∨ stage = .resent message)
      : HandlingMove stage event .idle

theorem HandlingMove.of_leave {message : Message} {op : OnRampOp} {reply : onRampInterface.Reply op}
    {stage stage' : Handling} (h : Handling.leave message op reply = some stage')
    (held : stage.open? = some message)
    : HandlingMove stage ⟨op, reply⟩ stage' := by
  cases op with
  | sendToQueue again =>
      simp only [Handling.leave] at h
      split at h
      · rename_i same
        subst same
        obtain rfl := Option.some.inj h
        cases reply with
        | error _ => exact .leave _ _ (by simp)
        | ok _ => exact .resend message stage held
      · cases h
  | nack given =>
      simp only [Handling.leave] at h
      split at h
      · obtain rfl := Option.some.inj h
        exact .leave _ _ (by simp)
      · cases h
  | _ => cases h

theorem HandlingMove.of_work {message : Message} {op : OnRampOp} {reply : onRampInterface.Reply op}
    {stage' : Handling} (h : Handling.work message op reply = some stage')
    : HandlingMove (.working message) ⟨op, reply⟩ stage' := by
  cases op with
  | claimSwap id source =>
      simp only [Handling.work] at h
      split at h
      · rename_i own
        obtain ⟨rfl, kind⟩ := own
        split at h
        · obtain rfl := Option.some.inj h
          exact .nothingClaimed message source kind
        · obtain rfl := Option.some.inj h
          exact .stay _ _ (by simp)
      · cases h
  | findSwap id =>
      simp only [Handling.work] at h
      split at h
      · rename_i own
        subst own
        cases reply with
        | ok found =>
            obtain rfl := Option.some.inj h
            exact .found message found
        | error _ =>
            obtain rfl := Option.some.inj h
            exact .stay _ _ (by simp)
      · cases h
  | updateSwap id data =>
      simp only [Handling.work] at h
      split at h
      · rename_i own
        subst own
        obtain rfl := Option.some.inj h
        split
        · rename_i done
          obtain ⟨answered, status⟩ := done
          cases reply with
          | ok _ => exact .completed message data status
          | error _ => cases answered
        · exact .stay _ _ (by simp)
      · cases h
  | mint _ _ | swapUsdcToXlm _ _ | fetchXlmRateUsd =>
      obtain rfl := Option.some.inj h
      exact .stay _ _ (by simp)
  | _ => exact .of_leave h rfl

theorem HandlingMove.of_clear {message : Message} {op : OnRampOp} {reply : onRampInterface.Reply op}
    {stage' : Handling} (h : Handling.clear message op reply = some stage')
    : HandlingMove (.cleared message) ⟨op, reply⟩ stage' := by
  cases op with
  | updateSwap id data =>
      obtain rfl := Option.some.inj h
      exact .stay _ _ (by simp)
  | ack given =>
      simp only [Handling.clear] at h
      split at h
      · rename_i same
        subst same
        obtain rfl := Option.some.inj h
        cases reply with
        | ok _ => exact .leave _ _ (by rintro _ ⟨⟩; exact .inl rfl)
        | error error => exact .ackLost given error
      · cases h
  | _ => exact .of_leave h rfl

theorem HandlingMove.of_next {stage stage' : Handling} {op : OnRampOp}
    {reply : onRampInterface.Reply op} (h : Handling.next stage op reply = some stage')
    : HandlingMove stage ⟨op, reply⟩ stage' := by
  cases stage with
  | working message => exact .of_work h
  | cleared message => exact .of_clear h
  | misrouted =>
      obtain rfl := Option.some.inj h
      exact .stay _ _ (.inl rfl)
  | resent message =>
      cases op with
      | ack given =>
          simp only [Handling.next] at h
          split at h
          · rename_i same
            subst same
            obtain rfl := Option.some.inj h
            exact .leave _ _ (by rintro _ ⟨⟩; exact .inr rfl)
          · cases h
      | _ => cases h
  | idle =>
      cases op with
      | receive queue =>
          cases reply with
          | ok message =>
              obtain rfl := Option.some.inj h
              exact .receive queue message
          | error _ =>
              obtain rfl := Option.some.inj h
              exact .stay _ _ (by simp)
      | ack _ | nack _ => cases h
      | _ =>
          obtain rfl := Option.some.inj h
          exact .stay _ _ (by simp)

-- What a call does to the swaps and to the queues

/-- A job finds its swap waiting or completed, and with an amount; a new swap has an id that
no message names; and no swap is taken back once it is completed.
-/
def Unobstructed (c : OnRampConfig) (i : Nat) (x : Choice) : Prop :=
  match c.pending? i with
  | some (.claimSwap id source) =>
      ∀ row ∈ c.world.swaps.lookup id, row.source = source.getD .xlm_deposit →
        row.status = .completed ∨ row.status = .pending_convert
  | some (.findSwap id) =>
      ∀ row ∈ c.world.swaps.lookup id, row.source = .usdc_deposit → 0 < row.usdcAmount.getD 0
  | some (.createSwap _) =>
      ∀ payload ∈ c.world.published, payload.onRampSwapId ≠ x.freshSwapId
  | some (.updateSwap id data) =>
      ∀ row ∈ c.world.swaps.lookup id, row.status = .completed →
        ∀ status ∈ data.status, status = .completed
  | _ => True

instance (c : OnRampConfig) (i : Nat) (x : Choice) : Decidable (Unobstructed c i x) := by
  unfold Unobstructed
  split <;> infer_instance

theorem Settled.put {w : World} {payload : Payload} {id : SwapId} {row : OnRampSwap}
    (h : Settled w payload)
    (kept : id = payload.onRampSwapId → row.source = payload.queue.source →
      row.status = .completed)
    : Settled (w.put id row) payload := by
  intro row' found kind
  by_cases same : payload.onRampSwapId = id
  · subst same
    obtain rfl : row = row' := by simpa [World.put] using found
    exact kept rfl kind
  · exact h row' (by simpa [World.put, AList.lookup_insert_ne same] using found) kind

theorem act_update_ok {i : Nat} {x : Choice} {w w' : World} {id : SwapId} {data : SwapUpdate}
    (h : onRampSemantics.act i (.updateSwap id data) x w = some (.ok (), w'))
    : ∃ row : OnRampSwap, w' = w.put id (row.apply data) := by
  obtain ⟨-, answered⟩ := act_eq_some h
  obtain ⟨-, taken⟩ := Outcome.answer_ok answered
  simp only [effect, World.update] at taken
  split at taken
  · cases taken
  · rename_i row _
    exact ⟨row, (congrArg Prod.snd taken).symm⟩

theorem act_claim_zero {i : Nat} {x : Choice} {w w' : World} {id : SwapId}
    {source : Option SwapSource}
    (h : onRampSemantics.act i (.claimSwap id source) x w = some (.ok 0, w'))
    : w' = w ∧ ∀ row, w.swaps.lookup id = some row → row.claimable source = false := by
  obtain ⟨-, answered⟩ := act_eq_some h
  obtain ⟨-, taken⟩ := Outcome.answer_ok answered
  simp only [effect, World.claim] at taken
  split at taken
  · rename_i absent
    refine ⟨(congrArg Prod.snd taken).symm, ?_⟩
    intro row found
    rw [absent] at found
    cases found
  · rename_i row found
    split at taken
    · cases congrArg Prod.fst taken
    · rename_i unclaimable
      refine ⟨(congrArg Prod.snd taken).symm, ?_⟩
      intro row' found'
      obtain rfl := Option.some.inj (found.symm.trans found')
      simpa using unclaimable

section

variable {c c' : OnRampConfig} {i : Nat} {x : Choice} {op : OnRampOp}
  {reply : onRampInterface.Reply op} {payload : Payload}

theorem settled_of_act (pending : c.pending? i = some op) (allowed : Unobstructed c i x)
    (answered : onRampSemantics.act i op x c.world = some (reply, c'.world))
    (sent : payload ∈ c.world.published) (h : Settled c.world payload)
    : Settled c'.world payload := by
  have same : c'.world.swaps = c.world.swaps → Settled c'.world payload := by
    intro same row found
    rw [same] at found
    exact h row found
  simp only [Unobstructed, pending] at allowed
  cases op with
  | createSwap data =>
      obtain ⟨-, left | left⟩ := act_create answered
      · exact same (by rw [left])
      · rw [left]
        exact h.put (fun named _ => absurd named.symm (allowed payload sent))
  | claimSwap id source =>
      rcases act_claim answered with ⟨left, -⟩ | ⟨row, found, claimable, left⟩
      · exact same (by rw [left])
      · rw [left]
        refine h.put ?_
        rintro rfl kind
        have completed := h row found kind
        rw [OnRampSwap.claimable, completed] at claimable
        cases claimable
  | updateSwap id data =>
      rcases act_update answered with left | ⟨row, found, left⟩
      · exact same (by rw [left])
      · rw [left]
        refine h.put ?_
        rintro rfl kind
        have completed := h row found kind
        cases written : data.status with
        | none => simpa [OnRampSwap.apply, written] using completed
        | some status =>
            have kept := allowed row found completed status written
            simp [OnRampSwap.apply, written, kept]
  | _ =>
      obtain ⟨-, taken⟩ := act_eq_some answered
      rcases Outcome.answer_world taken with left | left
      · exact same (by rw [left])
      · exact same (by rw [left]; rfl)

theorem act_dequeued (answered : onRampSemantics.act i op x c.world = some (reply, c'.world))
    {message : Message} (queued : message ∈ c.world.queue)
    : message ∈ c'.world.queue ∨ op = .ack message ∨ op = .nack message := by
  rcases act_broker answered with ⟨same, -⟩ | ⟨_, -, sent, -⟩ | ⟨given, taken, erased, -⟩
  · exact .inl (same ▸ queued)
  · exact .inl (sent ▸ List.mem_cons_of_mem _ queued)
  · by_cases own : message = given
    · exact .inr (own ▸ taken)
    · exact .inl (erased ▸ (List.mem_erase_of_ne own).mpr queued)

theorem act_sent (answered : onRampSemantics.act i op x c.world = some (reply, c'.world))
    {payload : Payload} (sent : payload ∈ c'.world.published)
    : payload ∈ c.world.published ∨ ∃ message ∈ c'.world.queue, message.payload = payload := by
  rcases act_broker answered with ⟨-, same⟩ | ⟨message, -, queued, added⟩ | ⟨_, -, -, same⟩
  · exact .inl (same ▸ sent)
  · rw [added] at sent
    rcases List.mem_cons.mp sent with rfl | before
    · exact .inr ⟨message, queued ▸ List.mem_cons_self .., rfl⟩
    · exact .inl before
  · exact .inl (same ▸ sent)

theorem queue_sent (answered : onRampSemantics.act i op x c.world = some (reply, c'.world))
    (before : ∀ message ∈ c.world.queue, message.payload ∈ c.world.published)
    {message : Message} (queued : message ∈ c'.world.queue)
    : message.payload ∈ c'.world.published := by
  rcases act_queue answered message queued with earlier | rfl
  · exact act_published answered _ (before message earlier)
  · rcases act_broker answered with ⟨same, sent⟩ | ⟨_, own, -, sent⟩ | ⟨_, own, -⟩
    · rw [sent]
      exact before message (same ▸ queued)
    · cases own
      exact sent ▸ List.mem_cons_self ..
    · rcases own with own | own <;> cases own

end

-- Runs

/-- How far party `i` has come with its message. -/
def handlingOf (c : OnRampConfig) (i : Nat) : Handling :=
  messageProtocol.phase (fun _ => .idle) c i

/-- A delivery has sent its message again. -/
def Resent (c : OnRampConfig) (i : Nat) (message : Message) : Prop :=
  ∃ again : Message, again.payload = message.payload
    ∧ (⟨.sendToQueue again, .ok ()⟩ : Event onRampInterface) ∈ c.past i

/-- A consumer has rejected a message with this payload without requeueing it. -/
def DeadLettered (c : OnRampConfig) (payload : Payload) : Prop :=
  ∃ i, ∃ event ∈ c.past i, ∃ message, event.op = .nack message ∧ message.payload = payload

/-- A payload is settled, given up, or in the queue after at least so many retries. -/
def Held (c : OnRampConfig) (payload : Payload) (retries : Nat) : Prop :=
  Settled c.world payload ∨ DeadLettered c payload
    ∨ ∃ message ∈ c.world.queue, message.payload = payload ∧ retries ≤ message.retries

/-- What holds of every delivery and of every message that was sent. -/
structure MessagesHeld (c : OnRampConfig) : Prop where
  routed : ∀ i, handlingOf c i ≠ .misrouted
  queued : ∀ message ∈ c.world.queue, message.payload ∈ c.world.published
  known : ∀ i message, (handlingOf c i).message? = some message →
    message.payload ∈ c.world.published
  cleared : ∀ i message, handlingOf c i = .cleared message → Settled c.world message.payload
  resent : ∀ i message, handlingOf c i = .resent message →
    Resent c i message ∧ Held c message.payload (message.retries + 1)
  held : ∀ payload ∈ c.world.published, Held c payload 0

abbrev MessagesGoverned (c : OnRampConfig) : Prop :=
  messageProtocol.Governs (fun _ => .idle) (fun _ _ _ => True) (fun _ _ _ => True) c

/-- A step of a run as the messages see it. -/
structure MessageStep (c c' : OnRampConfig) (i : Nat) (x : Choice) (op : OnRampOp)
    (reply : onRampInterface.Reply op)
    : Prop where
  pending : c.pending? i = some op
  answered : onRampSemantics.act i op x c.world = some (reply, c'.world)
  move : HandlingMove (handlingOf c i) ⟨op, reply⟩ (handlingOf c' i)
  past : c'.past i = ⟨op, reply⟩ :: c.past i
  others : ∀ j, j ≠ i → handlingOf c' j = handlingOf c j ∧ c'.past j = c.past j

theorem message_step {c c' : OnRampConfig} {i : Nat} {x : Choice} (governed : MessagesGoverned c)
    (stepped : c.step onRampSemantics i x = some c')
    : ∃ op reply, MessageStep c c' i x op reply := by
  obtain ⟨op, reply, -, pending, answered, moved, past, others, -⟩ := governed.step_cases stepped
  exact ⟨op, reply, pending, answered, .of_next moved, past,
    fun j different => ⟨(others j different).1, (others j different).2.2⟩⟩

theorem HandlingMove.acked {stage stage' : Handling} {message : Message}
    {reply : onRampInterface.Reply (.ack message)}
    (h : HandlingMove stage ⟨.ack message, reply⟩ stage')
    : stage = .misrouted ∨ stage = .cleared message ∨ stage = .resent message := by
  cases h with
  | stay _ _ unacked =>
      rcases unacked with astray | unacked
      · exact .inl astray
      · exact absurd rfl (unacked message)
  | ackLost _ _ => exact .inr (.inl rfl)
  | leave _ _ acked => exact .inr (acked message rfl)

section

variable {c c' : OnRampConfig} {i : Nat} {x : Choice} {op : OnRampOp}
  {reply : onRampInterface.Reply op} {payload : Payload}

theorem MessageStep.past_mono (s : MessageStep c c' i x op reply) {j : Nat}
    {event : Event onRampInterface} (h : event ∈ c.past j)
    : event ∈ c'.past j := by
  by_cases own : j = i
  · subst own
    rw [s.past]
    exact List.mem_cons_of_mem _ h
  · rw [(s.others j own).2]
    exact h

theorem DeadLettered.step (s : MessageStep c c' i x op reply) (h : DeadLettered c payload)
    : DeadLettered c' payload := by
  obtain ⟨j, event, member, message, given, same⟩ := h
  exact ⟨j, event, s.past_mono member, message, given, same⟩

theorem Resent.step (s : MessageStep c c' i x op reply) {j : Nat} {message : Message}
    (h : Resent c j message)
    : Resent c' j message := by
  obtain ⟨again, same, member⟩ := h
  exact ⟨again, same, s.past_mono member⟩

/-- What is held stays held. Witness: an acknowledged message is settled, or is in the queue
again with more retries.
-/
theorem Held.step (h : MessagesHeld c) (s : MessageStep c c' i x op reply)
    (allowed : Unobstructed c i x) (sent : payload ∈ c.world.published) {retries : Nat}
    (held : Held c payload retries)
    : Held c' payload retries := by
  have settled : Settled c.world payload → Held c' payload retries := fun settled =>
    .inl (settled_of_act s.pending allowed s.answered sent settled)
  rcases held with done | dead | ⟨message, queued, same, enough⟩
  · exact settled done
  · exact .inr (.inl (dead.step s))
  · rcases act_dequeued s.answered queued with kept | rfl | rfl
    · exact .inr (.inr ⟨message, kept, same, enough⟩)
    · rcases s.move.acked with astray | cleared | resent
      · exact absurd astray (h.routed i)
      · exact settled (same ▸ h.cleared i message cleared)
      · rcases (h.resent i message resent).2 with done | dead | ⟨again, queued', same', more⟩
        · exact settled (same ▸ done)
        · exact .inr (.inl (same ▸ dead.step s))
        · have different : again ≠ message := by
            rintro rfl
            omega
          rcases act_dequeued s.answered queued' with kept | taken | taken
          · exact .inr (.inr ⟨again, kept, same'.trans same, by omega⟩)
          · exact absurd (OnRampOp.ack.inj taken).symm different
          · cases taken
    · have rejected : (⟨.nack message, reply⟩ : Event onRampInterface) ∈ c'.past i := by
        rw [s.past]
        exact List.mem_cons_self ..
      exact .inr (.inl ⟨i, _, rejected, message, rfl, same⟩)

theorem settled_of_unclaimed {message : Message} {source : Option SwapSource}
    (kind : source.getD .xlm_deposit = message.payload.queue.source)
    (waiting : ∀ row ∈ c.world.swaps.lookup message.payload.onRampSwapId,
      row.source = source.getD .xlm_deposit
        → row.status = .completed ∨ row.status = .pending_convert)
    (answered : onRampSemantics.act i (.claimSwap message.payload.onRampSwapId source) x c.world
      = some (.ok 0, c'.world))
    : Settled c'.world message.payload := by
  obtain ⟨same, unclaimable⟩ := act_claim_zero answered
  rw [same]
  intro row found own
  rcases waiting row found (own.trans kind.symm) with completed | pending
  · exact completed
  · have claimable : row.claimable source = true := by
      rw [← kind] at own
      cases source with
      | none => simp [OnRampSwap.claimable, pending]
      | some wanted => simpa [OnRampSwap.claimable, pending] using own
    rw [unclaimable row found] at claimable
    cases claimable

theorem settled_of_afterFind {message : Message} {found : Option OnRampSwap}
    (read : c.world.swaps.lookup message.payload.onRampSwapId = found)
    (paid : ∀ row ∈ c.world.swaps.lookup message.payload.onRampSwapId,
      row.source = .usdc_deposit → 0 < row.usdcAmount.getD 0)
    (idle : ∀ other, Handling.afterFind message found ≠ .working other)
    : Settled c.world message.payload := by
  intro row stored kind
  obtain rfl : found = some row := read.symm.trans stored
  by_cases unpaid : message.payload.queue = .USDC_CONVERT_AND_MINT ∧ row.usdcAmount.getD 0 ≤ 0
  · obtain ⟨usdc, nothing⟩ := unpaid
    have positive := paid row stored (by rw [kind, usdc]; rfl)
    exact absurd nothing (not_le.mpr positive)
  · exact absurd (if_neg unpaid) (idle message)

theorem settled_of_cleared (h : MessagesHeld c) (s : MessageStep c c' i x op reply)
    (allowed : Unobstructed c i x) {message : Message}
    (cleared : handlingOf c' i = .cleared message)
    : Settled c'.world message.payload := by
  have kept : message.payload ∈ c.world.published → Settled c.world message.payload →
      Settled c'.world message.payload :=
    settled_of_act s.pending allowed s.answered
  obtain ⟨pending, answered, move, -, -⟩ := s
  simp only [Unobstructed, pending] at allowed
  generalize before : handlingOf c i = stage at move
  generalize handlingOf c' i = stage' at move cleared
  cases move with
  | stay _ _ _ =>
      subst cleared
      exact kept (h.known i message (by rw [before]; rfl)) (h.cleared i message before)
  | receive queue received =>
      unfold Handling.afterReceive at cleared
      split at cleared <;> cases cleared
  | nothingClaimed held source kind =>
      cases cleared
      exact settled_of_unclaimed kind allowed answered
  | found held found =>
      obtain ⟨same, read⟩ := act_find answered
      have own : held = message := by
        cases found with
        | none => exact Handling.cleared.inj cleared
        | some row =>
            simp only [Handling.afterFind] at cleared
            split at cleared
            · exact Handling.cleared.inj cleared
            · cases cleared
      subst own
      rw [same]
      exact settled_of_afterFind (read found rfl) allowed (by simp [cleared])
  | completed held data status =>
      cases cleared
      obtain ⟨row, written⟩ := act_update_ok answered
      rw [written]
      intro row' stored _
      obtain rfl : row.apply data = row' := by simpa [World.put] using stored
      simp [OnRampSwap.apply, status]
  | resend | ackLost | leave => cases cleared

theorem act_send {message : Message}
    (answered : onRampSemantics.act i (.sendToQueue message) x c.world = some (.ok (), c'.world))
    : message ∈ c'.world.queue := by
  obtain ⟨-, answered⟩ := act_eq_some answered
  obtain ⟨-, taken⟩ := Outcome.answer_ok answered
  have left : (effect x c.world (.sendToQueue message)).2 = c'.world := congrArg Prod.snd taken
  rw [← left]
  exact List.mem_cons_self ..

@[simp] theorem message?_afterFind {message : Message} {found : Option OnRampSwap}
    : (Handling.afterFind message found).message? = some message := by
  cases found with
  | none => rfl
  | some row =>
      simp only [Handling.afterFind]
      split <;> rfl

theorem routed_of_step (h : MessagesHeld c) (s : MessageStep c c' i x op reply)
    : handlingOf c' i ≠ .misrouted := by
  intro astray
  obtain ⟨-, answered, move, -, -⟩ := s
  generalize before : handlingOf c i = stage at move
  generalize handlingOf c' i = stage' at move astray
  cases move with
  | stay _ _ _ => exact h.routed i (before.trans astray)
  | receive queue message =>
      simp [Handling.afterReceive, (act_receive answered).2] at astray
  | found message found =>
      have held : (Handling.afterFind message found).message? = some message := message?_afterFind
      rw [astray] at held
      cases held
  | nothingClaimed | completed | resend | ackLost | leave => cases astray

theorem known_of_step (h : MessagesHeld c) (s : MessageStep c c' i x op reply)
    {message : Message} (holds : (handlingOf c' i).message? = some message)
    : message.payload ∈ c.world.published := by
  have known := h.known i message
  obtain ⟨-, answered, move, -, -⟩ := s
  generalize handlingOf c i = stage at move known
  generalize handlingOf c' i = stage' at move holds
  cases move with
  | receive queue received =>
      obtain ⟨queued, routed⟩ := act_receive answered
      simp only [Handling.afterReceive, routed, if_true] at holds
      obtain rfl := Option.some.inj holds
      exact h.queued received queued
  | found held found =>
      rw [message?_afterFind] at holds
      exact known holds
  | resend held stage open? =>
      obtain rfl := Option.some.inj holds
      cases stage with
      | working _ | cleared _ => exact known open?
      | idle | misrouted | resent _ => cases open?
  | leave => cases holds
  | stay | nothingClaimed | completed | ackLost => exact known holds

theorem MessagesHeld.step (h : MessagesHeld c) (s : MessageStep c c' i x op reply)
    (allowed : Unobstructed c i x)
    : MessagesHeld c' := by
  have sent : ∀ payload ∈ c.world.published, payload ∈ c'.world.published :=
    act_published s.answered
  have held : ∀ payload ∈ c'.world.published, Held c' payload 0 := by
    intro payload known
    rcases act_sent s.answered known with before | ⟨message, queued, same⟩
    · exact Held.step h s allowed before (h.held payload before)
    · exact .inr (.inr ⟨message, queued, same, Nat.zero_le _⟩)
  refine ⟨?_, fun message queued => queue_sent s.answered h.queued queued, ?_, ?_, ?_, held⟩
  · intro j
    by_cases own : j = i
    · exact own ▸ routed_of_step h s
    · exact (s.others j own).1 ▸ h.routed j
  · intro j message holds
    by_cases own : j = i
    · subst own
      exact sent _ (known_of_step h s holds)
    · rw [(s.others j own).1] at holds
      exact sent _ (h.known j message holds)
  · intro j message cleared
    by_cases own : j = i
    · subst own
      exact settled_of_cleared h s allowed cleared
    · rw [(s.others j own).1] at cleared
      exact settled_of_act s.pending allowed s.answered
        (h.known j message (by rw [cleared]; rfl)) (h.cleared j message cleared)
  · intro j message resent
    have kept : handlingOf c j = .resent message →
        Resent c' j message ∧ Held c' message.payload (message.retries + 1) := by
      intro before
      obtain ⟨again, more⟩ := h.resent j message before
      exact ⟨again.step s, Held.step h s allowed (h.known j message (by rw [before]; rfl)) more⟩
    by_cases own : j = i
    · subst own
      obtain ⟨-, answered, move, past, -⟩ := s
      generalize handlingOf c j = stage at move kept
      generalize handlingOf c' j = stage' at move resent
      cases move with
      | stay => exact kept resent
      | resend held _ _ =>
          obtain rfl := Handling.resent.inj resent
          refine ⟨⟨{ held with retries := held.retries + 1 }, rfl, ?_⟩,
            .inr (.inr ⟨_, act_send answered, rfl, le_rfl⟩)⟩
          rw [past]
          exact List.mem_cons_self ..
      | receive queue received =>
          unfold Handling.afterReceive at resent
          split at resent <;> cases resent
      | found held found =>
          cases found with
          | none => cases resent
          | some row =>
              simp only [Handling.afterFind] at resent
              split at resent <;> cases resent
      | nothingClaimed | completed | ackLost | leave => cases resent
    · exact kept ((s.others j own).1 ▸ resent)

end

theorem messagesGoverned_initial {swaps : AList (fun _ : SwapId => OnRampSwap)}
    {queue : List Message}
    : MessagesGoverned (initialConfig dep parties swaps queue) := by
  apply Protocol.governs_initial
  intro i prog found
  rw [List.getElem?_map, Option.map_eq_some_iff] at found
  obtain ⟨party, -, rfl⟩ := found
  exact wp_messageProtocol dep party

theorem messagesHeld_initial {swaps : AList (fun _ : SwapId => OnRampSwap)} {queue : List Message}
    : MessagesHeld (initialConfig dep parties swaps queue) := by
  have idle : ∀ i, handlingOf (initialConfig dep parties swaps queue) i = .idle :=
    fun _ => Protocol.phase_initial _
  constructor
  · simp [idle]
  · exact fun message queued => List.mem_map_of_mem queued
  · simp [idle, Handling.message?]
  · simp [idle]
  · simp [idle]
  · intro payload sent
    obtain ⟨message, queued, same⟩ := List.mem_map.mp sent
    exact .inr (.inr ⟨message, queued, same, Nat.zero_le _⟩)

-- Nothing is dropped

/-- A delivery acknowledges a message it has not sent again only when nothing is left to do
for it; so a message that was sent is in the queue, was rejected to the dead letters, or has
nothing left to do.
-/
structure NothingDropped (c : OnRampConfig) : Prop where
  acknowledged : ∀ i message, c.pending? i = some (.ack message) → ¬ Resent c i message →
    Settled c.world message.payload
  kept : ∀ payload ∈ c.world.published,
    Settled c.world payload ∨ DeadLettered c payload
      ∨ ∃ message ∈ c.world.queue, message.payload = payload

/-- A delivery that is about to acknowledge its message without having sent anything, while
the swap of the message is open, drops it.
-/
theorem not_nothingDropped {c : OnRampConfig} {i : Nat} {message : Message} {row : OnRampSwap}
    (acks : c.pending? i = some (.ack message))
    (silent : ∀ op ∈ (c.past i).map Event.op, ∀ again, op ≠ .sendToQueue again)
    (stored : c.world.swaps.lookup message.payload.onRampSwapId = some row)
    (kind : row.source = message.payload.queue.source) (opened : row.status ≠ .completed)
    : ¬ NothingDropped c := by
  intro h
  refine opened (h.acknowledged i message acks ?_ row stored kind)
  rintro ⟨again, -, member⟩
  exact silent _ (List.mem_map_of_mem member) again rfl

end AcbuBackend.OnRamp
