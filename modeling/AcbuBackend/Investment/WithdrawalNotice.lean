import AcbuBackend.Investment.WithdrawalAvailability

/-! When requests become available, and which of them are notified.
A request leaves the batch as it becomes available, so its notification is left to the run that made
it available.
-/

namespace AcbuBackend.Investment

open Effects Effects.Prog AcbuBackend.Runtime
open Salary (retryWithBackoff wp_retry)

-- Phases of a run

/-- A run that publishes has made a request available; `left` is the number of attempts after the
current one.
-/
inductive NoticePhase
  | start
  | read (now : Nat)
  | ready (now : Nat) (records : List InvestmentWithdrawalRequest)
  | publishing (now : Nat) (records : List InvestmentWithdrawalRequest)
      (r : InvestmentWithdrawalRequest) (left : Nat)

/-- The phase in which `left` attempts are left. -/
def NoticePhase.attempts (now : Nat) (records : List InvestmentWithdrawalRequest)
    (r : InvestmentWithdrawalRequest)
    : Nat → NoticePhase
  | 0 => .ready now records
  | left + 1 => .publishing now records r left

/-- The phase after an update of a number of rows. -/
def NoticePhase.marked (now : Nat) (records : List InvestmentWithdrawalRequest)
    (r : InvestmentWithdrawalRequest) (count : Nat)
    : NoticePhase :=
  if count ≠ 0 ∧ r.hasOwner = true then .publishing now records r 2 else .ready now records

def noticeProtocol : Protocol availabilityInterface NoticePhase where
  next
    | .start, .trustedNow, .ok now => some (.read now)
    | .start, .trustedNow, .error _ => some .start
    | .read now, .findReady trustedNow _, reply =>
        if trustedNow = now then
          match reply with
          | .ok records => some (.ready now records)
          | .error _ => some (.read now)
        else none
    | .ready now records, .markAvailable r trustedNow, reply =>
        if r ∈ records ∧ trustedNow = now then
          match reply with
          | .ok count => some (.marked now records r count)
          | .error _ => some (.ready now records)
        else none
    | .publishing now records r left, .getRabbitMQChannel, .ok _
    | .publishing now records r left, .assertQueue, .ok _ => some (.publishing now records r left)
    | .publishing now records r left, .getRabbitMQChannel, .error _
    | .publishing now records r left, .assertQueue, .error _ => some (.attempts now records r left)
    | .publishing now records r left, .sendToQueue requestId message, reply =>
        if requestId = r.id ∧ message = r.ready now then
          match reply with
          | .ok _ => some (.ready now records)
          | .error _ => some (.attempts now records r left)
        else none
    | _, _, _ => none

def NoticePhase.publishes (id : String) : NoticePhase → Bool
  | .publishing _ _ r _ => r.id = id
  | _ => false

section

variable {now : Nat} {r : InvestmentWithdrawalRequest} {records : List InvestmentWithdrawalRequest}

theorem publish_wp {left : Nat}
    : noticeProtocol.wp (publishInvestmentWithdrawalReady r now)
        (.attempts now records r (left + 1))
        (fun _ phase => phase = .ready now records)
        (fun _ phase => phase = .attempts now records r left) := by
  refine Protocol.wp_bind.mpr (Protocol.wp_await.mpr
    ⟨fun _ => ⟨_, rfl, ?_⟩, fun _ => ⟨_, rfl, rfl⟩⟩)
  refine Protocol.wp_bind.mpr (Protocol.wp_await.mpr
    ⟨fun _ => ⟨_, rfl, ?_⟩, fun _ => ⟨_, rfl, rfl⟩⟩)
  exact Protocol.wp_await.mpr
    ⟨fun _ => ⟨_, if_pos ⟨rfl, rfl⟩, rfl⟩, fun _ => ⟨_, if_pos ⟨rfl, rfl⟩, rfl⟩⟩

theorem mark_wp {lastError : JsError} (member : r ∈ records)
    : noticeProtocol.wp (retryWithBackoff (withdrawalCall (.markAvailable r now)) 3 lastError)
        (.ready now records) (fun count phase => phase = .marked now records r count)
        (fun _ phase => phase = .ready now records) := by
  refine @wp_retry _ _ _ _ _ _ (fun _ => NoticePhase.ready now records) _ _ fun _ => ?_
  exact Protocol.wp_await.mpr
    ⟨fun count => ⟨_, if_pos ⟨member, rfl⟩, rfl⟩, fun _ => ⟨_, if_pos ⟨member, rfl⟩, rfl⟩⟩

theorem processRequest_wp (member : r ∈ records)
    : noticeProtocol.wp (processRequest now r) (.ready now records)
        (fun _ phase => phase = .ready now records) (fun _ phase => phase
          = .ready now records) := by
  refine Protocol.wp_bind.mpr (Protocol.wp_mono (mark_wp member) ?_ fun _ _ known => known)
  rintro count _ rfl
  unfold NoticePhase.marked
  by_cases unchanged : count = 0
  · simp [unchanged]
  by_cases owned : r.hasOwner = true
  · simp only [unchanged, owned, ne_eq, not_false_eq_true, and_self, if_true, if_false]
    exact @wp_retry _ _ _ _ _ _ (NoticePhase.attempts now records r) 3 _ fun left => publish_wp
  · simp [unchanged, owned]

/-- By induction on the requests that are left. -/
theorem processRequests_wp {rest : List InvestmentWithdrawalRequest} (members : rest ⊆ records)
    : noticeProtocol.wp (processRequests now rest) (.ready now records)
        (fun _ phase => phase = .ready now records) (fun _ _ => False) := by
  induction rest with
  | nil => rfl
  | cons r rest ih =>
      obtain ⟨member, members⟩ := List.cons_subset.mp members
      refine Protocol.wp_bind.mpr (Protocol.wp_swallow.mpr
        (Protocol.wp_mono (processRequest_wp member) ?_ ?_))
      · rintro _ _ rfl
        exact ih members
      · rintro _ _ rfl
        exact ih members

theorem process_wp
    : noticeProtocol.wp processInvestmentWithdrawalAvailability .start
        (fun _ phase => ∀ id, phase.publishes id = false)
        (fun _ phase => ∀ id, phase.publishes id = false) := by
  refine Protocol.wp_bind.mpr (Protocol.wp_await.mpr ⟨fun now => ⟨_, rfl, ?_⟩,
    fun _ => ⟨_, rfl, fun _ => rfl⟩⟩)
  refine Protocol.wp_bind.mpr (Protocol.wp_await.mpr ⟨fun records => ⟨_, if_pos rfl, ?_⟩,
    fun _ => ⟨_, if_pos rfl, fun _ => rfl⟩⟩)
  apply Protocol.wp_mono (processRequests_wp (List.Subset.refl records))
  · rintro _ _ rfl _
    rfl
  · exact fun _ _ absurd => absurd.elim

end

-- The table

/-- The records of one request, which differ in what the job sets. -/
def InvestmentWithdrawalRequest.SameRequest (row r : InvestmentWithdrawalRequest) : Prop :=
  row = { r with status := row.status, notifiedAt := row.notifiedAt }

namespace InvestmentWithdrawalRequest.SameRequest

variable {row row' r : InvestmentWithdrawalRequest}

theorem trans (h : row'.SameRequest row) (h' : row.SameRequest r) : row'.SameRequest r := by
  unfold SameRequest at *
  rw [h, h']

theorem madeAvailable {now : Nat} : (row.madeAvailable now).SameRequest row :=
  rfl

theorem ready_eq (h : row.SameRequest r) (occurredAt : Nat)
    : row.ready occurredAt = r.ready occurredAt := by
  rw [h]
  rfl

theorem hasOwner_eq (h : row.SameRequest r) : row.hasOwner = r.hasOwner := by
  rw [h]
  rfl

end InvestmentWithdrawalRequest.SameRequest

namespace WithdrawalWorld

/-- The request is in the table. -/
def Lists (w : WithdrawalWorld) (r : InvestmentWithdrawalRequest) : Prop :=
  ∃ row, w.requests.lookup r.id = some row ∧ row.SameRequest r

/-- A notification of the request has been published. -/
def Notified (w : WithdrawalWorld) (id : String) : Prop :=
  ∃ row message, w.requests.lookup id = some row ∧ (id, message) ∈ w.published
    ∧ message = row.ready message.timestamp

/-- Time goes on, a request that is available stays as it is, and nothing is unpublished. -/
structure Grows (w w' : WithdrawalWorld) : Prop where
  clock : w.clock ≤ w'.clock
  rows : ∀ id row, w.requests.lookup id = some row →
    ∃ row', w'.requests.lookup id = some row' ∧ row'.SameRequest row
      ∧ (row.status = .available → row' = row)
  published : ∀ entry ∈ w.published, entry ∈ w'.published

variable {w w' : WithdrawalWorld}

theorem Grows.of_requests (clock : w.clock ≤ w'.clock) (requests : w'.requests = w.requests)
    (published : ∀ entry ∈ w.published, entry ∈ w'.published)
    : w.Grows w' where
  clock := clock
  rows _ row found := ⟨row, requests ▸ found, rfl, fun _ => rfl⟩
  published := published

theorem Grows.trans {w'' : WithdrawalWorld} (h : w.Grows w') (h' : w'.Grows w'') : w.Grows w'' where
  clock := h.clock.trans h'.clock
  rows id row found := by
    obtain ⟨row', found', same, kept⟩ := h.rows id row found
    obtain ⟨row'', found'', same', kept'⟩ := h'.rows id row' found'
    refine ⟨row'', found'', same'.trans same, fun available => ?_⟩
    obtain rfl := kept available
    exact kept' available
  published entry sent := h'.published entry (h.published entry sent)

theorem Lists.grow {r : InvestmentWithdrawalRequest} (h : w.Lists r) (grows : w.Grows w')
    : w'.Lists r := by
  obtain ⟨row, found, same⟩ := h
  obtain ⟨row', found', same', -⟩ := grows.rows _ _ found
  exact ⟨row', found', same'.trans same⟩

/-- The updates made of requests that are in the table: none changes two rows, or the row of a
request that is not ready.
-/
theorem markAvailable_cases (id : String) (now : Nat)
    : w.markAvailable id now = (0, w)
      ∨ ∃ row, w.requests.lookup id = some row ∧ row.isReady now = true
        ∧ w.markAvailable id now
          = (1, { w with
              requests := w.requests.insert id (row.madeAvailable now)
              transitions := (id, w.clock) :: w.transitions }) := by
  unfold markAvailable
  split
  · exact .inl rfl
  · rename_i row found
    split
    · rename_i ready
      exact .inr ⟨row, found, ready, rfl⟩
    · exact .inl rfl

/-- Transitions are made once and not early, by requests that stay available; what is published is
about requests in the table.
-/
structure Timely (w : WithdrawalWorld) : Prop where
  keyed : ∀ id row, w.requests.lookup id = some row → row.id = id
  transitions : ∀ id time, (id, time) ∈ w.transitions →
    ∃ row, w.requests.lookup id = some row ∧ row.status = .available ∧ row.availableAt ≤ time
  once : (w.transitions.map Prod.fst).Nodup
  published : ∀ id message, (id, message) ∈ w.published →
    ∃ row, w.requests.lookup id = some row ∧ message = row.ready message.timestamp

theorem Timely.of_requests (h : w.Timely) (requests : w'.requests = w.requests)
    (transitions : w'.transitions = w.transitions)
    (published : ∀ id message, (id, message) ∈ w'.published →
      (id, message) ∈ w.published
      ∨ ∃ row, w.requests.lookup id = some row ∧ message = row.ready message.timestamp)
    : w'.Timely where
  keyed := requests ▸ h.keyed
  transitions := requests ▸ transitions ▸ h.transitions
  once := transitions ▸ h.once
  published id message sent := requests ▸ (published id message sent).elim (h.published id message)
    fun known => known

def made (w : WithdrawalWorld) (id : String) (row : InvestmentWithdrawalRequest) (now : Nat)
    : WithdrawalWorld :=
  { w with
    requests := w.requests.insert id (row.madeAvailable now)
    transitions := (id, w.clock) :: w.transitions }

variable {id : String} {row : InvestmentWithdrawalRequest} {now : Nat}

theorem not_available_of_ready (ready : row.isReady now = true) : row.status ≠ .available := by
  intro available
  simp [InvestmentWithdrawalRequest.isReady, READY_WITHDRAWAL_STATUSES, available] at ready

theorem le_of_ready (ready : row.isReady now = true) : row.availableAt ≤ now := by
  simp only [InvestmentWithdrawalRequest.isReady, Bool.and_eq_true, decide_eq_true_eq] at ready
  exact ready.2

theorem Grows.made (found : w.requests.lookup id = some row) (ready : row.isReady now = true)
    : w.Grows (w.made id row now) where
  clock := le_rfl
  rows id' row' found' := by
    by_cases same : id' = id
    · subst same
      obtain rfl := Option.some.inj (found.symm.trans found')
      exact ⟨row.madeAvailable now, AList.lookup_insert _, .madeAvailable,
        fun available => (not_available_of_ready ready available).elim⟩
    · exact ⟨row', (AList.lookup_insert_ne same).trans found', rfl, fun _ => rfl⟩
  published _ sent := sent

theorem Timely.made (h : w.Timely) (found : w.requests.lookup id = some row)
    (ready : row.isReady now = true) (past : now ≤ w.clock)
    : (w.made id row now).Timely where
  keyed id' row' found' := by
    by_cases same : id' = id
    · subst same
      obtain rfl := Option.some.inj ((AList.lookup_insert _).symm.trans found')
      exact h.keyed id' row found
    · exact h.keyed _ _ ((AList.lookup_insert_ne same).symm.trans found')
  transitions id' time made := by
    rcases List.mem_cons.mp made with new | old
    · obtain ⟨rfl, rfl⟩ := Prod.mk.inj new
      exact ⟨row.madeAvailable now, AList.lookup_insert _, rfl, (le_of_ready ready).trans past⟩
    · obtain ⟨row', found', available, notEarly⟩ := h.transitions id' time old
      obtain ⟨row'', found'', -, kept⟩ := (Grows.made found ready).rows _ _ found'
      obtain rfl := kept available
      exact ⟨row'', found'', available, notEarly⟩
  once := by
    refine List.nodup_cons.mpr ⟨fun before => ?_, h.once⟩
    obtain ⟨⟨_, time⟩, member, rfl⟩ := List.mem_map.mp before
    obtain ⟨row', found', available, -⟩ := h.transitions _ time member
    obtain rfl := Option.some.inj (found.symm.trans found')
    exact not_available_of_ready ready available
  published id' message sent := by
    obtain ⟨row', found', about⟩ := h.published id' message sent
    obtain ⟨row'', found'', same, -⟩ := (Grows.made found ready).rows _ _ found'
    exact ⟨row'', found'', about.trans (same.ready_eq _).symm⟩

end WithdrawalWorld

-- Calls

section

variable {w w' : WithdrawalWorld} {x : WithdrawalChoice} {i : Nat}

theorem act_cases {op : WithdrawalOp} {reply : availabilityInterface.Reply op}
    (h : availabilitySemantics.act i op x w = some (reply, w'))
    : (w' = w ∧ x.outcome.isFailed = true ∧ ∃ error, reply = .error error)
      ∨ (w' = (withdrawalEffect x w op).2 ∧ w.clock ≤ x.time
        ∧ (reply = (withdrawalEffect x w op).1
          ∨ x.outcome.isLost = true ∧ ∃ error, reply = .error error)) := by
  obtain ⟨possible, failed | ⟨effect, answered⟩⟩ := Environment.outcome_cases h
  · exact .inl failed
  · refine .inr ⟨effect, ?_, answered⟩
    cases op with
    | findReady _ _ => exact of_decide_eq_true (Bool.and_eq_true_iff.mp possible).1
    | _ => exact of_decide_eq_true possible

/-- The moves of a run. -/
inductive NoticeMove
    : NoticePhase → (op : WithdrawalOp) → availabilityInterface.Reply op → NoticePhase → Prop
  | clock {now : Nat} : NoticeMove .start .trustedNow (.ok now) (.read now)
  | noClock {error : JsError} : NoticeMove .start .trustedNow (.error error) .start
  | batch {now limit : Nat} {records : List InvestmentWithdrawalRequest}
    : NoticeMove (.read now) (.findReady now limit) (.ok records) (.ready now records)
  | noBatch {now limit : Nat} {error : JsError}
    : NoticeMove (.read now) (.findReady now limit) (.error error) (.read now)
  | mark {now count : Nat} {records : List InvestmentWithdrawalRequest}
      {r : InvestmentWithdrawalRequest} (member : r ∈ records)
    : NoticeMove (.ready now records) (.markAvailable r now) (.ok count)
        (.marked now records r count)
  | noMark {now : Nat} {records : List InvestmentWithdrawalRequest}
      {r : InvestmentWithdrawalRequest} {error : JsError} (member : r ∈ records)
    : NoticeMove (.ready now records) (.markAvailable r now) (.error error) (.ready now records)
  | prepare {now left : Nat} {records : List InvestmentWithdrawalRequest}
      {r : InvestmentWithdrawalRequest} {op : WithdrawalOp} {reply : availabilityInterface.Reply op}
      (quiet : op = .getRabbitMQChannel ∨ op = .assertQueue)
    : NoticeMove (.publishing now records r left) op reply (.publishing now records r left)
  | noPrepare {now left : Nat} {records : List InvestmentWithdrawalRequest}
      {r : InvestmentWithdrawalRequest} {op : WithdrawalOp} {error : JsError}
      (quiet : op = .getRabbitMQChannel ∨ op = .assertQueue)
    : NoticeMove (.publishing now records r left) op (.error error) (.attempts now records r left)
  | send {now left : Nat} {records : List InvestmentWithdrawalRequest}
      {r : InvestmentWithdrawalRequest}
    : NoticeMove (.publishing now records r left) (.sendToQueue r.id (r.ready now)) (.ok ())
        (.ready now records)
  | noSend {now left : Nat} {records : List InvestmentWithdrawalRequest}
      {r : InvestmentWithdrawalRequest} {error : JsError}
    : NoticeMove (.publishing now records r left) (.sendToQueue r.id (r.ready now)) (.error error)
        (.attempts now records r left)

theorem move_cases {phase phase' : NoticePhase} {op : WithdrawalOp}
    {reply : availabilityInterface.Reply op} (moved
      : noticeProtocol.next phase op reply = some phase')
    : NoticeMove phase op reply phase' := by
  cases phase with
  | start =>
      cases op with
      | trustedNow =>
          cases reply with
          | ok now =>
              obtain rfl := Option.some.inj moved
              exact .clock
          | error _ =>
              obtain rfl := Option.some.inj moved
              exact .noClock
      | _ => cases moved
  | read now =>
      cases op with
      | findReady trustedNow limit =>
          obtain ⟨rfl, moved⟩ := Option.ite_none_right_eq_some.mp moved
          cases reply with
          | ok records =>
              obtain rfl := Option.some.inj moved
              exact .batch
          | error _ =>
              obtain rfl := Option.some.inj moved
              exact .noBatch
      | _ => cases moved
  | ready now records =>
      cases op with
      | markAvailable r trustedNow =>
          obtain ⟨⟨member, rfl⟩, moved⟩ := Option.ite_none_right_eq_some.mp moved
          cases reply with
          | ok count =>
              obtain rfl := Option.some.inj moved
              exact .mark member
          | error _ =>
              obtain rfl := Option.some.inj moved
              exact .noMark member
      | _ => cases moved
  | publishing now records r left =>
      cases op with
      | getRabbitMQChannel =>
          cases reply with
          | ok _ =>
              obtain rfl := Option.some.inj moved
              exact .prepare (.inl rfl)
          | error _ =>
              obtain rfl := Option.some.inj moved
              exact .noPrepare (.inl rfl)
      | assertQueue =>
          cases reply with
          | ok _ =>
              obtain rfl := Option.some.inj moved
              exact .prepare (.inr rfl)
          | error _ =>
              obtain rfl := Option.some.inj moved
              exact .noPrepare (.inr rfl)
      | sendToQueue requestId message =>
          obtain ⟨⟨rfl, rfl⟩, moved⟩ := Option.ite_none_right_eq_some.mp moved
          cases reply with
          | ok _ =>
              obtain rfl := Option.some.inj moved
              exact .send
          | error _ =>
              obtain rfl := Option.some.inj moved
              exact .noSend
      | _ => cases moved

/-- What a run knows: a past time, and requests that are in the table. -/
def NoticePhase.Sound (w : WithdrawalWorld) : NoticePhase → Prop
  | .start => True
  | .read now => now ≤ w.clock
  | .ready now records => now ≤ w.clock ∧ ∀ r ∈ records, w.Lists r
  | .publishing now records r _ => now ≤ w.clock ∧ (∀ r ∈ records, w.Lists r) ∧ w.Lists r

theorem NoticePhase.Sound.grow {phase : NoticePhase} (h : phase.Sound w) (grows : w.Grows w')
    : phase.Sound w' := by
  cases phase with
  | start => trivial
  | read now => exact h.trans grows.clock
  | ready now records => exact ⟨h.1.trans grows.clock, fun r member => (h.2 r member).grow grows⟩
  | publishing now records r left =>
      exact ⟨h.1.trans grows.clock, fun r member => (h.2.1 r member).grow grows, h.2.2.grow grows⟩

theorem NoticePhase.Sound.attempts {now left : Nat} {records : List InvestmentWithdrawalRequest}
    {r : InvestmentWithdrawalRequest} (h : (NoticePhase.publishing now records r left).Sound w)
    : (NoticePhase.attempts now records r left).Sound w := by
  cases left with
  | zero => exact ⟨h.1, h.2.1⟩
  | succ left => exact h

variable {phase phase' : NoticePhase} {op : WithdrawalOp} {reply : availabilityInterface.Reply op}

theorem NoticeMove.world (move : NoticeMove phase op reply phase') (sound : phase.Sound w)
    (timely : w.Timely) (answered : availabilitySemantics.act i op x w = some (reply, w'))
    : w.Grows w' ∧ w'.Timely := by
  rcases act_cases answered with ⟨rfl, -, -⟩ | ⟨rfl, later, -⟩
  · exact ⟨.of_requests le_rfl rfl fun _ sent => sent, timely⟩
  have ticks : w.Grows { w with clock := x.time } := .of_requests later rfl fun _ sent => sent
  have ticked : WithdrawalWorld.Timely { w with clock := x.time } :=
    timely.of_requests rfl rfl fun _ _ sent => .inl sent
  have marks : ∀ {now : Nat} {r : InvestmentWithdrawalRequest}, now ≤ w.clock →
      w.Grows (withdrawalEffect x w (.markAvailable r now)).2
      ∧ (withdrawalEffect x w (.markAvailable r now)).2.Timely := by
    intro now r past
    rcases WithdrawalWorld.markAvailable_cases (w := { w with clock := x.time }) r.id now with
      same | ⟨row, found, ready, made⟩
    · simp only [withdrawalEffect, same]
      exact ⟨ticks, ticked⟩
    · simp only [withdrawalEffect, made]
      exact ⟨ticks.trans (.made found ready), ticked.made found ready (past.trans later)⟩
  have sends : ∀ {now : Nat} {r : InvestmentWithdrawalRequest}, w.Lists r →
      w.Grows (withdrawalEffect x w (.sendToQueue r.id (r.ready now))).2
      ∧ (withdrawalEffect x w (.sendToQueue r.id (r.ready now))).2.Timely := by
    rintro now r ⟨row, found, same⟩
    refine ⟨.of_requests later rfl fun _ sent => List.mem_cons_of_mem _ sent,
      timely.of_requests rfl rfl ?_⟩
    intro id message sent
    rcases List.mem_cons.mp sent with new | old
    · obtain ⟨rfl, rfl⟩ := Prod.mk.inj new
      exact .inr ⟨row, found, (same.ready_eq now).symm⟩
    · exact .inl old
  cases move with
  | clock | noClock | batch | noBatch => exact ⟨ticks, ticked⟩
  | mark _ | noMark _ => exact marks sound.1
  | prepare quiet | noPrepare quiet =>
      rcases quiet with rfl | rfl
      · exact ⟨ticks, ticked⟩
      · exact ⟨ticks, ticked⟩
  | send | noSend => exact sends sound.2.2

theorem NoticeMove.sound (move : NoticeMove phase op reply phase') (sound : phase.Sound w)
    (timely : w.Timely) (answered : availabilitySemantics.act i op x w = some (reply, w'))
    : phase'.Sound w' := by
  have grows := (move.world sound timely answered).1
  have kept := sound.grow grows
  cases move with
  | clock =>
      rcases act_cases answered with ⟨-, -, _, absurd⟩ | ⟨rfl, -, same | ⟨-, _, absurd⟩⟩
      · cases absurd
      · obtain rfl := Except.ok.inj same
        exact le_rfl
      · cases absurd
  | batch =>
      refine ⟨kept, fun r member => ?_⟩
      rcases act_cases answered with ⟨-, -, _, absurd⟩ | ⟨-, -, same | ⟨-, _, absurd⟩⟩
      · cases absurd
      · obtain rfl := Except.ok.inj same
        obtain ⟨id, -, found⟩ := List.mem_filterMap.mp member
        have listed : w.Lists r := ⟨r, (timely.keyed id r found).symm ▸ found, rfl⟩
        exact listed.grow grows
      · cases absurd
  | mark member =>
      unfold NoticePhase.marked
      split
      · exact ⟨kept.1, kept.2, kept.2 _ member⟩
      · exact kept
  | noClock | noBatch | noMark _ | prepare _ => exact kept
  | send => exact ⟨kept.1, kept.2.1⟩
  | noPrepare _ | noSend => exact kept.attempts

end

-- Runs

/-- What holds after every run, whatever fails. -/
structure Available (c : AvailabilityConfig) : Prop where
  timely : c.world.Timely
  sound : ∀ i, (noticeProtocol.phase (fun _ => .start) c i).Sound c.world

abbrev noticePhase (c : AvailabilityConfig) (i : Nat) : NoticePhase :=
  noticeProtocol.phase (fun _ => .start) c i

/-- Every run keeps to the protocol. -/
abbrev Noticed (c : AvailabilityConfig) : Prop :=
  noticeProtocol.Governs (fun _ => .start) (fun _ _ phase => ∀ id, phase.publishes id = false)
    (fun _ _ phase => ∀ id, phase.publishes id = false) c

/-- All runs have ended. -/
def Ended (c : AvailabilityConfig) : Prop :=
  ∀ i < c.threads.length, c.live i = false

instance (c : AvailabilityConfig) : Decidable (Ended c) :=
  inferInstanceAs (Decidable (∀ i < c.threads.length, _))

theorem Ended.not_publishing {c : AvailabilityConfig} {i : Nat} {id : String} (ended : Ended c)
    (h : Noticed c)
    : (noticePhase c i).publishes id = false := by
  by_cases bound : i < c.threads.length
  · rcases Config.ended_cases bound (ended i bound) with ⟨_, finished⟩ | ⟨_, failed⟩
    · exact h.value finished id
    · exact h.error failed id
  · rw [noticePhase, Protocol.phase_of_none _ (List.getElem?_eq_none (Nat.le_of_not_lt bound))]
    rfl

theorem Available.step {c c' : AvailabilityConfig} {i : Nat} {x : WithdrawalChoice}
    (h : Available c)
    (governed : Noticed c) (stepped : c.step availabilitySemantics i x = some c')
    : Available c' := by
  obtain ⟨op, reply, -, -, answered, moved, -, others, -⟩ := governed.step_cases stepped
  have move := move_cases moved
  obtain ⟨grows, timely⟩ := move.world (h.sound i) h.timely answered
  refine ⟨timely, fun j => ?_⟩
  by_cases same : j = i
  · subst same
    exact move.sound (h.sound j) h.timely answered
  · rw [(others j same).1]
    exact (h.sound j).grow grows

/-- An update makes a request with an owner available, and its caller is told of an error. -/
def losesUpdate (c : AvailabilityConfig) (i : Nat) (x : WithdrawalChoice) : Bool :=
  match c.pending? i with
  | some (.markAvailable r trustedNow) =>
      x.outcome.isLost && r.hasOwner && (c.world.requests.lookup r.id).any (·.isReady trustedNow)
  | _ => false

def sends : Option WithdrawalOp → Bool
  | some (.sendToQueue ..) => true
  | _ => false

/-- A call of the last attempt to publish a notification reports an error, and no message has been
published for the request.
-/
def losesNotice (c : AvailabilityConfig) (i : Nat) (x : WithdrawalChoice) : Bool :=
  match noticePhase c i with
  | .publishing _ _ r 0 =>
      x.outcome ≠ .done && !(c.world.published.any (·.1 = r.id))
        && !(x.outcome.isLost && sends (c.pending? i))
  | _ => false

/-- No update and no notification is lost. -/
def Delivers (c : AvailabilityConfig) (i : Nat) (x : WithdrawalChoice) : Prop :=
  (losesUpdate c i x || losesNotice c i x) = false

instance (c : AvailabilityConfig) (i : Nat) (x : WithdrawalChoice) : Decidable (Delivers c i x) :=
  inferInstanceAs (Decidable (_ = false))

/-- The dependencies are healthy. -/
def Healthy (_ : AvailabilityConfig) (_ : Nat) (x : WithdrawalChoice) : Prop :=
  x.outcome = .done

instance (c : AvailabilityConfig) (i : Nat) (x : WithdrawalChoice) : Decidable (Healthy c i x) :=
  inferInstanceAs (Decidable (x.outcome = .done))

theorem Healthy.delivers {c : AvailabilityConfig} {i : Nat} {x : WithdrawalChoice}
    (h : Healthy c i x)
    : Delivers c i x := by
  have done : x.outcome = .done := h
  have update : losesUpdate c i x = false := by
    unfold losesUpdate
    split <;> simp [done, Outcome.isLost]
  have notice : losesNotice c i x = false := by
    unfold losesNotice
    split <;> simp [done]
  simp [Delivers, update, notice]

/-- The requests that are available have been notified, or are by the run that made them so. -/
def Announced (c : AvailabilityConfig) : Prop :=
  ∀ id row, c.world.requests.lookup id = some row → row.status = .available → row.hasOwner = true →
    c.world.Notified id ∨ ∃ i, (noticePhase c i).publishes id = true

theorem WithdrawalWorld.Notified.grow {w w' : WithdrawalWorld} {id : String} (h : w.Notified id)
    (grows : w.Grows w')
    : w'.Notified id := by
  obtain ⟨row, message, found, sent, about⟩ := h
  obtain ⟨row', found', same, -⟩ := grows.rows id row found
  exact ⟨row', message, found', grows.published _ sent, about.trans (same.ready_eq _).symm⟩

section

variable {c : AvailabilityConfig} {w' : WithdrawalWorld} {i : Nat} {x : WithdrawalChoice}
    {id : String}
  {op : WithdrawalOp} {reply : availabilityInterface.Reply op} {phase' : NoticePhase}

theorem WithdrawalWorld.Timely.notified {w : WithdrawalWorld} (h : w.Timely)
    (published : w.published.any (·.1 = id) = true)
    : w.Notified id := by
  obtain ⟨⟨_, message⟩, sent, same⟩ := List.any_eq_true.mp published
  obtain rfl := of_decide_eq_true same
  obtain ⟨row, found, about⟩ := h.published _ message sent
  exact ⟨row, message, found, sent, about⟩

theorem WithdrawalWorld.Timely.notified_of_mem {w : WithdrawalWorld} {message : WithdrawalReady}
    (h : w.Timely) (sent : (id, message) ∈ w.published)
    : w.Notified id :=
  h.notified (List.any_eq_true.mpr ⟨_, sent, decide_eq_true rfl⟩)

theorem failed_attempt {now left : Nat} {records : List InvestmentWithdrawalRequest}
    {r : InvestmentWithdrawalRequest} (phase : noticePhase c i = .publishing now records r left)
    (timely : c.world.Timely) (delivers : Delivers c i x) (failed : x.outcome ≠ .done)
    : (NoticePhase.attempts now records r left).publishes r.id = true
      ∨ c.world.Notified r.id
      ∨ x.outcome.isLost = true ∧ sends (c.pending? i) = true := by
  cases left with
  | succ left => exact .inl (decide_eq_true rfl)
  | zero =>
      have kept := (Bool.or_eq_false_iff.mp delivers).2
      simp only [losesNotice, phase, ne_eq, failed, not_false_eq_true, decide_true, Bool.true_and,
        Bool.and_eq_false_iff, Bool.not_eq_false', Bool.and_eq_true] at kept
      exact .inr (kept.imp timely.notified fun lost => lost)

theorem not_done_of_error {w : WithdrawalWorld} {error : JsError}
    (effect : ∃ value, (withdrawalEffect x w op).1 = .ok value)
    (answered : availabilitySemantics.act i op x w = some (.error error, w'))
    : x.outcome ≠ .done := by
  intro done
  obtain ⟨value, succeeds⟩ := effect
  rcases act_cases answered with ⟨-, failed, -⟩ | ⟨-, -, same | ⟨lost, -⟩⟩
  · simp [done, Outcome.isFailed] at failed
  · rw [succeeds] at same
    cases same
  · simp [done, Outcome.isLost] at lost

theorem NoticeMove.publishes {phase : NoticePhase} (move : NoticeMove phase op reply phase')
    (current : noticePhase c i = phase) (available : Available c) (delivers : Delivers c i x)
    (pending : c.pending? i = some op)
    (answered : availabilitySemantics.act i op x c.world = some (reply, w'))
    (publishes : phase.publishes id = true)
    : w'.Notified id ∨ phase'.publishes id = true := by
  have sound : phase.Sound c.world := current ▸ available.sound i
  obtain ⟨grows, timely⟩ := move.world sound available.timely answered
  cases move with
  | clock | noClock | batch | noBatch | mark _ | noMark _ => cases publishes
  | prepare _ => exact .inr publishes
  | noPrepare quiet =>
      obtain rfl := of_decide_eq_true publishes
      have failed : x.outcome ≠ .done := by
        rcases quiet with rfl | rfl
        · exact not_done_of_error ⟨(), rfl⟩ answered
        · exact not_done_of_error ⟨(), rfl⟩ answered
      rcases failed_attempt current available.timely delivers failed with
        again | notified | ⟨-, sent⟩
      · exact .inr again
      · exact .inl (notified.grow grows)
      · rw [pending] at sent
        rcases quiet with rfl | rfl
        · cases sent
        · cases sent
  | send =>
      obtain rfl := of_decide_eq_true publishes
      rcases act_cases answered with ⟨-, -, _, absurd⟩ | ⟨rfl, -, -⟩
      · cases absurd
      · exact .inl (timely.notified_of_mem List.mem_cons_self)
  | noSend =>
      obtain rfl := of_decide_eq_true publishes
      have failed : x.outcome ≠ .done := not_done_of_error ⟨(), rfl⟩ answered
      rcases failed_attempt current available.timely delivers failed with
        again | notified | ⟨lost, -⟩
      · exact .inr again
      · exact .inl (notified.grow grows)
      · rcases act_cases answered with ⟨-, failed, -⟩ | ⟨rfl, -, -⟩
        · cases outcome : x.outcome <;> simp [outcome, Outcome.isLost,
            Outcome.isFailed] at lost failed
        · exact .inl (timely.notified_of_mem List.mem_cons_self)

theorem requests_eq {w : WithdrawalWorld} (other : ∀ r now, op ≠ .markAvailable r now)
    (answered : availabilitySemantics.act i op x w = some (reply, w'))
    : w'.requests = w.requests := by
  rcases act_cases answered with ⟨rfl, -, -⟩ | ⟨rfl, -, -⟩
  · rfl
  · cases op with
    | markAvailable r now => exact (other r now rfl).elim
    | _ => rfl

theorem made_available {w : WithdrawalWorld} {now : Nat} {r row : InvestmentWithdrawalRequest}
    {reply : availabilityInterface.Reply (.markAvailable r now)} (listed : w.Lists r)
    (answered : availabilitySemantics.act i (.markAvailable r now) x w = some (reply, w'))
    (before : ∀ row, w.requests.lookup id = some row → row.status ≠ .available)
    (found : w'.requests.lookup id = some row) (available : row.status = .available)
    (owned : row.hasOwner = true)
    : id = r.id ∧ r.hasOwner = true ∧ (w.requests.lookup r.id).any (·.isReady now) = true
      ∧ (reply = .ok 1 ∨ x.outcome.isLost = true ∧ ∃ error, reply = .error error) := by
  rcases act_cases answered with ⟨rfl, -, -⟩ | ⟨rfl, -, replied⟩
  · exact (before row found available).elim
  rcases WithdrawalWorld.markAvailable_cases (w := { w with clock := x.time }) r.id now with
    same | ⟨row', found', ready, made⟩
  · simp only [withdrawalEffect, same] at found
    exact (before row found available).elim
  · simp only [withdrawalEffect, made] at found replied
    by_cases same : id = r.id
    · subst same
      obtain rfl := Option.some.inj ((AList.lookup_insert _).symm.trans found)
      obtain ⟨listedRow, foundRow, same⟩ := listed
      obtain rfl := Option.some.inj (foundRow.symm.trans found')
      refine ⟨rfl, same.hasOwner_eq ▸ owned, ?_, replied⟩
      rw [foundRow]
      exact ready
    · rw [AList.lookup_insert_ne same] at found
      exact (before row found available).elim

theorem NoticeMove.notifies {phase : NoticePhase} {row : InvestmentWithdrawalRequest}
    (move : NoticeMove phase op reply phase') (sound : phase.Sound c.world)
    (delivers : Delivers c i x) (pending : c.pending? i = some op)
    (answered : availabilitySemantics.act i op x c.world = some (reply, w'))
    (before : ∀ row, c.world.requests.lookup id = some row → row.status ≠ .available)
    (found : w'.requests.lookup id = some row) (available : row.status = .available)
    (owned : row.hasOwner = true)
    : phase'.publishes id = true := by
  have unchanged : (∀ r now, op ≠ .markAvailable r now) → phase'.publishes id = true := by
    intro other
    rw [requests_eq other answered] at found
    exact (before row found available).elim
  cases move with
  | clock | noClock | batch | noBatch | send | noSend =>
      exact unchanged (fun _ _ absurd => nomatch absurd)
  | prepare quiet | noPrepare quiet =>
      rcases quiet with rfl | rfl
      all_goals exact unchanged (fun _ _ absurd => nomatch absurd)
  | mark member =>
      obtain ⟨rfl, owner, -, same | ⟨-, _, absurd⟩⟩ :=
        made_available (sound.2 _ member) answered before found available owned
      · obtain rfl := Except.ok.inj same
        simp [NoticePhase.marked, owner, NoticePhase.publishes]
      · cases absurd
  | noMark member =>
      obtain ⟨rfl, owner, ready, absurd | ⟨lost, -⟩⟩ :=
        made_available (sound.2 _ member) answered before found available owned
      · cases absurd
      · have kept := (Bool.or_eq_false_iff.mp delivers).1
        simp [losesUpdate, pending, lost, owner, ready] at kept

theorem Announced.step {c' : AvailabilityConfig} (h : Announced c) (available : Available c)
    (governed : Noticed c) (delivers : Delivers c i x)
    (stepped : c.step availabilitySemantics i x = some c')
    : Announced c' := by
  obtain ⟨op, reply, -, pending, answered, moved, -, others, -⟩ := governed.step_cases stepped
  have move := move_cases moved
  have grows := (move.world (available.sound i) available.timely answered).1
  intro id row' found' status owned
  by_cases before : ∃ row, c.world.requests.lookup id = some row ∧ row.status = .available
  · obtain ⟨row, found, was⟩ := before
    obtain ⟨_, same, -, kept⟩ := grows.rows id row found
    obtain rfl := Option.some.inj (found'.symm.trans same)
    obtain rfl := kept was
    rcases h id row' found was owned with notified | ⟨j, publishes⟩
    · exact .inl (notified.grow grows)
    · by_cases same : j = i
      · subst same
        exact (move.publishes rfl available delivers pending answered publishes).imp_right
          fun goesOn => ⟨j, goesOn⟩
      · exact .inr ⟨j, (congrArg (·.publishes id) (others j same).1).trans publishes⟩
  · refine .inr ⟨i, move.notifies (available.sound i) delivers pending answered ?_ found' status
      owned⟩
    exact fun row found was => before ⟨row, found, was⟩

end

-- Availability and notification

section

variable {runs clock : Nat} {requests : List InvestmentWithdrawalRequest}

theorem noticed_start : Noticed (availabilityRuns runs clock requests) :=
  Protocol.governs_initial fun _ prog found => by
    obtain rfl := List.eq_of_mem_replicate (List.mem_of_getElem? found)
    exact process_wp

theorem mem_of_lookup_requestTable {id : String} {row : InvestmentWithdrawalRequest}
    (found : (requestTable requests).lookup id = some row)
    : row ∈ requests ∧ row.id = id := by
  rw [requestTable, AList.lookup_to_alist] at found
  obtain ⟨r, member, same⟩ := List.mem_map.mp (List.of_mem_dlookup found)
  cases same
  exact ⟨member, rfl⟩

theorem available_start : Available (availabilityRuns runs clock requests) where
  timely := {
    keyed := fun _ _ found => (mem_of_lookup_requestTable found).2
    transitions := fun _ _ absurd => nomatch absurd
    once := List.nodup_nil
    published := fun _ _ absurd => nomatch absurd
  }
  sound i := by
    rw [availabilityRuns, Protocol.phase_initial]
    trivial

theorem announced_reached {c : AvailabilityConfig}
    (unavailable : ∀ r ∈ requests, r.hasOwner = true → r.status ≠ .available)
    (reached : Config.Reaches availabilitySemantics Delivers
      (availabilityRuns runs clock requests) c)
    : Noticed c ∧ Available c ∧ Announced c := by
  refine noticed_start.invariant (J := fun c => Available c ∧ Announced c)
    ⟨available_start, ?_⟩ ?_ reached
  · intro id row found available owned
    exact (unavailable row (mem_of_lookup_requestTable found).1 owned available).elim
  · intro c c' i x governed held delivers stepped
    exact ⟨held.1.step governed stepped, held.2.step held.1 governed delivers stepped⟩

theorem Available.grows {c c' : AvailabilityConfig}
    {ok : AvailabilityConfig → Nat → WithdrawalChoice → Prop}
    (h : Available c) (governed : Noticed c) (reached
      : Config.Reaches availabilitySemantics ok c c')
    : c.world.Grows c'.world := by
  refine (governed.invariant (J := fun c' => Available c' ∧ c.world.Grows c'.world)
    ⟨h, .of_requests le_rfl rfl fun _ sent => sent⟩ ?_ reached).2.2
  rintro c₁ c₂ i x governed ⟨available, grown⟩ - stepped
  obtain ⟨op, reply, -, -, answered, moved, -⟩ := governed.step_cases stepped
  have grows := ((move_cases moved).world (available.sound i) available.timely answered).1
  exact ⟨available.step governed stepped, grown.trans grows⟩

theorem healthy_answers (c : AvailabilityConfig) (i : Nat) (op : WithdrawalOp)
    : ∃ x, Healthy c i x ∧ (availabilitySemantics.act i op x c.world).isSome = true := by
  cases op with
  | findReady trustedNow limit =>
      refine ⟨{ time := c.world.clock, order := c.world.readyIds trustedNow }, rfl, ?_⟩
      simp [availabilitySemantics, Environment.semantics, availabilityEnvironment, List.isPerm_iff]
  | _ =>
      refine ⟨{ time := c.world.clock }, rfl, ?_⟩
      simp [availabilitySemantics, Environment.semantics, availabilityEnvironment]

end

/-- Healthy dependencies get all runs to their ends, by when a notification is published. -/
def NotifiedLater (c : AvailabilityConfig) (id : String) : Prop :=
  (∃ c', Config.Reaches availabilitySemantics Healthy c c' ∧ Ended c')
  ∧ ∀ c', Config.Reaches availabilitySemantics Healthy c c' → Ended c' → c'.world.Notified id

/-- Where no request with an owner is available at the start, and no update and no notification is
lost, a request becomes available once at most and not before its time, and the notification of
every request with an owner that is available is published.
-/
theorem withdrawals_notified_when {runs clock : Nat} {requests : List InvestmentWithdrawalRequest}
    {c : AvailabilityConfig}
    (unavailable : ∀ r ∈ requests, r.hasOwner = true → r.status ≠ .available)
    (reached : Config.Reaches availabilitySemantics Delivers
      (availabilityRuns runs clock requests) c)
    : (∀ id time, (id, time) ∈ c.world.transitions →
        ∃ row, c.world.requests.lookup id = some row ∧ row.availableAt ≤ time)
      ∧ (c.world.transitions.map Prod.fst).Nodup
      ∧ ∀ id row, c.world.requests.lookup id = some row → row.status = .available →
          row.hasOwner = true → NotifiedLater c id := by
  obtain ⟨governed, available, -⟩ := announced_reached unavailable reached
  refine ⟨fun id time made => ?_, available.timely.once, fun id row found status owned => ⟨?_, ?_⟩⟩
  · obtain ⟨row, found, -, notEarly⟩ := available.timely.transitions id time made
    exact ⟨row, found, notEarly⟩
  · obtain ⟨c', later, ended⟩ := governed.exists_settled fun c i _ op _ => healthy_answers c i op
    exact ⟨c', later, fun i _ => ended i⟩
  · intro c' later ended
    have delivered := later.mono fun _ _ _ healthy => Healthy.delivers healthy
    obtain ⟨governed', -, announced⟩ := announced_reached unavailable (reached.trans delivered)
    obtain ⟨row', found', same, kept⟩ := (available.grows governed later).rows id row found
    obtain rfl := kept status
    rcases announced id row' found' status owned with notified | ⟨i, publishes⟩
    · exact notified
    · rw [ended.not_publishing governed'] at publishes
      cases publishes

/-- A request whose delay is over. -/
def dueRequest : InvestmentWithdrawalRequest where
  id := "r"
  userId := some "u"
  organizationId := none
  amountAcbu := 5
  status := .requested
  availableAt := 1

def brokerDown : WithdrawalChoice :=
  { outcome := .failed (.error "no channel"), time := 2 }

/-- The request is made available, and no channel is there for its notification. -/
def unannounced : List (Nat × WithdrawalChoice) :=
  [(0, { time := 2 }), (0, { time := 2, order := ["r"] }), (0, { time := 2 }), (0, brokerDown),
    (0, brokerDown), (0, brokerDown)]

/-- A run in which one attempt fails notifies the owner of the request. -/
theorem withdrawals_notified_when_retried
    : ∃ c id row, c.world.requests.lookup id = some row ∧ row.status = .available
        ∧ row.hasOwner = true ∧ NotifiedLater c id := by
  have executed : ((availabilityRuns 2 1 [dueRequest]).run availabilitySemantics Delivers
      (unannounced.take 4)).map (fun c => c.world.requests.lookup "r")
        = some (some (dueRequest.madeAvailable 2)) := by
    decide +kernel
  obtain ⟨c, reached, found⟩ := Config.reaches_of_run executed
  refine ⟨c, "r", _, found, rfl, by decide, ?_⟩
  exact (withdrawals_notified_when (by decide) reached).2.2 "r" _ found rfl (by decide)

/-- The owner of a request is not notified after three attempts, nor by the next run. -/
theorem withdrawal_unannounced
    : ∃ c id row, Config.Reaches availabilitySemantics Config.anyStep
          (availabilityRuns 2 1 [dueRequest]) c
        ∧ c.world.requests.lookup id = some row ∧ row.status = .available ∧ row.hasOwner = true
        ∧ ¬ c.world.Notified id ∧ ¬ NotifiedLater c id := by
  have executed : ((availabilityRuns 2 1 [dueRequest]).run availabilitySemantics Config.anyStep
      unannounced).map (fun c => (c.world.requests.lookup "r", c.world.published.length,
        (c.run availabilitySemantics Healthy [(1, { time := 3 }), (1, { time := 3 })]).map
          (fun c => (c.world.published.length, decide (Ended c)))))
        = some (some (dueRequest.madeAvailable 2), 0, some (0, true)) := by
    decide +kernel
  obtain ⟨c, reached, observed⟩ := Config.reaches_of_run executed
  obtain ⟨found, unpublished, later⟩ := by simpa only [Prod.mk.injEq] using observed
  obtain ⟨c', healthy, observed⟩ := Config.reaches_of_run later
  obtain ⟨silent, ended⟩ := by simpa only [Prod.mk.injEq, decide_eq_true_eq] using observed
  have quiet : ∀ c : AvailabilityConfig, c.world.published.length = 0 → ¬ c.world.Notified "r" := by
    rintro c empty ⟨_, _, -, sent, -⟩
    rw [List.length_eq_zero_iff.mp empty] at sent
    cases sent
  exact ⟨c, "r", _, reached, found, rfl, by decide, quiet c unpublished,
    fun delivered => quiet c' silent (delivered.2 c' healthy ended)⟩

end AcbuBackend.Investment
