import AcbuBackend.Investment.AllocationService

/-! The deployed notional of a strategy under interleaved allocations and releases, against the
calls that were committed, applied one after the other.
-/

namespace AcbuBackend.Investment

open Effects AcbuBackend.Runtime

-- Stages of a call

/-- How far a call has come. `failing` is still to be rolled back; whether an `uncertain` one was
committed is not known to its caller.
-/
inductive AllocationStage
  | waiting
  | opened
  | holds (row : Strategy)
  | failing
  | wrote (row : Strategy)
  | committed
  | uncertain
  | ended
deriving DecidableEq

namespace AllocationStage

/-- After the row was looked up. -/
def afterRead : Except AllocationError (Option Strategy) → AllocationStage
  | .ok (some row) => .holds row
  | _ => .failing

def next (decimal : DecimalClass) (call : Option AllocationCall) (stage : AllocationStage)
    : (op : AllocationOp) → allocationInterface.Reply op → Option AllocationStage
  | .begin, reply =>
      if stage = .waiting then some (if reply.isOk then .opened else .ended) else none
  | .findUnique id, reply =>
      if stage = .opened ∧ call.map (·.strategyId) = some id then some (afterRead reply) else none
  | .update id deployed, reply =>
      match call, stage with
      | some call, .holds row =>
          if call.strategyId = id ∧ (call.newDeployed decimal row).toOption = some deployed
          then some (if reply.isOk then .wrote row else .failing)
          else none
      | _, _ => none
  | .commit, reply =>
      match stage with
      | .wrote _ => some (if reply.isOk then .committed else .uncertain)
      | _ => none
  | .rollback, _ =>
      match stage with
      | .holds _ | .failing => some .ended
      | _ => none
  | .getReserveStatus, _ | .aggregate _, _ => none

variable {decimal : DecimalClass} {call : Option AllocationCall} {stage stage' : AllocationStage}

theorem not_ended {op : AllocationOp} {reply : allocationInterface.Reply op}
    (h : stage.next decimal call op reply = some stage')
    : ¬ (stage = .committed ∨ stage = .uncertain) := by
  rintro (rfl | rfl) <;> cases op <;> cases call <;> cases h

theorem next_begin {reply : Except AllocationError Unit}
    (h : stage.next decimal call .begin reply = some stage')
    : stage' = .opened ∨ stage' = .ended := by
  have h : (if stage = .waiting then some (if reply.isOk then .opened else .ended) else none)
      = some stage' := h
  rw [Option.ite_none_right_eq_some] at h
  rw [← Option.some.inj h.2]
  cases reply with
  | ok _ => exact .inl rfl
  | error _ => exact .inr rfl

theorem next_findUnique {id : StrategyId} {reply : Except AllocationError (Option Strategy)}
    (h : stage.next decimal call (.findUnique id) reply = some stage')
    : call.map (·.strategyId) = some id ∧ stage' = afterRead reply := by
  have h : (if stage = .opened ∧ call.map (·.strategyId) = some id then some (afterRead reply)
      else none) = some stage' := h
  rw [Option.ite_none_right_eq_some] at h
  exact ⟨h.1.2, (Option.some.inj h.2).symm⟩

theorem next_update {id : StrategyId} {deployed : ℚ} {reply : Except AllocationError Unit}
    (h : stage.next decimal call (.update id deployed) reply = some stage')
    : ∃ caller found,
        call = some caller ∧ caller.strategyId = id
        ∧ stage = .holds found ∧ caller.newDeployed decimal found = .ok deployed
        ∧ stage' = (if reply.isOk then .wrote found else .failing) := by
  cases call with
  | none => cases h
  | some caller =>
      cases stage with
      | holds found =>
          have h : (if caller.strategyId = id
              ∧ (caller.newDeployed decimal found).toOption = some deployed then
              some (if reply.isOk then .wrote found else .failing) else none) = some stage' := h
          rw [Option.ite_none_right_eq_some] at h
          obtain ⟨⟨target, computed⟩, same⟩ := h
          refine ⟨caller, found, rfl, target, rfl, ?_, (Option.some.inj same).symm⟩
          cases written : caller.newDeployed decimal found with
          | error _ =>
              rw [written] at computed
              cases computed
          | ok _ =>
              rw [written] at computed
              rw [Option.some.inj computed]
      | _ => cases h

theorem next_commit {reply : Except AllocationError Unit}
    (h : stage.next decimal call .commit reply = some stage')
    : ∃ found, stage = .wrote found ∧ stage' = (if reply.isOk then .committed else .uncertain) := by
  cases stage with
  | wrote found => exact ⟨found, rfl, (Option.some.inj h).symm⟩
  | _ => cases h

theorem next_rollback {reply : Except AllocationError Unit}
    (h : stage.next decimal call .rollback reply = some stage')
    : stage' = .ended := by
  cases stage with
  | holds _ | failing => exact (Option.some.inj h).symm
  | _ => cases h

end AllocationStage

/-- A call and its stage. -/
structure AllocationPhase where
  call : Option AllocationCall
  stage : AllocationStage

def allocationProtocol (decimal : DecimalClass) : Protocol allocationInterface AllocationPhase where
  next phase op reply :=
    (phase.stage.next decimal phase.call op reply).map (fun stage => { phase with stage })

theorem allocation_wp {decimal : DecimalClass} {call : AllocationCall}
    : (allocationProtocol decimal).wp (call.prog decimal) ⟨some call, .waiting⟩
        (fun _ phase => phase.stage = .committed) (fun _ phase => phase.stage ≠ .committed) := by
  rw [AllocationCall.prog_eq, Protocol.wp_bind, Protocol.wp_fromExcept]
  refine ⟨fun amount parsed => ?_, fun _ _ => nofun⟩
  have writes : ∀ row deployed, call.notional amount row = .ok deployed →
      (call.newDeployed decimal row).toOption = some deployed := by
    intro row deployed computed
    simp [AllocationCall.newDeployed, parsed, Except.bind, computed, Except.toOption]
  simp only [transaction, Protocol.wp_bind, Protocol.wp_catchWith, Protocol.wp_await,
    Protocol.wp_fromExcept, Protocol.wp_orThrow]
  simp only [allocationProtocol, AllocationStage.next, AllocationStage.afterRead, Except.isOk,
    Except.toBool, Option.map_eq_some_iff, Option.map_some, Option.map_if, Option.some.injEq,
    Option.ite_none_right_eq_some, exists_exists_and_eq_and, exists_eq_right, exists_eq_left',
    existsAndEq, forall_const, implies_true, and_true, true_and, and_self, reduceIte,
    Bool.false_eq_true, ne_eq, reduceCtorEq, not_false_eq_true, Protocol.wp_fail]
  rintro (_ | row)
  · simp
  · simp +contextual [writes]

-- The committed calls, one after the other

abbrev AllocationConfig := Config allocationInterface Unit World

/-- The calls before their first step. -/
def allocationCalls (decimal : DecimalClass) (calls : List AllocationCall) (w : World)
    : AllocationConfig :=
  .initial w (calls.map (·.prog decimal))

def applyOn (decimal : DecimalClass) (id : StrategyId) (row : Strategy)
    : Option AllocationCall → Except AllocationError Strategy
  | some call => if call.strategyId = id then call.apply decimal row else .ok row
  | none => .ok row

/-- A strategy after the calls on it, applied one after the other, the last of them first in the
list.
-/
def applied (decimal : DecimalClass) (calls : List AllocationCall) (id : StrategyId)
    (row : Strategy)
    : List Nat → Except AllocationError Strategy
  | [] => .ok row
  | i :: earlier =>
      (applied decimal calls id row earlier).bind (fun row => applyOn decimal id row calls[i]?)

def readBy : List (Event allocationInterface) → Option Strategy
  | [] => none
  | ⟨.findUnique _, .ok (some row)⟩ :: _ => some row
  | _ :: older => readBy older

/-- The row a caller is about to write. -/
def updates? : Option AllocationOp → Option StrategyId
  | some (.update id _) => some id
  | _ => none

/-- A call about to write to the strategy finds the notional it has read. -/
def Undisturbed (id : StrategyId) (c : AllocationConfig) (i : Nat) (_ : AllocationChoice) : Prop :=
  updates? (c.pending? i) = some id →
    (c.world.strategies.lookup id).map Strategy.deployedNotionalUsd
      = (readBy (c.past i)).map Strategy.deployedNotionalUsd

/-- The strategy is as the committed calls leave it, applied in the order of their commits, and
within its limit. Exactly the calls that returned were committed, except that a caller may have
been told of an error by its commit.
-/
structure SerialLedger (decimal : DecimalClass) (calls : List AllocationCall) (id : StrategyId)
    (row : Strategy) (c : AllocationConfig)
    : Prop where
  deployed : ∃ last, applied decimal calls id row c.world.committed = .ok last
    ∧ c.world.strategies.lookup id = some last
    ∧ last.policyLimitUsd = row.policyLimitUsd
    ∧ last.deployedNotionalUsd.value ≤ row.policyLimitUsd.value
  once : c.world.committed.Nodup
  successful : ∀ i, c.value? i = some () → i ∈ c.world.committed
  only_successful : ∀ i ∈ c.world.committed,
    c.value? i = some () ∨ ∃ error, ⟨.commit, .error error⟩ ∈ c.past i

-- The ledger

section

variable {decimal : DecimalClass} {calls : List AllocationCall} {id : StrategyId}
    {row last : Strategy}
  {w w' : World} {i : Nat} {stage stage' : Nat → AllocationStage}

theorem releasedNotional_le {amount : ℚ} (positive : 0 < amount)
    : releasedNotional amount row ≤ row.deployedNotionalUsd.value :=
  max_le Cents.value_nonneg (by linarith)

theorem AllocationCall.positive_of_amount {call : AllocationCall} {amount : ℚ}
    (h : call.amount decimal = .ok amount)
    : 0 < amount := by
  cases call <;> exact (positiveAmountUsd_eq_ok h).2

theorem AllocationCall.newDeployed_le {call : AllocationCall} {deployed : ℚ}
    (h : call.newDeployed decimal row = .ok deployed)
    (within : row.deployedNotionalUsd.value ≤ row.policyLimitUsd.value)
    : deployed ≤ row.policyLimitUsd.value := by
  unfold newDeployed at h
  cases parsed : call.amount decimal with
  | error _ =>
      rw [parsed] at h
      cases h
  | ok amount =>
      rw [parsed] at h
      cases call with
      | allocate _ _ => exact (allocatedNotional_eq_ok h).2
      | deallocate _ _ =>
          obtain rfl := Except.ok.inj h
          exact (releasedNotional_le (positive_of_amount parsed)).trans within

theorem AllocationCall.apply_within {call : AllocationCall} (h : call.apply decimal row = .ok last)
    (within : row.deployedNotionalUsd.value ≤ row.policyLimitUsd.value)
    : last.policyLimitUsd = row.policyLimitUsd
      ∧ last.deployedNotionalUsd.value ≤ row.policyLimitUsd.value := by
  unfold apply at h
  cases computed : call.newDeployed decimal row with
  | error _ =>
      rw [computed] at h
      cases h
  | ok deployed =>
      rw [computed] at h
      obtain rfl := Except.ok.inj h
      exact ⟨rfl, Cents.value_ofDecimal_le (newDeployed_le computed within)⟩

theorem applyOn_within {call : Option AllocationCall} (h : applyOn decimal id row call = .ok last)
    (within : row.deployedNotionalUsd.value ≤ row.policyLimitUsd.value)
    : last.policyLimitUsd = row.policyLimitUsd
      ∧ last.deployedNotionalUsd.value ≤ row.policyLimitUsd.value := by
  unfold applyOn at h
  split at h
  · split at h
    · exact AllocationCall.apply_within h within
    · rw [← Except.ok.inj h]
      exact ⟨rfl, within⟩
  · rw [← Except.ok.inj h]
    exact ⟨rfl, within⟩

theorem applied_within {order : List Nat} (h : applied decimal calls id row order = .ok last)
    (within : row.deployedNotionalUsd.value ≤ row.policyLimitUsd.value)
    : last.policyLimitUsd = row.policyLimitUsd
      ∧ last.deployedNotionalUsd.value ≤ row.policyLimitUsd.value := by
  induction order generalizing last with
  | nil =>
      obtain rfl := Except.ok.inj h
      exact ⟨rfl, within⟩
  | cons i earlier ih =>
      rw [applied] at h
      cases before : applied decimal calls id row earlier with
      | error _ =>
          rw [before] at h
          cases h
      | ok middle =>
          rw [before] at h
          obtain ⟨limit, within⟩ := ih before
          obtain ⟨limit', within'⟩ := applyOn_within h (limit ▸ within)
          exact ⟨limit'.trans limit, limit ▸ within'⟩

/-- Caller `i` works on the strategy. -/
def WorksOn (calls : List AllocationCall) (id : StrategyId) (i : Nat) (call : AllocationCall)
    : Prop :=
  calls[i]? = some call ∧ call.strategyId = id

/-- The committed calls account for the strategy. A call that has written the strategy has locked
it, found it as it is, and will leave it as if applied alone.
-/
structure Ledger (decimal : DecimalClass) (calls : List AllocationCall) (id : StrategyId)
    (row : Strategy)
    (stage : Nat → AllocationStage) (w : World)
    : Prop where
  current : ∃ last, applied decimal calls id row w.committed = .ok last
    ∧ w.strategies.lookup id = some last ∧ ∃ amount, last = row.withAmount amount
  once : w.committed.Nodup
  ended : ∀ i ∈ w.committed, stage i = .committed ∨ stage i = .uncertain
  counted : ∀ i, stage i = .committed → i ∈ w.committed
  wrote : ∀ i call found, WorksOn calls id i call → stage i = .wrote found →
    w.strategies.lookup id = some found
      ∧ ∃ amount, w.writing id = some (i, amount)
        ∧ call.apply decimal found = .ok (found.withAmount (some amount))
  writers : ∀ i amount, w.writing id = some (i, amount) → ∃ call, WorksOn calls id i call

namespace Ledger

theorem other_of_mem {j : Nat} (running : i ∉ w.committed) (member : j ∈ w.committed) : j ≠ i :=
  fun same => running (same ▸ member)

theorem moved (h : Ledger decimal calls id row stage w) (others : ∀ j, j ≠ i → stage' j = stage j)
    (running : i ∉ w.committed) (uncounted : stage' i ≠ .committed)
    (unwritten : ∀ found, stage' i ≠ .wrote found)
    : Ledger decimal calls id row stage' w := by
  refine ⟨h.current, h.once, fun j member => ?_, fun j counted => ?_,
    fun j call found works wrote => ?_, h.writers⟩
  · rw [others j (other_of_mem running member)]
    exact h.ended j member
  · by_cases same : j = i
    · exact absurd (same ▸ counted) uncounted
    · exact h.counted j (others j same ▸ counted)
  · by_cases same : j = i
    · exact absurd (same ▸ wrote) (unwritten found)
    · exact h.wrote j call found works (others j same ▸ wrote)

theorem released (h : Ledger decimal calls id row stage w)
    (others : ∀ j, j ≠ i → stage' j = stage j)
    (running : i ∉ w.committed) (uncounted : stage' i ≠ .committed)
    (unwritten : ∀ found, stage' i ≠ .wrote found)
    : Ledger decimal calls id row stage' (w.released i) := by
  have moved := h.moved others running uncounted unwritten
  refine ⟨moved.current, moved.once, moved.ended, moved.counted, fun j call found works wrote => ?_,
    fun j amount writing => ?_⟩
  · obtain ⟨stored, amount, writing, applied⟩ := moved.wrote j call found works wrote
    have other : j ≠ i := fun same => unwritten found (same ▸ wrote)
    exact ⟨stored, amount, by simp [World.released, writing, other], applied⟩
  · exact moved.writers j amount (Option.filter_eq_some_iff.mp writing).1

theorem written {call : AllocationCall} {other : StrategyId} {found : Strategy} {deployed : ℚ}
    (h : Ledger decimal calls id row stage w) (others : ∀ j, j ≠ i → stage' j = stage j)
    (running : i ∉ w.committed) (self : calls[i]? = some call) (target : call.strategyId = other)
    (free : w.lockedFor i other = false) (computed : call.newDeployed decimal found = .ok deployed)
    (same : other = id → w.strategies.lookup id = some found)
    (next : stage' i = .wrote found ∨ stage' i = .failing)
    : Ledger decimal calls id row stage' { w with
        writing := fun any => if any = other then some
          (i, .ofDecimal deployed) else w.writing any } := by
  have uncounted : stage' i ≠ .committed := by
    rcases next with next | next <;> simp [next]
  refine ⟨h.current, h.once, fun j member => ?_, fun j counted => ?_,
    fun j call' found' works wrote => ?_, fun j amount writing => ?_⟩
  · rw [others j (other_of_mem running member)]
    exact h.ended j member
  · by_cases this : j = i
    · exact absurd (this ▸ counted) uncounted
    · exact h.counted j (others j this ▸ counted)
  · by_cases this : j = i
    · subst this
      obtain ⟨self', target'⟩ := works
      obtain rfl := Option.some.inj (self.symm.trans self')
      obtain rfl := target.symm.trans target'
      rcases next with next | next
      · obtain rfl := AllocationStage.wrote.inj (next.symm.trans wrote)
        exact ⟨same rfl, _, if_pos rfl, by rw [AllocationCall.apply, computed]; rfl⟩
      · rw [next] at wrote
        cases wrote
    · obtain ⟨stored, amount, writing, applied⟩ :=
        h.wrote j call' found' works (others j this ▸ wrote)
      have unlocked : id ≠ other := by
        rintro rfl
        simp [World.lockedFor, writing, this] at free
      exact ⟨stored, amount, (if_neg unlocked).trans writing, applied⟩
  · by_cases this : id = other
    · obtain ⟨rfl, -⟩ := Prod.mk.inj (Option.some.inj ((if_pos this).symm.trans writing))
      exact ⟨call, self, target.trans this.symm⟩
    · exact h.writers j amount ((if_neg this).symm.trans writing)

theorem commit {found : Strategy} (h : Ledger decimal calls id row stage w)
    (others : ∀ j, j ≠ i → stage' j = stage j) (running : i ∉ w.committed)
    (wrote : stage i = .wrote found)
    (next : stage' i = .committed ∨ stage' i = .uncertain)
    : Ledger decimal calls id row stage' (w.commit i) := by
  obtain ⟨last, replayed, stored, amount, fixed⟩ := h.current
  have lookup : (w.commit i).strategies.lookup id = some (last.withAmount (w.writtenBy i id)) := by
    simp [World.commit, stored]
  have unlocked : ∀ j amount, j ≠ i → w.writing id = some (j, amount) →
      w.writtenBy i id = none ∧ (w.commit i).writing id = some (j, amount) := by
    intro j amount other writing
    simp [World.writtenBy, World.commit, World.released, writing, other]
  refine ⟨?_, List.nodup_cons.mpr ⟨running, h.once⟩, fun j member => ?_, fun j counted => ?_,
    fun j call' found' works wrote' => ?_, fun j amount writing => ?_⟩
  · have replay : applied decimal calls id row (w.commit i).committed
        = applyOn decimal id last calls[i]? := by
      rw [show (w.commit i).committed = i :: w.committed from rfl, applied, replayed]
      rfl
    by_cases works : ∃ call, WorksOn calls id i call
    · obtain ⟨call, self, target⟩ := works
      obtain ⟨stored', amount', writing, applied'⟩ := h.wrote i call found ⟨self, target⟩ wrote
      obtain rfl := Option.some.inj (stored.symm.trans stored')
      have mine : w.writtenBy i id = some amount' := by simp [World.writtenBy, writing]
      refine ⟨_, ?_, lookup.trans (by rw [mine]), some amount', by rw [fixed]; rfl⟩
      rw [replay, self, applyOn, if_pos target, applied']
    · have mine : w.writtenBy i id = none := by
        cases writing : w.writing id with
        | none => simp [World.writtenBy, writing]
        | some held =>
            have other : held.1 ≠ i := by
              rintro rfl
              exact works (h.writers held.1 held.2 writing)
            exact (unlocked held.1 held.2 other writing).1
      refine ⟨last, ?_, lookup.trans (by rw [mine]; rfl), amount, fixed⟩
      rw [replay]
      unfold applyOn
      split
      · rename_i call self
        exact if_neg fun target => works ⟨call, self, target⟩
      · rfl
  · rcases List.mem_cons.mp member with rfl | member
    · exact next
    · rw [others j (other_of_mem running member)]
      exact h.ended j member
  · by_cases same : j = i
    · exact List.mem_cons.mpr (.inl same)
    · exact List.mem_cons_of_mem _ (h.counted j (others j same ▸ counted))
  · have other : j ≠ i := by
      rintro rfl
      rcases next with next | next <;> rw [next] at wrote' <;> cases wrote'
    obtain ⟨stored', amount', writing, applied'⟩ :=
      h.wrote j call' found' works (others j other ▸ wrote')
    obtain ⟨mine, writing'⟩ := unlocked j amount' other writing
    obtain rfl := Option.some.inj (stored.symm.trans stored')
    exact ⟨lookup.trans (by rw [mine]; rfl), amount', writing', applied'⟩
  · exact h.writers j amount (Option.filter_eq_some_iff.mp writing).1

end Ledger

-- Steps

/-- The phase of caller `i`. -/
def allocationPhase (decimal : DecimalClass) (calls : List AllocationCall) (c : AllocationConfig)
    (i : Nat)
    : AllocationPhase :=
  (allocationProtocol decimal).phase (fun i => ⟨calls[i]?, .waiting⟩) c i

/-- The calls keep to the protocol. -/
abbrev Governed (decimal : DecimalClass) (calls : List AllocationCall) (c : AllocationConfig)
    : Prop :=
  (allocationProtocol decimal).Governs (fun i => ⟨calls[i]?, .waiting⟩)
    (fun _ _ phase => phase.stage = .committed) (fun _ _ phase => phase.stage ≠ .committed) c

/-- The ledger of a configuration, with what its calls have read. -/
structure Accounted (decimal : DecimalClass) (calls : List AllocationCall) (id : StrategyId)
    (row : Strategy)
    (c : AllocationConfig)
    : Prop where
  calls_eq : ∀ i, (allocationPhase decimal calls c i).call = calls[i]?
  ledger : Ledger decimal calls id row (fun i => (allocationPhase decimal calls c i).stage) c.world
  read : ∀ i found, (allocationPhase decimal calls c i).stage = .holds found →
    readBy (c.past i) = some found
      ∧ ∀ call, WorksOn calls id i call → ∃ amount, found = row.withAmount amount
  told : ∀ i, (allocationPhase decimal calls c i).stage = .uncertain →
    ∃ error, ⟨.commit, .error error⟩ ∈ c.past i

variable {c c' : AllocationConfig} {x : AllocationChoice}

theorem governed_allocationCalls : Governed decimal calls (allocationCalls decimal calls w) := by
  refine Protocol.governs_initial fun i prog found => ?_
  rw [List.getElem?_map] at found
  obtain ⟨call, member, rfl⟩ := Option.map_eq_some_iff.mp found
  rw [member]
  exact allocation_wp

theorem act_update_cases {other : StrategyId} {deployed : ℚ} {reply : Except AllocationError Unit}
    (h : allocationSemantics.act i (.update other deployed) x w = some (reply, w'))
    : reply.isOk = false ∧ w' = w
      ∨ w.lockedFor i other = false ∧ w' = { w with
          writing := fun any => if any = other then some
            (i, .ofDecimal deployed) else w.writing any } := by
  obtain ⟨free, answer⟩ := allocationAct_eq_some h
  change x.outcome.answer (allocationEffect i x w (.update other deployed)) w
    = (reply, w') at answer
  have free : w.lockedFor i other = false ∨ x.outcome.isFailed = true := free
  by_cases there : (w.strategies.lookup other).isSome
  · rw [allocationEffect, if_pos there] at answer
    rcases Outcome.answer_cases answer with ⟨failed, world⟩ | ⟨succeeded, world⟩
    · refine .inl ⟨?_, world⟩
      cases reply with
      | error _ => rfl
      | ok _ =>
          rw [(Outcome.answer_ok answer).1] at failed
          cases failed
    · exact .inr ⟨free.resolve_right (by simp [succeeded]), world⟩
  · rw [allocationEffect, if_neg there] at answer
    refine .inl ⟨?_, ?_⟩
    · cases reply with
      | error _ => rfl
      | ok _ => cases (Prod.mk.inj (Outcome.answer_ok answer).2).1
    · rcases Outcome.answer_world answer with world | world <;> exact world

theorem Accounted.found {found : Strategy} {call : AllocationCall}
    (h : Accounted decimal calls id row c) (undisturbed : Undisturbed id c i x)
    (asks : updates? (c.pending? i) = some id) (works : WorksOn calls id i call)
    (holds : (allocationPhase decimal calls c i).stage = .holds found)
    : c.world.strategies.lookup id = some found := by
  obtain ⟨read, fixed⟩ := h.read i found holds
  obtain ⟨last, -, stored, amount, rfl⟩ := h.ledger.current
  obtain ⟨amount', rfl⟩ := fixed call works
  have same := undisturbed asks
  rw [stored, read] at same
  have same : (row.withAmount amount).deployedNotionalUsd
    = (row.withAmount amount').deployedNotionalUsd :=
    Option.some.inj same
  rw [stored]
  simp only [Strategy.withAmount] at same ⊢
  rw [same]

theorem Accounted.of_ledger (h : Accounted decimal calls id row c)
    (ledger : Ledger decimal calls id row (fun j => (allocationPhase decimal calls c' j).stage)
      c'.world)
    (call : (allocationPhase decimal calls c' i).call = (allocationPhase decimal calls c i).call)
    (others : ∀ j, j ≠ i → allocationPhase decimal calls c' j = allocationPhase decimal calls c j
      ∧ c'.past j = c.past j)
    (read : ∀ found, (allocationPhase decimal calls c' i).stage = .holds found →
      readBy (c'.past i) = some found
        ∧ ∀ call, WorksOn calls id i call → ∃ amount, found = row.withAmount amount)
    (told : (allocationPhase decimal calls c' i).stage = .uncertain →
      ∃ error, ⟨.commit, .error error⟩ ∈ c'.past i)
    : Accounted decimal calls id row c' := by
  refine ⟨fun j => ?_, ledger, fun j found holds => ?_, fun j uncertain => ?_⟩
  · by_cases same : j = i
    · rw [same, call]
      exact h.calls_eq i
    · rw [(others j same).1]
      exact h.calls_eq j
  · by_cases same : j = i
    · subst same
      exact read found holds
    · obtain ⟨phase, past⟩ := others j same
      rw [phase] at holds
      rw [past]
      exact h.read j found holds
  · by_cases same : j = i
    · subst same
      exact told uncertain
    · obtain ⟨phase, past⟩ := others j same
      rw [phase] at uncertain
      rw [past]
      exact h.told j uncertain

theorem Accounted.step (governed : Governed decimal calls c) (h : Accounted decimal calls id row c)
    (undisturbed : Undisturbed id c i x) (stepped : c.step allocationSemantics i x = some c')
    : Accounted decimal calls id row c' := by
  obtain ⟨op, reply, -, asks, answered, moved, past, others, -⟩ := governed.step_cases stepped
  obtain ⟨-, answer⟩ := allocationAct_eq_some answered
  obtain ⟨stage, next, advanced⟩ := Option.map_eq_some_iff.mp moved
  change (allocationPhase decimal calls c i).stage.next decimal
    (allocationPhase decimal calls c i).call op reply
    = some stage at next
  change _ = allocationPhase decimal calls c' i at advanced
  have others : ∀ j, j ≠ i → allocationPhase decimal calls c' j = allocationPhase decimal calls c j
      ∧ c'.past j = c.past j :=
    fun j different => ⟨(others j different).1, (others j different).2.2⟩
  have stages : ∀ j, j ≠ i →
      (allocationPhase decimal calls c' j).stage = (allocationPhase decimal calls c j).stage :=
    fun j different => by rw [(others j different).1]
  have mine : (allocationPhase decimal calls c' i).stage = stage := by rw [← advanced]
  have same : (allocationPhase decimal calls c' i).call
      = (allocationPhase decimal calls c i).call := by
    rw [← advanced]
    rfl
  have running : i ∉ c.world.committed :=
    fun member => AllocationStage.not_ended next (h.ledger.ended i member)
  -- a stage in which the call knows nothing new
  have silent : Ledger decimal calls id row (fun j => (allocationPhase decimal calls c' j).stage)
    c'.world →
      (∀ found, stage ≠ .holds found) → stage ≠ .uncertain → Accounted decimal calls id row c' := by
    intro ledger notHolds notUncertain
    refine h.of_ledger ledger same others (fun found holds => ?_) (fun uncertain => ?_)
    · exact absurd (mine.symm.trans holds) (notHolds found)
    · exact absurd (mine.symm.trans uncertain) notUncertain
  cases op with
  | begin =>
      have world : c'.world = c.world := by
        rcases Outcome.answer_world answer with world | world <;> exact world
      refine silent (world ▸ h.ledger.moved stages running ?_ ?_) ?_ ?_ <;>
        rcases AllocationStage.next_begin next with quiet | quiet <;> simp [mine, quiet]
  | findUnique other =>
      have world : c'.world = c.world := by
        rcases Outcome.answer_world answer with world | world <;> exact world
      obtain ⟨target, rfl⟩ := AllocationStage.next_findUnique next
      rw [h.calls_eq] at target
      rcases reply with error | (_ | found)
      · refine silent (world ▸ h.ledger.moved stages running ?_ ?_) ?_ ?_ <;>
          simp [mine, AllocationStage.afterRead]
      · refine silent (world ▸ h.ledger.moved stages running ?_ ?_) ?_ ?_ <;>
          simp [mine, AllocationStage.afterRead]
      · have holds : (allocationPhase decimal calls c' i).stage = .holds found := mine
        have ledger : Ledger decimal calls id row (fun j =>
          (allocationPhase decimal calls c' j).stage)
            c'.world :=
          world ▸ h.ledger.moved stages running (by simp [holds]) (by simp [holds])
        refine h.of_ledger ledger same others (fun found' holds' => ?_) (by simp [holds])
        obtain rfl := AllocationStage.holds.inj (holds.symm.trans holds')
        refine ⟨by rw [past]; rfl, fun call works => ?_⟩
        obtain ⟨-, effective⟩ := Outcome.answer_ok answer
        obtain ⟨last, -, stored, amount, rfl⟩ := h.ledger.current
        obtain ⟨self, rfl⟩ := works
        obtain rfl : call.strategyId = other := by simpa [self] using target
        have answered : some ((row.withAmount amount).withAmount
          (c.world.writtenBy i call.strategyId))
            = some found := by
          have value := Except.ok.inj (congrArg Prod.fst effective)
          rwa [stored] at value
        rw [← Option.some.inj answered, Strategy.withAmount_withAmount]
        exact ⟨_, rfl⟩
  | update other deployed =>
      obtain ⟨call, found, self, target, holds, computed, rfl⟩ := AllocationStage.next_update next
      rw [h.calls_eq] at self
      rcases act_update_cases answered with ⟨failed, world⟩ | ⟨unlocked, world⟩
      · refine silent (world ▸ h.ledger.moved stages running ?_ ?_) ?_ ?_ <;> simp [mine, failed]
      · have written : (allocationPhase decimal calls c' i).stage = .wrote found
            ∨ (allocationPhase decimal calls c' i).stage = .failing := by
          rw [mine]
          split <;> simp
        refine silent ?_ (fun _ holds' => ?_) (fun uncertain => ?_)
        · rw [world]
          refine h.ledger.written stages running self target unlocked computed
            (fun same => ?_) written
          exact h.found undisturbed (by rw [asks, same]; rfl) ⟨self, target.trans same⟩ holds
        · rw [mine, holds'] at written
          simp at written
        · rw [mine, uncertain] at written
          simp at written
  | commit =>
      obtain ⟨found, wrote, rfl⟩ := AllocationStage.next_commit next
      rcases reply with error | _
      · have uncertain : (allocationPhase decimal calls c' i).stage = .uncertain := mine
        refine h.of_ledger ?_ same others (by simp [uncertain])
          (fun _ => ⟨error, past ▸ List.mem_cons_self⟩)
        rcases Outcome.answer_world answer with world | world
        · rw [world]
          exact h.ledger.released stages running (by simp [uncertain]) (by simp [uncertain])
        · rw [world]
          exact h.ledger.commit stages running wrote (.inr uncertain)
      · obtain ⟨-, effective⟩ := Outcome.answer_ok answer
        have world : c'.world = c.world.commit i := (congrArg Prod.snd effective).symm
        refine silent ?_ (by simp [Except.isOk, Except.toBool])
          (by simp [Except.isOk, Except.toBool])
        rw [world]
        exact h.ledger.commit stages running wrote (.inl mine)
  | rollback =>
      have world : c'.world = c.world.released i := (congrArg Prod.snd answer).symm
      refine silent (world ▸ h.ledger.released stages running ?_ ?_) ?_ ?_ <;>
        simp [mine, AllocationStage.next_rollback next]
  | getReserveStatus => cases next
  | aggregate _ => cases next

theorem value?_of_committed (governed : Governed decimal calls c)
    (committed : (allocationPhase decimal calls c i).stage = .committed)
    : c.value? i = some () := by
  have bound : i < c.threads.length := by
    by_contra outside
    have start : allocationPhase decimal calls c i = ⟨calls[i]?, .waiting⟩ :=
      Protocol.phase_of_none _ (by simpa using outside)
    rw [start] at committed
    cases committed
  have found : c.threads[i]? = some c.threads[i] := List.getElem?_eq_getElem bound
  have rest := (governed.phase_eq found).2
  change (allocationProtocol decimal).wp _ (allocationPhase decimal calls c i) _ _ at rest
  cases prog : c.threads[i].prog with
  | done value => simp [Config.value?, found, prog, Prog.value?]
  | fail error =>
      rw [prog] at rest
      exact absurd committed rest
  | call op next =>
      rw [prog] at rest
      obtain ⟨_, moved, -⟩ := rest (.error (.validation ""))
      obtain ⟨_, next, -⟩ := Option.map_eq_some_iff.mp moved
      exact absurd (.inl committed) (AllocationStage.not_ended next)

/-- Where each write finds the notional that its call has read, the strategy is as the committed
calls leave it one after the other, and within its limit. This is so of any class of decimals.
-/
theorem serialLedger_of_undisturbed {strategies : AList (fun _ : StrategyId => Strategy)}
    (stored : strategies.lookup id = some row)
    (within : row.deployedNotionalUsd.value ≤ row.policyLimitUsd.value)
    (reached : Config.Reaches allocationSemantics (Undisturbed id)
      (allocationCalls decimal calls { strategies }) c)
    : SerialLedger decimal calls id row c := by
  have start : ∀ i, allocationPhase decimal calls (allocationCalls decimal calls { strategies }) i
      = ⟨calls[i]?, .waiting⟩ := fun i => Protocol.phase_initial _
  have base : Accounted decimal calls id row (allocationCalls decimal calls { strategies }) := by
    refine ⟨fun i => by rw [start], ?_, fun i found holds => ?_, fun i uncertain => ?_⟩
    · exact ⟨⟨row, rfl, stored, none, rfl⟩, List.nodup_nil, nofun,
        fun i counted => by simp [start] at counted, fun i _ _ _ wrote => by simp [start] at wrote,
        nofun⟩
    · simp [start] at holds
    · simp [start] at uncertain
  obtain ⟨governed, accounted⟩ := Protocol.Governs.invariant governed_allocationCalls base
    (fun _ _ _ _ governed h undisturbed stepped => h.step governed undisturbed stepped) reached
  obtain ⟨last, replayed, current, -⟩ := accounted.ledger.current
  obtain ⟨limit, within⟩ := applied_within replayed within
  refine ⟨⟨last, replayed, current, limit, within⟩, accounted.ledger.once, fun i value => ?_,
    fun i member => ?_⟩
  · exact accounted.ledger.counted i (governed.value value)
  · rcases accounted.ledger.ended i member with committed | uncertain
    · exact .inl (value?_of_committed governed committed)
    · exact .inr (accounted.told i uncertain)

theorem live_allocationCalls (rejects : ∀ text, decimal.isDecimal text = false)
    : (allocationCalls decimal calls w).live i = false := by
  simp only [Config.live, allocationCalls, Config.initial, List.getElem?_map]
  cases calls[i]? with
  | none => rfl
  | some call =>
      obtain ⟨error, refused⟩ := @AllocationCall.prog_of_rejects decimal call rejects
      simp [refused, Prog.ended]

end

/-- In every run of allocations and releases, the strategy is as the committed calls leave it one
after the other, and within its limit: `isDecimal` holds of no text, so no call opens its
transaction.
-/
theorem allocations_serialise (decimal : DecimalClass)
    (rejects : ∀ text, decimal.isDecimal text = false) (calls : List AllocationCall)
    (strategies : AList (fun _ : StrategyId => Strategy)) (id : StrategyId) (row : Strategy)
    (stored : strategies.lookup id = some row)
    (within : row.deployedNotionalUsd.value ≤ row.policyLimitUsd.value) (c : AllocationConfig)
    (reached : Config.Reaches allocationSemantics Config.anyStep
      (allocationCalls decimal calls { strategies }) c)
    : SerialLedger decimal calls id row c := by
  rw [reached.eq_of_ended (fun i => live_allocationCalls rejects)]
  exact serialLedger_of_undisturbed stored within .refl

def sampleCalls : List AllocationCall :=
  [.allocate "vault" "60.00", .allocate "vault" "60.00", .deallocate "vault" "20.50"]

/-- Three calls, which are refused for their amounts. -/
theorem allocations_serialise_refused
    : let start := allocationCalls decimalJs sampleCalls { strategies := sampleStrategies }
      start.error? 0 = some (.validation "Allocation amount must be a valid decimal number")
      ∧ start.error? 1 = some (.validation "Allocation amount must be a valid decimal number")
      ∧ start.error? 2 = some (.validation "Deallocation amount must be a valid decimal number")
      ∧ SerialLedger decimalJs sampleCalls "vault" sampleStrategy start :=
  ⟨by decide +kernel, by decide +kernel, by decide +kernel,
    allocations_serialise decimalJs (fun _ => rfl) sampleCalls sampleStrategies "vault"
      sampleStrategy rfl (by decide +kernel) _ .refl⟩

end AcbuBackend.Investment
