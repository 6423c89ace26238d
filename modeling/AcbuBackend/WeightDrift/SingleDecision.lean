import AcbuBackend.Effects.Exclusive
import AcbuBackend.WeightDrift.WeightDriftAuditService

/-! Which decisions on an audit succeed.
The status is read outside the transaction that writes it, and is not looked at again. So a decision
is the only one where it reads the audit as pending while no other call that has done so is under
way.
-/

namespace AcbuBackend.WeightDrift

open Effects Effects.Prog AcbuBackend.Runtime

-- What is claimed

/-- A call on this audit has succeeded. -/
def Succeeded (decisions : List Decision) (auditId : AuditId) (c : AuditConfig) (i : Nat) : Prop :=
  (∃ decision, decisions[i]? = some decision ∧ decision.auditId = auditId)
    ∧ (c.value? i).isSome = true

/-- What a decision with these answers writes: its own notes, the admin who approves, and the time
it has read.
-/
def Decision.Writes (decision : Decision) (past : List (Event auditInterface)) (data : AuditUpdate)
    : Prop :=
  match decision with
  | .approve _ approvedBy approvalNotes =>
      ∃ approvedAt, ⟨.now, .ok approvedAt⟩ ∈ past
        ∧ data = approval approvedBy approvalNotes approvedAt
  | .reject _ _ reason => data = rejection reason

/-- At most one decision on the audit has succeeded, and the audit is as it was but for what that
one wrote.
-/
structure DecidedOnce (decisions : List Decision) (auditId : AuditId) (audit : WeightDriftAudit)
    (c : AuditConfig)
    : Prop where
  single : ∀ i j, Succeeded decisions auditId c i → Succeeded decisions auditId c j → i = j
  stored : ∀ i, Succeeded decisions auditId c i →
    ∃ decision data, decisions[i]? = some decision ∧ decision.Writes (c.past i) data
      ∧ c.world.audits.lookup auditId = some (audit.updated data)

-- The phases of a decision

/-- How far a decision has come. -/
inductive Phase
  | idle (decision : Decision)
  | pending (decision : Decision)
  | writing (auditId : AuditId) (data : AuditUpdate)
  | decided (auditId : AuditId) (data : AuditUpdate)
  | over

def afterRead (decision : Decision) : Except JsError WeightDriftAudit → Phase
  | .ok audit => if audit.row.status = .pending then .pending decision else .over
  | .error _ => .over

/-- The phase of an approval that has read the time. -/
def afterNow (auditId : AuditId) (approvedBy : String) (approvalNotes : Option String)
    : Except JsError ℤ → Phase
  | .ok approvedAt => .writing auditId (approval approvedBy approvalNotes approvedAt)
  | .error _ => .over

/-- The update a decision may begin with, or goes on with. -/
def Phase.mayWrite : Phase → AuditId → AuditUpdate → Bool
  | .pending (.reject auditId _ reason), auditId', data =>
      auditId' = auditId && data = rejection reason
  | .writing auditId written, auditId', data => auditId' = auditId && data = written
  | _, _, _ => false

def auditProtocol : Protocol auditInterface Phase where
  next phase
    | .findUniqueOrThrow auditId, reply =>
        match phase with
        | .idle decision =>
            if auditId = decision.auditId then some (afterRead decision reply) else none
        | _ => none
    | .now, reply =>
        match phase with
        | .pending (.approve auditId approvedBy approvalNotes) =>
            some (afterNow auditId approvedBy approvalNotes reply)
        | _ => none
    | .update auditId data, reply =>
        if phase.mayWrite auditId data then
          some (if Except.isOk reply then .writing auditId data else .over)
        else none
    | .logAudit _, reply =>
        match phase with
        | .writing auditId data => some (if Except.isOk reply then .writing auditId data else .over)
        | _ => none
    | .commit auditId data, reply =>
        match phase with
        | .writing auditId' data' =>
            if auditId = auditId' ∧ data = data' then
              some (if Except.isOk reply then .decided auditId data else .over)
            else none
        | _ => none

/-- A call has read the audit as pending, and has not written it. -/
def Phase.Holds : Phase → AuditId → Prop
  | .pending decision, auditId => decision.auditId = auditId
  | .writing auditId' _, auditId => auditId' = auditId
  | _, _ => False

instance (phase : Phase) (auditId : AuditId) : Decidable (phase.Holds auditId) :=
  match phase with
  | .pending decision => inferInstanceAs (Decidable (decision.auditId = auditId))
  | .writing auditId' _ => inferInstanceAs (Decidable (auditId' = auditId))
  | .idle _ | .decided .. | .over => inferInstanceAs (Decidable False)

/-- A decision on the audit has succeeded. -/
def Phase.Decided : Phase → AuditId → Prop
  | .decided auditId' _, auditId => auditId' = auditId
  | _, _ => False

/-- A decision that ends with a value has succeeded. -/
abbrev Ends (prog : Prog auditInterface WeightDriftReport) (phase : Phase) (auditId : AuditId)
    : Prop :=
  auditProtocol.wp prog phase (fun _ phase' => ∃ data, phase' = .decided auditId data)
    (fun _ _ => True)

variable {auditId : AuditId} {data : AuditUpdate}

theorem ends_writeDecision {phase : Phase} {f : WeightDriftAuditRow → WeightDriftReport}
    (entry : AuditEntry)
    (allowed : phase.mayWrite auditId data = true)
    : Ends (do let updated ← writeDecision auditId data entry; return f updated) phase auditId := by
  unfold writeDecision
  refine Protocol.wp_bind.mpr (Protocol.wp_bind.mpr (Protocol.wp_await.mpr
    ⟨fun _ => ⟨_, if_pos allowed, ?_⟩, fun _ => ⟨_, if_pos allowed, trivial⟩⟩))
  refine Protocol.wp_bind.mpr (Protocol.wp_await.mpr
    ⟨fun _ => ⟨_, rfl, ?_⟩, fun _ => ⟨_, rfl, trivial⟩⟩)
  exact Protocol.wp_bind.mpr (Protocol.wp_await.mpr
    ⟨fun _ => ⟨_, if_pos ⟨rfl, rfl⟩, _, rfl⟩, fun _ => ⟨_, if_pos ⟨rfl, rfl⟩, trivial⟩⟩)

theorem ends_prog (decision : Decision) : Ends decision.prog (.idle decision) decision.auditId := by
  cases decision with
  | approve auditId approvedBy approvalNotes =>
      refine Protocol.wp_bind.mpr (Protocol.wp_await.mpr
        ⟨fun audit => ⟨_, if_pos rfl, ?_⟩, fun _ => ⟨_, if_pos rfl, trivial⟩⟩)
      refine Protocol.wp_bind.mpr (Protocol.wp_ensure.mpr ⟨fun checked => ?_, fun _ => trivial⟩)
      simp only [afterRead, if_pos (of_decide_eq_true checked)]
      refine Protocol.wp_bind.mpr (Protocol.wp_await.mpr
        ⟨fun now => ⟨_, rfl, ?_⟩, fun _ => ⟨_, rfl, trivial⟩⟩)
      exact ends_writeDecision _ (by simp [afterNow, Phase.mayWrite])
  | reject auditId rejectedBy reason =>
      refine Protocol.wp_bind.mpr (Protocol.wp_await.mpr
        ⟨fun audit => ⟨_, if_pos rfl, ?_⟩, fun _ => ⟨_, if_pos rfl, trivial⟩⟩)
      refine Protocol.wp_bind.mpr (Protocol.wp_ensure.mpr ⟨fun checked => ?_, fun _ => trivial⟩)
      simp only [afterRead, if_pos (of_decide_eq_true checked)]
      exact ends_writeDecision _ (by simp [Phase.mayWrite])

-- What a decision writes is its own

/-- A phase is one of this decision, after these answers. -/
def Phase.Of (decision : Decision) (past : List (Event auditInterface)) : Phase → Prop
  | .idle decision' | .pending decision' => decision' = decision
  | .writing auditId data | .decided auditId data =>
      auditId = decision.auditId ∧ data.status ≠ .pending ∧ decision.Writes past data
  | .over => True

theorem Decision.Writes.mono {decision : Decision} {past : List (Event auditInterface)}
    (h : decision.Writes past data) (event : Event auditInterface)
    : decision.Writes (event :: past) data := by
  cases decision with
  | approve auditId approvedBy approvalNotes =>
      obtain ⟨approvedAt, read, same⟩ := h
      exact ⟨approvedAt, List.mem_cons_of_mem _ read, same⟩
  | reject auditId rejectedBy reason => exact h

theorem Phase.Of.mono {decision : Decision} {past : List (Event auditInterface)} {phase : Phase}
    (h : phase.Of decision past) (event : Event auditInterface)
    : phase.Of decision (event :: past) := by
  cases phase with
  | idle | pending => exact h
  | writing | decided => exact ⟨h.1, h.2.1, h.2.2.mono event⟩
  | _ => trivial

theorem Phase.Of.writes {decision : Decision} {past : List (Event auditInterface)} {phase : Phase}
    (h : phase.Of decision past) (allowed : phase.mayWrite auditId data = true)
    : auditId = decision.auditId ∧ data.status ≠ .pending ∧ decision.Writes past data := by
  cases phase with
  | pending decision' =>
      obtain rfl : decision' = decision := h
      cases decision' with
      | approve => cases allowed
      | reject auditId' rejectedBy reason =>
          obtain ⟨same, written⟩ : auditId = auditId' ∧ data = rejection reason := by
            simpa [Phase.mayWrite] using allowed
          exact ⟨same, written ▸ nofun, written⟩
  | writing auditId' written =>
      obtain ⟨same, written⟩ : auditId = auditId' ∧ data = written := by
        simpa [Phase.mayWrite] using allowed
      subst same written
      exact h
  | _ => cases allowed

theorem Phase.Of.next {decision : Decision} {past : List (Event auditInterface)}
    {phase phase' : Phase}
    {op : AuditOp} {reply : auditInterface.Reply op} (h : phase.Of decision past)
    (moved : auditProtocol.next phase op reply = some phase')
    : phase'.Of decision (⟨op, reply⟩ :: past) := by
  cases op with
  | findUniqueOrThrow auditId =>
      cases phase with
      | idle decision' =>
          obtain ⟨-, moved⟩ := Option.ite_none_right_eq_some.mp moved
          obtain rfl := Option.some.inj moved
          unfold afterRead
          split
          · split
            · exact h
            · trivial
          · trivial
      | _ => cases moved
  | now =>
      cases phase with
      | pending decision' =>
          obtain rfl : decision' = decision := h
          cases decision' with
          | reject => cases moved
          | approve auditId approvedBy approvalNotes =>
              obtain rfl := Option.some.inj moved
              cases reply with
              | error => trivial
              | ok approvedAt => exact ⟨rfl, nofun, approvedAt, List.mem_cons_self, rfl⟩
      | _ => cases moved
  | update auditId data =>
      obtain ⟨allowed, moved⟩ := Option.ite_none_right_eq_some.mp moved
      obtain rfl := Option.some.inj moved
      have known := h.writes allowed
      split
      · exact ⟨known.1, known.2.1, known.2.2.mono _⟩
      · trivial
  | logAudit entry =>
      cases phase with
      | writing auditId data =>
          obtain rfl := Option.some.inj moved
          split
          · exact h.mono _
          · trivial
      | _ => cases moved
  | commit auditId data =>
      cases phase with
      | writing auditId' data' =>
          obtain ⟨⟨same, written⟩, after⟩ := Option.ite_none_right_eq_some.mp moved
          subst same written
          obtain rfl := Option.some.inj after
          split
          · exact h.mono _
          · trivial
      | _ => cases moved

theorem phase_of_replay {decision : Decision} {past : List (Event auditInterface)} {phase : Phase}
    (replayed : auditProtocol.replay (.idle decision) past = some phase)
    : phase.Of decision past := by
  induction past generalizing phase with
  | nil =>
      obtain rfl := Option.some.inj replayed
      rfl
  | cons event older ih =>
      obtain ⟨before, history, moved⟩ := Option.bind_eq_some_iff.mp replayed
      exact (ih history).next moved

-- Steps

def startOf (decisions : List Decision) (i : Nat) : Phase :=
  (decisions[i]?).elim .over .idle

abbrev Governed (decisions : List Decision) (c : AuditConfig) : Prop :=
  auditProtocol.Governs (startOf decisions)
    (fun i _ phase => ∃ decision data, decisions[i]? = some decision
      ∧ phase = .decided decision.auditId data)
    (fun _ _ _ => True) c

abbrev phaseOf (decisions : List Decision) (c : AuditConfig) (i : Nat) : Phase :=
  auditProtocol.phase (startOf decisions) c i

/-- A call reads an audit as pending only while no other that has done so is under way. -/
def ReadsAlone (decisions : List Decision) (c : AuditConfig) (i : Nat) (_ : Choice) : Prop :=
  match c.pending? i with
  | some (.findUniqueOrThrow auditId) =>
      (c.world.audits.lookup auditId).any (fun audit => audit.row.status = .pending) = true →
        auditProtocol.Alone (startOf decisions) Phase.Holds c i auditId
  | _ => True

instance (decisions : List Decision) (c : AuditConfig) (i : Nat) (x : Choice)
    : Decidable (ReadsAlone decisions c i x) :=
  match pending : c.pending? i with
  | some (.findUniqueOrThrow auditId) =>
      decidable_of_iff
        ((c.world.audits.lookup auditId).any (fun audit => audit.row.status = .pending) = true →
          auditProtocol.Alone (startOf decisions) Phase.Holds c i auditId)
        (by rw [ReadsAlone, pending])
  | some (.now) | some (.update ..) | some (.logAudit _) | some (.commit ..) | none =>
      isTrue (by rw [ReadsAlone, pending]; trivial)

/-- What a call does to the audits, by its phases. -/
inductive AuditMove (w : World) : AuditOp → World → Phase → Phase → Prop
  | read (decision : Decision) (audit : WeightDriftAudit)
      (found : w.audits.lookup decision.auditId = some audit)
      (pending : audit.row.status = .pending)
      : AuditMove w (.findUniqueOrThrow decision.auditId) w (.idle decision) (.pending decision)
  | kept (op : AuditOp) {w' : World} (phase phase' : Phase) (audits : w'.audits = w.audits)
      (held : ∀ auditId, phase'.Holds auditId → phase.Holds auditId)
      (undecided : ∀ auditId, ¬ phase'.Decided auditId)
      : AuditMove w op w' phase phase'
  | committed (auditId : AuditId) (data : AuditUpdate)
      : AuditMove w (.commit auditId data) (w.commit auditId data) (.writing auditId data)
          (.decided auditId data)
  | unreported (auditId : AuditId) (data : AuditUpdate)
      : AuditMove w (.commit auditId data) (w.commit auditId data) (.writing auditId data) .over

theorem AuditMove.over {w w' : World} {op : AuditOp} {phase : Phase} (audits : w'.audits = w.audits)
    : AuditMove w op w' phase .over :=
  .kept op phase .over audits (fun _ absurd => absurd.elim) fun _ absurd => absurd.elim

section

variable {w w' : World} {phase phase' : Phase} {x : Choice} {i : Nat}

theorem audits_of_act {op : AuditOp} {reply : auditInterface.Reply op}
    (answered : auditSemantics.act i op x w = some (reply, w'))
    (other : ∀ auditId data, op ≠ .commit auditId data)
    : w'.audits = w.audits := by
  obtain ⟨-, answered⟩ := Environment.act_eq_some answered
  rcases Outcome.answer_world answered with same | changed
  · rw [same]
  · cases op with
    | commit auditId data => exact absurd rfl (other auditId data)
    | _ => rw [changed]; rfl

theorem move_findUnique {auditId : AuditId} {reply : Except JsError WeightDriftAudit}
    (moved : auditProtocol.next phase (.findUniqueOrThrow auditId) reply = some phase')
    (answered : auditSemantics.act i (.findUniqueOrThrow auditId) x w = some (reply, w'))
    : AuditMove w (.findUniqueOrThrow auditId) w' phase phase' := by
  have audits := audits_of_act answered (fun _ _ => nofun)
  cases phase with
  | idle decision =>
      obtain ⟨here, after⟩ := Option.ite_none_right_eq_some.mp moved
      subst here
      obtain rfl := Option.some.inj after
      unfold afterRead
      split
      · rename_i audit
        split
        · rename_i pending
          obtain ⟨-, answered⟩ := Environment.act_eq_some answered
          obtain ⟨told, rfl⟩ := Prod.mk.inj (Outcome.answer_ok answered).2
          refine .read decision audit ?_ pending
          cases there : w.audits.lookup decision.auditId with
          | none =>
              rw [there] at told
              cases told
          | some found =>
              rw [there] at told
              rw [Except.ok.inj told]
        · exact .over audits
      · exact .over audits
  | _ => cases moved

theorem move_commit {auditId : AuditId} {data : AuditUpdate} {reply : Except JsError Unit}
    (moved : auditProtocol.next phase (.commit auditId data) reply = some phase')
    (answered : auditSemantics.act i (.commit auditId data) x w = some (reply, w'))
    : AuditMove w (.commit auditId data) w' phase phase' := by
  cases phase with
  | writing auditId' data' =>
      obtain ⟨⟨same, written⟩, after⟩ := Option.ite_none_right_eq_some.mp moved
      subst same written
      obtain rfl := Option.some.inj after
      obtain ⟨-, ⟨left, failed⟩ | ⟨left, -⟩⟩ := Environment.act_cases answered
      · rw [if_neg (Bool.eq_false_iff.mp failed)]
        exact .over (by rw [left])
      · obtain rfl : w' = w.commit auditId data := left
        split
        · exact .committed auditId data
        · exact .unreported auditId data
  | _ => cases moved

theorem audit_move {op : AuditOp} {reply : auditInterface.Reply op}
    (moved : auditProtocol.next phase op reply = some phase')
    (answered : auditSemantics.act i op x w = some (reply, w'))
    : AuditMove w op w' phase phase' := by
  cases op with
  | findUniqueOrThrow auditId => exact move_findUnique moved answered
  | commit auditId data => exact move_commit moved answered
  | now =>
      have audits := audits_of_act answered (fun _ _ => nofun)
      cases phase with
      | pending decision =>
          cases decision with
          | reject => cases moved
          | approve auditId approvedBy approvalNotes =>
              obtain rfl := Option.some.inj moved
              cases reply with
              | error => exact .over audits
              | ok => exact .kept _ _ _ audits (fun _ holds => holds) fun _ absurd => absurd.elim
      | _ => cases moved
  | update auditId data =>
      have audits := audits_of_act answered (fun _ _ => nofun)
      obtain ⟨allowed, moved⟩ := Option.ite_none_right_eq_some.mp moved
      obtain rfl := Option.some.inj moved
      split
      · refine .kept _ _ _ audits (fun other holds => ?_) fun _ absurd => absurd.elim
        obtain rfl : auditId = other := holds
        unfold Phase.mayWrite at allowed
        split at allowed
        · exact (of_decide_eq_true ((Bool.and_eq_true _ _).mp allowed).1).symm
        · exact (of_decide_eq_true ((Bool.and_eq_true _ _).mp allowed).1).symm
        · cases allowed
      · exact .over audits
  | logAudit entry =>
      have audits := audits_of_act answered (fun _ _ => nofun)
      cases phase with
      | writing auditId data =>
          obtain rfl := Option.some.inj moved
          split
          · exact .kept _ _ _ audits (fun _ holds => holds) fun _ absurd => absurd.elim
          · exact .over audits
      | _ => cases moved

theorem lookup_commit (w : World) (auditId other : AuditId) (data : AuditUpdate)
    : (w.commit auditId data).audits.lookup other
      = if other = auditId then (w.audits.lookup other).map
        (·.updated data) else w.audits.lookup other := by
  unfold World.commit
  by_cases same : other = auditId
  · subst same
    rw [if_pos rfl]
    split
    · rename_i audit there
      rw [there, AList.lookup_insert]
      rfl
    · rename_i missing
      rw [missing]
      rfl
  · rw [if_neg same]
    split
    · exact AList.lookup_insert_ne same
    · rfl

end

-- The invariant

variable {decisions : List Decision} {audit : WeightDriftAudit} {c c' : AuditConfig} {i : Nat}
    {x : Choice}

theorem replay_over {past : List (Event auditInterface)} {phase : Phase}
    (replayed : auditProtocol.replay .over past = some phase)
    : phase = .over := by
  induction past generalizing phase with
  | nil => exact (Option.some.inj replayed).symm
  | cons event older ih =>
      obtain ⟨before, history, moved⟩ := Option.bind_eq_some_iff.mp replayed
      obtain rfl := ih history
      obtain ⟨op, reply⟩ := event
      cases op <;> cases moved

theorem phaseOf_cases (governed : Governed decisions c)
    : phaseOf decisions c i = .over
      ∨ ∃ decision, decisions[i]? = some decision
        ∧ (phaseOf decisions c i).Of decision (c.past i) := by
  cases found : c.threads[i]? with
  | none =>
      rw [phaseOf, Protocol.phase_of_none _ found, startOf]
      cases decisions[i]? with
      | none => exact .inl rfl
      | some decision => exact .inr ⟨decision, rfl, rfl⟩
  | some thread =>
      have replayed := (governed.phase_eq found).1
      have same : c.past i = thread.past := by simp [Config.past, found]
      rw [startOf] at replayed
      cases there : decisions[i]? with
      | none =>
          rw [there] at replayed
          exact .inl (replay_over replayed)
      | some decision =>
          rw [there] at replayed
          exact .inr ⟨decision, rfl, same ▸ phase_of_replay replayed⟩

/-- The audit is as it was while it is pending, and while a call that has read it as pending goes
on. After a success it is as that decision has written it.
-/
structure Tracked (decisions : List Decision) (auditId : AuditId) (audit : WeightDriftAudit)
    (c : AuditConfig)
    : Prop where
  pending : ∀ found, c.world.audits.lookup auditId = some found → found.row.status = .pending
    → found = audit
  held : ∀ i, c.live i = true → (phaseOf decisions c i).Holds auditId →
    c.world.audits.lookup auditId = some audit
  decided : ∀ i data, phaseOf decisions c i = .decided auditId data →
    c.world.audits.lookup auditId = some (audit.updated data)

/-- An audit that is no longer pending. -/
def Closed (w : World) (auditId : AuditId) : Prop :=
  ∃ audit, w.audits.lookup auditId = some audit ∧ audit.row.status ≠ .pending

/-- At most one call is at work on the audit or has decided on it. -/
abbrev Single (decisions : List Decision) (auditId : AuditId) (c : AuditConfig) : Prop :=
  auditProtocol.Claimed (startOf decisions) Phase.Holds Phase.Decided Closed c auditId

theorem closed_commit {w : World} {other : AuditId} (decides : data.status ≠ .pending)
    (h : Closed w other)
    : Closed (w.commit auditId data) other := by
  obtain ⟨audit, there, closed⟩ := h
  by_cases same : other = auditId
  · exact ⟨audit.updated data, by rw [lookup_commit, if_pos same, there]; rfl, decides⟩
  · exact ⟨audit, by rw [lookup_commit, if_neg same, there], closed⟩

theorem decides_of_writing (governed : Governed decisions c)
    (writing : phaseOf decisions c i = .writing auditId data)
    : data.status ≠ .pending := by
  rcases phaseOf_cases (i := i) governed with ended | ⟨decision, -, known⟩
  · rw [writing] at ended
    cases ended
  · rw [writing] at known
    exact known.2.1

theorem claim_step (governed : Governed decisions c) (tracked : Tracked decisions auditId audit c)
    (alone : ReadsAlone decisions c i x) (live : c.live i = true) {op : AuditOp}
    (pending : c.pending? i = some op)
    (move : AuditMove c.world op c'.world (auditProtocol.phase (startOf decisions) c i)
      (auditProtocol.phase (startOf decisions) c' i))
    : auditProtocol.ClaimStep (startOf decisions) Phase.Holds Phase.Decided Closed c c' i
        auditId := by
  generalize before : auditProtocol.phase (startOf decisions) c i = phase at move
  generalize after : auditProtocol.phase (startOf decisions) c' i = phase' at move
  generalize world : c'.world = w' at move
  cases move with
  | read decision found there isPending =>
      refine ⟨fun holds => .inr ?_, fun decided => ?_, fun closed => ?_⟩
      · rw [after] at holds
        obtain rfl : decision.auditId = auditId := holds
        refine ⟨?_, ?_⟩
        · rintro ⟨audit, again, closed⟩
          rw [there] at again
          exact closed (Option.some.inj again ▸ isPending)
        · rw [ReadsAlone, pending] at alone
          exact alone (by simp [there, isPending])
      · rw [after] at decided
        exact decided.elim
      · rwa [world]
  | kept _ _ _ audits held undecided =>
      refine ⟨fun holds => .inl ?_, fun decided => ?_, fun closed => ?_⟩
      · rw [before]
        exact held _ (after ▸ holds)
      · rw [after] at decided
        exact absurd decided (undecided _)
      · rwa [Closed, world, audits]
  | committed id data =>
      have decides := decides_of_writing governed before
      refine ⟨fun holds => ?_, fun decided => .inr ?_, fun closed => ?_⟩
      · rw [after] at holds
        exact holds.elim
      · rw [after] at decided
        obtain rfl : id = auditId := decided
        have held : (auditProtocol.phase (startOf decisions) c i).Holds id := by
          rw [before]
          rfl
        refine ⟨held, audit.updated data, ?_, decides⟩
        rw [world, lookup_commit, if_pos rfl, tracked.held i live held]
        rfl
      · rw [world]
        exact closed_commit decides closed
  | unreported id data =>
      have decides := decides_of_writing governed before
      refine ⟨fun holds => ?_, fun decided => ?_, fun closed => ?_⟩
      · rw [after] at holds
        exact holds.elim
      · rw [after] at decided
        exact decided.elim
      · rw [world]
        exact closed_commit decides closed


theorem not_engaged (single : Single decisions auditId c) (live : c.live i = true)
    (holds : (phaseOf decisions c i).Holds auditId) {j : Nat} (other : j ≠ i)
    : ¬ auditProtocol.Engaged (startOf decisions) Phase.Holds Phase.Decided c auditId j :=
  fun engaged => other (single.single j i engaged (.inl ⟨live, holds⟩))

theorem Tracked.step (h : Tracked decisions auditId audit c) (single : Single decisions auditId c)
    (governed : Governed decisions c) (live : c.live i = true) {op : AuditOp}
    (others : ∀ j, j ≠ i → phaseOf decisions c' j = phaseOf decisions c j ∧ c'.live j = c.live j)
    (move : AuditMove c.world op c'.world (phaseOf decisions c i) (phaseOf decisions c' i))
    : Tracked decisions auditId audit c' := by
  generalize before : phaseOf decisions c i = phase at move
  generalize after : phaseOf decisions c' i = phase' at move
  generalize world : c'.world = w' at move
  -- the phases of the others, where the audit is kept
  have keep : c'.world.audits.lookup auditId = c.world.audits.lookup auditId →
      (phase'.Holds auditId → c.world.audits.lookup auditId = some audit) →
      (∀ data, phase' ≠ .decided auditId data) → Tracked decisions auditId audit c' := by
    intro same holds undecided
    constructor
    · exact fun found there => h.pending found (same ▸ there)
    · intro j liveJ held
      rw [same]
      by_cases mine : j = i
      · subst mine
        exact holds (after ▸ held)
      · rw [(others j mine).1] at held
        rw [(others j mine).2] at liveJ
        exact h.held j liveJ held
    · intro j data decided
      rw [same]
      by_cases mine : j = i
      · subst mine
        exact absurd (after ▸ decided) (undecided data)
      · exact h.decided j data ((others j mine).1 ▸ decided)
  -- a commit of this audit is made by the only call that is engaged with it
  have commits : ∀ data, phase = .writing auditId data → w' = c.world.commit auditId data →
      ¬ phase'.Holds auditId → (∀ other, phase' = .decided auditId other → other = data) →
      Tracked decisions auditId audit c' := by
    intro data writing left unheld decides
    have holds : (phaseOf decisions c i).Holds auditId := by
      rw [before, writing]
      rfl
    have stored : c'.world.audits.lookup auditId = some (audit.updated data) := by
      rw [world, left, lookup_commit, if_pos rfl, h.held i live holds]
      rfl
    constructor
    · intro found there closed
      obtain rfl := Option.some.inj (stored.symm.trans there)
      exact absurd closed (decides_of_writing governed (before.trans writing))
    · intro j liveJ held
      by_cases mine : j = i
      · subst mine
        exact absurd (after ▸ held) unheld
      · rw [(others j mine).1] at held
        rw [(others j mine).2] at liveJ
        exact absurd (.inl ⟨liveJ, held⟩) (not_engaged single live holds mine)
    · intro j other decided
      by_cases mine : j = i
      · subst mine
        rw [stored, decides other (after ▸ decided)]
      · rw [(others j mine).1] at decided
        refine absurd (.inr ?_) (not_engaged single live holds mine)
        rw [show auditProtocol.phase (startOf decisions) c j = .decided auditId other from decided]
        rfl
  cases move with
  | read decision found there isPending =>
      refine keep (by rw [world]) (fun holds => ?_) nofun
      obtain rfl : decision.auditId = auditId := holds
      rw [there, h.pending found there isPending]
  | kept _ _ _ audits held undecided =>
      refine keep (by rw [world, audits]) (fun holds => h.held i live (before ▸ held _ holds)) ?_
      rintro data rfl
      exact undecided auditId rfl
  | committed id data =>
      by_cases same : auditId = id
      · subst same
        exact commits data rfl rfl not_false fun other same => (Phase.decided.inj same).2.symm
      · refine keep (by rw [world, lookup_commit, if_neg same]) (fun absurd => absurd.elim) ?_
        rintro other ⟨⟩
        exact same rfl
  | unreported id data =>
      by_cases same : auditId = id
      · subst same
        exact commits data rfl rfl not_false nofun
      · exact keep (by rw [world, lookup_commit, if_neg same]) (fun absurd => absurd.elim) nofun

theorem governed_initial {audits : Audits}
    : Governed decisions (initialConfig decisions audits) := by
  refine Protocol.governs_initial fun i prog found => ?_
  rw [List.getElem?_map, Option.map_eq_some_iff] at found
  obtain ⟨decision, there, rfl⟩ := found
  have start : startOf decisions i = .idle decision := by rw [startOf, there]; rfl
  rw [start]
  refine Protocol.wp_mono (ends_prog decision) ?_ fun _ _ known => known
  rintro _ phase ⟨data, decided⟩
  exact ⟨decision, data, there, decided⟩

theorem decided_of_succeeded (governed : Governed decisions c)
    (succeeded : Succeeded decisions auditId c i)
    : ∃ decision data, decisions[i]? = some decision ∧ decision.Writes (c.past i) data
        ∧ phaseOf decisions c i = .decided auditId data := by
  obtain ⟨⟨decision, there, rfl⟩, ended⟩ := succeeded
  obtain ⟨report, ended⟩ := Option.isSome_iff_exists.mp ended
  obtain ⟨decision', data, there', decided⟩ := governed.value ended
  obtain rfl := Option.some.inj (there.symm.trans there')
  rcases phaseOf_cases (i := i) governed with ended | ⟨_, again, known⟩
  · cases ended.symm.trans decided
  · obtain rfl := Option.some.inj (there.symm.trans again)
    rw [show phaseOf decisions c i = .decided decision.auditId data from decided] at known
    exact ⟨decision, data, there, known.2.2, decided⟩

/-- In a run in which a call reads an audit as pending only while no other that has done so is under
way, at most one decision on it succeeds, and what is stored of it is that decision's.
-/
theorem audit_decided_once (decisions : List Decision) (audits : Audits) (auditId : AuditId)
    (audit : WeightDriftAudit) (there : audits.lookup auditId = some audit) {c : AuditConfig}
    (reached : Config.Reaches auditSemantics (ReadsAlone decisions)
      (initialConfig decisions audits) c)
    : DecidedOnce decisions auditId audit c := by
  have start : ∀ i, auditProtocol.phase (startOf decisions) (initialConfig decisions audits) i
      = startOf decisions i :=
    fun _ => Protocol.phase_initial _
  have idle : ∀ i, ¬ (startOf decisions i).Holds auditId
      ∧ ¬ (startOf decisions i).Decided auditId := by
    intro i
    unfold startOf
    cases decisions[i]? with
    | none => exact ⟨not_false, not_false⟩
    | some decision => exact ⟨not_false, not_false⟩
  have single : Single decisions auditId (initialConfig decisions audits) :=
    .initial (fun i => by rw [start]; exact (idle i).1) (fun i => by rw [start]; exact (idle i).2)
  have tracked : Tracked decisions auditId audit (initialConfig decisions audits) := by
    refine ⟨fun found again _ => Option.some.inj (again.symm.trans there), fun _ _ _ => there, ?_⟩
    intro i data decided
    have decided : startOf decisions i = .decided auditId data := (start i).symm.trans decided
    refine absurd ?_ (idle i).2
    rw [decided]
    rfl
  obtain ⟨governed, single, tracked⟩ := governed_initial.invariant
    (J := fun c => Single decisions auditId c ∧ Tracked decisions auditId audit c)
      ⟨single, tracked⟩ (by
      rintro c c' i x governed ⟨single, tracked⟩ alone stepped
      obtain ⟨op, reply, live, pending, answered, moved, -, others, -⟩ :=
        governed.step_cases stepped
      have same : ∀ j, j ≠ i → phaseOf decisions c' j = phaseOf decisions c j
        ∧ c'.live j = c.live j :=
        fun j other => ⟨(others j other).1, (others j other).2.1⟩
      have move := audit_move moved answered
      exact ⟨single.step live same (claim_step governed tracked alone live pending move),
        tracked.step single governed live same move⟩) reached
  constructor
  · intro i j first second
    obtain ⟨_, _, -, -, decidedI⟩ := decided_of_succeeded governed first
    obtain ⟨_, _, -, -, decidedJ⟩ := decided_of_succeeded governed second
    refine single.single i j (.inr ?_) (.inr ?_)
    · rw [show auditProtocol.phase _ c i = _ from decidedI]
      rfl
    · rw [show auditProtocol.phase _ c j = _ from decidedJ]
      rfl
  · intro i succeeded
    obtain ⟨decision, data, found, writes, decided⟩ := decided_of_succeeded governed succeeded
    exact ⟨decision, data, found, writes, tracked.decided i data decided⟩

-- Sample runs

def sampleAudit : WeightDriftAudit where
  row :=
    { auditPeriodStart := 0
      auditPeriodEnd := 7
      totalCurrencies := 1
      currenciesExceedingThreshold := 1
      maxDriftPercent := 3 }
  currencies := []

def sampleId : AuditId := "7d0f5f57-5b1c-4f0a-9f0e-0b7a2a6f2c11"

def sampleAudits : Audits :=
  AList.singleton sampleId sampleAudit

def sampleAdmin : String := "1b4e28ba-2fa1-41d2-883f-0016d3cca427"

/-- An approval and a rejection of one audit. -/
def sampleDecisions : List Decision :=
  [.approve sampleId sampleAdmin none, .reject sampleId sampleAdmin "stale prices"]

/-- Of two decisions one after the other, the second is refused. -/
theorem audit_decided_once_refused
    : ∃ c, (c.value? 0).isSome = true
        ∧ c.error? 1 = some (.error "Cannot reject audit with status: approved")
        ∧ DecidedOnce sampleDecisions sampleId sampleAudit c := by
  have executed :
      ((initialConfig sampleDecisions sampleAudits).run auditSemantics (ReadsAlone sampleDecisions)
        [(0, {}), (0, { time := 5 }), (0, {}), (0, {}), (0, {}), (1, {})]).map
          (fun c => ((c.value? 0).isSome, c.error? 1))
        = some (true, some (.error "Cannot reject audit with status: approved")) := by
    decide +kernel
  obtain ⟨c, reached, known⟩ := Config.reaches_of_run executed
  obtain ⟨approved, refused⟩ := Prod.mk.inj known
  exact ⟨c, approved, refused, audit_decided_once _ _ _ _ (by decide +kernel) reached⟩

/-- Two decisions that both read the audit as pending succeed, and leave the status and the notes of
one with the approver and the time of the other.
-/
theorem audit_decided_twice
    : ∃ c, Config.Reaches auditSemantics Config.anyStep
        (initialConfig sampleDecisions sampleAudits) c
      ∧ (c.world.audits.lookup sampleId).map (·.row) = some { sampleAudit.row with
          status := .rejected
          approvedBy := some sampleAdmin
          approvalNotes := some "stale prices"
          approvedAt := some 5 }
      ∧ ¬ DecidedOnce sampleDecisions sampleId sampleAudit c := by
  have executed :
      ((initialConfig sampleDecisions sampleAudits).run auditSemantics Config.anyStep
        [(0, {}), (1, {}), (0, { time := 5 }), (0, {}), (0, {}), (0, {}), (1, {}), (1, {}),
          (1, {})]).map
          (fun c => ((c.world.audits.lookup sampleId).map (·.row), (c.value? 0).isSome,
            (c.value? 1).isSome))
        = some (some { sampleAudit.row with
            status := .rejected
            approvedBy := some sampleAdmin
            approvalNotes := some "stale prices"
            approvedAt := some 5 }, true, true) := by
    decide +kernel
  obtain ⟨c, reached, known⟩ := Config.reaches_of_run executed
  obtain ⟨stored, ended⟩ := Prod.mk.inj known
  obtain ⟨approved, rejected⟩ := Prod.mk.inj ended
  refine ⟨c, reached, stored, fun once => ?_⟩
  have first : Succeeded sampleDecisions sampleId c 0 := ⟨⟨_, rfl, rfl⟩, approved⟩
  have second : Succeeded sampleDecisions sampleId c 1 := ⟨⟨_, rfl, rfl⟩, rejected⟩
  exact absurd (once.single 0 1 first second) (by decide)

end AcbuBackend.WeightDrift
