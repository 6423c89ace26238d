import AcbuBackend.Effects.Protocol

/-! Tasks of one program that run interleaved and are settled together.
Which task goes on is the answer of a call of its own, so a schedule is a choice of the
environment.
-/

namespace AcbuBackend.Effects

variable {I : Interface} {S α β : Type}

-- The calls of a program

/-- The program comes to issue the call under some answers to those before it. -/
def Prog.Issues : Prog I α → I.Op → Prop
  | .done _, _ | .fail _, _ => False
  | .call op next, issued => op = issued ∨ ∃ reply, (next reply).Issues issued

namespace Protocol

/-- The protocol that allows the calls in `p` and observes nothing. -/
noncomputable def only (p : I.Op → Prop) : Protocol I Unit where
  next _ op _ := open Classical in if p op then some () else none

variable {p : I.Op → Prop} {Q : α → Prop} {E : I.Err → Prop}

@[simp] theorem only_next {op : I.Op} {reply : I.Reply op} {phase phase' : Unit}
    : (only p).next phase op reply = some phase' ↔ p op := by
  simp only [only]
  split <;> simp_all

/-- Allowed calls are allowed by a weaker condition. -/
theorem only_mono {q : I.Op → Prop} {prog : Prog I α} (weaker : ∀ op, p op → q op)
    (h : (only p).wp prog () (fun value _ => Q value) (fun error _ => E error))
    : (only q).wp prog () (fun value _ => Q value) (fun error _ => E error) := by
  induction prog with
  | done value => exact h
  | fail error => exact h
  | call op next ih =>
      intro reply
      obtain ⟨_, allowed, rest⟩ := h reply
      exact ⟨(), only_next.mpr (weaker op (only_next.mp allowed)), ih reply rest⟩

theorem issues_of_only [Nonempty I.Err] {prog : Prog I α} {op : I.Op}
    (h : (only p).wp prog () (fun value _ => Q value) (fun error _ => E error))
    (issues : prog.Issues op)
    : p op := by
  induction prog with
  | done value => exact issues.elim
  | fail error => exact issues.elim
  | call first next ih =>
      rcases issues with rfl | ⟨reply, later⟩
      · obtain ⟨error⟩ := ‹Nonempty I.Err›
        obtain ⟨_, moved, -⟩ := h (.error error)
        exact only_next.mp moved
      · obtain ⟨_, -, rest⟩ := h reply
        exact ih reply rest later

/-- A program that issues allowed calls only, whatever it ends with. -/
abbrev Only (p : I.Op → Prop) (prog : Prog I α) : Prop :=
  (only p).wp prog () (fun _ _ => True) (fun _ _ => True)

theorem only_await {op : I.Op} (h : p op) : Only p (Prog.await op) :=
  wp_await.mpr ⟨fun _ => ⟨(), only_next.mpr h, trivial⟩, fun _ => ⟨(), only_next.mpr h, trivial⟩⟩

theorem only_bind {prog : Prog I α} {f : α → Prog I β} (first : Only p prog)
    (rest : ∀ value, Only p (f value))
    : Only p (prog >>= f) :=
  wp_bind.mpr (wp_mono first (fun value _ _ => rest value) (fun _ _ _ => trivial))

theorem only_catchWith {body : Prog I α} {handler : I.Err → Prog I α} (first : Only p body)
    (rest : ∀ error, Only p (handler error))
    : Only p (body.catchWith handler) :=
  wp_catchWith.mpr (wp_mono first (fun _ _ _ => trivial) (fun error _ _ => rest error))

theorem only_fromExcept {result : Except I.Err α} : Only p (Prog.fromExcept result) :=
  wp_fromExcept.mpr ⟨fun _ _ => trivial, fun _ _ => trivial⟩

theorem only_ensure {check : Bool} {error : I.Err} : Only p (Prog.ensure check error) :=
  wp_ensure.mpr ⟨fun _ => trivial, fun _ => trivial⟩

theorem only_orThrow {value : Option α} {error : I.Err} : Only p (Prog.orThrow value error) :=
  wp_orThrow.mpr ⟨fun _ _ => trivial, fun _ => trivial⟩

theorem only_within {J : Interface} {ι : Inclusion I J} {q : J.Op → Prop} {prog : Prog I α}
    (calls : ∀ op, p op → q (ι.op op))
    (h : (only p).wp prog () (fun value _ => Q value) (fun error _ => E error))
    : (only q).wp (prog.within ι) () (fun value _ => Q value) (fun _ _ => ∃ error, E error) := by
  apply wp_mono (wp_within (R := only q) (fun _ _ => True) ?_ h trivial)
  · rintro value _ ⟨_, -, known⟩
    exact known
  · rintro _ _ ⟨error, _, -, known⟩
    exact ⟨error, known⟩
  · intro _ _ _ op _ _ moved
    exact ⟨(), only_next.mpr (calls op (only_next.mp moved)), trivial⟩

/-- The calls that leave a phase as it is. -/
def Ignores (P : Protocol I S) (phase : S) (op : I.Op) : Prop :=
  ∀ reply, P.next phase op reply = some phase

theorem wp_of_only {P : Protocol I S} {prog : Prog I α} {phase : S}
    (h : (only (P.Ignores phase)).wp prog () (fun value _ => Q value) (fun error _ => E error))
    : P.wp prog phase (fun value phase' => Q value ∧ phase' = phase)
        (fun error phase' => E error ∧ phase' = phase) := by
  induction prog with
  | done value => exact ⟨h, rfl⟩
  | fail error => exact ⟨h, rfl⟩
  | call op next ih =>
      intro reply
      obtain ⟨_, allowed, rest⟩ := h reply
      exact ⟨phase, only_next.mp allowed reply, ih reply rest⟩

end Protocol

-- Settled tasks

/-- The call that decides which task goes on, and how its answer is read. -/
structure Scheduler (I : Interface) where
  turn : I.Op
  first : I.Reply turn → Bool

namespace Prog

variable (scheduler : Scheduler I)

/-- The rest of a task that waits for `op`, next to the others. -/
def besides (op : I.Op)
    (resume : I.Reply op → Prog I (List (Except I.Err α)) → Prog I (List (Except I.Err α)))
    : Prog I (List (Except I.Err α)) → Prog I (List (Except I.Err α))
  | .done results => .call op (fun reply => resume reply (.done results))
  | .fail error => .fail error
  | .call other next =>
      .call scheduler.turn (fun answer =>
        if scheduler.first answer then .call op (fun reply => resume reply (.call other next))
        else .call other (fun reply => besides op resume (next reply)))

/-- A task next to the others, whose results it is put in front of. -/
def alongside : Prog I α → Prog I (List (Except I.Err α)) → Prog I (List (Except I.Err α))
  | .done value, others => others.bind (fun results => .done (.ok value :: results))
  | .fail error, others => others.bind (fun results => .done (.error error :: results))
  | .call op next, others =>
      besides scheduler op (fun reply others => (next reply).alongside others) others

/-- `Promise.allSettled`: all tasks interleaved, each with its value or its error. -/
def allSettled : List (Prog I α) → Prog I (List (Except I.Err α))
  | [] => .done []
  | task :: tasks => alongside scheduler task (allSettled tasks)

end Prog

namespace Protocol

variable {scheduler : Scheduler I} {p : I.Op → Prop} {Q : α → Prop} {E : I.Err → Prop}

/-- What is known of a settled task. -/
def settledTo (Q : α → Prop) (E : I.Err → Prop) : Except I.Err α → Prop
  | .ok value => Q value
  | .error error => E error

theorem only_alongside {task : Prog I α} {others : Prog I (List (Except I.Err α))}
    {R : List (Except I.Err α) → Prop} (turn : p scheduler.turn)
    (h : (only p).wp task () (fun value _ => Q value) (fun error _ => E error))
    (rest : (only p).wp others () (fun results _ => R results) (fun _ _ => False))
    : (only p).wp (Prog.alongside scheduler task others) ()
        (fun results _ => ∃ result rest, results = result :: rest ∧ settledTo Q E result ∧ R rest)
        (fun _ _ => False) := by
  induction task generalizing others with
  | done value =>
      rw [Prog.alongside]
      exact wp_bind.mpr (wp_mono rest (fun results _ known => ⟨.ok value, results, rfl, h, known⟩)
        (fun _ _ absurd => absurd))
  | fail error =>
      rw [Prog.alongside]
      exact wp_bind.mpr (wp_mono rest (fun results _ known =>
        ⟨.error error, results, rfl, h, known⟩)
        (fun _ _ absurd => absurd))
  | call op next ih =>
      rw [Prog.alongside]
      -- both orders end the same way, by induction on the steps left of the two sides
      have first : ∀ {others}, (only p).wp others () (fun results _ => R results)
        (fun _ _ => False) →
          (only p).wp (.call op fun reply => (next reply).alongside scheduler others) ()
            (fun results _ => ∃ result rest, results = result :: rest ∧ settledTo Q E result
              ∧ R rest)
            (fun _ _ => False) := by
        intro others rest reply
        obtain ⟨_, moved, later⟩ := h reply
        exact ⟨(), moved, ih reply later rest⟩
      induction others with
      | done results => exact first rest
      | fail error => exact rest
      | call other resume ihOthers =>
          intro answer
          refine ⟨(), only_next.mpr turn, ?_⟩
          beta_reduce
          split
          · exact first rest
          · intro reply
            obtain ⟨_, moved, later⟩ := rest reply
            exact ⟨(), moved, ihOthers reply later⟩

theorem only_allSettled {tasks : List (Prog I α)} (turn : p scheduler.turn)
    (h : ∀ task ∈ tasks,
      (only p).wp task () (fun value _ => Q value) (fun error _ => E error))
    : (only p).wp (Prog.allSettled scheduler tasks) ()
        (fun results _ => results.length = tasks.length ∧ ∀ result ∈ results, settledTo Q E result)
        (fun _ _ => False) := by
  induction tasks with
  | nil => exact ⟨rfl, by simp⟩
  | cons task tasks ih =>
      have rest := ih fun other member => h other (List.mem_cons_of_mem _ member)
      apply wp_mono (only_alongside turn (h task List.mem_cons_self) rest)
      · rintro _ _ ⟨result, rest, rfl, known, length, others⟩
        exact ⟨congrArg (· + 1) length, List.forall_mem_cons.mpr ⟨known, others⟩⟩
      · exact fun _ _ absurd => absurd

end Protocol

end AcbuBackend.Effects
