import AcbuBackend.Effects.Interleaving

/-! How a call can fail: before it takes effect, or after. An environment says what its calls
do when they take effect, and a choice of it which of them do.
-/

namespace AcbuBackend.Effects

/-- What becomes of a call: it takes effect and reports so, it fails without an effect, or
it takes effect and its caller is told of an error (a timeout after submission).
-/
inductive Outcome (E : Type)
  | done
  | failed (error : E)
  | lost (error : E)
deriving DecidableEq

variable {E W α : Type}

/-- Whether a call reports an error after it took effect. -/
def Outcome.isLost : Outcome E → Bool
  | .lost _ => true
  | _ => false

/-- Whether a call fails without an effect. -/
def Outcome.isFailed : Outcome E → Bool
  | .failed _ => true
  | _ => false

/-- The reply to a call and the world after it, given its effect. -/
def Outcome.answer (outcome : Outcome E) (effect : Except E α × W) (world : W)
    : Except E α × W :=
  match outcome with
  | .done => effect
  | .failed error => (.error error, world)
  | .lost error => (.error error, effect.2)

theorem Outcome.answer_ok {outcome : Outcome E} {effect : Except E α × W} {world world' : W}
    {value : α} (h : outcome.answer effect world = (.ok value, world'))
    : outcome = .done ∧ effect = (.ok value, world') := by
  cases outcome with
  | done => exact ⟨rfl, h⟩
  | failed error => cases h
  | lost error => cases h

theorem Outcome.isOk_answer {outcome : Outcome E} {value : α} {after world world' : W}
    {reply : Except E α} (h : outcome.answer (.ok value, after) world = (reply, world'))
    : Except.isOk reply = true ↔ outcome = .done := by
  obtain ⟨rfl, -⟩ := Prod.mk.inj h
  cases outcome <;> simp [Except.isOk, Except.toBool]

theorem Outcome.answer_world {outcome : Outcome E} {effect : Except E α × W}
    {world world' : W} {reply : Except E α}
    (h : outcome.answer effect world = (reply, world'))
    : world' = world ∨ world' = effect.2 := by
  cases outcome with
  | done => exact .inr (congrArg Prod.snd h).symm
  | failed error => exact .inl (congrArg Prod.snd h).symm
  | lost error => exact .inr (congrArg Prod.snd h).symm

theorem Outcome.answer_cases {outcome : Outcome E} {effect : Except E α × W} {world world' : W}
    {reply : Except E α} (h : outcome.answer effect world = (reply, world'))
    : outcome.isFailed = true ∧ world' = world ∨ outcome.isFailed = false ∧ world' = effect.2 := by
  cases outcome with
  | done => exact .inr ⟨rfl, (congrArg Prod.snd h).symm⟩
  | failed error => exact .inl ⟨rfl, (congrArg Prod.snd h).symm⟩
  | lost error => exact .inr ⟨rfl, (congrArg Prod.snd h).symm⟩

/-- What the calls of an interface do to a world, and which choices are possible for them. -/
structure Environment (I : Interface) (W C : Type) where
  outcome : C → Outcome I.Err
  effect : C → W → (op : I.Op) → I.Reply op × W
  admissible : I.Op → C → W → Bool

/-- Every caller meets the same environment. -/
def Environment.semantics {I : Interface} {C : Type} (env : Environment I W C)
    : Semantics I W C where
  act _ op x w :=
    if env.admissible op x w then some ((env.outcome x).answer (env.effect x w op) w) else none

theorem Environment.act_eq_some {I : Interface} {C : Type} {env : Environment I W C} {i : Nat}
    {op : I.Op} {x : C} {w w' : W} {reply : I.Reply op}
    (h : env.semantics.act i op x w = some (reply, w'))
    : env.admissible op x w = true
      ∧ (env.outcome x).answer (env.effect x w op) w = (reply, w') := by
  unfold semantics at h
  simp only at h
  split at h
  · exact ⟨‹_›, Option.some.inj h⟩
  · cases h

theorem Environment.outcome_cases {I : Interface} {C : Type} {env : Environment I W C} {i : Nat}
    {op : I.Op} {x : C} {w w' : W} {reply : I.Reply op}
    (h : env.semantics.act i op x w = some (reply, w'))
    : env.admissible op x w = true
      ∧ (w' = w ∧ (env.outcome x).isFailed = true ∧ (∃ error, reply = .error error)
        ∨ w' = (env.effect x w op).2
          ∧ (reply = (env.effect x w op).1
            ∨ (env.outcome x).isLost = true ∧ ∃ error, reply = .error error)) := by
  obtain ⟨possible, answered⟩ := Environment.act_eq_some h
  refine ⟨possible, ?_⟩
  cases outcome : env.outcome x with
  | done =>
      rw [outcome] at answered
      obtain ⟨same, left⟩ := Prod.mk.inj answered
      exact .inr ⟨left.symm, .inl same.symm⟩
  | failed error =>
      rw [outcome] at answered
      obtain ⟨same, left⟩ := Prod.mk.inj answered
      exact .inl ⟨left.symm, rfl, error, same.symm⟩
  | lost error =>
      rw [outcome] at answered
      obtain ⟨same, left⟩ := Prod.mk.inj answered
      exact .inr ⟨left.symm, .inr ⟨rfl, error, same.symm⟩⟩

/-- A call that is answered leaves the world, or takes effect on it. -/
theorem Environment.act_cases {I : Interface} {C : Type} {env : Environment I W C} {i : Nat}
    {op : I.Op} {x : C} {w w' : W} {reply : I.Reply op}
    (h : env.semantics.act i op x w = some (reply, w'))
    : env.admissible op x w = true
      ∧ (w' = w ∧ Except.isOk reply = false
        ∨ w' = (env.effect x w op).2
          ∧ (Except.isOk reply = true → reply = (env.effect x w op).1)) := by
  obtain ⟨possible, ⟨same, -, _, rfl⟩ | ⟨effect, answered⟩⟩ := Environment.outcome_cases h
  · exact ⟨possible, .inl ⟨same, rfl⟩⟩
  · refine ⟨possible, .inr ⟨effect, fun ok => ?_⟩⟩
    rcases answered with answered | ⟨-, _, rfl⟩
    · exact answered
    · cases ok

end AcbuBackend.Effects
