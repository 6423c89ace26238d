import AcbuBackend.Effects.Outcome

/-! What a group of callers does beside others, and what it does alone.
A schedule is cut down to the steps of the group. Where no step of the others shows in the
part of the world the group reads, the cut schedule can be executed, with the same replies.
-/

namespace AcbuBackend.Effects.Config

variable {I : Interface} {α W C : Type} {sem : Semantics I W C}

/-- The steps of the callers in `own`. -/
def stepsOf (own : Nat → Bool) (schedule : List (Nat × C)) : List (Nat × C) :=
  schedule.filter (fun step => own step.1)

/-- The callers in `own` have made the same calls in both configurations, were answered the
same, and are left with the same to do.
-/
def SameThreads (own : Nat → Bool) (c s : Config I α W) : Prop :=
  ∀ i, own i = true → s.threads[i]? = c.threads[i]?

variable {own : Nat → Bool} {c c' s : Config I α W} {i : Nat} {x : C}

theorem SameThreads.value? (h : SameThreads own c s) (mine : own i = true)
    : s.value? i = c.value? i := by
  simp [Config.value?, h i mine]

/-- A step of a caller outside the group. -/
theorem SameThreads.of_other (h : SameThreads own c s) (other : own i = false)
    (stepped : c.step sem i x = some c')
    : SameThreads own c' s := by
  obtain ⟨op, next, past, reply, world, -, -, rfl⟩ := step_cases stepped
  intro j mine
  have different : i ≠ j := by
    rintro rfl
    rw [other] at mine
    cases mine
  rw [h j mine, List.getElem?_set_ne different]

theorem SameThreads.of_own {R : W → W → Prop} (h : SameThreads own c s) (mine : own i = true)
    (answers : ∀ op reply w', c.pending? i = some op → sem.act i op x c.world = some (reply, w') →
      ∃ s', sem.act i op x s.world = some (reply, s') ∧ R w' s')
    (stepped : c.step sem i x = some c')
    : ∃ s', s.step sem i x = some s' ∧ SameThreads own c' s' ∧ R c'.world s'.world := by
  obtain ⟨op, next, past, reply, world, found, answered, rfl⟩ := step_cases stepped
  obtain ⟨world', answered', related⟩ :=
    answers op reply world (by simp [pending?, found]) answered
  have foundAlone : s.threads[i]? = some ⟨.call op next, past⟩ := (h i mine).trans found
  refine ⟨{ world := world', threads := s.threads.set i ⟨next reply, ⟨op, reply⟩ :: past⟩ },
    by simp [step, foundAlone, answered'], fun j mine' => ?_, related⟩
  by_cases same : i = j
  · subst same
    rw [getElem?_set_self_of_found found, getElem?_set_self_of_found foundAlone]
  · rw [List.getElem?_set_ne same, List.getElem?_set_ne same, h j mine']

/-- A group undisturbed by the others does alone what it does beside them. `J` is an invariant
of the whole run and `R` relates its world to the one of the group alone. Witness: induction
on the schedule; a step of the others is dropped, a step of the group is repeated.
-/
theorem run_stepsOf {ok : Config I α W → Nat → C → Prop} [∀ c i x, Decidable (ok c i x)]
    {J : Config I α W → Prop} {R : W → W → Prop} {schedule : List (Nat × C)}
    (kept : ∀ c c' i x, J c → ok c i x → c.step sem i x = some c' → J c')
    (others : ∀ c c' w i x, J c → R c.world w → own i = false → c.step sem i x = some c' →
      R c'.world w)
    (answers : ∀ (c : Config I α W) w i x op reply w', J c → R c.world w → own i = true →
      ok c i x → c.pending? i = some op → sem.act i op x c.world = some (reply, w') →
      ∃ s', sem.act i op x w = some (reply, s') ∧ R w' s')
    (executed : c.run sem ok schedule = some c') (base : J c) (same : SameThreads own c s)
    (related : R c.world s.world)
    : J c' ∧ ∃ s', s.run sem anyStep (stepsOf own schedule) = some s'
      ∧ SameThreads own c' s' ∧ R c'.world s'.world := by
  induction schedule generalizing c s with
  | nil =>
      obtain rfl := Option.some.inj executed
      exact ⟨base, s, rfl, same, related⟩
  | cons head rest ih =>
      obtain ⟨i, x⟩ := head
      simp only [run] at executed
      split at executed
      · rename_i allowed
        obtain ⟨middle, stepped, later⟩ := Option.bind_eq_some_iff.mp executed
        have base' := kept _ _ i x base allowed stepped
        cases mine : own i with
        | false =>
            obtain ⟨held, s', alone, same', related'⟩ :=
              ih later base' (same.of_other mine stepped)
                (others _ _ _ i x base related mine stepped)
            exact ⟨held, s', by simpa [stepsOf, mine] using alone, same', related'⟩
        | true =>
            obtain ⟨s', steppedAlone, same', related'⟩ := same.of_own mine
              (fun op reply w' => answers c s.world i x op reply w' base related mine allowed)
                stepped
            obtain ⟨held, s₁, alone, same₁, related₁⟩ := ih later base' same' related'
            refine ⟨held, s₁, ?_, same₁, related₁⟩
            have cut : stepsOf own ((i, x) :: rest) = (i, x) :: stepsOf own rest := by
              simp [stepsOf, mine]
            rw [cut, run, if_pos (show s.anyStep i x from trivial), steppedAlone]
            exact alone
      · cases executed

end AcbuBackend.Effects.Config

namespace AcbuBackend.Effects

/-- A call has the same answer in two related worlds: what it answers when it is done is the
same, and what it leaves when it takes effect is related.
-/
theorem Environment.act_of_related {I : Interface} {W C : Type} {env : Environment I W C}
    {R : W → W → Prop} {i : Nat} {op : I.Op} {x : C} {w s w' : W} {reply : I.Reply op}
    (related : R w s) (possible : env.admissible op x w = true → env.admissible op x s = true)
    (answers : env.outcome x = .done → (env.effect x s op).1 = (env.effect x w op).1)
    (leaves : (env.outcome x).isFailed = false → R (env.effect x w op).2 (env.effect x s op).2)
    (answered : env.semantics.act i op x w = some (reply, w'))
    : ∃ s', env.semantics.act i op x s = some (reply, s') ∧ R w' s' := by
  obtain ⟨admitted, answer⟩ := Environment.act_eq_some answered
  have act : env.semantics.act i op x s = some ((env.outcome x).answer (env.effect x s op) s) :=
    if_pos (possible admitted)
  have world : R w' ((env.outcome x).answer (env.effect x s op) s).2
      ∧ ((env.outcome x).answer (env.effect x s op) s).1 = reply := by
    rw [← show _ = reply from congrArg Prod.fst answer, ← show _ = w' from congrArg Prod.snd answer]
    cases outcome : env.outcome x with
    | done => exact ⟨leaves (by simp [outcome, Outcome.isFailed]), answers outcome⟩
    | failed error => exact ⟨related, rfl⟩
    | lost error => exact ⟨leaves (by simp [outcome, Outcome.isFailed]), rfl⟩
  exact ⟨_, act.trans (congrArg some (Prod.ext world.2 rfl)), world.1⟩

end AcbuBackend.Effects
