import AcbuBackend.Effects.Concurrent
import AcbuBackend.Effects.Interleaving

/-! Programs run alone.
`Prog.Evaluates` relates a program and a world to the results and worlds it can end with;
`Semantics.wlp` judges all of them by postconditions.
Where each call has one answer and changes nothing, a program has one result.
-/

namespace AcbuBackend.Effects

variable {I : Interface} {α β W C : Type}

/-- The program, run alone by caller `i`, can end with a result and a world. -/
def Prog.Evaluates (sem : Semantics I W C) (i : Nat) : Prog I α → W → Except I.Err α → W → Prop
  | .done value, w, result, w' => result = .ok value ∧ w' = w
  | .fail error, w, result, w' => result = .error error ∧ w' = w
  | .call op next, w, result, w' =>
      ∃ x reply middle,
        sem.act i op x w = some (reply, middle) ∧ (next reply).Evaluates sem i middle result w'

/-- However its calls are answered, a program that ends does so as `Q` or `E` says. -/
def Semantics.wlp (sem : Semantics I W C) (i : Nat)
    : Prog I α → W → (α → W → Prop) → (I.Err → W → Prop) → Prop
  | .done value, w, Q, _ => Q value w
  | .fail error, w, _, E => E error w
  | .call op next, w, Q, E =>
      ∀ x reply w', sem.act i op x w = some (reply, w') → sem.wlp i (next reply) w' Q E

namespace Semantics

variable {sem : Semantics I W C} {i : Nat} {w : W} {Q : α → W → Prop} {E : I.Err → W → Prop}

@[simp] theorem wlp_done {value : α} : sem.wlp i (.done value) w Q E ↔ Q value w := Iff.rfl

@[simp] theorem wlp_fail {error : I.Err} : sem.wlp i (.fail error) w Q E ↔ E error w := Iff.rfl

@[simp] theorem wlp_pure {value : α} : sem.wlp i (pure value : Prog I α) w Q E ↔ Q value w :=
  Iff.rfl

/-- A sequence is judged by its first program, whose value starts the second. -/
@[simp] theorem wlp_bind {prog : Prog I α} {f : α → Prog I β} {Q : β → W → Prop}
    : sem.wlp i (prog >>= f) w Q E
      ↔ sem.wlp i prog w (fun value w' => sem.wlp i (f value) w' Q E) E := by
  change sem.wlp i (prog.bind f) w Q E ↔ _
  induction prog generalizing w with
  | done value => rfl
  | fail error => rfl
  | call op next ih =>
      simp only [Prog.bind, wlp]
      exact forall_congr' fun x => forall_congr' fun reply => forall_congr' fun w' =>
        imp_congr_right fun _ => ih reply

/-- An error of the body is judged by the handler, in the world where it was thrown. -/
@[simp] theorem wlp_catchWith {prog : Prog I α} {handler : I.Err → Prog I α}
    : sem.wlp i (prog.catchWith handler) w Q E
      ↔ sem.wlp i prog w Q (fun error w' => sem.wlp i (handler error) w' Q E) := by
  induction prog generalizing w with
  | done value => rfl
  | fail error => rfl
  | call op next ih =>
      simp only [Prog.catchWith, wlp]
      exact forall_congr' fun x => forall_congr' fun reply => forall_congr' fun w' =>
        imp_congr_right fun _ => ih reply

/-- A single call: its value continues, its error is thrown. -/
@[simp] theorem wlp_await {op : I.Op} {Q : I.Ret op → W → Prop}
    : @wlp I (no_index (I.Ret op)) W C sem i (Prog.await op) w Q E
      ↔ (∀ x value w', sem.act i op x w = some (.ok value, w') → Q value w')
        ∧ (∀ x error w', sem.act i op x w = some (.error error, w') → E error w') := by
  simp only [Prog.await, wlp]
  constructor
  · intro h
    exact ⟨fun x value w' => h x (.ok value) w', fun x error w' => h x (.error error) w'⟩
  · rintro ⟨hok, herr⟩ x (error | value) w' answered
    · exact herr x error w' answered
    · exact hok x value w' answered

@[simp] theorem wlp_fromExcept {result : Except I.Err α}
    : sem.wlp i (Prog.fromExcept result) w Q E
      ↔ (∀ value, result = .ok value → Q value w)
        ∧ (∀ error, result = .error error → E error w) := by
  cases result <;> simp [Prog.fromExcept]

@[simp] theorem wlp_ensure {check : Bool} {error : I.Err} {Q : Unit → W → Prop}
    : sem.wlp i (Prog.ensure check error) w Q E
      ↔ (check = true → Q () w) ∧ (check = false → E error w) := by
  cases check <;> simp [Prog.ensure]

@[simp] theorem wlp_orThrow {value : Option α} {error : I.Err}
    : sem.wlp i (Prog.orThrow value error) w Q E
      ↔ (∀ v, value = some v → Q v w) ∧ (value = none → E error w) := by
  cases value <;> simp [Prog.orThrow]

/-- Weaker postconditions are easier to meet. -/
theorem wlp_mono {prog : Prog I α} {Q' : α → W → Prop} {E' : I.Err → W → Prop}
    (h : sem.wlp i prog w Q E) (hQ : ∀ value w', Q value w' → Q' value w')
    (hE : ∀ error w', E error w' → E' error w')
    : sem.wlp i prog w Q' E' := by
  induction prog generalizing w with
  | done value => exact hQ value w h
  | fail error => exact hE error w h
  | call op next ih => exact fun x reply w' answered => ih reply (h x reply w' answered)

/-- The frame rule: a relation kept by each call a program may issue is kept by the program. -/
theorem wlp_of_only {p : I.Op → Prop} {R : W → W → Prop} {prog : Prog I α} {Q : α → Prop}
    {E : I.Err → Prop} (refl : ∀ w, R w w) (trans : ∀ {w₁ w₂ w₃}, R w₁ w₂ → R w₂ w₃ → R w₁ w₃)
    (keeps : ∀ op x w reply w', p op → sem.act i op x w = some (reply, w') → R w w')
    (h : (Protocol.only p).wp prog () (fun value _ => Q value) (fun error _ => E error))
    : sem.wlp i prog w (fun value w' => Q value ∧ R w w') (fun error w' => E error ∧ R w w') := by
  induction prog generalizing w with
  | done value => exact ⟨h, refl w⟩
  | fail error => exact ⟨h, refl w⟩
  | call op next ih =>
      intro x reply w' answered
      obtain ⟨_, moved, rest⟩ := h reply
      have first := keeps op x w reply w' (Protocol.only_next.mp moved) answered
      apply wlp_mono (ih reply rest)
      · exact fun value later known => ⟨known.1, trans first known.2⟩
      · exact fun error later known => ⟨known.1, trans first known.2⟩

/-- The conjunction rule. -/
theorem wlp_and {prog : Prog I α} {Q' : α → W → Prop} {E' : I.Err → W → Prop}
    (h : sem.wlp i prog w Q E) (h' : sem.wlp i prog w Q' E')
    : sem.wlp i prog w (fun value w' => Q value w' ∧ Q' value w')
        (fun error w' => E error w' ∧ E' error w') := by
  induction prog generalizing w with
  | done value => exact ⟨h, h'⟩
  | fail error => exact ⟨h, h'⟩
  | call op next ih =>
      exact fun x reply w' answered => ih reply (h x reply w' answered) (h' x reply w' answered)

theorem wlp_of_kept {R : W → W → Prop} {prog : Prog I α} (refl : ∀ w, R w w)
    (trans : ∀ {w₁ w₂ w₃}, R w₁ w₂ → R w₂ w₃ → R w₁ w₃)
    (keeps : ∀ op x w reply w', sem.act i op x w = some (reply, w') → R w w')
    : sem.wlp i prog w (fun _ w' => R w w') (fun _ w' => R w w') := by
  induction prog generalizing w with
  | done value => exact refl w
  | fail error => exact refl w
  | call op next ih =>
      intro x reply w' answered
      have first := keeps op x w reply w' answered
      apply wlp_mono (ih reply)
      · exact fun _ _ later => trans first later
      · exact fun _ _ later => trans first later

theorem wlp_value {prog : Prog I α} {value : α} {w' : W} (h : sem.wlp i prog w Q E)
    (evaluates : prog.Evaluates sem i w (.ok value) w')
    : Q value w' := by
  induction prog generalizing w with
  | done result =>
      obtain ⟨same, rfl⟩ := evaluates
      obtain rfl := Except.ok.inj same
      exact h
  | fail error => cases evaluates.1
  | call op next ih =>
      obtain ⟨x, reply, middle, answered, rest⟩ := evaluates
      exact ih reply (h x reply middle answered) rest

theorem wlp_error {prog : Prog I α} {error : I.Err} {w' : W} (h : sem.wlp i prog w Q E)
    (evaluates : prog.Evaluates sem i w (.error error) w')
    : E error w' := by
  induction prog generalizing w with
  | done result => cases evaluates.1
  | fail thrown =>
      obtain ⟨same, rfl⟩ := evaluates
      obtain rfl := Except.error.inj same
      exact h
  | call op next ih =>
      obtain ⟨x, reply, middle, answered, rest⟩ := evaluates
      exact ih reply (h x reply middle answered) rest

theorem wlp_world {prog : Prog I α} {result : Except I.Err α} {R : W → Prop} {w' : W}
    (h : sem.wlp i prog w (fun _ w' => R w') (fun _ w' => R w'))
    (evaluates : prog.Evaluates sem i w result w')
    : R w' := by
  cases result with
  | ok value => exact wlp_value (Q := fun _ w' => R w') h evaluates
  | error error => exact wlp_error (E := fun _ w' => R w') h evaluates

end Semantics

/-- Where every call can be answered, every program can end. -/
theorem Prog.exists_evaluates {sem : Semantics I W C} {i : Nat} {prog : Prog I α}
    (live : ∀ op w, ∃ x reply w', sem.act i op x w = some (reply, w')) (w : W)
    : ∃ result w', prog.Evaluates sem i w result w' := by
  induction prog generalizing w with
  | done value => exact ⟨.ok value, w, rfl, rfl⟩
  | fail error => exact ⟨.error error, w, rfl, rfl⟩
  | call op next ih =>
      obtain ⟨x, reply, middle, answered⟩ := live op w
      obtain ⟨result, w', rest⟩ := ih reply middle
      exact ⟨result, w', x, reply, middle, answered, rest⟩

-- Evaluation under given choices

variable {sem : Semantics I W C}

/-- The result of a program and the world it leaves, for as many choices as it makes calls. -/
def Prog.evaluate (sem : Semantics I W C) (i : Nat)
    : Prog I α → List C → W → Option (Except I.Err α × W)
  | .done value, _, w => some (.ok value, w)
  | .fail error, _, w => some (.error error, w)
  | .call _ _, [], _ => none
  | .call op next, x :: rest, w =>
      (sem.act i op x w).bind (fun (reply, w') => (next reply).evaluate sem i rest w')

theorem Prog.evaluate_await_bind {i : Nat} {op : I.Op} {f : I.Ret op → Prog I α} {x : C}
    {rest : List C}
    {value : α} {w w' : W}
    (h : (Prog.await op >>= f).evaluate sem i (x :: rest) w = some (.ok value, w'))
    : ∃ answer middle, sem.act i op x w = some (.ok answer, middle)
      ∧ (f answer).evaluate sem i rest middle = some (.ok value, w') := by
  obtain ⟨⟨reply, middle⟩, answered, later⟩ := Option.bind_eq_some_iff.mp h
  cases reply with
  | error error => cases (Prod.mk.inj (Option.some.inj later)).1
  | ok answer => exact ⟨answer, middle, answered, later⟩

theorem Prog.evaluates_of_evaluate {i : Nat} {prog : Prog I α} {choices : List C} {w w' : W}
    {result : Except I.Err α} (h : prog.evaluate sem i choices w = some (result, w'))
    : prog.Evaluates sem i w result w' := by
  induction prog generalizing choices w with
  | done value =>
      obtain ⟨rfl, rfl⟩ := Prod.mk.inj (Option.some.inj h)
      exact ⟨rfl, rfl⟩
  | fail error =>
      obtain ⟨rfl, rfl⟩ := Prod.mk.inj (Option.some.inj h)
      exact ⟨rfl, rfl⟩
  | call op next ih =>
      cases choices with
      | nil => cases h
      | cons x rest =>
          obtain ⟨⟨reply, middle⟩, answered, later⟩ := Option.bind_eq_some_iff.mp h
          exact ⟨x, reply, middle, answered, ih reply later⟩

/-- The world a program leaves under given choices. -/
def Prog.after (sem : Semantics I W C) (i : Nat) (choices : List C) (prog : Prog I α) (w : W) : W :=
  ((prog.evaluate sem i choices w).map Prod.snd).getD w

theorem Prog.evaluate_after {i : Nat} {prog : Prog I α} {choices : List C} {w : W}
    {result : Except I.Err α} (h : (prog.evaluate sem i choices w).map Prod.fst = some result)
    : prog.evaluate sem i choices w = some (result, prog.after sem i choices w) := by
  obtain ⟨⟨result', w'⟩, executed, same⟩ := Option.map_eq_some_iff.mp h
  obtain rfl : result' = result := same
  have left : prog.after sem i choices w = w' := by simp [Prog.after, executed]
  rw [left, executed]

/-- A program that ends under given choices ends in the world it leaves under them. -/
theorem Prog.evaluates_after {i : Nat} {prog : Prog I α} {choices : List C} {w : W}
    {result : Except I.Err α} (h : (prog.evaluate sem i choices w).map Prod.fst = some result)
    : prog.Evaluates sem i w result (prog.after sem i choices w) :=
  evaluates_of_evaluate (evaluate_after h)

theorem Prog.evaluates_of_map {B : Type} {i : Nat} {prog : Prog I α} {choices : List C}
    {w : W} {read : Except I.Err α × W → B} {b : B}
    (h : (prog.evaluate sem i choices w).map read = some b)
    : ∃ result w', prog.Evaluates sem i w result w' ∧ prog.after sem i choices w = w'
        ∧ read (result, w') = b := by
  obtain ⟨⟨result, w'⟩, executed, same⟩ := Option.map_eq_some_iff.mp h
  have left : prog.after sem i choices w = w' := by simp [Prog.after, executed]
  exact ⟨result, w', evaluates_of_evaluate executed, left, same⟩

section

variable {i : Nat}

-- Traces

/-- The calls made and the choices they were answered under, the newest first. -/
abbrev Trace (I : Interface) (C : Type) :=
  List (I.Op × C)

/-- The same effects, with every call recorded beside the world. -/
def Semantics.traced (sem : Semantics I W C) : Semantics I (W × Trace I C) C where
  act i op x w := (sem.act i op x w.1).map (fun (reply, w') => (reply, (w', (op, x) :: w.2)))

theorem Semantics.traced_eq_some {op : I.Op} {x : C} {w w' : W × Trace I C} {reply : I.Reply op}
    : sem.traced.act i op x w = some (reply, w')
      ↔ sem.act i op x w.1 = some (reply, w'.1) ∧ w'.2 = (op, x) :: w.2 := by
  obtain ⟨after, trace⟩ := w'
  constructor
  · intro h
    obtain ⟨⟨reply', after'⟩, answered, same⟩ := Option.map_eq_some_iff.mp h
    obtain ⟨rfl, left⟩ := Prod.mk.inj same
    obtain ⟨rfl, rfl⟩ := Prod.mk.inj left
    exact ⟨answered, rfl⟩
  · rintro ⟨answered, rfl⟩
    exact Option.map_eq_some_iff.mpr ⟨_, answered, rfl⟩

-- Evaluations from their parts

variable {w middle w' : W}

theorem Prog.Evaluates.bind {prog : Prog I α} {next : α → Prog I β} {value : α}
    {result : Except I.Err β} (h : prog.Evaluates sem i w (.ok value) middle)
    (rest : (next value).Evaluates sem i middle result w')
    : (prog >>= next).Evaluates sem i w result w' := by
  change (prog.bind next).Evaluates sem i w result w'
  induction prog generalizing w with
  | done value' =>
      obtain ⟨same, rfl⟩ := h
      obtain rfl := Except.ok.inj same
      exact rest
  | fail error => cases h.1
  | call op resume ih =>
      obtain ⟨x, reply, between, answered, later⟩ := h
      exact ⟨x, reply, between, answered, ih reply later⟩

/-- A call that is answered with a value. -/
theorem Prog.evaluates_await {op : I.Op} {x : C} {value : I.Ret op}
    (h : sem.act i op x w = some (.ok value, w'))
    : (Prog.await op).Evaluates sem i w (.ok value) w' :=
  ⟨x, .ok value, w', h, rfl, rfl⟩

theorem Prog.evaluates_orThrow {value : α} {found : Option α} {error : I.Err}
    (h : found = some value)
    : (Prog.orThrow found error).Evaluates sem i w (.ok value) w := by
  subst h
  exact ⟨rfl, rfl⟩

theorem Prog.evaluates_fromExcept {value : α} {result : Except I.Err α} (h : result = .ok value)
    : (Prog.fromExcept result).Evaluates sem i w (.ok value) w := by
  subst h
  exact ⟨rfl, rfl⟩

theorem Prog.evaluates_ensure {check : Bool} {error : I.Err} (h : check = true)
    : (Prog.ensure check error).Evaluates sem i w (.ok ()) w := by
  subst h
  exact ⟨rfl, rfl⟩

end

-- Snapshots

namespace Prog

/-- The result of a program whose calls are answered by `reply`. -/
def answered (reply : (op : I.Op) → I.Reply op) : Prog I α → Except I.Err α
  | .done value => .ok value
  | .fail error => .error error
  | .call op next => (next (reply op)).answered reply

variable {reply : (op : I.Op) → I.Reply op}

@[simp] theorem answered_done {value : α} : (Prog.done value).answered reply = .ok value := rfl

@[simp] theorem answered_fail {error : I.Err}
    : (Prog.fail error : Prog I α).answered reply = .error error :=
  rfl

@[simp] theorem answered_pure {value : α} : (pure value : Prog I α).answered reply
  = .ok value := rfl

/-- A sequence has the result of its second program, unless the first one throws. -/
@[simp] theorem answered_bind {prog : Prog I α} {f : α → Prog I β}
    : (prog >>= f).answered reply = (prog.answered reply).bind
        (fun value => (f value).answered reply) := by
  change (prog.bind f).answered reply = _
  induction prog with
  | done value => rfl
  | fail error => rfl
  | call op next ih => exact ih (reply op)

theorem answered_catchWith {prog : Prog I α} {handler : I.Err → Prog I α} {value : α}
    (h : prog.answered reply = .ok value)
    : (prog.catchWith handler).answered reply = .ok value := by
  induction prog with
  | done value => exact h
  | fail error => cases h
  | call op next ih => exact ih (reply op) h

@[simp] theorem answered_await {op : I.Op} : (await op).answered reply = reply op := by
  simp only [await, answered]
  cases reply op <;> rfl

@[simp] theorem answered_fromExcept {result : Except I.Err α}
    : (fromExcept result).answered reply = result := by
  cases result <;> rfl

@[simp] theorem answered_ensure {check : Bool} {error : I.Err}
    : (ensure check error).answered reply = if check then .ok () else .error error := by
  cases check <;> rfl

@[simp] theorem answered_orThrow {value : Option α} {error : I.Err}
    : (orThrow value error).answered reply = value.elim (.error error) .ok := by
  cases value <;> rfl

/-- Where each call the program may issue can be answered so and leave the world, the program
has this result and leaves the world.
-/
theorem evaluates_answered {W C : Type} {sem : Semantics I W C} {i : Nat} {w : W} {p : I.Op → Prop}
    {prog : Prog I α} {Q : α → Prop} {E : I.Err → Prop}
    (answers : ∀ op, p op → ∃ x, sem.act i op x w = some (reply op, w))
    (only : (Protocol.only p).wp prog () (fun value _ => Q value) (fun error _ => E error))
    : prog.Evaluates sem i w (prog.answered reply) w := by
  induction prog with
  | done value => exact ⟨rfl, rfl⟩
  | fail error => exact ⟨rfl, rfl⟩
  | call op next ih =>
      obtain ⟨_, moved, rest⟩ := only (reply op)
      obtain ⟨x, answer⟩ := answers op (Protocol.only_next.mp moved)
      exact ⟨x, reply op, w, answer, ih (reply op) rest⟩

theorem evaluates_answered_all {W C : Type} {sem : Semantics I W C} {i : Nat} {w : W}
    {prog : Prog I α}
    (answers : ∀ op, ∃ x, sem.act i op x w = some (reply op, w))
    : prog.Evaluates sem i w (prog.answered reply) w := by
  induction prog with
  | done value => exact ⟨rfl, rfl⟩
  | fail error => exact ⟨rfl, rfl⟩
  | call op next ih =>
      obtain ⟨x, answer⟩ := answers op
      exact ⟨x, reply op, w, answer, ih (reply op)⟩

end Prog

end AcbuBackend.Effects
