import AcbuBackend.Effects.Program

/-! Call protocols and the pre- and postconditions of programs that follow them.
A protocol abstracts a program to a phase: which calls are allowed in a phase and how
their replies move it. `Protocol.wp` is the weakest precondition calculus of this reading.
-/

namespace AcbuBackend.Effects

/-- The phases of a caller. `next` is `none` on a call the phase does not allow. -/
structure Protocol (I : Interface) (S : Type) where
  next : S → (op : I.Op) → I.Reply op → Option S

namespace Protocol

variable {I : Interface} {S α β : Type} (P : Protocol I S)

/-- From `phase`, the program issues only allowed calls, whatever they are answered with;
it ends in `Q` with a value, or in `E` with an error.
-/
def wp : Prog I α → S → (α → S → Prop) → (I.Err → S → Prop) → Prop
  | .done value, phase, Q, _ => Q value phase
  | .fail error, phase, _, E => E error phase
  | .call op next, phase, Q, E =>
      ∀ reply, ∃ phase', P.next phase op reply = some phase' ∧ wp (next reply) phase' Q E

variable {P} {phase : S} {Q : α → S → Prop} {E : I.Err → S → Prop}

@[simp] theorem wp_done {value : α} : P.wp (.done value) phase Q E ↔ Q value phase := Iff.rfl

@[simp] theorem wp_fail {error : I.Err} : P.wp (.fail error) phase Q E ↔ E error phase :=
  Iff.rfl

@[simp] theorem wp_pure {value : α}
    : P.wp (pure value : Prog I α) phase Q E ↔ Q value phase :=
  Iff.rfl

/-- A sequence is judged by its first program, whose value starts the second. -/
@[simp] theorem wp_bind {prog : Prog I α} {f : α → Prog I β} {Q : β → S → Prop}
    : P.wp (prog >>= f) phase Q E
      ↔ P.wp prog phase (fun value phase' => P.wp (f value) phase' Q E) E := by
  change P.wp (prog.bind f) phase Q E ↔ _
  induction prog generalizing phase with
  | done value => rfl
  | fail error => rfl
  | call op next ih =>
      simp only [Prog.bind, wp]
      exact forall_congr' fun reply => exists_congr fun phase' =>
        and_congr_right fun _ => ih reply

@[simp] theorem wp_catchWith {prog : Prog I α} {handler : I.Err → Prog I α}
    : P.wp (prog.catchWith handler) phase Q E
      ↔ P.wp prog phase Q (fun error phase' => P.wp (handler error) phase' Q E) := by
  induction prog generalizing phase with
  | done value => rfl
  | fail error => rfl
  | call op next ih =>
      simp only [Prog.catchWith, wp]
      exact forall_congr' fun reply => exists_congr fun phase' =>
        and_congr_right fun _ => ih reply

/-- A single call: its value continues, its error is thrown. -/
@[simp] theorem wp_await {op : I.Op} {Q : I.Ret op → S → Prop}
    : @Protocol.wp I S (no_index (I.Ret op)) P (Prog.await op) phase Q E
      ↔ (∀ value, ∃ phase', P.next phase op (.ok value) = some phase' ∧ Q value phase')
        ∧ (∀ error, ∃ phase', P.next phase op (.error error) = some phase' ∧ E error phase') := by
  simp only [Prog.await, wp]
  constructor
  · intro h
    exact ⟨fun value => h (.ok value), fun error => h (.error error)⟩
  · rintro ⟨hok, herr⟩ (error | value)
    · exact herr error
    · exact hok value

@[simp] theorem wp_fromExcept {result : Except I.Err α}
    : P.wp (Prog.fromExcept result) phase Q E
      ↔ (∀ value, result = .ok value → Q value phase)
        ∧ (∀ error, result = .error error → E error phase) := by
  cases result <;> simp [Prog.fromExcept]

@[simp] theorem wp_ensure {check : Bool} {error : I.Err} {Q : Unit → S → Prop}
    : P.wp (Prog.ensure check error) phase Q E
      ↔ (check = true → Q () phase) ∧ (check = false → E error phase) := by
  cases check <;> simp [Prog.ensure]

@[simp] theorem wp_orThrow {value : Option α} {error : I.Err}
    : P.wp (Prog.orThrow value error) phase Q E
      ↔ (∀ v, value = some v → Q v phase) ∧ (value = none → E error phase) := by
  cases value <;> simp [Prog.orThrow]

@[simp] theorem wp_swallow {body : Prog I Unit} {Q : Unit → S → Prop}
    : P.wp body.swallow phase Q E ↔ P.wp body phase Q (fun _ phase' => Q () phase') :=
  wp_catchWith

@[simp] theorem wp_ite {c : Prop} [Decidable c] {yes no : Prog I α}
    : P.wp (if c then yes else no) phase Q E
      ↔ (c → P.wp yes phase Q E) ∧ (¬ c → P.wp no phase Q E) := by
  split <;> simp_all

/-- Weaker postconditions are easier to meet. -/
theorem wp_mono {prog : Prog I α} {Q' : α → S → Prop} {E' : I.Err → S → Prop}
    (h : P.wp prog phase Q E) (hQ : ∀ value phase', Q value phase' → Q' value phase')
    (hE : ∀ error phase', E error phase' → E' error phase')
    : P.wp prog phase Q' E' := by
  induction prog generalizing phase with
  | done value => exact hQ value phase h
  | fail error => exact hE error phase h
  | call op next ih =>
      intro reply
      obtain ⟨phase', moved, rest⟩ := h reply
      exact ⟨phase', moved, ih reply rest⟩

theorem wp_of_total (inv : S → Prop) {prog : Prog I α}
    (total : ∀ phase op reply, inv phase →
      ∃ phase', P.next phase op reply = some phase' ∧ inv phase')
    (h : inv phase)
    : P.wp prog phase (fun _ _ => True) (fun _ _ => True) := by
  induction prog generalizing phase with
  | done value => trivial
  | fail error => trivial
  | call op next ih =>
      intro reply
      obtain ⟨phase', moved, kept⟩ := total phase op reply h
      exact ⟨phase', moved, ih reply kept⟩

theorem wp_of_simulation {T : Type} {R : Protocol I T} (similar : S → T → Prop)
    (moves : ∀ phase phase' other op reply,
      similar phase other → P.next phase op reply = some phase' →
      ∃ other', R.next other op reply = some other' ∧ similar phase' other')
    {prog : Prog I α} {other : T} (h : P.wp prog phase Q E) (start : similar phase other)
    : R.wp prog other
        (fun value other' => ∃ phase', similar phase' other' ∧ Q value phase')
        (fun error other' => ∃ phase', similar phase' other' ∧ E error phase') := by
  induction prog generalizing phase other with
  | done value => exact ⟨phase, start, h⟩
  | fail error => exact ⟨phase, start, h⟩
  | call op next ih =>
      intro reply
      obtain ⟨phase', moved, rest⟩ := h reply
      obtain ⟨other', movedOther, later⟩ := moves phase phase' other op reply start moved
      exact ⟨other', movedOther, ih reply rest later⟩

/-- Two protocols kept at once. -/
def prod {T : Type} (P : Protocol I S) (R : Protocol I T) : Protocol I (S × T) where
  next phases op reply :=
    (P.next phases.1 op reply).bind (fun phase =>
      (R.next phases.2 op reply).map (fun other => (phase, other)))

/-- The conjunction rule: what two protocols know of a program holds together. -/
theorem wp_prod {T : Type} {R : Protocol I T} {prog : Prog I α} {other : T}
    {Q' : α → T → Prop} {E' : I.Err → T → Prop}
    (h : P.wp prog phase Q E) (h' : R.wp prog other Q' E')
    : (P.prod R).wp prog (phase, other)
        (fun value phases => Q value phases.1 ∧ Q' value phases.2)
        (fun error phases => E error phases.1 ∧ E' error phases.2) := by
  induction prog generalizing phase other with
  | done value => exact ⟨h, h'⟩
  | fail error => exact ⟨h, h'⟩
  | call op next ih =>
      intro reply
      obtain ⟨phase', moved, rest⟩ := h reply
      obtain ⟨other', moved', rest'⟩ := h' reply
      exact ⟨(phase', other'), by simp [prod, moved, moved'], ih reply rest rest'⟩

end Protocol

-- Programs inside a larger interface

/-- The calls of `I` as calls of `J`, with what a caller in `I` sees of their answers. -/
structure Inclusion (I J : Interface) where
  op : I.Op → J.Op
  value : ∀ call, J.Ret (op call) → I.Ret call
  error : J.Err → I.Err
  throws : I.Err → J.Err

variable {I J : Interface} {S T α : Type}

def Inclusion.reply (ι : Inclusion I J) (call : I.Op) : J.Reply (ι.op call) → I.Reply call
  | .ok value => .ok (ι.value call value)
  | .error error => .error (ι.error error)

/-- A program of `I` with its calls issued in `J`. -/
def Prog.within (ι : Inclusion I J) : Prog I α → Prog J α
  | .done value => .done value
  | .fail error => .fail (ι.throws error)
  | .call op next => .call (ι.op op) (fun reply => (next (ι.reply op reply)).within ι)

/-- What is known of a program by a protocol of its own interface holds inside the larger
one, where that one makes the corresponding moves.
-/
theorem Protocol.wp_within {P : Protocol I S} {R : Protocol J T} {ι : Inclusion I J}
    (similar : S → T → Prop)
    (moves : ∀ phase phase' outer op reply,
      similar phase outer → P.next phase op (ι.reply op reply) = some phase' →
      ∃ outer', R.next outer (ι.op op) reply = some outer' ∧ similar phase' outer')
    {prog : Prog I α} {phase : S} {outer : T} {Q : α → S → Prop} {E : I.Err → S → Prop}
    (h : P.wp prog phase Q E) (start : similar phase outer)
    : R.wp (prog.within ι) outer
        (fun value outer' => ∃ phase', similar phase' outer' ∧ Q value phase')
        (fun _ outer' => ∃ error phase', similar phase' outer' ∧ E error phase') := by
  induction prog generalizing phase outer with
  | done value => exact ⟨phase, start, h⟩
  | fail error => exact ⟨error, phase, start, h⟩
  | call op next ih =>
      intro reply
      obtain ⟨phase', moved, rest⟩ := h (ι.reply op reply)
      obtain ⟨outer', movedOuter, later⟩ := moves phase phase' outer op reply start moved
      exact ⟨outer', movedOuter, ih (ι.reply op reply) rest later⟩

theorem Protocol.wp_within_of_ignored {R : Protocol J T} {ι : Inclusion I J} {prog : Prog I α}
    {outer : T} (ignored : ∀ op reply, R.next outer (ι.op op) reply = some outer)
    : R.wp (prog.within ι) outer (fun _ outer' => outer' = outer)
        (fun _ outer' => outer' = outer) := by
  induction prog with
  | done value => rfl
  | fail error => rfl
  | call op next ih => exact fun reply => ⟨outer, ignored op reply, ih (ι.reply op reply)⟩

end AcbuBackend.Effects
