import AcbuBackend.Effects.Protocol
import Mathlib.Logic.Relation
import Mathlib.Logic.Function.Basic

/-! Interleaved runs of programs over a shared world.
One step performs one call of one thread. A run may be restricted by a side condition on
its steps; protocols reduce its invariants to the phases of the threads.
-/

namespace AcbuBackend.Effects

/-- The effect of a call issued by a caller, under a choice of the environment. `none`
when the environment cannot make that choice.
-/
structure Semantics (I : Interface) (W C : Type) where
  act : Nat → (op : I.Op) → C → W → Option (I.Reply op × W)

/-- A call together with its reply. -/
structure Event (I : Interface) where
  op : I.Op
  reply : I.Reply op

/-- A running program and its answered calls, the newest first. -/
structure Thread (I : Interface) (α : Type) where
  prog : Prog I α
  past : List (Event I)

/-- The shared world and the threads, a thread being identified by its position. -/
structure Config (I : Interface) (α W : Type) where
  world : W
  threads : List (Thread I α)

variable {I : Interface} {α W C S : Type}

namespace Config

/-- All programs at their start. -/
def initial (world : W) (progs : List (Prog I α)) : Config I α W :=
  { world, threads := progs.map (fun prog => { prog, past := [] }) }

/-- Thread `i` performs its next call under the choice `x`. -/
def step (sem : Semantics I W C) (c : Config I α W) (i : Nat) (x : C)
    : Option (Config I α W) :=
  match c.threads[i]? with
  | some ⟨.call op next, past⟩ =>
      (sem.act i op x c.world).map (fun (reply, world) =>
        { world, threads := c.threads.set i ⟨next reply, ⟨op, reply⟩ :: past⟩ })
  | _ => none

/-- One step of some thread that satisfies the side condition `ok`. -/
def Step (sem : Semantics I W C) (ok : Config I α W → Nat → C → Prop)
    (c c' : Config I α W)
    : Prop :=
  ∃ i x, ok c i x ∧ c.step sem i x = some c'

/-- `c'` is reached from `c` by steps that all satisfy `ok`. -/
def Reaches (sem : Semantics I W C) (ok : Config I α W → Nat → C → Prop)
    : Config I α W → Config I α W → Prop :=
  Relation.ReflTransGen (Step sem ok)

/-- A run under a side condition is a run under a weaker one. -/
theorem Reaches.mono {sem : Semantics I W C} {ok ok' : Config I α W → Nat → C → Prop}
    {c c' : Config I α W} (weaker : ∀ c i x, ok c i x → ok' c i x) (h : Reaches sem ok c c')
    : Reaches sem ok' c c' := by
  induction h with
  | refl => exact .refl
  | tail _ last ih =>
      obtain ⟨i, x, allowed, stepped⟩ := last
      exact ih.tail ⟨i, x, weaker _ _ _ allowed, stepped⟩

/-- The side condition that admits every step. -/
def anyStep : Config I α W → Nat → C → Prop :=
  fun _ _ _ => True

instance (c : Config I α W) (i : Nat) (x : C) : Decidable (anyStep c i x) :=
  .isTrue trivial

/-- The configuration after a schedule of steps that all satisfy `ok`. -/
def run (sem : Semantics I W C) (ok : Config I α W → Nat → C → Prop)
    [∀ c i x, Decidable (ok c i x)] (c : Config I α W)
    : List (Nat × C) → Option (Config I α W)
  | [] => some c
  | (i, x) :: rest =>
      if ok c i x then (c.step sem i x).bind (fun c' => c'.run sem ok rest) else none

theorem reaches_of_run {β : Type} {sem : Semantics I W C}
    {ok : Config I α W → Nat → C → Prop} [∀ c i x, Decidable (ok c i x)]
    {schedule : List (Nat × C)} {c : Config I α W} {f : Config I α W → β} {b : β}
    (h : (c.run sem ok schedule).map f = some b)
    : ∃ c', Reaches sem ok c c' ∧ f c' = b := by
  induction schedule generalizing c with
  | nil => exact ⟨c, .refl, Option.some.inj h⟩
  | cons head rest ih =>
      obtain ⟨last, executed, read⟩ := Option.map_eq_some_iff.mp h
      simp only [run] at executed
      split at executed
      · rename_i allowed
        obtain ⟨middle, first, later⟩ := Option.bind_eq_some_iff.mp executed
        obtain ⟨c', reached, value⟩ := ih (Option.map_eq_some_iff.mpr ⟨last, later, read⟩)
        exact ⟨c', .head ⟨head.1, head.2, allowed, first⟩ reached, value⟩
      · cases executed

/-- What a step does: one live thread issues its next call, is answered by the world and
records the event; every other thread is unchanged.
-/
theorem step_cases {sem : Semantics I W C} {c c' : Config I α W} {i : Nat} {x : C}
    (h : c.step sem i x = some c')
    : ∃ op next past reply world,
        c.threads[i]? = some ⟨.call op next, past⟩
        ∧ sem.act i op x c.world = some (reply, world)
        ∧ c' = { world, threads := c.threads.set i ⟨next reply, ⟨op, reply⟩ :: past⟩ } := by
  unfold step at h
  split at h
  · rename_i op next past found
    obtain ⟨⟨reply, world⟩, answered, rfl⟩ := Option.map_eq_some_iff.mp h
    exact ⟨op, next, past, reply, world, found, answered, rfl⟩
  · cases h

/-- The stepping thread is replaced. -/
theorem getElem?_set_self_of_found {threads : List (Thread I α)} {i : Nat}
    {old new : Thread I α} (found : threads[i]? = some old)
    : (threads.set i new)[i]? = some new := by
  obtain ⟨bound, _⟩ := List.getElem?_eq_some_iff.mp found
  exact List.getElem?_set_self bound

/-- Thread `i` is there and has not ended. -/
def live (c : Config I α W) (i : Nat) : Bool :=
  (c.threads[i]?).any (fun thread => !thread.prog.ended)

theorem lt_of_live {c : Config I α W} {i : Nat} (h : c.live i = true) : i < c.threads.length := by
  by_contra outside
  have absent : c.threads[i]? = none := by simpa using outside
  simp [live, absent] at h

/-- The call thread `i` is about to perform. -/
def pending? (c : Config I α W) (i : Nat) : Option I.Op :=
  (c.threads[i]?).bind (fun thread =>
    match thread.prog with
    | .call op _ => some op
    | _ => none)

theorem live_of_pending {c : Config I α W} {i : Nat} {op : I.Op} (h : c.pending? i = some op)
    : c.live i = true := by
  obtain ⟨thread, found, waiting⟩ := Option.bind_eq_some_iff.mp h
  unfold live
  rw [found]
  split at waiting
  · rename_i calls
    simp [calls]
  · cases waiting

/-- The answered calls of thread `i`, the newest first. -/
def past (c : Config I α W) (i : Nat) : List (Event I) :=
  (c.threads[i]?).elim [] Thread.past

/-- Nothing has been answered at the start. -/
@[simp] theorem past_initial {world : W} {progs : List (Prog I α)} {i : Nat}
    : (initial world progs).past i = [] := by
  simp only [past, initial, List.getElem?_map]
  cases progs[i]? <;> rfl

/-- The value thread `i` has finished with. -/
def value? (c : Config I α W) (i : Nat) : Option α :=
  (c.threads[i]?).bind (fun thread => thread.prog.value?)

/-- The error thread `i` has ended with. -/
def error? (c : Config I α W) (i : Nat) : Option I.Err :=
  (c.threads[i]?).bind (fun thread => thread.prog.error?)

/-- A run neither adds nor removes threads. -/
theorem length_threads_of_reaches {sem : Semantics I W C}
    {ok : Config I α W → Nat → C → Prop} {c c' : Config I α W} (h : Reaches sem ok c c')
    : c'.threads.length = c.threads.length := by
  induction h with
  | refl => rfl
  | tail _ last ih =>
      obtain ⟨i, x, -, stepped⟩ := last
      obtain ⟨_, _, _, _, _, _, _, rfl⟩ := step_cases stepped
      rw [List.length_set]
      exact ih

/-- A thread that has ended stays as it is. -/
theorem getElem?_of_reaches {sem : Semantics I W C} {ok : Config I α W → Nat → C → Prop}
    {c c' : Config I α W} {i : Nat} (ended : c.live i = false) (h : Reaches sem ok c c')
    : c'.threads[i]? = c.threads[i]? := by
  induction h with
  | refl => rfl
  | tail _ last ih =>
      obtain ⟨j, x, -, stepped⟩ := last
      obtain ⟨op, next, past, reply, world, found, -, rfl⟩ := step_cases stepped
      have other : j ≠ i := by
        rintro rfl
        rw [ih] at found
        simp [live, found, Prog.ended] at ended
      exact (List.getElem?_set_ne other).trans ih

theorem ended_of_reaches {sem : Semantics I W C} {ok : Config I α W → Nat → C → Prop}
    {c c' : Config I α W} {i : Nat} (ended : c.live i = false) (h : Reaches sem ok c c')
    : c'.live i = false := by
  rw [live, getElem?_of_reaches ended h]
  exact ended

theorem value?_of_reaches {sem : Semantics I W C} {ok : Config I α W → Nat → C → Prop}
    {c c' : Config I α W} {i : Nat} (ended : c.live i = false) (h : Reaches sem ok c c')
    : c'.value? i = c.value? i := by
  rw [value?, getElem?_of_reaches ended h, value?]

/-- Where every thread has ended, no run goes on. -/
theorem Reaches.eq_of_ended {sem : Semantics I W C} {ok : Config I α W → Nat → C → Prop}
    {c c' : Config I α W} (ended : ∀ i, c.live i = false) (h : Reaches sem ok c c')
    : c' = c := by
  induction h with
  | refl => rfl
  | tail _ last ih =>
      obtain ⟨i, x, -, stepped⟩ := last
      obtain ⟨op, next, past, reply, world, found, -, -⟩ := step_cases stepped
      have ended := ended i
      rw [ih] at found
      simp [live, found, Prog.ended] at ended

theorem ended_cases {c : Config I α W} {i : Nat} (bound : i < c.threads.length)
    (h : c.live i = false)
    : (∃ value, c.value? i = some value) ∨ ∃ error, c.error? i = some error := by
  have found : c.threads[i]? = some c.threads[i] := List.getElem?_eq_getElem bound
  have ended : c.threads[i].prog.ended = true := by simpa [live, found] using h
  rcases Prog.ended_cases ended with ⟨value, finished⟩ | ⟨error, failed⟩
  · exact .inl ⟨value, by simp [value?, found, finished, Prog.value?]⟩
  · exact .inr ⟨error, by simp [error?, found, failed, Prog.error?]⟩

theorem error?_of_value? {c : Config I α W} {i : Nat} {value : α} (h : c.value? i = some value)
    : c.error? i = none := by
  obtain ⟨thread, found, finished⟩ := Option.bind_eq_some_iff.mp h
  simp [error?, found, Prog.eq_done_of_value? finished, Prog.error?]

end Config

-- Phases of the threads

namespace Protocol

variable (P : Protocol I S)

/-- The phase a history of calls leads to from `start`. -/
def replay (start : S) : List (Event I) → Option S
  | [] => some start
  | event :: older => (replay start older).bind (fun phase => P.next phase event.op event.reply)

/-- A thread keeps to the protocol: its history is allowed, and so is what is left of it,
which ends in `Q` or `E`.
-/
def Follows (start : S) (Q : α → S → Prop) (E : I.Err → S → Prop) (thread : Thread I α)
    : Prop :=
  ∃ phase, P.replay start thread.past = some phase ∧ P.wp thread.prog phase Q E

/-- Every thread keeps to the protocol, from its own start and to its own postconditions. -/
def Governs (start : Nat → S) (Q : Nat → α → S → Prop) (E : Nat → I.Err → S → Prop)
    (c : Config I α W)
    : Prop :=
  ∀ i thread, c.threads[i]? = some thread → P.Follows (start i) (Q i) (E i) thread

/-- The phase thread `i` is in. -/
def phase (start : Nat → S) (c : Config I α W) (i : Nat) : S :=
  (P.replay (start i) (c.past i)).getD (start i)

@[simp] theorem phase_initial {start : Nat → S} {world : W} {progs : List (Prog I α)} {i : Nat}
    : P.phase start (Config.initial world progs) i = start i := by
  simp [Protocol.phase, replay]

theorem phase_of_none {start : Nat → S} {c : Config I α W} {i : Nat}
    (absent : c.threads[i]? = none)
    : P.phase start c i = start i := by
  simp [Protocol.phase, Config.past, absent, replay]

variable {P} {start : Nat → S} {Q : Nat → α → S → Prop} {E : Nat → I.Err → S → Prop}

theorem governs_initial {world : W} {progs : List (Prog I α)}
    (h : ∀ i prog, progs[i]? = some prog → P.wp prog (start i) (Q i) (E i))
    : P.Governs start Q E (Config.initial world progs) := by
  intro i thread found
  simp only [Config.initial, List.getElem?_map, Option.map_eq_some_iff] at found
  obtain ⟨prog, member, rfl⟩ := found
  exact ⟨start i, rfl, h i prog member⟩

theorem Governs.phase_eq {c : Config I α W} (h : P.Governs start Q E c) {i : Nat}
    {thread : Thread I α} (found : c.threads[i]? = some thread)
    : P.replay (start i) thread.past = some (P.phase start c i)
      ∧ P.wp thread.prog (P.phase start c i) (Q i) (E i) := by
  obtain ⟨phase, history, rest⟩ := h i thread found
  have same : P.phase start c i = phase := by
    simp [Protocol.phase, Config.past, found, history]
  exact ⟨same ▸ history, same ▸ rest⟩

theorem Governs.value {c : Config I α W} (h : P.Governs start Q E c) {i : Nat} {value : α}
    (finished : c.value? i = some value)
    : Q i value (P.phase start c i) := by
  obtain ⟨thread, found, finished⟩ := Option.bind_eq_some_iff.mp finished
  have rest := (h.phase_eq found).2
  rw [Prog.eq_done_of_value? finished] at rest
  exact rest

/-- The error a thread has ended with is one its program may end with. -/
theorem Governs.error {c : Config I α W} (h : P.Governs start Q E c) {i : Nat} {error : I.Err}
    (failed : c.error? i = some error)
    : E i error (P.phase start c i) := by
  obtain ⟨thread, found, failed⟩ := Option.bind_eq_some_iff.mp failed
  have rest := (h.phase_eq found).2
  rw [Prog.eq_fail_of_error? failed] at rest
  exact rest

/-- The call a thread is about to perform is allowed, whatever it will be answered with. -/
theorem Governs.pending {c : Config I α W} (h : P.Governs start Q E c) {i : Nat} {op : I.Op}
    (issues : c.pending? i = some op) (reply : I.Reply op)
    : ∃ phase, P.next (P.phase start c i) op reply = some phase := by
  obtain ⟨⟨prog, past⟩, found, issued⟩ := Option.bind_eq_some_iff.mp issues
  have rest := (h.phase_eq found).2
  cases prog with
  | done _ | fail _ => cases issued
  | call op' next =>
      obtain rfl := Option.some.inj issued
      obtain ⟨phase, moved, -⟩ := rest reply
      exact ⟨phase, moved⟩

/-- What a step does in the reading of a protocol: the call is allowed in the phase of its
thread and moves only that phase. Witness: `Config.step_cases` and the thread's own `wp`.
-/
theorem Governs.step_cases {sem : Semantics I W C} {c c' : Config I α W} {i : Nat} {x : C}
    (h : P.Governs start Q E c) (stepped : c.step sem i x = some c')
    : ∃ op reply,
        c.live i = true
        ∧ c.pending? i = some op
        ∧ sem.act i op x c.world = some (reply, c'.world)
        ∧ P.next (P.phase start c i) op reply = some (P.phase start c' i)
        ∧ c'.past i = ⟨op, reply⟩ :: c.past i
        ∧ (∀ j, j ≠ i →
            P.phase start c' j = P.phase start c j
            ∧ c'.live j = c.live j
            ∧ c'.past j = c.past j)
        ∧ P.Governs start Q E c' := by
  obtain ⟨op, next, past, reply, world, found, answered, rfl⟩ := Config.step_cases stepped
  obtain ⟨history, rest⟩ := h.phase_eq found
  obtain ⟨phase', moved, rest'⟩ := rest reply
  have replaced :
      (c.threads.set i ⟨next reply, ⟨op, reply⟩ :: past⟩)[i]?
        = some ⟨next reply, ⟨op, reply⟩ :: past⟩ :=
    Config.getElem?_set_self_of_found found
  have history' : P.replay (start i) (⟨op, reply⟩ :: past) = some phase' := by
    simp [replay, history, moved]
  refine ⟨op, reply, ?_, ?_, answered, ?_, ?_, ?_, ?_⟩
  · simp [Config.live, found]
  · simp [Config.pending?, found]
  · rw [moved]
    simp [Protocol.phase, Config.past, replaced, history']
  · simp [Config.past, replaced, found]
  · intro j other
    simp [Protocol.phase, Config.live, Config.past, List.getElem?_set_ne other.symm]
  · intro j thread member
    by_cases same : j = i
    · subst j
      rw [replaced] at member
      obtain rfl := Option.some.inj member
      exact ⟨phase', history', rest'⟩
    · rw [List.getElem?_set_ne (Ne.symm same)] at member
      exact h j thread member

theorem Governs.of_reaches {sem : Semantics I W C} {ok : Config I α W → Nat → C → Prop}
    {c c' : Config I α W} (h : P.Governs start Q E c) (reached : Config.Reaches sem ok c c')
    : P.Governs start Q E c' := by
  induction reached with
  | refl => exact h
  | tail _ last ih =>
      obtain ⟨i, x, -, stepped⟩ := last
      obtain ⟨_, _, _, _, _, _, _, _, governed⟩ := ih.step_cases stepped
      exact governed

/-- A thread whose calls can all be answered can be run to its end. Witness: induction on its
program.
-/
theorem Governs.exists_ended {sem : Semantics I W C} {ok : Config I α W → Nat → C → Prop}
    {c : Config I α W} {i : Nat} (h : P.Governs start Q E c)
    (answers : ∀ (c : Config I α W) phase op,
      (∀ reply, ∃ phase', P.next phase op reply = some phase') →
      ∃ x, ok c i x ∧ (sem.act i op x c.world).isSome = true)
    : ∃ c', Config.Reaches sem ok c c' ∧ c'.live i = false := by
  cases found : c.threads[i]? with
  | none => exact ⟨c, .refl, by simp [Config.live, found]⟩
  | some thread =>
      obtain ⟨prog, past⟩ := thread
      induction prog generalizing c past with
      | done value => exact ⟨c, .refl, by simp [Config.live, found, Prog.ended]⟩
      | fail error => exact ⟨c, .refl, by simp [Config.live, found, Prog.ended]⟩
      | call op next ih =>
          have rest := (h.phase_eq found).2
          obtain ⟨x, allowed, answered⟩ := answers c _ op fun reply =>
            (rest reply).imp fun _ known => known.1
          obtain ⟨⟨reply, world⟩, answered⟩ := Option.isSome_iff_exists.mp answered
          have stepped : c.step sem i x = some
              { world, threads := c.threads.set i ⟨next reply, ⟨op, reply⟩ :: past⟩ } := by
            simp [Config.step, found, answered]
          obtain ⟨_, _, _, _, _, _, _, _, h'⟩ := h.step_cases stepped
          obtain ⟨c', reached, ended⟩ := ih reply h' _ (Config.getElem?_set_self_of_found found)
          exact ⟨c', .head ⟨i, x, allowed, stepped⟩ reached, ended⟩

/-- All threads can be run to their ends, one after the other. -/
theorem Governs.exists_settled {sem : Semantics I W C} {ok : Config I α W → Nat → C → Prop}
    {c : Config I α W} (h : P.Governs start Q E c)
    (answers : ∀ (c : Config I α W) i phase op,
      (∀ reply, ∃ phase', P.next phase op reply = some phase') →
      ∃ x, ok c i x ∧ (sem.act i op x c.world).isSome = true)
    : ∃ c', Config.Reaches sem ok c c' ∧ ∀ i, c'.live i = false := by
  have first : ∀ n, ∃ c', Config.Reaches sem ok c c' ∧ P.Governs start Q E c'
      ∧ ∀ i < n, c'.live i = false := by
    intro n
    induction n with
    | zero => exact ⟨c, .refl, h, fun i bound => (Nat.not_lt_zero i bound).elim⟩
    | succ n ih =>
        obtain ⟨c₁, reached, governed, ended⟩ := ih
        obtain ⟨c₂, later, last⟩ := @Governs.exists_ended _ _ _ _ _ _ _ _ _ sem ok c₁ n governed
          fun c => answers c n
        refine ⟨c₂, reached.trans later, governed.of_reaches later, fun i bound => ?_⟩
        rcases Nat.lt_succ_iff_lt_or_eq.mp bound with before | rfl
        · exact Config.ended_of_reaches (ended i before) later
        · exact last
  obtain ⟨c', reached, -, ended⟩ := first c.threads.length
  refine ⟨c', reached, fun i => ?_⟩
  by_cases bound : i < c.threads.length
  · exact ended i bound
  · rw [← Config.length_threads_of_reaches reached] at bound
    exact Bool.eq_false_iff.mpr fun live => bound (Config.lt_of_live live)

/-- An invariant of the world and the phases holds in every configuration a run reaches.
Witness: induction on the run, the protocol being kept along with the invariant.
-/
theorem Governs.invariant {sem : Semantics I W C} {ok : Config I α W → Nat → C → Prop}
    {c₀ c : Config I α W} {J : Config I α W → Prop}
    (governed : P.Governs start Q E c₀) (base : J c₀)
    (preserved : ∀ c c' i x,
        P.Governs start Q E c → J c → ok c i x → c.step sem i x = some c' → J c')
    (reached : Config.Reaches sem ok c₀ c)
    : P.Governs start Q E c ∧ J c := by
  induction reached with
  | refl => exact ⟨governed, base⟩
  | tail _ last ih =>
      obtain ⟨i, x, allowed, stepped⟩ := last
      obtain ⟨_, _, _, _, _, _, _, _, governed'⟩ := ih.1.step_cases stepped
      exact ⟨governed', preserved _ _ i x ih.1 ih.2 allowed stepped⟩

/-- Where a protocol allows no call that changes the world, no run changes it. -/
theorem Governs.world_eq {sem : Semantics I W C} {ok : Config I α W → Nat → C → Prop}
    {c₀ c : Config I α W} (governed : P.Governs start Q E c₀)
    (reads : ∀ i phase phase' op reply x w w',
      P.next phase op reply = some phase' → sem.act i op x w = some (reply, w') → w' = w)
    (reached : Config.Reaches sem ok c₀ c)
    : P.Governs start Q E c ∧ c.world = c₀.world := by
  refine governed.invariant (J := fun c => c.world = c₀.world) rfl ?_ reached
  intro c c' i x governed same _ stepped
  obtain ⟨op, reply, _, _, answered, moved, _, _, _⟩ := governed.step_cases stepped
  exact (reads i _ _ op reply x _ _ moved answered).trans same

-- Observers

/-- The protocol that allows every call and records it. -/
def observer (record : S → Event I → S) : Protocol I S where
  next phase op reply := some (record phase ⟨op, reply⟩)

theorem replay_observer {record : S → Event I → S} {s : S} {past : List (Event I)}
    : (observer record).replay s past = some (past.foldr
        (fun event phase => record phase event) s) := by
  induction past with
  | nil => rfl
  | cons event older ih =>
      rw [replay, ih]
      rfl

theorem phase_observer {record : S → Event I → S} {start : Nat → S} {c : Config I α W} {i : Nat}
    : (observer record).phase start c i
      = (c.past i).foldr (fun event phase => record phase event) (start i) := by
  simp [Protocol.phase, replay_observer]

end Protocol

end AcbuBackend.Effects
