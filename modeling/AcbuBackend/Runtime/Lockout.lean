import Mathlib.Logic.Relation
import Mathlib.Data.List.Sublists
import Mathlib.Tactic.Common

/-! Lockout counters: guesses are counted, and from the `m`-th on every counted guess locks for a
duration. Guesses are made one at a time, while no lock is in force, and each is counted before
the next one.
-/

namespace AcbuBackend.Runtime.Lockout

/-- What is still to be done about the last guess: nothing, to count it, or to count it with a
lock from a time on.
-/
inductive Pending
  | none
  | guessed
  | stamped (time : Nat)
deriving DecidableEq

/-- A counter with its lock, the times of the guesses since it was reset, newest first, and the
clock.
-/
structure State where
  attempts : Nat
  lockedUntil : Option Nat
  guesses : List Nat
  pending : Pending
  clock : Nat

/-- No lock is in force at a time. -/
def Open (lockedUntil : Option Nat) (time : Nat) : Prop :=
  ∀ until' ∈ lockedUntil, until' ≤ time

theorem Open.mono {lockedUntil : Option Nat} {time later : Nat} (h : Open lockedUntil time)
    (le : time ≤ later)
    : Open lockedUntil later :=
  fun until' member => (h until' member).trans le

variable {m D : Nat}

/-- The steps of a counter with maximum `m` and lock duration `D`. -/
inductive Step (m D : Nat) : State → State → Prop
  | wait {s : State} {clock : Nat} (later : s.clock ≤ clock)
      : Step m D s { s with clock }
  | guess {s : State} (idle : s.pending = .none) (isOpen : Open s.lockedUntil s.clock)
      : Step m D s { s with guesses := s.clock :: s.guesses, pending := .guessed }
  | stamp {s : State} (guessed : s.pending = .guessed)
      : Step m D s { s with pending := .stamped s.clock }
  | count {s : State} (guessed : s.pending = .guessed) (few : s.attempts + 1 < m)
      : Step m D s { s with attempts := s.attempts + 1, lockedUntil := none, pending := .none }
  | lock {s : State} {time : Nat} (stamped : s.pending = .stamped time) (many : m ≤ s.attempts + 1)
      : Step m D s
          { s with attempts := s.attempts + 1, lockedUntil := some (time + D), pending := .none }
  | reset {s : State} (idle : s.pending = .none) (isOpen : Open s.lockedUntil s.clock)
      : Step m D s { s with attempts := 0, lockedUntil := none, guesses := [] }

/-- Any number of steps. -/
abbrev Steps (m D : Nat) : State → State → Prop :=
  Relation.ReflTransGen (Step m D)

def within (D time : Nat) (guesses : List Nat) : Nat :=
  guesses.countP (fun guess => time ≤ guess ∧ guess < time + D)

/-- What is known of a counter: its guesses are counted and past, where it has counted `m` they
are all locked out, no duration holds more than `m` of them, and while one is pending no lock is
in force.
-/
structure Sound (m D : Nat) (s : State) : Prop where
  counted : s.guesses.length ≤ s.attempts + (if s.pending = .none then 0 else 1)
  past : ∀ guess ∈ s.guesses, guess ≤ s.clock
  stamped : ∀ time, s.pending = .stamped time → ∀ guess ∈ s.guesses, guess ≤ time
  locked : s.pending = .none → m ≤ s.attempts → ∀ guess ∈ s.guesses,
    ∃ until' ∈ s.lockedUntil, guess + D ≤ until'
  isOpen : s.pending ≠ .none → Open s.lockedUntil s.clock
  window : ∀ time, within D time s.guesses ≤ m

theorem Sound.step {s s' : State} (positive : 0 < m) (h : Sound m D s) (step : Step m D s s')
    : Sound m D s' := by
  cases step with
  | wait later =>
      exact ⟨h.counted, fun guess member => (h.past guess member).trans later, h.stamped, h.locked,
        fun pending => (h.isOpen pending).mono later, h.window⟩
  | guess idle isOpen =>
      have length : s.guesses.length ≤ s.attempts := by simpa [idle] using h.counted
      refine ⟨?_, ?_, ?_, ?_, ?_, ?_⟩
      · simpa using length
      · exact List.forall_mem_cons.mpr ⟨Nat.le_refl _, h.past⟩
      · exact fun _ stamped => by cases stamped
      · exact fun counted => by cases counted
      · exact fun _ => isOpen
      · intro time
        rcases Nat.lt_or_ge s.attempts m with few | many
        · have all : within D time (s.clock :: s.guesses) ≤ s.guesses.length + 1 :=
            List.countP_le_length
          exact all.trans (by omega)
        · by_cases inWindow : time ≤ s.clock ∧ s.clock < time + D
          · -- the older guesses are locked out until now at the latest
            have before : within D time s.guesses = 0 := by
              refine List.countP_eq_zero.mpr fun guess member => ?_
              obtain ⟨until', there, after⟩ := h.locked idle many guess member
              have passed := isOpen until' there
              simp only [decide_eq_true_eq]
              omega
            have one : within D time (s.clock :: s.guesses) = within D time s.guesses + 1 :=
              List.countP_cons_of_pos (by simpa using inWindow)
            exact (one.trans (congrArg (· + 1) before)).trans_le positive
          · have same : within D time (s.clock :: s.guesses) = within D time s.guesses :=
              List.countP_cons_of_neg (by simpa using inWindow)
            exact same.trans_le (h.window time)
  | stamp guessed =>
      refine ⟨?_, h.past, ?_, ?_, ?_, h.window⟩
      · simpa [guessed] using h.counted
      · rintro _ ⟨⟩
        exact h.past
      · exact fun counted => by cases counted
      · exact fun _ => h.isOpen (by simp [guessed])
  | count guessed few =>
      refine ⟨?_, h.past, ?_, ?_, ?_, h.window⟩
      · simpa [guessed] using h.counted
      · exact fun _ stamped => by cases stamped
      · exact fun _ many => absurd few (Nat.not_lt.mpr many)
      · exact fun pending => absurd rfl pending
  | @lock time stamped many =>
      refine ⟨?_, h.past, ?_, ?_, ?_, h.window⟩
      · simpa [stamped] using h.counted
      · exact fun _ stamped => by cases stamped
      · intro _ _ guess member
        exact ⟨time + D, rfl, Nat.add_le_add_right (h.stamped time stamped guess member) D⟩
      · exact fun pending => absurd rfl pending
  | reset idle isOpen =>
      refine ⟨?_, ?_, ?_, ?_, ?_, ?_⟩
      · simp
      · simp
      · simp
      · simp
      · exact fun pending => absurd idle pending
      · simp [within]

theorem Sound.steps {s s' : State} (positive : 0 < m) (h : Sound m D s) (steps : Steps m D s s')
    : Sound m D s' := by
  induction steps with
  | refl => exact h
  | tail _ last ih => exact ih.step positive last

theorem sound_of_unguessed {s : State} (idle : s.pending = .none) (none : s.guesses = [])
    : Sound m D s := by
  constructor <;> simp [idle, none, within]

theorem within_le_of_sublist {time : Nat} {some all : List Nat} (sublist : some.Sublist all)
    : within D time some ≤ within D time all :=
  sublist.countP_le

end AcbuBackend.Runtime.Lockout
