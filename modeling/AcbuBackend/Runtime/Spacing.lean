import Mathlib.Algebra.Order.BigOperators.Group.List
import Mathlib.Data.Rat.Cast.Order
import Mathlib.Tactic.Linarith

/-! Events that keep a distance: how many of them a window holds, and what they can add up to. -/

namespace AcbuBackend.Runtime

variable {α : Type} {time : α → Nat} {distance start count : Nat} {event : α} {events : List α}

/-- Events, the newest first, each at least a distance after all earlier ones. -/
def Spaced (time : α → Nat) (distance : Nat) (events : List α) : Prop :=
  events.Pairwise (fun later earlier => time earlier + distance ≤ time later)

def inWindow (time : α → Nat) (distance start count : Nat) (events : List α) : List α :=
  events.filter (fun event => start ≤ time event ∧ time event < start + count * distance)

theorem Spaced.cons (h : Spaced time distance events)
    (apart : ∀ earlier ∈ events, time earlier + distance ≤ time event)
    : Spaced time distance (event :: events) :=
  List.pairwise_cons.mpr ⟨apart, h⟩

theorem Spaced.length_inWindow_le (h : Spaced time distance events)
    : (inWindow time distance start count events).length ≤ count := by
  have spaced : Spaced time distance (inWindow time distance start count events) :=
    h.sublist List.filter_sublist
  have inside : ∀ event ∈ inWindow time distance start count events,
      start ≤ time event ∧ time event < start + count * distance := by
    intro event member
    simpa using (List.mem_filter.mp member).2
  generalize inWindow time distance start count events = window at spaced inside
  induction window generalizing count with
  | nil => exact Nat.zero_le _
  | cons newest older ih =>
      obtain ⟨apart, spaced⟩ := List.pairwise_cons.mp spaced
      obtain ⟨from', before⟩ := inside newest List.mem_cons_self
      cases count with
      | zero => omega
      | succ count =>
          rw [Nat.succ_mul] at before
          refine Nat.succ_le_succ (ih spaced fun event member => ?_)
          have earlier := apart event member
          exact ⟨(inside event (List.mem_cons_of_mem _ member)).1, by omega⟩

theorem Spaced.sum_inWindow_le {amount : α → ℚ} {bound slack : ℚ} (h : Spaced time distance events)
    (bounded : ∀ event ∈ events, amount event ≤ bound + slack) (nonneg : 0 ≤ bound)
    : ((inWindow time distance start count events).map amount).sum
      ≤ count * bound + (inWindow time distance start count events).length * slack := by
  have each : ∀ value ∈ (inWindow time distance start count events).map amount,
      value ≤ bound + slack := by
    intro value member
    obtain ⟨event, inside, rfl⟩ := List.mem_map.mp member
    exact bounded event (List.mem_filter.mp inside).1
  have few : ((inWindow time distance start count events).length : ℚ) ≤ count :=
    Nat.cast_le.mpr h.length_inWindow_le
  calc ((inWindow time distance start count events).map amount).sum
      ≤ (inWindow time distance start count events).length • (bound + slack) := by
        simpa using List.sum_le_card_nsmul _ _ each
    _ = (inWindow time distance start count events).length * bound
          + (inWindow time distance start count events).length * slack := by
        rw [nsmul_eq_mul, mul_add]
    _ ≤ count * bound + (inWindow time distance start count events).length * slack := by
        gcongr

end AcbuBackend.Runtime
