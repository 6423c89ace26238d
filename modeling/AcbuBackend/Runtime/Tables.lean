import Mathlib.Data.List.AList
import Mathlib.Algebra.BigOperators.Group.List.Basic
import Mathlib.Tactic.Abel

/-! Tables of rows: sums over the rows, what a written row changes in them, and updates of
many rows at once.
-/

namespace AcbuBackend.Runtime

variable {κ ρ A : Type} [DecidableEq κ] [AddCommMonoid A]
  {table : AList (fun _ : κ => ρ)} {id : κ} {row old : ρ} {measure measure' : κ → ρ → A}

def tableSum (table : AList (fun _ : κ => ρ)) (measure : κ → ρ → A) : A :=
  (table.entries.map (fun e => measure e.1 e.2)).sum

theorem tableSum_congr
    (same : ∀ id row, table.lookup id = some row → measure id row = measure' id row)
    : tableSum table measure = tableSum table measure' := by
  unfold tableSum
  congr 1
  refine List.map_congr_left fun e member => ?_
  exact same e.1 e.2 (AList.mem_lookup_iff.mpr member)

theorem tableSum_insert_fresh (fresh : id ∉ table)
    : tableSum (table.insert id row) measure = measure id row + tableSum table measure := by
  rw [tableSum, AList.entries_insert_of_notMem fresh, List.map_cons, List.sum_cons]
  rfl

theorem tableSum_insert_of_lookup (found : table.lookup id = some old)
    : tableSum (table.insert id row) measure + measure id old
      = measure id row + tableSum table measure := by
  have member : id ∈ table := AList.lookup_isSome.mp (found ▸ rfl)
  obtain ⟨value, before, after, -, split, erased⟩ :=
    List.exists_of_kerase (AList.mem_keys.mp member)
  have there : table.lookup id = some value := AList.mem_lookup_iff.mpr (by
    rw [split]
    exact List.mem_append_right _ List.mem_cons_self)
  obtain rfl := Option.some.inj (there.symm.trans found)
  rw [tableSum, tableSum, AList.entries_insert, erased, split]
  simp only [List.map_append, List.map_cons, List.sum_append, List.sum_cons]
  abel

/-- Every row rewritten, by its key and its value. -/
def updateRows (table : AList (fun _ : κ => ρ)) (f : κ → ρ → ρ) : AList (fun _ : κ => ρ) :=
  ⟨table.entries.map (.map (fun key => key) f), table.nodupKeys.map₂ f table.entries⟩

@[simp] theorem lookup_updateRows {f : κ → ρ → ρ}
    : (updateRows table f).lookup id = (table.lookup id).map (f id) :=
  List.dlookup_map₂ id

/-- `deleteMany`: the table without the rows that match. -/
def deleteRows (table : AList (fun _ : κ => ρ)) (matching : ρ → Bool) : AList (fun _ : κ => ρ) :=
  ⟨table.entries.filter (fun e => !matching e.2), table.nodupKeys.sublist List.filter_sublist⟩

theorem lookup_deleteRows {matching : ρ → Bool}
    : (deleteRows table matching).lookup id = (table.lookup id).filter
        (fun row => !matching row) := by
  refine Option.ext fun row => ?_
  have there : table.lookup id = some row ↔ ⟨id, row⟩ ∈ table.entries := AList.mem_lookup_iff
  have kept : (deleteRows table matching).lookup id = some row
      ↔ ⟨id, row⟩ ∈ (deleteRows table matching).entries := AList.mem_lookup_iff
  rw [kept, Option.filter_eq_some_iff, there]
  exact List.mem_filter

end AcbuBackend.Runtime
