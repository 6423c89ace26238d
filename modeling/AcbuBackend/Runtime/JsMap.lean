import Mathlib.Algebra.BigOperators.Group.List.Basic
import Mathlib.Data.List.Nodup
import Mathlib.Tactic.Abel

/-! JavaScript maps: their entries in the order in which the keys were first set. -/

namespace AcbuBackend.Runtime

variable {κ ν : Type} [DecidableEq κ]

structure JsMap (κ ν : Type) where
  entries : List (κ × ν)
  distinct : (entries.map Prod.fst).Nodup

namespace JsMap

def empty : JsMap κ ν where
  entries := []
  distinct := .nil

def keys (m : JsMap κ ν) : List κ :=
  m.entries.map Prod.fst

def values (m : JsMap κ ν) : List ν :=
  m.entries.map Prod.snd

/-- `m.get(key)`. -/
def get (m : JsMap κ ν) (key : κ) : Option ν :=
  m.entries.lookup key

/-- `m.set(key, value)`: a key that is there keeps its place. -/
def set (m : JsMap κ ν) (key : κ) (value : ν) : JsMap κ ν where
  entries :=
    if key ∈ m.keys then m.entries.map (fun e => if e.1 = key then (key, value) else e)
    else m.entries ++ [(key, value)]
  distinct := by
    split
    · have same : (m.entries.map (fun e => if e.1 = key then (key, value) else e)).map Prod.fst
          = m.keys := by
        rw [List.map_map]
        refine List.map_congr_left fun e _ => ?_
        dsimp only [Function.comp]
        split
        · rename_i found
          exact found.symm
        · rfl
      rw [same]
      exact m.distinct
    · rename_i absent
      rw [List.map_append]
      refine List.Nodup.append m.distinct (List.nodup_singleton key) ?_
      exact List.disjoint_singleton.mpr absent

theorem entries_set_ne_nil {m : JsMap κ ν} {key : κ} {value : ν}
    : (m.set key value).entries ≠ [] := by
  intro empty
  change (if key ∈ m.keys then _ else m.entries ++ [(key, value)]) = [] at empty
  split at empty
  · rename_i there
    rw [List.map_eq_nil_iff] at empty
    rw [keys, empty] at there
    cases there
  · exact List.append_ne_nil_of_right_ne_nil _ (List.cons_ne_nil _ _) empty

theorem mem_entries_set {m : JsMap κ ν} {key : κ} {value : ν} {e : κ × ν}
    : e ∈ (m.set key value).entries ↔ e = (key, value) ∨ e.1 ≠ key ∧ e ∈ m.entries := by
  by_cases there : key ∈ m.keys
  · have entries : (m.set key value).entries
        = m.entries.map (fun e => if e.1 = key then (key, value) else e) := if_pos there
    rw [entries, List.mem_map]
    constructor
    · rintro ⟨other, member, rfl⟩
      split
      · exact .inl rfl
      · rename_i apart
        exact .inr ⟨apart, member⟩
    · rintro (rfl | ⟨apart, member⟩)
      · obtain ⟨other, member, same⟩ := List.mem_map.mp there
        exact ⟨other, member, if_pos same⟩
      · exact ⟨e, member, if_neg apart⟩
  · have entries : (m.set key value).entries = m.entries ++ [(key, value)] := if_neg there
    rw [entries, List.mem_append, List.mem_singleton, or_comm]
    refine or_congr_right ⟨fun member => ⟨?_, member⟩, And.right⟩
    rintro rfl
    exact there (List.mem_map_of_mem member)

theorem mem_entries_foldl_set {m : JsMap κ ν} {f : κ → ν} {keys : List κ} {e : κ × ν}
    : e ∈ (keys.foldl (fun m key => m.set key (f key)) m).entries
      ↔ e.1 ∈ keys ∧ e.2 = f e.1 ∨ e.1 ∉ keys ∧ e ∈ m.entries := by
  induction keys generalizing m with
  | nil => simp
  | cons key keys ih =>
      have set : e = (key, f key) ↔ e.1 = key ∧ e.2 = f e.1 :=
        ⟨by rintro rfl; exact ⟨rfl, rfl⟩, fun ⟨same, value⟩ => Prod.ext same (same ▸ value)⟩
      rw [List.foldl_cons, ih, mem_entries_set, set, List.mem_cons]
      by_cases same : e.1 = key
      · simp only [same, ne_eq, not_true, false_and, or_false, true_and, true_or]
        rw [← or_and_right, and_iff_right (Classical.em _)]
      · simp [same]

theorem mem_entries_of_get {m : JsMap κ ν} {key : κ} {value : ν} (found : m.get key = some value)
    : (key, value) ∈ m.entries := by
  obtain ⟨before, after, shape, -⟩ := List.lookup_eq_some_iff.mp found
  rw [shape]
  exact List.mem_append_right _ List.mem_cons_self

theorem get_isSome {m : JsMap κ ν} {key : κ} : (m.get key).isSome ↔ key ∈ m.keys := by
  rw [get, keys, List.lookup_isSome_iff, List.mem_map]
  refine exists_congr fun e => and_congr_right fun _ => ?_
  rw [beq_iff_eq, eq_comm]

/-- `new Map(entries)`. -/
def ofEntries (entries : List (κ × ν)) : JsMap κ ν :=
  entries.foldl (fun m e => m.set e.1 e.2) empty

theorem entries_foldl_set {m : JsMap κ ν} {entries : List (κ × ν)}
    (distinct : (m.keys ++ entries.map Prod.fst).Nodup)
    : (entries.foldl (fun m e => m.set e.1 e.2) m).entries = m.entries ++ entries := by
  induction entries generalizing m with
  | nil => simp
  | cons e rest ih =>
      have fresh : e.1 ∉ m.keys := fun there =>
        List.disjoint_of_nodup_append distinct there List.mem_cons_self
      have added : (m.set e.1 e.2).entries = m.entries ++ [e] := if_neg fresh
      rw [List.foldl_cons, ih, added, List.append_assoc]
      · rfl
      · rw [keys, added, List.map_append, List.append_assoc]
        exact distinct

theorem entries_ofEntries {entries : List (κ × ν)} (distinct : (entries.map Prod.fst).Nodup)
    : (ofEntries entries).entries = entries := by
  rw [ofEntries, entries_foldl_set (by simpa [keys, empty] using distinct)]
  rfl

section

variable {M : Type} [AddCommGroup M] {key : κ} {value : ν}

theorem sum_replaced (f : ν → M) {entries : List (κ × ν)} (distinct : (entries.map Prod.fst).Nodup)
    (there : key ∈ entries.map Prod.fst)
    : ((entries.map (fun e => if e.1 = key then (key, value) else e)).map (f ∘ Prod.snd)).sum
      = (entries.map (f ∘ Prod.snd)).sum - (entries.lookup key).elim 0 f + f value := by
  induction entries with
  | nil => cases there
  | cons e rest ih =>
      obtain ⟨fresh, distinct⟩ := List.nodup_cons.mp distinct
      by_cases own : e.1 = key
      · have kept : rest.map (fun e => if e.1 = key then (key, value) else e) = rest := by
          refine (List.map_congr_left fun other member => if_neg ?_).trans (List.map_id rest)
          rintro same
          exact fresh (own.trans same.symm ▸ List.mem_map_of_mem member)
        have found : (e :: rest).lookup key = some e.2 := by
          rw [List.lookup_cons, beq_iff_eq.mpr own.symm]
        rw [List.map_cons, List.map_cons, List.sum_cons, if_pos own, kept, found, List.map_cons,
          List.sum_cons, Option.elim_some, Function.comp_apply, Function.comp_apply]
        abel
      · have later := (List.mem_cons.mp there).resolve_left fun same => own same.symm
        have passed : (e :: rest).lookup key = rest.lookup key := by
          rw [List.lookup_cons, beq_false_of_ne (Ne.symm own)]
        rw [List.map_cons, List.map_cons, List.sum_cons, if_neg own, passed, List.map_cons,
          List.sum_cons, ih distinct later]
        abel

theorem sum_values_set (f : ν → M) {m : JsMap κ ν}
    : ((m.set key value).values.map f).sum
      = (m.values.map f).sum - (m.get key).elim 0 f + f value := by
  rw [values, values, List.map_map, List.map_map, get]
  by_cases there : key ∈ m.keys
  · have entries : (m.set key value).entries
        = m.entries.map (fun e => if e.1 = key then (key, value) else e) := if_pos there
    rw [entries, sum_replaced f m.distinct there]
  · have entries : (m.set key value).entries = m.entries ++ [(key, value)] := if_neg there
    have none_ : m.entries.lookup key = none := by
      rw [List.lookup_eq_none_iff]
      intro e member
      rw [bne_iff_ne]
      rintro rfl
      exact there (List.mem_map_of_mem member)
    rw [entries, none_, List.map_append, List.sum_append, Option.elim_none, sub_zero,
      List.map_singleton, List.sum_singleton, Function.comp_apply]

end

end JsMap

end AcbuBackend.Runtime
