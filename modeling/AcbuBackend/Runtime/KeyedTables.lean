import Mathlib.Data.List.AList

/-! Tables whose rows have an owner and may bear a key that is unique in the table.
The rows of one owner are compared in two tables, the second of which may lack rows of other
owners.
-/

namespace AcbuBackend.Runtime

/-- The columns of a table of keyed rows. -/
structure Keyed (ρ : Type) where
  owner : ρ → String
  key : ρ → Option String

namespace Keyed

variable {κ ρ : Type} [DecidableEq κ] (K : Keyed ρ)

/-- Some row bears the key. -/
def taken (table : AList (fun _ : κ => ρ)) (key : Option String) : Bool :=
  key.isSome && table.entries.any (fun e => K.key e.2 = key)

/-- A row of another owner bears the key. -/
def takenByOther (owner : String) (table : AList (fun _ : κ => ρ)) (key : Option String) : Bool :=
  key.isSome && table.entries.any (fun e => K.key e.2 = key && K.owner e.2 ≠ owner)

/-- No two rows bear the same key. -/
def Unique (table : AList (fun _ : κ => ρ)) : Prop :=
  ∀ id id' row row' key, table.lookup id = some row → table.lookup id' = some row' →
    K.key row = some key → K.key row' = some key → id = id'

/-- The second table is the first one, but for rows of other owners that it may lack. -/
structure Apart (owner : String) (table less : AList (fun _ : κ => ρ)) : Prop where
  own : ∀ id row, K.owner row = owner → (less.lookup id = some row ↔ table.lookup id = some row)
  others : ∀ id row, less.lookup id = some row → K.owner row ≠ owner →
    ∃ row', table.lookup id = some row' ∧ K.key row' = K.key row ∧ K.owner row' ≠ owner

variable {K} {table less : AList (fun _ : κ => ρ)} {id : κ} {row : ρ} {owner : String}
  {key : Option String}

theorem taken_iff
    : K.taken table key = true
      ↔ key.isSome = true ∧ ∃ id row, table.lookup id = some row ∧ K.key row = key := by
  simp only [taken, Bool.and_eq_true, List.any_eq_true, decide_eq_true_eq]
  refine and_congr_right fun _ => ⟨?_, ?_⟩
  · rintro ⟨⟨id, row⟩, member, bears⟩
    exact ⟨id, row, AList.mem_lookup_iff.mpr member, bears⟩
  · rintro ⟨id, row, found, bears⟩
    exact ⟨⟨id, row⟩, AList.mem_lookup_iff.mp found, bears⟩

theorem owner_of_bears (free : K.takenByOther owner table key = false) (keyed : key.isSome = true)
    (found : table.lookup id = some row) (bears : K.key row = key)
    : K.owner row = owner := by
  by_contra other
  have taken : K.takenByOther owner table key = true := by
    simp only [takenByOther, keyed, Bool.true_and, List.any_eq_true, Bool.and_eq_true,
      decide_eq_true_eq]
    exact ⟨⟨id, row⟩, AList.mem_lookup_iff.mp found, bears, other⟩
  rw [free] at taken
  cases taken

theorem find?_iff {p : ρ → Bool}
    (single : ∀ id id' row row', table.lookup id = some row → table.lookup id' = some row' →
      p row = true → p row' = true → id = id')
    : table.entries.find? (fun e => p e.2) = some ⟨id, row⟩
      ↔ table.lookup id = some row ∧ p row = true := by
  constructor
  · intro first
    exact ⟨AList.mem_lookup_iff.mpr (List.mem_of_find?_eq_some first),
      by simpa using List.find?_some first⟩
  · rintro ⟨found, wanted⟩
    have some : (table.entries.find? (fun e => p e.2)).isSome = true := by
      rw [List.find?_isSome]
      exact ⟨_, AList.mem_lookup_iff.mp found, wanted⟩
    obtain ⟨⟨id', row'⟩, first⟩ := Option.isSome_iff_exists.mp some
    have found' : table.lookup id' = .some row' :=
      AList.mem_lookup_iff.mpr (List.mem_of_find?_eq_some first)
    obtain rfl := single id' id row' row found' found (by simpa using List.find?_some first) wanted
    obtain rfl := Option.some.inj (found'.symm.trans found)
    exact first

-- Unique keys

theorem Unique.insert (h : K.Unique table)
    (free : ∀ k other row', K.key row = some k → table.lookup other = some row' →
      K.key row' = some k → other = id)
    : K.Unique (table.insert id row) := by
  intro first second row₁ row₂ k found₁ found₂ bears₁ bears₂
  by_cases isFirst : first = id
  · subst isFirst
    by_cases isSecond : second = first
    · exact isSecond.symm
    · rw [AList.lookup_insert] at found₁
      rw [AList.lookup_insert_ne isSecond] at found₂
      obtain rfl := Option.some.inj found₁
      exact (free k second row₂ bears₁ found₂ bears₂).symm
  · rw [AList.lookup_insert_ne isFirst] at found₁
    by_cases isSecond : second = id
    · subst isSecond
      rw [AList.lookup_insert] at found₂
      obtain rfl := Option.some.inj found₂
      exact free k first row₁ bears₂ found₁ bears₁
    · rw [AList.lookup_insert_ne isSecond] at found₂
      exact h first second row₁ row₂ k found₁ found₂ bears₁ bears₂

theorem Unique.insert_free (h : K.Unique table) (free : K.taken table (K.key row) = false)
    : K.Unique (table.insert id row) := by
  apply h.insert
  intro k other row' bears found bears'
  have taken : K.taken table (K.key row) = true :=
    taken_iff.mpr ⟨by simp [bears], other, row', found, bears'.trans bears.symm⟩
  rw [free] at taken
  cases taken

theorem Unique.insert_same {old : ρ} (h : K.Unique table) (found : table.lookup id = some old)
    (same : K.key row = K.key old)
    : K.Unique (table.insert id row) :=
  h.insert fun k other row' bears found' bears' =>
    h other id row' old k found' found bears' (same ▸ bears)

-- Two tables

theorem Apart.refl : K.Apart owner table table where
  own _ _ _ := Iff.rfl
  others _ row found other := ⟨row, found, rfl, other⟩

theorem Apart.mem (h : K.Apart owner table less) (there : id ∈ less) : id ∈ table := by
  obtain ⟨row, found⟩ := Option.isSome_iff_exists.mp (AList.lookup_isSome.mpr there)
  apply AList.lookup_isSome.mp
  by_cases mine : K.owner row = owner
  · rw [(h.own id row mine).mp found]
    rfl
  · obtain ⟨row', found', -⟩ := h.others id row found mine
    rw [found']
    rfl

theorem Apart.taken_eq (h : K.Apart owner table less)
    (free : K.takenByOther owner table key = false)
    : K.taken less key = K.taken table key := by
  rw [Bool.eq_iff_iff, taken_iff, taken_iff]
  refine and_congr_right fun keyed => ⟨?_, ?_⟩
  · rintro ⟨id, row, found, bears⟩
    by_cases mine : K.owner row = owner
    · exact ⟨id, row, (h.own id row mine).mp found, bears⟩
    · obtain ⟨row', found', same, -⟩ := h.others id row found mine
      exact ⟨id, row', found', same.trans bears⟩
  · rintro ⟨id, row, found, bears⟩
    have mine := owner_of_bears free keyed found bears
    exact ⟨id, row, (h.own id row mine).mpr found, bears⟩

theorem Apart.owner_of_bears (h : K.Apart owner table less)
    (free : K.takenByOther owner table key = false) (keyed : key.isSome = true)
    (there : table.lookup id = some row ∨ less.lookup id = some row) (bears : K.key row = key)
    : K.owner row = owner := by
  rcases there with found | found
  · exact Keyed.owner_of_bears free keyed found bears
  · by_contra other
    obtain ⟨row', found', same, other'⟩ := h.others id row found other
    exact other' (Keyed.owner_of_bears free keyed found' (same.trans bears))

theorem Apart.find?_eq (h : K.Apart owner table less) (unique : K.Unique table) {p : ρ → Bool}
    {k : String} (wanted : ∀ row, p row = true → K.key row = some k)
    (mine : ∀ id row, table.lookup id = some row ∨ less.lookup id = some row → p row = true →
      K.owner row = owner)
    : less.entries.find? (fun e => p e.2) = table.entries.find? (fun e => p e.2) := by
  have single : ∀ id id' row row', table.lookup id = some row → table.lookup id' = some row' →
      p row = true → p row' = true → id = id' :=
    fun id id' row row' found found' first second =>
      unique id id' row row' k found found' (wanted row first) (wanted row' second)
  have below : ∀ id row, less.lookup id = some row → p row = true → table.lookup id = some row :=
    fun id row found first => (h.own id row (mine id row (.inr found) first)).mp found
  apply Option.ext
  rintro ⟨id, row⟩
  rw [find?_iff single, find?_iff (fun id id' row row' found found' first second =>
    single id id' row row' (below id row found first) (below id' row' found' second) first second)]
  constructor
  · rintro ⟨found, first⟩
    exact ⟨below id row found first, first⟩
  · rintro ⟨found, first⟩
    exact ⟨(h.own id row (mine id row (.inl found) first)).mpr found, first⟩

theorem Apart.insert_own (h : K.Apart owner table less) (mine : K.owner row = owner)
    (before : ∀ old, table.lookup id = some old → K.owner old = owner)
    : K.Apart owner (table.insert id row) (less.insert id row) where
  own other row' mine' := by
    by_cases same : other = id
    · subst same
      rw [AList.lookup_insert, AList.lookup_insert]
    · rw [AList.lookup_insert_ne same, AList.lookup_insert_ne same]
      exact h.own other row' mine'
  others other row' found foreign := by
    by_cases same : other = id
    · subst same
      rw [AList.lookup_insert] at found
      obtain rfl := Option.some.inj found
      exact absurd mine foreign
    · rw [AList.lookup_insert_ne same] at found
      obtain ⟨old, found', rest⟩ := h.others other row' found foreign
      exact ⟨old, by rw [AList.lookup_insert_ne same, found'], rest⟩

theorem Apart.insert_other (h : K.Apart owner table less) (foreign : K.owner row ≠ owner)
    (before : ∀ old, table.lookup id = some old → K.owner old ≠ owner ∧ K.key row = K.key old)
    : K.Apart owner (table.insert id row) less where
  own other row' mine := by
    by_cases same : other = id
    · subst same
      rw [AList.lookup_insert]
      constructor
      · intro found
        exact absurd mine (before row' ((h.own other row' mine).mp found)).1
      · intro found
        obtain rfl := Option.some.inj found
        exact absurd mine foreign
    · rw [AList.lookup_insert_ne same]
      exact h.own other row' mine
  others other row' found other' := by
    obtain ⟨old, found', key, rest⟩ := h.others other row' found other'
    by_cases same : other = id
    · subst same
      exact ⟨row, AList.lookup_insert _, (before old found').2.trans key, foreign⟩
    · exact ⟨old, by rw [AList.lookup_insert_ne same, found'], key, rest⟩

end Keyed

end AcbuBackend.Runtime
