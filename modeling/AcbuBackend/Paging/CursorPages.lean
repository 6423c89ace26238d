import Mathlib.Data.List.Sort
import Mathlib.Data.List.Perm.Basic

/-! Pages of rows in the order of a time that several of them may share.
The page after a row starts with the rows that are no newer, without the first of them, and in every
page the rows of one time may be in another order. Read page by page, all rows are shown once in
every such order exactly if no page but the last ends with a time that is shared.
-/

namespace AcbuBackend.Paging

variable {ρ α : Type} [LinearOrder α] {time : ρ → α}

-- Orders

/-- The newest first; rows of one time are in any order. -/
structure TieOrder (time : ρ → α) where
  sort : List ρ → List ρ
  perm : ∀ rows, (sort rows).Perm rows
  sorted : ∀ rows, (sort rows).Pairwise (fun row other => time other ≤ time row)

section

variable (time) (rank : ρ → Nat)

/-- Newer, or of one time and of no higher rank. -/
def Precedes (row other : ρ) : Prop :=
  time other < time row ∨ time other = time row ∧ rank row ≤ rank other

instance : DecidableRel (Precedes time rank) :=
  fun _ _ => inferInstanceAs (Decidable (_ ∨ _))

instance : Std.Total (Precedes time rank) where
  total row other := by
    rcases lt_trichotomy (time row) (time other) with older | same | newer
    · exact .inr (.inl older)
    · rcases Nat.le_total (rank row) (rank other) with low | low
      · exact .inl (.inr ⟨same.symm, low⟩)
      · exact .inr (.inr ⟨same, low⟩)
    · exact .inl (.inl newer)

instance : IsTrans ρ (Precedes time rank) where
  trans row other last := by
    rintro (newer | ⟨same, low⟩) (newer' | ⟨same', low'⟩)
    · exact .inl (newer'.trans newer)
    · exact .inl (same'.trans_lt newer)
    · exact .inl (newer'.trans_eq same)
    · exact .inr ⟨same'.trans same, low.trans low'⟩

/-- Rows of one time in the order of their ranks. -/
def TieOrder.byRank : TieOrder time where
  sort := List.insertionSort (Precedes time rank)
  perm := List.perm_insertionSort (Precedes time rank)
  sorted rows := (List.pairwise_insertionSort (Precedes time rank) rows).imp fun precedes =>
    precedes.elim le_of_lt fun same => same.1.le

end

-- Pages

/-- The rows of the pages that follow a cursor, or of all of them. -/
def TieOrder.after (order : TieOrder time) (rows : List ρ) : Option ρ → List ρ
  | none => order.sort rows
  | some start => ((order.sort rows).dropWhile (fun row => time start < time row)).drop 1

/-- What a reader has been shown, and the cursor of the next request, unless there is none to make.
-/
structure Progress (ρ : Type) where
  shown : List ρ := []
  next : Option (Option ρ) := some none

/-- The next request. A page has at most `limit` rows, and names its last row where more follow. -/
def Progress.turn (progress : Progress ρ) (order : TieOrder time) (rows : List ρ) (limit : Nat)
    : Progress ρ :=
  match progress.next with
  | none => progress
  | some cursor =>
      let list := order.after rows cursor
      if limit < list.length then
        { shown := progress.shown ++ list.take limit, next := some (list.take limit).getLast? }
      else { shown := progress.shown ++ list, next := none }

/-- The first requests, with an order for each of them. -/
def follow (orders : Nat → TieOrder time) (rows : List ρ) (limit : Nat) : Nat → Progress ρ
  | 0 => {}
  | turns + 1 => (follow orders rows limit turns).turn (orders turns) rows limit

/-- The requests come to an end, and every row has been shown once. -/
def Complete (orders : Nat → TieOrder time) (rows : List ρ) (limit : Nat) : Prop :=
  ∃ turns, (follow orders rows limit turns).next = none
    ∧ (follow orders rows limit turns).shown.Perm rows

section

variable {orders orders' : Nat → TieOrder time} {rows : List ρ} {limit turns later : Nat}

theorem follow_mono (le : turns ≤ later)
    : (follow orders rows limit turns).shown <+: (follow orders rows limit later).shown
      ∧ ((follow orders rows limit turns).next = none →
        (follow orders rows limit later).next = none) := by
  induction later, le using Nat.le_induction with
  | base => exact ⟨List.prefix_refl _, id⟩
  | succ later _ ih =>
      obtain ⟨shown, ended⟩ := ih
      rw [follow]
      generalize follow orders rows limit later = progress at shown ended
      unfold Progress.turn
      split
      · exact ⟨shown, ended⟩
      · rename_i cursor more
        refine ⟨?_, fun last => ?_⟩
        · dsimp only
          split <;> exact shown.trans (List.prefix_append _ _)
        · rw [ended last] at more
          cases more

/-- Only the orders of the requests made so far matter. -/
theorem follow_congr (same : ∀ i < turns, orders i = orders' i)
    : follow orders rows limit turns = follow orders' rows limit turns := by
  induction turns with
  | zero => rfl
  | succ turns ih =>
      rw [follow, follow, ih fun i bound => same i (bound.trans (Nat.lt_succ_self _)),
        same turns (Nat.lt_succ_self _)]

end

theorem TieOrder.mem_of_mem_after {order : TieOrder time} {rows : List ρ} {cursor : Option ρ}
    {row : ρ} (h : row ∈ order.after rows cursor)
    : row ∈ rows := by
  refine (order.perm rows).mem_iff.mp ?_
  cases cursor with
  | none => exact h
  | some start => exact (List.dropWhile_sublist _).subset (List.mem_of_mem_drop h)

theorem follow_mem {orders : Nat → TieOrder time} {rows : List ρ} {limit turns : Nat}
    : (∀ row ∈ (follow orders rows limit turns).shown, row ∈ rows)
      ∧ ∀ row, (follow orders rows limit turns).next = some (some row) → row ∈ rows := by
  induction turns with
  | zero => exact ⟨fun row member => (List.not_mem_nil member).elim, fun row next => by cases next⟩
  | succ turns ih =>
      rw [follow]
      generalize follow orders rows limit turns = progress at ih
      unfold Progress.turn
      split
      · exact ih
      · rename_i cursor _
        dsimp only
        split
        · constructor
          · intro row member
            rcases List.mem_append.mp member with before | here
            · exact ih.1 row before
            · exact TieOrder.mem_of_mem_after (List.mem_of_mem_take here)
          · intro row last
            have member := List.mem_of_getLast? (Option.some.inj last)
            exact TieOrder.mem_of_mem_after (List.mem_of_mem_take member)
        · constructor
          · intro row member
            rcases List.mem_append.mp member with before | here
            · exact ih.1 row before
            · exact TieOrder.mem_of_mem_after here
          · exact fun row none => by cases none

-- One page

/-- Of sorted rows, those that are too new come first. -/
theorem dropWhile_newer {rows : List ρ} {start : α}
    (sorted : rows.Pairwise (fun row other => time other ≤ time row))
    : rows.dropWhile (fun row => start < time row) = rows.filter (fun row => time row ≤ start) := by
  induction rows with
  | nil => rfl
  | cons row rows ih =>
      obtain ⟨first, sorted⟩ := List.pairwise_cons.mp sorted
      by_cases newer : start < time row
      · rw [List.dropWhile_cons_of_pos (by simpa using newer),
          List.filter_cons_of_neg (by simpa using newer), ih sorted]
      · rw [List.dropWhile_cons_of_neg (by simpa using newer), List.filter_eq_self.mpr]
        rw [List.forall_mem_cons]
        have old := not_lt.mp newer
        exact ⟨decide_eq_true old, fun other member =>
          decide_eq_true ((first other member).trans old)⟩

variable {rows shown rest : List ρ} {limit turns : Nat}

theorem TieOrder.after_perm {order : TieOrder time} {start : ρ}
    (whole : (shown ++ rest).Perm rows) (distinct : rows.Nodup) (member : start ∈ shown)
    (oldest : ∀ row ∈ shown, time start ≤ time row)
    (alone : ∀ row ∈ shown, time row = time start → row = start)
    (older : ∀ row ∈ rest, time row < time start)
    : (order.after rows (some start)).Perm rest := by
  have first : (shown.filter (fun row => time row ≤ time start)).Perm [start] := by
    have nodup : shown.Nodup := (List.nodup_append.mp (whole.nodup_iff.mpr distinct)).1
    refine (List.perm_ext_iff_of_nodup (nodup.filter _) (List.nodup_singleton _)).mpr fun row => ?_
    rw [List.mem_filter, List.mem_singleton, decide_eq_true_eq]
    constructor
    · exact fun kept => alone row kept.1 (le_antisymm kept.2 (oldest row kept.1))
    · rintro rfl
      exact ⟨member, le_rfl⟩
  have kept : ((order.sort rows).filter (fun row => time row ≤ time start)).Perm
      (start :: rest) := by
    refine (((order.perm rows).trans whole.symm).filter _).trans ?_
    rw [List.filter_append, List.filter_eq_self.mpr fun row left =>
      decide_eq_true (older row left).le]
    exact first.append_right rest
  have sorted := (order.sorted rows).filter (fun row => time row ≤ time start)
  rw [TieOrder.after, dropWhile_newer (order.sorted rows)]
  generalize (order.sort rows).filter (fun row => time row ≤ time start) = list at kept sorted
  cases list with
  | nil => cases kept.length_eq
  | cons head tail =>
      obtain ⟨newest, -⟩ := List.pairwise_cons.mp sorted
      have same : head = start := by
        rcases List.mem_cons.mp (kept.mem_iff.mp List.mem_cons_self) with same | left
        · exact same
        · rcases List.mem_cons.mp (kept.mem_iff.mpr List.mem_cons_self) with same | behind
          · exact same.symm
          · exact absurd (newest start behind) (not_le.mpr (older head left))
      subst same
      exact kept.cons_inv

theorem TieOrder.sorted_after (order : TieOrder time) (cursor : Option ρ)
    : (order.after rows cursor).Pairwise (fun row other => time other ≤ time row) := by
  cases cursor with
  | none => exact order.sorted rows
  | some start =>
      exact List.Pairwise.sublist ((List.drop_sublist 1 _).trans (List.dropWhile_sublist _))
        (order.sorted rows)

/-- So many pages have been shown, and whatever the order, the rows that are left come next. -/
structure Underway (time : ρ → α) (rows : List ρ) (limit turns : Nat) (progress : Progress ρ)
    (rest : List ρ)
    : Prop where
  whole : (progress.shown ++ rest).Perm rows
  length : progress.shown.length = turns * limit
  older : ∀ row ∈ progress.shown, ∀ other ∈ rest, time other < time row
  next : ∃ cursor, progress.next = some cursor
    ∧ ∀ order : TieOrder time, (order.after rows cursor).Perm rest

/-- Nothing has been shown yet. -/
theorem underway_start : Underway time rows limit 0 {} rows where
  whole := .refl rows
  length := (Nat.zero_mul limit).symm
  older _ member := by cases member
  next := ⟨none, rfl, fun order => order.perm rows⟩

variable {progress : Progress ρ}

/-- The last page shows what is left. -/
theorem Underway.finishes (underway : Underway time rows limit turns progress rest)
    (order : TieOrder time) (few : rest.length ≤ limit)
    : (progress.turn order rows limit).next = none
      ∧ (progress.turn order rows limit).shown.Perm rows := by
  obtain ⟨cursor, next, left⟩ := underway.next
  have short : ¬ limit < (order.after rows cursor).length := by
    rw [(left order).length_eq]
    exact not_lt.mpr few
  have turned : progress.turn order rows limit
      = { shown := progress.shown ++ order.after rows cursor, next := none } := by
    unfold Progress.turn
    rw [next]
    exact if_neg short
  rw [turned]
  exact ⟨rfl, ((left order).append_left _).trans underway.whole⟩

/-- A page that is not the last: its rows, the last of them, and the rows that are left. -/
structure NextPage (time : ρ → α) (rows : List ρ) (limit turns : Nat) (progress : Progress ρ)
    (last : ρ) (rest : List ρ)
    : Prop where
  next : progress.next = some (some last)
  whole : (progress.shown ++ rest).Perm rows
  length : progress.shown.length = (turns + 1) * limit
  member : last ∈ progress.shown
  newer : ∀ row ∈ progress.shown, time last ≤ time row
  older : ∀ row ∈ rest, time row ≤ time last
  more : rest ≠ []

theorem Underway.nextPage (underway : Underway time rows limit turns progress rest)
    (order : TieOrder time) (positive : 0 < limit) (many : limit < rest.length)
    : ∃ last rest', NextPage time rows limit turns (progress.turn order rows limit) last rest' := by
  obtain ⟨cursor, next, left⟩ := underway.next
  have sorted : (order.after rows cursor).Pairwise (fun row other => time other ≤ time row) :=
    order.sorted_after cursor
  have perm := left order
  have turned : limit < (order.after rows cursor).length → progress.turn order rows limit
      = { shown := progress.shown ++ (order.after rows cursor).take limit
          next := some ((order.after rows cursor).take limit).getLast? } := by
    intro long
    unfold Progress.turn
    rw [next]
    exact if_pos long
  generalize order.after rows cursor = list at sorted perm turned
  have long : limit < list.length := perm.length_eq.symm ▸ many
  rw [turned long]
  have size : (list.take limit).length = limit := List.length_take_of_le long.le
  have nonempty : list.take limit ≠ [] := List.ne_nil_of_length_pos (size.symm ▸ positive)
  have parts : list.take limit ++ list.drop limit = list := List.take_append_drop limit list
  rw [← parts, List.pairwise_append] at sorted
  obtain ⟨within, -, across⟩ := sorted
  have own := List.getLast_mem nonempty
  refine ⟨(list.take limit).getLast nonempty, list.drop limit, ?_, ?_, ?_, ?_, ?_, ?_, ?_⟩
  · exact congrArg some (List.getLast?_eq_some_getLast nonempty)
  · rw [List.append_assoc, parts]
    exact (perm.append_left _).trans underway.whole
  · rw [List.length_append, size, underway.length, Nat.add_mul, Nat.one_mul]
  · exact List.mem_append_right _ own
  · intro row shown
    rcases List.mem_append.mp shown with before | here
    · exact (underway.older row before _ (perm.mem_iff.mp (List.mem_of_mem_take own))).le
    · rw [← List.dropLast_append_getLast nonempty] at within here
      rcases List.mem_append.mp here with earlier | last
      · exact (List.pairwise_append.mp within).2.2 row earlier _ List.mem_cons_self
      · rw [List.mem_singleton.mp last]
  · exact fun row behind => across _ own row behind
  · exact List.ne_nil_of_length_pos (by rw [List.length_drop]; omega)

theorem NextPage.underway {last : ρ} (page : NextPage time rows limit turns progress last rest)
    (distinct : rows.Nodup) (alone : ∀ row ∈ rows, time row = time last → row = last)
    : Underway time rows limit (turns + 1) progress rest := by
  have apart : ∀ row ∈ progress.shown, ∀ other ∈ rest, row ≠ other :=
    (List.nodup_append.mp (page.whole.nodup_iff.mpr distinct)).2.2
  have older : ∀ row ∈ rest, time row < time last := by
    intro row left
    refine lt_of_le_of_ne (page.older row left) fun same => ?_
    have member := page.whole.mem_iff.mp (List.mem_append_right _ left)
    exact apart last page.member row left (alone row member same).symm
  refine ⟨page.whole, page.length, fun row shown other left =>
    (older other left).trans_le (page.newer row shown), some last, page.next, fun order => ?_⟩
  exact TieOrder.after_perm page.whole distinct page.member page.newer
    (fun row shown => alone row (page.whole.mem_iff.mp (List.mem_append_left _ shown))) older

-- Where pages end

section

variable (time) (rows) (limit)

/-- Page `k`, which is not the last, ends with a row of this time. -/
def EndsPage (k : Nat) (end_ : α) : Prop :=
  k * limit < rows.length ∧ rows.countP (fun row => end_ < time row) < k * limit
    ∧ k * limit ≤ rows.countP (fun row => end_ ≤ time row)

instance (k : Nat) (end_ : α) : Decidable (EndsPage time rows limit k end_) :=
  inferInstanceAs (Decidable (_ ∧ _ ∧ _))

/-- No time that ends a page other than the last is shared. -/
def EndsApart : Prop :=
  ∀ k < rows.length, ∀ row ∈ rows, EndsPage time rows limit k (time row) →
    ∀ other ∈ rows, time other = time row → other = row

instance [DecidableEq ρ] : Decidable (EndsApart time rows limit) :=
  inferInstanceAs (Decidable (∀ k < rows.length, ∀ row ∈ rows, _ → ∀ other ∈ rows, _ → _))

end

theorem EndsPage.bound {k : Nat} {end_ : α} (ends : EndsPage time rows limit k end_)
    (positive : 0 < limit)
    : k < rows.length :=
  (Nat.le_mul_of_pos_right k positive).trans_lt ends.1

theorem NextPage.endsPage_iff {last : ρ} (page : NextPage time rows limit turns progress last rest)
    {end_ : α}
    : EndsPage time rows limit (turns + 1) end_ ↔ end_ = time last := by
  have counted : ∀ p : ρ → Bool, rows.countP p = progress.shown.countP p + rest.countP p := by
    intro p
    rw [← page.whole.countP_eq p, List.countP_append]
  have total : rows.length = progress.shown.length + rest.length := by
    rw [← page.whole.length_eq, List.length_append]
  have some : 0 < rest.length := List.length_pos_iff.mpr page.more
  -- of the rows shown, the last is missing in every count that excludes it
  have fewer : ∀ p : ρ → Bool, p last = false →
      progress.shown.countP p < progress.shown.length := by
    intro p excluded
    refine lt_of_le_of_ne List.countP_le_length fun all => ?_
    rw [List.countP_eq_length.mp all last page.member] at excluded
    cases excluded
  unfold EndsPage
  rw [counted, counted, ← page.length, total]
  constructor
  · rintro ⟨-, before, behind⟩
    rcases lt_trichotomy end_ (time last) with early | same | late
    · have all : progress.shown.countP (fun row => end_ < time row) = progress.shown.length :=
        List.countP_eq_length.mpr fun row shown =>
          decide_eq_true (early.trans_le (page.newer row shown))
      omega
    · exact same
    · have none : rest.countP (fun row => end_ ≤ time row) = 0 :=
        List.countP_eq_zero.mpr fun row left => by
          simpa using (page.older row left).trans_lt late
      have missing := fewer (fun row => end_ ≤ time row) (decide_eq_false (not_le.mpr late))
      omega
  · rintro rfl
    have all : progress.shown.countP (fun row => time last ≤ time row) = progress.shown.length :=
      List.countP_eq_length.mpr fun row shown => decide_eq_true (page.newer row shown)
    have none : rest.countP (fun row => time last < time row) = 0 :=
      List.countP_eq_zero.mpr fun row left => by simpa using page.older row left
    have missing := fewer (fun row => time last < time row) (decide_eq_false (lt_irrefl _))
    omega

-- All pages

variable {orders : Nat → TieOrder time}

theorem underway_or_complete (positive : 0 < limit) (distinct : rows.Nodup)
    (apart : ∀ k, 0 < k → k ≤ turns → ∀ row ∈ rows, EndsPage time rows limit k (time row) →
      ∀ other ∈ rows, time other = time row → other = row)
    : (∃ rest, Underway time rows limit turns (follow orders rows limit turns) rest)
      ∨ rows.length ≤ turns * limit ∧ (follow orders rows limit turns).next = none
        ∧ (follow orders rows limit turns).shown.Perm rows := by
  induction turns with
  | zero => exact .inl ⟨rows, underway_start⟩
  | succ turns ih =>
      rw [follow]
      rcases ih fun k first le => apart k first (le.trans (Nat.le_succ _)) with
        ⟨rest, underway⟩ | ⟨enough, ended, shown⟩
      · rcases le_or_gt rest.length limit with few | many
        · have total := underway.whole.length_eq
          rw [List.length_append, underway.length] at total
          refine .inr ⟨?_, underway.finishes (orders turns) few⟩
          rw [Nat.add_mul, Nat.one_mul]
          omega
        · obtain ⟨last, rest', page⟩ := underway.nextPage (orders turns) positive many
          have member := page.whole.mem_iff.mp (List.mem_append_left _ page.member)
          have ends := page.endsPage_iff.mpr rfl
          exact .inl ⟨rest', page.underway distinct
            (apart (turns + 1) (Nat.succ_pos _) le_rfl last member ends)⟩
      · refine .inr ?_
        have stays : (follow orders rows limit turns).turn (orders turns) rows limit
            = follow orders rows limit turns := by
          unfold Progress.turn
          rw [ended]
        rw [stays]
        exact ⟨enough.trans (Nat.mul_le_mul_right _ (Nat.le_succ _)), ended, shown⟩

theorem complete_of_endsApart (positive : 0 < limit) (distinct : rows.Nodup)
    (apart : EndsApart time rows limit)
    : Complete orders rows limit := by
  have all : ∀ k, 0 < k → k ≤ rows.length + 1 → ∀ row ∈ rows,
      EndsPage time rows limit k (time row) → ∀ other ∈ rows,
        time other = time row → other = row := by
    intro k _ _ row member ends
    exact apart k (ends.bound positive) row member ends
  rcases @underway_or_complete _ _ _ _ rows limit _ orders positive distinct all with
    ⟨rest, underway⟩ | ⟨-, complete⟩
  · have total := underway.whole.length_eq
    rw [List.length_append, underway.length] at total
    have many : rows.length + 1 ≤ (rows.length + 1) * limit := Nat.le_mul_of_pos_right _ positive
    omega
  · exact ⟨rows.length + 1, complete⟩

theorem Progress.turn_repeats {progress : Progress ρ} {order : TieOrder time} {last : ρ}
    {tail : List ρ} (positive : 0 < limit) (next : progress.next = some (some last))
    (again : order.after rows (some last) = last :: tail)
    : ∃ more, (progress.turn order rows limit).shown = progress.shown ++ more ∧ last ∈ more := by
  unfold Progress.turn
  rw [next]
  dsimp only
  rw [again]
  split
  · obtain ⟨size, rfl⟩ := Nat.exists_eq_succ_of_ne_zero positive.ne'
    exact ⟨_, rfl, List.mem_cons_self⟩
  · exact ⟨_, rfl, List.mem_cons_self⟩

theorem not_complete_of_repeated {row : ρ} {more : List ρ} {cursor : Option ρ}
    (distinct : rows.Nodup) (next : (follow orders rows limit turns).next = some cursor)
    (shown : (follow orders rows limit (turns + 1)).shown
      = (follow orders rows limit turns).shown ++ more)
    (once : row ∈ (follow orders rows limit turns).shown) (twice : row ∈ more)
    : ¬ Complete orders rows limit := by
  rintro ⟨m, last, all⟩
  rcases le_or_gt m turns with early | late
  · have none := (follow_mono early).2 last
    rw [next] at none
    cases none
  · have more := (@follow_mono _ _ _ _ orders rows limit _ _ late).1
    have nodup := (all.nodup_iff.mpr distinct).sublist more.sublist
    rw [shown] at nodup
    exact (List.nodup_append.mp nodup).2.2 row once row twice rfl

section

variable [DecidableEq ρ]

/-- The order that puts one row first, and another second, of those of their time. -/
def TieOrder.swapping (time : ρ → α) (first second : ρ) : TieOrder time :=
  .byRank time (fun row => if row = first then 0 else if row = second then 1 else 2)

/-- Where the cursor's row comes second of its time, it comes again after itself. -/
theorem TieOrder.swapping_after {first second : ρ} (distinct : rows.Nodup) (member : first ∈ rows)
    (own : second ∈ rows) (same : time first = time second) (other : first ≠ second)
    : ∃ tail, (TieOrder.swapping time first second).after rows (some second) = second :: tail := by
  let rank : ρ → Nat := fun row => if row = first then 0 else if row = second then 1 else 2
  have sorted : ((List.insertionSort (Precedes time rank) rows).filter
      (fun row => time row ≤ time second)).Pairwise (Precedes time rank) :=
    (List.pairwise_insertionSort _ rows).filter _
  have perm : ((List.insertionSort (Precedes time rank) rows).filter
      (fun row => time row ≤ time second)).Perm (rows.filter (fun row => time row ≤ time second)) :=
    (List.perm_insertionSort _ rows).filter _
  have after_eq : (TieOrder.swapping time first second).after rows (some second)
      = ((List.insertionSort (Precedes time rank) rows).filter
        (fun row => time row ≤ time second)).drop 1 := by
    rw [TieOrder.after, dropWhile_newer (TieOrder.sorted _ rows)]
    rfl
  rw [after_eq]
  generalize (List.insertionSort (Precedes time rank) rows).filter
    (fun row => time row ≤ time second) = list at sorted perm
  have old : ∀ row ∈ list, time row ≤ time second := fun row kept =>
    of_decide_eq_true (List.mem_filter.mp (perm.mem_iff.mp kept)).2
  have hasFirst : first ∈ list :=
    perm.mem_iff.mpr (List.mem_filter.mpr ⟨member, decide_eq_true same.le⟩)
  have hasSecond : second ∈ list :=
    perm.mem_iff.mpr (List.mem_filter.mpr ⟨own, decide_eq_true le_rfl⟩)
  have nodup : list.Nodup := perm.nodup_iff.mpr (distinct.filter _)
  have rankFirst : rank first = 0 := if_pos rfl
  have rankSecond : rank second = 1 := (if_neg other.symm).trans (if_pos rfl)
  have ranks : ∀ row, row ≠ first → rank row ≤ 1 → row = second := by
    intro row notFirst low
    by_contra notSecond
    have high : rank row = 2 := (if_neg notFirst).trans (if_neg notSecond)
    omega
  cases list with
  | nil => cases hasFirst
  | cons head list =>
      obtain ⟨before, sorted⟩ := List.pairwise_cons.mp sorted
      obtain ⟨absent, -⟩ := List.nodup_cons.mp nodup
      have headFirst : head = first := by
        rcases List.mem_cons.mp hasFirst with found | behind
        · exact found.symm
        · rcases before first behind with newer | ⟨-, low⟩
          · exact absurd (old head List.mem_cons_self) (not_le.mpr (same ▸ newer))
          · by_contra notFirst
            have second := ranks head notFirst (low.trans (rankFirst.le.trans (Nat.zero_le 1)))
            rw [second, rankSecond, rankFirst] at low
            omega
      have left : second ∈ list :=
        (List.mem_cons.mp hasSecond).resolve_left fun found => other
        (headFirst.symm.trans found.symm)
      cases list with
      | nil => cases left
      | cons next tail =>
          refine ⟨tail, ?_⟩
          have nextSecond : next = second := by
            rcases List.mem_cons.mp left with found | behind
            · exact found.symm
            · rcases (List.pairwise_cons.mp sorted).1 second behind with newer | ⟨-, low⟩
              · exact absurd (old next (List.mem_cons_of_mem _ List.mem_cons_self))
                  (not_le.mpr newer)
              · refine ranks next (fun again => absent ?_) (low.trans rankSecond.le)
                rw [headFirst, ← again]
                exact List.mem_cons_self
          rw [nextSecond]
          rfl

theorem endsApart_of_complete (positive : 0 < limit) (distinct : rows.Nodup)
    (complete : ∀ orders : Nat → TieOrder time, Complete orders rows limit)
    : EndsApart time rows limit := by
  intro k _
  induction k using Nat.strong_induction_on with
  | _ k ih =>
      intro row member ends other there same
      by_contra tie
      obtain ⟨turns, rfl⟩ : ∃ turns, k = turns + 1 := by
        refine Nat.exists_eq_succ_of_ne_zero ?_
        rintro rfl
        exact absurd ends.2.1 (by rw [Nat.zero_mul]; exact Nat.not_lt_zero _)
      -- the page that ends with this time, in an order that does not matter
      let plain : TieOrder time := .byRank time (fun _ => 0)
      obtain ⟨rest, underway⟩ | ⟨enough, -⟩ := @underway_or_complete _ _ _ _ rows limit
        turns (fun _ => plain) positive distinct fun k _ le row member ends =>
          ih k (Nat.lt_succ_of_le le) (ends.bound positive) row member ends
      · have total := underway.whole.length_eq
        rw [List.length_append, underway.length] at total
        have long := ends.1
        rw [Nat.add_mul, Nat.one_mul] at long
        obtain ⟨last, rest', page⟩ := underway.nextPage plain positive (by omega)
        have ended := page.endsPage_iff.mp ends
        have own := page.whole.mem_iff.mp (List.mem_append_left _ page.member)
        -- a second row of this time, which is dropped in its place
        obtain ⟨twin, twinThere, twinSame, apart⟩ :
            ∃ twin ∈ rows, time twin = time last ∧ twin ≠ last := by
          by_cases first : row = last
          · exact ⟨other, there, same.trans ended, first ▸ tie⟩
          · exact ⟨row, member, ended, first⟩
        let swapped : TieOrder time := .swapping time twin last
        let orders : Nat → TieOrder time := fun i => if i ≤ turns then plain else swapped
        have before : follow orders rows limit (turns + 1)
            = (follow (fun _ => plain) rows limit turns).turn plain rows limit :=
          follow_congr fun i bound => if_pos (Nat.le_of_lt_succ bound)
        obtain ⟨tail, again⟩ := TieOrder.swapping_after distinct twinThere own twinSame apart
        have next : (follow orders rows limit (turns + 1)).next = some (some last) :=
          before ▸ page.next
        obtain ⟨more, shown, twice⟩ := Progress.turn_repeats positive next again
        have turned : follow orders rows limit (turns + 2)
            = (follow orders rows limit (turns + 1)).turn swapped rows limit := by
          rw [follow]
          exact congrArg (fun order => Progress.turn _ order rows limit)
            (if_neg (Nat.not_le.mpr (Nat.lt_succ_self turns)))
        rw [← turned] at shown
        exact not_complete_of_repeated distinct next shown (before ▸ page.member) twice
          (complete orders)
      · exact absurd ends.1 (by
          rw [Nat.add_mul, Nat.one_mul]
          omega)

theorem complete_iff_endsApart (positive : 0 < limit) (distinct : rows.Nodup)
    : (∀ orders : Nat → TieOrder time, Complete orders rows limit) ↔ EndsApart time rows limit :=
  ⟨endsApart_of_complete positive distinct, fun apart _ =>
    complete_of_endsApart positive distinct apart⟩

end

end AcbuBackend.Paging
