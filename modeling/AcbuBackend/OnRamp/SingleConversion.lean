import AcbuBackend.OnRamp.SwapSteps

/-! At most one conversion and one mint for a swap.
An attempt that fails hands its swap back. The next one repeats what it does not find
recorded, so a swap may only be handed back while nothing unrecorded has happened to it.
-/

namespace AcbuBackend.OnRamp

open Effects AcbuBackend.Runtime Mint

/-- How many conversions were applied for a swap. -/
def World.conversionsFor (w : World) (id : SwapId) : Nat :=
  w.converted.count id

/-- How many mints were applied on chain for a swap. -/
def World.mintsFor (w : World) (id : SwapId) : Nat :=
  w.minted.count id

-- The life of one swap

/-- What concerns one swap: its row, what was applied for it, and how far each party has come
with it.
-/
@[ext] structure SwapView where
  row : Option OnRampSwap
  conversions : Nat
  mints : Nat
  stages : Nat → Stage

def Stage.on (id : SwapId) (stage : Stage) : Stage :=
  if stage.swap? = some id then stage else .idle

namespace SwapView

/-- A further attempt repeats nothing: no mint was applied, and a conversion is recorded. -/
def Resumable (v : SwapView) : Prop :=
  v.mints = 0 ∧ (v.conversions = 0 ∨ v.row.any (fun row => row.xlmAmount.isSome) = true)

/-- Only one party works on the swap, and nothing it may still do was done before. -/
structure Safe (v : SwapView) : Prop where
  fresh : v.row = none → v.conversions = 0 ∧ v.mints = 0 ∧ ∀ i, v.stages i = .idle
  waiting : ∀ row, v.row = some row → row.status = .pending_convert →
    v.Resumable ∧ ∀ i, v.stages i = .idle
  alone : ∀ i j, v.stages i ≠ .idle → v.stages j ≠ .idle → i = j
  claimed : ∀ i id converts, v.stages i = .claimed id converts → v.Resumable
  converting : ∀ i id, v.stages i = .converting id → v.conversions = 0 ∧ v.mints = 0
  minting : ∀ i id, v.stages i = .minting id → v.mints = 0
  once : v.conversions ≤ 1 ∧ v.mints ≤ 1

variable {v : SwapView} {i : Nat} {stage : Stage}

theorem Safe.worker (h : v.Safe) (own : v.stages i ≠ .idle)
    : (∀ j, j ≠ i → v.stages j = .idle)
      ∧ ∃ row, v.row = some row ∧ row.status ≠ .pending_convert := by
  constructor
  · intro j different
    by_contra busy
    exact different (h.alone j i busy own)
  · cases found : v.row with
    | none => exact absurd ((h.fresh found).2.2 i) own
    | some row =>
        refine ⟨row, rfl, ?_⟩
        intro pending
        exact own ((h.waiting row found pending).2 i)

/-- The view after party `i` came to another stage. -/
def moved (v : SwapView) (i : Nat) (stage : Stage) : SwapView :=
  { v with stages := Function.update v.stages i stage }

theorem moved_self : (v.moved i stage).stages i = stage :=
  Function.update_self ..

theorem moved_of_ne {j : Nat} (different : j ≠ i) : (v.moved i stage).stages j = v.stages j :=
  Function.update_of_ne different ..

theorem Safe.of_held {row : OnRampSwap} (found : v.row = some row)
    (busy : row.status ≠ .pending_convert)
    (idle : ∀ j, j ≠ i → v.stages j = .idle)
    (claimed : ∀ id converts, v.stages i = .claimed id converts → v.Resumable)
    (converting : ∀ id, v.stages i = .converting id → v.conversions = 0 ∧ v.mints = 0)
    (minting : ∀ id, v.stages i = .minting id → v.mints = 0)
    (once : v.conversions ≤ 1 ∧ v.mints ≤ 1)
    : v.Safe := by
  have own : ∀ j, v.stages j ≠ .idle → j = i := by
    intro j working
    by_contra different
    exact working (idle j different)
  constructor
  · intro absent
    rw [found] at absent
    cases absent
  · intro row' found' pending
    rw [found] at found'
    obtain rfl := Option.some.inj found'
    exact absurd pending busy
  · intro j k first second
    rw [own j first, own k second]
  · intro j id converts stage
    obtain rfl := own j (by simp [stage])
    exact claimed id converts stage
  · intro j id stage
    obtain rfl := own j (by simp [stage])
    exact converting id stage
  · intro j id stage
    obtain rfl := own j (by simp [stage])
    exact minting id stage
  · exact once

theorem Safe.of_moved {row : OnRampSwap} (found : v.row = some row)
    (busy : row.status ≠ .pending_convert)
    (idle : ∀ j, j ≠ i → v.stages j = .idle)
    (claimed : ∀ id converts, stage = .claimed id converts → v.Resumable)
    (converting : ∀ id, stage = .converting id → v.conversions = 0 ∧ v.mints = 0)
    (minting : ∀ id, stage = .minting id → v.mints = 0)
    (once : v.conversions ≤ 1 ∧ v.mints ≤ 1)
    : (v.moved i stage).Safe := by
  have own : (v.moved i stage).stages i = stage := moved_self
  refine .of_held (v := v.moved i stage) (i := i) found busy ?_ ?_ ?_ ?_ once
  · exact fun j different => (moved_of_ne different).trans (idle j different)
  · exact fun id converts reached => claimed id converts (own ▸ reached)
  · exact fun id reached => converting id (own ▸ reached)
  · exact fun id reached => minting id (own ▸ reached)

theorem Safe.of_free {row : OnRampSwap} (found : v.row = some row)
    (idle : ∀ j, v.stages j = .idle)
    (waiting : row.status = .pending_convert → v.Resumable)
    (once : v.conversions ≤ 1 ∧ v.mints ≤ 1)
    : v.Safe := by
  constructor
  · intro absent
    rw [found] at absent
    cases absent
  · intro row' found' pending
    rw [found] at found'
    obtain rfl := Option.some.inj found'
    exact ⟨waiting pending, idle⟩
  · exact fun j _ working => absurd (idle j) working
  · intro j _ _ stage
    rw [idle j] at stage
    cases stage
  · intro j _ stage
    rw [idle j] at stage
    cases stage
  · intro j _ stage
    rw [idle j] at stage
    cases stage
  · exact once

/-- A swap that nothing was applied for and that nobody works on. -/
theorem Safe.of_untouched (idle : ∀ j, v.stages j = .idle) (unconverted : v.conversions = 0)
    (unminted : v.mints = 0)
    : v.Safe := by
  constructor
  · exact fun _ => ⟨unconverted, unminted, idle⟩
  · exact fun _ _ _ => ⟨⟨unminted, .inl unconverted⟩, idle⟩
  · exact fun j _ working => absurd (idle j) working
  · exact fun _ _ _ _ => ⟨unminted, .inl unconverted⟩
  · exact fun _ _ _ => ⟨unconverted, unminted⟩
  · exact fun _ _ _ => unminted
  · omega

theorem Safe.create {row : OnRampSwap} (h : v.Safe) (absent : v.row = none)
    : SwapView.Safe { v with row := some row } := by
  obtain ⟨unconverted, unminted, idle⟩ := h.fresh absent
  exact .of_untouched idle unconverted unminted

theorem Safe.claim {row : OnRampSwap} (h : v.Safe) (found : v.row = some row)
    (pending : row.status = .pending_convert)
    (taken : stage = .idle ∨ ∃ id converts, stage = .claimed id converts)
    : SwapView.Safe ({ v with row := some { row with status := .processing } }.moved i stage) := by
  obtain ⟨⟨unminted, conversions⟩, idle⟩ := h.waiting row found pending
  apply Safe.of_moved (v := { v with row := some { row with status := .processing } }) rfl
    (by simp) (fun j _ => idle j)
  · intro _ _ _
    refine ⟨unminted, conversions.imp_right (fun recorded => ?_)⟩
    rw [found] at recorded
    exact recorded
  · intro _ converting
    rcases taken with rfl | ⟨_, _, rfl⟩ <;> cases converting
  · exact fun _ _ => unminted
  · exact h.once

theorem Safe.load {id id' : SwapId} {converts : Bool} {row : OnRampSwap} (h : v.Safe)
    (claimed : v.stages i = .claimed id converts) (found : v.row = some row)
    : (v.moved i (afterFind id' converts (some row))).Safe := by
  obtain ⟨unminted, conversions⟩ := h.claimed i id converts claimed
  obtain ⟨idle, row', found', busy⟩ := h.worker (i := i) (by simp [claimed])
  apply Safe.of_moved found' busy idle
  · intro _ _ reached
    simp only [afterFind] at reached
    split at reached <;> cases reached
  · intro _ reached
    simp only [afterFind] at reached
    split at reached
    · rename_i unrecorded
      refine ⟨?_, unminted⟩
      rcases conversions with none | recorded
      · exact none
      · simp [found, unrecorded.2] at recorded
    · cases reached
  · exact fun _ _ => unminted
  · exact h.once

theorem Safe.convert {id id' : SwapId} {n : Nat} (h : v.Safe)
    (converting : v.stages i = .converting id) (left : n = v.conversions ∨ n = v.conversions + 1)
    : SwapView.Safe ({ v with conversions := n }.moved i (.minting id')) := by
  obtain ⟨unconverted, unminted⟩ := h.converting i id converting
  obtain ⟨idle, row, found, busy⟩ := h.worker (i := i) (by simp [converting])
  apply Safe.of_moved (v := { v with conversions := n }) found busy idle
  · rintro _ _ ⟨⟩
  · rintro _ ⟨⟩
  · exact fun _ _ => unminted
  · refine ⟨?_, h.once.2⟩
    change n ≤ 1
    omega

theorem Safe.mint {id id' : SwapId} {n : Nat} (h : v.Safe)
    (minting : v.stages i = .minting id) (left : n = v.mints ∨ n = v.mints + 1)
    : SwapView.Safe ({ v with mints := n }.moved i (.spent id')) := by
  have unminted := h.minting i id minting
  obtain ⟨idle, row, found, busy⟩ := h.worker (i := i) (by simp [minting])
  apply Safe.of_moved (v := { v with mints := n }) found busy idle
  · rintro _ _ ⟨⟩
  · rintro _ ⟨⟩
  · rintro _ ⟨⟩
  · refine ⟨h.once.1, ?_⟩
    change n ≤ 1
    omega

theorem Resumable.apply {row : OnRampSwap} {data : SwapUpdate} (h : v.Resumable)
    (found : v.row = some row)
    : SwapView.Resumable { v with row := some (row.apply data) } := by
  refine ⟨h.1, h.2.imp_right (fun recorded => ?_)⟩
  rw [found] at recorded
  cases kept : row.xlmAmount with
  | none => simp [kept] at recorded
  | some _ => cases given : data.xlmAmount <;> simp [OnRampSwap.apply, kept, given]

/-- A write of the party at work that does not end its work. -/
theorem Safe.record {row : OnRampSwap} {data : SwapUpdate} (h : v.Safe)
    (own : v.stages i ≠ .idle) (found : v.row = some row)
    (keeps : data.status = none ∨ data.status = some .completed)
    : SwapView.Safe { v with row := some (row.apply data) } := by
  obtain ⟨idle, row', found', busy⟩ := h.worker own
  rw [found] at found'
  obtain rfl := Option.some.inj found'
  have busy' : (row.apply data).status ≠ .pending_convert := by
    rcases keeps with none | completed
    · simpa [OnRampSwap.apply, none] using busy
    · simp [OnRampSwap.apply, completed]
  apply Safe.of_held (v := { v with row := some (row.apply data) }) rfl busy' idle
  · exact fun id converts claimed => (h.claimed i id converts claimed).apply found
  · exact fun id converting => h.converting i id converting
  · exact fun id minting => h.minting i id minting
  · exact h.once

theorem Safe.release {row : OnRampSwap} (h : v.Safe) (own : v.stages i ≠ .idle)
    (left : row.status = .pending_convert → SwapView.Resumable { v with row := some row })
    : SwapView.Safe ({ v with row := some row }.moved i .idle) := by
  obtain ⟨idle, -⟩ := h.worker own
  have free : ∀ j, ({ v with row := some row }.moved i .idle).stages j = .idle := by
    intro j
    by_cases same : j = i
    · subst same
      exact moved_self
    · exact (moved_of_ne same).trans (idle j same)
  exact .of_free rfl free left h.once

end SwapView

-- Steps of a run

def World.viewOf (w : World) (id : SwapId) (stages : Nat → Stage) : SwapView where
  row := w.swaps.lookup id
  conversions := w.conversionsFor id
  mints := w.mintsFor id
  stages := stages

def viewOf (c : OnRampConfig) (id : SwapId) : SwapView :=
  c.world.viewOf id (fun i => (stageOf c i).on id)

/-- A failed attempt that hands its swap back leaves a further one nothing to repeat. -/
def World.Resumable (w : World) (id : SwapId) : Prop :=
  w.mintsFor id = 0
  ∧ (w.conversionsFor id = 0 ∨ (w.swaps.lookup id).any (fun row => row.xlmAmount.isSome) = true)

instance (w : World) (id : SwapId) : Decidable (w.Resumable id) :=
  inferInstanceAs (Decidable (_ ∧ _))

/-- The swap a call hands back. -/
def releasedSwap? : Option OnRampOp → Option SwapId
  | some (.updateSwap id data) => if data.status = some .pending_convert then some id else none
  | _ => none

/-- A swap is only handed back when no mint was applied for it, and a conversion that was
applied is recorded.
-/
def ReleasesResumable (c : OnRampConfig) (i : Nat) (_ : Choice) : Prop :=
  ∀ id ∈ releasedSwap? (c.pending? i), c.world.Resumable id

instance (c : OnRampConfig) (i : Nat) (x : Choice) : Decidable (ReleasesResumable c i x) :=
  inferInstanceAs (Decidable (∀ id ∈ releasedSwap? (c.pending? i), c.world.Resumable id))

section

variable {c c' : OnRampConfig} {i : Nat} {id other : SwapId} {stage : Stage} {row : OnRampSwap}
  {w : World}

theorem on_of_held (held : stage.swap? = some id) : stage.on id = stage :=
  if_pos held

theorem on_of_ne (held : stage.swap? = some other) (different : id ≠ other) : stage.on id = .idle :=
  if_neg (by simpa [held] using different.symm)

theorem ne_idle_of_held (held : stage.swap? = some id) : stage ≠ .idle := by
  rintro rfl
  cases held

@[simp] theorem on_idle : Stage.on id .idle = .idle := rfl

@[simp] theorem on_over : Stage.on id .over = .idle := rfl

@[simp] theorem lookup_put : (w.put id row).swaps.lookup id = some row :=
  AList.lookup_insert _

theorem lookup_put_of_ne (different : other ≠ id)
    : (w.put id row).swaps.lookup other = w.swaps.lookup other :=
  AList.lookup_insert_ne different

theorem viewOf_moved (others : ∀ j, j ≠ i → stageOf c' j = stageOf c j)
    : viewOf c' id
      = (c'.world.viewOf id (viewOf c id).stages).moved i ((stageOf c' i).on id) := by
  have stages : (fun j => (stageOf c' j).on id)
      = Function.update (viewOf c id).stages i ((stageOf c' i).on id) := by
    funext j
    by_cases same : j = i
    · subst same
      rw [Function.update_self]
    · rw [Function.update_of_ne same, others j same]
      rfl
  simp only [viewOf, stages]
  rfl

theorem viewOf_eq (others : ∀ j, j ≠ i → stageOf c' j = stageOf c j)
    (own : (stageOf c' i).on id = (stageOf c i).on id)
    (same : ∀ stages, c'.world.viewOf id stages = c.world.viewOf id stages)
    : viewOf c' id = viewOf c id := by
  rw [viewOf_moved others, own, same]
  simp only [SwapView.moved, viewOf, World.viewOf, Function.update_eq_self]

theorem viewOf_put_of_ne {stages : Nat → Stage} (different : other ≠ id)
    : (w.put id row).viewOf other stages = w.viewOf other stages := by
  simp only [World.viewOf, lookup_put_of_ne different]
  rfl

theorem Updated.viewOf_of_ne {w' : World} {data : SwapUpdate} {stages : Nat → Stage}
    (h : Updated w w' id data) (different : other ≠ id)
    : w'.viewOf other stages = w.viewOf other stages := by
  rcases h with rfl | ⟨row, _, rfl⟩
  · rfl
  · exact viewOf_put_of_ne different

theorem viewOf_put (others : ∀ j, j ≠ i → stageOf c' j = stageOf c j)
    (written : c'.world = c.world.put id row)
    : viewOf c' id = { viewOf c id with row := some row }.moved i ((stageOf c' i).on id) := by
  rw [viewOf_moved others, written]
  simp only [World.viewOf, lookup_put]
  rfl

theorem viewOf_rewritten (others : ∀ j, j ≠ i → stageOf c' j = stageOf c j)
    (own : stageOf c' i = stageOf c i) (written : c'.world = c.world.put id row)
    : viewOf c' id = { viewOf c id with row := some row } := by
  rw [viewOf_put others written, own]
  simp only [SwapView.moved, viewOf, World.viewOf, Function.update_eq_self]

end

theorem pending_of_claimable {row : OnRampSwap} {source : Option SwapSource}
    (h : row.claimable source = true)
    : row.status = .pending_convert := by
  unfold OnRampSwap.claimable at h
  exact of_decide_eq_true (Bool.and_eq_true_iff.mp h).1

/-- The swap a call is about. -/
def OnRampOp.swapId? (x : Choice) : OnRampOp → Option SwapId
  | .createSwap _ => some x.freshSwapId
  | .claimSwap id _ | .findSwap id | .updateSwap id _ | .swapUsdcToXlm id _ => some id
  | .mint onRampSwapId _ => onRampSwapId
  | _ => none

theorem SwapMove.elsewhere {x : Choice} {w w' : World} {op : OnRampOp} {stage stage' : Stage}
    {id : SwapId} (h : SwapMove x w w' op stage stage') (different : op.swapId? x ≠ some id)
    : stage'.on id = stage.on id ∧ ∀ stages, w'.viewOf id stages = w.viewOf id stages := by
  have apart : ∀ t, op.swapId? x = some t → id ≠ t := by
    rintro t concerned rfl
    exact different concerned
  cases h with
  | quiet _ _ _ same =>
      refine ⟨rfl, fun stages => ?_⟩
      simp only [World.viewOf, World.conversionsFor, World.mintsFor, same.swaps, same.converted,
        same.minted]
  | create data stage fresh => exact ⟨rfl, fun _ => viewOf_put_of_ne (apart _ rfl)⟩
  | claim t source row =>
      exact ⟨on_of_ne rfl (apart t rfl), fun _ => viewOf_put_of_ne (apart t rfl)⟩
  | claimLost t source row => exact ⟨rfl, fun _ => viewOf_put_of_ne (apart t rfl)⟩
  | load t converts row =>
      refine ⟨?_, fun _ => rfl⟩
      rw [on_of_ne swap?_afterFind (apart t rfl), on_of_ne rfl (apart t rfl)]
  | convert t usdcAmount w' left =>
      refine ⟨?_, fun stages => ?_⟩
      · rw [on_of_ne rfl (apart t rfl), on_of_ne rfl (apart t rfl)]
      · rcases left with rfl | rfl
        · rfl
        · simp only [World.viewOf, World.conversionsFor,
            List.count_cons_of_ne (Ne.symm (apart t rfl))]
          rfl
  | mint t op w' swaps converted left =>
      refine ⟨?_, fun stages => ?_⟩
      · rw [on_of_ne rfl (apart t rfl), on_of_ne rfl (apart t rfl)]
      · simp only [World.viewOf, World.conversionsFor, World.mintsFor, swaps, converted]
        rcases left with kept | added
        · rw [kept]
        · rw [added, List.count_cons_of_ne (Ne.symm (apart t rfl))]
  | record t data w' stage held keeps left =>
      exact ⟨rfl, fun _ => left.viewOf_of_ne (apart t rfl)⟩
  | release t data w' stage held ends left =>
      exact ⟨(on_of_ne held (apart t rfl)).symm, fun _ => left.viewOf_of_ne (apart t rfl)⟩

/-- Every swap is safe. -/
def AllSafe (c : OnRampConfig) : Prop :=
  ∀ id, (viewOf c id).Safe

/-- A step keeps every swap safe. Witness: case analysis on the move, seen from the one swap
its call is about.
-/
theorem AllSafe.step {c c' : OnRampConfig} {i : Nat} {x : Choice} (governed : Governed c)
    (h : AllSafe c) (releases : ReleasesResumable c i x)
    (stepped : c.step onRampSemantics i x = some c')
    : AllSafe c' := by
  obtain ⟨op, pending, move, others⟩ := swap_step governed stepped
  intro id
  by_cases concerned : op.swapId? x = some id
  case neg =>
    obtain ⟨own, same⟩ := move.elsewhere concerned
    rw [viewOf_eq others own same]
    exact h id
  have own : ∀ {stage : Stage}, stageOf c i = stage → stage.swap? = some id →
      (viewOf c id).stages i = stage := by
    intro stage before held
    change (stageOf c i).on id = stage
    rw [before, on_of_held held]
  generalize before : stageOf c i = stage at move
  generalize after : stageOf c' i = stage' at move
  generalize reached : c'.world = w' at move
  cases move with
  | quiet _ _ _ same =>
      rw [viewOf_eq others (by rw [before, after])]
      · exact h id
      · intro stages
        rw [reached]
        simp only [World.viewOf, World.conversionsFor, World.mintsFor, same.swaps,
          same.converted, same.minted]
  | create data stage fresh =>
      obtain rfl := Option.some.inj concerned
      rw [viewOf_rewritten others (after.trans before.symm) reached]
      exact (h _).create (AList.lookup_eq_none.mpr fresh)
  | claim t source row found claimable =>
      obtain rfl := Option.some.inj concerned
      rw [viewOf_put others reached, after, on_of_held rfl]
      exact (h t).claim found (pending_of_claimable claimable) (.inr ⟨_, _, rfl⟩)
  | claimLost t source row found claimable =>
      obtain rfl := Option.some.inj concerned
      rw [viewOf_put others reached, after, on_idle]
      exact (h t).claim found (pending_of_claimable claimable) (.inl rfl)
  | load t converts row found =>
      obtain rfl := Option.some.inj concerned
      rw [viewOf_moved others, after, on_of_held swap?_afterFind, reached]
      exact (h t).load (own before rfl) found
  | convert t usdcAmount w' left =>
      obtain rfl := Option.some.inj concerned
      rw [viewOf_moved others, after, on_of_held rfl, reached]
      rcases left with rfl | rfl
      · exact (h t).convert (own before rfl) (.inl rfl)
      · exact (h t).convert (own before rfl) (.inr List.count_cons_self)
  | mint t op w' swaps converted left =>
      obtain rfl := Option.some.inj concerned
      rw [viewOf_moved others, after, on_of_held rfl, reached]
      simp only [World.viewOf, World.conversionsFor, swaps, converted]
      apply (h t).mint (own before rfl)
      rcases left with kept | added
      · exact .inl (congrArg (List.count t) kept)
      · exact .inr ((congrArg (List.count t) added).trans List.count_cons_self)
  | record t data w' stage held keeps left =>
      obtain rfl := Option.some.inj concerned
      rcases left with rfl | ⟨row, found, rfl⟩
      · rw [viewOf_eq others (by rw [before, after])]
        · exact h t
        · exact fun _ => reached ▸ rfl
      · rw [viewOf_rewritten others (after.trans before.symm) reached]
        exact (h t).record (own before held ▸ ne_idle_of_held held) found keeps
  | release t data w' stage held ends left =>
      obtain rfl := Option.some.inj concerned
      have working : (viewOf c t).stages i ≠ .idle := own before held ▸ ne_idle_of_held held
      rcases left with rfl | ⟨row, found, rfl⟩
      · obtain ⟨-, row, found, busy⟩ := (h t).worker working
        rw [viewOf_moved others, after, on_over, reached]
        have kept := (h t).release working (fun pending => absurd pending busy)
        rwa [← found] at kept
      · rw [viewOf_put others reached, after, on_over]
        apply (h t).release working
        intro handedBack
        have resumable : c.world.Resumable t := by
          apply releases t
          rcases ends with failed | pendingStatus
          · simp [OnRampSwap.apply, failed] at handedBack
          · simp [pending, releasedSwap?, pendingStatus]
        exact SwapView.Resumable.apply (v := viewOf c t) resumable found

theorem allSafe_initial {dep : Deployment} {parties : List Party}
    {swaps : AList (fun _ : SwapId => OnRampSwap)} {queue : List Message}
    : AllSafe (initialConfig dep parties swaps queue) := by
  intro id
  have idle : ∀ i, (viewOf (initialConfig dep parties swaps queue) id).stages i = .idle := by
    intro i
    change (stageOf _ i).on id = _
    rw [stageOf_initial, on_idle]
  exact .of_untouched idle rfl rfl

/-- In a run whose failed attempts leave their swaps resumable, a swap is converted at most
once and minted for at most once.
-/
theorem applied_le_one (dep : Deployment) (parties : List Party)
    (swaps : AList (fun _ : SwapId => OnRampSwap)) (queue : List Message) (c : OnRampConfig)
    (reached : Config.Reaches onRampSemantics ReleasesResumable
      (initialConfig dep parties swaps queue) c)
    (id : SwapId)
    : c.world.conversionsFor id ≤ 1 ∧ c.world.mintsFor id ≤ 1 := by
  have invariant := Protocol.Governs.invariant (J := AllSafe)
    (@governed_initial dep parties swaps queue) allSafe_initial
    (fun _ _ _ _ governed h releases stepped => h.step governed releases stepped) reached
  exact (invariant.2 id).once

/-- A conversion that fails without an effect is tried again by the second delivery. -/
theorem applied_le_one_retried
    : ∃ c, Config.Reaches onRampSemantics ReleasesResumable
          (initialConfig sampleDeployment [.usdcDelivery, .usdcDelivery]
            (AList.singleton "s1" sampleSwap) [sampleMessage 0]) c
        ∧ (c.world.conversionsFor "s1", c.world.mintsFor "s1") = (1, 1)
        ∧ c.world.conversionsFor "s1" ≤ 1 ∧ c.world.mintsFor "s1" ≤ 1 := by
  have executed :
      ((initialConfig sampleDeployment [.usdcDelivery, .usdcDelivery]
          (AList.singleton "s1" sampleSwap) [sampleMessage 0]).run onRampSemantics
        ReleasesResumable
        (List.replicate 3 (0, sampleChoice 0) ++ [(0, sampleFailure)]
          ++ List.replicate 3 (0, sampleChoice 0)
          ++ List.replicate 14 (1, sampleChoice 1))).map
        (fun c => (c.world.conversionsFor "s1", c.world.mintsFor "s1")) = some (1, 1) := by
    decide +kernel
  obtain ⟨c, reached, applied⟩ := Config.reaches_of_run executed
  exact ⟨c, reached, applied, applied_le_one _ _ _ _ c reached "s1"⟩

/-- The first delivery fails to record its conversion, the second fails to record the end of
its mint; each leaves the swap to be done again.
-/
theorem applied_twice
    : ∃ c, Config.Reaches onRampSemantics Config.anyStep
          (initialConfig sampleDeployment [.usdcDelivery, .usdcDelivery, .usdcDelivery]
            (AList.singleton "s1" sampleSwap) [sampleMessage 0]) c
        ∧ (c.world.conversionsFor "s1", c.world.mintsFor "s1") = (2, 2) := by
  have executed :
      ((initialConfig sampleDeployment [.usdcDelivery, .usdcDelivery, .usdcDelivery]
          (AList.singleton "s1" sampleSwap) [sampleMessage 0]).run onRampSemantics
        Config.anyStep
        (List.replicate 4 (0, sampleChoice 0) ++ [(0, sampleFailure)]
          ++ List.replicate 3 (0, sampleChoice 0)
          ++ List.replicate 12 (1, sampleChoice 1) ++ [(1, sampleFailure)]
          ++ List.replicate 3 (1, sampleChoice 1)
          ++ List.replicate 12 (2, sampleChoice 2))).map
        (fun c => (c.world.conversionsFor "s1", c.world.mintsFor "s1")) = some (2, 2) := by
    decide +kernel
  exact Config.reaches_of_run executed

end AcbuBackend.OnRamp
