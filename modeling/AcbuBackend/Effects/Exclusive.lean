import AcbuBackend.Effects.Interleaving

/-! Effects that happen at most once because their callers enter one at a time.
A caller looks first, and acts on what it saw. This is safe where it only goes on while
nothing has been done for its key and nobody else is at work on it. A key may also be claimed for
good: then the world shows it as taken, and no caller may start to work on a key that is taken.
-/

namespace AcbuBackend.Effects.Protocol

variable {I : Interface} {α W C S K : Type} {P : Protocol I S} {start : Nat → S}
  {holds fresh : S → K → Prop} {count : W → K → Nat}

/-- No other live caller is at work on `k`. -/
def Alone (P : Protocol I S) (start : Nat → S) (holds : S → K → Prop) (c : Config I α W)
    (i : Nat) (k : K)
    : Prop :=
  ∀ j < c.threads.length, j ≠ i → c.live j = true → ¬ holds (P.phase start c j) k

instance [∀ phase k, Decidable (holds phase k)] (c : Config I α W) (i : Nat) (k : K)
    : Decidable (P.Alone start holds c i k) :=
  inferInstanceAs (Decidable (∀ j < c.threads.length, _ → _ → _))

/-- What a step of caller `i` may do to one key: only a caller that nothing was done before
and nobody else is at work enters, and only a fresh caller, or one at work while nothing was
done, adds to the count.
-/
structure ExclusiveStep (P : Protocol I S) (start : Nat → S) (holds fresh : S → K → Prop)
    (count : W → K → Nat) (c c' : Config I α W) (i : Nat) (k : K)
    : Prop where
  entered : holds (P.phase start c' i) k →
    holds (P.phase start c i) k ∨ count c.world k = 0 ∧ P.Alone start holds c i k
  untouched : fresh (P.phase start c' i) k →
    count c'.world k = count c.world k
    ∧ (fresh (P.phase start c i) k ∨ count c.world k = 0 ∧ P.Alone start holds c i k)
  counted : count c'.world k = count c.world k
    ∨ count c'.world k = count c.world k + 1
      ∧ (fresh (P.phase start c i) k ∨ holds (P.phase start c i) k ∧ count c.world k = 0)

/-- One caller at a time is at work on a key, and a fresh one finds nothing done. -/
structure Exclusive (P : Protocol I S) (start : Nat → S) (holds fresh : S → K → Prop)
    (count : W → K → Nat) (c : Config I α W) (k : K)
    : Prop where
  single : ∀ i j, c.live i = true → c.live j = true →
    holds (P.phase start c i) k → holds (P.phase start c j) k → i = j
  undone : ∀ i, c.live i = true → fresh (P.phase start c i) k → count c.world k = 0
  once : count c.world k ≤ 1

theorem Exclusive.step {c c' : Config I α W} {i : Nat} {k : K}
    (contained : ∀ phase, fresh phase k → holds phase k)
    (h : P.Exclusive start holds fresh count c k) (live : c.live i = true)
    (others : ∀ j, j ≠ i → P.phase start c' j = P.phase start c j ∧ c'.live j = c.live j)
    (move : P.ExclusiveStep start holds fresh count c c' i k)
    : P.Exclusive start holds fresh count c' k := by
  have excludes : holds (P.phase start c' i) k → ∀ j, j ≠ i → c'.live j = true →
      ¬ holds (P.phase start c' j) k := by
    intro mine j different liveJ theirs
    rw [(others j different).1] at theirs
    rw [(others j different).2] at liveJ
    rcases move.entered mine with before | ⟨-, alone⟩
    · exact different (h.single j i liveJ live theirs before)
    · exact alone j (Config.lt_of_live liveJ) different liveJ theirs
  constructor
  · intro j l liveJ liveL first second
    by_cases mineJ : j = i
    · subst mineJ
      by_contra different
      exact excludes first l (Ne.symm different) liveL second
    · by_cases mineL : l = i
      · subst mineL
        exact absurd first (excludes second j mineJ liveJ)
      · rw [(others j mineJ).2] at liveJ
        rw [(others l mineL).2] at liveL
        rw [(others j mineJ).1] at first
        rw [(others l mineL).1] at second
        exact h.single j l liveJ liveL first second
  · intro j liveJ untouched
    by_cases mine : j = i
    · subst mine
      obtain ⟨kept, before | ⟨none, -⟩⟩ := move.untouched untouched
      · exact kept.trans (h.undone j live before)
      · exact kept.trans none
    · rw [(others j mine).2] at liveJ
      rw [(others j mine).1] at untouched
      rcases move.counted with kept | ⟨-, acting⟩
      · exact kept.trans (h.undone j liveJ untouched)
      · have atWork : holds (P.phase start c i) k := by
          rcases acting with before | ⟨before, -⟩
          · exact contained _ before
          · exact before
        exact absurd (h.single j i liveJ live (contained _ untouched) atWork) mine
  · rcases move.counted with kept | ⟨added, acting⟩
    · exact kept ▸ h.once
    · have none : count c.world k = 0 := by
        rcases acting with before | ⟨-, none⟩
        · exact h.undone i live before
        · exact none
      omega

/-- In a run of exclusive steps nothing is done twice for a key. -/
theorem Governs.atMostOnce {sem : Semantics I W C} {ok : Config I α W → Nat → C → Prop}
    {Q : Nat → α → S → Prop} {E : Nat → I.Err → S → Prop} {c₀ c : Config I α W} {k : K}
    (contained : ∀ phase, fresh phase k → holds phase k)
    (governed : P.Governs start Q E c₀) (idle : ∀ i, ¬ holds (P.phase start c₀ i) k)
    (none : count c₀.world k = 0)
    (steps : ∀ c c' i x, P.Governs start Q E c → ok c i x → c.step sem i x = some c' →
      P.ExclusiveStep start holds fresh count c c' i k)
    (reached : Config.Reaches sem ok c₀ c)
    : P.Exclusive start holds fresh count c k := by
  have base : P.Exclusive start holds fresh count c₀ k := by
    constructor
    · exact fun i _ _ _ first _ => absurd first (idle i)
    · exact fun _ _ _ => none
    · omega
  refine (governed.invariant (J := fun c => P.Exclusive start holds fresh count c k) base ?_
    reached).2
  intro c c' i x governed h allowed stepped
  obtain ⟨_, _, live, _, _, _, _, others, _⟩ := governed.step_cases stepped
  exact h.step contained live (fun j different =>
    ⟨(others j different).1, (others j different).2.1⟩)
    (steps c c' i x governed allowed stepped)

-- Keys that are claimed

section

variable {claimed : S → K → Prop} {taken : W → K → Prop}

/-- What a step of caller `i` may do to one key. -/
structure ClaimStep (P : Protocol I S) (start : Nat → S) (holds claimed : S → K → Prop)
    (taken : W → K → Prop) (c c' : Config I α W) (i : Nat) (k : K)
    : Prop where
  entered : holds (P.phase start c' i) k →
    holds (P.phase start c i) k ∨ ¬ taken c.world k ∧ P.Alone start holds c i k
  claims : claimed (P.phase start c' i) k →
    claimed (P.phase start c i) k ∨ holds (P.phase start c i) k ∧ taken c'.world k
  keeps : taken c.world k → taken c'.world k

/-- A caller works on a key, or has claimed it. -/
def Engaged (P : Protocol I S) (start : Nat → S) (holds claimed : S → K → Prop) (c : Config I α W)
    (k : K) (i : Nat)
    : Prop :=
  c.live i = true ∧ holds (P.phase start c i) k ∨ claimed (P.phase start c i) k

/-- At most one caller works on a key or has claimed it, and a claimed key is taken. -/
structure Claimed (P : Protocol I S) (start : Nat → S) (holds claimed : S → K → Prop)
    (taken : W → K → Prop) (c : Config I α W) (k : K)
    : Prop where
  single : ∀ i j, P.Engaged start holds claimed c k i → P.Engaged start holds claimed c k j → i = j
  taken : ∀ i, claimed (P.phase start c i) k → taken c.world k

theorem Claimed.step {c c' : Config I α W} {i : Nat} {k : K}
    (h : P.Claimed start holds claimed taken c k) (live : c.live i = true)
    (others : ∀ j, j ≠ i → P.phase start c' j = P.phase start c j ∧ c'.live j = c.live j)
    (move : P.ClaimStep start holds claimed taken c c' i k)
    : P.Claimed start holds claimed taken c' k := by
  have engagedBefore : ∀ j, j ≠ i → P.Engaged start holds claimed c' k j →
      P.Engaged start holds claimed c k j := by
    intro j other engaged
    rw [Engaged, (others j other).1, (others j other).2] at engaged
    exact engaged
  have excludes : P.Engaged start holds claimed c' k i → ∀ j, j ≠ i →
      ¬ P.Engaged start holds claimed c' k j := by
    intro mine j other theirs
    have theirs := engagedBefore j other theirs
    have already : P.Engaged start holds claimed c k i → False :=
      fun mine => other (h.single j i theirs mine)
    rcases mine with ⟨-, working⟩ | claims
    · rcases move.entered working with before | ⟨free, alone⟩
      · exact already (.inl ⟨live, before⟩)
      · rcases theirs with ⟨liveJ, working⟩ | claims
        · exact alone j (Config.lt_of_live liveJ) other liveJ working
        · exact free (h.taken j claims)
    · rcases move.claims claims with before | ⟨before, -⟩
      · exact already (.inr before)
      · exact already (.inl ⟨live, before⟩)
  constructor
  · intro j l first second
    by_cases mineJ : j = i
    · subst mineJ
      by_contra different
      exact excludes first l (Ne.symm different) second
    · by_cases mineL : l = i
      · subst mineL
        exact absurd first (excludes second j mineJ)
      · exact h.single j l (engagedBefore j mineJ first) (engagedBefore l mineL second)
  · intro j claims
    by_cases mine : j = i
    · subst mine
      rcases move.claims claims with before | ⟨-, after⟩
      · exact move.keeps (h.taken j before)
      · exact after
    · rw [(others j mine).1] at claims
      exact move.keeps (h.taken j claims)

theorem Claimed.initial {c : Config I α W} {k : K} (idle : ∀ i, ¬ holds (P.phase start c i) k)
    (unclaimed : ∀ i, ¬ claimed (P.phase start c i) k)
    : P.Claimed start holds claimed taken c k where
  single := fun i _ first _ => by
    rcases first with ⟨-, working⟩ | claims
    · exact absurd working (idle i)
    · exact absurd claims (unclaimed i)
  taken := fun i claims => absurd claims (unclaimed i)

end

end AcbuBackend.Effects.Protocol
