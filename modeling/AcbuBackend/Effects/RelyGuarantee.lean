import AcbuBackend.Effects.Evaluation

/-! Tasks of one program that touch different parts of a world.
A task relies on what the others do between its calls, and guarantees what its own calls do. Tasks
that guarantee what each other rely on keep their postconditions however they are interleaved.
-/

namespace AcbuBackend.Effects

variable {I : Interface} {α β W C : Type}

namespace Semantics

variable (sem : Semantics I W C) (i : Nat)

/-- While others change the world by `H`, every call of the program changes it by `G`, and it ends
as `Q` or `E` says.
-/
def guarantees (H G : W → W → Prop)
    : Prog I α → W → (α → W → Prop) → (I.Err → W → Prop) → Prop
  | .done value, w, Q, _ => ∀ w', H w w' → Q value w'
  | .fail error, w, _, E => ∀ w', H w w' → E error w'
  | .call op next, w, Q, E =>
      ∀ w', H w w' → ∀ x reply w'', sem.act i op x w' = some (reply, w'') →
        G w' w'' ∧ guarantees H G (next reply) w'' Q E

/-- A relation for any number of changes, or none. -/
structure Rely (H : W → W → Prop) : Prop where
  refl : ∀ w, H w w
  trans : ∀ {w₁ w₂ w₃}, H w₁ w₂ → H w₂ w₃ → H w₁ w₃

variable {sem i} {H G : W → W → Prop} {w w' : W} {Q : α → W → Prop} {E : I.Err → W → Prop}

theorem guarantees.wlp {R : W → W → Prop} {prog : Prog I α} (rely : Rely H) (changes : Rely R)
    (included : ∀ w w', G w w' → R w w') (h : sem.guarantees i H G prog w Q E)
    : sem.wlp i prog w (fun value w' => Q value w' ∧ R w w') (fun error w' => E error w' ∧ R w w')
    := by
  induction prog generalizing w with
  | done value => exact ⟨h w (rely.refl w), changes.refl w⟩
  | fail error => exact ⟨h w (rely.refl w), changes.refl w⟩
  | call op next ih =>
      intro x reply w' answered
      obtain ⟨own, rest⟩ := h w (rely.refl w) x reply w' answered
      have first := included w w' own
      exact Semantics.wlp_mono (ih reply rest)
        (fun _ _ known => ⟨known.1, changes.trans first known.2⟩)
        fun _ _ known => ⟨known.1, changes.trans first known.2⟩

/-- What others do leaves a guarantee in force. -/
theorem guarantees.stable {prog : Prog I α} (rely : Rely H) (h : sem.guarantees i H G prog w Q E)
    (changed : H w w')
    : sem.guarantees i H G prog w' Q E := by
  cases prog with
  | done value => exact fun w'' later => h w'' (rely.trans changed later)
  | fail error => exact fun w'' later => h w'' (rely.trans changed later)
  | call op next => exact fun w'' later => h w'' (rely.trans changed later)

/-- Weaker postconditions are easier to guarantee. -/
theorem guarantees.mono {prog : Prog I α} {Q' : α → W → Prop} {E' : I.Err → W → Prop}
    (h : sem.guarantees i H G prog w Q E) (hQ : ∀ value w', Q value w' → Q' value w')
    (hE : ∀ error w', E error w' → E' error w')
    : sem.guarantees i H G prog w Q' E' := by
  induction prog generalizing w with
  | done value => exact fun w' changed => hQ value w' (h w' changed)
  | fail error => exact fun w' changed => hE error w' (h w' changed)
  | call op next ih =>
      intro w' changed x reply w'' answered
      obtain ⟨own, rest⟩ := h w' changed x reply w'' answered
      exact ⟨own, ih reply rest⟩

theorem guarantees_bind {prog : Prog I α} {f : α → Prog I β} {Q : β → W → Prop} (rely : Rely H)
    (h : sem.guarantees i H G prog w (fun value w' => sem.guarantees i H G (f value) w' Q E) E)
    : sem.guarantees i H G (prog >>= f) w Q E := by
  change sem.guarantees i H G (prog.bind f) w Q E
  induction prog generalizing w with
  | done value => exact h w (rely.refl w)
  | fail error => exact h
  | call op next ih =>
      intro w' changed x reply w'' answered
      obtain ⟨own, rest⟩ := h w' changed x reply w'' answered
      exact ⟨own, ih reply rest⟩

theorem guarantees_of_only {p : I.Op → Prop} {J : W → Prop} {prog : Prog I α}
    (stable : ∀ w w', J w → H w w' → J w')
    (keeps : ∀ op x w reply w', p op → J w → sem.act i op x w = some (reply, w') → G w w' ∧ J w')
    (only : Protocol.Only p prog) (start : J w)
    : sem.guarantees i H G prog w (fun _ w' => J w') (fun _ w' => J w') := by
  induction prog generalizing w with
  | done value => exact fun w' changed => stable w w' start changed
  | fail error => exact fun w' changed => stable w w' start changed
  | call op next ih =>
      intro w' changed x reply w'' answered
      obtain ⟨_, moved, rest⟩ := only reply
      obtain ⟨own, kept⟩ := keeps op x w' reply w'' (Protocol.only_next.mp moved)
        (stable w w' start changed) answered
      exact ⟨own, ih reply rest kept⟩

/-- A single call. -/
theorem guarantees_await {op : I.Op} {Q : I.Ret op → W → Prop}
    (own : ∀ w', H w w' → ∀ x reply w'', sem.act i op x w' = some (reply, w'') → G w' w''
      ∧ match reply with
        | .ok value => ∀ last, H w'' last → Q value last
        | .error error => ∀ last, H w'' last → E error last)
    : sem.guarantees i H G (Prog.await op) w Q E := by
  intro w' changed x reply w'' answered
  obtain ⟨first, last⟩ := own w' changed x reply w'' answered
  cases reply with
  | ok value => exact ⟨first, last⟩
  | error error => exact ⟨first, last⟩

-- Settled tasks

/-- What is known of a settled task in a world. -/
def settledIn (Q : α → W → Prop) (E : I.Err → W → Prop) (w : W) : Except I.Err α → Prop
  | .ok value => Q value w
  | .error error => E error w

section

variable {H₁ G₁ H₂ G₂ : W → W → Prop} {scheduler : Scheduler I}
    {R : List (Except I.Err α) → W → Prop}

/-- A settled task in front of tasks that go on. -/
theorem guarantees_settled {others : Prog I (List (Except I.Err α))} {result : Except I.Err α}
    (rely : Rely H₁) (weaker : ∀ w w', H w w' → H₁ w w' ∧ H₂ w w')
    (helps : ∀ w w', G₂ w w' → H₁ w w') (included : ∀ w w', G₂ w w' → G w w')
    (known : ∀ w', H₁ w w' → settledIn Q E w' result)
    (rest : sem.guarantees i H₂ G₂ others w R (fun _ _ => False))
    : sem.guarantees i H G (others.bind (fun results => .done (result :: results))) w
        (fun results w' => ∃ first rest,
          results = first :: rest ∧ settledIn Q E w' first ∧ R rest w')
        (fun _ _ => False) := by
  induction others generalizing w with
  | done results =>
      exact fun w' changed => ⟨result, results, rfl, known w' (weaker w w' changed).1,
        rest w' (weaker w w' changed).2⟩
  | fail error => exact fun w' changed => rest w' (weaker w w' changed).2
  | call op next ih =>
      intro w' changed x reply w'' answered
      obtain ⟨first, both⟩ := weaker w w' changed
      obtain ⟨own, later⟩ := rest w' both x reply w'' answered
      exact ⟨included w' w'' own, ih reply
        (fun last changed => known last (rely.trans (rely.trans first (helps w' w'' own)) changed))
        later⟩

theorem guarantees_alongside {task : Prog I α} {others : Prog I (List (Except I.Err α))}
    (rely₁ : Rely H₁) (rely₂ : Rely H₂) (weaker : ∀ w w', H w w' → H₁ w w' ∧ H₂ w w')
    (helps₁ : ∀ w w', G₁ w w' → H₂ w w') (helps₂ : ∀ w w', G₂ w w' → H₁ w w')
    (included : ∀ w w', G₁ w w' ∨ G₂ w w' → G w w') (still : ∀ w, G w w)
    (turn : ∀ x w reply w', sem.act i scheduler.turn x w = some (reply, w') → w' = w)
    (first : sem.guarantees i H₁ G₁ task w Q E)
    (rest : sem.guarantees i H₂ G₂ others w R (fun _ _ => False))
    : sem.guarantees i H G (Prog.alongside scheduler task others) w
        (fun results w' => ∃ result rest,
          results = result :: rest ∧ settledIn Q E w' result ∧ R rest w')
        (fun _ _ => False) := by
  have settled := fun {w others result} known rest =>
    @guarantees_settled I α W C sem i H G w Q E H₁ H₂ G₂ R others result rely₁ weaker helps₂
      (fun w w' own => included w w' (.inr own)) known rest
  induction task generalizing others w with
  | done value =>
      rw [Prog.alongside]
      exact settled first rest
  | fail error =>
      rw [Prog.alongside]
      exact settled first rest
  | call op next ih =>
      rw [Prog.alongside]
      -- the call of the task, in whatever state the others are
      have goesOn : ∀ {w : W} {others : Prog I (List (Except I.Err α))},
          sem.guarantees i H₁ G₁ (.call op next) w Q E →
          sem.guarantees i H₂ G₂ others w R (fun _ _ => False) →
          sem.guarantees i H G (.call op fun reply => (next reply).alongside scheduler others) w
            (fun results w' => ∃ result rest,
              results = result :: rest ∧ settledIn Q E w' result ∧ R rest w')
            (fun _ _ => False) := by
        intro w others first rest w' changed x reply w'' answered
        obtain ⟨left, right⟩ := weaker w w' changed
        obtain ⟨own, later⟩ := first w' left x reply w'' answered
        exact ⟨included w' w'' (.inl own), ih reply later
          ((rest.stable rely₂ right).stable rely₂ (helps₁ w' w'' own))⟩
      induction others generalizing w with
      | done results => exact goesOn first rest
      | fail error => exact fun w' changed => rest w' (weaker w w' changed).2
      | call other resume ihOthers =>
          intro w' changed x answer w'' answered
          obtain rfl := turn x w' answer w'' answered
          obtain ⟨left, right⟩ := weaker w w'' changed
          refine ⟨still w'', ?_⟩
          beta_reduce
          split
          · exact goesOn (first.stable rely₁ left) (rest.stable rely₂ right)
          · intro w' changed x reply w₁ answered
            obtain ⟨left', right'⟩ := weaker w'' w' changed
            obtain ⟨own, later⟩ := rest w' (rely₂.trans right right') x reply w₁ answered
            exact ⟨included w' w₁ (.inr own), ihOthers reply
              ((first.stable rely₁ (rely₁.trans left left')).stable rely₁ (helps₂ w' w₁ own))
              later⟩

theorem guarantees_allSettled {ι : Type} {entries : List ι} {task : ι → Prog I α}
    {H G : ι → W → W → Prop} {Q : ι → α → W → Prop} {E : ι → I.Err → W → Prop}
    (rely : ∀ e, Rely (H e)) (helps : entries.Pairwise (fun e f =>
      (∀ w w', G e w w' → H f w w') ∧ ∀ w w', G f w w' → H e w w'))
    (turn : ∀ x w reply w', sem.act i scheduler.turn x w = some (reply, w') → w' = w)
    (each : ∀ e ∈ entries, sem.guarantees i (H e) (G e) (task e) w (Q e) (E e))
    : sem.guarantees i (fun w w' => ∀ e ∈ entries, H e w w')
        (fun w w' => w' = w ∨ ∃ e ∈ entries, G e w w')
        (Prog.allSettled scheduler (entries.map task)) w
        (fun results w' => List.Forall₂ (fun e result => settledIn (Q e) (E e) w' result) entries
          results)
        (fun _ _ => False) := by
  induction entries with
  | nil => exact fun w' _ => .nil
  | cons e entries ih =>
      obtain ⟨apart, helps⟩ := List.pairwise_cons.mp helps
      obtain ⟨first, others⟩ := List.forall_mem_cons.mp each
      have together : Rely (fun w w' => ∀ e ∈ entries, H e w w') :=
        ⟨fun w e _ => (rely e).refl w, fun left right e member =>
          (rely e).trans (left e member) (right e member)⟩
      have done := guarantees_alongside (H := fun w w' => ∀ f ∈ e :: entries, H f w w')
        (G := fun w w' => w' = w ∨ ∃ f ∈ e :: entries, G f w w') (rely e) together
        (fun w w' changed => List.forall_mem_cons.mp changed)
        (fun w w' own f member => (apart f member).1 w w' own)
        (fun w w' own => by
          rcases own with rfl | ⟨f, member, own⟩
          · exact (rely e).refl w'
          · exact (apart f member).2 w w' own)
        (fun w w' own => by
          rcases own with own | same | ⟨f, member, own⟩
          · exact .inr ⟨e, List.mem_cons_self, own⟩
          · exact .inl same
          · exact .inr ⟨f, List.mem_cons_of_mem _ member, own⟩)
        (fun w => .inl rfl) turn first (ih helps others)
      refine done.mono (fun results w' => ?_) fun _ _ absurd => absurd
      rintro ⟨result, rest, rfl, known, later⟩
      exact .cons known later

end

end Semantics

end AcbuBackend.Effects
