import AcbuBackend.Wallet.WalletProtocol

/-! The successful calls on a wallet come one after the other.
A call succeeds where the stored version is the one it names, and then raises it. So the versions of
the successful calls are consecutive, and the stored wallet is what their updates make of it in that
order.
-/

namespace AcbuBackend.Wallet

open Effects AcbuBackend.Runtime

/-- No update takes effect without its caller being told. -/
def atomic (_ : WalletConfig) (_ : Nat) (x : Choice) : Prop :=
  x.outcome.isLost = false

instance (c : WalletConfig) (i : Nat) (x : Choice) : Decidable (atomic c i x) :=
  inferInstanceAs (Decidable (_ = _))

/-- A wallet after the updates of the calls `order`. -/
def afterCalls (calls : List WalletCall) (row : UserRow) (order : List Nat) : UserRow :=
  order.foldl (fun row i => row.apply (callAt calls i).data) row

/-- The calls `order` on the wallet of a user are those that have succeeded, in the order of the
versions they name, and have made the stored wallet what it is.
-/
structure Serialized (calls : List WalletCall) (userId : UserId) (row : UserRow) (c : WalletConfig)
    (order : List Nat)
    : Prop where
  exactly : ∀ i, i ∈ order ↔ (callAt calls i).userId = userId ∧ (c.value? i).isSome = true
  nodup : order.Nodup
  versions : ∀ (k i : Nat), order[k]? = some i →
    (callAt calls i).version? = some (row.walletVersion + k)
  stored : c.world.users.lookup userId = some (afterCalls calls row order)

/-- What holds of the wallet of a user, of whom `row` was stored at first: one of the calls with the
same version succeeds at most, the version counts the successes, the wallet is theirs, and what
fails changes nothing.
-/
structure UpdatesSerial (calls : List WalletCall) (userId : UserId) (row : UserRow)
    (c : WalletConfig)
    : Prop where
  single : ∀ i j, (callAt calls i).userId = userId → (callAt calls j).userId = userId →
    (callAt calls i).version? = (callAt calls j).version? →
    (c.value? i).isSome = true → (c.value? j).isSome = true → i = j
  serial : ∃ order stored, Serialized calls userId row c order
    ∧ c.world.users.lookup userId = some stored
    ∧ stored.walletVersion = row.walletVersion + order.length
  failed : ∀ i x c', atomic c i x → c.step walletSemantics i x = some c' → c'.value? i = none →
    c'.world = c.world

variable {dep : Deployment} {calls : List WalletCall} {userId : UserId} {row : UserRow}
    {order : List Nat}

theorem walletVersion_afterCalls
    : (afterCalls calls row order).walletVersion = row.walletVersion + order.length := by
  unfold afterCalls
  induction order generalizing row with
  | nil => simp
  | cons i rest ih =>
      rw [List.foldl_cons, ih, walletVersion_apply, List.length_cons]
      omega

theorem world_of_failed {c c' : WalletConfig} {i : Nat} {x : Choice} (governed : Governed calls c)
    (whole : atomic c i x) (stepped : c.step walletSemantics i x = some c')
    (failed : stageOf calls c' i ≠ .succeeded)
    : c'.world = c.world := by
  obtain ⟨move, -, -⟩ := wallet_step governed stepped
  generalize stageOf calls c' i = stage at move failed
  cases move with
  | read _ _ _ same | missed same => exact same
  | wrote => exact absurd rfl failed
  | unreported lost =>
      rw [show x.outcome.isLost = false from whole] at lost
      cases lost

theorem afterCalls_concat {i : Nat}
    : afterCalls calls row (order ++ [i]) = (afterCalls calls row order).apply
        (callAt calls i).data := by
  simp [afterCalls]

theorem Serialized.concat {c c' : WalletConfig} {i : Nat} (h : Serialized calls userId row c order)
    (mine : (callAt calls i).userId = userId) (fresh : (c.value? i).isSome = false)
    (ended : (c'.value? i).isSome = true)
    (others : ∀ j, j ≠ i → ((c'.value? j).isSome = true ↔ (c.value? j).isSome = true))
    (named : (callAt calls i).version? = some (afterCalls calls row order).walletVersion)
    (left : c'.world.users.lookup userId = some ((afterCalls calls row order).apply
      (callAt calls i).data))
    : Serialized calls userId row c' (order ++ [i]) := by
  constructor
  · intro j
    rw [List.mem_append, List.mem_singleton, h.exactly j]
    by_cases same : j = i
    · subst same
      exact ⟨fun _ => ⟨mine, ended⟩, fun _ => .inr rfl⟩
    · rw [others j same]
      simp [same]
  · refine List.nodup_append.mpr ⟨h.nodup, List.nodup_singleton i, ?_⟩
    rintro j member k last rfl
    obtain rfl := List.mem_singleton.mp last
    have ended := ((h.exactly j).mp member).2
    rw [fresh] at ended
    cases ended
  · intro k j there
    by_cases inside : k < order.length
    · rw [List.getElem?_append_left inside] at there
      exact h.versions k j there
    · rw [List.getElem?_append_right (by omega)] at there
      obtain ⟨bound, last⟩ := List.getElem?_eq_some_iff.mp there
      rw [List.length_singleton] at bound
      have position : k = order.length := by omega
      subst position
      have last : i = j := by simpa using last
      rw [← last, named, walletVersion_afterCalls]
  · rw [left, afterCalls_concat]

theorem Serialized.keep {c c' : WalletConfig} (h : Serialized calls userId row c order)
    (same : ∀ j, (callAt calls j).userId = userId →
      ((c'.value? j).isSome = true ↔ (c.value? j).isSome = true))
    (left : c'.world.users.lookup userId = c.world.users.lookup userId)
    : Serialized calls userId row c' order where
  exactly j := (h.exactly j).trans (and_congr_right fun mine => (same j mine).symm)
  nodup := h.nodup
  versions := h.versions
  stored := left.trans h.stored

theorem WalletMove.written {call : WalletCall} {x : Choice} {w w' : World} {stage stage' : Stage}
    (move : WalletMove call x w w' stage stage') (succeeded : stage' = .succeeded)
    : ∃ found, w.users.lookup call.userId = some found ∧ call.version? = some found.walletVersion
      ∧ w'.users = w.users.insert call.userId (found.apply call.data) := by
  cases move with
  | read _ reply =>
      unfold afterRead at succeeded
      split at succeeded
      · split at succeeded <;> cases succeeded
      · cases succeeded
  | missed | unreported => cases succeeded
  | wrote _ found named left => exact ⟨_, found, named, left⟩

theorem Serialized.step {c c' : WalletConfig} {i : Nat} {x : Choice}
    (h : Serialized calls userId row c order) (governed : Governed calls c)
    (governed' : Governed calls c')
    (whole : atomic c i x) (stepped : c.step walletSemantics i x = some c')
    : ∃ order', Serialized calls userId row c' order' := by
  obtain ⟨move, notYet, others⟩ := wallet_step governed stepped
  have same : ∀ j, j ≠ i → ((c'.value? j).isSome = true ↔ (c.value? j).isSome = true) := by
    intro j other
    rw [← succeeded_iff governed', ← succeeded_iff governed, others j other]
  have fresh : (c.value? i).isSome = false :=
    Bool.eq_false_iff.mpr fun ended => notYet ((succeeded_iff governed).mpr ended)
  by_cases succeeds : stageOf calls c' i = .succeeded
  · have ended := (succeeded_iff governed').mp succeeds
    obtain ⟨found, there, named, left⟩ := move.written succeeds
    by_cases mine : (callAt calls i).userId = userId
    · rw [mine] at there left
      obtain rfl := Option.some.inj (h.stored.symm.trans there)
      exact ⟨_, h.concat mine fresh ended same named (by rw [left, AList.lookup_insert])⟩
    · refine ⟨order, h.keep (fun j own => same j ?_) ?_⟩
      · rintro rfl
        exact mine own
      · rw [left, AList.lookup_insert_ne (Ne.symm mine)]
  · refine ⟨order, h.keep (fun j _ => ?_) (by rw [world_of_failed governed whole stepped succeeds])⟩
    by_cases other : j = i
    · subst other
      rw [← succeeded_iff governed', ← succeeded_iff governed]
      exact ⟨fun done => absurd done succeeds, fun done => absurd done notYet⟩
    · exact same j other

/-- In every run of atomic updates the successful calls on a wallet are serialized. -/
theorem wallet_updates_serial (dep : Deployment) (calls : List WalletCall)
    (users : AList (fun _ : UserId => UserRow)) (userId : UserId) (row : UserRow)
    (there : users.lookup userId = some row) {c : WalletConfig}
    (reached : Config.Reaches walletSemantics atomic (initialConfig dep calls users) c)
    : UpdatesSerial calls userId row c := by
  have base : ∃ order, Serialized calls userId row (initialConfig dep calls users) order := by
    refine ⟨[], fun i => ?_, List.nodup_nil, fun k i absurd => (by cases absurd), there⟩
    rw [← succeeded_iff governed_initial, stageOf_initial]
    simp
  obtain ⟨governed, order, h⟩ := Protocol.Governs.invariant
    (J := fun c => ∃ order, Serialized calls userId row c order) governed_initial base (by
      rintro c c' i x governed ⟨order, h⟩ whole stepped
      obtain ⟨_, _, _, _, _, _, _, _, governed'⟩ := governed.step_cases stepped
      exact h.step governed governed' whole stepped) reached
  refine ⟨fun i j mine mine' same first second => ?_,
    ⟨order, _, h, h.stored, walletVersion_afterCalls⟩, fun i x c' whole stepped failed => ?_⟩
  · obtain ⟨k, atK⟩ := List.mem_iff_getElem?.mp ((h.exactly i).mpr ⟨mine, first⟩)
    obtain ⟨l, atL⟩ := List.mem_iff_getElem?.mp ((h.exactly j).mpr ⟨mine', second⟩)
    have versions := (h.versions k i atK).symm.trans (same.trans (h.versions l j atL))
    have : k = l := by
      have := Option.some.inj versions
      omega
    subst this
    exact Option.some.inj (atK.symm.trans atL)
  · obtain ⟨_, _, _, _, _, _, _, _, governed'⟩ := governed.step_cases stepped
    refine world_of_failed governed whole stepped fun succeeds => ?_
    have ended := (succeeded_iff governed').mp succeeds
    rw [failed] at ended
    cases ended

/-- Of two calls with one entity tag the second fails. -/
theorem wallet_updates_serial_twice
    : ∃ c, c.value? 0 = some 1
        ∧ c.error? 1 = some (appError
            "Wallet was modified by another request; refresh and retry with the current ETag" 412
            .PRECONDITION_FAILED)
        ∧ UpdatesSerial [.reserve "user" (some "\"0\""), .reserve "user" (some "\"0\"")] "user"
          {} c := by
  have executed :
      ((initialConfig sampleDeployment [.reserve "user" (some "\"0\""),
        .reserve "user" (some "\"0\"")]
        sampleUsers).run walletSemantics atomic [(0, {}), (1, {})]).map
          (fun c => (c.value? 0, c.error? 1))
        = some (some 1, some (appError
            "Wallet was modified by another request; refresh and retry with the current ETag" 412
            .PRECONDITION_FAILED)) := by
    decide +kernel
  obtain ⟨c, reached, known⟩ := Config.reaches_of_run executed
  obtain ⟨first, second⟩ := Prod.mk.inj known
  exact ⟨c, first, second, wallet_updates_serial _ _ _ _ _ (by decide +kernel) reached⟩

end AcbuBackend.Wallet
