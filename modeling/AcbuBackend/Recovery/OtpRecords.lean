import AcbuBackend.Auth.Frames
import AcbuBackend.Recovery.RecoveryProtocol

/-! What calls do to the challenges, their comparisons, and the recorded attempts. -/

namespace AcbuBackend.Recovery

open Effects AcbuBackend.Runtime Challenge Auth

-- Challenges

/-- A later state of a challenge: only its use may have been written. -/
structure Later (row row' : OtpChallenge) : Prop where
  userId : row'.userId = row.userId
  expiresAt : row'.expiresAt = row.expiresAt
  usedAt : row.usedAt.isSome = true → row'.usedAt.isSome = true

theorem Later.refl (row : OtpChallenge) : Later row row :=
  ⟨rfl, rfl, id⟩

/-- A challenge that is used up. -/
def IsUsed (w : World) (challenge : ChallengeId) : Prop :=
  ∃ row, w.otpChallenges.lookup challenge = some row ∧ row.usedAt.isSome = true

theorem mem_of_newestChallenge {rows : List (ChallengeId × OtpChallenge)}
    {found : ChallengeId × OtpChallenge} (h : newestChallenge rows = some found)
    : found ∈ rows := by
  induction rows generalizing found with
  | nil => cases h
  | cons head rest ih =>
      simp only [newestChallenge] at h
      split at h
      · obtain rfl := Option.some.inj h
        exact List.mem_cons_self
      · rename_i other newest
        split at h
        · obtain rfl := Option.some.inj h
          exact List.mem_cons_of_mem _ (ih newest)
        · obtain rfl := Option.some.inj h
          exact List.mem_cons_self

section

variable {i : Nat} {op : AuthOp} {x : Choice} {w w' : World} {reply : authInterface.Reply op}
  {challenge : ChallengeId} {row : OtpChallenge}

theorem matches_of_findChallenge {filter : ChallengeFilter}
    (found : w.findChallenge filter = some (challenge, row))
    : w.otpChallenges.lookup challenge = some row ∧ row.matches challenge filter = true := by
  obtain ⟨entry, member, same⟩ := List.mem_map.mp (mem_of_newestChallenge found)
  obtain ⟨rfl, rfl⟩ := Prod.mk.inj same
  obtain ⟨stored, agrees⟩ := List.mem_filter.mp member
  exact ⟨AList.mem_lookup_iff.mpr stored, agrees⟩

theorem found_of_act {filter : ChallengeFilter}
    (h : authSemantics.act i (.findChallenge filter) x w = some (.ok (some (challenge, row)), w'))
    : w.findChallenge filter = some (challenge, row)
      ∧ w.otpChallenges.lookup challenge = some row
      ∧ row.userId = filter.userId
      ∧ row.usedAt = none := by
  obtain ⟨-, answered⟩ := auth_act_ok h
  have found : w.findChallenge filter = some (challenge, row) :=
    Except.ok.inj (congrArg Prod.fst answered)
  obtain ⟨stored, agrees⟩ := matches_of_findChallenge found
  simp only [OtpChallenge.matches, Bool.and_eq_true, decide_eq_true_eq, Option.isNone_iff_eq_none]
    at agrees
  exact ⟨found, stored, agrees.1.1.1.2, agrees.2⟩

theorem challengeKept_of_act (h : authSemantics.act i op x w = some (reply, w'))
    (there : w.otpChallenges.lookup challenge = some row)
    : ∃ row', w'.otpChallenges.lookup challenge = some row' ∧ Later row row' := by
  have same : w'.otpChallenges = w.otpChallenges →
      ∃ row', w'.otpChallenges.lookup challenge = some row' ∧ Later row row' :=
    fun same => ⟨row, by rw [same, there], .refl row⟩
  obtain ⟨-, ⟨-, rfl⟩ | ⟨-, rfl⟩⟩ := auth_act_cases h
  · exact same rfl
  · cases op with
    | createChallenge created =>
        simp only [effect] at same ⊢
        split
        · rename_i taken
          rw [if_pos taken] at same
          exact same rfl
        · rename_i fresh
          refine ⟨row, ?_, .refl row⟩
          have other : challenge ≠ x.text := by
            rintro rfl
            exact fresh (AList.lookup_isSome.mp (by rw [World.atTime, there]; rfl))
          simp [AList.lookup_insert_ne other, World.atTime, there]
    | useChallenge used usedAt =>
        simp only [effect] at same ⊢
        split
        · rename_i absent
          rw [absent] at same
          exact same rfl
        · rename_i row' found
          by_cases mine : challenge = used
          · subst mine
            obtain rfl := Option.some.inj (there.symm.trans found)
            exact ⟨_, AList.lookup_insert _, rfl, rfl, fun _ => rfl⟩
          · exact ⟨row, by simp [AList.lookup_insert_ne mine, World.atTime, there], .refl row⟩
    | updateUser _ _ _ =>
        simp only [effect, World.updateUser] at same ⊢
        split
        · exact ⟨row, there, .refl row⟩
        · exact ⟨row, there, .refl row⟩
    | _ => exact same rfl

theorem isUsed_of_act (h : authSemantics.act i op x w = some (reply, w'))
    (used : IsUsed w challenge)
    : IsUsed w' challenge := by
  obtain ⟨row, there, usedAt⟩ := used
  obtain ⟨row', there', later⟩ := challengeKept_of_act h there
  exact ⟨row', there', later.usedAt usedAt⟩

theorem used_of_act {usedAt : Nat}
    (h : authSemantics.act i (.useChallenge challenge usedAt) x w = some (.ok (), w'))
    : IsUsed w' challenge := by
  obtain ⟨-, answered⟩ := auth_act_ok h
  simp only [effect] at answered
  split at answered
  · cases congrArg Prod.fst answered
  · obtain rfl := congrArg Prod.snd answered
    exact ⟨_, AList.lookup_insert _, rfl⟩

-- Comparisons

theorem challengeChecks_of_act (h : authSemantics.act i op x w = some (reply, w'))
    (apart : ∀ id code hash, op ≠ .compareCode challenge id code hash)
    : w'.challengeChecks challenge = w.challengeChecks challenge := by
  obtain ⟨-, ⟨-, rfl⟩ | ⟨-, rfl⟩⟩ := auth_act_cases h
  · rfl
  · cases op with
    | compareCode other id code hash =>
        refine if_neg fun same => ?_
        exact apart id code hash (by rw [same])
    | updateUser _ _ _ =>
        simp only [effect, World.updateUser]
        split <;> rfl
    | createChallenge _ | useChallenge _ _ =>
        simp only [effect]
        split <;> rfl
    | _ => rfl

theorem challengeChecks_of_compare {id : UserId} {code hash : String} {agrees : Bool}
    (h : authSemantics.act i (.compareCode challenge id code hash) x w = some (.ok agrees, w'))
    : w'.challengeChecks challenge = w.challengeChecks challenge + 1 := by
  obtain ⟨-, answered⟩ := auth_act_ok h
  obtain rfl := congrArg Prod.snd answered
  exact if_pos rfl

theorem world_of_compare_error {id : UserId} {code hash : String} {error : JsError}
    (h : authSemantics.act i (.compareCode challenge id code hash) x w = some (.error error, w'))
    : w' = w := by
  cases failed : x.outcome.isFailed with
  | true => exact world_of_failed failed h
  | false => cases congrArg Prod.fst (effect_of_local rfl failed h)

-- Recorded attempts

/-- The attempts of a user at codes that have been recorded since a time. -/
def recorded (userId : UserId) (since : Nat) (w : World) : Nat :=
  w.recoveryAttempts.countP (fun row => isOtpAttemptOf userId row && decide (since ≤ row.createdAt))

variable {userId : UserId} {since : Nat}

theorem recorded_le_of_act (h : authSemantics.act i op x w = some (reply, w'))
    : recorded userId since w ≤ recorded userId since w' := by
  obtain ⟨-, ⟨-, rfl⟩ | ⟨-, rfl⟩⟩ := auth_act_cases h
  · exact Nat.le_refl _
  · cases op with
    | createAttempt row =>
        simp only [recorded, effect, List.countP_cons, World.atTime]
        omega
    | updateUser _ _ _ =>
        simp only [effect, World.updateUser]
        split <;> exact Nat.le_refl _
    | createChallenge _ | useChallenge _ _ =>
        simp only [effect]
        split <;> exact Nat.le_refl _
    | _ => exact Nat.le_refl _

theorem recorded_of_createAttempt {attempt : RecoveryAttempt} {answer : Except JsError Unit}
    (h : authSemantics.act i (.createAttempt attempt) x w = some (answer, w'))
    (takesEffect : x.outcome.isFailed = false) (mine : isOtpAttemptOf userId attempt = true)
    (late : since ≤ w.clock)
    : recorded userId since w' = recorded userId since w + 1 := by
  obtain ⟨onTime, ⟨failed, -⟩ | ⟨-, rfl⟩⟩ := auth_act_cases h
  · rw [takesEffect] at failed
    cases failed
  · have counted : since ≤ x.time := late.trans onTime
    have still : isOtpAttemptOf userId { attempt with createdAt := x.time } = true := mine
    simp [recorded, effect, World.atTime, still, counted]

theorem recorded_le_of_countAttempts {time attempts : Nat}
    (h : authSemantics.act i (.countAttempts (otpAttemptsOf userId time)) x w
      = some (.ok attempts, w'))
    (within : time ≤ since + RATE_LIMITS.user.windowMs)
    : recorded userId since w' ≤ attempts := by
  obtain ⟨-, answered⟩ := auth_act_ok h
  obtain ⟨count, rfl⟩ := Prod.mk.inj answered
  rw [← Except.ok.inj count]
  refine List.countP_mono_left fun row _ known => ?_
  simp only [isOtpAttemptOf, Bool.and_eq_true, decide_eq_true_eq] at known
  obtain ⟨⟨owner, reason⟩, recent⟩ := known
  have opens : time - RATE_LIMITS.user.windowMs ≤ row.createdAt := by omega
  simp [RecoveryAttempt.matches, otpAttemptsOf, owner, reason, opens]

end

end AcbuBackend.Recovery
