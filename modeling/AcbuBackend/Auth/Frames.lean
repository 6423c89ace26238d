import AcbuBackend.Auth.AuthService
import AcbuBackend.Effects.Evaluation

/-! What a call leaves as it was: the clock never goes back, and the credentials are changed by
the calls that write them.
-/

namespace AcbuBackend.Auth

open Effects Effects.Prog AcbuBackend.Runtime Challenge

section

variable {i : Nat} {op : AuthOp} {x : Choice} {w w' : World} {reply : authInterface.Reply op}

theorem auth_act_cases (h : authSemantics.act i op x w = some (reply, w'))
    : w.clock ≤ x.time
      ∧ (x.outcome.isFailed = true ∧ w' = w
        ∨ x.outcome.isFailed = false ∧ w' = (effect x (w.atTime x.time) op).2) := by
  obtain ⟨possible, answered⟩ := Environment.act_eq_some h
  have onTime : w.clock ≤ x.time := by
    have possible : admissible op x w = true := possible
    unfold admissible at possible
    rw [Bool.and_eq_true] at possible
    exact of_decide_eq_true possible.1
  exact ⟨onTime, Outcome.answer_cases answered⟩

theorem auth_act_ok {value : op.Ret} (h : authSemantics.act i op x w = some (.ok value, w'))
    : x.outcome = .done ∧ effect x (w.atTime x.time) op = (.ok value, w') := by
  obtain ⟨-, answered⟩ := Environment.act_eq_some h
  exact Outcome.answer_ok answered

theorem effect_of_local (computed : op.isLocal = true) (done : x.outcome.isFailed = false)
    (h : authSemantics.act i op x w = some (reply, w'))
    : effect x (w.atTime x.time) op = (reply, w') := by
  obtain ⟨possible, answered⟩ := Environment.act_eq_some h
  have possible : admissible op x w = true := possible
  have answered : x.outcome.answer (effect x (w.atTime x.time) op) w = (reply, w') := answered
  have reported : x.outcome.isLost = false := by
    cases op with
    | denyList _ => cases computed
    | _ =>
        have reported : (!(AuthOp.isLocal _ && x.outcome.isLost)) = true :=
          ((Bool.and_eq_true _ _).mp possible).2
        rw [computed] at reported
        simpa using reported
  cases outcome : x.outcome with
  | done =>
      rw [outcome] at answered
      exact answered
  | failed _ =>
      rw [outcome] at done
      cases done
  | lost _ =>
      rw [outcome] at reported
      cases reported

def AuthOp.writesKeys : AuthOp → Bool
  | .createApiKey .. | .revokeApiKeys .. => true
  | _ => false

def AuthOp.writesTokens : AuthOp → Bool
  | .createRefreshToken .. | .revokeFamily .. => true
  | _ => false

/-- The account a call writes. -/
def AuthOp.writesUser : AuthOp → Option UserId
  | .updateUser id _ _ => some id
  | _ => none

theorem apiKeys_of_effect (reads : op.writesKeys = false)
    : (effect x w op).2.apiKeys = w.apiKeys := by
  cases op with
  | createApiKey _ _ | revokeApiKeys _ _ => cases reads
  | updateUser id _ _ =>
      simp only [effect, World.updateUser]
      split <;> rfl
  | createChallenge _ | useChallenge _ _ =>
      simp only [effect]
      split <;> rfl
  | _ => rfl

theorem refreshTokens_of_effect (reads : op.writesTokens = false)
    : (effect x w op).2.refreshTokens = w.refreshTokens := by
  cases op with
  | createRefreshToken _ _ | revokeFamily _ _ _ => cases reads
  | updateUser id _ _ =>
      simp only [effect, World.updateUser]
      split <;> rfl
  | createChallenge _ | useChallenge _ _ =>
      simp only [effect]
      split <;> rfl
  | _ => rfl

theorem clock_of_effect : (effect x w op).2.clock = w.clock := by
  cases op with
  | denyList op => exact clock_denyListEffect
  | updateUser id _ _ =>
      simp only [effect, World.updateUser]
      split <;> rfl
  | createChallenge _ | useChallenge _ _ =>
      simp only [effect]
      split <;> rfl
  | _ => rfl

theorem auth_clock_le (h : authSemantics.act i op x w = some (reply, w'))
    : w.clock ≤ w'.clock ∧ w'.clock ≤ x.time := by
  obtain ⟨onTime, ⟨-, rfl⟩ | ⟨-, rfl⟩⟩ := auth_act_cases h
  · exact ⟨Nat.le_refl _, onTime⟩
  · rw [clock_of_effect]
    exact ⟨onTime, Nat.le_refl _⟩

theorem apiKeys_of_act (reads : op.writesKeys = false)
    (h : authSemantics.act i op x w = some (reply, w'))
    : w'.apiKeys = w.apiKeys := by
  obtain ⟨-, ⟨-, rfl⟩ | ⟨-, rfl⟩⟩ := auth_act_cases h
  · rfl
  · exact apiKeys_of_effect reads

theorem refreshTokens_of_act (reads : op.writesTokens = false)
    (h : authSemantics.act i op x w = some (reply, w'))
    : w'.refreshTokens = w.refreshTokens := by
  obtain ⟨-, ⟨-, rfl⟩ | ⟨-, rfl⟩⟩ := auth_act_cases h
  · rfl
  · exact refreshTokens_of_effect reads

theorem users_of_effect (reads : op.writesUser = none) : (effect x w op).2.users = w.users := by
  cases op with
  | updateUser _ _ _ => cases reads
  | createChallenge _ | useChallenge _ _ =>
      simp only [effect]
      split <;> rfl
  | _ => rfl

theorem users_of_act (reads : op.writesUser = none)
    (h : authSemantics.act i op x w = some (reply, w'))
    : w'.users = w.users := by
  obtain ⟨-, ⟨-, rfl⟩ | ⟨-, rfl⟩⟩ := auth_act_cases h
  · rfl
  · exact users_of_effect reads

theorem now_of_act {answer : Except JsError Nat}
    (h : authSemantics.act i (.denyList .now) x w = some (answer, w'))
    : answer = .ok w'.clock := by
  obtain ⟨possible, answered⟩ := Environment.act_eq_some h
  have possible : admissible (.denyList .now) x w = true := possible
  simp only [admissible, denyListAdmissible, Bool.and_eq_true, decide_eq_true_eq] at possible
  have answered : x.outcome.answer (effect x (w.atTime x.time) (.denyList .now)) w = (answer, w') :=
    answered
  rw [possible.2.2] at answered
  obtain ⟨rfl, rfl⟩ := Prod.mk.inj answered
  rfl

theorem world_of_failed (failed : x.outcome.isFailed = true)
    (h : authSemantics.act i op x w = some (reply, w'))
    : w' = w := by
  obtain ⟨-, ⟨-, rfl⟩ | ⟨done, -⟩⟩ := auth_act_cases h
  · rfl
  · rw [failed] at done
    cases done

end

/-- Nothing happens to the credentials, and time does not go back. -/
structure Quiet (w w' : World) : Prop where
  clock : w.clock ≤ w'.clock
  apiKeys : w'.apiKeys = w.apiKeys
  refreshTokens : w'.refreshTokens = w.refreshTokens

theorem Quiet.trans {w₁ w₂ w₃ : World} (first : Quiet w₁ w₂) (second : Quiet w₂ w₃)
    : Quiet w₁ w₃ where
  clock := first.clock.trans second.clock
  apiKeys := second.apiKeys.trans first.apiKeys
  refreshTokens := second.refreshTokens.trans first.refreshTokens

/-- The calls that leave the credentials as they are. -/
def AuthOp.quiet (op : AuthOp) : Bool :=
  !op.writesKeys && !op.writesTokens

theorem Quiet.of_act {i : Nat} {op : AuthOp} {x : Choice} {w w' : World}
    {reply : authInterface.Reply op} (quiet : op.quiet = true)
    (h : authSemantics.act i op x w = some (reply, w'))
    : Quiet w w' := by
  simp only [AuthOp.quiet, Bool.and_eq_true, Bool.not_eq_true'] at quiet
  exact ⟨(auth_clock_le h).1, apiKeys_of_act quiet.1 h, refreshTokens_of_act quiet.2 h⟩

-- Rows over time

/-- A later state of a row of `refresh_tokens`: only its revocation may have been written. -/
structure RefreshToken.Later (row row' : RefreshToken) : Prop where
  userId : row'.userId = row.userId
  tokenFamilyId : row'.tokenFamilyId = row.tokenFamilyId
  expiresAt : row'.expiresAt = row.expiresAt
  revokedAt : row.revokedAt.isSome = true → row'.revokedAt.isSome = true

theorem RefreshToken.Later.refl (row : RefreshToken) : row.Later row :=
  ⟨rfl, rfl, rfl, id⟩

theorem RefreshToken.Later.trans {row₁ row₂ row₃ : RefreshToken} (first : row₁.Later row₂)
    (second : row₂.Later row₃)
    : row₁.Later row₃ where
  userId := second.userId.trans first.userId
  tokenFamilyId := second.tokenFamilyId.trans first.tokenFamilyId
  expiresAt := second.expiresAt.trans first.expiresAt
  revokedAt := fun revoked => second.revokedAt (first.revokedAt revoked)

theorem RefreshToken.later_revokeIn {row : RefreshToken} {tokenFamilyId : String} {now : Nat}
    {replaced : Option String}
    : row.Later (row.revokeIn tokenFamilyId now replaced) := by
  unfold revokeIn
  split
  · exact ⟨rfl, rfl, rfl, fun _ => rfl⟩
  · exact .refl row

/-- Tokens are not deleted, and their rows only grow older. -/
def TokensKept (w w' : World) : Prop :=
  ∀ tokenHash row, w.refreshTokens.lookup tokenHash = some row →
    ∃ row', w'.refreshTokens.lookup tokenHash = some row' ∧ row.Later row'

theorem TokensKept.refl (w : World) : TokensKept w w :=
  fun _ row found => ⟨row, found, .refl row⟩

theorem TokensKept.trans {w₁ w₂ w₃ : World} (first : TokensKept w₁ w₂) (second : TokensKept w₂ w₃)
    : TokensKept w₁ w₃ := by
  intro tokenHash row found
  obtain ⟨row', found', later⟩ := first tokenHash row found
  obtain ⟨row'', found'', later'⟩ := second tokenHash row' found'
  exact ⟨row'', found'', later.trans later'⟩

theorem TokensKept.of_eq {w w' : World} (same : w'.refreshTokens = w.refreshTokens)
    : TokensKept w w' :=
  fun _ row found => ⟨row, by rw [same, found], .refl row⟩

theorem lookup_insertNew {ρ : Type} {table : AList (fun _ : String => ρ)} {key key' : String}
    {row row' : ρ} (found : table.lookup key' = some row')
    : (insertNew table key row).2.lookup key' = some row' := by
  unfold insertNew
  split
  · exact found
  · rename_i absent
    rw [AList.lookup_insert_ne, found]
    rintro rfl
    exact absent (AList.lookup_isSome.mp (by rw [found]; rfl))

theorem keyKept_of_act {i : Nat} {op : AuthOp} {x : Choice} {w w' : World}
    {reply : authInterface.Reply op} {lookupKey : String} {row : ApiKey}
    (h : authSemantics.act i op x w = some (reply, w'))
    (keeps : ∀ other now, op ≠ .revokeApiKeys other now)
    (there : w.apiKeys.lookup lookupKey = some row)
    : w'.apiKeys.lookup lookupKey = some row := by
  cases writes : op.writesKeys with
  | false => rw [apiKeys_of_act writes h, there]
  | true =>
      obtain ⟨-, ⟨-, rfl⟩ | ⟨-, rfl⟩⟩ := auth_act_cases h
      · exact there
      · cases op with
        | createApiKey _ _ => exact lookup_insertNew there
        | revokeApiKeys other now => exact absurd rfl (keeps other now)
        | _ => cases writes

theorem keyRevoked_of_act {i : Nat} {op : AuthOp} {x : Choice} {w w' : World}
    {reply : authInterface.Reply op} {lookupKey : String} {row : ApiKey}
    (h : authSemantics.act i op x w = some (reply, w'))
    (there : w.apiKeys.lookup lookupKey = some row)
    : ∃ revokedAt, w'.apiKeys.lookup lookupKey = some { row with revokedAt } := by
  by_cases revokes : ∃ other now, op = .revokeApiKeys other now
  · obtain ⟨other, now, rfl⟩ := revokes
    obtain ⟨-, ⟨-, rfl⟩ | ⟨-, rfl⟩⟩ := auth_act_cases h
    · exact ⟨row.revokedAt, there⟩
    · refine ⟨(row.revokeOf other now).revokedAt, ?_⟩
      simp only [effect, World.atTime, lookup_updateRows, there, Option.map_some, Option.some.injEq]
      unfold ApiKey.revokeOf
      split <;> rfl
  · exact ⟨row.revokedAt, keyKept_of_act h (fun other now same => revokes ⟨other, now, same⟩) there⟩

theorem current_of_later {row : ApiKey} {clock time emergencyTime : Nat} (first : clock ≤ time)
    (second : clock ≤ emergencyTime) (h : row.current time emergencyTime = true)
    : row.current clock clock = true := by
  simp only [ApiKey.current, Bool.and_eq_true] at h ⊢
  obtain ⟨⟨unrevoked, unexpired⟩, emergency⟩ := h
  refine ⟨⟨unrevoked, ?_⟩, ?_⟩
  · cases expires : row.expiresAt with
    | none => rfl
    | some expiresAt =>
        simp only [expires, Option.all_some, decide_eq_true_eq] at unexpired ⊢
        omega
  · rw [Bool.or_eq_true] at emergency ⊢
    refine emergency.imp_right fun emergency => ?_
    cases expires : row.emergencyExpiresAt with
    | none =>
        rw [expires] at emergency
        cases emergency
    | some expiresAt =>
        simp only [expires, Option.any_some, decide_eq_true_eq] at emergency ⊢
        omega

theorem tokensKept_of_act {i : Nat} {op : AuthOp} {x : Choice} {w w' : World}
    {reply : authInterface.Reply op} (h : authSemantics.act i op x w = some (reply, w'))
    : TokensKept w w' := by
  cases reads : op.writesTokens with
  | false => exact .of_eq (refreshTokens_of_act reads h)
  | true =>
      obtain ⟨-, ⟨-, rfl⟩ | ⟨-, rfl⟩⟩ := auth_act_cases h
      · exact .refl _
      · intro tokenHash row found
        cases op with
        | createRefreshToken tokenHash' row' => exact ⟨row, lookup_insertNew found, .refl row⟩
        | revokeFamily tokenFamilyId now replaced =>
            refine ⟨row.revokeIn tokenFamilyId now replaced, ?_, RefreshToken.later_revokeIn⟩
            simp [effect, World.atTime, found]
        | _ => cases reads

section

variable {i : Nat} {x : Choice} {w w' : World} {tokenHash : String} {now : Nat} {row : RefreshToken}

theorem usable_of_act
    (h : authSemantics.act i (.findRefreshToken tokenHash now) x w = some (.ok (some row), w'))
    : w.refreshTokens.lookup tokenHash = some row ∧ row.usable now = true := by
  obtain ⟨-, answered⟩ := auth_act_ok h
  have found : (w.refreshTokens.lookup tokenHash).filter (fun row => row.usable now) = some row :=
    Except.ok.inj (congrArg Prod.fst answered)
  exact Option.filter_eq_some_iff.mp found

theorem revoked_of_act {family : String} {replaced : Option String}
    (h : authSemantics.act i (.revokeFamily family now replaced) x w = some (.ok (), w'))
    (there : w.refreshTokens.lookup tokenHash = some row) (member : row.tokenFamilyId = family)
    : ∃ row', w'.refreshTokens.lookup tokenHash = some row' ∧ row'.revokedAt.isSome = true := by
  obtain ⟨-, answered⟩ := auth_act_ok h
  obtain rfl := congrArg Prod.snd answered
  refine ⟨row.revokeIn family now replaced, by simp [effect, World.atTime, there], ?_⟩
  unfold RefreshToken.revokeIn
  split
  · rfl
  · rename_i written
    exact Option.isSome_iff_ne_none.mpr fun none => written ⟨member, none⟩

theorem created_of_act (h : authSemantics.act i (.createRefreshToken tokenHash row) x w
    = some (.ok (), w'))
    : w.refreshTokens.lookup tokenHash = none ∧ w'.refreshTokens.lookup tokenHash = some row := by
  obtain ⟨-, answered⟩ := auth_act_ok h
  simp only [effect, insertNew] at answered
  split at answered
  · cases congrArg Prod.fst answered
  · rename_i absent
    obtain rfl := congrArg Prod.snd answered
    exact ⟨AList.lookup_eq_none.mpr absent, AList.lookup_insert _⟩

theorem wlp_query_quiet {op : AuthOp} {Q : op.Ret → World → Prop} {E : JsError → World → Prop}
    (quiet : op.quiet = true) (hQ : ∀ value w', Quiet w w' → Q value w')
    (hE : ∀ error w', Quiet w w' → E error w')
    : authSemantics.wlp i (query op) w Q E :=
  Semantics.wlp_await.mpr ⟨fun _ _ _ answered => hQ _ _ (Quiet.of_act quiet answered),
    fun _ _ _ answered => hE _ _ (Quiet.of_act quiet answered)⟩

end

theorem wlp_tokensKept {α : Type} {i : Nat} {prog : Prog authInterface α} {w : World}
    : authSemantics.wlp i prog w (fun _ w' => TokensKept w w') (fun _ w' => TokensKept w w') :=
  Semantics.wlp_of_kept TokensKept.refl TokensKept.trans fun _ _ _ _ _ => tokensKept_of_act

end AcbuBackend.Auth
