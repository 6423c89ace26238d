import AcbuBackend.Kyc.DocumentOwnership

/-! Idempotency keys scoped to their users.
A scoped key tells its user, and its raw key as far as the digest of a long one does: a short raw
key may be the very text that is kept of the digest.
-/

namespace AcbuBackend.Idempotency

open AcbuBackend.Runtime
open Kyc (UserId isUuid isIdChar isIdChar_of_isUuid)

-- Lengths

@[simp] theorem jsLength_append {s t : String} : jsLength (s ++ t) = jsLength s + jsLength t := by
  simp [jsLength]

/-- Characters of one code unit each. -/
theorem jsLength_of_narrow {s : String} (narrow : ∀ c ∈ s.toList, c.toNat < 65536)
    : jsLength s = s.toList.length := by
  have ones : s.toList.map (fun c => if c.toNat < 65536 then 1 else 2)
      = s.toList.map (fun _ => 1) :=
    List.map_congr_left fun c member => if_pos (narrow c member)
  rw [jsLength, ones]
  simp

theorem narrow_of_isIdChar {c : Char} (h : isIdChar c = true) : c.toNat < 65536 := by
  simp only [isIdChar, Kyc.isAlphanumeric, Bool.or_eq_true, Bool.and_eq_true, decide_eq_true_eq]
    at h
  rcases h with ((⟨-, high⟩ | ⟨-, high⟩) | ⟨-, high⟩) | rfl
  · exact lt_of_le_of_lt (Char.le_def.mp high) (by decide)
  · exact lt_of_le_of_lt (Char.le_def.mp high) (by decide)
  · exact lt_of_le_of_lt (Char.le_def.mp high) (by decide)
  · decide

/-- Five groups and the four hyphens between them. -/
theorem length_of_isUuid {s : String} (h : isUuid s = true) : s.toList.length = 36 := by
  obtain ⟨lengths, -⟩ := (Bool.and_eq_true _ _).mp h
  have lengths : (s.toList.splitOn '-').map List.length = [8, 4, 4, 4, 12] :=
    decide_eq_true_eq.mp lengths
  have whole : ['-'].intercalate (s.toList.splitOn '-') = s.toList := List.intercalate_splitOn '-'
  generalize s.toList.splitOn '-' = groups at lengths whole
  rw [← whole]
  rcases groups with _ | ⟨a, _ | ⟨b, _ | ⟨c, _ | ⟨d, _ | ⟨e, _ | ⟨f, rest⟩⟩⟩⟩⟩⟩ <;>
    simp only [List.map_cons, List.map_nil, List.cons.injEq, reduceCtorEq, and_false,
      and_true] at lengths
  obtain ⟨ha, hb, hc, hd, he⟩ := lengths
  simp [List.intercalate_cons_cons, ha, hb, hc, hd, he]

theorem jsLength_userId (userId : UserId) : jsLength userId.text = 36 := by
  rw [jsLength_of_narrow fun c member =>
    narrow_of_isIdChar (isIdChar_of_isUuid userId.uuid c member)]
  exact length_of_isUuid userId.uuid

-- Scoped keys

/-- A hexadecimal SHA-256 digest has 64 characters, of one code unit each. -/
structure HexDigests (sha256Hex : String → String) : Prop where
  length : ∀ text, (sha256Hex text).toList.length = 64
  narrow : ∀ text, ∀ c ∈ (sha256Hex text).toList, c.toNat < 65536

def truncatedHash (sha256Hex : String → String) (rawKey : String) : String :=
  String.ofList ((sha256Hex rawKey).toList.take 32)

/-- A raw key that does not fit behind the id of its user. -/
def isLong (rawKey : String) : Bool :=
  218 < jsLength rawKey

/-- A raw key is the text that is kept of the digest of a long one. -/
def Imitates (sha256Hex : String → String) (rawKey long : String) : Prop :=
  isLong long = true ∧ rawKey = truncatedHash sha256Hex long

variable {sha256Hex : String → String}

theorem jsLength_truncatedHash (digests : HexDigests sha256Hex) (rawKey : String)
    : jsLength (truncatedHash sha256Hex rawKey) = 32 := by
  rw [jsLength_of_narrow, truncatedHash, String.toList_ofList, List.length_take, digests.length]
  · rfl
  · intro c member
    rw [truncatedHash, String.toList_ofList] at member
    exact digests.narrow rawKey c (List.mem_of_mem_take member)

/-- What a raw key is written as behind the id of its user. -/
def scopedPart (sha256Hex : String → String) (rawKey : String) : String :=
  if isLong rawKey then truncatedHash sha256Hex rawKey else rawKey

theorem scopeIdempotencyKey_eq (userId : UserId) (rawKey : String)
    : scopeIdempotencyKey sha256Hex userId.text rawKey
      = userId.text ++ ":" ++ scopedPart sha256Hex rawKey := by
  have separator : jsLength ":" = 1 := by decide
  have fits : jsLength (userId.text ++ ":" ++ rawKey) ≤ idempotencyKeyMaxLength
      ↔ ¬ isLong rawKey = true := by
    rw [jsLength_append, jsLength_append, jsLength_userId, separator, isLong, decide_eq_true_eq,
      idempotencyKeyMaxLength]
    omega
  have text : scopeIdempotencyKey sha256Hex userId.text rawKey
      = if jsLength (userId.text ++ ":" ++ rawKey) ≤ idempotencyKeyMaxLength
        then userId.text ++ ":" ++ rawKey
        else userId.text ++ ":" ++ truncatedHash sha256Hex rawKey := by
    simp [scopeIdempotencyKey, truncatedHash, toString]
  rw [text, scopedPart]
  by_cases long : isLong rawKey = true
  · rw [if_neg (fun short => fits.mp short long), if_pos long]
  · rw [if_pos (fits.mpr long), if_neg long]

theorem scopeIdempotencyKey_eq_iff (u v : UserId) (j k : String)
    : scopeIdempotencyKey sha256Hex u.text j = scopeIdempotencyKey sha256Hex v.text k
      ↔ u = v ∧ scopedPart sha256Hex j = scopedPart sha256Hex k := by
  rw [scopeIdempotencyKey_eq, scopeIdempotencyKey_eq]
  constructor
  · intro same
    have same := congrArg String.toList same
    simp only [String.toList_append, List.append_assoc] at same
    obtain ⟨ids, rest⟩ := List.append_inj same
      ((length_of_isUuid u.uuid).trans (length_of_isUuid v.uuid).symm)
    have ids : u.text = v.text := String.toList_inj.mp ids
    cases u
    cases v
    cases ids
    exact ⟨rfl, String.toList_inj.mp (List.append_cancel_left rest)⟩
  · rintro ⟨rfl, same⟩
    rw [same]

theorem not_isLong_truncatedHash (digests : HexDigests sha256Hex) (rawKey : String)
    : isLong (truncatedHash sha256Hex rawKey) = false := by
  simp [isLong, jsLength_truncatedHash digests]

theorem scopedPart_eq_iff (digests : HexDigests sha256Hex) (j k : String)
    (collisionFree : truncatedHash sha256Hex j = truncatedHash sha256Hex k → j = k)
    : scopedPart sha256Hex j = scopedPart sha256Hex k
      ↔ j = k ∨ Imitates sha256Hex j k ∨ Imitates sha256Hex k j := by
  unfold scopedPart
  constructor
  · intro same
    split at same
    · rename_i longJ
      split at same
      · exact .inl (collisionFree same)
      · exact .inr (.inr ⟨longJ, same.symm⟩)
    · split at same
      · rename_i longK
        exact .inr (.inl ⟨longK, same⟩)
      · exact .inl same
  · rintro (rfl | ⟨long, rfl⟩ | ⟨long, rfl⟩)
    · rfl
    · rw [if_neg (by simp [not_isLong_truncatedHash digests]), if_pos long]
    · rw [if_pos long, if_neg (by simp [not_isLong_truncatedHash digests])]

theorem jsLength_scopedKey_le (digests : HexDigests sha256Hex) (userId : UserId) (rawKey : String)
    : jsLength (scopeIdempotencyKey sha256Hex userId.text rawKey) ≤ 255 := by
  have separator : jsLength ":" = 1 := by decide
  rw [scopeIdempotencyKey_eq, jsLength_append, jsLength_append, jsLength_userId, separator,
    scopedPart]
  split
  · rw [jsLength_truncatedHash digests]
    omega
  · rename_i short
    have short : ¬ 218 < jsLength rawKey := fun long => short (decide_eq_true long)
    omega

/-- Two scoped keys are the same exactly for the same user and the same raw key, or where one raw
key is what is kept of the digest of the other, which is long. A scoped key fits its column.
-/
theorem scoped_keys_agree_iff (sha256Hex : String → String) (digests : HexDigests sha256Hex)
    (u v : UserId) (j k : String)
    (collisionFree : truncatedHash sha256Hex j = truncatedHash sha256Hex k → j = k)
    : (scopeIdempotencyKey sha256Hex u.text j = scopeIdempotencyKey sha256Hex v.text k
        ↔ u = v ∧ (j = k ∨ Imitates sha256Hex j k ∨ Imitates sha256Hex k j))
      ∧ jsLength (scopeIdempotencyKey sha256Hex u.text j) ≤ 255 :=
  ⟨(scopeIdempotencyKey_eq_iff u v j k).trans
    (and_congr_right fun _ => scopedPart_eq_iff digests j k collisionFree),
    jsLength_scopedKey_le digests u j⟩

def longKey : String :=
  String.ofList (List.replicate 219 'a')

/-- What is kept of its digest. -/
def imitation : String := "46fb83c58e7b16a8419903e9682211ce"

/-- The digests of the two keys, and one for all others. -/
def sampleSha256Hex (text : String) : String :=
  if text = longKey then "46fb83c58e7b16a8419903e9682211ce72b4b6bd1b8e1d39633b3c7cf7835fa1"
  else if text = imitation then "4b3c75a63e6e93d1a325323c820a04c2909f389cafa2408797e3b633eb2d2cad"
  else "0bafe22156d2698c143b86040446d366ead863ba600d5c924f3d15c786ef4057"

def sampleUser : UserId where
  text := "0b6f2c9e-1111-4222-8333-444455556666"
  uuid := by decide +kernel

theorem sampleDigests : HexDigests sampleSha256Hex := by
  have each : ∀ text, (sampleSha256Hex text).toList.length = 64
      ∧ (sampleSha256Hex text).toList.all (fun c => c.toNat < 65536) = true := by
    intro text
    unfold sampleSha256Hex
    split
    · decide +kernel
    split <;> decide +kernel
  exact ⟨fun text => (each text).1, fun text => by simpa using (each text).2⟩

theorem kept_longKey : truncatedHash sampleSha256Hex longKey = imitation := by
  rw [truncatedHash, sampleSha256Hex, if_pos (Eq.refl longKey)]
  decide +kernel

theorem isLong_replicate {n : Nat} (long : 218 < n)
    : isLong (String.ofList (List.replicate n 'a')) = true := by
  have narrow : ∀ c ∈ (String.ofList (List.replicate n 'a')).toList, c.toNat < 65536 := by
    intro c member
    rw [String.toList_ofList] at member
    rw [List.eq_of_mem_replicate member]
    decide
  rw [isLong, jsLength_of_narrow narrow, String.toList_ofList, List.length_replicate]
  exact decide_eq_true long

/-- A long key and a short one that is not what is kept of its digest. -/
theorem scoped_keys_agree_iff_sample
    : (scopeIdempotencyKey sampleSha256Hex sampleUser.text longKey
          = scopeIdempotencyKey sampleSha256Hex sampleUser.text "order-1"
        ↔ sampleUser = sampleUser ∧ (longKey = "order-1"
          ∨ Imitates sampleSha256Hex longKey "order-1"
          ∨ Imitates sampleSha256Hex "order-1" longKey))
      ∧ jsLength (scopeIdempotencyKey sampleSha256Hex sampleUser.text longKey) ≤ 255 :=
  scoped_keys_agree_iff sampleSha256Hex sampleDigests sampleUser sampleUser longKey "order-1"
    fun same => absurd same (by decide +kernel)

/-- A short key that is what is kept of the digest of a long one is scoped to the same key. -/
theorem long_key_imitated
    : HexDigests sampleSha256Hex
      ∧ (truncatedHash sampleSha256Hex imitation = truncatedHash sampleSha256Hex longKey →
        imitation = longKey)
      ∧ scopeIdempotencyKey sampleSha256Hex sampleUser.text imitation
        = scopeIdempotencyKey sampleSha256Hex sampleUser.text longKey
      ∧ imitation ≠ longKey := by
  have apart : truncatedHash sampleSha256Hex imitation ≠ imitation := by decide +kernel
  refine ⟨sampleDigests, fun same => absurd (same.trans kept_longKey) apart, ?_, by decide +kernel⟩
  refine (scopeIdempotencyKey_eq_iff sampleUser sampleUser imitation longKey).mpr ⟨rfl, ?_⟩
  have short : scopedPart sampleSha256Hex imitation = imitation := if_neg (by decide +kernel)
  have long : scopedPart sampleSha256Hex longKey = truncatedHash sampleSha256Hex longKey :=
    if_pos (isLong_replicate (by decide))
  rw [short, long, kept_longKey]

end AcbuBackend.Idempotency
