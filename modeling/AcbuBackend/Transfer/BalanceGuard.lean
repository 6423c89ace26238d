import AcbuBackend.Runtime.ShortestText
import AcbuBackend.Transfer.TransferService

/-! The balance check of `createTransfer`, from the text that Horizon reports.
The balance becomes a double and its text again, and both texts are counted in units of seven
decimals. So the check is exact up to 2 ^ 29, but for balances that are written with an exponent.
-/

namespace AcbuBackend.Transfer

open Effects Effects.Prog AcbuBackend.Runtime Numeric

/-- `Number.isFinite(stellarNum) ? stellarNum : 0`. -/
def finiteOrZero : JsNumber → ℚ
  | .finite stellarNum => stellarNum
  | _ => 0

/-- The `balance` of `fetchWalletBalance`, for the balance of an account on Horizon. -/
def fetchedBalance (balance : String) : String :=
  numberText (finiteOrZero (parseFloat balance))

-- Doubles of natural numbers

theorem natToDouble_of_lt {n : Nat} (small : n < 2 ^ 53) : natToDouble n = n :=
  if_pos small

theorem natToDouble_cases {n : Nat} (large : 2 ^ 53 ≤ n)
    : ∃ unit below, unit * 2 ^ 52 ≤ n ∧ 2 ^ 53 ≤ below * unit
        ∧ (natToDouble n = below * unit ∧ below * unit ≤ n ∧ 2 * (n - below * unit) ≤ unit
          ∨ natToDouble n = (below + 1) * unit ∧ n ≤ (below + 1) * unit
            ∧ 2 * ((below + 1) * unit - n) ≤ unit) := by
  have some_ : n ≠ 0 := by
    rintro rfl
    exact absurd large (by decide)
  have log : 53 ≤ n.log2 := (Nat.le_log2 some_).mpr large
  have first : 2 ^ (n.log2 - 52) * 2 ^ 52 = 2 ^ n.log2 := by
    rw [← Nat.pow_add, Nat.sub_add_cancel (by omega)]
  have most : 2 ^ (n.log2 - 52) * 2 ^ 52 ≤ n := first.trans_le (Nat.log2_self_le some_)
  have positive : 0 < 2 ^ (n.log2 - 52) := Nat.two_pow_pos _
  have least : 2 ^ 53 ≤ n / 2 ^ (n.log2 - 52) * 2 ^ (n.log2 - 52) := by
    have quotient : 2 ^ 52 ≤ n / 2 ^ (n.log2 - 52) :=
      (Nat.le_div_iff_mul_le positive).mpr ((Nat.mul_comm _ _).trans_le most)
    calc 2 ^ 53 ≤ 2 ^ n.log2 := Nat.pow_le_pow_right (by decide) log
      _ = 2 ^ 52 * 2 ^ (n.log2 - 52) := by rw [← first, Nat.mul_comm]
      _ ≤ _ := Nat.mul_le_mul_right _ quotient
  have split := Nat.div_add_mod n (2 ^ (n.log2 - 52))
  have rest := Nat.mod_lt n positive
  rw [Nat.mul_comm] at split
  unfold natToDouble
  rw [if_neg (not_lt.mpr large)]
  dsimp only
  refine ⟨_, _, most, least, ?_⟩
  split_ifs with up
  · have next := Nat.add_one_mul (n / 2 ^ (n.log2 - 52)) (2 ^ (n.log2 - 52))
    exact .inr ⟨rfl, by omega, by omega⟩
  · exact .inl ⟨rfl, by omega, by omega⟩

theorem natToDouble_near (n : Nat)
    : 2 ^ 53 * n ≤ 2 ^ 53 * natToDouble n + n ∧ 2 ^ 53 * natToDouble n ≤ 2 ^ 53 * n + n := by
  rcases lt_or_ge n (2 ^ 53) with small | large
  · rw [natToDouble_of_lt small]
    omega
  · obtain ⟨unit, below, most, -, ⟨same, low, near⟩ | ⟨same, high, near⟩⟩ := natToDouble_cases large
    · rw [same]
      omega
    · rw [same]
      omega

theorem le_natToDouble {n : Nat} (large : 2 ^ 53 ≤ n) : 2 ^ 53 ≤ natToDouble n := by
  obtain ⟨unit, below, -, least, ⟨same, -⟩ | ⟨same, -⟩⟩ := natToDouble_cases large
  · rwa [same]
  · rw [same, Nat.add_one_mul]
    omega

@[simp] theorem toDouble_natCast (n : Nat) : toDouble n = natToDouble n := by
  rcases Nat.eq_zero_or_pos n with rfl | positive
  · rfl
  · rw [toDouble, Int.sign_natCast_of_ne_zero positive.ne', one_mul, Int.natAbs_natCast]

-- Amounts in smallest units

/-- What an amount of so many smallest units is read as, in doubles. -/
def unitsRead (n : Nat) : Nat :=
  natToDouble (natToDouble (natToDouble (n / 10 ^ 7) * 10 ^ 7) + natToDouble (n % 10 ^ 7))

section

variable {cs whole fraction : List Char}

theorem digitsValue_append_zeros {k : Nat}
    : digitsValue (cs ++ List.replicate k '0') = digitsValue cs * 10 ^ k := by
  change Nat.ofDigitChars 10 (cs ++ List.replicate k '0') 0 = Nat.ofDigitChars 10 cs 0 * 10 ^ k
  rw [Nat.ofDigitChars_append, Nat.ofDigitChars_replicate_zero, Nat.mul_comm]

theorem digitsValue_lt (digits : cs.all isDigit = true) : digitsValue cs < 10 ^ cs.length := by
  have more : ∀ start, cs.foldl (fun value c => 10 * value + (c.toNat - 48)) start
      < 10 ^ cs.length * (start + 1) := by
    induction cs with
    | nil => simp
    | cons c rest ih =>
        intro start
        rw [List.all_cons, Bool.and_eq_true] at digits
        have digit : c.toNat ≤ 57 := by
          have range := digits.1
          unfold isDigit at range
          rw [Bool.and_eq_true, decide_eq_true_eq, decide_eq_true_eq] at range
          exact range.2
        rw [List.foldl_cons, List.length_cons, Nat.pow_succ, Nat.mul_assoc]
        refine (ih digits.2 _).trans_le (Nat.mul_le_mul_left _ ?_)
        omega
  exact (more 0).trans_eq (by simp)

theorem parseInt?_of_digits (some_ : cs ≠ []) (digits : cs.all isDigit = true)
    : parseInt? cs = some (natToDouble (digitsValue cs) : ℤ) := by
  obtain ⟨c, tail, rfl⟩ := List.exists_cons_of_ne_nil some_
  obtain ⟨visible, minus, plus, -⟩ := digit_ne (List.all_eq_true.mp digits c List.mem_cons_self)
  have kept : (c :: tail).dropWhile isJsSpace = c :: tail := by
    rw [List.dropWhile_cons_of_neg (by simp [visible])]
  have taken : (c :: tail).takeWhile isDigit = c :: tail :=
    List.takeWhile_eq_self_iff.mpr (List.all_eq_true.mp digits)
  unfold parseInt?
  simp [kept, minus, plus, taken]

theorem amountToSmallestUnit_of_parts {s : String} (some_ : whole ≠ [])
    (digits : whole.all isDigit = true) (decimals : fraction.all isDigit = true)
    (short : fraction.length ≤ 7)
    (shape : s.toList = whole ∧ fraction = [] ∨ s.toList = whole ++ '.' :: fraction)
    : amountToSmallestUnit s
      = some (unitsRead (digitsValue whole * 10 ^ 7
          + digitsValue fraction * 10 ^ (7 - fraction.length)) : ℤ) := by
  have noPoint : ∀ cs : List Char, cs.all isDigit = true → ∀ c ∈ cs, decide (c ≠ '.') = true := by
    intro cs digits c member
    have := digit_ne (List.all_eq_true.mp digits c member)
    simp [this]
  have wholePart : s.toList.takeWhile (fun c => c ≠ '.') = whole := by
    rcases shape with ⟨same, -⟩ | same
    · rw [same]
      exact List.takeWhile_eq_self_iff.mpr (noPoint whole digits)
    · rw [same, List.takeWhile_append_of_pos (noPoint whole digits)]
      simp
  have fracPart : (((s.toList.dropWhile (fun c => c ≠ '.')).drop 1).takeWhile
      (fun c => c ≠ '.')).take 7 = fraction := by
    rcases shape with ⟨same, none_⟩ | same
    · rw [same, List.dropWhile_eq_nil_iff.mpr (noPoint whole digits), none_]
      rfl
    · rw [same, List.dropWhile_append_of_pos (noPoint whole digits),
        List.dropWhile_cons_of_neg (by simp), List.drop_one, List.tail_cons,
        List.takeWhile_eq_self_iff.mpr (noPoint fraction decimals), List.take_of_length_le short]
  have padded : (fraction ++ List.replicate (7 - fraction.length) '0').all isDigit = true := by
    rw [List.all_append, decimals, Bool.true_and]
    refine List.all_eq_true.mpr fun c member => ?_
    rw [List.eq_of_mem_replicate member]
    decide
  have paddedSome : fraction ++ List.replicate (7 - fraction.length) '0' ≠ [] := by
    intro none_
    have length := congrArg List.length none_
    rw [List.length_append, List.length_replicate, List.length_nil] at length
    omega
  have below : digitsValue fraction * 10 ^ (7 - fraction.length) < 10 ^ 7 := by
    calc _ < 10 ^ fraction.length * 10 ^ (7 - fraction.length) :=
          Nat.mul_lt_mul_of_pos_right (digitsValue_lt decimals) (Nat.pow_pos (by decide))
      _ = 10 ^ 7 := by rw [← Nat.pow_add, Nat.add_sub_cancel' short]
  unfold amountToSmallestUnit
  dsimp only
  rw [wholePart, fracPart, parseInt?_of_digits some_ digits, parseInt?_of_digits paddedSome padded,
    digitsValue_append_zeros]
  dsimp only
  have quotient : (digitsValue whole * 10 ^ 7
      + digitsValue fraction * 10 ^ (7 - fraction.length)) / 10 ^ 7 = digitsValue whole := by
    omega
  have rest : (digitsValue whole * 10 ^ 7
      + digitsValue fraction * 10 ^ (7 - fraction.length)) % 10 ^ 7
      = digitsValue fraction * 10 ^ (7 - fraction.length) := by
    omega
  have product : (natToDouble (digitsValue whole) : ℤ) * 10000000
      = (natToDouble (digitsValue whole) * 10 ^ 7 : Nat) := by
    push_cast
    norm_num
  unfold unitsRead
  rw [quotient, rest, product, toDouble_natCast, ← Nat.cast_add, toDouble_natCast]

-- The count is exact below 2 ^ 53

theorem unitsRead_of_lt {n : Nat} (small : n < 2 ^ 53) : unitsRead n = n := by
  have split := Nat.div_add_mod n (10 ^ 7)
  have rest := Nat.mod_lt n (show 0 < 10 ^ 7 by decide)
  unfold unitsRead
  rw [natToDouble_of_lt (show n / 10 ^ 7 < 2 ^ 53 by omega),
    natToDouble_of_lt (show n / 10 ^ 7 * 10 ^ 7 < 2 ^ 53 by omega),
    natToDouble_of_lt (show n % 10 ^ 7 < 2 ^ 53 by omega),
    natToDouble_of_lt (show n / 10 ^ 7 * 10 ^ 7 + n % 10 ^ 7 < 2 ^ 53 by omega)]
  omega

theorem le_unitsRead {n : Nat} (large : 2 ^ 53 ≤ n) : 2 ^ 53 ≤ unitsRead n := by
  have split := Nat.div_add_mod n (10 ^ 7)
  have rest := Nat.mod_lt n (show 0 < 10 ^ 7 by decide)
  unfold unitsRead
  apply le_natToDouble
  rcases lt_or_ge (n / 10 ^ 7 * 10 ^ 7) (2 ^ 53) with below | above
  · rw [natToDouble_of_lt (show n / 10 ^ 7 < 2 ^ 53 by omega), natToDouble_of_lt below,
      natToDouble_of_lt (show n % 10 ^ 7 < 2 ^ 53 by omega)]
    omega
  · refine Nat.le_add_right_of_le (le_natToDouble ?_)
    rcases lt_or_ge (n / 10 ^ 7) (2 ^ 53) with exact_ | rounded
    · rwa [natToDouble_of_lt exact_]
    · exact Nat.le_trans (le_natToDouble rounded)
        (Nat.le_mul_of_pos_right _ (Nat.pow_pos (by decide)))

/-- The doubles of an amount are four parts in 2 ^ 53 away at most. -/
theorem unitsRead_near (n : Nat)
    : 2 ^ 53 * n ≤ 2 ^ 53 * unitsRead n + 4 * n ∧ 2 ^ 53 * unitsRead n ≤ 2 ^ 53 * n + 4 * n := by
  have split := Nat.div_add_mod n (10 ^ 7)
  have rest := Nat.mod_lt n (show 0 < 10 ^ 7 by decide)
  unfold unitsRead
  rw [natToDouble_of_lt (show n % 10 ^ 7 < 2 ^ 53 by omega)]
  have first := natToDouble_near (n / 10 ^ 7)
  have second := natToDouble_near (natToDouble (n / 10 ^ 7) * 10 ^ 7)
  have third := natToDouble_near
    (natToDouble (natToDouble (n / 10 ^ 7) * 10 ^ 7) + n % 10 ^ 7)
  omega

theorem amountToSmallestUnit_of_plain {s : String} {a : ℚ}
    (plain : plainDecimal? s.toList = some a)
    : ∃ n : Nat, a * 10 ^ 7 = n ∧ amountToSmallestUnit s = some (unitsRead n : ℤ) := by
  obtain ⟨whole, fraction, some_, digits, decimals, short, rfl, shape⟩ := plainDecimal_cases plain
  refine ⟨_, ?_, amountToSmallestUnit_of_parts some_ digits decimals short ?_⟩
  · have power : (10 : ℚ) ^ 7 = 10 ^ fraction.length * 10 ^ (7 - fraction.length) := by
      rw [← pow_add, Nat.add_sub_cancel' short]
    have cancel : (digitsValue fraction : ℚ) / 10 ^ fraction.length * 10 ^ 7
        = digitsValue fraction * 10 ^ (7 - fraction.length) := by
      rw [power]
      field_simp
    rw [fixedPoint, add_mul, cancel]
    push_cast
    rfl
  · rcases shape with shape | ⟨shape, -⟩
    · exact .inl shape
    · exact .inr shape

theorem amountToSmallestUnit_plainText {d : DecimalDigits} {n : Nat} (places : -7 ≤ d.exponent)
    (units : d.value * 10 ^ 7 = n)
    : amountToSmallestUnit (String.ofList (plainText d)) = some (unitsRead n : ℤ) := by
  have digitsOf : ∀ k, Nat.toDigits 10 k ≠ [] := fun k => Nat.toDigits_ne_nil
  unfold plainText
  split
  · rename_i whole
    refine (@amountToSmallestUnit_of_parts (Nat.toDigits 10 _) [] _ (digitsOf _)
      all_isDigit_toDigits rfl (Nat.zero_le _) (.inl ⟨String.toList_ofList, rfl⟩)).trans ?_
    rw [digitsValue_toDigits]
    have same : d.digits * 10 ^ d.exponent.toNat * 10 ^ 7 + digitsValue [] * 10 ^ (7 - 0) = n := by
      have scale : (10 : ℚ) ^ d.exponent = 10 ^ d.exponent.toNat := by
        rw [← zpow_natCast, Int.toNat_of_nonneg whole]
      rw [DecimalDigits.value, scale] at units
      have none_ : digitsValue [] = 0 := rfl
      rw [none_, Nat.zero_mul, Nat.add_zero]
      exact_mod_cast units
    exact congrArg (fun n : Nat => some (unitsRead n : ℤ)) same
  · rename_i fractional
    obtain ⟨k, fraction, -, exponent, text, decimals, length, value⟩ :=
      plainText_of_neg (not_le.mp fractional)
    rw [plainText, if_neg fractional] at text
    rw [text]
    refine (@amountToSmallestUnit_of_parts (Nat.toDigits 10 _) _ _ (digitsOf _) all_isDigit_toDigits
      decimals (length.trans_le (by omega)) (.inr String.toList_ofList)).trans ?_
    rw [digitsValue_toDigits, value, length]
    have same : d.digits / 10 ^ k * 10 ^ 7 + d.digits % 10 ^ k * 10 ^ (7 - k) = n := by
      have power : 10 ^ 7 = 10 ^ k * 10 ^ (7 - k) := by
        rw [← Nat.pow_add, Nat.add_sub_cancel' (by omega)]
      have scale : (10 : ℚ) ^ d.exponent * 10 ^ 7 = 10 ^ (7 - k) := by
        rw [← zpow_natCast, ← zpow_natCast, ← zpow_add₀ (by norm_num)]
        congr 1
        push_cast
        omega
      rw [DecimalDigits.value, mul_assoc, scale] at units
      have units : d.digits * 10 ^ (7 - k) = n := by exact_mod_cast units
      rw [power, ← Nat.mul_assoc, ← Nat.add_mul, Nat.div_add_mod', units]
    exact congrArg (fun n : Nat => some (unitsRead n : ℤ)) same

end

-- The balance as a double

section

variable {u v : ℚ} {b n : Nat}

theorem abs_double_sub_le_of_lt (low : 1 / 10 ^ 7 ≤ u) (high : u < 2 ^ 29)
    : |double.round u - u| ≤ 1 / 2 ^ 25 := by
  have positive : 0 < u := lt_of_lt_of_le (by norm_num) low
  have log : Int.log 2 u < 29 := by
    rw [← Int.lt_zpow_iff_log_lt (by norm_num) positive]
    exact_mod_cast high
  have exponent : double.exponent u ≤ -24 := by
    unfold BinaryFormat.exponent
    rw [abs_of_pos positive]
    change max (Int.log 2 u + 1 - (53 : ℕ)) (-1074) ≤ -24
    omega
  have place : double.ulp u ≤ 2 ^ (-24 : ℤ) := zpow_le_zpow_right₀ (by norm_num) exponent
  calc |double.round u - u| ≤ double.ulp u / 2 := BinaryFormat.abs_round_sub_le
    _ ≤ 2 ^ (-24 : ℤ) / 2 := by gcongr
    _ = 1 / 2 ^ 25 := by norm_num

theorem double_lt (low : 1 / 10 ^ 7 ≤ u) (high : u + 1 / 10 ^ 7 ≤ 2 ^ 29)
    : double.round u < 2 ^ 29 := by
  have near := (abs_le.mp (abs_double_sub_le_of_lt low (by linarith))).2
  linarith

theorem lt_of_double_lt (high : double.round u < 2 ^ 29) : u < 2 ^ 29 := by
  by_contra large
  have kept := BinaryFormat.round_mono (F := double) (by norm_num) (not_lt.mp large)
  have fixed : double.round (2 ^ 29) = 2 ^ 29 := by
    have power := @BinaryFormat.round_of_exponent_le double 1 29 (by decide +kernel)
    norm_num at power ⊢
    exact power
  rw [fixed] at kept
  exact kept.not_gt high

theorem units_eq_of_double_eq (some_ : 1 ≤ b) (positive : 1 ≤ n) (high : b < 2 ^ 29 * 10 ^ 7)
    (same : double.round (n / 10 ^ 7) = double.round (b / 10 ^ 7))
    : n = b := by
  have least : ∀ k : Nat, 1 ≤ k → (1 : ℚ) / 10 ^ 7 ≤ k / 10 ^ 7 := by
    intro k one
    have : (1 : ℚ) ≤ k := by exact_mod_cast one
    gcongr
  have below : (b : ℚ) / 10 ^ 7 + 1 / 10 ^ 7 ≤ 2 ^ 29 := by
    have : ((b + 1 : Nat) : ℚ) ≤ (2 ^ 29 * 10 ^ 7 : Nat) := by exact_mod_cast high
    push_cast at this
    linarith
  have belowN := lt_of_double_lt (same.trans_lt (double_lt (least b some_) below))
  have first := abs_le.mp (abs_double_sub_le_of_lt (least b some_) (by linarith))
  have second := abs_le.mp (abs_double_sub_le_of_lt (least n positive) belowN)
  rw [same] at second
  have apart : |(n : ℚ) - b| < 1 := by
    rw [abs_lt]
    constructor <;> linarith
  have apart : |((n : ℤ) - b : ℤ)| < 1 := by exact_mod_cast apart
  rw [Int.abs_lt_one_iff] at apart
  omega

theorem double_bounds (ten : 10 ≤ b) (high : b < 2 ^ 63)
    : 1 / 10 ^ 7 ≤ double.round (b / 10 ^ 7) ∧ double.round (b / 10 ^ 7) < 10 ^ 13 := by
  have tenQ : (10 : ℚ) ≤ b := by exact_mod_cast ten
  have highQ : (b : ℚ) < 2 ^ 63 := by exact_mod_cast high
  have low : (1 : ℚ) / 10 ^ 7 ≤ b / 10 ^ 7 := by
    gcongr
    linarith
  have near := abs_le.mp (abs_double_sub_le_of_pos low)
  norm_num at near ⊢
  constructor <;> linarith

theorem double_small (ten : 10 ≤ b) (high : b < 2 ^ 63)
    : |double.round (b / 10 ^ 7)| < 2 ^ 1024 := by
  obtain ⟨above, below⟩ := double_bounds ten high
  rw [abs_of_pos (lt_of_lt_of_le (by norm_num) above)]
  refine below.trans_le ?_
  calc (10 : ℚ) ^ 13 ≤ 2 ^ 44 := by norm_num
    _ ≤ 2 ^ 1024 := pow_le_pow_right₀ (by norm_num) (by norm_num)

theorem shortest?_of_multiple {c k : Nat} (ten : 10 ≤ c) (multiple : b = c * 10 ^ k)
    (high : b < 2 ^ 63)
    : ∃ d, shortest? (double.round (b / 10 ^ 7)) DECIMAL_PLACES
          (Int.log 10 (double.round (b / 10 ^ 7))) = some d
        ∧ double.round d.value = double.round (b / 10 ^ 7) ∧ (k : ℤ) - 7 ≤ d.exponent := by
  have tenB : 10 ≤ b := by
    rw [multiple]
    exact ten.trans (Nat.le_mul_of_pos_right _ (Nat.pow_pos (by decide)))
  obtain ⟨above, below⟩ := double_bounds tenB high
  have positive : 0 < double.round (b / 10 ^ 7) := lt_of_lt_of_le (by norm_num) above
  have some_ : (0 : ℚ) < b := by exact_mod_cast (show 0 < b by omega)
  have scale : (10 : ℚ) ^ ((k : ℤ) - 7) = 10 ^ k / 10 ^ 7 := by
    rw [zpow_sub₀ (by norm_num), zpow_natCast]
    norm_num
  refine shortest?_of_rounded (b := c) (m := k - 7) (v := b / 10 ^ 7) (by positivity) ?_ rfl
    (double_small tenB high) positive ?_ ?_
  · rw [scale, multiple, Nat.cast_mul, Nat.cast_pow, Nat.cast_ofNat, mul_div_assoc]
  · rw [← Int.zpow_le_iff_le_log (by norm_num) positive]
    have least : (10 : ℚ) * 10 ^ k ≤ b := by exact_mod_cast multiple ▸ Nat.mul_le_mul_right _ ten
    have tenQ : (10 : ℚ) ≤ b := by exact_mod_cast tenB
    have near := abs_le.mp (abs_double_sub_le_of_pos (x := b / 10 ^ 7) (by gcongr; linarith))
    have cast : ((10 : ℕ) : ℚ) ^ ((k : ℤ) - 7) = 10 ^ k / 10 ^ 7 := by exact_mod_cast scale
    rw [cast]
    norm_num at near ⊢
    linarith
  · refine lt_of_lt_of_le (b := 13) ?_ ?_
    · rw [← Int.lt_zpow_iff_log_lt (by norm_num) positive]
      exact_mod_cast below
    · change (13 : ℤ) ≤ k - 7 + (25 : ℕ)
      omega

theorem exists_units {d : DecimalDigits} (places : -7 ≤ d.exponent)
    : ∃ n : Nat, d.value * 10 ^ 7 = n ∧ ∀ k : Nat, (k : ℤ) - 7 ≤ d.exponent → 10 ^ k ∣ n := by
  obtain ⟨j, exponent⟩ := Int.eq_ofNat_of_zero_le (show 0 ≤ d.exponent + 7 by omega)
  refine ⟨d.digits * 10 ^ j, ?_, ?_⟩
  · have scale : (10 : ℚ) ^ d.exponent * 10 ^ 7 = 10 ^ j := by
      rw [← zpow_natCast, ← zpow_natCast, ← zpow_add₀ (by norm_num)]
      congr 1
    rw [DecimalDigits.value, mul_assoc, scale]
    push_cast
    rfl
  · intro k place
    exact (Nat.pow_dvd_pow 10 (by omega)).trans (Nat.dvd_mul_left _ _)

theorem ten_le_of_double_eq (ten : 10 ≤ b) (high : b < 2 ^ 63)
    (same : double.round (n / 10 ^ 7) = double.round (b / 10 ^ 7))
    : 10 ≤ n ∧ (n : ℚ) / 10 ^ 7 < 10 ^ 14 := by
  obtain ⟨above, below⟩ := double_bounds ten high
  have some_ : 1 ≤ n := by
    rw [Nat.one_le_iff_ne_zero]
    rintro rfl
    rw [← same, Nat.cast_zero, zero_div, BinaryFormat.round_zero] at above
    norm_num at above
  have tenQ : (10 : ℚ) ≤ b := by exact_mod_cast ten
  have someQ : (1 : ℚ) ≤ n := by exact_mod_cast some_
  have near := abs_le.mp (abs_double_sub_le_of_pos (x := b / 10 ^ 7) (by gcongr; linarith))
  have nearN := abs_le.mp (abs_double_sub_le_of_pos (x := n / 10 ^ 7) (by gcongr))
  rw [same] at nearN
  norm_num at near nearN below ⊢
  constructor
  · have more : (9 : ℚ) < n := by linarith
    have more : 9 < n := by exact_mod_cast more
    omega
  · linarith

/-- The text of a double that is rounded from ten smallest units or more is read as a number of
units of the same double.
-/
theorem numberText_read (ten : 10 ≤ b) (high : b < 2 ^ 63)
    : ∃ n : Nat, double.round (n / 10 ^ 7) = double.round (b / 10 ^ 7)
        ∧ (∀ c k, 10 ≤ c → b = c * 10 ^ k → 10 ^ k ∣ n)
        ∧ amountToSmallestUnit (numberText (double.round (b / 10 ^ 7)))
          = some (unitsRead n : ℤ) := by
  obtain ⟨above, -⟩ := double_bounds ten high
  have positive : 0 < double.round (b / 10 ^ 7) := lt_of_lt_of_le (by norm_num) above
  obtain ⟨d, found, reads, places⟩ := shortest?_of_multiple (k := 0) ten (by simp) high
  have places : -7 ≤ (stripZeros DECIMAL_PLACES d).exponent :=
    le_trans (by simpa using places) exponent_le_stripZeros
  obtain ⟨n, units, multiples⟩ := exists_units places
  have value : (stripZeros DECIMAL_PLACES d).value = n / 10 ^ 7 := by
    rw [eq_div_iff (by norm_num), units]
  have same : double.round (n / 10 ^ 7) = double.round (b / 10 ^ 7) := by
    rw [← value, value_stripZeros, reads]
  obtain ⟨tenN, most⟩ := ten_le_of_double_eq ten high same
  have plain : decimalText (stripZeros DECIMAL_PLACES d)
      = plainText (stripZeros DECIMAL_PLACES d) := by
    refine decimalText_eq_plainText ?_ ?_
    · have tenQ : (10 : ℚ) ≤ n := by exact_mod_cast tenN
      rw [value]
      norm_num
      linarith
    · rw [value]
      refine most.trans ?_
      norm_num
  refine ⟨n, same, ?_, ?_⟩
  · intro c k tenC multiple
    obtain ⟨d', found', -, place⟩ := shortest?_of_multiple tenC multiple high
    rw [found] at found'
    cases found'
    exact multiples k (place.trans exponent_le_stripZeros)
  unfold numberText
  rw [if_neg positive.ne', abs_of_pos positive, found]
  dsimp only
  rw [Option.map_some, if_neg positive.not_gt, Option.elim_some, plain]
  exact amountToSmallestUnit_plainText places units

end

-- The check

theorem tiny_read
    : ∀ b ∈ List.range 10,
        amountToSmallestUnit (numberText (finiteOrZero (numberValue (b / 10 ^ 7))))
          = some ((b * 10 ^ 7 : Nat) : ℤ) := by
  decide +kernel

structure BalanceRead (b r : Nat) : Prop where
  tiny : b < 10 → r = b * 10 ^ 7
  exact_ : 10 ≤ b → b < 2 ^ 29 * 10 ^ 7 → r = b
  near : 10 ≤ b → 2 ^ 53 * b ≤ 2 ^ 53 * r + 7 * b ∧ 2 ^ 53 * r ≤ 2 ^ 53 * b + 7 * b
  digits : ∀ c k, 10 ≤ c → c < 10 ^ 15 → b = c * 10 ^ k → r = unitsRead b

section

variable {balance amountAcbu : String} {a b r : Nat}

theorem near_of_double_eq {n : Nat} (ten : 10 ≤ b) (tenN : 10 ≤ n)
    (same : double.round (n / 10 ^ 7) = double.round (b / 10 ^ 7))
    : 2 ^ 53 * n ≤ 2 ^ 53 * b + n + b ∧ 2 ^ 53 * b ≤ 2 ^ 53 * n + n + b := by
  have tenQ : (10 : ℚ) ≤ b := by exact_mod_cast ten
  have tenNQ : (10 : ℚ) ≤ n := by exact_mod_cast tenN
  have nearB := abs_le.mp (abs_double_sub_le_of_pos (x := b / 10 ^ 7) (by gcongr; linarith))
  have nearN := abs_le.mp (abs_double_sub_le_of_pos (x := n / 10 ^ 7) (by gcongr; linarith))
  rw [same] at nearN
  norm_num at nearB nearN
  have up : (2 : ℚ) ^ 53 * n ≤ 2 ^ 53 * b + n + b := by
    norm_num
    linarith
  have down : (2 : ℚ) ^ 53 * b ≤ 2 ^ 53 * n + n + b := by
    norm_num
    linarith
  exact ⟨by exact_mod_cast up, by exact_mod_cast down⟩

theorem balanceRead_of_double_eq {n : Nat} (ten : 10 ≤ b) (high : b < 2 ^ 63)
    (same : double.round (n / 10 ^ 7) = double.round (b / 10 ^ 7))
    (multiples : ∀ c k, 10 ≤ c → b = c * 10 ^ k → 10 ^ k ∣ n)
    : BalanceRead b (unitsRead n) := by
  obtain ⟨tenN, -⟩ := ten_le_of_double_eq ten high same
  obtain ⟨up, down⟩ := near_of_double_eq ten tenN same
  constructor
  · omega
  · intro _ below
    rw [units_eq_of_double_eq (by omega) (by omega) below same]
    exact unitsRead_of_lt (by omega)
  · intro _
    have read := unitsRead_near n
    omega
  · intro c k tenC few digits
    obtain ⟨m, multiple⟩ := multiples c k tenC digits
    rw [Nat.mul_comm] at multiple
    have positive : 0 < 10 ^ k := Nat.pow_pos (by decide)
    rw [multiple, digits] at up down
    have up : 2 ^ 53 * m ≤ 2 ^ 53 * c + m + c := by
      refine Nat.le_of_mul_le_mul_right ?_ positive
      linarith
    have down : 2 ^ 53 * c ≤ 2 ^ 53 * m + m + c := by
      refine Nat.le_of_mul_le_mul_right ?_ positive
      linarith
    obtain rfl : m = c := by omega
    rw [multiple, digits]

theorem fetchedBalance_read (plain : plainDecimal? balance.toList = some ((b : ℚ) / 10 ^ 7))
    (high : b < 2 ^ 63)
    : ∃ r : Nat, amountToSmallestUnit (fetchedBalance balance) = some (r : ℤ)
        ∧ BalanceRead b r := by
  unfold fetchedBalance
  rw [parseFloat_of_plain plain]
  rcases lt_or_ge b 10 with tiny | ten
  · refine ⟨b * 10 ^ 7, tiny_read b (List.mem_range.mpr tiny), fun _ => rfl, ?_, ?_, ?_⟩
    · omega
    · omega
    · intro c k ten _ digits
      have more : c ≤ b := digits ▸ Nat.le_mul_of_pos_right _ (Nat.pow_pos (by decide))
      omega
  · have finite : numberValue ((b : ℚ) / 10 ^ 7) = .finite (double.round (b / 10 ^ 7)) :=
      if_neg (not_le.mpr (double_small ten high))
    obtain ⟨n, same, multiples, read⟩ := numberText_read ten high
    rw [finite]
    exact ⟨unitsRead n, read, balanceRead_of_double_eq ten high same multiples⟩

theorem acceptedAmount_read {amount : ℚ} (accepted : acceptedAmount amountAcbu = some amount)
    : ∃ a : Nat, amount * 10 ^ 7 = a
        ∧ amountToSmallestUnit (jsTrim amountAcbu) = some (unitsRead a : ℤ) := by
  have plain := (Option.filter_eq_some_iff.mp accepted).1
  have trimmed : (jsTrim amountAcbu).toList = trimChars amountAcbu.toList := String.toList_ofList
  rw [← trimmed] at plain
  exact amountToSmallestUnit_of_plain plain

theorem checksBalance_iff_le {text : String} {c : Nat}
    (balanceRead : amountToSmallestUnit text = some (r : ℤ))
    (amountRead : amountToSmallestUnit (jsTrim amountAcbu) = some (c : ℤ))
    : checksBalance text amountAcbu = true ↔ c ≤ r := by
  have some_ : text ≠ "" := by
    rintro rfl
    have none_ : amountToSmallestUnit "" = none := by decide +kernel
    rw [none_] at balanceRead
    cases balanceRead
  unfold checksBalance
  rw [if_neg some_, balanceRead, amountRead, isBelow, Bool.not_eq_true', decide_eq_false_iff_not,
    not_lt]
  exact Int.ofNat_le

/-- Below 2 ^ 53 amounts are compared as they are. -/
theorem unitsRead_le_iff (small : r < 2 ^ 53) : unitsRead a ≤ r ↔ a ≤ r := by
  rcases lt_or_ge a (2 ^ 53) with below | above
  · rw [unitsRead_of_lt below]
  · have read := le_unitsRead above
    constructor
    · intro le
      exact absurd (read.trans le) (not_le.mpr small)
    · intro le
      exact absurd (above.trans le) (not_le.mpr small)

theorem unitsRead_le_balance_iff (read : BalanceRead b r) (below : b < 2 ^ 29 * 10 ^ 7)
    : (unitsRead a ≤ r ↔ a ≤ b) ↔ ¬(0 < b ∧ b < 10 ∧ b < a ∧ a ≤ b * 10 ^ 7) := by
  rcases lt_or_ge b 10 with tiny | ten
  · have same := read.tiny tiny
    rw [unitsRead_le_iff (by omega), same]
    omega
  · have same := read.exact_ ten below
    rw [unitsRead_le_iff (by omega), same]
    omega

theorem unitsRead_le_balance_of_apart (read : BalanceRead b r) (ten : 10 ≤ b)
    (apart : max b a < 2 ^ 49 * (max b a - min b a))
    : unitsRead a ≤ r ↔ a ≤ b := by
  have nearB := read.near ten
  have nearA := unitsRead_near a
  rcases le_or_gt a b with le | gt
  · rw [max_eq_left le, min_eq_right le] at apart
    omega
  · rw [max_eq_right gt.le, min_eq_left gt.le] at apart
    omega

theorem unitsRead_le_iff_of_digits {c c' k k' : Nat} (few : c < 10 ^ 15) (few' : c' < 10 ^ 15)
    (digits : a = c * 10 ^ k) (digits' : b = c' * 10 ^ k')
    : unitsRead a ≤ unitsRead b ↔ a ≤ b := by
  -- both in units of the lower place, in which one of them is below 10 ^ 15
  obtain ⟨p, m, n, first, second, below⟩ : ∃ p m n, a = m * 10 ^ p ∧ b = n * 10 ^ p
      ∧ (m < 10 ^ 15 ∨ n < 10 ^ 15) := by
    rcases Nat.le_total k k' with le | le
    · refine ⟨k, c, c' * 10 ^ (k' - k), digits, ?_, .inl few⟩
      rw [digits', Nat.mul_assoc, ← Nat.pow_add, Nat.sub_add_cancel le]
    · refine ⟨k', c * 10 ^ (k - k'), c', ?_, digits', .inr few'⟩
      rw [digits, Nat.mul_assoc, ← Nat.pow_add, Nat.sub_add_cancel le]
  have positive : 0 < 10 ^ p := Nat.pow_pos (by decide)
  have nearA := unitsRead_near a
  have nearB := unitsRead_near b
  rcases Nat.lt_trichotomy m n with lt | same | gt
  · have apart : 8 * n ≤ 2 ^ 53 * (n - m) := by omega
    have le := Nat.mul_le_mul_right (10 ^ p) apart
    rw [Nat.mul_assoc, Nat.mul_assoc, Nat.sub_mul, ← first, ← second] at le
    have smaller : a < b := by
      rw [first, second]
      exact Nat.mul_lt_mul_of_pos_right lt positive
    omega
  · obtain rfl : a = b := by rw [first, second, same]
    simp
  · have apart : 8 * m < 2 ^ 53 * (m - n) := by omega
    have less := Nat.mul_lt_mul_of_pos_right apart positive
    rw [Nat.mul_assoc, Nat.mul_assoc, Nat.sub_mul, ← first, ← second] at less
    have larger : b < a := by
      rw [first, second]
      exact Nat.mul_lt_mul_of_pos_right gt positive
    omega

theorem ten_le_digits {c k : Nat} (few : c < 10 ^ 15) (digits : b = c * 10 ^ k)
    (large : 10 ^ 15 ≤ b)
    : ∃ c k, 10 ≤ c ∧ c < 10 ^ 15 ∧ b = c * 10 ^ k := by
  rcases Nat.lt_or_ge c 10 with less | ten
  · cases k with
    | zero => omega
    | succ k =>
        refine ⟨c * 10, k, ?_, by omega, ?_⟩
        · rcases Nat.eq_zero_or_pos c with rfl | positive <;> omega
        · rw [digits, Nat.pow_succ]
          ring
  · exact ⟨c, k, ten, few, digits⟩

end

theorem apart_units {a b : Nat}
    (apart : max ((b : ℚ) / 10 ^ 7) ((a : ℚ) / 10 ^ 7)
      < 2 ^ 49 * |(b : ℚ) / 10 ^ 7 - (a : ℚ) / 10 ^ 7|)
    : max b a < 2 ^ 49 * (max b a - min b a) := by
  rw [div_sub_div_same, abs_div, abs_of_pos (show (0 : ℚ) < 10 ^ 7 by norm_num),
    max_div_div_right (by norm_num), ← mul_div_assoc, div_lt_div_iff_of_pos_right (by norm_num)]
    at apart
  rcases le_total a b with le | le
  · have leQ : (a : ℚ) ≤ b := by exact_mod_cast le
    rw [max_eq_left leQ, abs_of_nonneg (sub_nonneg.mpr leQ), ← Nat.cast_sub le] at apart
    rw [max_eq_left le, min_eq_right le]
    exact_mod_cast apart
  · have leQ : (b : ℚ) ≤ a := by exact_mod_cast le
    rw [max_eq_right leQ, abs_of_nonpos (sub_nonpos.mpr leQ), neg_sub, ← Nat.cast_sub le] at apart
    rw [max_eq_right le, min_eq_left le]
    exact_mod_cast apart

/-- An amount has fifteen digits at most, without the zeros at its end. -/
def HasFifteenDigits (amount : ℚ) : Prop :=
  ∃ digits zeros : Nat, digits < 10 ^ 15 ∧ amount * 10 ^ 7 = digits * 10 ^ zeros

/-- Up to 2 ^ 29 a balance is compared as it is, but for one that is written with an exponent: it is
read as ten million times as much. A larger one is compared rightly with amounts that are more than
one part in 2 ^ 49 away, and with all of them where both have no more digits than a double keeps.
-/
def ComparedExactly (balance amount : ℚ) : Prop :=
  if balance < 2 ^ 29
  then ¬(0 < balance ∧ balance < 1 / 10 ^ 6 ∧ balance < amount ∧ amount ≤ balance * 10 ^ 7)
  else max balance amount < 2 ^ 49 * |balance - amount|
    ∨ HasFifteenDigits balance ∧ HasFifteenDigits amount

/-- The check is right where the texts are compared exactly, and below 2 ^ 29 just there. -/
theorem checksBalance_iff (reported amountAcbu : String) (balance amount : ℚ)
    (plain : plainDecimal? reported.toList = some balance)
    (range : balance * 10 ^ 7 ≤ 2 ^ 63 - 1)
    (accepted : acceptedAmount amountAcbu = some amount)
    : (balance < 2 ^ 29 →
        ((checksBalance (fetchedBalance reported) amountAcbu = true ↔ amount ≤ balance)
          ↔ ComparedExactly balance amount))
      ∧ (ComparedExactly balance amount →
          (checksBalance (fetchedBalance reported) amountAcbu = true ↔ amount ≤ balance)) := by
  obtain ⟨b, units, -⟩ := amountToSmallestUnit_of_plain plain
  obtain ⟨a, amountUnits, amountRead⟩ := acceptedAmount_read accepted
  obtain rfl : balance = b / 10 ^ 7 := (eq_div_iff (by norm_num)).mpr units
  obtain rfl : amount = a / 10 ^ 7 := (eq_div_iff (by norm_num)).mpr amountUnits
  have high : b < 2 ^ 63 := by
    rw [units] at range
    have below : (b : ℚ) < 2 ^ 63 := by linarith
    exact_mod_cast below
  obtain ⟨r, balanceRead, read⟩ := fetchedBalance_read plain high
  have scale : (0 : ℚ) < 10 ^ 7 := by norm_num
  rw [checksBalance_iff_le balanceRead amountRead, div_le_div_iff_of_pos_right scale, Nat.cast_le]
  have small_iff : (b : ℚ) / 10 ^ 7 < 2 ^ 29 ↔ b < 2 ^ 29 * 10 ^ 7 := by
    rw [div_lt_iff₀ scale]
    exact_mod_cast Iff.rfl
  unfold ComparedExactly
  split
  · rename_i small
    have condition : (0 < (b : ℚ) / 10 ^ 7 ∧ (b : ℚ) / 10 ^ 7 < 1 / 10 ^ 6
          ∧ (b : ℚ) / 10 ^ 7 < a / 10 ^ 7 ∧ (a : ℚ) / 10 ^ 7 ≤ b / 10 ^ 7 * 10 ^ 7)
        ↔ 0 < b ∧ b < 10 ∧ b < a ∧ a ≤ b * 10 ^ 7 := by
      have ten : (b : ℚ) / 10 ^ 7 < 1 / 10 ^ 6 ↔ b < 10 := by
        rw [div_lt_iff₀ scale]
        norm_num
      have most : (a : ℚ) / 10 ^ 7 ≤ b / 10 ^ 7 * 10 ^ 7 ↔ a ≤ b * 10 ^ 7 := by
        rw [div_mul_cancel₀ _ scale.ne', div_le_iff₀ scale]
        exact_mod_cast Iff.rfl
      rw [ten, most, div_pos_iff_of_pos_right scale, Nat.cast_pos,
        div_lt_div_iff_of_pos_right scale, Nat.cast_lt]
    have same := unitsRead_le_balance_iff (a := a) read (small_iff.mp small)
    rw [condition]
    exact ⟨fun _ => same, same.mpr⟩
  · rename_i large
    have above : ¬b < 2 ^ 29 * 10 ^ 7 := fun small => large (small_iff.mpr small)
    refine ⟨fun small => absurd small large, ?_⟩
    rintro (apart | ⟨⟨c', k', few', digits'⟩, c, k, few, digits⟩)
    · exact unitsRead_le_balance_of_apart read (by omega) (apart_units apart)
    · rw [div_mul_cancel₀ _ scale.ne'] at digits digits'
      have digits : a = c * 10 ^ k := by exact_mod_cast digits
      have digits' : b = c' * 10 ^ k' := by exact_mod_cast digits'
      obtain ⟨c', k', ten, few', digits'⟩ := ten_le_digits few' digits' (by omega)
      rw [read.digits c' k' ten few' digits']
      exact unitsRead_le_iff_of_digits few few' digits digits'

theorem checksBalance_iff_sample
    : ((15 : ℚ) / 2 < 2 ^ 29 →
        ((checksBalance (fetchedBalance "7.5000000") "7.5000001" = true
            ↔ (75000001 : ℚ) / 10 ^ 7 ≤ 15 / 2)
          ↔ ComparedExactly (15 / 2) (75000001 / 10 ^ 7)))
      ∧ (ComparedExactly (15 / 2) (75000001 / 10 ^ 7) →
          (checksBalance (fetchedBalance "7.5000000") "7.5000001" = true
            ↔ (75000001 : ℚ) / 10 ^ 7 ≤ 15 / 2)) :=
  checksBalance_iff "7.5000000" "7.5000001" (15 / 2) (75000001 / 10 ^ 7) (by decide +kernel)
    (by decide +kernel) (by decide +kernel)

/-- Five smallest units pass for an amount of 5, and 2 ^ 53 units for one more. -/
theorem larger_amounts_pass
    : (plainDecimal? "0.0000005".toList = some (5 / 10 ^ 7)
        ∧ acceptedAmount "5" = some 5
        ∧ checksBalance (fetchedBalance "0.0000005") "5" = true
        ∧ ¬(5 : ℚ) ≤ 5 / 10 ^ 7)
      ∧ plainDecimal? "900719925.4740992".toList = some (2 ^ 53 / 10 ^ 7)
        ∧ acceptedAmount "900719925.4740993" = some ((2 ^ 53 + 1) / 10 ^ 7)
        ∧ checksBalance (fetchedBalance "900719925.4740992") "900719925.4740993" = true
        ∧ ¬(2 ^ 53 + 1 : ℚ) / 10 ^ 7 ≤ 2 ^ 53 / 10 ^ 7 := by
  refine ⟨⟨?_, ?_, ?_, ?_⟩, ?_, ?_, ?_, ?_⟩
  all_goals decide +kernel

end AcbuBackend.Transfer
