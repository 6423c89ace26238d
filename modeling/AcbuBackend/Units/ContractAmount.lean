import AcbuBackend.Numeric.SignificantDigits
import AcbuBackend.Runtime.Request
import AcbuBackend.Runtime.ShortestText

/-! Amounts on their way to a contract and back.
The units of an amount become a double, and the text of the double becomes an integer again. So the
amount arrives when its units are the integer that their double is written as.
-/

namespace AcbuBackend.Units

open Numeric AcbuBackend.Runtime

-- Texts of numbers

/-- `String` of a number. -/
def numberToString : JsNumber → String
  | .nan => "NaN"
  | .infinity negative => if negative then "-Infinity" else "Infinity"
  | .finite x => numberText x

/-- The value of digits alone. -/
def wholeNumber? (cs : List Char) : Option ℤ :=
  if cs ≠ [] ∧ cs.all isDigit then some (digitsValue cs) else none

/-- The radix that a literal without a sign begins with. -/
def literalRadix (cs : List Char) : Nat :=
  if cs.take 2 = ['0', 'x'] ∨ cs.take 2 = ['0', 'X'] then 16
  else if cs.take 2 = ['0', 'o'] ∨ cs.take 2 = ['0', 'O'] then 8
  else if cs.take 2 = ['0', 'b'] ∨ cs.take 2 = ['0', 'B'] then 2
  else 10

/-- An integer literal without spaces around it: decimal with a sign, or in radix 16, 8 or 2. -/
def integerLiteral? : List Char → Option ℤ
  | [] => some 0
  | '-' :: digits => (wholeNumber? digits).map (fun n => -n)
  | '+' :: digits => wholeNumber? digits
  | cs =>
      if literalRadix cs = 10 then wholeNumber? cs
      else (radixValue? (literalRadix cs) (cs.drop 2)).map Rat.num

/-- `BigInt(s)` of a text. -/
def stringToBigInt (s : String) : Except JsError ℤ :=
  (integerLiteral? (trimChars s.toList)).elim
    (.error (.error s!"SyntaxError: Cannot convert {s} to a BigInt")) .ok

/-- `BigInt(x)` of a number. -/
def numberToBigInt (x : JsNumber) : Except JsError ℤ :=
  let refused := .error (.error (s!"RangeError: The number {numberToString x} cannot be converted "
    ++ "to a BigInt because it is not an integer"))
  match x with
  | .finite value => if value.den = 1 then .ok value.num else refused
  | _ => refused

-- The conversions

/-- `precision` of the decimals. -/
def PRECISION : Nat := 28

/-- `toDecimalPlaces(0, ROUND_DOWN)`. -/
def toWhole (x : ℚ) : ℤ :=
  if 0 ≤ x then ⌊x⌋ else ⌈x⌉

/-- `decimalToContractNumber`. The product is cut off after 28 digits. -/
def decimalToContractNumber (decimal : ℚ) (decimals : Nat := 7) : JsNumber :=
  let scaled := truncToDigits PRECISION (decimal * 10 ^ decimals)
  numberValue (toWhole scaled)

/-- `new Decimal` of a number: the value of its text, `none` where it is not finite. -/
def newDecimal : JsNumber → Option ℚ
  | .finite x =>
      (unsignedDecimal? (numberText |x|).toList).map (fun value => if x < 0 then -value else value)
  | _ => none

def contractNumberToDecimal (contractNumber : JsNumber) (decimals : Nat := 7) : Option ℚ :=
  (newDecimal contractNumber).map (fun decimal => truncToDigits PRECISION (decimal / 10 ^ decimals))

/-- The contract receives the whole units of an amount, and they are read as the amount again. -/
def ArrivesExactly (decimal : ℚ) : Prop :=
  let units := ⌊decimal * 10 ^ 7⌋
  stringToBigInt (numberToString (decimalToContractNumber decimal)) = .ok units
    ∧ contractNumberToDecimal (decimalToContractNumber decimal) = some ((units : ℚ) / 10 ^ 7)

-- Integers from texts

section

variable {cs : List Char} {c : Char} {d : DecimalDigits} {x : ℚ} {n : ℤ}

theorem literalRadix_of_digit
    (decimal : ∀ second ∈ cs.head?, second ∉ ['x', 'X', 'o', 'O', 'b', 'B'])
    : literalRadix (c :: cs) = 10 := by
  have other : ∀ second ∈ ['x', 'X', 'o', 'O', 'b', 'B'], (c :: cs).take 2 ≠ ['0', second] := by
    intro second member same
    cases cs with
    | nil => simp at same
    | cons head tail =>
        obtain ⟨-, rfl⟩ : c = '0' ∧ head = second := by simpa using same
        exact decimal head rfl member
  unfold literalRadix
  rw [if_neg, if_neg, if_neg]
  · exact not_or.mpr ⟨other 'b' (by decide), other 'B' (by decide)⟩
  · exact not_or.mpr ⟨other 'o' (by decide), other 'O' (by decide)⟩
  · exact not_or.mpr ⟨other 'x' (by decide), other 'X' (by decide)⟩

theorem integerLiteral?_of_digit (digit : isDigit c = true)
    (decimal : ∀ second ∈ cs.head?, second ∉ ['x', 'X', 'o', 'O', 'b', 'B'])
    : integerLiteral? (c :: cs) = wholeNumber? (c :: cs) := by
  obtain ⟨-, minus, plus, -⟩ := digit_ne digit
  unfold integerLiteral?
  split
  · rename_i none_
    cases none_
  · rename_i same
    exact absurd (List.cons.inj same).1 minus
  · rename_i same
    exact absurd (List.cons.inj same).1 plus
  · exact if_pos (literalRadix_of_digit decimal)

theorem wholeNumber?_toDigits {n : Nat} : wholeNumber? (Nat.toDigits 10 n) = some (n : ℤ) := by
  rw [wholeNumber?, if_pos ⟨Nat.toDigits_ne_nil, all_isDigit_toDigits⟩, digitsValue_toDigits]

theorem wholeNumber?_of_mem (member : c ∈ cs) (other : isDigit c = false)
    : wholeNumber? cs = none := by
  refine if_neg fun whole => ?_
  rw [List.all_eq_true.mp whole.2 c member] at other
  cases other

theorem stringToBigInt_of_chars (first : ∃ c tail, cs = c :: tail ∧ isDigit c = true)
    (chars : ∀ c ∈ cs, isDigit c = true ∨ c ∈ ['.', 'e', '+', '-'])
    : stringToBigInt (String.ofList cs) = .ok n ↔ wholeNumber? cs = some n := by
  have visible : ∀ c ∈ cs, isJsSpace c = false := by
    intro c member
    rcases chars c member with digit | sign
    · exact (digit_ne digit).1
    · have signs : ['.', 'e', '+', '-'].all (fun c => !isJsSpace c) = true := by decide
      simpa using List.all_eq_true.mp signs c sign
  obtain ⟨c, tail, shape, digit⟩ := first
  have literal : integerLiteral? cs = wholeNumber? cs := by
    rw [shape]
    refine integerLiteral?_of_digit digit fun second head radix => ?_
    have letters : ['x', 'X', 'o', 'O', 'b', 'B'].all (fun c =>
        !isDigit c && !(['.', 'e', '+', '-'].contains c)) = true := by decide
    have letter := List.all_eq_true.mp letters second radix
    have written := chars second (shape ▸ List.mem_cons_of_mem _ (List.mem_of_mem_head? head))
    rw [← List.contains_iff_mem] at written
    rcases written with digit | sign
    · simp [digit] at letter
    · simp only [sign, Bool.not_true, Bool.and_false, Bool.false_eq_true] at letter
  unfold stringToBigInt
  rw [String.toList_ofList, trimChars_eq_self visible, literal]
  cases wholeNumber? cs <;> simp

theorem toDigits_head {n : Nat} : ∃ c tail, Nat.toDigits 10 n = c :: tail ∧ isDigit c = true := by
  have first := @head_digit _ [] (@Nat.toDigits_ne_nil n 10) all_isDigit_toDigits
  rwa [List.append_nil] at first

theorem stringToBigInt_toDigits {n : Nat}
    : stringToBigInt (String.ofList (Nat.toDigits 10 n)) = .ok (n : ℤ) :=
  (stringToBigInt_of_chars toDigits_head
    fun c member => .inl (List.all_eq_true.mp all_isDigit_toDigits c member)).mpr
      wholeNumber?_toDigits

theorem decimalText_chars (member : c ∈ decimalText d) : isDigit c = true ∨ c ∈ ['.', 'e', '+', '-']
    := by
  have digit : ∀ {n : Nat}, c ∈ Nat.toDigits 10 n → isDigit c = true := fun member =>
    List.all_eq_true.mp all_isDigit_toDigits c member
  unfold decimalText at member
  dsimp only at member
  split at member
  · unfold plainText at member
    split at member
    · exact .inl (digit member)
    · rcases List.mem_append.mp member with whole | rest
      · exact .inl (digit whole)
      rcases List.mem_cons.mp rest with rfl | fraction
      · exact .inr (by decide)
      unfold padZeros at fraction
      rcases List.mem_append.mp fraction with zero | fraction
      · rw [List.eq_of_mem_replicate zero]
        exact .inl (by decide)
      · exact .inl (digit fraction)
  · unfold exponentText at member
    dsimp only at member
    rcases List.mem_append.mp member with mantissa | rest
    · rcases List.mem_append.mp mantissa with first | others
      · exact .inl (digit (List.mem_of_mem_take first))
      · split at others
        · cases others
        · rcases List.mem_cons.mp others with rfl | others
          · exact .inr (by decide)
          · exact .inl (digit (List.mem_of_mem_drop others))
    · rcases List.mem_cons.mp rest with rfl | rest
      · exact .inr (by decide)
      rcases List.mem_cons.mp rest with sign | exponent
      · right
        rw [sign]
        split <;> decide
      · exact .inl (digit exponent)

theorem decimalText_head : ∃ c tail, decimalText d = c :: tail ∧ isDigit c = true := by
  unfold decimalText
  dsimp only
  split
  · unfold plainText
    split
    · exact toDigits_head
    · exact head_digit Nat.toDigits_ne_nil all_isDigit_toDigits
  · unfold exponentText
    dsimp only
    obtain ⟨c, tail, shape, digit⟩ := @toDigits_head d.digits
    rw [shape]
    exact ⟨c, _, rfl, digit⟩

theorem value_of_whole (whole : 0 ≤ d.exponent)
    : d.value = (d.digits * 10 ^ d.exponent.toNat : ℕ) := by
  have power : (10 : ℚ) ^ d.exponent = 10 ^ d.exponent.toNat := by
    rw [← zpow_natCast, Int.toNat_of_nonneg whole]
  rw [DecimalDigits.value, power]
  push_cast
  rfl

theorem decimalText_of_whole (positive : 0 < d.digits) (whole : 0 ≤ d.exponent)
    (small : d.value < 10 ^ 21)
    : decimalText d = Nat.toDigits 10 (d.digits * 10 ^ d.exponent.toNat) := by
  have one : 1 ≤ d.value := by
    rw [value_of_whole whole]
    exact_mod_cast Nat.mul_pos positive (Nat.pow_pos (by decide))
  have plain : decimalText d = plainText d := by
    refine decimalText_eq_plainText (le_trans ?_ one) (by exact_mod_cast small)
    norm_num
  rw [plain, plainText, if_pos whole]

theorem wholeNumber?_decimalText (positive : 0 < d.digits)
    : wholeNumber? (decimalText d) = some n
      ↔ 0 ≤ d.exponent ∧ d.value = n ∧ d.value < 10 ^ 21 := by
  have scale : (0 : ℚ) < 10 ^ d.exponent := zpow_pos (by norm_num) _
  constructor
  · intro read
    have noPoint : ∀ c ∈ decimalText d, isDigit c = true := by
      intro c member
      by_contra other
      rw [wholeNumber?_of_mem member (by simpa using other)] at read
      cases read
    unfold decimalText at read noPoint
    dsimp only at read noPoint
    split at read
    · rename_i plain
      rw [if_pos plain] at noPoint
      unfold plainText at read noPoint
      split at read
      · rename_i whole
        rw [wholeNumber?_toDigits] at read
        refine ⟨whole, ?_, ?_⟩
        · obtain rfl := Option.some.inj read
          rw [value_of_whole whole]
          rfl
        · have most : (d.digits : ℚ) < 10 ^ (Nat.toDigits 10 d.digits).length := by
            exact_mod_cast (length_toDigits_bounds positive).2
          calc d.value < 10 ^ (Nat.toDigits 10 d.digits).length * 10 ^ d.exponent := by
                rw [DecimalDigits.value]
                gcongr
            _ = 10 ^ (d.exponent + (Nat.toDigits 10 d.digits).length) := by
                rw [add_comm, zpow_add₀ (by norm_num), zpow_natCast]
            _ ≤ 10 ^ (21 : ℤ) := zpow_le_zpow_right₀ (by norm_num) plain.2
            _ = 10 ^ 21 := by norm_num
      · rename_i fractional
        rw [if_neg fractional] at noPoint
        exact absurd (noPoint '.' (by simp)) (by decide)
    · rename_i far
      rw [if_neg far] at noPoint
      exact absurd (noPoint 'e' (by simp [exponentText])) (by decide)
  · rintro ⟨whole, same, small⟩
    rw [decimalText_of_whole positive whole small, wholeNumber?_toDigits]
    congr 1
    rw [value_of_whole whole] at same
    exact_mod_cast same

theorem numberText_of_pos (positive : 0 < x)
    : numberText x = String.ofList
        (((shortest? x DECIMAL_PLACES (Int.log 10 x)).map (stripZeros DECIMAL_PLACES)).elim []
          decimalText) := by
  rw [numberText, if_neg positive.ne', abs_of_pos positive]
  dsimp only
  rw [if_neg positive.le.not_gt]

theorem stringToBigInt_numberText (positive : 0 < x) (small : |x| < 2 ^ 1024) (other : n ≠ 0)
    : stringToBigInt (numberText x) = .ok n
      ↔ ∃ d, shortest? x DECIMAL_PLACES (Int.log 10 x) = some d
          ∧ 0 ≤ (stripZeros DECIMAL_PLACES d).exponent ∧ d.value = n ∧ n < 10 ^ 21 := by
  rw [numberText_of_pos positive]
  rcases found : shortest? x DECIMAL_PLACES (Int.log 10 x) with _ | d
  · constructor
    · intro read
      exact absurd (Except.ok.inj read).symm other
    · rintro ⟨d, none_, -⟩
      cases none_
  · have reads := (candidate?_eq_some (shortest?_eq_some found).2.1).2
    have digits : 0 < (stripZeros DECIMAL_PLACES d).digits := by
      have own := DecimalDigits.pos_of_reads positive small reads
      have value : 0 < (stripZeros DECIMAL_PLACES d).value := by
        rw [value_stripZeros]
        exact mul_pos (by exact_mod_cast own) (zpow_pos (by norm_num) _)
      rw [Nat.pos_iff_ne_zero]
      intro zero
      rw [DecimalDigits.value, zero, Nat.cast_zero, zero_mul] at value
      exact lt_irrefl _ value
    rw [Option.map_some, Option.elim_some,
      stringToBigInt_of_chars decimalText_head fun c member => decimalText_chars member,
      wholeNumber?_decimalText digits, value_stripZeros]
    constructor
    · rintro ⟨whole, same, below⟩
      refine ⟨d, rfl, whole, same, ?_⟩
      rw [same] at below
      exact_mod_cast below
    · rintro ⟨found, own, whole, same, below⟩
      obtain rfl := Option.some.inj own
      refine ⟨whole, same, ?_⟩
      rw [same]
      exact_mod_cast below

end

section

variable {x : ℚ} {n : ℤ} {units : Nat}

theorem numberValue_cases
    : numberValue x = .finite (double.round x) ∧ |double.round x| < 2 ^ 1024
      ∨ numberValue x = .infinity (x < 0) := by
  unfold numberValue
  dsimp only
  split
  · exact .inr rfl
  · rename_i small
    exact .inl ⟨rfl, not_le.mp small⟩

theorem numberValue_natCast (bound : units ≤ 10 ^ 21)
    : numberValue units = .finite (double.round units) ∧ |double.round (units : ℚ)| < 2 ^ 1024 := by
  have small : |double.round (units : ℚ)| < 2 ^ 1024 := by
    rcases Nat.eq_zero_or_pos units with rfl | some_
    · rw [Nat.cast_zero, BinaryFormat.round_zero, abs_zero]
      positivity
    · obtain ⟨low, high⟩ := round_bounds some_ bound
      rw [abs_of_pos (by linarith)]
      exact high.trans_lt ((show (10 : ℚ) ^ 21 < 2 ^ 70 by norm_num).trans_le
        (pow_le_pow_right₀ (by norm_num) (by norm_num)))
  refine ⟨?_, small⟩
  unfold numberValue
  exact if_neg small.not_ge

theorem lt_of_stringToBigInt (nonneg : 0 ≤ x)
    (read : stringToBigInt (numberToString (numberValue x)) = .ok n)
    : n < 10 ^ 21 := by
  rcases numberValue_cases (x := x) with ⟨finite, small⟩ | infinite
  · rw [finite] at read
    rcases eq_or_ne n 0 with rfl | other
    · norm_num
    rcases (BinaryFormat.round_nonneg (F := double) nonneg).eq_or_lt with zero | positive
    · rw [← zero] at read
      exact absurd (Except.ok.inj read).symm other
    · obtain ⟨-, -, -, -, below⟩ := (stringToBigInt_numberText positive small other).mp read
      exact below
  · rw [infinite, decide_eq_false nonneg.not_gt] at read
    cases read

theorem numberText_natCast (below : units < 10 ^ 21) (shortest : IsShortest units)
    : numberText (double.round units) = String.ofList (Nat.toDigits 10 units) := by
  rcases Nat.eq_zero_or_pos units with rfl | some_
  · rw [Nat.cast_zero, BinaryFormat.round_zero]
    rfl
  obtain ⟨a, k, found, same⟩ := (shortest?_eq_integer_iff some_ below.le).mpr shortest
  have low := (round_bounds some_ below.le).1
  have whole : 0 ≤ (stripZeros DECIMAL_PLACES ⟨a, k⟩).exponent :=
    (Nat.cast_nonneg k).trans exponent_le_stripZeros
  have value : (stripZeros DECIMAL_PLACES ⟨a, k⟩).value = units := by
    rw [value_stripZeros, DecimalDigits.value, zpow_natCast]
    exact_mod_cast same
  have written := (value_of_whole whole).symm.trans value
  have written : (stripZeros DECIMAL_PLACES ⟨a, k⟩).digits
      * 10 ^ (stripZeros DECIMAL_PLACES ⟨a, k⟩).exponent.toNat = units := by
    exact_mod_cast written
  rw [numberText_of_pos (by linarith), found, Option.map_some, Option.elim_some,
    decimalText_of_whole (Nat.pos_of_mul_pos_right (written.symm ▸ some_)) whole, written]
  rw [value]
  exact_mod_cast below

theorem stringToBigInt_natCast
    : stringToBigInt (numberToString (numberValue units)) = .ok (units : ℤ)
      ↔ units < 10 ^ 21 ∧ IsShortest units := by
  constructor
  · intro read
    have below : units < 10 ^ 21 := by
      exact_mod_cast lt_of_stringToBigInt (Nat.cast_nonneg units) read
    rcases Nat.eq_zero_or_pos units with rfl | some_
    · exact ⟨below, isShortest_of_safe (by norm_num)⟩
    have low := (round_bounds some_ below.le).1
    obtain ⟨finite, small⟩ := numberValue_natCast below.le
    rw [finite] at read
    obtain ⟨d, found, -, same, -⟩ :=
      (stringToBigInt_numberText (by linarith) small (by omega)).mp read
    obtain ⟨a, k, found', -⟩ := shortest?_of_integer some_ below.le
    obtain rfl := Option.some.inj (found.symm.trans found')
    refine ⟨below, (shortest?_eq_integer_iff some_ below.le).mp ⟨a, k, found, ?_⟩⟩
    rw [DecimalDigits.value, zpow_natCast] at same
    exact_mod_cast same
  · rintro ⟨below, shortest⟩
    rw [(numberValue_natCast below.le).1, numberToString, numberText_natCast below shortest]
    exact stringToBigInt_toDigits

theorem newDecimal_natCast (below : units < 10 ^ 21) (shortest : IsShortest units)
    : newDecimal (numberValue units) = some (units : ℚ) := by
  have nonneg := BinaryFormat.round_nonneg (F := double) (Nat.cast_nonneg (α := ℚ) units)
  rw [(numberValue_natCast below.le).1, newDecimal, abs_of_nonneg nonneg,
    numberText_natCast below shortest, String.toList_ofList, unsignedDecimal?_toDigits,
    Option.map_some, if_neg nonneg.not_gt]

end

-- Amounts

section

variable {decimal : ℚ} {units : Nat}

/-- Below 10 ^ 28 units none is lost before the double. -/
theorem decimalToContractNumber_of_lt (positive : 0 < decimal) (small : decimal * 10 ^ 7 < 10 ^ 28)
    : decimalToContractNumber decimal = numberValue ⌊decimal * 10 ^ 7⌋ := by
  have scaled : 0 ≤ decimal * 10 ^ 7 := by positivity
  unfold decimalToContractNumber
  dsimp only
  rw [toWhole, if_pos (truncToDigits_nonneg scaled),
    floor_truncToDigits (p := PRECISION) (by decide) scaled small]

theorem contractNumberToDecimal_natCast (below : units < 10 ^ 21) (shortest : IsShortest units)
    : contractNumberToDecimal (numberValue units) = some ((units : ℚ) / 10 ^ 7) := by
  have small : (units : ℚ) < 10 ^ 21 := by exact_mod_cast below
  have nonneg : 0 ≤ (units : ℚ) / 10 ^ 7 := by positivity
  have fits : (units : ℚ) / 10 ^ 7 < 10 ^ (PRECISION - 7) := by
    rw [div_lt_iff₀ (by norm_num)]
    refine small.trans ?_
    rw [PRECISION]
    norm_num
  obtain ⟨j, place⟩ := lastPlace_of_lt (k := 7) (by decide) nonneg fits
  rw [contractNumberToDecimal, newDecimal_natCast below shortest, Option.map_some,
    truncToDigits_of_multiple (n := units * 10 ^ j) nonneg]
  rw [place, ← div_eq_mul_inv, pow_add, div_eq_div_iff (by positivity) (by positivity)]
  push_cast
  ring

/-- An amount arrives exactly when its units are below 10 ^ 21 and are the integer that their
double is written as.
-/
theorem arrivesExactly_iff (positive : 0 < decimal)
    : ArrivesExactly decimal
      ↔ ⌊decimal * 10 ^ 7⌋ < 10 ^ 21 ∧ IsShortest ⌊decimal * 10 ^ 7⌋.toNat := by
  have scaled : 0 ≤ decimal * 10 ^ 7 := by positivity
  obtain ⟨units, same⟩ := Int.eq_ofNat_of_zero_le (Int.floor_nonneg.mpr scaled)
  unfold ArrivesExactly
  dsimp only
  rcases lt_or_ge (decimal * 10 ^ 7) (10 ^ 28) with small | large
  · rw [decimalToContractNumber_of_lt positive small, same, Int.toNat_natCast, Int.cast_natCast,
      stringToBigInt_natCast]
    constructor
    · rintro ⟨⟨below, shortest⟩, -⟩
      exact ⟨by exact_mod_cast below, shortest⟩
    · rintro ⟨below, shortest⟩
      have below : units < 10 ^ 21 := by exact_mod_cast below
      exact ⟨⟨below, shortest⟩, contractNumberToDecimal_natCast below shortest⟩
  · have far : ¬ ⌊decimal * 10 ^ 7⌋ < 10 ^ 21 := by
      rw [Int.floor_lt]
      push_cast
      exact ((show (10 : ℚ) ^ 21 ≤ 10 ^ 28 by norm_num).trans large).not_gt
    refine iff_of_false ?_ fun fits => far fits.1
    rintro ⟨read, -⟩
    have kept := truncToDigits_nonneg (p := PRECISION) scaled
    unfold decimalToContractNumber at read
    dsimp only at read
    refine far (lt_of_stringToBigInt ?_ read)
    rw [toWhole, if_pos kept]
    exact_mod_cast Int.floor_nonneg.mpr kept

theorem arrivesExactly_of_safe (positive : 0 < decimal) (safe : decimal * 10 ^ 7 < 2 ^ 53)
    : ArrivesExactly decimal := by
  have below : ⌊decimal * 10 ^ 7⌋ < 2 ^ 53 := by
    rw [Int.floor_lt]
    exact_mod_cast safe
  exact (arrivesExactly_iff positive).mpr ⟨by omega, isShortest_of_safe (by omega)⟩

end

-- Units read back

section

variable {n : ℤ} {x v amount : ℚ}

theorem newDecimal_finite (other : x ≠ 0) (small : |x| < 2 ^ 1024)
    (read : newDecimal (.finite x) = some v)
    : ∃ value, 0 < value ∧ double.round value = |x| ∧ v = if x < 0 then -value else value := by
  have positive : 0 < |x| := abs_pos.mpr other
  have small : |(|x|)| < 2 ^ 1024 := by rwa [abs_abs]
  rw [newDecimal, numberText_of_pos positive, String.toList_ofList] at read
  rcases found : shortest? |x| DECIMAL_PLACES (Int.log 10 |x|) with _ | d
  · rw [found] at read
    cases read
  · rw [found, Option.map_some, Option.elim_some, unsignedDecimal?_decimalText, value_stripZeros,
      Option.map_some] at read
    have reads := (candidate?_eq_some (shortest?_eq_some found).2.1).2
    have digits : (0 : ℚ) < d.digits := by
      exact_mod_cast DecimalDigits.pos_of_reads positive small reads
    exact ⟨d.value, mul_pos digits (zpow_pos (by norm_num) _), (reads_iff small).mp reads,
      (Option.some.inj read).symm⟩

theorem abs_sub_double_le (positive : 0 < v) (large : 1 / 2 ≤ double.round v)
    : |double.round v - v| ≤ v / 2 ^ 53 := by
  refine abs_double_sub_le_of_pos ?_
  by_contra below
  have inside : |v| < 2 ^ (-2 : ℤ) := by
    rw [abs_of_pos positive]
    exact (not_le.mp below).trans (by norm_num)
  have step := (abs_le.mp (BinaryFormat.abs_round_sub_le_of_lt (F := double) inside (by decide))).2
  have tiny : (2 : ℚ) ^ ((-2 : ℤ) - (double.precision : ℤ)) / 2 ≤ 1 / 8 := by norm_num [double]
  linarith [not_le.mp below]

/-- A double is read back from its text, which is as near to it as the next doubles are. -/
theorem abs_newDecimal_sub_le (read : newDecimal (numberValue n) = some v)
    : |v - n| ≤ |(n : ℚ)| / 2 ^ 50 := by
  rcases eq_or_ne n 0 with rfl | other
  · have none_ : newDecimal (numberValue (0 : ℤ)) = some 0 := by decide +kernel
    obtain rfl := Option.some.inj (none_.symm.trans read)
    simp
  rcases numberValue_cases (x := (n : ℚ)) with ⟨finite, small⟩ | infinite
  · rw [finite] at read
    have one : 1 ≤ |(n : ℚ)| := by exact_mod_cast Int.one_le_abs other
    have near := abs_double_sub_le (x := (n : ℚ)) (by linarith)
    generalize double.round (n : ℚ) = x at read small near
    have below := abs_sub_abs_le_abs_sub (n : ℚ) x
    have above := abs_sub_abs_le_abs_sub x (n : ℚ)
    rw [abs_sub_comm] at below
    have half : 1 / 2 ≤ |x| := by linarith
    obtain ⟨value, positive, rounded, rfl⟩ :=
      newDecimal_finite (abs_pos.mp (by linarith)) small read
    have text := abs_sub_double_le positive (rounded ▸ half)
    have signed : |(if x < 0 then -value else value) - x| = |double.round value - value| := by
      rw [rounded]
      split
      · rename_i negative
        rw [abs_of_neg negative]
        congr 1
        ring
      · rename_i nonneg
        rw [abs_of_nonneg (not_lt.mp nonneg), abs_sub_comm]
    have size := (abs_le.mp text).1
    rw [rounded] at size
    calc |(if x < 0 then -value else value) - n|
        ≤ |(if x < 0 then -value else value) - x| + |x - n| := abs_sub_le _ _ _
      _ ≤ |(n : ℚ)| / 2 ^ 50 := by
          rw [signed]
          linarith
  · rw [infinite] at read
    cases read

theorem abs_contractNumberToDecimal_sub_le
    (read : contractNumberToDecimal (numberValue n) = some amount)
    : |amount * 10 ^ 7 - n| ≤ |(n : ℚ)| / 10 ^ 8 := by
  obtain ⟨v, number, cutOff⟩ := Option.map_eq_some_iff.mp read
  have text := abs_newDecimal_sub_le number
  have size := abs_sub_abs_le_abs_sub v (n : ℚ)
  have nonneg := abs_nonneg (n : ℚ)
  have power : |(10 ^ 7 : ℚ)| = 10 ^ 7 := abs_of_pos (by norm_num)
  have cut := @abs_truncToDigits_sub_le PRECISION (v / 10 ^ 7)
  rw [cutOff, abs_div, power, PRECISION] at cut
  have scaled : amount * 10 ^ 7 - n = (amount - v / 10 ^ 7) * 10 ^ 7 + (v - n) := by ring
  calc |amount * 10 ^ 7 - n| ≤ |(amount - v / 10 ^ 7) * 10 ^ 7| + |v - n| := by
        rw [scaled]
        exact abs_add_le _ _
    _ ≤ |(n : ℚ)| / 10 ^ 8 := by
        rw [abs_mul, power]
        linarith

end

/-- The amount of a small deposit arrives. -/
theorem arrivesExactly_twelve : ArrivesExactly (123456789 / 10 ^ 7) := by
  have units : ⌊(123456789 / 10 ^ 7 : ℚ) * 10 ^ 7⌋ = 123456789 := by
    rw [div_mul_cancel₀ _ (by norm_num)]
    rfl
  refine (arrivesExactly_iff (by norm_num)).mpr ?_
  rw [units]
  exact ⟨by norm_num, isShortest_of_safe (by norm_num)⟩

/-- A number of USDC is the amount that it is written as. One of its units is lost, though, as its
units are an odd integer above `2 ^ 53`.
-/
theorem one_unit_lost
    : newDecimal (numberValue (9007199254740993 / 10 ^ 7)) = some (9007199254740993 / 10 ^ 7)
      ∧ stringToBigInt
          (numberToString (decimalToContractNumber (9007199254740993 / 10 ^ 7)))
        = .ok 9007199254740992
      ∧ ¬ ArrivesExactly (9007199254740993 / 10 ^ 7) := by
  have read : stringToBigInt
      (numberToString (decimalToContractNumber (9007199254740993 / 10 ^ 7)))
      = .ok 9007199254740992 := by decide +kernel
  refine ⟨by decide +kernel, read, fun arrives => ?_⟩
  have lost := read.symm.trans arrives.1
  have units : ⌊(9007199254740993 / 10 ^ 7 : ℚ) * 10 ^ 7⌋ = 9007199254740993 := by
    rw [div_mul_cancel₀ _ (by norm_num)]
    rfl
  rw [units] at lost
  exact absurd (Except.ok.inj lost) (by decide)

end AcbuBackend.Units
