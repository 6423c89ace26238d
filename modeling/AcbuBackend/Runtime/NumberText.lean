import AcbuBackend.Numeric.BinaryFloat
import AcbuBackend.Runtime.Text

/-! `Number.parseFloat` and `String` of a number, with the rounding of doubles.
A number is written with the fewest digits that are read as it, and of these the nearest to it.
-/

namespace AcbuBackend.Runtime

open Numeric

/-- The doubles but for their upper bound. -/
def double : BinaryFormat where
  precision := 53
  minExponent := -1074
  positive := by decide

def numberValue (value : ℚ) : JsNumber :=
  let rounded := double.round value
  if 2 ^ 1024 ≤ |rounded| then .infinity (value < 0) else .finite rounded

-- Reading

/-- The factor of the exponent that a text starts with, one if there is none. -/
def leadingExponent : List Char → ℚ
  | [] => 1
  | e :: rest =>
      let (negative, tail) :=
        match rest with
        | '-' :: tail => (true, tail)
        | '+' :: tail => (false, tail)
        | tail => (false, tail)
      let digits := tail.takeWhile isDigit
      if (e = 'e' ∨ e = 'E') ∧ digits ≠ [] then
        if negative then 1 / 10 ^ digitsValue digits else 10 ^ digitsValue digits
      else 1

/-- The value of the unsigned decimal literal that a text starts with. -/
def leadingDecimal? (cs : List Char) : Option ℚ :=
  let whole := cs.takeWhile isDigit
  let (fraction, rest) :=
    match cs.dropWhile isDigit with
    | '.' :: tail => (tail.takeWhile isDigit, tail.dropWhile isDigit)
    | tail => ([], tail)
  if whole = [] ∧ fraction = [] then none
  else some (fixedPoint whole fraction * leadingExponent rest)

/-- `Number.parseFloat`. -/
def parseFloat (s : String) : JsNumber :=
  let (negative, unsigned) : Bool × List Char :=
    match s.toList.dropWhile isJsSpace with
    | '-' :: rest => (true, rest)
    | '+' :: rest => (false, rest)
    | rest => (false, rest)
  if "Infinity".toList.isPrefixOf unsigned then .infinity negative
  else
    match leadingDecimal? unsigned with
    | none => .nan
    | some value => numberValue (if negative then -value else value)

-- Writing

/-- The decimal `digits * 10 ^ exponent`. -/
structure DecimalDigits where
  digits : Nat
  exponent : ℤ

def DecimalDigits.value (d : DecimalDigits) : ℚ :=
  d.digits * 10 ^ d.exponent

/-- A decimal is read as the number. -/
def DecimalDigits.reads (d : DecimalDigits) (x : ℚ) : Bool :=
  numberValue d.value = .finite x

def isNearer (x : ℚ) (below above : DecimalDigits) : Bool :=
  if x - below.value < above.value - x then true
  else if above.value - x < x - below.value then false
  else below.digits % 2 = 0

/-- Of the two decimals around a number that is positive, the nearest that is read as it. -/
def candidate? (x : ℚ) (exponent : ℤ) : Option DecimalDigits :=
  let below : DecimalDigits := { digits := ⌊x / 10 ^ exponent⌋.toNat, exponent }
  let above : DecimalDigits := { digits := ⌊x / 10 ^ exponent⌋.toNat + 1, exponent }
  if below.reads x ∧ (isNearer x below above ∨ ¬above.reads x) then some below
  else if above.reads x then some above
  else none

def shortest? (x : ℚ) : Nat → ℤ → Option DecimalDigits
  | 0, _ => none
  | places + 1, exponent => (candidate? x exponent).or (shortest? x places (exponent - 1))

def stripZeros : Nat → DecimalDigits → DecimalDigits
  | 0, d => d
  | places + 1, d =>
      if d.digits % 10 = 0 then
        stripZeros places { digits := d.digits / 10, exponent := d.exponent + 1 }
      else d

/-- The places that are tried. Seventeen digits are always enough. -/
def DECIMAL_PLACES : Nat := 25

def padZeros (length : Nat) (cs : List Char) : List Char :=
  List.replicate (length - cs.length) '0' ++ cs

/-- A decimal written without an exponent. -/
def plainText (d : DecimalDigits) : List Char :=
  if 0 ≤ d.exponent then Nat.toDigits 10 (d.digits * 10 ^ d.exponent.toNat)
  else
    let places := (-d.exponent).toNat
    Nat.toDigits 10 (d.digits / 10 ^ places)
      ++ '.' :: padZeros places (Nat.toDigits 10 (d.digits % 10 ^ places))

def exponentText (d : DecimalDigits) : List Char :=
  let digits := Nat.toDigits 10 d.digits
  let exponent := d.exponent + digits.length - 1
  digits.take 1 ++ (if digits.length = 1 then [] else '.' :: digits.drop 1)
    ++ 'e' :: (if exponent < 0 then '-' else '+') :: Nat.toDigits 10 exponent.natAbs

/-- The text of a decimal that is positive. Its point is moved by 21 places at most, or by 6. -/
def decimalText (d : DecimalDigits) : List Char :=
  let point := d.exponent + (Nat.toDigits 10 d.digits).length
  if -6 < point ∧ point ≤ 21 then plainText d else exponentText d

/-- `String` of a finite number. -/
def numberText (x : ℚ) : String :=
  if x = 0 then "0"
  else
    let shortest := shortest? |x| DECIMAL_PLACES (Int.log 10 |x|)
    let digits := (shortest.map (stripZeros DECIMAL_PLACES)).elim [] decimalText
    String.ofList (if x < 0 then '-' :: digits else digits)

example : numberText (1 / 2) = "0.5" := by decide +kernel

-- Plain decimals

section

variable {x y : ℚ} {d : DecimalDigits}

theorem plainDecimal_cases {cs : List Char} (plain : plainDecimal? cs = some x)
    : ∃ whole fraction, whole ≠ [] ∧ whole.all isDigit = true ∧ fraction.all isDigit = true
        ∧ fraction.length ≤ 7 ∧ x = fixedPoint whole fraction
        ∧ (cs = whole ∧ fraction = [] ∨ cs = whole ++ '.' :: fraction ∧ fraction ≠ []) := by
  have split := List.takeWhile_append_dropWhile (p := isDigit) (l := cs)
  have digits : (cs.takeWhile isDigit).all isDigit = true :=
    List.all_eq_true.mpr fun c member => List.mem_takeWhile_imp member
  unfold plainDecimal? at plain
  dsimp only at plain
  split at plain
  · rename_i rest
    split at plain
    · cases plain
    · rename_i some_
      rw [rest, List.append_nil] at split
      exact ⟨_, [], some_, digits, rfl, by simp, (Option.some.inj plain).symm,
        .inl ⟨split.symm, rfl⟩⟩
  · rename_i fraction rest
    split at plain
    · rename_i shape
      rw [rest] at split
      exact ⟨_, fraction, shape.1, digits, shape.2.2.2, shape.2.2.1, (Option.some.inj plain).symm,
        .inr ⟨split.symm, shape.2.1⟩⟩
    · cases plain
  · cases plain

theorem takeWhile_digits {whole rest : List Char} (digits : whole.all isDigit = true)
    (stops : ∀ c ∈ rest.head?, isDigit c = false)
    : (whole ++ rest).takeWhile isDigit = whole ∧ (whole ++ rest).dropWhile isDigit = rest := by
  have digits := List.all_eq_true.mp digits
  constructor
  · rw [List.takeWhile_append_of_pos digits]
    cases rest with
    | nil => simp
    | cons c rest => simp [stops c rfl]
  · rw [List.dropWhile_append_of_pos digits]
    cases rest with
    | nil => rfl
    | cons c rest => simp [stops c rfl]

theorem leadingDecimal?_of_plain {cs : List Char} (plain : plainDecimal? cs = some x)
    : leadingDecimal? cs = some x := by
  obtain ⟨whole, fraction, some_, digits, decimals, -, rfl, shape⟩ := plainDecimal_cases plain
  unfold leadingDecimal?
  rcases shape with ⟨rfl, rfl⟩ | ⟨rfl, -⟩
  · obtain ⟨taken, left⟩ := @takeWhile_digits _ [] digits (by simp)
    rw [List.append_nil] at taken left
    simp [taken, left, some_, leadingExponent]
  · obtain ⟨taken, left⟩ := @takeWhile_digits _ ('.' :: fraction) digits (by simp; decide)
    obtain ⟨takenAfter, leftAfter⟩ := @takeWhile_digits _ [] decimals (by simp)
    rw [List.append_nil] at takenAfter leftAfter
    simp [taken, left, takenAfter, leftAfter, some_, leadingExponent]

theorem head_digit {whole rest : List Char} (some_ : whole ≠ []) (digits : whole.all isDigit = true)
    : ∃ c tail, whole ++ rest = c :: tail ∧ isDigit c = true := by
  obtain ⟨c, tail, rfl⟩ := List.exists_cons_of_ne_nil some_
  exact ⟨c, tail ++ rest, rfl, List.all_eq_true.mp digits c List.mem_cons_self⟩

theorem digit_ne {c : Char} (digit : isDigit c = true)
    : isJsSpace c = false ∧ c ≠ '-' ∧ c ≠ '+' ∧ c ≠ 'I' ∧ c ≠ '.' := by
  have range : 48 ≤ c.toNat ∧ c.toNat ≤ 57 := by
    unfold isDigit at digit
    rw [Bool.and_eq_true, decide_eq_true_eq, decide_eq_true_eq] at digit
    exact digit
  have other : ∀ other : Char, isDigit other = false → c ≠ other := by
    rintro _ isOther rfl
    rw [digit] at isOther
    cases isOther
  refine ⟨?_, other _ (by decide), other _ (by decide), other _ (by decide), other _ (by decide)⟩
  simp only [isJsSpace, List.contains_eq_mem, List.mem_cons, List.not_mem_nil, or_false]
  simp
  omega

theorem parseFloat_of_plain {s : String} (plain : plainDecimal? s.toList = some x)
    : parseFloat s = numberValue x := by
  have read := leadingDecimal?_of_plain plain
  obtain ⟨c, tail, shape, digit⟩ : ∃ c tail, s.toList = c :: tail ∧ isDigit c = true := by
    obtain ⟨whole, fraction, some_, digits, -, -, -, shape⟩ := plainDecimal_cases plain
    rcases shape with ⟨same, -⟩ | ⟨same, -⟩
    · obtain ⟨c, tail, first, digit⟩ := @head_digit _ [] some_ digits
      rw [List.append_nil] at first
      exact ⟨c, tail, same.trans first, digit⟩
    · obtain ⟨c, tail, first, digit⟩ := @head_digit _ ('.' :: fraction) some_ digits
      exact ⟨c, tail, same.trans first, digit⟩
  obtain ⟨visible, minus, plus, infinity, -⟩ := digit_ne digit
  have kept : s.toList.dropWhile isJsSpace = c :: tail := by
    rw [shape, List.dropWhile_cons_of_neg (by simp [visible])]
  unfold parseFloat
  rw [shape] at read
  simp [kept, minus, plus, read, List.isPrefixOf, infinity.symm]

-- The shortest decimal

theorem reads_iff (small : |x| < 2 ^ 1024) : d.reads x = true ↔ double.round d.value = x := by
  unfold DecimalDigits.reads numberValue
  dsimp only
  rw [decide_eq_true_eq]
  constructor
  · intro same
    split at same
    · cases same
    · exact JsNumber.finite.inj same
  · rintro rfl
    rw [if_neg small.not_ge]

theorem candidate?_eq_some {e : ℤ} (found : candidate? x e = some d)
    : d.exponent = e ∧ d.reads x = true := by
  unfold candidate? at found
  dsimp only at found
  split at found
  · rename_i below
    cases found
    exact ⟨rfl, below.1⟩
  split at found
  · rename_i above
    cases found
    exact ⟨rfl, above⟩
  · cases found

theorem candidate?_isSome {e : ℤ}
    (some_ : (DecimalDigits.mk ⌊x / 10 ^ e⌋.toNat e).reads x = true
      ∨ (DecimalDigits.mk (⌊x / 10 ^ e⌋.toNat + 1) e).reads x = true)
    : (candidate? x e).isSome = true := by
  unfold candidate?
  dsimp only
  split
  · rfl
  split
  · rfl
  · rename_i neither notAbove
    rcases some_ with below | above
    · exact absurd ⟨below, .inr notAbove⟩ neither
    · exact absurd above notAbove

section

variable {e : ℤ} {m : Nat}

theorem le_floor_toNat_iff (nonneg : 0 ≤ x)
    : m ≤ ⌊x / 10 ^ e⌋.toNat ↔ (m : ℚ) * 10 ^ e ≤ x := by
  have scale : (0 : ℚ) < 10 ^ e := zpow_pos (by norm_num) e
  have quotient : 0 ≤ ⌊x / 10 ^ e⌋ := Int.floor_nonneg.mpr (div_nonneg nonneg scale.le)
  rw [Int.le_toNat quotient, Int.le_floor, le_div_iff₀ scale, Int.cast_natCast]

theorem DecimalDigits.pos_of_reads (positive : 0 < x) (small : |x| < 2 ^ 1024)
    (reads : d.reads x = true)
    : 0 < d.digits := by
  rw [Nat.pos_iff_ne_zero]
  intro zero
  rw [reads_iff small, DecimalDigits.value, zero, Nat.cast_zero, zero_mul,
    BinaryFormat.round_zero] at reads
  exact positive.ne reads

theorem reads_below (positive : 0 < x) (small : |x| < 2 ^ 1024) (fixed : double.round x = x)
    (reads : (DecimalDigits.mk m e).reads x = true) (le : m ≤ ⌊x / 10 ^ e⌋.toNat)
    : (DecimalDigits.mk ⌊x / 10 ^ e⌋.toNat e).reads x = true := by
  have scale : (0 : ℚ) < 10 ^ e := zpow_pos (by norm_num) e
  have some_ : (0 : ℚ) < m := by exact_mod_cast DecimalDigits.pos_of_reads positive small reads
  rw [reads_iff small] at reads ⊢
  have low : (m : ℚ) * 10 ^ e ≤ (⌊x / 10 ^ e⌋.toNat : ℚ) * 10 ^ e := by
    have : (m : ℚ) ≤ (⌊x / 10 ^ e⌋.toNat : ℚ) := by exact_mod_cast le
    gcongr
  have high := (le_floor_toNat_iff (e := e) positive.le).mp le_rfl
  have first := mul_pos some_ scale
  refine le_antisymm ?_ ?_
  · exact (BinaryFormat.round_mono (first.trans_le low) high).trans_eq fixed
  · exact reads.symm.trans_le (BinaryFormat.round_mono first low)

theorem reads_above (positive : 0 < x) (small : |x| < 2 ^ 1024) (fixed : double.round x = x)
    (reads : (DecimalDigits.mk m e).reads x = true) (lt : ⌊x / 10 ^ e⌋.toNat < m)
    : (DecimalDigits.mk (⌊x / 10 ^ e⌋.toNat + 1) e).reads x = true := by
  have scale : (0 : ℚ) < 10 ^ e := zpow_pos (by norm_num) e
  rw [reads_iff small] at reads ⊢
  have high : ((⌊x / 10 ^ e⌋.toNat + 1 : ℕ) : ℚ) * 10 ^ e ≤ m * 10 ^ e := by
    have : ((⌊x / 10 ^ e⌋.toNat + 1 : ℕ) : ℚ) ≤ m := by exact_mod_cast lt
    gcongr
  have low : x < ((⌊x / 10 ^ e⌋.toNat + 1 : ℕ) : ℚ) * 10 ^ e := by
    rw [← not_le, ← le_floor_toNat_iff positive.le]
    exact Nat.not_succ_le_self _
  refine le_antisymm ?_ ?_
  · exact (BinaryFormat.round_mono (positive.trans low) high).trans_eq reads
  · exact fixed.symm.trans_le (BinaryFormat.round_mono positive low.le)

theorem candidate?_isSome_of_reads (positive : 0 < x) (small : |x| < 2 ^ 1024)
    (fixed : double.round x = x) (reads : (DecimalDigits.mk m e).reads x = true)
    : (candidate? x e).isSome = true := by
  refine candidate?_isSome ?_
  rcases le_or_gt m ⌊x / 10 ^ e⌋.toNat with le | lt
  · exact .inl (reads_below positive small fixed reads le)
  · exact .inr (reads_above positive small fixed reads lt)

end

theorem shortest?_of_candidate {places k : Nat} {e : ℤ} (near : k < places)
    (some_ : (candidate? x (e - k)).isSome = true)
    : ∃ d, shortest? x places e = some d ∧ d.reads x = true ∧ e - k ≤ d.exponent := by
  induction places generalizing e k with
  | zero => exact absurd near (Nat.not_lt_zero k)
  | succ places ih =>
      rw [shortest?]
      rcases Option.eq_none_or_eq_some (candidate? x e) with none_ | ⟨d, found⟩
      · rw [none_, Option.none_or]
        cases k with
        | zero =>
            rw [Nat.cast_zero, sub_zero, none_] at some_
            cases some_
        | succ k =>
            have shifted : e - ((k + 1 : Nat) : ℤ) = e - 1 - k := by
              push_cast
              ring
            rw [shifted] at some_ ⊢
            exact ih (Nat.lt_of_succ_lt_succ near) some_
      · obtain ⟨same, reads⟩ := candidate?_eq_some found
        rw [found, Option.some_or]
        exact ⟨d, rfl, reads, by omega⟩

@[simp] theorem value_stripZeros {places : Nat} : (stripZeros places d).value = d.value := by
  induction places generalizing d with
  | zero => rfl
  | succ places ih =>
      unfold stripZeros
      split
      · rename_i zero
        obtain ⟨n, same⟩ := Nat.dvd_of_mod_eq_zero zero
        rw [ih]
        unfold DecimalDigits.value
        rw [same, Nat.mul_div_cancel_left n (by decide), zpow_add_one₀ (by norm_num)]
        push_cast
        ring
      · rfl

theorem exponent_le_stripZeros {places : Nat} : d.exponent ≤ (stripZeros places d).exponent := by
  induction places generalizing d with
  | zero => exact le_rfl
  | succ places ih =>
      unfold stripZeros
      split
      · have stripped := @ih { digits := d.digits / 10, exponent := d.exponent + 1 }
        exact (Int.le_add_one le_rfl).trans stripped
      · exact le_rfl

theorem shortest?_of_rounded {v : ℚ} {b : Nat} {m : ℤ} (positive : 0 < v) (decimal : v = b * 10 ^ m)
    (rounded : x = double.round v) (small : |x| < 2 ^ 1024) (xPositive : 0 < x)
    (first : m ≤ Int.log 10 x) (near : Int.log 10 x < m + DECIMAL_PLACES)
    : ∃ d, shortest? x DECIMAL_PLACES (Int.log 10 x) = some d ∧ double.round d.value = x
        ∧ m ≤ d.exponent := by
  obtain ⟨k, steps⟩ := Int.eq_ofNat_of_zero_le (sub_nonneg.mpr first)
  have reached : Int.log 10 x - k = m := by omega
  have fixed : double.round x = x := by
    rw [rounded]
    exact BinaryFormat.round_round positive.le
  have reads : (DecimalDigits.mk b m).reads x = true := by
    rw [reads_iff small, DecimalDigits.value, ← decimal, rounded]
  have candidate : (candidate? x (Int.log 10 x - k)).isSome = true := by
    rw [reached]
    exact candidate?_isSome_of_reads xPositive small fixed reads
  have enough : k < DECIMAL_PLACES := by omega
  obtain ⟨d, found, reads, exponent⟩ := shortest?_of_candidate enough candidate
  exact ⟨d, found, (reads_iff small).mp reads, reached ▸ exponent⟩

-- Plain texts

@[simp] theorem digitsValue_toDigits {n : Nat} : digitsValue (Nat.toDigits 10 n) = n :=
  Nat.ofDigitChars_ten_toDigits

theorem all_isDigit_toDigits {n : Nat} : (Nat.toDigits 10 n).all isDigit = true := by
  refine List.all_eq_true.mpr fun c member => ?_
  have digit := Nat.isDigit_of_mem_toDigits (by decide) (by decide) member
  simpa [isDigit, Char.isDigit, Char.le_def] using digit

theorem length_toDigits_bounds {n : Nat} (positive : 0 < n)
    : 10 ^ ((Nat.toDigits 10 n).length - 1) ≤ n ∧ n < 10 ^ (Nat.toDigits 10 n).length := by
  have some_ : 0 < (Nat.toDigits 10 n).length := Nat.length_toDigits_pos
  refine ⟨?_, (Nat.length_toDigits_le_iff (by decide) some_).mp le_rfl⟩
  rcases Nat.eq_zero_or_pos ((Nat.toDigits 10 n).length - 1) with one | more
  · rw [one]
    exact positive
  · by_contra small
    have short := (Nat.length_toDigits_le_iff (by decide) more).mpr (not_le.mp small)
    omega

theorem digitsValue_zeros_append {k : Nat} {cs : List Char}
    : digitsValue (List.replicate k '0' ++ cs) = digitsValue cs := by
  change Nat.ofDigitChars 10 (List.replicate k '0' ++ cs) 0 = Nat.ofDigitChars 10 cs 0
  rw [Nat.ofDigitChars_append, Nat.ofDigitChars_replicate_zero, Nat.mul_zero]

theorem plainText_of_neg (fractional : d.exponent < 0)
    : ∃ (k : Nat) (fraction : List Char), 0 < k ∧ d.exponent = -k
        ∧ plainText d = Nat.toDigits 10 (d.digits / 10 ^ k) ++ '.' :: fraction
        ∧ fraction.all isDigit = true ∧ fraction.length = k
        ∧ digitsValue fraction = d.digits % 10 ^ k := by
  obtain ⟨k, exponent⟩ := Int.eq_ofNat_of_zero_le (neg_nonneg.mpr fractional.le)
  have some_ : 0 < k := by omega
  have toNat_eq : (-d.exponent).toNat = k := by omega
  have rest : d.digits % 10 ^ k < 10 ^ k := Nat.mod_lt _ (Nat.pow_pos (by decide))
  have short : (Nat.toDigits 10 (d.digits % 10 ^ k)).length ≤ k :=
    (Nat.length_toDigits_le_iff (by decide) some_).mpr rest
  refine ⟨k, padZeros k (Nat.toDigits 10 (d.digits % 10 ^ k)), some_, by omega, ?_, ?_, ?_, ?_⟩
  · rw [plainText, if_neg fractional.not_ge]
    dsimp only
    rw [toNat_eq]
  · rw [padZeros, List.all_append, all_isDigit_toDigits, Bool.and_true]
    refine List.all_eq_true.mpr fun c member => ?_
    rw [List.eq_of_mem_replicate member]
    decide
  · rw [padZeros, List.length_append, List.length_replicate, Nat.sub_add_cancel short]
  · rw [padZeros, digitsValue_zeros_append, digitsValue_toDigits]

/-- From a millionth to 10 ^ 21 a number is written without an exponent. -/
theorem decimalText_eq_plainText (low : 10 ^ (-6 : ℤ) ≤ d.value) (high : d.value < 10 ^ (21 : ℤ))
    : decimalText d = plainText d := by
  have million : (0 : ℚ) < 10 ^ (-6 : ℤ) := zpow_pos (by norm_num) _
  have scale : (0 : ℚ) < 10 ^ d.exponent := zpow_pos (by norm_num) _
  have positive : 0 < d.digits := by
    rw [Nat.pos_iff_ne_zero]
    intro zero
    rw [DecimalDigits.value, zero, Nat.cast_zero, zero_mul] at low
    exact low.not_gt million
  obtain ⟨least, most⟩ := length_toDigits_bounds positive
  have some_ : 0 < (Nat.toDigits 10 d.digits).length := Nat.length_toDigits_pos
  refine if_pos ⟨?_, ?_⟩
  · by_contra small
    have below : d.value < 10 ^ (d.exponent + (Nat.toDigits 10 d.digits).length) := by
      have : (d.digits : ℚ) < 10 ^ (Nat.toDigits 10 d.digits).length := by exact_mod_cast most
      rw [DecimalDigits.value, add_comm, zpow_add₀ (by norm_num), zpow_natCast]
      gcongr
    have reached := low.trans_lt below
    rw [zpow_lt_zpow_iff_right₀ (by norm_num)] at reached
    exact small reached
  · by_contra large
    have above : 10 ^ (((Nat.toDigits 10 d.digits).length - 1 : ℕ) + d.exponent) ≤ d.value := by
      have : (10 : ℚ) ^ ((Nat.toDigits 10 d.digits).length - 1) ≤ d.digits := by
        exact_mod_cast least
      rw [DecimalDigits.value, zpow_add₀ (by norm_num), zpow_natCast]
      gcongr
    have reached := above.trans_lt high
    rw [zpow_lt_zpow_iff_right₀ (by norm_num)] at reached
    omega

-- Reading what is written

section

variable {whole fraction rest : List Char}

theorem unsignedDecimal?_of_whole (some_ : whole ≠ []) (digits : whole.all isDigit = true)
    (stops : ∀ c ∈ rest.head?, isDigit c = false ∧ c ≠ '.')
    : unsignedDecimal? (whole ++ rest)
      = (exponentFactor? rest).map (fun factor => fixedPoint whole [] * factor) := by
  obtain ⟨taken, left⟩ := @takeWhile_digits whole rest digits fun c first => (stops c first).1
  unfold unsignedDecimal?
  rw [taken, left]
  cases rest with
  | nil => simp [some_]
  | cons c rest =>
      have point := (stops c rfl).2
      simp [some_, point]

theorem unsignedDecimal?_of_fraction (some_ : whole ≠ []) (digits : whole.all isDigit = true)
    (decimals : fraction.all isDigit = true) (stops : ∀ c ∈ rest.head?, isDigit c = false)
    : unsignedDecimal? (whole ++ '.' :: (fraction ++ rest))
      = (exponentFactor? rest).map (fun factor => fixedPoint whole fraction * factor) := by
  obtain ⟨taken, left⟩ := @takeWhile_digits whole ('.' :: (fraction ++ rest)) digits
    (by simp; decide)
  obtain ⟨takenAfter, leftAfter⟩ := @takeWhile_digits fraction rest decimals stops
  unfold unsignedDecimal?
  simp [taken, left, takenAfter, leftAfter, some_]

theorem unsignedDecimal?_toDigits {n : Nat}
    : unsignedDecimal? (Nat.toDigits 10 n) = some (n : ℚ) := by
  have read := @unsignedDecimal?_of_whole (Nat.toDigits 10 n) [] Nat.toDigits_ne_nil
    all_isDigit_toDigits (by simp)
  have none_ : digitsValue [] = 0 := rfl
  rw [List.append_nil] at read
  simp [read, exponentFactor?, fixedPoint, none_]

theorem unsignedDecimal?_plainText : unsignedDecimal? (plainText d) = some d.value := by
  rcases le_or_gt 0 d.exponent with natural | fractional
  · have power : (10 : ℚ) ^ d.exponent = 10 ^ d.exponent.toNat := by
      rw [← zpow_natCast, Int.toNat_of_nonneg natural]
    rw [plainText, if_pos natural, unsignedDecimal?_toDigits, DecimalDigits.value, power]
    push_cast
    rfl
  · obtain ⟨k, fraction, -, exponent, text, decimals, length, value⟩ := plainText_of_neg fractional
    have read := @unsignedDecimal?_of_fraction (Nat.toDigits 10 (d.digits / 10 ^ k)) fraction []
      Nat.toDigits_ne_nil all_isDigit_toDigits decimals (by simp)
    rw [List.append_nil] at read
    have split : ((d.digits / 10 ^ k : ℕ) : ℚ) * 10 ^ k + (d.digits % 10 ^ k : ℕ) = d.digits := by
      exact_mod_cast Nat.div_add_mod' d.digits (10 ^ k)
    rw [text, read, exponentFactor?, Option.map_some, fixedPoint, digitsValue_toDigits, value,
      length, DecimalDigits.value, exponent, zpow_neg, zpow_natCast, ← split]
    congr 1
    field_simp

/-- What follows the mantissa is the power of ten of the exponent. -/
theorem exponentFactor?_of_exponent {e : ℤ}
    : exponentFactor? ('e' :: (if e < 0 then '-' else '+') :: Nat.toDigits 10 e.natAbs)
      = some (10 ^ e) := by
  have digits := @all_isDigit_toDigits e.natAbs
  rcases lt_or_ge e 0 with negative | nonneg
  · have power : (10 : ℚ) ^ e = 1 / 10 ^ e.natAbs := by
      rw [one_div, ← zpow_natCast, ← zpow_neg]
      congr 1
      omega
    rw [if_pos negative, power]
    simp [exponentFactor?, digits, Nat.toDigits_ne_nil]
  · have power : (10 : ℚ) ^ e = 10 ^ e.natAbs := by
      rw [← zpow_natCast]
      congr 1
      omega
    rw [if_neg nonneg.not_gt, power]
    simp [exponentFactor?, digits, Nat.toDigits_ne_nil]

theorem unsignedDecimal?_exponentText : unsignedDecimal? (exponentText d) = some d.value := by
  obtain ⟨c, tail, shape⟩ := List.exists_cons_of_ne_nil (@Nat.toDigits_ne_nil d.digits 10)
  have digits := @all_isDigit_toDigits d.digits
  have value := @digitsValue_toDigits d.digits
  rw [shape, List.all_cons, Bool.and_eq_true] at digits
  rw [shape] at value
  have split : fixedPoint [c] tail * 10 ^ tail.length = d.digits := by
    have joined : digitsValue (c :: tail)
        = digitsValue [c] * 10 ^ tail.length + digitsValue tail := by
      change Nat.ofDigitChars 10 ([c] ++ tail) 0 = _
      rw [Nat.ofDigitChars_append, Nat.ofDigitChars_eq_ofDigitChars_zero, Nat.mul_comm]
      rfl
    rw [← value, joined, fixedPoint]
    push_cast
    field_simp
  have scaled : fixedPoint [c] tail * 10 ^ (d.exponent + ((tail.length + 1 : ℕ) : ℤ) - 1)
      = d.value := by
    have exponent : d.exponent + ((tail.length + 1 : ℕ) : ℤ) - 1 = tail.length + d.exponent := by
      push_cast
      ring
    rw [exponent, DecimalDigits.value, ← split, zpow_add₀ (by norm_num), zpow_natCast, mul_assoc]
  have first : [c].all isDigit = true := by simpa using digits.1
  unfold exponentText
  simp only [shape, List.length_cons, List.take_succ_cons, List.take_zero, List.drop_succ_cons,
    List.drop_zero]
  generalize d.exponent + ((tail.length + 1 : ℕ) : ℤ) - 1 = e at scaled ⊢
  split
  · rename_i one
    obtain rfl : tail = [] := List.length_eq_zero_iff.mp (by omega)
    rw [List.append_nil, unsignedDecimal?_of_whole (List.cons_ne_nil c []) first
      (by simp; decide), exponentFactor?_of_exponent, Option.map_some, scaled]
  · have read := @unsignedDecimal?_of_fraction [c] tail
      ('e' :: (if e < 0 then '-' else '+') :: Nat.toDigits 10 e.natAbs) (List.cons_ne_nil c [])
      first digits.2 (by simp; decide)
    rw [exponentFactor?_of_exponent, Option.map_some, scaled] at read
    simpa using read

theorem unsignedDecimal?_decimalText : unsignedDecimal? (decimalText d) = some d.value := by
  unfold decimalText
  dsimp only
  split
  · exact unsignedDecimal?_plainText
  · exact unsignedDecimal?_exponentText

end

end

end AcbuBackend.Runtime
