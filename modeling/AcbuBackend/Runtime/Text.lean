import Mathlib.Data.Rat.Floor
import Mathlib.Algebra.Order.Field.Rat
import Mathlib.Data.List.TakeWhile

/-! JavaScript strings and the numbers written in them. Numbers are exact rationals. -/

namespace AcbuBackend.Runtime

/-- The characters `String.prototype.trim` removes. -/
def isJsSpace (c : Char) : Bool :=
  [9, 10, 11, 12, 13, 32, 160, 5760, 8232, 8233, 8239, 8287, 12288, 65279].contains c.toNat
  || (8192 ≤ c.toNat && c.toNat ≤ 8202)

/-- `trim`, on the characters of a string. -/
def trimChars (cs : List Char) : List Char :=
  ((cs.dropWhile isJsSpace).reverse.dropWhile isJsSpace).reverse

/-- `s.trim()`. -/
def jsTrim (s : String) : String :=
  String.ofList (trimChars s.toList)

theorem mem_trimChars {cs : List Char} {c : Char} (member : c ∈ cs) (visible : isJsSpace c = false)
    : c ∈ trimChars cs := by
  have kept : ∀ {cs : List Char}, c ∈ cs → c ∈ cs.dropWhile isJsSpace := by
    intro cs member
    induction cs with
    | nil => cases member
    | cons head tail ih =>
        rw [List.dropWhile_cons]
        split
        · rename_i space
          rcases List.mem_cons.mp member with rfl | member
          · rw [visible] at space
            cases space
          · exact ih member
        · exact member
  unfold trimChars
  rw [List.mem_reverse]
  exact kept (List.mem_reverse.mpr (kept member))

theorem trimChars_eq_self {cs : List Char} (visible : ∀ c ∈ cs, isJsSpace c = false)
    : trimChars cs = cs := by
  have kept : ∀ {cs : List Char},
      (∀ c ∈ cs, isJsSpace c = false) → cs.dropWhile isJsSpace = cs := by
    intro cs visible
    cases cs with
    | nil => rfl
    | cons head tail => simp [visible head (by simp)]
  unfold trimChars
  rw [kept visible, kept (fun c member => visible c (List.mem_reverse.mp member)),
    List.reverse_reverse]

/-- `s.length`: the number of UTF-16 code units. -/
def jsLength (s : String) : Nat :=
  (s.toList.map (fun c => if c.toNat < 65536 then 1 else 2)).sum

/-- Upper case as far as it can produce an ASCII letter: besides `a` to `z`, the long s
and the dotless i have an ASCII capital.
-/
def jsUpperChar (c : Char) : Char :=
  if c.toNat = 383 then 'S' else if c.toNat = 305 then 'I' else c.toUpper

/-- `s.toUpperCase()`. -/
def jsToUpperCase (s : String) : String :=
  String.ofList (s.toList.map jsUpperChar)

/-- `\d`. -/
def isDigit (c : Char) : Bool :=
  '0' ≤ c && c ≤ '9'

def digitsValue (cs : List Char) : Nat :=
  cs.foldl (fun value c => 10 * value + (c.toNat - 48)) 0

/-- `parseInt(s, 10)`, `none` where that is not a number. -/
def jsParseInt (s : String) : Option Int :=
  let (sign, rest) : Int × List Char :=
    match s.toList.dropWhile isJsSpace with
    | '-' :: rest => (-1, rest)
    | '+' :: rest => (1, rest)
    | rest => (1, rest)
  let digits := rest.takeWhile isDigit
  if digits = [] then none else some (sign * digitsValue digits)

/-- The value of digits before and after a decimal point. -/
def fixedPoint (whole fraction : List Char) : ℚ :=
  digitsValue whole + digitsValue fraction / 10 ^ fraction.length

/-- The value of a text that matches `/^\d+(\.\d{1,7})?$/`. -/
def plainDecimal? (cs : List Char) : Option ℚ :=
  let whole := cs.takeWhile isDigit
  match cs.dropWhile isDigit with
  | [] => if whole = [] then none else some (fixedPoint whole [])
  | '.' :: fraction =>
      if whole ≠ [] ∧ fraction ≠ [] ∧ fraction.length ≤ 7 ∧ fraction.all isDigit
      then some (fixedPoint whole fraction)
      else none
  | _ => none

/-- A JavaScript number: `NaN`, an infinity, or a finite value taken exactly. -/
inductive JsNumber
  | nan
  | infinity (negative : Bool)
  | finite (value : ℚ)
deriving DecidableEq

namespace JsNumber

/-- `a > b` for a rational `b`. -/
def gt (a : JsNumber) (b : ℚ) : Bool :=
  match a with
  | .nan => false
  | .infinity negative => !negative
  | .finite value => b < value

/-- `a >= b` for a rational `b`. -/
def ge (a : JsNumber) (b : ℚ) : Bool :=
  match a with
  | .nan => false
  | .infinity negative => !negative
  | .finite value => b ≤ value

/-- `a * b`. -/
def mul : JsNumber → JsNumber → JsNumber
  | .finite a, .finite b => .finite (a * b)
  | .nan, _ => .nan
  | _, .nan => .nan
  | .infinity s, .infinity t => .infinity (s != t)
  | .infinity s, .finite b => if b = 0 then .nan else .infinity (s != (b < 0 : Bool))
  | .finite a, .infinity t => if a = 0 then .nan else .infinity ((a < 0 : Bool) != t)

end JsNumber

/-- The exponent part of a decimal literal, as a power of ten. -/
def exponentFactor? : List Char → Option ℚ
  | [] => some 1
  | e :: rest =>
      let (negative, digits) :=
        match rest with
        | '-' :: digits => (true, digits)
        | '+' :: digits => (false, digits)
        | digits => (false, digits)
      if (e = 'e' ∨ e = 'E') ∧ digits ≠ [] ∧ digits.all isDigit then
        some (if negative then 1 / 10 ^ digitsValue digits else 10 ^ digitsValue digits)
      else none

def unsignedDecimal? (cs : List Char) : Option ℚ :=
  let whole := cs.takeWhile isDigit
  let (fraction, rest) :=
    match cs.dropWhile isDigit with
    | '.' :: tail => (tail.takeWhile isDigit, tail.dropWhile isDigit)
    | tail => ([], tail)
  if whole = [] ∧ fraction = [] then none
  else (exponentFactor? rest).map (fun factor => fixedPoint whole fraction * factor)

def radixDigit? (radix : Nat) (c : Char) : Option Nat :=
  let digit :=
    if isDigit c then some (c.toNat - 48)
    else if 'a' ≤ c ∧ c ≤ 'f' then some (c.toNat - 87)
    else if 'A' ≤ c ∧ c ≤ 'F' then some (c.toNat - 55)
    else none
  digit.filter (fun value => value < radix)

/-- The value of a non-empty run of digits in `radix`. -/
def radixValue? (radix : Nat) (cs : List Char) : Option ℚ :=
  if cs = [] then none
  else
    cs.foldl
      (fun value c => value.bind (fun v => (radixDigit? radix c).map (fun d => v * radix + d)))
      (some (0 : ℚ))

/-- A literal without whitespace around it: decimal with a sign, infinite, or in radix 16,
8 or 2.
-/
def numericLiteral (cs : List Char) : JsNumber :=
  let finite (value : Option ℚ) : JsNumber := value.elim .nan .finite
  match cs with
  | [] => .finite 0
  | '0' :: x :: digits =>
      if x = 'x' ∨ x = 'X' then finite (radixValue? 16 digits)
      else if x = 'o' ∨ x = 'O' then finite (radixValue? 8 digits)
      else if x = 'b' ∨ x = 'B' then finite (radixValue? 2 digits)
      else finite (unsignedDecimal? cs)
  | '+' :: rest =>
      if rest = "Infinity".toList then .infinity false else finite (unsignedDecimal? rest)
  | '-' :: rest =>
      if rest = "Infinity".toList then .infinity true
      else finite ((unsignedDecimal? rest).map (fun value => -value))
  | _ => if cs = "Infinity".toList then .infinity false else finite (unsignedDecimal? cs)

/-- `Number(s)`. -/
def jsNumber (s : String) : JsNumber :=
  numericLiteral (trimChars s.toList)

/-- A one with zeros after it is written for its power of ten. -/
def powerText (k : Nat) : String :=
  String.ofList ('1' :: List.replicate k '0')

theorem jsNumber_powerText (k : Nat) : jsNumber (powerText k) = .finite (10 ^ k) := by
  have digits : ∀ c ∈ '1' :: List.replicate k '0', isDigit c = true := by
    intro c member
    rcases List.mem_cons.mp member with rfl | zero
    · decide
    · rw [List.eq_of_mem_replicate zero]
      decide
  have visible : ∀ c ∈ '1' :: List.replicate k '0', isJsSpace c = false := by
    intro c member
    rcases List.mem_cons.mp member with rfl | zero
    · decide
    · rw [List.eq_of_mem_replicate zero]
      decide
  have value : ∀ k start, (List.replicate k '0').foldl
    (fun value c => 10 * value + (c.toNat - 48)) start
      = 10 ^ k * start := by
    intro k
    induction k with
    | zero => simp
    | succ k ih =>
        intro start
        rw [List.replicate_succ, List.foldl_cons, ih]
        simp [pow_succ, mul_assoc]
  have whole : unsignedDecimal? ('1' :: List.replicate k '0') = some (10 ^ k) := by
    unfold unsignedDecimal?
    rw [List.takeWhile_eq_self_iff.mpr digits, List.dropWhile_eq_nil_iff.mpr digits]
    simp [exponentFactor?, fixedPoint, digitsValue, value]
  unfold jsNumber powerText
  rw [String.toList_ofList, trimChars_eq_self visible]
  unfold numericLiteral
  simp [whole]

example : jsNumber " 12.50e1 " = .finite 125 := by decide +kernel

example : jsNumber "0x1f" = .finite 31 := by decide +kernel

example : jsNumber "1,5" = .nan := by decide +kernel

end AcbuBackend.Runtime
