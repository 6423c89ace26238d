import AcbuBackend.Json.Text

/-! The hexadecimal and the base64 text of bytes, and how a `Buffer` reads such texts.
It reads more than it writes: digits of either case, other alphabets, and texts with a rest that it
passes over.
-/

namespace AcbuBackend.Encryption

abbrev Bytes := List UInt8

-- Hexadecimal

def hexByte (byte : UInt8) : List Char :=
  [Nat.digitChar (byte.toNat / 16), Nat.digitChar (byte.toNat % 16)]

/-- `bytes.toString("hex")`. -/
def hexText (bytes : Bytes) : List Char :=
  bytes.flatMap hexByte

/-- `Buffer.from(text, "hex")`, which ends at the first pair that is not two digits. -/
def hexBytes : List Char → Bytes
  | high :: low :: rest =>
      match Json.hexValue? high, Json.hexValue? low with
      | some high, some low => UInt8.ofNat (16 * high + low) :: hexBytes rest
      | _, _ => []
  | _ => []

theorem hexDigit_facts
    : ∀ n < 16, Json.hexValue? (Nat.digitChar n) = some n ∧ Nat.digitChar n ≠ ':' := by
  decide

theorem byte_lt (byte : UInt8) : byte.toNat < 256 :=
  byte.toNat_lt

theorem hexBytes_hexText (bytes : Bytes) : hexBytes (hexText bytes) = bytes := by
  induction bytes with
  | nil => rfl
  | cons byte bytes ih =>
      have below := byte_lt byte
      have high := (hexDigit_facts (byte.toNat / 16) (by omega)).1
      have low := (hexDigit_facts (byte.toNat % 16) (by omega)).1
      change hexBytes (Nat.digitChar _ :: Nat.digitChar _ :: hexText bytes) = _
      rw [hexBytes, high, low]
      dsimp only
      rw [Nat.div_add_mod, UInt8.ofNat_toNat, ih]

theorem length_hexText (bytes : Bytes) : (hexText bytes).length = 2 * bytes.length := by
  induction bytes with
  | nil => rfl
  | cons byte bytes ih =>
      change (hexText bytes).length + 2 = _
      rw [ih, List.length_cons]
      omega

theorem colon_not_mem_hexText (bytes : Bytes) : ':' ∉ hexText bytes := by
  intro member
  obtain ⟨byte, -, inByte⟩ := List.mem_flatMap.mp member
  have below := byte_lt byte
  rcases List.mem_cons.mp inByte with high | low
  · exact (hexDigit_facts _ (by omega)).2 high.symm
  · exact (hexDigit_facts _ (by omega)).2 (List.mem_singleton.mp low).symm

-- Base64

def base64Alphabet : List Char :=
  "ABCDEFGHIJKLMNOPQRSTUVWXYZabcdefghijklmnopqrstuvwxyz0123456789+/".toList

def base64Digit (sextet : Nat) : Char :=
  base64Alphabet[sextet]?.getD 'A'

/-- `bytes.toString("base64")`. -/
def base64Text : Bytes → List Char
  | first :: second :: third :: rest =>
      let n := 65536 * first.toNat + 256 * second.toNat + third.toNat
      base64Digit (n / 262144) :: base64Digit (n / 4096 % 64) :: base64Digit (n / 64 % 64)
        :: base64Digit (n % 64) :: base64Text rest
  | [first, second] =>
      let n := 1024 * first.toNat + 4 * second.toNat
      [base64Digit (n / 4096), base64Digit (n / 64 % 64), base64Digit (n % 64), '=']
  | [first] =>
      let n := 16 * first.toNat
      [base64Digit (n / 64), base64Digit (n % 64), '=', '=']
  | [] => []

/-- The value of a digit, also of the alphabet for URLs. -/
def sextet? (c : Char) : Option Nat :=
  if 'A' ≤ c ∧ c ≤ 'Z' then some (c.toNat - 65)
  else if 'a' ≤ c ∧ c ≤ 'z' then some (c.toNat - 71)
  else if '0' ≤ c ∧ c ≤ '9' then some (c.toNat + 4)
  else if c = '+' ∨ c = '-' then some 62
  else if c = '/' ∨ c = '_' then some 63
  else none

def sextetBytes : List Nat → Bytes
  | a :: b :: c :: d :: rest =>
      let n := 262144 * a + 4096 * b + 64 * c + d
      UInt8.ofNat (n / 65536) :: UInt8.ofNat (n / 256 % 256) :: UInt8.ofNat (n % 256)
        :: sextetBytes rest
  | [a, b, c] =>
      let n := 4096 * a + 64 * b + c
      [UInt8.ofNat (n / 1024), UInt8.ofNat (n / 4 % 256)]
  | [a, b] => [UInt8.ofNat ((64 * a + b) / 16)]
  | _ => []

/-- `Buffer.from(text, "base64")`, which ends at the first padding and passes over what is no
digit.
-/
def base64Bytes (text : List Char) : Bytes :=
  sextetBytes ((text.takeWhile (· ≠ '=')).filterMap sextet?)

example : base64Bytes "-_-_ YQ\n==YQ==".toList = [251, 255, 191, 97] := by decide

theorem base64Digit_facts
    : ∀ n < 64, sextet? (base64Digit n) = some n ∧ base64Digit n ≠ '=' ∧ base64Digit n ≠ ':' := by
  decide +kernel

def sextets (text : List Char) : List Nat :=
  (text.takeWhile (· ≠ '=')).filterMap sextet?

theorem sextets_digit {n : Nat} {text : List Char} (small : n < 64)
    : sextets (base64Digit n :: text) = n :: sextets text := by
  obtain ⟨value, digit, -⟩ := base64Digit_facts n small
  rw [sextets, List.takeWhile_cons_of_pos (by simpa using digit), List.filterMap_cons_some value]
  rfl

theorem sextets_padding {text : List Char} : sextets ('=' :: text) = [] := by
  rw [sextets, List.takeWhile_cons_of_neg (by simp)]
  rfl

theorem base64Bytes_base64Text (bytes : Bytes) : base64Bytes (base64Text bytes) = bytes := by
  change sextetBytes (sextets (base64Text bytes)) = bytes
  induction bytes using base64Text.induct with
  | case1 first second third rest ih =>
      have := byte_lt first
      have := byte_lt second
      have := byte_lt third
      rw [base64Text]
      generalize whole : 65536 * first.toNat + 256 * second.toNat + third.toNat = n
      rw [sextets_digit (by omega), sextets_digit (by omega), sextets_digit (by omega),
        sextets_digit (by omega), sextetBytes, ih]
      have joined : 262144 * (n / 262144) + 4096 * (n / 4096 % 64) + 64 * (n / 64 % 64) + n % 64
          = n := by omega
      have parts : n / 65536 = first.toNat ∧ n / 256 % 256 = second.toNat
          ∧ n % 256 = third.toNat := by omega
      simp only [joined, parts, UInt8.ofNat_toNat]
  | case2 first second =>
      have := byte_lt first
      have := byte_lt second
      rw [base64Text]
      generalize whole : 1024 * first.toNat + 4 * second.toNat = n
      rw [sextets_digit (by omega), sextets_digit (by omega), sextets_digit (by omega),
        sextets_padding, sextetBytes]
      have joined : 4096 * (n / 4096) + 64 * (n / 64 % 64) + n % 64 = n := by omega
      have parts : n / 1024 = first.toNat ∧ n / 4 % 256 = second.toNat := by omega
      simp only [joined, parts, UInt8.ofNat_toNat]
  | case3 first =>
      have := byte_lt first
      rw [base64Text]
      generalize whole : 16 * first.toNat = n
      rw [sextets_digit (by omega), sextets_digit (by omega), sextets_padding, sextetBytes]
      have part : (64 * (n / 64) + n % 64) / 16 = first.toNat := by omega
      rw [part, UInt8.ofNat_toNat]
  | case4 => rfl

theorem colon_not_mem_base64Text (bytes : Bytes) : ':' ∉ base64Text bytes := by
  have digit : ∀ n < 64, ':' ≠ base64Digit n := fun n small => (base64Digit_facts n small).2.2.symm
  induction bytes using base64Text.induct with
  | case1 first second third rest ih =>
      have := byte_lt first
      have := byte_lt second
      have := byte_lt third
      simp only [base64Text, List.mem_cons, not_or]
      exact ⟨digit _ (by omega), digit _ (by omega), digit _ (by omega), digit _ (by omega), ih⟩
  | case2 first second =>
      have := byte_lt first
      have := byte_lt second
      simp only [base64Text, List.mem_cons, not_or]
      exact ⟨digit _ (by omega), digit _ (by omega), digit _ (by omega), by decide,
        List.not_mem_nil⟩
  | case3 first =>
      have := byte_lt first
      simp only [base64Text, List.mem_cons, not_or]
      exact ⟨digit _ (by omega), digit _ (by omega), by decide, by decide, List.not_mem_nil⟩
  | case4 => exact List.not_mem_nil

end AcbuBackend.Encryption
