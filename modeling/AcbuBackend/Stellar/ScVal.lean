import AcbuBackend.Runtime.BigInt
import AcbuBackend.Runtime.Errors
import AcbuBackend.Runtime.Text
import Mathlib

/-! The values that contracts are called with: `toScVal`, `fromScVal`, and the round trip.
The Stellar SDK is a parameter.
-/

namespace AcbuBackend.Stellar

open AcbuBackend.Runtime

/-- What is used of the SDK. A parser throws where it has no value. -/
structure StellarSdk where
  Address : Type
  Uint64 : Type
  Int64 : Type
  /-- `Address.fromString(value).toScAddress()` -/
  addressFromString : String → Option Address
  /-- `Address.fromScVal(scVal).toString()` -/
  addressToString : Address → String
  uint64FromString : String → Except JsError Uint64
  int64FromString : String → Except JsError Int64
  uint64ToBigInt : Uint64 → ℤ
  int64ToBigInt : Int64 → ℤ

/-- The parts of 64 bits are kept, those outside are rejected, and an address is rendered as the
string it came from.
-/
structure StellarSdk.Lawful (sdk : StellarSdk) : Prop where
  address : ∀ s a, sdk.addressFromString s = some a → sdk.addressToString a = s
  uint64 : ∀ (n : ℤ) v, sdk.uint64FromString (toString n) = .ok v → sdk.uint64ToBigInt v = n
  uint64_ok : ∀ n : ℤ, (sdk.uint64FromString (toString n)).isOk = true ↔ 0 ≤ n ∧ n < 2 ^ 64
  int64 : ∀ (n : ℤ) v, sdk.int64FromString (toString n) = .ok v → sdk.int64ToBigInt v = n
  int64_ok : ∀ n : ℤ, (sdk.int64FromString (toString n)).isOk = true ↔ -2 ^ 63 ≤ n ∧ n < 2 ^ 63

/-- What `toScVal` is given. `other` is a value of a type that it does not support. -/
inductive ScValInput
  | string (value : String)
  | number (value : JsNumber)
  | bigint (value : ℤ)
  | boolean (value : Bool)
  | bytes (value : List UInt8)
  | array (values : List ScValInput)
  | other (typeof : String)

/-- `xdr.ScVal`. `other` are the kinds that `fromScVal` hands back as they are. -/
inductive ScVal (sdk : StellarSdk)
  | scvBool (b : Bool)
  | scvVoid
  | scvU32 (u32 : UInt32)
  | scvI32 (i32 : Int32)
  | scvU64 (u64 : sdk.Uint64)
  | scvI64 (i64 : sdk.Int64)
  | scvU128 (lo hi : sdk.Uint64)
  | scvI128 (lo : sdk.Uint64) (hi : sdk.Int64)
  | scvString (str : String)
  | scvBytes (bytes : List UInt8)
  | scvVec (vec : Option (List (ScVal sdk)))
  | scvAddress (address : sdk.Address)
  | other (xdr : String)

/-- What `fromScVal` reads. -/
inductive ScValPrimitive
  | boolean (value : Bool)
  | null
  | number (value : ℤ)
  | string (value : String)
  | bigint (value : ℤ)
  | bytes (value : List UInt8)
  | scVal (xdr : String)
  | array (values : List ScValPrimitive)

variable (sdk : StellarSdk)

/-- `BigInt(value)` of a number. -/
def bigIntOfNumber : JsNumber → Except JsError ℤ
  | .finite value =>
      if value.isInt then .ok value.num
      else .error (.error "The number cannot be converted to a BigInt because it is not an integer")
  | _ => .error (.error "The number cannot be converted to a BigInt because it is not an integer")

def bigIntToI128 (value : ℤ) : Except JsError (ScVal sdk) := do
  let lo := Int.land value 0xFFFFFFFFFFFFFFFF
  let hi := value >>> (64 : ℕ)
  let loPart ← sdk.uint64FromString (toString lo)
  let hiPart ← sdk.int64FromString (toString hi)
  pure (.scvI128 loPart hiPart)

/-- The pattern `^[GC][A-Z2-7]{55}$`. -/
def looksLikeAddress (value : String) : Bool :=
  match value.toList with
  | [] => false
  | first :: rest =>
      (first = 'G' || first = 'C') && rest.length = 55
        && rest.all (fun c => ('A' ≤ c && c ≤ 'Z') || ('2' ≤ c && c ≤ '7'))

/-- A string that does not parse as an address is a string. -/
def stringToScVal (value : String) : ScVal sdk :=
  if looksLikeAddress value then
    match sdk.addressFromString value with
    | some address => .scvAddress address
    | none => .scvString value
  else .scvString value

mutual

def toScVal : ScValInput → Except JsError (ScVal sdk)
  | .string value => .ok (stringToScVal sdk value)
  | .number value => (bigIntOfNumber value).bind (bigIntToI128 sdk)
  | .bigint value => bigIntToI128 sdk value
  | .boolean value => .ok (.scvBool value)
  | .bytes value => .ok (.scvBytes value)
  | .array values => (toScVals values).map (fun vec => .scvVec (some vec))
  | .other typeof => .error (.error s!"Unsupported value type: {typeof}")

def toScVals : List ScValInput → Except JsError (List (ScVal sdk))
  | [] => .ok []
  | value :: values => do
      let scVal ← toScVal value
      let scVals ← toScVals values
      pure (scVal :: scVals)

end

variable {sdk}

mutual

def fromScVal : ScVal sdk → ScValPrimitive
  | .scvBool b => .boolean b
  | .scvVoid => .null
  | .scvU32 u32 => .number u32.toNat
  | .scvI32 i32 => .number i32.toInt
  | .scvU64 u64 => .string (toString (sdk.uint64ToBigInt u64))
  | .scvI64 i64 => .string (toString (sdk.int64ToBigInt i64))
  | .scvU128 lo hi => .bigint (Int.lor (sdk.uint64ToBigInt hi <<< (64 : ℕ)) (sdk.uint64ToBigInt lo))
  | .scvI128 lo hi => .bigint (Int.lor (sdk.int64ToBigInt hi <<< (64 : ℕ)) (sdk.uint64ToBigInt lo))
  | .scvString str => .string str
  | .scvBytes bytes => .bytes bytes
  | .scvVec none => .array []
  | .scvVec (some vec) => .array (fromScVals vec)
  | .scvAddress address => .string (sdk.addressToString address)
  | .other xdr => .scVal xdr

def fromScVals : List (ScVal sdk) → List ScValPrimitive
  | [] => []
  | scVal :: scVals => fromScVal scVal :: fromScVals scVals

end

-- The round trip

/-- The integers that fit 128 bits with a sign. -/
def FitsI128 (value : ℤ) : Prop :=
  -2 ^ 127 ≤ value ∧ value < 2 ^ 127

/-- A value of the supported types, the integers of which fit, whatever lists it is nested in. -/
def Encodable : ScValInput → Prop
  | .string _ | .boolean _ | .bytes _ => True
  | .number value => ∃ n, bigIntOfNumber value = .ok n ∧ FitsI128 n
  | .bigint value => FitsI128 value
  | .array values => ∀ value ∈ values, Encodable value
  | .other _ => False

def asRead : ScValInput → ScValPrimitive
  | .string value => .string value
  | .number (.finite value) => .bigint value.num
  | .number _ => .null
  | .bigint value => .bigint value
  | .boolean value => .boolean value
  | .bytes value => .bytes value
  | .array values => .array (values.map asRead)
  | .other _ => .null

theorem mask_eq : (0xFFFFFFFFFFFFFFFF : ℤ) = 2 ^ 64 - 1 := by norm_num

theorem read_of_bigIntToI128 (lawful : sdk.Lawful) {value : ℤ} {scVal : ScVal sdk}
    (encoded : bigIntToI128 sdk value = .ok scVal)
    : FitsI128 value ∧ fromScVal scVal = .bigint value := by
  simp only [bigIntToI128, mask_eq] at encoded
  cases low : sdk.uint64FromString (toString (Int.land value (2 ^ 64 - 1))) with
  | error _ => rw [low] at encoded; cases encoded
  | ok lo =>
      cases high : sdk.int64FromString (toString (value >>> (64 : ℕ))) with
      | error _ => rw [low, high] at encoded; cases encoded
      | ok hi =>
          rw [low, high] at encoded
          obtain rfl := Except.ok.inj encoded
          have inRange := (lawful.int64_ok (value >>> (64 : ℕ))).mp (by rw [high]; rfl)
          refine ⟨(shiftRight_range value 64 63).mp inRange, ?_⟩
          rw [fromScVal, lawful.int64 _ _ high, lawful.uint64 _ _ low, lor_shiftRight_land]

theorem exists_bigIntToI128 (lawful : sdk.Lawful) {value : ℤ} (fits : FitsI128 value)
    : ∃ scVal, bigIntToI128 sdk value = .ok scVal := by
  have low : (sdk.uint64FromString (toString (Int.land value (2 ^ 64 - 1)))).isOk = true := by
    rw [lawful.uint64_ok, land_two_pow_sub_one]
    exact ⟨Int.emod_nonneg _ (by norm_num), Int.emod_lt_of_pos _ (by norm_num)⟩
  have high : (sdk.int64FromString (toString (value >>> (64 : ℕ)))).isOk = true := by
    rw [lawful.int64_ok]
    exact (shiftRight_range value 64 63).mpr fits
  simp only [bigIntToI128, mask_eq]
  cases lo : sdk.uint64FromString (toString (Int.land value (2 ^ 64 - 1))) with
  | error _ => rw [lo] at low; cases low
  | ok _ =>
      cases hi : sdk.int64FromString (toString (value >>> (64 : ℕ))) with
      | error _ => rw [hi] at high; cases high
      | ok _ => exact ⟨_, rfl⟩

theorem fromScVal_stringToScVal (lawful : sdk.Lawful) (value : String)
    : fromScVal (stringToScVal sdk value) = .string value := by
  unfold stringToScVal
  split
  · split
    · rename_i address parsed
      rw [fromScVal, lawful.address _ _ parsed]
    · rw [fromScVal]
  · rw [fromScVal]

theorem asRead_number {value : JsNumber} {n : ℤ} (integer : bigIntOfNumber value = .ok n)
    : asRead (.number value) = .bigint n := by
  cases value with
  | finite q =>
      rw [bigIntOfNumber] at integer
      split at integer
      · rw [asRead, Except.ok.inj integer]
      · cases integer
  | _ => cases integer

mutual

theorem read_of_ok (lawful : sdk.Lawful) (x : ScValInput) (scVal : ScVal sdk)
    (encoded : toScVal sdk x = .ok scVal)
    : Encodable x ∧ fromScVal scVal = asRead x := by
  match x with
  | .string value =>
      rw [toScVal] at encoded
      obtain rfl := Except.ok.inj encoded
      exact ⟨by rw [Encodable]; trivial, by rw [fromScVal_stringToScVal lawful, asRead]⟩
  | .number value =>
      rw [toScVal] at encoded
      cases integer : bigIntOfNumber value with
      | error _ => rw [integer] at encoded; cases encoded
      | ok n =>
          rw [integer] at encoded
          obtain ⟨fits, read⟩ := read_of_bigIntToI128 lawful encoded
          exact ⟨by rw [Encodable]; exact ⟨n, integer, fits⟩, read.trans (asRead_number integer).symm⟩
  | .bigint value =>
      rw [toScVal] at encoded
      rw [Encodable, asRead]
      exact read_of_bigIntToI128 lawful encoded
  | .boolean value | .bytes value =>
      rw [toScVal] at encoded
      obtain rfl := Except.ok.inj encoded
      exact ⟨by rw [Encodable]; trivial, by rw [fromScVal, asRead]⟩
  | .array values =>
      rw [toScVal] at encoded
      cases vec : toScVals sdk values with
      | error _ => rw [vec] at encoded; cases encoded
      | ok scVals =>
          rw [vec] at encoded
          obtain rfl := Except.ok.inj encoded
          obtain ⟨encodable, read⟩ := reads_of_ok lawful values scVals vec
          exact ⟨by rw [Encodable]; exact encodable, by rw [fromScVal, read, asRead]⟩
  | .other typeof =>
      rw [toScVal] at encoded
      cases encoded

theorem reads_of_ok (lawful : sdk.Lawful) (values : List ScValInput) (scVals : List (ScVal sdk))
    (encoded : toScVals sdk values = .ok scVals)
    : (∀ value ∈ values, Encodable value) ∧ fromScVals scVals = values.map asRead := by
  match values with
  | [] =>
      rw [toScVals] at encoded
      obtain rfl := Except.ok.inj encoded
      exact ⟨by simp, by rw [fromScVals]; rfl⟩
  | value :: values =>
      rw [toScVals] at encoded
      cases first : toScVal sdk value with
      | error _ => rw [first] at encoded; cases encoded
      | ok scVal =>
          cases others : toScVals sdk values with
          | error _ => rw [first, others] at encoded; cases encoded
          | ok rest =>
              rw [first, others] at encoded
              obtain rfl := Except.ok.inj encoded
              obtain ⟨encodable, read⟩ := read_of_ok lawful value scVal first
              obtain ⟨encodables, reads⟩ := reads_of_ok lawful values rest others
              exact ⟨List.forall_mem_cons.mpr ⟨encodable, encodables⟩,
                by rw [fromScVals, read, reads, List.map_cons]⟩

end

mutual

theorem exists_toScVal (lawful : sdk.Lawful) (x : ScValInput) (encodable : Encodable x)
    : ∃ scVal, toScVal sdk x = .ok scVal := by
  match x with
  | .string value | .boolean value | .bytes value => exact ⟨_, by rw [toScVal]⟩
  | .number value =>
      rw [Encodable] at encodable
      obtain ⟨n, integer, fits⟩ := encodable
      rw [toScVal, integer]
      exact exists_bigIntToI128 lawful fits
  | .bigint value =>
      rw [Encodable] at encodable
      rw [toScVal]
      exact exists_bigIntToI128 lawful encodable
  | .array values =>
      rw [Encodable] at encodable
      obtain ⟨vec, encoded⟩ := exists_toScVals lawful values encodable
      exact ⟨_, by rw [toScVal, encoded]; rfl⟩
  | .other typeof =>
      rw [Encodable] at encodable
      exact encodable.elim

theorem exists_toScVals (lawful : sdk.Lawful) (values : List ScValInput)
    (encodable : ∀ value ∈ values, Encodable value)
    : ∃ scVals, toScVals sdk values = .ok scVals := by
  match values with
  | [] => exact ⟨_, by rw [toScVals]⟩
  | value :: values =>
      obtain ⟨first, rest⟩ := List.forall_mem_cons.mp encodable
      obtain ⟨scVal, encoded⟩ := exists_toScVal lawful value first
      obtain ⟨scVals, encodeds⟩ := exists_toScVals lawful values rest
      exact ⟨_, by rw [toScVals, encoded, encodeds]; rfl⟩

end

/-- A value is encoded exactly if all its integers fit, and is read back as it was, with its
integers as bigints.
-/
theorem scVal_round_trip (lawful : sdk.Lawful) (x : ScValInput)
    : ((∃ scVal, toScVal sdk x = .ok scVal) ↔ Encodable x)
      ∧ ∀ scVal, toScVal sdk x = .ok scVal → fromScVal scVal = asRead x :=
  ⟨⟨fun ⟨scVal, encoded⟩ => (read_of_ok lawful x scVal encoded).1, exists_toScVal lawful x⟩,
    fun scVal encoded => (read_of_ok lawful x scVal encoded).2⟩

/-- An integer from its decimal digits, if it is in a range. -/
def parsePart (least bound : ℤ) (s : String) : Except JsError ℤ :=
  match s.toInt? with
  | some n => if least ≤ n ∧ n < bound then .ok n else .error (.error "out of range")
  | none => .error (.error "not an integer")

theorem parsePart_toString {least bound n v : ℤ}
    (parsed : parsePart least bound (toString n) = .ok v)
    : (least ≤ n ∧ n < bound) ∧ v = n := by
  have read : (toString n).toInt? = some n := Int.toInt?_repr n
  simp only [parsePart, read] at parsed
  split at parsed
  · rename_i inRange
    exact ⟨inRange, (Except.ok.inj parsed).symm⟩
  · cases parsed

theorem parsePart_isOk {least bound n : ℤ}
    : (parsePart least bound (toString n)).isOk = true ↔ least ≤ n ∧ n < bound := by
  have read : (toString n).toInt? = some n := Int.toInt?_repr n
  simp only [parsePart, read]
  split
  · rename_i inRange
    exact ⟨fun _ => inRange, fun _ => rfl⟩
  · rename_i outside
    exact ⟨(nomatch ·), fun inRange => absurd inRange outside⟩

/-- The address of the account whose key is all zeros. -/
def address : String :=
  "G" ++ String.ofList (List.replicate 52 'A') ++ "WHF"

def sampleSdk : StellarSdk where
  Address := String
  Uint64 := ℤ
  Int64 := ℤ
  addressFromString s := if s = address then some s else none
  addressToString := id
  uint64FromString s := parsePart 0 (2 ^ 64) s
  int64FromString s := parsePart (-2 ^ 63) (2 ^ 63) s
  uint64ToBigInt := id
  int64ToBigInt := id

theorem sampleSdk_lawful : sampleSdk.Lawful where
  address s a parsed := by
    simp only [sampleSdk] at parsed ⊢
    split at parsed
    · exact (Option.some.inj parsed).symm
    · cases parsed
  uint64 n v parsed := (parsePart_toString parsed).2
  uint64_ok n := parsePart_isOk
  int64 n v parsed := (parsePart_toString parsed).2
  int64_ok n := parsePart_isOk

theorem scVal_round_trip_sample
    : ((∃ scVal, toScVal sampleSdk (.array [.string address, .bigint (-2 ^ 127)]) = .ok scVal)
        ↔ Encodable (.array [.string address, .bigint (-2 ^ 127)]))
      ∧ ∀ scVal, toScVal sampleSdk (.array [.string address, .bigint (-2 ^ 127)]) = .ok scVal →
          fromScVal scVal = asRead (.array [.string address, .bigint (-2 ^ 127)]) :=
  scVal_round_trip sampleSdk_lawful _

end AcbuBackend.Stellar
