import AcbuBackend.Runtime.Errors
import AcbuBackend.Runtime.Text

/-! What a handler reads of a request: monetary decimals, body fields, the caller and the idempotency
key. Decimal arithmetic is exact rational arithmetic.
-/

namespace AcbuBackend.Runtime

-- Monetary decimals

/-- The money rule shared by the request schemas: a plain decimal with at most seven
decimal places whose value is positive.
-/
def isMonetaryText (s : String) : Bool :=
  (plainDecimal? (trimChars s.toList)).any (fun value => 0 < value)

/-- `parseMonetaryString`. The inner checks all end in the one message of its `catch`. -/
def parseMonetaryString (value : String) (fieldName : String := "amount") : Except JsError ℚ :=
  let trimmed := trimChars value.toList
  match plainDecimal? trimmed with
  | none =>
      .error (.error s!"{fieldName} must be a positive number with up to 7 decimal places")
  | some decimal =>
      if decimal ≤ 0 then .error (.error s!"Invalid {fieldName}: {String.ofList trimmed}")
      else .ok decimal

def calculateFee (amount : ℚ) (feeBps : ℚ) : ℚ :=
  amount * feeBps / 10000

-- Requests

/-- A field of a JSON body. Of a value that is no string only `Number(value)` matters. -/
inductive BodyField
  | absent
  | text (value : String)
  | other (asNumber : JsNumber)

namespace BodyField

/-- `z.string()` followed by a check and a transformation of its text. -/
def string? (field : BodyField) (accepts : String → Bool) : Option String :=
  match field with
  | .text value => if accepts value then some value else none
  | _ => none

/-- `z.coerce.number()`. -/
def coerced : BodyField → JsNumber
  | .absent => .nan
  | .text value => jsNumber value
  | .other asNumber => asNumber

end BodyField

/-- `z.string().length(56).regex(/^G/)`. -/
def isWalletText (s : String) : Bool :=
  jsLength s = 56 && s.toList.head? = some 'G'

/-- The names of the fields a schema found no value for. -/
def invalidFields (fields : List (String × Bool)) : List String :=
  (fields.filter (fun field => !field.2)).map (·.1)

/-- The part of `req.apiKey` the modelled handlers read. -/
structure ApiKey where
  userId : Option String
  organizationId : Option String

/-- `req.apiKey?.userId`, an empty id being refused like a missing one. -/
def callerId? (apiKey : Option ApiKey) : Option String :=
  (apiKey.bind (·.userId)).filter (fun userId => userId ≠ "")

def idempotencyKeyMaxLength : Nat := 255

/-- `extractIdempotencyKey`, from the value of the `Idempotency-Key` header. -/
def extractIdempotencyKey (header : Option String) : Except JsError (Option String) :=
  match header with
  | none => .ok none
  | some rawKey =>
      let normalizedKey := jsTrim rawKey
      if jsLength normalizedKey = 0 then
        .error (appError "Idempotency-Key header must be a non-empty string" 400
          .VALIDATION_ERROR)
      else if idempotencyKeyMaxLength < jsLength normalizedKey then
        .error (appError
          s!"Idempotency-Key header exceeds maximum length of {idempotencyKeyMaxLength}" 400
          .VALIDATION_ERROR)
      else .ok (some normalizedKey)

/-- `scopeIdempotencyKey`. A digest is 64 characters long, and its slice never shorter than
the 32 that are kept of it.
-/
def scopeIdempotencyKey (sha256Hex : String → String) (userId rawKey : String) : String :=
  let scopedKey := s!"{userId}:{rawKey}"
  if jsLength scopedKey ≤ idempotencyKeyMaxLength then scopedKey
  else s!"{userId}:{String.ofList ((sha256Hex rawKey).toList.take 32)}"

/-- `BigInt(x.toString())`: only an integer below `1e21` is written without a point and
without an exponent.
-/
def toBigInt (x : ℚ) : Except JsError ℤ :=
  if x.den = 1 ∧ |x| < 10 ^ 21 then .ok x.num
  else .error (.error "Cannot convert to a BigInt")

theorem toBigInt_ok {x : ℚ} {n : ℤ} (h : toBigInt x = .ok n) : (n : ℚ) = x := by
  unfold toBigInt at h
  split at h
  · rename_i integral
    obtain rfl := Except.ok.inj h
    exact (Rat.den_eq_one_iff x).mp integral.1
  · cases h

end AcbuBackend.Runtime
