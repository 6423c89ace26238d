import AcbuBackend.Effects.Program

/-! Errors a request can end with. -/

namespace AcbuBackend.Runtime

/-- The error codes that the modelled functions raise. -/
inductive ErrorCode
  | BAD_REQUEST
  | NOT_FOUND
  | RAW_BODY_REQUIRED
  | MISSING_SIGNATURE
  | INVALID_SIGNATURE
  | CONFIG_ERROR
  | VALIDATION_ERROR
  | DEPOSIT_ONLY_BASKET_CURRENCIES
  | INVALID_CURRENCY
  | CIRCUIT_BREAKER
  | RATE_LIMIT_EXCEEDED
  | INTERNAL_ERROR
  | PRECONDITION_REQUIRED
  | PRECONDITION_FAILED
  | STELLAR_FEE_SURGE
  | INVALID_CREDENTIALS
  | TOO_MANY_ATTEMPTS
  | CAPTCHA_REQUIRED
  | INVALID_CODE
  | INVALID_OR_EXPIRED_CODE
  | INVALID_REFRESH_TOKEN
  | UNAUTHORIZED
  | FORBIDDEN
  | INVALID_CURSOR
deriving DecidableEq

/-- `AppError`. `details` holds the names of the request fields the error is about. -/
structure AppError where
  message : String
  statusCode : Nat
  code : ErrorCode
  details : List String := []
deriving DecidableEq

/-- The code an `AppError` gets when its constructor is not given one. -/
def fallbackCode (statusCode : Nat) : ErrorCode :=
  if statusCode = 429 then .RATE_LIMIT_EXCEEDED
  else if 500 ≤ statusCode then .INTERNAL_ERROR
  else .BAD_REQUEST

/-- `new AppError(message, statusCode)`. -/
def AppError.plain (message : String) (statusCode : Nat) : AppError :=
  { message, statusCode, code := fallbackCode statusCode }

/-- A thrown JavaScript value, as far as a `catch` distinguishes it. -/
inductive JsError
  | app (error : AppError)
  /-- `Prisma.PrismaClientKnownRequestError` with code `P2002`. -/
  | uniqueConstraint
  /-- Any other `Error`: a failed query, a failed contract call, a `TypeError`. -/
  | error (message : String)
deriving DecidableEq

/-- The message of a thrown value. -/
def JsError.message : JsError → String
  | .app e => e.message
  | .uniqueConstraint => "Unique constraint failed"
  | .error message => message

/-- `throw new AppError(message, statusCode, code, details)`. -/
def appError (message : String) (statusCode : Nat) (code : ErrorCode)
    (details : List String := [])
    : JsError :=
  .app { message, statusCode, code, details }

/-- `throw new AppError(message, statusCode)`. -/
def plainAppError (message : String) (statusCode : Nat) : JsError :=
  .app (.plain message statusCode)

end AcbuBackend.Runtime
