import AcbuBackend.Runtime.Errors
import AcbuBackend.Runtime.Text

/-! The rows of a bulk transfer: how its CSV file is read, and how a row is validated.
A file is given by its text.
-/

namespace AcbuBackend.Bulk

open AcbuBackend.Runtime

-- CSV

/-- The loop of `parseCsvLine`, with `current` and `inQuotes`. -/
def parseCsvChars : List Char → (current : String) → (inQuotes : Bool) → List String
  | [], current, _ => [current]
  | '"' :: '"' :: rest, current, true => parseCsvChars rest (current.push '"') true
  | '"' :: rest, current, inQuotes => parseCsvChars rest current (!inQuotes)
  | ',' :: rest, current, false => current :: parseCsvChars rest "" false
  | char :: rest, current, inQuotes => parseCsvChars rest (current.push char) inQuotes

def parseCsvLine (line : String) : List String :=
  parseCsvChars line.toList "" false

/-- `s.trimEnd()`. -/
def jsTrimEnd (s : String) : String :=
  String.ofList (s.toList.reverse.dropWhile isJsSpace).reverse

/-- A text without a byte order mark at its start. -/
def stripByteOrderMark (text : String) : String :=
  match text.toList with
  | c :: rest => if c.toNat = 65279 then String.ofList rest else text
  | [] => text

/-- The lines that are not blank. A carriage return before a line feed is trimmed with the rest. -/
def csvLines (text : String) : List String :=
  let lines := ((stripByteOrderMark text).toList.splitOn '\n').map
    (fun line => jsTrimEnd (String.ofList line))
  lines.filter (fun line => line ≠ "")

/-- A row as an object of its fields; a header that comes twice keeps its last value. -/
abbrev CsvRow := List (String × String)

def CsvRow.field (row : CsvRow) (header : String) : Option String :=
  row.reverse.lookup header

def csvRow (headers : List String) (line : String) : CsvRow :=
  let values := parseCsvLine line
  headers.zipIdx.map (fun (header, index) => (header, jsTrim ((values[index]?).getD "")))

def emptyCsv : JsError :=
  plainAppError "CSV file is empty or has no headers" 400

/-- `parseCsvBuffer`, with the headers. -/
def parseCsvTable (text : String) : Except JsError (List String × List CsvRow) :=
  match csvLines text with
  | [] => .error emptyCsv
  | first :: rest =>
      let headers := (parseCsvLine first).map jsTrim
      let missing := ["to", "amount_acbu"].filter (fun header => !headers.contains header)
      if missing = [] then .ok (headers, rest.map (csvRow headers))
      else .error (plainAppError ("CSV missing required headers: " ++ ", ".intercalate missing) 400)

/-- The rows. Nothing reads the headers. -/
def parseCsvBuffer (text : String) : Except JsError (List CsvRow) :=
  (parseCsvTable text).map Prod.snd

-- Validation

structure BulkTransferRowInput where
  recipient : String
  amount_acbu : String
  reference : Option String
  idempotency_key : Option String
deriving DecidableEq

/-- `/^\d+(\.\d{1,7})?$/.test(value) && Number(value) > 0`. -/
def isPositiveAmount (value : String) : Bool :=
  (plainDecimal? value.toList).any (fun amount => 0 < amount)

def rowIssues (recipient amount : String) : List String :=
  (if recipient = "" then ["to is required"] else [])
    ++ (if amount = "" then ["amount_acbu is required"] else [])
    ++ (if isPositiveAmount amount then []
        else ["amount_acbu must be a positive number with up to 7 decimal places"])

/-- `bulkTransferRowSchema.safeParse`, with the messages of its issues. -/
def safeParseRow (row : CsvRow) : Except (List String) BulkTransferRowInput :=
  let recipient := jsTrim ((row.field "to").getD "")
  let amount_acbu := jsTrim ((row.field "amount_acbu").getD "")
  match rowIssues recipient amount_acbu with
  | [] => .ok
      { recipient
        amount_acbu
        reference := (row.field "reference").map jsTrim
        idempotency_key := (row.field "idempotency_key").map jsTrim }
  | issues => .error issues

def deriveIdempotencyKey (sha256Hex : String → String)
    (organizationId recipient amountAcbu : String)
    (reference rowKey : Option String)
    : String :=
  sha256Hex
    ("|".intercalate [organizationId, recipient, amountAcbu, reference.getD "", rowKey.getD ""])

/-- The key of a row that fails the validation. -/
def rawRowKey (sha256Hex : String → String) (organizationId : String) (row : CsvRow) : String :=
  deriveIdempotencyKey sha256Hex organizationId ((row.field "to").getD "")
    ((row.field "amount_acbu").getD "") (row.field "reference") (row.field "idempotency_key")

def rowKey (sha256Hex : String → String) (organizationId : String) (row : BulkTransferRowInput)
    : String :=
  deriveIdempotencyKey sha256Hex organizationId row.recipient row.amount_acbu row.reference
    row.idempotency_key

example : parseCsvLine "a,\"b,\"\"c\"\"\",d" = ["a", "b,\"c\"", "d"] := by decide +kernel

end AcbuBackend.Bulk
