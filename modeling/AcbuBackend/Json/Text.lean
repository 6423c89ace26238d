import AcbuBackend.Runtime.Text

/-! JSON values, how they are written and how they are read.
A number is an exact rational, and its text is a parameter. An escaped surrogate without its other
half is read as the replacement character.
-/

namespace AcbuBackend.Json

open AcbuBackend.Runtime

inductive Value
  | null
  | bool (value : Bool)
  | number (value : ℚ)
  | string (text : String)
  | array (elements : List Value)
  | object (members : List (String × Value))

/-- A property of an object; a key that comes twice has its last value. -/
def Value.field? : Value → String → Option Value
  | .object members, key => members.reverse.lookup key
  | _, _ => none

-- Writing

/-- The characters with an escape of two characters, and the second of these. -/
def shortEscapes : List (Char × Char) :=
  [('"', '"'), ('\\', '\\'), ('\x08', 'b'), ('\x0c', 'f'), ('\n', 'n'), ('\r', 'r'), ('\t', 't')]

/-- A character between the quotes of a string. -/
def escapeChar (c : Char) : List Char :=
  match shortEscapes.lookup c with
  | some escaped => ['\\', escaped]
  | none =>
      if c.toNat < 32 then ['\\', 'u', '0', '0', Nat.digitChar (c.toNat / 16),
        Nat.digitChar (c.toNat % 16)]
      else [c]

def writeString (text : String) : List Char :=
  '"' :: (text.toList.flatMap escapeChar ++ ['"'])

def commaSeparated : List (List Char) → List Char
  | [] => []
  | [text] => text
  | text :: texts => text ++ ',' :: commaSeparated texts

section

variable (numberText : ℚ → List Char)

mutual

/-- `JSON.stringify`. -/
def stringify : Value → List Char
  | .null => ['n', 'u', 'l', 'l']
  | .bool true => ['t', 'r', 'u', 'e']
  | .bool false => ['f', 'a', 'l', 's', 'e']
  | .number value => numberText value
  | .string text => writeString text
  | .array elements => '[' :: (commaSeparated (stringifyElements elements) ++ [']'])
  | .object members => '{' :: (commaSeparated (stringifyMembers members) ++ ['}'])

def stringifyElements : List Value → List (List Char)
  | [] => []
  | element :: elements => stringify element :: stringifyElements elements

def stringifyMembers : List (String × Value) → List (List Char)
  | [] => []
  | (key, value) :: members =>
      (writeString key ++ ':' :: stringify value) :: stringifyMembers members

end

end

-- Reading

def isWhitespace (c : Char) : Bool :=
  c = ' ' || c = '\t' || c = '\n' || c = '\r'

def skipWhitespace (text : List Char) : List Char :=
  text.dropWhile isWhitespace

def hexValue? (c : Char) : Option Nat :=
  if '0' ≤ c ∧ c ≤ '9' then some (c.toNat - 48)
  else if 'a' ≤ c ∧ c ≤ 'f' then some (c.toNat - 87)
  else if 'A' ≤ c ∧ c ≤ 'F' then some (c.toNat - 55)
  else none

/-- The code unit of an escape `\uabcd`. -/
def codeUnit? (a b c d : Char) : Option Nat := do
  let a ← hexValue? a
  let b ← hexValue? b
  let c ← hexValue? c
  let d ← hexValue? d
  return 4096 * a + 256 * b + 16 * c + d

/-- What the second character of a short escape stands for. A slash may be escaped as well. -/
def unescape? (escaped : Char) : Option Char :=
  (('/', '/') :: shortEscapes.map Prod.swap).lookup escaped

/-- A string up to its closing quote, by the codes of its characters and escapes. -/
def parseCodes : List Char → Option (List Nat × List Char)
  | [] => none
  | '"' :: rest => some ([], rest)
  | '\\' :: 'u' :: a :: b :: c :: d :: rest =>
      (codeUnit? a b c d).bind (fun code => (parseCodes rest).map (Prod.map (code :: ·) id))
  | '\\' :: escaped :: rest =>
      (unescape? escaped).bind (fun c => (parseCodes rest).map (Prod.map (c.toNat :: ·) id))
  | c :: rest => if c.toNat < 32 then none else (parseCodes rest).map (Prod.map (c.toNat :: ·) id)

def isHighSurrogate (code : Nat) : Bool :=
  55296 ≤ code && code < 56320

def isLowSurrogate (code : Nat) : Bool :=
  56320 ≤ code && code < 57344

/-- The character of a code that is not half of another one. -/
def charOfCode (code : Nat) : Char :=
  if isHighSurrogate code || isLowSurrogate code then '\uFFFD' else Char.ofNat code

def joinCodes : List Nat → List Char
  | [] => []
  | [code] => [charOfCode code]
  | code :: next :: rest =>
      if isHighSurrogate code && isLowSurrogate next then
        Char.ofNat (65536 + 1024 * (code - 55296) + (next - 56320)) :: joinCodes rest
      else charOfCode code :: joinCodes (next :: rest)

/-- A string behind its opening quote. -/
def parseString (text : List Char) : Option (String × List Char) :=
  (parseCodes text).map (fun (codes, rest) => (String.ofList (joinCodes codes), rest))

example : parseString "\\u00e9 \\ud83d\\ude00\\/\", 1".toList = some ("é 😀/", ", 1".toList) := by
  decide +kernel

def parseFraction : List Char → Option (List Char × List Char)
  | '.' :: text =>
      if text.takeWhile isDigit = [] then none else some
        (text.takeWhile isDigit, text.dropWhile isDigit)
  | text => some ([], text)

/-- The exponent of a number, behind its sign. -/
def parseExponentDigits (text : List Char) : Option (Nat × List Char) :=
  if text.takeWhile isDigit = [] then none
  else some (digitsValue (text.takeWhile isDigit), text.dropWhile isDigit)

/-- The factor that an exponent stands for. -/
def parseExponent : List Char → Option (ℚ × List Char)
  | e :: text =>
      if e = 'e' ∨ e = 'E' then
        match text with
        | '-' :: text => (parseExponentDigits text).map (Prod.map (fun n => 1 / 10 ^ n) id)
        | '+' :: text => (parseExponentDigits text).map (Prod.map (fun n => 10 ^ n) id)
        | _ => (parseExponentDigits text).map (Prod.map (fun n => 10 ^ n) id)
      else some (1, e :: text)
  | [] => some (1, [])

/-- A number without its sign. No zero comes before another digit. -/
def parseUnsigned (text : List Char) : Option (ℚ × List Char) :=
  let whole := text.takeWhile isDigit
  if whole = [] ∨ whole.head? = some '0' ∧ whole ≠ ['0'] then none
  else
    (parseFraction (text.dropWhile isDigit)).bind (fun (fraction, rest) =>
      (parseExponent rest).map (Prod.map (fixedPoint whole fraction * ·) id))

def parseNumber : List Char → Option (ℚ × List Char)
  | '-' :: text => (parseUnsigned text).map (Prod.map (- ·) id)
  | text => parseUnsigned text

example : parseNumber "-2.5e1]".toList = some (-25, [']']) := by decide +kernel

def parseScalar : List Char → Option (Value × List Char)
  | 'n' :: 'u' :: 'l' :: 'l' :: rest => some (.null, rest)
  | 't' :: 'r' :: 'u' :: 'e' :: rest => some (.bool true, rest)
  | 'f' :: 'a' :: 'l' :: 's' :: 'e' :: rest => some (.bool false, rest)
  | text => (parseNumber text).map (Prod.map .number id)

mutual

def parseValue : Nat → List Char → Option (Value × List Char)
  | 0, _ => none
  | fuel + 1, text =>
      match skipWhitespace text with
      | '"' :: rest => (parseString rest).map (Prod.map .string id)
      | '[' :: rest =>
          match skipWhitespace rest with
          | ']' :: rest => some (.array [], rest)
          | rest => (parseElements fuel rest).map (Prod.map .array id)
      | '{' :: rest =>
          match skipWhitespace rest with
          | '}' :: rest => some (.object [], rest)
          | rest => (parseMembers fuel rest).map (Prod.map .object id)
      | rest => parseScalar rest

/-- The elements of an array that is not empty, up to its closing bracket. -/
def parseElements : Nat → List Char → Option (List Value × List Char)
  | 0, _ => none
  | fuel + 1, text =>
      (parseValue fuel text).bind (fun (element, rest) =>
        match skipWhitespace rest with
        | ']' :: rest => some ([element], rest)
        | ',' :: rest => (parseElements fuel rest).map (Prod.map (element :: ·) id)
        | _ => none)

/-- The members of an object that is not empty, up to its closing brace. -/
def parseMembers : Nat → List Char → Option (List (String × Value) × List Char)
  | 0, _ => none
  | fuel + 1, text =>
      (parseMember fuel text).bind (fun (member, rest) =>
        match skipWhitespace rest with
        | '}' :: rest => some ([member], rest)
        | ',' :: rest => (parseMembers fuel rest).map (Prod.map (member :: ·) id)
        | _ => none)

def parseMember : Nat → List Char → Option ((String × Value) × List Char)
  | 0, _ => none
  | fuel + 1, text =>
      match skipWhitespace text with
      | '"' :: rest =>
          (parseString rest).bind (fun (key, rest) =>
            match skipWhitespace rest with
            | ':' :: rest => (parseValue fuel rest).map (Prod.map (fun value => (key, value)) id)
            | _ => none)
      | _ => none

end

/-- `JSON.parse`. A value takes at least one character of fuel, an element or a member two. -/
def parse (text : List Char) : Option Value :=
  match parseValue (2 * text.length + 1) text with
  | some (value, rest) => if skipWhitespace rest = [] then some value else none
  | none => none

end AcbuBackend.Json
