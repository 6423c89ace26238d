import AcbuBackend.Json.Text

/-! What is written as JSON is read back.
Strings come first, then numbers whose text reads back, then values by induction on their structure.
-/

namespace AcbuBackend.Json

open AcbuBackend.Runtime

-- Strings

theorem unescape_shortEscapes
    : ∀ escape ∈ shortEscapes, escape.2 ≠ 'u' ∧ unescape? escape.2 = some escape.1 := by
  decide

theorem codeUnit_control : ∀ n < 32,
    codeUnit? '0' '0' (Nat.digitChar (n / 16)) (Nat.digitChar (n % 16)) = some n := by
  decide

theorem plain_of_lookup {c : Char} (absent : shortEscapes.lookup c = none)
    : c ≠ '"' ∧ c ≠ '\\' := by
  constructor
  · rintro rfl
    cases absent
  · rintro rfl
    cases absent

theorem parseCodes_escapeChar (c : Char) (rest : List Char)
    : parseCodes (escapeChar c ++ rest) = (parseCodes rest).map (Prod.map (c.toNat :: ·) id) := by
  unfold escapeChar
  split
  · rename_i escaped found
    have member : (c, escaped) ∈ shortEscapes := by
      obtain ⟨before, after, split, -⟩ := List.lookup_eq_some_iff.mp found
      rw [split]
      exact List.mem_append_right _ List.mem_cons_self
    obtain ⟨short, known⟩ := unescape_shortEscapes _ member
    have step : parseCodes ('\\' :: escaped :: rest)
        = (unescape? escaped).bind (fun c => (parseCodes rest).map
          (Prod.map (c.toNat :: ·) id)) := by
      rw [parseCodes]
      exact fun _ _ _ _ _ same _ => absurd same short
    rw [List.cons_append, List.cons_append, List.nil_append, step, known]
    rfl
  · rename_i absent
    split
    · rename_i control
      simp only [List.cons_append, List.nil_append]
      rw [parseCodes, codeUnit_control c.toNat control]
      rfl
    · rename_i visible
      obtain ⟨quote, backslash⟩ := plain_of_lookup absent
      rw [List.cons_append, List.nil_append, parseCodes, if_neg visible]
      all_goals grind

theorem parseCodes_escaped (text rest : List Char)
    : parseCodes (text.flatMap escapeChar ++ '"' :: rest) = some (text.map Char.toNat, rest) := by
  induction text with
  | nil => rfl
  | cons c text ih =>
      rw [List.flatMap_cons, List.append_assoc, parseCodes_escapeChar, ih]
      rfl

theorem surrogate_toNat (c : Char)
    : isHighSurrogate c.toNat = false ∧ isLowSurrogate c.toNat = false := by
  have valid : c.toNat < 55296 ∨ 57343 < c.toNat ∧ c.toNat < 1114112 := c.valid
  unfold isHighSurrogate isLowSurrogate
  constructor <;> simp <;> omega

theorem charOfCode_toNat (c : Char) : charOfCode c.toNat = c := by
  obtain ⟨high, low⟩ := surrogate_toNat c
  rw [charOfCode, high, low]
  exact Char.ofNat_toNat c

theorem joinCodes_toNat (text : List Char) : joinCodes (text.map Char.toNat) = text := by
  induction text with
  | nil => rfl
  | cons c text ih =>
      cases text with
      | nil => exact congrArg (fun c => [c]) (charOfCode_toNat c)
      | cons next text =>
          rw [List.map_cons, List.map_cons, joinCodes, (surrogate_toNat c).1, Bool.false_and,
            if_neg (by decide), charOfCode_toNat]
          exact congrArg (c :: ·) ih

theorem parseString_writeString (text : String) (rest : List Char)
    : parseString (text.toList.flatMap escapeChar ++ '"' :: rest) = some (text, rest) := by
  rw [parseString, parseCodes_escaped]
  change some (String.ofList (joinCodes (text.toList.map Char.toNat)), rest) = some (text, rest)
  rw [joinCodes_toNat, String.ofList_toList]

-- Numbers

/-- A text that does not continue a number before it. -/
def EndsNumber (rest : List Char) : Prop :=
  ∀ c tail, rest = c :: tail → isDigit c = false ∧ c ≠ '.' ∧ c ≠ 'e' ∧ c ≠ 'E'

theorem endsNumber_nil : EndsNumber [] :=
  fun _ _ absurd => nomatch absurd

theorem endsNumber_cons {c : Char} {tail : List Char}
    (other : isDigit c = false ∧ c ≠ '.' ∧ c ≠ 'e' ∧ c ≠ 'E')
    : EndsNumber (c :: tail) := by
  rintro c' tail' same
  obtain ⟨rfl, -⟩ := List.cons.inj same
  exact other

/-- The text of a number is a number, and reads back. -/
structure Reads (numberText : ℚ → List Char) (value : ℚ) : Prop where
  head : ∃ c tail, numberText value = c :: tail ∧ (c = '-' ∨ isDigit c = true)
  read : ∀ rest, EndsNumber rest → parseNumber (numberText value ++ rest) = some (value, rest)

theorem takeWhile_of_endsNumber {digits rest : List Char} (all : ∀ c ∈ digits, isDigit c = true)
    (ends : EndsNumber rest)
    : (digits ++ rest).takeWhile isDigit = digits ∧ (digits ++ rest).dropWhile isDigit = rest := by
  have none : rest.takeWhile isDigit = [] ∧ rest.dropWhile isDigit = rest := by
    cases rest with
    | nil => exact ⟨rfl, rfl⟩
    | cons c tail =>
        have other := (ends c tail rfl).1
        exact ⟨by rw [List.takeWhile_cons, other]; rfl, by rw [List.dropWhile_cons, other]; rfl⟩
  rw [List.takeWhile_append_of_pos all, List.dropWhile_append_of_pos all, none.1, none.2,
    List.append_nil]
  exact ⟨rfl, rfl⟩

theorem parseNumber_digit {c : Char} (digit : isDigit c = true) {rest : List Char}
    (ends : EndsNumber rest)
    : parseNumber ([c] ++ rest) = some (((c.toNat - 48 : Nat) : ℚ), rest) := by
  obtain ⟨taken, left⟩ := @takeWhile_of_endsNumber [c] rest
    (fun c' member => by rw [List.mem_singleton.mp member]; exact digit) ends
  have fraction : parseFraction rest = some ([], rest) := by
    cases rest with
    | nil => rfl
    | cons c tail =>
        rw [parseFraction]
        exact fun text same => (ends c tail rfl).2.1 (List.cons.inj same).1
  have exponent : parseExponent rest = some (1, rest) := by
    cases rest with
    | nil => rfl
    | cons c tail =>
        obtain ⟨-, -, lower, upper⟩ := ends c tail rfl
        exact if_neg (not_or.mpr ⟨lower, upper⟩)
  have plain : parseNumber ([c] ++ rest) = parseUnsigned ([c] ++ rest) := by
    rw [List.singleton_append, parseNumber]
    rintro text same
    obtain ⟨rfl, -⟩ := List.cons.inj same
    cases digit
  rw [plain, parseUnsigned, taken, left]
  simp [fraction, exponent, fixedPoint, digitsValue]

-- Values

mutual

def Value.numbers : Value → List ℚ
  | .number value => [value]
  | .array elements => elementNumbers elements
  | .object members => memberNumbers members
  | _ => []

def elementNumbers : List Value → List ℚ
  | [] => []
  | element :: elements => element.numbers ++ elementNumbers elements

def memberNumbers : List (String × Value) → List ℚ
  | [] => []
  | (_, value) :: members => value.numbers ++ memberNumbers members

end

section

variable {numberText : ℚ → List Char}

theorem skipWhitespace_cons {c : Char} {text : List Char} (visible : isWhitespace c = false)
    : skipWhitespace (c :: text) = c :: text := by
  rw [skipWhitespace, List.dropWhile_cons, visible]
  rfl

theorem stringify_head {v : Value} (reads : ∀ q ∈ v.numbers, Reads numberText q)
    : ∃ c tail, stringify numberText v = c :: tail ∧ isWhitespace c = false ∧ c ≠ ']' := by
  cases v with
  | null => exact ⟨_, _, rfl, rfl, by decide⟩
  | bool value => cases value <;> exact ⟨_, _, rfl, rfl, by decide⟩
  | string text => exact ⟨_, _, rfl, rfl, by decide⟩
  | array elements => exact ⟨_, _, rfl, rfl, by decide⟩
  | object members => exact ⟨_, _, rfl, rfl, by decide⟩
  | number value =>
      obtain ⟨c, tail, starts, sign | digit⟩ := (reads value List.mem_cons_self).head
      · subst sign
        exact ⟨_, _, starts, rfl, by decide⟩
      · refine ⟨c, tail, starts, ?_, ?_⟩
        · unfold isWhitespace
          unfold isDigit at digit
          by_contra space
          simp only [Bool.not_eq_false, Bool.or_eq_true, decide_eq_true_eq] at space
          rcases space with ((rfl | rfl) | rfl) | rfl <;> cases digit
        · rintro rfl
          cases digit

theorem parseScalar_number {value : ℚ} {rest : List Char} (reads : Reads numberText value)
    (ends : EndsNumber rest)
    : parseScalar (numberText value ++ rest) = some (.number value, rest) := by
  obtain ⟨c, tail, starts, first⟩ := reads.head
  have other : c ≠ 'n' ∧ c ≠ 't' ∧ c ≠ 'f' := by
    refine ⟨?_, ?_, ?_⟩ <;> rintro rfl <;> rcases first with sign | digit <;> contradiction
  have scalar : parseScalar (numberText value ++ rest)
      = (parseNumber (numberText value ++ rest)).map (Prod.map .number id) := by
    rw [starts, List.cons_append, parseScalar]
    · exact fun _ same => absurd (List.cons.inj same).1 other.1
    · exact fun _ same => absurd (List.cons.inj same).1 other.2.1
    · exact fun _ same => absurd (List.cons.inj same).1 other.2.2
  rw [scalar, reads.read rest ends]
  rfl

theorem parseValue_scalar {n : Nat} {c : Char} {text : List Char} (visible : isWhitespace c = false)
    (quote : c ≠ '"') (bracket : c ≠ '[') (brace : c ≠ '{')
    : parseValue (n + 1) (c :: text) = parseScalar (c :: text) := by
  rw [parseValue, skipWhitespace_cons visible]
  split
  · rename_i same
    exact absurd (List.cons.inj same).1 quote
  · rename_i same
    exact absurd (List.cons.inj same).1 bracket
  · rename_i same
    exact absurd (List.cons.inj same).1 brace
  · rfl

theorem parseValue_string {n : Nat} {text : String} {rest : List Char}
    : parseValue (n + 1) (writeString text ++ rest) = some (.string text, rest) := by
  have starts : writeString text ++ rest = '"' :: (text.toList.flatMap escapeChar
      ++ '"' :: rest) := by
    simp [writeString]
  rw [starts, parseValue, skipWhitespace_cons rfl]
  change (parseString _).map _ = _
  rw [parseString_writeString]
  rfl

theorem parseValue_array {n : Nat} {text rest : List Char} {elements : List Value}
    (starts : ∃ c tail, text = c :: tail ∧ isWhitespace c = false ∧ c ≠ ']')
    (read : parseElements n text = some (elements, rest))
    : parseValue (n + 1) ('[' :: text) = some (.array elements, rest) := by
  obtain ⟨c, tail, rfl, visible, inside⟩ := starts
  unfold parseValue
  rw [skipWhitespace_cons rfl]
  split
  · rename_i same
    exact absurd (List.cons.inj same).1 (by decide)
  · rename_i opened same
    obtain rfl : c :: tail = opened := (List.cons.inj same).2
    rw [skipWhitespace_cons visible]
    split
    · rename_i same
      exact absurd (List.cons.inj same).1 inside
    · rw [read]
      rfl
  · rename_i same
    exact absurd (List.cons.inj same).1 (by decide)
  · rename_i bracket _
    exact absurd rfl (bracket (c :: tail))

theorem parseValue_object {n : Nat} {text rest : List Char} {members : List (String × Value)}
    (read : parseMembers n ('"' :: text) = some (members, rest))
    : parseValue (n + 1) ('{' :: '"' :: text) = some (.object members, rest) := by
  rw [parseValue, skipWhitespace_cons rfl]
  change (parseMembers n ('"' :: text)).map (Prod.map Value.object id) = _
  rw [read]
  rfl

theorem parseMember_of_value {n : Nat} {key : String} {value : Value} {text rest : List Char}
    (read : parseValue n text = some (value, rest))
    : parseMember (n + 1) (writeString key ++ ':' :: text) = some ((key, value), rest) := by
  have starts : writeString key ++ ':' :: text
      = '"' :: (key.toList.flatMap escapeChar ++ '"' :: ':' :: text) := by
    simp [writeString]
  rw [starts, parseMember, skipWhitespace_cons rfl]
  change (parseString (key.toList.flatMap escapeChar ++ '"' :: ':' :: text)).bind _ = _
  rw [parseString_writeString]
  change (parseValue n text).map (Prod.map (fun value => (key, value)) id) = _
  rw [read]
  rfl

theorem parseValue_number {n : Nat} {value : ℚ} {rest : List Char} (reads : Reads numberText value)
    (ends : EndsNumber rest)
    : parseValue (n + 1) (numberText value ++ rest) = some (.number value, rest) := by
  have scalar := parseScalar_number reads ends
  obtain ⟨c, tail, starts, first⟩ := reads.head
  obtain ⟨c', tail', starts', visible, -⟩ :=
    @stringify_head numberText (.number value) (by simpa [Value.numbers] using reads)
  obtain ⟨rfl, rfl⟩ := List.cons.inj (starts.symm.trans starts')
  rw [starts, List.cons_append] at scalar ⊢
  have other : c ≠ '"' ∧ c ≠ '[' ∧ c ≠ '{' := by
    refine ⟨?_, ?_, ?_⟩ <;> rintro rfl <;> rcases first with sign | digit <;> contradiction
  rw [parseValue_scalar visible other.1 other.2.1 other.2.2, scalar]

theorem commaSeparated_cons {text : List Char} {texts : List (List Char)} {closing : List Char}
    : ∃ tail, commaSeparated (text :: texts) ++ closing = text ++ tail := by
  cases texts with
  | nil => exact ⟨closing, rfl⟩
  | cons next texts =>
      exact ⟨',' :: (commaSeparated (next :: texts) ++ closing), by simp [commaSeparated]⟩

mutual

/-- A value is read back, by induction on its structure. -/
theorem parseValue_stringify (v : Value) (n : Nat) (rest : List Char)
    (reads : ∀ q ∈ v.numbers, Reads numberText q) (enough : 2 * (stringify numberText v).length ≤ n)
    (ends : EndsNumber rest)
    : parseValue n (stringify numberText v ++ rest) = some (v, rest) := by
  obtain ⟨c, tail, starts, -, -⟩ := stringify_head reads
  obtain ⟨n, rfl⟩ : ∃ m, n = m + 1 := by
    rw [starts, List.length_cons] at enough
    exact ⟨n - 1, by omega⟩
  match v with
  | .null => rfl
  | .bool true => rfl
  | .bool false => rfl
  | .string text => exact parseValue_string
  | .number value => exact parseValue_number (reads value List.mem_cons_self) ends
  | .array [] => rfl
  | .object [] => rfl
  | .array (element :: elements) =>
      have first : ∀ q ∈ element.numbers, Reads numberText q :=
        fun q member => reads q (List.mem_append_left _ member)
      have read := parseElements_stringify element elements n rest reads (by
        rw [stringify, List.length_cons, List.length_append, List.length_singleton] at enough
        omega)
      rw [stringify, List.cons_append, List.append_assoc, List.singleton_append]
      refine parseValue_array ?_ read
      obtain ⟨c, tail, starts, visible, inside⟩ := stringify_head first
      obtain ⟨others, text⟩ := @commaSeparated_cons (stringify numberText element)
        (stringifyElements numberText elements) (']' :: rest)
      exact ⟨c, tail ++ others, by rw [stringifyElements, text, starts]; rfl, visible, inside⟩
  | .object ((key, value) :: members) =>
      have read := parseMembers_stringify key value members n rest reads (by
        rw [stringify, List.length_cons, List.length_append, List.length_singleton] at enough
        omega)
      rw [stringify, List.cons_append, List.append_assoc, List.singleton_append]
      obtain ⟨others, text⟩ := @commaSeparated_cons
        (writeString key ++ ':' :: stringify numberText value)
        (stringifyMembers numberText members) ('}' :: rest)
      rw [stringifyMembers, text, writeString, List.cons_append, List.cons_append] at read ⊢
      exact parseValue_object read
termination_by n

theorem parseElements_stringify (element : Value) (elements : List Value) (n : Nat)
    (rest : List Char)
    (reads : ∀ q ∈ elementNumbers (element :: elements), Reads numberText q)
    (enough : 2 * (commaSeparated (stringifyElements numberText (element :: elements))).length
      + 2 ≤ n)
    : parseElements n (commaSeparated (stringifyElements numberText (element :: elements))
        ++ ']' :: rest)
      = some (element :: elements, rest) := by
  obtain ⟨n, rfl⟩ : ∃ m, n = m + 1 := ⟨n - 1, by omega⟩
  have first : ∀ q ∈ element.numbers, Reads numberText q :=
    fun q member => reads q (List.mem_append_left _ member)
  match elements with
  | [] =>
      simp only [stringifyElements, commaSeparated] at enough ⊢
      rw [parseElements, parseValue_stringify element n (']' :: rest) first (by omega)
        (endsNumber_cons (by decide))]
      change (match skipWhitespace (']' :: rest) with
        | ']' :: rest => some ([element], rest)
        | ',' :: rest => (parseElements n rest).map (Prod.map (element :: ·) id)
        | _ => none) = _
      rw [skipWhitespace_cons rfl]
      rfl
  | next :: elements =>
      simp only [stringifyElements, commaSeparated, List.length_append, List.length_cons] at enough
      have later := parseElements_stringify next elements n rest
        (fun q member => reads q (List.mem_append_right _ member))
        (by rw [stringifyElements]; omega)
      simp only [stringifyElements, commaSeparated, List.append_assoc, List.cons_append]
      rw [parseElements, parseValue_stringify element n _ first (by omega)
        (endsNumber_cons (by decide))]
      change (match skipWhitespace (',' :: _) with
        | ']' :: rest => some ([element], rest)
        | ',' :: rest => (parseElements n rest).map (Prod.map (element :: ·) id)
        | _ => none) = _
      rw [skipWhitespace_cons rfl]
      change (parseElements n _).map (Prod.map (element :: ·) id) = _
      rw [stringifyElements] at later
      rw [later]
      rfl
termination_by n

theorem parseMembers_stringify (key : String) (value : Value) (members : List (String × Value))
    (n : Nat)
    (rest : List Char) (reads : ∀ q ∈ memberNumbers ((key, value) :: members), Reads numberText q)
    (enough : 2 * (commaSeparated (stringifyMembers numberText ((key, value) :: members))).length
      + 2 ≤ n)
    : parseMembers n (commaSeparated (stringifyMembers numberText ((key, value) :: members))
        ++ '}' :: rest)
      = some ((key, value) :: members, rest) := by
  obtain ⟨n, rfl⟩ : ∃ m, n = m + 2 := ⟨n - 2, by omega⟩
  have first : ∀ q ∈ value.numbers, Reads numberText q :=
    fun q member => reads q (List.mem_append_left _ member)
  match members with
  | [] =>
      simp only [stringifyMembers, commaSeparated, List.length_append, List.length_cons] at enough ⊢
      rw [List.append_assoc, List.cons_append, parseMembers, parseMember_of_value
        (parseValue_stringify value n ('}' :: rest) first (by omega) (endsNumber_cons (by decide)))]
      change (match skipWhitespace ('}' :: rest) with
        | '}' :: rest => some ([(key, value)], rest)
        | ',' :: rest => (parseMembers (n + 1) rest).map (Prod.map ((key, value) :: ·) id)
        | _ => none) = _
      rw [skipWhitespace_cons rfl]
      rfl
  | next :: members =>
      simp only [stringifyMembers, commaSeparated, List.length_append, List.length_cons] at enough
      have later := parseMembers_stringify next.1 next.2 members (n + 1) rest
        (fun q member => reads q (List.mem_append_right _ member))
        (by rw [stringifyMembers]; omega)
      simp only [stringifyMembers, commaSeparated, List.append_assoc, List.cons_append]
      rw [parseMembers, parseMember_of_value
        (parseValue_stringify value n _ first (by omega) (endsNumber_cons (by decide)))]
      change (match skipWhitespace (',' :: _) with
        | '}' :: rest => some ([(key, value)], rest)
        | ',' :: rest => (parseMembers (n + 1) rest).map (Prod.map ((key, value) :: ·) id)
        | _ => none) = _
      rw [skipWhitespace_cons rfl]
      change (parseMembers (n + 1) _).map (Prod.map ((key, value) :: ·) id) = _
      rw [stringifyMembers] at later
      rw [later]
      rfl
termination_by n

end

theorem parse_stringify (v : Value) (reads : ∀ q ∈ v.numbers, Reads numberText q)
    : parse (stringify numberText v) = some v := by
  have read := parseValue_stringify v (2 * (stringify numberText v).length + 1) [] reads (by omega)
    endsNumber_nil
  rw [List.append_nil] at read
  rw [parse, read]
  rfl

end

end AcbuBackend.Json
