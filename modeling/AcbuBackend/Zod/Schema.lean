import AcbuBackend.Json.Text

/-! Schemas, and what they parse a value to.
The values of JavaScript are those that have no functions in them; JSON writes a number that is not
finite as `null`. The two zeros are one number here. A field that is absent is parsed as
`undefined`. The issues of a parse are told by their paths.
-/

namespace AcbuBackend.Zod

open AcbuBackend.Runtime
open Json (Value)

inductive JsValue
  | null
  | bool (value : Bool)
  | number (value : JsNumber)
  | string (text : String)
  | array (elements : List JsValue)
  | object (members : List (String × JsValue))

abbrev Members := List (String × JsValue)

/-- A property of an object; a key that comes twice has its last value. -/
def Members.field? (members : Members) (key : String) : Option JsValue :=
  members.reverse.lookup key

def JsValue.field? : JsValue → String → Option JsValue
  | .object members, key => Members.field? members key
  | _, _ => none

/-- What is read of a number: one beyond the largest double is infinite. -/
def bounded : JsNumber → JsNumber
  | .finite value => if 2 ^ 1024 - 2 ^ 970 ≤ |value| then .infinity (value < 0) else .finite value
  | value => value

/-- `Number(value)`. A list goes through its text, which has a comma when it has two elements. -/
def JsValue.toNumber : JsValue → JsNumber
  | .null => .finite 0
  | .bool value => .finite (if value then 1 else 0)
  | .number value => value
  | .string text => bounded (jsNumber text)
  | .array [] => .finite 0
  | .array [.bool _] => .nan
  | .array [element] => element.toNumber
  | .array _ => .nan
  | .object _ => .nan

-- What JSON carries

mutual

/-- The value that `JSON.stringify` writes. -/
def JsValue.toJson : JsValue → Value
  | .null => .null
  | .bool value => .bool value
  | .number (.finite value) => .number value
  | .number _ => .null
  | .string text => .string text
  | .array elements => .array (elementsToJson elements)
  | .object members => .object (membersToJson members)

def elementsToJson : List JsValue → List Value
  | [] => []
  | element :: elements => element.toJson :: elementsToJson elements

def membersToJson : List (String × JsValue) → List (String × Value)
  | [] => []
  | (key, value) :: members => (key, value.toJson) :: membersToJson members

end

mutual

/-- The value that `JSON.parse` answers. -/
def ofJson : Value → JsValue
  | .null => .null
  | .bool value => .bool value
  | .number value => .number (.finite value)
  | .string text => .string text
  | .array elements => .array (elementsOfJson elements)
  | .object members => .object (membersOfJson members)

def elementsOfJson : List Value → List JsValue
  | [] => []
  | element :: elements => ofJson element :: elementsOfJson elements

def membersOfJson : List (String × Value) → List (String × JsValue)
  | [] => []
  | (key, value) :: members => (key, ofJson value) :: membersOfJson members

end

/-- A value after it was written and read. -/
def JsValue.carried (v : JsValue) : JsValue :=
  ofJson v.toJson

mutual

/-- Whether all numbers in a value are finite. -/
def JsValue.isFinite : JsValue → Bool
  | .number (.finite _) => true
  | .number _ => false
  | .array elements => elementsFinite elements
  | .object members => membersFinite members
  | _ => true

def elementsFinite : List JsValue → Bool
  | [] => true
  | element :: elements => element.isFinite && elementsFinite elements

def membersFinite : List (String × JsValue) → Bool
  | [] => true
  | (_, value) :: members => value.isFinite && membersFinite members

end

mutual

theorem JsValue.carried_eq_self (v : JsValue) (finite : v.isFinite = true) : v.carried = v := by
  cases v with
  | null | bool _ | string _ => rfl
  | number x =>
      cases x with
      | finite q => rfl
      | nan | infinity _ => cases finite
  | array elements => exact congrArg JsValue.array (elements_carried elements finite)
  | object members => exact congrArg JsValue.object (members_carried members finite)

theorem elements_carried (elements : List JsValue) (finite : elementsFinite elements = true)
    : elementsOfJson (elementsToJson elements) = elements := by
  cases elements with
  | nil => rfl
  | cons element elements =>
      obtain ⟨first, rest⟩ := Bool.and_eq_true_iff.mp finite
      exact congrArg₂ List.cons (element.carried_eq_self first) (elements_carried elements rest)

theorem members_carried (members : List (String × JsValue)) (finite : membersFinite members = true)
    : membersOfJson (membersToJson members) = members := by
  cases members with
  | nil => rfl
  | cons member members =>
      obtain ⟨key, value⟩ := member
      obtain ⟨first, rest⟩ := Bool.and_eq_true_iff.mp finite
      exact congrArg₂ (fun value members => (key, value) :: members)
        (value.carried_eq_self first) (members_carried members rest)

end

mutual

/-- What is read has finite numbers only. -/
theorem isFinite_ofJson (v : Value) : (ofJson v).isFinite = true := by
  cases v with
  | null | bool _ | string _ | number _ => rfl
  | array elements => exact elementsFinite_ofJson elements
  | object members => exact membersFinite_ofJson members

theorem elementsFinite_ofJson (elements : List Value)
    : elementsFinite (elementsOfJson elements) = true := by
  cases elements with
  | nil => rfl
  | cons element elements =>
      exact Bool.and_eq_true_iff.mpr ⟨isFinite_ofJson element, elementsFinite_ofJson elements⟩

theorem membersFinite_ofJson (members : List (String × Value))
    : membersFinite (membersOfJson members) = true := by
  cases members with
  | nil => rfl
  | cons member members =>
      obtain ⟨_, value⟩ := member
      exact Bool.and_eq_true_iff.mpr ⟨isFinite_ofJson value, membersFinite_ofJson members⟩

end

theorem JsValue.isFinite_carried (v : JsValue) : v.carried.isFinite = true :=
  isFinite_ofJson v.toJson

theorem elementsFinite_iff {elements : List JsValue}
    : elementsFinite elements = true ↔ ∀ element ∈ elements, element.isFinite = true := by
  induction elements with
  | nil => simp [elementsFinite]
  | cons element elements ih => simp [elementsFinite, ih]

theorem membersFinite_iff {members : List (String × JsValue)}
    : membersFinite members = true ↔ ∀ member ∈ members, member.2.isFinite = true := by
  induction members with
  | nil => simp [membersFinite]
  | cons member members ih => simp [membersFinite, ih]

-- Lists of what JSON carries

theorem carried_array (elements : List JsValue)
    : (JsValue.array elements).carried = .array (elements.map JsValue.carried) := by
  refine congrArg JsValue.array ?_
  induction elements with
  | nil => rfl
  | cons element elements ih => exact congrArg (element.carried :: ·) ih

/-- The members of an object, each with what JSON carries of its value. -/
def Members.carried (members : Members) : Members :=
  members.map (fun member => (member.1, member.2.carried))

theorem carried_object (members : Members)
    : (JsValue.object members).carried = .object (Members.carried members) := by
  refine congrArg JsValue.object ?_
  induction members with
  | nil => rfl
  | cons member members ih => exact congrArg ((member.1, member.2.carried) :: ·) ih

theorem Members.field?_carried (members : Members) (key : String)
    : Members.field? (Members.carried members) key
        = (Members.field? members key).map JsValue.carried := by
  unfold Members.field? Members.carried
  rw [← List.map_reverse]
  induction members.reverse with
  | nil => rfl
  | cons member members ih =>
      rw [List.map_cons, List.lookup_cons, List.lookup_cons]
      split
      · rfl
      · exact ih

-- Schemas

inductive Schema
  | string (checks : List (String → Bool))
  | number (coerce : Bool) (checks : List (JsNumber → Bool))
  | unknown
  | nullable (inner : Schema)
  | optional (inner : Schema)
  | default (value : JsValue) (inner : Schema)
  | array (item : Schema)
  | object (shape : List (String × Schema)) (passthrough : Bool)
  /-- `z.record(z.unknown())`. -/
  | record
  /-- The options with the values of the discriminator that select them. -/
  | discriminatedUnion (discriminator : String) (options : List (String × Schema))

/-- `z.enum`. -/
def Schema.enum (texts : List String) : Schema :=
  .string [(texts.contains ·)]

/-- `z.literal` of a text. -/
def Schema.literal (text : String) : Schema :=
  .string [(· = text)]

/-- `z.literal` of a number. -/
def Schema.literalNumber (value : ℚ) : Schema :=
  .number false [(· = .finite value)]

-- Issues

inductive PathItem
  | key (name : String)
  | index (position : Nat)

abbrev Path := List PathItem

abbrev Issues := List Path

/-- The issues of a part, as issues of the whole. -/
def below {α : Type} (item : PathItem) (result : Except Issues α) : Except Issues α :=
  result.mapError (fun issues => issues.map (item :: ·))

/-- Two parts of a value. The issues of both are told. -/
def both {α β γ : Type} (f : α → β → γ) : Except Issues α → Except Issues β → Except Issues γ
  | .ok a, .ok b => .ok (f a b)
  | .error issues, .error others => .error (issues ++ others)
  | .error issues, .ok _ => .error issues
  | .ok _, .error issues => .error issues

/-- A value that passes its checks; each that it fails is an issue. -/
def checked {α β : Type} (checks : List (α → Bool)) (value : α) (result : β) : Except Issues β :=
  match checks.filter (fun check => !check value) with
  | [] => .ok result
  | failed => .error (failed.map (fun _ => []))

/-- A list that is parsed element by element, from a position on. -/
def eachElement (parse : JsValue → Except Issues JsValue)
    : Nat → List JsValue → Except Issues (List JsValue)
  | _, [] => .ok []
  | position, element :: elements =>
      both List.cons (below (.index position) (parse element))
        (eachElement parse (position + 1) elements)

-- Parsing

/-- The key that the result of a parse never has. -/
def protoKey : String :=
  "__proto__"

/-- The result of the parse of an object, out of its keys and their values. -/
def mergeObject (pairs : List (String × Option JsValue)) : Members :=
  pairs.filterMap (fun pair => if pair.1 = protoKey then none else pair.2.map
    (fun value => (pair.1, value)))

/-- The members that a shape does not name. -/
def extraMembers (keys : List String) (members : Members) : Members :=
  members.filter (fun member => !keys.contains member.1)

/-- The type check of a number, after its coercion. -/
def numberOf (coerce : Bool) (v : JsValue) : Option JsNumber :=
  let found :=
    if coerce then some v.toNumber
    else
      match v with
      | .number value => some value
      | _ => none
  found.filter (· ≠ .nan)

mutual

/-- `parse` of a value that is there. -/
def Schema.parse : Schema → JsValue → Except Issues JsValue
  | .string checks, v =>
      match v with
      | .string text => checked checks text (.string text)
      | _ => .error [[]]
  | .number coerce checks, v =>
      match numberOf coerce v with
      | some value => checked checks value (.number value)
      | none => .error [[]]
  | .unknown, v => .ok v
  | .nullable inner, v =>
      match v with
      | .null => .ok .null
      | v => inner.parse v
  | .optional inner, v => inner.parse v
  | .default _ inner, v => inner.parse v
  | .array item, v =>
      match v with
      | .array elements => (eachElement (fun element => item.parse element) 0 elements).map .array
      | _ => .error [[]]
  | .object shape passthrough, v =>
      match v with
      | .object members =>
          (parseShape shape members).map (fun pairs =>
            .object (mergeObject (pairs
              ++ if passthrough then
                  (extraMembers (shape.map Prod.fst) members).map
                  (fun member => (member.1, some member.2))
                else [])))
      | _ => .error [[]]
  | .record, v =>
      match v with
      | .object members =>
          .ok (.object (mergeObject (members.map (fun member => (member.1, some member.2)))))
      | _ => .error [[]]
  | .discriminatedUnion discriminator options, v =>
      match v with
      | .object members =>
          match Members.field? members discriminator with
          | some (.string text) => parseOption discriminator options text (.object members)
          | _ => .error [[.key discriminator]]
      | _ => .error [[]]

/-- `parse` of `undefined`. -/
def Schema.parseAbsent : Schema → Except Issues (Option JsValue)
  | .unknown => .ok none
  | .nullable inner => inner.parseAbsent
  | .optional _ => .ok none
  | .default value inner => (inner.parse value).map some
  | _ => .error [[]]

/-- The fields of an object. -/
def parseShape : List (String × Schema) → Members → Except Issues (List (String × Option JsValue))
  | [], _ => .ok []
  | (key, field) :: shape, members =>
      both List.cons
        (below (.key key)
          (match Members.field? members key with
            | some value => (field.parse value).map (fun value => (key, some value))
            | none => field.parseAbsent.map (fun value => (key, value))))
        (parseShape shape members)

def parseOption (discriminator : String)
    : List (String × Schema) → String → JsValue → Except Issues JsValue
  | [], _, _ => .error [[.key discriminator]]
  | (value, option) :: options, text, v =>
      if value = text then option.parse v else parseOption discriminator options text v

end

end AcbuBackend.Zod
