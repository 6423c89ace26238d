import AcbuBackend.Zod.Schema

/-! What a schema has parsed, it parses to itself.
After it was carried by JSON it is parsed to itself exactly where all its numbers are finite: a
number that is not finite is read as `null`, which no schema parses to such a number.
-/

namespace AcbuBackend.Zod

open AcbuBackend.Runtime

-- Results

section

variable {α β γ : Type} {a : α} {b : β} {c : γ}

theorem map_eq_ok {result : Except Issues α} {f : α → β}
    : result.map f = .ok b ↔ ∃ a, result = .ok a ∧ f a = b := by
  cases result with
  | error issues => exact ⟨nofun, nofun⟩
  | ok a =>
      constructor
      · intro same
        exact ⟨a, rfl, Except.ok.inj same⟩
      · rintro ⟨_, same, rfl⟩
        obtain rfl := Except.ok.inj same
        rfl

theorem mapError_eq_ok {ε ε' : Type} {result : Except ε α} {f : ε → ε'}
    : result.mapError f = .ok a ↔ result = .ok a := by
  cases result with
  | error e => exact ⟨nofun, nofun⟩
  | ok found => exact ⟨fun same => congrArg Except.ok (Except.ok.inj same),
      fun same => congrArg Except.ok (Except.ok.inj same)⟩

theorem below_eq_ok {item : PathItem} {result : Except Issues α}
    : below item result = .ok a ↔ result = .ok a :=
  mapError_eq_ok

theorem both_eq_ok {f : α → β → γ} {first : Except Issues α} {second : Except Issues β}
    : both f first second = .ok c ↔ ∃ a b, first = .ok a ∧ second = .ok b ∧ f a b = c := by
  cases first with
  | error issues => cases second <;> exact ⟨nofun, nofun⟩
  | ok a =>
      cases second with
      | error issues => exact ⟨nofun, nofun⟩
      | ok b =>
          constructor
          · intro same
            exact ⟨a, b, rfl, rfl, Except.ok.inj same⟩
          · rintro ⟨_, _, same, same', rfl⟩
            obtain rfl := Except.ok.inj same
            obtain rfl := Except.ok.inj same'
            rfl

theorem checked_eq_ok {checks : List (α → Bool)} {result : β}
    : checked checks a result = .ok b
        ↔ checks.filter (fun check => !check a) = [] ∧ result = b := by
  unfold checked
  split
  · rename_i passed
    constructor
    · intro same
      exact ⟨passed, Except.ok.inj same⟩
    · rintro ⟨-, rfl⟩
      rfl
  · rename_i failed
    exact ⟨nofun, fun known => (failed known.1).elim⟩

theorem eachElement_eq_ok {parse : JsValue → Except Issues JsValue} {position : Nat}
    {elements results : List JsValue}
    : eachElement parse position elements = .ok results
      ↔ List.Forall₂ (fun element result => parse element = .ok result) elements results := by
  induction elements generalizing position results with
  | nil =>
      constructor
      · intro same
        obtain rfl := Except.ok.inj same
        exact .nil
      · rintro ⟨⟩
        rfl
  | cons element elements ih =>
      rw [eachElement, both_eq_ok]
      constructor
      · rintro ⟨result, results, first, rest, rfl⟩
        exact .cons (below_eq_ok.mp first) (ih.mp rest)
      · rintro ⟨⟩
        rename_i first rest
        exact ⟨_, _, below_eq_ok.mpr first, ih.mpr rest, rfl⟩

end

-- Objects

theorem Members.field?_append (members others : Members) (key : String)
    : Members.field? (members ++ others) key
      = (Members.field? others key).or (Members.field? members key) := by
  rw [Members.field?, List.reverse_append, List.lookup_append]
  rfl

theorem mergeObject_append (pairs others : List (String × Option JsValue))
    : mergeObject (pairs ++ others) = mergeObject pairs ++ mergeObject others :=
  List.filterMap_append

theorem mem_mergeObject {pairs : List (String × Option JsValue)} {key : String} {value : JsValue}
    : (key, value) ∈ mergeObject pairs ↔ key ≠ protoKey ∧ (key, some value) ∈ pairs := by
  rw [mergeObject, List.mem_filterMap]
  constructor
  · rintro ⟨⟨_, found⟩, member, same⟩
    split at same
    · cases same
    · rename_i other
      obtain ⟨_, rfl, same⟩ := Option.map_eq_some_iff.mp same
      obtain ⟨rfl, rfl⟩ := Prod.mk.inj same
      exact ⟨other, member⟩
  · rintro ⟨other, member⟩
    exact ⟨_, member, by rw [if_neg other]; rfl⟩

/-- The members of an object that are given again. -/
def present (members : Members) : List (String × Option JsValue) :=
  members.map (fun member => (member.1, some member.2))

theorem mergeObject_present {members : Members} (proto : protoKey ∉ members.map Prod.fst)
    : mergeObject (present members) = members := by
  unfold mergeObject present
  rw [List.filterMap_map]
  conv => rhs; rw [← List.filterMap_some (l := members)]
  refine List.filterMap_congr fun member known => ?_
  have other : member.1 ≠ protoKey := fun same => proto (same ▸ List.mem_map_of_mem known)
  simp [other]

theorem proto_mergeObject (pairs : List (String × Option JsValue))
    : protoKey ∉ (mergeObject pairs).map Prod.fst := by
  rintro member
  obtain ⟨⟨_, value⟩, member, rfl⟩ := List.mem_map.mp member
  exact (mem_mergeObject.mp member).1 rfl

theorem keys_mergeObject {pairs : List (String × Option JsValue)} {key : String}
    (member : key ∈ (mergeObject pairs).map Prod.fst)
    : key ∈ pairs.map Prod.fst := by
  obtain ⟨⟨_, value⟩, merged, rfl⟩ := List.mem_map.mp member
  exact List.mem_map.mpr ⟨_, (mem_mergeObject.mp merged).2, rfl⟩

theorem Members.field?_eq_none {members : Members} {key : String}
    (absent : key ∉ members.map Prod.fst)
    : Members.field? members key = none := by
  refine List.lookup_eq_none_iff.mpr fun member known => ?_
  have other : key ≠ member.1 := by
    rintro rfl
    exact absent (List.mem_map_of_mem (List.mem_reverse.mp known))
  simpa using other

theorem field?_mergeObject {pairs : List (String × Option JsValue)} {key : String}
    {value : Option JsValue} (keys : (pairs.map Prod.fst).Nodup) (other : key ≠ protoKey)
    (member : (key, value) ∈ pairs)
    : Members.field? (mergeObject pairs) key = value := by
  induction pairs with
  | nil => cases member
  | cons pair pairs ih =>
      obtain ⟨fresh, keys⟩ := List.nodup_cons.mp keys
      rw [← List.singleton_append, mergeObject_append, Members.field?_append]
      rcases List.mem_cons.mp member with rfl | member
      · have absent : Members.field? (mergeObject pairs) key = none :=
          Members.field?_eq_none fun known => fresh (keys_mergeObject known)
        rw [absent, Option.none_or]
        cases value <;> simp [mergeObject, Members.field?, other]
      · have absent : Members.field? (mergeObject [pair]) key = none := by
          refine Members.field?_eq_none fun known => fresh ?_
          obtain rfl := List.mem_singleton.mp (keys_mergeObject known)
          exact List.mem_map.mpr ⟨_, member, rfl⟩
        rw [ih keys member, absent, Option.or_none]

-- Fields

/-- A field, present or absent. -/
def Schema.parseField (field : Schema) : Option JsValue → Except Issues (Option JsValue)
  | some value => (field.parse value).map some
  | none => field.parseAbsent

theorem Schema.parseField_cases {field : Schema} {found result : Option JsValue}
    (parsed : field.parseField found = .ok result)
    : result = none ∧ field.parseAbsent = .ok none
      ∨ ∃ r, result = some r ∧ ((∃ v, field.parse v = .ok r)
      ∨ field.parseAbsent = .ok (some r)) := by
  cases found with
  | none =>
      cases result with
      | none => exact .inl ⟨rfl, parsed⟩
      | some r => exact .inr ⟨r, rfl, .inr parsed⟩
  | some v =>
      obtain ⟨r, value, same⟩ := map_eq_ok.mp (show (field.parse v).map some
        = .ok result from parsed)
      exact .inr ⟨r, same.symm, .inl ⟨v, value⟩⟩

theorem parseShape_eq_ok {shape : List (String × Schema)} {members : Members}
    {pairs : List (String × Option JsValue)}
    : parseShape shape members = .ok pairs
      ↔ List.Forall₂ (fun field pair => pair.1 = field.1
          ∧ field.2.parseField (Members.field? members field.1) = .ok pair.2) shape pairs := by
  induction shape generalizing pairs with
  | nil =>
      constructor
      · intro same
        obtain rfl := Except.ok.inj same
        exact .nil
      · rintro ⟨⟩
        rfl
  | cons field shape ih =>
      obtain ⟨key, field⟩ := field
      have first : ∀ {pair : String × Option JsValue},
          (match Members.field? members key with
            | some value => (field.parse value).map (fun value => (key, some value))
            | none => field.parseAbsent.map (fun value => (key, value))) = .ok pair
          ↔ pair.1 = key ∧ field.parseField (Members.field? members key) = .ok pair.2 := by
        rintro ⟨key', value⟩
        split
        · rename_i found present
          rw [present, Schema.parseField, map_eq_ok, map_eq_ok]
          constructor
          · rintro ⟨value, parsed, same⟩
            obtain ⟨rfl, rfl⟩ := Prod.mk.inj same
            exact ⟨rfl, value, parsed, rfl⟩
          · rintro ⟨rfl, value, parsed, rfl⟩
            exact ⟨value, parsed, rfl⟩
        · rename_i absent
          rw [absent, Schema.parseField, map_eq_ok]
          constructor
          · rintro ⟨value, parsed, same⟩
            obtain ⟨rfl, rfl⟩ := Prod.mk.inj same
            exact ⟨rfl, parsed⟩
          · rintro ⟨rfl, parsed⟩
            exact ⟨value, parsed, rfl⟩
      rw [parseShape, both_eq_ok]
      constructor
      · rintro ⟨pair, pairs, parsed, rest, rfl⟩
        exact .cons (first.mp (below_eq_ok.mp parsed)) (ih.mp rest)
      · rintro ⟨⟩
        rename_i parsed rest
        exact ⟨_, _, below_eq_ok.mpr (first.mpr parsed), ih.mpr rest, rfl⟩

theorem parseOption_eq_ok {discriminator text : String} {options : List (String × Schema)}
    {v r : JsValue} (parsed : parseOption discriminator options text v = .ok r)
    : ∃ option, (text, option) ∈ options ∧ option.parse v = .ok r
        ∧ ∀ v, parseOption discriminator options text v = option.parse v := by
  induction options with
  | nil => cases parsed
  | cons head options ih =>
      obtain ⟨value, option⟩ := head
      by_cases same : value = text
      · subst same
        have selects : ∀ v, parseOption discriminator ((value, option) :: options) value v
          = option.parse v :=
          fun v => by rw [parseOption, if_pos rfl]
        exact ⟨option, List.mem_cons_self, selects v ▸ parsed, selects⟩
      · have selects : ∀ v, parseOption discriminator ((value, option) :: options) text v
            = parseOption discriminator options text v :=
          fun v => by rw [parseOption, if_neg same]
        obtain ⟨found, member, parsed, later⟩ := ih (selects v ▸ parsed)
        exact ⟨found, List.mem_cons_of_mem _ member, parsed, fun v => (selects v).trans (later v)⟩

-- Schemas that are settled

/-- An option whose objects have its own discriminator. -/
def Tagged (discriminator : String) (option : String × Schema) : Prop :=
  ∃ shape passthrough, option.2 = .object shape passthrough
    ∧ (discriminator, Schema.literal option.1) ∈ shape

/-- The keys of a shape are distinct, and the options of a union name themselves. -/
inductive Schema.WellFormed : Schema → Prop
  | string {checks : List (String → Bool)} : WellFormed (.string checks)
  | number {coerce : Bool} {checks : List (JsNumber → Bool)} : WellFormed (.number coerce checks)
  | unknown : WellFormed .unknown
  | nullable {inner : Schema} (inside : WellFormed inner) : WellFormed (.nullable inner)
  | optional {inner : Schema} (inside : WellFormed inner) : WellFormed (.optional inner)
  | default {value : JsValue} {inner : Schema} (inside : WellFormed inner)
    : WellFormed (.default value inner)
  | array {item : Schema} (inside : WellFormed item) : WellFormed (.array item)
  | object {shape : List (String × Schema)} {passthrough : Bool}
      (keys : (shape.map Prod.fst).Nodup) (proto : protoKey ∉ shape.map Prod.fst)
      (fields : ∀ field ∈ shape, WellFormed field.2)
    : WellFormed (.object shape passthrough)
  | record : WellFormed .record
  | discriminatedUnion {discriminator : String} {options : List (String × Schema)}
      (tagged : ∀ option ∈ options, Tagged discriminator option)
      (inside : ∀ option ∈ options, WellFormed option.2)
    : WellFormed (.discriminatedUnion discriminator options)

/-- An object that a schema has parsed: the fields of its shape, and what else it lets through. -/
structure ObjectParsed (shape : List (String × Schema)) (passthrough : Bool)
    (members result : Members)
    : Prop where
  fields : ∀ field ∈ shape,
    field.2.parseField (Members.field? members field.1) = .ok (Members.field? result field.1)
  sources : ∀ member ∈ result,
    (∃ field ∈ shape, field.1 = member.1
      ∧ field.2.parseField (Members.field? members field.1) = .ok (some member.2))
    ∨ passthrough = true ∧ member.1 ≠ protoKey ∧ member ∈ extraMembers (shape.map Prod.fst) members
  kept : passthrough = true → ∀ member ∈ extraMembers (shape.map Prod.fst) members,
    member.1 ≠ protoKey → member ∈ result

/-- The members that are let through. -/
def extras (keys : List String) (passthrough : Bool) (members : Members)
    : List (String × Option JsValue) :=
  if passthrough then present (extraMembers keys members) else []

theorem parse_object (shape : List (String × Schema)) (passthrough : Bool) (members : Members)
    : (Schema.object shape passthrough).parse (.object members)
      = (parseShape shape members).map (fun pairs =>
          .object (mergeObject (pairs ++ extras (shape.map Prod.fst) passthrough members))) :=
  rfl

section

variable {shape : List (String × Schema)} {passthrough : Bool} {members : Members}
  {pairs : List (String × Option JsValue)}

theorem keys_of_parseShape (parsed : parseShape shape members = .ok pairs)
    : pairs.map Prod.fst = shape.map Prod.fst := by
  have related := parseShape_eq_ok.mp parsed
  clear parsed
  induction related with
  | nil => rfl
  | cons first _ ih => exact congrArg₂ List.cons first.1 ih

theorem not_mem_keys_extras {keys : List String} {key : String} (member : key ∈ keys)
    : key ∉ (mergeObject (extras keys passthrough members)).map Prod.fst := by
  intro merged
  have found := keys_mergeObject merged
  unfold extras at found
  split at found
  · simp [present, extraMembers, member] at found
  · cases found

/-- What was merged is let through again. -/
theorem extraMembers_mergeObject {keys : List String} (fields : pairs.map Prod.fst = keys)
    : extraMembers keys (mergeObject (pairs ++ extras keys passthrough members))
      = mergeObject (extras keys passthrough members) := by
  rw [mergeObject_append, extraMembers, List.filter_append]
  have none : (mergeObject pairs).filter (fun member => !keys.contains member.1) = [] := by
    refine List.filter_eq_nil_iff.mpr fun member merged => ?_
    have known : member.1 ∈ keys := fields ▸ keys_mergeObject (List.mem_map_of_mem merged)
    simp [known]
  rw [none, List.nil_append]
  refine List.filter_eq_self.mpr fun member merged => ?_
  have unknown : member.1 ∉ keys := fun known => not_mem_keys_extras known
    (List.mem_map_of_mem merged)
  simp [unknown]

theorem mergeObject_extras {keys : List String} (fields : pairs.map Prod.fst = keys)
    : mergeObject (extras keys passthrough
        (mergeObject (pairs ++ extras keys passthrough members)))
      = mergeObject (extras keys passthrough members) := by
  rw [extras, extraMembers_mergeObject fields]
  split
  · exact mergeObject_present (proto_mergeObject _)
  · simp [extras, *]

theorem field?_parsed (keys : (shape.map Prod.fst).Nodup) (proto : protoKey ∉ shape.map Prod.fst)
    (parsed : parseShape shape members = .ok pairs) {pair : String × Option JsValue}
    (member : pair ∈ pairs)
    : Members.field? (mergeObject (pairs ++ extras (shape.map Prod.fst) passthrough members)) pair.1
      = pair.2 := by
  have same := keys_of_parseShape parsed
  have known : pair.1 ∈ shape.map Prod.fst := same ▸ List.mem_map_of_mem member
  have other : pair.1 ≠ protoKey := fun same => proto (same ▸ known)
  rw [mergeObject_append, Members.field?_append, Members.field?_eq_none (not_mem_keys_extras known),
    Option.none_or]
  exact field?_mergeObject (same ▸ keys) other member

theorem exists_related {α β : Type} {R : α → β → Prop} {as : List α} {bs : List β}
    (related : List.Forall₂ R as bs) {a : α} (member : a ∈ as)
    : ∃ b ∈ bs, R a b := by
  induction related with
  | nil => cases member
  | cons first _ ih =>
      rcases List.mem_cons.mp member with rfl | member
      · exact ⟨_, List.mem_cons_self, first⟩
      · obtain ⟨b, known, holds⟩ := ih member
        exact ⟨b, List.mem_cons_of_mem _ known, holds⟩

/-- What an object is parsed to: each field is parsed on its own, and a result whose fields are
parsed to themselves is parsed to itself.
-/
theorem object_parsed {r : JsValue} (keys : (shape.map Prod.fst).Nodup)
    (proto : protoKey ∉ shape.map Prod.fst)
    (parsed : (Schema.object shape passthrough).parse (.object members) = .ok r)
    : ∃ result, r = .object result ∧ ObjectParsed shape passthrough members result
        ∧ ((∀ field ∈ shape, field.2.parseField (Members.field? result field.1)
              = .ok (Members.field? result field.1)) →
            (Schema.object shape passthrough).parse (.object result) = .ok (.object result)) := by
  rw [parse_object] at parsed
  obtain ⟨pairs, shaped, rfl⟩ := map_eq_ok.mp parsed
  have related := parseShape_eq_ok.mp shaped
  have value := fun pair => @field?_parsed shape passthrough members pairs keys proto shaped pair
  refine ⟨_, rfl, ⟨fun field member => ?_, fun member merged => ?_,
    fun passes member again other => ?_⟩, fun settled => ?_⟩
  · obtain ⟨pair, known, same, parsed⟩ := exists_related related member
    rw [← same, value pair known, same]
    exact parsed
  · rw [mergeObject_append] at merged
    rcases List.mem_append.mp merged with merged | merged
    · obtain ⟨field, known, same, parsed⟩ := exists_related related.flip
        (mem_mergeObject.mp merged).2
      exact .inl ⟨field, known, same.symm, parsed⟩
    · obtain ⟨other, found⟩ := mem_mergeObject.mp merged
      unfold extras at found
      split at found
      · rename_i passes
        obtain ⟨kept, again, same⟩ := List.mem_map.mp found
        obtain ⟨name, content⟩ := Prod.mk.inj same
        refine .inr ⟨passes, other, ?_⟩
        rw [← Prod.ext name (Option.some.inj content)]
        exact again
      · cases found
  · rw [mergeObject_append, extras, if_pos passes]
    exact List.mem_append_right _ (mem_mergeObject.mpr
      ⟨other, List.mem_map.mpr ⟨member, again, rfl⟩⟩)
  · have again : parseShape shape (mergeObject (pairs
      ++ extras (shape.map Prod.fst) passthrough members))
        = .ok pairs := by
      obtain ⟨lengths, related⟩ := List.forall₂_iff_zip.mp related
      refine parseShape_eq_ok.mpr (List.forall₂_iff_zip.mpr
        ⟨lengths, fun {field pair} zipped => ?_⟩)
      obtain ⟨inShape, inPairs⟩ := List.of_mem_zip zipped
      have same := (related zipped).1
      have kept := settled field inShape
      rw [← same, value pair inPairs] at kept
      refine ⟨same, ?_⟩
      rw [← same, value pair inPairs]
      exact kept
    rw [parse_object, again]
    refine congrArg (fun members => Except.ok (JsValue.object members)) ?_
    rw [mergeObject_append, mergeObject_extras (keys_of_parseShape shaped), ← mergeObject_append]

end

theorem ObjectParsed.proto {shape : List (String × Schema)} {passthrough : Bool}
    {members result : Members}
    (h : ObjectParsed shape passthrough members result) (proto : protoKey ∉ shape.map Prod.fst)
    : protoKey ∉ result.map Prod.fst := by
  intro found
  obtain ⟨member, known, same⟩ := List.mem_map.mp found
  rcases h.sources member known with ⟨field, inShape, name, -⟩ | ⟨-, other, -⟩
  · exact proto (List.mem_map.mpr ⟨field, inShape, name.trans same⟩)
  · exact other same

def Schema.isObject : Schema → Bool
  | .object .. | .discriminatedUnion .. => true
  | _ => false

theorem object_of_shape {shape : List (String × Schema)} {passthrough : Bool} {v r : JsValue}
    (h : (Schema.object shape passthrough).WellFormed)
    (parsed : (Schema.object shape passthrough).parse v = .ok r)
    : ∃ members, r = .object members ∧ protoKey ∉ members.map Prod.fst := by
  cases h with
  | object keys proto _ =>
      cases v with
      | object members =>
          obtain ⟨result, rfl, fields, -⟩ := object_parsed keys proto parsed
          exact ⟨result, rfl, fields.proto proto⟩
      | _ => cases parsed

theorem Schema.WellFormed.object_of_parse {s : Schema} {v r : JsValue} (h : s.WellFormed)
    (object : s.isObject = true) (parsed : s.parse v = .ok r)
    : ∃ members, r = .object members ∧ protoKey ∉ members.map Prod.fst := by
  cases s with
  | object shape passthrough => exact object_of_shape h parsed
  | discriminatedUnion discriminator options =>
      cases h with
      | discriminatedUnion tagged inside =>
          cases v with
          | object members =>
              simp only [Schema.parse] at parsed
              split at parsed
              · obtain ⟨option, member, parsed, -⟩ := parseOption_eq_ok parsed
                obtain ⟨shape, passthrough, rfl, -⟩ := tagged _ member
                exact object_of_shape (inside _ member) parsed
              · cases parsed
          | _ => cases parsed
  | _ => cases object

-- Parsing again

theorem numberOf_number {coerce : Bool} {v : JsValue} {value : JsNumber}
    (found : numberOf coerce v = some value)
    : numberOf coerce (.number value) = some value := by
  have number : value ≠ .nan := by
    simpa using (Option.filter_eq_some_iff.mp found).2
  cases coerce <;> simp [numberOf, JsValue.toNumber, number]

theorem numberOf_carried {coerce : Bool} {value found : JsNumber}
    (read : numberOf coerce (JsValue.number value).carried = some found)
    : ∃ q, found = .finite q := by
  have zero : ∀ {found : JsNumber}, numberOf coerce .null = some found → ∃ q,
      found = .finite q := by
    intro found read
    cases coerce with
    | false => cases read
    | true => exact ⟨0, (Option.some.inj read).symm⟩
  cases value with
  | nan | infinity _ => exact zero read
  | finite q =>
      cases coerce with
      | false => exact ⟨q, (Option.some.inj read).symm⟩
      | true => exact ⟨q, (Option.some.inj read).symm⟩

theorem parse_array {item : Schema} {elements : List JsValue} {r : JsValue}
    : (Schema.array item).parse (.array elements) = .ok r
      ↔ ∃ results, List.Forall₂ (fun element result => item.parse element = .ok result) elements
        results
          ∧ JsValue.array results = r :=
  map_eq_ok.trans (exists_congr fun _ => and_congr_left fun _ => eachElement_eq_ok)

theorem parseAbsent_default {value : JsValue} {inner : Schema} {r : Option JsValue}
    : (Schema.default value inner).parseAbsent = .ok r
      ↔ ∃ found, inner.parse value = .ok found ∧ some found = r :=
  map_eq_ok

/-- The value of the discriminator stays. -/
theorem field?_discriminator {discriminator text : String} {members result : Members}
    {shape : List (String × Schema)} {passthrough : Bool}
    (tag : (discriminator, Schema.literal text) ∈ shape)
    (parsed : ObjectParsed shape passthrough members result)
    : Members.field? result discriminator = some (.string text) := by
  have field := parsed.fields _ tag
  cases found : Members.field? members discriminator with
  | none =>
      rw [found] at field
      cases field
  | some value =>
      rw [found] at field
      obtain ⟨kept, literal, same⟩ := map_eq_ok.mp field
      cases value with
      | string content =>
          obtain ⟨passed, rfl⟩ := checked_eq_ok.mp literal
          have equal : content = text := by simpa using passed
          rw [← same, equal]
      | _ => cases literal

theorem Schema.WellFormed.settled {s : Schema} (h : s.WellFormed)
    : (∀ v r, s.parse v = .ok r → s.parse r = .ok r)
      ∧ ∀ r, s.parseAbsent = .ok (some r) → s.parse r = .ok r := by
  induction h with
  | string =>
      refine ⟨fun v r parsed => ?_, nofun⟩
      cases v with
      | string text =>
          obtain ⟨-, rfl⟩ := checked_eq_ok.mp parsed
          exact parsed
      | _ => cases parsed
  | @number coerce checks =>
      refine ⟨fun v r parsed => ?_, nofun⟩
      simp only [Schema.parse] at parsed
      split at parsed
      · rename_i value found
        obtain ⟨passed, rfl⟩ := checked_eq_ok.mp parsed
        simp only [Schema.parse, numberOf_number found]
        exact parsed
      · cases parsed
  | unknown => exact ⟨fun _ _ _ => rfl, nofun⟩
  | @nullable inner _ ih =>
      have nulled : ∀ r, inner.parse r = .ok r → (Schema.nullable inner).parse r = .ok r := by
        intro r same
        cases r with
        | null => rfl
        | _ => exact same
      refine ⟨fun v r parsed => ?_, fun r parsed => nulled r (ih.2 r parsed)⟩
      cases v with
      | null =>
          obtain rfl := Except.ok.inj parsed
          rfl
      | _ => exact nulled r (ih.1 _ r parsed)
  | optional _ ih => exact ⟨ih.1, nofun⟩
  | default _ ih =>
      refine ⟨ih.1, fun r absent => ?_⟩
      obtain ⟨found, parsed, same⟩ := parseAbsent_default.mp absent
      exact Option.some.inj same ▸ ih.1 _ _ parsed
  | @array item _ ih =>
      refine ⟨fun v r parsed => ?_, nofun⟩
      cases v with
      | array elements =>
          obtain ⟨results, related, rfl⟩ := parse_array.mp parsed
          refine parse_array.mpr ⟨results, List.forall₂_same.mpr fun result member => ?_, rfl⟩
          obtain ⟨element, -, parsed⟩ := exists_related related.flip member
          exact ih.1 element result parsed
      | _ => cases parsed
  | @object shape passthrough keys proto _ ih =>
      refine ⟨fun v r parsed => ?_, nofun⟩
      cases v with
      | object members =>
          obtain ⟨result, rfl, fields, settles⟩ := object_parsed keys proto parsed
          refine settles fun field member => ?_
          rcases Schema.parseField_cases (fields.fields field member) with
            ⟨none, absent⟩ | ⟨r, some, source⟩
          · rw [none]
            exact absent
          · rw [some]
            refine map_eq_ok.mpr ⟨r, ?_, rfl⟩
            rcases source with ⟨v, parsed⟩ | absent
            · exact (ih field member).1 v r parsed
            · exact (ih field member).2 r absent
      | _ => cases parsed
  | record =>
      refine ⟨fun v r parsed => ?_, nofun⟩
      cases v with
      | object members =>
          obtain rfl := Except.ok.inj parsed
          exact congrArg (fun members => Except.ok (JsValue.object members))
            (mergeObject_present (proto_mergeObject (present members)))
      | _ => cases parsed
  | @discriminatedUnion discriminator options tagged inside ih =>
      refine ⟨fun v r parsed => ?_, nofun⟩
      cases v with
      | object members =>
          simp only [Schema.parse] at parsed
          split at parsed
          · rename_i text selected
            obtain ⟨option, member, parsed, selects⟩ := parseOption_eq_ok parsed
            obtain ⟨shape, passthrough, rfl, tag⟩ := tagged _ member
            have settled := (ih _ member).1 _ _ parsed
            cases inside _ member with
            | object keys proto _ =>
                obtain ⟨result, rfl, fields, -⟩ := object_parsed keys proto parsed
                simp only [Schema.parse, field?_discriminator tag fields, selects]
                exact settled
          · cases parsed
      | _ => cases parsed

/-- What a schema has parsed is parsed to finite numbers once JSON has carried it; by induction on
the schema.
-/
theorem Schema.WellFormed.finite_of_carried {s : Schema} (h : s.WellFormed)
    : (∀ v r r', s.parse v = .ok r → s.parse r.carried = .ok r' → r'.isFinite = true)
      ∧ ∀ r r', s.parseAbsent = .ok (some r) → s.parse r.carried = .ok r' → r'.isFinite = true := by
  induction h with
  | string =>
      refine ⟨fun v r r' _ again => ?_, nofun⟩
      simp only [Schema.parse] at again
      split at again
      · obtain ⟨-, rfl⟩ := checked_eq_ok.mp again
        rfl
      · cases again
  | @number coerce checks =>
      refine ⟨fun v r r' parsed again => ?_, nofun⟩
      simp only [Schema.parse] at parsed again
      split at parsed
      · obtain ⟨-, rfl⟩ := checked_eq_ok.mp parsed
        split at again
        · rename_i found
          obtain ⟨-, rfl⟩ := checked_eq_ok.mp again
          obtain ⟨q, rfl⟩ := numberOf_carried found
          rfl
        · cases again
      · cases parsed
  | unknown =>
      refine ⟨fun v r r' _ again => ?_, nofun⟩
      obtain rfl := Except.ok.inj again
      exact r.isFinite_carried
  | @nullable inner _ ih =>
      have nulled : ∀ w r', (inner.parse w = .ok r' → r'.isFinite = true) →
          (Schema.nullable inner).parse w = .ok r' → r'.isFinite = true := by
        intro w r' inside again
        cases w with
        | null =>
            obtain rfl := Except.ok.inj again
            rfl
        | _ => exact inside again
      refine ⟨fun v r r' parsed again => ?_, fun r r' absent again => nulled _ r'
        (ih.2 r r' absent) again⟩
      cases v with
      | null =>
          obtain rfl := Except.ok.inj parsed
          obtain rfl := Except.ok.inj again
          rfl
      | _ => exact nulled _ r' (ih.1 _ r r' parsed) again
  | optional _ ih => exact ⟨ih.1, nofun⟩
  | default _ ih =>
      refine ⟨ih.1, fun r r' absent again => ?_⟩
      obtain ⟨found, parsed, same⟩ := parseAbsent_default.mp absent
      obtain rfl := Option.some.inj same
      exact ih.1 _ _ _ parsed again
  | @array item _ ih =>
      refine ⟨fun v r r' parsed again => ?_, nofun⟩
      cases v with
      | array elements =>
          obtain ⟨results, related, rfl⟩ := parse_array.mp parsed
          rw [carried_array] at again
          obtain ⟨results', related', rfl⟩ := parse_array.mp again
          refine elementsFinite_iff.mpr fun result' member => ?_
          obtain ⟨_, carried, parsed'⟩ := exists_related related'.flip member
          obtain ⟨result, known, rfl⟩ := List.mem_map.mp carried
          obtain ⟨element, -, parsed⟩ := exists_related related.flip known
          exact ih.1 element result result' parsed parsed'
      | _ => cases parsed
  | @object shape passthrough keys proto _ ih =>
      refine ⟨fun v r r' parsed again => ?_, nofun⟩
      cases v with
      | object members =>
          obtain ⟨result, rfl, fields, -⟩ := object_parsed keys proto parsed
          rw [carried_object] at again
          obtain ⟨result', rfl, fields', -⟩ := object_parsed keys proto again
          refine membersFinite_iff.mpr fun member known => ?_
          rcases fields'.sources member known with ⟨field, inShape, -, parsed'⟩ | carried
          · rw [Members.field?_carried] at parsed'
            rcases Schema.parseField_cases (fields.fields field inShape) with
              ⟨none, absent⟩ | ⟨r, some, source⟩
            · rw [none] at parsed'
              cases absent.symm.trans parsed'
            · rw [some] at parsed'
              obtain ⟨r', parsed', same⟩ := map_eq_ok.mp (show (field.2.parse r.carried).map
                Option.some = _ from parsed')
              obtain rfl := Option.some.inj same
              rcases source with ⟨v, parsed⟩ | absent
              · exact (ih field inShape).1 v r _ parsed parsed'
              · exact (ih field inShape).2 r _ absent parsed'
          · obtain ⟨kept, -, rfl⟩ := List.mem_map.mp (List.mem_of_mem_filter carried.2.2)
            exact kept.2.isFinite_carried
      | _ => cases parsed
  | record =>
      refine ⟨fun v r r' parsed again => ?_, nofun⟩
      cases v with
      | object members =>
          obtain rfl := Except.ok.inj parsed
          rw [carried_object] at again
          obtain rfl := Except.ok.inj again
          refine membersFinite_iff.mpr fun member known => ?_
          obtain ⟨carried, found, same⟩ := List.mem_map.mp (mem_mergeObject.mp known).2
          obtain ⟨kept, -, rfl⟩ := List.mem_map.mp found
          rw [← Option.some.inj (Prod.mk.inj same).2]
          exact kept.2.isFinite_carried
      | _ => cases parsed
  | @discriminatedUnion discriminator options tagged inside ih =>
      refine ⟨fun v r r' parsed again => ?_, nofun⟩
      cases v with
      | object members =>
          simp only [Schema.parse] at parsed
          split at parsed
          · rename_i text selected
            obtain ⟨option, member, parsed, selects⟩ := parseOption_eq_ok parsed
            obtain ⟨shape, passthrough, rfl, tag⟩ := tagged _ member
            cases inside _ member with
            | object keys proto _ =>
                obtain ⟨result, rfl, fields, -⟩ := object_parsed keys proto parsed
                rw [carried_object] at again
                have carried := Members.field?_carried result discriminator
                rw [field?_discriminator tag fields] at carried
                simp only [Schema.parse, carried, Option.map_some] at again
                change parseOption discriminator options text _ = _ at again
                rw [selects, ← carried_object] at again
                exact (ih _ member).1 _ _ r' parsed again
          · cases parsed
      | _ => cases parsed

/-- What a schema has parsed, it parses to itself after JSON has carried it exactly where all
numbers are finite.
-/
theorem Schema.WellFormed.parse_carried_iff {s : Schema} {v r : JsValue} (h : s.WellFormed)
    (parsed : s.parse v = .ok r)
    : s.parse r.carried = .ok r ↔ r.isFinite = true := by
  constructor
  · exact h.finite_of_carried.1 v r r parsed
  · intro finite
    rw [r.carried_eq_self finite]
    exact h.settled.1 v r parsed

end AcbuBackend.Zod
