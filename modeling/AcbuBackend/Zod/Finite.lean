import AcbuBackend.Zod.Settled

/-! The values that a schema parses to finite numbers, told of the values before they are parsed. -/

namespace AcbuBackend.Zod

open AcbuBackend.Runtime

def isFiniteNumber : JsNumber → Bool
  | .finite _ => true
  | _ => false

/-- The members that may stay, all with finite numbers. -/
def keptFinite (members : Members) : Bool :=
  members.all (fun member => member.1 = protoKey || member.2.isFinite)

mutual

def Schema.keepsFinite : Schema → JsValue → Bool
  | .string _, _ => true
  | .number coerce _, v => (numberOf coerce v).all isFiniteNumber
  | .unknown, v => v.isFinite
  | .nullable inner, v =>
      match v with
      | .null => true
      | v => inner.keepsFinite v
  | .optional inner, v => inner.keepsFinite v
  | .default _ inner, v => inner.keepsFinite v
  | .array item, v =>
      match v with
      | .array elements => elements.all (fun element => item.keepsFinite element)
      | _ => true
  | .object shape passthrough, v =>
      match v with
      | .object members =>
          shapeKeepsFinite shape members
            && (!passthrough || keptFinite (extraMembers (shape.map Prod.fst) members))
      | _ => true
  | .record, v =>
      match v with
      | .object members => keptFinite members
      | _ => true
  | .discriminatedUnion discriminator options, v =>
      match v with
      | .object members =>
          match Members.field? members discriminator with
          | some (.string text) => optionKeepsFinite options text (.object members)
          | _ => true
      | _ => true

/-- The same of `undefined`. -/
def Schema.defaultFinite : Schema → Bool
  | .nullable inner => inner.defaultFinite
  | .default value inner => inner.keepsFinite value
  | _ => true

def shapeKeepsFinite : List (String × Schema) → Members → Bool
  | [], _ => true
  | (key, field) :: shape, members =>
      (match Members.field? members key with
        | some value => field.keepsFinite value
        | none => field.defaultFinite)
      && shapeKeepsFinite shape members

def optionKeepsFinite : List (String × Schema) → String → JsValue → Bool
  | [], _, _ => true
  | (value, option) :: options, text, v =>
      if value = text then option.keepsFinite v else optionKeepsFinite options text v

end

-- Parts

/-- The same of a field, present or absent. -/
def Schema.fieldFinite (field : Schema) : Option JsValue → Bool
  | some value => field.keepsFinite value
  | none => field.defaultFinite

theorem shapeKeepsFinite_iff {shape : List (String × Schema)} {members : Members}
    : shapeKeepsFinite shape members = true
      ↔ ∀ field ∈ shape, field.2.fieldFinite (Members.field? members field.1) = true := by
  induction shape with
  | nil => simp [shapeKeepsFinite]
  | cons field shape ih =>
      obtain ⟨key, field⟩ := field
      rw [shapeKeepsFinite, Bool.and_eq_true, ih, List.forall_mem_cons]
      refine and_congr_left fun _ => ?_
      cases Members.field? members key <;> rfl

theorem keptFinite_iff {members : Members}
    : keptFinite members = true
      ↔ ∀ member ∈ members, member.1 ≠ protoKey → member.2.isFinite = true := by
  simp [keptFinite, List.all_eq_true, or_iff_not_imp_left]

theorem optionKeepsFinite_eq {discriminator text : String} {options : List (String × Schema)}
    {v r : JsValue} (parsed : parseOption discriminator options text v = .ok r)
    : ∃ option, (text, option) ∈ options ∧ option.parse v = .ok r
        ∧ optionKeepsFinite options text v = option.keepsFinite v := by
  induction options with
  | nil => cases parsed
  | cons head options ih =>
      obtain ⟨value, option⟩ := head
      rw [parseOption] at parsed
      rw [optionKeepsFinite]
      split at parsed
      · rename_i same
        subst same
        exact ⟨option, List.mem_cons_self, parsed, if_pos rfl⟩
      · rename_i other
        obtain ⟨found, member, parsed, same⟩ := ih parsed
        exact ⟨found, List.mem_cons_of_mem _ member, parsed, (if_neg other).trans same⟩

/-- A property is among the members. -/
theorem Members.mem_of_field? {members : Members} {key : String} {value : JsValue}
    (found : Members.field? members key = some value)
    : (key, value) ∈ members := by
  obtain ⟨before, after, same, -⟩ := List.lookup_eq_some_iff.mp found
  exact List.mem_reverse.mp (same ▸ List.mem_append_right _ List.mem_cons_self)

-- Results

/-- What a schema parses and what it keeps are finite together. -/
structure FiniteTogether (s : Schema) : Prop where
  value : ∀ v r, s.parse v = .ok r → (r.isFinite = true ↔ s.keepsFinite v = true)
  byDefault : ∀ r, s.parseAbsent = .ok (some r) → (r.isFinite = true ↔ s.defaultFinite = true)
  absent : s.parseAbsent = .ok none → s.defaultFinite = true

theorem FiniteTogether.field {field : Schema} {found result : Option JsValue}
    (h : FiniteTogether field)
    (parsed : field.parseField found = .ok result)
    : (∀ r, result = some r → r.isFinite = true) ↔ field.fieldFinite found = true := by
  cases found with
  | none =>
      cases result with
      | none => exact iff_of_true (by simp) (h.absent parsed)
      | some r =>
          rw [Schema.fieldFinite, ← h.byDefault r parsed]
          simp
  | some v =>
      obtain ⟨r, value, rfl⟩ := map_eq_ok.mp (show (field.parse v).map some
        = .ok result from parsed)
      rw [Schema.fieldFinite, ← h.value v r value]
      simp

theorem finiteTogether_object {shape : List (String × Schema)} {passthrough : Bool}
    {members result : Members} (inside : ∀ field ∈ shape, FiniteTogether field.2)
    (parsed : ObjectParsed shape passthrough members result)
    : (JsValue.object result).isFinite = true
      ↔ (Schema.object shape passthrough).keepsFinite (.object members) = true := by
  simp only [JsValue.isFinite, Schema.keepsFinite, membersFinite_iff, Bool.and_eq_true,
    shapeKeepsFinite_iff, Bool.or_eq_true, Bool.not_eq_true', keptFinite_iff]
  constructor
  · intro finite
    refine ⟨fun field member => ?_, ?_⟩
    · refine ((inside field member).field (parsed.fields field member)).mp fun r found => ?_
      exact finite _ (Members.mem_of_field? found)
    · cases passes : passthrough with
      | false => exact .inl rfl
      | true =>
          exact .inr fun member extra other => finite member (parsed.kept passes member extra other)
  · rintro ⟨fields, extras⟩ member known
    rcases parsed.sources member known with ⟨field, inShape, -, value⟩ | ⟨passes, other, extra⟩
    · exact ((inside field inShape).field value).mpr (fields field inShape) member.2 rfl
    · rcases extras with absurd | extras
      · cases passes.symm.trans absurd
      · exact extras member extra other

theorem Schema.WellFormed.finiteTogether {s : Schema} (h : s.WellFormed) : FiniteTogether s := by
  induction h with
  | string =>
      refine ⟨fun v r parsed => ?_, by simp [Schema.parseAbsent], by simp [Schema.parseAbsent]⟩
      cases v with
      | string text =>
          obtain ⟨-, rfl⟩ := checked_eq_ok.mp parsed
          exact Iff.rfl
      | _ => cases parsed
  | number =>
      refine ⟨fun v r parsed => ?_, by simp [Schema.parseAbsent], by simp [Schema.parseAbsent]⟩
      simp only [Schema.parse] at parsed
      split at parsed
      · rename_i value found
        obtain ⟨-, rfl⟩ := checked_eq_ok.mp parsed
        rw [Schema.keepsFinite, found]
        cases value <;> exact Iff.rfl
      · cases parsed
  | unknown =>
      refine ⟨fun v r parsed => ?_, by simp [Schema.parseAbsent], fun _ => rfl⟩
      obtain rfl := Except.ok.inj parsed
      exact Iff.rfl
  | nullable _ ih =>
      refine ⟨fun v r parsed => ?_, ih.byDefault, ih.absent⟩
      cases v with
      | null =>
          obtain rfl := Except.ok.inj parsed
          exact Iff.rfl
      | _ => exact ih.value _ r parsed
  | optional _ ih => exact ⟨ih.value, by simp [Schema.parseAbsent], fun _ => rfl⟩
  | default _ ih =>
      refine ⟨ih.value, fun r absent => ?_, fun absent => ?_⟩
      · obtain ⟨found, parsed, same⟩ := parseAbsent_default.mp absent
        obtain rfl := Option.some.inj same
        exact ih.value _ _ parsed
      · obtain ⟨_, -, absurd⟩ := parseAbsent_default.mp absent
        cases absurd
  | @array item _ ih =>
      refine ⟨fun v r parsed => ?_, by simp [Schema.parseAbsent], by simp [Schema.parseAbsent]⟩
      cases v with
      | array elements =>
          obtain ⟨results, related, rfl⟩ := parse_array.mp parsed
          simp only [JsValue.isFinite, Schema.keepsFinite, elementsFinite_iff, List.all_eq_true]
          constructor
          · intro finite element member
            obtain ⟨result, known, parsed⟩ := exists_related related member
            exact (ih.value element result parsed).mp (finite result known)
          · intro finite result member
            obtain ⟨element, known, parsed⟩ := exists_related related.flip member
            exact (ih.value element result parsed).mpr (finite element known)
      | _ => cases parsed
  | object keys proto _ ih =>
      refine ⟨fun v r parsed => ?_, by simp [Schema.parseAbsent], by simp [Schema.parseAbsent]⟩
      cases v with
      | object members =>
          obtain ⟨result, rfl, fields, -⟩ := object_parsed keys proto parsed
          exact finiteTogether_object ih fields
      | _ => cases parsed
  | record =>
      refine ⟨fun v r parsed => ?_, by simp [Schema.parseAbsent], by simp [Schema.parseAbsent]⟩
      cases v with
      | object members =>
          obtain rfl := Except.ok.inj parsed
          simp only [JsValue.isFinite, Schema.keepsFinite, membersFinite_iff, keptFinite_iff]
          constructor
          · intro finite member known other
            exact finite member (mem_mergeObject.mpr ⟨other, List.mem_map.mpr ⟨member, known, rfl⟩⟩)
          · intro finite member merged
            obtain ⟨other, found⟩ := mem_mergeObject.mp merged
            obtain ⟨kept, known, same⟩ := List.mem_map.mp found
            obtain ⟨name, content⟩ := Prod.mk.inj same
            exact Prod.ext name (Option.some.inj content) ▸ finite kept known (name ▸ other)
      | _ => cases parsed
  | discriminatedUnion _ _ ih =>
      refine ⟨fun v r parsed => ?_, by simp [Schema.parseAbsent], by simp [Schema.parseAbsent]⟩
      cases v with
      | object members =>
          simp only [Schema.parse] at parsed
          split at parsed
          · rename_i text selected
            obtain ⟨option, member, parsed, same⟩ := optionKeepsFinite_eq parsed
            simp only [Schema.keepsFinite, selected]
            rw [same]
            exact (ih _ member).value _ r parsed
          · cases parsed
      | _ => cases parsed

/-- What a schema has parsed, it parses to itself after JSON has carried it exactly where all
numbers that it keeps of the value are finite.
-/
theorem Schema.WellFormed.carried_iff {s : Schema} {v r : JsValue} (h : s.WellFormed)
    (parsed : s.parse v = .ok r)
    : s.parse r.carried = .ok r ↔ s.keepsFinite v = true :=
  (h.parse_carried_iff parsed).trans (h.finiteTogether.value v r parsed)

end AcbuBackend.Zod
