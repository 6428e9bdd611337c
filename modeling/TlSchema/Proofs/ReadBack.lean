import TlSchema.Proofs.Emission
import TlSchema.Proofs.FieldMaps

/-!
# What is read back

The object that comes back from the wire is the one whose fields have not been set, with a field set
for each that was written. `Registry.readBack` says which object that is in terms of the object that
was written, and the lemmas say what it holds.
-/

namespace TlSchema

/-! ## Setting many fields -/

namespace Value

/-- The object with those of the fields set that there is something for. -/
def setAll (found : FieldPlan → Option Value) (fields : List FieldPlan) (object : Value) : Value :=
  fields.foldl (fun object field =>
    match found field with
    | some value => object.set field.name value
    | none => object) object

variable (found : FieldPlan → Option Value) (typeName : String)

theorem setAll_cons (field : FieldPlan) (fields : List FieldPlan) (object : Value) :
    setAll found (field :: fields) object = setAll found fields
      (match found field with
        | some value => object.set field.name value
        | none => object) := rfl

theorem setAll_object (fields : List FieldPlan) (held : List (String × Value)) :
    ∃ held', setAll found fields (.object typeName held) = .object typeName held' ∧
      (Fields.Sorted held → Fields.Sorted held') := by
  induction fields generalizing held with
  | nil => exact ⟨held, rfl, fun h => h⟩
  | cons field fields ih =>
    cases hfound : found field with
    | none =>
      obtain ⟨held', heq, hsorted⟩ := ih held
      exact ⟨held', by rw [← heq]; simp [setAll, hfound], hsorted⟩
    | some value =>
      obtain ⟨held', heq, hsorted⟩ := ih (Fields.insert field.name value held)
      refine ⟨held', by rw [← heq]; simp [setAll, hfound], fun h => ?_⟩
      exact hsorted (h.insert field.name value)

/-- Other fields hold what they held before. -/
theorem get?_setAll_of_notMem {fields : List FieldPlan} {name : String}
    (h : name ∉ fields.map (·.name)) (held : List (String × Value)) :
    (setAll found fields (.object typeName held)).get? name = Fields.find? name held := by
  induction fields generalizing held with
  | nil => rfl
  | cons field fields ih =>
    rw [List.map_cons, List.mem_cons, not_or] at h
    cases hfound : found field with
    | none => simpa [setAll, hfound] using ih h.2 held
    | some value =>
      have hset := ih h.2 (Fields.insert field.name value held)
      rw [Fields.find?_insert_ne h.1] at hset
      simpa [setAll, hfound] using hset

/-- A field that there is something for holds it. -/
theorem get?_setAll_of_mem {fields : List FieldPlan} (hnodup : (fields.map (·.name)).Nodup)
    {field : FieldPlan} (hf : field ∈ fields) (held : List (String × Value)) :
    (setAll found fields (.object typeName held)).get? field.name
      = (found field).or (Fields.find? field.name held) := by
  induction fields generalizing held with
  | nil => cases hf
  | cons first fields ih =>
    obtain ⟨hfirst, hrest⟩ := List.nodup_cons.mp hnodup
    rcases List.mem_cons.mp hf with rfl | hf
    · cases hfound : found field with
      | none =>
        simpa [setAll, hfound] using get?_setAll_of_notMem found typeName hfirst held
      | some value =>
        have hset := get?_setAll_of_notMem found typeName hfirst
          (Fields.insert field.name value held)
        rw [Fields.find?_insert_self] at hset
        simpa [setAll, hfound] using hset
    · have hne : field.name ≠ first.name := fun heq =>
        hfirst (List.mem_map.mpr ⟨field, hf, heq⟩)
      cases hfound : found first with
      | none => simpa [setAll, hfound] using ih hrest hf held
      | some value =>
        have hset := ih hrest hf (Fields.insert first.name value held)
        rw [Fields.find?_insert_ne hne] at hset
        simpa [setAll, hfound] using hset

end Value

/-! ## Values and fields -/

/-- What comes back for a value of the type, where `deeper` says it for the objects in it. -/
def TargetType.readBack (deeper : Value → Value) : TargetType → Value → Value
  | .vector element, .vector items => .vector (items.map (element.readBack deeper))
  | .named _, .object typeName fields => deeper (.object typeName fields)
  | _, value => value

namespace Plan

theorem unset_eq (plan : Plan) :
    plan.unset = Value.setAll (fun field => some field.initial.value) plan.fields
      (.object plan.typeName []) := rfl

/-- What is read into a field, if anything is. -/
def reading (plan : Plan) (deeper : Value → Value) (object : Value) (word : UInt32)
    (field : FieldPlan) : Option Value :=
  match plan.fate word field with
  | .word => some (.int word.toInt32)
  | .content => some (field.target.readBack deeper (field.content object))
  | .nothing => none

/-- The object that comes back for one whose flags are `word`. -/
def readBack (plan : Plan) (deeper : Value → Value) (object : Value) (word : UInt32) : Value :=
  plan.unset.setAll (plan.reading deeper object word) plan.fields

variable {plan : Plan} {vectorTag : UInt32}

/-- An object whose fields have not been set holds the default in each, and nothing else. -/
theorem Regular.unset_object (h : plan.Regular vectorTag) :
    ∃ held, plan.unset = .object plan.typeName held ∧ Fields.Sorted held ∧
      (∀ field ∈ plan.fields, Fields.find? field.name held = some field.initial.value) ∧
      ∀ name ∉ plan.fields.map (·.name), Fields.find? name held = none := by
  obtain ⟨held, hheld, hsorted⟩ :=
    Value.setAll_object (fun field => some field.initial.value) plan.typeName plan.fields []
  refine ⟨held, by rw [unset_eq, hheld], hsorted List.Pairwise.nil, ?_, ?_⟩
  · intro field hf
    have hget := Value.get?_setAll_of_mem (fun field => some field.initial.value) plan.typeName
      h.names_nodup hf []
    rwa [hheld, Value.get?_object] at hget
  · intro name hname
    have hget := Value.get?_setAll_of_notMem (fun field => some field.initial.value)
      plan.typeName hname []
    rwa [hheld, Value.get?_object] at hget

namespace Regular

variable (h : plan.Regular vectorTag) (deeper : Value → Value) (object : Value) (word : UInt32)
include h

theorem readBack_object : ∃ held, plan.readBack deeper object word = .object plan.typeName held ∧
    Fields.Sorted held := by
  obtain ⟨unset, hunset, hsorted, -, -⟩ := h.unset_object
  obtain ⟨held, hheld, hsorted'⟩ :=
    Value.setAll_object (plan.reading deeper object word) plan.typeName plan.fields unset
  exact ⟨held, by rw [readBack, hunset, hheld], hsorted' hsorted⟩

/-- What the object that comes back holds in a field of the plan. -/
theorem get?_readBack {field : FieldPlan} (hf : field ∈ plan.fields) :
    (plan.readBack deeper object word).get? field.name
      = some ((plan.reading deeper object word field).getD field.initial.value) := by
  obtain ⟨unset, hunset, -, hinitial, -⟩ := h.unset_object
  rw [readBack, hunset, Value.get?_setAll_of_mem _ _ h.names_nodup hf, hinitial field hf]
  cases plan.reading deeper object word field <;> rfl

theorem get?_readBack_of_notMem {name : String} (hname : name ∉ plan.fields.map (·.name)) :
    (plan.readBack deeper object word).get? name = none := by
  obtain ⟨unset, hunset, -, -, hnone⟩ := h.unset_object
  rw [readBack, hunset, Value.get?_setAll_of_notMem _ _ hname, hnone name hname]

end Regular

end Plan

/-! ## Objects -/

namespace Registry

/-- What comes back for an object that was written with `levels` levels, where `deeper` says it for
the objects in it. -/
def readBackWith (registry : Registry) (levels : Nat) (deeper : Value → Value) (value : Value) :
    Value :=
  match value with
  | .object typeName fields =>
    match registry.plan typeName with
    | .ok plan =>
      match registry.wordOf levels plan (.object typeName fields) with
      | .ok word => plan.readBack deeper (.object typeName fields) word
      | .error _ => value
    | .error _ => value
  | other => other

/-- What comes back for an object that was written with `levels` levels. -/
def readBack (registry : Registry) : (levels : Nat) → Value → Value
  | 0 => registry.readBackWith 0 id
  | levels + 1 => registry.readBackWith (levels + 1) (registry.readBack levels)

/-- What comes back for the objects in an object that was written with `levels` levels. -/
def readBackDeeper (registry : Registry) : (levels : Nat) → Value → Value
  | 0 => id
  | levels + 1 => registry.readBack levels

theorem readBack_eq_with (registry : Registry) (levels : Nat) :
    registry.readBack levels = registry.readBackWith levels (registry.readBackDeeper levels) := by
  cases levels <;> rfl

theorem readBackWith_eq {registry : Registry} {levels : Nat} {typeName : String} {plan : Plan}
    {fields : List (String × Value)} {word : UInt32} (hplan : registry.plan typeName = .ok plan)
    (hword : registry.wordOf levels plan (.object typeName fields) = .ok word)
    (deeper : Value → Value) :
    registry.readBackWith levels deeper (.object typeName fields)
      = plan.readBack deeper (.object typeName fields) word := by
  simp only [readBackWith, hplan, hword]

end Registry

end TlSchema
