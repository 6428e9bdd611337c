import TlSchema.Proofs.Defaults
import TlSchema.Proofs.InStep

/-!
# Canonical objects

A canonical object is one that nothing has to be done to: it has all fields of its plan and no
others, each of the right type, its flags say which guarded fields differ from their defaults, and a
guarded field that does not is the default itself. Finding the flags of such an object gives the
flags it has.
-/

namespace TlSchema

open Wire

/-- The value is of the type and can be written; `object` says so for the objects in it, given the
type whose entry point reads them. -/
def TargetType.Fits (object : String → Value → Prop) : TargetType → Value → Prop
  | .string, .string text => text.toUTF8.size ≤ maxPayload
  | .boolean, .bool _ => True
  | .int32, .int _ => True
  | .int64, .long _ => True
  | .vector element, .vector items => items.length < 2 ^ 31 ∧ ∀ item ∈ items, element.Fits object item
  | .named entry, .object typeName fields => object entry (.object typeName fields)
  | _, _ => False

namespace Registry

/-- The entry point has a branch for the type of the object. -/
def Accepts (registry : Registry) (entry : String) (value : Value) : Prop :=
  ∃ plan, registry.plan entry = .ok plan ∧
    ∃ branch ∈ plan.dispatch.branches, value.typeName? = some branch.typeName

/-- The fields of an object are those of its plan in canonical form, where `deeper` says it for the
objects in it. -/
structure CanonicalFields (registry : Registry) (deeper : Value → Prop) (plan : Plan)
    (object : Value) : Prop where
  /-- The object has the fields of the plan and no others. -/
  names : ∀ name, object.get? name ≠ none ↔ name ∈ plan.fields.map (·.name)
  /-- What is written fits. -/
  fits : ∀ field ∈ plan.fields, ∀ held, object.get? field.name = some held →
    plan.fate (object.flagWord flagsName) field ≠ .nothing →
      field.target.Fits (fun entry value => registry.Accepts entry value ∧ deeper value) held
  /-- The flags say which guarded fields differ from their defaults. -/
  tracked : ∀ field ∈ plan.fields, ∀ held, object.get? field.name = some held →
    ∀ bit, field.flagBit? = some bit →
      (Flags.has (object.flagWord flagsName) bit = true ↔ ¬ registry.AtDefault field.initial held)
  /-- A guarded field that is not written holds its default. -/
  cleared : ∀ field ∈ plan.fields, ∀ held, object.get? field.name = some held →
    ∀ bit, field.flagBit? = some bit → Flags.has (object.flagWord flagsName) bit = false →
      held = field.initial.value

/-- The value is a canonical object, where `deeper` says it for the objects in it. -/
def CanonicalWith (registry : Registry) (deeper : Value → Prop) : Value → Prop
  | .object typeName fields => Fields.Sorted fields ∧ ∃ plan, registry.plan typeName = .ok plan ∧
      registry.CanonicalFields deeper plan (.object typeName fields)
  | _ => False

/-- The value is a canonical object with at most `levels` levels of objects in it. -/
def Canonical (registry : Registry) : (levels : Nat) → Value → Prop
  | 0 => registry.CanonicalWith fun _ => False
  | levels + 1 => registry.CanonicalWith (registry.Canonical levels)

end Registry

/-! ## Objects in values -/

namespace TargetType

theorem Fits.of_object {object : String → Value → Prop} {target : TargetType}
    {typeName : String} {fields : List (String × Value)}
    (h : target.Fits object (.object typeName fields)) :
    ∃ entry, target = .named entry ∧ object entry (.object typeName fields) := by
  cases target with
  | named entry => exact ⟨entry, rfl, h⟩
  | _ => exact h.elim

theorem IsInitial.of_object {target : TargetType} {initial : DefaultValue} {typeName : String}
    {fields : List (String × Value)} (h : target.IsInitial initial)
    (hvalue : initial.value = .object typeName fields) :
    fields = [] ∧ target.leaf? = some typeName := by
  cases initial with
  | construct name =>
    cases hvalue
    cases target with
    | named entry =>
      cases h
      exact ⟨rfl, rfl⟩
    | _ => exact h.elim
  | _ => cases hvalue

end TargetType

/-! ## Defaults and flags -/

namespace Registry

variable {registry : Registry} {vectorTag : UInt32} {plan : Plan} {levels : Nat}
  {typeName : String} {fields : List (String × Value)}

/-- The test against a default has an answer if it has one for the fields of an object. -/
theorem exists_isDefaultWith {deeper : DefaultValue → Value → Except CodecError Bool}
    (initial : DefaultValue) {value : Value}
    (h : ∀ typeName fields, value = .object typeName fields →
      ∃ plan, registry.plan typeName = .ok plan ∧ ∀ field ∈ plan.fields, ∀ held,
        Fields.find? field.name fields = some held → ∃ b, deeper field.initial held = .ok b) :
    ∃ b, registry.isDefaultWith deeper initial value = .ok b := by
  unfold isDefaultWith
  split
  case h_6 typeName name fields =>
    by_cases hname : name = typeName
    · subst hname
      obtain ⟨plan, hplan, hfields⟩ := h name fields rfl
      rw [if_pos rfl, hplan]
      refine Results.exists_allM_eq_ok fun field hf => ?_
      cases hheld : Fields.find? field.name fields with
      | none => exact ⟨true, rfl⟩
      | some held => exact hfields field hf held hheld
    · exact ⟨false, if_neg hname⟩
  all_goals exact ⟨_, rfl⟩

/-- What is known of the objects in a canonical object. -/
def CanonicalDeeper (registry : Registry) : (levels : Nat) → Value → Prop
  | 0 => fun _ => False
  | levels + 1 => registry.Canonical levels

theorem canonical_eq (levels : Nat) :
    registry.Canonical levels = registry.CanonicalWith (registry.CanonicalDeeper levels) := by
  cases levels <;> rfl

/-- Canonical objects are built from canonical objects with fewer levels. -/
theorem Canonical.induction {motive : Nat → Value → Prop}
    (object : ∀ levels typeName fields plan, registry.plan typeName = .ok plan →
      Fields.Sorted fields →
      registry.CanonicalFields (registry.CanonicalDeeper levels) plan (.object typeName fields) →
      (∀ below inner, levels = below + 1 → registry.Canonical below inner → motive below inner) →
        motive levels (.object typeName fields))
    {value : Value} (h : registry.Canonical levels value) : motive levels value := by
  induction levels generalizing value with
  | zero =>
    cases value with
    | object typeName fields =>
      obtain ⟨hsorted, plan, hplan, hfields⟩ := h
      refine object 0 typeName fields plan hplan hsorted hfields ?_
      intro below inner hlevels
      cases hlevels
    | _ => exact h.elim
  | succ levels ih =>
    cases value with
    | object typeName fields =>
      obtain ⟨hsorted, plan, hplan, hfields⟩ := h
      refine object (levels + 1) typeName fields plan hplan hsorted hfields ?_
      intro below inner hlevels hinner
      cases hlevels
      exact ih hinner
    | _ => exact h.elim

/-- A field of a canonical object fits, or it is not written and holds its default. -/
theorem CanonicalFields.fits_or_initial {deeper : Value → Prop} {object held : Value}
    (h : registry.CanonicalFields deeper plan object) {field : FieldPlan}
    (hf : field ∈ plan.fields) (hheld : object.get? field.name = some held) :
    field.target.Fits (fun entry value => registry.Accepts entry value ∧ deeper value) held ∨
      held = field.initial.value := by
  by_cases hfate : plan.fate (object.flagWord flagsName) field = .nothing
  · obtain ⟨bit, hbit, hclear⟩ := Plan.fate_eq_nothing_iff.mp hfate
    exact Or.inr (h.cleared field hf held hheld bit hbit hclear)
  · exact Or.inl (h.fits field hf held hheld hfate)

theorem CanonicalFields.exists_held {deeper : Value → Prop} {object : Value}
    (h : registry.CanonicalFields deeper plan object) {field : FieldPlan}
    (hf : field ∈ plan.fields) : ∃ held, object.get? field.name = some held :=
  Option.ne_none_iff_exists'.mp ((h.names _).mpr (List.mem_map.mpr ⟨field, hf, rfl⟩))

/-- An object stands for one whose fields have not been set, or `deeper` holds of it. -/
def Shallow (registry : Registry) (deeper : Value → Prop) (value : Value) : Prop :=
  ∀ typeName fields, value = .object typeName fields →
    (fields = [] ∧ ∃ plan, registry.plan typeName = .ok plan) ∨ deeper value

/-- A value can be compared with defaults if the objects in it are known so deep: none at the bottom,
and above it objects that have plans, whose fields are known one level less deep. -/
theorem exists_isDefault_of_shallow {known : Nat → Value → Prop} (hbottom : ∀ value, ¬ known 0 value)
    (hfields : ∀ levels typeName fields, known (levels + 1) (.object typeName fields) →
      ∃ plan, registry.plan typeName = .ok plan ∧ ∀ field ∈ plan.fields, ∀ held,
        Fields.find? field.name fields = some held → registry.Shallow (known levels) held)
    (levels : Nat) (initial : DefaultValue) {value : Value}
    (h : registry.Shallow (known levels) value) :
    ∃ b, registry.isDefault levels initial value = .ok b := by
  have hunset : ∀ {fields : List (String × Value)}, fields = [] → ∀ name held,
      Fields.find? name fields ≠ some held := by
    rintro fields rfl name held hheld
    cases hheld
  induction levels generalizing initial value with
  | zero =>
    refine exists_isDefaultWith initial fun typeName fields hvalue => ?_
    rcases h typeName fields hvalue with ⟨hempty, plan, hplan⟩ | hknown
    · exact ⟨plan, hplan, fun field hf held hheld => absurd hheld (hunset hempty _ held)⟩
    · exact absurd hknown (hbottom value)
  | succ levels ih =>
    refine exists_isDefaultWith initial fun typeName fields hvalue => ?_
    rcases h typeName fields hvalue with ⟨hempty, plan, hplan⟩ | hknown
    · exact ⟨plan, hplan, fun field hf held hheld => absurd hheld (hunset hempty _ held)⟩
    · rw [hvalue] at hknown
      obtain ⟨plan, hplan, hheld⟩ := hfields levels typeName fields hknown
      exact ⟨plan, hplan, fun field hf held hfound => ih field.initial (hheld field hf held hfound)⟩

theorem CanonicalFields.shallow {deeper : Value → Prop} {object held : Value}
    (h : registry.CanonicalFields deeper plan object) (hreg : registry.Regular vectorTag)
    (hplan : registry.plan typeName = .ok plan) {field : FieldPlan} (hf : field ∈ plan.fields)
    (hheld : object.get? field.name = some held) : registry.Shallow deeper held := by
  rintro name inner rfl
  rcases h.fits_or_initial hf hheld with hfits | hinitial
  · obtain ⟨entry, -, -, hdeeper⟩ := hfits.of_object
    exact Or.inr hdeeper
  · obtain ⟨rfl, hleaf⟩ := ((hreg.plans hplan).isInitial field hf).of_object hinitial.symm
    exact Or.inl ⟨rfl, hreg.defined hplan field hf name hleaf⟩

/-- What the fields of a canonical object hold can be compared with their defaults. -/
theorem exists_isDefault (hreg : registry.Regular vectorTag) (levels : Nat)
    (initial : DefaultValue) {value : Value}
    (h : registry.Shallow (registry.CanonicalDeeper levels) value) :
    ∃ b, registry.isDefault levels initial value = .ok b := by
  refine exists_isDefault_of_shallow (fun _ h => h) (fun levels typeName fields hcanon => ?_)
    levels initial h
  have hcanon : registry.Canonical levels (.object typeName fields) := hcanon
  rw [canonical_eq] at hcanon
  obtain ⟨-, plan, hplan, hfields⟩ := hcanon
  exact ⟨plan, hplan, fun field hf held hheld => hfields.shallow hreg hplan hf hheld⟩

namespace CanonicalFields

variable {object : Value}

theorem comparable (h : registry.CanonicalFields (registry.CanonicalDeeper levels) plan object)
    (hreg : registry.Regular vectorTag) (hplan : registry.plan typeName = .ok plan)
    {field : FieldPlan} (hf : field ∈ plan.fields) : registry.Comparable levels object field :=
  fun _ hheld => exists_isDefault hreg levels field.initial (h.shallow hreg hplan hf hheld)

/-- The flags of a canonical object say which guarded fields are found to differ. -/
theorem differs_eq (h : registry.CanonicalFields (registry.CanonicalDeeper levels) plan object)
    (hreg : registry.Regular vectorTag) (hplan : registry.plan typeName = .ok plan)
    {field : FieldPlan} (hf : field ∈ plan.fields) {bit : UInt8}
    (hbit : field.flagBit? = some bit) :
    registry.differs levels object field = Flags.has (object.flagWord flagsName) bit := by
  obtain ⟨held, hheld⟩ := h.exists_held hf
  obtain ⟨unset, hunset⟩ := h.comparable hreg hplan hf held hheld
  have hdiffers : registry.differs levels object field = !unset := by
    simp only [differs, hheld, hunset]
  rw [hdiffers, Bool.eq_iff_iff, h.tracked field hf held hheld bit hbit, ← isDefault_iff hunset]
  cases unset <;> simp

/-- Finding the flags of a canonical object gives the flags it has. -/
theorem wordOf_eq (h : registry.CanonicalFields (registry.CanonicalDeeper levels) plan object)
    (hreg : registry.Regular vectorTag) (hplan : registry.plan typeName = .ok plan) :
    registry.wordOf levels plan object
      = .ok (if plan.isGuarded then object.flagWord flagsName else 0) := by
  have hregular := hreg.plans hplan
  refine (wordOf_eq_ok hregular).mpr ⟨fun field hf _ => h.comparable hreg hplan hf, ?_⟩
  have hmark : object.flagWord flagsName
      = Flags.mark (registry.differs levels object) plan.fields (object.flagWord flagsName) := by
    refine Flags.eq_of_has fun bit hb => ?_
    rw [Flags.has_mark _ hregular.guards _ hb]
    cases hlast : (plan.fields.filter (·.flagBit? = some bit)).getLast? with
    | none => rfl
    | some field =>
      obtain ⟨hf, hbit⟩ := List.mem_filter.mp (List.mem_of_getLast? hlast)
      exact (h.differs_eq hreg hplan hf (by simpa using hbit)).symm
  rw [← hmark]

end CanonicalFields

end Registry

end TlSchema
