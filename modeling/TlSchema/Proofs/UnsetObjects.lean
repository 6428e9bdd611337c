import TlSchema.Proofs.MissingFields
import TlSchema.Proofs.WriteErrors

/-!
# Objects whose fields have not been set

An object with no fields, or with the default in each field, is written by its plan alone: no flags
are set, and the defaults are made as the fields come up. The default of a field of a named type is
an object of that type without fields, so writing follows the references from type to type, and only
the limit on nesting stops it. `Registry.HasWalk` says how far the references lead.

Vectors lead nowhere because their default is empty, guarded fields because they are left out, and
flags because their word is written in their place.
-/

namespace TlSchema

open Encoder

/-! ## References -/

/-- The field is always written, and as an object of the type `next` if it has not been set. -/
def Plan.RefersBy (plan : Plan) (field : FieldPlan) (next : String) : Prop :=
  field.flagBit? = none ∧ field.target = .named next ∧
    ¬ (plan.isGuarded = true ∧ field.name = flagsName)

namespace Registry

/-- Some field of the type refers to the type `next`. -/
def Refers (registry : Registry) (typeName next : String) : Prop :=
  ∃ plan, registry.plan typeName = .ok plan ∧ ∃ field ∈ plan.fields, plan.RefersBy field next

/-- A walk along so many references starts at the type. -/
def HasWalk (registry : Registry) : (edges : Nat) → String → Prop
  | 0, _ => True
  | edges + 1, typeName => ∃ next, registry.Refers typeName next ∧ registry.HasWalk edges next

variable {registry : Registry} {vectorTag : UInt32} {plan : Plan} {typeName : String}

theorem refers_iff (hplan : registry.plan typeName = .ok plan) {next : String} :
    registry.Refers typeName next ↔ ∃ field ∈ plan.fields, plan.RefersBy field next := by
  constructor
  · rintro ⟨plan', hplan', hfield⟩
    cases hplan.symm.trans hplan'
    exact hfield
  · intro hfield
    exact ⟨plan, hplan, hfield⟩

theorem Regular.exists_plan_of_refers (hreg : registry.Regular vectorTag) {next : String}
    (h : registry.Refers typeName next) : ∃ named, registry.plan next = .ok named := by
  obtain ⟨plan, hplan, field, hf, -, htarget, -⟩ := h
  exact hreg.defined hplan field hf next (by rw [htarget]; rfl)

end Registry

/-! ## No flags are set -/

theorem Flags.mark_false (fields : List FieldPlan) : mark (fun _ => false) fields 0 = 0 := by
  have hput : ∀ bit, put 0 bit false = 0 := fun bit => by simp [put]
  induction fields with
  | nil => rfl
  | cons field fields ih =>
    unfold mark at ih ⊢
    rw [List.foldl_cons]
    cases field.flagBit? with
    | none => exact ih
    | some bit =>
      simp only [hput]
      exact ih

namespace Registry

variable {registry : Registry} {vectorTag : UInt32} {plan : Plan} {typeName : String}

/-- A default is found to be itself without going into objects. -/
theorem isDefault_value {initial : DefaultValue}
    (h : ∀ typeName, initial = .construct typeName → ∃ plan, registry.plan typeName = .ok plan)
    (levels : Nat) : registry.isDefault levels initial initial.value = .ok true := by
  have hwith : ∀ deeper, registry.isDefaultWith deeper initial initial.value = .ok true := by
    intro deeper
    cases initial with
    | construct typeName =>
      obtain ⟨plan, hplan⟩ := h typeName rfl
      simp only [DefaultValue.value, isDefaultWith, if_true, hplan]
      exact Results.allM_eq_true.mpr fun field _ => rfl
    | emptyVector => rfl
    | _ => simp [DefaultValue.value, isDefaultWith]
  cases levels <;> exact hwith _

/-- No flags are set in an object that has the default in each field or lacks it. -/
theorem wordOf_eq_zero (hreg : registry.Regular vectorTag)
    (hplan : registry.plan typeName = .ok plan) {object : Value}
    (h : ∀ field ∈ plan.fields, field.content object = field.initial.value) (levels : Nat) :
    registry.wordOf levels plan object = .ok 0 := by
  have hregular := hreg.plans hplan
  have hcomp : ∀ field ∈ plan.fields, registry.Comparable levels object field := by
    intro field hf held hheld
    have hcontent := h field hf
    rw [FieldPlan.content, hheld, Option.getD_some] at hcontent
    rw [hcontent]
    exact ⟨true, isDefault_value (fun _ hinitial =>
      hreg.exists_plan_of_initial hplan hf hinitial) levels⟩
  have hdiffers : ∀ field ∈ plan.fields, registry.differs levels object field = false := by
    intro field hf
    rw [Bool.eq_false_iff, Ne, differs_iff_content hreg hplan hf (hcomp field hf), h field hf,
      not_not]
    exact hreg.atDefault_initial hplan hf
  refine (wordOf_eq_ok hregular).mpr ⟨fun field hf _ => hcomp field hf, ?_⟩
  by_cases hguarded : plan.isGuarded = true
  · obtain ⟨flags, hflags, -, hname⟩ := hregular.flags_of_guarded hguarded
    have hheld : object.flagWord flagsName = 0 := by
      rw [hregular.flagWord_eq_content hflags hname, h flags hflags,
        (hregular.isInitial flags hflags).asInt_value]
      rfl
    rw [if_pos hguarded, hheld, Flags.mark_congr (fun field hf _ => hdiffers field hf),
      Flags.mark_false]
  · rw [if_neg hguarded]

/-- It makes no difference to what is written whether an object has its defaults or lacks them. -/
theorem writeObjectWith_unset (hreg : registry.Regular vectorTag)
    (hplan : registry.plan typeName = .ok plan) {fields : List (String × Value)}
    (h : ∀ field ∈ plan.fields,
      field.content (.object typeName fields) = field.initial.value)
    (levels : Nat) (deeper : Value → Encoder Unit) :
    registry.writeObjectWith levels deeper (.object typeName fields)
      = registry.writeObjectWith levels deeper (.object typeName []) := by
  have hregular := hreg.plans hplan
  have hempty : ∀ field ∈ plan.fields,
      field.content (.object typeName []) = field.initial.value := fun _ _ => rfl
  rw [registry.writeObjectWith_eq hplan hregular, registry.writeObjectWith_eq hplan hregular,
    wordOf_eq_zero hreg hplan h, wordOf_eq_zero hreg hplan hempty]
  simp only [ofExcept_ok, pure_bind]
  congr 1
  funext _
  refine forM_congr (List.forall₂_same.mpr fun field hf => ?_)
  unfold Plan.emit
  rw [h field hf, hempty field hf]

theorem encode_unset (hreg : registry.Regular vectorTag)
    (hplan : registry.plan typeName = .ok plan) :
    registry.encode plan.unset = registry.encode (.object typeName []) := by
  obtain ⟨held, hunset, -, hinitial, -⟩ := (hreg.plans hplan).unset_object
  rw [hreg.typeName_eq hplan] at hunset
  have hcontent : ∀ field ∈ plan.fields,
      field.content (.object typeName held) = field.initial.value := by
    intro field hf
    rw [FieldPlan.content, Value.get?_object, hinitial field hf, Option.getD_some]
  unfold encode encodeInto
  rw [hunset, registry.writeObject_eq, writeObjectWith_unset hreg hplan hcontent]

end Registry

/-! ## Writing follows the references -/

/-- A default is written, or it is an object and writing goes on there. -/
theorem TargetType.IsInitial.write_value {target : TargetType} {initial : DefaultValue}
    (h : target.IsInitial initial) (vectorTag : UInt32) (deeper : Value → Encoder Unit) :
    (∃ next, target = .named next ∧
        (target.codec vectorTag).write deeper initial.value = deeper (.object next [])) ∨
      (∀ next, target ≠ .named next) ∧
        ∃ bs, Writes ((target.codec vectorTag).write deeper initial.value) bs () := by
  cases target with
  | named next =>
    cases initial with
    | construct name =>
      cases h
      exact Or.inl ⟨next, rfl, rfl⟩
    | _ => exact h.elim
  | string =>
    cases initial with
    | string text =>
      cases h
      exact Or.inr ⟨fun _ => by simp, _, writes_putResult rfl⟩
    | _ => exact h.elim
  | boolean =>
    cases initial with
    | bool b => exact Or.inr ⟨fun _ => by simp, _, writes_put _⟩
    | _ => exact h.elim
  | int32 =>
    cases initial with
    | int32 n => exact Or.inr ⟨fun _ => by simp, _, writes_put _⟩
    | _ => exact h.elim
  | int64 =>
    cases initial with
    | int64 n => exact Or.inr ⟨fun _ => by simp, _, writes_put _⟩
    | _ => exact h.elim
  | vector element =>
    cases initial with
    | emptyVector =>
      exact Or.inr ⟨fun _ => by simp, _, (writes_put _).bind ((writes_put _).bind (writes_pure ()))⟩
    | _ => exact h.elim

namespace Plan

variable {plan : Plan} {vectorTag : UInt32}

/-- Writing a field that has not been set succeeds, unless the field refers to a type. -/
theorem Regular.emit_unset (h : plan.Regular vectorTag) (deeper : Value → Encoder Unit)
    (typeName : String) {field : FieldPlan} (hf : field ∈ plan.fields) :
    (∃ next, plan.RefersBy field next ∧
        plan.emit vectorTag deeper (.object typeName []) 0 field = deeper (.object next [])) ∨
      (∀ next, ¬ plan.RefersBy field next) ∧
        ∃ bs, Writes (plan.emit vectorTag deeper (.object typeName []) 0 field) bs () := by
  unfold emit
  cases hbit : field.flagBit? with
  | some bit =>
    rw [plan.fate_of_guarded 0 hbit, Flags.has_zero]
    refine Or.inr ⟨fun next hrefers => ?_, _, writes_pure ()⟩
    cases hbit.symm.trans hrefers.1
  | none =>
    rw [plan.fate_of_not_guarded 0 hbit]
    by_cases hflags : plan.isGuarded = true ∧ field.name = flagsName
    · rw [if_pos hflags]
      exact Or.inr ⟨fun next hrefers => hrefers.2.2 hflags, _, writes_put _⟩
    · rw [if_neg hflags]
      have hcontent : field.content (.object typeName []) = field.initial.value := rfl
      rcases (h.isInitial field hf).write_value vectorTag deeper with
        ⟨next, htarget, hwrite⟩ | ⟨hother, hwrite⟩
      · exact Or.inl ⟨next, ⟨hbit, htarget, hflags⟩, by rw [hcontent]; exact hwrite⟩
      · exact Or.inr ⟨fun next hrefers => hother next hrefers.2.1, by rw [hcontent]; exact hwrite⟩

end Plan

namespace Registry

variable {registry : Registry} {vectorTag : UInt32} {plan : Plan} {typeName : String}

/-- An object without fields is written if all objects are that its type refers to. -/
theorem exists_writes_unset_iff (hreg : registry.Regular vectorTag)
    (hplan : registry.plan typeName = .ok plan) (levels : Nat) {deeper : Value → Encoder Unit}
    (hsettles : ∀ value, Settles (deeper value)) :
    (∃ bs, Writes (registry.writeObjectWith levels deeper (.object typeName [])) bs ()) ↔
      ∀ next, registry.Refers typeName next → ∃ bs, Writes (deeper (.object next [])) bs () := by
  have hregular := hreg.plans hplan
  have hword : registry.wordOf levels plan (.object typeName []) = .ok 0 :=
    wordOf_eq_zero hreg hplan (fun _ _ => rfl) levels
  constructor
  · rintro ⟨bs, hw⟩ next hrefers
    obtain ⟨field, hf, hby⟩ := (refers_iff hplan).mp hrefers
    obtain ⟨word, rest, hfound, hrest, -⟩ :=
      (registry.writes_writeObjectWith_iff hplan hregular levels hsettles).mp hw
    cases hword.symm.trans hfound
    obtain ⟨bs', hfield⟩ := hrest.of_mem (plan.settles_emit hsettles vectorTag _ 0) hf
    rcases hregular.emit_unset deeper typeName hf with ⟨other, hother, hemit⟩ | ⟨hnone, -⟩
    · cases hby.2.1.symm.trans hother.2.1
      rw [hemit] at hfield
      exact ⟨bs', hfield⟩
    · exact absurd hby (hnone next)
  · intro h
    have hfields : ∀ field ∈ plan.fields,
        ∃ bs, Writes (plan.emit vectorTag deeper (.object typeName []) 0 field) bs () := by
      intro field hf
      rcases hregular.emit_unset deeper typeName hf with ⟨next, hby, hemit⟩ | ⟨-, hwrites⟩
      · rw [hemit]
        exact h next ((refers_iff hplan).mpr ⟨field, hf, hby⟩)
      · exact hwrites
    obtain ⟨rest, hrest⟩ := exists_writes_forM hfields
    exact ⟨_, (registry.writes_writeObjectWith_iff hplan hregular levels hsettles).mpr
      ⟨0, rest, hword, hrest, rfl⟩⟩

/-- An object without fields fails only as the objects do that its type refers to. -/
theorem settlesWithin_unset (hreg : registry.Regular vectorTag)
    (hplan : registry.plan typeName = .ok plan) (levels : Nat) {deeper : Value → Encoder Unit}
    {allowed : CodecError → Prop}
    (h : ∀ next, registry.Refers typeName next →
      SettlesWithin allowed (deeper (.object next []))) :
    SettlesWithin allowed (registry.writeObjectWith levels deeper (.object typeName [])) := by
  have hregular := hreg.plans hplan
  rw [registry.writeObjectWith_eq hplan hregular,
    wordOf_eq_zero hreg hplan (fun _ _ => rfl) levels, ofExcept_ok]
  simp only [pure_bind]
  refine (writes_put _).settlesWithin.bind fun _ _ _ => settlesWithin_forM fun field hf => ?_
  rcases hregular.emit_unset deeper typeName hf with ⟨next, hby, hemit⟩ | ⟨-, bs, hwrites⟩
  · rw [hemit]
    exact h next ((refers_iff hplan).mpr ⟨field, hf, hby⟩)
  · exact hwrites.settlesWithin

/-- With `levels` levels left, an object without fields is written unless the references lead
further than that. -/
theorem exists_writes_iff_not_hasWalk (hreg : registry.Regular vectorTag) (levels : Nat)
    (hplan : registry.plan typeName = .ok plan) :
    (∃ bs, Writes (registry.writeObject levels (.object typeName [])) bs ()) ↔
      ¬ registry.HasWalk (levels + 1) typeName := by
  induction levels generalizing typeName plan with
  | zero =>
    rw [registry.writeObject_eq,
      exists_writes_unset_iff hreg hplan 0 (registry.settles_writeDeeper 0)]
    constructor
    · -- there is no level left for the first reference
      rintro h ⟨next, hrefers, -⟩
      obtain ⟨bs, hw⟩ := h next hrefers
      exact (fails_throw .nestingDepth).not_writes hw
    · intro h next hrefers
      exact absurd ⟨next, hrefers, trivial⟩ h
  | succ levels ih =>
    rw [registry.writeObject_eq,
      exists_writes_unset_iff hreg hplan _ (registry.settles_writeDeeper (levels + 1))]
    constructor
    · -- the first reference takes a level, and the rest of the walk starts one level deeper
      rintro h ⟨next, hrefers, hwalk⟩
      obtain ⟨named, hnamed⟩ := hreg.exists_plan_of_refers hrefers
      exact (ih hnamed).mp (h next hrefers) hwalk
    · intro h next hrefers
      obtain ⟨named, hnamed⟩ := hreg.exists_plan_of_refers hrefers
      exact (ih hnamed).mpr fun hwalk => h ⟨next, hrefers, hwalk⟩

theorem settlesWithin_nestingDepth (hreg : registry.Regular vectorTag) (levels : Nat)
    (hplan : registry.plan typeName = .ok plan) :
    SettlesWithin (· = .nestingDepth) (registry.writeObject levels (.object typeName [])) := by
  induction levels generalizing typeName plan with
  | zero =>
    rw [registry.writeObject_eq]
    exact settlesWithin_unset hreg hplan 0 fun _ _ => settlesWithin_throw rfl
  | succ levels ih =>
    rw [registry.writeObject_eq]
    refine settlesWithin_unset hreg hplan _ fun next hrefers => ?_
    obtain ⟨named, hnamed⟩ := hreg.exists_plan_of_refers hrefers
    exact ih hnamed

end Registry

/-- The object of a type whose fields have not been set is written like one without fields. That
fails if a walk of one reference more than objects may be nested starts at the type, and then
because of the nesting; otherwise it succeeds. -/
theorem Compilation.encode_unset_iff_hasWalk {text : String} {settings : Settings}
    {unit : Compilation} (hunit : ofText text settings = .ok unit) {typeName : String} {plan : Plan}
    (hplan : unit.registry.plan typeName = .ok plan) :
    (∃ object, unit.registry.instantiate typeName = .ok object ∧
        unit.registry.encode object = unit.registry.encode (.object typeName [])) ∧
      (unit.registry.HasWalk 65 typeName →
        unit.registry.encode (.object typeName []) = .error .nestingDepth) ∧
      (¬ unit.registry.HasWalk 65 typeName →
        ∃ bs, unit.registry.encode (.object typeName []) = .ok bs) := by
  obtain ⟨vectorTag, -, haccepted⟩ := accepted_of_ofText hunit
  have hreg := haccepted.regular
  have hwalk := Registry.exists_writes_iff_not_hasWalk hreg maxNesting hplan
  refine ⟨⟨plan.unset, ?_, Registry.encode_unset hreg hplan⟩, fun h => ?_, fun h => ?_⟩
  · rw [Registry.instantiate, hplan]
    rfl
  · have hsettles := Registry.settlesWithin_nestingDepth hreg maxNesting hplan
    rcases Registry.encode_error_of_settlesWithin hsettles with ⟨bs, hbs⟩ | ⟨error, herror, rfl⟩
    · exact absurd h (hwalk.mp ⟨bs, unit.registry.encode_eq_ok.mp hbs⟩)
    · exact herror
  · obtain ⟨bs, hbs⟩ := hwalk.mpr h
    exact ⟨bs, unit.registry.encode_eq_ok.mpr hbs⟩

namespace SelfReference

/-- A type that refers to itself, and one that does so in all ways that lead nowhere. -/
def text : String :=
  "a.p#1 next:a.p = a.P;
a.q#2 flags:a.q list:Vector<a.q> next:flags.0?a.q r:a.r = a.Q;
a.r#3 y:long = a.R;"

/-- What it is compiled to. -/
def unit : Compilation := .ofDefinitions
  [⟨"a.p", 1, [⟨"next", .named "a.p", none⟩], .named "a.P", ⟨1, 1⟩⟩,
    ⟨"a.q", 2, [⟨"flags", .named "a.q", none⟩, ⟨"list", .vector (.named "a.q"), none⟩,
      ⟨"next", .named "a.q", some 0⟩, ⟨"r", .named "a.r", none⟩], .named "a.Q", ⟨2, 1⟩⟩,
    ⟨"a.r", 3, [⟨"y", .int64, none⟩], .named "a.R", ⟨3, 1⟩⟩]

theorem ofText_text : Compilation.ofText text {} = .ok unit := by decide +kernel

theorem exists_plan_p : ∃ plan, unit.registry.plan "a_P" = .ok plan ∧
    plan.isGuarded = false ∧ plan.fields = [⟨"next", .named "a_P", .construct "a_P", none⟩] :=
  ⟨_, rfl, rfl, rfl⟩

theorem exists_plan_q : ∃ plan, unit.registry.plan "a_Q" = .ok plan ∧
    plan.isGuarded = true ∧ plan.fields =
      [⟨"flags", .named "a_Q", .construct "a_Q", none⟩,
        ⟨"list", .vector (.named "a_Q"), .emptyVector, none⟩,
        ⟨"next", .named "a_Q", .construct "a_Q", some 0⟩,
        ⟨"r", .named "a_R", .construct "a_R", none⟩] :=
  ⟨_, rfl, rfl, rfl⟩

theorem exists_plan_r : ∃ plan, unit.registry.plan "a_R" = .ok plan ∧
    plan.fields = [⟨"y", .int64, .int64 0, none⟩] :=
  ⟨_, rfl, rfl⟩

theorem hasWalk_p (edges : Nat) : unit.registry.HasWalk edges "a_P" := by
  obtain ⟨plan, hplan, hguarded, hfields⟩ := exists_plan_p
  have hrefers : unit.registry.Refers "a_P" "a_P" := by
    rw [Registry.refers_iff hplan]
    simp [hfields, Plan.RefersBy, hguarded]
  induction edges with
  | zero => trivial
  | succ edges ih => exact ⟨"a_P", hrefers, ih⟩

theorem not_hasWalk_q (edges : Nat) : ¬ unit.registry.HasWalk (edges + 2) "a_Q" := by
  obtain ⟨plan, hplan, hguarded, hfields⟩ := exists_plan_q
  obtain ⟨planR, hplanR, hfieldsR⟩ := exists_plan_r
  rintro ⟨next, hnext, last, hlast, -⟩
  rw [Registry.refers_iff hplan] at hnext
  have hr : next = "a_R" := by
    simpa [hfields, Plan.RefersBy, hguarded, flagsName, eq_comm] using hnext
  subst hr
  rw [Registry.refers_iff hplanR] at hlast
  simp [hfieldsR, Plan.RefersBy] at hlast

theorem encode_unset_selfReference :
    Compilation.ofText text {} = .ok unit ∧
      (∃ plan, unit.registry.plan "a_P" = .ok plan) ∧ unit.registry.HasWalk 65 "a_P" ∧
      unit.registry.encode (.object "a_P" []) = .error .nestingDepth ∧
      (∃ plan, unit.registry.plan "a_Q" = .ok plan) ∧ ¬ unit.registry.HasWalk 65 "a_Q" ∧
      ∃ object bs, unit.registry.instantiate "a_Q" = .ok object ∧
        unit.registry.encode (.object "a_Q" []) = .ok bs ∧
        unit.registry.encode object = .ok bs := by
  obtain ⟨planP, hplanP, -⟩ := exists_plan_p
  obtain ⟨planQ, hplanQ, -⟩ := exists_plan_q
  obtain ⟨-, hfails, -⟩ := Compilation.encode_unset_iff_hasWalk ofText_text hplanP
  obtain ⟨⟨object, hobject, hsame⟩, -, hwrites⟩ :=
    Compilation.encode_unset_iff_hasWalk ofText_text hplanQ
  obtain ⟨bs, hbs⟩ := hwrites (not_hasWalk_q 63)
  exact ⟨ofText_text, ⟨planP, hplanP⟩, hasWalk_p 65, hfails (hasWalk_p 65), ⟨planQ, hplanQ⟩,
    not_hasWalk_q 63, object, bs, hobject, hbs, hsame.trans hbs⟩

end SelfReference

end TlSchema
