import TlSchema.Proofs.FlagWords

/-!
# Defaults

What it is to be at a default, apart from how deep one has to go to find out: an object is at the
default of its type if all it holds in the fields of its plan is at theirs. The test that writing
makes gives an answer only so deep, but where it gives one, it is this.
-/

namespace TlSchema

namespace Registry

/-- The value is at the default. -/
inductive AtDefault (registry : Registry) : DefaultValue → Value → Prop
  | string (text : String) : AtDefault registry (.string text) (.string text)
  | int32 (n : Int32) : AtDefault registry (.int32 n) (.int n)
  | int64 (n : Int64) : AtDefault registry (.int64 n) (.long n)
  | bool (b : Bool) : AtDefault registry (.bool b) (.bool b)
  | emptyVector : AtDefault registry .emptyVector (.vector [])
  /-- An object is at the default of its type if all its plan knows of it is. -/
  | construct {typeName : String} {plan : Plan} {fields : List (String × Value)}
      (hplan : registry.plan typeName = .ok plan)
      (hfields : ∀ field ∈ plan.fields, ∀ held, Fields.find? field.name fields = some held →
        AtDefault registry field.initial held) :
      AtDefault registry (.construct typeName) (.object typeName fields)

variable {registry : Registry}

theorem atDefault_construct_iff {typeName name : String} {fields : List (String × Value)}
    {plan : Plan} (hplan : registry.plan typeName = .ok plan) :
    registry.AtDefault (.construct typeName) (.object name fields) ↔
      name = typeName ∧ ∀ field ∈ plan.fields, ∀ held,
        Fields.find? field.name fields = some held → registry.AtDefault field.initial held := by
  constructor
  · intro h
    cases h with
    | construct hplan' hfields =>
      cases hplan.symm.trans hplan'
      exact ⟨rfl, hfields⟩
  · rintro ⟨rfl, hfields⟩
    exact .construct hplan hfields

/-- The value of a default is at it, if the type of an object has a plan. -/
theorem atDefault_value {initial : DefaultValue}
    (h : ∀ typeName, initial = .construct typeName → ∃ plan, registry.plan typeName = .ok plan) :
    registry.AtDefault initial initial.value := by
  cases initial with
  | string text => exact .string text
  | int32 n => exact .int32 n
  | int64 n => exact .int64 n
  | bool b => exact .bool b
  | emptyVector => exact .emptyVector
  | construct typeName =>
    obtain ⟨plan, hplan⟩ := h typeName rfl
    refine .construct hplan fun field _ held hheld => ?_
    cases hheld

/-- The test one level deep is right if the test of what is in objects is. -/
theorem isDefaultWith_iff {deeper : DefaultValue → Value → Except CodecError Bool}
    (hdeeper : ∀ initial value b, deeper initial value = .ok b →
      (b = true ↔ registry.AtDefault initial value))
    {initial : DefaultValue} {value : Value} {b : Bool}
    (h : registry.isDefaultWith deeper initial value = .ok b) :
    b = true ↔ registry.AtDefault initial value := by
  unfold isDefaultWith at h
  split at h
  case h_6 typeName name fields =>
    by_cases hname : name = typeName
    · subst hname
      rw [if_pos rfl, Results.bind_eq_ok] at h
      obtain ⟨plan, hplan, hall⟩ := h
      rw [atDefault_construct_iff hplan]
      cases b with
      | true =>
        refine ⟨fun _ => ⟨rfl, fun field hf held hheld => ?_⟩, fun _ => rfl⟩
        have htest := Results.allM_eq_true.mp hall field hf
        rw [hheld] at htest
        exact (hdeeper _ _ _ htest).mp rfl
      | false =>
        refine ⟨fun hfalse => absurd hfalse Bool.false_ne_true, fun hd => ?_⟩
        obtain ⟨field, hf, htest⟩ := Results.exists_of_allM_eq_false hall
        cases hheld : Fields.find? field.name fields with
        | none => rw [hheld] at htest; cases htest
        | some held =>
          rw [hheld] at htest
          exact (hdeeper _ _ _ htest).mpr (hd.2 field hf held hheld)
    · rw [if_neg hname] at h
      cases h
      refine ⟨fun hfalse => absurd hfalse Bool.false_ne_true, fun hd => ?_⟩
      cases hd
      exact absurd rfl hname
  case h_5 items =>
    cases h
    cases items with
    | nil => exact ⟨fun _ => .emptyVector, fun _ => rfl⟩
    | cons item items => exact ⟨fun hc => absurd hc (by simp), fun hd => nomatch hd⟩
  case h_7 hs hi hl hb hv ho =>
    cases h
    refine ⟨fun hfalse => absurd hfalse Bool.false_ne_true, fun hd => ?_⟩
    cases hd with
    | string text => exact absurd rfl (hs _ _ rfl)
    | int32 n => exact absurd rfl (hi _ _ rfl)
    | int64 n => exact absurd rfl (hl _ _ rfl)
    | bool b => exact absurd rfl (hb _ _ rfl)
    | emptyVector => exact absurd rfl (hv _ rfl)
    | construct => exact absurd rfl (ho _ _ _ rfl)
  -- what is left are the scalars, which are compared
  all_goals
    cases h
    rw [decide_eq_true_iff]
    constructor
    · rintro rfl
      constructor
    · intro hd
      cases hd
      rfl

/-- Where the test has an answer, it is right. -/
theorem isDefault_iff {levels : Nat} {initial : DefaultValue} {value : Value} {b : Bool}
    (h : registry.isDefault levels initial value = .ok b) :
    b = true ↔ registry.AtDefault initial value := by
  induction levels generalizing initial value b with
  | zero => exact isDefaultWith_iff (fun _ _ _ hc => by cases hc) h
  | succ levels ih => exact isDefaultWith_iff (fun _ _ _ hc => ih hc) h

end Registry

end TlSchema
