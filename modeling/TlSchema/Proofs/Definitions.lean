import Mathlib.Data.List.Nodup
import TlSchema.Plan.Builder
import TlSchema.Proofs.Results

/-!
# Definitions that pass the check

A definition passes the check exactly if no two of its fields have one name and flags precede every
field they guard. Its guarded fields are what its plan binds to bits.
-/

namespace TlSchema

/-! ## Fields of a definition -/

/-- The field declares the flags: it has their name and is always present. -/
def Field.DeclaresFlags (field : Field) : Prop := field.flagBit? = none ∧ field.name = flagsName

instance (field : Field) : Decidable field.DeclaresFlags := inferInstanceAs (Decidable (_ ∧ _))

namespace Definition

/-- Checking a field and those after it: its name is new, it is not guarded unless there are flags,
and the check goes on with what it declares. -/
theorem checkFields_cons {key : String} {seen : List String} {flagged : Bool} {field : Field}
    {rest : List Field} :
    checkFields key seen flagged (field :: rest) = .ok () ↔
      field.name ∉ seen ∧ (field.flagBit? ≠ none → flagged = true) ∧
        checkFields key (field.name :: seen) (flagged || field.DeclaresFlags) rest = .ok () := by
  rw [checkFields]
  by_cases hseen : field.name ∈ seen
  · simp [hseen]
  · rw [if_neg hseen]
    cases hbit : field.flagBit? with
    | none => simp [hseen, Field.DeclaresFlags, hbit]
    | some bit =>
      cases flagged with
      | true => simp [hseen]
      | false => simp

/-- Checking fields succeeds exactly if none of them repeats a name and every guarded one comes
after flags. -/
theorem checkFields_eq_ok {key : String} {seen : List String} {flagged : Bool}
    {fields : List Field} :
    checkFields key seen flagged fields = .ok () ↔
      (∀ field ∈ fields, field.name ∉ seen) ∧ (fields.map (·.name)).Nodup ∧
        ∀ before field after, fields = before ++ field :: after → field.flagBit? ≠ none →
          flagged = true ∨ ∃ flags ∈ before, flags.DeclaresFlags := by
  -- `flagged` stands for flags among fields that have been checked before
  induction fields generalizing seen flagged with
  | nil => simp [checkFields]
  | cons first rest ih =>
    rw [checkFields_cons, ih, List.map_cons, List.nodup_cons]
    constructor
    · rintro ⟨hfirst, hguard, hseen, hnodup, hrest⟩
      refine ⟨fun field hf => ?_, ⟨fun hmem => ?_, hnodup⟩, ?_⟩
      · rcases List.mem_cons.mp hf with rfl | hf
        · exact hfirst
        · exact fun hin => hseen field hf (List.mem_cons_of_mem _ hin)
      · obtain ⟨field, hf, hname⟩ := List.mem_map.mp hmem
        exact hseen field hf (hname ▸ List.mem_cons_self)
      · intro before field after heq hbit
        cases before with
        | nil =>
          cases heq
          exact Or.inl (hguard hbit)
        | cons b before =>
          cases heq
          rcases hrest before field after rfl hbit with hor | ⟨flags, hflags, hdecl⟩
          · rw [Bool.or_eq_true, decide_eq_true_eq] at hor
            exact hor.imp id fun hdecl => ⟨first, List.mem_cons_self, hdecl⟩
          · exact Or.inr ⟨flags, List.mem_cons_of_mem _ hflags, hdecl⟩
    · rintro ⟨hseen, ⟨hnew, hnodup⟩, hguards⟩
      refine ⟨hseen first List.mem_cons_self, fun hbit => ?_, fun field hf => ?_, hnodup, ?_⟩
      · rcases hguards [] first rest rfl hbit with h | ⟨flags, hflags, -⟩
        · exact h
        · cases hflags
      · rw [List.mem_cons, not_or]
        exact ⟨fun hname => hnew (List.mem_map.mpr ⟨field, hf, hname⟩),
          hseen field (List.mem_cons_of_mem _ hf)⟩
      · intro before field after heq hbit
        rw [Bool.or_eq_true, decide_eq_true_eq]
        rcases hguards (first :: before) field after (by rw [heq]; rfl) hbit with
          h | ⟨flags, hflags, hdecl⟩
        · exact Or.inl (Or.inl h)
        · rcases List.mem_cons.mp hflags with rfl | hflags
          · exact Or.inl (Or.inr hdecl)
          · exact Or.inr ⟨flags, hflags, hdecl⟩

variable {definition : Definition}

theorem names_nodup_of_check (h : definition.check = .ok ()) :
    (definition.fields.map (·.name)).Nodup :=
  (checkFields_eq_ok.mp h).2.1

theorem flags_before_of_check (h : definition.check = .ok ()) {before after : List Field}
    {field : Field} (heq : definition.fields = before ++ field :: after)
    (hbit : field.flagBit? ≠ none) : ∃ flags ∈ before, flags.DeclaresFlags := by
  rcases (checkFields_eq_ok.mp h).2.2 before field after heq hbit with hf | hf
  · cases hf
  · exact hf

/-! ## Guarded fields -/

/-- Whether some field of the definition is guarded. -/
def isGuarded (definition : Definition) : Bool := !definition.bindings.isEmpty

/-- A definition with guarded fields has flags. -/
theorem field?_flags_isSome (h : definition.check = .ok ()) (hg : definition.isGuarded = true) :
    (definition.field? flagsName).isSome = true := by
  rw [isGuarded, Bool.not_eq_true', List.isEmpty_eq_false_iff_exists_mem] at hg
  obtain ⟨binding, hb⟩ := hg
  obtain ⟨field, hf, hbinding⟩ := List.mem_filterMap.mp hb
  have hbit : field.flagBit? ≠ none := by
    intro hnone
    rw [Field.binding?, hnone] at hbinding
    cases hbinding
  obtain ⟨before, after, heq⟩ := List.append_of_mem hf
  obtain ⟨flags, hflags, -, hname⟩ := flags_before_of_check h heq hbit
  rw [field?, List.find?_isSome]
  exact ⟨flags, by rw [heq]; exact List.mem_append_left _ hflags, decide_eq_true hname⟩

/-- The flags are set before anything is written exactly if some field is guarded. -/
theorem flagsStep_eq (h : definition.check = .ok ()) :
    definition.flagsStep =
      if definition.isGuarded then [.recomputeFlags flagsName definition.bindings] else [] := by
  unfold flagsStep
  by_cases hg : definition.isGuarded = true
  · have hb : (!definition.bindings.isEmpty) = true := hg
    rw [field?_flags_isSome h hg, hb, if_pos hg]
    rfl
  · have hb : (!definition.bindings.isEmpty) = false := Bool.eq_false_iff.mpr hg
    rw [hb, Bool.and_false, if_neg hg]
    rfl

end Definition

end TlSchema
