import TlSchema.Proofs.Definitions

/-!
# What the check of a schema decides

The check of a schema runs over fields with the names it has seen and a note whether there were
flags. What it decides can be said without either: within a definition no name is declared twice and
flags come before the fields they guard, and across definitions every type that a field refers to is
defined, compared by output names. `Schema.check` accepts a schema exactly if it keeps these rules,
and otherwise says which rule is broken first. All rules of fields come before all references.
-/

namespace TlSchema

open Results

/-! ## Rules -/

/-- The type is the named one, inside any number of vectors. -/
inductive ValueType.Mentions (name : String) : ValueType → Prop
  | named : Mentions name (.named name)
  | vector {element : ValueType} (h : Mentions name element) : Mentions name (.vector element)

theorem ValueType.namedLeaf?_eq_some {type : ValueType} {name : String} :
    type.namedLeaf? = some name ↔ type.Mentions name := by
  constructor
  · intro h
    induction type with
    | named other =>
      cases h
      exact .named
    | vector element ih => exact .vector (ih h)
    | _ => cases h
  · intro h
    induction h with
    | named => rfl
    | vector _ ih => exact ih

/-- No name is declared twice, and flags come before every field that they guard. -/
structure FieldsInOrder (fields : List Field) : Prop where
  names : (fields.map (·.name)).Nodup
  flags : ∀ before field after, fields = before ++ field :: after → field.flagBit? ≠ none →
    ∃ flags ∈ before, flags.DeclaresFlags

/-- What is wrong with a field of the definition `key` that comes after the fields `before`. -/
inductive Faulty (key : String) (before : List Field) (field : Field) : FieldFault → Prop
  | repeated (hseen : ∃ other ∈ before, other.name = field.name) :
      Faulty key before field (.repeated field.name key)
  | unflagged {bit : UInt8} (hnew : ∀ other ∈ before, other.name ≠ field.name)
      (hbit : field.flagBit? = some bit) (hflags : ∀ flags ∈ before, ¬ flags.DeclaresFlags) :
      Faulty key before field (.unflagged field.name key bit)

/-- The first field of the definition that breaks a rule has this fault. -/
def Definition.FirstFault (definition : Definition) (fault : FieldFault) : Prop :=
  ∃ before field after, definition.fields = before ++ field :: after ∧ FieldsInOrder before ∧
    Faulty definition.key before field fault

namespace Schema

/-- The first definition whose fields break a rule has this fault. -/
def FirstFault (schema : Schema) (fault : FieldFault) : Prop :=
  ∃ before definition after, schema.definitions = before ++ definition :: after ∧
    (∀ other ∈ before, FieldsInOrder other.fields) ∧ definition.FirstFault fault

/-- Some definition has the output name of a name. -/
def Defines (schema : Schema) (name : String) : Prop :=
  ∃ definition ∈ schema.definitions, outputName "" definition.key = outputName "" name

/-- The field refers to a type that no definition defines. -/
def Dangles (schema : Schema) (field : Field) (name : String) : Prop :=
  field.type.Mentions name ∧ ¬ schema.Defines name

/-- The first field that dangles, in the order of definitions and of their fields, is `field` of the
definition `key`, which refers to `name`. -/
def FirstDangling (schema : Schema) (name field key : String) : Prop :=
  ∃ before definition after earlier found later,
    schema.definitions = before ++ definition :: after ∧
    definition.fields = earlier ++ found :: later ∧
    (∀ other ∈ before, ∀ f ∈ other.fields, ∀ n, ¬ schema.Dangles f n) ∧
    (∀ f ∈ earlier, ∀ n, ¬ schema.Dangles f n) ∧
    schema.Dangles found name ∧ found.name = field ∧ definition.key = key

end Schema

/-! ## Fields of a definition -/

/-- One more field keeps the rules unless there is something wrong with it. -/
theorem FieldsInOrder.concat {before : List Field} (h : FieldsInOrder before) {key : String}
    {field : Field} (hgood : ∀ fault, ¬ Faulty key before field fault) :
    FieldsInOrder (before ++ [field]) := by
  have hnew : ∀ other ∈ before, other.name ≠ field.name := by
    intro other ho heq
    exact hgood _ (.repeated ⟨other, ho, heq⟩)
  constructor
  · rw [List.map_append, List.map_singleton, List.nodup_append]
    refine ⟨h.names, List.nodup_singleton _, fun name hname other ho => ?_⟩
    obtain ⟨seen, hseen, rfl⟩ := List.mem_map.mp hname
    rw [List.mem_singleton.mp ho]
    exact hnew seen hseen
  · intro earlier guarded later heq hbit
    rcases List.eq_nil_or_concat' later with rfl | ⟨rest, last, rfl⟩
    · -- the guarded field is the new one
      obtain ⟨rfl, hlast⟩ := List.append_inj' heq rfl
      obtain rfl : field = guarded := by simpa using hlast
      by_contra hnone
      obtain ⟨bit, hbit⟩ := Option.ne_none_iff_exists'.mp hbit
      exact hgood _ (.unflagged hnew hbit fun flags hf hdecl => hnone ⟨flags, hf, hdecl⟩)
    · have hsplit : before = earlier ++ guarded :: rest := by
        have hcut : before ++ [field] = (earlier ++ guarded :: rest) ++ [last] := by simpa using heq
        exact List.append_inj_left' hcut rfl
      exact h.flags earlier guarded rest hsplit hbit

theorem FieldsInOrder.not_faulty {before after : List Field} {field : Field}
    (h : FieldsInOrder (before ++ field :: after)) {key : String} {fault : FieldFault} :
    ¬ Faulty key before field fault := by
  intro hfault
  cases hfault with
  | repeated hseen =>
    obtain ⟨other, ho, heq⟩ := hseen
    have hnames := h.names
    rw [List.map_append, List.map_cons, List.nodup_append] at hnames
    exact hnames.2.2 other.name (List.mem_map_of_mem ho) field.name List.mem_cons_self heq
  | unflagged _ hbit hflags =>
    obtain ⟨flags, hf, hdecl⟩ := h.flags before field after rfl (by simp [hbit])
    exact hflags flags hf hdecl

theorem Faulty.unique {key : String} {before : List Field} {field : Field}
    {fault fault' : FieldFault} (h : Faulty key before field fault)
    (h' : Faulty key before field fault') : fault = fault' := by
  cases h with
  | repeated hseen =>
    cases h' with
    | repeated => rfl
    | unflagged hnew =>
      obtain ⟨other, ho, heq⟩ := hseen
      exact absurd heq (hnew other ho)
  | unflagged hnew hbit =>
    cases h' with
    | repeated hseen =>
      obtain ⟨other, ho, heq⟩ := hseen
      exact absurd heq (hnew other ho)
    | unflagged _ hbit' =>
      cases hbit.symm.trans hbit'
      rfl

namespace Definition

variable {before : List Field} {seen : List String} {flagged : Bool}

/-- Of the fields that have been checked, `seen` are the names, and `flagged` says whether there are
flags among them. -/
structure Noted (before : List Field) (seen : List String) (flagged : Bool) : Prop where
  seen_iff : ∀ name, name ∈ seen ↔ ∃ field ∈ before, field.name = name
  flagged_iff : flagged = true ↔ ∃ flags ∈ before, flags.DeclaresFlags

theorem Noted.concat (h : Noted before seen flagged) (field : Field) :
    Noted (before ++ [field]) (field.name :: seen) (flagged || field.DeclaresFlags) := by
  constructor
  · intro name
    simp [h.seen_iff name, or_and_right, exists_or, eq_comm, or_comm]
  · simp [h.flagged_iff, or_and_right, exists_or]

/-- Checking a field fails with what is wrong with it, or goes on with the fields after it. -/
theorem checkFields_step (key : String) (h : Noted before seen flagged) (field : Field)
    (rest : List Field) :
    (∃ fault, Faulty key before field fault ∧
        checkFields key seen flagged (field :: rest) = .error fault) ∨
      (∀ fault, ¬ Faulty key before field fault) ∧
        checkFields key seen flagged (field :: rest)
          = checkFields key (field.name :: seen) (flagged || field.DeclaresFlags) rest := by
  rw [checkFields]
  by_cases hseen : field.name ∈ seen
  · rw [if_pos hseen]
    exact Or.inl ⟨_, .repeated ((h.seen_iff _).mp hseen), rfl⟩
  · rw [if_neg hseen]
    have hnew : ∀ other ∈ before, other.name ≠ field.name := by
      intro other ho heq
      exact hseen ((h.seen_iff _).mpr ⟨other, ho, heq⟩)
    have hnot : ¬ ∃ other ∈ before, other.name = field.name := by simpa using hnew
    cases hbit : field.flagBit? with
    | none =>
      right
      refine ⟨fun fault hfault => ?_, by simp [Field.DeclaresFlags, hbit]⟩
      cases hfault with
      | repeated hrepeated => exact hnot hrepeated
      | unflagged _ hbit' => cases hbit.symm.trans hbit'
    | some bit =>
      have hother : ¬ field.DeclaresFlags := by simp [Field.DeclaresFlags, hbit]
      by_cases hflags : flagged = true
      · right
        refine ⟨fun fault hfault => ?_, by simp [hflags]⟩
        cases hfault with
        | repeated hrepeated => exact hnot hrepeated
        | unflagged _ _ hnone =>
          obtain ⟨flags, hf, hdecl⟩ := h.flagged_iff.mp hflags
          exact hnone flags hf hdecl
      · left
        refine ⟨_, .unflagged hnew hbit fun flags hf hdecl => ?_, by simp [hflags]⟩
        exact hflags (h.flagged_iff.mpr ⟨flags, hf, hdecl⟩)

/-- Checking fields fails at the first one that something is wrong with. -/
theorem checkFields_eq_error (h : Noted before seen flagged) (hbefore : FieldsInOrder before)
    {key : String} {fields : List Field} {fault : FieldFault} :
    checkFields key seen flagged fields = .error fault ↔
      ∃ more field after, fields = more ++ field :: after ∧ FieldsInOrder (before ++ more) ∧
        Faulty key (before ++ more) field fault := by
  induction fields generalizing before seen flagged with
  | nil => simp [checkFields]
  | cons first rest ih =>
    rcases checkFields_step key h first rest with ⟨found, hfound, hrun⟩ | ⟨hgood, hrun⟩
    · rw [hrun, Except.error.injEq]
      constructor
      · rintro rfl
        exact ⟨[], first, rest, rfl, by simpa using hbefore, by simpa using hfound⟩
      · rintro ⟨more, field, after, heq, hmore, hfault⟩
        cases more with
        | nil =>
          cases heq
          rw [List.append_nil] at hfault
          exact hfound.unique hfault
        | cons other more =>
          cases heq
          exact absurd hfound hmore.not_faulty
    · rw [hrun, ih (h.concat first) (hbefore.concat hgood)]
      constructor
      · rintro ⟨more, field, after, rfl, hmore, hfault⟩
        exact ⟨first :: more, field, after, rfl, by simpa using hmore, by simpa using hfault⟩
      · rintro ⟨more, field, after, heq, hmore, hfault⟩
        cases more with
        | nil =>
          cases heq
          rw [List.append_nil] at hfault
          exact absurd hfault (hgood fault)
        | cons other more =>
          cases heq
          exact ⟨more, field, after, rfl, by simpa using hmore, by simpa using hfault⟩

variable {definition : Definition}

theorem check_eq_ok : definition.check = .ok () ↔ FieldsInOrder definition.fields := by
  rw [check, checkFields_eq_ok]
  constructor
  · rintro ⟨-, hnames, hflags⟩
    refine ⟨hnames, fun before field after heq hbit => ?_⟩
    exact (hflags before field after heq hbit).resolve_left (by simp)
  · intro h
    refine ⟨by simp, h.names, fun before field after heq hbit => ?_⟩
    exact Or.inr (h.flags before field after heq hbit)

theorem check_eq_error {fault : FieldFault} :
    definition.check = .error fault ↔ definition.FirstFault fault := by
  have hnone : Noted [] [] false := ⟨by simp, by simp⟩
  rw [check, checkFields_eq_error hnone ⟨List.nodup_nil, by simp⟩]
  rfl

end Definition

/-! ## References -/

namespace Schema

variable {schema : Schema}

theorem Dangles.unique {field : Field} {name name' : String} (h : schema.Dangles field name)
    (h' : schema.Dangles field name') : name = name' := by
  have hleaf := ValueType.namedLeaf?_eq_some.mpr h.1
  rw [ValueType.namedLeaf?_eq_some.mpr h'.1] at hleaf
  exact (Option.some.inj hleaf).symm

/-- Checking the reference of a field fails with what dangles, or nothing does. -/
theorem checkReference_cases (schema : Schema) (definition : Definition) (field : Field) :
    ((∀ name, ¬ schema.Dangles field name) ∧
        checkReference schema.definedNames definition field = .ok ()) ∨
      ∃ name, schema.Dangles field name ∧ checkReference schema.definedNames definition field
        = .error (.unresolved name field.name definition.key) := by
  unfold checkReference
  cases hleaf : field.type.namedLeaf? with
  | none =>
    left
    refine ⟨fun name hdangles => ?_, rfl⟩
    cases hleaf.symm.trans (ValueType.namedLeaf?_eq_some.mpr hdangles.1)
  | some leaf =>
    have hdefines : outputName "" leaf ∈ schema.definedNames ↔ schema.Defines leaf := List.mem_map
    by_cases hdefined : outputName "" leaf ∈ schema.definedNames
    · left
      refine ⟨fun name hdangles => hdangles.2 ?_, if_pos hdefined⟩
      cases hleaf.symm.trans (ValueType.namedLeaf?_eq_some.mpr hdangles.1)
      exact hdefines.mp hdefined
    · right
      refine ⟨leaf, ⟨ValueType.namedLeaf?_eq_some.mp hleaf, ?_⟩, if_neg hdefined⟩
      exact mt hdefines.mpr hdefined

theorem checkReference_eq_ok {definition : Definition} {field : Field} :
    checkReference schema.definedNames definition field = .ok () ↔
      ∀ name, ¬ schema.Dangles field name := by
  rcases schema.checkReference_cases definition field with ⟨hnone, hrun⟩ | ⟨name, hname, hrun⟩
  · simp [hrun, hnone]
  · simp only [hrun, reduceCtorEq, false_iff, not_forall, not_not]
    exact ⟨name, hname⟩

theorem checkReference_eq_error {definition : Definition} {field : Field} {error : SchemaError} :
    checkReference schema.definedNames definition field = .error error ↔
      ∃ name, schema.Dangles field name ∧ error = .unresolved name field.name definition.key := by
  rcases schema.checkReference_cases definition field with ⟨hnone, hrun⟩ | ⟨name, hname, hrun⟩
  · simp [hrun, hnone]
  · rw [hrun, Except.error.injEq]
    constructor
    · rintro rfl
      exact ⟨name, hname, rfl⟩
    · rintro ⟨other, ho, rfl⟩
      rw [hname.unique ho]

theorem checkReferences_eq_ok :
    schema.checkReferences = .ok () ↔
      ∀ definition ∈ schema.definitions, ∀ field ∈ definition.fields, ∀ name,
        ¬ schema.Dangles field name := by
  unfold checkReferences
  simp only [forM_eq_ok, checkReference_eq_ok]

theorem checkReferences_eq_error {error : SchemaError} :
    schema.checkReferences = .error error ↔
      ∃ name field key, schema.FirstDangling name field key ∧
        error = .unresolved name field key := by
  unfold checkReferences
  simp only [forM_eq_error, forM_eq_ok, checkReference_eq_ok, checkReference_eq_error]
  constructor
  · rintro ⟨before, definition, after, heq, hbefore, earlier, found, later, hfields, hearlier, name,
      hname, rfl⟩
    exact ⟨name, found.name, definition.key, ⟨before, definition, after, earlier, found, later, heq,
      hfields, hbefore, hearlier, hname, rfl, rfl⟩, rfl⟩
  · rintro ⟨name, -, -, ⟨before, definition, after, earlier, found, later, heq, hfields, hbefore,
      hearlier, hname, rfl, rfl⟩, rfl⟩
    exact ⟨before, definition, after, heq, hbefore, earlier, found, later, hfields, hearlier, name,
      hname, rfl⟩

/-! ## Schemas -/

theorem forM_check_eq_ok {definitions : List Definition} :
    (definitions.forM fun definition => definition.check.mapError SchemaError.fields) = .ok () ↔
      ∀ definition ∈ definitions, FieldsInOrder definition.fields := by
  simp only [forM_eq_ok, mapError_eq_ok, Definition.check_eq_ok]

theorem check_eq_ok :
    schema.check = .ok () ↔
      (∀ definition ∈ schema.definitions, FieldsInOrder definition.fields) ∧
        schema.checkReferences = .ok () := by
  unfold check
  rw [bind_eq_ok, ← forM_check_eq_ok]
  constructor
  · rintro ⟨⟨⟩, hfields, hrefs⟩
    exact ⟨hfields, hrefs⟩
  · rintro ⟨hfields, hrefs⟩
    exact ⟨(), hfields, hrefs⟩

theorem check_eq_error {error : SchemaError} :
    schema.check = .error error ↔
      (∃ fault, schema.FirstFault fault ∧ error = .fields fault) ∨
        (∀ definition ∈ schema.definitions, FieldsInOrder definition.fields) ∧
          schema.checkReferences = .error error := by
  unfold check
  rw [bind_eq_error, ← forM_check_eq_ok]
  simp only [forM_eq_error, mapError_eq_ok, mapError_eq_error, Definition.check_eq_ok,
    Definition.check_eq_error]
  constructor
  · rintro (⟨before, definition, after, heq, hbefore, fault, hfault, rfl⟩ | ⟨⟨⟩, hfields, hrefs⟩)
    · exact Or.inl ⟨fault, ⟨before, definition, after, heq, hbefore, hfault⟩, rfl⟩
    · exact Or.inr ⟨hfields, hrefs⟩
  · rintro (⟨fault, ⟨before, definition, after, heq, hbefore, hfault⟩, rfl⟩ | ⟨hfields, hrefs⟩)
    · exact Or.inl ⟨before, definition, after, heq, hbefore, fault, hfault, rfl⟩
    · exact Or.inr ⟨(), hfields, hrefs⟩

theorem check_eq_fields {fault : FieldFault} :
    schema.check = .error (.fields fault) ↔ schema.FirstFault fault := by
  rw [check_eq_error, checkReferences_eq_error]
  simp

theorem check_eq_unresolved {name field key : String} :
    schema.check = .error (.unresolved name field key) ↔
      (∀ definition ∈ schema.definitions, FieldsInOrder definition.fields) ∧
        schema.FirstDangling name field key := by
  rw [check_eq_error, checkReferences_eq_error]
  simp

/-- The check accepts a schema exactly if it keeps all rules. It fails with a fault of fields
exactly if some definition breaks a rule of fields, and names the first one; and with a reference
exactly if no definition does but some reference dangles, and names the first one. -/
theorem check_decides_rules (schema : Schema) :
    (schema.check = .ok () ↔
      (∀ definition ∈ schema.definitions, FieldsInOrder definition.fields) ∧
        ∀ definition ∈ schema.definitions, ∀ field ∈ definition.fields, ∀ name,
          field.type.Mentions name → schema.Defines name) ∧
    ((∃ fault, schema.check = .error (.fields fault)) ↔
      ∃ definition ∈ schema.definitions, ¬ FieldsInOrder definition.fields) ∧
    (∀ fault, schema.check = .error (.fields fault) ↔ schema.FirstFault fault) ∧
    ((∃ name field key, schema.check = .error (.unresolved name field key)) ↔
      (∀ definition ∈ schema.definitions, FieldsInOrder definition.fields) ∧
        ∃ definition ∈ schema.definitions, ∃ field ∈ definition.fields, ∃ name,
          schema.Dangles field name) ∧
    ∀ name field key, schema.check = .error (.unresolved name field key) ↔
      (∀ definition ∈ schema.definitions, FieldsInOrder definition.fields) ∧
        schema.FirstDangling name field key := by
  refine ⟨?_, ⟨?_, ?_⟩, fun fault => check_eq_fields, ⟨?_, ?_⟩, fun _ _ _ => check_eq_unresolved⟩
  · rw [check_eq_ok, checkReferences_eq_ok]
    simp only [Dangles, not_and, not_not]
  · rintro ⟨fault, hfault⟩
    by_contra hnone
    have horder : ∀ definition ∈ schema.definitions, FieldsInOrder definition.fields := by
      simpa using hnone
    obtain ⟨before, definition, after, heq, -, earlier, field, later, hfields, -, hfaulty⟩ :=
      check_eq_fields.mp hfault
    have hmem : definition ∈ schema.definitions := by simp [heq]
    exact (hfields ▸ horder definition hmem).not_faulty hfaulty
  · rintro ⟨definition, hd, hbroken⟩
    cases hcheck : schema.check with
    | ok => exact absurd ((check_eq_ok.mp hcheck).1 definition hd) hbroken
    | error error =>
      rcases check_eq_error.mp hcheck with ⟨fault, -, rfl⟩ | ⟨horder, -⟩
      · exact ⟨fault, rfl⟩
      · exact absurd (horder definition hd) hbroken
  · rintro ⟨name, field, key, hcheck⟩
    obtain ⟨horder, before, definition, after, earlier, found, later, heq, hfields, -, -, hdangles,
      -, -⟩ := check_eq_unresolved.mp hcheck
    exact ⟨horder, definition, by simp [heq], found, by simp [hfields], name, hdangles⟩
  · rintro ⟨horder, definition, hd, field, hf, name, hdangles⟩
    cases hrefs : schema.checkReferences with
    | ok => exact absurd hdangles (checkReferences_eq_ok.mp hrefs definition hd field hf name)
    | error error =>
      obtain ⟨name', field', key, hfirst, rfl⟩ := checkReferences_eq_error.mp hrefs
      exact ⟨name', field', key, check_eq_unresolved.mpr ⟨horder, hfirst⟩⟩

-- a reference counts at any depth of vectors, but a fault of a later definition comes before it
example : (⟨[⟨"a.b", 1, [⟨"x", .vector (.vector (.named "a.c")), none⟩], .named "a.B", ⟨1, 1⟩⟩,
    ⟨"a.d", 2, [⟨"y", .int32, some 3⟩], .named "a.D", ⟨2, 1⟩⟩], {}⟩ : Schema).check
      = .error (.fields (.unflagged "y" "a.d" 3)) := by rfl

example : (⟨[⟨"a.b", 1, [⟨"x", .vector (.vector (.named "a.c")), none⟩], .named "a.B", ⟨1, 1⟩⟩], {}⟩
    : Schema).check = .error (.unresolved "a.c" "x" "a.b") := by rfl

end Schema

end TlSchema
