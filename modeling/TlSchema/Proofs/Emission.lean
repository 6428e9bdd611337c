import TlSchema.Proofs.Appending
import TlSchema.Proofs.Plans

/-!
# What is written for each field

The steps of a regular plan come to this: the constructor, then for every field in order the word of
flags, what the object holds in the field, or nothing. Which of the three it is (`Plan.fate`) is
decided by the word alone.
-/

namespace TlSchema

open Encoder

/-- What a field comes to on the wire. -/
inductive Fate where
  | word
  | content
  | nothing
  deriving DecidableEq, Repr

/-- What is there to be written for a field: what the object holds in it, or its default. -/
def FieldPlan.content (field : FieldPlan) (object : Value) : Value :=
  (object.get? field.name).getD field.initial.value

namespace Plan

/-- What a field comes to when the flags are `word`. -/
def fate (plan : Plan) (word : UInt32) (field : FieldPlan) : Fate :=
  match field.flagBit? with
  | some bit => if Flags.has word bit then .content else .nothing
  | none => if plan.isGuarded = true ∧ field.name = flagsName then .word else .content

theorem fate_of_guarded (plan : Plan) (word : UInt32) {field : FieldPlan} {bit : UInt8}
    (h : field.flagBit? = some bit) :
    plan.fate word field = if Flags.has word bit then .content else .nothing := by
  simp only [fate, h]

theorem fate_of_not_guarded (plan : Plan) (word : UInt32) {field : FieldPlan}
    (h : field.flagBit? = none) :
    plan.fate word field
      = if plan.isGuarded = true ∧ field.name = flagsName then .word else .content := by
  simp only [fate, h]

theorem fate_eq_nothing_iff {plan : Plan} {word : UInt32} {field : FieldPlan} :
    plan.fate word field = .nothing ↔
      ∃ bit, field.flagBit? = some bit ∧ Flags.has word bit = false := by
  cases hbit : field.flagBit? with
  | some bit =>
    rw [fate_of_guarded plan word hbit]
    cases hhas : Flags.has word bit <;> simp [hhas]
  | none =>
    rw [fate_of_not_guarded plan word hbit]
    split_ifs <;> simp

/-- Without guarded fields, the flags make no difference. -/
theorem fate_ite (plan : Plan) (word : UInt32) {field : FieldPlan} (hf : field ∈ plan.fields) :
    plan.fate (if plan.isGuarded then word else 0) field = plan.fate word field := by
  by_cases hg : plan.isGuarded = true
  · rw [if_pos hg]
  · have hbit : field.flagBit? = none := by
      by_contra hbit
      exact hg (isGuarded_iff.mpr ⟨field, hf, hbit⟩)
    rw [plan.fate_of_not_guarded _ hbit, plan.fate_of_not_guarded _ hbit]

/-- Writes one field of an object whose flags are `word`. -/
def emit (vectorTag : UInt32) (plan : Plan) (deeper : Value → Encoder Unit) (object : Value)
    (word : UInt32) (field : FieldPlan) : Encoder Unit :=
  match plan.fate word field with
  | .word => put (Wire.uint32Bytes word)
  | .content => (field.codec vectorTag).write deeper (field.content object)
  | .nothing => pure ()

theorem settles_emit (plan : Plan) {deeper : Value → Encoder Unit} (h : ∀ value, Settles (deeper value))
    (vectorTag : UInt32) (object : Value) (word : UInt32) (field : FieldPlan) :
    Settles (plan.emit vectorTag deeper object word field) := by
  unfold emit
  split
  · exact settles_put _
  · exact (field.codec vectorTag).settles_write h _
  · exact settles_pure ()

theorem settles_fields (plan : Plan) {deeper : Value → Encoder Unit} (h : ∀ value, Settles (deeper value))
    (vectorTag : UInt32) (object : Value) (word : UInt32) :
    Settles (plan.fields.forM (plan.emit vectorTag deeper object word)) :=
  settles_forM fun field _ => plan.settles_emit h vectorTag object word field

theorem Regular.writeField_eq {plan : Plan} {vectorTag : UInt32} (h : plan.Regular vectorTag)
    (deeper : Value → Encoder Unit) (object : Value) {field : FieldPlan}
    (hf : field ∈ plan.fields) (codec : Codec) :
    plan.writeField deeper object field.name codec
      = codec.write deeper (field.content object) := by
  unfold writeField FieldPlan.content
  cases object.get? field.name with
  | some held => rfl
  | none => rw [h.field?_name hf]; rfl

end Plan

namespace Registry

/-- The flags that are written for an object: none are set if the plan has no guarded fields. -/
def wordOf (registry : Registry) (levels : Nat) (plan : Plan) (object : Value) :
    Except CodecError UInt32 :=
  if plan.isGuarded then registry.flagsOf levels plan object flagsName plan.bindings else .ok 0

/-- What is known of the flags once they have been computed. -/
def known (plan : Plan) (word : UInt32) : Option (String × UInt32) :=
  if plan.isGuarded then some (flagsName, word) else none

variable (registry : Registry) {vectorTag : UInt32} {plan : Plan}

theorem writeStep_field (h : plan.Regular vectorTag) (levels : Nat)
    (deeper : Value → Encoder Unit) (object : Value) (word : UInt32) {field : FieldPlan}
    (hf : field ∈ plan.fields) :
    registry.writeStep levels deeper plan object (known plan word) (field.encodeStep vectorTag)
      = plan.emit vectorTag deeper object word field >>= fun _ => pure (known plan word) := by
  have hcontent := h.writeField_eq deeper object hf (field.codec vectorTag)
  unfold FieldPlan.encodeStep Plan.emit Plan.fate
  cases hbit : field.flagBit? with
  | some bit =>
    have hguarded : plan.isGuarded = true :=
      Plan.isGuarded_iff.mpr ⟨field, hf, by rw [hbit]; simp⟩
    have hknown : known plan word = some (flagsName, word) := if_pos hguarded
    rw [hknown]
    unfold writeStep
    by_cases hhas : Flags.has word bit = true
    · simp only [hhas, if_true, hcontent]
    · simp only [hhas, if_false, Bool.false_eq_true, pure_bind]
  | none =>
    unfold writeStep known
    by_cases hguarded : plan.isGuarded = true
    · by_cases hname : flagsName = field.name
      · simp only [hguarded, hname, if_true, and_self]
      · have hname' : field.name ≠ flagsName := fun heq => hname heq.symm
        simp only [hguarded, hname, hname', if_true, if_false, and_false, hcontent]
    · simp only [hguarded, if_false, false_and, Bool.false_eq_true, hcontent]

/-- The steps of the fields write what the fields come to, one after the other. -/
theorem foldlM_writeStep (h : plan.Regular vectorTag) (levels : Nat)
    (deeper : Value → Encoder Unit) (object : Value) (word : UInt32) {fields : List FieldPlan}
    (hsub : ∀ field ∈ fields, field ∈ plan.fields) :
    (fields.map (FieldPlan.encodeStep vectorTag)).foldlM
        (registry.writeStep levels deeper plan object) (known plan word)
      = fields.forM (plan.emit vectorTag deeper object word)
          >>= fun _ => pure (known plan word) := by
  induction fields with
  | nil => exact (pure_bind _ _).symm
  | cons field fields ih =>
    have hfield := hsub field List.mem_cons_self
    have hrest := ih fun other ho => hsub other (List.mem_cons_of_mem field ho)
    rw [List.map_cons, List.foldlM_cons, registry.writeStep_field h levels deeper object word hfield,
      bind_assoc, List.forM_eq_forM, List.forM_cons, bind_assoc]
    simp only [pure_bind, hrest, List.forM_eq_forM]

theorem foldlM_flagsStep (plan : Plan) (levels : Nat) (deeper : Value → Encoder Unit)
    (object : Value) :
    plan.flagsStep.foldlM (registry.writeStep levels deeper plan object) none
      = Encoder.ofExcept (registry.wordOf levels plan object)
          >>= fun word => pure (known plan word) := by
  unfold Plan.flagsStep wordOf known
  by_cases hguarded : plan.isGuarded = true
  · simp only [hguarded, if_true]
    rw [List.foldlM_cons]
    unfold writeStep
    simp only [List.foldlM_nil, bind_assoc, pure_bind]
  · simp only [hguarded, if_false, Bool.false_eq_true]
    rw [ofExcept_ok, pure_bind]
    rfl

/-- Writing an object writes its constructor, finds its flags and writes what the fields come to. -/
theorem writeObjectWith_eq {typeName : String} (hplan : registry.plan typeName = .ok plan)
    (h : plan.Regular vectorTag) (levels : Nat) (deeper : Value → Encoder Unit)
    (fields : List (String × Value)) :
    registry.writeObjectWith levels deeper (.object typeName fields)
      = put (Wire.uint32Bytes plan.constructorId) >>= fun _ =>
          Encoder.ofExcept (registry.wordOf levels plan (.object typeName fields)) >>= fun word =>
            plan.fields.forM (plan.emit vectorTag deeper (.object typeName fields) word) := by
  unfold writeObjectWith
  simp only [hplan, ofExcept_ok, pure_bind]
  rw [h.encode_eq, List.foldlM_cons]
  have hconstructor : registry.writeStep levels deeper plan (.object typeName fields) none
      (.writeConstructor plan.constructorId)
        = put (Wire.uint32Bytes plan.constructorId) >>= fun _ => pure none := rfl
  rw [hconstructor]
  simp only [bind_assoc, pure_bind]
  rw [List.foldlM_append, registry.foldlM_flagsStep]
  simp only [bind_assoc, pure_bind, bind_pure_unit,
    registry.foldlM_writeStep h levels deeper _ _ fun field hf => hf]

/-- An object has been written if its flags were found and each field was written. -/
theorem writes_writeObjectWith_iff {typeName : String} (hplan : registry.plan typeName = .ok plan)
    (h : plan.Regular vectorTag) (levels : Nat) {deeper : Value → Encoder Unit}
    (hdeeper : ∀ value, Settles (deeper value)) {fields : List (String × Value)}
    {bs : ByteArray} :
    Writes (registry.writeObjectWith levels deeper (.object typeName fields)) bs () ↔
      ∃ word rest, registry.wordOf levels plan (.object typeName fields) = .ok word ∧
        Writes (plan.fields.forM (plan.emit vectorTag deeper (.object typeName fields) word))
          rest () ∧
        bs = Wire.uint32Bytes plan.constructorId ++ rest := by
  have hfields : ∀ word, Settles _ := fun word =>
    plan.settles_fields hdeeper vectorTag (.object typeName fields) word
  rw [registry.writeObjectWith_eq hplan h]
  constructor
  · intro hw
    obtain ⟨first, rest, hfirst, hrest, rfl⟩ :=
      (writes_seq_iff (settles_put _) ((settles_ofExcept _).bind hfields)).mp hw
    obtain ⟨none', word, rest', hword, hrest', rfl⟩ :=
      (writes_bind_iff (settles_ofExcept _) hfields).mp hrest
    obtain ⟨hfound, rfl⟩ := writes_ofExcept_iff.mp hword
    obtain ⟨rfl, -⟩ := hfirst.unique (writes_put _)
    exact ⟨word, rest', hfound, hrest', by rw [ByteArray.empty_append]⟩
  · rintro ⟨word, rest, hword, hrest, rfl⟩
    refine (writes_put _).bind ((writes_bind_iff (settles_ofExcept _) hfields).mpr ?_)
    exact ⟨.empty, word, rest, writes_ofExcept hword, hrest, by rw [ByteArray.empty_append]⟩

/-- Writes the objects in an object that may hold `levels` levels of them. -/
def writeDeeper (registry : Registry) : (levels : Nat) → Value → Encoder Unit
  | 0 => fun _ => throw .nestingDepth
  | levels + 1 => registry.writeObject levels

theorem writeObject_eq (levels : Nat) :
    registry.writeObject levels = registry.writeObjectWith levels (registry.writeDeeper levels) := by
  cases levels <;> rfl

theorem settles_writeDeeper (levels : Nat) (value : Value) :
    Settles (registry.writeDeeper levels value) := by
  cases levels with
  | zero => exact settles_throw _
  | succ levels => exact registry.settles_writeObject levels value

end Registry

end TlSchema
