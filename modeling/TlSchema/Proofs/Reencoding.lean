import TlSchema.Proofs.Completeness
import TlSchema.Proofs.RoundTrip
import TlSchema.Proofs.WriteErrors

/-!
# Writing what has been read

What has been read strictly can be written again. All objects in it have plans and hold what their
plans say, so nothing is out of shape. They are nested no deeper than reading allows, which is as
deep as writing and the test against defaults go; defaults that were not read are objects without
fields, and they are not written. What can go wrong is that a text has grown: bytes that encode no
character are read as one that takes three bytes.
-/

namespace TlSchema

open Wire Encoder

/-! ## Parts of values -/

/-- The first value is the second one or stands in it, at any depth. -/
inductive Value.Part : Value → Value → Prop
  | self (value : Value) : Part value value
  | item {part item : Value} {items : List Value} (hitem : item ∈ items) (h : Part part item) :
      Part part (.vector items)
  | field {part held : Value} {typeName name : String} {fields : List (String × Value)}
      (hheld : (name, held) ∈ fields) (h : Part part held) : Part part (.object typeName fields)

theorem Value.Part.trans {part middle whole : Value} (h : Value.Part part middle)
    (h' : Value.Part middle whole) : Value.Part part whole := by
  induction h' with
  | self => exact h
  | item hitem _ ih => exact .item hitem ih
  | field hheld _ ih => exact .field hheld ih

theorem Value.Part.of_object {part : Value} {typeName : String} {fields : List (String × Value)}
    (h : Value.Part part (.object typeName fields)) :
    part = .object typeName fields ∨ ∃ name held, (name, held) ∈ fields ∧ Value.Part part held := by
  cases h with
  | self => exact Or.inl rfl
  | field hheld h => exact Or.inr ⟨_, _, hheld, h⟩

/-- If there is an object in a default, it is the default itself, and it has no fields. -/
theorem DefaultValue.eq_construct_of_part {initial : DefaultValue} {typeName : String}
    {fields : List (String × Value)} (h : Value.Part (.object typeName fields) initial.value) :
    initial = .construct typeName ∧ fields = [] := by
  cases initial with
  | construct name =>
    rcases h.of_object with heq | ⟨_, _, hmem, _⟩
    · cases heq
      exact ⟨rfl, rfl⟩
    · cases hmem
  | emptyVector =>
    cases h with
    | item hitem _ => cases hitem
  | _ => cases h

/-- The field that a step may read. -/
def DecodeStep.field : DecodeStep → String
  | .read field _ => field
  | .readIfFlag _ field _ => field

/-- The value is of the kind that the codec reads, at any depth of vectors. -/
def Codec.HasShape (codec : Codec) (value : Value) : Prop :=
  codec.Admits (fun _ => True) (fun _ _ => True) value

/-- There is a plan for the type, and all that an object holds are fields of the plan, in the shape
in which they are read. -/
def Registry.OwnFields (registry : Registry) (typeName : String) (fields : List (String × Value)) :
    Prop :=
  ∃ plan, registry.plan typeName = .ok plan ∧ ∀ name held, (name, held) ∈ fields →
    (∃ field ∈ plan.fields, field.name = name) ∧
      ∃ step ∈ plan.decode, step.field = name ∧ step.codec.HasShape held

theorem FieldPlan.field_decodeStep (vectorTag : UInt32) (field : FieldPlan) :
    (field.decodeStep vectorTag).field = field.name := by
  unfold decodeStep
  split <;> rfl

theorem FieldPlan.codec_decodeStep (vectorTag : UInt32) (field : FieldPlan) :
    (field.decodeStep vectorTag).codec = field.codec vectorTag := by
  unfold decodeStep
  split <;> rfl

theorem TargetType.IsInitial.hasShape {target : TargetType} {initial : DefaultValue}
    (h : target.IsInitial initial) (vectorTag : UInt32) :
    (target.codec vectorTag).HasShape initial.value := by
  unfold IsInitial at h
  split at h
  case h_5 =>
    intro item hitem
    cases hitem
  case h_7 => exact h.elim
  all_goals trivial

namespace Codec.Admits

variable {text : String → Prop} {object : String → Value → Prop} {codec : Codec} {value : Value}

theorem hasShape (h : codec.Admits text object value) : codec.HasShape value := by
  induction codec generalizing value with
  | vector tag element ih =>
    cases value with
    | vector items => exact fun item hitem => ih (h item hitem)
    | _ => exact h.elim
  | _ =>
    unfold Admits at h
    split at h
    case h_7 => exact h.elim
    all_goals trivial

theorem kind_eq (h : codec.Admits text object value) : codec.kind = value.kind := by
  unfold Admits at h
  split at h
  case h_7 => exact h.elim
  all_goals rfl

/-- An object in a value is one that the codec reads, or stands in one. -/
theorem exists_object (h : codec.Admits text object value) {typeName : String}
    {fields : List (String × Value)} (hpart : Value.Part (.object typeName fields) value) :
    ∃ entry inner, object entry inner ∧ Value.Part (.object typeName fields) inner := by
  induction codec generalizing value with
  | vector tag element ih =>
    cases value with
    | vector items =>
      cases hpart with
      | item hitem hpart => exact ih (h _ hitem) hpart
    | _ => exact h.elim
  | object entry =>
    cases value with
    | object name inner => exact ⟨entry, _, h, hpart⟩
    | _ => exact h.elim
  | _ =>
    cases value with
    | vector items => exact h.elim
    | object name inner => exact h.elim
    | _ => cases hpart

end Codec.Admits

/-! ## Objects that have been read -/

namespace Registry

variable {registry : Registry} {vectorTag : UInt32} {plan : Plan} {typeName : String}
  {fields : List (String × Value)}

theorem CompleteFields.ownFields {deeper : Value → Prop} (hreg : registry.Regular vectorTag)
    (hplan : registry.plan typeName = .ok plan) (hsorted : Fields.Sorted fields)
    (h : CompleteFields vectorTag deeper plan (.object typeName fields)) :
    registry.OwnFields typeName fields := by
  have hregular := hreg.plans hplan
  refine ⟨plan, hplan, fun name held hmem => ?_⟩
  have hheld : Fields.find? name fields = some held := hsorted.find?_of_mem hmem
  obtain ⟨field, hf, rfl⟩ := List.mem_map.mp ((h.names name).mp (by simp [hheld]))
  refine ⟨⟨field, hf, rfl⟩, field.decodeStep vectorTag, ?_, field.field_decodeStep vectorTag, ?_⟩
  · rw [hregular.decode_eq]
    exact List.mem_map_of_mem hf
  · rw [field.codec_decodeStep vectorTag]
    rcases h.admits_or_initial hf hheld with hadmits | rfl
    · exact hadmits.hasShape
    · exact (hregular.isInitial field hf).hasShape vectorTag

/-- An object in a complete object has been read, and is complete itself, or it is a default. -/
theorem Complete.of_part (hreg : registry.Regular vectorTag) {depth : Nat} {value : Value}
    (h : registry.Complete vectorTag depth value)
    (hpart : Value.Part (.object typeName fields) value) :
    (∃ depth', registry.Complete vectorTag (depth' + 1) (.object typeName fields)) ∨
      fields = [] ∧ ∃ plan, registry.plan typeName = .ok plan := by
  induction depth generalizing value with
  | zero => exact h.elim
  | succ depth ih =>
    cases value with
    | object name held =>
      rcases hpart.of_object with heq | ⟨key, inner, hmem, hpart⟩
      · cases heq
        exact Or.inl ⟨depth, h⟩
      · obtain ⟨hsorted, plan, hplan, hfields⟩ := h
        have hinner : Fields.find? key held = some inner := hsorted.find?_of_mem hmem
        obtain ⟨field, hf, rfl⟩ := List.mem_map.mp ((hfields.names key).mp (by simp [hinner]))
        rcases hfields.admits_or_initial hf hinner with hadmits | rfl
        -- an object that has been read is complete to a smaller depth
        · obtain ⟨-, object, hobject, hpart⟩ := hadmits.exists_object hpart
          exact ih hobject hpart
        -- an object that is a default holds nothing
        · obtain ⟨hinitial, rfl⟩ := DefaultValue.eq_construct_of_part hpart
          exact Or.inr ⟨rfl, hreg.exists_plan_of_initial hplan hf hinitial⟩
    | _ => exact h.elim

/-- All objects in a complete object hold fields of their plans, in the shape of these fields. -/
theorem Complete.ownFields (hreg : registry.Regular vectorTag) {depth : Nat} {value : Value}
    (h : registry.Complete vectorTag depth value)
    (hpart : Value.Part (.object typeName fields) value) : registry.OwnFields typeName fields := by
  rcases h.of_part hreg hpart with ⟨_, hsorted, plan, hplan, hfields⟩ | ⟨rfl, plan, hplan⟩
  · exact hfields.ownFields hreg hplan hsorted
  · exact ⟨plan, hplan, fun _ _ hmem => absurd hmem List.not_mem_nil⟩

/-! ## Writing again -/

/-- The error says that a text in the value is too long to be written. The text has been read from
fewer bytes, of which some encode no character. -/
def HasGrown (value : Value) (error : CodecError) : Prop :=
  ∃ payload : ByteArray, Value.Part (.string (Text.Utf8.decode payload)) value ∧
    payload.size ≤ maxPayload ∧ ¬ payload.IsValidUTF8 ∧
    maxPayload < (Text.Utf8.decode payload).toUTF8.size ∧
    error = .wire (.lengthOverflow (Text.Utf8.decode payload).toUTF8.size)

theorem HasGrown.of_part {part whole : Value} {error : CodecError} (h : HasGrown part error)
    (hpart : Value.Part part whole) : HasGrown whole error := by
  obtain ⟨payload, htext, hgrown⟩ := h
  exact ⟨payload, htext.trans hpart, hgrown⟩

theorem hasGrown_of_stringBytes {text : String} {value : Value} {error : WireError}
    (hreading : IsReading text) (hpart : Value.Part (.string text) value)
    (h : stringBytes text = .error error) : HasGrown value (.wire error) := by
  obtain ⟨payload, hsize, rfl⟩ := hreading
  unfold stringBytes payloadBytes at h
  split at h
  next => cases h
  next hlarge =>
    cases h
    refine ⟨payload, hpart, hsize, fun hvalid => hlarge ?_, Nat.lt_of_not_le hlarge, rfl⟩
    rw [Text.Utf8.decode, dif_pos hvalid]
    exact hsize

theorem Complete.settlesWithin_write {depth : Nat} {value held : Value} {codec : Codec}
    (hpart : Value.Part held value) {deeper : Value → Encoder Unit}
    (hdeeper : ∀ inner, registry.Complete vectorTag depth inner →
      SettlesWithin (HasGrown inner) (deeper inner))
    (h : codec.Admits IsReading (fun _ => registry.Complete vectorTag depth) held) :
    SettlesWithin (HasGrown value) (codec.write deeper held) := by
  refine Codec.settlesWithin_write (fun codec held =>
    codec.Admits IsReading (fun _ => registry.Complete vectorTag depth) held ∧
      Value.Part held value) ?_ ?_ ?_ ?_ ⟨h, hpart⟩
  · intro codec held hheld hkind
    exact absurd hheld.1.kind_eq hkind
  · intro text htext error herror
    exact hasGrown_of_stringBytes htext.1 htext.2 herror
  · intro tag element items hitems item hitem
    exact ⟨hitems.1 item hitem, (Value.Part.item hitem (.self item)).trans hitems.2⟩
  · intro entry name fields hobject
    exact (hdeeper _ hobject.1).mono fun _ hgrown => hgrown.of_part hobject.2

theorem CompleteFields.settlesWithin_emit {depth : Nat}
    (h : CompleteFields vectorTag (registry.Complete vectorTag depth) plan
      (.object typeName fields))
    (hreg : registry.Regular vectorTag) (hplan : registry.plan typeName = .ok plan)
    {deeper : Value → Encoder Unit}
    (hdeeper : ∀ inner, registry.Complete vectorTag depth inner →
      SettlesWithin (HasGrown inner) (deeper inner))
    {word : UInt32} (hword : registry.wordOf depth plan (.object typeName fields) = .ok word)
    {field : FieldPlan} (hf : field ∈ plan.fields) :
    SettlesWithin (HasGrown (.object typeName fields))
      (plan.emit vectorTag deeper (.object typeName fields) word field) := by
  unfold Plan.emit
  split
  next => exact (writes_put _).settlesWithin
  next hfate =>
    -- a field that is written is not at its default, so it has been read
    have hread := h.fate_ne_nothing hreg hplan hword hf (by rw [hfate]; simp)
    obtain ⟨held, hheld, hadmits⟩ := h.read field hf hread
    rw [FieldPlan.content_eq hheld]
    have hpart : Value.Part held (.object typeName fields) :=
      .field (Fields.mem_of_find? hheld) (.self held)
    exact Complete.settlesWithin_write hpart hdeeper hadmits
  next => exact (writes_pure ()).settlesWithin

/-- An object is written if that is so for the objects in it. -/
theorem Complete.settlesWithin_of_deeper (hreg : registry.Regular vectorTag) {levels : Nat}
    {value : Value} (h : registry.Complete vectorTag (levels + 1) value)
    (hdeeper : ∀ inner, registry.Complete vectorTag levels inner →
      SettlesWithin (HasGrown inner) (registry.writeDeeper levels inner)) :
    SettlesWithin (HasGrown value) (registry.writeObject levels value) := by
  cases value with
  | object typeName fields =>
    obtain ⟨-, plan, hplan, hfields⟩ := h
    have hregular := hreg.plans hplan
    rw [registry.writeObject_eq, registry.writeObjectWith_eq hplan hregular]
    refine (writes_put _).settlesWithin.bind fun _ _ _ => ?_
    have hword := (wordOf_eq_ok hregular).mpr
      ⟨fun field hf _ => hfields.comparable hreg hplan hf, rfl⟩
    refine SettlesWithin.bind (writes_ofExcept hword).settlesWithin fun _ word hfound => ?_
    refine settlesWithin_forM fun field hf => ?_
    exact hfields.settlesWithin_emit hreg hplan hdeeper (writes_ofExcept_iff.mp hfound).1 hf
  | _ => exact h.elim

/-- A complete object is written, unless a text in it has grown too long. -/
theorem Complete.settlesWithin_writeObject (hreg : registry.Regular vectorTag) {levels : Nat}
    {value : Value} (h : registry.Complete vectorTag (levels + 1) value) :
    SettlesWithin (HasGrown value) (registry.writeObject levels value) := by
  induction levels generalizing value with
  | zero => exact h.settlesWithin_of_deeper hreg fun inner hinner => hinner.elim
  | succ levels ih => exact h.settlesWithin_of_deeper hreg fun inner hinner => ih hinner

end Registry

/-- What has been read strictly is of the types it says, down to the last object in it, and can be
written again, unless a text in it has grown too long in being read. -/
theorem Compilation.encode_of_decode_strict {text : String} {settings : Settings}
    {unit : Compilation} (hunit : ofText text settings = .ok unit) {bytes : ByteArray}
    {entry : String} {value : Value}
    (hdecode : unit.registry.decode bytes entry true = .ok (some value)) :
    (∀ typeName fields, Value.Part (.object typeName fields) value →
        unit.registry.OwnFields typeName fields) ∧
      ((∃ bs, unit.registry.encode value = .ok bs) ∨
        ∃ payload : ByteArray, Value.Part (.string (Text.Utf8.decode payload)) value ∧
          payload.size ≤ maxPayload ∧ ¬ payload.IsValidUTF8 ∧
          maxPayload < (Text.Utf8.decode payload).toUTF8.size ∧
          unit.registry.encode value
            = .error (.wire (.lengthOverflow (Text.Utf8.decode payload).toUTF8.size))) := by
  obtain ⟨symbolPrefix, vectorTag, hu⟩ := accepted_of_ofText hunit
  have hreg := hu.regular
  have hcomplete := Registry.complete_decode hreg hdecode
  refine ⟨fun typeName fields hpart => hcomplete.ownFields hreg hpart, ?_⟩
  rcases Registry.encode_error_of_settlesWithin (hcomplete.settlesWithin_writeObject hreg) with
    hok | ⟨error, herror, payload, hpart, hsize, hinvalid, hlarge, rfl⟩
  · exact Or.inl hok
  · exact Or.inr ⟨payload, hpart, hsize, hinvalid, hlarge, herror⟩

namespace Example

/-- An object of `a.p` that says that `q` is present although it is at its default, and whose one
name is a byte that encodes no character. -/
def illFormed : ByteArray :=
  [1, 0, 0, 0, 2, 0, 0, 0, 2, 0, 0, 0, 0, 0, 0, 0, 0, 0, 0, 0, 3, 0, 0, 0, 0xb5, 0x75, 0x72, 0x99,
    0x15, 0xc4, 0xb5, 0x1c, 1, 0, 0, 0, 1, 0xff, 0, 0].toByteArray

/-- The object in it. -/
def repaired : Value := .object "a_P" [("flags", .int 2), ("names", .vector [.string "\uFFFD"]),
  ("q", .object "a_Q" [("y", .long 0)]), ("x", .int 0), ("z", nested)]

/-- What is written for it: `q` is left out, and the character that stands for the byte takes
three. -/
def rewritten : ByteArray :=
  [1, 0, 0, 0, 0, 0, 0, 0, 3, 0, 0, 0, 0xb5, 0x75, 0x72, 0x99, 0x15, 0xc4, 0xb5, 0x1c, 1, 0, 0, 0,
    3, 0xef, 0xbf, 0xbd].toByteArray

theorem encode_of_decode_illFormed :
    Compilation.ofText text {} = .ok unit ∧
      unit.registry.decode illFormed "a_P" true = .ok (some repaired) ∧
      unit.registry.OwnFields "a_R" [("on", .bool true)] ∧
      unit.registry.encode repaired = .ok rewritten := by
  have hdecode : unit.registry.decode illFormed "a_P" true = .ok (some repaired) := rfl
  have hwritten : unit.registry.encode repaired = .ok rewritten := by decide +kernel
  have hpart : Value.Part nested repaired :=
    .field (show ("z", nested) ∈ _ by simp) (.self nested)
  obtain ⟨hfields, -⟩ := Compilation.encode_of_decode_strict ofText_text hdecode
  exact ⟨ofText_text, hdecode, hfields _ _ hpart, hwritten⟩

end Example

end TlSchema
