import TlSchema.Proofs.FlagWords
import TlSchema.Proofs.InStep

/-!
# What the flags on the wire say

A bit of the flags that are written says of the last field it guards whether this field is set to
something other than its default, and all fields that the bit guards are written or left out with
it. So the flags are right about all fields exactly if no bit leaves out a field that is set because
the last one it guards is not. Bits that guard no field are those of the object.
-/

namespace TlSchema

open Encoder Wire

namespace Registry

/-- The object holds something in the field that is found to differ from the default. -/
def IsSet (registry : Registry) (object : Value) (field : FieldPlan) : Prop :=
  ∃ held, object.get? field.name = some held ∧
    registry.isDefault maxNesting field.initial held = .ok false

/-- Among the bytes of an object with the flags `word`, a field came to `part`: these bytes stand
behind those of the fields before it. -/
def PartOf (registry : Registry) (vectorTag : UInt32) (plan : Plan) (object : Value) (word : UInt32)
    (bs : ByteArray) (field : FieldPlan) (part : ByteArray) : Prop :=
  ∃ before after head tail, plan.fields = before ++ field :: after ∧
    bs = uint32Bytes plan.constructorId ++ (head ++ (part ++ tail)) ∧
    Writes (before.forM (plan.emit vectorTag (registry.writeDeeper maxNesting) object word)) head () ∧
    Writes (plan.emit vectorTag (registry.writeDeeper maxNesting) object word field) part () ∧
    Writes (after.forM (plan.emit vectorTag (registry.writeDeeper maxNesting) object word)) tail ()

/-- What the flags `word` of an object say when its bytes are `bs`. -/
structure FlagsOnWire (registry : Registry) (vectorTag : UInt32) (plan : Plan) (object : Value)
    (word : UInt32) (bs : ByteArray) : Prop where
  /-- The word stands where the flags are written. -/
  placed : ∃ flags ∈ plan.fields, flags.DeclaresFlags ∧
    registry.PartOf vectorTag plan object word bs flags (uint32Bytes word)
  /-- A bit that guards no field is that of the object. -/
  copied : ∀ bit, InWord bit → plan.guardedBy bit = [] →
    Flags.has word bit = Flags.has (object.flagWord flagsName) bit
  /-- A bit that guards fields says whether the last of them is set. -/
  tracked : ∀ bit last, (plan.guardedBy bit).getLast? = some last →
    (Flags.has word bit = true ↔ registry.IsSet object last)
  /-- With the last of them, all fields that a bit guards are written or left out. -/
  written : ∀ bit last, (plan.guardedBy bit).getLast? = some last →
    ∀ field ∈ plan.guardedBy bit, ∃ part, registry.PartOf vectorTag plan object word bs field part ∧
      (registry.IsSet object last → Writes ((field.codec vectorTag).write
        (registry.writeDeeper maxNesting) (field.content object)) part ()) ∧
      (¬ registry.IsSet object last → part = .empty)

variable {registry : Registry} {vectorTag : UInt32} {plan : Plan} {typeName : String}
  {fields : List (String × Value)} {bs : ByteArray} {word : UInt32}

/-- Each field of an object that was written came to some part of the bytes. -/
theorem exists_partOf {object : Value} {rest : ByteArray}
    (hrest : Writes (plan.fields.forM
      (plan.emit vectorTag (registry.writeDeeper maxNesting) object word)) rest ())
    {field : FieldPlan} (hf : field ∈ plan.fields) :
    ∃ part, registry.PartOf vectorTag plan object word
      (uint32Bytes plan.constructorId ++ rest) field part := by
  have hsettles := plan.settles_emit (registry.settles_writeDeeper maxNesting) vectorTag object word
  have hlist : ∀ fields : List FieldPlan, Settles (fields.forM
      (plan.emit vectorTag (registry.writeDeeper maxNesting) object word)) :=
    fun fields => settles_forM fun field _ => hsettles field
  obtain ⟨before, after, heq⟩ := List.append_of_mem hf
  rw [heq, List.forM_eq_forM, List.forM_append, List.forM_cons] at hrest
  obtain ⟨head, rest', hhead, hrest', rfl⟩ :=
    (writes_seq_iff (hlist before) ((hsettles field).bind fun _ => hlist after)).mp hrest
  obtain ⟨part, tail, hpart, htail, rfl⟩ :=
    (writes_seq_iff (hsettles field) (hlist after)).mp hrest'
  exact ⟨part, before, after, head, tail, heq, rfl, hhead, hpart, htail⟩

theorem has_wordOf_last {object : Value} (h : plan.Regular vectorTag)
    (hword : registry.wordOf maxNesting plan object = .ok word) {bit : UInt8} {last : FieldPlan}
    (hlast : (plan.guardedBy bit).getLast? = some last) :
    Flags.has word bit = true ↔ registry.IsSet object last := by
  rw [has_wordOf_eq_differs h hword hlast]
  exact differs_iff

theorem flagsOnWire (h : plan.Regular vectorTag) (hguarded : plan.isGuarded = true)
    {object : Value} (hword : registry.wordOf maxNesting plan object = .ok word)
    {rest : ByteArray} (hrest : Writes (plan.fields.forM
      (plan.emit vectorTag (registry.writeDeeper maxNesting) object word)) rest ()) :
    registry.FlagsOnWire vectorTag plan object word (uint32Bytes plan.constructorId ++ rest) := by
  refine ⟨?_, fun bit hb hnone => ?_, fun bit last => has_wordOf_last h hword, ?_⟩
  · obtain ⟨flags, hflags, hdecl⟩ := h.flags_of_guarded hguarded
    obtain ⟨part, hpart⟩ := exists_partOf hrest hflags
    refine ⟨flags, hflags, hdecl, ?_⟩
    obtain ⟨before, after, head, tail, heq, hbs, hhead, hemit, htail⟩ := hpart
    have hput : plan.emit vectorTag (registry.writeDeeper maxNesting) object word flags
        = put (uint32Bytes word) := by
      rw [Plan.emit, plan.fate_of_not_guarded word hdecl.1, if_pos ⟨hguarded, hdecl.2⟩]
    have hpart := hemit
    rw [hput] at hpart
    obtain ⟨rfl, -⟩ := hpart.unique (writes_put _)
    exact ⟨before, after, head, tail, heq, hbs, hhead, hemit, htail⟩
  · rw [has_wordOf h hguarded hword hb, hnone]
    rfl
  · intro bit last hlast field hfield
    obtain ⟨hf, hbit⟩ := Plan.mem_guardedBy.mp hfield
    obtain ⟨part, hpart⟩ := exists_partOf hrest hf
    obtain ⟨_, _, _, _, _, _, _, hemit, _⟩ := id hpart
    have htracked := has_wordOf_last h hword hlast
    rw [Plan.emit, plan.fate_of_guarded word hbit] at hemit
    refine ⟨part, hpart, fun hset => ?_, fun hset => ?_⟩
    · rwa [if_pos (htracked.mpr hset)] at hemit
    · rw [if_neg (mt htracked.mp hset)] at hemit
      exact (hemit.unique (writes_pure ())).1

/-- A field whose bit is set is read back as it was written. -/
theorem get?_readBack_of_has (hreg : registry.Regular vectorTag)
    (hplan : registry.plan typeName = .ok plan)
    (hword : registry.wordOf maxNesting plan (.object typeName fields) = .ok word)
    {field : FieldPlan} (hf : field ∈ plan.fields) {bit : UInt8}
    (hbit : field.flagBit? = some bit) (hhas : Flags.has word bit = true) :
    (registry.readBack maxNesting (.object typeName fields)).get? field.name
      = some (field.target.readBack (registry.readBackDeeper maxNesting)
          (field.content (.object typeName fields))) := by
  rw [readBack_eq_with, readBackWith_eq hplan hword, (hreg.plans hplan).get?_readBack _ _ _ hf,
    Plan.reading, plan.fate_of_guarded word hbit, if_pos hhas]
  rfl

end Registry

/-- The flags that are written for an object say of every bit whether the last field it guards is
set. They say that some field it guards is set exactly if the last one is whenever some are. What was
written is read back. -/
theorem Compilation.flags_track_last_guarded {text : String} {settings : Settings}
    {unit : Compilation} (hunit : ofText text settings = .ok unit) {typeName : String}
    {plan : Plan} (hplan : unit.registry.plan typeName = .ok plan)
    (hguarded : plan.isGuarded = true) {fields : List (String × Value)} {bs : ByteArray}
    (hencode : unit.registry.encode (.object typeName fields) = .ok bs) :
    ∃ vectorTag word, settings.vectorTag = .ok vectorTag ∧
      unit.registry.FlagsOnWire vectorTag plan (.object typeName fields) word bs ∧
      (∀ bit last, (plan.guardedBy bit).getLast? = some last →
        ((Flags.has word bit = true ↔
            ∃ field ∈ plan.guardedBy bit, unit.registry.IsSet (.object typeName fields) field) ↔
          ((∃ field ∈ plan.guardedBy bit, unit.registry.IsSet (.object typeName fields) field) →
            unit.registry.IsSet (.object typeName fields) last))) ∧
      (unit.Distinct → unit.registry.Routed (.named typeName) (.object typeName fields) →
        unit.registry.IntFlags maxNesting (.object typeName fields) → ∀ strict,
        ∃ value, unit.registry.decode bs typeName strict = .ok (some value) ∧
          ∀ bit, Flags.has word bit = true → ∀ field ∈ plan.guardedBy bit,
            value.get? field.name = some (field.target.readBack
              (unit.registry.readBackDeeper maxNesting) (field.content (.object typeName fields)))) := by
  obtain ⟨vectorTag, htag, hu⟩ := accepted_of_ofText hunit
  have hreg := hu.regular
  have hregular := hreg.plans hplan
  have hw := unit.registry.encode_eq_ok.mp hencode
  rw [Registry.writeObject_eq] at hw
  obtain ⟨word, rest, hword, hrest, rfl⟩ := (unit.registry.writes_writeObjectWith_iff hplan hregular
    maxNesting (unit.registry.settles_writeDeeper maxNesting)).mp hw
  refine ⟨vectorTag, word, htag, Registry.flagsOnWire hregular hguarded hword hrest, ?_, ?_⟩
  · intro bit last hlast
    have htracked := Registry.has_wordOf_last hregular hword hlast
    have hmem := List.mem_of_getLast? hlast
    constructor
    · exact fun hiff hset => htracked.mp (hiff.mpr hset)
    · exact fun hset => ⟨fun hhas => ⟨last, hmem, htracked.mp hhas⟩, fun h => htracked.mpr (hset h)⟩
  · intro hdist hrouted hint strict
    have htakes := Registry.takes_decodeNext hreg (hu.routes hdist) hrouted hint hencode strict
    have hdecode := Registry.decode_of_takes htakes .empty
    rw [ByteArray.append_empty] at hdecode
    refine ⟨_, hdecode, fun bit hhas field hfield => ?_⟩
    obtain ⟨hf, hbit⟩ := Plan.mem_guardedBy.mp hfield
    exact Registry.get?_readBack_of_has hreg hplan hword hf hbit hhas

/-! ## A bit that guards two fields -/

namespace SharedBit

/-- A schema with two fields that one bit guards. -/
def text : String := "a.b#1 flags:# x:flags.0?int y:flags.0?int = a.B;"

/-- What it is compiled to. -/
def unit : Compilation := .ofDefinitions
  [⟨"a.b", 1, [⟨"flags", .int32, none⟩, ⟨"x", .int32, some 0⟩, ⟨"y", .int32, some 0⟩],
    .named "a.B", ⟨1, 1⟩⟩]

theorem ofText_text : Compilation.ofText text {} = .ok unit := by decide +kernel

/-- The two fields. -/
def guarded : List FieldPlan :=
  [⟨"x", .int32, .int32 0, some 0⟩, ⟨"y", .int32, .int32 0, some 0⟩]

theorem exists_plan : ∃ plan, unit.registry.plan "a_B" = .ok plan ∧ plan.isGuarded = true ∧
    plan.guardedBy 0 = guarded :=
  ⟨_, rfl, rfl, rfl⟩

/-- Fields of an object in which both are set. -/
def both : List (String × Value) := [("x", .int 5), ("y", .int 7)]

/-- What is written for it. -/
def bothWritten : ByteArray := [1, 0, 0, 0, 1, 0, 0, 0, 5, 0, 0, 0, 7, 0, 0, 0].toByteArray

/-- Both fields are set, the bit says so, and both are there again in what is read back. -/
theorem flags_track_both :
    ∃ plan, Compilation.ofText text {} = .ok unit ∧ unit.registry.plan "a_B" = .ok plan ∧
      plan.isGuarded = true ∧ unit.registry.encode (.object "a_B" both) = .ok bothWritten ∧
      unit.Distinct ∧ unit.registry.Routed (.named "a_B") (.object "a_B" both) ∧
      unit.registry.IntFlags maxNesting (.object "a_B" both) ∧
      ∃ vectorTag word,
        unit.registry.FlagsOnWire vectorTag plan (.object "a_B" both) word bothWritten ∧
        Flags.has word 0 = true ∧
        ∀ strict, ∃ value, unit.registry.decode bothWritten "a_B" strict = .ok (some value) ∧
          value.get? "x" = some (.int 5) ∧ value.get? "y" = some (.int 7) := by
  obtain ⟨plan, hplan, hguarded, hfields⟩ := exists_plan
  have hencode : unit.registry.encode (.object "a_B" both) = .ok bothWritten := by decide +kernel
  have hdist : unit.Distinct := ⟨by decide, by decide⟩
  obtain ⟨_, -, hu⟩ := Compilation.accepted_of_ofText ofText_text
  have hrouted : unit.registry.Routed (.named "a_B") (.object "a_B" both) :=
    Registry.routed_of_ints (hu.routes hdist) (by simp [both])
  have hint := Registry.intFlags_of_flagsAreInt (show unit.FlagsAreInt by decide) maxNesting
    (.object "a_B" both)
  obtain ⟨vectorTag, word, -, hwire, -, hback⟩ :=
    Compilation.flags_track_last_guarded ofText_text hplan hguarded hencode
  have hhas : Flags.has word 0 = true :=
    (hwire.tracked 0 ⟨"y", .int32, .int32 0, some 0⟩ (by rw [hfields]; rfl)).mpr ⟨.int 7, rfl, rfl⟩
  refine ⟨plan, ofText_text, hplan, hguarded, hencode, hdist, hrouted, hint, vectorTag, word, hwire,
    hhas, fun strict => ?_⟩
  obtain ⟨value, hdecode, hpresent⟩ := hback hdist hrouted hint strict
  have hpresent := hpresent 0 hhas
  rw [hfields] at hpresent
  exact ⟨value, hdecode, hpresent ⟨"x", .int32, .int32 0, some 0⟩ (by simp [guarded]),
    hpresent ⟨"y", .int32, .int32 0, some 0⟩ (by simp [guarded])⟩

/-- The first field is set and the last is not, so the bit is clear and the first field is lost. -/
theorem set_field_left_out :
    ∃ plan, Compilation.ofText text {} = .ok unit ∧ unit.registry.plan "a_B" = .ok plan ∧
      plan.guardedBy 0 = guarded ∧
      (∃ field ∈ guarded, unit.registry.IsSet (.object "a_B" [("x", .int 5)]) field) ∧
      unit.registry.encode (.object "a_B" [("x", .int 5)])
        = .ok (uint32Bytes 1 ++ uint32Bytes 0) ∧
      Flags.has 0 0 = false ∧
      ∃ value, unit.registry.decode (uint32Bytes 1 ++ uint32Bytes 0) "a_B" true = .ok (some value) ∧
        value.get? "x" = some (.int 0) := by
  obtain ⟨plan, hplan, -, hfields⟩ := exists_plan
  exact ⟨plan, ofText_text, hplan, hfields,
    ⟨_, List.mem_cons_self, .int 5, rfl, rfl⟩, by decide +kernel, Flags.has_zero 0, _, rfl, rfl⟩

end SharedBit

end TlSchema
