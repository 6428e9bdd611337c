import TlSchema.Proofs.Accepted
import TlSchema.Proofs.RenamedRuns
import TlSchema.Proofs.RoundTrip

/-!
# Symbols before output names

The symbols that output names start with are in every place of a plan where a type is named, and
nowhere else. So the plans with some symbols are the plans without any, with the types renamed
(`Schema.plansWith_eq_rename`), and two registries that differ in the symbols only do the same up to
renaming.
-/

namespace TlSchema

/-- The text with the symbols that it starts with replaced by others; a text that does not start
with them stays as it is. -/
def Text.replaceStart (symbols others text : String) : String :=
  if symbols.toList.isPrefixOf text.toList then
    others ++ String.ofList (text.toList.drop symbols.toList.length)
  else text

/-- Symbols that are there are replaced. -/
theorem Text.replaceStart_append (symbols others rest : String) :
    Text.replaceStart symbols others (symbols ++ rest) = others ++ rest := by
  have hstart : symbols.toList.isPrefixOf (symbols ++ rest).toList = true := by
    rw [List.isPrefixOf_iff_prefix, String.toList_append]
    exact List.prefix_append _ _
  rw [replaceStart, if_pos hstart, String.toList_append, List.drop_left, String.ofList_toList]

/-- A value all of whose types start with some symbols comes from one without these symbols. -/
theorem Value.exists_eq_rename {symbols : String} {value : Value}
    (h : ∀ name ∈ value.typeNames, ∃ rest, name = symbols ++ rest) :
    ∃ plain : Value, value = plain.rename (symbols ++ ·) := by
  refine ⟨value.rename (Text.replaceStart symbols ""), ?_⟩
  rw [rename_rename, rename_eq_self value]
  intro name hname
  obtain ⟨rest, rfl⟩ := h name hname
  rw [Function.comp_apply, Text.replaceStart_append, String.empty_append]

/-! ## Plans with symbols -/

section

variable (symbols : String) (vectorTag : UInt32)

theorem ValueType.target_eq_rename (type : ValueType) :
    type.target symbols = (type.target "").rename (symbols ++ ·) := by
  induction type with
  | vector element ih => rw [target, ih, target, TargetType.rename]
  | named key => exact congrArg TargetType.named (outputName_eq symbols key)
  | _ => rfl

theorem ValueType.initial_eq_rename (type : ValueType) :
    type.initial symbols = (type.initial "").rename (symbols ++ ·) := by
  cases type with
  | named key => exact congrArg DefaultValue.construct (outputName_eq symbols key)
  | _ => rfl

theorem ValueType.codec_eq_rename (type : ValueType) :
    type.codec symbols vectorTag = (type.codec "" vectorTag).rename (symbols ++ ·) := by
  induction type with
  | vector element ih => rw [codec, ih, codec, Codec.rename]
  | named key => exact congrArg Codec.object (outputName_eq symbols key)
  | _ => rfl

theorem ValueType.response?_eq_rename (type : ValueType) :
    type.response? symbols = (type.response? "").map (symbols ++ ·) := by
  cases type with
  | named key => exact congrArg some (outputName_eq symbols key)
  | boolean value =>
    rw [response?, response?, Option.map_some, String.empty_append]
  | _ => rfl

theorem Field.plan_eq_rename (field : Field) :
    field.plan symbols = (field.plan "").rename (symbols ++ ·) := by
  rw [plan, field.type.target_eq_rename, field.type.initial_eq_rename]
  rfl

theorem Field.encodeStep_eq_rename (field : Field) :
    field.encodeStep symbols vectorTag
      = (field.encodeStep "" vectorTag).rename (symbols ++ ·) := by
  unfold encodeStep
  rw [field.type.codec_eq_rename symbols vectorTag]
  cases field.flagBit? <;> rfl

theorem Field.decodeStep_eq_rename (field : Field) :
    field.decodeStep symbols vectorTag
      = (field.decodeStep "" vectorTag).rename (symbols ++ ·) := by
  unfold decodeStep
  rw [field.type.codec_eq_rename symbols vectorTag]
  cases field.flagBit? <;> rfl

/-- The steps of a definition name types in their codecs only; the one that sets the flags names
none. -/
theorem Definition.encodeSteps_eq_rename (definition : Definition) :
    definition.encodeSteps symbols vectorTag
      = (definition.encodeSteps "" vectorTag).map (.rename (symbols ++ ·)) := by
  have hflags : definition.flagsStep.map (.rename (symbols ++ ·)) = definition.flagsStep := by
    unfold flagsStep
    split_ifs <;> rfl
  rw [encodeSteps, encodeSteps, List.map_append, List.map_cons, hflags, List.map_map]
  refine congrArg (_ ++ ·) (List.map_congr_left fun field _ => ?_)
  exact field.encodeStep_eq_rename symbols vectorTag

theorem Definition.ownBranch_eq_rename (definition : Definition) :
    definition.ownBranch symbols = (definition.ownBranch "").rename (symbols ++ ·) := by
  rw [ownBranch, outputName_eq]
  rfl

namespace Schema

variable (schema : Schema)

/-- A branch names a type as the one it stands for, and as the one it hands over to. -/
theorem memberBranch_eq_rename (definition : Definition) (member : String) :
    schema.memberBranch symbols definition member
      = (schema.memberBranch "" definition member).rename (symbols ++ ·) := by
  unfold memberBranch
  split_ifs
  · exact definition.ownBranch_eq_rename symbols
  · rw [outputName_eq symbols]
    rfl

/-- An entry point names types in its result, for its siblings and in its branches. -/
theorem dispatch_eq_rename (definition : Definition) :
    schema.dispatch symbols definition
      = (schema.dispatch "" definition).rename (symbols ++ ·) := by
  unfold dispatch
  cases schema.familyOf? definition with
  | none =>
    rw [definition.ownBranch_eq_rename symbols, outputName_eq symbols]
    rfl
  | some family =>
    simp only [Dispatch.rename, Dispatch.mk.injEq]
    refine ⟨?_, ?_, ?_⟩
    · split_ifs
      · exact congrArg EntryResult.concrete (outputName_eq symbols definition.key)
      · exact congrArg EntryResult.abstract (outputName_eq symbols family.name)
    · rw [List.map_map]
      exact List.map_congr_left fun member _ => outputName_eq symbols member
    · rw [List.map_append, List.map_map, apply_ite (List.map _), List.map_nil, List.map_singleton,
        ← definition.ownBranch_eq_rename symbols]
      refine congrArg (· ++ _) (List.map_congr_left fun member _ => ?_)
      exact schema.memberBranch_eq_rename symbols definition member

/-- The plan of a definition with some symbols is the one without any, with the types renamed. -/
theorem planOf_eq_rename (definition : Definition) :
    schema.planOf symbols vectorTag definition
      = (schema.planOf "" vectorTag definition).rename (symbols ++ ·) := by
  simp only [planOf, Plan.rename, Plan.mk.injEq, true_and]
  refine ⟨outputName_eq symbols definition.key, ?_,
    definition.encodeSteps_eq_rename symbols vectorTag, ?_,
    schema.dispatch_eq_rename symbols definition,
    definition.returnType.response?_eq_rename symbols⟩
  · rw [List.map_map]
    exact List.map_congr_left fun field _ => field.plan_eq_rename symbols
  · rw [Definition.decodeSteps, Definition.decodeSteps, List.map_map]
    exact List.map_congr_left fun field _ => field.decodeStep_eq_rename symbols vectorTag

/-- The plans with some symbols are the plans without any, with the types renamed. -/
theorem plansWith_eq_rename :
    schema.plansWith symbols vectorTag
      = (schema.plansWith "" vectorTag).map (.rename (symbols ++ ·)) := by
  rw [plansWith, plansWith, List.map_map]
  exact List.map_congr_left fun definition _ => schema.planOf_eq_rename symbols vectorTag definition

end Schema

end

/-! ## Other symbols -/

theorem Text.replaceStart_comp (symbols others : String) :
    Text.replaceStart symbols others ∘ (symbols ++ ·) = (others ++ ·) :=
  funext fun rest => Text.replaceStart_append symbols others rest

theorem mapError_rename_rename {α : Type} (f g : String → String) (x : Except CodecError α) :
    (x.mapError (CodecError.rename f)).mapError (CodecError.rename g)
      = x.mapError (CodecError.rename (g ∘ f)) := by
  cases x with
  | ok a => rfl
  | error e => exact congrArg Except.error (e.rename_rename f g)

namespace Schema

variable (schema : Schema) (vectorTag : UInt32)

/-- The registry with some symbols is the one without any, with the types renamed. -/
theorem registry_eq_rename (symbols : String) :
    (⟨schema.plansWith symbols vectorTag⟩ : Registry)
      = Registry.rename (symbols ++ ·) ⟨schema.plansWith "" vectorTag⟩ :=
  congrArg Registry.mk (schema.plansWith_eq_rename symbols vectorTag)

variable (symbols others : String)

/-- Objects with other symbols are written as the same bytes, because both are renamed from objects
without symbols. -/
theorem encode_replaceStart {value : Value}
    (hvalue : ∀ name ∈ value.typeNames, ∃ rest, name = symbols ++ rest) :
    Registry.encode ⟨schema.plansWith others vectorTag⟩
        (value.rename (Text.replaceStart symbols others))
      = (Registry.encode ⟨schema.plansWith symbols vectorTag⟩ value).mapError
          (CodecError.rename (Text.replaceStart symbols others)) := by
  obtain ⟨plain, rfl⟩ := Value.exists_eq_rename hvalue
  rw [schema.registry_eq_rename vectorTag others, schema.registry_eq_rename vectorTag symbols,
    Value.rename_rename, Text.replaceStart_comp, Registry.encode_rename _ (addsSymbols_append _),
    Registry.encode_rename _ (addsSymbols_append _), mapError_rename_rename, Text.replaceStart_comp]

/-- The same bytes are read as objects with other symbols, because both are renamed from objects
without symbols. -/
theorem decode_replaceStart (bytes : ByteArray) (rest : String) (strict : Bool) :
    Registry.decode ⟨schema.plansWith others vectorTag⟩ bytes
        (Text.replaceStart symbols others (symbols ++ rest)) strict
      = ((Registry.decode ⟨schema.plansWith symbols vectorTag⟩ bytes (symbols ++ rest) strict).map
          (Option.map (Value.rename (Text.replaceStart symbols others)))).mapError
          (CodecError.rename (Text.replaceStart symbols others)) := by
  rw [Text.replaceStart_append, schema.registry_eq_rename vectorTag others,
    schema.registry_eq_rename vectorTag symbols]
  have hothers := Registry.decode_rename ⟨schema.plansWith "" vectorTag⟩
    (addsSymbols_append others) bytes rest strict
  have hsymbols := Registry.decode_rename ⟨schema.plansWith "" vectorTag⟩
    (addsSymbols_append symbols) bytes rest strict
  rw [hothers, hsymbols]
  cases Registry.decode ⟨schema.plansWith "" vectorTag⟩ bytes rest strict with
  | error e =>
    have he := e.rename_rename (symbols ++ ·) (Text.replaceStart symbols others)
    rw [Text.replaceStart_comp] at he
    exact congrArg Except.error he.symm
  | ok value? =>
    cases value? with
    | none => rfl
    | some value =>
      have hvalue := value.rename_rename (f := (symbols ++ ·))
        (g := Text.replaceStart symbols others)
      rw [Text.replaceStart_comp] at hvalue
      exact congrArg (fun v => Except.ok (some v)) hvalue.symm

/-- Whether plans are accepted does not depend on the symbols. -/
theorem plans_with_symbols {settings : Settings} {plans : List Plan}
    (h : schema.plans settings = .ok plans) :
    ∃ vectorTag, plans = schema.plansWith settings.symbolPrefix vectorTag ∧
      schema.plans { settings with symbolPrefix := symbols }
        = .ok (schema.plansWith symbols vectorTag) := by
  obtain ⟨⟨⟩, hrefs, -⟩ := Results.bind_eq_ok.mp h
  obtain ⟨vectorTag, htag, hplans⟩ := plans_eq_ok h
  have htag' :
      ({ settings with symbolPrefix := symbols } : Settings).vectorTag = .ok vectorTag := by
    rw [← htag]
    simp only [Settings.vectorTag]
  refine ⟨vectorTag, hplans, ?_⟩
  unfold Schema.plans
  rw [hrefs, htag']
  rfl

end Schema

/-- The symbols before output names are on the wire nowhere. With other symbols the plans are still
accepted; objects with renamed types are written as the same bytes, and the same bytes are read as
objects with renamed types. Where one fails, the other fails with the same error, with the type it
names renamed. -/
theorem Schema.symbols_not_on_wire {schema : Schema} {settings : Settings} {plans : List Plan}
    (hplans : schema.plans settings = .ok plans) (symbols : String) :
    ∃ others, schema.plans { settings with symbolPrefix := symbols } = .ok others ∧
      (∀ value, (∀ name ∈ value.typeNames, ∃ rest, name = settings.symbolPrefix ++ rest) →
        Registry.encode ⟨others⟩ (value.rename (Text.replaceStart settings.symbolPrefix symbols))
          = (Registry.encode ⟨plans⟩ value).mapError
              (CodecError.rename (Text.replaceStart settings.symbolPrefix symbols))) ∧
      ∀ bytes typeName strict, (∃ rest, typeName = settings.symbolPrefix ++ rest) →
        Registry.decode ⟨others⟩ bytes (Text.replaceStart settings.symbolPrefix symbols typeName)
            strict
          = ((Registry.decode ⟨plans⟩ bytes typeName strict).map
              (Option.map (Value.rename (Text.replaceStart settings.symbolPrefix symbols)))).mapError
              (CodecError.rename (Text.replaceStart settings.symbolPrefix symbols)) := by
  obtain ⟨vectorTag, rfl, hothers⟩ := schema.plans_with_symbols symbols hplans
  refine ⟨_, hothers, fun value hvalue => ?_, ?_⟩
  · exact schema.encode_replaceStart vectorTag _ symbols hvalue
  · rintro bytes typeName strict ⟨rest, rfl⟩
    exact schema.decode_replaceStart vectorTag _ symbols bytes rest strict

namespace Example

/-- Output names start with the given symbols. -/
def settings (symbols : String) : Settings := ⟨"", symbols, "1cb5c415"⟩

/-- An object that holds an object, with types that start with the given symbols. -/
def withSymbols (symbols : String) : Value :=
  .object (symbols ++ "a_P") [("x", .int 5), ("z", .object (symbols ++ "a_R") [("on", .bool true)])]

/-- The number of a constructor that is not there. -/
def unknownConstructor : ByteArray := [9, 0, 0, 0].toByteArray

/-- What is written for such an object, whatever the symbols are. -/
def written : ByteArray :=
  [1, 0, 0, 0, 1, 0, 0, 0, 5, 0, 0, 0, 3, 0, 0, 0, 0xb5, 0x75, 0x72, 0x99, 0x15, 0xc4, 0xb5, 0x1c,
    0, 0, 0, 0].toByteArray

theorem symbols_not_on_wire_objects :
    ∃ plans others, unit.schema.plans (settings "A") = .ok plans ∧
      unit.schema.plans (settings "TL") = .ok others ∧
      (∀ name ∈ (withSymbols "A").typeNames, ∃ rest, name = "A" ++ rest) ∧
      Registry.encode ⟨plans⟩ (withSymbols "A") = .ok written ∧
      Registry.encode ⟨others⟩ (withSymbols "TL") = .ok written ∧
      Registry.decode ⟨others⟩ unknownConstructor "TLa_P" true
        = .error (.wire (.unrecognizedConstructor 9 "TLa_P")) := by
  have hplans : unit.schema.plans (settings "A")
      = .ok (unit.schema.plansWith "A" 0x1cb5c415) := by decide +kernel
  have hnames : ∀ name ∈ (withSymbols "A").typeNames, ∃ rest, name = "A" ++ rest := by
    intro name hname
    have heq : (withSymbols "A").typeNames = ["A" ++ "a_P", "A" ++ "a_R"] := rfl
    rw [heq, List.mem_pair] at hname
    rcases hname with rfl | rfl
    · exact ⟨"a_P", rfl⟩
    · exact ⟨"a_R", rfl⟩
  have hwritten : Registry.encode ⟨unit.schema.plansWith "A" 0x1cb5c415⟩ (withSymbols "A")
      = .ok written := by decide +kernel
  have hunknown : Registry.decode ⟨unit.schema.plansWith "A" 0x1cb5c415⟩ unknownConstructor "Aa_P"
      true = .error (.wire (.unrecognizedConstructor 9 "Aa_P")) := rfl
  obtain ⟨others, hothers, hencode, hdecode⟩ := Schema.symbols_not_on_wire hplans "TL"
  have hsame := hencode (withSymbols "A") hnames
  have hfails := hdecode unknownConstructor "Aa_P" true ⟨"a_P", rfl⟩
  rw [hwritten] at hsame
  rw [hunknown] at hfails
  exact ⟨_, others, hplans, hothers, hnames, hwritten, hsame, hfails⟩

end Example

end TlSchema
