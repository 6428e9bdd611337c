import TlSchema.Proofs.Extension

/-!
# Renaming types

Renaming is a function on names that every layer passes down to its parts: to the types in a value
and in an error, and to the types in a plan. Names of fields stay, so what is looked up in a renamed
value or in a renamed plan by the name of a field is the renamed answer.
-/

namespace TlSchema

/-! ## Names -/

/-- The function puts the same symbols before every name. -/
def AddsSymbols (f : String → String) : Prop := ∀ a b, f (a ++ b) = f a ++ b

theorem addsSymbols_append (symbols : String) : AddsSymbols (symbols ++ ·) :=
  fun _ _ => String.append_assoc.symm

/-- Names with the same symbols before them stay apart. -/
theorem AddsSymbols.injective {f : String → String} (hf : AddsSymbols f) :
    Function.Injective f := by
  have hstart : ∀ name, f name = f "" ++ name := by
    intro name
    rw [← hf, String.empty_append]
  intro a b h
  rw [hstart a, hstart b] at h
  exact String.append_right_inj _ |>.mp h

/-! ## Values -/

namespace Value

mutual

/-- The value with the types of all objects renamed. -/
def rename (f : String → String) : Value → Value
  | .vector items => .vector (renameItems f items)
  | .object typeName fields => .object (f typeName) (renameFields f fields)
  | other => other

/-- The values with the types of all objects renamed. -/
def renameItems (f : String → String) : List Value → List Value
  | [] => []
  | item :: items => item.rename f :: renameItems f items

/-- The fields with the types of all objects renamed. -/
def renameFields (f : String → String) : List (String × Value) → List (String × Value)
  | [] => []
  | (name, held) :: fields => (name, held.rename f) :: renameFields f fields

end

variable {f g : String → String}

theorem renameItems_eq_map (items : List Value) : renameItems f items = items.map (rename f) := by
  induction items with
  | nil => rfl
  | cons item items ih => rw [renameItems, ih, List.map_cons]

mutual

/-- Renaming twice is renaming once, by both functions one after the other. -/
theorem rename_rename : ∀ value : Value, (value.rename f).rename g = value.rename (g ∘ f)
  | .bool _ => rfl
  | .int _ => rfl
  | .long _ => rfl
  | .string _ => rfl
  | .vector items => by rw [rename, rename, rename, renameItems_renameItems items]
  | .object typeName fields => by
    rw [rename, rename, rename, renameFields_renameFields fields, Function.comp_apply]

theorem renameItems_renameItems :
    ∀ items : List Value, renameItems g (renameItems f items) = renameItems (g ∘ f) items
  | [] => rfl
  | item :: items => by
    rw [renameItems, renameItems, renameItems, rename_rename item, renameItems_renameItems items]

theorem renameFields_renameFields :
    ∀ fields : List (String × Value),
      renameFields g (renameFields f fields) = renameFields (g ∘ f) fields
  | [] => rfl
  | (name, held) :: fields => by
    rw [renameFields, renameFields, renameFields, rename_rename held,
      renameFields_renameFields fields]

end

mutual

/-- Renaming that keeps all types in a value keeps the value. -/
theorem rename_eq_self : ∀ value : Value, (∀ name ∈ value.typeNames, f name = name) →
    value.rename f = value
  | .bool _, _ => rfl
  | .int _, _ => rfl
  | .long _, _ => rfl
  | .string _, _ => rfl
  | .vector items, h => by rw [rename, renameItems_eq_self items h]
  | .object typeName fields, h => by
    have htype : f typeName = typeName := h typeName List.mem_cons_self
    rw [rename, htype, renameFields_eq_self fields fun name hname =>
      h name (List.mem_cons_of_mem _ hname)]

theorem renameItems_eq_self : ∀ items : List Value, (∀ name ∈ itemTypeNames items, f name = name) →
    renameItems f items = items
  | [], _ => rfl
  | item :: items, h => by
    rw [renameItems, rename_eq_self item fun name hname => h name (List.mem_append_left _ hname),
      renameItems_eq_self items fun name hname => h name (List.mem_append_right _ hname)]

theorem renameFields_eq_self : ∀ fields : List (String × Value),
    (∀ name ∈ fieldTypeNames fields, f name = name) → renameFields f fields = fields
  | [], _ => rfl
  | (_, held) :: fields, h => by
    rw [renameFields, rename_eq_self held fun name hname => h name (List.mem_append_left _ hname),
      renameFields_eq_self fields fun name hname => h name (List.mem_append_right _ hname)]

end

/-- Names of fields stay, so what is found by one is what was there, renamed. -/
theorem find?_renameFields (name : String) (fields : List (String × Value)) :
    Fields.find? name (renameFields f fields) = (Fields.find? name fields).map (rename f) := by
  induction fields with
  | nil => rfl
  | cons field fields ih =>
    obtain ⟨key, held⟩ := field
    rw [renameFields, Fields.find?, Fields.find?]
    split_ifs
    · rfl
    · exact ih

/-- Fields stay in the order of their names, which renaming keeps. -/
theorem insert_renameFields (name : String) (held : Value) (fields : List (String × Value)) :
    Fields.insert name (held.rename f) (renameFields f fields)
      = renameFields f (Fields.insert name held fields) := by
  induction fields with
  | nil => rfl
  | cons field fields ih =>
    obtain ⟨key, first⟩ := field
    rw [renameFields, Fields.insert, Fields.insert]
    split_ifs
    · rfl
    · rfl
    · rw [ih, renameFields]

theorem get?_rename (name : String) (value : Value) :
    (value.rename f).get? name = (value.get? name).map (rename f) := by
  cases value with
  | object typeName fields => exact find?_renameFields name fields
  | _ => rfl

theorem set_rename (name : String) (held value : Value) :
    (value.rename f).set name (held.rename f) = (value.set name held).rename f := by
  cases value with
  | object typeName fields =>
    rw [rename, set_object, set_object, insert_renameFields, rename]
  | _ => rfl

theorem kind_rename (value : Value) : (value.rename f).kind = value.kind := by
  cases value <;> rfl

/-- Flags are no objects, so renaming keeps them. -/
theorem flagWord_rename (name : String) (value : Value) :
    (value.rename f).flagWord name = value.flagWord name := by
  rw [flagWord, flagWord, get?_rename]
  cases value.get? name with
  | none => rfl
  | some held => cases held <;> rfl

end Value

/-! ## Errors -/

/-- The error with the type it names renamed. -/
def WireError.rename (f : String → String) : WireError → WireError
  | .unrecognizedConstructor tag typeName => .unrecognizedConstructor tag (f typeName)
  | .vectorTagMismatch found expected typeName => .vectorTagMismatch found expected (f typeName)
  | other => other

/-- The error with the type it names renamed. -/
def CodecError.rename (f : String → String) : CodecError → CodecError
  | .wire error => .wire (error.rename f)
  | .unknownType name => .unknownType (f name)
  | .noResponse typeName => .noResponse (f typeName)
  | other => other

theorem CodecError.rename_rename (f g : String → String) (error : CodecError) :
    (error.rename f).rename g = error.rename (g ∘ f) := by
  cases error with
  | wire error => cases error <;> rfl
  | _ => rfl

/-! ## Plans -/

section

variable (f : String → String)

/-- The type with the type it names renamed. -/
def TargetType.rename : TargetType → TargetType
  | .vector element => .vector element.rename
  | .named typeName => .named (f typeName)
  | other => other

/-- The default with its type renamed, if it is an object. -/
def DefaultValue.rename : DefaultValue → DefaultValue
  | .construct typeName => .construct (f typeName)
  | other => other

theorem DefaultValue.value_rename (initial : DefaultValue) :
    (initial.rename f).value = initial.value.rename f := by
  cases initial <;> rfl

/-- The codec with the type it names renamed. -/
def Codec.rename : Codec → Codec
  | .vector tag element => .vector tag element.rename
  | .object typeName => .object (f typeName)
  | other => other

/-- The field with the types it names renamed. -/
def FieldPlan.rename (field : FieldPlan) : FieldPlan :=
  ⟨field.name, field.target.rename f, field.initial.rename f, field.flagBit?⟩

/-- The step with the type it names renamed. -/
def EncodeStep.rename : EncodeStep → EncodeStep
  | .write field codec => .write field (codec.rename f)
  | .writeIfFlag bit field codec => .writeIfFlag bit field (codec.rename f)
  | other => other

/-- The step with the type it names renamed. -/
def DecodeStep.rename : DecodeStep → DecodeStep
  | .read field codec => .read field (codec.rename f)
  | .readIfFlag bit field codec => .readIfFlag bit field (codec.rename f)

/-- The result with its type renamed. -/
def EntryResult.rename : EntryResult → EntryResult
  | .concrete typeName => .concrete (f typeName)
  | .abstract typeName => .abstract (f typeName)

/-- The action with the type it names renamed. -/
def DispatchAction.rename : DispatchAction → DispatchAction
  | .decodeSelf => .decodeSelf
  | .delegate typeName => .delegate (f typeName)

/-- The branch with the types it names renamed. -/
def DispatchBranch.rename (branch : DispatchBranch) : DispatchBranch :=
  ⟨branch.tag, branch.key, f branch.typeName, branch.action.rename f⟩

/-- The entry point with the types it names renamed. -/
def Dispatch.rename (dispatch : Dispatch) : Dispatch :=
  ⟨dispatch.result.rename f, dispatch.siblings.map f, dispatch.branches.map (.rename f)⟩

/-- The plan with all types it names renamed. -/
def Plan.rename (plan : Plan) : Plan where
  key := plan.key
  typeName := f plan.typeName
  constructorId := plan.constructorId
  fields := plan.fields.map (.rename f)
  encode := plan.encode.map (.rename f)
  decode := plan.decode.map (.rename f)
  dispatch := plan.dispatch.rename f
  response? := plan.response?.map f

/-- The registry with all types in its plans renamed. -/
def Registry.rename (registry : Registry) : Registry := ⟨registry.plans.map (.rename f)⟩

end

namespace Plan

variable {f : String → String}

theorem field?_rename (plan : Plan) (name : String) :
    (plan.rename f).field? name = (plan.field? name).map (.rename f) := by
  rw [field?, rename, List.find?_map]
  rfl

/-- Entry points find branches by numbers, so they find the same ones. -/
theorem route?_rename (plan : Plan) (tag : UInt32) :
    (plan.rename f).dispatch.route? tag = (plan.dispatch.route? tag).map (.rename f) := by
  rw [Dispatch.route?, rename, Dispatch.rename, List.find?_map]
  rfl

/-- An object that starts from renamed defaults is the renamed one that started from the defaults.
-/
theorem unset_rename (plan : Plan) : (plan.rename f).unset = plan.unset.rename f := by
  have hset : ∀ (fields : List FieldPlan) (object : Value),
      (fields.map (FieldPlan.rename f)).foldl
          (fun object field => object.set field.name field.initial.value) (object.rename f)
        = (fields.foldl (fun object field => object.set field.name field.initial.value)
            object).rename f := by
    intro fields
    induction fields with
    | nil => exact fun _ => rfl
    | cons field fields ih =>
      intro object
      rw [List.map_cons, List.foldl_cons, List.foldl_cons, ← ih, ← Value.set_rename,
        ← DefaultValue.value_rename]
      rfl
  exact hset plan.fields (.object plan.typeName [])

end Plan

end TlSchema
