import TlSchema.Proofs.ReadErrors
import TlSchema.Proofs.Renaming

/-!
# Runs with renamed types

Writing and reading follow the names of types, compare them and put them into errors, and write and
read none. So a registry whose types have been renamed does with renamed objects what it did before,
step by step, with the results renamed: the same bytes are written and read, and the same errors
arise with renamed types. Names must stay apart when they are renamed, since types are compared, and
a name made longer must be renamed alike, since an error can name a field of a type; both hold if
renaming puts symbols before every name.
-/

namespace TlSchema

open Wire

variable {f : String → String}

/-! ## Results -/

section

variable {α β γ δ : Type}

/-- The second result is the first one with what it gives changed by `g`, or with its error
renamed. -/
def Renamed (f : String → String) (g : α → β) (x : Except CodecError α) (y : Except CodecError β) :
    Prop :=
  y = (x.map g).mapError (CodecError.rename f)

/-- Results that follow one another are renamed if each of them is. -/
theorem Renamed.bind {g : α → β} {h : γ → δ} {x : Except CodecError α} {y : Except CodecError β}
    {next : α → Except CodecError γ} {next' : β → Except CodecError δ} (hx : Renamed f g x y)
    (hnext : ∀ a, Renamed f h (next a) (next' (g a))) :
    Renamed f h (x >>= next) (y >>= next') := by
  cases hx
  cases x with
  | ok a => exact hnext a
  | error e => rfl

/-- A test of all items of a list stops at the same item, with the same answer. -/
theorem renamed_allM {p : α → Except CodecError Bool} {p' : β → Except CodecError Bool} {r : α → β}
    {as : List α} (h : ∀ a ∈ as, Renamed f id (p a) (p' (r a))) :
    Renamed f id (as.allM p) ((as.map r).allM p') := by
  induction as with
  | nil => rfl
  | cons a as ih =>
    rw [List.map_cons, List.allM_cons, List.allM_cons]
    refine (h a List.mem_cons_self).bind fun b => ?_
    cases b with
    | true => exact ih fun a' ha' => h a' (List.mem_cons_of_mem a ha')
    | false => rfl

/-- A loop over a list is renamed if each of its steps is. -/
theorem renamed_foldlM {step step' : β → α → Except CodecError β} {as : List α}
    (h : ∀ b, ∀ a ∈ as, Renamed f id (step b a) (step' b a)) (b : β) :
    Renamed f id (as.foldlM step b) (as.foldlM step' b) := by
  induction as generalizing b with
  | nil => rfl
  | cons a as ih =>
    rw [List.foldlM_cons, List.foldlM_cons]
    exact (h b a List.mem_cons_self).bind fun b' =>
      ih (fun b'' a' ha' => h b'' a' (List.mem_cons_of_mem a ha')) b'

end

/-! ## Runs -/

section

variable {σ α β γ δ : Type}

/-- From every state the second computation does what the first one does, with what it gives changed
by `g`, or with its error renamed. -/
def RunsRenamed (f : String → String) (g : α → β) (x : EStateM CodecError σ α)
    (y : EStateM CodecError σ β) : Prop :=
  ∀ s, (∀ a s', x s = .ok a s' → y s = .ok (g a) s') ∧
    ∀ e s', x s = .error e s' → y s = .error (e.rename f) s'

theorem runsRenamed_pure (g : α → β) (a : α) :
    RunsRenamed f g (pure a : EStateM CodecError σ α) (pure (g a)) := by
  intro s
  constructor
  · intro a' s' h
    cases h
    rfl
  · intro e s' h
    cases h

theorem runsRenamed_throw (g : α → β) (error : CodecError) :
    RunsRenamed f g (throw error : EStateM CodecError σ α) (throw (error.rename f)) := by
  intro s
  constructor
  · intro a s' h
    cases h
  · intro e s' h
    cases h
    rfl

/-- A computation whose errors name no types stays as it is. -/
theorem runsRenamed_self {x : EStateM CodecError σ α}
    (h : ∀ s e s', x s = .error e s' → e.rename f = e) : RunsRenamed f id x x := by
  intro s
  constructor
  · intro a s' hrun
    exact hrun
  · intro e s' hrun
    rw [h s e s' hrun]
    exact hrun

/-- Runs that follow one another are renamed if each of them is, from whatever the first one gives.
-/
theorem RunsRenamed.bind {g : α → β} {h : γ → δ} {x : EStateM CodecError σ α}
    {y : EStateM CodecError σ β} {next : α → EStateM CodecError σ γ}
    {next' : β → EStateM CodecError σ δ} (hx : RunsRenamed f g x y)
    (hnext : ∀ a, RunsRenamed f h (next a) (next' (g a))) :
    RunsRenamed f h (x >>= next) (y >>= next') := by
  intro s
  show (∀ c s', EStateM.bind x next s = .ok c s' → EStateM.bind y next' s = .ok (h c) s') ∧
    ∀ e s', EStateM.bind x next s = .error e s' → EStateM.bind y next' s = .error (e.rename f) s'
  unfold EStateM.bind
  cases hrun : x s with
  | ok a mid =>
    rw [(hx s).1 a mid hrun]
    exact hnext a mid
  | error e mid =>
    rw [(hx s).2 e mid hrun]
    constructor
    · intro c s' heq
      cases heq
    · intro e' s' heq
      cases heq
      rfl

/-- A loop over renamed items runs as before if it does so with each item. -/
theorem runsRenamed_forM {p : α → EStateM CodecError σ Unit} {p' : β → EStateM CodecError σ Unit}
    {r : α → β} {as : List α} (h : ∀ a ∈ as, RunsRenamed f id (p a) (p' (r a))) :
    RunsRenamed f id (as.forM p) ((as.map r).forM p') := by
  induction as with
  | nil => exact runsRenamed_pure id ()
  | cons a as ih =>
    rw [List.map_cons, List.forM_eq_forM, List.forM_eq_forM, List.forM_cons, List.forM_cons]
    exact (h a List.mem_cons_self).bind fun _ => ih fun b hb => h b (List.mem_cons_of_mem a hb)

/-- The same of a loop that hands something on from item to item, as it is. -/
theorem runsRenamed_foldlM {p : γ → α → EStateM CodecError σ γ}
    {p' : γ → β → EStateM CodecError σ γ} {r : α → β} {as : List α}
    (h : ∀ c, ∀ a ∈ as, RunsRenamed f id (p c a) (p' c (r a))) (c : γ) :
    RunsRenamed f id (as.foldlM p c) ((as.map r).foldlM p' c) := by
  induction as generalizing c with
  | nil => exact runsRenamed_pure id c
  | cons a as ih =>
    rw [List.map_cons, List.foldlM_cons, List.foldlM_cons]
    exact (h c a List.mem_cons_self).bind fun c' =>
      ih (fun c'' a' ha' => h c'' a' (List.mem_cons_of_mem a ha')) c'

theorem Encoder.runsRenamed_ofExcept {g : α → β} {x : Except CodecError α} {y : Except CodecError β}
    (h : Renamed f g x y) : RunsRenamed f g (Encoder.ofExcept x) (Encoder.ofExcept y) := by
  cases h
  cases x with
  | ok a => exact runsRenamed_pure g a
  | error e => exact runsRenamed_throw g e

theorem Decoder.runsRenamed_ofExcept {g : α → β} {x : Except CodecError α} {y : Except CodecError β}
    (h : Renamed f g x y) : RunsRenamed f g (Decoder.ofExcept x) (Decoder.ofExcept y) := by
  cases h
  cases x with
  | ok a => exact runsRenamed_pure g a
  | error e => exact runsRenamed_throw g e

end

/-! ## Plans -/

namespace Registry

variable (registry : Registry)

/-- The plan of a renamed type is the renamed plan, since no other type is renamed to the same. -/
theorem renamed_plan (hf : AddsSymbols f) (typeName : String) :
    Renamed f (.rename f) (registry.plan typeName) ((registry.rename f).plan (f typeName)) := by
  have hfind : (registry.rename f).plans.find? (·.typeName = f typeName)
      = (registry.plans.find? (·.typeName = typeName)).map (.rename f) := by
    have hname : (fun plan : Plan => decide (plan.typeName = f typeName)) ∘ Plan.rename f
        = fun plan => decide (plan.typeName = typeName) := by
      funext plan
      exact decide_eq_decide.mpr hf.injective.eq_iff
    rw [rename, List.find?_map, hname]
  unfold Renamed plan
  rw [hfind]
  cases registry.plans.find? (·.typeName = typeName) <;> rfl

theorem renamed_instantiate (hf : AddsSymbols f) (typeName : String) :
    Renamed f (Value.rename f) (registry.instantiate typeName)
      ((registry.rename f).instantiate (f typeName)) := by
  refine (registry.renamed_plan hf typeName).bind fun plan => ?_
  rw [Plan.unset_rename]
  rfl

/-! ## Writing -/

/-- One level of the test against a default: an object is compared by its type and then field by
field. -/
theorem renamed_isDefaultWith (hf : AddsSymbols f)
    {deeper deeper' : DefaultValue → Value → Except CodecError Bool}
    (hdeeper : ∀ initial value,
      Renamed f id (deeper initial value) (deeper' (initial.rename f) (value.rename f)))
    (initial : DefaultValue) (value : Value) :
    Renamed f id (registry.isDefaultWith deeper initial value)
      ((registry.rename f).isDefaultWith deeper' (initial.rename f) (value.rename f)) := by
  cases initial with
  | construct typeName =>
    cases value with
    | object name fields =>
      unfold isDefaultWith
      -- the types are compared, and renaming keeps them apart
      simp only [DefaultValue.rename, Value.rename, hf.injective.eq_iff]
      split_ifs
      · refine (registry.renamed_plan hf typeName).bind fun plan => renamed_allM fun field _ => ?_
        simp only [FieldPlan.rename, Value.find?_renameFields]
        cases Fields.find? field.name fields with
        | some held => exact hdeeper field.initial held
        | none => rfl
      · rfl
    | _ => rfl
  | emptyVector =>
    cases value with
    | vector items => cases items <;> rfl
    | _ => rfl
  | _ => cases value <;> rfl

/-- The test against a default comes to the same at every depth, by induction on the levels left. -/
theorem renamed_isDefault (hf : AddsSymbols f) (levels : Nat) (initial : DefaultValue)
    (value : Value) :
    Renamed f id (registry.isDefault levels initial value)
      ((registry.rename f).isDefault levels (initial.rename f) (value.rename f)) := by
  induction levels generalizing initial value with
  | zero =>
    refine registry.renamed_isDefaultWith hf (fun _ _ => ?_) initial value
    rfl
  | succ levels ih => exact registry.renamed_isDefaultWith hf ih initial value

theorem renamed_fieldIsDefault (hf : AddsSymbols f) (levels : Nat) (plan : Plan) (object : Value)
    (name : String) :
    Renamed f id (registry.fieldIsDefault levels plan object name)
      ((registry.rename f).fieldIsDefault levels (plan.rename f) (object.rename f) name) := by
  unfold fieldIsDefault
  rw [Value.get?_rename, plan.field?_rename]
  cases object.get? name with
  | none => rfl
  | some held =>
    cases plan.field? name with
    | none => rfl
    | some field => exact registry.renamed_isDefault hf levels field.initial held

/-- The flags that are set for an object depend on its fields only, so they stay. -/
theorem renamed_flagsOf (hf : AddsSymbols f) (levels : Nat) (plan : Plan) (object : Value)
    (flagsField : String) (bindings : List FlagBinding) :
    Renamed f id (registry.flagsOf levels plan object flagsField bindings)
      ((registry.rename f).flagsOf levels (plan.rename f) (object.rename f) flagsField
        bindings) := by
  unfold flagsOf
  rw [Value.flagWord_rename]
  refine renamed_foldlM (fun word binding _ => ?_) _
  exact (registry.renamed_fieldIsDefault hf levels plan object binding.field).bind fun unset => rfl

end Registry

section

variable {deeper deeper' : Value → Encoder Unit}
  (hdeeper : ∀ value, RunsRenamed f id (deeper value) (deeper' (value.rename f)))

theorem runsRenamed_put (bs : ByteArray) : RunsRenamed f id (Encoder.put bs) (Encoder.put bs) := by
  refine runsRenamed_self fun s e s' h => ?_
  cases h

/-- A text that is too long is refused with an error that gives its length and no type. -/
theorem runsRenamed_putText (text : String) :
    RunsRenamed f id (Encoder.putResult (stringBytes text))
      (Encoder.putResult (stringBytes text)) := by
  refine runsRenamed_self fun s e s' h => ?_
  unfold stringBytes payloadBytes at h
  split at h
  · cases h
  · cases h
    rfl

theorem Codec.kind_rename (codec : Codec) : (codec.rename f).kind = codec.kind := by
  cases codec <;> rfl

include hdeeper

/-- A value is written as before if that is so for the objects in it. The error for a value out of
shape says what kinds were met, and these stay. -/
theorem Codec.runsRenamed_write (codec : Codec) (value : Value) :
    RunsRenamed f id (codec.write deeper value)
      ((codec.rename f).write deeper' (value.rename f)) := by
  have hother : ∀ (codec : Codec) (value : Value),
      RunsRenamed f id (throw (.shape codec.kind value.kind) : Encoder Unit)
        (throw (.shape (codec.rename f).kind (value.rename f).kind)) := by
    intro codec value
    rw [codec.kind_rename, value.kind_rename]
    exact runsRenamed_throw id (.shape codec.kind value.kind)
  induction codec generalizing value with
  | string =>
    cases value with
    | string text => exact runsRenamed_putText text
    | _ => exact hother .string _
  | boolean =>
    cases value with
    | bool b => exact runsRenamed_put _
    | _ => exact hother .boolean _
  | int32 =>
    cases value with
    | int n => exact runsRenamed_put _
    | _ => exact hother .int32 _
  | int64 =>
    cases value with
    | long n => exact runsRenamed_put _
    | _ => exact hother .int64 _
  | vector tag element ih =>
    cases value with
    | vector items =>
      rw [Value.rename, Value.renameItems_eq_map]
      refine (runsRenamed_put _).bind fun _ => ?_
      rw [List.length_map]
      exact (runsRenamed_put _).bind fun _ => runsRenamed_forM fun item _ => ih item
    | _ => exact hother (.vector tag element) _
  | object entry =>
    cases value with
    | object typeName fields => exact hdeeper (.object typeName fields)
    | _ => exact hother (.object entry) _

/-- A field is written as before, also where it is missing and its default is written for it. -/
theorem Plan.runsRenamed_writeField (hf : AddsSymbols f) (plan : Plan) (object : Value)
    (name : String) (codec : Codec) :
    RunsRenamed f id (plan.writeField deeper object name codec)
      ((plan.rename f).writeField deeper' (object.rename f) name (codec.rename f)) := by
  unfold writeField
  rw [Value.get?_rename, plan.field?_rename]
  cases object.get? name with
  | some held => exact codec.runsRenamed_write hdeeper held
  | none =>
    cases plan.field? name with
    | some field =>
      have hwrite := codec.runsRenamed_write hdeeper field.initial.value
      rw [← DefaultValue.value_rename] at hwrite
      exact hwrite
    | none =>
      -- the error names a field of the type, by the name of the type made longer
      have hname : f (plan.typeName ++ "." ++ name) = (plan.rename f).typeName ++ "." ++ name := by
        rw [hf, hf]
        rfl
      have hthrow : RunsRenamed f id
          (throw (.unknownType (plan.typeName ++ "." ++ name)) : Encoder Unit)
          (throw (.unknownType (f (plan.typeName ++ "." ++ name)))) :=
        runsRenamed_throw id (.unknownType (plan.typeName ++ "." ++ name))
      rw [hname] at hthrow
      exact hthrow

namespace Registry

variable (registry : Registry)

/-- One step of a plan, with the flags that have been set so far. -/
theorem runsRenamed_writeStep (hf : AddsSymbols f) (levels : Nat) (plan : Plan) (object : Value)
    (flags? : Option (String × UInt32)) (step : EncodeStep) :
    RunsRenamed f id (registry.writeStep levels deeper plan object flags? step)
      ((registry.rename f).writeStep levels deeper' (plan.rename f) (object.rename f) flags?
        (step.rename f)) := by
  have hfield := Plan.runsRenamed_writeField hdeeper hf plan object
  cases step with
  | writeConstructor id =>
    exact (runsRenamed_put _).bind fun _ => runsRenamed_pure _ flags?
  | recomputeFlags flagsField bindings =>
    refine (Encoder.runsRenamed_ofExcept
      (registry.renamed_flagsOf hf levels plan object flagsField bindings)).bind fun word => ?_
    exact runsRenamed_pure id (some (flagsField, word))
  | write name codec =>
    cases flags? with
    | none => exact (hfield name codec).bind fun _ => runsRenamed_pure id none
    | some flags =>
      obtain ⟨flagsField, word⟩ := flags
      simp only [EncodeStep.rename, writeStep]
      split_ifs
      · exact (runsRenamed_put _).bind fun _ => runsRenamed_pure id (some (flagsField, word))
      · exact (hfield name codec).bind fun _ => runsRenamed_pure id (some (flagsField, word))
  | writeIfFlag bit name codec =>
    simp only [EncodeStep.rename, writeStep, Value.flagWord_rename]
    split_ifs
    · exact (hfield name codec).bind fun _ => runsRenamed_pure id flags?
    · exact runsRenamed_pure id flags?

/-- An object is written as before if that is so for the objects in it. -/
theorem runsRenamed_writeObjectWith (hf : AddsSymbols f) (levels : Nat) (value : Value) :
    RunsRenamed f id (registry.writeObjectWith levels deeper value)
      ((registry.rename f).writeObjectWith levels deeper' (value.rename f)) := by
  cases value with
  | object typeName fields =>
    refine (Encoder.runsRenamed_ofExcept (registry.renamed_plan hf typeName)).bind fun plan => ?_
    refine (runsRenamed_foldlM (fun flags? step _ => ?_) none).bind fun _ =>
      runsRenamed_pure id ()
    exact registry.runsRenamed_writeStep hdeeper hf levels plan (.object typeName fields) flags?
      step
  | _ => exact runsRenamed_throw id (.shape "object" _)

end Registry

end

namespace Registry

variable (registry : Registry)

/-- Objects are written as before at every depth, by induction on the levels left. -/
theorem runsRenamed_writeObject (hf : AddsSymbols f) (levels : Nat) (value : Value) :
    RunsRenamed f id (registry.writeObject levels value)
      ((registry.rename f).writeObject levels (value.rename f)) := by
  induction levels generalizing value with
  | zero =>
    exact registry.runsRenamed_writeObjectWith (fun _ => runsRenamed_throw id .nestingDepth) hf 0
      value
  | succ levels ih => exact registry.runsRenamed_writeObjectWith ih hf (levels + 1) value

/-- Renamed objects are written as the same bytes, or fail with the renamed error. -/
theorem encode_rename (hf : AddsSymbols f) (value : Value) :
    (registry.rename f).encode (value.rename f)
      = (registry.encode value).mapError (CodecError.rename f) := by
  obtain ⟨hok, herror⟩ := registry.runsRenamed_writeObject hf maxNesting value .empty
  unfold encode encodeInto
  cases hrun : registry.writeObject maxNesting value .empty with
  | ok a out => rw [hok a out hrun]; rfl
  | error e out => rw [herror e out hrun]; rfl

end Registry

/-! ## Reading -/

namespace Wire

variable {α β : Type}

/-- The reader fails with no errors that name a type. -/
def NamesNoType (reader : Reader α) : Prop :=
  ∀ f cursor error place, reader cursor = .error error place → error.rename f = error

theorem NamesNoType.pure (a : α) : NamesNoType (Pure.pure a : Reader α) := by
  intro f cursor error place h
  cases h

/-- Readers that follow one another name no type if none of them does. -/
theorem NamesNoType.bind {reader : Reader α} {next : α → Reader β} (h : NamesNoType reader)
    (h' : ∀ a, NamesNoType (next a)) : NamesNoType (reader >>= next) := by
  intro f cursor error place hrun
  cases hfirst : reader cursor with
  | ok a mid =>
    rw [bind_of_ok hfirst] at hrun
    exact h' a f mid error place hrun
  | error e mid =>
    rw [bind_of_error hfirst] at hrun
    cases hrun
    exact h f cursor error place hfirst

theorem namesNoType_bytes (n : Nat) : NamesNoType (Reader.bytes n) := by
  intro f cursor error place h
  unfold Reader.bytes at h
  split at h
  · cases h
  · cases h
    rfl

theorem namesNoType_number (width : Nat) : NamesNoType (Reader.number width) :=
  (namesNoType_bytes width).bind fun _ => .pure _

theorem namesNoType_uint32 : NamesNoType Reader.uint32 :=
  (namesNoType_number 4).bind fun _ => .pure _

theorem namesNoType_int32 : NamesNoType Reader.int32 :=
  namesNoType_uint32.bind fun _ => .pure _

theorem namesNoType_int64 : NamesNoType Reader.int64 :=
  (namesNoType_number 8).bind fun _ => .pure _

theorem namesNoType_bool : NamesNoType Reader.bool := by
  refine namesNoType_uint32.bind fun word => ?_
  split_ifs
  · exact .pure true
  · exact .pure false
  · intro f cursor error place h
    cases h
    rfl

theorem namesNoType_string : NamesNoType Reader.string := by
  have hheader : NamesNoType Reader.lengthHeader := by
    refine ((namesNoType_number 1).bind fun _ => .pure _).bind fun first => ?_
    split_ifs
    · exact .pure _
    · exact (namesNoType_number 3).bind fun _ => .pure _
  have hpayload : NamesNoType Reader.payload := by
    refine hheader.bind fun length => ?_
    obtain ⟨size, header⟩ := length
    exact (namesNoType_bytes size).bind fun _ => (namesNoType_bytes _).bind fun _ => .pure _
  exact hpayload.bind fun _ => .pure _

/-- What is read from the bytes alone is read as before. -/
theorem NamesNoType.runsRenamed {reader : Reader α} (h : NamesNoType reader) :
    RunsRenamed f id (Decoder.wire reader) (Decoder.wire reader) := by
  refine runsRenamed_self fun cursor error place hrun => ?_
  unfold Decoder.wire EStateM.adaptExcept at hrun
  split at hrun
  next hfails =>
    cases hrun
    exact congrArg CodecError.wire (h f cursor _ place hfails)
  next => cases hrun

end Wire

section

variable {deeper deeper' : String → Decoder Value}
  (hdeeper : ∀ name, RunsRenamed f (Value.rename f) (deeper name) (deeper' (f name)))

/-- Items are read as before, those that have been read already being renamed. -/
theorem runsRenamed_readItems {read read' : Decoder (Option Value)}
    (h : RunsRenamed f (Option.map (Value.rename f)) read read') (count : Nat)
    (items : Array Value) :
    RunsRenamed f (Option.map (List.map (Value.rename f))) (readItems read count items)
      (readItems read' count (items.map (Value.rename f))) := by
  induction count generalizing items with
  | zero =>
    unfold readItems
    rw [Array.toList_map]
    exact runsRenamed_pure _ (some items.toList)
  | succ count ih =>
    refine h.bind fun item? => ?_
    cases item? with
    | some item =>
      have hrest := ih (items.push item)
      rw [Array.map_push] at hrest
      exact hrest
    | none => exact runsRenamed_pure _ none

include hdeeper

/-- A value is read as before if that is so for the objects in it. Only the error for a missing
framing tag names a type, that of the owner. -/
theorem Codec.runsRenamed_read (owner : String) (strict : Bool) (codec : Codec) :
    RunsRenamed f (Option.map (Value.rename f)) (codec.read deeper owner strict)
      ((codec.rename f).read deeper' (f owner) strict) := by
  induction codec with
  | string =>
    exact namesNoType_string.runsRenamed.bind fun s => runsRenamed_pure _ (some (Value.string s))
  | boolean =>
    exact namesNoType_bool.runsRenamed.bind fun b => runsRenamed_pure _ (some (Value.bool b))
  | int32 =>
    exact namesNoType_int32.runsRenamed.bind fun n => runsRenamed_pure _ (some (Value.int n))
  | int64 =>
    exact namesNoType_int64.runsRenamed.bind fun n => runsRenamed_pure _ (some (Value.long n))
  | object entry => exact (hdeeper entry).bind fun object => runsRenamed_pure _ (some object)
  | vector tag element ih =>
    refine namesNoType_uint32.runsRenamed.bind fun found => ?_
    by_cases htag : found = tag
    · simp only [id, if_pos htag]
      refine namesNoType_int32.runsRenamed.bind fun count => ?_
      have hitems := runsRenamed_readItems ih count.toInt.toNat #[]
      rw [Array.map_empty] at hitems
      refine hitems.bind fun items? => ?_
      cases items? with
      | none => exact runsRenamed_pure _ none
      | some items =>
        rw [Option.map_some, Option.map_some, Option.map_some, ← Value.renameItems_eq_map]
        exact runsRenamed_pure _ (some (Value.vector items))
    · simp only [id, if_neg htag]
      cases strict with
      | true => exact runsRenamed_throw _ (.wire (.vectorTagMismatch found tag owner))
      | false => exact runsRenamed_pure _ none

/-- The steps of a plan set the same fields, to renamed values. -/
theorem runsRenamed_readFields (owner : String) (strict : Bool) (steps : List DecodeStep)
    (object : Value) :
    RunsRenamed f (Value.rename f) (readFields deeper owner strict steps object)
      (readFields deeper' (f owner) strict (steps.map (.rename f)) (object.rename f)) := by
  induction steps generalizing object with
  | nil => exact runsRenamed_pure _ object
  | cons step steps ih =>
    have hread : ∀ name codec, RunsRenamed f (Value.rename f)
        (readFields deeper owner strict (.read name codec :: steps) object)
        (readFields deeper' (f owner) strict (.read name (codec.rename f) :: steps.map (.rename f))
          (object.rename f)) := by
      intro name codec
      refine (codec.runsRenamed_read hdeeper owner strict).bind fun value? => ?_
      cases value? with
      | some value =>
        have hrest := ih (object.set name value)
        rw [← Value.set_rename] at hrest
        exact hrest
      | none => exact runsRenamed_pure _ object
    cases step with
    | read name codec => exact hread name codec
    | readIfFlag bit name codec =>
      rw [List.map_cons, DecodeStep.rename, readFields_readIfFlag, readFields_readIfFlag,
        Value.flagWord_rename]
      split_ifs
      · exact hread name codec
      · exact ih object

end

namespace Registry

variable (registry : Registry)

/-- A constructor is handed on by the same branches, to renamed plans. -/
theorem renamed_follow (hf : AddsSymbols f) (tag : UInt32) (strict : Bool) (steps : Nat)
    (plan : Plan) :
    Renamed f (Option.map (Plan.rename f)) (registry.follow tag strict steps plan)
      ((registry.rename f).follow tag strict steps (plan.rename f)) := by
  induction steps generalizing plan with
  | zero => rfl
  | succ steps ih =>
    unfold follow
    rw [plan.route?_rename]
    cases plan.dispatch.route? tag with
    | none => cases strict <;> rfl
    | some branch =>
      obtain ⟨branchTag, key, typeName, action⟩ := branch
      cases action with
      | decodeSelf => rfl
      | delegate sibling => exact (registry.renamed_plan hf sibling).bind fun next => ih next

theorem renamed_resolve (hf : AddsSymbols f) (typeName : String) (tag : UInt32) (strict : Bool) :
    Renamed f (Option.map (Plan.rename f)) (registry.resolve typeName tag strict)
      ((registry.rename f).resolve (f typeName) tag strict) :=
  (registry.renamed_plan hf typeName).bind fun plan => registry.renamed_follow hf tag strict _ plan

/-- An object is read as before if that is so for the objects in it. -/
theorem runsRenamed_readObjectWith (hf : AddsSymbols f) {deeper deeper' : String → Decoder Value}
    (hdeeper : ∀ name, RunsRenamed f (Value.rename f) (deeper name) (deeper' (f name)))
    (strict : Bool) (typeName : String) (tag : UInt32) :
    RunsRenamed f (Option.map (Value.rename f))
      (registry.readObjectWith strict deeper typeName tag)
      ((registry.rename f).readObjectWith strict deeper' (f typeName) tag) := by
  refine (Decoder.runsRenamed_ofExcept (registry.renamed_resolve hf typeName tag strict)).bind
    fun plan? => ?_
  cases plan? with
  | none => exact runsRenamed_pure _ none
  | some plan =>
    refine (Decoder.runsRenamed_ofExcept (registry.renamed_instantiate hf plan.typeName)).bind
      fun unset => ?_
    refine (runsRenamed_readFields hdeeper plan.typeName strict plan.decode unset).bind
      fun object => ?_
    exact runsRenamed_pure _ (some object)

/-- An object in a field is read as before, also where it is left at its default. -/
theorem runsRenamed_readNested (hf : AddsSymbols f)
    {read read' : String → UInt32 → Decoder (Option Value)}
    (hread : ∀ name tag, RunsRenamed f (Option.map (Value.rename f)) (read name tag)
      (read' (f name) tag))
    (typeName : String) :
    RunsRenamed f (Value.rename f) (registry.readNested read typeName)
      ((registry.rename f).readNested read' (f typeName)) := by
  refine namesNoType_uint32.runsRenamed.bind fun tag => (hread typeName tag).bind fun object? => ?_
  cases object? with
  | some object => exact runsRenamed_pure _ object
  | none => exact Decoder.runsRenamed_ofExcept (registry.renamed_instantiate hf typeName)

/-- Objects are read as before at every depth, by induction on the levels left. -/
theorem runsRenamed_readObject (hf : AddsSymbols f) (strict : Bool) (levels : Nat)
    (typeName : String) (tag : UInt32) :
    RunsRenamed f (Option.map (Value.rename f)) (registry.readObject strict levels typeName tag)
      ((registry.rename f).readObject strict levels (f typeName) tag) := by
  induction levels generalizing typeName tag with
  | zero =>
    exact registry.runsRenamed_readObjectWith hf (fun _ => runsRenamed_throw _ .nestingDepth) strict
      typeName tag
  | succ levels ih =>
    exact registry.runsRenamed_readObjectWith hf (registry.runsRenamed_readNested hf ih) strict
      typeName tag

/-- Bytes are read as renamed objects by renamed types, or fail with the renamed error. -/
theorem decode_rename (hf : AddsSymbols f) (bytes : ByteArray) (typeName : String) (strict : Bool) :
    (registry.rename f).decode bytes (f typeName) strict
      = ((registry.decode bytes typeName strict).map (Option.map (Value.rename f))).mapError
          (CodecError.rename f) := by
  have hruns : RunsRenamed f (Option.map (Value.rename f)) (registry.decodeNext typeName strict)
      ((registry.rename f).decodeNext (f typeName) strict) :=
    namesNoType_uint32.runsRenamed.bind fun tag =>
      registry.runsRenamed_readObject hf strict maxNesting typeName tag
  obtain ⟨hok, herror⟩ := hruns (.ofBytes bytes)
  unfold decode
  cases hrun : registry.decodeNext typeName strict (.ofBytes bytes) with
  | ok value place => rw [hok value place hrun]; rfl
  | error e place => rw [herror e place hrun]; rfl

end Registry

end TlSchema
