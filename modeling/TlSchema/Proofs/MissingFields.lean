import TlSchema.Proofs.Completeness

/-!
# Missing and unknown fields

A field that an object lacks counts as its default, and a field that its plan does not know counts
for nothing. Values are alike if they say the same under this reading, at any depth. What is written
for a field (`FieldPlan.content`) is then alike as well, and alike values are at the same defaults,
so the flags that are found are the same and so are the bytes.

How deep one has to go into a value depends on what it holds, so of two alike values one may be
nested too deep where the other is not. The results are about values that have an answer.
-/

namespace TlSchema

open Encoder

/-! ## Encoders that agree -/

namespace Encoder

variable {α β : Type}

/-- If both encoders succeed, they write the same bytes. -/
def Concur (encoder other : Encoder Unit) : Prop :=
  ∀ bs bs', Writes encoder bs () → Writes other bs' () → bs = bs'

theorem Concur.refl (encoder : Encoder Unit) : Concur encoder encoder :=
  fun _ _ h h' => (h.unique h').1

theorem Concur.seq {encoder other next next' : Encoder Unit} (h : Concur encoder other)
    (hnext : Concur next next') (hs : Settles encoder) (hs' : Settles other)
    (hns : Settles next) (hns' : Settles next') :
    Concur (encoder >>= fun _ => next) (other >>= fun _ => next') := by
  intro bs bs' hw hw'
  obtain ⟨first, rest, hfirst, hrest, rfl⟩ := (writes_seq_iff hs hns).mp hw
  obtain ⟨first', rest', hfirst', hrest', rfl⟩ := (writes_seq_iff hs' hns').mp hw'
  rw [h _ _ hfirst hfirst', hnext _ _ hrest hrest']

theorem Concur.after {encoder next next' : Encoder Unit} (hs : Settles encoder)
    (h : Concur next next') (hns : Settles next) (hns' : Settles next') :
    Concur (encoder >>= fun _ => next) (encoder >>= fun _ => next') :=
  (Concur.refl encoder).seq h hs hs hns hns'

theorem concur_forM {f : α → Encoder Unit} {g : β → Encoder Unit} {as : List α} {bs : List β}
    (hf : ∀ a, Settles (f a)) (hg : ∀ b, Settles (g b))
    (h : List.Forall₂ (fun a b => Concur (f a) (g b)) as bs) : Concur (as.forM f) (bs.forM g) := by
  induction h with
  | nil => exact Concur.refl _
  | cons hab _ ih =>
    rw [List.forM_eq_forM, List.forM_eq_forM] at ih ⊢
    rw [List.forM_cons, List.forM_cons]
    exact hab.seq ih (hf _) (hg _) (settles_forM fun a _ => hf a) (settles_forM fun b _ => hg b)

end Encoder

/-! ## Values that are alike -/

namespace Registry

/-- Two values are the same if a field that an object lacks counts as its default, and a field that
its plan does not know counts for nothing. -/
inductive Alike (registry : Registry) : Value → Value → Prop
  | bool (b : Bool) : Alike registry (.bool b) (.bool b)
  | int (n : Int32) : Alike registry (.int n) (.int n)
  | long (n : Int64) : Alike registry (.long n) (.long n)
  | string (text : String) : Alike registry (.string text) (.string text)
  | vector {items others : List Value} (hlength : items.length = others.length)
      (h : ∀ (i : Nat) a b, items[i]? = some a → others[i]? = some b → Alike registry a b) :
      Alike registry (.vector items) (.vector others)
  /-- In each field of the plan, both objects hold something alike, or one holds something like the
  default and the other nothing, or neither holds anything. -/
  | object {typeName : String} {fields others : List (String × Value)}
      (both : ∀ plan, registry.plan typeName = .ok plan → ∀ field ∈ plan.fields, ∀ a b,
        Fields.find? field.name fields = some a → Fields.find? field.name others = some b →
          Alike registry a b)
      (left : ∀ plan, registry.plan typeName = .ok plan → ∀ field ∈ plan.fields, ∀ a,
        Fields.find? field.name fields = some a → Fields.find? field.name others = none →
          Alike registry a field.initial.value)
      (right : ∀ plan, registry.plan typeName = .ok plan → ∀ field ∈ plan.fields, ∀ b,
        Fields.find? field.name fields = none → Fields.find? field.name others = some b →
          Alike registry b field.initial.value) :
      Alike registry (.object typeName fields) (.object typeName others)

variable {registry : Registry} {vectorTag : UInt32} {plan : Plan} {typeName : String}
  {fields others : List (String × Value)} {v w : Value}

namespace Alike

theorem symm (h : registry.Alike v w) : registry.Alike w v := by
  induction h with
  | bool b => exact .bool b
  | int n => exact .int n
  | long n => exact .long n
  | string text => exact .string text
  | vector hlength _ ih => exact .vector hlength.symm fun i a b ha hb => ih i b a hb ha
  | object both left right ih _ _ =>
    refine .object (fun plan hplan field hf a b ha hb => ih plan hplan field hf b a hb ha) ?_ ?_
    · intro plan hplan field hf a ha hb
      exact right plan hplan field hf a hb ha
    · intro plan hplan field hf b ha hb
      exact left plan hplan field hf b hb ha

theorem initial (initial : DefaultValue) : registry.Alike initial.value initial.value := by
  cases initial with
  | string text => exact .string text
  | int32 n => exact .int n
  | int64 n => exact .long n
  | bool b => exact .bool b
  | emptyVector => exact .vector rfl fun _ _ _ ha => by cases ha
  | construct typeName =>
    exact .object (fun _ _ _ _ _ _ ha => by cases ha) (fun _ _ _ _ _ ha => by cases ha)
      (fun _ _ _ _ _ _ hb => by cases hb)

end Alike

/-- Lists are alike if their items are, one by one. -/
theorem alike_vector_iff {items others : List Value} :
    registry.Alike (.vector items) (.vector others) ↔ List.Forall₂ registry.Alike items others := by
  rw [List.forall₂_iff_get]
  constructor
  · intro h
    cases h with
    | vector hlength h =>
      refine ⟨hlength, fun i hi hi' => ?_⟩
      exact h i _ _ (List.getElem?_eq_getElem hi) (List.getElem?_eq_getElem hi')
  · rintro ⟨hlength, h⟩
    refine .vector hlength fun i a b ha hb => ?_
    obtain ⟨hi, rfl⟩ := List.getElem?_eq_some_iff.mp ha
    obtain ⟨hi', rfl⟩ := List.getElem?_eq_some_iff.mp hb
    exact h i hi hi'

/-- Objects of a type are alike if in each field of its plan both hold something alike, or neither
holds anything, or one holds something like the default and the other nothing. -/
theorem alike_object_iff (hplan : registry.plan typeName = .ok plan) :
    registry.Alike (.object typeName fields) (.object typeName others) ↔
      ∀ field ∈ plan.fields,
        (∃ a b, Fields.find? field.name fields = some a ∧ Fields.find? field.name others = some b ∧
          registry.Alike a b) ∨
        (Fields.find? field.name fields = none ∧ Fields.find? field.name others = none) ∨
        (∃ a, Fields.find? field.name fields = some a ∧ Fields.find? field.name others = none ∧
          registry.Alike a field.initial.value) ∨
        ∃ b, Fields.find? field.name fields = none ∧ Fields.find? field.name others = some b ∧
          registry.Alike b field.initial.value := by
  constructor
  · intro h field hf
    cases h with
    | object both left right =>
      cases ha : Fields.find? field.name fields with
      | some a =>
        cases hb : Fields.find? field.name others with
        | some b => simpa using both plan hplan field hf a b ha hb
        | none => simpa using left plan hplan field hf a ha hb
      | none =>
        cases hb : Fields.find? field.name others with
        | some b => simpa using right plan hplan field hf b ha hb
        | none => simp
  · intro h
    refine .object ?_ ?_ ?_
    · intro plan' hplan' field hf a b ha hb
      cases hplan.symm.trans hplan'
      simpa [ha, hb] using h field hf
    · intro plan' hplan' field hf a ha hb
      cases hplan.symm.trans hplan'
      simpa [ha, hb] using h field hf
    · intro plan' hplan' field hf b ha hb
      cases hplan.symm.trans hplan'
      simpa [ha, hb] using h field hf

namespace Alike

/-- What is there to be written for a field of alike objects is alike. -/
theorem content (h : registry.Alike (.object typeName fields) (.object typeName others))
    (hplan : registry.plan typeName = .ok plan) {field : FieldPlan} (hf : field ∈ plan.fields) :
    registry.Alike (field.content (.object typeName fields))
      (field.content (.object typeName others)) := by
  unfold FieldPlan.content
  rw [Value.get?_object, Value.get?_object]
  rcases (alike_object_iff hplan).mp h field hf with
    ⟨a, b, ha, hb, hab⟩ | ⟨ha, hb⟩ | ⟨a, ha, hb, hab⟩ | ⟨b, ha, hb, hab⟩
  · rw [ha, hb]
    exact hab
  · rw [ha, hb]
    exact initial field.initial
  · rw [ha, hb]
    exact hab
  · rw [ha, hb]
    exact hab.symm

/-- Alike values are at the same defaults. -/
theorem atDefault_iff (h : registry.Alike v w) (hreg : registry.Regular vectorTag)
    (initial : DefaultValue) : registry.AtDefault initial v ↔ registry.AtDefault initial w := by
  induction h generalizing initial with
  | vector hlength _ _ =>
    have hnil : ∀ {items others : List Value}, items.length = others.length →
        registry.AtDefault initial (.vector items) →
          registry.AtDefault initial (.vector others) := by
      intro items others hlength hd
      cases hd
      rw [List.eq_nil_of_length_eq_zero hlength.symm]
      exact .emptyVector
    exact ⟨hnil hlength, hnil hlength.symm⟩
  | object both left right ihboth ihleft ihright =>
    -- what only one of the objects holds is like the default of its field, and that is at itself
    constructor
    · intro hd
      cases hd with
      | construct hplan hfields =>
        refine .construct hplan fun field hf b hb => ?_
        cases ha : Fields.find? field.name _ with
        | some a => exact (ihboth _ hplan field hf a b ha hb _).mp (hfields field hf a ha)
        | none => exact (ihright _ hplan field hf b ha hb _).mpr (hreg.atDefault_initial hplan hf)
    · intro hd
      cases hd with
      | construct hplan hfields =>
        refine .construct hplan fun field hf a ha => ?_
        cases hb : Fields.find? field.name _ with
        | some b => exact (ihboth _ hplan field hf a b ha hb _).mpr (hfields field hf b hb)
        | none => exact (ihleft _ hplan field hf a ha hb _).mpr (hreg.atDefault_initial hplan hf)
  | _ => exact Iff.rfl

theorem asInt_eq (h : registry.Alike v w) : v.asInt = w.asInt := by
  cases h <;> rfl

/-- Alike values that are compared with a default, to whatever depth, are found to be the same. -/
theorem isDefault_eq (h : registry.Alike v w) (hreg : registry.Regular vectorTag)
    {initial : DefaultValue} {levels levels' : Nat} {b b' : Bool}
    (hb : registry.isDefault levels initial v = .ok b)
    (hb' : registry.isDefault levels' initial w = .ok b') : b = b' := by
  rw [Bool.eq_iff_iff, isDefault_iff hb, isDefault_iff hb']
  exact h.atDefault_iff hreg initial

end Alike

end Registry

/-! ## Flags -/

theorem TargetType.IsInitial.asInt_value {target : TargetType} {initial : DefaultValue}
    (h : target.IsInitial initial) : initial.value.asInt = 0 := by
  cases initial with
  | int32 n =>
    cases target with
    | int32 => exact h
    | _ => exact h.elim
  | _ => rfl

/-- An object that lacks its flags has the word that is their default. -/
theorem Plan.Regular.flagWord_eq_content {plan : Plan} {vectorTag : UInt32}
    (h : plan.Regular vectorTag) {flags : FieldPlan} (hf : flags ∈ plan.fields)
    (hname : flags.name = flagsName) (object : Value) :
    object.flagWord flagsName = (flags.content object).asInt.toUInt32 := by
  unfold Value.flagWord FieldPlan.content
  rw [hname]
  cases object.get? flagsName with
  | some held => rfl
  | none =>
    rw [Option.getD_none, (h.isInitial flags hf).asInt_value]
    rfl

namespace Registry

variable {registry : Registry} {vectorTag : UInt32} {plan : Plan} {typeName : String}
  {fields others : List (String × Value)} {v w : Value}

/-- A field differs from its default if what is there to be written for it does. -/
theorem differs_iff_content (hreg : registry.Regular vectorTag)
    (hplan : registry.plan typeName = .ok plan) {field : FieldPlan} (hf : field ∈ plan.fields)
    {levels : Nat} {object : Value} (hcomp : registry.Comparable levels object field) :
    registry.differs levels object field = true ↔
      ¬ registry.AtDefault field.initial (field.content object) := by
  unfold differs FieldPlan.content
  cases hheld : object.get? field.name with
  | none => simpa using hreg.atDefault_initial hplan hf
  | some held =>
    obtain ⟨unset, hunset⟩ := hcomp held hheld
    rw [Option.getD_some, ← isDefault_iff hunset]
    simp only [hunset, Bool.not_eq_true, Bool.not_eq_true']

/-- The flags that are found for alike objects are the same. -/
theorem Alike.wordOf_eq (h : registry.Alike (.object typeName fields) (.object typeName others))
    (hreg : registry.Regular vectorTag) (hplan : registry.plan typeName = .ok plan)
    {levels : Nat} {word word' : UInt32}
    (hword : registry.wordOf levels plan (.object typeName fields) = .ok word)
    (hword' : registry.wordOf levels plan (.object typeName others) = .ok word') :
    word = word' := by
  have hregular := hreg.plans hplan
  obtain ⟨hcomps, rfl⟩ := (wordOf_eq_ok hregular).mp hword
  obtain ⟨hcomps', rfl⟩ := (wordOf_eq_ok hregular).mp hword'
  by_cases hguarded : plan.isGuarded = true
  · obtain ⟨flags, hflags, -, hname⟩ := hregular.flags_of_guarded hguarded
    have hheld : (Value.object typeName fields).flagWord flagsName
        = (Value.object typeName others).flagWord flagsName := by
      rw [hregular.flagWord_eq_content hflags hname, hregular.flagWord_eq_content hflags hname,
        (h.content hplan hflags).asInt_eq]
    -- the words start out the same, and the same guarded fields are found to differ
    rw [if_pos hguarded, if_pos hguarded, hheld]
    refine Flags.mark_congr (fun field hf hbit => ?_) _
    rw [Bool.eq_iff_iff, differs_iff_content hreg hplan hf (hcomps field hf hbit),
      differs_iff_content hreg hplan hf (hcomps' field hf hbit)]
    exact not_congr ((h.content hplan hf).atDefault_iff hreg field.initial)
  · rw [if_neg hguarded, if_neg hguarded]

/-! ## Bytes -/

/-- Alike values are written the same if alike objects in them are. -/
theorem Alike.concur_write {deeper : Value → Encoder Unit}
    (hsettles : ∀ value, Settles (deeper value))
    (hdeeper : ∀ x y, registry.Alike x y → Concur (deeper x) (deeper y))
    (h : registry.Alike v w) (codec : Codec) :
    Concur (codec.write deeper v) (codec.write deeper w) := by
  induction codec generalizing v w with
  | vector tag element ih =>
    cases h with
    | @vector items others hlength hitems =>
      have hforall := alike_vector_iff.mp (Alike.vector hlength hitems : registry.Alike _ _)
      have hwrite := element.settles_write hsettles
      have hsettles : ∀ items : List Value, Settles (items.forM (element.write deeper)) :=
        fun items => settles_forM fun item _ => hwrite item
      unfold Codec.write
      rw [hlength]
      refine Concur.after (settles_put _) ?_ ((settles_put _).bind fun _ => hsettles items)
        ((settles_put _).bind fun _ => hsettles others)
      refine Concur.after (settles_put _) ?_ (hsettles items) (hsettles others)
      exact concur_forM hwrite hwrite (hforall.imp fun _ _ hab => ih hab)
    | _ => exact Concur.refl _
  | object entry =>
    cases h with
    | object both left right => exact hdeeper _ _ (.object both left right)
    | _ => exact Concur.refl _
  | _ => cases h <;> exact Concur.refl _

/-- With one word, the same fields are written, and what is written in them is alike. -/
theorem Alike.concur_emit {deeper : Value → Encoder Unit}
    (hsettles : ∀ value, Settles (deeper value))
    (hdeeper : ∀ x y, registry.Alike x y → Concur (deeper x) (deeper y))
    (h : registry.Alike (.object typeName fields) (.object typeName others))
    (hplan : registry.plan typeName = .ok plan) (vectorTag word : UInt32) {field : FieldPlan}
    (hf : field ∈ plan.fields) :
    Concur (plan.emit vectorTag deeper (.object typeName fields) word field)
      (plan.emit vectorTag deeper (.object typeName others) word field) := by
  unfold Plan.emit
  cases plan.fate word field with
  | content => exact (h.content hplan hf).concur_write hsettles hdeeper _
  | _ => exact Concur.refl _

theorem Alike.concur_writeObjectWith (hreg : registry.Regular vectorTag) (levels : Nat)
    {deeper : Value → Encoder Unit} (hsettles : ∀ value, Settles (deeper value))
    (hdeeper : ∀ x y, registry.Alike x y → Concur (deeper x) (deeper y))
    (h : registry.Alike v w) :
    Concur (registry.writeObjectWith levels deeper v)
      (registry.writeObjectWith levels deeper w) := by
  cases h with
  | @object typeName fields others both left right =>
    have halike := (Alike.object both left right : registry.Alike _ _)
    cases hplan : registry.plan typeName with
    | error e =>
      simp only [writeObjectWith, hplan, ofExcept_error_bind]
      exact Concur.refl _
    | ok plan =>
      intro bs bs' hw hw'
      have hregular := hreg.plans hplan
      obtain ⟨word, rest, hword, hrest, rfl⟩ :=
        (registry.writes_writeObjectWith_iff hplan hregular levels hsettles).mp hw
      obtain ⟨word', rest', hword', hrest', rfl⟩ :=
        (registry.writes_writeObjectWith_iff hplan hregular levels hsettles).mp hw'
      obtain rfl := halike.wordOf_eq hreg hplan hword hword'
      have hemit := fun fields => plan.settles_emit hsettles vectorTag (.object typeName fields) word
      have hfields := concur_forM (hemit fields) (hemit others)
        (List.forall₂_same.mpr fun field hf =>
          halike.concur_emit hsettles hdeeper hplan vectorTag word hf)
      rw [hfields _ _ hrest hrest']
  | _ => exact Concur.refl _

/-- Alike objects are written the same. -/
theorem Alike.concur_writeObject (hreg : registry.Regular vectorTag) (levels : Nat)
    (h : registry.Alike v w) :
    Concur (registry.writeObject levels v) (registry.writeObject levels w) := by
  induction levels generalizing v w with
  | zero =>
    exact h.concur_writeObjectWith hreg 0 (registry.settles_writeDeeper 0)
      fun _ _ _ => Concur.refl _
  | succ levels ih =>
    exact h.concur_writeObjectWith hreg (levels + 1) (registry.settles_writeObject levels)
      fun _ _ hxy => ih hxy

end Registry

/-- What an object lacks counts as its default and what its plan does not know for nothing: alike
values are written to the same bytes, and found to be at the same defaults. -/
theorem Compilation.alike_indistinguishable {text : String} {settings : Settings}
    {unit : Compilation} (hunit : ofText text settings = .ok unit) {v w : Value}
    (h : unit.registry.Alike v w) :
    (∀ bs bs', unit.registry.encode v = .ok bs → unit.registry.encode w = .ok bs' → bs = bs') ∧
      ∀ initial levels levels' b b', unit.registry.isDefault levels initial v = .ok b →
        unit.registry.isDefault levels' initial w = .ok b' → b = b' := by
  obtain ⟨vectorTag, -, haccepted⟩ := accepted_of_ofText hunit
  have hreg := haccepted.regular
  refine ⟨fun bs bs' hv hw => ?_, fun _ _ _ _ _ hb hb' => h.isDefault_eq hreg hb hb'⟩
  exact h.concur_writeObject hreg maxNesting bs bs' (unit.registry.encode_eq_ok.mp hv)
    (unit.registry.encode_eq_ok.mp hw)

namespace Sparse

/-- A schema with guarded fields, objects in objects and a list of objects. -/
def text : String :=
  "a.p#1 flags:# x:flags.0?int q:flags.1?a.q z:a.q list:Vector<a.q> = a.P;\na.q#2 y:long = a.Q;"

/-- What it is compiled to. -/
def unit : Compilation := .ofDefinitions
  [⟨"a.p", 1, [⟨"flags", .int32, none⟩, ⟨"x", .int32, some 0⟩, ⟨"q", .named "a.q", some 1⟩,
      ⟨"z", .named "a.q", none⟩, ⟨"list", .vector (.named "a.q"), none⟩], .named "a.P", ⟨1, 1⟩⟩,
    ⟨"a.q", 2, [⟨"y", .int64, none⟩], .named "a.Q", ⟨2, 1⟩⟩]

theorem ofText_text : Compilation.ofText text {} = .ok unit := by decide +kernel

theorem exists_plan_p : ∃ plan, unit.registry.plan "a_P" = .ok plan ∧ plan.fields =
    [⟨"flags", .int32, .int32 0, none⟩, ⟨"x", .int32, .int32 0, some 0⟩,
      ⟨"q", .named "a_Q", .construct "a_Q", some 1⟩,
      ⟨"z", .named "a_Q", .construct "a_Q", none⟩,
      ⟨"list", .vector (.named "a_Q"), .emptyVector, none⟩] :=
  ⟨_, rfl, rfl⟩

theorem exists_plan_q : ∃ plan, unit.registry.plan "a_Q" = .ok plan ∧
    plan.fields = [⟨"y", .int64, .int64 0, none⟩] :=
  ⟨_, rfl, rfl⟩

/-- An object that holds its default, and something its plan does not know. -/
def filled : Value := .object "a_Q" [("extra", .bool true), ("y", .long 0)]

theorem alike_filled : unit.registry.Alike filled (.object "a_Q" []) := by
  obtain ⟨plan, hplan, hfields⟩ := exists_plan_q
  have hy : unit.registry.Alike (.long 0) (DefaultValue.int64 0).value := .long 0
  rw [filled, Registry.alike_object_iff hplan, hfields]
  simp [Fields.find?, hy]

/-- An object that leaves `flags` and `z` out. -/
def brief : Value :=
  .object "a_P" [("list", .vector [.object "a_Q" []]), ("q", filled), ("x", .int 5)]

/-- An object that leaves `q` out. -/
def other : Value :=
  .object "a_P" [("flags", .int 0), ("list", .vector [filled]), ("x", .int 5),
    ("z", .object "a_Q" [])]

theorem alike_brief_other : unit.registry.Alike brief other := by
  obtain ⟨plan, hplan, hfields⟩ := exists_plan_p
  have hlist : unit.registry.Alike (.vector [.object "a_Q" []]) (.vector [filled]) :=
    Registry.alike_vector_iff.mpr (.cons alike_filled.symm .nil)
  have hflags : unit.registry.Alike (.int 0) (DefaultValue.int32 0).value := .int 0
  have hz : unit.registry.Alike (.object "a_Q" []) (DefaultValue.construct "a_Q").value :=
    .initial (.construct "a_Q")
  have hq : unit.registry.Alike filled (DefaultValue.construct "a_Q").value := alike_filled
  rw [brief, other, Registry.alike_object_iff hplan, hfields]
  simp [Fields.find?, hlist, hflags, hz, hq, Registry.Alike.int 5]

/-- The bytes of both objects. -/
def bytes : ByteArray :=
  [1, 0, 0, 0, 1, 0, 0, 0, 5, 0, 0, 0, 2, 0, 0, 0, 0, 0, 0, 0, 0, 0, 0, 0, 0x15, 0xc4, 0xb5, 0x1c,
    1, 0, 0, 0, 2, 0, 0, 0, 0, 0, 0, 0, 0, 0, 0, 0].toByteArray

theorem alike_indistinguishable_brief :
    Compilation.ofText text {} = .ok unit ∧ unit.registry.Alike brief other ∧
      unit.registry.Alike filled (.object "a_Q" []) ∧
      unit.registry.encode brief = .ok bytes ∧ unit.registry.encode other = .ok bytes ∧
      unit.registry.isDefault 0 (.construct "a_Q") (.object "a_Q" []) = .ok true ∧
      unit.registry.isDefault 1 (.construct "a_Q") filled = .ok true := by
  have hbrief : unit.registry.encode brief = .ok bytes := by decide +kernel
  have hother : (unit.registry.encode other).toBool = true := by decide +kernel
  have hempty : unit.registry.isDefault 0 (.construct "a_Q") (.object "a_Q" []) = .ok true := by
    decide +kernel
  have hfilled : (unit.registry.isDefault 1 (.construct "a_Q") filled).toBool = true := by
    decide +kernel
  refine ⟨ofText_text, alike_brief_other, alike_filled, hbrief, ?_, hempty, ?_⟩
  · cases hbs : unit.registry.encode other with
    | error e => rw [hbs] at hother; cases hother
    | ok bs =>
      rw [(Compilation.alike_indistinguishable ofText_text alike_brief_other).1 _ _ hbrief hbs]
  · cases hb : unit.registry.isDefault 1 (.construct "a_Q") filled with
    | error e => rw [hb] at hfilled; cases hfilled
    | ok b =>
      rw [(Compilation.alike_indistinguishable ofText_text alike_filled).2 _ _ _ _ _ hb hempty]

end Sparse

end TlSchema
