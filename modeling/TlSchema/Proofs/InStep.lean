import TlSchema.Proofs.ReadBack
import TlSchema.Proofs.Taking
import TlSchema.Registry.Decode

/-!
# Reading keeps in step with writing

Whatever an object holds, the steps of reading it take the bytes that the steps of writing it have
written, field by field, as long as the flags that guard fields are integers: then the word that is
read is the word that was written, and the same guarded fields are read that were written.
-/

namespace TlSchema

open Encoder Wire

/-- The objects in a value of the type, in order; those inside objects are left out. -/
def TargetType.objects : TargetType → Value → List Value
  | .vector element, .vector items => items.flatMap element.objects
  | .named _, .object typeName fields => [.object typeName fields]
  | _, _ => []

theorem TargetType.mem_objects {target : TargetType} {value object : Value}
    (h : object ∈ target.objects value) : ∃ typeName fields, object = .object typeName fields := by
  induction target generalizing value with
  | vector element ih =>
    cases value with
    | vector items =>
      obtain ⟨item, -, hitem⟩ := List.mem_flatMap.mp h
      exact ih hitem
    | _ => cases h
  | named entry =>
    cases value with
    | object typeName fields => exact ⟨typeName, fields, List.mem_singleton.mp h⟩
    | _ => cases h
  | _ => cases h

/-- If the flags guard fields, they are an integer. -/
def Plan.FlagsAreInt (plan : Plan) : Prop :=
  plan.isGuarded = true → ∀ flags ∈ plan.fields, flags.name = flagsName → flags.target = .int32

instance (plan : Plan) : Decidable plan.FlagsAreInt :=
  inferInstanceAs (Decidable (_ → ∀ flags ∈ plan.fields, _ → _))

/-- Flags that guard fields are integers. -/
def Compilation.FlagsAreInt (unit : Compilation) : Prop := ∀ plan ∈ unit.plans, plan.FlagsAreInt

instance (unit : Compilation) : Decidable unit.FlagsAreInt :=
  inferInstanceAs (Decidable (∀ plan ∈ unit.plans, _))

theorem Compilation.FlagsAreInt.of_plan {unit : Compilation} (h : unit.FlagsAreInt)
    {typeName : String} {plan : Plan} (hplan : unit.registry.plan typeName = .ok plan) :
    plan.FlagsAreInt :=
  h plan (Registry.mem_of_plan hplan).1

namespace Registry

/-! ## Where objects may stand -/

/-- The value holds a part, in a place of the type that is given for it. -/
inductive Holds (registry : Registry) : TargetType → Value → TargetType → Value → Prop
  /-- The part is the value itself. -/
  | self (target : TargetType) (value : Value) : Holds registry target value target value
  /-- The part is in an item of a list. -/
  | item {element place : TargetType} {items : List Value} {item part : Value}
      (hitem : item ∈ items) (h : Holds registry element item place part) :
      Holds registry (.vector element) (.vector items) place part
  /-- The part is in a field of an object. -/
  | field {entry typeName : String} {plan : Plan} {field : FieldPlan} {place : TargetType}
      {fields : List (String × Value)} {held part : Value}
      (hplan : registry.plan typeName = .ok plan) (hf : field ∈ plan.fields)
      (hheld : Fields.find? field.name fields = some held)
      (h : Holds registry field.target held place part) :
      Holds registry (.named entry) (.object typeName fields) place part

/-- An object is one that the entry point of its place has a branch for, and a list has no more items
than can be counted. -/
def RoutedAt (registry : Registry) : TargetType → Value → Prop
  | .named entry, .object typeName _ => ∀ plan, registry.plan entry = .ok plan →
      ∃ branch ∈ plan.dispatch.branches, branch.typeName = typeName
  | .vector _, .vector items => items.length < 2 ^ 31
  | _, _ => True

/-- All parts of the value may stand where they stand. -/
def Routed (registry : Registry) (target : TargetType) (value : Value) : Prop :=
  ∀ place part, registry.Holds target value place part → registry.RoutedAt place part

variable {registry : Registry} {vectorTag : UInt32} {plan : Plan}

theorem Routed.item {element : TargetType} {items : List Value} {item : Value}
    (h : registry.Routed (.vector element) (.vector items)) (hitem : item ∈ items) :
    registry.Routed element item :=
  fun place part hpart => h place part (.item hitem hpart)

/-- The default of a field may stand in it. -/
theorem routed_initial (hroutes : registry.Routes) {target : TargetType} {initial : DefaultValue}
    (h : target.IsInitial initial) : registry.Routed target initial.value := by
  intro place part hpart
  cases target with
  | vector element =>
    cases initial with
    | emptyVector =>
      cases hpart with
      | self => exact Nat.zero_lt_succ _
      | item hitem => cases hitem
    | _ => exact h.elim
  | named typeName =>
    cases initial with
    | construct name =>
      cases h
      cases hpart with
      | self => exact fun plan hplan => hroutes.own hplan
      | field hplan hf hheld => cases hheld
    | _ => exact h.elim
  | _ =>
    cases hpart
    trivial

/-- What there is to be written for a field may stand in it. -/
theorem Routed.content (hroutes : registry.Routes) {entry typeName : String}
    {fields : List (String × Value)} (h : registry.Routed (.named entry) (.object typeName fields))
    (hplan : registry.plan typeName = .ok plan) (hreg : plan.Regular vectorTag)
    {field : FieldPlan} (hf : field ∈ plan.fields) :
    registry.Routed field.target (field.content (.object typeName fields)) := by
  unfold FieldPlan.content
  rw [Value.get?_object]
  cases hheld : Fields.find? field.name fields with
  | none => exact routed_initial hroutes (hreg.isInitial field hf)
  | some held => exact fun place part hpart => h place part (.field hplan hf hheld hpart)

/-- An object that holds nothing but integers may stand at the entry point of its own type. -/
theorem routed_of_ints (hroutes : registry.Routes) {typeName : String}
    {fields : List (String × Value)} (h : ∀ entry ∈ fields, ∃ n, entry.2 = .int n) :
    registry.Routed (.named typeName) (.object typeName fields) := by
  intro place part hpart
  cases hpart with
  | self => exact fun plan hplan => hroutes.own hplan
  | @field _ _ _ field _ _ held _ _ _ hheld hpart =>
    obtain ⟨n, rfl⟩ := h (field.name, held) (Fields.mem_of_find? hheld)
    generalize field.target = target at hpart
    cases hpart
    cases place <;> trivial

end Registry

/-! ## Values -/

theorem Decoder.ofExcept_ok {α : Type} (a : α) : Decoder.ofExcept (.ok a) = pure a := rfl

/-- Reading as many items as were written takes the bytes of all. -/
theorem takes_readItems {write : Value → Encoder Unit} {read : Decoder (Option Value)}
    {back : Value → Value} (hsettles : ∀ item, Settles (write item)) {items : List Value}
    (h : ∀ item ∈ items, ∀ bs, Writes (write item) bs () → Takes read bs (some (back item)))
    {bs : ByteArray} (hw : Writes (items.forM write) bs ()) (before : Array Value) :
    Takes (readItems read items.length before) bs (some (before.toList ++ items.map back)) := by
  induction items generalizing bs before with
  | nil =>
    obtain ⟨rfl, -⟩ := hw.unique (writes_pure ())
    rw [List.map_nil, List.append_nil]
    exact Takes.pure _
  | cons item items ih =>
    rw [List.forM_eq_forM, List.forM_cons] at hw
    obtain ⟨first, rest, hfirst, hrest, rfl⟩ :=
      (writes_seq_iff (hsettles item) (settles_forM fun item _ => hsettles item)).mp hw
    refine (h item List.mem_cons_self first hfirst).bind ?_
    have hitems := ih (fun other ho => h other (List.mem_cons_of_mem item ho)) hrest
      (before.push (back item))
    rw [Array.toList_push, List.append_assoc, List.singleton_append] at hitems
    exact hitems

theorem toNat_length {count : Nat} (h : count < 2 ^ 31) :
    (Int32.ofNat count).toInt.toNat = count := by
  rw [Int32.toInt_ofNat_of_lt h, Int.toNat_natCast]

section

variable {registry : Registry} {vectorTag : UInt32} {writeDeeper : Value → Encoder Unit}
  {readDeeper : String → Decoder Value} {back : Value → Value}

/-- A value is read back if the objects in it are. -/
theorem TargetType.takes_read (hsettles : ∀ value, Settles (writeDeeper value)) (owner : String)
    (strict : Bool) {target : TargetType} {value : Value}
    (hrouted : registry.Routed target value)
    (hdeeper : ∀ entry, target.leaf? = some entry → ∀ object ∈ target.objects value,
      registry.Routed (.named entry) object → ∀ bs, Writes (writeDeeper object) bs () →
        Takes (readDeeper entry) bs (back object))
    {bs : ByteArray} (hw : Writes ((target.codec vectorTag).write writeDeeper value) bs ()) :
    Takes ((target.codec vectorTag).read readDeeper owner strict) bs
      (some (target.readBack back value)) := by
  induction target generalizing value bs with
  | string =>
    cases value with
    | string text =>
      have hbytes := writes_putResult_iff.mp hw
      exact ((takes_string hbytes).adaptExcept _).bind_empty (Takes.pure _)
    | _ => exact absurd hw (fails_throw _).not_writes
  | boolean =>
    cases value with
    | bool b =>
      obtain ⟨rfl, -⟩ := hw.unique (writes_put _)
      exact ((takes_bool b).adaptExcept _).bind_empty (Takes.pure _)
    | _ => exact absurd hw (fails_throw _).not_writes
  | int32 =>
    cases value with
    | int n =>
      obtain ⟨rfl, -⟩ := hw.unique (writes_put _)
      exact ((takes_int32 n).adaptExcept _).bind_empty (Takes.pure _)
    | _ => exact absurd hw (fails_throw _).not_writes
  | int64 =>
    cases value with
    | long n =>
      obtain ⟨rfl, -⟩ := hw.unique (writes_put _)
      exact ((takes_int64 n).adaptExcept _).bind_empty (Takes.pure _)
    | _ => exact absurd hw (fails_throw _).not_writes
  | vector element ih =>
    cases value with
    | vector items =>
      have hlen : items.length < 2 ^ 31 := hrouted _ _ (.self _ _)
      have hitems : ∀ item, Settles ((element.codec vectorTag).write writeDeeper item) :=
        fun item => (element.codec vectorTag).settles_write hsettles item
      have hlist : Settles (items.forM ((element.codec vectorTag).write writeDeeper)) :=
        settles_forM fun item _ => hitems item
      obtain ⟨first, rest, hfirst, hrest, rfl⟩ :=
        (writes_seq_iff (settles_put _) ((settles_put _).bind fun _ => hlist)).mp hw
      obtain ⟨second, last, hsecond, hlast, rfl⟩ := (writes_seq_iff (settles_put _) hlist).mp hrest
      obtain ⟨rfl, -⟩ := hfirst.unique (writes_put _)
      obtain ⟨rfl, -⟩ := hsecond.unique (writes_put _)
      refine ((takes_uint32 vectorTag).adaptExcept _).bind ?_
      rw [if_pos rfl]
      -- the count is read as a signed number, so a longer list would come back with none
      refine ((takes_int32 (Int32.ofNat items.length)).adaptExcept _).bind ?_
      rw [toNat_length hlen]
      have hread := takes_readItems hitems (fun item hitem _ hitemw =>
        ih (hrouted.item hitem) (fun entry hleaf object ho =>
          hdeeper entry hleaf object (List.mem_flatMap.mpr ⟨item, hitem, ho⟩)) hitemw) hlast #[]
      exact hread.bind_empty (Takes.pure _)
    | _ => exact absurd hw (fails_throw _).not_writes
  | named entry =>
    cases value with
    | object typeName fields =>
      exact (hdeeper entry rfl _ List.mem_cons_self hrouted bs hw).bind_empty (Takes.pure _)
    | _ => exact absurd hw (fails_throw _).not_writes

/-! ## Fields -/

theorem Value.flagWord_insert_int (typeName name : String) (held : List (String × Value))
    (word : UInt32) :
    (Value.object typeName (Fields.insert name (.int word.toInt32) held)).flagWord name = word := by
  unfold Value.flagWord
  rw [Value.get?_object, Fields.find?_insert_self]
  simp [Value.asInt]

theorem Value.flagWord_insert_ne (typeName : String) {name other : String} (h : other ≠ name)
    (value : Value) (held : List (String × Value)) :
    (Value.object typeName (Fields.insert name value held)).flagWord other
      = (Value.object typeName held).flagWord other := by
  unfold Value.flagWord
  rw [Value.get?_object, Fields.find?_insert_ne h, Value.get?_object]

namespace Plan

/-- If the flags are among the fields that have been read, the object holds them. -/
def FlagsRead (plan : Plan) (word : UInt32) (before : List FieldPlan)
    (held : List (String × Value)) : Prop :=
  plan.isGuarded = true → (∃ flags ∈ before, flags.DeclaresFlags) →
    (Value.object plan.typeName held).flagWord flagsName = word

variable {plan : Plan} {word : UInt32} {before after : List FieldPlan} {field : FieldPlan}
  {held : List (String × Value)}

theorem FlagsRead.skip (h : plan.FlagsRead word before held) (hfield : ¬ field.DeclaresFlags) :
    plan.FlagsRead word (before ++ [field]) held := by
  rintro hguarded ⟨flags, hflags, hdecl⟩
  refine h hguarded ⟨flags, ?_, hdecl⟩
  rcases List.mem_append.mp hflags with hflags | hflags
  · exact hflags
  · rw [List.mem_singleton.mp hflags] at hdecl
    exact absurd hdecl hfield

theorem FlagsRead.insert (h : plan.FlagsRead word before held) (hname : field.name ≠ flagsName)
    (value : Value) :
    plan.FlagsRead word (before ++ [field]) (Fields.insert field.name value held) := by
  intro hguarded hflags
  rw [Value.flagWord_insert_ne _ hname.symm]
  exact h.skip (fun hdecl => hname hdecl.2) hguarded hflags

namespace Regular

variable {owner : String} {strict : Bool} {object : Value}

/-- The steps of reading take what the fields came to. -/
theorem takes_readFields (h : plan.Regular vectorTag) (hint : plan.FlagsAreInt)
    (hsettles : ∀ value, Settles (writeDeeper value))
    (hcontent : ∀ field ∈ plan.fields, plan.fate word field = .content → ∀ bs,
      Writes ((field.codec vectorTag).write writeDeeper (field.content object)) bs () →
        Takes ((field.codec vectorTag).read readDeeper owner strict) bs
          (some (field.target.readBack back (field.content object))))
    (heq : plan.fields = before ++ after) (hread : plan.FlagsRead word before held)
    {bs : ByteArray}
    (hw : Writes (after.forM (plan.emit vectorTag writeDeeper object word)) bs ()) :
    Takes (readFields readDeeper owner strict (after.map (FieldPlan.decodeStep vectorTag))
        (.object plan.typeName held)) bs
      (.setAll (plan.reading back object word) after (.object plan.typeName held)) := by
  induction after generalizing before held bs with
  | nil =>
    obtain ⟨rfl, -⟩ := hw.unique (writes_pure ())
    exact Takes.pure _
  | cons field after ih =>
    have hf : field ∈ plan.fields := by rw [heq]; simp
    have heq' : plan.fields = (before ++ [field]) ++ after := by rw [heq]; simp
    rw [List.forM_eq_forM, List.forM_cons] at hw
    obtain ⟨first, rest, hfirst, hrest, rfl⟩ := (writes_seq_iff
      (plan.settles_emit hsettles vectorTag object word field)
      (settles_forM fun other _ => plan.settles_emit hsettles vectorTag object word other)).mp hw
    have htakes := hcontent field hf
    unfold emit at hfirst
    rw [List.map_cons, Value.setAll_cons]
    unfold reading FieldPlan.decodeStep
    cases hbit : field.flagBit? with
    | some bit =>
      have hsome : field.flagBit? ≠ none := by rw [hbit]; simp
      have hne := h.name_ne_flags hf hsome
      -- the flags come before the field, so its bit is known
      have hword := hread (isGuarded_iff.mpr ⟨field, hf, hsome⟩)
        (h.flags_before before field after heq hsome)
      rw [plan.fate_of_guarded word hbit] at htakes hfirst ⊢
      simp only [readFields, hword]
      by_cases hhas : Flags.has word bit = true
      · simp only [if_pos hhas] at hfirst ⊢
        exact (htakes (if_pos hhas) first hfirst).bind (ih heq' (hread.insert hne _) hrest)
      · simp only [if_neg hhas] at hfirst ⊢
        obtain ⟨rfl, -⟩ := hfirst.unique (writes_pure ())
        rw [ByteArray.empty_append]
        exact ih heq' (hread.skip fun hdecl => hsome hdecl.1) hrest
    | none =>
      rw [plan.fate_of_not_guarded word hbit] at htakes hfirst ⊢
      simp only [readFields]
      by_cases hflags : plan.isGuarded = true ∧ field.name = flagsName
      · simp only [if_pos hflags] at hfirst ⊢
        obtain ⟨rfl, -⟩ := hfirst.unique (writes_put _)
        have hcodec : field.codec vectorTag = .int32 := by
          rw [FieldPlan.codec, hint hflags.1 field hf hflags.2]
          rfl
        have hbytes : uint32Bytes word = int32Bytes word.toInt32 := by
          rw [int32Bytes, UInt32.toUInt32_toInt32]
        rw [hcodec, hbytes]
        refine Takes.bind (((takes_int32 word.toInt32).adaptExcept _).bind_empty (Takes.pure _)) ?_
        refine ih heq' (fun _ _ => ?_) hrest
        rw [hflags.2]
        exact Value.flagWord_insert_int _ _ _ _
      · simp only [if_neg hflags] at hfirst ⊢
        refine (htakes (if_neg hflags) first hfirst).bind (ih heq' ?_ hrest)
        intro hguarded
        exact hread.insert (fun hname => hflags ⟨hguarded, hname⟩) _ hguarded

end Regular

end Plan

/-! ## Objects -/

namespace Registry

variable {plan entryPlan : Plan} {typeName entry : String} {fields : List (String × Value)}
  {bs : ByteArray}

/-- Reading an object takes what was written for it if that is so for the objects in it. -/
theorem takes_readObjectWith (hreg : registry.Regular vectorTag) (hroutes : registry.Routes)
    (hplan : registry.plan typeName = .ok plan) (hentry : registry.plan entry = .ok entryPlan)
    (hrouted : registry.Routed (.named entry) (.object typeName fields))
    (hint : plan.FlagsAreInt) (hsettles : ∀ value, Settles (writeDeeper value)) {levels : Nat}
    (hdeeper : ∀ word, registry.wordOf levels plan (.object typeName fields) = .ok word →
      ∀ field ∈ plan.fields, plan.fate word field = .content →
      ∀ name, field.target.leaf? = some name →
      ∀ object ∈ field.target.objects (field.content (.object typeName fields)),
        registry.Routed (.named name) object → ∀ bs, Writes (writeDeeper object) bs () →
          Takes (readDeeper name) bs (back object))
    (hw : Writes (registry.writeObjectWith levels writeDeeper (.object typeName fields)) bs ())
    (strict : Bool) :
    ∃ rest, bs = uint32Bytes plan.constructorId ++ rest ∧
      Takes (registry.readObjectWith strict readDeeper entry plan.constructorId) rest
        (some (registry.readBackWith levels back (.object typeName fields))) := by
  have hregular := hreg.plans hplan
  obtain ⟨word, rest, hword, hrest, rfl⟩ :=
    (registry.writes_writeObjectWith_iff hplan hregular levels hsettles).mp hw
  refine ⟨rest, rfl, ?_⟩
  obtain ⟨branch, hb, hname⟩ := hrouted _ _ (.self _ _) entryPlan hentry
  obtain ⟨plan', hplan', hresolve⟩ := hroutes.resolve_eq hentry branch hb
  rw [hname, hplan] at hplan'
  cases hplan'
  have hinst : registry.instantiate plan.typeName = .ok plan.unset := by
    rw [instantiate, hreg.typeName_eq hplan, hplan]
    rfl
  obtain ⟨unset, hunset, -⟩ := hregular.unset_object
  have hread : Takes (readFields readDeeper plan.typeName strict
      (plan.fields.map (FieldPlan.decodeStep vectorTag)) plan.unset) rest
        (plan.readBack back (.object typeName fields) word) := by
    have hflags : plan.FlagsRead word [] unset := by
      intro _ hflags
      obtain ⟨flags, hmem, -⟩ := hflags
      exact absurd hmem List.not_mem_nil
    rw [Plan.readBack, hunset]
    refine hregular.takes_readFields hint hsettles (fun field hf hfate _ hfw => ?_)
      (List.nil_append _).symm hflags hrest
    exact TargetType.takes_read hsettles plan.typeName strict
      (hrouted.content hroutes hplan hregular hf) (hdeeper word hword field hf hfate) hfw
  rw [← hregular.decode_eq] at hread
  rw [readBackWith_eq hplan hword]
  unfold readObjectWith
  simp only [hresolve, hinst, Decoder.ofExcept_ok, pure_bind]
  exact hread.bind_empty (Takes.pure _)

theorem takes_readNested {read : String → UInt32 → Decoder (Option Value)} {tag : UInt32}
    {rest : ByteArray} {object : Value} (h : Takes (read entry tag) rest (some object)) :
    Takes (registry.readNested read entry) (uint32Bytes tag ++ rest) object :=
  ((takes_uint32 tag).adaptExcept _).bind (h.bind_empty (Takes.pure object))

/-- Writing an object also writes an object: itself, or one in a field that is written. -/
inductive Written (registry : Registry) : Nat → Value → Value → Prop
  /-- The object itself is written. -/
  | self (levels : Nat) (value : Value) : Written registry levels value value
  /-- Objects are written in the fields that are written. -/
  | nested {levels : Nat} {typeName : String} {plan : Plan} {word : UInt32} {field : FieldPlan}
      {fields : List (String × Value)} {inner object : Value}
      (hplan : registry.plan typeName = .ok plan)
      (hword : registry.wordOf (levels + 1) plan (.object typeName fields) = .ok word)
      (hf : field ∈ plan.fields) (hfate : plan.fate word field = .content)
      (hinner : inner ∈ field.target.objects (field.content (.object typeName fields)))
      (h : Written registry levels inner object) :
      Written registry (levels + 1) (.object typeName fields) object

/-- All objects that writing an object writes have integers for flags, where these guard fields. -/
def IntFlags (registry : Registry) (levels : Nat) (value : Value) : Prop :=
  ∀ typeName fields plan, registry.Written levels value (.object typeName fields) →
    registry.plan typeName = .ok plan → plan.FlagsAreInt

theorem intFlags_of_flagsAreInt {unit : Compilation} (h : unit.FlagsAreInt) (levels : Nat)
    (value : Value) : unit.registry.IntFlags levels value :=
  fun _ _ _ _ hplan => h.of_plan hplan

theorem exists_plan_of_writes {levels : Nat}
    (hw : Writes (registry.writeObjectWith levels writeDeeper (.object typeName fields)) bs ()) :
    ∃ plan, registry.plan typeName = .ok plan := by
  cases hplan : registry.plan typeName with
  | ok plan => exact ⟨plan, rfl⟩
  | error e =>
    have hfails := hw .empty
    simp only [writeObjectWith, hplan] at hfails
    cases hfails

theorem takes_readObject (hreg : registry.Regular vectorTag) (hroutes : registry.Routes)
    {levels : Nat} (hentry : registry.plan entry = .ok entryPlan)
    (hrouted : registry.Routed (.named entry) (.object typeName fields))
    (hint : registry.IntFlags levels (.object typeName fields))
    (hw : Writes (registry.writeObject levels (.object typeName fields)) bs ()) (strict : Bool) :
    ∃ tag rest, bs = uint32Bytes tag ++ rest ∧
      Takes (registry.readObject strict levels entry tag) rest
        (some (registry.readBack levels (.object typeName fields))) := by
  induction levels generalizing entry entryPlan typeName fields bs with
  | zero =>
    -- no object was written in it, because that would have failed
    obtain ⟨plan, hplan⟩ := exists_plan_of_writes hw
    obtain ⟨rest, heq, hread⟩ := takes_readObjectWith hreg hroutes hplan hentry hrouted
      (hint _ _ plan (.self _ _) hplan) (fun _ => settles_throw _)
      (fun _ _ _ _ _ _ _ _ _ _ _ hdeeper => absurd hdeeper (fails_throw _).not_writes) hw strict
    exact ⟨plan.constructorId, rest, heq, hread⟩
  | succ levels ih =>
    obtain ⟨plan, hplan⟩ := exists_plan_of_writes hw
    have hnested : ∀ word, registry.wordOf (levels + 1) plan (.object typeName fields) = .ok word →
        ∀ field ∈ plan.fields, plan.fate word field = .content →
        ∀ name, field.target.leaf? = some name →
        ∀ object ∈ field.target.objects (field.content (.object typeName fields)),
          registry.Routed (.named name) object → ∀ bs, Writes (registry.writeObject levels object) bs () →
            Takes (registry.readNested (registry.readObject strict levels) name) bs
              (registry.readBack levels object) := by
      intro word hword field hf hfate name hleaf object ho hobject bs hdeeper
      obtain ⟨inner, held, rfl⟩ := TargetType.mem_objects ho
      obtain ⟨namePlan, hname⟩ := hreg.defined hplan field hf name hleaf
      obtain ⟨tag, rest, rfl, hread⟩ := ih hname hobject (fun _ _ _ hwritten =>
        hint _ _ _ (.nested hplan hword hf hfate ho hwritten)) hdeeper
      exact takes_readNested hread
    obtain ⟨rest, heq, hread⟩ := takes_readObjectWith hreg hroutes hplan hentry hrouted
      (hint _ _ plan (.self _ _) hplan) (registry.settles_writeObject levels) hnested hw strict
    exact ⟨plan.constructorId, rest, heq, hread⟩

/-- What was written for an object is read back through the entry point of its own type. -/
theorem takes_decodeNext (hreg : registry.Regular vectorTag) (hroutes : registry.Routes)
    (hrouted : registry.Routed (.named typeName) (.object typeName fields))
    (hint : registry.IntFlags maxNesting (.object typeName fields))
    (hencode : registry.encode (.object typeName fields) = .ok bs) (strict : Bool) :
    Takes (registry.decodeNext typeName strict) bs
      (some (registry.readBack maxNesting (.object typeName fields))) := by
  have hw := registry.encode_eq_ok.mp hencode
  obtain ⟨plan, hplan⟩ := exists_plan_of_writes hw
  obtain ⟨tag, rest, rfl, hread⟩ := takes_readObject hreg hroutes hplan hrouted hint hw strict
  exact ((takes_uint32 tag).adaptExcept _).bind hread

/-- Bytes that are taken as an object are decoded to it, whatever follows them. -/
theorem decode_of_takes {value : Option Value} {strict : Bool}
    (h : Takes (registry.decodeNext typeName strict) bs value) (after : ByteArray) :
    registry.decode (bs ++ after) typeName strict = .ok value := by
  have htakes := h .empty after
  unfold decode
  rw [Cursor.ofBytes_eq, htakes]

end Registry

end

end TlSchema
