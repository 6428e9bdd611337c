import TlSchema.Proofs.Delegation
import TlSchema.Proofs.Reencoding

/-!
# When reading agrees with writing

The word of flags is always written as an integer, but it is read as what it is declared to be.
Where the flags that guard fields are integers, in all objects that are written for an object, what
was written is read back, and to its end. Flags of other types are accepted in a schema too. They
are never taken for flags when they are read: whatever comes of the bytes, guarded fields are left
at their defaults.
-/

namespace TlSchema

open Encoder Wire

/-! ## Flags that are no integer -/

/-- What the object holds in fields that the plan guards are the defaults of these fields. -/
def Plan.GuardedAtDefault (plan : Plan) (object : Value) : Prop :=
  ∀ field ∈ plan.fields, field.flagBit? ≠ none → ∀ held, object.get? field.name = some held →
    held = field.initial.value

/-- Only the codec of integers reads an integer. -/
theorem Codec.Admits.asInt_eq_zero {text : String → Prop} {object : String → Value → Prop}
    {vectorTag : UInt32} {target : TargetType} {value : Value}
    (h : (target.codec vectorTag).Admits text object value) (htarget : target ≠ .int32) :
    value.asInt = 0 := by
  cases value with
  | int n =>
    cases target with
    | int32 => exact absurd rfl htarget
    | _ => exact h.elim
  | _ => rfl

namespace Registry

variable {registry : Registry} {vectorTag : UInt32} {plan : Plan} {typeName : String}
  {fields : List (String × Value)}

/-- Flags that have been read as no integer are all clear, so that no guarded field is read. -/
theorem CompleteFields.guardedAtDefault {deeper : Value → Prop} {object : Value}
    (h : CompleteFields vectorTag deeper plan object) (hregular : plan.Regular vectorTag)
    (hflags : ¬ plan.FlagsAreInt) : plan.GuardedAtDefault object := by
  have hword : object.flagWord flagsName = 0 := by
    unfold Plan.FlagsAreInt at hflags
    push Not at hflags
    obtain ⟨-, flags, hf, hname, htarget⟩ := hflags
    have hbit : flags.flagBit? = none := by
      by_contra hbit
      exact hregular.name_ne_flags hf hbit hname
    have hfate : plan.fate (object.flagWord flagsName) flags ≠ .nothing := by
      rw [Ne, Plan.fate_eq_nothing_iff, hbit]
      simp
    obtain ⟨held, hheld, hadmits⟩ := h.read flags hf hfate
    rw [hname] at hheld
    simp only [Value.flagWord, hheld, hadmits.asInt_eq_zero htarget]
    rfl
  intro field hf hguard held hheld
  obtain ⟨bit, hbit⟩ := Option.ne_none_iff_exists'.mp hguard
  have hfate : plan.fate (object.flagWord flagsName) field = .nothing :=
    Plan.fate_eq_nothing_iff.mpr ⟨bit, hbit, by rw [hword, Flags.has_zero]⟩
  rw [h.unread field hf hfate] at hheld
  exact (Option.some.inj hheld).symm

theorem Complete.guardedAtDefault (hreg : registry.Regular vectorTag) {depth : Nat} {value : Value}
    (h : registry.Complete vectorTag depth value)
    (hpart : Value.Part (.object typeName fields) value)
    (hplan : registry.plan typeName = .ok plan) (hflags : ¬ plan.FlagsAreInt) :
    plan.GuardedAtDefault (.object typeName fields) := by
  rcases h.of_part hreg hpart with ⟨_, -, plan', hplan', hfields⟩ | ⟨rfl, -⟩
  · cases hplan.symm.trans hplan'
    exact hfields.guardedAtDefault (hreg.plans hplan) hflags
  · intro field _ _ held hheld
    cases hheld

/-- Whatever is read from the bytes of an object is of its type, which they start with. -/
theorem exists_fields_of_decodeNext (hreg : registry.Regular vectorTag) (hroutes : registry.Routes)
    {bs : ByteArray} (hencode : registry.encode (.object typeName fields) = .ok bs) {strict : Bool}
    {value : Value} {stop : Cursor}
    (h : registry.decodeNext typeName strict (.ofBytes bs) = .ok (some value) stop) :
    ∃ held, value = .object typeName held := by
  have hw := registry.encode_eq_ok.mp hencode
  obtain ⟨plan, hplan⟩ := exists_plan_of_writes hw
  rw [writeObject_eq] at hw
  obtain ⟨word, rest, -, -, rfl⟩ := (registry.writes_writeObjectWith_iff hplan (hreg.plans hplan)
    maxNesting (registry.settles_writeDeeper maxNesting)).mp hw
  -- the constructor that is read first is that of the object, and the entry point keeps it
  obtain ⟨tag, mid, htag, hrest⟩ := Wire.bind_eq_ok.mp h
  have htakes : Takes (Decoder.wire Reader.uint32) (uint32Bytes plan.constructorId)
      plan.constructorId := (takes_uint32 plan.constructorId).adaptExcept _
  have hfirst := htakes .empty rest
  rw [← Cursor.ofBytes_eq, htag] at hfirst
  cases hfirst
  obtain ⟨branch, hb, hname⟩ := hroutes.own hplan
  obtain ⟨plan', hplan', hresolve⟩ := hroutes.resolve_eq hplan branch hb
  rw [hname, hplan] at hplan'
  cases hplan'
  have htype := hreg.typeName_eq hplan
  rw [decodeEntry_eq_readOwn (hresolve strict) (by rw [htype, hplan])] at hrest
  obtain ⟨held, hheld⟩ := readOwn_gives_object hrest
  cases hheld
  exact ⟨held, by rw [htype]⟩

end Registry

/-- What was written for an object is read back and to its end if, in all objects that were written,
flags that guard fields are integers. Flags of another type are never taken for flags: what is read
is an object of the same type, and no object in it whose flags are of another type holds anything
but defaults in the fields that they guard, whatever was written there. -/
theorem Compilation.decode_agrees_of_intFlags {text : String} {settings : Settings}
    {unit : Compilation} (hunit : ofText text settings = .ok unit) (hdist : unit.Distinct)
    {typeName : String} {fields : List (String × Value)}
    (hrouted : unit.registry.Routed (.named typeName) (.object typeName fields)) {bs : ByteArray}
    (hencode : unit.registry.encode (.object typeName fields) = .ok bs) :
    (unit.registry.IntFlags maxNesting (.object typeName fields) →
      ∃ stop, unit.registry.decodeNext typeName true (.ofBytes bs)
          = .ok (some (unit.registry.readBack maxNesting (.object typeName fields))) stop ∧
        stop.index = bs.size) ∧
    ∀ value stop, unit.registry.decodeNext typeName true (.ofBytes bs) = .ok (some value) stop →
      (∃ held, value = .object typeName held) ∧
      ∀ name held plan, Value.Part (.object name held) value → unit.registry.plan name = .ok plan →
        ¬ plan.FlagsAreInt → plan.GuardedAtDefault (.object name held) := by
  obtain ⟨vectorTag, -, hu⟩ := accepted_of_ofText hunit
  have hreg := hu.regular
  have hroutes := hu.routes hdist
  refine ⟨fun hint => ?_, fun value stop hnext => ⟨?_, ?_⟩⟩
  · have htakes := Registry.takes_decodeNext hreg hroutes hrouted hint hencode true
    have hnext := htakes .empty .empty
    rw [← Cursor.ofBytes_eq, ByteArray.append_empty, ByteArray.empty_append] at hnext
    exact ⟨_, hnext, rfl⟩
  · exact Registry.exists_fields_of_decodeNext hreg hroutes hencode hnext
  · intro name held plan hpart hplan hflags
    exact (Registry.complete_decodeNext hreg hnext).guardedAtDefault hreg hpart hplan hflags

/-! ## Flags of several types -/

/-- The object of the example is written, and may stand at its entry point. -/
theorem Example.exists_encoded :
    ∃ bs, unit.registry.Routed (.named "a_P") (.object "a_P" fields) ∧
      unit.registry.encode (.object "a_P" fields) = .ok bs := by
  obtain ⟨vectorTag, -, hu⟩ := Compilation.accepted_of_ofText ofText_text
  obtain ⟨plan, hplan, -⟩ := exists_plan_p
  obtain ⟨branch, hb, hname⟩ := (hu.routes unit_distinct).own hplan
  have hrouted := canonical.routed hu.regular (hu.routes unit_distinct) "a_P"
    ⟨plan, hplan, branch, hb, by rw [hname]; rfl⟩
  obtain ⟨bs, hw⟩ := canonical.exists_writes hu.regular
  exact ⟨bs, hrouted, unit.registry.encode_eq_ok.mpr hw⟩

namespace OtherFlags

/-- A schema whose flags are declared as the given type. -/
def text (literal : String) : String := "a.b#1 flags:" ++ literal ++ " x:flags.0?int = a.B;"

/-- What it is compiled to. -/
def unit (type : ValueType) : Compilation := .ofDefinitions
  [⟨"a.b", 1, [⟨"flags", type, none⟩, ⟨"x", .int32, some 0⟩], .named "a.B", ⟨1, 1⟩⟩]

/-- The types that are no integer, each with the fields of an object and what is written for it. -/
def samples : List (String × ValueType × List (String × Value) × List UInt8) :=
  [("long", .int64, [], [1, 0, 0, 0, 0, 0, 0, 0]),
    ("Bool", .boolean false, [], [1, 0, 0, 0, 0, 0, 0, 0]),
    ("Vector<int>", .vector .int32, [], [1, 0, 0, 0, 0, 0, 0, 0]),
    ("a.b", .named "a.b", [], [1, 0, 0, 0, 0, 0, 0, 0]),
    ("string", .string, [("x", .int 5)], [1, 0, 0, 0, 1, 0, 0, 0, 5, 0, 0, 0])]

/-- All of them are accepted, and the objects are written. -/
theorem sample_written : ∀ sample ∈ samples,
    Compilation.ofText (text sample.1) {} = .ok (unit sample.2.1) ∧ (unit sample.2.1).Distinct ∧
      (unit sample.2.1).registry.Routed (.named "a_B") (.object "a_B" sample.2.2.1) ∧
      (unit sample.2.1).registry.encode (.object "a_B" sample.2.2.1)
        = .ok sample.2.2.2.toByteArray := by
  have htext : ∀ sample ∈ samples,
      Compilation.ofText (text sample.1) {} = .ok (unit sample.2.1) := by
    decide +kernel
  have hnames : ∀ sample ∈ samples, ((unit sample.2.1).plans.map (·.typeName)).Nodup := by
    decide +kernel
  have hids : ∀ sample ∈ samples, ((unit sample.2.1).plans.map (·.constructorId)).Nodup := by
    decide +kernel
  have hints : ∀ sample ∈ samples, ∀ entry ∈ sample.2.2.1, ∃ n, entry.2 = .int n := by
    simp [samples]
  have hencode : ∀ sample ∈ samples, (unit sample.2.1).registry.encode (.object "a_B" sample.2.2.1)
      = .ok sample.2.2.2.toByteArray := by
    decide +kernel
  intro sample hsample
  have hdist : (unit sample.2.1).Distinct := ⟨hnames sample hsample, hids sample hsample⟩
  obtain ⟨vectorTag, -, hu⟩ := Compilation.accepted_of_ofText (htext sample hsample)
  have hrouted : (unit sample.2.1).registry.Routed (.named "a_B") (.object "a_B" sample.2.2.1) :=
    Registry.routed_of_ints (hu.routes hdist) (hints sample hsample)
  exact ⟨htext sample hsample, hdist, hrouted, hencode sample hsample⟩

/-- What is read from the bytes of the last one: the flags are a text of one character, and the
integer behind them is left. -/
def forgotten : Value := .object "a_B" [("flags", .string "\x00"), ("x", .int 0)]

/-- An object with integers for flags is read to its end. An object with a text for flags is read as
one with nothing in the guarded field, although something was written there. -/
theorem agrees_or_forgets :
    (∃ bs stop, Compilation.ofText Example.text {} = .ok Example.unit ∧ Example.unit.Distinct ∧
      Example.unit.registry.Routed (.named "a_P") (.object "a_P" Example.fields) ∧
      Example.unit.registry.encode (.object "a_P" Example.fields) = .ok bs ∧
      Example.unit.registry.IntFlags maxNesting (.object "a_P" Example.fields) ∧
      Example.unit.registry.decodeNext "a_P" true (.ofBytes bs) = .ok (some
        (Example.unit.registry.readBack maxNesting (.object "a_P" Example.fields))) stop ∧
      stop.index = bs.size) ∧
    ∃ plan stop, Compilation.ofText (text "string") {} = .ok (unit .string) ∧
      (unit .string).Distinct ∧
      (unit .string).registry.Routed (.named "a_B") (.object "a_B" [("x", .int 5)]) ∧
      (unit .string).registry.encode (.object "a_B" [("x", .int 5)])
        = .ok [1, 0, 0, 0, 1, 0, 0, 0, 5, 0, 0, 0].toByteArray ∧
      (unit .string).registry.decodeNext "a_B" true
          (.ofBytes [1, 0, 0, 0, 1, 0, 0, 0, 5, 0, 0, 0].toByteArray)
        = .ok (some forgotten) stop ∧
      (unit .string).registry.plan "a_B" = .ok plan ∧ ¬ plan.FlagsAreInt ∧
      plan.GuardedAtDefault forgotten := by
  constructor
  · obtain ⟨bs, hrouted, hencode⟩ := Example.exists_encoded
    have hint := Registry.intFlags_of_flagsAreInt Example.flagsAreInt maxNesting
      (.object "a_P" Example.fields)
    obtain ⟨stop, hread, hend⟩ := (Compilation.decode_agrees_of_intFlags Example.ofText_text
      Example.unit_distinct hrouted hencode).1 hint
    exact ⟨bs, stop, Example.ofText_text, Example.unit_distinct, hrouted, hencode, hint, hread,
      hend⟩
  · obtain ⟨htext, hdist, hrouted, hencode⟩ := sample_written ("string", .string, [("x", .int 5)],
      [1, 0, 0, 0, 1, 0, 0, 0, 5, 0, 0, 0]) (by simp [samples])
    obtain ⟨stop, hread⟩ : ∃ stop, (unit .string).registry.decodeNext "a_B" true
        (.ofBytes [1, 0, 0, 0, 1, 0, 0, 0, 5, 0, 0, 0].toByteArray) = .ok (some forgotten) stop :=
      ⟨_, rfl⟩
    obtain ⟨plan, hplan, hflags⟩ : ∃ plan, (unit .string).registry.plan "a_B" = .ok plan ∧
        ¬ plan.FlagsAreInt := ⟨_, rfl, by decide⟩
    have hforgets := ((Compilation.decode_agrees_of_intFlags htext hdist hrouted hencode).2
      forgotten stop hread).2 "a_B" _ plan (.self _) hplan hflags
    exact ⟨plan, stop, htext, hdist, hrouted, hencode, hread, hplan, hflags, hforgets⟩

/-- Whether the bytes are read to their end. -/
def readToEnd (registry : Registry) (bs : ByteArray) : Bool :=
  match registry.decodeNext "a_B" true (.ofBytes bs) with
  | .ok (some _) cursor => cursor.index = bs.size
  | _ => false

/-- None of them is read to its end: with every other type, some objects break the agreement. -/
theorem not_readToEnd : ∀ sample ∈ samples,
    ¬ ∃ value cursor, (unit sample.2.1).registry.decodeNext "a_B" true
        (.ofBytes sample.2.2.2.toByteArray) = .ok (some value) cursor ∧
      cursor.index = sample.2.2.2.toByteArray.size := by
  have hend : ∀ sample ∈ samples,
      readToEnd (unit sample.2.1).registry sample.2.2.2.toByteArray = false := by
    decide +kernel
  rintro sample hsample ⟨value, cursor, hread, hindex⟩
  have hfalse := hend sample hsample
  simp only [readToEnd, hread, hindex, decide_true, Bool.true_eq_false] at hfalse

/-- A long integer is read where a word was written, so an object with nothing in it is not read. -/
theorem long_flags_not_read :
    Compilation.ofText (text "long") {} = .ok (unit .int64) ∧ (unit .int64).Distinct ∧
      (unit .int64).registry.Routed (.named "a_B") (.object "a_B" []) ∧
      (unit .int64).registry.encode (.object "a_B" [])
        = .ok [1, 0, 0, 0, 0, 0, 0, 0].toByteArray ∧
      ¬ ∃ value cursor, (unit .int64).registry.decodeNext "a_B" true
          (.ofBytes [1, 0, 0, 0, 0, 0, 0, 0].toByteArray) = .ok (some value) cursor ∧
        cursor.index = [1, 0, 0, 0, 0, 0, 0, 0].toByteArray.size := by
  obtain ⟨htext, hdist, hrouted, hencode⟩ := sample_written
    ("long", .int64, [], [1, 0, 0, 0, 0, 0, 0, 0]) List.mem_cons_self
  have hend := not_readToEnd ("long", .int64, [], [1, 0, 0, 0, 0, 0, 0, 0]) List.mem_cons_self
  exact ⟨htext, hdist, hrouted, hencode, hend⟩

end OtherFlags

end TlSchema
