import TlSchema.Proofs.Canonical

/-!
# Round trip of canonical objects

A canonical object can be written, and reading what was written gives it back, whatever follows it.
Writing succeeds because nothing in the object is out of shape. Reading keeps in step with it, and
what it gives back is the object itself, field by field.
-/

namespace TlSchema

open Encoder Wire

/-! ## Values -/

theorem Wire.exists_stringBytes {text : String} (h : text.toUTF8.size ≤ maxPayload) :
    ∃ bs, stringBytes text = .ok bs := by
  unfold stringBytes payloadBytes
  exact ⟨_, if_pos h⟩

namespace TargetType.Fits

variable {object : String → Value → Prop} {target : TargetType} {value : Value}

theorem exists_writes (h : target.Fits object value) (vectorTag : UInt32)
    {deeper : Value → Encoder Unit}
    (hdeeper : ∀ entry inner, object entry inner → ∃ bs, Writes (deeper inner) bs ()) :
    ∃ bs, Writes ((target.codec vectorTag).write deeper value) bs () := by
  induction target generalizing value with
  | string =>
    cases value with
    | string text =>
      obtain ⟨bs, hbs⟩ := exists_stringBytes h
      exact ⟨bs, writes_putResult hbs⟩
    | _ => exact h.elim
  | boolean =>
    cases value with
    | bool b => exact ⟨_, writes_put _⟩
    | _ => exact h.elim
  | int32 =>
    cases value with
    | int n => exact ⟨_, writes_put _⟩
    | _ => exact h.elim
  | int64 =>
    cases value with
    | long n => exact ⟨_, writes_put _⟩
    | _ => exact h.elim
  | vector element ih =>
    cases value with
    | vector items =>
      obtain ⟨bs, hbs⟩ := exists_writes_forM fun item hitem => ih (h.2 item hitem)
      exact ⟨_, (writes_put _).bind ((writes_put _).bind hbs)⟩
    | _ => exact h.elim
  | named entry =>
    cases value with
    | object typeName fields => exact hdeeper entry _ h
    | _ => exact h.elim

/-- A value that fits comes back as it is if the objects in it do. -/
theorem readBack_eq (h : target.Fits object value) {back : Value → Value}
    (hback : ∀ entry inner, object entry inner → back inner = inner) :
    target.readBack back value = value := by
  induction target generalizing value with
  | vector element ih =>
    cases value with
    | vector items =>
      have hitems : items.map (element.readBack back) = items.map id :=
        List.map_congr_left fun item hitem => ih (h.2 item hitem)
      rw [readBack, hitems, List.map_id]
    | _ => exact h.elim
  | named entry =>
    cases value with
    | object typeName fields => exact hback entry _ h
    | _ => exact h.elim
  | _ => rfl

/-- A value that fits stands where it may if the objects in it do. -/
theorem routed {registry : Registry} (h : target.Fits object value)
    (hobject : ∀ entry inner, object entry inner → registry.Routed (.named entry) inner) :
    registry.Routed target value := by
  induction target generalizing value with
  | vector element ih =>
    cases value with
    | vector items =>
      intro place part hpart
      cases hpart with
      | self => exact h.1
      | item hitem hpart => exact ih (h.2 _ hitem) place part hpart
    | _ => exact h.elim
  | named entry =>
    cases value with
    | object typeName fields => exact hobject entry _ h
    | _ => exact h.elim
  | _ =>
    intro place part hpart
    cases hpart
    trivial

end TargetType.Fits

/-! ## Objects -/

theorem FieldPlan.content_eq {field : FieldPlan} {object held : Value}
    (h : object.get? field.name = some held) : field.content object = held := by
  rw [content, h, Option.getD_some]

namespace Registry

variable {registry : Registry} {vectorTag : UInt32} {plan : Plan} {levels : Nat} {value : Value}

/-- Each field of a canonical object can be written if the objects in it can. -/
theorem CanonicalFields.exists_writes_emit
    (h : registry.CanonicalFields (registry.CanonicalDeeper levels) plan value)
    (vectorTag : UInt32) {deeper : Value → Encoder Unit}
    (hdeeper : ∀ inner, registry.CanonicalDeeper levels inner → ∃ bs, Writes (deeper inner) bs ())
    {field : FieldPlan} (hf : field ∈ plan.fields) :
    ∃ bs, Writes (plan.emit vectorTag deeper value
      (if plan.isGuarded then value.flagWord flagsName else 0) field) bs () := by
  obtain ⟨held, hheld⟩ := h.exists_held hf
  unfold Plan.emit
  rw [plan.fate_ite _ hf, FieldPlan.content_eq hheld]
  cases hfate : plan.fate (value.flagWord flagsName) field with
  | word => exact ⟨_, writes_put _⟩
  | content =>
    have hfits := h.fits field hf held hheld (by rw [hfate]; simp)
    exact hfits.exists_writes vectorTag fun entry inner hinner => hdeeper inner hinner.2
  | nothing => exact ⟨_, writes_pure ()⟩

theorem Canonical.exists_writes (hreg : registry.Regular vectorTag)
    (h : registry.Canonical levels value) : ∃ bs, Writes (registry.writeObject levels value) bs () := by
  refine Canonical.induction
    (motive := fun levels value => ∃ bs, Writes (registry.writeObject levels value) bs ())
    (fun levels typeName fields plan hplan _ hfields ih => ?_) h
  have hdeeper : ∀ inner, registry.CanonicalDeeper levels inner →
      ∃ bs, Writes (registry.writeDeeper levels inner) bs () := by
    intro inner hinner
    cases levels with
    | zero => exact hinner.elim
    | succ below => exact ih below inner rfl hinner
  obtain ⟨rest, hrest⟩ := exists_writes_forM fun field hf =>
    hfields.exists_writes_emit vectorTag hdeeper hf
  rw [writeObject_eq]
  exact ⟨_, (registry.writes_writeObjectWith_iff hplan (hreg.plans hplan) levels
    (registry.settles_writeDeeper levels)).mpr
      ⟨_, rest, hfields.wordOf_eq hreg hplan, hrest, rfl⟩⟩

/-- What is read into a field of a canonical object is what the object holds in it. -/
theorem CanonicalFields.reading_eq
    (h : registry.CanonicalFields (registry.CanonicalDeeper levels) plan value)
    (hint : plan.FlagsAreInt) {back : Value → Value}
    (hback : ∀ inner, registry.CanonicalDeeper levels inner → back inner = inner)
    {field : FieldPlan} (hf : field ∈ plan.fields) {held : Value}
    (hheld : value.get? field.name = some held) :
    (plan.reading back value (if plan.isGuarded then value.flagWord flagsName else 0) field).getD
      field.initial.value = held := by
  unfold Plan.reading
  rw [plan.fate_ite _ hf, FieldPlan.content_eq hheld]
  have hfits := h.fits field hf held hheld
  cases hbit : field.flagBit? with
  | some bit =>
    rw [plan.fate_of_guarded _ hbit] at hfits ⊢
    by_cases hhas : Flags.has (value.flagWord flagsName) bit = true
    · rw [if_pos hhas] at hfits ⊢
      exact (hfits (by simp)).readBack_eq fun entry inner hinner => hback inner hinner.2
    · rw [if_neg hhas]
      exact (h.cleared field hf held hheld bit hbit (Bool.eq_false_iff.mpr hhas)).symm
  | none =>
    rw [plan.fate_of_not_guarded _ hbit] at hfits ⊢
    by_cases hflags : plan.isGuarded = true ∧ field.name = flagsName
    · -- the flags are the integer that the object holds
      rw [if_pos hflags] at hfits ⊢
      have hfits := hfits (by simp)
      rw [hint hflags.1 field hf hflags.2] at hfits
      cases held with
      | int n =>
        have hword : value.flagWord flagsName = n.toUInt32 := by
          unfold Value.flagWord
          rw [← hflags.2, hheld]
          rfl
        rw [if_pos hflags.1, hword]
        simp
      | _ => exact hfits.elim
    · rw [if_neg hflags] at hfits ⊢
      exact (hfits (by simp)).readBack_eq fun entry inner hinner => hback inner hinner.2

theorem Canonical.readBack_eq (hreg : registry.Regular vectorTag)
    (hint : ∀ typeName plan, registry.plan typeName = .ok plan → plan.FlagsAreInt)
    (h : registry.Canonical levels value) : registry.readBack levels value = value := by
  refine Canonical.induction (motive := fun levels value => registry.readBack levels value = value)
    (fun levels typeName fields plan hplan hsorted hfields ih => ?_) h
  have hregular := hreg.plans hplan
  have hback : ∀ inner, registry.CanonicalDeeper levels inner →
      registry.readBackDeeper levels inner = inner := by
    intro inner hinner
    cases levels with
    | zero => exact hinner.elim
    | succ below => exact ih below inner rfl hinner
  rw [readBack_eq_with, readBackWith_eq hplan (hfields.wordOf_eq hreg hplan)]
  obtain ⟨held, hheld, hsorted'⟩ := hregular.readBack_object (registry.readBackDeeper levels)
    (.object typeName fields)
    (if plan.isGuarded then (Value.object typeName fields).flagWord flagsName else 0)
  rw [hheld, hreg.typeName_eq hplan]
  congr 1
  refine hsorted'.ext hsorted fun name => ?_
  rw [← Value.get?_object name plan.typeName held, ← hheld]
  by_cases hname : name ∈ plan.fields.map (·.name)
  · obtain ⟨field, hf, rfl⟩ := List.mem_map.mp hname
    obtain ⟨content, hcontent⟩ := hfields.exists_held hf
    rw [hregular.get?_readBack _ _ _ hf,
      hfields.reading_eq (hint typeName plan hplan) hback hf hcontent]
    exact hcontent.symm
  · rw [hregular.get?_readBack_of_notMem _ _ _ hname]
    by_contra hne
    exact hname ((hfields.names name).mp fun hnone => hne hnone.symm)

/-- All parts of a canonical object stand where they may. -/
theorem Canonical.routed (hreg : registry.Regular vectorTag) (hroutes : registry.Routes)
    (h : registry.Canonical levels value) :
    ∀ entry, registry.Accepts entry value → registry.Routed (.named entry) value := by
  refine Canonical.induction (motive := fun _ value => ∀ entry, registry.Accepts entry value →
    registry.Routed (.named entry) value)
    (fun levels typeName fields plan hplan _ hfields ih => ?_) h
  intro entry haccepts place part hpart
  cases hpart with
  | self =>
    obtain ⟨entryPlan, hentry, branch, hb, hname⟩ := haccepts
    intro other hother
    cases hentry.symm.trans hother
    exact ⟨branch, hb, (Option.some.inj hname).symm⟩
  | field hplan' hf hheld hpart =>
    cases hplan.symm.trans hplan'
    rcases hfields.fits_or_initial hf hheld with hfits | rfl
    · refine hfits.routed (fun name inner hinner => ?_) place part hpart
      cases levels with
      | zero => exact hinner.2.elim
      | succ below => exact ih below inner rfl hinner.2 name hinner.1
    · exact routed_initial hroutes ((hreg.plans hplan).isInitial _ hf) place part hpart

end Registry

/-! ## Schemas -/

namespace Compilation

/-- With distinct names and numbers of constructors and integers for flags, a canonical object can
be written, and what was written is read as this object and to its end, whatever follows it. -/
theorem decode_encode_canonical {text : String} {settings : Settings} {unit : Compilation}
    (hunit : ofText text settings = .ok unit) (hdist : unit.Distinct) (hint : unit.FlagsAreInt)
    {typeName : String} {fields : List (String × Value)}
    (h : unit.registry.Canonical maxNesting (.object typeName fields)) (strict : Bool)
    (after : ByteArray) :
    ∃ bs, unit.registry.encode (.object typeName fields) = .ok bs ∧
      unit.registry.decode (bs ++ after) typeName strict = .ok (some (.object typeName fields)) ∧
      ∃ cursor, unit.registry.decodeNext typeName strict (.ofBytes (bs ++ after))
          = .ok (some (.object typeName fields)) cursor ∧
        cursor.index = bs.size := by
  obtain ⟨vectorTag, -, hu⟩ := accepted_of_ofText hunit
  have hreg := hu.regular
  have hroutes := hu.routes hdist
  obtain ⟨bs, hw⟩ := h.exists_writes hreg
  have hencode := unit.registry.encode_eq_ok.mpr hw
  obtain ⟨plan, hplan⟩ := Registry.exists_plan_of_writes hw
  obtain ⟨branch, hb, hname⟩ := hroutes.own hplan
  have hrouted := h.routed hreg hroutes typeName ⟨plan, hplan, branch, hb, by rw [hname]; rfl⟩
  have htakes := Registry.takes_decodeNext hreg hroutes hrouted
    (Registry.intFlags_of_flagsAreInt hint _ _) hencode strict
  rw [h.readBack_eq hreg fun _ _ => hint.of_plan] at htakes
  refine ⟨bs, hencode, Registry.decode_of_takes htakes after, .between bs after, ?_, rfl⟩
  have hnext := htakes .empty after
  rwa [← Cursor.ofBytes_eq, ByteArray.empty_append] at hnext

end Compilation

/-! ## An example -/

namespace Example

/-- A schema with guarded fields, a list and a family. -/
def text : String :=
  "a.p#1 flags:# x:flags.0?int q:flags.1?a.q z:a.q names:Vector<string> = a.P;
a.q#2 y:long = a.Q;
a.r#3 on:Bool = a.Q;"

/-- What it is compiled to. -/
def unit : Compilation := .ofDefinitions
  [⟨"a.p", 1, [⟨"flags", .int32, none⟩, ⟨"x", .int32, some 0⟩, ⟨"q", .named "a.q", some 1⟩,
      ⟨"z", .named "a.q", none⟩, ⟨"names", .vector .string, none⟩], .named "a.P", ⟨1, 1⟩⟩,
    ⟨"a.q", 2, [⟨"y", .int64, none⟩], .named "a.Q", ⟨2, 1⟩⟩,
    ⟨"a.r", 3, [⟨"on", .boolean false, none⟩], .named "a.Q", ⟨3, 1⟩⟩]

theorem ofText_text : Compilation.ofText text {} = .ok unit := by decide +kernel

theorem unit_distinct : unit.Distinct := ⟨by decide, by decide⟩

theorem flagsAreInt : unit.FlagsAreInt := by decide

theorem exists_plan_p : ∃ plan, unit.registry.plan "a_P" = .ok plan ∧ plan.fields =
    [⟨"flags", .int32, .int32 0, none⟩, ⟨"x", .int32, .int32 0, some 0⟩,
      ⟨"q", .named "a_Q", .construct "a_Q", some 1⟩,
      ⟨"z", .named "a_Q", .construct "a_Q", none⟩,
      ⟨"names", .vector .string, .emptyVector, none⟩] :=
  ⟨_, rfl, rfl⟩

theorem exists_plan_q : ∃ plan, unit.registry.plan "a_Q" = .ok plan ∧
    plan.dispatch.branches.map (·.typeName) = ["a_Q", "a_R"] :=
  ⟨_, rfl, rfl⟩

theorem exists_plan_r : ∃ plan, unit.registry.plan "a_R" = .ok plan ∧
    plan.fields = [⟨"on", .boolean, .bool false, none⟩] :=
  ⟨_, rfl, rfl⟩

/-- An object of a member of the family of `a.q`. -/
def nested : Value := .object "a_R" [("on", .bool true)]

/-- The fields of an object: `x` is set, `q` is not, and `z` holds another member of its family. -/
def fields : List (String × Value) :=
  [("flags", .int 1), ("names", .vector [.string "north", .string ""]), ("q", .object "a_Q" []),
    ("x", .int 5), ("z", nested)]

theorem nested_canonical (levels : Nat) : unit.registry.Canonical levels nested := by
  obtain ⟨plan, hplan, hfields⟩ := exists_plan_r
  rw [Registry.canonical_eq]
  refine ⟨by decide, plan, hplan, fun name => ?_, ?_, ?_, ?_⟩
  · rw [hfields]
    exact Fields.find?_ne_none_iff
  · simp [hfields, Fields.find?, TargetType.Fits]
  · simp [hfields]
  · simp [hfields]

theorem nested_accepted : unit.registry.Accepts "a_Q" nested := by
  obtain ⟨plan, hplan, hbranches⟩ := exists_plan_q
  have hmem : "a_R" ∈ plan.dispatch.branches.map (·.typeName) := by simp [hbranches]
  obtain ⟨branch, hb, hname⟩ := List.mem_map.mp hmem
  exact ⟨plan, hplan, branch, hb, by rw [hname]; rfl⟩

theorem canonical : unit.registry.Canonical maxNesting (.object "a_P" fields) := by
  obtain ⟨plan, hplan, hfields⟩ := exists_plan_p
  obtain ⟨planQ, hplanQ, -⟩ := exists_plan_q
  have hword : (Value.object "a_P" fields).flagWord flagsName = 1 := rfl
  have hx : Flags.has 1 0 = true := by decide
  have hq : Flags.has 1 1 = false := by decide
  have hdefault : unit.registry.AtDefault (.construct "a_Q") (.object "a_Q" []) := by
    refine .construct hplanQ fun _ _ _ hheld => ?_
    cases hheld
  have hset : ¬ unit.registry.AtDefault (.int32 0) (.int 5) := by
    intro h
    cases h
  have hz : TargetType.Fits (fun entry value => unit.registry.Accepts entry value ∧
      unit.registry.Canonical 63 value) (.named "a_Q") nested :=
    ⟨nested_accepted, nested_canonical 63⟩
  have hnorth : "north".utf8ByteSize ≤ Wire.maxPayload := by decide
  refine ⟨by decide, plan, hplan, fun name => ?_, ?_, ?_, ?_⟩
  · rw [Value.get?_object, Fields.find?_ne_none_iff, hfields]
    exact List.Perm.mem_iff (by decide)
  · rw [hword]
    simp [hfields, fields, Fields.find?, TargetType.Fits, Plan.fate, hq, hz, hnorth]
  · rw [hword]
    simp [hfields, fields, Fields.find?, hx, hq, hdefault, hset]
  · rw [hword]
    simp [hfields, fields, Fields.find?, hx, hq, DefaultValue.value]

theorem decode_encode_fields :
    Compilation.ofText text {} = .ok unit ∧ unit.Distinct ∧ unit.FlagsAreInt ∧
      unit.registry.Canonical maxNesting (.object "a_P" fields) ∧
      ∃ bs, unit.registry.encode (.object "a_P" fields) = .ok bs ∧
        unit.registry.decode (bs ++ [7].toByteArray) "a_P" false = .ok (some (.object "a_P" fields)) ∧
        ∃ cursor, unit.registry.decodeNext "a_P" false (.ofBytes (bs ++ [7].toByteArray))
            = .ok (some (.object "a_P" fields)) cursor ∧
          cursor.index = bs.size :=
  ⟨ofText_text, unit_distinct, flagsAreInt, canonical,
    Compilation.decode_encode_canonical ofText_text unit_distinct flagsAreInt canonical false
      [7].toByteArray⟩

end Example

end TlSchema
