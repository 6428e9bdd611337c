import Mathlib.Data.List.Induction
import TlSchema.Proofs.Emission

/-!
# Words of flags

The flags of an object are the word it holds with one bit after the other set or cleared. So a bit
that guards fields says whether the last of them differs from its default, and a bit that guards
none is as it was.
-/

namespace TlSchema

namespace Flags

/-! ## Bits -/

theorem mask_toBitVec {bit : UInt8} (h : InWord bit) :
    (mask bit).toBitVec = BitVec.twoPow 32 bit.toNat := by
  have hlt : bit.toNat < 32 := Nat.lt_succ_of_le h
  unfold mask BitVec.twoPow
  rw [UInt32.toBitVec_shiftLeft, BitVec.shiftLeft_eq']
  simp [Nat.mod_eq_of_lt hlt]

theorem has_eq (word : UInt32) {bit : UInt8} (h : InWord bit) :
    has word bit = word.toBitVec.getLsbD bit.toNat := by
  have hlt : bit.toNat < 32 := Nat.lt_succ_of_le h
  have hmask : (word &&& mask bit).toBitVec
      = if word.toBitVec.getLsbD bit.toNat then BitVec.twoPow 32 bit.toNat else 0#32 := by
    rw [UInt32.toBitVec_and, mask_toBitVec h, BitVec.and_twoPow]
  have hpow : BitVec.twoPow 32 bit.toNat ≠ 0#32 := by
    intro heq
    have := congrArg (fun w => w.getLsbD bit.toNat) heq
    simp [hlt] at this
  have hzero : word &&& mask bit = 0 ↔ word.toBitVec.getLsbD bit.toNat = false := by
    rw [← UInt32.toBitVec_inj, hmask]
    cases word.toBitVec.getLsbD bit.toNat <;> simp [hpow]
  unfold has
  rw [Bool.eq_iff_iff, decide_eq_true_iff, Ne, hzero, Bool.not_eq_false]

/-- Setting or clearing a bit changes that bit alone. -/
theorem has_put (word : UInt32) {bit other : UInt8} (hb : InWord bit) (ho : InWord other)
    (on : Bool) : has (put word bit on) other = if bit = other then on else has word other := by
  have hbl : bit.toNat < 32 := Nat.lt_succ_of_le hb
  have hol : other.toNat < 32 := Nat.lt_succ_of_le ho
  have heq : bit = other ↔ bit.toNat = other.toNat := UInt8.toNat_inj.symm
  rw [has_eq _ ho, has_eq _ ho]
  unfold put
  cases on with
  | true =>
    rw [if_pos rfl, UInt32.toBitVec_or, mask_toBitVec hb, BitVec.getLsbD_or,
      BitVec.getLsbD_twoPow]
    by_cases h : bit = other
    · simp [h, hol]
    · simp [h, heq.not.mp h]
  | false =>
    rw [if_neg Bool.false_ne_true, UInt32.toBitVec_and, UInt32.toBitVec_not, mask_toBitVec hb,
      BitVec.getLsbD_and, BitVec.getLsbD_not, BitVec.getLsbD_twoPow]
    by_cases h : bit = other
    · simp [h, hol]
    · simp [h, heq.not.mp h, hol]

theorem eq_of_has {word other : UInt32}
    (h : ∀ bit, InWord bit → has word bit = has other bit) : word = other := by
  rw [← UInt32.toBitVec_inj]
  refine BitVec.eq_of_getLsbD_eq fun i hi => ?_
  have hnat : (UInt8.ofNat i).toNat = i := by
    rw [UInt8.toNat_ofNat', Nat.mod_eq_of_lt (by omega)]
  have hbit : InWord (UInt8.ofNat i) := by
    unfold InWord maxFlagBit
    omega
  have heq := h _ hbit
  rwa [has_eq _ hbit, has_eq _ hbit, hnat] at heq

theorem has_zero (bit : UInt8) : has 0 bit = false := by
  unfold has
  simp

/-! ## Guards -/

/-- The word with the bits of guarded fields set or cleared, in order. -/
def mark (on : FieldPlan → Bool) (fields : List FieldPlan) (word : UInt32) : UInt32 :=
  fields.foldl (fun word field =>
    match field.flagBit? with
    | some bit => put word bit (on field)
    | none => word) word

/-- Only what is said of guarded fields counts. -/
theorem mark_congr {on on' : FieldPlan → Bool} {fields : List FieldPlan}
    (h : ∀ field ∈ fields, field.flagBit? ≠ none → on field = on' field) (word : UInt32) :
    mark on fields word = mark on' fields word := by
  refine List.foldl_ext _ _ _ fun word field hf => ?_
  cases hbit : field.flagBit? with
  | none => rfl
  | some bit =>
    have heq := h field hf (by rw [hbit]; simp)
    simp only [heq]

/-- Of several fields that one bit guards, the last one counts. -/
theorem has_mark (on : FieldPlan → Bool) {fields : List FieldPlan}
    (hbits : ∀ field ∈ fields, ∀ bit, field.flagBit? = some bit → InWord bit) (word : UInt32)
    {bit : UInt8} (hb : InWord bit) :
    has (mark on fields word) bit
      = (((fields.filter (·.flagBit? = some bit)).getLast?).map on).getD (has word bit) := by
  induction fields using List.reverseRecOn with
  | nil => rfl
  | append_singleton fields field ih =>
    have ih := ih fun other ho => hbits other (List.mem_append_left _ ho)
    unfold mark at ih ⊢
    rw [List.foldl_append, List.foldl_cons, List.foldl_nil, List.filter_append]
    cases hbit : field.flagBit? with
    | none => simpa [hbit] using ih
    | some other =>
      rw [has_put _ (hbits field (by simp) other hbit) hb]
      by_cases h : other = bit
      · simp [hbit, h]
      · simpa [hbit, h] using ih

end Flags

/-! ## Flags of objects -/

namespace Plan

/-- The fields that a bit guards, in order. -/
def guardedBy (plan : Plan) (bit : UInt8) : List FieldPlan :=
  plan.fields.filter (·.flagBit? = some bit)

theorem mem_guardedBy {plan : Plan} {bit : UInt8} {field : FieldPlan} :
    field ∈ plan.guardedBy bit ↔ field ∈ plan.fields ∧ field.flagBit? = some bit := by
  simp [guardedBy]

end Plan

namespace Registry

/-- The object holds something in the field that differs from the default. -/
def differs (registry : Registry) (levels : Nat) (object : Value) (field : FieldPlan) : Bool :=
  match object.get? field.name with
  | some held =>
    match registry.isDefault levels field.initial held with
    | .ok unset => !unset
    | .error _ => false
  | none => false

variable {registry : Registry} {vectorTag : UInt32} {plan : Plan} {levels : Nat} {object : Value}

theorem differs_iff {field : FieldPlan} :
    registry.differs levels object field = true ↔
      ∃ held, object.get? field.name = some held ∧
        registry.isDefault levels field.initial held = .ok false := by
  unfold differs
  cases hheld : object.get? field.name with
  | none => simp
  | some held =>
    cases hdefault : registry.isDefault levels field.initial held with
    | ok unset => simp [hdefault]
    | error e => simp [hdefault]

/-- What the object holds in the field, if anything, can be compared with the default. -/
def Comparable (registry : Registry) (levels : Nat) (object : Value) (field : FieldPlan) : Prop :=
  ∀ held, object.get? field.name = some held →
    ∃ unset, registry.isDefault levels field.initial held = .ok unset

theorem fieldIsDefault_eq_ok (h : plan.Regular vectorTag) {field : FieldPlan}
    (hf : field ∈ plan.fields) {unset : Bool} :
    registry.fieldIsDefault levels plan object field.name = .ok unset ↔
      registry.Comparable levels object field ∧
        unset = !registry.differs levels object field := by
  unfold fieldIsDefault Comparable differs
  rw [h.field?_name hf]
  cases hheld : object.get? field.name with
  | none => simp [eq_comm]
  | some held =>
    cases hdefault : registry.isDefault levels field.initial held with
    | ok b => simp [hdefault, eq_comm]
    | error e => simp [hdefault]

theorem foldlM_put (h : plan.Regular vectorTag) {fields : List FieldPlan}
    (hsub : ∀ field ∈ fields, field ∈ plan.fields) (before : UInt32) {word : UInt32} :
    (fields.filterMap FieldPlan.binding?).foldlM (fun word binding => do
        let unset ← registry.fieldIsDefault levels plan object binding.field
        return Flags.put word binding.bit !unset) before = .ok word ↔
      (∀ field ∈ fields, field.flagBit? ≠ none → registry.Comparable levels object field) ∧
        word = Flags.mark (registry.differs levels object) fields before := by
  induction fields generalizing before with
  | nil => simp [Flags.mark, pure, Except.pure, eq_comm]
  | cons field fields ih =>
    have hf := hsub field List.mem_cons_self
    have ih := ih fun other ho => hsub other (List.mem_cons_of_mem field ho)
    cases hbit : field.flagBit? with
    | none => simpa [FieldPlan.binding?, hbit, Flags.mark] using ih before
    | some bit =>
      have hbinding : field.binding? = some ⟨field.name, bit⟩ := by
        rw [FieldPlan.binding?, hbit]
        rfl
      have hmark : Flags.mark (registry.differs levels object) (field :: fields) before
          = Flags.mark (registry.differs levels object) fields
              (Flags.put before bit (registry.differs levels object field)) := by
        simp only [Flags.mark, List.foldl_cons, hbit]
      rw [List.filterMap_cons_some hbinding, List.foldlM_cons, Results.bind_eq_ok, hmark]
      constructor
      · rintro ⟨after, hstep, hrest⟩
        obtain ⟨unset, htest, hput⟩ := Results.bind_eq_ok.mp hstep
        obtain ⟨hcomp, rfl⟩ := (fieldIsDefault_eq_ok h hf).mp htest
        rw [Bool.not_not] at hput
        cases hput
        obtain ⟨hcomps, hword⟩ := (ih _).mp hrest
        refine ⟨fun other ho hother => ?_, hword⟩
        rcases List.mem_cons.mp ho with rfl | ho
        · exact hcomp
        · exact hcomps other ho hother
      · rintro ⟨hcomps, hword⟩
        have hcomp := hcomps field List.mem_cons_self (by rw [hbit]; simp)
        refine ⟨_, Results.bind_eq_ok.mpr ⟨_, (fieldIsDefault_eq_ok h hf).mpr ⟨hcomp, rfl⟩, rfl⟩, ?_⟩
        rw [Bool.not_not]
        exact (ih _).mpr ⟨fun other ho => hcomps other (List.mem_cons_of_mem field ho), hword⟩

/-- The flags of an object can be found if all guarded fields can be compared with their defaults,
and then they say which of them differ. -/
theorem flagsOf_eq_ok (h : plan.Regular vectorTag) {word : UInt32} :
    registry.flagsOf levels plan object flagsName plan.bindings = .ok word ↔
      (∀ field ∈ plan.fields, field.flagBit? ≠ none → registry.Comparable levels object field) ∧
        word = Flags.mark (registry.differs levels object) plan.fields
          (object.flagWord flagsName) :=
  foldlM_put h (fun _ hf => hf) _

theorem wordOf_eq_ok (h : plan.Regular vectorTag) {word : UInt32} :
    registry.wordOf levels plan object = .ok word ↔
      (∀ field ∈ plan.fields, field.flagBit? ≠ none → registry.Comparable levels object field) ∧
        word = if plan.isGuarded then Flags.mark (registry.differs levels object) plan.fields
          (object.flagWord flagsName) else 0 := by
  unfold wordOf
  by_cases hg : plan.isGuarded = true
  · simp only [hg, if_true]
    exact flagsOf_eq_ok h
  · have hnone : ∀ field ∈ plan.fields, field.flagBit? ≠ none →
        registry.Comparable levels object field := fun field hf hbit =>
      absurd (Plan.isGuarded_iff.mpr ⟨field, hf, hbit⟩) hg
    simp only [hg, if_false, Bool.false_eq_true]
    exact ⟨fun heq => ⟨hnone, (Except.ok.inj heq).symm⟩, fun heq => by rw [heq.2]⟩

/-- A bit of the flags says whether the last field it guards differs from its default; if it guards
none, it is as the object has it. -/
theorem has_wordOf (h : plan.Regular vectorTag) (hg : plan.isGuarded = true) {word : UInt32}
    (hword : registry.wordOf levels plan object = .ok word) {bit : UInt8} (hb : InWord bit) :
    Flags.has word bit = ((plan.guardedBy bit).getLast?.map (registry.differs levels object)).getD
      (Flags.has (object.flagWord flagsName) bit) := by
  obtain ⟨-, rfl⟩ := (wordOf_eq_ok h).mp hword
  rw [if_pos hg, Flags.has_mark _ h.guards _ hb]
  rfl

theorem has_wordOf_eq_differs (h : plan.Regular vectorTag) {word : UInt32}
    (hword : registry.wordOf levels plan object = .ok word) {bit : UInt8} {last : FieldPlan}
    (hlast : (plan.guardedBy bit).getLast? = some last) :
    Flags.has word bit = registry.differs levels object last := by
  obtain ⟨hmem, hbit⟩ := Plan.mem_guardedBy.mp (List.mem_of_getLast? hlast)
  have hguarded : plan.isGuarded = true :=
    Plan.isGuarded_iff.mpr ⟨last, hmem, by rw [hbit]; simp⟩
  rw [has_wordOf h hguarded hword (h.guards last hmem bit hbit), hlast]
  rfl

end Registry

end TlSchema
