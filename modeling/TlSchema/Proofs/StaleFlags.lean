import Mathlib.Data.List.Forall2
import TlSchema.Proofs.FieldMaps
import TlSchema.Proofs.FlagWords

/-!
# Objects that hold stale flags

Two values may differ in the flags that objects hold, in bits that guard fields. Writing sets these
bits anew, so they make no difference to the object that holds them. They make one where an object
is compared with its default, because there the flags are compared as they are. So what is written
is the same as long as the flags that are found are the same in all objects that are written, and
these are the same if stale flags are zero in both values or in neither.
-/

namespace TlSchema

open Encoder

namespace Registry

/-! ## Values with other flags -/

/-- Two words of flags differ at most in bits that guard fields of the type. -/
def SameUnguarded (registry : Registry) (typeName : String) (n m : Int32) : Prop :=
  ∀ bit, InWord bit → (∀ plan, registry.plan typeName = .ok plan → plan.guardedBy bit = []) →
    Flags.has n.toUInt32 bit = Flags.has m.toUInt32 bit

/-- A field of two objects of the type holds flags that differ in bits that guard fields, in a way
that is allowed. -/
def StaleWord (registry : Registry) (allow : Int32 → Int32 → Prop) (typeName name : String)
    (a b : Value) : Prop :=
  name = flagsName ∧ ∃ n m, a = .int n ∧ b = .int m ∧ registry.SameUnguarded typeName n m ∧ allow n m

/-- Two values differ at most in flags that objects hold, at any depth, and there in bits that guard
fields of the object and in a way that is allowed. -/
inductive Stale (registry : Registry) (allow : Int32 → Int32 → Prop) : Value → Value → Prop
  | bool (b : Bool) : Stale registry allow (.bool b) (.bool b)
  | int (n : Int32) : Stale registry allow (.int n) (.int n)
  | long (n : Int64) : Stale registry allow (.long n) (.long n)
  | string (text : String) : Stale registry allow (.string text) (.string text)
  | vector {items others : List Value} (hlength : items.length = others.length)
      (h : ∀ (i : Nat) a b, items[i]? = some a → others[i]? = some b → Stale registry allow a b) :
      Stale registry allow (.vector items) (.vector others)
  | object {typeName : String} {fields others : List (String × Value)}
      (hnames : ∀ name, Fields.find? name fields = none ↔ Fields.find? name others = none)
      (h : ∀ name a b, Fields.find? name fields = some a → Fields.find? name others = some b →
        ¬ registry.StaleWord allow typeName name a b → Stale registry allow a b) :
      Stale registry allow (.object typeName fields) (.object typeName others)

/-- Two objects of the type hold the same in each field but for flags, in the field of their own
flags as `own` allows and in other fields as `inside` allows. -/
def StaleFields (registry : Registry) (own inside : Int32 → Int32 → Prop) (typeName : String)
    (fields others : List (String × Value)) : Prop :=
  ∀ name, (Fields.find? name fields = none ∧ Fields.find? name others = none) ∨
    ∃ a b, Fields.find? name fields = some a ∧ Fields.find? name others = some b ∧
      (registry.StaleWord own typeName name a b ∨ registry.Stale inside a b)

variable {registry : Registry} {vectorTag : UInt32} {allow own inside : Int32 → Int32 → Prop}
  {plan : Plan} {typeName : String} {fields others : List (String × Value)}

theorem Stale.items {items others : List Value}
    (h : registry.Stale allow (.vector items) (.vector others)) :
    List.Forall₂ (registry.Stale allow) items others := by
  cases h with
  | vector hlength h =>
    refine List.forall₂_iff_get.mpr ⟨hlength, fun i hi hi' => ?_⟩
    exact h i _ _ (List.getElem?_eq_getElem hi) (List.getElem?_eq_getElem hi')

theorem Stale.staleFields (h : registry.Stale allow (.object typeName fields) (.object typeName others)) :
    registry.StaleFields allow allow typeName fields others := by
  intro name
  cases h with
  | object hnames h =>
    cases ha : Fields.find? name fields with
    | none => exact Or.inl ⟨rfl, (hnames name).mp ha⟩
    | some a =>
      cases hb : Fields.find? name others with
      | none =>
        rw [(hnames name).mpr hb] at ha
        cases ha
      | some b =>
        refine Or.inr ⟨a, b, rfl, rfl, ?_⟩
        by_cases hw : registry.StaleWord allow typeName name a b
        · exact Or.inl hw
        · exact Or.inr (h name a b ha hb hw)

theorem StaleFields.stale (h : registry.StaleFields allow allow typeName fields others) :
    registry.Stale allow (.object typeName fields) (.object typeName others) := by
  refine .object (fun name => ?_) fun name a b ha hb hw => ?_
  · rcases h name with ⟨ha, hb⟩ | ⟨a, b, ha, hb, -⟩
    · rw [ha, hb]
    · rw [ha, hb]
      simp
  · rcases h name with ⟨ha', -⟩ | ⟨a', b', ha', hb', hw' | hstale⟩
    · rw [ha] at ha'
      cases ha'
    · cases ha.symm.trans ha'
      cases hb.symm.trans hb'
      exact absurd hw' hw
    · cases ha.symm.trans ha'
      cases hb.symm.trans hb'
      exact hstale

/-- Objects whose fields are in the same order are compared field by field. -/
theorem staleFields_of_forall₂
    (h : List.Forall₂ (fun field other => field.1 = other.1 ∧
      (registry.StaleWord own typeName field.1 field.2 other.2 ∨
        registry.Stale inside field.2 other.2)) fields others) :
    registry.StaleFields own inside typeName fields others := by
  intro name
  induction h with
  | nil => exact Or.inl ⟨rfl, rfl⟩
  | @cons field other fields others hfield _ ih =>
    obtain ⟨key, a⟩ := field
    obtain ⟨key', b⟩ := other
    obtain ⟨rfl, hheld⟩ := hfield
    unfold Fields.find?
    by_cases hname : key = name
    · subst hname
      exact Or.inr ⟨a, b, if_pos rfl, if_pos rfl, hheld⟩
    · rw [if_neg hname, if_neg hname]
      exact ih

/-- Setting or clearing a bit that guards a field makes flags stale. -/
theorem staleWord_put (hplan : registry.plan typeName = .ok plan) {bit : UInt8} (hb : InWord bit)
    (hguards : plan.guardedBy bit ≠ []) {n m : Int32} {on : Bool}
    (hput : m.toUInt32 = Flags.put n.toUInt32 bit on) (hallow : allow n m) :
    registry.StaleWord allow typeName flagsName (.int n) (.int m) := by
  refine ⟨rfl, n, m, rfl, rfl, fun other ho hnone => ?_, hallow⟩
  have hne : bit ≠ other := by
    rintro rfl
    exact hguards (hnone plan hplan)
  rw [hput, Flags.has_put _ hb ho, if_neg hne]

theorem StaleFields.sameUnguarded (h : registry.StaleFields own inside typeName fields others)
    {bit : UInt8} (hb : InWord bit)
    (hnone : ∀ plan, registry.plan typeName = .ok plan → plan.guardedBy bit = []) :
    Flags.has ((Value.object typeName fields).flagWord flagsName) bit
      = Flags.has ((Value.object typeName others).flagWord flagsName) bit := by
  unfold Value.flagWord
  rw [Value.get?_object, Value.get?_object]
  rcases h flagsName with ⟨ha, hb'⟩ | ⟨a, b, ha, hb', hw | hstale⟩
  · rw [ha, hb']
  · obtain ⟨-, n, m, rfl, rfl, hsame, -⟩ := hw
    rw [ha, hb']
    exact hsame bit hb hnone
  · rw [ha, hb']
    cases hstale <;> rfl

end Registry

/-- The objects in two values of the type are related, one by one. -/
def TargetType.Pairs (deeper : Value → Value → Prop) : TargetType → Value → Value → Prop
  | .vector element, .vector items, .vector others =>
    List.Forall₂ (element.Pairs deeper) items others
  | .named _, .object typeName fields, .object name others =>
    deeper (.object typeName fields) (.object name others)
  | _, _, _ => True

theorem TargetType.Pairs.imp {deeper deeper' : Value → Value → Prop}
    (himp : ∀ x y, deeper x y → deeper' x y) {target : TargetType} {a b : Value}
    (h : target.Pairs deeper a b) : target.Pairs deeper' a b := by
  induction target generalizing a b with
  | vector element ih =>
    cases a with
    | vector items =>
      cases b with
      | vector others => exact List.Forall₂.imp (fun _ _ => ih) h
      | _ => trivial
    | _ => trivial
  | named entry =>
    cases a with
    | object typeName fields =>
      cases b with
      | object name others => exact himp _ _ h
      | _ => trivial
    | _ => trivial
  | _ => trivial

theorem forall₂_and {α β : Type} {R S : α → β → Prop} {as : List α} {bs : List β}
    (h : List.Forall₂ R as bs) (h' : List.Forall₂ S as bs) :
    List.Forall₂ (fun a b => R a b ∧ S a b) as bs := by
  induction h with
  | nil => exact .nil
  | cons hab _ ih =>
    cases h' with
    | cons hab' hrest => exact .cons ⟨hab, hab'⟩ (ih hrest)

namespace Registry

/-- The flags that are found for two objects are the same, where `deeper` says it for the objects
that are written in them. -/
def WordsAgreeWith (registry : Registry) (levels : Nat) (deeper : Value → Value → Prop) :
    Value → Value → Prop
  | .object typeName fields, .object name others => ∀ plan, registry.plan typeName = .ok plan →
      registry.wordOf levels plan (.object typeName fields)
          = registry.wordOf levels plan (.object name others) ∧
        ∀ word, registry.wordOf levels plan (.object typeName fields) = .ok word →
          ∀ field ∈ plan.fields, plan.fate word field = .content →
            field.target.Pairs deeper (field.content (.object typeName fields))
              (field.content (.object name others))
  | _, _ => True

/-- The flags that are found are the same in all objects that are written for two objects. -/
def WordsAgree (registry : Registry) : (levels : Nat) → Value → Value → Prop
  | 0 => registry.WordsAgreeWith 0 fun _ _ => True
  | levels + 1 => registry.WordsAgreeWith (levels + 1) (registry.WordsAgree levels)

theorem WordsAgreeWith.imp {registry : Registry} {levels : Nat} {deeper deeper' : Value → Value → Prop}
    (himp : ∀ x y, deeper x y → deeper' x y) {v w : Value}
    (h : registry.WordsAgreeWith levels deeper v w) : registry.WordsAgreeWith levels deeper' v w := by
  cases v with
  | object typeName fields =>
    cases w with
    | object name others =>
      intro plan hplan
      obtain ⟨hwords, hpairs⟩ := h plan hplan
      exact ⟨hwords, fun word hword field hf hfate => (hpairs word hword field hf hfate).imp himp⟩
    | _ => trivial
  | _ => trivial

/-! ## The same flags make the same bytes -/

variable {registry : Registry} {vectorTag : UInt32} {allow own inside : Int32 → Int32 → Prop}
  {plan : Plan} {typeName : String} {fields others : List (String × Value)} {v w : Value}

/-- Values that differ in flags are written alike if the objects in them are. -/
theorem write_congr {deeper : Value → Encoder Unit} {target : TargetType} {a b : Value}
    (h : registry.Stale allow a b)
    (hpairs : target.Pairs (fun x y => registry.Stale allow x y → deeper x = deeper y) a b) :
    (target.codec vectorTag).write deeper a = (target.codec vectorTag).write deeper b := by
  induction target generalizing a b with
  | vector element ih =>
    cases h with
    | @vector items others hlength hitems =>
      have hstale := (Stale.vector hlength hitems : registry.Stale allow _ _).items
      have hforM : items.forM ((element.codec vectorTag).write deeper)
          = others.forM ((element.codec vectorTag).write deeper) :=
        forM_congr ((forall₂_and hstale hpairs).imp fun _ _ hab => ih hab.1 hab.2)
      simp only [TargetType.codec, Codec.write, hlength, hforM]
    | _ => rfl
  | named entry =>
    cases h with
    | object hnames hfields => exact hpairs (.object hnames hfields)
    | _ => rfl
  | _ => cases h <;> rfl

theorem stale_initial (initial : DefaultValue) :
    registry.Stale allow initial.value initial.value := by
  cases initial with
  | string text => exact .string text
  | int32 n => exact .int n
  | int64 n => exact .long n
  | bool b => exact .bool b
  | emptyVector => exact .vector rfl fun _ _ _ ha => nomatch ha
  | construct typeName => exact .object (fun _ => Iff.rfl) fun _ _ _ ha => nomatch ha

/-- What is there to be written for a field of two objects differs in flags inside it only: a field
of flags that guard nothing holds the same in both. -/
theorem StaleFields.content (h : registry.StaleFields own inside typeName fields others)
    (hplan : registry.plan typeName = .ok plan) (hreg : plan.Regular vectorTag) {word : UInt32}
    {field : FieldPlan} (hf : field ∈ plan.fields) (hfate : plan.fate word field = .content) :
    registry.Stale inside (field.content (.object typeName fields))
      (field.content (.object typeName others)) := by
  unfold FieldPlan.content
  rw [Value.get?_object, Value.get?_object]
  rcases h field.name with ⟨ha, hb⟩ | ⟨a, b, ha, hb, hw | hstale⟩
  · rw [ha, hb]
    exact stale_initial field.initial
  · obtain ⟨hname, n, m, rfl, rfl, hsame, -⟩ := hw
    have hbit : field.flagBit? = none := by
      by_contra hbit
      exact hreg.name_ne_flags hf hbit hname
    have hguarded : ¬ plan.isGuarded = true := by
      intro hguarded
      rw [plan.fate_of_not_guarded word hbit, if_pos ⟨hguarded, hname⟩] at hfate
      cases hfate
    have hwords : n.toUInt32 = m.toUInt32 := by
      refine Flags.eq_of_has fun bit hb => hsame bit hb fun plan' hplan' => ?_
      cases hplan.symm.trans hplan'
      refine List.eq_nil_iff_forall_not_mem.mpr fun other ho => ?_
      obtain ⟨ho, hbit'⟩ := Plan.mem_guardedBy.mp ho
      exact hguarded (Plan.isGuarded_iff.mpr ⟨other, ho, by rw [hbit']; simp⟩)
    have heq : n = m := by
      rw [← Int32.toInt32_toUInt32 n, hwords, Int32.toInt32_toUInt32]
    rw [ha, hb, heq]
    exact .int m
  · rw [ha, hb]
    exact hstale

theorem writeObjectWith_congr (hreg : registry.Regular vectorTag) {levels : Nat}
    {deeper : Value → Encoder Unit} {v w : Value} (h : registry.Stale allow v w)
    (hagree : registry.WordsAgreeWith levels
      (fun x y => registry.Stale allow x y → deeper x = deeper y) v w) :
    registry.writeObjectWith levels deeper v = registry.writeObjectWith levels deeper w := by
  cases h with
  | @object typeName fields others hnames hfields =>
    have hstale := (Stale.object hnames hfields : registry.Stale allow _ _)
    cases hplan : registry.plan typeName with
    | error e => simp only [writeObjectWith, hplan, ofExcept_error_bind]
    | ok plan =>
      have hregular := hreg.plans hplan
      obtain ⟨hwords, hpairs⟩ := hagree plan hplan
      rw [registry.writeObjectWith_eq hplan hregular, registry.writeObjectWith_eq hplan hregular,
        ← hwords]
      cases hword : registry.wordOf levels plan (.object typeName fields) with
      | error e => simp only [ofExcept_error_bind]
      | ok word =>
        simp only [ofExcept_ok, pure_bind]
        congr 1
        funext _
        refine forM_congr (List.forall₂_same.mpr fun field hf => ?_)
        unfold Plan.emit
        cases hfate : plan.fate word field with
        | content =>
          exact write_congr (hstale.staleFields.content hplan hregular hf hfate)
            (hpairs word hword field hf hfate)
        | _ => rfl
  | _ => rfl

/-- Objects that differ in stale flags are written alike if the flags that are found are the same. -/
theorem writeObject_congr (hreg : registry.Regular vectorTag) {levels : Nat} {v w : Value}
    (h : registry.Stale allow v w) (hagree : registry.WordsAgree levels v w) :
    registry.writeObject levels v = registry.writeObject levels w := by
  induction levels generalizing v w with
  | zero => exact writeObjectWith_congr hreg h (WordsAgreeWith.imp (fun _ _ _ _ => rfl) hagree)
  | succ levels ih =>
    exact writeObjectWith_congr hreg h (WordsAgreeWith.imp (fun _ _ hxy hs => ih hs hxy) hagree)

/-! ## Flags that are zero together -/

/-- Both words are zero, or neither is. -/
def ZeroTogether (n m : Int32) : Prop := n = 0 ↔ m = 0

/-- Flags that are zero together are both at their default or both not. -/
theorem isDefault_int {target : TargetType} {initial : DefaultValue} (h : target.IsInitial initial)
    {n m : Int32} (hzero : ZeroTogether n m) (levels : Nat) :
    registry.isDefault levels initial (.int n) = registry.isDefault levels initial (.int m) := by
  have hwith : ∀ deeper, registry.isDefaultWith deeper initial (.int n)
      = registry.isDefaultWith deeper initial (.int m) := by
    intro deeper
    cases initial with
    | int32 k =>
      cases target with
      | int32 =>
        cases h
        simp only [isDefaultWith]
        rw [decide_eq_decide.mpr hzero]
      | _ => exact h.elim
    | _ => rfl
  cases levels <;> exact hwith _

theorem isDefaultWith_congr (hreg : registry.Regular vectorTag)
    {deeper : DefaultValue → Value → Except CodecError Bool}
    (hdeeper : ∀ initial a b, registry.Stale ZeroTogether a b → deeper initial a = deeper initial b)
    (hwords : ∀ target initial n m, TargetType.IsInitial target initial → ZeroTogether n m →
      deeper initial (.int n) = deeper initial (.int m))
    (initial : DefaultValue) {a b : Value} (h : registry.Stale ZeroTogether a b) :
    registry.isDefaultWith deeper initial a = registry.isDefaultWith deeper initial b := by
  cases h with
  | @vector items others hlength _ =>
    cases initial with
    | emptyVector =>
      have hempty : items.isEmpty = others.isEmpty := by
        rw [Bool.eq_iff_iff, List.isEmpty_iff_length_eq_zero, List.isEmpty_iff_length_eq_zero, hlength]
      simp only [isDefaultWith, hempty]
    | _ => rfl
  | @object name fields others hnames hfields =>
    have hstale := (Stale.object hnames hfields : registry.Stale ZeroTogether _ _)
    cases initial with
    | construct typeName =>
      simp only [isDefaultWith]
      by_cases hname : name = typeName
      · rw [if_pos hname, if_pos hname]
        subst hname
        cases hplan : registry.plan name with
        | error e => rfl
        | ok plan =>
          refine Results.allM_congr fun field hf => ?_
          rcases hstale.staleFields field.name with ⟨ha, hb⟩ | ⟨a, b, ha, hb, hw | hab⟩
          · rw [ha, hb]
          · -- here the flags themselves are compared, and their default is zero
            obtain ⟨-, n, m, rfl, rfl, -, hzero⟩ := hw
            rw [ha, hb]
            exact hwords _ _ n m ((hreg.plans hplan).isInitial field hf) hzero
          · rw [ha, hb]
            exact hdeeper field.initial a b hab
      · rw [if_neg hname, if_neg hname]
    | _ => rfl
  | _ => rfl

/-- The test against a default gives the same for values whose stale flags are zero together. -/
theorem isDefault_congr (hreg : registry.Regular vectorTag) (levels : Nat)
    (initial : DefaultValue) {a b : Value} (h : registry.Stale ZeroTogether a b) :
    registry.isDefault levels initial a = registry.isDefault levels initial b := by
  induction levels generalizing initial a b with
  | zero => exact isDefaultWith_congr hreg (fun _ _ _ _ => rfl) (fun _ _ _ _ _ _ => rfl) initial h
  | succ levels ih =>
    exact isDefaultWith_congr hreg (fun initial _ _ hab => ih initial hab)
      (fun _ _ _ _ hinitial hzero => isDefault_int hinitial hzero levels) initial h

/-- Finding flags fails alike wherever it starts from, if the tests give the same. -/
theorem foldlM_put_error {test test' : FlagBinding → Except CodecError Bool}
    {bindings : List FlagBinding} (h : ∀ binding ∈ bindings, test binding = test' binding)
    {before : UInt32} (before' : UInt32) {error : CodecError}
    (herror : bindings.foldlM (fun word binding => do
        let unset ← test binding
        return Flags.put word binding.bit !unset) before = .error error) :
    bindings.foldlM (fun word binding => do
        let unset ← test' binding
        return Flags.put word binding.bit !unset) before' = .error error := by
  induction bindings generalizing before before' with
  | nil => cases herror
  | cons binding bindings ih =>
    have hfirst := h binding List.mem_cons_self
    rw [List.foldlM_cons] at herror ⊢
    cases htest : test binding with
    | error e =>
      rw [htest] at herror
      rw [← hfirst, htest]
      exact herror
    | ok unset =>
      rw [htest] at herror
      rw [← hfirst, htest]
      exact ih (fun other ho => h other (List.mem_cons_of_mem binding ho)) _ herror

/-- The flags that are found are the same if the tests of guarded fields give the same. -/
theorem wordOf_congr (hplan : registry.plan typeName = .ok plan) (hreg : plan.Regular vectorTag)
    {levels : Nat} (h : registry.StaleFields own inside typeName fields others)
    (htests : ∀ field ∈ plan.fields, field.flagBit? ≠ none →
      registry.fieldIsDefault levels plan (.object typeName fields) field.name
        = registry.fieldIsDefault levels plan (.object typeName others) field.name) :
    registry.wordOf levels plan (.object typeName fields)
      = registry.wordOf levels plan (.object typeName others) := by
  -- where one test has an answer, the other has the same
  have hsame : ∀ field ∈ plan.fields, field.flagBit? ≠ none →
      registry.Comparable levels (.object typeName fields) field →
        registry.Comparable levels (.object typeName others) field ∧
          registry.differs levels (.object typeName fields) field
            = registry.differs levels (.object typeName others) field := by
    intro field hf hbit hcomp
    have htest := (fieldIsDefault_eq_ok hreg hf).mpr ⟨hcomp, rfl⟩
    rw [htests field hf hbit] at htest
    obtain ⟨hcomp', hnot⟩ := (fieldIsDefault_eq_ok hreg hf).mp htest
    exact ⟨hcomp', Bool.not_inj hnot⟩
  unfold wordOf
  by_cases hguarded : plan.isGuarded = true
  · rw [if_pos hguarded, if_pos hguarded]
    cases hword : registry.flagsOf levels plan (.object typeName fields) flagsName plan.bindings with
    | error e =>
      refine (foldlM_put_error (fun binding hb => ?_) _ hword).symm
      obtain ⟨field, hf, hbit, hname⟩ := Plan.mem_bindings.mp hb
      rw [← hname]
      exact htests field hf (by rw [hbit]; simp)
    | ok word =>
      obtain ⟨hcomps, rfl⟩ := (flagsOf_eq_ok hreg).mp hword
      refine ((flagsOf_eq_ok hreg).mpr ⟨fun field hf hbit =>
        (hsame field hf hbit (hcomps field hf hbit)).1, ?_⟩).symm
      refine Flags.eq_of_has fun bit hb => ?_
      rw [Flags.has_mark _ hreg.guards _ hb, Flags.has_mark _ hreg.guards _ hb]
      cases hlast : (plan.fields.filter (·.flagBit? = some bit)).getLast? with
      | none =>
        refine h.sameUnguarded hb fun plan' hplan' => ?_
        cases hplan.symm.trans hplan'
        exact List.getLast?_eq_none_iff.mp hlast
      | some last =>
        obtain ⟨hf, hbit⟩ := Plan.mem_guardedBy.mp (List.mem_of_getLast? hlast)
        have hsome : last.flagBit? ≠ none := by rw [hbit]; simp
        exact (hsame last hf hsome (hcomps last hf hsome)).2
  · rw [if_neg hguarded, if_neg hguarded]

theorem Stale.pairs {target : TargetType} {a b : Value} (h : registry.Stale allow a b) :
    target.Pairs (registry.Stale allow) a b := by
  induction target generalizing a b with
  | vector element ih =>
    cases h with
    | vector hlength hitems =>
      exact (Stale.vector hlength hitems : registry.Stale allow _ _).items.imp fun _ _ => ih
    | _ => trivial
  | named entry =>
    cases h with
    | object hnames hfields => exact .object hnames hfields
    | _ => trivial
  | _ => trivial

/-- In the objects inside two objects, stale flags are zero in both or in neither. The flags that
the two objects hold themselves may be any. -/
def ZeroInside (registry : Registry) : Value → Value → Prop
  | .object typeName fields, .object _ others =>
    registry.StaleFields (fun _ _ => True) ZeroTogether typeName fields others
  | _, _ => True

theorem StaleFields.wordsAgreeWith (h : registry.StaleFields own ZeroTogether typeName fields others)
    (hreg : registry.Regular vectorTag) {levels : Nat} {deeper : Value → Value → Prop}
    (hdeeper : ∀ x y, registry.Stale ZeroTogether x y → deeper x y) :
    registry.WordsAgreeWith levels deeper (.object typeName fields) (.object typeName others) := by
  intro plan hplan
  have hregular := hreg.plans hplan
  refine ⟨wordOf_congr hplan hregular h fun field hf hbit => ?_, fun word _ field hf hfate =>
    (h.content hplan hregular hf hfate).pairs.imp hdeeper⟩
  unfold fieldIsDefault
  rw [hregular.field?_name hf, Value.get?_object, Value.get?_object]
  rcases h field.name with ⟨ha, hb⟩ | ⟨a, b, ha, hb, hw | hab⟩
  · rw [ha, hb]
  · exact absurd hw.1 (hregular.name_ne_flags hf hbit)
  · rw [ha, hb]
    exact isDefault_congr hreg levels field.initial hab

theorem Stale.wordsAgree (h : registry.Stale ZeroTogether v w) (hreg : registry.Regular vectorTag)
    (levels : Nat) : registry.WordsAgree levels v w := by
  induction levels generalizing v w with
  | zero =>
    cases h with
    | object hnames hfields =>
      exact (Stale.object hnames hfields).staleFields.wordsAgreeWith hreg fun _ _ _ => trivial
    | _ => trivial
  | succ levels ih =>
    cases h with
    | object hnames hfields =>
      exact (Stale.object hnames hfields).staleFields.wordsAgreeWith hreg fun _ _ hxy => ih hxy
    | _ => trivial

/-- If stale flags inside two objects are zero together, the flags that are found are the same. -/
theorem wordsAgree_of_zeroInside (hreg : registry.Regular vectorTag)
    (h : registry.Stale allow v w) (hinside : registry.ZeroInside v w) (levels : Nat) :
    registry.WordsAgree levels v w := by
  cases h with
  | object hnames hfields =>
    have hfields : registry.StaleFields _ ZeroTogether _ _ _ := hinside
    cases levels with
    | zero => exact hfields.wordsAgreeWith hreg fun _ _ _ => trivial
    | succ levels => exact hfields.wordsAgreeWith hreg fun _ _ hxy => hxy.wordsAgree hreg levels
  | _ => cases levels <;> trivial

end Registry

end TlSchema
