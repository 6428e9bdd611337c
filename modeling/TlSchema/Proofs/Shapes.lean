import TlSchema.Proofs.InStep

/-!
# What is read has the shape of its codec

Whatever the bytes are, a value that is read has the shape of the codec that it is read by: an
integer where one is declared, and never one where another type is. What holds of the texts and
objects in it is a parameter, since more is known of them where they are read. The plan by which an
object is read is that of its type.
-/

namespace TlSchema

open Wire

/-! ## Results of reading -/

theorem Decoder.ofExcept_eq_ok {α : Type} {result : Except CodecError α} {a : α} {c c' : Cursor} :
    Decoder.ofExcept result c = .ok a c' ↔ result = .ok a ∧ c = c' := by
  cases result with
  | ok b =>
    rw [Decoder.ofExcept_ok]
    constructor
    · intro h
      cases h
      exact ⟨rfl, rfl⟩
    · rintro ⟨hb, rfl⟩
      cases hb
      rfl
  | error e =>
    constructor
    · intro h
      cases h
    · rintro ⟨hb, -⟩
      cases hb

/-! ## Shapes -/

namespace Codec

/-- The value is of the kind that the codec reads; `text` holds of the texts in it, and `object` of
the objects, given the types whose entry points read them. -/
def Admits (text : String → Prop) (object : String → Value → Prop) : Codec → Value → Prop
  | .string, .string s => text s
  | .boolean, .bool _ => True
  | .int32, .int _ => True
  | .int64, .long _ => True
  | .vector _ element, .vector items => ∀ item ∈ items, element.Admits text object item
  | .object entry, .object typeName fields => object entry (.object typeName fields)
  | _, _ => False

end Codec

section

variable {text : String → Prop} {object : String → Value → Prop}
  {readDeeper : String → Decoder Value}

theorem admits_readItems {read : Decoder (Option Value)} {element : Codec}
    (h : ∀ c item c', read c = .ok (some item) c' → element.Admits text object item) {count : Nat}
    {before : Array Value} (hbefore : ∀ item ∈ before.toList, element.Admits text object item)
    {c c' : Cursor} {items : List Value}
    (hread : readItems read count before c = .ok (some items) c') :
    ∀ item ∈ items, element.Admits text object item := by
  induction count generalizing before c with
  | zero =>
    cases hread
    exact hbefore
  | succ count ih =>
    obtain ⟨item?, mid, hitem, hrest⟩ := Wire.bind_eq_ok.mp hread
    cases item? with
    | none => cases hrest
    | some item =>
      refine ih (fun other ho => ?_) hrest
      rw [Array.toList_push] at ho
      rcases List.mem_append.mp ho with ho | ho
      · exact hbefore other ho
      · rw [List.mem_singleton.mp ho]
        exact h c item mid hitem

/-- What is read by a codec has its shape. -/
theorem Codec.admits_read
    (htext : ∀ c s c', Decoder.wire Reader.string c = .ok s c' → text s)
    (hdeeper : ∀ name c value c', readDeeper name c = .ok value c' →
      (Codec.object name).Admits text object value)
    (owner : String) (strict : Bool) {codec : Codec} {c c' : Cursor} {value : Value}
    (h : codec.read readDeeper owner strict c = .ok (some value) c') :
    codec.Admits text object value := by
  induction codec generalizing c c' value with
  | string =>
    obtain ⟨s, mid, hs, hvalue⟩ := Wire.bind_eq_ok.mp h
    cases hvalue
    exact htext c s _ hs
  | vector tag element ih =>
    obtain ⟨found, mid, -, hrest⟩ := Wire.bind_eq_ok.mp h
    by_cases htag : found = tag
    · rw [if_pos htag] at hrest
      obtain ⟨count, mid', -, hrest⟩ := Wire.bind_eq_ok.mp hrest
      obtain ⟨items?, mid'', hitems, hvalue⟩ := Wire.bind_eq_ok.mp hrest
      cases items? with
      | none => cases hvalue
      | some items =>
        cases hvalue
        exact admits_readItems (fun _ _ _ hitem => ih hitem) (by simp) hitems
    · rw [if_neg htag] at hrest
      cases strict <;> cases hrest
  | object entry =>
    obtain ⟨value, mid, hread, hvalue⟩ := Wire.bind_eq_ok.mp h
    cases hvalue
    exact hdeeper entry c _ _ hread
  | _ =>
    obtain ⟨found, mid, -, hvalue⟩ := Wire.bind_eq_ok.mp h
    cases hvalue
    trivial

end

/-! ## Plans of objects -/

namespace Registry

variable {registry : Registry} {plan : Plan}

/-- The plan that a constructor leads to is the one that its type has. -/
theorem plan_of_follow {tag : UInt32} {strict : Bool} {steps : Nat} {start : Plan}
    (hstart : registry.plan start.typeName = .ok start)
    (h : registry.follow tag strict steps start = .ok (some plan)) :
    registry.plan plan.typeName = .ok plan := by
  induction steps generalizing start with
  | zero => cases h
  | succ steps ih =>
    unfold follow at h
    split at h
    · cases strict <;> cases h
    · split at h
      · cases h
        exact hstart
      · obtain ⟨next, hnext, hrest⟩ := Results.bind_eq_ok.mp h
        exact ih (by rw [(mem_of_plan hnext).2, hnext]) hrest

theorem plan_of_resolve {entry : String} {tag : UInt32} {strict : Bool}
    (h : registry.resolve entry tag strict = .ok (some plan)) :
    registry.plan plan.typeName = .ok plan := by
  obtain ⟨start, hstart, hfollow⟩ := Results.bind_eq_ok.mp h
  exact plan_of_follow (by rw [(mem_of_plan hstart).2, hstart]) hfollow

end Registry

end TlSchema
