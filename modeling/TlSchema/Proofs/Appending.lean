import Mathlib.Data.List.Forall2
import Mathlib.Tactic.SplitIfs
import TlSchema.Registry.Encode

/-!
# Encoders append

An encoder appends its bytes to whatever has been written before, or fails whatever has been written
before. So an encoder that has succeeded once always writes the same bytes, and these are the bytes
of its parts one after the other.
-/

namespace TlSchema

namespace Encoder

variable {α β : Type}

/-- The encoder gives `a` and appends `bs`. -/
def Writes (encoder : Encoder α) (bs : ByteArray) (a : α) : Prop :=
  ∀ out, encoder out = .ok a (out ++ bs)

/-- The encoder fails with an error. -/
def Fails (encoder : Encoder α) (error : CodecError) : Prop :=
  ∀ out, ∃ out', encoder out = .error error out'

/-- What the encoder does is the same whatever has been written before. -/
def Settles (encoder : Encoder α) : Prop :=
  (∃ bs a, Writes encoder bs a) ∨ ∃ error, Fails encoder error

/-! ## Writing -/

/-- An encoder writes one sequence of bytes only. -/
theorem Writes.unique {encoder : Encoder α} {bs bs' : ByteArray} {a a' : α}
    (h : Writes encoder bs a) (h' : Writes encoder bs' a') : bs = bs' ∧ a = a' := by
  have heq := (h .empty).symm.trans (h' .empty)
  injection heq with ha hbs
  rw [ByteArray.empty_append, ByteArray.empty_append] at hbs
  exact ⟨hbs, ha⟩

theorem writes_pure (a : α) : Writes (pure a) .empty a := by
  intro out
  rw [ByteArray.append_empty]
  rfl

theorem writes_put (bs : ByteArray) : Writes (put bs) bs () := fun _ => rfl

theorem ofExcept_ok (a : α) : ofExcept (.ok a) = pure a := rfl

theorem ofExcept_error_bind (error : CodecError) (next : α → Encoder β) :
    ofExcept (.error error) >>= next = throw error := rfl

theorem writes_ofExcept {result : Except CodecError α} {a : α} (h : result = .ok a) :
    Writes (ofExcept result) .empty a := by
  intro out
  rw [h, ByteArray.append_empty]
  rfl

theorem writes_ofExcept_iff {result : Except CodecError α} {bs : ByteArray} {a : α} :
    Writes (ofExcept result) bs a ↔ result = .ok a ∧ bs = .empty := by
  constructor
  · intro h
    cases result with
    | ok a' =>
      obtain ⟨rfl, rfl⟩ := h.unique (writes_ofExcept rfl)
      exact ⟨rfl, rfl⟩
    | error e => exact absurd (h .empty) nofun
  · rintro ⟨hok, rfl⟩
    exact writes_ofExcept hok

theorem writes_putResult {result : Except WireError ByteArray} {bs : ByteArray}
    (h : result = .ok bs) : Writes (putResult result) bs () := by
  intro out
  rw [h]
  rfl

theorem writes_putResult_iff {result : Except WireError ByteArray} {bs : ByteArray} :
    Writes (putResult result) bs () ↔ result = .ok bs := by
  constructor
  · intro h
    cases result with
    | ok bs' =>
      obtain ⟨rfl, -⟩ := h.unique (writes_putResult rfl)
      rfl
    | error e => exact absurd (h .empty) nofun
  · exact writes_putResult

/-- The bytes of encoders one after the other stand one after the other. -/
theorem Writes.bind {encoder : Encoder α} {next : α → Encoder β} {bs bs' : ByteArray} {a : α} {b : β}
    (h : Writes encoder bs a) (h' : Writes (next a) bs' b) :
    Writes (encoder >>= next) (bs ++ bs') b := by
  intro out
  show EStateM.bind encoder next out = _
  simp only [EStateM.bind, h out, h' (out ++ bs)]
  rw [ByteArray.append_assoc]

/-- Two loops do the same if they do so item by item. -/
theorem forM_congr {f : α → Encoder Unit} {g : β → Encoder Unit} {as : List α}
    {bs : List β} (h : List.Forall₂ (fun a b => f a = g b) as bs) : as.forM f = bs.forM g := by
  induction h with
  | nil => rfl
  | cons hab _ ih =>
    rw [List.forM_eq_forM, List.forM_eq_forM] at ih ⊢
    rw [List.forM_cons, List.forM_cons, hab, ih]

/-! ## Settling -/

/-- An encoder that fails writes nothing. -/
theorem Fails.not_writes {encoder : Encoder α} {error : CodecError} (h : Fails encoder error)
    {bs : ByteArray} {a : α} : ¬ Writes encoder bs a := by
  intro hw
  obtain ⟨out', hf⟩ := h .empty
  rw [hw .empty] at hf
  cases hf

theorem fails_throw (error : CodecError) : Fails (throw error : Encoder α) error :=
  fun out => ⟨out, rfl⟩

theorem settles_throw (error : CodecError) : Settles (throw error : Encoder α) :=
  Or.inr ⟨error, fails_throw error⟩

theorem settles_pure (a : α) : Settles (pure a : Encoder α) := Or.inl ⟨_, a, writes_pure a⟩

theorem settles_put (bs : ByteArray) : Settles (put bs) := Or.inl ⟨bs, (), writes_put bs⟩

theorem settles_ofExcept (result : Except CodecError α) : Settles (ofExcept result) := by
  cases result with
  | ok a => exact Or.inl ⟨_, a, writes_ofExcept rfl⟩
  | error e => exact Or.inr ⟨e, fun out => ⟨out, rfl⟩⟩

theorem settles_putResult (result : Except WireError ByteArray) : Settles (putResult result) := by
  cases result with
  | ok bs => exact Or.inl ⟨bs, (), writes_putResult rfl⟩
  | error e => exact Or.inr ⟨.wire e, fun out => ⟨out, rfl⟩⟩

theorem Fails.bind {encoder : Encoder α} {error : CodecError} (h : Fails encoder error)
    (next : α → Encoder β) : Fails (encoder >>= next) error := by
  intro out
  obtain ⟨out', he⟩ := h out
  refine ⟨out', ?_⟩
  show EStateM.bind encoder next out = _
  simp only [EStateM.bind, he]

/-- An encoder fails as a whole if it fails after it has written something. -/
theorem Writes.bind_fails {encoder : Encoder α} {next : α → Encoder β} {bs : ByteArray} {a : α}
    {error : CodecError} (h : Writes encoder bs a) (h' : Fails (next a) error) :
    Fails (encoder >>= next) error := by
  intro out
  obtain ⟨out', he⟩ := h' (out ++ bs)
  refine ⟨out', ?_⟩
  show EStateM.bind encoder next out = _
  simp only [EStateM.bind, h out, he]

/-- Encoders that follow one another settle if each of them does. -/
theorem Settles.bind {encoder : Encoder α} {next : α → Encoder β} (h : Settles encoder)
    (h' : ∀ a, Settles (next a)) : Settles (encoder >>= next) := by
  rcases h with ⟨bs, a, hw⟩ | ⟨e, hf⟩
  · rcases h' a with ⟨bs', b, hw'⟩ | ⟨e, hf'⟩
    · exact Or.inl ⟨bs ++ bs', b, hw.bind hw'⟩
    · exact Or.inr ⟨e, hw.bind_fails hf'⟩
  · exact Or.inr ⟨e, hf.bind next⟩

/-- A loop settles if it does so with each item. -/
theorem settles_forM {f : α → Encoder Unit} {as : List α} (h : ∀ a ∈ as, Settles (f a)) :
    Settles (as.forM f) := by
  induction as with
  | nil => exact settles_pure ()
  | cons a as ih =>
    rw [List.forM_eq_forM, List.forM_cons]
    exact (h a List.mem_cons_self).bind fun _ => ih fun b hb => h b (List.mem_cons_of_mem a hb)

/-- The same of a loop that hands something on from item to item. -/
theorem settles_foldlM {f : β → α → Encoder β} {as : List α} (h : ∀ b, ∀ a ∈ as, Settles (f b a))
    (b : β) : Settles (as.foldlM f b) := by
  induction as generalizing b with
  | nil => exact settles_pure b
  | cons a as ih =>
    rw [List.foldlM_cons]
    exact (h b a List.mem_cons_self).bind fun c =>
      ih (fun b' a' ha' => h b' a' (List.mem_cons_of_mem a ha')) c

/-- The bytes that an encoder has written once it always writes. -/
theorem Settles.writes_of_ok {encoder : Encoder α} (h : Settles encoder) {a : α} {bs : ByteArray}
    (hok : encoder .empty = .ok a bs) : Writes encoder bs a := by
  rcases h with ⟨bs', a', hw⟩ | ⟨e, hf⟩
  · have heq := (hw .empty).symm.trans hok
    injection heq with ha hbs
    rw [ByteArray.empty_append] at hbs
    rwa [← ha, ← hbs]
  · obtain ⟨out', he⟩ := hf .empty
    rw [hok] at he
    cases he

/-- The bytes of two encoders one after the other are the bytes of each. -/
theorem writes_bind_iff {encoder : Encoder α} {next : α → Encoder β} (h : Settles encoder)
    (h' : ∀ a, Settles (next a)) {bs : ByteArray} {b : β} :
    Writes (encoder >>= next) bs b ↔
      ∃ first a rest, Writes encoder first a ∧ Writes (next a) rest b ∧ bs = first ++ rest := by
  constructor
  · intro hw
    rcases h with ⟨first, a, hfirst⟩ | ⟨e, hf⟩
    · rcases h' a with ⟨rest, b', hrest⟩ | ⟨e, hf⟩
      · obtain ⟨rfl, rfl⟩ := hw.unique (hfirst.bind hrest)
        exact ⟨first, a, rest, hfirst, hrest, rfl⟩
      · exact absurd hw (hfirst.bind_fails hf).not_writes
    · exact absurd hw (hf.bind next).not_writes
  · rintro ⟨first, a, rest, hfirst, hrest, rfl⟩
    exact hfirst.bind hrest

/-- The same where the first encoder gives nothing to the second. -/
theorem writes_seq_iff {encoder : Encoder Unit} {next : Encoder β} (h : Settles encoder)
    (h' : Settles next) {bs : ByteArray} {b : β} :
    Writes (encoder >>= fun _ => next) bs b ↔
      ∃ first rest, Writes encoder first () ∧ Writes next rest b ∧ bs = first ++ rest := by
  rw [writes_bind_iff h fun _ => h']
  constructor
  · rintro ⟨first, ⟨⟩, rest, hfirst, hrest, heq⟩
    exact ⟨first, rest, hfirst, hrest, heq⟩
  · rintro ⟨first, rest, hfirst, hrest, heq⟩
    exact ⟨first, (), rest, hfirst, hrest, heq⟩

/-! ## Loops -/

/-- A loop writes something if it does so with each item. -/
theorem exists_writes_forM {f : α → Encoder Unit} {as : List α}
    (h : ∀ a ∈ as, ∃ bs, Writes (f a) bs ()) : ∃ bs, Writes (as.forM f) bs () := by
  induction as with
  | nil => exact ⟨_, writes_pure ()⟩
  | cons a as ih =>
    obtain ⟨first, hfirst⟩ := h a List.mem_cons_self
    obtain ⟨rest, hrest⟩ := ih fun b hb => h b (List.mem_cons_of_mem a hb)
    refine ⟨first ++ rest, ?_⟩
    rw [List.forM_eq_forM, List.forM_cons]
    exact hfirst.bind hrest

/-- If a loop has written something, so has each of its items. -/
theorem Writes.of_mem {f : α → Encoder Unit} (hsettles : ∀ a, Settles (f a)) {as : List α}
    {bs : ByteArray} (h : Writes (as.forM f) bs ()) {a : α} (ha : a ∈ as) :
    ∃ bs', Writes (f a) bs' () := by
  induction as generalizing bs with
  | nil => cases ha
  | cons first as ih =>
    rw [List.forM_eq_forM, List.forM_cons] at h
    obtain ⟨bs', rest, hfirst, hrest, rfl⟩ :=
      (writes_seq_iff (hsettles first) (settles_forM fun a _ => hsettles a)).mp h
    rcases List.mem_cons.mp ha with rfl | ha
    · exact ⟨bs', hfirst⟩
    · exact ih hrest ha

end Encoder

open Encoder

/-! ## Values and objects -/

/-- Writing a value settles if writing the objects in it does. -/
theorem Codec.settles_write {deeper : Value → Encoder Unit} (h : ∀ value, Settles (deeper value))
    (codec : Codec) (value : Value) : Settles (codec.write deeper value) := by
  induction codec generalizing value with
  | vector tag element ih =>
    cases value with
    | vector items =>
      exact (settles_put _).bind fun _ => (settles_put _).bind fun _ =>
        settles_forM fun item _ => ih item
    | _ => exact settles_throw _
  | string =>
    cases value with
    | string text => exact settles_putResult _
    | _ => exact settles_throw _
  | object typeName =>
    cases value with
    | object name fields => exact h _
    | _ => exact settles_throw _
  | boolean =>
    cases value with
    | bool b => exact settles_put _
    | _ => exact settles_throw _
  | int32 =>
    cases value with
    | int n => exact settles_put _
    | _ => exact settles_throw _
  | int64 =>
    cases value with
    | long n => exact settles_put _
    | _ => exact settles_throw _

theorem Plan.settles_writeField {deeper : Value → Encoder Unit}
    (h : ∀ value, Settles (deeper value)) (plan : Plan) (object : Value) (field : String)
    (codec : Codec) : Settles (plan.writeField deeper object field codec) := by
  unfold writeField
  split
  · exact codec.settles_write h _
  · split
    · exact codec.settles_write h _
    · exact settles_throw _

namespace Registry

variable (registry : Registry)

/-- One step of a plan settles, whatever flags have been set before it. -/
theorem settles_writeStep (levels : Nat) {deeper : Value → Encoder Unit}
    (h : ∀ value, Settles (deeper value)) (plan : Plan) (object : Value)
    (flags? : Option (String × UInt32)) (step : EncodeStep) :
    Settles (registry.writeStep levels deeper plan object flags? step) := by
  have hfield := plan.settles_writeField h object
  cases step with
  | writeConstructor id => exact (settles_put _).bind fun _ => settles_pure _
  | recomputeFlags flagsField bindings => exact (settles_ofExcept _).bind fun _ => settles_pure _
  | write field codec =>
    unfold writeStep
    cases flags? with
    | none => exact (hfield field codec).bind fun _ => settles_pure _
    | some flags =>
      dsimp only
      split_ifs
      · exact (settles_put _).bind fun _ => settles_pure _
      · exact (hfield field codec).bind fun _ => settles_pure _
  | writeIfFlag bit field codec =>
    unfold writeStep
    dsimp only
    split_ifs
    · exact (hfield field codec).bind fun _ => settles_pure _
    · exact settles_pure _

/-- Writing an object settles if writing the objects in it does. -/
theorem settles_writeObjectWith (levels : Nat) {deeper : Value → Encoder Unit}
    (h : ∀ value, Settles (deeper value)) (value : Value) :
    Settles (registry.writeObjectWith levels deeper value) := by
  cases value with
  | object typeName fields =>
    refine (settles_ofExcept _).bind fun plan => Settles.bind ?_ fun _ => settles_pure _
    exact settles_foldlM (fun flags? step _ =>
      registry.settles_writeStep levels h plan _ flags? step) none
  | _ => exact settles_throw _

/-- Writing an object settles at every depth, by induction on the levels left. -/
theorem settles_writeObject (levels : Nat) (value : Value) :
    Settles (registry.writeObject levels value) := by
  induction levels generalizing value with
  | zero => exact registry.settles_writeObjectWith 0 (fun _ => settles_throw _) value
  | succ levels ih => exact registry.settles_writeObjectWith (levels + 1) ih value

/-- The bytes of an object are what its encoder writes. -/
theorem encode_eq_ok {value : Value} {bs : ByteArray} :
    registry.encode value = .ok bs ↔ Writes (registry.writeObject maxNesting value) bs () := by
  have hsettles := registry.settles_writeObject maxNesting value
  unfold encode encodeInto
  constructor
  · intro h
    cases hw : registry.writeObject maxNesting value .empty with
    | ok a out =>
      rw [hw] at h
      cases h
      exact hsettles.writes_of_ok hw
    | error e out =>
      rw [hw] at h
      cases h
  · intro h
    rw [h .empty, ByteArray.empty_append]

end Registry

end TlSchema
