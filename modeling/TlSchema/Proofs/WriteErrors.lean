import TlSchema.Proofs.Appending

/-!
# Errors of writing

An encoder writes its bytes or fails, whatever has been written before. `SettlesWithin` also says
which errors it may fail with, and is kept when encoders follow one another. A value fails to be
written because it is of another kind than its codec, because a text in it is too long, or because
an object in it fails.
-/

namespace TlSchema

namespace Encoder

variable {α β : Type} {allowed : CodecError → Prop}

/-- The encoder appends the same bytes whatever has been written before, or it fails with the same
error, and that one is allowed. -/
def SettlesWithin (allowed : CodecError → Prop) (encoder : Encoder α) : Prop :=
  (∃ bs a, Writes encoder bs a) ∨ ∃ error, Fails encoder error ∧ allowed error

theorem Writes.settlesWithin {encoder : Encoder α} {bs : ByteArray} {a : α}
    (h : Writes encoder bs a) : SettlesWithin allowed encoder :=
  Or.inl ⟨bs, a, h⟩

theorem SettlesWithin.mono {allowed' : CodecError → Prop} {encoder : Encoder α}
    (h : SettlesWithin allowed encoder) (himp : ∀ error, allowed error → allowed' error) :
    SettlesWithin allowed' encoder := by
  rcases h with hw | ⟨error, hf, hallowed⟩
  · exact Or.inl hw
  · exact Or.inr ⟨error, hf, himp error hallowed⟩

theorem settlesWithin_throw {error : CodecError} (h : allowed error) :
    SettlesWithin allowed (throw error : Encoder α) :=
  Or.inr ⟨error, fails_throw error, h⟩

theorem settlesWithin_ofExcept {result : Except CodecError α}
    (h : ∀ error, result = .error error → allowed error) :
    SettlesWithin allowed (ofExcept result) := by
  cases result with
  | ok a => exact (writes_ofExcept rfl).settlesWithin
  | error e => exact settlesWithin_throw (h e rfl)

theorem settlesWithin_putResult {result : Except WireError ByteArray}
    (h : ∀ error, result = .error error → allowed (.wire error)) :
    SettlesWithin allowed (putResult result) := by
  cases result with
  | ok bs => exact (writes_putResult rfl).settlesWithin
  | error e => exact Or.inr ⟨.wire e, fun out => ⟨out, rfl⟩, h e rfl⟩

/-- What follows need only be right about what the first encoder can give. -/
theorem SettlesWithin.bind {encoder : Encoder α} {next : α → Encoder β}
    (h : SettlesWithin allowed encoder)
    (h' : ∀ bs a, Writes encoder bs a → SettlesWithin allowed (next a)) :
    SettlesWithin allowed (encoder >>= next) := by
  rcases h with ⟨bs, a, hw⟩ | ⟨error, hf, hallowed⟩
  · rcases h' bs a hw with ⟨bs', b, hw'⟩ | ⟨error, hf, hallowed⟩
    · exact (hw.bind hw').settlesWithin
    · exact Or.inr ⟨error, hw.bind_fails hf, hallowed⟩
  · exact Or.inr ⟨error, hf.bind next, hallowed⟩

theorem settlesWithin_forM {f : α → Encoder Unit} {as : List α}
    (h : ∀ a ∈ as, SettlesWithin allowed (f a)) : SettlesWithin allowed (as.forM f) := by
  induction as with
  | nil => exact (writes_pure ()).settlesWithin
  | cons a as ih =>
    rw [List.forM_eq_forM, List.forM_cons]
    exact (h a List.mem_cons_self).bind fun _ _ _ => ih fun b hb => h b (List.mem_cons_of_mem a hb)

theorem settlesWithin_foldlM {f : β → α → Encoder β} {as : List α}
    (h : ∀ b, ∀ a ∈ as, SettlesWithin allowed (f b a)) (b : β) :
    SettlesWithin allowed (as.foldlM f b) := by
  induction as generalizing b with
  | nil => exact (writes_pure b).settlesWithin
  | cons a as ih =>
    rw [List.foldlM_cons]
    exact (h b a List.mem_cons_self).bind fun _ c _ =>
      ih (fun b' a' ha' => h b' a' (List.mem_cons_of_mem a ha')) c

end Encoder

open Encoder

/-- Writing fails with errors that are allowed only, where `holds` is what is known of values and
the codecs they are written by: it passes from a list to its items, and each failure that it leaves
open is allowed. -/
theorem Codec.settlesWithin_write {allowed : CodecError → Prop} {deeper : Value → Encoder Unit}
    (holds : Codec → Value → Prop)
    (hkind : ∀ codec value, holds codec value → codec.kind ≠ value.kind →
      allowed (.shape codec.kind value.kind))
    (htext : ∀ text, holds .string (.string text) → ∀ error, Wire.stringBytes text = .error error →
      allowed (.wire error))
    (hitems : ∀ tag element items, holds (.vector tag element) (.vector items) →
      ∀ item ∈ items, holds element item)
    (hobject : ∀ entry typeName fields, holds (.object entry) (.object typeName fields) →
      SettlesWithin allowed (deeper (.object typeName fields)))
    {codec : Codec} {value : Value} (h : holds codec value) :
    SettlesWithin allowed (codec.write deeper value) := by
  have hother : codec.kind ≠ value.kind →
      SettlesWithin allowed (throw (.shape codec.kind value.kind) : Encoder Unit) :=
    fun hne => settlesWithin_throw (hkind codec value h hne)
  induction codec generalizing value with
  | string =>
    cases value with
    | string text => exact settlesWithin_putResult (htext text h)
    | _ => exact hother (by simp [Codec.kind, Value.kind])
  | boolean =>
    cases value with
    | bool b => exact (writes_put _).settlesWithin
    | _ => exact hother (by simp [Codec.kind, Value.kind])
  | int32 =>
    cases value with
    | int n => exact (writes_put _).settlesWithin
    | _ => exact hother (by simp [Codec.kind, Value.kind])
  | int64 =>
    cases value with
    | long n => exact (writes_put _).settlesWithin
    | _ => exact hother (by simp [Codec.kind, Value.kind])
  | vector tag element ih =>
    cases value with
    | vector items =>
      refine (writes_put _).settlesWithin.bind fun _ _ _ => ?_
      refine (writes_put _).settlesWithin.bind fun _ _ _ => ?_
      refine settlesWithin_forM fun item hitem => ?_
      have hholds := hitems tag element items h item hitem
      exact ih hholds fun hne => settlesWithin_throw (hkind element item hholds hne)
    | _ => exact hother (by simp [Codec.kind, Value.kind])
  | object entry =>
    cases value with
    | object typeName fields => exact hobject entry typeName fields h
    | _ => exact hother (by simp [Codec.kind, Value.kind])

namespace Registry

/-- An object is written to bytes, or it fails with an error that is allowed. -/
theorem encode_error_of_settlesWithin {registry : Registry} {allowed : CodecError → Prop}
    {value : Value} (h : SettlesWithin allowed (registry.writeObject maxNesting value)) :
    (∃ bs, registry.encode value = .ok bs) ∨
      ∃ error, registry.encode value = .error error ∧ allowed error := by
  rcases h with ⟨bs, ⟨⟩, hw⟩ | ⟨error, hf, hallowed⟩
  · exact Or.inl ⟨bs, registry.encode_eq_ok.mpr hw⟩
  · obtain ⟨out, hrun⟩ := hf .empty
    refine Or.inr ⟨error, ?_, hallowed⟩
    simp only [encode, encodeInto, hrun]

end Registry

end TlSchema
