import TlSchema.Proofs.ReadErrors
import TlSchema.Proofs.RoundTrip

/-!
# Reading depends on what it consumes

A run of reading that succeeds depends on the bytes it has moved over, on all of them and on no
others. Whatever follows these bytes, the run is the same; and wherever the bytes are cut off before
their end, it asks for more than there are and fails. So no message is the beginning of another one,
and a message can be read from a stream that goes on behind it.

`Wire.Local` says so of one reader, it is kept when readers follow one another, and everything is
read through `Reader.bytes`.
-/

namespace TlSchema

namespace Wire

variable {ε ε' α β : Type} {short : ε → Prop}

/-- If the bytes `bs` are cut off before their end, the reader fails with an error that says so. -/
def RunsShort (short : ε → Prop) (reader : EStateM ε Cursor α) (bs : ByteArray) : Prop :=
  ∀ before start missing, bs = start ++ missing → missing ≠ .empty →
    ∃ error place, reader (.between before start) = .error error place ∧ short error

/-- A run of the reader that succeeds has taken the bytes it has moved over, and runs short with
less. -/
def Local (short : ε → Prop) (reader : EStateM ε Cursor α) : Prop :=
  ∀ before rest a place, reader (.between before rest) = .ok a place →
    ∃ bs after, rest = bs ++ after ∧ place = .between (before ++ bs) after ∧
      Takes reader bs a ∧ RunsShort short reader bs

/-- Of two ways to cut bytes in two, one cuts no later than the other. -/
theorem append_eq_append {a b c d : ByteArray} (h : a ++ b = c ++ d) :
    (∃ mid, c = a ++ mid ∧ b = mid ++ d) ∨ ∃ mid, a = c ++ mid ∧ d = mid ++ b := by
  have hdata : a.data ++ b.data = c.data ++ d.data := by
    rw [← ByteArray.data_append, ← ByteArray.data_append, h]
  rcases Array.append_eq_append_iff.mp hdata with ⟨mid, hc, hb⟩ | ⟨mid, ha, hd⟩
  · exact Or.inl ⟨⟨mid⟩, ByteArray.ext (by simpa using hc), ByteArray.ext (by simpa using hb)⟩
  · exact Or.inr ⟨⟨mid⟩, ByteArray.ext (by simpa using ha), ByteArray.ext (by simpa using hd)⟩

/-! ## Readers one after the other -/

/-- What moves over no bytes depends on none. -/
theorem Local.pure (a : α) : Local short (Pure.pure a : EStateM ε Cursor α) := by
  intro before rest a' place h
  cases h
  refine ⟨.empty, rest, by simp, by simp, Takes.pure a, ?_⟩
  intro before' start missing hcut hmissing
  have hsize : start.size + missing.size = 0 := by
    rw [← ByteArray.size_append, ← hcut]
    rfl
  exact absurd (ByteArray.size_eq_zero_iff.mp (by omega)) hmissing

theorem Local.throw (error : ε) : Local short (MonadExcept.throw error : EStateM ε Cursor α) := by
  intro before rest a place h
  cases h

/-- Where bytes are cut off, it is the reader in whose part they are cut that runs short. -/
theorem RunsShort.bind {reader : EStateM ε Cursor α} {next : α → EStateM ε Cursor β}
    {bs bs' : ByteArray} {a : α} (htakes : Takes reader bs a) (h : RunsShort short reader bs)
    (h' : RunsShort short (next a) bs') : RunsShort short (reader >>= next) (bs ++ bs') := by
  intro before start missing hcut hmissing
  rcases append_eq_append hcut with ⟨mid, rfl, hrest⟩ | ⟨mid, hfirst, rfl⟩
  · obtain ⟨error, place, hfails, hshort⟩ := h' (before ++ bs) mid missing hrest hmissing
    exact ⟨error, place, by rw [bind_of_ok (htakes before mid), hfails], hshort⟩
  · by_cases hmid : mid = .empty
    · -- cut between the two parts, the first reader succeeds and nothing is left for the second
      subst hmid
      rw [ByteArray.append_empty] at hfirst
      rw [ByteArray.empty_append] at hmissing
      subst hfirst
      obtain ⟨error, place, hfails, hshort⟩ := h' (before ++ bs) .empty bs' (by simp) hmissing
      have hrun := htakes before .empty
      rw [ByteArray.append_empty] at hrun
      exact ⟨error, place, by rw [bind_of_ok hrun, hfails], hshort⟩
    · obtain ⟨error, place, hfails, hshort⟩ := h before start mid hfirst hmid
      exact ⟨error, place, bind_of_error hfails next, hshort⟩

/-- Readers that follow one another depend on the bytes they move over if each of them does. -/
theorem Local.bind {reader : EStateM ε Cursor α} {next : α → EStateM ε Cursor β}
    (h : Local short reader) (h' : ∀ a, Local short (next a)) :
    Local short (reader >>= next) := by
  intro before rest b place hrun
  cases hfirst : reader (.between before rest) with
  | error e mid =>
    rw [bind_of_error hfirst] at hrun
    cases hrun
  | ok a mid =>
    rw [bind_of_ok hfirst] at hrun
    obtain ⟨bs, after, rfl, rfl, htakes, hshort⟩ := h before rest a mid hfirst
    obtain ⟨bs', after', rfl, rfl, htakes', hshort'⟩ := h' a (before ++ bs) after b place hrun
    refine ⟨bs ++ bs', after', ?_, ?_, htakes.bind htakes', hshort.bind htakes hshort'⟩
    · rw [ByteArray.append_assoc]
    · rw [ByteArray.append_assoc]

/-- The same with errors that are told in other words, if running short is still told. -/
theorem Local.adaptExcept {short' : ε' → Prop} {reader : EStateM ε Cursor α} {f : ε → ε'}
    (h : Local short reader) (hf : ∀ error, short error → short' (f error)) :
    Local short' (EStateM.adaptExcept f reader) := by
  intro before rest a place hrun
  unfold EStateM.adaptExcept at hrun
  split at hrun
  · cases hrun
  · rename_i hok
    cases hrun
    obtain ⟨bs, after, hrest, hplace, htakes, hshort⟩ := h before rest a place hok
    refine ⟨bs, after, hrest, hplace, htakes.adaptExcept f, ?_⟩
    intro before' start missing hcut hmissing
    obtain ⟨error, place', hfails, hshort⟩ := hshort before' start missing hcut hmissing
    refine ⟨f error, place', ?_, hf error hshort⟩
    simp only [EStateM.adaptExcept, hfails]

end Wire

/-! ## Items on the wire -/

/-- The error says that there are not as many bytes as are needed. -/
def WireError.IsUnderflow : WireError → Prop
  | .underflow _ _ _ => True
  | _ => False

/-- The error says that there are not as many bytes as are needed. -/
def CodecError.IsUnderflow : CodecError → Prop
  | .wire error => error.IsUnderflow
  | _ => False

theorem CodecError.IsUnderflow.eq {error : CodecError} (h : error.IsUnderflow) :
    ∃ needed offset available, error = .wire (.underflow needed offset available) := by
  cases error with
  | wire error =>
    cases error with
    | underflow needed offset available => exact ⟨needed, offset, available, rfl⟩
    | _ => exact h.elim
  | _ => exact h.elim

namespace Wire

/-- Bytes are taken as many as asked for, and asking for more than there are fails. -/
theorem local_bytes (n : Nat) : Local WireError.IsUnderflow (Reader.bytes n) := by
  intro before rest a place h
  unfold Reader.bytes at h
  split at h
  next hle =>
    rw [Cursor.remaining_between] at hle
    obtain ⟨bs, after, rfl, rfl⟩ := exists_append_of_le hle
    have hrun := takes_bytes bs before after
    rw [Reader.bytes, dif_pos (by rwa [Cursor.remaining_between])] at hrun
    cases h
    injection hrun with hbytes hplace
    refine ⟨bs, after, rfl, hplace, ?_, ?_⟩
    · rw [hbytes]
      exact takes_bytes bs
    · intro before' start missing hcut hmissing
      have hpos : missing.size ≠ 0 := mt ByteArray.size_eq_zero_iff.mp hmissing
      have hn : start.size + missing.size = bs.size := by rw [← ByteArray.size_append, ← hcut]
      have hfew : ¬ bs.size ≤ (Cursor.between before' start).remaining := by
        rw [Cursor.remaining_between]
        omega
      unfold Reader.bytes
      rw [dif_neg hfew]
      exact ⟨_, _, rfl, trivial⟩
  next => cases h

theorem local_number (width : Nat) : Local WireError.IsUnderflow (Reader.number width) :=
  (local_bytes width).bind fun _ => .pure _

theorem local_uint32 : Local WireError.IsUnderflow Reader.uint32 :=
  (local_number 4).bind fun _ => .pure _

theorem local_int32 : Local WireError.IsUnderflow Reader.int32 :=
  local_uint32.bind fun _ => .pure _

theorem local_int64 : Local WireError.IsUnderflow Reader.int64 :=
  (local_number 8).bind fun _ => .pure _

theorem local_bool : Local WireError.IsUnderflow Reader.bool := by
  refine local_uint32.bind fun word => ?_
  split_ifs
  · exact .pure true
  · exact .pure false
  · exact .throw _

theorem local_lengthHeader : Local WireError.IsUnderflow Reader.lengthHeader := by
  refine ((local_number 1).bind fun _ => .pure _).bind fun first => ?_
  split_ifs
  · exact .pure _
  · exact (local_number 3).bind fun _ => .pure _

/-- A text is read as its length and then as many bytes as the length says, with their padding. -/
theorem local_string : Local WireError.IsUnderflow Reader.string := by
  have hpayload : Local WireError.IsUnderflow Reader.payload := by
    refine local_lengthHeader.bind fun length => ?_
    obtain ⟨size, header⟩ := length
    exact (local_bytes size).bind fun _ => (local_bytes _).bind fun _ => .pure _
  exact hpayload.bind fun _ => .pure _

end Wire

/-! ## Values and objects -/

open Wire

theorem Decoder.local_wire {α : Type} {reader : Reader α}
    (h : Local WireError.IsUnderflow reader) :
    Local CodecError.IsUnderflow (Decoder.wire reader) :=
  h.adaptExcept fun _ hshort => hshort

theorem Decoder.local_ofExcept {α : Type} (result : Except CodecError α) :
    Local CodecError.IsUnderflow (Decoder.ofExcept result) := by
  cases result with
  | ok a => exact .pure a
  | error e => exact .throw e

section

variable {deeper : String → Decoder Value}

/-- A list depends on the bytes of its items, by induction on how many are left to be read. -/
theorem local_readItems {read : Decoder (Option Value)} (h : Local CodecError.IsUnderflow read)
    (count : Nat) (items : Array Value) :
    Local CodecError.IsUnderflow (readItems read count items) := by
  induction count generalizing items with
  | zero => exact .pure _
  | succ count ih =>
    refine h.bind fun item? => ?_
    cases item? with
    | some item => exact ih (items.push item)
    | none => exact .pure none

/-- A value depends on the bytes it moves over if that is so for the objects in it. -/
theorem Codec.local_read (hdeeper : ∀ name, Local CodecError.IsUnderflow (deeper name))
    (owner : String) (strict : Bool) (codec : Codec) :
    Local CodecError.IsUnderflow (codec.read deeper owner strict) := by
  induction codec with
  | string => exact (Decoder.local_wire local_string).bind fun _ => .pure _
  | boolean => exact (Decoder.local_wire local_bool).bind fun _ => .pure _
  | int32 => exact (Decoder.local_wire local_int32).bind fun _ => .pure _
  | int64 => exact (Decoder.local_wire local_int64).bind fun _ => .pure _
  | object typeName => exact (hdeeper typeName).bind fun _ => .pure _
  | vector tag element ih =>
    refine (Decoder.local_wire local_uint32).bind fun found => ?_
    by_cases htag : found = tag
    · rw [if_pos htag]
      refine (Decoder.local_wire local_int32).bind fun count => ?_
      exact (local_readItems ih _ _).bind fun _ => .pure _
    -- a wrong tag ends the list at once, and either way nothing more is read
    · rw [if_neg htag]
      cases strict with
      | true => exact .throw _
      | false => exact .pure none

/-- Fields are read one after the other, and a guard that leaves one out reads nothing. -/
theorem local_readFields (hdeeper : ∀ name, Local CodecError.IsUnderflow (deeper name))
    (owner : String) (strict : Bool) (steps : List DecodeStep) (object : Value) :
    Local CodecError.IsUnderflow (readFields deeper owner strict steps object) := by
  induction steps generalizing object with
  | nil => exact .pure object
  | cons step steps ih =>
    have hread : ∀ field codec, Local CodecError.IsUnderflow
        (readFields deeper owner strict (.read field codec :: steps) object) := by
      intro field codec
      refine (codec.local_read hdeeper owner strict).bind fun value? => ?_
      cases value? with
      | some value => exact ih (object.set field value)
      | none => exact .pure object
    cases step with
    | read field codec => exact hread field codec
    | readIfFlag bit field codec =>
      rw [readFields_readIfFlag]
      split_ifs
      · exact hread field codec
      · exact ih object

end

namespace Registry

variable (registry : Registry)

/-- An object depends on the bytes it moves over if that is so for the objects in it. -/
theorem local_readObjectWith {deeper : String → Decoder Value}
    (hdeeper : ∀ name, Local CodecError.IsUnderflow (deeper name)) (strict : Bool)
    (typeName : String) (tag : UInt32) :
    Local CodecError.IsUnderflow (registry.readObjectWith strict deeper typeName tag) := by
  refine (Decoder.local_ofExcept _).bind fun plan? => ?_
  cases plan? with
  | none => exact .pure none
  | some plan =>
    refine (Decoder.local_ofExcept _).bind fun unset => ?_
    exact (local_readFields hdeeper plan.typeName strict plan.decode unset).bind fun _ => .pure _

theorem local_readNested {read : String → UInt32 → Decoder (Option Value)}
    (hread : ∀ name tag, Local CodecError.IsUnderflow (read name tag)) (typeName : String) :
    Local CodecError.IsUnderflow (registry.readNested read typeName) := by
  refine (Decoder.local_wire local_uint32).bind fun tag => (hread typeName tag).bind fun found => ?_
  cases found with
  | some object => exact .pure object
  | none => exact Decoder.local_ofExcept _

/-- Objects depend on the bytes they move over at every depth, by induction on the levels left. -/
theorem local_readObject (strict : Bool) (levels : Nat) (typeName : String) (tag : UInt32) :
    Local CodecError.IsUnderflow (registry.readObject strict levels typeName tag) := by
  induction levels generalizing typeName tag with
  | zero => exact registry.local_readObjectWith (fun _ => .throw _) strict typeName tag
  | succ levels ih =>
    exact registry.local_readObjectWith (registry.local_readNested ih) strict typeName tag

theorem local_decodeNext (typeName : String) (strict : Bool) :
    Local CodecError.IsUnderflow (registry.decodeNext typeName strict) :=
  (Decoder.local_wire local_uint32).bind fun tag =>
    registry.local_readObject strict maxNesting typeName tag

/-- What is decoded depends on the bytes that are consumed: they decode to the same with any bytes
behind them, and none of their beginnings decodes, because each runs out of bytes. -/
theorem decode_of_consumed (typeName : String) (strict : Bool) {bytes : ByteArray}
    {found : Option Value} {place : Cursor}
    (h : registry.decodeNext typeName strict (.ofBytes bytes) = .ok found place) :
    (∀ more, registry.decode (bytes.extract 0 place.index ++ more) typeName strict = .ok found ∧
        ∃ place', registry.decodeNext typeName strict
            (.ofBytes (bytes.extract 0 place.index ++ more)) = .ok found place' ∧
          place'.index = place.index) ∧
      ∀ size < place.index, ∃ needed offset available,
        registry.decode (bytes.extract 0 size) typeName strict
          = .error (.wire (.underflow needed offset available)) := by
  rw [Cursor.ofBytes_eq] at h
  obtain ⟨bs, after, rfl, rfl, htakes, hshort⟩ :=
    registry.local_decodeNext typeName strict .empty bytes found place h
  have hindex : (Cursor.between (.empty ++ bs) after).index = bs.size := by simp
  rw [hindex, ByteArray.extract_append_eq_left rfl]
  constructor
  · intro more
    have hrun := htakes .empty more
    rw [← Cursor.ofBytes_eq] at hrun
    refine ⟨?_, _, hrun, hindex⟩
    simp only [decode, hrun]
  · intro size hsize
    have hstart : (bs ++ after).extract 0 size = bs.extract 0 size := by
      rw [ByteArray.extract_append, show size - bs.size = 0 by omega, Nat.zero_sub]
      simp
    have hcut : bs = bs.extract 0 size ++ bs.extract size bs.size := by
      rw [← ByteArray.extract_eq_extract_append_extract size (Nat.zero_le _) (by omega),
        ByteArray.extract_zero_size]
    have hmissing : bs.extract size bs.size ≠ .empty := by
      intro hempty
      have hzero := congrArg ByteArray.size hempty
      rw [ByteArray.size_extract] at hzero
      simp only [ByteArray.size_empty] at hzero
      omega
    obtain ⟨error, place, hfails, hunder⟩ := hshort .empty _ _ hcut hmissing
    obtain ⟨needed, offset, available, rfl⟩ := hunder.eq
    refine ⟨needed, offset, available, ?_⟩
    rw [← Cursor.ofBytes_eq] at hfails
    simp only [hstart, decode, hfails]

end Registry

namespace Example

/-- An object of `a.p` and one byte more. -/
def message : ByteArray :=
  [1, 0, 0, 0, 1, 0, 0, 0, 5, 0, 0, 0, 3, 0, 0, 0, 0xb5, 0x75, 0x72, 0x99, 0x15, 0xc4, 0xb5, 0x1c,
    0, 0, 0, 0, 7].toByteArray

/-- The object in it. -/
def object : Value := .object "a_P" [("flags", .int 1), ("names", .vector []),
  ("q", .object "a_Q" []), ("x", .int 5), ("z", nested)]

theorem decode_of_consumed_message :
    ∃ place, unit.registry.decodeNext "a_P" true (.ofBytes message) = .ok (some object) place ∧
      place.index = 28 ∧
      (∀ more, unit.registry.decode (message.extract 0 28 ++ more) "a_P" true = .ok (some object)) ∧
      ∃ needed offset available, unit.registry.decode (message.extract 0 27) "a_P" true
        = .error (.wire (.underflow needed offset available)) := by
  have hrun : unit.registry.decodeNext "a_P" true (.ofBytes message)
      = .ok (some object) ⟨message, 28, by decide⟩ := rfl
  obtain ⟨hmore, hless⟩ := unit.registry.decode_of_consumed "a_P" true hrun
  exact ⟨_, hrun, rfl, fun more => (hmore more).1, hless 27 (by decide)⟩

end Example

end TlSchema
