import Mathlib.Algebra.Group.Nat.Defs
import TlSchema.Wire.Writer

/-!
# Reading back what was written

A reader takes bytes as a value if, wherever these bytes stand and whatever follows them, it gives
the value and moves to the place behind them. The reader of every kind of value takes the bytes that
are written for it, and readers that follow one another take bytes that follow one another.
-/

namespace TlSchema.Wire

/-! ## Places -/

namespace Cursor

/-- The place between the bytes `before` and the bytes `after`. -/
def between (before after : ByteArray) : Cursor :=
  ⟨before ++ after, before.size, by rw [ByteArray.size_append]; omega⟩

@[simp] theorem data_between (before after : ByteArray) :
    (between before after).data = before ++ after := rfl

@[simp] theorem index_between (before after : ByteArray) :
    (between before after).index = before.size := rfl

@[simp] theorem remaining_between (before after : ByteArray) :
    (between before after).remaining = after.size := by
  simp [remaining]

@[ext] theorem ext {c c' : Cursor} (hd : c.data = c'.data) (hi : c.index = c'.index) : c = c' := by
  obtain ⟨data, index, _⟩ := c
  obtain ⟨data', index', _⟩ := c'
  cases hd
  cases hi
  rfl

/-- Moving forward by some bytes moves them from behind the place to before it. -/
theorem skip_between (before bs after : ByteArray)
    (h : bs.size ≤ (between before (bs ++ after)).remaining) :
    (between before (bs ++ after)).skip bs.size h = between (before ++ bs) after := by
  ext1
  · simp [skip, between, ByteArray.append_assoc]
  · simp [skip]

theorem ofBytes_eq (data : ByteArray) : ofBytes data = between .empty data := by
  ext1
  · simp [ofBytes]
  · simp [ofBytes]

end Cursor

/-! ## Taking bytes -/

variable {ε α β : Type}

theorem bind_of_ok {reader : EStateM ε Cursor α} {cursor place : Cursor} {a : α}
    (h : reader cursor = .ok a place) (next : α → EStateM ε Cursor β) :
    (reader >>= next) cursor = next a place := by
  show EStateM.bind reader next cursor = _
  simp only [EStateM.bind, h]

theorem bind_of_error {reader : EStateM ε Cursor α} {cursor place : Cursor} {error : ε}
    (h : reader cursor = .error error place) (next : α → EStateM ε Cursor β) :
    (reader >>= next) cursor = .error error place := by
  show EStateM.bind reader next cursor = _
  simp only [EStateM.bind, h]

theorem bind_eq_ok {reader : EStateM ε Cursor α} {next : α → EStateM ε Cursor β}
    {cursor place : Cursor} {b : β} :
    (reader >>= next) cursor = .ok b place ↔
      ∃ a mid, reader cursor = .ok a mid ∧ next a mid = .ok b place := by
  cases h : reader cursor with
  | ok a mid =>
    rw [bind_of_ok h]
    constructor
    · intro hnext
      exact ⟨a, mid, rfl, hnext⟩
    · rintro ⟨a', mid', heq, hnext⟩
      cases heq
      exact hnext
  | error e mid =>
    rw [bind_of_error h]
    constructor
    · intro hnext
      cases hnext
    · rintro ⟨a, mid', heq, -⟩
      cases heq

/-- The reader gives `a` for the bytes `bs` and moves behind them, wherever they stand. -/
def Takes (reader : EStateM ε Cursor α) (bs : ByteArray) (a : α) : Prop :=
  ∀ before after, reader (.between before (bs ++ after)) = .ok a (.between (before ++ bs) after)

theorem Takes.pure (a : α) : Takes (Pure.pure a : EStateM ε Cursor α) .empty a := by
  intro before after
  simp only [ByteArray.empty_append, ByteArray.append_empty]
  rfl

/-- Readers one after the other take bytes one after the other. -/
theorem Takes.bind {reader : EStateM ε Cursor α} {next : α → EStateM ε Cursor β}
    {bs bs' : ByteArray} {a : α} {b : β} (h : Takes reader bs a) (h' : Takes (next a) bs' b) :
    Takes (reader >>= next) (bs ++ bs') b := by
  intro before after
  rw [ByteArray.append_assoc, bind_of_ok (h before (bs' ++ after)), h' (before ++ bs) after,
    ByteArray.append_assoc]

theorem Takes.bind_empty {reader : EStateM ε Cursor α} {next : α → EStateM ε Cursor β}
    {bs : ByteArray} {a : α} {b : β} (h : Takes reader bs a) (h' : Takes (next a) .empty b) :
    Takes (reader >>= next) bs b := by
  have hb := h.bind h'
  rwa [ByteArray.append_empty] at hb

theorem Takes.adaptExcept {ε' : Type} {reader : EStateM ε Cursor α} {bs : ByteArray} {a : α}
    (f : ε → ε') (h : Takes reader bs a) : Takes (EStateM.adaptExcept f reader) bs a := by
  intro before after
  simp only [EStateM.adaptExcept, h before after]

/-! ## Numbers -/

/-- The bytes of a number that fits spell it. -/
theorem LittleEndian.value_bytes (width n : Nat) : value (bytes width n) = n % 0x100 ^ width := by
  induction width generalizing n with
  | zero => simp [bytes, value, Nat.mod_one]
  | succ width ih =>
    simp only [bytes, value, ih, UInt8.toNat_ofNat', Nat.reducePow]
    rw [Nat.pow_succ, Nat.mul_comm (0x100 ^ width) 0x100, Nat.mod_mul]

theorem extract_between (before bs after : ByteArray) :
    (before ++ (bs ++ after)).extract before.size (before.size + bs.size) = bs := by
  have hex := @ByteArray.extract_append_size_add before (bs ++ after) 0 bs.size
  rw [Nat.add_zero] at hex
  rw [hex, ByteArray.extract_append_eq_left rfl]

theorem exists_append_of_le {bs : ByteArray} {n : Nat} (h : n ≤ bs.size) :
    ∃ first rest, bs = first ++ rest ∧ first.size = n := by
  refine ⟨bs.extract 0 n, bs.extract n bs.size, ?_, ?_⟩
  · rw [← ByteArray.extract_eq_extract_append_extract n (Nat.zero_le n) h,
      ByteArray.extract_zero_size]
  · rw [ByteArray.size_extract]
    omega

theorem takes_bytes (bs : ByteArray) : Takes (Reader.bytes bs.size) bs bs := by
  intro before after
  have hle : bs.size ≤ (Cursor.between before (bs ++ after)).remaining := by simp
  simp only [Reader.bytes, hle, dite_true, Cursor.data_between, Cursor.index_between,
    extract_between, Cursor.skip_between]

/-- Bytes are taken as the number that they spell. -/
theorem takes_spelled (bs : List UInt8) :
    Takes (Reader.number bs.length) bs.toByteArray (LittleEndian.value bs) := by
  have h := takes_bytes bs.toByteArray
  rw [List.size_toByteArray] at h
  refine h.bind_empty ?_
  rw [List.data_toByteArray, List.toList_toArray]
  exact Takes.pure _

theorem takes_number (width n : Nat) :
    Takes (Reader.number width) (LittleEndian.bytes width n).toByteArray (n % 0x100 ^ width) := by
  have h := takes_spelled (LittleEndian.bytes width n)
  rwa [LittleEndian.length_bytes, LittleEndian.value_bytes] at h

theorem takes_uint32 (word : UInt32) : Takes Reader.uint32 (uint32Bytes word) word := by
  have hmod : word.toNat % 0x100 ^ 4 = word.toNat := Nat.mod_eq_of_lt word.toNat_lt
  refine (takes_number 4 word.toNat).bind_empty ?_
  rw [hmod, UInt32.ofNat_toNat]
  exact Takes.pure word

theorem takes_int32 (n : Int32) : Takes Reader.int32 (int32Bytes n) n := by
  refine (takes_uint32 n.toUInt32).bind_empty ?_
  rw [Int32.toInt32_toUInt32]
  exact Takes.pure n

theorem takes_int64 (n : Int64) : Takes Reader.int64 (int64Bytes n) n := by
  have hmod : n.toUInt64.toNat % 0x100 ^ 8 = n.toUInt64.toNat :=
    Nat.mod_eq_of_lt n.toUInt64.toNat_lt
  refine (takes_number 8 n.toUInt64.toNat).bind_empty ?_
  rw [hmod, UInt64.ofNat_toNat, Int64.toInt64_toUInt64]
  exact Takes.pure n

theorem takes_bool (b : Bool) : Takes Reader.bool (boolBytes b) b := by
  refine (takes_uint32 (if b then trueWord else falseWord)).bind_empty ?_
  cases b with
  | false => exact Takes.pure false
  | true => exact Takes.pure true

/-! ## Strings -/

theorem takes_byte (b : UInt8) : Takes Reader.byte [b].toByteArray b := by
  have h := takes_number 1 b.toNat
  have hb : LittleEndian.bytes 1 b.toNat = [b] := by simp [LittleEndian.bytes]
  have hmod : b.toNat % 0x100 ^ 1 = b.toNat := Nat.mod_eq_of_lt b.toNat_lt
  rw [hb, hmod] at h
  refine h.bind_empty ?_
  rw [UInt8.ofNat_toNat]
  exact Takes.pure b

/-- The length of a string of bytes is read back, along with the number of bytes it takes itself. -/
theorem takes_lengthHeader (size : Nat) (h : size ≤ maxPayload) :
    Takes Reader.lengthHeader (lengthBytes size).toByteArray (size, (lengthBytes size).length) := by
  unfold lengthBytes
  split
  next hs =>
    have hlt : size < 254 := hs
    have hsize : (UInt8.ofNat size).toNat = size := by
      rw [UInt8.toNat_ofNat', Nat.mod_eq_of_lt (by omega)]
    have hshort : UInt8.ofNat size < longMark := by
      rw [UInt8.lt_iff_toNat_lt, hsize]
      exact hs
    refine (takes_byte (UInt8.ofNat size)).bind_empty ?_
    rw [if_pos hshort, hsize]
    exact Takes.pure _
  next hs =>
    have hbytes : (longMark :: LittleEndian.bytes 3 size).toByteArray
        = [longMark].toByteArray ++ (LittleEndian.bytes 3 size).toByteArray := by
      rw [← List.toByteArray_append]
      rfl
    have hlt : size < 0x100 ^ 3 := by
      unfold maxPayload at h
      omega
    rw [hbytes]
    refine (takes_byte longMark).bind ?_
    rw [if_neg (by decide)]
    refine (takes_number 3 size).bind_empty ?_
    rw [Nat.mod_eq_of_lt hlt, List.length_cons, LittleEndian.length_bytes]
    exact Takes.pure _

/-- A string of bytes is taken with any bytes that say its length, and with any bytes as padding. -/
theorem takes_padded {head payload pad : ByteArray} {header : Nat}
    (hhead : Takes Reader.lengthHeader head (payload.size, header))
    (hpad : pad.size = padding (payload.size + header)) :
    Takes Reader.payload (head ++ (payload ++ pad)) payload := by
  have hpads := takes_bytes pad
  rw [hpad] at hpads
  exact hhead.bind ((takes_bytes payload).bind (hpads.bind_empty (Takes.pure payload)))

theorem takes_payload {payload bs : ByteArray} (h : payloadBytes payload = .ok bs) :
    Takes Reader.payload bs payload := by
  unfold payloadBytes at h
  split at h
  next hle =>
    cases h
    rw [ByteArray.append_assoc]
    exact takes_padded (takes_lengthHeader payload.size hle) (by simp [zeros])
  next => cases h

theorem takes_string {text : String} {bs : ByteArray} (h : stringBytes text = .ok bs) :
    Takes Reader.string bs text := by
  refine (takes_payload h).bind_empty ?_
  have htext : Text.Utf8.decode text.toUTF8 = text := by
    unfold Text.Utf8.decode
    rw [dif_pos (show text.toUTF8.IsValidUTF8 from text.isValidUTF8)]
    rfl
  rw [htext]
  exact Takes.pure text

end TlSchema.Wire
