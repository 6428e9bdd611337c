import Mathlib.Order.Bounds.Defs
import TlSchema.Proofs.Taking
import TlSchema.Wire.Item

/-!
# Forms of lengths

The length before a string of bytes is written in one way but can be read in several: the long form
may stand before a short string, its mark is any byte that is no short length, and the padding may
be any bytes. `announced?` says what length bytes start with, in whatever form.

A string is read exactly if its length is announced and as many bytes are there as fill whole words
with it. What has been read can be written, in no more bytes than have been read.
-/

namespace TlSchema.Wire

/-- The number that the first three bytes spell, the lowest first. -/
def threeBytes? : List UInt8 → Option Nat
  | low :: mid :: high :: _ => some (low.toNat + 0x100 * mid.toNat + 0x10000 * high.toNat)
  | _ => none

/-- The length that bytes start with, and how many bytes it takes itself: a first byte below the
mark is the length, and any other one stands before three bytes that spell it. -/
def announced? : List UInt8 → Option (Nat × Nat)
  | [] => none
  | first :: more =>
    if first < longMark then some (first.toNat, 1) else (threeBytes? more).map fun size => (size, 4)

/-! ## A lack of bytes -/

section

variable {α β : Type}

/-- The reader asks for more bytes than are left at the place it has come to. -/
def Lacks (reader : Reader α) (cursor : Cursor) : Prop :=
  ∃ needed place, reader cursor = .error (.underflow needed place.index place.remaining) place ∧
    place.remaining < needed

theorem lacks_bytes {n : Nat} {cursor : Cursor} (h : cursor.remaining < n) :
    Lacks (Reader.bytes n) cursor := by
  refine ⟨n, cursor, ?_, h⟩
  rw [Reader.bytes, dif_neg (by omega)]

theorem Lacks.bind {reader : Reader α} {cursor : Cursor} (h : Lacks reader cursor)
    (next : α → Reader β) : Lacks (reader >>= next) cursor := by
  obtain ⟨needed, place, hrun, hlt⟩ := h
  exact ⟨needed, place, bind_of_error hrun next, hlt⟩

theorem Lacks.after {reader : Reader α} {next : α → Reader β} {cursor place : Cursor} {a : α}
    (hrun : reader cursor = .ok a place) (h : Lacks (next a) place) :
    Lacks (reader >>= next) cursor := by
  obtain ⟨needed, stop, hfails, hlt⟩ := h
  exact ⟨needed, stop, by rw [bind_of_ok hrun, hfails], hlt⟩

theorem lacks_number {width : Nat} {cursor : Cursor} (h : cursor.remaining < width) :
    Lacks (Reader.number width) cursor :=
  (lacks_bytes h).bind _

end

/-! ## Lengths -/

theorem threeBytes?_eq_some {bytes : List UInt8} {n : Nat} (h : threeBytes? bytes = some n) :
    ∃ digits tail, bytes = digits ++ tail ∧ digits.length = 3 ∧ n = LittleEndian.value digits ∧
      n ≤ maxPayload := by
  unfold threeBytes? at h
  split at h
  next low mid high tail =>
    cases h
    have hlow := low.toNat_lt
    have hmid := mid.toNat_lt
    have hhigh := high.toNat_lt
    refine ⟨[low, mid, high], tail, rfl, rfl, ?_, ?_⟩
    · simp only [LittleEndian.value]
      omega
    · unfold maxPayload
      omega
  next => cases h

theorem length_of_threeBytes?_eq_none {bytes : List UInt8} (h : threeBytes? bytes = none) :
    bytes.length < 3 := by
  rcases bytes with - | ⟨low, - | ⟨mid, - | ⟨high, tail⟩⟩⟩
  · simp
  · simp
  · simp
  · cases h

theorem toByteArray_cons (first : UInt8) (more : List UInt8) :
    (first :: more).toByteArray = [first].toByteArray ++ more.toByteArray := by
  rw [← List.toByteArray_append]
  rfl

/-- A length that is announced is read. It can be written, and takes no more bytes then. -/
theorem takes_announced {bytes : List UInt8} {size header : Nat}
    (h : announced? bytes = some (size, header)) :
    ∃ head tail, bytes = head ++ tail ∧ head.length = header ∧
      Takes Reader.lengthHeader head.toByteArray (size, header) ∧
      size ≤ maxPayload ∧ (lengthBytes size).length ≤ header := by
  cases bytes with
  | nil => cases h
  | cons first more =>
    rw [announced?] at h
    split at h
    next hshort =>
      cases h
      have hlt : first.toNat < longMark.toNat := UInt8.lt_iff_toNat_lt.mp hshort
      have hmark : longMark.toNat ≤ maxPayload := by decide
      refine ⟨[first], more, rfl, rfl, (takes_byte first).bind_empty ?_, by omega, ?_⟩
      · rw [if_pos hshort]
        exact Takes.pure _
      · rw [lengthBytes, if_pos hlt]
        exact Nat.le_refl 1
    next hlong =>
      obtain ⟨n, hn, heq⟩ := Option.map_eq_some_iff.mp h
      cases heq
      obtain ⟨digits, tail, rfl, hlength, rfl, hle⟩ := threeBytes?_eq_some hn
      refine ⟨first :: digits, tail, rfl, by rw [List.length_cons, hlength], ?_, hle, ?_⟩
      · have hdigits := takes_spelled digits
        rw [hlength] at hdigits
        rw [toByteArray_cons]
        refine (takes_byte first).bind ?_
        rw [if_neg hlong]
        exact hdigits.bind_empty (Takes.pure _)
      · unfold lengthBytes
        split
        · simp
        · simp

theorem lacks_lengthHeader {bytes : List UInt8} (h : announced? bytes = none) (before : ByteArray) :
    Lacks Reader.lengthHeader (.between before bytes.toByteArray) := by
  cases bytes with
  | nil =>
    refine Lacks.bind ((lacks_number ?_).bind _) _
    simp
  | cons first more =>
    rw [toByteArray_cons]
    refine Lacks.after (takes_byte first before more.toByteArray) ?_
    rw [announced?] at h
    split at h
    next => cases h
    next hlong =>
      rw [if_neg hlong]
      refine (lacks_number ?_).bind _
      rw [Cursor.remaining_between, List.size_toByteArray]
      exact length_of_threeBytes?_eq_none (Option.map_eq_none_iff.mp h)

/-! ## Strings -/

theorem Cursor.rest_between (before after : ByteArray) : (between before after).rest = after := by
  have hex := extract_between before after .empty
  rw [ByteArray.append_empty] at hex
  rw [rest, data_between, index_between, ByteArray.size_append, hex]

theorem Cursor.exists_between (cursor : Cursor) :
    ∃ before after, cursor = between before after := by
  obtain ⟨before, after, hdata, hsize⟩ := exists_append_of_le cursor.index_le
  refine ⟨before, after, ?_⟩
  ext1
  · rw [data_between, hdata]
  · rw [index_between, hsize]

/-- Padding fills as few words as there can be. -/
theorem isLeast_padding (size : Nat) :
    IsLeast {n | 4 ∣ n ∧ size ≤ n} (size + padding size) := by
  unfold padding
  refine ⟨⟨by omega, by omega⟩, ?_⟩
  rintro n ⟨hdvd, hle⟩
  omega

/-- After its length, a string is read if there are enough bytes to fill words with it. -/
theorem payload_after_length {head : ByteArray} {size header : Nat}
    (hhead : Takes Reader.lengthHeader head (size, header)) (before rest : ByteArray) :
    (∃ payload pad after, rest = payload ++ (pad ++ after) ∧ payload.size = size ∧
        pad.size = padding (size + header) ∧
        Takes Reader.payload (head ++ (payload ++ pad)) payload) ∨
      rest.size < size + padding (size + header) ∧
        Lacks Reader.payload (.between before (head ++ rest)) := by
  by_cases hsize : size ≤ rest.size
  · obtain ⟨payload, rest, rfl, rfl⟩ := exists_append_of_le hsize
    by_cases hle : padding (payload.size + header) ≤ rest.size
    · obtain ⟨pad, after, rfl, hpad⟩ := exists_append_of_le hle
      exact Or.inl ⟨payload, pad, after, rfl, rfl, hpad, takes_padded hhead hpad⟩
    · refine Or.inr ⟨by rw [ByteArray.size_append]; omega, ?_⟩
      refine Lacks.after (hhead before _) (Lacks.after (takes_bytes payload _ _) ?_)
      refine (lacks_bytes ?_).bind _
      rw [Cursor.remaining_between]
      omega
  · refine Or.inr ⟨by omega, Lacks.after (hhead before rest) ((lacks_bytes ?_).bind _)⟩
    rw [Cursor.remaining_between]
    omega

/-- A string is read if its length is announced and its words are there, and otherwise there is a
lack of bytes. -/
theorem payload_cases (before rest : ByteArray) :
    (∃ head payload pad after, rest = head ++ (payload ++ pad) ++ after ∧
        announced? rest.data.toList = some (payload.size, head.size) ∧
        pad.size = padding (head.size + payload.size) ∧
        Takes Reader.payload (head ++ (payload ++ pad)) payload) ∨
      (∀ size header, announced? rest.data.toList = some (size, header) →
          rest.size < header + size + padding (header + size)) ∧
        Lacks Reader.payload (.between before rest) := by
  have hbytes : rest = rest.data.toList.toByteArray := by
    apply ByteArray.ext
    rw [List.data_toByteArray, Array.toArray_toList]
  cases hannounced : announced? rest.data.toList with
  | none =>
    refine Or.inr ⟨fun size header h => ?_, Lacks.bind ?_ _⟩
    · cases h
    · rw [hbytes]
      exact lacks_lengthHeader hannounced before
  | some length =>
    obtain ⟨size, header⟩ := length
    obtain ⟨head, tail, hsplit, hlength, hhead, -, -⟩ := takes_announced hannounced
    have hrest : rest = head.toByteArray ++ tail.toByteArray := by
      rw [hbytes, hsplit, List.toByteArray_append]
    have hsize : head.toByteArray.size = header := by rw [List.size_toByteArray, hlength]
    rcases payload_after_length hhead before tail.toByteArray with
      ⟨payload, pad, after, htail, rfl, hpad, htakes⟩ | ⟨hfew, hlacks⟩
    · refine Or.inl ⟨head.toByteArray, payload, pad, after, ?_, by rw [hsize], ?_, htakes⟩
      · rw [hrest, htail]
        simp only [ByteArray.append_assoc]
      · rw [hpad, hsize, Nat.add_comm]
    · refine Or.inr ⟨fun size' header' h => ?_, ?_⟩
      · cases h
        rw [hrest, ByteArray.size_append, hsize, Nat.add_comm header size]
        omega
      · rw [hrest]
        exact hlacks

theorem payload_eq_ok {before rest payload : ByteArray} {place : Cursor}
    (h : Reader.payload (.between before rest) = .ok payload place) :
    ∃ head pad after, rest = head ++ (payload ++ pad) ++ after ∧
      announced? rest.data.toList = some (payload.size, head.size) ∧
      pad.size = padding (head.size + payload.size) ∧
      place = .between (before ++ (head ++ (payload ++ pad))) after := by
  rcases payload_cases before rest with
    ⟨head, payload', pad, after, hrest, hannounced, hpad, htakes⟩ | ⟨-, needed, stop, hrun, -⟩
  · have hrun := htakes before after
    rw [← hrest, h] at hrun
    cases hrun
    exact ⟨head, pad, after, hrest, hannounced, hpad, rfl⟩
  · cases h.symm.trans hrun

theorem payload_eq_error {before rest : ByteArray} {error : WireError} {place : Cursor}
    (h : Reader.payload (.between before rest) = .error error place) :
    (∃ needed, error = .underflow needed place.index place.remaining ∧ place.remaining < needed) ∧
      ∀ size header, announced? rest.data.toList = some (size, header) →
        rest.size < header + size + padding (header + size) := by
  rcases payload_cases before rest with
    ⟨head, payload', pad, after, hrest, -, -, htakes⟩ | ⟨hfew, needed, stop, hrun, hlt⟩
  · have hrun := htakes before after
    rw [← hrest, h] at hrun
    cases hrun
  · rw [h] at hrun
    cases hrun
    exact ⟨⟨needed, rfl, hlt⟩, hfew⟩

/-! ## Strings that are written again -/

theorem size_payloadBytes {payload bs : ByteArray} (h : payloadBytes payload = .ok bs) :
    bs.size = (lengthBytes payload.size).length + payload.size
      + padding ((lengthBytes payload.size).length + payload.size) := by
  unfold payloadBytes at h
  split at h
  next =>
    cases h
    simp only [zeros, ByteArray.size_append, List.size_toByteArray, List.length_replicate]
    rw [Nat.add_comm payload.size]
  next => cases h

/-- A string whose length has been announced is written in no more bytes than are read with it. -/
theorem exists_payloadBytes {bytes : List UInt8} {payload : ByteArray} {header : Nat}
    (h : announced? bytes = some (payload.size, header)) :
    ∃ written, payloadBytes payload = .ok written ∧
      written.size ≤ header + payload.size + padding (header + payload.size) := by
  obtain ⟨-, -, -, -, -, hmax, hheader⟩ := takes_announced h
  obtain ⟨written, hwritten⟩ : ∃ written, payloadBytes payload = .ok written := by
    rw [payloadBytes, if_pos hmax]
    exact ⟨_, rfl⟩
  refine ⟨written, hwritten, ?_⟩
  rw [size_payloadBytes hwritten]
  obtain ⟨hdvd, hle⟩ := (isLeast_padding (header + payload.size)).1
  exact (isLeast_padding _).2 ⟨hdvd, by omega⟩

/-- Whatever form its length has, a string of bytes that is read is the one that the length
announces. It is read with as few words as it fills, and it is written again in no more bytes, which
are all read back. Reading fails for a lack of bytes only, and exactly if no length is announced or
if the words that the string fills are not there. -/
theorem payload_has_written_form (cursor : Cursor) :
    (∀ payload place, Reader.payload cursor = .ok payload place →
      ∃ header taken, announced? cursor.rest.data.toList = some (payload.size, header) ∧
        IsLeast {n | 4 ∣ n ∧ header + payload.size ≤ n} taken ∧
        place.data = cursor.data ∧ place.index = cursor.index + taken ∧
        payload = cursor.data.extract (cursor.index + header)
          (cursor.index + header + payload.size) ∧
        ∃ written, (∀ out, (Item.payload payload).write out = .ok () (out ++ written)) ∧
          written.size ≤ taken ∧
          ∀ suffix, ∃ stop, Reader.payload (.ofBytes (written ++ suffix)) = .ok payload stop ∧
            stop.index = written.size) ∧
    (∀ error place, Reader.payload cursor = .error error place →
      ∃ needed, error = .underflow needed place.index place.remaining ∧
        place.remaining < needed) ∧
    ((∃ error place, Reader.payload cursor = .error error place) ↔
      announced? cursor.rest.data.toList = none ∨
        ∃ size header needed, announced? cursor.rest.data.toList = some (size, header) ∧
          IsLeast {n | 4 ∣ n ∧ header + size ≤ n} needed ∧ cursor.remaining < needed) := by
  obtain ⟨before, rest, rfl⟩ := cursor.exists_between
  rw [Cursor.rest_between, Cursor.remaining_between, Cursor.data_between, Cursor.index_between]
  refine ⟨?_, fun error place h => (payload_eq_error h).1, ?_, ?_⟩
  · intro payload place h
    obtain ⟨head, pad, after, hrest, hannounced, hpad, rfl⟩ := payload_eq_ok h
    have hdata : before ++ rest = before ++ head ++ (payload ++ (pad ++ after)) := by
      rw [hrest]
      simp only [ByteArray.append_assoc]
    have hslice := extract_between (before ++ head) payload (pad ++ after)
    rw [← hdata, ByteArray.size_append] at hslice
    obtain ⟨written, hwritten, hsize⟩ := exists_payloadBytes hannounced
    refine ⟨head.size, _, hannounced, isLeast_padding _, ?_, ?_, hslice.symm, written, ?_, hsize,
      ?_⟩
    · rw [Cursor.data_between, hrest, ByteArray.append_assoc]
    · rw [Cursor.index_between]
      simp only [ByteArray.size_append, hpad]
      omega
    · intro out
      simp only [Item.write, Item.encode, hwritten, Writer.putResult]
    · intro suffix
      have hback := takes_payload hwritten .empty suffix
      rw [← Cursor.ofBytes_eq] at hback
      exact ⟨_, hback, by simp⟩
  · rintro ⟨error, place, h⟩
    cases hannounced : announced? rest.data.toList with
    | none => exact Or.inl rfl
    | some length =>
      obtain ⟨size, header⟩ := length
      have hfew := (payload_eq_error h).2 size header hannounced
      exact Or.inr ⟨size, header, _, rfl, isLeast_padding _, hfew⟩
  · intro hshort
    cases hrun : Reader.payload (.between before rest) with
    | error error place => exact ⟨error, place, rfl⟩
    | ok payload place =>
      obtain ⟨head, pad, after, hrest, hannounced, hpad, -⟩ := payload_eq_ok hrun
      have hthere : head.size + payload.size + padding (head.size + payload.size) ≤ rest.size := by
        rw [hrest]
        simp only [ByteArray.size_append, hpad]
        omega
      rcases hshort with hnone | ⟨size, header, needed, hsome, hneeded, hlt⟩
      · cases hannounced.symm.trans hnone
      · cases hannounced.symm.trans hsome
        have hle := hneeded.2 (isLeast_padding _).1
        omega

namespace LooseForm

/-- A string of two bytes, after one other byte: its length is in the long form, with the mark that
is never written, and its padding is not zero. -/
def data : ByteArray := [9, 255, 2, 0, 0, 104, 105, 7, 7, 1].toByteArray

/-- The place before its length. -/
def start : Cursor := ⟨data, 1, by decide⟩

/-- The same place where the last byte of the padding is missing. -/
def cutOff : Cursor := ⟨data.extract 0 8, 1, by decide⟩

theorem loose_string_has_written_form :
    (∃ place header taken, Reader.payload start = .ok "hi".toUTF8 place ∧
      announced? start.rest.data.toList = some (2, header) ∧
      IsLeast {n | 4 ∣ n ∧ header + 2 ≤ n} taken ∧ place.index = 1 + taken ∧
      ∃ written, (∀ out, (Item.payload "hi".toUTF8).write out = .ok () (out ++ written)) ∧
        written.size ≤ taken) ∧
    ∃ error place, Reader.payload cutOff = .error error place := by
  have hread : Reader.payload start = .ok "hi".toUTF8 ⟨data, 9, by decide⟩ := by rfl
  obtain ⟨header, taken, hannounced, hleast, -, hindex, -, written, hwritten, hsize, -⟩ :=
    (payload_has_written_form start).1 _ _ hread
  refine ⟨⟨_, header, taken, hread, hannounced, hleast, hindex, written, hwritten, hsize⟩, ?_⟩
  refine (payload_has_written_form cutOff).2.2.mpr (Or.inr ⟨2, 4, 8, by rfl, ⟨?_, ?_⟩, by decide⟩)
  · exact ⟨by omega, by omega⟩
  · rintro n ⟨hdvd, hle⟩
    omega

end LooseForm

end TlSchema.Wire
