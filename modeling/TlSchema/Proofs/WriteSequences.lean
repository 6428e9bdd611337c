import TlSchema.Proofs.Taking
import TlSchema.Wire.Item

/-!
# Sequences of writes

Items are written to one buffer, one after another. A string of bytes or a text that is too long is
refused and leaves the buffer as it is, so the bytes in the end are those of all other items in
order, at whatever places these have come to stand. Reading items of the same shapes, in the same
order, gives back what has been written and comes to the end of it, whatever follows.
-/

namespace TlSchema.Wire

namespace Item

/-- The string of bytes that is written with its length before it, if the item is one. -/
def payload? : Item → Option ByteArray
  | .payload bs => some bs
  | .string text => some text.toUTF8
  | _ => none

/-- Whether the item is no string of bytes, or one whose length can be said. -/
def isWritable (item : Item) : Bool := item.payload?.all (·.size ≤ maxPayload)

/-- Writes items to a buffer, and goes on with the next one where one is refused. Gives the items
that have been written, and the buffer in the end. -/
def writeEach : List Item → ByteArray → List Item × ByteArray
  | [], out => ([], out)
  | item :: items, out =>
    match item.write out with
    | .ok () next => (item :: (writeEach items next).1, (writeEach items next).2)
    | .error _ next => writeEach items next

/-! ## One item -/

theorem encode_eq_error {item : Item} {error : WireError} :
    item.encode = .error error ↔
      ∃ payload, item.payload? = some payload ∧ maxPayload < payload.size ∧
        error = .lengthOverflow payload.size := by
  have hpayload : ∀ bs : ByteArray, payloadBytes bs = .error error ↔
      maxPayload < bs.size ∧ error = .lengthOverflow bs.size := by
    intro bs
    unfold payloadBytes
    by_cases hle : bs.size ≤ maxPayload
    · have hnot : ¬ maxPayload < bs.size := by omega
      simp [hle, hnot]
    · have hlt : maxPayload < bs.size := by omega
      simp [hle, hlt, eq_comm]
  cases item with
  | payload bs => simp [encode, payload?, hpayload]
  | string text => simp [encode, payload?, stringBytes, hpayload]
  | _ => simp [encode, payload?]

theorem isWritable_eq_false (item : Item) :
    item.isWritable = false ↔ ∃ error, item.encode = .error error := by
  simp only [encode_eq_error, isWritable]
  cases item.payload? with
  | none => simp
  | some payload => simp

theorem write_of_encode_ok {item : Item} {bs : ByteArray} (h : item.encode = .ok bs)
    (out : ByteArray) : item.write out = .ok () (out ++ bs) := by
  simp only [write, Writer.putResult, h]

theorem write_of_encode_error {item : Item} {error : WireError} (h : item.encode = .error error)
    (out : ByteArray) : item.write out = .error error out := by
  simp only [write, Writer.putResult, h]

/-- The reader of an item's shape takes the bytes of the item. -/
theorem takes_read {item : Item} {bs : ByteArray} (h : item.encode = .ok bs) :
    Takes item.shape.read bs item := by
  have hmap : ∀ {α : Type} {reader : Reader α} {a : α} (f : α → Item), Takes reader bs a →
      Takes (f <$> reader) bs (f a) := by
    intro α reader a f hreader
    rw [map_eq_pure_bind]
    exact hreader.bind_empty (Takes.pure (f a))
  cases item with
  | byte b =>
    cases h
    exact hmap _ (takes_byte b)
  | bytes bs =>
    cases h
    exact hmap _ (takes_bytes bs)
  | int32 n =>
    cases h
    exact hmap _ (takes_int32 n)
  | uint32 word =>
    cases h
    exact hmap _ (takes_uint32 word)
  | int64 n =>
    cases h
    exact hmap _ (takes_int64 n)
  | bool b =>
    cases h
    exact hmap _ (takes_bool b)
  | payload payload => exact hmap _ (takes_payload h)
  | string text => exact hmap _ (takes_string h)

/-! ## Many items -/

theorem writeEach_of_encode_ok {item : Item} {bs : ByteArray} (h : item.encode = .ok bs)
    (items : List Item) (out : ByteArray) :
    writeEach (item :: items) out
      = (item :: (writeEach items (out ++ bs)).1, (writeEach items (out ++ bs)).2) := by
  rw [writeEach, write_of_encode_ok h]

theorem writeEach_of_encode_error {item : Item} {error : WireError}
    (h : item.encode = .error error) (items : List Item) (out : ByteArray) :
    writeEach (item :: items) out = writeEach items out := by
  rw [writeEach, write_of_encode_error h]

theorem fst_writeEach (items : List Item) (out : ByteArray) :
    (writeEach items out).1 = items.filter isWritable := by
  induction items generalizing out with
  | nil => rfl
  | cons item items ih =>
    have hwritable := item.isWritable_eq_false
    cases h : item.encode with
    | ok bs =>
      have htrue : item.isWritable = true := by simpa [h] using hwritable
      rw [writeEach_of_encode_ok h, List.filter_cons_of_pos htrue, ih]
    | error e =>
      have hfalse : ¬ item.isWritable = true := by simpa [h] using hwritable
      rw [writeEach_of_encode_error h, List.filter_cons_of_neg hfalse, ih]

/-- What has been added to the buffer is taken by the readers of the items that were written. -/
theorem takes_writeEach (items : List Item) (out : ByteArray) :
    ∃ bs, (writeEach items out).2 = out ++ bs ∧
      Takes (((writeEach items out).1.map shape).mapM Shape.read) bs (writeEach items out).1 := by
  induction items generalizing out with
  | nil => exact ⟨.empty, by simp [writeEach], Takes.pure []⟩
  | cons item items ih =>
    cases h : item.encode with
    | ok first =>
      obtain ⟨rest, hout, htakes⟩ := ih (out ++ first)
      rw [writeEach_of_encode_ok h, List.map_cons, List.mapM_cons]
      refine ⟨first ++ rest, by rw [hout, ByteArray.append_assoc], ?_⟩
      exact (takes_read h).bind (htakes.bind_empty (Takes.pure _))
    | error e =>
      rw [writeEach_of_encode_error h]
      exact ih out

/-- A write fails exactly if its string of bytes is too long, and then the buffer is left as it is;
so the items that are written are all others. They are read back from the bytes in the end, in
order, up to the place behind these bytes. -/
theorem writes_read_back (items : List Item) :
    (∀ (item : Item) (out : ByteArray) error next, item.write out = .error error next ↔
      ∃ payload, item.payload? = some payload ∧ maxPayload < payload.size ∧
        error = .lengthOverflow payload.size ∧ next = out) ∧
    (writeEach items .empty).1 = items.filter isWritable ∧
    ∀ suffix, ∃ place,
      ((writeEach items .empty).1.map shape).mapM Shape.read
          (.ofBytes ((writeEach items .empty).2 ++ suffix))
        = .ok (writeEach items .empty).1 place ∧
      place.index = (writeEach items .empty).2.size := by
  refine ⟨fun item out error next => ?_, fst_writeEach items .empty, fun suffix => ?_⟩
  · cases h : item.encode with
    | ok bs =>
      rw [write_of_encode_ok h]
      constructor
      · intro hrun
        cases hrun
      · rintro ⟨payload, hpayload, hlong, -⟩
        cases h.symm.trans (encode_eq_error.mpr ⟨payload, hpayload, hlong, rfl⟩)
    | error e =>
      rw [write_of_encode_error h]
      constructor
      · intro hrun
        cases hrun
        obtain ⟨payload, hpayload, hlong, herror⟩ := encode_eq_error.mp h
        exact ⟨payload, hpayload, hlong, herror, rfl⟩
      · rintro ⟨payload, hpayload, hlong, rfl, rfl⟩
        cases h.symm.trans (encode_eq_error.mpr ⟨payload, hpayload, hlong, rfl⟩)
        rfl
  · obtain ⟨bs, hbs, htakes⟩ := takes_writeEach items .empty
    rw [ByteArray.empty_append] at hbs
    have hread := htakes .empty suffix
    rw [← Cursor.ofBytes_eq, ← hbs] at hread
    exact ⟨_, hread, by simp⟩

-- a text is padded by its own length, wherever it stands
example : (writeEach [.byte 7, .string "hi", .byte 8] .empty).2
    = [7, 2, 104, 105, 0, 8].toByteArray := by rfl

end Item

end TlSchema.Wire
