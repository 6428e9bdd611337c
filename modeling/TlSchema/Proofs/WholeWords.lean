import TlSchema.Proofs.Emission
import TlSchema.Proofs.Locality

/-!
# Whole words

Values are written in words of four bytes, and reading moves over whole words. What is read can
announce more items than there are, but a value without a word for each item in it is never made.

The argument is one of credit. A computation has a price for its result, and the words it moves over
make up for what the credit it starts with does not cover (`Pays`). One word is asked for every item
of a vector, whether it is a text, a number, another vector or an object.
-/

namespace TlSchema

/-! ## Prices -/

section

variable {ε ε' σ α β : Type} {place : σ → Nat} {credit : Nat} {price : α → Nat}

/-- A run that succeeds goes on by whole words, and these and the credit cover the price of its
result. -/
def Pays (place : σ → Nat) (credit : Nat) (price : α → Nat) (run : EStateM ε σ α) : Prop :=
  ∀ start a stop, run start = .ok a stop →
    ∃ words, place stop = place start + 4 * words ∧ price a ≤ credit + words

namespace Pays

/-- More credit covers a higher price, and a lower price is covered with less credit. -/
theorem mono {run : EStateM ε σ α} (h : Pays place credit price run) {credit' : Nat}
    {price' : α → Nat} (hle : ∀ a, price' a + credit ≤ price a + credit') :
    Pays place credit' price' run := by
  intro start a stop hrun
  obtain ⟨words, hplace, hprice⟩ := h start a stop hrun
  have := hle a
  exact ⟨words, hplace, by omega⟩

/-- Whatever its price, a run goes on by whole words. -/
theorem free {run : EStateM ε σ α} (h : Pays place 0 price run) :
    Pays place credit (fun _ => 0) run :=
  h.mono fun _ => by omega

theorem pure {a : α} (h : price a ≤ credit) :
    Pays place credit price (Pure.pure a : EStateM ε σ α) := by
  intro start a' stop hrun
  cases hrun
  exact ⟨0, rfl, h⟩

theorem throw (error : ε) : Pays place credit price (MonadExcept.throw error : EStateM ε σ α) := by
  intro start a stop hrun
  cases hrun

/-- What a run has paid for is the credit of what follows. -/
theorem bind {run : EStateM ε σ α} {next : α → EStateM ε σ β} {price' : β → Nat}
    (h : Pays place credit price run) (h' : ∀ a, Pays place (price a) price' (next a)) :
    Pays place credit price' (run >>= next) := by
  intro start b stop hrun
  have hbind : EStateM.bind run next start = .ok b stop := hrun
  unfold EStateM.bind at hbind
  cases hfirst : run start with
  | error e mid =>
    rw [hfirst] at hbind
    cases hbind
  | ok a mid =>
    rw [hfirst] at hbind
    obtain ⟨words, hplace, hprice⟩ := h start a mid hfirst
    obtain ⟨words', hplace', hprice'⟩ := h' a mid b stop hbind
    exact ⟨words + words', by omega, by omega⟩

/-- A run that needs no credit leaves it to what follows. -/
theorem andThen {run : EStateM ε σ α} {next : α → EStateM ε σ β} {price' : β → Nat}
    (h : Pays place 0 price run) (h' : ∀ a, Pays place (credit + price a) price' (next a)) :
    Pays place credit price' (run >>= next) :=
  bind (h.mono fun _ => by omega) h'

theorem adaptExcept {run : EStateM ε σ α} (h : Pays place credit price run) (f : ε → ε') :
    Pays place credit price (EStateM.adaptExcept f run) := by
  intro start a stop hrun
  unfold EStateM.adaptExcept at hrun
  split at hrun
  next => cases hrun
  next hok =>
    cases hrun
    exact h start a stop hok

end Pays

end

/-! ## Words on the wire -/

namespace Wire

theorem index_bytes {n : Nat} {c c' : Cursor} {bs : ByteArray}
    (h : Reader.bytes n c = .ok bs c') : c'.index = c.index + n := by
  unfold Reader.bytes at h
  split at h
  next =>
    cases h
    rfl
  next => cases h

theorem index_number {width n : Nat} {c c' : Cursor} (h : Reader.number width c = .ok n c') :
    c'.index = c.index + width := by
  obtain ⟨bs, mid, hbs, hn⟩ := bind_eq_ok.mp h
  cases hn
  exact index_bytes hbs

theorem pays_number (words : Nat) :
    Pays Cursor.index 0 (fun _ => words) (Reader.number (4 * words)) := by
  intro c n c' h
  exact ⟨words, index_number h, Nat.le_add_left words 0⟩

theorem pays_uint32 : Pays Cursor.index 0 (fun _ => 1) Reader.uint32 :=
  (pays_number 1).andThen fun _ => .pure (by omega)

theorem pays_int32 : Pays Cursor.index 0 (fun _ => 1) Reader.int32 :=
  pays_uint32.andThen fun _ => .pure (by omega)

theorem pays_int64 : Pays Cursor.index 0 (fun _ => 1) Reader.int64 :=
  (pays_number 2).andThen fun _ => .pure (by omega)

theorem pays_bool : Pays Cursor.index 0 (fun _ => 1) Reader.bool := by
  refine pays_uint32.andThen fun word => ?_
  split_ifs
  · exact .pure (by omega)
  · exact .pure (by omega)
  · exact .throw _

theorem index_lengthHeader {size header : Nat} {c c' : Cursor}
    (h : Reader.lengthHeader c = .ok (size, header) c') :
    c'.index = c.index + header ∧ 0 < header := by
  obtain ⟨first, mid, hfirst, hrest⟩ := bind_eq_ok.mp h
  have hbyte : mid.index = c.index + 1 := by
    obtain ⟨n, mid', hn, hbyte⟩ := bind_eq_ok.mp hfirst
    cases hbyte
    exact index_number hn
  split_ifs at hrest
  · cases hrest
    exact ⟨hbyte, by omega⟩
  · obtain ⟨n, mid', hn, hsize⟩ := bind_eq_ok.mp hrest
    cases hsize
    have hthree := index_number hn
    exact ⟨by omega, by omega⟩

/-- Padding fills words up. -/
theorem exists_words (size : Nat) : ∃ words, size + padding size = 4 * words := by
  unfold padding
  exact ⟨(size + 3) / 4, by omega⟩

/-- A text with its length is padded to whole words, one at least. -/
theorem pays_string : Pays Cursor.index 0 (fun _ => 1) Reader.string := by
  have hpayload : Pays Cursor.index 0 (fun _ => 1) Reader.payload := by
    intro c payload c' h
    obtain ⟨⟨size, header⟩, mid, hheader, hrest⟩ := bind_eq_ok.mp h
    obtain ⟨bs, mid', hbs, hrest⟩ := bind_eq_ok.mp hrest
    obtain ⟨pad, mid'', hpad, hbytes⟩ := bind_eq_ok.mp hrest
    cases hbytes
    obtain ⟨hindex, hpos⟩ := index_lengthHeader hheader
    have hindex' := index_bytes hbs
    have hindex'' := index_bytes hpad
    obtain ⟨words, hwords⟩ := exists_words (size + header)
    have hone : 1 ≤ 0 + words := by omega
    exact ⟨words, by omega, hone⟩
  exact hpayload.andThen fun _ => .pure (by omega)

/-- A text is written in whole words. -/
theorem size_stringBytes {text : String} {bs : ByteArray} (h : stringBytes text = .ok bs) :
    ∃ words, bs.size = 4 * words := by
  unfold stringBytes payloadBytes at h
  split_ifs at h
  cases h
  obtain ⟨words, hwords⟩ := exists_words (text.toUTF8.size + (lengthBytes text.toUTF8.size).length)
  refine ⟨words, ?_⟩
  rw [← hwords]
  simp only [zeros, ByteArray.size_append, List.size_toByteArray, List.length_replicate]
  omega

end Wire

/-! ## Items in values -/

namespace Value

mutual

/-- How many items the vectors in a value have, at any depth. -/
def elements : Value → Nat
  | .vector items => itemElements items
  | .object _ fields => fieldElements fields
  | _ => 0

/-- How many items there are in a list of values, with those of the vectors in them. -/
def itemElements : List Value → Nat
  | [] => 0
  | item :: items => 1 + item.elements + itemElements items

/-- How many items the vectors in a list of fields have. -/
def fieldElements : List (String × Value) → Nat
  | [] => 0
  | (_, held) :: fields => held.elements + fieldElements fields

end

theorem itemElements_append (items : List Value) (item : Value) :
    itemElements (items ++ [item]) = itemElements items + (1 + item.elements) := by
  induction items with
  | nil => simp [itemElements]
  | cons first items ih =>
    simp only [List.cons_append, itemElements, ih]
    omega

/-- Setting a field adds no more items than the field holds. -/
theorem elements_set_le (object : Value) (name : String) (held : Value) :
    (object.set name held).elements ≤ object.elements + held.elements := by
  cases object with
  | object typeName fields =>
    show fieldElements (Fields.insert name held fields) ≤ fieldElements fields + held.elements
    induction fields with
    | nil => simp [Fields.insert, fieldElements]
    | cons field fields ih =>
      obtain ⟨key, first⟩ := field
      unfold Fields.insert
      split_ifs
      · simp only [fieldElements]
        omega
      · simp only [fieldElements]
        omega
      · simp only [fieldElements]
        omega
  | _ => exact Nat.le_add_right _ _

end Value

theorem DefaultValue.elements_value (initial : DefaultValue) : initial.value.elements = 0 := by
  cases initial <;> rfl

/-- An object that has not been set holds no items. -/
theorem Plan.elements_unset (plan : Plan) : plan.unset.elements = 0 := by
  have hfold : ∀ (fields : List FieldPlan) (object : Value), object.elements = 0 →
      (fields.foldl (fun object field => object.set field.name field.initial.value)
        object).elements = 0 := by
    intro fields
    induction fields with
    | nil => exact fun object h => h
    | cons field fields ih =>
      intro object h
      have hset := object.elements_set_le field.name field.initial.value
      rw [h, DefaultValue.elements_value] at hset
      exact ih _ (Nat.le_zero.mp hset)
  exact hfold plan.fields _ rfl

theorem Registry.elements_instantiate {registry : Registry} {typeName : String} {object : Value}
    (h : registry.instantiate typeName = .ok object) : object.elements = 0 := by
  obtain ⟨plan, -, hobject⟩ := Results.bind_eq_ok.mp h
  cases hobject
  exact plan.elements_unset

/-! ## Reading -/

open Wire

theorem Decoder.pays_ofExcept {α : Type} {credit : Nat} {price : α → Nat}
    {result : Except CodecError α} (h : ∀ a, result = .ok a → price a ≤ credit) :
    Pays Cursor.index credit price (Decoder.ofExcept result) := by
  cases result with
  | ok a => exact .pure (h a rfl)
  | error e => exact .throw e

/-- A value is paid for as an item: with the items in it, and one word for itself. -/
def itemPrice : Option Value → Nat
  | some value => 1 + value.elements
  | none => 0

/-- Items are paid for one by one, however many are announced. -/
theorem pays_readItems {read : Decoder (Option Value)} (h : Pays Cursor.index 0 itemPrice read)
    (count : Nat) (items : Array Value) :
    Pays Cursor.index (Value.itemElements items.toList)
      (fun items? => items?.elim 0 Value.itemElements) (readItems read count items) := by
  -- the items so far have been paid for, so their price is the credit of the rest
  induction count generalizing items with
  | zero => exact .pure (Nat.le_refl _)
  | succ count ih =>
    refine h.andThen fun item? => ?_
    cases item? with
    | some item =>
      have hpush : Value.itemElements (items.push item).toList
          = Value.itemElements items.toList + itemPrice (some item) := by
        rw [Array.toList_push, Value.itemElements_append]
        rfl
      exact hpush ▸ ih (items.push item)
    | none => exact .pure (Nat.zero_le _)

section

variable {deeper : String → Decoder Value}
  (hdeeper : ∀ name, Pays Cursor.index 0 (fun value => 1 + value.elements) (deeper name))

include hdeeper

/-- A value is paid for if the objects in it are. The items of a vector are paid for with the words
they take, not by the count that is announced. -/
theorem Codec.pays_read (owner : String) (strict : Bool) (codec : Codec) :
    Pays Cursor.index 0 itemPrice (codec.read deeper owner strict) := by
  induction codec with
  | string => exact (pays_string.adaptExcept _).andThen fun _ => .pure (Nat.le_refl _)
  | boolean => exact (pays_bool.adaptExcept _).andThen fun _ => .pure (Nat.le_refl _)
  | int32 => exact (pays_int32.adaptExcept _).andThen fun _ => .pure (Nat.le_refl _)
  | int64 => exact (pays_int64.adaptExcept _).andThen fun _ => .pure (Nat.le_refl _)
  | object typeName =>
    refine (hdeeper typeName).andThen fun value => .pure ?_
    show 1 + value.elements ≤ 0 + (1 + value.elements)
    omega
  | vector tag element ih =>
    refine (pays_uint32.adaptExcept _).andThen fun found => ?_
    by_cases htag : found = tag
    · rw [if_pos htag]
      refine (pays_int32.adaptExcept _).andThen fun count => ?_
      refine (pays_readItems ih _ #[]).andThen fun items? => .pure ?_
      cases items? with
      | some items =>
        -- the tag and the count are two words, and the vector itself asks for one
        show 1 + Value.itemElements items ≤ 0 + 1 + 1 + Value.itemElements items
        omega
      | none => exact Nat.zero_le _
    · rw [if_neg htag]
      cases strict with
      | true => exact .throw _
      | false => exact .pure (Nat.zero_le _)

/-- The fields of an object pay for the items in them, one after the other. -/
theorem pays_readFields (owner : String) (strict : Bool) (steps : List DecodeStep)
    (object : Value) :
    Pays Cursor.index object.elements Value.elements
      (readFields deeper owner strict steps object) := by
  induction steps generalizing object with
  | nil => exact .pure (Nat.le_refl _)
  | cons step steps ih =>
    have hread : ∀ field codec, Pays Cursor.index object.elements Value.elements
        (readFields deeper owner strict (.read field codec :: steps) object) := by
      intro field codec
      refine (codec.pays_read hdeeper owner strict).andThen fun value? => ?_
      cases value? with
      | some value =>
        refine (ih (object.set field value)).mono fun final => ?_
        show final.elements + (object.set field value).elements
          ≤ final.elements + (object.elements + (1 + value.elements))
        have hset := object.elements_set_le field value
        omega
      | none => exact .pure (Nat.le_add_right _ _)
    cases step with
    | read field codec => exact hread field codec
    | readIfFlag bit field codec =>
      rw [readFields_readIfFlag]
      split_ifs
      · exact hread field codec
      · exact ih object

end

namespace Registry

variable (registry : Registry)

/-- The price of what an entry point gives. -/
def foundPrice : Option Value → Nat
  | some value => value.elements
  | none => 0

/-- An object pays for the items in it if the objects in it do. -/
theorem pays_readObjectWith {deeper : String → Decoder Value}
    (hdeeper : ∀ name, Pays Cursor.index 0 (fun value => 1 + value.elements) (deeper name))
    (strict : Bool) (typeName : String) (tag : UInt32) :
    Pays Cursor.index 0 foundPrice (registry.readObjectWith strict deeper typeName tag) := by
  refine (Decoder.pays_ofExcept fun _ _ => Nat.le_refl 0).andThen fun plan? => ?_
  cases plan? with
  | none => exact .pure (Nat.zero_le _)
  | some plan =>
    have hunset : Pays Cursor.index 0 Value.elements
        (Decoder.ofExcept (registry.instantiate plan.typeName)) :=
      Decoder.pays_ofExcept fun object h => Nat.le_of_eq (elements_instantiate h)
    refine hunset.bind fun unset => ?_
    exact (pays_readFields hdeeper plan.typeName strict plan.decode unset).bind fun object =>
      .pure (Nat.le_refl _)

/-- An object in a field pays for one item more, with the word of its constructor. -/
theorem pays_readNested {read : String → UInt32 → Decoder (Option Value)}
    (hread : ∀ name tag, Pays Cursor.index 0 foundPrice (read name tag)) (typeName : String) :
    Pays Cursor.index 0 (fun value => 1 + value.elements) (registry.readNested read typeName) := by
  refine (pays_uint32.adaptExcept _).andThen fun tag => (hread typeName tag).andThen fun found => ?_
  cases found with
  | some object =>
    refine .pure ?_
    show 1 + object.elements ≤ 0 + 1 + object.elements
    omega
  | none =>
    refine Decoder.pays_ofExcept fun object h => ?_
    show 1 + object.elements ≤ 0 + 1 + 0
    have := elements_instantiate h
    omega

/-- Objects pay for the items in them at every depth, by induction on the levels left. -/
theorem pays_readObject (strict : Bool) (levels : Nat) (typeName : String) (tag : UInt32) :
    Pays Cursor.index 0 foundPrice (registry.readObject strict levels typeName tag) := by
  induction levels generalizing typeName tag with
  | zero => exact registry.pays_readObjectWith (fun _ => .throw _) strict typeName tag
  | succ levels ih =>
    exact registry.pays_readObjectWith (registry.pays_readNested ih) strict typeName tag

theorem pays_decodeNext (typeName : String) (strict : Bool) :
    Pays Cursor.index 0 foundPrice (registry.decodeNext typeName strict) :=
  (pays_uint32.adaptExcept _).andThen fun tag =>
    (registry.pays_readObject strict maxNesting typeName tag).mono fun _ => by omega

variable {registry} in
theorem decodeNext_of_decode {bytes : ByteArray} {typeName : String} {strict : Bool}
    {found : Option Value} (h : registry.decode bytes typeName strict = .ok found) :
    ∃ stop, registry.decodeNext typeName strict (.ofBytes bytes) = .ok found stop := by
  unfold decode at h
  split at h
  next value stop hrun =>
    cases h
    exact ⟨stop, hrun⟩
  next => cases h

variable {registry} in
/-- Reading ends within the bytes. -/
theorem index_decodeNext_le {bytes : ByteArray} {typeName : String} {strict : Bool}
    {found : Option Value} {stop : Cursor}
    (h : registry.decodeNext typeName strict (.ofBytes bytes) = .ok found stop) :
    stop.index ≤ bytes.size := by
  rw [Cursor.ofBytes_eq] at h
  obtain ⟨bs, after, rfl, rfl, -⟩ := registry.local_decodeNext typeName strict _ _ _ _ h
  simp

end Registry

/-! ## Writing -/

open Encoder

theorem Encoder.pays_put {bs : ByteArray} {words : Nat} (h : bs.size = 4 * words) :
    Pays ByteArray.size 0 (fun _ => words) (put bs) := by
  intro out a out' hrun
  cases hrun
  exact ⟨words, by rw [ByteArray.size_append, h], Nat.le_add_left words 0⟩

/-- A loop writes whole words if it does so with each item. -/
theorem Encoder.pays_forM {α : Type} {f : α → Encoder Unit} {as : List α}
    (h : ∀ a ∈ as, Pays ByteArray.size 0 (fun _ => 0) (f a)) :
    Pays ByteArray.size 0 (fun _ => 0) (as.forM f) := by
  induction as with
  | nil => exact .pure (Nat.le_refl 0)
  | cons a as ih =>
    refine (h a List.mem_cons_self).bind fun _ => ih fun b hb => ?_
    exact h b (List.mem_cons_of_mem a hb)

theorem Encoder.pays_ofExcept {α : Type} (result : Except CodecError α) :
    Pays ByteArray.size 0 (fun _ => 0) (Encoder.ofExcept result) := by
  cases result with
  | ok a => exact .pure (Nat.le_refl 0)
  | error e => exact .throw e

theorem Encoder.pays_word (word : UInt32) :
    Pays ByteArray.size 0 (fun _ => 1) (put (uint32Bytes word)) :=
  pays_put (by simp [uint32Bytes])

theorem Encoder.pays_text (text : String) :
    Pays ByteArray.size 0 (fun _ => 0) (putResult (stringBytes text)) := by
  cases hbytes : stringBytes text with
  | ok bs =>
    obtain ⟨words, hwords⟩ := size_stringBytes hbytes
    exact (pays_put hwords).free
  | error e =>
    intro out a out' hrun
    cases hrun

section

variable {deeper : Value → Encoder Unit}
  (hdeeper : ∀ value, Pays ByteArray.size 0 (fun _ => 1) (deeper value))

include hdeeper

/-- A value is written in whole words if the objects in it are. -/
theorem Codec.pays_write (codec : Codec) (value : Value) :
    Pays ByteArray.size 0 (fun _ => 0) (codec.write deeper value) := by
  induction codec generalizing value with
  | vector tag element ih =>
    cases value with
    | vector items =>
      refine (pays_word tag).free.bind fun _ => (pays_word _).free.bind fun _ => ?_
      exact pays_forM fun item _ => ih item
    | _ => exact .throw _
  | string =>
    cases value with
    | string text => exact pays_text text
    | _ => exact .throw _
  | object typeName =>
    cases value with
    | object name fields => exact (hdeeper _).free
    | _ => exact .throw _
  | boolean =>
    cases value with
    | bool b => exact (pays_word _).free
    | _ => exact .throw _
  | int32 =>
    cases value with
    | int n => exact (pays_word _).free
    | _ => exact .throw _
  | int64 =>
    cases value with
    | long n =>
      have hsize : (int64Bytes n).size = 4 * 2 := by simp [int64Bytes]
      exact (pays_put hsize).free
    | _ => exact .throw _

/-- Whatever becomes of a field, it is written in whole words. -/
theorem Plan.pays_emit (plan : Plan) (vectorTag : UInt32) (object : Value) (word : UInt32)
    (field : FieldPlan) :
    Pays ByteArray.size 0 (fun _ => 0) (plan.emit vectorTag deeper object word field) := by
  unfold emit
  split
  · exact (pays_word word).free
  · exact (field.codec vectorTag).pays_write hdeeper _
  · exact .pure (Nat.le_refl 0)

end

namespace Registry

variable {registry : Registry} {vectorTag : UInt32} (hreg : registry.Regular vectorTag)

include hreg

/-- Whatever else is written for an object, its constructor takes a word. -/
theorem pays_writeObjectWith (levels : Nat) {deeper : Value → Encoder Unit}
    (hdeeper : ∀ value, Pays ByteArray.size 0 (fun _ => 1) (deeper value)) (value : Value) :
    Pays ByteArray.size 0 (fun _ => 1) (registry.writeObjectWith levels deeper value) := by
  cases value with
  | object typeName fields =>
    cases hplan : registry.plan typeName with
    | ok plan =>
      rw [registry.writeObjectWith_eq hplan (hreg.plans hplan)]
      refine (pays_word plan.constructorId).andThen fun _ => ?_
      refine Pays.mono (?_ : Pays _ 0 (fun _ => 0) _) fun _ => Nat.le_refl _
      exact (pays_ofExcept _).bind fun word =>
        pays_forM fun field _ => plan.pays_emit hdeeper vectorTag _ word field
    | error e =>
      unfold writeObjectWith
      simp only [hplan, ofExcept_error_bind]
      exact .throw e
  | _ => exact .throw _

/-- Objects are written in whole words at every depth, by induction on the levels left. -/
theorem pays_writeObject (levels : Nat) (value : Value) :
    Pays ByteArray.size 0 (fun _ => 1) (registry.writeObject levels value) := by
  induction levels generalizing value with
  | zero => exact pays_writeObjectWith hreg 0 (fun _ => .throw _) value
  | succ levels ih => exact pays_writeObjectWith hreg (levels + 1) ih value

end Registry

/-- For every unit that has been compiled, objects are written in words, one at least. Every entry
point reads in words, and an object that has been decoded has no more items in its vectors than
words have been read for it. -/
theorem Compilation.words_cover_elements {text : String} {settings : Settings} {unit : Compilation}
    (hunit : ofText text settings = .ok unit) :
    (∀ value bs, unit.registry.encode value = .ok bs → 4 ∣ bs.size ∧ bs.size ≠ 0) ∧
      (∀ typeName tag strict start found stop,
        unit.registry.decodeEntry typeName tag strict start = .ok found stop →
          start.index ≤ stop.index ∧ 4 ∣ stop.index - start.index) ∧
      ∀ bytes typeName strict value,
        unit.registry.decode bytes typeName strict = .ok (some value) →
          ∃ stop, unit.registry.decodeNext typeName strict (.ofBytes bytes)
              = .ok (some value) stop ∧
            4 * value.elements ≤ stop.index ∧ stop.index ≤ bytes.size := by
  obtain ⟨vectorTag, -, hu⟩ := accepted_of_ofText hunit
  refine ⟨fun value bs h => ?_, fun typeName tag strict start found stop h => ?_,
    fun bytes typeName strict value h => ?_⟩
  · have hwrites := unit.registry.encode_eq_ok.mp h .empty
    obtain ⟨words, hsize, hone⟩ := Registry.pays_writeObject hu.regular _ _ _ _ _ hwrites
    rw [ByteArray.size_append, ByteArray.size_empty] at hsize
    have hpos : 1 ≤ 0 + words := hone
    exact ⟨⟨words, by omega⟩, by omega⟩
  · obtain ⟨words, hindex, -⟩ := unit.registry.pays_readObject _ _ _ _ _ _ _ h
    exact ⟨by omega, words, by omega⟩
  · obtain ⟨stop, hrun⟩ := Registry.decodeNext_of_decode h
    obtain ⟨words, hindex, hpaid⟩ := unit.registry.pays_decodeNext _ _ _ _ _ hrun
    have hstart : (Cursor.ofBytes bytes).index = 0 := rfl
    have hprice : value.elements ≤ 0 + words := hpaid
    exact ⟨stop, hrun, by omega, Registry.index_decodeNext_le hrun⟩

/-! ## Counts that promise too much -/

namespace Rows

def text : String := "t.m#1 rows:Vector<Vector<int>> = t.M;"

def unit : Compilation := .ofDefinitions
  [⟨"t.m", 1, [⟨"rows", .vector (.vector .int32), none⟩], .named "t.M", ⟨1, 1⟩⟩]

/-- Two rows, of two items and of none. -/
def object : Value := .object "t_M" [("rows", .vector [.vector [.int 7, .int 8], .vector []])]

def message : ByteArray :=
  [1, 0, 0, 0, 0x15, 0xc4, 0xb5, 0x1c, 2, 0, 0, 0, 0x15, 0xc4, 0xb5, 0x1c, 2, 0, 0, 0, 7, 0, 0, 0,
    8, 0, 0, 0, 0x15, 0xc4, 0xb5, 0x1c, 0, 0, 0, 0].toByteArray

/-- As many rows as can be announced, of which the first one lacks its framing tag. -/
def overstated : ByteArray :=
  [1, 0, 0, 0, 0x15, 0xc4, 0xb5, 0x1c, 0xff, 0xff, 0xff, 0x7f, 0, 0, 0, 0].toByteArray

theorem words_cover_elements_rows :
    Compilation.ofText text {} = .ok unit ∧
      unit.registry.encode object = .ok message ∧ 4 ∣ message.size ∧ message.size ≠ 0 ∧
      object.elements = 4 ∧
      (∃ stop, unit.registry.decodeNext "t_M" true (.ofBytes message) = .ok (some object) stop ∧
        4 * 4 ≤ stop.index) ∧
      unit.registry.decode overstated "t_M" false
        = .ok (some (.object "t_M" [("rows", .vector [])])) := by
  have hunit : Compilation.ofText text {} = .ok unit := by decide +kernel
  have hencode : unit.registry.encode object = .ok message := by decide +kernel
  have hdecode : unit.registry.decode message "t_M" true = .ok (some object) := rfl
  obtain ⟨hwords, -, hpaid⟩ := Compilation.words_cover_elements hunit
  obtain ⟨hfour, hsome⟩ := hwords object message hencode
  obtain ⟨stop, hrun, hcovered, -⟩ := hpaid message "t_M" true object hdecode
  exact ⟨hunit, hencode, hfour, hsome, rfl, ⟨stop, hrun, hcovered⟩, rfl⟩

end Rows

end TlSchema
