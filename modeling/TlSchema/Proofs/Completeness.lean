import TlSchema.Proofs.Canonical
import TlSchema.Proofs.Strictness

/-!
# What strict reading gives

An object that has been read strictly has all fields of its plan and no others. A guarded field
whose bit is clear in the flags of the object holds its default, and all other fields have been
read: they have the shape of their codec, and the objects in them have been read in the same way.

The bits that count are those of the flags that the object has in the end. Flags come before the
fields they guard, so no field that is read after a guarded one can change them.
-/

namespace TlSchema

open Wire

/-! ## Texts -/

namespace Wire

/-- The text has been read from bytes of a size that a length can say. -/
def IsReading (text : String) : Prop :=
  ∃ payload : ByteArray, payload.size ≤ maxPayload ∧ text = Text.Utf8.decode payload

theorem LittleEndian.value_lt (bs : List UInt8) : value bs < 0x100 ^ bs.length := by
  induction bs with
  | nil => simp [value]
  | cons b bs ih =>
    have hb := b.toNat_lt
    rw [value, List.length_cons, Nat.pow_succ]
    omega

theorem size_of_bytes {n : Nat} {c c' : Cursor} {bs : ByteArray}
    (h : Reader.bytes n c = .ok bs c') : bs.size = n := by
  unfold Reader.bytes at h
  split at h
  next hle =>
    cases h
    have hindex := c.index_le
    unfold Cursor.remaining at hle
    rw [ByteArray.size_extract]
    omega
  next => cases h

theorem number_lt {width n : Nat} {c c' : Cursor} (h : Reader.number width c = .ok n c') :
    n < 0x100 ^ width := by
  obtain ⟨bs, mid, hbs, hn⟩ := bind_eq_ok.mp h
  cases hn
  have hlt := LittleEndian.value_lt bs.data.toList
  rwa [Array.length_toList, show bs.data.size = width from size_of_bytes hbs] at hlt

/-- No length says more than can be written. -/
theorem lengthHeader_le {size header : Nat} {c c' : Cursor}
    (h : Reader.lengthHeader c = .ok (size, header) c') : size ≤ maxPayload := by
  obtain ⟨first, mid, -, hrest⟩ := bind_eq_ok.mp h
  split_ifs at hrest
  · cases hrest
    have hfirst := first.toNat_lt
    unfold maxPayload
    omega
  · obtain ⟨n, mid', hn, hsize⟩ := bind_eq_ok.mp hrest
    cases hsize
    have hlt := number_lt hn
    unfold maxPayload
    omega

theorem isReading_string {c c' : Cursor} {text : String}
    (h : Decoder.wire Reader.string c = .ok text c') : IsReading text := by
  have hstring : Reader.string c = .ok text c' := by
    unfold Decoder.wire EStateM.adaptExcept at h
    split at h
    · cases h
    next hok =>
      cases h
      exact hok
  obtain ⟨payload, mid, hpayload, htext⟩ := bind_eq_ok.mp hstring
  cases htext
  refine ⟨payload, ?_, rfl⟩
  obtain ⟨length, mid', hlength, hrest⟩ := bind_eq_ok.mp hpayload
  obtain ⟨size, header⟩ := length
  obtain ⟨bs, mid'', hbs, hrest⟩ := bind_eq_ok.mp hrest
  obtain ⟨pad, mid''', -, hbytes⟩ := bind_eq_ok.mp hrest
  cases hbytes
  rw [size_of_bytes hbs]
  exact lengthHeader_le hlength

end Wire

/-! ## Values -/

/-- Strictly, a list lacks no items. -/
theorem readItems_ne_none {read : Decoder (Option Value)}
    (h : ∀ c c', read c ≠ .ok none c') (count : Nat) (items : Array Value) (c c' : Cursor) :
    readItems read count items c ≠ .ok none c' := by
  induction count generalizing items c with
  | zero =>
    intro hread
    cases hread
  | succ count ih =>
    intro hread
    obtain ⟨item?, mid, hitem, hrest⟩ := Wire.bind_eq_ok.mp hread
    cases item? with
    | none => exact h c mid hitem
    | some item => exact ih (items.push item) mid hrest

/-- Strictly, a missing framing tag is an error, so there always is a value. -/
theorem Codec.read_strict_ne_none (deeper : String → Decoder Value) (owner : String) (codec : Codec)
    (c c' : Cursor) : codec.read deeper owner true c ≠ .ok none c' := by
  induction codec generalizing c c' with
  | vector tag element ih =>
    intro h
    obtain ⟨found, mid, -, hrest⟩ := Wire.bind_eq_ok.mp h
    by_cases htag : found = tag
    · rw [if_pos htag] at hrest
      obtain ⟨count, mid', -, hrest⟩ := Wire.bind_eq_ok.mp hrest
      obtain ⟨items?, mid'', hitems, hvalue⟩ := Wire.bind_eq_ok.mp hrest
      cases items? with
      | none => exact readItems_ne_none ih _ _ _ _ hitems
      | some items => cases hvalue
    · rw [if_neg htag] at hrest
      cases hrest
  | _ =>
    intro h
    obtain ⟨found, mid, -, hvalue⟩ := Wire.bind_eq_ok.mp h
    cases hvalue

/-! ## Fields -/

theorem Value.flagWord_eq {typeName name : String} {held held' : List (String × Value)}
    (h : Fields.find? name held' = Fields.find? name held) :
    (Value.object typeName held').flagWord name = (Value.object typeName held).flagWord name := by
  rw [flagWord, flagWord, get?_object, get?_object, h]

/-- Flags do not come after a field that they guard. -/
theorem Plan.Regular.flags_notMem {plan : Plan} {vectorTag : UInt32} (h : plan.Regular vectorTag)
    {before after : List FieldPlan} {field : FieldPlan}
    (heq : plan.fields = before ++ field :: after) (hbit : field.flagBit? ≠ none) :
    flagsName ∉ (field :: after).map (·.name) := by
  obtain ⟨flags, hflags, -, hname⟩ := h.flags_before before field after heq hbit
  have hnodup := h.names_nodup
  rw [heq, List.map_append] at hnodup
  intro hmem
  exact (List.disjoint_of_nodup_append hnodup) (List.mem_map.mpr ⟨flags, hflags, hname⟩) hmem

section

variable {text : String → Prop} {object : String → Value → Prop} {plan : Plan} {vectorTag : UInt32}
  {readDeeper : String → Decoder Value}

/-- The fields `fields` of a plan have been read into what was held before: a field that its guard
leaves out holds what it held, and every other one holds something of its shape. -/
structure Plan.ReadInto (plan : Plan) (vectorTag : UInt32) (text : String → Prop)
    (object : String → Value → Prop) (fields : List FieldPlan) (typeName : String)
    (held held' : List (String × Value)) : Prop where
  sorted : Fields.Sorted held → Fields.Sorted held'
  others : ∀ name ∉ fields.map (·.name), Fields.find? name held' = Fields.find? name held
  read : ∀ field ∈ fields,
    plan.fate ((Value.object typeName held').flagWord flagsName) field ≠ .nothing →
      ∃ value, Fields.find? field.name held' = some value ∧
        (field.codec vectorTag).Admits text object value
  unread : ∀ field ∈ fields,
    plan.fate ((Value.object typeName held').flagWord flagsName) field = .nothing →
      Fields.find? field.name held' = Fields.find? field.name held

namespace Plan.ReadInto

variable {fields : List FieldPlan} {field : FieldPlan} {typeName : String}
  {held held' : List (String × Value)}

/-- One more field has been read before the others. -/
theorem cons_read {value : Value} (hname : field.name ∉ fields.map (·.name))
    (h : plan.ReadInto vectorTag text object fields typeName
      (Fields.insert field.name value held) held')
    (hvalue : (field.codec vectorTag).Admits text object value)
    (hfate : plan.fate ((Value.object typeName held').flagWord flagsName) field ≠ .nothing) :
    plan.ReadInto vectorTag text object (field :: fields) typeName held held' := by
  have hfield : Fields.find? field.name held' = some value := by
    rw [h.others field.name hname, Fields.find?_insert_self]
  refine ⟨fun hsorted => h.sorted (hsorted.insert field.name value), ?_, ?_, ?_⟩
  · intro name hmem
    rw [List.map_cons, List.mem_cons, not_or] at hmem
    rw [h.others name hmem.2, Fields.find?_insert_ne hmem.1]
  · intro other ho hother
    rcases List.mem_cons.mp ho with rfl | ho
    · exact ⟨value, hfield, hvalue⟩
    · exact h.read other ho hother
  · intro other ho hother
    rcases List.mem_cons.mp ho with rfl | ho
    · exact absurd hother hfate
    · have hne : other.name ≠ field.name := fun heq => hname (List.mem_map.mpr ⟨other, ho, heq⟩)
      rw [h.unread other ho hother, Fields.find?_insert_ne hne]

/-- One more field has been passed over before the others. -/
theorem cons_skip (hname : field.name ∉ fields.map (·.name))
    (h : plan.ReadInto vectorTag text object fields typeName held held')
    (hfate : plan.fate ((Value.object typeName held').flagWord flagsName) field = .nothing) :
    plan.ReadInto vectorTag text object (field :: fields) typeName held held' := by
  refine ⟨h.sorted, ?_, ?_, ?_⟩
  · intro name hmem
    rw [List.map_cons, List.mem_cons, not_or] at hmem
    exact h.others name hmem.2
  · intro other ho hother
    rcases List.mem_cons.mp ho with rfl | ho
    · exact absurd hfate hother
    · exact h.read other ho hother
  · intro other ho hother
    rcases List.mem_cons.mp ho with rfl | ho
    · exact h.others other.name hname
    · exact h.unread other ho hother

end Plan.ReadInto

theorem Plan.Regular.readInto_of_readFields (h : plan.Regular vectorTag)
    (htext : ∀ c s c', Decoder.wire Reader.string c = .ok s c' → text s)
    (hdeeper : ∀ name c value c', readDeeper name c = .ok value c' →
      (Codec.object name).Admits text object value)
    (owner : String) {typeName : String} {before fields : List FieldPlan}
    (heq : plan.fields = before ++ fields) {held : List (String × Value)} {c c' : Cursor}
    {value : Value}
    (hread : readFields readDeeper owner true (fields.map (FieldPlan.decodeStep vectorTag))
      (.object typeName held) c = .ok value c') :
    ∃ held', value = .object typeName held' ∧
      plan.ReadInto vectorTag text object fields typeName held held' := by
  induction fields generalizing before held c with
  | nil =>
    cases hread
    exact ⟨held, rfl, fun hs => hs, fun _ _ => rfl, fun _ hf => absurd hf List.not_mem_nil,
      fun _ hf => absurd hf List.not_mem_nil⟩
  | cons field fields ih =>
    have heq' : plan.fields = (before ++ [field]) ++ fields := by rw [heq]; simp
    have hname : field.name ∉ fields.map (·.name) := by
      have hnodup := h.names_nodup
      rw [heq, List.map_append, List.map_cons] at hnodup
      exact (List.nodup_cons.mp (List.nodup_append.mp hnodup).2.1).1
    -- whether it is guarded or not, a field that is read is set to a value of its shape
    have hset : ∀ {c}, readFields readDeeper owner true (.read field.name (field.codec vectorTag) ::
          fields.map (FieldPlan.decodeStep vectorTag)) (.object typeName held) c = .ok value c' →
        ∃ found held', value = .object typeName held' ∧
          (field.codec vectorTag).Admits text object found ∧
          plan.ReadInto vectorTag text object fields typeName
            (Fields.insert field.name found held) held' := by
      intro c hrun
      obtain ⟨found?, mid, hfound, hrest⟩ := Wire.bind_eq_ok.mp hrun
      cases found? with
      | none => exact absurd hfound (Codec.read_strict_ne_none _ _ _ _ _)
      | some found =>
        obtain ⟨held', hvalue, hinto⟩ := ih heq' hrest
        exact ⟨found, held', hvalue, Codec.admits_read htext hdeeper owner true hfound, hinto⟩
    rw [List.map_cons] at hread
    unfold FieldPlan.decodeStep at hread
    cases hbit : field.flagBit? with
    | none =>
      simp only [hbit] at hread
      obtain ⟨found, held', hvalue, hadmits, hinto⟩ := hset hread
      refine ⟨held', hvalue, hinto.cons_read hname hadmits ?_⟩
      rw [Ne, Plan.fate_eq_nothing_iff, hbit]
      simp
    | some bit =>
      simp only [hbit] at hread
      rw [readFields_readIfFlag] at hread
      -- neither this field nor one behind it holds the flags
      have hflags := h.flags_notMem heq (by rw [hbit]; simp)
      rw [List.map_cons, List.mem_cons, not_or] at hflags
      by_cases hhas : Flags.has ((Value.object typeName held).flagWord flagsName) bit = true
      · rw [if_pos hhas] at hread
        obtain ⟨found, held', hvalue, hadmits, hinto⟩ := hset hread
        have hword : Fields.find? flagsName held' = Fields.find? flagsName held := by
          rw [hinto.others flagsName hflags.2, Fields.find?_insert_ne hflags.1]
        refine ⟨held', hvalue, hinto.cons_read hname hadmits ?_⟩
        rw [plan.fate_of_guarded _ hbit, Value.flagWord_eq hword, if_pos hhas]
        simp
      · rw [if_neg hhas] at hread
        obtain ⟨held', hvalue, hinto⟩ := ih heq' hread
        have hword := hinto.others flagsName hflags.2
        refine ⟨held', hvalue, hinto.cons_skip hname ?_⟩
        rw [plan.fate_of_guarded _ hbit, Value.flagWord_eq hword, if_neg hhas]

end

/-! ## Objects -/

namespace Registry

/-- The fields of an object are those of its plan as they have been read strictly, where `deeper`
says it for the objects in it. -/
structure CompleteFields (vectorTag : UInt32) (deeper : Value → Prop) (plan : Plan)
    (object : Value) : Prop where
  /-- The object has the fields of the plan and no others. -/
  names : ∀ name, object.get? name ≠ none ↔ name ∈ plan.fields.map (·.name)
  /-- A field that the flags do not leave out has been read. -/
  read : ∀ field ∈ plan.fields, plan.fate (object.flagWord flagsName) field ≠ .nothing →
    ∃ held, object.get? field.name = some held ∧
      (field.codec vectorTag).Admits IsReading (fun _ => deeper) held
  /-- A field that they leave out holds its default. -/
  unread : ∀ field ∈ plan.fields, plan.fate (object.flagWord flagsName) field = .nothing →
    object.get? field.name = some field.initial.value

/-- The value is an object as it has been read strictly, where `deeper` says it for the objects in
it. -/
def CompleteWith (registry : Registry) (vectorTag : UInt32) (deeper : Value → Prop) : Value → Prop
  | .object typeName fields => Fields.Sorted fields ∧ ∃ plan, registry.plan typeName = .ok plan ∧
      CompleteFields vectorTag deeper plan (.object typeName fields)
  | _ => False

/-- The value is an object as it has been read strictly, with fewer than `depth` levels of objects
in it. -/
def Complete (registry : Registry) (vectorTag : UInt32) : (depth : Nat) → Value → Prop
  | 0 => fun _ => False
  | depth + 1 => registry.CompleteWith vectorTag (registry.Complete vectorTag depth)

variable {registry : Registry} {vectorTag : UInt32} {plan : Plan}
  {readDeeper : String → Decoder Value} {deeper : Value → Prop}

theorem Complete.admits {depth : Nat} {value : Value}
    (h : registry.Complete vectorTag depth value) (name : String) :
    (Codec.object name).Admits IsReading (fun _ => registry.Complete vectorTag depth) value := by
  cases depth with
  | zero => exact h.elim
  | succ depth =>
    cases value with
    | object typeName fields => exact h
    | _ => exact h.elim

theorem completeWith_readObjectWith (hreg : registry.Regular vectorTag)
    (hdeeper : ∀ name c value c', readDeeper name c = .ok value c' →
      (Codec.object name).Admits IsReading (fun _ => deeper) value)
    {entry : String} {tag : UInt32} {c c' : Cursor} {value : Value}
    (h : registry.readObjectWith true readDeeper entry tag c = .ok (some value) c') :
    registry.CompleteWith vectorTag deeper value := by
  obtain ⟨plan?, mid, hresolve, hrest⟩ := Wire.bind_eq_ok.mp h
  obtain ⟨hfound, rfl⟩ := Decoder.ofExcept_eq_ok.mp hresolve
  cases plan? with
  | none => cases hrest
  | some plan =>
    have hplan := plan_of_resolve hfound
    have hregular := hreg.plans hplan
    obtain ⟨unset, hunset, hsorted, hinitial, hnone⟩ := hregular.unset_object
    obtain ⟨first, mid, hinst, hrest⟩ := Wire.bind_eq_ok.mp hrest
    obtain ⟨hinst, rfl⟩ := Decoder.ofExcept_eq_ok.mp hinst
    rw [instantiate, hplan] at hinst
    cases hinst
    rw [hunset, hregular.decode_eq] at hrest
    obtain ⟨read, mid', hread, hvalue⟩ := Wire.bind_eq_ok.mp hrest
    cases hvalue
    obtain ⟨held, rfl, hinto⟩ := hregular.readInto_of_readFields (fun _ _ _ => isReading_string)
      hdeeper plan.typeName (List.nil_append _).symm hread
    refine ⟨hinto.sorted hsorted, plan, hplan, ?_, hinto.read, ?_⟩
    · intro name
      rw [Value.get?_object]
      by_cases hname : name ∈ plan.fields.map (·.name)
      · obtain ⟨field, hf, rfl⟩ := List.mem_map.mp hname
        refine ⟨fun _ => hname, fun _ hheld => ?_⟩
        by_cases hfate : plan.fate ((Value.object plan.typeName held).flagWord flagsName) field
            = .nothing
        · rw [hinto.unread field hf hfate, hinitial field hf] at hheld
          cases hheld
        · obtain ⟨found, hfound, -⟩ := hinto.read field hf hfate
          cases hheld.symm.trans hfound
      · rw [hinto.others name hname, hnone name hname]
        exact ⟨fun hne => absurd rfl hne, fun hmem => absurd hmem hname⟩
    · intro field hf hfate
      rw [Value.get?_object, hinto.unread field hf hfate, hinitial field hf]

/-- Whatever is read strictly is complete. -/
theorem complete_readObject (hreg : registry.Regular vectorTag) {levels : Nat} {entry : String}
    {tag : UInt32} {c c' : Cursor} {value : Value}
    (h : registry.readObject true levels entry tag c = .ok (some value) c') :
    registry.Complete vectorTag (levels + 1) value := by
  induction levels generalizing entry tag c c' value with
  | zero =>
    refine completeWith_readObjectWith hreg (fun name c value c' hread => ?_) h
    cases hread
  | succ levels ih =>
    refine completeWith_readObjectWith hreg (fun name c value c' hread => ?_) h
    obtain ⟨tag', mid, -, hrest⟩ := Wire.bind_eq_ok.mp hread
    obtain ⟨found?, mid', hfound, hobject⟩ := Wire.bind_eq_ok.mp hrest
    cases found? with
    | none => exact absurd hfound (registry.readObject_strict_ne_none _ _ _ _ _)
    | some found =>
      cases hobject
      exact (ih hfound).admits name

theorem complete_decodeNext (hreg : registry.Regular vectorTag) {entry : String} {c c' : Cursor}
    {value : Value} (h : registry.decodeNext entry true c = .ok (some value) c') :
    registry.Complete vectorTag (maxNesting + 1) value := by
  obtain ⟨tag, mid, -, hrest⟩ := Wire.bind_eq_ok.mp h
  exact complete_readObject hreg hrest

theorem complete_decode (hreg : registry.Regular vectorTag) {bytes : ByteArray} {entry : String}
    {value : Value} (h : registry.decode bytes entry true = .ok (some value)) :
    registry.Complete vectorTag (maxNesting + 1) value := by
  unfold decode at h
  split at h
  next found place hrun =>
    cases h
    exact complete_decodeNext hreg hrun
  next => cases h

/-! ## Defaults and flags of complete objects -/

/-- What a field of a complete object holds has been read, or it is the default. -/
theorem CompleteFields.admits_or_initial {object held : Value}
    (h : CompleteFields vectorTag deeper plan object) {field : FieldPlan} (hf : field ∈ plan.fields)
    (hheld : object.get? field.name = some held) :
    (field.codec vectorTag).Admits IsReading (fun _ => deeper) held ∨
      held = field.initial.value := by
  by_cases hfate : plan.fate (object.flagWord flagsName) field = .nothing
  · right
    exact Option.some.inj (hheld.symm.trans (h.unread field hf hfate))
  · obtain ⟨found, hfound, hadmits⟩ := h.read field hf hfate
    cases hheld.symm.trans hfound
    exact Or.inl hadmits

theorem CompleteFields.shallow {object held : Value} {typeName : String}
    (h : CompleteFields vectorTag deeper plan object) (hreg : registry.Regular vectorTag)
    (hplan : registry.plan typeName = .ok plan) {field : FieldPlan} (hf : field ∈ plan.fields)
    (hheld : object.get? field.name = some held) : registry.Shallow deeper held := by
  rintro name inner rfl
  rcases h.admits_or_initial hf hheld with hadmits | hinitial
  · right
    cases hcodec : field.codec vectorTag with
    | object entry =>
      rw [hcodec] at hadmits
      exact hadmits
    | _ =>
      rw [hcodec] at hadmits
      exact hadmits.elim
  · obtain ⟨rfl, hleaf⟩ := ((hreg.plans hplan).isInitial field hf).of_object hinitial.symm
    exact Or.inl ⟨rfl, hreg.defined hplan field hf name hleaf⟩

/-- There is a plan for the object that a field has as its default. -/
theorem Regular.exists_plan_of_initial (hreg : registry.Regular vectorTag) {typeName : String}
    (hplan : registry.plan typeName = .ok plan) {field : FieldPlan} (hf : field ∈ plan.fields)
    {leaf : String} (hinitial : field.initial = .construct leaf) :
    ∃ named, registry.plan leaf = .ok named := by
  have hvalue : field.initial.value = .object leaf [] := by rw [hinitial]; rfl
  exact hreg.defined hplan field hf leaf
    (((hreg.plans hplan).isInitial field hf).of_object hvalue).2

section

variable {depth : Nat} {typeName : String} {object : Value}

/-- What the fields of a complete object hold can be compared with their defaults. -/
theorem CompleteFields.comparable
    (h : CompleteFields vectorTag (registry.Complete vectorTag depth) plan object)
    (hreg : registry.Regular vectorTag) (hplan : registry.plan typeName = .ok plan)
    {field : FieldPlan} (hf : field ∈ plan.fields) : registry.Comparable depth object field := by
  intro held hheld
  refine exists_isDefault_of_shallow (fun _ h => h) (fun depth typeName fields hcomplete => ?_)
    depth field.initial (h.shallow hreg hplan hf hheld)
  obtain ⟨-, plan, hplan, hfields⟩ := hcomplete
  exact ⟨plan, hplan, fun field hf held hheld => hfields.shallow hreg hplan hf hheld⟩

/-- The default of a field is at the default. -/
theorem Regular.atDefault_initial (hreg : registry.Regular vectorTag)
    (hplan : registry.plan typeName = .ok plan) {field : FieldPlan} (hf : field ∈ plan.fields) :
    registry.AtDefault field.initial field.initial.value :=
  atDefault_value fun _ hinitial => hreg.exists_plan_of_initial hplan hf hinitial

/-- A field that is written has been read. If its bit is set, the last field of the bit differs from
its default, so the bit was set when that one was read. -/
theorem CompleteFields.fate_ne_nothing
    (h : CompleteFields vectorTag (registry.Complete vectorTag depth) plan object)
    (hreg : registry.Regular vectorTag) (hplan : registry.plan typeName = .ok plan) {word : UInt32}
    (hword : registry.wordOf depth plan object = .ok word) {field : FieldPlan}
    (hf : field ∈ plan.fields) (hfate : plan.fate word field ≠ .nothing) :
    plan.fate (object.flagWord flagsName) field ≠ .nothing := by
  intro hnothing
  obtain ⟨bit, hbit, hclear⟩ := Plan.fate_eq_nothing_iff.mp hnothing
  have hmem : field ∈ plan.guardedBy bit := Plan.mem_guardedBy.mpr ⟨hf, hbit⟩
  obtain ⟨last, hlast⟩ : ∃ last, (plan.guardedBy bit).getLast? = some last :=
    ⟨_, List.getLast?_eq_some_getLast (List.ne_nil_of_mem hmem)⟩
  obtain ⟨hlf, hlbit⟩ := Plan.mem_guardedBy.mp (List.mem_of_getLast? hlast)
  have hhas : Flags.has word bit = true := by
    by_contra hhas
    exact hfate (Plan.fate_eq_nothing_iff.mpr ⟨bit, hbit, Bool.eq_false_iff.mpr hhas⟩)
  rw [has_wordOf_eq_differs (hreg.plans hplan) hword hlast] at hhas
  obtain ⟨held, hheld, hdiffers⟩ := differs_iff.mp hhas
  rw [h.unread last hlf (Plan.fate_eq_nothing_iff.mpr ⟨bit, hlbit, hclear⟩)] at hheld
  cases hheld
  exact Bool.false_ne_true ((isDefault_iff hdiffers).mpr (hreg.atDefault_initial hplan hlf))

end

end Registry

end TlSchema
