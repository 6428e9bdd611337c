import Mathlib.Data.List.Forall2
import Mathlib.Data.Option.Defs
import TlSchema.Proofs.FieldMaps

/-!
# What documents keep of values

The document of a value has an item for every item and a member for every field, and one more member
for the type of every object. As long as no field has the name of this member, nothing is
overwritten, and since members are sorted by name, the order of fields cannot be seen. What is lost
is the width of integers and nothing else: two values have the same document exactly if they are the
same once all integers are long (`Value.widened`).
-/

namespace TlSchema

/-! ## Relations on parts -/

section

variable {α β : Type} {R S : α → α → Prop}

theorem forall₂_imp_of_mem {as as' : List α} (h : List.Forall₂ R as as')
    (himp : ∀ a ∈ as, ∀ a' ∈ as', R a a' → S a a') : List.Forall₂ S as as' := by
  induction h with
  | nil => exact .nil
  | @cons a a' as as' hhead _ ih =>
    refine .cons (himp a List.mem_cons_self a' List.mem_cons_self hhead) (ih ?_)
    exact fun b hb b' hb' => himp b (List.mem_cons_of_mem a hb) b' (List.mem_cons_of_mem a' hb')

theorem rel_imp_of_mem {a a' : Option α} (h : Option.Rel R a a')
    (himp : ∀ x ∈ a, ∀ x' ∈ a', R x x' → S x x') : Option.Rel S a a' := by
  cases h with
  | none => exact .none
  | some h => exact .some (himp _ rfl _ rfl h)

theorem rel_map_iff {f : α → β} {T : β → β → Prop} {a a' : Option α} :
    Option.Rel T (a.map f) (a'.map f) ↔ Option.Rel (fun x x' => T (f x) (f x')) a a' := by
  cases a <;> cases a' <;> simp

theorem eq_of_rel {a a' : Option α} (h : Option.Rel (· = ·) a a') : a = a' := by
  cases h with
  | none => rfl
  | some h => exact congrArg some h

end

/-! ## Fields and members -/

namespace Fields

variable {α : Type}

/-- Every name stands once among the fields: they are a map. -/
def Distinct (fields : List (String × α)) : Prop := (fields.map (·.1)).Nodup

instance (fields : List (String × α)) : Decidable (Distinct fields) :=
  inferInstanceAs (Decidable (fields.map (·.1)).Nodup)

/-- No field has the name of the member that documents have for the type. -/
def Unreserved (fields : List (String × α)) : Prop := Value.typeMember ∉ fields.map (·.1)

instance (fields : List (String × α)) : Decidable (Unreserved fields) :=
  inferInstanceAs (Decidable (Value.typeMember ∉ fields.map (·.1)))

theorem find?_eq_none_iff {name : String} {fields : List (String × α)} :
    find? name fields = none ↔ name ∉ fields.map (·.1) := by
  rw [← find?_ne_none_iff, not_not]

theorem find?_map {β : Type} (f : α → β) (name : String) (fields : List (String × α)) :
    find? name (fields.map fun field => (field.1, f field.2)) = (find? name fields).map f := by
  induction fields with
  | nil => rfl
  | cons field rest ih =>
    rw [List.map_cons, find?, find?, ih]
    split_ifs <;> rfl

/-- Setting the fields of a map one after the other sets each of them and leaves the rest. -/
theorem find?_foldl_insert {fields : List (String × α)} (h : Distinct fields) (name : String)
    (start : List (String × α)) :
    find? name (fields.foldl (fun held field => insert field.1 field.2 held) start)
      = (find? name fields).or (find? name start) := by
  induction fields generalizing start with
  | nil => rfl
  | cons field rest ih =>
    obtain ⟨key, a⟩ := field
    obtain ⟨hkey, hrest⟩ := List.nodup_cons.mp h
    rw [List.foldl_cons, ih hrest, find?]
    split_ifs with hname
    · subst hname
      rw [find?_eq_none_iff.mpr hkey, find?_insert_self]
      rfl
    · rw [find?_insert_ne (Ne.symm hname)]

theorem sorted_foldl_insert (fields : List (String × α)) {start : List (String × α)}
    (h : Sorted start) :
    Sorted (fields.foldl (fun held field => insert field.1 field.2 held) start) := by
  induction fields generalizing start with
  | nil => exact h
  | cons field rest ih => exact ih (h.insert field.1 field.2)

end Fields

/-! ## Documents by content -/

/-- Two documents have the same content: items in the same order, and members irrespective of their
order. -/
inductive Json.Same : Json → Json → Prop
  | null : Same .null .null
  | bool (b : Bool) : Same (.bool b) (.bool b)
  | int (n : Int) : Same (.int n) (.int n)
  | str (text : String) : Same (.str text) (.str text)
  | arr {items items' : List Json} (h : List.Forall₂ Same items items') :
      Same (.arr items) (.arr items')
  | obj {members members' : List (String × Json)}
      (h : ∀ name, Option.Rel Same (Fields.find? name members) (Fields.find? name members')) :
      Same (.obj members) (.obj members')

namespace Value

/-- Two values are the same: items in the same order, and fields irrespective of their order. -/
inductive Same : Value → Value → Prop
  | bool (b : Bool) : Same (.bool b) (.bool b)
  | int (n : Int32) : Same (.int n) (.int n)
  | long (n : Int64) : Same (.long n) (.long n)
  | string (text : String) : Same (.string text) (.string text)
  | vector {items items' : List Value} (h : List.Forall₂ Same items items') :
      Same (.vector items) (.vector items')
  | object {typeName : String} {fields fields' : List (String × Value)}
      (h : ∀ name, Option.Rel Same (Fields.find? name fields) (Fields.find? name fields')) :
      Same (.object typeName fields) (.object typeName fields')

mutual

/-- The value with all integers as long ones, at any depth. -/
def widened : Value → Value
  | .int n => .long n.toInt64
  | .vector items => .vector (widenedItems items)
  | .object typeName fields => .object typeName (widenedFields fields)
  | other => other

/-- The values with all integers as long ones. -/
def widenedItems : List Value → List Value
  | [] => []
  | item :: items => item.widened :: widenedItems items

/-- The fields with all integers as long ones. -/
def widenedFields : List (String × Value) → List (String × Value)
  | [] => []
  | (name, held) :: fields => (name, held.widened) :: widenedFields fields

end

/-- The fields of all objects in a value, at any depth, have a property. -/
inductive ForObjects (p : List (String × Value) → Prop) : Value → Prop
  | bool (b : Bool) : ForObjects p (.bool b)
  | int (n : Int32) : ForObjects p (.int n)
  | long (n : Int64) : ForObjects p (.long n)
  | string (text : String) : ForObjects p (.string text)
  | vector {items : List Value} (h : ∀ item ∈ items, ForObjects p item) :
      ForObjects p (.vector items)
  | object {typeName : String} {fields : List (String × Value)} (hfields : p fields)
      (h : ∀ field ∈ fields, ForObjects p field.2) : ForObjects p (.object typeName fields)

end Value

namespace Json.Same

theorem int_eq {m n : Int} (h : Same (.int m) (.int n)) : m = n := by
  cases h
  rfl

theorem str_eq {text text' : String} (h : Same (.str text) (.str text')) : text = text' := by
  cases h
  rfl

mutual

theorem refl : ∀ json : Json, Same json json
  | .null => .null
  | .bool b => .bool b
  | .int n => .int n
  | .str text => .str text
  | .arr items => .arr (refl_items items)
  | .obj members => .obj (refl_members members)

theorem refl_items : ∀ items : List Json, List.Forall₂ Same items items
  | [] => .nil
  | item :: items => .cons (refl item) (refl_items items)

theorem refl_members : ∀ (members : List (String × Json)) (name : String),
    Option.Rel Same (Fields.find? name members) (Fields.find? name members)
  | [], _ => .none
  | (key, json) :: members, name => by
    rw [Fields.find?]
    split_ifs
    · exact .some (refl json)
    · exact refl_members members name

end

end Json.Same

namespace Value

/-! ## Parts of documents and of widened values -/

theorem itemsToJson_eq_map (items : List Value) : itemsToJson items = items.map toJson := by
  induction items with
  | nil => rfl
  | cons item items ih => rw [itemsToJson, ih, List.map_cons]

theorem fieldsToJson_eq_map (fields : List (String × Value)) :
    fieldsToJson fields = fields.map fun field => (field.1, field.2.toJson) := by
  induction fields with
  | nil => rfl
  | cons field fields ih => rw [fieldsToJson, ih, List.map_cons]

theorem widenedItems_eq_map (items : List Value) : widenedItems items = items.map widened := by
  induction items with
  | nil => rfl
  | cons item items ih => rw [widenedItems, ih, List.map_cons]

theorem widenedFields_eq_map (fields : List (String × Value)) :
    widenedFields fields = fields.map fun field => (field.1, field.2.widened) := by
  induction fields with
  | nil => rfl
  | cons field fields ih => rw [widenedFields, ih, List.map_cons]

theorem find?_widenedFields (name : String) (fields : List (String × Value)) :
    Fields.find? name (widenedFields fields) = (Fields.find? name fields).map widened := by
  rw [widenedFields_eq_map, Fields.find?_map]

/-- The document of an object: its members are sorted, one of them has the type, and the others are
the documents of the fields. -/
theorem toJson_object {fields : List (String × Value)} (hdistinct : Fields.Distinct fields)
    (hunreserved : Fields.Unreserved fields) (typeName : String) :
    ∃ members, (object typeName fields).toJson = .obj members ∧ Fields.Sorted members ∧
      ∀ name, Fields.find? name members =
        if name = typeMember then some (.str typeName)
        else (Fields.find? name fields).map toJson := by
  refine ⟨_, rfl, Fields.sorted_foldl_insert _ (by simp [Fields.Sorted]), fun name => ?_⟩
  have hnames : (fieldsToJson fields).map (·.1) = fields.map (·.1) := by
    simp [fieldsToJson_eq_map]
  have hmembers : Fields.Distinct (fieldsToJson fields) := by
    rw [Fields.Distinct, hnames]
    exact hdistinct
  refine (Fields.find?_foldl_insert hmembers name _).trans ?_
  rw [fieldsToJson_eq_map, Fields.find?_map]
  split_ifs with hname
  · rw [hname, Fields.find?_eq_none_iff.mpr hunreserved]
    simp [Fields.find?]
  · simp [Fields.find?, Ne.symm hname]

/-! ## Equal documents -/

/-- The fields of all objects are maps without the name that documents reserve. -/
def HasPlainFields (value : Value) : Prop :=
  value.ForObjects fun fields => Fields.Distinct fields ∧ Fields.Unreserved fields

theorem same_long {m n : Int64} (h : m.toInt = n.toInt) : Same (.long m) (.long n) :=
  Int64.toInt.inj h ▸ .long m

/-- Documents of the same content come from values that differ in the width of integers only. -/
theorem same_widened_of_same_toJson {value other : Value} (hvalue : value.HasPlainFields)
    (hother : other.HasPlainFields) (h : value.toJson.Same other.toJson) :
    value.widened.Same other.widened := by
  induction hvalue generalizing other with
  | bool b =>
    cases hother <;> simp only [toJson] at h <;> cases h
    exact .bool b
  | int n =>
    cases hother with
    | int m => exact same_long (by simpa using h.int_eq)
    | long m => exact same_long (by simpa using h.int_eq)
    | _ =>
      simp only [toJson] at h
      cases h
  | long n =>
    cases hother with
    | int m => exact same_long (by simpa using h.int_eq)
    | long m => exact same_long h.int_eq
    | _ =>
      simp only [toJson] at h
      cases h
  | string text =>
    cases hother with
    | string text' => exact h.str_eq ▸ .string text
    | _ =>
      simp only [toJson] at h
      cases h
  | vector _ ih =>
    cases hother with
    | vector hitems =>
      simp only [toJson, itemsToJson_eq_map] at h
      cases h with
      | arr h =>
        rw [widened, widened, widenedItems_eq_map, widenedItems_eq_map]
        rw [List.forall₂_map_left_iff, List.forall₂_map_right_iff] at h
        refine .vector (List.forall₂_map_left_iff.mpr (List.forall₂_map_right_iff.mpr ?_))
        exact forall₂_imp_of_mem h fun item hi item' hi' => ih item hi (hitems item' hi')
    | _ =>
      simp only [toJson] at h
      cases h
  | @object typeName fields hfields _ ih =>
    obtain ⟨members, hjson, -, hfind⟩ := toJson_object hfields.1 hfields.2 typeName
    rw [hjson] at h
    cases hother with
    | @object typeName' fields' hfields' hheld' =>
      obtain ⟨members', hjson', -, hfind'⟩ := toJson_object hfields'.1 hfields'.2 typeName'
      rw [hjson'] at h
      cases h with
      | obj h =>
        have htype := h typeMember
        rw [hfind, hfind', if_pos rfl, if_pos rfl, Option.rel_some_some] at htype
        rw [htype.str_eq, widened, widened]
        refine .object fun name => ?_
        rw [find?_widenedFields, find?_widenedFields]
        by_cases hname : name = typeMember
        · -- the member for the type is no field
          rw [hname, Fields.find?_eq_none_iff.mpr hfields.2,
            Fields.find?_eq_none_iff.mpr hfields'.2]
          exact .none
        · have hheld := h name
          rw [hfind, hfind', if_neg hname, if_neg hname, rel_map_iff] at hheld
          refine rel_map_iff.mpr (rel_imp_of_mem hheld fun held hx held' hx' => ?_)
          exact ih (name, held) (Fields.mem_of_find? hx) (hheld' _ (Fields.mem_of_find? hx'))
    | _ =>
      simp only [toJson] at h
      cases h

/-- Values that are the same have the same document. -/
theorem toJson_eq_of_same {value other : Value} (hvalue : value.HasPlainFields)
    (hother : other.HasPlainFields) (h : value.Same other) : value.toJson = other.toJson := by
  induction hvalue generalizing other with
  | bool | int | long | string =>
    cases h
    rfl
  | vector _ ih =>
    cases h with
    | vector h =>
      cases hother with
      | vector hitems =>
        rw [toJson, toJson, itemsToJson_eq_map, itemsToJson_eq_map, Json.arr.injEq,
          ← List.forall₂_eq_eq_eq, List.forall₂_map_left_iff, List.forall₂_map_right_iff]
        exact forall₂_imp_of_mem h fun item hi item' hi' => ih item hi (hitems item' hi')
  | @object typeName fields hfields _ ih =>
    cases h with
    | @object _ _ fields' h =>
      cases hother with
      | object hfields' hheld' =>
        obtain ⟨members, hjson, hsorted, hfind⟩ := toJson_object hfields.1 hfields.2 typeName
        obtain ⟨members', hjson', hsorted', hfind'⟩ := toJson_object hfields'.1 hfields'.2 typeName
        have hmembers : members = members' := by
          refine hsorted.ext hsorted' fun name => ?_
          rw [hfind, hfind']
          split_ifs
          · rfl
          · refine eq_of_rel (rel_map_iff.mpr (rel_imp_of_mem (h name) fun held hx held' hx' => ?_))
            exact ih (name, held) (Fields.mem_of_find? hx) (hheld' _ (Fields.mem_of_find? hx'))
        rw [hjson, hjson', hmembers]

/-! ## Widened values -/

mutual

/-- Long integers are written like short ones. -/
theorem toJson_widened : ∀ value : Value, value.widened.toJson = value.toJson
  | .bool _ => rfl
  | .int n => by rw [widened, toJson, toJson, Int32.toInt_toInt64]
  | .long _ => rfl
  | .string _ => rfl
  | .vector items => by rw [widened, toJson, toJson, itemsToJson_widened items]
  | .object typeName fields => by rw [widened, toJson, toJson, fieldsToJson_widened fields]

theorem itemsToJson_widened :
    ∀ items : List Value, itemsToJson (widenedItems items) = itemsToJson items
  | [] => rfl
  | item :: items => by
    rw [widenedItems, itemsToJson, itemsToJson, toJson_widened item, itemsToJson_widened items]

theorem fieldsToJson_widened :
    ∀ fields : List (String × Value), fieldsToJson (widenedFields fields) = fieldsToJson fields
  | [] => rfl
  | (name, held) :: fields => by
    rw [widenedFields, fieldsToJson, fieldsToJson, toJson_widened held, fieldsToJson_widened fields]

end

theorem ForObjects.widened {p : List (String × Value) → Prop}
    (hp : ∀ fields, p fields → p (widenedFields fields)) {value : Value} (h : value.ForObjects p) :
    value.widened.ForObjects p := by
  induction h with
  | bool b => exact .bool b
  | int n => exact .long _
  | long n => exact .long n
  | string text => exact .string text
  | vector _ ih =>
    rw [Value.widened, widenedItems_eq_map]
    exact .vector (List.forall_mem_map.mpr ih)
  | object hfields _ ih =>
    have hheld := hp _ hfields
    rw [widenedFields_eq_map] at hheld
    rw [Value.widened, widenedFields_eq_map]
    exact .object hheld (List.forall_mem_map.mpr ih)

theorem map_fst_widenedFields (fields : List (String × Value)) :
    (widenedFields fields).map (·.1) = fields.map (·.1) := by
  simp [widenedFields_eq_map]

/-- Where fields are sorted, values that are the same are equal. -/
theorem Same.eq_of_sorted {value other : Value} (hvalue : value.ForObjects Fields.Sorted)
    (hother : other.ForObjects Fields.Sorted) (h : value.Same other) : value = other := by
  induction hvalue generalizing other with
  | bool | int | long | string =>
    cases h
    rfl
  | vector _ ih =>
    cases h with
    | vector h =>
      cases hother with
      | vector hitems =>
        rw [vector.injEq, ← List.forall₂_eq_eq_eq]
        exact forall₂_imp_of_mem h fun item hi item' hi' => ih item hi (hitems item' hi')
  | @object typeName fields hfields _ ih =>
    cases h with
    | @object _ _ fields' h =>
      cases hother with
      | object hfields' hheld' =>
        have hmaps : fields = fields' := by
          refine hfields.ext hfields' fun name => ?_
          refine eq_of_rel (rel_imp_of_mem (h name) fun held hx held' hx' => ?_)
          exact ih (name, held) (Fields.mem_of_find? hx) (hheld' _ (Fields.mem_of_find? hx'))
        rw [hmaps]

theorem HasPlainFields.widened {value : Value} (h : value.HasPlainFields) :
    value.widened.HasPlainFields := by
  refine ForObjects.widened (fun fields hfields => ?_) h
  rw [Fields.Distinct, Fields.Unreserved, map_fst_widenedFields]
  exact hfields

theorem sorted_widened {value : Value} (h : value.ForObjects Fields.Sorted) :
    value.widened.ForObjects Fields.Sorted := by
  refine ForObjects.widened (fun fields hfields => ?_) h
  rw [widenedFields_eq_map]
  exact List.pairwise_map.mpr hfields

/-- Documents lose the width of integers and nothing else: values in which no field has the reserved
name have the same document exactly if they are the same once all integers are long. It makes no
difference whether members are compared in order. Where fields are sorted, the widened values are
then equal. -/
theorem toJson_eq_iff_widened_same {value other : Value} (hvalue : value.HasPlainFields)
    (hother : other.HasPlainFields) :
    (value.toJson = other.toJson ↔ value.widened.Same other.widened) ∧
    (value.toJson.Same other.toJson ↔ value.widened.Same other.widened) ∧
    (value.ForObjects Fields.Sorted → other.ForObjects Fields.Sorted →
      (value.toJson = other.toJson ↔ value.widened = other.widened)) := by
  have hequal : value.widened.Same other.widened → value.toJson = other.toJson := by
    intro h
    rw [← toJson_widened value, ← toJson_widened other]
    exact toJson_eq_of_same hvalue.widened hother.widened h
  have hcontent : value.toJson = other.toJson → value.toJson.Same other.toJson := by
    intro h
    rw [h]
    exact .refl _
  have hsame := same_widened_of_same_toJson hvalue hother
  refine ⟨⟨hsame ∘ hcontent, hequal⟩, ⟨hsame, hcontent ∘ hequal⟩, fun hsorted hsorted' => ?_⟩
  constructor
  · intro h
    exact (hsame (hcontent h)).eq_of_sorted (sorted_widened hsorted) (sorted_widened hsorted')
  · intro h
    rw [← toJson_widened value, ← toJson_widened other, h]

-- a field with the reserved name takes the place of the type
example : (object "a_B" [(typeMember, .string "a_C")]).toJson = (object "a_C" []).toJson := rfl

namespace MixedWidths

/-- An object with integers of both widths. -/
def inOrder : Value :=
  .object "a_B" [("x", .int 7), ("y", .vector [.long (-1), .object "a_C" [("z", .int 0)]])]

/-- The same object with the other widths, and with its fields in another order. -/
def reordered : Value :=
  .object "a_B" [("y", .vector [.int (-1), .object "a_C" [("z", .long 0)]]), ("x", .long 7)]

theorem documents_of_reordered :
    inOrder.HasPlainFields ∧ reordered.HasPlainFields ∧ inOrder.toJson = reordered.toJson ∧
      inOrder.widened.Same reordered.widened := by
  have hinOrder : inOrder.HasPlainFields := by
    refine .object (by decide) (List.forall_mem_cons.mpr ⟨.int 7, List.forall_mem_singleton.mpr ?_⟩)
    refine .vector (List.forall_mem_cons.mpr ⟨.long _, List.forall_mem_singleton.mpr ?_⟩)
    exact .object (by decide) (List.forall_mem_singleton.mpr (.int 0))
  have hreordered : reordered.HasPlainFields := by
    refine .object (by decide)
      (List.forall_mem_cons.mpr ⟨?_, List.forall_mem_singleton.mpr (.long 7)⟩)
    refine .vector (List.forall_mem_cons.mpr ⟨.int _, List.forall_mem_singleton.mpr ?_⟩)
    exact .object (by decide) (List.forall_mem_singleton.mpr (.long 0))
  have hjson : inOrder.toJson = reordered.toJson := rfl
  exact ⟨hinOrder, hreordered, hjson, (toJson_eq_iff_widened_same hinOrder hreordered).1.mp hjson⟩

end MixedWidths

end Value

end TlSchema
