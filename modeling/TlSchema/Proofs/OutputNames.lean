import TlSchema.Proofs.Rules
import TlSchema.Proofs.Spelling

/-!
# Keys that share an output name

An output name is the segments of a key with underscores between them. Keys of plain characters have
no underscores of their own, so the segments can be read off the name again, also those that are
empty. All that is lost is the case of initials: of a single segment, and of every segment after the
first of several. So two plain keys have the same output name exactly if they agree up to these
initials (`KeysAlike`), and a reference is accepted exactly if it agrees with some key in this way.
-/

namespace TlSchema

/-- The characters of plain keys: ASCII letters, digits and dots. -/
def plainChar (c : Char) : Bool := c.isAlphanum || c = '.'

/-! ## Segments -/

namespace Text

theorem segments_eq_splitOn (separator : Char) (cs : List Char) :
    (segments separator cs).1 :: (segments separator cs).2 = cs.splitOn separator := by
  induction cs with
  | nil => rfl
  | cons c cs ih =>
    rw [List.splitOn_cons_eq_if_modifyHead, ← ih, segments]
    by_cases h : c = separator <;> simp [h]

/-- The characters of a segment are characters of the text, and none is the separator. -/
theorem mem_of_mem_splitOn {separator : Char} {cs segment : List Char}
    (h : segment ∈ cs.splitOn separator) : ∀ c ∈ segment, c ∈ cs ∧ c ≠ separator := by
  induction cs generalizing segment with
  | nil =>
    rw [List.splitOn_nil, List.mem_singleton] at h
    simp [h]
  | cons d cs ih =>
    rw [List.splitOn_cons_eq_if_modifyHead, ← segments_eq_splitOn] at h
    rw [← segments_eq_splitOn] at ih
    intro c hc
    by_cases hd : d = separator
    · rw [if_pos (beq_iff_eq.mpr hd), List.mem_cons] at h
      rcases h with rfl | h
      · cases hc
      · exact (ih h c hc).imp_left (List.mem_cons_of_mem d)
    · rw [if_neg (mt beq_iff_eq.mp hd), List.modifyHead_cons, List.mem_cons] at h
      rcases h with rfl | h
      · rcases List.mem_cons.mp hc with rfl | hc
        · exact ⟨List.mem_cons_self, hd⟩
        · exact (ih List.mem_cons_self c hc).imp_left (List.mem_cons_of_mem d)
      · exact (ih (List.mem_cons_of_mem _ h) c hc).imp_left (List.mem_cons_of_mem d)

/-- The first character in upper case and the rest as it is. -/
def upperInitial (segment : List Char) : List Char := segment.modifyHead Char.toUpper

theorem toNat_lt_of_isAlphanum {c : Char} (h : c.isAlphanum = true) : c.toNat < 0x80 := by
  change (decide ('A'.val ≤ c.val ∧ c.val ≤ 'Z'.val) ||
    decide ('a'.val ≤ c.val) && decide (c.val ≤ 'z'.val) ||
    decide ('0'.val ≤ c.val) && decide (c.val ≤ '9'.val)) = true at h
  simp only [Bool.or_eq_true, Bool.and_eq_true, decide_eq_true_eq, UInt32.le_iff_toNat_le] at h
  change (65 ≤ c.toNat ∧ c.toNat ≤ 90 ∨ 97 ≤ c.toNat ∧ c.toNat ≤ 122) ∨
    48 ≤ c.toNat ∧ c.toNat ≤ 57 at h
  omega

/-- Plain characters become one character in upper case, and none becomes an underscore. -/
theorem uppercase_of_isAlphanum {c : Char} (h : c.isAlphanum = true) :
    uppercase c = [c.toUpper] ∧ c.toUpper ≠ '_' := by
  have hascii := toNat_lt_of_isAlphanum h
  have hcodes : ∀ n ∈ List.range 0x80, (Char.ofNat n).isAlphanum = true →
      (Char.ofNat n).toUpper ≠ '_' := by
    decide +kernel
  have hcode := hcodes c.toNat (List.mem_range.mpr hascii)
  rw [Char.ofNat_toNat] at hcode
  exact ⟨if_pos hascii, hcode h⟩

theorem capitalize_eq_upperInitial {segment : List Char} (h : ∀ c ∈ segment, c.isAlphanum = true) :
    capitalize segment = upperInitial segment := by
  cases segment with
  | nil => rfl
  | cons c rest =>
    rw [capitalize, (uppercase_of_isAlphanum (h c List.mem_cons_self)).1]
    rfl

theorem underscore_notMem {segment : List Char} (h : ∀ c ∈ segment, c.isAlphanum = true) :
    '_' ∉ segment := by
  intro hmem
  exact absurd (h _ hmem) (by decide)

theorem underscore_notMem_upperInitial {segment : List Char}
    (h : ∀ c ∈ segment, c.isAlphanum = true) : '_' ∉ upperInitial segment := by
  cases segment with
  | nil => simp [upperInitial]
  | cons c rest =>
    have hrest := underscore_notMem fun d hd => h d (List.mem_cons_of_mem c hd)
    have hc := (uppercase_of_isAlphanum (h c List.mem_cons_self)).2
    simp [upperInitial, hrest, hc.symm]

end Text

/-! ## Names from segments -/

/-- Two keys agree up to the initials that output names fold: they have the same number of segments;
of several segments the first are equal and the others are equal up to their initials, and single
segments are equal up to their initial. -/
structure KeysAlike (a b : String) : Prop where
  count : (a.toList.splitOn '.').length = (b.toList.splitOn '.').length
  several : 2 ≤ (a.toList.splitOn '.').length →
    (a.toList.splitOn '.').head? = (b.toList.splitOn '.').head? ∧
      List.Forall₂ (fun s t => Text.upperInitial s = Text.upperInitial t)
        (a.toList.splitOn '.').tail (b.toList.splitOn '.').tail
  single : (a.toList.splitOn '.').length = 1 →
    Text.upperInitial a.toList = Text.upperInitial b.toList

/-- A key that is a single segment is this segment. -/
theorem toList_eq_of_splitOn {key : String} {only : List Char}
    (h : key.toList.splitOn '.' = [only]) : key.toList = only := by
  have hjoin : ['.'].intercalate (key.toList.splitOn '.') = key.toList :=
    List.intercalate_splitOn '.'
  rw [← hjoin, h, List.intercalate_singleton]

/-- The parts of an output name, which underscores hold together. -/
def nameParts (segments : List Char × List (List Char)) : List (List Char) :=
  (if segments.2 = [] then Text.upperInitial segments.1 else segments.1)
    :: segments.2.map Text.upperInitial

/-- The parts of a name tell the segments of its key but for the initials. -/
theorem nameParts_eq_iff {a b : String} :
    nameParts (Text.segments '.' a.toList) = nameParts (Text.segments '.' b.toList) ↔
      KeysAlike a b := by
  have ha := Text.segments_eq_splitOn '.' a.toList
  have hb := Text.segments_eq_splitOn '.' b.toList
  generalize Text.segments '.' a.toList = cut at ha ⊢
  generalize Text.segments '.' b.toList = cut' at hb ⊢
  obtain ⟨first, others⟩ := cut
  obtain ⟨first', others'⟩ := cut'
  change first :: others = _ at ha
  change first' :: others' = _ at hb
  have hinitials : others.map Text.upperInitial = others'.map Text.upperInitial ↔
      List.Forall₂ (fun s t => Text.upperInitial s = Text.upperInitial t) others others' := by
    rw [← List.forall₂_eq_eq_eq, List.forall₂_map_left_iff, List.forall₂_map_right_iff]
  rw [nameParts, nameParts, List.cons_eq_cons, hinitials]
  constructor
  · rintro ⟨hfirst, hothers⟩
    have hlength := hothers.length_eq
    refine ⟨?_, fun hcount => ?_, fun hcount => ?_⟩
    · rw [← ha, ← hb, List.length_cons, List.length_cons, hlength]
    · rw [← ha, List.length_cons] at hcount
      have hsome : others ≠ [] := List.ne_nil_of_length_pos (by omega)
      have hsome' : others' ≠ [] := List.ne_nil_of_length_pos (by omega)
      rw [if_neg hsome, if_neg hsome'] at hfirst
      rw [← ha, ← hb]
      exact ⟨congrArg some hfirst, hothers⟩
    · rw [← ha, List.length_cons] at hcount
      obtain rfl : others = [] := List.eq_nil_of_length_eq_zero (by omega)
      obtain rfl : others' = [] := List.eq_nil_of_length_eq_zero hlength.symm
      rw [toList_eq_of_splitOn ha.symm, toList_eq_of_splitOn hb.symm]
      exact hfirst
  · rintro ⟨hcount, hseveral, hsingle⟩
    rw [← ha, ← hb, List.length_cons, List.length_cons, Nat.add_right_cancel_iff] at hcount
    rw [← ha, ← hb] at hseveral
    by_cases hothers : others = []
    · subst hothers
      obtain rfl : others' = [] := List.eq_nil_of_length_eq_zero hcount.symm
      rw [← ha, toList_eq_of_splitOn ha.symm, toList_eq_of_splitOn hb.symm] at hsingle
      exact ⟨hsingle rfl, .nil⟩
    · have hpos := List.length_pos_of_ne_nil hothers
      obtain ⟨hfirst, hinitial⟩ := hseveral (by rw [List.length_cons]; omega)
      rw [if_neg hothers, if_neg (List.ne_nil_of_length_pos (hcount ▸ hpos))]
      exact ⟨Option.some.inj hfirst, hinitial⟩

/-- The segments of a plain key have letters and digits only. -/
theorem isAlphanum_of_mem_segments {key : List Char} (h : ∀ c ∈ key, plainChar c = true) :
    ∀ segment ∈ (Text.segments '.' key).1 :: (Text.segments '.' key).2,
      ∀ c ∈ segment, c.isAlphanum = true := by
  intro segment hsegment c hc
  rw [Text.segments_eq_splitOn] at hsegment
  obtain ⟨hmem, hdot⟩ := Text.mem_of_mem_splitOn hsegment c hc
  simpa [plainChar, hdot] using h c hmem

theorem plainName_eq_intercalate {key : List Char} (h : ∀ c ∈ key, plainChar c = true) :
    plainName key = ['_'].intercalate (nameParts (Text.segments '.' key)) := by
  have hplain := isAlphanum_of_mem_segments h
  unfold plainName
  generalize Text.segments '.' key = cut at hplain ⊢
  obtain ⟨first, others⟩ := cut
  cases others with
  | nil =>
    show Text.capitalize first = _
    rw [Text.capitalize_eq_upperInitial (hplain first List.mem_cons_self), nameParts, if_pos rfl]
    exact List.intercalate_singleton.symm
  | cons second others =>
    have hothers : (second :: others).map Text.capitalize
        = (second :: others).map Text.upperInitial :=
      List.map_congr_left fun segment hsegment =>
        Text.capitalize_eq_upperInitial (hplain segment (List.mem_cons_of_mem first hsegment))
    show ['_'].intercalate (first :: (second :: others).map Text.capitalize) = _
    rw [hothers, nameParts, if_neg (List.cons_ne_nil second others)]

theorem splitOn_plainName {key : List Char} (h : ∀ c ∈ key, plainChar c = true) :
    (plainName key).splitOn '_' = nameParts (Text.segments '.' key) := by
  have hplain := isAlphanum_of_mem_segments h
  rw [plainName_eq_intercalate h]
  refine List.splitOn_intercalate '_' (fun part hpart => ?_) (List.cons_ne_nil _ _)
  generalize Text.segments '.' key = cut at hplain hpart
  rcases List.mem_cons.mp hpart with rfl | hpart
  · split_ifs
    · exact Text.underscore_notMem_upperInitial (hplain _ List.mem_cons_self)
    · exact Text.underscore_notMem (hplain _ List.mem_cons_self)
  · obtain ⟨segment, hsegment, rfl⟩ := List.mem_map.mp hpart
    exact Text.underscore_notMem_upperInitial (hplain segment (List.mem_cons_of_mem _ hsegment))

theorem outputName_eq_iff {a b : String} (ha : MadeOf plainChar a) (hb : MadeOf plainChar b)
    (symbolPrefix : String) :
    outputName symbolPrefix a = outputName symbolPrefix b ↔ KeysAlike a b := by
  rw [← nameParts_eq_iff, ← splitOn_plainName ha, ← splitOn_plainName hb, outputName, outputName,
    String.append_right_inj, String.ofList_inj]
  constructor
  · intro h
    rw [h]
  · intro h
    have hjoin : ∀ name : List Char, ['_'].intercalate (name.splitOn '_') = name :=
      fun _ => List.intercalate_splitOn '_'
    rw [← hjoin (plainName a.toList), h, hjoin]

/-! ## References -/

namespace Schema

variable {schema : Schema}

theorem defines_iff (hkeys : ∀ definition ∈ schema.definitions, MadeOf plainChar definition.key)
    {name : String} (hname : MadeOf plainChar name) :
    schema.Defines name ↔ ∃ other ∈ schema.definitions, KeysAlike other.key name := by
  constructor
  · rintro ⟨other, hother, heq⟩
    exact ⟨other, hother, (outputName_eq_iff (hkeys other hother) hname "").mp heq⟩
  · rintro ⟨other, hother, halike⟩
    exact ⟨other, hother, (outputName_eq_iff (hkeys other hother) hname "").mpr halike⟩

/-- The check of a field that refers to a type says whether the type is defined. -/
theorem checkReference_of_mentions (schema : Schema) (definition : Definition) {field : Field}
    {name : String} (hmentions : field.type.Mentions name) :
    (schema.Defines name ∧ checkReference schema.definedNames definition field = .ok ()) ∨
      (¬ schema.Defines name ∧ checkReference schema.definedNames definition field
        = .error (.unresolved name field.name definition.key)) := by
  by_cases hdefined : schema.Defines name
  · refine Or.inl ⟨hdefined, checkReference_eq_ok.mpr fun other hdangles => hdangles.2 ?_⟩
    have hleaf := ValueType.namedLeaf?_eq_some.mpr hdangles.1
    rw [ValueType.namedLeaf?_eq_some.mpr hmentions] at hleaf
    rwa [← Option.some.inj hleaf]
  · exact Or.inr ⟨hdefined, checkReference_eq_error.mpr ⟨name, ⟨hmentions, hdefined⟩, rfl⟩⟩

end Schema

/-- Plain keys have the same output name exactly if they agree up to the initials that output names
fold, whatever symbols stand before it. So where keys are plain, a plain type of a field is accepted
exactly if it agrees in this way with the key of some definition; otherwise the check names it. -/
theorem outputNames_meet_iff_keysAlike :
    (∀ symbolPrefix a b, MadeOf plainChar a → MadeOf plainChar b →
      (outputName symbolPrefix a = outputName symbolPrefix b ↔ KeysAlike a b)) ∧
    ∀ schema : Schema, (∀ definition ∈ schema.definitions, MadeOf plainChar definition.key) →
      (∀ definition field name, field.type.Mentions name → MadeOf plainChar name →
        (Schema.checkReference schema.definedNames definition field = .ok () ↔
          ∃ other ∈ schema.definitions, KeysAlike other.key name) ∧
        (Schema.checkReference schema.definedNames definition field
            = .error (.unresolved name field.name definition.key) ↔
          ∀ other ∈ schema.definitions, ¬ KeysAlike other.key name)) ∧
      ((∀ definition ∈ schema.definitions, ∀ field ∈ definition.fields, ∀ name,
          field.type.Mentions name → MadeOf plainChar name) →
        (schema.checkReferences = .ok () ↔
          ∀ definition ∈ schema.definitions, ∀ field ∈ definition.fields, ∀ name,
            field.type.Mentions name →
              ∃ other ∈ schema.definitions, KeysAlike other.key name)) := by
  refine ⟨fun symbolPrefix a b ha hb => outputName_eq_iff ha hb symbolPrefix,
    fun schema hkeys => ⟨fun definition field name hmentions hname => ?_, fun hnames => ?_⟩⟩
  · have hnone : (∀ other ∈ schema.definitions, ¬ KeysAlike other.key name) ↔
        ¬ schema.Defines name := by
      rw [Schema.defines_iff hkeys hname]
      simp
    rw [hnone, ← Schema.defines_iff hkeys hname]
    rcases schema.checkReference_of_mentions definition hmentions with
      ⟨hdefined, hrun⟩ | ⟨hdefined, hrun⟩ <;> simp [hrun, hdefined]
  · rw [Schema.checkReferences_eq_ok]
    refine forall₅_congr fun definition hd field hf name => ?_
    rw [Schema.Dangles, not_and, not_not]
    exact forall_congr' fun hmentions =>
      Schema.defines_iff hkeys (hnames definition hd field hf name hmentions)

/-! ## Folded and kept initials -/

instance (a b : String) : Decidable (KeysAlike a b) :=
  decidable_of_iff
    ((a.toList.splitOn '.').length = (b.toList.splitOn '.').length ∧
      (2 ≤ (a.toList.splitOn '.').length →
        (a.toList.splitOn '.').head? = (b.toList.splitOn '.').head? ∧
          List.Forall₂ (fun s t => Text.upperInitial s = Text.upperInitial t)
            (a.toList.splitOn '.').tail (b.toList.splitOn '.').tail) ∧
      ((a.toList.splitOn '.').length = 1 →
        Text.upperInitial a.toList = Text.upperInitial b.toList))
    ⟨fun h => ⟨h.1, h.2.1, h.2.2⟩, fun h => ⟨h.count, h.several, h.single⟩⟩

-- the first of several segments keeps its initial, a single one does not
example : KeysAlike "peer" "Peer" ∧ ¬ KeysAlike "help.peer" "Help.peer" := by decide

-- empty segments count
example : KeysAlike "a..b" "a..B" ∧ ¬ KeysAlike "a..b" "a.b" ∧ ¬ KeysAlike ".a" "a" := by decide

namespace FoldedInitials

/-- The definition that is referred to, with an initial that output names fold. -/
def peer : Definition := ⟨"help.peer", 1, [], .named "help.Peer", ⟨1, 1⟩⟩

/-- A field whose type is the definition, and one whose type differs in further letters. -/
def folded : Field := ⟨"x", .vector (.named "help.Peer"), none⟩
def upper : Field := ⟨"y", .named "help.PEER", none⟩

/-- A definition with both fields, whose key has an empty segment. -/
def both : Definition := ⟨"help..a", 2, [folded, upper], .named "help.A", ⟨2, 1⟩⟩

def schema : Schema := .ofDefinitions [peer, both]

theorem outputNames_meet_peer :
    (∀ definition ∈ schema.definitions, MadeOf plainChar definition.key) ∧
      outputName "TL_" "help.peer" = outputName "TL_" "help.Peer" ∧
      Schema.checkReference schema.definedNames both folded = .ok () ∧
      Schema.checkReference schema.definedNames both upper
        = .error (.unresolved "help.PEER" "y" "help..a") ∧
      schema.checkReferences ≠ .ok () := by
  have hkeys : ∀ definition ∈ schema.definitions, MadeOf plainChar definition.key := by decide
  have hpeer : folded.type.Mentions "help.Peer" := .vector .named
  have hupper : upper.type.Mentions "help.PEER" := .named
  obtain ⟨hnames, hschemas⟩ := outputNames_meet_iff_keysAlike
  obtain ⟨hfields, hall⟩ := hschemas schema hkeys
  have hplain : ∀ definition ∈ schema.definitions, ∀ field ∈ definition.fields, ∀ name,
      field.type.Mentions name → MadeOf plainChar name := by
    have hleaves : ∀ definition ∈ schema.definitions, ∀ field ∈ definition.fields,
        ∀ name ∈ field.type.namedLeaf?, MadeOf plainChar name := by decide
    intro definition hd field hf name hmentions
    exact hleaves definition hd field hf name (ValueType.namedLeaf?_eq_some.mpr hmentions)
  refine ⟨hkeys, (hnames _ _ _ (by decide) (by decide)).mpr (by decide),
    (hfields both folded _ hpeer (by decide)).1.mpr (by decide),
    (hfields both upper _ hupper (by decide)).2.mpr (by decide), fun haccepted => ?_⟩
  have hdefined := (hall hplain).mp haccepted both (by decide) upper (by decide) _ hupper
  revert hdefined
  decide

end FoldedInitials

end TlSchema
