import Mathlib.Tactic.SplitIfs
import TlSchema.Proofs.Accepted
import TlSchema.Proofs.Rules
import TlSchema.Render.Code

/-!
# Names that share an identifier

An identifier is made of the words of a name, in lower case and with underscores between them. So
names with the same words have the same identifier, and so have a keyword and a name that has
nothing but an empty word after it, because an underscore is put behind keywords. There are no other
names that share one.

The check of a schema compares the names of fields as they are written. It keeps identifiers apart
where names are written as identifiers are, and not in general.
-/

namespace TlSchema

namespace Text

/-! ## Segments -/

theorem segments_append {separator : Char} {cs : List Char} (h : separator ∉ cs)
    (rest : List Char) :
    segments separator (cs ++ rest)
      = (cs ++ (segments separator rest).1, (segments separator rest).2) := by
  induction cs with
  | nil => rfl
  | cons c cs ih =>
    rw [List.mem_cons, not_or] at h
    have hc : c ≠ separator := fun heq => h.1 heq.symm
    simp only [List.cons_append, segments, ih h.2, hc, if_false]

/-- What has been joined by a separator is cut at it into the same parts. -/
theorem segments_intercalate {separator : Char} {first : List Char} {others : List (List Char)}
    (h : ∀ segment ∈ first :: others, separator ∉ segment) :
    segments separator ([separator].intercalate (first :: others)) = (first, others) := by
  induction others generalizing first with
  | nil =>
    have hfirst := segments_append (h first List.mem_cons_self) []
    rw [List.append_nil] at hfirst
    rw [List.intercalate_singleton, hfirst]
    simp [segments]
  | cons second others ih =>
    obtain ⟨hfirst, hothers⟩ := List.forall_mem_cons.mp h
    rw [List.intercalate_cons_cons, List.append_assoc, segments_append hfirst]
    simp [segments, ih hothers]

/-! ## Lower case -/

theorem eq_of_ofNat_eq {n : Nat} {c : Char} (h : Char.ofNat n = c) (hc : c.toNat ≠ 0) :
    n = c.toNat := by
  subst h
  by_cases hvalid : n.isValidChar
  · have hchar : Char.ofNat n = Char.ofNatAux n hvalid := dif_pos hvalid
    rw [hchar]
    rfl
  · have hchar : Char.ofNat n = '\x00' := dif_neg hvalid
    rw [hchar] at hc
    exact absurd rfl hc

/-- No letter outside ASCII becomes an underscore by a shift of the table. -/
theorem shifted_lowerMap_ne {n : Nat} (h : 0x80 ≤ n) : shifted lowerMap n ≠ 0x5f := by
  have hrows : ∀ row ∈ lowerMap,
      ¬ ((row.1 : Int) + row.2.2.2 ≤ 0x5f ∧ 0x5f ≤ (row.2.1 : Int) + row.2.2.2) := by
    decide +kernel
  intro heq
  unfold shifted at heq
  split at heq
  next row hrow =>
    have hrun := List.find?_some hrow
    simp only [CodeRun.contains, Bool.and_eq_true, decide_eq_true_eq] at hrun
    have hout := hrows row (List.mem_of_find?_eq_some hrow)
    omega
  next => omega

/-- No other character becomes an underscore in lower case. -/
theorem underscore_notMem_lowercase {c : Char} (h : c ≠ '_') : '_' ∉ lowercase c := by
  intro hmem
  unfold lowercase at hmem
  split at hmem
  next hascii =>
    have hcodes : ∀ n ∈ List.range 0x80, '_' = (Char.ofNat n).toLower → Char.ofNat n = '_' := by
      decide +kernel
    have hcode := hcodes c.toNat (List.mem_range.mpr hascii)
    rw [Char.ofNat_toNat] at hcode
    exact h (hcode (List.mem_singleton.mp hmem))
  next hascii =>
    unfold mapped at hmem
    split at hmem
    next codes hcodes =>
      have hrows : ∀ row ∈ lowerSequences, '_' ∉ row.2.map Char.ofNat := by decide
      obtain ⟨before, after, htable, -⟩ := List.lookup_eq_some_iff.mp hcodes
      refine hrows (c.toNat, codes) ?_ hmem
      rw [htable]
      simp
    next =>
      have hcode := eq_of_ofNat_eq (List.mem_singleton.mp hmem).symm (by decide)
      exact shifted_lowerMap_ne (by omega) hcode

end Text

namespace Render

/-! ## Words -/

/-- The words of the characters that follow `before?`, in lower case: the first one and those after
it. Underscores and dots stand between words, and capital letters may start them. -/
def wordsFrom (before? : Option Char) : List Char → List Char × List (List Char)
  | [] => ([], [])
  | c :: rest =>
    let (first, others) := wordsFrom (some c) rest
    if Text.isUppercase c then
      if startsWord before? rest then ([], (Text.lowercase c ++ first) :: others)
      else (Text.lowercase c ++ first, others)
    else if c = '_' ∨ c = '.' then ([], first :: others)
    else (c :: first, others)

/-- The words of a name. There is always a first one. -/
def words (name : String) : List (List Char) :=
  (wordsFrom none name.toList).1 :: (wordsFrom none name.toList).2

/-- The name `a` is a keyword, and `b` has an empty word after the same keyword. -/
def EscapesTo (a b : String) : Prop :=
  ∃ keyword ∈ keywords, words a = [keyword.toList] ∧ words b = [keyword.toList, []]

/-- The names have the same words, or one is what the other is escaped to. -/
def Clash (a b : String) : Prop := words a = words b ∨ EscapesTo a b ∨ EscapesTo b a

theorem intercalate_append_cons (separator cs first : List Char) (others : List (List Char)) :
    separator.intercalate ((cs ++ first) :: others)
      = cs ++ separator.intercalate (first :: others) := by
  cases others with
  | nil => simp
  | cons second others => simp [List.intercalate_cons_cons]

theorem snakeFrom_eq (before? : Option Char) (cs : List Char) :
    snakeFrom before? cs
      = ['_'].intercalate ((wordsFrom before? cs).1 :: (wordsFrom before? cs).2) := by
  induction cs generalizing before? with
  | nil => simp [snakeFrom, wordsFrom]
  | cons c rest ih =>
    by_cases hupper : Text.isUppercase c = true
    · by_cases hstarts : startsWord before? rest = true
      · simp [snakeFrom, wordsFrom, ih, hupper, hstarts, intercalate_append_cons,
          List.intercalate_cons_cons]
      · simp [snakeFrom, wordsFrom, ih, hupper, hstarts, intercalate_append_cons]
    · by_cases hsep : c = '_' ∨ c = '.'
      · have hwritten : (if c = '.' then ['_'] else [c]) = ['_'] := by
          rcases hsep with rfl | rfl
          · rfl
          · rfl
        simp [snakeFrom, wordsFrom, ih, hupper, hsep, hwritten, List.intercalate_cons_cons]
      · have hword := intercalate_append_cons ['_'] [c] (wordsFrom (some c) rest).1
          (wordsFrom (some c) rest).2
        rw [not_or] at hsep
        simp only [List.singleton_append] at hword
        simp [snakeFrom, wordsFrom, ih, hupper, hsep, hword]

theorem underscore_notMem_wordsFrom (before? : Option Char) (cs : List Char) :
    ∀ word ∈ (wordsFrom before? cs).1 :: (wordsFrom before? cs).2, '_' ∉ word := by
  induction cs generalizing before? with
  | nil => simp [wordsFrom]
  | cons c rest ih =>
    obtain ⟨hfirst, hothers⟩ := List.forall_mem_cons.mp (ih (some c))
    have hcapital : Text.isUppercase c = true →
        '_' ∉ Text.lowercase c ++ (wordsFrom (some c) rest).1 := by
      intro hupper
      have hc : c ≠ '_' := by
        rintro rfl
        cases hupper
      simp [Text.underscore_notMem_lowercase hc, hfirst]
    simp only [wordsFrom]
    split_ifs with hupper hstarts hsep
    · simp only [List.forall_mem_cons]
      exact ⟨List.not_mem_nil, hcapital hupper, hothers⟩
    · exact List.forall_mem_cons.mpr ⟨hcapital hupper, hothers⟩
    · simp only [List.forall_mem_cons]
      exact ⟨List.not_mem_nil, hfirst, hothers⟩
    · rw [not_or] at hsep
      refine List.forall_mem_cons.mpr ⟨?_, hothers⟩
      simp [hfirst, Ne.symm hsep.1]

theorem snakeCase_eq (name : String) :
    snakeCase name = String.ofList (['_'].intercalate (words name)) := by
  rw [snakeCase, snakeFrom_eq, words]

/-- The words of a name are found again between the underscores of its snake case. -/
theorem snakeCase_eq_iff {name : String} {first : List Char} {others : List (List Char)}
    (h : ∀ word ∈ first :: others, '_' ∉ word) :
    snakeCase name = String.ofList (['_'].intercalate (first :: others)) ↔
      words name = first :: others := by
  constructor
  · intro heq
    rw [snakeCase_eq, String.ofList_inj] at heq
    have hname := Text.segments_intercalate (underscore_notMem_wordsFrom none name.toList)
    have hsame := (congrArg (Text.segments '_') heq).trans (Text.segments_intercalate h)
    obtain ⟨hfirst, hothers⟩ := Prod.mk.inj (hname.symm.trans hsame)
    rw [words, hfirst, hothers]
  · intro hwords
    rw [snakeCase_eq, hwords]

/-! ## Identifiers -/

theorem escaped_notMem_keywords : ∀ keyword ∈ keywords, keyword ++ "_" ∉ keywords := by
  decide +kernel

theorem underscore_notMem_keyword : ∀ keyword ∈ keywords, '_' ∉ keyword.toList := by
  decide +kernel

theorem escapeKeyword_eq_iff (a b : String) :
    escapeKeyword a = escapeKeyword b ↔
      a = b ∨ (a ∈ keywords ∧ b = a ++ "_") ∨ (b ∈ keywords ∧ a = b ++ "_") := by
  unfold escapeKeyword
  by_cases ha : a ∈ keywords
  · have hnota := escaped_notMem_keywords a ha
    by_cases hb : b ∈ keywords
    · have hnotb := escaped_notMem_keywords b hb
      grind [String.append_left_inj]
    · grind
  · by_cases hb : b ∈ keywords
    · grind
    · grind

/-- A name is a keyword in snake case exactly if this is its only word, and one with an underscore
behind it exactly if an empty word follows. -/
theorem snakeCase_eq_keyword {name keyword : String} (h : keyword ∈ keywords) :
    (snakeCase name = keyword ↔ words name = [keyword.toList]) ∧
      (snakeCase name = keyword ++ "_" ↔ words name = [keyword.toList, []]) := by
  have hno := underscore_notMem_keyword keyword h
  have hone := @snakeCase_eq_iff name keyword.toList [] (by simpa using hno)
  have htwo := @snakeCase_eq_iff name keyword.toList [[]] (by simpa using hno)
  have hescaped : String.ofList (['_'].intercalate [keyword.toList, []]) = keyword ++ "_" := by
    rw [← String.toList_inj]
    simp [List.intercalate_cons_cons]
  rw [List.intercalate_singleton, String.ofList_toList] at hone
  rw [hescaped] at htwo
  exact ⟨hone, htwo⟩

/-- Two names are given the same identifier exactly if they clash. -/
theorem identifier_eq_iff (a b : String) : identifier a = identifier b ↔ Clash a b := by
  have hwords : snakeCase a = snakeCase b ↔ words a = words b := by
    rw [snakeCase_eq b]
    exact snakeCase_eq_iff (underscore_notMem_wordsFrom none b.toList)
  have hescapes : ∀ a b, (snakeCase a ∈ keywords ∧ snakeCase b = snakeCase a ++ "_") ↔
      EscapesTo a b := by
    intro a b
    constructor
    · rintro ⟨hkeyword, hb⟩
      exact ⟨snakeCase a, hkeyword, (snakeCase_eq_keyword hkeyword).1.mp rfl,
        (snakeCase_eq_keyword hkeyword).2.mp hb⟩
    · rintro ⟨keyword, hkeyword, ha, hb⟩
      rw [(snakeCase_eq_keyword hkeyword).1.mpr ha, (snakeCase_eq_keyword hkeyword).2.mpr hb]
      exact ⟨hkeyword, rfl⟩
  rw [identifier, identifier, escapeKeyword_eq_iff, hwords, hescapes a b, hescapes b a, Clash]

/-- Whether the name is written as identifiers are: without capital letters and dots, and not as a
keyword with an underscore. -/
def isPlain (name : String) : Bool :=
  name.toList.all (fun c => !Text.isUppercase c && c ≠ '.') &&
    keywords.all fun keyword => name ≠ keyword ++ "_"

theorem isPlain_iff (name : String) :
    isPlain name = true ↔
      (∀ c ∈ name.toList, Text.isUppercase c = false ∧ c ≠ '.') ∧
        ∀ keyword ∈ keywords, name ≠ keyword ++ "_" := by
  simp [isPlain]

theorem snakeFrom_of_plain {cs : List Char}
    (h : ∀ c ∈ cs, Text.isUppercase c = false ∧ c ≠ '.') (before? : Option Char) :
    snakeFrom before? cs = cs := by
  induction cs generalizing before? with
  | nil => rfl
  | cons c rest ih =>
    obtain ⟨⟨hupper, hdot⟩, hrest⟩ := List.forall_mem_cons.mp h
    simp [snakeFrom, hupper, hdot, ih hrest]

theorem eq_of_identifier_eq {a b : String} (ha : isPlain a = true) (hb : isPlain b = true)
    (h : identifier a = identifier b) : a = b := by
  have hsnake : ∀ name, isPlain name = true → snakeCase name = name := by
    intro name hname
    rw [snakeCase, snakeFrom_of_plain ((isPlain_iff name).mp hname).1, String.ofList_toList]
  rw [identifier, identifier, hsnake a ha, hsnake b hb, escapeKeyword_eq_iff] at h
  rcases h with heq | ⟨hkeyword, heq⟩ | ⟨hkeyword, heq⟩
  · exact heq
  · exact absurd heq (((isPlain_iff b).mp hb).2 a hkeyword)
  · exact absurd heq (((isPlain_iff a).mp ha).2 b hkeyword)

end Render

open Render

/-- The fields of a definition have identifiers of their own exactly if no two of their names clash.
For names that are written as identifiers are, the check of the schema sees to that. -/
theorem Schema.identifiers_distinct_iff {schema : Schema} (h : schema.check = .ok ())
    {definition : Definition} (hd : definition ∈ schema.definitions) :
    ((definition.fields.map fun field => identifier field.name).Nodup ↔
      definition.fields.Pairwise fun field other => ¬ Clash field.name other.name) ∧
    ((∀ field ∈ definition.fields, isPlain field.name = true) →
      (definition.fields.map fun field => identifier field.name).Nodup) := by
  refine ⟨?_, fun hplain => ?_⟩
  · rw [List.Nodup, List.pairwise_map]
    simp only [ne_eq, identifier_eq_iff]
  · have hnames := ((check_eq_ok.mp h).1 definition hd).names
    rw [List.Nodup, List.pairwise_map] at hnames ⊢
    refine hnames.imp_of_mem fun hfield hother hne heq => hne ?_
    exact eq_of_identifier_eq (hplain _ hfield) (hplain _ hother) heq

/-! ## Two fields with one identifier -/

namespace SharedIdentifier

/-- A schema that names fields in two ways, and one that names them as identifiers are named. -/
def text : String :=
  "a.b#1 userId:int user_id:int = a.B;\na.c#2 type:int user_id:int _user_id:int = a.C;"

/-- The definition whose fields share an identifier. -/
def shared : Definition :=
  ⟨"a.b", 1, [⟨"userId", .int32, none⟩, ⟨"user_id", .int32, none⟩], .named "a.B", ⟨1, 1⟩⟩

/-- The definition whose fields have identifiers of their own, although one is a keyword. -/
def plain : Definition :=
  ⟨"a.c", 2, [⟨"type", .int32, none⟩, ⟨"user_id", .int32, none⟩, ⟨"_user_id", .int32, none⟩],
    .named "a.C", ⟨2, 1⟩⟩

/-- What the schema is compiled to. -/
def unit : Compilation := .ofDefinitions [shared, plain]

theorem identifiers_distinct_plain :
    unit.schema.check = .ok () ∧ (∀ field ∈ plain.fields, isPlain field.name = true) ∧
      (plain.fields.map fun field => identifier field.name).Nodup ∧
      ¬ shared.fields.Pairwise fun field other => ¬ Clash field.name other.name := by
  have hcheck : unit.schema.check = .ok () := by decide +kernel
  have hplain : ∀ field ∈ plain.fields, isPlain field.name = true := by decide +kernel
  have hrepeats : ¬ (shared.fields.map fun field => identifier field.name).Nodup := by
    decide +kernel
  have hshared : shared ∈ unit.schema.definitions := List.mem_cons_self
  have hother : plain ∈ unit.schema.definitions := List.mem_cons_of_mem _ List.mem_cons_self
  exact ⟨hcheck, hplain, (Schema.identifiers_distinct_iff hcheck hother).2 hplain,
    fun hno => hrepeats ((Schema.identifiers_distinct_iff hcheck hshared).1.mpr hno)⟩

/-- A schema is accepted although two fields of a structure have the same identifier. -/
theorem two_fields_one_identifier :
    Compilation.ofText text {} = .ok unit ∧ unit.schema.check = .ok () ∧
      shared ∈ unit.schema.definitions ∧
      ¬ (shared.fields.map fun field => identifier field.name).Nodup ∧
      (structDeclaration (unit.schema.planOf "" 0x1cb5c415 shared)).count "    pub user_id: i32,"
        = 2 := by
  decide +kernel

end SharedIdentifier

end TlSchema
