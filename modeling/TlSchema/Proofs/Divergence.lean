import TlSchema.Proofs.Accepted
import TlSchema.Proofs.StaleFlags
import TlSchema.Proofs.Taking

/-!
# Where stale flags show

Two values that differ in stale flags only are written in step, field by field, up to the first
object whose flags are found to be different. There the bytes part, and nothing that follows brings
them together again, because a word of flags has a fixed length. So if both can be written, the
bytes are the same exactly if the flags that are found are the same in all objects that are written.
-/

namespace TlSchema

open Encoder Wire

/-! ## Bytes that part -/

/-- The bytes part before either of them ends: whatever follows them, they differ. -/
def Apart (bs bs' : ByteArray) : Prop := ∀ after after', bs ++ after ≠ bs' ++ after'

namespace Apart

variable {bs bs' : ByteArray}

theorem ne (h : Apart bs bs') : bs ≠ bs' := by
  intro heq
  exact h .empty .empty (by rw [heq])

theorem append (h : Apart bs bs') (rest rest' : ByteArray) :
    Apart (bs ++ rest) (bs' ++ rest') := by
  intro after after'
  rw [ByteArray.append_assoc, ByteArray.append_assoc]
  exact h _ _

theorem behind (h : Apart bs bs') (front : ByteArray) : Apart (front ++ bs) (front ++ bs') := by
  intro after after' heq
  rw [ByteArray.append_assoc, ByteArray.append_assoc, ByteArray.append_right_inj] at heq
  exact h _ _ heq

/-- Words that differ part, because either is read from its own bytes whatever follows them. -/
theorem uint32Bytes {word word' : UInt32} (h : word ≠ word') :
    Apart (uint32Bytes word) (uint32Bytes word') := by
  intro after after' heq
  have hread := takes_uint32 word .empty after
  rw [heq, takes_uint32 word' .empty after'] at hread
  injection hread with hword
  exact h hword.symm

end Apart

namespace Encoder

/-- What two encoders write tells whether `same` holds: if it does the bytes are the same, and if
not they part. -/
def Tells (same : Prop) (encoder other : Encoder Unit) : Prop :=
  ∀ bs bs', Writes encoder bs () → Writes other bs' () → same ∧ bs = bs' ∨ Apart bs bs'

variable {same same' : Prop} {encoder encoder' other other' : Encoder Unit}

theorem tells_self (h : same) (encoder : Encoder Unit) : Tells same encoder encoder :=
  fun _ _ hw hw' => Or.inl ⟨h, (hw.unique hw').1⟩

theorem Tells.imp (h : Tells same encoder other) (himp : same → same') :
    Tells same' encoder other :=
  fun bs bs' hw hw' => (h bs bs' hw hw').imp_left fun heq => ⟨himp heq.1, heq.2⟩

theorem tells_word (word word' : UInt32) :
    Tells (word = word') (put (uint32Bytes word)) (put (uint32Bytes word')) := by
  intro bs bs' hw hw'
  obtain ⟨rfl, -⟩ := hw.unique (writes_put _)
  obtain ⟨rfl, -⟩ := hw'.unique (writes_put _)
  by_cases h : word = word'
  · exact Or.inl ⟨h, by rw [h]⟩
  · exact Or.inr (Apart.uint32Bytes h)

/-- Once the bytes have parted, it does not matter what follows. -/
theorem Tells.seq (h : Tells same encoder other) (h' : same → Tells same' encoder' other')
    (hs : Settles encoder) (hs' : Settles encoder') (ho : Settles other) (ho' : Settles other') :
    Tells (same ∧ same') (encoder >>= fun _ => encoder') (other >>= fun _ => other') := by
  intro bs bs' hw hw'
  obtain ⟨first, rest, hfirst, hrest, rfl⟩ := (writes_seq_iff hs hs').mp hw
  obtain ⟨first', rest', hfirst', hrest', rfl⟩ := (writes_seq_iff ho ho').mp hw'
  rcases h first first' hfirst hfirst' with ⟨hsame, rfl⟩ | hapart
  · rcases h' hsame rest rest' hrest hrest' with ⟨hsame', rfl⟩ | hapart
    · exact Or.inl ⟨⟨hsame, hsame'⟩, rfl⟩
    · exact Or.inr (hapart.behind first)
  · exact Or.inr (hapart.append rest rest')

theorem tells_forM {α β : Type} {f : α → Encoder Unit} {g : β → Encoder Unit}
    {same : α → β → Prop} {as : List α} {bs : List β}
    (h : List.Forall₂ (fun a b => Tells (same a b) (f a) (g b)) as bs)
    (hf : ∀ a, Settles (f a)) (hg : ∀ b, Settles (g b)) :
    Tells (List.Forall₂ same as bs) (as.forM f) (bs.forM g) := by
  induction h with
  | nil => exact tells_self .nil _
  | @cons a b as bs hab _ ih =>
    have htells := hab.seq (fun _ => ih) (hf a) (settles_forM fun a _ => hf a) (hg b)
      (settles_forM fun b _ => hg b)
    exact htells.imp fun hsame => .cons hsame.1 hsame.2

end Encoder

/-! ## Objects in step -/

/-- No field before the flags is guarded. -/
theorem Plan.Regular.exists_split {plan : Plan} {vectorTag : UInt32} (h : plan.Regular vectorTag)
    (hguarded : plan.isGuarded = true) :
    ∃ before flags after, plan.fields = before ++ flags :: after ∧ flags.DeclaresFlags ∧
      ∀ field ∈ before, field.flagBit? = none := by
  obtain ⟨flags, hflags, hdecl⟩ := h.flags_of_guarded hguarded
  obtain ⟨before, after, heq⟩ := List.append_of_mem hflags
  have hnodup := h.names_nodup
  rw [heq, List.map_append, List.map_cons, List.nodup_append] at hnodup
  have hne : ∀ field ∈ before, field.name ≠ flagsName := by
    intro field hf hname
    exact hnodup.2.2 field.name (List.mem_map_of_mem hf) flags.name List.mem_cons_self
      (by rw [hname, hdecl.2])
  refine ⟨before, flags, after, heq, hdecl, fun field hf => ?_⟩
  by_contra hbit
  obtain ⟨front, back, rfl⟩ := List.append_of_mem hf
  obtain ⟨other, ho, hother⟩ := h.flags_before front field (back ++ flags :: after)
    (by rw [heq, List.append_assoc, List.cons_append]) hbit
  exact hne other (List.mem_append_left _ ho) hother.2

/-- What a field comes to in two objects is alike: the flags are the same, or the objects in what is
written are related. -/
def Plan.Alike (plan : Plan) (same : Value → Value → Prop) (v w : Value) (word word' : UInt32)
    (field : FieldPlan) : Prop :=
  match plan.fate word field with
  | .word => word = word'
  | .content => field.target.Pairs same (field.content v) (field.content w)
  | .nothing => True

namespace Registry

variable {registry : Registry} {vectorTag : UInt32} {allow own inside : Int32 → Int32 → Prop}
  {plan : Plan} {typeName : String} {fields others : List (String × Value)} {v w : Value}
  {deeper : Value → Encoder Unit} {same : Value → Value → Prop}

/-- Values that differ in flags are written in step if the objects in them are. -/
theorem Stale.tells_write {target : TargetType} {a b : Value} (h : registry.Stale inside a b)
    (hsettles : ∀ value, Settles (deeper value))
    (hdeeper : ∀ x y, registry.Stale inside x y → Tells (same x y) (deeper x) (deeper y)) :
    Tells (target.Pairs same a b) ((target.codec vectorTag).write deeper a)
      ((target.codec vectorTag).write deeper b) := by
  induction target generalizing a b with
  | vector element ih =>
    cases h with
    | @vector items others hlength hitems =>
      have hstale := (Stale.vector hlength hitems : registry.Stale inside _ _).items
      have hforM := tells_forM (hstale.imp fun _ _ hab => ih hab)
        ((element.codec vectorTag).settles_write hsettles)
        ((element.codec vectorTag).settles_write hsettles)
      have hlist : ∀ list : List Value, Settles (list.forM ((element.codec vectorTag).write deeper)) :=
        fun list => settles_forM fun item _ => (element.codec vectorTag).settles_write hsettles item
      -- the tag and the count are the same, so the bytes part in an item or not at all
      simp only [TargetType.codec, Codec.write, hlength]
      have hcount := (tells_self trivial (put (uint32Bytes (.ofNat others.length)))).seq
        (fun _ => hforM) (settles_put _) (hlist items) (settles_put _) (hlist others)
      have htag := (tells_self trivial (put (uint32Bytes vectorTag))).seq (fun _ => hcount)
        (settles_put _) ((settles_put _).bind fun _ => hlist items) (settles_put _)
        ((settles_put _).bind fun _ => hlist others)
      exact htag.imp fun hsame => hsame.2.2
    | _ => exact tells_self trivial _
  | named entry =>
    cases h with
    | object hnames hfields => exact hdeeper _ _ (.object hnames hfields)
    | _ => exact tells_self trivial _
  | _ => cases h <;> exact tells_self trivial _

section Fields

variable (h : registry.StaleFields own inside typeName fields others)
  (hplan : registry.plan typeName = .ok plan) (hreg : plan.Regular vectorTag)
  (hsettles : ∀ value, Settles (deeper value))
  (hdeeper : ∀ x y, registry.Stale inside x y → Tells (same x y) (deeper x) (deeper y))

include h hplan hreg hsettles hdeeper

theorem StaleFields.tells_emit {word word' : UInt32} {field : FieldPlan} (hf : field ∈ plan.fields)
    (hfate : plan.fate word field = plan.fate word' field) :
    Tells (plan.Alike same (.object typeName fields) (.object typeName others) word word' field)
      (plan.emit vectorTag deeper (.object typeName fields) word field)
      (plan.emit vectorTag deeper (.object typeName others) word' field) := by
  unfold Plan.Alike Plan.emit
  rw [← hfate]
  cases hcase : plan.fate word field with
  | word => exact tells_word word word'
  | content => exact (h.content hplan hreg hf hcase).tells_write hsettles hdeeper
  | nothing => exact tells_self trivial _

/-- Fields that come to the same are written in step. -/
theorem StaleFields.tells_emits (word word' : UInt32) {list : List FieldPlan}
    (hsub : ∀ field ∈ list, field ∈ plan.fields)
    (hfate : ∀ field ∈ list, plan.fate word field = plan.fate word' field) :
    Tells (∀ field ∈ list,
        plan.Alike same (.object typeName fields) (.object typeName others) word word' field)
      (list.forM (plan.emit vectorTag deeper (.object typeName fields) word))
      (list.forM (plan.emit vectorTag deeper (.object typeName others) word')) := by
  have htells := tells_forM (List.forall₂_same.mpr fun field hf =>
      h.tells_emit hplan hreg hsettles hdeeper (hsub field hf) (hfate field hf))
    (plan.settles_emit hsettles vectorTag _ word) (plan.settles_emit hsettles vectorTag _ word')
  exact htells.imp List.forall₂_same.mp

/-- The fields are written in step up to the flags, and to their end if these are the same. -/
theorem StaleFields.tells_fields {word word' : UInt32}
    (hguarded : ¬ plan.isGuarded = true → word = word') :
    Tells (word = word' ∧ ∀ field ∈ plan.fields,
        plan.Alike same (.object typeName fields) (.object typeName others) word word' field)
      (plan.fields.forM (plan.emit vectorTag deeper (.object typeName fields) word))
      (plan.fields.forM (plan.emit vectorTag deeper (.object typeName others) word')) := by
  by_cases heq : word = word'
  · subst heq
    have htells := h.tells_emits hplan hreg hsettles hdeeper word word (fun _ hf => hf)
      fun _ _ => rfl
    exact htells.imp fun hsame => ⟨rfl, hsame⟩
  · -- what is written for the fields before the flags does not depend on them
    have hguarded : plan.isGuarded = true := by
      by_contra hnot
      exact heq (hguarded hnot)
    obtain ⟨before, flags, after, hsplit, hdecl, hbefore⟩ := hreg.exists_split hguarded
    have hfate : ∀ field, field.flagBit? = none → plan.fate word field = plan.fate word' field := by
      intro field hbit
      rw [plan.fate_of_not_guarded word hbit, plan.fate_of_not_guarded word' hbit]
    have hfront := h.tells_emits hplan hreg hsettles hdeeper word word'
      (fun field hf => by rw [hsplit]; exact List.mem_append_left _ hf)
      (fun field hf => hfate field (hbefore field hf))
    have hflags : Tells (word = word') _ _ :=
      (h.tells_emit hplan hreg hsettles hdeeper
        (by rw [hsplit]; exact List.mem_append_right _ List.mem_cons_self)
        (hfate flags hdecl.1)).imp fun halike => by
          rwa [Plan.Alike, plan.fate_of_not_guarded word hdecl.1, if_pos ⟨hguarded, hdecl.2⟩]
            at halike
    have hemit := plan.settles_emit hsettles vectorTag
    have hlist : ∀ object word (list : List FieldPlan),
        Settles (list.forM (plan.emit vectorTag deeper object word)) :=
      fun object word list => settles_forM fun field _ => hemit object word field
    have hforM : ∀ object word, plan.fields.forM (plan.emit vectorTag deeper object word)
        = before.forM (plan.emit vectorTag deeper object word) >>= fun _ =>
            plan.emit vectorTag deeper object word flags >>= fun _ =>
              after.forM (plan.emit vectorTag deeper object word) := by
      intro object word
      rw [hsplit, List.forM_eq_forM, List.forM_append, List.forM_cons]
    rw [hforM, hforM]
    have hafter := hlist (.object typeName fields) word after
    have hafter' := hlist (.object typeName others) word' after
    have hrest := hflags.seq (fun hsame => (absurd hsame heq : Tells False _ _)) (hemit _ _ flags)
      hafter (hemit _ _ flags) hafter'
    have htells := hfront.seq (fun _ => hrest) (hlist _ _ before)
      ((hemit _ _ flags).bind fun _ => hafter) (hlist _ _ before)
      ((hemit _ _ flags).bind fun _ => hafter')
    exact htells.imp fun hsame => hsame.2.2.elim

end Fields

/-- Objects that differ in stale flags are written in step if the objects in them are. -/
theorem Stale.tells_writeObjectWith (h : registry.Stale allow v w)
    (hreg : registry.Regular vectorTag) (levels : Nat) (hsettles : ∀ value, Settles (deeper value))
    (hdeeper : ∀ x y, registry.Stale allow x y → Tells (same x y) (deeper x) (deeper y)) :
    Tells (registry.WordsAgreeWith levels same v w) (registry.writeObjectWith levels deeper v)
      (registry.writeObjectWith levels deeper w) := by
  cases h with
  | @object typeName fields others hnames hfields =>
    have hstale := (Stale.object hnames hfields : registry.Stale allow _ _).staleFields
    intro bs bs' hw hw'
    cases hplan : registry.plan typeName with
    | error e =>
      simp only [writeObjectWith, hplan, ofExcept_error_bind] at hw
      exact absurd hw (fails_throw _).not_writes
    | ok plan =>
      have hregular := hreg.plans hplan
      obtain ⟨word, rest, hword, hrest, rfl⟩ :=
        (registry.writes_writeObjectWith_iff hplan hregular levels hsettles).mp hw
      obtain ⟨word', rest', hword', hrest', rfl⟩ :=
        (registry.writes_writeObjectWith_iff hplan hregular levels hsettles).mp hw'
      have hguarded : ¬ plan.isGuarded = true → word = word' := by
        intro hguarded
        rw [wordOf, if_neg hguarded] at hword hword'
        exact Except.ok.inj (hword.symm.trans hword')
      rcases hstale.tells_fields hplan hregular hsettles hdeeper hguarded rest rest' hrest hrest'
        with ⟨⟨rfl, hpairs⟩, rfl⟩ | hapart
      · refine Or.inl ⟨fun found hfound => ?_, rfl⟩
        cases hplan.symm.trans hfound
        refine ⟨hword.trans hword'.symm, fun flags hflags => ?_⟩
        cases hword.symm.trans hflags
        intro field hf hfate
        have halike := hpairs field hf
        rw [Plan.Alike, hfate] at halike
        exact halike
      · exact Or.inr (hapart.behind _)
  | _ => exact tells_self trivial _

/-- The bytes of two values that differ in stale flags tell whether the flags that are found are the
same in all objects that are written. -/
theorem Stale.tells_writeObject (h : registry.Stale allow v w) (hreg : registry.Regular vectorTag)
    (levels : Nat) :
    Tells (registry.WordsAgree levels v w) (registry.writeObject levels v)
      (registry.writeObject levels w) := by
  induction levels generalizing v w with
  | zero =>
    exact h.tells_writeObjectWith hreg 0 (fun _ => settles_throw _) fun _ _ _ => tells_self trivial _
  | succ levels ih =>
    exact h.tells_writeObjectWith hreg (levels + 1) (registry.settles_writeObject levels)
      fun _ _ hxy => ih hxy

end Registry

/-- What is written for two values that differ in stale flags is the same if the flags that are found
are the same in all objects that are written. If one can be written, it is the same only then. Stale
flags make no difference if they are zero in both values or in neither, in all objects that are held
by others. -/
theorem Compilation.encode_stale_iff_wordsAgree {text : String} {settings : Settings}
    {unit : Compilation} (hunit : ofText text settings = .ok unit) {v w : Value}
    (hstale : unit.registry.Stale (fun _ _ => True) v w) :
    (unit.registry.WordsAgree maxNesting v w → unit.registry.encode v = unit.registry.encode w) ∧
    (∀ bs, unit.registry.encode v = .ok bs →
      (unit.registry.encode v = unit.registry.encode w ↔ unit.registry.WordsAgree maxNesting v w)) ∧
    (unit.registry.ZeroInside v w → unit.registry.encode v = unit.registry.encode w) := by
  obtain ⟨vectorTag, -, hu⟩ := accepted_of_ofText hunit
  have hreg := hu.regular
  have hsame : unit.registry.WordsAgree maxNesting v w →
      unit.registry.encode v = unit.registry.encode w := by
    intro hagree
    unfold Registry.encode Registry.encodeInto
    rw [Registry.writeObject_congr hreg hstale hagree]
  refine ⟨hsame, fun bs hencode => ⟨fun heq => ?_, hsame⟩, fun hinside =>
    hsame (Registry.wordsAgree_of_zeroInside hreg hstale hinside maxNesting)⟩
  have hw := unit.registry.encode_eq_ok.mp hencode
  have hw' := unit.registry.encode_eq_ok.mp (heq.symm.trans hencode)
  rcases hstale.tells_writeObject hreg maxNesting bs bs hw hw' with ⟨hagree, -⟩ | hapart
  · exact hagree
  · exact absurd rfl hapart.ne

/-! ## Flags of an object that another holds -/

namespace NestedFlags

/-- A schema with guarded fields in a type and in the type of a guarded field. -/
def text : String := "a.p#1 flags:# x:flags.0?int = a.P;\na.q#2 flags:# p:flags.0?a.p = a.Q;"

/-- What it is compiled to. -/
def unit : Compilation := .ofDefinitions
  [⟨"a.p", 1, [⟨"flags", .int32, none⟩, ⟨"x", .int32, some 0⟩], .named "a.P", ⟨1, 1⟩⟩,
    ⟨"a.q", 2, [⟨"flags", .int32, none⟩, ⟨"p", .named "a.p", some 0⟩], .named "a.Q", ⟨2, 1⟩⟩]

theorem ofText_text : Compilation.ofText text {} = .ok unit := by decide +kernel

theorem exists_plan {typeName : String} (h : typeName = "a_P" ∨ typeName = "a_Q") :
    ∃ plan, unit.registry.plan typeName = .ok plan ∧ plan.guardedBy 0 ≠ [] := by
  rcases h with rfl | rfl
  · exact ⟨_, rfl, nofun⟩
  · exact ⟨_, rfl, nofun⟩

theorem staleWord {allow : Int32 → Int32 → Prop} {typeName : String}
    (h : typeName = "a_P" ∨ typeName = "a_Q") {n m : Int32}
    (hput : m.toUInt32 = Flags.put n.toUInt32 0 true) (hallow : allow n m) :
    unit.registry.StaleWord allow typeName flagsName (.int n) (.int m) := by
  obtain ⟨plan, hplan, hguards⟩ := exists_plan h
  exact Registry.staleWord_put hplan (Nat.zero_le _) hguards hput hallow

/-- An object with the flags. -/
def part (flags : Int32) (rest : List (String × Value)) : Value :=
  .object "a_P" (("flags", .int flags) :: rest)

theorem stale_part {allow : Int32 → Int32 → Prop} {n m : Int32}
    (hput : m.toUInt32 = Flags.put n.toUInt32 0 true) (hallow : allow n m)
    {rest : List (String × Value)}
    (hrest : ∀ field ∈ rest, unit.registry.Stale allow field.2 field.2) :
    unit.registry.Stale allow (part n rest) (part m rest) := by
  refine Registry.StaleFields.stale (Registry.staleFields_of_forall₂ (.cons ⟨rfl, Or.inl ?_⟩ ?_))
  · exact staleWord (Or.inl rfl) hput hallow
  · exact List.forall₂_same.mpr fun field hf => ⟨rfl, Or.inr (hrest field hf)⟩

/-- The fields of an object that holds another. -/
def fields (flags inner : Int32) : List (String × Value) :=
  [("flags", .int flags), ("p", part inner [("x", .int 5)])]

theorem staleFields {allow : Int32 → Int32 → Prop} (hallow : allow 2 3) :
    unit.registry.StaleFields (fun _ _ => True) allow "a_Q" (fields 0 2) (fields 1 3) := by
  refine Registry.staleFields_of_forall₂ (.cons ⟨rfl, Or.inl ?_⟩ (.cons ⟨rfl, Or.inr ?_⟩ .nil))
  · exact staleWord (Or.inr rfl) (by decide) trivial
  · refine stale_part (by decide) hallow fun field hf => ?_
    rw [List.mem_singleton.mp hf]
    exact .int 5

/-- Stale flags that are not zero make no difference, nor do those of the object itself. -/
theorem encode_stale_fields :
    Compilation.ofText text {} = .ok unit ∧
      unit.registry.Stale (fun _ _ => True) (.object "a_Q" (fields 0 2)) (.object "a_Q" (fields 1 3)) ∧
      unit.registry.ZeroInside (.object "a_Q" (fields 0 2)) (.object "a_Q" (fields 1 3)) ∧
      unit.registry.encode (.object "a_Q" (fields 0 2))
        = .ok [2, 0, 0, 0, 1, 0, 0, 0, 1, 0, 0, 0, 3, 0, 0, 0, 5, 0, 0, 0].toByteArray ∧
      unit.registry.encode (.object "a_Q" (fields 0 2))
        = unit.registry.encode (.object "a_Q" (fields 1 3)) ∧
      unit.registry.WordsAgree maxNesting (.object "a_Q" (fields 0 2)) (.object "a_Q" (fields 1 3)) := by
  have hstale : unit.registry.Stale (fun _ _ => True) (.object "a_Q" (fields 0 2))
      (.object "a_Q" (fields 1 3)) := (staleFields trivial).stale
  have hinside : unit.registry.ZeroInside (.object "a_Q" (fields 0 2))
      (.object "a_Q" (fields 1 3)) := staleFields (by unfold Registry.ZeroTogether; decide)
  have hencode : unit.registry.encode (.object "a_Q" (fields 0 2))
      = .ok [2, 0, 0, 0, 1, 0, 0, 0, 1, 0, 0, 0, 3, 0, 0, 0, 5, 0, 0, 0].toByteArray := by
    decide +kernel
  obtain ⟨-, hiff, hzero⟩ := Compilation.encode_stale_iff_wordsAgree ofText_text hstale
  exact ⟨ofText_text, hstale, hinside, hencode, hzero hinside,
    (hiff _ hencode).mp (hzero hinside)⟩

/-- A stale bit of an object that is otherwise at its default makes it be written. -/
theorem stale_bit_reaches_output :
    Compilation.ofText text {} = .ok unit ∧
      unit.registry.Stale (fun _ _ => True) (.object "a_Q" [("p", part 0 [])])
        (.object "a_Q" [("p", part 1 [])]) ∧
      unit.registry.encode (.object "a_Q" [("p", part 0 [])])
        = .ok (uint32Bytes 2 ++ uint32Bytes 0) ∧
      unit.registry.encode (.object "a_Q" [("p", part 1 [])])
        = .ok (uint32Bytes 2 ++ uint32Bytes 1 ++ uint32Bytes 1 ++ uint32Bytes 0) := by
  refine ⟨ofText_text, Registry.StaleFields.stale (Registry.staleFields_of_forall₂ ?_),
    by decide +kernel, by decide +kernel⟩
  exact .cons ⟨rfl, Or.inr (stale_part (by decide) trivial nofun)⟩ .nil

end NestedFlags

end TlSchema
