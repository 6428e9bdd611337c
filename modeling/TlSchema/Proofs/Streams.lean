import TlSchema.Compilation
import TlSchema.Proofs.Scanning

/-!
# Streams and texts

What a reader gives is a source, whether it is in memory or comes byte by byte. As long as a reader
acts as the source that it shows (`CharReader.Shows`), its tokens are those of the source. How far a
stream has read ahead, and how often it is asked before a character is taken, cannot be seen.
-/

namespace TlSchema

open Results

section

variable {ρ : Type} [CharReader ρ]

/-! ## What a reader shows -/

/-- Readers act as the source that `view` shows of them: to ask leaves it, and to take a character
takes its first one. -/
structure CharReader.Shows (view : ρ → Source) : Prop where
  hasNext : ∀ reader, (CharReader.hasNext reader).1 = (view reader).hasNext ∧
    view (CharReader.hasNext reader).2 = view reader
  next : ∀ reader, (CharReader.next reader).1 = (view reader).take.1 ∧
    view (CharReader.next reader).2 = (view reader).take.2

theorem Source.shows_id : CharReader.Shows (id : Source → Source) :=
  ⟨fun _ => ⟨rfl, rfl⟩, fun _ => ⟨rfl, rfl⟩⟩

theorem ByteStream.shows_rest : CharReader.Shows ByteStream.rest :=
  ⟨ByteStream.hasNext_eq, ByteStream.next_eq⟩

namespace Scan

theorem read_of_error {scan : Scan} {reader : ρ} {e : SchemaError}
    (h : (CharReader.hasNext reader).1 = .error e) : scan.read reader = .error e := by
  rw [read]
  simp only [h]

theorem read_of_end {scan : Scan} {reader : ρ} (h : (CharReader.hasNext reader).1 = .ok false) :
    scan.read reader = .ok scan := by
  rw [read]
  simp only [h]

theorem read_of_next {scan : Scan} {reader : ρ} {c : Char}
    (h : (CharReader.hasNext reader).1 = .ok true)
    (hc : (CharReader.next (CharReader.hasNext reader).2).1 = .ok c) :
    scan.read reader =
      scan.step c >>= (·.read (CharReader.next (CharReader.hasNext reader).2).2) := by
  rw [read]
  simp only [h]
  split
  · next e he => rw [hc] at he; cases he
  · next c' hc' => rw [hc] at hc'; cases hc'; rfl

/-- What a scan comes to where its source ends, or breaks off for a reason. -/
def endsWith (scan : Scan) (failure? : Option String) : Except SchemaError Scan :=
  match failure? with
  | some reason => .error (.io reason)
  | none => .ok scan

/-- A reader is read as the source that it shows: all characters, and then its end. -/
theorem read_eq {view : ρ → Source} (hview : CharReader.Shows view) {chars : List Char}
    {failure? : Option String} (scan : Scan) {reader : ρ} (h : view reader = ⟨chars, failure?⟩) :
    scan.read reader = scan.run chars >>= (·.endsWith failure?) := by
  induction chars generalizing scan reader with
  | nil =>
    obtain ⟨hlook, -⟩ := hview.hasNext reader
    rw [h] at hlook
    cases failure? with
    | none => exact read_of_end hlook
    | some reason => exact read_of_error hlook
  | cons c chars ih =>
    obtain ⟨hlook, hahead⟩ := hview.hasNext reader
    obtain ⟨htaken, hrest⟩ := hview.next (CharReader.hasNext reader).2
    rw [h] at hlook hahead
    rw [hahead] at htaken hrest
    rw [read_of_next hlook htaken, run, List.foldlM_cons, bind_assoc]
    exact bind_congr fun scan => ih scan hrest

end Scan

theorem Source.tokens_eq (source : Source) :
    source.tokens =
      Scan.run {} source.chars >>= (·.endsWith source.failure?) >>= Scan.finish := by
  obtain ⟨chars, failure?⟩ := source
  rw [bind_assoc]
  refine bind_congr fun scan => ?_
  cases failure? <;> rfl

/-- The tokens of a reader are those of the source that it shows. -/
theorem CharReader.tokens_eq {view : ρ → Source} (hview : Shows view) (reader : ρ) :
    tokens reader = (view reader).tokens := by
  rw [tokens, Scan.read_eq hview {} rfl, Source.tokens_eq]

/-- The schema that a reader gives is that of the source it shows, so what holds of compiled sources
holds of compiled files. -/
theorem Compilation.ofReader_eq {view : ρ → Source} (hview : CharReader.Shows view) (reader : ρ)
    (settings : Settings) : ofReader reader settings = ofSource (view reader) settings := by
  rw [ofReader, ofSource, CharReader.tokens_eq hview]

/-! ## Asking more often -/

/-- A reader that asks more often than it is asked: `looks` says how many times it does so before
each of the operations to come. -/
structure Restless (ρ : Type) where
  /-- The reader that is asked. -/
  reader : ρ
  /-- How often it is asked before each operation. -/
  looks : List Nat

namespace Restless

/-- The reader after it has been asked a number of times, whatever it has answered. -/
def asked : Nat → ρ → ρ
  | 0, reader => reader
  | n + 1, reader => asked n (CharReader.hasNext reader).2

/-- The reader before the next operation. -/
def current (restless : Restless ρ) : ρ := asked (restless.looks.headD 0) restless.reader

theorem left_asked (n : Nat) (reader : ρ) :
    CharReader.left (asked n reader) ≤ CharReader.left reader := by
  induction n generalizing reader with
  | zero => exact Nat.le_refl _
  | succ n ih => exact Nat.le_trans (ih _) (CharReader.left_hasNext reader)

theorem view_asked {view : ρ → Source} (hview : CharReader.Shows view) (n : Nat) (reader : ρ) :
    view (asked n reader) = view reader := by
  induction n generalizing reader with
  | zero => rfl
  | succ n ih => rw [asked, ih, (hview.hasNext reader).2]

/-- An operation on the reader, after it has been asked. -/
def after {α : Type} (operation : ρ → Except SchemaError α × ρ) (restless : Restless ρ) :
    Except SchemaError α × Restless ρ :=
  ((operation restless.current).1, ⟨(operation restless.current).2, restless.looks.tail⟩)

instance : CharReader (Restless ρ) where
  hasNext := after CharReader.hasNext
  next := after CharReader.next
  left restless := CharReader.left restless.reader
  left_hasNext restless :=
    Nat.le_trans (CharReader.left_hasNext restless.current) (left_asked _ _)
  left_next h := Nat.lt_of_lt_of_le (CharReader.left_next h) (left_asked _ _)

theorem shows {view : ρ → Source} (hview : CharReader.Shows view) :
    CharReader.Shows fun restless : Restless ρ => view restless.reader := by
  have hcurrent (restless : Restless ρ) : view restless.current = view restless.reader :=
    view_asked hview _ _
  constructor
  · intro restless
    rw [← hcurrent restless]
    exact hview.hasNext restless.current
  · intro restless
    rw [← hcurrent restless]
    exact hview.next restless.current

theorem tokens_eq {view : ρ → Source} (hview : CharReader.Shows view) (restless : Restless ρ) :
    CharReader.tokens restless = CharReader.tokens restless.reader := by
  rw [CharReader.tokens_eq (shows hview), CharReader.tokens_eq hview]

end Restless

end

/-! ## Bytes as characters -/

namespace ByteStream

/-- The text that has one character for every byte. -/
def latin1 (bytes : ByteArray) : String := String.ofList (bytes.data.toList.map charOf)

theorem tokens_ofBytes (bytes : ByteArray) (failure? : Option String) :
    CharReader.tokens (ofBytes bytes failure?)
      = Source.tokens ⟨(latin1 bytes).toList, failure?⟩ := by
  rw [CharReader.tokens_eq shows_rest, latin1, String.toList_ofList]
  rfl

theorem charOf_ofNat {c : Char} (h : c.toNat < 0x80) : charOf (UInt8.ofNat c.toNat) = c := by
  have hbyte : (UInt8.ofNat c.toNat).toNat = c.toNat :=
    UInt8.toNat_ofNat_of_lt (Nat.lt_trans h (by decide))
  rw [charOf, hbyte, Char.ofNat_toNat]

theorem map_charOf_encoded {cs : List Char} (h : ∀ c ∈ cs, c.toNat < 0x80) :
    (cs.flatMap String.utf8EncodeChar).map charOf = cs := by
  induction cs with
  | nil => rfl
  | cons c cs ih =>
    rw [List.forall_mem_cons] at h
    have hc : String.utf8EncodeChar c = [UInt8.ofNat c.toNat] :=
      if_pos (Nat.le_of_lt_succ h.1)
    rw [List.flatMap_cons, List.map_append, ih h.2, hc, List.map_singleton, charOf_ofNat h.1]
    rfl

/-- The bytes of an ASCII text are its characters. -/
theorem latin1_toUTF8 {text : String} (h : ∀ c ∈ text.toList, c.toNat < 0x80) :
    latin1 text.toUTF8 = text := by
  have hbytes : text.toUTF8.data.toList = text.toList.flatMap String.utf8EncodeChar := by
    rw [String.toUTF8, ← String.utf8Encode_toList, List.utf8Encode, List.toList_data_toByteArray]
  rw [latin1, hbytes, map_charOf_encoded h, String.ofList_toList]

end ByteStream

/-! ## Errors at a character -/

namespace ScanState

/-- The errors that the character `c`, which stands at `here`, can cause: it cannot stand there, or
it ends digits that name no bit of the flags, or a literal that denotes no type. -/
inductive Fault (here : Position) (c : Char) : SchemaError → Prop
  | lex (phase : Phase) : Fault here c (.lex phase c here)
  | flagIndex {digits field : String} {pos : Position} (h : flagBit? digits = none) :
      Fault here c (.parse (.flagIndex digits field) pos)
  | malformedType {literal : String} {fault : MalformedType}
      (h : ValueType.parse literal = .error fault) : Fault here c (.malformedType fault)

section

variable {here : Position} {c : Char} {e : SchemaError}

theorem Fault.ne_unexpectedEnd (h : Fault here c e) (phase : Phase) (pos : Position) :
    e ≠ .unexpectedEnd phase pos := by
  cases h <;> simp

theorem fault_of_typeOf {word : Word} (h : typeOf word = .error e) : Fault here c e := by
  obtain ⟨fault, hparse, rfl⟩ := mapError_eq_error.mp h
  exact .malformedType hparse

theorem fault_of_stepClassName {word : Word} (h : stepClassName word here c = .error e) :
    Fault here c e := by
  unfold stepClassName at h
  split_ifs at h
  cases h
  exact .lex .className

theorem fault_of_stepFieldType {name word : Word} {guard? : Option UInt8}
    (h : stepFieldType name guard? word here c = .error e) : Fault here c e := by
  unfold stepFieldType at h
  split_ifs at h
  · rcases bind_eq_error.mp h with htype | ⟨type, -, hnext⟩
    · exact fault_of_typeOf htype
    · cases hnext
  · cases h
    exact .lex .fieldType
  · cases h
    exact .lex .fieldType

theorem fault_of_stepFlagIndex {name word : Word} (h : stepFlagIndex name word here c = .error e) :
    Fault here c e := by
  unfold stepFlagIndex at h
  split_ifs at h
  · cases hbit : flagBit? word.text with
    | some bit =>
      rw [hbit] at h
      cases h
    | none =>
      rw [hbit] at h
      cases h
      exact .flagIndex hbit
  · cases h
    exact .lex .flagFieldIndex

theorem fault_of_stepReturnClause {guard? : Option UInt8} {word : Word}
    (h : stepReturnClause guard? word here c = .error e) : Fault here c e := by
  unfold stepReturnClause at h
  split_ifs at h
  · rcases bind_eq_error.mp h with htype | ⟨type, -, hnext⟩
    · exact fault_of_typeOf htype
    · cases hnext
  · cases h
    exact .lex .returnClause

/-- A character that is refused is at fault. -/
theorem fault_of_step {state : ScanState} (h : state.step here c = .error e) : Fault here c e := by
  cases state with
  | start =>
    simp only [step, stepStart] at h
    split_ifs at h
    cases h
    exact .lex .start
  | slash word =>
    simp only [step, stepSlash] at h
    split_ifs at h
    exact fault_of_stepClassName h
  | comment => cases h
  | className word => exact fault_of_stepClassName h
  | constructorId word =>
    simp only [step, stepConstructorId] at h
    split_ifs at h
    cases h
    exact .lex .constructor
  | fieldName guard? word =>
    simp only [step, stepFieldName] at h
    split_ifs at h <;> cases h
    all_goals exact .lex .fieldName
  | fieldType name guard? word => exact fault_of_stepFieldType h
  | flagIndex name word => exact fault_of_stepFlagIndex h
  | returnClause guard? word => exact fault_of_stepReturnClause h

end

end ScanState

/-- The first fault of a text: it is read up to a character, which is refused. -/
def FirstFault (text : String) (e : SchemaError) : Prop :=
  ∃ seen c rest scan, text.toList = seen ++ c :: rest ∧ Scan.run {} seen = .ok scan ∧
    scan.step c = .error e

theorem Scan.run_eq_error {text : String} {e : SchemaError} :
    Scan.run {} text.toList = .error e ↔ FirstFault text e :=
  foldlM_eq_error

theorem FirstFault.fault {text : String} {e : SchemaError} (h : FirstFault text e) :
    ∃ here c, ScanState.Fault here c e := by
  obtain ⟨seen, c, rest, scan, -, -, hc⟩ := h
  rcases bind_eq_error.mp hc with hstep | ⟨next, -, hnext⟩
  · exact ⟨scan.here, c, ScanState.fault_of_step hstep⟩
  · cases hnext

theorem Scan.finish_eq_error {scan : Scan} {e : SchemaError} (h : scan.finish = .error e) :
    e = .unexpectedEnd scan.state.phase scan.here := by
  obtain ⟨state, here, tokens⟩ := scan
  cases state <;> cases h <;> rfl

/-- First faults are the errors of a text other than that it ends too early. -/
theorem firstFault_iff {text : String} {e : SchemaError} :
    FirstFault text e ↔ tokensOf text = .error e ∧ ∃ here c, ScanState.Fault here c e := by
  constructor
  · intro h
    exact ⟨bind_eq_error.mpr (.inl (Scan.run_eq_error.mpr h)), h.fault⟩
  · rintro ⟨h, here, c, hfault⟩
    rcases bind_eq_error.mp h with hrun | ⟨scan, -, hfinish⟩
    · exact Scan.run_eq_error.mp hrun
    · exact absurd (Scan.finish_eq_error hfinish) (hfault.ne_unexpectedEnd _ _)

/-- A stream that breaks off has no tokens: it ends with its first fault, or with the reason why it
breaks off. -/
theorem ByteStream.tokens_of_failure (bytes : ByteArray) (reason : String) :
    ∃ e, CharReader.tokens (ofBytes bytes (some reason)) = .error e ∧
      (FirstFault (latin1 bytes) e ∨
        (∀ fault, ¬ FirstFault (latin1 bytes) fault) ∧ e = .io reason) := by
  rw [tokens_ofBytes, Source.tokens_eq]
  cases hrun : Scan.run {} (latin1 bytes).toList with
  | error e => exact ⟨e, rfl, .inl (Scan.run_eq_error.mp hrun)⟩
  | ok scan =>
    refine ⟨.io reason, rfl, .inr ⟨fun fault hfault => ?_, rfl⟩⟩
    rw [Scan.run_eq_error.mpr hfault] at hrun
    cases hrun

/-- Streams are scanned as texts. The tokens of a stream, or its error, are those of the text with a
character for every byte, so those of the text itself if it is ASCII. To ask a reader more often
than needed changes nothing. A stream that breaks off ends with the first fault among its bytes, and
if there is none, with the reason why it breaks off. The first fault of a text is the error that
its scan ends with, unless it only ends too early. -/
theorem streams_scanned_as_texts :
    (∀ bytes : ByteArray,
      CharReader.tokens (ByteStream.ofBytes bytes) = tokensOf (ByteStream.latin1 bytes)) ∧
    (∀ text : String, (∀ c ∈ text.toList, c.toNat < 0x80) →
      CharReader.tokens (ByteStream.ofBytes text.toUTF8) = tokensOf text) ∧
    (∀ (bytes : ByteArray) (failure? : Option String) (looks : List Nat),
      CharReader.tokens (Restless.mk (ByteStream.ofBytes bytes failure?) looks)
        = CharReader.tokens (ByteStream.ofBytes bytes failure?)) ∧
    (∀ (text : String) (looks : List Nat),
      CharReader.tokens (Restless.mk (Source.ofText text) looks) = tokensOf text) ∧
    (∀ (bytes : ByteArray) (reason : String), ∃ e,
      CharReader.tokens (ByteStream.ofBytes bytes (some reason)) = .error e ∧
      (∀ phase pos, e ≠ .unexpectedEnd phase pos) ∧
      (FirstFault (ByteStream.latin1 bytes) e ∨
        (∀ fault, ¬ FirstFault (ByteStream.latin1 bytes) fault) ∧ e = .io reason)) ∧
    ∀ text e, FirstFault text e ↔
      tokensOf text = .error e ∧ ∃ here c, ScanState.Fault here c e := by
  refine ⟨fun bytes => ByteStream.tokens_ofBytes bytes none, fun text htext => ?_,
    fun bytes failure? looks => Restless.tokens_eq ByteStream.shows_rest _,
    fun text looks => ?_, fun bytes reason => ?_, fun text e => firstFault_iff⟩
  · rw [ByteStream.tokens_ofBytes, ByteStream.latin1_toUTF8 htext]
    rfl
  · rw [Restless.tokens_eq Source.shows_id, CharReader.tokens_eq Source.shows_id]
    rfl
  · obtain ⟨e, htokens, hends⟩ := ByteStream.tokens_of_failure bytes reason
    refine ⟨e, htokens, fun phase pos => ?_, hends⟩
    rcases hends with hfault | ⟨-, rfl⟩
    · obtain ⟨here, c, hkind⟩ := hfault.fault
      exact hkind.ne_unexpectedEnd phase pos
    · simp

namespace CutShort

/-- A definition and the beginning of another one. -/
def text : String := "a#1 = b;c#2"

theorem tokensOf_text : tokensOf text = .error (.unexpectedEnd .constructor ⟨1, 12⟩) := by
  decide +kernel

theorem ascii : ∀ c ∈ text.toList, c.toNat < 0x80 := by
  have hall : text.toList.all (·.toNat < 0x80) = true := by decide
  simpa using hall

theorem not_firstFault (e : SchemaError) : ¬ FirstFault text e := by
  intro h
  obtain ⟨here, c, hkind⟩ := h.fault
  obtain ⟨htokens, -⟩ := firstFault_iff.mp h
  rw [tokensOf_text] at htokens
  cases htokens
  exact hkind.ne_unexpectedEnd _ _ rfl

/-- The text ends too early; as a stream that breaks off, it ends with the reason of that, however
often it is asked. -/
theorem streams_scanned_cut_short :
    (∀ c ∈ text.toList, c.toNat < 0x80) ∧
    CharReader.tokens (ByteStream.ofBytes text.toUTF8)
      = .error (.unexpectedEnd .constructor ⟨1, 12⟩) ∧
    CharReader.tokens (Restless.mk (ByteStream.ofBytes text.toUTF8 (some "gone")) [2, 0, 3])
      = .error (.io "gone") := by
  obtain ⟨-, hascii, hasked, -, hbroken, -⟩ := streams_scanned_as_texts
  refine ⟨ascii, (hascii text ascii).trans tokensOf_text, ?_⟩
  obtain ⟨e, htokens, -, hends⟩ := hbroken text.toUTF8 "gone"
  rw [ByteStream.latin1_toUTF8 ascii] at hends
  rw [hasked, htokens]
  rcases hends with hfault | ⟨-, rfl⟩
  · exact absurd hfault (not_firstFault e)
  · rfl

end CutShort

end TlSchema
