import TlSchema.Token.Scanner

/-!
# Readers

The scanner need not know where characters come from. It asks a reader, again and again, whether
another character follows, and takes it. A source in memory is a reader that answers without moving.
A stream of bytes has to read a byte to find out whether there is one, and keeps it until it is
taken.
-/

namespace TlSchema

/-- What gives characters one by one. Every operation leaves a reader, also where it fails. -/
class CharReader (ρ : Type) where
  /-- Whether another character follows. -/
  hasNext : ρ → Except SchemaError Bool × ρ
  /-- Takes the next character. -/
  next : ρ → Except SchemaError Char × ρ
  /-- How many characters can be taken at most. -/
  left : ρ → Nat
  /-- To ask adds no characters. -/
  left_hasNext : ∀ reader, left (hasNext reader).2 ≤ left reader
  /-- Every character is taken once. -/
  left_next : ∀ {reader c}, (next reader).1 = .ok c → left (next reader).2 < left reader

/-! ## Sources in memory -/

namespace Source

/-- The next character and the source without it; a source that has none stays as it is. -/
def take (source : Source) : Except SchemaError Char × Source :=
  match source.next with
  | .ok (c, rest) => (.ok c, rest)
  | .error e => (.error e, source)

theorem length_take {source : Source} {c : Char} (h : source.take.1 = .ok c) :
    source.take.2.chars.length < source.chars.length := by
  obtain ⟨chars, failure?⟩ := source
  cases chars with
  | nil => cases failure? <;> cases h
  | cons first rest => exact Nat.lt_succ_self rest.length

instance : CharReader Source where
  hasNext source := (source.hasNext, source)
  next := take
  left source := source.chars.length
  left_hasNext _ := Nat.le_refl _
  left_next := length_take

end Source

/-! ## Streams of bytes -/

/-- A stream of bytes, with the byte that has been read to see whether there is one. -/
structure ByteStream where
  /-- The bytes that have not been read. -/
  bytes : List UInt8
  /-- Why the stream breaks off after them, if it does. -/
  failure? : Option String := none
  /-- The byte that has been read and not taken. -/
  peeked? : Option UInt8 := none

namespace ByteStream

/-- The stream of the given bytes, before anything is read. -/
def ofBytes (bytes : ByteArray) (failure? : Option String := none) : ByteStream :=
  { bytes := bytes.data.toList, failure? }

/-- The character that a byte stands for. -/
def charOf (b : UInt8) : Char := Char.ofNat b.toNat

/-- Reads a byte ahead, unless one waits already. -/
def peek (stream : ByteStream) : Except SchemaError (Option UInt8) × ByteStream :=
  match stream.peeked?, stream.bytes, stream.failure? with
  | some b, _, _ => (.ok (some b), stream)
  | none, b :: rest, _ => (.ok (some b), { stream with bytes := rest, peeked? := some b })
  | none, [], none => (.ok none, stream)
  | none, [], some reason => (.error (.io reason), stream)

/-- Whether a byte can be read, or waits already. -/
def hasNext (stream : ByteStream) : Except SchemaError Bool × ByteStream :=
  let (found, ahead) := stream.peek
  (found.map Option.isSome, ahead)

/-- Takes the byte that waits, or the next one. -/
def next (stream : ByteStream) : Except SchemaError Char × ByteStream :=
  match stream.peek with
  | (.ok (some b), ahead) => (.ok (charOf b), { ahead with peeked? := none })
  | (.ok none, ahead) => (.error (.io Source.exhausted), ahead)
  | (.error e, ahead) => (.error e, ahead)

/-- What is left to read of the stream: the byte that waits and those after it. -/
def rest (stream : ByteStream) : Source :=
  ⟨(stream.peeked?.toList ++ stream.bytes).map charOf, stream.failure?⟩

/-- To ask whether a byte follows leaves what is left to read. -/
theorem hasNext_eq (stream : ByteStream) :
    stream.hasNext.1 = stream.rest.hasNext ∧ stream.hasNext.2.rest = stream.rest := by
  obtain ⟨bytes, failure?, peeked?⟩ := stream
  cases peeked? with
  | some b => exact ⟨rfl, rfl⟩
  | none =>
    cases bytes with
    | cons b bytes => exact ⟨rfl, rfl⟩
    | nil => cases failure? <;> exact ⟨rfl, rfl⟩

/-- To take a byte is to take the first character of what is left to read. -/
theorem next_eq (stream : ByteStream) :
    stream.next.1 = stream.rest.take.1 ∧ stream.next.2.rest = stream.rest.take.2 := by
  obtain ⟨bytes, failure?, peeked?⟩ := stream
  cases peeked? with
  | some b => exact ⟨rfl, rfl⟩
  | none =>
    cases bytes with
    | cons b bytes => exact ⟨rfl, rfl⟩
    | nil => cases failure? <;> exact ⟨rfl, rfl⟩

instance : CharReader ByteStream where
  hasNext := hasNext
  next := next
  left stream := stream.rest.chars.length
  left_hasNext stream := Nat.le_of_eq (congrArg (·.chars.length) (hasNext_eq stream).2)
  left_next {stream c} h := by
    rw [(next_eq stream).1] at h
    rw [(next_eq stream).2]
    exact Source.length_take h

end ByteStream

/-! ## Scanning -/

section

variable {ρ : Type} [CharReader ρ]

/-- Reads characters until none follows. -/
def Scan.read (scan : Scan) (reader : ρ) : Except SchemaError Scan :=
  let look := CharReader.hasNext reader
  match look.1 with
  | .error e => .error e
  | .ok false => .ok scan
  | .ok true =>
    let taken := CharReader.next look.2
    match htaken : taken.1 with
    | .error e => .error e
    | .ok c =>
      have : CharReader.left taken.2 < CharReader.left reader :=
        Nat.lt_of_lt_of_le (CharReader.left_next htaken) (CharReader.left_hasNext reader)
      do
        let scan ← scan.step c
        scan.read taken.2
termination_by CharReader.left reader

/-- The tokens of what a reader gives. -/
def CharReader.tokens (reader : ρ) : Except SchemaError (List Token) := do
  let scan ← Scan.read {} reader
  scan.finish

end

end TlSchema
