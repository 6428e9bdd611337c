import TlSchema.Proofs.Spelling

/-!
# Texts line by line

A text that is accepted can be followed by any other text on the next line: after the line break the
scanner is between definitions and remembers nothing of what it has read, so it does with the second
text what it does with it alone, some lines further down. In particular comments and blank lines
between definitions do not matter.
-/

namespace TlSchema

open Results

/-! ## Further down -/

/-- The place that many lines further down. -/
def Position.down (lines : Nat) (here : Position) : Position := ⟨here.line + lines, here.column⟩

theorem Position.down_advance (lines : Nat) (here : Position) (c : Char) :
    (here.down lines).advance c = (here.advance c).down lines := by
  unfold advance down
  split_ifs
  · rw [Nat.add_right_comm]
  · rfl

theorem Position.line_foldl_advance (here : Position) (cs : List Char) :
    (cs.foldl advance here).line = here.line + cs.count '\n' := by
  induction cs generalizing here with
  | nil => rfl
  | cons c cs ih =>
    rw [List.foldl_cons, ih, List.count_cons]
    unfold advance
    by_cases hc : c = '\n'
    · simp only [hc, if_true, beq_self_eq_true]
      omega
    · simp [hc]

namespace Scan

variable (before : List Token) (lines : Nat)

/-- The scan that many lines further down, after other tokens. -/
def below (scan : Scan) : Scan :=
  ⟨scan.state.place (.down lines), scan.here.down lines,
    before.toArray ++ scan.tokens.map (Token.place (.down lines))⟩

/-- How a scan goes on, that many lines further down and after other tokens. -/
def outcomeBelow : Except SchemaError Scan → Except SchemaError Scan
  | .ok scan => .ok (scan.below before lines)
  | .error error => .error (error.place (.down lines))

theorem step_below (scan : Scan) (c : Char) :
    (scan.below before lines).step c = outcomeBelow before lines (scan.step c) := by
  have hstep : (scan.below before lines).state.step (scan.below before lines).here c =
      ScanState.placeEffect (.down lines) (scan.state.step scan.here c) :=
    ScanState.step_place (.down lines) scan.state scan.here c
  unfold step
  rw [hstep]
  cases scan.state.step scan.here c with
  | error error => rfl
  | ok effect =>
    obtain ⟨state, token?⟩ := effect
    cases token? with
    | none => exact congrArg Except.ok (by simp [below, Position.down_advance])
    | some token => exact congrArg Except.ok (by simp [below, Position.down_advance])

theorem run_below (scan : Scan) (cs : List Char) :
    (scan.below before lines).run cs = outcomeBelow before lines (scan.run cs) := by
  induction cs generalizing scan with
  | nil => rfl
  | cons c cs ih =>
    unfold run
    rw [List.foldlM_cons, List.foldlM_cons, step_below]
    cases scan.step c with
    | error error => rfl
    | ok next => exact ih next

theorem finish_below (scan : Scan) :
    (scan.below before lines).finish =
      (scan.finish.mapError (SchemaError.place (.down lines))).map
        fun tokens => before ++ tokens.map (Token.place (.down lines)) := by
  obtain ⟨state, here, tokens⟩ := scan
  cases state with
  | start | comment => exact congrArg Except.ok (by simp [below])
  | _ => rfl

theorem run_append (scan : Scan) (cs ds : List Char) :
    scan.run (cs ++ ds) = scan.run cs >>= fun next => next.run ds :=
  List.foldlM_append

theorem here_of_run {scan scan' : Scan} {cs : List Char} (h : scan.run cs = .ok scan') :
    scan'.here = cs.foldl Position.advance scan.here := by
  have hstep : ∀ seen c (t t' : Scan), t.step c = .ok t' →
      t.here = seen.foldl Position.advance scan.here →
        t'.here = (seen ++ [c]).foldl Position.advance scan.here := by
    intro seen c t t' ht hhere
    obtain ⟨effect, -, hnext⟩ := bind_eq_ok.mp ht
    cases hnext
    rw [List.foldl_append, ← hhere]
    rfl
  have hrun : scan'.here = ([] ++ cs).foldl Position.advance scan.here :=
    foldlM_trace (fun seen (t : Scan) => t.here = seen.foldl Position.advance scan.here) hstep h rfl
  rwa [List.nil_append] at hrun

end Scan

/-! ## The next line -/

theorem tokensOf_eq (text : String) : tokensOf text = Scan.run {} text.toList >>= Scan.finish :=
  rfl

/-- The line break after an accepted text leaves nothing but its tokens: the scan goes on as one
that starts below. -/
theorem run_line {text : String} {tokens : List Token} (h : tokensOf text = .ok tokens) :
    Scan.run {} (text.toList ++ ['\n']) =
      .ok (Scan.below tokens (1 + text.toList.count '\n') {}) := by
  rw [tokensOf_eq] at h
  obtain ⟨scan, hrun, hfinish⟩ := bind_eq_ok.mp h
  obtain ⟨hstate, htokens⟩ := Scan.finish_eq_ok.mp hfinish
  have hline := congrArg Position.line (Scan.here_of_run hrun)
  rw [Position.line_foldl_advance] at hline
  obtain ⟨state, here, completed⟩ := scan
  have hbreak : state.step here '\n' = .ok (.start, none) := by
    rcases hstate with rfl | rfl <;> rfl
  have hstep : Scan.run ⟨state, here, completed⟩ ['\n'] =
      .ok ⟨.start, here.advance '\n', completed⟩ := by
    unfold Scan.run Scan.step
    simp [hbreak, bind, Except.bind, pure, Except.pure]
  have hbelow : (⟨.start, here.advance '\n', completed⟩ : Scan) =
      Scan.below tokens (1 + text.toList.count '\n') {} := by
    have hhere : here.advance '\n' = Position.down (1 + text.toList.count '\n') .first := by
      show (⟨here.line + 1, 1⟩ : Position) = ⟨1 + (1 + text.toList.count '\n'), 1⟩
      rw [show here.line = 1 + text.toList.count '\n' from hline, Nat.add_comm]
    rw [Scan.below, hhere, ← htokens]
    simp [ScanState.place]
  rw [Scan.run_append, hrun, ← hbelow]
  exact hstep

/-- After an accepted text and a line break, any text is read as it is alone, that many lines further
down. -/
theorem tokensOf_below {text : String} {tokens : List Token} (h : tokensOf text = .ok tokens)
    (next : String) :
    tokensOf (text ++ "\n" ++ next) =
      ((tokensOf next).mapError (SchemaError.place (.down (1 + text.toList.count '\n')))).map
        fun more => tokens ++ more.map (Token.place (.down (1 + text.toList.count '\n'))) := by
  have hchars : (text ++ "\n" ++ next).toList = text.toList ++ ['\n'] ++ next.toList := by simp
  rw [tokensOf_eq, hchars, Scan.run_append, run_line h]
  show (Scan.run (Scan.below _ _ {}) next.toList >>= Scan.finish) = _
  rw [Scan.run_below, tokensOf_eq]
  cases Scan.run {} next.toList with
  | error error => rfl
  | ok scan => exact Scan.finish_below tokens _ scan

/-! ## Comments and blank lines -/

/-- No blank is a letter or a digit. -/
theorem Text.isAlphanumeric_of_isBlank {c : Char} (h : isBlank c = true) :
    isAlphanumeric c = false := by
  have hcodes : ∀ n ∈ [9, 10, 11, 12, 13, 32, 0x85, 0xa0, 0x1680, 0x2000, 0x2001, 0x2002, 0x2003,
      0x2004, 0x2005, 0x2006, 0x2007, 0x2008, 0x2009, 0x200a, 0x2028, 0x2029, 0x202f, 0x205f,
      0x3000], isAlphanumeric (Char.ofNat n) = false := by decide +kernel
  have hcode := hcodes c.toNat
  rw [Char.ofNat_toNat] at hcode
  apply hcode
  simp only [isBlank, inRuns, blankRuns, CodeRun.contains] at h
  simp at h ⊢
  omega

/-- The line is blank, or it is a comment, before which blanks may stand. -/
def IsRemark (line : String) : Prop :=
  MadeOf Text.isBlank line ∨
    ∃ blanks comment, line = blanks ++ "//" ++ comment ∧ MadeOf Text.isBlank blanks ∧
      '\n' ∉ comment.toList

namespace ScanState

theorem reads_blanks {cs : List Char} (h : ∀ c ∈ cs, Text.isBlank c = true) :
    Reads .start cs [] .start := by
  induction cs with
  | nil => exact .nil _
  | cons c cs ih =>
    obtain ⟨hc, hcs⟩ := List.forall_mem_cons.mp h
    have hmove : Moves .first c .start .start none := .blank (Text.isAlphanumeric_of_isBlank hc) hc
    exact .cons (said_of_moves hmove) (ih hcs)

theorem reads_comment {cs : List Char} (h : '\n' ∉ cs) : Reads .comment cs [] .comment := by
  induction cs with
  | nil => exact .nil _
  | cons c cs ih =>
    rw [List.mem_cons, not_or] at h
    obtain ⟨hc, hcs⟩ := h
    have hmove : Moves .first c .comment .comment none := .commentChar (Ne.symm hc)
    exact .cons (said_of_moves hmove) (ih hcs)

theorem reads_remark {line : String} (h : IsRemark line) :
    ∃ target, (target = .start ∨ target = .comment) ∧ Reads .start line.toList [] target := by
  rcases h with hblank | ⟨blanks, comment, rfl, hblanks, hcomment⟩
  · exact ⟨.start, Or.inl rfl, reads_blanks hblank⟩
  · refine ⟨.comment, Or.inr rfl, ?_⟩
    have hslash : Reads .start ['/'] [] (.slash (.bare "/")) := .silent rfl
    have hslashes : Reads .start ['/', '/'] [] .comment := hslash.append (.silent rfl)
    have hchars : (blanks ++ "//" ++ comment).toList
        = blanks.toList ++ ['/', '/'] ++ comment.toList := by simp
    rw [hchars]
    exact ((reads_blanks hblanks).append hslashes).append (reads_comment hcomment)

/-- Lines of remarks bring the scanner back to where it was, between definitions. -/
theorem reads_remarks {lines : List String} (h : ∀ line ∈ lines, IsRemark line) :
    Reads .start (String.join (lines.map (· ++ "\n"))).toList [] .start := by
  rw [String.toList_join, List.flatMap_map]
  induction lines with
  | nil => exact .nil _
  | cons line lines ih =>
    obtain ⟨hline, hlines⟩ := List.forall_mem_cons.mp h
    obtain ⟨target, htarget, hread⟩ := reads_remark hline
    have hbreak : Reads target ['\n'] [] .start := by
      rcases htarget with rfl | rfl <;> exact .silent rfl
    rw [List.flatMap_cons, String.toList_append]
    exact (hread.append hbreak).append (ih hlines)

end ScanState

/-! ## What tokens say -/

/-- What the tokens of a text say; nothing if the text is refused. -/
def kindsOf (text : String) : Option (List TokenKind) :=
  (tokensOf text).toOption.map fun tokens => tokens.map (·.kind)

namespace ScanState

theorem Reads.unique {state target other : ScanState} {cs : List Char} {kinds more : List TokenKind}
    (h : Reads state cs kinds target) (h' : Reads state cs more other) :
    kinds = more ∧ target = other := by
  induction h generalizing more with
  | nil =>
    cases h'
    exact ⟨rfl, rfl⟩
  | cons hc _ ih =>
    cases h' with
    | cons hc' hrest =>
      rw [hc] at hc'
      cases hc'
      obtain ⟨rfl, rfl⟩ := ih hrest
      exact ⟨rfl, rfl⟩

theorem Reads.split {state target : ScanState} {cs ds : List Char} {kinds : List TokenKind}
    (h : Reads state (cs ++ ds) kinds target) :
    ∃ middle before after, Reads state cs before middle ∧ Reads middle ds after target ∧
      kinds = before ++ after := by
  induction cs generalizing state kinds with
  | nil => exact ⟨state, [], kinds, .nil state, h, rfl⟩
  | cons c cs ih =>
    cases h with
    | cons hc hrest =>
      obtain ⟨middle, before, after, hbefore, hafter, rfl⟩ := ih hrest
      exact ⟨middle, _, after, .cons hc hbefore, hafter, (List.append_assoc _ _ _).symm⟩

theorem Reads.of_run {scan scan' : Scan} {cs : List Char} (h : scan.run cs = .ok scan') :
    ∃ kinds, Reads scan.state.unplaced cs kinds scan'.state.unplaced ∧
      scan'.tokens.toList.map (·.kind) = scan.tokens.toList.map (·.kind) ++ kinds := by
  induction cs generalizing scan with
  | nil =>
    cases h
    exact ⟨[], .nil _, (List.append_nil _).symm⟩
  | cons c cs ih =>
    obtain ⟨middle, hstep, hrest⟩ := bind_eq_ok.mp h
    obtain ⟨token?, hstate, htokens⟩ := Scan.step_eq_ok hstep
    obtain ⟨kinds, hreads, hkinds⟩ := ih hrest
    have hsaid : said (scan.state.unplaced.step .first c)
        = some (middle.state.unplaced, token?.map (·.kind)) := by
      rw [← said_step scan.state scan.here c, hstate]
      rfl
    refine ⟨_, .cons hsaid hreads, ?_⟩
    rw [hkinds, htokens, List.map_append, List.append_assoc]
    cases token? <;> rfl

end ScanState

theorem kindsOf_eq_some {text : String} {kinds : List TokenKind} :
    kindsOf text = some kinds ↔ ∃ tokens, tokensOf text = .ok tokens ∧
      tokens.map (·.kind) = kinds := by
  unfold kindsOf
  cases tokensOf text <;> simp [Except.toOption]

/-- A text is accepted if it leads from between definitions to between definitions or into a
comment. -/
theorem kindsOf_eq_some_iff_reads {text : String} {kinds : List TokenKind} :
    kindsOf text = some kinds ↔ ∃ target, (target = .start ∨ target = .comment) ∧
      ScanState.Reads .start text.toList kinds target := by
  rw [kindsOf_eq_some]
  constructor
  · rintro ⟨tokens, htokens, rfl⟩
    obtain ⟨scan, hrun, hstate, rfl⟩ := Source.tokens_eq_ok htokens
    obtain ⟨kinds, hreads, hkinds⟩ := ScanState.Reads.of_run hrun
    refine ⟨scan.state, hstate, ?_⟩
    have hplain : scan.state.unplaced = scan.state := by
      rcases hstate with hstate | hstate <;> rw [hstate] <;> rfl
    rw [hkinds, ← hplain]
    exact hreads
  · rintro ⟨target, htarget, hreads⟩
    have hstart : ({} : Scan).state.unplaced = .start := rfl
    obtain ⟨scan, hrun, hstate, hkinds⟩ := hreads.run hstart
    have hends : scan.state = .start ∨ scan.state = .comment := by
      obtain ⟨state, here, tokens⟩ := scan
      rcases htarget with rfl | rfl <;> cases state <;> cases hstate
      · exact Or.inl rfl
      · exact Or.inr rfl
    exact ⟨scan.tokens.toList,
      bind_eq_ok.mpr ⟨scan, hrun, Scan.finish_eq_ok.mpr ⟨hends, rfl⟩⟩, hkinds⟩

/-- After a text that ends between definitions, the tokens of the next one say what they say
alone. -/
theorem kindsOf_append {before next : String} {kinds said : List TokenKind}
    (h : ScanState.Reads .start before.toList kinds .start) :
    kindsOf (before ++ next) = some said ↔
      ∃ more, kindsOf next = some more ∧ said = kinds ++ more := by
  simp only [kindsOf_eq_some_iff_reads, String.toList_append]
  constructor
  · rintro ⟨target, htarget, hreads⟩
    obtain ⟨middle, first, more, hfirst, hmore, rfl⟩ := hreads.split
    obtain ⟨rfl, rfl⟩ := h.unique hfirst
    exact ⟨more, ⟨target, htarget, hmore⟩, rfl⟩
  · rintro ⟨more, ⟨target, htarget, hmore⟩, rfl⟩
    exact ⟨target, htarget, h.append hmore⟩

/-- Remarks between definitions do not change what the tokens of a text say, nor whether it has
any. -/
theorem kindsOf_remarks {before : String} {scan : Scan}
    (hrun : Scan.run {} before.toList = .ok scan) (hstate : scan.state = .start)
    {lines : List String} (hlines : ∀ line ∈ lines, IsRemark line) (next : String) :
    kindsOf (before ++ String.join (lines.map (· ++ "\n")) ++ next) = kindsOf (before ++ next) := by
  obtain ⟨kinds, hreads, -⟩ := ScanState.Reads.of_run hrun
  rw [hstate] at hreads
  have hremarks := hreads.append (ScanState.reads_remarks hlines)
  rw [← String.toList_append, List.append_nil] at hremarks
  apply Option.ext
  intro said
  exact (kindsOf_append hremarks).trans (kindsOf_append hreads).symm

/-- Lines one after the other. After an accepted text and a line break, another text gives the tokens
or the error that it gives alone, with all its lines counted further down. A comment has no tokens,
and remarks between definitions change nothing of what tokens say. -/
theorem tokensOf_next_line {text : String} {tokens : List Token} (h : tokensOf text = .ok tokens) :
    (∀ next all, tokensOf (text ++ "\n" ++ next) = .ok all ↔
      ∃ more, tokensOf next = .ok more ∧
        all = tokens ++ more.map (Token.place (.down (1 + text.toList.count '\n')))) ∧
    (∀ next error, tokensOf (text ++ "\n" ++ next) = .error error ↔
      ∃ alone, tokensOf next = .error alone ∧
        error = alone.place (.down (1 + text.toList.count '\n'))) ∧
    (∀ comment : String, '\n' ∉ comment.toList → tokensOf ("//" ++ comment) = .ok []) ∧
    ∀ before scan, Scan.run {} before.toList = .ok scan → scan.state = .start →
      ∀ lines : List String, (∀ line ∈ lines, IsRemark line) → ∀ next,
        kindsOf (before ++ String.join (lines.map (· ++ "\n")) ++ next)
          = kindsOf (before ++ next) := by
  refine ⟨fun next all => ?_, fun next error => ?_, fun comment hcomment => ?_,
    fun before scan hrun hstate lines hlines next => kindsOf_remarks hrun hstate hlines next⟩
  · rw [tokensOf_below h]
    cases tokensOf next <;> simp [Except.mapError, Except.map, eq_comm]
  · rw [tokensOf_below h]
    cases tokensOf next <;> simp [Except.mapError, Except.map, eq_comm]
  · have hremark : IsRemark ("//" ++ comment) :=
      Or.inr ⟨"", comment, by simp, madeOf_empty _, hcomment⟩
    obtain ⟨tokens, htokens, hkinds⟩ :=
      kindsOf_eq_some.mp (kindsOf_eq_some_iff_reads.mpr (ScanState.reads_remark hremark))
    rw [htokens, List.map_eq_nil_iff.mp hkinds]

namespace TwoTexts

/-- Two lines, the last of which ends inside a comment. -/
def first : String := "a.b#1 = a.B;\n c.d#2 x:int = a.B; // last"

def tokens : List Token :=
  [⟨.classDecl "a.b", ⟨1, 1⟩⟩, ⟨.constructorId "1", ⟨1, 5⟩⟩, ⟨.returnType (.named "a.B"), ⟨1, 9⟩⟩,
    ⟨.classDecl "c.d", ⟨2, 2⟩⟩, ⟨.constructorId "2", ⟨2, 6⟩⟩, ⟨.field "x" .int32, ⟨2, 8⟩⟩,
    ⟨.returnType (.named "a.B"), ⟨2, 16⟩⟩]

theorem tokensOf_first : tokensOf first = .ok tokens := by decide +kernel

/-- The scan between the two definitions. -/
def between : Scan := ⟨.start, ⟨1, 13⟩, (tokens.take 3).toArray⟩

theorem next_line_two_texts :
    tokensOf first = .ok tokens ∧
      tokensOf (first ++ "\n" ++ "\ne#3 = f;") =
        .ok (tokens ++ [⟨.classDecl "e", ⟨4, 1⟩⟩, ⟨.constructorId "3", ⟨4, 3⟩⟩,
          ⟨.returnType (.named "f"), ⟨4, 7⟩⟩]) ∧
      tokensOf (first ++ "\n" ++ "// x\ne#3 = f;;") = .error (.lex .start ';' ⟨4, 9⟩) ∧
      tokensOf "// a.b#1 = a.B;" = .ok [] ∧
      kindsOf ("a.b#1 = a.B;" ++ "// x\n \n" ++ "\n c.d#2 x:int = a.B; // last")
        = some (tokens.map (·.kind)) := by
  have hbetween : Scan.run {} "a.b#1 = a.B;".toList = .ok between := by decide +kernel
  have hremarks : ∀ line ∈ ["// x", " "], IsRemark line := by
    rw [List.forall_mem_cons, List.forall_mem_singleton]
    exact ⟨Or.inr ⟨"", " x", rfl, madeOf_empty _, by decide⟩, Or.inl (by decide +kernel)⟩
  obtain ⟨htokens, hrefused, hcomment, hkinds⟩ := tokensOf_next_line tokensOf_first
  have hnext : tokensOf "\ne#3 = f;" = .ok [⟨.classDecl "e", ⟨2, 1⟩⟩, ⟨.constructorId "3", ⟨2, 3⟩⟩,
      ⟨.returnType (.named "f"), ⟨2, 7⟩⟩] := by decide +kernel
  have herror : tokensOf "// x\ne#3 = f;;" = .error (.lex .start ';' ⟨2, 9⟩) := by decide +kernel
  refine ⟨tokensOf_first, (htokens _ _).mpr ⟨_, hnext, rfl⟩,
    (hrefused _ _).mpr ⟨_, herror, rfl⟩, hcomment " a.b#1 = a.B;" (by decide), ?_⟩
  exact (hkinds _ between hbetween rfl _ hremarks _).trans
    (kindsOf_eq_some.mpr ⟨tokens, tokensOf_first, rfl⟩)

end TwoTexts

end TlSchema
