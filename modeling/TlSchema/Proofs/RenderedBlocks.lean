import TlSchema.Proofs.Closure
import TlSchema.Proofs.Delegation
import TlSchema.Proofs.Rules
import TlSchema.Render.Code

/-!
# Blocks of code

The code of an accepted schema is a block for each output name, in the order in which definitions
first have them, and the block is written from the plan that the registry finds for the name. So
where output names collide, code and registry drop the same definitions.

They also agree on responses: the block of a name holds a function that reads responses exactly if
the registry can read them, and both read them through the entry point of the same type.
-/

namespace TlSchema

open Wire Decoder

/-- The error says that nothing reads the response: there is none, or its type has no plan. -/
def CodecError.IsUnanswered : CodecError → Prop
  | .noResponse _ => True
  | .unknownType _ => True
  | _ => False

namespace Render

/-! ## First plans of output names -/

theorem typeNames_firstOfName (seen : List String) (plans : List Plan) :
    (firstOfName seen plans).map (·.typeName)
      = ((plans.map (·.typeName)).filter (· ∉ seen)).eraseDups := by
  induction plans generalizing seen with
  | nil => rfl
  | cons plan plans ih =>
    unfold firstOfName
    split
    next hseen => rw [ih, List.map_cons, List.filter_cons_of_neg (by simpa using hseen)]
    next hseen =>
      -- what is seen and what repeats the first name are left out by one filter
      have hboth : ∀ name, decide (name ∉ plan.typeName :: seen)
          = (!(name == plan.typeName) && decide (name ∉ seen)) := by
        intro name
        rw [Bool.eq_iff_iff]
        simp
      rw [List.map_cons, ih, List.map_cons, List.filter_cons_of_pos (by simpa using hseen),
        List.eraseDups_cons, List.filter_filter, funext hboth]

theorem find?_of_mem_firstOfName {seen : List String} {plans : List Plan} {plan : Plan}
    (h : plan ∈ firstOfName seen plans) :
    plan.typeName ∉ seen ∧ plans.find? (·.typeName = plan.typeName) = some plan := by
  induction plans generalizing seen with
  | nil => cases h
  | cons first plans ih =>
    unfold firstOfName at h
    split at h
    next hseen =>
      -- the first plan is passed over, and its name was seen, so the plan has another one
      obtain ⟨hnot, hfind⟩ := ih h
      have hne : first.typeName ≠ plan.typeName := fun heq => hnot (heq ▸ hseen)
      exact ⟨hnot, by rwa [List.find?_cons_of_neg (by simpa using hne)]⟩
    next hseen =>
      rcases List.mem_cons.mp h with rfl | h
      · exact ⟨hseen, List.find?_cons_of_pos (by simp)⟩
      · obtain ⟨hnot, hfind⟩ := ih h
        rw [List.mem_cons, not_or] at hnot
        exact ⟨hnot.2, by rwa [List.find?_cons_of_neg (by simpa using Ne.symm hnot.1)]⟩

/-! ## Layout of a compilation -/

/-- The code of the plan that is found for an output name. -/
def block (unit : Compilation) (typeName : String) : Lines :=
  match unit.registry.plan typeName with
  | .ok plan => planCode (unit.plans.map (·.typeName)) plan
  | .error _ => []

/-- The lines before the first block. -/
def opening (settings : Settings) : Lines :=
  if Text.trim settings.outputNamespace = "" then header
  else ("pub mod " ++ identifier (Text.trim settings.outputNamespace) ++ " \x7b") :: header

/-- The lines after the last block. -/
def closing (settings : Settings) : Lines :=
  if Text.trim settings.outputNamespace = "" then [] else ["\x7d"]

theorem block_eq {unit : Compilation} {typeName : String} {plan : Plan}
    (h : unit.registry.plan typeName = .ok plan) :
    block unit typeName = planCode (unit.plans.map (·.typeName)) plan := by
  unfold block
  rw [h]

theorem block_of_mem_firstOfName {unit : Compilation} {plan : Plan}
    (h : plan ∈ firstOfName [] unit.plans) :
    block unit plan.typeName = planCode (unit.plans.map (·.typeName)) plan := by
  refine block_eq ?_
  unfold Registry.plan
  rw [Compilation.registry, (find?_of_mem_firstOfName h).2]

theorem lines_eq {unit : Compilation} (hpairs : unit.pairs.map (·.2) = unit.plans)
    (settings : Settings) :
    lines unit settings = opening settings
      ++ (unit.plans.map (·.typeName)).eraseDups.flatMap (block unit) ++ closing settings := by
  have hnames := typeNames_firstOfName [] unit.plans
  rw [List.filter_eq_self.mpr (by simp)] at hnames
  have hblocks : (firstOfName [] unit.plans).flatMap (planCode (unit.plans.map (·.typeName)))
      = (unit.plans.map (·.typeName)).eraseDups.flatMap (block unit) := by
    rw [← hnames, List.flatMap_map]
    exact List.flatMap_congr fun plan hplan => (block_of_mem_firstOfName hplan).symm
  unfold lines opening closing
  rw [hpairs, ← hblocks]
  by_cases hnamespace : Text.trim settings.outputNamespace = "" <;> simp [hnamespace]

/-! ## Functions that read responses

The line that starts such a function comes from nowhere else: the lines of a block differ from it in
how far they are indented, or in how they start or end. -/

/-- The line that starts the function that reads responses. -/
def responseHead : String :=
  "pub fn deserialize_response" ++ entryArguments ++ boxedResult ++ " \x7b"

/-- The function that reads responses through the entry point of a type. -/
def responseFunction (typeName : String) : Lines :=
  braces ("pub fn deserialize_response" ++ entryArguments ++ boxedResult)
    [typeName ++ "::tl_deserialize_boxed(stream, constructor, exception)"]

/-- The code holds a function, one level further in, that reads responses. -/
def ReadsResponses (code : Lines) : Prop := "    " ++ responseHead ∈ code

instance (code : Lines) : Decidable (ReadsResponses code) :=
  inferInstanceAs (Decidable (_ ∈ _))

theorem mem_braces {line head : String} {body : Lines} :
    line ∈ braces head body ↔ line = head ++ " \x7b" ∨ line ∈ indent body ∨ line = "\x7d" := by
  simp [braces]

theorem indented_mem_indent {line : String} (hline : line ≠ "") {body : Lines} :
    "    " ++ line ∈ indent body ↔ line ∈ body := by
  unfold indent
  rw [List.mem_map]
  constructor
  · rintro ⟨inner, hinner, heq⟩
    split_ifs at heq with hempty
    · simp [hempty] at heq
    · rw [← (String.append_right_inj _).mp heq]
      exact hinner
  · intro h
    exact ⟨line, h, if_neg hline⟩

theorem notMem_indent {line : String} {first : Char} (hfirst : line.toList.head? = some first)
    (hne : first ≠ ' ') {body : Lines} : line ∉ indent body := by
  intro h
  obtain ⟨inner, -, heq⟩ := List.mem_map.mp h
  split_ifs at heq with hempty
  · simp [← heq, hempty] at hfirst
  · rw [← heq] at hfirst
    simp [hne.symm] at hfirst

/-- Texts differ if they start with texts of which neither continues the other. -/
theorem append_ne_append {start start' : String} (h : ¬ start.toList <+: start'.toList)
    (h' : ¬ start'.toList <+: start.toList) (rest rest' : String) :
    start ++ rest ≠ start' ++ rest' := by
  intro heq
  have hlists := congrArg String.toList heq
  rw [String.toList_append, String.toList_append] at hlists
  have hstart : start.toList <+: start.toList ++ rest.toList := List.prefix_append _ _
  have hstart' : start'.toList <+: start.toList ++ rest.toList := hlists ▸ List.prefix_append _ _
  rcases List.prefix_or_prefix_of_prefix hstart hstart' with hle | hle
  · exact h hle
  · exact h' hle

theorem indented_ne {line other : String} (h : other.toList.head? ≠ some ' ') :
    "    " ++ line ≠ other := by
  rintro rfl
  simp at h

theorem indented_mem_braces {line head : String} (hline : line ≠ "")
    (hhead : (head ++ " \x7b").toList.head? ≠ some ' ') {body : Lines} :
    "    " ++ line ∈ braces head body ↔ line ∈ body := by
  have hclose : "    " ++ line ≠ "\x7d" := indented_ne (by simp)
  rw [mem_braces, indented_mem_indent hline, or_iff_right (indented_ne hhead), or_iff_left hclose]

theorem append_append_append (a b c d : String) : a ++ b ++ c ++ d = a ++ (b ++ (c ++ d)) := by
  rw [String.append_assoc, String.append_assoc]

theorem responseHead_eq : responseHead
    = "pub fn deserialize_response" ++ (entryArguments ++ (boxedResult ++ " \x7b")) :=
  append_append_append _ _ _ _

theorem head?_responseHead : responseHead.toList.head? = some 'p' := by
  rw [responseHead_eq, String.toList_append, List.head?_append]
  rfl

theorem responseHead_ne_first {line : String} (h : line.toList.head? ≠ some 'p') :
    responseHead ≠ line := by
  rintro rfl
  exact h head?_responseHead

theorem responseHead_ne_start {start : String}
    (h : ¬ "pub fn deserialize_response".toList <+: start.toList)
    (h' : ¬ start.toList <+: "pub fn deserialize_response".toList) (rest : String) :
    responseHead ≠ start ++ rest := by
  rw [responseHead_eq]
  exact append_ne_append h h' _ _

theorem responseHead_mem_braces {head : String} {body : Lines} :
    responseHead ∈ braces head body ↔ responseHead = head ++ " \x7b" := by
  have hindent : responseHead ∉ indent body := notMem_indent head?_responseHead (by decide)
  have hclose : responseHead ≠ "\x7d" := responseHead_ne_first (by simp)
  rw [mem_braces, or_iff_left (not_or.mpr ⟨hindent, hclose⟩)]

theorem indented_responseHead_mem_braces {head : String}
    (hhead : (head ++ " \x7b").toList.head? ≠ some ' ') {body : Lines} :
    "    " ++ responseHead ∈ braces head body ↔ responseHead ∈ body :=
  indented_mem_braces (responseHead_ne_first (by simp)) hhead

theorem responseHead_ne_append (text : String) {ending : String} {last : Char}
    (h : ending.toList.getLast? = some last) (hlast : last ≠ '\x7b') :
    responseHead ≠ text ++ ending := by
  intro heq
  have hbrace : responseHead.toList.getLast? = some '\x7b' := by
    unfold responseHead
    rw [String.toList_append, List.getLast?_append]
    exact Option.some_or
  rw [heq, String.toList_append, List.getLast?_append, h] at hbrace
  cases hbrace
  exact hlast rfl

theorem notMem_structDeclaration (plan : Plan) :
    "    " ++ responseHead ∉ structDeclaration plan := by
  unfold structDeclaration
  rw [List.mem_append, indented_responseHead_mem_braces (by simp)]
  rintro (h | h)
  · simp only [List.mem_cons, List.not_mem_nil, or_false] at h
    rcases h with h | h | h <;> exact indented_ne (by simp) h
  · rw [List.mem_map] at h
    obtain ⟨field, -, heq⟩ := h
    exact responseHead_ne_append _ rfl (by decide) heq.symm

theorem notMem_defaults (plan : Plan) : "    " ++ responseHead ∉ defaults plan := by
  unfold defaults
  rw [indented_responseHead_mem_braces (by simp), responseHead_mem_braces]
  exact responseHead_ne_first (by simp)

theorem notMem_writer (plan : Plan) : "    " ++ responseHead ∉ writer plan := by
  unfold writer
  rw [indented_responseHead_mem_braces (by simp)]
  simp only [List.mem_append, responseHead_mem_braces, List.mem_singleton]
  rintro ((h | h) | h) <;> exact responseHead_ne_first (by simp) h

theorem responseHead_mem_response {known : List String} {plan : Plan} :
    responseHead ∈ response known plan ↔
      ∃ typeName ∈ known, plan.response? = some typeName := by
  unfold response
  split
  next typeName hresponse =>
    split_ifs with hknown
    · rw [List.mem_cons, responseHead_mem_braces]
      exact iff_of_true (Or.inr rfl) ⟨typeName, hknown, hresponse⟩
    · simp [hresponse, hknown]
  next hresponse => simp [hresponse]

theorem notMem_readParams (plan : Plan) : responseHead ∉ readParams plan := by
  unfold readParams
  rw [List.mem_cons, responseHead_mem_braces, String.append_assoc]
  rintro (h | h)
  · exact responseHead_ne_first (by simp) h
  · exact responseHead_ne_start (by decide) (by decide) _ h

theorem notMem_entryPoint (plan : Plan) : responseHead ∉ entryPoint plan := by
  unfold entryPoint
  rw [List.mem_cons, or_iff_right (responseHead_ne_append _ rfl (by decide))]
  split_ifs
  · rw [responseHead_mem_braces, append_append_append]
    exact responseHead_ne_start (by decide) (by decide) _
  · rw [responseHead_mem_braces, append_append_append]
    exact responseHead_ne_start (by decide) (by decide) _

theorem notMem_boxedEntryPoint (plan : Plan) : responseHead ∉ boxedEntryPoint plan := by
  unfold boxedEntryPoint
  rw [responseHead_mem_braces, append_append_append]
  exact responseHead_ne_start (by decide) (by decide) _

theorem mem_reader {known : List String} {plan : Plan} :
    "    " ++ responseHead ∈ reader known plan ↔
      ∃ typeName ∈ known, plan.response? = some typeName := by
  have hconstructor : responseHead
      ≠ "pub const CONSTRUCTOR: u32 = " ++ word plan.constructorId ++ ";" :=
    responseHead_ne_append _ rfl (by decide)
  have hempty : responseHead ≠ "" := responseHead_ne_first (by simp)
  unfold reader
  rw [indented_responseHead_mem_braces (by simp)]
  simp [hconstructor, hempty, notMem_readParams, notMem_entryPoint,
    notMem_boxedEntryPoint, responseHead_mem_response]

/-- The code of a plan holds a function that reads responses exactly if the type of the response is
known. -/
theorem readsResponses_planCode {known : List String} {plan : Plan} :
    ReadsResponses (planCode known plan) ↔
      ∃ typeName ∈ known, plan.response? = some typeName := by
  unfold ReadsResponses planCode
  simp [notMem_structDeclaration, notMem_defaults, notMem_writer, mem_reader]

theorem indent_infix_braces (head : String) (body : Lines) : indent body <:+: braces head body :=
  ⟨[head ++ " \x7b"], ["\x7d"], rfl⟩

theorem responseFunction_infix {known : List String} {plan : Plan} {typeName : String}
    (hknown : typeName ∈ known) (hresponse : plan.response? = some typeName) :
    indent (responseFunction typeName) <:+: planCode known plan := by
  have hfunction : responseFunction typeName <:+: response known plan := by
    unfold response
    rw [hresponse]
    simp only [if_pos hknown]
    exact (List.suffix_cons _ _).isInfix
  have hreader : indent (responseFunction typeName) <:+: reader known plan :=
    ((hfunction.trans (List.suffix_append _ _).isInfix).map _).trans (indent_infix_braces _ _)
  exact hreader.trans ⟨structDeclaration plan ++ [""] ++ defaults plan ++ [""],
    [""] ++ writer plan ++ [""], by simp [planCode]⟩

end Render

/-! ## Reading responses -/

theorem Wire.exists_takes_uint32 {bs : ByteArray} (h : bs.size = 4) :
    ∃ tag, Takes Reader.uint32 bs tag := by
  have hnumber : Takes (Reader.number bs.size) bs (LittleEndian.value bs.data.toList) :=
    (takes_bytes bs).bind_empty (Takes.pure _)
  rw [h] at hnumber
  exact ⟨_, hnumber.bind_empty (Takes.pure _)⟩

theorem CodecError.IsOther.not_isUnanswered {error : CodecError} (h : error.IsOther)
    (hresponse : ∀ name, error ≠ .noResponse name) : ¬ error.IsUnanswered := by
  cases error with
  | unknownType name => exact absurd rfl (h name)
  | noResponse name => exact absurd rfl (hresponse name)
  | _ => exact id

namespace Registry

variable {registry : Registry} {typeName : String} {plan : Plan}

theorem follow_ne_noResponse {tag : UInt32} {strict : Bool} {steps : Nat} {name : String} :
    registry.follow tag strict steps plan ≠ .error (.noResponse name) := by
  induction steps generalizing plan with
  | zero =>
    intro h
    cases h
  | succ steps ih =>
    intro h
    unfold follow at h
    split at h
    · cases strict <;> cases h
    · split at h
      · cases h
      next sibling _ =>
        cases hnext : registry.plan sibling with
        | ok next =>
          rw [hnext] at h
          exact ih h
        | error error =>
          rw [hnext, plan_eq_error hnext] at h
          cases h

/-- From a type that has a plan, no run of reading says that nothing reads a response. -/
theorem Closed.confines_answers (hclosed : registry.Closed) :
    registry.Confines (fun typeName => ∃ plan, registry.plan typeName = .ok plan)
      (fun error => ¬ error.IsUnanswered) where
  resolve := by
    rintro typeName ⟨plan, hplan⟩ tag strict error herror
    refine (hclosed.confines.resolve ⟨plan, hplan⟩ herror).not_isUnanswered ?_
    rintro name rfl
    rw [Registry.resolve, hplan] at herror
    exact follow_ne_noResponse herror
  instantiate := by
    rintro typeName ⟨plan, hplan⟩ error herror
    rw [Registry.instantiate, hplan] at herror
    cases herror
  found := hclosed.confines.found
  fields := hclosed.confines.fields

theorem Closed.decode_answers (hclosed : registry.Closed)
    (hplan : registry.plan typeName = .ok plan) {bytes : ByteArray} {strict : Bool}
    {error : CodecError}
    (h : registry.decode bytes typeName strict = .error error) : ¬ error.IsUnanswered := by
  have hfails : FailsWithin (fun error => ¬ error.IsUnanswered)
      (registry.decodeNext typeName strict) :=
    (failsWithin_wire (fun _ => id) _).bind fun tag =>
      failsWithin_readObject hclosed.confines_answers (fun _ => id) id strict maxNesting
        ⟨plan, hplan⟩ tag
  unfold decode at h
  split at h
  next => cases h
  next place hrun =>
    cases h
    exact hfails _ _ place hrun

/-- Where a constructor can be read, a type that has no plan is met at once. -/
theorem decode_of_unknown (h : typeName ∉ registry.plans.map (·.typeName)) {bytes : ByteArray}
    (hsize : 4 ≤ bytes.size) (strict : Bool) :
    registry.decode bytes typeName strict = .error (.unknownType typeName) := by
  obtain ⟨first, rest, rfl, hfirst⟩ := exists_append_of_le hsize
  obtain ⟨tag, htakes⟩ := exists_takes_uint32 hfirst
  have hplan : registry.plan typeName = .error (.unknownType typeName) := by
    cases hfound : registry.plan typeName with
    | ok plan => exact absurd (exists_plan_iff.mp ⟨plan, hfound⟩) h
    | error error => rw [plan_eq_error hfound]
  have hresolve : registry.resolve typeName tag strict = .error (.unknownType typeName) := by
    rw [resolve, hplan]
    rfl
  have hentry : ∀ cursor, registry.decodeEntry typeName tag strict cursor
      = .error (.unknownType typeName) cursor := by
    intro cursor
    show (ofExcept (registry.resolve typeName tag strict) >>= _) cursor = _
    rw [hresolve]
    rfl
  have htag := (htakes.adaptExcept CodecError.wire) .empty rest
  rw [← Cursor.ofBytes_eq] at htag
  have hrun : registry.decodeNext typeName strict (.ofBytes (first ++ rest))
      = .error (.unknownType typeName) _ := (bind_of_ok htag _).trans (hentry _)
  unfold decode
  rw [hrun]

theorem decodeResponse_of_some (hplan : registry.plan typeName = .ok plan) {response : String}
    (hresponse : plan.response? = some response) (bytes : ByteArray) (strict : Bool) :
    registry.decodeResponse bytes typeName strict = registry.decode bytes response strict := by
  show Except.bind (registry.plan typeName) _ = _
  rw [hplan]
  simp only [Except.bind, hresponse]

theorem decodeResponse_of_none (hplan : registry.plan typeName = .ok plan)
    (hresponse : plan.response? = none) (bytes : ByteArray) (strict : Bool) :
    registry.decodeResponse bytes typeName strict = .error (.noResponse plan.typeName) := by
  show Except.bind (registry.plan typeName) _ = _
  rw [hplan]
  simp only [Except.bind, hresponse]
  rfl

/-- If the type of the response has a plan, nothing but the response is at fault where reading it
fails. -/
theorem Closed.decodeResponse_answers (hclosed : registry.Closed)
    (hplan : registry.plan typeName = .ok plan) {response : String}
    (hresponse : plan.response? = some response)
    (hknown : response ∈ registry.plans.map (·.typeName)) {bytes : ByteArray} {strict : Bool}
    {error : CodecError} (h : registry.decodeResponse bytes typeName strict = .error error) :
    ¬ error.IsUnanswered := by
  rw [decodeResponse_of_some hplan hresponse] at h
  obtain ⟨other, hother⟩ := exists_plan_iff.mpr hknown
  exact hclosed.decode_answers hother h

/-- If there is no response or its type has no plan, every attempt to read it says so. -/
theorem decodeResponse_unanswered (hplan : registry.plan typeName = .ok plan)
    (h : ¬ ∃ response ∈ registry.plans.map (·.typeName), plan.response? = some response)
    {bytes : ByteArray} (hsize : 4 ≤ bytes.size) (strict : Bool) :
    ∃ error, registry.decodeResponse bytes typeName strict = .error error ∧
      error.IsUnanswered := by
  cases hresponse : plan.response? with
  | none => exact ⟨_, decodeResponse_of_none hplan hresponse bytes strict, trivial⟩
  | some response =>
    have hunknown : response ∉ registry.plans.map (·.typeName) :=
      fun hknown => h ⟨response, hknown, hresponse⟩
    refine ⟨.unknownType response, ?_, trivial⟩
    rw [decodeResponse_of_some hplan hresponse]
    exact decode_of_unknown hunknown hsize strict

end Registry

/-! ## Accepted schemas -/

/-- The output names of the definitions, in their order. -/
def Schema.outputNames (schema : Schema) (symbolPrefix : String) : List String :=
  schema.definitions.map fun definition => outputName symbolPrefix definition.key

namespace Compilation.Accepted

variable {unit : Compilation} {symbolPrefix : String} {vectorTag : UInt32}

theorem registry_closed (hu : unit.Accepted symbolPrefix vectorTag) : unit.registry.Closed := by
  have hrefs : unit.schema.checkReferences = .ok () := by
    refine Schema.checkReferences_eq_ok.mpr fun definition hd field hf name hdangles => ?_
    have hleaf := ValueType.namedLeaf?_eq_some.mpr hdangles.1
    exact hdangles.2 (List.mem_map.mp (hu.defined definition hd field hf name hleaf))
  rw [registry, hu.plans_eq]
  exact Schema.closed_plansWith hu.schema_eq hrefs symbolPrefix vectorTag

theorem typeNames_plans (hu : unit.Accepted symbolPrefix vectorTag) :
    unit.plans.map (·.typeName) = unit.schema.outputNames symbolPrefix := by
  rw [hu.plans_eq, Schema.typeNames_plansWith]
  rfl

theorem map_snd_pairs (hu : unit.Accepted symbolPrefix vectorTag) :
    unit.pairs.map (·.2) = unit.plans := by
  unfold pairs
  rw [hu.plans_eq]
  exact List.map_snd_zip (by simp [Schema.plansWith])

/-- The plan that is found for an output name is that of the first definition with it. -/
theorem find?_of_plan (hu : unit.Accepted symbolPrefix vectorTag) {typeName : String} {plan : Plan}
    (h : unit.registry.plan typeName = .ok plan) :
    ∃ definition,
      unit.schema.definitions.find? (outputName symbolPrefix ·.key = typeName) = some definition ∧
        unit.schema.planOf symbolPrefix vectorTag definition = plan := by
  unfold Registry.plan at h
  split at h
  next found hfind =>
    cases h
    rw [registry, hu.plans_eq, Schema.plansWith, List.find?_map] at hfind
    exact Option.map_eq_some_iff.mp hfind
  next => cases h

end Compilation.Accepted

/-- The code of an accepted schema is a block for each output name, in the order in which
definitions first have them, and the block is that of the plan of the first of these definitions,
which is also the plan that the registry finds. A block holds a function that reads responses
exactly if reading them never says that nothing does; the function and the registry then go through
the entry point of the same type, and without it every attempt to read a response says so. -/
theorem Render.code_blocks_agree_with_registry {text : String} {settings : Settings}
    {unit : Compilation} (h : Compilation.ofText text settings = .ok unit) (options : Settings) :
    ∃ vectorTag, settings.vectorTag = .ok vectorTag ∧
      code unit options = "\n".intercalate (opening options
        ++ (unit.schema.outputNames settings.symbolPrefix).eraseDups.flatMap (block unit)
        ++ closing options) ∧
      ∀ name ∈ unit.schema.outputNames settings.symbolPrefix, ∃ definition plan,
        unit.schema.definitions.find? (outputName settings.symbolPrefix ·.key = name)
          = some definition ∧
        unit.schema.planOf settings.symbolPrefix vectorTag definition = plan ∧
        unit.registry.plan name = .ok plan ∧
        block unit name = planCode (unit.schema.outputNames settings.symbolPrefix) plan ∧
        (ReadsResponses (block unit name) ↔
          ∀ bytes strict, 4 ≤ bytes.size → ∀ error,
            unit.registry.decodeResponse bytes name strict = .error error →
              ¬ error.IsUnanswered) ∧
        (ReadsResponses (block unit name) →
          ∃ response ∈ unit.schema.outputNames settings.symbolPrefix,
          indent (responseFunction response) <:+: block unit name ∧
          ∀ bytes strict, unit.registry.decodeResponse bytes name strict
            = unit.registry.decode bytes response strict) ∧
        (¬ ReadsResponses (block unit name) →
          ∀ bytes strict, 4 ≤ bytes.size → ∃ error,
            unit.registry.decodeResponse bytes name strict = .error error ∧
              error.IsUnanswered) := by
  obtain ⟨vectorTag, htag, hu⟩ := Compilation.accepted_of_ofText h
  rw [← hu.typeNames_plans]
  refine ⟨vectorTag, htag, by rw [code, lines_eq hu.map_snd_pairs], fun name hname => ?_⟩
  have hfound : ∃ plan, unit.registry.plan name = .ok plan := Registry.exists_plan_iff.mpr hname
  obtain ⟨plan, hplan⟩ := hfound
  obtain ⟨definition, hfind, hplanOf⟩ := hu.find?_of_plan hplan
  have hresponds : ReadsResponses (block unit name) ↔
      ∃ response ∈ unit.plans.map (·.typeName), plan.response? = some response := by
    rw [block_eq hplan]
    exact readsResponses_planCode
  have hunanswered : ¬ ReadsResponses (block unit name) →
      ∀ bytes strict, 4 ≤ bytes.size → ∃ error,
        unit.registry.decodeResponse bytes name strict = .error error ∧ error.IsUnanswered := by
    rw [hresponds]
    intro hno bytes strict hsize
    exact Registry.decodeResponse_unanswered hplan hno hsize strict
  refine ⟨definition, plan, hfind, hplanOf, hplan, block_eq hplan, ⟨?_, ?_⟩, ?_, hunanswered⟩
  · intro hreads bytes strict _ error herror
    obtain ⟨response, hknown, hresponse⟩ := hresponds.mp hreads
    exact hu.registry_closed.decodeResponse_answers hplan hresponse hknown herror
  · -- four bytes are enough to tell
    intro hanswers
    by_contra hno
    obtain ⟨error, herror, herror'⟩ := hunanswered hno [0, 0, 0, 0].toByteArray true (by decide)
    exact hanswers _ true (by decide) error herror herror'
  · intro hreads
    obtain ⟨response, hknown, hresponse⟩ := hresponds.mp hreads
    refine ⟨response, hknown, ?_, Registry.decodeResponse_of_some hplan hresponse⟩
    rw [block_eq hplan]
    exact responseFunction_infix hknown hresponse

namespace CollidingNames

/-- The first and the third definition have the same output name. The response to the first one is
the second one, the one to the second one is a truth value, that to `a.d` is a number, and that to
`a.e` is of a type that is not defined. -/
def text : String :=
  "a.b#1 x:int = a.C;\na.c#2 = Bool;\na.B#3 y:string = a.B;\na.d#4 = int;\na.e#5 = a.Z;"

def unit : Compilation := .ofDefinitions
  [⟨"a.b", 1, [⟨"x", .int32, none⟩], .named "a.C", ⟨1, 1⟩⟩,
    ⟨"a.c", 2, [], .boolean false, ⟨2, 1⟩⟩,
    ⟨"a.B", 3, [⟨"y", .string, none⟩], .named "a.B", ⟨3, 1⟩⟩,
    ⟨"a.d", 4, [], .int32, ⟨4, 1⟩⟩,
    ⟨"a.e", 5, [], .named "a.Z", ⟨5, 1⟩⟩]

theorem ofText_text : Compilation.ofText text {} = .ok unit := by decide +kernel

theorem code_blocks_agree_colliding :
    Compilation.ofText text {} = .ok unit ∧
      unit.schema.outputNames "" = ["a_B", "a_C", "a_B", "a_D", "a_E"] ∧
      Render.code unit ⟨" api ", "", ""⟩ = "\n".intercalate
        (("pub mod api \x7b" :: Render.header)
          ++ ["a_B", "a_C", "a_D", "a_E"].flatMap (Render.block unit) ++ ["\x7d"]) ∧
      (∃ plan, unit.registry.plan "a_B" = .ok plan ∧ plan.constructorId = 1 ∧
        Render.block unit "a_B" = Render.planCode ["a_B", "a_C", "a_B", "a_D", "a_E"] plan) ∧
      Render.ReadsResponses (Render.block unit "a_B") ∧
      (∀ bytes strict, 4 ≤ bytes.size → ∀ error,
        unit.registry.decodeResponse bytes "a_B" strict = .error error → ¬ error.IsUnanswered) ∧
      ∀ name ∈ ["a_C", "a_D", "a_E"], ¬ Render.ReadsResponses (Render.block unit name) ∧
        ∀ bytes strict, 4 ≤ bytes.size → ∃ error,
          unit.registry.decodeResponse bytes name strict = .error error ∧
            error.IsUnanswered := by
  have hnames : unit.schema.outputNames "" = ["a_B", "a_C", "a_B", "a_D", "a_E"] := by
    decide +kernel
  obtain ⟨vectorTag, -, hcode, hblocks⟩ :=
    Render.code_blocks_agree_with_registry ofText_text ⟨" api ", "", ""⟩
  rw [hnames, show ["a_B", "a_C", "a_B", "a_D", "a_E"].eraseDups = ["a_B", "a_C", "a_D", "a_E"] by
    decide] at hcode
  rw [hnames] at hblocks
  obtain ⟨definition, plan, hfind, rfl, hplan, hblock, hanswers, -, -⟩ :=
    hblocks "a_B" (by decide)
  cases hfind
  have hreads : Render.ReadsResponses (Render.block unit "a_B") := by decide +kernel
  refine ⟨ofText_text, hnames, hcode, ⟨_, hplan, rfl, hblock⟩, hreads, hanswers.mp hreads,
    fun name hname => ?_⟩
  have hsilent : ¬ Render.ReadsResponses (Render.block unit name) := by
    revert name
    decide +kernel
  obtain ⟨-, -, -, -, -, -, -, -, hrefused⟩ :=
    hblocks name (by revert name; decide)
  exact ⟨hsilent, hrefused hsilent⟩

end CollidingNames

end TlSchema
