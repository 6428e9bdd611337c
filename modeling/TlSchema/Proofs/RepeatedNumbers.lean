import Mathlib.Logic.Relation
import TlSchema.Proofs.Delegation

/-!
# Numbers that repeat

Several definitions may have the same number. An entry point then takes the first branch for it,
which may hand the constructor to another definition than the one that was written, and entry points
may even hand it round. Still nobody misses a constructor that is listed: it is only ever handed to
an entry point whose own number it is, and every entry point lists its own number.
-/

namespace TlSchema

open Relation Wire

/-- The entry point of the plan has a branch for the constructor. -/
def Plan.Lists (plan : Plan) (tag : UInt32) : Prop :=
  ∃ branch ∈ plan.dispatch.branches, branch.tag = tag

/-- The entry point of the plan keeps the constructor. -/
def Plan.Keeps (plan : Plan) (tag : UInt32) : Prop :=
  ∃ branch, plan.dispatch.route? tag = some branch ∧ branch.action = .decodeSelf

theorem Plan.lists_iff_route? {plan : Plan} {tag : UInt32} :
    plan.Lists tag ↔ ∃ branch, plan.dispatch.route? tag = some branch := by
  unfold Dispatch.route?
  constructor
  · rintro ⟨branch, hb, htag⟩
    cases hfind : plan.dispatch.branches.find? (·.tag = tag) with
    | some taken => exact ⟨taken, rfl⟩
    | none =>
      have hmiss := List.find?_eq_none.mp hfind branch hb
      simp [htag] at hmiss
  · rintro ⟨branch, hfind⟩
    exact ⟨branch, List.mem_of_find?_eq_some hfind, by simpa using List.find?_some hfind⟩

namespace Registry

/-- The entry point of the first plan hands the constructor to that of the second. -/
def HandsOn (registry : Registry) (tag : UInt32) (plan next : Plan) : Prop :=
  ∃ branch sibling, plan.dispatch.route? tag = some branch ∧
    branch.action = .delegate sibling ∧ registry.plan sibling = .ok next

theorem Leads.keeps {registry : Registry} {tag : UInt32} {hops : Nat} {plan target : Plan}
    (h : registry.Leads tag hops plan target) : target.Keeps tag := by
  induction h with
  | kept hroute haction => exact ⟨_, hroute, haction⟩
  | handed _ _ _ _ ih => exact ih

/-- Where every step either keeps the constructor or hands it to a plan with the same property,
following it ends with a plan that keeps it, or after too many steps. -/
theorem follow_of_steps {registry : Registry} {tag : UInt32} {P : Plan → Prop}
    (hstep : ∀ plan, P plan → plan.Keeps tag ∨ ∃ next, registry.HandsOn tag plan next ∧ P next)
    {plan : Plan} (hplan : P plan) (steps : Nat) :
    (∃ hops < steps, ∃ target, registry.Leads tag hops plan target ∧ P target) ∨
      ∀ strict, registry.follow tag strict steps plan = .error (.delegationDepth tag) := by
  induction steps generalizing plan with
  | zero =>
    right
    intro strict
    rfl
  | succ steps ih =>
    rcases hstep plan hplan with ⟨branch, hroute, haction⟩ | ⟨next, hhands, hnext⟩
    · left
      exact ⟨0, Nat.succ_pos steps, plan, .kept hroute haction, hplan⟩
    · obtain ⟨branch, sibling, hroute, haction, hfound⟩ := hhands
      rcases ih hnext with ⟨hops, hlt, target, hleads, htarget⟩ | hdepth
      · left
        exact ⟨hops + 1, Nat.succ_lt_succ hlt, target, .handed hroute haction hfound hleads,
          htarget⟩
      · right
        intro strict
        unfold follow
        simp only [hroute, haction, hfound]
        exact hdepth strict

end Registry

namespace Compilation.Accepted

variable {unit : Compilation} {symbolPrefix : String} {vectorTag : UInt32}

/-- Every plan lists its own number. -/
theorem lists_own (hu : unit.Accepted symbolPrefix vectorTag) {plan : Plan}
    (hplan : plan ∈ unit.plans) : plan.Lists plan.constructorId := by
  obtain ⟨definition, hd, rfl⟩ := hu.mem_plans.mp hplan
  exact ⟨_, unit.schema.ownBranch_mem symbolPrefix definition, rfl⟩

section

variable (hu : unit.Accepted symbolPrefix vectorTag)
  (hnames : (unit.plans.map (·.typeName)).Nodup)

include hu hnames

theorem plan_typeName {plan : Plan} (hplan : plan ∈ unit.plans) :
    unit.registry.plan plan.typeName = .ok plan := by
  obtain ⟨definition, hd, rfl⟩ := hu.mem_plans.mp hplan
  exact hu.plan_of_names hnames hd

/-- The branch that is taken for a constructor keeps it, and then the number is the plan's own, or
hands it to a plan whose own number it is. -/
theorem route_cases {plan : Plan} (hplan : plan ∈ unit.plans) {tag : UInt32}
    {branch : DispatchBranch} (hroute : plan.dispatch.route? tag = some branch) :
    (branch.action = .decodeSelf ∧ plan.constructorId = tag) ∨
      ∃ sibling next, branch.action = .delegate sibling ∧
        unit.registry.plan sibling = .ok next ∧ next ∈ unit.plans ∧ next.constructorId = tag := by
  obtain ⟨definition, hd, rfl⟩ := hu.mem_plans.mp hplan
  have htag : branch.tag = tag := by simpa using List.find?_some hroute
  obtain ⟨target, ht, hstands⟩ := Schema.branch_standsFor hu.schema_eq symbolPrefix hd
    (List.mem_of_find?_eq_some hroute)
  have hnumber : target.constructorId = tag := by rw [← hstands.tag_eq, htag]
  have hfound := hu.plan_of_names hnames ht
  have haction := hstands.action_eq
  by_cases hkey : target.key = definition.key
  · left
    rw [if_pos hkey] at haction
    -- one key has one output name and so one plan
    have hown := hu.plan_of_names hnames hd
    rw [← hkey, hfound] at hown
    have hid : target.constructorId = definition.constructorId :=
      congrArg Plan.constructorId (Except.ok.inj hown)
    exact ⟨haction, hid.symm.trans hnumber⟩
  · right
    rw [if_neg hkey] at haction
    exact ⟨_, _, haction, hfound, hu.mem_plans.mpr ⟨target, ht, rfl⟩, hnumber⟩

theorem constructorId_of_keeps {plan : Plan} (hplan : plan ∈ unit.plans) {tag : UInt32}
    (h : plan.Keeps tag) : plan.constructorId = tag := by
  obtain ⟨branch, hroute, haction⟩ := h
  rcases hu.route_cases hnames hplan hroute with ⟨-, hid⟩ | ⟨sibling, next, hdelegate, -⟩
  · exact hid
  · rw [haction] at hdelegate
    cases hdelegate

theorem constructorId_of_handsOn {plan next : Plan} (hplan : plan ∈ unit.plans) {tag : UInt32}
    (h : unit.registry.HandsOn tag plan next) :
    next ∈ unit.plans ∧ next.constructorId = tag := by
  obtain ⟨branch, sibling, hroute, haction, hfound⟩ := h
  rcases hu.route_cases hnames hplan hroute with ⟨hself, -⟩ | ⟨name, other, hname, hother, hnext⟩
  · rw [haction] at hself
    cases hself
  · rw [haction] at hname
    cases hname
    rw [hfound] at hother
    cases hother
    exact hnext

/-- A constructor that a plan lists is kept there or handed on. -/
theorem keeps_or_handsOn {plan : Plan} (hplan : plan ∈ unit.plans) {tag : UInt32}
    (htag : plan.Lists tag) :
    plan.Keeps tag ∨ ∃ next, unit.registry.HandsOn tag plan next := by
  obtain ⟨branch, hroute⟩ := Plan.lists_iff_route?.mp htag
  rcases hu.route_cases hnames hplan hroute with ⟨haction, -⟩ | ⟨sibling, next, haction, hnext, -⟩
  · left
    exact ⟨branch, hroute, haction⟩
  · right
    exact ⟨next, branch, sibling, hroute, haction, hnext⟩

/-- Wherever a listed constructor is handed on to, it is listed again. -/
theorem lists_of_reaches {plan reached : Plan} (hplan : plan ∈ unit.plans) {tag : UInt32}
    (htag : plan.Lists tag) (h : ReflTransGen (unit.registry.HandsOn tag) plan reached) :
    reached ∈ unit.plans ∧ reached.Lists tag := by
  induction h with
  | refl => exact ⟨hplan, htag⟩
  | tail _ hhands ih =>
    obtain ⟨hmem, hid⟩ := hu.constructorId_of_handsOn hnames ih.1 hhands
    exact ⟨hmem, hid ▸ hu.lists_own hmem⟩

/-- Following a listed constructor ends at a plan whose number it is, or after too many steps. -/
theorem follow_listed {plan : Plan} (hplan : plan ∈ unit.plans) {tag : UInt32}
    (htag : plan.Lists tag) :
    (∃ hops ≤ maxDelegations, ∃ target ∈ unit.plans, unit.registry.Leads tag hops plan target ∧
        target.constructorId = tag) ∨
      ∀ strict, unit.registry.follow tag strict (maxDelegations + 1) plan
        = .error (.delegationDepth tag) := by
  have hstep : ∀ plan, plan ∈ unit.plans ∧ plan.Lists tag → plan.Keeps tag ∨
      ∃ next, unit.registry.HandsOn tag plan next ∧ next ∈ unit.plans ∧ next.Lists tag := by
    rintro plan ⟨hplan, htag⟩
    rcases hu.keeps_or_handsOn hnames hplan htag with hkeeps | ⟨next, hhands⟩
    · exact Or.inl hkeeps
    · exact Or.inr ⟨next, hhands, hu.lists_of_reaches hnames hplan htag (.single hhands)⟩
  rcases Registry.follow_of_steps hstep ⟨hplan, htag⟩ (maxDelegations + 1) with
    ⟨hops, hlt, target, hleads, hmem, -⟩ | hdepth
  · left
    have hid := hu.constructorId_of_keeps hnames hmem hleads.keeps
    exact ⟨hops, Nat.le_of_lt_succ hlt, target, hmem, hleads, hid⟩
  · exact Or.inr hdepth

end

end Compilation.Accepted

namespace Registry

variable {registry : Registry} {entry : String} {tag : UInt32} {strict : Bool}

theorem decodeEntry_eq_error {error : CodecError}
    (hresolve : registry.resolve entry tag strict = .error error) (cursor : Cursor) :
    registry.decodeEntry entry tag strict cursor = .error error cursor := by
  show registry.readObjectWith strict _ entry tag cursor = _
  unfold readObjectWith
  rw [hresolve]
  rfl

end Registry

/-- With distinct output names, whatever numbers the definitions have, no entry point misses a
constructor that it lists, and it lists its own. Every plan that the constructor is handed to lists
it as well; it ends at a plan whose own number it is, or has been handed on too often. So reading
never gives nothing. -/
theorem Compilation.listed_never_missed {text : String} {settings : Settings} {unit : Compilation}
    (hunit : ofText text settings = .ok unit) (hnames : (unit.plans.map (·.typeName)).Nodup)
    {entry : String} {plan : Plan} (hplan : unit.registry.plan entry = .ok plan) :
    plan.Lists plan.constructorId ∧
      ∀ tag, plan.Lists tag →
        (∀ reached, ReflTransGen (unit.registry.HandsOn tag) plan reached →
          ∃ branch, reached.dispatch.route? tag = some branch) ∧
        ((∃ hops ≤ maxDelegations, ∃ target, unit.registry.Leads tag hops plan target ∧
            target.constructorId = tag ∧
            ∀ strict, unit.registry.decodeEntry entry tag strict
              = unit.registry.readOwn strict target) ∨
          ∀ strict cursor, unit.registry.decodeEntry entry tag strict cursor
            = .error (.delegationDepth tag) cursor) ∧
        ∀ cursor place, unit.registry.decodeEntry entry tag false cursor ≠ .ok none place := by
  obtain ⟨vectorTag, -, hu⟩ := accepted_of_ofText hunit
  have hmem : plan ∈ unit.plans := (Registry.mem_of_plan hplan).1
  have hresolve : ∀ tag strict, unit.registry.resolve entry tag strict
      = unit.registry.follow tag strict (maxDelegations + 1) plan := by
    intro tag strict
    rw [Registry.resolve, hplan]
    rfl
  refine ⟨hu.lists_own hmem, fun tag htag => ⟨fun reached hreached => ?_, ?_⟩⟩
  · exact Plan.lists_iff_route?.mp (hu.lists_of_reaches hnames hmem htag hreached).2
  · rcases hu.follow_listed hnames hmem htag with
      ⟨hops, hle, target, htarget, hleads, hid⟩ | hdepth
    · have hread : ∀ strict, unit.registry.decodeEntry entry tag strict
          = unit.registry.readOwn strict target := by
        intro strict
        have hfollow := hleads.follow_eq strict (Nat.lt_succ_of_le hle)
        rw [← hresolve] at hfollow
        exact Registry.decodeEntry_eq_readOwn hfollow (hu.plan_typeName hnames htarget)
      refine ⟨Or.inl ⟨hops, hle, target, hleads, hid, hread⟩, fun cursor place hnone => ?_⟩
      rw [hread] at hnone
      obtain ⟨fields, hfound⟩ := Registry.readOwn_gives_object hnone
      cases hfound
    · have hfail : ∀ strict cursor, unit.registry.decodeEntry entry tag strict cursor
          = .error (.delegationDepth tag) cursor := by
        intro strict cursor
        apply Registry.decodeEntry_eq_error
        rw [hresolve, hdepth strict]
      refine ⟨Or.inr hfail, fun cursor place hnone => ?_⟩
      rw [hfail] at hnone
      cases hnone

namespace HandedRound

/-- All numbers are the same. The entry point of `a.x` takes its branches from the family of `a.y`
and the other way round, so each hands the number to the other; that of `a.w` hands it to `a.v`,
which keeps it. -/
def text : String :=
  "a.x#1 = a.Yf;\na.y#1 n:int = a.Xf;\na.w#1 = a.T;\na.v#1 s:string = a.Wf;"

def unit : Compilation := .ofDefinitions
  [⟨"a.x", 1, [], .named "a.Yf", ⟨1, 1⟩⟩,
    ⟨"a.y", 1, [⟨"n", .int32, none⟩], .named "a.Xf", ⟨2, 1⟩⟩,
    ⟨"a.w", 1, [], .named "a.T", ⟨3, 1⟩⟩,
    ⟨"a.v", 1, [⟨"s", .string, none⟩], .named "a.Wf", ⟨4, 1⟩⟩]

theorem ofText_text : Compilation.ofText text {} = .ok unit := by decide +kernel

theorem names_nodup : (unit.plans.map (·.typeName)).Nodup := by decide +kernel

/-- The branches of the four entry points. -/
theorem exists_plans : ∃ x y w v,
    unit.registry.plan "a_X" = .ok x ∧ unit.registry.plan "a_Y" = .ok y ∧
      unit.registry.plan "a_W" = .ok w ∧ unit.registry.plan "a_V" = .ok v ∧
      x.dispatch.branches
        = [⟨1, "a.y", "a_Y", .delegate "a_Y"⟩, ⟨1, "a.x", "a_X", .decodeSelf⟩] ∧
      y.dispatch.branches
        = [⟨1, "a.x", "a_X", .delegate "a_X"⟩, ⟨1, "a.y", "a_Y", .decodeSelf⟩] ∧
      w.dispatch.branches
        = [⟨1, "a.v", "a_V", .delegate "a_V"⟩, ⟨1, "a.w", "a_W", .decodeSelf⟩] ∧
      v.dispatch.branches = [⟨1, "a.v", "a_V", .decodeSelf⟩] :=
  ⟨_, _, _, _, rfl, rfl, rfl, rfl, rfl, rfl, rfl, rfl⟩

theorem listed_never_missed_handed_round :
    ∃ x y w v, Compilation.ofText text {} = .ok unit ∧ (unit.plans.map (·.typeName)).Nodup ∧
      unit.registry.plan "a_X" = .ok x ∧ unit.registry.plan "a_W" = .ok w ∧
      x.Lists 1 ∧ unit.registry.HandsOn 1 x y ∧ unit.registry.HandsOn 1 y x ∧
      (∀ reached, ReflTransGen (unit.registry.HandsOn 1) x reached →
        ∃ branch, reached.dispatch.route? 1 = some branch) ∧
      unit.registry.resolve "a_X" 1 false = .error (.delegationDepth 1) ∧
      (∀ cursor place, unit.registry.decodeEntry "a_X" 1 false cursor ≠ .ok none place) ∧
      w.Lists 1 ∧ unit.registry.HandsOn 1 w v ∧ v.Keeps 1 ∧
      (∀ cursor place, unit.registry.decodeEntry "a_W" 1 false cursor ≠ .ok none place) := by
  obtain ⟨x, y, w, v, hx, hy, hw, hv, hxs, hys, hws, hvs⟩ := exists_plans
  have hround := (Compilation.listed_never_missed ofText_text names_nodup hx).2
  have hended := (Compilation.listed_never_missed ofText_text names_nodup hw).2
  have hxlists : x.Lists 1 := ⟨⟨1, "a.y", "a_Y", .delegate "a_Y"⟩, by simp [hxs], rfl⟩
  have hwlists : w.Lists 1 := ⟨⟨1, "a.v", "a_V", .delegate "a_V"⟩, by simp [hws], rfl⟩
  have hxy : unit.registry.HandsOn 1 x y := by
    refine ⟨⟨1, "a.y", "a_Y", .delegate "a_Y"⟩, "a_Y", ?_, rfl, hy⟩
    rw [Dispatch.route?, hxs]
    rfl
  have hyx : unit.registry.HandsOn 1 y x := by
    refine ⟨⟨1, "a.x", "a_X", .delegate "a_X"⟩, "a_X", ?_, rfl, hx⟩
    rw [Dispatch.route?, hys]
    rfl
  have hwv : unit.registry.HandsOn 1 w v := by
    refine ⟨⟨1, "a.v", "a_V", .delegate "a_V"⟩, "a_V", ?_, rfl, hv⟩
    rw [Dispatch.route?, hws]
    rfl
  have hkeeps : v.Keeps 1 := by
    refine ⟨⟨1, "a.v", "a_V", .decodeSelf⟩, ?_, rfl⟩
    rw [Dispatch.route?, hvs]
    rfl
  have hdepth : unit.registry.resolve "a_X" 1 false = .error (.delegationDepth 1) := by
    decide +kernel
  exact ⟨x, y, w, v, ofText_text, names_nodup, hx, hw, hxlists, hxy, hyx, (hround 1 hxlists).1,
    hdepth, (hround 1 hxlists).2.2, hwlists, hwv, hkeeps, (hended 1 hwlists).2.2⟩

end HandedRound

end TlSchema
