import Mathlib.Data.List.Forall2
import Provision.Proofs.Module.Numbering
import Provision.Proofs.Provider.Fulfilment
import Provision.Proofs.Provider.Serving

/-!
# Contents of a module

A module that only providers have filled holds what the requests take that were answered, whatever
their order and however often they were made.  Only the numbers of the functions depend on these.
-/

namespace Provision

/-! ## Entries -/

/-- What a module says of a function, except for its code. -/
structure Entry where
  linkage : Linkage
  signature : MachineSignature
  hasCode : Bool
  deriving DecidableEq, Repr

def Declaration.entry (declaration : Declaration) : Entry where
  linkage := declaration.linkage
  signature := declaration.signature
  hasCode := declaration.code.isSome

def Module.entry? (module : Module) (name : String) : Option Entry :=
  ((module.lookup? name).bind module.declaration?).map Declaration.entry

/-- The entry that a plan is made to in a unit. -/
def Plan.entry (plan : Plan) (unit : CompilationUnit) : Entry where
  linkage := plan.linkage
  signature := unit.signature plan.sig
  hasCode := plan.body.isSome

namespace CompilationUnit
namespace Planned

variable {plans : List Plan} {unit : CompilationUnit}

theorem entry_of_made (h : Planned plans unit) {plan : Plan} (hplan : plan ∈ plans)
    {declaration : Declaration} (hmade : plan.Made unit declaration) :
    declaration.entry = plan.entry unit := by
  rcases hmade with ⟨number, _, rfl⟩
  have hcode := Plan.isSome_procedure (h.regular plan hplan).isAccepted
  rw [Declaration.entry, Plan.entry, Plan.declaration, Option.isSome_map, hcode]

theorem entry?_iff (h : Planned plans unit) (name : String) (entry : Entry) :
    unit.module.entry? name = some entry ↔
      exists plan, plan ∈ plans ∧ plan.symbol.name = name ∧ entry = plan.entry unit := by
  constructor
  · intro hentry
    rw [Module.entry?, Option.map_eq_some_iff] at hentry
    rcases hentry with ⟨declaration, hfound, rfl⟩
    rw [Option.bind_eq_some_iff] at hfound
    rcases hfound with ⟨id, hlookup, hdeclaration⟩
    rcases h.made declaration (List.mem_of_getElem? hdeclaration) with ⟨plan, hplan, hmade⟩
    rcases Module.name_of_lookup? hlookup with ⟨other, hother, hname⟩
    rw [hdeclaration] at hother
    cases hother
    refine ⟨plan, hplan, ?_, h.entry_of_made hplan hmade⟩
    rcases hmade with ⟨_, _, rfl⟩
    exact hname
  · rintro ⟨plan, hplan, rfl, rfl⟩
    rcases Module.exists_lookup? (h.known plan hplan) with ⟨id, hlookup⟩
    rcases h.made_of_lookup? (h.regular plan hplan) hlookup with
      ⟨declaration, hdeclaration, _, hmade⟩
    have hfound : unit.module.lookup? plan.symbol.name = some id := hlookup
    rw [Module.entry?, hfound, Option.bind_some, hdeclaration, Option.map_some,
      h.entry_of_made hplan hmade]

/-! ## Numbers -/

theorem mem_names_iff (h : Planned plans unit) (name : String) :
    name ∈ unit.module.names ↔ exists plan, plan ∈ plans ∧ plan.symbol.name = name := by
  constructor
  · intro hname
    rcases List.mem_map.mp hname with ⟨declaration, hdeclaration, rfl⟩
    rcases h.made declaration hdeclaration with ⟨plan, hplan, _, _, rfl⟩
    exact ⟨plan, hplan, rfl⟩
  · rintro ⟨plan, hplan, rfl⟩
    exact h.known plan hplan

/-- Modules that go by the same plans are the same up to the numbers of their functions. -/
theorem renumbered {more : List Plan} {other : CompilationUnit} (h : Planned plans unit)
    (hother : Planned more other) (htarget : other.target = unit.target)
    (hsame : forall plan, plan ∈ plans ↔ plan ∈ more) :
    exists number, unit.module.Renumbered number other.module := by
  have hnames : forall name, name ∈ unit.module.names ↔ name ∈ other.module.names := by
    intro name
    simp only [h.mem_names_iff, hother.mem_names_iff, hsame]
  refine ⟨Module.correspondence h.nodup hother.nodup hnames, ?_, ?_⟩
  · rw [h.data, hother.data]
  · intro id
    show other.module.declaration? (unit.module.counterpart other.module id) = _
    cases hdeclaration : unit.module.declaration? id with
    | none =>
        have hself : unit.module.counterpart other.module id = id := by
          simp only [Module.counterpart, hdeclaration]
        rw [hself, Option.map_none, Module.declaration?_eq_none_iff,
          ← Module.length_names_eq h.nodup hother.nodup hnames]
        exact Module.declaration?_eq_none_iff.mp hdeclaration
    | some declaration =>
        have hlookup := Module.lookup?_name h.nodup hdeclaration
        rcases h.made declaration (List.mem_of_getElem? hdeclaration) with
          ⟨plan, hplan, found, hfound, rfl⟩
        rcases Module.exists_lookup? (hother.known plan ((hsame plan).mp hplan)) with
          ⟨counterpart, hcounterpart⟩
        have hregular : other.Regards plan := hother.regular plan ((hsame plan).mp hplan)
        rcases hother.made_of_lookup? hregular hcounterpart with
          ⟨_, hthere, _, second, hsecond, rfl⟩
        have hnumber : forall place : FuncId, place.index < plan.callees.length ->
            second place = unit.module.counterpart other.module (found place) := by
          intro place hlt
          have hget := List.getElem?_eq_getElem hlt
          exact (Module.counterpart_of_lookup? (hfound place _ hget) (hsecond place _ hget)).symm
        have hsignature : other.signature plan.sig = unit.signature plan.sig := by
          simp only [CompilationUnit.signature, lowering, htarget]
        rw [Module.counterpart_of_lookup? hlookup hcounterpart, hthere, Option.map_some,
          Plan.declaration_congr (h.regular plan hplan).isAccepted other hnumber]
        simp only [Plan.declaration, Declaration.renumber, hsignature, Option.map_map,
          Function.comp_def, Procedure.renumber_renumber]
        rfl

end Planned
end CompilationUnit

/-! ## Inquiries -/

/-- What one of several providers is asked for, under a configuration. -/
structure Inquiry where
  config : Config
  requests : List Request

namespace Inquiry

def shift (inquiry : Inquiry) : Shift where
  config := inquiry.config
  errands := inquiry.requests.map Errand.request

/-- What the requests come down to for a provider of a module. -/
def primitives (module : String) (inquiry : Inquiry) : List Primitive :=
  inquiry.requests.map (Request.primitive inquiry.config module)

/-- The primitives among all that are asked for that are supported. -/
def granted (module : String) (inquiries : List Inquiry) : List Primitive :=
  (inquiries.flatMap (primitives module)).filter fun primitive => primitive.fault?.isNone

end Inquiry

/-! ## Serving inquiries -/

theorem Primitive.Answered.goesOn {primitive : Primitive} {answer : Except Stop FuncId}
    (h : primitive.Answered answer) : Provision.goesOn answer = true := by
  unfold Answered at h
  cases hfault : primitive.fault? with
  | some fault =>
      rw [hfault] at h
      rw [h]
      rfl
  | none =>
      rw [hfault] at h
      rcases h with ⟨id, rfl⟩
      rfl

theorem Primitive.all_goesOn {primitives : List Primitive} {answers : List (Except Stop FuncId)}
    (h : List.Forall₂ Answered primitives answers) : answers.all Provision.goesOn = true := by
  induction h with
  | nil => rfl
  | cons hfirst _ ih => rw [List.all_cons, hfirst.goesOn, ih, Bool.true_and]

/-- What primitives take in a unit. -/
def CompilationUnit.plans (unit : CompilationUnit) (primitives : List Primitive) : List Plan :=
  primitives.flatMap unit.plansOf

theorem CompilationUnit.plans_of_appends {before after : CompilationUnit}
    (h : before.Appends after) (primitives : List Primitive) :
    after.plans primitives = before.plans primitives := by
  unfold CompilationUnit.plans CompilationUnit.plansOf
  rw [h.target, h.timeLayout]

namespace Provider

open CompilationUnit

/-- A provider answers all its requests, and carries out all plans that they take. -/
theorem serve_planned {plans : List Plan} {provider : Provider} (requests : List Request)
    (h : Planned plans provider.unit) (hcoherent : Coherent provider) :
    let primitives := requests.map (Request.primitive provider.config provider.unit.name)
    let run := serve (requests.map Errand.request) provider
    List.Forall₂ Primitive.Answered primitives run.1 ∧
      Planned (plans ++ provider.unit.plans primitives) run.2.unit ∧
        provider.unit.Appends run.2.unit := by
  induction requests generalizing plans provider with
  | nil =>
      refine ⟨.nil, ?_, (Appends.refl provider).unit⟩
      simpa [CompilationUnit.plans, serve] using h
  | cons wanted rest ih =>
      rcases request_planned h hcoherent wanted with ⟨hanswer, hplanned⟩
      rcases always_request wanted provider hcoherent with ⟨happends, hstill⟩
      rcases ih hplanned hstill with ⟨hanswers, hlast, hmore⟩
      have hgoesOn := hanswer.goesOn
      simp only [List.map_cons, serve, Errand.perform, hgoesOn, if_true]
      rw [happends.config, happends.unit.name] at hanswers hlast
      rw [plans_of_appends happends.unit, List.append_assoc] at hlast
      exact ⟨.cons hanswer hanswers, hlast, CompilationUnit.Appends.trans happends.unit hmore⟩

end Provider

namespace CompilationUnit

theorem serveShifts_planned {plans : List Plan} {unit : CompilationUnit} (inquiries : List Inquiry)
    (h : Planned plans unit) :
    let primitives := inquiries.flatMap (Inquiry.primitives unit.name)
    let run := unit.serveShifts (inquiries.map Inquiry.shift)
    List.Forall₂ Primitive.Answered primitives run.1 ∧
      Planned (plans ++ unit.plans primitives) run.2 ∧ unit.Appends run.2 := by
  induction inquiries generalizing plans unit with
  | nil =>
      refine ⟨.nil, ?_, (Alike.refl unit).appends⟩
      simpa [CompilationUnit.plans, serveShifts] using h
  | cons inquiry rest ih =>
      have hstart : Planned plans (Provider.start unit inquiry.config).unit := h.alike ⟨_, rfl⟩
      rcases Provider.serve_planned inquiry.requests hstart
        (Provider.coherent_start unit inquiry.config) with ⟨hanswers, hplanned, happends⟩
      have hlater : unit.Appends
          (Provider.serve (inquiry.requests.map Errand.request)
            (.start unit inquiry.config)).2.unit :=
        Appends.trans (Alike.appends ⟨_, rfl⟩) happends
      rcases ih hplanned with ⟨hmore, hlast, hend⟩
      have hgoesOn := Primitive.all_goesOn hanswers
      simp only [List.map_cons, serveShifts, Inquiry.shift, hgoesOn, if_true]
      rw [hlater.name, plans_of_appends hlater] at hlast
      rw [hlater.name] at hmore
      have hplans : plans ++ unit.plans ((inquiry :: rest).flatMap (Inquiry.primitives unit.name)) =
          plans ++ unit.plans (inquiry.primitives unit.name) ++
            unit.plans (rest.flatMap (Inquiry.primitives unit.name)) := by
        rw [CompilationUnit.plans, CompilationUnit.plans, CompilationUnit.plans, List.flatMap_cons,
          List.flatMap_append, List.append_assoc]
      rw [hplans]
      exact ⟨List.rel_append hanswers hmore, hlast, Appends.trans hlater hend⟩

theorem mem_plans_iff (unit : CompilationUnit) (primitives : List Primitive) (plan : Plan) :
    plan ∈ unit.plans primitives ↔
      exists primitive,
        primitive ∈ primitives.filter (fun primitive => primitive.fault?.isNone) ∧
          plan ∈ unit.plansOf primitive := by
  rw [plans, List.mem_flatMap]
  constructor
  · rintro ⟨primitive, hprimitive, hplan⟩
    have hgranted : primitive.fault?.isNone = true := by
      rw [Primitive.fault_of_mem_plans hplan]
      rfl
    exact ⟨primitive, List.mem_filter.mpr ⟨hprimitive, hgranted⟩, hplan⟩
  · rintro ⟨primitive, hprimitive, hplan⟩
    exact ⟨primitive, List.mem_of_mem_filter hprimitive, hplan⟩

/-! ## New modules -/

/-- A unit over a new module. -/
def fresh (name : String) (target : Target) (layout : TimeLayout) (log : Log) : CompilationUnit :=
  (ofModule .empty name target log).withTimeLayout layout

/-- Providers answer every request that is supported.  What they leave in a new module is what the
granted requests take, each function once; only the numbers of the functions depend on the order of
the requests, on how often they were made, and on the requests that were not granted. -/
theorem contents_of_requests (name : String) (target : Target) (layout : TimeLayout) (log : Log)
    (inquiries : List Inquiry) :
    let unit := fresh name target layout log
    let run := unit.serveShifts (inquiries.map Inquiry.shift)
    let granted := Inquiry.granted name inquiries
    List.Forall₂ Primitive.Answered (inquiries.flatMap (Inquiry.primitives name)) run.1 ∧
      run.2.module.names.Nodup ∧ run.2.module.data = [] ∧
        (forall symbol entry, run.2.module.entry? symbol = some entry ↔
          exists primitive, primitive ∈ granted ∧
            exists plan, plan ∈ primitive.plans (ClockOrigin.ofTarget target) layout ∧
              plan.symbol.name = symbol ∧ entry = plan.entry unit) ∧
          forall (others : List Inquiry) (other : Log),
            (forall primitive, primitive ∈ granted ↔ primitive ∈ Inquiry.granted name others) ->
              exists number, run.2.module.Renumbered number
                ((fresh name target layout other).serveShifts
                  (others.map Inquiry.shift)).2.module := by
  intro unit run granted
  have hempty : Planned [] unit := .empty rfl rfl
  rcases serveShifts_planned inquiries hempty with ⟨hanswers, hplanned, happends⟩
  rw [List.nil_append] at hplanned
  refine ⟨hanswers, hplanned.nodup, hplanned.data, ?_, ?_⟩
  · intro symbol entry
    rw [hplanned.entry?_iff]
    have htarget : run.2.target = unit.target := happends.target
    have hentry : forall plan : Plan, plan.entry run.2 = plan.entry unit := by
      intro plan
      simp only [Plan.entry, signature, lowering, htarget]
    constructor
    · rintro ⟨plan, hplan, hsymbol, hentryPlan⟩
      rcases (unit.mem_plans_iff _ plan).mp hplan with ⟨primitive, hprimitive, hmem⟩
      exact ⟨primitive, hprimitive, plan, hmem, hsymbol, hentryPlan.trans (hentry plan)⟩
    · rintro ⟨primitive, hprimitive, plan, hmem, hsymbol, hentryPlan⟩
      exact ⟨plan, (unit.mem_plans_iff _ plan).mpr ⟨primitive, hprimitive, hmem⟩, hsymbol,
        hentryPlan.trans (hentry plan).symm⟩
  · intro others other hsame
    have hemptyOther : Planned [] (fresh name target layout other) := .empty rfl rfl
    rcases serveShifts_planned others hemptyOther with ⟨_, hplannedOther, happendsOther⟩
    rw [List.nil_append] at hplannedOther
    refine hplanned.renumbered hplannedOther (happendsOther.target.trans happends.target.symm) ?_
    intro plan
    have hgranted : forall primitive,
        primitive ∈ (inquiries.flatMap (Inquiry.primitives name)).filter
            (fun primitive => primitive.fault?.isNone) ↔
          primitive ∈ (others.flatMap (Inquiry.primitives name)).filter
            (fun primitive => primitive.fault?.isNone) := hsame
    have hunit := unit.mem_plans_iff (inquiries.flatMap (Inquiry.primitives name)) plan
    have hfresh := (fresh name target layout other).mem_plans_iff
      (others.flatMap (Inquiry.primitives name)) plan
    simp only [hgranted] at hunit
    exact hunit.trans hfresh.symm

/-- On Windows the dot product comes before the clock in one module and after it in the other. -/
theorem contents_of_requests_dot_clock :
    let target : Target := { os := .windows, intWidth := .unspecified }
    let first : List Inquiry := [{ config := .standard, requests := [.dot .float, .clock] }]
    let second : List Inquiry :=
      [ { config := .standard, requests := [.clock, .elementary .exp .int32] },
        { config := .standard, requests := [.dot .float, .clock] } ]
    (forall primitive, primitive ∈ Inquiry.granted "unit" first ↔
        primitive ∈ Inquiry.granted "unit" second) ∧
      exists number,
        ((fresh "unit" target .fields64 []).serveShifts
            (first.map Inquiry.shift)).2.module.Renumbered number
          ((fresh "unit" target .fields64 []).serveShifts (second.map Inquiry.shift)).2.module := by
  intro target first second
  have hsame : forall primitive, primitive ∈ Inquiry.granted "unit" first ↔
      primitive ∈ Inquiry.granted "unit" second := by
    intro primitive
    have hfirst : Inquiry.granted "unit" first = [.dot .float "unit", .clock] := rfl
    have hsecond : Inquiry.granted "unit" second = [.clock, .dot .float "unit", .clock] := rfl
    rw [hfirst, hsecond]
    simp [or_comm]
  rcases contents_of_requests "unit" target .fields64 [] first with ⟨_, _, _, _, hnumber⟩
  exact ⟨hsame, hnumber second [] hsame⟩

end CompilationUnit
end Provision
