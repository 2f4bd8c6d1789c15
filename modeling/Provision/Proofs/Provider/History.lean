import Mathlib.Data.List.Flatten
import Provision.Proofs.Provider.Requests

/-!
# Histories of a module

Whatever happens to a module, whoever has it and in whichever order: two requests that are answered
get the same function exactly if they ask for the same primitive, and providers declare and define
every function once at most.
-/

namespace Provision

/-! ## What a step has made -/

namespace Module

/-- Names of the functions that are new in a module. -/
def created (before after : Module) : List String :=
  after.names.drop before.names.length

/-- Names of the functions that have got their code. -/
def authored (before after : Module) : List String :=
  (after.functions.zipIdx.filter fun entry =>
    entry.1.code.isSome && (before.functions[entry.2]?.bind Declaration.code).isNone).map
      fun entry => entry.1.name

theorem Appends.exists_added {before after : Module} (h : Appends before after) :
    exists added, after.functions = before.functions ++ added := by
  induction h with
  | refl => exact ⟨[], by simp⟩
  | push _ declaration _ ih =>
      rcases ih with ⟨added, hadded⟩
      exact ⟨added ++ [declaration], by simp [Module.push, hadded]⟩

theorem Appends.names_eq {before after : Module} (h : Appends before after) :
    after.names = before.names ++ created before after := by
  rcases h.exists_added with ⟨added, hadded⟩
  simp [created, names, hadded]

/-- New functions have new names, each of them another one. -/
theorem Appends.nodup_created {before after : Module} (h : Appends before after) :
    (created before after).Nodup ∧
      forall name, name ∈ created before after -> name ∉ before.names := by
  induction h with
  | refl => simp [created]
  | @push after h declaration hfree ih =>
      have hnames := h.names_eq
      have hcreated : created before (after.push declaration) =
          created before after ++ [declaration.name] := by
        rw [created, names_push, hnames]
        simp
      rw [hnames, List.mem_append, not_or] at hfree
      rw [hcreated]
      constructor
      · rw [List.nodup_append]
        refine ⟨ih.left, by simp, ?_⟩
        intro name hname other hother heq
        rw [List.mem_singleton.mp hother] at heq
        rw [heq] at hname
        exact hfree.right hname
      · intro name hname
        rcases List.mem_append.mp hname with hold | hnew
        · exact ih.right name hold
        · rw [List.mem_singleton.mp hnew]
          exact hfree.left

theorem Appends.authored_sublist {before after : Module} (h : Appends before after) :
    (authored before after).Sublist (created before after) := by
  rcases h.exists_added with ⟨added, hadded⟩
  -- A function that was there before is as it was, so it has not got its code since.
  have hold : (before.functions.zipIdx.filter fun entry =>
      entry.1.code.isSome && (before.functions[entry.2]?.bind Declaration.code).isNone) = [] := by
    rw [List.filter_eq_nil_iff]
    rintro ⟨declaration, index⟩ hmem
    have hget := List.mem_zipIdx_iff_getElem?.mp hmem
    simp only at hget
    cases hcode : declaration.code with
    | none => simp
    | some procedure => simp [hget, hcode]
  have hcreated : created before after = added.map Declaration.name := by
    simp [created, names, hadded]
  have hnames : added.map Declaration.name =
      (added.zipIdx before.functions.length).map fun entry => entry.1.name := by
    calc
      added.map Declaration.name =
          ((added.zipIdx before.functions.length).map Prod.fst).map Declaration.name := by
        rw [List.zipIdx_map_fst]
      _ = (added.zipIdx before.functions.length).map fun entry => entry.1.name := by
        rw [List.map_map]
        rfl
  rw [authored, hadded, List.zipIdx_append, List.filter_append, hold, List.nil_append, hcreated,
    hnames, Nat.zero_add]
  exact List.Sublist.map _ List.filter_sublist

end Module

/-! ## Histories -/

/-- Who has a module: an emitter, or a provider that the emitter is lent to. -/
inductive Holder where
  | emitter (unit : CompilationUnit)
  | provider (provider : Provider)

namespace Holder

def unit : Holder -> CompilationUnit
  | emitter unit => unit
  | provider lent => lent.unit

/-- What an action of the emitter leaves; a provider gives access to the emitter it was lent. -/
def after {α : Type} (action : Action CompilationUnit α) : Holder -> Holder
  | emitter unit => emitter (action.leaves unit)
  | provider lent => provider ((Provider.onUnit action).leaves lent)

end Holder

/-- A request that was served, and the module before and after it. -/
structure Service where
  primitive : Primitive
  answer : Except Stop FuncId
  before : Module
  after : Module

namespace Service

def ofRequest (wanted : Request) (provider : Provider) : Service where
  primitive := wanted.primitive provider.config provider.unit.name
  answer := (Provider.request wanted).answer provider
  before := provider.unit.module
  after := ((Provider.request wanted).leaves provider).unit.module

def created (service : Service) : List String :=
  service.before.created service.after

def authored (service : Service) : List String :=
  service.before.authored service.after

end Service

/-- What can happen to the module of an emitter, with the requests that were served in turn.
Providers are made one after another.  A module is wrapped anew, with any data objects declared
before, only after its provider has given the emitter back.  Every step may succeed or stop. -/
inductive History (first : CompilationUnit) : List Service -> Holder -> Prop where
  | start : History first [] (.emitter first)
  | serve {services : List Service} {provider : Provider}
      (h : History first services (.provider provider)) (wanted : Request) :
      History first (services ++ [.ofRequest wanted provider])
        (.provider ((Provider.request wanted).leaves provider))
  | declare {services : List Service} {holder : Holder} (h : History first services holder)
      (name : String) (sig : Signature) :
      History first services (holder.after (CompilationUnit.declareImport name sig))
  | define {services : List Service} {holder : Holder} (h : History first services holder)
      (name : String) (sig : Signature) (linkage : Linkage) (body : Body) :
      History first services (holder.after (CompilationUnit.define name sig linkage body))
  | lend {services : List Service} {holder : Holder} (h : History first services holder)
      (config : Config) :
      History first services (.provider (.start holder.unit config))
  | rewrap {services : List Service} {holder : Holder} (h : History first services holder)
      (data : List String) (name : String) (target : Target) (layout : TimeLayout) :
      History first services
        (.emitter
          (((data.foldl CompilationUnit.declareData holder.unit).rewrap name target).withTimeLayout
            layout))

/-! ## What a history keeps -/

namespace Holder

/-- If a provider has the module, it is coherent. -/
def Coherent : Holder -> Prop
  | emitter _ => True
  | provider lent => lent.Coherent

theorem after_spec {α : Type} {action : Action CompilationUnit α} {holder : Holder}
    (h : Action.Always CompilationUnit.Grows action) (hcoherent : holder.Coherent) :
    Module.Grows holder.unit.module (holder.after action).unit.module ∧
      (holder.after action).Coherent := by
  cases holder with
  | emitter unit => exact ⟨(h unit).module, trivial⟩
  | provider lent =>
      have hgrows := h lent.unit
      have hleaves : (Provider.onUnit action).leaves lent =
          { lent with unit := action.leaves lent.unit } :=
        Action.leaves_onPart action _ _ lent
      simp only [after, hleaves]
      exact ⟨hgrows.module, Provider.Coherent.onUnit hcoherent hgrows⟩

end Holder

/-- What is true of the requests served so far: what was answered goes by the name of what was
asked for, and functions were made once only. -/
structure Account (services : List Service) (module : Module) : Prop where
  named : forall service, service ∈ services -> forall id, service.answer = .ok id ->
    exists symbol, service.primitive.symbol = .ok symbol ∧ module.lookup? symbol.name = some id
  known : forall name, name ∈ services.flatMap Service.created -> name ∈ module.names
  once : (services.flatMap Service.created).Nodup
  bodies : forall service, service ∈ services -> service.authored.Sublist service.created

namespace Account

variable {services : List Service} {before after : Module}

theorem grows (h : Account services before) (hgrows : Module.Grows before after) :
    Account services after where
  named := by
    intro service hservice id hid
    rcases h.named service hservice id hid with ⟨symbol, hsymbol, hlookup⟩
    exact ⟨symbol, hsymbol, hgrows.lookup? hlookup⟩
  known := fun name hname => hgrows.subset (h.known name hname)
  once := h.once
  bodies := h.bodies

theorem serve {provider : Provider} (h : Account services provider.unit.module)
    (hcoherent : provider.Coherent) (wanted : Request) :
    Account (services ++ [.ofRequest wanted provider])
      ((Provider.request wanted).leaves provider).unit.module := by
  have hadvances := Provider.always_request wanted provider hcoherent
  have happends := hadvances.left.unit.module
  have hcreated := happends.nodup_created
  have hstill := h.grows happends.grows
  exact
    { named := by
        intro service hservice id hid
        rcases List.mem_append.mp hservice with hold | hnew
        · exact hstill.named service hold id hid
        · rw [List.mem_singleton.mp hnew] at hid ⊢
          exact hcoherent.request_answer hid
      known := by
        intro name hname
        rw [List.flatMap_append, List.mem_append] at hname
        rcases hname with hold | hnew
        · exact hstill.known name hold
        · rw [List.flatMap_singleton] at hnew
          rw [happends.names_eq]
          exact List.mem_append_right _ hnew
      once := by
        rw [List.flatMap_append, List.flatMap_singleton, List.nodup_append]
        refine ⟨h.once, hcreated.left, ?_⟩
        intro name hold other hnew heq
        rw [← heq] at hnew
        exact hcreated.right name hnew (h.known name hold)
      bodies := by
        intro service hservice
        rcases List.mem_append.mp hservice with hold | hnew
        · exact h.bodies service hold
        · rw [List.mem_singleton.mp hnew]
          exact happends.authored_sublist }

end Account

theorem CompilationUnit.functions_declareData (data : List String) (unit : CompilationUnit) :
    (data.foldl declareData unit).module.functions = unit.module.functions := by
  induction data generalizing unit with
  | nil => rfl
  | cons name data ih =>
      rw [List.foldl_cons, ih, declareData, Module.declareData]
      split
      · rfl
      · rfl

theorem History.account {first : CompilationUnit} {services : List Service} {holder : Holder}
    (h : History first services holder) :
    Account services holder.unit.module ∧ holder.Coherent := by
  induction h with
  | start => exact ⟨⟨by simp, by simp, by simp, by simp⟩, trivial⟩
  | serve _ wanted ih =>
      exact ⟨ih.left.serve ih.right wanted, (Provider.always_request wanted _ ih.right).right⟩
  | declare _ name sig ih =>
      rcases Holder.after_spec (CompilationUnit.always_declareImport name sig) ih.right with
        ⟨hgrows, hcoherent⟩
      exact ⟨ih.left.grows hgrows, hcoherent⟩
  | define _ name sig linkage body ih =>
      rcases Holder.after_spec (CompilationUnit.always_define name sig linkage body) ih.right with
        ⟨hgrows, hcoherent⟩
      exact ⟨ih.left.grows hgrows, hcoherent⟩
  | lend _ config ih => exact ⟨ih.left, Provider.coherent_start _ config⟩
  | @rewrap services holder _ data name target layout ih =>
      have hfunctions := CompilationUnit.functions_declareData data holder.unit
      constructor
      · apply ih.left.grows
        exact Module.Grows.of_names_eq (congrArg (List.map Declaration.name) hfunctions)
      · trivial

/-! ## One function for each primitive -/

/-- Requests that are answered get the same function exactly if they ask for the same primitive, and
providers make every function, and write every body, once at most. -/
theorem History.one_function_each {first : CompilationUnit} {services : List Service}
    {holder : Holder} (h : History first services holder) :
    (forall a b, a ∈ services -> b ∈ services -> forall x y, a.answer = .ok x -> b.answer = .ok y ->
      (x = y ↔ a.primitive = b.primitive)) ∧
      (services.flatMap Service.created).Nodup ∧ (services.flatMap Service.authored).Nodup := by
  rcases h.account.left with ⟨hnamed, _, honce, hbodies⟩
  refine ⟨?_, honce, honce.sublist (List.Sublist.flatMap_right services hbodies)⟩
  intro a b ha hb x y hx hy
  rcases hnamed a ha x hx with ⟨symbolA, hsymbolA, hlookupA⟩
  rcases hnamed b hb y hy with ⟨symbolB, hsymbolB, hlookupB⟩
  constructor
  · intro heq
    subst heq
    rcases Module.name_of_lookup? hlookupA with ⟨declaration, hdeclaration, hnameA⟩
    rcases Module.name_of_lookup? hlookupB with ⟨other, hother, hnameB⟩
    rw [hdeclaration] at hother
    cases hother
    have hsymbols : symbolA = symbolB := by
      cases symbolA
      cases symbolB
      rw [Symbol.mk.injEq]
      exact hnameA.symm.trans hnameB
    rw [← hsymbols] at hsymbolB
    exact Primitive.symbol_injective hsymbolA hsymbolB
  · intro heq
    rw [heq, hsymbolB] at hsymbolA
    cases hsymbolA
    rw [hlookupB] at hlookupA
    cases hlookupA
    rfl

theorem History.one_function_each_threads :
    let unit := CompilationUnit.ofModule .empty "unit" { os := .posix, intWidth := .unspecified } []
    let first := Provider.start unit .standard
    let second := Provider.start ((Provider.request .getThreads).leaves first).unit .standard
    let third := (Provider.request .setThreads).leaves second
    let services := [Service.ofRequest .getThreads first, .ofRequest .setThreads second,
      .ofRequest .getThreads third]
    services.map Service.answer =
        [.ok { index := 0 }, .ok { index := 1 }, .ok { index := 0 }] ∧
      (FuncId.mk 0 = FuncId.mk 1 ↔ Primitive.getThreads = Primitive.setThreads) ∧
        (services.flatMap Service.created).Nodup := by
  intro unit first second third services
  have hlent := (History.start : History unit [] (.emitter unit)).lend .standard
  have hhistory : History unit services _ :=
    ((((hlent.serve .getThreads).lend .standard).serve .setThreads).serve .getThreads)
  rcases History.one_function_each hhistory with ⟨hfunctions, hcreated, _⟩
  refine ⟨rfl, ?_, hcreated⟩
  exact hfunctions (.ofRequest .getThreads first) (.ofRequest .setThreads second)
    (by simp [services]) (by simp [services]) _ _ rfl rfl

end Provision
