import Provision.Proofs.Provider.Contents
import Provision.Proofs.Provider.Preserving

/-!
# What a log tells of a module

A log tells of every function that a module gets, in the order of the functions and in words that
fit what the function is.  A function that is found and not made is told of in other words.
-/

namespace Provision

/-! ## Events that tell of functions -/

namespace Event

/-- Whether an event tells of a function that a module has got. -/
def isMaking (event : Event) : Bool :=
  event.message = "declared external function" || event.message = "defined function"

/-- An event tells what a function is. -/
structure Tells (event : Event) (declaration : Declaration) : Prop where
  declared : event.message = "declared external function" ↔ declaration.linkage = .imported
  defined : event.message = "defined function" ↔ declaration.code.isSome = true
  fields : exists shown, event.fields = [("function", declaration.name), ("linkage", shown)] ∧
    (shown = declaration.linkage.text ∨ shown = declaration.linkage.title)

end Event

namespace Log

/-- What a log tells of functions that a module has got. -/
def makings (log : Log) : Log :=
  log.filter Event.isMaking

theorem makings_append (log more : Log) : makings (log ++ more) = log.makings ++ more.makings :=
  List.filter_append log more

/-- Of other events there is nothing to tell. -/
theorem makings_concat_of_other {event : Event} (log : Log) (h : event.isMaking = false) :
    makings (log ++ [event]) = log.makings := by
  rw [makings_append, makings, makings, List.filter_singleton, h]
  exact List.append_nil _

end Log

namespace Declaration

/-- What is told of a function when it is made as it is. -/
def event (declaration : Declaration) : Event :=
  if declaration.code.isSome then .defined declaration.name declaration.linkage
  else .declared declaration.name

/-- Imports have no code, and all others do. -/
def IsSettled (declaration : Declaration) : Prop :=
  declaration.linkage = .imported ↔ declaration.code = none

theorem tells_event {declaration : Declaration} (h : declaration.IsSettled) :
    declaration.event.Tells declaration := by
  cases hcode : declaration.code with
  | none =>
      have himported := h.mpr hcode
      have hevent : declaration.event = .declared declaration.name := by
        rw [event, hcode]
        rfl
      rw [hevent]
      constructor
      · simp [Event.message, himported]
      · simp [Event.message, hcode]
      · exists Linkage.imported.text
        rw [himported]
        exact ⟨rfl, .inl rfl⟩
  | some procedure =>
      have hown : declaration.linkage ≠ .imported := by
        intro himported
        rw [h.mp himported] at hcode
        cases hcode
      have hevent : declaration.event = .defined declaration.name declaration.linkage := by
        rw [event, hcode]
        rfl
      rw [hevent]
      constructor
      · simp [Event.message, hown]
      · simp [Event.message, hcode]
      · exists declaration.linkage.title
        exact ⟨rfl, .inr rfl⟩

end Declaration

/-! ## Units that tell of their functions -/

namespace CompilationUnit

/-- A unit has got functions, and it has told of each of them in turn. -/
def Chronicles (before after : CompilationUnit) : Prop :=
  exists added : List Declaration,
    after.module.functions = before.module.functions ++ added ∧
      after.log.makings = before.log.makings ++ added.map Declaration.event ∧
        forall declaration, declaration ∈ added -> declaration.IsSettled

theorem Chronicles.refl (unit : CompilationUnit) : Chronicles unit unit := by
  exists []
  simp

theorem Chronicles.trans {a b c : CompilationUnit} (hab : Chronicles a b) (hbc : Chronicles b c) :
    Chronicles a c := by
  rcases hab with ⟨first, hfunctions, hlog, hfirst⟩
  rcases hbc with ⟨second, hmore, hlater, hsecond⟩
  exists first ++ second
  constructor
  · rw [hmore, hfunctions, List.append_assoc]
  · constructor
    · rw [hlater, hlog, List.map_append, List.append_assoc]
    · intro declaration hdeclaration
      exact (List.mem_append.mp hdeclaration).elim (hfirst declaration) (hsecond declaration)

theorem chronicles_record {event : Event} (h : event.isMaking = false) :
    Action.Always Chronicles (record event) := by
  intro unit
  exists []
  constructor
  · exact (List.append_nil _).symm
  · constructor
    · exact (Log.makings_concat_of_other unit.log h).trans (List.append_nil _).symm
    · simp

variable {unit : CompilationUnit} {declaration : Declaration}

theorem chronicles_push (h : declaration.IsSettled) :
    Chronicles unit
      { unit with
        module := unit.module.push declaration
        log := unit.log ++ [declaration.event] } := by
  have hmaking : declaration.event.isMaking = true := by
    unfold Declaration.event
    split
    · rfl
    · rfl
  exists [declaration]
  constructor
  · rfl
  · constructor
    · rw [Log.makings_append]
      simp [Log.makings, hmaking]
    · simpa using h

theorem chronicles_declareImport (name : String) (sig : Signature) :
    Action.Always Chronicles (declareImport name sig) := by
  intro unit
  cases hlookup : unit.lookup? name with
  | some id =>
      rw [Action.leaves, declareImport_of_known hlookup]
      exact Chronicles.refl unit
  | none =>
      by_cases hdata : name ∈ unit.module.data
      · rw [Action.leaves, declareImport_of_data hlookup hdata]
        exact Chronicles.refl unit
      · rw [Action.leaves, declareImport_of_free hlookup hdata]
        apply chronicles_push
        exact iff_of_true rfl rfl

/-- A function is defined under a free name and told of, or else nothing is done.  Its slots fit
into a frame: were they not to, the function would be declared with nothing said. -/
theorem chronicles_define {name : String} {sig : Signature} {linkage : Linkage} {body : Body}
    (hfree : unit.lookup? name = none) (hlinkage : linkage.isDefinable = true)
    (hfits : StackSlot.fitFrame body.script.slots = true) :
    Chronicles unit ((define name sig linkage body).leaves unit) := by
  cases hprocedure : unit.procedure name sig body with
  | error stop =>
      rw [Action.leaves, define_of_stop hprocedure]
      exact Chronicles.refl unit
  | ok procedure =>
      by_cases hdata : name ∈ unit.module.data
      · rw [Action.leaves, define_of_data hprocedure hfree hdata]
        exact Chronicles.refl unit
      · rw [← slots_of_procedure hprocedure] at hfits
        rw [Action.leaves, define_of_free hprocedure hfree hdata hlinkage hfits]
        have hown : linkage ≠ .imported := by
          intro himported
          rw [himported] at hlinkage
          cases hlinkage
        apply chronicles_push
        exact iff_of_false hown (by simp)

end CompilationUnit

/-! ## Requests that tell of functions -/

namespace Provider

/-- The unit of a provider has got functions, and it has told of each of them in turn. -/
def Chronicles (before after : Provider) : Prop :=
  before.unit.Chronicles after.unit

theorem Chronicles.refl (provider : Provider) : Chronicles provider provider :=
  CompilationUnit.Chronicles.refl provider.unit

theorem Chronicles.bind {α β : Type} {action : Action Provider α} {next : α -> Action Provider β}
    (h : Action.Always Chronicles action) (hnext : forall x, Action.Always Chronicles (next x)) :
    Action.Always Chronicles (action >>= next) :=
  h.bind (fun _ _ _ => CompilationUnit.Chronicles.trans) hnext

theorem chronicles_record {event : Event} (h : event.isMaking = false) :
    Action.Always Chronicles (record event) := by
  intro provider
  rw [Chronicles, record, onUnit, Action.leaves_onPart]
  exact CompilationUnit.chronicles_record h provider.unit

theorem chronicles_remember (symbol : Symbol) (id : FuncId) :
    Action.Always Chronicles (rememberBy Registry.register symbol id) := by
  intro provider
  rw [Chronicles, rememberBy, Action.leaves_onPart]
  exact CompilationUnit.Chronicles.refl provider.unit

theorem chronicles_obtain (symbol : Symbol) {make : Action CompilationUnit FuncId}
    (h : forall unit : CompilationUnit, unit.lookup? symbol.name = none ->
      unit.Chronicles (make.leaves unit)) :
    Action.Always Chronicles (obtain symbol make) := by
  intro provider
  rw [obtain, obtainBy, Action.leaves_get_bind]
  cases provider.registry.find? symbol with
  | some id =>
      refine Chronicles.bind (chronicles_record ?_) (fun _ => ?_) provider
      · rfl
      · exact Chronicles.refl
  | none =>
      cases hlookup : provider.unit.lookup? symbol.name with
      | some id =>
          refine Chronicles.bind (chronicles_record ?_) (fun _ => ?_) provider
          · rfl
          · exact Chronicles.bind (chronicles_remember symbol id) fun _ => Chronicles.refl
      | none =>
          have hmade : Chronicles provider ((onUnit make).leaves provider) := by
            rw [Chronicles, onUnit, Action.leaves_onPart]
            exact h provider.unit hlookup
          simp only
          rw [Action.leaves_bind]
          cases (onUnit make).answer provider with
          | error stop => exact hmade
          | ok id =>
              apply CompilationUnit.Chronicles.trans hmade
              refine Chronicles.bind (chronicles_remember symbol id) (fun _ => ?_) _
              exact Chronicles.refl

theorem chronicles_imported (symbol : Symbol) (sig : Signature) :
    Action.Always Chronicles (imported symbol sig) := by
  apply chronicles_obtain
  intro unit _
  exact CompilationUnit.chronicles_declareImport symbol.name sig unit

theorem chronicles_synthesized (symbol : Symbol) (sig : Signature) {linkage : Linkage} {body : Body}
    (hlinkage : linkage.isDefinable = true)
    (hfits : StackSlot.fitFrame body.script.slots = true) :
    Action.Always Chronicles (synthesized symbol sig linkage body) := by
  apply chronicles_obtain
  intro unit hfree
  exact CompilationUnit.chronicles_define hfree hlinkage hfits

theorem remembering_chronicles : Remembering (Action.Always Chronicles) where
  bind := Chronicles.bind
  look := fun h _ => .get_bind h
  unsupported := fun _ => Chronicles.refl
  imported := chronicles_imported
  synthesized := chronicles_synthesized
  defined := by
    intro wanted element symbol
    apply chronicles_obtain
    intro unit hfree
    have htold : unit.Chronicles
        { unit with log := unit.log ++ [.synthesizing symbol.name wanted element] } :=
      CompilationUnit.chronicles_record rfl unit
    apply htold.trans
    exact CompilationUnit.chronicles_define hfree rfl (Routine.fits_kernel wanted element)
  pure := fun _ => Chronicles.refl
  mapFault := fun wrap h => h.mapFault wrap
  ready := fun _ _ => chronicles_record rfl
  get_bind := .get_bind
  keep := fun _ => Chronicles.refl

/-- Whatever a provider is asked for, it tells of the functions that it makes and of no others. -/
theorem chronicles_request (wanted : Request) : Action.Always Chronicles (request wanted) :=
  remembering_chronicles.request wanted

end Provider

/-! ## Courses of requests -/

/-- What requests alone make of a unit, with the primitives that they came down to in turn.
Providers are made one after another. -/
inductive Course (first : CompilationUnit) : List Primitive -> Holder -> Prop where
  | start : Course first [] (.emitter first)
  | lend {primitives : List Primitive} {holder : Holder} (h : Course first primitives holder)
      (config : Config) : Course first primitives (.provider (.start holder.unit config))
  | serve {primitives : List Primitive} {provider : Provider}
      (h : Course first primitives (.provider provider)) (wanted : Request) :
      Course first (primitives ++ [provider.primitiveOf wanted])
        (.provider ((Provider.request wanted).leaves provider))

namespace Course

variable {first : CompilationUnit} {primitives : List Primitive} {holder : Holder}

theorem chronicles (h : Course first primitives holder) : first.Chronicles holder.unit := by
  induction h with
  | start => exact CompilationUnit.Chronicles.refl first
  | @lend primitives holder _ config ih =>
      apply ih.trans
      exact CompilationUnit.chronicles_record rfl holder.unit
  | serve _ wanted ih => exact ih.trans (Provider.chronicles_request wanted _)

/-- Requests in a new module go by plan, whoever has it. -/
theorem planned (h : Course first primitives holder) (hfirst : CompilationUnit.Planned [] first) :
    CompilationUnit.Planned (first.plans primitives) holder.unit ∧ first.Appends holder.unit ∧
      holder.Coherent := by
  induction h with
  | start => exact ⟨hfirst, (CompilationUnit.Alike.refl first).appends, trivial⟩
  | @lend primitives holder _ config ih =>
      rcases ih with ⟨hplanned, happends, _⟩
      have halike : holder.unit.Alike (Provider.start holder.unit config).unit := ⟨_, rfl⟩
      exact ⟨hplanned.alike halike, happends.trans halike.appends,
        Provider.coherent_start holder.unit config⟩
  | @serve primitives provider _ wanted ih =>
      rcases ih with ⟨hplanned, happends, hcoherent⟩
      rcases Provider.always_request wanted provider hcoherent with ⟨hmore, hstill⟩
      have hlater := (Provider.request_planned hplanned hcoherent wanted).right
      have hlast : provider.unit.plansOf (provider.primitiveOf wanted) =
          first.plansOf (provider.primitiveOf wanted) := by
        have htarget : provider.unit.target = first.target := happends.target
        have hlayout : provider.unit.timeLayout = first.timeLayout := happends.timeLayout
        rw [CompilationUnit.plansOf, htarget, hlayout]
      have hplans : first.plans (primitives ++ [provider.primitiveOf wanted]) =
          first.plans primitives ++ provider.unit.plansOf (provider.primitiveOf wanted) := by
        rw [CompilationUnit.plans, List.flatMap_append, List.flatMap_singleton, hlast]
        rfl
      rw [hplans]
      exact ⟨hlater, happends.trans hmore.unit, hstill⟩

end Course

/-! ## Requests for what is there -/

namespace CompilationUnit
namespace Planned

variable {plans : List Plan} {unit : CompilationUnit}

/-- With a function there are the functions that it calls. -/
theorem known_callee {plan : Plan} (h : Planned plans unit) (hregular : unit.Regards plan)
    (hknown : plan.symbol.name ∈ unit.module.names) {outline : Outline}
    (houtline : outline ∈ plan.callees) : outline.symbol.name ∈ unit.module.names := by
  rcases Module.exists_lookup? hknown with ⟨id, hlookup⟩
  rcases h.made_of_lookup? hregular hlookup with ⟨_, _, _, number, hresolves, _⟩
  rcases List.mem_iff_getElem?.mp houtline with ⟨place, hplace⟩
  exact Module.mem_names_of_lookup? (hresolves { index := place } outline hplace)

/-- With a clock there is all that it is defined over. -/
theorem known_clock (h : Planned plans unit) (hknown : Symbol.clock.name ∈ unit.module.names) :
    forall plan, plan ∈ unit.plansOf .clock -> plan.symbol.name ∈ unit.module.names := by
  have hregular : forall plan, plan ∈ unit.plansOf .clock -> unit.Regards plan :=
    fun plan hplan => ⟨.clock, hplan⟩
  unfold plansOf at hregular ⊢
  cases horigin : ClockOrigin.ofTarget unit.target with
  | posix =>
      intro plan hplan
      rw [List.mem_singleton.mp hplan]
      exact hknown
  | performanceCounter =>
      rw [horigin] at hregular
      have hclock : unit.Regards (.clock .performanceCounter unit.timeLayout) :=
        hregular _ (by simp [Primitive.plans])
      intro plan hplan
      rcases List.mem_append.mp hplan with hquery | hlast
      · have hcallee : plan.toOutline ∈
            (Plan.clock .performanceCounter unit.timeLayout).callees := by
          rcases Plan.mem_queries hquery with rfl | rfl
          · simp [Plan.clock]
          · simp [Plan.clock]
        exact h.known_callee hclock hknown hcallee
      · rw [List.mem_singleton.mp hlast]
        exact hknown

/-- A function is there only with all that it takes. -/
theorem known_plans (h : Planned plans unit) {primitive : Primitive} {symbol : Symbol}
    (hsymbol : primitive.symbol = .ok symbol) (hknown : symbol.name ∈ unit.module.names) :
    forall plan, plan ∈ unit.plansOf primitive -> plan.symbol.name ∈ unit.module.names := by
  have halone : forall plan,
      primitive.plan? (ClockOrigin.ofTarget unit.target) unit.timeLayout = some plan ->
        plan.symbol.name ∈ unit.module.names := by
    intro plan hplan
    have hown := Primitive.symbol_of_plan hplan
    rw [hsymbol] at hown
    cases hown
    exact hknown
  cases primitive with
  | clock =>
      cases hsymbol
      exact h.known_clock hknown
  | currentTime module =>
      cases hsymbol
      let origin := ClockOrigin.ofTarget unit.target
      have htime : unit.Regards (.currentTime origin unit.timeLayout module) :=
        ⟨.currentTime module, by simp [Primitive.plans, origin]⟩
      have hclock : Symbol.clock.name ∈ unit.module.names := by
        have hcallee := h.known_callee htime hknown (List.mem_singleton_self _)
        rw [Plan.symbol_clock] at hcallee
        exact hcallee
      intro plan hplan
      have hsplit : unit.plansOf (.currentTime module) =
          unit.plansOf .clock ++ [.currentTime origin unit.timeLayout module] := by
        simp [plansOf, Primitive.plans, origin]
      rw [hsplit] at hplan
      rcases List.mem_append.mp hplan with hfirst | hlast
      · exact h.known_clock hclock plan hfirst
      · rw [List.mem_singleton.mp hlast]
        exact hknown
  | _ =>
      intro plan hplan
      exact halone plan (Option.mem_toList.mp hplan)

end Planned
end CompilationUnit

namespace Provider

open CompilationUnit

variable {plans : List Plan} {provider : Provider} {wanted : Request}

/-- What is asked for is there: the provider remembers the function that tells the time, or its
registry or its module has the symbol. -/
def Has (provider : Provider) (wanted : Request) : Prop :=
  wanted = .currentTime ∧ provider.currentTime.isSome = true ∨
    exists symbol, (provider.primitiveOf wanted).symbol = .ok symbol ∧
      ((provider.registry.find? symbol).isSome = true ∨
        (provider.unit.lookup? symbol.name).isSome = true)

theorem Coherent.known_of_has (h : Coherent provider) (hhas : provider.Has wanted) :
    exists symbol, (provider.primitiveOf wanted).symbol = .ok symbol ∧
      symbol.name ∈ provider.unit.module.names := by
  rcases hhas with ⟨rfl, htime⟩ | ⟨symbol, hsymbol, hfound⟩
  · rcases Option.isSome_iff_exists.mp htime with ⟨id, hid⟩
    exact ⟨_, rfl, Module.mem_names_of_lookup? (h.remembered id hid)⟩
  · refine ⟨symbol, hsymbol, ?_⟩
    rcases hfound with hregistered | hknown
    · rcases Option.isSome_iff_exists.mp hregistered with ⟨id, hid⟩
      exact Module.mem_names_of_lookup? (h.registered symbol id hid)
    · rcases Option.isSome_iff_exists.mp hknown with ⟨id, hid⟩
      exact Module.mem_names_of_lookup? hid

/-- A request for what is there is answered, and no function is made. -/
theorem request_of_has (h : Planned plans provider.unit) (hcoherent : Coherent provider)
    (hhas : provider.Has wanted) :
    (exists id, (request wanted).answer provider = .ok id) ∧
      ((request wanted).leaves provider).unit.module.functions =
        provider.unit.module.functions := by
  rcases hcoherent.known_of_has hhas with ⟨symbol, hsymbol, hknown⟩
  rcases request_planned h hcoherent wanted with ⟨hanswered, hafter⟩
  have happends := (always_request wanted provider hcoherent).left.unit.module
  constructor
  · cases hfault : (provider.primitiveOf wanted).fault? with
    | some fault =>
        rw [Primitive.symbol_of_fault hfault] at hsymbol
        cases hsymbol
    | none =>
        rw [Primitive.Answered, hfault] at hanswered
        exact hanswered
  · have hall := h.known_plans hsymbol hknown
    -- Whatever is there afterwards goes by a plan whose name was known.
    have hcreated : provider.unit.module.created ((request wanted).leaves provider).unit.module =
        [] := by
      apply List.eq_nil_iff_forall_not_mem.mpr
      intro name hname
      apply happends.nodup_created.right name hname
      have hthere : name ∈ ((request wanted).leaves provider).unit.module.names := by
        rw [happends.names_eq]
        exact List.mem_append_right _ hname
      rcases (hafter.mem_names_iff name).mp hthere with ⟨plan, hplan, rfl⟩
      exact (List.mem_append.mp hplan).elim (h.known plan) (hall plan)
    rcases happends.exists_added with ⟨added, hadded⟩
    have hnone : added.map Declaration.name = [] := by
      rw [← hcreated]
      simp [Module.created, Module.names, hadded]
    rw [hadded, List.map_eq_nil_iff.mp hnone, List.append_nil]

end Provider

/-! ## The log of a new module -/

/-- After any requests, a log tells of the functions of a module in the order of their numbers,
each of them once and as what it is in the end.  A request for what is there adds nothing. -/
theorem Course.log_tells {name : String} {target : Target} {layout : TimeLayout} {log : Log}
    {primitives : List Primitive} {holder : Holder}
    (h : Course (.fresh name target layout log) primitives holder) :
    holder.unit.log.makings =
        log.makings ++ holder.unit.module.functions.map Declaration.event ∧
      holder.unit.module.names.Nodup ∧
        (forall declaration, declaration ∈ holder.unit.module.functions ->
          declaration.IsSettled ∧ declaration.event.Tells declaration) ∧
          forall provider, holder = .provider provider -> forall wanted, provider.Has wanted ->
            (exists id, (Provider.request wanted).answer provider = .ok id) ∧
              ((Provider.request wanted).leaves provider).unit.log.makings =
                provider.unit.log.makings := by
  rcases h.planned (.empty rfl rfl) with ⟨hplanned, _, hcoherent⟩
  rcases h.chronicles with ⟨added, hfunctions, hlog, hsettled⟩
  have hadded : holder.unit.module.functions = added := hfunctions
  rw [hadded]
  constructor
  · exact hlog
  · constructor
    · exact hplanned.nodup
    · constructor
      · intro declaration hdeclaration
        have hsettles := hsettled declaration hdeclaration
        exact ⟨hsettles, Declaration.tells_event hsettles⟩
      · rintro provider rfl wanted hhas
        rcases Provider.request_of_has hplanned hcoherent hhas with ⟨hanswer, hsame⟩
        rcases Provider.chronicles_request wanted provider with ⟨more, hmore, htold, _⟩
        have hnone : more = [] := by
          rw [hsame] at hmore
          exact List.self_eq_append_right.mp hmore
        rw [hnone, List.map_nil, List.append_nil] at htold
        exact ⟨hanswer, htold⟩

/-- On Windows the time takes three functions more.  Another provider finds it in the module, and
remembers it from then on. -/
theorem Course.log_tells_time :
    let first : CompilationUnit :=
      .fresh "unit" { os := .windows, intWidth := .unspecified } .fields64 []
    let lent := Provider.start first .standard
    let other := Provider.start ((Provider.request .currentTime).leaves lent).unit .standard
    let last := (Provider.request .currentTime).leaves other
    last.unit.log.makings =
        [ .declared "QueryPerformanceCounter", .declared "QueryPerformanceFrequency",
          .defined "clock_gettime" .internal, .defined "unit_GetTime" .exported ] ∧
      other.Has .currentTime ∧ last.Has .currentTime ∧
        ((Provider.request .currentTime).leaves last).unit.log.makings =
          last.unit.log.makings := by
  intro first lent other last
  have hlent : Course first _ (.provider lent) := Course.start.lend .standard
  have hother : Course first _ (.provider other) := (hlent.serve .currentTime).lend .standard
  have hlast : Course first _ (.provider last) := hother.serve .currentTime
  have hname : other.unit.name = "unit" := by
    decide +kernel
  have hknown : (other.unit.lookup? (Symbol.currentTime "unit").name).isSome = true := by
    decide +kernel
  have hfound : other.Has .currentTime := by
    rw [← hname] at hknown
    exact .inr ⟨Symbol.currentTime other.unit.name, rfl, .inr hknown⟩
  have hmemo : last.currentTime.isSome = true := by
    decide +kernel
  have hremembered : last.Has .currentTime := .inl ⟨rfl, hmemo⟩
  rcases hlast.log_tells with ⟨_, _, _, hagain⟩
  have htold : last.unit.log.makings =
      [ .declared "QueryPerformanceCounter", .declared "QueryPerformanceFrequency",
        .defined "clock_gettime" .internal, .defined "unit_GetTime" .exported ] := by
    decide +kernel
  exact ⟨htold, hfound, hremembered, (hagain last rfl .currentTime hremembered).right⟩

end Provision
