import Provision.Proofs.Pairing
import Provision.Proofs.Provider.Preserving
import Provision.Proofs.Provider.Serving
import Provision.Proofs.Script.Outcome

/-!
# What providers register

A provider registers a symbol only if it is not registered yet.  So registering could not go wrong
on symbols that are there already, whatever it did to them, and no entry of a registry is ever
replaced.  All that is registered, and the time that is remembered, is what the module says.
-/

namespace Provision

/-! ## Registries that grow -/

namespace Registry

/-- Symbols of the functions that a registry has. -/
def symbols (registry : Registry) : List Symbol :=
  registry.entries.map Prod.fst

/-- A registry has got more entries, and has no symbol twice if it had none. -/
structure Extends (before after : Registry) : Prop where
  entries : before.entries <:+ after.entries
  nodup : before.symbols.Nodup -> after.symbols.Nodup

theorem Extends.refl (registry : Registry) : registry.Extends registry :=
  ⟨List.suffix_rfl, fun h => h⟩

theorem Extends.trans {a b c : Registry} (hab : a.Extends b) (hbc : b.Extends c) : a.Extends c :=
  ⟨hab.entries.trans hbc.entries, fun h => hbc.nodup (hab.nodup h)⟩

theorem extends_insert {registry : Registry} {symbol : Symbol}
    (h : registry.find? symbol = none) (id : FuncId) :
    registry.Extends (registry.insert symbol id) := by
  have hnew := Association.not_mem_keys_of_lookup_eq_none h
  have hentries : (registry.insert symbol id).entries = (symbol, id) :: registry.entries :=
    congrArg (List.cons _) (Association.erase_of_not_mem hnew)
  constructor
  · rw [hentries]
    exact List.suffix_cons _ _
  · intro hnodup
    rw [symbols, hentries]
    exact List.nodup_cons.mpr ⟨hnew, hnodup⟩

theorem find?_eq_some_iff {registry : Registry} (h : registry.symbols.Nodup) {symbol : Symbol}
    {id : FuncId} : registry.find? symbol = some id ↔ (symbol, id) ∈ registry.entries :=
  Association.lookup_eq_some_iff_mem h

/-- A way to register symbols that does what it should with symbols that are not registered yet. -/
def RegistersNew (register : Symbol -> FuncId -> Action Registry Unit) : Prop :=
  forall registry symbol id, registry.find? symbol = none ->
    register symbol id registry = Registry.register symbol id registry

end Registry

/-! ## Stops that say nothing of a registry -/

/-- It is not that a symbol was given a second function. -/
def Stop.SparesSymbols (stop : Stop) : Prop :=
  forall name, stop ≠ .misuse (.symbolTaken name)

theorem Stop.sparesSymbols_fault (reason : Fault) : (Stop.fault reason).SparesSymbols := by
  intro name h
  cases h

theorem Stop.sparesSymbols_of_script {misuse : Misuse} (h : misuse.IsOfScript) :
    (Stop.misuse misuse).SparesSymbols := by
  intro name heq
  cases heq
  exact h

/-- An action never gives a symbol a second function. -/
abbrev Action.SparesSymbols {σ α : Type} (action : Action σ α) : Prop :=
  action.StopsOnly Stop.SparesSymbols

namespace Module

theorem sparesSymbols_declare (name : String) (linkage : Linkage)
    (signature : MachineSignature) : (declare name linkage signature).SparesSymbols := by
  refine .get_bind fun module => ?_
  cases module.lookup? name with
  | some id =>
      refine Action.StopsOnly.bind (Action.stopsOnly_modify _) fun _ => ?_
      split
      · exact Action.stopsOnly_pure _
      · exact Action.stopsOnly_throw (Stop.sparesSymbols_fault _)
  | none =>
      simp only
      split
      · exact Action.stopsOnly_throw (Stop.sparesSymbols_fault _)
      · exact Action.StopsOnly.bind (Action.stopsOnly_modify _) fun _ => Action.stopsOnly_pure _

theorem sparesSymbols_define (name : String) (id : FuncId) (procedure : Procedure) :
    (define name id procedure).SparesSymbols := by
  refine .get_bind fun module => ?_
  cases module.declaration? id with
  | none => exact Action.stopsOnly_throw (Stop.sparesSymbols_of_script trivial)
  | some declaration =>
      simp only
      split
      · exact Action.stopsOnly_throw (Stop.sparesSymbols_fault _)
      · split
        · exact Action.stopsOnly_throw (Stop.sparesSymbols_fault _)
        · split
          · refine Action.stopsOnly_throw ?_
            intro taken h
            cases h
          · exact Action.stopsOnly_modify _

end Module

namespace CompilationUnit

theorem sparesSymbols_record (event : Event) : (record event).SparesSymbols :=
  Action.stopsOnly_modify _

theorem sparesSymbols_declareImport (name : String) (sig : Signature) :
    (declareImport name sig).SparesSymbols := by
  refine .get_bind fun unit => ?_
  cases unit.lookup? name with
  | some id => exact Action.stopsOnly_pure id
  | none =>
      refine ((Module.sparesSymbols_declare _ _ _).onPart _ _).bind fun id => ?_
      exact (sparesSymbols_record _).bind fun _ => Action.stopsOnly_pure id

theorem sparesSymbols_define (name : String) (sig : Signature) (linkage : Linkage) (body : Body) :
    (define name sig linkage body).SparesSymbols := by
  refine .get_bind fun unit => ?_
  cases hprocedure : unit.procedure name sig body with
  | error stop =>
      refine Action.stopsOnly_throw ?_
      cases stop with
      | fault reason => exact Stop.sparesSymbols_fault reason
      | misuse misuse =>
          rcases misuse_of_procedure hprocedure with hscript | rfl
          · exact Stop.sparesSymbols_of_script hscript
          · intro name h
            cases h
  | ok procedure =>
      refine ((Module.sparesSymbols_declare _ _ _).onPart _ _).bind fun id => ?_
      refine ((Module.sparesSymbols_define _ _ _).onPart _ _).bind fun _ => ?_
      exact (sparesSymbols_record _).bind fun _ => Action.stopsOnly_pure id

end CompilationUnit

/-! ## Requests that register with care -/

namespace Provider

open CompilationUnit

variable {α β : Type}

/-- A registry only gets more entries, and no symbol is ever given a second function. -/
structure Careful (action : Action Provider α) : Prop where
  grows : action.Always fun before after => before.registry.Extends after.registry
  spares : action.SparesSymbols

theorem careful_pure (x : α) : Careful (pure x : Action Provider α) :=
  ⟨fun provider => .refl provider.registry, Action.stopsOnly_pure x⟩

theorem careful_fault (reason : Fault) : Careful (Action.fault reason : Action Provider α) :=
  ⟨fun provider => .refl provider.registry,
    Action.stopsOnly_throw (Stop.sparesSymbols_fault reason)⟩

theorem Careful.bind {action : Action Provider α} {next : α -> Action Provider β}
    (h : Careful action) (hnext : forall x, Careful (next x)) : Careful (action >>= next) where
  grows := h.grows.bind (fun _ _ _ => Registry.Extends.trans) fun x => (hnext x).grows
  spares := h.spares.bind fun x => (hnext x).spares

theorem Careful.get_bind {next : Provider -> Action Provider α}
    (h : forall provider, Careful (next provider)) : Careful (get >>= next) where
  grows := .get_bind fun provider => (h provider).grows
  spares := .get_bind fun provider => (h provider).spares

theorem Careful.mapFault {action : Action Provider α} (h : Careful action)
    (wrap : Fault -> Fault) : Careful (Action.mapFault wrap action) where
  grows := h.grows.mapFault wrap
  spares := h.spares.mapFault fun _ _ => Stop.sparesSymbols_fault _

/-- What is done to the unit leaves the registry alone. -/
theorem careful_onUnit {action : Action CompilationUnit α} (h : action.SparesSymbols) :
    Careful (onUnit action) where
  grows := by
    intro provider
    rw [onUnit, Action.leaves_onPart]
    exact .refl provider.registry
  spares := h.onPart _ _

theorem careful_record (event : Event) : Careful (record event) :=
  careful_onUnit (sparesSymbols_record event)

/-- A symbol is registered only if it was not found in the registry. -/
theorem careful_obtain (symbol : Symbol) {make : Action CompilationUnit FuncId}
    (h : make.SparesSymbols) : Careful (obtain symbol make) := by
  have hboth : forall provider : Provider,
      provider.registry.Extends ((obtain symbol make).leaves provider).registry ∧
        forall stop, (obtain symbol make).answer provider = .error stop -> stop.SparesSymbols := by
    intro provider
    unfold Action.leaves Action.answer
    cases hfind : provider.registry.find? symbol with
    | some id =>
        rw [obtain_of_registered hfind]
        exact ⟨.refl provider.registry, fun _ hstop => nomatch hstop⟩
    | none =>
        cases hlookup : provider.unit.lookup? symbol.name with
        | some id =>
            rw [obtain_of_known hfind hlookup]
            exact ⟨Registry.extends_insert hfind id, fun _ hstop => nomatch hstop⟩
        | none =>
            cases hmake : make provider.unit with
            | ok id unit =>
                rw [obtain_of_made hfind hlookup hmake]
                exact ⟨Registry.extends_insert hfind id, fun _ hstop => nomatch hstop⟩
            | error cause unit =>
                rw [obtain_of_stopped hfind hlookup hmake]
                refine ⟨.refl provider.registry, ?_⟩
                intro stop hstop
                cases hstop
                apply h provider.unit
                rw [Action.answer, hmake]
  exact ⟨fun provider => (hboth provider).left, fun provider => (hboth provider).right⟩

/-- The time is remembered beside the registry. -/
theorem remembering_careful : Remembering Careful where
  bind := Careful.bind
  look := fun h _ => .get_bind h
  unsupported := fun _ => careful_fault _
  imported := fun symbol sig => careful_obtain symbol (sparesSymbols_declareImport _ sig)
  synthesized := fun symbol sig linkage body _ _ =>
    careful_obtain symbol (sparesSymbols_define _ sig linkage body)
  defined := fun _ _ symbol =>
    careful_obtain symbol ((sparesSymbols_record _).bind fun _ => sparesSymbols_define _ _ _ _)
  pure := careful_pure
  mapFault := fun wrap h => h.mapFault wrap
  ready := fun _ _ => careful_record _
  get_bind := .get_bind
  keep := fun _ => ⟨fun provider => .refl provider.registry, Action.stopsOnly_modify _⟩

theorem careful_request (wanted : Request) : Careful (request wanted) :=
  remembering_careful.request wanted

/-! ## Errands -/

theorem careful_perform (errand : Errand) : Careful errand.perform := by
  cases errand with
  | request wanted => exact careful_request wanted
  | declare name sig => exact careful_onUnit (sparesSymbols_declareImport name sig)
  | define name sig linkage body =>
      exact careful_onUnit (sparesSymbols_define name sig linkage body)

/-- Whatever a client asks for in turn, the registry only gets more entries, and no symbol is given
a second function. -/
theorem serve_careful (errands : List Errand) (provider : Provider) :
    provider.registry.Extends (provider.serve errands).2.registry ∧
      forall stop, .error stop ∈ (provider.serve errands).1 -> stop.SparesSymbols := by
  induction errands generalizing provider with
  | nil => exact ⟨.refl provider.registry, by simp [serve]⟩
  | cons errand rest ih =>
      have hcareful := careful_perform errand
      have hextends := hcareful.grows provider
      have hspares := hcareful.spares provider
      simp only [serve]
      split
      · rcases ih (errand.perform.leaves provider) with ⟨hmore, hothers⟩
        refine ⟨hextends.trans hmore, ?_⟩
        intro stop hstop
        rcases List.mem_cons.mp hstop with hfirst | hlater
        · exact hspares stop hfirst.symm
        · exact hothers stop hlater
      · refine ⟨hextends, ?_⟩
        intro stop hstop
        exact hspares stop (List.mem_singleton.mp hstop).symm

end Provider

/-! ## Other ways to register -/

namespace Provider

variable {register : Symbol -> FuncId -> Action Registry Unit}

/-- A symbol that is registered has not been found, and neither what is told nor what is made
changes the registry. -/
theorem obtainBy_eq (h : Registry.RegistersNew register) : obtainBy register = obtain := by
  funext symbol make provider
  cases hfind : provider.registry.find? symbol with
  | some id => simp only [obtainBy, obtain, Action.run_bind, Action.run_get, hfind]
  | none =>
      have hremember : forall (unit : CompilationUnit) (id : FuncId),
          rememberBy register symbol id { provider with unit := unit } =
            rememberBy Registry.register symbol id { provider with unit := unit } := by
        intro unit id
        unfold rememberBy Action.onPart
        rw [h provider.registry symbol id hfind]
      cases hlookup : provider.unit.lookup? symbol.name with
      | some id =>
          simp only [obtainBy, obtain, Action.run_bind, Action.run_get, hfind, hlookup, record,
            onUnit, Action.onPart, CompilationUnit.record, Action.run_modify, hremember]
      | none =>
          simp only [obtainBy, obtain, Action.run_bind, Action.run_get, hfind, hlookup, onUnit,
            Action.onPart]
          cases make provider.unit with
          | ok id unit => simp only [hremember]
          | error stop unit => rfl

theorem request_obtainBy (h : Registry.RegistersNew register) (wanted : Request) :
    Generic.request (obtainBy register) wanted = request wanted := by
  rw [obtainBy_eq h]
  rfl

end Provider

/-! ## Registries in a history -/

namespace Holder

/-- If a provider has the module, it has registered no symbol twice. -/
def RegistersOnce : Holder -> Prop
  | emitter _ => True
  | provider lent => lent.registry.symbols.Nodup

theorem RegistersOnce.after {α : Type} {action : Action CompilationUnit α} {holder : Holder}
    (h : holder.RegistersOnce) (haction : action.SparesSymbols) :
    (holder.after action).RegistersOnce := by
  cases holder with
  | emitter unit => trivial
  | provider lent => exact ((Provider.careful_onUnit haction).grows lent).nodup h

end Holder

namespace History

variable {first : CompilationUnit} {services : List Service}

theorem registersOnce {holder : Holder} (h : History first services holder) :
    holder.RegistersOnce := by
  induction h with
  | start => trivial
  | serve _ wanted ih => exact ((Provider.careful_request wanted).grows _).nodup ih
  | declare _ name sig ih => exact ih.after (CompilationUnit.sparesSymbols_declareImport name sig)
  | define _ name sig linkage body ih =>
      exact ih.after (CompilationUnit.sparesSymbols_define name sig linkage body)
  | lend _ config _ => exact List.nodup_nil
  | rewrap => trivial

/-- What is answered is registered under the symbol of what was asked for. -/
theorem registered_of_answer {provider : Provider}
    (h : History first services (.provider provider)) {wanted : Request} {id : FuncId}
    (hid : (Provider.request wanted).answer provider = .ok id) :
    exists symbol, (provider.primitiveOf wanted).symbol = .ok symbol ∧
      (symbol, id) ∈ ((Provider.request wanted).leaves provider).registry.entries := by
  have horderly : provider.Orderly := h.orderly
  have hpreserves := horderly.preserves (horderly.coherent.request_serves wanted)
  rcases hpreserves.answered id hid with ⟨symbol, hsymbol, _, hfind⟩
  exact ⟨symbol, hsymbol, Association.mem_of_lookup hfind⟩

/-- Whatever was done to a module so far, successful or not: what its provider has registered, and
the time that it remembers, are functions of the module under those names.  What is answered is
registered, and whatever comes next, entries of the registry stay what they are and no symbol is
given a second function.  In fact symbols that are registered already are never registered:
requests are the same when registering those does anything else. -/
theorem registry_coherent {provider : Provider}
    (h : History first services (.provider provider)) :
    (forall symbol id, (symbol, id) ∈ provider.registry.entries ->
        provider.unit.lookup? symbol.name = some id) ∧
      provider.registry.symbols.Nodup ∧
        (forall id, provider.currentTime = some id ->
          provider.unit.lookup? (Symbol.currentTime provider.unit.name).name = some id ∧
            provider.unit.HasClock provider.clock) ∧
          (forall wanted id, (Provider.request wanted).answer provider = .ok id ->
            exists symbol, (provider.primitiveOf wanted).symbol = .ok symbol ∧
              (symbol, id) ∈ ((Provider.request wanted).leaves provider).registry.entries) ∧
            (forall errands : List Errand,
              provider.registry.entries <:+ (provider.serve errands).2.registry.entries ∧
                forall name, .error (.misuse (.symbolTaken name)) ∉ (provider.serve errands).1) ∧
              forall register, Registry.RegistersNew register -> forall wanted,
                Provider.Generic.request (Provider.obtainBy register) wanted =
                  Provider.request wanted := by
  have hcoherent : provider.Coherent := h.account.right
  have honce : provider.registry.symbols.Nodup := h.registersOnce
  refine ⟨?_, honce, ?_, fun wanted id hid => h.registered_of_answer hid, ?_,
    fun register hregister => Provider.request_obtainBy hregister⟩
  · intro symbol id hmem
    exact hcoherent.registered symbol id ((Registry.find?_eq_some_iff honce).mpr hmem)
  · intro id hid
    exact ⟨hcoherent.remembered id hid, hcoherent.clocked id hid⟩
  · intro errands
    rcases Provider.serve_careful errands provider with ⟨hextends, hspares⟩
    refine ⟨hextends.entries, ?_⟩
    intro name hmem
    exact hspares _ hmem name rfl

/-- A caller has declared one of the performance counters before the time was asked for, and
declares a function of the C library before that one is asked for. -/
theorem registry_coherent_counters :
    let unit := CompilationUnit.ofModule .empty "unit"
      { os := .windows, intWidth := .unspecified } []
    let lent := (Provider.onUnit (CompilationUnit.declareImport "QueryPerformanceFrequency"
      Routine.querySignature)).leaves (.start unit .standard)
    let provider := (Provider.request .currentTime).leaves lent
    let errands : List Errand :=
      [.declare "sinf" (ElementaryFunction.signature .float32),
        .request (.elementary .sin .float32), .request (.elementary .sin .int32)]
    let overwrite : Symbol -> FuncId -> Action Registry Unit :=
      fun symbol id => modify fun registry => registry.insert symbol id
    (provider.registry.entries =
        [(.currentTime "unit", { index := 3 }), (.clock, { index := 2 }),
          (.queryFrequency, { index := 0 }), (.queryCounter, { index := 1 })] ∧
      (provider.serve errands).1.map Except.toOption =
        [some { index := 4 }, some { index := 4 }, none]) ∧
      provider.unit.lookup? "QueryPerformanceFrequency" = some { index := 0 } ∧
        provider.registry.symbols.Nodup ∧
          (provider.unit.lookup? "unit_GetTime" = some { index := 3 } ∧
            provider.unit.HasClock .performanceCounter) ∧
            (exists symbol, (provider.primitiveOf .clock).symbol = .ok symbol ∧
              (symbol, { index := 2 }) ∈
                ((Provider.request .clock).leaves provider).registry.entries) ∧
              (provider.registry.entries <:+ (provider.serve errands).2.registry.entries ∧
                .error (.misuse (.symbolTaken "sinf")) ∉ (provider.serve errands).1) ∧
                Provider.Generic.request (Provider.obtainBy overwrite) .currentTime =
                  Provider.request .currentTime := by
  intro unit lent provider errands overwrite
  have hhistory : History unit _ (.provider provider) :=
    ((History.start.lend .standard).declare "QueryPerformanceFrequency"
      Routine.querySignature).serve .currentTime
  have hentries : provider.registry.entries =
      [(.currentTime "unit", { index := 3 }), (.clock, { index := 2 }),
        (.queryFrequency, { index := 0 }), (.queryCounter, { index := 1 })] := by
    decide +kernel
  have htime : provider.currentTime = some { index := 3 } := by
    decide +kernel
  have hanswers : (provider.serve errands).1.map Except.toOption =
      [some { index := 4 }, some { index := 4 }, none] := by
    decide +kernel
  have hoverwrite : Registry.RegistersNew overwrite := by
    intro registry symbol id hnone
    rw [Registry.register_of_find?_eq_none id hnone]
    rfl
  have hanswer : (Provider.request .clock).answer provider = .ok { index := 2 } := by
    decide +kernel
  have hunit : provider.unit.name = "unit" := by
    decide +kernel
  have horigin : provider.clock = .performanceCounter := by
    decide +kernel
  rcases registry_coherent hhistory with
    ⟨hregistered, honce, hclocked, hanswered, hserved, hrequests⟩
  have hmem : (Symbol.queryFrequency, FuncId.mk 0) ∈ provider.registry.entries := by
    rw [hentries]
    simp
  have hfrequency := hregistered _ _ hmem
  rcases hclocked { index := 3 } htime with ⟨hname, hclock⟩
  rw [hunit] at hname
  rw [horigin] at hclock
  rcases hserved errands with ⟨hkept, hspares⟩
  exact ⟨⟨hentries, hanswers⟩, hfrequency, honce, ⟨hname, hclock⟩, hanswered .clock _ hanswer,
    ⟨hkept, hspares "sinf"⟩, hrequests overwrite hoverwrite .currentTime⟩

end History
end Provision
