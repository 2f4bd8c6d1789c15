import Provision.Proofs.Module.Making

/-!
# Coherent providers

What a provider remembers is what the module says: the function recorded for a symbol is the one
that goes by its name.  An answer is therefore always the function of a name in the module,
wherever it was found.
-/

namespace Provision

/-- Symbols of the functions that a clock takes, its own last. -/
def ClockOrigin.symbols : ClockOrigin -> List Symbol
  | posix => [Symbol.clock]
  | performanceCounter => [Symbol.queryCounter, Symbol.queryFrequency, Symbol.clock]

/-- All functions that a clock takes are there. -/
def CompilationUnit.HasClock (unit : CompilationUnit) (clock : ClockOrigin) : Prop :=
  forall symbol, symbol ∈ clock.symbols -> exists id, unit.lookup? symbol.name = some id

theorem CompilationUnit.HasClock.grows {unit other : CompilationUnit} {clock : ClockOrigin}
    (h : unit.HasClock clock) (hgrows : unit.Grows other) : other.HasClock clock := by
  intro symbol hsymbol
  rcases h symbol hsymbol with ⟨id, hid⟩
  exact ⟨id, hgrows.lookup? hid⟩

namespace Provider

/-! ## Changes -/

/-- A provider is for what it was, and its module has changed in some way. -/
structure Changes (how : Module -> Module -> Prop) (before after : Provider) : Prop where
  unit : before.unit.Changes how after.unit
  config : after.config = before.config
  clock : after.clock = before.clock

abbrev Appends : Provider -> Provider -> Prop :=
  Changes Module.Appends

theorem Appends.refl (provider : Provider) : Appends provider provider :=
  ⟨(CompilationUnit.Alike.refl provider.unit).appends, rfl, rfl⟩

theorem Appends.trans {a b c : Provider} (hab : Appends a b) (hbc : Appends b c) : Appends a c :=
  ⟨CompilationUnit.Appends.trans hab.unit hbc.unit, hbc.config.trans hab.config,
    hbc.clock.trans hab.clock⟩

/-! ## Coherence -/

structure Coherent (provider : Provider) : Prop where
  origin : provider.clock = ClockOrigin.ofTarget provider.unit.target
  registered : forall symbol id, provider.registry.find? symbol = some id ->
    provider.unit.lookup? symbol.name = some id
  remembered : forall id, provider.currentTime = some id ->
    provider.unit.lookup? (Symbol.currentTime provider.unit.name).name = some id
  /-- The time has been provided over a clock, whose functions are therefore there. -/
  clocked : forall id, provider.currentTime = some id -> provider.unit.HasClock provider.clock

theorem coherent_start (unit : CompilationUnit) (config : Config) :
    Coherent (start unit config) where
  origin := rfl
  registered := fun _ _ h => nomatch h
  remembered := fun _ h => nomatch h
  clocked := fun _ h => nomatch h

variable {provider : Provider} {symbol : Symbol} {make : Action CompilationUnit FuncId}
  {id : FuncId} {unit : CompilationUnit}

theorem Coherent.onUnit (h : Coherent provider) (hgrows : provider.unit.Grows unit) :
    Coherent { provider with unit := unit } where
  origin := by
    rw [h.origin, hgrows.target]
  registered := fun symbol id hid => hgrows.lookup? (h.registered symbol id hid)
  remembered := by
    intro id hid
    have hstill := hgrows.lookup? (h.remembered id hid)
    rw [← hgrows.name] at hstill
    exact hstill
  clocked := fun id hid => (h.clocked id hid).grows hgrows

theorem Coherent.insert (h : Coherent provider)
    (hlookup : provider.unit.lookup? symbol.name = some id) :
    Coherent { provider with registry := provider.registry.insert symbol id } where
  origin := h.origin
  registered := by
    intro other found hfound
    by_cases heq : other = symbol
    · subst heq
      have hself : (provider.registry.insert other id).find? other = some found := hfound
      rw [Registry.find?_insert_self] at hself
      cases hself
      exact hlookup
    · have hother : (provider.registry.insert symbol id).find? other = some found := hfound
      rw [Registry.find?_insert_of_ne _ id heq] at hother
      exact h.registered other found hother
  remembered := h.remembered
  clocked := h.clocked

/-! ## Obtaining a function -/

theorem obtain_of_registered (h : provider.registry.find? symbol = some id) :
    obtain symbol make provider =
      .ok id
        { provider with
          unit :=
            { provider.unit with
              log := provider.unit.log ++ [.registryHit symbol.name] } } := by
  simp only [obtain, obtainBy, Action.run_bind, Action.run_get, h]
  rfl

theorem obtain_of_known (h : provider.registry.find? symbol = none)
    (hlookup : provider.unit.lookup? symbol.name = some id) :
    obtain symbol make provider =
      .ok id
        { provider with
          unit :=
            { provider.unit with
              log := provider.unit.log ++ [.alreadyInModule symbol.name] }
          registry := provider.registry.insert symbol id } := by
  simp only [obtain, obtainBy, rememberBy, Action.run_bind, Action.run_get, h, hlookup,
    Action.onPart, Provider.record, Provider.onUnit, CompilationUnit.record, Action.run_modify,
    Registry.register_of_find?_eq_none id h]
  rfl

theorem obtain_of_made (h : provider.registry.find? symbol = none)
    (hlookup : provider.unit.lookup? symbol.name = none)
    (hmake : make provider.unit = .ok id unit) :
    obtain symbol make provider =
      .ok id
        { provider with unit := unit, registry := provider.registry.insert symbol id } := by
  simp only [obtain, obtainBy, rememberBy, Action.run_bind, Action.run_get, h, hlookup,
    Provider.onUnit, Action.onPart, hmake, Registry.register_of_find?_eq_none id h]
  rfl

theorem obtain_of_stopped {stop : Stop} (h : provider.registry.find? symbol = none)
    (hlookup : provider.unit.lookup? symbol.name = none)
    (hmake : make provider.unit = .error stop unit) :
    obtain symbol make provider = .error stop { provider with unit := unit } := by
  simp only [obtain, obtainBy, Action.run_bind, Action.run_get, h, hlookup, Provider.onUnit,
    Action.onPart, hmake]

/-! ## What coherent providers answer -/

/-- A coherent provider stays coherent and only appends to its module. -/
def Advances (before after : Provider) : Prop :=
  Coherent before -> before.Appends after ∧ Coherent after

theorem Advances.trans {a b c : Provider} (hab : Advances a b) (hbc : Advances b c) :
    Advances a c := by
  intro ha
  rcases hab ha with ⟨happends, hb⟩
  rcases hbc hb with ⟨hmore, hc⟩
  exact ⟨happends.trans hmore, hc⟩

/-- A provider is the same but for what it remembers and tells, and it is coherent. -/
structure Tells (before after : Provider) : Prop where
  unit : before.unit.Alike after.unit
  config : after.config = before.config
  clock : after.clock = before.clock
  coherent : Coherent after

theorem Tells.trans {a b c : Provider} (hab : Tells a b) (hbc : Tells b c) : Tells a c :=
  ⟨hab.unit.trans hbc.unit, hbc.config.trans hab.config, hbc.clock.trans hab.clock, hbc.coherent⟩

theorem Tells.advances {before after : Provider} (h : Tells before after) :
    before.Appends after ∧ Coherent after :=
  ⟨⟨h.unit.appends, h.config, h.clock⟩, h.coherent⟩

theorem Coherent.tell (h : Coherent provider) (log : Log) :
    Tells provider { provider with unit := { provider.unit with log := log } } :=
  ⟨⟨log, rfl⟩, rfl, rfl, h.onUnit (CompilationUnit.Alike.appends ⟨log, rfl⟩).grows⟩

theorem Coherent.record (h : Coherent provider) (event : Event) :
    Tells provider ((Provider.record event).leaves provider) :=
  h.tell (provider.unit.log ++ [event])

theorem Coherent.find?_eq_none (h : Coherent provider)
    (hlookup : provider.unit.lookup? symbol.name = none) :
    provider.registry.find? symbol = none := by
  cases hfind : provider.registry.find? symbol with
  | none => rfl
  | some id =>
      rw [h.registered symbol id hfind] at hlookup
      cases hlookup

/-- A function that the module has is found, whether the provider remembers it or not. -/
theorem Coherent.obtain_known (h : Coherent provider)
    (hlookup : provider.unit.lookup? symbol.name = some id)
    (make : Action CompilationUnit FuncId) :
    (obtain symbol make).answer provider = .ok id ∧
      Tells provider ((obtain symbol make).leaves provider) := by
  cases hfind : provider.registry.find? symbol with
  | some found =>
      -- What is remembered is what the module says.
      have hfound := h.registered symbol found hfind
      rw [hlookup] at hfound
      cases hfound
      rw [Action.answer, Action.leaves, obtain_of_registered hfind]
      exact ⟨rfl, h.tell _⟩
  | none =>
      rw [Action.answer, Action.leaves, obtain_of_known hfind hlookup]
      have htold := h.tell (provider.unit.log ++ [.alreadyInModule symbol.name])
      exact ⟨rfl, htold.unit, rfl, rfl, htold.coherent.insert hlookup⟩

theorem Coherent.obtain_free (h : Coherent provider)
    (hlookup : provider.unit.lookup? symbol.name = none)
    (hmake : CompilationUnit.Makes symbol.name make) :
    (obtain symbol make).answer provider = make.answer provider.unit ∧
      ((obtain symbol make).leaves provider).unit = make.leaves provider.unit ∧
        provider.Appends ((obtain symbol make).leaves provider) ∧
          Coherent ((obtain symbol make).leaves provider) := by
  have hfind := h.find?_eq_none hlookup
  have happends := hmake.appends provider.unit hlookup
  cases hrun : make provider.unit with
  | ok id unit =>
      have hname := hmake.names provider.unit id hlookup
      rw [Action.leaves, hrun] at happends
      rw [Action.answer, Action.leaves, hrun] at hname
      rw [Action.answer, Action.leaves, Action.answer, Action.leaves,
        obtain_of_made hfind hlookup hrun, hrun]
      exact ⟨rfl, rfl, ⟨happends, rfl, rfl⟩, (h.onUnit happends.grows).insert (hname rfl)⟩
  | error stop unit =>
      rw [Action.leaves, hrun] at happends
      rw [Action.answer, Action.leaves, Action.answer, Action.leaves,
        obtain_of_stopped hfind hlookup hrun, hrun]
      exact ⟨rfl, rfl, ⟨happends, rfl, rfl⟩, h.onUnit happends.grows⟩

/-- What is answered is the function of the symbol. -/
theorem Coherent.obtain_answer (h : Coherent provider)
    (hmake : CompilationUnit.Makes symbol.name make)
    (hid : (obtain symbol make).answer provider = .ok id) :
    ((obtain symbol make).leaves provider).unit.lookup? symbol.name = some id := by
  cases hlookup : provider.unit.lookup? symbol.name with
  | some found =>
      rcases h.obtain_known hlookup make with ⟨hanswer, htells⟩
      rw [hanswer] at hid
      cases hid
      exact htells.unit.appends.grows.lookup? hlookup
  | none =>
      rcases h.obtain_free hlookup hmake with ⟨hanswer, hunit, _, _⟩
      rw [hanswer] at hid
      rw [hunit]
      exact hmake.names provider.unit id hlookup hid

theorem always_obtain (hmake : CompilationUnit.Makes symbol.name make) :
    Action.Always Advances (obtain symbol make) := by
  intro provider h
  cases hlookup : provider.unit.lookup? symbol.name with
  | some id => exact (h.obtain_known hlookup make).right.advances
  | none => exact (h.obtain_free hlookup hmake).right.right

end Provider
end Provision
