import Provision.Proofs.Provider.History
import Provision.Proofs.Provider.Performing

/-!
# What requests preserve

Whatever a module holds, a request changes none of its functions.  It adds functions under its own
symbols only and registers each of them, and when it fails, nothing is remembered of what could not
be made.
-/

namespace Provision

namespace Provider

open CompilationUnit

/-! ## Plans that have been carried out -/

namespace Obtains

variable {before after : Provider} {plans : List Plan}

theorem currentTime (h : Obtains before plans after) : after.currentTime = before.currentTime := by
  induction h with
  | nil log => rfl
  | snoc _ hgets log ih => exact hgets.registers.currentTime.trans ih

theorem appends (h : Obtains before plans after) : before.Appends after := by
  induction h with
  | nil log => exact ⟨Alike.appends ⟨log, rfl⟩, rfl, rfl⟩
  | snoc _ hgets log ih =>
      exact (ih.trans hgets.appends).trans ⟨Alike.appends ⟨log, rfl⟩, rfl, rfl⟩

theorem coherent (h : Obtains before plans after) (hcoherent : Coherent before) :
    Coherent after := by
  induction h with
  | nil log => exact (hcoherent.tell log).coherent
  | snoc _ hgets log ih => exact ((hgets.coherent ih).tell log).coherent

/-- What was registered before still is. -/
theorem find?_of_find? (h : Obtains before plans after) (hcoherent : Coherent before)
    {symbol : Symbol} {id : FuncId} (hid : before.registry.find? symbol = some id) :
    after.registry.find? symbol = some id := by
  induction h with
  | nil log => exact hid
  | snoc h hgets log ih => exact hgets.find?_of_find? (h.coherent hcoherent) ih

theorem registered (h : Obtains before plans after) (hcoherent : Coherent before) :
    forall plan, plan ∈ plans -> exists id, after.registry.find? plan.symbol = some id := by
  induction h with
  | nil log => simp
  | snoc h hgets log ih =>
      intro plan hplan
      rcases List.mem_append.mp hplan with hold | hnew
      · rcases ih plan hold with ⟨id, hid⟩
        exact ⟨id, hgets.find?_of_find? (h.coherent hcoherent) hid⟩
      · rw [List.mem_singleton.mp hnew]
        exact ⟨_, hgets.registers.registered⟩

/-- Only symbols of the plans have been registered in between. -/
theorem find?_before (h : Obtains before plans after) {symbol : Symbol}
    (hsymbol : forall plan, plan ∈ plans -> plan.symbol ≠ symbol) :
    after.registry.find? symbol = before.registry.find? symbol := by
  induction h with
  | nil log => rfl
  | @snoc plans middle after h plan id hgets log ih =>
      have hother : symbol ≠ plan.symbol :=
        (hsymbol plan (List.mem_append_right _ (List.mem_singleton_self plan))).symm
      have hstill := hgets.registers.others symbol hother
      exact hstill.trans (ih fun old hold => hsymbol old (List.mem_append_left _ hold))

/-- A function is as it was, or a plan was made to it in a unit in between, and it is registered. -/
theorem declaration?_after (h : Obtains before plans after) (hcoherent : Coherent before)
    {id : FuncId} {declaration : Declaration}
    (hafter : after.unit.module.declaration? id = some declaration) :
    before.unit.module.declaration? id = some declaration ∨
      exists plan unit, plan ∈ plans ∧ before.unit.Appends unit ∧ plan.Yields unit declaration ∧
        unit.Appends after.unit ∧ after.registry.find? plan.symbol = some id := by
  induction h with
  | nil log => exact .inl hafter
  | @snoc plans middle after h plan made hgets log ih =>
      have htold : middle.unit.Appends (after.logging log).unit :=
        CompilationUnit.Appends.trans hgets.appends.unit (Alike.appends ⟨log, rfl⟩)
      have hstill : middle.unit.module.declaration? id = some declaration ->
          before.unit.module.declaration? id = some declaration ∨
            exists other unit, other ∈ plans ++ [plan] ∧ before.unit.Appends unit ∧
              other.Yields unit declaration ∧ unit.Appends (after.logging log).unit ∧
                (after.logging log).registry.find? other.symbol = some id := by
        intro hmiddle
        rcases ih hmiddle with hbefore | ⟨other, unit, hother, happends, hyields, hlater, hid⟩
        · exact .inl hbefore
        · have hstillFound := hgets.find?_of_find? (h.coherent hcoherent) hid
          exact .inr ⟨other, unit, List.mem_append_left _ hother, happends, hyields,
            CompilationUnit.Appends.trans hlater htold, hstillFound⟩
      have hmodule : after.unit.module.declaration? id = some declaration := hafter
      have hregistered := hgets.registers.registered
      cases hgets with
      | known _ _ hunit =>
          rw [hunit.module] at hmodule
          exact hstill hmodule
      | made _ hfree new newLog hyields hmade hunit =>
          rw [hunit] at hmodule
          rcases Module.declaration?_push_cases hmodule with hold | ⟨hid, rfl⟩
          · exact hstill hold
          · refine .inr ⟨plan, middle.unit, List.mem_append_right _ (List.mem_singleton_self plan),
              h.appends.unit, hyields, htold, ?_⟩
            rw [hid, ← hmade]
            exact hregistered

end Obtains
end Provider

/-! ## Symbols that a request takes -/

namespace Primitive

/-- Symbols of the functions that a primitive takes, in the order in which they are made: its own,
after those of a clock for the time, and after the performance counters for a clock over them. -/
def symbols (origin : ClockOrigin) : Primitive -> List Symbol
  | clock => origin.symbols
  | currentTime module => origin.symbols ++ [Symbol.currentTime module]
  | other => other.symbol.toOption.toList

theorem symbols_of_plans (origin : ClockOrigin) (layout : TimeLayout) (primitive : Primitive) :
    ((primitive.plans origin layout).map fun plan => plan.symbol) = primitive.symbols origin := by
  cases primitive with
  | elementary function type =>
      simp only [plans, plan?, symbols, symbol]
      cases function.symbol type with
      | error fault => rfl
      | ok symbol =>
          cases function.instruction? with
          | none => rfl
          | some instruction => rfl
  | kernel wanted element binding =>
      simp only [plans, plan?, symbols, symbol]
      cases wanted.symbol element binding with
      | error fault => rfl
      | ok symbol =>
          cases binding with
          | library => rfl
          | module => rfl
  | clock =>
      cases origin
      · rfl
      · rfl
  | currentTime module =>
      cases origin
      · rfl
      · rfl
  | _ => rfl

/-- The last plan of a primitive is its own. -/
theorem symbol_of_last {primitive : Primitive} {origin : ClockOrigin} {layout : TimeLayout}
    {first : List Plan} {last : Plan} (h : primitive.plans origin layout = first ++ [last]) :
    primitive.symbol = .ok last.symbol := by
  have hlast : (primitive.plans origin layout).getLast? = some last := by
    rw [h, List.getLast?_concat]
  cases primitive with
  | clock =>
      rw [plans, List.getLast?_concat, Option.some.injEq] at hlast
      rw [← hlast, Plan.symbol_clock]
      rfl
  | currentTime module =>
      rw [plans, List.append_cons, List.getLast?_concat, Option.some.injEq] at hlast
      rw [← hlast]
      rfl
  | elementary function type =>
      exact symbol_of_plan (Option.mem_toList.mp (List.mem_of_getLast? hlast))
  | kernel wanted element binding =>
      exact symbol_of_plan (Option.mem_toList.mp (List.mem_of_getLast? hlast))
  | _ =>
      cases hlast
      rfl

/-- No other primitive goes by a name that a clock takes. -/
theorem eq_clock_of_mem {primitive : Primitive} {symbol : Symbol} {origin : ClockOrigin}
    (hsymbol : primitive.symbol = .ok symbol) (hmem : symbol ∈ origin.symbols) :
    primitive = clock := by
  have hplans : symbol ∈ (clock.plans origin default).map fun plan => plan.symbol := by
    rw [symbols_of_plans]
    exact hmem
  rcases List.mem_map.mp hplans with ⟨plan, hplan, rfl⟩
  rcases List.mem_append.mp hplan with hquery | hlast
  · exact absurd hsymbol (Plan.query_ne_primitive hquery primitive)
  · rw [List.mem_singleton.mp hlast, Plan.symbol_clock] at hsymbol
    exact symbol_injective hsymbol rfl

theorem nodup_time (origin : ClockOrigin) (module : String) :
    ((currentTime module).symbols origin).Nodup := by
  have hclock : origin.symbols.Nodup := by
    cases origin
    all_goals decide +kernel
  rw [symbols, List.nodup_append]
  refine ⟨hclock, List.nodup_singleton _, ?_⟩
  intro symbol hsymbol other hother heq
  rw [heq, List.mem_singleton.mp hother] at hsymbol
  have htime : (currentTime module).symbol = .ok (Symbol.currentTime module) := rfl
  cases eq_clock_of_mem htime hsymbol

theorem eq_ok_of_mem {primitive : Primitive} {symbol : Symbol}
    (h : symbol ∈ primitive.symbol.toOption.toList) : primitive.symbol = .ok symbol := by
  cases hsymbol : primitive.symbol with
  | error fault =>
      rw [hsymbol] at h
      cases h
  | ok own =>
      rw [hsymbol] at h
      rw [List.mem_singleton.mp h]

/-- What a primitive takes is taken by the time in the same order, or not at all. -/
theorem symbols_cases (primitive : Primitive) (origin : ClockOrigin) (module : String)
    (howned : forall other, primitive = currentTime other -> other = module) :
    primitive.symbols origin <+: (currentTime module).symbols origin ∨
      primitive.symbols origin = primitive.symbol.toOption.toList ∧
        forall symbol, symbol ∈ primitive.symbols origin ->
          symbol ∉ (currentTime module).symbols origin := by
  by_cases hclock : primitive = clock
  · rw [hclock]
    exact .inl (List.prefix_append _ _)
  · by_cases htime : exists other, primitive = currentTime other
    · rcases htime with ⟨other, rfl⟩
      rw [howned other rfl]
      exact .inl List.prefix_rfl
    · have hsymbols : primitive.symbols origin = primitive.symbol.toOption.toList := by
        cases primitive
        case clock => exact absurd rfl hclock
        case currentTime other => exact absurd ⟨other, rfl⟩ htime
        all_goals rfl
      refine .inr ⟨hsymbols, ?_⟩
      intro symbol hsymbol hmem
      rw [hsymbols] at hsymbol
      have howns := eq_ok_of_mem hsymbol
      rcases List.mem_append.mp hmem with hold | hlast
      · exact hclock (eq_clock_of_mem howns hold)
      · rw [List.mem_singleton.mp hlast] at howns
        exact htime ⟨module, symbol_injective howns rfl⟩

end Primitive

namespace Provider

open CompilationUnit

/-! ## Registries in order -/

/-- Symbols of the functions that the time takes, in the order in which they are made. -/
def timeSymbols (provider : Provider) : List Symbol :=
  (Primitive.currentTime provider.unit.name).symbols provider.clock

/-- Of the functions that the time takes, the first ones are registered, up to some place.  The
time is remembered only if it is registered. -/
structure Orderly (provider : Provider) : Prop where
  coherent : Coherent provider
  memoized : forall id, provider.currentTime = some id ->
    provider.registry.find? (Symbol.currentTime provider.unit.name) = some id
  inOrder : exists known unknown, provider.timeSymbols = known ++ unknown ∧
    (forall symbol, symbol ∈ known -> exists id, provider.registry.find? symbol = some id) ∧
      forall symbol, symbol ∈ unknown -> provider.registry.find? symbol = none

theorem orderly_start (unit : CompilationUnit) (config : Config) :
    Orderly (start unit config) where
  coherent := coherent_start unit config
  memoized := fun _ h => nomatch h
  inOrder := ⟨[], _, rfl, by simp, fun _ _ => rfl⟩

namespace Orderly

variable {before after : Provider} {plans : List Plan}

theorem onUnit (h : Orderly before) {unit : CompilationUnit} (hgrows : before.unit.Grows unit) :
    Orderly { before with unit := unit } where
  coherent := h.coherent.onUnit hgrows
  memoized := by
    rw [show ({ before with unit := unit } : Provider).unit.name = before.unit.name from
      hgrows.name]
    exact h.memoized
  inOrder := by
    rw [timeSymbols, show ({ before with unit := unit } : Provider).unit.name = before.unit.name
      from hgrows.name]
    exact h.inOrder

theorem logging (h : Orderly before) (log : Log) : Orderly (before.logging log) :=
  h.onUnit (Alike.appends ⟨log, rfl⟩).grows

/-- Of two beginnings of a list one is the longer one, and nothing behind it is in either. -/
theorem exists_split {all known unknown made : List Symbol} (hnodup : all.Nodup)
    (hsplit : all = known ++ unknown) (hmade : made <+: all) :
    exists first rest, all = first ++ rest ∧
      (forall symbol, symbol ∈ first -> symbol ∈ known ∨ symbol ∈ made) ∧
        forall symbol, symbol ∈ rest -> symbol ∈ unknown ∧ symbol ∉ made := by
  have hknown : known <+: all := ⟨unknown, hsplit.symm⟩
  rcases List.prefix_or_prefix_of_prefix hmade hknown with hwithin | ⟨more, hmore⟩
  · refine ⟨known, unknown, hsplit, fun symbol hsymbol => .inl hsymbol, ?_⟩
    intro symbol hsymbol
    refine ⟨hsymbol, fun hmem => ?_⟩
    rw [hsplit, List.nodup_append] at hnodup
    exact hnodup.right.right symbol (hwithin.subset hmem) symbol hsymbol rfl
  · rcases hmade with ⟨rest, hrest⟩
    refine ⟨made, rest, hrest.symm, fun symbol hsymbol => .inr hsymbol, ?_⟩
    intro symbol hsymbol
    constructor
    · rw [hsplit, ← hmore, List.append_assoc, List.append_cancel_left_eq] at hrest
      rw [← hrest]
      exact List.mem_append_right _ hsymbol
    · intro hmem
      rw [← hrest, List.nodup_append] at hnodup
      exact hnodup.right.right symbol hmem symbol hsymbol rfl

/-- Carrying out plans in the order of the time, or plans that the time does not take, keeps a
registry in order. -/
theorem obtains (h : Orderly before) (hobtains : Obtains before plans after)
    (hplans : (plans.map fun plan => plan.symbol) <+: before.timeSymbols ∨
      forall plan, plan ∈ plans -> plan.symbol ∉ before.timeSymbols) : Orderly after := by
  have happends := hobtains.appends
  have htime : after.timeSymbols = before.timeSymbols := by
    rw [timeSymbols, happends.unit.name, happends.clock, timeSymbols]
  refine ⟨hobtains.coherent h.coherent, ?_, ?_⟩
  · intro id hid
    rw [hobtains.currentTime] at hid
    rw [happends.unit.name]
    exact hobtains.find?_of_find? h.coherent (h.memoized id hid)
  · rcases h.inOrder with ⟨known, unknown, hsplit, hknown, hunknown⟩
    have hsplits : exists first rest, before.timeSymbols = first ++ rest ∧
        (forall symbol, symbol ∈ first ->
          symbol ∈ known ∨ symbol ∈ plans.map fun plan => plan.symbol) ∧
        forall symbol, symbol ∈ rest ->
          symbol ∈ unknown ∧ symbol ∉ plans.map fun plan => plan.symbol := by
      rcases hplans with hprefix | hapart
      · exact exists_split (Primitive.nodup_time _ _) hsplit hprefix
      · refine ⟨known, unknown, hsplit, fun symbol hsymbol => .inl hsymbol, ?_⟩
        intro symbol hsymbol
        refine ⟨hsymbol, fun hmem => ?_⟩
        rcases List.mem_map.mp hmem with ⟨plan, hplan, rfl⟩
        apply hapart plan hplan
        rw [hsplit]
        exact List.mem_append_right _ hsymbol
    rcases hsplits with ⟨first, rest, hall, hfirst, hrest⟩
    rw [htime]
    refine ⟨first, rest, hall, ?_, ?_⟩
    · intro symbol hsymbol
      rcases hfirst symbol hsymbol with hold | hnew
      · rcases hknown symbol hold with ⟨id, hid⟩
        exact ⟨id, hobtains.find?_of_find? h.coherent hid⟩
      · rcases List.mem_map.mp hnew with ⟨plan, hplan, rfl⟩
        exact hobtains.registered h.coherent plan hplan
    · intro symbol hsymbol
      rcases hrest symbol hsymbol with ⟨hfree, hother⟩
      rw [hobtains.find?_before]
      · exact hunknown symbol hfree
      · intro plan hplan heq
        exact hother (heq ▸ List.mem_map_of_mem hplan)

end Orderly

/-! ## Requests to providers in order -/

/-- What a request comes down to for a provider. -/
abbrev primitiveOf (provider : Provider) (wanted : Request) : Primitive :=
  wanted.primitive provider.config provider.unit.name

/-- Symbols of the functions that a request takes. -/
def symbolsOf (provider : Provider) (wanted : Request) : List Symbol :=
  (provider.primitiveOf wanted).symbols provider.clock

section Requests

variable {before after : Provider} {wanted : Request} {answer : Except Stop FuncId}

theorem owned_of_primitiveOf (provider : Provider) (wanted : Request) :
    forall other, provider.primitiveOf wanted = .currentTime other ->
      other = provider.unit.name := by
  intro other h
  cases wanted
  case currentTime =>
      cases h
      rfl
  all_goals cases h

theorem Coherent.symbolsOf_eq (h : Coherent before) (wanted : Request) :
    ((before.unit.plansOf (before.primitiveOf wanted)).map fun plan => plan.symbol) =
      before.symbolsOf wanted := by
  rw [plansOf, Primitive.symbols_of_plans, ← h.origin, symbolsOf]

theorem Orderly.obtains_within (h : Orderly before) {done : List Plan}
    (hobtains : Obtains before done after)
    (hdone : done <+: before.unit.plansOf (before.primitiveOf wanted)) : Orderly after := by
  have hsymbols := hdone.map fun plan => plan.symbol
  rw [h.coherent.symbolsOf_eq wanted] at hsymbols
  apply h.obtains hobtains
  rcases Primitive.symbols_cases (before.primitiveOf wanted) before.clock before.unit.name
    (owned_of_primitiveOf before wanted) with hwithin | ⟨_, hapart⟩
  · exact .inl (hsymbols.trans hwithin)
  · exact .inr fun plan hplan => hapart _ (hsymbols.subset (List.mem_map_of_mem hplan))

/-- The time may be remembered once its plans have been carried out. -/
theorem Orderly.remember (h : Orderly before) {first : List Plan} {last : Plan} {id : FuncId}
    (hobtains : Obtains before (before.unit.plansOf (.currentTime before.unit.name)) after)
    (hafter : Orderly after)
    (hplans : before.unit.plansOf (.currentTime before.unit.name) = first ++ [last])
    (hid : after.registry.find? last.symbol = some id) :
    Orderly { after with currentTime := some id } := by
  have happends := hobtains.appends
  have hlast : Symbol.currentTime before.unit.name = last.symbol :=
    Except.ok.inj (Primitive.symbol_of_last hplans)
  rw [← hlast, ← happends.unit.name] at hid
  have hclock : after.unit.HasClock after.clock := by
    intro symbol hsymbol
    have hmem : symbol ∈ before.symbolsOf .currentTime := by
      rw [happends.clock] at hsymbol
      exact List.mem_append_left _ hsymbol
    rw [← h.coherent.symbolsOf_eq .currentTime] at hmem
    rcases List.mem_map.mp hmem with ⟨plan, hplan, rfl⟩
    rcases hobtains.registered h.coherent plan hplan with ⟨found, hfound⟩
    exact ⟨found, hafter.coherent.registered _ _ hfound⟩
  have hname := hafter.coherent.registered _ _ hid
  refine ⟨hafter.coherent.remember hname hclock, ?_, hafter.inOrder⟩
  intro other hother
  cases hother
  exact hid

/-- Whatever is asked for, the registry stays in order. -/
theorem Orderly.serves (h : Orderly before) (hserves : Serves before wanted answer after) :
    Orderly after := by
  cases hserves with
  | unsupported _ => exact h
  | remembered _ _ => exact h
  | performed _ houtcome =>
      cases houtcome with
      | refused hplans hobtains hrefuses _ =>
          have hmiddle := h.obtains_within hobtains (hplans ▸ List.prefix_append _ _)
          rcases hrefuses.after with ⟨log, rfl⟩
          cases wanted
          all_goals exact hmiddle.logging log
      | @carried first last id after hplans hobtains hid =>
          have hafter := h.obtains_within hobtains List.prefix_rfl
          cases wanted
          case currentTime => exact h.remember hobtains hafter hplans hid
          all_goals exact hafter

/-! ## What a request leaves -/

/-- The time that a provider remembers under a symbol. -/
def memo? (provider : Provider) (symbol : Symbol) : Option FuncId :=
  if symbol = Symbol.currentTime provider.unit.name then provider.currentTime else none

/-- A request has stopped as the function of a symbol could not be made. -/
def Stopped (failed : Symbol) (stop : Stop) (after : Provider) : Prop :=
  exists plan cause before, plan.symbol = failed ∧ Refuses plan cause before after ∧
    stop.root = cause.root

/-- What a request preserves, whether it is answered or fails. -/
structure Preserves (before : Provider) (wanted : Request) (answer : Except Stop FuncId)
    (after : Provider) : Prop where
  /-- Every function keeps its number, name, linkage, signature and code. -/
  old : forall id declaration, before.unit.module.declaration? id = some declaration ->
    after.unit.module.declaration? id = some declaration
  /-- Every other function goes by a symbol of the request, and is registered under it. -/
  new : forall id declaration, before.unit.module.declaration? id = none ->
    after.unit.module.declaration? id = some declaration ->
      exists symbol, symbol ∈ before.symbolsOf wanted ∧ declaration.name = symbol.name ∧
        after.registry.find? symbol = some id
  answered : forall id, answer = .ok id ->
    exists symbol, (before.primitiveOf wanted).symbol = .ok symbol ∧
      after.unit.lookup? symbol.name = some id ∧ after.registry.find? symbol = some id
  /-- A request that is not supported does nothing.  Else it fails at one of its symbols, and
  nothing is remembered under that one and under those that would have come after it. -/
  failed : forall stop, answer = .error stop ->
    (exists fault, (before.primitiveOf wanted).symbol = .error fault ∧ stop = .fault fault ∧
      after = before) ∨
    exists done failed rest, before.symbolsOf wanted = done ++ failed :: rest ∧
      Stopped failed stop after ∧
        (forall symbol, symbol ∈ done -> exists id, after.registry.find? symbol = some id) ∧
          forall symbol, symbol ∈ failed :: rest ->
            after.registry.find? symbol = none ∧ after.memo? symbol = none

theorem unit_remembering (wanted : Request) (answer : Except Stop FuncId) (provider : Provider) :
    (remembering wanted answer provider).unit = provider.unit ∧
      (remembering wanted answer provider).registry = provider.registry := by
  cases wanted
  case currentTime =>
    cases answer
    · exact ⟨rfl, rfl⟩
    · exact ⟨rfl, rfl⟩
  all_goals exact ⟨rfl, rfl⟩

/-- Whatever a request ends in, it leaves what the first of its plans have come to. -/
theorem Serves.exists_obtains (h : Serves before wanted answer after) :
    exists done middle, done <+: before.unit.plansOf (before.primitiveOf wanted) ∧
      Obtains before done middle ∧ after.unit = middle.unit := by
  cases h with
  | unsupported _ => exact ⟨[], before, List.nil_prefix, .refl before, rfl⟩
  | remembered _ _ => exact ⟨[], before, List.nil_prefix, .refl before, rfl⟩
  | @performed answer middle _ houtcome =>
      have hunit := (unit_remembering wanted answer middle).left
      cases houtcome with
      | carried _ hobtains _ => exact ⟨_, middle, List.prefix_rfl, hobtains, hunit⟩
      | refused hplans hobtains hrefuses _ =>
          rcases hrefuses.after with ⟨log, rfl⟩
          exact ⟨_, _, hplans ▸ List.prefix_append _ _, hobtains.logging log, hunit⟩

/-- What comes after an element that is not among the first ones is not among them either. -/
theorem mem_of_later {all known unknown done rest : List Symbol} {failed : Symbol}
    (hsplit : all = known ++ unknown) (hwithin : done ++ failed :: rest <+: all)
    (hfailed : failed ∉ known) : forall symbol, symbol ∈ rest -> symbol ∈ unknown := by
  intro symbol hsymbol
  rcases hwithin with ⟨more, hmore⟩
  have hall : done ++ [failed] ++ (rest ++ more) = all := by
    rw [← hmore]
    simp
  have hknown : known <+: all := ⟨unknown, hsplit.symm⟩
  rcases List.prefix_or_prefix_of_prefix hknown ⟨_, hall⟩ with ⟨between, hbetween⟩ | hbeyond
  · rw [← hbetween, hsplit, List.append_assoc, List.append_cancel_left_eq] at hall
    rw [← hall]
    simp [hsymbol]
  · exact absurd (hbeyond.subset (by simp)) hfailed

/-- Nothing is registered for what would have come after a plan that is refused. -/
theorem Orderly.find?_of_refused (h : Orderly before) {done rest : List Symbol} {failed : Symbol}
    (hsymbols : (done ++ failed :: rest) <+: before.timeSymbols ∨ rest = [])
    (hfailed : before.registry.find? failed = none) :
    forall symbol, symbol ∈ failed :: rest ->
      before.registry.find? symbol = none ∧ before.memo? symbol = none := by
  have hunregistered : forall symbol, symbol ∈ failed :: rest ->
      before.registry.find? symbol = none := by
    intro symbol hsymbol
    rcases List.mem_cons.mp hsymbol with rfl | hrest
    · exact hfailed
    · rcases hsymbols with hwithin | hnil
      · rcases h.inOrder with ⟨known, unknown, hsplit, hknown, hunknown⟩
        apply hunknown
        refine mem_of_later hsplit hwithin ?_ symbol hrest
        intro hmem
        rcases hknown failed hmem with ⟨id, hid⟩
        rw [hfailed] at hid
        cases hid
      · rw [hnil] at hrest
        cases hrest
  intro symbol hsymbol
  refine ⟨hunregistered symbol hsymbol, ?_⟩
  unfold memo?
  split
  · rename_i htime
    cases hmemo : before.currentTime with
    | none => rfl
    | some id =>
        have hid := h.memoized id hmemo
        rw [← htime, hunregistered symbol hsymbol] at hid
        cases hid
  · rfl

/-- What carrying out plans of a request adds is registered under symbols of the request. -/
theorem Orderly.new_of_obtains (h : Orderly before) {plans : List Plan}
    (hobtains : Obtains before plans after)
    (hplans : plans <+: before.unit.plansOf (before.primitiveOf wanted)) :
    forall id declaration, before.unit.module.declaration? id = none ->
      after.unit.module.declaration? id = some declaration ->
        exists symbol, symbol ∈ before.symbolsOf wanted ∧ declaration.name = symbol.name ∧
          after.registry.find? symbol = some id := by
  intro id declaration hnone hsome
  rcases hobtains.declaration?_after h.coherent hsome with
    hold | ⟨plan, _, hplan, _, hyields, _, hfind⟩
  · rw [hnone] at hold
    cases hold
  · refine ⟨plan.symbol, ?_, hyields.name, hfind⟩
    rw [← h.coherent.symbolsOf_eq wanted]
    exact List.mem_map_of_mem (hplans.subset hplan)

theorem Orderly.preserves_carried (h : Orderly before) {first : List Plan} {last : Plan}
    {id : FuncId}
    (hplans : before.unit.plansOf (before.primitiveOf wanted) = first ++ [last])
    (hobtains : Obtains before (before.unit.plansOf (before.primitiveOf wanted)) after)
    (hid : after.registry.find? last.symbol = some id) :
    Preserves before wanted (.ok id) (remembering wanted (.ok id) after) := by
  rcases unit_remembering wanted (.ok id) after with ⟨hunit, hregistry⟩
  refine ⟨?_, ?_, ?_, by simp⟩
  · intro other declaration hold
    rw [hunit]
    exact hobtains.appends.unit.module.declaration? hold
  · rw [hunit, hregistry]
    exact h.new_of_obtains hobtains List.prefix_rfl
  · intro other hother
    cases hother
    rw [hunit, hregistry]
    have hname := (hobtains.coherent h.coherent).registered _ _ hid
    exact ⟨last.symbol, Primitive.symbol_of_last hplans, hname, hid⟩

theorem Orderly.preserves_refused (h : Orderly before) {done rest : List Plan} {failed : Plan}
    {stop cause : Stop} {middle : Provider}
    (hplans : before.unit.plansOf (before.primitiveOf wanted) = done ++ failed :: rest)
    (hobtains : Obtains before done middle) (hrefuses : Refuses failed cause middle after)
    (hroot : stop.root = cause.root) : Preserves before wanted (.error stop) after := by
  have hdone : done <+: before.unit.plansOf (before.primitiveOf wanted) :=
    hplans ▸ List.prefix_append _ _
  have hmiddle := h.obtains_within hobtains hdone
  have hsymbols := h.coherent.symbolsOf_eq wanted
  rw [hplans, List.map_append, List.map_cons] at hsymbols
  rcases hrefuses.after with ⟨log, rfl⟩
  refine ⟨?_, h.new_of_obtains (hobtains.logging log) hdone, by simp, ?_⟩
  · exact fun _ _ hold => hobtains.appends.unit.module.declaration? hold
  · intro other hother
    cases hother
    refine .inr ⟨_, failed.symbol, _, hsymbols.symm, ⟨failed, cause, middle, rfl, hrefuses, hroot⟩,
      ?_, ?_⟩
    · intro symbol hsymbol
      rcases List.mem_map.mp hsymbol with ⟨plan, hplan, rfl⟩
      exact hobtains.registered h.coherent plan hplan
    · have htime : middle.timeSymbols = before.timeSymbols := by
        rw [timeSymbols, hobtains.appends.unit.name, hobtains.appends.clock, timeSymbols]
      have hposition : (done.map fun plan => plan.symbol) ++ failed.symbol ::
          (rest.map fun plan => plan.symbol) <+: middle.timeSymbols ∨
            (rest.map fun plan => plan.symbol) = [] := by
        rcases Primitive.symbols_cases (before.primitiveOf wanted) before.clock before.unit.name
          (owned_of_primitiveOf before wanted) with hwithin | ⟨hown, _⟩
        · refine .inl ?_
          rw [hsymbols, htime]
          exact hwithin
        · -- The request takes one function only, so nothing would have come after it.
          refine .inr ?_
          rw [symbolsOf, hown] at hsymbols
          have hlength := congrArg List.length hsymbols
          cases hsymbol : (before.primitiveOf wanted).symbol with
          | error fault => simp [hsymbol, Except.toOption] at hlength
          | ok symbol =>
              simp only [hsymbol, Except.toOption, Option.toList_some, List.length_append,
                List.length_cons, List.length_nil] at hlength
              exact List.length_eq_zero_iff.mp (by omega)
      exact hmiddle.find?_of_refused hposition hrefuses.unregistered

theorem Orderly.preserves (h : Orderly before) (hserves : Serves before wanted answer after) :
    Preserves before wanted answer after := by
  have hnothing : forall id (declaration : Declaration),
      before.unit.module.declaration? id = none ->
        before.unit.module.declaration? id ≠ some declaration := by
    intro id declaration hnone hsome
    rw [hnone] at hsome
    cases hsome
  cases hserves with
  | unsupported hfault =>
      have hsymbol := Primitive.symbol_of_fault hfault
      refine ⟨fun _ _ hold => hold, fun _ _ hnone hsome => absurd hsome (hnothing _ _ hnone),
        by simp, ?_⟩
      intro stop hstop
      cases hstop
      exact .inl ⟨_, hsymbol, rfl, rfl⟩
  | remembered hwanted hmemo =>
      refine ⟨fun _ _ hold => hold, fun _ _ hnone hsome => absurd hsome (hnothing _ _ hnone),
        ?_, by simp⟩
      intro id hid
      cases hid
      rw [hwanted]
      exact ⟨_, rfl, h.coherent.remembered _ hmemo, h.memoized _ hmemo⟩
  | performed _ houtcome =>
      cases houtcome with
      | carried hplans hobtains hid => exact h.preserves_carried hplans hobtains hid
      | refused hplans hobtains hrefuses hroot =>
          have hpreserves := h.preserves_refused hplans hobtains hrefuses hroot
          cases wanted
          all_goals exact hpreserves

end Requests
end Provider

/-! ## Requests in a history -/

/-- If a provider has the module, its registry is in order. -/
def Holder.Orderly : Holder -> Prop
  | emitter _ => True
  | provider lent => lent.Orderly

theorem Holder.orderly_after {α : Type} {action : Action CompilationUnit α} {holder : Holder}
    (h : holder.Orderly) (hgrows : Action.Always CompilationUnit.Grows action) :
    (holder.after action).Orderly := by
  cases holder with
  | emitter unit => trivial
  | provider lent =>
      have hleaves : (Provider.onUnit action).leaves lent =
          { lent with unit := action.leaves lent.unit } :=
        Action.leaves_onPart action _ _ lent
      simp only [after, hleaves]
      exact Provider.Orderly.onUnit h (hgrows lent.unit)

theorem History.orderly {first : CompilationUnit} {services : List Service} {holder : Holder}
    (h : History first services holder) : holder.Orderly := by
  induction h with
  | start => trivial
  | serve _ wanted ih =>
      have hserves := ih.coherent.request_serves wanted
      exact ih.serves hserves
  | declare _ name sig ih =>
      exact Holder.orderly_after ih (CompilationUnit.always_declareImport name sig)
  | define _ name sig linkage body ih =>
      exact Holder.orderly_after ih (CompilationUnit.always_define name sig linkage body)
  | lend _ config _ => exact Provider.orderly_start _ config
  | rewrap _ data name target layout _ => trivial

/-- Whatever has happened to a module before, a request preserves what is there. -/
theorem History.request_preserves {first : CompilationUnit} {services : List Service}
    {provider : Provider} (h : History first services (.provider provider)) (wanted : Request) :
    provider.Preserves wanted ((Provider.request wanted).answer provider)
      ((Provider.request wanted).leaves provider) := by
  have horderly : provider.Orderly := h.orderly
  exact horderly.preserves (horderly.coherent.request_serves wanted)

/-- A data object has the name of the clock, so that the time cannot be had.  The performance
counters, which have been declared by then, are registered. -/
theorem History.request_preserves_taken :
    let unit := (CompilationUnit.ofModule .empty "unit"
      { os := .windows, intWidth := .unspecified } []).declareData "clock_gettime"
    let provider := Provider.start unit .standard
    let answer := (Provider.request .currentTime).answer provider
    let after := (Provider.request .currentTime).leaves provider
    answer = .error (.fault
        (.unresolved "clock_gettime" (.declaration "clock_gettime" .incompatibleDeclaration))) ∧
      after.registry.find? Symbol.queryFrequency = some { index := 1 } ∧
        provider.Preserves .currentTime answer after := by
  intro unit provider answer after
  have hlent : History unit [] (.provider provider) := History.start.lend .standard
  exact ⟨by decide +kernel, by decide +kernel, request_preserves hlent .currentTime⟩

end Provision
