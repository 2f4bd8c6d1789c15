import Provision.Proofs.Module.Portable
import Provision.Proofs.Provider.Coherent
import Provision.Proofs.Provider.Primitive

/-!
# Plans

What a module gets for a primitive, planned ahead: names, linkages, signatures and bodies of the
functions that it takes.  The same function is planned alike whichever primitive it is for.
-/

namespace Provision

/-- What others know of a function. -/
structure Outline where
  symbol : Symbol
  linkage : Linkage
  sig : Signature
  deriving DecidableEq, Repr

/-- A function as providers make it.  The functions that its body calls go by their places among
the callees. -/
structure Plan extends Outline where
  body : Option Body
  callees : List Outline
  deriving DecidableEq, Repr

namespace Plan

def imported (symbol : Symbol) (sig : Signature) : Plan where
  symbol := symbol
  linkage := .imported
  sig := sig
  body := none
  callees := []

def simple (symbol : Symbol) (linkage : Linkage) (sig : Signature) (body : Body) : Plan where
  symbol := symbol
  linkage := linkage
  sig := sig
  body := some body
  callees := []

/-! ## Clocks -/

def queryCounter : Plan :=
  imported Symbol.queryCounter Routine.querySignature

def queryFrequency : Plan :=
  imported Symbol.queryFrequency Routine.querySignature

/-- The clock: declared where the C library has it, else defined over the performance counters. -/
def clock (origin : ClockOrigin) (layout : TimeLayout) : Plan :=
  match origin with
  | .posix => imported Symbol.clock (Routine.clockSignature layout)
  | .performanceCounter =>
      { symbol := Symbol.clock
        linkage := .internal
        sig := Routine.clockSignature layout
        body := some (Routine.counterClock { index := 0 } { index := 1 } layout)
        callees := [queryCounter.toOutline, queryFrequency.toOutline] }

def queries : ClockOrigin -> List Plan
  | .posix => []
  | .performanceCounter => [queryCounter, queryFrequency]

def currentTime (origin : ClockOrigin) (layout : TimeLayout) (module : String) : Plan where
  symbol := Symbol.currentTime module
  linkage := .exported
  sig := Routine.currentTimeSignature
  body := some (Routine.currentTime { index := 0 } layout)
  callees := [(clock origin layout).toOutline]

end Plan

/-! ## Plans of primitives -/

namespace Primitive

/-- The signature that a primitive is asked for with. -/
def sig (layout : TimeLayout) : Primitive -> Signature
  | elementary _ type => ElementaryFunction.signature type
  | kernel wanted element _ => wanted.signature element
  | getThreads => .query [] .native
  | setThreads => .command [.native]
  | dot element _ => element.signature
  | clock => Routine.clockSignature layout
  | currentTime _ => Routine.currentTimeSignature

section Plans

variable (origin : ClockOrigin) (layout : TimeLayout)

/-- The function that a primitive is; there is none for a type that is not supported. -/
def plan? : Primitive -> Option Plan
  | elementary function type =>
      match function.symbol type, function.instruction? with
      | .error _, _ => none
      | .ok symbol, none => some (.imported symbol (ElementaryFunction.signature type))
      | .ok symbol, some instruction =>
          some (.simple symbol .internal (ElementaryFunction.signature type)
            (Routine.wrapper instruction))
  | kernel wanted element binding =>
      match wanted.symbol element binding, binding with
      | .error _, _ => none
      | .ok symbol, .library => some (.imported symbol (wanted.signature element))
      | .ok symbol, .module =>
          some (.simple symbol .internal (wanted.signature element)
            (Routine.kernel wanted element))
  | getThreads => some (.imported Symbol.getThreads (.query [] .native))
  | setThreads => some (.imported Symbol.setThreads (.command [.native]))
  | dot element module =>
      some (.simple (element.symbol module) .exported element.signature (Routine.dot element.type))
  | clock => some (.clock origin layout)
  | currentTime module => some (.currentTime origin layout module)

/-- What a primitive takes, in the order in which it is made: itself, after a clock for the time
and the performance counters for a clock that is defined over them. -/
def plans (primitive : Primitive) : List Plan :=
  match primitive with
  | clock => Plan.queries origin ++ [.clock origin layout]
  | currentTime module =>
      Plan.queries origin ++ [.clock origin layout, .currentTime origin layout module]
  | other => (other.plan? origin layout).toList

end Plans

/-- The fault of a primitive that is not supported. -/
def fault? : Primitive -> Option Fault
  | elementary function type =>
      if type.isFloat then none else some (.unsupported function.name type)
  | kernel wanted element _ =>
      if element.isFloat then none else some (.unsupported wanted.name element)
  | _ => none

/-- How a primitive is answered: by a function, if it is supported. -/
def Answered (primitive : Primitive) (answer : Except Stop FuncId) : Prop :=
  match primitive.fault? with
  | some fault => answer = .error (.fault fault)
  | none => exists id, answer = .ok id

theorem symbol_of_fault {primitive : Primitive} {fault : Fault}
    (h : primitive.fault? = some fault) : primitive.symbol = .error fault := by
  cases primitive with
  | elementary function type =>
      cases type
      all_goals
        cases h
        try rfl
  | kernel wanted element binding =>
      cases element
      all_goals
        cases h
        try rfl
  | _ => cases h

theorem exists_symbol {primitive : Primitive} (h : primitive.fault? = none) :
    exists symbol, primitive.symbol = .ok symbol := by
  cases primitive with
  | elementary function type =>
      cases type
      case float32 => cases function <;> exact ⟨_, rfl⟩
      case float64 => cases function <;> exact ⟨_, rfl⟩
      all_goals cases h
  | kernel wanted element binding =>
      cases element
      case float32 => exact ⟨_, rfl⟩
      case float64 => exact ⟨_, rfl⟩
      all_goals cases h
  | _ => exact ⟨_, rfl⟩

variable {origin : ClockOrigin} {layout : TimeLayout} {plan : Plan}

/-- A plan of a primitive is of its symbol and its signature. -/
theorem of_plan {primitive : Primitive} (h : primitive.plan? origin layout = some plan) :
    primitive.symbol = .ok plan.symbol ∧ plan.sig = primitive.sig layout := by
  cases primitive with
  | elementary function type =>
      simp only [plan?] at h
      split at h
      · cases h
      · cases h
        exact ⟨by assumption, rfl⟩
      · cases h
        exact ⟨by assumption, rfl⟩
  | kernel wanted element binding =>
      simp only [plan?] at h
      split at h
      · cases h
      · cases h
        exact ⟨by assumption, rfl⟩
      · cases h
        exact ⟨by assumption, rfl⟩
  | clock =>
      cases h
      cases origin
      · exact ⟨rfl, rfl⟩
      · exact ⟨rfl, rfl⟩
  | _ =>
      cases h
      exact ⟨rfl, rfl⟩

theorem symbol_of_plan {primitive : Primitive} (h : primitive.plan? origin layout = some plan) :
    primitive.symbol = .ok plan.symbol :=
  (of_plan h).left

theorem mem_plans {primitive : Primitive} (h : plan ∈ primitive.plans origin layout) :
    plan ∈ Plan.queries origin ∨
      exists owner : Primitive, owner.plan? origin layout = some plan := by
  cases primitive with
  | elementary function type => exact .inr ⟨elementary function type, Option.mem_toList.mp h⟩
  | kernel wanted element binding =>
      exact .inr ⟨kernel wanted element binding, Option.mem_toList.mp h⟩
  | getThreads => exact .inr ⟨getThreads, Option.mem_toList.mp h⟩
  | setThreads => exact .inr ⟨setThreads, Option.mem_toList.mp h⟩
  | dot element module => exact .inr ⟨dot element module, Option.mem_toList.mp h⟩
  | clock =>
      rcases List.mem_append.mp h with hquery | hclock
      · exact .inl hquery
      · rw [List.mem_singleton.mp hclock]
        exact .inr ⟨clock, rfl⟩
  | currentTime module =>
      rcases List.mem_append.mp h with hquery | hlast
      · exact .inl hquery
      · rcases List.mem_cons.mp hlast with rfl | htime
        · exact .inr ⟨clock, rfl⟩
        · rw [List.mem_singleton.mp htime]
          exact .inr ⟨currentTime module, rfl⟩

/-- A primitive takes the function that it is. -/
theorem mem_plans_of_plan {primitive : Primitive} (h : primitive.plan? origin layout = some plan) :
    plan ∈ primitive.plans origin layout := by
  cases primitive with
  | clock =>
      cases h
      exact List.mem_append_right _ (List.mem_singleton_self _)
  | currentTime module =>
      cases h
      exact List.mem_append_right _ (List.mem_cons_of_mem _ (List.mem_singleton_self _))
  | _ => exact Option.mem_toList.mpr h

theorem fault_of_plan {primitive : Primitive} (h : primitive.plan? origin layout = some plan) :
    primitive.fault? = none := by
  cases hfault : primitive.fault? with
  | none => rfl
  | some fault =>
      have hsymbol := symbol_of_plan h
      rw [symbol_of_fault hfault] at hsymbol
      cases hsymbol

theorem fault_of_mem_plans {primitive : Primitive} (h : plan ∈ primitive.plans origin layout) :
    primitive.fault? = none := by
  cases primitive with
  | elementary function type => exact fault_of_plan (Option.mem_toList.mp h)
  | kernel wanted element binding => exact fault_of_plan (Option.mem_toList.mp h)
  | _ => rfl

end Primitive

/-! ## One plan for each symbol -/

namespace Plan

theorem mem_queries {origin : ClockOrigin} {plan : Plan} (h : plan ∈ queries origin) :
    plan = queryCounter ∨ plan = queryFrequency := by
  cases origin with
  | posix => cases h
  | performanceCounter => simpa [queries] using h

theorem not_suffix_of_query : forall operation, operation ∈ Primitive.operations ->
    forall plan, plan ∈ [queryCounter, queryFrequency] ->
      ¬ Primitive.ending operation <:+ plan.symbol.name.toList := by
  decide +kernel

theorem query_not_shared : forall plan, plan ∈ [queryCounter, queryFrequency] ->
    forall primitive, primitive ∈ Primitive.shared ->
      primitive.symbol.toOption ≠ some plan.symbol := by
  decide +kernel

theorem query_ne_primitive {origin : ClockOrigin} {plan : Plan} (h : plan ∈ queries origin)
    (primitive : Primitive) : primitive.symbol ≠ .ok plan.symbol := by
  have hquery : plan ∈ [queryCounter, queryFrequency] := by simpa using mem_queries h
  intro hsymbol
  cases howned : primitive.owned? with
  | none =>
      apply query_not_shared plan hquery primitive (Primitive.mem_shared hsymbol howned)
      rw [hsymbol]
      rfl
  | some owned =>
      rw [Primitive.symbol_of_owned howned] at hsymbol
      exact not_suffix_of_query owned.2 (Primitive.mem_operations howned) plan hquery
        (Primitive.suffix_of_ofModule (Except.ok.inj hsymbol))

/-- A plan that a primitive takes. -/
def Regular (origin : ClockOrigin) (layout : TimeLayout) (plan : Plan) : Prop :=
  exists primitive : Primitive, plan ∈ primitive.plans origin layout

/-- The same function is planned alike whatever takes it. -/
theorem Regular.eq_of_symbol {origin : ClockOrigin} {layout : TimeLayout} {plan other : Plan}
    (hplan : Regular origin layout plan) (hother : Regular origin layout other)
    (h : plan.symbol = other.symbol) : plan = other := by
  rcases hplan with ⟨primitive, hmem⟩
  rcases hother with ⟨second, hmemOther⟩
  rcases Primitive.mem_plans hmem with hquery | ⟨owner, howner⟩
  · rcases Primitive.mem_plans hmemOther with hqueryOther | ⟨owner, howner⟩
    · rcases mem_queries hquery with rfl | rfl
      · rcases mem_queries hqueryOther with rfl | rfl
        · rfl
        · exact absurd h (by decide +kernel)
      · rcases mem_queries hqueryOther with rfl | rfl
        · exact absurd h (by decide +kernel)
        · rfl
    · exact absurd (h ▸ Primitive.symbol_of_plan howner) (query_ne_primitive hquery owner)
  · rcases Primitive.mem_plans hmemOther with hqueryOther | ⟨ownerOther, hownerOther⟩
    · exact absurd (h ▸ Primitive.symbol_of_plan howner) (query_ne_primitive hqueryOther owner)
    · have hsymbol := Primitive.symbol_of_plan howner
      rw [h] at hsymbol
      have hsame := Primitive.symbol_injective hsymbol (Primitive.symbol_of_plan hownerOther)
      rw [hsame, hownerOther] at howner
      exact (Option.some.inj howner).symm

end Plan
end Provision
