import Mathlib.Data.List.Nodup
import Provision.Request

/-!
# Primitives

What a request comes down to once its binding and the module are known.  Different primitives go by
different names, whatever the module is called.
-/

namespace Provision

inductive Primitive where
  | elementary (function : ElementaryFunction) (type : DataType)
  | kernel (kernel : Kernel) (element : DataType) (binding : Binding)
  | getThreads
  | setThreads
  | dot (element : DotElement) (module : String)
  | clock
  | currentTime (module : String)
  deriving DecidableEq, Repr

namespace Primitive

/-- The symbol of a primitive; there is none for a type that is not supported. -/
def symbol : Primitive -> Except Fault Symbol
  | elementary function type => function.symbol type
  | kernel wanted element binding => wanted.symbol element binding
  | getThreads => .ok Symbol.getThreads
  | setThreads => .ok Symbol.setThreads
  | dot element module => .ok (element.symbol module)
  | clock => .ok Symbol.clock
  | currentTime module => .ok (Symbol.currentTime module)

/-! ## Names that every module shares -/

/-- The primitives that do not depend on a module and that there is a symbol of. -/
def shared : List Primitive :=
  (ElementaryFunction.all.flatMap fun function =>
    [elementary function .float32, elementary function .float64]) ++
  ([Kernel.gemv, Kernel.gemm].flatMap fun wanted =>
    [kernel wanted .float32 .library, kernel wanted .float64 .library,
      kernel wanted .float32 .module, kernel wanted .float64 .module]) ++
  [getThreads, setThreads, clock]

/-- The operation of a module that a primitive is, with the name of the module. -/
def owned? : Primitive -> Option (String × String)
  | dot element module => some (module, element.operation)
  | currentTime module => some (module, "GetTime")
  | _ => none

theorem mem_shared {primitive : Primitive} {symbol : Symbol}
    (hsymbol : primitive.symbol = .ok symbol) (howned : primitive.owned? = none) :
    primitive ∈ shared := by
  cases primitive with
  | elementary function type =>
      cases type
      case float32 => cases function <;> decide
      case float64 => cases function <;> decide
      all_goals cases hsymbol
  | kernel wanted element binding =>
      cases element
      case float32 => cases wanted <;> cases binding <;> decide
      case float64 => cases wanted <;> cases binding <;> decide
      all_goals cases hsymbol
  | getThreads => decide
  | setThreads => decide
  | dot element module => cases howned
  | clock => decide
  | currentTime module => cases howned

theorem nodup_shared_symbols : (shared.map fun primitive => primitive.symbol.toOption).Nodup := by
  decide +kernel

/-! ## Names of a module's own -/

/-- The operations that every module has of its own. -/
def operations : List String :=
  [DotElement.float.operation, DotElement.int.operation, "GetTime"]

/-- How the name of an operation ends, whatever the module is called. -/
def ending (operation : String) : List Char :=
  ("_" ++ operation).toList

theorem suffix_of_ofModule {module operation : String} {symbol : Symbol}
    (h : Symbol.ofModule module operation = symbol) : ending operation <:+ symbol.name.toList := by
  refine ⟨module.toList, ?_⟩
  rw [← h, Symbol.ofModule, ending, ← String.toList_append, String.append_assoc]

theorem not_suffix_of_operation : forall x, x ∈ operations -> forall y, y ∈ operations -> x ≠ y ->
    ¬ ending x <:+ ending y := by
  decide +kernel

theorem not_suffix_of_shared : forall x, x ∈ operations -> forall primitive, primitive ∈ shared ->
    forall symbol, symbol ∈ primitive.symbol.toOption -> ¬ ending x <:+ symbol.name.toList := by
  decide +kernel

theorem ofModule_injective {m n x y : String} (hx : x ∈ operations) (hy : y ∈ operations)
    (h : Symbol.ofModule m x = Symbol.ofModule n y) : m = n ∧ x = y := by
  have hsame : x = y := by
    by_contra hne
    rcases List.suffix_or_suffix_of_suffix (suffix_of_ofModule h) (suffix_of_ofModule rfl) with
      hxy | hyx
    · exact not_suffix_of_operation x hx y hy hne hxy
    · exact not_suffix_of_operation y hy x hx (Ne.symm hne) hyx
  subst hsame
  have hname := congrArg Symbol.name h
  rw [Symbol.ofModule, Symbol.ofModule, String.append_left_inj, String.append_left_inj] at hname
  exact ⟨hname, rfl⟩

theorem mem_operations {primitive : Primitive} {owned : String × String}
    (howned : primitive.owned? = some owned) : owned.2 ∈ operations := by
  cases primitive with
  | dot element module =>
      cases howned
      cases element
      all_goals simp [operations]
  | currentTime module =>
      cases howned
      simp [operations]
  | _ => cases howned

theorem symbol_of_owned {primitive : Primitive} {owned : String × String}
    (howned : primitive.owned? = some owned) :
    primitive.symbol = .ok (.ofModule owned.1 owned.2) := by
  cases primitive with
  | dot element other =>
      cases howned
      rfl
  | currentTime other =>
      cases howned
      rfl
  | _ => cases howned

theorem eq_of_owned {a b : Primitive} {owned : String × String} (ha : a.owned? = some owned)
    (hb : b.owned? = some owned) : a = b := by
  cases a with
  | dot x m =>
      cases ha
      cases b with
      | dot y n =>
          cases x
          all_goals
            cases y
            all_goals simp_all [owned?, DotElement.operation]
      | currentTime n =>
          cases x
          all_goals simp [owned?, DotElement.operation] at hb
      | _ => cases hb
  | currentTime m =>
      cases ha
      cases b with
      | dot y n =>
          cases y
          all_goals simp [owned?, DotElement.operation] at hb
      | currentTime n =>
          cases hb
          rfl
      | _ => cases hb
  | _ => cases ha

theorem not_owned_of_shared {a b : Primitive} {symbol : Symbol} (ha : a.symbol = .ok symbol)
    (hb : b.symbol = .ok symbol) (hshared : a.owned? = none) : b.owned? = none := by
  cases howned : b.owned? with
  | none => rfl
  | some owned =>
      rw [symbol_of_owned howned] at hb
      have hends := suffix_of_ofModule (Except.ok.inj hb)
      have hmem : symbol ∈ a.symbol.toOption := by
        rw [ha]
        rfl
      exact absurd hends (not_suffix_of_shared owned.2 (mem_operations howned) a
        (mem_shared ha hshared) symbol hmem)

/-- Different primitives go by different names. -/
theorem symbol_injective {a b : Primitive} {symbol : Symbol} (ha : a.symbol = .ok symbol)
    (hb : b.symbol = .ok symbol) : a = b := by
  -- The names that every module shares are finitely many; a module's own end in their operation.
  cases hownedA : a.owned? with
  | none =>
      have hownedB := not_owned_of_shared ha hb hownedA
      refine List.inj_on_of_nodup_map nodup_shared_symbols (mem_shared ha hownedA)
        (mem_shared hb hownedB) ?_
      rw [ha, hb]
  | some owned =>
      cases hownedB : b.owned? with
      | none =>
          rw [not_owned_of_shared hb ha hownedB] at hownedA
          cases hownedA
      | some other =>
          rw [symbol_of_owned hownedA] at ha
          rw [symbol_of_owned hownedB, ← ha] at hb
          rcases ofModule_injective (mem_operations hownedB) (mem_operations hownedA)
            (Except.ok.inj hb) with ⟨hmodule, hoperation⟩
          have hsame : other = owned := Prod.ext hmodule hoperation
          rw [hsame] at hownedB
          exact eq_of_owned hownedA hownedB

end Primitive

/-- What a request comes down to for a provider of a module. -/
def Request.primitive (config : Config) (module : String) : Request -> Primitive
  | elementary function type => .elementary function type
  | kernel wanted element binding => .kernel wanted element (binding.getD config.binding)
  | getThreads => .getThreads
  | setThreads => .setThreads
  | dot element => .dot element module
  | clock => .clock
  | currentTime => .currentTime module

end Provision
