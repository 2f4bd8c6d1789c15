import Provision.Proofs.Module.Returning
import Provision.Proofs.Script.Forwarding
import Provision.Proofs.Session.Definitions

/-!
# Calls in a session

A function that does nothing but call another one of its signature does what that one does, in every
program that the session can be linked to: wherever the other one has its code, in the module or
outside of it, and whenever it has got it.
-/

namespace Provision

/-! ## Programs -/

/-- In a program, a function does what another one does: it calls it once, with the arguments that
it was given in their order, and returns what that one returns, with memory as that one leaves
it. -/
structure Executable.Forwards {σ : Type} (program : Executable σ) (id callee : FuncId)
    (count : Nat) : Prop where
  runs : forall depth arguments world, arguments.length = count ->
    program.invoke (depth + 1) id arguments world =
      (program.invoke depth callee arguments world).map world.returned
  does : forall depth arguments world, arguments.length = count ->
    program.trace (depth + 1) id arguments world = [.call callee arguments]

/-- A function hands what it is given to a function outside of the module, and hands back the status
that it gets. -/
def Executable.Hands {σ : Type} (program : Executable σ) (id : FuncId) (kernel : HostFunction σ)
    (count : Nat) : Prop :=
  forall depth arguments world status after, arguments.length = count ->
    kernel.run arguments world = some ([.int .w32 status], after) ->
      program.invoke (depth + 2) id arguments world =
        some (world.returned ([.int .w32 status], after))

namespace Executable

variable {σ : Type} {program : Executable σ} {id callee : FuncId}

theorem forwards_of_forwarder {site : Site} {returns : List MachineType}
    {declaration : Declaration} (hbalanced : program.module.Balanced)
    (hid : program.procedure? id = some (Body.forwarder site callee returns))
    (hcallee : program.module.declaration? callee = some declaration)
    (hreturns : declaration.signature.returns = returns) :
    program.Forwards id callee site.signature.params.length where
  runs := by
    intro depth arguments world hcount
    rw [invoke_of_procedure hid]
    apply Body.run_forwarder hcount
    intro results after hrun
    rw [← hreturns]
    exact length_of_invoke hbalanced hcallee hrun
  does := by
    intro depth arguments world hcount
    rw [trace_of_procedure hid]
    exact Body.trace_forwarder hcount

end Executable

/-! ## Units -/

namespace CompilationUnit

variable {unit : CompilationUnit} {callee : FuncId} {sig : Signature} {params results : List String}

/-- What can be called with a signature, and the names that a body of this signature gives to its
parameters and to what the call returns. -/
structure Callable (unit : CompilationUnit) (callee : FuncId) (sig : Signature)
    (params results : List String) : Prop where
  callee : unit.module.signature? callee = some (unit.signature sig)
  params : params.Nodup ∧ params.length = sig.params.length
  results : results.Nodup ∧ results.length = sig.returns.toList.length

theorem Callable.procedure (h : unit.Callable callee sig params results) (name : String) :
    unit.procedure name sig (.forwarding callee params results) =
      .ok (Body.forwarder (unit.site sig) callee (unit.signature sig).returns) := by
  have hparams : params.length = (unit.site sig).signature.params.length := by
    rw [h.params.right]
    exact (List.length_map _).symm
  have hresults : results.length = (unit.signature sig).returns.length := by
    rw [h.results.right]
    exact (Lowering.signature_returns_length _ sig).symm
  have hbuild : ((Body.forwarding callee params results).build (unit.site sig)).1 =
      .ok (Body.forwarder (unit.site sig) callee (unit.signature sig).returns) :=
    Body.build_forwarding h.callee h.params.left hparams h.results.left hresults
  have hcheck : (Body.forwarder (unit.site sig) callee (unit.signature sig).returns).check
      unit.module.signature? = .ok true :=
    Body.check_forwarder h.callee
  unfold CompilationUnit.procedure
  rw [hbuild]
  simp only [hcheck, Body.fuse_forwarder]

theorem Callable.define (h : unit.Callable callee sig params results) {name : String}
    {linkage : Linkage} (hfree : unit.lookup? name = none) (hdata : name ∉ unit.module.data)
    (hlinkage : linkage.isDefinable = true) :
    (define name sig linkage (.forwarding callee params results)).answer unit =
      .ok { index := unit.module.functions.length } := by
  have hfits : StackSlot.fitFrame [] = true := by decide
  rw [Action.answer, define_of_free (h.procedure name) hfree hdata hlinkage hfits]

end CompilationUnit

/-! ## Kernels of a library -/

/-- A kernel of a library that has not been asked for, and whose name is free, is declared with its
signature. -/
theorem Provider.request_library {provider : Provider} {wanted : Kernel} {element : DataType}
    {symbol : Symbol} (hsymbol : wanted.symbol element .library = .ok symbol)
    (hregistry : provider.registry.find? symbol = none)
    (hfree : provider.unit.lookup? symbol.name = none)
    (hdata : symbol.name ∉ provider.unit.module.data) :
    exists after,
      request (.kernel wanted element (some .library)) provider =
          .ok { index := provider.unit.module.functions.length } after ∧
        after.unit.target = provider.unit.target ∧
          after.unit.module.declaration? { index := provider.unit.module.functions.length } =
            some { name := symbol.name, linkage := .imported,
                   signature := provider.unit.signature (wanted.signature element),
                   code := none } := by
  have hdeclare : CompilationUnit.declareImport symbol.name (wanted.signature element)
      provider.unit = _ :=
    CompilationUnit.declareImport_of_free hfree hdata
  have hmade := obtain_of_made hregistry hfree hdeclare
  have hrequest : request (.kernel wanted element (some .library)) provider =
      obtain symbol (CompilationUnit.declareImport symbol.name (wanted.signature element))
        provider := by
    simp only [request, Generic.request, Action.run_bind, Action.run_get, Option.getD_some,
      Generic.kernel, Generic.imported, hsymbol]
  exact ⟨_, hrequest.trans hmade, rfl, Module.declaration?_push_self _ _⟩

/-! ## Sessions -/

theorem Session.module_executable {σ : Type} (unit : CompilationUnit)
    (table : HostTable (HostFunction σ)) :
    (executable { unit := unit, table := table }).module = unit.module := rfl

theorem Session.table_executable {σ : Type} (unit : CompilationUnit)
    (table : HostTable (HostFunction σ)) :
    (executable { unit := unit, table := table }).table = table := rfl

namespace Holder

/-- Once a body has been defined, under whatever name, its function is one of the given ones in
every program that is linked in the end. -/
def Gives {σ : Type} (holder : Holder) (sig : Signature) (body : Body)
    (does : Executable σ -> FuncId -> Prop) : Prop :=
  forall function linkage id,
    (CompilationUnit.define function sig linkage body).answer holder.unit = .ok id ->
      forall last,
        (holder.after (CompilationUnit.define function sig linkage body)).Reaches last ->
          forall program : Executable σ, program.module = last.unit.module -> does program id

variable {holder : Holder} {callee : FuncId} {sig : Signature} {params results : List String}

theorem gives_forwarding (hbalanced : holder.unit.module.Balanced)
    (h : holder.unit.Callable callee sig params results) (σ : Type) :
    holder.Gives sig (.forwarding callee params results) fun (program : Executable σ) id =>
      program.Forwards id callee sig.params.length := by
  intro function linkage id hid last hlast program hprogram
  rcases CompilationUnit.defines_of_define hid with ⟨procedure, hprocedure, hdefines⟩
  rw [h.procedure] at hprocedure
  cases hprocedure
  have hstep := Holder.Step.define holder function sig linkage (.forwarding callee params results)
  have hpasses : holder.unit.Passes last.unit := hstep.passes.trans hlast.passes
  rw [← unit_after] at hdefines
  rcases (hdefines.keeps hlast.passes.keeps).declaration with ⟨kept, _, hcode⟩
  have hid : program.procedure? id =
      some (Body.forwarder (holder.unit.site sig) callee (holder.unit.signature sig).returns) := by
    rw [Executable.procedure?, hprogram, hcode]
    rfl
  have hsignature := h.callee
  rw [Module.signature?, Option.map_eq_some_iff] at hsignature
  rcases hsignature with ⟨old, hold, hsignature⟩
  rcases hpasses.keeps callee old hold with ⟨new, hnew, hkeeps⟩
  have hreturns : new.signature.returns = (holder.unit.signature sig).returns := by
    rw [hkeeps.signature, hsignature]
  have hcount : (holder.unit.site sig).signature.params.length = sig.params.length :=
    List.length_map _
  rw [← hcount]
  rw [← hprogram] at hnew
  apply Executable.forwards_of_forwarder _ hid hnew hreturns
  rw [hprogram]
  exact hpasses.balanced hbalanced

/-- A function that forwards to an import hands it what it is given. -/
theorem gives_handing {old : Declaration} (hbalanced : holder.unit.module.Balanced)
    (h : holder.unit.Callable callee sig params results)
    (hold : holder.unit.module.declaration? callee = some old)
    (hreturns : old.signature.returns = [.i32]) (σ : Type) :
    holder.Gives sig (.forwarding callee params results) fun (program : Executable σ) id =>
      program.procedure? callee = none -> forall kernel, program.binding? old.name = some kernel ->
        program.Hands id kernel sig.params.length := by
  intro function linkage id hid last hlast program hprogram hcode kernel hbinding depth arguments
    world status after hcount hkernel
  have hforwards := gives_forwarding hbalanced h σ function linkage id hid last hlast program
    hprogram
  have hstep := Holder.Step.define holder function sig linkage (.forwarding callee params results)
  have hpasses : holder.unit.Passes last.unit := hstep.passes.trans hlast.passes
  rcases hpasses.keeps callee old hold with ⟨new, hnew, hkeeps⟩
  rw [← hprogram] at hnew
  have hnone : new.code = none := by
    rw [Executable.procedure?, hnew] at hcode
    exact hcode
  have hname : program.binding? new.name = some kernel := by
    rw [hkeeps.name]
    exact hbinding
  have hstatus : new.signature.returns = [Scalar.int .w32 status].map Scalar.type := by
    rw [hkeeps.signature, hreturns]
    rfl
  rw [hforwards.runs (depth + 1) arguments world hcount,
    Executable.invoke_of_binding hnew hnone hname, hstatus, Convention.returning_types hkernel]
  rfl

end Holder

section Sessions

variable {σ : Type} {name : String} {target : Target} {table : HostTable (HostFunction σ)}
  {holder : Holder}

/-- Calls are transparent.  A body that passes its parameters to a function of its signature, and
returns what that returns, can be defined under every free name, and forwards to the function in
every program, wherever and whenever that function has got its code.

So the kernel of a library is handed whatever the caller passes, and the caller gets its status. -/
theorem Session.calls_forward (h : (Holder.emitter (start name target table).unit).Reaches holder) :
    (forall callee sig params results, holder.unit.Callable callee sig params results ->
      (forall function linkage, holder.unit.lookup? function = none ->
        function ∉ holder.unit.module.data -> linkage.isDefinable = true ->
          exists id, (CompilationUnit.define function sig linkage
            (.forwarding callee params results)).answer holder.unit = .ok id) ∧
      holder.Gives sig (.forwarding callee params results) fun (program : Executable σ) id =>
        program.Forwards id callee sig.params.length) ∧
    (forall provider wanted element symbol, holder = .provider provider ->
      wanted.symbol element .library = .ok symbol -> provider.registry.find? symbol = none ->
        provider.unit.lookup? symbol.name = none -> symbol.name ∉ provider.unit.module.data ->
          exists callee after,
            Provider.request (.kernel wanted element (some .library)) provider =
                .ok callee after ∧
              forall params result, params.Nodup ->
                params.length = (wanted.params element).length ->
                  after.unit.Callable callee (wanted.signature element) params [result] ∧
                    (Holder.provider after).Gives (wanted.signature element)
                      (.forwarding callee params [result])
                      fun (program : Executable σ) id =>
                        program.procedure? callee = none -> forall kernel,
                          program.binding? symbol.name = some kernel ->
                            program.Hands id kernel (wanted.params element).length) := by
  have hbalanced : holder.unit.module.Balanced :=
    h.passes.balanced Module.balanced_empty
  constructor
  · intro callee sig params results hcallable
    constructor
    · intro function linkage hfree hdata hlinkage
      exact ⟨_, hcallable.define hfree hdata hlinkage⟩
    · exact Holder.gives_forwarding hbalanced hcallable σ
  · rintro provider wanted element symbol rfl hsymbol hregistry hfree hdata
    rcases Provider.request_library hsymbol hregistry hfree hdata with
      ⟨after, hrun, htarget, hdeclared⟩
    refine ⟨_, after, hrun, ?_⟩
    intro params result hparams hcount
    have hserve := Holder.Step.serve provider (.kernel wanted element (some .library))
    rw [Action.leaves_of_ok hrun] at hserve
    have hsame : after.unit.signature = provider.unit.signature := by
      funext sig
      rw [CompilationUnit.signature, CompilationUnit.lowering, htarget]
      rfl
    have hcallable : after.unit.Callable { index := provider.unit.module.functions.length }
        (wanted.signature element) params [result] := by
      constructor
      · rw [Module.signature?, hdeclared, hsame]
        rfl
      · exact ⟨hparams, hcount⟩
      · exact ⟨List.nodup_singleton result, rfl⟩
    constructor
    · exact hcallable
    · exact @Holder.gives_handing (.provider after) _ _ _ _ _ (hserve.passes.balanced hbalanced)
        hcallable hdeclared rfl σ

/-- The product of a library, which here writes down what it is handed, is called with twelve
arguments. -/
theorem Session.calls_forward_gemv :
    let params := ["a", "b", "c", "d", "e", "f", "g", "h", "i", "j", "k", "l"]
    let sgemv : HostFunction (List (List Scalar)) := .ofProgram fun arguments world =>
      some ([.int .w32 7], { world with host := world.host ++ [arguments] })
    let first := start "unit" { os := .posix, intWidth := .unspecified }
      (.ofList [("cblas_sgemv", sgemv)])
    let lent := Provider.start first.unit .standard
    let request := Provider.request (.kernel .gemv .float32 (some .library))
    let after := request.leaves lent
    let callee : FuncId := { index := 0 }
    let define := CompilationUnit.define "call" (Kernel.gemv.signature .float32) .exported
      (.forwarding callee params ["status"])
    let last := (Holder.provider after).after define
    let program := Session.executable { unit := last.unit, table := first.table }
    (Holder.emitter first.unit).Reaches (.provider lent) ∧ request.answer lent = .ok callee ∧
      define.answer after.unit = .ok { index := 1 } ∧
        program.Forwards { index := 1 } callee 12 ∧ program.Hands { index := 1 } sgemv 12 := by
  intro params sgemv first lent request after callee define last program
  have hlend : (Holder.emitter first.unit).Reaches (.provider lent) :=
    Relation.ReflTransGen.single (.lend (.emitter first.unit) .standard)
  have hserve : (Holder.emitter first.unit).Reaches (.provider after) :=
    hlend.tail (.serve lent (.kernel .gemv .float32 (some .library)))
  have hcallee : request.answer lent = .ok callee := by
    decide +kernel
  have hid : define.answer after.unit = .ok { index := 1 } := by
    decide +kernel
  have hcode : (program.module.declaration? callee).bind Declaration.code = none := by
    decide +kernel
  have hlast : ((Holder.provider after).after define).Reaches last := .refl
  have hmodule : program.module = last.unit.module := module_executable last.unit first.table
  have htable : first.table.find? "cblas_sgemv" = some sgemv :=
    HostTable.find?_insert_self .empty "cblas_sgemv" sgemv
  have hbinding : program.binding? "cblas_sgemv" = some sgemv := by
    rw [Executable.binding?, table_executable, htable]
  have hsymbol : Kernel.symbol .gemv .float32 .library = .ok (.shared "cblas_sgemv") := by
    decide
  rcases (calls_forward hlend).right lent .gemv .float32 _ rfl hsymbol rfl (by decide +kernel)
      (by decide +kernel) with ⟨found, left, hrun, hkernel⟩
  have hrequest : request lent = .ok callee after := Action.eq_ok_of_answer hcallee
  have hsame : EStateM.Result.ok found left = .ok callee after := hrun.symm.trans hrequest
  injection hsame with hfound hleft
  rw [hfound, hleft] at hkernel
  rcases hkernel params "status" (by decide) rfl with ⟨hcallable, hgives⟩
  have hforwards := ((calls_forward hserve).left callee _ params ["status"] hcallable).right
  constructor
  · exact hlend
  · constructor
    · exact hcallee
    · constructor
      · exact hid
      · constructor
        · exact hforwards "call" .exported _ hid last hlast program hmodule
        · exact hgives "call" .exported _ hid last hlast program hmodule hcode sgemv hbinding

end Sessions
end Provision
