import Provision.Proofs.Module.Declaring
import Provision.Proofs.Code.Trace
import Provision.Proofs.Script.Emitting

/-!
# Bodies that forward

A body that forwards passes its parameters to another function, in their order, and returns what
that returns.  Whatever the signature, it is emitted to a single call, which fits.
-/

namespace Provision
namespace Body

/-! ## The body -/

/-- Gives names to the parameters from a place on. -/
def naming (first : Nat) (params : List String) : List Step :=
  (params.zipIdx first).map fun (name, index) => .param name index

/-- Passes its parameters to a function and returns what that returns; the parameters and the
results go by the given names. -/
def forwarding (callee : FuncId) (params results : List String) : Body where
  script := .ofSteps (naming 0 params ++ [.call results callee params])
  returns := results

theorem locals_naming (first : Nat) (params : List String) (rest : Script) :
    Script.locals (.prepend (naming first params) rest) = rest.locals := by
  induction params generalizing first with
  | nil => rfl
  | cons name params ih => exact ih (first + 1)

/-! ## Emission -/

variable {site : Site}

/-- Naming parameters emits nothing. -/
theorem emit_naming {first : Nat} {params : List String}
    (hle : first + params.length ≤ site.signature.params.length) (rest : Script)
    {builder : Builder} (hpending : builder.pending = []) :
    Region.emit site (.prepend (naming first params) rest) builder =
      Region.emit site rest
        { builder with
          names := (params.zip (List.range' first params.length)).reverse ++ builder.names } := by
  induction params generalizing first builder with
  | nil => rfl
  | cons name params ih =>
      rw [List.length_cons] at hle
      have hlt : first < site.signature.params.length := by omega
      have hmore : first + 1 + params.length ≤ site.signature.params.length := by omega
      let named : Builder := { builder with names := (name, first) :: builder.names }
      have hstep : (Step.param name first).emit site builder = .ok ⟨⟩ named := by
        simp only [Step.emit, if_pos hlt]
        rfl
      have hquiet : named.pending = [] := hpending
      have hsame : { named with pending := [] } = named := by
        rw [← hquiet]
      have hcons : naming first (name :: params) =
          .param name first :: naming (first + 1) params := rfl
      have hnamed : ({ named with
          names := (params.zip (List.range' (first + 1) params.length)).reverse ++ named.names } :
            Builder) =
          { builder with
            names := ((name :: params).zip (List.range' first (name :: params).length)).reverse ++
              builder.names } := by
        simp [named, List.range'_succ]
      rw [hcons, Region.prepend_cons, Region.emit_step hstep, hsame, ih hmore hquiet, hnamed,
        hquiet]
      cases Region.emit site rest _ with
      | ok code after => rfl
      | error stop after => rfl

section Emission

variable {callee : FuncId} {signature : MachineSignature} {params results : List String}

/-- Whatever distinct names the parameters and the results go by, a call is emitted. -/
theorem emit_forwarding (hcallee : site.signatureOf? callee = some signature)
    (hparams : params.Nodup) (hcount : params.length = site.signature.params.length)
    (hresults : results.Nodup) (hreturned : results.length = signature.returns.length) :
    let arguments := List.range' 0 site.signature.params.length
    let returned := List.range' site.signature.params.length signature.returns.length
    exists after, (forwarding callee params results).emit site
        (Builder.start site.signature.params []) =
          .ok (.step (.call returned callee arguments) .done, returned) after ∧
      after.uses = [] ∧ after.slots = [] := by
  intro arguments returned
  let start := Builder.start site.signature.params []
  let named : Builder := { start with names := (params.zip arguments).reverse ++ start.names }
  let called : Builder :=
    { named with
      types := named.types ++ signature.returns
      names := (results.zip returned).reverse ++ named.names
      pending := [.call returned callee arguments]
      notes := [.results signature.returns.length] }
  have harguments : Emit.valuesOf params named = .ok arguments named := by
    apply Emit.run_valuesOf
    apply Emit.forall₂_lookup_bound hparams
    rw [hcount, List.length_range']
  have hcalled : (Step.call results callee params).emit site named = .ok ⟨⟩ called := by
    have htypes : named.types.length = site.signature.params.length := by
      simp [named, start, Builder.start]
    simp only [Step.emit, Action.run_bind, harguments, Emit.call, hcallee, Emit.run_freshAll,
      Emit.run_append, Action.run_pure, Emit.note, Action.run_modify, Emit.run_bindAll, htypes,
      List.length_range']
    rfl
  have hreturns : Emit.valuesOf results { called with pending := [] } =
      .ok returned { called with pending := [] } := by
    apply Emit.run_valuesOf
    apply Emit.forall₂_lookup_bound hresults
    rw [hreturned, List.length_range']
  have hcode : Region.emit site (forwarding callee params results).script start =
      .ok (.step (.call returned callee arguments) .done) { called with pending := [] } := by
    have hscript : (forwarding callee params results).script =
        .prepend (naming 0 params) (.step (.call results callee params) .done) :=
      Region.prepend_append _ _ _
    have hnamed : ({ start with
        names := (params.zip (List.range' 0 params.length)).reverse ++ start.names } : Builder) =
          named := by
      rw [hcount]
    rw [hscript, emit_naming (by omega) _ rfl, hnamed, Region.emit_step hcalled]
    rfl
  exists { called with pending := [] }
  constructor
  · exact emit_of_script hcode hreturns
  · exact ⟨rfl, rfl⟩

/-- The procedure that a forwarding body is emitted to. -/
def forwarder (site : Site) (callee : FuncId) (returns : List MachineType) : Procedure :=
  let arguments := List.range' 0 site.signature.params.length
  let returned := List.range' site.signature.params.length returns.length
  { signature := site.signature
    slots := []
    code := .step (.call returned callee arguments) .done
    results := returned
    near := [callee].filter site.isFinal }

theorem build_forwarding (hcallee : site.signatureOf? callee = some signature)
    (hparams : params.Nodup) (hcount : params.length = site.signature.params.length)
    (hresults : results.Nodup) (hreturned : results.length = signature.returns.length) :
    ((forwarding callee params results).build site).1 =
      .ok (forwarder site callee signature.returns) := by
  have hlocals : (forwarding callee params results).locals site = [] := by
    have hscript : (forwarding callee params results).script =
        .prepend (naming 0 params) (.step (.call results callee params) .done) :=
      Region.prepend_append _ _ _
    rw [locals, hscript, locals_naming]
    rfl
  have hresolve : Demand.empty.resolve = id := rfl
  have hzeros : (forwarding callee params results).zeros site .empty = [] := by
    rw [zeros, hlocals]
    rfl
  rcases emit_forwarding hcallee hparams hcount hresults hreturned with
    ⟨after, hemit, huses, hslots⟩
  rw [build, hlocals, hemit]
  -- There is no loop, so that nothing is pruned.
  have hdemand : forall code : Code, Demand.ofUses code.carried after.uses = .empty := by
    intro code
    rw [huses]
    rfl
  simp only [procedure, hdemand, hzeros, hresolve, hslots, Region.prune, Instruction.rename,
    List.map_id, Region.prepend_nil]
  rfl

end Emission
end Body

/-! ## The check -/

/-- Values that are in scope with some types are not missing and have these types. -/
theorem Scope.of_lookup {scope : Scope} {values : List ValueId} {types : List MachineType}
    (h : List.Forall₂ (fun value type => scope.values.lookup value = some type) values types) :
    scope.missing? values = none ∧ values.map scope.typeOf = types := by
  induction h with
  | nil => exact ⟨rfl, rfl⟩
  | @cons value type values types hvalue _ ih =>
      constructor
      · rw [missing?, List.find?_cons, contains, hvalue]
        exact ih.left
      · rw [List.map_cons, ih.right, typeOf, hvalue]
        rfl

/-- A procedure whose results have the declared types is accepted if all operands fit. -/
theorem Procedure.check_of_code {procedure : Procedure}
    {signatureOf? : FuncId -> Option MachineSignature} {scope : Scope}
    (hcode : procedure.code.check (procedure.surroundings signatureOf?)
      { values := procedure.parameters, fits := true } = .ok scope)
    (hresults : scope.missing? procedure.results = none)
    (htypes : procedure.results.map scope.typeOf = procedure.signature.returns) :
    procedure.check signatureOf? = .ok scope.fits := by
  simp only [check, hcode, hresults, htypes, beq_self_eq_true, Bool.and_true]

namespace Body

/-- The call fits a callee of the same signature. -/
theorem check_forwarder {site : Site} {callee : FuncId}
    {signatureOf? : FuncId -> Option MachineSignature}
    (hcallee : signatureOf? callee = some site.signature) :
    (forwarder site callee site.signature.returns).check signatureOf? = .ok true := by
  let arguments := List.range' 0 site.signature.params.length
  let returned := List.range' site.signature.params.length site.signature.returns.length
  let start : Scope := { values := arguments.zip site.signature.params, fits := true }
  let scope : Scope := { start with values := returned.zip site.signature.returns ++ start.values }
  have harguments : start.missing? arguments = none ∧
      arguments.map start.typeOf = site.signature.params := by
    apply Scope.of_lookup
    have hlookup := Association.forall₂_lookup_zip List.nodup_range'
      (List.length_range' : arguments.length = site.signature.params.length) []
    rw [List.append_nil] at hlookup
    exact hlookup
  have hreturned : scope.missing? returned = none ∧
      returned.map scope.typeOf = site.signature.returns :=
    Scope.of_lookup (Association.forall₂_lookup_zip List.nodup_range' List.length_range' _)
  let procedure := forwarder site callee site.signature.returns
  have hcall : (Instruction.call returned callee arguments).check
      (procedure.surroundings signatureOf?) start = .ok scope := by
    have hlength : returned.length = site.signature.returns.length := List.length_range'
    simp only [Instruction.check, Instruction.operands, harguments.left,
      Instruction.brokenConstant?, Instruction.fits, Instruction.resultTypes,
      Procedure.surroundings, hcallee, harguments.right, hlength, beq_self_eq_true, Bool.and_true,
      Scope.require, Scope.bind]
    rfl
  have hstart : ({ values := procedure.parameters, fits := true } : Scope) = start := by
    rw [Procedure.parameters, List.range_eq_range']
    rfl
  have hcode : procedure.code.check (procedure.surroundings signatureOf?) start = .ok scope := by
    show (do
      let scope ← (Instruction.call returned callee arguments).check
        (procedure.surroundings signatureOf?) start
      Region.check (procedure.surroundings signatureOf?) .done scope) = _
    rw [hcall]
    rfl
  rw [← hstart] at hcode
  exact Procedure.check_of_code hcode hreturned.left hreturned.right

/-- Running the machine's code is running the call: there is no load to fuse with anything. -/
theorem fuse_forwarder (site : Site) (callee : FuncId) (returns : List MachineType) :
    (forwarder site callee returns).fuse = forwarder site callee returns := rfl

end Body

/-! ## Runs -/

/-- What a call leaves to its caller: the stack is as the caller had it. -/
def World.returned {σ : Type} (caller : World σ) (outcome : List Scalar × World σ) :
    List Scalar × World σ :=
  (outcome.1, { outcome.2 with stack := caller.stack })

namespace Body

section Runs

variable {σ : Type} {site : Site} {callee : FuncId} {returns : List MachineType}
  {invoke : FuncId -> Behaviour σ} {arguments : List Scalar} {world : World σ}

theorem mapM_arguments (slots : List Memory.Address)
    (hcount : arguments.length = site.signature.params.length) :
    (List.range' 0 site.signature.params.length).mapM (Frame.start arguments slots).value? =
      some arguments := by
  have hlookup := Association.forall₂_lookup_zip List.nodup_range'
    (List.length_range' : (List.range' 0 arguments.length).length = arguments.length) []
  rw [List.append_nil, ← List.range_eq_range'] at hlookup
  rw [← hcount, ← List.range_eq_range']
  exact mapM_eq_some_iff.mpr hlookup

/-- The function is called once, with the arguments in their order, and nothing else is done. -/
theorem trace_forwarder (hcount : arguments.length = site.signature.params.length) :
    (forwarder site callee returns).trace invoke arguments world = [.call callee arguments] := by
  simp only [Procedure.trace, forwarder, Region.trace, Instruction.effect?, mapM_arguments _ hcount,
    Option.bind_eq_bind, Option.bind_some, Option.toList_some]
  split
  · rfl
  · rfl

theorem run_forwarder (hcount : arguments.length = site.signature.params.length)
    (hreturned : forall results after, invoke callee arguments world = some (results, after) ->
      results.length = returns.length) :
    (forwarder site callee returns).run invoke arguments world =
      (invoke callee arguments world).map world.returned := by
  have hbottom : StackSlot.bottom [] world.stack = world.stack := by
    have hsize : StackSlot.frameSize [] = 0 := by decide
    simp [StackSlot.bottom, hsize]
  simp only [Procedure.run, forwarder, Region.run, Instruction.run, mapM_arguments _ hcount,
    hbottom, Option.bind_eq_bind, Option.bind_some]
  cases hcall : invoke callee arguments world with
  | none => rfl
  | some outcome =>
      rcases outcome with ⟨results, after⟩
      have hresults : (List.range' site.signature.params.length returns.length).mapM
          ((Frame.start arguments (StackSlot.addresses [] world.stack)).bindAll
            (List.range' site.signature.params.length returns.length) results).value? =
              some results := by
        apply mapM_eq_some_iff.mpr
        apply Association.forall₂_lookup_zip List.nodup_range'
        rw [List.length_range', hreturned results after hcall]
      simp only [Option.bind_some, hresults, Option.map_some, World.returned]

end Runs

end Body
end Provision
