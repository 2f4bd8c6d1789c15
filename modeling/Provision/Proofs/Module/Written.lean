import Provision.Module.CompilationUnit
import Provision.Proofs.Code.Trading
import Provision.Proofs.Script.Running

/-!
# Functions as they are written

The code that a unit accepts for a body does what the body says.  The loops of the body count from
zero up to their bounds, so this is what their code does too.
-/

namespace Provision

/-! ## Passes in turn -/

namespace Script

variable {σ : Type} (body : Scene σ -> Option (Scene σ)) (counter : String) (width : Width)

theorem passes_succ (count : Nat) (scene : Scene σ) :
    passes body counter width (count + 1) scene =
      (passes body counter width count scene).bind fun state =>
        pass body counter width scene state count := by
  simp only [passes, List.range_succ, List.foldlM_append, List.foldlM_cons, List.foldlM_nil,
    bind_pure]
  rfl

/-- The passes come to their end unless one of them does not. -/
theorem exists_of_passes_eq_none {count : Nat} {scene : Scene σ}
    (h : passes body counter width count scene = none) :
    exists i state, i < count ∧ passes body counter width i scene = some state ∧
      pass body counter width scene state i = none := by
  induction count with
  | zero => cases h
  | succ count ih =>
      rw [passes_succ, Option.bind_eq_none_iff] at h
      cases hbefore : passes body counter width count scene with
      | none =>
          rcases ih hbefore with ⟨i, state, hi, hstate, hpass⟩
          exact ⟨i, state, Nat.lt_succ_of_lt hi, hstate, hpass⟩
      | some state =>
          exact ⟨count, state, Nat.lt_succ_self count, hbefore, h state hbefore⟩

end Script

/-! ## Functions -/

/-- Counted loops run exactly as they are written.  A function that is made of a body does in every
call what the body says.  It says that a loop makes a pass for each number from zero up to its
bound, which a counter of the same type reaches without wrapping, and none if the bound is not above
zero; that the locals are handed on from pass to pass and to what comes after; and that the loop
ends unless one of its passes does not.

With its loads fused, as a module has it, the function still does so in every call that comes to no
sum and to no product of two operands that are both not a number.

What a loop's body binds to a name has no meaning after the loop, which may have made no pass. -/
theorem CompilationUnit.runs_as_written {unit : CompilationUnit} {name : String} {sig : Signature}
    {body : Body} {procedure : Procedure} (hmade : unit.procedure name sig body = .ok procedure)
    (hscoped : body.isScoped unit.module.signature? = true) :
    (exists emitted, (body.build (unit.site sig)).1 = .ok emitted ∧ emitted.fuse = procedure ∧
      forall {σ : Type} (invoke : FuncId -> Behaviour σ) arguments world,
        CallsFit unit.module.signature? invoke ->
          arguments.map Scalar.type = (unit.signature sig).params ->
            emitted.run invoke arguments world = body.run unit.lowering invoke arguments world ∧
              (emitted.Calm invoke arguments world ->
                procedure.run invoke arguments world =
                  body.run unit.lowering invoke arguments world)) ∧
    forall {σ : Type} (pass : Scene σ -> Option (Scene σ)) counter width (bound : BitVec width.bits)
      scene,
        let count := bound.toInt.toNat
        (bound.toInt ≤ 0 -> Script.passes pass counter width count scene = some scene) ∧
          (forall i, i ≤ count -> (BitVec.ofNat width.bits i).toInt = i) ∧
          (Script.passes pass counter width count scene = none ->
            exists i state, i < count ∧ Script.passes pass counter width i scene = some state ∧
              Script.pass pass counter width scene state i = none) := by
  constructor
  · rcases procedure_eq_ok hmade with ⟨emitted, hbuild, hcheck, hfused⟩
    refine ⟨emitted, hbuild, hfused.symm, ?_⟩
    intro σ invoke arguments world hcalls harguments
    have hrun := Body.run_build hbuild hcheck rfl hscoped hcalls harguments world
    refine ⟨hrun, ?_⟩
    intro hcalm
    rw [hfused, Procedure.run_fuse hcalm]
    exact hrun
  · intro σ pass counter width bound scene count
    constructor
    · intro hbound
      have hnone : count = 0 := Int.toNat_of_nonpos hbound
      rw [hnone]
      rfl
    · constructor
      · intro i hi
        exact toInt_ofNat_of_le hi
      · exact Script.exists_of_passes_eq_none pass counter width

/-- The numbers below each number below a bound are summed up, and each sum is stored where its last
number says. -/
theorem CompilationUnit.runs_as_written_nested :
    let unit := ofModule .empty "unit" { os := .posix, intWidth := .unspecified } []
    let sig : Signature := { params := [.pointerTo .int32, .int32], returns := some .int32 }
    let body : Body :=
      { script :=
          .step (.param "place" 0) <| .step (.param "n" 1) <| .step (.zero "zero" .int32) <|
          .step (.newLocal "sum" .int32 "zero") <|
          Script.countUp "n" "i"
            (Script.countUp "i" "j"
              (.step (.readLocal "before" "sum") <| .step (.add "after" .int32 "before" "j") <|
                .step (.assignLocal "sum" "after") <|
                .step (.storeAt .int32 "place" "j" "after") .done)
              .done) <|
          .step (.readLocal "result" "sum") .done
        returns := ["result"] }
    body.isScoped unit.module.signature? = true ∧
      exists procedure emitted, unit.procedure "sums" sig body = .ok procedure ∧
        (body.build (unit.site sig)).1 = .ok emitted ∧ emitted.fuse = procedure ∧
          forall world : World Unit,
            emitted.run (fun _ _ _ => none) [.int .w64 4096, .int .w32 3] world =
                body.run unit.lowering (fun _ _ _ => none) [.int .w64 4096, .int .w32 3] world ∧
              procedure.run (fun _ _ _ => none) [.int .w64 4096, .int .w32 3] world =
                body.run unit.lowering (fun _ _ _ => none) [.int .w64 4096, .int .w32 3] world := by
  intro unit sig body
  have hscoped : body.isScoped unit.module.signature? = true := by
    decide +kernel
  have hmade : (unit.procedure "sums" sig body).isOk = true := by
    decide +kernel
  have hintegers : (body.build (unit.site sig)).1.toOption.all (fun emitted =>
      emitted.code.instructions.all fun instruction => !instruction.mayTrade) = true := by
    decide +kernel
  cases hprocedure : unit.procedure "sums" sig body with
  | error stop =>
      rw [hprocedure] at hmade
      cases hmade
  | ok procedure =>
      rcases (runs_as_written hprocedure hscoped).left with ⟨emitted, hbuild, hfused, hruns⟩
      refine ⟨hscoped, procedure, emitted, rfl, hbuild, hfused, ?_⟩
      rw [hbuild] at hintegers
      intro world
      have hcalm : emitted.Calm (fun _ _ _ => none) [.int .w64 4096, .int .w32 3] world := by
        apply Region.calm_of_mayTrade
        intro instruction hmem
        simpa using List.all_eq_true.mp hintegers instruction hmem
      have hcalls : CallsFit unit.module.signature? fun _ _ (_ : World Unit) => none := by
        intro callee signature arguments results before after _ _ hanswer
        cases hanswer
      rcases hruns _ [.int .w64 4096, .int .w32 3] world hcalls rfl with ⟨hemitted, hfusedRun⟩
      exact ⟨hemitted, hfusedRun hcalm⟩

end Provision
