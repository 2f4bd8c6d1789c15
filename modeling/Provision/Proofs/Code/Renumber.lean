import Provision.Code.Fusion
import Provision.Code.Pruning
import Provision.Code.WellFormed

/-!
# Renumbering functions

The functions that code calls may go by other numbers.  Pruning, checking and fusing code do not
look at the numbers, so that each of them goes together with renumbering.
-/

namespace Provision

/-! ## Instructions -/

namespace Instruction

/-- The instruction with the functions under other numbers. -/
def renumber (number : FuncId -> FuncId) : Instruction -> Instruction
  | call results callee arguments => call results (number callee) arguments
  | other => other

section Laws

variable (number : FuncId -> FuncId) (instruction : Instruction)

theorem results_renumber : (instruction.renumber number).results = instruction.results := by
  cases instruction
  all_goals rfl

theorem operands_renumber : (instruction.renumber number).operands = instruction.operands := by
  cases instruction
  all_goals rfl

theorem renumber_renumber (other : FuncId -> FuncId) :
    (instruction.renumber number).renumber other =
      instruction.renumber fun callee => other (number callee) := by
  cases instruction
  all_goals rfl

theorem rename_renumber (f : ValueId -> ValueId) :
    (instruction.renumber number).rename f = (instruction.rename f).renumber number := by
  cases instruction
  all_goals rfl

end Laws

/-! ## Functions that are called -/

/-- Two functions of the callees give the same for every function that instructions call. -/
def CallsAgree {α : Type} (f g : FuncId -> α) (instructions : List Instruction) : Prop :=
  forall results callee arguments, .call results callee arguments ∈ instructions ->
    f callee = g callee

theorem CallsAgree.mono {α : Type} {f g : FuncId -> α} {fewer more : List Instruction}
    (h : CallsAgree f g more)
    (hsub : forall instruction, instruction ∈ fewer -> instruction ∈ more) :
    CallsAgree f g fewer :=
  fun results callee arguments hcall => h results callee arguments (hsub _ hcall)

theorem map_renumber_congr {number other : FuncId -> FuncId} {instructions : List Instruction}
    (h : CallsAgree number other instructions) :
    instructions.map (renumber number) = instructions.map (renumber other) := by
  apply List.map_congr_left
  intro instruction hmem
  cases instruction
  case call results callee arguments => simp only [renumber, h results callee arguments hmem]
  all_goals rfl

end Instruction

/-! ## Code -/

def LoopHeader.renumber (number : FuncId -> FuncId) (header : LoopHeader) : LoopHeader :=
  { header with instructions := header.instructions.map (Instruction.renumber number) }

namespace Region

def renumber (number : FuncId -> FuncId) : Code -> Code
  | done => done
  | step first rest => step (first.renumber number) (renumber number rest)
  | loop head body rest =>
      loop (head.renumber number) (renumber number body) (renumber number rest)

theorem callsAgree {α : Type} {f g : FuncId -> α} {code : Code}
    (h : forall callee, callee ∈ code.callees -> f callee = g callee) :
    Instruction.CallsAgree f g code.instructions := by
  intro results callee arguments hcall
  exact h callee (List.mem_filterMap.mpr ⟨_, hcall, rfl⟩)

section CallsAgree

variable {α : Type} {f g : FuncId -> α}

theorem callsAgree_step {first : Instruction} {rest : Code}
    (h : Instruction.CallsAgree f g (step first rest).instructions) :
    Instruction.CallsAgree f g [first] ∧ Instruction.CallsAgree f g rest.instructions := by
  constructor
  · exact h.mono fun instruction hmem => by simp [instructions, List.mem_singleton.mp hmem]
  · exact h.mono fun instruction hmem => List.mem_cons_of_mem first hmem

theorem callsAgree_loop {head : LoopHeader} {body rest : Code}
    (h : Instruction.CallsAgree f g (loop head body rest).instructions) :
    Instruction.CallsAgree f g head.instructions ∧
      Instruction.CallsAgree f g body.instructions ∧
        Instruction.CallsAgree f g rest.instructions := by
  refine ⟨?_, ?_, ?_⟩
  · exact h.mono fun instruction hmem => by simp [instructions, hmem]
  · exact h.mono fun instruction hmem => by simp [instructions, hmem]
  · exact h.mono fun instruction hmem => by simp [instructions, hmem]

end CallsAgree

/-- Only the numbers of the functions that are called matter. -/
theorem renumber_congr {number other : FuncId -> FuncId} {code : Code}
    (h : Instruction.CallsAgree number other code.instructions) :
    code.renumber number = code.renumber other := by
  induction code with
  | done => rfl
  | step first rest ih =>
      rcases callsAgree_step h with ⟨hfirst, hrest⟩
      have hmap := Instruction.map_renumber_congr hfirst
      simp only [List.map_cons, List.map_nil, List.cons.injEq, and_true] at hmap
      simp only [renumber, hmap, ih hrest]
  | loop head body rest ihBody ihRest =>
      rcases callsAgree_loop h with ⟨hhead, hbody, hrest⟩
      simp only [renumber, LoopHeader.renumber, Instruction.map_renumber_congr hhead,
        ihBody hbody, ihRest hrest]

section Laws

variable (number : FuncId -> FuncId)

theorem renumber_prepend (steps : List Instruction) (rest : Code) :
    renumber number (prepend steps rest) =
      prepend (steps.map (Instruction.renumber number)) (renumber number rest) := by
  induction steps with
  | nil => rfl
  | cons first steps ih =>
      rw [prepend_cons, renumber, ih]
      rfl

theorem renumber_append (first second : Code) :
    renumber number (first.append second) =
      (renumber number first).append (renumber number second) := by
  induction first with
  | done => rfl
  | step instruction rest ih => simp only [append, renumber, ih]
  | loop head body rest _ ih => simp only [append, renumber, ih]

theorem instructions_renumber (code : Code) :
    (code.renumber number).instructions =
      code.instructions.map (Instruction.renumber number) := by
  induction code with
  | done => rfl
  | step first rest ih => simp only [renumber, instructions, ih, List.map_cons]
  | loop head body rest ihBody ihRest =>
      simp only [renumber, instructions, LoopHeader.renumber, ihBody, ihRest, List.map_append]

theorem carried_renumber (code : Code) : (code.renumber number).carried = code.carried := by
  induction code with
  | done => rfl
  | step first rest ih => simp only [renumber, carried, ih]
  | loop head body rest ihBody ihRest =>
      simp only [renumber, carried, LoopHeader.renumber, ihBody, ihRest]

theorem callees_renumber (code : Code) :
    (code.renumber number).callees = code.callees.map number := by
  rw [callees, callees, instructions_renumber, List.filterMap_map, List.map_filterMap]
  congr 1
  funext instruction
  cases instruction
  all_goals rfl

theorem renumber_renumber (other : FuncId -> FuncId) (code : Code) :
    (code.renumber number).renumber other =
      code.renumber fun callee => other (number callee) := by
  induction code with
  | done => rfl
  | step first rest ih => simp only [renumber, Instruction.renumber_renumber, ih]
  | loop head body rest ihBody ihRest =>
      simp only [renumber, LoopHeader.renumber, List.map_map, ihBody, ihRest, Function.comp_def,
        Instruction.renumber_renumber]

theorem prune_renumber (demand : Demand) (code : Code) :
    (code.renumber number).prune demand = (code.prune demand).renumber number := by
  induction code with
  | done => rfl
  | step first rest ih => simp only [renumber, prune, Instruction.rename_renumber, ih]
  | loop head body rest ihBody ihRest =>
      simp only [renumber, prune, LoopHeader.renumber, LoopHeader.prune, List.map_map, ihBody,
        ihRest, Function.comp_def, Instruction.rename_renumber]

end Laws
end Region

/-! ## Checking -/

section Checking

variable (number : FuncId -> FuncId) (slots : List StackSlot)
  (signatureOf? : FuncId -> Option MachineSignature)

theorem Instruction.check_renumber (scope : Scope) (instruction : Instruction) :
    (instruction.renumber number).check { slots := slots, signatureOf? := signatureOf? } scope =
      instruction.check
        { slots := slots, signatureOf? := fun callee => signatureOf? (number callee) } scope := by
  cases instruction
  all_goals rfl

theorem Instruction.checkAll_renumber (scope : Scope) (instructions : List Instruction) :
    Instruction.checkAll { slots := slots, signatureOf? := signatureOf? } scope
        (instructions.map (Instruction.renumber number)) =
      Instruction.checkAll
        { slots := slots, signatureOf? := fun callee => signatureOf? (number callee) } scope
        instructions := by
  induction instructions generalizing scope with
  | nil => rfl
  | cons first rest ih =>
      simp only [List.map_cons, Instruction.checkAll, Instruction.check_renumber, ih]

theorem Region.check_renumber (scope : Scope) (code : Code) :
    (code.renumber number).check { slots := slots, signatureOf? := signatureOf? } scope =
      code.check
        { slots := slots, signatureOf? := fun callee => signatureOf? (number callee) } scope := by
  induction code generalizing scope with
  | done => rfl
  | step first rest ih => simp only [Region.renumber, Region.check, Instruction.check_renumber, ih]
  | loop head body rest ihBody ihRest =>
      have henter : (head.renumber number).enter scope = head.enter scope := rfl
      have htest : (head.renumber number).checkTest = head.checkTest := rfl
      have hrepeats : (head.renumber number).repeats = head.repeats := rfl
      have hhead : (head.renumber number).instructions =
          head.instructions.map (Instruction.renumber number) := rfl
      simp only [Region.renumber, Region.check, henter, htest, hrepeats, hhead,
        Instruction.checkAll_renumber, ihBody, ihRest]

end Checking

/-! ## Fusing -/

section Fusing

variable (number : FuncId -> FuncId)

theorem Census.visit_renumber (instruction : Instruction) (census : Census) :
    census.visit (instruction.renumber number) = census.visit instruction := by
  simp only [Census.visit, Instruction.operands_renumber, Instruction.results_renumber]

theorem Census.visitAll_renumber (instructions : List Instruction) (census : Census) :
    census.visitAll (instructions.map (Instruction.renumber number)) =
      census.visitAll instructions := by
  simp only [Census.visitAll, List.foldr_map, Census.visit_renumber]

theorem Region.census_renumber (code : Code) (census : Census) :
    (code.renumber number).census census = code.census census := by
  induction code generalizing census with
  | done => rfl
  | step first rest ih => simp only [Region.renumber, Region.census, Census.visit_renumber, ih]
  | loop head body rest ihBody ihRest =>
      simp only [Region.renumber, Region.census, LoopHeader.renumber, Census.visitAll_renumber,
        ihBody, ihRest]

theorem Survey.extend_renumber (survey : Survey) (instruction : Instruction)
    (earlier : List (Option Fetch)) :
    survey.extend (instruction.renumber number) earlier = survey.extend instruction earlier := by
  cases instruction
  all_goals rfl

theorem Instruction.fuse_renumber (survey : Survey) (outlook : Outlook)
    (instruction : Instruction) :
    (instruction.renumber number).fuse survey outlook =
      ((instruction.fuse survey outlook).1.renumber number,
        (instruction.fuse survey outlook).2) := by
  cases instruction
  case compute result operation =>
      simp only [Instruction.renumber, Instruction.fuse]
      split
      · rfl
      · rfl
  all_goals rfl

theorem Instruction.fuseAll_renumber (survey : Survey) (earlier : List (Option Fetch))
    (needed : List ValueId) (instructions : List Instruction) :
    Instruction.fuseAll survey earlier needed (instructions.map (Instruction.renumber number)) =
      ((Instruction.fuseAll survey earlier needed instructions).1.map
          (Instruction.renumber number),
        (Instruction.fuseAll survey earlier needed instructions).2) := by
  induction instructions generalizing earlier with
  | nil => rfl
  | cons first rest ih =>
      simp only [List.map_cons, Instruction.fuseAll, Survey.extend_renumber, ih,
        Instruction.fuse_renumber]

theorem Region.fuse_renumber (survey : Survey) (earlier : List (Option Fetch))
    (needed : List ValueId) (code : Code) :
    (code.renumber number).fuse survey earlier needed =
      ((code.fuse survey earlier needed).1.renumber number,
        (code.fuse survey earlier needed).2) := by
  induction code generalizing earlier needed with
  | done => rfl
  | step first rest ih =>
      simp only [Region.renumber, Region.fuse, Survey.extend_renumber, ih,
        Instruction.fuse_renumber]
  | loop head body rest ihBody ihRest =>
      simp only [Region.renumber, Region.fuse, LoopHeader.renumber, ihBody, ihRest,
        Instruction.fuseAll_renumber]

end Fusing

/-! ## Procedures -/

namespace Procedure

def renumber (number : FuncId -> FuncId) (procedure : Procedure) : Procedure :=
  { procedure with
    code := procedure.code.renumber number
    near := procedure.near.map number }

theorem renumber_congr {number other : FuncId -> FuncId} {procedure : Procedure}
    (hcode : forall callee, callee ∈ procedure.code.callees -> number callee = other callee)
    (hnear : forall callee, callee ∈ procedure.near -> number callee = other callee) :
    procedure.renumber number = procedure.renumber other := by
  simp only [renumber, Region.renumber_congr (Region.callsAgree hcode),
    List.map_congr_left hnear]

theorem renumber_renumber (number other : FuncId -> FuncId) (procedure : Procedure) :
    (procedure.renumber number).renumber other =
      procedure.renumber fun callee => other (number callee) := by
  simp only [renumber, Region.renumber_renumber, List.map_map, Function.comp_def]

theorem check_renumber (number : FuncId -> FuncId) (procedure : Procedure)
    (signatureOf? : FuncId -> Option MachineSignature) :
    (procedure.renumber number).check signatureOf? =
      procedure.check fun callee => signatureOf? (number callee) := by
  simp only [check, renumber, surroundings, parameters, Region.check_renumber]

theorem survey_renumber (number : FuncId -> FuncId) (procedure : Procedure) :
    (procedure.renumber number).survey = procedure.survey := by
  simp only [survey, census, renumber, Region.census_renumber, Region.instructions_renumber,
    List.filterMap_map, Survey.mk.injEq, true_and]
  congr 1
  funext instruction
  cases instruction
  all_goals rfl

theorem fuse_renumber (number : FuncId -> FuncId) (procedure : Procedure) :
    (procedure.renumber number).fuse = procedure.fuse.renumber number := by
  simp only [fuse, survey_renumber]
  simp only [renumber, Region.fuse_renumber]

end Procedure
end Provision
