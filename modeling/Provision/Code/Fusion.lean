import Provision.Code.Census
import Provision.Code.Fetch

/-!
# Fused loads

A load is fused with the operation that takes its value from memory, if nothing else uses the value
and no effect comes between the two.  Code is gone through from its end to its beginning, block by
block; each fused load lets the one before it come next.
-/

namespace Provision

/-! ## Blocks -/

/-- What is known of a block from an instruction on: the values that are needed, the instructions
with an effect that are still to be met, the last one first and each a fetch if it can be fused,
and the values whose loads have been fused. -/
structure Outlook where
  needed : List ValueId
  earlier : List (Option Fetch)
  fused : List ValueId
  deriving DecidableEq, Repr

namespace Outlook

def need (values : List ValueId) (outlook : Outlook) : Outlook :=
  { outlook with needed := values ++ outlook.needed }

/-- Goes past the last instruction with an effect. -/
def pass (outlook : Outlook) : Outlook :=
  { outlook with earlier := outlook.earlier.tail }

/-- The load that can be fused next. -/
def next? (outlook : Outlook) : Option Fetch :=
  match outlook.earlier with
  | fetch :: _ => fetch
  | [] => none

/-- Fuses the load that can be fused next. -/
def fuse (fetch : Fetch) (outlook : Outlook) : Outlook :=
  { outlook.pass with fused := fetch.value :: outlook.fused }

end Outlook

/-- What is known of a procedure: how often its values are used, and how they are computed. -/
structure Survey where
  census : Census
  operations : List (ValueId × Operation)
  deriving DecidableEq, Repr

namespace Survey

/-- The values that make up an address; a sum is formed where it is used as one. -/
def terms (survey : Survey) (address : ValueId) : List ValueId :=
  match survey.operations.lookup address with
  | some (.int .add a b) => [a, b]
  | _ => [address]

/-- The other operand of a sum or difference that is stored where the fetch found one operand: the
machine updates memory in one instruction. -/
def update? (survey : Survey) (fetch : Fetch) (value address : ValueId) (offset : Int) :
    Option ValueId :=
  if fetch.address = address ∧ fetch.offset = offset then
    match survey.operations.lookup value with
    | some (.int .add a b) =>
        if a = fetch.value then some b else if b = fetch.value then some a else none
    | some (.int .sub a b) => if a = fetch.value then some b else none
    | _ => none
  else none

/-- What an instruction is for the order of effects: nothing, a fetch, or something else. -/
def effect? (survey : Survey) : Instruction -> Option (Option Fetch)
  | .compute _ _ => none
  | .slotAddress _ _ => none
  | .load value type address offset =>
      if type.bits < 32 ∨ survey.census.shared.contains value then some none
      else some (some { value := value, type := type, address := address, offset := offset })
  | .store _ _ _ => some none
  | .call _ _ _ => some none

/-- The effects of a block that an instruction comes after. -/
def extend (survey : Survey) (instruction : Instruction) (earlier : List (Option Fetch)) :
    List (Option Fetch) :=
  match survey.effect? instruction with
  | some effect => effect :: earlier
  | none => earlier

end Survey

namespace Operation

/-- Fuses the next load with an operation that can take what it fetches. -/
def fuse (operation : Operation) (outlook : Outlook) : Operation × Outlook :=
  match outlook.next? with
  | some fetch =>
      if operation.takes fetch then (operation.taking fetch, outlook.fuse fetch)
      else (operation, outlook)
  | none => (operation, outlook)

end Operation

namespace Instruction

/-- Goes past an instruction.  A computation that nothing needs is left out, and a load that has
been fused is already behind. -/
def fuse (survey : Survey) (outlook : Outlook) : Instruction -> Instruction × Outlook
  | compute result operation =>
      if outlook.needed.contains result then
        let (operation, outlook) := operation.fuse outlook
        (compute result operation, outlook.need operation.operands)
      else (compute result operation, outlook)
  | load result type address offset =>
      let behind := if outlook.fused.contains result then outlook else outlook.pass
      (load result type address offset, behind.need (survey.terms address))
  | store value address offset =>
      let behind := outlook.pass
      let addressed := behind.need (survey.terms address)
      let updated := do
        let fetch ← behind.next?
        let other ← survey.update? fetch value address offset
        some ((addressed.fuse fetch).need [other])
      (store value address offset, updated.getD (addressed.need [value]))
  | slotAddress result slot => (slotAddress result slot, outlook)
  | call results callee arguments =>
      (call results callee arguments, outlook.pass.need arguments)

/-- Goes past the instructions of a block that ends after them. -/
def fuseAll (survey : Survey) (earlier : List (Option Fetch)) (needed : List ValueId) :
    List Instruction -> List Instruction × Outlook
  | [] => ([], { needed := needed, earlier := earlier, fused := [] })
  | first :: rest =>
      let (rest, outlook) := fuseAll survey (survey.extend first earlier) needed rest
      let (first, outlook) := first.fuse survey outlook
      (first :: rest, outlook)

end Instruction

/-! ## Code -/

namespace Region

/-- Fuses the loads of code, of whose first block the given effects are known already, and after
which the given values are needed. -/
def fuse (survey : Survey) : (earlier : List (Option Fetch)) -> (needed : List ValueId) -> Code ->
    Code × Outlook
  | earlier, needed, done => (done, { needed := needed, earlier := earlier, fused := [] })
  | earlier, needed, step first rest =>
      let (rest, outlook) := fuse survey (survey.extend first earlier) needed rest
      let (first, outlook) := first.fuse survey outlook
      (step first rest, outlook)
  | earlier, needed, loop head body rest =>
      let (rest, after) := fuse survey [] needed rest
      let (body, inner) := fuse survey [] (head.carried.map Carried.next ++ after.needed) body
      let (instructions, top) :=
        Instruction.fuseAll survey [] (head.test :: inner.needed) head.instructions
      ( loop { head with instructions := instructions } body rest,
        { needed := head.carried.map Carried.initial ++ top.needed
          earlier := earlier
          fused := [] } )

end Region

namespace Procedure

def survey (procedure : Procedure) : Survey where
  census := procedure.census
  operations :=
    procedure.code.instructions.filterMap fun
      | .compute result operation => some (result, operation)
      | _ => none

/-- The procedure as the machine runs it. -/
def fuse (procedure : Procedure) : Procedure :=
  { procedure with code := (procedure.code.fuse procedure.survey [] procedure.results).1 }

end Procedure
end Provision
