import Provision.Code.WellFormed
import Provision.Proofs.Code.Frame
import Provision.Proofs.Pairing

/-!
# Values of checked code

What is computed by code that fits its surroundings has the type that the check says.
-/

namespace Provision

/-! ## Operations -/

namespace Operation

/-- An operation sees of a context only what its operands are there. -/
theorem eval_congr {operation : Operation} {values other : ValueId -> Option Scalar}
    (h : forall a, a ∈ operation.operands -> values a = other a) :
    operation.eval values = operation.eval other := by
  cases operation
  case constInt type value => cases type <;> rfl
  case constFloat => rfl
  all_goals
    simp only [operands, List.mem_cons, List.not_mem_nil, or_false, forall_eq_or_imp,
      forall_eq] at h
    simp only [eval, h]

theorem resultType_congr {operation : Operation} {typeOf other : ValueId -> MachineType}
    (h : forall a, a ∈ operation.operands -> typeOf a = other a) :
    operation.resultType typeOf = operation.resultType other := by
  cases operation
  all_goals
    simp only [operands, List.mem_cons, List.not_mem_nil, or_false, forall_eq_or_imp,
      forall_eq] at h
    simp only [resultType, h]

section Types

variable {x y z : Scalar}

theorem type_onInts {apply : {n : Nat} -> BitVec n -> BitVec n -> BitVec n}
    (h : onInts apply x y = some z) : z.type = x.type := by
  cases x with
  | int width x =>
      rcases Option.map_eq_some_iff.mp h with ⟨_, _, rfl⟩
      rfl
  | float format x => cases h

theorem type_onFloats
    {apply : {f : Binary.Format} -> Binary.Pattern f -> Binary.Pattern f -> Binary.Pattern f}
    (h : onFloats apply x y = some z) : z.type = x.type := by
  cases x with
  | int width x => cases h
  | float format x =>
      rcases Option.map_eq_some_iff.mp h with ⟨_, _, rfl⟩
      rfl

theorem type_resize {extend : {n : Nat} -> (m : Nat) -> BitVec n -> BitVec m} {type : MachineType}
    (h : resize extend type x = some z) : z.type = type := by
  cases type
  all_goals
    cases x
    all_goals cases h
  rfl

theorem type_toFloat {number : {n : Nat} -> BitVec n -> Int} {type : MachineType}
    (h : toFloat number type x = some z) : z.type = type := by
  cases type
  all_goals
    cases x
    all_goals cases h
  rfl

theorem type_toInt {type : MachineType} (h : toInt type x = some z) : z.type = type := by
  cases type
  all_goals
    cases x
    all_goals cases h
  rfl

end Types

/-- What an operation computes of operands that fit it has the type of its result. -/
theorem type_eval {operation : Operation} {values : ValueId -> Option Scalar}
    {typeOf : ValueId -> MachineType} (hfits : operation.fits typeOf = true)
    (htyped : forall a, a ∈ operation.operands -> forall x, values a = some x ->
      x.type = typeOf a) {x : Scalar} (h : operation.eval values = some x) :
    x.type = operation.resultType typeOf := by
  cases operation
  all_goals
    simp only [operands, List.mem_cons, List.not_mem_nil, or_false, forall_eq_or_imp,
      forall_eq] at htyped
  case constInt type value =>
      cases type
      all_goals cases h
      rfl
  case constFloat =>
      cases h
      rfl
  all_goals simp only [eval, Option.bind_eq_bind, Option.bind_eq_some_iff] at h
  case int =>
      rcases h with ⟨y, hy, z, _, h⟩
      exact (type_onInts h).trans (htyped.left y hy)
  case float =>
      rcases h with ⟨y, hy, z, _, h⟩
      exact (type_onFloats h).trans (htyped.left y hy)
  case signExtend =>
      rcases h with ⟨y, _, h⟩
      exact type_resize h
  case zeroExtend =>
      rcases h with ⟨y, _, h⟩
      exact type_resize h
  case reduce =>
      rcases h with ⟨y, _, h⟩
      exact type_resize h
  case ofSigned =>
      rcases h with ⟨y, _, h⟩
      exact type_toFloat h
  case ofUnsigned =>
      rcases h with ⟨y, _, h⟩
      exact type_toFloat h
  case toSigned =>
      rcases h with ⟨y, _, h⟩
      exact type_toInt h
  case select condition a b =>
      -- The two values to choose from are of one type.
      simp only [fits, Bool.and_eq_true, beq_iff_eq] at hfits
      rcases h with ⟨y, _, h⟩
      cases y with
      | float format y => cases h
      | int width y =>
          simp only at h
          split at h
          · exact (htyped.right.right x h).trans hfits.right.symm
          · exact htyped.right.left x h
  case unary =>
      rcases h with ⟨y, hy, h⟩
      rw [resultType, ← htyped y hy]
      cases y
      all_goals cases h
      rfl
  case addImmediate =>
      rcases h with ⟨y, hy, h⟩
      rw [resultType, ← htyped y hy]
      cases y
      all_goals cases h
      rfl
  case mulImmediate =>
      rcases h with ⟨y, hy, h⟩
      rw [resultType, ← htyped y hy]
      cases y
      all_goals cases h
      rfl
  case equalsImmediate =>
      rcases h with ⟨y, hy, h⟩
      cases y
      all_goals cases h
      rfl
  case less =>
      rcases h with ⟨y, hy, h⟩
      cases y with
      | float format y => cases h
      | int width y =>
          simp only [Option.bind_eq_some_iff, Option.map_eq_some_iff] at h
          rcases h with ⟨_, _, _, _, rfl⟩
          rfl

end Operation

/-! ## Scopes -/

namespace Scope

variable {scope : Scope}

/-- Every value that is in scope is in the frame, and has its type. -/
def Types (scope : Scope) (frame : Frame) : Prop :=
  forall value type, scope.values.lookup value = some type ->
    exists x, frame.value? value = some x ∧ x.type = type

theorem exists_of_missing? {values : List ValueId} (h : scope.missing? values = none)
    {value : ValueId} (hvalue : value ∈ values) :
    exists type, scope.values.lookup value = some type := by
  have hcontains := List.find?_eq_none.mp h value hvalue
  simp only [contains, Bool.not_eq_true', Bool.not_eq_false, Option.isSome_iff_exists] at hcontains
  exact hcontains

theorem typeOf_of_lookup {value : ValueId} {type : MachineType}
    (h : scope.values.lookup value = some type) : scope.typeOf value = type := by
  rw [typeOf, h]
  rfl

theorem Types.map_typeOf {frame : Frame} (h : scope.Types frame) {values : List ValueId}
    {xs : List Scalar} (hmissing : scope.missing? values = none)
    (hxs : List.Forall₂ (fun value x => frame.value? value = some x) values xs) :
    values.map scope.typeOf = xs.map Scalar.type := by
  induction hxs with
  | nil => rfl
  | @cons value x values xs hvalue _ ih =>
      rcases exists_of_missing? hmissing List.mem_cons_self with ⟨type, htype⟩
      rcases h value type htype with ⟨y, hy, hytype⟩
      rw [hvalue, Option.some.injEq] at hy
      have hrest : scope.missing? values = none :=
        List.find?_eq_none.mpr fun other hother =>
          List.find?_eq_none.mp hmissing other (List.mem_cons_of_mem value hother)
      rw [List.map_cons, List.map_cons, ih hrest, typeOf_of_lookup htype, hy, hytype]

theorem Types.bind {frame : Frame} (h : scope.Types frame) {result : ValueId} {x : Scalar}
    {type : MachineType} (hx : x.type = type) :
    (scope.bind [(result, type)]).Types (frame.bind result x) := by
  intro value other hvalue
  rw [Frame.value?_bind]
  by_cases heq : value = result
  · rw [if_pos heq]
    have hlookup : (scope.bind [(result, type)]).values.lookup value = some type := by
      rw [heq]
      exact List.lookup_cons_self
    rw [hlookup, Option.some.injEq] at hvalue
    exact ⟨x, rfl, hx.trans hvalue⟩
  · rw [if_neg heq]
    apply h value other
    rw [← hvalue]
    exact (Association.lookup_cons_of_ne type scope.values heq).symm

theorem Types.bindAll {frame : Frame} (h : scope.Types frame) (results : List ValueId)
    (xs : List Scalar) :
    (scope.bind (results.zip (xs.map Scalar.type))).Types (frame.bindAll results xs) := by
  induction results generalizing xs with
  | nil => exact h
  | cons result results ih =>
      cases xs with
      | nil => exact h
      | cons x xs => exact (ih xs).bind rfl

end Scope

/-! ## Instructions -/

/-- Calls return what the signatures of their callees say, if they are given what these say. -/
def CallsFit {σ : Type} (signatureOf? : FuncId -> Option MachineSignature)
    (invoke : FuncId -> Behaviour σ) : Prop :=
  forall callee signature arguments results world after,
    signatureOf? callee = some signature -> arguments.map Scalar.type = signature.params ->
      invoke callee arguments world = some (results, after) ->
        results.map Scalar.type = signature.returns

namespace Instruction

variable {σ : Type} {env : Surroundings} {scope after : Scope} {instruction : Instruction}

theorem check_eq_ok (h : instruction.check env scope = .ok after) :
    scope.missing? instruction.operands = none ∧ instruction.brokenConstant? = none ∧
      after = (scope.require (instruction.fits env scope)).bind
        (instruction.resultTypes env scope) := by
  unfold check at h
  split at h
  · cases h
  · rename_i hmissing
    split at h
    · cases h
    · rename_i hconstant
      cases h
      exact ⟨hmissing, hconstant, rfl⟩

theorem results_rename (f : ValueId -> ValueId) (instruction : Instruction) :
    (instruction.rename f).results = instruction.results := by
  cases instruction
  all_goals rfl

/-- Only results of an instruction come into scope. -/
theorem not_mem_keys_resultTypes {value : ValueId} (h : value ∉ instruction.results) :
    value ∉ (instruction.resultTypes env scope).map Prod.fst := by
  cases instruction with
  | store => exact List.not_mem_nil
  | call results callee arguments =>
      simp only [resultTypes]
      split
      · rw [map_fst_zip_eq_take]
        exact fun hmem => h (List.mem_of_mem_take hmem)
      · exact List.not_mem_nil
  | _ => exact h

theorem checkAll_cons_eq_ok {rest : List Instruction}
    (h : checkAll env scope (instruction :: rest) = .ok after) :
    exists middle, instruction.check env scope = .ok middle ∧
      checkAll env middle rest = .ok after := by
  unfold checkAll at h
  split at h
  · cases h
  · rename_i middle hfirst
    exact ⟨middle, hfirst, h⟩

theorem checkAll_append_eq_ok {xs ys : List Instruction}
    (h : checkAll env scope (xs ++ ys) = .ok after) :
    exists middle, checkAll env scope xs = .ok middle ∧ checkAll env middle ys = .ok after := by
  induction xs generalizing scope with
  | nil => exact ⟨scope, rfl, h⟩
  | cons first rest ih =>
      rcases checkAll_cons_eq_ok h with ⟨next, hfirst, hrest⟩
      rcases ih hrest with ⟨middle, hxs, hys⟩
      refine ⟨middle, ?_, hys⟩
      rw [checkAll, hfirst]
      exact hxs

/-- An operand that has been checked is in the frame. -/
theorem exists_operand (h : instruction.check env scope = .ok after) {frame : Frame}
    (htypes : scope.Types frame) {value : ValueId} (hvalue : value ∈ instruction.operands) :
    exists x, frame.value? value = some x ∧ x.type = scope.typeOf value := by
  rcases Scope.exists_of_missing? (check_eq_ok h).left hvalue with ⟨type, htype⟩
  rcases htypes value type htype with ⟨x, hx, hxtype⟩
  exact ⟨x, hx, hxtype.trans (Scope.typeOf_of_lookup htype).symm⟩

theorem fits_of_check (h : instruction.check env scope = .ok after) (hfits : after.fits = true) :
    scope.fits = true ∧ instruction.fits env scope = true := by
  rw [(check_eq_ok h).right.right] at hfits
  exact Bool.and_eq_true_iff.mp hfits

theorem fits_of_checkAll {instructions : List Instruction}
    (h : checkAll env scope instructions = .ok after) (hfits : after.fits = true) :
    scope.fits = true := by
  induction instructions generalizing scope with
  | nil =>
      cases h
      exact hfits
  | cons first rest ih =>
      rcases checkAll_cons_eq_ok h with ⟨middle, hfirst, hrest⟩
      exact (fits_of_check hfirst (ih hrest)).left

/-- An instruction binds its results, and no other value. -/
theorem frame_run {invoke : FuncId -> Behaviour σ} {frame next : Frame} {world last : World σ}
    (h : instruction.run invoke (frame, world) = some (next, last)) :
    next.slots = frame.slots ∧
      forall value, value ∉ instruction.results -> next.value? value = frame.value? value := by
  cases instruction with
  | store value address offset =>
      simp only [run, Option.bind_eq_bind, Option.bind_eq_some_iff, Option.some.injEq,
        Prod.mk.injEq] at h
      rcases h with ⟨_, _, _, _, a, _, rfl, _⟩
      exact ⟨rfl, fun _ _ => rfl⟩
  | call results callee arguments =>
      simp only [run, Option.bind_eq_bind, Option.bind_eq_some_iff, Option.some.injEq,
        Prod.mk.injEq] at h
      rcases h with ⟨xs, _, ⟨ys, left⟩, _, rfl, _⟩
      exact ⟨rfl, fun value hvalue => frame.value?_bindAll_of_not_mem hvalue ys⟩
  | load result type address offset =>
      simp only [run, Option.bind_eq_bind, Option.bind_eq_some_iff, Option.some.injEq,
        Prod.mk.injEq] at h
      rcases h with ⟨_, _, a, _, rfl, _⟩
      exact ⟨rfl, fun value hvalue => frame.value?_bindAll_of_not_mem hvalue [_]⟩
  | compute result operation =>
      simp only [run, Option.bind_eq_bind, Option.bind_eq_some_iff, Option.some.injEq,
        Prod.mk.injEq] at h
      rcases h with ⟨x, _, rfl, _⟩
      exact ⟨rfl, fun value hvalue => frame.value?_bindAll_of_not_mem hvalue [x]⟩
  | slotAddress result slot =>
      simp only [run, Option.bind_eq_bind, Option.bind_eq_some_iff, Option.some.injEq,
        Prod.mk.injEq] at h
      rcases h with ⟨a, _, rfl, _⟩
      exact ⟨rfl, fun value hvalue => frame.value?_bindAll_of_not_mem hvalue [.address a]⟩

theorem types_run {invoke : FuncId -> Behaviour σ} (hcalls : CallsFit env.signatureOf? invoke)
    (hcheck : instruction.check env scope = .ok after) (hfits : after.fits = true)
    {state next : Frame × World σ} (htypes : scope.Types state.1)
    (h : instruction.run invoke state = some next) : after.Types next.1 := by
  rcases state with ⟨frame, world⟩
  have hoperand : forall value, value ∈ instruction.operands ->
      exists x, frame.value? value = some x ∧ x.type = scope.typeOf value :=
    fun _ => exists_operand hcheck htypes
  have hfit := (fits_of_check hcheck hfits).right
  rcases check_eq_ok hcheck with ⟨hmissing, _, rfl⟩
  have hrequired : (scope.require (instruction.fits env scope)).Types frame := htypes
  cases instruction with
  | compute result operation =>
      simp only [run, Option.bind_eq_bind, Option.bind_eq_some_iff, Option.some.injEq] at h
      rcases h with ⟨x, hx, rfl⟩
      apply hrequired.bind
      apply Operation.type_eval hfit _ hx
      intro a ha y hy
      rcases hoperand a ha with ⟨z, hz, htype⟩
      rw [hy] at hz
      cases hz
      exact htype
  | load result type address offset =>
      simp only [run, Option.bind_eq_bind, Option.bind_eq_some_iff, Option.some.injEq] at h
      rcases h with ⟨_, _, a, _, rfl⟩
      exact hrequired.bind (Scalar.type_ofNat _ _)
  | store value address offset =>
      simp only [run, Option.bind_eq_bind, Option.bind_eq_some_iff, Option.some.injEq] at h
      rcases h with ⟨_, _, _, _, a, _, rfl⟩
      exact hrequired
  | slotAddress result slot =>
      simp only [run, Option.bind_eq_bind, Option.bind_eq_some_iff, Option.some.injEq] at h
      rcases h with ⟨a, _, rfl⟩
      exact hrequired.bind rfl
  | call results callee arguments =>
      simp only [run, Option.bind_eq_bind, Option.bind_eq_some_iff, Option.some.injEq] at h
      rcases h with ⟨xs, hxs, ⟨ys, left⟩, hcall, rfl⟩
      cases hsignature : env.signatureOf? callee with
      | none =>
          simp only [Instruction.fits, hsignature] at hfit
          cases hfit
      | some signature =>
          simp only [Instruction.fits, hsignature, Bool.and_eq_true, beq_iff_eq] at hfit
          have hargs : xs.map Scalar.type = signature.params := by
            rw [← hfit.left]
            exact (htypes.map_typeOf hmissing (mapM_eq_some_iff.mp hxs)).symm
          have hreturns := hcalls callee signature xs ys world left hsignature hargs hcall
          have htyped := hrequired.bindAll results ys
          rw [hreturns] at htyped
          simp only [resultTypes, hsignature]
          exact htyped

theorem types_runAll {invoke : FuncId -> Behaviour σ} (hcalls : CallsFit env.signatureOf? invoke)
    {instructions : List Instruction} (hcheck : checkAll env scope instructions = .ok after)
    (hfits : after.fits = true) {state next : Frame × World σ} (htypes : scope.Types state.1)
    (h : runAll invoke instructions state = some next) : after.Types next.1 := by
  induction instructions generalizing scope state with
  | nil =>
      cases hcheck
      cases h
      exact htypes
  | cons first rest ih =>
      rcases checkAll_cons_eq_ok hcheck with ⟨middle, hfirst, hrest⟩
      rw [runAll_cons] at h
      split at h
      · cases h
      · rename_i between hrun
        exact ih hrest (types_run hcalls hfirst (fits_of_checkAll hrest hfits) htypes hrun) h

end Instruction

/-! ## Loops -/

namespace LoopHeader

variable {header : LoopHeader} {scope after : Scope}

/-- What is checked after values that have to be in scope. -/
theorem of_missing? {values : List ValueId} {next : Scope}
    (h : (match scope.missing? values with
      | some value => .error (.outOfScope value)
      | none => .ok next : Except Breach Scope) = .ok after) :
    scope.missing? values = none ∧ after = next := by
  split at h
  · cases h
  · rename_i hmissing
    cases h
    exact ⟨hmissing, rfl⟩

theorem enter_eq_ok (h : header.enter scope = .ok after) :
    scope.missing? (header.carried.map Carried.initial) = none ∧
      after = (scope.require (header.carried.all fun carried =>
          scope.typeOf carried.initial == carried.type)).bind
        (header.carried.map fun carried => (carried.value, carried.type)) :=
  of_missing? h

theorem checkTest_eq_ok (h : header.checkTest scope = .ok after) :
    scope.missing? [header.test] = none ∧
      after = scope.require (scope.typeOf header.test == .i8) :=
  of_missing? h

theorem repeats_eq_ok (h : header.repeats scope = .ok after) :
    scope.missing? (header.carried.map Carried.next) = none ∧
      after = scope.require (header.carried.all fun carried =>
        scope.typeOf carried.next == carried.type) :=
  of_missing? h

end LoopHeader

namespace Region

variable {env : Surroundings} {scope after : Scope}

/-- The scopes in which the parts of a loop are checked. -/
structure Checks (env : Surroundings) (head : LoopHeader) (body : Code) (scope inner last : Scope) :
    Prop where
  enter : exists entered, head.enter scope = .ok entered ∧
    Instruction.checkAll env entered head.instructions = .ok inner
  test : inner.missing? [head.test] = none
  body : body.check env (inner.require (inner.typeOf head.test == .i8)) = .ok last
  next : last.missing? (head.carried.map Carried.next) = none

theorem check_loop_eq_ok {head : LoopHeader} {body rest : Code}
    (h : Region.check env (.loop head body rest) scope = .ok after) :
    exists inner last, Checks env head body scope inner last ∧
      rest.check env
        { inner with
          fits := (last.require (head.carried.all fun carried =>
            last.typeOf carried.next == carried.type)).fits } = .ok after := by
  simp only [check, bind, Except.bind] at h
  split at h
  · cases h
  · rename_i entered hentered
    split at h
    · cases h
    · rename_i inner hinner
      split at h
      · cases h
      · rename_i tested htested
        split at h
        · cases h
        · rename_i last hlast
          split at h
          · cases h
          · rename_i ended hended
            rcases LoopHeader.checkTest_eq_ok htested with ⟨htest, rfl⟩
            rcases LoopHeader.repeats_eq_ok hended with ⟨hnext, rfl⟩
            exact ⟨inner, last, ⟨⟨entered, hentered, hinner⟩, htest, hlast, hnext⟩, h⟩

theorem check_step_eq_ok {first : Instruction} {rest : Code}
    (h : Region.check env (.step first rest) scope = .ok after) :
    exists middle, first.check env scope = .ok middle ∧ rest.check env middle = .ok after := by
  simp only [check, bind, Except.bind] at h
  split at h
  · cases h
  · rename_i middle hfirst
    exact ⟨middle, hfirst, h⟩

theorem check_prepend_eq_ok {steps : List Instruction} {rest : Code}
    (h : Region.check env (prepend steps rest) scope = .ok after) :
    exists middle, Instruction.checkAll env scope steps = .ok middle ∧
      rest.check env middle = .ok after := by
  induction steps generalizing scope with
  | nil => exact ⟨scope, rfl, h⟩
  | cons first steps ih =>
      rcases check_step_eq_ok h with ⟨next, hfirst, hnext⟩
      rcases ih hnext with ⟨middle, hsteps, hrest⟩
      refine ⟨middle, ?_, hrest⟩
      rw [Instruction.checkAll, hfirst]
      exact hsteps

/-- Code that comes after other code is checked where the check of that ends. -/
theorem check_append (env : Surroundings) (first second : Code) (scope : Scope) :
    Region.check env (first.append second) scope =
      first.check env scope >>= second.check env := by
  induction first generalizing scope with
  | done => rfl
  | step instruction rest ih => simp only [append, check, ih, bind_assoc]
  | loop head body rest _ ih => simp only [append, check, ih, bind_assoc]

theorem check_append_eq_ok {first second : Code}
    (h : Region.check env (first.append second) scope = .ok after) :
    exists middle, first.check env scope = .ok middle ∧ second.check env middle = .ok after := by
  rw [check_append] at h
  cases hfirst : first.check env scope with
  | error breach =>
      rw [hfirst] at h
      cases h
  | ok middle =>
      rw [hfirst] at h
      exact ⟨middle, rfl, h⟩

/-- Everything in a loop fits. -/
structure Fits (head : LoopHeader) (scope inner last : Scope) : Prop where
  before : scope.fits = true
  initial : forall carried, carried ∈ head.carried -> scope.typeOf carried.initial = carried.type
  header : inner.fits = true
  test : inner.typeOf head.test = .i8
  body : last.fits = true
  next : forall carried, carried ∈ head.carried -> last.typeOf carried.next = carried.type

/-- What fits in the end has fitted before. -/
theorem fits_of_check {code : Code} (h : code.check env scope = .ok after)
    (hfits : after.fits = true) : scope.fits = true := by
  induction code generalizing scope after with
  | done =>
      cases h
      exact hfits
  | step first rest ih =>
      rcases check_step_eq_ok h with ⟨middle, hfirst, hrest⟩
      exact (Instruction.fits_of_check hfirst (ih hrest hfits)).left
  | loop head body rest ihBody ihRest =>
      rcases check_loop_eq_ok h with ⟨inner, last, hchecks, hrest⟩
      have hlast : last.fits = true := (Bool.and_eq_true_iff.mp (ihRest hrest hfits)).left
      have hinner : inner.fits = true :=
        (Bool.and_eq_true_iff.mp (ihBody hchecks.body hlast)).left
      rcases hchecks.enter with ⟨entered, hentered, hheader⟩
      have hfirst := Instruction.fits_of_checkAll hheader hinner
      rw [(LoopHeader.enter_eq_ok hentered).right] at hfirst
      exact (Bool.and_eq_true_iff.mp hfirst).left

theorem Checks.fits {head : LoopHeader} {body : Code} {inner last : Scope}
    (h : Checks env head body scope inner last)
    (hfits : (last.require (head.carried.all fun carried =>
      last.typeOf carried.next == carried.type)).fits = true) :
    Fits head scope inner last := by
  rcases Bool.and_eq_true_iff.mp hfits with ⟨hlast, hnext⟩
  rcases Bool.and_eq_true_iff.mp (fits_of_check h.body hlast) with ⟨hinner, htest⟩
  rcases h.enter with ⟨entered, hentered, hheader⟩
  have hfirst := Instruction.fits_of_checkAll hheader hinner
  rw [(LoopHeader.enter_eq_ok hentered).right] at hfirst
  rcases Bool.and_eq_true_iff.mp hfirst with ⟨hscope, hinitial⟩
  simp only [List.all_eq_true, beq_iff_eq] at hinitial hnext
  exact ⟨hscope, hinitial, hinner, beq_iff_eq.mp htest, hlast, hnext⟩

end Region

/-- What holds of the first pass and goes from each pass to the next holds of the last one. -/
theorem of_repeatPass {α β : Type} {pass : α -> Option (α ⊕ β)} {p : α -> Prop} {q : β -> Prop}
    (hgoes : forall a next, p a -> pass a = some (.inl next) -> p next)
    (hleaves : forall a last, p a -> pass a = some (.inr last) -> q last)
    {passes : Nat} {start : α} {last : β} (hstart : p start)
    (h : repeatPass pass passes start = some last) : q last := by
  induction passes generalizing start with
  | zero => cases h
  | succ passes ih =>
      cases hpass : pass start with
      | none =>
          simp only [repeatPass, hpass] at h
          cases h
      | some outcome =>
          cases outcome with
          | inl next =>
              rw [repeatPass_of_goesOn _ hpass] at h
              exact ih (hgoes start next hstart hpass) h
          | inr result =>
              rw [repeatPass_of_leaves _ hpass] at h
              cases h
              exact hleaves start last hstart hpass

namespace LoopHeader

variable {σ : Type} {invoke : FuncId -> Behaviour σ} {header : LoopHeader}
  {state next : Frame × World σ}

theorem runAll_of_run {goesOn : Bool} (h : header.run invoke state = some (goesOn, next)) :
    Instruction.runAll invoke header.instructions state = some next := by
  simp only [run, Option.bind_eq_bind, Option.bind_eq_some_iff, Option.some.injEq,
    Prod.mk.injEq] at h
  rcases h with ⟨inner, hall, _, _, _, _, _, rfl⟩
  exact hall

theorem pass_eq_inl {body : Frame × World σ -> Option (Frame × World σ)} {outer : Frame}
    {values : List Scalar × World σ} {more : List Scalar × World σ}
    (h : header.pass invoke body outer values = some (.inl more)) :
    exists inner last,
      header.run invoke (outer.bindAll header.parameters values.1, values.2) =
          some (true, inner) ∧
        body inner = some last ∧ header.nexts last.1 = some more.1 ∧ last.2 = more.2 := by
  simp only [pass, Option.bind_eq_bind, Option.bind_eq_some_iff] at h
  rcases h with ⟨⟨goesOn, inner⟩, hrun, h⟩
  cases goesOn with
  | false => simp at h
  | true =>
      simp only [if_true, Option.bind_eq_some_iff, Option.some.injEq, Sum.inl.injEq] at h
      rcases h with ⟨last, hlast, results, hnexts, rfl⟩
      exact ⟨inner, last, hrun, hlast, hnexts, rfl⟩

theorem pass_eq_inr {body : Frame × World σ -> Option (Frame × World σ)} {outer : Frame}
    {values : List Scalar × World σ}
    (h : header.pass invoke body outer values = some (.inr next)) :
    header.run invoke (outer.bindAll header.parameters values.1, values.2) =
      some (false, next) := by
  simp only [pass, Option.bind_eq_bind, Option.bind_eq_some_iff] at h
  rcases h with ⟨⟨goesOn, inner⟩, hrun, h⟩
  cases goesOn with
  | true => simp [Option.bind_eq_some_iff] at h
  | false =>
      simp only [Bool.false_eq_true, if_false, Option.some.injEq, Sum.inr.injEq] at h
      rw [hrun, h]

/-- What a loop carries into a pass, in its types, is in scope there. -/
theorem types_enter {scope entered : Scope} (h : header.enter scope = .ok entered) {frame : Frame}
    (htypes : scope.Types frame) {values : List Scalar}
    (hvalues : values.map Scalar.type = header.carried.map Carried.type) :
    entered.Types (frame.bindAll header.parameters values) := by
  have hbound := (show (scope.require (header.carried.all fun carried =>
    scope.typeOf carried.initial == carried.type)).Types frame from htypes).bindAll
      header.parameters values
  rw [hvalues, parameters, List.zip_map'] at hbound
  rw [(enter_eq_ok h).right]
  exact hbound

end LoopHeader

namespace Region

variable {σ : Type} {env : Surroundings} {invoke : FuncId -> Behaviour σ} {scope after : Scope}

/-- What is carried under some numbers has the types that these have in a scope. -/
theorem types_carried {frame : Frame} (htypes : scope.Types frame) {carried : List Carried}
    (number : Carried -> ValueId) (hmissing : scope.missing? (carried.map number) = none)
    (hfits : forall one, one ∈ carried -> scope.typeOf (number one) = one.type)
    {values : List Scalar}
    (h : carried.mapM (fun one => frame.value? (number one)) = some values) :
    values.map Scalar.type = carried.map Carried.type := by
  have hvalues : List.Forall₂ (fun value x => frame.value? value = some x) (carried.map number)
      values := by
    rw [List.forall₂_map_left_iff]
    exact mapM_eq_some_iff.mp h
  rw [← htypes.map_typeOf hmissing hvalues, List.map_map]
  exact List.map_congr_left hfits

/-- Code that fits leaves a frame in which every value that is in scope has its type. -/
theorem types_run (hcalls : CallsFit env.signatureOf? invoke) {code : Code}
    (hcheck : code.check env scope = .ok after) (hfits : after.fits = true)
    {state next : Frame × World σ} (htypes : scope.Types state.1)
    (h : code.run invoke state = some next) : after.Types next.1 := by
  induction code generalizing scope after state next with
  | done =>
      cases hcheck
      cases h
      exact htypes
  | step first rest ih =>
      rcases check_step_eq_ok hcheck with ⟨middle, hfirst, hrest⟩
      rw [run_step] at h
      split at h
      · cases h
      · rename_i between hrun
        exact ih hrest hfits
          (Instruction.types_run hcalls hfirst (fits_of_check hrest hfits) htypes hrun) h
  | loop head body rest ihBody ihRest =>
      rcases check_loop_eq_ok hcheck with ⟨inner, last, hchecks, hrest⟩
      have hended := fits_of_check hrest hfits
      have hloop := hchecks.fits hended
      rcases hchecks.enter with ⟨entered, hentered, hheader⟩
      have hinitials := (LoopHeader.enter_eq_ok hentered).left
      rw [run_loop] at h
      split at h
      · cases h
      · rename_i between hrun
        rcases state with ⟨frame, world⟩
        simp only [LoopHeader.iterate, Option.bind_eq_bind, Option.bind_eq_some_iff] at hrun
        rcases hrun with ⟨values, hvalues, hrun⟩
        have hheaderTypes : forall (state : List Scalar × World σ) goesOn next,
            state.1.map Scalar.type = head.carried.map Carried.type ->
              head.run invoke (frame.bindAll head.parameters state.1, state.2) =
                some (goesOn, next) -> inner.Types next.1 := by
          intro state goesOn next hstate hrun
          exact Instruction.types_runAll hcalls hheader hloop.header
            (head.types_enter hentered htypes hstate) (LoopHeader.runAll_of_run hrun)
        have hbetween : inner.Types between.1 := by
          have hgoes : forall (state more : List Scalar × World σ),
              state.1.map Scalar.type = head.carried.map Carried.type ->
                head.pass invoke (run invoke body) frame state = some (.inl more) ->
                  more.1.map Scalar.type = head.carried.map Carried.type := by
            intro state more hstate hpass
            rcases LoopHeader.pass_eq_inl hpass with ⟨start, stop, hstart, hbody, hnexts, _⟩
            have hstop := ihBody hchecks.body hloop.body
              (hheaderTypes state true start hstate hstart) hbody
            exact types_carried hstop Carried.next hchecks.next hloop.next hnexts
          have hleaves : forall (state : List Scalar × World σ) next,
              state.1.map Scalar.type = head.carried.map Carried.type ->
                head.pass invoke (run invoke body) frame state = some (.inr next) ->
                  inner.Types next.1 := by
            intro state next hstate hpass
            exact hheaderTypes state false next hstate (LoopHeader.pass_eq_inr hpass)
          have hfirst := types_carried htypes Carried.initial hinitials hloop.initial hvalues
          exact of_repeatPass hgoes hleaves hfirst hrun
        exact ihRest hrest hfits hbetween h

end Region

/-! ## Procedures -/

namespace Procedure

variable {procedure : Procedure} {signatureOf? : FuncId -> Option MachineSignature}

/-- All operands of a procedure that is accepted fit, and its results have the declared types. -/
theorem of_check (h : procedure.check signatureOf? = .ok true) :
    exists scope, procedure.code.check (procedure.surroundings signatureOf?)
        { values := procedure.parameters, fits := true } = .ok scope ∧
      scope.missing? procedure.results = none ∧ scope.fits = true ∧
        procedure.results.map scope.typeOf = procedure.signature.returns := by
  simp only [check] at h
  split at h
  · cases h
  · rename_i scope hcode
    split at h
    · cases h
    · rename_i hresults
      simp only [Except.ok.injEq, Bool.and_eq_true, beq_iff_eq] at h
      exact ⟨scope, hcode, hresults, h.left, h.right⟩

/-- The parameters are in scope, with the arguments of a call in the frame. -/
theorem types_start {params : List MachineType} {arguments : List Scalar}
    (harguments : arguments.map Scalar.type = params) (slots : List Memory.Address) :
    Scope.Types { values := (List.range params.length).zip params, fits := true }
      (Frame.start arguments slots) := by
  have hnone : Scope.Types { values := [], fits := true } { values := [], slots := slots } := by
    intro value type hvalue
    cases hvalue
  have hbound := hnone.bindAll (List.range arguments.length) arguments
  have hlength : arguments.length = params.length := by
    rw [← harguments, List.length_map]
  rw [harguments] at hbound
  simp only [Scope.bind, Frame.bindAll, List.append_nil] at hbound
  rw [← hlength]
  exact hbound

/-- A procedure that is accepted returns what its signature says, if it is given what that says. -/
theorem types_run {σ : Type} {invoke : FuncId -> Behaviour σ}
    (hcalls : CallsFit signatureOf? invoke) (hcheck : procedure.check signatureOf? = .ok true)
    {arguments results : List Scalar} {world after : World σ}
    (harguments : arguments.map Scalar.type = procedure.signature.params)
    (h : procedure.run invoke arguments world = some (results, after)) :
    results.map Scalar.type = procedure.signature.returns := by
  rcases of_check hcheck with ⟨scope, hcode, hmissing, hfits, hreturns⟩
  simp only [run, Option.bind_eq_bind, Option.bind_eq_some_iff, Option.some.injEq,
    Prod.mk.injEq] at h
  rcases h with ⟨⟨frame, left⟩, hrun, values, hvalues, rfl, _⟩
  have hstart : Scope.Types { values := procedure.parameters, fits := true }
      (Frame.start arguments (StackSlot.addresses procedure.slots
        (StackSlot.bottom procedure.slots world.stack))) := types_start harguments _
  have htypes := Region.types_run hcalls hcode hfits hstart hrun
  rw [← hreturns]
  exact (htypes.map_typeOf hmissing (mapM_eq_some_iff.mp hvalues)).symm

end Procedure

end Provision
