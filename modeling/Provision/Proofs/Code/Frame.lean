import Provision.Association
import Provision.Proofs.Code.Trace

/-!
# Frames of straight code

What a frame holds after values have been bound, and what straight code leaves alone.  Emission
numbers values upwards, so that a block changes no value below its first one.
-/

namespace Provision

/-! ## Bound values -/

namespace Frame

@[simp] theorem value?_bind (frame : Frame) (result value : ValueId) (x : Scalar) :
    (frame.bind result x).value? value = if value = result then some x else frame.value? value := by
  unfold Frame.bind Frame.value?
  by_cases h : value = result
  · simp [h]
  · rw [Association.lookup_cons_of_ne x frame.values h, if_neg h]

@[simp] theorem bindAll_cons (frame : Frame) (result : ValueId) (results : List ValueId)
    (x : Scalar) (values : List Scalar) :
    frame.bindAll (result :: results) (x :: values) =
      (frame.bindAll results values).bind result x := rfl

theorem value?_bindAll_of_not_mem (frame : Frame) {results : List ValueId} {value : ValueId}
    (h : value ∉ results) (values : List Scalar) :
    (frame.bindAll results values).value? value = frame.value? value := by
  induction results generalizing values with
  | nil => rfl
  | cons result results ih =>
      simp only [List.mem_cons, not_or] at h
      cases values with
      | nil => rfl
      | cons x values =>
          rw [bindAll_cons, value?_bind, if_neg h.left]
          exact ih h.right values

/-! ## Values left alone -/

/-- Every value below a number is after some code what it was before. -/
def Keeps (first : ValueId) (frame after : Frame) : Prop :=
  forall value, value < first -> after.value? value = frame.value? value

theorem Keeps.refl (first : ValueId) (frame : Frame) : Keeps first frame frame := by
  intro value _
  rfl

theorem Keeps.trans {first second : ValueId} {a b c : Frame} (hle : first ≤ second)
    (hab : Keeps first a b) (hbc : Keeps second b c) : Keeps first a c := by
  intro value hvalue
  rw [hbc value (Nat.lt_of_lt_of_le hvalue hle), hab value hvalue]

theorem Keeps.bind {first result : ValueId} {frame after : Frame} (h : Keeps first frame after)
    (hresult : first ≤ result) (x : Scalar) : Keeps first frame (after.bind result x) := by
  intro value hvalue
  have hne : value ≠ result := Nat.ne_of_lt (Nat.lt_of_lt_of_le hvalue hresult)
  rw [value?_bind, if_neg hne]
  exact h value hvalue

theorem Keeps.bindAll {first : ValueId} {results : List ValueId} {frame after : Frame}
    (h : Keeps first frame after) (hresults : forall result, result ∈ results -> first ≤ result)
    (values : List Scalar) : Keeps first frame (after.bindAll results values) := by
  intro value hvalue
  have hnot : value ∉ results := by
    intro hmem
    exact Nat.not_le_of_lt hvalue (hresults value hmem)
  rw [value?_bindAll_of_not_mem after hnot]
  exact h value hvalue

theorem Keeps.value? {first value : ValueId} {frame after : Frame} {x : Scalar}
    (h : Keeps first frame after) (hvalue : frame.value? value = some x)
    (hlt : value < first) : after.value? value = some x := by
  rw [h value hlt]
  exact hvalue

end Frame

/-! ## Straight code -/

namespace Instruction

variable {σ : Type}

/-- Instructions lead from one state to another, by way of some effects, and leave the values below
a number alone. -/
structure Leads (invoke : FuncId -> Behaviour σ) (instructions : List Instruction)
    (first : ValueId) (before after : Frame × World σ) (effects : List Effect) : Prop where
  runs : runAll invoke instructions before = some after
  keeps : before.1.Keeps first after.1
  does : traceAll invoke instructions before = effects

theorem Leads.append {invoke : FuncId -> Behaviour σ} {xs ys : List Instruction}
    {first second : ValueId} {a b c : Frame × World σ} {effects more : List Effect}
    (hle : first ≤ second) (hxs : Leads invoke xs first a b effects)
    (hys : Leads invoke ys second b c more) :
    Leads invoke (xs ++ ys) first a c (effects ++ more) where
  runs := by
    rw [runAll_append, hxs.runs]
    exact hys.runs
  keeps := hxs.keeps.trans hle hys.keeps
  does := by
    rw [traceAll_append, hxs.runs, hxs.does]
    exact congrArg (effects ++ ·) hys.does

theorem leads_compute {invoke : FuncId -> Behaviour σ} {result : ValueId} {operation : Operation}
    {frame : Frame} {world : World σ} {x : Scalar} (h : operation.eval frame.value? = some x) :
    Leads invoke [.compute result operation] result (frame, world)
      (frame.bind result x, world) [] where
  runs := by
    simp [runAll, run, h]
  keeps := (Frame.Keeps.refl result frame).bind (Nat.le_refl result) x
  does := by
    simp [traceAll, effect?, run, h]

theorem leads_increment (invoke : FuncId -> Behaviour σ) (world : World σ) (result : ValueId)
    {a : ValueId} {width : Width} {x : BitVec width.bits} {frame : Frame}
    (h : frame.value? a = some (.int width x)) :
    exists after, Leads invoke [.compute result (.addImmediate a 1)] result (frame, world)
        (after, world) [] ∧
      after.value? result = some (.int width (x + 1)) := by
  have hsum : (Operation.addImmediate a 1).eval frame.value? = some (.int width (x + 1)) := by
    have hone : (1#64).setWidth width.bits = (1 : BitVec width.bits) := by
      cases width
      all_goals rfl
    simp [Operation.eval, h, hone]
  refine ⟨_, leads_compute hsum, ?_⟩
  simp

end Instruction

end Provision
