import Mathlib.Data.List.Basic
import Provision.Proofs.Code.Ending

/-!
# Counting loops

A counting loop carries an index, which starts at zero and grows by one, and goes on while the
index is less than a bound.  Such a loop comes to its end after as many passes as the bound says,
and what it leaves is what the passes in turn make of the state it started from.
-/

namespace Provision

/-! ## Steps in turn -/

/-- Takes a step for every number from zero up to a signed bound. -/
def repeatBelow {α : Type} {w : Nat} (bound : BitVec w) (step : BitVec w -> α -> α) (start : α) :
    α :=
  (List.range bound.toInt.toNat).foldl (fun state i => step (BitVec.ofNat w i) state) start

/-- The numbers from zero up to a signed bound. -/
def below {w : Nat} (bound : BitVec w) : List (BitVec w) :=
  (List.range bound.toInt.toNat).map (BitVec.ofNat w)

theorem repeatBelow_hom {α β : Type} {w : Nat} (f : α -> β) {bound : BitVec w}
    {onWhole : BitVec w -> β -> β} {onPart : BitVec w -> α -> α}
    (h : forall i a, f (onPart i a) = onWhole i (f a)) (start : α) :
    repeatBelow bound onWhole (f start) = f (repeatBelow bound onPart start) := by
  unfold repeatBelow
  exact List.foldl_hom f fun a i => (h (BitVec.ofNat w i) a).symm

/-- Steps that keep a relation keep it when they are repeated. -/
theorem repeatBelow_rel {α : Type} {w : Nat} {bound : BitVec w} {step : BitVec w -> α -> α}
    {r : α -> α -> Prop} (h : forall i a b, r a b -> r (step i a) (step i b)) {a b : α}
    (hstart : r a b) : r (repeatBelow bound step a) (repeatBelow bound step b) :=
  List.foldl_rel hstart fun i _ _ _ hbefore => h (BitVec.ofNat w i) _ _ hbefore

/-- Changes the memory of a world. -/
def World.onMemory {σ : Type} (change : Memory -> Memory) (world : World σ) : World σ :=
  { world with memory := change world.memory }

theorem repeatBelow_onMemory {σ : Type} {w : Nat} (bound : BitVec w)
    (step : BitVec w -> Memory -> Memory) (world : World σ) :
    repeatBelow bound (fun i => World.onMemory (step i)) world =
      world.onMemory (repeatBelow bound step) :=
  repeatBelow_hom (fun memory => World.mk memory world.stack world.host) (fun _ _ => rfl)
    world.memory

/-- A number up to a signed bound stands for itself. -/
theorem toInt_ofNat_of_le {w : Nat} {bound : BitVec w} {i : Nat} (h : i ≤ bound.toInt.toNat) :
    (BitVec.ofNat w i).toInt = i := by
  have hbelow := BitVec.two_mul_toInt_lt (x := bound)
  have hpos : (0 : Int) < 2 ^ w := Int.pow_pos (by decide)
  rw [BitVec.toInt_ofNat']
  apply Int.bmod_eq_of_le_mul_two
  · push_cast
    omega
  · push_cast
    omega

theorem slt_ofNat {w : Nat} {bound : BitVec w} {i : Nat} (h : i ≤ bound.toInt.toNat) :
    (BitVec.ofNat w i).slt bound = decide (i < bound.toInt.toNat) := by
  rw [BitVec.slt_eq_decide, toInt_ofNat_of_le h]
  apply decide_eq_decide.mpr
  omega

/-! ## Passes in turn -/

/-- A pass that goes on from each of some states to the next and leaves from the last one comes to
its end. -/
theorem repeatPass_of_states {α β : Type} {pass : α -> Option (α ⊕ β)} (states : Nat -> α)
    {result : β} {count passes : Nat} (hpasses : count < passes)
    (hgoes : forall i, i < count -> pass (states i) = some (.inl (states (i + 1))))
    (hleaves : pass (states count) = some (.inr result)) :
    repeatPass pass passes (states 0) = some result := by
  induction count generalizing states passes with
  | zero =>
      cases passes with
      | zero => cases hpasses
      | succ passes => exact repeatPass_of_leaves passes hleaves
  | succ count ih =>
      cases passes with
      | zero => cases hpasses
      | succ passes =>
          -- The passes that are left start from the next state, so the states are shifted by one.
          rw [repeatPass_of_goesOn passes (hgoes 0 (Nat.succ_pos count))]
          exact ih (fun i => states (i + 1)) (Nat.lt_of_succ_lt_succ hpasses)
            (fun i hi => hgoes (i + 1) (Nat.succ_lt_succ hi)) hleaves

/-- A result follows another one if it is nothing where that is nothing, and else fits it. -/
def Follows {α β : Type} (meaning : Option α) (fits : α -> β -> Prop) (result : Option β) : Prop :=
  match meaning with
  | none => result = none
  | some x => exists y, result = some y ∧ fits x y

theorem Follows.mono {α β : Type} {meaning : Option α} {fits wider : α -> β -> Prop}
    {result : Option β} (h : Follows meaning fits result)
    (hfits : forall x y, fits x y -> wider x y) : Follows meaning wider result := by
  cases meaning with
  | none => exact h
  | some x =>
      rcases h with ⟨y, hy, hfit⟩
      exact ⟨y, hy, hfits x y hfit⟩

/-- Passes that take steps in turn come to the end that the steps lead to, or get stuck where one of
them does.  What holds at the start and is kept by each step holds in the end. -/
theorem repeatPass_of_steps {α β γ : Type} {pass : α -> Option (α ⊕ β)}
    {step : γ -> Nat -> Option γ} (holds : γ -> Prop) (state : Nat -> γ -> α) (leave : γ -> β)
    {first count passes : Nat} (hpasses : count < passes)
    (hgoes : forall i x, i < first + count -> holds x ->
      Follows (step x i) (fun y next => next = .inl (state (i + 1) y) ∧ holds y)
        (pass (state i x)))
    (hleaves : forall x, holds x -> pass (state (first + count) x) = some (.inr (leave x)))
    {x : γ} (hx : holds x) :
    Follows ((List.range' first count).foldlM step x) (fun y last => last = leave y ∧ holds y)
      (repeatPass pass passes (state first x)) := by
  induction count generalizing first passes x with
  | zero =>
      cases passes with
      | zero => cases hpasses
      | succ passes => exact ⟨_, repeatPass_of_leaves passes (hleaves x hx), rfl, hx⟩
  | succ count ih =>
      cases passes with
      | zero => cases hpasses
      | succ passes =>
          have hpass := hgoes first x (Nat.lt_add_of_pos_right (Nat.succ_pos count)) hx
          rw [List.range'_succ, List.foldlM_cons]
          cases hstep : step x first with
          | none =>
              rw [hstep] at hpass
              exact repeatPass_of_stuck passes hpass
          | some y =>
              rw [hstep] at hpass
              rcases hpass with ⟨_, hnext, rfl, hy⟩
              have hend : first + (count + 1) = first + 1 + count := by
                omega
              rw [hend] at hgoes hleaves
              rw [repeatPass_of_goesOn passes hnext]
              exact ih (Nat.lt_of_succ_lt_succ hpasses) hgoes hleaves hy

/-! ## Headers that count -/

/-- The values that a counting loop is about. -/
structure Counting where
  width : Width
  index : ValueId
  test : ValueId
  origin : ValueId
  next : ValueId
  bound : ValueId
  locals : List Carried

namespace Counting

variable {σ : Type} {frame : Frame}

def header (counting : Counting) : LoopHeader where
  carried :=
    { value := counting.index
      type := .int counting.width
      initial := counting.origin
      next := counting.next } :: counting.locals
  instructions := [.compute counting.test (.less counting.index counting.bound)]
  test := counting.test

/-- The frame of a pass with the given index and locals, in which the test has been made. -/
def enter (counting : Counting) (frame : Frame) (x : BitVec counting.width.bits)
    (values : List Scalar) (goesOn : Bool) : Frame :=
  (frame.bindAll counting.header.parameters (.int counting.width x :: values)).bind counting.test
    (.truth goesOn)

theorem leads_header (counting : Counting) (invoke : FuncId -> Behaviour σ) (world : World σ)
    (x : BitVec counting.width.bits) (values : List Scalar) {e : BitVec counting.width.bits}
    (hbound : frame.value? counting.bound = some (.int counting.width e))
    (hfree : counting.bound ∉ counting.header.parameters) :
    Instruction.Leads invoke counting.header.instructions counting.test
      (frame.bindAll counting.header.parameters (.int counting.width x :: values), world)
      (counting.enter frame x values (x.slt e), world) [] := by
  have hindex : (frame.bindAll counting.header.parameters
      (.int counting.width x :: values)).value? counting.index = some (.int counting.width x) := by
    simp [LoopHeader.parameters, header]
  have hstill : (frame.bindAll counting.header.parameters
      (.int counting.width x :: values)).value? counting.bound = some (.int counting.width e) := by
    rw [Frame.value?_bindAll_of_not_mem frame hfree, hbound]
  refine Instruction.leads_compute ?_
  simp [Operation.eval, hindex, hstill, Scalar.asInt?_int]

theorem run_header (counting : Counting) (invoke : FuncId -> Behaviour σ) (world : World σ)
    (x : BitVec counting.width.bits) (values : List Scalar) {e : BitVec counting.width.bits}
    (hbound : frame.value? counting.bound = some (.int counting.width e))
    (hfree : counting.bound ∉ counting.header.parameters) :
    counting.header.run invoke
        (frame.bindAll counting.header.parameters (.int counting.width x :: values), world) =
      some (x.slt e, (counting.enter frame x values (x.slt e), world)) := by
  simp only [LoopHeader.run]
  rw [(counting.leads_header invoke world x values hbound hfree).runs]
  cases hslt : x.slt e
  · simp [enter, header, Scalar.truth, Scalar.asInt?_int]
  · simp [enter, header, Scalar.truth, Scalar.asInt?_int]

/-- A counting loop ends in the state that its passes lead to in turn, with its index at the
bound, or at zero if the bound is less.  It does what its bodies do. -/
theorem ends_of_states (counting : Counting) (invoke : FuncId -> Behaviour σ)
    (hwidth : counting.width.bits ≤ 64) {e : BitVec counting.width.bits} {body : Code}
    (hbound : frame.value? counting.bound = some (.int counting.width e))
    (hfree : counting.bound ∉ counting.header.parameters)
    (values : Nat -> List Scalar) (worlds : Nat -> World σ)
    (effects : BitVec counting.width.bits -> List Effect)
    (hinitials : counting.header.initials frame = some (.int counting.width 0 :: values 0))
    (hpass : forall i, i < e.toInt.toNat ->
      exists after : Frame,
        body.Ends invoke (counting.enter frame (BitVec.ofNat _ i) (values i) true, worlds i)
            (after, worlds (i + 1)) (effects (BitVec.ofNat _ i)) ∧
          counting.header.nexts after =
            some (.int counting.width (BitVec.ofNat _ (i + 1)) :: values (i + 1))) :
    counting.header.Ends invoke body (frame, worlds 0)
      (counting.enter frame (BitVec.ofNat _ e.toInt.toNat) (values e.toInt.toNat) false,
        worlds e.toInt.toNat) ((below e).flatMap effects) := by
  let states : Nat -> List Scalar × World σ :=
    fun i => (.int counting.width (BitVec.ofNat _ i) :: values i, worlds i)
  have hpasses : e.toInt.toNat < maxPasses := by
    have hbelow := BitVec.two_mul_toInt_lt (x := e)
    have hpower : (2 : Int) ^ counting.width.bits ≤ 2 ^ 64 := by
      exact_mod_cast Nat.pow_le_pow_right (by decide) hwidth
    unfold maxPasses
    omega
  have hheader : forall i, i ≤ e.toInt.toNat ->
      counting.header.run invoke
          (frame.bindAll counting.header.parameters (states i).1, (states i).2) =
        some (decide (i < e.toInt.toNat), (counting.enter frame (BitVec.ofNat _ i) (values i)
          (decide (i < e.toInt.toNat)), worlds i)) := by
    intro i hi
    have hrun := counting.run_header invoke (worlds i) (BitVec.ofNat _ i) (values i) hbound hfree
    rw [slt_ofNat hi] at hrun
    exact hrun
  have hquiet : forall i, Instruction.traceAll invoke counting.header.instructions
      (frame.bindAll counting.header.parameters (states i).1, (states i).2) = [] :=
    fun i => (counting.leads_header invoke (worlds i) (BitVec.ofNat _ i) (values i) hbound
      hfree).does
  have hgoes : forall i, i < e.toInt.toNat ->
      counting.header.pass invoke (body.run invoke) frame (states i) =
        some (.inl (states (i + 1))) := by
    intro i hi
    rcases hpass i hi with ⟨after, hbody, hnexts⟩
    have hrun := hheader i (Nat.le_of_lt hi)
    rw [decide_eq_true hi] at hrun
    exact counting.header.pass_of_goesOn invoke _ hrun hbody.runs hnexts
  have hlast := hheader e.toInt.toNat (Nat.le_refl _)
  rw [decide_eq_false (Nat.lt_irrefl _)] at hlast
  have hleaves := counting.header.pass_of_leaves invoke (body.run invoke) hlast
  constructor
  · rw [LoopHeader.iterate_of_initials invoke counting.header _ hinitials]
    exact repeatPass_of_states states hpasses hgoes hleaves
  · simp only [LoopHeader.trace, hinitials]
    have hend : counting.header.passTrace invoke (body.trace invoke) frame
        (states e.toInt.toNat) = [] := by
      simp [LoopHeader.passTrace, hquiet, hlast]
    refine (repeatTrace_of_states states hpasses hgoes hleaves).trans ?_
    rw [hend, List.append_nil, below, List.flatMap_map]
    refine List.flatMap_congr ?_
    intro i hi
    have hlt := List.mem_range.mp hi
    rcases hpass i hlt with ⟨after, hbody, _⟩
    have hrun := hheader i (Nat.le_of_lt hlt)
    rw [decide_eq_true hlt] at hrun
    simp [LoopHeader.passTrace, hquiet, hrun, hbody.does]

theorem ends_without_locals (counting : Counting) (invoke : FuncId -> Behaviour σ)
    (world : World σ) (hwidth : counting.width.bits ≤ 64) (hlocals : counting.locals = [])
    {e : BitVec counting.width.bits} {body : Code}
    (hbound : frame.value? counting.bound = some (.int counting.width e))
    (hfree : counting.bound ≠ counting.index)
    (horigin : frame.value? counting.origin = some (.int counting.width 0))
    {step : BitVec counting.width.bits -> World σ -> World σ}
    (effects : BitVec counting.width.bits -> List Effect)
    (hpass : forall x world, exists after : Frame,
      body.Ends invoke (counting.enter frame x [] true, world) (after, step x world) (effects x) ∧
        after.value? counting.next = some (.int counting.width (x + 1))) :
    counting.header.Ends invoke body (frame, world)
      (counting.enter frame (BitVec.ofNat _ e.toInt.toNat) [] false,
        repeatBelow e step world) ((below e).flatMap effects) := by
  let worlds : Nat -> World σ :=
    fun i => (List.range i).foldl (fun state i => step (BitVec.ofNat _ i) state) world
  have hstart : worlds 0 = world := rfl
  rw [← hstart]
  refine counting.ends_of_states invoke hwidth hbound ?_ (fun _ => []) worlds effects ?_ ?_
  · simpa [LoopHeader.parameters, header, hlocals] using hfree
  · simp [LoopHeader.initials, header, hlocals, horigin]
  · intro i _
    rcases hpass (BitVec.ofNat _ i) (worlds i) with ⟨after, hbody, hnext⟩
    refine ⟨after, ?_, ?_⟩
    · have hlater : worlds (i + 1) = step (BitVec.ofNat _ i) (worlds i) := by
        simp [worlds, List.range_succ]
      rw [hlater]
      exact hbody
    · have hgrown : BitVec.ofNat counting.width.bits i + 1 = BitVec.ofNat _ (i + 1) :=
        (BitVec.ofNat_add i 1).symm
      rw [hgrown] at hnext
      simp [LoopHeader.nexts, header, hlocals, hnext]

theorem keeps_enter (counting : Counting) {first : ValueId} (hindex : first ≤ counting.index)
    (htest : first ≤ counting.test)
    (hlocals : forall carried, carried ∈ counting.locals -> first ≤ carried.value)
    (x : BitVec counting.width.bits) (values : List Scalar) (goesOn : Bool) :
    frame.Keeps first (counting.enter frame x values goesOn) := by
  refine Frame.Keeps.bind ((Frame.Keeps.refl first frame).bindAll ?_ _) htest _
  intro result hresult
  simp only [LoopHeader.parameters, header, List.map_cons, List.mem_cons, List.mem_map] at hresult
  rcases hresult with hfirst | ⟨carried, hcarried, hvalue⟩
  · rw [hfirst]
    exact hindex
  · rw [← hvalue]
    exact hlocals carried hcarried

theorem keeps_pass (counting : Counting) (frame : Frame) {first : ValueId}
    (hlocals : counting.locals = []) (horigin : first ≤ counting.origin)
    (hindex : first ≤ counting.index) (htest : first ≤ counting.test)
    (x : BitVec counting.width.bits) (goesOn : Bool) :
    frame.Keeps first
      (counting.enter (frame.bind counting.origin (.int counting.width 0)) x [] goesOn) := by
  have hbind := (Frame.Keeps.refl first frame).bind horigin (.int counting.width 0)
  have hnone : forall carried, carried ∈ counting.locals -> first ≤ carried.value := by
    intro carried hcarried
    rw [hlocals] at hcarried
    cases hcarried
  exact hbind.trans (Nat.le_refl first) (counting.keeps_enter hindex htest hnone x [] goesOn)

theorem value?_enter_index (counting : Counting) (hne : counting.index ≠ counting.test)
    (x : BitVec counting.width.bits) (values : List Scalar) (goesOn : Bool) :
    (counting.enter frame x values goesOn).value? counting.index =
      some (.int counting.width x) := by
  simp [enter, LoopHeader.parameters, header, hne]

/-- The zero that a counting loop starts from. -/
theorem leads_origin (counting : Counting) (invoke : FuncId -> Behaviour σ) (world : World σ) :
    Instruction.Leads invoke [.compute counting.origin (.constInt (.int counting.width) 0)]
      counting.origin (frame, world)
      (frame.bind counting.origin (.int counting.width 0), world) [] := by
  refine Instruction.leads_compute ?_
  simp [Operation.eval]

/-- A counting loop whose passes change memory, with the zero that it starts from, makes the changes
in turn; then what follows is run. -/
theorem ends_loop (counting : Counting) (invoke : FuncId -> Behaviour σ) (world : World σ)
    (hwidth : counting.width.bits ≤ 64) (hlocals : counting.locals = [])
    {e : BitVec counting.width.bits}
    (hbound : frame.value? counting.bound = some (.int counting.width e))
    (hindex : counting.bound ≠ counting.index) (horigin : counting.bound ≠ counting.origin)
    (change : BitVec counting.width.bits -> Memory -> Memory)
    (effects : BitVec counting.width.bits -> List Effect) {body rest : Code}
    {after : Frame × World σ} {more : List Effect}
    (hpass : forall x world, exists after : Frame,
      body.Ends invoke
          (counting.enter (frame.bind counting.origin (.int counting.width 0)) x [] true, world)
          (after, world.onMemory (change x)) (effects x) ∧
        after.value? counting.next = some (.int counting.width (x + 1)))
    (hrest : rest.Ends invoke
      (counting.enter (frame.bind counting.origin (.int counting.width 0))
        (BitVec.ofNat _ e.toInt.toNat) [] false, world.onMemory (repeatBelow e change)) after
      more) :
    Region.Ends invoke
      (.step (.compute counting.origin (.constInt (.int counting.width) 0))
        (.loop counting.header body rest)) (frame, world) after
      ((below e).flatMap effects ++ more) := by
  have hstill : (frame.bind counting.origin (.int counting.width 0)).value? counting.bound =
      some (.int counting.width e) := by
    rw [Frame.value?_bind, if_neg horigin, hbound]
  have hstart : (frame.bind counting.origin (.int counting.width 0)).value? counting.origin =
      some (.int counting.width 0) := by
    simp
  have hloop := counting.ends_without_locals invoke world hwidth hlocals hstill hindex hstart
    effects hpass
  rw [repeatBelow_onMemory] at hloop
  exact (counting.leads_origin invoke world).prepend (hloop.loop hrest)

/-! ## Loops that carry a local -/

/-- A counting loop carries one local.  The values of the loop are new from a number on, and they
differ from each other. -/
structure Carries (counting : Counting) (carried : Carried) (first : ValueId) : Prop where
  locals : counting.locals = [carried]
  width : counting.width.bits ≤ 64
  bound : counting.bound < first
  initial : carried.initial < first
  origin : first ≤ counting.origin
  index : first ≤ counting.index
  test : first ≤ counting.test
  value : first ≤ carried.value
  index_ne_test : counting.index ≠ counting.test
  value_ne_index : carried.value ≠ counting.index
  value_ne_test : carried.value ≠ counting.test

namespace Carries

variable {counting : Counting} {carried : Carried} {first : ValueId}
  (h : Carries counting carried first)

include h

/-- The local of a pass. -/
theorem value?_local (frame : Frame) (x : BitVec counting.width.bits) (value : Scalar)
    (goesOn : Bool) :
    (counting.enter frame x [value] goesOn).value? carried.value = some value := by
  simp [enter, LoopHeader.parameters, header, h.locals, h.value_ne_test, h.value_ne_index]

theorem keeps_pass (frame : Frame) (x : BitVec counting.width.bits) (values : List Scalar)
    (goesOn : Bool) :
    frame.Keeps first
      (counting.enter (frame.bind counting.origin (.int counting.width 0)) x values goesOn) := by
  have hbind := (Frame.Keeps.refl first frame).bind h.origin (.int counting.width 0)
  have hlater : forall other, other ∈ counting.locals -> first ≤ other.value := by
    intro other hother
    rw [h.locals, List.mem_singleton] at hother
    rw [hother]
    exact h.value
  exact hbind.trans (Nat.le_refl first)
    (counting.keeps_enter h.index h.test hlater x values goesOn)

/-- A counting loop whose passes change its local and nothing else, with the zero that it starts
from, changes the local in turn; then what follows is run. -/
theorem ends_loop (invoke : FuncId -> Behaviour σ) (world : World σ)
    {e : BitVec counting.width.bits}
    (hbound : frame.value? counting.bound = some (.int counting.width e)) {α : Type}
    (scalar : α -> Scalar) {start : α}
    (hinitial : frame.value? carried.initial = some (scalar start))
    (step : BitVec counting.width.bits -> α -> α)
    (effects : BitVec counting.width.bits -> List Effect) {body rest : Code}
    {after : Frame × World σ} {more : List Effect}
    (hpass : forall x state, exists after : Frame,
      body.Ends invoke
          (counting.enter (frame.bind counting.origin (.int counting.width 0)) x [scalar state]
            true, world) (after, world) (effects x) ∧
        after.value? counting.next = some (.int counting.width (x + 1)) ∧
          after.value? carried.next = some (scalar (step x state)))
    (hrest : rest.Ends invoke
      (counting.enter (frame.bind counting.origin (.int counting.width 0))
        (BitVec.ofNat _ e.toInt.toNat) [scalar (repeatBelow e step start)] false, world) after
      more) :
    Region.Ends invoke
      (.step (.compute counting.origin (.constInt (.int counting.width) 0))
        (.loop counting.header body rest)) (frame, world) after
      ((below e).flatMap effects ++ more) := by
  let begun := frame.bind counting.origin (.int counting.width 0)
  let states : Nat -> α :=
    fun i => (List.range i).foldl (fun state i => step (BitVec.ofNat _ i) state) start
  have hbegun := (Frame.Keeps.refl first frame).bind h.origin (.int counting.width 0)
  have hstill : begun.value? counting.bound = some (.int counting.width e) :=
    hbegun.value? hbound h.bound
  have hfree : counting.bound ∉ counting.header.parameters := by
    have hindex : counting.bound ≠ counting.index :=
      Nat.ne_of_lt (Nat.lt_of_lt_of_le h.bound h.index)
    have hvalue : counting.bound ≠ carried.value :=
      Nat.ne_of_lt (Nat.lt_of_lt_of_le h.bound h.value)
    simp [LoopHeader.parameters, header, h.locals, hindex, hvalue]
  have hinitials : counting.header.initials begun =
      some (.int counting.width 0 :: [scalar (states 0)]) := by
    have hstart : begun.value? counting.origin = some (.int counting.width 0) := by
      simp [begun]
    have hlocal : begun.value? carried.initial = some (scalar (states 0)) :=
      hbegun.value? hinitial h.initial
    simp [LoopHeader.initials, header, h.locals, hstart, hlocal]
  have hnexts : forall i, i < e.toInt.toNat -> exists after : Frame,
      body.Ends invoke
          (counting.enter begun (BitVec.ofNat _ i) [scalar (states i)] true, world)
          (after, world) (effects (BitVec.ofNat _ i)) ∧
        counting.header.nexts after =
          some (.int counting.width (BitVec.ofNat _ (i + 1)) :: [scalar (states (i + 1))]) := by
    intro i _
    rcases hpass (BitVec.ofNat _ i) (states i) with ⟨after, hbody, hnext, hstate⟩
    have hgrown : BitVec.ofNat counting.width.bits i + 1 = BitVec.ofNat _ (i + 1) :=
      (BitVec.ofNat_add i 1).symm
    have hlater : states (i + 1) = step (BitVec.ofNat _ i) (states i) := by
      simp [states, List.range_succ]
    refine ⟨after, hbody, ?_⟩
    rw [hgrown] at hnext
    simp [LoopHeader.nexts, header, h.locals, hnext, hstate, hlater]
  have hloop := counting.ends_of_states invoke h.width hstill hfree
    (fun i => [scalar (states i)]) (fun _ => world) effects hinitials hnexts
  exact (counting.leads_origin invoke world).prepend (hloop.loop hrest)

end Carries

end Counting
end Provision
