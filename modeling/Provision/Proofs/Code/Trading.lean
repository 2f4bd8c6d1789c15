import Provision.Code.Fusion
import Provision.Code.Laws
import Provision.Proofs.Pairing

/-!
# Operands that trade places

The machine takes the second operand of a sum or a product of floats from memory, and where that is
the first one, the operands trade places.  Nothing else changes in code when its loads are fused, so
that a run is the same unless it comes to a sum or a product of two operands that are both not a
number: which of them is passed on is all that their order decides.
-/

namespace Provision

/-! ## Regions of one shape -/

namespace Region

variable {α β γ δ : Type}

/-- Two regions of one shape, whose steps and loops are related in turn. -/
inductive Paired (onStep : α -> γ -> Prop) (onLoop : β -> δ -> Prop) :
    Region α β -> Region γ δ -> Prop where
  | done : Paired onStep onLoop .done .done
  | step {first : α} {other : γ} {rest : Region α β} {others : Region γ δ}
      (hfirst : onStep first other) (hrest : Paired onStep onLoop rest others) :
      Paired onStep onLoop (.step first rest) (.step other others)
  | loop {head : β} {other : δ} {body rest : Region α β} {inner others : Region γ δ}
      (hhead : onLoop head other) (hbody : Paired onStep onLoop body inner)
      (hrest : Paired onStep onLoop rest others) :
      Paired onStep onLoop (.loop head body rest) (.loop other inner others)

end Region

/-! ## Instructions -/

namespace Operation

/-- A sum or a product of floats with its operands in the other order, and any other operation as it
is. -/
def trade : Operation -> Operation
  | float .add a b => float .add b a
  | float .mul a b => float .mul b a
  | operation => operation

theorem taking_cases (fetch : Fetch) (operation : Operation) :
    operation.taking fetch = operation ∨ operation.taking fetch = operation.trade := by
  unfold taking
  split
  · split
    · exact Or.inr rfl
    · exact Or.inl rfl
  · split
    · exact Or.inr rfl
    · exact Or.inl rfl
  · exact Or.inl rfl

theorem fuse_cases (operation : Operation) (outlook : Outlook) :
    (operation.fuse outlook).1 = operation ∨ (operation.fuse outlook).1 = operation.trade := by
  unfold fuse
  split
  · split
    · exact taking_cases _ operation
    · exact Or.inl rfl
  · exact Or.inl rfl

end Operation

namespace Instruction

def trade : Instruction -> Instruction
  | compute result operation => compute result operation.trade
  | instruction => instruction

/-- One instruction is another one as it is or, where they are free to, with its operands traded. -/
def Trades (free : Prop) (instruction other : Instruction) : Prop :=
  other = instruction ∨ free ∧ other = instruction.trade

theorem trades_fuse (survey : Survey) (outlook : Outlook) (instruction : Instruction) :
    instruction.Trades True (instruction.fuse survey outlook).1 := by
  cases instruction
  case compute result operation =>
      simp only [fuse]
      split
      · rcases operation.fuse_cases outlook with heq | heq
        · exact Or.inl (congrArg (compute result) heq)
        · exact Or.inr ⟨trivial, congrArg (compute result) heq⟩
      · exact Or.inl rfl
  all_goals exact Or.inl rfl

theorem trades_fuseAll (survey : Survey) (earlier : List (Option Fetch)) (needed : List ValueId)
    (instructions : List Instruction) :
    List.Forall₂ (Trades True) instructions (fuseAll survey earlier needed instructions).1 := by
  induction instructions generalizing earlier with
  | nil => exact .nil
  | cons first rest ih => exact .cons (first.trades_fuse survey _) (ih _)

end Instruction

/-! ## Code -/

def LoopHeader.Trades (free : Prop) (header other : LoopHeader) : Prop :=
  exists instructions,
    List.Forall₂ (Instruction.Trades free) header.instructions instructions ∧
      other = { header with instructions := instructions }

/-- One code is another one but for operands that have traded places. -/
def Code.Trades (free : Prop) : Code -> Code -> Prop :=
  Region.Paired (Instruction.Trades free) (LoopHeader.Trades free)

/-- Fusing lets operands trade places, and changes nothing else. -/
theorem Region.trades_fuse (survey : Survey) (earlier : List (Option Fetch))
    (needed : List ValueId) (code : Code) :
    Code.Trades True code (code.fuse survey earlier needed).1 := by
  induction code generalizing earlier needed with
  | done => exact .done
  | step first rest ih => exact .step (first.trades_fuse survey _) (ih _ _)
  | loop head body rest ihBody ihRest =>
      exact .loop ⟨_, Instruction.trades_fuseAll survey _ _ _, rfl⟩ (ihBody _ _) (ihRest _ _)

/-! ## Calm runs -/

/-- At least one operand of a sum or a product of floats is a number. -/
def Operation.Calm (value? : ValueId -> Option Scalar) : Operation -> Prop
  | float .add a b => forall x y, value? a = some x -> value? b = some y ->
      x.isNaN = false ∨ y.isNaN = false
  | float .mul a b => forall x y, value? a = some x -> value? b = some y ->
      x.isNaN = false ∨ y.isNaN = false
  | _ => True

theorem Operation.eval_trade {value? : ValueId -> Option Scalar} {operation : Operation}
    (h : operation.Calm value?) : operation.trade.eval value? = operation.eval value? := by
  unfold trade
  split
  · exact eval_float_swap (.inl rfl) h
  · exact eval_float_swap (.inr rfl) h
  · rfl

namespace Instruction

variable {σ : Type} {invoke : FuncId -> Behaviour σ} {free : Prop}

def Calm (frame : Frame) : Instruction -> Prop
  | compute _ operation => operation.Calm frame.value?
  | _ => True

/-- Whether an instruction is a sum or a product of floats. -/
def mayTrade : Instruction -> Bool
  | compute _ (.float .add _ _) => true
  | compute _ (.float .mul _ _) => true
  | _ => false

theorem calm_of_mayTrade {instruction : Instruction} (h : instruction.mayTrade = false)
    (frame : Frame) : instruction.Calm frame := by
  unfold mayTrade at h
  split at h
  · cases h
  · cases h
  · rename_i hadd hmul
    cases instruction with
    | compute result operation =>
        show operation.Calm frame.value?
        unfold Operation.Calm
        split
        · exact absurd rfl (hadd result _ _)
        · exact absurd rfl (hmul result _ _)
        · exact trivial
    | _ => exact trivial

/-- Each instruction is calm in the state in which it is run. -/
def AllCalm (invoke : FuncId -> Behaviour σ) : List Instruction -> Frame × World σ -> Prop
  | [], _ => True
  | first :: rest, state =>
      first.Calm state.1 ∧ forall next, first.run invoke state = some next ->
        AllCalm invoke rest next

theorem allCalm_of_mayTrade {instructions : List Instruction}
    (h : forall instruction, instruction ∈ instructions -> instruction.mayTrade = false)
    (state : Frame × World σ) : AllCalm invoke instructions state := by
  induction instructions generalizing state with
  | nil => exact trivial
  | cons first rest ih =>
      rw [List.forall_mem_cons] at h
      exact ⟨calm_of_mayTrade h.left state.1, fun next _ => ih h.right next⟩

theorem run_of_trades {instruction other : Instruction} (h : instruction.Trades free other)
    {state : Frame × World σ} (hcalm : free -> instruction.Calm state.1) :
    other.run invoke state = instruction.run invoke state := by
  rcases h with rfl | ⟨hfree, rfl⟩
  · rfl
  · have hcalm := hcalm hfree
    cases instruction
    case compute result operation =>
        simp only [trade, run]
        rw [Operation.eval_trade hcalm]
    all_goals rfl

theorem runAll_of_trades {instructions others : List Instruction}
    (h : List.Forall₂ (Trades free) instructions others) {state : Frame × World σ}
    (hcalm : free -> AllCalm invoke instructions state) :
    runAll invoke others state = runAll invoke instructions state := by
  induction h generalizing state with
  | nil => rfl
  | cons hfirst _ ih =>
      rw [runAll_cons, runAll_cons, run_of_trades hfirst fun hfree => (hcalm hfree).left]
      split
      · rfl
      · rename_i next hrun
        exact ih fun hfree => (hcalm hfree).right next hrun

end Instruction

/-- A property of what each pass starts with that `repeatPass` makes. -/
def EveryPass {α β : Type} (pass : α -> Option (α ⊕ β)) (p : α -> Prop) :
    (passes : Nat) -> α -> Prop
  | 0, _ => True
  | passes + 1, start =>
      p start ∧ forall next, pass start = some (.inl next) -> EveryPass pass p passes next

theorem EveryPass.of_forall {α β : Type} {pass : α -> Option (α ⊕ β)} {p : α -> Prop}
    (h : forall start, p start) (passes : Nat) (start : α) : EveryPass pass p passes start := by
  induction passes generalizing start with
  | zero => exact trivial
  | succ passes ih => exact ⟨h start, fun next _ => ih next⟩

theorem repeatPass_eq_of_every {α β : Type} {pass other : α -> Option (α ⊕ β)} {p : α -> Prop}
    {free : Prop} (hsame : forall start, (free -> p start) -> other start = pass start)
    {passes : Nat} {start : α} (h : free -> EveryPass pass p passes start) :
    repeatPass other passes start = repeatPass pass passes start := by
  induction passes generalizing start with
  | zero => rfl
  | succ passes ih =>
      unfold repeatPass
      rw [hsame start fun hfree => (h hfree).left]
      split
      · rfl
      · rename_i next hpass
        exact ih fun hfree => (h hfree).right next hpass
      · rfl

namespace LoopHeader

variable {σ : Type} {invoke : FuncId -> Behaviour σ} {free : Prop} {header other : LoopHeader}

/-- A pass is calm in its header, and in its body if that is run. -/
def CalmPass (invoke : FuncId -> Behaviour σ) (header : LoopHeader)
    (body : Frame × World σ -> Prop) (outer : Frame) (state : List Scalar × World σ) : Prop :=
  Instruction.AllCalm invoke header.instructions
      (outer.bindAll header.parameters state.1, state.2) ∧
    forall inner,
      header.run invoke (outer.bindAll header.parameters state.1, state.2) = some (true, inner) ->
        body inner

def Calm (invoke : FuncId -> Behaviour σ) (header : LoopHeader)
    (run : Frame × World σ -> Option (Frame × World σ)) (body : Frame × World σ -> Prop)
    (state : Frame × World σ) : Prop :=
  forall values, header.initials state.1 = some values ->
    EveryPass (header.pass invoke run state.1) (header.CalmPass invoke body state.1) maxPasses
      (values, state.2)

theorem Trades.parameters_eq (h : header.Trades free other) :
    other.parameters = header.parameters := by
  rcases h with ⟨_, _, rfl⟩
  rfl

theorem Trades.initials_eq (h : header.Trades free other) : other.initials = header.initials := by
  rcases h with ⟨_, _, rfl⟩
  rfl

theorem Trades.nexts_eq (h : header.Trades free other) : other.nexts = header.nexts := by
  rcases h with ⟨_, _, rfl⟩
  rfl

theorem Trades.run_eq (h : header.Trades free other) {state : Frame × World σ}
    (hcalm : free -> Instruction.AllCalm invoke header.instructions state) :
    other.run invoke state = header.run invoke state := by
  rcases h with ⟨instructions, htrades, rfl⟩
  simp only [run, Instruction.runAll_of_trades htrades hcalm]

variable {first second : Frame × World σ -> Option (Frame × World σ)}
  {body : Frame × World σ -> Prop}

theorem Trades.pass_eq (h : header.Trades free other)
    (hbody : forall state, (free -> body state) -> second state = first state) {outer : Frame}
    {state : List Scalar × World σ} (hcalm : free -> header.CalmPass invoke body outer state) :
    other.pass invoke second outer state = header.pass invoke first outer state := by
  have hrun := h.run_eq fun hfree => (hcalm hfree).left
  unfold pass
  rw [h.parameters_eq, h.nexts_eq, hrun]
  cases hentered : header.run invoke (outer.bindAll header.parameters state.1, state.2) with
  | none => rfl
  | some result =>
      rcases result with ⟨goesOn, inner⟩
      cases goesOn with
      | false => rfl
      | true =>
          have hsame := hbody inner fun hfree => (hcalm hfree).right inner hentered
          simp only [Option.bind_eq_bind, Option.bind_some, if_true, hsame]

theorem Trades.iterate_eq (h : header.Trades free other)
    (hbody : forall state, (free -> body state) -> second state = first state)
    {state : Frame × World σ} (hcalm : free -> header.Calm invoke first body state) :
    other.iterate invoke second state = header.iterate invoke first state := by
  rcases state with ⟨frame, world⟩
  cases hinitials : header.initials frame with
  | none => simp [iterate, h.initials_eq, hinitials]
  | some values =>
      rw [iterate_of_initials invoke header first hinitials,
        iterate_of_initials invoke other second (h.initials_eq ▸ hinitials)]
      apply repeatPass_eq_of_every fun _ => h.pass_eq hbody
      exact fun hfree => hcalm hfree values hinitials

end LoopHeader

/-- Each sum and each product of floats that a run comes to has an operand that is a number. -/
def Region.Calm {σ : Type} (invoke : FuncId -> Behaviour σ) : Code -> Frame × World σ -> Prop
  | done, _ => True
  | step first rest, state =>
      first.Calm state.1 ∧ forall next, first.run invoke state = some next ->
        Calm invoke rest next
  | loop head body rest, state =>
      head.Calm invoke (run invoke body) (fun state => Calm invoke body state) state ∧
        forall next, head.iterate invoke (run invoke body) state = some next ->
          Calm invoke rest next

/-- Code that neither adds nor multiplies floats is calm. -/
theorem Region.calm_of_mayTrade {σ : Type} {invoke : FuncId -> Behaviour σ} {code : Code}
    (h : forall instruction, instruction ∈ code.instructions -> instruction.mayTrade = false)
    (state : Frame × World σ) : code.Calm invoke state := by
  induction code generalizing state with
  | done => exact trivial
  | step first rest ih =>
      rw [instructions, List.forall_mem_cons] at h
      exact ⟨Instruction.calm_of_mayTrade h.left state.1, fun next _ => ih h.right next⟩
  | loop head body rest ihBody ihRest =>
      rw [instructions, List.forall_mem_append, List.forall_mem_append] at h
      refine ⟨?_, fun next _ => ihRest h.right next⟩
      intro values _
      apply EveryPass.of_forall
      intro start
      exact ⟨Instruction.allCalm_of_mayTrade h.left.left _,
        fun inner _ => ihBody h.left.right inner⟩

/-- A calm run is the same whichever operands have traded places. -/
theorem Code.Trades.run_eq {σ : Type} {invoke : FuncId -> Behaviour σ} {free : Prop}
    {code other : Code} (h : code.Trades free other) {state : Frame × World σ}
    (hcalm : free -> code.Calm invoke state) :
    Region.run invoke other state = Region.run invoke code state := by
  unfold Code.Trades at h
  induction h generalizing state with
  | done => rfl
  | step hfirst _ ih =>
      rw [Region.run_step, Region.run_step,
        Instruction.run_of_trades hfirst fun hfree => (hcalm hfree).left]
      split
      · rfl
      · rename_i next hrun
        exact ih fun hfree => (hcalm hfree).right next hrun
  | @loop head _ body _ _ _ hhead _ _ ihBody ihRest =>
      have hloop := hhead.iterate_eq (fun _ => ihBody) fun hfree => (hcalm hfree).left
      rw [Region.run_loop, Region.run_loop, hloop]
      cases hrun : head.iterate invoke (Region.run invoke body) state with
      | none => rfl
      | some next => exact ihRest fun hfree => (hcalm hfree).right next hrun

/-! ## Procedures -/

namespace Procedure

variable {σ : Type} {invoke : FuncId -> Behaviour σ} {procedure : Procedure}
  {arguments : List Scalar} {world : World σ}

/-- A call comes to no sum and to no product of two operands that are both not a number. -/
def Calm (invoke : FuncId -> Behaviour σ) (procedure : Procedure) (arguments : List Scalar)
    (world : World σ) : Prop :=
  let stack := StackSlot.bottom procedure.slots world.stack
  let slots := StackSlot.addresses procedure.slots stack
  procedure.code.Calm invoke (Frame.start arguments slots, { world with stack := stack })

/-- A calm call does the same when loads are fused. -/
theorem run_fuse (hcalm : procedure.Calm invoke arguments world) :
    procedure.fuse.run invoke arguments world = procedure.run invoke arguments world := by
  have htrades := Region.trades_fuse procedure.survey [] procedure.results procedure.code
  unfold run
  simp only [fuse]
  rw [htrades.run_eq fun _ => hcalm]

end Procedure
end Provision
