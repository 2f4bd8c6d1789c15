import Provision.Script.Emission

/-!
# What emission is composed of

An action of emission looks at the builder, computes, or adds something else to what the builder
holds.  What is said of actions here is a property that is kept when one action goes on with
another.  It is then enough that the parts have it, and everything composed of them has it too.
-/

namespace Provision

/-- A script uses something that is not there, or is not of the type that it should be of. -/
def Misuse.IsOfScript : Misuse -> Prop
  | noSuchParameter _ | unboundName _ | unknownFunction _ | wrongLocalType _ => True
  | _ => False

/-- An ordinary step computes, reads or writes.  The others call a function, reserve a slot or ask
for a fault. -/
def Step.isOrdinary : Step -> Bool
  | reserve _ _ _ | call _ _ _ | callFirst _ _ _ | fail _ => false
  | _ => true

/-- A change to a builder beside the code: the instructions have no part in it, and no slot is
reserved. -/
structure Builder.Aside (change : Builder -> Builder) : Prop where
  pending : forall (builder : Builder) instructions,
    change { builder with pending := instructions } =
      { change builder with pending := instructions }
  slots : forall builder, (change builder).slots = builder.slots

theorem Builder.Aside.pending_change {change : Builder -> Builder} (h : Aside change)
    (builder : Builder) : (change builder).pending = builder.pending := by
  have hsame : change builder = { change builder with pending := builder.pending } :=
    h.pending builder builder.pending
  rw [hsame]

namespace Emit

/-! ## Properties of what is composed -/

/-- A property of actions that look at a builder, though not at the instructions, and of those that
go on after others. -/
structure Looking (holds : forall {α : Type}, Emit α -> Prop) : Prop where
  pure : forall {α : Type} (x : α), holds (pure x : Emit α)
  misuse : forall {α : Type} {misuse : Misuse}, misuse.IsOfScript ->
    holds (Action.misuse misuse : Emit α)
  bind : forall {α β : Type} {action : Emit α} {next : α -> Emit β}, holds action ->
    (forall x, holds (next x)) -> holds (action >>= next)
  look : forall {α : Type} {next : Builder -> Emit α}, (forall builder, holds (next builder)) ->
    (forall (builder : Builder) instructions,
      next { builder with pending := instructions } = next builder) -> holds (get >>= next)

/-- A property that computing has as well. -/
structure Computing (holds : forall {α : Type}, Emit α -> Prop) : Prop extends Looking holds where
  compute : forall operation, holds (compute operation)

/-- A property of everything that adds to a builder, except for calls and slots. -/
structure Building (holds : forall {α : Type}, Emit α -> Prop) : Prop extends Looking holds where
  fresh : forall type, holds (fresh type)
  append : forall {instruction : Instruction},
    (forall results callee arguments, instruction ≠ .call results callee arguments) ->
      holds (append instruction)
  modify : forall {change : Builder -> Builder}, Builder.Aside change ->
    holds (modify change : Emit Unit)

end Emit

variable {holds : forall {α : Type}, Emit α -> Prop}

/-! ## Looking at a builder -/

namespace Emit.Looking

variable (h : Looking holds)

include h

theorem typeOf (value : ValueId) : holds (Emit.typeOf value) :=
  h.look (fun _ => h.pure _) fun _ _ => rfl

theorem valueOf (name : String) : holds (Emit.valueOf name) := by
  refine h.look (fun builder => ?_) fun _ _ => rfl
  cases builder.names.lookup name with
  | some value => exact h.pure value
  | none => exact h.misuse trivial

theorem valuesOf (names : List String) : holds (Emit.valuesOf names) := by
  induction names with
  | nil => exact h.pure _
  | cons name rest ih =>
      apply h.bind (h.valueOf name)
      intro value
      exact h.bind ih fun values => h.pure _

theorem localOf (name : String) : holds (Emit.localOf name) := by
  refine h.look (fun builder => ?_) fun _ _ => rfl
  cases builder.localNames.lookup name with
  | some id => exact h.pure id
  | none => exact h.misuse trivial

theorem locals : holds Emit.locals :=
  h.look (fun _ => h.pure _) fun _ _ => rfl

theorem localValue (id : LocalId) : holds (Emit.localValue id) :=
  h.look (fun _ => h.pure _) fun _ _ => rfl

theorem carried (values initials nexts : List ValueId) :
    holds (Emit.carried values initials nexts) := by
  induction values generalizing initials nexts with
  | nil => exact h.pure _
  | cons value values ih =>
      cases initials with
      | nil => exact h.pure _
      | cons initial initials =>
          cases nexts with
          | nil => exact h.pure _
          | cons next nexts =>
              apply h.bind (h.typeOf value)
              intro type
              exact h.bind (ih initials nexts) fun rest => h.pure _

end Emit.Looking

/-! ## Computing -/

namespace Emit.Computing

variable (h : Computing holds) (site : Site)

include h

theorem constFloat (type : DataType) (value : Binary.Pattern .double) :
    holds (Emit.constFloat type value) := by
  cases type
  all_goals exact h.compute _

theorem zero (type : DataType) : holds (Emit.zero site type) := by
  unfold Emit.zero
  split
  · exact h.constFloat _ _
  · exact h.compute _

theorem resize (extend : MachineType -> ValueId -> Operation) (type : MachineType)
    (value : ValueId) : holds (Emit.resize extend type value) := by
  apply h.bind (h.typeOf value)
  intro found
  simp only
  split
  · exact h.compute _
  · split
    · exact h.compute _
    · exact h.pure value

theorem fromSigned (type : DataType) (value : ValueId) :
    holds (Emit.fromSigned site type value) :=
  h.bind (h.resize _ _ value) fun _ => h.compute _

theorem fromUnsigned (type : DataType) (value : ValueId) :
    holds (Emit.fromUnsigned site type value) :=
  h.bind (h.resize _ _ value) fun _ => h.compute _

theorem addressAt (element : DataType) (base index : ValueId) :
    holds (Emit.addressAt site element base index) := by
  apply h.bind (h.resize _ _ index)
  intro index
  exact h.bind (h.compute _) fun offset => h.compute _

theorem start (loop : CountedLoop) : holds loop.start := by
  apply h.bind (h.valueOf _)
  intro bound
  apply h.bind (h.typeOf bound)
  intro type
  exact h.bind (h.compute _) fun origin => h.pure _

end Emit.Computing

/-! ## Adding to a builder -/

namespace Emit.Building

variable (h : Building holds)

include h

theorem compute (operation : Operation) : holds (Emit.compute operation) := by
  refine h.look (fun builder => ?_) fun _ _ => rfl
  apply h.bind (h.fresh _)
  intro result
  exact h.bind (h.append nofun) fun _ => h.pure result

theorem computing : Computing holds :=
  { h with compute := h.compute }

theorem another (values : List ValueId) : holds (Emit.another values) := by
  induction values with
  | nil => exact h.pure _
  | cons value rest ih =>
      apply h.bind (h.typeOf value)
      intro type
      apply h.bind (h.fresh type)
      intro new
      exact h.bind ih fun news => h.pure _

theorem freshAll (types : List MachineType) : holds (Emit.freshAll types) := by
  induction types with
  | nil => exact h.pure _
  | cons type rest ih =>
      apply h.bind (h.fresh type)
      intro value
      exact h.bind ih fun values => h.pure _

theorem load (site : Site) (type : DataType) (address : ValueId) (offset : Int) :
    holds (Emit.load site type address offset) := by
  apply h.bind (h.fresh _)
  intro result
  exact h.bind (h.append nofun) fun _ => h.pure result

/-! ### Names and locals -/

theorem bindName (name : String) (value : ValueId) : holds (Emit.bind name value) :=
  h.modify ⟨fun _ _ => rfl, fun _ => rfl⟩

theorem bindAll (names : List String) (values : List ValueId) :
    holds (Emit.bindAll names values) := by
  induction names generalizing values with
  | nil => exact h.pure _
  | cons name names ih =>
      cases values with
      | nil => exact h.pure _
      | cons value values => exact h.bind (h.bindName name value) fun _ => ih values

theorem note (note : Note) : holds (Emit.note note) :=
  h.modify ⟨fun _ _ => rfl, fun _ => rfl⟩

theorem recordUse (usage : Usage) : holds (Emit.recordUse usage) :=
  h.modify ⟨fun _ _ => rfl, fun _ => rfl⟩

theorem setLocals (values : List ValueId) : holds (Emit.setLocals values) :=
  h.modify ⟨fun _ _ => rfl, fun _ => rfl⟩

theorem readLocal (id : LocalId) : holds (Emit.readLocal id) := by
  apply h.bind (h.localValue id)
  intro value
  exact h.bind (h.recordUse _) fun _ => h.pure value

theorem assignLocal (name : String) (id : LocalId) (value : ValueId) :
    holds (Emit.assignLocal name id value) := by
  apply h.bind (h.typeOf value)
  intro type
  apply h.bind (h.localValue id)
  intro old
  apply h.bind (h.typeOf old)
  intro held
  split
  · exact h.modify ⟨fun _ _ => rfl, fun _ => rfl⟩
  · exact h.misuse trivial

theorem newLocal (name : String) (init : ValueId) : holds (Emit.newLocal name init) := by
  refine h.look (fun builder => ?_) fun _ _ => rfl
  apply h.bind (h.assignLocal name _ init)
  intro _
  exact h.modify ⟨fun _ _ => rfl, fun _ => rfl⟩

/-! ### Loops -/

theorem openLoop (origin : ValueId) (outer : List ValueId) :
    holds (Emit.openLoop origin outer) := by
  apply h.bind (h.typeOf origin)
  intro type
  apply h.bind (h.fresh type)
  intro index
  apply h.bind (h.another outer)
  intro inner
  exact h.bind (h.setLocals inner) fun _ => h.pure _

theorem closeLoop (index : ValueId) (inner : List ValueId) : holds (Emit.closeLoop index inner) :=
  h.bind (h.setLocals inner) fun _ => h.recordUse _

theorem header (loop : CountedLoop) (index bound : ValueId) : holds (loop.header index bound) := by
  apply h.bind (h.recordUse _)
  intro _
  apply h.bind (h.compute _)
  intro test
  exact h.bind (h.bindName _ _) fun _ => h.pure test

/-! ### Steps -/

theorem named (result : String) {value : Emit ValueId} (hvalue : holds value) :
    holds (do Emit.bind result (← value)) :=
  h.bind hvalue fun _ => h.bindName result _

theorem unary (result a : String) {value : ValueId -> Emit ValueId}
    (hvalue : forall a, holds (value a)) :
    holds (do
      let a ← Emit.valueOf a
      Emit.bind result (← value a)) :=
  h.bind (h.valueOf a) fun a => h.named result (hvalue a)

theorem binary (result a b : String) {value : ValueId -> ValueId -> Emit ValueId}
    (hvalue : forall a b, holds (value a b)) :
    holds (do
      let a ← Emit.valueOf a
      let b ← Emit.valueOf b
      Emit.bind result (← value a b)) :=
  h.bind (h.valueOf a) fun a => h.unary result b (hvalue a)

theorem step (site : Site) {step : Step} (hstep : step.isOrdinary) : holds (step.emit site) := by
  cases step with
  | param result index =>
      simp only [Step.emit]
      split
      · exact h.bindName _ _
      · exact h.misuse trivial
  | constInt result type value => exact h.named result (h.compute _)
  | constFloat result type value => exact h.named result (h.computing.constFloat type value)
  | zero result type => exact h.named result (h.computing.zero site type)
  | add result type a b => exact h.binary result a b fun _ _ => h.compute _
  | mul result type a b => exact h.binary result a b fun _ _ => h.compute _
  | multiplyAdd result a b c =>
      apply h.bind (h.valueOf a)
      intro a
      apply h.bind (h.valueOf b)
      intro b
      apply h.bind (h.valueOf c)
      intro c
      exact h.bind (h.compute _) fun product => h.named result (h.compute _)
  | int result operator a b => exact h.binary result a b fun _ _ => h.compute _
  | float result operator a b => exact h.binary result a b fun _ _ => h.compute _
  | unary result function a => exact h.unary result a fun _ => h.compute _
  | extend128 result a => exact h.unary result a fun _ => h.compute _
  | fromSigned result type a => exact h.unary result a (h.computing.fromSigned site type)
  | fromUnsigned result type a => exact h.unary result a (h.computing.fromUnsigned site type)
  | truncate result type a => exact h.unary result a fun _ => h.compute _
  | select result condition a b =>
      apply h.bind (h.valueOf condition)
      intro condition
      exact h.binary result a b fun _ _ => h.compute _
  | equals result a value => exact h.unary result a fun _ => h.compute _
  | addressAt result element base index =>
      exact h.binary result base index (h.computing.addressAt site element)
  | loadAt result element base index =>
      apply h.bind (h.valueOf base)
      intro base
      apply h.bind (h.valueOf index)
      intro index
      apply h.bind (h.computing.addressAt site element base index)
      intro address
      exact h.named result (h.load site element address 0)
  | storeAt element base index value =>
      apply h.bind (h.valueOf base)
      intro base
      apply h.bind (h.valueOf index)
      intro index
      apply h.bind (h.valueOf value)
      intro value
      exact h.bind (h.computing.addressAt site element base index) fun _ => h.append nofun
  | load result type address offset =>
      exact h.unary result address fun address => h.load site type address offset
  | store value address offset =>
      apply h.bind (h.valueOf value)
      intro value
      exact h.bind (h.valueOf address) fun _ => h.append nofun
  | newLocal name type init =>
      exact h.bind (h.valueOf init) fun init => h.newLocal name init
  | readLocal result name =>
      apply h.bind (h.localOf name)
      intro id
      exact h.named result (h.readLocal id)
  | assignLocal name value =>
      apply h.bind (h.localOf name)
      intro id
      exact h.bind (h.valueOf value) fun value => h.assignLocal name id value
  | note type => exact h.note _
  | reserve result size alignShift => cases hstep
  | call results callee arguments => cases hstep
  | callFirst result callee arguments => cases hstep
  | fail type => cases hstep

end Emit.Building
end Provision
