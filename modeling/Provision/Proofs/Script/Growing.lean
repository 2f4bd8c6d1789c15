import Mathlib.Data.List.GetD
import Provision.Proofs.Code.Standing
import Provision.Proofs.Script.Composing
import Provision.Proofs.Script.Emitting
import Provision.Proofs.Script.Meaning

/-!
# What emission adds

Emission only adds to a builder.  New values come after those that there are, each is bound once, in
the order of the text, and a name that a script does not bind keeps its value.
-/

namespace Provision

/-! ## Builders -/

namespace Builder

/-- What of a script has been emitted so far. -/
def progress (builder : Builder) : Progress where
  localNames := builder.localNames
  slots := builder.slots.length

/-- The builder without the instructions that it holds. -/
def flush (builder : Builder) : Builder :=
  { builder with pending := [] }

/-- What a builder adds to another one: values, which have been bound in turn, and names. -/
structure Extends (builder : Builder) (names : List String) (values : List ValueId)
    (after : Builder) : Prop where
  types : exists more, after.types = builder.types ++ more ∧
    values = List.range' builder.types.length more.length
  names : forall name, name ∉ names -> after.names.lookup name = builder.names.lookup name
  locals : after.locals.length = builder.locals.length

variable {builder middle after : Builder} {first second : List String} {xs ys : List ValueId}

theorem Extends.refl (builder : Builder) : builder.Extends [] [] builder where
  types := ⟨[], (List.append_nil _).symm, rfl⟩
  names := fun _ _ => rfl
  locals := rfl

theorem Extends.trans (h : builder.Extends first xs middle)
    (hnext : middle.Extends second ys after) :
    builder.Extends (first ++ second) (xs ++ ys) after where
  types := by
    rcases h.types with ⟨more, hmiddle, rfl⟩
    rcases hnext.types with ⟨others, hafter, rfl⟩
    exists more ++ others
    constructor
    · rw [hafter, hmiddle, List.append_assoc]
    · rw [hmiddle, List.length_append, List.length_append, List.range'_append_1]
  names := by
    intro name hname
    rw [List.mem_append, not_or] at hname
    rw [hnext.names name hname.right, h.names name hname.left]
  locals := hnext.locals.trans h.locals

theorem Extends.mono (h : builder.Extends first xs after)
    (hnames : forall name, name ∈ first -> name ∈ second) : builder.Extends second xs after where
  types := h.types
  names := fun name hname => h.names name fun hmem => hname (hnames name hmem)
  locals := h.locals

/-- Values that were there keep their types when others are added. -/
theorem typeOf_of_append {more : List MachineType} (h : after.types = builder.types ++ more)
    {value : ValueId} (hvalue : value < builder.types.length) :
    after.typeOf value = builder.typeOf value := by
  unfold Builder.typeOf
  rw [h, List.getD_append _ _ _ _ hvalue]

/-- The values that are added have the types that are added, in turn. -/
theorem typeOf_add {more : List MachineType} (h : after.types = builder.types ++ more) {place : Nat}
    (hplace : place < more.length) :
    after.typeOf (builder.types.length + place) = more[place] := by
  unfold Builder.typeOf
  rw [h, List.getD_append_right _ _ _ _ (Nat.le_add_right _ _), Nat.add_sub_cancel_left,
    List.getD_eq_getElem _ _ hplace]

theorem typeOf_length {type : MachineType} {more : List MachineType}
    (h : after.types = builder.types ++ type :: more) :
    after.typeOf builder.types.length = type :=
  typeOf_add h (Nat.succ_pos more.length)

theorem Extends.typeOf (h : builder.Extends first xs after) {value : ValueId}
    (hvalue : value < builder.types.length) : after.typeOf value = builder.typeOf value := by
  rcases h.types with ⟨more, htypes, _⟩
  exact typeOf_of_append htypes hvalue

theorem Extends.length_le (h : builder.Extends first xs after) :
    builder.types.length ≤ after.types.length := by
  rcases h.types with ⟨more, htypes, _⟩
  rw [htypes, List.length_append]
  exact Nat.le_add_right _ _

end Builder

/-! ## Emission -/

namespace Emit

variable {α β : Type}

/-- An action that comes to its end has added instructions, whose results are the new values, and
has bound some names. -/
def Grows (names : List String) (change : Progress -> Progress) (action : Emit α) : Prop :=
  forall builder x after, action builder = .ok x after ->
    exists more, after.pending = builder.pending ++ more ∧
      builder.Extends names (more.flatMap Instruction.results) after ∧
        after.progress = change builder.progress

/-- An action that binds no names and makes neither locals nor slots. -/
abbrev Computes (action : Emit α) : Prop :=
  Grows [] id action

theorem computes_of_unchanged {action : Emit α}
    (h : forall builder x after, action builder = .ok x after -> after = builder) :
    Computes action := by
  intro builder x after hrun
  rw [h builder x after hrun]
  exact ⟨[], (List.append_nil _).symm, .refl builder, rfl⟩

theorem computes_pure (x : α) : Computes (pure x : Emit α) := by
  apply computes_of_unchanged
  rintro builder _ _ ⟨⟩
  rfl

theorem grows_misuse (names : List String) (change : Progress -> Progress) (misuse : Misuse) :
    Grows names change (Action.misuse misuse : Emit α) := by
  intro builder x after h
  cases h

theorem grows_fault (names : List String) (change : Progress -> Progress) (fault : Fault) :
    Grows names change (Action.fault fault : Emit α) := by
  intro builder x after h
  cases h

/-- An action comes to its end if what it starts with does, and then what comes next. -/
theorem exists_of_bind_eq_ok {action : Emit α} {next : α -> Emit β} {builder after : Builder}
    {y : β} (h : (action >>= next) builder = .ok y after) :
    exists x middle, action builder = .ok x middle ∧ next x middle = .ok y after := by
  rw [Action.run_bind] at h
  cases hrun : action builder with
  | ok x middle =>
      rw [hrun] at h
      exact ⟨x, middle, rfl, h⟩
  | error stop middle =>
      rw [hrun] at h
      cases h

section Grows

variable {first second : List String} {change other : Progress -> Progress} {action : Emit α}
  {next : α -> Emit β}

/-- What comes next may depend on what the first action can answer. -/
theorem Grows.bind_of_answer (h : Grows first change action)
    (hnext : forall builder x after, action builder = .ok x after -> Grows second other (next x)) :
    Grows (first ++ second) (fun progress => other (change progress)) (action >>= next) := by
  intro builder y after hrun
  rcases exists_of_bind_eq_ok hrun with ⟨x, middle, hfirst, hsecond⟩
  rcases h builder x middle hfirst with ⟨more, hpending, hextends, hprogress⟩
  rcases hnext builder x middle hfirst middle y after hsecond with
    ⟨others, hlast, hmore, hchanged⟩
  exists more ++ others
  rw [hlast, hpending, List.append_assoc, List.flatMap_append, hchanged, hprogress]
  exact ⟨rfl, hextends.trans hmore, rfl⟩

theorem Grows.bind (h : Grows first change action) (hnext : forall x, Grows second other (next x)) :
    Grows (first ++ second) (fun progress => other (change progress)) (action >>= next) :=
  h.bind_of_answer fun _ x _ _ => hnext x

theorem Grows.then_of_answer (h : Computes action)
    (hnext : forall builder x after, action builder = .ok x after -> Grows second other (next x)) :
    Grows second other (action >>= next) :=
  h.bind_of_answer hnext

theorem Grows.then (h : Computes action) (hnext : forall x, Grows second other (next x)) :
    Grows second other (action >>= next) :=
  h.bind hnext

theorem Grows.mono (h : Grows first change action)
    (hnames : forall name, name ∈ first -> name ∈ second) : Grows second change action := by
  intro builder x after hrun
  rcases h builder x after hrun with ⟨more, hpending, hextends, hprogress⟩
  exact ⟨more, hpending, hextends.mono hnames, hprogress⟩

theorem Grows.get_bind {next : Builder -> Emit α}
    (h : forall builder, Grows second other (next builder)) : Grows second other (get >>= next) :=
  fun builder => h builder builder

end Grows

/-! ### Values and instructions -/

theorem run_compute (operation : Operation) (builder : Builder) :
    compute operation builder =
      .ok builder.types.length
        { builder with
          types := builder.types ++ [operation.resultType builder.typeOf]
          pending := builder.pending ++ [.compute builder.types.length operation] } := rfl

theorem computes_compute (operation : Operation) : Computes (compute operation) := by
  rintro builder _ _ ⟨⟩
  refine ⟨[.compute builder.types.length operation], rfl, ?_, rfl⟩
  exact ⟨⟨_, rfl, rfl⟩, fun _ _ => rfl, rfl⟩

theorem computing_computes : Computing Computes where
  pure := computes_pure
  misuse := fun _ => grows_misuse _ _ _
  bind := fun h hnext => h.then hnext
  look := fun h _ => .get_bind h
  compute := computes_compute

theorem computes_load (site : Site) (type : DataType) (address : ValueId) (offset : Int) :
    Computes (load site type address offset) := by
  rintro builder _ _ ⟨⟩
  refine ⟨[.load builder.types.length (site.lowering.lower type) address offset], rfl, ?_, rfl⟩
  exact ⟨⟨_, rfl, rfl⟩, fun _ _ => rfl, rfl⟩

theorem computes_store (value address : ValueId) (offset : Int) :
    Computes (append (.store value address offset)) := by
  rintro builder _ _ ⟨⟩
  refine ⟨[.store value address offset], rfl, ?_, rfl⟩
  exact ⟨⟨[], (List.append_nil _).symm, rfl⟩, fun _ _ => rfl, rfl⟩

theorem grows_reserve (site : Site) (size alignShift : Nat) :
    Grows [] (fun progress => { progress with slots := progress.slots + 1 })
      (reserve site size alignShift) := by
  rintro builder _ _ ⟨⟩
  refine ⟨[.slotAddress builder.types.length builder.slots.length], rfl, ?_, ?_⟩
  · exact ⟨⟨_, rfl, rfl⟩, fun _ _ => rfl, rfl⟩
  · simp only [Builder.progress, List.length_append, List.length_singleton]

theorem run_call (site : Site) {callee : FuncId} {signature : MachineSignature}
    (h : site.signatureOf? callee = some signature) (arguments : List ValueId) (builder : Builder) :
    call site callee arguments builder =
      .ok (List.range' builder.types.length signature.returns.length)
        { builder with
          types := builder.types ++ signature.returns
          pending := builder.pending ++ [.call
            (List.range' builder.types.length signature.returns.length) callee arguments] } := by
  simp only [call, h, Action.run_bind, run_freshAll, run_append, Action.run_pure]

theorem call_eq_ok {site : Site} {callee : FuncId} {arguments results : List ValueId}
    {builder after : Builder} (h : call site callee arguments builder = .ok results after) :
    exists signature, site.signatureOf? callee = some signature ∧
      results = List.range' builder.types.length signature.returns.length ∧
      after =
        { builder with
          types := builder.types ++ signature.returns
          pending := builder.pending ++ [.call
            (List.range' builder.types.length signature.returns.length) callee arguments] } := by
  cases hsignature : site.signatureOf? callee with
  | none =>
      rw [call, hsignature] at h
      cases h
  | some signature =>
      rw [run_call site hsignature] at h
      cases h
      exact ⟨signature, rfl, rfl, rfl⟩

theorem computes_call (site : Site) (callee : FuncId) (arguments : List ValueId) :
    Computes (call site callee arguments) := by
  intro builder results after h
  rcases call_eq_ok h with ⟨signature, _, _, rfl⟩
  refine ⟨_, rfl, ?_, rfl⟩
  exact ⟨⟨signature.returns, rfl, List.append_nil _⟩, fun _ _ => rfl, rfl⟩

/-! ### Names -/

theorem valueOf_eq_ok {name : String} {value : ValueId} {builder after : Builder}
    (h : valueOf name builder = .ok value after) :
    builder.names.lookup name = some value ∧ after = builder := by
  simp only [valueOf, Action.run_bind, Action.run_get] at h
  cases hlookup : builder.names.lookup name with
  | none =>
      rw [hlookup] at h
      cases h
  | some found =>
      rw [hlookup] at h
      cases h
      exact ⟨rfl, rfl⟩

theorem valuesOf_eq_ok {names : List String} {values : List ValueId} {builder after : Builder}
    (h : valuesOf names builder = .ok values after) :
    List.Forall₂ (fun name value => builder.names.lookup name = some value) names values ∧
      after = builder := by
  induction names generalizing values builder with
  | nil =>
      cases h
      exact ⟨.nil, rfl⟩
  | cons name names ih =>
      unfold valuesOf at h
      rcases exists_of_bind_eq_ok h with ⟨value, middle, hfirst, hrest⟩
      rcases valueOf_eq_ok hfirst with ⟨hvalue, hmiddle⟩
      rw [hmiddle] at hrest
      rcases exists_of_bind_eq_ok hrest with ⟨rest, last, hnames, hpure⟩
      cases hpure
      rcases ih hnames with ⟨hvalues, hlast⟩
      exact ⟨.cons hvalue hvalues, hlast⟩

theorem localOf_eq_ok {name : String} {id : LocalId} {builder after : Builder}
    (h : localOf name builder = .ok id after) :
    builder.localNames.lookup name = some id ∧ after = builder := by
  simp only [localOf, Action.run_bind, Action.run_get] at h
  cases hlookup : builder.localNames.lookup name with
  | none =>
      rw [hlookup] at h
      cases h
  | some found =>
      rw [hlookup] at h
      cases h
      exact ⟨rfl, rfl⟩

theorem grows_bindAll (names : List String) (values : List ValueId) :
    Grows (names.take values.length) id (bindAll names values) := by
  intro builder x after h
  rw [run_bindAll] at h
  cases h
  refine ⟨[], (List.append_nil _).symm, ?_, rfl⟩
  refine ⟨⟨[], (List.append_nil _).symm, rfl⟩, fun name hname => ?_, rfl⟩
  apply Association.lookup_append_of_not_mem
  rw [List.map_reverse, List.mem_reverse]
  intro hmem
  apply hname
  rw [map_fst_zip_eq_take] at hmem
  exact hmem

theorem grows_bind (name : String) (value : ValueId) : Grows [name] id (bind name value) := by
  rintro builder _ _ ⟨⟩
  refine ⟨[], (List.append_nil _).symm, ?_, rfl⟩
  refine ⟨⟨[], (List.append_nil _).symm, rfl⟩, fun other hother => ?_, rfl⟩
  exact Association.lookup_cons_of_ne value _ (List.ne_of_not_mem_cons hother)

theorem computes_note (note : Note) : Computes (Emit.note note) := by
  rintro builder _ _ ⟨⟩
  refine ⟨[], (List.append_nil _).symm, ?_, rfl⟩
  exact ⟨⟨[], (List.append_nil _).symm, rfl⟩, fun _ _ => rfl, rfl⟩

/-! ### Constants, conversions and addresses -/

variable (site : Site)

theorem constFloat_eq (type : DataType) (value : Binary.Pattern .double) :
    constFloat type value = compute (Operation.floatConstant type value) := by
  cases type
  all_goals rfl

theorem zero_eq (type : DataType) : zero site type = compute (site.lowering.zeroConstant type) := by
  unfold zero Lowering.zeroConstant
  split
  · exact constFloat_eq _ _
  · rfl

/-! ### Locals and calls -/

theorem computes_readLocal (id : LocalId) : Computes (readLocal id) := by
  rintro builder _ _ ⟨⟩
  refine ⟨[], (List.append_nil _).symm, ?_, rfl⟩
  exact ⟨⟨[], (List.append_nil _).symm, rfl⟩, fun _ _ => rfl, rfl⟩

theorem assignLocal_eq_ok {name : String} {id : LocalId} {value : ValueId} {x : Unit}
    {builder after : Builder} (h : assignLocal name id value builder = .ok x after) :
    builder.typeOf value = builder.typeOf (builder.locals.getD id default) ∧
      after = { builder with locals := builder.locals.set id value } := by
  simp only [assignLocal, typeOf, localValue, Action.run_bind, Action.run_get, Action.run_pure] at h
  split at h
  · rename_i htype
    cases h
    exact ⟨htype, rfl⟩
  · cases h

theorem computes_assignLocal (name : String) (id : LocalId) (value : ValueId) :
    Computes (assignLocal name id value) := by
  intro builder x after h
  rw [(assignLocal_eq_ok h).right]
  refine ⟨[], (List.append_nil _).symm, ?_, rfl⟩
  exact ⟨⟨[], (List.append_nil _).symm, rfl⟩, fun _ _ => rfl, List.length_set⟩

theorem newLocal_eq_ok {name : String} {init : ValueId} {x : Unit} {builder after : Builder}
    (h : newLocal name init builder = .ok x after) :
    builder.typeOf init =
        builder.typeOf (builder.locals.getD builder.localNames.length default) ∧
      after =
        { builder with
          locals := builder.locals.set builder.localNames.length init
          localNames := (name, builder.localNames.length) :: builder.localNames } := by
  unfold newLocal at h
  rcases exists_of_bind_eq_ok h with ⟨found, middle, hget, hrest⟩
  cases hget
  rcases exists_of_bind_eq_ok hrest with ⟨_, assigned, hassign, hmodify⟩
  cases hmodify
  rcases assignLocal_eq_ok hassign with ⟨htype, rfl⟩
  exact ⟨htype, rfl⟩

theorem grows_newLocal (name : String) (init : ValueId) :
    Grows [] (fun progress =>
      { progress with localNames := (name, progress.localNames.length) :: progress.localNames })
      (newLocal name init) := by
  intro builder x after h
  rw [(newLocal_eq_ok h).right]
  refine ⟨[], (List.append_nil _).symm, ?_, rfl⟩
  exact ⟨⟨[], (List.append_nil _).symm, rfl⟩, fun _ _ => rfl, List.length_set⟩

theorem computes_first (callee : FuncId) (results : List ValueId) :
    Computes (match results with
      | result :: _ => (pure result : Emit ValueId)
      | [] => Action.fault (.noResult callee)) := by
  cases results with
  | nil => exact grows_fault _ _ _
  | cons result rest => exact computes_pure result

theorem computes_callFirst (callee : FuncId) (arguments : List ValueId) :
    Computes (callFirst site callee arguments) :=
  (computes_call site callee arguments).then (computes_first callee)

/-! ### Results -/

theorem grows_named (result : String) {value : Emit ValueId} (h : Computes value) :
    Grows [result] id (do bind result (← value)) :=
  h.then fun _ => grows_bind result _

theorem grows_unary (result a : String) {value : ValueId -> Emit ValueId}
    (h : forall a, Computes (value a)) :
    Grows [result] id (do
      let a ← valueOf a
      bind result (← value a)) :=
  .then (computing_computes.valueOf a) fun a => grows_named result (h a)

theorem grows_binary (result a b : String) {value : ValueId -> ValueId -> Emit ValueId}
    (h : forall a b, Computes (value a b)) :
    Grows [result] id (do
      let a ← valueOf a
      let b ← valueOf b
      bind result (← value a b)) :=
  .then (computing_computes.valueOf a) fun a => grows_unary result b (h a)

end Emit

/-! ## Steps -/

open Emit

/-- A step binds the names that it says and makes the local or the slot that it says. -/
theorem Step.grows_emit (site : Site) (step : Step) :
    Grows (step.binds site.signatureOf?) (fun progress => step.progress progress)
      (step.emit site) := by
  have hcomputing := computing_computes
  cases step
  case param result index =>
      rw [Step.emit]
      split
      · exact grows_bind _ _
      · exact grows_misuse _ _ _
  case constInt => exact grows_named _ (computes_compute _)
  case constFloat => exact grows_named _ (hcomputing.constFloat _ _)
  case zero => exact grows_named _ (hcomputing.zero site _)
  case multiplyAdd =>
      apply (hcomputing.valueOf _).then
      intro a
      apply (hcomputing.valueOf _).then
      intro b
      apply (hcomputing.valueOf _).then
      intro c
      exact (computes_compute _).then fun _ => grows_named _ (computes_compute _)
  case unary => exact grows_unary _ _ fun _ => computes_compute _
  case extend128 => exact grows_unary _ _ fun _ => computes_compute _
  case truncate => exact grows_unary _ _ fun _ => computes_compute _
  case equals => exact grows_unary _ _ fun _ => computes_compute _
  case fromSigned => exact grows_unary _ _ (hcomputing.fromSigned site _)
  case fromUnsigned => exact grows_unary _ _ (hcomputing.fromUnsigned site _)
  case select =>
      apply (hcomputing.valueOf _).then
      intro condition
      exact grows_binary _ _ _ fun _ _ => computes_compute _
  case addressAt => exact grows_binary _ _ _ (hcomputing.addressAt site _)
  case loadAt =>
      apply (hcomputing.valueOf _).then
      intro base
      apply (hcomputing.valueOf _).then
      intro index
      apply (hcomputing.addressAt site _ _ _).then
      intro address
      exact grows_named _ (computes_load site _ _ _)
  case storeAt =>
      apply (hcomputing.valueOf _).then
      intro base
      apply (hcomputing.valueOf _).then
      intro index
      apply (hcomputing.valueOf _).then
      intro value
      exact (hcomputing.addressAt site _ _ _).then fun _ => computes_store _ _ _
  case load => exact grows_unary _ _ fun address => computes_load site _ address _
  case store =>
      apply (hcomputing.valueOf _).then
      intro value
      exact (hcomputing.valueOf _).then fun _ => computes_store _ _ _
  case reserve => exact (grows_reserve site _ _).bind fun _ => grows_bind _ _
  case newLocal => exact (hcomputing.valueOf _).then fun _ => grows_newLocal _ _
  case readLocal =>
      apply (hcomputing.localOf _).then
      intro id
      exact grows_named _ (computes_readLocal _)
  case assignLocal =>
      apply (hcomputing.localOf _).then
      intro id
      exact (hcomputing.valueOf _).then fun _ => computes_assignLocal _ _ _
  case call results callee names =>
      apply (hcomputing.valuesOf names).then
      intro arguments
      apply (computes_call site callee arguments).then_of_answer
      intro builder returned after hcall
      rcases call_eq_ok hcall with ⟨signature, hsignature, rfl, _⟩
      apply (computes_note _).then
      intro _
      have hbound := grows_bindAll results
        (List.range' builder.types.length signature.returns.length)
      rw [List.length_range'] at hbound
      simp only [Step.binds, hsignature]
      exact hbound
  case callFirst =>
      apply (hcomputing.valuesOf _).then
      intro arguments
      exact grows_named _ (computes_callFirst site _ _)
  case fail => exact grows_fault _ _ _
  case note => exact computes_note _
  -- What is left computes from two values.
  all_goals exact grows_binary _ _ _ fun _ _ => computes_compute _

end Provision
