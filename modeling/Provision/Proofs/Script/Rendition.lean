import Provision.Proofs.Code.Typed
import Provision.Proofs.Script.Growing

/-!
# Code beside the script that it comes from

At every point of its emission a script has code behind it, checked and run.  Values that the
builder knows stand for what the script knows by names and locals, as far as they have been left
in the code at all: what a use of a value shows is in scope.
-/

namespace Provision

/-! ## Renditions -/

/-- What is the same all through the code of a script: what it is emitted for, its stack slots with
their addresses, what is known of its values, the types of its locals, the arguments of the call,
and what calls of other functions do, which return what the signatures of these say. -/
structure Rendition (σ : Type) where
  site : Site
  slots : List StackSlot
  addresses : List Memory.Address
  demand : Demand
  types : List MachineType
  arguments : List Scalar
  invoke : FuncId -> Behaviour σ
  pointer : site.lowering.pointer = .i64
  calls : CallsFit site.signatureOf? invoke

/-- A place between two steps: the builder, the values in scope, and the frame. -/
structure Point where
  builder : Builder
  scope : Scope
  frame : Frame

namespace Rendition

variable {σ : Type} (r : Rendition σ)

def env : Surroundings where
  slots := r.slots
  signatureOf? := r.site.signatureOf?

def setting : Setting σ where
  lowering := r.site.lowering
  arguments := r.arguments
  slots := r.addresses
  invoke := r.invoke

/-- Emitted instructions as they are left in the code. -/
def prune (instructions : List Instruction) : List Instruction :=
  instructions.map (Instruction.rename r.demand.resolve)

/-! ## Points -/

/-- The frame holds what is in scope, and that has been emitted. -/
structure Sound (p : Point) : Prop where
  types : p.scope.Types p.frame
  bounded : forall value type, p.scope.values.lookup value = some type ->
    value < p.builder.types.length
  slots : p.frame.slots = r.addresses

/-- A value of the builder stands for a scalar: it has its type, and where it is in scope it holds
it. -/
structure Stands (p : Point) (value : ValueId) (x : Scalar) : Prop where
  bound : value < p.builder.types.length
  older : r.demand.resolve value < p.builder.types.length
  type : x.type = p.builder.typeOf value
  holds : forall type, p.scope.values.lookup (r.demand.resolve value) = some type ->
    type = x.type ∧ p.frame.value? (r.demand.resolve value) = some x

end Rendition

/-- A point that comes after another one: what was there has stayed. -/
structure Point.Later (p q : Point) : Prop where
  types : exists more, q.builder.types = p.builder.types ++ more
  scope : forall value, value < p.builder.types.length ->
    q.scope.values.lookup value = p.scope.values.lookup value
  frame : forall value, value < p.builder.types.length ->
    q.frame.value? value = p.frame.value? value

namespace Point.Later

variable {p q s : Point}

theorem refl (p : Point) : p.Later p where
  types := ⟨[], (List.append_nil _).symm⟩
  scope := fun _ _ => rfl
  frame := fun _ _ => rfl

/-- It does not matter what a builder has but the types of its values. -/
theorem of_types {builder : Builder} (h : builder.types = p.builder.types) :
    p.Later ⟨builder, p.scope, p.frame⟩ where
  types := ⟨[], h.trans (List.append_nil _).symm⟩
  scope := fun _ _ => rfl
  frame := fun _ _ => rfl

theorem length_le (h : p.Later q) : p.builder.types.length ≤ q.builder.types.length := by
  rcases h.types with ⟨more, htypes⟩
  rw [htypes, List.length_append]
  exact Nat.le_add_right _ _

theorem typeOf (h : p.Later q) {value : ValueId} (hvalue : value < p.builder.types.length) :
    q.builder.typeOf value = p.builder.typeOf value := by
  rcases h.types with ⟨more, htypes⟩
  exact Builder.typeOf_of_append htypes hvalue

theorem trans (h : p.Later q) (hnext : q.Later s) : p.Later s where
  types := by
    rcases h.types with ⟨more, hmore⟩
    rcases hnext.types with ⟨others, hothers⟩
    exact ⟨more ++ others, by rw [hothers, hmore, List.append_assoc]⟩
  scope := by
    intro value hvalue
    rw [hnext.scope value (Nat.lt_of_lt_of_le hvalue h.length_le), h.scope value hvalue]
  frame := by
    intro value hvalue
    rw [hnext.frame value (Nat.lt_of_lt_of_le hvalue h.length_le), h.frame value hvalue]

end Point.Later

namespace Rendition

variable {σ : Type} {r : Rendition σ} {p q : Point}

theorem Stands.later {value : ValueId} {x : Scalar} (h : r.Stands p value x) (hlater : p.Later q) :
    r.Stands q value x where
  bound := Nat.lt_of_lt_of_le h.bound hlater.length_le
  older := Nat.lt_of_lt_of_le h.older hlater.length_le
  type := h.type.trans (hlater.typeOf h.bound).symm
  holds := by
    rw [hlater.scope _ h.older, hlater.frame _ h.older]
    exact h.holds

/-- A value that is in scope stands for itself with what the frame holds. -/
theorem Sound.stands (h : r.Sound p) {value : ValueId} {x : Scalar}
    (hself : r.demand.resolve value = value)
    (hscope : p.scope.values.lookup value = some (p.builder.typeOf value))
    (hframe : p.frame.value? value = some x) : r.Stands p value x := by
  rcases h.types value _ hscope with ⟨y, hy, htype⟩
  rw [hframe, Option.some.injEq] at hy
  rw [← hy] at htype
  have hbound := h.bounded value _ hscope
  constructor
  · exact hbound
  · rw [hself]
    exact hbound
  · exact htype
  · rw [hself, hscope]
    intro type heq
    cases heq
    exact ⟨htype.symm, hframe⟩

/-- Values that come one after another stand for themselves with what the frame holds of them in
turn. -/
theorem Sound.stands_range (h : r.Sound p) {first : ValueId} {types : List MachineType}
    {xs : List Scalar} (hlength : types.length = xs.length)
    (hself : forall value, value ∈ List.range' first types.length -> r.demand.resolve value = value)
    (htypes : forall place, (hplace : place < types.length) ->
      p.builder.typeOf (first + place) = types[place])
    {outer : List (ValueId × MachineType)}
    (hscope : p.scope.values = (List.range' first types.length).zip types ++ outer)
    {held : List (ValueId × Scalar)}
    (hframe : p.frame.values = (List.range' first types.length).zip xs ++ held) :
    List.Forall₂ (r.Stands p) (List.range' first types.length) xs := by
  have hnodup : (List.range' first types.length).Nodup := List.nodup_range'
  rw [List.forall₂_iff_get]
  constructor
  · rw [List.length_range', hlength]
  · intro place hkey hvalue
    have hplace : place < types.length := by
      rw [hlength]
      exact hvalue
    apply h.stands
    · exact hself _ (List.get_mem _ _)
    · have htype : p.builder.typeOf ((List.range' first types.length).get ⟨place, hkey⟩) =
          types[place] := by
        rw [List.get_eq_getElem, List.getElem_range', Nat.one_mul]
        exact htypes place hplace
      rw [htype, hscope]
      exact Association.lookup_zip_getElem hnodup outer hkey hplace
    · rw [Frame.value?, hframe]
      exact Association.lookup_zip_getElem hnodup held hkey hvalue

/-- A value stands for what another one does that resolves to the same. -/
theorem Stands.alias {value other : ValueId} {x : Scalar} (h : r.Stands p other x)
    (hbound : value < p.builder.types.length) (htype : x.type = p.builder.typeOf value)
    (hsame : r.demand.resolve value = r.demand.resolve other) : r.Stands p value x where
  bound := hbound
  older := by
    rw [hsame]
    exact h.older
  type := htype
  holds := by
    rw [hsame]
    exact h.holds

/-- What a value stands for later it has stood for before, if an older one resolves to the same. -/
theorem Stands.earlier {value other : ValueId} {x y : Scalar} (h : r.Stands q value y)
    (hlater : p.Later q) (hother : r.Stands p other x) (htype : y.type = x.type)
    (hsame : r.demand.resolve value = r.demand.resolve other) : r.Stands p other y where
  bound := hother.bound
  older := hother.older
  type := htype.trans hother.type
  holds := by
    have hholds := h.holds
    rw [hsame, hlater.scope _ hother.older, hlater.frame _ hother.older] at hholds
    exact hholds

/-! ## Instructions -/

/-- Instructions are accepted as they are left in the code, and their results stand for
themselves. -/
structure Accepts (r : Rendition σ) (instructions : List Instruction) (scope after : Scope) :
    Prop where
  check : Instruction.checkAll r.env scope (r.prune instructions) = .ok after
  fits : after.fits = true
  own : forall result, result ∈ instructions.flatMap Instruction.results ->
    r.demand.resolve result = result

theorem Accepts.append {xs ys : List Instruction} {scope after : Scope}
    (h : r.Accepts (xs ++ ys) scope after) :
    exists middle, r.Accepts xs scope middle ∧ r.Accepts ys middle after := by
  rcases h with ⟨hcheck, hfits, hown⟩
  rw [List.flatMap_append, List.forall_mem_append] at hown
  rw [prune, List.map_append] at hcheck
  rcases Instruction.checkAll_append_eq_ok hcheck with ⟨middle, hfirst, hsecond⟩
  exact ⟨middle, ⟨hfirst, Instruction.fits_of_checkAll hsecond hfits, hown.left⟩,
    ⟨hsecond, hfits, hown.right⟩⟩

theorem Accepts.single {instruction : Instruction} {scope after : Scope}
    (h : r.Accepts [instruction] scope after) :
    (instruction.rename r.demand.resolve).check r.env scope = .ok after := by
  rcases Instruction.checkAll_cons_eq_ok h.check with ⟨middle, hfirst, hnil⟩
  cases hnil
  exact hfirst

theorem runAll_single (r : Rendition σ) (instruction : Instruction) (state : Frame × World σ) :
    Instruction.runAll r.invoke (r.prune [instruction]) state =
      (instruction.rename r.demand.resolve).run r.invoke state := by
  rw [prune, List.map_singleton, Instruction.runAll_cons]
  cases (instruction.rename r.demand.resolve).run r.invoke state with
  | none => rfl
  | some next => rfl

/-- An operand of an instruction that is accepted holds what it stands for. -/
theorem Stands.operand {value : ValueId} {x : Scalar} (h : r.Stands p value x)
    {instruction : Instruction} {scope : Scope} (haccepts : r.Accepts [instruction] p.scope scope)
    (hvalue : value ∈ instruction.operands) :
    p.frame.value? (r.demand.resolve value) = some x ∧
      p.scope.typeOf (r.demand.resolve value) = p.builder.typeOf value := by
  have hmissing := (Instruction.check_eq_ok haccepts.single).left
  rw [instruction.operands_rename] at hmissing
  rcases Scope.exists_of_missing? hmissing (List.mem_map_of_mem hvalue) with ⟨type, htype⟩
  rcases h.holds type htype with ⟨heq, hframe⟩
  constructor
  · exact hframe
  · rw [Scope.typeOf_of_lookup htype, heq, h.type]

/-- After an instruction has run, its results have been added to what was there. -/
theorem Sound.advance (h : r.Sound p) {instruction : Instruction} {more : List MachineType}
    (hresults : instruction.results = List.range' p.builder.types.length more.length)
    {scope : Scope} (haccepts : r.Accepts [instruction] p.scope scope) {frame : Frame}
    {world after : World σ}
    (hrun : (instruction.rename r.demand.resolve).run r.invoke (p.frame, world) =
      some (frame, after))
    {builder : Builder} (hbuilder : builder.types = p.builder.types ++ more) :
    r.Sound ⟨builder, scope, frame⟩ ∧ p.Later ⟨builder, scope, frame⟩ := by
  have hcheck := haccepts.single
  have hfresh : forall value, value < p.builder.types.length ->
      value ∉ (instruction.rename r.demand.resolve).results := by
    intro value hvalue hmem
    rw [Instruction.results_rename, hresults, List.mem_range'_1] at hmem
    exact Nat.not_le_of_lt hvalue hmem.left
  have hscope : scope.values =
      (instruction.rename r.demand.resolve).resultTypes r.env p.scope ++ p.scope.values := by
    rw [(Instruction.check_eq_ok hcheck).right.right]
    rfl
  rcases Instruction.frame_run hrun with ⟨hslots, hframe⟩
  constructor
  · constructor
    · exact Instruction.types_run r.calls hcheck haccepts.fits h.types hrun
    · intro value type hvalue
      simp only [hbuilder, List.length_append]
      by_cases hmem : value ∈ (instruction.rename r.demand.resolve).results
      · rw [Instruction.results_rename, hresults, List.mem_range'_1] at hmem
        exact hmem.right
      · rw [hscope, Association.lookup_append_of_not_mem _
          (Instruction.not_mem_keys_resultTypes hmem)] at hvalue
        exact Nat.lt_add_right _ (h.bounded value type hvalue)
    · exact hslots.trans h.slots
  · constructor
    · exact ⟨more, hbuilder⟩
    · intro value hvalue
      rw [hscope, Association.lookup_append_of_not_mem _
        (Instruction.not_mem_keys_resultTypes (hfresh value hvalue))]
    · exact fun value hvalue => hframe value (hfresh value hvalue)

/-! ## Emission beside its meaning -/

/-- An action means what it is said to mean: the code that it adds is stuck if that is nothing, and
else leads to a point and a world that fit the results of both. -/
def Renders {α β : Type} (r : Rendition σ) (p : Point) (world : World σ) (action : Emit α)
    (meaning : Option β) (fits : α -> β -> Point -> World σ -> Prop) : Prop :=
  forall x builder, action p.builder = .ok x builder ->
    forall more, builder.pending = p.builder.pending ++ more ->
      forall scope, r.Accepts more p.scope scope ->
        match meaning with
        | none => Instruction.runAll r.invoke (r.prune more) (p.frame, world) = none
        | some y =>
            exists frame after,
              Instruction.runAll r.invoke (r.prune more) (p.frame, world) = some (frame, after) ∧
                fits x y ⟨builder, scope, frame⟩ after

section Renders

variable {α β γ δ : Type} {world : World σ} {action : Emit α} {meaning : Option β}
  {fits : α -> β -> Point -> World σ -> Prop}

theorem Renders.congr {other : Emit α} (hsame : action p.builder = other p.builder)
    (h : r.Renders p world other meaning fits) : r.Renders p world action meaning fits := by
  intro x builder hrun
  rw [hsame] at hrun
  exact h x builder hrun

theorem Renders.mono {wider : α -> β -> Point -> World σ -> Prop}
    (h : r.Renders p world action meaning fits)
    (hfits : forall x y q after, fits x y q after -> wider x y q after) :
    r.Renders p world action meaning wider := by
  intro x builder hrun more hmore scope haccepts
  have hmeans := h x builder hrun more hmore scope haccepts
  cases meaning with
  | none => exact hmeans
  | some y =>
      rcases hmeans with ⟨frame, after, hruns, hlast⟩
      exact ⟨frame, after, hruns, hfits _ _ _ _ hlast⟩

theorem renders_misuse (misuse : Misuse) :
    r.Renders p world (Action.misuse misuse : Emit α) meaning fits := by
  intro x builder hrun
  cases hrun

theorem renders_fault (fault : Fault) :
    r.Renders p world (Action.fault fault : Emit α) meaning fits := by
  intro x builder hrun
  cases hrun

/-- An action that adds nothing to the code means what it answers. -/
theorem renders_of_unchanged {y : β}
    (h : forall x builder, action p.builder = .ok x builder ->
      builder.pending = p.builder.pending ∧ fits x y ⟨builder, p.scope, p.frame⟩ world) :
    r.Renders p world action (some y) fits := by
  intro x builder hrun more hmore scope haccepts
  rcases h x builder hrun with ⟨hpending, hfits⟩
  have hnone : more = [] := by
    rw [hpending] at hmore
    exact (List.append_right_eq_self.mp hmore.symm)
  subst hnone
  cases haccepts.check
  exact ⟨p.frame, world, rfl, hfits⟩

theorem Renders.bind {names : List String} {change : Progress -> Progress}
    (h : r.Renders p world action meaning fits) (hgrows : Emit.Grows names change action)
    {next : α -> Emit γ} {onward : β -> Option δ} {last : γ -> δ -> Point -> World σ -> Prop}
    {more : List String} {other : Progress -> Progress}
    (hnexts : forall x, Emit.Grows more other (next x))
    (hnext : forall x y q after, fits x y q after ->
      r.Renders q after (next x) (onward y) last) :
    r.Renders p world (action >>= next) (meaning >>= onward) last := by
  intro z builder hrun added hadded scope haccepts
  rcases Emit.exists_of_bind_eq_ok hrun with ⟨x, middle, hfirst, hsecond⟩
  rcases hgrows p.builder x middle hfirst with ⟨xs, hxs, _, _⟩
  rcases hnexts x middle z builder hsecond with ⟨ys, hys, _, _⟩
  have happend : added = xs ++ ys := by
    rw [hys, hxs, List.append_assoc] at hadded
    exact (List.append_cancel_left hadded).symm
  subst happend
  rcases haccepts.append with ⟨between, hbefore, hafter⟩
  have hall : forall state, Instruction.runAll r.invoke (r.prune (xs ++ ys)) state =
      Instruction.runAll r.invoke (r.prune xs) state >>=
        Instruction.runAll r.invoke (r.prune ys) := by
    intro state
    have hpruned : r.prune (xs ++ ys) = r.prune xs ++ r.prune ys := List.map_append
    rw [hpruned, Instruction.runAll_append]
    cases Instruction.runAll r.invoke (r.prune xs) state with
    | none => rfl
    | some next => rfl
  have hmeans := h x middle hfirst xs hxs between hbefore
  cases meaning with
  | none =>
      simp only [hall, hmeans, Option.bind_eq_bind, Option.bind_none]
  | some y =>
      rcases hmeans with ⟨frame, after, hruns, hfits⟩
      have hlast := hnext x y _ after hfits z builder hsecond ys hys scope hafter
      simp only [hall, hruns, Option.bind_eq_bind, Option.bind_some]
      exact hlast

end Renders

/-! ## Computed values -/

/-- A point that is reached by computing: only values have been added. -/
structure Reaches (r : Rendition σ) (p q : Point) : Prop where
  sound : r.Sound q
  later : p.Later q
  names : q.builder.names = p.builder.names
  locals : q.builder.locals = p.builder.locals
  localNames : q.builder.localNames = p.builder.localNames

theorem Reaches.trans {s : Point} (h : r.Reaches p q) (hnext : r.Reaches q s) : r.Reaches p s where
  sound := hnext.sound
  later := h.later.trans hnext.later
  names := hnext.names.trans h.names
  locals := hnext.locals.trans h.locals
  localNames := hnext.localNames.trans h.localNames

/-- What it is for a value to be computed from a point on. -/
def Gives (r : Rendition σ) (p : Point) (world : World σ) (value : ValueId) (x : Scalar) (q : Point)
    (after : World σ) : Prop :=
  world = after ∧ r.Reaches p q ∧ r.Stands q value x

theorem renders_pure (h : r.Sound p) {value : ValueId} {x : Scalar} (hvalue : r.Stands p value x)
    (world : World σ) : r.Renders p world (pure value) (some x) (r.Gives p world) := by
  apply renders_of_unchanged
  rintro _ _ ⟨⟩
  exact ⟨rfl, rfl, ⟨h, .refl p, rfl, rfl, rfl⟩, hvalue⟩

/-- An instruction with one result adds the value that this stands for. -/
theorem Sound.gives_result (h : r.Sound p) {instruction : Instruction} {type : MachineType}
    (hresults : instruction.results = [p.builder.types.length])
    (htype : (instruction.rename r.demand.resolve).resultTypes r.env p.scope =
      [(p.builder.types.length, type)])
    {scope : Scope} (haccepts : r.Accepts [instruction] p.scope scope) {x : Scalar}
    {world after : World σ}
    (hruns : (instruction.rename r.demand.resolve).run r.invoke (p.frame, world) =
      some (p.frame.bind p.builder.types.length x, after))
    {builder : Builder} (hbuilder : builder.types = p.builder.types ++ [type])
    (hnames : builder.names = p.builder.names) (hlocals : builder.locals = p.builder.locals)
    (hlocalNames : builder.localNames = p.builder.localNames) :
    r.Reaches p ⟨builder, scope, p.frame.bind p.builder.types.length x⟩ ∧
      r.Stands ⟨builder, scope, p.frame.bind p.builder.types.length x⟩ p.builder.types.length
        x := by
  rcases h.advance hresults haccepts hruns hbuilder with ⟨hsound, hlater⟩
  constructor
  · exact ⟨hsound, hlater, hnames, hlocals, hlocalNames⟩
  · apply hsound.stands
    · apply haccepts.own
      rw [List.flatMap_singleton, hresults]
      exact List.mem_singleton_self _
    · rw [Builder.typeOf_length hbuilder, (Instruction.check_eq_ok haccepts.single).right.right,
        htype]
      exact List.lookup_cons_self
    · rw [Frame.value?_bind, if_pos rfl]

theorem renders_compute (h : r.Sound p) {operation : Operation} {ids : List ValueId}
    {xs : List Scalar} (hxs : List.Forall₂ (r.Stands p) ids xs)
    (hplaces : forall place, place ∈ operation.operands -> place < ids.length) (world : World σ) :
    r.Renders p world (Emit.compute (operation.rename fun place => ids.getD place 0))
      (operation.on xs) (r.Gives p world) := by
  let renamed := operation.rename fun place => ids.getD place 0
  intro result builder hrun more hmore scope haccepts
  rw [Emit.run_compute] at hrun
  cases hrun
  rw [List.append_cancel_left_eq] at hmore
  subst hmore
  have hoperand : forall place, place ∈ operation.operands ->
      p.frame.value? (r.demand.resolve (ids.getD place 0)) = xs[place]? ∧
        p.scope.typeOf (r.demand.resolve (ids.getD place 0)) =
          p.builder.typeOf (ids.getD place 0) := by
    intro place hplace
    have hlt := hplaces place hplace
    have hlength : place < xs.length := by
      rw [← hxs.length_eq]
      exact hlt
    have hstands := (List.forall₂_iff_get.mp hxs).right place hlt hlength
    rw [List.getD_eq_getElem _ _ hlt, List.getElem?_eq_getElem hlength]
    apply hstands.operand haccepts
    rw [Instruction.operands, Operation.operands_rename]
    exact List.mem_map.mpr ⟨place, hplace, List.getD_eq_getElem _ _ hlt⟩
  have heval : (renamed.rename r.demand.resolve).eval p.frame.value? = operation.on xs := by
    rw [Operation.eval_rename, Operation.eval_rename]
    exact Operation.eval_congr fun place hplace => (hoperand place hplace).left
  have htype : (renamed.rename r.demand.resolve).resultType p.scope.typeOf =
      renamed.resultType p.builder.typeOf := by
    rw [Operation.resultType_rename, Operation.resultType_rename, Operation.resultType_rename]
    exact Operation.resultType_congr fun place hplace => (hoperand place hplace).right
  rw [runAll_single]
  have hruns : (Instruction.rename r.demand.resolve
      (.compute p.builder.types.length renamed)).run r.invoke (p.frame, world) =
        (operation.on xs).bind fun x => some (p.frame.bind p.builder.types.length x, world) := by
    rw [Instruction.rename, Instruction.run, heval]
    rfl
  cases hvalue : operation.on xs with
  | none =>
      rw [hvalue] at hruns
      exact hruns
  | some x =>
      rw [hvalue] at hruns
      have htypes : (Instruction.rename r.demand.resolve
          (.compute p.builder.types.length renamed)).resultTypes r.env p.scope =
            [(p.builder.types.length, renamed.resultType p.builder.typeOf)] := by
        rw [← htype]
        rfl
      exact ⟨_, _, hruns, rfl, h.gives_result rfl htypes haccepts hruns rfl rfl rfl rfl⟩

/-! ### Operations on given values -/

section Operations

variable {a b c : ValueId} {x y z : Scalar} {world : World σ}

theorem renders_constant (h : r.Sound p) {operation : Operation}
    (hoperands : operation.operands = []) (world : World σ) :
    r.Renders p world (Emit.compute operation) (operation.on []) (r.Gives p world) := by
  have hplaces : forall place, place ∈ operation.operands ->
      place < ([] : List ValueId).length := by
    intro place hplace
    rw [hoperands] at hplace
    cases hplace
  have hrenders := renders_compute h .nil hplaces world
  rw [Operation.rename_eq_self hoperands] at hrenders
  exact hrenders

theorem renders_unary (h : r.Sound p) (ha : r.Stands p a x) {operation : ValueId -> Operation}
    (hrename : forall a, operation a = (operation 0).rename fun place => [a].getD place 0)
    (hoperands : (operation 0).operands = [0]) (world : World σ) :
    r.Renders p world (Emit.compute (operation a)) ((operation 0).on [x]) (r.Gives p world) := by
  rw [hrename a]
  apply renders_compute h (.cons ha .nil)
  rw [hoperands]
  exact List.forall_mem_singleton.mpr Nat.one_pos

theorem renders_binary (h : r.Sound p) (ha : r.Stands p a x) (hb : r.Stands p b y)
    {operation : ValueId -> ValueId -> Operation}
    (hrename : forall a b,
      operation a b = (operation 0 1).rename fun place => [a, b].getD place 0)
    (hoperands : (operation 0 1).operands = [0, 1]) (world : World σ) :
    r.Renders p world (Emit.compute (operation a b)) ((operation 0 1).on [x, y])
      (r.Gives p world) := by
  rw [hrename a b]
  apply renders_compute h (.cons ha (.cons hb .nil))
  rw [hoperands]
  simp

theorem renders_ternary (h : r.Sound p) (ha : r.Stands p a x) (hb : r.Stands p b y)
    (hc : r.Stands p c z) {operation : ValueId -> ValueId -> ValueId -> Operation}
    (hrename : forall a b c,
      operation a b c = (operation 0 1 2).rename fun place => [a, b, c].getD place 0)
    (hoperands : (operation 0 1 2).operands = [0, 1, 2]) (world : World σ) :
    r.Renders p world (Emit.compute (operation a b c)) ((operation 0 1 2).on [x, y, z])
      (r.Gives p world) := by
  rw [hrename a b c]
  apply renders_compute h (.cons ha (.cons hb (.cons hc .nil)))
  rw [hoperands]
  simp

/-- What is computed after something else is computed from where that started. -/
theorem Renders.gives {q : Point} {action : Emit ValueId} {meaning : Option Scalar}
    (h : r.Renders q world action meaning (r.Gives q world)) (hreaches : r.Reaches p q) :
    r.Renders q world action meaning (r.Gives p world) := by
  apply h.mono
  rintro value x s after ⟨hworld, hlast, hstands⟩
  exact ⟨hworld, hreaches.trans hlast, hstands⟩

theorem renders_resize (h : r.Sound p) (ha : r.Stands p a x)
    {extend : MachineType -> ValueId -> Operation}
    (hrename : forall type a,
      extend type a = (extend type 0).rename fun place => [a].getD place 0)
    (hoperands : forall type, (extend type 0).operands = [0]) (type : MachineType)
    (world : World σ) :
    r.Renders p world (Emit.resize extend type a) (Lowering.resized extend type x)
      (r.Gives p world) := by
  have hrun : Emit.resize extend type a p.builder =
      (if x.type.bits < type.bits then Emit.compute (extend type.integer a)
      else if type.bits < x.type.bits then Emit.compute (.reduce type.integer a)
      else pure a) p.builder := by
    rw [ha.type]
    rfl
  apply Renders.congr hrun
  unfold Lowering.resized
  split
  · exact renders_unary h ha (hrename _) (hoperands _) world
  · split
    · exact renders_unary h ha (fun _ => rfl) rfl world
    · exact renders_pure h ha world

theorem renders_fromSigned (h : r.Sound p) (ha : r.Stands p a x) (type : DataType)
    (world : World σ) :
    r.Renders p world (Emit.fromSigned r.site type a) (r.site.lowering.fromSigned type x)
      (r.Gives p world) := by
  apply (renders_resize h ha (fun _ _ => rfl) (fun _ => rfl) _ world).bind
    (Emit.computing_computes.resize _ _ _) fun _ => Emit.computes_compute _
  rintro value y q _ ⟨rfl, hq, hy⟩
  exact (renders_unary hq.sound hy (fun _ => rfl) rfl world).gives hq

theorem renders_fromUnsigned (h : r.Sound p) (ha : r.Stands p a x) (type : DataType)
    (world : World σ) :
    r.Renders p world (Emit.fromUnsigned r.site type a) (r.site.lowering.fromUnsigned type x)
      (r.Gives p world) := by
  apply (renders_resize h ha (fun _ _ => rfl) (fun _ => rfl) _ world).bind
    (Emit.computing_computes.resize _ _ _) fun _ => Emit.computes_compute _
  rintro value y q _ ⟨rfl, hq, hy⟩
  exact (renders_unary hq.sound hy (fun _ => rfl) rfl world).gives hq

theorem renders_addressAt (h : r.Sound p) (ha : r.Stands p a x) (hb : r.Stands p b y)
    (element : DataType) (world : World σ) :
    r.Renders p world (Emit.addressAt r.site element a b)
      (r.site.lowering.addressAt element x y) (r.Gives p world) := by
  apply (renders_resize h hb (fun _ _ => rfl) (fun _ => rfl) _ world).bind
    (Emit.computing_computes.resize _ _ _) fun _ => (Emit.computes_compute _).then fun _ =>
      Emit.computes_compute _
  rintro index i q _ ⟨rfl, hq, hi⟩
  apply (renders_unary hq.sound hi (fun _ => rfl) rfl world).bind (Emit.computes_compute _)
    fun _ => Emit.computes_compute _
  rintro offset o s _ ⟨rfl, hs, ho⟩
  have hbase := (ha.later hq.later).later hs.later
  exact (renders_binary hs.sound hbase ho (fun _ _ => rfl) rfl world).gives (hq.trans hs)

end Operations

/-! ### Memory, slots and calls -/

theorem renders_load (h : r.Sound p) {a : ValueId} {x : Scalar} (ha : r.Stands p a x)
    (type : DataType) (offset : Int) (scene : Scene σ) :
    r.Renders p scene.world (Emit.load r.site type a offset)
      (scene.load (r.site.lowering.lower type) x offset) (r.Gives p scene.world) := by
  rintro _ _ ⟨⟩ more hmore scope haccepts
  rw [List.append_cancel_left_eq] at hmore
  subst hmore
  have hoperand := (ha.operand haccepts (List.mem_singleton_self a)).left
  have hruns : (Instruction.rename r.demand.resolve
      (.load p.builder.types.length (r.site.lowering.lower type) a offset)).run r.invoke
        (p.frame, scene.world) =
        (scene.load (r.site.lowering.lower type) x offset).bind fun y =>
          some (p.frame.bind p.builder.types.length y, scene.world) := by
    simp only [Instruction.rename, Instruction.run, hoperand, Option.bind_eq_bind,
      Option.bind_some, Scene.load]
    cases x.asAddress? with
    | none => rfl
    | some place => rfl
  rw [runAll_single]
  cases hvalue : scene.load (r.site.lowering.lower type) x offset with
  | none =>
      rw [hvalue] at hruns
      exact hruns
  | some y =>
      rw [hvalue] at hruns
      exact ⟨_, _, hruns, rfl, h.gives_result rfl rfl haccepts hruns rfl rfl rfl rfl⟩

theorem renders_reserve (h : r.Sound p) (size alignShift : Nat) (world : World σ) :
    r.Renders p world (Emit.reserve r.site size alignShift)
      (r.addresses[p.builder.slots.length]?.map Scalar.address) (r.Gives p world) := by
  rintro _ _ ⟨⟩ more hmore scope haccepts
  rw [List.append_cancel_left_eq] at hmore
  subst hmore
  have hruns : (Instruction.rename r.demand.resolve
      (.slotAddress p.builder.types.length p.builder.slots.length)).run r.invoke
        (p.frame, world) =
        (r.addresses[p.builder.slots.length]?).bind fun a =>
          some (p.frame.bind p.builder.types.length (.address a), world) := by
    simp only [Instruction.rename, Instruction.run, h.slots, Option.bind_eq_bind]
  rw [runAll_single]
  cases haddress : r.addresses[p.builder.slots.length]? with
  | none =>
      rw [haddress] at hruns
      exact hruns
  | some a =>
      rw [haddress] at hruns
      have htypes : (Instruction.rename r.demand.resolve
          (.slotAddress p.builder.types.length p.builder.slots.length)).resultTypes r.env
            p.scope = [(p.builder.types.length, r.site.lowering.pointer)] := by
        rw [r.pointer]
        rfl
      exact ⟨_, _, hruns, rfl, h.gives_result rfl htypes haccepts hruns rfl rfl rfl rfl⟩

/-- A call answers with values that stand for what the callee returns. -/
theorem renders_call (h : r.Sound p) {arguments : List ValueId} {xs : List Scalar}
    (hxs : List.Forall₂ (r.Stands p) arguments xs) (callee : FuncId) (world : World σ) :
    r.Renders p world (Emit.call r.site callee arguments) (r.invoke callee xs world)
      fun results answer q after =>
        answer.2 = after ∧ r.Reaches p q ∧ List.Forall₂ (r.Stands q) results answer.1 ∧
          exists signature, r.site.signatureOf? callee = some signature ∧
            results.length = signature.returns.length := by
  intro results builder hrun more hmore scope haccepts
  rcases Emit.call_eq_ok hrun with ⟨signature, hsignature, rfl, rfl⟩
  rw [List.append_cancel_left_eq] at hmore
  subst hmore
  have hboth := (List.forall₂_and_left arguments xs).mpr ⟨fun a ha => ha, hxs⟩
  have hheld : List.Forall₂ (fun value x => p.frame.value? value = some x)
      (arguments.map r.demand.resolve) xs := by
    rw [List.forall₂_map_left_iff]
    exact hboth.imp fun a x h => (h.right.operand haccepts h.left).left
  have hcheck := haccepts.single
  have hmissing := (Instruction.check_eq_ok hcheck).left
  have hparams : xs.map Scalar.type = signature.params := by
    have hfits := (Instruction.fits_of_check hcheck haccepts.fits).right
    simp only [Instruction.rename, Instruction.fits, env, hsignature, Bool.and_eq_true,
      beq_iff_eq] at hfits
    rw [← h.types.map_typeOf hmissing hheld]
    exact hfits.left
  have hruns : (Instruction.rename r.demand.resolve (.call
      (List.range' p.builder.types.length signature.returns.length) callee arguments)).run r.invoke
        (p.frame, world) =
        (r.invoke callee xs world).bind fun answer =>
          some (p.frame.bindAll (List.range' p.builder.types.length signature.returns.length)
            answer.1, answer.2) := by
    simp only [Instruction.rename, Instruction.run, mapM_eq_some_iff.mpr hheld,
      Option.bind_eq_bind, Option.bind_some]
  rw [runAll_single]
  cases hanswer : r.invoke callee xs world with
  | none =>
      rw [hanswer] at hruns
      exact hruns
  | some answer =>
      rw [hanswer] at hruns
      rcases answer with ⟨ys, last⟩
      have hreturns := r.calls callee signature xs ys world last hsignature hparams hanswer
      have hlength : signature.returns.length = ys.length := by
        rw [← hreturns, List.length_map]
      have hresults : (Instruction.call
          (List.range' p.builder.types.length signature.returns.length) callee arguments).results =
            List.range' p.builder.types.length signature.returns.length := rfl
      let grown : Builder :=
        { p.builder with
          types := p.builder.types ++ signature.returns
          pending := p.builder.pending ++ [.call
            (List.range' p.builder.types.length signature.returns.length) callee arguments] }
      have hgrown : grown.types = p.builder.types ++ signature.returns := rfl
      rcases h.advance hresults haccepts hruns hgrown with ⟨hsound, hlater⟩
      refine ⟨_, _, hruns, rfl, ⟨hsound, hlater, rfl, rfl, rfl⟩, ?_, signature, hsignature,
        List.length_range'⟩
      apply hsound.stands_range hlength
      · intro value hvalue
        apply haccepts.own
        rw [List.flatMap_singleton]
        exact hvalue
      · exact fun place hplace => Builder.typeOf_add hgrown hplace
      · rw [(Instruction.check_eq_ok hcheck).right.right]
        simp only [Instruction.rename, Instruction.resultTypes, env, hsignature]
        rfl
      · rfl

/-- A call for its first result answers with a value that stands for that. -/
theorem renders_callFirst (h : r.Sound p) {arguments : List ValueId} {xs : List Scalar}
    (hxs : List.Forall₂ (r.Stands p) arguments xs) (callee : FuncId) (world : World σ) :
    r.Renders p world (Emit.callFirst r.site callee arguments)
      (do
        let (ys, after) ← r.invoke callee xs world
        let y ← ys.head?
        some (y, after))
      fun result answer q after =>
        answer.2 = after ∧ r.Reaches p q ∧ r.Stands q result answer.1 := by
  apply (renders_call h hxs callee world).bind (Emit.computes_call _ _ _)
    (Emit.computes_first callee)
  rintro results ⟨ys, last⟩ q after ⟨hworld, hq, hys, _⟩
  cases hys with
  | nil => exact renders_fault _
  | @cons result y results ys hresult _ =>
      apply renders_of_unchanged
      rintro _ _ ⟨⟩
      exact ⟨rfl, hworld, hq, hresult⟩

end Rendition
end Provision
