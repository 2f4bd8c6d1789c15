import Provision.Proofs.Script.Rendition

/-!
# Steps beside their code

A scene matches a point if the values of the builder stand for what the scene has by the same names
and in the same locals.  What a step is emitted to leads from a point that a scene matches to one
that matches what the step makes of the scene.
-/

namespace Provision
namespace Rendition

variable {σ : Type} {r : Rendition σ} {p q : Point} {hidden : List String} {scene : Scene σ}

/-! ## Scenes -/

/-- A scene matches a point, but for the names that are out of scope. -/
structure Matches (r : Rendition σ) (hidden : List String) (p : Point) (scene : Scene σ) :
    Prop where
  sound : r.Sound p
  params : forall index, index < r.site.signature.params.length ->
    exists x, r.arguments[index]? = some x ∧ r.Stands p index x
  names : forall name value, name ∉ hidden -> p.builder.names.lookup name = some value ->
    exists x, scene.value? name = some x ∧ r.Stands p value x
  locals : List.Forall₂ (r.Stands p) p.builder.locals scene.locals
  types : scene.locals.map Scalar.type = r.types
  made : forall name id, p.builder.localNames.lookup name = some id -> id < p.builder.locals.length

/-- Computing leaves what the scene knows. -/
theorem Matches.reach (h : r.Matches hidden p scene) (hq : r.Reaches p q) :
    r.Matches hidden q scene where
  sound := hq.sound
  params := by
    intro index hindex
    rcases h.params index hindex with ⟨x, hx, hstands⟩
    exact ⟨x, hx, hstands.later hq.later⟩
  names := by
    rw [hq.names]
    intro name value hname hvalue
    rcases h.names name value hname hvalue with ⟨x, hx, hstands⟩
    exact ⟨x, hx, hstands.later hq.later⟩
  locals := by
    rw [hq.locals]
    exact h.locals.imp fun _ _ hstands => hstands.later hq.later
  types := h.types
  made := by
    rw [hq.localNames, hq.locals]
    exact h.made

/-- The names that are still out of scope when some names have been bound. -/
def unhide (names hidden : List String) : List String :=
  hidden.filter fun name => !names.contains name

theorem mem_unhide {names hidden : List String} {name : String} :
    name ∈ unhide names hidden ↔ name ∈ hidden ∧ name ∉ names := by
  simp [unhide]

theorem unhide_nil (hidden : List String) : unhide [] hidden = hidden := by
  simp [unhide]

theorem unhide_cons (name : String) (names hidden : List String) :
    unhide (name :: names) hidden = unhide names (unhide [name] hidden) := by
  unfold unhide
  rw [List.filter_filter]
  apply List.filter_congr
  intro other _
  simp [Bool.and_comm]

/-- What a builder knows by names and in locals may change without any code. -/
theorem Matches.update (h : r.Matches hidden p scene) {builder : Builder}
    (hbuilder : builder.types = p.builder.types) {fewer : List String} {after : Scene σ}
    (hnames : forall name value, name ∉ fewer -> builder.names.lookup name = some value ->
      exists x, after.value? name = some x ∧ r.Stands p value x)
    (hlocals : List.Forall₂ (r.Stands p) builder.locals after.locals)
    (htypes : after.locals.map Scalar.type = r.types)
    (hmade : forall name id, builder.localNames.lookup name = some id ->
      id < builder.locals.length) :
    r.Matches fewer ⟨builder, p.scope, p.frame⟩ after := by
  have hlater : p.Later ⟨builder, p.scope, p.frame⟩ := .of_types hbuilder
  constructor
  · constructor
    · exact h.sound.types
    · simp only [hbuilder]
      exact h.sound.bounded
    · exact h.sound.slots
  · intro index hindex
    rcases h.params index hindex with ⟨x, hx, hstands⟩
    exact ⟨x, hx, hstands.later hlater⟩
  · intro name value hname hvalue
    rcases hnames name value hname hvalue with ⟨x, hx, hstands⟩
    exact ⟨x, hx, hstands.later hlater⟩
  · exact hlocals.imp fun _ _ hstands => hstands.later hlater
  · exact htypes
  · exact hmade

/-- It does not matter what a builder has but its values, names and locals. -/
theorem Matches.congr (h : r.Matches hidden p scene) {builder : Builder}
    (htypes : builder.types = p.builder.types) (hnames : builder.names = p.builder.names)
    (hlocals : builder.locals = p.builder.locals)
    (hlocalNames : builder.localNames = p.builder.localNames) :
    r.Matches hidden ⟨builder, p.scope, p.frame⟩ scene := by
  apply h.update htypes
  · rw [hnames]
    exact h.names
  · rw [hlocals]
    exact h.locals
  · exact h.types
  · rw [hlocals, hlocalNames]
    exact h.made

theorem Matches.inWorld (h : r.Matches hidden p scene) (world : World σ) :
    r.Matches hidden p { scene with world := world } :=
  ⟨h.sound, h.params, h.names, h.locals, h.types, h.made⟩

theorem Matches.bind (h : r.Matches hidden p scene) {value : ValueId} {x : Scalar}
    (hx : r.Stands p value x) (name : String) :
    r.Matches (unhide [name] hidden)
      ⟨{ p.builder with names := (name, value) :: p.builder.names }, p.scope, p.frame⟩
      (scene.bind name x) := by
  apply h.update
  · rfl
  · intro other found hother hlookup
    by_cases heq : other = name
    · subst heq
      simp only [List.lookup_cons_self, Option.some.injEq] at hlookup
      subst hlookup
      exact ⟨x, List.lookup_cons_self, hx⟩
    · have hout : other ∉ hidden := by
        intro hmem
        apply hother
        rw [mem_unhide, List.mem_singleton]
        exact ⟨hmem, heq⟩
      simp only [Association.lookup_cons_of_ne _ _ heq] at hlookup
      rcases h.names other found hout hlookup with ⟨y, hy, hstands⟩
      exact ⟨y, (Association.lookup_cons_of_ne _ _ heq).trans hy, hstands⟩
  · exact h.locals
  · exact h.types
  · exact h.made

/-- What is bound to names together is bound to them in turn. -/
theorem Matches.bindAll (h : r.Matches hidden p scene) {values : List ValueId} {xs : List Scalar}
    (hxs : List.Forall₂ (r.Stands p) values xs) (names : List String) :
    r.Matches (unhide (names.take values.length) hidden)
      ⟨{ p.builder with names := (names.zip values).reverse ++ p.builder.names }, p.scope, p.frame⟩
      (scene.bindAll names xs) := by
  induction names generalizing hidden p scene values xs with
  | nil =>
      rw [List.take_nil, unhide_nil]
      exact h
  | cons name names ih =>
      cases hxs with
      | nil =>
          rw [List.length_nil, List.take_zero, unhide_nil]
          exact h
      | @cons value x values xs hx hrest =>
          have hlater : List.Forall₂ (r.Stands
              ⟨{ p.builder with names := (name, value) :: p.builder.names }, p.scope, p.frame⟩)
              values xs :=
            hrest.imp fun _ _ hstands => hstands.later (.of_types rfl)
          have hall := ih (h.bind hx name) hlater
          rw [List.length_cons, List.take_succ_cons, unhide_cons]
          simp only [List.zip_cons_cons, List.reverse_cons, List.append_assoc,
            List.singleton_append, Scene.bindAll]
          exact hall

/-! ## Emission -/

/-- What an emission means for the scene: it leads to a point that the new scene matches. -/
def Shows (r : Rendition σ) (hidden : List String) (p : Point) (action : Emit Unit)
    (scene : Scene σ) (meaning : Option (Scene σ)) : Prop :=
  r.Renders p scene.world action meaning fun _ after q world =>
    world = after.world ∧ p.Later q ∧ r.Matches hidden q after

section Emission

variable {α β : Type} {world : World σ} {fits : α -> β -> Point -> World σ -> Prop}

theorem Matches.renders_valueOf (h : r.Matches hidden p scene) {name : String}
    (hname : name ∉ hidden) {next : ValueId -> Emit α} {onward : Scalar -> Option β}
    (hnext : forall value x, r.Stands p value x ->
      r.Renders p world (next value) (onward x) fits) :
    r.Renders p world (Emit.valueOf name >>= next) (scene.value? name >>= onward) fits := by
  intro y builder hrun
  rcases Emit.exists_of_bind_eq_ok hrun with ⟨value, middle, hvalue, hlast⟩
  rcases Emit.valueOf_eq_ok hvalue with ⟨hlookup, rfl⟩
  rcases h.names name value hname hlookup with ⟨x, hx, hstands⟩
  rw [hx]
  exact hnext value x hstands y builder hlast

/-- Names that are in scope have what the values bound to them stand for. -/
theorem Matches.exists_values (h : r.Matches hidden p scene) {names : List String}
    {values : List ValueId} (hnames : forall name, name ∈ names -> name ∉ hidden)
    (hlookup : List.Forall₂ (fun name value => p.builder.names.lookup name = some value) names
      values) :
    exists xs, names.mapM scene.value? = some xs ∧ List.Forall₂ (r.Stands p) values xs := by
  induction hlookup with
  | nil => exact ⟨[], rfl, .nil⟩
  | @cons name value names values hvalue _ ih =>
      rw [List.forall_mem_cons] at hnames
      rcases h.names name value hnames.left hvalue with ⟨x, hx, hstands⟩
      rcases ih hnames.right with ⟨xs, hxs, hrest⟩
      refine ⟨x :: xs, ?_, .cons hstands hrest⟩
      rw [List.mapM_cons, hx, hxs]
      rfl

theorem Matches.renders_valuesOf (h : r.Matches hidden p scene) {names : List String}
    (hnames : forall name, name ∈ names -> name ∉ hidden) {next : List ValueId -> Emit α}
    {onward : List Scalar -> Option β}
    (hnext : forall values xs, List.Forall₂ (r.Stands p) values xs ->
      r.Renders p world (next values) (onward xs) fits) :
    r.Renders p world (Emit.valuesOf names >>= next) (names.mapM scene.value? >>= onward) fits := by
  intro y builder hrun
  rcases Emit.exists_of_bind_eq_ok hrun with ⟨values, middle, hvalues, hlast⟩
  rcases Emit.valuesOf_eq_ok hvalues with ⟨hlookup, rfl⟩
  rcases h.exists_values hnames hlookup with ⟨xs, hxs, hstands⟩
  rw [hxs]
  exact hnext values xs hstands y builder hlast

/-- A value that is computed is bound to a name. -/
theorem Matches.shows_bind (h : r.Matches hidden p scene) {action : Emit ValueId}
    {meaning : Option Scalar} {change : Progress -> Progress}
    (haction : r.Renders p scene.world action meaning (r.Gives p scene.world))
    (hgrows : Emit.Grows [] change action) (name : String) :
    r.Shows (unhide [name] hidden) p (action >>= fun value => Emit.bind name value) scene
      (meaning >>= fun x => some (scene.bind name x)) := by
  apply haction.bind hgrows fun value => Emit.grows_bind name value
  rintro value x q _ ⟨rfl, hq, hx⟩
  apply renders_of_unchanged
  rintro _ _ ⟨⟩
  exact ⟨rfl, rfl, hq.later.trans (.of_types rfl), (h.reach hq).bind hx name⟩

/-- A value that is computed from a named one is bound to a name. -/
theorem Matches.shows_unary (h : r.Matches hidden p scene) {a : String} (ha : a ∉ hidden)
    {operation : ValueId -> Operation}
    (hrename : forall a, operation a = (operation 0).rename fun place => [a].getD place 0)
    (hoperands : (operation 0).operands = [0]) (result : String) :
    r.Shows (unhide [result] hidden) p
      (do
        let a ← Emit.valueOf a
        Emit.bind result (← Emit.compute (operation a)))
      scene
      (do
        let x ← scene.value? a
        let y ← (operation 0).on [x]
        some (scene.bind result y)) := by
  apply h.renders_valueOf ha
  intro a x hx
  have hcompute := renders_unary h.sound hx hrename hoperands scene.world
  exact h.shows_bind hcompute (Emit.computes_compute _) result

theorem Matches.shows_binary (h : r.Matches hidden p scene) {a b : String} (ha : a ∉ hidden)
    (hb : b ∉ hidden) {operation : ValueId -> ValueId -> Operation}
    (hrename : forall a b,
      operation a b = (operation 0 1).rename fun place => [a, b].getD place 0)
    (hoperands : (operation 0 1).operands = [0, 1]) (result : String) :
    r.Shows (unhide [result] hidden) p
      (do
        let a ← Emit.valueOf a
        let b ← Emit.valueOf b
        Emit.bind result (← Emit.compute (operation a b)))
      scene
      (do
        let x ← scene.value? a
        let y ← scene.value? b
        let z ← (operation 0 1).on [x, y]
        some (scene.bind result z)) := by
  apply h.renders_valueOf ha
  intro a x hx
  apply h.renders_valueOf hb
  intro b y hy
  have hcompute := renders_binary h.sound hx hy hrename hoperands scene.world
  exact h.shows_bind hcompute (Emit.computes_compute _) result

theorem Shows.since {action : Emit Unit} {meaning : Option (Scene σ)}
    (h : r.Shows hidden q action scene meaning) (hlater : p.Later q) :
    r.Renders q scene.world action meaning fun _ after s world =>
      world = after.world ∧ p.Later s ∧ r.Matches hidden s after := by
  apply Renders.mono h
  rintro _ after s world ⟨hworld, hnext, hmatches⟩
  exact ⟨hworld, hlater.trans hnext, hmatches⟩

theorem Matches.shows_store (h : r.Matches hidden p scene) {value a : ValueId} {x y : Scalar}
    (hvalue : r.Stands p value x) (ha : r.Stands p a y) (offset : Int) :
    r.Shows hidden p (Emit.append (.store value a offset)) scene (scene.store y offset x) := by
  rintro _ _ ⟨⟩ more hmore scope haccepts
  rw [List.append_cancel_left_eq] at hmore
  subst hmore
  have hx := (hvalue.operand haccepts List.mem_cons_self).left
  have hy := (ha.operand haccepts (List.mem_cons_of_mem value (List.mem_singleton_self a))).left
  have hruns : (Instruction.rename r.demand.resolve (.store value a offset)).run r.invoke
      (p.frame, scene.world) =
        (scene.store y offset x).bind fun after => some (p.frame, after.world) := by
    simp only [Instruction.rename, Instruction.run, hx, hy, Option.bind_eq_bind, Option.bind_some,
      Scene.store]
    cases y.asAddress? with
    | none => rfl
    | some place => rfl
  rw [runAll_single]
  cases hstore : scene.store y offset x with
  | none =>
      rw [hstore] at hruns
      exact hruns
  | some after =>
      rw [hstore] at hruns
      have hresults : (Instruction.store value a offset).results =
          List.range' p.builder.types.length ([] : List MachineType).length := rfl
      let grown : Builder :=
        { p.builder with pending := p.builder.pending ++ [.store value a offset] }
      have hgrown : grown.types = p.builder.types ++ [] := (List.append_nil _).symm
      rcases h.sound.advance hresults haccepts hruns hgrown with ⟨hsound, hlater⟩
      have hmatches := h.reach ⟨hsound, hlater, rfl, rfl, rfl⟩
      refine ⟨_, _, hruns, rfl, hlater, ?_⟩
      simp only [Scene.store, Option.bind_eq_bind, Option.bind_eq_some_iff,
        Option.some.injEq] at hstore
      rcases hstore with ⟨place, _, rfl⟩
      exact hmatches.inWorld _

/-! ### Locals -/

/-- A local is given another value of its type. -/
theorem Matches.assign (h : r.Matches hidden p scene) {id : LocalId}
    (hid : id < p.builder.locals.length) {value : ValueId} {x : Scalar}
    (hx : r.Stands p value x)
    (htype : p.builder.typeOf value = p.builder.typeOf (p.builder.locals.getD id default)) :
    r.Matches hidden
      ⟨{ p.builder with locals := p.builder.locals.set id value }, p.scope, p.frame⟩
      { scene with locals := scene.locals.set id x } := by
  apply h.update
  · rfl
  · exact h.names
  · exact forall₂_set h.locals hx id
  · have hlocal : id < (scene.locals.map Scalar.type).length := by
      rw [List.length_map, ← h.locals.length_eq]
      exact hid
    have hheld : x.type = (scene.locals.map Scalar.type)[id] := by
      rw [hx.type, htype, List.getD_eq_getElem _ _ hid, List.getElem_map]
      exact (h.locals.get hid _).type.symm
    rw [List.map_set, hheld, List.set_getElem_self]
    exact h.types
  · simp only [List.length_set]
    exact h.made

theorem Matches.shows_newLocal (h : r.Matches hidden p scene) {init : ValueId} {x : Scalar}
    (hx : r.Stands p init x) (name : String)
    (hroom : p.builder.localNames.length < p.builder.locals.length) :
    r.Shows hidden p (Emit.newLocal name init) scene
      (some { scene with locals := scene.locals.set p.builder.localNames.length x }) := by
  apply renders_of_unchanged
  intro _ builder hrun
  rcases Emit.newLocal_eq_ok hrun with ⟨htype, rfl⟩
  have hmatches := h.assign hroom hx htype
  refine ⟨rfl, rfl, .of_types rfl, ?_⟩
  have hlocals := forall₂_set h.locals hx p.builder.localNames.length
  apply h.update
  · rfl
  · exact h.names
  · exact hlocals
  · exact hmatches.types
  · intro other id hlookup
    by_cases heq : other = name
    · subst heq
      simp only [List.lookup_cons_self, Option.some.injEq] at hlookup
      rw [← hlookup, List.length_set]
      exact hroom
    · simp only [Association.lookup_cons_of_ne _ _ heq] at hlookup
      exact hmatches.made other id hlookup

theorem Matches.shows_assignLocal (h : r.Matches hidden p scene) {id : LocalId}
    (hid : id < p.builder.locals.length) {value : ValueId} {x : Scalar}
    (hx : r.Stands p value x) (name : String) :
    r.Shows hidden p (Emit.assignLocal name id value) scene
      (some { scene with locals := scene.locals.set id x }) := by
  apply renders_of_unchanged
  intro _ builder hrun
  rcases Emit.assignLocal_eq_ok hrun with ⟨htype, rfl⟩
  exact ⟨rfl, rfl, .of_types rfl, h.assign hid hx htype⟩

theorem Matches.renders_localOf (h : r.Matches hidden p scene) {name : String}
    {next : LocalId -> Emit α} {onward : LocalId -> Option β}
    (hnext : forall id, id < p.builder.locals.length ->
      r.Renders p world (next id) (onward id) fits) :
    r.Renders p world (Emit.localOf name >>= next)
      (p.builder.localNames.lookup name >>= onward) fits := by
  intro y builder hrun
  rcases Emit.exists_of_bind_eq_ok hrun with ⟨id, middle, hid, hlast⟩
  rcases Emit.localOf_eq_ok hid with ⟨hlookup, rfl⟩
  rw [hlookup]
  exact hnext id (h.made name id hlookup) y builder hlast

theorem Matches.renders_readLocal (h : r.Matches hidden p scene) {id : LocalId}
    (hid : id < p.builder.locals.length) (world : World σ) :
    r.Renders p world (Emit.readLocal id) scene.locals[id]? (r.Gives p world) := by
  have hlocal : id < scene.locals.length := by
    rw [← h.locals.length_eq]
    exact hid
  rw [List.getElem?_eq_getElem hlocal]
  apply renders_of_unchanged
  rintro _ _ ⟨⟩
  have hstands := h.locals.get hid hlocal
  have hvalue : p.builder.locals.getD id default = p.builder.locals[id] :=
    List.getD_eq_getElem _ _ hid
  rw [hvalue]
  refine ⟨rfl, rfl, ?_, hstands.later (.of_types rfl)⟩
  exact ⟨⟨h.sound.types, h.sound.bounded, h.sound.slots⟩, .of_types rfl, rfl, rfl, rfl⟩

end Emission
end Rendition

/-! ## Steps -/

/-- To go on with the first of several answers is to take it, with the world, and then to go on. -/
theorem bind_head? {σ β : Type} (returned : Option (List Scalar × World σ))
    (onward : Scalar -> World σ -> Option β) :
    (do
      let (ys, world) ← returned
      let y ← ys.head?
      onward y world) =
    (do
      let (ys, world) ← returned
      let y ← ys.head?
      some (y, world)) >>= fun answer => onward answer.1 answer.2 := by
  simp only [Option.bind_eq_bind, Option.bind_assoc, Option.bind_some]

section Calls

variable {σ : Type} {r : Rendition σ} {p : Point} {hidden : List String} {scene : Scene σ}

open Emit

theorem Step.shows_call (h : r.Matches hidden p scene) (results : List String) (callee : FuncId)
    {names : List String} (hnames : forall name, name ∈ names -> name ∉ hidden) :
    r.Shows (Rendition.unhide ((call results callee names).binds r.site.signatureOf?) hidden) p
      ((call results callee names).emit r.site) scene
      ((call results callee names).run r.setting p.builder.progress scene) := by
  apply h.renders_valuesOf hnames
  intro arguments xs hxs
  have hgrows : forall returned : List ValueId, Grows results id (do
      Emit.note (.results returned.length)
      bindAll results returned) := by
    intro returned
    exact (computes_note _).then fun _ =>
      (grows_bindAll results returned).mono fun name hname => List.mem_of_mem_take hname
  apply (Rendition.renders_call h.sound hxs callee scene.world).bind (computes_call _ _ _) hgrows
  rintro returned ⟨ys, world⟩ q after ⟨hworld, hq, hys, signature, hsignature, hlength⟩
  apply Rendition.renders_of_unchanged
  intro _ builder hrun
  simp only [Action.run_bind, Emit.note, Action.run_modify, run_bindAll] at hrun
  cases hrun
  have hbound := ((h.reach hq).inWorld world).bindAll hys results
  rw [hlength] at hbound
  have hbinds : (call results callee names).binds r.site.signatureOf? =
      results.take signature.returns.length := by
    simp only [Step.binds, hsignature]
  rw [hbinds]
  exact ⟨rfl, hworld.symm, hq.later.trans (.of_types rfl), hbound.congr rfl rfl rfl rfl⟩

theorem Step.shows_callFirst (h : r.Matches hidden p scene) (result : String) (callee : FuncId)
    {names : List String} (hnames : forall name, name ∈ names -> name ∉ hidden) :
    r.Shows (Rendition.unhide [result] hidden) p ((callFirst result callee names).emit r.site) scene
      ((callFirst result callee names).run r.setting p.builder.progress scene) := by
  apply h.renders_valuesOf hnames
  intro arguments xs hxs
  have hsame := bind_head? (r.invoke callee xs scene.world) fun y world =>
    some ({ scene with world := world }.bind result y)
  have hbind : forall (value : ValueId) (answer : Scalar × World σ) q after,
      answer.2 = after ∧ r.Reaches p q ∧ r.Stands q value answer.1 ->
        r.Renders q after (Emit.bind result value)
          (some ({ scene with world := answer.2 }.bind result answer.1))
          fun _ after q world => world = after.world ∧ p.Later q ∧
            r.Matches (Rendition.unhide [result] hidden) q after := by
    rintro value ⟨y, world⟩ q after ⟨hworld, hq, hy⟩
    apply Rendition.renders_of_unchanged
    rintro _ _ ⟨⟩
    exact ⟨rfl, hworld.symm, hq.later.trans (.of_types rfl),
      ((h.reach hq).inWorld world).bind hy result⟩
  have hcall := (Rendition.renders_callFirst h.sound hxs callee scene.world).bind
    (computes_callFirst r.site callee arguments) (fun value => grows_bind result value) hbind
  rw [← hsame] at hcall
  exact hcall

end Calls

open Emit in
/-- What a step is emitted to does to a point what the step does to the scene. -/
theorem Step.shows {σ : Type} {r : Rendition σ} {p : Point} {hidden : List String} {scene : Scene σ}
    (h : r.Matches hidden p scene) (step : Step)
    (huses : forall name, name ∈ step.uses -> name ∉ hidden)
    (hroom : (step.progress p.builder.progress).localNames.length ≤ p.builder.locals.length) :
    r.Shows (Rendition.unhide (step.binds r.site.signatureOf?) hidden) p (step.emit r.site) scene
      (step.run r.setting p.builder.progress scene) := by
  have hsound := h.sound
  cases step
  case call results callee names => exact shows_call h results callee huses
  case callFirst result callee names => exact shows_callFirst h result callee huses
  all_goals
    simp only [Step.uses, List.mem_cons, List.not_mem_nil, or_false, forall_eq_or_imp,
      forall_eq] at huses
  case param result index =>
      rw [Step.emit]
      split
      · rename_i hindex
        rcases h.params index hindex with ⟨x, hx, hstands⟩
        have hbind := h.shows_bind (Rendition.renders_pure hsound hstands scene.world)
          (computes_pure index) result
        rw [Step.run]
        simp only [Rendition.setting, hx]
        exact hbind
      · exact Rendition.renders_misuse _
  case constInt result type value =>
      exact h.shows_bind (Rendition.renders_constant hsound rfl _) (computes_compute _) result
  case constFloat result type value =>
      rw [Step.emit, constFloat_eq]
      exact h.shows_bind
        (Rendition.renders_constant hsound (Operation.operands_floatConstant _ _) _)
        (computes_compute _) result
  case zero result type =>
      rw [Step.emit, zero_eq]
      exact h.shows_bind
        (Rendition.renders_constant hsound (Lowering.operands_zeroConstant _ _) _)
        (computes_compute _) result
  case multiplyAdd result a b c =>
      apply h.renders_valueOf huses.left
      intro a x ha
      apply h.renders_valueOf huses.right.left
      intro b y hb
      apply h.renders_valueOf huses.right.right
      intro c z hc
      apply (Rendition.renders_binary hsound ha hb (fun _ _ => rfl) rfl scene.world).bind
        (computes_compute _) fun _ => (computes_compute _).then fun _ => grows_bind _ _
      rintro product m q _ ⟨rfl, hq, hm⟩
      refine Rendition.Shows.since ?_ hq.later
      have hz := hc.later hq.later
      exact (h.reach hq).shows_bind
        (Rendition.renders_binary hq.sound hm hz (fun _ _ => rfl) rfl _) (computes_compute _) result
  case unary result function a => exact h.shows_unary huses (fun _ => rfl) rfl result
  case extend128 result a => exact h.shows_unary huses (fun _ => rfl) rfl result
  case truncate result type a => exact h.shows_unary huses (fun _ => rfl) rfl result
  case equals result a value => exact h.shows_unary huses (fun _ => rfl) rfl result
  case fromSigned result type a =>
      apply h.renders_valueOf huses
      intro a x ha
      exact h.shows_bind (Rendition.renders_fromSigned hsound ha type _)
        (computing_computes.fromSigned _ _ _) result
  case fromUnsigned result type a =>
      apply h.renders_valueOf huses
      intro a x ha
      exact h.shows_bind (Rendition.renders_fromUnsigned hsound ha type _)
        (computing_computes.fromUnsigned _ _ _) result
  case select result condition a b =>
      apply h.renders_valueOf huses.left
      intro condition x hx
      apply h.renders_valueOf huses.right.left
      intro a y hy
      apply h.renders_valueOf huses.right.right
      intro b z hz
      exact h.shows_bind (Rendition.renders_ternary hsound hx hy hz (fun _ _ _ => rfl) rfl _)
        (computes_compute _) result
  case addressAt result element base index =>
      apply h.renders_valueOf huses.left
      intro base x hx
      apply h.renders_valueOf huses.right
      intro index y hy
      exact h.shows_bind (Rendition.renders_addressAt hsound hx hy element _)
        (computing_computes.addressAt _ _ _ _) result
  case loadAt result element base index =>
      apply h.renders_valueOf huses.left
      intro base x hx
      apply h.renders_valueOf huses.right
      intro index y hy
      apply (Rendition.renders_addressAt hsound hx hy element scene.world).bind
        (computing_computes.addressAt _ _ _ _) fun _ =>
          (computes_load _ _ _ _).then fun _ => grows_bind _ _
      rintro address place q _ ⟨rfl, hq, hplace⟩
      have hload := Rendition.renders_load hq.sound hplace element 0 scene
      exact ((h.reach hq).shows_bind hload (computes_load _ _ _ _) result).since hq.later
  case storeAt element base index value =>
      apply h.renders_valueOf huses.left
      intro base x hx
      apply h.renders_valueOf huses.right.left
      intro index y hy
      apply h.renders_valueOf huses.right.right
      intro value z hz
      apply (Rendition.renders_addressAt hsound hx hy element scene.world).bind
        (computing_computes.addressAt _ _ _ _) fun _ => computes_store _ _ _
      rintro address place q _ ⟨rfl, hq, hplace⟩
      rw [Step.binds, Rendition.unhide_nil]
      exact ((h.reach hq).shows_store (hz.later hq.later) hplace 0).since hq.later
  case load result type address offset =>
      apply h.renders_valueOf huses
      intro address x hx
      exact h.shows_bind (Rendition.renders_load hsound hx type offset scene)
        (computes_load _ _ _ _) result
  case store value address offset =>
      apply h.renders_valueOf huses.left
      intro value x hx
      apply h.renders_valueOf huses.right
      intro address y hy
      rw [Step.binds, Rendition.unhide_nil]
      exact h.shows_store hx hy offset
  case reserve result size alignShift =>
      have hbind := h.shows_bind (Rendition.renders_reserve hsound size alignShift scene.world)
        (grows_reserve _ _ _) result
      have hsame : ((r.addresses[p.builder.slots.length]?.map Scalar.address) >>=
          fun x => some (scene.bind result x)) =
            Step.run r.setting p.builder.progress (.reserve result size alignShift) scene := by
        rw [Step.run, Option.bind_eq_bind, Option.bind_map]
        rfl
      rw [hsame] at hbind
      exact hbind
  case newLocal name type init =>
      apply h.renders_valueOf huses
      intro init x hx
      rw [Step.binds, Rendition.unhide_nil]
      exact h.shows_newLocal hx name hroom
  case readLocal result name =>
      apply h.renders_localOf
      intro id hid
      exact h.shows_bind (h.renders_readLocal hid scene.world) (computes_readLocal id) result
  case assignLocal name value =>
      apply h.renders_localOf
      intro id hid
      apply h.renders_valueOf huses
      intro value x hx
      rw [Step.binds, Rendition.unhide_nil]
      exact h.shows_assignLocal hid hx name
  case fail => exact Rendition.renders_fault _
  case note type =>
      rw [Step.binds, Rendition.unhide_nil]
      apply Rendition.renders_of_unchanged
      rintro _ _ ⟨⟩
      exact ⟨rfl, rfl, .of_types rfl, h.congr rfl rfl rfl rfl⟩
  case int result operator a b =>
      exact h.shows_binary huses.left huses.right (fun _ _ => rfl) rfl result
  case float result operator a b =>
      exact h.shows_binary huses.left huses.right (fun _ _ => rfl) rfl result
  -- A sum or a product is of floats or of integers.
  all_goals
    rename_i result type a b
    rw [Step.emit, Step.run]
    cases type.isFloat with
    | true => exact h.shows_binary huses.left huses.right (fun _ _ => rfl) rfl result
    | false => exact h.shows_binary huses.left huses.right (fun _ _ => rfl) rfl result

end Provision
