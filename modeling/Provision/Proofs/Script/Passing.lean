import Provision.Proofs.Script.Entering

/-!
# Passes of emitted loops

Between two passes of a loop the frame follows from what the locals hold.  A local that the loop
does not carry has no use, or it holds what it did before the loop.  So every pass of the code does
what the script says for its number.
-/

namespace Provision
namespace Rendition

variable {σ : Type} {r : Rendition σ} {p q : Point} {hidden : List String} {scene : Scene σ}
  {parts : LoopParts} {width : Width} {e : BitVec width.bits} {inner ended : Scope}

/-! ## Scenes of passes -/

/-- What a scene is between two passes of a loop.  A local that no pass changes is what it was
before the loop. -/
structure Between (r : Rendition σ) (q : Point) (parts : LoopParts) (scene state : Scene σ) :
    Prop where
  names : state.names = scene.names
  types : state.locals.map Scalar.type = r.types
  unchanged : List.Forall₂ (fun one x => r.demand.resolve one.value ≠ one.value ->
    r.Stands q one.initial x) parts.locals state.locals

section Scenes

variable {head : CountedLoop} {body rest : Script} {after : Builder}

theorem Matches.types_locals (h : r.Matches hidden p scene)
    (hparts : parts.Emitted r.site head body rest p.builder after) :
    parts.locals.map Carried.type = r.types := by
  have hheld : forall value, value ∈ p.builder.locals -> value < p.builder.types.length := by
    intro value hvalue
    rcases exists_of_forall₂ h.locals hvalue with ⟨_, hstands⟩
    exact hstands.bound
  rw [hparts.map_type, hparts.types hheld, ← h.types, map_eq_map_iff]
  exact h.locals.imp fun _ _ hstands => hstands.type.symm

/-- What a local holds before a loop has the type of what the loop carries for it. -/
theorem Matches.exists_initial (h : r.Matches hidden p scene)
    (hparts : parts.Emitted r.site head body rest p.builder after) {one : Carried}
    (hone : one ∈ parts.locals) : exists x, r.Stands p one.initial x ∧ one.type = x.type := by
  have hlocals := h.locals
  rw [← hparts.initial, List.forall₂_map_left_iff] at hlocals
  have htypes := map_eq_map_iff.mp ((h.types_locals hparts).trans h.types.symm)
  exact exists_of_forall₂ (hlocals.mp (fun _ _ => And.intro) htypes) hone

theorem Matches.between (h : r.Matches hidden p scene)
    (hparts : parts.Emitted r.site head body rest p.builder after) (hreaches : r.Reaches p q) :
    r.Between q parts scene scene where
  names := rfl
  types := h.types
  unchanged := by
    have hlocals := h.locals
    rw [← hparts.initial, List.forall₂_map_left_iff] at hlocals
    exact hlocals.imp fun _ _ hstands _ => hstands.later hreaches.later

/-- A builder and a scope inside of a loop, or right after it. -/
structure Inside (parts : LoopParts) (head : CountedLoop) (before : Builder) (inner : Scope)
    (builder : Builder) (scope : Scope) : Prop where
  scope : scope.values = inner.values
  types : exists more, builder.types = (head.enter parts.bound parts.types before).types ++ more

variable {builder : Builder} {scope : Scope} {state : Scene σ}
  (h : r.Enters p q parts width e inner ended)
  (hparts : parts.Emitted r.site head body rest p.builder after)
  (hinside : Inside parts head p.builder inner builder scope)
  (x : BitVec width.bits) (goesOn : Bool)

include h hparts hinside

theorem Enters.later (xs : List Scalar) :
    q.Later ⟨builder, scope, r.within p q parts width x xs goesOn⟩ where
  types := by
    rcases hinside.types with ⟨more, htypes⟩
    refine ⟨[.int width] ++ parts.types ++ [.i8] ++ more, ?_⟩
    rw [h.types]
    simp only [htypes, CountedLoop.enter, h.type, List.append_assoc, List.cons_append,
      List.nil_append]
  scope := by
    intro value hvalue
    rw [h.length_types] at hvalue
    simp only [hinside.scope]
    exact h.lookup_older hparts.value hvalue
  frame := by
    intro value hvalue
    rw [h.length_types] at hvalue
    exact value?_within_older hparts.value x goesOn hvalue

theorem Enters.sound {xs : List Scalar}
    (hxs : xs.map Scalar.type = parts.locals.map Carried.type) :
    r.Sound ⟨builder, scope, r.within p q parts width x xs goesOn⟩ where
  types := by
    simp only [Scope.Types, hinside.scope]
    exact h.types_within x hxs goesOn
  bounded := by
    rcases hinside.types with ⟨more, htypes⟩
    simp only [hinside.scope, htypes, List.length_append, CountedLoop.length_enter, hparts.length]
    intro value type hlookup
    exact Nat.lt_add_right _ (h.bounded hparts.value hlookup)
  slots := h.reaches.sound.slots

theorem Enters.stands_index {xs : List Scalar}
    (hxs : xs.map Scalar.type = parts.locals.map Carried.type) :
    r.Stands ⟨builder, scope, r.within p q parts width x xs goesOn⟩ (p.builder.types.length + 1)
      (.int width x) := by
  have hsound := h.sound hparts hinside x goesOn hxs
  rcases hinside.types with ⟨more, htypes⟩
  have hlt : p.builder.types.length + 1 <
      (head.enter parts.bound parts.types p.builder).types.length := by
    rw [CountedLoop.length_enter]
    omega
  have htype : builder.typeOf (p.builder.types.length + 1) = .int width := by
    rw [Builder.typeOf_of_append htypes hlt, CountedLoop.typeOf_enter_index, h.type]
  apply hsound.stands (Demand.resolve_of_keeps h.index)
  · simp only [hinside.scope, htype]
    exact h.lookup_carried hparts.value List.mem_cons_self
  · exact value?_within_index x goesOn

/-- What the locals hold is what their carried values stand for. -/
theorem Enters.stands_locals (hsuited : parts.Suited r.demand p.builder)
    (htypes : parts.locals.map Carried.type = r.types)
    (hbetween : r.Between q parts scene state) :
    List.Forall₂ (r.Stands ⟨builder, scope, r.within p q parts width x state.locals goesOn⟩)
      (List.range' (p.builder.types.length + 2) p.builder.locals.length) state.locals := by
  have hxs := hbetween.types.trans htypes.symm
  have hsound := h.sound hparts hinside x goesOn hxs
  have hlater := h.later hparts hinside x goesOn state.locals
  have heach := map_eq_map_iff.mp hxs.symm
  have hkept := value?_within_kept (r := r) (q := q) hparts.value x goesOn heach.length_eq
  have hall := (List.forall₂_and_left _ _).mpr ⟨fun one hone => hone,
    (heach.mp (fun _ _ => And.intro) hkept).mp (fun _ _ => And.intro) hbetween.unchanged⟩
  rcases hinside.types with ⟨more, hbuilder⟩
  rw [← hparts.value, List.forall₂_map_left_iff]
  apply hall.imp
  rintro one y ⟨hone, ⟨htype, hheld⟩, hunchanged⟩
  have hlt : one.value < (head.enter parts.bound parts.types p.builder).types.length := by
    have hmem := List.mem_map_of_mem (f := Carried.value) hone
    rw [hparts.value, List.mem_range'_1] at hmem
    have hle : p.builder.types.length + 2 + p.builder.locals.length ≤
        p.builder.types.length + 3 + p.builder.locals.length := by
      omega
    rw [CountedLoop.length_enter, hparts.length]
    exact Nat.lt_of_lt_of_le hmem.right hle
  have hbound : one.value < builder.types.length := by
    rw [hbuilder, List.length_append]
    exact Nat.lt_add_right _ hlt
  have hbuilt : builder.typeOf one.value = one.type :=
    (Builder.typeOf_of_append hbuilder hlt).trans (hparts.type one hone).symm
  have hdone : y.type = builder.typeOf one.value := htype.symm.trans hbuilt.symm
  cases hkeeps : r.demand.keeps one.value with
  | true =>
      apply hsound.stands (Demand.resolve_of_keeps hkeeps)
      · have hcarried : one.rename r.demand.resolve ∈
            (r.counting p parts width).header.carried :=
          List.mem_cons_of_mem _
            (List.mem_map_of_mem (List.mem_filter.mpr ⟨hone, hkeeps⟩))
        have hlookup := h.lookup_carried hparts.value hcarried
        simp only [hinside.scope, hbuilt]
        exact hlookup
      · exact hheld hkeeps
  | false =>
      by_cases hself : r.demand.resolve one.value = one.value
      · constructor
        · exact hbound
        · rw [hself]
          exact hbound
        · exact hdone
        · simp only [hself, hinside.scope, h.lookup_dropped hparts.value hone hkeeps]
          intro type hnone
          cases hnone
      · rcases hsuited.decides one hone with hsame | ⟨_, hinitial, _⟩
        · exact absurd hsame hself
        · exact ((hunchanged hself).later hlater).alias hbound hdone hinitial

/-- Inside of a loop and right after it, the scene has the counter and the locals of a pass, and the
names that it had before the loop. -/
theorem Enters.matches (hmatches : r.Matches hidden p scene)
    (hsuited : parts.Suited r.demand p.builder) (hbetween : r.Between q parts scene state)
    {gone : List String}
    (hnames : forall name, name ∉ gone -> builder.names.lookup name =
      ((head.counter, p.builder.types.length + 1) :: p.builder.names).lookup name)
    (hgone : forall name, name ≠ head.counter -> name ∈ hidden -> name ∈ gone)
    (hlocals : builder.locals =
      List.range' (p.builder.types.length + 2) p.builder.locals.length)
    (hmade : forall name id, builder.localNames.lookup name = some id ->
      id < p.builder.locals.length) :
    r.Matches gone ⟨builder, scope, r.within p q parts width x state.locals goesOn⟩
      (state.bind head.counter (.int width x)) := by
  have htypes := hmatches.types_locals hparts
  have hxs := hbetween.types.trans htypes.symm
  have hlater := h.later hparts hinside x goesOn state.locals
  constructor
  · exact h.sound hparts hinside x goesOn hxs
  · intro index hindex
    rcases hmatches.params index hindex with ⟨y, hy, hstands⟩
    exact ⟨y, hy, (hstands.later h.reaches.later).later hlater⟩
  · intro name value hname hlookup
    simp only [hnames name hname] at hlookup
    by_cases heq : name = head.counter
    · subst heq
      simp only [List.lookup_cons_self, Option.some.injEq] at hlookup
      rw [← hlookup]
      exact ⟨_, List.lookup_cons_self, h.stands_index hparts hinside x goesOn hxs⟩
    · simp only [Association.lookup_cons_of_ne _ _ heq] at hlookup
      have hout : name ∉ hidden := fun hmem => hname (hgone name heq hmem)
      rcases hmatches.names name value hout hlookup with ⟨y, hy, hstands⟩
      refine ⟨y, ?_, (hstands.later h.reaches.later).later hlater⟩
      simp only [Scene.value?, Scene.bind, hbetween.names] at hy ⊢
      exact (Association.lookup_cons_of_ne _ _ heq).trans hy
  · simp only [hlocals]
    exact h.stands_locals hparts hinside x goesOn hsuited htypes hbetween
  · exact hbetween.types
  · simp only [hlocals, List.length_range']
    exact hmade

end Scenes

/-! ## Scripts beside their code -/

/-- A script that has been emitted to code which is accepted where it stands. -/
structure Places (r : Rendition σ) (hidden : List String) (script : Script) (builder : Builder)
    (scope : Scope) (code : Code) (after : Builder) (last : Scope) : Prop where
  emit : Region.emit r.site script builder = .ok code after
  pending : builder.pending = []
  room : (Script.progress builder.progress script).localNames.length ≤ builder.locals.length
  suits : r.demand.Suits code
  check : (code.prune r.demand).check r.env scope = .ok last
  fits : last.fits = true
  inScope : script.isScoped r.site.signatureOf? hidden = true

/-- What a script is emitted to does to a point what the script does to the scene. -/
def ShowsAll (r : Rendition σ) (hidden : List String) (p : Point) (code : Code) (script : Script)
    (after : Builder) (last : Scope) (scene : Scene σ) : Prop :=
  Follows (script.run r.setting p.builder.progress scene)
    (fun final state => state.2 = final.world ∧ p.Later ⟨after, last, state.1⟩ ∧
      r.Matches (Script.hides r.site.signatureOf? hidden script) ⟨after, last, state.1⟩ final)
    ((code.prune r.demand).run r.invoke (p.frame, scene.world))

section Passes

variable {head : CountedLoop} {body rest : Script} {after : Builder} {state : Scene σ}

/-- What a loop carries into a pass, and the world of it. -/
def carry (r : Rendition σ) (parts : LoopParts) (width : Width) (i : Nat) (state : Scene σ) :
    List Scalar × World σ :=
  (.int width (.ofNat _ i) :: sift (fun one => r.demand.keeps one.value) parts.locals state.locals,
    state.world)

/-- What is carried into a pass is found under some numbers if the counter and the locals that are
kept are. -/
theorem mapM_carried (frame : Frame) (number : Carried -> ValueId) {i : Nat}
    (hindex : forall one, (r.counting p parts width).header.carried.head? = some one ->
      frame.value? (number one) = some (.int width (.ofNat _ i)))
    (hlength : parts.locals.length = state.locals.length)
    (hlocals : List.Forall₂ (fun one y => r.demand.keeps one.value = true ->
      frame.value? (number (one.rename r.demand.resolve)) = some y) parts.locals state.locals) :
    ((r.counting p parts width).header.carried.mapM fun one => frame.value? (number one)) =
      some (r.carry parts width i state).1 := by
  rw [mapM_eq_some_iff]
  constructor
  · exact hindex _ rfl
  · rw [← forall₂_sift_iff hlength] at hlocals
    exact List.forall₂_map_left_iff.mpr hlocals

/-- After the body of a loop, the next pass is carried what the locals hold. -/
theorem Enters.goes (h : r.Enters p q parts width e inner ended)
    (hparts : parts.Emitted r.site head body rest p.builder after)
    (hmatches : r.Matches hidden p scene) (hsuited : parts.Suited r.demand p.builder)
    {between : Scope} {frame : Frame} {final : Scene σ} {names : List String}
    (hcheck : (Instruction.compute parts.middle.types.length
      (.addImmediate (p.builder.types.length + 1) 1)).check r.env between = .ok ended)
    (hlater : q.Later ⟨parts.middle, between, frame⟩)
    (hfinal : r.Matches names ⟨parts.middle, between, frame⟩ final) {i : Nat}
    (hindex : frame.value? (p.builder.types.length + 1) = some (.int width (.ofNat _ i))) :
    r.Between q parts scene { final with names := scene.names } ∧
      exists last,
        Instruction.runAll r.invoke [.compute parts.middle.types.length
          (.addImmediate (p.builder.types.length + 1) 1)] (frame, final.world) =
            some (last, final.world) ∧
        (r.counting p parts width).header.nexts last =
          some (r.carry parts width (i + 1) final).1 := by
  have hnexts := hfinal.locals
  rw [← hparts.next, List.forall₂_map_left_iff] at hnexts
  have htypes := map_eq_map_iff.mp ((hmatches.types_locals hparts).trans hfinal.types.symm)
  have hall := (List.forall₂_and_left _ _).mpr ⟨fun one hone => hone,
    hnexts.mp (fun _ _ => And.intro) htypes⟩
  constructor
  · refine ⟨rfl, hfinal.types, ?_⟩
    apply hall.imp
    rintro one y ⟨hone, hstands, htype⟩ hother
    rcases hmatches.exists_initial hparts hone with ⟨x, hx, hsame⟩
    rcases hsuited.decides one hone with hself | ⟨_, hinitial, hback⟩
    · exact absurd hself hother
    · exact hstands.earlier hlater (hx.later h.reaches.later) (htype.symm.trans hsame)
        (hback.trans hinitial)
  · rcases Instruction.leads_increment r.invoke final.world parts.middle.types.length hindex with
      ⟨last, hleads, hcounter⟩
    refine ⟨last, hleads.runs, ?_⟩
    have hgrown : BitVec.ofNat width.bits i + 1 = BitVec.ofNat _ (i + 1) :=
      (BitVec.ofNat_add i 1).symm
    have hvalues : ended.values = (parts.middle.types.length,
        between.typeOf (p.builder.types.length + 1)) :: between.values := by
      rw [(Instruction.check_eq_ok hcheck).right.right]
      rfl
    rw [hgrown] at hcounter
    apply mapM_carried last Carried.next
    · rintro one ⟨⟩
      exact hcounter
    · exact htypes.length_eq
    apply hall.imp
    rintro one y ⟨hone, hstands, _⟩ hkeeps
    have hcarried : one.rename r.demand.resolve ∈ (r.counting p parts width).header.carried :=
      List.mem_cons_of_mem _ (List.mem_map_of_mem (List.mem_filter.mpr ⟨hone, hkeeps⟩))
    have hused := List.mem_map_of_mem (f := Carried.next) hcarried
    rcases Scope.exists_of_missing? h.checks.next hused with ⟨type, hlookup⟩
    have holder : (one.rename r.demand.resolve).next < parts.middle.types.length := hstands.older
    rw [hvalues, Association.lookup_cons_of_ne _ _ (Nat.ne_of_lt holder)] at hlookup
    exact hleads.keeps.value? (hstands.holds type hlookup).right hstands.older

/-- The header of a loop enters the body as long as the counter is less than the bound. -/
theorem Enters.run_header (h : r.Enters p q parts width e inner ended)
    (hparts : parts.Emitted r.site head body rest p.builder after) {i : Nat}
    (hi : i ≤ e.toInt.toNat) (state : Scene σ) :
    (r.counting p parts width).header.run r.invoke
        (q.frame.bindAll (r.counting p parts width).header.parameters
          (r.carry parts width i state).1, state.world) =
      some (decide (i < e.toInt.toNat),
        (r.within p q parts width (.ofNat _ i) state.locals (decide (i < e.toInt.toNat)),
          state.world)) := by
  have hfree : r.demand.resolve parts.bound ∉ (r.counting p parts width).header.parameters := by
    intro hmem
    have hfirst := (bounds_of_mem_parameters hparts.value hmem).left
    exact Nat.not_lt_of_le (Nat.le_of_succ_le hfirst) h.older
  have hrun := (r.counting p parts width).run_header r.invoke state.world (.ofNat _ i)
    (sift (fun one => r.demand.keeps one.value) parts.locals state.locals) h.bound hfree
  have hless : (BitVec.ofNat (r.counting p parts width).width.bits i).slt e =
      decide (i < e.toInt.toNat) := slt_ofNat hi
  rw [hless] at hrun
  exact hrun

theorem Enters.initials (h : r.Enters p q parts width e inner ended)
    (hparts : parts.Emitted r.site head body rest p.builder after)
    (hmatches : r.Matches hidden p scene) :
    (r.counting p parts width).header.initials q.frame = some (r.carry parts width 0 scene).1 := by
  have hlocals := hmatches.locals
  rw [← hparts.initial, List.forall₂_map_left_iff] at hlocals
  have hall := (List.forall₂_and_left _ _).mpr ⟨fun one hone => hone, hlocals⟩
  rcases h.checks.enter with ⟨entered, hentered, _⟩
  have hmissing := (LoopHeader.enter_eq_ok hentered).left
  apply mapM_carried q.frame Carried.initial
  · rintro one ⟨⟩
    exact h.origin
  · exact hlocals.length_eq
  apply hall.imp
  rintro one x ⟨hone, hstands⟩ hkeeps
  have hcarried : one.rename r.demand.resolve ∈ (r.counting p parts width).header.carried :=
    List.mem_cons_of_mem _ (List.mem_map_of_mem (List.mem_filter.mpr ⟨hone, hkeeps⟩))
  have hused := List.mem_map_of_mem (f := Carried.initial) hcarried
  rcases Scope.exists_of_missing? hmissing hused with ⟨type, hlookup⟩
  exact ((hstands.later h.reaches.later).holds type hlookup).right

end Passes

/-! ## Loops beside their code -/

section Loops

variable {head : CountedLoop} {body rest : Script} {after : Builder} {state : Scene σ}
  {between : Scope}

/-- A place where the body of a loop starts. -/
def inward (r : Rendition σ) (head : CountedLoop) (p : Point) (parts : LoopParts) (width : Width)
    (inner : Scope) (frame : Frame) : Point where
  builder := head.enter parts.bound parts.types p.builder
  scope := inner.require (inner.typeOf (r.counting p parts width).header.test == .i8)
  frame := frame

theorem inside_inward (r : Rendition σ) (head : CountedLoop) (p : Point) (parts : LoopParts)
    (width : Width) (inner : Scope) (frame : Frame) :
    Inside parts head p.builder inner (r.inward head p parts width inner frame).builder
      (r.inward head p parts width inner frame).scope :=
  ⟨rfl, [], (List.append_nil _).symm⟩

theorem prune_turn (hsuited : parts.Suited r.demand p.builder) :
    (parts.turn p.builder).prune r.demand = (parts.pass.prune r.demand).append
      (.ofSteps [.compute parts.middle.types.length
        (.addImmediate (p.builder.types.length + 1) 1)]) := by
  rw [LoopParts.turn, Region.prune_append]
  simp only [Region.ofSteps, Region.prune_prepend, List.map_cons, List.map_nil,
    Instruction.rename, Operation.rename, hsuited.index]
  rfl

variable (h : r.Enters p q parts width e inner ended)
  (hparts : parts.Emitted r.site head body rest p.builder after)
  (hmatches : r.Matches hidden p scene) (hsuited : parts.Suited r.demand p.builder)
  (hnext : (Instruction.compute parts.middle.types.length
    (.addImmediate (p.builder.types.length + 1) 1)).check r.env between = .ok ended)
  (hbody : forall frame start,
    r.Matches (unhide [head.counter] hidden) (r.inward head p parts width inner frame) start ->
      r.ShowsAll (unhide [head.counter] hidden) (r.inward head p parts width inner frame)
        parts.pass body parts.middle between start)

include h hparts hmatches hsuited hnext hbody

/-- A pass of a loop does what the script does for the number of the pass. -/
theorem Enters.pass {i : Nat} (hi : i < e.toInt.toNat) (hbetween : r.Between q parts scene state) :
    Follows (Script.pass (body.run r.setting p.builder.progress) head.counter width scene state i)
      (fun final next => next = .inl (r.carry parts width (i + 1) final) ∧
        r.Between q parts scene final)
      ((r.counting p parts width).header.pass r.invoke
        (((parts.turn p.builder).prune r.demand).run r.invoke) q.frame
          (r.carry parts width i state)) := by
  have hinside := r.inside_inward head p parts width inner
    (r.within p q parts width (.ofNat _ i) state.locals true)
  have hrun := h.run_header hparts (Nat.le_of_lt hi) state
  rw [decide_eq_true hi] at hrun
  have hstart : r.Matches (unhide [head.counter] hidden)
      (r.inward head p parts width inner (r.within p q parts width (.ofNat _ i) state.locals true))
      (state.bind head.counter (.int width (.ofNat _ i))) := by
    apply h.matches hparts hinside (.ofNat _ i) true hmatches hsuited hbetween
    · intro name _
      rfl
    · intro name hne hmem
      rw [mem_unhide, List.mem_singleton]
      exact ⟨hmem, hne⟩
    · rfl
    · exact hmatches.made
  have hshows : Follows (body.run r.setting p.builder.progress
      (state.bind head.counter (.int width (.ofNat _ i)))) _
        ((parts.pass.prune r.demand).run r.invoke
          (r.within p q parts width (.ofNat _ i) state.locals true, state.world)) :=
    hbody _ _ hstart
  rw [prune_turn hsuited, Script.pass]
  cases hmeaning : body.run r.setting p.builder.progress
      (state.bind head.counter (.int width (.ofNat _ i))) with
  | none =>
      rw [hmeaning] at hshows
      apply LoopHeader.pass_of_stuck _ _ hrun
      rw [Region.run_append, hshows]
  | some final =>
      rw [hmeaning] at hshows
      rcases hshows with ⟨⟨last, _⟩, hruns, rfl, hlater, hfinal⟩
      have hsince := (h.later hparts hinside (.ofNat _ i) true state.locals).trans hlater
      have hcounter : last.value? (p.builder.types.length + 1) =
          some (.int width (.ofNat _ i)) := by
        have hlt : p.builder.types.length + 1 <
            (head.enter parts.bound parts.types p.builder).types.length := by
          rw [CountedLoop.length_enter]
          omega
        exact (hlater.frame _ hlt).trans (value?_within_index _ true)
      rcases h.goes hparts hmatches hsuited hnext hsince hfinal hcounter with
        ⟨hagain, ended, hturned, hcarry⟩
      have hsteps : Region.run r.invoke (.ofSteps [.compute parts.middle.types.length
          (.addImmediate (p.builder.types.length + 1) 1)]) (last, final.world) =
            some (ended, final.world) := by
        rw [Region.ofSteps, Region.run_prepend, hturned]
        rfl
      refine ⟨_, LoopHeader.pass_of_goesOn _ _ _ hrun ?_ hcarry, rfl, hagain⟩
      rw [Region.run_append, hruns]
      exact hsteps

/-- A loop of the code makes the passes that the script says, and leaves the last one. -/
theorem Enters.iterates :
    Follows (Script.passes (body.run r.setting p.builder.progress) head.counter width e.toInt.toNat
        scene)
      (fun final last => last =
          (r.within p q parts width (.ofNat _ e.toInt.toNat) final.locals false, final.world) ∧
        r.Between q parts scene final)
      ((r.counting p parts width).header.iterate r.invoke
        (((parts.turn p.builder).prune r.demand).run r.invoke) (q.frame, scene.world)) := by
  have hpasses : e.toInt.toNat < maxPasses := by
    have hbelow := BitVec.two_mul_toInt_lt (x := e)
    have hpower : (2 : Int) ^ width.bits ≤ 2 ^ 64 := by
      exact_mod_cast Nat.pow_le_pow_right (by decide) h.narrow
    unfold maxPasses
    omega
  have hcarry : ((r.carry parts width 0 scene).1, scene.world) = r.carry parts width 0 scene := rfl
  rw [LoopHeader.iterate_of_initials r.invoke _ _ (h.initials hparts hmatches), hcarry,
    Script.passes, List.range_eq_range']
  apply repeatPass_of_steps (r.Between q parts scene) (r.carry parts width)
    (fun state => (r.within p q parts width (.ofNat _ e.toInt.toNat) state.locals false,
      state.world)) hpasses
  · intro i state hi hbetween
    rw [Nat.zero_add] at hi
    exact h.pass hparts hmatches hsuited hnext hbody hi hbetween
  · intro state _
    have hrun := h.run_header hparts (Nat.le_refl _) state
    rw [decide_eq_false (Nat.lt_irrefl _)] at hrun
    rw [Nat.zero_add]
    exact LoopHeader.pass_of_leaves _ _ _ hrun
  · exact hmatches.between hparts h.reaches

end Loops

end Rendition
end Provision
