import Provision.Proofs.Script.Passing

/-!
# Scripts beside their code

Code that a script is emitted to, and that is accepted as it is left after pruning, does what the
script says.  The induction is on the script.  A step leads from a point that the scene matches to
the next one; a loop does by its passes, each of them by induction, and what it leaves is matched by
the scene after it.
-/

namespace Provision

/-! ## Locals that a script makes -/

theorem Step.length_le_progress (step : Step) (progress : Progress) :
    progress.localNames.length ≤ (step.progress progress).localNames.length := by
  cases step
  case newLocal => exact Nat.le_succ _
  all_goals exact Nat.le_refl _

theorem Script.length_le_progress (script : Script) (progress : Progress) :
    progress.localNames.length ≤ (Script.progress progress script).localNames.length := by
  induction script generalizing progress with
  | done => exact Nat.le_refl _
  | step first rest ih => exact Nat.le_trans (first.length_le_progress progress) (ih _)
  | loop head body rest ihBody ihRest => exact Nat.le_trans (ihBody progress) (ihRest _)

/-- Whether the locals that have names are among the first ones. -/
def Progress.Within (progress : Progress) (room : Nat) : Prop :=
  forall name id, progress.localNames.lookup name = some id -> id < room

theorem Step.within_progress (step : Step) {progress : Progress} {room : Nat}
    (h : progress.Within room) (hroom : (step.progress progress).localNames.length ≤ room) :
    (step.progress progress).Within room := by
  cases step
  case newLocal made type init =>
      intro name id hlookup
      by_cases heq : name = made
      · subst heq
        simp only [Step.progress, List.lookup_cons_self, Option.some.injEq] at hlookup
        rw [← hlookup]
        exact hroom
      · simp only [Step.progress, Association.lookup_cons_of_ne _ _ heq] at hlookup
        exact h name id hlookup
  all_goals exact h

theorem Script.within_progress (script : Script) {progress : Progress} {room : Nat}
    (h : progress.Within room)
    (hroom : (Script.progress progress script).localNames.length ≤ room) :
    (Script.progress progress script).Within room := by
  induction script generalizing progress with
  | done => exact h
  | step first rest ih =>
      have hfirst := Nat.le_trans (Script.length_le_progress rest _) hroom
      exact ih (first.within_progress h hfirst) hroom
  | loop head body rest ihBody ihRest =>
      have hbody := Nat.le_trans (Script.length_le_progress rest _) hroom
      exact ihRest (ihBody h hbody) hroom

namespace Rendition

variable {σ : Type} {r : Rendition σ} {p q : Point} {hidden : List String} {scene : Scene σ}

/-! ## Steps and what comes after them -/

theorem unhide_singleton (name : String) (hidden : List String) :
    unhide [name] hidden = hidden.filter fun other => other != name := by
  unfold unhide
  apply List.filter_congr
  intro other _
  by_cases heq : other = name
  · simp [heq]
  · simp [heq]

section Steps

variable {first : Step} {rest : Script} {after : Builder} {code : Code} {last : Scope}

/-- What a script is emitted to does what the script does if that holds of everything after its
first step. -/
theorem Places.shows_step
    (hrest : forall hidden p scene code after last,
      r.Places hidden rest p.builder p.scope code after last -> r.Matches hidden p scene ->
        r.ShowsAll hidden p code rest after last scene)
    (h : r.Places hidden (.step first rest) p.builder p.scope code after last)
    (hmatches : r.Matches hidden p scene) :
    r.ShowsAll hidden p code (.step first rest) after last scene := by
  rcases h with ⟨hemit, hpending, hroom, hsuits, hcheck, hfits, hscope⟩
  rcases Region.emit_step_eq_ok hemit with ⟨middle, tail, hfirst, htail, rfl⟩
  rcases first.grows_emit r.site p.builder _ middle hfirst with ⟨more, hmore, hextends, hprogress⟩
  rw [hpending, List.nil_append] at hmore
  rw [Region.prune_prepend] at hcheck
  rcases Region.check_prepend_eq_ok hcheck with ⟨scope, hsteps, hlast⟩
  rcases Demand.suits_prepend.mp hsuits with ⟨hown, hsuitsTail⟩
  rw [Script.isScoped, Bool.and_eq_true, List.all_eq_true] at hscope
  have huses : forall name, name ∈ first.uses -> name ∉ hidden := by
    intro name hname
    simpa using hscope.left name hname
  have hmade : (first.progress p.builder.progress).localNames.length ≤ p.builder.locals.length :=
    Nat.le_trans (Script.length_le_progress rest _) hroom
  have haccepts : r.Accepts middle.pending p.scope scope :=
    ⟨hsteps, Region.fits_of_check hlast hfits, hown⟩
  have hadded : middle.pending = p.builder.pending ++ middle.pending := by
    rw [hpending, List.nil_append]
  have hstep := Step.shows hmatches first huses hmade ⟨⟩ middle hfirst middle.pending hadded scope
    haccepts
  have hall : ((Region.prepend middle.pending tail).prune r.demand).run r.invoke
      (p.frame, scene.world) =
        Instruction.runAll r.invoke (r.prune middle.pending) (p.frame, scene.world) >>=
          (tail.prune r.demand).run r.invoke := by
    have hpruned : (Region.prepend middle.pending tail).prune r.demand =
        Region.prepend (r.prune middle.pending) (tail.prune r.demand) := Region.prune_prepend _ _ _
    rw [hpruned, Region.run_prepend]
    cases Instruction.runAll r.invoke (r.prune middle.pending) (p.frame, scene.world) with
    | none => rfl
    | some next => rfl
  rw [ShowsAll, Script.run, hall]
  cases hrun : first.run r.setting p.builder.progress scene with
  | none =>
      rw [hrun] at hstep
      simp only [hstep]
      rfl
  | some next =>
      rw [hrun] at hstep
      rcases hstep with ⟨frame, _, hruns, rfl, hlater, hnext⟩
      have hflushed : r.Matches (unhide (first.binds r.site.signatureOf?) hidden)
          ⟨middle.flush, scope, frame⟩ next := hnext.congr rfl rfl rfl rfl
      have hplaces : r.Places (unhide (first.binds r.site.signatureOf?) hidden) rest middle.flush
          scope tail after last := by
        constructor
        · exact htail
        · rfl
        · have hsame : middle.flush.progress = first.progress p.builder.progress := hprogress
          rw [hsame]
          exact Nat.le_trans hroom (Nat.le_of_eq hextends.locals.symm)
        · exact hsuitsTail
        · exact hlast
        · exact hfits
        · exact hscope.right
      have hshows := hrest _ ⟨middle.flush, scope, frame⟩ _ _ _ _ hplaces hflushed
      have hprogressed : (Point.mk middle.flush scope frame).builder.progress =
          first.progress p.builder.progress := hprogress
      rw [ShowsAll, hprogressed] at hshows
      have hflush : Point.Later ⟨middle, scope, frame⟩ ⟨middle.flush, scope, frame⟩ :=
        .of_types rfl
      simp only [hruns]
      apply hshows.mono
      rintro final state ⟨hworld, hafter, hfinal⟩
      exact ⟨hworld, (hlater.trans hflush).trans hafter, hfinal⟩

end Steps

/-! ## Loops and what comes after them -/

section Loops

variable {head : CountedLoop} {body rest : Script} {after : Builder} {code : Code} {last : Scope}
  {parts : LoopParts} {width : Width} {e : BitVec width.bits} {inner ended between : Scope}

/-- After a loop the scene is that of its last pass, with the counter at the bound. -/
theorem Enters.matches_after (h : r.Enters p q parts width e inner ended)
    (hparts : parts.Emitted r.site head body rest p.builder after)
    (hmatches : r.Matches hidden p scene) (hsuited : parts.Suited r.demand p.builder)
    (hroom : (Script.progress p.builder.progress body).localNames.length ≤ p.builder.locals.length)
    {state : Scene σ} (hbetween : r.Between q parts scene state) (x : BitVec width.bits) :
    p.Later ⟨CountedLoop.leave parts.bound p.builder parts.middle,
        r.outward p parts width inner ended, r.within p q parts width x state.locals false⟩ ∧
      r.Matches (Script.binds r.site.signatureOf? body ++ unhide [head.counter] hidden)
        ⟨CountedLoop.leave parts.bound p.builder parts.middle,
          r.outward p parts width inner ended, r.within p q parts width x state.locals false⟩
        (state.bind head.counter (.int width x)) := by
  rcases Region.grows_emit r.site body hparts.pass rfl with ⟨_, hextends, hprogress⟩
  rcases hextends.types with ⟨more, hmore, _⟩
  have hinside : Inside parts head p.builder inner
      (CountedLoop.leave parts.bound p.builder parts.middle)
      (r.outward p parts width inner ended) := by
    refine ⟨rfl, more ++ [p.builder.typeOf parts.bound], ?_⟩
    rw [← List.append_assoc, ← hmore]
    rfl
  constructor
  · exact h.reaches.later.trans (h.later hparts hinside x false state.locals)
  · apply h.matches hparts hinside x false hmatches hsuited hbetween
    · intro name hname
      rw [List.mem_append, not_or] at hname
      exact hextends.names name hname.left
    · intro name hne hmem
      apply List.mem_append_right
      rw [mem_unhide, List.mem_singleton]
      exact ⟨hmem, hne⟩
    · rfl
    · have hsame : parts.middle.progress = Script.progress p.builder.progress body := hprogress
      have hmade : p.builder.progress.Within p.builder.locals.length := hmatches.made
      have hwithin := Script.within_progress body hmade hroom
      rw [← hsame] at hwithin
      exact hwithin

/-- The body of a loop that has been checked is accepted, and then the step of its counter is. -/
theorem Enters.exists_between (h : r.Enters p q parts width e inner ended)
    (hsuited : parts.Suited r.demand p.builder) :
    exists between,
      (parts.pass.prune r.demand).check r.env
          (inner.require (inner.typeOf (r.counting p parts width).header.test == .i8)) =
        .ok between ∧
      (Instruction.compute parts.middle.types.length
        (.addImmediate (p.builder.types.length + 1) 1)).check r.env between = .ok ended := by
  have hturn := h.checks.body
  rw [prune_turn hsuited] at hturn
  rcases Region.check_append_eq_ok hturn with ⟨between, hpass, hstep⟩
  rcases Region.check_prepend_eq_ok hstep with ⟨_, hsteps, hdone⟩
  cases hdone
  rcases Instruction.checkAll_cons_eq_ok hsteps with ⟨_, hnext, hnil⟩
  cases hnil
  exact ⟨between, hpass, hnext⟩

/-- The body of a loop has its place behind the header. -/
theorem Enters.places_pass (h : r.Enters p q parts width e inner ended)
    (hparts : parts.Emitted r.site head body rest p.builder after)
    (hsuited : parts.Suited r.demand p.builder)
    (hroom : (Script.progress p.builder.progress body).localNames.length ≤ p.builder.locals.length)
    (hscope : body.isScoped r.site.signatureOf? (hidden.filter fun name => name != head.counter) =
      true)
    (hpass : (parts.pass.prune r.demand).check r.env
      (inner.require (inner.typeOf (r.counting p parts width).header.test == .i8)) = .ok between)
    (hnext : (Instruction.compute parts.middle.types.length
      (.addImmediate (p.builder.types.length + 1) 1)).check r.env between = .ok ended)
    (frame : Frame) :
    r.Places (unhide [head.counter] hidden) body (r.inward head p parts width inner frame).builder
      (r.inward head p parts width inner frame).scope parts.pass parts.middle between where
  emit := hparts.pass
  pending := rfl
  room := by
    have hlocals : (head.enter parts.bound parts.types p.builder).locals.length =
        p.builder.locals.length := List.length_range'
    rw [inward, hlocals]
    exact hroom
  suits := hsuited.pass
  check := hpass
  fits := (Instruction.fits_of_check hnext h.fits.body).left
  inScope := by
    rw [unhide_singleton]
    exact hscope

/-- What comes after a loop has its place behind it. -/
theorem places_tail {names : List String}
    (hparts : parts.Emitted r.site head body rest p.builder after)
    (hsuited : parts.Suited r.demand p.builder)
    (hroom : (Script.progress (Script.progress p.builder.progress body) rest).localNames.length ≤
      p.builder.locals.length)
    (hscope : rest.isScoped r.site.signatureOf? names = true) {outer : Scope}
    (hcheck : (parts.tail.prune r.demand).check r.env outer = .ok last)
    (hfits : last.fits = true) :
    r.Places names rest (CountedLoop.leave parts.bound p.builder parts.middle) outer parts.tail
      after last where
  emit := hparts.tail
  pending := rfl
  room := by
    rcases Region.grows_emit r.site body hparts.pass rfl with ⟨_, _, hprogress⟩
    have hleft : (CountedLoop.leave parts.bound p.builder parts.middle).progress =
        Script.progress p.builder.progress body := hprogress
    have hlocals : (CountedLoop.leave parts.bound p.builder parts.middle).locals.length =
        p.builder.locals.length := List.length_range'
    rw [hleft, hlocals]
    exact hroom
  suits := hsuited.tail
  check := hcheck
  fits := hfits
  inScope := hscope

/-- The code of a loop sets the counter to zero and then runs the loop that is left. -/
theorem Enters.run_code (h : r.Enters p q parts width e inner ended)
    (hsuited : parts.Suited r.demand p.builder) {world : World σ}
    (horigin : Instruction.runAll r.invoke (r.prune [.compute p.builder.types.length
      (.constInt (p.builder.typeOf parts.bound) 0)]) (p.frame, world) = some (q.frame, world)) :
    ((parts.code p.builder).prune r.demand).run r.invoke (p.frame, world) =
      Region.run r.invoke (.loop (r.counting p parts width).header
        ((parts.turn p.builder).prune r.demand) (parts.tail.prune r.demand)) (q.frame, world) := by
  rw [prune] at horigin
  rw [← prune_header hsuited h.index h.type, LoopParts.code, Region.prune_prepend,
    Region.run_prepend, horigin]
  rfl

theorem Places.shows_loop
    (hbody : forall hidden p scene code after last,
      r.Places hidden body p.builder p.scope code after last -> r.Matches hidden p scene ->
        r.ShowsAll hidden p code body after last scene)
    (hrest : forall hidden p scene code after last,
      r.Places hidden rest p.builder p.scope code after last -> r.Matches hidden p scene ->
        r.ShowsAll hidden p code rest after last scene)
    (h : r.Places hidden (.loop head body rest) p.builder p.scope code after last)
    (hmatches : r.Matches hidden p scene) :
    r.ShowsAll hidden p code (.loop head body rest) after last scene := by
  rcases h with ⟨hemit, hpending, hroom, hsuits, hcheck, hfits, hscope⟩
  have hgrows : forall start pass middle, Region.emit r.site body start = .ok pass middle ->
      start.pending = [] -> middle.pending = [] ∧
        exists names values, start.Extends names values middle := by
    intro start pass middle hemit hstart
    rcases Region.grows_emit r.site body hemit hstart with ⟨hdone, hextends, _⟩
    exact ⟨hdone, _, _, hextends⟩
  rcases Region.emit_loop_eq_ok hemit hpending hgrows with ⟨parts, hparts, rfl⟩
  rcases Region.grows_emit r.site body hparts.pass rfl with ⟨_, hextends, hprogress⟩
  have hlonger : p.builder.types.length < parts.middle.types.length := by
    have hle := hextends.length_le
    rw [CountedLoop.length_enter] at hle
    omega
  have hsuited := LoopParts.suited_of_suits hsuits hlonger
  simp only [Script.isScoped, Bool.and_eq_true, Bool.not_eq_true', List.contains_eq_mem,
    decide_eq_false_iff_not] at hscope
  rcases hscope with ⟨⟨hbound, hscopeBody⟩, hscopeRest⟩
  rcases hmatches.enters hparts hsuited hbound hcheck hfits with
    ⟨width, e, q, inner, ended, hvalue, henters, horigin, htail⟩
  rcases henters.exists_between hsuited with ⟨between, hpass, hnext⟩
  have hbodyRoom : (Script.progress p.builder.progress body).localNames.length ≤
      p.builder.locals.length := Nat.le_trans (Script.length_le_progress rest _) hroom
  have hloop := henters.iterates hparts hmatches hsuited hnext fun frame start hstart =>
    hbody _ _ start _ _ _
      (henters.places_pass hparts hsuited hbodyRoom hscopeBody hpass hnext frame) hstart
  have hmeaning : Script.run r.setting p.builder.progress (.loop head body rest) scene =
      (Script.passes (body.run r.setting p.builder.progress) head.counter width e.toInt.toNat
        scene).bind fun final => rest.run r.setting (Script.progress p.builder.progress body)
          (final.bind head.counter (.int width (.ofNat _ e.toInt.toNat))) := by
    simp only [Script.run, hvalue, Option.bind_eq_bind, Option.bind_some]
  rw [ShowsAll, hmeaning, henters.run_code hsuited horigin, Region.run_loop]
  cases hpasses : Script.passes (body.run r.setting p.builder.progress) head.counter width
      e.toInt.toNat scene with
  | none =>
      rw [hpasses] at hloop
      rw [hloop]
      rfl
  | some final =>
      rw [hpasses] at hloop
      rcases hloop with ⟨_, hiterates, rfl, hbetween⟩
      rcases henters.matches_after hparts hmatches hsuited hbodyRoom hbetween
        (.ofNat _ e.toInt.toNat) with ⟨hlater, hafter⟩
      rw [← unhide_singleton] at hscopeRest
      have hplaces := places_tail hparts hsuited hroom hscopeRest htail hfits
      have hshows := hrest _ _ _ _ _ _ hplaces hafter
      have hleft : (CountedLoop.leave parts.bound p.builder parts.middle).progress =
          Script.progress p.builder.progress body := hprogress
      rw [ShowsAll, hleft] at hshows
      simp only [hiterates, Option.bind_some]
      apply hshows.mono
      rintro last state ⟨hworld, hnext, hlast⟩
      rw [unhide_singleton] at hlast
      exact ⟨hworld, hlater.trans hnext, hlast⟩

end Loops

/-! ## Whole scripts -/

/-- Code that a script is emitted to does what the script says. -/
theorem Places.shows {script : Script} {code : Code} {after : Builder} {last : Scope}
    (h : r.Places hidden script p.builder p.scope code after last)
    (hmatches : r.Matches hidden p scene) : r.ShowsAll hidden p code script after last scene := by
  induction script generalizing hidden p scene code after last with
  | done =>
      rcases h with ⟨⟨⟩, _, _, _, ⟨⟩, _, _⟩
      exact ⟨_, rfl, rfl, .refl p, hmatches⟩
  | step first rest ih =>
      exact h.shows_step (fun _ _ _ _ _ _ hplaces hnext => ih hplaces hnext) hmatches
  | loop head body rest ihBody ihRest =>
      exact h.shows_loop (fun _ _ _ _ _ _ hplaces hinside => ihBody hplaces hinside)
        (fun _ _ _ _ _ _ hplaces hnext => ihRest hplaces hnext) hmatches

end Rendition
end Provision
