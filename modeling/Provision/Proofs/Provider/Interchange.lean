import Provision.Proofs.Provider.Matching
import Provision.Proofs.Provider.Serving

/-!
# Interchange of providers

It does not matter how many providers of one configuration do the errands of a client in turn.
What one provider remembers, another one finds in the module.
-/

namespace Provision

/-! ## Matching runs -/

namespace Provider

theorem respects_onUnit {action : Action CompilationUnit FuncId}
    (halike : Action.Respects CompilationUnit.Alike action action)
    (hgrows : Action.Always CompilationUnit.Grows action) :
    Action.Respects Matches (onUnit action) (onUnit action) := by
  intro p q h
  rcases halike p.unit q.unit h.unit with ⟨hanswer, hleaves⟩
  rw [onUnit, Action.answer_onPart, Action.answer_onPart, Action.leaves_onPart,
    Action.leaves_onPart]
  exact ⟨hanswer, hleaves, h.config, h.clock, h.first.onUnit (hgrows p.unit),
    h.second.onUnit (hgrows q.unit)⟩

theorem respects_perform (errand : Errand) :
    Action.Respects Matches errand.perform errand.perform := by
  cases errand with
  | request wanted => exact respects_request wanted
  | declare name sig =>
      exact respects_onUnit (CompilationUnit.respects_declareImport name sig)
        (CompilationUnit.always_declareImport name sig)
  | define name sig linkage body =>
      exact respects_onUnit (CompilationUnit.respects_define name sig linkage body)
        (CompilationUnit.always_define name sig linkage body)

variable {p q : Provider}

/-- Providers that match answer a whole run of errands alike and match in the end. -/
theorem serve_matches (errands : List Errand) (h : Matches p q) :
    (serve errands p).1 = (serve errands q).1 ∧
      Matches (serve errands p).2 (serve errands q).2 := by
  induction errands generalizing p q with
  | nil => exact ⟨rfl, h⟩
  | cons errand rest ih =>
      rcases respects_perform errand p q h with ⟨hanswer, hleaves⟩
      simp only [serve, hanswer]
      cases goesOn (errand.perform.answer q) with
      | false => exact ⟨rfl, hleaves⟩
      | true =>
          rcases ih hleaves with ⟨hanswers, hlast⟩
          exact ⟨congrArg (List.cons _) hanswers, hlast⟩

theorem serve_append (xs ys : List Errand) (provider : Provider) :
    serve (xs ++ ys) provider =
      if (serve xs provider).1.all goesOn then
        ((serve xs provider).1 ++ (serve ys (serve xs provider).2).1,
          (serve ys (serve xs provider).2).2)
      else serve xs provider := by
  induction xs generalizing provider with
  | nil => rfl
  | cons errand rest ih =>
      simp only [List.cons_append, serve]
      cases hgoesOn : goesOn (errand.perform.answer provider) with
      | false => simp [hgoesOn]
      | true =>
          simp only [if_true, ih, List.all_cons, hgoesOn, Bool.true_and]
          split
          · rfl
          · rfl

/-- A new provider over the same module matches one that has been at work. -/
theorem Matches.renew (h : Matches p q) : Matches (start p.unit q.config) q where
  unit := (CompilationUnit.Alike.symm ⟨_, rfl⟩).trans h.unit
  config := rfl
  clock := by
    rw [h.second.origin, h.unit.appends.target]
    rfl
  first := coherent_start p.unit q.config
  second := h.second

theorem config_perform (errand : Errand) (h : Coherent p) :
    (errand.perform.leaves p).config = p.config := by
  cases errand with
  | request wanted => exact (always_request wanted p h).left.config
  | declare name sig =>
      rw [Errand.perform, onUnit, Action.leaves_onPart]
  | define name sig linkage body =>
      rw [Errand.perform, onUnit, Action.leaves_onPart]

theorem config_serve (errands : List Errand) (h : Coherent p) :
    (serve errands p).2.config = p.config := by
  induction errands generalizing p with
  | nil => rfl
  | cons errand rest ih =>
      have hcoherent := (respects_perform errand p p h.matches_self).right.first
      have hconfig := config_perform errand h
      simp only [serve]
      split
      · exact (ih hcoherent).trans hconfig
      · exact hconfig

/-- Segments that are served by new providers are answered as if one provider, over the same module,
did them all. -/
theorem serveShifts_matches (segments : List (List Errand)) {unit : CompilationUnit}
    {config : Config} (h : Matches (start unit config) q) :
    (unit.serveShifts (segments.map (Shift.mk config))).1 = (serve segments.flatten q).1 ∧
      (unit.serveShifts (segments.map (Shift.mk config))).2.Alike
        (serve segments.flatten q).2.unit := by
  induction segments generalizing unit q with
  | nil => exact ⟨rfl, (CompilationUnit.Alike.symm ⟨_, rfl⟩).trans h.unit⟩
  | cons errands rest ih =>
      rcases serve_matches errands h with ⟨hanswers, hlast⟩
      rw [List.flatten_cons, List.map_cons, serve_append]
      simp only [CompilationUnit.serveShifts, hanswers]
      split
      · rename_i hall
        have hconfig := config_serve errands h.second
        rw [← h.config] at hconfig
        have hmore := ih (hconfig ▸ hlast.renew)
        rcases hmore with ⟨hmoreAnswers, hmoreLast⟩
        exact ⟨congrArg _ hmoreAnswers, hmoreLast⟩
      · exact ⟨rfl, hlast.unit⟩

end Provider

/-! ## Interchange -/

/-- However the errands of a client are cut into segments, each served by a provider of its own: the
answers and the module are as if one provider did them all. -/
theorem CompilationUnit.serveShifts_eq (unit : CompilationUnit) (config : Config)
    (segments : List (List Errand)) :
    (unit.serveShifts (segments.map (Shift.mk config))).1 =
        (Provider.serve segments.flatten (.start unit config)).1 ∧
      (unit.serveShifts (segments.map (Shift.mk config))).2.module =
        (Provider.serve segments.flatten (.start unit config)).2.unit.module := by
  have hmatches := (Provider.coherent_start unit config).matches_self
  rcases Provider.serveShifts_matches segments hmatches with ⟨hanswers, hlast⟩
  exact ⟨hanswers, hlast.module.symm⟩

end Provision
