import Provision.Proofs.Module.Data
import Provision.Proofs.Provider.Authoring

/-!
# Modules that suit plans

A module may hold functions under the names of plans before a provider is asked.  As long as these
have the signatures of the plans, a plan is refused for one reason only: its name is that of a data
object.
-/

namespace Provision

/-- Functions that go by the names of plans have the signatures of the plans. -/
def CompilationUnit.Suits (unit : CompilationUnit) (plans : List Plan) : Prop :=
  forall plan, plan ∈ plans -> forall id, unit.lookup? plan.symbol.name = some id ->
    unit.module.signature? id = some (unit.signature plan.sig)

/-- A module that suits the plans of a primitive has the callees of each of them as it calls
them. -/
theorem CompilationUnit.Suits.calls {unit other : CompilationUnit} {primitive : Primitive}
    (h : other.Suits (unit.plansOf primitive)) {plan : Plan}
    (hplan : plan ∈ unit.plansOf primitive) {body : Body} (hbody : plan.body = some body) :
    other.module.Calls plan := by
  intro outline houtline id hlookup
  have haccepted : plan.IsAccepted := Plan.Regular.isAccepted ⟨primitive, hplan⟩
  have hportable := (haccepted.called_eq hbody houtline).right
  rcases Plan.exists_callee hplan houtline with ⟨callee, hcallee, rfl⟩
  rw [h callee hcallee id hlookup]
  exact congrArg some (other.signature_of_reference none hportable)

/-! ## Plans that are refused -/

namespace Plan

variable {plan : Plan} {unit : CompilationUnit} {number : FuncId -> FuncId}

/-- A body that is accepted gets its procedure in every unit in which the callees have the
signatures that they are planned with. -/
theorem IsAccepted.exists_procedure (h : plan.IsAccepted) {body : Body}
    (hbody : plan.body = some body)
    (hsignatures : forall place outline, plan.callees[place.index]? = some outline ->
      unit.module.signature? (number place) = some (unit.signature outline.sig)) :
    exists procedure,
      unit.procedure plan.symbol.name plan.sig (body.renumber number) = .ok procedure ∧
        StackSlot.fitFrame procedure.slots = true := by
  rcases h.spec hbody with ⟨_, compiled, hcompiled, hfits, hcallable, hplaces⟩
  have hcalls : forall place, place ∈ body.script.callees ->
      unit.module.signature? (number place) = Outline.called plan.callees :=
    fun place hplace =>
      Outline.called_of_signatures hcallable hsignatures (hplaces place (by simp [hplace]))
  exact ⟨_, unit.procedure_of_compiled plan.symbol.name number hcompiled hcalls, hfits⟩

/-- Under a free name, the function of a plan can be made unless the name is that of a data
object. -/
theorem IsAccepted.make_error (h : plan.IsAccepted)
    (hsignatures : forall place outline, plan.callees[place.index]? = some outline ->
      unit.module.signature? (number place) = some (unit.signature outline.sig))
    (hfree : unit.lookup? plan.symbol.name = none) {stop : Stop}
    (hstop : (plan.make number).answer unit = .error stop) :
    unit.module.isData plan.symbol.name = true ∧
      stop = .fault (.declaration plan.symbol.name .incompatibleDeclaration) := by
  unfold make at hstop
  cases hbody : plan.body with
  | none =>
      by_cases hdata : plan.symbol.name ∈ unit.module.data
      · simp only [hbody, Action.answer,
          CompilationUnit.declareImport_of_data hfree hdata] at hstop
        cases hstop
        exact ⟨Module.isData_iff.mpr ⟨hfree, hdata⟩, rfl⟩
      · simp only [hbody, Action.answer,
          CompilationUnit.declareImport_of_free hfree hdata] at hstop
        cases hstop
  | some body =>
      rcases h.exists_procedure hbody hsignatures with ⟨procedure, hprocedure, hfits⟩
      have hlinkage := (h.spec hbody).left
      by_cases hdata : plan.symbol.name ∈ unit.module.data
      · simp only [hbody, Action.answer,
          CompilationUnit.define_of_data hprocedure hfree hdata] at hstop
        cases hstop
        exact ⟨Module.isData_iff.mpr ⟨hfree, hdata⟩, rfl⟩
      · simp only [hbody, Action.answer,
          CompilationUnit.define_of_free hprocedure hfree hdata hlinkage hfits] at hstop
        cases hstop

end Plan

namespace Provider

variable {before after : Provider} {plan : Plan} {plans done : List Plan}

/-! ## Plans that are carried out -/

theorem Gets.suits {id : FuncId} (h : Gets plan id before after)
    (hsuits : before.unit.Suits plans) (hregular : before.unit.Regards plan)
    (hplans : forall other, other ∈ plans -> before.unit.Regards other) :
    after.unit.Suits plans := by
  cases h with
  | known _ _ hunit =>
      rcases hunit with ⟨log, hunit⟩
      rw [hunit]
      exact hsuits
  | made _ hfree declaration log hyields _ hunit =>
      rw [hunit]
      intro other hother found hfound
      change (before.unit.module.push declaration).lookup? other.symbol.name = some found at hfound
      show (before.unit.module.push declaration).signature? found =
        some (before.unit.signature other.sig)
      by_cases hsame : plan.symbol = other.symbol
      · -- The function is new, and made by the very plan whose name it goes by.
        have heq : plan = other := hregular.eq_of_symbol (hplans other hother) hsame
        subst heq
        have hname : before.unit.module.lookup? declaration.name = none := by
          rw [hyields.name]
          exact hfree
        rw [← hyields.name, Module.lookup?_push_self declaration hname] at hfound
        cases hfound
        rw [Module.signature?, Module.declaration?_push_self, Option.map_some, hyields.signature]
      · have hne : declaration.name ≠ other.symbol.name := by
          rw [hyields.name]
          exact fun hname => hsame (congrArg Symbol.mk hname)
        rw [Module.lookup?_push_of_ne hne] at hfound
        rw [Module.signature?,
          Module.declaration?_push_of_lt _ _ (Module.index_lt_of_lookup? hfound)]
        exact hsuits other hother found hfound

namespace Obtains

theorem suits (h : Obtains before done after) (hsuits : before.unit.Suits plans)
    (hdone : forall plan, plan ∈ done -> before.unit.Regards plan)
    (hplans : forall plan, plan ∈ plans -> before.unit.Regards plan) : after.unit.Suits plans := by
  induction h with
  | nil log => exact hsuits
  | @snoc first middle after h plan id hgets log ih =>
      have hmiddle := ih fun other hother => hdone other (List.mem_append_left _ hother)
      have happends := h.appends.unit
      have hplan := hdone plan (List.mem_append_right _ (List.mem_singleton_self plan))
      exact hgets.suits hmiddle (CompilationUnit.regards_of_appends happends hplan)
        fun other hother => CompilationUnit.regards_of_appends happends (hplans other hother)

theorem lookup? (h : Obtains before done after) (hcoherent : Coherent before)
    (hplan : plan ∈ done) : exists id, after.unit.lookup? plan.symbol.name = some id := by
  rcases h.registered hcoherent plan hplan with ⟨id, hid⟩
  exact ⟨id, (h.coherent hcoherent).registered _ _ hid⟩

/-- Carrying out plans declares no data objects. -/
theorem data_eq (h : Obtains before done after) :
    after.unit.module.data = before.unit.module.data := by
  induction h with
  | nil log => rfl
  | @snoc first middle after h plan id hgets log ih =>
      have hdata : after.unit.module.data = middle.unit.module.data := by
        cases hgets with
        | known _ _ hunit => rw [hunit.module]
        | made _ _ _ _ _ _ hunit =>
            rw [hunit]
            rfl
      exact hdata.trans ih

/-- A name that stands for a data object in the end did so from the start. -/
theorem isData_before (h : Obtains before done after) {name : String}
    (hdata : after.unit.module.isData name = true) : before.unit.module.isData name = true := by
  rw [Module.isData_iff, h.data_eq] at hdata
  refine Module.isData_iff.mpr ⟨?_, hdata.right⟩
  cases hlookup : before.unit.module.lookup? name with
  | none => rfl
  | some id =>
      have hstill := h.appends.unit.grows.module.lookup? hlookup
      rw [hdata.left] at hstill
      cases hstill

/-- Carrying out plans whose functions are all registered changes nothing but what is told. -/
theorem keeps_of_registered (h : Obtains before done after) (hcoherent : Coherent before)
    (hregistered : forall plan, plan ∈ done ->
      exists id, before.registry.find? plan.symbol = some id) :
    before.unit.Alike after.unit ∧
      forall symbol, after.registry.find? symbol = before.registry.find? symbol := by
  induction h with
  | nil log => exact ⟨⟨log, rfl⟩, fun _ => rfl⟩
  | @snoc first middle after h plan id hgets log ih =>
      rcases ih fun other hother => hregistered other (List.mem_append_left _ hother) with
        ⟨halike, hfind⟩
      rcases hregistered plan (List.mem_append_right _ (List.mem_singleton_self plan)) with
        ⟨found, hfound⟩
      have hlookup := (h.coherent hcoherent).registered plan.symbol found (hfind _ ▸ hfound)
      have hstill := hgets.find?_of_find? (h.coherent hcoherent) (hfind plan.symbol ▸ hfound)
      constructor
      · cases hgets with
        | known _ _ hunit => exact (halike.trans hunit).trans ⟨log, rfl⟩
        | made _ hfree _ _ _ _ _ =>
            rw [hlookup] at hfree
            cases hfree
      · intro symbol
        by_cases hsame : symbol = plan.symbol
        · rw [hsame, hfound]
          exact hstill
        · exact (hgets.registers.others symbol hsame).trans (hfind symbol)

end Obtains

/-- A module that suits plans still does after any request. -/
theorem Serves.suits {wanted : Request} {answer : Except Stop FuncId}
    (h : Serves before wanted answer after) (hsuits : before.unit.Suits plans)
    (hplans : forall plan, plan ∈ plans -> before.unit.Regards plan) : after.unit.Suits plans := by
  rcases h.exists_obtains with ⟨done, middle, hdone, hobtains, hunit⟩
  rw [hunit]
  exact hobtains.suits hsuits (fun plan hplan => ⟨_, hdone.subset hplan⟩) hplans

/-- In a module that suits a primitive, a function that is new after a request and goes by the
symbol of the primitive was made by its plan, and calls functions with the signatures they have. -/
theorem Serves.plan_authors {wanted : Request} {answer : Except Stop FuncId}
    (h : Serves before wanted answer after) (hcoherent : Coherent before) {primitive : Primitive}
    {symbol : Symbol} (hsymbol : primitive.symbol = .ok symbol)
    (hsuits : before.unit.Suits (before.unit.plansOf primitive)) {id : FuncId}
    (hlookup : after.unit.lookup? symbol.name = some id)
    (hbefore : before.unit.module.declaration? id = none) :
    exists plan unit declaration,
      primitive.plan? before.clock before.unit.timeLayout = some plan ∧
        after.unit.module.declaration? id = some declaration ∧
          plan.Authors unit after.unit.module declaration ∧
            forall body, plan.body = some body -> after.unit.module.Calls plan := by
  rcases Module.name_of_lookup? hlookup with ⟨declaration, hdeclaration, _⟩
  rcases h.authors hcoherent hbefore hdeclaration with ⟨plan, unit, hauthors, hunit⟩
  have hplan := hauthors.plan_of_lookup hdeclaration hsymbol hlookup
  rw [hunit.target, hunit.timeLayout] at hplan
  have hafter := h.suits hsuits fun other hother => ⟨primitive, hother⟩
  refine ⟨plan, unit, declaration, ?_, hdeclaration, hauthors, ?_⟩
  · rw [hcoherent.origin]
    exact hplan
  · exact fun body hbody => hafter.calls (Primitive.mem_plans_of_plan hplan) hbody

/-- A plan of a module that suits it is refused only over a data object. -/
theorem Refuses.isData {stop : Stop} (h : Refuses plan stop before after)
    (haccepted : plan.IsAccepted) (hsuits : before.unit.Suits plans)
    (hcallees : forall outline, outline ∈ plan.callees ->
      exists callee, callee ∈ plans ∧ callee.toOutline = outline) :
    before.unit.module.isData plan.symbol.name = true ∧
      stop = .fault (.declaration plan.symbol.name .incompatibleDeclaration) := by
  rcases h.cause with ⟨number, log, hresolves, hstop⟩
  have hsignatures : forall place outline, plan.callees[place.index]? = some outline ->
      before.unit.module.signature? (number place) =
        some (before.unit.signature outline.sig) := by
    intro place outline hplace
    rcases hcallees outline (List.mem_of_getElem? hplace) with ⟨callee, hcallee, rfl⟩
    exact hsuits callee hcallee _ (hresolves place _ hplace)
  let told : CompilationUnit := { before.unit with log := log }
  have hfree : told.lookup? plan.symbol.name = none := h.free
  refine haccepted.make_error ?_ hfree hstop
  exact hsignatures

/-- Carrying out plans ends well, or it stops at one whose name is that of a data object. -/
theorem Outcome.cases {answer : Except Stop FuncId} (h : Outcome plans before answer after)
    {primitive : Primitive} (hplans : plans = before.unit.plansOf primitive)
    (hsuits : before.unit.Suits plans) :
    (exists id, answer = .ok id ∧ Obtains before plans after) ∨
      exists done failed rest stop, answer = .error stop ∧ plans = done ++ failed :: rest ∧
        Obtains before done after ∧ after.unit.module.isData failed.symbol.name = true ∧
          stop.root = .fault (.declaration failed.symbol.name .incompatibleDeclaration) := by
  have hregular : forall plan, plan ∈ plans -> before.unit.Regards plan := by
    rw [hplans]
    exact fun plan hplan => ⟨primitive, hplan⟩
  cases h with
  | carried _ hobtains _ => exact .inl ⟨_, rfl, hobtains⟩
  | @refused done rest failed stop cause middle after hsplit hobtains hrefuses hroot =>
      rcases hrefuses.after with ⟨log, rfl⟩
      have hdone : done ⊆ plans := by
        rw [hsplit]
        exact List.subset_append_left _ _
      have hfailed : failed ∈ plans := by
        simp [hsplit]
      have hmiddle := hobtains.suits hsuits (fun plan hplan => hregular plan (hdone hplan)) hregular
      have hcallees : forall outline, outline ∈ failed.callees ->
          exists callee, callee ∈ plans ∧ callee.toOutline = outline := by
        rw [hplans] at hfailed ⊢
        exact fun outline houtline => Plan.exists_callee hfailed houtline
      rcases hrefuses.isData (hregular failed hfailed).isAccepted hmiddle hcallees with
        ⟨hdata, rfl⟩
      exact .inr ⟨done, failed, rest, stop, rfl, hsplit, hobtains.logging log, hdata, hroot⟩

end Provider
end Provision
