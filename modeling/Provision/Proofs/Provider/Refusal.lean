import Provision.Proofs.Provider.Fulfilment
import Provision.Proofs.Provider.Stopping
import Provision.Proofs.Provider.Suiting
import Provision.Proofs.Session.Definitions

/-!
# When requests fail

A request fails if it is for a type that is not supported, or if one of the functions that it takes
cannot be made as its name is that of a data object.  Nothing else can go wrong in a module that
suits the request, and asking once more changes nothing.
-/

namespace Provision

/-! ## Reasons to refuse a request -/

/-- The fault of a request for elements of a type other than the two floating-point types. -/
def Request.unsupported? : Request -> Option Fault
  | .elementary function type =>
      if type = .float32 ∨ type = .float64 then none
      else some (.unsupported function.name type)
  | .kernel wanted element _ =>
      if element = .float32 ∨ element = .float64 then none
      else some (.unsupported wanted.name element)
  | _ => none

theorem Request.fault?_primitive (wanted : Request) (config : Config) (module : String) :
    (wanted.primitive config module).fault? = wanted.unsupported? := by
  cases wanted with
  | elementary function type => cases type <;> rfl
  | kernel wanted element binding => cases element <;> rfl
  | _ => rfl

namespace Provider

/-- Every function that goes by a name that a request takes has the signature that the provider
expects there. -/
def Suits (provider : Provider) (wanted : Request) : Prop :=
  provider.unit.Suits (provider.unit.plansOf (provider.primitiveOf wanted))

/-- The first of the symbols of a request that is the name of a data object. -/
def taken? (provider : Provider) (wanted : Request) : Option Symbol :=
  (provider.symbolsOf wanted).find? fun symbol => provider.unit.module.isData symbol.name

/-- What is said of a symbol that is the name of a data object.  To the time, the clock is what
could not be resolved. -/
def blame (provider : Provider) (wanted : Request) (symbol : Symbol) : Fault :=
  if wanted = .currentTime ∧ symbol ∈ provider.clock.symbols then
    .unresolved Symbol.clock.name (.declaration symbol.name .incompatibleDeclaration)
  else .declaration symbol.name .incompatibleDeclaration

/-- The fault that a request fails with, if it fails. -/
def refusal? (provider : Provider) (wanted : Request) : Option Fault :=
  wanted.unsupported?.or ((provider.taken? wanted).map (provider.blame wanted))

/-- A provider has told something, and is otherwise what it was. -/
structure Alike (before after : Provider) : Prop where
  unit : before.unit.Alike after.unit
  config : after.config = before.config
  clock : after.clock = before.clock
  currentTime : after.currentTime = before.currentTime
  registry : forall symbol, after.registry.find? symbol = before.registry.find? symbol

theorem Alike.refl (provider : Provider) : Alike provider provider :=
  ⟨.refl provider.unit, rfl, rfl, rfl, fun _ => rfl⟩

variable {before after provider : Provider} {wanted : Request} {answer : Except Stop FuncId}

/-! ## Requests that stop -/

/-- A request has stopped at a plan whose name is that of a data object, after others have been
carried out. -/
structure StopsAt (before : Provider) (wanted : Request) (done : List Plan) (failed : Plan)
    (stop : Stop) (after : Provider) : Prop where
  plans : exists rest,
    before.unit.plansOf (before.primitiveOf wanted) = done ++ failed :: rest
  obtains : Obtains before done after
  others : forall plan, plan ∈ done -> before.unit.module.isData plan.symbol.name = false
  isData : before.unit.module.isData failed.symbol.name = true
  root : stop.root = .fault (.declaration failed.symbol.name .incompatibleDeclaration)

theorem remembering_error (wanted : Request) (stop : Stop) (provider : Provider) :
    remembering wanted (.error stop) provider = provider := by
  cases wanted
  all_goals rfl

/-- A request for a type that is supported is answered, and then none of its symbols was the name of
a data object, or it stops at the first one that is. -/
theorem Serves.cases (h : Serves before wanted answer after) (hcoherent : Coherent before)
    (hsupported : wanted.unsupported? = none) (hsuits : before.Suits wanted)
    (hkeeps : before.unit.KeepsData after.unit) :
    (exists id, answer = .ok id ∧
      forall plan, plan ∈ before.unit.plansOf (before.primitiveOf wanted) ->
        before.unit.module.isData plan.symbol.name = false) ∨
      exists done failed stop, answer = .error stop ∧
        before.StopsAt wanted done failed stop after := by
  cases h with
  | unsupported hfault =>
      rw [Request.fault?_primitive, hsupported] at hfault
      cases hfault
  | remembered hwanted hmemo =>
      refine .inl ⟨_, rfl, ?_⟩
      intro plan hplan
      rw [hwanted] at hplan
      rcases known_of_remembered hcoherent hmemo hplan with ⟨id, hid⟩
      exact hkeeps.isData_of_known hid
  | @performed answer middle _ houtcome =>
      rw [(unit_remembering wanted answer middle).left] at hkeeps
      rcases houtcome.cases rfl hsuits with
        ⟨id, rfl, hobtains⟩ | ⟨done, failed, rest, stop, rfl, hsplit, hobtains, hdata, hroot⟩
      · refine .inl ⟨id, rfl, ?_⟩
        intro plan hplan
        rcases hobtains.lookup? hcoherent hplan with ⟨found, hfound⟩
        exact hkeeps.isData_of_known hfound
      · rw [remembering_error]
        refine .inr ⟨done, failed, stop, rfl, ⟨rest, hsplit⟩, hobtains, ?_,
          hobtains.isData_before hdata, hroot⟩
        intro plan hplan
        rcases hobtains.lookup? hcoherent hplan with ⟨found, hfound⟩
        exact hkeeps.isData_of_known hfound

/-! ## What a request stops at -/

theorem Coherent.taken?_eq (h : Coherent provider) (wanted : Request) :
    provider.taken? wanted =
      ((provider.unit.plansOf (provider.primitiveOf wanted)).find? fun plan =>
        provider.unit.module.isData plan.symbol.name).map fun plan => plan.symbol := by
  rw [taken?, ← h.symbolsOf_eq wanted, List.find?_map]
  rfl

theorem Coherent.taken?_eq_none (h : Coherent provider)
    (hnone : forall plan, plan ∈ provider.unit.plansOf (provider.primitiveOf wanted) ->
      provider.unit.module.isData plan.symbol.name = false) :
    provider.taken? wanted = none := by
  rw [h.taken?_eq, Option.map_eq_none_iff, List.find?_eq_none]
  intro plan hplan
  simp [hnone plan hplan]

namespace StopsAt

variable {done : List Plan} {failed : Plan} {stop : Stop}

theorem taken? (h : before.StopsAt wanted done failed stop after) (hcoherent : Coherent before) :
    before.taken? wanted = some failed.symbol := by
  rcases h.plans with ⟨rest, hplans⟩
  have hdone : done.find? (fun plan => before.unit.module.isData plan.symbol.name) = none := by
    rw [List.find?_eq_none]
    intro plan hplan
    simp [h.others plan hplan]
  have hfailed : (failed :: rest).find? (fun plan =>
      before.unit.module.isData plan.symbol.name) = some failed := List.find?_cons_of_pos h.isData
  rw [hcoherent.taken?_eq, hplans, List.find?_append, hdone, Option.none_or, hfailed,
    Option.map_some]

/-- What has been carried out are the plans up to the first name of a data object. -/
theorem done_eq (h : before.StopsAt wanted done failed stop after) :
    done = (before.unit.plansOf (before.primitiveOf wanted)).takeWhile fun plan =>
      !before.unit.module.isData plan.symbol.name := by
  rcases h.plans with ⟨rest, hplans⟩
  have hdone : forall plan, plan ∈ done ->
      (!before.unit.module.isData plan.symbol.name) = true := by
    intro plan hplan
    simp [h.others plan hplan]
  rw [hplans, List.takeWhile_append_of_pos hdone, List.takeWhile_cons_of_neg (by simp [h.isData]),
    List.append_nil]

end StopsAt

theorem Coherent.request_cases (h : Coherent provider) (hsupported : wanted.unsupported? = none)
    (hsuits : provider.Suits wanted) :
    (exists id, (request wanted).answer provider = .ok id ∧ provider.taken? wanted = none) ∨
      exists done failed stop, (request wanted).answer provider = .error stop ∧
        provider.StopsAt wanted done failed stop ((request wanted).leaves provider) := by
  have hkeeps : provider.unit.KeepsData ((request wanted).leaves provider).unit :=
    CompilationUnit.Passes.keepsData (passes_request wanted provider)
  rcases (h.request_serves wanted).cases h hsupported hsuits hkeeps with ⟨id, hid, hnone⟩ | hstops
  · exact .inl ⟨id, hid, h.taken?_eq_none hnone⟩
  · exact .inr hstops

/-! ## What is said of it -/

/-- The time takes what a clock takes and then one function more. -/
theorem taken?_currentTime (provider : Provider) :
    provider.taken? .currentTime =
      (provider.taken? .clock).or
        ([Symbol.currentTime provider.unit.name].find? fun symbol =>
          provider.unit.module.isData symbol.name) :=
  List.find?_append

theorem suits_clock (h : provider.Suits .currentTime) : provider.Suits .clock := by
  intro plan hplan
  apply h
  rw [show provider.unit.plansOf (provider.primitiveOf .currentTime) = _ from List.append_cons ..]
  exact List.mem_append_left _ hplan

/-- Nothing is said of what the time stops at once there is a clock. -/
theorem bare_time {clock : FuncId} (provider : Provider) :
    Action.Bare (do
      let id ← timeOver clock
      record (.currentTimeReady id provider.clock)
      pure id) :=
  (providing_bare.timeOver clock).bind fun _ => (bare_record _).bind fun _ => Action.bare_pure _

theorem Coherent.time_error (h : Coherent provider) (hsuits : provider.Suits .currentTime)
    {stop : Stop} (hstop : (request .currentTime).answer provider = .error stop) {symbol : Symbol}
    (htaken : provider.taken? .currentTime = some symbol)
    (hroot : stop.root = .fault (.declaration symbol.name .incompatibleDeclaration)) :
    stop = .fault (provider.blame .currentTime symbol) := by
  have hforgotten : provider.currentTime = none := by
    cases htime : provider.currentTime with
    | none => rfl
    | some id =>
        have hrun : request .currentTime provider = .ok id provider :=
          timeFunction_of_remembered htime
        rw [Action.answer, hrun] at hstop
        cases hstop
  have hmade : (request .currentTime).answer provider = makeTime.answer provider :=
    (timeFunction_like_makeTime hforgotten).left
  rw [hmade, makeTime, Action.answer_get_bind, Action.answer_bind,
    Action.answer_mapFault] at hstop
  rw [taken?_currentTime] at htaken
  rcases h.request_cases rfl (suits_clock hsuits) with
    ⟨clock, hclock, hnone⟩ | ⟨done, failed, cause, hclock, hstops⟩
  · -- The clock could be had, and the name of the time itself is taken.
    have hanswer : clockFunction.answer provider = .ok clock := hclock
    rw [hanswer] at hstop
    rw [hnone, Option.none_or] at htaken
    have hown := List.mem_singleton.mp (List.mem_of_find?_eq_some htaken)
    have hother : symbol ∉ provider.clock.symbols := by
      have hnodup := Primitive.nodup_time provider.clock provider.unit.name
      rw [Primitive.symbols, List.nodup_append] at hnodup
      intro hmem
      exact hnodup.right.right symbol hmem _ (List.mem_singleton_self _) hown
    rw [blame, if_neg (fun hboth => hother hboth.right), ← hroot]
    exact (bare_time _ _ stop hstop).symm
  · -- The clock is what could not be had, which is said.
    have hanswer : clockFunction.answer provider = .error cause := hclock
    have hcause := hstops.taken? h
    have hbare := providing_bare.clockFunction provider cause hanswer
    rw [hstops.root] at hbare
    rw [hcause, Option.some_or, Option.some.injEq] at htaken
    rw [hanswer, ← hbare] at hstop
    cases hstop
    have hmem : failed.symbol ∈ provider.clock.symbols := List.mem_of_find?_eq_some hcause
    rw [blame, ← htaken, if_pos ⟨rfl, hmem⟩]

/-- What a request that has stopped says of the symbol. -/
theorem Coherent.request_error (h : Coherent provider) (hsuits : provider.Suits wanted)
    {stop : Stop} (hstop : (request wanted).answer provider = .error stop) {symbol : Symbol}
    (htaken : provider.taken? wanted = some symbol)
    (hroot : stop.root = .fault (.declaration symbol.name .incompatibleDeclaration)) :
    stop = .fault (provider.blame wanted symbol) := by
  by_cases htime : wanted = .currentTime
  · subst htime
    exact h.time_error hsuits hstop htaken hroot
  · rw [blame, if_neg (fun hboth => htime hboth.left), ← hroot]
    exact (providing_bare.request htime provider stop hstop).symm

/-! ## Asking once more -/

/-- A request that stops leaves the names of data objects as they were, no more and no less. -/
theorem StopsAt.isData_after {done : List Plan} {failed : Plan} {stop : Stop}
    (h : before.StopsAt wanted done failed stop after)
    (hkeeps : before.unit.KeepsData after.unit) :
    after.unit.module.isData = before.unit.module.isData := by
  funext name
  rw [Bool.eq_iff_iff]
  exact ⟨h.obtains.isData_before, hkeeps name⟩

/-- A request is the same one to a provider that has carried out something of it. -/
theorem Appends.plansOf_eq (h : before.Appends after) (wanted : Request) :
    after.unit.plansOf (after.primitiveOf wanted) =
      before.unit.plansOf (before.primitiveOf wanted) := by
  rw [primitiveOf, h.config, h.unit.name, CompilationUnit.plansOf, h.unit.target,
    h.unit.timeLayout]

theorem Appends.taken?_eq (h : before.Appends after)
    (hdata : after.unit.module.isData = before.unit.module.isData) (wanted : Request) :
    after.taken? wanted = before.taken? wanted := by
  rw [taken?, symbolsOf, primitiveOf, h.config, h.unit.name, h.clock, hdata]
  rfl

theorem Appends.blame_eq (h : before.Appends after) (wanted : Request) (symbol : Symbol) :
    after.blame wanted symbol = before.blame wanted symbol := by
  rw [blame, h.clock, blame]

/-- A request that has stopped stops once more at the same plan, and nothing changes. -/
theorem StopsAt.again {done : List Plan} {failed : Plan} {stop : Stop}
    (h : before.StopsAt wanted done failed stop after) (hcoherent : Coherent before)
    (hsupported : wanted.unsupported? = none) (hsuits : before.Suits wanted)
    (hkeeps : before.unit.KeepsData after.unit)
    (hstop : stop = .fault (before.blame wanted failed.symbol)) :
    (request wanted).answer after = .error stop ∧ after.Alike ((request wanted).leaves after) := by
  have happends := h.obtains.appends
  have hlater := h.obtains.coherent hcoherent
  have hdata := h.isData_after hkeeps
  have hplans := happends.plansOf_eq wanted
  have hregular : forall plan, plan ∈ before.unit.plansOf (before.primitiveOf wanted) ->
      before.unit.Regards plan := fun plan hplan => ⟨_, hplan⟩
  have hdone : forall plan, plan ∈ done -> before.unit.Regards plan := by
    rcases h.plans with ⟨rest, hsplit⟩
    rw [hsplit] at hregular
    exact fun plan hplan => hregular plan (List.mem_append_left _ hplan)
  have hstill : after.Suits wanted := by
    rw [Suits, hplans]
    exact h.obtains.suits hsuits hdone hregular
  have htaken := h.taken? hcoherent
  rw [← happends.taken?_eq hdata] at htaken
  rcases hlater.request_cases hsupported hstill with
    ⟨id, _, hnone⟩ | ⟨others, failedAgain, stopAgain, hanswer, hstops⟩
  · rw [hnone] at htaken
    cases htaken
  · have hothers : others = done := by
      rw [hstops.done_eq, h.done_eq, hplans, hdata]
    have hsame := hstops.taken? hlater
    have hfound := hlater.request_error hstill hanswer hsame hstops.root
    rw [htaken, Option.some.injEq] at hsame
    rw [hanswer, hfound, ← hsame, happends.blame_eq, hstop]
    have hregistered := h.obtains.registered hcoherent
    rw [← hothers] at hregistered
    rcases hstops.obtains.keeps_of_registered hlater hregistered with ⟨halike, hfind⟩
    have hagain := hstops.obtains.appends
    exact ⟨rfl, halike, hagain.config, hagain.clock, hstops.obtains.currentTime, hfind⟩

/-! ## Requests that are refused -/

theorem request_of_unsupported {fault : Fault} (h : wanted.unsupported? = some fault)
    (provider : Provider) : request wanted provider = .error (.fault fault) provider := by
  have hfault := wanted.fault?_primitive provider.config provider.unit.name
  exact request_of_fault (hfault.trans h)

/-- A request is answered if there is nothing to refuse it for.  Else it fails for that, and fails
for the same when it is made once more. -/
theorem Coherent.request_refused (h : Coherent provider) (hsuits : provider.Suits wanted) :
    match provider.refusal? wanted with
    | none => exists id, (request wanted).answer provider = .ok id
    | some fault =>
        (request wanted).answer provider = .error (.fault fault) ∧
          (request wanted).answer ((request wanted).leaves provider) = .error (.fault fault) ∧
            ((request wanted).leaves provider).Alike
              ((request wanted).leaves ((request wanted).leaves provider)) := by
  unfold refusal?
  cases hsupported : wanted.unsupported? with
  | some fault =>
      have hrun := request_of_unsupported hsupported provider
      have hanswer : (request wanted).answer provider = .error (.fault fault) := by
        rw [Action.answer, hrun]
      have hleaves : (request wanted).leaves provider = provider := by
        rw [Action.leaves, hrun]
      simp only [Option.some_or]
      rw [hleaves, hleaves]
      exact ⟨hanswer, hanswer, .refl provider⟩
  | none =>
      rw [Option.none_or]
      have hkeeps : provider.unit.KeepsData ((request wanted).leaves provider).unit :=
        CompilationUnit.Passes.keepsData (passes_request wanted provider)
      rcases h.request_cases hsupported hsuits with
        ⟨id, hid, hnone⟩ | ⟨done, failed, stop, hstop, hstops⟩
      · rw [hnone]
        exact ⟨id, hid⟩
      · have htaken := hstops.taken? h
        have hblame := h.request_error hsuits hstop htaken hstops.root
        rw [htaken]
        rw [hblame] at hstop
        have hagain := hstops.again h hsupported hsuits hkeeps hblame
        rw [hblame] at hagain
        exact ⟨hstop, hagain⟩

end Provider

/-! ## Requests in a history -/

/-- A request fails if it is for a type that is not supported, which leaves the provider as it was,
or if one of its symbols is the name of a data object, and else it is answered.  Asked for once
more, it fails with the same fault, and nothing changes but what is told. -/
theorem History.request_fails {first : CompilationUnit} {services : List Service}
    {provider : Provider} (h : History first services (.provider provider)) {wanted : Request}
    (hsuits : provider.Suits wanted) :
    let answer := (Provider.request wanted).answer provider
    let after := (Provider.request wanted).leaves provider
    (forall stop, answer = .error stop ↔ exists fault,
      provider.refusal? wanted = some fault ∧ stop = .fault fault) ∧
      (wanted.unsupported?.isSome = true -> after = provider) ∧
        forall stop, answer = .error stop ->
          (Provider.request wanted).answer after = .error stop ∧
            after.Alike ((Provider.request wanted).leaves after) := by
  intro answer after
  have hcoherent : provider.Coherent := h.account.right
  have hrefused := hcoherent.request_refused hsuits
  have hunsupported : wanted.unsupported?.isSome = true -> after = provider := by
    intro hsome
    rcases Option.isSome_iff_exists.mp hsome with ⟨fault, hfault⟩
    simp only [after, Action.leaves, Provider.request_of_unsupported hfault provider]
  cases hrefusal : provider.refusal? wanted with
  | none =>
      rw [hrefusal] at hrefused
      rcases hrefused with ⟨id, hid⟩
      have hanswer : answer = .ok id := hid
      exact ⟨by simp [hanswer], hunsupported, by simp [hanswer]⟩
  | some fault =>
      rw [hrefusal] at hrefused
      rcases hrefused with ⟨hfailed, hagain⟩
      have hanswer : answer = .error (.fault fault) := hfailed
      refine ⟨by simp [hanswer, eq_comm], hunsupported, ?_⟩
      intro stop hstop
      rw [hanswer] at hstop
      cases hstop
      exact hagain

/-- A data object has the name of the clock, and a caller has declared one of the performance
counters.  The time fails over the clock, also when asked for once more, and a kernel on pointers
fails over its type. -/
theorem History.request_fails_clock :
    let unit := ((CompilationUnit.declareImport "QueryPerformanceCounter"
      Routine.querySignature).leaves (.ofModule .empty "unit"
        { os := .windows, intWidth := .unspecified } [])).declareData "clock_gettime"
    let provider := Provider.start unit .standard
    let after := (Provider.request .currentTime).leaves provider
    let stop := Stop.fault
      (.unresolved "clock_gettime" (.declaration "clock_gettime" .incompatibleDeclaration))
    let wanted := Request.kernel .gemv (.pointerTo (.pointerTo .native)) none
    (provider.Suits .currentTime ∧ (Provider.request .currentTime).answer provider = .error stop ∧
        (Provider.request .currentTime).answer after = .error stop) ∧
      provider.Suits wanted ∧
        (Provider.request wanted).answer provider =
          .error (.fault (.unsupported "gemv" (.pointerTo (.pointerTo .native)))) ∧
        (Provider.request wanted).leaves provider = provider := by
  intro unit provider after stop wanted
  have hlent : History unit [] (.provider provider) := History.start.lend .standard
  have hdeclared : forall plan,
      plan ∈ provider.unit.plansOf (provider.primitiveOf .currentTime) ->
        forall id, id ∈ provider.unit.lookup? plan.symbol.name ->
          provider.unit.module.signature? id = some (provider.unit.signature plan.sig) := by
    decide +kernel
  have hsuits : provider.Suits .currentTime := hdeclared
  have hnothing : provider.Suits wanted := fun _ hplan => nomatch hplan
  rcases request_fails hlent hsuits with ⟨hfails, _, hagain⟩
  rcases request_fails hlent hnothing with ⟨hunsupported, hsame, _⟩
  have hanswer := (hfails stop).mpr ⟨_, by decide +kernel, rfl⟩
  have hother := (hunsupported _).mpr ⟨_, rfl, rfl⟩
  exact ⟨⟨hsuits, hanswer, (hagain stop hanswer).left⟩, hnothing, hother, hsame rfl⟩

end Provision
