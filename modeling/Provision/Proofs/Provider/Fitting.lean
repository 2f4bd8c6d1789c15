import Provision.Executable
import Provision.Host.Rehearsed
import Provision.Proofs.Code.Invoking
import Provision.Proofs.Module.Lasting
import Provision.Proofs.Provider.Synthesized
import Provision.Proofs.Provider.Tenure
import Provision.Proofs.Time.Run

/-!
# Answers that fit

What the answer to a request is to the emitter through which the request was made.  Functions are
found by their names alone, so that an answer may have been made for another emitter: it has the
signature, and works on the layout of a time, that were asked for there.
-/

namespace Provision

/-! ## Signatures -/

namespace Tenure

variable {first : CompilationUnit} {visits : List Visit} {holder : Holder}

/-- A function that is answered has the signature that the emitter for which it was made asked for
it with.  Other emitters ask for the same one, unless native integers make the difference. -/
theorem signature_of_answer (h : Tenure first visits holder)
    (hfirst : first.module.functions = []) {visit : Visit} (hvisit : visit ∈ visits) {id : FuncId}
    (hid : visit.answer = .ok id) :
    exists declaration author, holder.unit.module.declaration? id = some declaration ∧
      author ∈ visits ∧ author.Makes id ∧
        declaration.signature =
            author.unit.signature (visit.primitive.sig author.unit.timeLayout) ∧
          (visit.primitive.isNative = false ∨ author.unit.lowering = visit.unit.lowering ->
            declaration.signature = visit.signature) := by
  rcases h.history.account.left.named visit.service (List.mem_map_of_mem hvisit) id hid with
    ⟨symbol, hsymbol, hlookup⟩
  rcases Module.name_of_lookup? hlookup with ⟨declaration, hdeclaration, _⟩
  rcases h.exists_author hfirst id declaration hdeclaration with
    ⟨author, hauthor, hmakes, plan, unit, hauthors, hunit⟩
  have hplan := hauthors.plan_of_lookup hdeclaration hsymbol hlookup
  have hlowering : unit.lowering = author.unit.lowering := by
    rw [CompilationUnit.lowering, hunit.target]
    rfl
  have hsignature : declaration.signature =
      author.unit.signature (visit.primitive.sig author.unit.timeLayout) := by
    rw [hauthors.yields.signature, (Primitive.of_plan hplan).right, hunit.timeLayout,
      CompilationUnit.signature, hlowering]
    rfl
  refine ⟨declaration, author, hdeclaration, hauthor, hmakes, hsignature, ?_⟩
  intro hagree
  rw [hsignature]
  exact Primitive.signature_sig (Primitive.fault_of_plan hplan) hagree _ _

end Tenure

/-! ## Code of the time -/

namespace Plan

variable {unit : CompilationUnit} {module : Module} {declaration : Declaration}
  {layout : TimeLayout}

/-- A clock that was made over the performance counters calls those of the module. -/
theorem Authors.code_clock
    (h : (Plan.clock .performanceCounter layout).Authors unit module declaration)
    (hcalls : module.Calls (.clock .performanceCounter layout)) :
    exists number near,
      module.lookup? Symbol.queryCounter.name = some (number { index := 0 }) ∧
        module.lookup? Symbol.queryFrequency.name = some (number { index := 1 }) ∧
          declaration.code =
            some { (Clock.procedure layout).renumber number with near := near } := by
  rcases h.exists_code hcalls rfl with ⟨compiled, number, near, hcompiled, hfinds, hmade⟩
  cases Option.some.inj (hcompiled.symm.trans (Clock.compiled_eq layout))
  exact ⟨number, near, hfinds { index := 0 } _ rfl, hfinds { index := 1 } _ rfl, hmade⟩

/-- The current time that was made for any clock calls the one of the module. -/
theorem Authors.code_currentTime {origin : ClockOrigin} {name : String}
    (h : (Plan.currentTime origin layout name).Authors unit module declaration)
    (hcalls : module.Calls (.currentTime origin layout name)) :
    exists number near,
      module.lookup? Symbol.clock.name = some (number { index := 0 }) ∧
        declaration.code =
          some { (CurrentTime.procedure layout).renumber number with near := near } := by
  rcases h.exists_code hcalls rfl with ⟨compiled, number, near, hcompiled, hfinds, hmade⟩
  cases Option.some.inj (hcompiled.symm.trans (CurrentTime.compiled_eq origin layout layout))
  have hclock := hfinds { index := 0 } _ rfl
  rw [Plan.symbol_clock] at hclock
  exact ⟨number, near, hclock, hmade⟩

end Plan

namespace Tenure

variable {first : CompilationUnit} {visits : List Visit} {holder : Holder}

/-- The clock of a module was made by the plan for the clock of some emitter. -/
theorem exists_author_of_clock (h : Tenure first visits holder)
    (hfirst : first.module.functions = []) {clock : FuncId} {declaration : Declaration}
    (hlookup : holder.unit.module.lookup? Symbol.clock.name = some clock)
    (hdeclaration : holder.unit.module.declaration? clock = some declaration) :
    exists maker, maker ∈ visits ∧ maker.Makes clock ∧ exists unit : CompilationUnit,
      (Plan.clock (.ofTarget maker.unit.target) maker.unit.timeLayout).Authors unit
        holder.unit.module declaration := by
  rcases h.exists_author hfirst clock declaration hdeclaration with
    ⟨maker, hmaker, hmakes, plan, unit, hauthors, hunit⟩
  have hsymbol : Primitive.clock.symbol = .ok Symbol.clock := rfl
  cases hauthors.plan_of_lookup hdeclaration hsymbol hlookup
  rw [hunit.target, hunit.timeLayout] at hauthors
  exact ⟨maker, hmaker, hmakes, unit, hauthors⟩

/-- A clock is defined over the performance counters, for the layout of the emitter for which it was
made, if it has code or that emitter has the counters. -/
theorem code_of_clock (h : Tenure first visits holder) (hfirst : first.module.functions = [])
    {clock : FuncId} {declaration : Declaration}
    (hlookup : holder.unit.module.lookup? Symbol.clock.name = some clock)
    (hdeclaration : holder.unit.module.declaration? clock = some declaration)
    (hcode : declaration.code.isSome = true ∨
      forall visit, visit ∈ visits -> visit.unit.target.isWindows = true) :
    exists maker number near, maker ∈ visits ∧ maker.Makes clock ∧
      holder.unit.module.lookup? Symbol.queryCounter.name = some (number { index := 0 }) ∧
        holder.unit.module.lookup? Symbol.queryFrequency.name = some (number { index := 1 }) ∧
          declaration.code =
            some { (Clock.procedure maker.unit.timeLayout).renumber number with near := near } := by
  rcases h.exists_author_of_clock hfirst hlookup hdeclaration with
    ⟨maker, hmaker, hmakes, unit, hauthors⟩
  cases horigin : ClockOrigin.ofTarget maker.unit.target with
  | posix =>
      rw [horigin] at hauthors
      rcases hcode with hsome | hwindows
      · rw [hauthors.code_eq_none rfl] at hsome
        cases hsome
      · rw [ClockOrigin.ofTarget, hwindows maker hmaker] at horigin
        cases horigin
  | performanceCounter =>
      rw [horigin] at hauthors
      rcases hauthors.code_clock (hauthors.calls (h.authored hfirst) rfl) with
        ⟨number, near, hcounter, hfrequency, hmade⟩
      exact ⟨maker, number, near, hmaker, hmakes, hcounter, hfrequency, hmade⟩

/-- The current time calls the clock of the module.  It works on the layout of the emitter for which
it was made. -/
theorem code_of_time (h : Tenure first visits holder) (hfirst : first.module.functions = [])
    {visit : Visit} (hvisit : visit ∈ visits) (hwanted : visit.wanted = .currentTime)
    {time : FuncId} (htime : visit.answer = .ok time) :
    exists author number near declaration, author ∈ visits ∧ author.Makes time ∧
      holder.unit.module.declaration? time = some declaration ∧
        holder.unit.module.lookup? Symbol.clock.name = some (number { index := 0 }) ∧
          declaration.code =
            some { (CurrentTime.procedure author.unit.timeLayout).renumber number with
              near := near } := by
  rcases h.history.account.left.named visit.service (List.mem_map_of_mem hvisit) time htime with
    ⟨symbol, hsymbol, hlookup⟩
  have hprimitive : visit.service.primitive = .currentTime visit.unit.name := by
    rw [Visit.service, Service.ofRequest, hwanted]
    rfl
  rw [hprimitive] at hsymbol
  rcases Module.name_of_lookup? hlookup with ⟨declaration, hdeclaration, _⟩
  rcases h.exists_author hfirst time declaration hdeclaration with
    ⟨author, hauthor, hmakes, plan, unit, hauthors, hunit⟩
  cases hauthors.plan_of_lookup hdeclaration hsymbol hlookup
  rcases hauthors.code_currentTime (hauthors.calls (h.authored hfirst) rfl) with
    ⟨number, near, hclock, hmade⟩
  rw [hunit.timeLayout] at hmade
  exact ⟨author, number, near, declaration, hauthor, hmakes, hdeclaration, hclock, hmade⟩

end Tenure

/-! ## Running the time -/

section Running

variable {σ : Type}

/-- A program keeps the code of a module. -/
theorem Executable.procedure?_of_keeps {program : Executable σ} {module : Module}
    (hkeeps : module.Keeps program.module) {id : FuncId} {declaration : Declaration}
    {procedure : Procedure} (hdeclaration : module.declaration? id = some declaration)
    (hcode : declaration.code = some procedure) : program.procedure? id = some procedure := by
  rcases hkeeps id declaration hdeclaration with ⟨kept, hkept, hsame⟩
  exact procedure?_of_code hkept (hsame.code procedure hcode)

theorem Executable.invoke_of_keeps {program : Executable σ} {module : Module}
    (hkeeps : module.Keeps program.module) {id : FuncId} {declaration : Declaration}
    {procedure : Procedure} (hdeclaration : module.declaration? id = some declaration)
    (hcode : declaration.code = some procedure) (depth : Nat) :
    program.invoke (depth + 1) id = procedure.run (program.invoke depth) :=
  invoke_of_procedure (procedure?_of_keeps hkeeps hdeclaration hcode) depth

namespace CurrentTime

/-- The readings that a clock takes which the current time calls, below the slot for the time. -/
def readings? (counter frequency : Behaviour σ) (world : World σ) : Option (Clock.Readings σ) :=
  Clock.readings? counter frequency (world.stack - 16 - 16)
    { world with stack := world.stack - 16 - 16 }

/-- The current time over a clock that is defined over counters.  The clock puts a stamp of one
layout into the slot, and the slot is read as a stamp of another. -/
def overCounters (puts reads : TimeLayout) (counter frequency : Behaviour σ) (world : World σ) :
    Option (List Scalar × World σ) :=
  match readings? counter frequency world with
  | none => none
  | some readings =>
      let stamp := Stamp.ofCounter puts readings.counter readings.frequency
      let memory := stamp.put readings.after.memory (world.stack - 16)
      some ([.float .double (Stamp.read reads memory (world.stack - 16)).millis],
        { memory := memory, stack := world.stack, host := readings.after.host })

/-- A run of the current time fits its layout: it returns the stamp that the clock has put into the
slot, and the clock has stored nothing outside the slot. -/
structure Fits (layout : TimeLayout) (readings : Clock.Readings σ) (world : World σ)
    (results : List Scalar) (after : World σ) : Prop where
  returns : results =
    [.float .double (Stamp.ofCounter layout readings.counter readings.frequency).millis]
  reads : Stamp.read layout after.memory (world.stack - 16) =
    Stamp.ofCounter layout readings.counter readings.frequency
  inside : forall a, ¬ Memory.Within (world.stack - 16) layout.size a ->
    after.memory.byteAt a = readings.after.memory.byteAt a

theorem fits_of_overCounters {layout : TimeLayout} {counter frequency : Behaviour σ}
    {world after : World σ} {results : List Scalar}
    (h : overCounters layout layout counter frequency world = some (results, after)) :
    exists readings, readings? counter frequency world = some readings ∧
      Fits layout readings world results after := by
  unfold overCounters at h
  cases hreadings : readings? counter frequency world with
  | none =>
      rw [hreadings] at h
      cases h
  | some readings =>
      rw [hreadings] at h
      cases h
      refine ⟨readings, rfl, ?_, ?_, ?_⟩
      · rw [Stamp.read_put]
      · exact Stamp.read_put _ _ _
      · exact fun a ha => Stamp.byteAt_put _ _ ha

/-- The current time over a clock runs as both procedures say. -/
theorem run_over (puts reads : TimeLayout) (outer inner : FuncId -> Behaviour σ)
    (hclock : outer { index := 0 } = (Clock.procedure puts).run inner) (world : World σ) :
    (procedure reads).run outer [] world =
      overCounters puts reads (inner { index := 0 }) (inner { index := 1 }) world := by
  rw [run_procedure, hclock, Clock.run_procedure]
  unfold overCounters readings?
  cases Clock.readings? (inner { index := 0 }) (inner { index := 1 }) (world.stack - 16 - 16)
    { world with stack := world.stack - 16 - 16 } with
  | none => rfl
  | some readings => rfl

end CurrentTime

/-- A function of a program tells the current time over the performance counters.  It has a slot
of the size of one layout, which it reads; the clock that it calls puts a stamp of another. -/
structure Executable.TellsTime (program : Executable σ) (time : FuncId)
    (puts reads : TimeLayout) : Prop where
  slot : exists declaration procedure, program.module.declaration? time = some declaration ∧
    declaration.code = some procedure ∧ procedure.slots.map StackSlot.size = [reads.size] ∧
      forall top, StackSlot.addresses procedure.slots (StackSlot.bottom procedure.slots top) =
        [top - 16]
  runs : exists counter frequency,
    program.module.lookup? Symbol.queryCounter.name = some counter ∧
      program.module.lookup? Symbol.queryFrequency.name = some frequency ∧
        forall depth world,
          program.invoke (depth + 2) time [] world =
              CurrentTime.overCounters puts reads (program.invoke depth counter)
                (program.invoke depth frequency) world ∧
            (puts = reads -> forall results after,
              program.invoke (depth + 2) time [] world = some (results, after) ->
                exists readings,
                  CurrentTime.readings? (program.invoke depth counter)
                      (program.invoke depth frequency) world = some readings ∧
                    CurrentTime.Fits reads readings world results after)

end Running

/-! ## Answers -/

/-- What emitters are answered in turn fits them as far as the emitters agree.  A function has the
signature that was asked for by the emitter for which it was made, and every other emitter asks for
the same one, unless it lowers native integers differently and they occur.  The current time reads
the stamp that the clock has put, and the clock stores nothing but that stamp into the slot, if the
two were made for emitters with one time layout. -/
theorem Tenure.answers_fit (σ : Type) {first : CompilationUnit} {visits : List Visit}
    {holder : Holder} (h : Tenure first visits holder) (hfirst : first.module.functions = []) :
    (forall visit, visit ∈ visits -> forall id, visit.answer = .ok id ->
      exists declaration author, holder.unit.module.declaration? id = some declaration ∧
        author ∈ visits ∧ author.Makes id ∧
          declaration.signature =
              author.unit.signature (visit.primitive.sig author.unit.timeLayout) ∧
            (visit.primitive.isNative = false ∨ author.unit.lowering = visit.unit.lowering ->
              declaration.signature = visit.signature)) ∧
    forall visit, visit ∈ visits -> visit.wanted = .currentTime ->
      forall time, visit.answer = .ok time -> forall clock declaration,
        holder.unit.module.lookup? Symbol.clock.name = some clock ->
          holder.unit.module.declaration? clock = some declaration ->
            declaration.code.isSome = true ->
              exists author maker, author ∈ visits ∧ maker ∈ visits ∧ author.Makes time ∧
                maker.Makes clock ∧ forall program : Executable σ,
                  holder.unit.module.Keeps program.module ->
                    program.TellsTime time maker.unit.timeLayout author.unit.timeLayout := by
  refine ⟨fun visit hvisit id hid => h.signature_of_answer hfirst hvisit hid, ?_⟩
  intro visit hvisit hwanted time htime clock declaration hclock hdeclaration hsome
  rcases h.code_of_time hfirst hvisit hwanted htime with
    ⟨author, place, near, timing, hauthor, htimeMade, htiming, hcallee, htimeCode⟩
  rcases h.code_of_clock hfirst hclock hdeclaration (.inl hsome) with
    ⟨maker, number, others, hmaker, hclockMade, hcounter, hfrequency, hclockCode⟩
  refine ⟨author, maker, hauthor, hmaker, htimeMade, hclockMade, ?_⟩
  intro program hkeeps
  have hplace : place { index := 0 } = clock := by
    rw [hclock] at hcallee
    exact (Option.some.inj hcallee).symm
  have hruns : forall depth world, program.invoke (depth + 2) time [] world =
      CurrentTime.overCounters maker.unit.timeLayout author.unit.timeLayout
        (program.invoke depth (number { index := 0 }))
        (program.invoke depth (number { index := 1 })) world := by
    intro depth world
    have hcalls : program.invoke (depth + 1) (place { index := 0 }) =
        (Clock.procedure maker.unit.timeLayout).run
          fun callee => program.invoke depth (number callee) := by
      rw [hplace, Executable.invoke_of_keeps hkeeps hdeclaration hclockCode, Procedure.run_renumber]
    rw [Executable.invoke_of_keeps hkeeps htiming htimeCode, Procedure.run_renumber]
    exact CurrentTime.run_over _ _ (fun callee => program.invoke (depth + 1) (place callee)) _
      hcalls world
  rcases hkeeps time timing htiming with ⟨kept, hkept, hsame⟩
  refine ⟨⟨kept, _, hkept, hsame.code _ htimeCode, rfl, ?_⟩, number { index := 0 },
    number { index := 1 }, hkeeps.grows.lookup? hcounter, hkeeps.grows.lookup? hfrequency, ?_⟩
  · intro top
    change StackSlot.addresses (CurrentTime.slots author.unit.timeLayout)
      (StackSlot.bottom (CurrentTime.slots author.unit.timeLayout) top) = [top - 16]
    rw [CurrentTime.bottom_slots, CurrentTime.addresses_slots]
  · intro depth world
    refine ⟨hruns depth world, ?_⟩
    intro hlayout results after hrun
    rw [hruns depth world, hlayout] at hrun
    exact CurrentTime.fits_of_overCounters hrun

theorem Tenure.answers_fit_counter :
    let unit :=
      CompilationUnit.ofModule .empty "unit" { os := .windows, intWidth := .unspecified } []
    let visit : Visit := { provider := .start unit .standard, wanted := .currentTime }
    let program : Executable Rehearsal :=
      { module := visit.after.unit.module
        name := "unit"
        table := .ofList (Host.performanceCounter 10) }
    let world : World Rehearsal :=
      { memory := .empty, stack := 65536, host := { Rehearsal.idle with counters := [15] } }
    visit.answer = .ok { index := 3 } ∧
      (exists declaration, program.module.declaration? { index := 3 } = some declaration ∧
        declaration.signature = visit.signature) ∧
        exists readings results after,
          program.invoke 4 { index := 3 } [] world = some (results, after) ∧
            CurrentTime.Fits .fields64 readings world results after ∧
              results = [.float .double 0x408f67ffffffffff#64] := by
  intro unit visit program world
  have hanswer : visit.answer = .ok { index := 3 } := by decide +kernel
  have hresults : (program.invoke 4 { index := 3 } [] world).map Prod.fst =
      some [.float .double 0x408f67ffffffffff#64] := by
    decide +kernel
  have hclock : visit.after.unit.module.lookup? Symbol.clock.name = some { index := 2 } := by
    decide +kernel
  have hcode : (visit.after.unit.module.declaration? { index := 2 }).any
      (·.code.isSome) = true := by
    decide +kernel
  have htenure : Tenure unit [visit] (.provider visit.after) :=
    (Tenure.start.lend .standard).serve .currentTime
  rcases Tenure.answers_fit Rehearsal htenure rfl with ⟨hsignatures, htells⟩
  have hlayout : visit.unit.timeLayout = .fields64 := rfl
  have hwanted : visit.wanted = .currentTime := rfl
  have hnative : visit.primitive.isNative = false := rfl
  -- What is left follows from these facts; comparing terms must not compute the visit again.
  clear_value visit
  have hvisit : visit ∈ [visit] := List.mem_singleton_self visit
  refine ⟨hanswer, ?_, ?_⟩
  · rcases hsignatures visit hvisit _ hanswer with ⟨declaration, _, hdeclaration, _, _, _, hsame⟩
    exact ⟨declaration, hdeclaration, hsame (.inl hnative)⟩
  · rcases Option.map_eq_some_iff.mp hresults with ⟨⟨results, after⟩, hrun, hfirst⟩
    rcases (Option.any_eq_true _ _).mp hcode with ⟨declaration, hdeclaration, hsome⟩
    rcases htells visit hvisit hwanted _ hanswer _ _ hclock hdeclaration hsome with
      ⟨author, maker, hauthor, hmaker, _, _, hprogram⟩
    rw [List.mem_singleton.mp hauthor, List.mem_singleton.mp hmaker, hlayout] at hprogram
    rcases (hprogram program (.refl _)).runs with ⟨counter, frequency, _, _, hruns⟩
    rcases (hruns 2 world).right rfl results after hrun with ⟨readings, _, hfits⟩
    exact ⟨readings, results, after, hrun, hfits, hfirst⟩

/-- Emitters that do not agree are answered what does not fit.  The number of threads has 64 bits
where 32 were asked for.  A clock with fields of 64 bits stores behind a slot of 8 bytes, and its
stamp is read as another one. -/
theorem Tenure.answers_of_other_emitters :
    (let narrow : Target := { os := .posix, intWidth := .bits32 }
      let unit := CompilationUnit.ofModule .empty "unit" { os := .posix, intWidth := .bits64 } []
      let early : Visit := { provider := .start unit .standard, wanted := .getThreads }
      let other := (early.after.unit.rewrap "unit" narrow).withTimeLayout .fields64
      let late : Visit := { provider := .start other .standard, wanted := .getThreads }
      Tenure unit [early, late] (.provider late.after) ∧
        late.answer = .ok { index := 0 } ∧
          (late.after.unit.module.declaration? { index := 0 }).map Declaration.signature =
              some { params := [], returns := [.i64] } ∧
            late.signature = { params := [], returns := [.i32] }) ∧
      let target : Target := { os := .windows, intWidth := .unspecified }
      let unit := CompilationUnit.ofModule .empty "unit" target []
      let early : Visit := { provider := .start unit .standard, wanted := .clock }
      let other := (early.after.unit.rewrap "unit" target).withTimeLayout .fields32
      let late : Visit := { provider := .start other .standard, wanted := .currentTime }
      let program : Executable Rehearsal :=
        { module := late.after.unit.module
          name := "unit"
          table := .ofList (Host.performanceCounter 10) }
      let world : World Rehearsal :=
        { memory := .empty, stack := 65536, host := { Rehearsal.idle with counters := [15] } }
      Tenure unit [early, late] (.provider late.after) ∧
        late.answer = .ok { index := 3 } ∧
          ((late.after.unit.module.declaration? { index := 3 }).bind Declaration.code).map
              Procedure.slots = some [{ size := 8, alignShift := 2 }] ∧
            (program.invoke 4 { index := 3 } [] world).map
                (fun run => (run.1, run.2.memory.byteAt (65536 - 16 + 8))) =
              some ([.float .double 0x408f400000000000#64], 64#8) ∧
              (Stamp.ofCounter .fields64 15 10).millis = 0x408f67ffffffffff#64 := by
  refine ⟨⟨?_, by decide +kernel, by decide +kernel, by decide +kernel⟩,
    ⟨?_, by decide +kernel, by decide +kernel, by decide +kernel, by decide +kernel⟩⟩
  · exact (((Tenure.start.lend .standard).serve .getThreads).rewrap "unit" _ .fields64).lend
      .standard |>.serve .getThreads
  · exact (((Tenure.start.lend .standard).serve .clock).rewrap "unit" _ .fields32).lend
      .standard |>.serve .currentTime

end Provision
