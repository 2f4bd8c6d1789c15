import Provision.Proofs.Provider.Fitting
import Provision.Proofs.Provider.Refusal

/-!
# Telling the time

The clock and the current time that a provider makes, in any module, and those that providers make
for emitters with one layout of a time.  Over performance counters the clock puts the stamp of their
readings where it is told to.  The current time has some clock put a stamp into its slot, and
returns it in milliseconds.
-/

namespace Provision

variable {σ : Type}

/-! ## Readings that are delivered -/

namespace Clock

/-- A function stores a reading at the address it is called with. -/
structure Delivers (query : Behaviour σ) (a : Memory.Address) (reading : BitVec 64)
    (before after : World σ) : Prop where
  runs : exists returned, query [.address a] before = some (returned, after)
  memory : after.memory = before.memory.store a (.int .w64 reading)
  stack : after.stack = before.stack

/-- A clock has put the stamp of two readings where it was told to.  Elsewhere it has changed
nothing but its frame. -/
structure Stamps (layout : TimeLayout) (counter frequency : BitVec 64) (a : Memory.Address)
    (before after : World σ) : Prop where
  stamp : Stamp.read layout after.memory a = Stamp.ofCounter layout counter frequency
  frame : forall b, ¬ Memory.Within a layout.size b -> ¬ Memory.Within (before.stack - 16) 16 b ->
    after.memory.byteAt b = before.memory.byteAt b
  stack : after.stack = before.stack

variable {bottom : Memory.Address} {x y : BitVec 64} {before counted after : World σ}

theorem apart_slots {b : Memory.Address} (h : Memory.Within (bottom + 8) 8 b) :
    ¬ Memory.Within bottom 8 b := by
  unfold Memory.Within at *
  bv_omega

theorem within_slots {b : Memory.Address}
    (h : Memory.Within bottom 8 b ∨ Memory.Within (bottom + 8) 8 b) :
    Memory.Within bottom 16 b := by
  unfold Memory.Within at *
  bv_omega

section Delivered

variable {counter frequency : Behaviour σ} (hcounter : Delivers counter bottom x before counted)
  (hfrequency : Delivers frequency (bottom + 8) y counted after)

include hcounter hfrequency

theorem readings?_of_delivers :
    readings? counter frequency bottom before =
      some { counter := x, frequency := y, after := after } := by
  rcases hcounter.runs with ⟨returned, hcounted⟩
  rcases hfrequency.runs with ⟨more, hafter⟩
  have hfirst : after.memory.integer .w64 bottom = x := by
    rw [hfrequency.memory, Memory.integer_store_of_disjoint, hcounter.memory,
      Memory.integer_store_self]
    exact fun b hb hsecond => apart_slots hsecond hb
  have hsecond : after.memory.integer .w64 (bottom + 8) = y := by
    rw [hfrequency.memory, Memory.integer_store_self]
  simp only [readings?, hcounted, hafter, hfirst, hsecond]

/-- Deliveries change nothing outside the two slots. -/
theorem byteAt_of_delivers {b : Memory.Address} (h : ¬ Memory.Within bottom 16 b) :
    after.memory.byteAt b = before.memory.byteAt b := by
  have hbytes : MachineType.i64.bytes = 8 := rfl
  rw [hfrequency.memory, Memory.byteAt_store, hcounter.memory, Memory.byteAt_store]
  · intro hin
    exact h (within_slots (.inl (hbytes ▸ hin)))
  · intro hin
    exact h (within_slots (.inr (hbytes ▸ hin)))

end Delivered

/-- The clock comes to its end whenever the two readings are delivered. -/
theorem returns_of_delivers (invoke : FuncId -> Behaviour σ) (layout : TimeLayout)
    (number : Scalar) (a : Memory.Address) {world : World σ}
    (hcounter : Delivers (invoke { index := 0 }) (world.stack - 16) x
      { world with stack := world.stack - 16 } counted)
    (hfrequency : Delivers (invoke { index := 1 }) (world.stack - 16 + 8) y counted after) :
    exists last, (procedure layout).Returns invoke [number, .address a] world [.int .w32 0] last
        (effects { index := 0 } { index := 1 } layout a (world.stack - 16)) ∧
      Stamps layout x y a world last ∧ last.host = after.host := by
  have hreadings := readings?_of_delivers hcounter hfrequency
  refine ⟨_, returns_procedure invoke world layout number a hreadings, ?_, rfl⟩
  constructor
  · exact Stamp.read_put _ _ _
  · intro b htime hframe
    rw [Stamp.byteAt_put _ _ htime]
    exact byteAt_of_delivers hcounter hfrequency hframe
  · rfl

end Clock

/-! ## Functions of a program -/

namespace Executable

variable (program : Executable σ) (layout : TimeLayout)

/-- A function of a program is a clock over the performance counters, which puts stamps of a
layout. -/
structure CountsTime (clock : FuncId) : Prop where
  returns : exists counter frequency,
    program.module.lookup? Symbol.queryCounter.name = some counter ∧
      program.module.lookup? Symbol.queryFrequency.name = some frequency ∧
        forall (depth : Nat) (number : Scalar) (a : Memory.Address) (x y : BitVec 64)
          (world counted queried : World σ),
          Clock.Delivers (program.invoke depth counter) (world.stack - 16) x
              { world with stack := world.stack - 16 } counted ->
            Clock.Delivers (program.invoke depth frequency) (world.stack - 16 + 8) y counted
                queried ->
              exists after,
                program.Returns (depth + 1) clock [number, .address a] world [.int .w32 0] after
                    (Clock.effects counter frequency layout a (world.stack - 16)) ∧
                  Clock.Stamps layout x y a world after ∧ after.host = queried.host

/-- A function of a program has the clock put a stamp of a layout into its slot, and returns it in
milliseconds. -/
structure AsksClock (time clock : FuncId) : Prop where
  lookup : program.module.lookup? Symbol.clock.name = some clock
  returns : forall (depth : Nat) (world called : World σ) (returned : List Scalar)
      (stamp : Stamp layout),
    program.invoke depth clock [.int .w32 0, .address (world.stack - 16)]
        { world with stack := world.stack - 16 } = some (returned, called) ->
      Stamp.read layout called.memory (world.stack - 16) = stamp ->
        program.Returns (depth + 1) time [] world [.float .double stamp.millis]
          { called with stack := world.stack }
          (CurrentTime.effects clock layout (world.stack - 16))

/-- A function of a program returns in milliseconds what a clock tells of the performance counters.
It changes nothing but its slot and the frame of the clock. -/
structure CountsMillis (time clock : FuncId) : Prop where
  returns : exists counter frequency,
    program.module.lookup? Symbol.queryCounter.name = some counter ∧
      program.module.lookup? Symbol.queryFrequency.name = some frequency ∧
        forall (depth : Nat) (x y : BitVec 64) (world counted queried : World σ),
          Clock.Delivers (program.invoke depth counter) (world.stack - 16 - 16) x
              { world with stack := world.stack - 16 - 16 } counted ->
            Clock.Delivers (program.invoke depth frequency) (world.stack - 16 - 16 + 8) y counted
                queried ->
              exists after,
                program.Returns (depth + 2) time [] world
                    [.float .double (Stamp.ofCounter layout x y).millis] after
                    (CurrentTime.effects clock layout (world.stack - 16)) ∧
                  (forall b, ¬ Memory.Within (world.stack - 16) layout.size b ->
                    ¬ Memory.Within (world.stack - 16 - 16) 16 b ->
                      after.memory.byteAt b = world.memory.byteAt b) ∧
                  after.stack = world.stack ∧ after.host = queried.host

variable {program layout} {time clock : FuncId}

theorem CountsTime.millis (h : program.CountsTime layout clock)
    (htime : program.AsksClock layout time clock) : program.CountsMillis layout time clock := by
  rcases h.returns with ⟨counter, frequency, hcounter, hfrequency, hclock⟩
  refine ⟨counter, frequency, hcounter, hfrequency, ?_⟩
  intro depth x y world counted queried hcounted hqueried
  let lowered : World σ := { world with stack := world.stack - 16 }
  rcases hclock depth (.int .w32 0) (world.stack - 16) x y lowered counted queried hcounted
    hqueried with ⟨called, hcalled, hstamps, hhost⟩
  have hreturns := htime.returns (depth + 1) world called _ _ hcalled.runs hstamps.stamp
  exact ⟨_, hreturns, hstamps.frame, rfl, hhost⟩

section Kept

variable {module : Module} {declaration : Declaration} {number : FuncId -> FuncId}
  {near : List FuncId} (hkeeps : module.Keeps program.module)

include hkeeps

/-- A program that keeps the code of a clock has the clock. -/
theorem countsTime_of_keeps (hdeclaration : module.declaration? clock = some declaration)
    (hcounter : module.lookup? Symbol.queryCounter.name = some (number { index := 0 }))
    (hfrequency : module.lookup? Symbol.queryFrequency.name = some (number { index := 1 }))
    (hcode : declaration.code =
      some { (Clock.procedure layout).renumber number with near := near }) :
    program.CountsTime layout clock := by
  have hprocedure := procedure?_of_keeps hkeeps hdeclaration hcode
  refine ⟨number { index := 0 }, number { index := 1 }, hkeeps.grows.lookup? hcounter,
    hkeeps.grows.lookup? hfrequency, ?_⟩
  intro depth place a x y world counted queried hcounted hqueried
  rcases Clock.returns_of_delivers (fun callee => program.invoke depth (number callee)) layout place
    a hcounted hqueried with ⟨after, hreturns, hstamps, hhost⟩
  exact ⟨after, (hreturns.renumber number _ near).ofProgram hprocedure, hstamps, hhost⟩

/-- A program that keeps the code of the current time has it ask the clock of the module. -/
theorem asksClock_of_keeps (hdeclaration : module.declaration? time = some declaration)
    (hclock : module.lookup? Symbol.clock.name = some (number { index := 0 }))
    (hcode : declaration.code =
      some { (CurrentTime.procedure layout).renumber number with near := near }) :
    program.AsksClock layout time (number { index := 0 }) := by
  have hprocedure := procedure?_of_keeps hkeeps hdeclaration hcode
  refine ⟨hkeeps.grows.lookup? hclock, ?_⟩
  intro depth world called returned stamp hcalled hstamp
  have hreturns := CurrentTime.returns_procedure
    (fun callee => program.invoke depth (number callee)) world layout hcalled
  rw [hstamp] at hreturns
  exact (hreturns.renumber number _ near).ofProgram hprocedure

end Kept

end Executable

/-! ## Clocks and times in any module -/

namespace History

variable {first : CompilationUnit} {services : List Service} {provider : Provider}
  {program : Executable σ} {wanted : Request} {time clock : FuncId}

/-- Whatever was done to a module so far, a clock that a provider with performance counters makes
there counts the time, in every program that keeps what the module has then.  The module may have
the counters already, with the signature that the provider expects. -/
theorem makes_clock (h : History first services (.provider provider))
    (hsuits : provider.Suits .clock) (horigin : provider.clock = .performanceCounter)
    (hclock : ((Provider.request wanted).leaves provider).unit.lookup? Symbol.clock.name =
      some clock)
    (hnew : provider.unit.module.declaration? clock = none)
    (hkeeps : ((Provider.request wanted).leaves provider).unit.module.Keeps program.module) :
    program.CountsTime provider.unit.timeLayout clock := by
  have hcoherent : provider.Coherent := h.account.right
  have hserves := hcoherent.request_serves wanted
  have hsymbol : Primitive.clock.symbol = .ok Symbol.clock := rfl
  rcases hserves.plan_authors hcoherent hsymbol hsuits hclock hnew with
    ⟨plan, unit, declaration, hplan, hdeclaration, hauthors, hcalls⟩
  cases hplan
  rw [horigin] at hauthors hcalls
  rcases hauthors.code_clock (hcalls _ rfl) with ⟨number, near, hcounter, hfrequency, hcode⟩
  exact Executable.countsTime_of_keeps hkeeps hdeclaration hcounter hfrequency hcode

/-- Whatever was done to a module so far, the current time that a provider makes there asks the
clock of the module, made before or now.  If the provider has performance counters and makes the
clock now, the current time returns what they count. -/
theorem makes_time (h : History first services (.provider provider))
    (hsuits : provider.Suits .currentTime)
    (htime : ((Provider.request wanted).leaves provider).unit.lookup?
      (Symbol.currentTime provider.unit.name).name = some time)
    (hnew : provider.unit.module.declaration? time = none)
    (hkeeps : ((Provider.request wanted).leaves provider).unit.module.Keeps program.module) :
    exists clock,
      ((Provider.request wanted).leaves provider).unit.lookup? Symbol.clock.name = some clock ∧
        program.AsksClock provider.unit.timeLayout time clock ∧
          (provider.clock = .performanceCounter ->
            provider.unit.module.declaration? clock = none ->
              program.CountsMillis provider.unit.timeLayout time clock) := by
  have hcoherent : provider.Coherent := h.account.right
  have hserves := hcoherent.request_serves wanted
  have hsymbol : (Primitive.currentTime provider.unit.name).symbol =
      .ok (Symbol.currentTime provider.unit.name) := rfl
  rcases hserves.plan_authors hcoherent hsymbol hsuits htime hnew with
    ⟨plan, unit, declaration, hplan, hdeclaration, hauthors, hcalls⟩
  cases hplan
  rcases hauthors.code_currentTime (hcalls _ rfl) with ⟨number, near, hclock, hcode⟩
  have hasks := Executable.asksClock_of_keeps hkeeps hdeclaration hclock hcode
  refine ⟨_, hclock, hasks, ?_⟩
  intro horigin hfresh
  exact (h.makes_clock (Provider.suits_clock hsuits) horigin hclock hfresh hkeeps).millis hasks

/-- A caller has declared one of the performance counters before the time is asked for. -/
theorem makes_time_counters :
    let unit := (CompilationUnit.declareImport "QueryPerformanceFrequency"
      Routine.querySignature).leaves (.ofModule .empty "unit"
        { os := .windows, intWidth := .unspecified } [])
    let provider := Provider.start unit .standard
    provider.unit.lookup? "QueryPerformanceFrequency" = some { index := 0 } ∧
      (((Provider.request .currentTime).leaves provider).unit.module.Keeps program.module ->
        program.CountsMillis .fields64 { index := 3 } { index := 2 }) := by
  intro unit provider
  have hlent : History unit [] (.provider provider) := History.start.lend .standard
  have hdeclared : forall plan,
      plan ∈ provider.unit.plansOf (provider.primitiveOf .currentTime) ->
        forall id, id ∈ provider.unit.lookup? plan.symbol.name ->
          provider.unit.module.signature? id = some (provider.unit.signature plan.sig) := by
    decide +kernel
  have hsuits : provider.Suits .currentTime := hdeclared
  have hfrequency : provider.unit.lookup? "QueryPerformanceFrequency" = some { index := 0 } := by
    decide +kernel
  have hlookups :
      ((Provider.request .currentTime).leaves provider).unit.lookup? Symbol.clock.name =
          some { index := 2 } ∧
        ((Provider.request .currentTime).leaves provider).unit.lookup?
            (Symbol.currentTime provider.unit.name).name = some { index := 3 } := by
    decide +kernel
  have hnew : provider.unit.module.declaration? { index := 2 } = none ∧
      provider.unit.module.declaration? { index := 3 } = none := by
    decide +kernel
  have horigin : provider.clock = .performanceCounter ∧ provider.unit.timeLayout = .fields64 := by
    decide +kernel
  refine ⟨hfrequency, ?_⟩
  intro hkeeps
  rcases makes_time hlent hsuits hlookups.right hnew.right hkeeps with
    ⟨clock, hfound, _, hcounts⟩
  rw [hlookups.left] at hfound
  cases hfound
  rw [horigin.right] at hcounts
  exact hcounts horigin.left hnew.left

end History

/-! ## Answers -/

namespace Tenure

variable {first : CompilationUnit} {visits : List Visit} {holder : Holder}
  {program : Executable σ} {layout : TimeLayout}

theorem lookup?_of_clock (h : Tenure first visits holder) {visit : Visit} (hvisit : visit ∈ visits)
    (hwanted : visit.wanted = .clock) {clock : FuncId} (hclock : visit.answer = .ok clock) :
    holder.unit.module.lookup? Symbol.clock.name = some clock := by
  rcases h.history.account.left.named visit.service (List.mem_map_of_mem hvisit) clock hclock with
    ⟨symbol, hsymbol, hlookup⟩
  have hprimitive : visit.service.primitive = .clock := by
    rw [Visit.service, Service.ofRequest, hwanted]
    rfl
  rw [hprimitive] at hsymbol
  cases hsymbol
  exact hlookup

section Layout

variable (h : Tenure first visits holder) (hfirst : first.module.functions = [])
  (hlayout : forall visit, visit ∈ visits -> visit.unit.timeLayout = layout)
  (hkeeps : holder.unit.module.Keeps program.module)

include h hfirst hlayout hkeeps

theorem countsTime (hwindows : forall visit, visit ∈ visits -> visit.unit.target.isWindows = true)
    {clock : FuncId} (hclock : holder.unit.module.lookup? Symbol.clock.name = some clock) :
    program.CountsTime layout clock := by
  rcases Module.name_of_lookup? hclock with ⟨declaration, hdeclaration, _⟩
  rcases h.code_of_clock hfirst hclock hdeclaration (.inr hwindows) with
    ⟨maker, number, near, hmaker, _, hcounter, hfrequency, hcode⟩
  rw [hlayout maker hmaker] at hcode
  exact Executable.countsTime_of_keeps hkeeps hdeclaration hcounter hfrequency hcode

theorem asksClock {visit : Visit} (hvisit : visit ∈ visits) (hwanted : visit.wanted = .currentTime)
    {time : FuncId} (htime : visit.answer = .ok time) :
    exists clock, holder.unit.module.lookup? Symbol.clock.name = some clock ∧
      program.AsksClock layout time clock := by
  rcases h.code_of_time hfirst hvisit hwanted htime with
    ⟨author, number, near, declaration, hauthor, _, hdeclaration, hclock, hcode⟩
  rw [hlayout author hauthor] at hcode
  exact ⟨_, hclock, Executable.asksClock_of_keeps hkeeps hdeclaration hclock hcode⟩

/-- What emitters with one layout of a time are answered tells the time in it.  The current time
asks the clock once, and returns the stamp that the clock has put into its slot, the seconds signed
and the rest of a second not.  Where all emitters have performance counters, the clock stamps their
readings, and the current time returns what it has stamped. -/
theorem tells_time :
    (forall visit, visit ∈ visits -> visit.wanted = .currentTime ->
      forall time, visit.answer = .ok time ->
        exists clock, program.AsksClock layout time clock) ∧
    ((forall visit, visit ∈ visits -> visit.unit.target.isWindows = true) ->
      (forall visit, visit ∈ visits -> visit.wanted = .clock ->
        forall clock, visit.answer = .ok clock -> program.CountsTime layout clock) ∧
      forall visit, visit ∈ visits -> visit.wanted = .currentTime ->
        forall time, visit.answer = .ok time ->
          exists clock, program.module.lookup? Symbol.clock.name = some clock ∧
            program.CountsMillis layout time clock) := by
  refine ⟨?_, fun hwindows => ⟨?_, ?_⟩⟩
  · intro visit hvisit hwanted time htime
    rcases h.asksClock hfirst hlayout hkeeps hvisit hwanted htime with ⟨clock, _, hasks⟩
    exact ⟨clock, hasks⟩
  · intro visit hvisit hwanted clock hclock
    exact h.countsTime hfirst hlayout hkeeps hwindows (h.lookup?_of_clock hvisit hwanted hclock)
  · intro visit hvisit hwanted time htime
    rcases h.asksClock hfirst hlayout hkeeps hvisit hwanted htime with ⟨clock, hclock, hasks⟩
    exact ⟨clock, hasks.lookup,
      (h.countsTime hfirst hlayout hkeeps hwindows hclock).millis hasks⟩

end Layout

theorem serveVisit {provider : Provider} (h : Tenure first visits (.provider provider))
    (visit : Visit) (hprovider : visit.provider = provider) :
    Tenure first (visits ++ [visit]) (.provider visit.after) := by
  subst hprovider
  exact h.serve visit.wanted

end Tenure

/-! ## Counters that are rehearsed -/

namespace Telling

def unit : CompilationUnit :=
  .ofModule .empty "unit" { os := .windows, intWidth := .unspecified } []

/-- A provider is asked for the clock, and then for the current time. -/
def early : Visit where
  provider := .start unit .standard
  wanted := .clock

def late : Visit where
  provider := early.after
  wanted := .currentTime

theorem tenure_late : Tenure unit [early, late] (.provider late.after) := by
  have hstart : Tenure unit [] (.provider (.start unit .standard)) := Tenure.start.lend .standard
  have hfirst := hstart.serveVisit early (by rw [early])
  exact hfirst.serveVisit late (by rw [late])

/-- The counter stands at fifteen, and counts ten in a second. -/
def program : Executable Rehearsal where
  module := late.after.unit.module
  name := "unit"
  table := .ofList (Host.performanceCounter 10)

def world : World Rehearsal where
  memory := .empty
  stack := 0x10000
  host := { Rehearsal.idle with counters := [15] }

/-- What the two imports are declared as. -/
def query (symbol : Symbol) : Declaration where
  name := symbol.name
  linkage := .imported
  signature := { params := [.i64], returns := [.i32] }
  code := none

theorem place_eq (a : Memory.Address) :
    BitVec.ofNat 64 (Scalar.address a).toNat + BitVec.ofNat 64 0 = a := by
  simp [Scalar.address, Scalar.toNat]

theorem delivers_counter (a : Memory.Address) (before : World Rehearsal)
    (hcounters : before.host.counters = [15]) :
    exists after, Clock.Delivers (program.invoke 1 { index := 0 }) a 15 before after := by
  have hdeclaration : program.module.declaration? { index := 0 } = some (query .queryCounter) := by
    decide +kernel
  have hbinding : program.binding? (query .queryCounter).name =
      some (.ofProgram Host.queryCounter) := by
    rw [program]
    rfl
  have hread : before.host.takeCounter.1 = 15 := by
    simp [Rehearsal.takeCounter, hcounters]
  rw [Executable.invoke_of_binding hdeclaration rfl hbinding]
  refine ⟨_, ⟨⟨_, rfl⟩, ?_, rfl⟩⟩
  exact congrArg₂ (fun place reading => before.memory.store place (Host.integer .w64 reading))
    (place_eq a) hread

theorem delivers_frequency (a : Memory.Address) (before : World Rehearsal) :
    exists after, Clock.Delivers (program.invoke 1 { index := 1 }) a 10 before after := by
  have hdeclaration : program.module.declaration? { index := 1 } =
      some (query .queryFrequency) := by
    decide +kernel
  have hbinding : program.binding? (query .queryFrequency).name =
      some (.ofProgram (Host.queryFrequency 10)) := by
    rw [program]
    rfl
  rw [Executable.invoke_of_binding hdeclaration rfl hbinding]
  refine ⟨_, ⟨⟨_, rfl⟩, ?_, rfl⟩⟩
  exact congrArg (fun place => before.memory.store place (Host.integer .w64 10)) (place_eq a)

theorem tells_time_counters :
    (exists after,
      program.Returns 2 { index := 2 } [.int .w32 7, .address 0x5000] world [.int .w32 0] after
          (Clock.effects { index := 0 } { index := 1 } .fields64 0x5000 0xfff0) ∧
        Stamp.read .fields64 after.memory 0x5000 = { seconds := 1, nanos := 5000000 }) ∧
      exists after,
        program.Returns 3 { index := 3 } [] world [.float .double 0x408f67ffffffffff#64] after
          (CurrentTime.effects { index := 2 } .fields64 0xfff0) := by
  have hearly : early.answer = .ok { index := 2 } := by decide +kernel
  have hlate : late.answer = .ok { index := 3 } := by decide +kernel
  have hunits : forall visit, visit ∈ [early, late] ->
      visit.unit.timeLayout = .fields64 ∧ visit.unit.target.isWindows = true := by
    have hboth : (early.unit.timeLayout = .fields64 ∧ early.unit.target.isWindows = true) ∧
        late.unit.timeLayout = .fields64 ∧ late.unit.target.isWindows = true := by
      decide +kernel
    simp only [List.forall_mem_cons, List.not_mem_nil]
    exact ⟨hboth.left, hboth.right, nofun⟩
  have hkeeps : (Holder.provider late.after).unit.module.Keeps program.module := by
    have hmodule : program.module = (Holder.provider late.after).unit.module := by
      rw [program, Holder.unit]
    rw [hmodule]
    exact .refl _
  have hlookups :
      program.module.lookup? Symbol.queryCounter.name = some { index := 0 } ∧
        program.module.lookup? Symbol.queryFrequency.name = some { index := 1 } ∧
          program.module.lookup? Symbol.clock.name = some { index := 2 } := by
    decide +kernel
  have hstamp : Stamp.ofCounter .fields64 15 10 = { seconds := 1, nanos := 5000000 } ∧
      (Stamp.ofCounter .fields64 15 10).millis = 0x408f67ffffffffff := by
    decide +kernel
  rcases hlookups with ⟨hzero, hone, htwo⟩
  rcases Tenure.tells_time tenure_late rfl (fun visit hvisit => (hunits visit hvisit).left) hkeeps
    with ⟨_, hcounts⟩
  rcases hcounts fun visit hvisit => (hunits visit hvisit).right with ⟨hclocks, htimes⟩
  constructor
  · rcases (hclocks early (.head _) (by rw [early]) _ hearly).returns with
      ⟨counter, frequency, hcounter, hfrequency, hreturns⟩
    rw [hzero] at hcounter
    rw [hone] at hfrequency
    cases hcounter
    cases hfrequency
    rcases delivers_counter 0xfff0 { world with stack := 0xfff0 } rfl with ⟨counted, hcounted⟩
    rcases delivers_frequency 0xfff8 counted with ⟨queried, hqueried⟩
    rcases hreturns 1 (.int .w32 7) 0x5000 15 10 world counted queried hcounted hqueried with
      ⟨after, hruns, hstamps, _⟩
    exact ⟨after, hruns, hstamps.stamp.trans hstamp.left⟩
  · rcases htimes late (.tail _ (.head _)) (by rw [late]) _ hlate with ⟨clock, hclock, hmillis⟩
    rcases hmillis.returns with ⟨counter, frequency, hcounter, hfrequency, hreturns⟩
    rw [hzero] at hcounter
    rw [hone] at hfrequency
    rw [htwo] at hclock
    cases hcounter
    cases hfrequency
    cases hclock
    rcases delivers_counter 0xffe0 { world with stack := 0xffe0 } rfl with ⟨counted, hcounted⟩
    rcases delivers_frequency 0xffe8 counted with ⟨queried, hqueried⟩
    rcases hreturns 1 15 10 world counted queried hcounted hqueried with ⟨after, hruns, _⟩
    rw [hstamp.right] at hruns
    exact ⟨after, hruns⟩

end Telling
end Provision
