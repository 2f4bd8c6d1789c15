import Provision.Proofs.Code.Computing
import Provision.Proofs.Code.Counting
import Provision.Proofs.Time.Code

/-!
# Running the clock and the current time

What the two procedures do, whatever the functions do that they call.
-/

namespace Provision

variable {σ : Type} (invoke : FuncId -> Behaviour σ)

/-! ## Effects -/

namespace Stamp

variable (layout : TimeLayout) (a : Memory.Address)

/-- What putting a stamp does: the nanoseconds come first. -/
def puts : List Effect :=
  [ .store (nanosAt layout a) (MachineType.int layout.width).bytes,
    .store (secondsAt layout a) (MachineType.int layout.width).bytes ]

def reads : List Effect :=
  [ .load (secondsAt layout a) (MachineType.int layout.width).bytes,
    .load (nanosAt layout a) (MachineType.int layout.width).bytes ]

end Stamp

/-! ## Clock -/

namespace Clock

/-- The readings of a counter and its frequency, and the world after them. -/
structure Readings (σ : Type) where
  counter : BitVec 64
  frequency : BitVec 64
  after : World σ

/-- Has two functions write to the two slots above an address, and reads what they have written. -/
def readings? (counter frequency : Behaviour σ) (bottom : Memory.Address) (world : World σ) :
    Option (Readings σ) :=
  match counter [.address bottom] world with
  | none => none
  | some (_, counted) =>
      match frequency [.address (bottom + 8)] counted with
      | none => none
      | some (_, after) =>
          some
            { counter := after.memory.integer .w64 bottom
              frequency := after.memory.integer .w64 (bottom + 8)
              after := after }

variable {frame : Frame} {bottom : Memory.Address} (world : World σ)

theorem leads_places (hslots : frame.slots = [bottom, bottom + 8]) :
    exists after, Instruction.Leads invoke places 2 (frame, world) (after, world) [] ∧
      after.value? 2 = some (.address bottom) ∧ after.value? 3 = some (.address (bottom + 8)) := by
  refine ⟨_, (Instruction.leads_slotAddress (a := bottom) (by simp [hslots])).append (by decide)
    (Instruction.leads_slotAddress (a := bottom + 8) (by simp [hslots, Frame.bind])), ?_⟩
  simp

/-- The two functions are called in turn, each with the address of its slot.  What they return is
not used. -/
theorem leads_calls {returned more : List Scalar} {counted after : World σ}
    (hcounter : frame.value? 2 = some (.address bottom))
    (hfrequency : frame.value? 3 = some (.address (bottom + 8)))
    (hcounted : invoke { index := 0 } [.address bottom] world = some (returned, counted))
    (hafter : invoke { index := 1 } [.address (bottom + 8)] counted = some (more, after)) :
    Instruction.Leads invoke calls 4 (frame, world)
      ((frame.bindAll [4] returned).bindAll [5] more, after)
      [.call { index := 0 } [.address bottom], .call { index := 1 } [.address (bottom + 8)]] := by
  have hstill : (frame.bindAll [4] returned).value? 3 = some (.address (bottom + 8)) := by
    rw [Frame.value?_bindAll_of_not_mem _ (by decide), hfrequency]
  have hfirst : [2].mapM frame.value? = some [.address bottom] := by simp [hcounter]
  have hsecond : [3].mapM (frame.bindAll [4] returned).value? =
      some [.address (bottom + 8)] := by simp [hstill]
  have hcount : Instruction.Leads invoke [.call [4] { index := 0 } [2]] 4 (frame, world) _ _ :=
    Instruction.leads_call (by simp) hfirst hcounted
  exact hcount.append (Nat.le_refl 4) (Instruction.leads_call (by simp) hsecond hafter)

/-- The calls are stuck where one of the functions is. -/
theorem run_calls_of_stuck (hcounter : frame.value? 2 = some (.address bottom))
    (hfrequency : frame.value? 3 = some (.address (bottom + 8)))
    (hstuck : readings? (invoke { index := 0 }) (invoke { index := 1 }) bottom world = none) :
    Instruction.runAll invoke calls (frame, world) = none := by
  have hfirst : [2].mapM frame.value? = some [.address bottom] := by simp [hcounter]
  rw [calls, Instruction.runAll_cons, Instruction.run_call hfirst]
  cases hcounted : invoke { index := 0 } [.address bottom] world with
  | none => rfl
  | some outcome =>
      rcases outcome with ⟨returned, counted⟩
      have hstill : (frame.bindAll [4] returned).value? 3 = some (.address (bottom + 8)) := by
        rw [Frame.value?_bindAll_of_not_mem _ (by decide), hfrequency]
      have hsecond : [3].mapM (frame.bindAll [4] returned).value? =
          some [.address (bottom + 8)] := by simp [hstill]
      simp only [Instruction.runAll_cons, Instruction.run_call hsecond]
      cases hafter : invoke { index := 1 } [.address (bottom + 8)] counted with
      | none => rfl
      | some outcome =>
          simp only [readings?, hcounted, hafter] at hstuck
          cases hstuck

theorem leads_loads (hcounter : frame.value? 2 = some (.address bottom))
    (hfrequency : frame.value? 3 = some (.address (bottom + 8))) :
    exists after, Instruction.Leads invoke loads 6 (frame, world) (after, world)
        [.load bottom 8, .load (bottom + 8) 8] ∧
      after.value? 6 = some (.int .w64 (world.memory.integer .w64 bottom)) ∧
        after.value? 7 = some (.int .w64 (world.memory.integer .w64 (bottom + 8))) := by
  refine ⟨_, (Instruction.leads_load_here .i64 hcounter).append (by decide)
    (Instruction.leads_load_here .i64 (a := bottom + 8) (by simp [hfrequency])), ?_, ?_⟩
  · simp [MachineType.i64, Memory.load_integer]
  · simp [MachineType.i64, Memory.load_integer]

variable {counter frequency : BitVec 64} {time part : Binary.Pattern .double}

theorem leads_quotient (hcounter : frame.value? 6 = some (.int .w64 counter))
    (hfrequency : frame.value? 7 = some (.int .w64 frequency)) :
    exists after, Instruction.Leads invoke quotient 8 (frame, world) (after, world) [] ∧
      after.value? 10 = some (.float .double (Stamp.elapsed counter frequency)) := by
  let first := frame.bind 8 (.float .double (.ofInt .double counter.toInt))
  let second := first.bind 9 (.float .double (.ofInt .double frequency.toInt))
  have hstill : first.value? 7 = some (.int .w64 frequency) := by simp [first, hfrequency]
  have hdividend := Operation.eval_ofSigned .double hcounter
  have hdivisor := Operation.eval_ofSigned .double hstill
  have hquotient : (Operation.float .div 8 9).eval second.value? =
      some (.float .double (Stamp.elapsed counter frequency)) :=
    Operation.eval_float .div (by simp [second, first]) (by simp [second])
  refine ⟨_, (Instruction.leads_compute hdividend).append (by decide)
    ((Instruction.leads_compute hdivisor).append (by decide)
      (Instruction.leads_compute hquotient)), ?_⟩
  simp

theorem leads_whole (htime : frame.value? 10 = some (.float .double time)) :
    exists after, Instruction.Leads invoke whole 11 (frame, world) (after, world) [] ∧
      after.value? 12 = some (.float .double (Stamp.whole time)) := by
  let seconds := BitVec.ofInt 64 (time.toInt 64)
  let first := frame.bind 11 (.int .w64 seconds)
  have hinteger := Operation.eval_toSigned .w64 htime
  have hnumber : (Operation.ofSigned .f64 11).eval first.value? =
      some (.float .double (Stamp.whole time)) :=
    Operation.eval_ofSigned .double (w := .w64) (x := seconds) (by simp [first])
  refine ⟨_, (Instruction.leads_compute hinteger).append (by decide)
    (Instruction.leads_compute hnumber), ?_⟩
  simp

theorem leads_rest (htime : frame.value? 10 = some (.float .double time))
    (hpart : frame.value? 12 = some (.float .double part)) :
    exists after, Instruction.Leads invoke rest 13 (frame, world) (after, world) [] ∧
      after.value? 15 =
        some (.float .double ((time.sub part).mul Routine.ticksInSecond)) := by
  let first := frame.bind 13 (.float .double (time.sub part))
  let second := first.bind 14 (.float .double Routine.ticksInSecond)
  have hdifference := Operation.eval_float .sub htime hpart
  have hscale : (Operation.constFloat .double Routine.ticksInSecond).eval first.value? =
      some (.float .double Routine.ticksInSecond) := rfl
  have hticks : (Operation.float .mul 13 14).eval second.value? =
      some (.float .double ((time.sub part).mul Routine.ticksInSecond)) :=
    Operation.eval_float .mul (by simp [second, first]) (by simp [second])
  refine ⟨_, (Instruction.leads_compute hdifference).append (by decide)
    ((Instruction.leads_compute hscale).append (by decide)
      (Instruction.leads_compute hticks)), ?_⟩
  simp

/-- The fields are stored, the nanoseconds first. -/
theorem leads_stores (layout : TimeLayout) {ticks : Binary.Pattern .double} {a : Memory.Address}
    (hpart : frame.value? 12 = some (.float .double part))
    (hticks : frame.value? 15 = some (.float .double ticks))
    (htime : frame.value? 1 = some (.address a)) :
    exists after, Instruction.Leads invoke (stores layout) 16 (frame, world)
        (after,
          world.onMemory fun memory =>
            Stamp.put { seconds := Stamp.field layout part, nanos := Stamp.field layout ticks }
              memory a)
        (Stamp.puts layout a) ∧
      after.value? 18 = some (.int .w32 0) := by
  let first := frame.bind 16 (.int layout.width (Stamp.field layout ticks))
  let second := first.bind 17 (.int layout.width (Stamp.field layout part))
  have hnanos : (Operation.toSigned (.int layout.width) 15).eval frame.value? =
      some (.int layout.width (Stamp.field layout ticks)) :=
    Operation.eval_toSigned layout.width hticks
  have hseconds : (Operation.toSigned (.int layout.width) 12).eval first.value? =
      some (.int layout.width (Stamp.field layout part)) :=
    Operation.eval_toSigned layout.width (by simp [first, hpart])
  have hstatus : (Operation.constInt .i32 0).eval second.value? = some (.int .w32 0) := rfl
  have hsixteen : first.value? 16 = some (.int layout.width (Stamp.field layout ticks)) := by
    simp [first]
  have hplace : first.value? 1 = some (.address a) := by simp [first, htime]
  have hseventeen : second.value? 17 = some (.int layout.width (Stamp.field layout part)) := by
    simp [second]
  have hstill : second.value? 1 = some (.address a) := by simp [second, hplace]
  refine ⟨_, (Instruction.leads_compute hnanos).append (by decide)
    ((Instruction.leads_store 17 _ hsixteen hplace).append (by decide)
      ((Instruction.leads_compute hseconds).append (by decide)
        ((Instruction.leads_store 18 _ hseventeen hstill).append (by decide)
          (Instruction.leads_compute hstatus)))), ?_⟩
  simp

/-- The stamp of what the slots hold is put where the second parameter points to. -/
theorem leads_stamp (layout : TimeLayout) {a : Memory.Address}
    (htime : frame.value? 1 = some (.address a))
    (hcounter : frame.value? 2 = some (.address bottom))
    (hfrequency : frame.value? 3 = some (.address (bottom + 8))) :
    exists after,
      Instruction.Leads invoke (loads ++ (quotient ++ (whole ++ (rest ++ stores layout)))) 6
          (frame, world)
          (after,
            world.onMemory
              ((Stamp.ofCounter layout (world.memory.integer .w64 bottom)
                (world.memory.integer .w64 (bottom + 8))).put · a))
          (.load bottom 8 :: .load (bottom + 8) 8 :: Stamp.puts layout a) ∧
        after.value? 18 = some (.int .w32 0) := by
  rcases leads_loads invoke world hcounter hfrequency with ⟨loaded, hloaded, hsix, hseven⟩
  rcases leads_quotient invoke world hsix hseven with ⟨divided, hdivided, hten⟩
  rcases leads_whole invoke world hten with ⟨parted, hparted, htwelve⟩
  rcases leads_rest invoke world (hparted.keeps.value? hten (by decide)) htwelve with
    ⟨rested, hrested, hfifteen⟩
  have hkeeps : frame.Keeps 6 rested :=
    (hloaded.keeps.trans (by decide) hdivided.keeps).trans (by decide)
      (hparted.keeps.trans (by decide) hrested.keeps)
  rcases leads_stores invoke world layout (hrested.keeps.value? htwelve (by decide)) hfifteen
    (hkeeps.value? htime (by decide)) with ⟨last, hlast, hstatus⟩
  exact ⟨last, hloaded.append (by decide) (hdivided.append (by decide)
    (hparted.append (by decide) (hrested.append (by decide) hlast))), hstatus⟩

/-- What a clock over two functions does itself, given the address of a time and the bottom of its
frame. -/
def effects (counter frequency : FuncId) (layout : TimeLayout) (a bottom : Memory.Address) :
    List Effect :=
  .call counter [.address bottom] :: .call frequency [.address (bottom + 8)] ::
    .load bottom 8 :: .load (bottom + 8) 8 :: Stamp.puts layout a

theorem readings?_eq_some {counter frequency : Behaviour σ} {bottom : Memory.Address}
    {readings : Readings σ} (h : readings? counter frequency bottom world = some readings) :
    exists returned more counted,
      counter [.address bottom] world = some (returned, counted) ∧
        frequency [.address (bottom + 8)] counted = some (more, readings.after) ∧
          readings.counter = readings.after.memory.integer .w64 bottom ∧
            readings.frequency = readings.after.memory.integer .w64 (bottom + 8) := by
  unfold readings? at h
  cases hcounted : counter [.address bottom] world with
  | none =>
      rw [hcounted] at h
      cases h
  | some outcome =>
      rcases outcome with ⟨returned, counted⟩
      cases hafter : frequency [.address (bottom + 8)] counted with
      | none =>
          simp only [hcounted, hafter] at h
          cases h
      | some outcome =>
          simp only [hcounted, hafter, Option.some.injEq] at h
          subst h
          exact ⟨returned, outcome.1, counted, rfl, hafter, rfl, rfl⟩

/-- The clock has the counter and its frequency written to its slots, and puts their stamp where it
was told to. -/
theorem returns_procedure (layout : TimeLayout) (number : Scalar) (a : Memory.Address)
    {readings : Readings σ}
    (h : readings? (invoke { index := 0 }) (invoke { index := 1 }) (world.stack - 16)
      { world with stack := world.stack - 16 } = some readings) :
    (procedure layout).Returns invoke [number, .address a] world [.int .w32 0]
      { memory :=
          (Stamp.ofCounter layout readings.counter readings.frequency).put readings.after.memory a
        stack := world.stack
        host := readings.after.host }
      (effects { index := 0 } { index := 1 } layout a (world.stack - 16)) := by
  let lowered : World σ := { world with stack := world.stack - 16 }
  let start := Frame.start [number, .address a] [world.stack - 16, world.stack - 16 + 8]
  rcases readings?_eq_some lowered h with
    ⟨returned, more, counted, hcounted, hafter, hcounter, hfrequency⟩
  have hslots : start.slots = [world.stack - 16, world.stack - 16 + 8] := rfl
  rcases leads_places invoke lowered hslots with ⟨ready, hready, htwo, hthree⟩
  have hcalls := leads_calls invoke lowered htwo hthree hcounted hafter
  have hone : ready.value? 1 = some (.address a) := hready.keeps.value? rfl (by decide)
  rcases leads_stamp invoke readings.after layout (hcalls.keeps.value? hone (by decide))
    (hcalls.keeps.value? htwo (by decide)) (hcalls.keeps.value? hthree (by decide)) with
    ⟨last, hlast, hstatus⟩
  rw [← hcounter, ← hfrequency] at hlast
  have hresults : [18].mapM last.value? = some [.int .w32 0] := by simp [hstatus]
  exact (procedure layout).returns_of_code (bottom_slots world.stack)
    (addresses_slots (world.stack - 16))
    (hready.append (by decide) (hcalls.append (by decide) hlast)).ofSteps hresults

theorem run_procedure (layout : TimeLayout) (number : Scalar) (a : Memory.Address) :
    (procedure layout).run invoke [number, .address a] world =
      match readings? (invoke { index := 0 }) (invoke { index := 1 }) (world.stack - 16)
        { world with stack := world.stack - 16 } with
      | none => none
      | some readings =>
          some ([.int .w32 0],
            { memory :=
                (Stamp.ofCounter layout readings.counter readings.frequency).put
                  readings.after.memory a
              stack := world.stack
              host := readings.after.host }) := by
  let lowered : World σ := { world with stack := world.stack - 16 }
  cases hreadings : readings? (invoke { index := 0 }) (invoke { index := 1 }) (world.stack - 16)
    lowered with
  | none =>
      let start := Frame.start [number, .address a] [world.stack - 16, world.stack - 16 + 8]
      have hslots : start.slots = [world.stack - 16, world.stack - 16 + 8] := rfl
      rcases leads_places invoke lowered hslots with ⟨ready, hready, htwo, hthree⟩
      have hstuck := run_calls_of_stuck invoke lowered htwo hthree hreadings
      simp only [Procedure.run, procedure, bottom_slots, addresses_slots]
      rw [Region.run_ofSteps, Instruction.runAll_append, hready.runs]
      simp only
      rw [Instruction.runAll_append, hstuck]
      rfl
  | some readings => exact (returns_procedure invoke world layout number a hreadings).runs

end Clock

/-! ## Current time -/

namespace CurrentTime

variable {frame : Frame} {bottom : Memory.Address} (world : World σ)

theorem leads_arguments (hslots : frame.slots = [bottom]) :
    exists after, Instruction.Leads invoke arguments 0 (frame, world) (after, world) [] ∧
      after.value? 0 = some (.address bottom) ∧ after.value? 1 = some (.int .w32 0) := by
  have hnumber : (Operation.constInt .i32 0).eval (frame.bind 0 (.address bottom)).value? =
      some (.int .w32 0) := rfl
  refine ⟨_, (Instruction.leads_slotAddress (a := bottom) (by simp [hslots])).append (by decide)
    (Instruction.leads_compute hnumber), ?_⟩
  simp

theorem leads_loads (layout : TimeLayout) (htime : frame.value? 0 = some (.address bottom)) :
    exists after, Instruction.Leads invoke (loads layout) 3 (frame, world) (after, world)
        (Stamp.reads layout bottom) ∧
      after.value? 3 =
          some (.int layout.width (Stamp.read layout world.memory bottom).seconds) ∧
        after.value? 4 =
          some (.int layout.width (Stamp.read layout world.memory bottom).nanos) := by
  refine ⟨_, (Instruction.leads_load _ _ htime).append (by decide)
    (Instruction.leads_load _ _ (a := bottom) (by simp [htime])), ?_, ?_⟩
  · simp [Memory.load_integer, Stamp.read, Stamp.secondsAt]
  · simp [Memory.load_integer, Stamp.read, Stamp.nanosAt]

/-- The seconds are taken as a signed number, and the nanoseconds as one without a sign. -/
theorem leads_numbers {layout : TimeLayout} (stamp : Stamp layout)
    (hseconds : frame.value? 3 = some (.int layout.width stamp.seconds))
    (hnanos : frame.value? 4 = some (.int layout.width stamp.nanos)) :
    exists after,
      Instruction.Leads invoke (numbers layout) 5 (frame, world) (after, world) [] ∧
        after.value? (values layout).1 =
            some (.float .double (.ofInt .double stamp.seconds.toInt)) ∧
          after.value? (values layout).2.1 =
            some (.float .double (.ofInt .double stamp.nanos.toNat)) := by
  cases layout with
  | fields32 =>
      let first := frame.bind 5 (.int .w64 (stamp.seconds.signExtend 64))
      let second := first.bind 6 (.float .double (.ofInt .double stamp.seconds.toInt))
      let third := second.bind 7 (.int .w64 (stamp.nanos.setWidth 64))
      have hextended : (stamp.seconds.signExtend 64).toInt = stamp.seconds.toInt :=
        BitVec.toInt_signExtend_of_le (by decide)
      have hwidened : (stamp.nanos.setWidth 64).toNat = stamp.nanos.toNat :=
        BitVec.toNat_setWidth_of_le (by decide)
      have hfive := Operation.eval_signExtend .w64 hseconds
      have hsix : (Operation.ofSigned .f64 5).eval first.value? =
          some (.float .double (.ofInt .double stamp.seconds.toInt)) := by
        rw [← hextended]
        exact Operation.eval_ofSigned .double (w := .w64) (by simp [first])
      have hseven : (Operation.zeroExtend .i64 4).eval second.value? =
          some (.int .w64 (stamp.nanos.setWidth 64)) :=
        Operation.eval_zeroExtend .w64 (v := .w32)
          (by simp [second, first, hnanos, TimeLayout.width])
      have height : (Operation.ofUnsigned .f64 7).eval third.value? =
          some (.float .double (.ofInt .double stamp.nanos.toNat)) := by
        rw [← hwidened]
        exact Operation.eval_ofUnsigned .double (w := .w64) (by simp [third])
      refine ⟨_, (Instruction.leads_compute hfive).append (by decide)
        ((Instruction.leads_compute hsix).append (by decide)
          ((Instruction.leads_compute hseven).append (by decide)
            (Instruction.leads_compute height))), ?_⟩
      simp [values, second]
  | fields64 =>
      let first := frame.bind 5 (.float .double (.ofInt .double stamp.seconds.toInt))
      have hfive := Operation.eval_ofSigned .double hseconds
      have hsix : (Operation.ofUnsigned .f64 4).eval first.value? =
          some (.float .double (.ofInt .double stamp.nanos.toNat)) :=
        Operation.eval_ofUnsigned .double (w := .w64) (by simp [first, hnanos, TimeLayout.width])
      refine ⟨_, (Instruction.leads_compute hfive).append (by decide)
        (Instruction.leads_compute hsix), ?_⟩
      simp [values]

theorem leads_scaling (first : ValueId) {seconds nanos : ValueId} {x y : Binary.Pattern .double}
    (hseconds : frame.value? seconds = some (.float .double x))
    (hnanos : frame.value? nanos = some (.float .double y)) (hsecondsLt : seconds < first)
    (hnanosLt : nanos < first) :
    exists after,
      Instruction.Leads invoke (scaling first seconds nanos) first (frame, world) (after, world)
          [] ∧
        after.value? (first + 4) =
          some (.float .double
            ((x.add (y.div Routine.nanosInSecond)).mul Routine.millisInSecond)) := by
  let one := frame.bind first (.float .double Routine.nanosInSecond)
  let two := one.bind (first + 1) (.float .double (y.div Routine.nanosInSecond))
  let three := two.bind (first + 2) (.float .double (x.add (y.div Routine.nanosInSecond)))
  let four := three.bind (first + 3) (.float .double Routine.millisInSecond)
  have hsecondsNe : seconds ≠ first := Nat.ne_of_lt hsecondsLt
  have hsecondsNext : seconds ≠ first + 1 := Nat.ne_of_lt (Nat.lt_succ_of_lt hsecondsLt)
  have hnanosNe : nanos ≠ first := Nat.ne_of_lt hnanosLt
  have hscale : (Operation.constFloat .double Routine.nanosInSecond).eval frame.value? =
      some (.float .double Routine.nanosInSecond) := rfl
  have hfraction : (Operation.float .div nanos first).eval one.value? =
      some (.float .double (y.div Routine.nanosInSecond)) :=
    Operation.eval_float .div (by simp [one, hnanos, hnanosNe]) (by simp [one])
  have htotal : (Operation.float .add seconds (first + 1)).eval two.value? =
      some (.float .double (x.add (y.div Routine.nanosInSecond))) :=
    Operation.eval_float .add (by simp [two, one, hseconds, hsecondsNe, hsecondsNext])
      (by simp [two])
  have hlarge : (Operation.constFloat .double Routine.millisInSecond).eval three.value? =
      some (.float .double Routine.millisInSecond) := rfl
  have hmillis : (Operation.float .mul (first + 2) (first + 3)).eval four.value? =
      some (.float .double
        ((x.add (y.div Routine.nanosInSecond)).mul Routine.millisInSecond)) :=
    Operation.eval_float .mul (by simp [four, three]) (by simp [four])
  refine ⟨_, (Instruction.leads_compute hscale).append (Nat.le_succ first)
    ((Instruction.leads_compute hfraction).append (Nat.le_succ (first + 1))
      ((Instruction.leads_compute htotal).append (Nat.le_succ (first + 2))
        ((Instruction.leads_compute hlarge).append (Nat.le_succ (first + 3))
          (Instruction.leads_compute hmillis)))), ?_⟩
  simp

/-- What the current time over a clock does itself, given the bottom of its frame. -/
def effects (clock : FuncId) (layout : TimeLayout) (bottom : Memory.Address) : List Effect :=
  .call clock [.int .w32 0, .address bottom] :: Stamp.reads layout bottom

/-- The current time has the clock write to its slot, and returns the stamp in the slot in
milliseconds. -/
theorem returns_procedure (layout : TimeLayout) {returned : List Scalar} {after : World σ}
    (hclock : invoke { index := 0 } [.int .w32 0, .address (world.stack - 16)]
      { world with stack := world.stack - 16 } = some (returned, after)) :
    (procedure layout).Returns invoke [] world
      [.float .double (Stamp.read layout after.memory (world.stack - 16)).millis]
      { after with stack := world.stack }
      (effects { index := 0 } layout (world.stack - 16)) := by
  let bottom := world.stack - 16
  let lowered : World σ := { world with stack := bottom }
  let start := Frame.start [] [bottom]
  have hslots : start.slots = [bottom] := rfl
  rcases leads_arguments invoke lowered hslots with ⟨ready, hready, hzero, hone⟩
  have harguments : [1, 0].mapM ready.value? = some [.int .w32 0, .address bottom] := by
    simp [hzero, hone]
  have hcalled : Instruction.Leads invoke [.call [2] { index := 0 } [1, 0]] 2 (ready, lowered) _
      _ :=
    Instruction.leads_call (by simp) harguments hclock
  rcases leads_loads invoke after layout (hcalled.keeps.value? hzero (by decide)) with
    ⟨loaded, hloaded, hthree, hfour⟩
  rcases leads_numbers invoke after (Stamp.read layout after.memory bottom) hthree hfour with
    ⟨numbered, hnumbered, hseconds, hnanos⟩
  rcases leads_scaling invoke after (values layout).2.2 hseconds hnanos
    (by cases layout <;> decide) (by cases layout <;> decide) with ⟨last, hlast, hmillis⟩
  have hrest := hloaded.append (by decide) (hnumbered.append
    (by cases layout <;> decide) hlast)
  have hresults : (procedure layout).results.mapM last.value? =
      some [.float .double (Stamp.read layout after.memory bottom).millis] := by
    simp [procedure, hmillis, Stamp.millis]
  exact (procedure layout).returns_of_code (bottom_slots layout world.stack)
    (addresses_slots layout bottom)
    (hready.append (by decide) (hcalled.append (by decide) hrest)).ofSteps hresults

theorem run_procedure (layout : TimeLayout) :
    (procedure layout).run invoke [] world =
      match invoke { index := 0 } [.int .w32 0, .address (world.stack - 16)]
        { world with stack := world.stack - 16 } with
      | none => none
      | some (_, after) =>
          some ([.float .double (Stamp.read layout after.memory (world.stack - 16)).millis],
            { after with stack := world.stack }) := by
  let bottom := world.stack - 16
  let lowered : World σ := { world with stack := bottom }
  cases hclock : invoke { index := 0 } [.int .w32 0, .address bottom] lowered with
  | none =>
      let start := Frame.start [] [bottom]
      have hslots : start.slots = [bottom] := rfl
      rcases leads_arguments invoke lowered hslots with ⟨ready, hready, hzero, hone⟩
      have harguments : [1, 0].mapM ready.value? = some [.int .w32 0, .address bottom] := by
        simp [hzero, hone]
      simp only [Procedure.run, procedure, bottom_slots, addresses_slots]
      rw [Region.run_ofSteps, Instruction.runAll_append, hready.runs]
      simp only
      rw [Instruction.runAll_cons, Instruction.run_call harguments, hclock]
      rfl
  | some outcome => exact (returns_procedure invoke world layout hclock).runs

end CurrentTime
end Provision
