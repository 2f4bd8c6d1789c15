import Provision.Proofs.Provider.Acceptance
import Provision.Proofs.Time.Stamp

/-!
# Code of the clock and of the current time

The procedures that the bodies of the clock over performance counters and of the current time are
compiled to, for each layout of a time.  Functions go by their places among the callees.
-/

namespace Provision

/-! ## Clock -/

namespace Clock

/-- The callees: the counter, and its frequency. -/
def callees : List Outline :=
  [Plan.queryCounter.toOutline, Plan.queryFrequency.toOutline]

/-- Room for the counter and for its frequency. -/
def slots : List StackSlot :=
  [{ size := 8, alignShift := 3 }, { size := 8, alignShift := 3 }]

theorem bottom_slots (top : Memory.Address) : StackSlot.bottom slots top = top - 16 := by
  have hsize : StackSlot.frameSize slots = 16 := by decide
  rw [StackSlot.bottom, hsize]
  rfl

theorem addresses_slots (bottom : Memory.Address) :
    StackSlot.addresses slots bottom = [bottom, bottom + 8] := by
  have hoffsets : StackSlot.offsets 0 slots = [0, 8] := by decide
  simp [StackSlot.addresses, hoffsets]

/-- Addresses of the two slots. -/
def places : List Instruction :=
  [ .slotAddress 2 0,
    .slotAddress 3 1 ]

/-- Has the counter and its frequency written to the slots. -/
def calls : List Instruction :=
  [ .call [4] { index := 0 } [2],
    .call [5] { index := 1 } [3] ]

def loads : List Instruction :=
  [ .load 6 .i64 2 0,
    .load 7 .i64 3 0 ]

/-- Divides the counter by its frequency. -/
def quotient : List Instruction :=
  [ .compute 8 (.ofSigned .f64 6),
    .compute 9 (.ofSigned .f64 7),
    .compute 10 (.float .div 8 9) ]

/-- The whole seconds. -/
def whole : List Instruction :=
  [ .compute 11 (.toSigned .i64 10),
    .compute 12 (.ofSigned .f64 11) ]

/-- What is left of a second, in ticks. -/
def rest : List Instruction :=
  [ .compute 13 (.float .sub 10 12),
    .compute 14 (.constFloat .double Routine.ticksInSecond),
    .compute 15 (.float .mul 13 14) ]

/-- Stores the fields where the second parameter points to. -/
def stores (layout : TimeLayout) : List Instruction :=
  [ .compute 16 (.toSigned (.int layout.width) 15),
    .store 16 1 layout.nanosAt,
    .compute 17 (.toSigned (.int layout.width) 12),
    .store 17 1 layout.secondsAt,
    .compute 18 (.constInt .i32 0) ]

def procedure (layout : TimeLayout) : Procedure where
  signature := { params := [.i32, .i64], returns := [.i32] }
  slots := slots
  code :=
    .ofSteps
      (places ++ (calls ++ (loads ++ (quotient ++ (whole ++ (rest ++ stores layout))))))
  results := [18]
  near := [{ index := 0 }, { index := 1 }]

theorem compiled_eq (layout : TimeLayout) :
    (Routine.counterClock { index := 0 } { index := 1 } layout).compiled?
        (Routine.clockSignature layout) (Outline.called callees) = some (procedure layout) := by
  cases layout
  · decide +kernel
  · decide +kernel

end Clock

/-! ## Current time -/

namespace CurrentTime

/-- Room for a time. -/
def slots (layout : TimeLayout) : List StackSlot :=
  [{ size := layout.size, alignShift := layout.alignShift }]

theorem bottom_slots (layout : TimeLayout) (top : Memory.Address) :
    StackSlot.bottom (slots layout) top = top - 16 := by
  have hsize : StackSlot.frameSize (slots layout) = 16 := by
    cases layout
    · decide
    · decide
  rw [StackSlot.bottom, hsize]
  rfl

theorem addresses_slots (layout : TimeLayout) (bottom : Memory.Address) :
    StackSlot.addresses (slots layout) bottom = [bottom] := by
  have hoffsets : StackSlot.offsets 0 (slots layout) = [0] := by
    cases layout
    · decide
    · decide
  simp [StackSlot.addresses, hoffsets]

/-- The arguments for the clock: its number, and the address of a slot. -/
def arguments : List Instruction :=
  [ .slotAddress 0 0,
    .compute 1 (.constInt .i32 0) ]

/-- Loads the fields that the clock has written. -/
def loads (layout : TimeLayout) : List Instruction :=
  [ .load 3 (.int layout.width) 0 layout.secondsAt,
    .load 4 (.int layout.width) 0 layout.nanosAt ]

/-- Turns the fields into numbers.  Fields of 32 bits are extended first. -/
def numbers : TimeLayout -> List Instruction
  | .fields32 =>
      [ .compute 5 (.signExtend .i64 3),
        .compute 6 (.ofSigned .f64 5),
        .compute 7 (.zeroExtend .i64 4),
        .compute 8 (.ofUnsigned .f64 7) ]
  | .fields64 =>
      [ .compute 5 (.ofSigned .f64 3),
        .compute 6 (.ofUnsigned .f64 4) ]

/-- Adds up seconds and nanoseconds and scales the sum to milliseconds. -/
def scaling (first seconds nanos : ValueId) : List Instruction :=
  [ .compute first (.constFloat .double Routine.nanosInSecond),
    .compute (first + 1) (.float .div nanos first),
    .compute (first + 2) (.float .add seconds (first + 1)),
    .compute (first + 3) (.constFloat .double Routine.millisInSecond),
    .compute (first + 4) (.float .mul (first + 2) (first + 3)) ]

/-- The values that the numbers become: seconds, nanoseconds, and the next one to be computed. -/
def values : TimeLayout -> ValueId × ValueId × ValueId
  | .fields32 => (6, 8, 9)
  | .fields64 => (5, 6, 7)

def procedure (layout : TimeLayout) : Procedure where
  signature := { params := [], returns := [.f64] }
  slots := slots layout
  code :=
    .ofSteps
      (arguments ++ (.call [2] { index := 0 } [1, 0] :: (loads layout ++ (numbers layout ++
        scaling (values layout).2.2 (values layout).1 (values layout).2.1))))
  results := [(values layout).2.2 + 4]
  near := [{ index := 0 }]

theorem compiled_eq (origin : ClockOrigin) (layout other : TimeLayout) :
    (Routine.currentTime { index := 0 } layout).compiled? Routine.currentTimeSignature
        (Outline.called [(Plan.clock origin other).toOutline]) = some (procedure layout) := by
  cases origin
  all_goals
    cases layout
    all_goals
      cases other
      all_goals decide +kernel

end CurrentTime
end Provision
