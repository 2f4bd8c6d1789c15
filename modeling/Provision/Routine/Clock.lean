import Provision.Binary.Convert
import Provision.Lowering
import Provision.Script
import Provision.TimeLayout

/-!
# Clocks and wrappers

The bodies of a clock over performance counters and of the function that tells the current time
in milliseconds, with the signatures they have, and wrappers around single instructions.
-/

namespace Provision
namespace Routine

/-! ## One instruction -/

/-- Applies a function to the only parameter. -/
def wrapper (function : FloatFunction) : Body where
  script :=
    .ofSteps
      [ .param "arg" 0,
        .unary "result" function "arg" ]
  returns := ["result"]

/-! ## Clock -/

/-- Number of the clock and pointer to a time; a status. -/
def clockSignature (layout : TimeLayout) : Signature :=
  .query [.int32, layout.field.pointerTo] .int32

/-- Pointer to a counter; a status. -/
def querySignature : Signature :=
  .query [DataType.int64.pointerTo] .int32

/-- Parts that the rest of a second is counted in. -/
def ticksInSecond : Binary.Pattern .double :=
  .ofInt .double 10000000

/-- Divides the counter by its frequency.  The whole seconds and the rest, in ticks, become the
time that the second parameter points to; the rest is stored first. -/
def counterClock (queryCounter queryFrequency : FuncId) (layout : TimeLayout) : Body where
  script :=
    .ofSteps
      [ .param "time" 1,
        .reserve "counter" 8 3,
        .reserve "frequency" 8 3,
        .call [] queryCounter ["counter"],
        .call [] queryFrequency ["frequency"],
        .load "counter" .int64 "counter" 0,
        .load "frequency" .int64 "frequency" 0,
        .fromSigned "counter" .float64 "counter",
        .fromSigned "frequency" .float64 "frequency",
        .float "elapsed" .div "counter" "frequency",
        .truncate "whole" .int64 "elapsed",
        .fromSigned "whole" .float64 "whole",
        .float "rest" .sub "elapsed" "whole",
        .constFloat "scale" .float64 ticksInSecond,
        .mul "ticks" .float64 "rest" "scale",
        .truncate "nanos" layout.field "ticks",
        .store "nanos" "time" layout.nanosAt,
        .truncate "seconds" layout.field "whole",
        .store "seconds" "time" layout.secondsAt,
        .constInt "status" .int32 0 ]
  returns := ["status"]

/-! ## Current time -/

def currentTimeSignature : Signature :=
  .query [] .float64

/-- Number of the clock that the current time is read from. -/
def realTime : Int :=
  0

def nanosInSecond : Binary.Pattern .double :=
  .ofInt .double 1000000000

def millisInSecond : Binary.Pattern .double :=
  .ofInt .double 1000

/-- Reads the clock and returns its time in milliseconds. -/
def currentTime (clock : FuncId) (layout : TimeLayout) : Body where
  script :=
    .ofSteps
      [ .reserve "time" layout.size layout.alignShift,
        .constInt "clock" .int32 realTime,
        .call [] clock ["clock", "time"],
        .load "seconds" layout.field "time" layout.secondsAt,
        .load "nanos" layout.field "time" layout.nanosAt,
        .fromSigned "seconds" .float64 "seconds",
        .fromUnsigned "nanos" .float64 "nanos",
        .constFloat "scale" .float64 nanosInSecond,
        .float "fraction" .div "nanos" "scale",
        .add "total" .float64 "seconds" "fraction",
        .constFloat "scale" .float64 millisInSecond,
        .mul "millis" .float64 "total" "scale" ]
  returns := ["millis"]

end Routine
end Provision
