import Provision.Fault
import Provision.Kernel
import Provision.Target

/-!
# Events

What the library tells about its work, and how a log shows it.
-/

namespace Provision

/-- How a module comes by its `clock_gettime`: the C library has one, or it is made from
performance counters. -/
inductive ClockOrigin where
  | posix
  | performanceCounter
  deriving DecidableEq, Repr, Inhabited

namespace ClockOrigin

def ofTarget (target : Target) : ClockOrigin :=
  if target.isWindows then performanceCounter else posix

/-- The name that a log shows. -/
def title : ClockOrigin -> String
  | posix => "Posix"
  | performanceCounter => "PerformanceCounter"

/-- The name in lower case. -/
def text : ClockOrigin -> String
  | posix => "posix"
  | performanceCounter => "performance_counter"

end ClockOrigin

inductive Event where
  | hostSymbol (symbol : String)
  | sessionOpened (module : String) (os : Platform) (hostSymbols : Nat)
  | providerCreated (module : String) (clock : ClockOrigin)
  | registryHit (function : String)
  | alreadyInModule (function : String)
  | declared (function : String)
  | synthesizing (function : String) (kernel : Kernel) (element : DataType)
  | defined (function : String) (linkage : Linkage)
  | currentTimeReady (function : FuncId) (clock : ClockOrigin)
  | linked (module : String)
  | unknownOs (value : String)
  | unsupportedIntBits (value : String)
  deriving DecidableEq, Repr

abbrev Log :=
  List Event

namespace Event

/-! ## Parts of a line -/

inductive Level where
  | trace
  | debug
  | warn
  deriving DecidableEq, Repr

namespace Level

def text : Level -> String
  | trace => "TRACE"
  | debug => "DEBUG"
  | warn => "WARN"

end Level

def level : Event -> Level
  | hostSymbol _ => .trace
  | sessionOpened _ _ _ => .debug
  | providerCreated _ _ => .debug
  | registryHit _ => .trace
  | alreadyInModule _ => .trace
  | declared _ => .debug
  | synthesizing _ _ _ => .debug
  | defined _ _ => .debug
  | currentTimeReady _ _ => .debug
  | linked _ => .debug
  | unknownOs _ => .warn
  | unsupportedIntBits _ => .warn

def message : Event -> String
  | hostSymbol _ => "registering host symbol"
  | sessionOpened _ _ _ => "JIT session opened"
  | providerCreated _ _ => "runtime provider created"
  | registryHit _ => "symbol table hit"
  | alreadyInModule _ => "module already contains function"
  | declared _ => "declared external function"
  | synthesizing _ _ _ => "synthesizing fallback kernel"
  | defined _ _ => "defined function"
  | currentTimeReady _ _ => "current time function ready"
  | linked _ => "JIT module finalized"
  | unknownOs _ => "ignoring unrecognized EMBER_TARGET_OS"
  | unsupportedIntBits _ => "ignoring unsupported EMBER_TARGET_INT_BITS"

/-- The fields with their values, in the order of the line. -/
def fields : Event -> List (String × String)
  | hostSymbol symbol => [("symbol", symbol)]
  | sessionOpened module os hostSymbols =>
      [("module", module), ("os", os.title), ("host_symbols", toString hostSymbols)]
  | providerCreated module clock => [("module", module), ("clock", clock.title)]
  | registryHit function => [("function", function)]
  | alreadyInModule function => [("function", function)]
  | declared function => [("function", function), ("linkage", Linkage.imported.text)]
  | synthesizing function kernel element =>
      [("function", function), ("kernel", kernel.name), ("element", element.text)]
  | defined function linkage => [("function", function), ("linkage", linkage.title)]
  | currentTimeReady function clock => [("function", function.text), ("clock", clock.title)]
  | linked module => [("module", module)]
  | unknownOs value => [("value", value)]
  | unsupportedIntBits value => [("value", value)]

/-! ## Lines -/

/-- Level and message, then every field behind a blank. -/
def render (event : Event) : String :=
  String.intercalate " "
    (event.level.text :: event.message ::
      event.fields.map fun field => field.1 ++ "=" ++ field.2)

end Event
end Provision
