import Provision.Host.Library
import Provision.Lowering
import Provision.Request

/-!
# Rehearsed hosts

Host functions that take their readings from lists and keep a record of their calls: performance
counters, a clock, and a matrix library with its threads.
-/

namespace Provision

/-- A call with the arguments that are worth keeping. -/
structure HostCall where
  name : String
  arguments : List Scalar
  deriving Repr

/-- The calls so far, the readings to come and the number of threads. -/
structure Rehearsal where
  calls : List HostCall
  counters : List Int
  times : List (Int × Int)
  threads : Int
  deriving Repr

namespace Rehearsal

def idle : Rehearsal where
  calls := []
  counters := []
  times := []
  threads := 0

def record (host : Rehearsal) (symbol : Symbol) (arguments : List Scalar) : Rehearsal :=
  { host with calls := host.calls ++ [{ name := symbol.name, arguments := arguments }] }

def forgetCalls (host : Rehearsal) : Rehearsal :=
  { host with calls := [] }

/-! ## Readings -/

/-- The readings after the first one; the last one stays for ever. -/
def later {α : Type} : List α -> List α
  | _ :: second :: rest => second :: rest
  | readings => readings

/-- Takes a reading of the counter. -/
def takeCounter (host : Rehearsal) : Int × Rehearsal :=
  (host.counters.headD 0, { host with counters := later host.counters })

/-- Takes a reading of the clock. -/
def takeTime (host : Rehearsal) : (Int × Int) × Rehearsal :=
  (host.times.headD (0, 0), { host with times := later host.times })

end Rehearsal

namespace Host

abbrev Rehearsed :=
  Behaviour Rehearsal

def integer (width : Width) (n : Int) : Scalar :=
  .int width (BitVec.ofInt width.bits n)

/-- What a function returns that returns a status. -/
def status (n : Int) : List Scalar :=
  [integer .w32 n]

/-- Stores a value at an offset from where an argument points to. -/
def storeAt (world : World Rehearsal) (pointer : Scalar) (offset : Nat) (value : Scalar) :
    Option (World Rehearsal) := do
  let address ← pointer.asAddress?
  some { world with memory := world.memory.store (address + BitVec.ofNat 64 offset) value }

/-- Stores a value where an argument points to, unless it is null. -/
def storeUnlessNull (world : World Rehearsal) (pointer value : Scalar) :
    Option (World Rehearsal) := do
  let address ← pointer.asAddress?
  if address = 0 then some world else storeAt world pointer 0 value

/-! ## Elementary functions -/

/-- A function that takes the place of an elementary one: twice the argument and one. -/
def affine : Rehearsed :=
  unary .double fun x => (x.mul (.ofInt .double 2)).add (.ofInt .double 1)

/-! ## Performance counters -/

def queryCounter : Rehearsed :=
  Convention.accepting [.i64] fun
    | [pointer], world => do
        let (reading, host) := world.host.takeCounter
        let world ← storeAt world pointer 0 (integer .w64 reading)
        some (status 1, { world with host := host.record Symbol.queryCounter [] })
    | _, _ => none

def queryFrequency (frequency : Int) : Rehearsed :=
  Convention.accepting [.i64] fun
    | [pointer], world => do
        let world ← storeAt world pointer 0 (integer .w64 frequency)
        some (status 1, { world with host := world.host.record Symbol.queryFrequency [] })
    | _, _ => none

def performanceCounter (frequency : Int) : List (String × HostFunction Rehearsal) :=
  [ (Symbol.queryCounter.name, .ofProgram queryCounter),
    (Symbol.queryFrequency.name, .ofProgram (queryFrequency frequency)) ]

/-! ## Clock -/

/-- Stores the next time as two consecutive integers. -/
def clock (width : Width) (result : Int) : Rehearsed :=
  Convention.accepting [.i32, .i64] fun
    | [id, pointer], world => do
        let ((seconds, nanos), host) := world.host.takeTime
        let world ← storeAt world pointer 0 (integer width seconds)
        let world ← storeAt world pointer (width.bits / 8) (integer width nanos)
        some (status result, { world with host := host.record Symbol.clock [id] })
    | _, _ => none

/-! ## Matrix library -/

/-- Parameters of a kernel over elements of a format. -/
def kernelParams (kernel : Kernel) (format : Binary.Format) : List MachineType :=
  let element : DataType :=
    match format with
    | .single => .float32
    | .double => .float64
  ((Lowering.ofTarget .host .i64).signature (kernel.signature element)).params

def minusOne (format : Binary.Format) : Scalar :=
  .float format (.ofInt format (-1))

/-- A matrix-vector product that stores minus one as its first element. -/
def gemv (format : Binary.Format) (symbol : Symbol) (result : Int) : Rehearsed :=
  Convention.accepting (kernelParams .gemv format) fun
    | [order, flag, m, n, alpha, _, lda, _, incx, beta, y, incy], world => do
        let world ← storeUnlessNull world y (minusOne format)
        let kept := [order, flag, m, n, alpha, lda, incx, beta, incy]
        some (status result, { world with host := world.host.record symbol kept })
    | _, _ => none

/-- A matrix-matrix product that stores minus one as its first element. -/
def gemm (format : Binary.Format) (symbol : Symbol) (result : Int) : Rehearsed :=
  Convention.accepting (kernelParams .gemm format) fun
    | [order, flagA, flagB, m, n, k, alpha, _, lda, _, ldb, beta, c, ldc], world => do
        let world ← storeUnlessNull world c (minusOne format)
        let kept := [order, flagA, flagB, m, n, k, alpha, lda, ldb, beta, ldc]
        some (status result, { world with host := world.host.record symbol kept })
    | _, _ => none

def matrixLibrary (result : Int) : List (String × HostFunction Rehearsal) :=
  [ ("cblas_sgemv", .ofProgram (gemv .single (.shared "cblas_sgemv") result)),
    ("cblas_dgemv", .ofProgram (gemv .double (.shared "cblas_dgemv") result)),
    ("cblas_sgemm", .ofProgram (gemm .single (.shared "cblas_sgemm") result)),
    ("cblas_dgemm", .ofProgram (gemm .double (.shared "cblas_dgemm") result)) ]

/-! ## Threads -/

def getThreads (width : Width) : Rehearsed :=
  Convention.accepting [] fun _ world => some ([integer width world.host.threads], world)

def setThreads (width : Width) : Rehearsed :=
  Convention.accepting [.int width] fun
    | [count], world =>
        let host := world.host.record Symbol.setThreads [count]
        some ([], { world with host := { host with threads := count.signed } })
    | _, _ => none

def threads (width : Width) : List (String × HostFunction Rehearsal) :=
  [ (Symbol.getThreads.name, .ofProgram (getThreads width)),
    (Symbol.setThreads.name, .ofProgram (setThreads width)) ]

end Host
end Provision
