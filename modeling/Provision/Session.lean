import Provision.Executable
import Provision.Provider

/-!
# Sessions

A session builds a module over a host table and links it in the end.
-/

namespace Provision

/-! ## Linkers -/

/-- What a linker has been told, in the order in which it was told. -/
structure Linker (ρ : Type) where
  symbols : List (String × ρ)

namespace Linker

variable {ρ : Type}

def empty : Linker ρ where
  symbols := []

/-- Tells a linker what a name stands for. -/
def define (linker : Linker ρ) (name : String) (meaning : ρ) : Linker ρ where
  symbols := linker.symbols ++ [(name, meaning)]

/-- What a name stands for; of several meanings the linker keeps the last one. -/
def resolve? (linker : Linker ρ) (name : String) : Option ρ :=
  linker.symbols.reverse.lookup name

end Linker

/-- Tells a linker every entry of a table in turn. -/
def HostTable.register {ρ : Type} (table : HostTable ρ) (linker : Linker ρ) : Linker ρ :=
  table.entries.foldl (fun linker entry => linker.define entry.1 entry.2) linker

/-! ## Sessions -/

structure Session (σ : Type) where
  unit : CompilationUnit
  table : HostTable (HostFunction σ)

namespace Session

variable {σ : Type}

/-- The events of registering a table, in its order, and of opening a session over it. -/
def openingLog (name : String) (target : Target) (table : HostTable (HostFunction σ)) :
    Log :=
  table.names.map Event.hostSymbol ++ [.sessionOpened name target.os table.size]

/-- A session with an empty module. -/
def start (name : String) (target : Target) (table : HostTable (HostFunction σ)) :
    Session σ where
  unit := .ofModule .empty name target (openingLog name target table)
  table := table

/-- The linker of a session, which is told the table when the session is opened. -/
def linker (session : Session σ) : Linker (HostFunction σ) :=
  session.table.register .empty

def executable (session : Session σ) : Executable σ where
  module := session.unit.module
  name := session.unit.name
  table := session.table

/-- The first call, in code of the module or of one of the given functions, that does not reach
its target. -/
def unbound? (session : Session σ) (entries : List FuncId) : Option Call :=
  let program := session.executable
  (program.calls ++ entries.map program.entry).find? fun call => !program.reaches call

/-- Links the module.  Not to be able to bind a call is misuse. -/
def link (session : Session σ) (entries : List FuncId) : Except Misuse (Executable σ × Log) :=
  match session.unbound? entries with
  | some call => .error (.unbound call.callee)
  | none => .ok (session.executable, [.linked session.unit.name])

end Session
end Provision
