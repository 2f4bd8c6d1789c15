import Provision.Association

/-!
# Host tables

A host table gives meanings to names.  Each name is there once, and the names stand in the order in
which they were inserted last.
-/

namespace Provision

structure HostTable (ρ : Type) where
  entries : List (String × ρ)

namespace HostTable

variable {ρ : Type}

def empty : HostTable ρ where
  entries := []

/-- Gives a name a meaning and the last place. -/
def insert (table : HostTable ρ) (name : String) (meaning : ρ) : HostTable ρ where
  entries := Association.erase name table.entries ++ [(name, meaning)]

def insertAll (table : HostTable ρ) (entries : List (String × ρ)) : HostTable ρ :=
  entries.foldl (fun table entry => table.insert entry.1 entry.2) table

def ofList (entries : List (String × ρ)) : HostTable ρ :=
  empty.insertAll entries

def find? (table : HostTable ρ) (name : String) : Option ρ :=
  table.entries.lookup name

def names (table : HostTable ρ) : List String :=
  table.entries.map Prod.fst

def size (table : HostTable ρ) : Nat :=
  table.entries.length

/-! ## Laws -/

theorem find?_insert_self (table : HostTable ρ) (name : String) (meaning : ρ) :
    (table.insert name meaning).find? name = some meaning := by
  unfold find? insert
  rw [Association.lookup_append_of_not_mem _ (Association.not_mem_keys_erase name _)]
  exact List.lookup_cons_self

theorem names_insert (table : HostTable ρ) (name : String) (meaning : ρ) :
    (table.insert name meaning).names =
      (Association.erase name table.entries).map Prod.fst ++ [name] := by
  simp [names, insert]

theorem nodup_names_insert {table : HostTable ρ} (name : String) (meaning : ρ)
    (h : table.names.Nodup) : (table.insert name meaning).names.Nodup := by
  rw [names_insert, List.nodup_append]
  refine ⟨(Association.keys_erase_sublist name table.entries).nodup h, by simp, ?_⟩
  intro a ha b hb heq
  simp only [List.mem_singleton] at hb
  subst hb
  subst heq
  exact Association.not_mem_keys_erase a table.entries ha

theorem insertAll_cons (table : HostTable ρ) (name : String) (meaning : ρ)
    (rest : List (String × ρ)) :
    table.insertAll ((name, meaning) :: rest) = (table.insert name meaning).insertAll rest := rfl

end HostTable
end Provision
