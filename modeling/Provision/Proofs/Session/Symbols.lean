import Mathlib.Data.Finset.Card
import Mathlib.Data.List.Basic
import Provision.Proofs.Code.Trace
import Provision.Proofs.Pairing
import Provision.Proofs.Session.Definitions

/-!
# Symbols of the host

However often names are given meanings, a table of the host has each of them once, where it was
given its meaning last and with that meaning.  A session tells its linker just that, so that what
was replaced before has no part in any program.
-/

namespace Provision

namespace HostTable

variable {ρ : Type}

/-! ## Last insertions -/

/-- Of several insertions, the one at a place is the last one under its name. -/
structure IsLast (insertions : List (String × ρ)) (place : Nat) (entry : String × ρ) : Prop where
  inserted : insertions[place]? = some entry
  last : forall later other, place < later -> insertions[later]? = some other ->
    other.1 ≠ entry.1

variable {insertions : List (String × ρ)} {place : Nat} {entry : String × ρ}

/-- One more insertion is the last one under its name, and those under other names stay what they
were. -/
theorem isLast_concat_iff {name : String} {meaning : ρ} :
    IsLast (insertions ++ [(name, meaning)]) place entry ↔
      IsLast insertions place entry ∧ entry.1 ≠ name ∨
        place = insertions.length ∧ entry = (name, meaning) := by
  have hnew : (insertions ++ [(name, meaning)])[insertions.length]? = some (name, meaning) :=
    List.getElem?_concat_length
  have hold : forall {other}, other < insertions.length ->
      (insertions ++ [(name, meaning)])[other]? = insertions[other]? :=
    fun hlt => List.getElem?_append_left hlt
  constructor
  · rintro ⟨hinserted, hlast⟩
    have hplace : place < insertions.length + 1 := by
      have hlt := (List.getElem?_eq_some_iff.mp hinserted).choose
      rwa [List.length_append] at hlt
    rcases Nat.lt_succ_iff_lt_or_eq.mp hplace with hlt | heq
    · rw [hold hlt] at hinserted
      refine .inl ⟨⟨hinserted, ?_⟩, (hlast insertions.length _ hlt hnew).symm⟩
      intro later other hlater hother
      have hinside := (List.getElem?_eq_some_iff.mp hother).choose
      exact hlast later other hlater ((hold hinside).trans hother)
    · rw [heq, hnew, Option.some.injEq] at hinserted
      exact .inr ⟨heq, hinserted.symm⟩
  · rintro (⟨⟨hinserted, hlast⟩, hne⟩ | ⟨rfl, rfl⟩)
    · have hplace := (List.getElem?_eq_some_iff.mp hinserted).choose
      refine ⟨(hold hplace).trans hinserted, ?_⟩
      intro later other hlater hother
      by_cases hinside : later < insertions.length
      · exact hlast later other hlater ((hold hinside).symm.trans hother)
      · have hend := (List.getElem?_eq_some_iff.mp hother).choose
        rw [List.length_append, List.length_singleton] at hend
        have heq : later = insertions.length := by omega
        rw [heq, hnew, Option.some.injEq] at hother
        rw [← hother]
        exact hne.symm
    · refine ⟨hnew, ?_⟩
      intro later other hlater hother
      have hend := (List.getElem?_eq_some_iff.mp hother).choose
      rw [List.length_append, List.length_singleton] at hend
      omega

theorem exists_isLast {name : String} (h : name ∈ insertions.map Prod.fst) :
    exists place meaning, IsLast insertions place (name, meaning) := by
  induction insertions using List.reverseRecOn with
  | nil => cases h
  | append_singleton insertions newest ih =>
      rcases newest with ⟨newest, meaning⟩
      by_cases heq : name = newest
      · rw [heq]
        exact ⟨_, meaning, isLast_concat_iff.mpr (.inr ⟨rfl, rfl⟩)⟩
      · rw [List.map_append, List.mem_append] at h
        rcases h with hold | hnew
        · rcases ih hold with ⟨place, older, hlast⟩
          exact ⟨place, older, isLast_concat_iff.mpr (.inl ⟨hlast, heq⟩)⟩
        · exact absurd (List.mem_singleton.mp hnew) heq

/-! ## What a table holds -/

/-- A table has each name once, with the meaning that was inserted last, and the names stand in the
order of these insertions. -/
structure Holds (table : HostTable ρ) (insertions : List (String × ρ)) : Prop where
  nodup : table.names.Nodup
  entries : forall entry, entry ∈ table.entries ↔ exists place, IsLast insertions place entry
  ordered : table.entries.Pairwise fun first second => forall i j,
    IsLast insertions i first -> IsLast insertions j second -> i < j

theorem holds_empty : (empty : HostTable ρ).Holds [] where
  nodup := List.nodup_nil
  entries := by
    intro entry
    constructor
    · intro h
      cases h
    · rintro ⟨place, hinserted, _⟩
      cases hinserted
  ordered := List.Pairwise.nil

namespace Holds

variable {table : HostTable ρ}

theorem insert (h : table.Holds insertions) (name : String) (meaning : ρ) :
    (table.insert name meaning).Holds (insertions ++ [(name, meaning)]) where
  nodup := nodup_names_insert name meaning h.nodup
  entries := by
    intro entry
    have herase : entry ∈ Association.erase name table.entries ↔
        entry ∈ table.entries ∧ entry.1 ≠ name := by
      simp [Association.erase]
    simp only [HostTable.insert, List.mem_append, herase, h.entries, List.mem_singleton,
      isLast_concat_iff, exists_or, exists_and_right]
    constructor
    · exact Or.imp_right fun heq => ⟨⟨_, rfl⟩, heq⟩
    · exact Or.imp_right fun hnew => hnew.right
  ordered := by
    rw [HostTable.insert, List.pairwise_append]
    refine ⟨?_, List.pairwise_singleton _ _, ?_⟩
    · have hkept := h.ordered.filter fun entry : String × ρ => decide (entry.1 ≠ name)
      refine hkept.imp_of_mem ?_
      intro first second hfirst hsecond hbefore i j hi hj
      have hne : first.1 ≠ name ∧ second.1 ≠ name := by
        simp only [List.mem_filter, decide_eq_true_eq] at hfirst hsecond
        exact ⟨hfirst.right, hsecond.right⟩
      rcases isLast_concat_iff.mp hi with ⟨hiOld, _⟩ | ⟨_, heq⟩
      · rcases isLast_concat_iff.mp hj with ⟨hjOld, _⟩ | ⟨_, heq⟩
        · exact hbefore i j hiOld hjOld
        · exact absurd (congrArg Prod.fst heq) hne.right
      · exact absurd (congrArg Prod.fst heq) hne.left
    · intro first hfirst second hsecond i j hi hj
      have hne : first.1 ≠ name := by
        simp only [Association.erase, List.mem_filter, decide_eq_true_eq] at hfirst
        exact hfirst.right
      rw [List.mem_singleton.mp hsecond] at hj
      rcases isLast_concat_iff.mp hi with ⟨hiOld, _⟩ | ⟨_, heq⟩
      · rcases isLast_concat_iff.mp hj with ⟨_, hsame⟩ | ⟨hend, _⟩
        · exact absurd rfl hsame
        · rw [hend]
          exact (List.getElem?_eq_some_iff.mp hiOld.inserted).choose
      · exact absurd (congrArg Prod.fst heq) hne

theorem find?_eq_some_iff (h : table.Holds insertions) {name : String} {meaning : ρ} :
    table.find? name = some meaning ↔ exists place, IsLast insertions place (name, meaning) := by
  rw [← h.entries]
  exact Association.lookup_eq_some_iff_mem h.nodup

theorem mem_names_iff (h : table.Holds insertions) {name : String} :
    name ∈ table.names ↔ name ∈ insertions.map Prod.fst := by
  constructor
  · intro hname
    rcases List.mem_map.mp hname with ⟨entry, hentry, rfl⟩
    rcases (h.entries entry).mp hentry with ⟨place, hlast⟩
    exact List.mem_map_of_mem (List.mem_of_getElem? hlast.inserted)
  · intro hname
    rcases exists_isLast hname with ⟨place, meaning, hlast⟩
    exact List.mem_map_of_mem ((h.entries (name, meaning)).mpr ⟨place, hlast⟩)

/-- The size of a table is the number of distinct names that were inserted. -/
theorem size_eq (h : table.Holds insertions) :
    table.size = (insertions.map Prod.fst).toFinset.card := by
  have hnames : (insertions.map Prod.fst).toFinset = table.names.toFinset := by
    ext name
    rw [List.mem_toFinset, List.mem_toFinset, h.mem_names_iff]
  rw [hnames, List.toFinset_card_of_nodup h.nodup]
  exact (List.length_map _).symm

end Holds

/-! ## Insertions that are replaced -/

/-- Tables that differ in what a name means, or in its place, come to be the same when the name is
inserted anew. -/
theorem insertAll_eq_of_erase_eq {table other : HostTable ρ} {name : String}
    (h : Association.erase name table.entries = Association.erase name other.entries)
    (hname : name ∈ insertions.map Prod.fst) :
    table.insertAll insertions = other.insertAll insertions := by
  induction insertions generalizing table other with
  | nil => cases hname
  | cons first rest ih =>
      rcases first with ⟨first, meaning⟩
      rw [insertAll_cons, insertAll_cons]
      by_cases heq : first = name
      · rw [heq, insert, insert, h]
      · rw [List.map_cons, List.mem_cons] at hname
        rcases hname with hfirst | hrest
        · exact absurd hfirst.symm heq
        · refine ih ?_ hrest
          rw [insert, insert, Association.erase_append, Association.erase_append,
            Association.erase_comm, h, Association.erase_comm]

/-- Without an insertion that is replaced later, the table is the same. -/
theorem ofList_of_replaced (front : List (String × ρ)) {name : String} (replaced : ρ)
    {back : List (String × ρ)} (h : name ∈ back.map Prod.fst) :
    ofList (front ++ (name, replaced) :: back) = ofList (front ++ back) := by
  unfold ofList insertAll
  rw [List.foldl_append, List.foldl_append, List.foldl_cons]
  refine insertAll_eq_of_erase_eq ?_ h
  have hsingle : Association.erase name [(name, replaced)] = [] :=
    Association.erase_cons_self name replaced []
  rw [insert, Association.erase_append, hsingle, List.append_nil]
  simp [Association.erase, List.filter_filter]

/-! ## Tables of the host -/

/-- A table is made by insertions, which are given in turn.  They start from an empty table, or from
that of the C library, which is itself made by the insertions of its functions. -/
inductive Made {σ : Type} : HostTable (HostFunction σ) -> List (String × HostFunction σ) -> Prop
    where
  | new : Made empty []
  | library : Made Host.cLibrary Host.cFunctions
  | insert {table : HostTable (HostFunction σ)} {insertions : List (String × HostFunction σ)}
      (h : Made table insertions) (name : String) (function : HostFunction σ) :
      Made (table.insert name function) (insertions ++ [(name, function)])

theorem ofList_concat (insertions : List (String × ρ)) (name : String) (meaning : ρ) :
    ofList (insertions ++ [(name, meaning)]) = (ofList insertions).insert name meaning := by
  rw [ofList, insertAll, List.foldl_append]
  rfl

theorem holds_ofList (insertions : List (String × ρ)) : (ofList insertions).Holds insertions := by
  induction insertions using List.reverseRecOn with
  | nil => exact holds_empty
  | append_singleton insertions newest ih =>
      rw [ofList_concat]
      exact ih.insert newest.1 newest.2

theorem Made.eq_ofList {σ : Type} {table : HostTable (HostFunction σ)}
    {insertions : List (String × HostFunction σ)} (h : table.Made insertions) :
    table = ofList insertions := by
  induction h with
  | new => rfl
  | library => rfl
  | insert _ name function ih => rw [ofList_concat, ih]

/-! ## Registering -/

theorem symbols_register (table : HostTable ρ) (linker : Linker ρ) :
    (table.register linker).symbols = linker.symbols ++ table.entries := by
  rcases table with ⟨entries⟩
  unfold register
  induction entries generalizing linker with
  | nil => exact (List.append_nil _).symm
  | cons first rest ih =>
      rw [List.foldl_cons, ih, Linker.define, List.append_assoc]
      rfl

theorem resolve?_register {table : HostTable ρ} (h : table.names.Nodup) (name : String) :
    (table.register .empty).resolve? name = table.find? name := by
  have hsymbols : (table.register .empty).symbols = table.entries := symbols_register table .empty
  have hreverse : (table.entries.reverse.map Prod.fst).Nodup := by
    rw [List.map_reverse, List.nodup_reverse]
    exact h
  rw [Linker.resolve?, hsymbols]
  cases hfind : table.find? name with
  | none =>
      rw [List.lookup_eq_none_iff]
      intro entry hentry
      exact List.lookup_eq_none_iff.mp hfind entry (List.mem_reverse.mp hentry)
  | some meaning =>
      rw [Association.lookup_eq_some_iff_mem hreverse, List.mem_reverse]
      exact Association.mem_of_lookup hfind

end HostTable

/-! ## Sessions over a table -/

namespace Session

variable {σ : Type} {table : HostTable (HostFunction σ)}
  {insertions : List (String × HostFunction σ)}

theorem log_start (name : String) (target : Target) (table : HostTable (HostFunction σ)) :
    (start name target table).unit.log =
      (table.entries.map fun entry => Event.hostSymbol entry.1) ++
        [.sessionOpened name target.os table.size] := by
  show table.names.map Event.hostSymbol ++ _ = _
  rw [HostTable.names, List.map_map]
  rfl

/-- What a name stands for outside the module is what the linker was told, or else what it is in the
process. -/
theorem binding?_executable (h : table.names.Nodup) (unit : CompilationUnit) (name : String) :
    (executable { unit := unit, table := table }).binding? name =
      ((linker { unit := unit, table := table }).resolve? name).or (Host.process? name) := by
  rw [linker, HostTable.resolve?_register h, Executable.binding?, executable]
  cases table.find? name with
  | none => rfl
  | some function => rfl

/-- A table that is made by insertions has each name once, with the meaning that it was given last
and in the order of these insertions, and its size is the number of distinct names.  A session over
it tells its linker just these entries, in their order, and what a program imports is what was
inserted last under its name.  An insertion that is replaced might as well not have been made. -/
theorem hosts_last_insertions (h : table.Made insertions) :
    table.Holds insertions ∧
    (forall name function, table.find? name = some function ↔
      exists place, HostTable.IsLast insertions place (name, function)) ∧
    table.size = (insertions.map Prod.fst).toFinset.card ∧
    (forall name target,
      (start name target table).linker.symbols = table.entries ∧
        (start name target table).unit.log =
          (table.entries.map fun entry => .hostSymbol entry.1) ++
            [.sessionOpened name target.os table.size]) ∧
    (forall unit entries program log,
      link { unit := unit, table := table } entries = .ok (program, log) ->
        (forall name, program.binding? name =
          ((linker { unit := unit, table := table }).resolve? name).or (Host.process? name)) ∧
        forall id declaration place function,
          program.module.declaration? id = some declaration -> declaration.code = none ->
            HostTable.IsLast insertions place (declaration.name, function) ->
              forall depth, program.invoke (depth + 1) id =
                Convention.returning declaration.signature.returns function.run) ∧
    forall front name replaced back, insertions = front ++ (name, replaced) :: back ->
      name ∈ back.map Prod.fst -> table = .ofList (front ++ back) := by
  have hholds : table.Holds insertions := by
    rw [h.eq_ofList]
    exact HostTable.holds_ofList insertions
  refine ⟨hholds, fun _ _ => hholds.find?_eq_some_iff, hholds.size_eq, ?_, ?_, ?_⟩
  · intro name target
    exact ⟨HostTable.symbols_register table .empty, log_start name target table⟩
  · intro unit entries program log hlink
    have hbinding := binding?_executable hholds.nodup unit
    rw [eq_of_link hlink]
    refine ⟨hbinding, ?_⟩
    intro id declaration place function hdeclaration hcode hlast depth
    have hfind := hholds.find?_eq_some_iff.mpr ⟨place, hlast⟩
    have htold := HostTable.resolve?_register hholds.nodup declaration.name
    apply Executable.invoke_of_binding hdeclaration hcode
    rw [hbinding, linker, htold, hfind, Option.some_or]
  · rintro front name replaced back rfl hlater
    rw [h.eq_ofList, HostTable.ofList_of_replaced front replaced hlater]

/-- The table of the C library with another hyperbolic tangent, which comes to be its last entry and
is what a module that imports it calls. -/
theorem hosts_last_insertions_tanh :
    let tanh : HostFunction Unit := .ofProgram fun arguments world => some (arguments, world)
    let table := Host.cLibrary.insert "tanh" tanh
    let unit := (CompilationUnit.declareImport "tanh" (ElementaryFunction.signature .float64)).leaves
      (start "unit" { os := .posix, intWidth := .unspecified } table).unit
    let program := executable { unit := unit, table := table }
    table.Made (Host.cFunctions ++ [("tanh", tanh)]) ∧
      table.names =
        ["tanhf", "expf", "exp", "logf", "log", "sinf", "sin", "cosf", "cos", "tanh"] ∧
        table.size = 10 ∧ table.find? "tanh" = some tanh ∧
          (forall depth, program.invoke (depth + 1) { index := 0 } =
            Convention.returning [.f64] tanh.run) ∧
          table = .ofList (Host.cFunctions.eraseIdx 1 ++ [("tanh", tanh)]) := by
  intro tanh table unit program
  have hmade : table.Made (Host.cFunctions ++ [("tanh", tanh)]) :=
    HostTable.Made.library.insert "tanh" tanh
  have hlast : HostTable.IsLast (Host.cFunctions ++ [("tanh", tanh)]) 10 ("tanh", tanh) :=
    HostTable.isLast_concat_iff.mpr (.inr ⟨rfl, rfl⟩)
  rcases hosts_last_insertions hmade with ⟨_, hfind, hsize, _, hprogram, hreplaced⟩
  refine ⟨hmade, by decide, ?_, (hfind "tanh" tanh).mpr ⟨10, hlast⟩, ?_, ?_⟩
  · rw [hsize]
    decide
  · have hlink : link { unit := unit, table := table } [] =
        .ok (program, [.linked "unit"]) := rfl
    intro depth
    exact (hprogram unit [] program _ hlink).right { index := 0 } _ 10 tanh rfl rfl hlast depth
  · exact hreplaced [("tanhf", _)] "tanh" _ _ rfl (by decide)

end Session
end Provision
