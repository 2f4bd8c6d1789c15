import Mathlib.Data.List.Nodup
import Provision.Code.Pruning

/-!
# What carried values stand for

A carried value that no pass changes stands for an older value.  What it stands for is what its
initial value stands for, and what its next value stands for as well.  Values that no loop carries
stand for themselves.
-/

namespace Provision
namespace Demand

/-! ## Aliases -/

/-- What a value stands for by some aliases, the first of which was found first. -/
def stands (aliases : List (ValueId × ValueId)) (value : ValueId) : ValueId :=
  aliases.foldl (fun value entry => if value = entry.1 then entry.2 else value) value

theorem stands_concat (aliases : List (ValueId × ValueId)) (key target value : ValueId) :
    stands (aliases ++ [(key, target)]) value =
      if stands aliases value = key then target else stands aliases value := by
  simp only [stands, List.foldl_append, List.foldl_cons, List.foldl_nil]
  rfl

/-- Each alias is of a carried value and its initial value, where the next value stood for one of
the two when the alias was found. -/
inductive Settled (table : List Carried) : List (ValueId × ValueId) -> Prop where
  | nil : Settled table []
  | concat {aliases : List (ValueId × ValueId)} (h : Settled table aliases) (carried : Carried)
      (hcarried : carried ∈ table)
      (hnext : stands aliases carried.next = carried.value ∨
        stands aliases carried.next = stands aliases carried.initial) :
      Settled table (aliases ++ [(carried.value, stands aliases carried.initial)])

section Aliases

variable {table : List Carried} {aliases : List (ValueId × ValueId)} {value : ValueId}

theorem stands_of_lookup_eq_none (h : aliases.lookup value = none) :
    stands aliases value = value := by
  induction aliases with
  | nil => rfl
  | cons entry rest ih =>
      rw [List.lookup_cons] at h
      split at h
      · cases h
      · rename_i hne
        have hkey : value ≠ entry.1 := by
          simpa using hne
        simp only [stands, List.foldl_cons, if_neg hkey]
        exact ih h

theorem Settled.lookup_eq_none (h : Settled table aliases)
    (hvalue : value ∉ table.map Carried.value) : aliases.lookup value = none := by
  induction h with
  | nil => rfl
  | concat _ carried hcarried _ ih =>
      have hne : (value == carried.value) = false := by
        rw [beq_eq_false_iff_ne]
        intro heq
        exact hvalue (List.mem_map.mpr ⟨carried, hcarried, heq.symm⟩)
      rw [List.lookup_append, ih, Option.none_or, List.lookup_cons, hne]
      rfl

/-- A value that has an alias stands for what its initial value and its next value stand for. -/
theorem Settled.exists_carried (h : Settled table aliases)
    (hvalue : (aliases.lookup value).isSome = true) :
    exists carried, carried ∈ table ∧ carried.value = value ∧
      stands aliases value = stands aliases carried.initial ∧
        stands aliases carried.next = stands aliases value := by
  induction h with
  | nil => cases hvalue
  | @concat aliases _ carried hcarried hnext ih =>
      cases hlookup : aliases.lookup value with
      | some target =>
          rcases ih (by rw [hlookup]; rfl) with ⟨found, hfound, hkey, hinitial, hlast⟩
          refine ⟨found, hfound, hkey, ?_, ?_⟩
          · rw [stands_concat, stands_concat, hinitial]
          · rw [stands_concat, stands_concat, hlast]
      | none =>
          have hself := stands_of_lookup_eq_none hlookup
          have hkey : value = carried.value := by
            rw [List.lookup_append, hlookup, Option.none_or, List.lookup_cons] at hvalue
            split at hvalue
            · rename_i heq
              exact beq_iff_eq.mp heq
            · cases hvalue
          have htarget : stands (aliases ++ [(carried.value, stands aliases carried.initial)])
              value = stands aliases carried.initial := by
            rw [stands_concat, hself, if_pos hkey]
          refine ⟨carried, hcarried, hkey.symm, ?_, ?_⟩
          · rw [htarget, stands_concat]
            split
            · rfl
            · rfl
          · rw [htarget, stands_concat]
            rcases hnext with hback | hsame
            · rw [if_pos hback]
            · rw [hsame]
              split
              · rfl
              · rfl

end Aliases

/-! ## Finding out -/

section Finding

variable {table : List Carried} {demand : Demand}

theorem settled_settle (h : Settled table demand.aliases) {carried : Carried}
    (hcarried : carried ∈ table) : Settled table (settle carried demand).aliases := by
  simp only [settle]
  split
  · rename_i hnext
    exact h.concat carried hcarried hnext
  · exact h

theorem settled_want (h : Settled table demand.aliases) (depth : Nat) (value : ValueId) :
    Settled table (want table depth value demand).aliases := by
  induction depth generalizing value demand with
  | zero => exact h
  | succ depth ih =>
      simp only [want]
      split
      · exact h
      · split
        · exact h
        · rename_i carried hfind
          have hmore : Settled table
              { demand with wanted := demand.wanted ++ [value] }.aliases := h
          split
          · exact settled_settle (ih (ih hmore _) _) (List.mem_of_find?_eq_some hfind)
          · exact h

theorem settled_conclude (h : Settled table demand.aliases) {carried : Carried}
    (hcarried : carried ∈ table) : Settled table (conclude table demand carried).aliases :=
  settled_settle (settled_want (settled_want h _ _) _ _) hcarried

/-- What every step of a fold keeps is left by the fold. -/
theorem settled_foldl {α : Type} {step : Demand -> α -> Demand} {xs : List α}
    (hstep : forall x, x ∈ xs -> forall demand : Demand, Settled table demand.aliases ->
      Settled table (step demand x).aliases)
    (h : Settled table demand.aliases) : Settled table (xs.foldl step demand).aliases := by
  induction xs generalizing demand with
  | nil => exact h
  | cons x xs ih =>
      rw [List.forall_mem_cons] at hstep
      exact ih hstep.right (hstep.left demand h)

theorem settled_follow (h : Settled table demand.aliases) (usage : Usage) :
    Settled table (follow table demand usage).aliases := by
  cases usage with
  | read value => exact settled_want h _ value
  | close parameters =>
      have hclosed : Settled table
          { demand with closed := parameters ++ demand.closed }.aliases := h
      apply settled_foldl _ hclosed
      intro carried hcarried other hother
      rcases List.mem_filterMap.mp hcarried with ⟨value, _, hfind⟩
      exact settled_conclude hother (List.mem_of_find?_eq_some hfind)

theorem settled_ofUses (table : List Carried) (uses : List Usage) :
    Settled table (ofUses table uses).aliases := by
  unfold ofUses
  have hnone : Settled table empty.aliases := .nil
  exact settled_foldl (fun usage _ demand h => settled_follow h usage) hnone

end Finding
end Demand

/-! ## Values of code -/

namespace Region

/-- The values that code binds, in the order of the text. -/
def numbers : Code -> List ValueId
  | done => []
  | step first rest => first.results ++ numbers rest
  | loop head body rest =>
      head.parameters ++ head.instructions.flatMap Instruction.results ++ numbers body ++
        numbers rest

theorem numbers_prepend (steps : List Instruction) (rest : Code) :
    numbers (prepend steps rest) = steps.flatMap Instruction.results ++ numbers rest := by
  induction steps with
  | nil => rfl
  | cons first steps ih =>
      rw [prepend_cons, numbers, ih, List.flatMap_cons, List.append_assoc]

theorem numbers_append (first second : Code) :
    numbers (first.append second) = numbers first ++ numbers second := by
  induction first with
  | done => rfl
  | step first rest ih => simp only [append, numbers, ih, List.append_assoc]
  | loop head body rest _ ih => simp only [append, numbers, ih, List.append_assoc]

/-- Code binds what its loops carry and the results of its instructions. -/
theorem numbers_perm (code : Code) :
    (numbers code).Perm
      (code.carried.map Carried.value ++ code.instructions.flatMap Instruction.results) := by
  induction code with
  | done => exact .refl _
  | step first rest ih =>
      simp only [numbers, carried, instructions, List.flatMap_cons]
      exact (ih.append_left _).trans (List.perm_append_comm_assoc _ _ _)
  | loop head body rest ihBody ihRest =>
      rw [List.perm_iff_count] at ihBody ihRest ⊢
      intro value
      simp only [numbers, carried, instructions, LoopHeader.parameters, List.map_append,
        List.flatMap_append, List.count_append, ihBody, ihRest]
      omega

end Region

namespace Demand

/-- A value that is kept stands for itself. -/
theorem resolve_of_keeps {demand : Demand} {value : ValueId} (h : demand.keeps value = true) :
    demand.resolve value = value := by
  rw [keeps, Bool.and_eq_true, Option.isNone_iff_eq_none] at h
  exact stands_of_lookup_eq_none h.right

/-- A carried value stands for itself, or it is not kept and stands for what its initial value and
its next value stand for. -/
def Decides (demand : Demand) (carried : Carried) : Prop :=
  demand.resolve carried.value = carried.value ∨
    demand.keeps carried.value = false ∧
      demand.resolve carried.value = demand.resolve carried.initial ∧
        demand.resolve carried.next = demand.resolve carried.value

/-- What the loops of code carry is decided about, and the results of its instructions stand for
themselves. -/
def Suits (demand : Demand) : Code -> Prop
  | .done => True
  | .step first rest =>
      (forall result, result ∈ first.results -> demand.resolve result = result) ∧ Suits demand rest
  | .loop head body rest =>
      (forall carried, carried ∈ head.carried -> demand.Decides carried) ∧
        (forall result, result ∈ head.instructions.flatMap Instruction.results ->
          demand.resolve result = result) ∧ Suits demand body ∧ Suits demand rest

section Suits

variable {demand : Demand}

theorem suits_prepend {steps : List Instruction} {rest : Code} :
    demand.Suits (.prepend steps rest) ↔
      (forall result, result ∈ steps.flatMap Instruction.results ->
        demand.resolve result = result) ∧ demand.Suits rest := by
  induction steps with
  | nil => simp [Region.prepend_nil]
  | cons first steps ih =>
      simp only [Region.prepend_cons, Suits, ih, List.flatMap_cons, List.forall_mem_append,
        and_assoc]

theorem suits_append {first second : Code} :
    demand.Suits (first.append second) ↔ demand.Suits first ∧ demand.Suits second := by
  induction first with
  | done => simp only [Region.append, Suits, true_and]
  | step first rest ih => simp only [Region.append, Suits, ih, and_assoc]
  | loop head body rest _ ih => simp only [Region.append, Suits, ih, and_assoc]

theorem suits_of_forall {code : Code}
    (hcarried : forall carried, carried ∈ code.carried -> demand.Decides carried)
    (hresults : forall result, result ∈ code.instructions.flatMap Instruction.results ->
      demand.resolve result = result) : demand.Suits code := by
  induction code with
  | done => trivial
  | step first rest ih =>
      simp only [Region.instructions, List.flatMap_cons, List.forall_mem_append] at hresults
      exact ⟨hresults.left, ih hcarried hresults.right⟩
  | loop head body rest ihBody ihRest =>
      simp only [Region.instructions, List.flatMap_append, List.forall_mem_append] at hresults
      simp only [Region.carried, List.forall_mem_append] at hcarried
      exact ⟨hcarried.left.left, hresults.left.left, ihBody hcarried.left.right hresults.left.right,
        ihRest hcarried.right hresults.right⟩

/-- What is found out from the uses of code suits it, if its values are all different. -/
theorem suits_ofUses {code : Code} (hnumbers : code.numbers.Nodup) (uses : List Usage) :
    (ofUses code.carried uses).Suits code := by
  have hsettled := settled_ofUses code.carried uses
  rw [code.numbers_perm.nodup_iff, List.nodup_append] at hnumbers
  rcases hnumbers with ⟨hvalues, _, hapart⟩
  apply suits_of_forall
  · intro carried hcarried
    cases hlookup : (ofUses code.carried uses).aliases.lookup carried.value with
    | none => exact .inl (stands_of_lookup_eq_none hlookup)
    | some target =>
        have hsome : ((ofUses code.carried uses).aliases.lookup carried.value).isSome = true := by
          rw [hlookup]
          rfl
        rcases hsettled.exists_carried hsome with ⟨found, hfound, hvalue, hinitial, hnext⟩
        rw [List.inj_on_of_nodup_map hvalues hfound hcarried hvalue] at hinitial hnext
        have hkeeps : (ofUses code.carried uses).keeps carried.value = false := by
          rw [keeps, hlookup]
          exact Bool.and_false _
        exact .inr ⟨hkeeps, hinitial, hnext⟩
  · intro result hresult
    apply stands_of_lookup_eq_none
    apply hsettled.lookup_eq_none
    intro hvalue
    exact hapart result hvalue result hresult rfl

/-- A value that code does not bind stands for itself. -/
theorem resolve_ofUses_of_not_mem {code : Code} {value : ValueId} (h : value ∉ code.numbers)
    (uses : List Usage) : (ofUses code.carried uses).resolve value = value := by
  apply stands_of_lookup_eq_none
  apply (settled_ofUses code.carried uses).lookup_eq_none
  intro hcarried
  apply h
  rw [code.numbers_perm.mem_iff]
  exact List.mem_append_left _ hcarried

end Suits
end Demand
end Provision
