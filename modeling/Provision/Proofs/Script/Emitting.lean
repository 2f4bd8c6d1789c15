import Provision.Proofs.Pairing
import Provision.Script.Emission

/-!
# Runs of emission

What the primitives of emission answer and what they leave of a builder.
-/

namespace Provision

theorem Action.run_pure {σ α : Type} (x : α) (s : σ) : (pure x : Action σ α) s = .ok x s := rfl

namespace Emit

variable (builder : Builder)

/-! ## Values and instructions -/

theorem run_fresh (type : MachineType) :
    fresh type builder =
      .ok builder.types.length { builder with types := builder.types ++ [type] } := rfl

theorem run_freshAll (types : List MachineType) :
    freshAll types builder =
      .ok (List.range' builder.types.length types.length)
        { builder with types := builder.types ++ types } := by
  induction types generalizing builder with
  | nil =>
      rw [List.append_nil]
      rfl
  | cons type types ih =>
      simp only [freshAll, Action.run_bind, run_fresh, ih, Action.run_pure, List.length_append,
        List.length_nil, Nat.zero_add, List.append_assoc, List.singleton_append, List.length_cons,
        List.range'_succ]

theorem run_append (instruction : Instruction) :
    append instruction builder =
      .ok ⟨⟩ { builder with pending := builder.pending ++ [instruction] } := rfl

theorem run_drain : drain builder = .ok builder.pending { builder with pending := [] } := rfl

/-! ## Names -/

theorem run_bind (name : String) (value : ValueId) :
    bind name value builder = .ok ⟨⟩ { builder with names := (name, value) :: builder.names } := rfl

theorem run_bindAll (names : List String) (values : List ValueId) :
    bindAll names values builder =
      .ok ⟨⟩ { builder with names := (names.zip values).reverse ++ builder.names } := by
  induction names generalizing values builder with
  | nil => rfl
  | cons name names ih =>
      cases values with
      | nil => rfl
      | cons value values =>
          simp only [bindAll, Action.run_bind, run_bind, ih, List.zip_cons_cons,
            List.reverse_cons, List.append_assoc, List.singleton_append]

/-- Names that were bound together give the values that they were bound to. -/
theorem forall₂_lookup_bound {names : List String} {values : List ValueId} (hnames : names.Nodup)
    (hlength : names.length = values.length) (old : List (String × ValueId)) :
    List.Forall₂ (fun name value => ((names.zip values).reverse ++ old).lookup name = some value)
      names values := by
  have hreverse : (names.zip values).reverse = names.reverse.zip values.reverse :=
    List.reverse_zipWith hlength
  have hlengths : names.reverse.length = values.reverse.length := by
    rw [List.length_reverse, List.length_reverse, hlength]
  rw [hreverse, ← List.forall₂_reverse_iff]
  exact Association.forall₂_lookup_zip (List.nodup_reverse.mpr hnames) hlengths old

variable {builder}

theorem run_valueOf {name : String} {value : ValueId}
    (h : builder.names.lookup name = some value) :
    valueOf name builder = .ok value builder := by
  simp only [valueOf, Action.run_bind, Action.run_get, h, Action.run_pure]

theorem run_valuesOf {names : List String} {values : List ValueId}
    (h : List.Forall₂ (fun name value => builder.names.lookup name = some value) names values) :
    valuesOf names builder = .ok values builder := by
  induction h with
  | nil => rfl
  | cons hname _ ih =>
      simp only [valuesOf, Action.run_bind, run_valueOf hname, ih, Action.run_pure]

end Emit

/-! ## Scripts -/

/-- Emitting a step and what comes after it. -/
theorem Region.emit_step {site : Site} {first : Step} {builder middle : Builder}
    (h : first.emit site builder = .ok ⟨⟩ middle) (rest : Script) :
    Region.emit site (.step first rest) builder =
      match Region.emit site rest { middle with pending := [] } with
      | .ok code after => .ok (.prepend middle.pending code) after
      | .error stop after => .error stop after := by
  simp only [Region.emit, Action.run_bind, h, Emit.run_drain]
  cases Region.emit site rest { middle with pending := [] } with
  | ok code after => rfl
  | error stop after => rfl

theorem Body.emit_of_script {site : Site} {body : Body} {builder middle after : Builder}
    {code : Code} {results : List ValueId} (hcode : body.script.emit site builder = .ok code middle)
    (hresults : Emit.valuesOf body.returns middle = .ok results after) :
    body.emit site builder = .ok (code, results) after := by
  simp only [Body.emit, Action.run_bind, hcode, hresults, Action.run_pure]

end Provision
