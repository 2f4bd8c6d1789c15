import Provision.Script.Emission

/-!
# Portable scripts

A script is portable if it has no native integers.  What it is emitted to depends on the target
only through the type of pointers, and on the module only through the signatures of the functions
that it calls.
-/

namespace Provision

/-! ## What a script mentions -/

namespace Step

/-- The types that a step is emitted for. -/
def types : Step -> List DataType
  | constInt _ type _ => [type]
  | zero _ type => [type]
  | fromSigned _ type _ => [type]
  | fromUnsigned _ type _ => [type]
  | truncate _ type _ => [type]
  | addressAt _ element _ _ => [element]
  | loadAt _ element _ _ => [element]
  | storeAt element _ _ _ => [element]
  | load _ type _ _ => [type]
  | newLocal _ type _ => [type]
  | note type => [type]
  | _ => []

def callees : Step -> List FuncId
  | call _ callee _ => [callee]
  | callFirst _ callee _ => [callee]
  | _ => []

end Step

namespace Script

def types : Script -> List DataType
  | .done => []
  | .step first rest => first.types ++ types rest
  | .loop _ body rest => types body ++ types rest

def callees : Script -> List FuncId
  | .done => []
  | .step first rest => first.callees ++ callees rest
  | .loop _ body rest => callees body ++ callees rest

end Script

/-! ## Sites that look alike -/

namespace Site

/-- Two sites look alike to a script without native integers that calls the given functions. -/
structure Alike (callees : List FuncId) (site other : Site) : Prop where
  pointer : site.lowering.pointer = other.lowering.pointer
  signature : site.signature = other.signature
  calls : forall callee, callee ∈ callees ->
    site.signatureOf? callee = other.signatureOf? callee

theorem Alike.mono {fewer more : List FuncId} {site other : Site} (h : Alike more site other)
    (hsub : forall callee, callee ∈ fewer -> callee ∈ more) : Alike fewer site other where
  pointer := h.pointer
  signature := h.signature
  calls := fun callee hcallee => h.calls callee (hsub callee hcallee)

theorem Alike.lower {callees : List FuncId} {site other : Site} (h : Alike callees site other)
    {type : DataType} (htype : type ≠ .native) :
    site.lowering.lower type = other.lowering.lower type := by
  cases type
  case native => exact absurd rfl htype
  case pointerTo base => exact h.pointer
  all_goals rfl

/-- A site with 64 bit pointers, at which every function that can be called has one signature and
is near. -/
def reference (sig : Signature) (called : Option MachineSignature) : Site where
  lowering := { pointer := .i64, native := .i32 }
  signature := Lowering.signature { pointer := .i64, native := .i32 } sig
  signatureOf? := fun _ => called
  isFinal := fun _ => true

end Site

/-! ## Emission at sites that look alike -/

theorem Step.emit_alike {step : Step} {site other : Site}
    (halike : Site.Alike step.callees site other) (hportable : .native ∉ step.types) :
    step.emit site = step.emit other := by
  have hlower : forall type, type ∈ step.types ->
      site.lowering.lower type = other.lowering.lower type := by
    intro type htype
    apply halike.lower
    intro hnative
    exact hportable (hnative ▸ htype)
  cases step
  case call results callee arguments =>
      have hcallee := halike.calls callee (List.mem_singleton_self callee)
      simp only [Step.emit, Emit.call, hcallee]
  case callFirst result callee arguments =>
      have hcallee := halike.calls callee (List.mem_singleton_self callee)
      simp only [Step.emit, Emit.callFirst, Emit.call, hcallee]
  case param result index => simp only [Step.emit, halike.signature]
  case reserve result size alignShift => simp only [Step.emit, Emit.reserve, halike.pointer]
  all_goals
    simp only [Step.types, List.mem_singleton, forall_eq, List.not_mem_nil] at hlower
    simp only [Step.emit, Emit.constInt, Emit.zero, Emit.fromSigned, Emit.fromUnsigned,
      Emit.addressAt, Emit.load, Lowering.bytes, halike.pointer, hlower]

/-- A script without native integers is emitted alike at sites that look alike. -/
theorem Region.emit_alike {script : Script} {site other : Site}
    (halike : Site.Alike script.callees site other) (hportable : .native ∉ script.types) :
    Region.emit site script = Region.emit other script := by
  induction script with
  | done => rfl
  | step first rest ih =>
      simp only [Script.types, List.mem_append, not_or] at hportable
      have hfirst := halike.mono fun callee h => List.mem_append_left (Script.callees rest) h
      have hrest := halike.mono fun callee h => List.mem_append_right first.callees h
      simp only [Region.emit, Step.emit_alike hfirst hportable.left, ih hrest hportable.right]
  | loop head body rest ihBody ihRest =>
      simp only [Script.types, List.mem_append, not_or] at hportable
      have hbody := halike.mono fun callee h => List.mem_append_left (Script.callees rest) h
      have hrest := halike.mono fun callee h => List.mem_append_right (Script.callees body) h
      simp only [Region.emit, ihBody hbody hportable.left, ihRest hrest hportable.right]

/-! ## Bodies -/

theorem Script.mem_types_of_mem_locals {script : Script} {type : DataType}
    (h : type ∈ script.locals) : type ∈ script.types := by
  induction script with
  | done => cases h
  | step first rest ih =>
      cases first
      case newLocal name local? init =>
          simp only [Script.locals, List.mem_cons] at h
          simp only [Script.types, Step.types, List.singleton_append, List.mem_cons]
          exact h.imp_right ih
      all_goals
        simp only [Script.locals] at h
        exact List.mem_append_right _ (ih h)
  | loop head body rest ihBody ihRest =>
      simp only [Script.locals, List.mem_append] at h
      simp only [Script.types, List.mem_append]
      exact h.imp ihBody ihRest

namespace Body

/-- A body without native integers is built alike at sites that look alike, but for the functions
that are known to be near. -/
theorem build_alike {body : Body} {site other : Site}
    (halike : Site.Alike body.script.callees site other) (hportable : .native ∉ body.script.types)
    (hfinal : forall callee, other.isFinal callee = true) {procedure : Procedure}
    (hbuild : (body.build other).1.toOption = some procedure) :
    (body.build site).1 = .ok { procedure with near := procedure.near.filter site.isFinal } := by
  have hlocals : body.locals site = body.locals other := by
    unfold Body.locals
    apply List.map_congr_left
    intro type htype
    apply halike.lower
    intro hnative
    exact hportable (hnative ▸ Script.mem_types_of_mem_locals htype)
  have hemit : body.emit site = body.emit other := by
    simp only [Body.emit, Region.emit_alike halike hportable]
  unfold Body.build at hbuild ⊢
  rw [hemit, hlocals, halike.signature]
  cases hrun : body.emit other (Builder.start other.signature.params (body.locals other)) with
  | error stop builder =>
      rw [hrun] at hbuild
      cases hbuild
  | ok result builder =>
      rcases result with ⟨code, results⟩
      rw [hrun] at hbuild
      cases hbuild
      have hall : code.callees.filter other.isFinal = code.callees :=
        List.filter_eq_self.mpr fun callee _ => hfinal callee
      simp only [Body.procedure, Body.zeros, hlocals, halike.signature, hall]

end Body
end Provision
