import Provision.Executable
import Provision.Module.CompilationUnit
import Provision.Proofs.Action
import Provision.Proofs.Binary.Nearest
import Provision.Proofs.Code.Computing

/-!
# Converting integers

The code that an integer is converted to a float by.  The integer is given as many bits as the
float has, and is the same number then unless it has more bits itself.
-/

namespace Provision

/-! ## Integers of the width of a float -/

theorem Width.eq_of_bits {w v : Width} (h : w.bits = v.bits) : w = v := by
  cases w
  all_goals
    cases v
    all_goals
      first
      | rfl
      | cases h

namespace Binary.Format

/-- Width of the integers that have as many bits as the numbers of a format. -/
def width : Format -> Width
  | single => .w32
  | double => .w64

theorem bits_width (f : Format) : f.width.bits = f.bits := by
  cases f
  · rfl
  · rfl

theorem integer_float (f : Format) : (MachineType.float f).integer = .int f.width := by
  cases f
  · rfl
  · rfl

theorem two_pow_bits_le (f : Format) : 2 ^ f.bits ≤ 2 ^ 64 := by
  cases f
  · decide
  · decide

end Binary.Format

/-! ## Emission -/

namespace Emit

/-- An action emits code, behind what there is, that leaves in a new value what a value is to be
turned into, and does nothing else. -/
def Maps {α : Type} (action : Emit ValueId) (builder : Builder) (value : ValueId)
    (input output : α -> Scalar) : Prop :=
  exists result types code,
    action builder =
      .ok result
        { builder with types := builder.types ++ types, pending := builder.pending ++ code } ∧
      forall (σ : Type) (invoke : FuncId -> Behaviour σ) (frame : Frame) (world : World σ) (x : α),
        frame.value? value = some (input x) ->
          exists after, Instruction.Leads invoke code builder.types.length (frame, world)
              (after, world) [] ∧
            after.value? result = some (output x)

variable {α : Type} {builder : Builder} {value : ValueId} {input output : α -> Scalar}

theorem Maps.congr {action other : Emit ValueId} (h : Maps action builder value input output)
    (hsame : other builder = action builder) : Maps other builder value input output := by
  unfold Maps
  rw [hsame]
  exact h

theorem maps_pure : Maps (pure value) builder value input input := by
  refine ⟨value, [], [], ?_, ?_⟩
  · simp only [List.append_nil]
    rfl
  · intro σ invoke frame world x hx
    exact ⟨frame, ⟨rfl, Frame.Keeps.refl _ frame, rfl⟩, hx⟩

/-- Something more is computed from what a value has been turned into. -/
theorem Maps.compute {middle : α -> Scalar} {action : Emit ValueId}
    (h : Maps action builder value input middle) {operation : ValueId -> Operation}
    (heval : forall (frame : Frame) result x, frame.value? result = some (middle x) ->
      (operation result).eval frame.value? = some (output x)) :
    Maps (do let result ← action; compute (operation result)) builder value input output := by
  rcases h with ⟨result, types, code, hrun, hcode⟩
  let built : Builder :=
    { builder with types := builder.types ++ types, pending := builder.pending ++ code }
  refine ⟨built.types.length, types ++ [(operation result).resultType built.typeOf],
    code ++ [.compute built.types.length (operation result)], ?_, ?_⟩
  · rw [Action.run_bind, hrun, ← List.append_assoc, ← List.append_assoc]
    rfl
  · intro σ invoke frame world x hx
    rcases hcode σ invoke frame world x hx with ⟨middle, hmiddle, hresult⟩
    have hcompute : Instruction.Leads invoke [.compute built.types.length (operation result)] _
        (middle, world) _ [] :=
      Instruction.leads_compute (heval middle result x hresult)
    refine ⟨_, hmiddle.append ?_ hcompute, ?_⟩
    · simp [built]
    · simp

theorem maps_compute {operation : ValueId -> Operation}
    (heval : forall (frame : Frame) result x, frame.value? result = some (input x) ->
      (operation result).eval frame.value? = some (output x)) :
    Maps (compute (operation value)) builder value input output := by
  have hpure : Maps (pure value) builder value input input := maps_pure
  exact hpure.compute heval

/-! ## Resizing -/

variable {w : Width} {f : Binary.Format}

theorem resize_float (extend : MachineType -> ValueId -> Operation)
    (htype : builder.typeOf value = .int w) :
    resize extend (.float f) value builder =
      (if w.bits < f.width.bits then compute (extend (.int f.width) value)
        else if f.width.bits < w.bits then compute (.reduce (.int f.width) value)
        else pure value) builder := by
  have hrun : Emit.typeOf value builder = .ok (.int w) builder := by
    rw [← htype]
    rfl
  have hbits : (MachineType.float f).bits = f.width.bits := f.bits_width.symm
  unfold resize
  rw [Action.run_bind, hrun, Binary.Format.integer_float, hbits]
  rfl

/-- A signed integer keeps its number modulo a power of two. -/
theorem maps_resize_signed (htype : builder.typeOf value = .int w) :
    Maps (resize .signExtend (.float f) value) builder value (Scalar.int w)
      fun x => .int f.width (BitVec.ofInt f.width.bits x.toInt) := by
  refine Maps.congr ?_ (resize_float .signExtend htype)
  split
  · exact maps_compute fun frame result x hx => Operation.eval_signExtend f.width hx
  · split
    · rename_i hle
      refine maps_compute fun frame result x hx => ?_
      rw [Operation.eval_reduce f.width hx,
        ← BitVec.signExtend_eq_setWidth_of_le x (Nat.le_of_lt hle)]
      rfl
    · have hwidth : w = f.width := Width.eq_of_bits (by omega)
      subst hwidth
      simp only [BitVec.ofInt_toInt]
      exact maps_pure

/-- An unsigned integer keeps its number modulo a power of two. -/
theorem maps_resize_unsigned (htype : builder.typeOf value = .int w) :
    Maps (resize .zeroExtend (.float f) value) builder value (Scalar.int w)
      fun x => .int f.width (x.setWidth f.width.bits) := by
  refine Maps.congr ?_ (resize_float .zeroExtend htype)
  split
  · exact maps_compute fun frame result x hx => Operation.eval_zeroExtend f.width hx
  · split
    · exact maps_compute fun frame result x hx => Operation.eval_reduce f.width hx
    · have hwidth : w = f.width := Width.eq_of_bits (by omega)
      subst hwidth
      simp only [BitVec.setWidth_eq]
      exact maps_pure

/-! ## Converting -/

/-- An action converts an integer of some width to the float nearest to a number. -/
structure Converts (action : Emit ValueId) (builder : Builder) (value : ValueId) (w : Width)
    (f : Binary.Format) (number : BitVec w.bits -> Int) : Prop where
  maps : Maps action builder value (Scalar.int w) fun x => .float f (.ofInt f (number x))
  nearest : forall x, (Binary.Pattern.ofInt f (number x)).IsNearest (number x)

variable {site : Site} {type : DataType}

theorem fromSigned_converts (htype : builder.typeOf value = .int w)
    (hfloat : site.lowering.lower type = .float f) :
    Converts (fromSigned site type value) builder value w f fun x => x.toInt.bmod (2 ^ f.bits) where
  maps := by
    unfold fromSigned
    simp only [hfloat]
    refine (maps_resize_signed htype).compute fun frame result x hx => ?_
    rw [Operation.eval_ofSigned f hx, BitVec.toInt_ofInt, f.bits_width]
  nearest := by
    intro x
    have hword := f.two_pow_bits_le
    have hpos := Nat.two_pow_pos f.bits
    have hbelow : _ ≤ x.toInt.bmod (2 ^ f.bits) := Int.le_bmod hpos
    have habove : x.toInt.bmod (2 ^ f.bits) < _ := Int.bmod_lt hpos
    apply Binary.Pattern.ofInt_isNearest
    omega

theorem fromUnsigned_converts (htype : builder.typeOf value = .int w)
    (hfloat : site.lowering.lower type = .float f) :
    Converts (fromUnsigned site type value) builder value w f
      fun x => (x.toNat % 2 ^ f.bits : Nat) where
  maps := by
    unfold fromUnsigned
    simp only [hfloat]
    refine (maps_resize_unsigned htype).compute fun frame result x hx => ?_
    rw [Operation.eval_ofUnsigned f hx, BitVec.toNat_setWidth, f.bits_width]
  nearest := by
    intro x
    have hword := f.two_pow_bits_le
    have hless := Nat.mod_lt x.toNat (Nat.two_pow_pos f.bits)
    apply Binary.Pattern.ofInt_isNearest
    omega

/-! ## Numbers that are kept -/

section Kept

variable (f : Binary.Format) (x : BitVec w.bits)

theorem bmod_eq_toInt_iff :
    x.toInt.bmod (2 ^ f.bits) = x.toInt ↔
      -2 ^ (f.bits - 1) ≤ x.toInt ∧ x.toInt < 2 ^ (f.bits - 1) := by
  have hhalf : 2 ^ f.bits = 2 * 2 ^ (f.bits - 1) := by
    cases f
    · rfl
    · rfl
  have hcast : ((2 ^ (f.bits - 1) : Nat) : Int) = 2 ^ (f.bits - 1) := Int.natCast_pow 2 _
  have hpos := Nat.two_pow_pos (f.bits - 1)
  constructor
  · intro hkept
    have hbelow : _ ≤ x.toInt.bmod (2 ^ f.bits) := Int.le_bmod (by omega)
    have habove : x.toInt.bmod (2 ^ f.bits) < _ := Int.bmod_lt (by omega)
    omega
  · rintro ⟨hbelow, habove⟩
    apply Int.bmod_eq_of_le
    · omega
    · omega

theorem mod_eq_toNat_iff : x.toNat % 2 ^ f.bits = x.toNat ↔ x.toNat < 2 ^ f.bits :=
  Nat.mod_eq_iff_lt (Nat.ne_of_gt (Nat.two_pow_pos f.bits))

theorem kept_of_bits_le (h : w.bits ≤ f.bits) :
    x.toInt.bmod (2 ^ f.bits) = x.toInt ∧ x.toNat % 2 ^ f.bits = x.toNat := by
  have hnat : 2 ^ w.bits ≤ 2 ^ f.bits := Nat.pow_le_pow_right Nat.two_pos h
  have hint : (2 : Int) ^ (w.bits - 1) ≤ 2 ^ (f.bits - 1) := by
    have hhalf := Nat.pow_le_pow_right Nat.two_pos (Nat.sub_le_sub_right h 1)
    have hword : ((2 ^ (w.bits - 1) : Nat) : Int) = 2 ^ (w.bits - 1) := Int.natCast_pow 2 _
    have hfloat : ((2 ^ (f.bits - 1) : Nat) : Int) = 2 ^ (f.bits - 1) := Int.natCast_pow 2 _
    omega
  constructor
  · rw [bmod_eq_toInt_iff]
    have hbelow := x.le_toInt
    have habove : x.toInt < _ := BitVec.toInt_lt
    omega
  · rw [mod_eq_toNat_iff]
    exact Nat.lt_of_lt_of_le x.isLt hnat

end Kept

/-- Both conversions give the integer as many bits as the float has, and convert the number that
these stand for.  It is that of the integer itself exactly if it fits, as it always does where the
integer has no more bits than the float. -/
theorem conversions (htype : builder.typeOf value = .int w)
    (hfloat : site.lowering.lower type = .float f) :
    Converts (fromSigned site type value) builder value w f
        (fun x => x.toInt.bmod (2 ^ f.bits)) ∧
      Converts (fromUnsigned site type value) builder value w f
        (fun x => (x.toNat % 2 ^ f.bits : Nat)) ∧
      (forall x : BitVec w.bits,
        (x.toInt.bmod (2 ^ f.bits) = x.toInt ↔
          -2 ^ (f.bits - 1) ≤ x.toInt ∧ x.toInt < 2 ^ (f.bits - 1)) ∧
        (x.toNat % 2 ^ f.bits = x.toNat ↔ x.toNat < 2 ^ f.bits)) ∧
      (w.bits ≤ f.bits -> forall x : BitVec w.bits,
        x.toInt.bmod (2 ^ f.bits) = x.toInt ∧ x.toNat % 2 ^ f.bits = x.toNat) :=
  ⟨fromSigned_converts htype hfloat, fromUnsigned_converts htype hfloat,
    fun x => ⟨bmod_eq_toInt_iff f x, mod_eq_toNat_iff f x⟩, fun h x => kept_of_bits_le f x h⟩

/-- An integer of 16 bits is kept, and one of 64 bits is kept if it has no more than 32. -/
theorem conversions_sample :
    let site : Site :=
      { lowering := Lowering.ofTarget { os := .posix, intWidth := .bits16 } .i64
        signature := { params := [.i16, .i64], returns := [] }
        signatureOf? := fun _ => none
        isFinal := fun _ => false }
    let builder := Builder.start [.i16, .i64] []
    builder.typeOf 0 = .i16 ∧ builder.typeOf 1 = .i64 ∧ site.lowering.lower .float32 = .f32 ∧
      Converts (fromSigned site .float32 0) builder 0 .w16 .single
        (fun x => x.toInt.bmod (2 ^ 32)) ∧
      (forall x : BitVec 16, x.toInt.bmod (2 ^ 32) = x.toInt) ∧
      Converts (fromUnsigned site .float32 1) builder 1 .w64 .single
        (fun x => (x.toNat % 2 ^ 32 : Nat)) ∧
      ((2 ^ 32 + 1) % 2 ^ 32 = 2 ^ 32 + 1 ↔ 2 ^ 32 + 1 < 2 ^ 32) := by
  intro site builder
  have hnarrow : builder.typeOf 0 = .int .w16 := rfl
  have hwide : builder.typeOf 1 = .int .w64 := rfl
  have hfloat : site.lowering.lower .float32 = .float .single := rfl
  rcases conversions hnarrow hfloat with ⟨hsigned, _, _, hkept⟩
  rcases conversions hwide hfloat with ⟨_, hunsigned, hfits, _⟩
  refine ⟨hnarrow, hwide, hfloat, hsigned, fun x => (hkept (by decide) x).left, hunsigned, ?_⟩
  exact (hfits (2 ^ 32 + 1)).right

end Emit

/-! ## Numbers that are not kept -/

namespace Executable

/-- Converts a signed integer of 64 bits to a float of 32. -/
def converting : Body where
  script := .step (.param "x" 0) (.step (.fromSigned "y" .float32 "x") .done)
  returns := ["y"]

/-- Of an integer that has more bits than the float, only the low ones are converted. -/
theorem converting_cuts :
    let unit := (CompilationUnit.define "f" (.query [.int64] .float32) .exported converting).leaves
      (.ofModule .empty "unit" { os := .posix, intWidth := .unspecified } [])
    let program : Executable Unit := { module := unit.module, name := "unit", table := .empty }
    (forall world : World Unit, program.call { index := 0 } [.int .w64 0x100000001#64] world =
      some ([.float .single (.ofInt .single 1)], world)) ∧
        Binary.Pattern.ofInt .single 1 ≠ .ofInt .single 0x100000001 := by
  intro unit program
  constructor
  · intro world
    rfl
  · decide +kernel

end Executable
end Provision
