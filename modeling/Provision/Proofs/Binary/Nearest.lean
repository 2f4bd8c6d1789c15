import Provision.Binary.Convert

/-!
# The number nearest to an integer

An integer of a machine word is converted to the finite number of a format that is nearest to it.
Of two numbers that are as near, it is the one whose last place is even.
-/

namespace Provision
namespace Binary

/-! ## Nearest numbers -/

namespace Pattern

variable {f : Format}

/-- How many units a finite number stands for. -/
def units? (x : Pattern f) : Option Int :=
  match x.datum with
  | .finite negative units => some (signed negative units)
  | _ => none

/-- A finite number is nearest to an integer.  It has the sign of the integer, no other number is
nearer, and if another one is as near, the last place is even. -/
structure IsNearest (x : Pattern f) (n : Int) : Prop where
  sign : x.negative = decide (n < 0)
  nearest : exists units, x.units? = some units ∧
    forall (y : Pattern f) others, y.units? = some others ->
      (units - n * 2 ^ f.scale).natAbs ≤ (others - n * 2 ^ f.scale).natAbs ∧
        ((units - n * 2 ^ f.scale).natAbs = (others - n * 2 ^ f.scale).natAbs ->
          units = others ∨ x.magnitude % 2 = 0)

end Pattern

/-! ## Whole quotients -/

/-- A quotient that is no tie is rounded by less than one half. -/
theorem nearestInt_lt {num den : Nat} (hden : 0 < den) (h : 2 * (num % den) ≠ den) :
    2 * (den * nearestInt num den) < 2 * num + den ∧
      2 * num < 2 * (den * nearestInt num den) + den := by
  have hsplit : den * (num / den) + num % den = num := Nat.div_add_mod num den
  have hrest : num % den < den := Nat.mod_lt num hden
  simp only [nearestInt]
  split
  · omega
  · split
    · rw [Nat.mul_add]
      omega
    · omega

/-- Other multiples of the denominator are farther away, or as far and the quotient is even. -/
theorem nearestInt_nearest {num den k : Nat} (hden : 0 < den) (hk : k ≠ nearestInt num den) :
    ((den * nearestInt num den : Nat) - num : Int).natAbs < ((den * k : Nat) - num : Int).natAbs ∨
      ((den * nearestInt num den : Nat) - num : Int).natAbs =
          ((den * k : Nat) - num : Int).natAbs ∧ nearestInt num den % 2 = 0 := by
  have habove := nearestInt_mul_le num den
  have hbelow := le_nearestInt_mul num hden
  have happart : den * k + den ≤ den * nearestInt num den ∨
      den * nearestInt num den + den ≤ den * k := by
    rcases Nat.lt_or_gt_of_ne hk with hlt | hgt
    · exact Or.inl (Nat.mul_le_mul_left den hlt)
    · exact Or.inr (Nat.mul_le_mul_left den hgt)
  by_cases htie : 2 * (num % den) = den
  · have heven := even_nearestInt htie
    omega
  · rcases nearestInt_lt hden htie with ⟨hless, hmore⟩
    omega

/-! ## Magnitudes -/

/-- The units of a magnitude, as a significand and the exponent of a power of two. -/
theorem exists_significand (f : Format) (magnitude : Nat) :
    exists significand exponent, significand < 2 ^ (f.fraction + 1) ∧
      Pattern.unitsOf f magnitude = significand * 2 ^ exponent := by
  have hfraction : magnitude % 2 ^ f.fraction < 2 ^ f.fraction :=
    Nat.mod_lt _ (Nat.two_pow_pos f.fraction)
  have hpow : 2 ^ (f.fraction + 1) = 2 * 2 ^ f.fraction := Nat.pow_succ'
  unfold Pattern.unitsOf
  simp only
  split
  · exact ⟨_, 0, by omega, (Nat.mul_one _).symm⟩
  · exact ⟨_, _, by omega, rfl⟩

theorem unitsOf_fields (f : Format) (exponent : Nat) {fraction : Nat}
    (h : fraction < 2 ^ f.fraction) :
    Pattern.unitsOf f (exponent * 2 ^ f.fraction + fraction) =
      if exponent = 0 then fraction else (2 ^ f.fraction + fraction) * 2 ^ (exponent - 1) := by
  have hexponent : (exponent * 2 ^ f.fraction + fraction) / 2 ^ f.fraction = exponent := by
    rw [Nat.mul_comm, Nat.mul_add_div (Nat.two_pow_pos f.fraction), Nat.div_eq_of_lt h,
      Nat.add_zero]
  have hfraction : (exponent * 2 ^ f.fraction + fraction) % 2 ^ f.fraction = fraction := by
    rw [Nat.mul_comm, Nat.mul_add_mod, Nat.mod_eq_of_lt h]
  simp only [Pattern.unitsOf, hexponent, hfraction]

/-- The significand is added to the exponent, so that one that carries makes it one more. -/
theorem unitsOf_add (f : Format) {shift significand : Nat}
    (hle : significand ≤ 2 * 2 ^ f.fraction)
    (hleading : 2 ^ f.fraction ≤ significand ∨ shift = 0) :
    Pattern.unitsOf f (shift * 2 ^ f.fraction + significand) = significand * 2 ^ shift := by
  have hpos := Nat.two_pow_pos f.fraction
  rcases Nat.lt_or_ge significand (2 ^ f.fraction) with hsmall | hlarge
  · have hshift : shift = 0 := by omega
    rw [hshift, unitsOf_fields f 0 hsmall, if_pos rfl, Nat.pow_zero, Nat.mul_one]
  · rcases Nat.lt_or_eq_of_le hle with hlt | rfl
    · have hsplit : shift * 2 ^ f.fraction + significand =
          (shift + 1) * 2 ^ f.fraction + (significand - 2 ^ f.fraction) := by
        rw [Nat.add_mul]
        omega
      rw [hsplit, unitsOf_fields f (shift + 1) (by omega), if_neg (Nat.succ_ne_zero shift),
        Nat.add_sub_cancel, Nat.add_sub_cancel' hlarge]
    · rw [← Nat.add_mul, ← Nat.add_zero ((shift + 2) * 2 ^ f.fraction),
        unitsOf_fields f (shift + 2) hpos, if_neg (Nat.succ_ne_zero (shift + 1))]
      have hpow : 2 ^ (shift + 2 - 1) = 2 * 2 ^ shift := Nat.pow_succ'
      rw [hpow]
      ac_rfl

/-! ## Integers -/

section Integers

variable (f : Format) (units : Nat)

/-- Whole units of which more places are left than fit have all places of a significand. -/
theorem le_of_excess (h : 0 < excess f units) :
    2 ^ f.fraction * 2 ^ excess f units ≤ units := by
  have hplaces : f.fraction + excess f units = Nat.log2 units := by
    unfold excess at h ⊢
    omega
  rw [← Nat.pow_add, hplaces]
  apply Nat.log2_self_le
  intro hzero
  rw [hzero] at h
  simp [excess] at h

theorem lt_of_excess : units < 2 * 2 ^ f.fraction * 2 ^ excess f units := by
  have hlt : units < 2 ^ (Nat.log2 units + 1) := Nat.lt_log2_self
  have hle : 2 ^ (Nat.log2 units + 1) ≤ 2 ^ (1 + f.fraction + excess f units) := by
    apply Nat.pow_le_pow_right Nat.two_pos
    unfold excess
    omega
  have hpow : 2 ^ (1 + f.fraction + excess f units) = 2 * 2 ^ f.fraction * 2 ^ excess f units := by
    rw [Nat.pow_add, Nat.pow_add, Nat.pow_one]
  omega

/-- The significand that whole units are rounded to. -/
def rounded : Nat :=
  nearestInt units (2 ^ excess f units)

theorem rounded_le : rounded f units ≤ 2 * 2 ^ f.fraction := by
  have hpos := Nat.two_pow_pos (excess f units)
  have hbound := nearestInt_mul_le units (2 ^ excess f units)
  have hlt := lt_of_excess f units
  unfold rounded
  apply Nat.le_of_not_lt
  intro hmore
  have hmul := Nat.mul_le_mul_left (2 ^ excess f units) hmore
  rw [Nat.succ_eq_add_one, Nat.mul_add, Nat.mul_one, Nat.mul_comm _ (2 * 2 ^ f.fraction)] at hmul
  omega

theorem le_rounded (h : 0 < excess f units) : 2 ^ f.fraction ≤ rounded f units := by
  have hpos := Nat.two_pow_pos (excess f units)
  have hbound := le_nearestInt_mul units hpos
  have hle := le_of_excess f units h
  unfold rounded
  apply Nat.le_of_not_lt
  intro hless
  have hmul := Nat.mul_le_mul_left (2 ^ excess f units) hless
  rw [Nat.succ_eq_add_one, Nat.mul_add, Nat.mul_one, Nat.mul_comm _ (2 ^ f.fraction)] at hmul
  omega

/-- No magnitude has units nearer than the rounded ones.  If other ones are as near, the rounded
significand is even. -/
theorem rounded_nearest (magnitude : Nat) :
    ((rounded f units * 2 ^ excess f units : Nat) - units : Int).natAbs <
        (Pattern.unitsOf f magnitude - units : Int).natAbs ∨
      ((rounded f units * 2 ^ excess f units : Nat) - units : Int).natAbs =
          (Pattern.unitsOf f magnitude - units : Int).natAbs ∧
        (rounded f units * 2 ^ excess f units = Pattern.unitsOf f magnitude ∨
          rounded f units % 2 = 0) := by
  have hpos := Nat.two_pow_pos (excess f units)
  have hnearest : forall k, k ≠ rounded f units ->
      ((2 ^ excess f units * rounded f units : Nat) - units : Int).natAbs <
          ((2 ^ excess f units * k : Nat) - units : Int).natAbs ∨
        ((2 ^ excess f units * rounded f units : Nat) - units : Int).natAbs =
            ((2 ^ excess f units * k : Nat) - units : Int).natAbs ∧ rounded f units % 2 = 0 :=
    fun k hk => nearestInt_nearest hpos hk
  rw [Nat.mul_comm (rounded f units)]
  rcases exists_significand f magnitude with ⟨significand, exponent, hsignificand, hunits⟩
  rw [hunits]
  rcases Nat.lt_or_ge exponent (excess f units) with hless | hmore
  · -- The other number has a smaller exponent, so that it is less than all with the greater one.
    have hle := le_of_excess f units (Nat.zero_lt_of_lt hless)
    have hlt : significand * 2 ^ exponent < 2 ^ f.fraction * 2 ^ excess f units := by
      calc
        significand * 2 ^ exponent < 2 ^ (f.fraction + 1) * 2 ^ exponent :=
          Nat.mul_lt_mul_of_pos_right hsignificand (Nat.two_pow_pos exponent)
        _ = 2 ^ f.fraction * 2 ^ (exponent + 1) := by
          rw [← Nat.pow_add, ← Nat.pow_add, Nat.add_assoc, Nat.add_comm 1]
        _ ≤ 2 ^ f.fraction * 2 ^ excess f units :=
          Nat.mul_le_mul_left _ (Nat.pow_le_pow_right Nat.two_pos hless)
    by_cases hk : 2 ^ f.fraction = rounded f units
    · rw [← hk, Nat.mul_comm]
      omega
    · have hcases := hnearest _ hk
      rw [Nat.mul_comm _ (2 ^ f.fraction)] at hcases
      omega
  · -- The other number is a multiple of the same power.
    have hmultiple : significand * 2 ^ exponent =
        2 ^ excess f units * (significand * 2 ^ (exponent - excess f units)) := by
      rw [Nat.mul_left_comm, ← Nat.pow_add, Nat.add_sub_cancel' hmore]
    rw [hmultiple]
    by_cases hk : significand * 2 ^ (exponent - excess f units) = rounded f units
    · rw [hk]
      exact Or.inr ⟨rfl, Or.inl rfl⟩
    · rcases hnearest _ hk with hlt | ⟨heq, heven⟩
      · exact Or.inl hlt
      · exact Or.inr ⟨heq, Or.inr heven⟩

end Integers

namespace Pattern

variable {f : Format} {n : Int}

theorem unitsOf_zero (f : Format) : unitsOf f 0 = 0 := by
  have h := unitsOf_fields f 0 (Nat.two_pow_pos f.fraction)
  rwa [Nat.zero_mul, Nat.add_zero, if_pos rfl] at h

theorem exists_of_units? {x : Pattern f} {units : Int} (h : x.units? = some units) :
    exists negative, units = signed negative (unitsOf f x.magnitude) := by
  unfold units? datum at h
  split at h
  · rename_i heq
    split at heq
    · cases heq
    · split at heq
      · cases heq
      · cases heq
        exact ⟨_, (Option.some.inj h).symm⟩
  · cases h

/-- An integer of a machine word is far from being rounded to an infinity. -/
theorem rounded_lt_infinity (f : Format) (h : n.natAbs < 2 ^ 64) :
    excess f (n.natAbs * 2 ^ f.scale) * 2 ^ f.fraction + rounded f (n.natAbs * 2 ^ f.scale) <
      f.infinity := by
  have hrounded := rounded_le f (n.natAbs * 2 ^ f.scale)
  have hplaces : Nat.log2 (n.natAbs * 2 ^ f.scale) < 64 + f.scale := by
    by_cases hzero : n.natAbs * 2 ^ f.scale = 0
    · rw [hzero, Nat.log2_zero]
      omega
    · rw [Nat.log2_lt hzero, Nat.pow_add]
      exact Nat.mul_lt_mul_of_pos_right h (Nat.two_pow_pos f.scale)
  have hexcess : excess f (n.natAbs * 2 ^ f.scale) ≤ 63 + f.scale - f.fraction := by
    unfold excess
    omega
  have hmagnitude := Nat.mul_le_mul_right (2 ^ f.fraction) hexcess
  have hlimit : (63 + f.scale - f.fraction) * 2 ^ f.fraction + 2 * 2 ^ f.fraction < f.infinity := by
    cases f
    · decide
    · decide
  omega

theorem ofInt_eq (f : Format) (h : n.natAbs < 2 ^ 64) :
    ofInt f n = make f (decide (n < 0))
      (excess f (n.natAbs * 2 ^ f.scale) * 2 ^ f.fraction +
        rounded f (n.natAbs * 2 ^ f.scale)) := by
  have hfinite := rounded_lt_infinity f h
  unfold rounded at hfinite ⊢
  simp only [ofInt, round, nearest, Nat.div_one, Nat.one_mul]
  rw [Nat.min_eq_left (Nat.le_of_lt hfinite)]

theorem signed_zero (negative : Bool) : signed negative 0 = 0 := by
  cases negative
  · rfl
  · rfl

theorem natAbs_signed_sub (negative : Bool) (a b : Nat) :
    (signed negative a - signed negative b).natAbs = ((a : Int) - b).natAbs := by
  cases negative
  · rfl
  · simp only [signed, if_true]
    omega

theorem natAbs_signed_sub_of_ne {negative other : Bool} (h : other ≠ negative) (a b : Nat) :
    (signed other a - signed negative b).natAbs = a + b := by
  cases negative
  all_goals
    cases other
    all_goals
      first
      | exact absurd rfl h
      | simp only [signed, if_true, if_false, Bool.false_eq_true]
        omega

theorem signed_units (n : Int) (scale : Nat) :
    n * 2 ^ scale = signed (decide (n < 0)) (n.natAbs * 2 ^ scale) := by
  unfold signed
  split
  · rename_i hnegative
    have habs : (n.natAbs : Int) = -n := Int.ofNat_natAbs_of_nonpos (by simp at hnegative; omega)
    rw [Int.natCast_mul, habs, Int.neg_mul, Int.neg_neg, Int.natCast_pow]
    rfl
  · rename_i hpositive
    have habs : (n.natAbs : Int) = n := Int.natAbs_of_nonneg (by simpa using hpositive)
    rw [Int.natCast_mul, habs, Int.natCast_pow]
    rfl

/-- The conversion of an integer is the nearest number. -/
theorem ofInt_isNearest (f : Format) (h : n.natAbs < 2 ^ 64) : (ofInt f n).IsNearest n := by
  have hfinite := rounded_lt_infinity f h
  have hsign := infinity_lt_signBit f
  have hmagnitude : (ofInt f n).magnitude = excess f (n.natAbs * 2 ^ f.scale) * 2 ^ f.fraction +
      rounded f (n.natAbs * 2 ^ f.scale) := by
    rw [ofInt_eq f h, magnitude_make f _ (by omega)]
  have hnegative : (ofInt f n).negative = decide (n < 0) := by
    rw [ofInt_eq f h, negative_make f _ (by omega)]
  have hleading : 2 ^ f.fraction ≤ rounded f (n.natAbs * 2 ^ f.scale) ∨
      excess f (n.natAbs * 2 ^ f.scale) = 0 := by
    rcases Nat.eq_zero_or_pos (excess f (n.natAbs * 2 ^ f.scale)) with hzero | hpos
    · exact Or.inr hzero
    · exact Or.inl (le_rounded f _ hpos)
  have hunits : (ofInt f n).units? = some (signed (decide (n < 0))
      (rounded f (n.natAbs * 2 ^ f.scale) * 2 ^ excess f (n.natAbs * 2 ^ f.scale))) := by
    unfold units? datum
    rw [hmagnitude, if_neg (by omega), if_neg (by omega), hnegative,
      unitsOf_add f (rounded_le f _) hleading]
  have heven : rounded f (n.natAbs * 2 ^ f.scale) % 2 = 0 -> (ofInt f n).magnitude % 2 = 0 := by
    intro hzero
    have hdouble : 2 ^ f.fraction = 2 * 2 ^ (f.fraction - 1) := by
      cases f
      · rfl
      · rfl
    rw [hmagnitude, hdouble, Nat.mul_left_comm, Nat.mul_add_mod]
    exact hzero
  refine ⟨hnegative, _, hunits, ?_⟩
  intro y others hothers
  rcases exists_of_units? hothers with ⟨negative, rfl⟩
  rw [signed_units, natAbs_signed_sub]
  by_cases hsame : negative = decide (n < 0)
  · rw [hsame, natAbs_signed_sub]
    rcases rounded_nearest f (n.natAbs * 2 ^ f.scale) y.magnitude with
      hless | ⟨heq, hunique | hlast⟩
    · exact ⟨Nat.le_of_lt hless, fun hsame => absurd hsame (Nat.ne_of_lt hless)⟩
    · exact ⟨Nat.le_of_eq heq, fun _ => Or.inl (by rw [hunique])⟩
    · exact ⟨Nat.le_of_eq heq, fun _ => Or.inr (heven hlast)⟩
  · rw [natAbs_signed_sub_of_ne hsame]
    -- A number of the other sign is no nearer than zero.
    have hzero := rounded_nearest f (n.natAbs * 2 ^ f.scale) 0
    rw [unitsOf_zero] at hzero
    refine ⟨by omega, ?_⟩
    intro heq
    rcases hzero with hless | ⟨_, hunique | hlast⟩
    · omega
    · have hnone : unitsOf f y.magnitude = 0 := by omega
      rw [hnone, hunique, signed_zero, signed_zero]
      exact Or.inl rfl
    · exact Or.inr (heven hlast)

end Pattern

end Binary
end Provision
