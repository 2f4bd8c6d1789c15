import Mathlib.Data.List.TakeWhile
import Provision.Target

/-!
# Numerals

A numeral may have white space around it, a plus sign in front and zeros before its other digits.
What is read of a text is the value of the numeral that it is, if that fits into a word, and nothing
is read of any other text.
-/

namespace Provision
namespace Text

/-! ## Trimming -/

section Trimming

variable {before after chars : List Char}

/-- What is trimmed off at both ends is white space. -/
theorem exists_of_trim (chars : List Char) :
    exists before after, chars = before ++ trim chars ++ after ∧
      (forall c, c ∈ before -> isBlank c = true) ∧ forall c, c ∈ after -> isBlank c = true := by
  have hstart : chars.takeWhile isBlank ++ trimStart chars = chars :=
    List.takeWhile_append_dropWhile
  have hend : trim chars ++ ((trimStart chars).reverse.takeWhile isBlank).reverse =
      trimStart chars := by
    rw [trim, trimEnd, ← List.reverse_append, List.takeWhile_append_dropWhile,
      List.reverse_reverse]
  refine ⟨chars.takeWhile isBlank, ((trimStart chars).reverse.takeWhile isBlank).reverse, ?_, ?_,
    ?_⟩
  · rw [List.append_assoc, hend, hstart]
  · exact fun c hc => List.mem_takeWhile_imp hc
  · intro c hc
    exact List.mem_takeWhile_imp (List.mem_reverse.mp hc)

theorem trimStart_of_solid (hsolid : forall c, c ∈ chars -> isBlank c = false) :
    trimStart chars = chars := by
  cases chars with
  | nil => rfl
  | cons c rest =>
      have hfirst : isBlank c = false := hsolid c List.mem_cons_self
      exact List.dropWhile_cons_of_neg (by simp [hfirst])

theorem trimEnd_append_of_solid (hsolid : forall c, c ∈ chars -> isBlank c = false)
    (hafter : forall c, c ∈ after -> isBlank c = true) : trimEnd (chars ++ after) = chars := by
  have hblank : forall c, c ∈ after.reverse -> isBlank c = true :=
    fun c hc => hafter c (List.mem_reverse.mp hc)
  have hchars : forall c, c ∈ chars.reverse -> isBlank c = false :=
    fun c hc => hsolid c (List.mem_reverse.mp hc)
  have hleft : trimStart chars.reverse = chars.reverse := trimStart_of_solid hchars
  rw [trimEnd, List.reverse_append, List.dropWhile_append_of_pos hblank]
  rw [trimStart] at hleft
  rw [hleft, List.reverse_reverse]

/-- Trimming leaves what has no white space in it. -/
theorem trim_of_solid (hbefore : forall c, c ∈ before -> isBlank c = true)
    (hsolid : forall c, c ∈ chars -> isBlank c = false)
    (hafter : forall c, c ∈ after -> isBlank c = true) :
    trim (before ++ chars ++ after) = chars := by
  have hstart : trimStart (before ++ chars ++ after) = trimStart (chars ++ after) := by
    rw [trimStart, List.append_assoc, List.dropWhile_append_of_pos hbefore]
    rfl
  rw [trim, hstart]
  cases chars with
  | nil =>
      have hnothing : trimStart after = [] := List.dropWhile_eq_nil_iff.mpr hafter
      rw [List.nil_append, hnothing]
      rfl
  | cons c rest =>
      have hfirst : isBlank c = false := hsolid c List.mem_cons_self
      have hkept : trimStart (c :: rest ++ after) = c :: rest ++ after :=
        List.dropWhile_cons_of_neg (by simp [hfirst])
      rw [hkept]
      exact trimEnd_append_of_solid hsolid hafter

end Trimming

/-! ## Digits -/

theorem digit?_eq_some_iff {c : Char} {d : Nat} :
    digit? c = some d ↔ c.isDigit = true ∧ c.toNat - '0'.toNat = d := by
  have hdigit : ('0' <= c && c <= '9') = c.isDigit := rfl
  unfold digit?
  rw [hdigit]
  cases c.isDigit with
  | false => simp
  | true => simp

theorem isBlank_of_isDigit {c : Char} (h : c.isDigit = true) : isBlank c = false := by
  have hbounds : 48 ≤ c.toNat ∧ c.toNat ≤ 57 := by
    simp only [Char.isDigit, ge_iff_le, Bool.and_eq_true, decide_eq_true_eq,
      UInt32.le_iff_toNat_le] at h
    exact h
  simp only [isBlank, blankRanges, List.any_cons, List.any_nil, Bool.or_false,
    Bool.or_eq_false_iff, Bool.and_eq_false_iff, decide_eq_false_iff_not]
  omega

theorem le_ofDigitChars (chars : List Char) (high : Nat) :
    high ≤ Nat.ofDigitChars 10 chars high := by
  induction chars generalizing high with
  | nil => exact Nat.le_refl high
  | cons c rest ih =>
      rw [Nat.ofDigitChars_cons]
      have hrest := ih (10 * high + (c.toNat - '0'.toNat))
      omega

/-- Digits are read to their value if it fits into a word.  A word that overflows on the way has
overflowed for good. -/
theorem digitsFrom?_eq_some_iff {high value : Nat} (hhigh : high < UInt32.size)
    {chars : List Char} :
    digitsFrom? high chars = some value ↔
      (forall c, c ∈ chars -> c.isDigit = true) ∧ Nat.ofDigitChars 10 chars high = value ∧
        value < UInt32.size := by
  induction chars generalizing high with
  | nil =>
      rw [digitsFrom?, Nat.ofDigitChars_nil, Option.some.injEq]
      constructor
      · rintro rfl
        exact ⟨by simp, rfl, hhigh⟩
      · exact fun h => h.right.left
  | cons c rest ih =>
      rw [digitsFrom?, Nat.ofDigitChars_cons]
      cases hdigit : digit? c with
      | none =>
          constructor
          · intro h
            cases h
          · rintro ⟨hdigits, _⟩
            have hc : c.isDigit = true := hdigits c List.mem_cons_self
            rw [digit?_eq_some_iff.mpr ⟨hc, rfl⟩] at hdigit
            cases hdigit
      | some d =>
          rcases digit?_eq_some_iff.mp hdigit with ⟨hc, rfl⟩
          rw [Option.bind_some, shiftIn?]
          by_cases hfits : 10 * high + (c.toNat - '0'.toNat) < UInt32.size
          · rw [if_pos hfits]
            simp only
            rw [ih hfits, List.forall_mem_cons]
            exact ⟨fun h => ⟨⟨hc, h.left⟩, h.right⟩, fun h => ⟨h.left.right, h.right⟩⟩
          · rw [if_neg hfits]
            constructor
            · intro h
              cases h
            · rintro ⟨_, rfl, hlast⟩
              have hgrown := le_ofDigitChars rest (10 * high + (c.toNat - '0'.toNat))
              exact absurd (Nat.lt_of_le_of_lt hgrown hlast) hfits

/-! ## Numerals -/

/-- A decimal numeral with white space around it and a plus sign, or none, in front. -/
structure Numeral where
  before : List Char
  isSigned : Bool
  digits : List Char
  after : List Char
  isBlank_before : forall c, c ∈ before -> isBlank c = true
  digits_ne_nil : digits ≠ []
  isDigit_digits : forall c, c ∈ digits -> c.isDigit = true
  isBlank_after : forall c, c ∈ after -> isBlank c = true

/-- A plus sign, or none. -/
def sign (isSigned : Bool) : List Char :=
  if isSigned then ['+'] else []

namespace Numeral

def text (numeral : Numeral) : String :=
  String.ofList (numeral.before ++ (sign numeral.isSigned ++ numeral.digits) ++ numeral.after)

/-- The exact value of the digits, however many there are. -/
def value (numeral : Numeral) : Nat :=
  Nat.ofDigitChars 10 numeral.digits 0

theorem trim_text (numeral : Numeral) :
    trim numeral.text.toList = sign numeral.isSigned ++ numeral.digits := by
  rw [text, String.toList_ofList]
  refine trim_of_solid numeral.isBlank_before ?_ numeral.isBlank_after
  intro c hc
  rcases List.mem_append.mp hc with hsign | hdigit
  · cases hsigned : numeral.isSigned with
    | false =>
        rw [hsigned] at hsign
        cases hsign
    | true =>
        rw [hsigned] at hsign
        rw [List.mem_singleton.mp hsign]
        decide
  · exact isBlank_of_isDigit (numeral.isDigit_digits c hdigit)

end Numeral

theorem digits?_eq_some_iff {chars : List Char} {value : Nat} :
    digits? chars = some value ↔
      chars ≠ [] ∧ (forall c, c ∈ chars -> c.isDigit = true) ∧
        Nat.ofDigitChars 10 chars 0 = value ∧ value < UInt32.size := by
  cases chars with
  | nil => simp [digits?]
  | cons c rest =>
      rw [digits?, digitsFrom?_eq_some_iff (by decide)]
      · simp
      · exact List.cons_ne_nil c rest

/-- A plus sign is the only character that may stand before the digits. -/
theorem numeral?_sign_append (isSigned : Bool) {digits : List Char}
    (hdigits : forall c, c ∈ digits -> c.isDigit = true) :
    numeral? (sign isSigned ++ digits) = digits? digits := by
  cases isSigned with
  | true => rfl
  | false =>
      show numeral? digits = digits? digits
      unfold numeral?
      split
      · rename_i rest
        have hplus : ('+').isDigit = true := hdigits '+' List.mem_cons_self
        cases hplus
      · rfl

theorem exists_of_numeral? {chars : List Char} {value : Nat} (h : numeral? chars = some value) :
    exists isSigned digits, chars = sign isSigned ++ digits ∧ digits? digits = some value := by
  unfold numeral? at h
  split at h
  · rename_i rest
    exact ⟨true, rest, rfl, h⟩
  · exact ⟨false, chars, rfl, h⟩

/-- What is read is the value of a numeral. -/
theorem exists_of_numeral?_trim {text : String} {value : Nat}
    (h : numeral? (trim text.toList) = some value) :
    exists numeral : Numeral, numeral.text = text ∧ numeral.value = value := by
  rcases exists_of_numeral? h with ⟨isSigned, digits, hsplit, hvalue⟩
  rcases digits?_eq_some_iff.mp hvalue with ⟨hne, hdigits, hvalue, _⟩
  rcases exists_of_trim text.toList with ⟨before, after, htext, hbefore, hafter⟩
  refine ⟨⟨before, isSigned, digits, after, hbefore, hne, hdigits, hafter⟩, ?_, hvalue⟩
  rw [Numeral.text, ← hsplit, ← htext, String.ofList_toList]

/-- A numeral is read to its value if that fits into a word, and not at all if it does not. -/
theorem numeral?_trim_text (numeral : Numeral) :
    numeral? (trim numeral.text.toList) =
      if numeral.value < UInt32.size then some numeral.value else none := by
  rw [numeral.trim_text, numeral?_sign_append _ numeral.isDigit_digits]
  ext value
  rw [digits?_eq_some_iff, Option.ite_none_right_eq_some, Option.some.injEq]
  constructor
  · rintro ⟨_, _, rfl, hfits⟩
    exact ⟨hfits, rfl⟩
  · rintro ⟨hfits, rfl⟩
    exact ⟨numeral.digits_ne_nil, numeral.isDigit_digits, rfl, hfits⟩

/-- Zeros in front do not count. -/
theorem ofDigitChars_zeros (zeros : Nat) (digits : List Char) :
    Nat.ofDigitChars 10 (List.replicate zeros '0' ++ digits) 0 =
      Nat.ofDigitChars 10 digits 0 := by
  induction zeros with
  | zero => rfl
  | succ zeros ih =>
      rw [List.replicate_succ, List.cons_append, Nat.ofDigitChars_cons]
      exact ih

end Text

/-! ## Bit counts -/

namespace IntWidth

theorem ofBits?_eq_some_iff {n : Nat} {width : IntWidth} :
    ofBits? n = some width ↔ n = width.bits := by
  constructor
  · exact fun h => (bits_of_ofBits? h).symm
  · rintro rfl
    exact ofBits?_bits width

theorem bits_lt_size (width : IntWidth) : width.bits < UInt32.size := by
  cases width
  all_goals decide

/-- The bit count of a width in decimal, with zeros in front and white space around. -/
def numeral (width : IntWidth) (zeros : Nat) (before after : List Char)
    (hbefore : forall c, c ∈ before -> Text.isBlank c = true)
    (hafter : forall c, c ∈ after -> Text.isBlank c = true) : Text.Numeral where
  before := before
  isSigned := false
  digits := List.replicate zeros '0' ++ (toString width.bits).toList
  after := after
  isBlank_before := hbefore
  digits_ne_nil := by
    rw [Nat.toString_eq_ofList_toDigits, String.toList_ofList]
    simp [Nat.toDigits_ne_nil]
  isDigit_digits := by
    intro c hc
    rcases List.mem_append.mp hc with hzero | hdigit
    · rw [List.eq_of_mem_replicate hzero]
      rfl
    · rw [Nat.toString_eq_ofList_toDigits, String.toList_ofList] at hdigit
      exact Nat.isDigit_of_mem_toDigits (by decide) (by decide) hdigit
  isBlank_after := hafter

theorem value_numeral (width : IntWidth) (zeros : Nat) {before after : List Char}
    (hbefore : forall c, c ∈ before -> Text.isBlank c = true)
    (hafter : forall c, c ∈ after -> Text.isBlank c = true) :
    (width.numeral zeros before after hbefore hafter).value = width.bits := by
  rw [Text.Numeral.value, numeral, Text.ofDigitChars_zeros, Nat.toString_eq_ofList_toDigits,
    String.toList_ofList]
  exact Nat.ofDigitChars_ten_toDigits

theorem text_numeral (width : IntWidth) (zeros : Nat) {before after : List Char}
    (hbefore : forall c, c ∈ before -> Text.isBlank c = true)
    (hafter : forall c, c ∈ after -> Text.isBlank c = true) :
    (width.numeral zeros before after hbefore hafter).text =
      String.ofList (before ++ (List.replicate zeros '0' ++ (toString width.bits).toList) ++
        after) := by
  simp only [Text.Numeral.text, numeral, Text.sign, Bool.false_eq_true, if_false, List.nil_append]

theorem ofText?_text (numeral : Text.Numeral) :
    ofText? numeral.text =
      if numeral.value < UInt32.size then ofBits? numeral.value else none := by
  rw [ofText?, Text.numeral?_trim_text]
  split
  · rfl
  · rfl

theorem ofText?_text_of_value {numeral : Text.Numeral} {width : IntWidth}
    (h : numeral.value = width.bits) : ofText? numeral.text = some width := by
  rw [ofText?_text, h, if_pos width.bits_lt_size, ofBits?_bits]

/-- A text is read as a width exactly if it is a numeral of its bit count.  Numerals whose values do
not fit into a word are not read, whatever is left of the values in a word.  So the decimal of a bit
count is read as its width with any zeros in front and any white space around. -/
theorem reads_numerals :
    (forall text width, ofText? text = some width ↔
      exists numeral : Text.Numeral, numeral.text = text ∧ numeral.value = width.bits) ∧
    (forall numeral : Text.Numeral, UInt32.size ≤ numeral.value ->
      ofText? numeral.text = none) ∧
    forall (width : IntWidth) zeros before after,
      (forall c, c ∈ before -> Text.isBlank c = true) ->
        (forall c, c ∈ after -> Text.isBlank c = true) ->
          ofText? (String.ofList (before ++
            (List.replicate zeros '0' ++ (toString width.bits).toList) ++ after)) =
              some width := by
  refine ⟨?_, ?_, ?_⟩
  · intro text width
    constructor
    · intro h
      rcases Option.bind_eq_some_iff.mp h with ⟨value, hvalue, hwidth⟩
      rcases Text.exists_of_numeral?_trim hvalue with ⟨numeral, htext, rfl⟩
      exact ⟨numeral, htext, ofBits?_eq_some_iff.mp hwidth⟩
    · rintro ⟨numeral, rfl, hvalue⟩
      exact ofText?_text_of_value hvalue
  · intro numeral hsize
    rw [ofText?_text, if_neg (Nat.not_lt.mpr hsize)]
  · intro width zeros before after hbefore hafter
    rw [← width.text_numeral zeros hbefore hafter]
    exact ofText?_text_of_value (width.value_numeral zeros hbefore hafter)

/-- A bit count with zeros in front and with white space beyond ASCII around it, and a numeral that
would leave the same bit count in a word that wraps. -/
theorem reads_numerals_overflowing :
    let beyond : Text.Numeral :=
      { before := [' ']
        isSigned := true
        digits := ['4', '2', '9', '4', '9', '6', '7', '3', '2', '8']
        after := []
        isBlank_before := List.all_eq_true.mp (by decide)
        digits_ne_nil := by simp
        isDigit_digits := List.all_eq_true.mp (by decide)
        isBlank_after := List.all_eq_true.mp (by decide) }
    (beyond.text = " +4294967328" ∧ beyond.value % UInt32.size = bits32.bits ∧
        ofText? " +4294967328" = none) ∧
      ofText? "\u2003\t00032\u00a0" = some bits32 := by
  intro beyond
  have htext : beyond.text = " +4294967328" := by decide
  have hnone := reads_numerals.right.left beyond (by decide)
  have hsome := reads_numerals.right.right bits32 3 ['\u2003', '\t'] ['\u00a0']
    (List.all_eq_true.mp (by decide)) (List.all_eq_true.mp (by decide))
  rw [htext] at hnone
  exact ⟨⟨htext, by decide, hnone⟩, hsome⟩

end IntWidth
end Provision
