/-!
# Unsigned decimal numerals

An optional plus sign followed by at least one ASCII digit; leading zeros are allowed.  The value
has to fit into a word of 32 bits.
-/

namespace Provision
namespace Text

def digit? (c : Char) : Option Nat :=
  if '0' <= c && c <= '9' then some (c.toNat - '0'.toNat) else none

/-- Puts a digit behind the digits of a word, unless the word overflows. -/
def shiftIn? (high d : Nat) : Option Nat :=
  if 10 * high + d < UInt32.size then some (10 * high + d) else none

/-- Value of a run of digits behind those that have the value `high`. -/
def digitsFrom? (high : Nat) : List Char -> Option Nat
  | [] => some high
  | c :: rest =>
      match (digit? c).bind (shiftIn? high) with
      | some value => digitsFrom? value rest
      | none => none

def digits? : List Char -> Option Nat
  | [] => none
  | chars => digitsFrom? 0 chars

/-- Value of a numeral. -/
def numeral? : List Char -> Option Nat
  | '+' :: rest => digits? rest
  | chars => digits? chars

end Text
end Provision
