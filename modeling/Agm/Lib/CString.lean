import Mathlib.Algebra.Order.Ring.Int
import Mathlib.Data.List.Infix

/-!
# Strings of C

A string is the list of its characters, the terminating zero left out.
-/

namespace Agm.Lib

abbrev CString := List Char

namespace CString

instance : LawfulBEq CString := inferInstance

/-- What `strlcpy` and `snprintf` leave of `s` in a buffer of `size` bytes. -/
def bounded (size : Nat) (s : CString) : CString := s.take (size - 1)

/-- `strstr`: where `needle` starts for the first time. -/
def strstr (needle : CString) : CString → Option Nat
  | [] => if needle = [] then some 0 else none
  | c :: cs => if needle.isPrefixOf (c :: cs) then some 0 else (strstr needle cs).map (· + 1)

/-- `%d` of a number that is not negative. -/
def decimal (n : Nat) : CString := Nat.toDigits 10 n

/-- The number that digits stand for, up to the first other character. -/
def digitsValue : CString → Nat → Nat
  | [], acc => acc
  | c :: cs, acc => if c.isDigit then digitsValue cs (10 * acc + (c.toNat - '0'.toNat)) else acc

/-- `atoi` of a string without white space or a minus sign in front: `strtol`, which stops at the largest `long`, and
the conversion of its result to `int`. -/
def atoi (longMax : Nat) (s : CString) : Int :=
  let digits := match s with
    | '+' :: cs => cs
    | cs => cs
  ((min (digitsValue digits 0) longMax + 2 ^ 31 : Nat) : Int) % 2 ^ 32 - 2 ^ 31

theorem bounded_eq_self_iff {size : Nat} {s : CString} (h : 0 < size) : bounded size s = s ↔ s.length < size := by
  unfold bounded
  rw [List.take_eq_self_iff]
  omega

theorem length_bounded_le (size : Nat) (s : CString) : (bounded size s).length ≤ size - 1 := by
  unfold bounded
  rw [List.length_take]
  omega

theorem strstr_isSome_iff (needle s : CString) : (strstr needle s).isSome ↔ needle <:+: s := by
  induction s with
  | nil =>
    by_cases h : needle = []
    · simp [strstr, h]
    · simp [strstr, h]
  | cons c cs ih =>
    rw [List.infix_cons_iff, ← ih, ← List.isPrefixOf_iff_prefix, strstr]
    by_cases h : needle.isPrefixOf (c :: cs)
    · simp [h]
    · simp [h]

end CString

end Agm.Lib
