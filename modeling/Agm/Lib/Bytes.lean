import Mathlib.Tactic.Ring

/-!
# Bytes in memory

A memory is a byte for every address.  Words are 32 bits wide and little-endian.
-/

namespace Agm.Lib

abbrev Mem := Nat → UInt8

namespace Mem

/-- The word at `a`. -/
def word (m : Mem) (a : Nat) : Nat :=
  (m a).toNat + 256 * ((m (a + 1)).toNat + 256 * ((m (a + 2)).toNat + 256 * (m (a + 3)).toNat))

/-- The `n` words from `a` on. -/
def words (m : Mem) (a n : Nat) : List Nat := (List.range n).map fun i => m.word (a + 4 * i)

/-- The `n` bytes from `a` on. -/
def bytes (m : Mem) (a n : Nat) : List UInt8 := (List.range n).map fun i => m (a + i)

/-- The half word at `a`. -/
def half (m : Mem) (a : Nat) : Nat := (m a).toNat + 256 * (m (a + 1)).toNat

/-- Put `bs` at `a`. -/
def store (m : Mem) (a : Nat) (bs : List UInt8) : Mem := fun i =>
  if a ≤ i ∧ i < a + bs.length then bs.getD (i - a) 0 else m i

@[simp] theorem length_bytes (m : Mem) (a n : Nat) : (m.bytes a n).length = n := by
  simp [bytes]

/-- A store leaves what lies below it. -/
theorem store_of_lt (m : Mem) {a i : Nat} (bs : List UInt8) (h : i < a) : m.store a bs i = m i := by
  unfold store
  rw [if_neg]
  omega

theorem word_store_of_le (m : Mem) {a b : Nat} (bs : List UInt8) (h : b + 4 ≤ a) :
    (m.store a bs).word b = m.word b := by
  unfold word
  rw [store_of_lt _ _ (by omega), store_of_lt _ _ (by omega), store_of_lt _ _ (by omega), store_of_lt _ _ (by omega)]

end Mem

/-- A number as a little-endian word; what does not fit is cut off. -/
def le32 (n : Nat) : List UInt8 :=
  [UInt8.ofNat n, UInt8.ofNat (n / 256), UInt8.ofNat (n / 65536), UInt8.ofNat (n / 16777216)]

@[simp] theorem length_le32 (n : Nat) : (le32 n).length = 4 := rfl

/-- The word written between `pre` and `post` is read back. -/
theorem Mem.word_store_le32 (m : Mem) (a n : Nat) (pre post : List UInt8) :
    (m.store a (pre ++ le32 n ++ post)).word (a + pre.length) = n % 2 ^ 32 := by
  have hbyte (i : Nat) (hi : i < 4) :
      m.store a (pre ++ le32 n ++ post) (a + pre.length + i) = (le32 n).getD i 0 := by
    have hlt : i < (le32 n).length := hi
    unfold Mem.store
    rw [if_pos (by simp only [List.length_append, length_le32]; omega)]
    have hoff : a + pre.length + i - a = pre.length + i := by omega
    rw [hoff, List.getD_eq_getElem?_getD, List.append_assoc, List.getElem?_append_right (by omega),
      Nat.add_sub_cancel_left, List.getElem?_append_left hlt, ← List.getD_eq_getElem?_getD]
  have h0 := hbyte 0 (by omega)
  rw [Nat.add_zero] at h0
  unfold Mem.word
  rw [h0, hbyte 1 (by omega), hbyte 2 (by omega), hbyte 3 (by omega)]
  simp only [le32, List.getD_cons_zero, List.getD_cons_succ, UInt8.toNat_ofNat']
  omega

/-- Padded to eight bytes. -/
def pad8 (x : Nat) : Nat := (x + 7) / 8 * 8

theorem le_pad8 (x : Nat) : x ≤ pad8 x := by
  unfold pad8
  omega

theorem pad8_eq_self_iff (x : Nat) : pad8 x = x ↔ 8 ∣ x := by
  unfold pad8
  omega

/-- A stretch of memory: the first address and the length. -/
abbrev Stretch := Nat × Nat

/-- Every byte of the stretch lies below `size`. -/
def Stretch.Below (size : Nat) (r : Stretch) : Prop := r.2 = 0 ∨ r.1 + r.2 ≤ size

instance (size : Nat) (r : Stretch) : Decidable (Stretch.Below size r) := by unfold Stretch.Below; infer_instance

end Agm.Lib
