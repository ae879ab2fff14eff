import Mathlib.Data.Vector.Basic

/-!
# C structures as bytes

How the values of a type lie in memory: their size, their bytes, and the value read back from bytes.  Numbers are
little-endian, and a byte past the end of what is read counts as zero.
-/

namespace Agm.Lib

abbrev Bytes := List UInt8

/-- The number with these bytes, the lowest first. -/
def leNat : Bytes → Nat
  | [] => 0
  | b :: bs => b.toNat + 256 * leNat bs

/-- The `k` lowest bytes of a number, the lowest first. -/
def leBytes : Nat → Nat → Bytes
  | 0, _ => []
  | k + 1, n => UInt8.ofNat n :: leBytes k (n / 256)

@[simp] theorem length_leBytes (k n : Nat) : (leBytes k n).length = k := by
  induction k generalizing n with
  | zero => rfl
  | succ k ih => simp [leBytes, ih]

theorem leNat_leBytes (k n : Nat) : leNat (leBytes k n) = n % 256 ^ k := by
  induction k generalizing n with
  | zero => simp [leBytes, leNat, Nat.mod_one]
  | succ k ih =>
    have hlow : (UInt8.ofNat n).toNat = n % 256 := UInt8.toNat_ofNat'
    rw [leBytes, leNat, hlow, ih, Nat.pow_succ', Nat.mod_mul]

/-- How a type lies in memory. -/
structure Layout (α : Type) where
  size : Nat
  encode : α → Bytes
  decode : Bytes → α
  length_encode : ∀ a, (encode a).length = size
  decode_encode : ∀ a rest, decode (encode a ++ rest) = a

namespace Layout

variable {α β : Type}

@[simp] theorem length_encode' (l : Layout α) (a : α) : (l.encode a).length = l.size := l.length_encode a

/-- A value alone is read back. -/
@[simp] theorem decode_encode' (l : Layout α) (a : α) : l.decode (l.encode a) = a := by
  have := l.decode_encode a []
  rwa [List.append_nil] at this

/-- A 32-bit word. -/
def u32 : Layout UInt32 where
  size := 4
  encode x := leBytes 4 x.toNat
  decode bs := UInt32.ofNat (leNat (bs.take 4))
  length_encode x := length_leBytes 4 x.toNat
  decode_encode x rest := by
    have hlt : x.toNat < 256 ^ 4 := x.toNat_lt
    rw [List.take_left' (length_leBytes 4 x.toNat), leNat_leBytes, Nat.mod_eq_of_lt hlt, UInt32.ofNat_toNat]

/-- A 64-bit word. -/
def u64 : Layout UInt64 where
  size := 8
  encode x := leBytes 8 x.toNat
  decode bs := UInt64.ofNat (leNat (bs.take 8))
  length_encode x := length_leBytes 8 x.toNat
  decode_encode x rest := by
    have hlt : x.toNat < 256 ^ 8 := x.toNat_lt
    rw [List.take_left' (length_leBytes 8 x.toNat), leNat_leBytes, Nat.mod_eq_of_lt hlt, UInt64.ofNat_toNat]

/-- The first `n` bytes, with zeros for those that are missing. -/
def firstBytes (n : Nat) (bs : Bytes) : List.Vector UInt8 n := ⟨bs.takeD n 0, List.takeD_length n bs 0⟩

/-- `n` bytes as they are. -/
def raw (n : Nat) : Layout (List.Vector UInt8 n) where
  size := n
  encode v := v.toList
  decode := firstBytes n
  length_encode v := v.toList_length
  decode_encode v rest := by
    apply Subtype.ext
    change (v.toList ++ rest).takeD n 0 = v.toList
    rw [List.takeD_eq_take _ (by simp), List.take_left' v.toList_length]

/-- One after the other. -/
def pair (l : Layout α) (m : Layout β) : Layout (α × β) where
  size := l.size + m.size
  encode p := l.encode p.1 ++ m.encode p.2
  decode bs := (l.decode bs, m.decode (bs.drop l.size))
  length_encode p := by simp
  decode_encode p rest := by
    rw [List.append_assoc, l.decode_encode, List.drop_left' (l.length_encode p.1), m.decode_encode]

/-- With `n` bytes of padding. -/
def padded (l : Layout α) (n : Nat) : Layout α where
  size := l.size + n
  encode a := l.encode a ++ List.replicate n 0
  decode := l.decode
  length_encode a := by simp
  decode_encode a rest := by rw [List.append_assoc, l.decode_encode]

/-- A type whose values are those of another. -/
def iso (l : Layout α) (f : α → β) (g : β → α) (hfg : ∀ b, f (g b) = b) : Layout β where
  size := l.size
  encode b := l.encode (g b)
  decode bs := f (l.decode bs)
  length_encode b := l.length_encode (g b)
  decode_encode b rest := by rw [l.decode_encode, hfg]

/-- An array. -/
def encodeAll (l : Layout α) (as : List α) : Bytes := as.flatMap l.encode

/-- The first `n` elements of an array. -/
def decodeAll (l : Layout α) : Nat → Bytes → List α
  | 0, _ => []
  | n + 1, bs => l.decode bs :: decodeAll l n (bs.drop l.size)

variable (l : Layout α)

@[simp] theorem length_decodeAll (n : Nat) (bs : Bytes) : (l.decodeAll n bs).length = n := by
  induction n generalizing bs with
  | zero => rfl
  | succ n ih => simp [decodeAll, ih]

@[simp] theorem length_encodeAll (as : List α) : (l.encodeAll as).length = as.length * l.size := by
  induction as with
  | nil => simp [encodeAll]
  | cons a as ih =>
    have hcons : l.encodeAll (a :: as) = l.encode a ++ l.encodeAll as := by simp [encodeAll]
    rw [hcons, List.length_append, ih, l.length_encode, List.length_cons, Nat.succ_mul, Nat.add_comm]

/-- The bytes of the first `k` elements. -/
theorem take_encodeAll (as : List α) (k : Nat) : (l.encodeAll as).take (k * l.size) = l.encodeAll (as.take k) := by
  induction as generalizing k with
  | nil => simp [encodeAll]
  | cons a as ih =>
    have hcons (as : List α) : l.encodeAll (a :: as) = l.encode a ++ l.encodeAll as := by simp [encodeAll]
    cases k with
    | zero => simp [encodeAll]
    | succ k =>
      rw [List.take_succ_cons, hcons, hcons, ← ih k, Nat.succ_mul, Nat.add_comm, ← l.length_encode a, List.take_append]
      simp

/-- An array is read back; what is missing is read as zeros. -/
theorem decodeAll_encodeAll (as : List α) (n : Nat) (h : as.length ≤ n) :
    l.decodeAll n (l.encodeAll as) = as ++ List.replicate (n - as.length) (l.decode []) := by
  induction as generalizing n with
  | nil =>
    have hzeros : ∀ n, l.decodeAll n [] = List.replicate n (l.decode []) := by
      intro n
      induction n with
      | zero => rfl
      | succ n ih => rw [decodeAll, List.drop_nil, ih, List.replicate_succ]
    simpa [encodeAll] using hzeros n
  | cons a as ih =>
    cases n with
    | zero => simp at h
    | succ n =>
      have hcons : l.encodeAll (a :: as) = l.encode a ++ l.encodeAll as := by simp [encodeAll]
      rw [hcons, decodeAll, l.decode_encode, List.drop_left' (l.length_encode a), ih n (by simpa using h),
        List.length_cons, Nat.succ_sub_succ, List.cons_append]

end Layout

end Agm.Lib
