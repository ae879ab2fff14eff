import Agm.Lib.Bytes

/-!
# Rows of words

Little-endian words one after the other in memory, and their bytes.
-/

namespace Agm.Lib

theorem Mem.words_add (m : Mem) (a n k : Nat) : m.words a (n + k) = m.words a n ++ m.words (a + 4 * n) k := by
  unfold Mem.words
  rw [List.range_add, List.map_append, List.map_map]
  congr 2
  funext i
  show m.word (a + 4 * (n + i)) = m.word (a + 4 * n + 4 * i)
  congr 1
  omega

@[simp] theorem Mem.length_words (m : Mem) (a n : Nat) : (m.words a n).length = n := by simp [Mem.words]

theorem Mem.bytes_add (m : Mem) (a n k : Nat) : m.bytes a (n + k) = m.bytes a n ++ m.bytes (a + n) k := by
  unfold Mem.bytes
  rw [List.range_add, List.map_append, List.map_map]
  congr 2
  funext i
  show m (a + (n + i)) = m (a + n + i)
  rw [Nat.add_assoc]

theorem Mem.words_one (m : Mem) (a : Nat) : m.words a 1 = [m.word a] := rfl

theorem Mem.word_lt (m : Mem) (a : Nat) : m.word a < 2 ^ 32 := by
  have h (i : Nat) := (m i).toNat_lt
  have h0 := h a
  have h1 := h (a + 1)
  have h2 := h (a + 2)
  have h3 := h (a + 3)
  unfold Mem.word
  omega

theorem le32_word (m : Mem) (a : Nat) : le32 (m.word a) = m.bytes a 4 := by
  have hlt (i : Nat) := (m i).toNat_lt
  have h0 := hlt a
  have h1 := hlt (a + 1)
  have h2 := hlt (a + 2)
  have h3 := hlt (a + 3)
  have hbytes : m.bytes a 4 = [m a, m (a + 1), m (a + 2), m (a + 3)] := rfl
  have hbyte (n : Nat) (b : UInt8) (h : n % 256 = b.toNat) : UInt8.ofNat n = b := by
    rw [← UInt8.toNat_inj, UInt8.toNat_ofNat', h]
  rw [hbytes, le32]
  congr 1
  · exact hbyte _ _ (by unfold Mem.word; omega)
  congr 1
  · exact hbyte _ _ (by unfold Mem.word; omega)
  congr 1
  · exact hbyte _ _ (by unfold Mem.word; omega)
  congr 1
  exact hbyte _ _ (by unfold Mem.word; omega)

/-- The bytes of a row of words. -/
theorem Mem.flatMap_le32_words (m : Mem) (a n : Nat) : (m.words a n).flatMap le32 = m.bytes a (4 * n) := by
  induction n with
  | zero => rfl
  | succ n ih =>
    rw [Mem.words_add, List.flatMap_append, ih, Mem.words_one, Nat.mul_succ, Mem.bytes_add]
    congr 1
    rw [List.flatMap_singleton, le32_word]

theorem length_flatMap_le32 (ws : List Nat) : (ws.flatMap le32).length = 4 * ws.length := by
  induction ws with
  | nil => rfl
  | cons w ws ih =>
    rw [List.flatMap_cons, List.length_append, ih, length_le32, List.length_cons]
    omega

/-- Words that fit are known by their bytes. -/
theorem le32_injective {v w : Nat} (hv : v < 2 ^ 32) (hw : w < 2 ^ 32) (h : le32 v = le32 w) : v = w := by
  unfold le32 at h
  simp only [List.cons.injEq, ← UInt8.toNat_inj, UInt8.toNat_ofNat', and_true] at h
  omega

theorem flatMap_le32_injective {vs ws : List Nat} (hv : ∀ v ∈ vs, v < 2 ^ 32) (hw : ∀ w ∈ ws, w < 2 ^ 32)
    (h : vs.flatMap le32 = ws.flatMap le32) : vs = ws := by
  induction vs generalizing ws with
  | nil =>
    have hlen := congrArg List.length h
    rw [length_flatMap_le32, length_flatMap_le32, List.length_nil] at hlen
    exact (List.length_eq_zero_iff.1 (by omega)).symm
  | cons v vs ih =>
    cases ws with
    | nil => exact absurd (congrArg List.length h) (by simp [le32])
    | cons w ws =>
      rw [List.forall_mem_cons] at hv hw
      rw [List.flatMap_cons, List.flatMap_cons] at h
      obtain ⟨hhead, htail⟩ := List.append_inj h rfl
      rw [le32_injective hv.1 hw.1 hhead, ih hv.2 hw.2 htail]

/-- A row of words that fit, written at `a`, is read back. -/
theorem Mem.words_of_bytes {m : Mem} {a : Nat} {ws : List Nat} (hw : ∀ w ∈ ws, w < 2 ^ 32)
    (h : m.bytes a (ws.flatMap le32).length = ws.flatMap le32) : m.words a ws.length = ws := by
  rw [length_flatMap_le32, ← Mem.flatMap_le32_words] at h
  refine flatMap_le32_injective (fun w hmem => ?_) hw h
  obtain ⟨i, -, rfl⟩ := List.mem_map.1 hmem
  exact m.word_lt _

/-- What is stored is read back. -/
theorem Mem.bytes_store (m : Mem) (a : Nat) (bs : List UInt8) : (m.store a bs).bytes a bs.length = bs := by
  have hread : (m.store a bs).bytes a bs.length = (List.range bs.length).map fun i => bs.getD i 0 := by
    refine List.map_congr_left fun i hi => ?_
    have hlt := List.mem_range.1 hi
    unfold Mem.store
    rw [if_pos (by omega), Nat.add_sub_cancel_left]
  rw [hread]
  refine List.ext_getElem (by simp) fun i _ hi => ?_
  rw [List.getElem_map, List.getElem_range, List.getD_eq_getElem?_getD, List.getElem?_eq_getElem hi, Option.getD_some]

/-- A store leaves what lies apart from it. -/
theorem Mem.store_of_apart (m : Mem) {a i : Nat} {bs : List UInt8} (h : i < a ∨ a + bs.length ≤ i) :
    m.store a bs i = m i := by
  unfold Mem.store
  rw [if_neg]
  omega

theorem Mem.word_store_of_apart (m : Mem) {a b : Nat} {bs : List UInt8} (h : b + 4 ≤ a ∨ a + bs.length ≤ b) :
    (m.store a bs).word b = m.word b := by
  unfold Mem.word
  rw [Mem.store_of_apart _ (by omega), Mem.store_of_apart _ (by omega), Mem.store_of_apart _ (by omega),
    Mem.store_of_apart _ (by omega)]

/-- A stretch of the bytes. -/
theorem Mem.take_drop_bytes (m : Mem) {a n i k : Nat} (h : i + k ≤ n) :
    ((m.bytes a n).drop i).take k = m.bytes (a + i) k := by
  obtain ⟨j, rfl⟩ : ∃ j, n = i + (k + j) := ⟨n - i - k, by omega⟩
  rw [Mem.bytes_add, List.drop_left' (Mem.length_bytes _ _ _), Mem.bytes_add,
    List.take_left' (Mem.length_bytes _ _ _)]

end Agm.Lib
