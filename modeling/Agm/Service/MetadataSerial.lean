import Agm.Lib.Words
import Agm.Service.MetadataCopy

/-!
# Metadata to bytes and back

The layout that the comment at the top of `metadata.c` describes, written out, against what `metadata_copy` reads: the
place of each field depends on the counts before it.
-/

namespace Agm.Service

open Agm.Lib

/-! ## The serialized form -/

/-- The words of a key vector, key before value. -/
def pairWords (kvs : List KeyValue) : List Nat := kvs.flatMap fun kv => [kv.key, kv.value]

/-- The words of the layout, in order. -/
def Metadata.layout (md : Metadata) : List Nat :=
  md.gkv.length :: pairWords md.gkv ++ md.ckv.length :: pairWords md.ckv ++
    md.propId :: (md.props.getD []).length :: md.props.getD []

/-- The payload that describes `md`. -/
def Metadata.serialize (md : Metadata) : List UInt8 := md.layout.flatMap le32

@[simp] theorem length_pairWords (kvs : List KeyValue) : (pairWords kvs).length = 2 * kvs.length := by
  induction kvs with
  | nil => rfl
  | cons kv kvs ih =>
    have hcons : pairWords (kv :: kvs) = kv.key :: kv.value :: pairWords kvs := rfl
    rw [hcons, List.length_cons, List.length_cons, ih, List.length_cons]
    omega

theorem pairWords_injective : Function.Injective pairWords := by
  intro as
  induction as with
  | nil =>
    intro bs h
    cases bs with
    | nil => rfl
    | cons b bs => exact absurd h (List.cons_ne_nil _ _).symm
  | cons a as ih =>
    intro bs h
    cases bs with
    | nil => exact absurd h (List.cons_ne_nil _ _)
    | cons b bs =>
      have hkey : a.key :: a.value :: pairWords as = b.key :: b.value :: pairWords bs := h
      obtain ⟨hk, hv, hrest⟩ : a.key = b.key ∧ a.value = b.value ∧ pairWords as = pairWords bs := by
        simpa using hkey
      have hab : a = b := by
        cases a
        cases b
        simp_all
      rw [hab, ih hrest]

/-- The pairs read from `a` on have the words there. -/
theorem pairWords_keyValues (m : Mem) (a n : Nat) : pairWords (keyValues m a n) = m.words a (2 * n) := by
  induction n with
  | zero => rfl
  | succ n ih =>
    have hlast : keyValues m a (n + 1) = keyValues m a n ++ [⟨m.word (a + 8 * n), m.word (a + 8 * n + 4)⟩] := by
      simp [keyValues, List.range_succ]
    rw [hlast, Nat.mul_succ, Mem.words_add, ← ih]
    unfold pairWords
    rw [List.flatMap_append]
    congr 1
    have haddr : a + 4 * (2 * n) = a + 8 * n := by omega
    rw [haddr]
    rfl

/-- The words of a payload with these counts, one after the other. -/
theorem words_payload (m : Mem) (g c n : Nat) : m.words 0 (4 + 2 * g + 2 * c + n) =
    m.word 0 :: m.words 4 (2 * g) ++ m.word (4 + 8 * g) :: m.words (8 + 8 * g) (2 * c) ++
      m.word (8 + 8 * g + 8 * c) :: m.word (12 + 8 * g + 8 * c) :: m.words (16 + 8 * g + 8 * c) n := by
  have hcount : 4 + 2 * g + 2 * c + n = 1 + 2 * g + 1 + 2 * c + 1 + 1 + n := by omega
  have haddr₁ : 0 + 4 * (1 + 2 * g) = 4 + 8 * g := by omega
  have haddr₂ : 0 + 4 * (1 + 2 * g + 1) = 8 + 8 * g := by omega
  have haddr₃ : 0 + 4 * (1 + 2 * g + 1 + 2 * c) = 8 + 8 * g + 8 * c := by omega
  have haddr₄ : 0 + 4 * (1 + 2 * g + 1 + 2 * c + 1) = 12 + 8 * g + 8 * c := by omega
  have haddr₅ : 0 + 4 * (1 + 2 * g + 1 + 2 * c + 1 + 1) = 16 + 8 * g + 8 * c := by omega
  rw [hcount, Mem.words_add, Mem.words_add, Mem.words_add, Mem.words_add, Mem.words_add, Mem.words_add, haddr₁, haddr₂,
    haddr₃, haddr₄, haddr₅]
  simp only [Mem.words_one, List.append_assoc, List.cons_append, List.nil_append]

/-! ## There and back -/

/-- A copy succeeds only with counts within the limit, and then it leaves what it has read. -/
theorem metadataCopy_ok {t : Target} {alloc : Allocs} {dest : Metadata} {size : Nat} {m : Mem}
    (h : (metadataCopy t alloc dest size (some m)).ret = 0) :
    numGkv m ≤ t.build.maxKvpair ∧ numCkv t m ≤ t.build.maxKvpair ∧
      (metadataCopy t alloc dest size (some m)).dest =
        { gkv := keyValues m ptrToGkv (numGkv m), ckv := keyValues m (ptrToCkv t m) (numCkv t m), propId := propId t m
          props := some (m.words (ptrToProps t m) (numProps t m)) } := by
  have hinval : -EINVAL ≠ 0 := by decide
  have hmem : -ENOMEM ≠ 0 := by decide
  unfold metadataCopy at h ⊢
  by_cases hover : numGkv m > t.build.maxKvpair ∨ numCkv t m > t.build.maxKvpair
  · simp only [if_pos hover] at h
    exact absurd h hinval
  by_cases hgkv : t.calloc alloc.gkv (numGkv m) 8
  swap
  · simp only [if_neg hover, if_pos hgkv] at h
    exact absurd h hmem
  by_cases hckv : t.calloc alloc.ckv (numCkv t m) 8
  swap
  · simp only [if_neg hover, hgkv, not_true_eq_false, if_false, if_pos hckv] at h
    exact absurd h hmem
  by_cases hprops : t.calloc alloc.props (numProps t m) 4
  swap
  · simp only [if_neg hover, hgkv, hckv, not_true_eq_false, if_false, if_pos hprops] at h
    exact absurd h hmem
  refine ⟨by omega, by omega, ?_⟩
  simp only [if_neg hover, hgkv, hckv, hprops, not_true_eq_false, if_false]

theorem serialize_metadataCopy {t : Target} {alloc : Allocs} {dest : Metadata} {size : Nat} {m : Mem}
    (h : (metadataCopy t alloc dest size (some m)).ret = 0) :
    (metadataCopy t alloc dest size (some m)).dest.serialize = m.bytes 0 (declaredLength m) := by
  obtain ⟨hg, hc, hdest⟩ := metadataCopy_ok h
  have hlayout : (metadataCopy t alloc dest size (some m)).dest.layout =
      m.words 0 (4 + 2 * numGkv m + 2 * numCkv t m + numProps t m) := by
    have hnumGkv : m.word 0 = numGkv m := rfl
    have hnumCkv : m.word (4 + 8 * numGkv m) = numCkv t m := by rw [numCkv, ptrToNumCkv_eq hg]
    have hpropId : m.word (8 + 8 * numGkv m + 8 * numCkv t m) = propId t m := by rw [propId, ptrToPropId_eq hg hc]
    have hnumProps : m.word (12 + 8 * numGkv m + 8 * numCkv t m) = numProps t m := by
      rw [numProps, ptrToNumProps_eq hg hc]
    rw [words_payload, hdest, hnumGkv, hnumCkv, hpropId, hnumProps]
    simp only [Metadata.layout, Option.getD_some, pairWords_keyValues, Mem.length_words, ptrToGkv, ptrToCkv_eq hg,
      ptrToProps_eq hg hc]
    simp [keyValues]
  have hlen : declaredLength m = 4 * (4 + 2 * numGkv m + 2 * numCkv t m + numProps t m) := by
    rw [declaredLength_eq hg hc]
    omega
  rw [Metadata.serialize, hlayout, Mem.flatMap_le32_words, hlen]

/-- The counts of a payload that describes `md` are found at their places, and so is everything else. -/
theorem metadataCopy_serialize {t : Target} {dest md : Metadata} {size : Nat} {m : Mem}
    (hgkv : md.gkv.length ≤ t.build.maxKvpair) (hckv : md.ckv.length ≤ t.build.maxKvpair)
    (hfit : ∀ w ∈ md.layout, w < 2 ^ 32) (hroom : md.serialize.length < t.sizeMod)
    (hm : m.bytes 0 md.serialize.length = md.serialize) :
    (metadataCopy t {} dest size (some m)).ret = 0 ∧
      (metadataCopy t {} dest size (some m)).dest = { md with props := some (md.props.getD []) } := by
  have hlen : md.layout.length = 4 + 2 * md.gkv.length + 2 * md.ckv.length + (md.props.getD []).length := by
    simp only [Metadata.layout, List.length_append, List.length_cons, length_pairWords]
    omega
  have hwords : m.words 0 md.layout.length = md.layout := Mem.words_of_bytes hfit hm
  rw [hlen, words_payload, Metadata.layout, List.append_assoc, List.append_assoc] at hwords
  -- field by field, as the counts are known
  obtain ⟨hhead, hrest⟩ := List.append_inj hwords (by simp)
  obtain ⟨hnumGkv, hgkvs⟩ := List.cons.inj hhead
  obtain ⟨hhead, hrest⟩ := List.append_inj hrest (by simp)
  obtain ⟨hnumCkv, hckvs⟩ := List.cons.inj hhead
  obtain ⟨hpropId, hrest⟩ := List.cons.inj hrest
  obtain ⟨hnumProps, hprops⟩ := List.cons.inj hrest
  have hg : numGkv m = md.gkv.length := hnumGkv
  have hgle : numGkv m ≤ t.build.maxKvpair := hg ▸ hgkv
  have hc : numCkv t m = md.ckv.length := by rw [numCkv, ptrToNumCkv_eq hgle, hg, hnumCkv]
  have hcle : numCkv t m ≤ t.build.maxKvpair := hc ▸ hckv
  have hid : propId t m = md.propId := by rw [propId, ptrToPropId_eq hgle hcle, hg, hc, hpropId]
  have hn : numProps t m = (md.props.getD []).length := by
    rw [numProps, ptrToNumProps_eq hgle hcle, hg, hc, hnumProps]
  have hcalloc : t.calloc true (numProps t m) 4 = true := by
    rw [Metadata.serialize, length_flatMap_le32, hlen] at hroom
    simp only [Target.calloc, Bool.true_and, decide_eq_true_eq, hn]
    omega
  have hsame : keyValues m ptrToGkv (numGkv m) = md.gkv ∧ keyValues m (ptrToCkv t m) (numCkv t m) = md.ckv := by
    constructor
    · apply pairWords_injective
      rw [pairWords_keyValues, hg, ← hgkvs]
      rfl
    · apply pairWords_injective
      rw [pairWords_keyValues, ptrToCkv_eq hgle, hg, hc, hckvs]
  unfold metadataCopy
  simp only [if_neg (show ¬ (numGkv m > t.build.maxKvpair ∨ numCkv t m > t.build.maxKvpair) by omega),
    calloc_pairs hgle, calloc_pairs hcle, hcalloc, not_true_eq_false, if_false, hsame, hid, true_and]
  rw [ptrToProps_eq hgle hcle, hn, hg, hc, hprops]

/-- **There and back.**  A payload that holds the serialized form of metadata within the limits is copied to just that
metadata; and the serialized form of what any successful copy leaves are the bytes it was copied from. -/
theorem metadata_copy_round_trip (t : Target) (dest : Metadata) (size : Nat) :
    (∀ (md : Metadata) (m : Mem), md.gkv.length ≤ t.build.maxKvpair → md.ckv.length ≤ t.build.maxKvpair →
      (∀ w ∈ md.layout, w < 2 ^ 32) → md.serialize.length < t.sizeMod →
      m.bytes 0 md.serialize.length = md.serialize →
      (metadataCopy t {} dest size (some m)).ret = 0 ∧
        (metadataCopy t {} dest size (some m)).dest = { md with props := some (md.props.getD []) }) ∧
    ∀ (alloc : Allocs) (m : Mem), (metadataCopy t alloc dest size (some m)).ret = 0 →
      (metadataCopy t alloc dest size (some m)).dest.serialize = m.bytes 0 (declaredLength m) :=
  ⟨fun _ _ hgkv hckv hfit hroom hm => metadataCopy_serialize hgkv hckv hfit hroom hm,
    fun _ _ h => serialize_metadataCopy h⟩

/-- One graph key, no calibration key and two values. -/
theorem metadata_copy_round_trip_one : (metadataCopy {} {} {} 0
      (some (serverBlock (Metadata.serialize { gkv := [⟨0xA1000000, 2⟩], propId := 7, props := some [9, 300] }) 32
        fun _ => 0))).dest =
    { gkv := [⟨0xA1000000, 2⟩], propId := 7, props := some [9, 300] } :=
  ((metadata_copy_round_trip {} {} 0).1 { gkv := [⟨0xA1000000, 2⟩], propId := 7, props := some [9, 300] } _
    (by decide) (by decide) (by decide) (by decide) (by decide +kernel)).2

end Agm.Service
