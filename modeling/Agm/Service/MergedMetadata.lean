import Mathlib.Data.Finset.Card
import Agm.Service.Ops

/-!
# The keys of a merged key vector

`session_get_merged_metadata` and `session_get_merged_metadata_without_aif` (`session_obj.c`) fold `metadata_merge` over
the back ends of a session.  A merge that fails hands back `NULL`, and the walk goes on from there: what was collected
before is gone.  So the result holds the keys of the back ends since the last merge that failed (`since`), and a merge
fails where the distinct keys collected since then and the pairs of the next back end together are more than
`MAX_KVPAIR` (`overflows`).
-/

namespace Agm.Service

/-- The graph keys of a key vector. -/
def Metadata.keys (m : Metadata) : List Nat := m.gkv.map KeyValue.key

/-! ## Repeated keys -/

section

variable {α κ : Type} [DecidableEq κ] (key : α → κ)

theorem Metadata.mem_dropKey {k : κ} {xs : List α} {y : α} : y ∈ dropKey key k xs ↔ y ∈ xs ∧ key y ≠ k := by
  induction xs with
  | nil => simp [dropKey]
  | cons x xs ih =>
    unfold dropKey
    split
    · rename_i hx
      rw [ih, List.mem_cons]
      constructor
      · rintro ⟨hy, hk⟩
        exact ⟨.inr hy, hk⟩
      · rintro ⟨rfl | hy, hk⟩
        · exact absurd hx hk
        · exact ⟨hy, hk⟩
    · rename_i hx
      rw [List.mem_cons, List.mem_cons, ih]
      constructor
      · rintro (rfl | ⟨hy, hk⟩)
        · exact ⟨.inl rfl, hx⟩
        · exact ⟨.inr hy, hk⟩
      · rintro ⟨rfl | hy, hk⟩
        · exact .inl rfl
        · exact .inr ⟨hy, hk⟩

theorem Metadata.length_dropKey (k : κ) (xs : List α) : (dropKey key k xs).length ≤ xs.length := by
  induction xs with
  | nil => simp [dropKey]
  | cons x xs ih =>
    unfold dropKey
    split
    · simp only [List.length_cons]
      omega
    · simp only [List.length_cons]
      omega

/-- With enough turns every key of the vector is there, and none twice. -/
theorem Metadata.keys_removeDupLoop (n : Nat) (xs : List α) (h : xs.length ≤ n) :
    (∀ k, k ∈ (removeDupLoop key n xs).map key ↔ k ∈ xs.map key) ∧ ((removeDupLoop key n xs).map key).Nodup := by
  induction n generalizing xs with
  | zero =>
    obtain rfl : xs = [] := List.length_eq_zero_iff.1 (by omega)
    simp [removeDupLoop]
  | succ n ih =>
    cases xs with
    | nil => simp [removeDupLoop]
    | cons x xs =>
      have hlen : (dropKey key (key x) xs).length ≤ n := by
        have := length_dropKey key (key x) xs
        simp only [List.length_cons] at h
        omega
      obtain ⟨hmem, hnodup⟩ := ih _ hlen
      have hdrop (k : κ) : k ∈ (dropKey key (key x) xs).map key ↔ k ∈ xs.map key ∧ k ≠ key x := by
        simp only [List.mem_map, mem_dropKey]
        constructor
        · rintro ⟨y, ⟨hy, hk⟩, rfl⟩
          exact ⟨⟨y, hy, rfl⟩, hk⟩
        · rintro ⟨⟨y, hy, rfl⟩, hk⟩
          exact ⟨y, ⟨hy, hk⟩, rfl⟩
      simp only [removeDupLoop, List.map_cons, List.mem_cons, List.nodup_cons]
      refine ⟨fun k => ?_, fun hx => ?_, hnodup⟩
      · rw [hmem, hdrop]
        constructor
        · rintro (rfl | ⟨hk, -⟩)
          · exact .inl rfl
          · exact .inr hk
        · rintro (rfl | hk)
          · exact .inl rfl
          · by_cases hkx : k = key x
            · exact .inl hkx
            · exact .inr ⟨hk, hkx⟩
      · rw [hmem, hdrop] at hx
        exact hx.2 rfl

end

/-- The number of distinct keys of a vector. -/
def distinctKeys (xs : List KeyValue) : Nat := (xs.map KeyValue.key).toFinset.card

theorem mem_removeDup (xs : List KeyValue) (k : Nat) :
    k ∈ (Metadata.removeDup KeyValue.key xs).map KeyValue.key ↔ k ∈ xs.map KeyValue.key :=
  (Metadata.keys_removeDupLoop KeyValue.key xs.length xs (Nat.le_refl _)).1 k

theorem length_removeDup (xs : List KeyValue) : (Metadata.removeDup KeyValue.key xs).length = distinctKeys xs := by
  have hnodup : ((Metadata.removeDup KeyValue.key xs).map KeyValue.key).Nodup :=
    (Metadata.keys_removeDupLoop KeyValue.key xs.length xs (Nat.le_refl _)).2
  have hset : (xs.map KeyValue.key).toFinset =
      ((Metadata.removeDup KeyValue.key xs).map KeyValue.key).toFinset := by
    ext k
    rw [List.mem_toFinset, List.mem_toFinset, mem_removeDup]
  rw [distinctKeys, hset, List.toFinset_card_of_nodup hnodup, List.length_map]

/-! ## One merge -/

/-- The pairs of all the arguments of a merge. -/
def pairs (part : Metadata → List KeyValue) (args : List (Option Metadata)) : List KeyValue :=
  args.flatMap fun o => (o.map part).getD []

theorem metadataCount_eq (part : Metadata → List KeyValue) (args : List (Option Metadata)) :
    metadataCount part args = (pairs part args).length := by
  induction args with
  | nil => rfl
  | cons o args ih =>
    simp only [metadataCount, pairs, List.map_cons, List.sum_cons, List.flatMap_cons, List.length_append] at ih ⊢
    rw [ih]
    cases o <;> rfl

theorem metadataConcat_pairs (args : List (Option Metadata)) (acc : Metadata) :
    (metadataConcat acc args).gkv = acc.gkv ++ pairs Metadata.gkv args ∧
      (metadataConcat acc args).ckv = acc.ckv ++ pairs Metadata.ckv args := by
  induction args generalizing acc with
  | nil => simp [metadataConcat, pairs]
  | cons o args ih =>
    cases o with
    | none =>
      unfold metadataConcat
      exact ih acc
    | some m =>
      unfold metadataConcat
      obtain ⟨hg, hc⟩ := ih
        { gkv := acc.gkv ++ m.gkv, ckv := acc.ckv ++ m.ckv
          propId := if m.props.isSome then m.propId else acc.propId
          props := acc.props.map (· ++ m.props.getD []) }
      rw [hg, hc]
      simp [pairs]

/-- `m` has the keys of `xs`, each once. -/
def HasKeys (m xs : List KeyValue) : Prop :=
  (∀ k, k ∈ m.map KeyValue.key ↔ k ∈ xs.map KeyValue.key) ∧ m.length = distinctKeys xs

/-- **A merge.**  It fails exactly if the pairs of one vector are too many before repeated keys are taken out, and
otherwise has the keys of its arguments. -/
theorem metadataMerge_cases (b : Build) (args : List (Option Metadata)) :
    (metadataMerge b args = none ∧
        (b.maxKvpair < (pairs Metadata.gkv args).length ∨ b.maxKvpair < (pairs Metadata.ckv args).length)) ∨
      ((pairs Metadata.gkv args).length ≤ b.maxKvpair ∧ (pairs Metadata.ckv args).length ≤ b.maxKvpair ∧
        ∃ m, metadataMerge b args = some m ∧ HasKeys m.gkv (pairs Metadata.gkv args) ∧
          HasKeys m.ckv (pairs Metadata.ckv args)) := by
  unfold metadataMerge
  rw [metadataCount_eq, metadataCount_eq]
  split
  · rename_i h
    exact .inl ⟨rfl, h⟩
  · rename_i h
    refine .inr ⟨by omega, by omega, _, rfl, ?_⟩
    obtain ⟨hg, hc⟩ := metadataConcat_pairs args { props := some [] }
    simp only [List.nil_append] at hg hc
    simp only [metadataRemoveDup, hg, hc]
    exact ⟨⟨mem_removeDup _, length_removeDup _⟩, ⟨mem_removeDup _, length_removeDup _⟩⟩

/-! ## The walk over the back ends -/

section

variable (b : Build) (parts : Aif → List (Option Metadata))

/-- The pairs that a list of back ends brings in. -/
def pairsOf (part : Metadata → List KeyValue) (as : List Aif) : List KeyValue :=
  as.flatMap fun a => pairs part (parts a)

/-- The distinct keys of the back ends before and the pairs of this one are too many. -/
def overflows (before : List Aif) (a : Aif) : Bool :=
  decide (b.maxKvpair < distinctKeys (pairsOf parts Metadata.gkv before) + (pairs Metadata.gkv (parts a)).length) ||
    decide (b.maxKvpair < distinctKeys (pairsOf parts Metadata.ckv before) + (pairs Metadata.ckv (parts a)).length)

/-- The back ends after the last one at which there was an overflow. -/
def since : List Aif → List Aif → List Aif
  | before, [] => before
  | before, a :: as => if overflows b parts before a then since [] as else since (before ++ [a]) as

/-- `temp` is what the walk has after it collected `before`. -/
def Collected (temp : Option Metadata) (before : List Aif) : Prop :=
  match temp with
  | none => before = []
  | some m => before ≠ [] ∧ HasKeys m.gkv (pairsOf parts Metadata.gkv before) ∧
      HasKeys m.ckv (pairsOf parts Metadata.ckv before)

variable {b parts}

/-- The pairs of a merge with what was collected, and with all the pairs that were collected, have the same keys. -/
theorem HasKeys.append {m xs ys zs : List KeyValue} (h : HasKeys m xs) (hz : HasKeys zs (m ++ ys)) :
    HasKeys zs (xs ++ ys) := by
  have hmem (k : Nat) : k ∈ (m ++ ys).map KeyValue.key ↔ k ∈ (xs ++ ys).map KeyValue.key := by
    rw [List.map_append, List.map_append, List.mem_append, List.mem_append, h.1]
  refine ⟨fun k => (hz.1 k).trans (hmem k), hz.2.trans ?_⟩
  unfold distinctKeys
  congr 1
  ext k
  rw [List.mem_toFinset, List.mem_toFinset, hmem]

/-- One turn of the walk. -/
theorem Collected.merge {temp : Option Metadata} {before : List Aif} (h : Collected parts temp before) (a : Aif) :
    Collected parts (metadataMerge b (temp :: parts a)) (if overflows b parts before a then [] else before ++ [a]) := by
  have hpairs (part : Metadata → List KeyValue) :
      pairsOf parts part (before ++ [a]) = pairsOf parts part before ++ pairs part (parts a) := by
    simp [pairsOf]
  have hcons (part : Metadata → List KeyValue) :
      pairs part (temp :: parts a) = (temp.map part).getD [] ++ pairs part (parts a) := rfl
  have hgkv : HasKeys ((temp.map Metadata.gkv).getD []) (pairsOf parts Metadata.gkv before) := by
    cases temp with
    | none =>
      obtain rfl : before = [] := h
      exact ⟨fun _ => Iff.rfl, rfl⟩
    | some m => exact h.2.1
  have hckv : HasKeys ((temp.map Metadata.ckv).getD []) (pairsOf parts Metadata.ckv before) := by
    cases temp with
    | none =>
      obtain rfl : before = [] := h
      exact ⟨fun _ => Iff.rfl, rfl⟩
    | some m => exact h.2.2
  have hover : overflows b parts before a = true ↔
      b.maxKvpair < (pairs Metadata.gkv (temp :: parts a)).length ∨
        b.maxKvpair < (pairs Metadata.ckv (temp :: parts a)).length := by
    rw [hcons, hcons, List.length_append, List.length_append, hgkv.2, hckv.2]
    simp [overflows]
  rcases metadataMerge_cases b (temp :: parts a) with ⟨hnone, hlt⟩ | ⟨hg, hc, m, hsome, hmg, hmc⟩
  · rw [hnone, if_pos (hover.2 hlt)]
    rfl
  · have hno : ¬ overflows b parts before a = true := by
      rw [hover]
      omega
    rw [hsome, if_neg hno]
    rw [hcons] at hmg hmc
    refine ⟨by simp, ?_, ?_⟩
    · rw [hpairs]
      exact hgkv.append hmg
    · rw [hpairs]
      exact hckv.append hmc

/-- The whole walk. -/
theorem Collected.mergeAifs {temp : Option Metadata} {before : List Aif} (h : Collected parts temp before)
    (as : List Aif) : Collected parts (mergeAifs b parts temp as)
      (since b parts before (as.filter fun a => a.state ≠ .closed)) := by
  induction as generalizing temp before with
  | nil => exact h
  | cons a as ih =>
    unfold Service.mergeAifs
    by_cases ha : a.state = .closed
    · rw [if_pos ha, List.filter_cons_of_neg (by simp [ha])]
      exact ih h
    · rw [if_neg ha, List.filter_cons_of_pos (by simp [ha])]
      have := ih (h.merge (b := b) a)
      unfold since
      split
      · rename_i ho
        rwa [if_pos ho] at this
      · rename_i ho
        rwa [if_neg ho] at this

end

/-! ## Which keys are in the result -/

/-- The back end is connected. -/
def Aif.isConnected (a : Aif) : Bool := AifState.open.rank ≤ a.state.rank

theorem Aif.isConnected_iff {a : Aif} : a.isConnected ↔ a.state ≠ .closed ∧ a.state ≠ .close := by
  unfold isConnected
  cases a.state <;> decide

section

variable (b : Build) (sess : Metadata) (own : Aif → List Metadata) (pool : List Aif)

/-- The result is `NULL`, or has exactly the keys of the session and of its connected back ends. -/
def ExactKeys (r : Option Metadata) : Prop :=
  ∀ m, r = some m → ∀ k, k ∈ m.keys ↔
    k ∈ sess.keys ∨ ∃ a ∈ pool, a.isConnected ∧ ∃ o ∈ own a, k ∈ o.keys

/-- The back ends whose keys are in the result: those that are not `AIF_CLOSED`, after the last overflow. -/
def counted : List Aif :=
  since b (fun a => some sess :: (own a).map some) [] (pool.filter fun a => a.state ≠ .closed)

/-- A connected back end that is not counted has no keys of its own, and neither has one in `AIF_CLOSE` that is. -/
structure NoKeyMoves : Prop where
  lost : ∀ a ∈ pool, a.isConnected → a ∉ counted b sess own pool → ∀ o ∈ own a, ∀ k ∈ o.keys,
    k ∈ sess.keys ∨ ∃ a' ∈ counted b sess own pool, ∃ o ∈ own a', k ∈ o.keys
  kept : ∀ a ∈ counted b sess own pool, a.state = .close → ∀ o ∈ own a, ∀ k ∈ o.keys,
    k ∈ sess.keys ∨ ∃ a' ∈ pool, a'.isConnected ∧ ∃ o ∈ own a', k ∈ o.keys

variable {b sess own pool}

theorem mem_since {parts : Aif → List (Option Metadata)} {before as : List Aif} {a : Aif}
    (h : a ∈ since b parts before as) : a ∈ before ∨ a ∈ as := by
  induction as generalizing before with
  | nil => exact .inl h
  | cons x as ih =>
    unfold since at h
    split at h
    · rcases ih h with h | h
      · exact absurd h List.not_mem_nil
      · exact .inr (List.mem_cons_of_mem _ h)
    · rcases ih h with h | h
      · rcases List.mem_append.1 h with h | h
        · exact .inl h
        · rw [List.mem_singleton.1 h]
          exact .inr List.mem_cons_self
      · exact .inr (List.mem_cons_of_mem _ h)

/-- What the walk ends with. -/
theorem mergeAifs_keys (b : Build) (sess : Metadata) (own : Aif → List Metadata) (pool : List Aif) :
    (mergeAifs b (fun a => some sess :: (own a).map some) none pool = none ∧ counted b sess own pool = []) ∨
      ∃ m, mergeAifs b (fun a => some sess :: (own a).map some) none pool = some m ∧
        counted b sess own pool ≠ [] ∧
        ∀ k, k ∈ m.keys ↔ k ∈ sess.keys ∨ ∃ a ∈ counted b sess own pool, ∃ o ∈ own a, k ∈ o.keys := by
  have hnil : Collected (fun a => some sess :: (own a).map some) none [] := rfl
  have h : Collected (fun a => some sess :: (own a).map some)
      (mergeAifs b (fun a => some sess :: (own a).map some) none pool) (counted b sess own pool) :=
    hnil.mergeAifs pool
  cases hm : mergeAifs b (fun a => some sess :: (own a).map some) none pool with
  | none =>
    rw [hm] at h
    exact .inl ⟨rfl, h⟩
  | some m =>
    rw [hm] at h
    obtain ⟨hne, ⟨hkeys, -⟩, -⟩ := h
    refine .inr ⟨m, rfl, hne, fun k => (hkeys k).trans ?_⟩
    obtain ⟨a₀, ha₀⟩ := List.exists_mem_of_ne_nil _ hne
    simp only [pairsOf, pairs, Metadata.keys, List.map_flatMap, List.mem_flatMap, List.flatMap_cons, List.map_append,
      List.mem_append, Option.map_some, Option.getD_some, List.flatMap_map]
    constructor
    · rintro ⟨a, ha, hk | hk⟩
      · exact .inl hk
      · exact .inr ⟨a, ha, hk⟩
    · rintro (hk | ⟨a, ha, hk⟩)
      · exact ⟨a₀, ha₀, .inl hk⟩
      · exact ⟨a, ha, .inr hk⟩

theorem mem_counted {a : Aif} (h : a ∈ counted b sess own pool) : a ∈ pool ∧ a.state ≠ .closed := by
  rcases mem_since h with h | h
  · exact absurd h List.not_mem_nil
  · simpa using h

theorem exactKeys_mergeAifs :
    ExactKeys sess own pool (mergeAifs b (fun a => some sess :: (own a).map some) none pool) ↔
      counted b sess own pool = [] ∨ NoKeyMoves b sess own pool := by
  rcases mergeAifs_keys b sess own pool with ⟨hnone, hc⟩ | ⟨m, hm, hne, hkeys⟩
  · rw [hnone]
    exact iff_of_true (fun _ h => nomatch h) (.inl hc)
  · rw [hm, or_iff_right hne]
    constructor
    · intro h
      refine ⟨fun a ha hcon _ o ho k hk => ?_, fun a ha _ o ho k hk => ?_⟩
      · exact (hkeys k).1 ((h m rfl k).2 (.inr ⟨a, ha, hcon, o, ho, hk⟩))
      · exact (h m rfl k).1 ((hkeys k).2 (.inr ⟨a, ha, o, ho, hk⟩))
    · rintro ⟨lost, kept⟩ m' hm' k
      obtain rfl : m = m' := Option.some.inj hm'
      rw [hkeys]
      constructor
      · rintro (hk | ⟨a, ha, o, ho, hk⟩)
        · exact .inl hk
        · obtain ⟨hpool, hopen⟩ := mem_counted ha
          by_cases hclose : a.state = .close
          · exact kept a ha hclose o ho k hk
          · exact .inr ⟨a, hpool, Aif.isConnected_iff.2 ⟨hopen, hclose⟩, o, ho, hk⟩
      · rintro (hk | ⟨a, ha, hcon, o, ho, hk⟩)
        · exact .inl hk
        · by_cases hin : a ∈ counted b sess own pool
          · exact .inr ⟨a, hin, o, ho, hk⟩
          · exact lost a ha hcon hin o ho k hk

end

/-- What a back end brings in: its own metadata, and that of its device. -/
def aifAndDevice (hw : Hw) (a : Aif) : List Metadata := [a.sessAifMeta, (hw.devs a.devObj).metadata]

/-- **The keys of the merged metadata.**  They are those of the session and its connected back ends exactly if no merge
succeeds at the end, or no key is lost with an overflow or comes in with a back end in `AIF_CLOSE`. -/
theorem mergedMetadata_exact (s : SessionObj) (hw : Hw) :
    (s.streamConfig.sessMode ≠ .nonTunnel →
      (ExactKeys s.sessMeta (aifAndDevice hw) s.aifPool (sessionGetMergedMetadata s hw) ↔
        counted hw.build s.sessMeta (aifAndDevice hw) s.aifPool = [] ∨
          NoKeyMoves hw.build s.sessMeta (aifAndDevice hw) s.aifPool)) ∧
    (ExactKeys s.sessMeta (fun a => [a.sessAifMeta]) s.aifPool (sessionGetMergedMetadataWithoutAif s hw) ↔
      counted hw.build s.sessMeta (fun a => [a.sessAifMeta]) s.aifPool = [] ∨
        NoKeyMoves hw.build s.sessMeta (fun a => [a.sessAifMeta]) s.aifPool) := by
  refine ⟨fun hmode => ?_, exactKeys_mergeAifs⟩
  rw [sessionGetMergedMetadata, if_pos hmode]
  exact exactKeys_mergeAifs

/-- Two connected back ends. -/
def SessionObj.withTwoBackEnds : SessionObj :=
  { sessId := 1, sessMeta := { gkv := [⟨1, 0⟩] }
    aifPool :=
      [{ aifId := 0, devObj := 0, state := .open, sessAifMeta := { gkv := [⟨2, 0⟩] } },
        { aifId := 1, devObj := 1, state := .opened, sessAifMeta := { gkv := [⟨1, 5⟩, ⟨3, 0⟩] } }] }

theorem mergedMetadata_exact_two :
    ExactKeys SessionObj.withTwoBackEnds.sessMeta (aifAndDevice (World.boot fun _ => []).hw)
      SessionObj.withTwoBackEnds.aifPool
      (sessionGetMergedMetadata SessionObj.withTwoBackEnds (World.boot fun _ => []).hw) := by
  have hcounted : counted (World.boot fun _ => []).hw.build SessionObj.withTwoBackEnds.sessMeta
      (aifAndDevice (World.boot fun _ => []).hw) SessionObj.withTwoBackEnds.aifPool =
      SessionObj.withTwoBackEnds.aifPool := by
    decide +kernel
  refine ((mergedMetadata_exact _ _).1 (by decide)).2 (.inr ⟨?_, ?_⟩)
  · intro a ha _ hnot
    rw [hcounted] at hnot
    exact absurd ha hnot
  · intro a ha hclose
    rw [hcounted] at ha
    rcases List.mem_pair.1 ha with rfl | rfl
    · cases hclose
    · cases hclose

/-- Three connected back ends, the second with 48 pairs: the merge fails there, and the key of the first is lost. -/
def SessionObj.crowded : SessionObj :=
  { sessId := 1
    aifPool :=
      [{ aifId := 0, devObj := 0, state := .open, sessAifMeta := { gkv := [⟨1, 0⟩] } },
        { aifId := 1, devObj := 1, state := .open, sessAifMeta := { gkv := (List.range 48).map fun i => ⟨100 + i, 0⟩ } },
        { aifId := 2, devObj := 2, state := .open, sessAifMeta := { gkv := [⟨7, 0⟩] } }] }

theorem mergedMetadata_drops_back_ends :
    ((sessionGetMergedMetadata SessionObj.crowded (World.boot fun _ => []).hw).map Metadata.keys = some [7]) ∧
    ¬ ExactKeys SessionObj.crowded.sessMeta (aifAndDevice (World.boot fun _ => []).hw) SessionObj.crowded.aifPool
      (sessionGetMergedMetadata SessionObj.crowded (World.boot fun _ => []).hw) := by
  have hkeys : (sessionGetMergedMetadata SessionObj.crowded (World.boot fun _ => []).hw).map Metadata.keys =
      some [7] := by decide +kernel
  refine ⟨hkeys, fun h => ?_⟩
  obtain ⟨m, hm, hmk⟩ := Option.map_eq_some_iff.1 hkeys
  have h1 : 1 ∈ m.keys := (h m hm 1).2 (.inr ⟨_, List.mem_cons_self, by decide, _, List.mem_cons_self, by decide⟩)
  rw [hmk] at h1
  exact absurd h1 (by decide)

end Agm.Service
