import Agm.Lib.Dedup
import Agm.Service.MergedMetadata

/-!
# The merge in its arrays

`metadata_merge` and `metadata_remove_dup` once more, as they work on the arrays they allocate: the arguments are copied
to offsets that move along, and repeated keys are shifted out in place.  `metadataMerge` comes to the same, and so does
the description in `mergeOf`.

`metadata_update_cal` gives pairs of a calibration vector new values.
-/

namespace Agm.Service

open Agm.Lib

namespace InPlace

/-- The merged structure, with its three arrays and their counts. -/
structure Merged where
  gkv : Nat → KeyValue := fun _ => ⟨0, 0⟩
  numGkvs : Nat
  ckv : Nat → KeyValue := fun _ => ⟨0, 0⟩
  numCkvs : Nat
  propId : Nat := 0
  values : Nat → Nat := fun _ => 0
  numValues : Nat

/-- How far the arrays have been filled: `gkv_offset`, `ckv_offset` and `prop_offset`. -/
structure Offsets where
  gkv : Nat := 0
  ckv : Nat := 0
  prop : Nat := 0

/-- The number of property values in all the arguments together. -/
def numValues (args : List (Option Metadata)) : Nat :=
  (args.map fun o => ((o.bind Metadata.props).getD []).length).sum

/-- One turn of the second pass over the arguments.  An argument without an array of values leaves the property id. -/
def copyArg (s : Merged × Offsets) : Option Metadata → Merged × Offsets
  | none => s
  | some temp =>
    let m := { s.1 with gkv := copyTo s.1.gkv s.2.gkv temp.gkv, ckv := copyTo s.1.ckv s.2.ckv temp.ckv }
    let off := { s.2 with gkv := s.2.gkv + temp.gkv.length, ckv := s.2.ckv + temp.ckv.length }
    match temp.props with
    | none => (m, off)
    | some values =>
      ({ m with propId := temp.propId, values := copyTo m.values off.prop values },
        { off with prop := off.prop + values.length })

/-- `metadata_remove_dup`. -/
def metadataRemoveDup (m : Merged) : Merged :=
  let gkv := removeRepeats KeyValue.key m.gkv 0 m.numGkvs
  let ckv := removeRepeats KeyValue.key m.ckv 0 m.numCkvs
  let values := removeRepeats id m.values 0 m.numValues
  { m with
    gkv := gkv.1, numGkvs := gkv.2, ckv := ckv.1, numCkvs := ckv.2, values := values.1, numValues := values.2 }

/-- What a reader of the structure finds. -/
def Merged.read (m : Merged) : Metadata where
  gkv := cells m.gkv m.numGkvs
  ckv := cells m.ckv m.numCkvs
  propId := m.propId
  props := some (cells m.values m.numValues)

/-- `metadata_merge`. -/
def metadataMerge (b : Build) (args : List (Option Metadata)) : Option Merged :=
  let numGkvs := metadataCount Metadata.gkv args
  let numCkvs := metadataCount Metadata.ckv args
  if numGkvs > b.maxKvpair ∨ numCkvs > b.maxKvpair then none
  else
    let merged := { numGkvs := numGkvs, numCkvs := numCkvs, numValues := numValues args }
    some (metadataRemoveDup (args.foldl copyArg (merged, {})).1)

end InPlace

/-! ## What a merge should be -/

/-- The property values of all the arguments. -/
def valuesOf (args : List (Option Metadata)) : List Nat := args.flatMap fun o => (o.bind Metadata.props).getD []

/-- The property id of the last argument that has property values. -/
def lastPropId (args : List (Option Metadata)) : Nat :=
  (((args.filterMap id).filter fun m => m.props.isSome).map Metadata.propId).getLastD 0

/-- The vectors of the arguments one after the other, without what has the key of something earlier. -/
def mergeOf (args : List (Option Metadata)) : Metadata where
  gkv := keepFirst KeyValue.key [] (pairs Metadata.gkv args)
  ckv := keepFirst KeyValue.key [] (pairs Metadata.ckv args)
  propId := lastPropId args
  props := some (keepFirst id [] (valuesOf args))

/-! ## The arrays -/

namespace InPlace

/-- Up to the offsets the arrays hold these vectors. -/
structure Holds (s : Merged × Offsets) (gkv ckv : List KeyValue) (values : List Nat) : Prop where
  gkv : cells s.1.gkv s.2.gkv = gkv
  ckv : cells s.1.ckv s.2.ckv = ckv
  values : cells s.1.values s.2.prop = values

theorem numValues_eq (args : List (Option Metadata)) : numValues args = (valuesOf args).length := by
  simp [numValues, valuesOf, List.length_flatMap]

theorem Holds.copyArg {s : Merged × Offsets} {gkv ckv : List KeyValue} {values : List Nat}
    (h : Holds s gkv ckv values) (o : Option Metadata) :
    Holds (copyArg s o) (gkv ++ (o.map Metadata.gkv).getD []) (ckv ++ (o.map Metadata.ckv).getD [])
      (values ++ (o.bind Metadata.props).getD []) := by
  obtain ⟨hg, hc, hv⟩ := h
  cases o with
  | none => simpa using ⟨hg, hc, hv⟩
  | some temp =>
    cases hp : temp.props with
    | none =>
      refine ⟨?_, ?_, ?_⟩ <;> simp [InPlace.copyArg, hp, cells_copyTo, hg, hc, hv]
    | some vs =>
      refine ⟨?_, ?_, ?_⟩ <;> simp [InPlace.copyArg, hp, cells_copyTo, hg, hc, hv]

/-- What the second pass leaves. -/
theorem Holds.copyArgs {s : Merged × Offsets} {gkv ckv : List KeyValue} {values : List Nat}
    (h : Holds s gkv ckv values) (args : List (Option Metadata)) :
    Holds (args.foldl InPlace.copyArg s) (gkv ++ pairs Metadata.gkv args) (ckv ++ pairs Metadata.ckv args)
      (values ++ valuesOf args) := by
  induction args generalizing s gkv ckv values with
  | nil => simpa [pairs, valuesOf] using h
  | cons o args ih => simpa [pairs, valuesOf] using ih (h.copyArg o)

/-- The counts of the first pass stay. -/
theorem counts_copyArgs (s : Merged × Offsets) (args : List (Option Metadata)) :
    (args.foldl copyArg s).1.numGkvs = s.1.numGkvs ∧ (args.foldl copyArg s).1.numCkvs = s.1.numCkvs ∧
      (args.foldl copyArg s).1.numValues = s.1.numValues := by
  induction args generalizing s with
  | nil => exact ⟨rfl, rfl, rfl⟩
  | cons o args ih =>
    have hone : (copyArg s o).1.numGkvs = s.1.numGkvs ∧ (copyArg s o).1.numCkvs = s.1.numCkvs ∧
        (copyArg s o).1.numValues = s.1.numValues := by
      cases o with
      | none => exact ⟨rfl, rfl, rfl⟩
      | some temp => cases hp : temp.props <;> simp [copyArg, hp]
    obtain ⟨hg, hc, hv⟩ := ih (copyArg s o)
    exact ⟨hg.trans hone.1, hc.trans hone.2.1, hv.trans hone.2.2⟩

theorem propId_copyArgs (s : Merged × Offsets) (args : List (Option Metadata)) :
    (args.foldl copyArg s).1.propId =
      (((args.filterMap id).filter fun m => m.props.isSome).map Metadata.propId).getLastD s.1.propId := by
  induction args generalizing s with
  | nil => rfl
  | cons o args ih =>
    rw [List.foldl_cons, ih]
    cases o with
    | none => rfl
    | some temp =>
      cases hp : temp.props with
      | none => simp [copyArg, hp]
      | some values =>
        have hid : (copyArg s (some temp)).1.propId = temp.propId := by simp [copyArg, hp]
        have hcons : List.filterMap id (some temp :: args) = temp :: args.filterMap id := rfl
        rw [hid, hcons, List.filter_cons_of_pos (by simp [hp]), List.map_cons, List.getLastD_cons]

/-- The arrays as they are filled. -/
theorem read_copyArgs (m : Merged) (args : List (Option Metadata)) (hg : m.numGkvs = (pairs Metadata.gkv args).length)
    (hc : m.numCkvs = (pairs Metadata.ckv args).length) (hv : m.numValues = numValues args) (hid : m.propId = 0) :
    (args.foldl copyArg (m, {})).1.read =
      { gkv := pairs Metadata.gkv args, ckv := pairs Metadata.ckv args, propId := lastPropId args
        props := some (valuesOf args) } := by
  have hstart : Holds (m, {}) [] [] [] := ⟨rfl, rfl, rfl⟩
  have hholds := hstart.copyArgs args
  obtain ⟨hng, hnc, hnv⟩ := counts_copyArgs (m, {}) args
  have hpropId := propId_copyArgs (m, {}) args
  -- every offset has come to the count of the first pass
  have hcells {α : Type} {a : Nat → α} {off n : Nat} {xs : List α} (h : cells a off = xs) (hn : n = xs.length) :
      cells a n = xs := by
    have hoff : off = xs.length := by rw [← h, length_cells]
    rw [hn, ← hoff, h]
  unfold Merged.read
  rw [hcells hholds.gkv (hng.trans (by simpa using hg)), hcells hholds.ckv (hnc.trans (by simpa using hc)),
    hcells hholds.values (hnv.trans (by simpa [numValues_eq] using hv)), hpropId, hid]
  rfl

/-- What `metadata_remove_dup` leaves. -/
theorem read_metadataRemoveDup (m : Merged) : (metadataRemoveDup m).read =
    { gkv := keepFirst KeyValue.key [] m.read.gkv, ckv := keepFirst KeyValue.key [] m.read.ckv
      propId := m.read.propId, props := m.read.props.map (keepFirst id []) } := by
  have hloops {α κ : Type} [DecidableEq κ] (key : α → κ) (a : Nat → α) (n : Nat) :
      cells (removeRepeats key a 0 n).1 (removeRepeats key a 0 n).2 = keepFirst key [] (cells a n) :=
    cells_removeRepeats key [] (cells a n) rfl
  simp only [metadataRemoveDup, Merged.read, hloops, Option.map_some]

end InPlace

theorem metadata_merge_read (b : Build) (args : List (Option Metadata)) :
    (InPlace.metadataMerge b args).map InPlace.Merged.read =
      if (pairs Metadata.gkv args).length > b.maxKvpair ∨ (pairs Metadata.ckv args).length > b.maxKvpair then none
      else some (mergeOf args) := by
  unfold InPlace.metadataMerge
  simp only [metadataCount_eq]
  split
  · rfl
  · have hread := InPlace.read_copyArgs ⟨fun _ => ⟨0, 0⟩, (pairs Metadata.gkv args).length, fun _ => ⟨0, 0⟩,
      (pairs Metadata.ckv args).length, 0, fun _ => 0, InPlace.numValues args⟩ args rfl rfl rfl rfl
    rw [Option.map_some, InPlace.read_metadataRemoveDup, hread]
    rfl

/-! ## Compared with the merge without arrays -/

section

variable {α κ : Type} [DecidableEq κ] (key : α → κ)

theorem Metadata.dropKey_eq_filter (k : κ) (xs : List α) : dropKey key k xs = xs.filter fun y => k ≠ key y := by
  induction xs with
  | nil => rfl
  | cons x xs ih =>
    rw [dropKey, ih]
    by_cases h : key x = k
    · rw [if_pos h, List.filter_cons_of_neg (by simp [h])]
    · rw [if_neg h, List.filter_cons_of_pos (by simp [Ne.symm h])]

theorem Metadata.removeDup_eq_keepFirst (xs : List α) : removeDup key xs = keepFirst key [] xs := by
  have hloop (n : Nat) (xs : List α) (h : xs.length ≤ n) : removeDupLoop key n xs = keepFirst key [] xs := by
    induction n generalizing xs with
    | zero =>
      obtain rfl := List.length_eq_zero_iff.1 (Nat.le_zero.1 h)
      rfl
    | succ n ih =>
      cases xs with
      | nil => rfl
      | cons x xs =>
        have hle : (xs.filter fun y => key x ≠ key y).length ≤ n :=
          (List.length_filter_le _ _).trans (Nat.le_of_succ_le_succ h)
        rw [removeDupLoop, dropKey_eq_filter, ih _ hle, keepFirst_cons]
  exact hloop _ xs (Nat.le_refl _)

end

theorem metadataConcat_props (args : List (Option Metadata)) (acc : Metadata) :
    (metadataConcat acc args).props = acc.props.map (· ++ valuesOf args) ∧
      (metadataConcat acc args).propId =
        (((args.filterMap id).filter fun m => m.props.isSome).map Metadata.propId).getLastD acc.propId := by
  induction args generalizing acc with
  | nil => simp [metadataConcat, valuesOf]
  | cons o args ih =>
    cases o with
    | none => exact ih acc
    | some m =>
      obtain ⟨hprops, hid⟩ := ih
        { gkv := acc.gkv ++ m.gkv, ckv := acc.ckv ++ m.ckv
          propId := if m.props.isSome then m.propId else acc.propId
          props := acc.props.map (· ++ m.props.getD []) }
      have hcons : List.filterMap id (some m :: args) = m :: args.filterMap id := rfl
      rw [metadataConcat, hprops, hid, hcons]
      refine ⟨by simp [valuesOf, Function.comp_def], ?_⟩
      cases hp : m.props with
      | none => simp [hp]
      | some values =>
        rw [List.filter_cons_of_pos (by simp [hp]), List.map_cons, List.getLastD_cons]
        rfl

/-- `metadataMerge` is what `metadata_merge` computes in its arrays. -/
theorem metadataMerge_eq_inPlace (b : Build) (args : List (Option Metadata)) :
    metadataMerge b args = (InPlace.metadataMerge b args).map InPlace.Merged.read := by
  rw [metadata_merge_read]
  unfold metadataMerge
  rw [metadataCount_eq, metadataCount_eq]
  obtain ⟨hgkv, hckv⟩ := metadataConcat_pairs args { props := some [] }
  obtain ⟨hprops, hid⟩ := metadataConcat_props args { props := some [] }
  simp only [List.nil_append] at hgkv hckv
  simp only [metadataRemoveDup, hgkv, hckv, hprops, hid, Metadata.removeDup_eq_keepFirst, Option.map_some,
    List.nil_append]
  rfl

/-! ## Calibration -/

/-- The loops of `metadata_update_cal` for one pair: every entry with its key gives it a new value. -/
def updatePair (ckv : List KeyValue) (p : KeyValue) : KeyValue :=
  ckv.foldl (fun p q => if p.key = q.key then { p with value := q.value } else p) p

/-- `metadata_update_cal`; nothing happens without an array. -/
def metadataUpdateCal (ckv : Option (List KeyValue)) (m : Metadata) : Metadata :=
  match ckv with
  | none => m
  | some ckv => { m with ckv := m.ckv.map (updatePair ckv) }

/-- The value the last entry with this key gives. -/
def lastValue (ckv : List KeyValue) (p : KeyValue) : Nat :=
  ((ckv.filter fun q => p.key = q.key).map KeyValue.value).getLastD p.value

theorem updatePair_eq (ckv : List KeyValue) (p : KeyValue) : updatePair ckv p = ⟨p.key, lastValue ckv p⟩ := by
  induction ckv generalizing p with
  | nil => rfl
  | cons q ckv ih =>
    have hstep : updatePair (q :: ckv) p = updatePair ckv (if p.key = q.key then { p with value := q.value } else p) := rfl
    rw [hstep, ih]
    by_cases h : p.key = q.key
    · rw [if_pos h, lastValue, lastValue, List.filter_cons_of_pos (by simp [h]), List.map_cons, List.getLastD_cons]
    · rw [if_neg h, lastValue, lastValue, List.filter_cons_of_neg (by simp [h])]

theorem key_updatePair (ckv : List KeyValue) (p : KeyValue) : (updatePair ckv p).key = p.key := by
  rw [updatePair_eq]

/-- Only the last entry counts, so a second time changes nothing. -/
theorem updatePair_updatePair (ckv : List KeyValue) (p : KeyValue) :
    updatePair ckv (updatePair ckv p) = updatePair ckv p := by
  rw [updatePair_eq ckv p, updatePair_eq]
  congr 1
  unfold lastValue
  cases h : (ckv.filter fun q => p.key = q.key) with
  | nil => rfl
  | cons q qs => simp only [List.map_cons, List.getLastD_cons]

theorem keepFirst_map {α κ : Type} [DecidableEq κ] {key : α → κ} {f : α → α} (h : ∀ x, key (f x) = key x)
    (seen : List κ) (xs : List α) : keepFirst key seen (xs.map f) = (keepFirst key seen xs).map f := by
  induction xs generalizing seen with
  | nil => rfl
  | cons x xs ih =>
    rw [List.map_cons, keepFirst, keepFirst, h, ih]
    split <;> rfl

theorem lastPropId_map {f : Metadata → Metadata} (hid : ∀ m, (f m).propId = m.propId)
    (hprops : ∀ m, (f m).props = m.props) (args : List (Option Metadata)) :
    lastPropId (args.map (Option.map f)) = lastPropId args := by
  have hmap : (args.map (Option.map f)).filterMap id = (args.filterMap id).map f := by
    rw [List.filterMap_map, List.map_filterMap]
    rfl
  unfold lastPropId
  rw [hmap, List.filter_map, List.map_map]
  simp only [Function.comp_def, hid, hprops]

theorem mergeOf_updateCal (ckv : List KeyValue) (args : List (Option Metadata)) :
    mergeOf (args.map (Option.map (metadataUpdateCal (some ckv)))) = metadataUpdateCal (some ckv) (mergeOf args) := by
  have hgkv : pairs Metadata.gkv (args.map (Option.map (metadataUpdateCal (some ckv)))) = pairs Metadata.gkv args := by
    simp [pairs, List.flatMap_map, Function.comp_def, metadataUpdateCal]
  have hckv : pairs Metadata.ckv (args.map (Option.map (metadataUpdateCal (some ckv)))) =
      (pairs Metadata.ckv args).map (updatePair ckv) := by
    unfold pairs
    rw [List.flatMap_map, List.map_flatMap]
    congr 1
    funext o
    cases o <;> rfl
  have hvalues : valuesOf (args.map (Option.map (metadataUpdateCal (some ckv)))) = valuesOf args := by
    unfold valuesOf
    rw [List.flatMap_map]
    congr 1
    funext o
    cases o <;> rfl
  have hid : lastPropId (args.map (Option.map (metadataUpdateCal (some ckv)))) = lastPropId args :=
    lastPropId_map (f := metadataUpdateCal (some ckv)) (fun _ => rfl) (fun _ => rfl) args
  rw [mergeOf, hgkv, hckv, hvalues, hid, keepFirst_map (key_updatePair ckv)]
  rfl

/-- **Calibration and merge can be exchanged.** -/
theorem update_cal_merge (b : Build) (ckv : Option (List KeyValue)) (sess sessAif dev : Metadata) :
    ((InPlace.metadataMerge b [some (metadataUpdateCal ckv sess), some (metadataUpdateCal ckv sessAif),
        some (metadataUpdateCal ckv dev)]).map InPlace.Merged.read =
      ((InPlace.metadataMerge b [some sess, some sessAif, some dev]).map InPlace.Merged.read).map
        (metadataUpdateCal ckv)) ∧
    ∀ m : Metadata, metadataUpdateCal ckv (metadataUpdateCal ckv m) = metadataUpdateCal ckv m ∧
      metadataUpdateCal ckv m = { m with ckv := m.ckv.map fun p => ⟨p.key, lastValue (ckv.getD []) p⟩ } := by
  cases ckv with
  | none =>
    refine ⟨?_, fun m => ⟨rfl, ?_⟩⟩
    · have hsame : metadataUpdateCal none = id := rfl
      rw [hsame, Option.map_id]
      rfl
    · simp [metadataUpdateCal, lastValue]
  | some ckv =>
    refine ⟨?_, fun m => ⟨?_, ?_⟩⟩
    · have hargs : [some (metadataUpdateCal (some ckv) sess), some (metadataUpdateCal (some ckv) sessAif),
          some (metadataUpdateCal (some ckv) dev)] =
          [some sess, some sessAif, some dev].map (Option.map (metadataUpdateCal (some ckv))) := rfl
      have hlen (part : Metadata → List KeyValue) (hpart : ∀ m : Metadata,
          (part (metadataUpdateCal (some ckv) m)).length = (part m).length) :
          (pairs part ([some sess, some sessAif, some dev].map (Option.map (metadataUpdateCal (some ckv))))).length =
            (pairs part [some sess, some sessAif, some dev]).length := by
        simp [pairs, hpart]
      rw [metadata_merge_read, metadata_merge_read, hargs, hlen _ fun _ => rfl,
        hlen _ fun _ => List.length_map _, mergeOf_updateCal]
      split <;> rfl
    · simp [metadataUpdateCal, updatePair_updatePair]
    · simp [metadataUpdateCal, updatePair_eq]

/-- **`metadata_merge`.**  It is `NULL` exactly if one of the key vectors is longer than `MAX_KVPAIR` in all, and the
merge of its arguments otherwise. -/
theorem metadata_merge_exact (b : Build) (args : List (Option Metadata)) :
    (InPlace.metadataMerge b args).map InPlace.Merged.read =
      if (pairs Metadata.gkv args).length > b.maxKvpair ∨ (pairs Metadata.ckv args).length > b.maxKvpair then none
      else some (mergeOf args) := metadata_merge_read b args

end Agm.Service
