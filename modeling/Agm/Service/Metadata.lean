import Mathlib.Algebra.Order.Ring.Int
import Mathlib.Data.List.Basic

/-!
# Graph metadata

`struct agm_meta_data_gsl` and the two functions of `metadata.c` that the session code is built on: the removal of
repeated keys, which works in place, and the merge, which gives up when one of the two key vectors would be longer
than `MAX_KVPAIR` before the repeated keys are taken out.  Allocations succeed.
-/

namespace Agm.Service

/-- What the build decides: `AGM_32BIT` and `ENABLE_DEV_PREPARE_BEFORE_GRAPH_START_SEQ`. -/
structure Build where
  agm32bit : Bool := false
  devPrepareFirst : Bool := false
  deriving DecidableEq, Repr

/-- `MAX_KVPAIR`. -/
def Build.maxKvpair (b : Build) : Nat := if b.agm32bit then 128 else 48

/-- `struct agm_key_value`. -/
structure KeyValue where
  key : Nat
  value : Nat
  deriving DecidableEq, Repr

/-- A graph key vector. -/
abbrev Gkv := List KeyValue

/-- `struct agm_meta_data_gsl`.  The array of property values is `none` where the code has a `NULL` pointer: the
merge takes the property id of the last argument that has an array. -/
structure Metadata where
  gkv : Gkv := []
  ckv : List KeyValue := []
  propId : Nat := 0
  props : Option (List Nat) := none
  deriving DecidableEq, Repr, Inhabited

namespace Metadata

variable {α κ : Type} [DecidableEq κ]

/-- The inner loop of `metadata_remove_dup`: every later entry with the key of the entry at `i` is shifted out. -/
def dropKey (key : α → κ) (k : κ) : List α → List α
  | [] => []
  | y :: ys => if key y = k then dropKey key k ys else y :: dropKey key k ys

/-- The outer loop of `metadata_remove_dup`.  The first argument bounds the number of turns. -/
def removeDupLoop (key : α → κ) : Nat → List α → List α
  | 0, xs => xs
  | _, [] => []
  | n + 1, x :: xs => x :: removeDupLoop key n (dropKey key (key x) xs)

/-- One of the three parts of `metadata_remove_dup`. -/
def removeDup (key : α → κ) (xs : List α) : List α := removeDupLoop key xs.length xs

end Metadata

/-- `metadata_remove_dup`. -/
def metadataRemoveDup (m : Metadata) : Metadata :=
  { m with
    gkv := Metadata.removeDup KeyValue.key m.gkv
    ckv := Metadata.removeDup KeyValue.key m.ckv
    props := m.props.map (Metadata.removeDup id) }

/-- The second pass of `metadata_merge` over its arguments: the vectors are copied one after the other. -/
def metadataConcat (acc : Metadata) : List (Option Metadata) → Metadata
  | [] => acc
  | none :: args => metadataConcat acc args
  | some m :: args =>
    metadataConcat
      { gkv := acc.gkv ++ m.gkv
        ckv := acc.ckv ++ m.ckv
        propId := if m.props.isSome then m.propId else acc.propId
        props := acc.props.map (· ++ m.props.getD []) } args

/-- The number of pairs of one vector in all the arguments together. -/
def metadataCount (part : Metadata → List KeyValue) (args : List (Option Metadata)) : Nat :=
  (args.map fun o => (o.map fun m => (part m).length).getD 0).sum

/-- `metadata_merge`.  A `NULL` argument counts for nothing; `none` is the `NULL` result. -/
def metadataMerge (b : Build) (args : List (Option Metadata)) : Option Metadata :=
  if metadataCount Metadata.gkv args > b.maxKvpair ∨ metadataCount Metadata.ckv args > b.maxKvpair then none
  else some (metadataRemoveDup (metadataConcat { props := some [] } args))

theorem metadataMerge_isSome_iff (b : Build) (args : List (Option Metadata)) :
    (metadataMerge b args).isSome ↔
      metadataCount Metadata.gkv args ≤ b.maxKvpair ∧ metadataCount Metadata.ckv args ≤ b.maxKvpair := by
  unfold metadataMerge
  split
  · rename_i h
    simp only [Option.isSome_none, Bool.false_eq_true, false_iff, not_and, Nat.not_le]
    omega
  · rename_i h
    simp only [Option.isSome_some, true_iff]
    omega

/-- Leaving out an argument cannot make a merge fail. -/
theorem metadataMerge_isSome_of_cons {b : Build} {m : Option Metadata} {args : List (Option Metadata)}
    (h : (metadataMerge b (m :: args)).isSome) : (metadataMerge b args).isSome := by
  rw [metadataMerge_isSome_iff] at h ⊢
  simp only [metadataCount, List.map_cons, List.sum_cons] at h ⊢
  omega

end Agm.Service
