import Mathlib.Algebra.Order.Group.Multiset
import Mathlib.Data.Multiset.Range

/-!
# Blocks of memory

A log of allocations and releases: blocks are numbered as they are allocated, and every release is noted.  Nothing keeps a
program from releasing a block twice, or one that it has not allocated; `OwnOnly` says that none was.  `Balanced` is the
conservation law behind it: what was released and what is still held is what was allocated, each block once.
-/

namespace Agm.Lib

/-- The blocks allocated so far, and the releases. -/
structure Blocks where
  next : Nat := 0
  freed : List Nat := []
  deriving DecidableEq, Repr

namespace Blocks

/-- A block is allocated; its number is `next`. -/
def alloc (b : Blocks) : Blocks := { b with next := b.next + 1 }

def free (id : Nat) (b : Blocks) : Blocks := { b with freed := id :: b.freed }

/-- Only blocks that were allocated are released, and none of them twice. -/
def OwnOnly (b : Blocks) : Prop := b.freed.Nodup ∧ ∀ id ∈ b.freed, id < b.next

/-- The blocks held, and the ones released, are those that were allocated. -/
def Balanced (b : Blocks) (held : Multiset Nat) : Prop := (b.freed : Multiset Nat) + held = Multiset.range b.next

variable {b : Blocks} {held : Multiset Nat}

theorem balanced_nil : ({} : Blocks).Balanced 0 := rfl

theorem Balanced.alloc (h : b.Balanced held) : b.alloc.Balanced (b.next ::ₘ held) := by
  unfold Balanced Blocks.alloc at *
  rw [Multiset.add_cons, h, Multiset.range_succ]

theorem Balanced.free {id : Nat} (h : b.Balanced (id ::ₘ held)) : (b.free id).Balanced held := by
  unfold Balanced Blocks.free at *
  rw [← Multiset.cons_coe, Multiset.cons_add, ← Multiset.add_cons]
  exact h

theorem Balanced.ownOnly (h : b.Balanced held) : b.OwnOnly := by
  have hle : (b.freed : Multiset Nat) ≤ Multiset.range b.next := by
    rw [← h]
    exact Multiset.le_add_right _ _
  refine ⟨Multiset.coe_nodup.1 (Multiset.nodup_of_le hle (Multiset.nodup_range _)), fun id hid => ?_⟩
  exact Multiset.mem_range.1 (Multiset.mem_of_le hle (Multiset.mem_coe.2 hid))

end Blocks

end Agm.Lib
