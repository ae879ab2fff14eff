import Mathlib.Data.List.Nodup
import Agm.Lib.Sat

/-!
# Circular lists with links both ways

A node is a place in memory with the places of its two neighbours; a node that is not in memory cannot be read or
written.  The nodes of a list are linked in a circle through a head, which is a node itself.  `Ring h head xs` says that
the circle of `head` has the nodes `xs`, in this order.  Its parts are segments: what is linked anew at one end of a
segment leaves the rest of it as it is.
-/

namespace Agm.Lib

variable {α : Type}

/-- The links of a node. -/
structure Links (α : Type) where
  next : α
  prev : α
  deriving DecidableEq, Repr

abbrev LinkHeap (α : Type) := α → Option (Links α)

namespace LinkHeap

def next (h : LinkHeap α) (a : α) : Option α := (h a).map Links.next
def prev (h : LinkHeap α) (a : α) : Option α := (h a).map Links.prev

/-- The first node of a list that goes on to `b`. -/
def firstOr (b : α) (xs : List α) : α := xs.headD b

/-- The last node of a list that comes from `a`. -/
def lastOr (a : α) (xs : List α) : α := xs.getLastD a

/-- Two nodes that are linked to each other. -/
structure Joined (h : LinkHeap α) (a b : α) : Prop where
  next : h.next a = some b
  prev : h.prev b = some a

/-- The nodes from `a` through `xs` to `b` are linked one to the other. -/
def Seg (h : LinkHeap α) : α → List α → α → Prop
  | a, [], b => h.Joined a b
  | a, x :: xs, b => h.Joined a x ∧ Seg h x xs b

/-- The circle of a head. -/
structure Ring (h : LinkHeap α) (head : α) (xs : List α) : Prop where
  nodup : (head :: xs).Nodup
  seg : h.Seg head xs head

variable {h h' : LinkHeap α} {a b x y : α} {xs ys : List α}

@[simp] theorem lastOr_concat (a l : α) (xs : List α) : lastOr a (xs ++ [l]) = l := by simp [lastOr]

theorem seg_append : h.Seg a (xs ++ y :: ys) b ↔ h.Seg a xs y ∧ h.Seg y ys b := by
  induction xs generalizing a with
  | nil => exact Iff.rfl
  | cons x xs ih =>
    show h.Joined a x ∧ h.Seg x (xs ++ y :: ys) b ↔ (h.Joined a x ∧ h.Seg x xs y) ∧ h.Seg y ys b
    rw [ih, and_assoc]

theorem Seg.joined_first (hs : h.Seg a xs b) : h.Joined a (firstOr b xs) := by
  cases xs with
  | nil => exact hs
  | cons x xs => exact hs.1

theorem Seg.joined_last (hs : h.Seg a xs b) : h.Joined (lastOr a xs) b := by
  rcases List.eq_nil_or_concat xs with rfl | ⟨ys, l, rfl⟩
  · exact hs
  · rw [List.concat_eq_append] at hs ⊢
    rw [lastOr_concat]
    exact (seg_append.1 hs).2

theorem Seg.isSome_of_mem (hs : h.Seg a xs b) (hx : x ∈ xs) : (h x).isSome := by
  induction xs generalizing a with
  | nil => exact absurd hx List.not_mem_nil
  | cons y ys ih =>
    rcases List.mem_cons.1 hx with rfl | hx
    · exact Option.isSome_iff_exists.2 ((Option.map_eq_some_iff.1 hs.1.prev).imp fun _ he => he.1)
    · exact ih hs.2 hx

/-- Nothing changed on the way. -/
theorem Seg.congr (hs : h.Seg a xs b) (hn : ∀ c ∈ a :: xs, h'.next c = h.next c)
    (hp : ∀ c ∈ xs ++ [b], h'.prev c = h.prev c) : h'.Seg a xs b := by
  induction xs generalizing a with
  | nil =>
    exact ⟨(hn a List.mem_cons_self).trans hs.next, (hp b List.mem_cons_self).trans hs.prev⟩
  | cons x xs ih =>
    refine ⟨⟨(hn a List.mem_cons_self).trans hs.1.next, (hp x List.mem_cons_self).trans hs.1.prev⟩, ?_⟩
    exact ih hs.2 (fun c hc => hn c (List.mem_cons_of_mem a hc)) fun c hc => hp c (List.mem_cons_of_mem x hc)

/-- The last node is linked to another one. -/
theorem Seg.relink_last (hs : h.Seg a xs x) (hn : ∀ c ∈ a :: xs, c ≠ lastOr a xs → h'.next c = h.next c)
    (hd : (a :: xs).Nodup) (hp : ∀ c ∈ xs, h'.prev c = h.prev c) (hj : h'.Joined (lastOr a xs) b) : h'.Seg a xs b := by
  rcases List.eq_nil_or_concat xs with rfl | ⟨ys, l, rfl⟩
  · exact hj
  · rw [List.concat_eq_append] at *
    rw [lastOr_concat] at hn hj
    refine seg_append.2 ⟨(seg_append.1 hs).1.congr (fun c hc => hn c ?_ ?_) hp, hj⟩
    · rw [← List.cons_append]
      exact List.mem_append_left [l] hc
    · rintro rfl
      rw [← List.cons_append] at hd
      exact (List.disjoint_of_nodup_append hd) hc List.mem_cons_self

/-- The first node is linked to another one. -/
theorem Seg.relink_first (hs : h.Seg a xs b) (hn : ∀ c ∈ xs, h'.next c = h.next c)
    (hp : ∀ c ∈ xs ++ [b], c ≠ firstOr b xs → h'.prev c = h.prev c) (hd : (xs ++ [b]).Nodup)
    (hj : h'.Joined y (firstOr b xs)) : h'.Seg y xs b := by
  cases xs with
  | nil => exact hj
  | cons x xs =>
    refine ⟨hj, hs.2.congr hn fun c hc => hp c (List.mem_cons_of_mem x hc) ?_⟩
    rintro rfl
    exact (List.nodup_cons.1 hd).1 hc

theorem Ring.congr {head : α} (hr : h.Ring head xs) (he : ∀ c ∈ head :: xs, h' c = h c) : h'.Ring head xs := by
  refine ⟨hr.nodup, hr.seg.congr (fun c hc => congrArg (Option.map Links.next) (he c hc)) fun c hc => ?_⟩
  refine congrArg (Option.map Links.prev) (he c ?_)
  rcases List.mem_append.1 hc with hc | hc
  · exact List.mem_cons_of_mem head hc
  · rw [List.mem_singleton.1 hc]
    exact List.mem_cons_self

theorem Ring.isSome_of_mem {head : α} (hr : h.Ring head xs) (hx : x ∈ head :: xs) : (h x).isSome := by
  rcases List.mem_cons.1 hx with rfl | hx
  · exact Option.isSome_iff_exists.2 ((Option.map_eq_some_iff.1 hr.seg.joined_first.next).imp fun _ he => he.1)
  · exact hr.seg.isSome_of_mem hx

/-- The nodes of the circle, once each, whichever of them comes first. -/
theorem Ring.nodup_append {head : α} (hr : h.Ring head xs) : (xs ++ [head]).Nodup :=
  (List.perm_append_singleton head xs).nodup_iff.2 hr.nodup

/-! ## Linking in and out -/

section

variable {head item : α}

theorem lastOr_mem (a : α) (xs : List α) : lastOr a xs ∈ a :: xs := by
  rcases List.eq_nil_or_concat xs with rfl | ⟨ys, l, rfl⟩
  · exact List.mem_cons_self
  · rw [List.concat_eq_append, lastOr_concat]
    exact List.mem_cons_of_mem a (List.mem_append_right ys List.mem_cons_self)

theorem firstOr_mem (b : α) (xs : List α) : firstOr b xs ∈ xs ++ [b] := by
  cases xs with
  | nil => exact List.mem_cons_self
  | cons x xs => exact List.mem_cons_self

/-- A node is linked in before the head. -/
theorem Ring.addTail (hr : h.Ring head xs) (hi : item ∉ head :: xs)
    (hn : ∀ c ∈ head :: xs, c ≠ lastOr head xs → h'.next c = h.next c) (hp : ∀ c ∈ xs, h'.prev c = h.prev c)
    (hlast : h'.Joined (lastOr head xs) item) (hhead : h'.Joined item head) : h'.Ring head (xs ++ [item]) := by
  refine ⟨?_, seg_append.2 ⟨hr.seg.relink_last hn hr.nodup hp hlast, hhead⟩⟩
  rw [← List.cons_append]
  exact List.nodup_append'.2 ⟨hr.nodup, List.nodup_singleton item, List.disjoint_singleton.2 hi⟩

/-- A node is linked in behind the head. -/
theorem Ring.addHead (hr : h.Ring head xs) (hi : item ∉ head :: xs) (hn : ∀ c ∈ xs, h'.next c = h.next c)
    (hp : ∀ c ∈ head :: xs, c ≠ firstOr head xs → h'.prev c = h.prev c)
    (hfirst : h'.Joined item (firstOr head xs)) (hhead : h'.Joined head item) : h'.Ring head (item :: xs) := by
  refine ⟨?_, hhead, hr.seg.relink_first hn (fun c hc => hp c ?_) hr.nodup_append hfirst⟩
  · obtain ⟨hne, hxs⟩ := not_or.1 (List.mem_cons.not.1 hi)
    refine List.nodup_cons.2 ⟨?_, List.nodup_cons.2 ⟨hxs, (List.nodup_cons.1 hr.nodup).2⟩⟩
    rintro hmem
    rcases List.mem_cons.1 hmem with rfl | hmem
    · exact hne rfl
    · exact (List.nodup_cons.1 hr.nodup).1 hmem
  · exact (List.perm_append_singleton head xs).mem_iff.1 hc

/-- A node is linked out: the one before it and the one behind it are linked to each other. -/
theorem Ring.remove (hr : h.Ring head (xs ++ item :: ys))
    (hn : ∀ c ∈ head :: (xs ++ ys), c ≠ lastOr head xs → h'.next c = h.next c)
    (hp : ∀ c ∈ head :: (xs ++ ys), c ≠ firstOr head ys → h'.prev c = h.prev c)
    (hj : h'.Joined (lastOr head xs) (firstOr head ys)) : h'.Ring head (xs ++ ys) := by
  have hsub : (head :: (xs ++ ys)).Sublist (head :: (xs ++ item :: ys)) :=
    ((List.sublist_cons_self item ys).append_left xs).cons_cons head
  have hd : (head :: (xs ++ ys)).Nodup := hr.nodup.sublist hsub
  obtain ⟨hleft, hright⟩ := seg_append.1 hr.seg
  have hdl : (head :: xs).Nodup := hd.sublist ((List.sublist_append_left xs ys).cons_cons head)
  refine ⟨hd, ?_⟩
  cases ys with
  | nil =>
    rw [List.append_nil] at *
    refine hleft.relink_last hn hdl (fun c hc => hp c (List.mem_cons_of_mem head hc) ?_) hj
    rintro rfl
    exact (List.nodup_cons.1 hdl).1 hc
  | cons y ys =>
    have hdr : (head :: y :: ys).Nodup := hd.sublist ((List.sublist_append_right xs (y :: ys)).cons_cons head)
    have hdisj : (head :: xs).Disjoint (y :: ys) := by
      rw [← List.cons_append] at hd
      exact List.disjoint_of_nodup_append hd
    refine seg_append.2 ⟨hleft.relink_last (fun c hc => hn c ?_) hdl (fun c hc => hp c ?_ ?_) hj,
      hright.2.congr (fun c hc => hn c ?_ ?_) fun c hc => hp c ?_ ?_⟩
    · rw [← List.cons_append]
      exact List.mem_append_left (y :: ys) hc
    · exact List.mem_cons_of_mem head (List.mem_append_left (y :: ys) hc)
    · rintro rfl
      exact hdisj (List.mem_cons_of_mem head hc) List.mem_cons_self
    · exact List.mem_cons_of_mem head (List.mem_append_right xs hc)
    · rintro rfl
      exact hdisj (lastOr_mem head xs) hc
    · rcases List.mem_append.1 hc with hc | hc
      · exact List.mem_cons_of_mem head (List.mem_append_right xs (List.mem_cons_of_mem y hc))
      · rw [List.mem_singleton.1 hc]
        exact List.mem_cons_self
    · rintro rfl
      rcases List.mem_append.1 hc with hc | hc
      · exact (List.nodup_cons.1 (List.nodup_cons.1 hdr).2).1 hc
      · exact (List.nodup_cons.1 hdr).1 (List.mem_singleton.1 hc ▸ List.mem_cons_self)

end

/-! ## Walking along the links -/

/-- Going on by `f`, one comes from `a` through `xs` to `b`. -/
def Leads (f : α → Option α) : α → List α → α → Prop
  | a, [], b => f a = some b
  | a, x :: xs, b => f a = some x ∧ Leads f x xs b

theorem leads_append {f : α → Option α} : Leads f a (xs ++ y :: ys) b ↔ Leads f a xs y ∧ Leads f y ys b := by
  induction xs generalizing a with
  | nil => exact Iff.rfl
  | cons x xs ih =>
    show f a = some x ∧ Leads f x (xs ++ y :: ys) b ↔ (f a = some x ∧ Leads f x xs y) ∧ Leads f y ys b
    rw [ih, and_assoc]

theorem Seg.leads_next (hs : h.Seg a xs b) : Leads h.next a xs b := by
  induction xs generalizing a with
  | nil => exact Joined.next hs
  | cons x xs ih => exact ⟨hs.1.next, ih hs.2⟩

theorem Seg.leads_prev (hs : h.Seg a xs b) : Leads h.prev b xs.reverse a := by
  induction xs generalizing a with
  | nil => exact Joined.prev hs
  | cons x xs ih =>
    rw [List.reverse_cons]
    exact leads_append.2 ⟨ih hs.2, hs.1.prev⟩

/-! ## Reading and writing links -/

section

variable [DecidableEq α]

def setNext (h : LinkHeap α) (a b : α) : LinkHeap α := fun c =>
  if c = a then (h a).map fun l => { l with next := b } else h c

def setPrev (h : LinkHeap α) (a b : α) : LinkHeap α := fun c =>
  if c = a then (h a).map fun l => { l with prev := b } else h c

theorem next_setNext (c : α) : (h.setNext a b).next c = if c = a then (h.next a).map fun _ => b else h.next c := by
  unfold next setNext
  split
  · rw [Option.map_map, Option.map_map]
    rfl
  · rfl

theorem prev_setPrev (c : α) : (h.setPrev a b).prev c = if c = a then (h.prev a).map fun _ => b else h.prev c := by
  unfold prev setPrev
  split
  · rw [Option.map_map, Option.map_map]
    rfl
  · rfl

@[simp] theorem prev_setNext (c : α) : (h.setNext a b).prev c = h.prev c := by
  unfold prev setNext
  split
  · next hc => rw [Option.map_map, hc]; rfl
  · rfl

@[simp] theorem next_setPrev (c : α) : (h.setPrev a b).next c = h.next c := by
  unfold next setPrev
  split
  · next hc => rw [Option.map_map, hc]; rfl
  · rfl

@[simp] theorem isSome_setNext (c : α) : ((h.setNext a b) c).isSome = (h c).isSome := by
  unfold setNext
  split
  · next hc => rw [Option.isSome_map, hc]
  · rfl

@[simp] theorem isSome_setPrev (c : α) : ((h.setPrev a b) c).isSome = (h c).isSome := by
  unfold setPrev
  split
  · next hc => rw [Option.isSome_map, hc]
  · rfl

theorem setNext_of_ne {c : α} (hc : c ≠ a) : h.setNext a b c = h c := if_neg hc

theorem setPrev_of_ne {c : α} (hc : c ≠ a) : h.setPrev a b c = h c := if_neg hc

theorem next_setNext_self (ha : (h a).isSome) : (h.setNext a b).next a = some b := by
  obtain ⟨l, hl⟩ := Option.isSome_iff_exists.1 ha
  rw [next_setNext, if_pos rfl, next, hl]
  rfl

theorem prev_setPrev_self (ha : (h a).isSome) : (h.setPrev a b).prev a = some b := by
  obtain ⟨l, hl⟩ := Option.isSome_iff_exists.1 ha
  rw [prev_setPrev, if_pos rfl, prev, hl]
  rfl

theorem next_setNext_of_ne {c : α} (hc : c ≠ a) : (h.setNext a b).next c = h.next c := by rw [next_setNext, if_neg hc]

theorem prev_setPrev_of_ne {c : α} (hc : c ≠ a) : (h.setPrev a b).prev c = h.prev c := by rw [prev_setPrev, if_neg hc]

end

end LinkHeap

/-! ## Programs on links -/

section

variable [DecidableEq α]

/-- Read a link; the process ends if there is no such node. -/
def loadNext (a : α) : Prog (LinkHeap α) α := fun h => (h.next a).map fun b => (b, h)
def loadPrev (a : α) : Prog (LinkHeap α) α := fun h => (h.prev a).map fun b => (b, h)

/-- Write a link; the process ends if there is no such node. -/
def storeNext (a b : α) : Prog (LinkHeap α) Unit := fun h => (h a).map fun _ => ((), h.setNext a b)
def storePrev (a b : α) : Prog (LinkHeap α) Unit := fun h => (h a).map fun _ => ((), h.setPrev a b)

variable {h : LinkHeap α} {a b : α}

omit [DecidableEq α] in
theorem loadNext_apply (hn : h.next a = some b) : loadNext a h = some (b, h) := by rw [loadNext, hn]; rfl

omit [DecidableEq α] in
theorem loadPrev_apply (hp : h.prev a = some b) : loadPrev a h = some (b, h) := by rw [loadPrev, hp]; rfl

theorem storeNext_apply (ha : (h a).isSome) : storeNext a b h = some ((), h.setNext a b) := by
  obtain ⟨l, hl⟩ := Option.isSome_iff_exists.1 ha
  rw [storeNext, hl]
  rfl

theorem storePrev_apply (ha : (h a).isSome) : storePrev a b h = some ((), h.setPrev a b) := by
  obtain ⟨l, hl⟩ := Option.isSome_iff_exists.1 ha
  rw [storePrev, hl]
  rfl

end

end Agm.Lib
