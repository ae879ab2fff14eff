import Agm.Lib.Rings
import Agm.Lib.Runs

/-!
# The lists of the service

`agm_list.h`: every pool of the service, of sessions, of back ends, of callbacks, of modules and of devices, is a circle of
nodes through a head.  The models of this development take such a pool to be a list of its items; this module says why they
may.  `Lists` are the lists a client of the header has in mind, with the nodes it has allocated, and every function of the
header does on the links what it is meant to do on the lists.
-/

namespace Agm.Service

open Agm.Lib LinkHeap

variable {α τ : Type} [DecidableEq α]

/-! ## The functions of the header -/

/-- `list_init`. -/
def listInit (node : α) : Prog (LinkHeap α) Unit := do
  storeNext node node
  storePrev node node

/-- `list_add_tail`. -/
def listAddTail (head item : α) : Prog (LinkHeap α) Unit := do
  storeNext item head
  let p ← loadPrev head
  storePrev item p
  let p ← loadPrev head
  storeNext p item
  storePrev head item

/-- `list_add_head`. -/
def listAddHead (head item : α) : Prog (LinkHeap α) Unit := do
  let n ← loadNext head
  storeNext item n
  storePrev item head
  let n ← loadNext head
  storePrev n item
  storeNext head item

/-- `list_remove`.  The links of the item itself stay as they are. -/
def listRemove (item : α) : Prog (LinkHeap α) Unit := do
  let n ← loadNext item
  let p ← loadPrev item
  storePrev n p
  let p ← loadPrev item
  let n ← loadNext item
  storeNext p n

/-- `list_empty`. -/
def listEmpty (list : α) : Prog (LinkHeap α) Bool := do
  let n ← loadNext list
  pure (list = n)

/-- `calloc` of the item a node is part of, with the links it happens to have. -/
def allocNode (a : α) (l : Links α) : Prog (LinkHeap α) Unit := modify fun h => Function.update h a (some l)

/-- `free` of the item a node is part of. -/
def freeNode (a : α) : Prog (LinkHeap α) Unit := fun h => (h a).map fun _ => ((), Function.update h a none)

/-! The walks: the body works on the links and on a state of its own.  `fuel` bounds the turns. -/

/-- Run a function of the header on the links. -/
def onLinks {β : Type} (m : Prog (LinkHeap α) β) : Prog (LinkHeap α × τ) β := zoom Prod.fst (fun h s => (h, s.2)) m

variable (body : α → Prog (LinkHeap α × τ) Unit)

/-- The loop of `list_for_each` and `list_for_each_reverse`, at `node`. -/
def walkFrom (step : α → Prog (LinkHeap α) α) (list : α) : Nat → α → Prog (LinkHeap α × τ) Unit
  | 0, _ => crash
  | fuel + 1, node =>
    if node = list then pure ()
    else do
      body node
      let node ← onLinks (step node)
      walkFrom step list fuel node

/-- `list_for_each`. -/
def listForEach (fuel : Nat) (list : α) : Prog (LinkHeap α × τ) Unit := do
  let node ← onLinks (loadNext list)
  walkFrom body loadNext list fuel node

/-- `list_for_each_reverse`. -/
def listForEachReverse (fuel : Nat) (list : α) : Prog (LinkHeap α × τ) Unit := do
  let node ← onLinks (loadPrev list)
  walkFrom body loadPrev list fuel node

/-- The loop of `list_for_each_safe`, at `node`; `n` is the next one. -/
def walkSafeFrom (list : α) : Nat → α → α → Prog (LinkHeap α × τ) Unit
  | 0, _, _ => crash
  | fuel + 1, node, n =>
    if node = list then pure ()
    else do
      body node
      let n' ← onLinks (loadNext n)
      walkSafeFrom list fuel n n'

/-- `list_for_each_safe`. -/
def listForEachSafe (fuel : Nat) (list : α) : Prog (LinkHeap α × τ) Unit := do
  let node ← onLinks (loadNext list)
  let n ← onLinks (loadNext node)
  walkSafeFrom body list fuel node n

/-! ## The lists of a client -/

/-- The heads of lists with what they hold, and the nodes that are allocated besides. -/
structure Lists (α : Type) where
  lists : α → Option (List α)
  nodes : α → Prop

/-- A node that is in no list. -/
structure Lists.Loose (σ : Lists α) (a : α) : Prop where
  node : σ.nodes a
  notMem : ∀ head xs, σ.lists head = some xs → a ∉ xs

/-- What a client does. -/
inductive ListOp (α : Type)
  | alloc (a : α) (l : Links α)
  | init (a : α)
  | addTail (head item : α)
  | addHead (head item : α)
  | remove (item : α)
  | free (a : α)

namespace ListOp

def run : ListOp α → Prog (LinkHeap α) Unit
  | alloc a l => allocNode a l
  | init a => listInit a
  | addTail head item => listAddTail head item
  | addHead head item => listAddHead head item
  | remove item => listRemove item
  | free a => freeNode a

/-- When a client may do it. -/
def Pre (σ : Lists α) : ListOp α → Prop
  | alloc a _ => σ.lists a = none ∧ ¬ σ.nodes a
  | init a => σ.Loose a
  | addTail head item | addHead head item => (σ.lists head).isSome ∧ σ.Loose item
  | remove item => ∃ head xs, σ.lists head = some xs ∧ item ∈ xs
  | free a => σ.Loose a ∨ σ.lists a = some []

/-- What it means for the lists. -/
def effect (σ : Lists α) : ListOp α → Lists α
  | alloc a _ => { σ with nodes := fun c => c = a ∨ σ.nodes c }
  | init a => ⟨fun c => if c = a then some [] else σ.lists c, fun c => c ≠ a ∧ σ.nodes c⟩
  | addTail head item => { σ with lists := fun c => if c = head then (σ.lists c).map (· ++ [item]) else σ.lists c }
  | addHead head item => { σ with lists := fun c => if c = head then (σ.lists c).map (item :: ·) else σ.lists c }
  | remove item => { σ with lists := fun c => (σ.lists c).map (·.erase item) }
  | free a => ⟨fun c => if c = a then none else σ.lists c, fun c => c ≠ a ∧ σ.nodes c⟩

end ListOp

/-- The links are those of the lists. -/
structure Lists.Rep (σ : Lists α) (h : LinkHeap α) : Prop where
  ring : ∀ head xs, σ.lists head = some xs → h.Ring head xs
  apart : ∀ head head' xs ys a, σ.lists head = some xs → σ.lists head' = some ys → a ∈ xs → a ∈ ys → head = head'
  node : ∀ head xs a, σ.lists head = some xs → a ∈ xs → σ.nodes a
  notHead : ∀ a, σ.nodes a → σ.lists a = none
  alloc : ∀ a, σ.nodes a → (h a).isSome


/-- The lists with another one for a head. -/
def Lists.set (σ : Lists α) (head : α) (xs : List α) : Lists α :=
  { σ with lists := fun c => if c = head then some xs else σ.lists c }

/-- One list is changed. -/
theorem Lists.change_eq_set {σ : Lists α} {head : α} {xs : List α} (f : List α → List α) (hx : σ.lists head = some xs) :
    { σ with lists := fun c => if c = head then (σ.lists c).map f else σ.lists c } = σ.set head (f xs) := by
  refine congrArg (Lists.mk · σ.nodes) (funext fun c => ?_)
  by_cases hc : c = head
  · rw [if_pos hc, if_pos hc, hc, hx, Option.map_some]
  · rw [if_neg hc, if_neg hc]

namespace ListOp

variable {σ : Lists α} {head item : α} {xs : List α}

theorem effect_addTail (hx : σ.lists head = some xs) : (addTail head item).effect σ = σ.set head (xs ++ [item]) :=
  Lists.change_eq_set (· ++ [item]) hx

theorem effect_addHead (hx : σ.lists head = some xs) : (addHead head item).effect σ = σ.set head (item :: xs) :=
  Lists.change_eq_set (item :: ·) hx

end ListOp

namespace Lists.Rep

variable {σ : Lists α} {h h' : LinkHeap α} {head head' item : α} {xs xs' ys : List α}

omit [DecidableEq α] in
theorem isSome (hr : σ.Rep h) (hx : σ.lists head = some xs) {c : α} (hc : c ∈ head :: xs) : (h c).isSome :=
  (hr.ring head xs hx).isSome_of_mem hc

omit [DecidableEq α] in
/-- A node outside the lists is in no circle. -/
theorem notMem_of_loose (hr : σ.Rep h) (hl : σ.Loose item) (hx : σ.lists head = some xs) : item ∉ head :: xs := by
  rintro hmem
  rcases List.mem_cons.1 hmem with rfl | hmem
  · rw [hr.notHead _ hl.node] at hx
    cases hx
  · exact hl.notMem head xs hx hmem

omit [DecidableEq α] in
/-- The circles have no node in common. -/
theorem disjoint (hr : σ.Rep h) (hx : σ.lists head = some xs) (hy : σ.lists head' = some ys) (hne : head' ≠ head) :
    (head' :: ys).Disjoint (head :: xs) := by
  intro c hcy hcx
  rcases List.mem_cons.1 hcy with rfl | hcy
  · rcases List.mem_cons.1 hcx with rfl | hcx
    · exact hne rfl
    · rw [hr.notHead _ (hr.node head xs _ hx hcx)] at hy
      cases hy
  · rcases List.mem_cons.1 hcx with rfl | hcx
    · rw [hr.notHead _ (hr.node head' ys _ hy hcy)] at hx
      cases hx
    · exact hne (hr.apart head' head ys xs c hy hx hcy hcx)

/-- A list is linked anew, with what was in it and nodes that were in none. -/
theorem relink (hr : σ.Rep h) (hx : σ.lists head = some xs) (hring : h'.Ring head xs')
    (hmem : ∀ c ∈ xs', c ∈ xs ∨ σ.Loose c) (hout : ∀ c, c ∉ head :: xs → ¬ σ.Loose c → h' c = h c)
    (hsome : ∀ c, (h' c).isSome = (h c).isSome) : (σ.set head xs').Rep h' where
  ring c ys hc := by
    simp only [Lists.set] at hc
    split at hc
    · next he =>
      obtain rfl := Option.some.inj hc
      rwa [he]
    · next he =>
      refine (hr.ring c ys hc).congr fun d hd => hout d ?_ fun hl => hr.notMem_of_loose hl hc hd
      exact fun hd' => hr.disjoint hx hc he hd hd'
  apart c c' ys zs a hc hc' ha ha' := by
    simp only [Lists.set] at hc hc'
    split at hc <;> split at hc'
    · next he he' => rw [he, he']
    · next he he' =>
      obtain rfl := Option.some.inj hc
      rcases hmem a ha with ha | hl
      · rw [he]
        exact hr.apart head c' xs zs a hx hc' ha ha'
      · exact absurd ha' (hl.notMem c' zs hc')
    · next he he' =>
      obtain rfl := Option.some.inj hc'
      rcases hmem a ha' with ha' | hl
      · rw [he']
        exact hr.apart c head ys xs a hc hx ha ha'
      · exact absurd ha (hl.notMem c ys hc)
    · exact hr.apart c c' ys zs a hc hc' ha ha'
  node c ys a hc ha := by
    simp only [Lists.set] at hc
    split at hc
    · obtain rfl := Option.some.inj hc
      exact (hmem a ha).elim (hr.node head xs a hx) Lists.Loose.node
    · exact hr.node c ys a hc ha
  notHead a ha := by
    refine (if_neg ?_).trans (hr.notHead a ha)
    rintro rfl
    rw [hr.notHead _ ha] at hx
    cases hx
  alloc a ha := by
    rw [hsome]
    exact hr.alloc a ha

theorem addTail (hr : σ.Rep h) (hx : σ.lists head = some xs) (hl : σ.Loose item) :
    ∃ h', listAddTail head item h = some ((), h') ∧ (σ.set head (xs ++ [item])).Rep h' := by
  have hi := hr.notMem_of_loose hl hx
  have hne : head ≠ item := fun he => hi (he ▸ List.mem_cons_self)
  have hp := lastOr_mem head xs
  have hpi : item ≠ lastOr head xs := fun he => hi (he ▸ hp)
  have hj := (hr.ring head xs hx).seg.joined_last
  have hitem := hr.alloc item hl.node
  have hhead := hr.isSome hx List.mem_cons_self
  have hlast := hr.isSome hx hp
  refine ⟨(((h.setNext item head).setPrev item (lastOr head xs)).setNext (lastOr head xs) item).setPrev head item,
    ?_, ?_⟩
  · rw [listAddTail, bind_apply (storeNext_apply hitem), bind_apply (loadPrev_apply (by rw [prev_setNext, hj.prev])),
      bind_apply (storePrev_apply (by rwa [isSome_setNext])),
      bind_apply (loadPrev_apply (by rw [prev_setPrev_of_ne hne, prev_setNext, hj.prev])),
      bind_apply (storeNext_apply (by rwa [isSome_setPrev, isSome_setNext])),
      storePrev_apply (by rwa [isSome_setNext, isSome_setPrev, isSome_setNext])]
  · refine hr.relink hx ((hr.ring head xs hx).addTail hi (fun c hc hcp => ?_) (fun c hc => ?_) ⟨?_, ?_⟩ ⟨?_, ?_⟩)
      (fun c hc => ?_) (fun c hc hcl => ?_) fun c => by simp only [isSome_setNext, isSome_setPrev]
    · have hci : c ≠ item := fun he => hi (he ▸ hc)
      rw [next_setPrev, next_setNext_of_ne hcp, next_setPrev, next_setNext_of_ne hci]
    · have hci : c ≠ item := fun he => hi (List.mem_cons_of_mem head (he ▸ hc))
      have hch : c ≠ head := fun he => (List.nodup_cons.1 (hr.ring head xs hx).nodup).1 (he ▸ hc)
      rw [prev_setPrev_of_ne hch, prev_setNext, prev_setPrev_of_ne hci, prev_setNext]
    · rw [next_setPrev, next_setNext_self (by rwa [isSome_setPrev, isSome_setNext])]
    · rw [prev_setPrev_of_ne hne.symm, prev_setNext, prev_setPrev_self (by rwa [isSome_setNext])]
    · rw [next_setPrev, next_setNext_of_ne hpi, next_setPrev, next_setNext_self hitem]
    · rw [prev_setPrev_self (by rwa [isSome_setNext, isSome_setPrev, isSome_setNext])]
    · refine (List.mem_append.1 hc).imp_right fun he => ?_
      rwa [List.mem_singleton.1 he]
    · have hci : c ≠ item := fun he => hcl (he ▸ hl)
      have hch : c ≠ head := fun he => hc (he ▸ List.mem_cons_self)
      have hcp : c ≠ lastOr head xs := fun he => hc (he ▸ hp)
      rw [setPrev_of_ne hch, setNext_of_ne hcp, setPrev_of_ne hci, setNext_of_ne hci]

theorem addHead (hr : σ.Rep h) (hx : σ.lists head = some xs) (hl : σ.Loose item) :
    ∃ h', listAddHead head item h = some ((), h') ∧ (σ.set head (item :: xs)).Rep h' := by
  have hi := hr.notMem_of_loose hl hx
  have hne : head ≠ item := fun he => hi (he ▸ List.mem_cons_self)
  have hn : firstOr head xs ∈ head :: xs :=
    (List.perm_append_singleton head xs).mem_iff.1 (firstOr_mem head xs)
  have hni : item ≠ firstOr head xs := fun he => hi (he ▸ hn)
  have hj := (hr.ring head xs hx).seg.joined_first
  have hitem := hr.alloc item hl.node
  have hhead := hr.isSome hx List.mem_cons_self
  have hfirst := hr.isSome hx hn
  refine ⟨(((h.setNext item (firstOr head xs)).setPrev item head).setPrev (firstOr head xs) item).setNext head item,
    ?_, ?_⟩
  · rw [listAddHead, bind_apply (loadNext_apply hj.next), bind_apply (storeNext_apply hitem),
      bind_apply (storePrev_apply (by rwa [isSome_setNext])),
      bind_apply (loadNext_apply (by rw [next_setPrev, next_setNext_of_ne hne, hj.next])),
      bind_apply (storePrev_apply (by rwa [isSome_setPrev, isSome_setNext])),
      storeNext_apply (by rwa [isSome_setPrev, isSome_setPrev, isSome_setNext])]
  · refine hr.relink hx ((hr.ring head xs hx).addHead hi (fun c hc => ?_) (fun c hc hcn => ?_) ⟨?_, ?_⟩ ⟨?_, ?_⟩)
      (fun c hc => ?_) (fun c hc hcl => ?_) fun c => by simp only [isSome_setNext, isSome_setPrev]
    · have hci : c ≠ item := fun he => hi (List.mem_cons_of_mem head (he ▸ hc))
      have hch : c ≠ head := fun he => (List.nodup_cons.1 (hr.ring head xs hx).nodup).1 (he ▸ hc)
      rw [next_setNext_of_ne hch, next_setPrev, next_setPrev, next_setNext_of_ne hci]
    · have hci : c ≠ item := fun he => hi (he ▸ hc)
      rw [prev_setNext, prev_setPrev_of_ne hcn, prev_setPrev_of_ne hci, prev_setNext]
    · rw [next_setNext_of_ne hne.symm, next_setPrev, next_setPrev, next_setNext_self hitem]
    · rw [prev_setNext, prev_setPrev_self (by rwa [isSome_setPrev, isSome_setNext])]
    · rw [next_setNext_self (by rwa [isSome_setPrev, isSome_setPrev, isSome_setNext])]
    · rw [prev_setNext, prev_setPrev_of_ne hni, prev_setPrev_self (by rwa [isSome_setNext])]
    · refine (List.mem_cons.1 hc).symm.imp_right fun he => ?_
      rwa [he]
    · have hci : c ≠ item := fun he => hcl (he ▸ hl)
      have hch : c ≠ head := fun he => hc (he ▸ List.mem_cons_self)
      have hcn : c ≠ firstOr head xs := fun he => hc (he ▸ hn)
      rw [setNext_of_ne hch, setPrev_of_ne hcn, setPrev_of_ne hci, setNext_of_ne hci]

/-- A node that is taken out stays allocated, as do all others. -/
theorem remove (hr : σ.Rep h) (hx : σ.lists head = some (xs ++ item :: ys)) :
    ∃ h', listRemove item h = some ((), h') ∧ (σ.set head (xs ++ ys)).Rep h' ∧ ∀ c, (h' c).isSome = (h c).isSome := by
  have hring := hr.ring head _ hx
  obtain ⟨hleft, hright⟩ := seg_append.1 hring.seg
  have hn : firstOr head ys ∈ head :: (xs ++ item :: ys) := by
    rcases List.mem_append.1 (firstOr_mem head ys) with hc | hc
    · exact List.mem_cons_of_mem head (List.mem_append_right xs (List.mem_cons_of_mem item hc))
    · rw [List.mem_singleton.1 hc]
      exact List.mem_cons_self
  have hp : lastOr head xs ∈ head :: (xs ++ item :: ys) := by
    rcases List.mem_cons.1 (lastOr_mem head xs) with hc | hc
    · rw [hc]
      exact List.mem_cons_self
    · exact List.mem_cons_of_mem head (List.mem_append_left _ hc)
  have hni : item ≠ firstOr head ys := by
    have hd : (item :: ys ++ [head]).Nodup := hring.nodup_append.sublist
      (((List.sublist_append_right xs (item :: ys))).append_right [head])
    exact fun he => (List.nodup_cons.1 hd).1 (he ▸ firstOr_mem head ys)
  have hnext := hright.joined_first.next
  have hprev := hleft.joined_last.prev
  have hfirst := hr.isSome hx hn
  have hlast := hr.isSome hx hp
  refine ⟨(h.setPrev (firstOr head ys) (lastOr head xs)).setNext (lastOr head xs) (firstOr head ys), ?_, ?_,
    fun c => by simp only [isSome_setNext, isSome_setPrev]⟩
  · rw [listRemove, bind_apply (loadNext_apply hnext), bind_apply (loadPrev_apply hprev),
      bind_apply (storePrev_apply hfirst),
      bind_apply (loadPrev_apply (by rw [prev_setPrev_of_ne hni, hprev])),
      bind_apply (loadNext_apply (by rw [next_setPrev, hnext])), storeNext_apply (by rwa [isSome_setPrev])]
  · refine hr.relink hx (hring.remove (fun c _ hcp => ?_) (fun c _ hcn => ?_) ⟨?_, ?_⟩) (fun c hc => .inl ?_)
      (fun c hc _ => ?_) fun c => by simp only [isSome_setNext, isSome_setPrev]
    · rw [next_setNext_of_ne hcp, next_setPrev]
    · rw [prev_setNext, prev_setPrev_of_ne hcn]
    · rw [next_setNext_self (by rwa [isSome_setPrev])]
    · rw [prev_setNext, prev_setPrev_self hfirst]
    · exact ((List.sublist_cons_self item ys).append_left xs).subset hc
    · have hcn : c ≠ firstOr head ys := fun he => hc (he ▸ hn)
      have hcp : c ≠ lastOr head xs := fun he => hc (he ▸ hp)
      rw [setNext_of_ne hcp, setPrev_of_ne hcn]

/-- A place that is in no list may change, and may become a node or the head of an empty list. -/
theorem outside (hr : σ.Rep h) {a : α} (ha : ∀ head xs, σ.lists head = some xs → a ∉ xs) {σ' : Lists α}
    (hout : ∀ c, c ≠ a → h' c = h c ∧ σ'.lists c = σ.lists c ∧ (σ'.nodes c ↔ σ.nodes c))
    (hring : ∀ xs, σ'.lists a = some xs → xs = [] ∧ h'.Ring a [])
    (hnode : σ'.nodes a → σ'.lists a = none ∧ (h' a).isSome) : σ'.Rep h' := by
  have hne {head : α} {xs : List α} (hx : σ'.lists head = some xs) {c : α} (hc : c ∈ xs) :
      head ≠ a ∧ σ.lists head = some xs := by
    by_cases he : head = a
    · rw [(hring xs (he ▸ hx)).1] at hc
      exact absurd hc List.not_mem_nil
    · exact ⟨he, (hout head he).2.1 ▸ hx⟩
  refine ⟨fun head xs hx => ?_, fun head head' xs ys c hx hy hcx hcy => ?_, fun head xs c hx hc => ?_, fun c hc => ?_,
    fun c hc => ?_⟩
  · by_cases he : head = a
    · obtain ⟨hnil, hring⟩ := hring xs (he ▸ hx)
      rwa [hnil, he]
    · rw [(hout head he).2.1] at hx
      refine (hr.ring head xs hx).congr fun c hc => (hout c ?_).1
      rintro rfl
      exact (List.mem_cons.1 hc).elim (he ·.symm) (ha head xs hx)
  · exact hr.apart head head' xs ys c (hne hx hcx).2 (hne hy hcy).2 hcx hcy
  · obtain ⟨-, hx⟩ := hne hx hc
    exact ((hout c fun hca => ha head xs hx (hca ▸ hc)).2.2).2 (hr.node head xs c hx hc)
  · by_cases he : c = a
    · rw [he] at hc ⊢
      exact (hnode hc).1
    · rw [(hout c he).2.1]
      exact hr.notHead c ((hout c he).2.2.1 hc)
  · by_cases he : c = a
    · rw [he] at hc ⊢
      exact (hnode hc).2
    · rw [(hout c he).1]
      exact hr.alloc c ((hout c he).2.2.1 hc)

theorem allocNode (hr : σ.Rep h) {a : α} {l : Links α} (hp : (ListOp.alloc a l).Pre σ) :
    ∃ h', allocNode a l h = some ((), h') ∧ ((ListOp.alloc a l).effect σ).Rep h' := by
  refine ⟨Function.update h a (some l), rfl, hr.outside (a := a)
    (fun head xs hx hmem => hp.2 (hr.node head xs a hx hmem)) (fun c hc => ?_) (fun xs hx => ?_) fun _ => ⟨hp.1, ?_⟩⟩
  · exact ⟨Function.update_of_ne hc (some l) h, rfl, or_iff_right hc⟩
  · exact absurd (hp.1.symm.trans hx) (Option.some_ne_none xs).symm
  · rw [Function.update_self]
    rfl

theorem init (hr : σ.Rep h) {a : α} (hl : σ.Loose a) :
    ∃ h', listInit a h = some ((), h') ∧ ((ListOp.init a).effect σ).Rep h' := by
  have ha := hr.alloc a hl.node
  refine ⟨(h.setNext a a).setPrev a a, ?_, hr.outside (a := a) hl.notMem (fun c hc => ⟨?_, if_neg hc, and_iff_right hc⟩)
    (fun xs hx => ?_) fun hn => absurd rfl hn.1⟩
  · rw [listInit, bind_apply (storeNext_apply ha), storePrev_apply (by rwa [isSome_setNext])]
  · rw [setPrev_of_ne hc, setNext_of_ne hc]
  · refine ⟨(Option.some.inj ((if_pos rfl).symm.trans hx)).symm, List.nodup_singleton a, ?_, ?_⟩
    · rw [next_setPrev, next_setNext_self ha]
    · rw [prev_setPrev_self (by rwa [isSome_setNext])]

theorem freeNode (hr : σ.Rep h) {a : α} (hp : (ListOp.free a).Pre σ) :
    ∃ h', freeNode a h = some ((), h') ∧ ((ListOp.free a).effect σ).Rep h' := by
  have ha : (h a).isSome := hp.elim (fun hl => hr.alloc a hl.node) fun hx => hr.isSome hx List.mem_cons_self
  obtain ⟨l, hl⟩ := Option.isSome_iff_exists.1 ha
  refine ⟨Function.update h a none, ?_, hr.outside (a := a) (fun head xs hx hmem => ?_)
    (fun c hc => ⟨Function.update_of_ne hc none h, if_neg hc, and_iff_right hc⟩) (fun xs hx => ?_)
    fun hn => absurd rfl hn.1⟩
  · rw [Service.freeNode, hl]
    rfl
  · rcases hp with hl | ha
    · exact hl.notMem head xs hx hmem
    · exact Option.some_ne_none [] (ha.symm.trans (hr.notHead a (hr.node head xs a hx hmem)))
  · exact absurd ((if_pos rfl).symm.trans hx) (Option.some_ne_none xs).symm

/-- What taking a node out means for the lists: it is in one of them only. -/
theorem effect_remove (hr : σ.Rep h) (hx : σ.lists head = some (xs ++ item :: ys)) :
    (ListOp.remove item).effect σ = σ.set head (xs ++ ys) := by
  have hmem : item ∈ xs ++ item :: ys := List.mem_append_right xs List.mem_cons_self
  have hxs : item ∉ xs := fun hi => by
    have hd := (List.nodup_cons.1 (hr.ring head _ hx).nodup).2
    exact (List.disjoint_of_nodup_append hd) hi List.mem_cons_self
  refine congrArg (Lists.mk · σ.nodes) (funext fun c => ?_)
  by_cases hc : c = head
  · rw [if_pos hc, hc, hx, Option.map_some, List.erase_append_right _ hxs, List.erase_cons_head]
  · rw [if_neg hc]
    cases hy : σ.lists c with
    | none => rfl
    | some zs =>
      rw [Option.map_some, List.erase_of_not_mem fun hi => hc (hr.apart c head zs _ item hy hx hi hmem)]

/-- **What an allowed operation does to the links is what it means for the lists.** -/
theorem run (hr : σ.Rep h) {op : ListOp α} (hp : op.Pre σ) : ∃ h', op.run h = some ((), h') ∧ (op.effect σ).Rep h' := by
  cases op with
  | alloc a l => exact hr.allocNode hp
  | init a => exact hr.init hp
  | addTail head item =>
    obtain ⟨hs, hl⟩ := hp
    obtain ⟨xs, hx⟩ := Option.isSome_iff_exists.1 hs
    rw [ListOp.effect_addTail hx]
    exact hr.addTail hx hl
  | addHead head item =>
    obtain ⟨hs, hl⟩ := hp
    obtain ⟨xs, hx⟩ := Option.isSome_iff_exists.1 hs
    rw [ListOp.effect_addHead hx]
    exact hr.addHead hx hl
  | remove item =>
    obtain ⟨head, zs, hx, hi⟩ := hp
    obtain ⟨xs, ys, rfl⟩ := List.append_of_mem hi
    rw [hr.effect_remove hx]
    obtain ⟨h', hrun, hr', -⟩ := hr.remove hx
    exact ⟨h', hrun, hr'⟩
  | free a => exact hr.freeNode hp

end Lists.Rep

/-! ## The walks -/


/-- Run what the body does besides the links. -/
def onOwn (f : Prog τ Unit) : Prog (LinkHeap α × τ) Unit := zoom Prod.snd (fun t s => (s.1, t)) f

section

variable {h : LinkHeap α} {list a : α} {xs : List α} {fuel : Nat}

omit [DecidableEq α] in
theorem onOwn_none {f : Prog τ Unit} {s : τ} (hf : f s = none) : onOwn f (h, s) = none := by rw [onOwn, zoom, hf]; rfl

omit [DecidableEq α] in
theorem onOwn_some {f : Prog τ Unit} {s : τ} {p : Unit × τ} (hf : f s = some p) :
    onOwn f (h, s) = some ((), (h, p.2)) := by
  rw [onOwn, zoom, hf]
  rfl

omit [DecidableEq α] in
theorem onLinks_some {β : Type} {m : Prog (LinkHeap α) β} {s : τ} {b : β} {h' : LinkHeap α} (hm : m h = some (b, h')) :
    onLinks m (h, s) = some (b, (h', s)) := by
  rw [onLinks, zoom, hm]
  rfl

omit [DecidableEq α] in
theorem onLinks_none {β : Type} {m : Prog (LinkHeap α) β} {s : τ} (hm : m h = none) : onLinks m (h, s) = none := by
  rw [onLinks, zoom, hm]
  rfl

/-- A walk along links that lead through `xs` is a walk over `xs`. -/
theorem walkFrom_of_leads {step : α → Prog (LinkHeap α) α} {next : α → Option α}
    (hstep : ∀ a b, next a = some b → step a h = some (b, h)) (f : α → Prog τ Unit) (hl : Leads next a xs list)
    (hm : list ∉ xs) (hf : xs.length < fuel) (s : τ) :
    (onLinks (step a) >>= walkFrom (fun a => onOwn (f a)) step list fuel) (h, s) =
      ((xs.forM f) s).map fun p => ((), h, p.2) := by
  induction xs generalizing a fuel s with
  | nil =>
    obtain ⟨fuel, rfl⟩ := Nat.exists_eq_add_of_lt hf
    rw [bind_apply (onLinks_some (hstep a list hl)), walkFrom, if_pos rfl]
    rfl
  | cons x xs ih =>
    obtain ⟨fuel, rfl⟩ := Nat.exists_eq_add_of_lt hf
    have hx : x ≠ list := fun he => hm (he ▸ List.mem_cons_self)
    rw [bind_apply (onLinks_some (hstep a x hl.1)), walkFrom, if_neg hx]
    show (onOwn (f x) >>= _) (h, s) = ((f x >>= fun _ => xs.forM f) s).map _
    cases hfx : f x s with
    | none => rw [bind_apply_none (onOwn_none hfx), bind_apply_none hfx, Option.map_none]
    | some p =>
      rw [bind_apply (onOwn_some hfx), bind_apply hfx]
      exact ih hl.2 (fun hi => hm (List.mem_cons_of_mem x hi)) (by rw [List.length_cons]; omega) p.2

variable {σ : Lists α} (hr : σ.Rep h) (hx : σ.lists list = some xs)

include hr hx

/-- `list_for_each` is a walk over what is in the list. -/
theorem listForEach_eq (f : α → Prog τ Unit) (hf : xs.length < fuel) (s : τ) :
    listForEach (fun a => onOwn (f a)) fuel list (h, s) = ((xs.forM f) s).map fun p => ((), h, p.2) :=
  walkFrom_of_leads (fun _ _ => loadNext_apply) f (hr.ring list xs hx).seg.leads_next
    (List.nodup_cons.1 (hr.ring list xs hx).nodup).1 hf s

/-- `list_for_each_reverse` is one from behind. -/
theorem listForEachReverse_eq (f : α → Prog τ Unit) (hf : xs.length < fuel) (s : τ) :
    listForEachReverse (fun a => onOwn (f a)) fuel list (h, s) = ((xs.reverse.forM f) s).map fun p => ((), h, p.2) :=
  walkFrom_of_leads (fun _ _ => loadPrev_apply) f (hr.ring list xs hx).seg.leads_prev
    (fun hm => (List.nodup_cons.1 (hr.ring list xs hx).nodup).1 (List.mem_reverse.1 hm))
    (by rwa [List.length_reverse]) s

theorem listEmpty_eq : listEmpty list h = some (decide (xs = []), h) := by
  have hj := (hr.ring list xs hx).seg.joined_first
  rw [listEmpty, bind_apply (loadNext_apply hj.next)]
  refine congrArg (fun b => some (b, h)) (decide_eq_decide.2 ?_)
  cases xs with
  | nil => exact iff_of_true rfl rfl
  | cons x xs =>
    refine iff_of_false (fun he => ?_) (List.cons_ne_nil x xs)
    exact (List.nodup_cons.1 (hr.ring list _ hx).nodup).1 (he ▸ List.mem_cons_self)

end

/-! ## Runs of a client -/

/-- A client does one thing, to the links and to the lists it has in mind. -/
def execLists (op : ListOp α) (s : Lists α × LinkHeap α) : Option (Unit × (Lists α × LinkHeap α)) :=
  (op.run s.2).map fun p => ((), (op.effect s.1, p.2))

def mayDo (s : Lists α × LinkHeap α) (op : ListOp α) : Prop := op.Pre s.1

/-- **The links are the lists.**  However the header is used, the process survives it, and the links are those of the
lists at the end: a walk visits what is in the list, in its order or the reverse one, and an empty list is known for
one. -/
theorem agm_list_refines {σ₀ : Lists α} {h₀ : LinkHeap α} (hr : σ₀.Rep h₀) {s : Lists α × LinkHeap α}
    (h : Runs execLists mayDo (σ₀, h₀) s) :
    (∀ op, mayDo s op → (execLists op s).isSome) ∧
    ∀ list xs, s.1.lists list = some xs →
      (∀ (τ : Type) (f : α → Prog τ Unit) (fuel : Nat) (t : τ), xs.length < fuel →
        listForEach (fun a => onOwn (f a)) fuel list (s.2, t) = ((xs.forM f) t).map (fun p => ((), s.2, p.2)) ∧
        listForEachReverse (fun a => onOwn (f a)) fuel list (s.2, t) =
          ((xs.reverse.forM f) t).map fun p => ((), s.2, p.2)) ∧
      listEmpty list s.2 = some (decide (xs = []), s.2) := by
  have hrep : s.1.Rep s.2 := h.invariant (I := fun s => s.1.Rep s.2) hr fun s op _ t hs hp he => by
    obtain ⟨h', hrun, hs'⟩ := hs.run hp
    rw [execLists, hrun] at he
    cases he
    exact hs'
  refine ⟨fun op hp => ?_, fun list xs hx => ⟨fun τ f fuel t hf => ⟨?_, ?_⟩, listEmpty_eq hrep hx⟩⟩
  · obtain ⟨h', hrun, -⟩ := hrep.run hp
    rw [execLists, hrun]
    rfl
  · exact listForEach_eq hrep hx f hf t
  · exact listForEachReverse_eq hrep hx f hf t

theorem Lists.Rep.step {σ : Lists α} {h : LinkHeap α} {s₀ : Lists α × LinkHeap α} (hr : σ.Rep h)
    (op : ListOp α) (hp : op.Pre σ) (hs : Runs execLists mayDo s₀ (σ, h)) :
    ∃ h', Runs execLists mayDo s₀ (op.effect σ, h') ∧ (op.effect σ).Rep h' := by
  obtain ⟨h', hrun, hr'⟩ := hr.run hp
  refine ⟨h', hs.tail (o := op) (r := ()) hp ?_, hr'⟩
  rw [execLists, hrun]
  rfl

/-- Nothing is allocated. -/
def Lists.none : Lists α := ⟨fun _ => Option.none, fun _ => False⟩

omit [DecidableEq α] in
theorem Lists.rep_none : (Lists.none : Lists α).Rep fun _ => Option.none :=
  ⟨fun _ _ he => absurd he.symm (Option.some_ne_none _), fun _ _ _ _ _ he => absurd he.symm (Option.some_ne_none _),
    fun _ _ _ he => absurd he.symm (Option.some_ne_none _), fun _ => False.elim, fun _ => False.elim⟩

/-- A node at the tail of a list, another one at its head. -/
theorem lists_two : ∃ s : Lists Nat × LinkHeap Nat, Runs execLists mayDo (Lists.none, fun _ => none) s ∧ s.1.Rep s.2 ∧
    s.1.lists 0 = some [2, 1] := by
  have hempty {σ : Lists Nat} {a : Nat} {xs : List Nat} (hl : ∀ c, c ≠ 0 → σ.lists c = none)
      (h0 : σ.lists 0 = some xs) (ha : a ∉ xs) : ∀ head ys, σ.lists head = some ys → a ∉ ys := by
    intro head ys hy
    by_cases he : head = 0
    · rw [he, h0] at hy
      exact Option.some.inj hy ▸ ha
    · exact absurd ((hl head he).symm.trans hy).symm (Option.some_ne_none ys)
  obtain ⟨h₁, s₁, r₁⟩ := Lists.rep_none.step (.alloc 0 ⟨0, 0⟩) ⟨rfl, id⟩ (.refl (Lists.none, fun _ => none))
  obtain ⟨h₂, s₂, r₂⟩ := r₁.step (.init 0)
    ⟨.inl rfl, fun _ _ he => absurd he.symm (Option.some_ne_none _)⟩ s₁
  obtain ⟨h₃, s₃, r₃⟩ := r₂.step (.alloc 1 ⟨0, 0⟩) ⟨rfl, fun hn => hn.2.elim Nat.one_ne_zero id⟩ s₂
  obtain ⟨h₄, s₄, r₄⟩ := r₃.step (.addTail 0 1)
    ⟨rfl, .inl rfl, hempty (fun c hc => if_neg hc) rfl List.not_mem_nil⟩ s₃
  obtain ⟨h₅, s₅, r₅⟩ := r₄.step (.alloc 2 ⟨0, 0⟩)
    ⟨rfl, fun hn => hn.elim (by decide) fun hn => hn.2.elim (by decide) id⟩ s₄
  obtain ⟨h₆, s₆, r₆⟩ := r₅.step (.addHead 0 2)
    ⟨rfl, .inl rfl, hempty (fun c hc => (if_neg hc).trans (if_neg hc)) rfl (by decide)⟩ s₅
  exact ⟨_, s₆, r₆, rfl⟩

theorem agm_list_refines_two : ∃ s : Lists Nat × LinkHeap Nat,
    Runs execLists mayDo (Lists.none, fun _ => none) s ∧ s.1.lists 0 = some [2, 1] ∧
      listForEach (fun a => onOwn (modify (· ++ [a]))) 3 0 (s.2, []) = some ((), s.2, [2, 1]) := by
  obtain ⟨s, h, -, hx⟩ := lists_two
  have hwalk := ((agm_list_refines Lists.rep_none h).2 0 [2, 1] hx).1 (List Nat) (fun a => modify (· ++ [a])) 3 []
    (by decide)
  exact ⟨s, h, hx, hwalk.1⟩

/-! ## Freeing a pool -/

/-- The body of the walks of `aif_pool_free` and `session_cb_pool_free`: the node is taken out, then its item is freed with
what belongs to it (`free`). -/
def freeItem (free : α → Prog τ Unit) (a : α) : Prog (LinkHeap α × τ) Unit := do
  onLinks (listRemove a)
  onOwn (free a)
  onLinks (freeNode a)

/-- `aif_pool_free` and `session_cb_pool_free`. -/
def poolFree (free : α → Prog τ Unit) (fuel : Nat) (pool : α) : Prog (LinkHeap α × τ) Unit :=
  listForEachSafe (freeItem free) fuel pool

/-- The lists of a client who has freed what was in a pool. -/
def Lists.freed (σ : Lists α) (pool : α) (xs : List α) : Lists α :=
  ⟨fun c => if c = pool then some [] else σ.lists c, fun c => c ∉ xs ∧ σ.nodes c⟩

section

variable {σ : Lists α} {h h' : LinkHeap α} {pool x : α} {xs : List α}

theorem eq_update_of_freeNode (hf : freeNode x h = some ((), h')) : h' = Function.update h x none := by
  obtain ⟨l, -, he⟩ := Option.map_eq_some_iff.1 hf
  exact (Prod.mk.inj he).2.symm

/-- The first node of a pool is taken out and freed; what is not allocated stays so. -/
theorem freeItem_first (hr : σ.Rep h) (hx : σ.lists pool = some (x :: xs)) (free : α → Prog τ Unit) :
    ∃ h', ((ListOp.free x).effect (σ.set pool xs)).Rep h' ∧ h' x = none ∧ (∀ c, h c = none → h' c = none) ∧
      ∀ t, freeItem free x (h, t) = (free x t).map fun p => ((), (h', p.2)) := by
  have hnodup := List.nodup_cons.1 (List.nodup_cons.1 (hr.ring pool _ hx).nodup).2
  have hx' : σ.lists pool = some ([] ++ x :: xs) := hx
  obtain ⟨h₁, hremove, hr₁, hsome⟩ := hr.remove hx'
  have hloose : (σ.set pool xs).Loose x := by
    refine ⟨hr.node pool _ x hx List.mem_cons_self, fun head ys hy hi => ?_⟩
    simp only [Lists.set] at hy
    split at hy
    · exact hnodup.1 (Option.some.inj hy ▸ hi)
    · next hne => exact hne (hr.apart head pool ys _ x hy hx hi List.mem_cons_self)
  obtain ⟨h₂, hfree, hr₂⟩ := hr₁.freeNode (.inl hloose)
  have hgone : h₂ x = none := by rw [eq_update_of_freeNode hfree, Function.update_self]
  refine ⟨h₂, hr₂, hgone, fun c hc => ?_, fun t => ?_⟩
  · by_cases hcx : c = x
    · rw [hcx, hgone]
    · rw [eq_update_of_freeNode hfree, Function.update_of_ne hcx, ← Option.not_isSome_iff_eq_none, hsome, hc]
      exact Bool.false_ne_true
  · rw [freeItem, bind_apply (onLinks_some hremove)]
    cases hf : free x t with
    | none => rw [bind_apply_none (onOwn_none hf), Option.map_none]
    | some p => rw [bind_apply (onOwn_some hf), onLinks_some hfree, Option.map_some]

theorem freed_cons (hr : σ.Rep h) (hx : σ.lists pool = some (x :: xs)) :
    ((ListOp.free x).effect (σ.set pool xs)).freed pool xs = σ.freed pool (x :: xs) := by
  have hnone := hr.notHead x (hr.node pool _ x hx List.mem_cons_self)
  refine congrArg₂ Lists.mk (funext fun c => ?_) (funext fun c => propext ?_)
  · by_cases hc : c = pool
    · rw [if_pos hc, if_pos hc]
    · rw [if_neg hc, if_neg hc]
      show (if c = x then none else if c = pool then some xs else σ.lists c) = σ.lists c
      rw [if_neg hc]
      split
      · next he => rw [he, hnone]
      · rfl
  · show c ∉ xs ∧ c ≠ x ∧ σ.nodes c ↔ c ∉ x :: xs ∧ σ.nodes c
    rw [List.mem_cons, not_or, ← and_assoc, and_comm (a := c ∉ xs)]

omit [DecidableEq α] in
theorem next_firstOr (hr : h.Ring pool xs) : h.next (firstOr pool xs) = some (firstOr pool xs.tail) := by
  cases xs with
  | nil => exact hr.seg.joined_first.next
  | cons x xs => exact hr.seg.2.joined_first.next

/-- The loop of `list_for_each_safe` over a pool that is freed on the way. -/
theorem walkSafeFrom_free (free : α → Prog τ Unit) {fuel : Nat} (hr : σ.Rep h) (hx : σ.lists pool = some xs)
    (hf : xs.length < fuel) (t : τ) :
    ∃ h', (σ.freed pool xs).Rep h' ∧ (∀ c, h c = none ∨ c ∈ xs → h' c = none) ∧
      walkSafeFrom (freeItem free) pool fuel (firstOr pool xs) (firstOr pool xs.tail) (h, t) =
        ((xs.forM free) t).map fun p => ((), h', p.2) := by
  induction xs generalizing σ h fuel t with
  | nil =>
    obtain ⟨fuel, rfl⟩ := Nat.exists_eq_add_of_lt hf
    have he : σ.freed pool [] = σ := by
      refine congrArg₂ Lists.mk (funext fun c => ?_) (funext fun c => propext (and_iff_right List.not_mem_nil))
      split
      · next hc => rw [hc, hx]
      · rfl
    refine ⟨h, by rwa [he], fun c hc => hc.resolve_right List.not_mem_nil, ?_⟩
    rw [walkSafeFrom]
    exact if_pos rfl ▸ rfl
  | cons x xs ih =>
    obtain ⟨fuel, rfl⟩ := Nat.exists_eq_add_of_lt hf
    have hne : x ≠ pool := fun he => (List.nodup_cons.1 (hr.ring pool _ hx).nodup).1 (he ▸ List.mem_cons_self)
    obtain ⟨h₁, hr₁, hgone, hkept, hbody⟩ := freeItem_first hr hx free
    have hfreed {h' : LinkHeap α} (hn : ∀ c, h₁ c = none ∨ c ∈ xs → h' c = none) (c : α)
        (hc : h c = none ∨ c ∈ x :: xs) : h' c = none := by
      rcases hc with hc | hc
      · exact hn c (.inl (hkept c hc))
      · rcases List.mem_cons.1 hc with rfl | hc
        · exact hn c (.inl hgone)
        · exact hn c (.inr hc)
    have hx₁ : ((ListOp.free x).effect (σ.set pool xs)).lists pool = some xs :=
      (if_neg hne.symm).trans (if_pos rfl)
    have hlt : xs.length < (x :: xs).length + fuel := by
      rw [List.length_cons]
      omega
    show ∃ h', _ ∧ _ ∧ walkSafeFrom (freeItem free) pool _ x (firstOr pool xs) (h, t) =
      ((free x >>= fun _ => xs.forM free) t).map _
    cases hfree : free x t with
    | none =>
      obtain ⟨h', hr', hn, -⟩ := ih hr₁ hx₁ hlt t
      have hcrash : freeItem free x (h, t) = none := by rw [hbody, hfree, Option.map_none]
      refine ⟨h', freed_cons hr hx ▸ hr', hfreed hn, ?_⟩
      rw [walkSafeFrom, if_neg hne, bind_apply_none hcrash, bind_apply_none hfree, Option.map_none]
    | some p =>
      obtain ⟨h', hr', hn, hwalk⟩ := ih hr₁ hx₁ hlt p.2
      have hturn : freeItem free x (h, t) = some ((), (h₁, p.2)) := by rw [hbody, hfree, Option.map_some]
      refine ⟨h', freed_cons hr hx ▸ hr', hfreed hn, ?_⟩
      rw [walkSafeFrom, if_neg hne, bind_apply hturn,
        bind_apply (onLinks_some (loadNext_apply (next_firstOr (hr₁.ring pool xs hx₁)))), bind_apply hfree]
      exact hwalk

/-- **Freeing a pool needs the safe walk.**  `list_for_each_safe` frees every item of the pool once, in order, and leaves
an empty pool, no node of it allocated and all other lists as they were; `list_for_each` with the same body reads the link of a node that was just
freed, unless there is nothing to free. -/
theorem pool_free_frees (hr : σ.Rep h) (hx : σ.lists pool = some xs) (free : α → Prog τ Unit) (t : τ) :
    (∀ fuel, xs.length < fuel → ∃ h', (σ.freed pool xs).Rep h' ∧ (∀ x ∈ xs, h' x = none) ∧
      poolFree free fuel pool (h, t) = ((xs.forM free) t).map fun p => ((), h', p.2)) ∧
    (xs ≠ [] → ∀ fuel, listForEach (freeItem free) fuel pool (h, t) = none) := by
  have hring := hr.ring pool xs hx
  refine ⟨fun fuel hf => ?_, fun hne fuel => ?_⟩
  · rw [poolFree, listForEachSafe, bind_apply (onLinks_some (loadNext_apply hring.seg.joined_first.next)),
      bind_apply (onLinks_some (loadNext_apply (next_firstOr hring)))]
    obtain ⟨h', hr', hn, hwalk⟩ := walkSafeFrom_free free hr hx hf t
    exact ⟨h', hr', fun x hi => hn x (.inr hi), hwalk⟩
  · obtain ⟨x, xs, rfl⟩ := List.exists_cons_of_ne_nil hne
    obtain ⟨h', -, hgone, -, hbody⟩ := freeItem_first hr hx free
    have hxp : x ≠ pool := fun he => (List.nodup_cons.1 hring.nodup).1 (he ▸ List.mem_cons_self)
    have hload : loadNext x h' = none := by rw [loadNext, LinkHeap.next, hgone]; rfl
    rw [listForEach, bind_apply (onLinks_some (loadNext_apply hring.seg.joined_first.next))]
    cases fuel with
    | zero => rfl
    | succ fuel =>
      show walkFrom (freeItem free) loadNext pool (fuel + 1) x (h, t) = none
      rw [walkFrom, if_neg hxp]
      cases hfree : free x t with
      | none =>
        have hcrash : freeItem free x (h, t) = none := by rw [hbody, hfree, Option.map_none]
        exact bind_apply_none hcrash
      | some p =>
        have hturn : freeItem free x (h, t) = some ((), (h', p.2)) := by rw [hbody, hfree, Option.map_some]
        rw [bind_apply hturn]
        exact bind_apply_none (onLinks_none hload)

end

/-- A pool with two items. -/
theorem pool_free_frees_two : ∃ s : Lists Nat × LinkHeap Nat,
    Runs execLists mayDo (Lists.none, fun _ => none) s ∧ s.1.lists 0 = some [2, 1] ∧
      (∃ h', (s.1.freed 0 [2, 1]).Rep h' ∧ (∀ x ∈ [2, 1], h' x = none) ∧
        poolFree (fun a => modify (· ++ [a])) 3 0 (s.2, []) = some ((), h', [2, 1])) ∧
      ∀ fuel, listForEach (freeItem fun a => modify (· ++ [a])) fuel 0 (s.2, []) = none := by
  obtain ⟨s, h, hr, hx⟩ := lists_two
  have hfree := pool_free_frees hr hx (fun a => modify (· ++ [a])) []
  exact ⟨s, h, hx, hfree.1 3 (by decide), hfree.2 (List.cons_ne_nil 2 [1])⟩

end Agm.Service
