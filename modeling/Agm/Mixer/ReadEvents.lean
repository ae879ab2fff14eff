import Agm.Mixer.Events

/-!
# Reading the notifications

A client reads the notifications of the mixer plugin into a buffer of its own.  `amp_read_event` goes over the buffer with a
pointer, and beside it counts down the size and up the result; all three should be in step.
-/

namespace Agm.Mixer

open Agm.Lib CString

/-! ## The loop -/

/-- The variables of `amp_read_event`, and what it has copied. -/
structure EventRead (α : Type) where
  /-- the bytes by which `ev` is ahead of the start of the buffer -/
  ev : Nat := 0
  size : Nat
  result : Nat := 0
  /-- the places in the buffer that were written to, in bytes, and the events -/
  copies : List (Nat × α) := []
  deriving DecidableEq, Repr

section

variable {α : Type} (sizeofCtlEvent : Nat)

/-- A turn of the loop.  `ev` points to events, so that `ev += sizeof(struct ctl_event)` goes on by as many of them. -/
def EventRead.copy (r : EventRead α) (e : α) : EventRead α where
  ev := r.ev + sizeofCtlEvent * sizeofCtlEvent
  size := r.size - sizeofCtlEvent
  result := r.result + sizeofCtlEvent
  copies := r.copies ++ [(r.ev, e)]

/-- The loop, which ends with the queue or with the room: what it has done, and the queue it leaves. -/
def readEventLoop : List α → EventRead α → EventRead α × List α
  | [], r => (r, [])
  | e :: queue, r => if sizeofCtlEvent ≤ r.size then readEventLoop queue (r.copy sizeofCtlEvent e) else (r, e :: queue)

end

/-- `amp_read_event`; the events differ in their names only. -/
def ampReadEvent (sizeofCtlEvent size : Nat) (a : AmpEvents) : EventRead CString × AmpEvents :=
  let p := readEventLoop sizeofCtlEvent a.eventsList { size }
  (p.1, { a with eventsList := p.2 })

/-! ## What it should do -/

/-- The events that there is room for. -/
def roomFor (sizeofCtlEvent size : Nat) (a : AmpEvents) : Nat := min a.eventsList.length (size / sizeofCtlEvent)

/-- As many events as there is room for are copied, in order and one behind the other, and these are the ones that leave the
queue. -/
structure ReadsEvents (sizeofCtlEvent size : Nat) (a : AmpEvents) (r : EventRead CString × AmpEvents) : Prop where
  copies : r.1.copies =
    (a.eventsList.take (roomFor sizeofCtlEvent size a)).zipIdx.map fun p => (p.2 * sizeofCtlEvent, p.1)
  result : r.1.result = roomFor sizeofCtlEvent size a * sizeofCtlEvent
  removed : r.2 = { a with eventsList := a.eventsList.drop (roomFor sizeofCtlEvent size a) }
  inside : ∀ c ∈ r.1.copies, c.1 + sizeofCtlEvent ≤ size

/-! ## What it does -/

/-- **The loop.**  Before the `k`-th event the pointer has gone on `k` times. -/
theorem readEventLoop_eq {α : Type} {S : Nat} (hS : 0 < S) (queue : List α) {k : Nat} {r : EventRead α}
    (hev : r.ev = k * (S * S)) :
    (readEventLoop S queue r).1.copies =
        r.copies ++ ((queue.take (min queue.length (r.size / S))).zipIdx k).map (fun p => (p.2 * (S * S), p.1)) ∧
      (readEventLoop S queue r).1.result = r.result + min queue.length (r.size / S) * S ∧
      (readEventLoop S queue r).2 = queue.drop (min queue.length (r.size / S)) := by
  induction queue generalizing k r with
  | nil => simp [readEventLoop]
  | cons e queue ih =>
    rw [readEventLoop]
    by_cases hroom : S ≤ r.size
    · have hdiv : r.size / S = (r.size - S) / S + 1 := Nat.div_eq_sub_div hS hroom
      have hev' : (r.copy S e).ev = (k + 1) * (S * S) := by
        rw [EventRead.copy, hev, Nat.succ_mul]
      obtain ⟨hcopies, hresult, hrest⟩ := ih hev'
      have hsize : (r.copy S e).size = r.size - S := rfl
      rw [hsize] at hcopies hresult hrest
      rw [if_pos hroom, hcopies, hresult, hrest, hdiv, List.length_cons, Nat.succ_min_succ]
      refine ⟨?_, ?_, ?_⟩
      · simp [EventRead.copy, hev]
      · show r.result + S + _ = _
        rw [Nat.succ_mul]
        omega
      · rfl
    · have hzero : r.size / S = 0 := Nat.div_eq_of_lt (Nat.lt_of_not_le hroom)
      rw [if_neg hroom, hzero]
      simp

section

variable {sizeofCtlEvent : Nat}

theorem ampReadEvent_eq (hS : 0 < sizeofCtlEvent) (size : Nat) (a : AmpEvents) :
    (ampReadEvent sizeofCtlEvent size a).1.copies =
        (a.eventsList.take (roomFor sizeofCtlEvent size a)).zipIdx.map
          (fun p => (p.2 * (sizeofCtlEvent * sizeofCtlEvent), p.1)) ∧
      (ampReadEvent sizeofCtlEvent size a).1.result = roomFor sizeofCtlEvent size a * sizeofCtlEvent ∧
      (ampReadEvent sizeofCtlEvent size a).2 =
        { a with eventsList := a.eventsList.drop (roomFor sizeofCtlEvent size a) } := by
  obtain ⟨hcopies, hresult, hrest⟩ := readEventLoop_eq hS a.eventsList (k := 0) (r := { size }) (Nat.zero_mul _).symm
  refine ⟨?_, ?_, ?_⟩
  · exact hcopies
  · exact hresult.trans (Nat.zero_add _)
  · exact congrArg (fun l => { a with eventsList := l }) hrest

/-- The places are right for one event, and wrong for the second. -/
theorem places_eq_iff {α : Type} {S : Nat} (hS : 1 < S) (l : List α) :
    l.zipIdx.map (fun p => (p.2 * (S * S), p.1)) = l.zipIdx.map (fun p => (p.2 * S, p.1)) ↔ l.length ≤ 1 := by
  constructor
  · intro h
    by_contra hlen
    have hone : 1 < l.length := Nat.lt_of_not_le hlen
    have hget := congrArg (fun m => m[1]?) h
    simp only [List.getElem?_map, List.getElem?_zipIdx, List.getElem?_eq_getElem hone, Option.map_some,
      Option.some.injEq, Prod.mk.injEq, and_true, Nat.zero_add, Nat.one_mul] at hget
    have hlt : S * 1 < S * S := Nat.mul_lt_mul_of_pos_left hS (by omega)
    omega
  · intro h
    match l, h with
    | [], _ => rfl
    | [e], _ => simp

/-- **The notifications are read right exactly if there is at most one to read.**  The structure of an event has room for the
name of a control. -/
theorem ampReadEvent_reads_iff (hS : SNDRV_CTL_ELEM_ID_NAME_MAXLEN < sizeofCtlEvent) (size : Nat) (a : AmpEvents) :
    ReadsEvents sizeofCtlEvent size a (ampReadEvent sizeofCtlEvent size a) ↔
      min a.eventsList.length (size / sizeofCtlEvent) ≤ 1 := by
  have hone : 1 < sizeofCtlEvent := Nat.lt_trans (by decide) hS
  have hpos : 0 < sizeofCtlEvent := Nat.lt_trans Nat.zero_lt_one hone
  obtain ⟨hcopies, hresult, hrest⟩ := ampReadEvent_eq hpos size a
  have hlen : (a.eventsList.take (roomFor sizeofCtlEvent size a)).length = roomFor sizeofCtlEvent size a := by
    rw [List.length_take]
    exact Nat.min_eq_left (Nat.min_le_left _ _)
  have hplaces := places_eq_iff hone (a.eventsList.take (roomFor sizeofCtlEvent size a))
  rw [hlen, ← hcopies] at hplaces
  constructor
  · intro h
    exact hplaces.1 h.copies
  · intro h
    have heq := hplaces.2 h
    refine ⟨heq, hresult, hrest, ?_⟩
    intro c hc
    rw [heq] at hc
    obtain ⟨⟨e, k⟩, hp, rfl⟩ := List.mem_map.1 hc
    have hk := (List.mem_zipIdx hp).2.1
    rw [hlen, Nat.zero_add] at hk
    have hroom : roomFor sizeofCtlEvent size a ≤ size / sizeofCtlEvent := Nat.min_le_right _ _
    have hk0 : k = 0 := by
      have : roomFor sizeofCtlEvent size a ≤ 1 := h
      omega
    have hle : 1 * sizeofCtlEvent ≤ size := (Nat.le_div_iff_mul_le hpos).1 (by omega)
    simpa [hk0] using hle

end

/-- One notification, and room for two. -/
theorem ampReadEvent_reads_one :
    ReadsEvents 72 144 { eventsList := ["PCM100 event".toList] } (ampReadEvent 72 144 { eventsList := ["PCM100 event".toList] }) :=
  (ampReadEvent_reads_iff (by decide) 144 { eventsList := ["PCM100 event".toList] }).2 (by decide)

/-- Two notifications and room for two: the second is written 5184 bytes behind the start of a buffer of 144. -/
theorem ampReadEvent_misplaced :
    let a : AmpEvents := { eventsList := ["PCM100 event", "PCM101 event"].map String.toList }
    (ampReadEvent 72 144 a).1.copies = [(0, "PCM100 event".toList), (5184, "PCM101 event".toList)] ∧
      ¬ ReadsEvents 72 144 a (ampReadEvent 72 144 a) := by
  refine ⟨by decide, ?_⟩
  intro h
  exact absurd h.copies (by decide)

end Agm.Mixer
