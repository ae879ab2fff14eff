import Mathlib.Data.List.Infix
import Agm.Plugin.IoPlug

/-!
# The pointer of the ALSA plugin

`agm_io_transfer` adds the frames that AGM has moved to `hw_pointer` and takes `boundary` off again where the pointer has
come past it, so that it says how far the frames moved since `hw_params` have gone round the boundary.  A boundary of
alsa-lib is at most `LONG_MAX`, so no sum here comes past what a `snd_pcm_uframes_t` holds.
-/

namespace Agm.Plugin

open Agm.Lib Agm.Service

/-! ## What is moved -/

/-- A callback that leaves the parameters as they are. -/
def IoOp.KeepsParams : IoOp → Prop
  | .hwParams _ | .swParams _ => False
  | _ => True

instance (op : IoOp) : Decidable op.KeepsParams := by
  unfold IoOp.KeepsParams
  split <;> infer_instance

/-- The frames that AGM moves during a callback: what it has counted of a write or a read that it takes. -/
def ioMoved (agm : AgmAnswers) (pcm : AgmioPriv) : IoOp → Nat
  | .transfer size =>
    if pcm.handle = 0 then 0
    else if pcm.state ≠ .running ∧ (agmIoStart agm pcm).1 ≠ 0 then 0
    else
      let count := size * pcm.frameSize
      let answer := agm (if pcm.playback then .write count else .read count)
      if answer.1 = 0 then answer.2 / pcm.frameSize else 0
  | _ => 0

/-- The frames that are moved during a run. -/
def movedTotal (pcm : AgmioPriv) : List (IoOp × AgmAnswers) → Nat
  | [] => 0
  | op :: ops => ioMoved op.2 pcm op.1 + movedTotal (ioExec op.2 pcm op.1) ops

/-- Where the pointer should be. -/
structure AgmioPriv.PointsAt (pcm : AgmioPriv) (boundary total : Nat) : Prop where
  lt : pcm.hwPointer < boundary
  eq : pcm.hwPointer = (total % boundary : Nat)

/-- Where it is: the boundary itself stands for a lap that is full. -/
def lapped (boundary total : Nat) : Nat := if total ≠ 0 ∧ total % boundary = 0 then boundary else total % boundary

/-! ## Laps -/

section

variable {boundary total m : Nat}

theorem lapped_le (h : 0 < boundary) : lapped boundary total ≤ boundary := by
  unfold lapped
  split
  · exact Nat.le_refl _
  · exact (Nat.mod_lt _ h).le

/-- The pointer goes on by less than a lap, and is taken back where it has come past the boundary. -/
theorem lapped_add (hm : m < boundary) : lapped boundary (total + m) =
    if lapped boundary total + m > boundary then lapped boundary total + m - boundary else lapped boundary total + m := by
  have hpos : 0 < boundary := by omega
  have hr : total % boundary < boundary := Nat.mod_lt _ hpos
  have hmod : (total + m) % boundary =
      if total % boundary + m < boundary then total % boundary + m else total % boundary + m - boundary := by
    rw [Nat.add_mod, Nat.mod_eq_of_lt hm]
    split
    · exact Nat.mod_eq_of_lt ‹_›
    · rw [Nat.mod_eq_sub_mod (by omega), Nat.mod_eq_of_lt (by omega)]
  unfold lapped
  rw [hmod]
  rcases Nat.eq_zero_or_pos total with rfl | htotal
  · simp only [Nat.zero_mod, Nat.zero_add]
    split_ifs <;> omega
  · split_ifs <;> omega

theorem lapped_eq_iff (h : 0 < boundary) :
    (lapped boundary total < boundary ∧ lapped boundary total = total % boundary) ↔ total = 0 ∨ ¬ boundary ∣ total := by
  have hr : total % boundary < boundary := Nat.mod_lt _ h
  unfold lapped
  rw [Nat.dvd_iff_mod_eq_zero]
  by_cases hlap : total ≠ 0 ∧ total % boundary = 0
  · rw [if_pos hlap]
    omega
  · rw [if_neg hlap]
    omega

end

/-! ## A callback -/

section

variable {agm : AgmAnswers} {pcm pcm' : AgmioPriv}

/-- What the pointer rests on is as before. -/
structure AgmioPriv.SamePointer (pcm pcm' : AgmioPriv) : Prop where
  handle : pcm'.handle = pcm.handle
  playback : pcm'.playback = pcm.playback
  frameSize : pcm'.frameSize = pcm.frameSize
  hwPointer : pcm'.hwPointer = pcm.hwPointer
  boundary : pcm'.boundary = pcm.boundary

theorem samePointer_agmIoStart (agm : AgmAnswers) (pcm : AgmioPriv) : pcm.SamePointer (agmIoStart agm pcm).2 := by
  unfold agmIoStart agmIoStartPrepare AgmioPriv.call
  dsimp only
  split_ifs <;> exact ⟨rfl, rfl, rfl, rfl, rfl⟩

theorem samePointer_of_not_transfer {op : IoOp} (hop : op.KeepsParams) (ht : ∀ size, op ≠ .transfer size) :
    pcm.SamePointer (ioExec agm pcm op) ∧ ioMoved agm pcm op = 0 := by
  cases op with
  | hwParams p => exact hop.elim
  | swParams p => exact hop.elim
  | transfer size => exact absurd rfl (ht size)
  | start =>
    have h := samePointer_agmIoStart agm pcm
    exact ⟨⟨h.handle, h.playback, h.frameSize, h.hwPointer, h.boundary⟩, rfl⟩
  | prepare =>
    refine ⟨?_, rfl⟩
    unfold ioExec agmIoCallback agmIoPrepare AgmioPriv.call
    dsimp only
    split_ifs <;> exact ⟨rfl, rfl, rfl, rfl, rfl⟩
  | stop =>
    refine ⟨?_, rfl⟩
    unfold ioExec agmIoCallback agmIoStop AgmioPriv.call
    dsimp only
    split_ifs <;> exact ⟨rfl, rfl, rfl, rfl, rfl⟩
  | pause enable =>
    refine ⟨?_, rfl⟩
    unfold ioExec agmIoCallback agmIoPause AgmioPriv.call
    dsimp only
    split_ifs <;> exact ⟨rfl, rfl, rfl, rfl, rfl⟩

/-- The first half of `agm_io_transfer`. -/
def agmIoTransferStart (agm : AgmAnswers) (pcm : AgmioPriv) : Int × AgmioPriv :=
  if pcm.state ≠ .running then agmIoStart agm pcm else (0, pcm)

theorem samePointer_agmIoTransferStart (agm : AgmAnswers) (pcm : AgmioPriv) :
    pcm.SamePointer (agmIoTransferStart agm pcm).2 := by
  unfold agmIoTransferStart
  split
  · exact samePointer_agmIoStart agm pcm
  · exact ⟨rfl, rfl, rfl, rfl, rfl⟩

theorem ioMoved_transfer (hhandle : pcm.handle ≠ 0) (size : Nat) : ioMoved agm pcm (.transfer size) =
    if (agmIoTransferStart agm pcm).1 ≠ 0 then 0
    else
      let answer := agm (if pcm.playback then .write (size * pcm.frameSize) else .read (size * pcm.frameSize))
      if answer.1 = 0 then answer.2 / pcm.frameSize else 0 := by
  refine (if_neg hhandle).trans ?_
  unfold agmIoTransferStart
  by_cases hrun : pcm.state ≠ .running
  · rw [if_pos hrun]
    simp only [hrun, ne_eq, not_false_eq_true, true_and]
  · simp only [hrun, false_and, if_false, ne_eq, not_true_eq_false]

theorem agmIoTransfer_eq (hhandle : pcm.handle ≠ 0) (size : Nat) : agmIoTransfer agm pcm size =
    if (agmIoTransferStart agm pcm).1 ≠ 0 then agmIoTransferStart agm pcm
    else
      let c := if pcm.playback then AgmCall.write (size * pcm.frameSize) else AgmCall.read (size * pcm.frameSize)
      agmIoMovePointer ((agmIoTransferStart agm pcm).2.call agm c).2 (agm c).1 (agm c).2 :=
  if_neg (mt agmGetSessionHandle_ne.1 hhandle)

/-- The second half of `agm_io_transfer`: the pointer is taken back on both ways out. -/
theorem agmIoMovePointer_hwPointer {pos : Nat} (hpos : pcm.hwPointer = pos) (ret : Int) (count : Nat) :
    let moved := if ret = 0 then count / pcm.frameSize else 0
    (agmIoMovePointer pcm ret count).2.hwPointer =
      (if pos + moved > pcm.boundary then pos + moved - pcm.boundary else pos + moved : Nat) := by
  intro moved
  have hfst : (if ret = 0 then ((count : Int) / pcm.frameSize, pcm.hwPointer + (count : Int) / pcm.frameSize)
      else (ret, pcm.hwPointer)).2 = (pos + moved : Nat) := by
    unfold moved
    split
    · rw [hpos]
      push_cast
      rfl
    · exact hpos
  unfold agmIoMovePointer
  dsimp only
  rw [hfst]
  split_ifs <;> omega

/-- **One transfer.** -/
theorem agmIoTransfer_hwPointer {pos : Nat} (hhandle : pcm.handle ≠ 0) (hpos : pcm.hwPointer = pos)
    (hle : pos ≤ pcm.boundary) (size : Nat) :
    let moved := ioMoved agm pcm (.transfer size)
    let next := (agmIoTransfer agm pcm size).2
    next.handle = pcm.handle ∧ next.boundary = pcm.boundary ∧ next.hwPointer =
      (if pos + moved > pcm.boundary then pos + moved - pcm.boundary else pos + moved : Nat) := by
  have hp := samePointer_agmIoTransferStart agm pcm
  rw [ioMoved_transfer hhandle, agmIoTransfer_eq hhandle]
  generalize agmIoTransferStart agm pcm = p at hp
  intro moved next
  by_cases hstart : p.1 ≠ 0
  · have hmoved : moved = 0 := if_pos hstart
    have hnext : next = p.2 := congrArg Prod.snd (if_pos hstart)
    rw [hmoved, hnext, Nat.add_zero, if_neg (by omega)]
    exact ⟨hp.handle, hp.boundary, hp.hwPointer.trans hpos⟩
  · set c : AgmCall := if pcm.playback then .write (size * pcm.frameSize) else .read (size * pcm.frameSize)
    have hmoved : moved = if (agm c).1 = 0 then (agm c).2 / pcm.frameSize else 0 := if_neg hstart
    have hnext : next = (agmIoMovePointer (p.2.call agm c).2 (agm c).1 (agm c).2).2 := congrArg Prod.snd (if_neg hstart)
    have hmove := @agmIoMovePointer_hwPointer (p.2.call agm c).2 pos (hp.hwPointer.trans hpos) (agm c).1 (agm c).2
    rw [hmoved, hnext]
    refine ⟨hp.handle, hp.boundary, hmove.trans ?_⟩
    rw [show (p.2.call agm c).2.boundary = pcm.boundary from hp.boundary,
      show (p.2.call agm c).2.frameSize = pcm.frameSize from hp.frameSize]

end

/-! ## A run -/

section

variable {pcm : AgmioPriv} {ops : List (IoOp × AgmAnswers)}

theorem ioRun_concat (o : IoOp × AgmAnswers) : ioRun pcm (ops ++ [o]) = ioExec o.2 (ioRun pcm ops) o.1 :=
  List.foldl_concat _ _ _ _

theorem movedTotal_concat (pcm : AgmioPriv) (ops : List (IoOp × AgmAnswers)) (o : IoOp × AgmAnswers) :
    movedTotal pcm (ops ++ [o]) = movedTotal pcm ops + ioMoved o.2 (ioRun pcm ops) o.1 := by
  induction ops generalizing pcm with
  | nil => exact Nat.add_comm _ _
  | cons o' ops ih =>
    rw [List.cons_append, movedTotal, movedTotal, ih]
    exact (Nat.add_assoc _ _ _).symm

/-- A transfer moves no more than the buffer holds. -/
def MovesAtMost (bufferSize : Nat) (pcm : AgmioPriv) (ops : List (IoOp × AgmAnswers)) : Prop :=
  EachAfter (fun past o => ioMoved o.2 (ioRun pcm past) o.1 ≤ bufferSize) ops

instance (bufferSize : Nat) (pcm : AgmioPriv) (ops : List (IoOp × AgmAnswers)) :
    Decidable (MovesAtMost bufferSize pcm ops) := by
  unfold MovesAtMost
  infer_instance

/-- What is kept from one callback to the next, once the parameters are set and `total` frames have been moved. -/
structure AgmioPriv.Lapped (pcm : AgmioPriv) (bound total : Nat) : Prop where
  handle : pcm.handle ≠ 0
  boundary : pcm.boundary = bound
  hwPointer : pcm.hwPointer = (lapped bound total : Nat)

/-- **One callback.** -/
theorem AgmioPriv.Lapped.ioExec {agm : AgmAnswers} {boundary total : Nat} (h : pcm.Lapped boundary total) {op : IoOp}
    (hop : op.KeepsParams) (hlt : ioMoved agm pcm op < boundary) :
    (Plugin.ioExec agm pcm op).Lapped boundary (total + ioMoved agm pcm op) := by
  by_cases ht : ∃ size, op = .transfer size
  · obtain ⟨size, rfl⟩ := ht
    have hle : lapped boundary total ≤ pcm.boundary := by
      rw [h.boundary]
      exact lapped_le (Nat.zero_lt_of_lt hlt)
    obtain ⟨hhandle, hboundary, hpointer⟩ := agmIoTransfer_hwPointer h.handle h.hwPointer hle size
    refine ⟨fun h0 => h.handle (hhandle.symm.trans h0), hboundary.trans h.boundary, hpointer.trans ?_⟩
    rw [lapped_add hlt, h.boundary]
  · obtain ⟨hsame, hmoved⟩ := @samePointer_of_not_transfer agm pcm op hop fun size hsize => ht ⟨size, hsize⟩
    rw [hmoved]
    exact ⟨fun h0 => h.handle (hsame.handle.symm.trans h0), hsame.boundary.trans h.boundary,
      hsame.hwPointer.trans h.hwPointer⟩

/-- **A run.**  The induction is from the end: the last callback moves the pointer on from where the rest have left it. -/
theorem AgmioPriv.Lapped.ioRun {boundary bufferSize : Nat} (h : pcm.Lapped boundary 0) (hlt : bufferSize < boundary)
    (hops : ∀ o ∈ ops, o.1.KeepsParams) (hmost : MovesAtMost bufferSize pcm ops) :
    (Plugin.ioRun pcm ops).Lapped boundary (movedTotal pcm ops) := by
  induction ops using List.reverseRecOn with
  | nil => exact h
  | append_singleton ops o ih =>
    obtain ⟨hpast, hlast⟩ := eachAfter_concat.1 hmost
    rw [ioRun_concat, movedTotal_concat]
    exact (ih (fun o ho => hops o (List.mem_append_left _ ho)) hpast).ioExec (hops o (by simp)) (hlast.trans_lt hlt)

theorem AgmioPriv.Lapped.pointsAt_iff {boundary total : Nat} (h : pcm.Lapped boundary total) (hpos : 0 < boundary) :
    pcm.PointsAt boundary total ↔ total = 0 ∨ ¬ boundary ∣ total := by
  rw [← lapped_eq_iff hpos]
  constructor
  · rintro ⟨hlt, heq⟩
    rw [h.hwPointer] at hlt heq
    omega
  · rintro ⟨hlt, heq⟩
    exact ⟨by rw [h.hwPointer]; omega, by rw [h.hwPointer, heq]⟩

/-! ## From the parameters on -/

/-- After `hw_params` and `sw_params`, with what AGM has answered to each. -/
def AgmioPriv.withParams (pcm : AgmioPriv) (p : HwParams) (q : SwParams) (atHw atSw : AgmAnswers) : AgmioPriv :=
  ioRun pcm [(.hwParams p, atHw), (.swParams q, atSw)]

theorem lapped_withParams {p : HwParams} {q : SwParams} {atHw atSw : AgmAnswers} (hhandle : pcm.handle ≠ 0) :
    (pcm.withParams p q atHw atSw).Lapped q.boundary 0 := by
  have hhw : (agmIoHwParams atHw pcm p).2.handle = pcm.handle ∧ (agmIoHwParams atHw pcm p).2.hwPointer = 0 := by
    unfold agmIoHwParams
    dsimp only
    split <;> exact ⟨rfl, rfl⟩
  have hsw (pcm' : AgmioPriv) (hhandle' : pcm'.handle ≠ 0) (hpointer : pcm'.hwPointer = 0) :
      (ioExec atSw pcm' (.swParams q)).Lapped q.boundary 0 := by
    have hset : agmIoSwParams atSw pcm' q = _ := if_neg (mt agmGetSessionHandle_ne.1 hhandle')
    unfold ioExec agmIoCallback
    dsimp only
    rw [hset]
    exact ⟨hhandle', rfl, hpointer⟩
  exact hsw _ (fun h0 => hhandle (hhw.1.symm.trans h0)) hhw.2

end

/-- **The pointer.**  From the setting of the parameters on, the pointer is right after every callback exactly if the
frames moved never come to a full number of laps. -/
theorem agmIoPointer_pointsAt_iff (pcm : AgmioPriv) (hhandle : pcm.handle ≠ 0) (p : HwParams) (q : SwParams)
    (atHw atSw : AgmAnswers) (hboundary : p.bufferSize < q.boundary) (ops : List (IoOp × AgmAnswers))
    (hops : ∀ o ∈ ops, o.1.KeepsParams) (hmost : MovesAtMost p.bufferSize (pcm.withParams p q atHw atSw) ops) :
    let set := pcm.withParams p q atHw atSw
    (∀ past, past <+: ops → (ioRun set past).PointsAt q.boundary (movedTotal set past)) ↔
      ∀ past, past <+: ops → movedTotal set past = 0 ∨ ¬ q.boundary ∣ movedTotal set past := by
  intro set
  refine forall₂_congr fun past hpast => ?_
  have hlapped : (ioRun set past).Lapped q.boundary (movedTotal set past) := by
    refine (lapped_withParams hhandle).ioRun hboundary (fun o ho => hops o (hpast.subset ho)) ?_
    obtain ⟨rest, rfl⟩ := hpast
    intro past' o rest' heq
    exact hmost past' o (rest' ++ rest) (by rw [heq]; simp)
  exact hlapped.pointsAt_iff (Nat.zero_lt_of_lt hboundary)

/-- AGM moves every byte that it is given. -/
def movingAll : AgmAnswers
  | .write count => (0, count)
  | .read count => (0, count)
  | _ => (0, 0)

def threeTransfers : List (IoOp × AgmAnswers) := List.replicate 3 (.transfer 960, movingAll)

/-- Two laps of a boundary that the frames moved are never a multiple of. -/
theorem agmIoPointer_pointsAt_twice :
    let set := openedPcm.withParams stereo ⟨240, 960, 1000⟩ granting granting
    ∀ past, past <+: threeTransfers → (ioRun set past).PointsAt 1000 (movedTotal set past) := by
  refine (agmIoPointer_pointsAt_iff openedPcm (by decide) stereo ⟨240, 960, 1000⟩ granting granting (by decide)
    threeTransfers (by decide) (by decide +kernel)).2 fun past hpast => ?_
  have hall : ∀ past ∈ threeTransfers.inits,
      movedTotal (openedPcm.withParams stereo ⟨240, 960, 1000⟩ granting granting) past = 0 ∨
        ¬ 1000 ∣ movedTotal (openedPcm.withParams stereo ⟨240, 960, 1000⟩ granting granting) past := by
    decide +kernel
  exact hall past ((List.mem_inits _ _).2 hpast)

/-- The boundary is two buffers: once two are moved, the pointer stands at the boundary and not at 0. -/
theorem agmIoPointer_at_boundary :
    let set := openedPcm.withParams stereo ⟨240, 960, 1920⟩ granting granting
    MovesAtMost stereo.bufferSize set threeTransfers ∧ movedTotal set (threeTransfers.take 2) = 1920 ∧
      (ioRun set (threeTransfers.take 2)).hwPointer = 1920 ∧
      ¬ ∀ past, past <+: threeTransfers → (ioRun set past).PointsAt 1920 (movedTotal set past) := by
  refine ⟨by decide +kernel, by decide +kernel, by decide +kernel, fun hall => ?_⟩
  have hpoints := hall _ (List.take_prefix 2 _)
  have hpointer : (ioRun (openedPcm.withParams stereo ⟨240, 960, 1920⟩ granting granting)
      (threeTransfers.take 2)).hwPointer = 1920 := by
    decide +kernel
  exact absurd hpoints.lt (by rw [hpointer]; decide)

end Agm.Plugin
