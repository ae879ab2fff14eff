import Agm.Ipc.HwMessages
import Agm.Ipc.SwMessages
import Mathlib.Data.List.TakeWhile

/-!
# What the messages of the HwBinder carry

For every call what its handler hands to the service, and what the client makes of the answer, compared with a call of
the service itself.
-/

namespace Agm.Ipc

open Agm.Lib

/-! ## What a call should do -/

/-- The buffers as they are before they are filled. -/
def AgmBuff.cleared (b : AgmBuff) : AgmBuff :=
  { b with
    addr := b.addr.map fun _ => List.Vector.replicate _ 0
    metadata := b.metadata.map fun _ => List.Vector.replicate _ 0 }

/-- The call without what is in memory that the service fills. -/
def ApiCall.cleared : ApiCall → ApiCall
  | .sessionReadWithMetadata handle buf capturedSize => .sessionReadWithMetadata handle buf.cleared capturedSize
  | .getSessionTime handle _ => .getSessionTime handle 0
  | c => c

/-- A name up to its end. -/
def AifInfo.shown (a : AifInfo) : Bytes × UInt32 := (a.aifName.toList.takeWhile (· ≠ 0), a.dir)

/-- The same, for the caller. -/
def ApiCall.Agree : (c : ApiCall) → c.Seen → c.Seen → Prop
  | .getAifInfoList _ _, s, t | .getGroupAifInfoList _ _, s, t =>
    s.1 = t.1 ∧ s.2.1.map AifInfo.shown = t.2.1.map AifInfo.shown ∧ s.2.2 = t.2.2
  | _, s, t => s = t

/-- The handler calls the service with the arguments of the client, nothing is read that is not there, and the client
hands over what the service answers. -/
def ApiCall.Carried (j : Junk) (c : ApiCall) (a : c.Answer) : Prop :=
  ∃ m reply s, hwSend j c = some m ∧ hwHandle j m = some (.call c.cleared) ∧ hwReply j c a = some reply ∧
    hwReceive c reply = some s ∧ c.Agree (c.outputs s) (c.outputs (c.see a))

/-- A size comes back in 32 bits, but not with `ENOMEM`. -/
def sizeReturns (ret : Int32) (size size' : UInt64) : Prop :=
  if ret = -Ret.ENOMEM then size' = size else size'.toNat < 2 ^ 32

/-- What the handler leaves unset has to be right by chance. -/
def AgmBuff.unsetAs (b : AgmBuff) (u : Unset) : Prop :=
  b.metadata = none ∧ b.metadataSize = u.metadataSize ∧ b.allocHandle = u.allocHandle ∧ b.allocSize = u.allocSize ∧
    b.offset = u.offset

/-- What a read may change: the timestamp, and what is in the buffers. -/
structure AgmBuff.Filled (flags : UInt32) (b b' : AgmBuff) : Prop where
  flags : b'.flags = flags
  size : b'.size = b.size
  addr : b'.addr.isSome
  metadataSize : b'.metadataSize = b.metadataSize
  metadata : b'.metadata.isSome
  alloc : b'.allocHandle = b.allocHandle ∧ b'.allocSize = b.allocSize ∧ b'.offset = b.offset

/-- What the messages have room for. -/
def ApiCall.Whole (j : Junk) : (c : ApiCall) → c.Answer → Prop
  | .init, _ | .deinit, _ | .sessionRegisterCb _ _ _ _, _ => False
  | .setMetadata of size _, _ => of.readsNumGkv → 4 ≤ size.toNat
  | .setParams _ size _, _ | .sessionGetParams _ size _, _ => size.toNat < 2 ^ 32
  | .sessionAifGetTagModuleInfo _ _ payload size, (ret, _, size') =>
    size.toNat < 2 ^ 32 ∧ payload = decide (size ≠ 0) ∧ size'.toNat < 2 ^ 32 ∧ (payload → size'.toNat ≤ size.toNat) ∧
      (ret = -Ret.ENOMEM → size' = size)
  | .sessionAifSetCal _ _ cfg, _ => cfg.numCkvs.toNat ≤ MAX_KVPAIR
  | .setParamsWithTag _ _ cfg, _ => cfg.numTkvs.toNat ≤ MAX_KVPAIR
  | .sessionRegisterForEvents _ cfg, _ => countedByInt cfg.payloadSize
  | .sessionSetConfig _ _ _ buffer, _ => buffer.size.toNat < 2 ^ 32 ∧ buffer.maxMetadataSize = 0
  | .sessionSetNonTunnelModeConfig _ _ _ _ inBuffer outBuffer, _ =>
    (inBuffer.size.toNat < 2 ^ 32 ∧ inBuffer.maxMetadataSize.toNat < 2 ^ 32) ∧
      outBuffer.size.toNat < 2 ^ 32 ∧ outBuffer.maxMetadataSize.toNat < 2 ^ 32
  | .sessionRead handle count, (ret, _, count') =>
    handle ≠ 0 ∧ count.toNat < 2 ^ 32 ∧ sizeReturns ret count count'
  | .sessionWrite handle count _, (ret, count') => handle ≠ 0 ∧ count.toNat < 2 ^ 32 ∧ sizeReturns ret count count'
  | .sessionReadWithMetadata handle buf captured, (ret, b, captured') =>
    handle ≠ 0 ∧ (buf.timestamp = 0 ∧ buf.flags = 0 ∧ buf.addr.isSome ∧ buf.metadata.isSome) ∧
      if 0 < ret then buf.Filled j.answered.flags b else b = buf ∧ captured' = captured
  | .sessionWriteWithMetadata _ buf consumed, (ret, consumed') =>
    buf.addr.isSome ∧ (if buf.metadata.isSome then buf.metadataSize ≠ 0
      else j.sent.metadataSize = 0 ∧ buf.metadataSize = j.stack.metadataSize) ∧ sizeReturns ret consumed consumed'
  | .sessionWriteDatapathParams _ buf, _ => buf.size ≠ 0 ∧ buf.addr.isSome ∧ buf.unsetAs j.stack
  | .getHwProcessedBuffCnt _ _, count => Signed32 count
  | .getAifInfoList list num, (ret, infos, num') | .getGroupAifInfoList list num, (ret, infos, num') =>
    (num.toNat < 2 ^ 31 ∧ list = decide (num ≠ 0)) ∧ ret = 0 ∧ num'.toNat < 2 ^ 32 ∧
      (list → num'.toNat ≤ num.toNat ∧ ∀ a ∈ infos.toList, 0 ∈ a.aifName.toList)
  | .getSessionTime _ _, (ret, _) => ret = -Ret.EINVAL
  | .sessionGetBufInfo _ flag, (ret, _) => ret = 0 → flag &&& POS_BUF = 0
  | .dump _, _ | .aifSetMediaConfig _ _, _ | .aifGroupSetMediaConfig _ _, _ | .sessionOpen _ _, _ | .onHandle _ _, _
  | .sessionidFlush _, _ | .link _ _ _ _, _ | .getBufferTimestamp _, _ | .setGaplessSessionMetadata _ _ _, _ => True

/-! ## Vectors -/

@[simp] theorem firstOf_toList {α : Type} {n : Nat} (v : List.Vector α n) : firstOf n v.toList = some v := by
  rw [firstOf, dif_pos v.toList_length.ge]
  exact congrArg some (Subtype.ext (List.take_of_length_le v.toList_length.le))

theorem firstOf_eq_none {α : Type} {n : Nat} {l : List α} (h : l.length < n) : firstOf n l = none :=
  dif_neg (Nat.not_le.2 h)

theorem firstOf_take {α : Type} {n : Nat} {l : List α} (h : n ≤ l.length) :
    firstOf n l = some ⟨l.take n, List.length_take_of_le h⟩ := dif_pos h

/-- A vector that is as long as it says. -/
theorem handleSized_toList {n : Nat} (v : List.Vector UInt8 n) (call : List.Vector UInt8 n → ApiCall) :
    handleSized n v.toList call = some (.call (call v)) := by
  rw [handleSized, if_neg v.toList_length.ge.not_gt, firstOf_toList]
  rfl

/-- A length that comes in another width: the call is that of the client if the length is. -/
theorem handleSized_iff {f : (size : UInt64) → List.Vector UInt8 size.toNat → ApiCall}
    (hf : ∀ w u size v, f w u = f size v → w = size) {w size : UInt64} (v : List.Vector UInt8 size.toNat)
    {bs : Bytes} (hbs : w = size → bs = v.toList) :
    handleSized w.toNat bs (f w) = some (.call (f size v)) ↔ w = size := by
  constructor
  · intro h
    unfold handleSized at h
    split at h
    · cases h
    · obtain ⟨u, -, hu⟩ := Option.map_eq_some_iff.1 h
      exact hf w u size v (Handled.call.inj hu)
  · rintro rfl
    rw [hbs rfl, handleSized_toList]

/-- A number that goes over alone: whether there is memory for so many is what the number says. -/
theorem counted_call_iff {f : Bool → UInt64 → ApiCall} (hf : ∀ b n b' n', f b n = f b' n' → b = b' ∧ n = n') {b : Bool}
    {n : UInt64} :
    some (Handled.call (f (n.toUInt32 ≠ 0) n.toUInt32.toUInt64)) = some (.call (f b n)) ↔
      n.toNat < 2 ^ 32 ∧ b = decide (n ≠ 0) := by
  rw [← toUInt64_toUInt32_eq_iff]
  have hzero (hn : n.toUInt32.toUInt64 = n) : decide (n.toUInt32 ≠ 0) = decide (n ≠ 0) := by
    refine decide_eq_decide.2 (not_congr ⟨fun h => ?_, fun h => ?_⟩)
    · rw [← hn, h]
      rfl
    · rw [h]
      rfl
  constructor
  · intro h
    obtain ⟨hb, hn⟩ := hf _ _ _ _ (Handled.call.inj (Option.some.inj h))
    exact ⟨hn, hb.symm.trans (hzero hn)⟩
  · rintro ⟨hn, rfl⟩
    rw [hn, hzero hn]

/-- Key values: there is room for so many. -/
theorem handleKv_iff {num : UInt32} (kv : List.Vector KeyValue num.toNat)
    (call : List.Vector KeyValue num.toNat → ApiCall) :
    handleKv num kv.toList call = some (.call (call kv)) ↔ num.toNat ≤ MAX_KVPAIR := by
  by_cases h : MAX_KVPAIR < num.toNat
  · rw [handleKv, if_pos h]
    exact iff_of_false (fun heq => Handled.noConfusion (Option.some.inj heq)) h.not_ge
  · rw [handleKv, if_neg h, firstOf_toList]
    exact iff_of_true rfl (Nat.not_lt.1 h)

theorem countedByInt_of_le {n : UInt32} (h : n.toNat ≤ MAX_KVPAIR) : countedByInt n = true :=
  decide_eq_true (lt_of_le_of_lt h (by decide))

/-- What the caller has for a size is what the service has answered. -/
theorem size_eq_iff (ret : Int32) (size size' : UInt64) :
    (if ret = -Ret.ENOMEM then size else size'.toUInt32.toUInt64) = size' ↔ sizeReturns ret size size' := by
  unfold sizeReturns
  split
  · exact eq_comm
  · exact toUInt64_toUInt32_eq_iff size'

/-- As many bytes as were there replace all of them. -/
theorem overwrite_toList {n : Nat} (v w : List.Vector UInt8 n) : overwrite v w.toList = w := by
  have hdrop : v.toList.drop w.toList.length = [] := List.drop_of_length_le (by simp)
  rw [overwrite, hdrop, List.append_nil]
  exact (Layout.raw n).decode_encode' w

/-! ### Lists of back ends -/

theorem takeD_of_length_le {α : Type} (a : α) : ∀ {n : Nat} {l : List α}, l.length ≤ n →
    l.takeD n a = l ++ List.replicate (n - l.length) a
  | 0, [], _ => rfl
  | n + 1, [], _ => congrArg (a :: ·) (takeD_of_length_le a (l := []) n.zero_le)
  | n + 1, b :: l, h => by
    rw [List.takeD_succ, List.head?_cons, Option.getD_some, List.tail_cons, takeD_of_length_le a (Nat.le_of_succ_le_succ h),
      List.length_cons, Nat.add_sub_add_right, List.cons_append]

/-- A name goes over up to its end. -/
theorem shown_store {a : AifInfo} {b : HwAifInfo} (hb : a.toHw = some b) : b.store.shown = a.shown := by
  obtain ⟨hzero, hb⟩ := Option.ite_none_right_eq_some.1 hb
  obtain rfl := Option.some.inj hb
  set p : UInt8 → Bool := (· ≠ 0) with hp
  set name := a.aifName.toList.takeWhile p with hname
  have happ : name ++ a.aifName.toList.dropWhile p = a.aifName.toList := List.takeWhile_append_dropWhile
  have hne : ∀ c ∈ name, p c := fun c hc => List.mem_takeWhile_imp hc
  have hrest : 0 < (a.aifName.toList.dropWhile p).length := by
    rw [← happ] at hzero
    obtain h | h := List.mem_append.1 hzero
    · exact absurd (hne 0 h) (by decide)
    · exact List.length_pos_of_mem h
  have hlen := congrArg List.length happ
  rw [List.length_append, a.aifName.toList_length] at hlen
  have htake : name.take 31 = name := List.take_of_length_le (by omega)
  have hstore : (HwAifInfo.store ⟨name, a.dir⟩).aifName.toList = name ++ 0 :: List.replicate (31 - name.length) 0 := by
    show (name.take 31 ++ [0]).takeD 32 0 = _
    have hlt : (name ++ [0]).length ≤ 32 := by
      rw [List.length_append, List.length_singleton]
      omega
    rw [htake, takeD_of_length_le 0 hlt, List.append_assoc, List.length_append, List.length_singleton,
      Nat.succ_sub_succ 31 name.length, List.singleton_append]
  refine Prod.ext ?_ rfl
  show (HwAifInfo.store ⟨name, a.dir⟩).aifName.toList.takeWhile p = name
  rw [hstore, List.takeWhile_append_of_pos hne, List.takeWhile_cons_of_neg (by decide), List.append_nil]

/-- All names end. -/
theorem mapM_toHw {infos : List AifInfo} {l : List HwAifInfo} (h : infos.mapM AifInfo.toHw = some l) :
    (∀ a ∈ infos, 0 ∈ a.aifName.toList) ∧ l.map (·.store.shown) = infos.map AifInfo.shown := by
  induction infos generalizing l with
  | nil =>
    obtain rfl := Option.some.inj h
    exact ⟨fun a ha => absurd ha List.not_mem_nil, rfl⟩
  | cons a infos ih =>
    rw [List.mapM_cons] at h
    obtain ⟨b, hb, h⟩ := Option.bind_eq_some_iff.1 h
    obtain ⟨l', hl', h⟩ := Option.bind_eq_some_iff.1 h
    obtain rfl := Option.some.inj h
    obtain ⟨hall, hmap⟩ := ih hl'
    refine ⟨fun c hc => ?_, by rw [List.map_cons, List.map_cons, shown_store hb, hmap]⟩
    obtain rfl | hc := List.mem_cons.1 hc
    · exact (Option.ite_none_right_eq_some.1 hb).1
    · exact hall c hc

theorem exists_mapM_toHw {infos : List AifInfo} (h : ∀ a ∈ infos, 0 ∈ a.aifName.toList) :
    ∃ l, infos.mapM AifInfo.toHw = some l := by
  induction infos with
  | nil => exact ⟨[], rfl⟩
  | cons a infos ih =>
    obtain ⟨l, hl⟩ := ih fun b hb => h b (List.mem_cons_of_mem a hb)
    have ha : a.toHw = some _ := if_pos (h a List.mem_cons_self)
    exact ⟨_ :: l, by rw [List.mapM_cons, ha, hl]; rfl⟩

theorem listReply_eq {list : Bool} {num num' : UInt64} {infos : List AifInfo} {reply : HwReply}
    (h : listReply list num infos num' = some reply) : ∃ l, reply = .list 0 l num'.toUInt32 := by
  unfold listReply at h
  split at h
  · obtain ⟨-, h⟩ := Option.ite_none_right_eq_some.1 h
    obtain ⟨l, -, rfl⟩ := Option.map_eq_some_iff.1 h
    exact ⟨l, rfl⟩
  · exact ⟨[], (Option.some.inj h).symm⟩

/-- A list goes over if all names end, and if the numbers have room. -/
theorem list_returns_iff {list : Bool} {num : UInt64} {infos : List.Vector AifInfo (given list num)} {num' : UInt64}
    {ret : Int32} (hnum : num.toNat < 2 ^ 32) :
    (∃ l s, listReply list num infos.toList num' = some (.list 0 l num'.toUInt32) ∧
        listReceive list num 0 l num'.toUInt32 = some s ∧ s.1 = ret ∧
        (if s.1 = 0 then s.2.1 else []).map AifInfo.shown =
          (if ret = 0 then infos.toList.take num'.toNat else []).map AifInfo.shown ∧ s.2.2 = num') ↔
      ret = 0 ∧ num'.toNat < 2 ^ 32 ∧ (list → num.toNat < 2 ^ 31 ∧ num'.toNat ≤ num.toNat ∧
        ∀ a ∈ infos.toList, 0 ∈ a.aifName.toList) := by
  have h0 : (0 : Int32) ≠ -Ret.ENOMEM := by decide
  have hwide : num.toUInt32.toNat = num.toNat := by
    rw [← UInt32.toNat_toUInt64, (toUInt64_toUInt32_eq_iff num).2 hnum]
  cases list with
  | false =>
    have hnone : infos.toList = [] := List.length_eq_zero_iff.1 infos.toList_length
    have hs (l : List HwAifInfo) : listReceive false num 0 l num'.toUInt32 = some (0, [], num'.toUInt32.toUInt64) :=
      (if_neg h0).trans (if_neg Bool.false_ne_true)
    constructor
    · rintro ⟨l, s, -, hrec, hret, -, hn⟩
      obtain rfl := Option.some.inj ((hs l).symm.trans hrec)
      exact ⟨hret.symm, (toUInt64_toUInt32_eq_iff num').1 hn, fun h => absurd h Bool.false_ne_true⟩
    · rintro ⟨rfl, hn, -⟩
      refine ⟨[], _, if_neg Bool.false_ne_true, hs [], rfl, ?_, (toUInt64_toUInt32_eq_iff num').2 hn⟩
      rw [hnone, List.take_nil]
  | true =>
    have hreply : listReply true num infos.toList num' = if countedByInt num.toUInt32 then
        (infos.toList.mapM AifInfo.toHw).map fun l => .list 0 l num'.toUInt32 else none := if_pos rfl
    have hrec (l : List HwAifInfo) : listReceive true num 0 l num'.toUInt32 =
        if num'.toUInt32.toNat ≤ num.toNat ∧ countedByInt num'.toUInt32 then
          (firstOf num'.toUInt32.toNat l).map fun v => (0, v.toList.map HwAifInfo.store, num'.toUInt32.toUInt64)
        else none := (if_neg h0).trans (if_pos rfl)
    constructor
    · rintro ⟨l, s, hl, hs, hret, -, hn⟩
      rw [hreply] at hl
      obtain ⟨hcount, hl⟩ := Option.ite_none_right_eq_some.1 hl
      obtain ⟨l', hmap, -⟩ := Option.map_eq_some_iff.1 hl
      rw [hrec l] at hs
      obtain ⟨⟨hle, -⟩, hs⟩ := Option.ite_none_right_eq_some.1 hs
      obtain ⟨v, -, rfl⟩ := Option.map_eq_some_iff.1 hs
      have hn' : num'.toUInt32.toUInt64 = num' := hn
      rw [← UInt32.toNat_toUInt64, hn'] at hle
      rw [countedByInt, hwide] at hcount
      exact ⟨hret.symm, (toUInt64_toUInt32_eq_iff num').1 hn', fun _ => ⟨of_decide_eq_true hcount, hle, (mapM_toHw hmap).1⟩⟩
    · rintro ⟨rfl, hn, hall⟩
      obtain ⟨hnum, hle, hzero⟩ := hall rfl
      obtain ⟨l, hmap⟩ := exists_mapM_toHw hzero
      have hn' := (toUInt64_toUInt32_eq_iff num').2 hn
      have hn'' : num'.toUInt32.toNat = num'.toNat := by rw [← UInt32.toNat_toUInt64, hn']
      have hlen : num'.toNat ≤ l.length := by
        have hlen := congrArg List.length (mapM_toHw hmap).2
        rw [List.length_map, List.length_map, infos.toList_length] at hlen
        exact hle.trans hlen.ge
      have hcount : countedByInt num.toUInt32 := by
        rw [countedByInt, hwide]
        exact decide_eq_true hnum
      have hcount' : countedByInt num'.toUInt32 := by
        rw [countedByInt, hn'']
        exact decide_eq_true (hle.trans_lt hnum)
      refine ⟨l, (0, (l.take num'.toNat).map HwAifInfo.store, num'), ?_, ?_, rfl, ?_, rfl⟩
      · rw [hreply, if_pos hcount, hmap]
        rfl
      · rw [hrec l, if_pos ⟨hn''.trans_le hle, hcount'⟩, hn'', firstOf_take hlen, hn']
        rfl
      · rw [if_pos rfl, if_pos rfl, List.map_map, List.map_take, List.map_take]
        exact congrArg (List.take num'.toNat) (mapM_toHw hmap).2

/-! ## The parts of a round trip -/

section

variable {j : Junk} {c : ApiCall} {a : c.Answer}

/-- All four steps are there. -/
theorem hw_carried_iff_of {m : HwRequest} {reply : HwReply} {s : c.Seen} (hm : hwSend j c = some m)
    (hreply : hwReply j c a = some reply) (hs : hwReceive c reply = some s) :
    c.Carried j a ↔ hwHandle j m = some (.call c.cleared) ∧ c.Agree (c.outputs s) (c.outputs (c.see a)) := by
  constructor
  · rintro ⟨m', reply', s', hm', hcall, hreply', hs', hout⟩
    obtain rfl := Option.some.inj (hm.symm.trans hm')
    obtain rfl := Option.some.inj (hreply.symm.trans hreply')
    obtain rfl := Option.some.inj (hs.symm.trans hs')
    exact ⟨hcall, hout⟩
  · rintro ⟨hcall, hout⟩
    exact ⟨m, reply, s, hm, hcall, hreply, hs, hout⟩

/-- The client sends nothing. -/
theorem not_hw_carried_of_send (h : hwSend j c = none) : ¬ c.Carried j a := by
  rintro ⟨m, -, -, hm, -⟩
  rw [h] at hm
  cases hm

/-- The handler does not call the service, or calls it with something else. -/
theorem not_hw_carried_of_handle {m : HwRequest} (hm : hwSend j c = some m)
    (h : hwHandle j m ≠ some (.call c.cleared)) : ¬ c.Carried j a := by
  rintro ⟨m', -, -, hm', hcall, -⟩
  obtain rfl := Option.some.inj (hm.symm.trans hm')
  exact h hcall

/-- The handler does not survive its reply. -/
theorem not_hw_carried_of_reply (h : hwReply j c a = none) : ¬ c.Carried j a := by
  rintro ⟨-, reply, -, -, -, hreply, -⟩
  rw [h] at hreply
  cases hreply

end

section

variable (j : Junk)

theorem hw_carried_setMetadata {of : MetadataOf} {size : UInt32} {metadata : List.Vector UInt8 size.toNat}
    (ret : Int32) :
    (ApiCall.setMetadata of size metadata).Carried j ret ↔ (of.readsNumGkv → 4 ≤ size.toNat) := by
  refine (hw_carried_iff_of (s := ret) rfl rfl rfl).trans ((and_iff_left rfl).trans ?_)
  have hlen : size.toNat ≤ metadata.toList.length := metadata.toList_length.ge
  by_cases h : of.readsNumGkv ∧ size.toNat < 4
  · refine iff_of_false ?_ fun hall => (hall h.1).not_gt h.2
    rw [hwHandle, if_pos ⟨h.1, hlen, h.2⟩]
    exact fun heq => Option.some_ne_none _ heq.symm
  · have hguard : ¬ (of.readsNumGkv ∧ size.toNat ≤ metadata.toList.length ∧ size.toNat < 4) :=
      fun hall => h ⟨hall.1, hall.2.2⟩
    rw [hwHandle, if_neg hguard, handleSized_toList]
    exact iff_of_true rfl fun hg => Nat.not_lt.1 fun hlt => h ⟨hg, hlt⟩

theorem hw_carried_setParams {of : ParamsOf} {size : UInt64} {payload : List.Vector UInt8 size.toNat} (ret : Int32) :
    (ApiCall.setParams of size payload).Carried j ret ↔ size.toNat < 2 ^ 32 := by
  refine (hw_carried_iff_of (s := ret) rfl rfl rfl).trans ((and_iff_left rfl).trans ?_)
  refine (handleSized_iff (f := .setParams of) (fun _ _ _ _ h => (ApiCall.setParams.inj h).2.1) payload ?_).trans
    (toUInt64_toUInt32_eq_iff size)
  intro h
  rw [← UInt32.toNat_toUInt64, h, List.take_of_length_le payload.toList_length.le]

theorem hw_carried_sessionGetParams {sessionId : UInt32} {size : UInt64} {payload : List.Vector UInt8 size.toNat}
    (ret : Int32) (payload' : List.Vector UInt8 size.toNat) :
    (ApiCall.sessionGetParams sessionId size payload).Carried j (ret, payload') ↔ size.toNat < 2 ^ 32 := by
  by_cases hsize : size.toNat < 2 ^ 32
  swap
  · exact iff_of_false (not_hw_carried_of_send (if_neg hsize)) hsize
  have hm : hwSend j (.sessionGetParams sessionId size payload) =
      some (.sessionGetParams sessionId size.toUInt32 payload.toList) := if_pos hsize
  have hcall : hwHandle j (.sessionGetParams sessionId size.toUInt32 payload.toList) =
      some (.call (.sessionGetParams sessionId size payload)) :=
    (handleSized_iff (f := .sessionGetParams sessionId) (fun _ _ _ _ h => (ApiCall.sessionGetParams.inj h).2.1)
      payload fun _ => rfl).2 ((toUInt64_toUInt32_eq_iff size).2 hsize)
  by_cases hret : ret = 0
  · have hs : hwReceive (.sessionGetParams sessionId size payload) (.payload ret payload'.toList) =
        some (ret, payload'.toList) := by
      simp [hwReceive, hret]
    exact iff_of_true ((hw_carried_iff_of hm (by simp [hwReply, hret]) hs).2 ⟨hcall, rfl⟩) hsize
  · have hs : hwReceive (.sessionGetParams sessionId size payload) (.payload ret (j.vec size.toNat).toList) =
        some (ret, []) := if_neg hret
    refine iff_of_true ((hw_carried_iff_of hm (by simp [hwReply, hret]) hs).2 ⟨hcall, ?_⟩) hsize
    simp [ApiCall.Agree, ApiCall.outputs, ApiCall.see, hret]

theorem hw_carried_getTagModuleInfo {sessionId aifId : UInt32} {payload : Bool} {size : UInt64} (ret : Int32)
    (buff : List.Vector UInt8 (given payload size)) (size' : UInt64) :
    (ApiCall.sessionAifGetTagModuleInfo sessionId aifId payload size).Carried j (ret, buff, size') ↔
      size.toNat < 2 ^ 32 ∧ payload = decide (size ≠ 0) ∧ size'.toNat < 2 ^ 32 ∧
        (payload → size'.toNat ≤ size.toNat) ∧ (ret = -Ret.ENOMEM → size' = size) := by
  have hm : hwSend j (.sessionAifGetTagModuleInfo sessionId aifId payload size) =
      some (.sessionAifGetTagModuleInfo sessionId aifId size.toUInt32) := rfl
  have hcall : hwHandle j (.sessionAifGetTagModuleInfo sessionId aifId size.toUInt32) =
      some (.call (.sessionAifGetTagModuleInfo sessionId aifId payload size)) ↔
        size.toNat < 2 ^ 32 ∧ payload = decide (size ≠ 0) := by
    exact counted_call_iff fun _ _ _ _ h => (ApiCall.sessionAifGetTagModuleInfo.inj h).2.2
  by_cases hlt : size'.toNat < 2 ^ 32
  swap
  · exact iff_of_false (not_hw_carried_of_reply (if_pos (Nat.not_lt.1 hlt))) fun h => hlt h.2.2.1
  have hsize' : size'.toUInt32.toUInt64 = size' := (toUInt64_toUInt32_eq_iff size').2 hlt
  have hwide : size'.toUInt32.toNat = size'.toNat := by rw [← UInt32.toNat_toUInt64, hsize']
  have hroom : ¬ 2 ^ 32 ≤ size'.toNat := Nat.not_le.2 hlt
  rw [← and_assoc, and_iff_right (a := size'.toNat < 2 ^ 32) hlt]
  cases payload with
  | false =>
    have hnone : buff.toList = [] := List.length_eq_zero_iff.1 buff.toList_length
    have hreply : hwReply j (.sessionAifGetTagModuleInfo sessionId aifId false size) (ret, buff, size') =
        some (.sized ret (j.vec size'.toNat).toList size'.toUInt32) := (if_neg hroom).trans (if_neg Bool.false_ne_true)
    have hs : hwReceive (.sessionAifGetTagModuleInfo sessionId aifId false size)
        (.sized ret (j.vec size'.toNat).toList size'.toUInt32) =
        some (ret, [], if ret = -Ret.ENOMEM then size else size'.toUInt32.toUInt64) := by
      by_cases hret : ret = -Ret.ENOMEM <;> simp [hwReceive, hret]
    refine (hw_carried_iff_of hm hreply hs).trans (and_congr hcall ?_)
    rw [and_iff_right fun h => absurd h Bool.false_ne_true]
    have hout : (if ret = -Ret.ENOMEM then size else size'.toUInt32.toUInt64) = size' ↔ (ret = -Ret.ENOMEM → size' = size) := by
      rw [hsize']
      split
      · next h => exact eq_comm.trans ⟨fun heq _ => heq, fun himp => himp h⟩
      · next h => exact iff_of_true rfl fun h' => absurd h' h
    rw [← hout]
    simp [ApiCall.Agree, ApiCall.outputs, ApiCall.see, hnone]
  | true =>
    have hlen : buff.toList.length = size.toNat := buff.toList_length
    have hreply : hwReply j (.sessionAifGetTagModuleInfo sessionId aifId true size) (ret, buff, size') =
        (firstOf size'.toNat buff.toList).map fun v => .sized ret v.toList size'.toUInt32 :=
      (if_neg hroom).trans (if_pos rfl)
    by_cases hle : size'.toNat ≤ size.toNat
    swap
    · have hnone : hwReply j (.sessionAifGetTagModuleInfo sessionId aifId true size) (ret, buff, size') = none := by
        rw [hreply, firstOf_eq_none (hlen.trans_lt (Nat.not_le.1 hle))]
        rfl
      exact iff_of_false (not_hw_carried_of_reply hnone) fun h => hle (h.2.1 rfl)
    rw [firstOf_take (hle.trans hlen.ge)] at hreply
    rw [and_iff_right (a := true = true → _) fun _ => hle]
    by_cases hret : ret = -Ret.ENOMEM
    · have hs : hwReceive (.sessionAifGetTagModuleInfo sessionId aifId true size)
          (.sized ret (buff.toList.take size'.toNat) size'.toUInt32) = some (ret, [], size) := if_pos hret
      refine (hw_carried_iff_of hm hreply hs).trans (and_congr hcall ?_)
      have hne : (-Ret.ENOMEM : Int32) ≠ 0 := by decide
      simp [ApiCall.Agree, ApiCall.outputs, ApiCall.see, hret, hne, eq_comm (a := size)]
    · have htake : size'.toUInt32.toNat ≤ (buff.toList.take size'.toNat).length := by
        rw [hwide, List.length_take_of_le (hle.trans hlen.ge)]
      have hs : hwReceive (.sessionAifGetTagModuleInfo sessionId aifId true size)
          (.sized ret (buff.toList.take size'.toNat) size'.toUInt32) =
          some (ret, buff.toList.take size'.toNat, size') := by
        have hrec : hwReceive (.sessionAifGetTagModuleInfo sessionId aifId true size)
            (.sized ret (buff.toList.take size'.toNat) size'.toUInt32) =
            if size'.toUInt32.toNat ≤ size.toNat then (firstOf size'.toUInt32.toNat (buff.toList.take size'.toNat)).map
              fun v => (ret, v.toList, size'.toUInt32.toUInt64) else none := (if_neg hret).trans (if_pos rfl)
        rw [hrec, if_pos (hwide.trans_le hle), firstOf_take htake, hsize']
        show some (ret, (buff.toList.take size'.toNat).take size'.toUInt32.toNat, size') = _
        rw [hwide, List.take_take, min_self]
      exact (hw_carried_iff_of hm hreply hs).trans (and_congr hcall (iff_of_true rfl fun h => absurd h hret))

theorem hw_carried_getAifInfoList {list : Bool} {num : UInt64} (ret : Int32) (infos : List.Vector AifInfo (given list num))
    (num' : UInt64) :
    (ApiCall.getAifInfoList list num).Carried j (ret, infos, num') ↔
      (num.toNat < 2 ^ 31 ∧ list = decide (num ≠ 0)) ∧ ret = 0 ∧ num'.toNat < 2 ^ 32 ∧
        (list → num'.toNat ≤ num.toNat ∧ ∀ a ∈ infos.toList, 0 ∈ a.aifName.toList) := by
  have hcall : hwHandle j (.getAifInfoList num.toUInt32) = some (.call (.getAifInfoList list num)) ↔
      num.toNat < 2 ^ 32 ∧ list = decide (num ≠ 0) :=
    counted_call_iff fun _ _ _ _ h => ApiCall.getAifInfoList.inj h
  constructor
  · rintro ⟨m, reply, s, hm, hc, hreply, hs, hout⟩
    obtain rfl := Option.some.inj hm
    obtain ⟨hnum, hlist⟩ := hcall.1 hc
    obtain ⟨l, rfl⟩ := listReply_eq hreply
    obtain ⟨hret, hn, hall⟩ := list_returns_iff hnum |>.1 ⟨l, s, hreply, hs, hout⟩
    refine ⟨⟨?_, hlist⟩, hret, hn, fun h => (hall h).2⟩
    by_cases h : list = true
    · exact (hall h).1
    · rw [hlist, decide_eq_true_eq, not_not] at h
      rw [h]
      decide
  · rintro ⟨⟨hnum, hlist⟩, hret, hn, hall⟩
    have hwide : num.toNat < 2 ^ 32 := by omega
    obtain ⟨l, s, hreply, hs, hout⟩ := (list_returns_iff hwide).2 ⟨hret, hn, fun h => ⟨hnum, hall h⟩⟩
    exact ⟨_, _, s, rfl, hcall.2 ⟨hwide, hlist⟩, hreply, hs, hout⟩

/-- The groups go the same way. -/
theorem hw_carried_group_iff {list : Bool} {num : UInt64} (a : (ApiCall.getAifInfoList list num).Answer) :
    (ApiCall.getGroupAifInfoList list num).Carried j a ↔ (ApiCall.getAifInfoList list num).Carried j a := by
  have hgroup : hwHandle j (.getGroupAifInfoList num.toUInt32) = some (.call (.getGroupAifInfoList list num)) ↔
      num.toNat < 2 ^ 32 ∧ list = decide (num ≠ 0) :=
    counted_call_iff fun _ _ _ _ h => ApiCall.getGroupAifInfoList.inj h
  have hcall : hwHandle j (.getAifInfoList num.toUInt32) = some (.call (.getAifInfoList list num)) ↔
      num.toNat < 2 ^ 32 ∧ list = decide (num ≠ 0) :=
    counted_call_iff fun _ _ _ _ h => ApiCall.getAifInfoList.inj h
  constructor
  · rintro ⟨m, reply, s, hm, hc, hrest⟩
    obtain rfl := Option.some.inj hm
    obtain ⟨hreply, hs, hout⟩ := hrest
    obtain ⟨l, rfl⟩ := listReply_eq hreply
    exact ⟨_, _, s, rfl, hcall.2 (hgroup.1 hc), hreply, hs, hout⟩
  · rintro ⟨m, reply, s, hm, hc, hrest⟩
    obtain rfl := Option.some.inj hm
    obtain ⟨hreply, hs, hout⟩ := hrest
    obtain ⟨l, rfl⟩ := listReply_eq hreply
    exact ⟨_, _, s, rfl, hgroup.2 (hcall.1 hc), hreply, hs, hout⟩

theorem hw_carried_sessionAifSetCal {sessionId aifId : UInt32} {cfg : CalConfig} (ret : Int32) :
    (ApiCall.sessionAifSetCal sessionId aifId cfg).Carried j ret ↔ cfg.numCkvs.toNat ≤ MAX_KVPAIR := by
  by_cases h : countedByInt cfg.numCkvs
  swap
  · exact iff_of_false (not_hw_carried_of_send (if_neg h)) fun hle => h (countedByInt_of_le hle)
  have hm : hwSend j (.sessionAifSetCal sessionId aifId cfg) = some _ := if_pos h
  refine (hw_carried_iff_of (s := ret) hm rfl rfl).trans ((and_iff_left rfl).trans ?_)
  exact handleKv_iff cfg.kv fun kv => .sessionAifSetCal sessionId aifId ⟨cfg.numCkvs, kv⟩

theorem hw_carried_setParamsWithTag {sessionId aifId : UInt32} {cfg : TagConfig} (ret : Int32) :
    (ApiCall.setParamsWithTag sessionId aifId cfg).Carried j ret ↔ cfg.numTkvs.toNat ≤ MAX_KVPAIR := by
  by_cases h : countedByInt cfg.numTkvs
  swap
  · exact iff_of_false (not_hw_carried_of_send (if_neg h)) fun hle => h (countedByInt_of_le hle)
  have hm : hwSend j (.setParamsWithTag sessionId aifId cfg) = some _ := if_pos h
  refine (hw_carried_iff_of (s := ret) hm rfl rfl).trans ((and_iff_left rfl).trans ?_)
  exact handleKv_iff cfg.kv fun kv => .setParamsWithTag sessionId aifId ⟨cfg.tag, cfg.numTkvs, kv⟩

theorem hw_carried_registerForEvents {sessionId : UInt32} {cfg : EventRegCfg} (ret : Int32) :
    (ApiCall.sessionRegisterForEvents sessionId cfg).Carried j ret ↔ countedByInt cfg.payloadSize := by
  by_cases h : countedByInt cfg.payloadSize
  swap
  · exact iff_of_false (not_hw_carried_of_send (if_neg h)) h
  have hm : hwSend j (.sessionRegisterForEvents sessionId cfg) = some _ := if_pos h
  refine (hw_carried_iff_of (s := ret) hm rfl rfl).trans ((and_iff_left rfl).trans (iff_of_true ?_ h))
  have hlen : ¬ cfg.payload.toList.length ≠ cfg.payloadSize.toNat := not_not.2 cfg.payload.toList_length
  rw [hwHandle, if_neg hlen, if_pos h, firstOf_toList]
  rfl

theorem hw_carried_sessionSetConfig {handle : UInt64} {session : SessionConfig} {media : MediaConfig}
    {buffer : BufferConfig} (ret : Int32) :
    (ApiCall.sessionSetConfig handle session media buffer).Carried j ret ↔
      buffer.size.toNat < 2 ^ 32 ∧ buffer.maxMetadataSize = 0 := by
  refine (hw_carried_iff_of (s := ret) rfl rfl rfl).trans ((and_iff_left rfl).trans ?_)
  obtain ⟨count, size, maxMetadataSize⟩ := buffer
  simp [hwHandle, HwBufferConfig.toApi, BufferConfig.toHw, ApiCall.cleared, eq_comm (b := maxMetadataSize)]

theorem hw_carried_nonTunnel {handle : UInt64} {session : SessionConfig} {inMedia outMedia : MediaConfig}
    {inBuffer outBuffer : BufferConfig} (ret : Int32) :
    (ApiCall.sessionSetNonTunnelModeConfig handle session inMedia outMedia inBuffer outBuffer).Carried j ret ↔
      (inBuffer.size.toNat < 2 ^ 32 ∧ inBuffer.maxMetadataSize.toNat < 2 ^ 32) ∧
        outBuffer.size.toNat < 2 ^ 32 ∧ outBuffer.maxMetadataSize.toNat < 2 ^ 32 := by
  refine (hw_carried_iff_of (s := ret) rfl rfl rfl).trans ((and_iff_left rfl).trans ?_)
  obtain ⟨count, size, maxMetadataSize⟩ := inBuffer
  obtain ⟨count', size', maxMetadataSize'⟩ := outBuffer
  simp [hwHandle, HwBufferConfig.toApi, BufferConfig.toHw, ApiCall.cleared]

theorem hw_carried_sessionRead {handle count : UInt64} (ret : Int32) (buff : List.Vector UInt8 count.toNat)
    (count' : UInt64) :
    (ApiCall.sessionRead handle count).Carried j (ret, buff, count') ↔
      handle ≠ 0 ∧ count.toNat < 2 ^ 32 ∧ sizeReturns ret count count' := by
  by_cases h0 : handle = 0
  · exact iff_of_false (not_hw_carried_of_send (if_pos h0)) fun h => h.1 h0
  have hcall : hwHandle j (.sessionRead handle count.toUInt32) = some (.call (.sessionRead handle count)) ↔
      count.toNat < 2 ^ 32 := by
    simp [hwHandle]
  have hm : hwSend j (.sessionRead handle count) = some (.sessionRead handle count.toUInt32) := if_neg h0
  rw [and_iff_right h0, ← size_eq_iff]
  by_cases hret : ret = -Ret.ENOMEM
  · have hs : hwReceive (.sessionRead handle count) (.sized ret buff.toList count'.toUInt32) =
        some (ret, [], count) := if_pos hret
    refine (hw_carried_iff_of hm rfl hs).trans (and_congr hcall ?_)
    have hne : (-Ret.ENOMEM : Int32) ≠ 0 := by decide
    simp [ApiCall.Agree, ApiCall.outputs, ApiCall.see, hret, hne]
  · have hs : hwReceive (.sessionRead handle count) (.sized ret buff.toList count'.toUInt32) =
        some (ret, buff.toList.take count'.toUInt32.toNat, count'.toUInt32.toUInt64) := by
      simp [hwReceive, hret]
    refine (hw_carried_iff_of hm rfl hs).trans (and_congr hcall ?_)
    rw [if_neg hret]
    constructor
    · exact fun h => congrArg (fun s : Int32 × Bytes × UInt64 => s.2.2) h
    · intro h
      rw [← UInt32.toNat_toUInt64, h]
      rfl

theorem hw_carried_sessionWrite {handle count : UInt64} {buff : List.Vector UInt8 count.toNat} (ret : Int32)
    (count' : UInt64) :
    (ApiCall.sessionWrite handle count buff).Carried j (ret, count') ↔
      handle ≠ 0 ∧ count.toNat < 2 ^ 32 ∧ sizeReturns ret count count' := by
  by_cases h0 : handle = 0
  · exact iff_of_false (not_hw_carried_of_send (if_pos h0)) fun h => h.1 h0
  by_cases hcount : count.toNat < 2 ^ 32
  swap
  · exact iff_of_false (not_hw_carried_of_send ((if_neg h0).trans (if_neg hcount))) fun h => hcount h.2.1
  have hm : hwSend j (.sessionWrite handle count buff) = some (.sessionWrite handle buff.toList count.toUInt32) :=
    (if_neg h0).trans (if_pos hcount)
  have hcall : hwHandle j (.sessionWrite handle buff.toList count.toUInt32) =
      some (.call (.sessionWrite handle count buff)) :=
    (handleSized_iff (f := .sessionWrite handle) (fun _ _ _ _ h => (ApiCall.sessionWrite.inj h).2.1) buff
      fun _ => rfl).2 ((toUInt64_toUInt32_eq_iff count).2 hcount)
  refine (hw_carried_iff_of hm rfl rfl).trans ((and_iff_right hcall).trans ?_)
  rw [and_iff_right h0, and_iff_right hcount, ← size_eq_iff]
  exact Prod.mk_right_inj

/-- A read is handed over if its buffers are there, and nothing else was set. -/
theorem hwHandle_read_iff (handle : UInt64) (buf : AgmBuff) (captured : UInt32) :
    hwHandle j (.sessionReadWithMetadata handle
      [{ timestamp := j.sent.timestamp, flags := j.sent.flags, size := buf.size, buffer := [],
         metadataSize := buf.metadataSize, metadata := [], allocHandle := [buf.allocHandle, buf.allocHandle],
         allocSize := buf.allocSize, offset := buf.offset }] captured) =
        some (.call (.sessionReadWithMetadata handle buf.cleared captured)) ↔
      buf.timestamp = 0 ∧ buf.flags = 0 ∧ buf.addr.isSome ∧ buf.metadata.isSome := by
  obtain ⟨timestamp, flags, size, addr, metadataSize, metadata, allocHandle, allocSize, offset⟩ := buf
  have htoRead : hwHandle j (.sessionReadWithMetadata handle
      [{ timestamp := j.sent.timestamp, flags := j.sent.flags, size := size, buffer := [],
         metadataSize := metadataSize, metadata := [], allocHandle := [allocHandle, allocHandle],
         allocSize := allocSize, offset := offset }] captured) =
      some (.call (.sessionReadWithMetadata handle ⟨0, 0, size, some (List.Vector.replicate _ 0), metadataSize,
        some (List.Vector.replicate _ 0), allocHandle, allocSize, offset⟩ captured)) := rfl
  rw [htoRead]
  cases addr with
  | none => exact iff_of_false (fun h => by simp [AgmBuff.cleared] at h) fun h => Bool.false_ne_true h.2.2.1
  | some v =>
    cases metadata with
    | none => exact iff_of_false (fun h => by simp [AgmBuff.cleared] at h) fun h => Bool.false_ne_true h.2.2.2
    | some w => simp [AgmBuff.cleared, eq_comm]

/-- What the client makes of a buffer that is answered is that buffer if only what the service fills has changed. -/
theorem readReceive_iff {j : Junk} {buf b : AgmBuff} (ret : Int32) (captured : UInt32) (haddr : buf.addr.isSome)
    (hmeta : buf.metadata.isSome) :
    (∃ out, ¬ (buf.size < b.size ∨ buf.metadataSize < b.metadataSize) ∧ b.toAnswer j = some out ∧
      readReceive buf ret out captured = some (ret, b, captured)) ↔ buf.Filled j.answered.flags b := by
  constructor
  · rintro ⟨out, hroom, hanswer, hrec⟩
    obtain ⟨va, hva, hanswer⟩ := Option.bind_eq_some_iff.1 hanswer
    obtain ⟨vm, hvm, hanswer⟩ := Option.bind_eq_some_iff.1 hanswer
    obtain rfl := Option.some.inj hanswer
    obtain ⟨addr, -, hrec⟩ := Option.bind_eq_some_iff.1 hrec
    rw [if_neg (not_or.1 hroom).1] at hrec
    obtain ⟨metadata, -, hrec⟩ := Option.bind_eq_some_iff.1 hrec
    have hb := congrArg (fun s : Int32 × AgmBuff × UInt32 => s.2.1) (Option.some.inj hrec).symm
    have hflags : b.flags = j.answered.flags := congrArg AgmBuff.flags hb
    have hsize : b.size = buf.size := (congrArg AgmBuff.size hb :)
    have hmsize : b.metadataSize = buf.metadataSize := (congrArg AgmBuff.metadataSize hb :)
    have halloc : b.allocHandle = buf.allocHandle := (congrArg AgmBuff.allocHandle hb :)
    have hallocSize : b.allocSize = buf.allocSize := (congrArg AgmBuff.allocSize hb :)
    have hoffset : b.offset = buf.offset := (congrArg AgmBuff.offset hb :)
    exact ⟨hflags, hsize, Option.isSome_iff_exists.2 ⟨va, hva⟩, hmsize, Option.isSome_iff_exists.2 ⟨vm, hvm⟩, halloc,
      hallocSize, hoffset⟩
  · intro h
    obtain ⟨timestamp, flags, size, addr, metadataSize, metadata, allocHandle, allocSize, offset⟩ := buf
    obtain ⟨timestamp', flags', size', _ | va, metadataSize', _ | vm, allocHandle', allocSize', offset'⟩ := b
    · exact absurd h.addr Bool.false_ne_true
    · exact absurd h.addr Bool.false_ne_true
    · exact absurd h.metadata Bool.false_ne_true
    obtain rfl : flags' = j.answered.flags := h.flags
    obtain rfl : size' = size := h.size
    obtain rfl : metadataSize' = metadataSize := h.metadataSize
    obtain rfl : allocHandle' = allocHandle := h.alloc.1
    obtain rfl : allocSize' = allocSize := h.alloc.2.1
    obtain rfl : offset' = offset := h.alloc.2.2
    obtain ⟨v, rfl⟩ : ∃ v, metadata = some v := Option.isSome_iff_exists.1 hmeta
    have haddr' : AgmBuff.readAddr ⟨timestamp, flags, size', addr, metadataSize', some v, allocHandle', allocSize',
        offset'⟩ va.toList = some (some va) := by
      rw [AgmBuff.readAddr, if_pos haddr, firstOf_toList]
      rfl
    have hmeta' : AgmBuff.readMetadata ⟨timestamp, flags, size', addr, metadataSize', some v, allocHandle', allocSize',
        offset'⟩ (if metadataSize' = 0 then j.answered.metadataSize else metadataSize') vm.toList = some (some vm) := by
      by_cases h0 : metadataSize' = 0
      · subst h0
        have hnil : v = vm := Subtype.ext ((List.length_eq_zero_iff.1 v.2).trans (List.length_eq_zero_iff.1 vm.2).symm)
        rw [hnil]
        rfl
      · have hpos : 0 < metadataSize' := UInt32.pos_iff_ne_zero.2 h0
        rw [AgmBuff.readMetadata, if_pos ⟨hpos, rfl⟩, if_neg h0, if_pos (UInt32.le_refl _), firstOf_toList]
        exact congrArg (fun w => some (some w)) (overwrite_toList v vm)
    refine ⟨_, not_or.2 ⟨UInt32.lt_irrefl _, UInt32.lt_irrefl _⟩, rfl, ?_⟩
    rw [readReceive, haddr', Option.bind_eq_bind, Option.bind_some, if_neg (UInt32.lt_irrefl _), hmeta']
    rfl

theorem hw_carried_readWithMetadata {handle : UInt64} {buf : AgmBuff} {captured : UInt32} (ret : Int32) (b : AgmBuff)
    (captured' : UInt32) :
    (ApiCall.sessionReadWithMetadata handle buf captured).Carried j (ret, b, captured') ↔
      handle ≠ 0 ∧ (buf.timestamp = 0 ∧ buf.flags = 0 ∧ buf.addr.isSome ∧ buf.metadata.isSome) ∧
        if 0 < ret then buf.Filled j.answered.flags b else b = buf ∧ captured' = captured := by
  by_cases h0 : handle = 0
  · exact iff_of_false (not_hw_carried_of_send (if_pos h0)) fun h => h.1 h0
  have hm : hwSend j (.sessionReadWithMetadata handle buf captured) = some _ := if_neg h0
  have hcall := hwHandle_read_iff j handle buf captured
  rw [and_iff_right h0]
  by_cases hbuf : buf.timestamp = 0 ∧ buf.flags = 0 ∧ buf.addr.isSome ∧ buf.metadata.isSome
  swap
  · exact iff_of_false (not_hw_carried_of_handle hm fun heq => hbuf (hcall.1 heq)) fun h => hbuf h.1
  rw [and_iff_right hbuf]
  by_cases hret : 0 < ret
  · have hnle : ¬ ret ≤ 0 := Int32.not_le.2 hret
    rw [if_pos hret, ← readReceive_iff ret captured' hbuf.2.2.1 hbuf.2.2.2]
    constructor
    · rintro ⟨m', reply, s, -, -, hreply, hs, hout⟩
      have hreply' := (if_neg hnle).symm.trans hreply
      obtain ⟨hroom, hreply'⟩ := Option.ite_none_left_eq_some.1 hreply'
      obtain ⟨out, hanswer, rfl⟩ := Option.map_eq_some_iff.1 hreply'
      exact ⟨out, hroom, hanswer, ((if_pos hret).symm.trans hs).trans (congrArg some hout)⟩
    · rintro ⟨out, hroom, hanswer, hrec⟩
      have hreply : hwReply j (.sessionReadWithMetadata handle buf captured) (ret, b, captured') =
          some (.buff ret out captured') := by
        refine (if_neg hnle).trans ((if_neg hroom).trans ?_)
        rw [hanswer]
        rfl
      have hs : hwReceive (.sessionReadWithMetadata handle buf captured) (.buff ret out captured') =
          some (ret, b, captured') := (if_pos hret).trans hrec
      exact (hw_carried_iff_of hm hreply hs).2 ⟨hcall.2 hbuf, rfl⟩
  · have hle : ret ≤ 0 := Int32.not_lt.1 hret
    have hreply : hwReply j (.sessionReadWithMetadata handle buf captured) (ret, b, captured') =
        some (.buff ret j.buff captured') := if_pos hle
    have hs : hwReceive (.sessionReadWithMetadata handle buf captured) (.buff ret j.buff captured') =
        some (ret, buf, captured) := if_neg hret
    rw [if_neg hret]
    refine (hw_carried_iff_of hm hreply hs).trans ((and_iff_right (hcall.2 hbuf)).trans ?_)
    refine (Prod.mk_right_inj (a := ret)).trans (Prod.mk_inj.trans (and_congr eq_comm eq_comm))

theorem hwHandle_write {handle consumed : UInt64} {b : HwBuff} {buf : AgmBuff}
    (hlen : b.metadataSize.toNat ≤ b.metadata.length) (hwrite : b.toWrite j = some buf) :
    hwHandle j (.sessionWriteWithMetadata handle [b] consumed) =
      some (.call (.sessionWriteWithMetadata handle buf consumed)) := by
  rw [hwHandle, List.head?_cons, Option.bind_eq_bind, Option.bind_some, if_neg hlen.not_gt, hwrite]
  rfl

/-- A write without metadata. -/
theorem hwHandle_write_bare (handle : UInt64) {size : UInt32} (addr : List.Vector UInt8 size.toNat)
    (timestamp consumed : UInt64) (flags metadataSize allocHandle allocSize offset : UInt32) :
    hwHandle j (.sessionWriteWithMetadata handle [⟨timestamp, flags, size, addr.toList, metadataSize, [],
        [allocHandle, allocHandle], allocSize, offset⟩] consumed) =
      if metadataSize = 0 then some (.call (.sessionWriteWithMetadata handle ⟨timestamp, flags, size, some addr,
        j.stack.metadataSize, none, allocHandle, allocSize, offset⟩ consumed)) else some (.refused (-Ret.EINVAL)) := by
  split
  · next h =>
    subst h
    have hwrite : HwBuff.toWrite j ⟨timestamp, flags, size, addr.toList, 0, [], [allocHandle, allocHandle], allocSize,
        offset⟩ = some ⟨timestamp, flags, size, some addr, j.stack.metadataSize, none, allocHandle, allocSize, offset⟩ := by
      rw [HwBuff.toWrite, firstOf_toList]
      rfl
    exact hwHandle_write j le_rfl hwrite
  · next h =>
    have hpos : 0 < metadataSize.toNat := Nat.pos_of_ne_zero fun h0 => h (UInt32.toNat_inj.1 h0)
    simp [hwHandle, hpos]

/-- A write is handed over with its buffer, and with its metadata or what happens to be in its place. -/
theorem hwHandle_write_iff (handle : UInt64) (buf : AgmBuff) (consumed : UInt64) :
    hwHandle j (.sessionWriteWithMetadata handle [buf.toHw j] consumed) =
        some (.call (.sessionWriteWithMetadata handle buf consumed)) ↔
      buf.addr.isSome ∧ if buf.metadata.isSome then buf.metadataSize ≠ 0
        else j.sent.metadataSize = 0 ∧ buf.metadataSize = j.stack.metadataSize := by
  obtain ⟨timestamp, flags, size, addr, metadataSize, metadata, allocHandle, allocSize, offset⟩ := buf
  by_cases hfull : 0 < metadataSize ∧ metadata.isSome
  · obtain ⟨hpos, hsome⟩ := hfull
    obtain ⟨v, rfl⟩ : ∃ v, metadata = some v := Option.isSome_iff_exists.1 hsome
    have hne : metadataSize ≠ 0 := UInt32.pos_iff_ne_zero.1 hpos
    have hsend : AgmBuff.toHw j ⟨timestamp, flags, size, addr, metadataSize, some v, allocHandle, allocSize, offset⟩ =
        ⟨timestamp, flags, size, (addr.getD (j.vec size.toNat)).toList, metadataSize, v.toList,
          [allocHandle, allocHandle], allocSize, offset⟩ := by
      simp [AgmBuff.toHw, hpos]
    have hcall : hwHandle j (.sessionWriteWithMetadata handle
        [AgmBuff.toHw j ⟨timestamp, flags, size, addr, metadataSize, some v, allocHandle, allocSize, offset⟩] consumed) =
        some (.call (.sessionWriteWithMetadata handle ⟨timestamp, flags, size, some (addr.getD (j.vec size.toNat)),
          metadataSize, some v, allocHandle, allocSize, offset⟩ consumed)) := by
      rw [hsend]
      refine hwHandle_write j v.toList_length.ge ?_
      rw [HwBuff.toWrite, firstOf_toList, firstOf_toList]
      exact if_neg hne
    rw [hcall]
    cases addr <;> simp [hne]
  · have hsend : AgmBuff.toHw j ⟨timestamp, flags, size, addr, metadataSize, metadata, allocHandle, allocSize, offset⟩ =
        ⟨timestamp, flags, size, (addr.getD (j.vec size.toNat)).toList, j.sent.metadataSize, [],
          [allocHandle, allocHandle], allocSize, offset⟩ := by
      cases metadata with
      | none => simp [AgmBuff.toHw]
      | some v =>
        have h0 : ¬ 0 < metadataSize := fun h => hfull ⟨h, rfl⟩
        simp [AgmBuff.toHw, h0]
    rw [hsend, hwHandle_write_bare]
    by_cases hsent : j.sent.metadataSize = 0
    · rw [if_pos hsent]
      constructor
      · intro h
        have hbuf := (ApiCall.sessionWriteWithMetadata.inj (Handled.call.inj (Option.some.inj h))).2.1.symm
        have haddr := congrArg (fun b : AgmBuff => b.addr.isSome) hbuf
        have hnone : metadata = none :=
          Option.isNone_iff_eq_none.1 (congrArg (fun b : AgmBuff => b.metadata.isNone) hbuf)
        subst hnone
        exact ⟨haddr, hsent, congrArg AgmBuff.metadataSize hbuf⟩
      · rintro ⟨haddr, hmeta⟩
        obtain ⟨w, rfl⟩ : ∃ w, addr = some w := Option.isSome_iff_exists.1 haddr
        cases metadata with
        | none =>
          obtain rfl : metadataSize = j.stack.metadataSize := hmeta.2
          rfl
        | some v => exact absurd ⟨UInt32.pos_iff_ne_zero.2 hmeta, rfl⟩ hfull
    · rw [if_neg hsent]
      refine iff_of_false (fun h => Handled.noConfusion (Option.some.inj h)) fun h => ?_
      cases metadata with
      | none => exact hsent h.2.1
      | some v => exact hfull ⟨UInt32.pos_iff_ne_zero.2 h.2, rfl⟩

theorem hw_carried_writeWithMetadata {handle : UInt64} {buf : AgmBuff} {consumed : UInt64} (ret : Int32)
    (consumed' : UInt64) :
    (ApiCall.sessionWriteWithMetadata handle buf consumed).Carried j (ret, consumed') ↔
      buf.addr.isSome ∧ (if buf.metadata.isSome then buf.metadataSize ≠ 0
        else j.sent.metadataSize = 0 ∧ buf.metadataSize = j.stack.metadataSize) ∧ sizeReturns ret consumed consumed' := by
  refine (hw_carried_iff_of rfl rfl rfl).trans ((and_congr (hwHandle_write_iff j handle buf consumed) ?_).trans and_assoc)
  rw [← size_eq_iff]
  exact Prod.mk_right_inj

theorem hw_carried_datapathParams {sessionId : UInt32} {buf : AgmBuff} (ret : Int32) :
    (ApiCall.sessionWriteDatapathParams sessionId buf).Carried j ret ↔
      buf.size ≠ 0 ∧ buf.addr.isSome ∧ buf.unsetAs j.stack := by
  by_cases h : buf.size ≠ 0 ∧ buf.addr.isSome
  swap
  · exact iff_of_false (not_hw_carried_of_send (if_neg h)) fun hall => h ⟨hall.1, hall.2.1⟩
  have hm : hwSend j (.sessionWriteDatapathParams sessionId buf) = some _ := if_pos h
  refine (hw_carried_iff_of (s := ret) hm rfl rfl).trans ((and_iff_left rfl).trans ?_)
  rw [and_iff_right h.1, and_iff_right h.2]
  obtain ⟨timestamp, flags, size, _ | v, metadataSize, metadata, allocHandle, allocSize, offset⟩ := buf
  · exact absurd h.2 Bool.false_ne_true
  have hlen : ¬ (size.toNat ≠ v.toList.length ∨ size = 0) := not_or.2 ⟨not_not.2 v.toList_length.symm, h.1⟩
  have hcall : hwHandle j (.sessionWriteDatapathParams sessionId
      [{ AgmBuff.toHw j ⟨timestamp, flags, size, some v, metadataSize, metadata, allocHandle, allocSize, offset⟩ with
         metadataSize := j.sent.metadataSize, metadata := [], allocHandle := [], allocSize := j.sent.allocSize,
         offset := j.sent.offset }]) =
      some (.call (.sessionWriteDatapathParams sessionId ⟨timestamp, flags, size, some v, j.stack.metadataSize, none,
        j.stack.allocHandle, j.stack.allocSize, j.stack.offset⟩)) :=
    (if_neg hlen).trans (congrArg (Option.map _) (firstOf_toList v))
  rw [hcall]
  constructor
  · intro heq
    have hbuf := (ApiCall.sessionWriteDatapathParams.inj (Handled.call.inj (Option.some.inj heq))).2.symm
    have hnone := congrArg (fun b : AgmBuff => b.metadata.isNone) hbuf
    exact ⟨Option.isNone_iff_eq_none.1 hnone, congrArg AgmBuff.metadataSize hbuf, congrArg AgmBuff.allocHandle hbuf,
      congrArg AgmBuff.allocSize hbuf, congrArg AgmBuff.offset hbuf⟩
  · rintro ⟨hmeta, hsize, halloc, hallocSize, hoffset⟩
    obtain rfl : metadata = none := hmeta
    obtain rfl : metadataSize = j.stack.metadataSize := hsize
    obtain rfl : allocHandle = j.stack.allocHandle := halloc
    obtain rfl : allocSize = j.stack.allocSize := hallocSize
    obtain rfl : offset = j.stack.offset := hoffset
    rfl

theorem hw_carried_getHwProcessedBuffCnt {handle : UInt64} {dir : UInt32} (count : UInt64) :
    (ApiCall.getHwProcessedBuffCnt handle dir).Carried j count ↔ Signed32 count := by
  refine (hw_carried_iff_of (s := signExtend count.toUInt32) rfl rfl ?_).trans ((and_iff_right rfl).trans ?_)
  · rfl
  · exact signExtend_toUInt32_eq_iff count

theorem hw_carried_getBufInfo {sessionId flag : UInt32} (ret : Int32) (info : BufInfo) :
    (ApiCall.sessionGetBufInfo sessionId flag).Carried j (ret, info) ↔ (ret = 0 → flag &&& POS_BUF = 0) := by
  by_cases hret : ret = 0
  · have hreply : hwReply j (.sessionGetBufInfo sessionId flag) (ret, info) = some _ := if_pos hret
    have hs : hwReceive (.sessionGetBufInfo sessionId flag) (.bufInfo ret
        (if flag &&& DATA_BUF ≠ 0 then some (info.dataFd, info.dataSize) else none)
        (if flag &&& POS_BUF ≠ 0 then some (info.posFd, info.posSize) else none)) = some _ := if_pos hret
    refine (hw_carried_iff_of rfl hreply hs).trans ((and_iff_right rfl).trans ?_)
    by_cases hd : flag &&& DATA_BUF ≠ 0 <;> simp [ApiCall.Agree, ApiCall.outputs, ApiCall.see, hret, hd]
  · have hreply : hwReply j (.sessionGetBufInfo sessionId flag) (ret, info) = some (.bufInfo ret none none) :=
      if_neg hret
    have hs : hwReceive (.sessionGetBufInfo sessionId flag) (.bufInfo ret none none) = some (ret, none, none) :=
      if_neg hret
    refine iff_of_true ((hw_carried_iff_of rfl hreply hs).2 ⟨rfl, ?_⟩) fun h => absurd h hret
    simp [ApiCall.Agree, ApiCall.outputs, ApiCall.see, hret]

theorem hw_carried_getSessionTime {handle timestamp : UInt64} (ret : Int32) (timestamp' : UInt64) :
    (ApiCall.getSessionTime handle timestamp).Carried j (ret, timestamp') ↔ ret = -Ret.EINVAL := by
  refine (hw_carried_iff_of (s := (-Ret.EINVAL, timestamp')) rfl rfl rfl).trans ((and_iff_right rfl).trans ?_)
  exact Prod.mk_left_inj.trans eq_comm

end

/-- **The messages of the HwBinder carry a call over exactly if they have room for it.**  Whatever the service answers and
whatever is in memory that was not written, the handler calls the service with the arguments of the client, neither side
reads what is not there, and the client has the return value, the data and the sizes of the service, if and only if
`Whole` holds. -/
theorem hw_carried_iff (j : Junk) (c : ApiCall) (a : c.Answer) : c.Carried j a ↔ c.Whole j a := by
  cases c with
  | init => exact iff_of_false (not_hw_carried_of_send rfl) id
  | deinit => exact iff_of_false (not_hw_carried_of_send rfl) id
  | sessionRegisterCb sessionId cb event clientData => exact iff_of_false (not_hw_carried_of_send rfl) id
  | setMetadata of size metadata => exact hw_carried_setMetadata j a
  | setParams of size payload => exact hw_carried_setParams j a
  | sessionGetParams sessionId size payload => exact hw_carried_sessionGetParams j a.1 a.2
  | sessionAifGetTagModuleInfo sessionId aifId payload size => exact hw_carried_getTagModuleInfo j a.1 a.2.1 a.2.2
  | sessionAifSetCal sessionId aifId cfg => exact hw_carried_sessionAifSetCal j a
  | setParamsWithTag sessionId aifId cfg => exact hw_carried_setParamsWithTag j a
  | sessionRegisterForEvents sessionId cfg => exact hw_carried_registerForEvents j a
  | sessionSetConfig handle session media buffer => exact hw_carried_sessionSetConfig j a
  | sessionSetNonTunnelModeConfig handle session inMedia outMedia inBuffer outBuffer => exact hw_carried_nonTunnel j a
  | sessionRead handle count => exact hw_carried_sessionRead j a.1 a.2.1 a.2.2
  | sessionWrite handle count buff => exact hw_carried_sessionWrite j a.1 a.2
  | sessionReadWithMetadata handle buf captured => exact hw_carried_readWithMetadata j a.1 a.2.1 a.2.2
  | sessionWriteWithMetadata handle buf consumed => exact hw_carried_writeWithMetadata j a.1 a.2
  | sessionWriteDatapathParams sessionId buf => exact hw_carried_datapathParams j a
  | getHwProcessedBuffCnt handle dir => exact hw_carried_getHwProcessedBuffCnt j a
  | getAifInfoList list num => exact hw_carried_getAifInfoList j a.1 a.2.1 a.2.2
  | getGroupAifInfoList list num => exact (hw_carried_group_iff j a).trans (hw_carried_getAifInfoList j a.1 a.2.1 a.2.2)
  | getSessionTime handle timestamp => exact hw_carried_getSessionTime j a.1 a.2
  | sessionGetBufInfo sessionId flag => exact hw_carried_getBufInfo j a.1 a.2
  | _ => exact iff_of_true ⟨_, _, a, rfl, rfl, rfl, rfl, rfl⟩ trivial

end Agm.Ipc
