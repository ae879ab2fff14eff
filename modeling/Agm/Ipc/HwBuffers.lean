import Agm.Ipc.HwCarried

/-!
# The buffers of the HwBinder server

What a handler of `agm_server_wrapper.cpp` reads of a request that nobody has checked, and of the answer of the service:
for every request, whether a client of this library has sent it or not.
-/

namespace Agm.Ipc

open Agm.Lib

/-! ## A request from its arrival to its reply -/

inductive Served
  | refused (ret : Int32)
  | answered (reply : HwReply)

/-- The whole handler; there is no result if it reads past the end of a vector or of its memory. -/
def hwServe (j : Junk) (service : (c : ApiCall) → c.Answer) (m : HwRequest) : Option Served :=
  (hwHandle j m).bind fun
    | .refused ret => some (.refused ret)
    | .call c => (hwReply j c (service c)).map .answered

/-- The data that the handler reads unchecked is there. -/
def HwRequest.Readable : HwRequest → Prop
  | .dump info => info ≠ []
  | .aifSetMediaConfig _ cfg => cfg ≠ []
  | .aifGroupSetMediaConfig _ cfg => cfg ≠ []
  | .setMetadata of size metadata => of.readsNumGkv → size.toNat ≤ metadata.length → 4 ≤ size.toNat
  | .sessionAifSetCal _ _ cfg => ∃ c ∈ cfg.head?, c.numCkvs.toNat ≤ MAX_KVPAIR → c.numCkvs.toNat ≤ c.kv.length
  | .setParamsWithTag _ _ cfg => ∃ c ∈ cfg.head?, c.numTkvs.toNat ≤ MAX_KVPAIR → c.numTkvs.toNat ≤ c.kv.length
  | .sessionRegisterForEvents _ cfg =>
    ∀ c, cfg = [c] → c.payload.length = c.payloadSize.toNat → countedByInt c.payloadSize
  | .sessionSetConfig _ session media buffer => session ≠ [] ∧ media ≠ [] ∧ buffer ≠ []
  | .sessionSetNonTunnelModeConfig _ session inMedia outMedia inBuffer outBuffer =>
    session ≠ [] ∧ inMedia ≠ [] ∧ outMedia ≠ [] ∧ inBuffer ≠ [] ∧ outBuffer ≠ []
  | .sessionReadWithMetadata _ buff _ => ∃ b ∈ buff.head?, 2 ≤ b.allocHandle.length
  | .sessionWriteWithMetadata _ buff _ => ∃ b ∈ buff.head?, b.metadataSize.toNat ≤ b.metadata.length →
      b.size.toNat ≤ b.buffer.length ∧ 2 ≤ b.allocHandle.length
  | _ => True

/-- The requests that are turned away. -/
def HwRequest.Refused : HwRequest → Prop
  | .setMetadata _ size metadata => metadata.length < size.toNat
  | .setParams _ payload size => payload.length < size.toNat
  | .sessionGetParams _ size buff => buff.length < size.toNat
  | .sessionAifSetCal _ _ cfg => ∃ c ∈ cfg.head?, MAX_KVPAIR < c.numCkvs.toNat
  | .setParamsWithTag _ _ cfg => ∃ c ∈ cfg.head?, MAX_KVPAIR < c.numTkvs.toNat
  | .sessionRegisterForEvents _ cfg => ∀ c, cfg = [c] → c.payload.length ≠ c.payloadSize.toNat
  | .sessionWrite _ buff count => buff.length < count.toNat
  | .sessionWriteWithMetadata _ buff _ => ∃ b ∈ buff.head?, b.metadata.length < b.metadataSize.toNat
  | .sessionWriteDatapathParams _ buff => ∀ b, buff = [b] → b.size.toNat ≠ b.buffer.length ∨ b.size = 0
  | _ => False

/-- An answer that stays inside the memory of the handler. -/
def ApiCall.Answerable : (c : ApiCall) → c.Answer → Prop
  | .sessionAifGetTagModuleInfo _ _ payload size, (_, _, size') =>
    size'.toNat < 2 ^ 32 ∧ (payload → size'.toNat ≤ size.toNat)
  | .sessionReadWithMetadata _ buf _, (ret, b, _) =>
    0 < ret → (b.size ≤ buf.size ∧ b.metadataSize ≤ buf.metadataSize) ∧ b.addr.isSome ∧ b.metadata.isSome
  | .getAifInfoList list num, (_, infos, _) | .getGroupAifInfoList list num, (_, infos, _) =>
    list → countedByInt num.toUInt32 ∧ ∀ a ∈ infos.toList, 0 ∈ a.aifName.toList
  | _, _ => True

/-! ## The parts of a handler -/

theorem firstOf_isSome_iff {α : Type} (n : Nat) (l : List α) : (firstOf n l).isSome ↔ n ≤ l.length := by
  by_cases h : n ≤ l.length
  · rw [firstOf_take h]
    exact iff_of_true rfl h
  · rw [firstOf_eq_none (Nat.not_le.1 h)]
    exact iff_of_false Bool.false_ne_true h

section

variable {size : Nat} {bs : Bytes} {call : List.Vector UInt8 size → ApiCall}

theorem handleSized_isSome : (handleSized size bs call).isSome := by
  unfold handleSized
  split
  · rfl
  · next h => rw [Option.isSome_map, firstOf_isSome_iff]; exact Nat.not_lt.1 h

/-- A length that is not there is refused. -/
theorem handleSized_refused_iff : (∃ ret, handleSized size bs call = some (.refused ret)) ↔ bs.length < size := by
  unfold handleSized
  split
  · next h => exact iff_of_true ⟨_, rfl⟩ h
  · next h =>
    refine iff_of_false ?_ h
    rintro ⟨ret, heq⟩
    obtain ⟨v, -, hv⟩ := Option.map_eq_some_iff.1 heq
    exact Handled.noConfusion hv

end

section

variable {num : UInt32} {kv : List KeyValue} {call : List.Vector KeyValue num.toNat → ApiCall}

/-- Key values for which there is room are read as if they were there. -/
theorem handleKv_isSome_iff : (handleKv num kv call).isSome ↔ (num.toNat ≤ MAX_KVPAIR → num.toNat ≤ kv.length) := by
  unfold handleKv
  split
  · next h => exact iff_of_true rfl fun hle => absurd h hle.not_gt
  · next h =>
    rw [Option.isSome_map, firstOf_isSome_iff]
    exact ⟨fun hlen _ => hlen, fun hlen => hlen (Nat.not_lt.1 h)⟩

theorem handleKv_refused_iff : (∃ ret, handleKv num kv call = some (.refused ret)) ↔ MAX_KVPAIR < num.toNat := by
  unfold handleKv
  split
  · next h => exact iff_of_true ⟨_, rfl⟩ h
  · next h =>
    refine iff_of_false ?_ h
    rintro ⟨ret, heq⟩
    obtain ⟨v, -, hv⟩ := Option.map_eq_some_iff.1 heq
    exact Handled.noConfusion hv

end

/-- A handle has at least its descriptor and a number. -/
theorem toRead_isSome_iff (b : HwBuff) : b.toRead.isSome ↔ 2 ≤ b.allocHandle.length := by
  unfold HwBuff.toRead
  obtain _ | ⟨fd, _ | ⟨n, rest⟩⟩ := b.allocHandle <;> simp

theorem toWrite_isSome_iff (j : Junk) {b : HwBuff} (h : b.metadataSize.toNat ≤ b.metadata.length) :
    (b.toWrite j).isSome ↔ b.size.toNat ≤ b.buffer.length ∧ 2 ≤ b.allocHandle.length := by
  obtain ⟨timestamp, flags, size, buffer, metadataSize, metadata, allocHandle, allocSize, offset⟩ := b
  by_cases hsize : size.toNat ≤ buffer.length
  · rw [and_iff_right hsize, HwBuff.toWrite, firstOf_take hsize, firstOf_take h]
    obtain _ | ⟨fd, _ | ⟨n, rest⟩⟩ := allocHandle
    · exact iff_of_false Bool.false_ne_true (by simp)
    · exact iff_of_false Bool.false_ne_true (by simp)
    · refine iff_of_true ?_ (by simp)
      by_cases h0 : metadataSize = 0
      · exact Option.isSome_iff_exists.2 ⟨_, if_pos h0⟩
      · exact Option.isSome_iff_exists.2 ⟨_, if_neg h0⟩
  · rw [HwBuff.toWrite, firstOf_eq_none (Nat.not_le.1 hsize)]
    exact iff_of_false Bool.false_ne_true fun h => hsize h.1

theorem toAnswer_isSome_iff (j : Junk) (b : AgmBuff) : (b.toAnswer j).isSome ↔ b.addr.isSome ∧ b.metadata.isSome := by
  obtain ⟨timestamp, flags, size, _ | addr, metadataSize, _ | metadata, allocHandle, allocSize, offset⟩ := b <;>
    simp [AgmBuff.toAnswer]

/-! ## Every request -/

theorem hwHandle_isSome_iff (j : Junk) (m : HwRequest) : (hwHandle j m).isSome ↔ m.Readable := by
  cases m with
  | dump info => cases info <;> simp [hwHandle, HwRequest.Readable]
  | aifSetMediaConfig aifId cfg => cases cfg <;> simp [hwHandle, HwRequest.Readable]
  | aifGroupSetMediaConfig groupId cfg => cases cfg <;> simp [hwHandle, HwRequest.Readable]
  | setMetadata of size metadata =>
    by_cases h : of.readsNumGkv ∧ size.toNat ≤ metadata.length ∧ size.toNat < 4
    · rw [hwHandle, if_pos h]
      exact iff_of_false Bool.false_ne_true fun hall => (hall h.1 h.2.1).not_gt h.2.2
    · rw [hwHandle, if_neg h]
      exact iff_of_true handleSized_isSome fun hof hlen => Nat.not_lt.1 fun hlt => h ⟨hof, hlen, hlt⟩
  | setParams of payload size => exact iff_of_true handleSized_isSome trivial
  | sessionGetParams sessionId size buff => exact iff_of_true handleSized_isSome trivial
  | sessionWrite handle buff count => exact iff_of_true handleSized_isSome trivial
  | sessionAifSetCal sessionId aifId cfg =>
    cases cfg with
    | nil => simp [hwHandle, HwRequest.Readable]
    | cons c rest => exact handleKv_isSome_iff.trans (by simp [HwRequest.Readable])
  | setParamsWithTag sessionId aifId cfg =>
    cases cfg with
    | nil => simp [hwHandle, HwRequest.Readable]
    | cons c rest => exact handleKv_isSome_iff.trans (by simp [HwRequest.Readable])
  | sessionRegisterForEvents sessionId cfg =>
    obtain _ | ⟨c, _ | ⟨c', rest⟩⟩ := cfg
    · exact iff_of_true rfl fun c h => absurd h (by simp)
    · show _ ↔ ∀ c', [c] = [c'] → _
      simp only [List.cons.injEq, and_true, forall_eq']
      rw [hwHandle]
      split
      · next h => exact iff_of_true rfl fun heq => absurd heq h
      · next h =>
        split
        · next hint =>
          rw [Option.isSome_map, firstOf_isSome_iff]
          exact iff_of_true (not_not.1 h).ge fun _ => hint
        · next hint => exact iff_of_false Bool.false_ne_true fun hall => hint (hall (not_not.1 h))
    · exact iff_of_true rfl fun c h => absurd h (by simp)
  | sessionSetConfig handle session media buffer =>
    cases session <;> cases media <;> cases buffer <;> simp [hwHandle, HwRequest.Readable]
  | sessionSetNonTunnelModeConfig handle session inMedia outMedia inBuffer outBuffer =>
    cases session <;> cases inMedia <;> cases outMedia <;> cases inBuffer <;> cases outBuffer <;>
      simp [hwHandle, HwRequest.Readable]
  | sessionReadWithMetadata handle buff capturedSize =>
    cases buff with
    | nil => simp [hwHandle, HwRequest.Readable]
    | cons b rest =>
      have hread : hwHandle j (.sessionReadWithMetadata handle (b :: rest) capturedSize) =
          b.toRead.map fun buf => .call (.sessionReadWithMetadata handle buf capturedSize) := Option.map_eq_bind.symm
      rw [hread, Option.isSome_map, toRead_isSome_iff]
      simp [HwRequest.Readable]
  | sessionWriteWithMetadata handle buff consumedSize =>
    cases buff with
    | nil => simp [hwHandle, HwRequest.Readable]
    | cons b rest =>
      by_cases hlen : b.metadata.length < b.metadataSize.toNat
      · refine iff_of_true (Option.isSome_iff_exists.2 ⟨_, if_pos hlen⟩) ⟨b, rfl, fun hle => absurd hle hlen.not_ge⟩
      · have hwrite : hwHandle j (.sessionWriteWithMetadata handle (b :: rest) consumedSize) =
            (b.toWrite j).map fun buf => .call (.sessionWriteWithMetadata handle buf consumedSize) :=
          (if_neg hlen).trans Option.map_eq_bind.symm
        rw [hwrite, Option.isSome_map, toWrite_isSome_iff j (Nat.not_lt.1 hlen)]
        simp [HwRequest.Readable, Nat.not_lt.1 hlen]
  | sessionWriteDatapathParams sessionId buff =>
    obtain _ | ⟨b, _ | ⟨b', rest⟩⟩ := buff
    · exact iff_of_true rfl trivial
    · refine iff_of_true ?_ trivial
      rw [hwHandle]
      split
      · rfl
      · next h =>
        rw [Option.isSome_map, firstOf_isSome_iff]
        exact (not_not.1 (not_or.1 h).1).le
    · exact iff_of_true rfl trivial
  | _ => exact iff_of_true rfl trivial

theorem not_refused_map {α : Type} (o : Option α) (call : α → ApiCall) :
    ¬ ∃ ret, o.map (Handled.call ∘ call) = some (.refused ret) := by
  rintro ⟨ret, h⟩
  obtain ⟨x, -, hx⟩ := Option.map_eq_some_iff.1 h
  exact Handled.noConfusion hx

theorem hwHandle_refused_iff (j : Junk) (m : HwRequest) : (∃ ret, hwHandle j m = some (.refused ret)) ↔ m.Refused := by
  cases m with
  | dump info => exact iff_of_false (not_refused_map _ _) id
  | aifSetMediaConfig aifId cfg => exact iff_of_false (not_refused_map _ _) id
  | aifGroupSetMediaConfig groupId cfg => exact iff_of_false (not_refused_map _ _) id
  | setMetadata of size metadata =>
    by_cases h : of.readsNumGkv ∧ size.toNat ≤ metadata.length ∧ size.toNat < 4
    · rw [hwHandle, if_pos h]
      exact iff_of_false (fun hnone => by simp at hnone) fun hlt => absurd h.2.1 hlt.not_ge
    · rw [hwHandle, if_neg h]
      exact handleSized_refused_iff
  | setParams of payload size => exact handleSized_refused_iff
  | sessionGetParams sessionId size buff => exact handleSized_refused_iff
  | sessionWrite handle buff count => exact handleSized_refused_iff
  | sessionAifSetCal sessionId aifId cfg =>
    cases cfg with
    | nil => simp [hwHandle, HwRequest.Refused]
    | cons c rest => exact handleKv_refused_iff.trans (by simp [HwRequest.Refused])
  | setParamsWithTag sessionId aifId cfg =>
    cases cfg with
    | nil => simp [hwHandle, HwRequest.Refused]
    | cons c rest => exact handleKv_refused_iff.trans (by simp [HwRequest.Refused])
  | sessionRegisterForEvents sessionId cfg =>
    obtain _ | ⟨c, _ | ⟨c', rest⟩⟩ := cfg
    · exact iff_of_true ⟨_, rfl⟩ fun c h => absurd h (by simp)
    · show _ ↔ ∀ c', [c] = [c'] → _
      simp only [List.cons.injEq, and_true, forall_eq']
      rw [hwHandle]
      split
      · next h => exact iff_of_true ⟨_, rfl⟩ h
      · next h =>
        refine iff_of_false ?_ h
        split
        · exact not_refused_map _ fun payload => .sessionRegisterForEvents sessionId
            ⟨c.moduleInstanceId, c.eventId, c.payloadSize, c.isRegister, payload⟩
        · simp
    · exact iff_of_true ⟨_, rfl⟩ fun c h => absurd h (by simp)
  | sessionSetConfig handle session media buffer =>
    refine iff_of_false ?_ id
    cases session <;> cases media <;> cases buffer <;> simp [hwHandle]
  | sessionSetNonTunnelModeConfig handle session inMedia outMedia inBuffer outBuffer =>
    refine iff_of_false ?_ id
    cases session <;> cases inMedia <;> cases outMedia <;> cases inBuffer <;> cases outBuffer <;> simp [hwHandle]
  | sessionReadWithMetadata handle buff capturedSize =>
    refine iff_of_false ?_ id
    cases buff with
    | nil => simp [hwHandle]
    | cons b rest =>
      have hread : hwHandle j (.sessionReadWithMetadata handle (b :: rest) capturedSize) =
          b.toRead.map (Handled.call ∘ (.sessionReadWithMetadata handle · capturedSize)) := Option.map_eq_bind.symm
      rw [hread]
      exact not_refused_map _ _
  | sessionWriteWithMetadata handle buff consumedSize =>
    cases buff with
    | nil => simp [hwHandle, HwRequest.Refused]
    | cons b rest =>
      by_cases hlen : b.metadata.length < b.metadataSize.toNat
      · exact iff_of_true ⟨_, if_pos hlen⟩ ⟨b, rfl, hlen⟩
      · have hwrite : hwHandle j (.sessionWriteWithMetadata handle (b :: rest) consumedSize) =
            (b.toWrite j).map (Handled.call ∘ (.sessionWriteWithMetadata handle · consumedSize)) :=
          (if_neg hlen).trans Option.map_eq_bind.symm
        rw [hwrite]
        refine iff_of_false (not_refused_map _ _) ?_
        simpa [HwRequest.Refused] using hlen
  | sessionWriteDatapathParams sessionId buff =>
    obtain _ | ⟨b, _ | ⟨b', rest⟩⟩ := buff
    · exact iff_of_true ⟨_, rfl⟩ fun c h => absurd h (by simp)
    · show _ ↔ ∀ b', [b] = [b'] → _
      simp only [List.cons.injEq, and_true, forall_eq']
      rw [hwHandle]
      split
      · next h => exact iff_of_true ⟨_, rfl⟩ h
      · next h =>
        refine iff_of_false ?_ h
        exact not_refused_map _ fun addr => .sessionWriteDatapathParams sessionId
          { timestamp := b.timestamp, flags := b.flags, size := b.size, addr := some addr,
            metadataSize := j.stack.metadataSize, metadata := none, allocHandle := j.stack.allocHandle,
            allocSize := j.stack.allocSize, offset := j.stack.offset }
    · exact iff_of_true ⟨_, rfl⟩ fun c h => absurd h (by simp)
  | _ =>
    refine iff_of_false ?_ id
    rintro ⟨ret, h⟩
    exact Handled.noConfusion (Option.some.inj h)

theorem mapM_toHw_isSome_iff (infos : List AifInfo) :
    (infos.mapM AifInfo.toHw).isSome ↔ ∀ a ∈ infos, 0 ∈ a.aifName.toList := by
  constructor
  · intro h
    obtain ⟨l, hl⟩ := Option.isSome_iff_exists.1 h
    exact (mapM_toHw hl).1
  · exact fun h => Option.isSome_iff_exists.2 (exists_mapM_toHw h)

theorem listReply_isSome_iff (list : Bool) (num num' : UInt64) (infos : List AifInfo) :
    (listReply list num infos num').isSome ↔
      (list → countedByInt num.toUInt32 ∧ ∀ a ∈ infos, 0 ∈ a.aifName.toList) := by
  cases list with
  | false => exact iff_of_true rfl fun h => absurd h Bool.false_ne_true
  | true =>
    rw [← mapM_toHw_isSome_iff, listReply, if_pos rfl]
    by_cases h : countedByInt num.toUInt32 <;> simp [h]

theorem hwReply_isSome_iff (j : Junk) (c : ApiCall) (a : c.Answer) : (hwReply j c a).isSome ↔ c.Answerable a := by
  cases c with
  | sessionAifGetTagModuleInfo sessionId aifId payload size =>
    obtain ⟨ret, buff, size'⟩ := a
    by_cases hlt : size'.toNat < 2 ^ 32
    swap
    · have hnone : hwReply j (.sessionAifGetTagModuleInfo sessionId aifId payload size) (ret, buff, size') = none :=
        if_pos (Nat.not_lt.1 hlt)
      rw [hnone]
      exact iff_of_false Bool.false_ne_true fun h => hlt h.1
    cases payload with
    | false =>
      have hreply : hwReply j (.sessionAifGetTagModuleInfo sessionId aifId false size) (ret, buff, size') =
          some (.sized ret (j.vec size'.toNat).toList size'.toUInt32) :=
        (if_neg hlt.not_ge).trans (if_neg Bool.false_ne_true)
      rw [hreply]
      exact iff_of_true rfl ⟨hlt, fun h => absurd h Bool.false_ne_true⟩
    | true =>
      have hreply : hwReply j (.sessionAifGetTagModuleInfo sessionId aifId true size) (ret, buff, size') =
          (firstOf size'.toNat buff.toList).map fun v => .sized ret v.toList size'.toUInt32 :=
        (if_neg hlt.not_ge).trans (if_pos rfl)
      have hlen : buff.toList.length = size.toNat := buff.toList_length
      rw [hreply, Option.isSome_map, firstOf_isSome_iff, hlen]
      exact ⟨fun hle => ⟨hlt, fun _ => hle⟩, fun h => h.2 rfl⟩
  | sessionReadWithMetadata handle buf captured =>
    obtain ⟨ret, b, captured'⟩ := a
    by_cases hret : 0 < ret
    swap
    · exact iff_of_true (Option.isSome_iff_exists.2 ⟨_, if_pos (Int32.not_lt.1 hret)⟩) fun h => absurd h hret
    have hreply : hwReply j (.sessionReadWithMetadata handle buf captured) (ret, b, captured') =
        if buf.size < b.size ∨ buf.metadataSize < b.metadataSize then none
        else (b.toAnswer j).map fun out => .buff ret out captured' := if_neg (Int32.not_le.2 hret)
    rw [hreply]
    by_cases hroom : buf.size < b.size ∨ buf.metadataSize < b.metadataSize
    · rw [if_pos hroom]
      refine iff_of_false Bool.false_ne_true fun h => ?_
      obtain ⟨⟨hsize, hmeta⟩, -⟩ := h hret
      exact hroom.elim (UInt32.not_lt.2 hsize) (UInt32.not_lt.2 hmeta)
    · obtain ⟨hsize, hmeta⟩ := not_or.1 hroom
      have hin : b.size ≤ buf.size ∧ b.metadataSize ≤ buf.metadataSize := ⟨UInt32.not_lt.1 hsize, UInt32.not_lt.1 hmeta⟩
      rw [if_neg hroom, Option.isSome_map, toAnswer_isSome_iff]
      exact ⟨fun h _ => ⟨hin, h⟩, fun h => (h hret).2⟩
  | getAifInfoList list num => exact listReply_isSome_iff list num a.2.2 a.2.1.toList
  | getGroupAifInfoList list num => exact listReply_isSome_iff list num a.2.2 a.2.1.toList
  | sessionGetBufInfo sessionId flag =>
    by_cases hret : a.1 = 0
    · exact iff_of_true (Option.isSome_iff_exists.2 ⟨_, if_pos hret⟩) trivial
    · exact iff_of_true (Option.isSome_iff_exists.2 ⟨_, if_neg hret⟩) trivial
  | _ => exact iff_of_true rfl trivial

/-- **What the handlers of the HwBinder read is there exactly if it has to be.**  Whatever a client sends and whatever
the service answers, a handler stays inside the vectors of the request and inside its own memory if and only if the
request is `Readable` and the answer of the service `Answerable`; and it turns a request away exactly if it is
`Refused`. -/
theorem hw_served_iff (j : Junk) (service : (c : ApiCall) → c.Answer) (m : HwRequest) :
    ((hwServe j service m).isSome ↔
        m.Readable ∧ ∀ c, hwHandle j m = some (.call c) → c.Answerable (service c)) ∧
      ((∃ ret, hwServe j service m = some (.refused ret)) ↔ m.Refused) := by
  rw [← hwHandle_isSome_iff j, ← hwHandle_refused_iff j]
  simp only [← hwReply_isSome_iff j]
  unfold hwServe
  cases hwHandle j m with
  | none => simp
  | some handled =>
    cases handled with
    | refused ret => simp
    | call c => simp

/-! ## The requests of the client -/

/-- Metadata of a session has at least the count of its first keys. -/
def ApiCall.Headed : ApiCall → Prop
  | .setMetadata of size _ => of.readsNumGkv → 4 ≤ size.toNat
  | _ => True

/-- **What the client of the library sends is there, with one exception.**  Whatever it is asked, the request it makes
can be read by the handler, unless it is metadata too short to have a count. -/
theorem hw_sent_readable_iff {j : Junk} {c : ApiCall} {m : HwRequest} (h : hwSend j c = some m) :
    m.Readable ↔ c.Headed := by
  cases c with
  | init => cases h
  | deinit => cases h
  | sessionRegisterCb sessionId cb event clientData => cases h
  | setMetadata of size metadata =>
    obtain rfl := Option.some.inj h
    exact forall_congr' fun _ => forall_prop_of_true metadata.toList_length.ge
  | sessionGetParams sessionId size payload =>
    obtain ⟨-, h⟩ := Option.ite_none_right_eq_some.1 h
    obtain rfl := Option.some.inj h
    exact Iff.rfl
  | sessionAifSetCal sessionId aifId cfg =>
    obtain ⟨-, h⟩ := Option.ite_none_right_eq_some.1 h
    obtain rfl := Option.some.inj h
    exact iff_of_true ⟨_, rfl, fun _ => cfg.kv.toList_length.ge⟩ trivial
  | setParamsWithTag sessionId aifId cfg =>
    obtain ⟨-, h⟩ := Option.ite_none_right_eq_some.1 h
    obtain rfl := Option.some.inj h
    exact iff_of_true ⟨_, rfl, fun _ => cfg.kv.toList_length.ge⟩ trivial
  | sessionRegisterForEvents sessionId cfg =>
    obtain ⟨hcount, h⟩ := Option.ite_none_right_eq_some.1 h
    obtain rfl := Option.some.inj h
    refine iff_of_true (fun c hc _ => ?_) trivial
    obtain rfl := List.singleton_inj.1 hc
    exact hcount
  | sessionSetConfig handle session media buffer =>
    obtain rfl := Option.some.inj h
    exact iff_of_true ⟨List.cons_ne_nil _ _, List.cons_ne_nil _ _, List.cons_ne_nil _ _⟩ trivial
  | sessionSetNonTunnelModeConfig handle session inMedia outMedia inBuffer outBuffer =>
    obtain rfl := Option.some.inj h
    exact iff_of_true ⟨List.cons_ne_nil _ _, List.cons_ne_nil _ _, List.cons_ne_nil _ _, List.cons_ne_nil _ _,
      List.cons_ne_nil _ _⟩ trivial
  | sessionRead handle count =>
    obtain ⟨-, h⟩ := Option.ite_none_left_eq_some.1 h
    obtain rfl := Option.some.inj h
    exact Iff.rfl
  | sessionWrite handle count buff =>
    obtain ⟨-, h⟩ := Option.ite_none_left_eq_some.1 h
    obtain ⟨-, h⟩ := Option.ite_none_right_eq_some.1 h
    obtain rfl := Option.some.inj h
    exact Iff.rfl
  | sessionReadWithMetadata handle buf captured =>
    obtain ⟨-, h⟩ := Option.ite_none_left_eq_some.1 h
    obtain rfl := Option.some.inj h
    exact iff_of_true ⟨_, rfl, le_rfl⟩ trivial
  | sessionWriteWithMetadata handle buf consumed =>
    obtain rfl := Option.some.inj h
    exact iff_of_true ⟨_, rfl, fun _ => ⟨(List.Vector.toList_length _).ge, le_rfl⟩⟩ trivial
  | sessionWriteDatapathParams sessionId buf =>
    obtain ⟨-, h⟩ := Option.ite_none_right_eq_some.1 h
    obtain rfl := Option.some.inj h
    exact Iff.rfl
  | dump info =>
    obtain rfl := Option.some.inj h
    exact iff_of_true (List.cons_ne_nil _ _) trivial
  | aifSetMediaConfig aifId cfg =>
    obtain rfl := Option.some.inj h
    exact iff_of_true (List.cons_ne_nil _ _) trivial
  | aifGroupSetMediaConfig groupId cfg =>
    obtain rfl := Option.some.inj h
    exact iff_of_true (List.cons_ne_nil _ _) trivial
  | _ =>
    obtain rfl := Option.some.inj h
    exact Iff.rfl

/-- Metadata of one byte is sent, and read as if it had four. -/
theorem hw_sent_readable_short : ¬ (HwRequest.setMetadata (.session 5) 1 [7]).Readable := by
  have zeros : Unset := ⟨0, 0, 0, 0, 0, 0, 0⟩
  intro hread
  have headed := (hw_sent_readable_iff (j := ⟨0, zeros, zeros, zeros, fun _ => 0⟩)
    (c := .setMetadata (.session 5) 1 ⟨[7], rfl⟩) rfl).1 hread
  exact absurd (headed rfl) (by decide)

end Agm.Ipc
