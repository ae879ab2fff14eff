import Agm.Ipc.SwParcel

/-!
# What the messages of the SwBinder carry

For every transaction the arguments that are read back, the reply, and what the proxy makes of it.
-/

namespace Agm.Ipc

open Agm.Lib

/-! ### The arguments -/

/-- The blob of a vector is read with another length only if it is the same. -/
theorem readBlob_toList_of_ne {n len : Nat} (v : List.Vector UInt8 n) (h : n ≠ len) (p : Parcel) :
    readBlob len (.blob v.toList :: p) = none :=
  readBlob_of_length_ne (by rwa [v.toList_length]) p

@[simp] theorem readMetadata_word (of : MetadataOf) (size : UInt32) (metadata : List.Vector UInt8 size.toNat) :
    readMetadata of [.word size, .blob metadata.toList] = some (.call (.setMetadata of size metadata), []) := by
  simp [readMetadata]

@[simp] theorem readLink_word (f : LinkCall) (first second : UInt32) (state : Bool) :
    readLink f [.word first, .word second, ofBool state] = some (.call (.link f first second state), []) := by
  cases state <;> rfl

/-- A length goes over in 32 bits. -/
@[simp] theorem readCounted_word (size : UInt64) (payload : List.Vector UInt8 size.toNat) :
    readCounted [.word size.toUInt32, .blob payload.toList] =
      if size.toNat < 2 ^ 32 then some (⟨size, payload⟩, []) else none := by
  have key (w : UInt32) : readCounted [.word w, .blob payload.toList] =
      if w.toUInt64 = size then some (⟨size, payload⟩, []) else none := by
    split
    · next h =>
      subst h
      rw [readCounted, Reader.bind_apply, readUint32_word, Option.bind_some, Reader.bind_apply, readBlob_toList]
      rfl
    · next hne =>
      have hlen : size.toNat ≠ w.toUInt64.toNat := fun heq => hne (UInt64.toNat_inj.1 heq.symm)
      rw [readCounted, Reader.bind_apply, readUint32_word, Option.bind_some, Reader.bind_apply,
        readBlob_toList_of_ne payload hlen]
      rfl
  rw [key]
  exact if_congr (toUInt64_toUInt32_eq_iff size) rfl rfl

/-- The key values come back if those for which there was no room are zero. -/
theorem readKv_kvBlob_iff (num : UInt32) (kv : List.Vector KeyValue num.toNat) :
    ∃ kv', readKv num [kvBlob num kv] = some (kv', []) ∧ (kv' = kv ↔ ∀ p ∈ pastBlob num kv, p = ⟨0, 0⟩) := by
  have hnum := num.toNat_lt
  have hroom : (8 * num).toNat = num.toNat % 2 ^ 29 * KeyValue.layout.size := by
    rw [UInt32.toNat_mul, KeyValue.size_layout]
    show 8 * num.toNat % 2 ^ 32 = _
    omega
  have hblob : (KeyValue.layout.encodeAll kv.toList).take (8 * num).toNat =
      KeyValue.layout.encodeAll (kv.toList.take (num.toNat % 2 ^ 29)) := by
    rw [hroom, Layout.take_encodeAll]
  have hle : num.toNat % 2 ^ 29 ≤ num.toNat := Nat.mod_le _ _
  have htake : (kv.toList.take (num.toNat % 2 ^ 29)).length = num.toNat % 2 ^ 29 := by
    rw [List.length_take, kv.toList_length, Nat.min_eq_left hle]
  have hlen : ((KeyValue.layout.encodeAll kv.toList).take (8 * num).toNat).length = (8 * num).toNat := by
    rw [hblob, Layout.length_encodeAll, htake, hroom]
  have hzero : KeyValue.layout.decode [] = ⟨0, 0⟩ := rfl
  have hread : KeyValue.layout.decodeAll num.toNat ((KeyValue.layout.encodeAll kv.toList).take (8 * num).toNat) =
      kv.toList.take (num.toNat % 2 ^ 29) ++ List.replicate (num.toNat - num.toNat % 2 ^ 29) ⟨0, 0⟩ := by
    rw [hblob, Layout.decodeAll_encodeAll _ _ _ (htake.trans_le hle), htake, hzero]
  have hdrop : (pastBlob num kv).length = num.toNat - num.toNat % 2 ^ 29 := by
    rw [pastBlob, List.length_drop, kv.toList_length]
  have hkv : kv.toList.take (num.toNat % 2 ^ 29) ++ pastBlob num kv = kv.toList := List.take_append_drop _ _
  refine ⟨⟨KeyValue.layout.decodeAll num.toNat ((KeyValue.layout.encodeAll kv.toList).take (8 * num).toNat),
    Layout.length_decodeAll _ _ _⟩, by rw [readKv, kvBlob, Reader.bind_apply, readBlob_of_length hlen]; rfl, ?_⟩
  constructor
  · intro h
    have h := congrArg List.Vector.toList h
    rw [List.Vector.toList_mk, hread] at h
    rw [← List.append_cancel_left (h.trans hkv.symm)]
    exact fun p hp => List.eq_of_mem_replicate hp
  · intro h
    apply List.Vector.eq
    rw [List.Vector.toList_mk, hread, ← hdrop, ← List.eq_replicate_of_mem h, hkv]

/-- The key values of a calibration come back if there is room for all of them. -/
theorem readCkv_of_lt {num : UInt32} {kv : List.Vector KeyValue num.toNat} (h : num.toNat < 2 ^ 29) :
    readCkv num [kvBlob num kv] = some (kv, []) := by
  have hpast : pastBlob num kv = [] := by
    rw [pastBlob, Nat.mod_eq_of_lt h, List.drop_eq_nil_iff, kv.toList_length]
  obtain ⟨kv', hread, hsame⟩ := readKv_kvBlob_iff num kv
  obtain rfl := hsame.2 fun p hp => absurd (hpast ▸ hp) List.not_mem_nil
  rw [readCkv, Reader.bind_apply, hread, Option.bind_some, if_pos h]
  rfl

theorem readCkv_of_not_lt {num : UInt32} {kv : List.Vector KeyValue num.toNat} (h : ¬ num.toNat < 2 ^ 29) :
    readCkv num [kvBlob num kv] = none := by
  obtain ⟨kv', hread, -⟩ := readKv_kvBlob_iff num kv
  rw [readCkv, Reader.bind_apply, hread, Option.bind_some, if_neg h]
  rfl

/-! ## Every transaction -/

@[simp] theorem mod_eq_self_iff (x : UInt64) : x % 4294967296 = x ↔ x.toNat < 4294967296 := by
  rw [← UInt64.toUInt64_toUInt32]
  exact toUInt64_toUInt32_eq_iff x

section

variable {m : SwCode × Parcel}

/-- The reply part, once the reply is known and what the proxy makes of it. -/
theorem carried_iff_of_reply {r : SwSend} {a : r.Answer} {reply : Parcel} {s : r.Seen}
    (hreply : bnReply r a = some reply) (hs : bpReceive r reply = some (s, [])) :
    r.Carried a m ↔ onTransact m.1 m.2 = some (r, []) ∧ r.outputs s = r.outputs (r.see a) := by
  refine and_congr_right fun _ => ⟨?_, fun hout => ⟨reply, s, hreply, hs, hout⟩⟩
  rintro ⟨reply', s', hreply', hs', hout⟩
  obtain rfl := Option.some.inj (hreply.symm.trans hreply')
  obtain rfl := congrArg Prod.fst (Option.some.inj (hs.symm.trans hs'))
  exact hout

/-- The stub writes no reply. -/
theorem not_carried_of_reply {r : SwSend} {a : r.Answer} (hreply : bnReply r a = none) : ¬ r.Carried a m := by
  rintro ⟨-, reply, s, hr, -⟩
  rw [hreply] at hr
  cases hr

/-- The proxy cannot read the reply. -/
theorem not_carried_of_receive {r : SwSend} {a : r.Answer} {reply : Parcel} (hreply : bnReply r a = some reply)
    (hs : bpReceive r reply = none) : ¬ r.Carried a m := by
  rintro ⟨-, reply', s, hr, hs', -⟩
  obtain rfl := Option.some.inj (hreply.symm.trans hr)
  rw [hs] at hs'
  cases hs'

theorem carried_setParams {of : ParamsOf} {size : UInt64} {payload : List.Vector UInt8 size.toNat} (ret : Int32)
    (h : bpSend (.call (.setParams of size payload)) = some m) :
    SwSend.Carried (.call (.setParams of size payload)) ret m ↔ size.toNat < 2 ^ 32 := by
  have hread : onTransact m.1 m.2 = some (.call (.setParams of size payload), []) ↔ size.toNat < 2 ^ 32 := by
    cases of <;> cases h <;> simp [onTransact, readPayload]
  exact (carried_iff_of_reply rfl rfl).trans (and_iff_left rfl |>.trans hread)

theorem carried_sessionRead {handle count : UInt64} (ret : Int32) (buff : List.Vector UInt8 count.toNat)
    (count' : UInt64) (h : bpSend (.call (.sessionRead handle count)) = some m) :
    SwSend.Carried (.call (.sessionRead handle count)) (ret, buff, count') m ↔
      count.toNat < 2 ^ 32 ∧ if ret = 0 then count'.toNat ≤ count.toNat else count' = count := by
  cases h
  have hread : onTransact .read [.dword handle, .word count.toUInt32] = some (.call (.sessionRead handle count), []) ↔
      count.toNat < 2 ^ 32 := by
    simp [onTransact]
  by_cases hret : ret = 0
  · have hret' : ¬ ret ≠ 0 := not_not.2 hret
    rw [if_pos hret]
    by_cases hle : count'.toNat ≤ count.toNat
    · by_cases hc : count.toNat < 2 ^ 32
      · have hsame : count'.toUInt32.toUInt64 = count' := (toUInt64_toUInt32_eq_iff count').2 (hle.trans_lt hc)
        have hlen : (buff.toList.take count'.toNat).length = count'.toUInt32.toUInt64.toNat := by
          rw [hsame, List.length_take, buff.toList_length, Nat.min_eq_left hle]
        have hreply : bnReply (.call (.sessionRead handle count)) (ret, buff, count') =
            some [ofRet ret, .word count'.toUInt32, .blob (buff.toList.take count'.toNat)] := by
          simp [bnReply, callReply, ofBuffer, hret, hle]
        have hs : bpReceive (.call (.sessionRead handle count))
            [ofRet ret, .word count'.toUInt32, .blob (buff.toList.take count'.toNat)] =
            some ((ret, buff.toList.take count'.toNat, count'), []) := by
          simp only [bpReceive, callReceive, Reader.bind_apply, readInt32_ofRet, Option.bind_some, if_neg hret',
            readUint32_word, readBlob_of_length hlen, Reader.pure_apply]
          exact congrArg (fun c => some ((ret, buff.toList.take count'.toNat, c), [])) hsame
        rw [carried_iff_of_reply hreply hs]
        exact and_congr hread (iff_of_true rfl hle)
      · exact iff_of_false (fun h => hc (hread.1 h.1)) fun h => hc h.1
    · refine iff_of_false (not_carried_of_reply ?_) fun h => hle h.2
      simp [bnReply, callReply, ofBuffer, hret, hle]
  · have hreply : bnReply (.call (.sessionRead handle count)) (ret, buff, count') = some [ofRet ret] := if_pos hret
    have hs : bpReceive (.call (.sessionRead handle count)) [ofRet ret] = some ((ret, [], count), []) := by
      simp only [bpReceive, callReceive, Reader.bind_apply, readInt32_ofRet, Option.bind_some, ne_eq, if_pos hret,
        Reader.pure_apply]
    rw [if_neg hret, carried_iff_of_reply hreply hs, hread]
    simp [SwSend.outputs, SwSend.see, ApiCall.outputs, ApiCall.see, hret, eq_comm]

theorem carried_sessionWrite {handle count : UInt64} {buff : List.Vector UInt8 count.toNat} (ret : Int32)
    (count' : UInt64) (h : bpSend (.call (.sessionWrite handle count buff)) = some m) :
    SwSend.Carried (.call (.sessionWrite handle count buff)) (ret, count') m ↔
      count.toNat < 2 ^ 32 ∧ count'.toNat < 2 ^ 32 := by
  cases h
  refine (carried_iff_of_reply (s := (ret, count'.toUInt32.toUInt64)) rfl rfl).trans (and_congr ?_ ?_)
  · simp [onTransact]
  · simp [SwSend.outputs, SwSend.see, ApiCall.outputs, ApiCall.see]

theorem carried_sessionGetParams {sessionId : UInt32} {size : UInt64} {payload : List.Vector UInt8 size.toNat}
    (ret : Int32) (payload' : List.Vector UInt8 size.toNat)
    (h : bpSend (.call (.sessionGetParams sessionId size payload)) = some m) :
    SwSend.Carried (.call (.sessionGetParams sessionId size payload)) (ret, payload') m ↔ size.toNat < 2 ^ 32 := by
  cases h
  have hs : bpReceive (.call (.sessionGetParams sessionId size payload)) [.blob payload'.toList, ofRet ret] =
      some ((ret, payload'.toList), []) := by
    simp [bpReceive, callReceive]
  refine (carried_iff_of_reply rfl hs).trans ((and_iff_left rfl).trans ?_)
  simp [onTransact]

theorem carried_getHwProcessedBuffCnt {handle : UInt64} {dir : UInt32} (count : UInt64)
    (h : bpSend (.call (.getHwProcessedBuffCnt handle dir)) = some m) :
    SwSend.Carried (.call (.getHwProcessedBuffCnt handle dir)) count m ↔ Signed32 count := by
  cases h
  refine (carried_iff_of_reply (s := signExtend count.toUInt32) rfl rfl).trans ((and_iff_right ?_).trans ?_)
  · rfl
  · exact signExtend_toUInt32_eq_iff count

theorem carried_getAifInfoList {list : Bool} {num : UInt64} (ret : Int32) (infos : List.Vector AifInfo (given list num))
    (num' : UInt64) (h : bpSend (.call (.getAifInfoList list num)) = some m) :
    SwSend.Carried (.call (.getAifInfoList list num)) (ret, infos, num') m ↔
      list = false ∧ num = 0 ∧ Signed32 num' := by
  obtain ⟨hlist, hm⟩ := Option.ite_none_right_eq_some.1 h
  obtain rfl := Option.some.inj hm
  by_cases h0 : num.toUInt32 = 0
  · obtain rfl : list = false := by rw [hlist, decide_eq_false (not_not.2 h0)]
    have hread : onTransact .getAifList [.word num.toUInt32, ofPointer false] =
        some (.call (.getAifInfoList false num), []) ↔ num = 0 := by
      simp [onTransact, ofPointer, h0, eq_comm]
    by_cases hnum : num = 0
    · subst hnum
      refine (carried_iff_of_reply (s := (ret, [], signExtend num'.toUInt32)) rfl rfl).trans (and_congr ?_ ?_)
      · simp [onTransact, ofPointer]
      · have hnone : infos.toList = [] := List.length_eq_zero_iff.1 infos.toList_length
        simp [SwSend.outputs, SwSend.see, ApiCall.outputs, ApiCall.see, hnone, signExtend_toUInt32_eq_iff]
    · exact iff_of_false (fun h => hnum (hread.1 h.1)) fun h => hnum h.2.1
  · obtain rfl : list = true := by rw [hlist, decide_eq_true h0]
    have hcount : num.toUInt32.toUInt64 ≠ 0 := fun h =>
      h0 (UInt32.toNat_inj.1 ((UInt32.toNat_toUInt64 _).symm.trans (congrArg UInt64.toNat h)))
    have hread : onTransact .getAifList [.word num.toUInt32, ofPointer true] =
        some (.call (.getAifInfoList true num.toUInt32.toUInt64), [ofPointer true]) := by
      simp only [onTransact, Reader.bind_apply, readUint32_word, Option.bind_some, if_neg hcount, Reader.pure_apply]
    refine iff_of_false (fun h => ?_) (by simp)
    have hleft := congrArg Prod.snd (Option.some.inj (hread.symm.trans h.1))
    cases hleft

theorem carried_getTagModuleInfo {sessionId aifId : UInt32} {payload : Bool} {size : UInt64} (ret : Int32)
    (buff : List.Vector UInt8 (given payload size)) (size' : UInt64)
    (h : bpSend (.call (.sessionAifGetTagModuleInfo sessionId aifId payload size)) = some m) :
    SwSend.Carried (.call (.sessionAifGetTagModuleInfo sessionId aifId payload size)) (ret, buff, size') m ↔
      if payload then size.toNat < 2 ^ 31 ∧ size' = size else size.toNat < 2 ^ 32 ∧ Signed32 size' := by
  obtain ⟨hsent, hm⟩ := Option.ite_none_left_eq_some.1 h
  obtain rfl := Option.some.inj hm
  have hread : onTransact .getTagModuleInfo [ofPointer payload, .word size.toUInt32, .word sessionId, .word aifId] =
      some (.call (.sessionAifGetTagModuleInfo sessionId aifId payload size), []) ↔ size.toNat < 2 ^ 32 := by
    cases payload <;> simp [onTransact, ofPointer]
  cases payload with
  | false =>
    refine (carried_iff_of_reply (s := (ret, [], signExtend size'.toUInt32)) rfl rfl).trans (and_congr hread ?_)
    have hnone : buff.toList = [] := List.length_eq_zero_iff.1 buff.toList_length
    simp [SwSend.outputs, SwSend.see, ApiCall.outputs, ApiCall.see, hnone, signExtend_toUInt32_eq_iff]
  | true =>
    have h0 : size.toUInt32 ≠ 0 := fun h => hsent ⟨rfl, h⟩
    have hne : size ≠ 0 := by rintro rfl; exact h0 rfl
    rw [if_pos rfl]
    by_cases hle : size'.toNat ≤ size.toNat
    swap
    · refine iff_of_false (not_carried_of_reply ?_) fun h => hle (congrArg UInt64.toNat h.2).le
      have hlen : ¬ size'.toNat ≤ buff.toList.length := by rwa [buff.toList_length]
      simp only [bnReply, callReply, Bool.true_eq_false, if_false, if_neg hne, ofBuffer, if_neg hlen]
    have hlen : (buff.toList.take size'.toNat).length = size'.toNat := by
      rw [List.length_take, buff.toList_length]
      exact Nat.min_eq_left hle
    have hreply : bnReply (.call (.sessionAifGetTagModuleInfo sessionId aifId true size)) (ret, buff, size') =
        some [.blob (buff.toList.take size'.toNat), ofRet ret] := by
      have hle : size'.toNat ≤ buff.toList.length := by rwa [buff.toList_length]
      simp only [bnReply, callReply, Bool.true_eq_false, if_false, if_neg hne, ofBuffer, if_pos hle]
    by_cases hblob : (buff.toList.take size'.toNat).length = (signExtend size.toUInt32).toNat
    · have hs : bpReceive (.call (.sessionAifGetTagModuleInfo sessionId aifId true size))
          [.blob (buff.toList.take size'.toNat), ofRet ret] = some ((ret, buff.toList.take size'.toNat, size), []) := by
        simp only [bpReceive, callReceive, Bool.true_eq_false, if_false, Reader.bind_apply, readBlob_of_length hblob,
          Option.bind_some, readInt32_ofRet, Reader.pure_apply]
        rfl
      have hout : SwSend.outputs (.call (.sessionAifGetTagModuleInfo sessionId aifId true size))
          (ret, buff.toList.take size'.toNat, size) = SwSend.outputs _ (SwSend.see _ (ret, buff, size')) ↔
            size' = size := by
        constructor
        · intro h
          exact (congrArg (fun s : Int32 × Bytes × UInt64 => s.2.2) h).symm
        · rintro rfl
          rfl
      refine (carried_iff_of_reply hreply hs).trans ((and_congr hread hout).trans (and_congr_left fun heq => ?_))
      subst heq
      have hsigned : Signed32 size' :=
        (signExtend_toUInt32_eq_iff size').1 (UInt64.toNat_inj.1 (hblob.symm.trans hlen))
      unfold Signed32 at hsigned
      omega
    · refine iff_of_false (not_carried_of_receive hreply ?_) ?_
      · simp only [bpReceive, callReceive, Bool.true_eq_false, if_false, Reader.bind_apply,
          readBlob_of_length_ne hblob, Option.bind_none]
      · rintro ⟨hlt, rfl⟩
        exact hblob (hlen.trans (congrArg UInt64.toNat ((signExtend_toUInt32_eq_iff size').2 (Or.inl hlt)).symm))

theorem carried_getBufInfo {sessionId flag : UInt32} (ret : Int32) (info : BufInfo)
    (h : bpSend (.call (.sessionGetBufInfo sessionId flag)) = some m) :
    SwSend.Carried (.call (.sessionGetBufInfo sessionId flag)) (ret, info) m := by
  cases h
  have hs : bpReceive (.call (.sessionGetBufInfo sessionId flag))
      ((if flag &&& DATA_BUF ≠ 0 then [.fileDescriptor info.dataFd, .word info.dataSize] else []) ++
        (if flag &&& POS_BUF ≠ 0 then [.fileDescriptor info.posFd, .word info.posSize] else []) ++ [ofRet ret]) =
      some (SwSend.see (.call (.sessionGetBufInfo sessionId flag)) (ret, info), []) := by
    by_cases hd : flag &&& DATA_BUF ≠ 0 <;> by_cases hp : flag &&& POS_BUF ≠ 0 <;>
      simp [bpReceive, callReceive, hd, hp, SwSend.see, ApiCall.see]
  exact (carried_iff_of_reply rfl hs).2 ⟨rfl, rfl⟩

theorem carried_sessionAifSetCal {sessionId aifId : UInt32} {cfg : CalConfig} (ret : Int32)
    (h : bpSend (.call (.sessionAifSetCal sessionId aifId cfg)) = some m) :
    SwSend.Carried (.call (.sessionAifSetCal sessionId aifId cfg)) ret m ↔ cfg.numCkvs.toNat < 2 ^ 29 := by
  cases h
  obtain ⟨num, kv⟩ := cfg
  refine (carried_iff_of_reply rfl rfl).trans ((and_iff_left rfl).trans ?_)
  by_cases hnum : num.toNat < 2 ^ 29
  · refine iff_of_true ?_ hnum
    simp [onTransact, readCkv_of_lt hnum]
  · refine iff_of_false ?_ hnum
    simp [onTransact, readCkv_of_not_lt hnum]

theorem carried_setParamsWithTag {sessionId aifId : UInt32} {cfg : TagConfig} (ret : Int32)
    (h : bpSend (.call (.setParamsWithTag sessionId aifId cfg)) = some m) :
    SwSend.Carried (.call (.setParamsWithTag sessionId aifId cfg)) ret m ↔
      ∀ p ∈ pastBlob cfg.numTkvs cfg.kv, p = ⟨0, 0⟩ := by
  cases h
  obtain ⟨tag, num, kv⟩ := cfg
  obtain ⟨kv', hread, hsame⟩ := readKv_kvBlob_iff num kv
  refine (carried_iff_of_reply rfl rfl).trans ((and_iff_left rfl).trans (Iff.trans ?_ hsame))
  simp [onTransact, hread]

theorem carried_onHandle {f : HandleCall} {handle : UInt64} (ret : Int32)
    (h : bpSend (.call (.onHandle f handle)) = some m) : SwSend.Carried (.call (.onHandle f handle)) ret m := by
  refine (carried_iff_of_reply rfl rfl).2 ⟨?_, rfl⟩
  cases f <;> cases h <;> rfl

theorem carried_link {f : LinkCall} {first second : UInt32} {state : Bool} (ret : Int32)
    (h : bpSend (.call (.link f first second state)) = some m) :
    SwSend.Carried (.call (.link f first second state)) ret m := by
  cases h
  refine (carried_iff_of_reply rfl rfl).2 ⟨?_, rfl⟩
  cases f <;> exact readLink_word _ _ _ _

theorem carried_setMetadata {of : MetadataOf} {size : UInt32} {metadata : List.Vector UInt8 size.toNat} (ret : Int32)
    (h : bpSend (.call (.setMetadata of size metadata)) = some m) :
    SwSend.Carried (.call (.setMetadata of size metadata)) ret m := by
  refine (carried_iff_of_reply rfl rfl).2 ⟨?_, rfl⟩
  cases of <;> cases h <;> simp [onTransact]

theorem carried_aifSetMediaConfig {aifId : UInt32} {cfg : MediaConfig} (ret : Int32)
    (h : bpSend (.call (.aifSetMediaConfig aifId cfg)) = some m) :
    SwSend.Carried (.call (.aifSetMediaConfig aifId cfg)) ret m := by
  cases h
  refine (carried_iff_of_reply rfl rfl).2 ⟨?_, rfl⟩
  have hlen : (MediaConfig.layout.encode cfg).length = (16 : UInt32).toNat := MediaConfig.layout.length_encode cfg
  simp only [onTransact, Reader.bind_apply, readUint32_word, Option.bind_some, readBlob_of_length hlen,
    Reader.pure_apply]
  rw [List.Vector.toList_mk, Layout.decode_encode']

theorem carried_sessionSetConfig {handle : UInt64} {session : SessionConfig} {media : MediaConfig}
    {buffer : BufferConfig} (ret : Int32) (h : bpSend (.call (.sessionSetConfig handle session media buffer)) = some m) :
    SwSend.Carried (.call (.sessionSetConfig handle session media buffer)) ret m := by
  cases h
  refine (carried_iff_of_reply rfl rfl).2 ⟨?_, rfl⟩
  have hsession : session.toList.length = (56 : UInt32).toNat := session.toList_length
  have hmedia : (MediaConfig.layout.encode media).length = (16 : UInt32).toNat := MediaConfig.layout.length_encode media
  have hbuffer : (BufferConfig.layout.encode buffer).length = (24 : UInt32).toNat :=
    BufferConfig.layout.length_encode buffer
  simp only [onTransact, Reader.bind_apply, readInt64_dword, readUint32_word, Option.bind_some,
    readBlob_of_length hsession, readBlob_of_length hmedia, readBlob_of_length hbuffer, Reader.pure_apply]
  rw [List.Vector.toList_mk, List.Vector.toList_mk, List.Vector.toList_mk, Layout.decode_encode', Layout.decode_encode']
  exact congrArg (fun s => some (SwSend.call (.sessionSetConfig handle s media buffer), []))
    ((Layout.raw 56).decode_encode' session)

theorem carried_registerForEvents {sessionId : UInt32} {cfg : EventRegCfg} (ret : Int32)
    (h : bpSend (.call (.sessionRegisterForEvents sessionId cfg)) = some m) :
    SwSend.Carried (.call (.sessionRegisterForEvents sessionId cfg)) ret m := by
  cases h
  refine (carried_iff_of_reply rfl rfl).2 ⟨?_, rfl⟩
  obtain ⟨moduleInstanceId, eventId, payloadSize, isRegister, payload⟩ := cfg
  have hpayload : (Layout.raw payloadSize.toNat).decode payload.toList = payload :=
    (Layout.raw payloadSize.toNat).decode_encode' payload
  simp only [onTransact, Reader.bind_apply, readUint32_word, Option.bind_some, readBlob_toList, Reader.pure_apply,
    hpayload, UInt8.toUInt8_toUInt32]

end

/-- **The messages carry a call over exactly if they have room for it.**  Whatever the service answers, the stub reads
what the proxy has written, all of it and with the same values, and the proxy reads the whole reply and hands the caller
the return value, the data and the sizes of the service, if and only if `Fits` holds. -/
theorem sw_carried_iff {r : SwSend} (a : r.Answer) {m : SwCode × Parcel} (h : bpSend r = some m) :
    r.Carried a m ↔ r.Fits a := by
  cases r with
  | client register b =>
    cases register <;> cases h <;> exact iff_of_true ⟨rfl, [], (), rfl, rfl, rfl⟩ trivial
  | registerCb sessionId cb event clientData b =>
    cases h
    exact iff_of_true ⟨rfl, [ofRet a], a, rfl, rfl, rfl⟩ trivial
  | call c =>
    cases c with
    | init =>
      cases h
      exact iff_of_true ⟨rfl, [ofRet a], a, rfl, rfl, rfl⟩ trivial
    | aifSetMediaConfig aifId cfg => exact iff_of_true (carried_aifSetMediaConfig a h) trivial
    | setMetadata of size metadata => exact iff_of_true (carried_setMetadata a h) trivial
    | setParams of size payload => exact carried_setParams a h
    | sessionGetParams sessionId size payload => exact carried_sessionGetParams a.1 a.2 h
    | sessionAifGetTagModuleInfo sessionId aifId payload size =>
      cases payload <;> exact carried_getTagModuleInfo a.1 a.2.1 a.2.2 h
    | sessionAifSetCal sessionId aifId cfg => exact carried_sessionAifSetCal a h
    | setParamsWithTag sessionId aifId cfg => exact carried_setParamsWithTag a h
    | sessionRegisterForEvents sessionId cfg => exact iff_of_true (carried_registerForEvents a h) trivial
    | sessionOpen sessionId mode =>
      cases h
      exact iff_of_true ⟨rfl, [.dword a.2, ofRet a.1], a, rfl, rfl, rfl⟩ trivial
    | sessionSetConfig handle session media buffer => exact iff_of_true (carried_sessionSetConfig a h) trivial
    | onHandle f handle => exact iff_of_true (carried_onHandle a h) trivial
    | link f first second state => exact iff_of_true (carried_link a h) trivial
    | sessionRead handle count => exact carried_sessionRead a.1 a.2.1 a.2.2 h
    | sessionWrite handle count buff => exact carried_sessionWrite a.1 a.2 h
    | getHwProcessedBuffCnt handle dir => exact carried_getHwProcessedBuffCnt a h
    | getAifInfoList list num =>
      cases list <;> exact (carried_getAifInfoList a.1 a.2.1 a.2.2 h).trans (by simp [SwSend.Fits])
    | getSessionTime handle timestamp =>
      cases h
      exact iff_of_true ⟨rfl, [.dword a.2, ofRet a.1], a, rfl, rfl, rfl⟩ trivial
    | getBufferTimestamp sessionId =>
      cases h
      exact iff_of_true ⟨rfl, [.dword a.2, ofRet a.1], a, rfl, rfl, rfl⟩ trivial
    | sessionGetBufInfo sessionId flag => exact iff_of_true (carried_getBufInfo a.1 a.2 h) trivial
    | _ => cases h

/-- A read of four bytes that gets three. -/
theorem sw_carried_read :
    SwSend.Carried (.call (.sessionRead 5 4)) ((0 : Int32), ⟨[1, 2, 3, 0], rfl⟩, (3 : UInt64))
      (.read, [.dword 5, .word 4]) :=
  (sw_carried_iff (r := .call (.sessionRead 5 4)) (m := (.read, [.dword 5, .word 4]))
    ((0 : Int32), (⟨[1, 2, 3, 0], rfl⟩ : List.Vector UInt8 4), (3 : UInt64)) rfl).2 ⟨by decide, by decide⟩

/-- The service fills two of four bytes of tags: the stub writes a blob of two, and the proxy reads one of four.  And for
a list of two back ends the address of the list stays in the parcel. -/
theorem sw_not_carried :
    (∃ m, bpSend (.call (.sessionAifGetTagModuleInfo 1 2 true 4)) = some m ∧
      ¬ SwSend.Carried (.call (.sessionAifGetTagModuleInfo 1 2 true 4))
        ((0 : Int32), (⟨[7, 7, 0, 0], rfl⟩ : List.Vector UInt8 4), (2 : UInt64)) m) ∧
    ∃ m, bpSend (.call (.getAifInfoList true 2)) = some m ∧
      onTransact m.1 m.2 = some (.call (.getAifInfoList true 2), [ofPointer true]) := by
  refine ⟨⟨_, rfl, ?_⟩, _, rfl, rfl⟩
  have hreply : bnReply (.call (.sessionAifGetTagModuleInfo 1 2 true 4))
      ((0 : Int32), (⟨[7, 7, 0, 0], rfl⟩ : List.Vector UInt8 4), (2 : UInt64)) = some [.blob [7, 7], ofRet 0] := rfl
  exact not_carried_of_receive hreply rfl

end Agm.Ipc
