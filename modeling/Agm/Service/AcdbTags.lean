import Agm.Lib.Words
import Agm.Service.AcdbTunnel

/-!
# The module that a parameter for the ACDB goes to

The first header of a parameter blob comes with a tag in the place of the module id.  `graph_set_acdb_param` gets the
tag table of the graph into a pool of 1024 bytes, looks for the tag, and puts the instance id of the first module under
it into every header.

Each entry of the table is a tag, the number of its modules, and the modules; the search steps over an entry by that
number.
-/

namespace Agm.Service

open Agm.Lib

/-! ## The tag table -/

/-- `struct gsl_tag_module_info_entry`, with its modules: a module id and an instance id each. -/
structure TagInfoEntry where
  tagId : UInt32
  modules : List (UInt32 × UInt32)
  deriving DecidableEq

/-- The words of an entry. -/
def TagInfoEntry.words (e : TagInfoEntry) : List Nat :=
  [e.tagId.toNat, e.modules.length] ++ e.modules.flatMap fun m => [m.1.toNat, m.2.toNat]

def entryWords (table : List TagInfoEntry) : List Nat := table.flatMap TagInfoEntry.words

/-- The bytes of `struct gsl_tag_module_info`. -/
def tagInfoBytes (table : List TagInfoEntry) : List UInt8 := (table.length :: entryWords table).flatMap le32

def TAGGED_MOD_SIZE_BYTES : Nat := 1024

/-- What GSL answers: the return codes, and the table; `rest` is what is in memory behind it. -/
structure AcdbGsl where
  tagsSize : Int := 0
  tags : Int := 0
  setData : Int := 0
  table : List TagInfoEntry
  rest : Mem := fun _ => 0

/-- The size that the first call to `gsl_get_tags_with_module_info` asks for. -/
def AcdbGsl.size (g : AcdbGsl) : Nat := (tagInfoBytes g.table).length

/-- `tag_pool` after the second call, which is given that size and not the one of the pool. -/
def AcdbGsl.tagPool (g : AcdbGsl) : Mem := g.rest.store 0 (tagInfoBytes g.table)

/-- The search for the tag in the `n` entries from `a` on: the instance id of the first module. -/
def searchTagPool (pool : Mem) (tag : Nat) : Nat → Nat → Option Nat
  | 0, _ => none
  | n + 1, a =>
    let offset := (8 + 8 * pool.word (a + 4)) % 2 ^ 32
    if pool.word a = tag ∧ pool.word (a + 4) ≠ 0 then some (pool.word (a + 12))
    else searchTagPool pool tag n (a + offset / 8 * 8)

/-- The tag that the first header comes with. -/
def AcdbTunnelParam.requestedTag (t : Target) (p : AcdbTunnelParam) : Nat := p.blob.word (p.kvBytes t)

/-- The answers as the rest of `graph_set_acdb_param` takes them.  Where the search finds nothing `miid` is still 0, and
the error in `ret` is overwritten by the return code of the last call. -/
def AcdbGsl.answers (t : Target) (g : AcdbGsl) (p : AcdbTunnelParam) : AcdbAnswers where
  tagsSize := g.tagsSize
  tags := g.tags
  miid := UInt32.ofNat ((searchTagPool g.tagPool (p.requestedTag t) (g.tagPool.word 0) 4).getD 0)
  setData := g.setData

/-! ## What it is for -/

/-- The instance id of the first module listed under the tag. -/
def listedMiid (tag : Nat) (table : List TagInfoEntry) : Option UInt32 :=
  table.findSome? fun e => if e.tagId.toNat = tag then e.modules.head?.map Prod.snd else none

/-- The headers of the list of `size` bytes from `start` on that lie in it: behind each parameter, padded to eight bytes,
there is the next. -/
inductive ParamHeader (blob : Mem) (start size : Nat) : Nat → Prop
  | first (inside : PARAM_HEADER ≤ size) : ParamHeader blob start size start
  | next {a : Nat} (h : ParamHeader blob start size a)
      (inside : a + pad8 (PARAM_HEADER + blob.word (a + 8)) + PARAM_HEADER ≤ start + size) :
      ParamHeader blob start size (a + pad8 (PARAM_HEADER + blob.word (a + 8)))

/-- The call, begun at `s`, comes to set `d`. -/
def AcdbTunnelParam.Sets (t : Target) (o : AcdbAnswers) (p : AcdbTunnelParam) (s : ParamLoop) (d : AcdbData) : Prop :=
  ∃ u, Visits (p.turn t o) s u ∧ p.turn t o u = none ∧ d = (graphSetAcdbParamDone t o p u).2

/-- Every header in the data has the instance id. -/
def AcdbTunnelParam.HeadersHave (t : Target) (p : AcdbTunnelParam) (iid : UInt32) (d : AcdbData) : Prop :=
  ∀ a, ParamHeader p.blob (p.kvBytes t) (p.actualSize t) a → (d.param.drop (a - p.kvBytes t)).take 4 = le32 iid.toNat

/-- **The tag is translated.**  Where an error is returned it is one; where the call goes on, the table has been read from
a pool that holds it, there is a module under the tag, and what is set has its id in all headers. -/
def Translates (t : Target) (g : AcdbGsl) (payload : Option AcdbTunnelParam) : Prop :=
  (∀ r p, payload = some p → graphSetAcdbParam t (g.answers t p) payload = .error r → r ≠ 0) ∧
    ∀ p s, payload = some p → graphSetAcdbParam t (g.answers t p) payload = .ok s →
      g.size ≤ TAGGED_MOD_SIZE_BYTES ∧ ∃ iid, listedMiid (p.requestedTag t) g.table = some iid ∧
        ∀ d, p.Sets t (g.answers t p) s d → p.HeadersHave t iid d

/-! ## The search -/

section

variable {m : Mem} {a n i tag : Nat} {e : TagInfoEntry} {table : List TagInfoEntry}

theorem getElem?_words (h : i < n) : (m.words a n)[i]? = some (m.word (a + 4 * i)) := by
  simp [Mem.words, h]

theorem length_entry_words (e : TagInfoEntry) : e.words.length = 2 + 2 * e.modules.length := by
  have hmods (l : List (UInt32 × UInt32)) : (l.flatMap fun m => [m.1.toNat, m.2.toNat]).length = 2 * l.length := by
    induction l with
    | nil => rfl
    | cons m l ih =>
      rw [List.flatMap_cons, List.length_append, ih]
      simp
      omega
  rw [TagInfoEntry.words, List.length_append, hmods]
  rfl

theorem AcdbGsl.size_eq (g : AcdbGsl) : g.size = 4 * (1 + (entryWords g.table).length) := by
  rw [AcdbGsl.size, tagInfoBytes, length_flatMap_le32, List.length_cons, Nat.add_comm]

/-- The words that the search reads of an entry. -/
theorem entry_words_read (h : m.words a e.words.length = e.words) :
    m.word a = e.tagId.toNat ∧ m.word (a + 4) = e.modules.length ∧
      ∀ p ∈ e.modules.head?, m.word (a + 12) = p.2.toNat := by
  have hlen := length_entry_words e
  have hread (i : Nat) (hi : i < e.words.length) : e.words[i]? = some (m.word (a + 4 * i)) := by
    rw [← getElem?_words hi, h]
  refine ⟨?_, ?_, fun p hp => ?_⟩
  · exact (Option.some.inj (hread 0 (by omega))).symm
  · exact (Option.some.inj (hread 1 (by omega))).symm
  · obtain ⟨ms, hms⟩ := List.head?_eq_some_iff.1 hp
    have hthird := hread 3 (by rw [hlen, hms, List.length_cons]; omega)
    rw [TagInfoEntry.words, hms] at hthird
    exact (Option.some.inj hthird).symm

/-- **The search finds the first module under the tag.**  The induction is on the table, with the place of the entry that
the search is at. -/
theorem searchTagPool_eq (hfits : 4 * (entryWords table).length < 2 ^ 32)
    (h : m.words a (entryWords table).length = entryWords table) :
    searchTagPool m tag table.length a = (listedMiid tag table).map UInt32.toNat := by
  induction table generalizing a with
  | nil => rfl
  | cons e table ih =>
    have hlen := length_entry_words e
    have hsplit : (entryWords (e :: table)).length = e.words.length + (entryWords table).length := by
      rw [entryWords, List.flatMap_cons, List.length_append]
      rfl
    rw [hsplit, Mem.words_add] at h
    obtain ⟨hentry, hrest⟩ := List.append_inj h (Mem.length_words _ _ _)
    obtain ⟨htag, hnum, hfirst⟩ := entry_words_read hentry
    have hoffset : (8 + 8 * m.word (a + 4)) % 2 ^ 32 / 8 * 8 = 4 * e.words.length := by
      rw [hnum, hlen]
      omega
    have hstep := ih (a := a + 4 * e.words.length) (by omega) hrest
    rw [List.length_cons, searchTagPool, listedMiid, List.findSome?_cons]
    rw [hoffset, htag, hnum]
    by_cases heq : e.tagId.toNat = tag
    · rw [if_pos heq]
      cases hmods : e.modules with
      | nil =>
        simp only [List.length_nil, List.head?_nil, Option.map_none]
        rw [if_neg (by simp)]
        exact hstep
      | cons p ps =>
        rw [hmods] at hfirst
        simp only [List.length_cons, List.head?_cons, Option.map_some]
        rw [if_pos ⟨heq, by omega⟩, hfirst p rfl]
    · rw [if_neg heq, if_neg fun h => heq h.1]
      exact hstep

/-- In a pool that holds the table the search comes to the listed module. -/
theorem AcdbGsl.searchTagPool_eq {g : AcdbGsl} (hsize : g.size ≤ TAGGED_MOD_SIZE_BYTES) (tag : Nat) :
    searchTagPool g.tagPool tag (g.tagPool.word 0) 4 = (listedMiid tag g.table).map UInt32.toNat := by
  unfold TAGGED_MOD_SIZE_BYTES at hsize
  rw [g.size_eq] at hsize
  have hcount : g.table.length ≤ (entryWords g.table).length := by
    have (l : List TagInfoEntry) : l.length ≤ (entryWords l).length := by
      induction l with
      | nil => exact le_refl _
      | cons e l ih =>
        have hlen := length_entry_words e
        rw [entryWords, List.flatMap_cons, List.length_append]
        unfold entryWords at ih
        rw [List.length_cons]
        omega
    exact this _
  have hlt : ∀ w ∈ g.table.length :: entryWords g.table, w < 2 ^ 32 := by
    intro w hw
    rcases List.mem_cons.1 hw with rfl | hw
    · omega
    obtain ⟨e, he, hw⟩ := List.mem_flatMap.1 hw
    rcases List.mem_append.1 hw with hw | hw
    · have hle : e.words.length ≤ (entryWords g.table).length := (List.sublist_flatten_of_mem
        (List.mem_map.2 ⟨e, he, rfl⟩)).length_le
      have hlen := length_entry_words e
      simp only [List.mem_cons, List.not_mem_nil, or_false] at hw
      rcases hw with rfl | rfl
      · exact e.tagId.toNat_lt
      · omega
    · obtain ⟨p, -, hw⟩ := List.mem_flatMap.1 hw
      simp only [List.mem_cons, List.not_mem_nil, or_false] at hw
      rcases hw with rfl | rfl
      · exact p.1.toNat_lt
      · exact p.2.toNat_lt
  have hwords : g.tagPool.words 0 (1 + (entryWords g.table).length) = g.table.length :: entryWords g.table := by
    have hbytes := Mem.bytes_store g.rest 0 (tagInfoBytes g.table)
    have := Mem.words_of_bytes hlt hbytes
    rwa [List.length_cons, Nat.add_comm] at this
  rw [Mem.words_add, Mem.words_one] at hwords
  obtain ⟨hnum, hentries⟩ := List.cons.inj hwords
  rw [hnum]
  exact Service.searchTagPool_eq (by omega) hentries

end

/-! ## The headers -/

section

variable {t : Target} {o : AcdbAnswers} {p : AcdbTunnelParam} {s u : ParamLoop} {a : Nat}

/-- The loop has put the id into the header that it is at. -/
def ParamLoop.Written (miid : UInt32) (a : Nat) (s : ParamLoop) : Prop := s.blob.bytes a 4 = le32 miid.toNat

theorem bytes_setMiid (blob : Mem) (miid : UInt32) (a : Nat) : (setMiid blob miid a).bytes a 4 = le32 miid.toNat :=
  Mem.bytes_store blob a (le32 miid.toNat)

theorem bytes_setMiid_of_le (blob : Mem) (miid : UInt32) {a b : Nat} (h : b + 4 ≤ a) :
    (setMiid blob miid a).bytes b 4 = blob.bytes b 4 := by
  refine List.map_congr_left fun i hi => ?_
  have hlt := List.mem_range.1 hi
  exact Mem.store_of_lt _ _ (by omega)

/-- Every step is a whole number of eight bytes. -/
theorem eight_dvd_paramOffset (blob : Mem) (a : Nat) : 8 ∣ (paramOffset blob a).toNat := by
  unfold paramOffset alignPayload32 pad8
  rw [UInt32.toNat_ofNat']
  omega

/-- What holds of the loop whenever it decides whether it goes on. -/
theorem loopInv_of_visits (h : Visits (p.turn t o) (p.firstHeader t o) s) :
    p.LoopInv t s ∧ s.Written o.miid s.header := by
  induction h with
  | refl => exact ⟨loopInv_firstHeader, bytes_setMiid _ _ _⟩
  | tail _ hturn ih =>
    refine ⟨ih.1.turn hturn, ?_⟩
    obtain ⟨-, -, hblob, -⟩ := p.turn_eq_some hturn
    rw [ParamLoop.Written, hblob]
    exact bytes_setMiid _ _ _

/-- A header that has been written keeps the id: the loop stays at it or goes on by eight bytes or more. -/
theorem written_of_visits (hs : Visits (p.turn t o) (p.firstHeader t o) s) (h : Visits (p.turn t o) s u) :
    u.Written o.miid s.header ∧ (u.header = s.header ∨ s.header + 8 ≤ u.header) := by
  induction h with
  | refl => exact ⟨(loopInv_of_visits hs).2, .inl rfl⟩
  | @tail v u hsv hturn ih =>
    obtain ⟨hwritten, hplace⟩ := ih
    have hdvd := eight_dvd_paramOffset p.blob v.header
    rw [← (loopInv_of_visits (hs.trans hsv)).1.offset] at hdvd
    obtain ⟨-, hheader, hblob, -⟩ := p.turn_eq_some hturn
    have hplace' : u.header = s.header ∨ s.header + 8 ≤ u.header := by
      rw [hheader]
      omega
    refine ⟨?_, hplace'⟩
    unfold ParamLoop.Written at hwritten ⊢
    rw [hblob]
    rcases hplace' with hsame | hlater
    · rw [hsame]
      exact bytes_setMiid _ _ _
    · rw [bytes_setMiid_of_le _ _ (by omega)]
      exact hwritten

/-- **Every header of the list is visited.**  The induction is on the header; the list has to be shorter than `2 ^ 32`, as
the loop counts in 32 bits. -/
theorem visits_paramHeader (hsize : p.actualSize t < 2 ^ 32)
    (h : ParamHeader p.blob (p.kvBytes t) (p.actualSize t) a) :
    ∃ s, Visits (p.turn t o) (p.firstHeader t o) s ∧ s.header = a := by
  induction h with
  | first inside => exact ⟨_, .refl _, rfl⟩
  | @next a h inside ih =>
    obtain ⟨s, hs, rfl⟩ := ih
    have hinv := (loopInv_of_visits hs).1
    have hstart := hinv.start
    unfold PARAM_HEADER at inside ⊢
    have hle := le_pad8 (16 + p.blob.word (s.header + 8))
    have hoffset : s.offset.toNat = pad8 (16 + p.blob.word (s.header + 8)) := by
      have hsum : (16 + p.blob.word (s.header + 8)) % 2 ^ 32 = 16 + p.blob.word (s.header + 8) :=
        Nat.mod_eq_of_lt (by omega)
      rw [hinv.offset, paramOffset, alignPayload32, PARAM_HEADER, UInt32.toNat_ofNat', UInt32.toNat_ofNat', hsum]
      exact Nat.mod_eq_of_lt (by omega)
    cases hturn : p.turn t o s with
    | none =>
      have hdone := AcdbTunnelParam.turn_eq_none_iff.1 hturn
      rw [hinv.total] at hdone
      omega
    | some s' =>
      obtain ⟨-, hheader, -⟩ := p.turn_eq_some hturn
      exact ⟨s', hs.tail hturn, by rw [hheader, hoffset]⟩

theorem paramHeader_le (h : ParamHeader p.blob (p.kvBytes t) (p.actualSize t) a) :
    p.kvBytes t ≤ a ∧ a + PARAM_HEADER ≤ p.kvBytes t + p.actualSize t := by
  cases h with
  | first inside => omega
  | next h inside =>
    have (a : Nat) (h : ParamHeader p.blob (p.kvBytes t) (p.actualSize t) a) : p.kvBytes t ≤ a := by
      induction h with
      | first => exact le_refl _
      | next _ _ ih => exact Nat.le_add_right_of_le ih
    exact ⟨Nat.le_add_right_of_le (this _ h), inside⟩

/-- What is set has the id in every header. -/
theorem headersHave_of_sets {d : AcdbData} (h : p.Sets t o (p.firstHeader t o) d) : p.HeadersHave t o.miid d := by
  obtain ⟨u, hu, hdone, rfl⟩ := h
  have hsize := AcdbTunnelParam.turn_eq_none_iff.1 hdone
  have hlt := u.totalParsedSize.toNat_lt
  intro a ha
  obtain ⟨hstart, hend⟩ := paramHeader_le ha
  obtain ⟨s, hs, rfl⟩ := visits_paramHeader (o := o) (by omega) ha
  have hwritten := (written_of_visits hs (hs.to_last hu hdone)).1
  unfold PARAM_HEADER at hend
  show ((u.blob.bytes (p.kvBytes t) (p.actualSize t)).drop _).take 4 = _
  rw [Mem.take_drop_bytes _ (by omega)]
  have hplace : p.kvBytes t + (s.header - p.kvBytes t) = s.header := by omega
  rw [hplace]
  exact hwritten

end

/-- **The tag is translated exactly if there is no payload, GSL refuses one of the two queries, or the table fits the pool
and has a module under the tag.**  For every payload and every table. -/
theorem translates_iff (t : Target) (g : AcdbGsl) (payload : Option AcdbTunnelParam) :
    Translates t g payload ↔ ∀ p ∈ payload, g.tagsSize = 0 → g.tags = 0 →
      g.size ≤ TAGGED_MOD_SIZE_BYTES ∧ (listedMiid (p.requestedTag t) g.table).isSome := by
  constructor
  · rintro ⟨-, h⟩ p rfl hsize htags
    have hok : graphSetAcdbParam t (g.answers t p) (some p) = .ok (p.firstHeader t (g.answers t p)) := by
      simp [graphSetAcdbParam, AcdbGsl.answers, hsize, htags]
    obtain ⟨hfits, iid, hiid, -⟩ := h p _ rfl hok
    exact ⟨hfits, Option.isSome_iff_exists.2 ⟨iid, hiid⟩⟩
  · intro h
    constructor
    · rintro r p rfl herr
      rw [graphSetAcdbParam] at herr
      split_ifs at herr with hsize htags
      · exact Except.error.inj herr ▸ hsize
      · exact Except.error.inj herr ▸ htags
    · rintro p s rfl hok
      rw [graphSetAcdbParam] at hok
      split_ifs at hok with hsize htags
      obtain rfl := Except.ok.inj hok
      obtain ⟨hfits, hlisted⟩ := h p rfl (not_not.1 hsize) (not_not.1 htags)
      obtain ⟨iid, hiid⟩ := Option.isSome_iff_exists.1 hlisted
      refine ⟨hfits, iid, hiid, fun d hd => ?_⟩
      have hmiid : (g.answers t p).miid = iid := by
        show UInt32.ofNat _ = iid
        rw [AcdbGsl.searchTagPool_eq hfits, hiid, Option.map_some, Option.getD_some, UInt32.ofNat_toNat]
      rw [← hmiid]
      exact headersHave_of_sets hd

/-- One parameter for the tag 5. -/
def AcdbTunnelParam.forTag : AcdbTunnelParam :=
  { isTKV := true, tag := 0, numGkvs := 0, numKvs := 0, blobSize := 24
    blob := fun i => if i = 0 then 5 else if i = 8 then 8 else 0 }

/-- A graph without the tag: the parameter is set for the module 0.  And one with so many modules that the table does not
fit the pool. -/
theorem not_translates :
    (∃ s, graphSetAcdbParam {} (AcdbGsl.answers {} ⟨0, 0, 0, [⟨7, [(1, 2)]⟩], fun _ => 0⟩ .forTag) (some .forTag) = .ok s ∧
      AcdbTunnelParam.forTag.turn {} (AcdbGsl.answers {} ⟨0, 0, 0, [⟨7, [(1, 2)]⟩], fun _ => 0⟩ .forTag) s = none) ∧
    ¬ Translates {} ⟨0, 0, 0, [⟨7, [(1, 2)]⟩], fun _ => 0⟩ (some .forTag) ∧
    ¬ Translates {} ⟨0, 0, 0, [⟨5, List.replicate 128 (1, 2)⟩], fun _ => 0⟩ (some .forTag) := by
  refine ⟨⟨_, rfl, by decide⟩, fun h => ?_, fun h => ?_⟩
  · obtain ⟨-, iid, hiid, -⟩ := h.2 _ _ rfl rfl
    exact Option.some_ne_none iid hiid.symm
  · obtain ⟨hfits, -⟩ := h.2 _ _ rfl rfl
    rw [AcdbGsl.size_eq] at hfits
    simp [entryWords, length_entry_words, TAGGED_MOD_SIZE_BYTES] at hfits

end Agm.Service
