import Mathlib.Data.List.TakeWhile
import Agm.Parser.Cards

/-!
# The buffer of the card parser

The characters since the last tag are copied to `data_buf`, an array of `BUF_SIZE` bytes, behind the `offs` that are there.
`snd_data_handler` only counts what would not fit, and `snd_process_data_buf` writes a zero at `offs` before the text is
read, whatever `offs` has come to.
-/

namespace Agm.Parser

open Agm.Lib CString

namespace Buf

/-! ## The handlers and the buffer -/

/-- `struct xml_userdata`, with `data_buf` and what lies behind it. -/
structure UserData where
  dataBuf : Nat → Char := fun _ => '\x00'
  offs : Nat := 0
  /-- the other fields; the text in it is empty between the calls -/
  rest : XmlUserdata

/-- `snd_reset_data_buf`.  Each function here comes with the indices at which it reads or writes `data_buf`. -/
def sndResetDataBuf (s : UserData) : List Nat × UserData :=
  ([0], { s with dataBuf := Function.update s.dataBuf 0 '\x00', offs := 0 })

/-- `snd_start_tag`. -/
def sndStartTag (tag : CString) (s : UserData) : List Nat × UserData :=
  if s.rest.cardParsed then ([], s)
  else
    let r := sndResetDataBuf s
    (r.1, { r.2 with rest := Parser.sndStartTag tag s.rest })

/-- `memcpy` to `data_buf + offs`. -/
def copyTo (buf : Nat → Char) (offs : Nat) (text : CString) : Nat → Char := fun i =>
  if offs ≤ i ∧ i < offs + text.length then text.getD (i - offs) '\x00' else buf i

/-- `snd_data_handler`, where a `size_t` has `width` bits. -/
def sndDataHandler (width : Nat) (text : CString) (s : UserData) : List Nat × UserData :=
  let offs := (text.length + s.offs) % 2 ^ width
  if offs ≥ BUF_SIZE then ([], { s with offs })
  else (List.range' s.offs text.length, { s with dataBuf := copyTo s.dataBuf s.offs text, offs })

/-- The string in `data_buf`, with a zero at `offs`. -/
def UserData.text (s : UserData) : CString := ((List.range s.offs).map s.dataBuf).takeWhile (· ≠ '\x00')

/-- `snd_process_data_buf`.  What parses the properties reads the string, with its zero, and does not go behind it; what
`strtok_r` and `strlcpy` leave there is not read again. -/
def sndProcessDataBuf (tag : CString) (s : UserData) : List Nat × UserData :=
  if s.offs = 0 then ([], s)
  else
    let z := { s with dataBuf := Function.update s.dataBuf s.offs '\x00' }
    if z.rest.cardParsed ∨ z.rest.currentTag = .root then ([s.offs], z)
    else (s.offs :: List.range (z.text.length + 1),
      { z with rest := { sndParseProperties tag { z.rest with dataBuf := z.text } with dataBuf := [] } })

/-- `snd_end_tag`. -/
def sndEndTag (tag : CString) (s : UserData) : List Nat × UserData :=
  if s.rest.cardParsed then ([], s)
  else if s.rest.currentTag ≠ .card ∧ ¬ s.rest.cardFound then ([], s)
  else
    let p := sndProcessDataBuf tag s
    let r := sndResetDataBuf p.2
    (p.1 ++ r.1, { r.2 with rest := sndLeaveTag tag r.2.rest })

def bufStep (width : Nat) (ev : Sax) (s : UserData) : List Nat × UserData :=
  match ev with
  | .start tag => sndStartTag tag s
  | .stop tag => sndEndTag tag s
  | .data text => sndDataHandler width text s

/-- The indices are inside of `data_buf`. -/
def InBuf (accesses : List Nat) : Prop := ∀ a ∈ accesses, a < BUF_SIZE

instance (accesses : List Nat) : Decidable (InBuf accesses) := inferInstanceAs (Decidable (∀ a ∈ accesses, _))

/-- All the calls expat makes, up to the first that goes out of the buffer. -/
def bufRun (width : Nat) : List Sax → UserData → List Nat × UserData
  | [], s => ([], s)
  | ev :: evs, s =>
    let p := bufStep width ev s
    if InBuf p.1 then
      let q := bufRun width evs p.2
      (p.1 ++ q.1, q.2)
    else p

end Buf

/-! ## What keeps inside of the buffer -/

/-- A chunk does not take the count of the characters past what a `size_t` holds, to a number that is small again. -/
def NoLap (width : Nat) (ev : Sax) (d : XmlUserdata) : Prop :=
  match ev with
  | .data text => 2 ^ width ≤ d.dataBuf.length % 2 ^ width + text.length →
      BUF_SIZE ≤ (d.dataBuf.length % 2 ^ width + text.length) % 2 ^ width
  | _ => True

/-- The text fits where it is looked at, and the count does not come round. -/
def FitsBuf (width : Nat) (ev : Sax) (d : XmlUserdata) : Prop := Fits ev d ∧ NoLap width ev d

instance (width : Nat) (ev : Sax) (d : XmlUserdata) : Decidable (FitsBuf width ev d) := by
  unfold FitsBuf NoLap
  split <;> infer_instance

/-- What expat can report: there is no zero in a text, and its length is an `int`. -/
def Sax.Reported : Sax → Prop
  | .data text => '\x00' ∉ text ∧ text.length < 2 ^ 31
  | _ => True

instance (ev : Sax) : Decidable ev.Reported := by
  unfold Sax.Reported
  split <;> infer_instance

/-- The array holds the text that there is in the fields, as long as that fits. -/
structure Buf.UserData.Refines (width : Nat) (s : Buf.UserData) (d : XmlUserdata) : Prop where
  rest : s.rest = { d with dataBuf := [] }
  offs : s.offs = d.dataBuf.length % 2 ^ width
  text (h : s.offs < BUF_SIZE) : (List.range s.offs).map s.dataBuf = d.dataBuf
  noZero : '\x00' ∉ d.dataBuf

/-! ## The buffer -/

section

variable {buf : Nat → Char} {offs : Nat} {text : CString}

theorem map_copyTo (buf : Nat → Char) (offs : Nat) (text : CString) :
    (List.range (offs + text.length)).map (Buf.copyTo buf offs text) = (List.range offs).map buf ++ text := by
  rw [List.range_add, List.map_append, List.map_map]
  congr 1
  · refine List.map_congr_left fun i hi => ?_
    have hlt := List.mem_range.1 hi
    unfold Buf.copyTo
    rw [if_neg (by omega)]
  · refine List.ext_getElem (by simp) fun i hi hi' => ?_
    rw [List.getElem_map, List.getElem_range]
    show Buf.copyTo buf offs text (offs + i) = _
    unfold Buf.copyTo
    rw [if_pos (by omega), Nat.add_sub_cancel_left, List.getD_eq_getElem?_getD, List.getElem?_eq_getElem hi',
      Option.getD_some]

theorem inBuf_singleton {a : Nat} : Buf.InBuf [a] ↔ a < BUF_SIZE := List.forall_mem_singleton

theorem inBuf_append {l l' : List Nat} : Buf.InBuf (l ++ l') ↔ Buf.InBuf l ∧ Buf.InBuf l' := List.forall_mem_append

/-- The indices of a chunk are inside exactly if it ends inside. -/
theorem inBuf_range' {n : Nat} (hoffs : offs < BUF_SIZE ∨ 0 < n) :
    Buf.InBuf (List.range' offs n) ↔ offs + n ≤ BUF_SIZE := by
  constructor
  · intro hall
    by_cases hn : n = 0
    · omega
    · have hlast := hall (offs + (n - 1)) (List.mem_range'_1.2 (by omega))
      omega
  · intro hle a ha
    have hmem := List.mem_range'_1.1 ha
    omega

end

/-! ## A call -/

theorem dataBuf_sndLeaveTag (tag : CString) (d : XmlUserdata) : (sndLeaveTag tag d).dataBuf = d.dataBuf := by
  unfold sndLeaveTag
  split_ifs <;> rfl

section

variable {width : Nat} {s : Buf.UserData} {d : XmlUserdata}

/-- The text is empty in both. -/
theorem Buf.UserData.refines_nil (width : Nat) {buf : Nat → Char} (hd : d.dataBuf = []) :
    Buf.UserData.Refines width ⟨buf, 0, d⟩ d := by
  refine ⟨?_, ?_, fun _ => hd.symm, ?_⟩
  · rw [← hd]
  · rw [hd]
    exact (Nat.zero_mod _).symm
  · rw [hd]
    exact List.not_mem_nil

variable (h : s.Refines width d) (hwidth : 32 ≤ width)

include h

theorem Buf.UserData.Refines.length_eq (hlt : s.offs < BUF_SIZE) : d.dataBuf.length = s.offs := by
  have hlen := congrArg List.length (h.text hlt)
  simpa using hlen.symm

include hwidth

omit h in
theorem buf_size_lt : BUF_SIZE < 2 ^ width :=
  (show BUF_SIZE < 2 ^ 32 by decide).trans_le (Nat.pow_le_pow_right (by decide) hwidth)

/-- `offs` is small exactly if the text is. -/
theorem Buf.UserData.Refines.offs_lt_iff : s.offs < BUF_SIZE ↔ d.dataBuf.length < BUF_SIZE := by
  constructor
  · intro hlt
    rw [h.length_eq hlt]
    exact hlt
  · intro hlt
    rw [h.offs, Nat.mod_eq_of_lt (hlt.trans (buf_size_lt hwidth))]
    exact hlt

/-- `snd_data_handler`: with no more to copy than fits, the text goes on in both. -/
theorem sndDataHandler_refines {text : CString} (htext : '\x00' ∉ text) :
    (Buf.InBuf (Buf.sndDataHandler width text s).1 ↔ NoLap width (.data text) d) ∧
      (NoLap width (.data text) d → (Buf.sndDataHandler width text s).2.Refines width (sndDataHandler text d)) := by
  have hoffs := h.offs
  have hsize := buf_size_lt hwidth
  have hlt : s.offs < 2 ^ width := hoffs ▸ Nat.mod_lt _ (by omega)
  have hcount : (text.length + s.offs) % 2 ^ width = (d.dataBuf ++ text).length % 2 ^ width := by
    rw [hoffs, Nat.add_mod_mod, List.length_append, Nat.add_comm]
  have hnoZero : '\x00' ∉ d.dataBuf ++ text := by
    simp [h.noZero, htext]
  have hlap : NoLap width (.data text) d ↔
      (2 ^ width ≤ s.offs + text.length → BUF_SIZE ≤ (text.length + s.offs) % 2 ^ width) := by
    rw [hoffs, Nat.add_comm text.length]
    rfl
  rw [hlap]
  unfold Buf.sndDataHandler
  dsimp only
  by_cases hover : (text.length + s.offs) % 2 ^ width ≥ BUF_SIZE
  · -- the chunk is counted and not copied
    rw [if_pos hover]
    refine ⟨iff_of_true (fun a ha => nomatch ha) fun _ => hover, fun _ => ?_⟩
    exact ⟨h.rest, hcount, fun hsmall => absurd hsmall (not_lt.2 hover), hnoZero⟩
  · rw [if_neg hover]
    by_cases hround : s.offs + text.length < 2 ^ width
    · have hsum : (text.length + s.offs) % 2 ^ width = s.offs + text.length := by
        rw [Nat.add_comm, Nat.mod_eq_of_lt hround]
      rw [hsum] at hover hcount ⊢
      refine ⟨iff_of_true ((inBuf_range' (.inl (by omega))).2 (by omega)) fun hle => by omega, fun _ => ?_⟩
      refine ⟨h.rest, hcount, fun _ => ?_, hnoZero⟩
      rw [map_copyTo, h.text (by omega)]
      rfl
    · -- the count comes round, and the copy starts behind the buffer
      have hout : ¬ Buf.InBuf (List.range' s.offs text.length) := by
        rw [inBuf_range' (.inr (by omega))]
        omega
      have hnot : ¬ (2 ^ width ≤ s.offs + text.length → BUF_SIZE ≤ (text.length + s.offs) % 2 ^ width) :=
        fun hlap => hover (hlap (not_lt.1 hround))
      exact ⟨iff_of_false hout hnot, fun hlap => absurd hlap hnot⟩

omit hwidth in
/-- `snd_start_tag`, which leaves no text. -/
theorem sndStartTag_refines (tag : CString) : Buf.InBuf (Buf.sndStartTag tag s).1 ∧
    (Buf.sndStartTag tag s).2.Refines width (sndStartTag tag d) := by
  have hrest := h.rest
  have hsame : s.rest.cardParsed = d.cardParsed := by rw [hrest]
  by_cases hparsed : d.cardParsed
  · have hquiet : Buf.sndStartTag tag s = ([], s) := if_pos (hsame.trans hparsed)
    have hquiet' : sndStartTag tag d = d := if_pos hparsed
    rw [hquiet, hquiet']
    exact ⟨fun a ha => absurd ha List.not_mem_nil, h⟩
  · have hfalse := Bool.eq_false_iff.2 hparsed
    have hreset : Buf.sndStartTag tag s =
        ([0], ⟨Function.update s.dataBuf 0 '\x00', 0, Parser.sndStartTag tag s.rest⟩) := by
      unfold Buf.sndStartTag Buf.sndResetDataBuf
      rw [hsame, if_neg hparsed]
    rw [hreset, hrest, sndStartTag_dataBuf tag d [] hfalse]
    exact ⟨inBuf_singleton.2 (by decide), Buf.UserData.refines_nil width (sndStartTag_frame tag d hfalse).1⟩

omit h hwidth in
theorem Buf.UserData.length_text_le (s : Buf.UserData) : s.text.length ≤ s.offs := by
  have hle := (List.takeWhile_prefix (· ≠ '\x00') (l := (List.range s.offs).map s.dataBuf)).length_le
  rwa [List.length_map, List.length_range] at hle

omit hwidth in
/-- The string that is read is the text. -/
theorem Buf.UserData.Refines.text_eq (hlt : s.offs < BUF_SIZE) :
    Buf.UserData.text { s with dataBuf := Function.update s.dataBuf s.offs '\x00' } = d.dataBuf := by
  have hmap : (List.range s.offs).map (Function.update s.dataBuf s.offs '\x00') = d.dataBuf := by
    rw [← h.text hlt]
    refine List.map_congr_left fun i hi => ?_
    exact Function.update_of_ne (List.mem_range.1 hi).ne _ _
  unfold Buf.UserData.text
  dsimp only
  rw [hmap, List.takeWhile_eq_self_iff]
  intro c hc
  simp only [ne_eq, decide_not, Bool.not_eq_true', decide_eq_false_iff_not]
  rintro rfl
  exact h.noZero hc

omit hwidth in
/-- `snd_process_data_buf` writes a zero behind the text, and reads no further. -/
theorem sndProcessDataBuf_refines (hparsed : d.cardParsed = false) (tag : CString) :
    (Buf.InBuf (Buf.sndProcessDataBuf tag s).1 ↔ s.offs < BUF_SIZE) ∧
      (s.offs < BUF_SIZE → (Buf.sndProcessDataBuf tag s).2.rest =
        { if d.dataBuf = [] then d else sndParseProperties tag d with dataBuf := [] }) := by
  have hrest := h.rest
  have hnil (hlt : s.offs < BUF_SIZE) : d.dataBuf = [] ↔ s.offs = 0 := by
    rw [← List.length_eq_zero_iff, h.length_eq hlt]
  unfold Buf.sndProcessDataBuf
  by_cases h0 : s.offs = 0
  · rw [if_pos h0]
    refine ⟨iff_of_true (fun a ha => nomatch ha) (by rw [h0]; decide), fun hlt => ?_⟩
    rw [if_pos ((hnil hlt).2 h0)]
    exact hrest
  · rw [if_neg h0]
    dsimp only
    rw [hrest]
    dsimp only
    by_cases hroot : d.currentTag = .root
    · rw [if_pos (.inr hroot)]
      refine ⟨inBuf_singleton, fun _ => ?_⟩
      have hquiet : sndParseProperties tag d = d := by
        unfold sndParseProperties
        rw [hroot]
      rw [hquiet, ite_self]
    · rw [if_neg (not_or.2 ⟨Bool.eq_false_iff.1 hparsed, hroot⟩)]
      refine ⟨?_, fun hlt => ?_⟩
      · rw [← inBuf_singleton, ← List.singleton_append, inBuf_append, and_iff_left_iff_imp, inBuf_singleton]
        intro hlt a ha
        have hread := List.mem_range.1 ha
        have hlen := Buf.UserData.length_text_le { s with dataBuf := Function.update s.dataBuf s.offs '\x00' }
        exact (Nat.lt_succ_iff.1 hread).trans_lt (hlen.trans_lt hlt)
      · rw [if_neg (mt (hnil hlt).1 h0)]
        have htext := h.text_eq hlt
        rw [hrest] at htext
        rw [htext]

/-- `snd_end_tag`: the zero behind the text is the access that may be outside. -/
theorem sndEndTag_refines (tag : CString) :
    (Buf.InBuf (Buf.sndEndTag tag s).1 ↔ (d.Looks → d.dataBuf.length < BUF_SIZE)) ∧
      ∀ d', sndEndTag tag d = some d' → (Buf.sndEndTag tag s).2.Refines width d' := by
  have hrest := h.rest
  by_cases hlooks : d.Looks
  · have hno : ¬ (d.currentTag ≠ .card ∧ ¬ d.cardFound) := by
      rintro ⟨htag, hfound⟩
      exact hlooks.2.elim htag hfound
    obtain ⟨hin, hparse⟩ := sndProcessDataBuf_refines h hlooks.1 tag
    have hend : Buf.sndEndTag tag s = ((Buf.sndProcessDataBuf tag s).1 ++ [0],
        ⟨Function.update (Buf.sndProcessDataBuf tag s).2.dataBuf 0 '\x00', 0,
          sndLeaveTag tag (Buf.sndProcessDataBuf tag s).2.rest⟩) := by
      have hparsed : ¬ s.rest.cardParsed := by
        rw [hrest]
        exact Bool.eq_false_iff.1 hlooks.1
      have hno' : ¬ (s.rest.currentTag ≠ .card ∧ ¬ s.rest.cardFound) := by
        rw [hrest]
        exact hno
      unfold Buf.sndEndTag Buf.sndResetDataBuf
      rw [if_neg hparsed, if_neg hno']
    have hpos : 0 < BUF_SIZE := by decide
    have hlt := h.offs_lt_iff hwidth
    rw [hend, ← hlt]
    dsimp only
    refine ⟨?_, ?_⟩
    · rw [inBuf_append, inBuf_singleton, and_iff_left hpos, hin]
      exact ⟨fun hlt _ => hlt, fun hlt => hlt hlooks⟩
    · intro d' hd
      rw [sndEndTag_looks hlooks] at hd
      split at hd
      · next hlen =>
        obtain rfl := Option.some.inj hd
        rw [hparse (hlt.2 hlen)]
        exact Buf.UserData.refines_nil width (dataBuf_sndLeaveTag tag _)
      · cases hd
  · have hquiet : Buf.sndEndTag tag s = ([], s) := by
      unfold Buf.sndEndTag
      rw [hrest]
      dsimp only
      by_cases hparsed : d.cardParsed
      · rw [if_pos hparsed]
      · rw [if_neg hparsed, if_pos]
        refine ⟨fun htag => hlooks ⟨Bool.eq_false_iff.2 hparsed, .inl htag⟩, fun hfound => ?_⟩
        exact hlooks ⟨Bool.eq_false_iff.2 hparsed, .inr hfound⟩
    rw [hquiet, sndEndTag_not_looks hlooks]
    refine ⟨iff_of_true (fun a ha => nomatch ha) fun hl => absurd hl hlooks, ?_⟩
    rintro d' hd
    obtain rfl := Option.some.inj hd
    exact h

/-- **One call.**  It stays inside exactly if the text fits and the count does not come round, and then the array goes on
holding the text. -/
theorem bufStep_refines {ev : Sax} (hev : ev.Reported) :
    (Buf.InBuf (Buf.bufStep width ev s).1 ↔ FitsBuf width ev d) ∧
      (FitsBuf width ev d → ∀ d', saxStep ev d = some d' → (Buf.bufStep width ev s).2.Refines width d') := by
  unfold FitsBuf
  cases ev with
  | start tag =>
    obtain ⟨hin, hnext⟩ := sndStartTag_refines h tag
    refine ⟨iff_of_true hin ⟨trivial, trivial⟩, fun _ d' hd => ?_⟩
    obtain rfl := Option.some.inj hd
    exact hnext
  | stop tag =>
    obtain ⟨hin, hnext⟩ := sndEndTag_refines h hwidth tag
    exact ⟨hin.trans (and_iff_left trivial).symm, fun _ d' hd => hnext d' hd⟩
  | data text =>
    obtain ⟨hin, hnext⟩ := sndDataHandler_refines h hwidth hev.1
    refine ⟨hin.trans (and_iff_right trivial).symm, fun hfits d' hd => ?_⟩
    obtain rfl := Option.some.inj hd
    exact hnext hfits.2

/-- **A run.** -/
theorem bufRun_refines {evs : List Sax} (hevs : ∀ ev ∈ evs, ev.Reported) :
    (Buf.InBuf (Buf.bufRun width evs s).1 ↔ AllEvents (FitsBuf width) evs d) ∧
      (AllEvents (FitsBuf width) evs d → ∃ d', saxRun evs d = some d' ∧ (Buf.bufRun width evs s).2.Refines width d') := by
  induction evs generalizing s d with
  | nil => exact ⟨iff_of_true (fun a ha => absurd ha List.not_mem_nil) trivial, fun _ => ⟨d, rfl, h⟩⟩
  | cons ev evs ih =>
    obtain ⟨hin, hnext⟩ := bufStep_refines h hwidth (hevs ev List.mem_cons_self)
    have hrest : ∀ ev ∈ evs, ev.Reported := fun ev' hmem => hevs ev' (List.mem_cons_of_mem _ hmem)
    unfold Buf.bufRun
    dsimp only
    by_cases hfits : FitsBuf width ev d
    · obtain ⟨d', hd⟩ := Option.isSome_iff_exists.1 ((saxStep_isSome_iff ev d).2 hfits.1)
      obtain ⟨hall, hlast⟩ := ih (hnext hfits d' hd) hrest
      have hevents : AllEvents (FitsBuf width) (ev :: evs) d ↔ AllEvents (FitsBuf width) evs d' := by
        show (FitsBuf width ev d ∧ ∀ d' ∈ saxStep ev d, AllEvents (FitsBuf width) evs d') ↔ _
        simp [hfits, hd]
      have hrun : saxRun (ev :: evs) d = saxRun evs d' := by
        show (saxStep ev d).bind (saxRun evs) = _
        rw [hd, Option.bind_some]
      rw [if_pos (hin.2 hfits), hevents, hrun]
      refine ⟨?_, hlast⟩
      rw [inBuf_append, and_iff_right (hin.2 hfits), hall]
    · rw [if_neg (mt hin.1 hfits)]
      exact ⟨iff_of_false (mt hin.1 hfits) fun hevents => hfits hevents.1, fun hevents => absurd hevents.1 hfits⟩

end

/-- `memset` has cleared the structure. -/
def Buf.UserData.start (card : Nat) (cardName : Option CString) : Buf.UserData := { rest := { card, cardName } }

theorem refines_start (width card : Nat) (cardName : Option CString) :
    (Buf.UserData.start card cardName).Refines width { card, cardName } := Buf.UserData.refines_nil width rfl

/-- While all accesses are inside, the card that is parsed is the one that the texts alone give. -/
theorem bufRun_parseCard {width : Nat} (hwidth : 32 ≤ width) (card : Nat) (cardName : Option CString) {evs : List Sax}
    (hevs : ∀ ev ∈ evs, ev.Reported) (hin : Buf.InBuf (Buf.bufRun width evs (Buf.UserData.start card cardName)).1) :
    parseCard card cardName evs =
      some (Buf.bufRun width evs (Buf.UserData.start card cardName)).2.rest.curCardDef := by
  obtain ⟨hiff, hlast⟩ := bufRun_refines (refines_start width card cardName) hwidth hevs
  obtain ⟨d, hrun, hrefines⟩ := hlast (hiff.1 hin)
  unfold parseCard
  rw [hrun, hrefines.rest]
  rfl

/-- **The buffer.**  Every access of the parser to `data_buf` is inside exactly if, at every end tag that is looked at, the
characters since the last tag are fewer than the buffer holds, and no chunk takes their count round what a `size_t` holds
to a number that is small again. -/
theorem dataBuf_inBuf_iff {width : Nat} (hwidth : 32 ≤ width) (card : Nat) (cardName : Option CString) (evs : List Sax)
    (hevs : ∀ ev ∈ evs, ev.Reported) : Buf.InBuf (Buf.bufRun width evs (Buf.UserData.start card cardName)).1 ↔
      AllEvents (FitsBuf width) evs { card, cardName } :=
  (bufRun_refines (refines_start width card cardName) hwidth hevs).1

/-- A text of 1023 characters fits. -/
theorem dataBuf_inBuf_full :
    let evs : List Sax := [.start tagCard, .start tagName, .data (List.replicate 1023 'x'), .stop tagName, .stop tagCard]
    Buf.InBuf (Buf.bufRun 64 evs (Buf.UserData.start 0 none)).1 :=
  (dataBuf_inBuf_iff (by decide) 0 none
    [.start tagCard, .start tagName, .data (List.replicate 1023 'x'), .stop tagName, .stop tagCard]
    (by decide +kernel)).2 (by decide +kernel)

/-- A name of 1024 characters, in two chunks: the second is not copied, but at the end of the name the zero is written to
index 1024. -/
theorem dataBuf_behind :
    let evs : List Sax := [.start tagCard, .start tagName, .data (List.replicate 1012 'x'), .data (List.replicate 12 'x'),
      .stop tagName, .stop tagCard]
    (∀ ev ∈ evs, ev.Reported) ∧ 1024 ∈ (Buf.bufRun 64 evs (Buf.UserData.start 0 none)).1 ∧
      ¬ Buf.InBuf (Buf.bufRun 64 evs (Buf.UserData.start 0 none)).1 := by
  exact ⟨by decide +kernel, by decide +kernel, by decide +kernel⟩

end Agm.Parser
