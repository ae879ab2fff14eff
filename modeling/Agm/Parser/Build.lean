import Agm.Parser.Document

/-!
# The card that is built

The handlers are in one of two modes.  While a card is passed over nothing but the tag and the characters change; in the
card that is asked for every element goes where it belongs, unless a property has the name of something else.
-/

namespace Agm.Parser

open Agm.Lib CString

/-! ## Runs -/

theorem saxRun_append (xs ys : List Sax) (d : XmlUserdata) : saxRun (xs ++ ys) d = (saxRun xs d).bind (saxRun ys) := by
  induction xs generalizing d with
  | nil => rfl
  | cons ev xs ih =>
    show (saxStep ev d).bind (saxRun (xs ++ ys)) = ((saxStep ev d).bind (saxRun xs)).bind (saxRun ys)
    rw [Option.bind_assoc]
    congr 1
    funext d
    exact ih d

theorem saxRun_data (chunks : List CString) (d : XmlUserdata) :
    saxRun (chunks.map .data) d = some { d with dataBuf := d.dataBuf ++ chunks.flatten } := by
  induction chunks generalizing d with
  | nil =>
    rw [List.flatten_nil, List.append_nil]
    rfl
  | cons s chunks ih =>
    show saxRun (chunks.map .data) (sndDataHandler s d) = _
    rw [ih, List.flatten_cons, ← List.append_assoc]
    rfl

theorem saxRun_blank (b : Blank) (d : XmlUserdata) :
    saxRun b.events d = some { d with dataBuf := d.dataBuf ++ b.text } := saxRun_data b.chunks d

/-- A start tag forgets the characters before it. -/
theorem sndStartTag_dataBuf (tag : CString) (d : XmlUserdata) (buf : CString) (h : d.cardParsed = false) :
    sndStartTag tag { d with dataBuf := buf } = sndStartTag tag d := by
  unfold sndStartTag
  rw [if_neg (Bool.eq_false_iff.1 h), if_neg (Bool.eq_false_iff.1 h)]
  by_cases hp : (nodeTypeOf tag).isNone ∧ hasPlugin tag
  · simp only [if_pos hp]
    rfl
  · simp only [if_neg hp]

theorem sndDevDefInit_frame (nodeType : Option NodeType) (d : XmlUserdata) :
    (sndDevDefInit nodeType d).dataBuf = d.dataBuf ∧ (sndDevDefInit nodeType d).cardParsed = d.cardParsed ∧
    (sndDevDefInit nodeType d).cardFound = d.cardFound ∧ (sndDevDefInit nodeType d).currentTag = d.currentTag := by
  unfold sndDevDefInit
  split <;> exact ⟨rfl, rfl, rfl, rfl⟩

theorem sndStartTag_frame (tag : CString) (d : XmlUserdata) (h : d.cardParsed = false) :
    (sndStartTag tag d).dataBuf = [] ∧ (sndStartTag tag d).cardParsed = false ∧
    (sndStartTag tag d).cardFound = d.cardFound ∧
    (sndStartTag tag d).currentTag = tagAfterStart tag d.currentTag := by
  have hframe : ∀ typed : XmlUserdata, typed.cardParsed = false → typed.cardFound = d.cardFound →
      let d' := { typed with dataBuf := [], currentTag := tagAfterStart tag d.currentTag }
      let d'' := if d'.currentTag ≠ .card ∧ ¬ d'.cardFound then d' else sndDevDefInit (nodeTypeOf tag) d'
      d''.dataBuf = [] ∧ d''.cardParsed = false ∧ d''.cardFound = d.cardFound ∧
        d''.currentTag = tagAfterStart tag d.currentTag := by
    intro typed hparsed hfound d' d''
    have hd'' : d'' = d' ∨ d'' = sndDevDefInit (nodeTypeOf tag) d' := ite_eq_or_eq ..
    rcases hd'' with hd'' | hd''
    · rw [hd'']
      exact ⟨rfl, hparsed, hfound, rfl⟩
    · obtain ⟨hbuf, hparsed', hfound', htag⟩ := sndDevDefInit_frame (nodeTypeOf tag) d'
      rw [hd'']
      exact ⟨hbuf, hparsed'.trans hparsed, hfound'.trans hfound, htag⟩
  unfold sndStartTag
  rw [if_neg (Bool.eq_false_iff.1 h)]
  by_cases hp : (nodeTypeOf tag).isNone ∧ hasPlugin tag
  · simp only [if_pos hp]
    exact hframe (d.onCurDev fun dev => { dev with type := .plugin }) h rfl
  · simp only [if_neg hp]
    exact hframe d h rfl

/-- An element with text: the start tag, the characters, the end tag. -/
theorem saxRun_leaf (gap : Blank) (tag : CString) (t : Text) (d : XmlUserdata) (h : d.cardParsed = false) :
    saxRun (leaf gap tag t) d = sndEndTag tag { sndStartTag tag d with dataBuf := t.value } := by
  have hbuf := (sndStartTag_frame tag d h).1
  rw [leaf, saxRun_append, saxRun_blank]
  show (saxRun (t.chunks.map .data ++ [.stop tag]) (sndStartTag tag { d with dataBuf := d.dataBuf ++ gap.text })) = _
  rw [sndStartTag_dataBuf tag d _ h, saxRun_append, saxRun_data, hbuf]
  exact Option.bind_fun_some _

/-- An element with others in it. -/
theorem saxRun_node (gap : Blank) (tag : CString) (children : List Sax) (last : Blank) (d : XmlUserdata)
    (h : d.cardParsed = false) :
    saxRun (node gap tag children last) d =
      (saxRun children (sndStartTag tag d)).bind fun d => sndEndTag tag { d with dataBuf := d.dataBuf ++ last.text } := by
  rw [node, saxRun_append, saxRun_blank]
  show (saxRun (children ++ (last.events ++ [.stop tag])) (sndStartTag tag { d with dataBuf := d.dataBuf ++ gap.text })) = _
  rw [sndStartTag_dataBuf tag d _ h, saxRun_append]
  congr 1
  funext d
  rw [saxRun_append, saxRun_blank]
  exact Option.bind_fun_some _

/-- Nothing happens after the card that was asked for. -/
theorem saxRun_parsed (evs : List Sax) (d : XmlUserdata) (h : d.cardParsed = true) :
    ∃ d', saxRun evs d = some d' ∧ d'.curCardDef = d.curCardDef ∧ d'.cardParsed = true := by
  induction evs generalizing d with
  | nil => exact ⟨d, rfl, rfl, h⟩
  | cons ev evs ih =>
    have hstep : ∃ d1, saxStep ev d = some d1 ∧ d1.curCardDef = d.curCardDef ∧ d1.cardParsed = true := by
      cases ev with
      | start tag => exact ⟨d, by simp [saxStep, sndStartTag, h], rfl, h⟩
      | stop tag => exact ⟨d, by simp [saxStep, sndEndTag, h], rfl, h⟩
      | data s => exact ⟨_, rfl, rfl, h⟩
    obtain ⟨d1, hd1, hcard, hparsed⟩ := hstep
    obtain ⟨d', hd', hcard', hparsed'⟩ := ih d1 hparsed
    refine ⟨d', ?_, hcard'.trans hcard, hparsed'⟩
    rw [saxRun, hd1]
    exact hd'

/-! ## Names -/

/-- The names of the elements that only have a text. -/
structure Plain (tag : CString) : Prop where
  reserved : tag ∉ reserved
  plugin : hasPlugin tag = false

theorem Plain.facts {tag : CString} (h : Plain tag) :
    tag ≠ tagCard ∧ nodeTypeOf tag = none ∧ hasPlugin tag = false ∧ tag ≠ tagProps := by
  have := h.reserved
  simp only [Parser.reserved, List.mem_cons, List.not_mem_nil, or_false, not_or] at this
  obtain ⟨hcard, hpcm, hcompr, hmixer, hprops⟩ := this
  refine ⟨hcard, ?_, h.plugin, hprops⟩
  rw [nodeTypeOf, if_neg hpcm, if_neg hcompr, if_neg hmixer]

theorem plain_id : Plain tagId := ⟨by decide, by decide⟩

theorem plain_name : Plain tagName := ⟨by decide, by decide⟩

theorem plain_soName : Plain tagSoName := ⟨by decide, by decide⟩

/-! ## Elements that are looked at -/

/-- The end tag is looked at. -/
def XmlUserdata.Looks (d : XmlUserdata) : Prop := d.cardParsed = false ∧ (d.currentTag = .card ∨ d.cardFound = true)

theorem sndEndTag_looks {d : XmlUserdata} (h : d.Looks) (tag : CString) :
    sndEndTag tag d = if d.dataBuf.length < BUF_SIZE then
      some (sndLeaveTag tag { if d.dataBuf = [] then d else sndParseProperties tag d with dataBuf := [] }) else none := by
  have hlooks : ¬ (d.currentTag ≠ .card ∧ ¬ d.cardFound) := by
    rintro ⟨htag, hfound⟩
    exact h.2.elim htag hfound
  unfold sndEndTag sndProcessDataBuf
  rw [if_neg (Bool.eq_false_iff.1 h.1), if_neg hlooks, if_neg (Bool.eq_false_iff.1 h.1)]
  by_cases hnil : d.dataBuf = []
  · rw [if_pos hnil, if_pos hnil, if_pos (by rw [hnil]; decide)]
    rfl
  · rw [if_neg hnil, if_neg hnil]
    by_cases hlen : d.dataBuf.length < BUF_SIZE
    · rw [if_pos hlen, if_neg (Nat.not_le.2 hlen)]
      rfl
    · rw [if_neg hlen, if_pos (Nat.not_lt.1 hlen)]
      rfl

/-- The end tag of an element with others in it: the characters before it are lost, if they fit. -/
theorem sndEndTag_quiet {d : XmlUserdata} (h : d.Looks) {tag : CString}
    (hquiet : (sndParseProperties tag d) = d) :
    sndEndTag tag d = if d.dataBuf.length < BUF_SIZE then some (sndLeaveTag tag { d with dataBuf := [] }) else none := by
  rw [sndEndTag_looks h, hquiet, ite_self]

theorem sndStartTag_plain {tag : CString} (htag : Plain tag) {d : XmlUserdata} (h : d.cardParsed = false) :
    sndStartTag tag d = { d with dataBuf := [] } := by
  obtain ⟨hcard, hnode, hplugin, hprops⟩ := htag.facts
  have hp : ¬ ((nodeTypeOf tag).isNone ∧ hasPlugin tag) := fun hp => Bool.eq_false_iff.1 hplugin hp.2
  have hafter : tagAfterStart tag d.currentTag = d.currentTag := by
    rw [tagAfterStart, hnode, if_neg (by decide), if_neg (Bool.eq_false_iff.1 hplugin), if_neg hprops, if_neg hcard]
  have hnone : ∀ d : XmlUserdata, sndDevDefInit none d = d := by
    intro d
    unfold sndDevDefInit
    split
    · cases ‹none = some _›
    · rfl
  unfold sndStartTag
  rw [if_neg (Bool.eq_false_iff.1 h)]
  simp only [if_neg hp, hafter]
  rw [hnode, hnone, ite_self]

theorem sndLeaveTag_plain {tag : CString} (htag : Plain tag) (d : XmlUserdata) : sndLeaveTag tag d = d := by
  obtain ⟨hcard, hnode, hplugin, hprops⟩ := htag.facts
  rw [sndLeaveTag, hnode, if_neg (by decide), if_neg (not_or.2 ⟨Bool.eq_false_iff.1 hplugin, hprops⟩), if_neg hcard]

/-- An element with text goes where the current tag sends it; an empty one goes nowhere. -/
theorem saxRun_leaf_plain (gap : Blank) {tag : CString} (htag : Plain tag) (t : Text) {d : XmlUserdata} (h : d.Looks) :
    saxRun (leaf gap tag t) d = some
      { if t.value = [] then d else sndParseProperties tag { d with dataBuf := t.value } with dataBuf := [] } := by
  rw [saxRun_leaf gap tag t d h.1, sndStartTag_plain htag h.1]
  have hlooks : XmlUserdata.Looks { d with dataBuf := t.value } := h
  have hshort : t.value.length < BUF_SIZE := t.short
  show sndEndTag tag { d with dataBuf := t.value } = _
  rw [sndEndTag_looks hlooks]
  dsimp only
  rw [if_pos hshort, sndLeaveTag_plain htag]
  split <;> rfl

/-! ## In the card that is asked for -/

section

variable {card : Nat} {c : SndDevDefCard} {cur : Option NodeType} {buf : CString} {kind : NodeType} {dev : SndDevDef}
  {tag : XmlTag}

/-- In the card, without a name file. -/
def inCard (card : Nat) (c : SndDevDefCard) (cur : Option NodeType) (tag : XmlTag) (buf : CString) : XmlUserdata :=
  { dataBuf := buf, card := card, cardName := none, curCardDef := some c, curDevDef := cur, cardFound := true,
    currentTag := tag }

/-- In a device that was begun in a card. -/
def inDev (card : Nat) (c : SndDevDefCard) (kind : NodeType) (dev : SndDevDef) (tag : XmlTag) (buf : CString) :
    XmlUserdata :=
  inCard card (c.onDevs kind (· ++ [dev])) (some kind) tag buf

theorem inCard_looks : (inCard card c cur tag buf).Looks := ⟨rfl, .inr rfl⟩

theorem inDev_looks : (inDev card c kind dev tag buf).Looks := inCard_looks

/-- What is written to the current device. -/
theorem onCurDev_inDev (f : SndDevDef → SndDevDef) :
    (inDev card c kind dev tag buf).onCurDev f = inDev card c kind (f dev) tag buf := by
  unfold XmlUserdata.onCurDev inDev inCard
  cases kind <;> simp [SndDevDefCard.onDevs, List.modifyLast_concat]

/-- A text, if there is one. -/
def Text.made (t : Text) : Option CString := if t.value = [] then none else some t.value

theorem saxRun_id (gap : Blank) (t : IdText) : saxRun (leaf gap tagId t.toText) (inDev card c kind dev .device buf) =
    some (inDev card c kind { dev with device := atoiUnsigned t.value } .device []) := by
  have hgiven : t.value ≠ [] := t.given
  rw [saxRun_leaf_plain gap plain_id t.toText inDev_looks, if_neg hgiven]
  show some { XmlUserdata.onCurDev (inDev card c kind dev .device t.value) _ with dataBuf := [] } = _
  rw [onCurDev_inDev]
  rfl

theorem saxRun_name (dev : SndDevDef) (gap : Blank) (t : Text) (hname : dev.name = none) :
    saxRun (leaf gap tagName t) (inDev card c kind dev .device buf) =
    some (inDev card c kind { dev with name := t.made } .device []) := by
  rw [saxRun_leaf_plain gap plain_name t inDev_looks, Text.made]
  split
  · rw [← hname]
    rfl
  · show some { XmlUserdata.onCurDev (inDev card c kind dev .device t.value) _ with dataBuf := [] } = _
    rw [onCurDev_inDev]
    rfl

theorem saxRun_soName (dev : SndDevDef) (gap : Blank) (t : Text) (hname : dev.soName = none) :
    saxRun (leaf gap tagSoName t) (inDev card c kind dev .plugin buf) =
    some (inDev card c kind { dev with soName := t.made } .plugin []) := by
  rw [saxRun_leaf_plain gap plain_soName t inDev_looks, Text.made]
  split
  · rw [← hname]
    rfl
  · show some { XmlUserdata.onCurDev (inDev card c kind dev .plugin t.value) _ with dataBuf := [] } = _
    rw [onCurDev_inDev]
    rfl

/-- What a property leads to. -/
def PropElem.made (p : PropElem) : List (CString × CString) :=
  if p.value.value = [] then [] else [(p.tag, p.value.value)]

theorem saxRun_prop (p : PropElem) (hp : p.tag ∉ reserved) : saxRun p.events (inDev card c kind dev .devProps buf) =
    some (inDev card c kind { dev with propVals := dev.propVals ++ p.made } .devProps []) := by
  rw [PropElem.events, saxRun_leaf_plain p.gap ⟨hp, p.plain⟩ p.value inDev_looks, PropElem.made]
  split
  · rw [List.append_nil]
    rfl
  · next hvalue =>
    have hprops : p.tag ≠ tagProps := (Plain.facts ⟨hp, p.plain⟩).2.2.2
    have hcustom : sndParseProperties p.tag (inDev card c kind dev .devProps p.value.value) =
        inDev card c kind { dev with propVals := dev.propVals ++ [(p.tag, p.value.value)] } .devProps p.value.value := by
      have hgiven : ¬ ((inDev card c kind dev .devProps p.value.value).dataBuf = [] ∨ p.tag = []) :=
        not_or.2 ⟨hvalue, p.named⟩
      show sndParseDeviceCustomProperties p.tag (inDev card c kind dev .devProps p.value.value) = _
      rw [sndParseDeviceCustomProperties, if_neg hprops, if_neg hgiven, onCurDev_inDev]
      rfl
    show some { sndParseProperties p.tag (inDev card c kind dev .devProps p.value.value) with dataBuf := [] } = _
    rw [hcustom]
    rfl

theorem saxRun_items (items : List PropElem) (hitems : ∀ p ∈ items, p.tag ∉ reserved) :
    saxRun (items.flatMap PropElem.events) (inDev card c kind dev .devProps []) =
      some (inDev card c kind { dev with propVals := dev.propVals ++ items.flatMap PropElem.made } .devProps []) := by
  induction items generalizing dev with
  | nil =>
    rw [List.flatMap_nil, List.flatMap_nil, List.append_nil]
    rfl
  | cons p items ih =>
    rw [List.flatMap_cons, saxRun_append, saxRun_prop p (hitems p (List.mem_cons_self ..)), Option.bind_some,
      ih fun q hq => hitems q (List.mem_cons_of_mem p hq), List.flatMap_cons, ← List.append_assoc]

/-- The names the handlers know do not look like a plugin. -/
theorem ne_of_hasPlugin {t u : CString} (h : hasPlugin t = true) (hu : hasPlugin u = false) : t ≠ u := by
  rintro rfl
  rw [h] at hu
  cases hu

theorem hasPlugin_facts {t : CString} (h : hasPlugin t = true) :
    nodeTypeOf t = none ∧ t ≠ tagSoName ∧ t ≠ tagCard := by
  refine ⟨?_, ne_of_hasPlugin h (by decide), ne_of_hasPlugin h (by decide)⟩
  rw [nodeTypeOf, if_neg (ne_of_hasPlugin h (by decide)), if_neg (ne_of_hasPlugin h (by decide)),
    if_neg (ne_of_hasPlugin h (by decide))]

theorem saxRun_plugin (p : PluginElem) (hname : dev.soName = none) :
    saxRun p.events (inDev card c kind dev .device buf) = if p.last.text.length < BUF_SIZE then
      some (inDev card c kind { dev with type := .plugin, soName := p.soName.made } .device []) else none := by
  obtain ⟨hnode, hso, hcard⟩ := hasPlugin_facts p.isPlugin
  have hstart : sndStartTag p.tag (inDev card c kind dev .device buf) =
      inDev card c kind { dev with type := .plugin } .plugin [] := by
    have htyped : (inDev card c kind dev .device buf).onCurDev (fun dev => { dev with type := .plugin }) =
        inDev card c kind { dev with type := .plugin } .device buf := onCurDev_inDev _
    unfold sndStartTag
    rw [if_neg (Bool.eq_false_iff.1 inDev_looks.1)]
    simp only [hnode, p.isPlugin, Option.isNone_none, and_self, if_true, htyped, tagAfterStart, Option.isSome_none,
      Bool.false_eq_true, if_false]
    rfl
  have hquiet : sndParseProperties p.tag
      (inDev card c kind { dev with type := .plugin, soName := p.soName.made } .plugin p.last.text) =
      inDev card c kind { dev with type := .plugin, soName := p.soName.made } .plugin p.last.text := if_neg hso
  rw [PluginElem.events, saxRun_node _ _ _ _ _ inDev_looks.1, hstart,
    saxRun_soName { dev with type := .plugin } p.soGap p.soName hname, Option.bind_some]
  show sndEndTag p.tag
    (inDev card c kind { dev with type := .plugin, soName := p.soName.made } .plugin p.last.text) = _
  rw [sndEndTag_quiet inDev_looks hquiet]
  simp only [sndLeaveTag, hnode, p.isPlugin, Option.isSome_none, Bool.false_eq_true, if_false, true_or, if_true]
  rfl

theorem saxRun_props (p : PropsElem) (hitems : ∀ item ∈ p.items, item.tag ∉ reserved) :
    saxRun p.events (inDev card c kind dev .device buf) = if p.last.text.length < BUF_SIZE then
      some (inDev card c kind { dev with propVals := dev.propVals ++ p.items.flatMap PropElem.made } .device [])
      else none := by
  have hstart : sndStartTag tagProps (inDev card c kind dev .device buf) = inDev card c kind dev .devProps [] := rfl
  have hquiet : ∀ dev, sndParseProperties tagProps (inDev card c kind dev .devProps p.last.text) =
      inDev card c kind dev .devProps p.last.text := fun _ => rfl
  rw [PropsElem.events, saxRun_node _ _ _ _ _ inDev_looks.1, hstart, saxRun_items p.items hitems, Option.bind_some]
  show sndEndTag tagProps (inDev card c kind _ .devProps p.last.text) = _
  rw [sndEndTag_quiet inDev_looks (hquiet _)]
  rfl

/-- What the elements of a device lead to. -/
def DeviceElem.made (d : DeviceElem) : SndDevDef where
  nodeType := d.kind
  device := atoiUnsigned d.id.value
  type := if d.plugin.isSome then .plugin else .hw
  name := d.name.made
  soName := d.plugin.bind fun p => p.soName.made
  propVals := ((d.props.map PropsElem.items).getD []).flatMap PropElem.made

/-- The end tags of a device that are looked at find no more than fits. -/
def DeviceElem.Fits (d : DeviceElem) : Prop :=
  (∀ p ∈ d.plugin, p.last.Fits) ∧ (∀ p ∈ d.props, p.last.Fits) ∧ d.last.Fits

instance (b : Blank) : Decidable b.Fits := inferInstanceAs (Decidable (_ < _))

instance (p : Option PluginElem) : Decidable (∀ e ∈ p, e.last.Fits) := by
  cases p with
  | none => exact .isTrue fun e he => (nomatch he)
  | some p => exact decidable_of_iff p.last.Fits (by simp)

instance (p : Option PropsElem) : Decidable (∀ e ∈ p, e.last.Fits) := by
  cases p with
  | none => exact .isTrue fun e he => (nomatch he)
  | some p => exact decidable_of_iff p.last.Fits (by simp)

instance (d : DeviceElem) : Decidable d.Fits := by
  unfold DeviceElem.Fits
  infer_instance

theorem saxRun_plugin_opt (p : Option PluginElem) (htype : dev.type = .hw) (hname : dev.soName = none) :
    saxRun ((p.map PluginElem.events).getD []) (inDev card c kind dev .device []) = if ∀ e ∈ p, e.last.Fits then
      some (inDev card c kind
        { dev with type := if p.isSome then .plugin else .hw, soName := p.bind fun e => e.soName.made } .device [])
      else none := by
  cases p with
  | none =>
    rw [if_pos (fun e he => (nomatch he))]
    simp only [Option.isSome_none, Option.bind_none, Bool.false_eq_true, if_false]
    rw [← htype, ← hname]
    rfl
  | some p =>
    show saxRun p.events _ = _
    rw [saxRun_plugin p hname]
    simp only [Blank.Fits, Option.isSome_some, if_true, Option.bind_some, Option.mem_def, Option.some.injEq, forall_eq']

theorem saxRun_props_opt (p : Option PropsElem) (hitems : ∀ e ∈ p, ∀ item ∈ e.items, item.tag ∉ reserved)
    (hprops : dev.propVals = []) :
    saxRun ((p.map PropsElem.events).getD []) (inDev card c kind dev .device []) = if ∀ e ∈ p, e.last.Fits then
      some (inDev card c kind { dev with propVals := ((p.map PropsElem.items).getD []).flatMap PropElem.made } .device [])
      else none := by
  cases p with
  | none =>
    rw [if_pos (fun e he => (nomatch he))]
    show some (inDev card c kind dev .device []) = some (inDev card c kind { dev with propVals := [] } .device [])
    rw [← hprops]
  | some p =>
    show saxRun p.events _ = _
    rw [saxRun_props p (hitems p rfl), hprops]
    simp only [Option.mem_def, Option.some.injEq, forall_eq', Blank.Fits]
    rfl

theorem nodeTypeOf_tag (kind : NodeType) : nodeTypeOf kind.tag = some kind := by
  cases kind <;> decide

/-- A device of the card is built from its elements alone, as long as no property has a reserved name. -/
theorem saxRun_device (d : DeviceElem) (hitems : ∀ e ∈ d.props, ∀ item ∈ e.items, item.tag ∉ reserved) :
    saxRun d.events (inCard card c cur .card buf) = if d.Fits then
      some (inCard card (c.onDevs d.kind (· ++ [d.made])) (some d.kind) .card []) else none := by
  have hstart : sndStartTag d.kind.tag (inCard card c cur .card buf) =
      inDev card c d.kind { nodeType := d.kind } .device [] := by
    unfold sndStartTag
    rw [if_neg (Bool.eq_false_iff.1 inCard_looks.1)]
    simp only [nodeTypeOf_tag, tagAfterStart, Option.isNone_some, Option.isSome_some, Bool.false_eq_true, false_and,
      if_false, if_true]
    rfl
  have hquiet : ∀ dev, sndParseProperties d.kind.tag (inDev card c d.kind dev .device d.last.text) =
      inDev card c d.kind dev .device d.last.text := by
    intro dev
    show sndParseDeviceProperties d.kind.tag _ = _
    rw [sndParseDeviceProperties, nodeTypeOf_tag, Option.isSome_some, if_pos rfl]
  rw [DeviceElem.events, saxRun_node _ _ _ _ _ inCard_looks.1, hstart, saxRun_append, saxRun_id, Option.bind_some,
    saxRun_append, saxRun_name { nodeType := d.kind, device := atoiUnsigned d.id.value } d.nameGap d.name rfl,
    Option.bind_some, saxRun_append, saxRun_plugin_opt d.plugin rfl rfl]
  by_cases hplugin : ∀ e ∈ d.plugin, e.last.Fits
  · rw [if_pos hplugin, Option.bind_some, saxRun_props_opt d.props hitems rfl]
    by_cases hprops : ∀ e ∈ d.props, e.last.Fits
    · rw [if_pos hprops, Option.bind_some]
      show sndEndTag d.kind.tag (inDev card c d.kind d.made .device d.last.text) = _
      rw [sndEndTag_quiet inDev_looks (hquiet _)]
      have hfits : d.Fits ↔ d.last.text.length < BUF_SIZE := ⟨fun h => h.2.2, fun h => ⟨hplugin, hprops, h⟩⟩
      simp only [hfits, sndLeaveTag, nodeTypeOf_tag, Option.isSome_some, if_true]
      rfl
    · rw [if_neg hprops, if_neg (fun h : d.Fits => hprops h.2.1)]
      rfl
  · rw [if_neg hplugin, if_neg (fun h : d.Fits => hplugin h.1)]
    rfl

/-- The devices of a card, one after the other. -/
def addDevs (ds : List DeviceElem) (c : SndDevDefCard) : SndDevDefCard :=
  ds.foldl (fun c d => c.onDevs d.kind (· ++ [d.made])) c

theorem saxRun_devices (ds : List DeviceElem)
    (hitems : ∀ d ∈ ds, ∀ e ∈ d.props, ∀ item ∈ e.items, item.tag ∉ reserved) :
    ∃ cur', saxRun (ds.flatMap DeviceElem.events) (inCard card c cur .card []) =
      if ∀ d ∈ ds, d.Fits then some (inCard card (addDevs ds c) cur' .card []) else none := by
  induction ds generalizing c cur with
  | nil =>
    refine ⟨cur, ?_⟩
    rw [if_pos (fun d hd => (nomatch hd))]
    rfl
  | cons d ds ih =>
    obtain ⟨cur', hrun⟩ := @ih (c.onDevs d.kind (· ++ [d.made])) (some d.kind)
      fun d' hd' => hitems d' (List.mem_cons_of_mem d hd')
    refine ⟨cur', ?_⟩
    rw [List.flatMap_cons, saxRun_append, saxRun_device d (hitems d (List.mem_cons_self ..))]
    by_cases hd : d.Fits
    · rw [if_pos hd, Option.bind_some, hrun]
      simp only [List.forall_mem_cons, hd, true_and]
      rfl
    · rw [if_neg hd, if_neg fun h => hd (h d (List.mem_cons_self ..))]
      rfl

/-- The devices of a kind that a card's elements lead to. -/
def madeDevs (ds : List DeviceElem) (kind : NodeType) : List SndDevDef :=
  (ds.filter fun d => d.kind = kind).map DeviceElem.made

theorem addDevs_eq (ds : List DeviceElem) (c : SndDevDefCard) : addDevs ds c =
    { c with pcmDevs := c.pcmDevs ++ madeDevs ds .pcm, mixerDevs := c.mixerDevs ++ madeDevs ds .mixer,
             comprDevs := c.comprDevs ++ madeDevs ds .compr } := by
  induction ds generalizing c with
  | nil => simp [addDevs, madeDevs]
  | cons d ds ih =>
    show addDevs ds (c.onDevs d.kind (· ++ [d.made])) = _
    rw [ih]
    cases hk : d.kind <;> simp [madeDevs, SndDevDefCard.onDevs, hk]

end

/-! ## Cards that are passed over -/

section

variable {card : Nat} {tag : XmlTag} {buf : CString}

/-- Before the card that is asked for, without a name file. -/
def passing (card : Nat) (tag : XmlTag) (buf : CString) : XmlUserdata :=
  { dataBuf := buf, card := card, cardName := none, currentTag := tag }

theorem passing_parsed : ¬ (passing card tag buf).cardParsed = true := Bool.false_ne_true

theorem sndStartTag_passing (t : CString) :
    sndStartTag t (passing card tag buf) = passing card (tagAfterStart t tag) [] := by
  unfold sndStartTag
  rw [if_neg passing_parsed]
  by_cases hp : (nodeTypeOf t).isNone ∧ hasPlugin t
  · simp only [if_pos hp]
    split <;> rfl
  · simp only [if_neg hp]
    split <;> rfl

theorem sndEndTag_passing (t : CString) (htag : tag ≠ .card) :
    sndEndTag t (passing card tag buf) = some (passing card tag buf) := by
  have hpass : (passing card tag buf).currentTag ≠ .card ∧ ¬ (passing card tag buf).cardFound :=
    ⟨htag, Bool.false_ne_true⟩
  unfold sndEndTag
  rw [if_neg passing_parsed, if_pos hpass]

theorem sndEndTag_card_passing : sndEndTag tagCard (passing card .card buf) =
    if buf.length < BUF_SIZE then some (passing card .root []) else none :=
  sndEndTag_quiet ⟨rfl, .inl rfl⟩ rfl

/-- Whatever the tag is, unless it is that of a card, these events change nothing but the tag and the characters. -/
def PassesOver (card : Nat) (evs : List Sax) : Prop :=
  ∀ tag buf, tag ≠ .card → ∃ tag' buf', tag' ≠ .card ∧ saxRun evs (passing card tag buf) = some (passing card tag' buf')

theorem PassesOver.nil : PassesOver card [] := fun tag buf htag => ⟨tag, buf, htag, rfl⟩

theorem PassesOver.append {xs ys : List Sax} (hx : PassesOver card xs) (hy : PassesOver card ys) :
    PassesOver card (xs ++ ys) := by
  intro tag buf htag
  obtain ⟨tag1, buf1, htag1, hrun1⟩ := hx tag buf htag
  obtain ⟨tag2, buf2, htag2, hrun2⟩ := hy tag1 buf1 htag1
  refine ⟨tag2, buf2, htag2, ?_⟩
  rw [saxRun_append, hrun1]
  exact hrun2

theorem PassesOver.flatMap {α : Type} {f : α → List Sax} {l : List α} (h : ∀ a ∈ l, PassesOver card (f a)) :
    PassesOver card (l.flatMap f) := by
  induction l with
  | nil => exact .nil
  | cons a l ih =>
    rw [List.flatMap_cons]
    exact (h a (List.mem_cons_self ..)).append (ih fun b hb => h b (List.mem_cons_of_mem a hb))

/-- A property may even be called `card`. -/
theorem passesOver_leaf (gap : Blank) (t : CString) (x : Text) : PassesOver card (leaf gap t x) := by
  intro tag buf htag
  rw [saxRun_leaf gap t x _ rfl, sndStartTag_passing]
  show ∃ tag' buf', tag' ≠ XmlTag.card ∧
    sndEndTag t (passing card (tagAfterStart t tag) x.value) = some (passing card tag' buf')
  by_cases hafter : tagAfterStart t tag = .card
  · have ht : t = tagCard := by
      by_contra hne
      revert hafter
      unfold tagAfterStart
      rw [if_neg hne]
      repeat' split
      all_goals first
        | exact htag
        | exact fun h => (nomatch h)
    subst ht
    have hshort : x.value.length < BUF_SIZE := x.short
    refine ⟨.root, [], fun h => (nomatch h), ?_⟩
    rw [hafter, sndEndTag_card_passing, if_pos hshort]
  · exact ⟨_, _, hafter, sndEndTag_passing t hafter⟩

/-- An element with others in it, which is not a card. -/
theorem saxRun_node_passing {t : CString} (ht : ∀ tag, tagAfterStart t tag ≠ .card) (gap : Blank) {children : List Sax}
    (last : Blank) (h : PassesOver card children) (tag : XmlTag) (buf : CString) :
    ∃ tag' buf', tag' ≠ .card ∧ saxRun (node gap t children last) (passing card tag buf) =
      some (passing card tag' buf') := by
  obtain ⟨tag', buf', htag', hrun⟩ := h (tagAfterStart t tag) [] (ht tag)
  refine ⟨tag', buf' ++ last.text, htag', ?_⟩
  rw [saxRun_node _ _ _ _ _ rfl, sndStartTag_passing, hrun, Option.bind_some]
  exact sndEndTag_passing t htag'

theorem passesOver_plugin (p : PluginElem) : PassesOver card p.events := by
  intro tag buf _
  refine saxRun_node_passing (fun tag => ?_) p.gap p.last (passesOver_leaf p.soGap tagSoName p.soName) tag buf
  rw [tagAfterStart, (hasPlugin_facts p.isPlugin).1, if_neg (by decide), if_pos p.isPlugin]
  exact fun h => (nomatch h)

theorem passesOver_props (p : PropsElem) : PassesOver card p.events := by
  intro tag buf _
  refine saxRun_node_passing (fun tag => ?_) p.gap p.last
    (.flatMap fun item _ => passesOver_leaf item.gap item.tag item.value) tag buf
  exact fun h => (nomatch h)

/-- A device, also the first of its card. -/
theorem saxRun_device_passing (card : Nat) (d : DeviceElem) (tag : XmlTag) (buf : CString) : ∃ tag' buf', tag' ≠ .card ∧
    saxRun d.events (passing card tag buf) = some (passing card tag' buf') := by
  have hplugin : PassesOver card ((d.plugin.map PluginElem.events).getD []) := by
    cases d.plugin with
    | none => exact .nil
    | some p => exact passesOver_plugin p
  have hprops : PassesOver card ((d.props.map PropsElem.events).getD []) := by
    cases d.props with
    | none => exact .nil
    | some p => exact passesOver_props p
  refine saxRun_node_passing (fun tag => ?_) d.gap d.last
    ((passesOver_leaf d.idGap tagId d.id.toText).append ((passesOver_leaf d.nameGap tagName d.name).append
      (hplugin.append hprops))) tag buf
  rw [tagAfterStart, nodeTypeOf_tag, Option.isSome_some, if_pos rfl]
  exact fun h => (nomatch h)

/-- The id and the name of a card that is passed over. -/
theorem saxRun_head_passing {c : CardElem} (hc : c.is card = false) (tag : XmlTag) (buf : CString) :
    saxRun (leaf c.idGap tagId c.id.toText ++ leaf c.nameGap tagName c.name)
      (sndStartTag tagCard (passing card tag buf)) = some (passing card .card []) := by
  have hlooks : ∀ buf, (passing card .card buf).Looks := fun _ => ⟨rfl, .inl rfl⟩
  have hstart : sndStartTag tagCard (passing card tag buf) = passing card .card [] := sndStartTag_passing tagCard
  have hgiven : c.id.value ≠ [] := c.id.given
  have hne : ¬ atoiUnsigned c.id.value = card := of_decide_eq_false hc
  have hid : sndParseProperties tagId (passing card .card c.id.value) = passing card .card c.id.value := by
    show sndParseCardProperties tagId _ = _
    rw [sndParseCardProperties, if_pos rfl]
    exact if_neg hne
  rw [hstart, saxRun_append, saxRun_leaf_plain c.idGap plain_id c.id.toText (hlooks []), if_neg hgiven]
  show (some { sndParseProperties tagId (passing card .card c.id.value) with dataBuf := [] }).bind _ = _
  rw [hid, Option.bind_some]
  show saxRun (leaf c.nameGap tagName c.name) (passing card .card []) = _
  rw [saxRun_leaf_plain c.nameGap plain_name c.name (hlooks [])]
  split <;> rfl

theorem cardElem_events (c : CardElem) : c.events = node c.gap tagCard
    ((leaf c.idGap tagId c.id.toText ++ leaf c.nameGap tagName c.name) ++ c.devices.flatMap DeviceElem.events) c.last := by
  rw [CardElem.events, List.append_assoc]

/-- A card with another id is passed over, if the white space at its end can be. -/
theorem saxRun_card_passing {c : CardElem} (hc : c.is card = false) (tag : XmlTag) (buf : CString) :
    (c.Passed → ∃ tag' buf', saxRun c.events (passing card tag buf) = some (passing card tag' buf')) ∧
    (¬ c.Passed → saxRun c.events (passing card tag buf) = none) := by
  have hrun : saxRun c.events (passing card tag buf) =
      (saxRun (c.devices.flatMap DeviceElem.events) (passing card .card [])).bind fun d =>
        sndEndTag tagCard { d with dataBuf := d.dataBuf ++ c.last.text } := by
    rw [cardElem_events, saxRun_node _ _ _ _ _ rfl, saxRun_append, saxRun_head_passing hc]
    rfl
  cases hdevs : c.devices with
  | nil =>
    have hend : saxRun c.events (passing card tag buf) =
        if c.last.text.length < BUF_SIZE then some (passing card .root []) else none := by
      rw [hrun, hdevs]
      exact sndEndTag_card_passing
    rw [hend]
    constructor
    · intro hpassed
      exact ⟨.root, [], if_pos (hpassed hdevs)⟩
    · intro hnot
      exact if_neg fun hfits => hnot fun _ => hfits
  | cons d ds =>
    -- after a device the card's end tag is not looked at
    have hrest : PassesOver card (ds.flatMap DeviceElem.events) :=
      .flatMap fun d _ tag buf _ => saxRun_device_passing card d tag buf
    obtain ⟨tag1, buf1, htag1, hrun1⟩ := saxRun_device_passing card d .card []
    obtain ⟨tag2, buf2, htag2, hrun2⟩ := hrest tag1 buf1 htag1
    refine ⟨fun _ => ⟨tag2, buf2 ++ c.last.text, ?_⟩, fun hnot => absurd (fun h => ?_) hnot⟩
    · rw [hrun, hdevs, List.flatMap_cons, saxRun_append, hrun1, Option.bind_some, hrun2, Option.bind_some]
      exact sndEndTag_passing tagCard htag2
    · rw [hdevs] at h
      cases h

end

end Agm.Parser
