import Mathlib.Algebra.Order.BigOperators.Group.List
import Mathlib.Algebra.Order.Group.Nat
import Agm.Parser.Build

/-!
# The first card with an id

`snd_card_def_get_card` builds the first card with the id it is asked for, exactly if no end tag finds more white space than
fits, no text is empty, and no property has a name that the handlers know elsewhere.  That the last is necessary is a matter
of counting: whatever such a property leads to, it is not one more property.
-/

namespace Agm.Parser

open Agm.Lib CString

/-! ## The card that is asked for -/

section

variable {card : Nat} {c : CardElem}

/-- The card before its devices. -/
def CardElem.head (c : CardElem) : SndDevDefCard := { card := atoiUnsigned c.id.value, name := c.name.made }

/-- What the elements of a card lead to. -/
def CardElem.made (c : CardElem) : SndDevDefCard := addDevs c.devices c.head

/-- The end tags of a card find no more than fits. -/
def CardElem.Fits (c : CardElem) : Prop := (∀ d ∈ c.devices, d.Fits) ∧ c.last.Fits

theorem saxRun_head_found (hc : c.is card = true) (tag : XmlTag) (buf : CString) :
    saxRun (leaf c.idGap tagId c.id.toText ++ leaf c.nameGap tagName c.name)
      (sndStartTag tagCard (passing card tag buf)) = some (inCard card c.head none .card []) := by
  have hstart : sndStartTag tagCard (passing card tag buf) = passing card .card [] := sndStartTag_passing tagCard
  have hgiven : c.id.value ≠ [] := c.id.given
  have heq : atoiUnsigned c.id.value = card := of_decide_eq_true hc
  have hid : sndParseProperties tagId (passing card .card c.id.value) =
      inCard card { card := atoiUnsigned c.id.value } none .card c.id.value := by
    show sndParseCardProperties tagId _ = _
    rw [sndParseCardProperties, if_pos rfl]
    exact if_pos heq
  rw [hstart, saxRun_append, saxRun_leaf_plain c.idGap plain_id c.id.toText ⟨rfl, .inl rfl⟩, if_neg hgiven]
  show (some { sndParseProperties tagId (passing card .card c.id.value) with dataBuf := [] }).bind _ = _
  rw [hid, Option.bind_some]
  show saxRun (leaf c.nameGap tagName c.name) (inCard card { card := atoiUnsigned c.id.value } none .card []) = _
  rw [saxRun_leaf_plain c.nameGap plain_name c.name inCard_looks, CardElem.head, Text.made]
  split <;> rfl

theorem saxRun_card_eq (hc : c.is card = true) (tag : XmlTag) (buf : CString) :
    saxRun c.events (passing card tag buf) =
      (saxRun (c.devices.flatMap DeviceElem.events) (inCard card c.head none .card [])).bind fun d =>
        sndEndTag tagCard { d with dataBuf := d.dataBuf ++ c.last.text } := by
  rw [cardElem_events, saxRun_node _ _ _ _ _ rfl, saxRun_append, saxRun_head_found hc]
  rfl

/-- The card is read to its end, where the handlers stop listening. -/
theorem saxRun_card_found (hc : c.is card = true)
    (hitems : ∀ d ∈ c.devices, ∀ e ∈ d.props, ∀ item ∈ e.items, item.tag ∉ reserved) (tag : XmlTag) (buf : CString) :
    (c.Fits → ∃ d, saxRun c.events (passing card tag buf) = some d ∧ d.curCardDef = some c.made ∧ d.cardParsed = true) ∧
    (¬ c.Fits → saxRun c.events (passing card tag buf) = none) := by
  obtain ⟨cur', hrun⟩ : ∃ cur', saxRun (c.devices.flatMap DeviceElem.events) (inCard card c.head none .card []) =
      if ∀ d ∈ c.devices, d.Fits then some (inCard card c.made cur' .card []) else none :=
    saxRun_devices c.devices hitems
  have hend : sndEndTag tagCard (inCard card c.made cur' .card c.last.text) = if c.last.text.length < BUF_SIZE then
      some { inCard card c.made cur' .root [] with cardParsed := true } else none :=
    sndEndTag_quiet inCard_looks rfl
  rw [saxRun_card_eq hc, hrun]
  by_cases hdevs : ∀ d ∈ c.devices, d.Fits
  · rw [if_pos hdevs, Option.bind_some]
    show (c.Fits → ∃ d, sndEndTag tagCard (inCard card c.made cur' .card c.last.text) = some d ∧ _ ∧ _) ∧
      (¬ c.Fits → sndEndTag tagCard (inCard card c.made cur' .card c.last.text) = none)
    rw [hend]
    constructor
    · intro hfits
      exact ⟨_, if_pos hfits.2, rfl, rfl⟩
    · intro hnot
      exact if_neg fun hlast => hnot ⟨hdevs, hlast⟩
  · rw [if_neg hdevs]
    exact ⟨fun hfits => absurd hfits.1 hdevs, fun _ => rfl⟩

/-! ## The cards before it -/

/-- The cards before the first with the id, if they can be passed over. -/
theorem saxRun_before (cs : List CardElem) (hcs : ∀ c ∈ cs, c.is card = false) (tag : XmlTag) (buf : CString) :
    ((∀ c ∈ cs, c.Passed) → ∃ tag' buf', saxRun (cs.flatMap CardElem.events) (passing card tag buf) =
      some (passing card tag' buf')) ∧
    ((¬ ∀ c ∈ cs, c.Passed) → saxRun (cs.flatMap CardElem.events) (passing card tag buf) = none) := by
  induction cs generalizing tag buf with
  | nil => exact ⟨fun _ => ⟨tag, buf, rfl⟩, fun hnot => absurd (fun c hc => (nomatch hc)) hnot⟩
  | cons c cs ih =>
    obtain ⟨hpass, hstop⟩ := saxRun_card_passing (hcs c (List.mem_cons_self ..)) tag buf
    rw [List.flatMap_cons, saxRun_append]
    by_cases hc : c.Passed
    · obtain ⟨tag1, buf1, hrun⟩ := hpass hc
      rw [hrun, Option.bind_some]
      simp only [List.forall_mem_cons, hc, true_and]
      exact ih (fun c' hc' => hcs c' (List.mem_cons_of_mem c hc')) tag1 buf1
    · rw [hstop hc]
      exact ⟨fun h => absurd (h c (List.mem_cons_self ..)) hc, fun _ => rfl⟩

/-- A document with a card of the id: the cards before it, it, and the rest. -/
theorem cards_split {d : CardDefs} (h : d.first card = some c) : ∃ after,
    d.cards = (d.cards.takeWhile fun c => ! c.is card) ++ c :: after ∧ c.is card = true ∧
    ∀ b ∈ d.cards.takeWhile fun c => ! c.is card, b.is card = false := by
  obtain ⟨hc, before, after, hsplit, hbefore⟩ := List.find?_eq_some_iff_append.1 h
  have htake : (d.cards.takeWhile fun c => ! c.is card) = before := by
    rw [hsplit, List.takeWhile_append_of_pos hbefore, List.takeWhile_cons_of_neg (by simp [hc]), List.append_nil]
  refine ⟨after, by rw [htake]; exact hsplit, hc, fun b hb => ?_⟩
  rw [htake] at hb
  have := hbefore b hb
  simpa using this

/-- The parse of a document is that of the card, in the state in which the cards before it leave the handlers. -/
theorem parseCard_eq {d : CardDefs} (h : d.first card = some c) :
    ((∀ b ∈ d.cards.takeWhile fun c => ! c.is card, b.Passed) → ∃ tag buf rest,
      parseCard card none d.events =
        ((saxRun c.events (passing card tag buf)).bind (saxRun rest)).map XmlUserdata.curCardDef) ∧
    ((¬ ∀ b ∈ d.cards.takeWhile fun c => ! c.is card, b.Passed) → parseCard card none d.events = none) := by
  obtain ⟨after, hsplit, hc, hbefore⟩ := cards_split h
  obtain ⟨hpass, hstop⟩ := saxRun_before _ hbefore .root []
  have hrun : parseCard card none d.events =
      ((saxRun ((d.cards.takeWhile fun c => ! c.is card).flatMap CardElem.events) (passing card .root [])).bind
        fun d' => (saxRun c.events d').bind (saxRun (after.flatMap CardElem.events ++
          (d.last.events ++ [.stop "defs".toList])))).map XmlUserdata.curCardDef := by
    have hstart : sndStartTag "defs".toList (passing card .root []) = passing card .root [] :=
      sndStartTag_passing "defs".toList
    show ((saxRun (d.cards.flatMap CardElem.events ++ (d.last.events ++ [.stop "defs".toList]))
      (sndStartTag "defs".toList (passing card .root []))).map XmlUserdata.curCardDef) = _
    rw [hstart, hsplit, List.flatMap_append, List.flatMap_cons, List.append_assoc, List.append_assoc, saxRun_append]
    congr 2
    · rw [← hsplit]
    · funext d'
      rw [saxRun_append]
  constructor
  · intro hpassed
    obtain ⟨tag, buf, hb⟩ := hpass hpassed
    refine ⟨tag, buf, after.flatMap CardElem.events ++ (d.last.events ++ [.stop "defs".toList]), ?_⟩
    rw [hrun, hb, Option.bind_some]
  · intro hnot
    rw [hrun, hstop hnot]
    rfl

end

/-! ## Empty texts -/

theorem Text.made_eq_some_iff (t : Text) : t.made = some t.value ↔ t.value ≠ [] := by
  unfold Text.made
  split
  · next h => exact ⟨fun h' => (nomatch h'), fun h' => absurd h h'⟩
  · next h => exact ⟨fun _ => h, fun _ => rfl⟩

theorem length_flatMap_made_le (items : List PropElem) : (items.flatMap PropElem.made).length ≤ items.length := by
  induction items with
  | nil => exact le_rfl
  | cons p items ih =>
    have hp : p.made.length ≤ 1 := by
      unfold PropElem.made
      split <;> simp
    rw [List.flatMap_cons, List.length_append, List.length_cons]
    omega

/-- No property is lost exactly if none is empty. -/
theorem flatMap_made_eq_iff (items : List PropElem) :
    items.flatMap PropElem.made = (items.map fun p => (p.tag, p.value.value)) ↔ ∀ p ∈ items, p.value.value ≠ [] := by
  induction items with
  | nil => exact ⟨fun _ p hp => (nomatch hp), fun _ => rfl⟩
  | cons p items ih =>
    rw [List.flatMap_cons, List.map_cons, List.forall_mem_cons, ← ih]
    by_cases hp : p.value.value = []
    · have hmade : p.made = [] := if_pos hp
      have hle := length_flatMap_made_le items
      rw [hmade, List.nil_append]
      constructor
      · intro h
        have hlen := congrArg List.length h
        rw [List.length_cons, List.length_map] at hlen
        omega
      · exact fun h => absurd hp h.1
    · have hmade : p.made = [(p.tag, p.value.value)] := if_neg hp
      rw [hmade, List.singleton_append, List.cons.injEq]
      exact ⟨fun h => ⟨hp, h.2⟩, fun h => ⟨rfl, h.2⟩⟩

theorem DeviceElem.made_eq_iff (d : DeviceElem) : d.made = d.described ↔ d.name.value ≠ [] ∧
    (∀ p ∈ d.plugin, p.soName.value ≠ []) ∧ ∀ p ∈ d.props, ∀ item ∈ p.items, item.value.value ≠ [] := by
  have hso : (d.plugin.bind fun p => p.soName.made) = (d.plugin.map fun p => p.soName.value) ↔
      ∀ p ∈ d.plugin, p.soName.value ≠ [] := by
    cases d.plugin with
    | none => exact ⟨fun _ p hp => absurd hp (Option.not_mem_none p), fun _ => rfl⟩
    | some p => simp only [Option.bind_some, Option.map_some, p.soName.made_eq_some_iff, Option.mem_def,
        Option.some.injEq, forall_eq']
  have hprops : ((d.props.map PropsElem.items).getD []).flatMap PropElem.made =
      (((d.props.map PropsElem.items).getD []).map fun p => (p.tag, p.value.value)) ↔
      ∀ p ∈ d.props, ∀ item ∈ p.items, item.value.value ≠ [] := by
    rw [flatMap_made_eq_iff]
    cases d.props with
    | none =>
      exact ⟨fun _ p hp => absurd hp (Option.not_mem_none p), fun _ p hp => absurd hp List.not_mem_nil⟩
    | some p => simp only [Option.map_some, Option.getD_some, Option.mem_def, Option.some.injEq, forall_eq']
  rw [DeviceElem.made, DeviceElem.described, SndDevDef.mk.injEq, d.name.made_eq_some_iff, hso, hprops]
  simp only [true_and]

theorem CardElem.made_eq_iff (c : CardElem) :
    c.made = c.described ↔ c.name.value ≠ [] ∧ ∀ d ∈ c.devices, d.made = d.described := by
  have hdevs : ∀ kind, madeDevs c.devices kind = c.devs kind ↔
      ∀ d ∈ c.devices, d.kind = kind → d.made = d.described := by
    intro kind
    simp only [madeDevs, CardElem.devs, List.map_inj_left, List.mem_filter, decide_eq_true_eq, and_imp]
  rw [CardElem.made, addDevs_eq, CardElem.described, CardElem.head, SndDevDefCard.mk.injEq, c.name.made_eq_some_iff]
  simp only [List.nil_append, hdevs, true_and]
  constructor
  · rintro ⟨hname, hpcm, hmixer, hcompr⟩
    refine ⟨hname, fun d hd => ?_⟩
    cases hk : d.kind with
    | pcm => exact hpcm d hd hk
    | mixer => exact hmixer d hd hk
    | compr => exact hcompr d hd hk
  · rintro ⟨hname, hall⟩
    exact ⟨hname, fun d hd _ => hall d hd, fun d hd _ => hall d hd, fun d hd _ => hall d hd⟩

/-- Without reserved names: what is kept is what fits and is not empty. -/
theorem CardElem.kept_iff (c : CardElem)
    (hitems : ∀ d ∈ c.devices, ∀ e ∈ d.props, ∀ item ∈ e.items, item.tag ∉ reserved) :
    c.Kept ↔ c.Fits ∧ c.made = c.described := by
  rw [c.made_eq_iff]
  constructor
  · rintro ⟨hname, hdevs, hlast⟩
    refine ⟨⟨fun d hd => ?_, hlast⟩, hname, fun d hd => d.made_eq_iff.2 ?_⟩
    · obtain ⟨-, hplugin, hprops, hend⟩ := hdevs d hd
      exact ⟨fun p hp => (hplugin p hp).2, fun p hp => (hprops p hp).2, hend⟩
    · obtain ⟨hdname, hplugin, hprops, -⟩ := hdevs d hd
      exact ⟨hdname, fun p hp => (hplugin p hp).1, fun p hp item hitem => ((hprops p hp).1 item hitem).2⟩
  · rintro ⟨⟨hfits, hlast⟩, hname, hmade⟩
    refine ⟨hname, fun d hd => ?_, hlast⟩
    obtain ⟨hdname, hplugin, hprops⟩ := d.made_eq_iff.1 (hmade d hd)
    obtain ⟨hfplugin, hfprops, hend⟩ := hfits d hd
    refine ⟨hdname, fun p hp => ⟨hplugin p hp, hfplugin p hp⟩, fun p hp => ⟨fun item hitem => ?_, hfprops p hp⟩, hend⟩
    exact ⟨hitems d hd p hp item hitem, hprops p hp item hitem⟩

/-! ## Counting properties -/

def propsOf (devs : List SndDevDef) : Nat := (devs.map fun dev => dev.propVals.length).sum

def SndDevDefCard.propCount (c : SndDevDefCard) : Nat := propsOf c.pcmDevs + propsOf c.mixerDevs + propsOf c.comprDevs

/-- How many properties the card has so far. -/
def XmlUserdata.propCount (d : XmlUserdata) : Nat := (d.curCardDef.map SndDevDefCard.propCount).getD 0

theorem propsOf_append (xs ys : List SndDevDef) : propsOf (xs ++ ys) = propsOf xs + propsOf ys := by
  rw [propsOf, List.map_append, List.sum_append]
  rfl

theorem propsOf_modifyLast_le {f : SndDevDef → SndDevDef} {n : Nat}
    (hf : ∀ dev, (f dev).propVals.length ≤ dev.propVals.length + n) (devs : List SndDevDef) :
    propsOf (List.modifyLast f devs) ≤ propsOf devs + n := by
  rcases List.eq_nil_or_concat devs with rfl | ⟨init, last, rfl⟩
  · exact Nat.zero_le _
  · rw [List.concat_eq_append, List.modifyLast_concat, propsOf_append, propsOf_append, Nat.add_assoc]
    refine Nat.add_le_add_left ?_ _
    simpa [propsOf] using hf last

theorem propCount_onDevs_le {f : List SndDevDef → List SndDevDef} {n : Nat} (hf : ∀ devs, propsOf (f devs) ≤ propsOf devs + n)
    (c : SndDevDefCard) (kind : NodeType) : (c.onDevs kind f).propCount ≤ c.propCount + n := by
  have hpcm := hf c.pcmDevs
  have hmixer := hf c.mixerDevs
  have hcompr := hf c.comprDevs
  cases kind <;> simp only [SndDevDefCard.onDevs, SndDevDefCard.propCount] <;> omega

theorem propCount_onCurDev_le {f : SndDevDef → SndDevDef} {n : Nat}
    (hf : ∀ dev, (f dev).propVals.length ≤ dev.propVals.length + n) (d : XmlUserdata) :
    (d.onCurDev f).propCount ≤ d.propCount + n := by
  unfold XmlUserdata.propCount XmlUserdata.onCurDev
  cases d.curCardDef with
  | none => exact Nat.zero_le _
  | some c =>
    cases d.curDevDef with
    | none => exact Nat.le_add_right ..
    | some kind => exact propCount_onDevs_le (propsOf_modifyLast_le hf) c kind

theorem propCount_onCurDev_same {f : SndDevDef → SndDevDef} (hf : ∀ dev, (f dev).propVals = dev.propVals)
    (d : XmlUserdata) : (d.onCurDev f).propCount ≤ d.propCount :=
  propCount_onCurDev_le (n := 0) (fun dev => (congrArg List.length (hf dev)).le) d

theorem propCount_sndDevDefInit_le (nodeType : Option NodeType) (d : XmlUserdata) :
    (sndDevDefInit nodeType d).propCount ≤ d.propCount := by
  unfold sndDevDefInit
  split
  · next c kind hc =>
    have hle := propCount_onDevs_le (n := 0) (f := (· ++ [{ nodeType := kind }]))
      (fun devs => by rw [propsOf_append]; exact le_rfl) c kind
    simpa [XmlUserdata.propCount, hc] using hle
  · exact le_rfl

theorem propCount_sndStartTag_le (t : CString) (d : XmlUserdata) : (sndStartTag t d).propCount ≤ d.propCount := by
  have hrest : ∀ d1 : XmlUserdata, d1.propCount ≤ d.propCount →
      (if d1.currentTag ≠ .card ∧ ¬ d1.cardFound then d1 else sndDevDefInit (nodeTypeOf t) d1).propCount ≤
        d.propCount := by
    intro d1 hd1
    split
    · exact hd1
    · exact (propCount_sndDevDefInit_le _ d1).trans hd1
  unfold sndStartTag
  by_cases hparsed : d.cardParsed
  · rw [if_pos hparsed]
  · rw [if_neg hparsed]
    by_cases hp : (nodeTypeOf t).isNone ∧ hasPlugin t
    · simp only [if_pos hp]
      have htyped : (d.onCurDev fun dev => { dev with type := .plugin }).propCount ≤ d.propCount :=
        propCount_onCurDev_same (fun _ => by rfl) d
      exact hrest { d.onCurDev (fun dev => { dev with type := .plugin }) with
                    dataBuf := [], currentTag := tagAfterStart t d.currentTag } htyped
    · simp only [if_neg hp]
      exact hrest { d with dataBuf := [], currentTag := tagAfterStart t d.currentTag } le_rfl

theorem propCount_sndParseCardProperties_le (t : CString) (d : XmlUserdata) :
    (sndParseCardProperties t d).propCount ≤ d.propCount := by
  unfold sndParseCardProperties sndParseInitializeCardDef XmlUserdata.setCardName XmlUserdata.propCount
  split
  · dsimp only
    split
    · cases hc : d.curCardDef <;> simp [hc, SndDevDefCard.propCount, propsOf]
    · exact le_rfl
  · split
    · cases hc : d.curCardDef with
      | some c => simp [SndDevDefCard.propCount]
      | none =>
        dsimp only
        split
        · rw [hc]
        · split <;> simp [hc, SndDevDefCard.propCount, propsOf]
    · exact le_rfl

/-- An element that ends leads to one more property at most, and to none outside `props`. -/
theorem propCount_sndParseProperties_le (t : CString) (d : XmlUserdata) : (sndParseProperties t d).propCount ≤
    d.propCount + if d.currentTag = .devProps ∧ t ≠ tagProps then 1 else 0 := by
  unfold sndParseProperties
  split
  · exact Nat.le_add_right ..
  · exact (propCount_sndParseCardProperties_le t d).trans (Nat.le_add_right ..)
  · refine le_trans ?_ (Nat.le_add_right ..)
    unfold sndParsePluginProperties
    split
    · exact propCount_onCurDev_same (fun _ => by rfl) d
    · exact le_rfl
  · refine le_trans ?_ (Nat.le_add_right ..)
    unfold sndParseDeviceProperties
    split
    · exact le_rfl
    · split
      · exact propCount_onCurDev_same (fun _ => by rfl) d
      · split
        · exact propCount_onCurDev_same (fun _ => by rfl) d
        · exact le_rfl
  · next htag =>
    unfold sndParseDeviceCustomProperties
    split
    · exact Nat.le_add_right ..
    · next hprops =>
      have hone : (if d.currentTag = .devProps ∧ t ≠ tagProps then 1 else 0) = 1 := if_pos ⟨htag, hprops⟩
      rw [hone]
      split
      · exact Nat.le_add_right ..
      · refine propCount_onCurDev_le (fun dev => ?_) d
        rw [List.length_append, List.length_singleton]

/-- In the card that is asked for. -/
def XmlUserdata.Live (d : XmlUserdata) : Prop := d.cardParsed = false ∧ d.cardFound = true

theorem XmlUserdata.Live.looks {d : XmlUserdata} (h : d.Live) : d.Looks := ⟨h.1, .inr h.2⟩

/-- The card is over, or the current tag is known. -/
def XmlUserdata.Heard (d : XmlUserdata) (tag : XmlTag) : Prop := d.cardParsed = true ∨ d.Live ∧ d.currentTag = tag

section

variable {d d' : XmlUserdata}

theorem sndParseProperties_live (t : CString) (h : d.Live) :
    (sndParseProperties t d).Live ∧ (sndParseProperties t d).currentTag = d.currentTag := by
  have hcur : ∀ f, (d.onCurDev f).Live ∧ (d.onCurDev f).currentTag = d.currentTag := fun _ => ⟨h, rfl⟩
  unfold sndParseProperties
  split
  · exact ⟨h, rfl⟩
  · unfold sndParseCardProperties sndParseInitializeCardDef XmlUserdata.setCardName
    split
    · dsimp only
      split
      · cases d.curCardDef with
        | none => exact ⟨⟨h.1, rfl⟩, rfl⟩
        | some c => exact ⟨h, rfl⟩
      · exact ⟨h, rfl⟩
    · split
      · split
        · exact ⟨h, rfl⟩
        · split
          · exact ⟨h, rfl⟩
          · split
            · split
              · exact ⟨h, rfl⟩
              · exact ⟨⟨h.1, rfl⟩, rfl⟩
            · exact ⟨h, rfl⟩
      · exact ⟨h, rfl⟩
  · unfold sndParsePluginProperties
    split
    · exact hcur _
    · exact ⟨h, rfl⟩
  · unfold sndParseDeviceProperties
    split
    · exact ⟨h, rfl⟩
    · split
      · exact hcur _
      · split
        · exact hcur _
        · exact ⟨h, rfl⟩
  · unfold sndParseDeviceCustomProperties
    split
    · exact ⟨h, rfl⟩
    · split
      · exact ⟨h, rfl⟩
      · exact hcur _

/-- The end of an element in the card, before the tag is left. -/
theorem sndEndTag_live {t : CString} (h : d.Live) (he : sndEndTag t d = some d') : ∃ d1, d1.Live ∧
    d1.currentTag = d.currentTag ∧
    d1.propCount ≤ d.propCount + (if d.currentTag = .devProps ∧ t ≠ tagProps then 1 else 0) ∧
    d' = sndLeaveTag t d1 := by
  rw [sndEndTag_looks h.looks] at he
  split at he
  · rw [← Option.some.inj he]
    by_cases hnil : d.dataBuf = []
    · rw [if_pos hnil]
      exact ⟨{ d with dataBuf := [] }, h, rfl, Nat.le_add_right .., rfl⟩
    · rw [if_neg hnil]
      obtain ⟨hlive, htag⟩ := sndParseProperties_live t h
      exact ⟨{ sndParseProperties t d with dataBuf := [] }, hlive, htag, propCount_sndParseProperties_le t d, rfl⟩
  · cases he

theorem sndStartTag_live (t : CString) (h : d.Live) : (sndStartTag t d).Live ∧
    (sndStartTag t d).currentTag = tagAfterStart t d.currentTag ∧ (sndStartTag t d).propCount ≤ d.propCount := by
  obtain ⟨-, hparsed, hfound, htag⟩ := sndStartTag_frame t d h.1
  exact ⟨⟨hparsed, hfound.trans h.2⟩, htag, propCount_sndStartTag_le t d⟩

theorem propCount_sndLeaveTag (t : CString) (d : XmlUserdata) : (sndLeaveTag t d).propCount = d.propCount := by
  unfold sndLeaveTag
  repeat' split
  all_goals rfl

/-- Once the card is over nothing is added. -/
theorem saxRun_over {evs : List Sax} (h : d.cardParsed = true) (hr : saxRun evs d = some d') :
    d'.cardParsed = true ∧ d'.propCount = d.propCount := by
  obtain ⟨d1, hd1, hcard, hparsed⟩ := saxRun_parsed evs d h
  rw [hd1] at hr
  cases hr
  exact ⟨hparsed, by rw [XmlUserdata.propCount, hcard, XmlUserdata.propCount]⟩

/-- The elements of a device and of a plugin add no property. -/
theorem saxRun_leaf_live {gap : Blank} {t : CString} (ht : Plain t) {x : Text} (h : d.Live)
    (htag : d.currentTag ≠ .devProps) (hr : saxRun (leaf gap t x) d = some d') :
    d'.Live ∧ d'.currentTag = d.currentTag ∧ d'.propCount ≤ d.propCount := by
  rw [saxRun_leaf _ _ _ _ h.1, sndStartTag_plain ht h.1] at hr
  obtain ⟨d1, hlive, htag1, hle, rfl⟩ := sndEndTag_live (d := { d with dataBuf := x.value }) h hr
  rw [if_neg fun hc => htag hc.1] at hle
  rw [sndLeaveTag_plain ht]
  exact ⟨hlive, htag1, hle⟩

theorem saxRun_plugin_live {p : PluginElem} (h : d.Live) (hr : saxRun p.events d = some d') :
    d'.Live ∧ d'.currentTag = .device ∧ d'.propCount ≤ d.propCount := by
  obtain ⟨hnode, -, -⟩ := hasPlugin_facts p.isPlugin
  obtain ⟨hlive, htag, hle⟩ := sndStartTag_live p.tag h
  have hafter : tagAfterStart p.tag d.currentTag = .plugin := by
    rw [tagAfterStart, hnode, if_neg (by decide), if_pos p.isPlugin]
  rw [hafter] at htag
  rw [PluginElem.events, saxRun_node _ _ _ _ _ h.1] at hr
  obtain ⟨d1, hd1, hend⟩ := Option.bind_eq_some_iff.1 hr
  have hprops : (sndStartTag p.tag d).currentTag ≠ .devProps := by
    rw [htag]
    exact fun h => XmlTag.noConfusion h
  obtain ⟨hlive1, htag1, hle1⟩ := saxRun_leaf_live plain_soName hlive hprops hd1
  obtain ⟨d2, hlive2, -, hle2, rfl⟩ :=
    sndEndTag_live (d := { d1 with dataBuf := d1.dataBuf ++ p.last.text }) hlive1 hend
  rw [if_neg fun hc => by rw [htag1, htag] at hc; cases hc.1] at hle2
  have hleave : sndLeaveTag p.tag d2 = { d2 with currentTag := .device } := by
    rw [sndLeaveTag, hnode, if_neg (by decide), if_pos (.inl p.isPlugin)]
  rw [hleave]
  exact ⟨hlive2, rfl, hle2.trans (hle1.trans hle)⟩

/-- What a property can add. -/
def PropElem.counts (p : PropElem) : Nat := if p.tag ∈ reserved then 0 else 1

def DeviceElem.items (d : DeviceElem) : List PropElem := (d.props.map PropsElem.items).getD []

theorem sndLeaveTag_live (t : CString) (h : d.Live) : (sndLeaveTag t d).cardParsed = true ∨ (sndLeaveTag t d).Live := by
  unfold sndLeaveTag
  split
  · exact .inr h
  · split
    · exact .inr h
    · split
      · exact .inl h.2
      · exact .inr h

/-- A property adds one at most, and none if its name is reserved, whatever else it does. -/
theorem saxRun_prop_live {p : PropElem} (h : d.Live) (hr : saxRun p.events d = some d') :
    (d'.cardParsed = true ∨ d'.Live) ∧ d'.propCount ≤ d.propCount + p.counts := by
  obtain ⟨hlive, htag, hle⟩ := sndStartTag_live p.tag h
  rw [PropElem.events, saxRun_leaf _ _ _ _ h.1] at hr
  obtain ⟨d1, hlive1, -, hle1, rfl⟩ := sndEndTag_live (d := { sndStartTag p.tag d with dataBuf := p.value.value }) hlive hr
  refine ⟨sndLeaveTag_live p.tag hlive1, ?_⟩
  rw [propCount_sndLeaveTag]
  refine hle1.trans (Nat.add_le_add hle ?_)
  unfold PropElem.counts
  split
  · next hc =>
    rw [if_neg]
    -- a reserved name makes another tag current, or is that of the properties themselves
    intro hres
    simp only [reserved, List.mem_cons, List.not_mem_nil, or_false] at hres
    have hafter : tagAfterStart p.tag d.currentTag = .devProps := htag.symm.trans hc.1
    rcases hres with hp | hp | hp | hp | hp
    · rw [hp] at hafter
      cases hafter
    · rw [hp] at hafter
      cases hafter
    · rw [hp] at hafter
      cases hafter
    · rw [hp] at hafter
      cases hafter
    · exact hc.2 hp
  · exact Nat.zero_le _

theorem saxRun_items_live {items : List PropElem} (h : d.cardParsed = true ∨ d.Live)
    (hr : saxRun (items.flatMap PropElem.events) d = some d') :
    (d'.cardParsed = true ∨ d'.Live) ∧ d'.propCount ≤ d.propCount + (items.map PropElem.counts).sum := by
  induction items generalizing d with
  | nil =>
    cases hr
    exact ⟨h, le_rfl⟩
  | cons p items ih =>
    rw [List.flatMap_cons, saxRun_append] at hr
    obtain ⟨d1, hd1, hr⟩ := Option.bind_eq_some_iff.1 hr
    have hstep : (d1.cardParsed = true ∨ d1.Live) ∧ d1.propCount ≤ d.propCount + p.counts := by
      rcases h with h | h
      · obtain ⟨hover, hsame⟩ := saxRun_over h hd1
        exact ⟨.inl hover, by omega⟩
      · exact saxRun_prop_live h hd1
    obtain ⟨hheard, hle⟩ := ih hstep.1 hr
    refine ⟨hheard, ?_⟩
    rw [List.map_cons, List.sum_cons]
    omega

/-- The end of `props` and of a device: nothing is added, and the tag is known again. -/
theorem sndEndTag_heard {t : CString} {tag : XmlTag} (hleave : ∀ d, sndLeaveTag t d = { d with currentTag := tag })
    (h : d.cardParsed = true ∨ d.Live) (hquiet : t = tagProps ∨ (d.cardParsed = true ∨ d.currentTag ≠ .devProps))
    (he : sndEndTag t d = some d') : d'.Heard tag ∧ d'.propCount ≤ d.propCount := by
  rcases h with h | h
  · have hone : saxRun [.stop t] d = some d' := by
      show (sndEndTag t d).bind some = some d'
      rw [he]
      rfl
    obtain ⟨hover, hsame⟩ := saxRun_over h hone
    exact ⟨.inl hover, hsame.le⟩
  · obtain ⟨d1, hlive, -, hle, rfl⟩ := sndEndTag_live h he
    rw [if_neg] at hle
    · rw [hleave]
      exact ⟨.inr ⟨hlive, rfl⟩, hle⟩
    · rintro ⟨htag, hne⟩
      rcases hquiet with hp | hp | hp
      · exact hne hp
      · rw [h.1] at hp
        cases hp
      · exact hp htag

theorem saxRun_props_live {p : PropsElem} (h : d.Live) (hr : saxRun p.events d = some d') :
    d'.Heard .device ∧ d'.propCount ≤ d.propCount + (p.items.map PropElem.counts).sum := by
  obtain ⟨hlive, -, hle⟩ := sndStartTag_live tagProps h
  rw [PropsElem.events, saxRun_node _ _ _ _ _ h.1] at hr
  obtain ⟨d1, hd1, hend⟩ := Option.bind_eq_some_iff.1 hr
  obtain ⟨hheard, hle1⟩ := saxRun_items_live (.inr hlive) hd1
  have hleave : ∀ d, sndLeaveTag tagProps d = { d with currentTag := .device } := fun _ => rfl
  obtain ⟨hheard', hle2⟩ :=
    sndEndTag_heard (d := { d1 with dataBuf := d1.dataBuf ++ p.last.text }) hleave hheard (.inl rfl) hend
  refine ⟨hheard', ?_⟩
  have hsame : XmlUserdata.propCount { d1 with dataBuf := d1.dataBuf ++ p.last.text } = d1.propCount := rfl
  omega

theorem saxRun_device_live {e : DeviceElem} (h : d.cardParsed = true ∨ d.Live) (hr : saxRun e.events d = some d') :
    d'.Heard .card ∧ d'.propCount ≤ d.propCount + (e.items.map PropElem.counts).sum := by
  rcases h with h | h
  · obtain ⟨hover, hsame⟩ := saxRun_over h hr
    exact ⟨.inl hover, by omega⟩
  · obtain ⟨hlive, htag, hle⟩ := sndStartTag_live e.kind.tag h
    have hafter : tagAfterStart e.kind.tag d.currentTag = .device := by
      rw [tagAfterStart, nodeTypeOf_tag, Option.isSome_some, if_pos rfl]
    rw [hafter] at htag
    have hdev : ∀ {tag : XmlTag}, tag = .device → tag ≠ .devProps := by
      rintro _ rfl
      exact fun h => XmlTag.noConfusion h
    rw [DeviceElem.events, saxRun_node _ _ _ _ _ h.1, saxRun_append] at hr
    obtain ⟨d1, hd1, hend⟩ := Option.bind_eq_some_iff.1 hr
    obtain ⟨d2, hd2, hd1⟩ := Option.bind_eq_some_iff.1 hd1
    rw [saxRun_append] at hd1
    obtain ⟨d3, hd3, hd1⟩ := Option.bind_eq_some_iff.1 hd1
    rw [saxRun_append] at hd1
    obtain ⟨d4, hd4, hd1⟩ := Option.bind_eq_some_iff.1 hd1
    obtain ⟨hlive2, htag2, hle2⟩ := saxRun_leaf_live plain_id hlive (hdev htag) hd2
    obtain ⟨hlive3, htag3, hle3⟩ := saxRun_leaf_live plain_name hlive2 (hdev (htag2.trans htag)) hd3
    have hplugin : d4.Live ∧ d4.currentTag = .device ∧ d4.propCount ≤ d3.propCount := by
      cases hp : e.plugin with
      | none =>
        rw [hp] at hd4
        cases hd4
        exact ⟨hlive3, (htag3.trans htag2).trans htag, le_rfl⟩
      | some p =>
        rw [hp] at hd4
        exact saxRun_plugin_live hlive3 hd4
    obtain ⟨hlive4, htag4, hle4⟩ := hplugin
    have hprops : d1.Heard .device ∧ d1.propCount ≤ d4.propCount + (e.items.map PropElem.counts).sum := by
      cases hp : e.props with
      | none =>
        rw [hp] at hd1
        cases hd1
        exact ⟨.inr ⟨hlive4, htag4⟩, Nat.le_add_right ..⟩
      | some p =>
        rw [hp] at hd1
        rw [DeviceElem.items, hp]
        exact saxRun_props_live hlive4 hd1
    obtain ⟨hheard, hle1⟩ := hprops
    have hleave : ∀ d, sndLeaveTag e.kind.tag d = { d with currentTag := .card } := by
      intro d
      rw [sndLeaveTag, nodeTypeOf_tag, Option.isSome_some, if_pos rfl]
    obtain ⟨hheard', hle'⟩ := sndEndTag_heard (d := { d1 with dataBuf := d1.dataBuf ++ e.last.text }) hleave
      (hheard.imp_right And.left) (.inr (hheard.imp_right fun h => hdev h.2)) hend
    have hsame : XmlUserdata.propCount { d1 with dataBuf := d1.dataBuf ++ e.last.text } = d1.propCount := rfl
    exact ⟨hheard', by omega⟩

theorem saxRun_devices_live {ds : List DeviceElem} (h : d.Heard .card)
    (hr : saxRun (ds.flatMap DeviceElem.events) d = some d') : d'.Heard .card ∧
    d'.propCount ≤ d.propCount + (ds.map fun e => (e.items.map PropElem.counts).sum).sum := by
  induction ds generalizing d with
  | nil =>
    cases hr
    exact ⟨h, le_rfl⟩
  | cons e ds ih =>
    rw [List.flatMap_cons, saxRun_append] at hr
    obtain ⟨d1, hd1, hr⟩ := Option.bind_eq_some_iff.1 hr
    obtain ⟨hheard1, hle1⟩ := saxRun_device_live (h.imp_right And.left) hd1
    obtain ⟨hheard, hle⟩ := ih hheard1 hr
    refine ⟨hheard, ?_⟩
    rw [List.map_cons, List.sum_cons]
    omega

/-- The card is over when it ends. -/
theorem sndEndTag_card_heard (h : d.Heard .card) (he : sndEndTag tagCard d = some d') :
    d'.cardParsed = true ∧ d'.propCount ≤ d.propCount := by
  rcases h with h | ⟨h, htag⟩
  · have hone : saxRun [.stop tagCard] d = some d' := by
      show (sndEndTag tagCard d).bind some = some d'
      rw [he]
      rfl
    obtain ⟨hover, hsame⟩ := saxRun_over h hone
    exact ⟨hover, hsame.le⟩
  · obtain ⟨d1, hlive, -, hle, rfl⟩ := sndEndTag_live h he
    rw [htag, if_neg fun hc => XmlTag.noConfusion hc.1] at hle
    exact ⟨hlive.2, hle⟩

end

/-! ## What a reserved name costs -/

theorem propsOf_devs_cons (e : DeviceElem) (es : List DeviceElem) (kind : NodeType) :
    propsOf (((e :: es).filter fun d => d.kind = kind).map DeviceElem.described) =
      (if e.kind = kind then e.items.length else 0) + propsOf ((es.filter fun d => d.kind = kind).map DeviceElem.described) := by
  by_cases hk : e.kind = kind
  · rw [List.filter_cons_of_pos (by simpa using hk), if_pos hk, List.map_cons, propsOf, List.map_cons, List.sum_cons]
    congr 1
    exact List.length_map ..
  · rw [List.filter_cons_of_neg (by simpa using hk), if_neg hk, Nat.zero_add]

/-- Every property is one of the card. -/
theorem CardElem.propCount_described (c : CardElem) :
    c.described.propCount = (c.devices.map fun e => e.items.length).sum := by
  have hall : ∀ es : List DeviceElem, propsOf ((es.filter fun d => d.kind = .pcm).map DeviceElem.described) +
      propsOf ((es.filter fun d => d.kind = .mixer).map DeviceElem.described) +
      propsOf ((es.filter fun d => d.kind = .compr).map DeviceElem.described) =
      (es.map fun e => e.items.length).sum := by
    intro es
    induction es with
    | nil => rfl
    | cons e es ih =>
      rw [propsOf_devs_cons, propsOf_devs_cons, propsOf_devs_cons, List.map_cons, List.sum_cons, ← ih]
      cases e.kind <;> simp only [reduceCtorEq, if_true, if_false] <;> omega
  exact hall c.devices

theorem counts_le (items : List PropElem) : (items.map PropElem.counts).sum ≤ items.length := by
  have hle := List.sum_le_card_nsmul (items.map PropElem.counts) 1 (by
    intro n hn
    obtain ⟨p, -, rfl⟩ := List.mem_map.1 hn
    unfold PropElem.counts
    split <;> omega)
  simpa using hle

theorem counts_lt {items : List PropElem} {p : PropElem} (hp : p ∈ items) (hres : p.tag ∈ reserved) :
    (items.map PropElem.counts).sum < items.length := by
  induction items with
  | nil => cases hp
  | cons q items ih =>
    have hq : q.counts ≤ 1 := by
      unfold PropElem.counts
      split <;> omega
    rw [List.map_cons, List.sum_cons, List.length_cons]
    rcases List.mem_cons.1 hp with rfl | hp
    · have hzero : p.counts = 0 := if_pos hres
      have hle := counts_le items
      omega
    · have hlt := ih hp
      omega

theorem counts_devices_lt {es : List DeviceElem} {e : DeviceElem} {p : PropElem} (he : e ∈ es) (hp : p ∈ e.items)
    (hres : p.tag ∈ reserved) :
    (es.map fun e => (e.items.map PropElem.counts).sum).sum < (es.map fun e => e.items.length).sum := by
  refine List.sum_lt_sum _ _ (fun e _ => counts_le e.items) ⟨e, he, counts_lt hp hres⟩

section

variable {card : Nat} {c : CardElem}

/-- A card with such a property is never read as it is, whatever follows it. -/
theorem saxRun_card_reserved (hc : c.is card = true) {e : DeviceElem} {p : PropElem} (he : e ∈ c.devices)
    (hp : p ∈ e.items) (hres : p.tag ∈ reserved) (tag : XmlTag) (buf : CString) (rest : List Sax) :
    ((saxRun c.events (passing card tag buf)).bind (saxRun rest)).map XmlUserdata.curCardDef ≠
      some (some c.described) := by
  intro hall
  obtain ⟨d3, hd3, hcur⟩ := Option.map_eq_some_iff.1 hall
  obtain ⟨d2, hd2, hrest⟩ := Option.bind_eq_some_iff.1 hd3
  rw [saxRun_card_eq hc] at hd2
  obtain ⟨d1, hd1, hend⟩ := Option.bind_eq_some_iff.1 hd2
  have hlive : (inCard card c.head none .card []).Heard .card := .inr ⟨⟨rfl, rfl⟩, rfl⟩
  obtain ⟨hheard, hle1⟩ := saxRun_devices_live hlive hd1
  obtain ⟨hover, hle2⟩ := sndEndTag_card_heard (d := { d1 with dataBuf := d1.dataBuf ++ c.last.text }) hheard hend
  obtain ⟨-, hsame⟩ := saxRun_over hover hrest
  have hstart : (inCard card c.head none .card []).propCount = 0 := rfl
  have hdescribed : d3.propCount = c.described.propCount := by rw [XmlUserdata.propCount, hcur]; rfl
  have hlt := counts_devices_lt he hp hres
  have hbuf : XmlUserdata.propCount { d1 with dataBuf := d1.dataBuf ++ c.last.text } = d1.propCount := rfl
  rw [c.propCount_described] at hdescribed
  omega

end

/-! ## The theorem -/

/-- `snd_card_def_get_card` without a name file: the first card with the id is built as the document describes it, exactly
if the document is one the handlers can take. -/
theorem parseCard_first (d : CardDefs) (card : Nat) {c : CardElem} (h : d.first card = some c) :
    parseCard card none d.events = some (some c.described) ↔ d.Kept card := by
  obtain ⟨-, -, hc, -⟩ := cards_split h
  obtain ⟨hpass, hstop⟩ := parseCard_eq h
  unfold CardDefs.Kept
  simp only [h, Option.mem_def, Option.some.injEq, forall_eq']
  by_cases hbefore : ∀ b ∈ d.cards.takeWhile fun c => ! c.is card, b.Passed
  · obtain ⟨tag, buf, rest, hparse⟩ := hpass hbefore
    rw [hparse, and_iff_right hbefore]
    by_cases hitems : ∀ e ∈ c.devices, ∀ props ∈ e.props, ∀ item ∈ props.items, item.tag ∉ reserved
    · obtain ⟨hfits, hnot⟩ := saxRun_card_found hc hitems tag buf
      rw [c.kept_iff hitems]
      by_cases hf : c.Fits
      · obtain ⟨d1, hrun, hcur, hparsed⟩ := hfits hf
        obtain ⟨d2, hrest, hsame, -⟩ := saxRun_parsed rest d1 hparsed
        rw [hrun, Option.bind_some, hrest, Option.map_some, hsame, hcur, Option.some.injEq, Option.some.injEq,
          and_iff_right hf]
      · rw [hnot hf]
        exact ⟨fun h => (nomatch h), fun h => absurd h.1 hf⟩
    · simp only [not_forall, not_not] at hitems
      obtain ⟨e, he, props, hprops, item, hitem, hres⟩ := hitems
      have hmem : item ∈ e.items := by
        rw [DeviceElem.items, Option.mem_def.1 hprops]
        exact hitem
      refine iff_of_false (saxRun_card_reserved hc he hmem hres tag buf rest) fun hkept => ?_
      exact (((hkept.2.1 e he).2.2.1 props hprops).1 item hitem).1 hres
  · rw [hstop hbefore]
    exact ⟨fun h => (nomatch h), fun h => absurd h.1 hbefore⟩

def Blank.of (s : CString) (h : s.all isSpace = true) : Blank :=
  ⟨[s], fun x hx => by rw [List.mem_singleton.1 hx]; exact List.all_eq_true.1 h⟩

def Text.of (s : CString) (h : s.length < BUF_SIZE) : Text where
  chunks := [s.take 1, s.drop 1]
  short := by
    rw [List.flatten_cons, List.flatten_cons, List.flatten_nil, List.append_nil, List.take_append_drop]
    exact h

/-- Two cards with the name that is asked for first, the second with a plugin and a property. -/
def twoCards (prop : CString) (hnamed : prop ≠ []) (hplain : hasPlugin prop = false) : CardDefs where
  cards :=
    let none : Blank := ⟨[], fun _ h => (nomatch h)⟩
    let nl : Blank := Blank.of ['\n', ' '] rfl
    let id (s : CString) (h : s.length < BUF_SIZE) (hs : (Text.of s h).value ≠ []) : IdText :=
      { Text.of s h with given := hs }
    [{ gap := nl, idGap := nl, id := id ['0'] (by decide) (by decide), nameGap := nl,
       name := Text.of "first".toList (by decide), devices := [], last := nl },
     { gap := nl, idGap := nl, id := id ['1'] (by decide) (by decide), nameGap := nl,
       name := Text.of "qrd, mtp".toList (by decide),
       devices :=
         [{ gap := nl, kind := .pcm, idGap := nl, id := id ['7'] (by decide) (by decide), nameGap := none,
            name := Text.of "pcm7".toList (by decide),
            plugin := some { gap := nl, tag := "plugin".toList, isPlugin := by decide, soGap := nl,
                             soName := Text.of "libagm_pcm_plugin.so".toList (by decide), last := nl },
            props := some { gap := nl, items := [{ gap := nl, tag := prop, named := hnamed, plain := hplain,
                                                   value := Text.of "2".toList (by decide) }],
                            distinct := by simp, last := nl }, last := nl },
          { gap := nl, kind := .mixer, idGap := nl, id := id ['3'] (by decide) (by decide), nameGap := nl,
            name := Text.of "mix".toList (by decide), plugin := .none, props := .none, last := none }], last := nl }]
  last := Blank.of ['\n'] rfl

theorem parseCard_first_two : parseCard 1 none (twoCards "mode".toList (by decide) (by decide)).events =
    some ((twoCards "mode".toList (by decide) (by decide)).cards[1]?.map CardElem.described) :=
  (parseCard_first (twoCards "mode".toList (by decide) (by decide)) 1 rfl).2 (by decide +kernel)

/-- A property named `mixer` adds a device, and is lost. -/
theorem parseCard_mixer_property : parseCard 1 none (twoCards tagMixer (by decide) (by decide)).events ≠
    some ((twoCards tagMixer (by decide) (by decide)).cards[1]?.map CardElem.described) := by
  decide +kernel

end Agm.Parser
