import Agm.Parser.Tags

/-!
# Documents of cards

A document as a tree, with the white space between its elements and the pieces in which expat reports its characters; the
calls expat makes for it; and the definition that each card should lead to.
-/

namespace Agm.Parser

open Agm.Lib CString

/-- White space between two elements, in the pieces it is reported in. -/
structure Blank where
  chunks : List CString
  blank : ∀ s ∈ chunks, ∀ c ∈ s, isSpace c = true

def Blank.text (b : Blank) : CString := b.chunks.flatten

/-- The text of an element, which fits into the buffer. -/
structure Text where
  chunks : List CString
  short : chunks.flatten.length < BUF_SIZE

def Text.value (t : Text) : CString := t.chunks.flatten

/-- An id is not empty. -/
structure IdText extends Text where
  given : chunks.flatten ≠ []

/-- A plugin element with its `so-name`. -/
structure PluginElem where
  gap : Blank
  tag : CString
  isPlugin : hasPlugin tag = true
  soGap : Blank
  soName : Text
  last : Blank

/-- A property, of any name that does not look like a plugin. -/
structure PropElem where
  gap : Blank
  tag : CString
  named : tag ≠ []
  plain : hasPlugin tag = false
  value : Text

structure PropsElem where
  gap : Blank
  items : List PropElem
  distinct : (items.map PropElem.tag).Nodup
  last : Blank

/-- A `pcm-device`, `compress-device` or `mixer`. -/
structure DeviceElem where
  gap : Blank
  kind : NodeType
  idGap : Blank
  id : IdText
  nameGap : Blank
  name : Text
  plugin : Option PluginElem
  props : Option PropsElem
  last : Blank

/-- A card; its name is a list, but one text. -/
structure CardElem where
  gap : Blank
  idGap : Blank
  id : IdText
  nameGap : Blank
  name : Text
  devices : List DeviceElem
  last : Blank

structure CardDefs where
  cards : List CardElem
  last : Blank

/-! ## The calls of expat -/

def Blank.events (b : Blank) : List Sax := b.chunks.map .data

/-- An element with nothing but text, after white space. -/
def leaf (gap : Blank) (tag : CString) (t : Text) : List Sax :=
  gap.events ++ .start tag :: (t.chunks.map .data ++ [.stop tag])

/-- An element with others in it, after white space. -/
def node (gap : Blank) (tag : CString) (children : List Sax) (last : Blank) : List Sax :=
  gap.events ++ .start tag :: (children ++ (last.events ++ [.stop tag]))

def NodeType.tag : NodeType → CString
  | .pcm => tagPcmDevice
  | .compr => tagCompressDevice
  | .mixer => tagMixer

def PluginElem.events (p : PluginElem) : List Sax := node p.gap p.tag (leaf p.soGap tagSoName p.soName) p.last

def PropElem.events (p : PropElem) : List Sax := leaf p.gap p.tag p.value

def PropsElem.events (p : PropsElem) : List Sax := node p.gap tagProps (p.items.flatMap PropElem.events) p.last

def DeviceElem.events (d : DeviceElem) : List Sax :=
  node d.gap d.kind.tag (leaf d.idGap tagId d.id.toText ++ (leaf d.nameGap tagName d.name ++
    ((d.plugin.map PluginElem.events).getD [] ++ (d.props.map PropsElem.events).getD []))) d.last

def CardElem.events (c : CardElem) : List Sax :=
  node c.gap tagCard (leaf c.idGap tagId c.id.toText ++ (leaf c.nameGap tagName c.name ++
    c.devices.flatMap DeviceElem.events)) c.last

def CardDefs.events (d : CardDefs) : List Sax :=
  .start "defs".toList :: (d.cards.flatMap CardElem.events ++ (d.last.events ++ [.stop "defs".toList]))

/-! ## What a document says -/

/-- The device, with all that its element carries. -/
def DeviceElem.described (d : DeviceElem) : SndDevDef where
  nodeType := d.kind
  device := atoiUnsigned d.id.value
  type := if d.plugin.isSome then .plugin else .hw
  name := some d.name.value
  soName := d.plugin.map fun p => p.soName.value
  propVals := ((d.props.map PropsElem.items).getD []).map fun p => (p.tag, p.value.value)

/-- The devices of a kind, in document order. -/
def CardElem.devs (c : CardElem) (kind : NodeType) : List SndDevDef :=
  (c.devices.filter fun d => d.kind = kind).map DeviceElem.described

/-- The card, with its devices and nothing else. -/
def CardElem.described (c : CardElem) : SndDevDefCard where
  card := atoiUnsigned c.id.value
  name := some c.name.value
  pcmDevs := c.devs .pcm
  mixerDevs := c.devs .mixer
  comprDevs := c.devs .compr

def CardElem.is (card : Nat) (c : CardElem) : Bool := atoiUnsigned c.id.value = card

/-- The first card with an id. -/
def CardDefs.first (d : CardDefs) (card : Nat) : Option CardElem := d.cards.find? (·.is card)

/-! ## What the handlers can take -/

/-- White space that an end tag looks at has to fit into the buffer. -/
def Blank.Fits (b : Blank) : Prop := b.text.length < BUF_SIZE

/-- The names that are not for a property: the handlers know them elsewhere. -/
def reserved : List CString := [tagCard, tagPcmDevice, tagCompressDevice, tagMixer, tagProps]

def PropElem.Kept (p : PropElem) : Prop := p.tag ∉ reserved ∧ p.value.value ≠ []

def PluginElem.Kept (p : PluginElem) : Prop := p.soName.value ≠ [] ∧ p.last.Fits

def PropsElem.Kept (p : PropsElem) : Prop := (∀ item ∈ p.items, item.Kept) ∧ p.last.Fits

def DeviceElem.Kept (d : DeviceElem) : Prop :=
  d.name.value ≠ [] ∧ (∀ p ∈ d.plugin, p.Kept) ∧ (∀ p ∈ d.props, p.Kept) ∧ d.last.Fits

def CardElem.Kept (c : CardElem) : Prop := c.name.value ≠ [] ∧ (∀ d ∈ c.devices, d.Kept) ∧ c.last.Fits

/-- The end tag of a card that is passed over is looked at only if the card has no devices. -/
def CardElem.Passed (c : CardElem) : Prop := c.devices = [] → c.last.Fits

/-- The cards before the first with the id can be passed over, and that one is read as it is. -/
def CardDefs.Kept (d : CardDefs) (card : Nat) : Prop :=
  (∀ c ∈ d.cards.takeWhile fun c => ! c.is card, c.Passed) ∧ ∀ c ∈ d.first card, c.Kept

instance (b : Blank) : Decidable b.Fits := inferInstanceAs (Decidable (_ < _))

instance (p : PropElem) : Decidable p.Kept := inferInstanceAs (Decidable (_ ∧ _))

instance (p : PluginElem) : Decidable p.Kept := inferInstanceAs (Decidable (_ ∧ _))

instance (p : PropsElem) : Decidable p.Kept := inferInstanceAs (Decidable (_ ∧ _))

instance (d : DeviceElem) : Decidable d.Kept := inferInstanceAs (Decidable (_ ∧ _))

instance (c : CardElem) : Decidable c.Kept := inferInstanceAs (Decidable (_ ∧ _))

instance (c : CardElem) : Decidable c.Passed := inferInstanceAs (Decidable (_ → _))

instance (d : CardDefs) (card : Nat) : Decidable (d.Kept card) := inferInstanceAs (Decidable (_ ∧ _))

end Agm.Parser
