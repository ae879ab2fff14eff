import Mathlib.Data.List.ModifyLast
import Agm.Parser.CardDef

/-!
# The handlers of the card parser

Expat calls `snd_start_tag`, `snd_end_tag` and `snd_data_handler`.  What they remember of the document is one tag and the
characters since the last tag, so the same handler sees the elements of all cards, of a card, of a device, of its plugin and
of its properties.

Memory is granted.  The characters have a buffer of `BUF_SIZE` bytes: what does not fit is counted but not kept, and an end
tag that is looked at then writes behind the buffer, which ends the run here.
-/

namespace Agm.Parser

open Agm.Lib CString

def BUF_SIZE : Nat := 1024

/-- `snd_card_defs_xml_tags_t`. -/
inductive XmlTag
  | root | card | device | plugin | devProps
  deriving DecidableEq, Repr

/-- `struct xml_userdata`. -/
structure XmlUserdata where
  /-- the characters since the last reset -/
  dataBuf : CString := []
  card : Nat
  cardName : Option CString
  curCardDef : Option SndDevDefCard := none
  /-- the kind of the device that was begun last, which is the last in the list of its kind -/
  curDevDef : Option NodeType := none
  cardFound : Bool := false
  cardParsed : Bool := false
  currentTag : XmlTag := .root
  deriving DecidableEq, Repr

/-- What expat reports. -/
inductive Sax
  | start (tag : CString) | stop (tag : CString) | data (s : CString)
  deriving DecidableEq, Repr

/-- The names the handlers know. -/
def tagCard : CString := "card".toList
def tagPcmDevice : CString := "pcm-device".toList
def tagCompressDevice : CString := "compress-device".toList
def tagMixer : CString := "mixer".toList
def tagProps : CString := "props".toList
def tagId : CString := "id".toList
def tagName : CString := "name".toList
def tagSoName : CString := "so-name".toList

/-- `strstr(tag_name, "plugin")`. -/
def hasPlugin (tag : CString) : Bool := (strstr "plugin".toList tag).isSome

/-! ## Devices -/

/-- Change the list of devices of a kind. -/
def SndDevDefCard.onDevs (c : SndDevDefCard) (kind : NodeType) (f : List SndDevDef → List SndDevDef) : SndDevDefCard :=
  match kind with
  | .pcm => { c with pcmDevs := f c.pcmDevs }
  | .compr => { c with comprDevs := f c.comprDevs }
  | .mixer => { c with mixerDevs := f c.mixerDevs }

/-- Write to `cur_dev_def`, if it is set. -/
def XmlUserdata.onCurDev (d : XmlUserdata) (f : SndDevDef → SndDevDef) : XmlUserdata :=
  { d with curCardDef := d.curCardDef.map fun c =>
            match d.curDevDef with
            | some kind => c.onDevs kind (List.modifyLast f)
            | none => c }

/-- `snd_dev_def_init`.  The tags of the devices are those that give a node type. -/
def sndDevDefInit (nodeType : Option NodeType) (d : XmlUserdata) : XmlUserdata :=
  match d.curCardDef, nodeType with
  | some c, some kind =>
    { d with curCardDef := some (c.onDevs kind (· ++ [{ nodeType := kind }])), curDevDef := some kind }
  | _, _ => d

/-! ## The start of an element -/

/-- The node type a tag stands for. -/
def nodeTypeOf (tag : CString) : Option NodeType :=
  if tag = tagPcmDevice then some .pcm
  else if tag = tagCompressDevice then some .compr
  else if tag = tagMixer then some .mixer
  else none

/-- The tag that is current after a start tag; the names that contain `plugin` are those of plugins. -/
def tagAfterStart (tag : CString) (cur : XmlTag) : XmlTag :=
  if (nodeTypeOf tag).isSome then .device
  else if hasPlugin tag then .plugin
  else if tag = tagProps then .devProps
  else if tag = tagCard then .card
  else cur

/-- `snd_start_tag`. -/
def sndStartTag (tag : CString) (d : XmlUserdata) : XmlUserdata :=
  if d.cardParsed then d
  else
    let typed := if (nodeTypeOf tag).isNone ∧ hasPlugin tag then d.onCurDev fun dev => { dev with type := .plugin } else d
    let d := { typed with dataBuf := [], currentTag := tagAfterStart tag d.currentTag }
    if d.currentTag ≠ .card ∧ ¬ d.cardFound then d else sndDevDefInit (nodeTypeOf tag) d

/-! ## The end of an element -/

/-- `snd_parse_initialize_card_def`. -/
def sndParseInitializeCardDef (d : XmlUserdata) : XmlUserdata :=
  match d.curCardDef with
  | some _ => d
  | none => { d with cardFound := true, curCardDef := some {} }

/-- `strtok_r` with the delimiters `", "`, called until it is done. -/
def tokens (s : CString) : List CString := (s.splitOnP fun c => c = ',' || c = ' ').filter (· ≠ [])

/-- Name the current card. -/
def XmlUserdata.setCardName (d : XmlUserdata) (name : CString) : XmlUserdata :=
  { d with curCardDef := d.curCardDef.map fun c => { c with name := some name } }

/-- `snd_parse_card_properties`. -/
def sndParseCardProperties (tag : CString) (d : XmlUserdata) : XmlUserdata :=
  if tag = tagId then
    let card := atoiUnsigned d.dataBuf
    if card = d.card then
      let d := sndParseInitializeCardDef d
      { d with curCardDef := d.curCardDef.map fun c => { c with card := card } }
    else d
  else if tag = tagName then
    match d.curCardDef with
    | some _ => d.setCardName d.dataBuf
    | none =>
      match d.cardName with
      | none => d
      | some cardName =>
        match (tokens d.dataBuf).find? fun token => cardName.isPrefixOf token with
        | some token => (sndParseInitializeCardDef d).setCardName token
        | none => d
  else d

/-- `snd_parse_plugin_properties`. -/
def sndParsePluginProperties (tag : CString) (d : XmlUserdata) : XmlUserdata :=
  if tag = tagSoName then d.onCurDev fun dev => { dev with soName := some d.dataBuf } else d

/-- `snd_parse_device_properties`. -/
def sndParseDeviceProperties (tag : CString) (d : XmlUserdata) : XmlUserdata :=
  if (nodeTypeOf tag).isSome then d
  else if tag = tagId then d.onCurDev fun dev => { dev with device := atoiUnsigned d.dataBuf }
  else if tag = tagName then d.onCurDev fun dev => { dev with name := some d.dataBuf }
  else d

/-- `snd_parse_device_custom_properties`. -/
def sndParseDeviceCustomProperties (tag : CString) (d : XmlUserdata) : XmlUserdata :=
  if tag = tagProps then d
  else if d.dataBuf = [] ∨ tag = [] then d
  else d.onCurDev fun dev => { dev with propVals := dev.propVals ++ [(tag, d.dataBuf)] }

/-- Where the characters of an element go, by the current tag. -/
def sndParseProperties (tag : CString) (d : XmlUserdata) : XmlUserdata :=
  match d.currentTag with
  | .root => d
  | .card => sndParseCardProperties tag d
  | .plugin => sndParsePluginProperties tag d
  | .device => sndParseDeviceProperties tag d
  | .devProps => sndParseDeviceCustomProperties tag d

/-- `snd_process_data_buf`. -/
def sndProcessDataBuf (tag : CString) (d : XmlUserdata) : Option XmlUserdata :=
  if d.dataBuf = [] then some d
  else if BUF_SIZE ≤ d.dataBuf.length then none
  else if d.cardParsed then some d
  else some (sndParseProperties tag d)

/-- The tag that is current after an end tag, and whether that was the card's. -/
def sndLeaveTag (tag : CString) (d : XmlUserdata) : XmlUserdata :=
  if (nodeTypeOf tag).isSome then { d with currentTag := .card }
  else if hasPlugin tag ∨ tag = tagProps then { d with currentTag := .device }
  else if tag = tagCard then { d with currentTag := .root, cardParsed := d.cardFound }
  else d

/-- `snd_end_tag`. -/
def sndEndTag (tag : CString) (d : XmlUserdata) : Option XmlUserdata :=
  if d.cardParsed then some d
  else if d.currentTag ≠ .card ∧ ¬ d.cardFound then some d
  else (sndProcessDataBuf tag d).map fun d => sndLeaveTag tag { d with dataBuf := [] }

/-! ## A document -/

/-- `snd_data_handler`: the characters in the buffer, or as many as were counted. -/
def sndDataHandler (s : CString) (d : XmlUserdata) : XmlUserdata := { d with dataBuf := d.dataBuf ++ s }

def saxStep (ev : Sax) (d : XmlUserdata) : Option XmlUserdata :=
  match ev with
  | .start tag => some (sndStartTag tag d)
  | .stop tag => sndEndTag tag d
  | .data s => some (sndDataHandler s d)

/-- All the calls expat makes. -/
def saxRun : List Sax → XmlUserdata → Option XmlUserdata
  | [], d => some d
  | ev :: evs, d => (saxStep ev d).bind (saxRun evs)

/-- What the parse of a document leaves in `cur_card_def`. -/
def parseCard (card : Nat) (cardName : Option CString) (evs : List Sax) : Option (Option SndDevDefCard) :=
  (saxRun evs { card := card, cardName := cardName }).map XmlUserdata.curCardDef

end Agm.Parser
