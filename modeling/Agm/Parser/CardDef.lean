import Agm.Lib.CString

/-!
# The definition of a sound card

What `snd-card-parser.c` keeps of the card in `card-defs.xml`, and how the plugins read it.
-/

namespace Agm.Parser

open Agm.Lib CString

/-- `enum snd_node_type`. -/
inductive NodeType
  | pcm | mixer | compr
  deriving DecidableEq, Repr

/-- The values of `type`: `SND_NODE_DEV_TYPE_HW` and `SND_NODE_DEV_TYPE_PLUGIN`. -/
inductive DevType
  | hw | plugin
  deriving DecidableEq, Repr

/-- `struct snd_dev_def`; a text that was not set is a null pointer. -/
structure SndDevDef where
  nodeType : NodeType
  device : Nat := 0
  type : DevType := .hw
  name : Option CString := none
  soName : Option CString := none
  propVals : List (CString × CString) := []
  deriving DecidableEq, Repr

/-- `struct snd_dev_def_card`, without its count of references. -/
structure SndDevDefCard where
  card : Nat := 0
  name : Option CString := none
  pcmDevs : List SndDevDef := []
  mixerDevs : List SndDevDef := []
  comprDevs : List SndDevDef := []
  deriving DecidableEq, Repr

/-- `isspace`. -/
def isSpace (c : Char) : Bool := c = ' ' || (9 ≤ c.toNat && c.toNat ≤ 13)

/-- The largest `long`. -/
def LONG_MAX : Nat := 2 ^ 63 - 1

/-- `strtol` in base ten: white space, a sign, digits; it stops at the ends of `long`. -/
def strtol (s : CString) : Int :=
  match s.dropWhile isSpace with
  | '-' :: cs => - (min (digitsValue cs 0) (LONG_MAX + 1) : Nat)
  | '+' :: cs => (min (digitsValue cs 0) LONG_MAX : Nat)
  | cs => (min (digitsValue cs 0) LONG_MAX : Nat)

/-- `atoi`. -/
def atoi (s : CString) : Int := Int.bmod (strtol s) (2 ^ 32)

/-- `atoi` into an `unsigned int`. -/
def atoiUnsigned (s : CString) : Nat := (atoi s % 2 ^ 32).toNat

/-- `snd_card_def_get_int` for a custom property: where there is none, the caller's variable stays as it is. -/
def sndCardDefGetInt (dev : SndDevDef) (prop : CString) : Option Int :=
  (dev.propVals.find? fun pv => pv.1 = prop).map fun pv => atoi pv.2

end Agm.Parser
