import Agm.Parser.Build
import Agm.Lib.Runs

/-!
# The list of card definitions

`snd_card_def_get_card` and `snd_card_def_put_card` share `snd_card_list` under a lock, so a call is one step.  The cards in
the list are counted; what is not in it is freed.

The variable `card_def` is the cursor of the walk over the list and the result: where the parse fails it is still the last
card of the list, which is returned without being counted.
-/

namespace Agm.Parser

open Agm.Lib CString

def INT_MAX : Nat := 2 ^ 31 - 1
def UINT_MAX : Nat := 2 ^ 32 - 1

/-- What a get is called with and finds: the line of `/proc/asound/card%d/id`, if it can be read. -/
structure Request where
  card : Nat
  line : Option CString
  deriving DecidableEq, Repr

/-- The name that is looked for: the line without its last character. -/
def Request.cardName (req : Request) : Option CString := req.line.map List.dropLast

/-- The id that is looked for. -/
def Request.cardId (req : Request) : Nat := if req.cardName.isSome then UINT_MAX else req.card

/-- How the reading of `CARD_DEF_FILE` goes: it cannot be opened, or expat has made some calls to its end or to an error. -/
inductive CardFile
  | absent
  | parsed (evs : List Sax)
  | broken (evs : List Sax)
  deriving DecidableEq, Repr

/-- A card in the list; `addr` tells it from all others there ever were. -/
structure CardRef where
  addr : Nat
  card : SndDevDefCard
  refcnt : Nat
  deriving DecidableEq, Repr

/-- A card that was returned, and what for. -/
structure Got where
  req : Request
  addr : Nat
  card : SndDevDefCard
  deriving DecidableEq, Repr

/-- `snd_card_list`, with the calls that were made. -/
structure Cards where
  list : List CardRef := []
  next : Nat := 0
  got : List Got := []
  put : List Nat := []
  deriving DecidableEq, Repr

/-! ## The calls -/

/-- The walk over the list; `strncmp` with a null pointer for a name has no result. -/
def findCard (req : Request) : List CardRef → Option (Option CardRef)
  | [] => some none
  | c :: cs =>
    match req.cardName with
    | some cardName => c.card.name.bind fun name => if cardName.isPrefixOf name then some (some c) else findCard req cs
    | none => if c.card.card = req.cardId then some (some c) else findCard req cs

/-- The card is returned. -/
def Cards.give (req : Request) (c : CardRef) (s : Cards) : Option Nat × Cards :=
  (some c.addr, { s with got := s.got ++ [⟨req, c.addr, c.card⟩] })

/-- `refcnt++`, which has no result beyond the largest `int`. -/
def Cards.count (c : CardRef) (s : Cards) : Option Cards :=
  if c.refcnt < INT_MAX then
    some { s with list := s.list.map fun e => if e.addr = c.addr then { e with refcnt := e.refcnt + 1 } else e }
  else none

/-- The card that was found in the document is added to the list, and counted. -/
def Cards.add (card : SndDevDefCard) (s : Cards) : Cards :=
  { s with list := s.list ++ [⟨s.next, card, 1⟩], next := s.next + 1 }

/-- `snd_card_def_get_card`. -/
def sndCardDefGetCard (req : Request) (file : CardFile) (s : Cards) : Option (Option Nat × Cards) :=
  (findCard req s.list).bind fun found =>
    match found with
    | some c => (s.count c).map (Cards.give req c)
    | none =>
      match file with
      | .absent => some (none, s)
      | .parsed evs => (parseCard req.cardId req.cardName evs).map fun cur =>
          match cur with
          | some card => (s.add card).give req ⟨s.next, card, 1⟩
          | none => (none, s)
      | .broken evs => (parseCard req.cardId req.cardName evs).map fun _ =>
          -- `card_def` is where the walk has left it
          match s.list.getLast? with
          | some c => s.give req c
          | none => (none, s)

/-- `snd_card_def_put_card`. -/
def sndCardDefPutCard (addr : Nat) (s : Cards) : Cards :=
  { s with list := s.list.filterMap fun c =>
             if c.addr = addr then (if c.refcnt - 1 = 0 then none else some { c with refcnt := c.refcnt - 1 }) else some c,
           put := s.put ++ [addr] }

inductive CardsOp
  | get (req : Request) (file : CardFile)
  | put (addr : Nat)
  deriving DecidableEq, Repr

def cardsExec (op : CardsOp) (s : Cards) : Option (Option Nat × Cards) :=
  match op with
  | .get req file => sndCardDefGetCard req file s
  | .put addr => some (none, sndCardDefPutCard addr s)

/-! ## Cards in use -/

/-- How often a card was returned. -/
def Cards.gots (s : Cards) (addr : Nat) : Nat := s.got.countP fun g => g.addr = addr

def Cards.puts (s : Cards) (addr : Nat) : Nat := s.put.count addr

/-- The name in the file. -/
def Request.name (req : Request) : Option CString := req.line.map fun line => line.takeWhile (· ≠ '\n')

/-- The card is the one that was asked for: by the name, if the card has a name file, else by the id. -/
def Request.IsFor (req : Request) (card : SndDevDefCard) : Prop :=
  match req.name with
  | some name => card.name = some name
  | none => card.card = req.card

instance (req : Request) (card : SndDevDefCard) : Decidable (req.IsFor card) := by
  unfold Request.IsFor
  split <;> infer_instance

/-- What was returned was asked for, every count is right, and a card is in the list exactly while it is held. -/
structure Cards.Right (s : Cards) : Prop where
  asked : ∀ g ∈ s.got, g.req.IsFor g.card
  counted : ∀ c ∈ s.list, c.refcnt + s.puts c.addr = s.gots c.addr
  listed : ∀ addr, (∃ c ∈ s.list, c.addr = addr) ↔ s.puts addr < s.gots addr

/-- What is assumed of the calls: a card is put only while it is held. -/
def cardsAssumed (s : Cards) (op : CardsOp) : Prop :=
  match op with
  | .get _ _ => True
  | .put addr => s.puts addr < s.gots addr

instance (s : Cards) (op : CardsOp) : Decidable (cardsAssumed s op) := by
  unfold cardsAssumed
  split <;> infer_instance

/-! ## What the handlers meet in a document -/

instance (d : XmlUserdata) : Decidable d.Looks := inferInstanceAs (Decidable (_ ∧ _))

/-- Every call meets a condition on the state it is made in. -/
def AllEvents (P : Sax → XmlUserdata → Prop) : List Sax → XmlUserdata → Prop
  | [], _ => True
  | ev :: evs, d => P ev d ∧ ∀ d' ∈ saxStep ev d, AllEvents P evs d'

/-- The characters before an end tag that is looked at fit into the buffer. -/
def Fits (ev : Sax) (d : XmlUserdata) : Prop :=
  match ev with
  | .stop _ => d.Looks → d.dataBuf.length < BUF_SIZE
  | _ => True

/-- A card that is looked for by name is not begun by its id, and gets no name but the one in the name file. -/
def NameOk (req : Request) (tag : CString) (d : XmlUserdata) : Prop :=
  match req.name, d.curCardDef with
  | none, _ => True
  | some name, some _ => tag = tagName → d.dataBuf = name
  | some name, none => (tag = tagId → atoiUnsigned d.dataBuf ≠ d.card) ∧
      (tag = tagName → ∀ cardName ∈ d.cardName, ∀ token ∈ (tokens d.dataBuf).find? fun token => cardName.isPrefixOf token,
        token = name)

/-- The end tags of a card's own elements are such. -/
def Named (req : Request) (ev : Sax) (d : XmlUserdata) : Prop :=
  match ev with
  | .stop tag => d.Looks → d.currentTag = .card → d.dataBuf ≠ [] → NameOk req tag d
  | _ => True

instance AllEvents.decidable (P : Sax → XmlUserdata → Prop) [∀ ev d, Decidable (P ev d)] :
    ∀ evs d, Decidable (AllEvents P evs d)
  | [], _ => inferInstanceAs (Decidable True)
  | ev :: evs, d =>
    match h : saxStep ev d with
    | none => decidable_of_iff (P ev d) (by simp [AllEvents, h])
    | some d' => @decidable_of_iff _ (P ev d ∧ AllEvents P evs d') (by simp [AllEvents, h])
        (@instDecidableAnd _ _ _ (AllEvents.decidable P evs d'))

instance (ev : Sax) (d : XmlUserdata) : Decidable (Fits ev d) := by
  unfold Fits
  split <;> infer_instance

instance (req : Request) (tag : CString) (d : XmlUserdata) : Decidable (NameOk req tag d) := by
  unfold NameOk
  split <;> infer_instance

instance (req : Request) (ev : Sax) (d : XmlUserdata) : Decidable (Named req ev d) := by
  unfold Named
  split <;> infer_instance

section

variable {d d' : XmlUserdata}

theorem sndEndTag_not_looks (h : ¬ d.Looks) (tag : CString) : sndEndTag tag d = some d := by
  unfold sndEndTag
  by_cases hparsed : d.cardParsed
  · rw [if_pos hparsed]
  · rw [if_neg hparsed, if_pos]
    refine ⟨fun htag => h ⟨Bool.eq_false_iff.2 hparsed, .inl htag⟩, fun hfound => ?_⟩
    exact h ⟨Bool.eq_false_iff.2 hparsed, .inr hfound⟩

theorem saxStep_isSome_iff (ev : Sax) (d : XmlUserdata) : (saxStep ev d).isSome ↔ Fits ev d := by
  cases ev with
  | start tag => exact iff_of_true rfl trivial
  | data s => exact iff_of_true rfl trivial
  | stop tag =>
    show (sndEndTag tag d).isSome ↔ (d.Looks → d.dataBuf.length < BUF_SIZE)
    by_cases h : d.Looks
    · rw [sndEndTag_looks h]
      split
      · next hlen => exact iff_of_true rfl fun _ => hlen
      · next hlen => exact iff_of_false (fun h => (nomatch h)) fun hall => hlen (hall h)
    · rw [sndEndTag_not_looks h]
      exact iff_of_true rfl fun hlooks => absurd hlooks h

/-- The handlers come to the end exactly if every text fits. -/
theorem saxRun_isSome_iff (evs : List Sax) (d : XmlUserdata) : (saxRun evs d).isSome ↔ AllEvents Fits evs d := by
  induction evs generalizing d with
  | nil => exact iff_of_true rfl trivial
  | cons ev evs ih =>
    show ((saxStep ev d).bind (saxRun evs)).isSome ↔ Fits ev d ∧ ∀ d' ∈ saxStep ev d, AllEvents Fits evs d'
    rw [← saxStep_isSome_iff]
    cases saxStep ev d with
    | none => exact iff_of_false (fun h => (nomatch h)) fun h => (nomatch h.1)
    | some d' =>
      rw [Option.bind_some, ih]
      simp only [Option.isSome_some, true_and, Option.mem_def, Option.some.injEq, forall_eq']

/-- The invariant rule for the handlers. -/
theorem saxRun_invariant {I : XmlUserdata → Prop} {P : Sax → XmlUserdata → Prop}
    (step : ∀ ev d d', I d → P ev d → saxStep ev d = some d' → I d') {evs : List Sax} (h : I d) (hall : AllEvents P evs d)
    (hr : saxRun evs d = some d') : I d' := by
  induction evs generalizing d with
  | nil =>
    obtain rfl : d = d' := Option.some.inj hr
    exact h
  | cons ev evs ih =>
    obtain ⟨d1, hd1, hr⟩ := Option.bind_eq_some_iff.1 hr
    exact ih (step ev d d1 h hall.1 hd1) (hall.2 d1 hd1) hr

/-! ## The card a parse finds -/

/-- What the request and the card found so far are told apart by. -/
def XmlUserdata.title (d : XmlUserdata) : Nat × Option CString × Option (Nat × Option CString) :=
  (d.card, d.cardName, d.curCardDef.map fun c => (c.card, c.name))

theorem title_onCurDev (f : SndDevDef → SndDevDef) (d : XmlUserdata) : (d.onCurDev f).title = d.title := by
  unfold XmlUserdata.onCurDev XmlUserdata.title
  rw [Option.map_map]
  cases d.curDevDef with
  | none => rfl
  | some kind =>
    congr 3
    funext c
    cases kind <;> rfl

theorem title_sndDevDefInit (nodeType : Option NodeType) (d : XmlUserdata) : (sndDevDefInit nodeType d).title = d.title := by
  unfold sndDevDefInit
  split
  · next c kind hc =>
    unfold XmlUserdata.title
    rw [hc]
    cases kind <;> rfl
  · rfl

theorem title_sndStartTag (tag : CString) (d : XmlUserdata) : (sndStartTag tag d).title = d.title := by
  have hrest : ∀ d1 : XmlUserdata, d1.title = d.title →
      (if d1.currentTag ≠ .card ∧ ¬ d1.cardFound then d1 else sndDevDefInit (nodeTypeOf tag) d1).title = d.title := by
    intro d1 hd1
    split
    · exact hd1
    · exact (title_sndDevDefInit _ d1).trans hd1
  unfold sndStartTag
  by_cases hparsed : d.cardParsed
  · rw [if_pos hparsed]
  · rw [if_neg hparsed]
    by_cases hp : (nodeTypeOf tag).isNone ∧ hasPlugin tag
    · simp only [if_pos hp]
      exact hrest { d.onCurDev (fun dev => { dev with type := .plugin }) with
                    dataBuf := [], currentTag := tagAfterStart tag d.currentTag } (title_onCurDev _ d)
    · simp only [if_neg hp]
      exact hrest { d with dataBuf := [], currentTag := tagAfterStart tag d.currentTag } rfl

theorem title_sndLeaveTag (tag : CString) (d : XmlUserdata) : (sndLeaveTag tag d).title = d.title := by
  unfold sndLeaveTag
  repeat' split
  all_goals rfl

/-- Only the elements of the card itself change what it is told by. -/
theorem title_sndParseProperties (tag : CString) (h : d.currentTag ≠ .card) : (sndParseProperties tag d).title = d.title := by
  unfold sndParseProperties
  split
  · rfl
  · next htag => exact absurd htag h
  · unfold sndParsePluginProperties
    split
    · exact title_onCurDev _ d
    · rfl
  · unfold sndParseDeviceProperties
    repeat' split
    · rfl
    · exact title_onCurDev _ d
    · exact title_onCurDev _ d
    · rfl
  · unfold sndParseDeviceCustomProperties
    repeat' split
    · rfl
    · rfl
    · exact title_onCurDev _ d

/-- The card found so far is the one that is asked for. -/
def XmlUserdata.Asked (req : Request) (d : XmlUserdata) : Prop :=
  d.card = req.cardId ∧ d.cardName = req.cardName ∧ ∀ c ∈ d.curCardDef, req.IsFor c

theorem isFor_congr {req : Request} {c c' : SndDevDefCard} (h : (c'.card, c'.name) = (c.card, c.name)) :
    req.IsFor c' ↔ req.IsFor c := by
  obtain ⟨hcard, hname⟩ := Prod.mk.inj h
  unfold Request.IsFor
  rw [hcard, hname]

theorem XmlUserdata.Asked.of_title {req : Request} (h : d.Asked req) (ht : d'.title = d.title) : d'.Asked req := by
  obtain ⟨hcard, hrest⟩ := Prod.mk.inj ht
  obtain ⟨hname, hcur⟩ := Prod.mk.inj hrest
  refine ⟨hcard.trans h.1, hname.trans h.2.1, fun c' hc' => ?_⟩
  rw [Option.mem_def.1 hc'] at hcur
  obtain ⟨c, hc, htitle⟩ := Option.map_eq_some_iff.1 hcur.symm
  exact (isFor_congr htitle.symm).2 (h.2.2 c hc)

theorem isFor_of_line_none {req : Request} (h : req.line = none) (c : SndDevDefCard) :
    req.IsFor c ↔ c.card = req.cardId := by
  unfold Request.IsFor Request.name Request.cardId Request.cardName
  rw [h]
  exact Iff.rfl

theorem isFor_of_name {req : Request} {name : CString} (h : req.name = some name) (c : SndDevDefCard) :
    req.IsFor c ↔ c.name = some name := by
  unfold Request.IsFor
  rw [h]

/-- The elements of a card, looked for by the id. -/
theorem XmlUserdata.Asked.properties_id {req : Request} (h : d.Asked req) (hline : req.line = none) (tag : CString) :
    (sndParseCardProperties tag d).Asked req := by
  obtain ⟨hcard, hname, hfor⟩ := h
  have hnone : d.cardName = none := by rw [hname, Request.cardName, hline]; rfl
  simp only [isFor_of_line_none hline] at hfor
  unfold sndParseCardProperties
  split
  · dsimp only
    split
    · next heq =>
      cases hcur : d.curCardDef with
      | none =>
        refine ⟨?_, ?_, ?_⟩ <;> simp_all [sndParseInitializeCardDef, isFor_of_line_none hline]
      | some c =>
        refine ⟨?_, ?_, ?_⟩ <;> simp_all [sndParseInitializeCardDef, isFor_of_line_none hline]
    · exact ⟨hcard, hname, by simpa only [isFor_of_line_none hline] using hfor⟩
  · split
    · cases hcur : d.curCardDef with
      | none =>
        simp only [hnone]
        exact ⟨hcard, hname, by simp [hcur]⟩
      | some c =>
        refine ⟨hcard, hname, ?_⟩
        simp_all [XmlUserdata.setCardName, isFor_of_line_none hline]
    · exact ⟨hcard, hname, by simpa only [isFor_of_line_none hline] using hfor⟩

/-- The elements of a card, looked for by a name. -/
theorem XmlUserdata.Asked.properties_name {req : Request} {name : CString} (h : d.Asked req)
    (hreq : req.name = some name) {tag : CString} (hok : NameOk req tag d) :
    (sndParseCardProperties tag d).Asked req := by
  have hkeep := h
  obtain ⟨hcard, hname, hfor⟩ := h
  simp only [isFor_of_name hreq] at hfor
  unfold NameOk at hok
  rw [hreq] at hok
  unfold sndParseCardProperties
  split
  · next htag =>
    dsimp only
    split
    · next heq =>
      cases hcur : d.curCardDef with
      | none =>
        rw [hcur] at hok
        exact absurd heq (hok.1 htag)
      | some c =>
        refine ⟨?_, ?_, ?_⟩ <;> simp_all [sndParseInitializeCardDef, isFor_of_name hreq]
    · exact hkeep
  · split
    · next htag =>
      cases hcur : d.curCardDef with
      | none =>
        rw [hcur] at hok
        dsimp only
        split
        · exact hkeep
        · next cardName hcardName =>
          split
          · next token htoken =>
            have heq : token = name := hok.2 htag cardName hcardName token htoken
            refine ⟨?_, ?_, ?_⟩ <;> simp_all [sndParseInitializeCardDef, XmlUserdata.setCardName, isFor_of_name hreq]
          · exact hkeep
      | some c =>
        rw [hcur] at hok
        refine ⟨hcard, hname, ?_⟩
        simp_all [XmlUserdata.setCardName, isFor_of_name hreq]
    · exact hkeep

/-- The step lemma: one call of a handler. -/
theorem XmlUserdata.Asked.step {req : Request} {ev : Sax} (h : d.Asked req) (hok : Named req ev d)
    (hstep : saxStep ev d = some d') : d'.Asked req := by
  cases ev with
  | start tag =>
    obtain rfl := Option.some.inj hstep
    exact h.of_title (title_sndStartTag tag d)
  | data s =>
    obtain rfl := Option.some.inj hstep
    exact h.of_title rfl
  | stop tag =>
    by_cases hlooks : d.Looks
    · have hstep : sndEndTag tag d = some d' := hstep
      rw [sndEndTag_looks hlooks] at hstep
      split at hstep
      · rw [← Option.some.inj hstep]
        refine XmlUserdata.Asked.of_title ?_ (title_sndLeaveTag tag _)
        by_cases hnil : d.dataBuf = []
        · rw [if_pos hnil]
          exact h.of_title rfl
        · rw [if_neg hnil]
          refine XmlUserdata.Asked.of_title (d := sndParseProperties tag d) ?_ rfl
          by_cases htag : d.currentTag = .card
          · have hcard : sndParseProperties tag d = sndParseCardProperties tag d := by
              rw [sndParseProperties, htag]
            rw [hcard]
            cases hname : req.name with
            | none => exact h.properties_id (Option.map_eq_none_iff.1 hname) tag
            | some name => exact h.properties_name hname (hok hlooks htag hnil)
          · exact h.of_title (title_sndParseProperties tag htag)
      · cases hstep
    · have hstep : sndEndTag tag d = some d' := hstep
      rw [sndEndTag_not_looks hlooks] at hstep
      obtain rfl := Option.some.inj hstep
      exact h

end

/-- The state in which the handlers are called first. -/
def Request.start (req : Request) : XmlUserdata := { card := req.cardId, cardName := req.cardName }

/-- The card that a parse finds was asked for. -/
theorem parseCard_asked {req : Request} {evs : List Sax} {card : SndDevDefCard} (hok : AllEvents (Named req) evs req.start)
    (h : parseCard req.cardId req.cardName evs = some (some card)) : req.IsFor card := by
  obtain ⟨d, hd, hcur⟩ := Option.map_eq_some_iff.1 h
  have hasked : d.Asked req := saxRun_invariant (fun ev d d' hd hok hs => hd.step hok hs)
    (show req.start.Asked req from ⟨rfl, rfl, fun c hc => (nomatch hc)⟩) hok hd
  exact hasked.2.2 card hcur

/-! ## The counts -/

/-- A file that does no harm: its texts fit, and it names the card as the name file does; or the parse fails, but there is
no card in the list. -/
def FileOk (req : Request) (file : CardFile) (s : Cards) : Prop :=
  match file with
  | .absent => True
  | .parsed evs => AllEvents Fits evs req.start ∧ AllEvents (Named req) evs req.start
  | .broken evs => AllEvents Fits evs req.start ∧ s.list = []

/-- A walk for a name comes by no card without a name, and the card it ends at has the name that is in the file. -/
def WalkOk (req : Request) (s : Cards) : Prop :=
  ∃ found ∈ findCard req s.list, ∀ c ∈ found, c.refcnt < INT_MAX ∧ ∀ name ∈ req.name, c.card.name = some name

/-- The gets that are right. -/
def cardsGuard (s : Cards) (op : CardsOp) : Prop :=
  cardsAssumed s op ∧
  match op with
  | .get req file => WalkOk req s ∧ (findCard req s.list = some none → FileOk req file s)
  | .put _ => True

instance (req : Request) (file : CardFile) (s : Cards) : Decidable (FileOk req file s) := by
  unfold FileOk
  split <;> infer_instance

instance (req : Request) (s : Cards) : Decidable (WalkOk req s) := by
  unfold WalkOk
  infer_instance

instance (s : Cards) (op : CardsOp) : Decidable (cardsGuard s op) := by
  unfold cardsGuard
  refine @instDecidableAnd _ _ inferInstance ?_
  split <;> infer_instance

/-- The invariant: besides the counts, no address is used before its time. -/
structure Cards.Counted (s : Cards) : Prop where
  asked : ∀ g ∈ s.got, g.req.IsFor g.card
  counted : ∀ c ∈ s.list, 0 < c.refcnt ∧ c.refcnt + s.puts c.addr = s.gots c.addr
  gone : ∀ addr, (∀ c ∈ s.list, c.addr ≠ addr) → s.puts addr = s.gots addr
  fresh : ∀ c ∈ s.list, c.addr < s.next

theorem Cards.Counted.right {s : Cards} (h : s.Counted) : s.Right where
  asked := h.asked
  counted := fun c hc => (h.counted c hc).2
  listed := by
    intro addr
    constructor
    · rintro ⟨c, hc, rfl⟩
      obtain ⟨hpos, hcount⟩ := h.counted c hc
      omega
    · intro hlt
      by_contra hno
      have heq := h.gone addr fun c hc haddr => hno ⟨c, hc, haddr⟩
      omega

theorem gots_append (s : Cards) (g : Got) (addr : Nat) :
    (s.got ++ [g]).countP (fun g => g.addr = addr) = s.gots addr + if g.addr = addr then 1 else 0 := by
  rw [List.countP_append, List.countP_singleton]
  simp [Cards.gots]

theorem puts_append (s : Cards) (a addr : Nat) : (s.put ++ [a]).count addr = s.puts addr + if a = addr then 1 else 0 := by
  rw [List.count_append, List.count_singleton]
  simp [Cards.puts]

section

variable {s : Cards} {req : Request}

/-- The walk ends at a card of the list. -/
theorem mem_of_findCard {l : List CardRef} {c : CardRef} (h : findCard req l = some (some c)) :
    c ∈ l ∧ (req.line = none → c.card.card = req.cardId) := by
  induction l with
  | nil => cases Option.some.inj h
  | cons e l ih =>
    have hskip : findCard req l = some (some c) → c ∈ e :: l ∧ (req.line = none → c.card.card = req.cardId) :=
      fun h => ⟨List.mem_cons_of_mem e (ih h).1, (ih h).2⟩
    rw [findCard] at h
    split at h
    · next cardName hname =>
      obtain ⟨name, -, h⟩ := Option.bind_eq_some_iff.1 h
      split at h
      · obtain rfl := Option.some.inj (Option.some.inj h)
        refine ⟨List.mem_cons_self .., fun hline => ?_⟩
        rw [Request.cardName, hline] at hname
        cases hname
      · exact hskip h
    · split at h
      · next heq =>
        obtain rfl := Option.some.inj (Option.some.inj h)
        exact ⟨List.mem_cons_self .., fun _ => heq⟩
      · exact hskip h

/-- A card of the list is returned, and counted. -/
theorem Cards.Counted.give_count (h : s.Counted) {c : CardRef} (hc : c ∈ s.list) (hfor : req.IsFor c.card) {s1 : Cards}
    (hs1 : s.count c = some s1) : (s1.give req c).2.Counted := by
  obtain ⟨hlist, hnext, hgot, hput⟩ :
      s1.list = s.list.map (fun e => if e.addr = c.addr then { e with refcnt := e.refcnt + 1 } else e) ∧
      s1.next = s.next ∧ s1.got = s.got ∧ s1.put = s.put := by
    unfold Cards.count at hs1
    split at hs1
    · obtain rfl := Option.some.inj hs1
      exact ⟨rfl, rfl, rfl, rfl⟩
    · cases hs1
  have hgots : ∀ addr, (s1.give req c).2.gots addr = s.gots addr + if c.addr = addr then 1 else 0 := by
    intro addr
    show (s1.got ++ [(⟨req, c.addr, c.card⟩ : Got)]).countP (fun g => g.addr = addr) = _
    rw [hgot]
    exact gots_append s ⟨req, c.addr, c.card⟩ addr
  have hputs : ∀ addr, (s1.give req c).2.puts addr = s.puts addr := fun addr => congrArg (List.count addr) hput
  have hmem : ∀ e' ∈ (s1.give req c).2.list, ∃ e ∈ s.list, e'.addr = e.addr ∧
      e'.refcnt = e.refcnt + if c.addr = e.addr then 1 else 0 := by
    intro e' he'
    have he' : e' ∈ s1.list := he'
    rw [hlist] at he'
    obtain ⟨e, he, rfl⟩ := List.mem_map.1 he'
    refine ⟨e, he, ?_⟩
    split
    · next haddr => exact ⟨rfl, by rw [if_pos haddr.symm]⟩
    · next haddr => exact ⟨rfl, by rw [if_neg fun h => haddr h.symm, Nat.add_zero]⟩
  refine ⟨?_, ?_, ?_, ?_⟩
  · intro g hg
    have hg : g ∈ s1.got ++ [⟨req, c.addr, c.card⟩] := hg
    rw [hgot] at hg
    rcases List.mem_append.1 hg with hg | hg
    · exact h.asked g hg
    · rw [List.mem_singleton.1 hg]
      exact hfor
  · intro e' he'
    obtain ⟨e, he, haddr, href⟩ := hmem e' he'
    obtain ⟨hpos, hcount⟩ := h.counted e he
    rw [hgots, hputs, haddr, href]
    omega
  · intro addr hno
    have hold : ∀ e ∈ s.list, e.addr ≠ addr := by
      intro e he haddr
      have hin : (if e.addr = c.addr then { e with refcnt := e.refcnt + 1 } else e) ∈ s1.list := by
        rw [hlist]
        exact List.mem_map_of_mem he
      refine hno _ hin ?_
      split <;> exact haddr
    rw [hgots, hputs, if_neg (hold c hc)]
    exact h.gone addr hold
  · intro e' he'
    obtain ⟨e, he, haddr, -⟩ := hmem e' he'
    show e'.addr < s1.next
    rw [haddr, hnext]
    exact h.fresh e he

/-- A card that was parsed is returned, as the first that has its address. -/
theorem Cards.Counted.give_add (h : s.Counted) {card : SndDevDefCard} (hfor : req.IsFor card) :
    ((s.add card).give req ⟨s.next, card, 1⟩).2.Counted := by
  have hgots : ∀ addr, Cards.gots ((s.add card).give req ⟨s.next, card, 1⟩).2 addr =
      s.gots addr + if s.next = addr then 1 else 0 := fun addr => gots_append s ⟨req, s.next, card⟩ addr
  have hnew : s.puts s.next = s.gots s.next := h.gone s.next fun c hc => (h.fresh c hc).ne
  refine ⟨?_, ?_, ?_, ?_⟩
  · intro g hg
    rcases List.mem_append.1 hg with hg | hg
    · exact h.asked g hg
    · rw [List.mem_singleton.1 hg]
      exact hfor
  · intro e he
    rw [hgots]
    rcases List.mem_append.1 he with he | he
    · rw [if_neg (h.fresh e he).ne']
      exact h.counted e he
    · rw [List.mem_singleton.1 he, if_pos rfl]
      refine ⟨Nat.one_pos, ?_⟩
      show 1 + s.puts s.next = s.gots s.next + 1
      omega
  · intro addr hno
    have hold : ∀ e ∈ s.list, e.addr ≠ addr := fun e he => hno e (List.mem_append_left _ he)
    have hne : s.next ≠ addr := hno ⟨s.next, card, 1⟩ (List.mem_append_right _ (List.mem_singleton_self _))
    rw [hgots, if_neg hne]
    exact h.gone addr hold
  · intro e he
    rcases List.mem_append.1 he with he | he
    · exact Nat.lt_succ_of_lt (h.fresh e he)
    · rw [List.mem_singleton.1 he]
      exact Nat.lt_succ_self s.next

/-- A card that is held is put. -/
theorem Cards.Counted.putCard (h : s.Counted) {addr : Nat} (hheld : s.puts addr < s.gots addr) :
    (sndCardDefPutCard addr s).Counted := by
  have hputs : ∀ a, (sndCardDefPutCard addr s).puts a = s.puts a + if addr = a then 1 else 0 := puts_append s addr
  refine ⟨h.asked, ?_, ?_, ?_⟩
  · intro e' he'
    obtain ⟨e, he, hput⟩ := List.mem_filterMap.1 he'
    obtain ⟨hpos, hcount⟩ := h.counted e he
    rw [hputs]
    split at hput
    · next haddr =>
      split at hput
      · cases hput
      · next hne =>
        obtain rfl := Option.some.inj hput
        rw [if_pos haddr.symm]
        refine ⟨Nat.pos_of_ne_zero hne, ?_⟩
        show e.refcnt - 1 + (s.puts e.addr + 1) = s.gots e.addr
        omega
    · next haddr =>
      obtain rfl := Option.some.inj hput
      rw [if_neg fun h => haddr h.symm]
      exact ⟨hpos, hcount⟩
  · intro a hno
    rw [hputs]
    show _ = s.gots a
    by_cases ha : addr = a
    · -- the card is held, so it is in the list; it has gone, so that was the last put
      subst ha
      have hin : ∃ e ∈ s.list, e.addr = addr := by
        by_contra hnot
        have heq := h.gone addr fun c hc haddr => hnot ⟨c, hc, haddr⟩
        omega
      obtain ⟨e, he, haddr⟩ := hin
      obtain ⟨hpos, hcount⟩ := h.counted e he
      have hlast : e.refcnt - 1 = 0 := by
        by_contra hne
        refine hno { e with refcnt := e.refcnt - 1 } (List.mem_filterMap.2 ⟨e, he, ?_⟩) haddr
        rw [if_pos haddr, if_neg hne]
      rw [haddr] at hcount
      rw [if_pos rfl]
      omega
    · rw [if_neg ha, Nat.add_zero]
      refine h.gone a fun e he haddr => hno e (List.mem_filterMap.2 ⟨e, he, ?_⟩) haddr
      rw [if_neg fun h => ha (h.symm.trans haddr)]
  · intro e' he'
    obtain ⟨e, he, hput⟩ := List.mem_filterMap.1 he'
    split at hput
    · split at hput
      · cases hput
      · obtain rfl := Option.some.inj hput
        exact h.fresh e he
    · obtain rfl := Option.some.inj hput
      exact h.fresh e he

/-- A walk that is right ends at a card that was asked for. -/
theorem WalkOk.isFor (hwalk : WalkOk req s) {c : CardRef} (hfind : findCard req s.list = some (some c)) :
    c ∈ s.list ∧ c.refcnt < INT_MAX ∧ req.IsFor c.card := by
  obtain ⟨found, hfound, hok⟩ := hwalk
  rw [Option.mem_def.1 hfound] at hfind
  obtain ⟨hlt, hname⟩ := hok c (Option.some.inj hfind)
  obtain ⟨hmem, hid⟩ := mem_of_findCard ((Option.mem_def.1 hfound).trans hfind)
  refine ⟨hmem, hlt, ?_⟩
  cases hreq : req.name with
  | none => exact (isFor_of_line_none (Option.map_eq_none_iff.1 hreq) c.card).2 (hid (Option.map_eq_none_iff.1 hreq))
  | some name => exact (isFor_of_name hreq c.card).2 (hname name hreq)

/-- The step lemma: a get under the guard has a result, and keeps the counts. -/
theorem Cards.Counted.getCard (h : s.Counted) {file : CardFile} (hwalk : WalkOk req s)
    (hfile : findCard req s.list = some none → FileOk req file s) :
    ∃ r, sndCardDefGetCard req file s = some r ∧ r.2.Counted := by
  obtain ⟨found, hfound⟩ : ∃ found, findCard req s.list = some found := hwalk.imp fun _ h => h.1
  unfold sndCardDefGetCard
  rw [hfound, Option.bind_some]
  cases found with
  | some c =>
    obtain ⟨hmem, hlt, hfor⟩ := hwalk.isFor hfound
    obtain ⟨s1, hs1⟩ : ∃ s1, s.count c = some s1 := ⟨_, if_pos hlt⟩
    refine ⟨s1.give req c, ?_, h.give_count hmem hfor hs1⟩
    dsimp only
    rw [hs1, Option.map_some]
  | none =>
    have hok := hfile hfound
    cases file with
    | absent => exact ⟨_, rfl, h⟩
    | parsed evs =>
      obtain ⟨hfits, hnamed⟩ := hok
      obtain ⟨d, hd⟩ := Option.isSome_iff_exists.1 ((saxRun_isSome_iff evs req.start).2 hfits)
      have hparse : parseCard req.cardId req.cardName evs = some d.curCardDef := congrArg (Option.map _) hd
      simp only [hparse, Option.map_some]
      cases hcur : d.curCardDef with
      | none => exact ⟨_, rfl, h⟩
      | some card =>
        rw [hcur] at hparse
        exact ⟨_, rfl, h.give_add (parseCard_asked hnamed hparse)⟩
    | broken evs =>
      obtain ⟨hfits, hnil⟩ := hok
      obtain ⟨d, hd⟩ := Option.isSome_iff_exists.1 ((saxRun_isSome_iff evs req.start).2 hfits)
      have hparse : parseCard req.cardId req.cardName evs = some d.curCardDef := congrArg (Option.map _) hd
      simp only [hparse, Option.map_some, hnil, List.getLast?_nil]
      exact ⟨_, rfl, h⟩

end

/-- **Cards are counted.**  In every run under the guard every call has a result, gets return what was asked for, every count
is the number of gets less that of puts, and a card is in the list exactly while that is positive. -/
theorem cards_counted {t : Cards} (hr : Runs cardsExec cardsGuard {} t) :
    t.Right ∧ ∀ op, cardsGuard t op → (cardsExec op t).isSome := by
  have hcounted : t.Counted := by
    refine hr.invariant ⟨fun g hg => (nomatch hg), fun c hc => (nomatch hc), fun _ _ => rfl, fun c hc => (nomatch hc)⟩ ?_
    intro s op r s' hs hg he
    cases op with
    | get req file =>
      obtain ⟨r', hr', hs'⟩ := hs.getCard hg.2.1 hg.2.2
      have he : sndCardDefGetCard req file s = some (r, s') := he
      rw [hr'] at he
      rw [Option.some.inj he] at hs'
      exact hs'
    | put addr =>
      obtain rfl := (Prod.mk.inj (Option.some.inj he)).2
      exact hs.putCard hg.1
  refine ⟨hcounted.right, fun op hg => ?_⟩
  cases op with
  | get req file =>
    obtain ⟨r, hr, -⟩ := hcounted.getCard hg.2.1 hg.2.2
    exact Option.isSome_iff_exists.2 ⟨r, hr⟩
  | put addr => rfl

/-- A card with an id, a name and no devices. -/
def cardEvents (id name : CString) : List Sax :=
  [.start tagCard, .start tagId, .data id, .stop tagId, .start tagName, .data name, .stop tagName, .stop tagCard]

/-- A get, a get of the same card by its name, two puts, and a parse that fails while the list is empty. -/
theorem cards_counted_two : ∃ t, Runs cardsExec cardsGuard {} t ∧
    (t.list, t.got.map Got.addr, t.put) = ([], [0, 0], [0, 0]) ∧
    (t.Right ∧ ∀ op, cardsGuard t op → (cardsExec op t).isSome) := by
  obtain ⟨t, hr, ht⟩ := Runs.exists_of_execAll cardsExec cardsGuard
    [.get ⟨0, none⟩ (.parsed (cardEvents ['0'] "qrd".toList)), .get ⟨0, some "qrd\n".toList⟩ .absent, .put 0, .put 0,
      .get ⟨1, none⟩ (.broken [])] {} (fun t => (t.list, t.got.map Got.addr, t.put)) (b := ([], [0, 0], [0, 0]))
    (by decide +kernel)
  exact ⟨t, hr, ht, cards_counted hr⟩

/-- The parse for a second card fails: the first card is returned, uncounted. -/
theorem card_returned_uncounted : ∃ t, Runs cardsExec cardsAssumed {} t ∧
    t.got.map (fun g => (g.req.card, g.addr, g.card.card)) = [(0, 0, 0), (1, 0, 0)] ∧
    t.list.map CardRef.refcnt = [1] ∧ ¬ t.Right := by
  obtain ⟨t, hr, ht⟩ := Runs.exists_of_execAll cardsExec cardsAssumed
    [.get ⟨0, none⟩ (.parsed (cardEvents ['0'] "qrd".toList)), .get ⟨1, none⟩ (.broken [])] {}
    (fun t => (t.got, t.list, t.put))
    (b := ([⟨⟨0, none⟩, 0, { name := some "qrd".toList }⟩, ⟨⟨1, none⟩, 0, { name := some "qrd".toList }⟩],
      [⟨0, { name := some "qrd".toList }, 1⟩], [])) (by decide +kernel)
  obtain ⟨hgot, hrest⟩ := Prod.mk.inj ht
  obtain ⟨hlist, hput⟩ := Prod.mk.inj hrest
  refine ⟨t, hr, by rw [hgot]; rfl, by rw [hlist]; rfl, fun hright => ?_⟩
  have hasked := hright.asked ⟨⟨1, none⟩, 0, { name := some "qrd".toList }⟩ (by rw [hgot]; decide)
  exact absurd hasked (by decide)

end Agm.Parser
