/-
  VisualNovel.Text.Width

  The number of cells that a line takes on a terminal. On its own a character
  takes one cell, two if it is wide, none if it is a mark on another one. What
  stands behind it may change that: a selector makes it a picture or a plain
  sign, pictures linked by joiners take the cells of one, and in some scripts two
  letters are drawn as one.

  A line is therefore measured from its end: `place` gives the cells that a
  character adds in front of what follows, and what it means in turn for the
  character before it.
-/

import VisualNovel.Text.Width.Ranges

namespace VisualNovel.Text

namespace Width

/-! ## What follows -/

/-- The joiner, an invisible character that links the ones on its sides. -/
def joiner : Char := '\u200d'

/-- Regional indicators; two of them are a flag. -/
def isIndicator (c : Char) : Bool :=
  0x1F1E6 ≤ c.toNat && c.toNat ≤ 0x1F1FF

/-- The skin tones. -/
def isTone (c : Char) : Bool :=
  0x1F3FB ≤ c.toNat && c.toNat ≤ 0x1F3FF

/-- Whether a character is drawn as a picture that other pictures can be joined to. -/
def isPicture (c : Char) : Bool :=
  pictures.contains c

/-- Letters that a letter before them may be drawn together with. -/
inductive Partner
  | alef
  | lamed
  | khmer
  | ya
  /-- A vowel sign i, a joiner and a ya. -/
  | vowelYa
  | tifinagh
  /-- A Tifinagh letter with the sign that joins it to the one before. -/
  | joinedTifinagh
  | toneLetter
  | orkhonI
  deriving DecidableEq, Repr

/-- What stands behind a place in a line, as far as the character before it can tell. -/
inductive Context
  | plain
  /-- A letter, perhaps with a joiner in front. -/
  | letter (p : Partner) (joined : Bool)
  /-- The Kirat Rai vowel sign e. -/
  | vowelE
  /-- The Kirat Rai vowel sign ai, as one character or as two. -/
  | vowelAi
  | tone
  | indicator
  /-- At least two regional indicators. -/
  | indicators
  | picture
  /-- A joiner and a picture. -/
  | joined
  /-- A keycap in front of a joiner and a picture. -/
  | joinedKeycap
  /-- One regional indicator in front of a joiner and a picture. -/
  | joinedIndicator
  /-- Several regional indicators there, and whether they make up whole flags. -/
  | joinedIndicators (areFlags : Bool)
  /-- The end of a tag in front of a joiner and a picture, and the letters in front of that. -/
  | tagLetters (n : Nat)
  /-- Digits in front of such a tag. -/
  | tagDigits (n : Nat)
  deriving DecidableEq, Repr

/-- A mark that selects how the character before it is drawn. -/
inductive Selector
  | text
  | picture
  /-- For quotation marks as wide as an ideograph. -/
  | wideQuote
  deriving DecidableEq, Repr

/-- The selector that a character is. -/
def selector? (c : Char) : Option Selector :=
  if c = '\ufe0f' then some .picture
  else if c = '\ufe0e' then some .text
  else if c = '\ufe01' then some .wideQuote
  else none

/-- What follows a character: the selectors right behind it, and the context behind those. -/
structure Following where
  context : Context := .plain
  asText : Bool := false
  asPicture : Bool := false
  asWideQuote : Bool := false
  deriving DecidableEq, Repr

namespace Following

def isLetter (f : Following) : Bool :=
  match f.context with
  | .letter _ _ => true
  | _ => false

/-- Whether a picture in front is joined to one that follows. -/
def isJoined (f : Following) : Bool :=
  f.context = .joined || f.context = .joinedKeycap

/-- Notes a selector beside those that are there. -/
def mark (f : Following) : Selector → Following
  | .text => { f with asText := true }
  | .picture => { f with asPicture := true }
  | .wideQuote => { f with asWideQuote := true }

/-- Puts a selector in front. A letter can still be linked across selectors, and a picture across its
own; otherwise what the selector stands between is no longer linked. -/
def select (f : Following) (s : Selector) : Following :=
  if f.isLetter || (s = .picture && f.isJoined) then f.mark s else mark {} s

/-- Drops the selector for a picture, which the character in front does not take. -/
def unpicture (f : Following) : Following :=
  if f.isLetter then { f with asPicture := false }
  else if f.asPicture then {}
  else f

end Following

/-! ## Placing a character -/

/-- The cells that a character on its own takes, without any link to what follows. -/
def cells (c : Char) : Nat :=
  if zeroWidth.contains c then 0
  else if c = '\u17d8' then 3
  else if doubleWidth.contains c then 2
  else 1

/-- What a character on its own means for the one before it. -/
def contextOf (c : Char) : Context :=
  if alefs.contains c then .letter .alef false
  else if c = '\u05dc' then .letter .lamed false
  else if subscripts.contains c then .letter .khmer true
  else if c = '\u1a10' then .letter .ya false
  else if biconsonants.contains c then .letter .tifinagh false
  else if c = '\ua4fc' || c = '\ua4fd' then .letter .toneLetter true
  else if c.toNat = 0x10C03 then .letter .orkhonI false
  else if c.toNat = 0x16D67 then .vowelE
  else if c.toNat = 0x16D68 then .vowelAi
  else if isIndicator c then .indicator
  else if isTone c then .tone
  else if isPicture c then .picture
  else .plain

/-- A letter drawn together with one that follows: the cells added, and the new context. -/
def linkLetter (p : Partner) (joined : Bool) (c : Char) : Option (Int × Context) :=
  match p, joined with
  | .alef, _ =>
    if lams.contains c then some (0, .plain)
    else if zeroWidth.contains c && !unjoinable.contains c then some (0, .letter .alef joined)
    else none
  | .lamed, true => if c = '\u05d0' then some (0, .plain) else none
  | .khmer, _ => if c = '\u17d2' then some (-1, .plain) else none
  | .ya, true => if c = '\u1a17' then some (0, .letter .vowelYa true) else none
  | .vowelYa, _ => if c = '\u1a15' then some (0, .plain) else none
  | .tifinagh, _ =>
    if c = '\u2d7f' then some (1, .letter .joinedTifinagh true)
    else if joined && biconsonants.contains c then some (0, .plain)
    else none
  | .joinedTifinagh, _ => if biconsonants.contains c then some (-1, .plain) else none
  | .toneLetter, _ => if '\ua4f8' ≤ c ∧ c ≤ '\ua4fb' then some (0, .plain) else none
  | .orkhonI, true => if c.toNat = 0x10C32 then some (0, .plain) else none
  | _, _ => none

/-- Letters drawn as one, with joiners and ignored marks in between; alef allows other marks. -/
def linkAcross (p : Partner) (joined : Bool) (c : Char) : Option (Int × Context) :=
  if p = .alef then linkLetter p joined c
  else if c = joiner then some (0, .letter p true)
  else if ignorableMarks.contains c then some (0, .letter p joined)
  else linkLetter p joined c

def isTagLetter (c : Char) : Bool :=
  0xE0061 ≤ c.toNat && c.toNat ≤ 0xE007A

def isTagDigit (c : Char) : Bool :=
  0xE0030 ≤ c.toNat && c.toNat ≤ 0xE0039

/-- The end of a tag. -/
def tagEnd : Char := Char.ofNat 0xE007F

/-- The flag that a tag may belong to. -/
def blackFlag : Char := Char.ofNat 0x1F3F4

/-- What comes in front of a joiner and a picture: the cells added, and the new context. -/
def linkPicture (c : Char) : Option (Int × Context) :=
  if c = '\u20e3' then some (0, .joinedKeycap)
  else if isIndicator c then some (1, .joinedIndicator)
  else if isTone c then some (0, .tone)
  else if c = tagEnd then some (0, .tagLetters 0)
  else if isPicture c then some (0, .picture)
  else none

/-- A character that is linked to what follows: the cells added, and the new context. -/
def link (x : Context) (c : Char) : Option (Int × Context) :=
  match x with
  | .plain => none
  | .letter p joined => linkAcross p joined c
  | .vowelE =>
    if c.toNat = 0x16D63 ∨ c.toNat = 0x16D69 then some (0, .plain)
    else if c.toNat = 0x16D67 then some (0, .vowelAi)
    else if c.toNat = 0x16D68 then some (1, .vowelE)
    else none
  | .vowelAi => if c.toNat = 0x16D63 then some (0, .plain) else none
  | .tone =>
    if c = joiner then some (0, .joined)
    else if toned.contains c then some (0, .picture)
    else none
  | .indicator => if isIndicator c then some (1, .indicators) else none
  | .indicators =>
    if isIndicator c then some (1, .indicators)
    else if c = joiner then some (0, .joined)
    else none
  | .picture => if c = joiner then some (0, .joined) else none
  | .joined => linkPicture c
  | .joinedKeycap => none
  -- A second indicator makes a flag with the first, and the flag takes no cells of its own.
  | .joinedIndicator => if isIndicator c then some (-1, .joinedIndicators true) else none
  | .joinedIndicators areFlags =>
    if c = joiner then some (0, .joined)
    else if isIndicator c then some (if areFlags then 3 else -1, .joinedIndicators (!areFlags))
    else none
  | .tagLetters n =>
    if isTagLetter c ∧ n < 6 then some (0, .tagLetters (n + 1))
    else if isTagDigit c ∧ n < 5 then some (0, .tagDigits 1)
    else if c = blackFlag ∧ 3 ≤ n then some (0, .picture)
    else none
  | .tagDigits n =>
    if isTagDigit c ∧ n < 3 then some (0, .tagDigits (n + 1))
    else if c = blackFlag ∧ n = 3 then some (0, .picture)
    else none

/-- Whether a character is a quotation mark that can be as wide as an ideograph. -/
def isQuote (c : Char) : Bool :=
  c = '\u2018' || c = '\u2019' || c = '\u201c' || c = '\u201d'

/-- A character that nothing is selected for. -/
def placeUnselected (c : Char) (x : Context) : Int × Following :=
  match link x c with
  | some (n, y) => (n, { context := y })
  | none => (cells c, { context := contextOf c })

/-- A character that no picture is selected for. -/
def placeUnpictured (c : Char) (f : Following) : Int × Following :=
  -- Up to the unbreakable blank every character takes a cell of its own, controls included.
  if c ≤ '\u00a0' then (1, {})
  else
    match selector? c with
    | some s => (0, f.select s)
    | none =>
      if f.asText ∧ selectableText.contains c then (1, {})
      else if f.asWideQuote ∧ isQuote c then (2, {})
      else placeUnselected c f.context

/-- The cells that a character adds in front of what follows, and what it means for the one before. -/
def place (c : Char) (f : Following) : Int × Following :=
  if f.asPicture ∧ selectable.contains c then (if f.isJoined then 0 else 2, { context := .picture })
  else placeUnpictured c f.unpicture

/-! ## Lines -/

/-- The cells of some characters at the end of a line, and what they mean for the one before. -/
def measure : List Char → Int × Following
  | [] => (0, {})
  | c :: cs =>
    let (n, f) := measure cs
    let (m, g) := place c f
    (n + m, g)

end Width

/-- The cells that a line takes. -/
def width (cs : List Char) : Nat :=
  (Width.measure cs).1.toNat

end VisualNovel.Text
