import QueryTemplate.Text.Emoji
import QueryTemplate.Text.Ligature

/-! The columns that a text takes in a terminal.

Characters that are shown as one sign are counted once. A text is measured from its end, and what
stands after a character decides what the character adds.
-/

set_option autoImplicit false

namespace QueryTemplate.Text

/-- The sign that a character finds after it, as far as the character may belong to it. -/
inductive Sign where
  | other
  | lineFeed
  | ligature (part : Ligature.Part) (joined : Bool)
  | picture
  | skinTone
  /-- Region letters in a row, `joined` to a picture after them or not. -/
  | regions (joined : Bool) (count : Nat)
  | join
  | joinedFrame
  | joinedTags (letters digits : Nat)
  deriving DecidableEq, Repr

/-- A character that says in which form the one before it is shown. -/
inductive Selector where
  | plain
  | picture
  deriving DecidableEq, Repr

/-- What stands after a character: a selector of its form, and the sign after that. -/
structure Ahead where
  sign : Sign := .other
  selector : Option Selector := none
  deriving DecidableEq, Repr

namespace Sign

def of (c : Char) : Sign :=
  if c.toNat < 161 then if c = '\n' then lineFeed else other
  else if isSkinTone c then skinTone
  else if isRegionLetter c then regions false 1
  else if isPicture c then picture
  else
    match Ligature.Part.of? c with
    | some part => ligature part false
    | none => other

def alone (c : Char) : Int × Sign := (columnsOf c, of c)

/-- The columns that a character adds to the sign after it, and the sign that the two make. -/
def extend (c : Char) (sign : Sign) : Int × Sign :=
  match sign with
  | lineFeed => if c = '\r' then (0, other) else alone c
  | ligature part joined =>
    if part.holdsMarks ∧ c = joiner then (0, ligature part true)
    else if part.holdsMarks ∧ Ligature.isHeld c then (0, ligature part joined)
    else
      match part.merge? joined c with
      | some (added, some part) => (added, ligature part false)
      | some (added, none) => (added, other)
      | none => alone c
  | picture => if c = joiner then (0, join) else alone c
  | skinTone =>
    if c = joiner then (0, join)
    else if takesSkinTone c then (0, picture)
    else alone c
  | regions joined count =>
    if isRegionLetter c then
      -- Letters pair up from the first on; a pair is joined as a whole, a single letter stays beside.
      let added := if ¬joined then 1 else if count % 2 = 1 then -1 else 3
      (added, regions joined (count + 1))
    else if c = joiner ∧ 2 ≤ count then (0, join)
    else alone c
  | join =>
    if c = keyFrame then (0, joinedFrame)
    else if c = tagEnd then (0, joinedTags 0 0)
    else if isRegionLetter c then (1, regions true 1)
    else if isSkinTone c then (0, skinTone)
    else if isPicture c then (0, picture)
    else alone c
  | joinedTags letters digits =>
    if isTagLetter c ∧ letters < 6 ∧ digits = 0 then (0, joinedTags (letters + 1) 0)
    else if isTagDigit c ∧ letters ≤ 4 ∧ digits < 3 then (0, joinedTags letters (digits + 1))
    else if c = taggedFlag ∧ (digits = 3 ∨ digits = 0 ∧ 3 ≤ letters) then (0, picture)
    else alone c
  | joinedFrame | other => alone c

/-- Whether a picture before a selector is joined to this sign. -/
def joins : Sign → Bool
  | join | joinedFrame => true
  | _ => false

/-- What a sign is to a character that the selector between them does not belong to. -/
def pastSelector : Sign → Sign
  | ligature part joined => if part.holdsSelectors then ligature part joined else other
  | _ => other

end Sign

namespace Ahead

def unselected (c : Char) (sign : Sign) : Int × Ahead :=
  if c = pictureSelector then (0, ⟨sign, some .picture⟩)
  else if c = plainSelector then (0, ⟨sign, some .plain⟩)
  else
    let (added, sign) := sign.extend c
    (added, ⟨sign, none⟩)

def extend (c : Char) (ahead : Ahead) : Int × Ahead :=
  match ahead.selector with
  | some .picture =>
    if isSelectable c then (if ahead.sign.joins then 0 else 2, ⟨.picture, none⟩)
    else unselected c ahead.sign.pastSelector
  | some .plain =>
    if isPlainSelectable c then (1, ⟨.other, none⟩) else unselected c ahead.sign.pastSelector
  | none => unselected c ahead.sign

end Ahead

def measure (text : Text) : Int × Ahead :=
  text.foldr
    (fun c (columns, ahead) =>
      let (added, ahead) := ahead.extend c
      (columns + added, ahead))
    (0, {})

def columns (text : Text) : Nat := (measure text).1.toNat

end QueryTemplate.Text
