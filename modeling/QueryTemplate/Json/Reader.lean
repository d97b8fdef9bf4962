import QueryTemplate.Json
import QueryTemplate.Json.Numeral
import QueryTemplate.Json.Scan

/-! Reading JSON values.

A list or an object is read item by item with whatever reads one item. A loop carries a bound one
above the length of its text, which it never reaches, since each round takes a character.
-/

set_option autoImplicit false

namespace QueryTemplate.Json

abbrev Reader (α : Type) := Text → Except Fault (α × Text)

inductive NextItem where
  | done (rest : Text)
  | item (rest : Text)

inductive NextKey where
  | done (rest : Text)
  | key (name rest : Text)

def nextItem (first : Bool) (text : Text) : Except Fault NextItem :=
  match skipBlank text with
  | ']' :: rest => .ok (.done rest)
  | ',' :: rest =>
    if first then .ok (.item (',' :: rest))
    else match skipBlank rest with
      | ']' :: rest => failAhead .trailingComma (']' :: rest)
      | [] => failAhead .endOfValue []
      | rest => .ok (.item rest)
  | [] => failAhead .endOfList []
  | rest => if first then .ok (.item rest) else failAhead .expectedListCommaOrEnd rest

def keyBody (text : Text) : Except Fault NextKey :=
  (stringBody text).map fun (name, rest) => .key name rest

/-- Look for the next key of an object, past the comma unless it is the first. -/
def nextKey (first : Bool) (text : Text) : Except Fault NextKey :=
  match skipBlank text with
  | '}' :: rest => .ok (.done rest)
  | '"' :: rest => if first then keyBody rest else failAhead .expectedObjectCommaOrEnd ('"' :: rest)
  | ',' :: rest =>
    if first then failAhead .keyMustBeString (',' :: rest)
    else match skipBlank rest with
      | '"' :: rest => keyBody rest
      | '}' :: rest => failAhead .trailingComma ('}' :: rest)
      | rest => failAheadOrEnd .keyMustBeString .endOfValue rest
  | [] => failAhead .endOfObject []
  | rest => failAhead (if first then .keyMustBeString else .expectedObjectCommaOrEnd) rest

def colon (text : Text) : Except Fault Text :=
  match skipBlank text with
  | ':' :: rest => .ok rest
  | rest => failAheadOrEnd .expectedColon .endOfObject rest

def items {α : Type} (item : Reader α) : (bound : Nat) → (first : Bool) → Reader (List α)
  | 0, _ => fun text => fail .endOfList text 0
  | bound + 1, first => fun text => do
    match ← nextItem first text with
    | .done rest => .ok ([], rest)
    | .item rest =>
      let (head, rest) ← item rest
      let (tail, rest) ← items item bound false rest
      .ok (head :: tail, rest)

def listBody {α : Type} (item : Reader α) : Reader (List α) := fun text =>
  items item (text.length + 1) true text

def listEnd (text : Text) : Except Fault Text :=
  match skipBlank text with
  | ']' :: rest => .ok rest
  | ',' :: rest =>
    match skipBlank rest with
    | ']' :: rest => failAhead .trailingComma (']' :: rest)
    | rest => failAhead .trailingCharacters rest
  | rest => failAheadOrEnd .trailingCharacters .endOfList rest

/-- At most `bound` members of an object, each taken into a state by its key. -/
def members {σ : Type} (take : σ → Text → Reader σ) :
    (bound : Nat) → (first : Bool) → σ → Reader σ
  | 0, _, _ => fun text => fail .endOfObject text 0
  | bound + 1, first, state => fun text => do
    match ← nextKey first text with
    | .done rest => .ok (state, rest)
    | .key name rest =>
      let (state, rest) ← take state name rest
      members take bound false state rest

def objectBody {σ : Type} (take : σ → Text → Reader σ) (state : σ) : Reader σ := fun text =>
  members take (text.length + 1) true state text

def readAtom : Reader Atom
  | [] => failAhead .endOfValue []
  | 'n' :: rest => (word ['u', 'l', 'l'] rest).map (.null, ·)
  | 't' :: rest => (word ['r', 'u', 'e'] rest).map (.boolean true, ·)
  | 'f' :: rest => (word ['a', 'l', 's', 'e'] rest).map (.boolean false, ·)
  | '"' :: rest => (stringBody rest).map fun (text, rest) => (.string text, rest)
  | c :: rest =>
    if c = '-' ∨ Text.isDigit c then
      (numeral (c :: rest)).map fun (n, rest) => (.number n, rest)
    else failAhead .expectedValue (c :: rest)

/-- How many brackets may be open at once. -/
def depthLimit : Nat := 127

/-- A value of any shape, with at most `depth` further brackets open at once. -/
def readValue : (depth : Nat) → Reader Json := fun depth text =>
  match skipBlank text with
  | '[' :: rest =>
    match depth with
    | 0 => failAhead .recursionLimit ('[' :: rest)
    | depth + 1 => (listBody (readValue depth) rest).map fun (items, rest) => (.array items, rest)
  | '{' :: rest =>
    match depth with
    | 0 => failAhead .recursionLimit ('{' :: rest)
    | depth + 1 =>
      let member (members : List (Text × Json)) (name : Text) : Reader (List (Text × Json)) :=
        fun rest => do
          let rest ← colon rest
          let (value, rest) ← readValue depth rest
          .ok (members ++ [(name, value)], rest)
      (objectBody member [] rest).map fun (members, rest) => (.object members, rest)
  | rest => (readAtom rest).map fun (a, rest) => (.atom a, rest)

def unexpected {α : Type} (expected : String) (text : Text) : Except Fault α :=
  match text with
  | '[' :: _ => fail (.invalidType .sequence expected) text 0
  | '{' :: _ => fail (.invalidType .map expected) text 0
  | _ => do
    let (a, rest) ← readAtom text
    fail (.invalidType (.atom a) expected) rest 0

def readAll {α : Type} (reader : Reader α) (text : Text) : Except Error α :=
  let read : Except Fault α := do
    let (result, rest) ← reader text
    match skipBlank rest with
    | [] => .ok result
    | rest => failAhead .trailingCharacters rest
  read.mapError (Fault.within text)

def parse (text : Text) : Except Error Json := readAll (readValue depthLimit) text

end QueryTemplate.Json
