import QueryTemplate.Json.Reader

/-! Skipping JSON values that nobody asked for. They may be nested to any depth, their numbers may
be of any size, and their escapes need not denote characters. -/

set_option autoImplicit false

namespace QueryTemplate.Json

def skipEscape : Text → Except Fault Text
  | [] => fail .endOfString [] 0
  | 'u' :: rest => (hexQuad rest).map (·.2)
  | c :: rest =>
    if ['"', '\\', '/', 'b', 'f', 'n', 'r', 't'].contains c then .ok rest
    else fail .invalidEscape (c :: rest) 1

theorem length_lt_of_skipEscape {text rest : Text} (read : skipEscape text = .ok rest) :
    rest.length < text.length := by
  unfold skipEscape at read
  split at read
  · simp [fail] at read
  · rename_i tail
    cases quad : hexQuad tail with
    | error fault => simp [quad, Except.map] at read
    | ok found =>
      simp only [quad, Except.map, Except.ok.injEq] at read
      have shorter : found.2.length < tail.length := length_lt_of_hexQuad quad
      simp only [List.length_cons, ← read]
      omega
  · split at read
    · simp only [Except.ok.injEq] at read
      simp [← read]
    · simp [fail] at read

def skipString (text : Text) : Except Fault Text :=
  match text with
  | [] => fail .endOfString [] 0
  | '"' :: rest => .ok rest
  | '\\' :: rest =>
    match read : skipEscape rest with
    | .error fault => .error fault
    | .ok after =>
      have := length_lt_of_skipEscape read
      skipString after
  | c :: rest => if c.toNat < 32 then fail .controlCharacter (c :: rest) 0 else skipString rest
termination_by text.length
decreasing_by all_goals (simp only [List.length_cons]; omega)

def skipExponent : Text → Except Fault Text
  | c :: rest =>
    if c = 'e' ∨ c = 'E' then
      let rest := match rest with
        | '+' :: rest | '-' :: rest => rest
        | rest => rest
      match rest.takeWhile Text.isDigit with
      | [] => fail .invalidNumber rest 1
      | _ => .ok (rest.dropWhile Text.isDigit)
    else .ok (c :: rest)
  | [] => .ok []

def skipFraction : Text → Except Fault Text
  | '.' :: rest =>
    match rest.takeWhile Text.isDigit with
    | [] => failAhead .invalidNumber rest
    | _ => skipExponent (rest.dropWhile Text.isDigit)
  | rest => skipExponent rest

def skipNumber : Text → Except Fault Text
  | '0' :: rest =>
    match rest.takeWhile Text.isDigit with
    | [] => skipFraction rest
    | _ => failAhead .invalidNumber rest
  | rest =>
    match rest.takeWhile Text.isDigit with
    | [] => fail .invalidNumber rest 1
    | _ => skipFraction (rest.dropWhile Text.isDigit)

def skipItems (skip : Text → Except Fault Text) : (bound : Nat) → Text → Except Fault Text
  | 0, text => fail .endOfList text 0
  | bound + 1, text => do
    match skipBlank (← skip text) with
    | ',' :: rest => skipItems skip bound rest
    | ']' :: rest => .ok rest
    | rest => failAheadOrEnd .expectedListCommaOrEnd .endOfList rest

def skipMembers (skip : Text → Except Fault Text) : (bound : Nat) → Text → Except Fault Text
  | 0, text => fail .endOfObject text 0
  | bound + 1, text =>
    match skipBlank text with
    | '"' :: rest => do
      match skipBlank (← skip (← colon (← skipString rest))) with
      | ',' :: rest => skipMembers skip bound rest
      | '}' :: rest => .ok rest
      | rest => failAheadOrEnd .expectedObjectCommaOrEnd .endOfObject rest
    | rest => failAheadOrEnd .keyMustBeString .endOfObject rest

def skipNested : (depth : Nat) → Text → Except Fault Text
  | 0, text => fail .recursionLimit text 0
  | depth + 1, text =>
    match skipBlank text with
    | [] => failAhead .endOfValue []
    | 'n' :: rest => word ['u', 'l', 'l'] rest
    | 't' :: rest => word ['r', 'u', 'e'] rest
    | 'f' :: rest => word ['a', 'l', 's', 'e'] rest
    | '"' :: rest => skipString rest
    | '-' :: rest => skipNumber rest
    | '[' :: rest =>
      match skipBlank rest with
      | [] => failAhead .endOfList []
      | ']' :: rest => .ok rest
      | rest => skipItems (skipNested depth) (rest.length + 1) rest
    | '{' :: rest =>
      match skipBlank rest with
      | [] => failAhead .endOfObject []
      | '}' :: rest => .ok rest
      | rest => skipMembers (skipNested depth) (rest.length + 1) rest
    | c :: rest =>
      if Text.isDigit c then skipNumber (c :: rest) else failAhead .expectedValue (c :: rest)

/-- Skip a value. A text has no more brackets than characters, so the depth is no limit. -/
def skipValue (text : Text) : Except Fault Text := skipNested (text.length + 1) text

end QueryTemplate.Json
