/-! Text as a list of characters, measured in the bytes of its UTF-8 form.

Template text, literals, string values and produced queries are texts; names and messages are
strings.
-/

set_option autoImplicit false

namespace QueryTemplate

abbrev Text := List Char

namespace Text

def byteLength : Text → Nat
  | [] => 0
  | c :: rest => c.utf8Size + byteLength rest

@[simp] theorem byteLength_nil : byteLength [] = 0 := rfl

@[simp] theorem byteLength_cons (c : Char) (rest : Text) :
    byteLength (c :: rest) = c.utf8Size + byteLength rest := rfl

@[simp] theorem byteLength_append (first rest : Text) :
    byteLength (first ++ rest) = byteLength first + byteLength rest := by
  induction first with
  | nil => simp
  | cons c first ih => simp [ih, Nat.add_assoc]

theorem byteLength_eq_size (text : Text) : byteLength text = text.utf8Encode.size := by
  induction text with
  | nil => rfl
  | cons c rest ih =>
    rw [byteLength, ih, List.utf8Encode_cons, ByteArray.size_append, List.utf8Encode_singleton]
    simp

/-- The ASCII digits. Digits of other scripts are ordinary characters. -/
def isDigit (c : Char) : Bool := '0' ≤ c && c ≤ '9'

def digitsValue (digits : Text) : Nat :=
  digits.foldl (fun value c => 10 * value + (c.toNat - '0'.toNat)) 0

/-- The decimal digits of a number, without leading zeros. -/
def decimal (n : Nat) : Text := Nat.toDigits 10 n

theorem decimal_ne_nil (n : Nat) : decimal n ≠ [] := Nat.toDigits_ne_nil

theorem isDigit_of_mem_decimal {n : Nat} {c : Char} (member : c ∈ decimal n) : isDigit c := by
  have digit := Nat.isDigit_of_mem_toDigits (by decide) (by decide) member
  simpa [isDigit, Char.isDigit, Char.le_def] using digit

@[simp] theorem digitsValue_decimal (n : Nat) : digitsValue (decimal n) = n :=
  Nat.ofDigitChars_ten_toDigits

/-- The decimal digits of an integer, after a minus sign if it is negative. -/
def signedDecimal : Int → Text
  | .ofNat n => decimal n
  | .negSucc n => '-' :: decimal (n + 1)

def join (separator : Text) : List Text → Text
  | [] => []
  | [part] => part
  | part :: next :: rest => part ++ separator ++ join separator (next :: rest)

theorem join_cons (separator part : Text) (rest : List Text) :
    join separator (part :: rest) = part ++ rest.flatMap (separator ++ ·) := by
  induction rest generalizing part with
  | nil => simp [join]
  | cons next rest ih => simp [join, ih]

theorem join_eq_intercalate (separator : Text) (parts : List Text) :
    join separator parts = separator.intercalate parts := by
  fun_induction join separator parts with
  | case1 => rfl
  | case2 part => rw [List.intercalate_singleton]
  | case3 part next rest ih => rw [List.intercalate_cons_cons, ih]

end Text

end QueryTemplate
