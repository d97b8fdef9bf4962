import QueryTemplate.Text.Width

/-! Letters that merge into one sign.

Texts are measured from their end, so a ligature is known by the part of it that stands already, and
each part says which characters before it belong to it.
-/

set_option autoImplicit false

namespace QueryTemplate.Text.Ligature

/-- The end of a ligature, from the character at which it starts. -/
inductive Part where
  | arabicAlef
  | hebrewLamed
  | khmerLetter
  | bugineseYa
  | bugineseVowel
  | tifinaghLetter
  | tifinaghJoiner
  | lisuTone
  | turkicVowel
  | kiratVowelE
  | kiratVowelAi
  deriving DecidableEq, Repr

def isLam (c : Char) : Bool :=
  inRanges [(0x644, 0x644), (0x6B5, 0x6B8), (0x76A, 0x76A), (0x8A6, 0x8A6), (0x8C7, 0x8C7)] c.toNat

def isAlef (c : Char) : Bool :=
  inRanges [(0x622, 0x623), (0x625, 0x625), (0x627, 0x627), (0x671, 0x673), (0x675, 0x675),
    (0x773, 0x774), (0x870, 0x882)] c.toNat

/-- The letters that the sign before them puts below the line. -/
def isKhmerSubscript (c : Char) : Bool :=
  inRanges [(0x1780, 0x1782), (0x1784, 0x1787), (0x1789, 0x178C), (0x178E, 0x1793),
    (0x1795, 0x1798), (0x179B, 0x179D), (0x17A0, 0x17A0), (0x17A2, 0x17A2), (0x17A7, 0x17A7),
    (0x17AB, 0x17AC), (0x17AF, 0x17AF)] c.toNat

def isTifinaghLetter (c : Char) : Bool := inRanges [(0x2D31, 0x2D65), (0x2D6F, 0x2D6F)] c.toNat

def Part.of? (c : Char) : Option Part :=
  if isAlef c then some .arabicAlef
  else if c.toNat = 0x5DC then some .hebrewLamed
  else if isKhmerSubscript c then some .khmerLetter
  else if c.toNat = 0x1A10 then some .bugineseYa
  else if isTifinaghLetter c then some .tifinaghLetter
  else if inRanges [(0xA4FC, 0xA4FD)] c.toNat then some .lisuTone
  else if c.toNat = 0x10C03 then some .turkicVowel
  else if c.toNat = 0x16D67 then some .kiratVowelE
  else if c.toNat = 0x16D68 then some .kiratVowelAi
  else none

/-- Characters without room of their own that yet keep their neighbours apart. -/
def partingRanges : List (Nat × Nat) := [
  (1541, 1541), (2192, 2193), (2274, 2274), (2494, 2494), (2519, 2519), (2878, 2878), (2903, 2903),
  (3006, 3006), (3031, 3031), (3264, 3264), (3266, 3266), (3271, 3272), (3274, 3275), (3285, 3286),
  (3390, 3390), (3406, 3406), (3415, 3415), (3535, 3535), (3551, 3551), (4448, 4607), (5909, 5909),
  (5940, 5940), (6158, 6158), (6965, 6965), (6971, 6971), (6973, 6973), (6979, 6980), (7082, 7082),
  (7154, 7155), (8204, 8205), (8293, 8297), (12334, 12335), (12644, 12644), (43258, 43258),
  (43347, 43347), (43456, 43456), (55216, 55238), (55243, 55291), (65440, 65440), (65520, 65528),
  (70080, 70080), (70082, 70083), (70197, 70197), (70462, 70462), (70477, 70477), (70487, 70487),
  (70584, 70584), (70594, 70594), (70597, 70597), (70599, 70601), (70607, 70607), (70609, 70609),
  (70832, 70832), (70845, 70845), (71087, 71087), (71350, 71350), (71984, 71984), (71997, 71997),
  (71999, 71999), (72001, 72001), (72324, 72329), (73030, 73030), (73474, 73474), (73537, 73537),
  (94192, 94193), (119141, 119142), (119149, 119154), (917504, 917504), (917506, 917535),
  (917632, 917759), (918000, 921599)]

def isTransparent (c : Char) : Bool := columnsOf c == 0 && !inRanges partingRanges c.toNat

/-- Marks that other ligatures hold without being changed by them. -/
def isHeld (c : Char) : Bool :=
  inRanges [(0x34F, 0x34F), (0x17B4, 0x17B5), (0x180B, 0x180D), (0x180F, 0x180F),
    (0xFE00, 0xFE0F), (0xE0100, 0xE01EF)] c.toNat

namespace Part

def holdsSelectors : Part → Bool
  | kiratVowelE | kiratVowelAi => false
  | _ => true

def holdsMarks : Part → Bool
  | arabicAlef => false
  | part => part.holdsSelectors

/-- What a character before a part adds to its columns, and the part that the two make if yet more may
follow; `joined` says whether a joiner stands between them. -/
def merge? (part : Part) (joined : Bool) (c : Char) : Option (Int × Option Part) :=
  match part with
  | arabicAlef =>
    if isLam c then some (0, none)
    else if isTransparent c then some (0, some arabicAlef)
    else none
  | hebrewLamed => if joined ∧ c.toNat = 0x5D0 then some (0, none) else none
  | khmerLetter => if c.toNat = 0x17D2 then some (-1, none) else none
  | bugineseYa => if joined ∧ c.toNat = 0x1A17 then some (0, some bugineseVowel) else none
  | bugineseVowel => if c.toNat = 0x1A15 then some (0, none) else none
  | tifinaghLetter =>
    if c.toNat = 0x2D7F then some (1, some tifinaghJoiner)
    else if joined ∧ isTifinaghLetter c then some (0, none)
    else none
  | tifinaghJoiner => if isTifinaghLetter c then some (-1, none) else none
  | lisuTone => if inRanges [(0xA4F8, 0xA4FB)] c.toNat then some (0, none) else none
  | turkicVowel => if joined ∧ c.toNat = 0x10C32 then some (0, none) else none
  | kiratVowelE =>
    if c.toNat = 0x16D63 ∨ c.toNat = 0x16D69 then some (0, none)
    else if c.toNat = 0x16D67 then some (0, some kiratVowelAi)
    else if c.toNat = 0x16D68 then some (1, some kiratVowelE)
    else none
  | kiratVowelAi => if c.toNat = 0x16D63 then some (0, none) else none

end Part

end QueryTemplate.Text.Ligature
