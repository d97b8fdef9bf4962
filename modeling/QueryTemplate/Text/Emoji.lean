import QueryTemplate.Text.Printable

/-! Characters shown as pictures.

Some characters are pictures of their own, some become one by the selector after them. The other
selector turns a picture into plain text, and a skin tone belongs to the picture before it.
-/

set_option autoImplicit false

namespace QueryTemplate.Text

/-- Characters that selectors are made for, as ascending ranges of code points. -/
def selectableRanges : List (Nat × Nat) := [
  (35, 35), (42, 42), (48, 57), (169, 169), (174, 174), (8252, 8252), (8265, 8265), (8482, 8482),
  (8505, 8505), (8596, 8601), (8617, 8618), (8986, 8987), (9000, 9000), (9167, 9167), (9193, 9203),
  (9208, 9210), (9410, 9410), (9642, 9643), (9654, 9654), (9664, 9664), (9723, 9726), (9728, 9732),
  (9742, 9742), (9745, 9745), (9748, 9749), (9752, 9752), (9757, 9757), (9760, 9760), (9762, 9763),
  (9766, 9766), (9770, 9770), (9774, 9775), (9784, 9786), (9792, 9792), (9794, 9794), (9800, 9811),
  (9823, 9824), (9827, 9827), (9829, 9830), (9832, 9832), (9851, 9851), (9854, 9855), (9874, 9879),
  (9881, 9881), (9883, 9884), (9888, 9889), (9895, 9895), (9898, 9899), (9904, 9905), (9917, 9918),
  (9924, 9925), (9928, 9928), (9934, 9935), (9937, 9937), (9939, 9940), (9961, 9962), (9968, 9973),
  (9975, 9978), (9981, 9981), (9986, 9986), (9989, 9989), (9992, 9997), (9999, 9999),
  (10002, 10002), (10004, 10004), (10006, 10006), (10013, 10013), (10017, 10017), (10024, 10024),
  (10035, 10036), (10052, 10052), (10055, 10055), (10060, 10060), (10062, 10062), (10067, 10069),
  (10071, 10071), (10083, 10084), (10133, 10135), (10145, 10145), (10160, 10160), (10175, 10175),
  (10548, 10549), (11013, 11015), (11035, 11036), (11088, 11088), (11093, 11093), (12336, 12336),
  (12349, 12349), (12951, 12951), (12953, 12953), (126980, 126980), (127344, 127345),
  (127358, 127359), (127490, 127490), (127514, 127514), (127535, 127535), (127543, 127543),
  (127757, 127759), (127765, 127765), (127772, 127772), (127777, 127777), (127780, 127788),
  (127798, 127798), (127864, 127864), (127869, 127869), (127891, 127891), (127894, 127895),
  (127897, 127899), (127902, 127903), (127911, 127911), (127916, 127918), (127938, 127938),
  (127940, 127940), (127942, 127942), (127946, 127950), (127956, 127968), (127981, 127981),
  (127987, 127987), (127989, 127989), (127991, 127991), (128008, 128008), (128021, 128021),
  (128031, 128031), (128038, 128038), (128063, 128063), (128065, 128066), (128070, 128073),
  (128077, 128078), (128083, 128083), (128106, 128106), (128125, 128125), (128163, 128163),
  (128176, 128176), (128179, 128179), (128187, 128187), (128191, 128191), (128203, 128203),
  (128218, 128218), (128223, 128223), (128228, 128230), (128234, 128237), (128247, 128247),
  (128249, 128251), (128253, 128253), (128264, 128264), (128269, 128269), (128274, 128275),
  (128329, 128330), (128336, 128359), (128367, 128368), (128371, 128377), (128391, 128391),
  (128394, 128397), (128400, 128400), (128421, 128421), (128424, 128424), (128433, 128434),
  (128444, 128444), (128450, 128452), (128465, 128467), (128476, 128478), (128481, 128481),
  (128483, 128483), (128488, 128488), (128495, 128495), (128499, 128499), (128506, 128506),
  (128528, 128528), (128647, 128647), (128653, 128653), (128657, 128657), (128660, 128660),
  (128664, 128664), (128685, 128685), (128690, 128690), (128697, 128698), (128700, 128700),
  (128715, 128715), (128717, 128719), (128736, 128741), (128745, 128745), (128752, 128752),
  (128755, 128755)]

def pictureRanges : List (Nat × Nat) := [
  (8986, 8987), (9193, 9196), (9200, 9200), (9203, 9203), (9725, 9726), (9748, 9749), (9800, 9811),
  (9855, 9855), (9875, 9875), (9889, 9889), (9898, 9899), (9917, 9918), (9924, 9925), (9934, 9934),
  (9940, 9940), (9962, 9962), (9970, 9971), (9973, 9973), (9978, 9978), (9981, 9981), (9989, 9989),
  (9994, 9995), (10024, 10024), (10060, 10060), (10062, 10062), (10067, 10069), (10071, 10071),
  (10133, 10135), (10160, 10160), (10175, 10175), (11035, 11036), (11088, 11088), (11093, 11093),
  (126980, 126980), (127183, 127183), (127374, 127374), (127377, 127386), (127489, 127489),
  (127514, 127514), (127535, 127535), (127538, 127542), (127544, 127546), (127568, 127569),
  (127744, 127776), (127789, 127797), (127799, 127868), (127870, 127891), (127904, 127946),
  (127951, 127955), (127968, 127984), (127988, 127988), (127992, 128062), (128064, 128064),
  (128066, 128252), (128255, 128317), (128331, 128334), (128336, 128359), (128378, 128378),
  (128405, 128406), (128420, 128420), (128507, 128591), (128640, 128709), (128716, 128716),
  (128720, 128722), (128725, 128728), (128732, 128735), (128747, 128748), (128756, 128764),
  (128986, 128986), (128992, 129003), (129008, 129008), (129292, 129338), (129340, 129349),
  (129351, 129535), (129648, 129660), (129664, 129674), (129678, 129734), (129736, 129736),
  (129741, 129756), (129759, 129770), (129775, 129784)]

def tonedRanges : List (Nat × Nat) := [
  (9757, 9757), (9977, 9977), (9994, 9997), (127877, 127877), (127938, 127940), (127943, 127943),
  (127946, 127948), (128066, 128067), (128070, 128080), (128102, 128120), (128124, 128124),
  (128129, 128131), (128133, 128135), (128143, 128143), (128145, 128145), (128170, 128170),
  (128372, 128373), (128378, 128378), (128400, 128400), (128405, 128406), (128581, 128583),
  (128587, 128591), (128675, 128675), (128692, 128694), (128704, 128704), (128716, 128716),
  (129292, 129292), (129295, 129295), (129304, 129311), (129318, 129318), (129328, 129337),
  (129340, 129342), (129399, 129399), (129461, 129462), (129464, 129465), (129467, 129467),
  (129485, 129487), (129489, 129501), (129731, 129733), (129776, 129784)]

def joiner : Char := Char.ofNat 0x200D

def plainSelector : Char := Char.ofNat 0xFE0E

def pictureSelector : Char := Char.ofNat 0xFE0F

def keyFrame : Char := Char.ofNat 0x20E3

def taggedFlag : Char := Char.ofNat 0x1F3F4

def isTagLetter (c : Char) : Bool := 0xE0061 ≤ c.toNat && c.toNat ≤ 0xE007A

def isTagDigit (c : Char) : Bool := 0xE0030 ≤ c.toNat && c.toNat ≤ 0xE0039

def tagEnd : Char := Char.ofNat 0xE007F

def isRegionLetter (c : Char) : Bool := 0x1F1E6 ≤ c.toNat && c.toNat ≤ 0x1F1FF

def isSkinTone (c : Char) : Bool := 0x1F3FB ≤ c.toNat && c.toNat ≤ 0x1F3FF

def takesSkinTone (c : Char) : Bool := inRanges tonedRanges c.toNat

/-- Whether the selector after it turns a character into a picture. -/
def isSelectable (c : Char) : Bool := inRanges selectableRanges c.toNat

def isPicture (c : Char) : Bool := inRanges pictureRanges c.toNat

/-- Squared words, which no selector makes narrow. -/
def isSquaredWord (c : Char) : Bool := 0x1F200 ≤ c.toNat && c.toNat ≤ 0x1F2FF

/-- Whether the selector after it turns a picture into plain text. -/
def isPlainSelectable (c : Char) : Bool := isPicture c && isSelectable c && !isSquaredWord c

end QueryTemplate.Text
