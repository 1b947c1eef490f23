import ScriptLint.Text.Property.Basic

namespace ScriptLint.Text.Property.Break

/-! The parts that characters play where text is divided into clusters, which readers take
for characters, into words and into sentences. No character plays two parts in one
division. -/

def known (found : Option CharSet) : CharSet := found.getD .empty

def categorized (ns : List String) : CharSet :=
  ns.foldl (fun s n => s ++ known (category? n)) .empty

def lineFeed : CharSet := .range 0xA 0xA

def carriageReturn : CharSet := .range 0xD 0xD

def joiner : CharSet := .range 0x200D 0x200D

/-- The joiner, and the mark that keeps characters from being joined. -/
def joiners : CharSet := .range 0x200C 0x200D

def regional : CharSet := known (binary? "regionalindicator")

def numberSigns : CharSet :=
  (known (binary? "prependedconcatenationmark")).diff (.range 0x70F 0x70F)

def numeric : CharSet := categorized ["nd"] ++ .range 0x66B 0x66B ++ numberSigns

/-! ### Clusters -/

/-- What goes with the character before it and is not seen on its own. -/
def graphemeExtend : CharSet :=
  (known (binary? "graphemeextend") ++ known (binary? "emojimodifier")).diff joiner

/-- What goes with the character after it. -/
def prepended : CharSet :=
  known (binary? "prependedconcatenationmark") ++ .ofRanges
    [(0xD4E, 0xD4E), (0x111C2, 0x111C3), (0x113D1, 0x113D1), (0x1193F, 0x1193F),
      (0x11941, 0x11941), (0x11A3A, 0x11A3A), (0x11A84, 0x11A89), (0x11D46, 0x11D46),
      (0x11F02, 0x11F02)]

/-- Separators, controls and formats; characters without a category that are not to be
shown count as such. -/
def control : CharSet :=
  let hidden := (known (binary? "defaultignorablecodepoint")).inter (categorized ["cn"])
  (categorized ["zl", "zp", "cc", "cf"] ++ hidden).diff
    (carriageReturn ++ lineFeed ++ joiners ++ prepended ++ graphemeExtend)

/-- Marks with a width of their own that nevertheless go with the character before them. -/
def spacingMark : CharSet :=
  let separate := CharSet.ofRanges
    [(0x102B, 0x102C), (0x1038, 0x1038), (0x1062, 0x1064), (0x1067, 0x106D), (0x1083, 0x1083),
      (0x1087, 0x108C), (0x108F, 0x108F), (0x109A, 0x109C), (0x1A61, 0x1A61), (0x1A63, 0x1A64),
      (0xAA7B, 0xAA7B), (0xAA7D, 0xAA7D), (0x11720, 0x11721)]
  (categorized ["mc"] ++ .range 0xE33 0xE33 ++ .range 0xEB3 0xEB3).diff (graphemeExtend ++ separate)

/-- The Hangul syllables that end in their vowel. Behind each of them stand the 27 that end
in a consonant and begin as it does. -/
def openSyllables : List Nat := (List.range 399).map fun i => 0xAC00 + 28 * i

def grapheme? : String → Option CharSet
  | "cr" => some carriageReturn
  | "lf" => some lineFeed
  | "control" | "cn" => some control
  | "extend" | "ex" => some graphemeExtend
  | "zwj" => some joiner
  | "regionalindicator" | "ri" => some regional
  | "prepend" | "pp" => some prepended
  | "spacingmark" | "sm" => some spacingMark
  | "l" => some (.ofRanges [(0x1100, 0x115F), (0xA960, 0xA97C)])
  | "v" =>
      some (.ofRanges [(0x1160, 0x11A7), (0xD7B0, 0xD7C6), (0x16D63, 0x16D63), (0x16D67, 0x16D6A)])
  | "t" => some (.ofRanges [(0x11A8, 0x11FF), (0xD7CB, 0xD7FB)])
  | "lv" => some ⟨openSyllables.map fun n => (n, n)⟩
  | "lvt" => some ⟨openSyllables.map fun n => (n + 1, n + 27)⟩
  | _ => none

/-! ### Words -/

def wordExtend : CharSet := graphemeExtend ++ categorized ["mc"]

def wordFormat : CharSet :=
  (categorized ["cf"]).diff (.range 0x200B 0x200D ++ prepended ++ wordExtend)

def katakana : CharSet :=
  known (script? "katakana") ++ .ofRanges
    [(0x3031, 0x3035), (0x309B, 0x309C), (0x30A0, 0x30A0), (0x30FC, 0x30FC), (0xFF70, 0xFF70)]

def hebrewLetter : CharSet := (known (script? "hebrew")).inter (categorized ["lo"])

def unspaced : CharSet :=
  let scripts := ["thai", "lao", "myanmar", "khmer", "taile", "newtailue", "taitham", "taiviet",
    "ahom"].foldl (fun s n => s ++ known (script? n)) CharSet.empty
  scripts.inter
    (categorized ["lo", "lm", "mn", "mc"] ++ .ofRanges [(0x1940, 0x1940), (0x19DA, 0x19DA)])

def wordLetter : CharSet :=
  let signs := CharSet.ofRanges
    [(0x2C2, 0x2C5), (0x2D2, 0x2D7), (0x2DE, 0x2DF), (0x2E5, 0x2EB), (0x2ED, 0x2ED),
      (0x2EF, 0x2FF), (0x55A, 0x55C), (0x55E, 0x55E), (0x58A, 0x58A), (0x5F3, 0x5F3),
      (0x70F, 0x70F), (0xA708, 0xA716), (0xA720, 0xA721), (0xA789, 0xA78A), (0xAB5B, 0xAB5B)]
  (known (binary? "alphabetic") ++ signs).diff
    (known (binary? "ideographic") ++ katakana ++ unspaced ++ known (script? "hiragana")
      ++ wordExtend ++ hebrewLetter)

def word? : String → Option CharSet
  | "cr" => some carriageReturn
  | "lf" => some lineFeed
  | "newline" | "nl" => some (.ofRanges [(0xB, 0xC), (0x85, 0x85), (0x2028, 0x2029)])
  | "extend" => some wordExtend
  | "zwj" => some joiner
  | "regionalindicator" | "ri" => some regional
  | "format" | "fo" => some wordFormat
  | "katakana" | "ka" => some katakana
  | "hebrewletter" | "hl" => some hebrewLetter
  | "aletter" | "le" => some wordLetter
  | "singlequote" | "sq" => some (.range 0x27 0x27)
  | "doublequote" | "dq" => some (.range 0x22 0x22)
  | "midnumlet" | "mb" =>
      some (.ofRanges [(0x2E, 0x2E), (0x2018, 0x2019), (0x2024, 0x2024), (0xFE52, 0xFE52),
        (0xFF07, 0xFF07), (0xFF0E, 0xFF0E)])
  | "midletter" | "ml" =>
      some (.ofRanges [(0x3A, 0x3A), (0xB7, 0xB7), (0x387, 0x387), (0x55F, 0x55F), (0x5F4, 0x5F4),
        (0x2027, 0x2027), (0xFE13, 0xFE13), (0xFE55, 0xFE55), (0xFF1A, 0xFF1A)])
  | "midnum" | "mn" =>
      some (.ofRanges [(0x2C, 0x2C), (0x3B, 0x3B), (0x37E, 0x37E), (0x589, 0x589), (0x60C, 0x60D),
        (0x66C, 0x66C), (0x7F8, 0x7F8), (0x2044, 0x2044), (0xFE10, 0xFE10), (0xFE14, 0xFE14),
        (0xFE50, 0xFE50), (0xFE54, 0xFE54), (0xFF0C, 0xFF0C), (0xFF1B, 0xFF1B)])
  | "numeric" | "nu" => some numeric
  | "extendnumlet" | "ex" => some (categorized ["pc"] ++ .range 0x202F 0x202F)
  | "wsegspace" =>
      some ((categorized ["zs"]).diff
        (.ofRanges [(0xA0, 0xA0), (0x2007, 0x2007), (0x202F, 0x202F)]))
  | _ => none

/-! ### Sentences -/

def sentenceExtend : CharSet :=
  known (binary? "graphemeextend") ++ joiner ++ categorized ["mc"]

def sentenceFormat : CharSet :=
  (categorized ["cf"]).diff (joiners ++ numberSigns ++ sentenceExtend)

def separators : CharSet := .ofRanges [(0x85, 0x85), (0x2028, 0x2029)]

/-- Small letters, save those of alphabets whose small letters also begin sentences. -/
def sentenceLower : CharSet :=
  (known (binary? "lowercase")).diff
    (known (binary? "graphemeextend") ++ .ofRanges [(0x10D0, 0x10FA), (0x10FD, 0x10FF)])

/-- Capital letters, save those that are used for whole texts only. -/
def sentenceUpper : CharSet :=
  (known (binary? "uppercase") ++ categorized ["lt"]).diff
    (.ofRanges [(0x1C90, 0x1CBA), (0x1CBD, 0x1CBF)])

def sentenceLetter : CharSet :=
  (known (binary? "alphabetic") ++ .range 0x5F3 0x5F3).diff
    (sentenceLower ++ sentenceUpper ++ sentenceExtend)

def stops : CharSet :=
  .ofRanges [(0x2E, 0x2E), (0x2024, 0x2024), (0xFE52, 0xFE52), (0xFF0E, 0xFF0E)]

def terminators : CharSet := (known (binary? "sentenceterminal")).diff stops

def closing : CharSet :=
  let quotes := CharSet.ofRanges
    [(0x22, 0x22), (0x27, 0x27), (0x275B, 0x2760), (0x2E00, 0x2E0D), (0x2E1C, 0x2E1D),
      (0x2E20, 0x2E21), (0x1F676, 0x1F678)]
  (categorized ["ps", "pe", "pi", "pf"] ++ quotes).diff (stops ++ terminators)

def continuing : CharSet :=
  .ofRanges [(0x2C, 0x2D), (0x3A, 0x3B), (0x37E, 0x37E), (0x55D, 0x55D), (0x60C, 0x60D),
    (0x7F8, 0x7F8), (0x1802, 0x1802), (0x1808, 0x1808), (0x2013, 0x2014), (0x3001, 0x3001),
    (0xFE10, 0xFE11), (0xFE13, 0xFE14), (0xFE31, 0xFE32), (0xFE50, 0xFE51), (0xFE54, 0xFE55),
    (0xFE58, 0xFE58), (0xFE63, 0xFE63), (0xFF0C, 0xFF0D), (0xFF1A, 0xFF1B), (0xFF64, 0xFF64)]

def sentence? : String → Option CharSet
  | "cr" => some carriageReturn
  | "lf" => some lineFeed
  | "extend" | "ex" => some sentenceExtend
  | "sep" | "se" => some separators
  | "format" | "fo" => some sentenceFormat
  | "sp" =>
      some ((known (binary? "whitespace")).diff (separators ++ carriageReturn ++ lineFeed))
  | "lower" | "lo" => some sentenceLower
  | "upper" | "up" => some sentenceUpper
  | "oletter" | "le" => some sentenceLetter
  | "numeric" | "nu" => some (numeric ++ .range 0x66C 0x66C)
  | "aterm" | "at" => some stops
  | "sterm" | "st" => some terminators
  | "close" | "cl" => some closing
  | "scontinue" | "sc" => some continuing
  | _ => none

end ScriptLint.Text.Property.Break
