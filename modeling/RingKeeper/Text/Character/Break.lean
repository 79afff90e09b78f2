import RingKeeper.Text.Character.Property

/-!
# Where texts are divided

Three properties give each code point its part in dividing a text into what a reader takes for one
character, into words, and into sentences, by the Unicode standard, version 15.0.
-/

namespace RingKeeper.Text.Break

def table (t : String) : CharSet := .ofTable t

/-- The line ends that are characters of their own. -/
def lineEnds : List (List String × CharSet) :=
  [(["cr"], .single 0x0D), (["lf"], .single 0x0A)]

def joiner : CharSet := .single 0x200D

def indicators : List String × CharSet :=
  (["ri", "regionalindicator"], Property.listed .regionalIndicator)

def marks : CharSet := (Property.graphemeExtendSet).union (Category.set .spacingMark)

/-- What extends a character in a word. -/
def wordMarks : CharSet := marks.union (Property.listed .emojiModifier)

/-! ### Characters as readers see them -/

/-- The unassigned code points that are ignored where they cannot be shown. -/
def unassignedControl : CharSet :=
  table "2065 FFF0-FFF8 E0000 E0002-E001F E0080-E00FF E01F0-E0FFF"

def clusterControl : CharSet :=
  CharSet.unions [Category.sets [.lineSeparator, .paragraphSeparator, .control, .formatting],
      unassignedControl]
    |>.diff (table "A D 200C 200D") |>.diff (Property.listed .prependedConcatenationMark)
    |>.diff Property.graphemeExtendSet

def syllables : CharRange := ⟨0xAC00, 0xD7A3⟩

/-- The syllables without a consonant at their end. -/
def openSyllables : CharSet := table "AC00-D788/1C"

def clusters : List (List String × CharSet) := lineEnds ++ [
  (["cn", "control"], clusterControl),
  (["ex", "extend"], Property.graphemeExtendSet.union (Property.listed .emojiModifier)),
  (["zwj"], joiner), indicators,
  (["pp", "prepend"], table "
600-605 6DD 70F 890-891 8E2 D4E 110BD 110CD 111C2-111C3 1193F 11941 11A3A 11A84-11A89 11D46 11F02"),
  (["sm", "spacingmark"], table "
903 93B 93E-940 949-94C 94E-94F 982-983 9BF-9C0 9C7-9C8 9CB-9CC A03 A3E-A40 A83 ABE-AC0 AC9
ACB-ACC B02-B03 B40 B47-B48 B4B-B4C BBF BC1-BC2 BC6-BC8 BCA-BCC C01-C03 C41-C44 C82-C83 CBE
CC0-CC1 CC3-CC4 CC7-CC8 CCA-CCB CF3 D02-D03 D3F-D40 D46-D48 D4A-D4C D82-D83 DD0-DD1 DD8-DDE
DF2-DF3 E33 EB3 F3E-F3F F7F 1031 103B-103C 1056-1057 1084 1715 1734 17B6 17BE-17C5 17C7-17C8
1923-1926 1929-192B 1930-1931 1933-1938 1A19-1A1A 1A55 1A57 1A6D-1A72 1B04 1B3B 1B3D-1B41
1B43-1B44 1B82 1BA1 1BA6-1BA7 1BAA 1BE7 1BEA-1BEC 1BEE 1BF2-1BF3 1C24-1C2B 1C34-1C35 1CE1 1CF7
A823-A824 A827 A880-A881 A8B4-A8C3 A952-A953 A983 A9B4-A9B5 A9BA-A9BB A9BE-A9C0 AA2F-AA30
AA33-AA34 AA4D AAEB AAEE-AAEF AAF5 ABE3-ABE4 ABE6-ABE7 ABE9-ABEA ABEC 11000 11002 11082
110B0-110B2 110B7-110B8 1112C 11145-11146 11182 111B3-111B5 111BF-111C0 111CE 1122C-1122E
11232-11233 11235 112E0-112E2 11302-11303 1133F 11341-11344 11347-11348 1134B-1134D 11362-11363
11435-11437 11440-11441 11445 114B1-114B2 114B9 114BB-114BC 114BE 114C1 115B0-115B1 115B8-115BB
115BE 11630-11632 1163B-1163C 1163E 116AC 116AE-116AF 116B6 11726 1182C-1182E 11838 11931-11935
11937-11938 1193D 11940 11942 119D1-119D3 119DC-119DF 119E4 11A39 11A57-11A58 11A97 11C2F 11C3E
11CA9 11CB1 11CB4 11D8A-11D8E 11D93-11D94 11D96 11EF5-11EF6 11F03 11F34-11F35 11F3E-11F3F 11F41
16F51-16F87 16FF0-16FF1 1D166 1D16D"),
  (["l"], table "1100-115F A960-A97C"),
  (["v"], table "1160-11A7 D7B0-D7C6"),
  (["t"], table "11A8-11FF D7CB-D7FB"),
  (["lv"], openSyllables),
  (["lvt"], (CharSet.mk [syllables]).diff openSyllables)]

/-! ### Words -/

def katakana : CharSet := table "
3031-3035 309B-309C 30A0-30FA 30FC-30FF 31F0-31FF 32D0-32FE 3300-3357 FF66-FF9D 1AFF0-1AFF3
1AFF5-1AFFB 1AFFD-1AFFE 1B000 1B120-1B122 1B155 1B164-1B167"

def hebrewLetters : CharSet := table "
5D0-5EA 5EF-5F2 FB1D FB1F-FB28 FB2A-FB36 FB38-FB3C FB3E FB40-FB41 FB43-FB44 FB46-FB4F"

/-- Letters of the scripts that are written without blanks between words. -/
def unspacedLetters : CharSet := table "
E01-E30 E32-E33 E40-E46 E81-E82 E84 E86-E8A E8C-EA3 EA5 EA7-EB0 EB2-EB3 EBD EC0-EC4 EC6 EDC-EDF
1000-102A 103F 1050-1055 105A-105D 1061 1065-1066 106E-1070 1075-1081 108E 1780-17B3 17D7 17DC
1950-196D 1970-1974 1980-19AB 19B0-19C9 1A20-1A54 1AA7 3041-3096 309D-309F A9E0-A9E4 A9E6-A9EF
A9FA-A9FE AA60-AA76 AA7A AA7E-AAAF AAB1 AAB5-AAB6 AAB9-AABD AAC0 AAC2 AADB-AADD 11700-1171A
11740-11746 1B001-1B11F 1B132 1B150-1B152"

/-- What counts as a letter although it is none. -/
def letterLike : CharSet := table "
2C2-2C5 2D2-2D7 2DE-2DF 2E5-2EB 2ED 2EF-2FF 55A-55C 55E 58A 5F3 A708-A716 A720-A721 A789-A78A AB5B"

def wordLetters : CharSet :=
  ((Property.set .alphabetic).diff (Property.listed .ideographic) |>.diff katakana
    |>.diff hebrewLetters |>.diff wordMarks |>.diff unspacedLetters).union letterLike

/-- Formatting characters that take part in dividing a text. -/
def formatting : CharSet :=
  ((Category.set .formatting).diff (table "200C 200D")).diff Property.graphemeExtendSet

def words : List (List String × CharSet) := lineEnds ++ [
  (["dq", "doublequote"], .single 0x22),
  (["sq", "singlequote"], .single 0x27),
  (["nl", "newline"], table "B-C 85 2028-2029"),
  (["extend"], wordMarks),
  (["zwj"], joiner), indicators,
  (["fo", "format"], formatting.diff (.single 0x200B)),
  (["ka", "katakana"], katakana),
  (["hl", "hebrewletter"], hebrewLetters),
  (["le", "aletter"], wordLetters),
  (["ml", "midletter"], table "3A B7 387 55F 5F4 2027 FE13 FE55 FF1A"),
  (["mn", "midnum"], table "2C 3B 37E 589 60C-60D 66C 7F8 2044 FE10 FE14 FE50 FE54 FF0C FF1B"),
  (["mb", "midnumlet"], table "2E 2018-2019 2024 FE52 FF07 FF0E"),
  (["nu", "numeric"], (Category.set .decimalNumber).union (.single 0x66B)),
  (["ex", "extendnumlet"], table "5F 202F 203F-2040 2054 FE33-FE34 FE4D-FE4F FF3F"),
  (["wsegspace"], table "20 1680 2000-2006 2008-200A 205F 3000")]

/-! ### Sentences -/

def stops : CharSet := table "2E 2024 FE52 FF0E"

def separators : CharSet := table "85 2028-2029"

def sentenceMarks : CharSet := marks.union joiner

def lowerLetters : CharSet :=
  (Property.lowercaseSet.diff Property.graphemeExtendSet).diff (table "10D0-10FA 10FD-10FF")

def upperLetters : CharSet :=
  (Property.uppercaseSet.union (Category.set .titlecaseLetter)).diff (table "1C90-1CBA 1CBD-1CBF")

def sentences : List (List String × CharSet) := lineEnds ++ [
  (["ex", "extend"], sentenceMarks),
  (["fo", "format"], formatting),
  (["se", "sep"], separators),
  (["sp", "sp"], (Property.listed .whiteSpace).diff (separators.union (table "A D"))),
  (["lo", "lower"], lowerLetters),
  (["up", "upper"], upperLetters),
  (["le", "oletter"], ((Property.set .alphabetic).union (.single 0x5F3)).diff
    (.unions [lowerLetters, upperLetters, sentenceMarks])),
  (["nu", "numeric"], (Category.set .decimalNumber).union (table "66B-66C")),
  (["at", "aterm"], stops),
  (["sc", "scontinue"], table "
2C-2D 3A 55D 60C-60D 7F8 1802 1808 2013-2014 3001 FE10-FE11 FE13 FE31-FE32 FE50-FE51 FE55 FE58
FE63 FF0C-FF0D FF1A FF64"),
  (["st", "sterm"], (Property.listed .sentenceTerminal).diff stops),
  (["cl", "close"], .unions [table "22 27 275B-2760 2E00-2E01 2E06-2E08 2E0B 1F676-1F678", Category.sets
    [.openPunctuation, .closePunctuation, .initialPunctuation, .finalPunctuation]])]

/-- The set of this name. -/
def ofName? (sets : List (List String × CharSet)) (name : String) : Option CharSet :=
  (sets.find? fun s => s.1.contains name).map (·.2)

end RingKeeper.Text.Break
