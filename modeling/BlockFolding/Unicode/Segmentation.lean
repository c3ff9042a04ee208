import BlockFolding.Unicode.Binary
import BlockFolding.Unicode.Script

/-
  Text segments

  The classes by which text is cut into characters as a reader sees them, into words and into
  sentences. A class is defined, as the standard defines it, from other properties and a list of
  exceptions; the characters that no rule of a segmentation names are in none of its classes.
-/

namespace BlockFolding.Unicode

open Category Binary

def scriptChars (name : String) : CharSet := ((Script.find? name).map Script.Entry.chars).getD .empty

/-- Marks and modifiers that attach to the character before. -/
def attached : CharSet := graphemeExtend ∪ spacingMark ∪ emojiModifier

/-- The tag characters, which attach although they are format characters. -/
def tagCharacters : CharSet := .ofText "E0020-E007F"

/-! ## Characters as a reader sees them -/

namespace GraphemeBreak

/-- Hangul syllables without a final consonant. -/
def openSyllable : CharSet := .ofText "AC00-D788/1C"

/-- Hangul syllables with a final consonant. -/
def closedSyllable : CharSet := .ofText "AC00-D7A3" \ openSyllable

/-- Format characters that belong to the character after them. -/
def prepended : CharSet := .ofText
  "600-605 6DD 70F 890-891 8E2 D4E 110BD 110CD 111C2-111C3 113D1 1193F 11941 11A3A 11A84-11A89
   11D46 11F02"

/-- Controls that stand alone. -/
def control : CharSet :=
  ((lineSeparator ∪ paragraphSeparator ∪ Category.control ∪ format ∪
    (unassigned ∩ defaultIgnorable)) \ tagCharacters) \
    .ofText "A D 600-605 6DD 70F 890-891 8E2 200C-200D 110BD 110CD"

/-- Spacing marks that belong to the character before them. -/
def spacingMark : CharSet :=
  ((Category.spacingMark \ graphemeExtend) \
    .ofText "102B-102C 1038 1062-1064 1067-106D 1083 1087-108C 108F 109A-109C 1A61 1A63-1A64
      AA7B AA7D 11720-11721") ∪ .ofText "E33 EB3"

def table : List Named := [
  ⟨["cn", "control"], control⟩,
  ⟨["cr"], .ofText "D"⟩,
  ⟨["ex", "extend"], graphemeExtend ∪ emojiModifier⟩,
  ⟨["l"], .ofText "1100-115F A960-A97C"⟩,
  ⟨["lf"], .ofText "A"⟩,
  ⟨["lv"], openSyllable⟩,
  ⟨["lvt"], closedSyllable⟩,
  ⟨["pp", "prepend"], prepended⟩,
  ⟨["ri", "regionalindicator"], regionalIndicator⟩,
  ⟨["sm", "spacingmark"], spacingMark⟩,
  ⟨["t"], .ofText "11A8-11FF D7CB-D7FB"⟩,
  ⟨["v"], .ofText "1160-11A7 D7B0-D7C6 16D63 16D67-16D6A"⟩,
  ⟨["zwj"], .ofText "200D"⟩]

end GraphemeBreak

/-! ## Words -/

namespace WordBreak

/-- Katakana and the signs written among them. -/
def katakana : CharSet := scriptChars "katakana" ∪ .ofText "3031-3035 309B-309C 30A0 30FC FF70"

/-- Hebrew letters. -/
def hebrewLetter : CharSet := scriptChars "hebrew" ∩ otherLetter

/-- Letters of scripts that separate their words, and some signs that stand in words. -/
def letter : CharSet :=
  (((((alphabetic ∪
    .ofText "2C2-2C5 2D2-2D7 2DE-2DF 2E5-2EB 2ED 2EF-2FF 55A-55C 55E 58A 5F3 A708-A716 A720-A721
      A789-A78A AB5B") \ (ideographic ∪ katakana ∪ scriptChars "hiragana")) \ attached) \
    hebrewLetter) \
    .ofText "E01-E30 E32-E33 E40-E46 E81-E82 E84 E86-E8A E8C-EA3 EA5 EA7-EB0 EB2-EB3 EBD EC0-EC4
      EC6 EDC-EDF 1000-102A 103F 1050-1055 105A-105D 1061 1065-1066 106E-1070 1075-1081 108E
      1780-17B3 17D7 17DC 1950-196D 1970-1974 1980-19AB 19B0-19C9 1A20-1A54 1AA7 A9E0-A9E4
      A9E6-A9EF A9FA-A9FE AA60-AA76 AA7A AA7E-AAAF AAB1 AAB5-AAB6 AAB9-AABD AAC0 AAC2 AADB-AADD
      11700-1171A 11740-11746")

def table : List Named := [
  ⟨["cr"], .ofText "D"⟩,
  ⟨["dq", "doublequote"], .ofText "22"⟩,
  ⟨["ex", "extendnumlet"], connectorPunctuation ∪ .ofText "202F"⟩,
  ⟨["extend"], attached⟩,
  ⟨["fo", "format"], (format \ tagCharacters) \ .ofText "200B-200D"⟩,
  ⟨["hl", "hebrewletter"], hebrewLetter⟩,
  ⟨["ka", "katakana"], katakana⟩,
  ⟨["le", "aletter"], letter⟩,
  ⟨["lf"], .ofText "A"⟩,
  ⟨["mb", "midnumlet"], .ofText "2E 2018-2019 2024 FE52 FF07 FF0E"⟩,
  ⟨["ml", "midletter"], .ofText "3A B7 387 55F 5F4 2027 FE13 FE55 FF1A"⟩,
  ⟨["mn", "midnum"], .ofText
    "2C 3B 37E 589 60C-60D 66C 7F8 2044 FE10 FE14 FE50 FE54 FF0C FF1B"⟩,
  ⟨["nl", "newline"], .ofText "B-C 85 2028-2029"⟩,
  ⟨["nu", "numeric"], decimalNumber ∪ .ofText "66B"⟩,
  ⟨["ri", "regionalindicator"], regionalIndicator⟩,
  ⟨["sq", "singlequote"], .ofText "27"⟩,
  ⟨["wsegspace"], .ofText "20 1680 2000-2006 2008-200A 205F 3000"⟩,
  ⟨["zwj"], .ofText "200D"⟩]

end WordBreak

/-! ## Sentences -/

namespace SentenceBreak

/-- Full stops that may also end an abbreviation. -/
def fullStop : CharSet := .ofText "2E 2024 FE52 FF0E"

/-- Letters that open no sentence. -/
def lower : CharSet :=
  ((lowercase \ graphemeExtend) ∪ .ofText "295") \ .ofText "10D0-10FA 10FD-10FF"

/-- Letters that may open a sentence. -/
def upper : CharSet := (titlecaseLetter ∪ uppercase) \ .ofText "1C90-1CBA 1CBD-1CBF"

/-- Marks that attach to the character before, the joiner among them. -/
def extend : CharSet := graphemeExtend ∪ Category.spacingMark ∪ .ofText "200D"

def table : List Named := [
  ⟨["at", "aterm"], fullStop⟩,
  ⟨["cl", "close"],
    (openPunctuation ∪ closePunctuation ∪ initialPunctuation ∪ finalPunctuation ∪ quotationMark ∪
      .ofText "275B-2760 2E00-2E01 2E06-2E08 2E0B 1F676-1F678") \ .ofText "FF02 FF07"⟩,
  ⟨["cr"], .ofText "D"⟩,
  ⟨["ex", "extend"], extend⟩,
  ⟨["fo", "format"], (format \ tagCharacters) \ .ofText "200C-200D"⟩,
  ⟨["le", "oletter"], (((alphabetic ∪ .ofText "5F3") \ extend) \ lower) \ upper⟩,
  ⟨["lf"], .ofText "A"⟩,
  ⟨["lo", "lower"], lower⟩,
  ⟨["nu", "numeric"], decimalNumber ∪ .ofText "66B-66C"⟩,
  ⟨["sc", "scontinue"], .ofText
    "2C-2D 3A 55D 60C-60D 7F8 1802 1808 2013-2014 3001 FE10-FE11 FE13 FE31-FE32 FE50-FE51 FE55
     FE58 FE63 FF0C-FF0D FF1A FF64"⟩,
  ⟨["se", "sep"], .ofText "85 2028-2029"⟩,
  ⟨["sp"], whiteSpace \ .ofText "A D 85 2028-2029"⟩,
  ⟨["st", "sterm"], sentenceTerminal \ fullStop⟩,
  ⟨["up", "upper"], upper⟩]

end SentenceBreak

end BlockFolding.Unicode
