import BuildDrift.Unicode.CharProperty
import BuildDrift.Unicode.Script

/-!
# Classes of characters at text boundaries

Texts are divided into user-perceived characters, words and sentences by rules on classes of
characters. There is one family of classes for each of the three divisions. The classes are derived
from other properties and short lists of characters.

## Main definitions

* `Boundary.graphemeClass?`: the classes for user-perceived characters, by name in lower case.
* `Boundary.wordClass?`: the classes for words.
* `Boundary.sentenceClass?`: the classes for sentences.
-/

namespace BuildDrift.Boundary

open CodePointSet GeneralCategory CharProperty

/-- Classes by their names. -/
abbrev Classes := List (List String × (Unit → CodePointSet))

/-- The class with the given name. -/
def Classes.find? (classes : Classes) (name : String) : Option CodePointSet :=
  (List.find? (fun entry => entry.1.contains name) classes).map fun entry => entry.2 ()

/-- The characters of some scripts. -/
def ofScripts (names : List String) : CodePointSet :=
  unions (names.filterMap Script.find?)

/-- The carriage return. -/
def carriageReturn : CodePointSet := single '\r'

/-- The line feed. -/
def lineFeed : CodePointSet := single '\n'

/-- The joiner of emoji. -/
def zeroWidthJoiner : CodePointSet := range 0x200D 0x200D

/-- The signs that are written around a number that follows them. -/
def numberSign : CodePointSet :=
  .ofLines ["600-605 6DD 890-891 8E2 110BD 110CD"]

/-! ### User-perceived characters -/

/-- Characters that join the one behind them. -/
def graphemePrepend : CodePointSet :=
  numberSign.union (.ofLines
    ["70F D4E 111C2-111C3 113D1 1193F 11941 11A3A 11A84-11A89 11D46 11F02"])

/-- Characters that join the one before them. -/
def graphemeExtension : CodePointSet :=
  graphemeExtend.union emojiModifier

/-- Controls, the ends of lines apart. -/
def graphemeControl : CodePointSet :=
  (unions [control, format, lineSeparator, paragraphSeparator,
    unassigned.inter defaultIgnorableCodePoint]).diff
    (unions [carriageReturn, lineFeed, joinControl, graphemePrepend, graphemeExtension])

/-- Spacing marks that join the character before them. -/
def graphemeSpacingMark : CodePointSet :=
  (spacingMark.union (.ofLines ["E33 EB3"])).diff (graphemeExtension.union (.ofLines
    ["102B-102C 1038 1062-1064 1067-106D 1083 1087-108C 108F 109A-109C 1A61 1A63-1A64 AA7B AA7D",
     "11720-11721"]))

/-- Syllables of a leading consonant and a vowel: every twenty-eighth of the syllables. -/
def syllableLV : CodePointSet :=
  ⟨(List.range 399).map fun i => (0xAC00 + 28 * i, 0xAC00 + 28 * i)⟩

/-- The classes for user-perceived characters. -/
def graphemeClasses : Classes := [
  (["cn", "control"], fun _ => graphemeControl),
  (["cr"], fun _ => carriageReturn),
  (["ex", "extend"], fun _ => graphemeExtension),
  (["l"], fun _ => .ofLines ["1100-115F A960-A97C"]),
  (["lf"], fun _ => lineFeed),
  (["lv"], fun _ => syllableLV),
  (["lvt"], fun _ => (range 0xAC00 0xD7A3).diff syllableLV),
  (["pp", "prepend"], fun _ => graphemePrepend),
  (["ri", "regionalindicator"], fun _ => regionalIndicator),
  (["sm", "spacingmark"], fun _ => graphemeSpacingMark),
  (["t"], fun _ => .ofLines ["11A8-11FF D7CB-D7FB"]),
  (["v"], fun _ => .ofLines ["1160-11A7 D7B0-D7C6 16D63 16D67-16D6A"]),
  (["zwj"], fun _ => zeroWidthJoiner)]

/-- The class for user-perceived characters with the given name. -/
def graphemeClass? (name : String) : Option CodePointSet :=
  graphemeClasses.find? name

/-! ### Words -/

/-- Characters that join the word before them. -/
def wordExtension : CodePointSet :=
  (unions [graphemeExtend, spacingMark, emojiModifier]).diff zeroWidthJoiner

/-- Format characters inside words. -/
def wordFormat : CodePointSet :=
  format.diff (unions [range 0x200B 0x200D, wordExtension, graphemePrepend])

/-- Letters of Hebrew. -/
def hebrewLetter : CodePointSet :=
  (ofScripts ["hebr"]).inter otherLetter

/-- Letters of Katakana and what is used like one. -/
def katakana : CodePointSet :=
  (ofScripts ["kana"]).union (.ofLines ["3031-3035 309B-309C 30A0 30FC FF70"])

/-- Scripts whose words are not set apart by spaces. -/
def unspaced : CodePointSet :=
  ofScripts ["hira", "thai", "laoo", "khmr", "mymr", "tale", "talu", "lana", "tavt", "ahom"]

/-- Letters of words that are set apart by spaces. -/
def wordLetter : CodePointSet :=
  (alphabetic.diff (unions
    [ideographic, unspaced, katakana, hebrewLetter, wordExtension])).union (.ofLines
      ["2C2-2C5 2D2-2D7 2DE-2DF 2E5-2EB 2ED 2EF-2FF 55A-55C 55E 58A 5F3 70F A708-A716",
       "A720-A721 A789-A78A AB5B"])

/-- The classes for words. -/
def wordClasses : Classes := [
  (["le", "aletter"], fun _ => wordLetter),
  (["cr"], fun _ => carriageReturn),
  (["dq", "doublequote"], fun _ => single '"'),
  (["extend"], fun _ => wordExtension),
  (["ex", "extendnumlet"], fun _ =>
    .ofLines ["5F 202F 203F-2040 2054 FE33-FE34 FE4D-FE4F FF3F"]),
  (["fo", "format"], fun _ => wordFormat),
  (["hl", "hebrewletter"], fun _ => hebrewLetter),
  (["ka", "katakana"], fun _ => katakana),
  (["lf"], fun _ => lineFeed),
  (["ml", "midletter"], fun _ => .ofLines ["3A B7 387 55F 5F4 2027 FE13 FE55 FF1A"]),
  (["mn", "midnum"], fun _ =>
    .ofLines ["2C 3B 37E 589 60C-60D 66C 7F8 2044 FE50 FE54 FF0C FF1B"]),
  (["mb", "midnumlet"], fun _ => .ofLines ["2E 2018-2019 2024 FE52 FF07 FF0E"]),
  (["nl", "newline"], fun _ => .ofLines ["B-C 85 2028-2029"]),
  (["nu", "numeric"], fun _ => unions [decimalNumber, numberSign, .ofLines ["66B 19DA"]]),
  (["ri", "regionalindicator"], fun _ => regionalIndicator),
  (["sq", "singlequote"], fun _ => range 0x27 0x27),
  (["wsegspace"], fun _ => spaceSeparator.diff (.ofLines ["A0 2007 202F"])),
  (["zwj"], fun _ => zeroWidthJoiner)]

/-- The class for words with the given name. -/
def wordClass? (name : String) : Option CodePointSet :=
  wordClasses.find? name

/-! ### Sentences -/

/-- Characters that join the sentence before them. -/
def sentenceExtension : CodePointSet :=
  unions [graphemeExtend, spacingMark, zeroWidthJoiner]

/-- Ends of paragraphs, carriage return and line feed apart. -/
def sentenceSeparator : CodePointSet := .ofLines ["85 2028-2029"]

/-- Full stops, which need not end a sentence. -/
def fullStop : CodePointSet := .ofLines ["2E 2024 FE52 FF0E"]

/-- Letters in lower case. -/
def sentenceLower : CodePointSet :=
  lowercase.diff (sentenceExtension.union (.ofLines ["10D0-10FA 10FD-10FF"]))

/-- Letters in upper case or title case. -/
def sentenceUpper : CodePointSet :=
  (titlecaseLetter.union uppercase).diff (.ofLines ["1C90-1CBA 1CBD-1CBF"])

/-- The classes for sentences. -/
def sentenceClasses : Classes := [
  (["at", "aterm"], fun _ => fullStop),
  (["cl", "close"], fun _ =>
    unions [openPunctuation, closePunctuation, initialPunctuation, finalPunctuation,
      .ofLines ["22 27 275B-2760 2E00-2E01 2E06-2E08 2E0B 1F676-1F678"]]),
  (["cr"], fun _ => carriageReturn),
  (["ex", "extend"], fun _ => sentenceExtension),
  (["fo", "format"], fun _ => format.diff (unions [joinControl, sentenceExtension, numberSign])),
  (["lf"], fun _ => lineFeed),
  (["lo", "lower"], fun _ => sentenceLower),
  (["nu", "numeric"], fun _ => unions [decimalNumber, numberSign, .ofLines ["66B-66C 19DA"]]),
  (["le", "oletter"], fun _ =>
    (alphabetic.union (.ofLines ["5F3"])).diff
      (unions [sentenceLower, sentenceUpper, sentenceExtension])),
  (["sc", "scontinue"], fun _ => .ofLines
    ["2C-2D 3A-3B 37E 55D 60C-60D 7F8 1802 1808 2013-2014 3001 FE10-FE11 FE13-FE14 FE31-FE32",
     "FE50-FE51 FE54-FE55 FE58 FE63 FF0C-FF0D FF1A-FF1B FF64"]),
  (["se", "sep"], fun _ => sentenceSeparator),
  (["sp"], fun _ => whiteSpace.diff (unions [sentenceSeparator, carriageReturn, lineFeed])),
  (["st", "sterm"], fun _ => sentenceTerminal.diff fullStop),
  (["up", "upper"], fun _ => sentenceUpper)]

/-- The class for sentences with the given name. -/
def sentenceClass? (name : String) : Option CodePointSet :=
  sentenceClasses.find? name

end BuildDrift.Boundary
