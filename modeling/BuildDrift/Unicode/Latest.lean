import BuildDrift.Unicode.CharProperty

/-!
# The latest version of the character database

Classes in patterns go by version 16.0 of the character database. The names of groups and the
listing of constants go by version 17.0, which has added characters and has left the properties
that matter there as they were for all others.

## Main definitions

* `Latest.added`: the characters that version 17.0 has added.
* `Latest.alphabetic`, `alphanumeric`: letters, and letters and numbers.
* `Latest.invisible`: the characters that leave no mark of their own on a page.
-/

namespace BuildDrift.Latest

open CodePointSet GeneralCategory

/-! ### What the version has added -/

/-- The characters that version 17.0 has added. -/
def added : CodePointSet :=
  .ofLines
    ["88F C5C CDC 1ACF-1ADD 1AE0-1AEB 20C1 2B96 A7CE-A7CF A7D2 A7D4 A7F1 FBC3-FBD2 FD90-FD91",
     "FDC8-FDCE 10940-10959 10EC5-10EC7 10ED0-10ED8 10EFA-10EFB 11B60-11B67 11DB0-11DDB",
     "11DE0-11DE9 16EA0-16EB8 16EBB-16ED3 16FF2-16FF6 187F8-187FF 18D09-18D1E 18D80-18DF2",
     "1CCFA-1CCFC 1CEBA-1CED0 1CEE0-1CEF0 1E6C0-1E6DE 1E6E0-1E6F5 1E6FE-1E6FF 1F6D8 1F777-1F77A",
     "1F8D0-1F8D8 1FA54-1FA57 1FA8A 1FA8E 1FAC8 1FACD 1FAEA 1FAEF 1FBFA 2B73A-2B73F 2CEA2-2CEAD",
     "323B0-33479"]

/-- The alphabetic ones among the added characters. -/
def addedAlphabetic : CodePointSet :=
  .ofLines
    ["88F C5C CDC A7CE-A7CF A7D2 A7D4 A7F1 10940-10959 10EC5-10EC7 10EFA-10EFB 11B60-11B67",
     "11DB0-11DDB 16EA0-16EB8 16EBB-16ED3 16FF2-16FF6 187F8-187FF 18D09-18D1E 18D80-18DF2",
     "1E6C0-1E6DE 1E6E0-1E6F5 1E6FE-1E6FF 2B73A-2B73F 2CEA2-2CEAD 323B0-33479"]

/-- The numbers among the added characters. -/
def addedNumber : CodePointSet :=
  .ofLines
    ["11DE0-11DE9 16FF4-16FF6"]

/-- The grapheme extending ones among the added characters. -/
def addedGraphemeExtend : CodePointSet :=
  .ofLines
    ["1ACF-1ADD 1AE0-1AEB 10EFA-10EFB 11B60 11B62-11B64 11B66 1E6E3 1E6E6 1E6EE-1E6EF 1E6F5"]

/-! ### Classes of the version -/

/-- Alphabetic characters. -/
def alphabetic : CodePointSet :=
  CharProperty.alphabetic.union addedAlphabetic

/-- Letters and numbers of every kind. -/
def alphanumeric : CodePointSet :=
  unions [alphabetic, number, addedNumber]

/-- Characters that join the one before them, the halfwidth sound marks of Katakana excepted, which
take up a place of their own. -/
def joining : CodePointSet :=
  (unions [CharProperty.graphemeExtend, addedGraphemeExtend]).diff (range 0xFF9E 0xFF9F)

/-- Code points that stand for nothing on a page or for no character: controls and format
characters, separators other than the space, and what is unassigned. -/
def unprintable : CodePointSet :=
  (unions [other, separator]).diff (unions [single ' ', added])

/-- Characters that leave no mark of their own on a page. -/
def invisible : CodePointSet :=
  unions [joining, CharProperty.defaultIgnorableCodePoint, unprintable]

end BuildDrift.Latest
