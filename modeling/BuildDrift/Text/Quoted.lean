import BuildDrift.Unicode.Latest

/-!
# Quoted text

A string constant is listed between double quotes, with escapes for everything that a reader
could not see or could take for the end of the constant: the quote and the backslash, control
characters, characters that leave no mark, and characters that would join the one before.

## Main definitions

* `Quoted.escape`: how one character is written.
* `Quoted.render`: the text between quotes.
-/

namespace BuildDrift.Quoted

/-- Whether a character is written by its number. -/
def isHidden (c : Char) : Bool :=
  !(' ' ≤ c && c ≤ '~') && Latest.invisible.contains c

/-- How one character is written inside quotes. -/
def escape (c : Char) : List Char :=
  if c = '"' ∨ c = '\\' then ['\\', c]
  else if c = '\n' then ['\\', 'n']
  else if c = '\r' then ['\\', 'r']
  else if c = '\t' then ['\\', 't']
  else if c = '\x00' then ['\\', '0']
  else if isHidden c then '\\' :: 'u' :: '\x7b' :: (Hex.digits c.toNat ++ ['\x7d'])
  else [c]

/-- The text between double quotes. -/
def render (s : String) : String :=
  String.ofList ('"' :: (s.toList.flatMap escape ++ ['"']))

end BuildDrift.Quoted
