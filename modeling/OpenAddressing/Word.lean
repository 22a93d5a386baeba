/-!
# Words and powers of two

The numbers of slots and of bytes are powers of two, and the numbers of the machine are kept in
words whose range is one. `fit?` checks that a number is in the range of a word.
-/

namespace OpenAddressing

-- Powers of natural numbers are the built-in ones in all that follows, whatever else is imported.
attribute [instance(high)] instPowNat

/-- The number, if it fits into a word of so many bits. -/
def fit? (bits n : Nat) : Option Nat :=
  if n < 2 ^ bits then some n else none

theorem fit?_eq_some {bits n : Nat} (h : n < 2 ^ bits) :
  fit? bits n = some n
  := if_pos h

end OpenAddressing
