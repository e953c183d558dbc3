/-!
# Faults of charsets

There are two ways in which bytes can fail to be text in a charset. Most charsets only have the
first; the difference matters because bytes that are no text can still be taken for Latin-1.
-/

namespace MediaDepot.Text

/-- Why bytes cannot be read in a charset. -/
inductive CharsetFault where
  /-- They are no text in this charset, but may be one in another. -/
  | noText
  /-- Reading them breaks off. -/
  | broken
  deriving DecidableEq, Repr, Inhabited

end MediaDepot.Text
