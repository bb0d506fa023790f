import DatasetSchema.Text.Ranges

/-!
# White space

The Unicode property White_Space: blanks of every width, line ends and page ends.
-/

namespace DatasetSchema.Text

/-- The code points with the property White_Space, in increasing order. -/
def whiteSpaceRanges : List (Nat × Nat) :=
  [(9, 13), (32, 32), (133, 133), (160, 160), (5760, 5760), (8192, 8202), (8232, 8233),
   (8239, 8239), (8287, 8287), (12288, 12288)]

/-- Whether `c` has the property White_Space. -/
def isWhiteSpace (c : Char) : Bool :=
  inRanges whiteSpaceRanges c

/-- The text without its white space. -/
def stripWhiteSpace (s : String) : String :=
  String.ofList (s.toList.filter fun c => !isWhiteSpace c)

end DatasetSchema.Text
