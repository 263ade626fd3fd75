namespace ReleaseLines

/-- Where the text of a column stands. -/
inductive Alignment
  | left
  | right
  deriving DecidableEq, Repr

structure Column where
  heading : String
  style : String
  alignment : Alignment
  deriving DecidableEq, Repr

/-- A table of cells in markup. -/
structure Table where
  title : String
  columns : List Column
  rows : List (List String)
  deriving DecidableEq, Repr

namespace Column

def plain (heading : String) : Column := ⟨heading, "", .left⟩

def styled (heading style : String) : Column := ⟨heading, style, .left⟩

end Column

end ReleaseLines
