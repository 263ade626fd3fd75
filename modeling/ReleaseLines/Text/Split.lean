namespace ReleaseLines.Text

/-- The pieces of a text between the characters that satisfy `p`, empty ones included. -/
def pieces (p : Char → Bool) : List Char → List (List Char)
  | [] => [[]]
  | c :: rest =>
    if p c then [] :: pieces p rest
    else
      match pieces p rest with
      | [] => [[c]]
      | piece :: others => (c :: piece) :: others

theorem pieces_ne_nil (p : Char → Bool) (cs : List Char) : pieces p cs ≠ [] := by
  cases cs with
  | nil => simp [pieces]
  | cons c rest =>
    unfold pieces
    split
    · simp
    · split <;> simp

/-- The parts of a text before and after the first `c`; without a `c` all of it is before. -/
def cut (c : Char) (cs : List Char) : List Char × Option (List Char) :=
  match cs.dropWhile (· != c) with
  | _ :: after => (cs.takeWhile (· != c), some after)
  | [] => (cs, none)

/-- The part of a text after the last `c`; without a `c` all of it. -/
def afterLast (c : Char) (cs : List Char) : List Char := (pieces (· == c) cs).getLastD []

/-- The pieces of a text between commas. -/
def commaPieces (cs : List Char) : List (List Char) := pieces (· == ',') cs

/-- Joins texts with a comma and a space. -/
def listed (texts : List String) : String := String.intercalate ", " texts

/-- A character that ends a line. -/
def isLineBreak (c : Char) : Bool :=
  let n := c.toNat
  (0x0A ≤ n && n ≤ 0x0D) || (0x1C ≤ n && n ≤ 0x1E) || n == 0x85 || n == 0x2028 || n == 0x2029

/-- The lines of a text, without their ends. A pair of breaks gives an empty line between them. -/
def lines (cs : List Char) : List (List Char) := pieces isLineBreak cs

/-- Whether `part` occurs in `whole`. -/
def contains (part : List Char) : List Char → Bool
  | [] => part.isEmpty
  | c :: rest => part.isPrefixOf (c :: rest) || contains part rest

end ReleaseLines.Text
