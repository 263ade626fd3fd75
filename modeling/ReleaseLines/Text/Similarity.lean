namespace ReleaseLines.Text

/-- How many characters two texts share at their beginnings. -/
def sharedStart : List Char → List Char → Nat
  | a :: as, b :: bs => if a == b then sharedStart as bs + 1 else 0
  | _, _ => 0

theorem sharedStart_le (as bs : List Char) : sharedStart as bs ≤ as.length := by
  fun_induction sharedStart as bs with
  | case1 a as b bs h ih => simpa using ih
  | case2 => exact Nat.zero_le _
  | case3 => exact Nat.zero_le _

/-- A part that two texts share, by where it begins in each of them. -/
structure SharedPart where
  first : Nat
  second : Nat
  size : Nat

namespace SharedPart

/-- The longer of two parts; of equal ones the first. -/
def longer (a b : SharedPart) : SharedPart := if a.size < b.size then b else a

/-- Whether a part ends within a text where it is said to begin. -/
def Fits (part : SharedPart) (as : List Char) : Prop := part.first + part.size ≤ as.length

theorem longer_fits {as : List Char} {a b : SharedPart} (ha : a.Fits as) (hb : b.Fits as) :
    (a.longer b).Fits as := by
  unfold longer
  split
  · exact hb
  · exact ha

end SharedPart

/-- The shared parts at every pair of places, in the order of the first text, then the second. -/
def sharedParts (as bs : List Char) : List SharedPart :=
  (List.range as.length).flatMap fun i =>
    (List.range bs.length).map fun j => ⟨i, j, sharedStart (as.drop i) (bs.drop j)⟩

theorem sharedParts_fit {as bs : List Char} {part : SharedPart} (h : part ∈ sharedParts as bs) :
    part.Fits as := by
  simp only [sharedParts, List.mem_flatMap, List.mem_range, List.mem_map] at h
  obtain ⟨i, hi, j, _, rfl⟩ := h
  have hs := sharedStart_le (as.drop i) (bs.drop j)
  rw [List.length_drop] at hs
  show i + sharedStart (as.drop i) (bs.drop j) ≤ as.length
  omega

/-- The longest shared part; of several the earliest. -/
def longestShared (as bs : List Char) : SharedPart :=
  (sharedParts as bs).foldl SharedPart.longer ⟨0, 0, 0⟩

theorem foldl_longer_fits {as : List Char} {parts : List SharedPart} {best : SharedPart}
    (hp : ∀ part ∈ parts, part.Fits as) (hb : best.Fits as) :
    (parts.foldl SharedPart.longer best).Fits as := by
  induction parts generalizing best with
  | nil => exact hb
  | cons part parts ih =>
    rw [List.forall_mem_cons] at hp
    exact ih hp.2 (SharedPart.longer_fits hb hp.1)

theorem longestShared_fits (as bs : List Char) : (longestShared as bs).Fits as :=
  foldl_longer_fits (fun _ hp => sharedParts_fit hp) (Nat.zero_le _)

/-- How many characters two texts share: those of the longest shared part, and likewise before it
and after it. -/
def sharedSize (as bs : List Char) : Nat :=
  let part := longestShared as bs
  if 0 < part.size then
    sharedSize (as.take part.first) (bs.take part.second) + part.size +
      sharedSize (as.drop (part.first + part.size)) (bs.drop (part.second + part.size))
  else 0
termination_by as.length
decreasing_by
  all_goals
    have hf : (longestShared as bs).first + (longestShared as bs).size ≤ as.length :=
      longestShared_fits as bs
    have hs : 0 < (longestShared as bs).size := by assumption
    simp only [List.length_take, List.length_drop]
    omega

/-- A word of a list with how many characters it shares with a text and how many both have. -/
structure Likeness where
  word : String
  shared : Nat
  total : Nat

namespace Likeness

/-- How like a text a word is. Texts of very different lengths are not compared, for they are not
close whatever they share. -/
def measure (text word : String) : Likeness :=
  let total := text.length + word.length
  if 10 * min text.length word.length < 3 * total then ⟨word, 0, total⟩
  else ⟨word, sharedSize word.toList text.toList, total⟩

/-- At least six tenths of the characters of both are shared. -/
def isClose (a : Likeness) : Bool := 3 * a.total ≤ 10 * a.shared

/-- Whether one word is as like the text as another; of two that are equally like it the later in
the alphabet is preferred. -/
def atLeast (a b : Likeness) : Bool :=
  let (x, y) := (a.shared * b.total, b.shared * a.total)
  y < x || (x == y && b.word ≤ a.word)

end Likeness

/-- The words that are close to a text, the three closest at most, in the order of the alphabet. -/
def closeWords (words : List String) (text : String) : List String :=
  let close := (words.map (Likeness.measure text)).filter Likeness.isClose
  ((close.mergeSort Likeness.atLeast).take 3).map (·.word) |>.mergeSort (· ≤ ·)

end ReleaseLines.Text
