import ReleaseLines.Output.Files
import ReleaseLines.Proofs.Text.Pieces

namespace ReleaseLines

namespace Text

theorem length_pieces (p : Char → Bool) (cs : List Char) :
    (pieces p cs).length = cs.countP p + 1 := by
  induction cs with
  | nil => rfl
  | cons c rest ih =>
    cases hc : p c with
    | true => rw [pieces_cons_of_true _ hc, List.length_cons, ih, List.countP_cons_of_pos hc]
    | false =>
      obtain ⟨piece, others, hp, hcons⟩ := pieces_cons_of_false rest hc
      rw [hcons, List.length_cons, List.countP_cons_of_neg (by simp [hc]), ← ih, hp,
        List.length_cons]

theorem cut_append {c : Char} {before : List Char} (h : c ∉ before) (after : List Char) :
    cut c (before ++ c :: after) = (before, some after) := by
  have hbefore : ∀ d ∈ before, (d != c) = true := fun d hd =>
    bne_iff_ne.mpr (ne_of_mem_of_not_mem hd h)
  have hstop : (c :: after).takeWhile (· != c) = [] := List.takeWhile_cons_of_neg (by simp)
  rw [cut, dropWhile_run hbefore hstop, takeWhile_run hbefore hstop]

end Text

namespace Files

variable {files : Files} {name : String}

theorem content?_cons_self (content : String) :
    content? ((name, content) :: files) name = some content :=
  List.lookup_cons_self

theorem content?_cons_of_ne {own : String} (h : name ≠ own) (content : String) :
    content? ((own, content) :: files) name = files.content? name := by
  rw [content?, List.lookup_cons, beq_false_of_ne h]
  rfl

theorem content?_append_self (text : String) :
    (files.append name text).content? name = some ((files.content? name).getD "" ++ text) := by
  induction files with
  | nil => exact (content?_cons_self text).trans (by simp [content?])
  | cons file rest ih =>
    obtain ⟨own, content⟩ := file
    rw [append]
    by_cases h : name = own
    · subst h
      rw [if_pos (beq_self_eq_true name), content?_cons_self, content?_cons_self]
      rfl
    · rw [if_neg (by simpa using Ne.symm h), content?_cons_of_ne h, content?_cons_of_ne h, ih]

theorem content?_append_of_ne (text : String) {other : String} (h : other ≠ name) :
    (files.append name text).content? other = files.content? other := by
  induction files with
  | nil => exact content?_cons_of_ne h text
  | cons file rest ih =>
    obtain ⟨own, content⟩ := file
    rw [append]
    by_cases hown : own = name
    · subst hown
      rw [if_pos (beq_self_eq_true own), content?_cons_of_ne h, content?_cons_of_ne h]
    · rw [if_neg (by simpa using hown)]
      by_cases hother : other = own
      · subst hother
        rw [content?_cons_self, content?_cons_self]
      · rw [content?_cons_of_ne hother, content?_cons_of_ne hother, ih]

end Files

namespace Output

/-- The name in a line and its value, which is missing where no sign stands between the two. -/
def entry (line : List Char) : String × Option String :=
  let (name, value) := Text.cut '=' line
  (String.ofList name, value.map String.ofList)

/-- What the ended lines of an output file say. -/
def entries (content : String) : List (String × Option String) :=
  (Text.pieces (· == '\n') content.toList).dropLast.map entry

/-- Nothing, or lines that are all ended. -/
def IsEnded (content : String) : Prop := content = "" ∨ content.toList.getLast? = some '\n'

theorem entry_append {name : String} (h : '=' ∉ name.toList) (value : String) :
    entry (name.toList ++ '=' :: value.toList) = (name, some value) := by
  rw [entry, Text.cut_append h]
  simp

theorem isEnded_append_newline (content : String) : IsEnded (content ++ "\n") :=
  .inr (by simp)

theorem entries_append {before : String} (h : IsEnded before) (after : String) :
    entries (before ++ after) = entries before ++ entries after := by
  rcases h with rfl | h
  · rw [String.empty_append]
    rfl
  · obtain ⟨initial, hinitial⟩ := List.getLast?_eq_some_iff.mp h
    have hpieces (rest : List Char) : Text.pieces (· == '\n') (initial ++ '\n' :: rest) =
        Text.pieces (· == '\n') initial ++ Text.pieces (· == '\n') rest :=
      Text.pieces_append_separator initial rest (by rfl)
    simp only [entries, String.toList_append, hinitial, List.append_assoc, List.singleton_append,
      hpieces, List.dropLast_append_of_ne_nil (Text.pieces_ne_nil _ _), List.map_append]
    simp [Text.pieces]

theorem length_entries (content : String) :
    (entries content).length = content.toList.count '\n' := by
  rw [entries, List.length_map, List.length_dropLast, Text.length_pieces, Nat.add_sub_cancel]
  rfl

theorem entries_of_line {line : String} (h : '\n' ∉ line.toList) :
    entries (line ++ "\n") = [entry line.toList] := by
  have hline : ∀ c ∈ line.toList, (c == '\n') = false := fun c hc =>
    beq_false_of_ne (ne_of_mem_of_not_mem hc h)
  have hpieces : Text.pieces (· == '\n') (line ++ "\n").toList = [line.toList, []] := by
    rw [String.toList_append]
    exact (Text.pieces_append_separator line.toList [] (by rfl)).trans
      (by rw [Text.pieces_eq_singleton hline]; rfl)
  rw [entries, hpieces]
  rfl

end Output

end ReleaseLines
