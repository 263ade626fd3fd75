import ReleaseLines.Console.Annotation
import ReleaseLines.Console.Report
import ReleaseLines.Interpreter.Check
import ReleaseLines.Proofs.Calendar.Characters
import ReleaseLines.Proofs.Console.Escape
import ReleaseLines.Proofs.Except

namespace ReleaseLines

open Markup

theorem Feed.Entry.isInert_describe (entry : Feed.Entry) (today : Date) :
    IsInert (entry.describe today) := by
  unfold describe
  split
  · exact isInert_of_plain (by simp)
  next published _ =>
    split
    · exact isInert_of_plain (by simp)
    next ending hread =>
      -- The text of the date is shown as published, so it matters what can be read as a date.
      have hinert : IsInert published := by
        refine isInert_of_plain fun c hc => ?_
        have hcharacter := Date.isCharacter_of_read? hread c hc
        constructor
        · rintro rfl
          revert hcharacter
          decide
        · rintro rfl
          revert hcharacter
          decide
      split
      · exact (isInert_append_iff (by simp)).mpr hinert
      · exact (isInert_append_iff (by simp)).mpr hinert
  · split
    · exact isInert_of_plain (by simp)
    · exact isInert_of_plain (by simp)

/-- What a cell is meant to show: markup of the program itself, or a text that it was given, in a
style or in none. -/
inductive Cell
  | own (markup : String)
  | given (text : String)
  | inStyle (style text : String)

namespace Cell

/-- The markup that shows a cell, the texts in it escaped. -/
def shown : Cell → String
  | own markup => markup
  | given text => escape text
  | inStyle style text => styled style (escape text)

/-- The markup of a cell with the texts in it as they are. -/
def bare : Cell → String
  | own markup => markup
  | given text => text
  | inStyle style text => styled style text

theorem given_bare_eq_shown_iff {text : String} :
    (given text).bare = (given text).shown ↔ IsInert text :=
  eq_comm.trans escape_eq_self_iff

theorem inStyle_bare_eq_shown (style : String) {text : String} (h : IsInert text) :
    (inStyle style text).bare = (inStyle style text).shown := by
  rw [bare, shown, escape_eq_self_iff.mpr h]

end Cell

/-- The message of an annotation stands, escaped, behind what does not depend on it. -/
theorem Annotation.markup_eq (a : Annotation) :
    a.markup = { a with message := "" }.markup ++ escape a.message := by
  have hempty : escape "" = "" := escape_eq_self_iff.mpr (isInert_of_plain (by simp))
  rw [markup, markup, hempty, String.append_empty]
  rfl

namespace Interpreter

def cells (i : Interpreter) : List Cell :=
  [.given i.command,
   .own (if i.isAvailable then styled "success" "yes" else styled "warning" "no"),
   .given (cell i.version),
   .given (cell i.path)]

theorem isInert_command_iff (i : Interpreter) : IsInert i.command ↔ IsInert i.line :=
  isInert_append_iff (by simp)

theorem row_eq (i : Interpreter) :
    row i = (Cell.given i.command).bare :: i.cells.tail.map Cell.shown := rfl

theorem row_eq_shown_iff (i : Interpreter) : row i = i.cells.map Cell.shown ↔ IsInert i.line := by
  rw [← isInert_command_iff, ← Cell.given_bare_eq_shown_iff, row_eq]
  exact ⟨fun h => (List.cons.inj h).1, fun h => by rw [h]; rfl⟩

end Interpreter

namespace Report

open Feed

def summaryCells (field : String × Json) : List Cell := [.own field.1, .given field.2.display]

theorem summary?_rows {title : String} {fields : List (String × Json)} {complete : Bool}
    {table : Table} (h : summary? title fields complete = some table) :
    table.rows = (if complete then fields else fields.filter (·.2.isTelling)).map
      fun field => (summaryCells field).map Cell.shown := by
  simp only [summary?, Option.ite_none_left_eq_some, Option.some.injEq] at h
  rw [← h.2]
  rfl

/-- The cell of a latest patch: a hyphen where there is none. -/
def latestCell (patch : Json) : Cell :=
  if patch.isTelling then .given patch.display else .own "-"

def lineCells (catalog : Catalog) (today : Date) (line : String) : List Cell :=
  match catalog.find? line with
  | none => [.given line, .own "-", .own (styled "info" "fallback list")]
  | some entry =>
    let status := entry.describe today
    let style := if "EOL".toList.isPrefixOf status.toList then "eol" else "supported"
    [.given line, latestCell entry.latestPatch, .inStyle style status]

/-- A latest patch that can be shown is a text or says nothing. -/
def IsShowable (patch : Json) : Prop := patch.isTelling = true → ∃ text, patch = .str text

theorem exists_patchCell_iff {patch : Json} :
    (∃ cell, patchCell patch = .ok cell) ↔ IsShowable patch := by
  unfold patchCell IsShowable
  cases htelling : patch.isTelling with
  | false => exact iff_of_true ⟨"-", rfl⟩ nofun
  | true => cases patch <;> simp

theorem latestCell_of_not_telling {patch : Json} (h : patch.isTelling = false) :
    latestCell patch = .own "-" := by
  rw [latestCell, h]
  rfl

theorem latestCell_of_telling {text : String} (h : (Json.str text).isTelling = true) :
    latestCell (.str text) = .given text := by
  rw [latestCell, h]
  rfl

theorem patchCell_eq {patch : Json} (h : IsShowable patch) :
    patchCell patch = .ok (latestCell patch).bare := by
  unfold patchCell
  cases htelling : patch.isTelling with
  | false =>
    rw [latestCell_of_not_telling htelling]
    rfl
  | true =>
    obtain ⟨text, rfl⟩ := h htelling
    rw [latestCell_of_telling htelling]
    rfl

theorem latestCell_bare_eq_shown_iff {patch : Json} (h : IsShowable patch) :
    (latestCell patch).bare = (latestCell patch).shown ↔
      ∀ text, patch = .str text → IsInert text := by
  cases htelling : patch.isTelling with
  | false =>
    rw [latestCell_of_not_telling htelling]
    refine iff_of_true rfl ?_
    rintro text rfl
    have hempty : text = "" := by simpa [Json.isTelling] using htelling
    rw [hempty]
    exact isInert_of_plain (by simp)
  | true =>
    obtain ⟨text, rfl⟩ := h htelling
    rw [latestCell_of_telling htelling, Cell.given_bare_eq_shown_iff]
    simp

theorem matrixRow_of_found {catalog : Catalog} (today : Date) {line : String} {entry : Entry}
    (h : catalog.find? line = some entry) :
    ∃ style, lineCells catalog today line =
        [.given line, latestCell entry.latestPatch, .inStyle style (entry.describe today)] ∧
      matrixRow catalog today line = (patchCell entry.latestPatch).map fun patch =>
        [line, patch, styled style (entry.describe today)] := by
  refine ⟨_, by rw [lineCells, h], ?_⟩
  rw [matrixRow, h]
  rfl

theorem exists_matrixRow_iff {catalog : Catalog} {today : Date} {line : String} :
    (∃ row, matrixRow catalog today line = .ok row) ↔
      ∀ entry, catalog.find? line = some entry → IsShowable entry.latestPatch := by
  cases hfind : catalog.find? line with
  | none => exact iff_of_true ⟨_, by rw [matrixRow, hfind]⟩ nofun
  | some entry =>
    obtain ⟨style, _, hrow⟩ := matrixRow_of_found today hfind
    simp only [hrow, Option.some.injEq, forall_eq', ← exists_patchCell_iff]
    constructor
    · rintro ⟨row, h⟩
      obtain ⟨cell, hcell, _⟩ := except_map_eq_ok_iff.mp h
      exact ⟨cell, hcell⟩
    · rintro ⟨cell, hcell⟩
      exact ⟨_, by rw [hcell]; rfl⟩

variable {catalog : Catalog} {line : String}

theorem matrixRow_eq (today : Date)
    (h : ∀ entry, catalog.find? line = some entry → IsShowable entry.latestPatch) :
    matrixRow catalog today line = .ok ((lineCells catalog today line).map Cell.bare) := by
  cases hfind : catalog.find? line with
  | none =>
    rw [matrixRow, lineCells, hfind]
    rfl
  | some entry =>
    obtain ⟨style, hcells, hrow⟩ := matrixRow_of_found today hfind
    rw [hrow, hcells, patchCell_eq (h entry hfind)]
    rfl

theorem lineCells_bare_eq_shown_iff (today : Date)
    (h : ∀ entry, catalog.find? line = some entry → IsShowable entry.latestPatch) :
    (lineCells catalog today line).map Cell.bare = (lineCells catalog today line).map Cell.shown ↔
      IsInert line ∧ ∀ entry, catalog.find? line = some entry →
        ∀ text, entry.latestPatch = .str text → IsInert text := by
  cases hfind : catalog.find? line with
  | none =>
    rw [lineCells, hfind, ← Cell.given_bare_eq_shown_iff]
    simp [Cell.bare, Cell.shown]
  | some entry =>
    obtain ⟨style, hcells, _⟩ := matrixRow_of_found today hfind
    have hstatus := Cell.inStyle_bare_eq_shown style (entry.isInert_describe today)
    have hpatch := latestCell_bare_eq_shown_iff (h entry hfind)
    rw [hcells, ← Cell.given_bare_eq_shown_iff]
    simp [hstatus, hpatch]

theorem exists_matrixTable_iff {title : String} {lines : List String} {today : Date} :
    (∃ table, matrixTable title lines catalog today = .ok table) ↔
      ∀ line ∈ lines, ∀ entry, catalog.find? line = some entry → IsShowable entry.latestPatch := by
  constructor
  · rintro ⟨table, h⟩ line hline
    obtain ⟨rows, hrows, _⟩ := except_bind_eq_ok_iff.mp h
    exact exists_matrixRow_iff.mp (exists_eq_ok_of_mem hrows hline)
  · intro h
    obtain ⟨rows, hrows⟩ := exists_mapM_eq_ok fun line hline =>
      exists_matrixRow_iff.mpr (h line hline)
    exact ⟨_, except_bind_eq_ok_iff.mpr ⟨rows, hrows, rfl⟩⟩

theorem matrixTable_rows {title : String} {lines : List String} {today : Date} {table : Table}
    (h : matrixTable title lines catalog today = .ok table) :
    table.rows = lines.map fun line => (lineCells catalog today line).map Cell.bare := by
  have hshowable := exists_matrixTable_iff.mp ⟨table, h⟩
  obtain ⟨rows, hrows, heq⟩ := except_bind_eq_ok_iff.mp h
  obtain rfl := Except.ok.inj heq
  have hbare := mapM_eq_ok_map_iff.mpr fun line hline => matrixRow_eq today (hshowable line hline)
  exact Except.ok.inj (hrows.symm.trans hbare)

theorem matrixTable_rows_eq_iff {title : String} {lines : List String} {today : Date}
    {table : Table} (h : matrixTable title lines catalog today = .ok table) :
    table.rows = lines.map (fun line => (lineCells catalog today line).map Cell.shown) ↔
      ∀ line ∈ lines, IsInert line ∧ ∀ entry, catalog.find? line = some entry →
        ∀ text, entry.latestPatch = .str text → IsInert text := by
  have hshowable := exists_matrixTable_iff.mp ⟨table, h⟩
  rw [matrixTable_rows h, List.map_inj_left]
  exact forall₂_congr fun line hline => lineCells_bare_eq_shown_iff today (hshowable line hline)

/-- What becomes of texts from outside where they are shown. A cell that is shown as it is, rather
than escaped, comes to the same if and only if nothing in its text can be taken for markup. -/
structure ShowsGivenTexts (σ : Type) : Prop where
  remark : ∀ (kind : AnnotationKind) (title : Option String), ∃ heading,
    ∀ (message : String) (state : σ), Annotation.post .terminal ⟨kind, message, title⟩ state =
      ⟨.ok (), state, [.shown (heading ++ (Cell.given message).shown)]⟩
  summary : ∀ title fields complete table, summary? title fields complete = some table →
    table.rows = (if complete then fields else fields.filter (·.2.isTelling)).map
      fun field => (summaryCells field).map Cell.shown
  interpreters : ∀ found, (Interpreter.table found).rows = found.map fun i =>
    (Cell.given i.command).bare :: i.cells.tail.map Cell.shown
  interpreters_escaped_iff : ∀ found,
    (Interpreter.table found).rows = found.map (fun i => i.cells.map Cell.shown) ↔
      ∀ i ∈ found, IsInert i.line
  matrix_exists_iff : ∀ title lines catalog today,
    (∃ table, matrixTable title lines catalog today = .ok table) ↔
      ∀ line ∈ lines, ∀ entry, catalog.find? line = some entry → IsShowable entry.latestPatch
  matrix : ∀ title lines catalog today table, matrixTable title lines catalog today = .ok table →
    table.rows = lines.map fun line => (lineCells catalog today line).map Cell.bare
  matrix_escaped_iff : ∀ title lines catalog today table,
    matrixTable title lines catalog today = .ok table →
    (table.rows = lines.map (fun line => (lineCells catalog today line).map Cell.shown) ↔
      ∀ line ∈ lines, IsInert line ∧ ∀ entry, catalog.find? line = some entry →
        ∀ text, entry.latestPatch = .str text → IsInert text)

/-- Texts from outside are escaped where a remark, a summary or a table of interpreters shows a
message, a value, a version or a path. The commands of interpreters and all of a matrix are shown as
they are. For a status that is the same; for a line, a command and a latest patch it is if and only
if nothing in them can be taken for markup. -/
theorem escapes_given_texts (σ : Type) : ShowsGivenTexts σ where
  remark := by
    intro kind title
    refine ⟨(⟨kind, "", title⟩ : Annotation).markup, ?_⟩
    intro message state
    have hmarkup := Annotation.markup_eq ⟨kind, message, title⟩
    rw [Cell.shown, ← hmarkup]
    rfl
  summary := fun _ _ _ _ h => summary?_rows h
  interpreters := fun _ => rfl
  interpreters_escaped_iff := by
    intro found
    rw [Interpreter.table, List.map_inj_left]
    exact forall₂_congr fun i _ => i.row_eq_shown_iff
  matrix_exists_iff := fun _ _ _ _ => exists_matrixTable_iff
  matrix := fun _ _ _ _ _ h => matrixTable_rows h
  matrix_escaped_iff := fun _ _ _ _ _ h => matrixTable_rows_eq_iff h

/-- A feed of one line with the latest patch given. -/
def oneLine (patch : String) : Catalog :=
  [Entry.ofJson (.obj [("cycle", .str "3.10"), ("latest", .str patch)])]

theorem escapes_given_texts_of_plain_patch :
    ∃ table, matrixTable matrixTitle ["3.10"] (oneLine "3.10.9") ⟨2026, 10, 18⟩ = .ok table ∧
      table.rows = [(lineCells (oneLine "3.10.9") ⟨2026, 10, 18⟩ "3.10").map Cell.shown] := by
  have hshowable := (escapes_given_texts Unit).matrix_exists_iff matrixTitle ["3.10"]
    (oneLine "3.10.9") ⟨2026, 10, 18⟩
  have hescaped := (escapes_given_texts Unit).matrix_escaped_iff matrixTitle ["3.10"]
    (oneLine "3.10.9") ⟨2026, 10, 18⟩
  have hfind : (oneLine "3.10.9").find? "3.10" = some (Entry.ofJson
      (.obj [("cycle", .str "3.10"), ("latest", .str "3.10.9")])) := rfl
  obtain ⟨table, htable⟩ := hshowable.mpr (by
    simp only [List.mem_singleton, forall_eq, hfind, Option.some.injEq, forall_eq']
    exact fun _ => ⟨_, rfl⟩)
  refine ⟨table, htable, (hescaped table htable).mpr ?_⟩
  simp only [List.mem_singleton, forall_eq, hfind, Option.some.injEq, forall_eq']
  refine ⟨isInert_of_plain (by simp), fun text htext => ?_⟩
  obtain rfl := Json.str.inj htext
  exact isInert_of_plain (by simp)

/-- A latest patch with a bracket in it is shown as markup. -/
theorem not_always_escapes_given_texts :
    ¬∀ lines catalog today table, matrixTable matrixTitle lines catalog today = .ok table →
      table.rows = lines.map fun line => (lineCells catalog today line).map Cell.shown := by
  intro h
  have hrows := h ["3.10"] (oneLine "3.10.[x]") ⟨2026, 10, 18⟩ _ rfl
  have hinert := (matrixTable_rows_eq_iff rfl).mp hrows "3.10" (by simp)
  have hplain : IsInert "3.10.[x]" := hinert.2 _ rfl _ rfl
  exact hplain.no_tag ⟨"3.10.".toList, "[x]".toList, rfl, 'x', [], [], rfl, rfl, by simp⟩

end Report

end ReleaseLines
