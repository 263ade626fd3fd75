import ReleaseLines.Calendar.Instant
import ReleaseLines.Fault
import ReleaseLines.Json.Writer
import ReleaseLines.Level
import ReleaseLines.Text.Case

namespace ReleaseLines

/-- A name in the table of levels that stands for a text instead of a level, and that text. -/
def Level.misnomer : String × String := ("BASIC_FORMAT", "%(levelname)s:%(name)s:%(message)s")

/-- The level of a name in any letter case. -/
def Level.read (name : String) : Except Fault Level :=
  let upper := Text.uppercase name
  match Level.ofName? upper with
  | some level => .ok level
  | none =>
    if upper == Level.misnomer.1 then .error (.badValue (.unknownLevel Level.misnomer.2))
    else .error (.unknownLevel upper)

/-- How the lines of a journal look. -/
inductive Layout
  /-- Time, level, name and message. -/
  | plain
  /-- One JSON object to a line. -/
  | structured
  deriving DecidableEq, Repr

/-- What writes the lines of a journal. -/
structure Scribe where
  layout : Layout
  threshold : Level
  deriving DecidableEq, Repr

/-- A journal lets messages of its threshold and above through to its scribe. -/
structure Journal where
  threshold : Level
  scribe : Option Scribe
  deriving DecidableEq, Repr

/-- A message with the time at which it was made and the failure it tells of, if any. -/
structure Record where
  level : Level
  message : String
  made : Instant
  failure : Option String
  deriving DecidableEq, Repr

namespace Record

/-- The name that every record bears. -/
def source : String := "version_matrix"

/-- A text with the failure on a new line. -/
def withFailure (record : Record) (text : String) : String :=
  match record.failure with
  | none => text
  | some failure =>
    (if text.toList.getLast? == some '\n' then text else text ++ "\n") ++ failure

def plainLine (record : Record) : String :=
  record.withFailure ("[" ++ record.made.dayText ++ " " ++ record.made.clockText ++ "] " ++
    record.level.name ++ " - " ++ source ++ " - " ++ record.message)

def structuredLine (record : Record) : String :=
  let fields :=
    [("timestamp", .str record.made.isoText), ("level", .str record.level.name),
     ("logger", .str source), ("message", .str record.message)]
  let exception := (record.failure.map fun failure => ("exception", .str failure)).toList
  (Json.obj (fields ++ exception)).write

def line (record : Record) : Layout → String
  | .plain => record.plainLine
  | .structured => record.structuredLine

end Record

namespace Journal

/-- A journal without a scribe. -/
def blank : Journal := ⟨.info, none⟩

/-- Gives a journal its scribe, unless it has one. -/
def prepare (journal : Journal) (level : String) (layout : Layout) : Except Fault Journal :=
  if journal.scribe.isSome then .ok journal
  else (Level.read level).map fun threshold => ⟨threshold, some ⟨layout, threshold⟩⟩

/-- Sets the threshold of a journal and of its scribe. -/
def setLevel (journal : Journal) (level : String) : Except Fault Journal :=
  (Level.read level).map fun threshold =>
    ⟨threshold, journal.scribe.map fun scribe => { scribe with threshold }⟩

/-- A journal without a threshold of its own has that of warnings. -/
def effectiveThreshold (journal : Journal) : Level :=
  if journal.threshold == .unset then .warning else journal.threshold

/-- What is written of a record. Without a scribe only warnings and graver ones are, and bare. -/
def entry (journal : Journal) (record : Record) : String :=
  if !record.level.passes journal.effectiveThreshold then ""
  else
    match journal.scribe with
    | none =>
      if record.level.passes .warning then record.withFailure record.message ++ "\n" else ""
    | some scribe =>
      if record.level.passes scribe.threshold then record.line scribe.layout ++ "\n" else ""

end Journal

end ReleaseLines
