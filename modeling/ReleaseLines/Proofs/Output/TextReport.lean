import ReleaseLines.Proofs.Feed.Cache
import ReleaseLines.Proofs.Matrix.Ended
import ReleaseLines.Proofs.Output.Publication

namespace ReleaseLines

namespace Feed

/-- The end of a line is described as come if and only if it has come. -/
theorem Entry.isPrefix_describe_iff (entry : Entry) (today : Date) :
    "EOL".toList <+: (entry.describe today).toList ↔ entry.endOfLife.HasEnded today := by
  rw [describe, Mark.HasEnded.eq_def]
  cases entry.endOfLife with
  | unknown => simp
  | flag ended => cases ended <;> simp
  | date published =>
    cases hread : Date.read? published with
    | none => simp [hread]
    | some ending =>
      by_cases hle : ending ≤ today
      · simp [hread, hle]
      · simp [hread, hle]

theorem Entry.isPrefix_describe_iff_isEnded {entry : Entry} {catalog : Catalog}
    (h : catalog.find? entry.cycle = some entry) (desk : Desk) :
    "EOL".toList <+: (entry.describe desk.today).toList ↔
      ∃ since, (isEnded entry.cycle catalog desk).result = .ok (true, since) := by
  obtain ⟨since, hended, _⟩ := isEnded_result entry.cycle catalog desk
  have hstanding : catalog.standingOn entry.cycle desk.today =
      entry.endOfLife.standing desk.today := by
    rw [Catalog.standingOn, h]
  rw [hstanding] at hended
  rw [isPrefix_describe_iff, ← Mark.isEnd_standing_iff, hended]
  constructor
  · intro hend
    exact ⟨since, by rw [hend]⟩
  · rintro ⟨_, heq⟩
    exact (Prod.mk.inj (Except.ok.inj heq)).1

/-- What a fetch returns is kept from then on. -/
theorem Client.exists_snapshot_of_fetch {client : Client} {desk : Desk} {catalog : Catalog}
    (h : (client.fetch desk).result = .ok catalog) :
    ∃ snapshot, (client.fetch desk).state.snapshot = some snapshot ∧
      snapshot.catalog = catalog := by
  by_cases hfresh : client.IsFresh desk
  · obtain ⟨snapshot, hs, hage⟩ := hfresh
    rw [fetch_of_fresh hs hage] at h ⊢
    exact ⟨snapshot, hs, Except.ok.inj h⟩
  · cases fetched_of_not_fresh hfresh with
    | obtained payload accepted result stored =>
      rw [result] at h
      exact ⟨_, stored, Except.ok.inj h⟩
    | failed fault accepted result kept =>
      rw [result] at h
      cases h

end Feed

namespace Report

/-- The row of a line that is in a catalog and has not ended on a day. -/
def IsLiveRow (catalog : Feed.Catalog) (today : Date) (line : String) (row : List String) : Prop :=
  ∃ (entry : Feed.Entry) (patch : String), catalog.find? line = some entry ∧
    patchCell entry.latestPatch = .ok patch ∧
    ¬"EOL".toList <+: (entry.describe today).toList ∧
    row = [line, patch, Markup.styled "supported" (entry.describe today)]

/-- The row of a line of the built-in list. -/
def builtInRow (line : String) : List String := [line, "-", Markup.styled "info" "fallback list"]

theorem isLiveRow_of_supports {catalog : Feed.Catalog} {today : Date} {line : String}
    {row : List String} (hsupports : catalog.Supports today line)
    (h : matrixRow catalog today line = .ok row) : IsLiveRow catalog today line row := by
  obtain ⟨_, before, entry, rest, hcatalog, hcycle, hfirst, hlive⟩ := hsupports
  have hfind : catalog.find? line = some entry :=
    (catalog.find?_eq_some_iff line entry).mpr ⟨hcycle, before, rest, hcatalog, hfirst⟩
  have hnot : ¬"EOL".toList <+: (entry.describe today).toList := by
    rw [Feed.Entry.isPrefix_describe_iff]
    exact hlive
  rw [matrixRow, hfind] at h
  obtain ⟨patch, hpatch, hrow⟩ := except_bind_eq_ok_iff.mp h
  refine ⟨entry, patch, hfind, hpatch, hnot, ?_⟩
  have hstyle : ¬"EOL".toList.isPrefixOf (entry.describe today).toList = true := by
    rw [List.isPrefixOf_iff_prefix]
    exact hnot
  rw [if_neg hstyle] at hrow
  exact (Except.ok.inj hrow).symm

theorem forall₂_isLiveRow {lines : List String} {rows : List (List String)}
    {catalog : Feed.Catalog} {today : Date}
    (h : List.Forall₂ (fun line row => matrixRow catalog today line = .ok row) lines rows)
    (hsupports : ∀ line ∈ lines, catalog.Supports today line) :
    List.Forall₂ (IsLiveRow catalog today) lines rows := by
  induction h with
  | nil => exact .nil
  | cons hrow _ ih =>
    obtain ⟨hline, hothers⟩ := List.forall_mem_cons.mp hsupports
    exact .cons (isLiveRow_of_supports hline hrow) (ih hothers)

theorem rows_of_supports {title : String} {lines : List String} {catalog : Feed.Catalog}
    {today : Date} {table : Table} (hsupports : ∀ line ∈ lines, catalog.Supports today line)
    (h : matrixTable title lines catalog today = .ok table) :
    List.Forall₂ (IsLiveRow catalog today) lines table.rows := by
  obtain ⟨rows, hrows, htable⟩ := except_bind_eq_ok_iff.mp h
  obtain rfl := Except.ok.inj htable
  exact forall₂_isLiveRow (mapM_eq_ok_iff.mp hrows) hsupports

theorem title_of_matrixTable {title : String} {lines : List String} {catalog : Feed.Catalog}
    {today : Date} {table : Table} (h : matrixTable title lines catalog today = .ok table) :
    table.title = title := by
  obtain ⟨rows, _, htable⟩ := except_bind_eq_ok_iff.mp h
  obtain rfl := Except.ok.inj htable
  rfl

theorem rows_of_empty {title : String} {lines : List String} {today : Date} {table : Table}
    (h : matrixTable title lines [] today = .ok table) : table.rows = lines.map builtInRow := by
  obtain ⟨rows, hrows, htable⟩ := except_bind_eq_ok_iff.mp h
  obtain rfl := Except.ok.inj htable
  have hrow : matrixRow [] today = fun line => Except.ok (builtInRow line) := rfl
  have hall : lines.mapM (matrixRow [] today) = .ok (lines.map builtInRow) := by
    rw [hrow]
    exact List.mapM_pure
  exact Except.ok.inj (hrows.symm.trans hall)

end Report

namespace Output

/-- The catalog that the statuses of a matrix are taken from. -/
def catalogFor (matrix : SupportMatrix) (desk : Feed.Desk) : Feed.Catalog :=
  if matrix.usedFallback then [] else (desk.snapshot.map (·.catalog)).getD []

theorem catalogFor_of_feed {matrix : SupportMatrix} {desk : Feed.Desk} {snapshot : Feed.Snapshot}
    (hsource : matrix.source = SupportMatrix.feedSource)
    (hsnapshot : desk.snapshot = some snapshot) : catalogFor matrix desk = snapshot.catalog := by
  have hused : matrix.usedFallback = false := by
    rw [SupportMatrix.usedFallback, hsource]
    rfl
  rw [catalogFor, hused, hsnapshot]
  rfl

theorem catalogFor_of_fallback {matrix : SupportMatrix}
    (hsource : matrix.source = SupportMatrix.fallbackSource) (desk : Feed.Desk) :
    catalogFor matrix desk = [] := by
  have hused : matrix.usedFallback = true := by
    rw [SupportMatrix.usedFallback, hsource]
    rfl
  rw [catalogFor, hused]
  rfl

theorem showTables_apply (matrix : SupportMatrix) (desk : Feed.Desk) :
    showTables matrix desk =
      (Act.ofExcept (Report.matrixTable Report.matrixTitle matrix.versions
          (catalogFor matrix desk) desk.today) >>= fun table => do
        Act.emit (.tabulated table)
        Report.postSummary "Summary" (summaryFields matrix) false) desk := rfl

theorem exists_summary {matrix : SupportMatrix} (hsource : matrix.source ≠ "") :
    ∃ summary, Report.summary? "Summary" (summaryFields matrix) false = some summary := by
  have hmem : ("Source", Json.str matrix.source) ∈
      (summaryFields matrix).filter (·.2.isTelling) := by
    simp [summaryFields, Json.isTelling, hsource]
  have hne : ((summaryFields matrix).filter (·.2.isTelling)).isEmpty = false := by
    rw [List.isEmpty_eq_false_iff]
    exact List.ne_nil_of_mem hmem
  rw [Report.summary?, if_neg Bool.false_ne_true, hne]
  exact ⟨_, rfl⟩

/-- The tables of a matrix are shown both or not at all. -/
theorem exists_of_showTables {matrix : SupportMatrix} {desk : Feed.Desk}
    (hsource : matrix.source ≠ "") (h : (showTables matrix desk).result = .ok ()) :
    ∃ table summary, Report.matrixTable Report.matrixTitle matrix.versions
        (catalogFor matrix desk) desk.today = .ok table ∧
      Report.summary? "Summary" (summaryFields matrix) false = some summary ∧
      showTables matrix desk = ⟨.ok (), desk, [.tabulated table, .tabulated summary]⟩ := by
  obtain ⟨summary, hsummary⟩ := exists_summary hsource
  rw [showTables_apply] at h ⊢
  obtain ⟨table, htable, _⟩ := Act.exists_of_result_bind h
  have hdrawn := Act.eq_ok_of_ofExcept htable
  refine ⟨table, summary, hdrawn, hsummary, ?_⟩
  rw [Act.bind_apply_of_ok htable, hdrawn, Report.postSummary, hsummary]
  rfl

theorem exists_of_post_text {c : Configuration} {matrix : SupportMatrix} {host : Host}
    (hformat : c.outputFormat = "text") (hsource : matrix.source ≠ "")
    (h : (post c matrix host).result = .ok ()) :
    ∃ table summary, Report.matrixTable Report.matrixTitle matrix.versions
        (catalogFor matrix host.desk) host.desk.today = .ok table ∧
      Report.summary? "Summary" (summaryFields matrix) false = some summary ∧
      post c matrix host = ⟨.ok (), host, [.tabulated table, .tabulated summary]⟩ := by
  have hpost : post c matrix = Host.atDesk (showTables matrix) >>= fun _ => Pure.pure () := by
    simp only [post, hformat]
    rfl
  rw [hpost] at h ⊢
  obtain ⟨_, hshown, _⟩ := Act.exists_of_result_bind h
  obtain ⟨table, summary, htable, hsummary, hevents⟩ := exists_of_showTables hsource hshown
  refine ⟨table, summary, htable, hsummary, ?_⟩
  rw [Act.bind_apply_of_ok hshown, Host.atDesk_apply, hevents]
  rfl

end Output

namespace Feed

theorem build_state {client : Client} {desk : Desk} {expression : String} {matrix : SupportMatrix}
    (h : (SupportMatrix.build expression (some client.provider) false desk).result = .ok matrix) :
    (SupportMatrix.build expression (some client.provider) false desk).state =
      (client.fetch desk).state := by
  obtain ⟨_, _, found, hread, _⟩ := SupportMatrix.build_eq_ok_iff.mp h
  have hbuild : Act.SameTraffic
      (SupportMatrix.build expression (some client.provider) false desk)
      (client.provider.candidates false desk) := SupportMatrix.sameTraffic_build hread desk
  have hcandidates : Act.SameTraffic (client.provider.candidates false desk)
      (client.supported oldestLine desk) := sameTraffic_candidates (.pure _) desk
  exact (hbuild.trans (hcandidates.trans (sameTraffic_supported client oldestLine desk))).1

/-- What a matrix from the feed was drawn from is kept where it was built. -/
theorem exists_snapshot_of_build {client : Client} {desk : Desk} {expression : String}
    {offline : Bool} {matrix : SupportMatrix}
    (h : (SupportMatrix.build expression (some client.provider) offline desk).result = .ok matrix)
    (hsource : matrix.source = SupportMatrix.feedSource) :
    ∃ snapshot, (SupportMatrix.build expression (some client.provider) offline desk).state.snapshot =
        some snapshot ∧
      ∀ line, line ∈ matrix.candidates ↔ snapshot.catalog.Supports
        (SupportMatrix.build expression (some client.provider) offline desk).state.today line := by
  have hdiffers : SupportMatrix.feedSource ≠ SupportMatrix.fallbackSource := by decide
  cases offline with
  | true =>
    obtain ⟨_, hcandidates, _⟩ := SupportMatrix.build_eq_ok_iff.mp h
    have hbuiltIn : (client.provider.candidates true desk).result =
        .ok (fallbackLines, SupportMatrix.fallbackSource) := Provider.candidates_offline rfl desk
    have hsame := (Prod.mk.inj (Except.ok.inj (hcandidates.symm.trans hbuiltIn))).2
    exact absurd (hsource.symm.trans hsame) hdiffers
  | false =>
    rcases origin_of_build h with ⟨catalog, hfetch, _, _, hlisted⟩ | ⟨_, hother, _⟩
    · obtain ⟨snapshot, hsnapshot, hcatalog⟩ := client.exists_snapshot_of_fetch hfetch
      rw [build_state h]
      rw [← hcatalog] at hlisted
      exact ⟨snapshot, hsnapshot, hlisted⟩
    · exact absurd (hsource.symm.trans hother) hdiffers

end Feed

namespace Configuration

theorem displays_remarks_tables (c : Configuration) (setting : Setting) (matrix : SupportMatrix)
    (table summary : Table) :
    Event.displays (c.remarks setting matrix ++ [.tabulated table, .tabulated summary]) =
      Event.displays (c.remarks setting matrix) ++ [.table table, .table summary] := by
  rw [remarks]
  split
  · cases setting with
    | workflow => rfl
    | terminal => rfl
  · rfl

variable {c : Configuration} {setting : Setting} {client : Option Feed.Client} {host : Host}
  {matrix : SupportMatrix}

/-- A run that reports in text shows two tables, drawn at the desk that building has left. -/
theorem exists_tables_of_run (hformat : c.outputFormat = "text")
    (h : (c.run setting client host).result = .ok matrix) :
    ∃ (own : Feed.Client) (start : Feed.Desk) (table summary : Table),
      (c.built own start).result = .ok matrix ∧
      (c.run setting client host).state.desk = (c.built own start).state ∧
      Report.matrixTable Report.matrixTitle matrix.versions
        (Output.catalogFor matrix (c.built own start).state) (c.built own start).state.today =
          .ok table ∧
      Event.displays (c.run setting client host).events =
        Event.displays (c.remarks setting matrix) ++ [.table table, .table summary] := by
  obtain ⟨own, start, made, _, hmade, hrun, heq⟩ := exists_of_run h
  obtain ⟨hbuilt, hposted, hstate, hevents⟩ := runWith_cases hrun
  have hnamed : matrix.source ≠ "" := by
    rcases SupportMatrix.source_of_build hbuilt with hsource | hsource
    · simp [hsource, SupportMatrix.feedSource]
    · simp [hsource, SupportMatrix.fallbackSource]
  obtain ⟨table, summary, htable, _, hpost⟩ := Output.exists_of_post_text hformat hnamed hposted
  have hhidden : ∀ event ∈ (c.built own start.desk).events, event.IsHidden :=
    (SupportMatrix.hidden_build c.expression own c.offline start.desk).2
  refine ⟨own, start.desk, table, summary, hbuilt, ?_, htable, ?_⟩
  · rw [heq, Outcome.after, hstate, posted, hpost]
  · have hshown : (c.posted own start matrix).events = [.tabulated table, .tabulated summary] := by
      rw [posted, hpost]
    rw [heq, Outcome.after, Event.displays_append_of_hidden hmade, hevents,
      Event.displays_append_of_hidden hhidden, hshown, displays_remarks_tables]

/-- The configuration of a run that reports in text. -/
def reporting (expression : String) : Configuration where
  expression
  outputFormat := "text"

end Configuration

end ReleaseLines
