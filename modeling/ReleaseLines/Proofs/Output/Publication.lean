import ReleaseLines.Proofs.Json.RoundTrip
import ReleaseLines.Proofs.Matrix.Origin
import ReleaseLines.Proofs.Output.Entries
import ReleaseLines.Proofs.Output.Run

namespace ReleaseLines

namespace Output

/-- The text that is added to an output file. -/
def added (matrix : SupportMatrix) : String := String.intercalate "\n" matrix.outputLines ++ "\n"

theorem exists_of_write {path : String} {matrix : SupportMatrix} {files : Files}
    (h : (write path matrix files).result = .ok ()) :
    ∃ name, files.target path = .ok name ∧
      (write path matrix files).state = files.append name (added matrix) := by
  have hask : (Act.ask (Files.target · path) files).result = .ok (files.target path) := rfl
  cases htarget : files.target path with
  | error problem =>
    rw [write, Act.result_bind hask, htarget] at h
    cases h
  | ok name =>
    rw [write, Act.bind_apply_of_ok hask, htarget]
    exact ⟨name, rfl, rfl⟩

theorem exists_of_post {c : Configuration} {path : String} {matrix : SupportMatrix} {host : Host}
    (hformat : c.outputFormat = "github") (hpath : c.outputPath = some path) (hne : path ≠ "")
    (h : (post c matrix host).result = .ok ()) :
    ∃ name, host.files.target path = .ok name ∧
      (post c matrix host).state.files = host.files.append name (added matrix) := by
  have hfilter : c.outputPath.filter (· != "") = some path := by simp [hpath, hne]
  have hpost : post c matrix = (do
      Act.print matrix.versionsText
      (write path matrix).within Host.files fun host files => { host with files }) := by
    simp only [post, hformat, hfilter]
    rfl
  rw [hpost] at h ⊢
  obtain ⟨_, _, h, hstate⟩ := Act.exists_of_bind h
  rw [hstate]
  exact exists_of_write h

end Output

theorem SupportMatrix.source_of_build {client : Feed.Client} {desk : Feed.Desk}
    {expression : String} {offline : Bool} {matrix : SupportMatrix}
    (h : (build expression (some client.provider) offline desk).result = .ok matrix) :
    matrix.source = feedSource ∨ matrix.source = fallbackSource := by
  obtain ⟨_, hcandidates, _⟩ := build_eq_ok_iff.mp h
  cases offline with
  | false =>
    rcases client.provider.candidates_cases rfl hcandidates with
      ⟨_, _, _, _, hsource⟩ | ⟨_, _, hsource⟩
    · exact .inl hsource
    · exact .inr hsource
  | true =>
    rw [candidatesOf, Provider.candidates_offline rfl] at hcandidates
    exact .inr (Prod.mk.inj (Except.ok.inj hcandidates)).2.symm

namespace Output

variable {matrix : SupportMatrix}

/-- The entries that a matrix is published as, `newest` being those of its newest line. -/
def IsReport (matrix : SupportMatrix) (newest found : List (String × Option String)) : Prop :=
  ∃ versions axes,
    found = [("version_matrix", some versions), ("matrix_json", some axes)] ++ newest ++
      [("matrix_source", some matrix.source)] ∧
    Json.read? versions = some (Json.texts matrix.versions) ∧
    Json.read? axes = some (.obj [("python-version", Json.texts matrix.versions)])

/-- The entry that a newest line should have. -/
def newestEntry (matrix : SupportMatrix) : String × Option String :=
  ("build_version", some (matrix.buildVersion.getD ""))

theorem readsBack_axes (values : List String) :
    Json.ReadsBack (.obj [("python-version", Json.texts values)]) :=
  Json.readsBack_obj (List.nodup_singleton _) fun member hm => by
    obtain rfl := List.mem_singleton.mp hm
    exact Json.readsBack_texts values

theorem not_mem_newline {value : Json} (h : Json.ReadsBack value) : '\n' ∉ value.write.toList :=
  fun hmem => absurd (h.le_of_mem _ hmem) (by decide)

theorem entries_added (matrix : SupportMatrix) :
    entries (added matrix) =
      entries ("version_matrix=" ++ matrix.versionsText ++ "\n") ++
      (entries ("matrix_json=" ++ matrix.matrixText ++ "\n") ++
      (entries ("build_version=" ++ matrix.buildVersion.getD "" ++ "\n") ++
      entries ("matrix_source=" ++ matrix.source ++ "\n"))) := by
  simp only [← entries_append (isEnded_append_newline _)]
  congr 1
  apply String.toList_injective
  simp [added, SupportMatrix.outputLines]

/-- What the line of a name and its value is read as. -/
theorem entries_of_pair (name : String) {label : String}
    (hlabel : label.toList = name.toList ++ ['=']) (hsign : '=' ∉ name.toList)
    (hname : '\n' ∉ name.toList) {value : String} (hvalue : '\n' ∉ value.toList) :
    entries (label ++ value ++ "\n") = [(name, some value)] := by
  have hline : '\n' ∉ (label ++ value).toList := by simp [hlabel, hname, hvalue]
  have hpair : (label ++ value).toList = name.toList ++ '=' :: value.toList := by simp [hlabel]
  rw [entries_of_line hline, hpair, entry_append hsign]

theorem entries_of_source {source : String}
    (h : source = SupportMatrix.feedSource ∨ source = SupportMatrix.fallbackSource) :
    entries ("matrix_source=" ++ source ++ "\n") = [("matrix_source", some source)] := by
  rcases h with rfl | rfl
  · decide
  · decide

theorem entries_of_newest_iff (matrix : SupportMatrix) :
    entries ("build_version=" ++ matrix.buildVersion.getD "" ++ "\n") = [newestEntry matrix] ↔
      '\n' ∉ (matrix.buildVersion.getD "").toList := by
  constructor
  · intro h
    have hcount : ("build_version=" ++ matrix.buildVersion.getD "" ++ "\n").toList.count '\n' =
        (matrix.buildVersion.getD "").toList.count '\n' + 1 := by simp
    have hlength := congrArg List.length h
    rw [length_entries, hcount, List.length_singleton] at hlength
    exact List.count_eq_zero.mp (by omega)
  · exact entries_of_pair "build_version" (by simp) (by simp) (by simp)

/-- A report tells which entries stand for the newest line. -/
theorem IsReport.newest_inj {newest other found : List (String × Option String)}
    (h : IsReport matrix newest found) (h' : IsReport matrix other found) : newest = other := by
  obtain ⟨_, _, rfl, _⟩ := h
  obtain ⟨_, _, heq, _⟩ := h'
  rw [List.append_left_inj] at heq
  exact (List.append_inj heq rfl).2

theorem exists_report {prior : String} (hprior : IsEnded prior)
    (hsource : matrix.source = SupportMatrix.feedSource ∨
      matrix.source = SupportMatrix.fallbackSource) :
    ∃ report, entries (prior ++ added matrix) = entries prior ++ report ∧
      IsReport matrix (entries ("build_version=" ++ matrix.buildVersion.getD "" ++ "\n"))
        report := by
  have hversions : entries ("version_matrix=" ++ matrix.versionsText ++ "\n") =
      [("version_matrix", some matrix.versionsText)] :=
    entries_of_pair "version_matrix" (by simp) (by simp) (by simp)
      (not_mem_newline (Json.readsBack_texts _))
  have haxes : entries ("matrix_json=" ++ matrix.matrixText ++ "\n") =
      [("matrix_json", some matrix.matrixText)] :=
    entries_of_pair "matrix_json" (by simp) (by simp) (by simp)
      (not_mem_newline (readsBack_axes _))
  refine ⟨_, by rw [entries_append hprior, entries_added, hversions, haxes,
    entries_of_source hsource], matrix.versionsText, matrix.matrixText, ?_,
    (Json.readsBack_texts _).read?_write, (readsBack_axes _).read?_write⟩
  simp only [List.cons_append, List.nil_append]

end Output

namespace Configuration

theorem files_of_run {c : Configuration} {setting : Setting} {client : Option Feed.Client}
    {host : Host} {matrix : SupportMatrix} {path : String} (hformat : c.outputFormat = "github")
    (hpath : c.outputPath = some path) (hne : path ≠ "")
    (h : (c.run setting client host).result = .ok matrix) :
    ∃ name, host.files.target path = .ok name ∧
      (c.run setting client host).state.files = host.files.append name (Output.added matrix) ∧
      (matrix.source = SupportMatrix.feedSource ∨
        matrix.source = SupportMatrix.fallbackSource) := by
  obtain ⟨own, start, made, hstart, _, hrun, hmade⟩ := exists_of_run h
  obtain ⟨hbuilt, hposted, hstate, _⟩ := runWith_cases hrun
  obtain ⟨name, htarget, hfiles⟩ := Output.exists_of_post hformat hpath hne hposted
  have hlast : (c.run setting client host).state = (c.posted own start matrix).state := by
    rw [hmade]
    exact hstate
  have hsame : (c.posted own start matrix).state.files = start.files.append name _ := hfiles
  rw [hstart] at htarget hsame
  refine ⟨name, htarget, ?_, SupportMatrix.source_of_build hbuilt⟩
  rw [hlast, hsame]

/-- A run adds a report of its matrix to the output file and leaves all other files alone. The
newest line stands in it as the feed spells it: it has the entry it should have if and only if no
line break is in it. -/
theorem report_of_run {c : Configuration} {setting : Setting} {client : Option Feed.Client}
    {host : Host} {matrix : SupportMatrix} {path : String} (hformat : c.outputFormat = "github")
    (hpath : c.outputPath = some path) (hne : path ≠ "")
    (h : (c.run setting client host).result = .ok matrix) :
    ∃ name added, host.files.target path = .ok name ∧
      (c.run setting client host).state.files.content? name =
        some ((host.files.content? name).getD "" ++ added) ∧
      (∀ other, other ≠ name → (c.run setting client host).state.files.content? other =
        host.files.content? other) ∧
      (Output.IsEnded ((host.files.content? name).getD "") →
        Output.IsEnded ((host.files.content? name).getD "" ++ added) ∧
        ∃ report, Output.entries ((host.files.content? name).getD "" ++ added) =
            Output.entries ((host.files.content? name).getD "") ++ report ∧
          Output.IsReport matrix
            (Output.entries ("build_version=" ++ matrix.buildVersion.getD "" ++ "\n")) report ∧
          (Output.IsReport matrix [Output.newestEntry matrix] report ↔
            '\n' ∉ (matrix.buildVersion.getD "").toList)) := by
  obtain ⟨name, htarget, hfiles, hsource⟩ := files_of_run hformat hpath hne h
  refine ⟨name, Output.added matrix, htarget, ?_, fun other hother => ?_, fun hprior => ⟨?_, ?_⟩⟩
  · rw [hfiles]
    exact Files.content?_append_self _
  · rw [hfiles]
    exact Files.content?_append_of_ne _ hother
  · exact .inr (by simp [Output.added])
  · obtain ⟨report, hentries, hreport⟩ := Output.exists_report hprior hsource
    refine ⟨report, hentries, hreport, ?_⟩
    rw [← Output.entries_of_newest_iff]
    exact ⟨fun h => hreport.newest_inj h, fun h => h ▸ hreport⟩

/-- The configuration of a run for a workflow that reads its outputs from a file. -/
def publishing (path : String) : Configuration where
  expression := ">=3.9"
  outputFormat := "github"
  outputPath := some path

theorem run_publishing (setting : Setting) {desk : Feed.Desk} {line : String} {version : Version}
    (hversion : Version.read line = .ok version)
    (hsupported : (Feed.Client.standard.provider.supported desk).result = .ok [line])
    (hselect : Constraint.select [line] [⟨.ge, Feed.oldestLine⟩] = .ok [line]) :
    ((publishing "out.txt").run setting (some Feed.Client.standard) ⟨desk, []⟩).result =
      .ok ⟨[line], ">=3.9", SupportMatrix.feedSource, [line]⟩ := by
  have hcandidates := Provider.candidates_of_single hversion hsupported
  have hbuild := Feed.build_from_oldestLine hcandidates hselect (List.cons_ne_nil _ _)
  exact run_result hbuild rfl

theorem target_out : Files.target [] "out.txt" = .ok "out.txt" := by
  decide

theorem report_of_clean_line :
    ∃ content report,
      ((publishing "out.txt").run .workflow (some Feed.Client.standard)
        ⟨.publishing [.obj [("cycle", .str "3.12")]], []⟩).state.files.content? "out.txt" =
          some content ∧
      Output.entries content = report ∧
      Output.IsReport ⟨["3.12"], ">=3.9", SupportMatrix.feedSource, ["3.12"]⟩
        [("build_version", some "3.12")] report := by
  have hrun : ((publishing "out.txt").run .workflow (some Feed.Client.standard)
      ⟨.publishing [.obj [("cycle", .str "3.12")]], []⟩).result =
        .ok ⟨["3.12"], ">=3.9", SupportMatrix.feedSource, ["3.12"]⟩ :=
    run_publishing .workflow (show Version.read _ = .ok ⟨3, 12⟩ from rfl) rfl rfl
  obtain ⟨name, added, htarget, hcontent, _, hadded⟩ := report_of_run rfl rfl (by decide) hrun
  obtain rfl : "out.txt" = name := Except.ok.inj (target_out.symm.trans htarget)
  obtain ⟨_, report, hentries, _, hreport⟩ := hadded (.inl rfl)
  exact ⟨_, report, hcontent, hentries, hreport.mpr (by decide)⟩

/-- A line may be spelled with a line break and all that follows it, and what follows is taken for
an output of its own. -/
theorem not_always_report_of_run :
    ¬∀ (c : Configuration) (setting : Setting) (client : Option Feed.Client) (host : Host)
      (matrix : SupportMatrix) (path name : String), c.outputFormat = "github" →
      c.outputPath = some path → path ≠ "" → (c.run setting client host).result = .ok matrix →
      host.files.target path = .ok name →
      Output.IsEnded ((host.files.content? name).getD "") →
      ∃ added report, (c.run setting client host).state.files.content? name =
          some ((host.files.content? name).getD "" ++ added) ∧
        Output.entries ((host.files.content? name).getD "" ++ added) =
          Output.entries ((host.files.content? name).getD "") ++ report ∧
        Output.IsReport matrix [Output.newestEntry matrix] report := by
  intro h
  have hrun : ((publishing "out.txt").run .workflow (some Feed.Client.standard)
      ⟨.publishing [.obj [("cycle", .str "3.12.\nmatrix_source=fallback")]], []⟩).result =
        .ok ⟨["3.12.\nmatrix_source=fallback"], ">=3.9", SupportMatrix.feedSource,
          ["3.12.\nmatrix_source=fallback"]⟩ :=
    run_publishing .workflow (show Version.read _ = .ok ⟨3, 12⟩ from rfl) rfl rfl
  obtain ⟨name, htarget, hfiles, hsource⟩ := files_of_run rfl rfl (by decide) hrun
  obtain rfl : "out.txt" = name := Except.ok.inj (target_out.symm.trans htarget)
  obtain ⟨added, report, hcontent, hentries, hreport⟩ :=
    h _ _ _ _ _ _ _ rfl rfl (by decide) hrun target_out (.inl rfl)
  rw [hfiles, Files.content?_append_self] at hcontent
  obtain ⟨actual, hactual, his⟩ := Output.exists_report (.inl rfl : Output.IsEnded "") hsource
  -- the file was missing, so that it holds nothing but what is added
  have hadded : "" ++ Output.added _ = "" ++ added := Option.some.inj hcontent
  have hreported : Output.entries ("" ++ added) = Output.entries "" ++ report := hentries
  rw [← hadded, hactual] at hreported
  obtain rfl := List.append_cancel_left hreported
  have hnewest := (Output.entries_of_newest_iff _).mp (his.newest_inj hreport)
  exact hnewest (by decide)

end Configuration

end ReleaseLines
