import ReleaseLines.Proofs.Output.Publication

namespace ReleaseLines

open Act

variable {α β : Type}

/-- A computation that leaves the files alone. -/
abbrev Act.Spares (act : Act Host α) : Prop := Keeps Host.files (fun _ => True) act

theorem Host.spares_atDesk (act : Act Feed.Desk α) : Spares (Host.atDesk act) :=
  fun _ => ⟨rfl, fun _ _ => trivial⟩

theorem Act.spares_emit (event : Event) : Spares (Act.emit event) := .emit trivial

/-- A computation that touches the files last of all, if at all: they are as before where it fails,
and otherwise changed as `change` says. -/
def Act.Commits (change : α → Files → Files → Prop) (act : Act Host α) : Prop :=
  ∀ host, (∀ fault, (act host).result = .error fault → (act host).state.files = host.files) ∧
    ∀ value, (act host).result = .ok value → change value host.files (act host).state.files

namespace Act.Commits

variable {change : α → Files → Files → Prop}

theorem of_spares {act : Act Host α} (h : Spares act)
    (hsame : ∀ value files, change value files files) : Commits change act := by
  intro host
  have hfiles : (act host).state.files = host.files := (h host).1
  refine ⟨fun _ _ => hfiles, fun value _ => ?_⟩
  rw [hfiles]
  exact hsame value host.files

theorem mono {other : α → Files → Files → Prop} {act : Act Host α} (h : Commits change act)
    (himp : ∀ value before after, change value before after → other value before after) :
    Commits other act :=
  fun host => ⟨(h host).1, fun value hvalue => himp value _ _ ((h host).2 value hvalue)⟩

/-- What fails before the files are touched leaves them as they were. -/
theorem after_spares {act : Act Host β} {next : β → Act Host α} (h : Spares act)
    (hnext : ∀ value, Commits change (next value)) : Commits change (act >>= next) := by
  intro host
  have hfiles : (act host).state.files = host.files := (h host).1
  rcases bind_cases act next host with ⟨fault, _, heq⟩ | ⟨value, _, heq⟩
  · rw [heq]
    refine ⟨fun _ _ => hfiles, ?_⟩
    intro value hvalue
    cases hvalue
  · have hlast := hnext value (act host).state
    rw [hfiles] at hlast
    rw [heq]
    exact hlast

theorem returning {act : Act Host Unit} {value : α} (h : Commits (fun _ => change value) act) :
    Commits change (act >>= fun _ => Pure.pure value) := by
  intro host
  obtain ⟨herror, hok⟩ := h host
  rcases bind_cases act (fun _ => Pure.pure value) host with ⟨fault, hfault, heq⟩ | ⟨_, hdone, heq⟩
  · rw [heq]
    refine ⟨fun _ _ => herror fault hfault, ?_⟩
    intro other hother
    cases hother
  · rw [heq]
    constructor
    · intro fault hfault
      cases hfault
    · intro other hother
      cases hother
      exact hok () hdone

end Act.Commits

namespace Configuration

/-- The path of the file that a run publishes its matrix in, if it does. -/
def publicationPath? (c : Configuration) : Option String :=
  if c.outputFormat == "github" then c.outputPath.filter (· != "") else none

/-- Where a matrix is published its report stands at the end of one file; else nothing has
changed. -/
def Publishes (c : Configuration) (matrix : SupportMatrix) (before after : Files) : Prop :=
  match c.publicationPath? with
  | none => after = before
  | some path => ∃ name, before.target path = .ok name ∧
      after = before.append name (Output.added matrix)

end Configuration

namespace Output

theorem commits_write (path : String) (matrix : SupportMatrix) :
    Commits (fun _ before after => ∃ name, before.target path = .ok name ∧
        after = before.append name (added matrix))
      ((write path matrix).within Host.files fun host files => { host with files }) := by
  intro host
  have hask : (Act.ask (Files.target · path) host.files).result = .ok (host.files.target path) :=
    rfl
  cases htarget : host.files.target path with
  | error problem =>
    have hwrite : write path matrix host.files = ⟨.error (.file problem), host.files, []⟩ := by
      rw [write, bind_apply_of_ok hask, htarget]
      rfl
    refine ⟨fun _ _ => congrArg Outcome.state hwrite, ?_⟩
    intro value hvalue
    cases (congrArg Outcome.result hwrite).symm.trans hvalue
  | ok name =>
    have hwrite : (write path matrix host.files).result = .ok () := by
      rw [write, result_bind hask, htarget]
      rfl
    refine ⟨fun fault hfault => ?_, fun _ _ => ?_⟩
    · cases hwrite.symm.trans hfault
    · exact exists_of_write hwrite

theorem commits_post (c : Configuration) (matrix : SupportMatrix) :
    Commits (fun _ => c.Publishes matrix) (post c matrix) := by
  have hshown {last : Act Host Unit} (h : Commits (fun _ => c.Publishes matrix) last) :
      Commits (fun _ => c.Publishes matrix)
        (if c.outputFormat == "text" then Host.atDesk (showTables matrix) >>= fun _ => last
        else Act.print matrix.versionsText >>= fun _ => last) := by
    split
    · exact .after_spares (Host.spares_atDesk _) fun _ => h
    · exact .after_spares (spares_emit _) fun _ => h
  have hunpublished (hpath : c.publicationPath? = none) (files : Files) :
      c.Publishes matrix files files := by
    rw [Configuration.Publishes, hpath]
  unfold post
  split
  next hgithub =>
    apply hshown
    cases hpath : c.outputPath.filter (· != "") with
    | none =>
      have hnone : c.publicationPath? = none := by
        rw [Configuration.publicationPath?, if_pos hgithub, hpath]
      exact .of_spares (spares_emit _) fun _ => hunpublished hnone
    | some path =>
      have hsome : c.publicationPath? = some path := by
        rw [Configuration.publicationPath?, if_pos hgithub, hpath]
      refine (commits_write path matrix).mono fun _ before after hwritten => ?_
      rw [Configuration.Publishes, hsome]
      exact hwritten
  next hother =>
    have hnone : c.publicationPath? = none := by
      rw [Configuration.publicationPath?, if_neg hother]
    exact hshown (.of_spares (.pure ()) fun _ => hunpublished hnone)

end Output

namespace Configuration

theorem commits_run (c : Configuration) (setting : Setting) (client : Option Feed.Client) :
    Commits c.Publishes (c.run setting client) := by
  have hposted (matrix : SupportMatrix) :
      Commits c.Publishes (Output.post c matrix >>= fun _ => Pure.pure matrix) :=
    .returning (Output.commits_post c matrix)
  have hwith (own : Feed.Client) : Commits c.Publishes (c.runWith setting own) := by
    refine .after_spares (Host.spares_atDesk _) fun matrix => ?_
    have hremark : Spares (Output.fallbackRemark.post setting) := by
      cases setting with
      | workflow => exact spares_emit _
      | terminal => exact spares_emit _
    show Commits c.Publishes (if matrix.usedFallback && !c.offline then _ else _)
    split
    · exact .after_spares hremark fun _ => hposted matrix
    · exact hposted matrix
  cases client with
  | some client =>
    have hgiven : Spares (Pure.pure client : Act Host Feed.Client) := .pure client
    rw [run_some]
    exact .after_spares hgiven hwith
  | none =>
    rw [run_none]
    exact .after_spares (Host.spares_atDesk _) hwith

theorem publicationPath?_eq_none_iff (c : Configuration) :
    c.publicationPath? = none ↔
      c.outputFormat ≠ "github" ∨ ∀ path, c.outputPath = some path → path = "" := by
  simp [publicationPath?, Option.filter_eq_none_iff, imp_iff_not_or]

theorem publicationPath?_eq_some_iff (c : Configuration) (path : String) :
    c.publicationPath? = some path ↔
      c.outputFormat = "github" ∧ c.outputPath = some path ∧ path ≠ "" := by
  simp [publicationPath?, Option.filter_eq_some_iff]

/-- Of the files only the one that a path leads to has changed: what was in it stays in front of the
report of a matrix, which is never empty. -/
structure AddsReport (matrix : SupportMatrix) (path name : String) (before after : Files) :
    Prop where
  target : before.target path = .ok name
  others : ∀ other, other ≠ name → after.content? other = before.content? other
  content : after.content? name = some ((before.content? name).getD "" ++ Output.added matrix)
  telling : Output.added matrix ≠ ""

/-- A run that fails leaves all files as they were and makes none. One that comes to a matrix
changes at most the file that its output path leads to, and that only in the format with an output
file: what was in it stays in front, and the text added there depends on the matrix alone. -/
theorem files_after_run (c : Configuration) (setting : Setting) (client : Option Feed.Client)
    (host : Host) :
    (∀ fault, (c.run setting client host).result = .error fault →
      (c.run setting client host).state.files = host.files) ∧
    ∀ matrix, (c.run setting client host).result = .ok matrix →
      ((c.outputFormat ≠ "github" ∨ ∀ path, c.outputPath = some path → path = "") ∧
        (c.run setting client host).state.files = host.files) ∨
      ∃ path name, c.outputFormat = "github" ∧ c.outputPath = some path ∧ path ≠ "" ∧
        AddsReport matrix path name host.files (c.run setting client host).state.files := by
  obtain ⟨herror, hok⟩ := commits_run c setting client host
  refine ⟨herror, fun matrix hmatrix => ?_⟩
  have hpublishes := hok matrix hmatrix
  rw [Publishes] at hpublishes
  cases hpath : c.publicationPath? with
  | none =>
    rw [hpath] at hpublishes
    exact .inl ⟨c.publicationPath?_eq_none_iff.mp hpath, hpublishes⟩
  | some path =>
    rw [hpath] at hpublishes
    obtain ⟨name, htarget, hfiles⟩ := hpublishes
    obtain ⟨hformat, houtput, hne⟩ := (c.publicationPath?_eq_some_iff path).mp hpath
    refine .inr ⟨path, name, hformat, houtput, hne, htarget, fun other hother => ?_, ?_, ?_⟩
    · rw [hfiles]
      exact Files.content?_append_of_ne _ hother
    · rw [hfiles]
      exact Files.content?_append_self _
    · simp [Output.added]

/-- A desk where the feed lists one line. -/
def listingDesk : Feed.Desk := .publishing [.obj [("cycle", .str "3.12")]]

/-- The matrix of that one line. -/
def listedMatrix : SupportMatrix := ⟨["3.12"], ">=3.9", SupportMatrix.feedSource, ["3.12"]⟩

theorem built_publishing (path : String) :
    ((publishing path).built Feed.Client.standard listingDesk).result = .ok listedMatrix :=
  Feed.build_from_oldestLine (by decide +kernel) rfl (List.cons_ne_nil _ _)

theorem files_after_refused_and_published_run :
    ((publishing "no/such").run .terminal (some Feed.Client.standard)
      ⟨listingDesk, [("out.txt", "a=b\n")]⟩).state.files = [("out.txt", "a=b\n")] ∧
    ((publishing "out.txt").run .terminal (some Feed.Client.standard)
      ⟨listingDesk, [("out.txt", "a=b\n")]⟩).state.files.content? "out.txt" =
        some ("a=b\n" ++ Output.added listedMatrix) := by
  constructor
  · have hfails : ((publishing "no/such").run .terminal (some Feed.Client.standard)
        ⟨listingDesk, [("out.txt", "a=b\n")]⟩).result = .error (.file (.missing "no/such")) :=
      run_result_of_refused (built_publishing _) (by decide +kernel)
    rw [(files_after_run _ _ _ _).1 _ hfails]
  · have hruns : ((publishing "out.txt").run .terminal (some Feed.Client.standard)
        ⟨listingDesk, [("out.txt", "a=b\n")]⟩).result = .ok listedMatrix :=
      run_result (built_publishing _) (by decide +kernel)
    rcases (files_after_run _ _ _ _).2 _ hruns with
      ⟨hnone, _⟩ | ⟨path, name, _, hpath, _, hadds⟩
    · rcases hnone with hformat | hempty
      · exact absurd rfl hformat
      · exact absurd (hempty _ rfl) (by decide)
    · obtain rfl : "out.txt" = path := Option.some.inj hpath
      have hname : Files.target [("out.txt", "a=b\n")] "out.txt" = .ok "out.txt" := by decide
      obtain rfl : "out.txt" = name := Except.ok.inj (hname.symm.trans hadds.target)
      exact hadds.content

end Configuration

end ReleaseLines
