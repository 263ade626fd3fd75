import ReleaseLines.Output.Run
import ReleaseLines.Proofs.Output.Screen

namespace ReleaseLines

theorem Act.exists_of_bind {σ α β : Type} {act : Act σ α} {next : α → Act σ β} {state : σ}
    {value : β} (h : ((act >>= next) state).result = .ok value) :
    ∃ first, (act state).result = .ok first ∧
      (next first (act state).state).result = .ok value ∧
      ((act >>= next) state).state = (next first (act state).state).state := by
  obtain ⟨first, hfirst, hnext⟩ := exists_of_result_bind h
  exact ⟨first, hfirst, hnext, by rw [bind_apply_of_ok hfirst]⟩

theorem Feed.Client.prepare_of_make {settings : Settings} {client : Client}
    (h : make settings.address (some settings.timeout) (some settings.retries) defaultLifetime =
      .ok client) (desk : Desk) :
    prepare settings desk =
      ⟨.ok client, { desk with snapshot := none }, [.clientMade (some settings)]⟩ := by
  rw [prepare, h]
  rfl

theorem Feed.Client.exists_of_prepare {settings : Settings} (h : 0 ≤ settings.retries)
    (desk : Desk) :
    ∃ client, prepare settings desk =
      ⟨.ok client, { desk with snapshot := none }, [.clientMade (some settings)]⟩ := by
  have hretries : (some settings.retries).any (· < 0) = false := by simpa using h
  have hmake : ∃ client, make settings.address (some settings.timeout) (some settings.retries)
      defaultLifetime = .ok client := by
    rw [make, hretries]
    exact ⟨_, rfl⟩
  obtain ⟨client, hclient⟩ := hmake
  exact ⟨client, prepare_of_make hclient desk⟩

theorem Host.atDesk_apply {α : Type} (act : Act Feed.Desk α) (host : Host) :
    atDesk act host =
      ⟨(act host.desk).result, { host with desk := (act host.desk).state },
        (act host.desk).events⟩ := rfl

/-- What is seen of an annotation. -/
def Annotation.event (a : Annotation) : Setting → Event
  | .workflow => .printed (a.command ++ "\n")
  | .terminal => .shown a.markup

theorem posted_eq {σ : Type} (a : Annotation) (setting : Setting) (state : σ) :
    a.post setting state = ⟨.ok (), state, [a.event setting]⟩ := by
  cases setting with
  | workflow => rfl
  | terminal => rfl

namespace Configuration

variable {c : Configuration} {setting : Setting} {matrix : SupportMatrix}

/-- What a run does once it has a client. -/
def runWith (c : Configuration) (setting : Setting) (client : Feed.Client) :
    Act Host SupportMatrix := do
  let matrix ← Host.atDesk (SupportMatrix.build c.expression (some client.provider) c.offline)
  if matrix.usedFallback && !c.offline then Output.fallbackRemark.post setting
  Output.post c matrix
  return matrix

theorem run_none (c : Configuration) (setting : Setting) :
    c.run setting none = Host.atDesk (Feed.Client.prepare c.clientSettings) >>= c.runWith setting :=
  rfl

theorem run_some (c : Configuration) (setting : Setting) (client : Feed.Client) :
    c.run setting (some client) = Pure.pure client >>= c.runWith setting := rfl

/-- What comes of building the matrix of a run. -/
def built (c : Configuration) (client : Feed.Client) (desk : Feed.Desk) :
    Outcome Feed.Desk SupportMatrix :=
  SupportMatrix.build c.expression (some client.provider) c.offline desk

/-- What a run says before it shows a matrix. -/
def remarks (c : Configuration) (setting : Setting) (matrix : SupportMatrix) : List Event :=
  if matrix.usedFallback && !c.offline then [Output.fallbackRemark.event setting] else []

/-- What comes of showing a matrix that was built. -/
def posted (c : Configuration) (client : Feed.Client) (host : Host) (matrix : SupportMatrix) :
    Outcome Host Unit :=
  Output.post c matrix ⟨(c.built client host.desk).state, host.files⟩

theorem runWith_of_built {client : Feed.Client} {host : Host}
    (hbuilt : (c.built client host.desk).result = .ok matrix) :
    c.runWith setting client host =
      ((do Output.post c matrix; return matrix)
        (⟨(c.built client host.desk).state, host.files⟩ : Host)).after
          ((c.built client host.desk).events ++ c.remarks setting matrix) := by
  have hfirst : (Host.atDesk (SupportMatrix.build c.expression (some client.provider) c.offline)
      host).result = .ok matrix := hbuilt
  rw [runWith, Act.bind_apply_of_ok hfirst, remarks, Outcome.after, List.append_assoc]
  split
  next =>
    have hremark {σ : Type} (state : σ) := posted_eq Output.fallbackRemark setting state
    rw [Act.bind_apply_of_ok (by rw [hremark]), hremark]
    rfl
  next => rfl

/-- A run that has its client comes to a matrix by building it and showing it. -/
theorem runWith_cases {client : Feed.Client} {host : Host}
    (h : (c.runWith setting client host).result = .ok matrix) :
    (c.built client host.desk).result = .ok matrix ∧
      (c.posted client host matrix).result = .ok () ∧
      (c.runWith setting client host).state = (c.posted client host matrix).state ∧
      (c.runWith setting client host).events =
        (c.built client host.desk).events ++
          (c.remarks setting matrix ++ (c.posted client host matrix).events) := by
  obtain ⟨other, hbuilt, _⟩ := Act.exists_of_result_bind h
  have hrun : c.runWith setting client host = _ := runWith_of_built hbuilt
  rw [hrun] at h
  obtain ⟨_, hposted, hother⟩ := Act.exists_of_result_bind h
  obtain rfl := Except.ok.inj hother
  refine ⟨hbuilt, hposted, ?_, ?_⟩
  · rw [hrun, Outcome.after, Act.bind_apply_of_ok hposted]
    rfl
  · rw [hrun, Outcome.after, Act.bind_apply_of_ok hposted, List.append_assoc]
    simp [posted]

/-- A run first makes its client if it has none, which does not appear on standard output. -/
theorem exists_of_run {client : Option Feed.Client} {host : Host}
    (h : (c.run setting client host).result = .ok matrix) :
    ∃ (own : Feed.Client) (start : Host) (made : List Event), start.files = host.files ∧
      (∀ event ∈ made, event.IsHidden) ∧ (c.runWith setting own start).result = .ok matrix ∧
      c.run setting client host = (c.runWith setting own start).after made := by
  cases client with
  | some client =>
    have hpure : ((Pure.pure client : Act Host Feed.Client) host).result = .ok client := rfl
    rw [run_some, Act.bind_apply_of_ok hpure] at h ⊢
    exact ⟨client, host, [], rfl, fun _ => List.not_mem_nil.elim, h, rfl⟩
  | none =>
    rw [run_none] at h ⊢
    obtain ⟨own, hown, hrun⟩ := Act.exists_of_result_bind h
    have hmade : ∀ event ∈ (Feed.Client.prepare c.clientSettings host.desk).events,
        event.IsHidden := (Feed.Client.hidden_prepare c.clientSettings host.desk).2
    rw [Act.bind_apply_of_ok hown]
    exact ⟨own, (Host.atDesk (Feed.Client.prepare c.clientSettings) host).state, _, rfl, hmade, hrun,
      rfl⟩

theorem run_result_of_built {client : Feed.Client} {host : Host}
    (hbuilt : (c.built client host.desk).result = .ok matrix) :
    (c.run setting (some client) host).result =
      ((do Output.post c matrix; return matrix)
        (⟨(c.built client host.desk).state, host.files⟩ : Host)).result := by
  have hpure : ((Pure.pure client : Act Host Feed.Client) host).result = .ok client := rfl
  have hrun : c.runWith setting client host = _ := runWith_of_built hbuilt
  rw [run_some, Act.result_bind hpure]
  show (c.runWith setting client host).result = _
  rw [hrun]
  rfl

theorem run_result {client : Feed.Client} {host : Host}
    (hbuilt : (SupportMatrix.build c.expression (some client.provider) c.offline host.desk).result =
      .ok matrix)
    (hposted : (c.posted client host matrix).result = .ok ()) :
    (c.run setting (some client) host).result = .ok matrix := by
  rw [run_result_of_built hbuilt]
  exact Act.result_bind hposted

theorem run_result_of_refused {client : Feed.Client} {host : Host} {fault : Fault}
    (hbuilt : (c.built client host.desk).result = .ok matrix)
    (hposted : (c.posted client host matrix).result = .error fault) :
    (c.run setting (some client) host).result = .error fault := by
  rw [run_result_of_built hbuilt]
  exact Act.result_bind_of_error hposted

/-- A run whose expression is refused has made a client and nothing else. -/
theorem run_of_read_eq_error {fault : Fault} (hretries : 0 ≤ c.retries)
    (h : Expression.read c.expression = .error fault) (setting : Setting) (host : Host) :
    c.run setting none host =
      ⟨.error fault, { host with desk := { host.desk with snapshot := none } },
        [.clientMade (some c.clientSettings)]⟩ := by
  obtain ⟨client, hclient⟩ := @Feed.Client.exists_of_prepare c.clientSettings hretries host.desk
  have hprepare :
      (Host.atDesk (Feed.Client.prepare c.clientSettings) host).result = .ok client := by
    rw [Host.atDesk_apply, hclient]
  have hrun (later : Host) : c.runWith setting client later = ⟨.error fault, later, []⟩ := by
    have hbuild : (Host.atDesk
        (SupportMatrix.build c.expression (some client.provider) c.offline) later).result =
          .error fault := by
      rw [Host.atDesk_apply, SupportMatrix.build_of_error h]
    rw [runWith, Act.bind_apply_of_error hbuild, Host.atDesk_apply, SupportMatrix.build_of_error h]
  rw [run_none, Act.bind_apply_of_ok hprepare, hrun, Host.atDesk_apply, hclient]
  rfl

end Configuration

end ReleaseLines
