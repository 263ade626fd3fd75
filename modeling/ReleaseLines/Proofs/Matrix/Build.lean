import ReleaseLines.Proofs.Constraint.Selection
import ReleaseLines.Proofs.Feed.Supported
import ReleaseLines.Proofs.Matrix.Sorting

namespace ReleaseLines

open Act

variable {σ : Type}

/-- What an expression comes to: the candidates that satisfy all its constraints, in ascending
order, and the newest of them to build with. -/
def Publishes (result : Except Fault SupportMatrix) (expression : String)
    (found : List Constraint) (source : String) (candidates : List String) : Prop :=
  Ascending candidates ∧
  ∃ versions : List String, versions.Sublist candidates ∧
    (∀ line, line ∈ versions ↔
      line ∈ candidates ∧ ∀ c ∈ found, c.isSatisfiedBy line = .ok true) ∧
    Ascending versions ∧ versions.Nodup ∧
    ((versions = [] ∧ result = .error (.noMatch expression)) ∨
      ∃ matrix newest, result = .ok matrix ∧
        matrix = ⟨versions, expression, source, candidates⟩ ∧
        matrix.buildVersion = some newest ∧ newest ∈ versions ∧
        ∀ other ∈ versions, other ≠ newest → Below other newest)

theorem Ascending.newest {lines : List String} (h : Ascending lines) (hne : lines ≠ []) :
    ∃ newest, lines.getLast? = some newest ∧ newest ∈ lines ∧
      ∀ other ∈ lines, other ≠ newest → Below other newest := by
  have hsplit := List.dropLast_append_getLast hne
  refine ⟨lines.getLast hne, List.getLast?_eq_some_getLast hne, List.getLast_mem hne, ?_⟩
  intro other hother hdiffers
  rw [Ascending, ← hsplit, List.pairwise_append] at h
  rw [← hsplit, List.mem_append, List.mem_singleton] at hother
  rcases hother with hother | rfl
  · exact h.2.2 other hother _ (List.mem_singleton_self _)
  · exact absurd rfl hdiffers

theorem resolve_result_of_read {expression : String} {candidates : List String}
    {found : List Constraint} (h : Expression.read expression = .ok found)
    (hne : candidates ≠ []) (state : σ) :
    (resolve expression candidates state).result =
      match Constraint.select candidates found with
      | .error problem => .error (.badValue problem)
      | .ok selected => if selected = [] then .error (.noMatch expression) else .ok selected := by
  have hexpression : expression ≠ "" := by
    rintro rfl
    rw [Expression.read_empty] at h
    cases h
  rw [resolve, if_neg (by simpa using hexpression), if_neg (by simpa using hne),
    result_bind (ofExcept_result h _), result_bind rfl]
  cases hselect : Constraint.select candidates found with
  | error problem => exact result_bind_of_error rfl
  | ok selected =>
    rw [result_bind (ofValue_result rfl _)]
    cases selected with
    | nil => rfl
    | cons first rest => rfl

/-- What a resolution comes to does not depend on the state. -/
theorem resolve_result_eq (expression : String) (candidates : List String) (state : σ) :
    (resolve expression candidates state).result =
      if expression = "" then .error .emptyRequirement
      else if candidates = [] then .error .noCandidatesLeft
      else
        match Expression.read expression with
        | .error fault => .error fault
        | .ok found =>
          match Constraint.select candidates found with
          | .error problem => .error (.badValue problem)
          | .ok selected =>
            if selected = [] then .error (.noMatch expression) else .ok selected := by
  by_cases hempty : expression = ""
  · rw [if_pos hempty, resolve, if_pos (by simpa using hempty)]
    rfl
  · rw [if_neg hempty]
    by_cases hnone : candidates = []
    · rw [if_pos hnone, resolve, if_neg (by simpa using hempty), if_pos (by simpa using hnone)]
      rfl
    · rw [if_neg hnone]
      cases hread : Expression.read expression with
      | error fault =>
        rw [resolve, if_neg (by simpa using hempty), if_neg (by simpa using hnone), hread]
        rfl
      | ok found => exact resolve_result_of_read hread hnone state

theorem resolve_result {expression : String} {candidates selected : List String}
    {found : List Constraint} (h : Expression.read expression = .ok found)
    (hne : candidates ≠ []) (hselect : Constraint.select candidates found = .ok selected)
    (state : σ) :
    (resolve expression candidates state).result =
      if selected = [] then .error (.noMatch expression) else .ok selected := by
  rw [resolve_result_of_read h hne, hselect]

namespace SupportMatrix

/-- Once the candidates are known, a matrix is what the constraints leave of them. -/
theorem publishes_of_candidates {expression source : String} {candidates : List String}
    {found : List Constraint} {provider : Option (Provider σ)} {offline : Bool} {state : σ}
    (h : Expression.read expression = .ok found)
    (hcandidates : (candidatesOf provider offline state).result = .ok (candidates, source))
    (hne : candidates ≠ []) (hascending : Ascending candidates)
    (hreadable : ∀ line ∈ candidates, ∃ version, Version.read line = .ok version) :
    Publishes (build expression provider offline state).result expression found source
      candidates := by
  have hselect := Constraint.select_of_readable hreadable fun _ => Expression.exists_read_version h
  have hmem (line : String) := @Constraint.mem_selected_iff candidates found line
  have hsublist := Constraint.select_sublist hselect
  generalize candidates.filter (fun line => found.all fun c => c.admitsText line) = selected at *
  have hselected : Ascending selected := List.Pairwise.sublist hsublist hascending
  have hstart : (Act.ofExcept (Expression.read expression) state).state = state := by
    rw [h]
    rfl
  have hresolve (s : σ) := resolve_result h hne hselect s
  refine ⟨hascending, selected, hsublist, hmem, hselected, hselected.nodup, ?_⟩
  rw [build, result_bind (ofExcept_result h _), hstart, result_bind hcandidates]
  by_cases hnone : selected = []
  · refine .inl ⟨hnone, result_bind_of_error ?_⟩
    rw [hresolve, if_pos hnone]
  · obtain ⟨newest, hnewest, hin, hbelow⟩ := hselected.newest hnone
    have hversions (s : σ) : (resolve expression candidates s).result = .ok selected := by
      rw [hresolve, if_neg hnone]
    refine .inr ⟨⟨selected, expression, source, candidates⟩, newest, ?_, rfl, hnewest, hin, hbelow⟩
    rw [result_bind (hversions _)]
    rfl

end SupportMatrix

def keyedFallback : List (Version × String) :=
  [(⟨3, 9⟩, "3.9"), (⟨3, 10⟩, "3.10"), (⟨3, 11⟩, "3.11"), (⟨3, 12⟩, "3.12"), (⟨3, 13⟩, "3.13"),
    (⟨3, 14⟩, "3.14")]

theorem read_keyedFallback : ∀ pair ∈ keyedFallback, Version.read pair.2 = .ok pair.1 := by
  simp only [keyedFallback, List.forall_mem_cons, List.not_mem_nil, false_imp_iff, implies_true,
    and_true]
  exact ⟨rfl, rfl, rfl, rfl, rfl, rfl⟩

theorem sorted_keyedFallback : keyedFallback.Pairwise fun a b => a.1 < b.1 := by
  decide

theorem sortLines_fallbackLines : sortLines Feed.fallbackLines = .ok Feed.fallbackLines :=
  sortLines_of_keyed read_keyedFallback sorted_keyedFallback

theorem ascending_fallbackLines : Ascending Feed.fallbackLines :=
  ascending_of_keyed read_keyedFallback sorted_keyedFallback

theorem exists_read_fallbackLines {line : String} (h : line ∈ Feed.fallbackLines) :
    ∃ version, Version.read line = .ok version := by
  obtain ⟨pair, hpair, rfl⟩ := List.mem_map.mp (show line ∈ keyedFallback.map (·.2) from h)
  exact ⟨pair.1, read_keyedFallback pair hpair⟩

namespace Provider

/-- Lines put in order, with their source, where they could be had. -/
def sortedFrom (source : String) : Except Fault (List String) → Except Fault (List String × String)
  | .error fault => .error fault
  | .ok lines =>
    match sortLines lines with
    | .error problem => .error (.badValue problem)
    | .ok sorted => .ok (sorted, source)

theorem sortedFrom_eq_ok_iff {source origin : String} {lines sorted : List String} :
    sortedFrom source (.ok lines) = .ok (sorted, origin) ↔
      sortLines lines = .ok sorted ∧ origin = source := by
  rw [sortedFrom]
  cases sortLines lines with
  | error problem => simp
  | ok others => simp [eq_comm]

/-- What a provider falls back on; where it is not offline, it was asked for its lines before. -/
def fallbackAnswer (provider : Provider σ) (offline : Bool) (state : σ) :
    Except Fault (List String) :=
  (provider.fallback (if offline then state else (provider.supported state).state)).result

theorem sortLines_result (lines : List String) (source : String) (state : σ) :
    ((do
      let sorted ← Act.ofValue (sortLines lines)
      return (sorted, source) : Act σ (List String × String)) state).result =
      sortedFrom source (.ok lines) := by
  rw [sortedFrom]
  cases sortLines lines with
  | error problem => rfl
  | ok sorted => rfl

variable {provider : Provider σ} {state : σ}

theorem fallbackCandidates_result (provider : Provider σ) (state : σ) :
    (provider.fallbackCandidates state).result =
      sortedFrom SupportMatrix.fallbackSource (provider.fallback state).result := by
  rw [fallbackCandidates]
  cases hlines : (provider.fallback state).result with
  | error fault => exact result_bind_of_error hlines
  | ok lines =>
    rw [result_bind hlines]
    exact sortLines_result lines SupportMatrix.fallbackSource _

/-- The supported lines are taken where there are any, and what the provider falls back on otherwise
and offline. A fault is only let through if it is none of this library's own. -/
theorem candidates_result (provider : Provider σ) (offline : Bool) (state : σ) :
    (provider.candidates offline state).result =
      if offline then
        sortedFrom SupportMatrix.fallbackSource (provider.fallbackAnswer true state)
      else
        match (provider.supported state).result with
        | .error fault =>
          if fault.isA .general then
            sortedFrom SupportMatrix.fallbackSource (provider.fallbackAnswer false state)
          else .error fault
        | .ok [] => sortedFrom SupportMatrix.fallbackSource (provider.fallbackAnswer false state)
        | .ok lines => sortedFrom SupportMatrix.feedSource (.ok lines) := by
  cases offline with
  | true =>
    rw [candidates, if_pos rfl, result_bind rfl, fallbackCandidates_result]
    rfl
  | false =>
    rw [candidates, if_neg Bool.false_ne_true, if_neg Bool.false_ne_true, either_result]
    cases (provider.supported state).result with
    | error fault =>
      cases hkind : fault.isA .general with
      | true =>
        simp only [hkind, if_true]
        rw [result_bind rfl, fallbackCandidates_result]
        rfl
      | false => simp only [hkind, Bool.false_eq_true, if_false, fail_apply]
    | ok lines =>
      cases lines with
      | nil =>
        simp only
        rw [result_bind rfl, fallbackCandidates_result]
        rfl
      | cons line rest => exact sortLines_result (line :: rest) SupportMatrix.feedSource _

theorem sortedFrom_fallbackAnswer (h : provider.fallback = Pure.pure Feed.fallbackLines)
    (offline : Bool) (state : σ) :
    sortedFrom SupportMatrix.fallbackSource (provider.fallbackAnswer offline state) =
      .ok (Feed.fallbackLines, SupportMatrix.fallbackSource) := by
  rw [fallbackAnswer, h]
  exact sortedFrom_eq_ok_iff.mpr ⟨sortLines_fallbackLines, rfl⟩

theorem candidates_offline (h : provider.fallback = Pure.pure Feed.fallbackLines) (state : σ) :
    (provider.candidates true state).result =
      .ok (Feed.fallbackLines, SupportMatrix.fallbackSource) := by
  rw [candidates_result, if_pos rfl, sortedFrom_fallbackAnswer h]

theorem candidates_of_error {fault : Fault} (h : provider.fallback = Pure.pure Feed.fallbackLines)
    (hsupported : (provider.supported state).result = .error fault)
    (hkind : fault.isA .general = true) :
    (provider.candidates false state).result =
      .ok (Feed.fallbackLines, SupportMatrix.fallbackSource) := by
  rw [candidates_result, if_neg Bool.false_ne_true, hsupported]
  simp only [hkind, if_true, sortedFrom_fallbackAnswer h]

theorem candidates_of_escaped {fault : Fault}
    (hsupported : (provider.supported state).result = .error fault)
    (hkind : fault.isA .general = false) :
    (provider.candidates false state).result = .error fault := by
  rw [candidates_result, if_neg Bool.false_ne_true, hsupported]
  simp only [hkind, Bool.false_eq_true, if_false]

theorem candidates_of_nil (h : provider.fallback = Pure.pure Feed.fallbackLines)
    (hsupported : (provider.supported state).result = .ok []) :
    (provider.candidates false state).result =
      .ok (Feed.fallbackLines, SupportMatrix.fallbackSource) := by
  rw [candidates_result, if_neg Bool.false_ne_true, hsupported]
  exact sortedFrom_fallbackAnswer h false state

theorem candidates_of_lines {lines : List String} (hne : lines ≠ [])
    (hsupported : (provider.supported state).result = .ok lines) :
    (provider.candidates false state).result =
      sortedFrom SupportMatrix.feedSource (.ok lines) := by
  obtain ⟨first, rest, rfl⟩ := List.exists_cons_of_ne_nil hne
  rw [candidates_result, if_neg Bool.false_ne_true, hsupported]

theorem candidates_of_supported {lines sorted : List String} (hne : lines ≠ [])
    (hsupported : (provider.supported state).result = .ok lines)
    (hsorted : sortLines lines = .ok sorted) :
    (provider.candidates false state).result = .ok (sorted, SupportMatrix.feedSource) := by
  rw [candidates_of_lines hne hsupported]
  exact sortedFrom_eq_ok_iff.mpr ⟨hsorted, rfl⟩

theorem candidates_of_single {line : String} {version : Version}
    (hversion : Version.read line = .ok version)
    (hsupported : (provider.supported state).result = .ok [line]) :
    (provider.candidates false state).result = .ok ([line], SupportMatrix.feedSource) := by
  have hread : ∀ pair ∈ [(version, line)], Version.read pair.2 = .ok pair.1 := fun pair hpair =>
    List.mem_singleton.mp hpair ▸ hversion
  have hsorted : sortLines [line] = .ok [line] :=
    sortLines_of_keyed hread (List.pairwise_singleton _ _)
  exact candidates_of_supported (List.cons_ne_nil _ _) hsupported hsorted

end Provider

namespace Feed

theorem isA_general_of_fetchExhausted {fault : Fault} (h : fault.isA .fetchExhausted = true) :
    fault.isA .general = true := by
  rw [Fault.isA] at h ⊢
  cases hkind : fault.kind? with
  | none =>
    rw [hkind] at h
    cases h
  | some own =>
    rw [hkind] at h
    revert h
    cases own <;> decide

/-- The matrix of an accepted expression holds the lines that the feed supports on the day of the
clock, or the built-in ones where it supports none or cannot be had, as far as the expression
admits them. -/
theorem build_publishes (client : Client) (desk : Desk) {expression : String}
    {found : List Constraint} (h : Expression.read expression = .ok found) :
    (∀ catalog, (client.fetch desk).result = .ok catalog →
      (∀ first second, catalog.Supports (client.fetch desk).state.today first →
        catalog.Supports (client.fetch desk).state.today second →
        Version.read first = Version.read second → first = second) →
      ((∃ cycle, catalog.Supports (client.fetch desk).state.today cycle) →
        ∃ candidates, (∀ cycle, cycle ∈ candidates ↔
            catalog.Supports (client.fetch desk).state.today cycle) ∧
          Publishes (SupportMatrix.build expression (some client.provider) false desk).result
            expression found SupportMatrix.feedSource candidates) ∧
      ((¬∃ cycle, catalog.Supports (client.fetch desk).state.today cycle) →
        Publishes (SupportMatrix.build expression (some client.provider) false desk).result
          expression found SupportMatrix.fallbackSource fallbackLines)) ∧
    ∀ fault, (client.fetch desk).result = .error fault → fault.isA .fetchExhausted = true →
      Publishes (SupportMatrix.build expression (some client.provider) false desk).result
        expression found SupportMatrix.fallbackSource fallbackLines := by
  have hfallback : fallbackLines ≠ [] := List.cons_ne_nil _ _
  refine ⟨fun catalog hfetch hdistinct => ⟨?_, ?_⟩, fun fault hfetch hkind => ?_⟩
  · rintro ⟨cycle, hcycle⟩
    have hsupported := supported_result hfetch oldestLine
    generalize (client.fetch desk).state.today = today at *
    have hmem := mem_liveCycles_iff catalog today
    obtain ⟨sorted, hsorted, hascending, hsame⟩ := sortLines_ascending
      (fun line hline => by
        obtain ⟨⟨version, hversion, _⟩, _⟩ := (hmem line).mp hline
        exact ⟨version, hversion⟩)
      fun first hfirst second hsecond =>
        hdistinct first second ((hmem first).mp hfirst) ((hmem second).mp hsecond)
    have hiff (line : String) : line ∈ sorted ↔ catalog.Supports today line :=
      (hsame line).trans (hmem line)
    refine ⟨sorted, hiff, SupportMatrix.publishes_of_candidates h
      (Provider.candidates_of_supported (List.ne_nil_of_mem ((hmem cycle).mpr hcycle)) hsupported
        hsorted) (List.ne_nil_of_mem ((hiff cycle).mpr hcycle)) hascending fun line hline => ?_⟩
    obtain ⟨⟨version, hversion, _⟩, _⟩ := (hiff line).mp hline
    exact ⟨version, hversion⟩
  · intro hnone
    have hsupported : (client.provider.supported desk).result = .ok [] := by
      refine (supported_result hfetch oldestLine).trans (congrArg Except.ok ?_)
      rw [List.eq_nil_iff_forall_not_mem]
      exact fun cycle hcycle => hnone ⟨cycle, (mem_liveCycles_iff _ _ cycle).mp hcycle⟩
    exact SupportMatrix.publishes_of_candidates h (Provider.candidates_of_nil rfl hsupported)
      hfallback ascending_fallbackLines fun _ => exists_read_fallbackLines
  · have hsupported : (client.provider.supported desk).result = .error fault :=
      result_bind_of_error hfetch
    exact SupportMatrix.publishes_of_candidates h
      (Provider.candidates_of_error rfl hsupported (isA_general_of_fetchExhausted hkind))
      hfallback ascending_fallbackLines fun _ => exists_read_fallbackLines

theorem build_publishes_listed_lines :
    ∃ candidates, (∀ cycle, cycle ∈ candidates ↔ cycle = "3.12" ∨ cycle = "3.10") ∧
      Publishes (SupportMatrix.build "!=3.11" (some Client.standard.provider) false
        ⟨none, .epoch, false, [.answer 200 none (.payload (.arr
          [.obj [("cycle", .str "3.12")], .obj [("cycle", .str "3.10")],
            .obj [("cycle", .str "3.8")]]))]⟩).result
        "!=3.11" [⟨.ne, "3.11"⟩] SupportMatrix.feedSource candidates := by
  let payload : Json := .arr [.obj [("cycle", .str "3.12")], .obj [("cycle", .str "3.10")],
    .obj [("cycle", .str "3.8")]]
  let desk : Desk := ⟨none, .epoch, false, [.answer 200 none (.payload payload)]⟩
  have hread : Expression.read "!=3.11" = .ok [⟨.ne, "3.11"⟩] := by
    have hfits : (Clause.written .ne (toLex (3, 11))).Fits :=
      Clause.fits_of_short fun run h => h.length_le.trans_lt (by decide +kernel)
    exact Expression.read_eq_ok_iff.mpr ⟨[.written .ne (toLex (3, 11))], by simp, by decide +kernel,
      by simpa using hfits, by decide +kernel⟩
  let today : Date := (Client.standard.fetch desk).state.today
  have hsupports (cycle : String) :
      (Payload.entries payload).Supports today cycle ↔ cycle = "3.12" ∨ cycle = "3.10" := by
    have hlive : (Payload.entries payload).cycles.filter
        ((Payload.entries payload).isLive oldestLine today) = ["3.12", "3.10"] := by
      decide +kernel
    rw [← mem_liveCycles_iff, hlive]
    simp
  have hnewer : Version.read "3.12" = .ok ⟨3, 12⟩ := rfl
  have holder : Version.read "3.10" = .ok ⟨3, 10⟩ := rfl
  have hkey := (build_publishes Client.standard desk hread).1 (Payload.entries payload) rfl
    (fun first second hfirst hsecond heq => by
      rcases (hsupports first).mp hfirst with rfl | rfl <;>
        rcases (hsupports second).mp hsecond with rfl | rfl
      · rfl
      · exact absurd (Except.ok.inj (hnewer.symm.trans (heq.trans holder))) (by decide)
      · exact absurd (Except.ok.inj (holder.symm.trans (heq.trans hnewer))) (by decide)
      · rfl)
  obtain ⟨candidates, hcandidates, hpublishes⟩ := hkey.1 ⟨"3.12", (hsupports _).mpr (.inl rfl)⟩
  exact ⟨candidates, fun cycle => (hcandidates cycle).trans (hsupports cycle), hpublishes⟩

end Feed

end ReleaseLines
