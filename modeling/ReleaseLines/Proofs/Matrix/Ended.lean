import ReleaseLines.Proofs.Matrix.Origin

namespace ReleaseLines

namespace Feed

theorem isAtLeast_of_mem_fallbackLines {line : String} (h : line ∈ fallbackLines) :
    Version.isAtLeast line oldestLine = true := by
  obtain ⟨pair, hpair, rfl⟩ := List.mem_map.mp (show line ∈ keyedFallback.map (·.2) from h)
  refine (isAtLeast_oldestLine_iff pair.2).mpr ⟨pair.1, read_keyedFallback pair hpair, ?_⟩
  revert pair
  decide

/-- Where all lines of the feed have ended, the built-in ones are taken without regard to it. -/
theorem build_of_ended_line :
    (SupportMatrix.build ">=3.9" (some Client.standard.provider) false
      (.publishing [.obj [("cycle", .str "3.9"), ("eol", .bool true)]])).result =
      .ok ⟨fallbackLines, ">=3.9", SupportMatrix.fallbackSource, fallbackLines⟩ := by
  have hsupported : (Client.standard.provider.supported
      (.publishing [.obj [("cycle", .str "3.9"), ("eol", .bool true)]])).result = .ok [] := by
    decide +kernel
  exact build_from_oldestLine (Provider.candidates_of_nil rfl hsupported) rfl (List.cons_ne_nil _ _)

/-- No line of a matrix has ended where the feed supports a line on the day of the clock. Where it
supports none the built-in lines stand in, those among them that the feed lists having ended. -/
theorem isEnded_of_build {client : Client} {desk : Desk} {expression : String}
    {matrix : SupportMatrix} {catalog : Catalog}
    (h : (SupportMatrix.build expression (some client.provider) false desk).result = .ok matrix)
    (hfetch : (client.fetch desk).result = .ok catalog) :
    ((∃ cycle, catalog.Supports (client.fetch desk).state.today cycle) →
      matrix.source = SupportMatrix.feedSource ∧
      ∀ line ∈ matrix.versions, ∀ later : Desk, later.today = (client.fetch desk).state.today →
        (isEnded line catalog later).result = .ok (false, "")) ∧
    ((¬∃ cycle, catalog.Supports (client.fetch desk).state.today cycle) →
      matrix.source = SupportMatrix.fallbackSource ∧ matrix.candidates = fallbackLines ∧
      ∀ line ∈ matrix.versions, ∀ later : Desk, later.today = (client.fetch desk).state.today →
        ((∃ since, (isEnded line catalog later).result = .ok (true, since)) ↔
          line ∈ catalog.cycles)) := by
  have hversions := (SupportMatrix.versions_sublist_of_build h).subset
  rcases origin_of_build h with
    ⟨other, hother, hlisted, hsource, hcandidates⟩ | ⟨hnone, hsource, hcandidates⟩
  · obtain rfl := Except.ok.inj (hother.symm.trans hfetch)
    refine ⟨fun _ => ⟨hsource, fun line hline later htoday => ?_⟩,
      fun hnone => absurd hlisted hnone⟩
    have hsupports := (hcandidates line).mp (hversions hline)
    exact isEnded_of_supports (htoday ▸ hsupports)
  · refine ⟨fun hlisted => absurd hlisted (hnone catalog hfetch), fun hnone => ?_⟩
    refine ⟨hsource, hcandidates, fun line hline later htoday => ?_⟩
    have hleast := isAtLeast_of_mem_fallbackLines (hcandidates ▸ hversions hline)
    exact isEnded_iff_of_not_supports hleast fun hsupports => hnone ⟨line, htoday ▸ hsupports⟩

theorem isEnded_of_build_from_oldestLine :
    (isEnded "3.12" (Payload.entries (.arr [.obj [("cycle", .str "3.12")],
        .obj [("cycle", .str "3.9"), ("eol", .bool true)]])) (.publishing [])).result =
      .ok (false, "") ∧
    ∃ since, (isEnded "3.9" (Payload.entries (.arr
        [.obj [("cycle", .str "3.9"), ("eol", .bool true)]])) (.publishing [])).result =
      .ok (true, since) := by
  let ended : Json := .obj [("cycle", .str "3.9"), ("eol", .bool true)]
  let mixed : Desk := .publishing [.obj [("cycle", .str "3.12")], ended]
  have hmixed : (SupportMatrix.build ">=3.9" (some Client.standard.provider) false mixed).result =
      .ok ⟨["3.12"], ">=3.9", SupportMatrix.feedSource, ["3.12"]⟩ :=
    build_from_oldestLine (by decide +kernel) rfl (List.cons_ne_nil _ _)
  have hlisted : (Payload.entries (.arr [.obj [("cycle", .str "3.12")], ended])).Supports
      (Client.standard.fetch mixed).state.today "3.12" :=
    (mem_liveCycles_iff _ _ _).mp (by decide +kernel)
  have hnone : ¬∃ cycle, (Payload.entries (.arr [ended])).Supports
      (Client.standard.fetch (.publishing [ended])).state.today cycle := by
    rintro ⟨cycle, hcycle⟩
    have hlive : (Payload.entries (.arr [ended])).cycles.filter
        ((Payload.entries (.arr [ended])).isLive oldestLine
          (Client.standard.fetch (.publishing [ended])).state.today) = [] := by
      decide +kernel
    rw [← mem_liveCycles_iff, hlive] at hcycle
    cases hcycle
  have hmixedDay : (Desk.publishing []).today = (Client.standard.fetch mixed).state.today := by
    decide +kernel
  have hendedDay : (Desk.publishing []).today =
      (Client.standard.fetch (.publishing [ended])).state.today := by
    decide +kernel
  refine ⟨((isEnded_of_build hmixed rfl).1 ⟨_, hlisted⟩).2 "3.12" (by simp) _ hmixedDay, ?_⟩
  exact (((isEnded_of_build build_of_ended_line rfl).2 hnone).2.2 "3.9" (by simp [fallbackLines])
    _ hendedDay).mpr (by decide +kernel)

/-- The feed may be known and a line be taken that it says has ended. -/
theorem not_always_live_of_build :
    ¬∀ (client : Client) (desk : Desk) (expression : String) (matrix : SupportMatrix)
      (catalog : Catalog),
      (SupportMatrix.build expression (some client.provider) false desk).result = .ok matrix →
      (client.fetch desk).result = .ok catalog →
      ∀ line ∈ matrix.versions, ∀ later : Desk, later.today = (client.fetch desk).state.today →
        ∀ since, (isEnded line catalog later).result ≠ .ok (true, since) := by
  intro h
  exact h Client.standard _ ">=3.9" _ _ build_of_ended_line rfl "3.9" (by simp [fallbackLines])
    (.publishing []) (by decide +kernel) "true" rfl

end Feed

end ReleaseLines
