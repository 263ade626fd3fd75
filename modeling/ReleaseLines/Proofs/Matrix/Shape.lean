import ReleaseLines.Proofs.Constraint.Recognition
import ReleaseLines.Proofs.Matrix.Origin

namespace ReleaseLines

/-- Digits, a dot and digits, and nothing else. -/
def IsBare (line : String) : Prop :=
  ∃ major minor : DigitRun, line = (Spelling.mk major minor none).text

theorem isBare_iff (line : String) :
    IsBare line ↔ (Token.majorMinor? line.toList).map (·.2.2) = some [] := by
  constructor
  · rintro ⟨major, minor, rfl⟩
    have hread : Token.majorMinor? (Spelling.mk major minor none).chars =
        some (major.chars, minor.chars, []) :=
      Token.majorMinor?_append major minor rfl
    rw [Spelling.text, String.toList_ofList, hread]
    rfl
  · intro h
    obtain ⟨⟨_, _, rest⟩, hread, rfl⟩ := Option.map_eq_some_iff.mp h
    obtain ⟨major, minor, rfl, rfl, _, hline⟩ := Token.exists_of_majorMinor?_eq_some hread
    exact ⟨major, minor, String.toList_injective (hline.trans String.toList_ofList.symm)⟩

instance : DecidablePred IsBare := fun line => decidable_of_iff _ (isBare_iff line).symm

namespace Feed

theorem isBare_of_mem_fallbackLines : ∀ line ∈ fallbackLines, IsBare line := by
  decide

/-- Lines are published as the feed spells them, so all of them are bare if and only if those are
that the feed supports. -/
theorem isBare_of_build {client : Client} {desk : Desk} {expression : String}
    {matrix : SupportMatrix}
    (h : (SupportMatrix.build expression (some client.provider) false desk).result = .ok matrix) :
    (∀ line ∈ matrix.versions, line ∈ matrix.candidates) ∧
    ((∀ line ∈ matrix.candidates, IsBare line) ↔
      ∀ catalog, (client.fetch desk).result = .ok catalog →
        ∀ cycle, catalog.Supports (client.fetch desk).state.today cycle → IsBare cycle) := by
  refine ⟨fun _ hline => (SupportMatrix.versions_sublist_of_build h).subset hline, ?_⟩
  rcases origin_of_build h with ⟨catalog, hfetch, _, _, hcandidates⟩ | ⟨hnone, _, hcandidates⟩
  · constructor
    · intro hbare other hother cycle hcycle
      obtain rfl := Except.ok.inj (hother.symm.trans hfetch)
      exact hbare cycle ((hcandidates cycle).mpr hcycle)
    · exact fun hbare line hline => hbare catalog hfetch line ((hcandidates line).mp hline)
  · rw [hcandidates]
    exact iff_of_true isBare_of_mem_fallbackLines
      fun catalog hfetch cycle hcycle => absurd ⟨cycle, hcycle⟩ (hnone catalog hfetch)

theorem isBare_of_build_from_oldestLine :
    (SupportMatrix.build ">=3.9" (some Client.standard.provider) false
      (.publishing [.obj [("cycle", .str "3.12")], .obj [("cycle", .str "3.8")]])).result =
      .ok ⟨["3.12"], ">=3.9", SupportMatrix.feedSource, ["3.12"]⟩ ∧
    ∀ line ∈ ["3.12"], IsBare line := by
  have hbuild : (SupportMatrix.build ">=3.9" (some Client.standard.provider) false
      (.publishing [.obj [("cycle", .str "3.12")], .obj [("cycle", .str "3.8")]])).result =
      .ok ⟨["3.12"], ">=3.9", SupportMatrix.feedSource, ["3.12"]⟩ :=
    build_from_oldestLine (by decide +kernel) rfl (List.cons_ne_nil _ _)
  refine ⟨hbuild, (isBare_of_build hbuild).2.mpr fun catalog hfetch cycle hcycle => ?_⟩
  obtain rfl : Payload.entries (.arr [.obj [("cycle", .str "3.12")],
      .obj [("cycle", .str "3.8")]]) = catalog := Except.ok.inj hfetch
  rw [← mem_liveCycles_iff] at hcycle
  revert cycle
  decide +kernel

/-- The feed may spell a line in another way, and it is published so. -/
theorem not_always_bare_of_build :
    ¬∀ (client : Client) (desk : Desk) (expression : String) (matrix : SupportMatrix),
      (SupportMatrix.build expression (some client.provider) false desk).result = .ok matrix →
      ∀ line, line ∈ matrix.versions ∨ line ∈ matrix.candidates → IsBare line := by
  intro h
  have hbuild : (SupportMatrix.build ">=3.9" (some Client.standard.provider) false
      (.publishing [.obj [("cycle", .str "3.12.4")]])).result =
      .ok ⟨["3.12.4"], ">=3.9", SupportMatrix.feedSource, ["3.12.4"]⟩ :=
    build_from_oldestLine (by decide +kernel) rfl (List.cons_ne_nil _ _)
  have hbare : ¬IsBare "3.12.4" := by decide
  exact hbare (h _ _ _ _ hbuild "3.12.4" (.inl (List.mem_singleton_self _)))

end Feed

end ReleaseLines
