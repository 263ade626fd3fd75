import ReleaseLines.Feed.Payload

namespace ReleaseLines.Feed

/-- A text or null. -/
def IsTextOrNull : Json → Prop
  | .str _ | .null => True
  | _ => False

/-- A text, true, false or null. -/
def IsMarkValue : Json → Prop
  | .str _ | .bool _ | .null => True
  | _ => False

/-- What the feed's documentation asks of an object. -/
structure IsDocumentedObject (members : List (String × Json)) : Prop where
  cycle : ∃ name, name ≠ "" ∧ members.lookup "cycle" = some (.str name)
  endOfLife : ∀ value, members.lookup "eol" = some value → IsMarkValue value
  support : ∀ value, members.lookup "support" = some value → IsMarkValue value

/-- What the rules ask of an object beyond that. -/
structure HasPlainDetails (members : List (String × Json)) : Prop where
  releaseDate : ∀ value, members.lookup "releaseDate" = some value → IsTextOrNull value
  latestPatch : ∀ value, members.lookup "latest" = some value → IsTextOrNull value
  latestReleaseDate : ∀ value, members.lookup "latestReleaseDate" = some value → IsTextOrNull value
  longTerm : ∀ value, members.lookup "lts" = some value → IsMarkValue value

/-- An array of one object or more, each as the documentation asks. -/
def IsDocumented (payload : Json) : Prop :=
  ∃ objects : List (List (String × Json)), payload = .arr (objects.map .obj) ∧ objects ≠ [] ∧
    ∀ members ∈ objects, IsDocumentedObject members

theorem any_admits_textOrNull (value : Json) :
    [ValueType.string, .null].any (·.admits value) = true ↔ IsTextOrNull value := by
  cases value <;> simp [ValueType.admits, IsTextOrNull]

theorem any_admits_markValue (value : Json) :
    [ValueType.string, .boolean, .null].any (·.admits value) = true ↔ IsMarkValue value := by
  cases value <;> simp [ValueType.admits, IsMarkValue]

theorem any_admits_longTerm (value : Json) :
    [ValueType.boolean, .string, .null].any (·.admits value) = true ↔ IsMarkValue value := by
  cases value <;> simp [ValueType.admits, IsMarkValue]

theorem Violation.foremost_eq_none_iff {found : List Violation} :
    foremost found = none ↔ found = [] := by
  cases found with
  | nil => simp [foremost]
  | cons first rest =>
    simp only [foremost, List.cons_ne_nil, iff_false]
    split
    · simp
    · split <;> simp

namespace Payload

variable {path : List Step} {members : List (String × Json)}

theorem typeViolations_eq_nil_iff {types : List ValueType} {value : Json} :
    typeViolations path types value = [] ↔ types.any (·.admits value) = true := by
  unfold typeViolations
  split
  next hadmits => simp [hadmits]
  next hrefused => simpa using hrefused

theorem memberViolations_eq_nil_iff {name : String} {types : List ValueType} :
    memberViolations path members (name, types) = [] ↔
      ∀ value, members.lookup name = some value → types.any (·.admits value) = true := by
  unfold memberViolations
  cases members.lookup name with
  | none => simp
  | some value => simp [typeViolations_eq_nil_iff]

theorem cycleViolations_eq_nil_iff :
    cycleViolations path members = [] ∧ memberViolations path members ("cycle", [.string]) = [] ↔
      ∃ name, name ≠ "" ∧ members.lookup "cycle" = some (.str name) := by
  rw [memberViolations_eq_nil_iff]
  unfold cycleViolations
  constructor
  · rintro ⟨hcycle, htype⟩
    split at hcycle
    · cases hcycle
    · cases hcycle
    next value hne hvalue =>
      cases value with
      | str name => exact ⟨name, fun hempty => hne (by rw [hempty]), hvalue⟩
      | _ => simpa [ValueType.admits] using htype _ hvalue
  · rintro ⟨name, hne, hvalue⟩
    rw [hvalue]
    constructor
    · split
      next habsent => cases habsent
      next hempty => exact absurd (Json.str.inj (Option.some.inj hempty)) hne
      next => rfl
    · rintro _ ⟨⟩
      rfl

theorem flatMap_memberViolations_eq_nil_iff :
    memberTypes.flatMap (memberViolations path members) = [] ↔
      memberViolations path members ("cycle", [.string]) = [] ∧
      (∀ value, members.lookup "eol" = some value → IsMarkValue value) ∧
      (∀ value, members.lookup "support" = some value → IsMarkValue value) ∧
      HasPlainDetails members := by
  simp only [memberTypes, List.flatMap_cons, List.flatMap_nil, List.append_nil,
    List.append_eq_nil_iff, memberViolations_eq_nil_iff, any_admits_textOrNull,
    any_admits_markValue, any_admits_longTerm]
  constructor
  · rintro ⟨hcycle, hrelease, heol, hsupport, hlatest, hlatestRelease, hlong⟩
    exact ⟨hcycle, heol, hsupport, hrelease, hlatest, hlatestRelease, hlong⟩
  · rintro ⟨hcycle, heol, hsupport, hdetails⟩
    exact ⟨hcycle, hdetails.releaseDate, heol, hsupport, hdetails.latestPatch,
      hdetails.latestReleaseDate, hdetails.longTerm⟩

theorem itemViolations_eq_nil_iff {item : Json} :
    itemViolations path item = [] ↔
      ∃ members, item = .obj members ∧ IsDocumentedObject members ∧ HasPlainDetails members := by
  cases item with
  | obj members =>
    rw [itemViolations, List.append_eq_nil_iff, flatMap_memberViolations_eq_nil_iff]
    constructor
    · rintro ⟨hcycle, htype, heol, hsupport, hdetails⟩
      exact ⟨members, rfl, ⟨cycleViolations_eq_nil_iff.mp ⟨hcycle, htype⟩, heol, hsupport⟩,
        hdetails⟩
    · rintro ⟨_, ⟨⟩, hobject, hdetails⟩
      obtain ⟨hcycle, htype⟩ := (@cycleViolations_eq_nil_iff path members).mpr hobject.cycle
      exact ⟨hcycle, htype, hobject.endOfLife, hobject.support, hdetails⟩
  | _ => simp [itemViolations, typeViolations_eq_nil_iff, ValueType.admits]

/-- Items keep the rules if and only if each one does, wherever it stands. -/
theorem itemsViolations_eq_nil_iff {index : Nat} {items : List Json} :
    itemsViolations index items = [] ↔ ∃ objects : List (List (String × Json)),
      items = objects.map .obj ∧
        ∀ members ∈ objects, IsDocumentedObject members ∧ HasPlainDetails members := by
  induction items generalizing index with
  | nil => simp [itemsViolations]
  | cons item rest ih =>
    rw [itemsViolations, List.append_eq_nil_iff, itemViolations_eq_nil_iff, ih]
    constructor
    · rintro ⟨⟨members, rfl, hmembers⟩, objects, rfl, hobjects⟩
      exact ⟨members :: objects, rfl, List.forall_mem_cons.mpr ⟨hmembers, hobjects⟩⟩
    · rintro ⟨_ | ⟨members, objects⟩, hitems, hobjects⟩
      · cases hitems
      · obtain ⟨rfl, rfl⟩ := List.cons.inj hitems
        obtain ⟨hmembers, hothers⟩ := List.forall_mem_cons.mp hobjects
        exact ⟨⟨members, rfl, hmembers⟩, objects, rfl, hothers⟩

theorem violations_eq_nil_iff {payload : Json} :
    violations payload = [] ↔ ∃ objects : List (List (String × Json)),
      payload = .arr (objects.map .obj) ∧
        ∀ members ∈ objects, IsDocumentedObject members ∧ HasPlainDetails members := by
  cases payload with
  | arr items => simp [violations, itemsViolations_eq_nil_iff]
  | _ => simp [violations, typeViolations_eq_nil_iff, ValueType.admits]

theorem validate_cases (payload : Json) :
    (validate payload = .ok () ∧ payload ≠ .arr [] ∧ violations payload = []) ∨
      (∃ reason, validate payload = .error (.catalog reason)) ∧
        (payload = .arr [] ∨ violations payload ≠ []) := by
  unfold validate
  split
  next => exact .inr ⟨⟨_, rfl⟩, .inl rfl⟩
  next hne =>
    split
    next hnone => exact .inl ⟨rfl, hne, Violation.foremost_eq_none_iff.mp hnone⟩
    next v hv =>
      refine .inr ⟨⟨_, rfl⟩, .inr fun hnil => ?_⟩
      rw [Violation.foremost_eq_none_iff.mpr hnil] at hv
      cases hv

theorem validate_eq_ok_iff {payload : Json} :
    validate payload = .ok () ↔ ∃ objects : List (List (String × Json)),
      payload = .arr (objects.map .obj) ∧ objects ≠ [] ∧
        ∀ members ∈ objects, IsDocumentedObject members ∧ HasPlainDetails members := by
  have hpayload (objects : List (List (String × Json))) :
      Json.arr (objects.map .obj) = .arr [] ↔ objects = [] := by simp
  rcases validate_cases payload with ⟨hvalid, hne, hnil⟩ | ⟨⟨reason, hrefused⟩, hbroken⟩
  · refine iff_of_true hvalid ?_
    obtain ⟨objects, rfl, hobjects⟩ := violations_eq_nil_iff.mp hnil
    exact ⟨objects, rfl, mt (hpayload objects).mpr hne, hobjects⟩
  · refine iff_of_false (by simp [hrefused]) ?_
    rintro ⟨objects, rfl, hne, hobjects⟩
    rcases hbroken with hempty | hviolated
    · exact hne ((hpayload objects).mp hempty)
    · exact hviolated (violations_eq_nil_iff.mpr ⟨objects, rfl, hobjects⟩)

theorem hasPlainDetails_of_validate {items : List Json} (h : validate (.arr items) = .ok ())
    (hmembers : .obj members ∈ items) : HasPlainDetails members := by
  obtain ⟨objects, hitems, _, hobjects⟩ := validate_eq_ok_iff.mp h
  obtain rfl := Json.arr.inj hitems
  obtain ⟨other, hother, hsame⟩ := List.mem_map.mp hmembers
  obtain rfl := Json.obj.inj hsame
  exact (hobjects other hother).2

/-- A payload is accepted if and only if it is as documented and the details of its objects are
plain too; any other is refused as a bad catalog. -/
theorem accepts_iff_isDocumented (payload : Json) :
    (validate payload = .ok () ↔ IsDocumented payload ∧
      ∀ items, payload = .arr items → ∀ members, .obj members ∈ items → HasPlainDetails members) ∧
    (validate payload = .ok () ∨ ∃ reason, validate payload = .error (.catalog reason)) := by
  constructor
  · constructor
    · intro hvalid
      obtain ⟨objects, hpayload, hne, hobjects⟩ := validate_eq_ok_iff.mp hvalid
      refine ⟨⟨objects, hpayload, hne, fun members hm => (hobjects members hm).1⟩, ?_⟩
      rintro items rfl members hmembers
      exact hasPlainDetails_of_validate hvalid hmembers
    · rintro ⟨⟨objects, hpayload, hne, hobjects⟩, hdetails⟩
      refine validate_eq_ok_iff.mpr ⟨objects, hpayload, hne, fun members hm => ?_⟩
      exact ⟨hobjects members hm, hdetails _ hpayload members (List.mem_map_of_mem hm)⟩
  · rcases validate_cases payload with ⟨hvalid, _⟩ | ⟨hrefused, _⟩
    · exact .inl hvalid
    · exact .inr hrefused

theorem accepts_object_with_unknown_member :
    validate (.arr [.obj [("cycle", .str "3.13"), ("eol", .bool false), ("codename", .int 1)]]) =
      .ok () := by
  have hdocumented : IsDocumented
      (.arr [.obj [("cycle", .str "3.13"), ("eol", .bool false), ("codename", .int 1)]]) := by
    refine ⟨[[("cycle", .str "3.13"), ("eol", .bool false), ("codename", .int 1)]], rfl,
      by simp, ?_⟩
    rintro members hm
    obtain rfl := List.mem_singleton.mp hm
    refine ⟨⟨"3.13", by decide, rfl⟩, ?_, ?_⟩
    · rintro value ⟨⟩
      trivial
    · rintro value ⟨⟩
  refine (accepts_iff_isDocumented _).1.mpr ⟨hdocumented, ?_⟩
  rintro items ⟨⟩ members hmembers
  obtain ⟨⟩ := List.mem_singleton.mp hmembers
  refine ⟨?_, ?_, ?_, ?_⟩ <;> rintro value ⟨⟩

/-- A latest patch that is a number has the whole payload refused. -/
theorem not_always_accepts_isDocumented :
    ¬∀ payload : Json, validate payload = .ok () ↔ IsDocumented payload := by
  intro h
  have hdocumented : IsDocumented (.arr [.obj [("cycle", .str "3.13"), ("latest", .int 3)]]) := by
    refine ⟨[[("cycle", .str "3.13"), ("latest", .int 3)]], rfl, by simp, ?_⟩
    rintro members hm
    obtain rfl := List.mem_singleton.mp hm
    refine ⟨⟨"3.13", by decide, rfl⟩, ?_, ?_⟩
    · rintro value ⟨⟩
    · rintro value ⟨⟩
  have hdetails := hasPlainDetails_of_validate ((h _).mpr hdocumented) (List.mem_singleton.mpr rfl)
  exact hdetails.latestPatch (.int 3) rfl

end Payload

end ReleaseLines.Feed
