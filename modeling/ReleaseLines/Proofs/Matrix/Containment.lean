import ReleaseLines.Proofs.Feed.Retries
import ReleaseLines.Proofs.Matrix.Origin

namespace ReleaseLines

open Act

variable {σ : Type}

theorem exists_sortLines {texts : List String}
    (h : ∀ text ∈ texts, ∃ version, Version.read text = .ok version) :
    ∃ sorted, sortLines texts = .ok sorted := by
  obtain ⟨keyed, hkeyed⟩ :=
    exists_withVersions fun text ht => h text (List.mem_eraseDups.mp ht)
  exact ⟨_, except_bind_eq_ok_iff.mpr ⟨keyed, hkeyed, rfl⟩⟩

/-- A matrix of what the constraints leave of the candidates, or the fault that they leave none. -/
def ResolvesTo (result : Except Fault SupportMatrix) (expression : String)
    (found : List Constraint) (source : String) (candidates : List String) : Prop :=
  ∃ selected, Constraint.select candidates found = .ok selected ∧
    ((selected = [] ∧ result = .error (.noMatch expression)) ∨
      (selected ≠ [] ∧ result = .ok ⟨selected, expression, source, candidates⟩))

theorem ResolvesTo.congr {first second : Except Fault SupportMatrix} {expression source : String}
    {found : List Constraint} {candidates : List String}
    (h : ResolvesTo first expression found source candidates)
    (h' : ResolvesTo second expression found source candidates) : first = second := by
  obtain ⟨selected, hselect, hfirst⟩ := h
  obtain ⟨other, hother, hsecond⟩ := h'
  obtain rfl := Except.ok.inj (hselect.symm.trans hother)
  rcases hfirst with ⟨hnil, rfl⟩ | ⟨hne, rfl⟩
  · rcases hsecond with ⟨_, rfl⟩ | ⟨hne, _⟩
    · rfl
    · exact absurd hnil hne
  · rcases hsecond with ⟨hnil, _⟩ | ⟨_, rfl⟩
    · exact absurd hnil hne
    · rfl

namespace SupportMatrix

variable {expression : String} {found : List Constraint}

/-- Candidates that all name a line are compared with the constraints without a fault. -/
theorem resolvesTo_of_candidates {source : String} {candidates : List String}
    {provider : Option (Provider σ)} {offline : Bool} {state : σ}
    (h : Expression.read expression = .ok found)
    (hcandidates : (candidatesOf provider offline state).result = .ok (candidates, source))
    (hne : candidates ≠ [])
    (hreadable : ∀ line ∈ candidates, ∃ version, Version.read line = .ok version) :
    ResolvesTo (build expression provider offline state).result expression found source
      candidates := by
  have hselect := Constraint.select_of_readable hreadable fun _ => Expression.exists_read_version h
  refine ⟨_, hselect, ?_⟩
  by_cases hnil : (candidates.filter fun line => found.all fun c => c.admitsText line) = []
  · refine .inl ⟨hnil, ?_⟩
    have hstart : (Act.ofExcept (Expression.read expression) state).state = state := by
      rw [h]
      rfl
    rw [build, result_bind (ofExcept_result h _), hstart, result_bind hcandidates]
    refine result_bind_of_error ?_
    rw [resolve_result h hne hselect, if_pos hnil]
  · exact .inr ⟨hnil, build_eq_ok_iff.mpr ⟨rfl, hcandidates, found, h, hselect, hnil⟩⟩

theorem compute_result (expression : String) (provider : Provider σ) (state : σ) :
    (compute expression provider state).result =
      (build expression (some provider) false state).result.map (·.versions) := by
  rw [compute]
  cases hbuild : (build expression (some provider) false state).result with
  | error fault => rw [result_bind_of_error hbuild, Except.map]
  | ok matrix => rw [result_bind hbuild, Except.map, pure_apply]

theorem compute_of_error {fault : Fault} (h : Expression.read expression = .error fault)
    (provider : Provider σ) (state : σ) :
    compute expression provider state = ⟨.error fault, state, []⟩ := by
  have hbuild : build expression (some provider) false state = ⟨.error fault, state, []⟩ :=
    build_of_error h state
  rw [compute, bind_apply_of_error (by rw [hbuild]), hbuild]

end SupportMatrix

namespace Feed

/-- A reply as the feed itself can give it: any answer at all, or a request that fails. -/
inductive Reply.IsOfFeed : Reply → Prop
  | answer {status : Int} {phrase : Option String} {body : Body} {delay : Nat} :
      IsOfFeed (.answer status phrase body delay)
  | requestTimeout {name message : String} {delay : Nat} :
      IsOfFeed (.failure (.foreign ⟨.requestTimeout, name, message⟩) delay)
  | request {name message : String} {delay : Nat} :
      IsOfFeed (.failure (.foreign ⟨.request, name, message⟩) delay)

theorem Desk.replyAt_isOfFeed {desk : Desk} (h : ∀ reply ∈ desk.replies, reply.IsOfFeed)
    (number : Nat) : (desk.replyAt number).IsOfFeed := by
  rw [replyAt, List.getD_eq_getElem?_getD]
  cases hreply : desk.replies[min number (desk.replies.length - 1)]? with
  | none => exact .request
  | some reply => exact h reply (List.mem_of_getElem? hreply)

theorem Reply.fails_of_failure {fault : Fault} {delay : Nat}
    (h : (Reply.failure fault delay).IsOfFeed) : (Reply.failure fault delay).Fails := by
  cases h with
  | requestTimeout => exact .requestTimeout
  | request => exact .request

theorem Client.fetchFrom_cases {client : Client} (hc : client.Countable) {attempt left : Nat}
    (hleft : attempt + left = client.attempts) (last : Option Fault) {desk : Desk}
    (hreplies : ∀ number, (desk.replyAt number).IsOfFeed) :
    (∃ catalog, (client.fetchFrom attempt last left desk).result = .ok catalog) ∨
      ∃ fault, (client.fetchFrom attempt last left desk).result = .error fault ∧
        fault.isA .fetchExhausted = true := by
  induction left generalizing attempt last desk with
  | zero =>
    refine .inr ⟨_, rfl, ?_⟩
    cases last <;> rfl
  | succ left ih =>
    have ha : attempt ≤ client.retries := by
      rw [attempts] at hleft
      omega
    by_cases hfails : desk.reply.Fails
    · obtain ⟨fault, hending, _⟩ := client.exists_ending_of_fails hfails
      obtain ⟨_, later, _, hlater, hstep⟩ := fetchFrom_of_failed hc ha last left hending
      rw [hstep]
      refine ih (by omega) (some fault) fun number => ?_
      rw [Desk.replyAt_congr hlater, ← Desk.replyAt_succ]
      exact hreplies (number + 1)
    · rcases (fetchFrom_of_not_fails hc ha last left hfails).2 with
        ⟨payload, _, hresult⟩ | ⟨fault, delay, hfault, _⟩
      · exact .inl ⟨_, hresult⟩
      · -- The feed itself gives no reply that ends the series without a catalog.
        have hreply := hreplies 0
        rw [Desk.replyAt_zero, hfault] at hreply
        exact absurd (hfault ▸ Reply.fails_of_failure hreply) hfails

/-- What comes of a fetch is a catalog, or that no attempt had one. -/
theorem Client.fetch_cases {client : Client} {desk : Desk}
    (short : client.retries = 0 ∨
      (Numeral.digits (2 ^ (client.retries - 1))).length ≤ Numeral.digitLimit)
    (hreplies : ∀ reply ∈ desk.replies, reply.IsOfFeed) :
    (∃ catalog, (client.fetch desk).result = .ok catalog) ∨
      ∃ fault, (client.fetch desk).result = .error fault ∧ fault.isA .fetchExhausted = true := by
  by_cases hfresh : client.IsFresh desk
  · obtain ⟨snapshot, hs, hage⟩ := hfresh
    exact .inl ⟨snapshot.catalog, by rw [fetch_of_fresh hs hage]⟩
  · rw [fetch_of_not_fresh hfresh]
    exact fetchFrom_cases (countable_of_short short) (Nat.zero_add _) none
      fun number => desk.replyAt_isOfFeed hreplies number

theorem readable_of_supported {client : Client} {desk : Desk} {lines : List String}
    (h : (client.supported oldestLine desk).result = .ok lines) {line : String}
    (hline : line ∈ lines) : ∃ version, Version.read line = .ok version := by
  obtain ⟨catalog, hfetch, _⟩ := exists_of_result_bind h
  rw [supported_result hfetch oldestLine] at h
  obtain rfl := Except.ok.inj h
  obtain ⟨⟨version, hversion, _⟩, _⟩ := (mem_liveCycles_iff catalog _ line).mp hline
  exact ⟨version, hversion⟩

/-- There is always a candidate, and each one names a line. -/
theorem readable_of_candidates {client : Client} {desk : Desk} {offline : Bool}
    {candidates : List String} {source : String}
    (h : (client.provider.candidates offline desk).result = .ok (candidates, source)) :
    candidates ≠ [] ∧ ∀ line ∈ candidates, ∃ version, Version.read line = .ok version := by
  have hbuiltIn : fallbackLines ≠ [] ∧
      ∀ line ∈ fallbackLines, ∃ version, Version.read line = .ok version :=
    ⟨List.cons_ne_nil _ _, fun _ => exists_read_fallbackLines⟩
  cases offline with
  | true =>
    rw [Provider.candidates_offline rfl] at h
    obtain ⟨rfl, _⟩ := Prod.mk.inj (Except.ok.inj h)
    exact hbuiltIn
  | false =>
    rcases origin_of_candidates h with ⟨catalog, _, ⟨cycle, hcycle⟩, _, _, hlines⟩ | ⟨_, _, rfl⟩
    · refine ⟨List.ne_nil_of_mem ((hlines cycle).mpr hcycle), ?_⟩
      intro line hline
      obtain ⟨⟨version, hversion, _⟩, _⟩ := (hlines line).mp hline
      exact ⟨version, hversion⟩
    · exact hbuiltIn

/-- Whatever the feed does, there are candidates. -/
theorem exists_candidates {client : Client} {desk : Desk}
    (hfetch : (∃ catalog, (client.fetch desk).result = .ok catalog) ∨
      ∃ fault, (client.fetch desk).result = .error fault ∧ fault.isA .fetchExhausted = true)
    (offline : Bool) :
    ∃ candidates source,
      (client.provider.candidates offline desk).result = .ok (candidates, source) := by
  cases offline with
  | true => exact ⟨_, _, Provider.candidates_offline rfl desk⟩
  | false =>
    rcases hfetch with ⟨catalog, hcatalog⟩ | ⟨fault, hfault, hkind⟩
    · have hsupported : (client.provider.supported desk).result = _ :=
      supported_result hcatalog oldestLine
      by_cases hne : catalog.cycles.filter
          (catalog.isLive oldestLine (client.fetch desk).state.today) = []
      · rw [hne] at hsupported
        exact ⟨_, _, Provider.candidates_of_nil rfl hsupported⟩
      · obtain ⟨sorted, hsorted⟩ := exists_sortLines fun line => readable_of_supported hsupported
        exact ⟨_, _, Provider.candidates_of_supported hne hsupported hsorted⟩
    · have hsupported : (client.provider.supported desk).result = .error fault :=
        result_bind_of_error hfault
      have hgeneral := isA_general_of_fetchExhausted hkind
      exact ⟨_, _, Provider.candidates_of_error rfl hsupported hgeneral⟩

/-- Candidates that are taken without the feed. -/
theorem candidatesOf_builtIn (client : Client) {provider : Option (Provider Desk)} {offline : Bool}
    (h : provider = none ∨ provider = some client.provider ∧ offline = true) (desk : Desk) :
    (SupportMatrix.candidatesOf provider offline desk).result =
        .ok (fallbackLines, SupportMatrix.fallbackSource) ∧
      Local (SupportMatrix.candidatesOf provider offline) := by
  rcases h with rfl | ⟨rfl, rfl⟩
  · refine ⟨?_, .bind (.ofValue _) fun _ => .pure _⟩
    rw [SupportMatrix.candidatesOf, result_bind (ofValue_result sortLines_fallbackLines _)]
    rfl
  · exact ⟨Provider.candidates_offline rfl desk, (noted_candidates_offline (.pure _)).isLocal⟩

/-- An expression is refused before anything is asked for, with a provider and without one. -/
structure RefusesAtOnce (expression : String) (fault : Fault) (provider : Provider σ)
    (offline : Bool) (state : σ) : Prop where
  unprovided : SupportMatrix.build expression none offline state = ⟨.error fault, state, []⟩
  provided : SupportMatrix.build expression (some provider) offline state =
    ⟨.error fault, state, []⟩
  compute : SupportMatrix.compute expression provider state = ⟨.error fault, state, []⟩

/-- Nothing is asked for, and neither the feed nor what is kept of it nor the clock counts. -/
structure NeedsNoFeed (expression : String) (provider : Option (Provider Desk)) (offline : Bool)
    (desk other : Desk) : Prop where
  result_eq : (SupportMatrix.build expression provider offline desk).result =
    (SupportMatrix.build expression none false other).result
  state_eq : (SupportMatrix.build expression provider offline desk).state = desk
  isLocal : ∀ event ∈ (SupportMatrix.build expression provider offline desk).events, event.IsLocal

/-- An expression that is refused is refused before anything is asked for. One that is accepted
comes to a matrix, or to the fault that it admits none of the candidates, of which there is one at
least, however the feed answers or fails. Without a client or offline nothing is asked for, and
neither the feed nor what is kept of it nor the clock counts. -/
theorem build_contains_failures (expression : String) :
    (∀ fault, Expression.read expression = .error fault →
      ∀ (σ : Type) (provider : Provider σ) (offline : Bool) (state : σ),
        RefusesAtOnce expression fault provider offline state) ∧
    ∀ (client : Client),
      (∀ found, Expression.read expression = .ok found →
        (client.retries = 0 ∨
          (Numeral.digits (2 ^ (client.retries - 1))).length ≤ Numeral.digitLimit) →
        ∀ desk : Desk, (∀ reply ∈ desk.replies, reply.IsOfFeed) →
          (∀ provider offline, provider = none ∨ provider = some client.provider →
            ∃ source candidates, candidates ≠ [] ∧
              ResolvesTo (SupportMatrix.build expression provider offline desk).result expression
                found source candidates) ∧
          (SupportMatrix.compute expression client.provider desk).result =
            (SupportMatrix.build expression (some client.provider) false desk).result.map
              (·.versions)) ∧
      ∀ provider offline, provider = none ∨ provider = some client.provider ∧ offline = true →
        ∀ desk other : Desk, NeedsNoFeed expression provider offline desk other := by
  refine ⟨fun fault hfault σ provider offline state => ?_, fun client => ⟨?_, ?_⟩⟩
  · exact ⟨SupportMatrix.build_of_error hfault state, SupportMatrix.build_of_error hfault state,
      SupportMatrix.compute_of_error hfault provider state⟩
  · intro found hfound short desk hreplies
    refine ⟨fun provider offline hprovider => ?_, SupportMatrix.compute_result _ _ desk⟩
    rcases hprovider with rfl | rfl
    · exact ⟨_, _, List.cons_ne_nil _ _, SupportMatrix.resolvesTo_of_candidates hfound
        (candidatesOf_builtIn client (.inl rfl) desk).1 (List.cons_ne_nil _ _)
        fun _ => exists_read_fallbackLines⟩
    · obtain ⟨candidates, source, hcandidates⟩ :=
        exists_candidates (Client.fetch_cases short hreplies) offline
      obtain ⟨hne, hreadable⟩ := readable_of_candidates hcandidates
      exact ⟨source, candidates, hne,
        SupportMatrix.resolvesTo_of_candidates hfound hcandidates hne hreadable⟩
  · intro provider offline hprovider desk other
    cases hread : Expression.read expression with
    | error fault =>
      have hbuild : SupportMatrix.build expression provider offline desk =
          ⟨.error fault, desk, []⟩ := SupportMatrix.build_of_error hread desk
      have hother : SupportMatrix.build expression none false other = ⟨.error fault, other, []⟩ :=
        SupportMatrix.build_of_error hread other
      constructor
      · rw [hbuild, hother]
      · rw [hbuild]
      · rw [hbuild]
        exact fun _ => List.not_mem_nil.elim
    | ok found =>
      have resolves {provider : Option (Provider Desk)} {offline : Bool} (desk : Desk)
          (h : provider = none ∨ provider = some client.provider ∧ offline = true) :=
        SupportMatrix.resolvesTo_of_candidates hread (candidatesOf_builtIn client h desk).1
          (List.cons_ne_nil _ _) fun _ => exists_read_fallbackLines
      have hlocal : Local (SupportMatrix.build expression provider offline) :=
        .bind (.ofExcept _) fun _ => .bind (candidatesOf_builtIn client hprovider desk).2
          fun chosen => (SupportMatrix.noted_publish expression chosen).isLocal
      obtain ⟨hstate, hevents⟩ := hlocal desk
      exact ⟨(resolves desk hprovider).congr (resolves other (.inl rfl)), hstate, hevents⟩

theorem build_contains_failures_of_bad_replies :
    SupportMatrix.compute "," Client.standard.provider (.publishing []) =
      ⟨.error .noConstraintsFound, .publishing [], []⟩ ∧
    (∃ source candidates, candidates ≠ [] ∧
      ResolvesTo (SupportMatrix.build ">=3.9" (some Client.standard.provider) false
        ⟨none, .epoch, true, [.answer 503 none (.undecodable "no body"),
          .failure (.foreign ⟨.requestTimeout, "Timeout", "too slow"⟩),
          .answer 200 none (.payload (.arr [.obj [("cycle", .str "three")]]))]⟩).result
        ">=3.9" [⟨.ge, oldestLine⟩] source candidates) ∧
    (SupportMatrix.build ">=3.9" (some Client.standard.provider) true (.publishing [])).result =
      (SupportMatrix.build ">=3.9" none false (⟨none, .epoch, true,
        [.failure (.foreign ⟨.other, "RuntimeError", "boom"⟩)]⟩ : Desk)).result := by
  have hrefused : Expression.read "," = .error .noConstraintsFound := by with_unfolding_all decide
  have short : (Numeral.digits (2 ^ (Client.standard.retries - 1))).length ≤
      Numeral.digitLimit := by decide +kernel
  have hreplies : ∀ reply ∈ [Reply.answer 503 none (.undecodable "no body"),
      .failure (.foreign ⟨.requestTimeout, "Timeout", "too slow"⟩),
      .answer 200 none (.payload (.arr [.obj [("cycle", .str "three")]]))], reply.IsOfFeed := by
    simp only [List.forall_mem_cons]
    exact ⟨.answer, .requestTimeout, .answer, fun _ => List.not_mem_nil.elim⟩
  obtain ⟨hresolves, hfeedless⟩ := (build_contains_failures ">=3.9").2 Client.standard
  refine ⟨((build_contains_failures ",").1 _ hrefused Desk Client.standard.provider false
    (.publishing [])).compute, ?_, (hfeedless _ true (.inr ⟨rfl, rfl⟩) _ _).result_eq⟩
  exact (hresolves _ read_from_oldestLine (.inr short) ⟨none, .epoch, true, _⟩ hreplies).1
    _ false (.inr rfl)

end Feed

end ReleaseLines
