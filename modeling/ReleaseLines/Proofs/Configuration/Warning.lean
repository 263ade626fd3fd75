import ReleaseLines.Proofs.Configuration.Checks
import ReleaseLines.Proofs.Configuration.Readable

namespace ReleaseLines

variable {σ : Type}

namespace Text

theorem contains_iff_infix {part whole : List Char} :
    contains part whole = true ↔ part <:+: whole := by
  induction whole with
  | nil => rw [contains, List.isEmpty_iff, List.infix_nil]
  | cons c rest ih =>
    rw [contains, Bool.or_eq_true, List.isPrefixOf_iff_prefix, ih, List.infix_cons_iff]

theorem cut_prefix (separator : Char) (cs : List Char) : (cut separator cs).1 <+: cs := by
  unfold cut
  split
  · exact List.takeWhile_prefix _
  · exact List.prefix_rfl

theorem afterLast_infix (separator : Char) (cs : List Char) : afterLast separator cs <:+: cs := by
  have hne := pieces_ne_nil (· == separator) cs
  rw [afterLast, List.getLastD_eq_getLast?, List.getLast?_eq_some_getLast hne, Option.getD_some]
  exact infix_of_mem_pieces (List.getLast_mem hne)

end Text

namespace Address

/-- The machine that is asked: the host without a user before the last `@` and without a port; of a
literal in brackets what is between them. -/
def machine (a : Address) : List Char :=
  let named := Text.afterLast '@' a.host.toList
  match Text.cut '[' named with
  | (_, some bracketed) => (Text.cut ']' bracketed).1
  | (_, none) => (Text.cut ':' named).1

/-- The machine goes by one of the names of this machine, and not by a longer one. -/
def IsThisMachine (a : Address) : Prop := ∃ name ∈ localHosts, name.toList = a.machine

instance (a : Address) : Decidable a.IsThisMachine :=
  inferInstanceAs (Decidable (∃ name ∈ localHosts, name.toList = a.machine))

/-- A name of this machine stands somewhere in the host. -/
def MentionsThisMachine (a : Address) : Prop := ∃ name ∈ localHosts, name.toList <:+: a.host.toList

instance (a : Address) : Decidable a.MentionsThisMachine :=
  inferInstanceAs (Decidable (∃ name ∈ localHosts, name.toList <:+: a.host.toList))

theorem machine_infix (a : Address) : a.machine <:+: a.host.toList := by
  have hnamed := Text.afterLast_infix '@' a.host.toList
  unfold machine
  simp only
  split
  next before bracketed hcut =>
    have hbracketed := (Text.suffix_of_cut hcut).isInfix.trans hnamed
    exact (Text.cut_prefix ']' bracketed).isInfix.trans hbracketed
  next => exact (Text.cut_prefix ':' _).isInfix.trans hnamed

theorem isLocal_iff_mentionsThisMachine {a : Address} :
    a.isLocal = true ↔ a.MentionsThisMachine := by
  rw [isLocal, List.any_eq_true, MentionsThisMachine]
  simp only [Text.contains_iff_infix]

theorem IsThisMachine.mentionsThisMachine {a : Address} (h : a.IsThisMachine) :
    a.MentionsThisMachine := by
  obtain ⟨name, hname, heq⟩ := h
  exact ⟨name, hname, heq ▸ a.machine_infix⟩

end Address

namespace Configuration

/-- What is said of an address that is asked in the open. -/
def openWarning : Event :=
  .logged .warning "Using HTTP (not HTTPS) for the EOL feed - consider using HTTPS"

theorem checkAddress_of_isAskable {text : String} {a : Address} (h : Address.read text = .ok a)
    (hask : a.IsAskable) (state : σ) :
    checkAddress text state =
      ⟨.ok (), state,
        if a.scheme = "http" ∧ ¬a.MentionsThisMachine then [openWarning] else []⟩ := by
  have hscheme : ¬(a.scheme != "http" && a.scheme != "https") = true := by
    rcases hask.scheme with hname | hname
    · simp [hname]
    · simp [hname]
  have hhost : ¬(a.host == "") = true := by simpa using hask.host
  have hread : (Act.ofValue (Address.read text) state).result = .ok a := Act.ofValue_result h state
  have hstart : Act.ofValue (Address.read text) state = ⟨.ok a, state, []⟩ := by rw [h]; rfl
  rw [checkAddress, Act.bind_apply_of_ok hread, hstart, if_neg hscheme, if_neg hhost]
  have hwarns : (a.scheme == "http" && !a.isLocal) = true ↔
      a.scheme = "http" ∧ ¬a.MentionsThisMachine := by
    rw [Bool.and_eq_true, Bool.not_eq_true', ← Bool.not_eq_true, beq_iff_eq,
      Address.isLocal_iff_mentionsThisMachine]
  by_cases hopen : a.scheme = "http" ∧ ¬a.MentionsThisMachine
  · rw [if_pos (hwarns.mpr hopen), if_pos hopen]
    rfl
  · rw [if_neg (mt hwarns.mp hopen), if_neg hopen]
    rfl

/-- Nothing but the warning is ever said of an address that can be asked, and it is said of plain
HTTP unless a name of this machine stands in the host: as the machine, but also within a longer
name, a user or a port. -/
theorem warns_unless_mentioned {c : Configuration} {state : σ} (honline : c.offline = false)
    (h : (c.validate state).result = .ok ()) :
    ∃ a, Address.read c.address = .ok a ∧ a.IsAskable ∧
      ((c.validate state).events = [openWarning] ∨ (c.validate state).events = []) ∧
      ((c.validate state).events = [openWarning] ↔ a.scheme = "http" ∧ ¬a.MentionsThisMachine) ∧
      (a.scheme = "https" ∨ a.IsThisMachine → (c.validate state).events = []) := by
  rcases validate_cases c state with
    ⟨hsound, hask, _⟩ | ⟨reason, _, _, hrefused⟩ | ⟨problem, _, _, hfailed⟩
  · obtain ⟨a, hread, hask⟩ := hask.resolve_left (by simp [honline])
    have hevents : (c.validate state).events =
        if a.scheme = "http" ∧ ¬a.MentionsThisMachine then [openWarning] else [] := by
      rw [validate_of_isSound hsound, if_neg (by simp [honline]),
        checkAddress_of_isAskable hread hask]
    refine ⟨a, hread, hask, ?_⟩
    rw [hevents]
    by_cases hopen : a.scheme = "http" ∧ ¬a.MentionsThisMachine
    · rw [if_pos hopen]
      refine ⟨.inl rfl, iff_of_true rfl hopen, ?_⟩
      intro hquiet
      rcases hquiet with hsecure | hthis
      · exact absurd (hsecure.symm.trans hopen.1) (by decide)
      · exact absurd hthis.mentionsThisMachine hopen.2
    · rw [if_neg hopen]
      exact ⟨.inr rfl, iff_of_false nofun hopen, fun _ => rfl⟩
  · rw [hrefused] at h
    cases h
  · rw [hfailed] at h
    cases h

theorem warns_of_mirror_but_not_of_own_port :
    ((validate { expression := ">=3.9", address := "http://feed@mirror.example.com:8000/" }
        ()).events = [openWarning]) ∧
      (validate { expression := ">=3.9", address := "http://feed@127.0.0.1:8000/" } ()).events =
        [] := by
  constructor
  · have hpassed : (validate { expression := ">=3.9",
                               address := "http://feed@mirror.example.com:8000/" } ()).result =
        .ok () := by
      decide +kernel
    obtain ⟨a, hread, _, _, hwarns, _⟩ := warns_unless_mentioned rfl hpassed
    have hparts : Address.read "http://feed@mirror.example.com:8000/" =
        .ok ⟨"http", "feed@mirror.example.com:8000"⟩ := by
      decide +kernel
    obtain rfl := Except.ok.inj (hparts.symm.trans hread)
    exact hwarns.mpr ⟨rfl, by decide +kernel⟩
  · have hpassed : (validate { expression := ">=3.9", address := "http://feed@127.0.0.1:8000/" }
        ()).result = .ok () := by
      decide +kernel
    obtain ⟨a, hread, _, _, _, hsilent⟩ := warns_unless_mentioned rfl hpassed
    have hparts : Address.read "http://feed@127.0.0.1:8000/" =
        .ok ⟨"http", "feed@127.0.0.1:8000"⟩ := by
      decide +kernel
    obtain rfl := Except.ok.inj (hparts.symm.trans hread)
    exact hsilent (.inr (by decide +kernel))

/-- A longer name that a name of this machine begins keeps the warning away from another machine. -/
theorem not_always_warns_of_other_machine :
    ¬∀ (c : Configuration) (a : Address), c.offline = false →
      (c.validate ()).result = .ok () → Address.read c.address = .ok a → a.scheme = "http" →
      ¬a.IsThisMachine → openWarning ∈ (c.validate ()).events := by
  intro hall
  have hwarned := hall
    { expression := ">=3.9", address := "http://localhost.example.com/python.json" }
    ⟨"http", "localhost.example.com"⟩ rfl (by decide +kernel) (by decide +kernel) rfl
    (by decide +kernel)
  have hsilent : (validate { expression := ">=3.9",
                             address := "http://localhost.example.com/python.json" } ()).events =
      [] := by
    decide +kernel
  rw [hsilent] at hwarned
  cases hwarned

end Configuration

end ReleaseLines
