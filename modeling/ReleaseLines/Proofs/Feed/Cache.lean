import ReleaseLines.Proofs.Feed.Accepted
import ReleaseLines.Proofs.Feed.Traffic

namespace ReleaseLines.Feed

open Act

namespace Client

/-- The snapshot of a desk has not outlived its time. -/
def IsFresh (client : Client) (desk : Desk) : Prop :=
  ∃ snapshot, desk.snapshot = some snapshot ∧
    desk.now.micros - snapshot.fetchedAt.micros < client.lifetime

theorem served?_eq_some {client : Client} {desk : Desk} {snapshot : Snapshot}
    (h : desk.snapshot = some snapshot)
    (hfresh : desk.now.micros - snapshot.fetchedAt.micros < client.lifetime) :
    client.served? desk = some snapshot.catalog := by
  have hpass : snapshot.isFresh desk.now client.lifetime = true := decide_eq_true hfresh
  simp [served?, h, Option.filter, hpass]

theorem not_isFresh_of_empty {client : Client} {desk : Desk} (h : desk.snapshot = none) :
    ¬client.IsFresh desk := by
  rintro ⟨snapshot, hs, _⟩
  rw [h] at hs
  cases hs

theorem served?_eq_none {client : Client} {desk : Desk} (h : ¬client.IsFresh desk) :
    client.served? desk = none := by
  rw [served?]
  cases hs : desk.snapshot with
  | none => rfl
  | some snapshot =>
    have hfail : ¬snapshot.isFresh desk.now client.lifetime = true := fun hpass =>
      h ⟨snapshot, hs, of_decide_eq_true hpass⟩
    simp [Option.filter, hfail]

theorem fetch_of_fresh {client : Client} {desk : Desk} {snapshot : Snapshot}
    (h : desk.snapshot = some snapshot)
    (hfresh : desk.now.micros - snapshot.fetchedAt.micros < client.lifetime) :
    client.fetch desk =
      ⟨.ok snapshot.catalog, desk, [.logged .debug "Cache hit (EOL feed)"]⟩ := by
  have hask : (Act.ask client.served? desk).result = .ok (some snapshot.catalog) :=
    congrArg Except.ok (served?_eq_some h hfresh)
  rw [fetch, Act.bind_apply_of_ok hask]
  rfl

theorem fetch_of_not_fresh {client : Client} {desk : Desk} (h : ¬client.IsFresh desk) :
    client.fetch desk = client.fetchFrom 0 none client.attempts desk := by
  have hask : (Act.ask client.served? desk).result = .ok none :=
    congrArg Except.ok (served?_eq_none h)
  rw [fetch, Act.bind_apply_of_ok hask]
  rfl

theorem fetched_of_not_fresh {client : Client} {desk : Desk} (h : ¬client.IsFresh desk) :
    Fetched desk (client.fetch desk) := by
  rw [fetch_of_not_fresh h]
  exact client.fetchFrom_fetched _ _ _ desk

theorem requests_fetch_ne_nil {client : Client} {desk : Desk} (h : ¬client.IsFresh desk) :
    Event.requests (client.fetch desk).events ≠ [] := by
  rw [fetch_of_not_fresh h]
  exact client.requests_fetchFrom_ne_nil _ _ desk

theorem forall_isLocal_fetch_iff (client : Client) (desk : Desk) :
    (∀ event ∈ (client.fetch desk).events, event.IsLocal) ↔ client.IsFresh desk := by
  constructor
  · intro h
    by_contra hstale
    exact requests_fetch_ne_nil hstale (Event.requests_eq_nil fun event he => (h event he).1)
  · rintro ⟨snapshot, hs, hfresh⟩ event he
    rw [fetch_of_fresh hs hfresh, List.mem_singleton] at he
    exact he ▸ ⟨rfl, rfl⟩

theorem fetch_of_reply_accepted {client : Client} {desk : Desk} {payload : Json}
    (h : ¬client.IsFresh desk) (hreply : desk.reply.accepted? = some payload) :
    (client.fetch desk).result = .ok (Payload.entries payload) := by
  obtain ⟨request, others, hrequests⟩ := List.exists_cons_of_ne_nil (requests_fetch_ne_nil h)
  obtain ⟨later, hfirst⟩ : ∃ later, desk.accepted (client.fetch desk) = payload :: later := by
    rw [Desk.accepted, hrequests, List.length_cons, Desk.received,
      List.filterMap_cons_some hreply]
    exact ⟨_, rfl⟩
  cases fetched_of_not_fresh h with
  | obtained other accepted result stored =>
    rw [hfirst] at accepted
    rw [result, (List.cons.inj accepted).1]
  | failed fault accepted result kept =>
    rw [hfirst] at accepted
    cases accepted

/-- A payload that is accepted at once is kept with the time at which it has come. -/
theorem snapshot_fetch_of_reply_accepted {client : Client} {desk : Desk} {payload : Json}
    (h : ¬client.IsFresh desk) (hreply : desk.reply.accepted? = some payload) :
    (client.fetch desk).state.snapshot =
      some ⟨Payload.entries payload, desk.now.after desk.reply.delay⟩ := by
  have hpause : (client.pause 0 desk).result = .ok () := rfl
  have hask : (client.ask desk).result = .ok desk.reply := rfl
  rw [fetch_of_not_fresh h, attempts, fetchFrom, Act.bind_apply_of_ok hpause]
  have hstate : (client.pause 0 desk).state = desk := rfl
  simp only [hstate, Act.bind_apply_of_ok hask, client.ending_of_accepted? hreply]
  rfl

/-- What a fetch does on a desk, by what is kept there. -/
structure FetchesFaithfully (client : Client) (desk : Desk) : Prop where
  silent_iff : (∀ event ∈ (client.fetch desk).events, event.IsLocal) ↔ client.IsFresh desk
  served : ∀ snapshot, desk.snapshot = some snapshot → client.IsFresh desk →
    (client.fetch desk).result = .ok snapshot.catalog ∧ (client.fetch desk).state = desk
  downloaded : ¬client.IsFresh desk → ∀ catalog, (client.fetch desk).result = .ok catalog →
    ∃ payload, desk.accepted (client.fetch desk) = [payload] ∧
      catalog = Payload.entries payload
  kept : ∀ fault, (client.fetch desk).result = .error fault →
    (client.fetch desk).state.snapshot = desk.snapshot
  recovers : ¬client.IsFresh desk → ∀ payload, desk.reply.accepted? = some payload →
    (client.fetch desk).result = .ok (Payload.entries payload)
  /-- The time that is kept with a payload is that after the reply, however long it took to come. -/
  stamped : ¬client.IsFresh desk → ∀ payload, desk.reply.accepted? = some payload →
    (client.fetch desk).state.snapshot =
      some ⟨Payload.entries payload, desk.now.after desk.reply.delay⟩

theorem fetchesFaithfully (client : Client) (desk : Desk) : client.FetchesFaithfully desk where
  silent_iff := client.forall_isLocal_fetch_iff desk
  served := by
    rintro snapshot hs ⟨other, hother, hage⟩
    obtain rfl := Option.some.inj (hs.symm.trans hother)
    rw [fetch_of_fresh hs hage]
    exact ⟨rfl, rfl⟩
  downloaded := by
    intro hstale catalog hc
    cases fetched_of_not_fresh hstale with
    | obtained payload accepted result stored =>
      rw [result] at hc
      exact ⟨payload, accepted, (Except.ok.inj hc).symm⟩
    | failed fault accepted result kept =>
      rw [result] at hc
      cases hc
  kept := by
    intro fault hf
    by_cases hfresh : client.IsFresh desk
    · obtain ⟨snapshot, hs, hage⟩ := hfresh
      rw [fetch_of_fresh hs hage] at hf
      cases hf
    · cases fetched_of_not_fresh hfresh with
      | obtained payload accepted result stored =>
        rw [result] at hf
        cases hf
      | failed fault accepted result kept => exact kept
  recovers := fun hstale _ hreply => fetch_of_reply_accepted hstale hreply
  stamped := fun hstale _ hreply => snapshot_fetch_of_reply_accepted hstale hreply

end Client

/-- Something done with a client, or something that happens around it. -/
inductive Use
  | fetch
  | supported (minimum : String)
  | isEnded (cycle : String) (catalog : Catalog)
  | build (expression : String) (offline : Bool)
  | compute (expression : String)
  | today
  | fallback
  /-- The clock goes on to another time. -/
  | setClock (now : Instant)
  /-- Waiting moves the clock from now on, or does not. -/
  | letWaitingMove (moves : Bool)
  /-- The feed gives other replies from now on. -/
  | setReplies (replies : List Reply)

namespace Use

def act (client : Client) : Use → Act Desk Unit
  | fetch => client.fetch >>= fun _ => return ()
  | supported minimum => client.supported minimum >>= fun _ => return ()
  | isEnded cycle catalog => Feed.isEnded cycle catalog >>= fun _ => return ()
  | build expression offline =>
    SupportMatrix.build expression (some client.provider) offline >>= fun _ => return ()
  | compute expression => SupportMatrix.compute expression client.provider >>= fun _ => return ()
  | today => Act.ask Desk.today >>= fun _ => return ()
  | fallback => client.provider.fallback >>= fun _ => return ()
  | setClock now => Act.modify fun desk => { desk with now }
  | letWaitingMove moves => Act.modify fun desk => { desk with waitingMoves := moves }
  | setReplies replies => Act.modify fun desk => { desk with replies }

def next (client : Client) (desk : Desk) (use : Use) : Desk := (use.act client desk).state

/-- A use asks for the feed and stores what comes as a fetch does, or does neither. -/
theorem act_cases (client : Client) (use : Use) (desk : Desk) :
    SameTraffic (use.act client desk) (client.fetch desk) ∨
      Event.requests (use.act client desk).events = [] ∧
        (use.next client desk).snapshot = desk.snapshot := by
  have quiet {outcome : Outcome Desk Unit}
      (h : SameTraffic outcome (⟨.ok (), desk, []⟩ : Outcome Desk Unit)) :
      Event.requests outcome.events = [] ∧ outcome.state.snapshot = desk.snapshot :=
    ⟨h.2, congrArg Desk.snapshot h.1⟩
  have build_cases (expression : String) (offline : Bool) :=
    SupportMatrix.build_traffic_cases client.provider (.pure _) expression offline desk
  cases use with
  | fetch => exact .inl (sameTraffic_bind (fun _ => .pure _) desk)
  | supported minimum =>
    exact .inl ((sameTraffic_bind (fun _ => .pure _) desk).trans
      (sameTraffic_supported client minimum desk))
  | isEnded cycle catalog =>
    have hlocal : Local (Use.act client (.isEnded cycle catalog)) :=
      .bind (noted_isEnded cycle catalog).isLocal fun _ => .pure _
    exact .inr (quiet (hlocal.sameTraffic desk))
  | build expression offline =>
    rcases build_cases expression offline with h | h
    · exact .inl ((sameTraffic_bind (fun _ => .pure _) desk).trans
        (h.trans (sameTraffic_supported client oldestLine desk)))
    · exact .inr (quiet ((sameTraffic_bind (fun _ => .pure _) desk).trans h))
  | compute expression =>
    have hcompute : SameTraffic (Use.act client (.compute expression) desk)
        (SupportMatrix.build expression (some client.provider) false desk) :=
      (sameTraffic_bind (fun _ => .pure _) desk).trans (sameTraffic_bind (fun _ => .pure _) desk)
    rcases build_cases expression false with h | h
    · exact .inl (hcompute.trans (h.trans (sameTraffic_supported client oldestLine desk)))
    · exact .inr (quiet (hcompute.trans h))
  | today | fallback | setClock | letWaitingMove | setReplies => exact .inr ⟨rfl, rfl⟩

theorem requests_eq_nil {client : Client} {desk : Desk} (use : Use) (h : client.IsFresh desk) :
    Event.requests (use.act client desk).events = [] := by
  rcases use.act_cases client desk with ⟨_, hrequests⟩ | ⟨hrequests, _⟩
  · obtain ⟨snapshot, hs, hage⟩ := h
    rw [hrequests, Client.fetch_of_fresh hs hage]
    rfl
  · exact hrequests

end Use

/-- A payload that was accepted, and the time of the clock then. -/
structure Download where
  payload : Json
  moment : Instant

def Download.snapshot (download : Download) : Snapshot :=
  ⟨Payload.entries download.payload, download.moment⟩

/-- What one use downloads. Nothing moves the clock after a payload was accepted. -/
def Use.downloads (client : Client) (desk : Desk) (use : Use) : List Download :=
  (desk.accepted (use.act client desk)).map fun payload => ⟨payload, (use.next client desk).now⟩

def after (client : Client) (desk : Desk) : List Use → Desk
  | [] => desk
  | use :: rest => after client (use.next client desk) rest

def downloads (client : Client) (desk : Desk) : List Use → List Download
  | [] => []
  | use :: rest => use.downloads client desk ++ downloads client (use.next client desk) rest

/-- A use either downloads nothing and keeps the snapshot, or downloads once what nothing fresh was
at hand for, and stores it. -/
theorem Use.downloads_cases (client : Client) (desk : Desk) (use : Use) :
    (use.downloads client desk = [] ∧ (use.next client desk).snapshot = desk.snapshot) ∨
      ∃ payload, use.downloads client desk = [⟨payload, (use.next client desk).now⟩] ∧
        (use.next client desk).snapshot =
          some ⟨Payload.entries payload, (use.next client desk).now⟩ ∧
        ¬client.IsFresh desk := by
  rcases use.act_cases client desk with ⟨hstate, hrequests⟩ | ⟨hrequests, hsnapshot⟩
  · have haccepted : desk.accepted (use.act client desk) = desk.accepted (client.fetch desk) := by
      rw [Desk.accepted, Desk.accepted, hrequests]
    rw [downloads, haccepted, next, hstate]
    by_cases hfresh : client.IsFresh desk
    · obtain ⟨snapshot, hs, hage⟩ := hfresh
      rw [Client.fetch_of_fresh hs hage]
      exact .inl ⟨rfl, rfl⟩
    · cases Client.fetched_of_not_fresh hfresh with
      | obtained payload accepted result stored =>
        rw [accepted]
        exact .inr ⟨payload, rfl, stored, hfresh⟩
      | failed fault accepted result kept =>
        rw [accepted]
        exact .inl ⟨rfl, kept⟩
  · rw [downloads, Desk.accepted_eq_nil hrequests]
    exact .inl ⟨rfl, hsnapshot⟩

/-- What is kept is the last download, or what was kept before where there was none. -/
theorem snapshot_after (client : Client) (desk : Desk) (uses : List Use) :
    (after client desk uses).snapshot =
      ((downloads client desk uses).getLast?.map Download.snapshot).or desk.snapshot := by
  induction uses generalizing desk with
  | nil => rfl
  | cons use rest ih =>
    rw [after, downloads, ih, List.getLast?_append]
    rcases use.downloads_cases client desk with ⟨hnone, hkept⟩ | ⟨payload, hone, hstored, _⟩
    · rw [hnone, hkept]
      simp
    · rw [hone, hstored]
      cases (downloads client (use.next client desk) rest).getLast? <;> rfl

theorem validate_of_accepted? {reply : Reply} {payload : Json}
    (h : reply.accepted? = some payload) : Payload.validate payload = .ok () := by
  unfold Reply.accepted? at h
  split at h
  · split at h
    · split at h
      next hvalid =>
        obtain rfl := Option.some.inj h
        exact hvalid
      next => cases h
    · cases h
  · cases h

theorem validate_of_mem_downloads {client : Client} {desk : Desk} {uses : List Use}
    {download : Download} (h : download ∈ downloads client desk uses) :
    Payload.validate download.payload = .ok () := by
  induction uses generalizing desk with
  | nil => cases h
  | cons use rest ih =>
    rcases List.mem_append.mp h with h | h
    · obtain ⟨payload, hpayload, rfl⟩ := List.mem_map.mp h
      obtain ⟨reply, _, hreply⟩ := List.mem_filterMap.mp hpayload
      exact validate_of_accepted? hreply
    · exact ih h

/-- Every use leaves a time that stands in a relation to the time before it. -/
def Clocked (R : Instant → Instant → Prop) (client : Client) (desk : Desk) : List Use → Prop
  | [] => True
  | use :: rest =>
    R desk.now (use.next client desk).now ∧ Clocked R client (use.next client desk) rest

theorem fetchedAt_le_now {client : Client} {desk : Desk} {uses : List Use}
    (hclock : Clocked (fun before now => before.micros ≤ now.micros) client desk uses)
    (hstart : ∀ snapshot, desk.snapshot = some snapshot →
      snapshot.fetchedAt.micros ≤ desk.now.micros) :
    ∀ snapshot, (after client desk uses).snapshot = some snapshot →
      snapshot.fetchedAt.micros ≤ (after client desk uses).now.micros := by
  induction uses generalizing desk with
  | nil => exact hstart
  | cons use rest ih =>
    obtain ⟨hforward, hrest⟩ := hclock
    refine ih hrest fun snapshot hs => ?_
    rcases use.downloads_cases client desk with ⟨_, hkept⟩ | ⟨payload, _, hstored, _⟩
    · rw [hkept] at hs
      exact Int.le_trans (hstart snapshot hs) hforward
    · rw [hstored] at hs
      obtain rfl := Option.some.inj hs
      exact Int.le_refl _

/-- While the clock stands still, what was just kept stays, and nothing is downloaded again. -/
theorem downloads_eq_nil {client : Client} {desk : Desk} {uses : List Use} {snapshot : Snapshot}
    (hclock : Clocked (· = ·) client desk uses) (hlifetime : 0 < client.lifetime)
    (hs : desk.snapshot = some snapshot) (hnow : snapshot.fetchedAt = desk.now) :
    downloads client desk uses = [] ∧ (after client desk uses).now = desk.now := by
  induction uses generalizing desk with
  | nil => exact ⟨rfl, rfl⟩
  | cons use rest ih =>
    obtain ⟨hstill, hrest⟩ := hclock
    rcases use.downloads_cases client desk with ⟨hnone, hkept⟩ | ⟨_, _, _, hstale⟩
    · obtain ⟨hothers, hlast⟩ := ih hrest (hkept.trans hs) (hnow.trans hstill)
      rw [downloads, hnone, hothers, after, hlast]
      exact ⟨rfl, hstill.symm⟩
    · refine absurd ⟨snapshot, hs, ?_⟩ hstale
      rw [hnow]
      omega

/-- While the clock stands still, one download serves for ever. -/
theorem downloads_of_still {client : Client} {desk : Desk} {uses : List Use}
    (hclock : Clocked (· = ·) client desk uses) (hlifetime : 0 < client.lifetime) :
    (downloads client desk uses).length ≤ 1 ∧
      ∀ download ∈ downloads client desk uses, download.moment = (after client desk uses).now := by
  induction uses generalizing desk with
  | nil => exact ⟨Nat.zero_le 1, fun _ h => absurd h List.not_mem_nil⟩
  | cons use rest ih =>
    obtain ⟨hstill, hrest⟩ := hclock
    rcases use.downloads_cases client desk with ⟨hnone, _⟩ | ⟨payload, hone, hstored, _⟩
    · rw [downloads, hnone, List.nil_append]
      exact ih hrest
    · obtain ⟨hothers, hlast⟩ := downloads_eq_nil hrest hlifetime hstored rfl
      rw [downloads, hone, hothers, List.append_nil]
      refine ⟨Nat.le_refl 1, fun download hd => ?_⟩
      rw [List.mem_singleton.mp hd, after, hlast]

/-- What is kept after some uses of a client that started with nothing, and when it is served. -/
structure CachesFaithfully (client : Client) (start : Desk) (uses : List Use) : Prop where
  kept : (after client start uses).snapshot =
    (downloads client start uses).getLast?.map Download.snapshot
  shows : ∀ download ∈ downloads client start uses, Payload.validate download.payload = .ok () ∧
    (Payload.entries download.payload).Shows download.payload
  fetches : client.FetchesFaithfully (after client start uses)
  /-- Without a download what is kept stays as it is. -/
  undisturbed : ∀ use : Use, use.downloads client (after client start uses) = [] →
    (use.next client (after client start uses)).snapshot = (after client start uses).snapshot
  fetchedAt_le : Clocked (fun before now => before.micros ≤ now.micros) client start uses →
    ∀ snapshot, (after client start uses).snapshot = some snapshot →
      snapshot.fetchedAt.micros ≤ (after client start uses).now.micros
  not_isFresh : Clocked (fun before now => before.micros ≤ now.micros) client start uses →
    client.lifetime ≤ 0 → ¬client.IsFresh (after client start uses)
  /-- While the clock stands still there is one download at most. -/
  length_le_one : Clocked (· = ·) client start uses → 0 < client.lifetime →
    (downloads client start uses).length ≤ 1
  /-- While the clock stands still a download is served without another request. -/
  serves : Clocked (· = ·) client start uses → 0 < client.lifetime →
    ∀ download ∈ downloads client start uses, client.IsFresh (after client start uses) ∧
      (client.fetch (after client start uses)).result = .ok (Payload.entries download.payload) ∧
      ∀ use : Use, Event.requests (use.act client (after client start uses)).events = []

theorem snapshot_of_still {client : Client} {start : Desk} {uses : List Use}
    (empty : start.snapshot = none) (hclock : Clocked (· = ·) client start uses)
    (hlifetime : 0 < client.lifetime) {download : Download}
    (h : download ∈ downloads client start uses) :
    (after client start uses).snapshot = some download.snapshot ∧
      (after client start uses).now.micros - download.snapshot.fetchedAt.micros <
        client.lifetime := by
  obtain ⟨hlength, hmoment⟩ := downloads_of_still hclock hlifetime
  have hnow : download.snapshot.fetchedAt = (after client start uses).now := hmoment download h
  obtain ⟨only, honly⟩ := List.length_eq_one_iff.mp
    (Nat.le_antisymm hlength (List.length_pos_of_mem h))
  constructor
  · rw [honly, List.mem_singleton] at h
    rw [snapshot_after, empty, honly, h]
    rfl
  · rw [hnow]
    omega

/-- What a client keeps, and when it serves it, after any uses of a new client in any order. -/
theorem cache_after_uses (client : Client) (start : Desk) (uses : List Use)
    (empty : start.snapshot = none) : CachesFaithfully client start uses where
  kept := by rw [snapshot_after, empty, Option.or_none]
  shows := by
    intro download hd
    have hvalid := validate_of_mem_downloads hd
    exact ⟨hvalid, (Payload.shows_of_validate hvalid).1⟩
  fetches := client.fetchesFaithfully _
  undisturbed := by
    intro use hnone
    rcases use.downloads_cases client (after client start uses) with
      ⟨_, hkept⟩ | ⟨payload, hone, _, _⟩
    · exact hkept
    · rw [hone] at hnone
      cases hnone
  fetchedAt_le := by
    intro hclock
    apply fetchedAt_le_now hclock
    intro snapshot hs
    rw [empty] at hs
    cases hs
  not_isFresh := by
    intro hclock hlifetime hfresh
    obtain ⟨snapshot, hs, hyoung⟩ := hfresh
    have hpast : snapshot.fetchedAt.micros ≤ (after client start uses).now.micros := by
      apply fetchedAt_le_now hclock _ snapshot hs
      intro snapshot hs
      rw [empty] at hs
      cases hs
    omega
  length_le_one := fun hclock hlifetime => (downloads_of_still hclock hlifetime).1
  serves := by
    intro hclock hlifetime download hd
    obtain ⟨hs, hage⟩ := snapshot_of_still empty hclock hlifetime hd
    refine ⟨⟨_, hs, hage⟩, ?_, fun use => use.requests_eq_nil ⟨_, hs, hage⟩⟩
    rw [Client.fetch_of_fresh hs hage]
    rfl

theorem served_after_first_fetch :
    (Client.standard.fetch (after Client.standard
      ⟨none, .epoch, true, [.answer 200 none (.payload (.arr [.obj [("cycle", .str "3.12")]]))]⟩
      [.fetch])).result =
      .ok [⟨"3.12", .null, .unknown, .null, .null, false, .unknown⟩] := by
  let payload : Json := .arr [.obj [("cycle", .str "3.12")]]
  let start : Desk := ⟨none, .epoch, true, [.answer 200 none (.payload payload)]⟩
  let later : Desk := Use.fetch.next Client.standard start
  have hdownloads : downloads Client.standard start [.fetch] = [⟨payload, later.now⟩] := rfl
  have hnow : start.now = later.now := by decide +kernel
  have hstill : Clocked (· = ·) Client.standard start [.fetch] := ⟨hnow, trivial⟩
  have hcaches := cache_after_uses Client.standard start [.fetch] rfl
  have hd : (⟨payload, later.now⟩ : Download) ∈ downloads Client.standard start [.fetch] := by
    rw [hdownloads]
    exact List.mem_singleton_self _
  exact (hcaches.serves hstill (by decide) _ hd).2.1

end ReleaseLines.Feed
