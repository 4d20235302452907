import DocSync.Proofs.Client.Learning
import DocSync.Proofs.Document.Step

/-!
# Turns as courses

All that a document does in its turn comes down to changes of its own state, notes of events that
are no pulls, notifications handed over, and requests for diagnostics that it awaits. Its events are
the only thing that it adds to the history, and of what documents share it changes neither the clock
nor the session, and the registry only by answers to its pulls. What each function of a turn does is
told by its events and by what becomes of the document.
-/
namespace DocSync

def Event.isPull : Event → Bool
  | .pulled .. => true
  | .handed _ | .finished .. | .handshake _ | .acknowledged .. => false

/-- What no turn changes. -/
structure Environment.SameWorld (e e' : Environment) : Prop where
  now : e'.now = e.now
  session : e'.session = e.session
  feature : e'.feature = e.feature
  resolver : e'.resolver = e.resolver
  stalled : e'.link.stalled = e.link.stalled
  late : e'.late = e.late

theorem Environment.SameWorld.refl (e : Environment) : e.SameWorld e :=
  ⟨rfl, rfl, rfl, rfl, rfl, rfl⟩

theorem Environment.SameWorld.trans {a b c : Environment} (h : a.SameWorld b) (k : b.SameWorld c) :
    a.SameWorld c :=
  ⟨k.now.trans h.now, k.session.trans h.session, k.feature.trans h.feature,
    k.resolver.trans h.resolver, k.stalled.trans h.stalled, k.late.trans h.late⟩

/-! ## What a refresh is to do -/

namespace Document

/-- The version that a refresh is to pull for, if any. -/
def wants (d : Document) : RefreshOrigin → Option PullVersion
  | .capability => if d.unpulled then some (.exact d.version) else none
  | .workspace => some .any

/-- The version that a refresh pulls for at once. -/
def pullsFor (d : Document) (supported : Bool) (origin : RefreshOrigin) : Option PullVersion :=
  if supported = true ∧ d.phase = .opened then d.wants origin else none

/-- The version of the pull that a refresh leaves for after the handshake. -/
def leavesFor (d : Document) (supported : Bool) (origin : RefreshOrigin) : Option PullVersion :=
  if supported = true ∧ d.phase = .opening ∧ d.isRefused = false then d.wants origin else none

theorem wants_any {d : Document} {origin : RefreshOrigin} :
    d.wants origin = some .any ↔ origin = .workspace := by
  cases origin <;> simp [wants]

theorem pullsFor_any {d : Document} {supported : Bool} {origin : RefreshOrigin} :
    d.pullsFor supported origin = some .any ↔
      (supported = true ∧ d.phase = .opened) ∧ origin = .workspace := by
  unfold pullsFor
  split <;> simp_all [wants_any]

theorem leavesFor_any {d : Document} {supported : Bool} {origin : RefreshOrigin} :
    d.leavesFor supported origin = some .any ↔
      (supported = true ∧ d.phase = .opening ∧ d.isRefused = false) ∧ origin = .workspace := by
  unfold leavesFor
  split <;> simp_all [wants_any]

theorem awaits_of_wants {d : Document} {origin : RefreshOrigin} {v : PullVersion}
    (hv : d.wants origin = some v) (hp : d.phase ≠ .closed) : d.awaits v = true := by
  cases origin with
  | workspace =>
    simp only [wants, Option.some.injEq] at hv
    simp [awaits, ← hv, PullVersion.accepts, hp]
  | capability =>
    simp only [wants, Option.ite_none_right_eq_some, Option.some.injEq] at hv
    simp [awaits, ← hv.2, PullVersion.accepts, hp]

theorem awaits_of_pullsFor {d : Document} {supported : Bool} {origin : RefreshOrigin}
    {v : PullVersion} (hv : d.pullsFor supported origin = some v) : d.awaits v = true := by
  simp only [pullsFor, Option.ite_none_right_eq_some] at hv
  exact awaits_of_wants hv.2 (by simp [hv.1.2])

theorem refreshes_of_wants {d : Document} {origin : RefreshOrigin} {v : PullVersion}
    (hv : d.wants origin = some v) : d.Refreshes v := by
  cases origin with
  | workspace =>
    simp only [wants, Option.some.injEq] at hv
    exact .inl hv.symm
  | capability =>
    simp only [wants, Option.ite_none_right_eq_some, Option.some.injEq] at hv
    exact .inr ⟨hv.1, hv.2.symm⟩

end Document

namespace Turn

open Document (Asks Attends Course Step)

/-- One turn follows another with these events of the document, all at one time. -/
inductive Emits : Turn → List Event → Turn → Prop
  | document (t : Turn) (d : Document) (hid : d.id = t.doc.id) : Emits t [] { t with doc := d }
  | note (t : Turn) {e : Event} (h : e.isPull = false) : Emits t [e] (t.note e)
  | hand (t : Turn) (n : Notification) : Emits t [.handed n] (t.hand n).1
  | request (t : Turn) (cause : PullCause) {v : PullVersion} (h : t.doc.awaits v = true) :
      Emits t [.pulled cause v ⟨t.doc.uri, t.env.feature.identifier⟩] (t.request cause v)
  | trans {t u w : Turn} {es fs : List Event} (h : Emits t es u) (k : Emits u fs w) :
      Emits t (es ++ fs) w

/-! ## Requests -/

theorem accept_doc (t : Turn) (v : PullVersion) (a : Answer) : (t.accept v a).doc = t.doc := by
  rw [accept_eq]
  split <;> rfl

theorem accept_link (t : Turn) (v : PullVersion) (a : Answer) :
    (t.accept v a).env.link = t.env.link := by
  rw [accept_eq]
  split <;> rfl

theorem accept_world (t : Turn) (v : PullVersion) (a : Answer) :
    t.env.SameWorld (t.accept v a).env := by
  rw [accept_eq]
  split
  · exact ⟨rfl, rfl, rfl, rfl, rfl, rfl⟩
  · exact .refl _

theorem request_doc (t : Turn) (cause : PullCause) (v : PullVersion) :
    (t.request cause v).doc = t.doc := by
  unfold request
  dsimp only
  split
  · rw [accept_doc]
    rfl
  · rfl

theorem request_failures (t : Turn) (cause : PullCause) (v : PullVersion) :
    (t.request cause v).env.link.failures = t.env.link.failures := by
  unfold request
  dsimp only
  split
  · rename_i answer link hlink
    obtain rfl : (t.env.link.takeAnswer t.doc.uri.text).2 = link := congrArg Prod.snd hlink
    rw [accept_link]
    rfl
  · rename_i link hlink
    obtain rfl : (t.env.link.takeAnswer t.doc.uri.text).2 = link := congrArg Prod.snd hlink
    rfl

theorem request_world (t : Turn) (cause : PullCause) (v : PullVersion) :
    t.env.SameWorld (t.request cause v).env := by
  unfold request
  dsimp only
  split
  · rename_i answer link hlink
    obtain rfl : (t.env.link.takeAnswer t.doc.uri.text).2 = link := congrArg Prod.snd hlink
    rw [accept_eq]
    split <;> exact ⟨rfl, rfl, rfl, rfl, rfl, rfl⟩
  · rename_i link hlink
    obtain rfl : (t.env.link.takeAnswer t.doc.uri.text).2 = link := congrArg Prod.snd hlink
    exact ⟨rfl, rfl, rfl, rfl, rfl, rfl⟩

theorem request_proceeds (t : Turn) (cause : PullCause) (v : PullVersion) :
    t.env.Proceeds
      [⟨t.env.now, t.doc.id, .pulled cause v ⟨t.doc.uri, t.env.feature.identifier⟩⟩]
      (t.request cause v).env := by
  unfold request
  dsimp only
  split
  · rename_i answer link hlink
    obtain rfl : (t.env.link.takeAnswer t.doc.uri.text).2 = link := congrArg Prod.snd hlink
    rw [accept_eq]
    split
    · exact ⟨rfl, fun _ hr => .inl hr, rfl, rfl, .answer rfl answer (.nil _)⟩
    · exact .silent rfl rfl rfl rfl rfl
  · rename_i link hlink
    obtain rfl : (t.env.link.takeAnswer t.doc.uri.text).2 = link := congrArg Prod.snd hlink
    refine ⟨rfl, fun r hr => ?_, rfl, rfl, .silent _ (.nil _)⟩
    rcases List.mem_append.mp hr with hr | hr
    · exact .inl hr
    · rw [List.mem_singleton.mp hr]
      exact .inr ⟨_, List.mem_singleton_self _, rfl, cause, _, rfl⟩

/-! ## Events -/

namespace Emits

variable {t u : Turn} {es : List Event}

theorem nil (t : Turn) : Emits t [] t := document t t.doc rfl

theorem edit (h : Emits t es u) {d : Document} (hid : d.id = u.doc.id) :
    Emits t es { u with doc := d } :=
  List.append_nil es ▸ h.trans (document u d hid)

theorem id (h : Emits t es u) : u.doc.id = t.doc.id := by
  induction h with
  | document t d hid => exact hid
  | note | hand => rfl
  | request t cause => rw [request_doc]
  | trans _ _ ih ih' => exact ih'.trans ih

theorem world (h : Emits t es u) : t.env.SameWorld u.env := by
  induction h with
  | document | note | hand => exact ⟨rfl, rfl, rfl, rfl, rfl, rfl⟩
  | request t cause => exact t.request_world cause _
  | trans _ _ ih ih' => exact ih.trans ih'

theorem proceeds (h : Emits t es u) :
    t.env.Proceeds (es.map fun e => ⟨t.env.now, t.doc.id, e⟩) u.env := by
  induction h with
  | document t => exact .refl t.env
  | note | hand => exact .silent rfl rfl rfl rfl rfl
  | request t cause => exact t.request_proceeds cause _
  | trans h _ ih ih' =>
    rw [h.world.now, h.id] at ih'
    rw [List.map_append]
    exact ih.trans ih'

theorem history (h : Emits t es u) :
    u.env.history = t.env.history ++ es.map fun e => ⟨t.env.now, t.doc.id, e⟩ :=
  h.proceeds.history

/-- Failures that wait for notifications only go away. -/
theorem failures (h : Emits t es u) (hnone : t.env.link.failures = []) :
    u.env.link.failures = [] := by
  induction h with
  | document | note => exact hnone
  | hand t n => simp [Turn.hand, Link.takeFailure, hnone, Turn.note]
  | request t cause => exact (t.request_failures cause _).trans hnone
  | trans _ _ ih ih' => exact ih' (ih hnone)

end Emits

def Goes (t t' : Turn) : Prop :=
  ∃ es, Emits t es t' ∧ Course t.env.feature.supported t.env.now t.doc
    (es.map (t.env.now, ·)) t.env.now t'.doc

theorem Goes.refl (t : Turn) : Goes t t := ⟨[], .nil t, .refl _ _⟩

theorem Goes.trans {a b c : Turn} (h : Goes a b) (k : Goes b c) : Goes a c := by
  obtain ⟨es, he, hc⟩ := h
  obtain ⟨fs, hf, hd⟩ := k
  refine ⟨es ++ fs, he.trans hf, ?_⟩
  rw [he.world.now, he.world.feature] at hd
  simpa using hc.trans hd

theorem Goes.step {t t' : Turn} {es : List Event} (he : Emits t es t')
    (h : Step t.env.now t.env.feature.supported t.doc es t'.doc) : Goes t t' :=
  ⟨es, he, .single h⟩

theorem Goes.world {t t' : Turn} (h : Goes t t') : t.env.SameWorld t'.env := by
  obtain ⟨_, he, _⟩ := h
  exact he.world

theorem Goes.id {t u : Turn} (h : Goes t u) : u.doc.id = t.doc.id := by
  obtain ⟨_, he, _⟩ := h
  exact he.id

/-! ## Pulls -/

theorem pull_doc (t : Turn) (cause : PullCause) (v : PullVersion) :
    (t.pull cause v).doc = t.doc := by
  unfold pull
  split
  · rw [request_doc]
  · rfl

theorem pull_spec (t : Turn) (cause : PullCause) (v : PullVersion) :
    ∃ pulls, Emits t pulls (t.pull cause v) ∧ Asks t.doc cause v pulls := by
  unfold pull
  split
  · rename_i h
    exact ⟨_, .request t cause h, .ask _ h⟩
  · rename_i h
    exact ⟨[], .nil t, .skip (by simpa using h)⟩

/-- After a text was sent a pull goes out at once, or a timer is set, or neither. -/
theorem afterSend_spec (t : Turn) (version : Version) :
    ∃ timer pulls, (t.afterSend version).doc = { t.doc with timer } ∧
      Emits t pulls (t.afterSend version) ∧
      Attends t.env.now t.env.feature.supported t.doc (some version) timer pulls := by
  unfold afterSend
  split
  · rename_i h
    have hminds : t.doc.minds t.env.feature.supported = false := by
      rw [Bool.or_eq_true, Bool.not_eq_true', decide_eq_true_eq] at h
      rcases h with h | h <;> simp [Document.minds, h]
    exact ⟨t.doc.timer, [], rfl, .nil t, .ignore _ hminds⟩
  · rename_i h
    have hminds : t.doc.minds t.env.feature.supported = true := by
      simpa [Document.minds, not_or] using h
    split
    · rename_i hh
      obtain ⟨pulls, he, hp⟩ := t.pull_spec .sent (.exact version)
      exact ⟨t.doc.timer, pulls, t.pull_doc _ _, he, .pull hminds hh hp⟩
    · rename_i hh
      exact ⟨_, [], rfl, .document t _ rfl, .delay version hminds (by simpa using hh)⟩

/-! ## Refreshes -/

theorem refresh_eq (t : Turn) (origin : RefreshOrigin) :
    t.refresh origin =
      if t.env.feature.supported = true then
        match t.doc.wants origin with
        | none => t
        | some v => t.pullWhenOpen v
      else t := by
  unfold refresh Document.wants
  cases hs : t.env.feature.supported with
  | false => rfl
  | true => cases origin <;> cases t.doc.unpulled <;> rfl

/-- A refresh pulls at once, or leaves its pull for after the handshake, or does nothing. -/
theorem refresh_cases (t : Turn) (origin : RefreshOrigin) :
    (∃ v, t.doc.pullsFor t.env.feature.supported origin = some v ∧
      t.doc.leavesFor t.env.feature.supported origin = none ∧
        t.refresh origin = t.request .refreshed v) ∨
    (∃ v, t.doc.pullsFor t.env.feature.supported origin = none ∧
      t.doc.leavesFor t.env.feature.supported origin = some v ∧
        t.refresh origin = { t with doc.waiting := t.doc.waiting ++ [v] }) ∨
    (t.doc.pullsFor t.env.feature.supported origin = none ∧
      t.doc.leavesFor t.env.feature.supported origin = none ∧ t.refresh origin = t) := by
  rw [refresh_eq]
  split
  · rename_i hs
    split
    · rename_i hnone
      exact .inr (.inr
      ⟨by simp [Document.pullsFor, hnone], by simp [Document.leavesFor, hnone], rfl⟩)
    · rename_i v hv
      unfold pullWhenOpen
      split
      · rename_i hp
        refine .inl ⟨v, ?_, by simp [Document.leavesFor, hp], ?_⟩
        · rw [Document.pullsFor, if_pos ⟨hs, hp⟩, hv]
        · rw [pull, if_pos (Document.awaits_of_wants hv (by simp [hp]))]
      · rename_i hp
        have hpulls : t.doc.pullsFor t.env.feature.supported origin = none := by
          simp [Document.pullsFor, hp]
        split
        · rename_i hr
          exact .inr (.inr ⟨hpulls, by simp [Document.leavesFor, hr], rfl⟩)
        · rename_i hr
          refine .inr (.inl ⟨v, hpulls, ?_, rfl⟩)
          rw [Document.leavesFor, if_pos ⟨hs, hp, by simpa using hr⟩, hv]
      · rename_i hopened hopening
        exact .inr (.inr ⟨if_neg fun h => hopened h.2, if_neg fun h => hopening h.2.1, rfl⟩)
  · rename_i hs
    exact .inr (.inr ⟨by simp [Document.pullsFor, hs], by simp [Document.leavesFor, hs], rfl⟩)

theorem refresh_spec (t : Turn) (origin : RefreshOrigin) :
    (t.refresh origin).doc = { t.doc with
        waiting := t.doc.waiting ++ (t.doc.leavesFor t.env.feature.supported origin).toList } ∧
      Emits t ((t.doc.pullsFor t.env.feature.supported origin).toList.map fun v =>
        .pulled .refreshed v ⟨t.doc.uri, t.env.feature.identifier⟩) (t.refresh origin) := by
  rcases t.refresh_cases origin with ⟨v, hpulls, hleaves, h⟩ | ⟨v, hpulls, hleaves, h⟩ |
    ⟨hpulls, hleaves, h⟩ <;> rw [hpulls, hleaves, h]
  · refine ⟨?_, .request t .refreshed (Document.awaits_of_pullsFor hpulls)⟩
    rw [request_doc]
    simp
  · exact ⟨rfl, .document t _ rfl⟩
  · exact ⟨by simp, .nil t⟩

theorem refresh_idle {t : Turn} {origin : RefreshOrigin}
    (hpulls : t.doc.pullsFor t.env.feature.supported origin = none)
    (hleaves : t.doc.leavesFor t.env.feature.supported origin = none) : t.refresh origin = t := by
  rcases t.refresh_cases origin with ⟨v, hsome, -⟩ | ⟨v, -, hsome, -⟩ | ⟨-, -, h⟩
  · cases hpulls.symm.trans hsome
  · cases hleaves.symm.trans hsome
  · exact h

/-- A refresh that does anything is one step. -/
theorem refresh_step (t : Turn) (origin : RefreshOrigin) : t.refresh origin = t ∨
    ∃ es, Emits t es (t.refresh origin) ∧
      Step t.env.now t.env.feature.supported t.doc es (t.refresh origin).doc := by
  obtain ⟨hdoc, he⟩ := t.refresh_spec origin
  rcases t.refresh_cases origin with ⟨v, hpulls, hleaves, -⟩ | ⟨v, hpulls, hleaves, -⟩ | ⟨-, -, h⟩
  · refine .inr ⟨_, he, ?_⟩
    have hasks : t.doc.Asks .refreshed v
        [.pulled .refreshed v ⟨t.doc.uri, t.env.feature.identifier⟩] :=
      .ask _ (Document.awaits_of_pullsFor hpulls)
    rw [hdoc, hpulls, hleaves, Option.toList_none, List.append_nil]
    simp only [Document.pullsFor, Option.ite_none_right_eq_some] at hpulls
    obtain ⟨⟨hs, hp⟩, hv⟩ := hpulls
    exact .refresh hp hs (Document.refreshes_of_wants hv) hasks
  · refine .inr ⟨_, he, ?_⟩
    rw [hdoc, hpulls, hleaves]
    simp only [Document.leavesFor, Option.ite_none_right_eq_some] at hleaves
    obtain ⟨⟨hs, hp, hr⟩, hv⟩ := hleaves
    exact .enlist hp hr hs (Document.refreshes_of_wants hv)
  · exact .inl h

theorem goes_refresh (t : Turn) (origin : RefreshOrigin) : Goes t (t.refresh origin) := by
  obtain heq | ⟨es, he, hs⟩ := t.refresh_step origin
  · rw [heq]
    exact .refl t
  · exact .step he hs

/-! ## The writer -/

theorem finish_spec (t : Turn) (item : Outgoing) (fault : Option SessionError) :
    ∃ timer pulls, (t.finish item fault).doc = { t.doc with timer, writer := .idle } ∧
      Emits t (.finished item.notification fault :: pulls ++
        [.acknowledged item.ticket fault.isNone]) (t.finish item fault) ∧
      Attends t.env.now t.env.feature.supported t.doc (item.notification.sentVersion? fault)
        timer pulls := by
  have hn : Emits t [.finished item.notification fault]
      (t.note (.finished item.notification fault)) :=
    .note t rfl
  -- Whatever is seen to in between, the sender is told in the end.
  have hlast {u : Turn} {es : List Event} (h : Emits t es u) : Emits t
      (es ++ [.acknowledged item.ticket fault.isNone])
      { u.note (.acknowledged item.ticket fault.isNone) with
        doc := { u.doc with writer := .idle } } :=
    (h.trans (.note u rfl)).edit rfl
  unfold finish
  dsimp only
  cases fault with
  | some e => exact ⟨t.doc.timer, [], rfl, hlast hn, .unsent⟩
  | none =>
    cases hv : item.notification.version? with
    | none =>
      refine ⟨t.doc.timer, [], rfl, hlast hn, ?_⟩
      rw [Notification.sentVersion?, hv]
      exact .unsent
    | some version =>
      obtain ⟨timer, pulls, hdoc, he, hp⟩ :=
        (t.note (.finished item.notification none)).afterSend_spec version
      have hidle := congrArg (fun d : Document => { d with writer := .idle }) hdoc
      refine ⟨timer, pulls, hidle, hlast (hn.trans he), ?_⟩
      rw [Notification.sentVersion?, hv]
      exact hp

theorem dismiss_spec (items : List Outgoing) (t : Turn) :
    (t.dismiss items).doc = { t.doc with queue := [] } ∧
      Emits t (items.map fun item => .acknowledged item.ticket false) (t.dismiss items) := by
  induction items generalizing t with
  | nil => exact ⟨rfl, .document t _ rfl⟩
  | cons item rest ih =>
    obtain ⟨hdoc, he⟩ := ih (t.note (.acknowledged item.ticket false))
    exact ⟨hdoc, (Emits.note t rfl).trans he⟩

theorem stop_spec (t : Turn) (e : SessionError) :
    (t.stop e).doc = t.doc.stop e ∧ Emits t t.doc.dismissals (t.stop e) := by
  let stopped : Turn := { t with doc.writer := .stopped e }
  obtain ⟨hdoc, he⟩ := dismiss_spec t.doc.queue stopped
  exact ⟨hdoc, (Emits.document t stopped.doc rfl).trans he⟩

theorem emits_lose (t : Turn) (e : SessionError) : Emits t [.handshake (some e)] (t.lose e) :=
  (Emits.note t rfl).edit rfl

theorem afterGreeting_spec (t : Turn) (n : Notification) :
    ∃ timer unpulled pulls, (t.afterGreeting (some n)).doc = { t.doc with timer, unpulled } ∧
      Emits t pulls (t.afterGreeting (some n)) ∧
      unpulled = (n.version?.elim t.doc.unpulled fun _ => !t.env.feature.supported) ∧
      Attends t.env.now t.env.feature.supported t.doc n.version? timer pulls := by
  unfold afterGreeting
  dsimp only
  split
  · rename_i hv
    rw [hv]
    exact ⟨t.doc.timer, t.doc.unpulled, [], rfl, .nil t, rfl, .unsent⟩
  · rename_i version hv
    let noted : Turn := { t with doc.unpulled := !t.env.feature.supported }
    obtain ⟨timer, pulls, hdoc, he, hp⟩ := noted.afterSend_spec version
    rw [hv]
    exact ⟨timer, _, pulls, hdoc, (Emits.document t noted.doc rfl).trans he, rfl,
      hp.congr (fun _ => rfl) rfl rfl⟩

/-- The turn when the handshake succeeded. -/
def announce (t : Turn) : Turn := ⟨t.doc.establish, (t.note (.handshake none)).env⟩

theorem join_eq (t : Turn) (greeting : Option Notification) :
    t.join greeting = t.announce.afterGreeting greeting := by
  unfold join announce Document.establish
  by_cases hp : t.doc.phase = .opening
  · simp [note, hp]
  · simp [note, hp]

theorem emits_announce (t : Turn) : Emits t [.handshake none] t.announce :=
  (Emits.note t rfl).edit rfl

theorem join_spec (t : Turn) (n : Notification) :
    ∃ timer unpulled pulls, (t.join (some n)).doc = { t.doc.establish with timer, unpulled } ∧
      Emits t (.handshake none :: pulls) (t.join (some n)) ∧
      unpulled = (n.version?.elim t.doc.unpulled fun _ => !t.env.feature.supported) ∧
      Attends t.env.now t.env.feature.supported t.doc n.version? timer pulls := by
  obtain ⟨timer, unpulled, pulls, hdoc, he, hu, hp⟩ := t.announce.afterGreeting_spec n
  rw [join_eq]
  exact ⟨timer, unpulled, pulls, hdoc, t.emits_announce.trans he, hu,
    hp.congr (fun v => (t.doc.awaits_establish v).symm) rfl rfl⟩

theorem join_writer (t : Turn) (greeting : Option Notification) :
    (t.join greeting).doc.writer = .idle := by
  cases greeting with
  | none =>
    rw [join_eq]
    rfl
  | some n =>
    obtain ⟨_, _, _, hdoc, -⟩ := t.join_spec n
    rw [hdoc]
    rfl

end Turn

end DocSync
