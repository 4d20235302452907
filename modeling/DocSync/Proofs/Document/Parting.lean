import DocSync.Proofs.Document.Pace

/-!
# How a document ends

A document is over when it is closed and has nothing left to hand over, and the server, if it ever
heard of it, heard of its closing. A document that is over stays so and is silent. As long as the
session is active a closed document says goodbye, unless its handshake failed; so once its queue is
empty it is over.
-/
namespace DocSync

def Log.Opened (l : Log) : Prop := ∃ n ∈ l.handed, n.isOpening = true

def Log.Ended (l : Log) : Prop := ∃ uri, Notification.didClose uri ∈ l.handed

theorem Log.Opened.congr {l k : Log} (h : l.handed = k.handed) : l.Opened ↔ k.Opened := by
  rw [Opened, Opened, h]

theorem Log.Ended.congr {l k : Log} (h : l.handed = k.handed) : l.Ended ↔ k.Ended := by
  rw [Ended, Ended, h]

/-- A dialogue is an opening, some changes and saves, and perhaps a closing. -/
theorem Dialogue.parts {s : List Notification} (h : Dialogue true s) :
    ∃ opening body closing, s = opening :: (body ++ closing) ∧ opening.isOpening = true ∧
      (∀ n ∈ body, n.isUpdate = true) ∧ closing.length ≤ 1 ∧
        ∀ n ∈ closing, n.isOpening = false := by
  have hunderway {ns : List Notification} (hu : Underway true ns) :
      ∃ opening body, ns = opening :: body ∧ opening.isOpening = true ∧
        ∀ n ∈ body, n.isUpdate = true := by
    cases hu with
    | opened uri languageId version text hb => exact ⟨_, _, rfl, rfl, hb⟩
  cases h with
  | unfinished hu =>
    obtain ⟨opening, body, rfl, ho, hb⟩ := hunderway hu
    exact ⟨opening, body, [], by simp, ho, hb, by simp, by simp⟩
  | finished hu uri =>
    obtain ⟨opening, body, rfl, ho, hb⟩ := hunderway hu
    exact ⟨opening, body, [.didClose uri], by simp, ho, hb, by simp,
      by simp [Notification.isOpening]⟩

theorem Notification.isUpdate_not_opening {n : Notification} (h : n.isUpdate = true) :
    n.isOpening = false := by
  cases n <;> simp_all [isUpdate, isOpening]

/-- An opening is the first of its document. -/
theorem Dialogue.eq_nil_of_opening {s ns : List Notification} {n : Notification}
    (h : Dialogue true s) (hns : ns ++ [n] <+: s) (hn : n.isOpening = true) : ns = [] := by
  obtain ⟨opening, body, closing, rfl, -, hbody, -, hclosing⟩ := h.parts
  cases ns with
  | nil => rfl
  | cons m ns =>
    rw [List.cons_append, List.cons_prefix_cons] at hns
    have hmem : n ∈ body ++ closing := hns.2.subset (by simp)
    have hnot : n.isOpening = false := by
      rcases List.mem_append.mp hmem with hmem | hmem
      · exact Notification.isUpdate_not_opening (hbody n hmem)
      · exact hclosing n hmem
    rw [hn] at hnot
    cases hnot

/-- Whatever is not an opening follows one, and no closing. -/
theorem Dialogue.underway_of_not_opening {s ns : List Notification} {n : Notification}
    (h : Dialogue true s) (hns : ns ++ [n] <+: s) (hn : n.isOpening = false) :
    (∃ m ∈ ns, m.isOpening = true) ∧ ∀ uri, Notification.didClose uri ∉ ns := by
  obtain ⟨opening, body, closing, rfl, ho, hbody, hlength, -⟩ := h.parts
  cases ns with
  | nil =>
    rw [List.nil_append, List.cons_prefix_cons] at hns
    rw [hns.1, ho] at hn
    cases hn
  | cons m ns =>
    rw [List.cons_append, List.cons_prefix_cons] at hns
    obtain ⟨rfl, hns⟩ := hns
    refine ⟨⟨m, by simp, ho⟩, fun uri hmem => ?_⟩
    have hle := hns.length_le
    simp only [List.length_append, List.length_singleton] at hle
    have hshort : ns <+: body := List.prefix_of_prefix_length_le
      ((List.prefix_append _ _).trans hns) (List.prefix_append _ _) (by omega)
    rcases List.mem_cons.mp hmem with rfl | hmem
    · cases ho
    · cases hbody _ (hshort.subset hmem)

namespace Document

/-- Nothing will ever be heard of a document again, and the server is not left in the dark. -/
structure Over (d : Document) (l : Log) : Prop where
  closed : d.phase = .closed
  drained : d.unsent = []
  ended : l.Opened → l.Ended

/-- A document has reported its closing, unless it says nothing, or can say nothing any more. -/
def Parted (d : Document) (l : Log) : Prop :=
  d.isRefused = true ∨ d.ledger l = [] ∨ ∃ uri, Notification.didClose uri ∈ d.ledger l

/-- A document that reports its closing, if it says anything. -/
structure Polite (d : Document) (l : Log) : Prop where
  keeps : Keeps d (d.ledger l)
  openClose : d.policy.openClose = true
  parted : d.phase = .closed → d.Parted l

theorem beginOpen_phase {d : Document} (hp : d.phase = .unopened) :
    d.beginOpen.phase = .opening := by
  rw [beginOpen_eq hp]
  split <;> rfl

theorem Call.closed {active : Bool} {d d' : Document} (hc : Call active d d')
    (h : d.phase = .closed) :
    d'.phase = .closed ∧ d'.backlog = d.backlog ∧ d'.isRefused = d.isRefused := by
  cases hc with
  | begin hp =>
    rw [h] at hp
    cases hp
  | write => exact ⟨h, rfl, rfl⟩
  | change ha => exact absurd h (acceptsOutgoing_open ha)
  | save ha => exact absurd h (acceptsOutgoing_open ha)
  | vain ha => exact absurd h (acceptsEdits_open ha)
  | close ha => exact absurd h (acceptsOutgoing_open ha)
  | abandon => exact ⟨rfl, rfl, rfl⟩

theorem work_closed (active : Bool) {d : Document} (h : d.phase = .closed) (m : Client.Move) :
    (m.work active d).phase = .closed :=
  m.work_induct (P := fun e => e.phase = .closed) (fun _ _ hc he => (hc.closed he).1) h

theorem Step.closed {now : Nat} {supported : Bool} {d d' : Document} {es : List Event}
    (hs : Step now supported d es d') : d'.phase = .closed ↔ d.phase = .closed := by
  rcases hs.phase with hp | ⟨hp, hp'⟩
  · rw [hp]
  · simp [hp, hp']

theorem Course.closed {a b : Nat} {supported : Bool} {d d' : Document} {l : Log}
    (hc : Course supported a d l b d') : d'.phase = .closed ↔ d.phase = .closed := by
  induction hc with
  | refl => exact Iff.rfl
  | step _ hs ih => exact hs.closed.trans ih
  | wait _ _ _ ih => exact ih

theorem Step.silent {now : Nat} {supported : Bool} {d d' : Document} {es : List Event}
    (hs : Step now supported d es d') (h : d.unsent = []) (l : Log) :
    d'.unsent = [] ∧ Log.handed (l ++ es.map (now, ·)) = l.handed := by
  have hbegins := hs.ledger_prefix l
  rw [Document.ledger, Document.ledger, h, Log.handed_append, List.append_assoc,
    List.prefix_append_right_inj, List.prefix_nil, List.append_eq_nil_iff] at hbegins
  exact ⟨hbegins.2, by rw [Log.handed_append, hbegins.1, List.append_nil]⟩

theorem Over.call {active : Bool} {d d' : Document} {l : Log} (h : Over d l)
    (hc : Call active d d') : Over d' l := by
  obtain ⟨hclosed, hbacklog, hrefused⟩ := hc.closed h.closed
  exact ⟨hclosed, by rw [unsent, hbacklog, hrefused]; exact h.drained, h.ended⟩

theorem Over.work {d : Document} {l : Log} (h : Over d l) (active : Bool) (m : Client.Move) :
    Over (m.work active d) l :=
  m.work_induct (P := fun e => Over e l) (fun _ _ hc he => he.call hc) h

theorem Over.course {now later : Nat} {supported : Bool} {d d' : Document} {l k : Log}
    (h : Over d l) (hc : Course supported now d k later d') :
    Over d' (l ++ k) ∧ Log.handed (l ++ k) = l.handed := by
  refine Course.induct (P := fun e m _ => Over e m ∧ Log.handed m = l.handed) ?_
    (fun _ _ he => he) hc ⟨h, rfl⟩
  intro now e m es e' hs he
  obtain ⟨he, hm⟩ := he
  obtain ⟨hdrained, hsame⟩ := hs.silent he.drained m
  refine ⟨⟨hs.closed.mpr he.closed, hdrained, ?_⟩, hsame.trans hm⟩
  rw [Log.Opened.congr hsame, Log.Ended.congr hsame]
  exact he.ended

theorem Parted.step {now : Nat} {supported : Bool} {d d' : Document} {es : List Event} {l : Log}
    (h : Parted d l) (hs : Step now supported d es d') : Parted d' (l ++ es.map (now, ·)) := by
  rcases hs.ledger l with heq | ⟨hr, -⟩
  · rw [Parted, heq]
    exact h.imp_left hs.isRefused
  · exact .inl hr

theorem polite_new {d : Document} (h : d.IsNew) (ho : d.policy.openClose = true) :
    Polite d [] := by
  refine ⟨keeps_new h, ho, fun hp => ?_⟩
  rw [h] at hp
  cases hp

theorem Polite.call {d d' : Document} {l : Log} (h : Polite d l) (hc : Call true d d') :
    Polite d' l := by
  refine ⟨h.keeps.call hc, hc.setup.1 ▸ h.openClose, fun hp' => ?_⟩
  cases hc with
  | begin hp =>
    rw [beginOpen_phase hp] at hp'
    cases hp'
  | write => exact h.parted hp'
  | change ha => exact absurd hp' (acceptsOutgoing_open ha)
  | save ha => exact absurd hp' (acceptsOutgoing_open ha)
  | vain ha => exact absurd hp' (acceptsEdits_open ha)
  | close ha =>
    refine .inr (.inr ⟨d.uri, ?_⟩)
    rw [ledger_shut, ledger_push ha]
    exact List.mem_append_right _ (List.mem_singleton_self _)
  | abandon hc =>
    have ha : d.acceptsOutgoing = false := by simpa [h.openClose] using hc
    cases hp : d.phase with
    | unopened => exact .inr (.inl (h.keeps.unopened hp).2)
    | closed => exact h.parted hp
    | opening =>
      have hr : d.isRefused = true := by simpa [acceptsOutgoing, acceptsEdits, hp] using ha
      exact .inl hr
    | opened =>
      have hr : d.isRefused = true := by simpa [acceptsOutgoing, acceptsEdits, hp] using ha
      exact .inl hr

theorem Polite.step {now : Nat} {supported : Bool} {d d' : Document} {es : List Event} {l : Log}
    (h : Polite d l) (hs : Step now supported d es d') : Polite d' (l ++ es.map (now, ·)) :=
  ⟨h.keeps.step hs, hs.sameText.policy ▸ h.openClose,
    fun hp => (h.parted (hs.closed.mp hp)).step hs⟩

theorem Polite.course {now later : Nat} {supported : Bool} {d d' : Document} {l k : Log}
    (h : Polite d l) (hc : Course supported now d k later d') : Polite d' (l ++ k) :=
  Course.induct (P := fun e m _ => Polite e m) (fun hs he => he.step hs) (fun _ _ he => he) hc h

/-- A closed document that has handed over everything is over, if its opening came through. -/
theorem Polite.over {d : Document} {l : Log} {now : Nat} (h : Polite d l)
    (hp : d.phase = .closed) (hdrained : d.unsent = []) (hfits : d.WriterFits l now)
    (halive : ¬ l.OpeningFailed) : Over d l := by
  refine ⟨hp, hdrained, ?_⟩
  rintro ⟨n, hn, hopening⟩
  have hledger : d.ledger l = l.handed := by rw [Document.ledger, hdrained, List.append_nil]
  rcases h.parted hp with hr | hnil | ⟨uri, hmem⟩
  · exfalso
    unfold WriterFits at hfits
    cases hw : d.writer with
    | refused e | stopped e =>
      rw [hw] at hfits
      rcases hfits with hfailed | hnil
      · exact halive hfailed
      · rw [hnil] at hn
        cases hn
    | _ => simp [isRefused, hw] at hr
  · rw [hledger] at hnil
    rw [hnil] at hn
    cases hn
  · rw [hledger] at hmem
    exact ⟨uri, hmem⟩

/-- A document that still has something to hand over, the opening apart, is open on the server. -/
theorem Keeps.standing {d : Document} {l : Log} (h : Keeps d (d.ledger l))
    (ho : d.policy.openClose = true) (hq : ∀ item ∈ d.queue, item.notification.isOpening = false)
    (hw : Writer.greeting? d.writer = none) (hu : d.unsent ≠ []) : l.Opened ∧ ¬ l.Ended := by
  obtain ⟨s, hdialogue, hbegins⟩ := h.dialogue
  rw [ho] at hdialogue
  have hr : d.isRefused = false := by
    by_contra hr
    exact hu (unsent_of_isRefused (by simpa using hr))
  rw [Document.ledger, unsent_of_greeting?_eq_none hw hr] at hbegins
  rw [unsent_of_greeting?_eq_none hw hr] at hu
  cases hqueue : d.queue with
  | nil => simp [hqueue] at hu
  | cons item rest =>
    have hitem : item.notification.isOpening = false := hq item (by simp [hqueue])
    have hnext : l.handed ++ [item.notification] <+: s := by
      refine List.IsPrefix.trans ?_ hbegins
      simp [hqueue]
    obtain ⟨hopened, hended⟩ := hdialogue.underway_of_not_opening hnext hitem
    refine ⟨hopened, ?_⟩
    rintro ⟨uri, hmem⟩
    exact hended uri hmem

end Document

end DocSync
