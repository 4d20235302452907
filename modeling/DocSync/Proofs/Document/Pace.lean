import DocSync.Proofs.Document.Ledger

/-!
# When notifications are handed over

A notification is handed over when nothing handed over before is still without an outcome. The one
that opens the document comes first; every other waits for the handshake, and with it for the time
that a server has to take the document in. After an opening that failed nothing is handed over.
-/
namespace DocSync

def Notification.isOpening : Notification → Bool
  | .didOpen .. => true
  | _ => false

def Event.settle (open_ : List Notification) : Event → List Notification
  | .handed n => open_ ++ [n]
  | .finished n _ => open_.erase n
  | _ => open_

namespace Log

/-- The notifications that were handed over and have no outcome yet. -/
def unresolved (l : Log) : List Notification := l.foldl (fun ns x => x.2.settle ns) []

def OpeningFailed (l : Log) : Prop :=
  ∃ t n e, (t, Event.finished n (some e)) ∈ l ∧ n.isOpening = true

/-- The handshake came out well, and the opening, where there is one, came through some time
before. -/
def Greeted (openClose : Bool) (delay : Nat) (l : Log) (now : Nat) : Prop :=
  (∃ t, (t, Event.handshake none) ∈ l) ∧
    (openClose = true →
      ∃ t n, (t, Event.finished n none) ∈ l ∧ n.isOpening = true ∧ t + delay ≤ now)

theorem Greeted.mono {openClose : Bool} {delay now later : Nat} {l : Log}
    (h : Greeted openClose delay l now) (hle : now ≤ later) (k : Log) :
    Greeted openClose delay (l ++ k) later := by
  obtain ⟨⟨t, ht⟩, hopen⟩ := h
  refine ⟨⟨t, List.mem_append_left k ht⟩, fun ho => ?_⟩
  obtain ⟨s, n, hs, hn, hdelay⟩ := hopen ho
  exact ⟨s, n, List.mem_append_left k hs, hn, by omega⟩

end Log

namespace Document

/-- What is true of a log when a notification is handed over next. -/
structure MayHand (d : Document) (l : Log) (now : Nat) (n : Notification) : Prop where
  resolved : l.unresolved = []
  alive : ¬ l.OpeningFailed
  greeted : n.isOpening = false → l.Greeted d.policy.openClose d.settings.settleDelay now

/-- The writer is where the log says. -/
def WriterFits (d : Document) (l : Log) (now : Nat) : Prop :=
  match d.writer with
  | .absent => l.unresolved = [] ∧ ¬ l.OpeningFailed
  | .waiting none => l.unresolved = [] ∧ ¬ l.OpeningFailed ∧ l.handed = [] ∧
      d.policy.openClose = false
  | .waiting (some n) => l.unresolved = [] ∧ ¬ l.OpeningFailed ∧ l.handed = [] ∧
      n.isOpening = true
  | .greeting n _ => l.unresolved = [n] ∧ ¬ l.OpeningFailed ∧ n.isOpening = true
  | .settling n due => l.unresolved = [] ∧ ¬ l.OpeningFailed ∧ n.isOpening = true ∧
      ∃ t, (t, Event.finished n none) ∈ l ∧ t + d.settings.settleDelay ≤ due
  | .idle => l.unresolved = [] ∧ ¬ l.OpeningFailed ∧
      l.Greeted d.policy.openClose d.settings.settleDelay now
  | .sending item _ => l.unresolved = [item.notification] ∧ ¬ l.OpeningFailed ∧
      l.Greeted d.policy.openClose d.settings.settleDelay now ∧
      item.notification.isOpening = false
  | .refused _ | .stopped _ => l.OpeningFailed ∨ l.handed = []

/-- Everything was handed over at its time so far. -/
structure Paced (d : Document) (l : Log) (now : Nat) : Prop where
  handed : ∀ before t n after, l = before ++ (t, .handed n) :: after → d.MayHand before t n
  queue : ∀ item ∈ d.queue, item.notification.isOpening = false
  writer : d.WriterFits l now

end Document

namespace Log

/-- An event that opens no matter and closes none. -/
def Quiet : Event → Prop
  | .handed _ | .finished .. => False
  | _ => True

theorem unresolved_append (l k : Log) :
    unresolved (l ++ k) = k.foldl (fun ns x => x.2.settle ns) l.unresolved := List.foldl_append

theorem handed_quiet {l : Log} {es : List Event} (h : ∀ e ∈ es, Quiet e) (now : Nat) :
    handed (l ++ es.map (now, ·)) = l.handed := by
  have hnone : es.filterMap Event.handed? = [] := by
    rw [List.filterMap_eq_nil_iff]
    intro e he
    have := h e he
    cases e <;> simp_all [Quiet, Event.handed?]
  rw [handed_append, handed_map, hnone, List.append_nil]

theorem OpeningFailed.append {l : Log} (h : l.OpeningFailed) (k : Log) :
    OpeningFailed (l ++ k) := by
  obtain ⟨t, n, e, hmem, hn⟩ := h
  exact ⟨t, n, e, List.mem_append_left k hmem, hn⟩

theorem unresolved_quiet {l : Log} {es : List Event} (h : ∀ e ∈ es, Quiet e) (now : Nat) :
    unresolved (l ++ es.map (now, ·)) = l.unresolved := by
  rw [unresolved_append]
  generalize l.unresolved = ns
  induction es generalizing ns with
  | nil => rfl
  | cons e es ih =>
    have hsame : e.settle ns = ns := by
      have := h e (by simp)
      cases e <;> simp_all [Quiet, Event.settle]
    rw [List.map_cons, List.foldl_cons, hsame]
    exact ih (fun e he => h e (by simp [he])) ns

theorem unresolved_handed (l : Log) (now : Nat) (n : Notification) :
    unresolved (l ++ [(now, .handed n)]) = l.unresolved ++ [n] := by
  simp [unresolved_append, Event.settle]

theorem unresolved_finished {l : Log} {n : Notification} (h : l.unresolved = [n]) (now : Nat)
    (fault : Option SessionError) : unresolved (l ++ [(now, .finished n fault)]) = [] := by
  simp [unresolved_append, Event.settle, h]

theorem openingFailed_append {l k : Log} (h : ¬ l.OpeningFailed)
    (hk : ∀ x ∈ k, ∀ n e, x.2 = .finished n (some e) → n.isOpening = false) :
    ¬ OpeningFailed (l ++ k) := by
  rintro ⟨t, n, e, hmem, hn⟩
  rcases List.mem_append.mp hmem with hmem | hmem
  · exact h ⟨t, n, e, hmem, hn⟩
  · have := hk _ hmem n e rfl
    rw [hn] at this
    cases this

theorem alive_quiet {l : Log} (h : ¬ l.OpeningFailed) {es : List Event} (hes : ∀ e ∈ es, Quiet e)
    {now : Nat} : ¬ OpeningFailed (l ++ es.map (now, ·)) := by
  apply openingFailed_append h
  intro x hx n e heq
  obtain ⟨f, hf, rfl⟩ := List.mem_map.mp hx
  have := hes f hf
  rw [show f = .finished n (some e) from heq] at this
  exact this.elim

theorem cut_append {α : Type} {l k before after : List α} {x : α}
    (h : l ++ k = before ++ x :: after) :
    (∃ rest, l = before ++ x :: rest) ∨ ∃ start, before = l ++ start ∧ k = start ++ x :: after := by
  rcases List.append_eq_append_iff.mp h with ⟨start, rfl, hk⟩ | ⟨rest, rfl, hk⟩
  · exact .inr ⟨start, rfl, hk⟩
  · cases rest with
    | nil => exact .inr ⟨[], by simp, by simpa using hk.symm⟩
    | cons y rest =>
      rw [List.cons_append, List.cons.injEq] at hk
      exact .inl ⟨rest, by rw [hk.1]⟩

end Log

namespace Document

theorem MayHand.same {d d' : Document} {l : Log} {now : Nat} {n : Notification}
    (h : d.MayHand l now n) (hp : d'.policy = d.policy) (hs : d'.settings = d.settings) :
    d'.MayHand l now n :=
  ⟨h.resolved, h.alive, by rw [hp, hs]; exact h.greeted⟩

theorem WriterFits.same {d d' : Document} {l : Log} {now : Nat} (h : d.WriterFits l now)
    (hw : d'.writer = d.writer) (hp : d'.policy = d.policy) (hs : d'.settings = d.settings) :
    d'.WriterFits l now := by
  unfold WriterFits at h ⊢
  rwa [hw, hp, hs]

theorem WriterFits.mono {d : Document} {l : Log} {now later : Nat} (h : d.WriterFits l now)
    (hle : now ≤ later) : d.WriterFits l later := by
  have hgreeted (hg : l.Greeted d.policy.openClose d.settings.settleDelay now) :
      l.Greeted d.policy.openClose d.settings.settleDelay later := by
    simpa using hg.mono hle []
  unfold WriterFits at h ⊢
  split at h
  case h_6 => exact ⟨h.1, h.2.1, hgreeted h.2.2⟩
  case h_7 => exact ⟨h.1, h.2.1, hgreeted h.2.2.1, h.2.2.2⟩
  all_goals exact h

theorem Paced.same {d d' : Document} {l : Log} {now : Nat} (h : Paced d l now)
    (hq : ∀ item ∈ d'.queue, item.notification.isOpening = false) (hw : d'.WriterFits l now)
    (hp : d'.policy = d.policy) (hs : d'.settings = d.settings) : Paced d' l now :=
  ⟨fun before t n after hl => (h.handed before t n after hl).same hp hs, hq, hw⟩

theorem Paced.begin {d : Document} {l : Log} {now : Nat} (h : Paced d l now)
    (hk : Keeps d (d.ledger l)) (hp : d.phase = .unopened) : Paced d.beginOpen l now := by
  obtain ⟨hw, hlog, -⟩ := hk.blank hp
  have hcall : Call true d d.beginOpen := .begin hp
  obtain ⟨hpolicy, hsettings⟩ := hcall.setup
  have hfits := h.writer
  rw [WriterFits, hw] at hfits
  refine h.same ?_ ?_ hpolicy hsettings
  · rw [d.beginOpen_same Document.queue fun _ _ _ _ => rfl]
    exact h.queue
  · rw [beginOpen_eq hp]
    split
    · exact ⟨hfits.1, hfits.2, hlog, rfl⟩
    · rename_i ho
      exact ⟨hfits.1, hfits.2, hlog, by simpa using ho⟩

theorem Paced.push {d d' : Document} {l : Log} {now : Nat} (h : Paced d l now) {item : Outgoing}
    (hn : item.notification.isOpening = false) (hq : d'.queue = d.queue ++ [item])
    (hw : d'.writer = d.writer) (hp : d'.policy = d.policy) (hs : d'.settings = d.settings) :
    Paced d' l now := by
  refine h.same ?_ (h.writer.same hw hp hs) hp hs
  intro i hi
  rw [hq] at hi
  rcases List.mem_append.mp hi with hi | hi
  · exact h.queue i hi
  · rw [List.mem_singleton.mp hi, hn]

theorem Paced.call {active : Bool} {d d' : Document} {l : Log} {now : Nat} (h : Paced d l now)
    (hk : Keeps d (d.ledger l)) (hc : Call active d d') : Paced d' l now := by
  cases hc with
  | begin hp => exact h.begin hk hp
  | write buffer initialText pending => exact h.same h.queue (h.writer.same rfl rfl rfl) rfl rfl
  | change ha hp => exact h.push rfl rfl rfl rfl rfl
  | save ha hs text => exact h.push rfl rfl rfl rfl rfl
  | vain ha hr hl hs text => exact h.push rfl rfl rfl rfl rfl
  | close ha ho hs => exact h.push rfl rfl rfl rfl rfl
  | abandon hc => exact h.same h.queue (h.writer.same rfl rfl rfl) rfl rfl

theorem Paced.quiet {d d' : Document} {l : Log} {es : List Event} {now : Nat} (h : Paced d l now)
    (hes : es.filterMap Event.handed? = []) (hsame : SameText d d') {before after : Log} {t : Nat}
    {n : Notification} (hl : l ++ es.map (now, ·) = before ++ (t, .handed n) :: after) :
    d'.MayHand before t n := by
  rcases Log.cut_append hl with ⟨rest, hl⟩ | ⟨start, -, hl⟩
  · exact (h.handed before t n rest hl).same hsame.policy hsame.settings
  · rw [← Log.handed_map now, hl] at hes
    simp [Log.handed, Event.handed?] at hes

theorem Paced.hand {d d' : Document} {l : Log} {now : Nat} (h : Paced d l now) {n : Notification}
    (hn : d.MayHand l now n) (hsame : SameText d d') {before after : Log} {t : Nat}
    {m : Notification} (hl : l ++ [(now, .handed n)] = before ++ (t, .handed m) :: after) :
    d'.MayHand before t m := by
  rcases Log.cut_append hl with ⟨rest, hl⟩ | ⟨start, rfl, hstart⟩
  · exact (h.handed before t m rest hl).same hsame.policy hsame.settings
  · cases start with
    | nil =>
      simp only [List.nil_append, List.cons.injEq, Prod.mk.injEq, Event.handed.injEq] at hstart
      obtain ⟨⟨rfl, rfl⟩, -⟩ := hstart
      rw [List.append_nil]
      exact hn.same hsame.policy hsame.settings
    | cons x start => simp at hstart

theorem WriterFits.quiet {d : Document} {l : Log} {now : Nat} {es : List Event}
    (h : d.WriterFits l now) (hes : ∀ e ∈ es, Log.Quiet e) :
    d.WriterFits (l ++ es.map (now, ·)) now := by
  have hsame : Log.unresolved (l ++ es.map (now, ·)) = l.unresolved := Log.unresolved_quiet hes now
  have hhanded : Log.handed (l ++ es.map (now, ·)) = l.handed := Log.handed_quiet hes now
  have halive (ha : ¬ l.OpeningFailed) : ¬ Log.OpeningFailed (l ++ es.map (now, ·)) :=
    Log.alive_quiet ha hes
  unfold WriterFits at h ⊢
  rw [hsame, hhanded]
  split at h
  case h_1 => exact ⟨h.1, halive h.2⟩
  case h_5 =>
    obtain ⟨t, ht, hdue⟩ := h.2.2.2
    exact ⟨h.1, halive h.2.1, h.2.2.1, t, List.mem_append_left _ ht, hdue⟩
  case h_6 => exact ⟨h.1, halive h.2.1, h.2.2.mono (Nat.le_refl _) _⟩
  case h_7 => exact ⟨h.1, halive h.2.1, h.2.2.1.mono (Nat.le_refl _) _, h.2.2.2⟩
  case h_8 => exact h.imp_left fun hf => hf.append _
  case h_9 => exact h.imp_left fun hf => hf.append _
  all_goals exact ⟨h.1, halive h.2.1, h.2.2⟩

theorem Asks.quiet {d : Document} {cause : PullCause} {v : PullVersion} {pulls : List Event}
    (h : Asks d cause v pulls) : ∀ e ∈ pulls, Log.Quiet e := by
  intro e he
  obtain ⟨request, rfl, -⟩ := h.mem e he
  trivial

theorem Attends.quiet {now : Nat} {supported : Bool} {d : Document} {sent : Option Version}
    {timer : Option PullTimer} {pulls : List Event} (h : Attends now supported d sent timer pulls) :
    ∀ e ∈ pulls, Log.Quiet e := by
  intro e he
  obtain ⟨v, request, -, rfl, -⟩ := h.mem e he
  trivial

theorem Attends.quiet_finish {now : Nat} {supported : Bool} {d : Document} {sent : Option Version}
    {timer : Option PullTimer} {pulls : List Event} (h : Attends now supported d sent timer pulls)
    (ticket : Nat) (delivered : Bool) :
    ∀ e ∈ pulls ++ [.acknowledged ticket delivered], Log.Quiet e := by
  intro e he
  rcases List.mem_append.mp he with he | he
  · exact h.quiet e he
  · rw [List.mem_singleton.mp he]
    trivial

theorem quiet_dismissals (d : Document) : ∀ e ∈ d.dismissals, Log.Quiet e := by
  simp [dismissals, Log.Quiet]

theorem quiet_handshake (fault : Option SessionError) :
    ∀ e ∈ [Event.handshake fault], Log.Quiet e := by simp [Log.Quiet]

theorem WriterFits.step {now : Nat} {supported : Bool} {d d' : Document} {es : List Event} {l : Log}
    (h : d.WriterFits l now) (hq : ∀ item ∈ d.queue, item.notification.isOpening = false)
    (hs : Step now supported d es d') : d'.WriterFits (l ++ es.map (now, ·)) now := by
  cases hs with
  | @refuse greeting e hw =>
    right
    rw [Log.handed_quiet (quiet_handshake (some e))]
    rw [WriterFits, hw] at h
    cases greeting with
    | none => exact h.2.2.1
    | some n => exact h.2.2.1
  | greet fault hw =>
    rw [WriterFits, hw] at h
    obtain ⟨hresolved, halive, -, hopening⟩ := h
    refine ⟨?_, Log.openingFailed_append halive (by simp), hopening⟩
    exact (Log.unresolved_handed l now _).trans (by rw [hresolved]; rfl)
  | fail hw =>
    rw [WriterFits, hw] at h
    exact .inl ⟨now, _, _, List.mem_append_right _ List.mem_cons_self, h.2.2⟩
  | stop hw =>
    have hstays := h.quiet d.quiet_dismissals
    rw [WriterFits, hw] at hstays
    exact hstays
  | settle hw =>
    rw [WriterFits, hw] at h
    obtain ⟨hresolved, halive, hopening⟩ := h
    refine ⟨Log.unresolved_finished hresolved now none, Log.openingFailed_append halive (by simp),
      hopening, now, List.mem_append_right _ (List.mem_singleton.mpr rfl), Nat.le_refl _⟩
  | join hw =>
    rw [WriterFits, hw] at h
    obtain ⟨hresolved, halive, -, hclosed⟩ := h
    refine ⟨(Log.unresolved_quiet (quiet_handshake none) now).trans hresolved,
      Log.openingFailed_append halive (by simp), ⟨now, List.mem_append_right _ (by simp)⟩, ?_⟩
    intro ho
    exact absurd ho (by simp [Document.establish, hclosed])
  | establish hw hdue timer unpulled hu hp =>
    rw [WriterFits, hw] at h
    obtain ⟨hresolved, halive, hopening, t, ht, htime⟩ := h
    -- The document is idle once the handshake is known; what it pulls then changes nothing.
    have hidle : WriterFits { d.establish with timer, unpulled } (l ++ [(now, .handshake none)])
        now := by
      refine ⟨(Log.unresolved_quiet (quiet_handshake none) now).trans hresolved,
        Log.openingFailed_append halive (by simp), ⟨now, List.mem_append_right _ (by simp)⟩, ?_⟩
      intro _
      exact ⟨t, _, List.mem_append_left _ ht, hopening, Nat.le_trans htime hdue⟩
    simpa using hidle.quiet hp.quiet
  | hand fault hw hqueue =>
    rw [WriterFits, hw] at h
    obtain ⟨hresolved, halive, hgreeted⟩ := h
    refine ⟨?_, Log.openingFailed_append halive (by simp), hgreeted.mono (Nat.le_refl _) _,
      hq _ (by simp [hqueue])⟩
    exact (Log.unresolved_handed l now _).trans (by rw [hresolved]; rfl)
  | @finish item fault timer pulls hw hp =>
    rw [WriterFits, hw] at h
    obtain ⟨hresolved, halive, hgreeted, hupdate⟩ := h
    -- The pulls and the acknowledgement come after what finished, and change nothing.
    have hfinished : WriterFits { d with writer := .idle, timer }
        (l ++ [(now, .finished item.notification fault)]) now := by
      refine ⟨Log.unresolved_finished hresolved now fault, Log.openingFailed_append halive ?_,
        hgreeted.mono (Nat.le_refl _) _⟩
      simp only [List.mem_singleton, forall_eq, Event.finished.injEq]
      rintro n e ⟨rfl, -⟩
      exact hupdate
    simpa using hfinished.quiet (hp.quiet_finish item.ticket fault.isNone)
  | fire hp hdue hasks => exact (h.quiet hasks.quiet).same rfl rfl rfl
  | serve hwaiting hk hasks => exact (h.quiet hasks.quiet).same rfl rfl rfl
  | refresh hp hs hv hasks => exact h.quiet hasks.quiet
  | enlist hp hr hs hv =>
    rw [List.map_nil, List.append_nil]
    exact h.same rfl rfl rfl

theorem Paced.step {now : Nat} {supported : Bool} {d d' : Document} {es : List Event} {l : Log}
    (h : Paced d l now) (hs : Step now supported d es d') :
    Paced d' (l ++ es.map (now, ·)) now := by
  refine ⟨fun before t n after hl => ?_, ?_, h.writer.step h.queue hs⟩
  · have hsame := hs.sameText
    have hfits := h.writer
    cases hs with
    | greet fault hw =>
      rw [WriterFits, hw] at hfits
      obtain ⟨hresolved, halive, -, hopening⟩ := hfits
      exact h.hand ⟨hresolved, halive, fun hn => by simp [hopening] at hn⟩ hsame hl
    | hand fault hw hqueue =>
      rw [WriterFits, hw] at hfits
      obtain ⟨hresolved, halive, hgreeted⟩ := hfits
      exact h.hand ⟨hresolved, halive, fun _ => hgreeted⟩ hsame hl
    | establish hw hdue timer unpulled hu hp =>
      refine h.quiet ?_ hsame hl
      rw [List.filterMap_cons, hp.handed]
      rfl
    | finish timer pulls hw hp =>
      refine h.quiet ?_ hsame hl
      rw [List.cons_append, List.filterMap_cons, List.filterMap_append, hp.handed]
      rfl
    | fire hp hdue hasks => exact h.quiet hasks.handed hsame hl
    | serve hwaiting hk hasks => exact h.quiet hasks.handed hsame hl
    | refresh hp hs hv hasks => exact h.quiet hasks.handed hsame hl
    | stop hw => exact h.quiet d.handed?_dismissals hsame hl
    | _ => exact h.quiet (by simp [Event.handed?, List.filterMap_cons]) hsame hl
  · cases hs with
    | stop hw => simp [Document.stop]
    | hand fault hw hqueue =>
      intro item hitem
      exact h.queue item (hqueue ▸ List.mem_cons_of_mem _ hitem)
    | _ => exact h.queue

theorem paced_invariant :
    Invariant fun d l now => Keeps d (d.ledger l) ∧ Paced d l now where
  new h := by
    refine ⟨keeps_new h, ?_⟩
    rw [h]
    exact ⟨by simp, by simp, rfl, by simp [Log.OpeningFailed]⟩
  call hc h := ⟨h.1.call hc, h.2.call h.1 hc⟩
  step hs h := ⟨h.1.step hs, h.2.step hs⟩
  wait hle _ h := ⟨h.1, h.2.handed, h.2.queue, h.2.writer.mono hle⟩

end Document

end DocSync
