import DocSync.Proofs.Document.Recovery

/-!
# The timer of a document

The writer reports every version that it brought to the server: that of an opening once the
handshake is over, that of a change as soon as it came through. A document that wants diagnostics
by then sets its timer, or pulls at once if it is headless. All reported versions come in their
order, so a timer that is replaced is one for a version that is outdated: of the timers that were
ever set, those that are still to go off and still have something to pull are the one in the slot.
-/
namespace DocSync

/-- The version of a pull that follows a text. -/
def Event.sentPull? : Event → Option Version
  | .pulled .sent (.exact v) _ => some v
  | _ => none

namespace Log

/-- The version that the opening brought to the server, if there was one and it came through. -/
def opening? (l : Log) : Option Version :=
  l.outcomes.findSome? fun o => if o.1.isOpening then o.1.sentVersion? o.2 else none

/-- The version that a writer with a log reports with an event. -/
def report? (l : Log) : Event → Option Version
  | .finished n fault => if n.isOpening then none else n.sentVersion? fault
  | .handshake none => l.opening?
  | _ => none

/-- What a writer with a log reported after it, and when. -/
def reportsAfter (l : Log) : Log → List (Nat × Version)
  | [] => []
  | x :: k => ((l.report? x.2).map (x.1, ·)).toList ++ reportsAfter (l ++ [x]) k

/-- All versions that the writer reported, and when. -/
def reports (l : Log) : List (Nat × Version) := reportsAfter [] l

/-- The pulls that followed a text, and when they went out. -/
def sentPulls (l : Log) : List (Nat × Version) := l.filterMap fun x => x.2.sentPull?.map (x.1, ·)

theorem reportsAfter_append (l k j : Log) :
    l.reportsAfter (k ++ j) = l.reportsAfter k ++ reportsAfter (l ++ k) j := by
  induction k generalizing l with
  | nil => simp [reportsAfter]
  | cons x k ih =>
    rw [List.cons_append, reportsAfter, reportsAfter, ih, List.append_assoc, List.append_assoc]
    rfl

theorem reports_append (l k : Log) : reports (l ++ k) = l.reports ++ l.reportsAfter k :=
  reportsAfter_append [] l k

theorem reportsAfter_cons (l : Log) (now : Nat) (e : Event) (es : List Event)
    (hes : ∀ f ∈ es, ∀ k, report? k f = none) :
    l.reportsAfter ((e :: es).map (now, ·)) = ((l.report? e).map (now, ·)).toList := by
  have hnone (k : Log) : k.reportsAfter (es.map (now, ·)) = [] := by
    induction es generalizing k with
    | nil => rfl
    | cons f es ih =>
      rw [List.map_cons, reportsAfter, hes f List.mem_cons_self, ih fun g hg =>
        hes g (List.mem_cons_of_mem f hg)]
      rfl
  rw [List.map_cons, reportsAfter, hnone, List.append_nil]

theorem reportsAfter_eq_nil (l : Log) (now : Nat) {es : List Event}
    (hes : ∀ f ∈ es, ∀ k, report? k f = none) : l.reportsAfter (es.map (now, ·)) = [] := by
  cases es with
  | nil => rfl
  | cons e es =>
    rw [reportsAfter_cons l now e es fun f hf => hes f (List.mem_cons_of_mem e hf),
      hes e List.mem_cons_self]
    rfl

@[simp] theorem sentPulls_append (l k : Log) : sentPulls (l ++ k) = l.sentPulls ++ k.sentPulls :=
  List.filterMap_append

theorem sentPulls_map (now : Nat) (es : List Event) :
    sentPulls (es.map (now, ·)) = (es.filterMap Event.sentPull?).map (now, ·) := by
  rw [sentPulls, List.filterMap_map, List.map_filterMap]
  rfl

theorem pulled_of_mem_sentPulls {l : Log} {t : Nat} {v : Version} (h : (t, v) ∈ l.sentPulls) :
    ∃ request, (t, .pulled .sent (.exact v) request) ∈ l := by
  obtain ⟨⟨s, e⟩, hmem, he⟩ := List.mem_filterMap.mp h
  obtain ⟨w, hw, heq⟩ := Option.map_eq_some_iff.mp he
  cases heq
  obtain ⟨request, rfl⟩ : ∃ request, e = .pulled .sent (.exact v) request := by
    cases e with
    | pulled cause u request =>
      cases cause <;> cases u <;> cases hw
      exact ⟨request, rfl⟩
    | _ => cases hw
  exact ⟨request, hmem⟩

end Log

namespace Document

/-- The opening that was not reported yet. -/
def Writer.settling? : Writer → Option Version
  | .settling n _ => n.version?
  | _ => none

/-- The time from a report to the pull. -/
def delay (d : Document) : Nat := if d.settings.headless then 0 else d.settings.debounce

/-- The timers that a document sets for reports. One that is headless goes off at once. -/
def starts (d : Document) (supported : Bool) (reports : List (Nat × Version)) : List PullTimer :=
  if d.minds supported then reports.map fun r => ⟨r.1 + d.delay, r.2⟩ else []

variable {d d' : Document} {l : Log} {now : Nat} {supported : Bool}

/-! ## What is reported -/

/-- What a document has to do with texts that were sent: it attends to one, or the timer for one
goes off. -/
inductive Heeds (now : Nat) (supported : Bool) (d : Document) :
    Option Version → Option PullTimer → List Event → Prop
  | attend {sent : Option Version} {timer : Option PullTimer} {pulls : List Event}
      (h : Attends now supported d sent timer pulls) : Heeds now supported d sent timer pulls
  | fire {p : PullTimer} {pulls : List Event} (h : d.timer = some p) (hdue : p.due ≤ now)
      (hp : Asks d .sent (.exact p.version) pulls) : Heeds now supported d none none pulls

/-- What was reported, and the opening that settles, came through in this order. -/
structure Reports (d : Document) (l : Log) : Prop where
  settling : ∀ n due, d.writer = .settling n due → l.outcomes = [(n, none)]
  reported : (l.reports.map Prod.snd ++ (Writer.settling? d.writer).toList).Sublist
    (versionsOf (l.outcomes.map Prod.fst))

theorem report?_pulled {cause : PullCause} {v : PullVersion} {pulls : List Event}
    (h : Asks d cause v pulls) : ∀ e ∈ pulls, ∀ k, Log.report? k e = none := by
  intro e he k
  obtain ⟨request, rfl, -⟩ := h.mem e he
  rfl

theorem report?_attended {sent : Option Version} {timer : Option PullTimer} {pulls : List Event}
    (h : Attends now supported d sent timer pulls) : ∀ e ∈ pulls, ∀ k, Log.report? k e = none := by
  intro e he k
  obtain ⟨v, request, -, rfl, -⟩ := h.mem e he
  rfl

theorem report?_dismissals (d : Document) : ∀ e ∈ d.dismissals, ∀ k, Log.report? k e = none := by
  simp [dismissals, Log.report?]

theorem Asks.refreshed {v : PullVersion} {pulls : List Event} (h : Asks d .refreshed v pulls) :
    pulls.filterMap Event.sentPull? = [] := by
  cases h <;> rfl

theorem Settles.nothing (h : Settles d l) (hl : l.handed = []) : l.outcomes = [] := by
  have horder := h.order
  rw [hl] at horder
  exact List.map_eq_nil_iff.mp (List.append_eq_nil_iff.mp horder.symm).1

/-- A step reports one version at most, heeds it, and pulls for no other text. -/
theorem Step.heeds {es : List Event} (hp : Paced d l now) (hsettles : Settles d l)
    (hreports : Reports d l) (hs : Step now supported d es d') :
    ∃ sent pulls, Heeds now supported d sent d'.timer pulls ∧
      l.reportsAfter (es.map (now, ·)) = (sent.map (now, ·)).toList ∧
      es.filterMap Event.sentPull? = pulls.filterMap Event.sentPull? ∧
      (sent.toList ++ (Writer.settling? d'.writer).toList).Sublist
        ((Writer.settling? d.writer).toList ++
          versionsOf ((es.filterMap Event.outcome?).map Prod.fst)) := by
  have hfits := hp.writer
  have hnothing : Heeds now supported d none d.timer [] := .attend .unsent
  cases hs with
  | refuse e hw => exact ⟨none, [], hnothing, rfl, rfl, List.nil_sublist _⟩
  | stop hw =>
    refine ⟨none, [], hnothing, Log.reportsAfter_eq_nil _ _ d.report?_dismissals,
      by simp [dismissals, Event.sentPull?], List.nil_sublist _⟩
  | greet fault hw => exact ⟨none, [], hnothing, rfl, rfl, List.nil_sublist _⟩
  | @fail n e hw =>
    rw [WriterFits, hw] at hfits
    refine ⟨none, [], hnothing, ?_, rfl, List.nil_sublist _⟩
    simp [Log.reportsAfter, Log.report?, hfits.2.2]
  | @settle n hw =>
    rw [WriterFits, hw] at hfits
    refine ⟨none, [], hnothing, ?_, rfl, ?_⟩
    · simp [Log.reportsAfter, Log.report?, hfits.2.2]
    · cases hv : n.version? <;> simp [Writer.settling?, hw, hv, Event.outcome?, versionsOf]
  | join hw =>
    rw [WriterFits, hw] at hfits
    refine ⟨none, [], hnothing, ?_, rfl, List.nil_sublist _⟩
    simp [Log.reportsAfter, Log.report?, Log.opening?, hsettles.nothing hfits.2.2.1]
  | @establish n due hw hdue timer unpulled pulls hu hattends =>
    rw [WriterFits, hw] at hfits
    have hopening : l.opening? = n.version? := by
      simp [Log.opening?, hreports.settling n due hw, hfits.2.2.1, Notification.sentVersion?]
    refine ⟨n.version?, pulls, .attend hattends, ?_, rfl, ?_⟩
    · rw [Log.reportsAfter_cons _ _ _ _ (report?_attended hattends), Log.report?, hopening]
    · simp [Writer.settling?, hw, Document.establish]
  | hand fault hw hqueue => exact ⟨none, [], hnothing, rfl, rfl, List.nil_sublist _⟩
  | @finish item fault timer pulls hw hattends =>
    rw [WriterFits, hw] at hfits
    refine ⟨item.notification.sentVersion? fault, pulls, .attend hattends, ?_, ?_, ?_⟩
    · rw [List.cons_append, Log.reportsAfter_cons]
      · simp [Log.report?, hfits.2.2.2]
      · intro e he k
        rcases List.mem_append.mp he with he | he
        · exact report?_attended hattends e he k
        · rw [List.mem_singleton.mp he]
          rfl
    · simp [Event.sentPull?, List.filterMap_cons]
    · have hnone : pulls.filterMap Event.outcome? = [] := hattends.filterMap_eq_nil fun _ _ _ => rfl
      rw [List.cons_append, List.filterMap_cons, List.filterMap_append, hnone]
      cases fault with
      | none =>
        cases hv : item.notification.version? <;>
          simp [Writer.settling?, hw, hv, Event.outcome?, versionsOf, Notification.sentVersion?]
      | some e => exact List.nil_sublist _
  | fire ht hdue hasks =>
    refine ⟨none, _, .fire ht hdue hasks, Log.reportsAfter_eq_nil _ _ (report?_pulled hasks), rfl,
      List.sublist_append_left _ _⟩
  | serve hw hk hasks =>
    refine ⟨none, [], hnothing, Log.reportsAfter_eq_nil _ _ (report?_pulled hasks), hasks.refreshed,
      List.sublist_append_left _ _⟩
  | refresh hopen hs hv hasks =>
    refine ⟨none, [], hnothing, Log.reportsAfter_eq_nil _ _ (report?_pulled hasks), hasks.refreshed,
      List.sublist_append_left _ _⟩
  | enlist => exact ⟨none, [], hnothing, rfl, rfl, List.sublist_append_left _ _⟩

theorem Reports.call {active : Bool} (h : Reports d l) (hc : Call active d d') : Reports d' l := by
  have hkeep (hw : d'.writer = d.writer) : Reports d' l := by
    refine ⟨?_, ?_⟩
    · rw [hw]
      exact h.settling
    · rw [hw]
      exact h.reported
  cases hc with
  | begin hp =>
    obtain ⟨greeting, hw⟩ := beginOpen_waiting hp
    have hnone : Writer.settling? d.beginOpen.writer = none := by rw [hw]; rfl
    refine ⟨by simp [hw], ?_⟩
    rw [hnone, Option.toList_none, List.append_nil]
    exact (List.sublist_append_left _ _).trans h.reported
  | _ => exact hkeep rfl

theorem Reports.step {es : List Event} (h : Reports d l) (hsettles : Settles d l)
    (hp : Paced d l now) (hs : Step now supported d es d') :
    Reports d' (l ++ es.map (now, ·)) := by
  obtain ⟨sent, pulls, -, hsent, -, hsublist⟩ := hs.heeds hp hsettles h
  have houtcomes : Log.outcomes (l ++ es.map (now, ·)) =
      l.outcomes ++ es.filterMap Event.outcome? := by
    rw [Log.outcomes_append, Log.outcomes_map]
  refine ⟨fun n due hw => ?_, ?_⟩
  · have hkeep (hsame : d'.writer = d.writer) (hnone : es.filterMap Event.outcome? = []) :
        l.outcomes ++ es.filterMap Event.outcome? = [(n, none)] := by
      rw [hnone, List.append_nil]
      exact h.settling n due (hsame ▸ hw)
    rw [houtcomes]
    cases hs with
    | settle hg =>
      obtain ⟨rfl, -⟩ := Writer.settling.inj hw
      rw [hsettles.greeting _ _ hg]
      rfl
    | fire ht hdue hasks => exact hkeep rfl (hasks.filterMap_eq_nil fun _ _ _ => rfl)
    | serve hq hk hasks => exact hkeep rfl (hasks.filterMap_eq_nil fun _ _ _ => rfl)
    | refresh ho hs hv hasks => exact hkeep rfl (hasks.filterMap_eq_nil fun _ _ _ => rfl)
    | enlist => exact hkeep rfl rfl
    | _ => cases hw
  · have hversions : (Log.reports (l ++ es.map (now, ·))).map Prod.snd =
        l.reports.map Prod.snd ++ sent.toList := by
      rw [Log.reports_append, hsent, List.map_append]
      cases sent <;> rfl
    rw [hversions, houtcomes, List.map_append, versionsOf_append, List.append_assoc]
    refine (hsublist.append_left _).trans ?_
    rw [← List.append_assoc]
    exact h.reported.append_right _

/-! ## What is pulled -/

theorem Attends.headless {sent : Option Version} {timer : Option PullTimer} {pulls : List Event}
    (h : Attends now supported d sent timer pulls) (hh : d.settings.headless = true) :
    timer = d.timer := by
  cases h with
  | delay v hm hnot => simp [hh] at hnot
  | _ => rfl

theorem Step.headless {es : List Event} (hs : Step now supported d es d')
    (h : d.settings.headless = true → d.timer = none) (hh : d'.settings.headless = true) :
    d'.timer = none := by
  rw [hs.sameText.settings] at hh
  cases hs with
  | establish hw hdue timer unpulled hu hattends => exact (hattends.headless hh).trans (h hh)
  | finish timer pulls hw hattends => exact (hattends.headless hh).trans (h hh)
  | fire => rfl
  | _ => exact h hh

theorem Call.timer {active : Bool} (hc : Call active d d') :
    d'.timer = d.timer ∨ d'.timer = none ∧ d'.phase = .closed := by
  cases hc with
  | begin hp => exact .inl (d.beginOpen_same Document.timer fun _ _ _ _ => rfl)
  | close => exact .inr ⟨rfl, rfl⟩
  | abandon => exact .inr ⟨rfl, rfl⟩
  | _ => exact .inl rfl

/-- All that the timer relies on. -/
structure Books (d : Document) (l : Log) (spoken : List Notification) (now : Nat) : Prop where
  keeps : Keeps d (d.ledger l)
  paced : Paced d l now
  pulls : Pulls d l
  speaks : Speaks d l spoken
  settles : Settles d l
  reports : Reports d l
  headless : d.settings.headless = true → d.timer = none

theorem books_account : Account Books where
  new h := by
    refine ⟨keeps_new h, (paced_invariant.new h).2, pulls_new h, speaks_new h, ?_, ?_, ?_⟩
    · exact ⟨rfl, fun _ _ _ => rfl, fun _ => rfl⟩
    · rw [h]
      exact ⟨by simp, List.nil_sublist _⟩
    · rw [h]
      exact fun _ => rfl
  call hc h := by
    obtain ⟨added, hadded, hspeaks⟩ := h.speaks.call h.keeps hc
    refine ⟨added, hadded, h.keeps.call hc, h.paced.call h.keeps hc, h.pulls.call h.keeps hc,
      hspeaks, h.settles.call hc, h.reports.call hc, fun hh => ?_⟩
    rcases hc.timer with hsame | ⟨hnone, -⟩
    · exact hsame.trans (h.headless (hc.setup.2 ▸ hh))
    · exact hnone
  step hs h :=
    ⟨h.keeps.step hs, (paced_invariant.step hs ⟨h.keeps, h.paced⟩).2,
      h.pulls.step h.keeps h.paced.writer hs, h.speaks.step hs, h.settles.step h.paced hs,
      h.reports.step h.settles h.paced hs, hs.headless h.headless⟩
  wait hle hu h :=
    ⟨h.keeps, (paced_invariant.wait hle hu ⟨h.keeps, h.paced⟩).2, h.pulls, h.speaks, h.settles,
      h.reports, h.headless⟩

variable {spoken : List Notification}

theorem Books.handed (h : Books d l spoken now) :
    (l.reports.map Prod.snd).Sublist (versionsOf l.handed) := by
  have houtcomes : (versionsOf (l.outcomes.map Prod.fst)).Sublist (versionsOf l.handed) := by
    rw [h.settles.order, versionsOf_append]
    exact List.sublist_append_left _ _
  exact ((List.sublist_append_left _ _).trans h.reports.reported).trans houtcomes

theorem Books.stamped (h : Books d l spoken now) {r : Nat × Version} (hr : r ∈ l.reports) :
    r.2.value ≤ d.version.value := by
  apply h.pulls.stamped
  rw [Document.ledger, versionsOf_append]
  exact List.mem_append_left _ (h.handed.subset (List.mem_map_of_mem hr))

/-- Every report is for a later version. -/
theorem Books.increasing (h : Books d l spoken now) :
    l.reports.Pairwise fun r r' => r.2.value < r'.2.value := by
  have hledger : (versionsOf l.handed).Sublist (versionsOf spoken) :=
    (((List.prefix_append _ _).trans h.speaks.ledger).filterMap _).sublist
  have hall : (versionsOf spoken).Pairwise fun v w => v.value < w.value := by
    rw [h.speaks.versions]
    exact Version.upTo_increasing _
  have hreports := hall.sublist (h.handed.trans hledger)
  exact .of_map Prod.snd (fun _ _ hlt => hlt) hreports

theorem Books.once (h : Books d l spoken now) {s t : Nat} {v : Version} (hs : (s, v) ∈ l.reports)
    (ht : (t, v) ∈ l.reports) : s = t := by
  have hnodup : (l.reports.map Prod.snd).Nodup := by
    rw [List.Nodup, List.pairwise_map]
    refine h.increasing.imp fun {r r'} hlt heq => ?_
    exact Int.lt_irrefl _ (heq ▸ hlt)
  exact congrArg Prod.fst (List.inj_on_of_nodup_map hnodup hs ht rfl)

/-- The timers that a document set for what was reported, and the pulls that came of them. -/
structure Debounces (d : Document) (now : Nat) (reports : List (Nat × Version))
    (timers : List PullTimer) (pulls : List (Nat × Version)) : Prop where
  reported : (timers.map fun p => (p.due, p.version)).Sublist
    (reports.map fun r => (r.1 + d.delay, r.2))
  running : ∀ p, d.timer = some p → p ∈ timers ∧ now ≤ p.due ∧ ∀ t, (t, p.version) ∉ pulls
  /-- A timer that left the slot went off in time, or had nothing to pull any more. -/
  kept : ∀ p ∈ timers,
    d.timer = some p ∨ d.Outdated (.exact p.version) ∨ (p.due, p.version) ∈ pulls
  pulled : ∀ t v, (t, v) ∈ pulls → ⟨t, v⟩ ∈ timers ∧ t ≤ now
  order : pulls.Pairwise fun x y => x.2.value < y.2.value
  /-- By the time of a pull no later version was reported. -/
  last : ∀ x ∈ pulls, ∀ r ∈ reports, x.2.value < r.2.value → x.1 ≤ r.1

section Timers

variable {reports : List (Nat × Version)} {timers : List PullTimer} {pulls : List (Nat × Version)}
  {v : Version}

theorem debounces_new (h : d.IsNew) : Debounces d now [] [] [] := by
  rw [h]
  exact ⟨List.Sublist.refl _, by simp, by simp, by simp, .nil, by simp⟩

theorem Debounces.report (h : Debounces d now reports timers pulls) {p : PullTimer}
    (hp : p ∈ timers) : ∃ s, (s, p.version) ∈ reports ∧ p.due = s + d.delay := by
  obtain ⟨⟨s, w⟩, hr, heq⟩ :=
    List.mem_map.mp (h.reported.subset (List.mem_map_of_mem hp))
  obtain ⟨hdue, rfl⟩ := Prod.mk.inj heq
  exact ⟨s, hr, hdue.symm⟩

theorem Debounces.same (h : Debounces d now reports timers pulls) (hdelay : d'.delay = d.delay)
    (houtdated : ∀ v, d.Outdated v → d'.Outdated v)
    (htimer : ∀ p, d'.timer = some p → d.timer = some p)
    (hkept : ∀ p, d.timer = some p → d'.timer = some p ∨ d'.Outdated (.exact p.version)) :
    Debounces d' now reports timers pulls := by
  refine ⟨hdelay ▸ h.reported, fun p hp => h.running p (htimer p hp), fun p hp => ?_, h.pulled,
    h.order, h.last⟩
  rcases h.kept p hp with hslot | hold | hpulled
  · exact (hkept p hslot).imp_right .inl
  · exact .inr (.inl (houtdated _ hold))
  · exact .inr (.inr hpulled)

theorem Debounces.wait {later : Nat} (h : Debounces d now reports timers pulls) (hle : now ≤ later)
    (hu : d.Until later) : Debounces d later reports timers pulls := by
  refine ⟨h.reported, fun p hp => ?_, h.kept, fun t v hmem => ?_, h.order, h.last⟩
  · obtain ⟨hset, -, hnot⟩ := h.running p hp
    exact ⟨hset, hu.timer p hp, hnot⟩
  · obtain ⟨hset, hpast⟩ := h.pulled t v hmem
    exact ⟨hset, Nat.le_trans hpast hle⟩

/-- A report that is ignored. -/
theorem Debounces.ignore (h : Debounces d now reports timers pulls) (v : Version) :
    Debounces d now (reports ++ [(now, v)]) timers pulls := by
  refine ⟨?_, h.running, h.kept, h.pulled, h.order, fun x hx r hr hlt => ?_⟩
  · rw [List.map_append]
    exact h.reported.trans (List.sublist_append_left _ _)
  · rcases List.mem_append.mp hr with hr | hr
    · exact h.last x hx r hr hlt
    · rw [List.mem_singleton.mp hr]
      exact (h.pulled x.1 x.2 hx).2

/-- A report that a timer is set for. What was in the slot before is outdated. -/
theorem Debounces.start (h : Debounces d now reports timers pulls)
    (hfresh : ∀ r ∈ reports, r.2.value < v.value) (hv : v.value ≤ d.version.value) :
    Debounces { d with timer := some ⟨now + d.delay, v⟩ } now (reports ++ [(now, v)])
      (timers ++ [⟨now + d.delay, v⟩]) pulls := by
  refine ⟨?_, fun p hp => ?_, fun p hp => ?_, fun t w hmem => ?_, h.order, (h.ignore v).last⟩
  · rw [List.map_append, List.map_append]
    exact h.reported.append (List.Sublist.refl _)
  · obtain rfl := Option.some.inj hp
    refine ⟨List.mem_append_right _ (List.mem_singleton_self _), Nat.le_add_right _ _, ?_⟩
    intro t hmem
    obtain ⟨s, hr, -⟩ := h.report (h.pulled t v hmem).1
    exact Int.lt_irrefl _ (hfresh _ hr)
  · rcases List.mem_append.mp hp with hp | hp
    · obtain ⟨s, hr, -⟩ := h.report hp
      exact .inr (.inl (.inr ⟨p.version, rfl, Int.lt_of_lt_of_le (hfresh _ hr) hv⟩))
    · rw [List.mem_singleton.mp hp]
      exact .inl rfl
  · obtain ⟨hset, hpast⟩ := h.pulled t w hmem
    exact ⟨List.mem_append_left _ hset, hpast⟩

theorem outdated_of_not_awaits (h : d.awaits (.exact v) = false)
    (hv : v.value ≤ d.version.value) : d.Outdated (.exact v) := by
  by_contra hnot
  have hle (u : Version) (hu : PullVersion.exact v = .exact u) : u.value ≤ d.version.value :=
    PullVersion.exact.inj hu ▸ hv
  rw [awaits_of_not_outdated hnot hle] at h
  cases h

/-- The timer goes off, and its version is awaited. -/
theorem Debounces.pull (h : Debounces d now reports timers pulls) {p : PullTimer}
    (hp : d.timer = some p) (hdue : p.due ≤ now) (hawaits : d.awaits (.exact p.version) = true)
    (hstamped : ∀ r ∈ reports, r.2.value ≤ d.version.value) :
    Debounces { d with timer := none } now reports timers (pulls ++ [(now, p.version)]) := by
  obtain ⟨hset, hnow, hnot⟩ := h.running p hp
  have hversion : p.version = d.version := awaits_exact hawaits
  have hdue : p.due = now := Nat.le_antisymm hdue hnow
  refine ⟨h.reported, by simp, fun q hq => ?_, fun t v hmem => ?_, ?_, ?_⟩
  · rcases h.kept q hq with hslot | hout | hpulled
    · obtain rfl := Option.some.inj (hp.symm.trans hslot)
      exact .inr (.inr (by simp [hdue]))
    · exact .inr (.inl hout)
    · exact .inr (.inr (List.mem_append_left _ hpulled))
  · rcases List.mem_append.mp hmem with hmem | hmem
    · exact h.pulled t v hmem
    · obtain ⟨rfl, rfl⟩ := Prod.mk.inj (List.mem_singleton.mp hmem)
      exact ⟨hdue ▸ hset, Nat.le_refl _⟩
  · refine List.pairwise_append.mpr ⟨h.order, List.pairwise_singleton _ _, ?_⟩
    intro x hx y hy
    rw [List.mem_singleton.mp hy]
    obtain ⟨s, hr, -⟩ := h.report (h.pulled x.1 x.2 hx).1
    have hle : x.2.value ≤ p.version.value := hversion ▸ hstamped (s, x.2) hr
    have hne : x.2.value ≠ p.version.value := by
      intro heq
      have hsame : x.2 = p.version := congrArg Version.mk heq
      exact hnot x.1 (hsame ▸ hx)
    exact Int.lt_iff_le_and_ne.mpr ⟨hle, hne⟩
  · intro x hx r hr hlt
    rcases List.mem_append.mp hx with hx | hx
    · exact h.last x hx r hr hlt
    · rw [List.mem_singleton.mp hx, hversion] at hlt
      exact absurd (hstamped r hr) (Int.not_le.mpr hlt)

theorem Debounces.fire {es : List Event} (h : Debounces d now reports timers pulls) {p : PullTimer}
    (hp : d.timer = some p) (hdue : p.due ≤ now) (hasks : Asks d .sent (.exact p.version) es)
    (hstamped : ∀ r ∈ reports, r.2.value ≤ d.version.value) :
    Debounces { d with timer := none } now reports timers
      (pulls ++ (es.filterMap Event.sentPull?).map (now, ·)) := by
  cases hasks with
  | ask request hawaits => exact h.pull hp hdue hawaits hstamped
  | skip hawaits =>
    obtain ⟨s, hr, -⟩ := h.report (h.running p hp).1
    have houtdated := outdated_of_not_awaits hawaits (hstamped (s, p.version) hr)
    rw [List.filterMap_nil, List.map_nil, List.append_nil]
    refine h.same rfl (fun _ hout => hout) (by simp) fun q hq => ?_
    obtain rfl := Option.some.inj (hp.symm.trans hq)
    exact .inr houtdated

theorem Debounces.heed {sent : Option Version} {timer : Option PullTimer} {es : List Event}
    (h : Debounces d now reports timers pulls) (hheeds : Heeds now supported d sent timer es)
    (hheadless : d.settings.headless = true → d.timer = none)
    (hfresh : ∀ v, sent = some v → ∀ r ∈ reports, r.2.value < v.value)
    (hstamped : ∀ r ∈ reports ++ (sent.map (now, ·)).toList, r.2.value ≤ d.version.value) :
    Debounces { d with timer } now (reports ++ (sent.map (now, ·)).toList)
      (timers ++ d.starts supported (sent.map (now, ·)).toList)
      (pulls ++ (es.filterMap Event.sentPull?).map (now, ·)) := by
  cases hheeds with
  | fire hp hdue hasks =>
    have hnone : d.starts supported [] = [] := by simp [starts]
    simp only [Option.map_none, Option.toList_none, hnone, List.append_nil] at hstamped ⊢
    exact h.fire hp hdue hasks hstamped
  | attend hattends =>
    cases hattends with
    | unsent => simpa [starts] using h
    | ignore v hm => simpa [starts, hm] using h.ignore v
    | @pull v pulled hm hh hasks =>
      have hv : v.value ≤ d.version.value := hstamped (now, v) (by simp)
      have hdelay : now + d.delay = now := by simp [delay, hh]
      have hstart := h.start (hfresh v rfl) hv
      have hfire := hstart.fire rfl (Nat.le_of_eq hdelay) (hasks.congr rfl) hstamped
      have htimer : d.timer = none := hheadless hh
      simpa [starts, hm, htimer] using hfire
    | delay v hm hh =>
      have hv : v.value ≤ d.version.value := hstamped (now, v) (by simp)
      have hstart := h.start (hfresh v rfl) hv
      simpa [starts, hm, delay, hh] using hstart

end Timers

theorem mem_starts {reports : List (Nat × Version)} {p : PullTimer} :
    p ∈ d.starts supported reports ↔
      d.minds supported = true ∧ ∃ s, (s, p.version) ∈ reports ∧ p.due = s + d.delay := by
  cases h : d.minds supported with
  | false => simp [starts, h]
  | true =>
    rw [starts, h, if_pos rfl, List.mem_map]
    constructor
    · rintro ⟨⟨s, v⟩, hr, rfl⟩
      exact ⟨rfl, s, hr, rfl⟩
    · rintro ⟨-, s, hr, hdue⟩
      exact ⟨_, hr, by rw [← hdue]⟩

theorem starts_append (r r' : List (Nat × Version)) :
    d.starts supported (r ++ r') = d.starts supported r ++ d.starts supported r' := by
  cases h : d.minds supported <;> simp [starts, h]

theorem SameText.delay (h : SameText d d') : d'.delay = d.delay := by
  rw [Document.delay, Document.delay, h.settings]

theorem Call.delay {active : Bool} (hc : Call active d d') : d'.delay = d.delay := by
  rw [Document.delay, Document.delay, hc.setup.2]

theorem Step.starts {es : List Event} (hs : Step now supported d es d')
    (reports : List (Nat × Version)) :
    d'.starts supported reports = d.starts supported reports := by
  have hminds : d'.minds supported = d.minds supported := by
    simpa [Document.awaits, PullVersion.accepts, minds] using
      congrArg (supported && ·) (hs.awaits .any)
  rw [Document.starts, Document.starts, hminds, hs.sameText.delay]

theorem Debounces.step {es : List Event} {timers : List PullTimer}
    (h : Debounces d now l.reports timers l.sentPulls) (hbooks : Books d l spoken now)
    (hs : Step now supported d es d') :
    Debounces d' now (Log.reports (l ++ es.map (now, ·)))
      (timers ++ d'.starts supported (l.reportsAfter (es.map (now, ·))))
      (Log.sentPulls (l ++ es.map (now, ·))) := by
  have hafter := books_account.step hs hbooks
  obtain ⟨sent, pulls, hheeds, hsent, hpulls, -⟩ :=
    hs.heeds hbooks.paced hbooks.settles hbooks.reports
  have hincreasing := hafter.increasing
  have hstamped (r : Nat × Version) := hafter.stamped (r := r)
  rw [Log.reports_append, hsent] at hincreasing
  rw [Log.reports_append, hsent, hs.sameText.version] at hstamped
  have hfresh (v : Version) (hv : sent = some v) : ∀ r ∈ l.reports, r.2.value < v.value := by
    subst hv
    exact fun r hr => (List.pairwise_append.mp hincreasing).2.2 r hr (now, v) (by simp)
  have hheed := h.heed hheeds hbooks.headless hfresh hstamped
  rw [Log.reports_append, Log.sentPulls_append, Log.sentPulls_map, hsent, hpulls, hs.starts]
  refine hheed.same hs.sameText.delay (fun v hout => ?_) (fun p hp => hp) fun p hp => .inl hp
  exact Outdated.later hout hs.closed.mpr (Int.le_of_eq (congrArg _ hs.sameText.version.symm))

theorem Debounces.call {active : Bool} {timers : List PullTimer}
    (h : Debounces d now l.reports timers l.sentPulls) (hc : Call active d d') :
    Debounces d' now l.reports timers l.sentPulls := by
  refine h.same hc.delay (fun v hout => hout.call hc) (fun p hp => ?_) fun p hp => ?_
  · rcases hc.timer with hsame | ⟨hnone, -⟩
    · exact hsame ▸ hp
    · cases hnone.symm.trans hp
  · rcases hc.timer with hsame | ⟨-, hclosed⟩
    · exact .inl (hsame.trans hp)
    · exact .inr (.inl hclosed)

theorem Debounces.work {timers : List PullTimer} (h : Debounces d now l.reports timers l.sentPulls)
    (active : Bool) (m : Client.Move) :
    Debounces (m.work active d) now l.reports timers l.sentPulls :=
  m.work_induct (P := fun w => Debounces w now l.reports timers l.sentPulls)
    (fun _ _ hc hw => hw.call hc) h

/-- On its course a document sets timers for what its writer reports. -/
theorem Debounces.course {later : Nat} {k : Log} {timers : List PullTimer}
    (h : Debounces d now l.reports timers l.sentPulls) (hbooks : Books d l spoken now)
    (hc : Course supported now d k later d') :
    Debounces d' later (Log.reports (l ++ k)) (timers ++ d'.starts supported (l.reportsAfter k))
      (Log.sentPulls (l ++ k)) := by
  induction hc with
  | refl => simpa [Log.reportsAfter, starts] using h
  | step hcourse hs ih =>
    have hnext := (ih h hbooks).step (books_account.course hbooks hcourse) hs
    rw [← hs.starts] at hnext
    rw [Log.reportsAfter_append, starts_append, ← List.append_assoc, ← List.append_assoc]
    exact hnext
  | wait hcourse hle hu ih => exact (ih h hbooks).wait hle hu

end Document

end DocSync
