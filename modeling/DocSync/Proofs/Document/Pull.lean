import DocSync.Proofs.Client.Spoken
import DocSync.Proofs.Document.Parting

/-!
# When diagnostics are pulled

A pull only goes out while its document awaits it: the document is not closed, and no version was
stamped after the one that the pull is for. A later version or the closing outdates it for good. A
pull that follows a text finds that text with the server, as the last one that was handed over.
-/
namespace DocSync

/-- A notification with its outcome. -/
def Event.outcome? : Event → Option (Notification × Option SessionError)
  | .finished n fault => some (n, fault)
  | _ => none

namespace Log

/-- The notifications that have their outcome, and what it is. -/
def outcomes (l : Log) : List (Notification × Option SessionError) :=
  l.filterMap fun x => x.2.outcome?

theorem outcomes_append (l k : Log) : outcomes (l ++ k) = l.outcomes ++ k.outcomes :=
  List.filterMap_append

theorem outcomes_map (now : Nat) (es : List Event) :
    outcomes (es.map (now, ·)) = es.filterMap Event.outcome? := by
  rw [outcomes, List.filterMap_map]
  rfl

theorem mem_outcomes {l : Log} {t : Nat} {n : Notification} {fault : Option SessionError}
    (h : (t, Event.finished n fault) ∈ l) : (n, fault) ∈ l.outcomes :=
  List.mem_filterMap.mpr ⟨_, h, rfl⟩

/-- The text of a version came through. -/
def Delivered (l : Log) (v : Version) : Prop := ∃ o ∈ l.outcomes, o.1.sentVersion? o.2 = some v

/-- The text of a version did not come through. -/
def Lost (l : Log) (v : Version) : Prop :=
  ∃ o ∈ l.outcomes, o.2.isSome = true ∧ o.1.version? = some v

instance (l : Log) (v : Version) : Decidable (l.Delivered v) :=
  inferInstanceAs (Decidable (∃ o ∈ l.outcomes, o.1.sentVersion? o.2 = some v))

def Pulled (l : Log) (v : PullVersion) : Prop :=
  ∃ t cause request, (t, Event.pulled cause v request) ∈ l

theorem Pulled.append {l : Log} {v : PullVersion} (h : l.Pulled v) (k : Log) :
    Pulled (l ++ k) v := by
  obtain ⟨t, cause, request, hmem⟩ := h
  exact ⟨t, cause, request, List.mem_append_left k hmem⟩

theorem Pulled.ne_nil {l : Log} {v : PullVersion} (h : l.Pulled v) : l ≠ [] := by
  obtain ⟨t, cause, request, hmem⟩ := h
  exact List.ne_nil_of_mem hmem

theorem Delivered.append {l : Log} {v : Version} (h : l.Delivered v) (k : Log) :
    Delivered (l ++ k) v := by
  obtain ⟨o, ho, hv⟩ := h
  rw [Delivered, outcomes_append]
  exact ⟨o, List.mem_append_left _ ho, hv⟩

/-- What was handed over has its outcome, or waits for it. -/
theorem resolved_of_handed {l : Log} {n : Notification} (h : n ∈ l.handed) :
    n ∈ l.unresolved ∨ ∃ fault, (n, fault) ∈ l.outcomes := by
  induction l using List.reverseRecOn with
  | nil => cases h
  | append_singleton l x ih =>
    obtain ⟨s, e⟩ := x
    rw [unresolved_append, outcomes_append]
    rw [handed_append, List.mem_append] at h
    rcases h with h | h
    · rcases ih h with hopen | ⟨fault, hmem⟩
      · cases e with
        | handed m => exact .inl (List.mem_append_left _ hopen)
        | finished m fault =>
          by_cases hm : n = m
          · exact .inr ⟨fault, by simp [hm, outcomes, Event.outcome?]⟩
          · exact .inl ((List.mem_erase_of_ne hm).mpr hopen)
        | _ => exact .inl hopen
      · exact .inr ⟨fault, List.mem_append_left _ hmem⟩
    · cases e with
      | handed m =>
        obtain rfl : n = m := by simpa [handed, Event.handed?] using h
        exact .inl (List.mem_append_right _ (List.mem_singleton_self n))
      | _ => simp [handed, Event.handed?] at h

/-- A version that was handed over came through, or was lost, or waits for its outcome. -/
theorem outcome_of_handed {l : Log} {v : Version} (h : v ∈ versionsOf l.handed) :
    l.Delivered v ∨ l.Lost v ∨ v ∈ versionsOf l.unresolved := by
  obtain ⟨n, hn, hv⟩ := List.mem_filterMap.mp h
  rcases resolved_of_handed hn with hopen | ⟨fault, hmem⟩
  · exact .inr (.inr (List.mem_filterMap.mpr ⟨n, hopen, hv⟩))
  · cases fault with
    | none => exact .inl ⟨(n, none), hmem, hv⟩
    | some e => exact .inr (.inl ⟨(n, some e), hmem, rfl, hv⟩)

end Log

namespace Document

/-! ## What is awaited -/

/-- What was pulled for a version no longer concerns the document. -/
def Outdated (d : Document) (v : PullVersion) : Prop :=
  d.phase = .closed ∨ ∃ u, v = .exact u ∧ u.value < d.version.value

theorem awaits_exact {d : Document} {v : Version} (h : d.awaits (.exact v) = true) :
    v = d.version := by
  simp only [awaits, PullVersion.accepts, Bool.and_eq_true, beq_iff_eq] at h
  exact h.2

theorem Outdated.not_awaits {d : Document} {v : PullVersion} (h : d.Outdated v) :
    d.awaits v = false := by
  rcases h with hp | ⟨u, rfl, hlt⟩
  · simp [awaits, hp]
  · by_contra ha
    have hv := awaits_exact (by simpa using ha)
    rw [hv] at hlt
    exact Int.lt_irrefl _ hlt

/-- Among the pulls that a document may have made, it awaits those that are not outdated. -/
theorem awaits_of_not_outdated {d : Document} {v : PullVersion} (h : ¬ d.Outdated v)
    (hle : ∀ u, v = .exact u → u.value ≤ d.version.value) : d.awaits v = true := by
  have hopen : d.phase ≠ .closed := fun hp => h (.inl hp)
  cases v with
  | any => simp [awaits, PullVersion.accepts, hopen]
  | exact u =>
    have hge : ¬ u.value < d.version.value := fun hlt => h (.inr ⟨u, rfl, hlt⟩)
    have hsame : u = d.version := by
      have hvalue : u.value = d.version.value := by
        have := hle u rfl
        omega
      cases u
      cases hd : d.version
      simp_all
    simp [awaits, PullVersion.accepts, hopen, hsame]

theorem Call.version_le {active : Bool} {d d' : Document} (hc : Call active d d') :
    d.version.value ≤ d'.version.value := by
  have hnext : d.version.value ≤ d.version.next.value := by
    rw [Version.next]
    dsimp only
    omega
  cases hc with
  | begin hp =>
    rw [beginOpen_eq hp]
    split
    · exact hnext
    · exact Int.le_refl _
  | change ha hp => exact hnext
  | _ => exact Int.le_refl _

theorem Outdated.later {d d' : Document} {v : PullVersion} (h : d.Outdated v)
    (hclosed : d.phase = .closed → d'.phase = .closed)
    (hversion : d.version.value ≤ d'.version.value) : d'.Outdated v := by
  rcases h with hp | ⟨u, rfl, hlt⟩
  · exact .inl (hclosed hp)
  · exact .inr ⟨u, rfl, Int.lt_of_lt_of_le hlt hversion⟩

theorem Outdated.call {active : Bool} {d d' : Document} {v : PullVersion} (h : d.Outdated v)
    (hc : Call active d d') : d'.Outdated v :=
  h.later (fun hp => (hc.closed hp).1) hc.version_le

theorem Outdated.course {a b : Nat} {supported : Bool} {d d' : Document} {l : Log} {v : PullVersion}
    (h : d.Outdated v) (hc : Course supported a d l b d') : d'.Outdated v :=
  h.later hc.closed.mpr (Int.le_of_eq (congrArg _ hc.sameText.version.symm))

theorem Step.awaits {now : Nat} {supported : Bool} {d d' : Document} {es : List Event}
    (hs : Step now supported d es d') (v : PullVersion) : d'.awaits v = d.awaits v := by
  have hphase : (d'.phase != .closed) = (d.phase != .closed) := by
    rw [Bool.eq_iff_iff, bne_iff_ne, bne_iff_ne]
    exact not_congr hs.closed
  rw [Document.awaits, Document.awaits, hphase, hs.sameText.version]

/-- A pull goes out only while it is awaited. -/
theorem Step.pulled {now : Nat} {supported : Bool} {d d' : Document} {es : List Event}
    (hs : Step now supported d es d') {cause : PullCause} {v : PullVersion}
    {request : DiagnosticRequest} (hmem : .pulled cause v request ∈ es) : d.awaits v = true := by
  have hasks {cause' : PullCause} {v' : PullVersion} {pulls : List Event}
      (hp : Asks d cause' v' pulls) (hmem : .pulled cause v request ∈ pulls) :
      d.awaits v = true := by
    obtain ⟨_, heq, ha⟩ := hp.mem _ hmem
    cases heq
    exact ha
  have hattends {sent : Option Version} {timer : Option PullTimer} {pulls : List Event}
      (hp : Attends now supported d sent timer pulls) (hmem : .pulled cause v request ∈ pulls) :
      d.awaits v = true := by
    obtain ⟨_, _, _, heq, ha⟩ := hp.mem _ hmem
    cases heq
    exact ha
  cases hs with
  | establish h hdue timer unpulled hu hp => exact hattends hp (by simpa using hmem)
  | finish timer pulls h hp => exact hattends hp (by simpa using hmem)
  | fire h hdue hp => exact hasks hp hmem
  | serve h hk hp => exact hasks hp hmem
  | refresh h _ hv hp => exact hasks hp hmem
  | _ => simp [dismissals] at hmem

theorem Course.pulled {a b : Nat} {supported : Bool} {d d' : Document} {l : Log}
    (hc : Course supported a d l b d') {t : Nat} {cause : PullCause} {v : PullVersion}
    {request : DiagnosticRequest} (hmem : (t, .pulled cause v request) ∈ l) :
    d'.awaits v = true := by
  induction hc with
  | refl => cases hmem
  | step _ hs ih =>
    rw [hs.awaits]
    rcases List.mem_append.mp hmem with hmem | hmem
    · exact ih hmem
    · obtain ⟨e, he, heq⟩ := List.mem_map.mp hmem
      cases heq
      exact hs.pulled he
  | wait _ _ _ ih => exact ih hmem

/-! ## What is pulled -/

/-- What a document pulled, and what it may pull yet, fits its log. -/
structure Pulls (d : Document) (l : Log) : Prop where
  stamped : ∀ w ∈ versionsOf (d.ledger l), w.value ≤ d.version.value
  timer : ∀ p, d.timer = some p → l.Delivered p.version
  waiting : ∀ v ∈ d.waiting, v = .any
  unpulled : d.unpulled = true → d.phase = .opened ∨ d.phase = .closed
  /-- No later version was handed over before, and a text that was sent had come through. -/
  pulled : ∀ (before : Log) t cause v request after,
    l = before ++ (t, .pulled cause (.exact v) request) :: after → v.value ≤ d.version.value ∧
      (∀ w ∈ versionsOf before.handed, w.value ≤ v.value) ∧ (cause = .sent → before.Delivered v)

theorem pulls_new {d : Document} (h : d.IsNew) : Pulls d [] := by
  rw [h]
  exact ⟨by simp [Document.ledger, unsent, backlog, Writer.greeting?, versionsOf], by simp, by simp,
    by simp, by simp⟩

/-- A call only adds to the ledger what it stamps. -/
theorem Pulls.call {active : Bool} {d d' : Document} {l : Log} (h : Pulls d l)
    (hk : Keeps d (d.ledger l)) (hc : Call active d d') : Pulls d' l := by
  have hversion := hc.version_le
  have hpulled : ∀ (before : Log) t cause v request after,
      l = before ++ (t, .pulled cause (.exact v) request) :: after →
        v.value ≤ d'.version.value ∧ (∀ w ∈ versionsOf before.handed, w.value ≤ v.value) ∧
          (cause = .sent → before.Delivered v) := by
    intro before t cause v request after hl
    obtain ⟨hv, hnewest, hdelivered⟩ := h.pulled before t cause v request after hl
    exact ⟨Int.le_trans hv hversion, hnewest, hdelivered⟩
  have hstamped (n : Notification) (hn : ∀ w, n.version? = some w → w = d'.version) :
      ∀ w ∈ versionsOf (d.ledger l ++ [n]), w.value ≤ d'.version.value := by
    intro w hw
    rw [versionsOf_append, List.mem_append] at hw
    rcases hw with hw | hw
    · exact Int.le_trans (h.stamped w hw) hversion
    · obtain ⟨m, hm, hmw⟩ := List.mem_filterMap.mp hw
      rw [List.mem_singleton.mp hm] at hmw
      exact Int.le_of_eq (congrArg _ (hn w hmw))
  cases hc with
  | begin hp =>
    have hnot : d.unpulled = false := by
      by_contra hu
      rcases h.unpulled (by simpa using hu) with hopened | hclosed
      · cases hp.symm.trans hopened
      · cases hp.symm.trans hclosed
    have htimer := d.beginOpen_same Document.timer fun _ _ _ _ => rfl
    have hwaiting := d.beginOpen_same Document.waiting fun _ _ _ _ => rfl
    have hunpulled := d.beginOpen_same Document.unpulled fun _ _ _ _ => rfl
    refine ⟨?_, htimer ▸ h.timer, hwaiting ▸ h.waiting, by simp [hunpulled, hnot], hpulled⟩
    rw [hk.ledger_beginOpen hp, greetings, beginOpen_eq hp]
    cases ho : d.policy.openClose <;> simp [versionsOf, greeting, Notification.version?]
  | write buffer initialText pending => exact ⟨h.stamped, h.timer, h.waiting, h.unpulled, hpulled⟩
  | change ha hp =>
    refine ⟨?_, h.timer, h.waiting, h.unpulled, hpulled⟩
    rw [ledger_sendChanges ha]
    exact hstamped _ fun w hw => (Option.some.inj hw).symm
  | save ha hs text =>
    refine ⟨?_, h.timer, h.waiting, h.unpulled, hpulled⟩
    rw [ledger_push ha]
    exact hstamped _ fun w hw => by cases hw
  | vain ha hr hl hs text =>
    refine ⟨?_, h.timer, h.waiting, h.unpulled, hpulled⟩
    rw [ledger_push_refused hr]
    exact h.stamped
  | close ha ho hs =>
    refine ⟨?_, by simp [shut], by simp [shut], fun _ => .inr rfl, hpulled⟩
    rw [ledger_shut, ledger_push ha]
    exact hstamped _ fun w hw => by cases hw
  | abandon hc => exact ⟨h.stamped, by simp [shut], by simp [shut], fun _ => .inr rfl, hpulled⟩

theorem Attends.timer {now : Nat} {supported : Bool} {d : Document} {sent : Option Version}
    {timer : Option PullTimer} {pulls : List Event} (h : Attends now supported d sent timer pulls)
    {p : PullTimer} (hp : timer = some p) : d.timer = some p ∨ sent = some p.version := by
  cases h with
  | unsent => exact .inl hp
  | ignore => exact .inl hp
  | pull => exact .inl hp
  | delay v =>
    obtain rfl := Option.some.inj hp
    exact .inr rfl

theorem WriterFits.delivered {d : Document} {l : Log} {now due : Nat} {n : Notification}
    {v : Version} (h : d.WriterFits l now) (hw : d.writer = .settling n due)
    (hv : n.version? = some v) : l.Delivered v := by
  rw [WriterFits, hw] at h
  obtain ⟨-, -, -, t, hmem, -⟩ := h
  exact ⟨(n, none), Log.mem_outcomes hmem, hv⟩

theorem delivered_of_sentVersion {n : Notification} {fault : Option SessionError} {v : Version}
    (h : n.sentVersion? fault = some v) (l k : Log) (now : Nat) :
    Log.Delivered (l ++ (now, .finished n fault) :: k) v :=
  ⟨(n, fault), Log.mem_outcomes (List.mem_append_right l List.mem_cons_self), h⟩

/-- A pull that follows a text finds the text delivered. -/
theorem Pulls.sent {now : Nat} {supported : Bool} {d d' : Document} {es : List Event} {l : Log}
    (h : Pulls d l) (hfits : d.WriterFits l now) (hs : Step now supported d es d')
    {start rest : List Event} {v : Version} {request : DiagnosticRequest}
    (hes : es = start ++ .pulled .sent (.exact v) request :: rest) :
    Log.Delivered (l ++ start.map (now, ·)) v := by
  have hmem : .pulled .sent (.exact v) request ∈ es := by simp [hes]
  cases hs with
  | @establish n due hw hdue timer unpulled pulls hu hp =>
    obtain ⟨_, _, hsent, heq, -⟩ := hp.mem _ (by simpa using hmem)
    cases heq
    exact (hfits.delivered hw hsent).append _
  | @finish item fault timer pulls hw hp =>
    obtain ⟨_, _, hsent, heq, -⟩ := hp.mem (.pulled .sent (.exact v) request) (by simpa using hmem)
    cases heq
    cases start with
    | nil => cases hes
    | cons first start =>
      rw [List.cons_append, List.cons_append, List.cons.injEq] at hes
      rw [← hes.1, List.map_cons]
      exact delivered_of_sentVersion hsent l _ now
  | fire hw hdue hp =>
    obtain ⟨_, heq, -⟩ := hp.mem _ hmem
    cases heq
    exact (h.timer _ hw).append _
  | serve hw hk hp =>
    obtain ⟨_, heq, -⟩ := hp.mem _ hmem
    cases heq
  | refresh hp hs hv hasks =>
    obtain ⟨_, heq, -⟩ := hasks.mem _ hmem
    cases heq
  | _ => simp [dismissals] at hmem

theorem Pulls.step {now : Nat} {supported : Bool} {d d' : Document} {es : List Event} {l : Log}
    (h : Pulls d l) (hk : Keeps d (d.ledger l)) (hfits : d.WriterFits l now)
    (hs : Step now supported d es d') : Pulls d' (l ++ es.map (now, ·)) := by
  have hversion := hs.sameText.version
  have hledger := hs.ledger_prefix l
  refine ⟨?_, ?_, ?_, ?_, ?_⟩
  · intro w hw
    rw [hversion]
    exact h.stamped w ((hledger.filterMap _).subset hw)
  · intro p hp
    cases hs with
    | @establish n due hw hdue timer unpulled pulls _ hattends =>
      rcases hattends.timer hp with hold | hsent
      · exact (h.timer p hold).append _
      · exact (hfits.delivered hw hsent).append _
    | @finish item fault timer pulls hw hattends =>
      rcases hattends.timer hp with hold | hsent
      · exact (h.timer p hold).append _
      · exact delivered_of_sentVersion hsent l _ now
    | fire hw hdue hasks => cases hp
    | _ => exact (h.timer p hp).append _
  · intro v hv
    cases hs with
    | refuse e hw => simp [lose] at hv
    | fail hw => simp [lose] at hv
    | serve hw hk hasks => exact h.waiting v (hw ▸ List.mem_cons_of_mem _ hv)
    | enlist hp hr _ hrefreshes =>
      rcases List.mem_append.mp hv with hv | hv
      · exact h.waiting v hv
      · rcases hrefreshes with hany | ⟨hu, -⟩
        · rw [List.mem_singleton.mp hv, hany]
        -- What was not pulled so far is open or closed, so that nothing exact ever waits.
        · rcases h.unpulled hu with hopened | hclosed
          · cases hp.symm.trans hopened
          · cases hp.symm.trans hclosed
    | _ => exact h.waiting v hv
  · intro hu
    have hkept (hd : d.phase = .opened ∨ d.phase = .closed) :
        d'.phase = .opened ∨ d'.phase = .closed := by
      rcases hs.phase with hp | ⟨-, hp⟩
      · rwa [hp]
      · exact .inl hp
    cases hs with
    | establish hw hdue timer unpulled _ hattends =>
      cases hp : d.phase with
      | unopened =>
        have habsent := (hk.unopened hp).1
        rw [hw] at habsent
        cases habsent
      | opening => exact .inl (if_pos hp)
      | opened => exact hkept (.inl hp)
      | closed => exact hkept (.inr hp)
    | _ => exact hkept (h.unpulled hu)
  · intro (before : Log) t cause v request after hl
    have hle (w : Version) (hw : w ∈ versionsOf before.handed) : w ∈ versionsOf (d.ledger l) := by
      have hbefore : before.handed <+: d'.ledger (l ++ es.map (now, ·)) := by
        rw [hl, Document.ledger, Log.handed_append, List.append_assoc]
        exact List.prefix_append _ _
      exact ((hbefore.trans hledger).filterMap _).subset hw
    rcases Log.cut_append hl with ⟨rest, hl⟩ | ⟨start, rfl, hstart⟩
    · obtain ⟨hv, hnewest, hdelivered⟩ := h.pulled before t cause v request rest hl
      exact ⟨hversion ▸ hv, hnewest, hdelivered⟩
    · obtain ⟨begins, others, hes, rfl, htail⟩ := List.map_eq_append_iff.mp hstart
      obtain ⟨e, ends, rfl, heq, -⟩ := List.map_eq_cons_iff.mp htail
      cases heq
      have hmem : .pulled cause (.exact v) request ∈ es := by simp [hes]
      have hv : v = d.version := awaits_exact (hs.pulled hmem)
      refine ⟨Int.le_of_eq (congrArg _ (hv.trans hversion.symm)), fun w hw => ?_, ?_⟩
      · rw [hv]
        exact h.stamped w (hle w hw)
      · rintro rfl
        exact h.sent hfits hs hes

theorem pulls_invariant :
    Invariant fun d l now => (Keeps d (d.ledger l) ∧ Paced d l now) ∧ Pulls d l where
  new h := ⟨paced_invariant.new h, pulls_new h⟩
  call hc h := ⟨paced_invariant.call hc h.1, h.2.call h.1.1 hc⟩
  step hs h := ⟨paced_invariant.step hs h.1, h.2.step h.1.1 h.1.2.writer hs⟩
  wait hle hu h := ⟨paced_invariant.wait hle hu h.1, h.2⟩

end Document

end DocSync
