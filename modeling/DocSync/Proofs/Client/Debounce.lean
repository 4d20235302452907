import DocSync.Proofs.Client.Reception
import DocSync.Proofs.Document.Debounce
import Mathlib.Data.List.Chain
import Mathlib.Data.List.Sort

/-!
# Debouncing

A version that the writer reported is pulled for exactly if the document wanted diagnostics by
then and still is at that version when its timer is due; the pull goes out at that time, and only
once. So of a burst of changes only the last one is pulled, and it makes no difference that a timer
is taken back when another takes its place or the document is closed: a scheduler that lets every
timer go off sends the same pulls.
-/
namespace DocSync

open Document (Debounces Books books_account debounces_new)

namespace Client

/-- What the writer of a document reports in a move. -/
def reportsIn (c : Client) (id : DocumentId) (m : Move) : List (Nat × Version) :=
  ((c.move m).log id).reports.drop (c.log id).reports.length

/-- Whether a document wants diagnostics for what is reported in a move: pulls are supported, and
it is not closed. -/
def minds (c : Client) (id : DocumentId) (m : Move) : Bool :=
  ((c.move m).find? id).any fun d => d.minds c.env.feature.supported

/-- The timers that a document sets in a move. -/
def startsIn (c : Client) (id : DocumentId) (m : Move) : List PullTimer :=
  match (c.move m).find? id with
  | none => []
  | some d => d.starts c.env.feature.supported (c.reportsIn id m)

/-- The timers that a document set in a run, the oldest first. -/
def started (c : Client) (id : DocumentId) : List Move → List PullTimer
  | [] => []
  | m :: ms => c.startsIn id m ++ started (c.move m) id ms

/-- A document is not closed, and at a version. -/
def awaits (c : Client) (id : DocumentId) (v : Version) : Bool :=
  (c.find? id).any fun d => d.awaits (.exact v)

/-- The client once the clock has reached a time in a run. -/
def reaching (c : Client) (time : Nat) : List Move → Option Client
  | [] => if time ≤ c.env.now then some c else none
  | m :: ms => if time ≤ c.env.now then some c else (c.move m).reaching time ms

/-- The pulls of a scheduler that takes no timer back: each goes off when it is due, and pulls if
its version is still awaited. -/
def unaborted (c : Client) (id : DocumentId) : List Move → List (Nat × Version)
  | [] => []
  | m :: ms =>
    ((c.startsIn id m).filter fun p =>
        ((c.move m).reaching p.due ms).any fun c => c.awaits id p.version).map
      (fun p => (p.due, p.version)) ++ (c.move m).unaborted id ms

theorem started_append (c : Client) (id : DocumentId) (ms ns : List Move) :
    c.started id (ms ++ ns) = c.started id ms ++ (c.play ms).started id ns := by
  induction ms generalizing c with
  | nil => rfl
  | cons m ms ih => simp [started, ih]

theorem started_concat (c : Client) (id : DocumentId) (ms : List Move) (m : Move) :
    c.started id (ms ++ [m]) = c.started id ms ++ (c.play ms).startsIn id m := by
  simp [started_append, started]

theorem mem_started {c : Client} {id : DocumentId} {ms : List Move} {p : PullTimer} :
    p ∈ c.started id ms ↔
      ∃ before m after, ms = before ++ m :: after ∧ p ∈ (c.play before).startsIn id m := by
  constructor
  · intro h
    induction ms generalizing c with
    | nil => cases h
    | cons m ms ih =>
      rcases List.mem_append.mp h with h | h
      · exact ⟨[], m, ms, rfl, h⟩
      · obtain ⟨before, n, after, rfl, hn⟩ := ih h
        exact ⟨m :: before, n, after, rfl, hn⟩
  · rintro ⟨before, m, after, rfl, h⟩
    rw [started_append, started]
    exact List.mem_append_right _ (List.mem_append_left _ h)

theorem mem_unaborted {c : Client} {id : DocumentId} {ms : List Move} {x : Nat × Version} :
    x ∈ c.unaborted id ms ↔
      ∃ before m after, ms = before ++ m :: after ∧
        ∃ p ∈ (c.play before).startsIn id m, x = (p.due, p.version) ∧
          ∃ c', (((c.play before).move m).reaching p.due after) = some c' ∧
            c'.awaits id p.version = true := by
  induction ms generalizing c with
  | nil => simp [unaborted]
  | cons m ms ih =>
    rw [unaborted, List.mem_append, ih]
    constructor
    · rintro (h | ⟨before, n, after, rfl, h⟩)
      · obtain ⟨p, hp, rfl⟩ := List.mem_map.mp h
        obtain ⟨hp, hany⟩ := List.mem_filter.mp hp
        exact ⟨[], m, ms, rfl, p, hp, rfl, (Option.any_eq_true _ _).mp hany⟩
      · exact ⟨m :: before, n, after, rfl, h⟩
    · rintro ⟨before, n, after, heq, h⟩
      cases before with
      | nil =>
        obtain ⟨rfl, rfl⟩ := List.cons.inj heq
        obtain ⟨p, hp, rfl, hany⟩ := h
        refine .inl (List.mem_map.mpr ⟨p, List.mem_filter.mpr ⟨hp, ?_⟩, rfl⟩)
        exact (Option.any_eq_true _ _).mpr hany
      | cons b before =>
        obtain ⟨rfl, rfl⟩ := List.cons.inj heq
        exact .inr ⟨before, n, after, rfl, h⟩

theorem unaborted_sublist (c : Client) (id : DocumentId) (ms : List Move) :
    (c.unaborted id ms).Sublist ((c.started id ms).map fun p => (p.due, p.version)) := by
  induction ms generalizing c with
  | nil => exact List.Sublist.refl _
  | cons m ms ih =>
    rw [unaborted, started, List.map_append]
    exact (List.filter_sublist.map _).append (ih _)

/-! ## What is reported -/

theorem Sound.log_move {c : Client} (hc : c.Sound) (id : DocumentId) (m : Move) :
    ∃ k, (c.move m).log id = c.log id ++ k := by
  obtain ⟨new, hnew⟩ := hc.proceeds_move m
  have hhistory : (c.move m).env.history = c.env.history ++ new := hnew.history
  exact ⟨logOf id new, by rw [log, hhistory, logOf_append, log]⟩

theorem Sound.sentPulls_play {c : Client} (hc : c.Sound) (id : DocumentId) (ms : List Move) :
    (c.log id).sentPulls ⊆ ((c.play ms).log id).sentPulls := by
  induction ms generalizing c with
  | nil => exact List.Subset.refl _
  | cons m ms ih =>
    obtain ⟨k, hk⟩ := hc.log_move id m
    refine List.Subset.trans ?_ (ih (hc.move m))
    rw [hk, Log.sentPulls_append]
    exact List.subset_append_left _ _

theorem reportsIn_eq {c : Client} {id : DocumentId} {m : Move} {k : Log}
    (h : (c.move m).log id = c.log id ++ k) :
    c.reportsIn id m = (c.log id).reportsAfter k := by
  rw [reportsIn, h, Log.reports_append, List.drop_left]

theorem Sound.reports_move {c : Client} (hc : c.Sound) (id : DocumentId) (m : Move) :
    ((c.move m).log id).reports = (c.log id).reports ++ c.reportsIn id m := by
  obtain ⟨k, hk⟩ := hc.log_move id m
  rw [reportsIn_eq hk, hk, Log.reports_append]

theorem mem_reports {env : Environment} {ms : List Move} {id : DocumentId} {r : Nat × Version} :
    r ∈ (((start env).play ms).log id).reports ↔
      ∃ before m after, ms = before ++ m :: after ∧
        r ∈ ((start env).play before).reportsIn id m := by
  induction ms using List.reverseRecOn with
  | nil => simp [start, log, logOf, Log.reports, Log.reportsAfter]
  | append_singleton ms m ih =>
    rw [play_concat, (sound_play env ms).reports_move, List.mem_append, ih]
    constructor
    · rintro (⟨before, n, after, rfl, h⟩ | h)
      · exact ⟨before, n, after ++ [m], by simp, h⟩
      · exact ⟨ms, m, [], rfl, h⟩
    · rintro ⟨before, n, after, heq, h⟩
      rcases Log.cut_append heq with ⟨rest, rfl⟩ | ⟨start', rfl, hlast⟩
      · exact .inl ⟨before, n, rest, rfl, h⟩
      · cases start' with
        | nil =>
          obtain ⟨rfl, -⟩ := List.cons.inj hlast
          exact .inr (by simpa using h)
        | cons a rest => simp at hlast

/-! ## The timers of a run -/

theorem startsIn_eq {c : Client} (hc : c.Sound) {m : Move} {d : Document}
    (hd : d ∈ (c.move m).documents) :
    c.startsIn d.id m = d.starts c.env.feature.supported (c.reportsIn d.id m) := by
  rw [startsIn, find?_of_mem (hc.move m).distinct hd]

theorem startsIn_of_silent {c : Client} {id : DocumentId} {m : Move}
    (h : (c.move m).log id = []) : c.startsIn id m = [] := by
  have hreports : c.reportsIn id m = [] := by simp [reportsIn, h, Log.reports, Log.reportsAfter]
  rw [startsIn, hreports]
  split
  · rfl
  · simp [Document.starts]

theorem started_unknown (env : Environment) (ms : List Move) (id : DocumentId)
    (h : id ∉ ((start env).play ms).ids) : (start env).started id ms = [] := by
  induction ms using List.reverseRecOn with
  | nil => rfl
  | append_singleton ms m ih =>
    have hsound := sound_play env ms
    rw [play_concat] at h
    have hbefore : id ∉ ((start env).play ms).ids := fun hmem => h (ids_subset_move hsound m hmem)
    rw [started_concat, ih hbefore, startsIn_of_silent ((hsound.move m).silent id h),
      List.append_nil]

theorem debounces_play (env : Environment) (ms : List Move) (d : Document)
    (h : d ∈ ((start env).play ms).documents) :
    Debounces d ((start env).play ms).env.now (((start env).play ms).log d.id).reports
      ((start env).started d.id ms) (((start env).play ms).log d.id).sentPulls := by
  induction ms using List.reverseRecOn generalizing d with
  | nil => simp [start] at h
  | append_singleton ms m ih =>
    have hsound := sound_play env ms
    rw [play_concat] at h ⊢
    rw [started_concat, startsIn_eq hsound h]
    rcases hsound.source h with ⟨e, he, k, hcourse, hlog, hid⟩ | ⟨hnew, hid, hlog, -⟩
    · rw [reportsIn_eq hlog, hlog, ← hid]
      have hbooks := books_account.queues hsound.distinct he (books_account.play env ms e he) m
      exact ((ih e he).work _ m).course hbooks hcourse
    · have hfresh : d.id ∉ ((start env).play ms).ids := hid ▸ hsound.freshId_notMem d.uri
      have hnone := startsIn_of_silent hlog
      rw [startsIn_eq hsound h] at hnone
      rw [hlog, hnone, started_unknown env ms d.id hfresh]
      exact debounces_new hnew

theorem Sound.pulled_now {c : Client} (hc : c.Sound) {m : Move} {d : Document}
    (hd : d ∈ (c.move m).documents) {t : Nat} {v : Version}
    (h : (t, v) ∈ ((c.move m).log d.id).sentPulls) :
    (t, v) ∈ (c.log d.id).sentPulls ∨ d.awaits (.exact v) = true := by
  rcases hc.source hd with ⟨e, -, k, hcourse, hlog, -⟩ | ⟨-, -, hlog, -⟩
  · rw [hlog, Log.sentPulls_append, List.mem_append] at h
    refine h.imp_right fun h => ?_
    obtain ⟨request, hmem⟩ := Log.pulled_of_mem_sentPulls h
    exact hcourse.pulled hmem
  · rw [hlog] at h
    cases h

/-- What is outdated is not pulled for any more. -/
theorem Sound.pulled_before {c : Client} (hc : c.Sound) {d : Document} (hd : d ∈ c.documents)
    {v : Version} (houtdated : d.Outdated (.exact v)) {t : Nat} {ms : List Move}
    (h : (t, v) ∈ ((c.play ms).log d.id).sentPulls) : (t, v) ∈ (c.log d.id).sentPulls := by
  induction ms using List.reverseRecOn with
  | nil => exact h
  | append_singleton ms m ih =>
    obtain ⟨d', hd', hid, hlate⟩ := hc.outdated_play hd houtdated (ms ++ [m])
    rw [play_concat] at h hd'
    rcases (hc.play ms).pulled_now hd' (hid ▸ h) with hold | hawaits
    · exact ih (hid ▸ hold)
    · rw [hlate.not_awaits] at hawaits
      cases hawaits

theorem awaits_eq {c : Client} (hc : c.ids.Nodup) {d : Document} (hd : d ∈ c.documents)
    (v : Version) : c.awaits d.id v = d.awaits (.exact v) := by
  rw [awaits, find?_of_mem hc hd, Option.any_some]

section Runs

variable {env : Environment} {id : DocumentId} {p : PullTimer}

/-- The document that a timer was set for. -/
theorem exists_of_started {ms : List Move} (h : p ∈ (start env).started id ms) :
    ∃ d ∈ ((start env).play ms).documents, d.id = id := by
  have hid : id ∈ ((start env).play ms).ids := by
    by_contra hid
    rw [started_unknown env ms id hid] at h
    cases h
  exact List.mem_map.mp hid

/-- A timer that is due by the end of a move, and not before, has gone off for what was awaited. -/
theorem goesOff_move {ms : List Move} {m : Move} (hp : p ∈ (start env).started id (ms ++ [m]))
    (hdue : p.due ≤ ((start env).play (ms ++ [m])).env.now)
    (hbefore : (p.due, p.version) ∉ (((start env).play ms).log id).sentPulls) :
    (p.due, p.version) ∈ (((start env).play (ms ++ [m])).log id).sentPulls ↔
      ((start env).play (ms ++ [m])).awaits id p.version = true := by
  obtain ⟨d, hd, rfl⟩ := exists_of_started hp
  have hsound := sound_play env (ms ++ [m])
  have hdebounces := debounces_play env (ms ++ [m]) d hd
  have hrests := hsound.rests d hd
  rw [awaits_eq hsound.distinct hd]
  constructor
  · intro h
    rw [play_concat] at h hd
    exact ((sound_play env ms).pulled_now hd h).resolve_left hbefore
  · intro h
    rcases hdebounces.kept p hp with hslot | houtdated | hpulled
    · exact absurd (hrests.timer p hslot) (Nat.not_lt.mpr hdue)
    · rw [houtdated.not_awaits] at h
      cases h
    · exact hpulled

/-- A timer pulls exactly if its version is awaited once the clock has reached the time that it is
due, whatever happens before and after. -/
theorem goesOff_play {ms : List Move} (hp : p ∈ (start env).started id ms)
    (hnow : p.due ≤ ((start env).play ms).env.now →
      ((p.due, p.version) ∈ (((start env).play ms).log id).sentPulls ↔
        ((start env).play ms).awaits id p.version = true)) (ns : List Move) :
    (p.due, p.version) ∈ (((start env).play (ms ++ ns)).log id).sentPulls ↔
      ∃ c, ((start env).play ms).reaching p.due ns = some c ∧ c.awaits id p.version = true := by
  induction ns generalizing ms with
  | nil =>
    by_cases hdue : p.due ≤ ((start env).play ms).env.now
    · rw [List.append_nil, hnow hdue]
      simp [reaching, hdue]
    · obtain ⟨d, hd, rfl⟩ := exists_of_started hp
      have hnot : (p.due, p.version) ∉ (((start env).play ms).log d.id).sentPulls := fun hmem =>
        hdue ((debounces_play env ms d hd).pulled _ _ hmem).2
      simp [reaching, hdue, hnot]
  | cons m ns ih =>
    obtain ⟨d, hd, rfl⟩ := exists_of_started hp
    have hsound := sound_play env ms
    have hdebounces := debounces_play env ms d hd
    by_cases hdue : p.due ≤ ((start env).play ms).env.now
    · simp only [reaching, hdue, if_true, Option.some.injEq, exists_eq_left', ← hnow hdue,
        play_append]
      constructor
      · intro h
        rcases hdebounces.kept p hp with hslot | houtdated | hpulled
        · exact absurd ((hsound.rests d hd).timer p hslot) (Nat.not_lt.mpr hdue)
        · exact hsound.pulled_before hd houtdated h
        · exact hpulled
      · exact fun h => hsound.sentPulls_play d.id (m :: ns) h
    · have hbefore : (p.due, p.version) ∉ (((start env).play ms).log d.id).sentPulls := fun hmem =>
        hdue (hdebounces.pulled _ _ hmem).2
      have hp' : p ∈ (start env).started d.id (ms ++ [m]) := by
        rw [started_concat]
        exact List.mem_append_left _ hp
      have hnext := ih hp' fun hnow' => goesOff_move hp' hnow' hbefore
      rw [List.append_assoc, List.singleton_append, play_concat] at hnext
      rw [hnext, reaching, if_neg hdue]

/-- What is reported in a move is later than all that was reported before. -/
theorem reports_lt {ms : List Move} {m : Move} {r r' : Nat × Version}
    (h : r ∈ (((start env).play ms).log id).reports)
    (h' : r' ∈ ((start env).play ms).reportsIn id m) : r.2.value < r'.2.value := by
  have hall := (sound_play env ms).reports_move id m
  rw [← play_concat] at hall
  have hlog : ((start env).play (ms ++ [m])).log id ≠ [] := by
    intro hnil
    rw [hnil] at hall
    rw [(List.append_eq_nil_iff.mp hall.symm).2] at h'
    cases h'
  obtain ⟨d, hd, rfl⟩ := (sound_play env (ms ++ [m])).speaker hlog
  have hincreasing := (books_account.play env (ms ++ [m]) d hd).increasing
  rw [hall] at hincreasing
  exact (List.pairwise_append.mp hincreasing).2.2 r h r' h'

theorem exists_of_startsIn {c : Client} (hc : c.Sound) {m : Move} (h : p ∈ c.startsIn id m) :
    ∃ d ∈ (c.move m).documents, d.id = id ∧ d.minds c.env.feature.supported = true ∧
      ∃ s, (s, p.version) ∈ c.reportsIn id m ∧ p.due = s + d.delay := by
  cases hf : (c.move m).find? id with
  | none =>
    rw [startsIn, hf] at h
    cases h
  | some d =>
    obtain ⟨hd, rfl⟩ := find?_eq_some hf
    rw [startsIn_eq hc hd] at h
    exact ⟨d, hd, rfl, Document.mem_starts.mp h⟩

/-- A version is reported in one move alone. -/
theorem reported_once {before before' after after' : List Move} {m m' : Move}
    (heq : before ++ m :: after = before' ++ m' :: after') {s s' : Nat} {v : Version}
    (h : (s, v) ∈ ((start env).play before).reportsIn id m)
    (h' : (s', v) ∈ ((start env).play before').reportsIn id m') :
    before = before' ∧ m = m' ∧ after = after' := by
  rcases Log.cut_append heq with ⟨rest, rfl⟩ | ⟨rest, rfl, hrest⟩
  · have hearlier := mem_reports.mpr ⟨before', m', rest, rfl, h'⟩
    exact absurd (reports_lt hearlier h) (Int.lt_irrefl _)
  · cases rest with
    | nil =>
      obtain ⟨rfl, rfl⟩ := List.cons.inj hrest
      exact ⟨(List.append_nil _).symm, rfl, rfl⟩
    | cons n rest =>
      obtain ⟨rfl, -⟩ := List.cons.inj hrest
      have hearlier := mem_reports.mpr ⟨before, m, rest, rfl, h⟩
      exact absurd (reports_lt hearlier h') (Int.lt_irrefl _)

theorem goesOff {before : List Move} {m : Move}
    (hp : p ∈ ((start env).play before).startsIn id m) (after : List Move) :
    (p.due, p.version) ∈ (((start env).play (before ++ m :: after)).log id).sentPulls ↔
      ∃ c, ((start env).play (before ++ [m])).reaching p.due after = some c ∧
        c.awaits id p.version = true := by
  have hsound := sound_play env before
  obtain ⟨-, -, -, -, s, hreport, -⟩ := exists_of_startsIn hsound hp
  have hstarted : p ∈ (start env).started id (before ++ [m]) := by
    rw [started_concat]
    exact List.mem_append_right _ hp
  have hbefore : (p.due, p.version) ∉ (((start env).play before).log id).sentPulls := by
    intro hmem
    have hlog : ((start env).play before).log id ≠ [] := by
      intro hnil
      simp [Log.sentPulls, hnil] at hmem
    obtain ⟨d, hd, rfl⟩ := hsound.speaker hlog
    have hdebounces := debounces_play env before d hd
    obtain ⟨s', hearlier, -⟩ := hdebounces.report (hdebounces.pulled _ _ hmem).1
    exact absurd (reports_lt hearlier hreport) (Int.lt_irrefl _)
  have hplay := goesOff_play hstarted (fun hdue => goesOff_move hstarted hdue hbefore) after
  rwa [List.append_assoc] at hplay

/-- Nothing changes how long a document waits. -/
theorem delay_play {ms : List Move} {d d' : Document} (hd : d ∈ ((start env).play ms).documents)
    (ns : List Move) (hd' : d' ∈ ((start env).play (ms ++ ns)).documents) (hid : d'.id = d.id) :
    d'.delay = d.delay := by
  rw [play_append] at hd'
  refine (sound_play env ms).lasting (P := fun e => e.delay = d.delay) ?_ ?_ hd rfl ns d' hd' hid
  · exact fun hcall he => hcall.delay.trans he
  · exact fun hcourse he => hcourse.sameText.delay.trans he

end Runs

/-- How a document pulls for texts that were sent, after a run. -/
structure Debounced (env : Environment) (ms : List Move) (d : Document) : Prop where
  reported : ∀ r, r ∈ (((start env).play ms).log d.id).reports ↔
    ∃ before m after, ms = before ++ m :: after ∧
      r ∈ ((start env).play before).reportsIn d.id m
  /-- When a version was reported, this decides whether and when it is pulled for. -/
  pulled : ∀ before m after, ms = before ++ m :: after →
    ∀ s v, (s, v) ∈ ((start env).play before).reportsIn d.id m →
      ∀ t, (t, v) ∈ (((start env).play ms).log d.id).sentPulls ↔
        t = s + d.delay ∧ ((start env).play before).minds d.id m = true ∧
          ∃ c, ((start env).play (before ++ [m])).reaching (s + d.delay) after = some c ∧
            c.awaits d.id v = true
  once : (((start env).play ms).log d.id).sentPulls.Pairwise fun x y => x.2.value < y.2.value
  /-- Nothing but a report is followed by a pull. -/
  source : ∀ t v, (t, v) ∈ (((start env).play ms).log d.id).sentPulls →
    ∃ s, (s, v) ∈ (((start env).play ms).log d.id).reports ∧ t = s + d.delay
  /-- Of reports that follow each other before the timer is due, only the last is pulled for. -/
  burst : ∀ earlier rs r later,
    (((start env).play ms).log d.id).reports = earlier ++ (rs ++ r :: later) →
      (rs ++ [r]).IsChain (fun r r' => r'.1 < r.1 + d.delay) →
        ∀ r' ∈ rs, ∀ t, (t, r'.2) ∉ (((start env).play ms).log d.id).sentPulls
  live : ∀ p, d.timer = some p →
    p ∈ (start env).started d.id ms ∧ ((start env).play ms).env.now < p.due
  /-- Every timer that is still to go off, and would pull by now, is the one in the slot. -/
  single : ∀ p ∈ (start env).started d.id ms, ((start env).play ms).env.now < p.due →
    ((start env).play ms).awaits d.id p.version = true → d.timer = some p
  unaborted :
    (start env).unaborted d.id ms = (((start env).play ms).log d.id).sentPulls

section Documents

variable {env : Environment} {ms : List Move} {d : Document}

theorem pulled_iff (h : d ∈ ((start env).play ms).documents) {before after : List Move} {m : Move}
    (hms : ms = before ++ m :: after) {s : Nat} {v : Version}
    (hr : (s, v) ∈ ((start env).play before).reportsIn d.id m) (t : Nat) :
    (t, v) ∈ (((start env).play ms).log d.id).sentPulls ↔
      t = s + d.delay ∧ ((start env).play before).minds d.id m = true ∧
        ∃ c, ((start env).play (before ++ [m])).reaching (s + d.delay) after = some c ∧
          c.awaits d.id v = true := by
  subst hms
  have hsound := sound_play env before
  have hdebounces := debounces_play env _ d h
  constructor
  · intro hmem
    obtain ⟨hset, -⟩ := hdebounces.pulled t v hmem
    obtain ⟨before', m', after', heq, hstarts⟩ := mem_started.mp hset
    obtain ⟨e, he, hid, hminds, s', hr', -⟩ := exists_of_startsIn (sound_play env before') hstarts
    obtain ⟨rfl, rfl, rfl⟩ := reported_once heq hr hr'
    obtain ⟨s'', hall, hdue⟩ := hdebounces.report hset
    have hs : s'' = s := (books_account.play env _ d h).once hall
      (mem_reports.mpr ⟨before, m, after, rfl, hr⟩)
    have ht : t = s + d.delay := hs ▸ hdue
    refine ⟨ht, ?_, ?_⟩
    · rw [minds, ← hid, find?_of_mem (hsound.move m).distinct he]
      exact hminds
    · have hgoes := (goesOff hstarts after).mp hmem
      rwa [ht] at hgoes
  · rintro ⟨rfl, hminds, hreaching⟩
    obtain ⟨e, hf, hminds⟩ := (Option.any_eq_true _ _).mp hminds
    obtain ⟨he, hid⟩ := find?_eq_some hf
    have hdelay : d.delay = e.delay := by
      rw [← play_concat] at he
      refine delay_play he after ?_ hid.symm
      rwa [List.append_assoc]
    have hstarts : ⟨s + d.delay, v⟩ ∈ ((start env).play before).startsIn d.id m := by
      rw [← hid] at hr ⊢
      rw [startsIn_eq hsound he]
      exact Document.mem_starts.mpr ⟨hminds, s, hr, congrArg (s + ·) hdelay⟩
    exact (goesOff hstarts after).mpr hreaching

/-- It makes no difference that timers are taken back. -/
theorem unaborted_eq (h : d ∈ ((start env).play ms).documents) :
    (start env).unaborted d.id ms = (((start env).play ms).log d.id).sentPulls := by
  have hdebounces := debounces_play env ms d h
  have hincreasing : ((((start env).play ms).log d.id).reports.map
      fun r => (r.1 + d.delay, r.2)).Pairwise fun x y => x.2.value < y.2.value :=
    List.pairwise_map.mpr (books_account.play env ms d h).increasing
  have hsublist := ((start env).unaborted_sublist d.id ms).trans hdebounces.reported
  have : Std.Antisymm fun x y : Nat × Version => x.2.value < y.2.value :=
    ⟨fun x y hxy hyx => absurd (Int.lt_trans hxy hyx) (Int.lt_irrefl _)⟩
  have : Std.Irrefl fun x y : Nat × Version => x.2.value < y.2.value :=
    ⟨fun x => Int.lt_irrefl _⟩
  refine (hincreasing.sublist hsublist).eq_of_mem_iff hdebounces.order fun x => ?_
  rw [mem_unaborted]
  constructor
  · rintro ⟨before, m, after, rfl, p, hp, rfl, hreaching⟩
    rw [← play_concat] at hreaching
    exact (goesOff hp after).mpr hreaching
  · intro hx
    obtain ⟨before, m, after, rfl, hp⟩ := mem_started.mp (hdebounces.pulled x.1 x.2 hx).1
    refine ⟨before, m, after, rfl, ⟨x.1, x.2⟩, hp, rfl, ?_⟩
    rw [← play_concat]
    exact (goesOff hp after).mp hx

theorem burst_last (h : d ∈ ((start env).play ms).documents)
    {earlier rs later : List (Nat × Version)} {r : Nat × Version}
    (hall : (((start env).play ms).log d.id).reports = earlier ++ (rs ++ r :: later))
    (hchain : (rs ++ [r]).IsChain fun r r' => r'.1 < r.1 + d.delay) {r' : Nat × Version}
    (hr' : r' ∈ rs) (t : Nat) : (t, r'.2) ∉ (((start env).play ms).log d.id).sentPulls := by
  intro hmem
  have hbooks := books_account.play env ms d h
  have hdebounces := debounces_play env ms d h
  -- The report that comes next is too early for the pull of the one before.
  obtain ⟨before, after, rfl⟩ := List.append_of_mem hr'
  obtain ⟨next, rest, hnext⟩ : ∃ next rest, after ++ [r] = next :: rest :=
    List.exists_cons_of_ne_nil (by simp)
  have hsplit : (((start env).play ms).log d.id).reports =
      (earlier ++ before) ++ r' :: next :: (rest ++ later) := by
    have hcons : next :: (rest ++ later) = after ++ r :: later := by
      rw [← List.cons_append, ← hnext, List.append_assoc]
      rfl
    rw [hall, hcons]
    simp
  rw [List.append_assoc, List.cons_append, hnext] at hchain
  have hgap : next.1 < r'.1 + d.delay := (List.isChain_append_cons_cons.mp hchain).2.1
  have hincreasing := hbooks.increasing
  rw [hsplit] at hincreasing
  have hlater : r'.2.value < next.2.value :=
    (List.pairwise_cons.mp (List.pairwise_append.mp hincreasing).2.1).1 next List.mem_cons_self
  have hmem' : ∀ x ∈ [r', next], x ∈ (((start env).play ms).log d.id).reports := by
    rw [hsplit]
    simp
  have hlast : t ≤ next.1 :=
    hdebounces.last _ hmem next (hmem' next (by simp)) hlater
  obtain ⟨s, hs, hdue⟩ := hdebounces.report (hdebounces.pulled _ _ hmem).1
  have hsame : s = r'.1 := hbooks.once hs (hmem' r' (by simp))
  dsimp only at hdue
  omega

end Documents

/-- At every moment of a run, for every document. -/
theorem debounce (env : Environment) (ms : List Move) (d : Document)
    (h : d ∈ ((start env).play ms).documents) : Debounced env ms d := by
  have hdebounces := debounces_play env ms d h
  have hsound := sound_play env ms
  refine ⟨fun r => mem_reports, fun before m after hms s v hr t => pulled_iff h hms hr t,
    hdebounces.order, fun t v hmem => hdebounces.report (hdebounces.pulled t v hmem).1,
    fun earlier rs r later hall hchain r' hr' t => burst_last h hall hchain hr' t, ?_, ?_,
    unaborted_eq h⟩
  · exact fun p hp => ⟨(hdebounces.running p hp).1, (hsound.rests d h).timer p hp⟩
  · intro p hp hdue hawaits
    rw [awaits_eq hsound.distinct h] at hawaits
    rcases hdebounces.kept p hp with hslot | houtdated | hpulled
    · exact hslot
    · rw [houtdated.not_awaits] at hawaits
      cases hawaits
    · exact absurd (hdebounces.pulled _ _ hpulled).2 (Nat.not_le.mpr hdue)

/-- A burst of changes, the last of which is pulled for although pulls are not supported by then; a
change that is reported meanwhile, and one that the closing comes before. -/
def hurried : List Move :=
  let id : DocumentId := ⟨⟨"file:///a"⟩, 0⟩
  let type : Move := .act (.document id (.edit (.insertion 1 "b") none))
  let advance (millis : Nat) : Move := .act (.shared (.advance millis))
  let support (value : Bool) : Move := .act (.shared (.happen (.setSupported value)))
  [.create id.uri "text" ⟨.full, true, .disabled⟩ { settleMillis := 0, debounceMillis := 300 } "a"
      none,
    .act (.document id .beginOpen), advance 100, type, advance 100, type, support false,
    advance 400, type, support true, type, .act (.document id .close), advance 400]

theorem debounce_hurried : ∃ d ∈ ((start offering).play hurried).documents,
    (((start offering).play hurried).log d.id).reports =
        [(0, ⟨1⟩), (100, ⟨2⟩), (200, ⟨3⟩), (600, ⟨4⟩), (600, ⟨5⟩)] ∧
      (((start offering).play hurried).log d.id).sentPulls = [(500, ⟨3⟩)] ∧
      ((start offering).started d.id hurried).map PullTimer.due = [300, 400, 500, 900] ∧
      (start offering).unaborted d.id hurried = [(500, ⟨3⟩)] := by
  obtain ⟨d, hd, hreports, hpulls, hstarted⟩ : ∃ d ∈ ((start offering).play hurried).documents,
      (((start offering).play hurried).log d.id).reports =
          [(0, ⟨1⟩), (100, ⟨2⟩), (200, ⟨3⟩), (600, ⟨4⟩), (600, ⟨5⟩)] ∧
        (((start offering).play hurried).log d.id).sentPulls = [(500, ⟨3⟩)] ∧
        ((start offering).started d.id hurried).map PullTimer.due = [300, 400, 500, 900] := by
    decide
  exact ⟨d, hd, hreports, hpulls, hstarted,
    (debounce offering hurried d hd).unaborted.trans hpulls⟩

end Client

end DocSync
