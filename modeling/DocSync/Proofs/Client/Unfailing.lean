import DocSync.Proofs.Client.Interference

/-!
# Runs without failures

A notification meets a failure only if one waits for its method. As long as none is waiting and none
is announced, everything comes through.
-/
namespace DocSync

open Client (Move)

namespace Turn

/-- Nothing has failed, and no failure waits. -/
structure Unfailing (t : Turn) : Prop where
  link : t.env.link.failures = []
  met : ∀ x ∈ t.doc.met t.log, x = none

theorem hand_fault {t : Turn} (h : t.env.link.failures = []) (n : Notification) :
    (t.hand n).2 = none := by
  simp [hand, Link.takeFailure, h]

namespace Unfailing

variable {t u : Turn}

theorem fate (h : t.Unfailing) : ∀ x ∈ Document.Writer.fate t.doc.writer, x = none :=
  fun x hx => h.met x (List.mem_append_right _ hx)

/-- A step fails at most what the writer hands over in it. -/
theorem step {es : List Event} (h : t.Unfailing) (he : Emits t es u)
    (hs : Document.Step t.env.now t.env.feature.supported t.doc es u.doc)
    (hfate : ∀ x ∈ Document.Writer.fate u.doc.writer, x = none) : u.Unfailing := by
  refine ⟨he.failures h.link, fun x hx => ?_⟩
  obtain ⟨k, hk, hmet⟩ := hs.met t.log
  rw [he.log, hmet] at hx
  rcases List.mem_append.mp hx with hx | hx
  · exact h.met x hx
  · exact hfate x (hk hx)

theorem writes (h : t.Unfailing) (hs : Writes t u) :
    ∀ x ∈ Document.Writer.fate u.doc.writer, x = none := by
  have hnone {d : Document} (hd : Document.Writer.fate d.writer = []) :
      ∀ x ∈ Document.Writer.fate d.writer, x = none := by simp [hd]
  cases hs with
  | greet hw hk => simp [Document.Writer.fate, hand_fault h.link]
  | hand hw hq => simp [Document.Writer.fate, hand_fault h.link]
  | join | establish => exact hnone (by rw [join_writer]; rfl)
  | @finish item fault hw hl =>
    obtain ⟨timer, pulls, hdoc, -⟩ := t.finish_spec item fault
    exact hnone (by rw [hdoc]; rfl)
  | stop hw hl => exact hnone (by rw [(t.stop_spec _).1]; rfl)
  | _ => exact hnone rfl

theorem stride (h : t.Unfailing) (hs : Stride t u) : u.Unfailing := by
  obtain ⟨es, he, hstep⟩ := hs.step
  refine h.step he hstep ?_
  cases hs with
  | write hs => exact h.writes hs
  | serve | fire =>
    rw [pull_doc]
    exact h.fate

theorem progress (h : t.Unfailing) : t.progress.Unfailing :=
  progress_induct (fun _ _ hs ht => ht.stride hs) h

theorem perform (h : t.Unfailing) (hcalm : t.doc.Calm) (a : DocumentAction) :
    (t.perform a).Unfailing := by
  have hwork : Unfailing { t with doc := a.work t.env.session.active t.doc } := by
    refine ⟨h.link, fun x hx => h.met x ?_⟩
    rwa [Turn.log, DocumentAction.work_id, Document.work_met hcalm] at hx
  have hrefresh (origin : RefreshOrigin) : (t.refresh origin).Unfailing := by
    obtain heq | ⟨es, he, hs⟩ := t.refresh_step origin
    · rw [heq]
      exact h
    · refine h.step he hs ?_
      rw [(t.refresh_spec origin).1]
      exact h.fate
  cases a with
  | refresh origin => exact hrefresh origin
  | _ => exact hwork

end Unfailing

end Turn

namespace Client

/-- Nothing has failed, and no failure waits. -/
structure Unfailing (c : Client) : Prop where
  link : c.env.link.failures = []
  met : ∀ d ∈ c.documents, ∀ x ∈ d.met (c.log d.id), x = none

theorem Unfailing.meets {c : Client} (h : c.Unfailing) : c.Meets fun _ _ => none :=
  fun d hd => begins_const (h.met d hd)

theorem Unfailing.put {c : Client} (h : c.Unfailing) {t : Turn} {es : List Event} {d : Document}
    (he : Turn.Emits ⟨d, c.env⟩ es t) (ht : t.Unfailing) : (c.put t).Unfailing := by
  refine ⟨ht.link, fun e hmem => ?_⟩
  rcases mem_put hmem with rfl | ⟨hmem, hne⟩
  · exact ht.met
  · have hsame : (c.put t).log e.id = c.log e.id :=
      (he.alike (d := e) fun h => hne (h.symm.trans he.id.symm)).log
    rw [hsame]
    exact h.met e hmem

theorem unfailing_progressAll (ds : List Document) (env : Environment)
    (hds : (ds.map Document.id).Nodup) (h : Unfailing ⟨env, ds⟩) :
    Unfailing ⟨(progressAll ds env).2, (progressAll ds env).1⟩ := by
  induction ds generalizing env with
  | nil => exact h
  | cons d rest ih =>
    rw [List.map_cons, List.nodup_cons] at hds
    have hturn : Turn.Unfailing ⟨d, env⟩ := ⟨h.link, h.met d List.mem_cons_self⟩
    obtain ⟨es, he, hc⟩ := Turn.goes_progress ⟨d, env⟩
    have hid : (Turn.progress ⟨d, env⟩).doc.id = d.id := hc.sameText.id
    have hafter := hturn.progress
    have hrest : Unfailing ⟨(Turn.progress ⟨d, env⟩).env, rest⟩ := by
      refine ⟨hafter.link, fun e hmem => ?_⟩
      have hne : d.id ≠ e.id := fun h => hds.1 (h ▸ List.mem_map_of_mem hmem)
      have hsame : logOf e.id (Turn.progress ⟨d, env⟩).env.history = logOf e.id env.history :=
        (he.alike hne).log
      rw [log, hsame]
      exact h.met e (List.mem_cons_of_mem d hmem)
    have hall := ih (Turn.progress ⟨d, env⟩).env hds.2 hrest
    obtain ⟨hev, -, -⟩ := evolves_progressAll rest (Turn.progress ⟨d, env⟩).env hds.2
    refine ⟨hall.link, fun e hmem => ?_⟩
    rcases List.mem_cons.mp hmem with rfl | hmem
    · have hsame : (⟨(progressAll (d :: rest) env).2, rest⟩ : Client).log
          (Turn.progress ⟨d, env⟩).doc.id = (Turn.progress ⟨d, env⟩).log :=
        hev.strangers _ (hid ▸ hds.1)
      have hmet := hafter.met
      rw [← hsame] at hmet
      exact hmet
    · exact hall.met e hmem

theorem Unfailing.progress {c : Client} (h : c.Unfailing) (hc : c.ids.Nodup) :
    c.progress.Unfailing := unfailing_progressAll c.documents c.env hc h

theorem Unfailing.runUntil {c : Client} (h : c.Unfailing) (hc : c.ids.Nodup) (fuel target : Nat) :
    (runUntil fuel target c).Unfailing := by
  have hstop (c : Client) (h : c.Unfailing) (hc : c.ids.Nodup) (now : Nat) :
      (c.setClock now).progress.Unfailing ∧ (c.setClock now).progress.ids.Nodup := by
    have hclock : (c.setClock now).Unfailing := ⟨h.link, h.met⟩
    refine ⟨hclock.progress hc, ?_⟩
    rw [(evolves_progress (c := c.setClock now) hc).ids]
    exact hc
  induction fuel generalizing c with
  | zero => exact (hstop c h hc target).1
  | succ fuel ih =>
    unfold Client.runUntil
    cases c.nextDue? target with
    | none => exact (hstop c h hc target).1
    | some due =>
      obtain ⟨hnow, hids⟩ := hstop c h hc due
      exact ih hnow hids

/-- Whether a move has a notification fail, whichever comes next. -/
def Move.fails : Move → Bool
  | .act (.shared (.happen (.failNext ..))) => true
  | _ => false

theorem Unfailing.move {c : Client} (h : c.Unfailing) (hc : c.Sound) {m : Move}
    (hm : m.fails = false) : (c.move m).Unfailing := by
  rcases m with ⟨uri, languageId, policy, settings, buffer, initialText⟩ | ⟨id, a⟩ | a
  · refine ⟨h.link, fun d hd => ?_⟩
    rcases List.mem_append.mp hd with hd | hd
    · exact h.met d hd
    · rw [List.mem_singleton.mp hd]
      have hlog : c.log (c.freshId uri) = [] := hc.silent _ (hc.freshId_notMem uri)
      have hsame : (c.create uri languageId policy settings buffer initialText).log
          (c.freshId uri) = [] := hlog
      simp [Client.move, hsame, Document.met, Log.outcomes, Document.Writer.fate]
  · cases hf : c.find? id with
    | none =>
      rw [move_of_unknown hf]
      exact h
    | some d =>
      obtain ⟨hd, rfl⟩ := find?_eq_some hf
      obtain ⟨r, hmove⟩ := move_document hc.distinct hc.rests hd a
      obtain ⟨es, he⟩ := Turn.emits_perform ⟨d, (c.setRegistry r).env⟩ a
      have hclient : (c.setRegistry r).Unfailing := ⟨h.link, h.met⟩
      have hturn : Turn.Unfailing ⟨d, (c.setRegistry r).env⟩ := ⟨h.link, h.met d hd⟩
      rw [hmove]
      exact hclient.put he (hturn.perform (hc.calm d hd) a).progress
  · cases a with
    | happen i =>
      have hheard : Unfailing { c with env := i.occur c.env } := by
        cases i with
        | failNext method e => cases hm
        | _ => exact ⟨h.link, h.met⟩
      have hmove : c.move (.act (.shared (.happen i))) = _ := c.happen_eq i
      rw [hmove]
      split
      · exact hheard.progress hc.distinct
      · exact hheard
    | advance millis => exact h.runUntil hc.distinct _ _
    | respond uri nth answer =>
      have hrespond : c.move (.act (.shared (.respond uri nth answer))) = _ :=
        respond_eq hc.distinct hc.rests uri nth answer
      rw [hrespond]
      split
      · exact h
      · exact ⟨h.link, h.met⟩
    | _ => exact ⟨h.link, h.met⟩

theorem Unfailing.play {c : Client} (h : c.Unfailing) (hc : c.Sound) {ms : List Move}
    (hms : ∀ m ∈ ms, m.fails = false) : (c.play ms).Unfailing := by
  induction ms generalizing c with
  | nil => exact h
  | cons m ms ih =>
    exact ih (h.move hc (hms m List.mem_cons_self)) (hc.move m) fun k hk =>
      hms k (List.mem_cons_of_mem m hk)

/-- If no failure is queued, every notification of a run comes through. -/
theorem unfailing_play {env : Environment} (henv : env.link.failures = []) {ms : List Move}
    (hms : ∀ m ∈ ms, m.fails = false) : ((start env).play ms).Unfailing :=
  Unfailing.play ⟨henv, by simp [start]⟩ (sound_start env) hms

end Client

end DocSync
