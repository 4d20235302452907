import DocSync.Proofs.Client.Play

/-!
# A client as one document sees it

A document sees itself, its own log, the clock, the session, whether pulls are supported, and
whether the link holds notifications up. Each move concerns it in one of few ways: it is worked on,
or woken, or the clock passes the times that it waits for. Every other move, and all that a move
does to other documents, it does not see.
-/
namespace DocSync

open Client (Move)

/-- What a document sees is the same. Of writers that are slow it sees its own. -/
structure Environment.Looks (id : DocumentId) (e e' : Environment) : Prop where
  now : e'.now = e.now
  session : e'.session = e.session
  feature : e'.feature = e.feature
  resolver : e'.resolver = e.resolver
  stalled : e'.link.stalled = e.link.stalled
  late : e'.late id = e.late id

theorem Environment.SameWorld.looks {e e' : Environment} (h : e.SameWorld e') (id : DocumentId) :
    e.Looks id e' :=
  ⟨h.now, h.session, h.feature, h.resolver, h.stalled, congrFun h.late id⟩

theorem Environment.Looks.refl (id : DocumentId) (e : Environment) : e.Looks id e :=
  ⟨rfl, rfl, rfl, rfl, rfl, rfl⟩

theorem Environment.Looks.symm {id : DocumentId} {a b : Environment} (h : a.Looks id b) :
    b.Looks id a :=
  ⟨h.now.symm, h.session.symm, h.feature.symm, h.resolver.symm, h.stalled.symm, h.late.symm⟩

theorem Environment.Looks.trans {id : DocumentId} {a b c : Environment} (h : a.Looks id b)
    (k : b.Looks id c) : a.Looks id c :=
  ⟨k.now.trans h.now, k.session.trans h.session, k.feature.trans h.feature,
    k.resolver.trans h.resolver, k.stalled.trans h.stalled, k.late.trans h.late⟩

/-- What all documents see of a move. -/
def Environment.hear (e : Environment) : Move → Environment
  | .act (.shared (.happen i)) => i.occur e
  | .act (.shared (.advance millis)) => { e with now := e.now + millis }
  | _ => e

theorem Environment.hear_history (e : Environment) (m : Move) : (e.hear m).history = e.history := by
  unfold hear
  split
  · exact Client.Incident.occur_history e _
  · rfl
  · rfl

theorem Environment.Looks.occur {id : DocumentId} {a b : Environment} (h : a.Looks id b)
    (i : Client.Incident) : (i.occur a).Looks id (i.occur b) := by
  obtain ⟨hnow, hsession, hfeature, hresolver, hstalled, hlate⟩ := h
  cases i <;> simp only [Client.Incident.occur] <;> constructor <;> simp [*]

theorem Environment.Looks.hear {id : DocumentId} {a b : Environment} (h : a.Looks id b)
    (m : Move) : (a.hear m).Looks id (b.hear m) := by
  unfold Environment.hear
  split
  · exact h.occur _
  · exact ⟨by rw [h.now], h.session, h.feature, h.resolver, h.stalled, h.late⟩
  · exact h

/-- Whether a move has a document do something. -/
def Client.Move.stirs (id : DocumentId) : Move → Bool
  | .act (.document other _) => other == id
  | .act (.shared (.happen i)) => i.rouses
  | .act (.shared (.advance _)) => true
  | _ => false

namespace Turn

def log (t : Turn) : Log := logOf t.doc.id t.env.history

/-- Two turns that look the same to the document. -/
structure Alike (t u : Turn) : Prop where
  doc : u.doc = t.doc
  world : t.env.Looks t.doc.id u.env
  log : u.log = t.log

theorem Alike.refl (t : Turn) : Alike t t := ⟨rfl, .refl _ _, rfl⟩

theorem Alike.symm {t u : Turn} (h : Alike t u) : Alike u t :=
  ⟨h.doc.symm, h.doc ▸ h.world.symm, h.log.symm⟩

theorem Alike.trans {t u v : Turn} (h : Alike t u) (k : Alike u v) : Alike t v :=
  ⟨k.doc.trans h.doc, h.world.trans (h.doc ▸ k.world), k.log.trans h.log⟩

/-- Nobody notices what leaves the world and the history alone. -/
theorem Alike.of_world {d : Document} {e e' : Environment} (h : e.SameWorld e')
    (hhistory : e'.history = e.history) : Alike ⟨d, e⟩ ⟨d, e'⟩ :=
  ⟨rfl, h.looks d.id, congrArg (logOf d.id) hhistory⟩

theorem WriterRests.alike {t u : Turn} (hr : t.WriterRests) (h : Alike t u) :
    u.WriterRests := by
  unfold WriterRests
  rw [h.doc, h.world.now, h.world.session, h.world.stalled, h.world.late]
  exact hr

theorem Rests.alike {t u : Turn} (hr : t.Rests) (h : Alike t u) : u.Rests := by
  unfold Rests
  rw [h.doc, h.world.now, h.world.session, h.world.stalled, h.world.late]
  exact hr

def hear (t : Turn) (m : Move) : Turn := { t with env := t.env.hear m }

theorem Alike.hear {t u : Turn} (h : Alike t u) (m : Move) : Alike (t.hear m) (u.hear m) := by
  refine ⟨h.doc, h.world.hear m, ?_⟩
  have hlog := h.log
  simp only [Turn.log] at hlog ⊢
  simpa only [Turn.hear, Environment.hear_history] using hlog

def setClock (t : Turn) (now : Nat) : Turn := { t with env.now := now }

theorem Alike.setClock {t u : Turn} (h : Alike t u) (now : Nat) :
    Alike (t.setClock now) (u.setClock now) :=
  ⟨h.doc, ⟨rfl, h.world.session, h.world.feature, h.world.resolver, h.world.stalled,
    h.world.late⟩, h.log⟩

theorem Emits.log {t t' : Turn} {es : List Event} (h : Emits t es t') :
    t'.log = t.log ++ es.map (t.env.now, ·) := by
  have hlog := h.logOf t.doc.id
  rwa [if_pos rfl, ← h.id, ← Turn.log, h.id, ← Turn.log] at hlog

/-- No document sees what another one does. -/
theorem Emits.alike {t t' : Turn} {es : List Event} (h : Emits t es t') {d : Document}
    (hne : t.doc.id ≠ d.id) : Alike ⟨d, t.env⟩ ⟨d, t'.env⟩ := by
  refine ⟨rfl, h.world.looks d.id, ?_⟩
  have := h.logOf d.id
  rwa [if_neg hne, List.append_nil] at this

/-- The clock moves on to a time, and stops for the document whenever the document is due. -/
inductive Passes (target : Nat) : Turn → Turn → Prop
  | done {t u : Turn} (h : t.doc.Until (target + 1)) (hu : Alike (t.setClock target) u) :
      Passes target t u
  | stop {t u v : Turn} {due : Nat} (hle : due ≤ target) (huntil : t.doc.Until due)
      (hdue : ¬ t.doc.Until (due + 1)) (hu : Alike (t.setClock due) u)
      (h : Passes target u.progress v) : Passes target t v

theorem Passes.congr {target : Nat} {s t v : Turn} (h : Passes target s v)
    (hs : ∀ now, Alike (t.setClock now) (s.setClock now)) : Passes target t v := by
  have hdoc : s.doc = t.doc := (hs 0).doc
  cases h with
  | done huntil hu => exact .done (hdoc ▸ huntil) ((hs target).trans hu)
  | stop hle huntil hdue hu h =>
    exact .stop hle (hdoc ▸ huntil) (hdoc ▸ hdue) ((hs _).trans hu) h

/-- What a move makes of a document. -/
inductive Reacts (t : Turn) : Move → Turn → Prop
  | act {t' : Turn} {id : DocumentId} (a : DocumentAction) (hid : id = t.doc.id) (h : Alike t t') :
      Reacts t (.act (.document id a)) (t'.perform a).progress
  | rouse {t' : Turn} {i : Client.Incident} (hi : i.rouses = true)
      (h : Alike (t.hear (.act (.shared (.happen i)))) t') :
      Reacts t (.act (.shared (.happen i))) t'.progress
  | advance {u : Turn} (millis : Nat) (h : t.Passes (t.env.now + millis) u) :
      Reacts t (.act (.shared (.advance millis))) u
  | rest {m : Move} {u : Turn} (hm : m.stirs t.doc.id = false) (h : Alike (t.hear m) u) :
      Reacts t m u

theorem Passes.id {target : Nat} {t u : Turn} (h : Passes target t u) : u.doc.id = t.doc.id := by
  induction h with
  | done huntil hu => exact congrArg Document.id hu.doc
  | stop hle huntil hdue hu h ih =>
    exact (ih.trans (goes_progress _).id).trans (congrArg Document.id hu.doc)

theorem Reacts.id {m : Move} {t u : Turn} (h : t.Reacts m u) : u.doc.id = t.doc.id := by
  cases h with
  | @act t' _ a hid hstart =>
    obtain ⟨es, he⟩ := t'.emits_perform a
    exact he.id.trans (congrArg Document.id hstart.doc)
  | rouse hi hstart => exact (goes_progress _).id.trans (congrArg Document.id hstart.doc)
  | advance millis hpasses => exact hpasses.id
  | rest hm hstart => exact congrArg Document.id hstart.doc

/-- What is at rest stays at rest until it is due. -/
theorem Rests.later {t : Turn} (h : t.Rests) {later : Nat} (hu : t.doc.Until (later + 1)) :
    (t.setClock later).Rests :=
  ⟨⟨h.waiting, fun n due hw => hu.settling n due hw, h.idle, h.held, h.refused⟩, h.served,
    fun p hp => hu.timer p hp⟩

end Turn

namespace Client

/-- A document of the client has this turn, as far as it sees. -/
structure Shows (c : Client) (t : Turn) : Prop where
  found : c.find? t.doc.id = some t.doc
  alike : t.Alike ⟨t.doc, c.env⟩

theorem shows_of_find? {c : Client} {id : DocumentId} {d : Document} (h : c.find? id = some d) :
    c.Shows ⟨d, c.env⟩ := by
  obtain ⟨-, rfl⟩ := find?_eq_some h
  exact ⟨h, .refl _⟩

theorem Shows.mem {c : Client} {t : Turn} (h : c.Shows t) : t.doc ∈ c.documents :=
  (find?_eq_some h.found).1

theorem Shows.of_env {c c' : Client} {t : Turn} (h : c.Shows t)
    (hdocuments : c'.documents = c.documents) (hworld : c.env.SameWorld c'.env)
    (hhistory : c'.env.history = c.env.history) : c'.Shows t :=
  ⟨by rw [find?, hdocuments]; exact h.found, h.alike.trans (.of_world hworld hhistory)⟩

theorem find?_eq_none {c : Client} {id : DocumentId} : c.find? id = none ↔ id ∉ c.ids := by
  simp [find?, ids]

theorem Sound.find?_create {c : Client} (h : c.Sound) (uri : Uri) (languageId : String)
    (policy : SyncPolicy) (settings : Settings) (buffer : String) (initialText : Option String) :
    (c.create uri languageId policy settings buffer initialText).find? (c.freshId uri) =
      some { id := c.freshId uri, languageId, policy, settings, buffer, initialText } := by
  have hnone : c.documents.find? (fun d => d.id == c.freshId uri) = none :=
    find?_eq_none.mpr (h.freshId_notMem uri)
  simp [Client.create, find?, hnone]

theorem find?_put (c : Client) (t : Turn) (id : DocumentId) :
    (c.put t).find? id = if id = t.doc.id then (c.find? id).map fun _ => t.doc else c.find? id := by
  unfold put find?
  dsimp only
  induction c.documents with
  | nil => simp
  | cons d ds ih =>
    rw [List.map_cons]
    by_cases hd : d.id = t.doc.id
    · rw [if_pos hd, List.find?_cons, List.find?_cons, hd, ih]
      by_cases hid : id = t.doc.id
      · simp [hid]
      · have hne : (t.doc.id == id) = false := by simpa using Ne.symm hid
        simp [hid, hne]
    · rw [if_neg hd, List.find?_cons, List.find?_cons, ih]
      by_cases hid : d.id = id
      · simp [← hid, hd]
      · have hne : (d.id == id) = false := by simpa using hid
        simp [hne]

theorem shows_put {c : Client} {t : Turn} (h : (c.find? t.doc.id).isSome = true) :
    (c.put t).Shows t := by
  obtain ⟨d, hd⟩ := Option.isSome_iff_exists.mp h
  exact ⟨by rw [find?_put, if_pos rfl, hd]; rfl, .refl t⟩

/-- No document sees the turn of another one. -/
theorem Shows.put {c : Client} {s t u : Turn} {es : List Event} (h : c.Shows s)
    (he : Turn.Emits t es u) (henv : t.env = c.env) (hne : t.doc.id ≠ s.doc.id) :
    (c.put u).Shows s := by
  refine ⟨?_, ?_⟩
  · rw [find?_put, if_neg (he.id ▸ Ne.symm hne)]
    exact h.found
  · have hother := he.alike hne
    rw [henv] at hother
    exact h.alike.trans hother

/-! ## What documents see of a move -/

theorem shows_progressAll (ds : List Document) (env : Environment)
    (hds : (ds.map Document.id).Nodup) {d : Document} (hd : d ∈ ds) :
    ∃ e, Turn.Alike ⟨d, env⟩ ⟨d, e⟩ ∧
      Shows ⟨(progressAll ds env).2, (progressAll ds env).1⟩ (Turn.progress ⟨d, e⟩) := by
  induction ds generalizing env with
  | nil => cases hd
  | cons first rest ih =>
    rw [List.map_cons, List.nodup_cons] at hds
    obtain ⟨es, he, hc⟩ := Turn.goes_progress ⟨first, env⟩
    have hid : (Turn.progress ⟨first, env⟩).doc.id = first.id := hc.sameText.id
    rcases List.mem_cons.mp hd with rfl | hd
    · obtain ⟨hev, hworld, -⟩ := evolves_progressAll rest (Turn.progress ⟨d, env⟩).env hds.2
      refine ⟨env, .refl _, ?_, ?_⟩
      · simp [find?, progressAll]
      · exact ⟨rfl, hworld.looks _, hev.strangers _ (hid ▸ hds.1)⟩
    · have hne : first.id ≠ d.id := fun h => hds.1 (h ▸ List.mem_map_of_mem hd)
      obtain ⟨e, halike, hshows⟩ := ih (Turn.progress ⟨first, env⟩).env hds.2 hd
      refine ⟨e, (he.alike hne).trans halike, ?_, hshows.alike⟩
      have hdid : (Turn.progress ⟨d, e⟩).doc.id = d.id := (Turn.goes_progress ⟨d, e⟩).id
      have hskip :
          ((Turn.progress ⟨first, env⟩).doc.id == (Turn.progress ⟨d, e⟩).doc.id) = false := by
        rw [hid, hdid]
        simpa using hne
      have hfound := hshows.found
      simp only [find?] at hfound ⊢
      rw [progressAll, List.find?_cons, hskip]
      exact hfound

theorem shows_progress {c : Client} (hc : c.ids.Nodup) {t : Turn} (h : c.Shows t) :
    ∃ t', t.Alike t' ∧ c.progress.Shows t'.progress := by
  obtain ⟨e, halike, hshows⟩ := shows_progressAll c.documents c.env hc h.mem
  exact ⟨⟨t.doc, e⟩, h.alike.trans halike, hshows⟩

theorem reacts_document {c : Client} (hc : c.ids.Nodup) (h : c.Rests) {t : Turn} (hs : c.Shows t)
    (id : DocumentId) (a : DocumentAction) :
    ∃ u, t.Reacts (.act (.document id a)) u ∧ (c.move (.act (.document id a))).Shows u := by
  have hrest (hid : id ≠ t.doc.id) : t.Reacts (.act (.document id a)) t :=
    .rest (by simpa [Move.stirs] using hid) (.refl t)
  cases hf : c.find? id with
  | none =>
    have hid : id ≠ t.doc.id := by
      rintro rfl
      rw [hs.found] at hf
      cases hf
    rw [move_of_unknown hf]
    exact ⟨t, hrest hid, hs⟩
  | some d =>
    obtain ⟨hd, rfl⟩ := find?_eq_some hf
    obtain ⟨r, hmove⟩ := move_document hc h hd a
    have hworld : c.env.SameWorld (c.setRegistry r).env := ⟨rfl, rfl, rfl, rfl, rfl, rfl⟩
    obtain ⟨es, he⟩ := Turn.emits_perform ⟨d, (c.setRegistry r).env⟩ a
    rw [hmove]
    by_cases heq : d.id = t.doc.id
    · obtain rfl : d = t.doc := Option.some.inj (hf.symm.trans (heq ▸ hs.found))
      refine ⟨_, .act a rfl (hs.alike.trans (.of_world hworld rfl)), shows_put ?_⟩
      rw [he.id]
      exact Option.isSome_iff_exists.mpr ⟨_, hs.found⟩
    · have hs' : (c.setRegistry r).Shows t := hs.of_env rfl hworld rfl
      exact ⟨t, hrest heq, hs'.put he rfl heq⟩

/-- When the clock is moved on, a document sees it stop where the document is due, and only there. -/
theorem passes_runUntil {c : Client} (hc : c.ids.Nodup) (h : c.Rests) {target : Nat} {fuel : Nat}
    (hfuel : c.waits ≤ fuel) {t : Turn} (hs : c.Shows t) :
    ∃ u, t.Passes target u ∧ (runUntil fuel target c).Shows u := by
  have hstop (c : Client) (hc : c.ids.Nodup) (h : c.Rests) (now : Nat) {t : Turn}
      (hs : c.Shows t) : ∃ t', (t.setClock now).Alike t' ∧
        (c.setClock now).progress.Shows t'.progress ∧
          (t.doc.Until (now + 1) → t'.progress = t') := by
    have hclock : (c.setClock now).Shows (t.setClock now) := ⟨hs.found, hs.alike.setClock now⟩
    obtain ⟨t', halike, hshows⟩ := shows_progress (c := c.setClock now) hc hclock
    have hrest (hu : t.doc.Until (now + 1)) : t'.Rests :=
      ((h t.doc hs.mem).later hu).alike ((hs.alike.setClock now).symm.trans halike)
    exact ⟨t', halike, hshows, fun hu => Turn.progress_of_rests (hrest hu)⟩
  have hlast (c : Client) (hc : c.ids.Nodup) (h : c.Rests) {t : Turn} (hs : c.Shows t)
      (hnone : c.nextDue? target = none) :
      ∃ u, t.Passes target u ∧ (c.setClock target).progress.Shows u := by
    obtain ⟨t', halike, hshows, hidle⟩ := hstop c hc h target hs
    have hu := until_of_nextDue_eq_none hnone t.doc hs.mem
    exact ⟨t', .done hu halike, hidle hu ▸ hshows⟩
  induction fuel generalizing c t with
  | zero => exact hlast c hc h hs (nextDue_of_waits_eq_zero h (Nat.le_zero.mp hfuel) target)
  | succ fuel ih =>
    unfold runUntil
    cases hdue : c.nextDue? target with
    | none => exact hlast c hc h hs hdue
    | some due =>
      dsimp only
      obtain ⟨t', halike, hshows, hidle⟩ := hstop c hc h due hs
      obtain ⟨huntil, hnot⟩ := until_nextDue hdue
      have hids : (c.setClock due).progress.ids.Nodup := by
        rw [(evolves_progress (c := c.setClock due) hc).ids]
        exact hc
      have hwaits : (c.setClock due).progress.waits < c.waits :=
        (waits_progressAll c.documents (c.setClock due).env c.env.now h).2 hnot
      obtain ⟨u, hpasses, hu⟩ := ih hids (rests_progress (c := c.setClock due) hc) (by omega) hshows
      refine ⟨u, ?_, hu⟩
      by_cases hd : t.doc.Until (due + 1)
      · rw [hidle hd] at hpasses
        exact hpasses.congr fun now => halike.setClock now
      · exact .stop (h.lt_nextDue hdue).2 (huntil t.doc hs.mem) hd halike hpasses

theorem Sound.reacts {c : Client} (h : c.Sound) {t : Turn} (hs : c.Shows t) (m : Move) :
    ∃ u, t.Reacts m u ∧ (c.move m).Shows u := by
  have hkeep (m : Move) (hm : m.stirs t.doc.id = false) (hhear : t.hear m = t)
      (hdocuments : (c.move m).documents = c.documents) (hworld : c.env.SameWorld (c.move m).env)
      (hhistory : (c.move m).env.history = c.env.history) :
      ∃ u, t.Reacts m u ∧ (c.move m).Shows u :=
    ⟨t, .rest hm (hhear.symm ▸ .refl t), hs.of_env hdocuments hworld hhistory⟩
  have hheard (m : Move) (hm : m.stirs t.doc.id = false)
      (hmove : c.move m = { c with env := c.env.hear m }) :
      ∃ u, t.Reacts m u ∧ (c.move m).Shows u :=
    ⟨t.hear m, .rest hm (.refl _), hmove ▸ ⟨hs.found, hs.alike.hear m⟩⟩
  rcases m with ⟨uri, languageId, policy, settings, buffer, initialText⟩ | ⟨id, a⟩ | a
  · refine ⟨t, .rest rfl (.refl t), ?_, hs.alike⟩
    have hfound : c.documents.find? (fun d => d.id == t.doc.id) = some t.doc := hs.found
    simp only [Client.move, create, find?, List.find?_append, hfound, Option.some_or]
  · exact reacts_document h.distinct h.rests hs id a
  · cases a with
    | happen i =>
      by_cases hi : i.rouses = true
      · obtain ⟨t', halike, hshows⟩ := shows_progress (c := { c with env := i.occur c.env })
          h.distinct (t := t.hear (.act (.shared (.happen i)))) ⟨hs.found, hs.alike.hear _⟩
        have hmove : c.move (.act (.shared (.happen i))) =
            { c with env := i.occur c.env }.progress := (c.happen_eq i).trans (if_pos hi)
        exact ⟨_, .rouse hi halike, hmove ▸ hshows⟩
      · exact hheard _ (by simpa [Move.stirs] using hi) ((c.happen_eq i).trans (if_neg hi))
    | advance millis =>
      have hnow : c.env.now = t.env.now := hs.alike.world.now
      obtain ⟨u, hpasses, hu⟩ : ∃ u, t.Passes (t.env.now + millis) u ∧
          (c.advance millis).Shows u :=
        hnow ▸ passes_runUntil h.distinct h.rests (waits_le h.calm) hs
      exact ⟨u, .advance millis hpasses, hu⟩
    | respond uri nth answer =>
      have hrespond : c.move (.act (.shared (.respond uri nth answer))) = _ :=
        respond_eq h.distinct h.rests uri nth answer
      split at hrespond
      · exact hkeep _ rfl rfl (by rw [hrespond]) (by rw [hrespond]; exact .refl _)
          (by rw [hrespond])
      · exact hkeep _ rfl rfl (by rw [hrespond])
          (by rw [hrespond]; exact ⟨rfl, rfl, rfl, rfl, rfl, rfl⟩) (by rw [hrespond])
    | update uri identifier items => exact hkeep _ rfl rfl rfl ⟨rfl, rfl, rfl, rfl, rfl, rfl⟩ rfl
    | markDisplayed uri => exact hkeep _ rfl rfl rfl ⟨rfl, rfl, rfl, rfl, rfl, rfl⟩ rfl
    | clear uri => exact hkeep _ rfl rfl rfl ⟨rfl, rfl, rfl, rfl, rfl, rfl⟩ rfl
    | poll budget => exact hkeep _ rfl rfl rfl ⟨rfl, rfl, rfl, rfl, rfl, rfl⟩ rfl

theorem world_runUntil {c : Client} (hc : c.ids.Nodup) (fuel target : Nat) :
    (c.setClock target).env.SameWorld (runUntil fuel target c).env := by
  induction fuel generalizing c with
  | zero => exact progress_world (c := c.setClock target) hc
  | succ fuel ih =>
    unfold runUntil
    cases hdue : c.nextDue? target with
    | none => exact progress_world (c := c.setClock target) hc
    | some due =>
      have hworld := progress_world (c := c.setClock due) hc
      have hlater := ih (c := (c.setClock due).progress)
        (by rw [(evolves_progress (c := c.setClock due) hc).ids]; exact hc)
      have hclock : (c.setClock target).env.SameWorld
          ((c.setClock due).progress.setClock target).env :=
        ⟨rfl, hworld.session, hworld.feature, hworld.resolver, hworld.stalled, hworld.late⟩
      exact hclock.trans hlater

/-- What all documents see of a move is all that it does to the world. -/
theorem Sound.world {c : Client} (h : c.Sound) (m : Move) :
    (c.env.hear m).SameWorld (c.move m).env := by
  rcases m with ⟨uri, languageId, policy, settings, buffer, initialText⟩ | ⟨id, a⟩ | a
  · exact .refl _
  · exact world_document h.distinct h.rests id a
  · cases a with
    | happen i =>
      have hmove : c.move (.act (.shared (.happen i))) = _ := c.happen_eq i
      rw [hmove]
      split
      · exact progress_world (c := { c with env := i.occur c.env }) h.distinct
      · exact .refl _
    | advance millis => exact world_runUntil h.distinct _ _
    | respond uri nth answer =>
      have hrespond : c.move (.act (.shared (.respond uri nth answer))) = _ :=
        respond_eq h.distinct h.rests uri nth answer
      rw [hrespond]
      split
      · exact .refl _
      · exact ⟨rfl, rfl, rfl, rfl, rfl, rfl⟩
    | _ => exact ⟨rfl, rfl, rfl, rfl, rfl, rfl⟩

end Client

end DocSync
