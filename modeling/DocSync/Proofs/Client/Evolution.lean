import DocSync.Proofs.Client.Clock
import Mathlib.Data.List.Nodup
import Mathlib.Algebra.GroupWithZero.Nat

/-!
# How a client evolves

A move of a client is the call of one document, or the creation of one, and after it all documents
go on by themselves, each by a course of its own. The events of these courses are all that joins the
logs. A run is a list of moves from a client without documents; whatever holds of a new document
and is preserved by every call, by every step and by the passing of time holds of each document of a
run.
-/
namespace DocSync

open Document (Course Step Call)

/-- The events of one document in a history. -/
def logOf (id : DocumentId) (history : List Entry) : Log :=
  history.filterMap fun x => if x.document = id then some (x.time, x.event) else none

theorem logOf_append (id : DocumentId) (h k : List Entry) :
    logOf id (h ++ k) = logOf id h ++ logOf id k := List.filterMap_append

theorem logOf_entries (id other : DocumentId) (now : Nat) (es : List Event) :
    logOf id (es.map fun e => ⟨now, other, e⟩) = if other = id then es.map (now, ·) else [] := by
  by_cases h : other = id <;> simp [logOf, h, List.filterMap_map]

/-- A document that was created and not touched since. -/
def Document.IsNew (d : Document) : Prop :=
  d = { id := d.id, languageId := d.languageId, policy := d.policy, settings := d.settings,
        buffer := d.buffer, initialText := d.initialText }

namespace Client

def ids (c : Client) : List DocumentId := c.documents.map Document.id

def log (c : Client) (id : DocumentId) : Log := logOf id c.env.history

theorem mem_ids {c : Client} {d : Document} (h : d ∈ c.documents) : d.id ∈ c.ids :=
  List.mem_map_of_mem h

theorem eq_of_id {c : Client} (hc : c.ids.Nodup) {d e : Document} (hd : d ∈ c.documents)
    (he : e ∈ c.documents) (h : d.id = e.id) : d = e :=
  List.inj_on_of_nodup_map hc hd he h

theorem find?_eq_some {c : Client} {id : DocumentId} {d : Document} (h : c.find? id = some d) :
    d ∈ c.documents ∧ d.id = id :=
  ⟨List.mem_of_find?_eq_some h, by simpa using List.find?_some h⟩

theorem find?_of_mem {c : Client} (hc : c.ids.Nodup) {d : Document} (h : d ∈ c.documents) :
    c.find? d.id = some d := by
  cases hf : c.find? d.id with
  | none => exact absurd (List.find?_eq_none.mp hf d h) (by simp)
  | some e =>
    obtain ⟨he, hid⟩ := find?_eq_some hf
    rw [eq_of_id hc he h hid]

/-! ## Evolution -/

/-- Every document of the first client went on by a course, while pulls were supported or not, and
nothing else was logged. -/
structure Evolves (supported : Bool) (c c' : Client) : Prop where
  ids : c'.ids = c.ids
  time : c.env.now ≤ c'.env.now
  course : ∀ d ∈ c.documents, ∃ d' ∈ c'.documents, ∃ l,
    Course supported c.env.now d l c'.env.now d' ∧ c'.log d.id = c.log d.id ++ l
  strangers : ∀ id ∉ c.ids, c'.log id = c.log id
  history : ∃ entries, c'.env.history = c.env.history ++ entries

namespace Evolves

variable {supported : Bool}

theorem same {c c' : Client} (hd : c'.documents = c.documents) (hn : c'.env.now = c.env.now)
    (hh : c'.env.history = c.env.history) : Evolves supported c c' where
  ids := by simp [Client.ids, hd]
  time := hn ▸ Nat.le_refl _
  course d h := ⟨d, hd ▸ h, [], hn ▸ .refl _ d, by simp [log, hh]⟩
  strangers _ _ := by simp [log, hh]
  history := ⟨[], by simp [hh]⟩

theorem refl (c : Client) : Evolves supported c c := same rfl rfl rfl

theorem trans {a b c : Client} (h : Evolves supported a b) (k : Evolves supported b c) :
    Evolves supported a c where
  ids := k.ids.trans h.ids
  time := Nat.le_trans h.time k.time
  course d hd := by
    obtain ⟨d', hd', l, hc, hl⟩ := h.course d hd
    obtain ⟨d'', hd'', l', hc', hl'⟩ := k.course d' hd'
    refine ⟨d'', hd'', l ++ l', hc.trans hc', ?_⟩
    rw [hc.sameText.id] at hl'
    rw [hl', hl, List.append_assoc]
  strangers id hid := by
    rw [k.strangers id (h.ids ▸ hid), h.strangers id hid]
  history := by
    obtain ⟨es, hes⟩ := h.history
    obtain ⟨fs, hfs⟩ := k.history
    exact ⟨es ++ fs, by rw [hfs, hes, List.append_assoc]⟩

theorem source {c c' : Client} (h : Evolves supported c c') (hc : c.ids.Nodup) {d' : Document}
    (hd' : d' ∈ c'.documents) : ∃ d ∈ c.documents, ∃ l,
      Course supported c.env.now d l c'.env.now d' ∧ c'.log d.id = c.log d.id ++ l := by
  have hid : d'.id ∈ c.ids := h.ids ▸ mem_ids hd'
  obtain ⟨d, hd, heq⟩ := List.mem_map.mp hid
  obtain ⟨e, he, l, hcourse, hl⟩ := h.course d hd
  have hsame : e = d' := eq_of_id (h.ids ▸ hc) he hd' (hcourse.sameText.id.trans heq)
  exact ⟨d, hd, l, hsame ▸ hcourse, hl⟩

end Evolves

/-- Nothing is left to do without the other side or the clock moving. -/
def Rests (c : Client) : Prop := ∀ d ∈ c.documents, Turn.Rests ⟨d, c.env⟩

@[simp] theorem put_ids (c : Client) (t : Turn) : (c.put t).ids = c.ids := by
  simp only [ids, put, List.map_map]
  apply List.map_congr_left
  intro d _
  by_cases h : d.id = t.doc.id <;> simp [h]

theorem mem_put {c : Client} {t : Turn} {d : Document} (h : d ∈ (c.put t).documents) :
    d = t.doc ∨ d ∈ c.documents ∧ d.id ≠ t.doc.id := by
  obtain ⟨e, he, rfl⟩ := List.mem_map.mp h
  by_cases hid : e.id = t.doc.id
  · exact .inl (if_pos hid)
  · rw [if_neg hid]
    exact .inr ⟨he, hid⟩

theorem put_of_mem {c : Client} {t : Turn} {d : Document} (h : d ∈ c.documents)
    (hid : d.id = t.doc.id) : t.doc ∈ (c.put t).documents :=
  List.mem_map.mpr ⟨d, h, if_pos hid⟩

theorem put_of_ne {c : Client} {t : Turn} {d : Document} (h : d ∈ c.documents)
    (hid : d.id ≠ t.doc.id) : d ∈ (c.put t).documents :=
  List.mem_map.mpr ⟨d, h, if_neg hid⟩

theorem put_self {c : Client} (hc : c.ids.Nodup) {d : Document} (hd : d ∈ c.documents) :
    c.put ⟨d, c.env⟩ = c := by
  have hdocs : (c.put ⟨d, c.env⟩).documents = c.documents := by
    have h : ∀ e ∈ c.documents, (if e.id = d.id then d else e) = id e := by
      intro e he
      by_cases hid : e.id = d.id
      · rw [if_pos hid, eq_of_id hc he hd hid]
        rfl
      · exact if_neg hid
    exact (List.map_congr_left h).trans (List.map_id _)
  exact congrArg (Client.mk c.env) hdocs

end Client

theorem Turn.Emits.logOf {t t' : Turn} {es : List Event} (h : t.Emits es t') (id : DocumentId) :
    logOf id t'.env.history =
      DocSync.logOf id t.env.history ++ if t.doc.id = id then es.map (t.env.now, ·) else [] := by
  rw [h.history, logOf_append, logOf_entries]

namespace Client

theorem evolves_put {c : Client} {d d' : Document} {t : Turn} (hd : d ∈ c.documents)
    (hid : d'.id = d.id) (h : Turn.Goes ⟨d', c.env⟩ t) :
    Evolves c.env.feature.supported (c.put ⟨d', c.env⟩) (c.put t) := by
  obtain ⟨es, he, hc⟩ := h
  have hnow : t.env.now = c.env.now := he.world.now
  have hdoc : t.doc.id = d'.id := hc.sameText.id
  refine ⟨by rw [put_ids, put_ids], Nat.le_of_eq hnow.symm, ?_, ?_, ⟨_, he.history⟩⟩
  · intro e hmem
    rcases mem_put hmem with heq | ⟨hmem, hne⟩
    · obtain rfl : e = d' := heq
      refine ⟨t.doc, put_of_mem hd (hid.symm.trans hdoc.symm), es.map (c.env.now, ·), ?_, ?_⟩
      · exact hnow.symm ▸ hc
      · simpa [log, put] using he.logOf e.id
    · have hne' : e.id ≠ t.doc.id := fun h => hne (h.trans hdoc)
      refine ⟨e, put_of_ne hmem hne', [], ?_, ?_⟩
      · exact hnow.symm ▸ .refl _ e
      · have := he.logOf e.id
        simpa [log, put, Ne.symm hne] using this
  · intro id hstranger
    have hne : d'.id ≠ id := by
      rintro rfl
      rw [put_ids] at hstranger
      exact hstranger (hid ▸ mem_ids hd)
    simpa [log, put, hne] using he.logOf id

theorem rests_put {c : Client} (h : c.Rests) {t : Turn} (ht : t.Rests)
    (hworld : c.env.SameWorld t.env) : (c.put t).Rests := by
  intro d hd
  rcases mem_put hd with rfl | ⟨hd, -⟩
  · exact ht
  · exact (h d hd).world hworld

/-! ## Time -/

theorem evolves_progressAll (ds : List Document) (env : Environment)
    (hds : (ds.map Document.id).Nodup) :
    Evolves env.feature.supported ⟨env, ds⟩ ⟨(progressAll ds env).2, (progressAll ds env).1⟩ ∧
      env.SameWorld (progressAll ds env).2 ∧
      Rests ⟨(progressAll ds env).2, (progressAll ds env).1⟩ := by
  induction ds generalizing env with
  | nil => exact ⟨.refl _, .refl _, by simp [Rests, progressAll]⟩
  | cons d rest ih =>
    rw [List.map_cons, List.nodup_cons] at hds
    obtain ⟨es, he, hc⟩ := Turn.goes_progress ⟨d, env⟩
    have hrest := Turn.progress_rests ⟨d, env⟩
    generalize ht : Turn.progress ⟨d, env⟩ = t at he hc hrest
    have hnow : t.env.now = env.now := he.world.now
    obtain ⟨hev, hworld, hr⟩ := ih t.env hds.2
    have hsupported : t.env.feature.supported = env.feature.supported := by
      rw [he.world.feature]
    rw [hsupported] at hev
    have hn := (he.world.trans hworld).now
    have heq : progressAll (d :: rest) env =
        (t.doc :: (progressAll rest t.env).1, (progressAll rest t.env).2) := by
      rw [progressAll, ht]
    rw [heq]
    have htid : t.doc.id = d.id := he.id
    refine ⟨⟨?_, ?_, ?_, ?_, ?_⟩, he.world.trans hworld, ?_⟩
    · have := hev.ids
      simp only [ids, List.map_cons] at this ⊢
      rw [this, htid]
    · exact Nat.le_of_eq hn.symm
    · intro e hmem
      rcases List.mem_cons.mp hmem with rfl | hmem
      · refine ⟨t.doc, List.mem_cons_self, es.map (env.now, ·), ?_, ?_⟩
        · exact hn.symm ▸ hc
        · exact (hev.strangers e.id hds.1).trans (by simpa [log] using he.logOf e.id)
      · obtain ⟨e', he', l, hcourse, hl⟩ := hev.course e hmem
        have hne : d.id ≠ e.id := fun h => hds.1 (h ▸ List.mem_map_of_mem hmem)
        refine ⟨e', List.mem_cons_of_mem _ he', l, hnow ▸ hcourse, hl.trans ?_⟩
        have := he.logOf e.id
        rw [if_neg hne, List.append_nil] at this
        exact congrArg (· ++ l) this
    · intro id hid
      simp only [ids, List.map_cons, List.mem_cons, not_or] at hid
      refine (hev.strangers id hid.2).trans ?_
      have := he.logOf id
      rwa [if_neg (Ne.symm hid.1), List.append_nil] at this
    · obtain ⟨entries, hentries⟩ := hev.history
      have hhistory : (progressAll rest t.env).2.history = t.env.history ++ entries := hentries
      exact ⟨_, by rw [hhistory, he.history, List.append_assoc]⟩
    · intro e hmem
      rcases List.mem_cons.mp hmem with rfl | hmem
      · exact hrest.world hworld
      · exact hr e hmem

theorem evolves_progress {c : Client} (hc : c.ids.Nodup) :
    Evolves c.env.feature.supported c c.progress :=
  (evolves_progressAll c.documents c.env hc).1

theorem rests_progress {c : Client} (hc : c.ids.Nodup) : c.progress.Rests :=
  (evolves_progressAll c.documents c.env hc).2.2

theorem progress_world {c : Client} (hc : c.ids.Nodup) : c.env.SameWorld c.progress.env :=
  (evolves_progressAll c.documents c.env hc).2.1

theorem evolves_setClock {supported : Bool} (c : Client) {now : Nat} (h : c.env.now ≤ now)
    (hd : ∀ d ∈ c.documents, d.Until now) : Evolves supported c (c.setClock now) :=
  ⟨rfl, h, fun d hmem => ⟨d, hmem, [], (Course.refl _ d).wait h (hd d hmem),
    (List.append_nil _).symm⟩, fun _ _ => rfl, ⟨[], (List.append_nil _).symm⟩⟩

/-- How many times the documents of a client wait for at most. -/
def waits (c : Client) : Nat := (c.documents.map Document.waits).sum

theorem waits_progressAll (ds : List Document) (env : Environment) (before : Nat)
    (hds : ∀ d ∈ ds, Turn.Rests ⟨d, { env with now := before }⟩) :
    ((progressAll ds env).1.map Document.waits).sum ≤ (ds.map Document.waits).sum ∧
      ((∃ d ∈ ds, ¬ d.Until (env.now + 1)) →
        ((progressAll ds env).1.map Document.waits).sum < (ds.map Document.waits).sum) := by
  induction ds generalizing env with
  | nil => simp [progressAll]
  | cons d rest ih =>
    obtain ⟨hle, hlt⟩ := Turn.progress_waits (t := ⟨d, env⟩) (hds d List.mem_cons_self)
    have hworld := (Turn.goes_progress ⟨d, env⟩).world
    obtain ⟨hrest, hdue⟩ := ih (Turn.progress ⟨d, env⟩).env fun e he =>
      (hds e (List.mem_cons_of_mem d he)).world
        ⟨rfl, hworld.session, hworld.feature, hworld.resolver, hworld.stalled, hworld.late⟩
    rw [hworld.now] at hdue
    simp only [progressAll, List.map_cons, List.sum_cons]
    refine ⟨Nat.add_le_add hle hrest, ?_⟩
    rintro ⟨e, he, hnot⟩
    rcases List.mem_cons.mp he with rfl | he
    · exact Nat.add_lt_add_of_lt_of_le (hlt hnot) hrest
    · exact Nat.add_lt_add_of_le_of_lt hle (hdue ⟨e, he, hnot⟩)

theorem Rests.lt_nextDue {c : Client} (h : c.Rests) {limit due : Nat}
    (hdue : c.nextDue? limit = some due) : c.env.now < due ∧ due ≤ limit := by
  have hmem := List.min?_mem hdue
  obtain ⟨hmem, hle⟩ := List.mem_filter.mp hmem
  obtain ⟨d, hd, htime⟩ := List.mem_flatMap.mp hmem
  refine ⟨?_, by simpa using hle⟩
  have hrest := h d hd
  unfold dueTimes at htime
  rcases List.mem_append.mp htime with htime | htime
  · split at htime
    · rename_i n due' hw
      obtain rfl : due = due' := by simpa using htime
      exact hrest.settling n due hw
    · simp at htime
  · obtain ⟨p, hp, rfl⟩ : ∃ p, d.timer = some p ∧ p.due = due := by simpa using htime
    exact hrest.timer p hp

/-- The clock stops before it passes a time that some document waits for. -/
theorem until_nextDue {c : Client} {limit due : Nat} (hdue : c.nextDue? limit = some due) :
    (∀ d ∈ c.documents, d.Until due) ∧ ∃ d ∈ c.documents, ¬ d.Until (due + 1) := by
  obtain ⟨hmem, hmin⟩ := List.min?_eq_some_iff.mp hdue
  obtain ⟨hmem, hle⟩ := List.mem_filter.mp hmem
  obtain ⟨d, hd, htime⟩ := List.mem_flatMap.mp hmem
  refine ⟨fun e he => Document.until_iff.mpr fun due' hdue' => ?_, d, hd, fun hnot => ?_⟩
  · by_cases hlimit : due' ≤ limit
    · exact hmin due' (List.mem_filter.mpr
        ⟨List.mem_flatMap.mpr ⟨e, he, hdue'⟩, by simpa using hlimit⟩)
    · have : due ≤ limit := by simpa using hle
      omega
  · have := Document.until_iff.mp hnot due htime
    omega

theorem until_of_nextDue_eq_none {c : Client} {limit : Nat} (hdue : c.nextDue? limit = none) :
    ∀ d ∈ c.documents, d.Until (limit + 1) := by
  intro d hd
  refine Document.until_iff.mpr fun due htime => ?_
  have hnil := List.min?_eq_none_iff.mp hdue
  have hnot := List.filter_eq_nil_iff.mp hnil due (List.mem_flatMap.mpr ⟨d, hd, htime⟩)
  have : ¬ due ≤ limit := by simpa using hnot
  omega

/-- A client that waits for nothing has no time to stop at. -/
theorem nextDue_of_waits_eq_zero {c : Client} (h : c.Rests) (hwaits : c.waits = 0) (limit : Nat) :
    c.nextDue? limit = none := by
  cases hdue : c.nextDue? limit with
  | none => rfl
  | some due =>
    have hless := (waits_progressAll c.documents (c.setClock due).env c.env.now h).2
      (until_nextDue hdue).2
    have hsum : (c.documents.map Document.waits).sum = 0 := hwaits
    omega

theorem evolves_lastStop {c : Client} (hc : c.ids.Nodup) {target : Nat} (ht : c.env.now ≤ target)
    (hnone : c.nextDue? target = none) :
    Evolves c.env.feature.supported c (c.setClock target).progress ∧
      (c.setClock target).progress.Rests :=
  have hc' : (c.setClock target).ids.Nodup := hc
  ⟨(c.evolves_setClock ht fun d hd => (until_of_nextDue_eq_none hnone d hd).mono
    (Nat.le_succ target)).trans (evolves_progress hc'), rests_progress hc'⟩

/-- The fuel is used up by the times that documents wait for, so the clock stops at all of them. -/
theorem evolves_runUntil {c : Client} (hc : c.ids.Nodup) (h : c.Rests) {target : Nat}
    (ht : c.env.now ≤ target) {fuel : Nat} (hfuel : c.waits ≤ fuel) :
    Evolves c.env.feature.supported c (runUntil fuel target c) ∧
      (runUntil fuel target c).Rests := by
  induction fuel generalizing c with
  | zero =>
    exact evolves_lastStop hc ht (nextDue_of_waits_eq_zero h (Nat.le_zero.mp hfuel) target)
  | succ fuel ih =>
    unfold runUntil
    cases hdue : c.nextDue? target with
    | none => exact evolves_lastStop hc ht hdue
    | some due =>
      dsimp only
      obtain ⟨hlt, hle⟩ := h.lt_nextDue hdue
      obtain ⟨huntil, hnot⟩ := until_nextDue hdue
      have hc' : (c.setClock due).ids.Nodup := hc
      have hev : Evolves c.env.feature.supported c (c.setClock due).progress :=
        (c.evolves_setClock (Nat.le_of_lt hlt) huntil).trans (evolves_progress hc')
      have hworld : (c.setClock due).env.SameWorld (c.setClock due).progress.env :=
        progress_world hc'
      have hids : (c.setClock due).progress.ids.Nodup := by rwa [hev.ids]
      have hwaits : (c.setClock due).progress.waits < c.waits :=
        (waits_progressAll c.documents (c.setClock due).env c.env.now h).2 hnot
      obtain ⟨hev', hr⟩ := ih hids (rests_progress hc') (by rw [hworld.now]; exact hle) (by omega)
      rw [hworld.feature] at hev'
      exact ⟨hev.trans hev', hr⟩

end Client

end DocSync
