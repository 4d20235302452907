import DocSync.Proofs.Client.View
import DocSync.Proofs.Document.Transport

/-!
# Turns side by side

Two turns that look the same to their document stay so whatever it does, as long as its
notifications meet the same. What the link holds in store for other documents, answers and open
requests, and what the registry holds, make no difference. Wherever the one takes a stride the other
takes one like it, so both come to rest alike.
-/
namespace DocSync

namespace Document

/-- All diagnostics are pulled with the same request. -/
def Requests (request : DiagnosticRequest) (es : List Event) : Prop :=
  ∀ cause v r, Event.pulled cause v r ∈ es → r = request

variable {d : Document} {request : DiagnosticRequest} {pulls pulls' : List Event}

theorem Requests.mono {es fs : List Event} (h : Requests request fs) (hsub : es ⊆ fs) :
    Requests request es :=
  fun cause v r hr => h cause v r (hsub hr)

theorem Asks.unique {cause : PullCause} {v : PullVersion} (h : Asks d cause v pulls)
    (k : Asks d cause v pulls') (hr : Requests request pulls) (kr : Requests request pulls') :
    pulls' = pulls := by
  cases h with
  | ask r hv =>
    cases k with
    | ask r' kv => rw [hr cause v r (by simp), kr cause v r' (by simp)]
    | skip kv => simp [hv] at kv
  | skip hv =>
    cases k with
    | ask r' kv => simp [hv] at kv
    | skip kv => rfl

theorem Attends.unique {now : Nat} {supported : Bool} {sent : Option Version}
    {timer timer' : Option PullTimer} (h : Attends now supported d sent timer pulls)
    (k : Attends now supported d sent timer' pulls') (hr : Requests request pulls)
    (kr : Requests request pulls') : timer' = timer ∧ pulls' = pulls := by
  cases h with
  | unsent => cases k with | unsent => exact ⟨rfl, rfl⟩
  | ignore v hm => cases k <;> simp_all
  | pull hm hh hp =>
    cases k with
    | pull _ _ kp => exact ⟨rfl, hp.unique kp hr kr⟩
    | _ => simp_all
  | delay v hm hh => cases k <;> simp_all

end Document

namespace Turn

open Client (Move)
open Document (Requests)
open Relation (ReflTransGen)

/-- What the notifications of the document meet is as the transport has it. -/
def Meets (f : Transport) (t : Turn) : Prop := Begins (f t.doc.id) (t.doc.met t.log)

theorem Meets.of_met {f : Transport} {t u : Turn} (h : u.Meets f) (hid : u.doc.id = t.doc.id)
    (hmet : t.doc.met t.log <+: u.doc.met u.log) : t.Meets f := by
  unfold Meets at h ⊢
  rw [hid] at h
  exact h.of_prefix hmet

theorem Goes.met {t u : Turn} (h : Goes t u) : t.doc.met t.log <+: u.doc.met u.log := by
  obtain ⟨es, he, hc⟩ := h
  rw [he.log]
  exact hc.met t.log

theorem Meets.of_goes {f : Transport} {t u : Turn} (h : u.Meets f) (hg : Goes t u) : t.Meets f :=
  h.of_met hg.id hg.met

theorem Emits.requests {t u : Turn} {es : List Event} (h : Emits t es u) :
    Requests ⟨t.doc.uri, t.env.feature.identifier⟩ es := by
  induction h with
  | document t d hid => simp [Requests]
  | note t he =>
    intro cause v r hr
    obtain rfl := List.mem_singleton.mp hr
    cases he
  | hand t n => simp [Requests]
  | request t cause hv => simp [Requests]
  | trans h k ih ih' =>
    intro cause v r hr
    rcases List.mem_append.mp hr with hr | hr
    · exact ih cause v r hr
    · rw [ih' cause v r hr, h.world.feature, Document.uri, h.id, Document.uri]

variable {f : Transport} {t u : Turn}

/-! ## Events in step -/

/-- Turns that look the same still do after the same events, with the same document. -/
theorem Alike.of_emits {t' u' : Turn} {es : List Event} (h : Alike t u) (ht : Emits t es t')
    (hu : Emits u es u') (hdoc : u'.doc = t'.doc) : Alike t' u' := by
  have hworld := ((ht.world.looks t.doc.id).symm.trans h.world).trans (hu.world.looks t.doc.id)
  refine ⟨hdoc, ht.id ▸ hworld, ?_⟩
  rw [ht.log, hu.log, h.log, h.world.now]

theorem Alike.edit (h : Alike t u) {d : Document} (hid : d.id = t.doc.id) :
    Alike ⟨d, t.env⟩ ⟨d, u.env⟩ :=
  h.of_emits (.document t d hid) (.document u d (hid.trans (congrArg Document.id h.doc).symm)) rfl

theorem Alike.requests (h : Alike t u) {u' : Turn} {es : List Event} (hu : Emits u es u') :
    Requests ⟨t.doc.uri, t.env.feature.identifier⟩ es := by
  have hr := hu.requests
  rwa [h.doc, h.world.feature] at hr

theorem Alike.pull (h : Alike t u) (cause : PullCause) (v : PullVersion) :
    Alike (t.pull cause v) (u.pull cause v) := by
  obtain ⟨pulls, he, hp⟩ := t.pull_spec cause v
  obtain ⟨pulls', he', hp'⟩ := u.pull_spec cause v
  rw [h.doc] at hp'
  obtain rfl := hp.unique hp' he.requests (h.requests he')
  exact h.of_emits he he' (by rw [pull_doc, pull_doc, h.doc])

theorem Alike.refresh (h : Alike t u) (origin : RefreshOrigin) :
    Alike (t.refresh origin) (u.refresh origin) := by
  obtain ⟨hdoc, he⟩ := t.refresh_spec origin
  obtain ⟨hdoc', he'⟩ := u.refresh_spec origin
  rw [h.doc, h.world.feature] at hdoc' he'
  exact h.of_emits he he' (hdoc'.trans hdoc.symm)

/-- What is handed over by turns that look the same meets the same. -/
theorem Alike.hand (h : Alike t u) (n : Notification)
    (w : Document → Option SessionError → Document) (hid : ∀ d fault, (w d fault).id = d.id)
    (hfate : ∀ d fault, Document.Writer.fate (w d fault).writer = [fault])
    (ht : Meets f { (t.hand n).1 with doc := w t.doc (t.hand n).2 })
    (hu : Meets f { (u.hand n).1 with doc := w u.doc (u.hand n).2 }) :
    Alike { (t.hand n).1 with doc := w t.doc (t.hand n).2 }
      { (u.hand n).1 with doc := w u.doc (u.hand n).2 } := by
  have he := (Emits.hand t n).edit (hid t.doc (t.hand n).2)
  have he' := (Emits.hand u n).edit (hid u.doc (u.hand n).2)
  have hlogs := he'.log
  rw [h.log, h.world.now, ← he.log] at hlogs
  have hfault : (u.hand n).2 = (t.hand n).2 := by
    unfold Meets Document.met at ht hu
    rw [hfate, hid] at ht
    rw [hlogs, hfate, hid, h.doc] at hu
    exact hu.last_eq ht
  exact h.of_emits he he' (by rw [hfault, h.doc])

/-! ## Strides in step -/

theorem Writes.alike {t' : Turn} (hs : Writes t t') (h : Alike t u) :
    ∃ u', Writes u u' ∧ (t'.Meets f → u'.Meets f → Alike t' u') := by
  have hstate : u.env.session.state = t.env.session.state := congrArg Session.state h.world.session
  cases hs with
  | refuse hw hk =>
    refine ⟨_, .refuse (h.doc ▸ hw) (hstate.trans hk), fun _ _ => ?_⟩
    exact h.of_emits (t.emits_lose _) (u.emits_lose _) (congrArg (Document.lose · _) h.doc)
  | greet hw hk =>
    refine ⟨_, .greet (h.doc ▸ hw) (hstate.trans hk), fun ht hu => ?_⟩
    exact h.hand _ (fun d fault => { d with writer := .greeting _ fault }) (fun _ _ => rfl)
      (fun _ _ => rfl) ht hu
  | fail hw hl =>
    refine ⟨_, .fail (h.doc ▸ hw) (h.world.stalled.trans hl), fun _ _ => ?_⟩
    exact h.of_emits ((Emits.note t rfl).trans (emits_lose _ _))
      ((Emits.note u rfl).trans (emits_lose _ _)) (congrArg (Document.lose · _) h.doc)
  | settle hw hl =>
    refine ⟨_, .settle (h.doc ▸ hw) (h.world.stalled.trans hl), fun _ _ => ?_⟩
    refine h.of_emits ((Emits.note t rfl).edit rfl) ((Emits.note u rfl).edit rfl) ?_
    simp [note, h.doc, h.world.now]
  | join hw hk =>
    refine ⟨_, .join (h.doc ▸ hw) (hstate.trans hk), fun _ _ => ?_⟩
    rw [join_eq, join_eq]
    exact h.of_emits t.emits_announce u.emits_announce (congrArg Document.establish h.doc)
  | @establish n due hw hdue =>
    refine ⟨_, .establish (h.doc ▸ hw) (h.world.now ▸ hdue), fun _ _ => ?_⟩
    obtain ⟨timer, unpulled, pulls, hdoc, he, hunpulled, hp⟩ := t.join_spec n
    obtain ⟨timer', unpulled', pulls', hdoc', he', hunpulled', hp'⟩ := u.join_spec n
    rw [h.doc, h.world.feature] at hunpulled'
    rw [h.doc, h.world.now, h.world.feature] at hp'
    rw [h.doc, hunpulled', ← hunpulled] at hdoc'
    obtain ⟨rfl, rfl⟩ := hp.unique hp' (he.requests.mono (List.subset_cons_self _ _))
      ((h.requests he').mono (List.subset_cons_self _ _))
    exact h.of_emits he he' (hdoc'.trans hdoc.symm)
  | @hand item rest hw hq =>
    refine ⟨_, .hand (h.doc ▸ hw) (h.doc ▸ hq), fun ht hu => ?_⟩
    exact h.hand _ (fun d fault => { d with writer := .sending item fault, queue := rest })
      (fun _ _ => rfl) (fun _ _ => rfl) ht hu
  | @finish item fault hw hl =>
    refine ⟨_, .finish (h.doc ▸ hw) (h.world.stalled.trans hl), fun _ _ => ?_⟩
    obtain ⟨timer, pulls, hdoc, he, hp⟩ := t.finish_spec item fault
    obtain ⟨timer', pulls', hdoc', he', hp'⟩ := u.finish_spec item fault
    have hsub (pulls : List Event) : pulls ⊆ .finished item.notification fault :: pulls ++
        [.acknowledged item.ticket fault.isNone] :=
      List.subset_append_of_subset_left _ (List.subset_cons_self _ _)
    rw [h.doc] at hdoc'
    rw [h.doc, h.world.now, h.world.feature] at hp'
    obtain ⟨rfl, rfl⟩ := hp.unique hp' (he.requests.mono (hsub pulls))
      ((h.requests he').mono (hsub pulls'))
    exact h.of_emits he he' (hdoc'.trans hdoc.symm)
  | @stop e hw hl =>
    have hlate : u.env.late u.doc.id = false := by rw [h.doc, h.world.late, hl]
    refine ⟨_, .stop (h.doc ▸ hw) hlate, fun _ _ => ?_⟩
    obtain ⟨hdoc, he⟩ := t.stop_spec e
    obtain ⟨hdoc', he'⟩ := u.stop_spec e
    rw [h.doc] at hdoc' he'
    exact h.of_emits he he' (hdoc'.trans hdoc.symm)

theorem Stride.alike {t' : Turn} (hs : Stride t t') (h : Alike t u) :
    ∃ u', Stride u u' ∧ (t'.Meets f → u'.Meets f → Alike t' u') := by
  cases hs with
  | write hs =>
    obtain ⟨u', hu, halike⟩ := hs.alike h
    exact ⟨u', .write hu, halike⟩
  | @serve v rest hr hk hw =>
    have hserved := (h.edit (d := { t.doc with waiting := rest }) rfl).pull .refreshed v
    refine ⟨_, .serve (hr.alike h) (h.doc ▸ hk) (h.doc ▸ hw), fun _ _ => ?_⟩
    rw [h.doc]
    exact hserved
  | @fire p hr hserved ht hdue =>
    have hfired := (h.edit (d := { t.doc with timer := none }) rfl).pull .sent (.exact p.version)
    refine ⟨_, .fire (hr.alike h) (h.doc ▸ hserved) (h.doc ▸ ht) (h.world.now ▸ hdue),
      fun _ _ => ?_⟩
    rw [h.doc]
    exact hfired

/-- Turns that look the same come to rest alike. -/
theorem Alike.arrives {t' u' : Turn} (h : Alike t u) (ht : Arrives t t') (hu : Arrives u u')
    (hm : t'.Meets f) (hm' : u'.Meets f) : Alike t' u' := by
  obtain ⟨hstrides, hrests⟩ := ht
  induction hstrides using ReflTransGen.head_induction_on generalizing u with
  | refl => exact (hrests.alike h).eq_of_strides hu.strides ▸ h
  | @head t v hs hrest ih =>
    obtain ⟨w, hw, halike⟩ := hs.alike h
    have hlater := hu.tail hw
    have hthen : Alike v w := halike (hm.of_goes (goes_of_strides hrest))
      (hm'.of_goes (goes_of_strides hlater.strides))
    exact ih hthen hlater

theorem Alike.progress (h : Alike t u) (ht : t.progress.Meets f) (hu : u.progress.Meets f) :
    Alike t.progress u.progress :=
  h.arrives t.arrives_progress u.arrives_progress ht hu

theorem Alike.perform (h : Alike t u) (a : DocumentAction) :
    Alike (t.perform a) (u.perform a) := by
  have hwork : Alike { t with doc := a.work t.env.session.active t.doc }
      { u with doc := a.work u.env.session.active u.doc } := by
    rw [h.doc, h.world.session]
    exact h.edit (a.work_id _ _)
  cases a with
  | refresh origin => exact h.refresh origin
  | _ => exact hwork

end Turn

end DocSync
