import DocSync.Proofs.Client.Succession

/-!
# Making room for the next document

If a document of a URI is only created once all that were there before are over, then of any two
documents of that URI one is over, and the documents take turns. A document that is created earlier
greets a server that is ready at once, whatever the one before it still has to say.
-/
namespace DocSync

open Document (Keeps Over)

namespace Client

def Move.Creates (u : Uri) : Move → Prop
  | .create uri .. => uri = u
  | .act _ => False

def Vacant (c : Client) (u : Uri) : Prop :=
  ∀ d ∈ c.documents, d.uri = u → d.Over (c.log d.id)

/-- Of any two documents of a URI one is over. -/
def Solo (c : Client) (u : Uri) : Prop :=
  ∀ d ∈ c.documents, ∀ e ∈ c.documents, d.uri = u → e.uri = u → d.id ≠ e.id →
    d.Over (c.log d.id) ∨ e.Over (c.log e.id)

namespace Sound

variable {c : Client} (hc : c.Sound)
include hc

theorem history_move (m : Move) : ∃ entries, (c.move m).env.history = c.env.history ++ entries := by
  have hev := (evolves_move hc.distinct hc.rests hc.calm m).history
  rwa [prepare_env] at hev

theorem history_play (ms : List Move) :
    ∃ entries, (c.play ms).env.history = c.env.history ++ entries := by
  induction ms generalizing c with
  | nil => exact ⟨[], (List.append_nil _).symm⟩
  | cons m ms ih =>
    obtain ⟨first, hfirst⟩ := hc.history_move m
    obtain ⟨rest, hrest⟩ := ih (hc.move m)
    exact ⟨first ++ rest, by rw [play_cons, hrest, hfirst, List.append_assoc]⟩

theorem known {x : Entry} (hx : x ∈ c.env.history) :
    ∃ d ∈ c.documents, d.id = x.document ∧ (x.time, x.event) ∈ c.log d.id := by
  have hmem := mem_log hx
  obtain ⟨d, hd, heq⟩ := hc.speaker (List.ne_nil_of_mem hmem)
  exact ⟨d, hd, heq, heq ▸ hmem⟩

theorem tidy {u : Uri} (hkeeps : ∀ d ∈ c.documents, Keeps d (d.ledger (c.log d.id)))
    (ho : ∀ d ∈ c.documents, d.policy.openClose = true) : Tidy u c.env.history := by
  refine ⟨fun x hx n hn => ?_, fun id _ => ?_⟩
  · obtain ⟨d, hd, hid, hmem⟩ := hc.known hx
    rw [hn] at hmem
    have hhanded : n ∈ (c.log d.id).handed := List.mem_filterMap.mpr ⟨_, hmem, rfl⟩
    rw [← hid]
    exact ((hkeeps d hd).suits_handed n hhanded).uri_eq
  · by_cases hid : id ∈ c.ids
    · obtain ⟨d, hd, rfl⟩ := List.mem_map.mp hid
      obtain ⟨s, hs, hbegins⟩ := (hkeeps d hd).dialogue
      rw [ho d hd] at hs
      exact ⟨s, hs, (d.handed_prefix_ledger _).trans hbegins⟩
    · have hnil : logOf id c.env.history = [] := hc.silent id hid
      have hs : Dialogue true [.didOpen u "" .initial ""] :=
        .unfinished (.opened u "" .initial "" (by simp))
      exact ⟨_, hs, by rw [hnil]; exact List.nil_prefix⟩

/-- A document that is over stays over, and is silent. -/
theorem over_move {m : Move} {d d' : Document} (hd : d ∈ c.documents)
    (hover : d.Over (c.log d.id)) (hd' : d' ∈ (c.move m).documents) (hid : d'.id = d.id) :
    d'.Over ((c.move m).log d.id) ∧ ((c.move m).log d.id).handed = (c.log d.id).handed := by
  rcases hc.source hd' with ⟨e, he, l, hcourse, hlog, heq⟩ | ⟨-, hfresh, -⟩
  · obtain rfl : e = d := eq_of_id hc.distinct he hd (heq.trans hid)
    rw [hid] at hlog
    rw [hlog]
    exact (hover.work _ m).course hcourse
  · have hmem : d'.id ∈ c.ids := hid ▸ mem_ids hd
    exact absurd (hfresh ▸ hmem) (hc.freshId_notMem d'.uri)

theorem over_handed {d : Document} (hd : d ∈ c.documents) (hover : d.Over (c.log d.id))
    (m : Move) : ((c.move m).log d.id).handed = (c.log d.id).handed := by
  obtain ⟨d', hd', hid⟩ := List.mem_map.mp (ids_subset_move hc m (mem_ids hd))
  exact (hc.over_move hd hover hd' hid).2

/-- Who was heard of after a move was there before it. -/
theorem heard {id : DocumentId} {m : Move} (h : ((c.move m).log id).handed ≠ []) :
    ∃ d ∈ c.documents, d.id = id := by
  have hid' : id ∈ (c.move m).ids := by
    by_contra hnot
    rw [(hc.move m).silent id hnot] at h
    exact h rfl
  obtain ⟨d', hd', rfl⟩ := List.mem_map.mp hid'
  rcases hc.source hd' with ⟨d, hd, -, -, -, heq⟩ | ⟨-, -, hlog, -⟩
  · exact ⟨d, hd, heq⟩
  · rw [hlog] at h
    exact absurd rfl h

theorem created {m : Move} {d' : Document} (hd' : d' ∈ (c.move m).documents)
    (hid : d'.id ∉ c.ids) : m.Creates d'.uri ∧ d'.id = c.freshId d'.uri := by
  rcases hc.source hd' with ⟨d, hd, -, -, -, heq⟩ | ⟨-, hfresh, -, hm⟩
  · exact absurd (heq ▸ mem_ids hd) hid
  · refine ⟨?_, hfresh⟩
    rw [hm]
    rfl

theorem vacant_move {u : Uri} (hv : c.Vacant u) {m : Move} {d' : Document}
    (hd' : d' ∈ (c.move m).documents) (hid : d'.id ∈ c.ids) (hu : d'.uri = u) :
    d'.Over ((c.move m).log d'.id) := by
  obtain ⟨d, hd, heq⟩ := List.mem_map.mp hid
  have hdu : d.uri = u := by rw [← hu, Document.uri, heq, Document.uri]
  rw [← heq]
  exact (hc.over_move hd (hv d hd hdu) hd' heq.symm).1

theorem solo_move {u : Uri} (hs : c.Solo u) (m : Move) (hm : m.Creates u → c.Vacant u) :
    (c.move m).Solo u := by
  intro d' hd' e' he' hdu heu hne
  by_cases hdid : d'.id ∈ c.ids
  · by_cases heid : e'.id ∈ c.ids
    · obtain ⟨d, hd, hdd⟩ := List.mem_map.mp hdid
      obtain ⟨e, he, hee⟩ := List.mem_map.mp heid
      have hdu' : d.uri = u := by rw [← hdu, Document.uri, hdd, Document.uri]
      have heu' : e.uri = u := by rw [← heu, Document.uri, hee, Document.uri]
      rw [← hdd, ← hee] at hne ⊢
      exact (hs d hd e he hdu' heu' hne).imp (fun h => (hc.over_move hd h hd' hdd.symm).1)
        fun h => (hc.over_move he h he' hee.symm).1
    · obtain ⟨hcreates, -⟩ := hc.created he' heid
      exact .inl (hc.vacant_move (hm (heu ▸ hcreates)) hd' hdid hdu)
  · obtain ⟨hcreates, hfresh⟩ := hc.created hd' hdid
    by_cases heid : e'.id ∈ c.ids
    · exact .inr (hc.vacant_move (hm (hdu ▸ hcreates)) he' heid heu)
    · obtain ⟨-, hfresh'⟩ := hc.created he' heid
      rw [hdu] at hfresh
      rw [heu] at hfresh'
      exact absurd (hfresh.trans hfresh'.symm) hne

/-- With at most one document of a URI that is not over, an opening finds all others closed. -/
theorem inTurn_move {u : Uri} {m : Move} (hs : c.Solo u) (hi : InTurn u c.env.history)
    (ht : Tidy u (c.move m).env.history) : InTurn u (c.move m).env.history := by
  obtain ⟨entries, hentries⟩ := hc.history_move m
  intro before t id n after heq hn hu other hother ho
  rw [heq] at ht
  have hid : id.uri = u := (ht.about ⟨t, id, .handed n⟩ (by simp) n rfl).symm.trans hu
  have hfirst : (logOf id before).handed = [] := ht.opening_first hid hn
  rw [hentries] at heq
  rcases Log.cut_append heq with ⟨rest, hrest⟩ | ⟨start, rfl, rfl⟩
  · exact hi before t id n rest hrest hn hu other hother ho
  have hlog (x : DocumentId) : ((c.move m).log x).handed =
      (logOf x (c.env.history ++ start)).handed ++
        (logOf x (⟨t, id, .handed n⟩ :: after)).handed := by
    rw [log, hentries, ← List.append_assoc, logOf_append, Log.handed_append]
  have hnext : (logOf id (⟨t, id, .handed n⟩ :: after)).handed ≠ [] := by
    simp [logOf, Log.handed, Event.handed?]
  have hbetween (e : Document) (he : e ∈ c.documents) (hover : e.Over (c.log e.id)) :
      (logOf e.id (c.env.history ++ start)).handed = (c.log e.id).handed ∧
        (logOf e.id (⟨t, id, .handed n⟩ :: after)).handed = [] := by
    have hquiet := hc.over_handed he hover m
    rw [log, hentries] at hquiet
    exact handed_between hquiet
  have hbefore : (logOf other (c.env.history ++ start)).handed ≠ [] := by
    obtain ⟨opening, hopening, -⟩ := ho
    exact List.ne_nil_of_mem hopening
  have hne : id ≠ other := by
    rintro rfl
    exact hbefore hfirst
  have hheard : ((c.move m).log id).handed ≠ [] := by simp [hlog, hnext]
  have hheard' : ((c.move m).log other).handed ≠ [] := by simp [hlog, hbefore]
  obtain ⟨d, hd, rfl⟩ := hc.heard hheard
  obtain ⟨e, he, rfl⟩ := hc.heard hheard'
  -- The document that is opened was not over, so the other one was.
  rcases hs d hd e he hid hother hne with hover | hover
  · exact absurd (hbetween d hd hover).2 hnext
  · have hsame := (hbetween e he hover).1
    rw [Log.Ended.congr hsame]
    exact hover.ended ((Log.Opened.congr hsame).mp ho)

/-- A document that is created for a ready server greets it at once. -/
theorem greets (uri : Uri) (languageId : String) {policy : SyncPolicy} (settings : Settings)
    (text : String) (ho : policy.openClose = true) (hready : c.env.session.state = .ready) :
    ∃ n entries, n.isOpening = true ∧ n.uri = uri ∧
      ((c.create uri languageId policy settings text none).step
          (.document (c.freshId uri) .beginOpen)).env.history =
        c.env.history ++ ⟨c.env.now, c.freshId uri, .handed n⟩ :: entries := by
  let d : Document := ⟨c.freshId uri, languageId, policy, settings, text, none, .unopened,
    ⟨policy.kind, [], false⟩, .initial, .absent, [], 0, none, false, []⟩
  have hcreated : (c.create uri languageId policy settings text none).Sound :=
    hc.move (.create uri languageId policy settings text none)
  have hd : d ∈ (c.create uri languageId policy settings text none).documents :=
    List.mem_append_right _ (List.mem_singleton_self d)
  have hf : (c.create uri languageId policy settings text none).find? (c.freshId uri) = some d :=
    find?_of_mem hcreated.distinct hd
  have hbegin : d.beginOpen =
      { d with phase := .opening, version := d.version.next, initialText := none,
               writer := .waiting (some d.greeting) } :=
    (Document.beginOpen_eq rfl).trans (if_pos ho)
  have hwriter : d.beginOpen.writer = .waiting (some d.greeting) := by rw [hbegin]
  have hid : d.beginOpen.id = c.freshId uri := by rw [hbegin]
  let t : Turn := ⟨d.beginOpen, c.env⟩
  have hfirst : t.Emits [.handed d.greeting]
      { (t.hand d.greeting).1 with doc.writer := .greeting d.greeting (t.hand d.greeting).2 } :=
    (Turn.Emits.hand t d.greeting).edit rfl
  have harrives := t.arrives_progress.tail (.write (.greet hwriter hready))
  obtain ⟨es, hrest, -⟩ := Turn.goes_of_strides harrives.strides
  refine ⟨d.greeting, es.map fun e => ⟨c.env.now, c.freshId uri, e⟩, rfl, ?_, ?_⟩
  · exact congrArg DocumentId.uri (c.freshId_eq uri)
  · have hhistory := (hfirst.trans hrest).history
    rw [show t.doc.id = _ from hid] at hhistory
    rw [step_beginOpen, beginOpen, hf]
    simp only [edit, turn, hf]
    exact hhistory

end Sound

/-! ## As long as the session is active -/

open Document (Paced Polite)

/-- What holds of a client whose session is active and whose documents of a URI take turns. -/
structure Orderly (u : Uri) (c : Client) : Prop where
  sound : c.Sound
  paced : ∀ d ∈ c.documents, Keeps d (d.ledger (c.log d.id)) ∧ Paced d (c.log d.id) c.env.now
  polite : ∀ d ∈ c.documents, d.Polite (c.log d.id)
  solo : c.Solo u
  inTurn : InTurn u c.env.history

theorem orderly_start (u : Uri) (env : Environment) : Orderly u (start env) where
  sound := sound_start env
  paced := by simp [start]
  polite := by simp [start]
  solo := by simp [Solo, start]
  inTurn := by simp [InTurn, start]

theorem Orderly.move {u : Uri} {c : Client} (h : Orderly u c)
    (hactive : c.env.session.active = true) (m : Move) (hm : m.Creates u → c.Vacant u)
    (hpolicy : ∀ d ∈ (c.move m).documents, d.id ∉ c.ids → d.policy.openClose = true) :
    Orderly u (c.move m) := by
  have hpaced := Document.paced_invariant.move h.sound h.paced m
  have hpolite : ∀ d ∈ (c.move m).documents, d.Polite ((c.move m).log d.id) := by
    intro d' hd'
    rcases h.sound.source hd' with ⟨d, hd, l, hcourse, hlog, hid⟩ | ⟨hnew, hfresh, hlog, -⟩
    · rw [hactive] at hcourse
      rw [hlog, ← hid]
      have hwork := m.work_induct (P := fun e => e.Polite (c.log d.id))
        (fun _ _ hc he => he.call hc) (h.polite d hd)
      exact hwork.course hcourse
    · rw [hlog]
      exact Document.polite_new hnew (hpolicy d' hd' (hfresh ▸ h.sound.freshId_notMem d'.uri))
  have htidy : Tidy u (c.move m).env.history :=
    (h.sound.move m).tidy (fun d hd => (hpaced d hd).1) fun d hd => (hpolite d hd).openClose
  exact ⟨h.sound.move m, hpaced, hpolite, h.sound.solo_move h.solo m hm,
    h.sound.inTurn_move h.solo h.inTurn htidy⟩

theorem Orderly.play {u : Uri} {c : Client} (h : Orderly u c)
    (hactive : c.env.session.active = true) {ms : List Move}
    (hms : ∀ m ∈ ms, ∃ id a, m = .act (.document id a)) : Orderly u (c.play ms) := by
  induction ms generalizing c with
  | nil => exact h
  | cons m ms ih =>
    obtain ⟨id, a, rfl⟩ := hms m List.mem_cons_self
    refine ih ?_ ?_ fun k hk => hms k (List.mem_cons_of_mem _ hk)
    · exact h.move hactive _ (fun hm => hm.elim) fun d hd hid => (h.sound.created hd hid).1.elim
    · rwa [(world_document h.sound.distinct h.sound.rests id a).session]

/-- Once nothing is left to be handed over about a URI whose documents are all closed, they are
all over, if their openings came through. -/
theorem Orderly.vacant {u : Uri} {c : Client} (h : Orderly u c)
    (hclosed : ∀ d ∈ c.documents, d.uri = u → d.phase = .closed ∧ d.unsent = [])
    (halive : ∀ d ∈ c.documents, d.uri = u → ¬ (c.log d.id).OpeningFailed) : c.Vacant u :=
  fun d hd hu => (h.polite d hd).over (hclosed d hd hu).1 (hclosed d hd hu).2
    (h.paced d hd).2.writer (halive d hd hu)

end Client

end DocSync
