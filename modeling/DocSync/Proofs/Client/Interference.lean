import DocSync.Proofs.Client.Parallel

/-!
# Documents that do not notice each other

Two clients agree about all URIs but one if they have the same world and, for all other URIs, the
same documents with the same logs. Moves about that one URI keep this up on one side alone, and all
moves keep it up on both sides, as long as the notifications of each document meet the same on both.
-/
namespace DocSync

open Client (Move)

namespace Turn

variable {f : Transport}

theorem Alike.met {t u : Turn} (h : Alike t u) : u.doc.met u.log = t.doc.met t.log := by
  rw [h.doc, h.log]

theorem Meets.congr {t u : Turn} (hu : u.Meets f) (h : Alike t u) : t.Meets f :=
  hu.of_met (congrArg Document.id h.doc) (h.met ▸ List.prefix_rfl)

/-- What is handed over while the clock moves on comes on top of what was before. -/
theorem Meets.of_passes {target : Nat} {t v : Turn} (hv : v.Meets f) (h : t.Passes target v) :
    t.Meets f := by
  induction h with
  | @done t u huntil hu =>
    have hclock : (t.setClock target).Meets f := hv.congr hu
    exact hclock
  | @stop t u v due hle huntil hdue hu hpasses ih =>
    have hclock : (t.setClock due).Meets f := ((ih hv).of_goes (goes_progress u)).congr hu
    exact hclock

/-- The clock stops at the same times for two documents that look the same. -/
theorem Passes.unique {target : Nat} {t t' v v' : Turn} (h : t.Passes target v)
    (h' : t'.Passes target v') (ht : Alike t t') (hv : v.Meets f) (hv' : v'.Meets f) :
    Alike v v' := by
  induction h generalizing t' with
  | @done t u huntil hu =>
    cases h' with
    | done huntil' hu' => exact (hu.symm.trans (ht.setClock target)).trans hu'
    | stop hle huntil' hdue' hu' hpasses' =>
      exact absurd (huntil.mono (Nat.succ_le_succ hle)) (ht.doc ▸ hdue')
  | @stop t u v due hle huntil hdue hu hpasses ih =>
    cases h' with
    | done huntil' hu' =>
      exact absurd (huntil'.mono (Nat.succ_le_succ hle)) (ht.doc.symm ▸ hdue)
    | @stop _ u' _ due' hle' huntil' hdue' hu' hpasses' =>
      obtain rfl : due = due' := by
        rw [ht.doc] at huntil' hdue'
        have hfirst : ¬ due < due' := fun hlt => hdue (huntil'.mono hlt)
        have hsecond : ¬ due' < due := fun hlt => hdue' (huntil.mono hlt)
        omega
      have hstart : Alike u u' := (hu.symm.trans (ht.setClock due)).trans hu'
      exact ih hpasses' (hstart.progress (hv.of_passes hpasses) (hv'.of_passes hpasses')) hv

/-- Two documents that look the same react the same. -/
theorem Reacts.unique {m : Move} {t t' u u' : Turn} (h : t.Reacts m u) (h' : t'.Reacts m u')
    (ht : Alike t t') (hu : u.Meets f) (hu' : u'.Meets f) : Alike u u' := by
  cases h with
  | act a hid hstart =>
    cases h' with
    | act _ hid' hstart' =>
      exact (((hstart.symm.trans ht).trans hstart').perform a).progress hu hu'
    | rest hm => simp [Move.stirs, hid, ht.doc] at hm
  | rouse hi hstart =>
    cases h' with
    | rouse _ hstart' => exact ((hstart.symm.trans (ht.hear _)).trans hstart').progress hu hu'
    | rest hm => simp [Move.stirs, hi] at hm
  | advance millis hpasses =>
    cases h' with
    | advance _ hpasses' =>
      rw [ht.world.now] at hpasses'
      exact hpasses.unique hpasses' ht hu hu'
    | rest hm => cases hm
  | rest hm hstart =>
    cases h' with
    | act a hid' => simp [Move.stirs, hid', ht.doc] at hm
    | rouse hi => simp [Move.stirs, hi] at hm
    | advance => cases hm
    | rest hm' hstart' => exact (hstart.symm.trans (ht.hear m)).trans hstart'

end Turn

namespace Client

/-- What the notifications of all documents meet is as the transport has it. -/
def Meets (f : Transport) (c : Client) : Prop :=
  ∀ d ∈ c.documents, Begins (f d.id) (d.met (c.log d.id))

instance (f : Transport) (c : Client) : Decidable (c.Meets f) :=
  inferInstanceAs (Decidable (∀ d ∈ c.documents, Begins (f d.id) (d.met (c.log d.id))))

theorem Meets.of_move {f : Transport} {c : Client} (hc : c.Sound) {m : Move}
    (h : (c.move m).Meets f) : c.Meets f := by
  intro d hd
  obtain ⟨d', hd', hid⟩ := List.mem_map.mp (ids_subset_move hc m (mem_ids hd))
  have hmet := h d' hd'
  rcases hc.source hd' with ⟨e, he, l, hcourse, hlog, heid⟩ | ⟨-, hfresh, -⟩
  · obtain rfl : e = d := eq_of_id hc.distinct he hd (heid.trans hid)
    rw [hlog, hid] at hmet
    refine hmet.of_prefix ?_
    have hwork : (m.work c.env.session.active e).met (c.log e.id) = e.met (c.log e.id) := by
      unfold Move.work
      split
      · split
        · exact Document.work_met (hc.calm e hd) _ _ _
        · rfl
      · rfl
    rw [← hwork]
    exact hcourse.met _
  · have hmem := mem_ids hd
    rw [← hid, hfresh] at hmem
    exact absurd hmem (hc.freshId_notMem d'.uri)

theorem Meets.of_play {f : Transport} {c : Client} (hc : c.Sound) {ms : List Move}
    (h : (c.play ms).Meets f) : c.Meets f := by
  induction ms generalizing c with
  | nil => exact h
  | cons m ms ih => exact .of_move hc (ih (hc.move m) h)

theorem Shows.meets {f : Transport} {c : Client} {t : Turn} (h : c.Shows t) (hc : c.Meets f) :
    t.Meets f := by
  have hdoc : Turn.Meets f ⟨t.doc, c.env⟩ := hc t.doc h.mem
  exact hdoc.congr h.alike

theorem Shows.unique {c : Client} {t u : Turn} (h : c.Shows t) (k : c.Shows u)
    (hid : u.doc.id = t.doc.id) : t.Alike u := by
  have hdoc : u.doc = t.doc := by
    have hfound := k.found
    rw [hid, h.found] at hfound
    exact (Option.some.inj hfound).symm
  have hk := k.alike
  rw [hdoc] at hk
  exact h.alike.trans hk.symm

/-! ## Agreement -/

/-- The documents that a move creates. -/
def Move.creates (c : Client) : Move → List DocumentId
  | .create uri .. => [c.freshId uri]
  | _ => []

theorem Sound.ids_move {c : Client} (h : c.Sound) (m : Move) :
    (c.move m).ids = c.ids ++ m.creates c := by
  rw [(evolves_move h.distinct h.rests h.calm m).ids]
  rcases m with ⟨uri, languageId, policy, settings, buffer, initialText⟩ | ⟨id, a⟩ | a
  · simp [prepare, create, ids, Move.creates]
  · simp only [prepare, Move.creates, List.append_nil]
    split
    · rfl
    · exact c.put_ids _
  · exact (List.append_nil _).symm

theorem mem_of_filter_eq {ids ids' : List DocumentId} {uri : Uri}
    (h : (ids'.filter fun i => i.uri != uri) = ids.filter fun i => i.uri != uri) {id : DocumentId}
    (hid : id.uri ≠ uri) : id ∈ ids' ↔ id ∈ ids := by
  have hmem (ids : List DocumentId) : id ∈ ids ↔ id ∈ ids.filter fun i => i.uri != uri := by
    simp [hid]
  rw [hmem, h, ← hmem]

/-- About all URIs but one, two clients are the same to whoever looks on. -/
structure Agrees (uri : Uri) (c c' : Client) : Prop where
  world : ∀ id, id.uri ≠ uri → c.env.Looks id c'.env
  ids : (c'.ids.filter fun i => i.uri != uri) = c.ids.filter fun i => i.uri != uri
  found : ∀ id, id.uri ≠ uri → c'.find? id = c.find? id
  log : ∀ id, id.uri ≠ uri → c'.log id = c.log id

namespace Agrees

variable {uri : Uri} {c c' : Client}

theorem refl (uri : Uri) (c : Client) : Agrees uri c c :=
  ⟨fun _ _ => .refl _ _, rfl, fun _ _ => rfl, fun _ _ => rfl⟩

theorem symm (h : Agrees uri c c') : Agrees uri c' c :=
  ⟨fun id hid => (h.world id hid).symm, h.ids.symm, fun id hid => (h.found id hid).symm,
    fun id hid => (h.log id hid).symm⟩

theorem trans {c'' : Client} (h : Agrees uri c c') (k : Agrees uri c' c'') : Agrees uri c c'' :=
  ⟨fun id hid => (h.world id hid).trans (k.world id hid), k.ids.trans h.ids,
    fun id hid => (k.found id hid).trans (h.found id hid),
    fun id hid => (k.log id hid).trans (h.log id hid)⟩

theorem freshId (h : Agrees uri c c') {u : Uri} (hu : u ≠ uri) : c'.freshId u = c.freshId u := by
  have hcount (ids : List DocumentId) : (ids.countP fun i => i.uri == u) =
      (ids.filter fun i => i.uri != uri).countP fun i => i.uri == u := by
    rw [List.countP_filter]
    refine List.countP_congr fun i _ => ?_
    simp only [Bool.and_eq_true, bne_iff_ne, beq_iff_eq]
    exact ⟨fun hi => ⟨hi, hi ▸ hu⟩, And.left⟩
  rw [freshId_eq, freshId_eq, hcount, h.ids, ← hcount]

theorem shows (h : Agrees uri c c') {t : Turn} (ht : c.Shows t) (hid : t.doc.id.uri ≠ uri) :
    c'.Shows t :=
  ⟨(h.found _ hid).trans ht.found,
    ht.alike.trans ⟨rfl, h.world t.doc.id hid, h.log t.doc.id hid⟩⟩

/-- Clients agree if their documents see the same. -/
theorem of_views (hc : c.Sound) (hc' : c'.Sound)
    (hworld : ∀ id, id.uri ≠ uri → c.env.Looks id c'.env)
    (hids : (c'.ids.filter fun i => i.uri != uri) = c.ids.filter fun i => i.uri != uri)
    (hviews : ∀ t u : Turn, t.doc.id.uri ≠ uri → u.doc.id = t.doc.id → c.Shows t → c'.Shows u →
      t.Alike u) : Agrees uri c c' := by
  have hboth : ∀ id, id.uri ≠ uri → c'.find? id = c.find? id ∧ c'.log id = c.log id := by
    intro id hid
    have hmem := mem_of_filter_eq hids hid
    cases hf : c.find? id with
    | none =>
      have hnot := find?_eq_none.mp hf
      have hnot' := mt hmem.mp hnot
      exact ⟨find?_eq_none.mpr hnot', (hc'.silent id hnot').trans (hc.silent id hnot).symm⟩
    | some d =>
      obtain ⟨-, rfl⟩ := find?_eq_some hf
      cases hf' : c'.find? d.id with
      | none => exact absurd (hmem.mpr (Client.mem_ids (find?_eq_some hf).1)) (find?_eq_none.mp hf')
      | some d' =>
        have halike := hviews ⟨d, c.env⟩ ⟨d', c'.env⟩ hid (find?_eq_some hf').2
          (shows_of_find? hf) (shows_of_find? hf')
        obtain rfl : d' = d := halike.doc
        exact ⟨rfl, halike.log⟩
  exact ⟨hworld, hids, fun id hid => (hboth id hid).1, fun id hid => (hboth id hid).2⟩

end Agrees

/-- Whether documents of other URIs can notice a move. -/
def Move.heard (uri : Uri) : Move → Bool
  | .create u .. => u != uri
  | .act (.document id _) => id.uri != uri
  | .act (.shared (.happen (.failNext ..))) => false
  | .act (.shared (.happen (.script ..))) => false
  | .act (.shared (.happen (.delay id _))) => id.uri != uri
  | .act (.shared (.happen _)) => true
  | .act (.shared (.advance _)) => true
  | .act (.shared _) => false

theorem Move.unheard {uri : Uri} {m : Move} (hm : m.heard uri = false) (e : Environment)
    {id : DocumentId} (hid : id.uri ≠ uri) : e.Looks id (e.hear m) := by
  rcases m with - | ⟨other, a⟩ | a
  · exact .refl id e
  · exact .refl id e
  · cases a with
    | happen i =>
      cases i with
      | delay other value =>
        have hother : other.uri = uri := by simpa [heard] using hm
        have hne : id ≠ other := fun h => hid (h ▸ hother)
        exact ⟨rfl, rfl, rfl, rfl, rfl, if_neg hne⟩
      | failNext | script => exact ⟨rfl, rfl, rfl, rfl, rfl, rfl⟩
      | _ => cases hm
    | advance => cases hm
    | _ => exact .refl id e

/-- Documents of other URIs do not notice a move that they cannot hear. -/
theorem Sound.agrees_unheard {uri : Uri} {c : Client} (h : c.Sound) {m : Move}
    (hm : m.heard uri = false) : Agrees uri c (c.move m) := by
  refine .of_views h (h.move m) (fun id hid => (Move.unheard hm c.env hid).trans
    ((h.world m).looks id)) ?_ fun t u hid hsame ht hu => ?_
  · rw [h.ids_move, List.filter_append]
    cases m with
    | create u =>
      have hu : u = uri := by simpa [Move.heard] using hm
      simp [Move.creates, freshId_eq, hu]
    | act a => simp [Move.creates]
  · obtain ⟨v, hreacts, hv⟩ := h.reacts ht m
    have hvu : Turn.Alike t v := by
      have hhear : Turn.Alike t (t.hear m) :=
        ⟨rfl, Move.unheard hm t.env hid, congrArg (logOf t.doc.id) (t.env.hear_history m)⟩
      cases hreacts with
      | rest _ hstart => exact hhear.trans hstart
      | rouse _ hstart =>
        -- Whoever is roused finds nothing new, and stays at rest.
        have hrests := ((h.rests t.doc ht.mem).alike ht.alike.symm).alike (hhear.trans hstart)
        rw [Turn.progress_of_rests hrests]
        exact hhear.trans hstart
      | act a hid' => exact absurd (by simpa [Move.heard, hid'] using hm) hid
      | advance => cases hm
    exact hvu.trans (hv.unique hu (hsame.trans (congrArg Document.id hvu.doc).symm))

theorem Sound.agrees_unheard_play {uri : Uri} {c : Client} (h : c.Sound) {ms : List Move}
    (hms : ∀ m ∈ ms, m.heard uri = false) : Agrees uri c (c.play ms) := by
  induction ms generalizing c with
  | nil => exact .refl uri c
  | cons m ms ih =>
    exact (h.agrees_unheard (hms m List.mem_cons_self)).trans
      (ih (h.move m) fun k hk => hms k (List.mem_cons_of_mem m hk))

namespace Agrees

variable {uri : Uri} {f : Transport} {c c' : Client}

/-- What a move creates looks the same for both. -/
theorem create (h : Agrees uri c c') (hc : c.Sound) (hc' : c'.Sound) {u : Uri} (hu : u ≠ uri)
    (languageId : String) (policy : SyncPolicy) (settings : Settings) (buffer : String)
    (initialText : Option String) : ∃ t : Turn, t.doc.id = c.freshId u ∧
      (c.create u languageId policy settings buffer initialText).Shows t ∧
      (c'.create u languageId policy settings buffer initialText).Shows t := by
  have hfresh := h.freshId hu
  have hnew := hc'.find?_create u languageId policy settings buffer initialText
  have hlog : c'.log (c.freshId u) = c.log (c.freshId u) :=
    (hfresh ▸ hc'.silent _ (hc'.freshId_notMem u)).trans (hc.silent _ (hc.freshId_notMem u)).symm
  rw [hfresh] at hnew
  exact ⟨⟨{ id := c.freshId u, languageId, policy, settings, buffer, initialText }, c.env⟩, rfl,
    ⟨hc.find?_create u languageId policy settings buffer initialText, .refl _⟩,
    ⟨hnew, ⟨rfl, h.world (c.freshId u) hu, hlog⟩⟩⟩

theorem ids_move (h : Agrees uri c c') (hc : c.Sound) (hc' : c'.Sound) (m : Move) :
    ((c'.move m).ids.filter fun i => i.uri != uri) =
      (c.move m).ids.filter fun i => i.uri != uri := by
  rw [hc.ids_move, hc'.ids_move, List.filter_append, List.filter_append, h.ids]
  cases m with
  | act a => rfl
  | create u =>
    by_cases hu : u = uri
    · simp [Move.creates, freshId_eq, hu]
    · rw [Move.creates, Move.creates, h.freshId hu]

/-- Every move keeps up the agreement. -/
theorem move (h : Agrees uri c c') (hc : c.Sound) (hc' : c'.Sound) {m : Move}
    (ho : (c.move m).Meets f) (ho' : (c'.move m).Meets f) :
    Agrees uri (c.move m) (c'.move m) := by
  refine .of_views (hc.move m) (hc'.move m) (fun id hid => (((hc.world m).looks id).symm.trans
    ((h.world id hid).hear m)).trans ((hc'.world m).looks id)) (h.ids_move hc hc' m) ?_
  intro t u hid hsame ht hu
  cases hf : c.find? t.doc.id with
  | some d =>
    have hshows := shows_of_find? hf
    obtain ⟨-, hdid⟩ := find?_eq_some hf
    obtain ⟨v, hreacts, hv⟩ := hc.reacts hshows m
    obtain ⟨v', hreacts', hv'⟩ := hc'.reacts (h.shows hshows (hdid ▸ hid)) m
    have halike := hreacts.unique hreacts' (.refl _) (hv.meets ho) (hv'.meets ho')
    have hvid : v.doc.id = t.doc.id := hreacts.id.trans hdid
    exact ((ht.unique hv hvid).trans halike).trans
      (hv'.unique hu (hsame.trans ((congrArg Document.id halike.doc).trans hvid).symm))
  | none =>
    have hnew := Client.mem_ids ht.mem
    rw [hc.ids_move] at hnew
    have hcreated := (List.mem_append.mp hnew).resolve_left (find?_eq_none.mp hf)
    cases m with
    | act a => cases hcreated
    | create v languageId policy settings buffer initialText =>
      have hfresh : t.doc.id = c.freshId v := List.mem_singleton.mp hcreated
      have hv : v ≠ uri := by
        rintro rfl
        rw [hfresh, freshId_eq] at hid
        exact hid rfl
      obtain ⟨s, hs, hshows, hshows'⟩ :=
        h.create hc hc' hv languageId policy settings buffer initialText
      exact (ht.unique hshows (hs.trans hfresh.symm)).trans
        (hshows'.unique hu (hsame.trans (hfresh.trans hs.symm)))

/-- Runs that differ only in what documents of other URIs cannot hear keep up the agreement. -/
theorem play (h : Agrees uri c c') (hc : c.Sound) (hc' : c'.Sound) {ms ns : List Move}
    (hsame : ns.filter (Move.heard uri) = ms.filter (Move.heard uri))
    (ho : (c.play ms).Meets f) (ho' : (c'.play ns).Meets f) :
    Agrees uri (c.play ms) (c'.play ns) := by
  have hunheard {ns : List Move} (hns : ns.filter (Move.heard uri) = []) :
      ∀ n ∈ ns, n.heard uri = false := by
    simpa [List.filter_eq_nil_iff] using hns
  induction ms using List.reverseRecOn generalizing ns with
  | nil => exact h.trans (hc'.agrees_unheard_play (hunheard hsame))
  | append_singleton ms m ih =>
    have hsound := hc.play ms
    rw [play_concat] at ho ⊢
    rw [List.filter_append] at hsame
    by_cases hm : m.heard uri = true
    · rw [List.filter_cons_of_pos hm, List.filter_nil] at hsame
      obtain ⟨before, after, rfl, hbefore, hafter⟩ := List.filter_eq_append_iff.mp hsame
      obtain ⟨quiet, rest, rfl, hquiet, -, hrest⟩ := List.filter_eq_cons_iff.mp hafter
      have hstart : (before ++ quiet).filter (Move.heard uri) = ms.filter (Move.heard uri) := by
        rw [List.filter_append, hbefore, List.filter_eq_nil_iff.mpr hquiet, List.append_nil]
      have hsplit : c'.play (before ++ (quiet ++ m :: rest)) =
          ((c'.play (before ++ quiet)).move m).play rest := by
        rw [← List.append_assoc, play_append, play_cons]
      rw [hsplit] at ho' ⊢
      have hsound' := hc'.play (before ++ quiet)
      have hnow := ho'.of_play (hsound'.move m)
      have hagrees := ih hstart (ho.of_move hsound) (hnow.of_move hsound')
      exact (hagrees.move hsound hsound' ho hnow).trans
        ((hsound'.move m).agrees_unheard_play (hunheard hrest))
    · rw [List.filter_cons_of_neg hm, List.filter_nil, List.append_nil] at hsame
      have hagrees := ih hsame (ho.of_move hsound) ho'
      exact (hsound.agrees_unheard (by simpa using hm)).symm.trans hagrees

end Agrees

end Client

end DocSync
