import DocSync.Proofs.Client.View
import DocSync.Proofs.Document.Refresh

/-!
# How a turn treats the pulls that wait

Whatever a document does by itself, it leaves the pulls that wait for its handshake alone, until the
handshake is over. Then they go out one after the other, or are given up. Only a refresh adds to
them.
-/
namespace DocSync

namespace Turn

open Relation (ReflTransGen)

variable {t u : Turn}

theorem Writes.treats (h : Writes t u) : ∃ es, Emits t es u ∧ t.doc.Treats es u.doc := by
  cases h with
  | refuse hw hk =>
    exact ⟨_, t.emits_lose _, .loses _ (List.nil_append _).symm (by simp) rfl rfl
      (by simp [Document.handshakeOutcome?, hw]) rfl⟩
  | @greet n hw hk =>
    exact ⟨_, (Emits.hand t n).edit rfl, .spares (by simp [Event.isPlain]) rfl rfl
      (by simp [Document.handshakeOutcome?, hw])⟩
  | @fail n e hw hl =>
    have hn : Emits t [.finished n (some e)] (t.note (.finished n (some e))) := .note t rfl
    exact ⟨_, hn.trans (emits_lose _ e), .loses e rfl (by simp [Event.isPlain]) rfl rfl
      (by simp [Document.handshakeOutcome?, hw]) rfl⟩
  | @settle n hw hl =>
    have hn : Emits t [.finished n none] (t.note (.finished n none)) := .note t rfl
    exact ⟨_, hn.edit rfl, .spares (by simp [Event.isPlain]) rfl rfl
      (by simp [Document.handshakeOutcome?, hw])⟩
  | join hw hk =>
    rw [join_eq]
    exact ⟨_, t.emits_announce, .joins rfl (by simp) rfl rfl
      (by simp [Document.handshakeOutcome?, hw]) rfl⟩
  | @establish n due hw hdue =>
    obtain ⟨timer, unpulled, pulls, hdoc, he, -, hp⟩ := t.join_spec n
    exact ⟨_, he, hdoc ▸ .joins rfl hp.plain rfl rfl (by simp [Document.handshakeOutcome?, hw]) rfl⟩
  | @hand item rest hw hq =>
    exact ⟨_, (Emits.hand t item.notification).edit rfl, .spares (by simp [Event.isPlain]) rfl rfl
      (by simp [Document.handshakeOutcome?, hw])⟩
  | @finish item fault hw hl =>
    obtain ⟨timer, pulls, hdoc, he, hp⟩ := t.finish_spec item fault
    refine ⟨_, he, hdoc ▸ .spares (fun e hmem => ?_) rfl rfl
      (by simp [Document.handshakeOutcome?, hw])⟩
    rw [List.cons_append, List.mem_cons, List.mem_append, List.mem_singleton] at hmem
    rcases hmem with rfl | hmem | rfl
    · rfl
    · exact hp.plain e hmem
    · rfl
  | @stop e hw hl =>
    obtain ⟨hdoc, he⟩ := t.stop_spec e
    exact ⟨_, he, hdoc ▸ .spares (by simp [Document.dismissals, Event.isPlain]) rfl rfl
      (by simp [Document.handshakeOutcome?, Document.stop, hw])⟩

theorem Stride.treats (h : Stride t u) : ∃ es, Emits t es u ∧ t.doc.Treats es u.doc := by
  cases h with
  | write h => exact h.treats
  | @serve v rest hr hk hw =>
    let served : Turn := { t with doc.waiting := rest }
    obtain ⟨pulls, he, hp⟩ := served.pull_spec .refreshed v
    refine ⟨pulls, (Emits.document t served.doc rfl).trans he, ?_⟩
    rw [pull_doc]
    exact .serves (hp.congr rfl) hw rfl hk hk
  | @fire p hr hs ht hdue =>
    let fired : Turn := { t with doc.timer := none }
    obtain ⟨pulls, he, hp⟩ := fired.pull_spec .sent (.exact p.version)
    refine ⟨pulls, (Emits.document t fired.doc rfl).trans he, ?_⟩
    rw [pull_doc]
    exact .spares hp.plain rfl rfl rfl

/-! ## The end of the handshake -/

theorem Rests.served (h : t.Rests) : t.doc.Served := Document.AtRest.served h

/-- After the handshake came out well, all pulls that waited for it go out. -/
theorem Arrives.serves (h : Arrives t u) (hk : t.doc.handshakeOutcome? = some (.ok ())) :
    ∃ es, Emits t es u ∧ es.countP Event.isUnversioned = t.doc.claims ∧ u.doc.claims = 0 ∧
      u.doc.phase = t.doc.phase ∧ u.doc.handshakeOutcome? = some (.ok ()) := by
  obtain ⟨hstrides, hrests⟩ := h
  induction hstrides using ReflTransGen.head_induction_on with
  | refl =>
    have hnone : u.doc.claims = 0 := by simp [Document.claims, hrests.served hk]
    exact ⟨[], .nil u, hnone.symm, hnone, rfl, hk⟩
  | head hs _ ih =>
    obtain ⟨es, he, htreats⟩ := hs.treats
    cases htreats with
    | spares hes hw hphase houtcome =>
      obtain ⟨fs, hf, hcount, hnone, hphase', hk'⟩ := ih (houtcome.trans hk)
      refine ⟨es ++ fs, he.trans hf, ?_, hnone, hphase'.trans hphase, hk'⟩
      rw [List.countP_append, Log.countP_plain hes, hcount, Nat.zero_add, Document.claims,
        Document.claims, hw, hphase]
    | loses e hes hends hw hphase hbefore => cases hbefore.symm.trans hk
    | joins hes hpulls hw hphase hbefore => cases hbefore.symm.trans hk
    | serves hes hw hphase hbefore hafter =>
      obtain ⟨fs, hf, hcount, hnone, hphase', hk'⟩ := ih hafter
      refine ⟨es ++ fs, he.trans hf, ?_, hnone, hphase'.trans hphase, hk'⟩
      rw [List.countP_append, hcount]
      exact hes.claims hw hphase

/-- How a document fares in a turn with the pulls that wait for its handshake. -/
def Fares (t u : Turn) : Prop := ∃ l, u.log = t.log ++ l ∧ t.doc.Fares l u.doc

theorem Fares.trans {v : Turn} (h : Fares t u) (k : Fares u v) : Fares t v := by
  obtain ⟨l, hl, hfares⟩ := h
  obtain ⟨l', hl', hfares'⟩ := k
  exact ⟨l ++ l', by rw [hl', hl, List.append_assoc], hfares.trans hfares'⟩

theorem Alike.fares (h : Alike t u) : Fares t u :=
  ⟨[], by rw [h.log, List.append_nil], h.doc ▸ .refl u.doc⟩

theorem Arrives.fares (h : Arrives t u) (hserved : t.doc.Served) : Fares t u := by
  obtain ⟨hstrides, hrests⟩ := h
  induction hstrides using ReflTransGen.head_induction_on with
  | refl => exact (Alike.refl u).fares
  | head hs hrest ih =>
    obtain ⟨es, he, htreats⟩ := hs.treats
    cases htreats with
    | spares hes hw hphase houtcome =>
      refine .trans ⟨_, he.log, .waits ?_ ?_ ?_ hphase houtcome⟩ (ih fun hk => ?_)
      · rw [Log.unversioned_map, Log.countP_plain hes, List.replicate_zero]
      · refine Log.joined?_eq_none ?_
        rw [Log.handshakes_map, Log.handshakes_plain hes]
        exact List.not_mem_nil
      · rw [Document.claims, Document.claims, hphase, hw]
      · rw [hw, hserved (houtcome ▸ hk)]
    | loses e hes hends hw hphase hbefore hafter =>
      refine .trans ⟨_, he.log, .fails e ?_ ?_ ?_ hphase hbefore hafter⟩ (ih fun _ => hw)
      · rw [Log.unversioned_map, hes, List.countP_append, Log.countP_plain hends]
        rfl
      · refine Log.joined?_eq_none ?_
        rw [Log.handshakes_map, hes, List.filterMap_append, Log.handshakes_plain hends]
        simp [Event.handshake?]
      · simp [Document.claims, hw]
    | joins hes hpulls hw hphase hbefore hafter =>
      -- The pulls that waited go out in the strides that are left.
      obtain ⟨fs, hf, hcount, hnone, hphase', hk'⟩ := Arrives.serves ⟨hrest, hrests⟩ hafter
      refine ⟨_, (he.trans hf).log, .joins _ ?_ (by simp [Log.joined?, hes]; rfl) hnone
        (hphase'.trans hphase) hbefore hk'⟩
      have hopen (p : Phase) : (if p = .opening then .opened else p) = .closed ↔ p = .closed := by
        cases p <;> simp
      rw [Log.unversioned_map, hes, List.countP_append, List.countP_cons, Log.countP_plain hpulls,
        hcount, Document.claims, Document.claims, hw, hphase]
      simp [hopen, Event.isUnversioned]
    | serves hes hw hphase hbefore hafter => simp [hserved hbefore] at hw

theorem fares_progress (h : t.doc.Served) : Fares t t.progress := t.arrives_progress.fares h

theorem Passes.fares {target : Nat} (h : Passes target t u) (hserved : t.doc.Served) :
    Fares t u := by
  have hclock (t : Turn) (now : Nat) : Fares t (t.setClock now) :=
    ⟨[], (List.append_nil _).symm, .refl t.doc⟩
  induction h with
  | done huntil hu => exact (hclock _ _).trans hu.fares
  | @stop t u v due hle huntil hdue hu h ih =>
    have hsame : u.doc.Served := by rwa [hu.doc]
    exact (((hclock _ _).trans hu.fares).trans (fares_progress hsame)).trans
      (ih u.progress_rests.served)

theorem fares_perform (hserved : t.doc.Served) {a : DocumentAction}
    (ha : ∀ origin, a ≠ .refresh origin) :
    ∃ l, (t.perform a).progress.log = t.log ++ l ∧
      (a.work t.env.session.active t.doc).Fares l (t.perform a).progress.doc := by
  have hperform : t.perform a = { t with doc := a.work t.env.session.active t.doc } := by
    cases a with
    | refresh origin => exact absurd rfl (ha origin)
    | _ => rfl
  have hlog : (t.perform a).log = t.log := by
    rw [hperform, Turn.log, a.work_id, Turn.log]
  have hwork : (t.perform a).doc.Served := by
    rw [hperform]
    exact hserved.work _ a
  obtain ⟨l, hl, hfares⟩ := fares_progress hwork
  rw [hlog] at hl
  rw [show (t.perform a).doc = _ by rw [hperform]] at hfares
  exact ⟨l, hl, hfares⟩

end Turn

namespace Client

open Turn (Alike)

/-- Whether a move is a refresh of a document. -/
def Move.refreshes (id : DocumentId) (origin : RefreshOrigin) : Move → Bool
  | .act (.document other (.refresh o)) => other == id && o == origin
  | _ => false

theorem Move.eq_of_refreshes {id : DocumentId} {origin : RefreshOrigin} {m : Move}
    (h : m.refreshes id origin = true) : m = .act (.document id (.refresh origin)) := by
  unfold refreshes at h
  split at h
  · simp only [Bool.and_eq_true, beq_iff_eq] at h
    rw [h.1, h.2]
  · cases h

/-- Every move but a refresh works on a document, if it is about it, and otherwise lets it go on by
itself. -/
theorem Sound.fares {c : Client} (h : c.Sound) {d : Document} (hd : d ∈ c.documents) {m : Move}
    (hm : ∀ origin, m.refreshes d.id origin = false) :
    ∃ d' ∈ (c.move m).documents, d'.id = d.id ∧ ∃ l,
      (c.move m).log d.id = c.log d.id ++ l ∧ (m.work c.env.session.active d).Fares l d' := by
  obtain ⟨u, hreacts, hshows⟩ := h.reacts (shows_of_find? (find?_of_mem h.distinct hd)) m
  have hid : u.doc.id = d.id := hreacts.id
  have hlog : (c.move m).log d.id = u.log := hid ▸ hshows.alike.log
  refine ⟨u.doc, hshows.mem, hid, ?_⟩
  rw [hlog]
  -- What the document did not have to do with brought it where it starts from.
  have hfrom {t t' : Turn} (halike : Alike t t') (hdoc : t.doc = d) (ht : t.log = c.log d.id)
      (hfares : t'.Fares u) : ∃ l, u.log = c.log d.id ++ l ∧ d.Fares l u.doc := by
    obtain ⟨l, hl, hl'⟩ := halike.fares.trans hfares
    exact ⟨l, ht ▸ hl, hdoc ▸ hl'⟩
  have hheard (m : Move) : (Turn.hear ⟨d, c.env⟩ m).log = c.log d.id := by
    rw [Turn.log, Turn.hear, Environment.hear_history]
    rfl
  have hserved : d.Served := Document.AtRest.served (h.rests d hd)
  cases hreacts with
  | @act t' id a hid' halike =>
    obtain rfl : id = d.id := hid'
    have ha : ∀ origin, a ≠ .refresh origin := by
      rintro origin rfl
      simpa [Move.refreshes] using hm origin
    have hserved' : t'.doc.Served := by rwa [halike.doc]
    obtain ⟨l, hl, hfares⟩ := Turn.fares_perform hserved' ha
    have hlog' : t'.log = c.log d.id := halike.log
    rw [halike.doc, halike.world.session] at hfares
    rw [hlog'] at hl
    exact ⟨l, hl, by rwa [Move.work, if_pos rfl]⟩
  | @rouse t' i hi halike =>
    have hserved' : t'.doc.Served := by rwa [halike.doc]
    exact hfrom halike rfl (hheard _) (Turn.fares_progress hserved')
  | advance millis hpasses => exact hpasses.fares hserved
  | rest hstirs halike =>
    have hsame : m.work c.env.session.active d = d := by
      rcases m with - | ⟨id, a⟩ | a
      · rfl
      · have hne : id ≠ d.id := by simpa [Move.stirs] using hstirs
        exact if_neg hne
      · rfl
    rw [hsame]
    exact hfrom halike rfl (hheard m) (Turn.Alike.refl u).fares

end Client

end DocSync
