import DocSync.Proofs.Document.Recovery

/-!
# Closed before it opened

A document may be closed while its opening still waits for the server. The opening goes out
nevertheless, and what was queued goes out right behind; so it depends on the session at the moment
of closing whether the server hears of the closing.
-/
namespace DocSync

/-- Only opening and closing change the phase. -/
theorem DocumentAction.work_phase (active : Bool) (d : Document) (a : DocumentAction) :
    (a.work active d).phase =
      match a with
      | .beginOpen => if d.phase = .unopened then .opening else d.phase
      | .close => .closed
      | _ => d.phase := by
  cases a with
  | beginOpen =>
    by_cases hp : d.phase = .unopened
    · rw [work, Document.beginOpen_phase hp]
      exact (if_pos hp).symm
    · rw [work, Document.beginOpen_of_ne hp]
      exact (if_neg hp).symm
  | before e old => exact d.recordBefore_phase _ e
  | after new => exact Document.recordAfter_phase _ new
  | type e new => cases ht : d.textAfter e new <;> simp [work, ht]
  | edit e new => cases ht : d.textAfter e new <;> simp [work, ht]
  | setText text => rfl
  | flush => exact d.flush_phase
  | save => exact d.save_phase active
  | close => exact d.close_phase active
  | refresh origin => rfl

instance (l : Log) : Decidable l.Opened :=
  inferInstanceAs (Decidable (∃ n ∈ l.handed, n.isOpening = true))

theorem Log.Opened.append {l : Log} (h : l.Opened) (k : Log) : Opened (l ++ k) := by
  obtain ⟨n, hn, hopening⟩ := h
  exact ⟨n, by rw [handed_append]; exact List.mem_append_left _ hn, hopening⟩

namespace Document

theorem work_close_inv {active : Bool} {d : Document} {m : Client.Move}
    (h : (m.work active d).phase = .closed) :
    d.phase = .closed ∨ m = .act (.document d.id .close) := by
  unfold Client.Move.work at h
  split at h
  · rename_i id a
    split at h
    · rename_i hid
      rw [DocumentAction.work_phase] at h
      cases a with
      | beginOpen =>
        dsimp only at h
        split at h
        · cases h
        · exact .inl h
      | close => exact .inr (by rw [hid])
      | _ => exact .inl h
    · exact .inl h
  · exact .inl h

/-- What a closed document leaves of itself is as it was. -/
theorem work_of_closed {d : Document} (h : d.phase = .closed) (active : Bool) (m : Client.Move) :
    (m.work active d).backlog = d.backlog ∧ (m.work active d).isRefused = d.isRefused := by
  have hsame : (m.work active d).phase = .closed ∧ (m.work active d).backlog = d.backlog ∧
      (m.work active d).isRefused = d.isRefused := by
    refine m.work_induct (P := fun e => e.phase = .closed ∧ e.backlog = d.backlog ∧
      e.isRefused = d.isRefused) ?_ ⟨h, rfl, rfl⟩
    rintro e e' hc ⟨hp, hbacklog, hrefused⟩
    obtain ⟨hp', hbacklog', hrefused'⟩ := hc.closed hp
    exact ⟨hp', hbacklog'.trans hbacklog, hrefused'.trans hrefused⟩
  exact hsame.2

/-- A document that is open or was opened has been heard of. -/
def Heard (d : Document) (l : Log) : Prop :=
  d.phase = .opened → d.policy.openClose = true → l.Opened

/-- A closed document has said goodbye, unless nobody is going to hear of it, or had heard of it
when it was closed. -/
def Parts (d : Document) (l : Log) : Prop := d.phase = .closed → d.Parted l ∨ l.Opened

theorem Settles.handed {d : Document} {l : Log} (h : Settles d l) {t : Nat} {n : Notification}
    {fault : Option SessionError} (hmem : (t, .finished n fault) ∈ l) : n ∈ l.handed := by
  rw [h.order]
  exact List.mem_append_left _ (List.mem_map_of_mem (Log.mem_outcomes hmem))

theorem Heard.step {now : Nat} {supported : Bool} {d d' : Document} {es : List Event} {l : Log}
    (h : Heard d l) (hp : Paced d l now) (hsettles : Settles d l)
    (hs : Step now supported d es d') : Heard d' (l ++ es.map (now, ·)) := by
  intro hopened ho
  rw [hs.sameText.policy] at ho
  rcases hs.phase with hsame | ⟨hopening, -⟩
  · exact (h (hsame.symm.trans hopened) ho).append _
  · have hfits := hp.writer
    cases hs with
    | join hw =>
      rw [WriterFits, hw, ho] at hfits
      cases hfits.2.2.2
    | establish hw hdue timer unpulled hattends =>
      rw [WriterFits, hw] at hfits
      obtain ⟨-, -, hn, t, hmem, -⟩ := hfits
      exact Log.Opened.append ⟨_, hsettles.handed hmem, hn⟩ _
    | _ => cases hopening.symm.trans hopened

theorem heard_invariant :
    Invariant fun d l now => ((Keeps d (d.ledger l) ∧ Paced d l now) ∧
      Settles d l ∧ Shaped d (d.ledger l)) ∧ Heard d l where
  new h := by
    refine ⟨settles_invariant.new h, fun hp => ?_⟩
    rw [h] at hp
    cases hp
  call hc h := by
    refine ⟨settles_invariant.call hc h.1, fun hp ho => ?_⟩
    cases hc with
    | begin hp' =>
      rw [beginOpen_phase hp'] at hp
      cases hp
    | close => cases hp
    | abandon => cases hp
    | _ => exact h.2 hp ho
  step hs h := ⟨settles_invariant.step hs h.1, h.2.step h.1.1.2 h.1.2.1 hs⟩
  wait hle hu h := ⟨settles_invariant.wait hle hu h.1, h.2⟩

theorem Parts.work {active : Bool} {d : Document} {l : Log} {m : Client.Move} (h : Parts d l)
    (hk : Keeps d (d.ledger l)) (hheard : Heard d l) (ho : d.policy.openClose = true)
    (hm : m = .act (.document d.id .close) → d.phase = .opening → active = true) :
    Parts (m.work active d) l := by
  intro hp
  rcases work_close_inv hp with hclosed | rfl
  · obtain ⟨hbacklog, hrefused⟩ := work_of_closed hclosed active m
    rw [Parted, hrefused, Document.ledger, unsent, hrefused, hbacklog]
    exact h hclosed
  · rw [Client.Move.work, if_pos rfl, DocumentAction.work, close_fst]
    split
    · rename_i hclosed
      exact h hclosed
    · split
      · rename_i hc
        simp only [Bool.and_eq_true] at hc
        refine .inl (.inr (.inr ⟨d.uri, ?_⟩))
        rw [ledger_shut, ledger_push (d.flush_acceptsOutgoing.trans hc.1.1)]
        exact List.mem_append_right _ (List.mem_singleton_self _)
      -- Nothing is queued: the session is inactive, or nobody takes anything.
      · rename_i hopen hc
        cases hphase : d.phase with
        | unopened => exact .inl (.inr (.inl (hk.unopened hphase).2))
        | opening =>
          have hr : d.isRefused = true := by
            simpa [acceptsOutgoing, acceptsEdits, hphase, ho, hm rfl hphase] using hc
          exact .inl (.inl hr)
        | opened => exact .inr (hheard hphase ho)
        | closed => exact absurd hphase hopen

theorem Parts.step {now : Nat} {supported : Bool} {d d' : Document} {es : List Event} {l : Log}
    (h : Parts d l) (hs : Step now supported d es d') : Parts d' (l ++ es.map (now, ·)) := by
  intro hp
  rcases h (hs.closed.mp hp) with hparted | hopened
  · exact .inl (hparted.step hs)
  · exact .inr (hopened.append _)

theorem Parts.course {now later : Nat} {supported : Bool} {d d' : Document} {l k : Log}
    (h : Parts d l) (hc : Course supported now d k later d') : Parts d' (l ++ k) :=
  Course.induct (P := fun e m _ => Parts e m) (fun hs he => he.step hs) (fun _ _ he => he) hc h

theorem Course.ledger_prefix {a b : Nat} {supported : Bool} {d d' : Document} {k : Log}
    (hc : Course supported a d k b d') (l : Log) : d'.ledger (l ++ k) <+: d.ledger l :=
  Course.induct (P := fun e m _ => e.ledger m <+: d.ledger l)
    (fun hs he => (hs.ledger_prefix _).trans he) (fun _ _ he => he) hc List.prefix_rfl

theorem Course.ledger {a b : Nat} {supported : Bool} {d d' : Document} {k : Log}
    (hc : Course supported a d k b d') (l : Log) :
    d'.ledger (l ++ k) = d.ledger l ∨ d'.isRefused = true := by
  refine Course.induct (P := fun e m _ => e.ledger m = d.ledger l ∨ e.isRefused = true) ?_
    (fun _ _ he => he) hc (.inl rfl)
  intro now e m es e' hs he
  rcases he with heq | hr
  · rcases hs.ledger m with hsame | ⟨hr, -⟩
    · exact .inl (hsame.trans heq)
    · exact .inr hr
  · exact .inr (hs.isRefused hr)

/-- An opening that goes out is what the writer waited with. -/
theorem waiting_of_opened {a b : Nat} {supported : Bool} {d d' : Document} {l k : Log}
    (hp : Paced d l a) (hc : Course supported a d k b d') (hbefore : ¬ l.Opened)
    (hafter : Log.Opened (l ++ k)) : ∃ n, d.writer = .waiting (some n) ∧ n.isOpening = true := by
  obtain ⟨n, hn, hopening⟩ := hafter
  have hunsent : n ∈ d.unsent := by
    have hmem := (hc.ledger_prefix l).subset (List.mem_append_left _ hn)
    rcases List.mem_append.mp hmem with hmem | hmem
    · exact absurd ⟨n, hmem, hopening⟩ hbefore
    · exact hmem
  rcases List.mem_append.mp (d.unsent_prefix.subset hunsent) with hmem | hmem
  · refine ⟨n, ?_, hopening⟩
    cases hw : d.writer with
    | waiting greeting =>
      rw [hw] at hmem
      cases greeting with
      | none => cases hmem
      | some m => rw [List.mem_singleton.mp hmem]
    | _ =>
      rw [hw] at hmem
      cases hmem
  · obtain ⟨item, hitem, rfl⟩ := List.mem_map.mp hmem
    rw [hp.queue item hitem] at hopening
    cases hopening

/-- A closed document whose opening is still to come has its closing queued behind it. -/
theorem Parts.queued {d : Document} {l : Log} {now : Nat} {n : Notification} (h : Parts d l)
    (hp : Paced d l now) (hw : d.writer = .waiting (some n)) (hclosed : d.phase = .closed) :
    ∃ uri, Notification.didClose uri ∈ d.queue.map Outgoing.notification := by
  have hfits := hp.writer
  rw [WriterFits, hw] at hfits
  obtain ⟨-, -, hnone, hn⟩ := hfits
  have hledger : d.ledger l = n :: d.queue.map Outgoing.notification := by
    simp [Document.ledger, hnone, unsent, isRefused, backlog, Writer.greeting?, hw]
  rcases h hclosed with (hr | hnil | ⟨uri, hmem⟩) | ⟨m, hm, -⟩
  · simp [isRefused, hw] at hr
  · rw [hledger] at hnil
    cases hnil
  · rw [hledger] at hmem
    rcases List.mem_cons.mp hmem with rfl | hmem
    · cases hn
    · exact ⟨uri, hmem⟩
  · rw [hnone] at hm
    cases hm

end Document

end DocSync
