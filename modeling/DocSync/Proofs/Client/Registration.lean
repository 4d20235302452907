import DocSync.Proofs.Client.Opening
import DocSync.Proofs.Client.Refresh
import DocSync.Proofs.Document.Refresh
import DocSync.Proofs.Document.Registration

/-!
# Refreshes after a registration

When a server registers pulls after documents were opened, the documents that were opened without
are to be pulled. They are told by what they remember of their opening.
-/
namespace DocSync.Client

/-- How the handshake of a document came out, once that is known. -/
def outcome? (c : Client) (id : DocumentId) : Option (Except SessionError Unit) :=
  (c.find? id).bind Document.handshakeOutcome?

/-- Whether pulls were supported when the handshake of a document came out well, if it did. -/
def offered? (c : Client) (id : DocumentId) : List Move → Option Bool
  | [] => none
  | m :: ms =>
    if (c.move m).outcome? id = some (.ok ()) then some c.env.feature.supported
    else (c.move m).offered? id ms

theorem outcome?_of_mem {c : Client} (hc : c.ids.Nodup) {d : Document} (hd : d ∈ c.documents) :
    c.outcome? d.id = d.handshakeOutcome? := by
  rw [outcome?, find?_of_mem hc hd]
  rfl

theorem offered?_concat (c : Client) (id : DocumentId) (ms : List Move) (m : Move) :
    c.offered? id (ms ++ [m]) = (c.offered? id ms).or
      (if ((c.play ms).move m).outcome? id = some (.ok ()) then
        some (c.play ms).env.feature.supported else none) := by
  induction ms generalizing c with
  | nil => rfl
  | cons k ms ih =>
    rw [List.cons_append, offered?, offered?, ih, play_cons]
    split <;> rfl

/-- Nothing is known of an opening that is not over, or that failed. -/
theorem offered?_eq_none (env : Environment) (ms : List Move) (id : DocumentId)
    (h : ((start env).play ms).outcome? id ≠ some (.ok ())) : (start env).offered? id ms = none := by
  induction ms using List.reverseRecOn with
  | nil => rfl
  | append_singleton ms m ih =>
    rw [play_concat] at h
    have hbefore : ((start env).play ms).outcome? id ≠ some (.ok ()) := by
      intro hk
      obtain ⟨d, hf, hok⟩ := Option.bind_eq_some_iff.mp hk
      obtain ⟨hd, rfl⟩ := find?_eq_some hf
      have hc := sound_play env ms
      obtain ⟨d', hd', hid⟩ := hc.exists_play hd [m]
      have hlasting := hc.outcome_lasting hd hok [m] d' hd' hid
      refine h ?_
      rw [← hid, outcome?_of_mem (hc.move m).distinct hd', hlasting]
    rw [offered?_concat, ih hbefore, if_neg h]
    rfl

/-- What a document remembers lasts through a move, in which it may come to remember something. -/
theorem Sound.remembers {c : Client} (hc : c.Sound)
    (hg : ∀ d ∈ c.documents, Document.Writer.Greets d.policy.openClose d.writer)
    (hu : ∀ d ∈ c.documents, d.Unaware) {m : Move} {d' : Document}
    (hd' : d' ∈ (c.move m).documents) :
    (∃ d ∈ c.documents, d.id = d'.id ∧ d.Remembers c.env.feature.supported d') ∨ d'.IsNew := by
  rcases hc.source hd' with ⟨d, hd, l, hcourse, -, hid⟩ | ⟨hnew, -⟩
  · let worked := m.work c.env.session.active d
    have hworked : worked.Calm ∧ d.Remembers c.env.feature.supported worked := by
      refine m.work_induct (P := fun e => e.Calm ∧ d.Remembers c.env.feature.supported e) ?_
        ⟨hc.calm d hd, .refl (hu d hd)⟩
      rintro e e' hcall ⟨hcalm, hremembers⟩
      exact ⟨hcall.calm hcalm,
        hremembers.trans (hcall.remembers hcalm hremembers.unaware c.env.feature.supported)⟩
    have hgreets : Document.Writer.Greets worked.policy.openClose worked.writer :=
      @Document.Invariant.work _ Document.greets_invariant _ _ (c.log d.id) c.env.now (hg d hd) m
    exact .inl ⟨d, hd, hid, hworked.2.trans (hcourse.remembers hgreets hworked.2.unaware)⟩
  · exact .inr hnew

/-- A document that was announced remembers what was the case when its handshake came out well, and
all others remember nothing. -/
theorem recalls_play (env : Environment) (ms : List Move) :
    ∀ d ∈ ((start env).play ms).documents, d.Unaware ∧
      (d.handshakeOutcome? = some (.ok ()) → ∃ supported,
        (start env).offered? d.id ms = some supported ∧
          d.unpulled = (d.policy.openClose && !supported)) := by
  induction ms using List.reverseRecOn with
  | nil => simp [start]
  | append_singleton ms m ih =>
    intro d' hd'
    have hc := sound_play env ms
    rw [play_concat] at hd'
    rcases hc.remembers (Document.greets_invariant.play env ms) (fun d hd => (ih d hd).1) hd' with
      ⟨d, hd, hid, hremembers⟩ | hnew
    · refine ⟨hremembers.unaware, fun hk' => ?_⟩
      have hafter := outcome?_of_mem (hc.move m).distinct hd'
      rw [offered?_concat, if_pos (hafter.trans hk'), hremembers.policy]
      by_cases hk : d.handshakeOutcome? = some (.ok ())
      · obtain ⟨supported, hoffered, hunpulled⟩ := (ih d hd).2 hk
        rw [← hid, hoffered]
        exact ⟨supported, rfl, (hremembers.kept hk).2.trans hunpulled⟩
      · have hbefore := outcome?_of_mem hc.distinct hd
        rw [← hid, offered?_eq_none env ms d.id (hbefore ▸ hk)]
        exact ⟨_, rfl, hremembers.noted hk hk'⟩
    · rw [hnew]
      exact ⟨fun _ => rfl, fun hk => by cases hk⟩

/-- What a refresh after a registration does for a document, by what was the case at its opening. -/
structure Registers (c : Client) (d : Document) (offered : Option Bool) : Prop where
  known : d.phase = .opened → ∃ supported, offered = some supported
  /-- A document that was announced while pulls were not supported pulls for the version it has. -/
  missed : d.phase = .opened → d.policy.openClose = true → offered = some false →
    c.env.feature.supported = true →
      c.refreshPull? .capability d.id = some ⟨c.env.now, d.id,
        .pulled .refreshed (.exact d.version) ⟨d.uri, c.env.feature.identifier⟩⟩
  idle : d.phase ≠ .opened ∨ offered = some true ∨ c.env.feature.supported = false →
    c.refreshPull? .capability d.id = none ∧
      c.move (.act (.document d.id (.refresh .capability))) = c
  /-- A document that was not announced does not pull, whatever was the case. -/
  unannounced : d.policy.openClose = false →
    c.refreshPull? .capability d.id = none ∧
      c.move (.act (.document d.id (.refresh .capability))) = c

theorem registers_play (env : Environment) (before : List Move) {d : Document}
    (hd : d ∈ ((start env).play before).documents) :
    Registers ((start env).play before) d ((start env).offered? d.id before) := by
  have hc := sound_play env before
  obtain ⟨hunaware, hrecalls⟩ := recalls_play env before d hd
  have hok := (Document.lifecycle_invariant.play env before d hd).opened
  have hundecided := (hc.calm d hd).undecided
  have hleaves : d.leavesFor ((start env).play before).env.feature.supported .capability = none := by
    unfold Document.leavesFor
    split
    · rename_i hp
      simp [Document.wants, hunaware (hundecided hp.2.1)]
    · rfl
  have hidle (h : ((start env).play before).env.feature.supported = true → d.phase = .opened →
      d.unpulled = false) : ((start env).play before).refreshPull? .capability d.id = none ∧
        ((start env).play before).move (.act (.document d.id (.refresh .capability))) =
          (start env).play before := by
    have hpulls : d.pullsFor ((start env).play before).env.feature.supported .capability = none := by
      unfold Document.pullsFor
      split
      · rename_i hp
        simp [Document.wants, h hp.1 hp.2]
      · rfl
    refine ⟨?_, hc.refresh_idle hd hpulls hleaves⟩
    rw [refreshPull?, find?_of_mem hc.distinct hd, Option.bind_some, hpulls]
    rfl
  refine ⟨fun hp => ?_, fun hp ho hoffered hs => ?_, fun h => hidle fun hs hp => ?_,
    fun ho => hidle fun _ hp => ?_⟩
  · obtain ⟨supported, hoffered, -⟩ := hrecalls (hok hp)
    exact ⟨supported, hoffered⟩
  · obtain ⟨supported, hsome, hunpulled⟩ := hrecalls (hok hp)
    obtain rfl : supported = false := Option.some.inj (hsome.symm.trans hoffered)
    have hmissed : d.unpulled = true := by
      rw [hunpulled, ho]
      rfl
    rw [refreshPull?, find?_of_mem hc.distinct hd, Option.bind_some, Document.pullsFor,
      if_pos ⟨hs, hp⟩, Document.wants, if_pos hmissed]
    rfl
  · obtain ⟨supported, hsome, hunpulled⟩ := hrecalls (hok hp)
    rcases h with hother | hoffered | hunsupported
    · exact absurd hp hother
    · obtain rfl : supported = true := Option.some.inj (hsome.symm.trans hoffered)
      simpa using hunpulled
    · cases hs.symm.trans hunsupported
  · obtain ⟨supported, -, hunpulled⟩ := hrecalls (hok hp)
    rwa [ho] at hunpulled

end DocSync.Client
