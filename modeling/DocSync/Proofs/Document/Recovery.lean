import DocSync.Proofs.Document.Mirror
import DocSync.Proofs.Document.Pull

/-!
# What comes through

The notifications of a document have their outcomes in the order in which they were handed over. If
one with changes is lost, the server has fallen behind: what comes through later was made for a text
that the server does not have, unless it begins with a whole text.
-/
namespace DocSync

abbrev Outcome := Notification × Option SessionError

/-- The notifications that came through. -/
def received (os : List Outcome) : List Notification :=
  (os.filter fun o => o.2.isNone).map Prod.fst

def changesOf (ns : List Notification) : List Change := ns.flatMap Notification.changes

@[simp] theorem received_append (os ps : List Outcome) :
    received (os ++ ps) = received os ++ received ps := by
  simp [received]

@[simp] theorem changesOf_append (ns ms : List Notification) :
    changesOf (ns ++ ms) = changesOf ns ++ changesOf ms := List.flatMap_append

/-- Only what carries a version has changes. -/
theorem changesOf_eq_nil {ns : List Notification} (h : versionsOf ns = []) : changesOf ns = [] := by
  rw [changesOf, List.flatMap_eq_nil_iff]
  intro n hn
  have hplain : n.version? = none := List.filterMap_eq_nil_iff.mp h n hn
  cases n with
  | didChange uri version changes => cases hplain
  | _ => rfl

theorem changesOf_eq {ns ms spoken : List Notification} (hns : ns <+: spoken) (hms : ms <+: spoken)
    (h : versionsOf ns = versionsOf ms) : changesOf ns = changesOf ms := by
  have hlonger {ns rest : List Notification} (h : versionsOf ns = versionsOf (ns ++ rest)) :
      changesOf ns = changesOf (ns ++ rest) := by
    have hrest : versionsOf rest = [] := by simpa using h
    rw [changesOf_append, changesOf_eq_nil hrest, List.append_nil]
  rcases List.prefix_or_prefix_of_prefix hns hms with ⟨rest, rfl⟩ | ⟨rest, rfl⟩
  · exact hlonger h
  · exact (hlonger h.symm).symm

/-- Outcomes after which the server can follow, and whether it has fallen behind at their end: once
changes are lost, the next ones that come through begin with a whole text. -/
inductive Mended : List Outcome → Bool → Prop
  | nil : Mended [] false
  | plain {os : List Outcome} {behind : Bool} (h : Mended os behind) {n : Notification}
      (hn : n.changes = []) (fault : Option SessionError) : Mended (os ++ [(n, fault)]) behind
  | lost {os : List Outcome} {behind : Bool} (h : Mended os behind) (n : Notification)
      (e : SessionError) : Mended (os ++ [(n, some e)]) true
  | sent {os : List Outcome} {behind : Bool} (h : Mended os behind) {n : Notification} {c : Change}
      {cs : List Change} (hn : n.changes = c :: cs) (hc : behind = true → c.isFull = true) :
      Mended (os ++ [(n, none)]) false

theorem Change.replay_full {c : Change} (h : c.isFull = true) (cs : List Change)
    (old new : String) : replay old (c :: cs) = replay new (c :: cs) := by
  cases c with
  | full text => rfl
  | incremental => cases h

/-- What came through can be replayed, and leads to the same text as if nothing had been lost,
unless the server has fallen behind. -/
theorem Mended.replay {os : List Outcome} {behind : Bool} (h : Mended os behind)
    {opening text : String}
    (hall : Change.replay opening (changesOf (os.map Prod.fst)) = .ok text) :
    ∃ reached, Change.replay opening (changesOf (received os)) = .ok reached ∧
      (behind = false → reached = text) := by
  induction h generalizing text with
  | nil => exact ⟨text, hall, fun _ => rfl⟩
  | @plain os behind _ n hn fault ih =>
    have hsent : changesOf (received (os ++ [(n, fault)])) = changesOf (received os) := by
      cases fault <;> simp [received, changesOf, hn]
    rw [hsent]
    apply ih
    simpa [changesOf, hn] using hall
  | @lost os behind _ n e ih =>
    rw [List.map_append, changesOf_append] at hall
    obtain ⟨middle, hmiddle⟩ := Change.replay_prefix hall
    obtain ⟨reached, hreached, -⟩ := ih hmiddle
    exact ⟨reached, by simpa [received] using hreached, by simp⟩
  | @sent os behind _ n c cs hn hc ih =>
    rw [List.map_append, changesOf_append] at hall
    obtain ⟨middle, hmiddle⟩ := Change.replay_prefix hall
    obtain ⟨reached, hreached, hsame⟩ := ih hmiddle
    rw [Change.replay_append, hmiddle] at hall
    have hlast : Change.replay middle (c :: cs) = .ok text := by
      simpa [changesOf, hn, Except.bind] using hall
    -- What the server has is the text before, or it is replaced as a whole.
    have hnext : Change.replay reached (c :: cs) = .ok text := by
      cases behind with
      | false => rw [hsame rfl, hlast]
      | true => rw [Change.replay_full (hc rfl) cs reached middle, hlast]
    refine ⟨text, ?_, fun _ => rfl⟩
    rw [received_append, changesOf_append, Change.replay_append, hreached]
    simpa [received, changesOf, hn, Except.bind] using hnext

theorem Mended.reproduces {os : List Outcome} (h : Mended os false) {ns : List Notification}
    {text : String} (hns : Reproduces ns [] text)
    (hall : changesOf (os.map Prod.fst) = changesOf ns) (hfirst : (received os).head? = ns.head?) :
    Reproduces (received os) [] text := by
  obtain ⟨uri, languageId, version, opening, rest, rfl, hreplay⟩ := hns
  obtain ⟨others, hothers⟩ := List.head?_eq_some_iff.mp hfirst
  have hopening : changesOf (os.map Prod.fst) = changesOf rest := by
    simpa [changesOf, Notification.changes] using hall
  rw [List.append_nil] at hreplay
  obtain ⟨reached, hreached, hsame⟩ := h.replay ((congrArg _ hopening).trans hreplay)
  rw [hothers, hsame rfl] at hreached
  rw [hothers]
  refine ⟨uri, languageId, version, opening, others, rfl, ?_⟩
  simpa [changesOf, Notification.changes] using hreached

/-- A server that is only sent whole texts can always follow. -/
theorem mended_of_full {os : List Outcome}
    (h : ∀ o ∈ os, ∀ c ∈ o.1.changes, c.isFull = true) : ∃ behind, Mended os behind := by
  induction os using List.reverseRecOn with
  | nil => exact ⟨false, .nil⟩
  | append_singleton os o ih =>
    obtain ⟨n, fault⟩ := o
    obtain ⟨behind, hmended⟩ := ih fun m hm => h m (by simp [hm])
    cases fault with
    | some e => exact ⟨true, hmended.lost n e⟩
    | none =>
      cases hn : n.changes with
      | nil => exact ⟨behind, hmended.plain hn none⟩
      | cons c cs =>
        have hc : c.isFull = true := h (n, none) (by simp) c (by simp [hn])
        exact ⟨false, hmended.sent hn fun _ => hc⟩

namespace Log

theorem mem_of_outcomes {l : Log} {n : Notification} {fault : Option SessionError}
    (h : (n, fault) ∈ l.outcomes) : ∃ t, (t, Event.finished n fault) ∈ l := by
  obtain ⟨⟨t, e⟩, hmem, he⟩ := List.mem_filterMap.mp h
  cases e with
  | finished m f =>
    obtain ⟨rfl, rfl⟩ : m = n ∧ f = fault := by simpa [Event.outcome?] using he
    exact ⟨t, hmem⟩
  | _ => cases he

theorem outcomes_quiet {l : Log} {es : List Event} (h : ∀ e ∈ es, Quiet e) (now : Nat) :
    outcomes (l ++ es.map (now, ·)) = l.outcomes := by
  have hnone : outcomes (es.map (now, ·)) = [] := by
    rw [outcomes, List.filterMap_eq_nil_iff]
    intro x hx
    obtain ⟨e, he, rfl⟩ := List.mem_map.mp hx
    have := h e he
    cases e <;> simp_all [Quiet, Event.outcome?]
  rw [outcomes_append, hnone, List.append_nil]

end Log

namespace Document

/-- The outcomes of a document fit its log. -/
structure Settles (d : Document) (l : Log) : Prop where
  order : l.handed = l.outcomes.map Prod.fst ++ l.unresolved
  greeting : ∀ n fault, d.writer = .greeting n fault → l.outcomes = []
  failed : l.OpeningFailed → received l.outcomes = []

variable {d d' : Document} {l : Log} {now : Nat} {supported : Bool} {n : Notification}

theorem Settles.same (h : Settles d l)
    (hw : ∀ n fault, d'.writer = .greeting n fault → d.writer = .greeting n fault) :
    Settles d' l :=
  ⟨h.order, fun n fault hd => h.greeting n fault (hw n fault hd), h.failed⟩

theorem Settles.call {active : Bool} (h : Settles d l) (hc : Call active d d') : Settles d' l := by
  refine h.same fun n fault hw => ?_
  cases hc with
  | begin hp =>
    rw [beginOpen_eq hp] at hw
    split at hw <;> cases hw
  | _ => exact hw

theorem Settles.quiet (h : Settles d l) {es : List Event} (hes : ∀ e ∈ es, Log.Quiet e) :
    Settles d (l ++ es.map (now, ·)) := by
  refine ⟨?_, ?_, ?_⟩
  · rw [Log.handed_quiet hes, Log.outcomes_quiet hes, Log.unresolved_quiet hes]
    exact h.order
  · rw [Log.outcomes_quiet hes]
    exact h.greeting
  · rw [Log.outcomes_quiet hes]
    intro hfailed
    apply h.failed
    by_contra halive
    exact Log.alive_quiet halive hes hfailed

theorem Settles.hand (h : Settles d l) (hl : l.unresolved = [])
    (hw : ∀ n fault, d'.writer = .greeting n fault → l.handed = []) :
    Settles d' (l ++ [(now, .handed n)]) := by
  have hsame : Log.outcomes (l ++ [(now, .handed n)]) = l.outcomes := by
    simp [Log.outcomes, Event.outcome?]
  have horder := h.order
  rw [hl, List.append_nil] at horder
  refine ⟨?_, ?_, ?_⟩
  · rw [Log.handed_append, hsame, Log.unresolved_handed, hl, horder]
    rfl
  · intro m fault hgreeting
    rw [hw m fault hgreeting] at horder
    rw [hsame]
    exact List.map_eq_nil_iff.mp horder.symm
  · rw [hsame]
    intro hfailed
    apply h.failed
    by_contra halive
    exact Log.openingFailed_append halive (by simp) hfailed

theorem Settles.finish (h : Settles d l) (hl : l.unresolved = [n]) {fault : Option SessionError}
    (hw : ∀ n fault, d'.writer ≠ .greeting n fault)
    (hf : Log.OpeningFailed (l ++ [(now, .finished n fault)]) →
      received (l.outcomes ++ [(n, fault)]) = []) :
    Settles d' (l ++ [(now, .finished n fault)]) := by
  have hnext : Log.outcomes (l ++ [(now, .finished n fault)]) = l.outcomes ++ [(n, fault)] := by
    simp [Log.outcomes, Event.outcome?]
  refine ⟨?_, fun m fault' hd => absurd hd (hw m fault'), ?_⟩
  · rw [Log.handed_append, h.order, hnext, hl, Log.unresolved_finished hl]
    simp [Log.handed, Event.handed?]
  · rw [hnext]
    exact hf

theorem Settles.step {es : List Event} (h : Settles d l) (hp : Paced d l now)
    (hs : Step now supported d es d') : Settles d' (l ++ es.map (now, ·)) := by
  have hfits := hp.writer
  cases hs with
  | @refuse greeting e hw => exact (h.same (by simp [lose])).quiet (quiet_handshake (some e))
  | stop hw => exact (h.same (by simp [Document.stop])).quiet d.quiet_dismissals
  | greet fault hw =>
    rw [WriterFits, hw] at hfits
    exact h.hand hfits.1 fun _ _ _ => hfits.2.2.1
  | @fail n e hw =>
    rw [WriterFits, hw] at hfits
    -- No outcome comes before that of the opening.
    have hfinished : Settles (d.lose e) (l ++ [(now, .finished n (some e))]) := by
      refine h.finish hfits.1 (by simp [lose]) fun _ => ?_
      simp [received, h.greeting _ _ hw]
    simpa using hfinished.quiet (quiet_handshake (some e))
  | settle hw =>
    rw [WriterFits, hw] at hfits
    refine h.finish hfits.1 (by simp) fun hfailed => ?_
    exact absurd hfailed (Log.openingFailed_append hfits.2.1 (by simp))
  | join hw => exact (h.same (by simp [Document.establish])).quiet (quiet_handshake none)
  | establish hw hdue timer unpulled _ hattends =>
    refine Settles.quiet (h.same (by simp [Document.establish])) ?_
    intro e he
    rcases List.mem_cons.mp he with rfl | he
    · trivial
    · exact hattends.quiet e he
  | hand fault hw hqueue =>
    rw [WriterFits, hw] at hfits
    exact h.hand hfits.1 (by simp)
  | @finish item fault timer pulls hw hattends =>
    rw [WriterFits, hw] at hfits
    obtain ⟨hresolved, halive, -, hupdate⟩ := hfits
    have hfinished : Settles { d with writer := .idle, timer }
        (l ++ [(now, .finished item.notification fault)]) := by
      refine h.finish hresolved (by simp) fun hfailed => absurd hfailed ?_
      apply Log.openingFailed_append halive
      simp only [List.mem_singleton, forall_eq, Event.finished.injEq]
      rintro n e ⟨rfl, -⟩
      exact hupdate
    simpa using hfinished.quiet (hattends.quiet_finish item.ticket fault.isNone)
  | fire hw hdue hasks => exact (h.quiet hasks.quiet).same fun _ _ hd => hd
  | serve hw hk hasks => exact (h.quiet hasks.quiet).same fun _ _ hd => hd
  | refresh hp hs hv hasks => exact h.quiet hasks.quiet
  | enlist hp hr hs hv =>
    rw [List.map_nil, List.append_nil]
    exact h.same fun _ _ hd => hd

/-- Where anything came through, the opening did, as the first. -/
theorem Settles.first (h : Settles d l) {os rest : List Outcome}
    (hl : l.outcomes = os ++ (n, none) :: rest) {ns spoken : List Notification}
    {opening : Notification} (ho : opening.isOpening = true) (hns : opening :: ns <+: spoken)
    (hos : (os ++ [(n, none)]).map Prod.fst <+: spoken) :
    (received (os ++ [(n, none)])).head? = some opening := by
  obtain ⟨o, others, heq⟩ : ∃ o others, os ++ [(n, none)] = o :: others :=
    List.exists_cons_of_ne_nil (by simp)
  have hfirst : o.1 = opening := by
    obtain ⟨left, hleft⟩ := hos
    obtain ⟨right, hright⟩ := hns
    rw [heq, ← hright] at hleft
    exact (List.cons.inj hleft).1
  have houtcomes : l.outcomes = o :: (others ++ rest) := by
    rw [hl, ← List.cons_append, ← heq, List.append_assoc]
    rfl
  have hsent : o.2 = none := by
    cases hfault : o.2 with
    | none => rfl
    | some e =>
      have hfailed : (opening, some e) ∈ l.outcomes := by
        rw [houtcomes, ← hfirst, ← hfault]
        exact List.mem_cons_self
      obtain ⟨t, ht⟩ := Log.mem_of_outcomes hfailed
      have hnone := h.failed ⟨t, opening, e, ht, ho⟩
      have hmem : n ∈ received l.outcomes := by
        rw [hl]
        simp [received]
      rw [hnone] at hmem
      cases hmem
  rw [heq]
  simp [received, hsent, hfirst]

/-- Whatever a document has to say has the shape that its server wants. -/
structure Shaped (d : Document) (ns : List Notification) : Prop where
  pending : d.policy.kind.Shapes d.pending.events
  told : ∀ n ∈ ns, d.policy.kind.Shapes n.changes

theorem Shaped.concat {ns : List Notification} (h : Shaped d ns) (hpolicy : d'.policy = d.policy)
    (hpending : d.policy.kind.Shapes d'.pending.events) (hn : d.policy.kind.Shapes n.changes) :
    Shaped d' (ns ++ [n]) := by
  refine ⟨hpolicy ▸ hpending, fun m hm => ?_⟩
  rw [hpolicy]
  rcases List.mem_append.mp hm with hm | hm
  · exact h.told m hm
  · rw [List.mem_singleton.mp hm]
    exact hn

theorem Shaped.call {active : Bool} (h : Shaped d (d.ledger l)) (hk : Keeps d (d.ledger l))
    (hc : Call active d d') : Shaped d' (d'.ledger l) := by
  have hnone := d.policy.kind.shapes_nil
  cases hc with
  | begin hp =>
    have hcall : Call active d d.beginOpen := .begin hp
    have hpending := d.beginOpen_same Document.pending fun _ _ _ _ => rfl
    rw [hk.ledger_beginOpen hp]
    refine ⟨?_, fun n hn => ?_⟩
    · rw [hcall.setup.1, hpending]
      exact h.pending
    · rw [hcall.setup.1]
      rw [greetings] at hn
      split at hn
      · rw [List.mem_singleton.mp hn]
        exact hnone
      · cases hn
  | write buffer initialText pending hkind hs =>
    rw [hk.kind] at hs
    exact ⟨hs h.pending, h.told⟩
  | change ha hp =>
    rw [ledger_sendChanges ha]
    exact h.concat rfl hnone h.pending
  | save ha hs text =>
    rw [ledger_push ha]
    exact h.concat rfl h.pending hnone
  | vain ha hr hl hs text =>
    rw [ledger_push_refused hr]
    exact ⟨h.pending, h.told⟩
  | close ha ho hs =>
    rw [ledger_shut, ledger_push ha]
    exact h.concat rfl hnone hnone
  | abandon hc =>
    rw [ledger_shut]
    exact ⟨hnone, h.told⟩

theorem Shaped.step {es : List Event} (h : Shaped d (d.ledger l))
    (hs : Step now supported d es d') : Shaped d' (d'.ledger (l ++ es.map (now, ·))) := by
  have hsame := hs.sameText
  refine ⟨?_, fun n hn => ?_⟩
  · rw [hsame.policy, hsame.pending]
    exact h.pending
  · rw [hsame.policy]
    exact h.told n ((hs.ledger_prefix l).subset hn)

theorem Shaped.mended (h : Shaped d (d.ledger l)) (hsettles : Settles d l)
    (hfull : d.policy.kind = .full) {os rest : List Outcome}
    (hos : l.outcomes = os ++ (n, none) :: rest) (hn : n.changes ≠ []) :
    Mended (os ++ [(n, none)]) false := by
  have hwhole (o : Outcome) (ho : o ∈ os ++ [(n, none)]) : ∀ c ∈ o.1.changes, c.isFull = true := by
    have hhanded : o.1 ∈ l.handed := by
      rw [hsettles.order, hos]
      refine List.mem_append_left _ (List.mem_map_of_mem ?_)
      rcases List.mem_append.mp ho with ho | ho
      · exact List.mem_append_left _ ho
      · rw [List.mem_singleton.mp ho]
        exact List.mem_append_right _ List.mem_cons_self
    have hshape := h.told o.1 (List.mem_append_left _ hhanded)
    rwa [hfull] at hshape
  obtain ⟨behind, hmended⟩ : ∃ behind, Mended os behind :=
    mended_of_full fun o ho => hwhole o (by simp [ho])
  obtain ⟨c, cs, hchanges⟩ := List.exists_cons_of_ne_nil hn
  exact hmended.sent hchanges fun _ => hwhole (n, none) (by simp) c (by simp [hchanges])

theorem settles_invariant :
    Invariant fun d l now => (Keeps d (d.ledger l) ∧ Paced d l now) ∧
      Settles d l ∧ Shaped d (d.ledger l) where
  new h := by
    refine ⟨paced_invariant.new h, ?_, ?_⟩
    · exact ⟨rfl, fun _ _ _ => rfl, fun _ => rfl⟩
    · rw [h]
      exact ⟨SyncKind.shapes_nil _, by simp [Document.ledger, unsent, backlog, Writer.greeting?]⟩
  call hc h := by
    obtain ⟨hpaced, hsettles, hshaped⟩ := h
    exact ⟨paced_invariant.call hc hpaced, hsettles.call hc, hshaped.call hpaced.1 hc⟩
  step hs h := ⟨paced_invariant.step hs h.1, h.2.1.step h.1.2 hs, h.2.2.step hs⟩
  wait hle hu h := ⟨paced_invariant.wait hle hu h.1, h.2⟩

end Document
end DocSync
