import DocSync.Proofs.Client.Spoken
import DocSync.Proofs.Document.Mirror

/-!
# Client and server in lockstep

A run follows the rules of editing for a document if every change of its buffer is one edit,
reported in two halves: against the buffer before it, and with the text that the edit leaves behind.
Whatever else happens, also between the halves, such a run keeps the server's text in step: wherever
no edit is half reported, what the document queued and what is pending reproduce the buffer.
-/
namespace DocSync

def DocumentAction.editsText : DocumentAction → Bool
  | .before .. | .after _ | .type .. | .edit .. | .setText _ => true
  | .beginOpen | .flush | .save | .close | .refresh _ => false

namespace Client

open Document (Keeps Mirrors)

/-- The rules of editing for one document. A document that is given a text to open with has it in
its buffer. -/
inductive Obeys (c : Client) (id : DocumentId) : Typing → Move → Typing → Prop
  | create {uri : Uri} {languageId : String} {policy : SyncPolicy} {settings : Settings}
      {buffer : String} {initialText : Option String} (s : Typing)
      (h : c.freshId uri = id → initialText = none ∨ initialText = some buffer) :
      Obeys c id s (.create uri languageId policy settings buffer initialText) s
  | shared (s : Typing) (a : SharedAction) : Obeys c id s (.act (.shared a)) s
  | other (s : Typing) {id' : DocumentId} (h : id' ≠ id) (a : DocumentAction) :
      Obeys c id s (.act (.document id' a)) s
  | apart (s : Typing) {a : DocumentAction} (h : a.editsText = false) :
      Obeys c id s (.act (.document id a)) s
  | before {d : Document} (h : c.find? id = some d) (e : Edit) (old : Option String)
      (ho : old.getD d.buffer = d.buffer) :
      Obeys c id .whole (.act (.document id (.before e old))) (.half e d.buffer)
  /-- The buffer may change before the second half is reported. -/
  | setText (e : Edit) (old text : String) :
      Obeys c id (.half e old) (.act (.document id (.setText text))) (.half e old)
  | after {e : Edit} {old : String} (new : String) (h : e.Leaves old new) :
      Obeys c id (.half e old) (.act (.document id (.after new))) .whole
  | type {d : Document} (h : c.find? id = some d) {e : Edit} {new : Option String}
      (hnew : ∀ text, new = some text → e.Leaves d.buffer text) :
      Obeys c id .whole (.act (.document id (.type e new))) .whole
  | edit {d : Document} (h : c.find? id = some d) {e : Edit} {new : Option String}
      (hnew : ∀ text, new = some text → e.Leaves d.buffer text) :
      Obeys c id .whole (.act (.document id (.edit e new))) .whole

/-- A run by the rules, and whether it leaves an edit half reported. -/
inductive Follows (env : Environment) (id : DocumentId) : List Move → Typing → Prop
  | nil : Follows env id [] .whole
  | concat {ms : List Move} {m : Move} {s s' : Typing} (h : Follows env id ms s)
      (hm : Obeys ((start env).play ms) id s m s') : Follows env id (ms ++ [m]) s'

theorem Follows.concat_inv {env : Environment} {id : DocumentId} {ms : List Move} {m : Move}
    {s' : Typing} (h : Follows env id (ms ++ [m]) s') :
    ∃ s, Follows env id ms s ∧ Obeys ((start env).play ms) id s m s' := by
  generalize hns : ms ++ [m] = ns at h
  cases h with
  | nil => simp at hns
  | @concat ms' m' s _ h hm =>
    obtain ⟨rfl, hlast⟩ := List.append_inj' hns rfl
    obtain rfl : m = m' := by simpa using hlast
    exact ⟨s, h, hm⟩

theorem Follows.left {env : Environment} {id : DocumentId} {ms ns : List Move} {s' : Typing}
    (h : Follows env id (ms ++ ns) s') : ∃ s, Follows env id ms s := by
  induction ns using List.reverseRecOn generalizing s' with
  | nil => exact ⟨s', by simpa using h⟩
  | append_singleton ns m ih =>
    rw [← List.append_assoc] at h
    obtain ⟨s, hs, -⟩ := h.concat_inv
    exact ih hs

theorem textAfter_leaves {d : Document} {e : Edit} {new : Option String} {text : String}
    (hnew : ∀ text, new = some text → e.Leaves d.buffer text)
    (ht : d.textAfter e new = .ok text) : e.Leaves d.buffer text := by
  cases new with
  | none =>
    intro other hother
    have happly : e.apply d.buffer = .ok text := ht
    rw [happly, Except.ok.injEq] at hother
    exact hother
  | some given =>
    obtain rfl : given = text := by simpa [Document.textAfter] using ht
    exact hnew _ rfl

theorem mirrors_apart {active : Bool} {d : Document} {l : Log} {s : Typing}
    (h : Mirrors d (d.ledger l) s) (hk : Keeps d (d.ledger l)) (ho : d.policy.openClose = true)
    {a : DocumentAction} (ha : a.editsText = false) :
    Mirrors (a.work active d) ((a.work active d).ledger l) s := by
  cases a with
  | beginOpen => exact h.beginOpen hk ho
  | flush => exact h.flush
  | save => exact h.save active
  | close => exact Document.mirrors_of_closed (d.close_phase active) _ _
  | refresh origin => exact h
  | _ => cases ha

theorem ledger_recordBefore (d : Document) (old : String) (e : Edit) (l : Log) :
    (d.recordBefore old e).ledger l = d.ledger l := by
  unfold Document.recordBefore
  split <;> rfl

theorem ledger_recordAfter (d : Document) (new : String) (l : Log) :
    (d.recordAfter new).ledger l = d.ledger l := by
  unfold Document.recordAfter
  split <;> rfl

theorem ledger_type (d : Document) (e : Edit) (new : String) (l : Log) :
    (d.type e new).ledger l = d.ledger l := by
  rw [Document.type, ledger_recordAfter, ledger_recordBefore]
  rfl

theorem Obeys.mirrors {c : Client} {d : Document} {l : Log} {s s' : Typing} {m : Move}
    (hm : Obeys c d.id s m s') (hf : c.find? d.id = some d) (h : Mirrors d (d.ledger l) s)
    (hk : Keeps d (d.ledger l)) (ho : d.policy.openClose = true) (hkind : d.policy.kind ≠ .none)
    (active : Bool) : Mirrors (m.work active d) ((m.work active d).ledger l) s' := by
  have hpending : d.pending.kind ≠ .none := hk.kind ▸ hkind
  cases hm with
  | create s hi => exact h
  | shared s a => exact h
  | other s hne a =>
    rw [Move.work, if_neg hne]
    exact h
  | apart s ha =>
    rw [Move.work, if_pos rfl]
    exact mirrors_apart h hk ho ha
  | before hf' e old hold =>
    obtain rfl := Option.some.inj (hf.symm.trans hf')
    rw [Move.work, if_pos rfl, DocumentAction.work, hold, ledger_recordBefore]
    exact h.recordBefore e
  | setText e old text =>
    rw [Move.work, if_pos rfl]
    exact h.setText text
  | after new hnew =>
    rw [Move.work, if_pos rfl, DocumentAction.work, ledger_recordAfter]
    exact h.recordAfter hpending hnew
  | @type d' hf' e new hnew =>
    obtain rfl := Option.some.inj (hf.symm.trans hf')
    rw [Move.work, if_pos rfl]
    cases ht : d.textAfter e new with
    | error fault => simpa [DocumentAction.work, ht] using h
    | ok text =>
      simp only [DocumentAction.work, ht, ledger_type]
      exact h.type hpending (textAfter_leaves hnew ht)
  | @edit d' hf' e new hnew =>
    obtain rfl := Option.some.inj (hf.symm.trans hf')
    rw [Move.work, if_pos rfl]
    cases ht : d.textAfter e new with
    | error fault => simpa [DocumentAction.work, ht] using h
    | ok text =>
      simp only [DocumentAction.work, ht]
      have htyped : Mirrors (d.type e text) ((d.type e text).ledger l) .whole := by
        rw [ledger_type]
        exact h.type hpending (textAfter_leaves hnew ht)
      exact htyped.flush

theorem Follows.whole_of_notMem {env : Environment} {id : DocumentId} {ms : List Move} {s : Typing}
    (h : Follows env id ms s) (hid : id ∉ ((start env).play ms).ids) : s = .whole := by
  induction h with
  | nil => rfl
  | @concat ms m s s' _ hm ih =>
    rw [play_concat] at hid
    have hbefore : id ∉ ((start env).play ms).ids := fun hmem =>
      hid (ids_subset_move (sound_play env ms) m hmem)
    have hs := ih hbefore
    cases hm with
    | before hf e ho =>
      obtain ⟨hd, hdid⟩ := find?_eq_some hf
      exact absurd (hdid ▸ mem_ids hd) hbefore
    | setText e old text => cases hs
    | after hnew => rfl
    | type hf hnew => rfl
    | edit hf hnew => rfl
    | _ => exact hs

/-- A run by the rules keeps the mirror. -/
theorem Follows.mirrors {env : Environment} {id : DocumentId} {ms : List Move} {s : Typing}
    (h : Follows env id ms s) {d : Document} (hd : d ∈ ((start env).play ms).documents)
    (hid : d.id = id) (ho : d.policy.openClose = true) (hkind : d.policy.kind ≠ .none) :
    Mirrors d (d.ledger (((start env).play ms).log d.id)) s := by
  induction h generalizing d with
  | nil => simp [start] at hd
  | @concat ms m s s' hms hm ih =>
    have hsound := sound_play env ms
    rw [play_concat] at hd ⊢
    rcases hsound.source hd with ⟨e, he, l, hcourse, hlog, heid⟩ | ⟨hnew, hfresh, -, hcreate⟩
    · have hpolicy : e.policy = d.policy := by
        rw [hcourse.sameText.policy, Document.work_policy]
      have hkeeps := Document.keeps_invariant.play env ms e he
      have hmirrors := ih he (heid.trans hid) (hpolicy ▸ ho) (hpolicy ▸ hkind)
      have hobeys : Obeys ((start env).play ms) e.id s m s' := by rwa [heid, hid]
      have hworked := hobeys.mirrors (find?_of_mem hsound.distinct he) hmirrors hkeeps
        (hpolicy ▸ ho) (hpolicy ▸ hkind) ((start env).play ms).env.session.active
      rw [hlog, ← heid]
      exact hworked.course hcourse
    -- A document that the move creates has not been typed in.
    · have hs : s = .whole := by
        apply hms.whole_of_notMem
        rw [← hid, hfresh]
        exact hsound.freshId_notMem d.uri
      subst hs hcreate
      cases hm with
      | create s hinitial =>
        refine ⟨fun _ => ?_, fun ha => ?_⟩
        · rw [hnew]
          exact ⟨rfl, hinitial (hfresh.symm.trans hid)⟩
        · rw [hnew] at ha
          simp [Document.acceptsOutgoing, Document.acceptsEdits] at ha

theorem ledger_work {env : Environment} {ms : List Move} {d : Document}
    (hd : d ∈ ((start env).play ms).documents) (a : DocumentAction)
    (hr : (a.work ((start env).play ms).env.session.active d).isRefused = false) :
    (a.work ((start env).play ms).env.session.active d).ledger (((start env).play ms).log d.id) =
      (start env).spoken d.id (ms ++ [.act (.document d.id a)]) := by
  have hkeeps := Document.keeps_invariant.play env ms d hd
  have hspeaks := Speaks.queues (sound_play env ms).distinct hd (speaks_play env ms d hd) hkeeps
    (.act (.document d.id a))
  rw [Move.work, if_pos rfl] at hspeaks
  rw [spoken_concat]
  exact hspeaks.complete hr

/-- In lockstep: wherever no edit is half reported, and the document is opening or open with a
handshake that did not fail, what was queued and what is pending reproduce the buffer. After a flush
what was queued does so alone; a save follows it, and has that text if it has one; and so does the
closing.

Spans have lines and characters without a bound here. The words of 32 bits that a message has for
them are enough as long as every text has less than `2 ^ 32` bytes. -/
theorem lockstep {env : Environment} {ms : List Move} {d : Document}
    (h : Follows env d.id ms .whole) (hd : d ∈ ((start env).play ms).documents)
    (ho : d.policy.openClose = true) (hk : d.policy.kind ≠ .none) (ha : d.acceptsEdits = true)
    (hr : d.isRefused = false) :
    Reproduces ((start env).spoken d.id ms) d.pending.events d.buffer ∧
    Reproduces ((start env).spoken d.id (ms ++ [.act (.document d.id .flush)])) [] d.buffer ∧
    (((start env).play ms).env.session.active = true →
      (d.policy.save ≠ .disabled → ∃ sent,
        (start env).spoken d.id (ms ++ [.act (.document d.id .save)]) =
          sent ++ [.didSave d.uri (if d.policy.save.includesText then some d.buffer else none)] ∧
        Reproduces sent [] d.buffer) ∧
      ∃ sent, (start env).spoken d.id (ms ++ [.act (.document d.id .close)]) =
          sent ++ [.didClose d.uri] ∧ Reproduces sent [] d.buffer) := by
  have houtgoing : d.acceptsOutgoing = true := by simp [Document.acceptsOutgoing, ha, hr]
  have htracks := (h.mirrors hd rfl ho hk).alive houtgoing
  have hflush := htracks.flush houtgoing
  have hflushed : Reproduces (d.flush.1.ledger (((start env).play ms).log d.id)) [] d.buffer := by
    simpa [Document.Tracks] using hflush
  have hoffers : d.flush.1.acceptsOutgoing = true := by rwa [Document.flush_acceptsOutgoing]
  have hrefused : d.flush.1.isRefused = false := (Document.acceptsOutgoing_phase hoffers).2
  refine ⟨?_, ?_, fun hactive => ⟨fun hsave => ?_, ?_⟩⟩
  · rw [← (speaks_play env ms d hd).complete hr]
    exact htracks
  · rw [← ledger_work hd .flush hrefused]
    exact hflushed
  · have hledger := ledger_work hd .save
    rw [DocumentAction.work, hactive, Document.save_fst_of_acceptsOutgoing houtgoing hsave rfl,
      Document.ledger_push hoffers] at hledger
    exact ⟨_, (hledger hrefused).symm, hflushed⟩
  · have hwork : (d.close true).1 = (d.flush.1.push (.didClose d.uri)).1.shut := by
      rw [Document.close_fst, if_neg (Document.acceptsEdits_open ha),
        if_pos (by simp [houtgoing, ho])]
    have hledger := ledger_work hd .close
    rw [DocumentAction.work, hactive, hwork, Document.ledger_shut,
      Document.ledger_push hoffers] at hledger
    exact ⟨_, (hledger hrefused).symm, hflushed⟩

/-- A document that opens between the two halves of an edit. -/
def straddled : List Move :=
  let id : DocumentId := ⟨⟨"file:///a"⟩, 0⟩
  [.create id.uri "text" ⟨.incremental, true, .notifyWithText⟩ {} "a" none,
    .act (.document id (.before (.insertion 1 "b") none)), .act (.document id .beginOpen),
    .act (.document id (.after "ab"))]

theorem follows_straddled : Follows plain ⟨⟨"file:///a"⟩, 0⟩ straddled .whole := by
  have hfirst : Obeys ((start plain).play []) ⟨⟨"file:///a"⟩, 0⟩ .whole
      (.create ⟨"file:///a"⟩ "text" ⟨.incremental, true, .notifyWithText⟩ {} "a" none) .whole :=
    .create .whole fun _ => .inl rfl
  have hbegin : DocumentAction.editsText .beginOpen = false := rfl
  have hleaves : (Edit.insertion 1 "b").Leaves "a" "ab" := by
    intro text ht
    have happly : (Edit.insertion 1 "b").apply "a" = .ok "ab" := by decide
    exact Except.ok.inj (happly.symm.trans ht)
  have hbefore := (Follows.nil.concat hfirst).concat (.before rfl (.insertion 1 "b") none rfl)
  exact (hbefore.concat (.apart _ hbegin)).concat (.after "ab" hleaves)

theorem lockstep_straddled : ∃ d ∈ ((start plain).play straddled).documents,
    d.pending.events = [.full "ab"] ∧
      Reproduces ((start plain).spoken d.id straddled) [.full "ab"] "ab" := by
  obtain ⟨d, hd, hid, ho, hk, ha, hr, hbuffer, hevents⟩ :
      ∃ d ∈ ((start plain).play straddled).documents, d.id = ⟨⟨"file:///a"⟩, 0⟩ ∧
        d.policy.openClose = true ∧ d.policy.kind ≠ .none ∧ d.acceptsEdits = true ∧
        d.isRefused = false ∧ d.buffer = "ab" ∧ d.pending.events = [.full "ab"] := by decide
  have hall := lockstep (hid ▸ follows_straddled) hd ho hk ha hr
  rw [hbuffer, hevents] at hall
  exact ⟨d, hd, hevents, hall.1⟩

end Client

end DocSync
