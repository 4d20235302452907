import DocSync.Proofs.Client.Play

/-!
# What a ledger holds

The ledger of a document is the beginning of a dialogue: the opening, then changes and saves, and
the closing at the end; or changes and saves alone, where opening and closing are not reported.
Every notification in it suits the policy of the document.
-/
namespace DocSync

namespace Notification

def isUpdate : Notification → Bool
  | .didChange .. | .didSave .. => true
  | .didOpen .. | .didClose _ => false

/-- A notification about one document that its server wants to have. -/
def Suits (uri : Uri) (policy : SyncPolicy) : Notification → Prop
  | .didOpen u _ _ _ => u = uri ∧ policy.openClose = true
  | .didChange u _ changes => u = uri ∧ changes ≠ [] ∧ policy.kind ≠ .none
  | .didSave u _ => u = uri ∧ policy.save ≠ .disabled
  | .didClose u => u = uri ∧ policy.openClose = true

theorem Suits.uri_eq {uri : Uri} {policy : SyncPolicy} {n : Notification} (h : n.Suits uri policy) :
    n.uri = uri := by
  cases n <;> exact h.1

end Notification

/-- All that a server hears about one document as long as it is not closed. -/
inductive Underway : Bool → List Notification → Prop
  | silent {body : List Notification} (h : ∀ n ∈ body, n.isUpdate = true) : Underway false body
  | opened (uri : Uri) (languageId : String) (version : Version) (text : String)
      {body : List Notification} (h : ∀ n ∈ body, n.isUpdate = true) :
      Underway true (.didOpen uri languageId version text :: body)

/-- All that a server hears about one document, closed or not. -/
inductive Dialogue : Bool → List Notification → Prop
  | unfinished {openClose : Bool} {ns : List Notification} (h : Underway openClose ns) :
      Dialogue openClose ns
  | finished {ns : List Notification} (h : Underway true ns) (uri : Uri) :
      Dialogue true (ns ++ [.didClose uri])

theorem Underway.concat {openClose : Bool} {ns : List Notification} (h : Underway openClose ns)
    {n : Notification} (hn : n.isUpdate = true) : Underway openClose (ns ++ [n]) := by
  have hbody (body : List Notification) (hb : ∀ m ∈ body, m.isUpdate = true) :
      ∀ m ∈ body ++ [n], m.isUpdate = true := by
    intro m hm
    rcases List.mem_append.mp hm with hm | hm
    · exact hb m hm
    · rw [List.mem_singleton.mp hm, hn]
  cases h with
  | silent h => exact .silent (hbody _ h)
  | opened uri languageId version text h => exact .opened uri languageId version text (hbody _ h)

namespace Document

/-- What is true of a document and its ledger at every moment. -/
structure Keeps (d : Document) (ns : List Notification) : Prop where
  unopened : d.phase = .unopened → d.writer = .absent ∧ ns = []
  kind : d.pending.kind = d.policy.kind
  mute : d.policy.kind = .none → d.pending.events = []
  underway : d.acceptsOutgoing = true → Underway d.policy.openClose ns
  dialogue : ∃ s, Dialogue d.policy.openClose s ∧ ns <+: s
  suits : ∀ n ∈ ns, n.Suits d.uri d.policy

theorem acceptsEdits_unopened {d : Document} (h : d.acceptsEdits = true) : d.phase ≠ .unopened := by
  intro hp
  simp [acceptsEdits, hp] at h

theorem acceptsEdits_open {d : Document} (h : d.acceptsEdits = true) : d.phase ≠ .closed := by
  intro hp
  simp [acceptsEdits, hp] at h

theorem acceptsOutgoing_phase {d : Document} (h : d.acceptsOutgoing = true) :
    d.phase ≠ .unopened ∧ d.isRefused = false := by
  refine ⟨acceptsEdits_unopened (acceptsEdits_of_acceptsOutgoing h), ?_⟩
  simp only [acceptsOutgoing, Bool.and_eq_true, Bool.not_eq_true'] at h
  exact h.2

theorem acceptsOutgoing_open {d : Document} (h : d.acceptsOutgoing = true) : d.phase ≠ .closed :=
  acceptsEdits_open (acceptsEdits_of_acceptsOutgoing h)

@[simp] theorem backlog_push (d : Document) (n : Notification) :
    (d.push n).1.backlog = d.backlog ++ [n] := by
  simp [backlog, push]

theorem unsent_push {d : Document} (hr : d.isRefused = false) (n : Notification) :
    (d.push n).1.unsent = d.unsent ++ [n] := by
  rw [unsent_eq_backlog hr, unsent_eq_backlog (d := (d.push n).1) hr, backlog_push]

theorem ledger_push {d : Document} (ha : d.acceptsOutgoing = true) (n : Notification) (l : Log) :
    (d.push n).1.ledger l = d.ledger l ++ [n] := by
  rw [Document.ledger, Document.ledger, unsent_push (acceptsOutgoing_phase ha).2, List.append_assoc]

/-- After the handshake failed nothing joins the ledger any more. -/
theorem ledger_push_refused {d : Document} (hr : d.isRefused = true) (n : Notification) (l : Log) :
    (d.push n).1.ledger l = d.ledger l := by
  rw [Document.ledger, Document.ledger, unsent_of_isRefused hr,
    unsent_of_isRefused (d := (d.push n).1) hr]

theorem ledger_sendChanges {d : Document} (ha : d.acceptsOutgoing = true) (l : Log) :
    d.sendChanges.ledger l =
      d.ledger l ++ [.didChange d.uri d.version.next d.pending.events] :=
  ledger_push (d := { d with pending := d.pending.drain.2, version := d.version.next }) ha _ l

@[simp] theorem ledger_shut (d : Document) (l : Log) : d.shut.ledger l = d.ledger l := rfl

theorem keeps_new {d : Document} (h : d.IsNew) : Keeps d (d.ledger []) := by
  rw [h]
  have hnil : Underway false [] := .silent (by simp)
  refine ⟨fun _ => ⟨rfl, rfl⟩, rfl, fun _ => rfl, by simp [acceptsOutgoing, acceptsEdits], ?_,
    by simp [Document.ledger, unsent, isRefused, backlog, Writer.greeting?]⟩
  cases hp : d.policy.openClose with
  | false => exact ⟨[], .unfinished (by simpa [hp] using hnil), List.nil_prefix⟩
  | true =>
    have hgreeting : Underway true [.didOpen d.uri d.languageId .initial d.buffer] :=
      .opened d.uri d.languageId .initial d.buffer (by simp)
    exact ⟨_, .unfinished (by simpa [hp] using hgreeting), List.nil_prefix⟩

theorem Keeps.concat {d d' : Document} {ns : List Notification} {n : Notification}
    (h : Keeps d ns) (ha : d.acceptsOutgoing = true) (hn : n.Suits d.uri d.policy)
    (hid : d'.id = d.id) (hpolicy : d'.policy = d.policy) (hphase : d'.phase ≠ .unopened)
    (hkind : d'.pending.kind = d.policy.kind)
    (hmute : d.policy.kind = .none → d'.pending.events = [])
    (hlast : n.isUpdate = true ∨ n = .didClose d.uri ∧ d'.acceptsOutgoing = false) :
    Keeps d' (ns ++ [n]) := by
  have hunderway := h.underway ha
  refine ⟨fun hp => absurd hp hphase, hpolicy ▸ hkind, hpolicy ▸ hmute, ?_, ?_, ?_⟩
  · intro ha'
    rw [hpolicy]
    rcases hlast with hupdate | ⟨-, hclosed⟩
    · exact hunderway.concat hupdate
    · exact absurd ha' (by simp [hclosed])
  · rw [hpolicy]
    rcases hlast with hupdate | ⟨rfl, -⟩
    · exact ⟨_, .unfinished (hunderway.concat hupdate), List.prefix_rfl⟩
    · have hopen : d.policy.openClose = true := hn.2
      rw [hopen] at hunderway ⊢
      exact ⟨_, .finished hunderway d.uri, List.prefix_rfl⟩
  · intro m hm
    have huri : d'.uri = d.uri := congrArg DocumentId.uri hid
    rw [hpolicy, huri]
    rcases List.mem_append.mp hm with hm | hm
    · exact h.suits m hm
    · rw [List.mem_singleton.mp hm]
      exact hn

def greeting (d : Document) : Notification :=
  .didOpen d.uri d.languageId d.version.next (d.initialText.getD d.buffer)

theorem beginOpen_eq {d : Document} (hp : d.phase = .unopened) :
    d.beginOpen =
      if d.policy.openClose = true then
        { d with
          phase := .opening, version := d.version.next, initialText := none
          writer := .waiting (some d.greeting) }
      else { d with phase := .opening, writer := .waiting none } := by
  unfold beginOpen
  rw [hp]
  rfl

theorem beginOpen_waiting {d : Document} (hp : d.phase = .unopened) :
    ∃ greeting, d.beginOpen.writer = .waiting greeting := by
  rw [beginOpen_eq hp]
  split
  · exact ⟨_, rfl⟩
  · exact ⟨_, rfl⟩

theorem Call.setup {active : Bool} {d d' : Document} (h : Call active d d') :
    d'.policy = d.policy ∧ d'.settings = d.settings := by
  cases h with
  | begin hp =>
    exact ⟨d.beginOpen_same policy fun _ _ _ _ => rfl, d.beginOpen_same settings fun _ _ _ _ => rfl⟩
  | _ => exact ⟨rfl, rfl⟩

theorem work_policy (active : Bool) (d : Document) (m : Client.Move) :
    (m.work active d).policy = d.policy :=
  m.work_induct (P := fun e => e.policy = d.policy) (fun _ _ hc he => hc.setup.1.trans he) rfl

def greetings (d : Document) : List Notification :=
  if d.policy.openClose = true then [d.greeting] else []

theorem backlog_beginOpen {d : Document} (hp : d.phase = .unopened) (h : d.backlog = []) :
    d.beginOpen.backlog = d.greetings := by
  have hqueue : d.queue = [] := by simpa using (List.append_eq_nil_iff.mp h).2
  rw [beginOpen_eq hp, greetings]
  split <;> simp [backlog, Writer.greeting?, hqueue]

theorem Keeps.blank {d : Document} {l : Log} (h : Keeps d (d.ledger l)) (hp : d.phase = .unopened) :
    d.writer = .absent ∧ l.handed = [] ∧ d.backlog = [] := by
  obtain ⟨hwriter, hnil⟩ := h.unopened hp
  rw [Document.ledger, unsent_eq_backlog (by simp [isRefused, hwriter])] at hnil
  obtain ⟨hhanded, hbacklog⟩ := List.append_eq_nil_iff.mp hnil
  exact ⟨hwriter, hhanded, hbacklog⟩

theorem Keeps.ledger_beginOpen {d : Document} {l : Log} (h : Keeps d (d.ledger l))
    (hp : d.phase = .unopened) : d.beginOpen.ledger l = d.greetings := by
  obtain ⟨-, hlog, hbacklog⟩ := h.blank hp
  obtain ⟨greeting, hw⟩ := beginOpen_waiting hp
  rw [Document.ledger, hlog, unsent_eq_backlog (by simp [isRefused, hw]),
    backlog_beginOpen hp hbacklog, List.nil_append]

theorem Keeps.begin {d : Document} {l : Log} (h : Keeps d (d.ledger l)) (hp : d.phase = .unopened) :
    Keeps d.beginOpen (d.beginOpen.ledger l) := by
  rw [h.ledger_beginOpen hp, beginOpen_eq hp, greetings]
  cases ho : d.policy.openClose with
  | false =>
    have hsilent : Underway false [] := .silent (by simp)
    rw [if_neg (by simp), if_neg (by simp)]
    refine ⟨by simp, h.kind, h.mute, fun _ => ho ▸ hsilent, ?_, by simp⟩
    exact ⟨[], .unfinished (ho ▸ hsilent), List.prefix_rfl⟩
  | true =>
    have hopened : Underway true [d.greeting] := .opened _ _ _ _ (by simp)
    rw [if_pos rfl, if_pos rfl]
    refine ⟨by simp, h.kind, h.mute, fun _ => ho ▸ hopened, ?_, ?_⟩
    · exact ⟨[d.greeting], .unfinished (ho ▸ hopened), List.prefix_rfl⟩
    · intro n hn
      rw [List.mem_singleton.mp hn]
      exact ⟨rfl, ho⟩

theorem Keeps.same {d d' : Document} {ns : List Notification} (h : Keeps d ns)
    (hid : d'.id = d.id) (hpolicy : d'.policy = d.policy)
    (hunopened : d'.phase = .unopened → d.phase = .unopened ∧ d'.writer = d.writer)
    (hkind : d'.pending.kind = d.pending.kind)
    (hmute : d.pending.kind = .none → d.pending.events = [] → d'.pending.events = [])
    (houtgoing : d'.acceptsOutgoing = true → d.acceptsOutgoing = true) : Keeps d' ns := by
  have huri : d'.uri = d.uri := congrArg DocumentId.uri hid
  refine ⟨?_, ?_, ?_, ?_, ?_, ?_⟩
  · intro hp
    obtain ⟨hp, hw⟩ := hunopened hp
    rw [hw]
    exact h.unopened hp
  · rw [hkind, hpolicy, h.kind]
  · intro hk
    rw [hpolicy] at hk
    exact hmute (h.kind.trans hk) (h.mute hk)
  · intro ha
    rw [hpolicy]
    exact h.underway (houtgoing ha)
  · rw [hpolicy]
    exact h.dialogue
  · rw [hpolicy, huri]
    exact h.suits

theorem Keeps.cut {d : Document} {ns ms : List Notification} (h : Keeps d ns)
    (hr : d.isRefused = true) (hms : ms <+: ns) : Keeps d ms := by
  have hout : d.acceptsOutgoing = false := by simp [acceptsOutgoing, hr]
  refine ⟨?_, h.kind, h.mute, by simp [hout], ?_, fun n hn => h.suits n (hms.subset hn)⟩
  · intro hp
    obtain ⟨hw, -⟩ := h.unopened hp
    simp [isRefused, hw] at hr
  · obtain ⟨s, hs, hns⟩ := h.dialogue
    exact ⟨s, hs, hms.trans hns⟩

theorem Keeps.call {active : Bool} {d d' : Document} {l : Log} (h : Keeps d (d.ledger l))
    (hc : Call active d d') : Keeps d' (d'.ledger l) := by
  cases hc with
  | begin hp => exact h.begin hp
  | write buffer initialText pending hk hs =>
    have hmute (hkind : d.pending.kind = .none) (hevents : d.pending.events = []) :
        pending.events = [] := by
      rw [hkind, hevents] at hs
      exact hs rfl
    have hsame : Keeps { d with buffer, initialText, pending } (d.ledger l) :=
      h.same rfl rfl (fun hp => ⟨hp, rfl⟩) hk hmute (fun ha => ha)
    exact hsame
  | change ha hp =>
    have hkind : d.policy.kind ≠ .none := fun hk => hp (h.mute hk)
    rw [ledger_sendChanges ha]
    exact h.concat ha ⟨rfl, hp, hkind⟩ rfl rfl (acceptsOutgoing_phase ha).1 h.kind
      (fun _ => rfl) (.inl rfl)
  | save ha hs text =>
    rw [ledger_push ha]
    exact h.concat ha ⟨rfl, hs⟩ rfl rfl (acceptsOutgoing_phase ha).1 h.kind h.mute (.inl rfl)
  | vain ha hr hl hs text =>
    rw [ledger_push_refused hr]
    exact h.same rfl rfl (fun hp => ⟨hp, rfl⟩) rfl (fun _ he => he) fun ha => ha
  | close ha ho hs =>
    rw [ledger_shut, ledger_push ha]
    exact h.concat ha ⟨rfl, ho⟩ rfl rfl (by simp [shut]) h.kind (fun _ => rfl)
      (.inr ⟨rfl, rfl⟩)
  | abandon hc =>
    rw [ledger_shut]
    exact h.same rfl rfl (by simp [shut]) rfl (fun _ _ => rfl)
      (by simp [acceptsOutgoing, acceptsEdits, shut])

theorem Keeps.step {now : Nat} {supported : Bool} {d d' : Document} {es : List Event} {l : Log}
    (h : Keeps d (d.ledger l)) (hs : Step now supported d es d') :
    Keeps d' (d'.ledger (l ++ es.map (now, ·))) := by
  have hsame := hs.sameText
  have hunopened : d'.phase = .unopened → d.phase = .unopened ∧ d'.writer = d.writer := by
    intro hp
    have hp' := hs.unopened hp
    refine ⟨hp', ?_⟩
    have habsent := (h.unopened hp').1
    cases hs <;> simp_all
  have hkept : Keeps d' (d.ledger l) :=
    h.same hsame.id hsame.policy hunopened (congrArg _ hsame.pending)
      (fun _ he => by rw [hsame.pending, he]) hs.acceptsOutgoing
  rcases hs.ledger l with heq | ⟨hr, hbegins⟩
  · rwa [heq]
  · exact hkept.cut hr hbegins

theorem keeps_invariant : Invariant fun d l _ => Keeps d (d.ledger l) where
  new h := keeps_new h
  call hc h := h.call hc
  step hs h := h.step hs
  wait _ _ h := h

end Document

end DocSync
