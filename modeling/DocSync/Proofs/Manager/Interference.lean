import DocSync.Proofs.Client.Unfailing
import DocSync.Proofs.Manager.Succession

/-!
# The documents of one server do not interfere

Documents share the clock, the session, the link and the registry, refreshes go to all of them, and
so does a shutdown. But if what is done with the documents of one URI is left out of a run, then all
documents of other URIs stay as they are and do the same at the same times, as long as what their
notifications meet does not depend on each other.
-/
namespace DocSync

open Client (Move)

namespace Client

/-- Whether a move is one on the documents of a URI, or answers for them, or concerns their writers
alone. -/
def Move.addresses (uri : Uri) : Move → Bool
  | .create u .. => u == uri
  | .act (.document id _) => id.uri == uri
  | .act (.shared (.happen (.script text _))) => text == uri.text
  | .act (.shared (.happen (.delay id _))) => id.uri == uri
  | .act (.shared (.respond text _ _)) => text == uri.text
  | _ => false

theorem Move.addresses_eq_false {uri : Uri} {m : Move} (h : m.heard uri = true) :
    m.addresses uri = false := by
  rcases m with ⟨u, languageId, policy, settings, buffer, initialText⟩ | ⟨id, a⟩ | a
  · simpa [heard, addresses] using h
  · simpa [heard, addresses] using h
  · cases a with
    | happen i =>
      cases i with
      | failNext | script => cases h
      | delay id value => simpa [heard, addresses] using h
      | _ => rfl
    | advance => rfl
    | _ => cases h

/-- Leaving out what is made on the documents of a URI leaves out nothing that others can hear. -/
theorem filter_heard (uri : Uri) (ms : List Move) :
    (ms.filter fun m => !m.addresses uri).filter (Move.heard uri) = ms.filter (Move.heard uri) := by
  rw [List.filter_filter]
  refine List.filter_congr fun m _ => ?_
  cases h : m.heard uri with
  | false => rfl
  | true => simp [Move.addresses_eq_false h]

/-- A document is the same in two clients, and so are its log, which holds its notifications, its
pulls, its handshake and its deliveries with their times, and the replies to all that is done with
it. -/
structure SameFor (id : DocumentId) (c c' : Client) : Prop where
  found : c'.find? id = c.find? id
  log : c'.log id = c.log id
  reply : ∀ a, (c'.perform (.document id a)).map Prod.snd =
    (c.perform (.document id a)).map Prod.snd

theorem deliver_reply {c c' : Client} {id : DocumentId} (hf : c'.find? id = c.find? id)
    (work : Document → Document × Delivery) :
    (c'.deliver id work).2 = (c.deliver id work).2 := by
  unfold deliver
  rw [hf]
  split <;> rfl

theorem close_reply {c c' : Client} {id : DocumentId} (hf : c'.find? id = c.find? id)
    (hs : c'.env.session = c.env.session) : (c'.close id).2 = (c.close id).2 := by
  obtain ⟨r, hr⟩ := c.clearBeforeClose_eq id
  obtain ⟨r', hr'⟩ := c'.clearBeforeClose_eq id
  have hsame : (c'.setRegistry r').find? id = (c.setRegistry r).find? id := hf
  unfold close
  rw [hr, hr', hs]
  exact deliver_reply hsame _

theorem beginOpen_reply {c c' : Client} {id : DocumentId} (hf : c'.find? id = c.find? id) :
    (c'.beginOpen id).2 = (c.beginOpen id).2 := by
  unfold beginOpen
  rw [hf]
  split <;> rfl

theorem performOn_reply {c c' : Client} {d : Document} (hf : c'.find? d.id = c.find? d.id)
    (hs : c'.env.session = c.env.session) (a : DocumentAction) :
    (c'.performOn d a).2 = (c.performOn d a).2 := by
  cases a with
  | beginOpen => exact congrArg Reply.handshake (beginOpen_reply hf)
  | type e new =>
    simp only [performOn]
    split <;> rfl
  | edit e new =>
    simp only [performOn]
    split
    · rfl
    · exact congrArg Reply.delivery (deliver_reply hf _)
  | flush => exact congrArg Reply.delivery (deliver_reply hf _)
  | save =>
    simp only [performOn, delivered, save, hs]
    exact congrArg Reply.delivery (deliver_reply hf _)
  | close => exact congrArg Reply.delivery (close_reply hf hs)
  | _ => rfl

theorem Agrees.same {uri : Uri} {c c' : Client} (h : Agrees uri c c') {id : DocumentId}
    (hid : id.uri ≠ uri) : SameFor id c c' := by
  refine ⟨h.found id hid, h.log id hid, fun a => ?_⟩
  dsimp only [perform]
  rw [h.found id hid]
  cases hf : c.find? id with
  | none => rfl
  | some d =>
    obtain ⟨-, rfl⟩ := find?_eq_some hf
    exact congrArg some (performOn_reply (h.found d.id hid) (h.world d.id hid).session a)

end Client

/-- Whether an action is one on the document of a URI. -/
def ManagerAction.concerns (uri : Uri) : ManagerAction → Bool
  | .openDocument u _ _ => u == uri
  | .close u => u == uri
  | .document u _ => u == uri
  | _ => false

/-- Whether an action is one on the document of a URI, or answers for it, or concerns its writer
alone. -/
def ManagerAction.addresses (uri : Uri) : ManagerAction → Bool
  | .shared (.happen (.script text _)) => text == uri.text
  | .shared (.happen (.delay id _)) => id.uri == uri
  | .shared (.respond text _ _) => text == uri.text
  | a => a.concerns uri

/-- Whether an action has a notification fail, whichever comes next. -/
def ManagerAction.fails : ManagerAction → Bool
  | .shared a => Move.fails (.act (.shared a))
  | _ => false

namespace Manager

/-- What others can hear of an action on all listed documents is an action on all others. -/
theorem Owned.filter_heard {m : Manager} (h : m.Owned) (uri : Uri) (a : DocumentAction) :
    (m.documents.map fun x => Move.act (.document x.2 a)).filter (Move.heard uri) =
      (m.documents.filter fun x => x.1 != uri).map fun x => .act (.document x.2 a) := by
  rw [List.filter_map]
  congr 1
  refine List.filter_congr fun x hx => ?_
  simp [Move.heard, h x hx]

/-- Nobody else can hear what is done with the document of a URI. -/
theorem Owned.moves_addressed {m : Manager} (h : m.Owned) {uri : Uri} {a : ManagerAction}
    (ha : a.addresses uri = true) : (m.moves a).filter (Move.heard uri) = [] := by
  have hfound (b : DocumentAction) :
      ((m.find? uri).toList.map fun id => Move.act (.document id b)).filter (Move.heard uri) =
        [] := by
    cases hf : m.find? uri with
    | none => rfl
    | some id => simp [Move.heard, h.of_find? hf]
  cases a with
  | openDocument u text languageId =>
    obtain rfl : u = uri := by simpa [ManagerAction.addresses, ManagerAction.concerns] using ha
    cases hf : m.find? u with
    | none => simp [moves, hf, Move.heard, Client.freshId_eq]
    | some id => simp [moves, hf, Move.heard, h.of_find? hf]
  | close u =>
    obtain rfl : u = uri := by simpa [ManagerAction.addresses, ManagerAction.concerns] using ha
    exact hfound .close
  | document u b =>
    obtain rfl : u = uri := by simpa [ManagerAction.addresses, ManagerAction.concerns] using ha
    exact hfound b
  | shared b =>
    cases b with
    | happen i =>
      cases i with
      | script => rfl
      | delay id value =>
        have hid : id.uri = uri := by simpa [ManagerAction.addresses] using ha
        simp [moves, Move.heard, hid]
      | _ => cases ha
    | respond => rfl
    | _ => cases ha
  | _ => cases ha

theorem lists_addressed (m : Manager) {uri : Uri} {a : ManagerAction}
    (ha : a.addresses uri = true) :
    ((m.lists a).filter fun x => x.1 != uri) = m.documents.filter fun x => x.1 != uri := by
  cases a with
  | openDocument u text languageId =>
    obtain rfl : u = uri := by simpa [ManagerAction.addresses, ManagerAction.concerns] using ha
    dsimp only [lists]
    split
    · simp
    · rfl
  | close u =>
    obtain rfl : u = uri := by simpa [ManagerAction.addresses, ManagerAction.concerns] using ha
    dsimp only [lists]
    split
    · rfl
    · rw [List.filter_filter]
      simp
  | shutdown => cases ha
  | _ => rfl

/-- About all URIs but one, two managers are the same to whoever looks on. -/
structure Agrees (uri : Uri) (m m' : Manager) : Prop where
  definition : m'.definition = m.definition
  policy : m'.policy = m.policy
  settings : m'.settings = m.settings
  listed : (m'.documents.filter fun x => x.1 != uri) = m.documents.filter fun x => x.1 != uri
  client : Client.Agrees uri m.client m'.client

namespace Agrees

variable {uri : Uri} {m m' : Manager}

theorem refl (uri : Uri) (m : Manager) : Agrees uri m m := ⟨rfl, rfl, rfl, rfl, .refl uri m.client⟩

theorem find? (h : Agrees uri m m') {v : Uri} (hv : v ≠ uri) : m'.find? v = m.find? v := by
  rw [Manager.find?, ← Table.lookup_filter_of_ne hv m'.documents, h.listed,
    Table.lookup_filter_of_ne hv m.documents]
  rfl

theorem moves (h : Agrees uri m m') (ho : m.Owned) (ho' : m'.Owned) (a : ManagerAction) :
    (m'.moves a).filter (Move.heard uri) = (m.moves a).filter (Move.heard uri) := by
  by_cases ha : a.addresses uri = true
  · rw [ho.moves_addressed ha, ho'.moves_addressed ha]
  · cases a with
    | openDocument u text languageId =>
      have hu : u ≠ uri := by simpa [ManagerAction.addresses, ManagerAction.concerns] using ha
      simp only [Manager.moves]
      rw [h.find? hu, h.definition, h.policy, h.settings, h.client.freshId hu]
    | close u =>
      have hu : u ≠ uri := by simpa [ManagerAction.addresses, ManagerAction.concerns] using ha
      simp only [Manager.moves]
      rw [h.find? hu]
    | document u b =>
      have hu : u ≠ uri := by simpa [ManagerAction.addresses, ManagerAction.concerns] using ha
      simp only [Manager.moves]
      rw [h.find? hu]
    | refresh origin =>
      simp only [Manager.moves]
      rw [ho.filter_heard, ho'.filter_heard, h.listed]
    | publish params =>
      have hnone (m : Manager) : (m.moves (.publish params)).filter (Move.heard uri) = [] := by
        simp only [Manager.moves]
        split
        · rfl
        · split
          · rfl
          · split <;> rfl
      rw [hnone, hnone]
    | shutdown =>
      simp only [Manager.moves]
      rw [ho.filter_heard, ho'.filter_heard, h.listed]
    | shared b => rfl

theorem lists (h : Agrees uri m m') (a : ManagerAction) :
    ((m'.lists a).filter fun x => x.1 != uri) = (m.lists a).filter fun x => x.1 != uri := by
  by_cases ha : a.addresses uri = true
  · rw [lists_addressed m ha, lists_addressed m' ha, h.listed]
  · cases a with
    | openDocument u text languageId =>
      have hu : u ≠ uri := by simpa [ManagerAction.addresses, ManagerAction.concerns] using ha
      simp only [Manager.lists]
      rw [h.find? hu, h.client.freshId hu]
      split
      · rw [List.filter_append, List.filter_append, h.listed]
      · exact h.listed
    | close u =>
      have hu : u ≠ uri := by simpa [ManagerAction.addresses, ManagerAction.concerns] using ha
      simp only [Manager.lists]
      rw [h.find? hu]
      split
      · exact h.listed
      · rw [List.filter_comm, h.listed, List.filter_comm]
    | shutdown => rfl
    | _ => exact h.listed

variable {f : Transport}

/-- Every action keeps up the agreement. -/
theorem step (h : Agrees uri m m') (hm : m.Sound) (hm' : m'.Sound) (ho : m.Owned) (ho' : m'.Owned)
    {a : ManagerAction} (hf : (m.step a).client.Meets f) (hf' : (m'.step a).client.Meets f) :
    Agrees uri (m.step a) (m'.step a) := by
  rw [client_step] at hf hf'
  rw [step_eq, step_eq]
  exact ⟨h.definition, h.policy, h.settings, h.lists a,
    h.client.play hm.client hm'.client (h.moves ho ho' a) hf hf'⟩

/-- What is done with the document of a URI makes no difference to all others. -/
theorem addressed (h : Agrees uri m m') (hm : m.Sound) (ho : m.Owned) {a : ManagerAction}
    (ha : a.addresses uri = true) : Agrees uri (m.step a) m' := by
  have hunheard : ∀ n ∈ m.moves a, n.heard uri = false := by
    simpa [List.filter_eq_nil_iff] using ho.moves_addressed ha
  rw [step_eq]
  exact ⟨h.definition, h.policy, h.settings, h.listed.trans (lists_addressed m ha).symm,
    (hm.client.agrees_unheard_play hunheard).symm.trans h.client⟩

theorem run (h : Agrees uri m m') (hm : m.Sound) (hm' : m'.Sound) (ho : m.Owned) (ho' : m'.Owned)
    {as : List ManagerAction} (hf : (m.run as).client.Meets f)
    (hf' : (m'.run (as.filter fun a => !a.addresses uri)).client.Meets f) :
    Agrees uri (m.run as) (m'.run (as.filter fun a => !a.addresses uri)) := by
  induction as generalizing m m' with
  | nil => exact h
  | cons a as ih =>
    by_cases ha : a.addresses uri = true
    · rw [List.filter_cons_of_neg (by simp [ha])] at hf' ⊢
      exact ih (h.addressed hm ho ha) (hm.step a) hm' (ho.step a) ho' hf hf'
    · rw [List.filter_cons_of_pos (by simp [ha])] at hf' ⊢
      have hnow : (m.step a).client.Meets f := by
        rw [run_cons, client_run] at hf
        exact hf.of_play (hm.step a).client
      have hnow' : (m'.step a).client.Meets f := by
        rw [run_cons, client_run] at hf'
        exact hf'.of_play (hm'.step a).client
      exact ih (h.step hm hm' ho ho' hnow hnow') (hm.step a) (hm'.step a) (ho.step a) (ho'.step a)
        hf hf'

/-- The replies to all that is done with documents of other URIs are the same. -/
theorem reply (h : Agrees uri m m') (hm : m.Sound) (hm' : m'.Sound) (ho : m.Owned) {v : Uri}
    (hv : v ≠ uri) {a : ManagerAction} (ha : a.concerns v = true) :
    (m'.perform a).map Prod.snd = (m.perform a).map Prod.snd := by
  have hfound {id : DocumentId} (hf : m.find? v = some id) :
      m'.client.find? id = m.client.find? id :=
    h.client.found id (ho.of_find? hf ▸ hv)
  have hsession : m'.client.env.session = m.client.env.session := (h.client.world ⟨v, 0⟩ hv).session
  cases a with
  | openDocument u text languageId =>
    obtain rfl : u = v := by simpa [ManagerAction.concerns] using ha
    suffices hsame :
      (m'.openDocument u text languageId).2 = (m.openDocument u text languageId).2 from
      congrArg (fun r => some (Reply.handshake r)) hsame
    unfold openDocument
    rw [h.find? hv]
    cases hf : m.find? u with
    | some id => exact Client.beginOpen_reply (hfound hf)
    | none =>
      dsimp only
      rw [h.definition, h.policy, h.settings, h.client.freshId hv]
      obtain ⟨t, ht, hshows, hshows'⟩ := h.client.create hm.client hm'.client hv
        (languageId.getD (m.definition.languageOf u)) m.policy m.settings text none
      exact Client.beginOpen_reply (ht ▸ hshows'.found.trans hshows.found.symm)
  | close u =>
    obtain rfl : u = v := by simpa [ManagerAction.concerns] using ha
    suffices hsame : (m'.close u).2 = (m.close u).2 from
      congrArg (fun r => some (Reply.delivery r)) hsame
    unfold close
    rw [h.find? hv]
    cases hf : m.find? u with
    | none => rfl
    | some id => exact Client.close_reply (hfound hf) hsession
  | document u b =>
    obtain rfl : u = v := by simpa [ManagerAction.concerns] using ha
    unfold perform document?
    dsimp only
    rw [h.find? hv]
    cases hf : m.find? u with
    | none => rfl
    | some id =>
      rw [Option.bind_some, Option.bind_some, hfound hf]
      cases hd : m.client.find? id with
      | none => rfl
      | some d =>
        obtain ⟨-, rfl⟩ := Client.find?_eq_some hd
        exact congrArg some (Client.performOn_reply (hfound hf) hsession b)
  | _ => cases ha

end Agrees

theorem fails_moves {m : Manager} {a : ManagerAction} (ha : a.fails = false) :
    ∀ n ∈ m.moves a, n.fails = false := by
  have hdocuments {ids : List DocumentId} {b : DocumentAction} {n : Move}
      (hn : n ∈ ids.map fun id => .act (.document id b)) : n.fails = false := by
    obtain ⟨id, -, rfl⟩ := List.mem_map.mp hn
    rfl
  intro n hn
  cases a with
  | openDocument u text languageId =>
    simp only [moves] at hn
    split at hn
    · rw [List.mem_singleton.mp hn]
      rfl
    · rcases List.mem_cons.mp hn with rfl | hn
      · rfl
      · rw [List.mem_singleton.mp hn]
        rfl
  | close u => exact hdocuments hn
  | document u b => exact hdocuments hn
  | refresh origin =>
    obtain ⟨x, -, rfl⟩ := List.mem_map.mp hn
    rfl
  | publish params =>
    simp only [moves] at hn
    split at hn
    · cases hn
    · split at hn
      · cases hn
      · split at hn
        · rw [List.mem_singleton.mp hn]
          rfl
        · cases hn
  | shutdown =>
    obtain ⟨x, -, rfl⟩ := List.mem_map.mp hn
    rfl
  | shared b =>
    rw [List.mem_singleton.mp hn]
    exact ha

theorem fails_script {m : Manager} {as : List ManagerAction} (has : ∀ a ∈ as, a.fails = false) :
    ∀ n ∈ m.script as, n.fails = false := by
  induction as generalizing m with
  | nil => simp [script]
  | cons a as ih =>
    intro n hn
    rcases List.mem_append.mp hn with hn | hn
    · exact fails_moves (has a List.mem_cons_self) n hn
    · exact ih (fun b hb => has b (List.mem_cons_of_mem a hb)) n hn

/-- If no failure is queued, every notification in a run of a manager comes through. -/
theorem unfailing_run (name : String) (definition : ServerDefinition) (policy : SyncPolicy)
    (settings : Settings) {env : Environment} (henv : env.link.failures = [])
    {as : List ManagerAction} (has : ∀ a ∈ as, a.fails = false) :
    ((start name definition policy settings env).run as).client.Unfailing := by
  rw [client_run]
  exact Client.unfailing_play henv (fails_script has)

/-- What is done with the documents of one URI makes no difference to all others: neither to what
they have become by the end of a run, which is any moment of it, nor to what they did until then,
nor to the replies that they give. Either no failure is queued, so that everything comes through,
or what a notification meets is told by its document and by its number there. -/
theorem undisturbed (uri : Uri) :
    (∀ (env : Environment) (ms : List Move),
      let c := (Client.start env).play ms
      let c' := (Client.start env).play (ms.filter fun n => !n.addresses uri)
      ((env.link.failures = [] ∧ ∀ n ∈ ms, n.fails = false) ∨ ∃ f, c.Meets f ∧ c'.Meets f) →
        ∀ id, id.uri ≠ uri → Client.SameFor id c c') ∧
    (∀ (name : String) (definition : ServerDefinition) (policy : SyncPolicy) (settings : Settings)
        (env : Environment) (as : List ManagerAction),
      let m := (start name definition policy settings env).run as
      let m' := (start name definition policy settings env).run
        (as.filter fun a => !a.addresses uri)
      ((env.link.failures = [] ∧ ∀ a ∈ as, a.fails = false) ∨
          ∃ f, m.client.Meets f ∧ m'.client.Meets f) →
        ∀ v, v ≠ uri → m'.find? v = m.find? v ∧
          (∀ id, id.uri = v → Client.SameFor id m.client m'.client) ∧
          ∀ a, a.concerns v = true →
            (m'.perform a).map Prod.snd = (m.perform a).map Prod.snd) := by
  constructor
  · intro env ms c c' himpartial id hid
    obtain ⟨f, hf, hf'⟩ : ∃ f, c.Meets f ∧ c'.Meets f := by
      rcases himpartial with ⟨henv, hms⟩ | hmeets
      · exact ⟨_, (Client.unfailing_play henv hms).meets,
          (Client.unfailing_play henv fun n hn => hms n (List.mem_of_mem_filter hn)).meets⟩
      · exact hmeets
    have hstart := Client.sound_start env
    exact ((Client.Agrees.refl uri (Client.start env)).play hstart hstart
      (Client.filter_heard uri ms) hf hf').same hid
  · intro name definition policy settings env as m m' himpartial v hv
    obtain ⟨f, hf, hf'⟩ : ∃ f, m.client.Meets f ∧ m'.client.Meets f := by
      rcases himpartial with ⟨henv, has⟩ | hmeets
      · exact ⟨_, (unfailing_run name definition policy settings henv has).meets,
          (unfailing_run name definition policy settings henv fun a ha =>
            has a (List.mem_of_mem_filter ha)).meets⟩
      · exact hmeets
    have hstart := sound_start name definition policy settings env
    have howned := owned_start name definition policy settings env
    have hagrees : Agrees uri m m' := (Agrees.refl uri _).run hstart hstart howned howned hf hf'
    exact ⟨hagrees.find? hv, fun id hid => hagrees.client.same (hid ▸ hv), fun a ha =>
      hagrees.reply (hstart.run as) (hstart.run _) (howned.run as) hv ha⟩

/-- While one document is open another one cannot be opened, and the first is changed after that. -/
def neighbours (a b : Uri) : List ManagerAction :=
  [.openDocument b "b" (some "text"),
    .shared (.happen (.failNext "textDocument/didOpen" .notRunning)),
    .openDocument a "a" (some "text"), .shared (.advance 500),
    .document b (.edit (.insertion 1 "c") none), .close a, .close b]

/-- The first notification of one document fails, and no other one does. -/
def failing (id : DocumentId) : Transport := fun other number =>
  if other = id ∧ number = 0 then some .notRunning else none

theorem undisturbed_failing :
    let a : Uri := ⟨"file:///a"⟩
    let b : Uri := ⟨"file:///b"⟩
    let m := attentive.run (neighbours a b)
    let m' := attentive.run ((neighbours a b).filter fun x => !x.addresses a)
    m.client.Meets (failing ⟨a, 0⟩) ∧ m'.client.Meets (failing ⟨a, 0⟩) ∧
      ((m.client.log ⟨a, 0⟩).outcomes.map Prod.snd = [some .notRunning]) ∧
      Client.SameFor ⟨b, 0⟩ m.client m'.client ∧
      Client.SameFor ⟨b, 0⟩ ((Client.start Client.plain).play (attentive.script (neighbours a b)))
        ((Client.start Client.plain).play
          ((attentive.script (neighbours a b)).filter fun n => !n.addresses a)) := by
  intro a b m m'
  have hmeets : m.client.Meets (failing ⟨a, 0⟩) := by decide
  have hmeets' : m'.client.Meets (failing ⟨a, 0⟩) := by decide
  have hmanager := (undisturbed a).2 "text" { languageId := "text" } ⟨.full, true, .notify⟩ {}
    Client.plain (neighbours a b) (.inr ⟨_, hmeets, hmeets'⟩) b (by decide)
  have hclient := (undisturbed a).1 Client.plain (attentive.script (neighbours a b))
    (.inr ⟨failing ⟨a, 0⟩, by decide, by decide⟩) ⟨b, 0⟩ (by decide)
  exact ⟨hmeets, hmeets', by decide, hmanager.2.1 ⟨b, 0⟩ rfl, hclient⟩

end Manager

end DocSync
