import DocSync.Proofs.Client.Dispatch
import DocSync.Proofs.Client.Reception
import DocSync.Proofs.Client.Registration
import DocSync.Proofs.Manager.Succession

/-!
# Refreshes of all documents

A manager asks every document that it lists to pull again, each one once. The documents that it does
not list are closed, so that every document which is open or about to be opened is reached and no
other one is. A refresh of the workspace makes all of them pull, and what the server answers counts
until the document is closed. A refresh after a registration is for the documents that were opened
before it.
-/
namespace DocSync

open Client (Move)

/-- Whether an action asks the document of a URI to pull again, whatever it is like. -/
def ManagerAction.refreshes (uri : Uri) : ManagerAction → Bool
  | .refresh .workspace => true
  | .document other (.refresh .workspace) => other == uri
  | _ => false

namespace Manager

/-- The times of the pulls that the refreshes of the workspace in a run ask of a document. -/
def dispatches (m : Manager) (id : DocumentId) : List ManagerAction → List Nat
  | [] => []
  | a :: as =>
    (if a.refreshes id.uri = true then m.client.dispatch id (m.script (a :: as))
        else none).toList ++
      (m.step a).dispatches id as

theorem moves_refresh (m : Manager) (origin : RefreshOrigin) :
    m.moves (.refresh origin) =
      (m.documents.map Prod.snd).map fun id => .act (.document id (.refresh origin)) := by
  rw [List.map_map]
  rfl

/-- A document that is not listed does not pull. -/
theorem Sound.dispatch_of_unlisted {m : Manager} (h : m.Sound) {id : DocumentId}
    (hunlisted : m.find? id.uri ≠ some id) (ms : List Move) : m.client.dispatch id ms = none := by
  have hphase : m.client.phase? id = none ∨ m.client.phase? id = some .closed := by
    unfold Client.phase?
    cases hf : m.client.find? id with
    | none => exact .inl rfl
    | some d =>
      obtain ⟨hd, rfl⟩ := Client.find?_eq_some hf
      by_contra hopen
      exact hunlisted (h.listed d hd fun hp => hopen (.inr (congrArg some hp)))
  rw [Client.dispatch]
  rcases hphase with hp | hp <;> rw [hp] <;> exact ite_self none

/-- An action that asks the document of a URI to pull again asks it once if it is listed. -/
theorem moves_of_refreshes {m : Manager} (hd : m.Distinct) (ho : m.Owned) {a : ManagerAction}
    {id : DocumentId} (ha : a.refreshes id.uri = true) :
    ∃ ids : List DocumentId, ids.Nodup ∧ (id ∈ ids ↔ m.find? id.uri = some id) ∧
      m.moves a = ids.map fun other => .act (.document other (.refresh .workspace)) := by
  cases a with
  | document uri a =>
    cases a with
    | refresh origin =>
      cases origin with
      | capability => cases ha
      | workspace =>
        have huri : uri = id.uri := by simpa [ManagerAction.refreshes] using ha
        subst huri
        refine ⟨(m.find? id.uri).toList, ?_, ?_, rfl⟩
        · cases m.find? id.uri <;> simp
        · rw [Option.mem_toList]
    | _ => cases ha
  | refresh origin =>
    cases origin with
    | capability => cases ha
    | workspace =>
      have hcount (other : DocumentId) := hd.count ho other
      refine ⟨m.documents.map Prod.snd, List.nodup_iff_count_le_one.mpr fun other => ?_, ?_, ?_⟩
      · rw [hcount other]
        split <;> omega
      · rw [← List.count_pos_iff, hcount id]
        split <;> simp_all
      · exact m.moves_refresh .workspace
  | _ => cases ha

/-- Nothing else that is done asks a document to pull again. -/
theorem refreshes_of_mem_moves {m : Manager} (ho : m.Owned) {a : ManagerAction} {id : DocumentId}
    (h : .act (.document id (.refresh .workspace)) ∈ m.moves a) : a.refreshes id.uri = true := by
  cases a with
  | openDocument uri text languageId =>
    simp only [moves] at h
    split at h <;> simp at h
  | close uri => simp [moves] at h
  | document uri b =>
    obtain ⟨other, hother, heq⟩ := List.mem_map.mp h
    injection heq with heq
    injection heq with hid hb
    rw [Option.mem_toList] at hother
    have huri : other.uri = uri := ho.of_find? hother
    rw [← hid, hb, ManagerAction.refreshes, huri, beq_self_eq_true]
  | refresh origin =>
    obtain ⟨x, -, heq⟩ := List.mem_map.mp h
    injection heq with heq
    injection heq with hid horigin
    injection horigin with horigin
    rw [horigin]
    rfl
  | publish params =>
    simp only [moves] at h
    repeat' split at h
    all_goals simp at h
  | shutdown => simp [moves] at h
  | shared b => simp [moves] at h

theorem dispatches_script {m : Manager} (h : m.Sound) (hd : m.Distinct) (ho : m.Owned)
    (id : DocumentId) (as : List ManagerAction) :
    m.client.dispatches id (m.script as) = m.dispatches id as := by
  induction as generalizing m with
  | nil => rfl
  | cons a as ih =>
    have hrest := ih (h.step a) (hd.step a) (ho.step a)
    rw [client_step] at hrest
    rw [dispatches, ← hrest, script]
    cases ha : a.refreshes id.uri with
    | false =>
      have hother : ∀ k ∈ m.moves a, k.refreshes id .workspace = false := by
        intro k hk
        by_contra hrefreshes
        rw [Bool.not_eq_false] at hrefreshes
        rw [Move.eq_of_refreshes hrefreshes] at hk
        rw [refreshes_of_mem_moves ho hk] at ha
        cases ha
      rw [Client.dispatches_skip hother]
      rfl
    | true =>
      obtain ⟨ids, hids, hmem, hmoves⟩ := moves_of_refreshes hd ho ha
      rw [hmoves, h.client.dispatches_refreshes hids, if_pos rfl]
      by_cases hlisted : m.find? id.uri = some id
      · rw [if_pos (hmem.mpr hlisted)]
      · rw [if_neg (mt hmem.mp hlisted), h.dispatch_of_unlisted hlisted]

/-- What is not closed is listed once. -/
theorem Sound.count {m : Manager} (h : m.Sound) (hd : m.Distinct) (ho : m.Owned) :
    ∀ d ∈ m.client.documents, d.phase ≠ .closed → (m.documents.map Prod.snd).count d.id = 1 := by
  intro d hmem hp
  rw [hd.count ho, if_pos]
  exact h.listed d hmem hp

/-- The pulls that a refresh makes at once. -/
theorem Sound.history_refresh {m : Manager} (h : m.Sound) (origin : RefreshOrigin) :
    (m.step (.refresh origin)).client.env.history = m.client.env.history ++
      (m.documents.map Prod.snd).filterMap (m.client.refreshPull? origin) := by
  rw [client_step, moves_refresh, h.client.history_refreshes]

end Manager

/-- A pull that counts for any version takes in the answer that comes at once, or waits for one. -/
theorem Turn.pull_any {t : Turn} (hp : t.doc.phase ≠ .closed) :
    (∀ answer, t.env.link.answers.lookup t.doc.uri.text = some answer →
      (t.pull .refreshed .any).env.registry = t.env.learn t.doc.uri answer) ∧
    (t.env.link.answers.lookup t.doc.uri.text = none →
      (t.pull .refreshed .any).env.link.requests =
        t.env.link.requests ++ [⟨t.doc.id, .any⟩]) := by
  have hawaits : t.doc.awaits .any = true := by
      simpa [Document.awaits, PullVersion.accepts] using hp
  constructor
  · intro answer hanswer
    simp only [pull, if_pos hawaits, request, note, Link.takeAnswer, hanswer, accept_eq]
    rfl
  · intro hnone
    simp only [pull, if_pos hawaits, request, note, Link.takeAnswer, hnone, Link.await]

namespace Manager

/-- Every refresh of the workspace reaches each document that is open or about to be opened with one
pull, and no other document. The pull goes out at once or when the document opens, if it does. Its
answer counts however many versions of the document there were in the meantime. -/
theorem workspace_refreshed (name : String) (definition : ServerDefinition) (policy : SyncPolicy)
    (settings : Settings) (env : Environment) (before : List ManagerAction) :
    let s := start name definition policy settings env
    let m := s.run before
    (∀ id, (m.client.log id).unversioned = s.dispatches id before) ∧
    (∀ d ∈ m.client.documents, ∀ after, Client.Dispatched m.client d (m.script after)) ∧
    (∀ d ∈ m.client.documents, d.phase ≠ .closed → (m.documents.map Prod.snd).count d.id = 1) ∧
    (m.step (.refresh .workspace)).client.env.history = m.client.env.history ++
      (m.documents.map Prod.snd).filterMap (m.client.refreshPull? .workspace) ∧
    (∀ uri nth r rest message report, ∀ d ∈ m.client.documents,
      Link.takeRequest uri nth m.client.env.link.requests = some (r, rest) →
        d.id = r.document → r.version = .any → d.phase ≠ .closed →
          Report.ofAnswer message = .ok (some report) →
            (m.client.move (.answer uri nth (.ok message))).env.registry =
              m.client.env.registry.store (m.client.env.feature.identifier.getD pullIdentifier)
                (report.news m.client.env.resolver d.uri)) ∧
    (∀ t : Turn, t.doc.phase ≠ .closed →
      (∀ message report, t.env.link.answers.lookup t.doc.uri.text = some (.ok message) →
        Report.ofAnswer message = .ok (some report) →
          (t.pull .refreshed .any).env.registry =
            t.env.registry.store (t.env.feature.identifier.getD pullIdentifier)
              (report.news t.env.resolver t.doc.uri)) ∧
      (t.env.link.answers.lookup t.doc.uri.text = none →
        (t.pull .refreshed .any).env.link.requests =
          t.env.link.requests ++ [⟨t.doc.id, .any⟩])) := by
  intro s m
  have hs : s.Sound := sound_start name definition policy settings env
  have howned : s.Owned := owned_start name definition policy settings env
  have hdistinct : s.Distinct := distinct_start name definition policy settings env
  have hm : m.Sound := hs.run before
  have hclient : m.client = (Client.start env).play (s.script before) := client_run s before
  refine ⟨fun id => ?_, fun d hd after => ?_, hm.count (hdistinct.run before) (howned.run before),
    hm.history_refresh .workspace, ?_, fun t hp => ⟨?_, (Turn.pull_any hp).2⟩⟩
  · rw [hclient, Client.unversioned_play, ← dispatches_script hs hdistinct howned]
    rfl
  · rw [hclient] at hd ⊢
    exact Client.dispatched env _ hd _
  · intro uri nth r rest message report d hd htaken hid hany hp hreport
    have hawaits : d.awaits r.version = true := by
      simpa [Document.awaits, hany, PullVersion.accepts] using hp
    rw [hm.client.registry_answer _ htaken hd hid, if_pos hawaits,
      Environment.learn_report _ _ hreport]
  · intro message report hanswer hreport
    rw [(Turn.pull_any hp).1 _ hanswer, Environment.learn_report _ _ hreport]

/-- One document is open, one is about to be opened and one is closed before it is open. -/
def refreshing (a b c : Uri) : List ManagerAction :=
  [.openDocument a "a" (some "text"), .shared (.advance 500), .openDocument b "b" (some "text"),
    .openDocument c "c" (some "text"), .refresh .workspace, .close c,
    .document a (.edit (.insertion 1 "d") none), .shared (.advance 500)]

/-- A manager for a server that offers pulls. -/
def pulling : Manager :=
  start "text" { languageId := "text" } ⟨.full, true, .notify⟩ {} Client.offering

/-- What an answer with one diagnostic says. -/
def oddity : Diagnostic := ⟨⟨⟨0, 0⟩, ⟨0, 0⟩⟩, .warning, "odd", "unknown", none⟩

/-- The open document has another version by the time when its pull is answered. -/
theorem workspace_refreshed_edited :
    let a : Uri := ⟨"file:///a"⟩
    let b : Uri := ⟨"file:///b"⟩
    let c : Uri := ⟨"file:///c"⟩
    let m := pulling.run (refreshing a b c)
    pulling.dispatches ⟨a, 0⟩ (refreshing a b c) = [500] ∧
      pulling.dispatches ⟨b, 0⟩ (refreshing a b c) = [1000] ∧
      pulling.dispatches ⟨c, 0⟩ (refreshing a b c) = [] ∧
      (Link.takeRequest "file:///a" 0 m.client.env.link.requests).map Prod.fst =
        some ⟨⟨a, 0⟩, .any⟩ ∧
      (m.client.find? ⟨a, 0⟩).map Document.version = some ⟨2⟩ ∧
      (m.client.move (.answer "file:///a" 0 Client.finding)).env.registry =
        m.client.env.registry.store pullIdentifier [(a, [oddity])] := by
  intro a b c m
  obtain ⟨hcounted, -, -, -, hanswered, -⟩ := workspace_refreshed "text" { languageId := "text" }
    ⟨.full, true, .notify⟩ {} Client.offering (refreshing a b c)
  have hrun : (start "text" { languageId := "text" } ⟨.full, true, .notify⟩ {}
    Client.offering).run (refreshing a b c) = m := rfl
  rw [hrun] at hanswered
  have hrequest : (Link.takeRequest "file:///a" 0 m.client.env.link.requests).map Prod.fst =
      some ⟨⟨a, 0⟩, .any⟩ := by decide
  obtain ⟨⟨r, rest⟩, htaken, rfl⟩ := Option.map_eq_some_iff.mp hrequest
  obtain ⟨d, hd, hid, hp⟩ : ∃ d ∈ m.client.documents, d.id = ⟨a, 0⟩ ∧ d.phase = .opened := by decide
  obtain ⟨message, hmessage, hreport⟩ : ∃ message,
      Client.finding = .ok message ∧ Report.ofAnswer message = .ok (some (.direct [oddity])) :=
    ⟨_, rfl, by decide⟩
  have hregistry := hanswered "file:///a" 0 _ rest message _ d hd htaken hid rfl (by simp [hp])
    hreport
  rw [Document.uri, hid, ← hmessage,
    show m.client.env.feature.identifier = none by decide] at hregistry
  exact ⟨(hcounted ⟨a, 0⟩).symm.trans (by decide), (hcounted ⟨b, 0⟩).symm.trans (by decide),
    (hcounted ⟨c, 0⟩).symm.trans (by decide), hrequest, by decide, hregistry⟩

/-! ## Registrations -/

/-- A refresh after a registration reaches the documents that were announced while pulls were not
supported. Each of them pulls once for the version that it has, and no other document pulls. -/
theorem registered (env : Environment) (earlier : List Move) (name : String)
    (definition : ServerDefinition) (policy : SyncPolicy) (settings : Settings)
    (before : List ManagerAction) :
    let c := (Client.start env).play earlier
    let s := start name definition policy settings env
    let m := s.run before
    (∀ d ∈ c.documents, Client.Registers c d ((Client.start env).offered? d.id earlier) ∧
      (c.move (.act (.document d.id (.refresh .capability)))).env.history =
        c.env.history ++ (c.refreshPull? .capability d.id).toList) ∧
    (∀ d ∈ m.client.documents,
      Client.Registers m.client d (s.client.offered? d.id (s.script before))) ∧
    (∀ d ∈ m.client.documents, d.phase ≠ .closed → (m.documents.map Prod.snd).count d.id = 1) ∧
    (m.step (.refresh .capability)).client.env.history = m.client.env.history ++
      (m.documents.map Prod.snd).filterMap (m.client.refreshPull? .capability) := by
  intro c s m
  have hs : s.Sound := sound_start name definition policy settings env
  have howned : s.Owned := owned_start name definition policy settings env
  have hdistinct : s.Distinct := distinct_start name definition policy settings env
  have hm : m.Sound := hs.run before
  have hclient : m.client = (Client.start env).play (s.script before) := client_run s before
  refine ⟨fun d hd => ⟨Client.registers_play env earlier hd, ?_⟩, fun d hd => ?_,
    hm.count (hdistinct.run before) (howned.run before), hm.history_refresh .capability⟩
  · exact (Client.sound_play env earlier).history_refresh .capability d.id
  · rw [hclient] at hd ⊢
    exact Client.registers_play env _ hd

/-- One document is opened before pulls are supported and one after that. -/
def registering (a b : Uri) : List ManagerAction :=
  [.openDocument a "a" (some "text"), .shared (.advance 500),
    .shared (.happen (.setSupported true)), .openDocument b "b" (some "text"),
    .document a (.edit (.insertion 1 "c") none), .shared (.advance 500)]

theorem registered_registering :
    let a : Uri := ⟨"file:///a"⟩
    let b : Uri := ⟨"file:///b"⟩
    let s := attentive.script (registering a b)
    let m := attentive.run (registering a b)
    attentive.client.offered? ⟨a, 0⟩ s = some false ∧
      attentive.client.offered? ⟨b, 0⟩ s = some true ∧
      m.client.refreshPull? .capability ⟨a, 0⟩ =
        some ⟨1000, ⟨a, 0⟩, .pulled .refreshed (.exact ⟨2⟩) ⟨a, none⟩⟩ ∧
      m.client.refreshPull? .capability ⟨b, 0⟩ = none ∧
      (m.step (.refresh .capability)).client.env.history = m.client.env.history ++
        [⟨1000, ⟨a, 0⟩, .pulled .refreshed (.exact ⟨2⟩) ⟨a, none⟩⟩] := by
  intro a b s m
  obtain ⟨-, hregisters, -, hhistory⟩ := registered Client.plain [] "text"
    { languageId := "text" } ⟨.full, true, .notify⟩ {} (registering a b)
  have hrun : (start "text" { languageId := "text" } ⟨.full, true, .notify⟩ {}
    Client.plain).run (registering a b) = m := rfl
  rw [hrun] at hhistory
  obtain ⟨d, hd, hid, hp, hversion, ho⟩ : ∃ d ∈ m.client.documents, d.id = ⟨a, 0⟩ ∧
      d.phase = .opened ∧ d.version = ⟨2⟩ ∧ d.policy.openClose = true := by decide
  obtain ⟨e, he, heid⟩ : ∃ e ∈ m.client.documents, e.id = ⟨b, 0⟩ := by decide
  have hoffered : attentive.client.offered? ⟨a, 0⟩ s = some false := by decide
  have hoffered' : attentive.client.offered? ⟨b, 0⟩ s = some true := by decide
  have hpull := (hregisters d hd).missed hp ho (hid ▸ hoffered) (by decide)
  have hnone := ((hregisters e he).idle (.inr (.inl (heid ▸ hoffered')))).1
  rw [Document.uri, hid, hversion] at hpull
  rw [heid] at hnone
  have hpulls : (m.documents.map Prod.snd).filterMap (m.client.refreshPull? .capability) =
      [⟨1000, ⟨a, 0⟩, .pulled .refreshed (.exact ⟨2⟩) ⟨a, none⟩⟩] := by decide
  rw [hpulls] at hhistory
  exact ⟨hoffered, hoffered', hpull.trans (by decide), hnone, hhistory⟩

/-- A document that the server does not want to hear of is opened before pulls are supported. -/
def unannounced (u : Uri) : List Move :=
  [.create u "text" ⟨.full, false, .disabled⟩ .forHeadless "a" none,
    .act (.document ⟨u, 0⟩ .beginOpen), .act (.shared (.happen (.setSupported true)))]

/-- It does not pull when they are. -/
theorem registered_unannounced :
    let a : Uri := ⟨"file:///a"⟩
    let c := (Client.start Client.plain).play (unannounced a)
    (∃ d ∈ c.documents, d.id = ⟨a, 0⟩ ∧ d.phase = .opened) ∧
      (Client.start Client.plain).offered? ⟨a, 0⟩ (unannounced a) = some false ∧
      c.env.feature.supported = true ∧
      (c.move (.act (.document ⟨a, 0⟩ (.refresh .capability)))).env.history = c.env.history := by
  decide

end Manager

end DocSync
