import DocSync.Proofs.Client.Opening
import DocSync.Proofs.Manager.Succession

/-!
# One opening for all who open

Whether a document is opened by its session or by a manager, the first attempt fixes the text that
the server gets, and all attempts share one handshake.
-/
namespace DocSync.Manager

open Client (Move OpensOnce)

theorem script_append (m : Manager) (as bs : List ManagerAction) :
    m.script (as ++ bs) = m.script as ++ (m.run as).script bs := by
  induction as generalizing m with
  | nil => rfl
  | cons a as ih => simp [script, ih]

/-- A run that opens a document comes down to a run of the client that creates it and then opens
it. -/
theorem script_opening (name : String) (definition : ServerDefinition) (policy : SyncPolicy)
    (settings : Settings) (env : Environment) (before after : List ManagerAction) {uri : Uri}
    (text : String) (languageId : Option String)
    (hnone : ((start name definition policy settings env).run before).find? uri = none) :
    ∃ rest, (start name definition policy settings env).script
        (before ++ .openDocument uri text languageId :: after) =
      ((start name definition policy settings env).script before ++
        [.create uri (languageId.getD (definition.languageOf uri)) policy settings text none]) ++
      .act (.document (((start name definition policy settings env).run before).client.freshId uri)
        .beginOpen) :: rest := by
  obtain ⟨hdefinition, hpolicy, hsettings⟩ :=
    (start name definition policy settings env).run_setup before
  have hmoves : ((start name definition policy settings env).run before).moves
      (.openDocument uri text languageId) =
        [.create uri (languageId.getD (definition.languageOf uri)) policy settings text none,
          .act (.document (((start name definition policy settings env).run before).client.freshId
            uri) .beginOpen)] := by
    simp only [moves, hnone]
    rw [hdefinition, hpolicy, hsettings]
    rfl
  exact ⟨_, by rw [script_append, script, hmoves, List.append_assoc]; rfl⟩

/-- An attempt to open a document that was opened before. -/
theorem openDocument_again {m : Manager} (hm : m.client.Sound) {uri : Uri} {d : Document}
    (hd : d ∈ m.client.documents) (hp : d.phase ≠ .unopened) (hf : m.find? uri = some d.id)
    (text : String) (languageId : Option String) :
    m.perform (.openDocument uri text languageId) = some (m, .handshake d.handshake) := by
  have hsame : m.openDocument uri text languageId = (m, d.handshake) := by
    rw [openDocument, hf]
    dsimp only
    rw [Client.beginOpen_again hm hd hp]
  simp only [perform, hsame]

/-- Whoever opens a document, and how often and when, its writer waits for the session once, the
server hears of one opening at most, with the text and the version of the first attempt, and all
handshakes come out in one way, also if the document is closed before. With a manager this goes for
all attempts to open a URI while its document is open, whatever text and language come with them.
Whoever opens a closed document learns that it is closed. -/
theorem memoized :
    (∀ (env : Environment) (before after : List Move),
      ∀ d ∈ ((Client.start env).play before).documents, d.phase = .unopened →
        let first : Move := .act (.document d.id .beginOpen)
        let c := (Client.start env).play (before ++ first :: after)
        (((Client.start env).play before).perform (.document d.id .beginOpen)).map Prod.snd =
            some (.handshake (.shared d.id)) ∧
          (∀ e ∈ (((Client.start env).play before).move first).documents, e.id = d.id →
            e.version = if d.policy.openClose = true then d.version.next else d.version) ∧
          (Client.start env).starts d.id (before ++ first :: after) = 1 ∧
          ∃ e, c.find? d.id = some e ∧ OpensOnce d.greetings c e) ∧
    (∀ (env : Environment) (ms : List Move),
      let c := (Client.start env).play ms
      ∀ d ∈ c.documents, d.phase = .closed →
        c.perform (.document d.id .beginOpen) = some (c, .handshake (.closed d.uri)) ∧
          c.handshakeOutcome? (.closed d.uri) = some (.error (.closed d.uri))) ∧
    (∀ (name : String) (definition : ServerDefinition) (policy : SyncPolicy) (settings : Settings)
        (env : Environment) (before after : List ManagerAction) (uri : Uri) (text : String)
        (languageId : Option String),
      let m₀ := (start name definition policy settings env).run before
      let id := m₀.client.freshId uri
      let first : ManagerAction := .openDocument uri text languageId
      let m := (start name definition policy settings env).run (before ++ first :: after)
      m₀.find? uri = none →
        (m₀.perform first).map Prod.snd = some (.handshake (.shared id)) ∧
          (Client.start env).starts id
            ((start name definition policy settings env).script (before ++ first :: after)) = 1 ∧
          ∃ e, m.client.find? id = some e ∧
            OpensOnce (if policy.openClose = true then
              [.didOpen uri (languageId.getD (definition.languageOf uri)) ⟨1⟩ text] else [])
              m.client e ∧
            (m.find? uri = some id → ∀ text languageId,
              m.perform (.openDocument uri text languageId) =
                some (m, .handshake (if e.phase = .closed then .closed uri else .shared id)))) := by
  refine ⟨?_, ?_, ?_⟩
  · intro env before after d hd hp first c
    have hc := Client.sound_play env before
    obtain ⟨hreply, hversion⟩ := Client.perform_first hc hd hp
    have hsplit : c = ((Client.start env).play before).play (first :: after) :=
      Client.play_append _ _ _
    obtain ⟨e, he, hid⟩ := hc.exists_play hd (first :: after)
    rw [← hsplit] at he
    exact ⟨hreply, hversion, Client.starts_begun env before after hd hp, e,
      Client.find?_of_id (Client.sound_play env _).distinct he hid,
      Client.opensOnce_play env before after hd hp he hid⟩
  · intro env ms c d hd hp
    exact ⟨Client.perform_beginOpen_closed (Client.sound_play env ms) hd hp, rfl⟩
  · intro name definition policy settings env before after uri text languageId m₀ id first m hnone
    obtain ⟨rest, hscript⟩ := script_opening name definition policy settings env before after text
      languageId hnone
    have hm₀ : m₀.client.Sound :=
    (sound_start name definition policy settings env).run before |>.client
    have hm : m.client.Sound := (sound_start name definition policy settings env).run _ |>.client
    -- The document before it is opened.
    generalize hearlier : (start name definition policy settings env).script before ++
      [Move.create uri (languageId.getD (definition.languageOf uri)) policy settings text none] =
        earlier at hscript
    let language := languageId.getD (definition.languageOf uri)
    let d : Document := ⟨id, language, policy, settings, text, none, .unopened,
      ⟨policy.kind, [], false⟩, .initial, .absent, [], 0, none, false, []⟩
    have hd : d ∈ ((Client.start env).play earlier).documents := by
      have hbefore : m₀.client =
          (Client.start env).play ((start name definition policy settings env).script before) :=
        client_run _ before
      rw [← hearlier, Client.play_concat, ← hbefore]
      exact List.mem_append_right _ (List.mem_singleton_self d)
    have hclient : m.client =
        (Client.start env).play (earlier ++ .act (.document d.id .beginOpen) :: rest) := by
      rw [client_run, hscript]
      rfl
    obtain ⟨e, he, hid⟩ := (Client.sound_play env earlier).exists_play hd
      (.act (.document d.id .beginOpen) :: rest)
    rw [← Client.play_append] at he
    have hbegun := Client.opensOnce_play env earlier rest hd rfl he hid
    have hphase := ((Client.sound_play env earlier).begun hd rfl rest e
      (by rwa [← Client.play_cons, ← Client.play_append]) hid).phase
    rw [← hclient] at he hbegun
    refine ⟨?_, ?_, e, Client.find?_of_id hm.distinct he hid, hbegun, fun hf text' languageId' => ?_⟩
    · have hstep : (m₀.openDocument uri text languageId).2 = .shared id := by
        rw [openDocument, hnone]
        simp only [Client.beginOpen, hm₀.find?_create]
        rfl
      simp [perform, hstep, first]
    · rw [hscript]
      exact Client.starts_begun env earlier rest hd rfl
    · rw [openDocument_again hm he hphase (hid ▸ hf), Document.handshake, hid, Document.uri, hid]
      rfl

/-- Somebody opens a document a second time and closes it before the server had its time. -/
def impatient (id : DocumentId) : List Move :=
  [.act (.shared (.advance 50)), .act (.document id .beginOpen), .act (.document id .close)]

/-- The same for a manager, with another text and another language. -/
def impatientActions (u : Uri) : List ManagerAction :=
  [.shared (.advance 50), .openDocument u "b" (some "other"), .document u .close]

theorem memoized_impatient :
    let a : Uri := ⟨"file:///a"⟩
    let before : List Move := [.create a "text" ⟨.full, true, .notify⟩ {} "a" none]
    let c := (Client.start Client.plain).play
      (before ++ .act (.document ⟨a, 0⟩ .beginOpen) :: impatient ⟨a, 0⟩)
    let m := attentive.run (.openDocument a "a" (some "text") :: impatientActions a)
    (∃ e, c.find? ⟨a, 0⟩ = some e ∧ (e.phase = .closed ∧ e.handshakeOutcome? = none) ∧
      OpensOnce [.didOpen a "text" ⟨1⟩ "a"] c e ∧
      c.perform (.document ⟨a, 0⟩ .beginOpen) = some (c, .handshake (.closed a))) ∧
    attentive.find? a = none ∧ (∃ e, m.client.find? ⟨a, 0⟩ = some e ∧
      OpensOnce [.didOpen a "text" ⟨1⟩ "a"] m.client e) ∧
      m.perform (.openDocument a "c" none) = some (m, .handshake (.closed a)) := by
  intro a before c m
  obtain ⟨-, -, -, e, he, honce⟩ := memoized.1 Client.plain before (impatient ⟨a, 0⟩)
    ⟨⟨a, 0⟩, "text", ⟨.full, true, .notify⟩, {}, "a", none, .unopened, ⟨.full, [], false⟩, .initial,
      .absent, [], 0, none, false, []⟩ (List.mem_singleton.mpr rfl) rfl
  have hstate : (c.find? ⟨a, 0⟩).map (fun e => (e.phase, e.handshakeOutcome?)) =
      some (.closed, none) := by decide
  rw [he] at hstate
  obtain ⟨hphase, houtcome⟩ : e.phase = .closed ∧ e.handshakeOutcome? = none := by
    simpa using hstate
  obtain ⟨hmem, hid⟩ := Client.find?_eq_some he
  have hclosed := (memoized.2.1 Client.plain
    (before ++ .act (.document ⟨a, 0⟩ .beginOpen) :: impatient ⟨a, 0⟩) e hmem hphase).1
  rw [Document.uri, hid] at hclosed
  have hnone : attentive.find? a = none := rfl
  obtain ⟨-, -, f, hf, hfonce, hagain⟩ := memoized.2.2 "text" { languageId := "text" }
    ⟨.full, true, .notify⟩ {} Client.plain [] (impatientActions a) a "a" (some "text")
    hnone
  have hlater := hagain (by decide) "c" none
  have hfphase : (m.client.find? ⟨a, 0⟩).map Document.phase = some .closed := by decide
  rw [show m.client.find? ⟨a, 0⟩ = some f from hf] at hfphase
  rw [if_pos (Option.some.inj hfphase)] at hlater
  exact ⟨⟨e, he, ⟨hphase, houtcome⟩, honce, hclosed⟩, hnone, ⟨f, hf, hfonce⟩, hlater⟩

end DocSync.Manager
