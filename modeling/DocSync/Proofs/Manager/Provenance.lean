import DocSync.Proofs.Client.Recital
import DocSync.Proofs.Manager.Refresh

/-!
# Pushed and pulled diagnostics

What a registry is told comes from publications, from answers to pulls, or from the host. The
account of a run tells all of it, in order and by its source, and what is stored under the
identifier of publications and under that of pulls is what the account says last about each. The two
sources keep apart as long as their identifiers differ; but a server may register pulls under the
identifier that stands for publications, and then each source replaces what the other one said.
-/
namespace DocSync

open Client (Move)

/-- What a registry is told, by its source. -/
inductive Tiding
  | pushed (uri : Uri) (items : List Diagnostic)
  | pulled (uri : Uri) (items : List Diagnostic)
  /-- What the host does with the registry, also by closing a document. -/
  | asked (a : RegistryAction)
deriving DecidableEq

namespace Tiding

/-- The action on a registry that a tiding comes down to, with the identifier of pulls. -/
def action (identifier : String) : Tiding → RegistryAction
  | .pushed uri items => .update uri publishIdentifier items
  | .pulled uri items => .update uri identifier items
  | .asked a => a

/-- What a tiding says about the pushed diagnostics of a file, if it says anything. The host may
clear them, or write them itself. -/
def pushed? (uri : Uri) : Tiding → Option (List Diagnostic)
  | .pushed other items => if uri = other then some items else none
  | .pulled .. => none
  | .asked a => a.report? uri publishIdentifier

/-- The same for pulled diagnostics. -/
def pulled? (identifier : String) (uri : Uri) : Tiding → Option (List Diagnostic)
  | .pushed .. => none
  | .pulled other items => if uri = other then some items else none
  | .asked a => a.report? uri identifier

/-- Whether a tiding comes from an answer to a pull. -/
def isPulled : Tiding → Bool
  | .pulled .. => true
  | .pushed .. | .asked _ => false

variable {identifier : String}

theorem reportsUnder_of_isPulled {x : Tiding} (h : x.isPulled = true) :
    (x.action identifier).ReportsUnder identifier := by
  cases x with
  | pulled uri items => exact ⟨uri, items, rfl⟩
  | pushed uri items => cases h
  | asked a => cases h

theorem report?_publish (h : identifier ≠ publishIdentifier) (x : Tiding) (uri : Uri) :
    (x.action identifier).report? uri publishIdentifier = x.pushed? uri := by
  cases x with
  | pushed other items => simp [action, pushed?, RegistryAction.report?]
  | pulled other items => simp [action, pushed?, RegistryAction.report?, h.symm]
  | asked a => rfl

theorem report?_pull (h : identifier ≠ publishIdentifier) (x : Tiding) (uri : Uri) :
    (x.action identifier).report? uri identifier = x.pulled? identifier uri := by
  cases x with
  | pushed other items => simp [action, pulled?, RegistryAction.report?, h]
  | pulled other items => simp [action, pulled?, RegistryAction.report?]
  | asked a => rfl

end Tiding

/-- The last publication on a file that was taken in since the file was last cleared. -/
def lastPushed (uri : Uri) (account : List Tiding) : List Diagnostic :=
  latest (Tiding.pushed? uri) [] account

/-- The last report of pulls on a file that was taken in since the file was last cleared. -/
def lastPulled (identifier : String) (uri : Uri) (account : List Tiding) : List Diagnostic :=
  latest (Tiding.pulled? identifier uri) [] account

/-! ## What a registry makes of an account -/

namespace Registry

variable {identifier : String}

/-- If the tidings are known that are about an identifier, the last of them is what is stored under
it. -/
theorem slot_account {says? : Tiding → Option (List Diagnostic)} {uri : Uri} {i : String}
    (h : ∀ x, (Tiding.action identifier x).report? uri i = says? x) (r : Registry)
    (account : List Tiding) :
    ((r.run (account.map (Tiding.action identifier))).file uri).slot i =
      latest says? ((r.file uri).slot i) account := by
  rw [slot_run_latest, latest_map]
  simp only [h]

end Registry

/-! ## What a client is told -/

namespace Client

/-- What a move tells the registry. -/
def tidings (c : Client) (m : Move) : List Tiding :=
  (c.asks m).map .asked ++
    (newsOf c.env.resolver (c.takenIn m)).map fun x => .pulled x.1 x.2

def account (c : Client) : List Move → List Tiding
  | [] => []
  | m :: ms => c.tidings m ++ (c.move m).account ms

theorem Sound.registry_tidings {c : Client} (hc : c.Sound) (m : Move) :
    (c.move m).env.registry =
      c.env.registry.run ((c.tidings m).map (Tiding.action c.pulledUnder)) := by
  rw [hc.registry_move, Registry.store_eq_run, tidings, List.map_append, List.map_map,
    List.map_map, Registry.run_append]
  congr 2
  exact (List.map_id _).symm

theorem Sound.pulledUnder_move {c : Client} (hc : c.Sound) (m : Move) :
    (c.move m).pulledUnder = c.pulledUnder := by
  rw [pulledUnder, (hc.setup_move m).1, pulledUnder]

theorem Sound.registry_account {c : Client} (hc : c.Sound) (ms : List Move) :
    (c.play ms).env.registry =
        c.env.registry.run ((c.account ms).map (Tiding.action c.pulledUnder)) ∧
      (c.play ms).pulledUnder = c.pulledUnder := by
  induction ms generalizing c with
  | nil => exact ⟨rfl, rfl⟩
  | cons m ms ih =>
    obtain ⟨hregistry, hidentifier⟩ := ih (hc.move m)
    rw [hc.pulledUnder_move] at hregistry hidentifier
    rw [play_cons, account, List.map_append, Registry.run_append, ← hc.registry_tidings]
    exact ⟨hregistry, hidentifier⟩

theorem account_isPulled {ms : List Move} (h : ∀ m ∈ ms, ∀ c : Client, c.asks m = [])
    (c : Client) : ∀ x ∈ c.account ms, x.isPulled = true := by
  induction ms generalizing c with
  | nil => exact fun x hx => absurd hx List.not_mem_nil
  | cons m ms ih =>
    intro x hx
    rw [account, tidings, h m List.mem_cons_self, List.map_nil, List.nil_append] at hx
    rcases List.mem_append.mp hx with hx | hx
    · obtain ⟨⟨uri, items⟩, -, rfl⟩ := List.mem_map.mp hx
      rfl
    · exact ih (fun k hk => h k (List.mem_cons_of_mem m hk)) _ x hx

end Client

/-! ## What a manager is told -/

/-- Whether an action asks nothing of the registry, so that it is told of answers to pulls only. -/
def ManagerAction.asksNothing : ManagerAction → Bool
  | .openDocument .. | .refresh _ => true
  | .document _ a =>
    match a with
    | .close => false
    | _ => true
  | .shared a =>
    match a with
    | .happen _ | .advance _ | .respond .. => true
    | _ => false
  | .close _ | .publish _ | .shutdown => false

namespace Manager

def registry (m : Manager) : Registry := m.client.env.registry

/-- The file and the diagnostics of a publication that is taken in. -/
def published? (m : Manager) (params : Json) : Option (Uri × List Diagnostic) := do
  let p ← Publication.ofJson? params
  let uri ← m.client.env.resolver.resolve p.uri
  if m.isCurrent uri p.version then some (uri, p.items) else none

/-- What an action tells the registry. -/
def tidings (m : Manager) : ManagerAction → List Tiding
  | .publish params => ((m.published? params).map fun x => .pushed x.1 x.2).toList
  | a => m.client.account (m.moves a)

def account (m : Manager) : List ManagerAction → List Tiding
  | [] => []
  | a :: as => m.tidings a ++ (m.step a).account as

theorem client_publish (m : Manager) (params : Json) :
    (m.step (.publish params)).client =
      m.client.setRegistry (m.client.env.registry.run
        ((m.tidings (.publish params)).map (Tiding.action m.client.pulledUnder))) := by
  show (m.publish params).client = _
  rw [publish, tidings, published?]
  cases hp : Publication.ofJson? params with
  | none => rfl
  | some p =>
    cases hr : m.client.env.resolver.resolve p.uri with
    | none => simp [hr, Registry.run, Client.setRegistry]
    | some uri =>
      by_cases hc : m.isCurrent uri p.version = true
      · simp only [hr, hc, Option.bind_eq_bind, Option.bind_some, if_true]
        rfl
      · simp [hr, hc, Registry.run, Client.setRegistry]

/-- The registry after an action is told by what the action tells it, and the identifier of pulls
stays. -/
theorem Sound.registry_step {m : Manager} (h : m.Sound) (a : ManagerAction) :
    (m.step a).client.env.registry =
        m.client.env.registry.run ((m.tidings a).map (Tiding.action m.client.pulledUnder)) ∧
      (m.step a).client.pulledUnder = m.client.pulledUnder := by
  cases a with
  | publish params =>
    rw [client_publish]
    exact ⟨rfl, rfl⟩
  | _ =>
    rw [client_step]
    exact h.client.registry_account _

theorem Sound.registry_run {m : Manager} (h : m.Sound) (as : List ManagerAction) :
    (m.run as).client.env.registry =
        m.client.env.registry.run ((m.account as).map (Tiding.action m.client.pulledUnder)) ∧
      (m.run as).client.pulledUnder = m.client.pulledUnder := by
  induction as generalizing m with
  | nil => exact ⟨rfl, rfl⟩
  | cons a as ih =>
    obtain ⟨hregistry, hidentifier⟩ := ih (h.step a)
    obtain ⟨hstep, hpulled⟩ := h.registry_step a
    rw [hpulled] at hregistry hidentifier
    rw [run_cons, account, List.map_append, Registry.run_append, ← hstep]
    exact ⟨hregistry, hidentifier⟩

theorem asks_moves {m : Manager} {a : ManagerAction} (h : a.asksNothing = true) :
    ∀ k ∈ m.moves a, ∀ c : Client, c.asks k = [] := by
  intro k hk c
  cases a with
  | openDocument uri text languageId =>
    simp only [moves] at hk
    split at hk
    · rw [List.mem_singleton.mp hk]
      rfl
    · rcases List.mem_pair.mp hk with rfl | rfl <;> rfl
  | refresh origin =>
    obtain ⟨x, -, rfl⟩ := List.mem_map.mp hk
    rfl
  | document uri b =>
    obtain ⟨id, -, rfl⟩ := List.mem_map.mp hk
    cases b with
    | close => cases h
    | _ => rfl
  | shared b =>
    rw [List.mem_singleton.mp hk]
    cases b with
    | happen i => rfl
    | advance millis => rfl
    | respond text nth answer => rfl
    | _ => cases h
  | _ => cases h

theorem tidings_isPulled (m : Manager) {a : ManagerAction} (h : a.asksNothing = true) :
    ∀ x ∈ m.tidings a, x.isPulled = true := by
  have haccount := Client.account_isPulled (asks_moves (m := m) h) m.client
  cases a with
  | publish params => cases h
  | _ => exact haccount

theorem tidings_publish (m : Manager) (params : Json) (i : String) :
    ∀ a ∈ (m.tidings (.publish params)).map (Tiding.action i),
      a.ReportsUnder publishIdentifier := by
  intro a ha
  obtain ⟨x, hx, rfl⟩ := List.mem_map.mp ha
  obtain ⟨⟨uri, items⟩, -, rfl⟩ := Option.map_eq_some_iff.mp (Option.mem_toList.mp hx)
  exact ⟨uri, items, rfl⟩

/-- A publication changes pushed diagnostics only. -/
theorem Sound.slot_publish {m : Manager} (h : m.Sound) (params : Json) (uri : Uri) {i : String}
    (hi : i ≠ publishIdentifier) :
    ((m.step (.publish params)).registry.file uri).slot i = (m.registry.file uri).slot i := by
  rw [registry, (h.registry_step _).1]
  exact Registry.slot_run_of_reportsUnder hi (m.tidings_publish params _) _ uri

/-- The answers that are taken in during an action change pulled diagnostics only. -/
theorem Sound.slot_answers {m : Manager} (h : m.Sound) {a : ManagerAction}
    (ha : a.asksNothing = true) (uri : Uri) {i : String} (hi : i ≠ m.client.pulledUnder) :
    ((m.step a).registry.file uri).slot i = (m.registry.file uri).slot i := by
  rw [registry, (h.registry_step a).1]
  refine Registry.slot_run_of_reportsUnder hi (fun b hb => ?_) _ uri
  obtain ⟨x, hx, rfl⟩ := List.mem_map.mp hb
  exact Tiding.reportsUnder_of_isPulled (m.tidings_isPulled ha x hx)

/-- Pushed and pulled diagnostics in a registry after a run that gave an account, and after the next
action. -/
structure KeepsApart (identifier : String) (account : List Tiding) (m : Manager) : Prop where
  pushed : ∀ uri, (m.registry.file uri).slot publishIdentifier = lastPushed uri account
  pulled : ∀ uri, (m.registry.file uri).slot identifier = lastPulled identifier uri account
  /-- The diagnostics of a file contain the last of both. -/
  contained : ∀ uri, (lastPushed uri account ++ lastPulled identifier uri account).Subperm
    (m.registry.diagnostics uri)
  /-- A publication changes nothing but pushed diagnostics, and answers nothing but pulled ones,
  whenever they are taken in. -/
  published : ∀ params uri i, i ≠ publishIdentifier →
    ((m.step (.publish params)).registry.file uri).slot i = (m.registry.file uri).slot i
  answered : ∀ a : ManagerAction, a.asksNothing = true → ∀ uri i, i ≠ identifier →
    ((m.step a).registry.file uri).slot i = (m.registry.file uri).slot i
  /-- Whatever is done, each changes only if a tiding is about it. -/
  step_pushed : ∀ a uri, ((m.step a).registry.file uri).slot publishIdentifier =
    latest (Tiding.pushed? uri) ((m.registry.file uri).slot publishIdentifier) (m.tidings a)
  step_pulled : ∀ a uri, ((m.step a).registry.file uri).slot identifier =
    latest (Tiding.pulled? identifier uri) ((m.registry.file uri).slot identifier) (m.tidings a)

/-- Unless a server registered pulls under the identifier of publications, pushed and pulled
diagnostics never disturb each other, and both are shown. -/
theorem kept_apart (name : String) (definition : ServerDefinition) (policy : SyncPolicy)
    (settings : Settings) (env : Environment) (capacity : Nat)
    (hidentifier : env.feature.identifier ≠ some publishIdentifier)
    (actions : List ManagerAction) :
    let s := start name definition policy settings { env with registry := .fresh capacity }
    KeepsApart s.client.pulledUnder (s.account actions) (s.run actions) := by
  intro s
  have hs : s.Sound := sound_start _ _ _ _ _
  have hm : (s.run actions).Sound := hs.run actions
  have hne : s.client.pulledUnder ≠ publishIdentifier := by
    show env.feature.identifier.getD pullIdentifier ≠ publishIdentifier
    cases hi : env.feature.identifier with
    | none => decide
    | some i => exact fun heq => hidentifier (hi.trans (congrArg some heq))
  obtain ⟨hrun, hpulled⟩ := hs.registry_run actions
  have hpublish (uri : Uri) (x : Tiding) := Tiding.report?_publish hne x uri
  have hpull (uri : Uri) (x : Tiding) := Tiding.report?_pull hne x uri
  have hpushed (uri : Uri) : ((s.run actions).registry.file uri).slot publishIdentifier =
      lastPushed uri (s.account actions) := by
    rw [registry, hrun, Registry.slot_account (hpublish uri)]
    rfl
  have hanswered (uri : Uri) : ((s.run actions).registry.file uri).slot s.client.pulledUnder =
      lastPulled s.client.pulledUnder uri (s.account actions) := by
    rw [registry, hrun, Registry.slot_account (hpull uri)]
    rfl
  refine ⟨hpushed, hanswered, fun uri => ?contained,
    fun params uri i hi => hm.slot_publish params uri hi,
    fun a ha uri i hi => hm.slot_answers ha uri (hpulled ▸ hi),
    fun a uri => ?step_pushed, fun a uri => ?step_pulled⟩
  case contained =>
    have hneat : ((s.run actions).registry.file uri).Neat := by
      rw [registry, hrun]
      exact (Registry.neat_run capacity _).records uri
    have hnodup : [publishIdentifier, s.client.pulledUnder].Nodup := by simpa using hne.symm
    rw [← hpushed, ← hanswered, Registry.diagnostics]
    simpa using hneat.subperm_diagnostics hnodup
  case step_pushed =>
    rw [registry, (hm.registry_step a).1, hpulled]
    exact Registry.slot_account (hpublish uri) _ _
  case step_pulled =>
    rw [registry, (hm.registry_step a).1, hpulled]
    exact Registry.slot_account (hpull uri) _ _

/-- A document is opened and pulled, a publication about it is taken in, and then the pull is
answered. -/
def reporting (a : Uri) (answer : Answer) : List ManagerAction :=
  let place : Json := .obj [("line", .num (.int 1)), ("character", .num (.int 0))]
  [.openDocument a "a" (some "text"),
    .publish (.obj [("uri", .str a.text), ("diagnostics", .arr [.obj [
      ("range", .obj [("start", place), ("end", place)]), ("message", .str "bad")]])]),
    .shared (.respond a.text 0 answer)]

/-- What the publication says. -/
def badness : Diagnostic := ⟨⟨⟨1, 0⟩, ⟨1, 0⟩⟩, .warning, "bad", "unknown", none⟩

/-- A manager that waits for nothing, for a server that registers pulls. -/
def registeredUnder (identifier : Option String) : Manager :=
  start "text" { languageId := "text" } ⟨.full, true, .notify⟩ .forHeadless
    { Client.offering with feature := ⟨true, identifier⟩, registry := .fresh 8 }

/-- Both the publication and the answer are shown. -/
theorem kept_apart_reporting :
    let a : Uri := ⟨"file:///a"⟩
    let m := (registeredUnder none).run (reporting a Client.finding)
    (m.registry.file a).slot publishIdentifier = [badness] ∧
      (m.registry.file a).slot pullIdentifier = [oddity] ∧
      [badness, oddity].Subperm (m.registry.diagnostics a) := by
  intro a m
  have hidentifier : (none : Option String) ≠ some publishIdentifier := by decide
  have h : KeepsApart pullIdentifier
      ((registeredUnder none).account (reporting a Client.finding)) m :=
    kept_apart "text" { languageId := "text" } ⟨.full, true, .notify⟩ .forHeadless
      { Client.offering with feature := ⟨true, none⟩ } 8 hidentifier (reporting a Client.finding)
  have hpushed : lastPushed a ((registeredUnder none).account (reporting a Client.finding)) =
      [badness] := by decide +kernel
  have hpulled : lastPulled pullIdentifier a
      ((registeredUnder none).account (reporting a Client.finding)) = [oddity] := by decide +kernel
  have hcontained := h.contained a
  rw [hpushed, hpulled] at hcontained
  exact ⟨(h.pushed a).trans hpushed, (h.pulled a).trans hpulled, hcontained⟩

/-- A server that registers pulls under the identifier of publications answers that it found
nothing. The publication is gone, although it was never cleared. -/
theorem kept_apart_collision :
    let a : Uri := ⟨"file:///a"⟩
    let nothing : Answer := .ok (.obj [("kind", .str "full"), ("items", .arr [])])
    let s := registeredUnder (some publishIdentifier)
    let m := s.run (reporting a nothing)
    DiagnosticFeature.ofServer
        (.obj [("diagnosticProvider", .obj [("identifier", .str "publish")])]) =
      s.client.env.feature ∧
      lastPushed a (s.account (reporting a nothing)) = [badness] ∧
      m.registry.diagnostics a = [] ∧
      ¬ KeepsApart s.client.pulledUnder (s.account (reporting a nothing)) m := by
  intro a nothing s m
  have hpushed : lastPushed a (s.account (reporting a nothing)) = [badness] := by decide +kernel
  have hshown : m.registry.diagnostics a = [] := by decide +kernel
  refine ⟨by decide, hpushed, hshown, fun h => ?_⟩
  have hcontained := h.contained a
  rw [hpushed, hshown] at hcontained
  exact absurd hcontained.length_le (by simp)

end Manager

end DocSync
