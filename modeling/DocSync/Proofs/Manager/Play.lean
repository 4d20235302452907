import DocSync.Manager.Action
import DocSync.Proofs.Client.Handover
import DocSync.Proofs.Data.Table

/-!
# What a manager makes its client do

Every action on a manager comes down to moves of its client, so that whatever holds of all runs of a
client holds of all runs of a manager. What a manager adds is that all documents have its policy,
and that those which it does not list are closed.
-/
namespace DocSync

open Client (Move)

namespace Manager

/-- The moves of the client in an action. -/
def moves (m : Manager) : ManagerAction → List Move
  | .openDocument uri text languageId =>
    match m.find? uri with
    | some id => [.act (.document id .beginOpen)]
    | none => [.create uri (languageId.getD (m.definition.languageOf uri)) m.policy m.settings text
        none, .act (.document (m.client.freshId uri) .beginOpen)]
  | .close uri => (m.find? uri).toList.map fun id => .act (.document id .close)
  | .document uri a => (m.find? uri).toList.map fun id => .act (.document id a)
  | .refresh origin => m.documents.map fun x => .act (.document x.2 (.refresh origin))
  | .publish params =>
    match Publication.ofJson? params with
    | none => []
    | some p =>
      match m.client.env.resolver.resolve p.uri with
      | none => []
      | some uri =>
        if m.isCurrent uri p.version then
          [.act (.shared (.update uri publishIdentifier p.items))]
        else []
  | .shutdown => m.documents.map fun x => .act (.document x.2 .close)
  | .shared a => [.act (.shared a)]

def lists (m : Manager) : ManagerAction → List (Uri × DocumentId)
  | .openDocument uri _ _ =>
    if m.find? uri = none then m.documents ++ [(uri, m.client.freshId uri)] else m.documents
  | .close uri => if m.find? uri = none then m.documents else m.documents.filter fun x => x.1 != uri
  | .shutdown => []
  | _ => m.documents

/-- A manager after an action, as far as that is told by the moves of its client. -/
def after (m : Manager) (a : ManagerAction) : Manager :=
  { m with client := m.client.play (m.moves a), documents := m.lists a }

def script (m : Manager) : List ManagerAction → List Move
  | [] => []
  | a :: as => m.moves a ++ (m.step a).script as

def start (name : String) (definition : ServerDefinition) (policy : SyncPolicy)
    (settings : Settings) (env : Environment) : Manager :=
  { name, definition, policy, settings, client := Client.start env }

@[simp] theorem run_nil (m : Manager) : m.run [] = m := rfl

@[simp] theorem run_cons (m : Manager) (a : ManagerAction) (as : List ManagerAction) :
    m.run (a :: as) = (m.step a).run as := rfl

theorem openDocument_eq (m : Manager) (uri : Uri) (text : String) (languageId : Option String) :
    (m.openDocument uri text languageId).1 = m.after (.openDocument uri text languageId) := by
  cases hf : m.find? uri with
  | some id => simp [openDocument, after, moves, lists, hf, Client.move, Client.step_beginOpen]
  | none => simp [openDocument, after, moves, lists, hf, Client.move, Client.step_beginOpen]

theorem close_eq (m : Manager) (uri : Uri) : (m.close uri).1 = m.after (.close uri) := by
  cases hf : m.find? uri with
  | some id => simp [close, after, moves, lists, hf, Client.move, Client.step_close, bne]
  | none => simp [close, after, moves, lists, hf]

theorem document_eq (m : Manager) (uri : Uri) (a : DocumentAction) :
    m.step (.document uri a) = m.after (.document uri a) := by
  cases hf : m.find? uri with
  | none => simp [step, perform, document?, after, moves, lists, hf]
  | some id =>
    simp only [step, perform, document?, after, moves, lists, hf, Option.bind_some,
      Option.toList_some, List.map_cons, List.map_nil, Client.play_cons, Client.play_nil,
      Client.move, Client.step, Client.perform]
    cases m.client.find? id <;> rfl

theorem publish_eq (m : Manager) (params : Json) :
    m.publish params = m.after (.publish params) := by
  cases hp : Publication.ofJson? params with
  | none => simp [publish, after, moves, lists, hp]
  | some p =>
    cases hr : m.client.env.resolver.resolve p.uri with
    | none => simp [publish, after, moves, lists, hp, hr]
    | some uri =>
      by_cases hc : m.isCurrent uri p.version = true
      · simp only [publish, after, moves, lists, hp, hr, if_pos hc]
        rfl
      · simp [publish, after, moves, lists, hp, hr, hc]

theorem shutdown_eq (m : Manager) : m.shutdown.1 = m.after .shutdown := by
  have hfold (ids : List (Uri × DocumentId)) (c : Client) (ds : List Delivery) :
      (ids.foldl (fun (x : Client × List Delivery) y =>
        ((x.1.close y.2).1, (x.1.close y.2).2 :: x.2)) (c, ds)).1 =
        c.play (ids.map fun x => .act (.document x.2 .close)) := by
    induction ids generalizing c ds with
    | nil => rfl
    | cons x ids ih => rw [List.foldl_cons, ih, List.map_cons, Client.play_cons, Client.move,
        Client.step_close]
  rw [after, moves, ← hfold m.documents m.client []]
  rfl

theorem refresh_eq (m : Manager) (origin : RefreshOrigin) :
    m.refresh origin = m.after (.refresh origin) := by
  have hfold (ids : List (Uri × DocumentId)) (c : Client) :
      ids.foldl (fun c x => c.refresh x.2 origin) c =
        c.play (ids.map fun x => .act (.document x.2 (.refresh origin))) := by
    induction ids generalizing c with
    | nil => rfl
    | cons x ids ih => rw [List.foldl_cons, ih, List.map_cons, Client.play_cons, Client.move,
        Client.step_refresh]
  rw [after, moves, ← hfold m.documents m.client]
  rfl

/-- An action on a manager plays its moves, and changes what is listed. -/
theorem step_eq (m : Manager) (a : ManagerAction) : m.step a = m.after a := by
  cases a with
  | openDocument uri text languageId => exact m.openDocument_eq uri text languageId
  | close uri => exact m.close_eq uri
  | document uri a => exact m.document_eq uri a
  | refresh origin => exact m.refresh_eq origin
  | publish params => exact m.publish_eq params
  | shutdown => exact m.shutdown_eq
  | shared a => rfl

theorem client_step (m : Manager) (a : ManagerAction) :
    (m.step a).client = m.client.play (m.moves a) := by
  rw [step_eq]
  rfl

theorem step_policy (m : Manager) (a : ManagerAction) : (m.step a).policy = m.policy := by
  rw [step_eq]
  rfl

/-- What a manager is set up with stays. -/
theorem run_setup (m : Manager) (as : List ManagerAction) :
    (m.run as).definition = m.definition ∧ (m.run as).policy = m.policy ∧
      (m.run as).settings = m.settings := by
  induction as generalizing m with
  | nil => exact ⟨rfl, rfl, rfl⟩
  | cons a as ih =>
    rw [run_cons, step_eq]
    exact ih (m.after a)

theorem find?_step (m : Manager) (a : ManagerAction) (u : Uri) :
    (m.step a).find? u = (m.lists a).lookup u := by
  rw [step_eq]
  rfl

/-- A run of a manager is a run of its client. -/
theorem client_run (m : Manager) (as : List ManagerAction) :
    (m.run as).client = m.client.play (m.script as) := by
  induction as generalizing m with
  | nil => rfl
  | cons a as ih => rw [run_cons, ih, script, Client.play_append, client_step]

/-! ## What a manager adds -/

def opens (m : Manager) (u : Uri) : ManagerAction → Bool
  | .openDocument uri _ _ => uri == u && !m.isOpen uri
  | _ => false

/-- What holds whenever a run goes on with an action. -/
def Throughout (P : Manager → ManagerAction → Prop) (m : Manager) : List ManagerAction → Prop
  | [] => True
  | a :: as => P m a ∧ Throughout P (m.step a) as

instance decidableThroughout (P : Manager → ManagerAction → Prop) [∀ m a, Decidable (P m a)] :
    (m : Manager) → (as : List ManagerAction) → Decidable (m.Throughout P as)
  | _, [] => .isTrue trivial
  | m, a :: as =>
    have := decidableThroughout P (m.step a) as
    inferInstanceAs (Decidable (P m a ∧ (m.step a).Throughout P as))

/-- What holds of a manager at every moment of a run. -/
structure Sound (m : Manager) : Prop where
  client : m.client.Sound
  policy : ∀ d ∈ m.client.documents, d.policy = m.policy
  /-- Whatever is not closed is listed. -/
  listed : ∀ d ∈ m.client.documents, d.phase ≠ .closed → m.find? d.uri = some d.id

theorem eq_of_opens {m : Manager} {u : Uri} {a : ManagerAction} (h : m.opens u a = true) :
    m.find? u = none ∧ ∃ text languageId, a = .openDocument u text languageId := by
  cases a with
  | openDocument uri text languageId =>
    simp only [opens, Bool.and_eq_true, beq_iff_eq, Bool.not_eq_true', isOpen,
      Option.isSome_eq_false_iff, Option.isNone_iff_eq_none] at h
    obtain ⟨rfl, hnone⟩ := h
    exact ⟨hnone, text, languageId, rfl⟩
  | _ => cases h

theorem opens_openDocument {m : Manager} {uri : Uri} (h : m.find? uri = none) (text : String)
    (languageId : Option String) : m.opens uri (.openDocument uri text languageId) = true := by
  simp [opens, isOpen, h]

/-- All moves of the client in an action are about single documents, or there is only one. -/
theorem moves_cases {m : Manager} {a : ManagerAction} (h : ∀ u, m.opens u a = false) :
    (∃ b, m.moves a = [.act (.shared b)]) ∨
      ∀ move ∈ m.moves a, ∃ id b, move = .act (.document id b) := by
  have hmap {α : Type} (xs : List α) (f : α → DocumentId) (b : DocumentAction) :
      ∀ move ∈ xs.map fun x => Move.act (.document (f x) b),
        ∃ id b, move = .act (.document id b) := by
    intro move hmove
    obtain ⟨x, -, rfl⟩ := List.mem_map.mp hmove
    exact ⟨f x, b, rfl⟩
  cases a with
  | openDocument uri text languageId =>
    cases hf : m.find? uri with
    | none => exact absurd (opens_openDocument hf text languageId) (by simp [h uri])
    | some id =>
      right
      simp only [moves, hf]
      exact hmap [id] (fun id => id) .beginOpen
  | close uri => exact .inr (hmap _ _ .close)
  | document uri a => exact .inr (hmap _ _ a)
  | refresh origin => exact .inr (hmap _ _ (.refresh origin))
  | publish params =>
    simp only [moves]
    split
    · simp
    · split
      · simp
      · split
        · exact .inl ⟨_, rfl⟩
        · simp
  | shutdown => exact .inr (hmap _ _ .close)
  | shared a => exact .inl ⟨a, rfl⟩

theorem moves_act {m : Manager} {a : ManagerAction} (h : ∀ u, m.opens u a = false) :
    ∀ move ∈ m.moves a, ∃ b, move = .act b := by
  intro move hmove
  rcases moves_cases h with ⟨b, heq⟩ | hall
  · exact ⟨_, List.mem_singleton.mp (heq ▸ hmove)⟩
  · obtain ⟨id, b, rfl⟩ := hall move hmove
    exact ⟨_, rfl⟩

end Manager

namespace Client

theorem Move.work_close (active : Bool) (d : Document) :
    (Move.work active d (.act (.document d.id .close))).phase = .closed := by
  rw [Move.work, if_pos rfl]
  exact d.close_phase active

/-- Without a creation, every document was there before, and one that is not closed was not closed
before or in between. -/
theorem Sound.earlier {c : Client} (hc : c.Sound) {ms : List Move}
    (hms : ∀ m ∈ ms, ∃ a, m = .act a) {d' : Document} (hd' : d' ∈ (c.play ms).documents) :
    ∃ d ∈ c.documents, d'.id = d.id ∧ d'.policy = d.policy ∧
      (d'.phase ≠ .closed → d.phase ≠ .closed ∧ .act (.document d.id .close) ∉ ms) := by
  induction ms generalizing c with
  | nil => exact ⟨d', hd', rfl, rfl, fun hp => ⟨hp, List.not_mem_nil⟩⟩
  | cons m ms ih =>
    obtain ⟨e, he, heid, hepolicy, heopen⟩ :=
      ih (hc.move m) (fun k hk => hms k (List.mem_cons_of_mem m hk)) hd'
    obtain ⟨a, rfl⟩ := hms m List.mem_cons_self
    rcases hc.source he with ⟨d, hd, l, hcourse, -, hid⟩ | ⟨-, -, -, hm⟩
    · refine ⟨d, hd, heid.trans hid.symm, ?_, fun hp => ?_⟩
      · rw [hepolicy, hcourse.sameText.policy, Document.work_policy]
      · obtain ⟨hpe, hnot⟩ := heopen hp
        rw [ne_eq, hcourse.closed] at hpe
        refine ⟨fun hclosed => hpe (Document.work_closed _ hclosed _), ?_⟩
        rw [List.mem_cons, not_or]
        refine ⟨?_, hid ▸ hnot⟩
        intro heq
        rw [← heq] at hpe
        exact hpe (Move.work_close _ d)
    · cases hm

end Client

namespace Manager

theorem find?_step_opens {m : Manager} {u : Uri} {a : ManagerAction} (h : m.opens u a = true)
    (v : Uri) :
    (m.step a).find? v = if v = u then some (m.client.freshId u) else m.find? v := by
  obtain ⟨hnone, text, languageId, rfl⟩ := eq_of_opens h
  rw [find?_step, lists, if_pos hnone, List.lookup_append]
  by_cases hv : v = u
  · subst hv
    rw [find?] at hnone
    simp [hnone]
  · have hne : (v == u) = false := by simpa using hv
    rw [if_neg hv, find?, List.lookup_cons, hne, List.lookup_nil, Option.or_none]

theorem moves_opens {m : Manager} {u : Uri} {a : ManagerAction} (h : m.opens u a = true) :
    ∃ languageId text, m.moves a =
      [.create u languageId m.policy m.settings text none,
        .act (.document (m.client.freshId u) .beginOpen)] := by
  obtain ⟨hnone, text, languageId, rfl⟩ := eq_of_opens h
  exact ⟨languageId.getD (m.definition.languageOf u), text, by simp only [moves, hnone]⟩

theorem Sound.opens {m : Manager} (h : m.Sound) {u : Uri} {a : ManagerAction}
    (ho : m.opens u a = true) : (m.step a).Sound := by
  obtain ⟨languageId, text, hmoves⟩ := moves_opens ho
  have hclient := m.client_step a
  rw [hmoves, Client.play_cons] at hclient
  have hcreated := h.client.move (.create u languageId m.policy m.settings text none)
  have hacts : ∀ move ∈ [Client.Move.act (.document (m.client.freshId u) .beginOpen)],
      ∃ b, move = .act b := fun move hmove => ⟨_, List.mem_singleton.mp hmove⟩
  have hsource : ∀ d' ∈ (m.step a).client.documents, d'.policy = m.policy ∧
      (d'.phase ≠ .closed → (m.step a).find? d'.uri = some d'.id) := by
    intro d' hd'
    rw [hclient] at hd'
    obtain ⟨d, hd, hid, hpolicy, hopen⟩ := hcreated.earlier hacts hd'
    rw [find?_step_opens ho, hpolicy, Document.uri, hid]
    rcases List.mem_append.mp hd with hd | hd
    · refine ⟨h.policy d hd, fun hp => ?_⟩
      have hlisted := h.listed d hd (hopen hp).1
      rw [if_neg]
      · exact hlisted
      · intro hu
        have hu' : d.uri = u := hu
        rw [hu', (eq_of_opens ho).1] at hlisted
        cases hlisted
    · rw [List.mem_singleton.mp hd]
      exact ⟨rfl, fun _ => if_pos (by rw [Client.freshId_eq])⟩
  refine ⟨hclient ▸ hcreated.play _, fun d hd => ?_, fun d hd => (hsource d hd).2⟩
  rw [step_policy]
  exact (hsource d hd).1

theorem Sound.acts {m : Manager} (h : m.Sound) {a : ManagerAction} (ha : ∀ u, m.opens u a = false) :
    (m.step a).Sound := by
  have hclient := m.client_step a
  refine ⟨hclient ▸ h.client.play _, fun d' hd' => ?_, fun d' hd' hp => ?_⟩
  · rw [hclient] at hd'
    obtain ⟨d, hd, -, hpolicy, -⟩ := h.client.earlier (moves_act ha) hd'
    rw [step_policy, hpolicy]
    exact h.policy d hd
  · rw [hclient] at hd'
    obtain ⟨d, hd, hid, -, hopen⟩ := h.client.earlier (moves_act ha) hd'
    obtain ⟨hp, hnot⟩ := hopen hp
    have hlisted := h.listed d hd hp
    rw [Document.uri, hid, find?_step]
    cases a with
    | openDocument uri text languageId =>
      have hsome : m.find? uri ≠ none := fun hnone =>
        absurd (opens_openDocument hnone text languageId) (by simp [ha uri])
      rw [lists, if_neg hsome]
      exact hlisted
    | close uri =>
      cases hf : m.find? uri with
      | none =>
        rw [lists, if_pos hf]
        exact hlisted
      | some id =>
        rw [lists, if_neg (by simp [hf]), Table.lookup_filter_of_ne]
        · exact hlisted
        · rintro rfl
          have heq : id = d.id := Option.some.inj (hf.symm.trans hlisted)
          apply hnot
          simp [moves, hf, heq]
    | shutdown =>
      exfalso
      apply hnot
      exact List.mem_map.mpr ⟨(d.uri, d.id), Table.mem_of_lookup hlisted, rfl⟩
    | _ => exact hlisted

theorem Sound.step {m : Manager} (h : m.Sound) (a : ManagerAction) : (m.step a).Sound := by
  by_cases hopens : ∃ u, m.opens u a = true
  · obtain ⟨u, hu⟩ := hopens
    exact h.opens hu
  · exact h.acts fun u => by simpa using not_exists.mp hopens u

theorem sound_start (name : String) (definition : ServerDefinition) (policy : SyncPolicy)
    (settings : Settings) (env : Environment) : (start name definition policy settings env).Sound :=
  ⟨Client.sound_start env, by simp [start, Client.start], by simp [start, Client.start]⟩

theorem Sound.run {m : Manager} (h : m.Sound) (as : List ManagerAction) : (m.run as).Sound := by
  induction as generalizing m with
  | nil => exact h
  | cons a as ih => exact ih (h.step a)

/-! ## What is listed -/

/-- An action adds to the list only the document that it opens. -/
theorem mem_lists {m : Manager} {a : ManagerAction} {x : Uri × DocumentId} (h : x ∈ m.lists a) :
    x ∈ m.documents ∨ ∃ uri, m.opens uri a = true ∧ x = (uri, m.client.freshId uri) := by
  cases a with
  | openDocument uri text languageId =>
    simp only [lists] at h
    split at h
    · rename_i hnone
      rcases List.mem_append.mp h with h | h
      · exact .inl h
      · exact .inr ⟨uri, opens_openDocument hnone text languageId, List.mem_singleton.mp h⟩
    · exact .inl h
  | close uri =>
    simp only [lists] at h
    split at h
    · exact .inl h
    · exact .inl (List.mem_of_mem_filter h)
  | shutdown => cases h
  | _ => exact .inl h

/-- What is listed for a URI is a document of that URI. -/
def Owned (m : Manager) : Prop := ∀ x ∈ m.documents, x.2.uri = x.1

theorem owned_start (name : String) (definition : ServerDefinition) (policy : SyncPolicy)
    (settings : Settings) (env : Environment) :
    (start name definition policy settings env).Owned := by
  simp [Owned, start]

theorem Owned.step {m : Manager} (h : m.Owned) (a : ManagerAction) : (m.step a).Owned := by
  rw [step_eq]
  intro x hx
  rcases mem_lists hx with hx | ⟨uri, -, rfl⟩
  · exact h x hx
  · rw [Client.freshId_eq]

theorem Owned.of_find? {m : Manager} (h : m.Owned) {uri : Uri} {id : DocumentId}
    (hf : m.find? uri = some id) : id.uri = uri := h (uri, id) (Table.mem_of_lookup hf)

theorem Owned.run {m : Manager} (h : m.Owned) (as : List ManagerAction) : (m.run as).Owned := by
  induction as generalizing m with
  | nil => exact h
  | cons a as ih => exact ih (h.step a)

/-- What is listed is a document of the client. -/
def Held (m : Manager) : Prop := ∀ x ∈ m.documents, x.2 ∈ m.client.ids

theorem held_start (name : String) (definition : ServerDefinition) (policy : SyncPolicy)
    (settings : Settings) (env : Environment) :
    (start name definition policy settings env).Held := by
  simp [Held, start]

theorem Held.step {m : Manager} (h : m.Held) (hm : m.Sound) (a : ManagerAction) :
    (m.step a).Held := by
  intro x hx
  rw [step_eq] at hx
  rw [client_step]
  rcases mem_lists hx with hx | ⟨uri, hopens, rfl⟩
  · exact hm.client.ids_subset_play (m.moves a) (h x hx)
  · obtain ⟨languageId, text, hmoves⟩ := moves_opens hopens
    rw [hmoves, Client.play_cons]
    refine (hm.client.move _).ids_subset_play _ ?_
    exact List.mem_map.mpr ⟨_, List.mem_append_right _ (List.mem_singleton_self _), rfl⟩

theorem Held.run {m : Manager} (h : m.Held) (hm : m.Sound) (as : List ManagerAction) :
    (m.run as).Held := by
  induction as generalizing m with
  | nil => exact h
  | cons a as ih => exact ih (h.step hm a) (hm.step a)

/-- What is listed can be found. -/
theorem Held.document? {m : Manager} (h : m.Held) {uri : Uri} {id : DocumentId}
    (hf : m.find? uri = some id) : ∃ d, m.document? uri = some d ∧ m.client.find? id = some d := by
  obtain ⟨d, hd, hid⟩ := List.mem_map.mp (h (uri, id) (Table.mem_of_lookup hf))
  have hsome : (m.client.find? id).isSome := by
    rw [Client.find?, List.find?_isSome]
    exact ⟨d, hd, beq_iff_eq.mpr hid⟩
  obtain ⟨e, he⟩ := Option.isSome_iff_exists.mp hsome
  exact ⟨e, by rw [Manager.document?, hf, Option.bind_some, he], he⟩

/-- No URI is listed twice. -/
def Distinct (m : Manager) : Prop := (m.documents.map Prod.fst).Nodup

theorem distinct_start (name : String) (definition : ServerDefinition) (policy : SyncPolicy)
    (settings : Settings) (env : Environment) :
    (start name definition policy settings env).Distinct := List.nodup_nil

theorem Distinct.step {m : Manager} (h : m.Distinct) (a : ManagerAction) : (m.step a).Distinct := by
  rw [step_eq]
  cases a with
  | openDocument uri text languageId =>
    unfold Distinct after lists
    dsimp only
    split
    · rename_i hnone
      rw [List.map_append, List.nodup_append]
      refine ⟨h, List.nodup_singleton _, ?_⟩
      intro u hu v hv huv
      obtain ⟨x, hx, rfl⟩ := List.mem_map.mp hu
      have hne := List.lookup_eq_none_iff.mp hnone x hx
      rw [List.mem_singleton.mp hv] at huv
      simp [huv] at hne
    · exact h
  | close uri =>
    unfold Distinct after lists
    dsimp only
    split
    · exact h
    · exact h.sublist (List.filter_sublist.map _)
  | shutdown => exact List.nodup_nil
  | _ => exact h

theorem Distinct.run {m : Manager} (h : m.Distinct) (as : List ManagerAction) :
    (m.run as).Distinct := by
  induction as generalizing m with
  | nil => exact h
  | cons a as ih => exact ih (h.step a)

theorem Distinct.ids {m : Manager} (h : m.Distinct) (ho : m.Owned) :
    (m.documents.map Prod.snd).Nodup := by
  refine List.Nodup.map_on (fun x hx y hy hxy => ?_) h.of_map
  exact Prod.ext ((ho x hx).symm.trans (hxy ▸ ho y hy)) hxy

/-- Every document that is the one of its URI is listed once, and no other one is listed. -/
theorem Distinct.count {m : Manager} (h : m.Distinct) (ho : m.Owned) (id : DocumentId) :
    (m.documents.map Prod.snd).count id = if m.find? id.uri = some id then 1 else 0 := by
  have hmem : id ∈ m.documents.map Prod.snd ↔ m.find? id.uri = some id := by
    constructor
    · intro hid
      obtain ⟨x, hx, rfl⟩ := List.mem_map.mp hid
      rw [ho x hx]
      exact Table.lookup_of_mem h hx
    · intro hf
      exact List.mem_map.mpr ⟨(id.uri, id), Table.mem_of_lookup hf, rfl⟩
  rw [(h.ids ho).count]
  exact if_congr hmem rfl rfl

end Manager

end DocSync
