import DocSync.Proofs.Client.Evolution
import Mathlib.Algebra.Order.BigOperators.Group.List
import Mathlib.Algebra.Order.Group.Nat
import Mathlib.Data.List.Induction

/-!
# Runs from the start

A run starts without documents and without a history. Its moves create documents and perform
actions; in a run every document has an identity of its own, nothing was logged for a document that
does not exist, and after every move all documents are at rest.
-/
namespace DocSync

open Document (Course Step Call)

namespace Client

inductive Move
  | create (uri : Uri) (languageId : String) (policy : SyncPolicy) (settings : Settings)
      (buffer : String) (initialText : Option String)
  | act (a : Action)

def move (c : Client) : Move → Client
  | .create uri languageId policy settings buffer initialText =>
    c.create uri languageId policy settings buffer initialText
  | .act a => c.step a

def play (c : Client) (moves : List Move) : Client := moves.foldl move c

/-- A session that is ready, with a server that offers no pulls. -/
def plain : Environment :=
  { session := {}, feature := ⟨false, none⟩, resolver := .anyUri, registry := { capacity := 1 } }

def start (env : Environment) : Client := { env := { env with history := [] } }

@[simp] theorem play_nil (c : Client) : c.play [] = c := rfl

@[simp] theorem play_cons (c : Client) (m : Move) (ms : List Move) :
    c.play (m :: ms) = (c.move m).play ms := rfl

theorem play_append (c : Client) (ms ns : List Move) : c.play (ms ++ ns) = (c.play ms).play ns :=
  List.foldl_append

theorem play_concat (c : Client) (ms : List Move) (m : Move) :
    c.play (ms ++ [m]) = (c.play ms).move m := by simp [play]

/-- What a move does to a document at first. -/
def Move.work (active : Bool) (d : Document) : Move → Document
  | .act (.document id a) => if id = d.id then a.work active d else d
  | _ => d

end Client

theorem Document.Call.id {active : Bool} {d d' : Document} (h : Call active d d') :
    d'.id = d.id := by
  cases h with
  | begin hp => exact d.beginOpen_same Document.id fun _ _ _ _ => rfl
  | _ => rfl

theorem DocumentAction.work_id (active : Bool) (d : Document) (a : DocumentAction) :
    (a.work active d).id = d.id :=
  Document.work_induct (P := fun e => e.id = d.id) (fun _ _ h he => h.id.trans he) rfl a

namespace Client

theorem Move.work_induct {active : Bool} {P : Document → Prop}
    (hcall : ∀ d d', Call active d d' → P d → P d') {d : Document} (h : P d) (m : Move) :
    P (m.work active d) := by
  unfold Move.work
  split
  · split
    · exact Document.work_induct hcall h _
    · exact h
  · exact h

/-! ## Actions -/

theorem clearBeforeClose_eq (c : Client) (id : DocumentId) :
    ∃ r, c.clearBeforeClose id = c.setRegistry r := by
  unfold clearBeforeClose
  split
  · exact ⟨c.env.registry, rfl⟩
  · split
    · exact ⟨c.env.registry, rfl⟩
    · exact ⟨_, rfl⟩

/-- The client without the diagnostics that an action drops before its work. -/
def cleared (c : Client) (id : DocumentId) : DocumentAction → Client
  | .close => c.clearBeforeClose id
  | _ => c

theorem cleared_eq (c : Client) (id : DocumentId) (a : DocumentAction) :
    ∃ r, c.cleared id a = c.setRegistry r := by
  cases a with
  | close => exact c.clearBeforeClose_eq id
  | _ => exact ⟨c.env.registry, rfl⟩

end Client

/-- What the work of an action returns, if it may queue something. -/
def DocumentAction.delivery? (active : Bool) (d : Document) : DocumentAction → Option Delivery
  | .edit e new =>
    match d.textAfter e new with
    | .error _ => none
    | .ok text => some (d.type e text).flush.2
  | .flush => some d.flush.2
  | .save => some (d.save active).2
  | .close => some (d.close active).2
  | _ => none

/-- The turn of a document after an action, before it goes on by itself. -/
def Turn.perform (t : Turn) : DocumentAction → Turn
  | .refresh origin => t.refresh origin
  | a => { t with doc := a.work t.env.session.active t.doc }

/-- An action on a document is its work, and then what the document does by itself. -/
theorem Turn.goes_perform (t : Turn) (a : DocumentAction) :
    Goes ⟨a.work t.env.session.active t.doc, t.env⟩ (t.perform a) := by
  cases a with
  | refresh origin => exact t.goes_refresh origin
  | _ => exact .refl _

theorem Turn.emits_perform (t : Turn) (a : DocumentAction) :
    ∃ es, Emits t es (t.perform a).progress := by
  obtain ⟨es, he, -⟩ := (t.goes_perform a).trans (t.perform a).goes_progress
  exact ⟨es, (Emits.document t _ (a.work_id _ _)).trans he⟩

namespace Client

/-- An action on a document is one turn of it. -/
theorem performOn_eq {c : Client} (hc : c.ids.Nodup) (h : c.Rests) {d : Document}
    (hd : d ∈ c.documents) (a : DocumentAction) :
    (c.performOn d a).1 = (c.cleared d.id a).put
      ((⟨d, (c.cleared d.id a).env⟩ : Turn).perform a).progress := by
  have hf := find?_of_mem hc hd
  have hedit (work : Document → Document) :
      c.edit d.id work = c.put (Turn.progress ⟨work d, c.env⟩) := by
    rw [edit, turn, hf]
  have hdeliver (c' : Client) (hf : c'.find? d.id = some d)
      (work : Document → Document × Delivery) :
      (c'.deliver d.id work).1 = c'.put (Turn.progress ⟨(work d).1, c'.env⟩) := by
    simp only [deliver, hf, edit, turn]
  have hnothing : c = c.put (Turn.progress ⟨d, c.env⟩) := by
    rw [Turn.progress_of_rests (h d hd), put_self hc hd]
  cases a with
  | beginOpen =>
    simp only [performOn, beginOpen, hf]
    exact hedit _
  | before e old => exact hedit fun d => d.recordBefore (old.getD d.buffer) e
  | after new => exact hedit fun d => { d with buffer := new }.recordAfter new
  | type e new =>
    simp only [performOn, cleared, Turn.perform, DocumentAction.work]
    cases d.textAfter e new with
    | error fault => exact hnothing
    | ok text => exact hedit fun d => d.type e text
  | edit e new =>
    simp only [performOn, cleared, Turn.perform, DocumentAction.work]
    cases d.textAfter e new with
    | error fault => exact hnothing
    | ok text => exact hdeliver c hf _
  | setText text => exact hedit fun d => { d with buffer := text }
  | flush => exact hdeliver c hf _
  | save => exact hdeliver c hf _
  | close =>
    obtain ⟨r, hr⟩ := c.clearBeforeClose_eq d.id
    simp only [performOn, delivered, close, cleared, hr]
    exact hdeliver (c.setRegistry r) hf _
  | refresh origin => simp only [performOn, refresh, turn, hf, cleared, Turn.perform]

/-- The delivery that an action returns is the one that its work comes with. -/
theorem performOn_delivery {c : Client} (hc : c.ids.Nodup) {d : Document} (hd : d ∈ c.documents)
    {a : DocumentAction} {delivery : Delivery} (h : (c.performOn d a).2 = .delivery delivery) :
    a.delivery? c.env.session.active d = some delivery := by
  have hf := find?_of_mem hc hd
  have hdeliver (c' : Client) (hf : c'.find? d.id = some d) (work : Document → Document × Delivery)
      (h : (delivered (c'.deliver d.id work)).2 = .delivery delivery) : (work d).2 = delivery := by
    simpa [delivered, deliver, hf] using h
  cases a with
  | edit e new =>
    simp only [performOn, DocumentAction.delivery?] at h ⊢
    cases ht : d.textAfter e new with
    | error fault =>
      rw [ht] at h
      cases h
    | ok text =>
      rw [ht] at h
      exact congrArg some (hdeliver c hf (fun d => (d.type e text).flush) h)
  | flush => exact congrArg some (hdeliver c hf _ h)
  | save => exact congrArg some (hdeliver c hf (fun d => d.save c.env.session.active) h)
  | close =>
    obtain ⟨r, hr⟩ := c.clearBeforeClose_eq d.id
    simp only [performOn, close, hr] at h
    exact congrArg some
      (hdeliver (c.setRegistry r) hf (fun d => d.close c.env.session.active) h)
  | type e new =>
    simp only [performOn] at h
    split at h <;> cases h
  | _ => cases h

theorem move_of_unknown {c : Client} {id : DocumentId} (hf : c.find? id = none)
    (a : DocumentAction) : c.move (.act (.document id a)) = c := by
  simp [Client.move, step, perform, hf]

theorem move_document {c : Client} (hc : c.ids.Nodup) (h : c.Rests) {d : Document}
    (hd : d ∈ c.documents) (a : DocumentAction) : ∃ r, c.move (.act (.document d.id a)) =
      (c.setRegistry r).put ((⟨d, (c.setRegistry r).env⟩ : Turn).perform a).progress := by
  obtain ⟨r, hr⟩ := c.cleared_eq d.id a
  refine ⟨r, ?_⟩
  rw [← hr, ← performOn_eq hc h hd]
  simp [Client.move, step, perform, find?_of_mem hc hd]

theorem evolves_document {c : Client} (hc : c.ids.Nodup) (h : c.Rests) {d : Document}
    (hd : d ∈ c.documents) (a : DocumentAction) :
    Evolves c.env.feature.supported (c.put ⟨a.work c.env.session.active d, c.env⟩)
      (c.move (.act (.document d.id a))) := by
  obtain ⟨r, hmove⟩ := move_document hc h hd a
  let t : Turn := ⟨d, (c.setRegistry r).env⟩
  have hsame : Evolves c.env.feature.supported (c.put ⟨a.work c.env.session.active d, c.env⟩)
      ((c.setRegistry r).put ⟨a.work c.env.session.active d, (c.setRegistry r).env⟩) :=
    .same rfl rfl rfl
  rw [hmove]
  exact hsame.trans (evolves_put (c := c.setRegistry r) hd (a.work_id _ _)
    ((t.goes_perform a).trans (t.perform a).goes_progress))

theorem world_document {c : Client} (hc : c.ids.Nodup) (h : c.Rests) (id : DocumentId)
    (a : DocumentAction) : c.env.SameWorld (c.move (.act (.document id a))).env := by
  cases hf : c.find? id with
  | none =>
    rw [move_of_unknown hf]
    exact .refl _
  | some d =>
    obtain ⟨hd, rfl⟩ := find?_eq_some hf
    obtain ⟨r, hmove⟩ := move_document hc h hd a
    obtain ⟨es, he⟩ := Turn.emits_perform ⟨d, (c.setRegistry r).env⟩ a
    have hworld : c.env.SameWorld (c.setRegistry r).env := ⟨rfl, rfl, rfl, rfl, rfl, rfl⟩
    rw [hmove]
    exact hworld.trans he.world

theorem rests_document {c : Client} (hc : c.ids.Nodup) (h : c.Rests) (id : DocumentId)
    (a : DocumentAction) : (c.move (.act (.document id a))).Rests := by
  cases hf : c.find? id with
  | none =>
    rw [move_of_unknown hf]
    exact h
  | some d =>
    obtain ⟨hd, rfl⟩ := find?_eq_some hf
    obtain ⟨r, hmove⟩ := move_document hc h hd a
    obtain ⟨es, he⟩ := Turn.emits_perform ⟨d, (c.setRegistry r).env⟩ a
    rw [hmove]
    exact rests_put (c := c.setRegistry r) h (Turn.progress_rests _) he.world

/-! ## Incidents -/

/-- What happens on the other side, to the session or to a writer, before any document goes on by
itself. -/
def Incident.occur (e : Environment) : Incident → Environment
  | .setActive value => { e with session.active := value }
  | .setSupported value => { e with feature.supported := value }
  | .setSession state => { e with session.state := state }
  | .stall value => { e with link.stalled := value }
  | .failNext method fault => { e with link.failures := e.link.failures ++ [(method, fault)] }
  | .script uri answer => { e with link.answers := e.link.answers ++ [(uri, answer)] }
  | .delay id value => { e with late := fun other => if other = id then value else e.late other }

/-- Whether documents may go on because of it. -/
def Incident.rouses : Incident → Bool
  | .setSession _ | .stall _ | .delay .. => true
  | .setActive _ | .setSupported _ | .failNext .. | .script .. => false

theorem happen_eq (c : Client) (i : Incident) : c.happen i =
    if i.rouses then { c with env := i.occur c.env }.progress
    else { c with env := i.occur c.env } := by
  cases i <;> rfl

theorem Incident.occur_now (e : Environment) (i : Incident) : (i.occur e).now = e.now := by
  cases i <;> rfl

theorem Incident.occur_history (e : Environment) (i : Incident) :
    (i.occur e).history = e.history := by
  cases i <;> rfl

theorem evolves_happen {c : Client} (hc : c.ids.Nodup) (i : Incident) :
    Evolves c.env.feature.supported c (c.happen i) := by
  have hoccur (supported : Bool) : Evolves supported c { c with env := i.occur c.env } :=
    .same rfl (i.occur_now c.env) (i.occur_history c.env)
  rw [happen_eq]
  split
  · rename_i hi
    have hfeature : (i.occur c.env).feature = c.env.feature := by
      cases i with
      | setSupported value => cases hi
      | _ => rfl
    have hprogress := evolves_progress (c := { c with env := i.occur c.env }) hc
    rw [show ({ c with env := i.occur c.env } : Client).env.feature = _ from hfeature] at hprogress
    exact (hoccur _).trans hprogress
  · exact hoccur _

theorem rests_happen {c : Client} (hc : c.ids.Nodup) (h : c.Rests) (i : Incident) :
    (c.happen i).Rests := by
  rw [happen_eq]
  split
  · exact rests_progress (c := { c with env := i.occur c.env }) hc
  · rename_i hi
    cases i with
    | setSession | stall | delay => exact absurd rfl hi
    | _ => exact h

/-- The registry after the answer to an open request. -/
def heed (c : Client) (r : OpenRequest) (answer : Answer) : Registry :=
  match c.find? r.document with
  | none => c.env.registry
  | some d => if d.awaits r.version = true then c.env.learn d.uri answer else c.env.registry

/-- An answer concerns nothing but the registry. -/
theorem respond_eq {c : Client} (hc : c.ids.Nodup) (h : c.Rests) (uri : String) (nth : Nat)
    (answer : Answer) :
    (c.respond uri nth answer).1 =
      match Link.takeRequest uri nth c.env.link.requests with
      | none => c
      | some (r, rest) =>
        { c with env.link.requests := rest, env.registry := c.heed r answer } := by
  unfold respond
  cases Link.takeRequest uri nth c.env.link.requests with
  | none => rfl
  | some taken =>
    obtain ⟨r, rest⟩ := taken
    dsimp only
    generalize hc' : { c with env.link.requests := rest } = c'
    have hids : c'.ids.Nodup := by rwa [← hc']
    have hrests : c'.Rests := by rwa [← hc']
    have hheed : { c with env.link.requests := rest, env.registry := c.heed r answer } =
        c'.setRegistry (c'.heed r answer) := by
      rw [← hc']
      rfl
    rw [hheed, heed, turn]
    cases hf : c'.find? r.document with
    | none => rfl
    | some d =>
      have hd := (find?_eq_some hf).1
      let t : Turn := ⟨d, c'.env⟩
      have hrest : (t.accept r.version answer).Rests := by
        rw [Turn.Rests, t.accept_doc]
        exact (hrests d hd).world (t.accept_world r.version answer)
      have hprogress := Turn.progress_of_rests hrest
      dsimp only
      rw [hprogress, t.accept_eq]
      by_cases ha : d.awaits r.version = true
      · rw [if_pos ha, if_pos ha]
        exact put_self (c := c'.setRegistry (c'.env.learn d.uri answer)) hids hd
      · rw [if_neg ha, if_neg ha]
        exact put_self hids hd

theorem evolves_respond {c : Client} (hc : c.ids.Nodup) (h : c.Rests) (uri : String) (nth : Nat)
    (answer : Answer) : Evolves c.env.feature.supported c (c.respond uri nth answer).1 := by
  rw [respond_eq hc h]
  split
  · exact .refl c
  · exact .same rfl rfl rfl

theorem rests_respond {c : Client} (hc : c.ids.Nodup) (h : c.Rests) (uri : String) (nth : Nat)
    (answer : Answer) : (c.respond uri nth answer).1.Rests := by
  rw [respond_eq hc h]
  split
  · exact h
  · exact h

theorem waits_le {c : Client} (h : ∀ d ∈ c.documents, d.Calm) :
    c.waits ≤ 2 * c.documents.length := by
  have hle : ∀ n ∈ c.documents.map Document.waits, n ≤ 2 := by
    intro n hn
    obtain ⟨d, hd, rfl⟩ := List.mem_map.mp hn
    exact (h d hd).waits_le
  have := List.sum_le_card_nsmul _ _ hle
  simpa [waits, Nat.mul_comm] using this

theorem evolves_performShared {c : Client} (hc : c.ids.Nodup) (h : c.Rests)
    (hcalm : ∀ d ∈ c.documents, d.Calm) (a : SharedAction) :
    Evolves c.env.feature.supported c (c.performShared a).1 ∧ (c.performShared a).1.Rests := by
  cases a with
  | happen i => exact ⟨evolves_happen hc i, rests_happen hc h i⟩
  | advance millis => exact evolves_runUntil hc h (Nat.le_add_right _ _) (waits_le hcalm)
  | respond uri nth answer =>
    exact ⟨evolves_respond hc h uri nth answer, rests_respond hc h uri nth answer⟩
  | _ => exact ⟨.same rfl rfl rfl, h⟩

/-! ## Moves -/

theorem step_beginOpen (c : Client) (id : DocumentId) :
    c.step (.document id .beginOpen) = (c.beginOpen id).1 := by
  cases hf : c.find? id with
  | none => simp [step, perform, beginOpen, hf]
  | some d =>
    obtain ⟨-, rfl⟩ := find?_eq_some hf
    simp [step, perform, performOn, hf]

theorem step_close (c : Client) (id : DocumentId) :
    c.step (.document id .close) = (c.close id).1 := by
  cases hf : c.find? id with
  | none => simp [step, perform, close, clearBeforeClose, deliver, hf]
  | some d =>
    obtain ⟨-, rfl⟩ := find?_eq_some hf
    simp [step, perform, performOn, delivered, hf]

theorem step_refresh (c : Client) (id : DocumentId) (origin : RefreshOrigin) :
    c.step (.document id (.refresh origin)) = c.refresh id origin := by
  cases hf : c.find? id with
  | none => simp [step, perform, refresh, turn, hf]
  | some d =>
    obtain ⟨-, rfl⟩ := find?_eq_some hf
    simp [step, perform, performOn, hf]

/-- The client right after a move, before its documents go on by themselves. -/
def prepare (c : Client) : Move → Client
  | .create uri languageId policy settings buffer initialText =>
    c.create uri languageId policy settings buffer initialText
  | .act (.document id a) =>
    match c.find? id with
    | none => c
    | some d => c.put ⟨a.work c.env.session.active d, c.env⟩
  | .act (.shared _) => c

theorem evolves_move {c : Client} (hc : c.ids.Nodup) (h : c.Rests)
    (hcalm : ∀ d ∈ c.documents, d.Calm) (m : Move) :
    Evolves c.env.feature.supported (c.prepare m) (c.move m) := by
  rcases m with ⟨uri, languageId, policy, settings, buffer, initialText⟩ | ⟨id, a⟩ | a
  · exact .refl _
  · cases hf : c.find? id with
    | none =>
      rw [move_of_unknown hf]
      simp only [prepare, hf]
      exact .refl c
    | some d =>
      obtain ⟨hd, rfl⟩ := find?_eq_some hf
      simp only [prepare, hf]
      exact evolves_document hc h hd a
  · exact (evolves_performShared hc h hcalm a).1

theorem rests_move {c : Client} (hc : c.ids.Nodup) (h : c.Rests)
    (hcalm : ∀ d ∈ c.documents, d.Calm) (m : Move) : (c.move m).Rests := by
  rcases m with ⟨uri, languageId, policy, settings, buffer, initialText⟩ | ⟨id, a⟩ | a
  · intro d hd
    rcases List.mem_append.mp hd with hd | hd
    · exact h d hd
    · rw [List.mem_singleton.mp hd]
      exact ⟨Document.writerRests_iff.mpr trivial, by simp [Document.handshakeOutcome?], by simp⟩
  · exact rests_document hc h id a
  · exact (evolves_performShared hc h hcalm a).2

/-- What holds of a client at every moment of a run. -/
structure Sound (c : Client) : Prop where
  distinct : c.ids.Nodup
  /-- The generations of a URI count up. -/
  counted : ∀ id ∈ c.ids, id.generation < c.ids.countP fun i => i.uri == id.uri
  silent : ∀ id ∉ c.ids, c.log id = []
  rests : c.Rests
  calm : ∀ d ∈ c.documents, d.Calm

theorem freshId_eq (c : Client) (uri : Uri) :
    c.freshId uri = ⟨uri, c.ids.countP fun i => i.uri == uri⟩ := by
  simp [freshId, ids, List.countP_map, Function.comp_def, Document.uri]

theorem Sound.freshId_notMem {c : Client} (h : c.Sound) (uri : Uri) : c.freshId uri ∉ c.ids := by
  intro hmem
  have := h.counted _ hmem
  rw [freshId_eq] at this
  exact Nat.lt_irrefl _ this

theorem Sound.prepare_ids {c : Client} (h : c.Sound) (m : Move) :
    (c.prepare m).ids.Nodup ∧ ∀ id ∈ (c.prepare m).ids,
      id.generation < (c.prepare m).ids.countP fun i => i.uri == id.uri := by
  rcases m with ⟨uri, languageId, policy, settings, buffer, initialText⟩ | ⟨id, a⟩ | a
  · have hids : (c.prepare (.create uri languageId policy settings buffer initialText)).ids =
        c.ids ++ [c.freshId uri] := by
      simp [prepare, create, ids]
    rw [hids]
    refine ⟨?_, ?_⟩
    · rw [List.nodup_append]
      refine ⟨h.distinct, List.nodup_singleton _, ?_⟩
      intro a ha b hb
      rw [List.mem_singleton.mp hb]
      rintro rfl
      exact h.freshId_notMem uri ha
    · intro id hid
      rw [List.countP_append]
      rcases List.mem_append.mp hid with hid | hid
      · exact Nat.lt_add_right _ (h.counted id hid)
      · rw [List.mem_singleton.mp hid, freshId_eq]
        simp
  · simp only [prepare]
    split
    · exact ⟨h.distinct, h.counted⟩
    · rw [put_ids]
      exact ⟨h.distinct, h.counted⟩
  · exact ⟨h.distinct, h.counted⟩

theorem Sound.prepare_calm {c : Client} (h : c.Sound) (m : Move) :
    ∀ d ∈ (c.prepare m).documents, d.Calm := by
  intro d hd
  rcases m with ⟨uri, languageId, policy, settings, buffer, initialText⟩ | ⟨id, a⟩ | a
  · rcases List.mem_append.mp hd with hd | hd
    · exact h.calm d hd
    · rw [List.mem_singleton.mp hd]
      exact ⟨fun _ => rfl, fun _ => rfl, by simp⟩
  · simp only [prepare] at hd
    split at hd
    · exact h.calm d hd
    · rename_i e hf
      rcases mem_put hd with rfl | ⟨hd, -⟩
      · exact Document.work_induct (fun _ _ hcall he => hcall.calm he)
          (h.calm e (find?_eq_some hf).1) a
      · exact h.calm d hd
  · exact h.calm d hd

@[simp] theorem prepare_env (c : Client) (m : Move) : (c.prepare m).env = c.env := by
  unfold prepare
  split
  · rfl
  · split <;> rfl
  · rfl

theorem prepare_subset (c : Client) (m : Move) : c.ids ⊆ (c.prepare m).ids := by
  rcases m with ⟨uri, languageId, policy, settings, buffer, initialText⟩ | ⟨id, a⟩ | a
  · simp [prepare, create, ids]
  · simp only [prepare]
    split
    · exact List.Subset.refl _
    · rw [put_ids]
      exact List.Subset.refl _
  · exact List.Subset.refl _

theorem ids_subset_move {c : Client} (h : c.Sound) (m : Move) : c.ids ⊆ (c.move m).ids := by
  rw [(evolves_move h.distinct h.rests h.calm m).ids]
  exact c.prepare_subset m

theorem Sound.move {c : Client} (h : c.Sound) (m : Move) : (c.move m).Sound := by
  obtain ⟨hdistinct, hcounted⟩ := h.prepare_ids m
  have hev := evolves_move h.distinct h.rests h.calm m
  refine ⟨?_, ?_, ?_, rests_move h.distinct h.rests h.calm m, ?_⟩
  · rwa [hev.ids]
  · rwa [hev.ids]
  · intro id hid
    rw [hev.ids] at hid
    rw [hev.strangers id hid, log, prepare_env]
    exact h.silent id fun hmem => hid (c.prepare_subset m hmem)
  · intro d' hd'
    obtain ⟨d, hd, l, hcourse, -⟩ := hev.source hdistinct hd'
    exact hcourse.calm (h.prepare_calm m d hd)

theorem sound_start (env : Environment) : (start env).Sound where
  distinct := List.nodup_nil
  counted := by simp [start, ids]
  silent _ _ := rfl
  rests := by simp [start, Rests]
  calm := by simp [start]

theorem sound_play (env : Environment) (ms : List Move) : ((start env).play ms).Sound := by
  induction ms using List.reverseRecOn with
  | nil => exact sound_start env
  | append_singleton ms m ih =>
    rw [play_concat]
    exact ih.move m

theorem Sound.play {c : Client} (h : c.Sound) (ms : List Move) : (c.play ms).Sound := by
  induction ms generalizing c with
  | nil => exact h
  | cons m ms ih => exact ih (h.move m)

theorem mem_log {c : Client} {x : Entry} (hx : x ∈ c.env.history) :
    (x.time, x.event) ∈ c.log x.document :=
  List.mem_filterMap.mpr ⟨x, hx, if_pos rfl⟩

theorem Sound.speaker {c : Client} (h : c.Sound) {id : DocumentId} (hlog : c.log id ≠ []) :
    ∃ d ∈ c.documents, d.id = id := by
  have hid : id ∈ c.ids := by
    by_contra hid
    exact hlog (h.silent id hid)
  obtain ⟨d, hd, heq⟩ := List.mem_map.mp hid
  exact ⟨d, hd, heq⟩

/-- Where a document is after a move: it was there before, and the move worked on it, or the move
created it. From there it took a course, whose events are what its log has more. -/
theorem Sound.source {c : Client} (h : c.Sound) {m : Move} {d' : Document}
    (hd' : d' ∈ (c.move m).documents) :
    (∃ d ∈ c.documents, ∃ l,
      Course c.env.feature.supported c.env.now (m.work c.env.session.active d) l
          (c.move m).env.now d' ∧
        (c.move m).log d'.id = c.log d'.id ++ l ∧ d.id = d'.id) ∨
    (d'.IsNew ∧ d'.id = c.freshId d'.uri ∧ (c.move m).log d'.id = [] ∧
      m = .create d'.uri d'.languageId d'.policy d'.settings d'.buffer d'.initialText) := by
  have hev := evolves_move h.distinct h.rests h.calm m
  obtain ⟨d, hd, l, hcourse, hlog⟩ := hev.source (h.prepare_ids m).1 hd'
  rw [prepare_env] at hcourse
  have hid : d'.id = d.id := hcourse.sameText.id
  have hlog : (c.move m).log d'.id = c.log d'.id ++ l := by
    rw [hid, hlog, log, prepare_env, log]
  rcases m with ⟨uri, languageId, policy, settings, buffer, initialText⟩ | ⟨id, a⟩ | a
  · rcases List.mem_append.mp hd' with hd' | hd'
    · exact .inl ⟨d', hd', [], .refl _ _, (List.append_nil _).symm, rfl⟩
    · rw [List.mem_singleton.mp hd']
      have huri : (c.freshId uri).uri = uri := by rw [freshId_eq]
      exact .inr ⟨rfl, congrArg c.freshId huri.symm, h.silent _ (h.freshId_notMem uri),
        by rw [Document.uri, huri]⟩
  · left
    simp only [prepare] at hd
    split at hd
    · rename_i hf
      refine ⟨d, hd, l, ?_, hlog, hid.symm⟩
      have hne : id ≠ d.id := by
        rintro rfl
        rw [find?_of_mem h.distinct hd] at hf
        cases hf
      rwa [Move.work, if_neg hne]
    · rename_i e hf
      obtain ⟨he, heid⟩ := find?_eq_some hf
      rcases mem_put hd with heq | ⟨hmem, hne⟩
      · have hwork : (a.work c.env.session.active e).id = e.id := a.work_id _ e
        refine ⟨e, he, l, ?_, hlog, ?_⟩
        · rw [heq] at hcourse
          rwa [Move.work, if_pos heid.symm]
        · rw [hid, heq, hwork]
      · refine ⟨d, hmem, l, ?_, hlog, hid.symm⟩
        have hne' : id ≠ d.id := by
          rw [← heid, ← DocumentAction.work_id c.env.session.active e a]
          exact Ne.symm hne
        rwa [Move.work, if_neg hne']
  · exact .inl ⟨d, hd, l, hcourse, hlog, hid.symm⟩

theorem Sound.ids_subset_play {c : Client} (h : c.Sound) (ms : List Move) :
    c.ids ⊆ (c.play ms).ids := by
  induction ms generalizing c with
  | nil => exact List.Subset.refl _
  | cons m ms ih => exact List.Subset.trans (ids_subset_move h m) (ih (h.move m))

/-- What neither calls nor time take from a document holds of it in all of the run to come. -/
theorem Sound.lasting {P : Document → Prop}
    (hcall : ∀ {active d d'}, Call active d d' → P d → P d')
    (hcourse : ∀ {supported a b d d' l}, Course supported a d l b d' → P d → P d') {c : Client}
    (h : c.Sound) {d : Document} (hd : d ∈ c.documents) (hP : P d) (ms : List Move) :
    ∀ d' ∈ (c.play ms).documents, d'.id = d.id → P d' := by
  induction ms using List.reverseRecOn with
  | nil =>
    intro d' hd' hid
    rwa [eq_of_id h.distinct hd' hd hid]
  | append_singleton ms m ih =>
    intro d' hd' hid
    rw [play_concat] at hd'
    rcases (h.play ms).source hd' with ⟨e, he, l, hc, -, heid⟩ | ⟨-, hfresh, -⟩
    · have hworked : P (m.work (c.play ms).env.session.active e) :=
        m.work_induct (fun _ _ hcall' => hcall hcall') (ih e he (heid.trans hid))
      exact hcourse hc hworked
    · have hmem := h.ids_subset_play ms (mem_ids hd)
      rw [← hid, hfresh] at hmem
      exact absurd hmem ((h.play ms).freshId_notMem d'.uri)

end Client

/-- What a new document has and nothing takes from it. -/
structure Document.Invariant (P : Document → Log → Nat → Prop) : Prop where
  new : ∀ {d now}, d.IsNew → P d [] now
  call : ∀ {active d d' l now}, Call active d d' → P d l now → P d' l now
  step : ∀ {now supported d es d' l}, Step now supported d es d' → P d l now →
    P d' (l ++ es.map (now, ·)) now
  wait : ∀ {now later d l}, now ≤ later → d.Until later → P d l now → P d l later

namespace Document.Invariant

open Client (Move Sound play start)

variable {P : Document → Log → Nat → Prop} (hP : Invariant P)
include hP

theorem work {active : Bool} {d : Document} {l : Log} {now : Nat} (h : P d l now) (m : Move) :
    P (m.work active d) l now :=
  m.work_induct (P := fun d => P d l now) (fun _ _ hc hd => hP.call hc hd) h

theorem course {now later : Nat} {supported : Bool} {d d' : Document} {l k : Log} (h : P d l now)
    (hc : Course supported now d k later d') : P d' (l ++ k) later :=
  Course.induct (P := P) hP.step hP.wait hc h

theorem move {c : Client} (hc : c.Sound)
    (h : ∀ d ∈ c.documents, P d (c.log d.id) c.env.now) (m : Move) :
    ∀ d ∈ (c.move m).documents, P d ((c.move m).log d.id) (c.move m).env.now := by
  intro d' hd'
  rcases hc.source hd' with ⟨d, hd, l, hcourse, hlog, hid⟩ | ⟨hnew, -, hlog, -⟩
  · rw [hlog, ← hid]
    exact hP.course (hP.work (h d hd) m) hcourse
  · rw [hlog]
    exact hP.new hnew

theorem moves {c : Client} (hc : c.Sound)
    (h : ∀ d ∈ c.documents, P d (c.log d.id) c.env.now) (ms : List Move) :
    ∀ d ∈ (c.play ms).documents, P d ((c.play ms).log d.id) (c.play ms).env.now := by
  induction ms generalizing c with
  | nil => exact h
  | cons m ms ih => exact ih (hc.move m) (hP.move hc h m)

/-- An invariant holds of every document at every moment of a run. -/
theorem play (env : Environment) (ms : List Move) : ∀ d ∈ ((start env).play ms).documents,
    P d (((start env).play ms).log d.id) ((start env).play ms).env.now :=
  hP.moves (Client.sound_start env) (by simp [start]) ms

end Document.Invariant

end DocSync
