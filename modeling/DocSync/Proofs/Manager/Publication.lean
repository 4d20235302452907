import DocSync.Proofs.Document.Pull
import DocSync.Proofs.Manager.Provenance
import DocSync.Proofs.Wire.Publication

/-!
# Publications

A publication is taken in if it can be read whole, is about a file that is known, and does not name
a version that the open document of the file does not have. All that it then does is to replace the
published diagnostics of the file. Otherwise nothing happens at all. Since a document never goes
back to a version that it has left, what is published about such a version is never stored, however
late it comes.
-/
namespace DocSync

namespace Manager

/-- A publication is read whole, is about a known file, and, if its version can be compared with the
one of an open document, they are the same. -/
structure Admits (m : Manager) (params : Json) (p : Publication) (uri : Uri) : Prop where
  read : Publication.ofJson? params = some p
  resolved : m.client.env.resolver.resolve p.uri = some uri
  current : p.version = none ∨ m.document? uri = none ∨
    ∃ d, m.document? uri = some d ∧ p.version = some d.version

/-- What becomes of a registry when diagnostics of a file are stored as published. -/
structure Stored (r : Registry) (uri : Uri) (items : List Diagnostic) (r' : Registry) : Prop where
  slot : (r'.file uri).slot publishIdentifier = items
  others : ∀ v i, (v, i) ≠ (uri, publishIdentifier) → (r'.file v).slot i = (r.file v).slot i
  /-- No more than that changes in the records, but for the time of the change. -/
  files : ∀ v, r'.file v =
    if v = uri ∧ (r.file uri).slot publishIdentifier ≠ items then
      { (r.file uri).setSlot publishIdentifier items with updatedAt := some r.now }
    else r.file v
  /-- A difference is announced, if there is room. -/
  events : r'.events =
    if (r.file uri).slot publishIdentifier ≠ items ∧ r.events.length < r.capacity then
      r.events ++ [.changed uri (r.file uri).displayedAt]
    else r.events
  ticks : r'.ticks = r.ticks + 1

theorem stored_update (r : Registry) (uri : Uri) (items : List Diagnostic) :
    Stored r uri items (r.update uri publishIdentifier items).1 where
  slot := by rw [r.slot_update, if_pos ⟨rfl, rfl⟩]
  others v i hne := by
    rw [r.slot_update, if_neg]
    rintro ⟨rfl, rfl⟩
    exact hne rfl
  files v := r.file_update uri v publishIdentifier items
  events := r.events_update uri publishIdentifier items
  ticks := r.ticks_update uri publishIdentifier items

theorem isCurrent_iff {m : Manager} {uri : Uri} {version : Option Version} :
    m.isCurrent uri version = true ↔ version = none ∨ m.document? uri = none ∨
      ∃ d, m.document? uri = some d ∧ version = some d.version := by
  unfold isCurrent
  cases version with
  | none => simp
  | some v => cases m.document? uri <;> simp

theorem publish_of_admits {m : Manager} {params : Json} {p : Publication} {uri : Uri}
    (h : m.Admits params p uri) :
    m.publish params = { m with
      client := m.client.setRegistry (m.registry.update uri publishIdentifier p.items).1 } := by
  unfold publish
  simp only [h.read, h.resolved, isCurrent_iff.mpr h.current, if_true]
  rfl

theorem publish_of_not_admits {m : Manager} {params : Json}
    (h : ¬ ∃ p uri, m.Admits params p uri) : m.publish params = m := by
  unfold publish
  split
  · rfl
  · rename_i p hread
    split
    · rfl
    · rename_i uri hresolved
      rw [if_neg]
      exact fun hcurrent => h ⟨p, uri, hread, hresolved, isCurrent_iff.mp hcurrent⟩

/-- What a manager makes of what a server publishes. -/
structure Takes (m : Manager) (params : Json) : Prop where
  /-- What is read has one diagnostic for each that is written, in their order. -/
  read : ∀ p, Publication.ofJson? params = some p ↔
    ∃ get, params.fields? Publication.fieldNames = some get ∧ Publication.Faithful get p
  admitted : ∀ p uri, m.Admits params p uri →
    Stored m.registry uri p.items (m.publish params).registry
  passed : (¬ ∃ p uri, m.Admits params p uri) → m.publish params = m
  changed : (m.publish params).registry ≠ m.registry ↔ ∃ p uri, m.Admits params p uri
  /-- For instance if one diagnostic among many cannot be read. -/
  malformed : Publication.Malformed params → m.publish params = m
  /-- Nothing but the registry changes. -/
  same : m.publish params =
    { m with client := m.client.setRegistry (m.publish params).registry }
  /-- Nothing is sent or queued, and no document changes. -/
  quiet : (m.publish params).client.env.link = m.client.env.link ∧
    (m.publish params).client.env.history = m.client.env.history ∧
    (m.publish params).client.documents = m.client.documents ∧
    (m.publish params).documents = m.documents

theorem takes (m : Manager) (params : Json) : m.Takes params := by
  have hsame : m.publish params =
      { m with client := m.client.setRegistry (m.publish params).registry } := by
    by_cases h : ∃ p uri, m.Admits params p uri
    · obtain ⟨p, uri, h⟩ := h
      rw [publish_of_admits h]
      rfl
    · rw [publish_of_not_admits h]
      rfl
  refine ⟨fun p => Publication.ofJson?_eq_some_iff, ?admitted, publish_of_not_admits, ⟨?_, ?_⟩,
    ?malformed, hsame, ?quiet⟩
  case admitted =>
    intro p uri h
    rw [publish_of_admits h]
    exact stored_update m.registry uri p.items
  · intro hne
    by_contra h
    rw [publish_of_not_admits h] at hne
    exact hne rfl
  · rintro ⟨p, uri, h⟩ heq
    have hticks := (stored_update m.registry uri p.items).ticks
    rw [publish_of_admits h] at heq
    have hregistry : (m.registry.update uri publishIdentifier p.items).1 = m.registry := heq
    rw [hregistry] at hticks
    exact Nat.succ_ne_self _ hticks.symm
  case malformed =>
    intro h
    refine publish_of_not_admits ?_
    rintro ⟨p, uri, hread, -, -⟩
    rw [Publication.ofJson?_eq_none_iff.mpr h] at hread
    cases hread
  case quiet =>
    rw [hsame]
    exact ⟨rfl, rfl, rfl, rfl⟩

end Manager

/-- A document never goes back to an earlier version. -/
theorem Client.Sound.version_le {c : Client} (h : c.Sound) {d : Document} (hd : d ∈ c.documents)
    (ms : List Client.Move) {d' : Document} (hd' : d' ∈ (c.play ms).documents)
    (hid : d'.id = d.id) : d.version.value ≤ d'.version.value := by
  refine h.lasting (P := fun e => d.version.value ≤ e.version.value) (fun hcall hle => ?_)
    (fun hcourse hle => ?_) hd (Int.le_refl _) ms d' hd' hid
  · exact Int.le_trans hle hcall.version_le
  · rw [hcourse.sameText.version]
    exact hle

namespace Manager

theorem Sound.version_le {m : Manager} (h : m.Sound) {id : DocumentId} {d d' : Document}
    (as : List ManagerAction) (hd : m.client.find? id = some d)
    (hd' : (m.run as).client.find? id = some d') : d.version.value ≤ d'.version.value := by
  obtain ⟨hmem, rfl⟩ := Client.find?_eq_some hd
  obtain ⟨hmem', hid⟩ := Client.find?_eq_some hd'
  rw [client_run] at hmem'
  exact h.client.version_le hmem _ hmem' hid

/-- What is published about an earlier version of an open document is passed over. -/
theorem publish_outdated {m : Manager} {params : Json} {p : Publication} {uri : Uri} {v : Version}
    {d : Document} (hread : Publication.ofJson? params = some p)
    (hresolved : m.client.env.resolver.resolve p.uri = some uri) (hversion : p.version = some v)
    (hd : m.document? uri = some d) (hlt : v.value < d.version.value) : m.publish params = m := by
  refine publish_of_not_admits ?_
  rintro ⟨q, u, hread', hresolved', hcurrent⟩
  obtain rfl := Option.some.inj (hread.symm.trans hread')
  obtain rfl := Option.some.inj (hresolved.symm.trans hresolved')
  rcases hcurrent with hnone | hnone | ⟨e, he, hv⟩
  · cases hversion.symm.trans hnone
  · cases hd.symm.trans hnone
  · obtain rfl := Option.some.inj (hd.symm.trans he)
    obtain rfl := Option.some.inj (hversion.symm.trans hv)
    exact Int.lt_irrefl _ hlt

/-- What a manager takes in of what is published, and that it takes in nothing about versions that
an open document has left. -/
theorem publications (name : String) (definition : ServerDefinition) (policy : SyncPolicy)
    (settings : Settings) (env : Environment) :
    (∀ (m : Manager) params, m.Takes params) ∧
    ∀ before between after : List ManagerAction,
      let m₀ := (start name definition policy settings env).run before
      let m₁ := m₀.run between
      let m₂ := m₁.run after
      -- The documents that versions are compared with are those that are listed.
      (∀ uri, m₂.document? uri = none ↔ m₂.find? uri = none) ∧
      ∀ uri d₀ d₁ d₂, m₂.document? uri = some d₂ →
        m₀.client.find? d₂.id = some d₀ → m₁.client.find? d₂.id = some d₁ →
        d₁.version ≠ d₀.version →
        ∀ params p, Publication.ofJson? params = some p →
          m₂.client.env.resolver.resolve p.uri = some uri → p.version = some d₀.version →
          m₂.publish params = m₂ := by
  refine ⟨takes, fun before between after => ?_⟩
  intro m₀ m₁ m₂
  have hs : (start name definition policy settings env).Sound := sound_start _ _ _ _ _
  have hm₀ : m₀.Sound := hs.run before
  have hm₁ : m₁.Sound := hm₀.run between
  have hheld : m₂.Held := (((held_start _ _ _ _ _).run hs before).run hm₀ between).run hm₁ after
  refine ⟨fun uri => ⟨fun hnone => ?_, fun hnone => ?_⟩, ?_⟩
  · by_contra hlisted
    obtain ⟨id, hid⟩ := Option.ne_none_iff_exists'.mp hlisted
    obtain ⟨d, hd, -⟩ := hheld.document? hid
    cases hnone.symm.trans hd
  · rw [document?, hnone, Option.bind_none]
  · intro uri d₀ d₁ d₂ hd₂ hd₀ hd₁ hne params p hread hresolved hversion
    obtain ⟨id, -, hfound⟩ := Option.bind_eq_some_iff.mp hd₂
    obtain rfl : d₂.id = id := (Client.find?_eq_some hfound).2
    have hle₁ := hm₀.version_le between hd₀ hd₁
    have hle₂ := hm₁.version_le after hd₁ hfound
    have hlt : d₀.version.value < d₁.version.value := by
      refine lt_of_le_of_ne hle₁ fun heq => hne ?_
      rw [Version.mk.injEq]
      exact heq.symm
    exact publish_outdated hread hresolved hversion hd₂ (Int.lt_of_lt_of_le hlt hle₂)

/-- A message that publishes one diagnostic of a version. -/
def badNews (a : Uri) (version : Int) : Json :=
  let place : Json := .obj [("line", .num (.int 1)), ("character", .num (.int 0))]
  .obj [("uri", .str a.text), ("version", .num (.int version)), ("diagnostics", .arr [.obj [
    ("range", .obj [("start", place), ("end", place)]), ("message", .str "bad")]])]

/-- A document is edited after it was opened. What is published about the text that it was opened
with comes too late, and what is published about the other text is taken in. -/
theorem publications_late :
    let a : Uri := ⟨"file:///a"⟩
    let before : List ManagerAction := [.openDocument a "a" (some "text")]
    let between : List ManagerAction := [.document a (.edit (.insertion 1 "b") none)]
    let m := ((registeredUnder none).run before).run between
    m.publish (badNews a 1) = m ∧
      ((m.publish (badNews a 2)).registry.file a).slot publishIdentifier = [badness] := by
  intro a before between m
  obtain ⟨htakes, hleft⟩ := publications "text" { languageId := "text" } ⟨.full, true, .notify⟩
    .forHeadless { Client.offering with feature := ⟨true, none⟩, registry := .fresh 8 }
  have hrun : start "text" { languageId := "text" } ⟨.full, true, .notify⟩ .forHeadless
      { Client.offering with feature := ⟨true, none⟩, registry := .fresh 8 } =
    registeredUnder none := rfl
  have hm : ((registeredUnder none).run before).run between = m := rfl
  have hstale := (hleft before between []).2
  rw [hrun, run_nil, hm] at hstale
  obtain ⟨d₀, hd₀, hversion₀⟩ : ∃ d, ((registeredUnder none).run before).client.find? ⟨a, 0⟩ =
      some d ∧ d.version = ⟨1⟩ := by decide
  obtain ⟨d, hd, hfound, hid, hversion⟩ : ∃ d, m.document? a = some d ∧
      m.client.find? ⟨a, 0⟩ = some d ∧ d.id = ⟨a, 0⟩ ∧ d.version = ⟨2⟩ := by decide
  have hresolved : m.client.env.resolver.resolve a.text = some a := by decide +kernel
  constructor
  · have hne : d.version ≠ d₀.version := by simp [hversion, hversion₀]
    rw [← hid] at hd₀ hfound
    exact hstale a d₀ d d hd hd₀ hfound hne (badNews a 1) ⟨a.text, some ⟨1⟩, [badness]⟩
      (by decide) hresolved (by rw [hversion₀])
  · have hadmits : m.Admits (badNews a 2) ⟨a.text, some ⟨2⟩, [badness]⟩ a :=
      ⟨by decide, hresolved, .inr (.inr ⟨d, hd, by rw [hversion]⟩)⟩
    exact ((htakes m (badNews a 2)).admitted _ a hadmits).slot

end Manager

end DocSync
