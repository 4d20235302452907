import DocSync.Proofs.Document.Ledger
import DocSync.Proofs.Text.Replay

/-!
# The server's text mirrors the buffer

As long as every change of the buffer is reported in two halves, what a document told its server and
the changes that wait lead from the text of the opening to the buffer. Between the two halves they
lead to the old text or already to the new one, and where they cannot follow the edit the whole text
is due.
-/
namespace DocSync

def Notification.changes : Notification → List Change
  | .didChange _ _ changes => changes
  | _ => []

/-- Some notifications, and then some more changes, lead from the text of the opening to a text. -/
def Reproduces (ns : List Notification) (more : List Change) (text : String) : Prop :=
  ∃ uri languageId version opening rest, ns = .didOpen uri languageId version opening :: rest ∧
    Change.replay opening (rest.flatMap Notification.changes ++ more) = .ok text

theorem Reproduces.unique {ns : List Notification} {more : List Change} {text other : String}
    (h : Reproduces ns more text) (h' : Reproduces ns more other) : text = other := by
  obtain ⟨uri, languageId, version, opening, rest, rfl, hreplay⟩ := h
  obtain ⟨uri', languageId', version', opening', rest', hns, hreplay'⟩ := h'
  simp only [List.cons.injEq, Notification.didOpen.injEq] at hns
  obtain ⟨⟨-, -, -, rfl⟩, rfl⟩ := hns
  exact Except.ok.inj (hreplay.symm.trans hreplay')

theorem Reproduces.send {ns : List Notification} {changes : List Change} {text : String}
    (h : Reproduces ns changes text) (uri : Uri) (version : Version) :
    Reproduces (ns ++ [.didChange uri version changes]) [] text := by
  obtain ⟨u, languageId, v, opening, rest, rfl, hreplay⟩ := h
  refine ⟨u, languageId, v, opening, rest ++ [.didChange uri version changes], rfl, ?_⟩
  simpa [Notification.changes] using hreplay

theorem Reproduces.concat {ns : List Notification} {more : List Change} {text : String}
    (h : Reproduces ns more text) {n : Notification} (hn : n.changes = []) :
    Reproduces (ns ++ [n]) more text := by
  obtain ⟨u, languageId, v, opening, rest, rfl, hreplay⟩ := h
  refine ⟨u, languageId, v, opening, rest ++ [n], rfl, ?_⟩
  simpa [hn] using hreplay

/-- Whether an edit of the buffer is half reported: against the old text, but not yet with the new
one. -/
inductive Typing
  | whole
  | half (e : Edit) (old : String)

namespace Document

/-- What an unopened document remembers of its text. -/
def Unseen (d : Document) : Typing → Prop
  | .whole => d.initialText = none ∨ d.initialText = some d.buffer
  | .half .. => d.pending.kind = .incremental → d.pending.resync = true

/-- Where the ledger of an open document and the changes that wait lead to. -/
def Tracks (d : Document) (ns : List Notification) : Typing → Prop
  | .whole => Reproduces ns d.pending.events d.buffer
  | .half e old => ∃ text, Reproduces ns d.pending.events text ∧
      (d.pending.kind = .incremental → d.pending.resync = true ∨ e.apply old = .ok text)

/-- A document in step with its ledger. -/
structure Mirrors (d : Document) (ns : List Notification) (s : Typing) : Prop where
  unopened : d.phase = .unopened → d.pending.events = [] ∧ d.Unseen s
  alive : d.acceptsOutgoing = true → d.Tracks ns s

theorem Unseen.same {d d' : Document} {s : Typing} (h : d.Unseen s)
    (hi : d'.initialText = d.initialText) (hb : d'.buffer = d.buffer)
    (hp : d'.pending = d.pending) : d'.Unseen s := by
  cases s with
  | whole => simpa [Unseen, hi, hb] using h
  | half e old => simpa [Unseen, hp] using h

theorem Tracks.same {d d' : Document} {ns : List Notification} {s : Typing} (h : d.Tracks ns s)
    (hb : d'.buffer = d.buffer) (hp : d'.pending = d.pending) : d'.Tracks ns s := by
  cases s with
  | whole => simpa [Tracks, hb, hp] using h
  | half e old => simpa [Tracks, hp] using h

/-! ## What does not touch the text -/

theorem Mirrors.step {now : Nat} {supported : Bool} {d d' : Document} {es : List Event} {l : Log}
    {s : Typing} (h : Mirrors d (d.ledger l) s) (hs : Step now supported d es d') :
    Mirrors d' (d'.ledger (l ++ es.map (now, ·))) s := by
  have hsame := hs.sameText
  refine ⟨fun hp => ?_, fun ha => ?_⟩
  · obtain ⟨hevents, hunseen⟩ := h.unopened (hs.unopened hp)
    exact ⟨by rw [hsame.pending, hevents],
      hunseen.same hsame.initialText hsame.buffer hsame.pending⟩
  · have htracks := (h.alive (hs.acceptsOutgoing ha)).same hsame.buffer hsame.pending
    -- What shortens the ledger is a refusal, and a refused document accepts nothing.
    rcases hs.ledger l with heq | ⟨hr, -⟩
    · rwa [heq]
    · simp [acceptsOutgoing, hr] at ha

theorem Mirrors.course {now later : Nat} {supported : Bool} {d d' : Document} {l k : Log}
    {s : Typing} (h : Mirrors d (d.ledger l) s) (hc : Course supported now d k later d') :
    Mirrors d' (d'.ledger (l ++ k)) s :=
  Course.induct (P := fun d l _ => Mirrors d (d.ledger l) s) (fun hs h => h.step hs)
    (fun _ _ h => h) hc h

theorem Mirrors.beginOpen {d : Document} {l : Log} {s : Typing} (h : Mirrors d (d.ledger l) s)
    (hk : Keeps d (d.ledger l)) (ho : d.policy.openClose = true) :
    Mirrors d.beginOpen (d.beginOpen.ledger l) s := by
  by_cases hp : d.phase = .unopened
  · obtain ⟨hevents, hunseen⟩ := h.unopened hp
    rw [hk.ledger_beginOpen hp, greetings, if_pos ho, beginOpen_eq hp, if_pos ho]
    have hopening : Reproduces [d.greeting] d.pending.events (d.initialText.getD d.buffer) :=
      ⟨_, _, _, _, [], rfl, by rw [hevents]; rfl⟩
    refine ⟨by simp, fun _ => ?_⟩
    cases s with
    | whole =>
      have htext : d.initialText.getD d.buffer = d.buffer := by
        rcases hunseen with hi | hi <;> simp [hi]
      rw [htext] at hopening
      exact hopening
    | half e old => exact ⟨_, hopening, fun hkind => .inl (hunseen hkind)⟩
  · rwa [beginOpen_of_ne hp]

theorem Tracks.flush {d : Document} {l : Log} {s : Typing} (h : d.Tracks (d.ledger l) s)
    (ha : d.acceptsOutgoing = true) : d.flush.1.Tracks (d.flush.1.ledger l) s := by
  rw [flush_fst]
  split
  · exact h
  · rw [ledger_sendChanges ha]
    cases s with
    | whole => exact Reproduces.send h _ _
    | half e old =>
      obtain ⟨text, htext, hlast⟩ := h
      exact ⟨text, htext.send _ _, hlast⟩

theorem Mirrors.flush {d : Document} {l : Log} {s : Typing} (h : Mirrors d (d.ledger l) s) :
    Mirrors d.flush.1 (d.flush.1.ledger l) s := by
  refine ⟨fun hp => ?_, fun ha => ?_⟩
  · rw [flush_phase] at hp
    obtain ⟨hevents, hunseen⟩ := h.unopened hp
    rw [flush_fst, if_pos hevents]
    exact ⟨hevents, hunseen⟩
  · rw [flush_acceptsOutgoing] at ha
    exact (h.alive ha).flush ha

theorem Tracks.push {d : Document} {l : Log} {s : Typing} (h : d.Tracks (d.ledger l) s)
    (ha : d.acceptsOutgoing = true) {n : Notification} (hn : n.changes = []) :
    (d.push n).1.Tracks ((d.push n).1.ledger l) s := by
  rw [ledger_push ha]
  cases s with
  | whole => exact Reproduces.concat h hn
  | half e old =>
    obtain ⟨text, htext, hlast⟩ := h
    exact ⟨text, htext.concat hn, hlast⟩

theorem Mirrors.save {d : Document} {l : Log} {s : Typing} (h : Mirrors d (d.ledger l) s)
    (active : Bool) : Mirrors (d.save active).1 ((d.save active).1.ledger l) s := by
  have hflush := h.flush
  rw [save_fst]
  split
  · exact h
  · rename_i hs
    split
    · exact hflush
    · simp only [Bool.or_eq_true, not_or, Bool.not_eq_true', Bool.not_eq_false] at hs
      obtain ⟨-, he⟩ := hs
      refine ⟨fun hp => ?_, fun ha => (hflush.alive ha).push ha rfl⟩
      have hphase : d.flush.1.phase = .unopened := hp
      rw [flush_phase] at hphase
      simp [acceptsEdits, hphase] at he

theorem mirrors_of_closed {d : Document} (h : d.phase = .closed) (ns : List Notification)
    (s : Typing) : Mirrors d ns s :=
  ⟨by simp [h], by simp [acceptsOutgoing, acceptsEdits, h]⟩

/-! ## Reports -/

theorem Mirrors.recordBefore {d : Document} {ns : List Notification} (h : Mirrors d ns .whole)
    (e : Edit) : Mirrors (d.recordBefore d.buffer e) ns (.half e d.buffer) := by
  have htracks (ha : d.acceptsOutgoing = true) :
      ({ d with pending := d.pending.recordBefore d.buffer e } : Document).Tracks ns
        (.half e d.buffer) := by
    obtain ⟨uri, languageId, version, opening, rest, hns, hreplay⟩ := h.alive ha
    obtain ⟨text, htext, hlast⟩ := PendingChanges.replay_recordBefore hreplay e
    refine ⟨text, ⟨uri, languageId, version, opening, rest, hns, htext⟩, ?_⟩
    rwa [PendingChanges.recordBefore_kind]
  unfold Document.recordBefore
  split
  · rename_i hp
    obtain ⟨hevents, -⟩ := h.unopened hp
    refine ⟨fun _ => ⟨hevents, fun hkind => beq_iff_eq.mpr hkind⟩, fun ha => ?_⟩
    exact absurd ha (by simp [acceptsOutgoing, acceptsEdits, hp])
  · rename_i hp
    exact ⟨by simp [hp], fun ha => htracks ha⟩
  · rename_i hp
    exact ⟨by simp [hp], fun ha => htracks ha⟩
  · rename_i hp
    exact mirrors_of_closed hp ns _

theorem Mirrors.recordAfter {d : Document} {ns : List Notification} {e : Edit} {old new : String}
    (h : Mirrors d ns (.half e old)) (hk : d.pending.kind ≠ .none) (hnew : e.Leaves old new) :
    Mirrors ({ d with buffer := new }.recordAfter new) ns .whole := by
  have htracks (ha : d.acceptsOutgoing = true) :
      Reproduces ns (d.pending.recordAfter new).events new := by
    obtain ⟨text, ⟨uri, languageId, version, opening, rest, hns, hreplay⟩, hlast⟩ := h.alive ha
    exact ⟨uri, languageId, version, opening, rest, hns,
      PendingChanges.replay_recordAfter hreplay hk hlast hnew⟩
  unfold Document.recordAfter
  split
  · rename_i hp
    have hp : d.phase = .unopened := hp
    refine ⟨fun _ => ⟨rfl, .inl rfl⟩, fun ha => ?_⟩
    exact absurd ha (by simp [acceptsOutgoing, acceptsEdits, hp])
  · rename_i hp
    have hp : d.phase = .opening := hp
    exact ⟨by simp [hp], fun ha => htracks ha⟩
  · rename_i hp
    have hp : d.phase = .opened := hp
    exact ⟨by simp [hp], fun ha => htracks ha⟩
  · rename_i hp
    exact mirrors_of_closed hp ns _

theorem type_eq (d : Document) (e : Edit) (new : String) :
    d.type e new = { d.recordBefore d.buffer e with buffer := new }.recordAfter new := by
  have hbefore : ({ d with buffer := new } : Document).recordBefore d.buffer e =
      { d.recordBefore d.buffer e with buffer := new } := by
    unfold Document.recordBefore
    dsimp only
    split <;> rfl
  rw [type, hbefore]

theorem Mirrors.type {d : Document} {ns : List Notification} {e : Edit} {new : String}
    (h : Mirrors d ns .whole) (hk : d.pending.kind ≠ .none) (hnew : e.Leaves d.buffer new) :
    Mirrors (d.type e new) ns .whole := by
  rw [type_eq]
  refine (h.recordBefore e).recordAfter ?_ hnew
  unfold Document.recordBefore
  split
  · exact hk
  · rwa [PendingChanges.recordBefore_kind]
  · rwa [PendingChanges.recordBefore_kind]
  · exact hk

theorem Mirrors.setText {d : Document} {ns : List Notification} {e : Edit} {old : String}
    (h : Mirrors d ns (.half e old)) (text : String) :
    Mirrors { d with buffer := text } ns (.half e old) :=
  ⟨h.unopened, h.alive⟩

end Document

end DocSync
