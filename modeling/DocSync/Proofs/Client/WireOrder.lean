import DocSync.Proofs.Document.Pace

/-!
# The order of one document's notifications

Whatever is done to a document, in whatever order, and whatever becomes of the session, of the link
and of each notification: the server hears of it in the order of a dialogue, one notification at a
time, each when its time has come, and only what the policy asks for.
-/
namespace DocSync

/-- The server hears of a document in order. -/
structure Document.WireOrder (d : Document) (l : Log) : Prop where
  /-- What was handed over is the beginning of a dialogue. -/
  dialogue : ∃ s, Dialogue d.policy.openClose s ∧ l.handed <+: s
  /-- Whatever was handed over before has its outcome. -/
  single : ∀ (before : Log) t n after, l = before ++ (t, .handed n) :: after →
    before.unresolved = []
  /-- Nothing follows an opening that failed. -/
  failed : ∀ before t n e (after : Log), l = before ++ (t, .finished n (some e)) :: after →
    n.isOpening = true → after.handed = []
  /-- All but the opening follow a handshake that came out well. -/
  handshake : ∀ before t n after, l = before ++ (t, .handed n) :: after → n.isOpening = false →
    ∃ s, (s, .handshake none) ∈ before
  /-- All but the opening leave the server its time after the opening came through. -/
  settled : ∀ before t n after, l = before ++ (t, .handed n) :: after → n.isOpening = false →
    d.policy.openClose = true → ∃ s opening, (s, .finished opening none) ∈ before ∧
      opening.isOpening = true ∧ s + d.settings.settleDelay ≤ t
  changes : ∀ uri version cs, .didChange uri version cs ∈ l.handed →
    cs ≠ [] ∧ d.policy.kind ≠ .none
  saves : ∀ uri text, .didSave uri text ∈ l.handed → d.policy.save ≠ .disabled
  about : ∀ n ∈ l.handed, n.uri = d.uri

namespace Document

theorem handed_prefix_ledger (d : Document) (l : Log) : l.handed <+: d.ledger l :=
  List.prefix_append _ _

theorem Keeps.suits_handed {d : Document} {l : Log} (h : Keeps d (d.ledger l)) :
    ∀ n ∈ l.handed, n.Suits d.uri d.policy :=
  fun n hn => h.suits n ((d.handed_prefix_ledger l).subset hn)

theorem Paced.handed_eq_nil {d : Document} {now : Nat} {before after : Log} {t : Nat}
    {n : Notification} {e : SessionError}
    (h : Paced d (before ++ (t, .finished n (some e)) :: after) now) (hn : n.isOpening = true) :
    after.handed = [] := by
  rw [Log.handed, List.filterMap_eq_nil_iff]
  rintro ⟨s, event⟩ hmem
  cases event with
  | handed m =>
    obtain ⟨left, right, rfl⟩ := List.append_of_mem hmem
    have hcut := h.handed (before ++ (t, .finished n (some e)) :: left) s m right (by simp)
    exact absurd ⟨t, n, e, by simp, hn⟩ hcut.alive
  | _ => rfl

end Document

namespace Client

theorem wire_order (env : Environment) (ms : List Move) (d : Document)
    (h : d ∈ ((start env).play ms).documents) : d.WireOrder (((start env).play ms).log d.id) := by
  obtain ⟨hkeeps, hpaced⟩ := Document.paced_invariant.play env ms d h
  generalize ((start env).play ms).log d.id = l at hkeeps hpaced
  obtain ⟨s, hdialogue, hbegins⟩ := hkeeps.dialogue
  have hsuits := hkeeps.suits_handed
  constructor
  · exact ⟨s, hdialogue, (d.handed_prefix_ledger l).trans hbegins⟩
  · exact fun before t n after hl => (hpaced.handed before t n after hl).resolved
  · rintro before t n e after rfl hn
    exact hpaced.handed_eq_nil hn
  · exact fun before t n after hl hn => ((hpaced.handed before t n after hl).greeted hn).1
  · exact fun before t n after hl hn => ((hpaced.handed before t n after hl).greeted hn).2
  · exact fun uri version cs hmem => (hsuits _ hmem).2
  · exact fun uri text hmem => (hsuits _ hmem).2
  · exact fun n hmem => (hsuits n hmem).uri_eq

/-- A document that is changed, saved and closed before the server had its time. -/
def hasty : List Move :=
  let id : DocumentId := ⟨⟨"file:///a"⟩, 0⟩
  [.create id.uri "text" ⟨.full, true, .notify⟩ {} "a" none, .act (.document id .beginOpen),
    .act (.document id (.edit (.insertion 1 "b") none)), .act (.document id .save),
    .act (.document id .close), .act (.shared (.advance 500))]

theorem wire_order_hasty : ∃ d ∈ ((start plain).play hasty).documents,
    (((start plain).play hasty).log d.id).handed.map Notification.method =
        ["textDocument/didOpen", "textDocument/didChange", "textDocument/didSave",
          "textDocument/didClose"] ∧
      d.WireOrder (((start plain).play hasty).log d.id) := by
  obtain ⟨d, hd, hmethods⟩ : ∃ d ∈ ((start plain).play hasty).documents,
      (((start plain).play hasty).log d.id).handed.map Notification.method =
        ["textDocument/didOpen", "textDocument/didChange", "textDocument/didSave",
          "textDocument/didClose"] := by decide
  exact ⟨d, hd, hmethods, wire_order plain hasty d hd⟩

end Client

end DocSync
