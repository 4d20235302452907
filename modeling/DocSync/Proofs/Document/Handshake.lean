import DocSync.Proofs.Document.Ledger

/-!
# The handshake

The handshake has one outcome at most. Nobody but the writer brings it about, and from then on it
stands in the log.
-/
namespace DocSync

def Event.handshake? : Event → Option (Except SessionError Unit)
  | .handshake none => some (.ok ())
  | .handshake (some e) => some (.error e)
  | _ => none

namespace Log

/-- The outcomes of the handshake. -/
def handshakes (l : Log) : List (Except SessionError Unit) :=
  l.filterMap fun x => x.2.handshake?

@[simp] theorem handshakes_nil : handshakes [] = [] := rfl

@[simp] theorem handshakes_append (l k : Log) :
    handshakes (l ++ k) = l.handshakes ++ k.handshakes := List.filterMap_append

theorem handshakes_map (now : Nat) (es : List Event) :
    handshakes (es.map (now, ·)) = es.filterMap Event.handshake? := by
  rw [handshakes, List.filterMap_map]
  rfl

end Log

namespace Document

/-- The log tells how the handshake came out, once that is known. -/
def Resolves (d : Document) (l : Log) : Prop := l.handshakes = d.handshakeOutcome?.toList

@[simp] theorem handshake?_dismissals (d : Document) :
    d.dismissals.filterMap Event.handshake? = [] := by
  simp [dismissals, List.filterMap_map, Function.comp_def, Event.handshake?]

theorem resolves_new {d : Document} (h : d.IsNew) : Resolves d [] := by
  rw [h]
  rfl

theorem Resolves.call {active : Bool} {d d' : Document} {l : Log} (h : Resolves d l)
    (hk : Keeps d (d.ledger l)) (hc : Call active d d') : Resolves d' l := by
  cases hc with
  | begin hp =>
    have hbefore : d.handshakeOutcome? = none := by
      simp [handshakeOutcome?, (hk.unopened hp).1]
    have hafter : d.beginOpen.handshakeOutcome? = none := by
      rw [beginOpen_eq hp]
      split <;> rfl
    rw [Resolves, hafter, ← hbefore]
    exact h
  | _ => exact h

theorem Resolves.step {now : Nat} {supported : Bool} {d d' : Document} {es : List Event} {l : Log}
    (h : Resolves d l) (hs : Step now supported d es d') :
    Resolves d' (l ++ es.map (now, ·)) := by
  have hpulled (cause : PullCause) (v : PullVersion) (request : DiagnosticRequest) :
      Event.handshake? (.pulled cause v request) = none := rfl
  -- The writer learns the outcome where it had none, and keeps it where it had one.
  have hlearn (r : Except SessionError Unit) (hbefore : d.handshakeOutcome? = none)
      (hafter : d'.handshakeOutcome? = some r) (hes : es.filterMap Event.handshake? = [r]) :
      Resolves d' (l ++ es.map (now, ·)) := by
    rw [Resolves, hbefore] at h
    rw [Resolves, Log.handshakes_append, Log.handshakes_map, h, hes, hafter]
    rfl
  have hkeep (hsame : d'.handshakeOutcome? = d.handshakeOutcome?)
      (hes : es.filterMap Event.handshake? = []) : Resolves d' (l ++ es.map (now, ·)) := by
    rw [Resolves, Log.handshakes_append, Log.handshakes_map, hes, List.append_nil, hsame]
    exact h
  cases hs with
  | refuse e hw =>
    exact hlearn (.error e) (by simp [handshakeOutcome?, hw]) rfl (by simp [Event.handshake?])
  | greet fault hw => exact hkeep (by simp [handshakeOutcome?, hw]) rfl
  | @fail n e hw =>
    exact hlearn (.error e) (by simp [handshakeOutcome?, hw]) rfl (by
      simp [List.filterMap_cons, Event.handshake?])
  | settle hw => exact hkeep (by simp [handshakeOutcome?, hw]) rfl
  | stop hw =>
    exact hkeep (by simp [handshakeOutcome?, Document.stop, hw]) d.handshake?_dismissals
  | join hw => exact hlearn (.ok ()) (by simp [handshakeOutcome?, hw]) rfl rfl
  | establish hw hdue timer unpulled hu hp =>
    refine hlearn (.ok ()) (by simp [handshakeOutcome?, hw]) rfl ?_
    rw [List.filterMap_cons, hp.filterMap_eq_nil hpulled]
    rfl
  | hand fault hw hqueue => exact hkeep (by simp [handshakeOutcome?, hw]) rfl
  | finish timer pulls hw hp =>
    refine hkeep (by simp [handshakeOutcome?, hw]) ?_
    rw [List.cons_append, List.filterMap_cons, List.filterMap_append,
      hp.filterMap_eq_nil hpulled]
    rfl
  | fire hp hdue hasks => exact hkeep rfl (hasks.filterMap_eq_nil hpulled)
  | serve hwaiting hk hasks => exact hkeep rfl (hasks.filterMap_eq_nil hpulled)
  | refresh hp hs hv hasks => exact hkeep rfl (hasks.filterMap_eq_nil hpulled)
  | enlist hp hr hs hv => exact hkeep rfl rfl

theorem resolves_invariant :
    Invariant fun d l _ => Keeps d (d.ledger l) ∧ Resolves d l where
  new h := ⟨keeps_new h, resolves_new h⟩
  call hc h := ⟨h.1.call hc, h.2.call h.1 hc⟩
  step hs h := ⟨h.1.step hs, h.2.step hs⟩
  wait _ _ h := h

end Document

end DocSync
