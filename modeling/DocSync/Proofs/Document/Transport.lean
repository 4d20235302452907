import DocSync.Proofs.Document.Pull
import DocSync.Proofs.Client.Clock

/-!
# What notifications meet

The link settles what a notification will meet when it is handed over, and the document learns of it
later. So what the notifications of a document meet, one after the other, is told by its log and by
its writer, and it only grows.
-/
namespace DocSync

/-- What the notifications of each document meet, by their number in the order of handing over. -/
abbrev Transport := DocumentId → Nat → Option SessionError

/-- A list begins a sequence. -/
def Begins {α : Type} (f : Nat → α) (l : List α) : Prop := l = (List.range l.length).map f

instance {α : Type} [DecidableEq α] (f : Nat → α) (l : List α) : Decidable (Begins f l) :=
  inferInstanceAs (Decidable (l = (List.range l.length).map f))

theorem Begins.of_prefix {α : Type} {f : Nat → α} {l k : List α} (h : Begins f k)
    (hl : l <+: k) : Begins f l := by
  have htake := List.prefix_iff_eq_take.mp hl
  have hle := hl.length_le
  unfold Begins at h ⊢
  rw [h, ← List.map_take, List.take_range, Nat.min_eq_left hle] at htake
  exact htake

theorem Begins.last_eq {α : Type} {f : Nat → α} {l : List α} {a b : α}
    (ha : Begins f (l ++ [a])) (hb : Begins f (l ++ [b])) : a = b := by
  unfold Begins at ha hb
  rw [List.length_append, List.length_singleton] at ha hb
  exact List.singleton_inj.mp (List.append_cancel_left (ha.trans hb.symm))

theorem begins_const {α : Type} {a : α} {l : List α} (h : ∀ x ∈ l, x = a) :
    Begins (fun _ => a) l := by
  rw [Begins, List.map_const', List.length_range]
  exact List.eq_replicate_iff.mpr ⟨rfl, h⟩

namespace Document

/-- What the notification that the writer handed over last will turn out to meet. -/
def Writer.fate : Writer → List (Option SessionError)
  | .greeting _ fault => [fault]
  | .sending _ fault => [fault]
  | _ => []

/-- What the notifications of a document meet, whether it knows or not. -/
def met (d : Document) (l : Log) : List (Option SessionError) :=
  l.outcomes.map Prod.snd ++ Writer.fate d.writer

@[simp] theorem outcome?_dismissals (d : Document) :
    d.dismissals.filterMap Event.outcome? = [] := by
  simp [dismissals, List.filterMap_map, Function.comp_def, Event.outcome?]

/-- What a notification will meet is settled when it is handed over. -/
theorem Step.met {now : Nat} {supported : Bool} {d d' : Document} {es : List Event}
    (h : Step now supported d es d') (l : Log) :
    ∃ k ⊆ Writer.fate d'.writer, d'.met (l ++ es.map (now, ·)) = d.met l ++ k := by
  have hpulled (cause : PullCause) (v : PullVersion) (request : DiagnosticRequest) :
      Event.outcome? (.pulled cause v request) = none := rfl
  simp only [Document.met, Log.outcomes_append, Log.outcomes_map, List.map_append,
    List.append_assoc]
  cases h with
  | refuse e hw =>
    exact ⟨[], List.nil_subset _, by simp [hw, lose, Writer.fate, Event.outcome?]⟩
  | greet fault hw =>
    exact ⟨[fault], by simp [Writer.fate], by simp [hw, Writer.fate, Event.outcome?]⟩
  | fail hw =>
    refine ⟨[], List.nil_subset _, ?_⟩
    simp [List.filterMap_cons, hw, lose, Writer.fate, Event.outcome?]
  | stop hw =>
    refine ⟨[], List.nil_subset _, ?_⟩
    rw [outcome?_dismissals]
    simp [hw, Document.stop, Writer.fate]
  | settle hw => exact ⟨[], List.nil_subset _, by simp [hw, Writer.fate, Event.outcome?]⟩
  | join hw =>
    exact ⟨[], List.nil_subset _, by simp [hw, Document.establish, Writer.fate, Event.outcome?]⟩
  | establish hw hdue timer unpulled hu hp =>
    refine ⟨[], List.nil_subset _, ?_⟩
    rw [List.filterMap_cons, hp.filterMap_eq_nil hpulled]
    simp [hw, Document.establish, Writer.fate, Event.outcome?]
  | hand fault hw hq =>
    
    exact ⟨[fault], by simp [Writer.fate], by simp [hw, Writer.fate, Event.outcome?]⟩
  | finish timer pulls hw hp =>
    refine ⟨[], List.nil_subset _, ?_⟩
    rw [List.cons_append, List.filterMap_cons, List.filterMap_append, hp.filterMap_eq_nil hpulled]
    simp [List.filterMap_cons, hw, Writer.fate, Event.outcome?]
  | fire htimer hdue hp => exact ⟨[], List.nil_subset _, by simp [hp.filterMap_eq_nil hpulled]⟩
  | serve hwaiting hk hp => exact ⟨[], List.nil_subset _, by simp [hp.filterMap_eq_nil hpulled]⟩
  | refresh hphase hs hv hp => exact ⟨[], List.nil_subset _, by simp [hp.filterMap_eq_nil hpulled]⟩
  | enlist hphase hr hs hv => exact ⟨[], List.nil_subset _, by simp⟩

theorem Course.met {supported : Bool} {a b : Nat} {d d' : Document} {k : Log}
    (h : Course supported a d k b d') (l : Log) : d.met l <+: d'.met (l ++ k) := by
  refine h.induct (P := fun e l' _ => d.met l <+: e.met l') ?_ (fun _ _ hl => hl) List.prefix_rfl
  intro now e l' es e' hs hl
  obtain ⟨k, -, hk⟩ := hs.met l'
  exact hk ▸ hl.trans (List.prefix_append _ k)

theorem work_met {d : Document} (h : d.Calm) (active : Bool) (a : DocumentAction) (l : Log) :
    (a.work active d).met l = d.met l := by
  have hcall (e e' : Document) (hc : Call active e e') (he : e.Calm ∧ e.met l = d.met l) :
      e'.Calm ∧ e'.met l = d.met l := by
    refine ⟨hc.calm he.1, ?_⟩
    rw [← he.2]
    cases hc with
    | begin hp =>
      have habsent := he.1.unopened hp
      rw [beginOpen_eq hp]
      split <;> simp [Document.met, habsent, Writer.fate]
    | _ => rfl
  exact (work_induct hcall ⟨h, rfl⟩ a).2

end Document

end DocSync
