import DocSync.Proofs.Client.Turn
import Mathlib.Logic.Relation

/-!
# The strides of a turn

A document at work goes on by strides, each of which brings one matter to the point where something
else may happen. In every state there is one stride at most, and a document that takes none is at
rest: it waits for the other side or for the clock. The work of a turn is made of strides up to the
rest, so what every stride preserves is preserved by the whole of it, and two turns that stride
alike come to rest alike.
-/
namespace DocSync

/-- Whether the link holds up what the writer handed over last. -/
def Document.Writer.isHeld : Writer → Bool
  | .greeting .. | .sending .. => true
  | _ => false

/-- Without the other side or the clock moving, the writer has nothing left to do. -/
structure Document.WriterRests (now : Nat) (state : SessionState) (stalled late : Bool)
    (d : Document) : Prop where
  waiting : ∀ greeting, d.writer = .waiting greeting → state = .held
  settling : ∀ n due, d.writer = .settling n due → now < due
  idle : d.writer = .idle → d.queue = []
  held : Document.Writer.isHeld d.writer = true → stalled = true
  refused : ∀ e, d.writer = .refused e → late = true

/-- Without the other side or the clock moving, nothing is left to do. -/
structure Document.AtRest (now : Nat) (state : SessionState) (stalled late : Bool)
    (d : Document) : Prop extends Document.WriterRests now state stalled late d where
  served : d.handshakeOutcome? = some (.ok ()) → d.waiting = []
  timer : ∀ p, d.timer = some p → now < p.due

/-- What a writer at rest waits for. -/
theorem Document.writerRests_iff {now : Nat} {state : SessionState} {stalled late : Bool}
    {d : Document} : d.WriterRests now state stalled late ↔
      match d.writer with
      | .absent | .stopped _ => True
      | .waiting _ => state = .held
      | .greeting .. | .sending .. => stalled = true
      | .settling _ due => now < due
      | .idle => d.queue = []
      | .refused _ => late = true := by
  constructor
  · rintro ⟨hwaiting, hsettling, hidle, hheld, hrefused⟩
    cases hw : d.writer <;> simp_all [Document.Writer.isHeld]
  · intro h
    constructor <;> intros <;> cases hw : d.writer <;> simp_all [Document.Writer.isHeld]

namespace Turn

open Document (Step Course writerRests_iff)
open Relation (ReflTransGen)

def WriterRests (t : Turn) : Prop :=
  t.doc.WriterRests t.env.now t.env.session.state t.env.link.stalled (t.env.late t.doc.id)

def Rests (t : Turn) : Prop :=
  t.doc.AtRest t.env.now t.env.session.state t.env.link.stalled (t.env.late t.doc.id)

theorem Rests.world {d : Document} {e e' : Environment} (h : Rests ⟨d, e⟩) (hw : e.SameWorld e') :
    Rests ⟨d, e'⟩ := by
  unfold Rests
  rw [hw.now, hw.session, hw.stalled, hw.late]
  exact h

/-- A stride of the writer. -/
inductive Writes : Turn → Turn → Prop
  | refuse {t : Turn} {greeting : Option Notification} {e : SessionError}
      (hw : t.doc.writer = .waiting greeting) (hs : t.env.session.state = .failed e) :
      Writes t (t.lose e)
  | greet {t : Turn} {n : Notification} (hw : t.doc.writer = .waiting (some n))
      (hs : t.env.session.state = .ready) :
      Writes t { (t.hand n).1 with doc.writer := .greeting n (t.hand n).2 }
  | fail {t : Turn} {n : Notification} {e : SessionError}
      (hw : t.doc.writer = .greeting n (some e)) (hl : t.env.link.stalled = false) :
      Writes t ((t.note (.finished n (some e))).lose e)
  | settle {t : Turn} {n : Notification} (hw : t.doc.writer = .greeting n none)
      (hl : t.env.link.stalled = false) :
      Writes t { t.note (.finished n none) with
        doc.writer := .settling n (t.env.now + t.doc.settings.settleDelay) }
  | join {t : Turn} (hw : t.doc.writer = .waiting none) (hs : t.env.session.state = .ready) :
      Writes t (t.join none)
  | establish {t : Turn} {n : Notification} {due : Nat} (hw : t.doc.writer = .settling n due)
      (hdue : due ≤ t.env.now) : Writes t (t.join (some n))
  | hand {t : Turn} {item : Outgoing} {rest : List Outgoing} (hw : t.doc.writer = .idle)
      (hq : t.doc.queue = item :: rest) :
      Writes t { (t.hand item.notification).1 with
        doc.writer := .sending item (t.hand item.notification).2, doc.queue := rest }
  | finish {t : Turn} {item : Outgoing} {fault : Option SessionError}
      (hw : t.doc.writer = .sending item fault) (hl : t.env.link.stalled = false) :
      Writes t (t.finish item fault)
  | stop {t : Turn} {e : SessionError} (hw : t.doc.writer = .refused e)
      (hl : t.env.late t.doc.id = false) : Writes t (t.stop e)

/-- A stride of a document: the writer goes first, then what waited for the handshake, and then
the timer. -/
inductive Stride : Turn → Turn → Prop
  | write {t u : Turn} (h : Writes t u) : Stride t u
  | serve {t : Turn} {v : PullVersion} {rest : List PullVersion} (hr : t.WriterRests)
      (hk : t.doc.handshakeOutcome? = some (.ok ())) (hw : t.doc.waiting = v :: rest) :
      Stride t ({ t with doc.waiting := rest }.pull .refreshed v)
  | fire {t : Turn} {p : PullTimer} (hr : t.WriterRests)
      (hs : t.doc.handshakeOutcome? = some (.ok ()) → t.doc.waiting = [])
      (ht : t.doc.timer = some p) (hdue : p.due ≤ t.env.now) :
      Stride t ({ t with doc.timer := none }.pull .sent (.exact p.version))

/-- A stride of the writer is a step of the document with its events. -/
theorem Writes.step {t u : Turn} (h : Writes t u) : ∃ es, Emits t es u ∧
    Step t.env.now t.env.feature.supported t.doc es u.doc := by
  cases h with
  | @refuse greeting e hw hs => exact ⟨_, t.emits_lose e, .refuse e hw⟩
  | @greet n hw hs => exact ⟨_, (Emits.hand t n).edit rfl, .greet _ hw⟩
  | @fail n e hw hl =>
    have hn : Emits t [.finished n (some e)] (t.note (.finished n (some e))) := .note t rfl
    exact ⟨_, hn.trans (emits_lose _ e), .fail hw⟩
  | @settle n hw hl =>
    have hn : Emits t [.finished n none] (t.note (.finished n none)) := .note t rfl
    exact ⟨_, hn.edit rfl, .settle hw⟩
  | join hw hs =>
    rw [join_eq]
    exact ⟨_, t.emits_announce, .join hw⟩
  | @establish n due hw hdue =>
    obtain ⟨timer, unpulled, pulls, hdoc, he, hu, hp⟩ := t.join_spec n
    refine ⟨_, he, hdoc ▸ .establish hw hdue timer unpulled (fun v hv => ?_) hp⟩
    rw [hu, hv]
    rfl
  | @hand item rest hw hq => exact ⟨_, (Emits.hand t item.notification).edit rfl, .hand _ hw hq⟩
  | @finish item fault hw hl =>
    obtain ⟨timer, pulls, hdoc, he, hp⟩ := t.finish_spec item fault
    exact ⟨_, he, hdoc ▸ .finish timer pulls hw hp⟩
  | @stop e hw hl =>
    obtain ⟨hdoc, he⟩ := t.stop_spec e
    exact ⟨_, he, hdoc ▸ .stop hw⟩

theorem Stride.step {t u : Turn} (h : Stride t u) : ∃ es, Emits t es u ∧
    Step t.env.now t.env.feature.supported t.doc es u.doc := by
  cases h with
  | write h => exact h.step
  | @serve v rest hr hk hw =>
    let served : Turn := { t with doc.waiting := rest }
    obtain ⟨pulls, he, hp⟩ := served.pull_spec .refreshed v
    refine ⟨pulls, (Emits.document t served.doc rfl).trans he, ?_⟩
    rw [pull_doc]
    exact .serve hw hk (hp.congr rfl)
  | @fire p hr hs ht hdue =>
    let fired : Turn := { t with doc.timer := none }
    obtain ⟨pulls, he, hp⟩ := fired.pull_spec .sent (.exact p.version)
    refine ⟨pulls, (Emits.document t fired.doc rfl).trans he, ?_⟩
    rw [pull_doc]
    exact .fire ht hdue (hp.congr rfl)

theorem Stride.goes {t u : Turn} (h : Stride t u) : Goes t u := by
  obtain ⟨es, he, hs⟩ := h.step
  exact .step he hs

theorem goes_of_strides {t u : Turn} (h : ReflTransGen Stride t u) : Goes t u := by
  induction h with
  | refl => exact .refl t
  | tail _ hs ih => exact ih.trans hs.goes

/-! ## The writer comes to rest -/

/-- The writer strides on until it rests. -/
structure Reaches (t u : Turn) : Prop where
  strides : ReflTransGen Writes t u
  rests : u.WriterRests

theorem Reaches.head {t u w : Turn} (h : Writes t u) (k : Reaches u w) : Reaches t w :=
  ⟨.head h k.strides, k.rests⟩

theorem WriterRests.reaches {t : Turn} (h : t.WriterRests) : Reaches t t := ⟨.refl, h⟩

theorem reaches_drain {items : List Outgoing} {t : Turn} (hw : t.doc.writer = .idle)
    (hq : t.doc.queue = items) : Reaches t (t.drain items) := by
  induction items generalizing t with
  | nil =>
    refine WriterRests.reaches (writerRests_iff.mpr ?_)
    rw [hw]
    exact hq
  | cons item rest ih =>
    unfold drain
    dsimp only
    refine .head (.hand hw hq) ?_
    split
    · rename_i hl
      exact WriterRests.reaches (writerRests_iff.mpr hl)
    · rename_i hl
      obtain ⟨timer, pulls, hdoc, -⟩ := finish_spec { (t.hand item.notification).1 with
        doc.writer := .sending item (t.hand item.notification).2, doc.queue := rest } item
          (t.hand item.notification).2
      refine .head (.finish rfl (by simpa using hl)) (ih ?_ ?_)
      · rw [hdoc]
      · rw [hdoc]

theorem reaches_stop {t : Turn} {e : SessionError} (hw : t.doc.writer = .refused e) :
    Reaches t (if t.env.late t.doc.id then t else t.stop e) := by
  split
  · rename_i hl
    refine WriterRests.reaches (writerRests_iff.mpr ?_)
    rw [hw]
    exact hl
  · rename_i hl
    refine .head (.stop hw (by simpa using hl)) (WriterRests.reaches (writerRests_iff.mpr ?_))
    rw [(t.stop_spec e).1]
    trivial

theorem reaches_establish (t : Turn) (greeting : Option Notification) :
    Reaches (t.join greeting) (t.establish greeting) :=
  reaches_drain (t.join_writer greeting) rfl

theorem reaches_greeted {t : Turn} {n : Notification} {fault : Option SessionError}
    (hw : t.doc.writer = .greeting n fault) (hl : t.env.link.stalled = false) :
    Reaches t (t.greeted n fault) := by
  unfold greeted
  dsimp only
  cases fault with
  | some e => exact .head (.fail hw hl) (reaches_stop rfl)
  | none =>
    refine .head (.settle hw hl) ?_
    dsimp only
    split
    · rename_i hdue
      exact .head (.establish rfl hdue) (reaches_establish _ (some n))
    · rename_i hdue
      exact WriterRests.reaches (writerRests_iff.mpr (Nat.lt_of_not_le hdue))

theorem reaches_greet {t : Turn} {greeting : Option Notification}
    (hw : t.doc.writer = .waiting greeting) (hs : t.env.session.state = .ready) :
    Reaches t (t.greet greeting) := by
  cases greeting with
  | none => exact .head (.join hw hs) (t.reaches_establish none)
  | some n =>
    unfold greet
    dsimp only
    refine .head (.greet hw hs) ?_
    split
    · rename_i hl
      exact WriterRests.reaches (writerRests_iff.mpr hl)
    · rename_i hl
      exact reaches_greeted rfl (by simpa using hl)

theorem reaches_write (t : Turn) : Reaches t t.write := by
  unfold write
  cases hw : t.doc.writer with
  | absent | stopped e => exact WriterRests.reaches (writerRests_iff.mpr (by simp [hw]))
  | waiting greeting =>
    cases hs : t.env.session.state with
    | held => exact WriterRests.reaches (writerRests_iff.mpr (by simp [hw, hs]))
    | failed e => exact .head (.refuse hw hs) (reaches_stop rfl)
    | ready => exact reaches_greet hw hs
  | greeting n fault =>
    dsimp only
    split
    · rename_i hl
      exact WriterRests.reaches (writerRests_iff.mpr (by simp [hw, hl]))
    · rename_i hl
      exact reaches_greeted hw (by simpa using hl)
  | settling n due =>
    dsimp only
    split
    · rename_i hdue
      exact .head (.establish hw hdue) (t.reaches_establish (some n))
    · rename_i hdue
      exact WriterRests.reaches (writerRests_iff.mpr (by simpa [hw] using hdue))
  | idle => exact reaches_drain hw rfl
  | sending item fault =>
    dsimp only
    split
    · rename_i hl
      exact WriterRests.reaches (writerRests_iff.mpr (by simp [hw, hl]))
    · rename_i hl
      obtain ⟨timer, pulls, hdoc, -⟩ := t.finish_spec item fault
      exact .head (.finish hw (by simpa using hl)) (reaches_drain (by rw [hdoc]) rfl)
  | refused e => exact reaches_stop hw

/-! ## The document comes to rest -/

/-- A document strides on until it is at rest. -/
structure Arrives (t u : Turn) : Prop where
  strides : ReflTransGen Stride t u
  rests : u.Rests

theorem Arrives.head {t u w : Turn} (h : Stride t u) (k : Arrives u w) : Arrives t w :=
  ⟨.head h k.strides, k.rests⟩

theorem Rests.arrives {t : Turn} (h : t.Rests) : Arrives t t := ⟨.refl, h⟩

/-- What the writer looks at stays as it is when a pull goes out. -/
theorem WriterRests.pull {t : Turn} (h : t.WriterRests) (d : Document) (hid : d.id = t.doc.id)
    (hw : d.writer = t.doc.writer) (hq : d.queue = t.doc.queue) (cause : PullCause)
    (v : PullVersion) : (Turn.pull ⟨d, t.env⟩ cause v).WriterRests := by
  obtain ⟨pulls, he, -⟩ := pull_spec ⟨d, t.env⟩ cause v
  have hworld := he.world
  rw [WriterRests, pull_doc, hworld.now, hworld.session, hworld.stalled, hworld.late]
  refine writerRests_iff.mpr ?_
  rw [hid, hw, hq]
  exact writerRests_iff.mp h

theorem arrives_fire {t : Turn} (hr : t.WriterRests)
    (hs : t.doc.handshakeOutcome? = some (.ok ()) → t.doc.waiting = []) : Arrives t t.fire := by
  unfold fire
  cases ht : t.doc.timer with
  | none => exact Rests.arrives ⟨hr, hs, by simp [ht]⟩
  | some p =>
    dsimp only
    split
    · rename_i hdue
      have hfired := hr.pull { t.doc with timer := none } rfl rfl rfl .sent (.exact p.version)
      refine .head (.fire hr hs ht hdue) (Rests.arrives ⟨hfired, ?_, ?_⟩)
      · rw [pull_doc]
        exact hs
      · rw [pull_doc]
        simp
    · rename_i hdue
      refine Rests.arrives ⟨hr, hs, ?_⟩
      intro p' hp
      rw [ht] at hp
      cases hp
      exact Nat.lt_of_not_le hdue

theorem arrives_serve {waiting : List PullVersion} {t : Turn} (hr : t.WriterRests)
    (hk : t.doc.handshakeOutcome? = some (.ok ())) (hw : t.doc.waiting = waiting) :
    Arrives t (t.serve waiting).fire := by
  induction waiting generalizing t with
  | nil => exact arrives_fire hr fun _ => hw
  | cons v rest ih =>
    have hserved := hr.pull { t.doc with waiting := rest } rfl rfl rfl .refreshed v
    refine .head (.serve hr hk hw) (ih hserved ?_ ?_)
    · rw [pull_doc]
      exact hk
    · rw [pull_doc]

theorem arrives_release {t : Turn} (hr : t.WriterRests) : Arrives t t.release.fire := by
  unfold release
  split
  · rename_i hk
    exact arrives_serve hr hk rfl
  · rename_i hk
    exact arrives_fire hr fun h => absurd h (hk ())

/-- The work of a turn is made of strides, and leaves the document at rest. -/
theorem arrives_progress (t : Turn) : Arrives t t.progress := by
  obtain ⟨hwrites, hr⟩ := t.reaches_write
  obtain ⟨hstrides, hrests⟩ := arrives_release hr
  have hfirst : ReflTransGen Stride t t.write :=
    ReflTransGen.mono (fun _ _ h => Stride.write h) _ _ hwrites
  exact ⟨hfirst.trans hstrides, hrests⟩

/-- What every stride preserves is preserved by the work of a turn. -/
theorem progress_induct {P : Turn → Prop} (h : ∀ t u, Stride t u → P t → P u) {t : Turn} (ht : P t) :
    P t.progress := by
  have hall (u : Turn) (hu : ReflTransGen Stride t u) : P u := by
    induction hu with
    | refl => exact ht
    | tail _ hs ih => exact h _ _ hs ih
  exact hall t.progress t.arrives_progress.strides

theorem goes_progress (t : Turn) : Goes t t.progress := goes_of_strides t.arrives_progress.strides

theorem progress_rests (t : Turn) : t.progress.Rests := t.arrives_progress.rests

/-! ## There is one way on -/

/-- A writer at rest takes no stride. -/
theorem Writes.not_writerRests {t u : Turn} (h : Writes t u) : ¬ t.WriterRests := by
  intro hr
  have hrests := writerRests_iff.mp hr
  cases h with
  | refuse hw hs => simp [hw, hs] at hrests
  | greet hw hs => simp [hw, hs] at hrests
  | fail hw hl => simp [hw, hl] at hrests
  | settle hw hl => simp [hw, hl] at hrests
  | join hw hs => simp [hw, hs] at hrests
  | establish hw hdue =>
    simp only [hw] at hrests
    exact Nat.not_lt.mpr hdue hrests
  | hand hw hq => simp [hw, hq] at hrests
  | finish hw hl => simp [hw, hl] at hrests
  | stop hw hl => simp [hw, hl] at hrests

theorem Writes.unique {t u w : Turn} (h : Writes t u) (k : Writes t w) : u = w := by
  cases h <;> cases k <;> simp_all

theorem Stride.unique {t u w : Turn} (h : Stride t u) (k : Stride t w) : u = w := by
  cases h with
  | write h =>
    cases k with
    | write k => exact h.unique k
    | serve hr => exact absurd hr h.not_writerRests
    | fire hr => exact absurd hr h.not_writerRests
  | serve hr hk hw =>
    cases k with
    | write k => exact absurd hr k.not_writerRests
    | serve _ _ kw =>
      obtain ⟨rfl, rfl⟩ := List.cons.inj (hw.symm.trans kw)
      rfl
    | fire _ ks => simp [ks hk] at hw
  | fire hr hs ht =>
    cases k with
    | write k => exact absurd hr k.not_writerRests
    | serve _ kk kw => simp [hs kk] at kw
    | fire _ _ kt =>
      obtain rfl := Option.some.inj (ht.symm.trans kt)
      rfl

/-- A document at rest takes no stride. -/
theorem Rests.not_stride {t u : Turn} (hr : t.Rests) : ¬ Stride t u := by
  intro h
  cases h with
  | write h => exact h.not_writerRests hr.toWriterRests
  | serve _ hk hw => simp [hr.served hk] at hw
  | fire _ _ ht hdue => exact Nat.not_lt.mpr hdue (hr.timer _ ht)

theorem Rests.eq_of_strides {t u : Turn} (hr : t.Rests) (h : ReflTransGen Stride t u) : t = u := by
  rcases h.cases_head with heq | ⟨w, hs, -⟩
  · exact heq
  · exact absurd hs hr.not_stride

/-- Wherever a document takes a stride, the rest of its way goes on from there. -/
theorem Arrives.tail {t u w : Turn} (h : Arrives t w) (hs : Stride t u) : Arrives u w := by
  rcases h.strides.cases_head with rfl | ⟨v, hv, hrest⟩
  · exact absurd hs h.rests.not_stride
  · obtain rfl := hs.unique hv
    exact ⟨hrest, h.rests⟩

/-- There is one place to come to rest at. -/
theorem Arrives.unique {t u w : Turn} (h : Arrives t u) (k : Arrives t w) : u = w := by
  obtain ⟨hstrides, hrests⟩ := h
  induction hstrides using ReflTransGen.head_induction_on with
  | refl => exact hrests.eq_of_strides k.strides
  | head hs _ ih => exact ih (k.tail hs)

/-- A document at rest stays as it is. -/
theorem progress_of_rests {t : Turn} (h : t.Rests) : t.progress = t :=
  (Rests.eq_of_strides h t.arrives_progress.strides).symm

end Turn

end DocSync
