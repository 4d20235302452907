import DocSync.Client.Writing
import Mathlib.Tactic.Common

/-!
# Steps of the writer

Whatever a document does by itself is made of small steps, each with the events it leaves in the
history. A course is a sequence of such steps during which the clock may move on. The ledger of a
document is all that it had to tell the server: what was handed over, by its log, and what is still
to be handed over. A step keeps the ledger, or cuts it down to what was handed over.
-/
namespace DocSync

/-- The events of one document with their times, the oldest first. -/
abbrev Log := List (Nat × Event)

def Event.handed? : Event → Option Notification
  | .handed n => some n
  | _ => none

/-- The version of the text that a notification brought to the server, if it came through. -/
def Notification.sentVersion? (n : Notification) : Option SessionError → Option Version
  | none => n.version?
  | some _ => none

def Log.handed (l : Log) : List Notification := l.filterMap fun x => x.2.handed?

@[simp] theorem Log.handed_nil : Log.handed [] = [] := rfl

@[simp] theorem Log.handed_append (l k : Log) : Log.handed (l ++ k) = l.handed ++ Log.handed k :=
  List.filterMap_append

theorem Log.handed_map (now : Nat) (es : List Event) :
    Log.handed (es.map (now, ·)) = es.filterMap Event.handed? := by
  rw [Log.handed, List.filterMap_map]
  rfl

namespace Document

/-- The greeting, as long as it was not handed over. -/
def Writer.greeting? : Writer → Option Notification
  | .waiting greeting => greeting
  | _ => none

/-- What the writer was given and has not handed over. -/
def backlog (d : Document) : List Notification :=
  (Writer.greeting? d.writer).toList ++ d.queue.map Outgoing.notification

/-- What is still to be handed over: all of the backlog, unless the handshake failed. -/
def unsent (d : Document) : List Notification := if d.isRefused then [] else d.backlog

/-- All notifications of a document with the given log, in their order. -/
def ledger (d : Document) (l : Log) : List Notification := l.handed ++ d.unsent

def dismissals (d : Document) : List Event :=
  d.queue.map fun item => .acknowledged item.ticket false

def lose (d : Document) (e : SessionError) : Document :=
  { d with writer := .refused e, waiting := [] }

def stop (d : Document) (e : SessionError) : Document :=
  { d with writer := .stopped e, queue := [] }

def establish (d : Document) : Document :=
  { d with writer := .idle, phase := if d.phase = .opening then .opened else d.phase }

/-- What a refresh may pull: any version, or the current one if nothing was pulled so far. -/
def Refreshes (d : Document) (v : PullVersion) : Prop :=
  v = .any ∨ d.unpulled = true ∧ v = .exact d.version

/-- A pull goes out if the document still awaits it. -/
inductive Asks (d : Document) (cause : PullCause) (v : PullVersion) : List Event → Prop
  | ask (request : DiagnosticRequest) (h : d.awaits v = true) :
      Asks d cause v [.pulled cause v request]
  | skip (h : d.awaits v = false) : Asks d cause v []

/-- Whether a document wants diagnostics when a text was sent. -/
def minds (d : Document) (supported : Bool) : Bool := supported && d.phase != .closed

/-- What a document does about diagnostics when a text was sent, if one was: nothing, if it wants
none, or it pulls at once, or it sets the timer. -/
inductive Attends (now : Nat) (supported : Bool) (d : Document) :
    Option Version → Option PullTimer → List Event → Prop
  | unsent : Attends now supported d none d.timer []
  | ignore (v : Version) (h : d.minds supported = false) :
      Attends now supported d (some v) d.timer []
  | pull {v : Version} {pulls : List Event} (h : d.minds supported = true)
      (hh : d.settings.headless = true) (hp : Asks d .sent (.exact v) pulls) :
      Attends now supported d (some v) d.timer pulls
  | delay (v : Version) (h : d.minds supported = true) (hh : d.settings.headless = false) :
      Attends now supported d (some v) (some ⟨now + d.settings.debounce, v⟩) []

/-- One step of a document at a time, with its events, while pulls are supported or not. -/
inductive Step (now : Nat) (supported : Bool) : Document → List Event → Document → Prop
  | refuse {d : Document} {greeting : Option Notification} (e : SessionError)
      (h : d.writer = .waiting greeting) :
      Step now supported d [.handshake (some e)] (d.lose e)
  | greet {d : Document} {n : Notification} (fault : Option SessionError)
      (h : d.writer = .waiting (some n)) :
      Step now supported d [.handed n] { d with writer := .greeting n fault }
  | fail {d : Document} {n : Notification} {e : SessionError}
      (h : d.writer = .greeting n (some e)) :
      Step now supported d [.finished n (some e), .handshake (some e)] (d.lose e)
  /-- The writer learns that the handshake failed. -/
  | stop {d : Document} {e : SessionError} (h : d.writer = .refused e) :
      Step now supported d d.dismissals (d.stop e)
  | settle {d : Document} {n : Notification} (h : d.writer = .greeting n none) :
      Step now supported d [.finished n none]
        { d with writer := .settling n (now + d.settings.settleDelay) }
  | join {d : Document} (h : d.writer = .waiting none) :
      Step now supported d [.handshake none] d.establish
  | establish {d : Document} {n : Notification} {due : Nat} (h : d.writer = .settling n due)
      (hdue : due ≤ now) (timer : Option PullTimer) (unpulled : Bool) {pulls : List Event}
      (hu : ∀ v, n.version? = some v → unpulled = !supported)
      (hp : Attends now supported d n.version? timer pulls) :
      Step now supported d (.handshake none :: pulls) { d.establish with timer, unpulled }
  | hand {d : Document} {item : Outgoing} {rest : List Outgoing} (fault : Option SessionError)
      (h : d.writer = .idle) (hq : d.queue = item :: rest) :
      Step now supported d [.handed item.notification]
        { d with writer := .sending item fault, queue := rest }
  /-- A pull may go out before the sender learns that the notification came through. -/
  | finish {d : Document} {item : Outgoing} {fault : Option SessionError}
      (timer : Option PullTimer) (pulls : List Event) (h : d.writer = .sending item fault)
      (hp : Attends now supported d (item.notification.sentVersion? fault) timer pulls) :
      Step now supported d
        (.finished item.notification fault :: pulls ++
          [.acknowledged item.ticket fault.isNone])
        { d with writer := .idle, timer }
  | fire {d : Document} {p : PullTimer} {pulls : List Event} (h : d.timer = some p)
      (hdue : p.due ≤ now) (hp : Asks d .sent (.exact p.version) pulls) :
      Step now supported d pulls { d with timer := none }
  /-- A pull that waited for the handshake. -/
  | serve {d : Document} {v : PullVersion} {rest : List PullVersion} {pulls : List Event}
      (h : d.waiting = v :: rest) (hk : d.handshakeOutcome? = some (.ok ()))
      (hp : Asks d .refreshed v pulls) : Step now supported d pulls { d with waiting := rest }
  | refresh {d : Document} {v : PullVersion} {pulls : List Event} (h : d.phase = .opened)
      (hs : supported = true) (hv : d.Refreshes v) (hp : Asks d .refreshed v pulls) :
      Step now supported d pulls d
  | enlist {d : Document} {v : PullVersion} (h : d.phase = .opening) (hr : d.isRefused = false)
      (hs : supported = true) (hv : d.Refreshes v) :
      Step now supported d [] { d with waiting := d.waiting ++ [v] }

theorem Asks.mem {d : Document} {cause : PullCause} {v : PullVersion} {pulls : List Event}
    (h : Asks d cause v pulls) :
    ∀ e ∈ pulls, ∃ request, e = .pulled cause v request ∧ d.awaits v = true := by
  cases h with
  | ask request hv => simpa using hv
  | skip hv => simp

theorem Attends.mem {now : Nat} {supported : Bool} {d : Document} {sent : Option Version}
    {timer : Option PullTimer} {pulls : List Event} (h : Attends now supported d sent timer pulls) :
    ∀ e ∈ pulls, ∃ v request, sent = some v ∧ e = .pulled .sent (.exact v) request ∧
      d.awaits (.exact v) = true := by
  cases h with
  | unsent => simp
  | ignore => simp
  | @pull v _ _ _ hp =>
    intro e he
    obtain ⟨request, heq, hv⟩ := hp.mem e he
    exact ⟨v, request, rfl, heq, hv⟩
  | delay => simp

/-- What is awaited is all that a pull asks of a document. -/
theorem Asks.congr {d d' : Document} {cause : PullCause} {v : PullVersion} {pulls : List Event}
    (h : Asks d cause v pulls) (hawaits : d'.awaits v = d.awaits v) : Asks d' cause v pulls := by
  cases h with
  | ask request hv => exact .ask request (hawaits.trans hv)
  | skip hv => exact .skip (hawaits.trans hv)

theorem Attends.congr {now : Nat} {supported : Bool} {d d' : Document} {sent : Option Version}
    {timer : Option PullTimer} {pulls : List Event} (h : Attends now supported d sent timer pulls)
    (hawaits : ∀ v, d'.awaits v = d.awaits v) (htimer : d'.timer = d.timer)
    (hsettings : d'.settings = d.settings) : Attends now supported d' sent timer pulls := by
  have hminds : d'.minds supported = d.minds supported := by
    simpa [awaits, PullVersion.accepts, minds] using congrArg (supported && ·) (hawaits .any)
  cases h with
  | unsent => exact htimer ▸ .unsent
  | ignore v h => exact htimer ▸ .ignore v (hminds.trans h)
  | pull h hh hp =>
    exact htimer ▸ .pull (hminds.trans h) (hsettings ▸ hh) (hp.congr (hawaits _))
  | delay v h hh => exact hsettings ▸ .delay v (hminds.trans h) (hsettings ▸ hh)

@[simp] theorem awaits_establish (d : Document) (v : PullVersion) :
    d.establish.awaits v = d.awaits v := by
  cases hp : d.phase <;> simp only [awaits, establish, hp] <;> rfl

/-- What does not look at pulls finds nothing where a pull may go out. -/
theorem Asks.filterMap_eq_nil {α : Type} {f : Event → Option α} {d : Document} {cause : PullCause}
    {v : PullVersion} {pulls : List Event} (h : Asks d cause v pulls)
    (hf : ∀ cause v request, f (.pulled cause v request) = none) : pulls.filterMap f = [] := by
  cases h with
  | ask request hv => simp [hf]
  | skip hv => rfl

theorem Attends.filterMap_eq_nil {α : Type} {f : Event → Option α} {now : Nat} {supported : Bool}
    {d : Document} {sent : Option Version} {timer : Option PullTimer} {pulls : List Event}
    (h : Attends now supported d sent timer pulls)
    (hf : ∀ cause v request, f (.pulled cause v request) = none) : pulls.filterMap f = [] := by
  cases h with
  | pull _ _ hp => exact hp.filterMap_eq_nil hf
  | _ => rfl

theorem Asks.handed {d : Document} {cause : PullCause} {v : PullVersion} {pulls : List Event}
    (h : Asks d cause v pulls) : pulls.filterMap Event.handed? = [] :=
  h.filterMap_eq_nil fun _ _ _ => rfl

theorem Attends.handed {now : Nat} {supported : Bool} {d : Document} {sent : Option Version}
    {timer : Option PullTimer} {pulls : List Event} (h : Attends now supported d sent timer pulls) :
    pulls.filterMap Event.handed? = [] :=
  h.filterMap_eq_nil fun _ _ _ => rfl

/-- A time up to which a document waits for no other. -/
structure Until (d : Document) (later : Nat) : Prop where
  settling : ∀ n due, d.writer = .settling n due → later ≤ due
  timer : ∀ p, d.timer = some p → later ≤ p.due

theorem Until.mono {d : Document} {later sooner : Nat} (h : d.Until later) (hle : sooner ≤ later) :
    d.Until sooner :=
  ⟨fun n due hw => Nat.le_trans hle (h.settling n due hw),
    fun p hp => Nat.le_trans hle (h.timer p hp)⟩

/-- What happens to a document between two times, if nobody touches it. The clock passes over no
time that the document waits for. -/
inductive Course (supported : Bool) : Nat → Document → Log → Nat → Document → Prop
  | refl (now : Nat) (d : Document) : Course supported now d [] now d
  | step {start now : Nat} {d d' d'' : Document} {l : Log} {es : List Event}
      (hc : Course supported start d l now d') (hs : Step now supported d' es d'') :
      Course supported start d (l ++ es.map (now, ·)) now d''
  | wait {start now later : Nat} {d d' : Document} {l : Log}
      (hc : Course supported start d l now d') (h : now ≤ later) (hd : d'.Until later) :
      Course supported start d l later d'

namespace Course

variable {supported : Bool}

theorem single {now : Nat} {d d' : Document} {es : List Event} (h : Step now supported d es d') :
    Course supported now d (es.map (now, ·)) now d' := by
  simpa using (refl now d).step h

theorem trans {a b c : Nat} {d d' d'' : Document} {l k : Log} (h : Course supported a d l b d')
    (hk : Course supported b d' k c d'') : Course supported a d (l ++ k) c d'' := by
  induction hk with
  | refl => simpa using h
  | step _ hs ih => simpa [List.append_assoc] using (ih h).step hs
  | wait _ hle hd ih => exact (ih h).wait hle hd

theorem induct {P : Document → Log → Nat → Prop}
    (hstep : ∀ {now d l es d'}, Step now supported d es d' → P d l now →
      P d' (l ++ es.map (now, ·)) now)
    (hwait : ∀ {now later d l}, now ≤ later → d.Until later → P d l now → P d l later)
    {a b : Nat} {d d' : Document} {k : Log} (h : Course supported a d k b d') {l : Log}
    (hd : P d l a) : P d' (l ++ k) b := by
  induction h with
  | refl => simpa using hd
  | step _ hs ih => simpa [List.append_assoc] using hstep hs (ih hd)
  | wait _ hle hu ih => exact hwait hle hu (ih hd)

end Course

/-- What the steps of a document leave alone. -/
structure SameText (d d' : Document) : Prop where
  id : d'.id = d.id
  languageId : d'.languageId = d.languageId
  policy : d'.policy = d.policy
  settings : d'.settings = d.settings
  buffer : d'.buffer = d.buffer
  initialText : d'.initialText = d.initialText
  pending : d'.pending = d.pending
  version : d'.version = d.version
  tickets : d'.tickets = d.tickets

theorem SameText.refl (d : Document) : SameText d d := by
  constructor <;> rfl

theorem SameText.trans {a b c : Document} (h : SameText a b) (k : SameText b c) : SameText a c := by
  constructor
  · exact k.id.trans h.id
  · exact k.languageId.trans h.languageId
  · exact k.policy.trans h.policy
  · exact k.settings.trans h.settings
  · exact k.buffer.trans h.buffer
  · exact k.initialText.trans h.initialText
  · exact k.pending.trans h.pending
  · exact k.version.trans h.version
  · exact k.tickets.trans h.tickets

theorem Step.sameText {now : Nat} {supported : Bool} {d d' : Document} {es : List Event}
    (h : Step now supported d es d') : SameText d d' := by
  cases h <;> constructor <;> rfl

theorem Course.sameText {a b : Nat} {supported : Bool} {d d' : Document} {l : Log}
    (h : Course supported a d l b d') : SameText d d' := by
  induction h with
  | refl => exact .refl _
  | step _ hs ih => exact ih.trans hs.sameText
  | wait _ _ _ ih => exact ih

@[simp] theorem handed?_dismissals (d : Document) : d.dismissals.filterMap Event.handed? = [] := by
  simp [dismissals, List.filterMap_map, Function.comp_def, Event.handed?]

theorem unsent_of_isRefused {d : Document} (h : d.isRefused = true) : d.unsent = [] := by
  simp [unsent, h]

theorem unsent_eq_backlog {d : Document} (h : d.isRefused = false) : d.unsent = d.backlog := by
  simp [unsent, h]

theorem unsent_prefix (d : Document) : d.unsent <+: d.backlog := by
  unfold unsent
  split
  · exact List.nil_prefix
  · exact List.prefix_rfl

/-- What the writer hands over next is what it was given first. -/
theorem unsent_of_greeting?_eq_none {d : Document} (h : Writer.greeting? d.writer = none)
    (hr : d.isRefused = false) : d.unsent = d.queue.map Outgoing.notification := by
  simp [unsent_eq_backlog hr, backlog, h]

/-- A step moves notifications from those to be handed over to those that were, in their order.
Only the loss of the handshake takes any away. -/
theorem Step.ledger {now : Nat} {supported : Bool} {d d' : Document} {es : List Event}
    (h : Step now supported d es d') (l : Log) :
    d'.ledger (l ++ es.map (now, ·)) = d.ledger l ∨
      d'.isRefused = true ∧ d'.ledger (l ++ es.map (now, ·)) <+: d.ledger l := by
  simp only [Document.ledger, Log.handed_append, Log.handed_map]
  cases h with
  | refuse e h =>
    exact .inr ⟨rfl, by simp [List.filterMap_cons, Event.handed?, unsent, lose, isRefused]⟩
  | fail h =>
    exact .inr ⟨rfl, by simp [List.filterMap_cons, Event.handed?, unsent, lose, isRefused]⟩
  | stop h => left; simp [unsent, isRefused, Document.stop, h]
  | greet fault h =>
    left
    simp [Event.handed?, unsent, isRefused, backlog, Writer.greeting?, h]
  | settle h =>
    left
    simp [List.filterMap_cons, Event.handed?, unsent, isRefused, backlog, Writer.greeting?, h]
  | join h =>
    left
    simp [List.filterMap_cons, Event.handed?, unsent, isRefused, backlog, Writer.greeting?, h,
      Document.establish]
  | establish h hdue timer unpulled hu hp =>
    left
    rw [List.filterMap_cons, hp.handed]
    simp [Event.handed?, unsent, isRefused, backlog, Writer.greeting?, h, Document.establish]
  | hand fault h hq =>
    left
    simp [Event.handed?, unsent, isRefused, backlog, Writer.greeting?, h, hq]
  | finish timer pulls h hp =>
    left
    rw [List.cons_append, List.filterMap_cons, List.filterMap_append, hp.handed]
    simp [List.filterMap_cons, Event.handed?, unsent, isRefused, backlog, Writer.greeting?, h]
  | fire h hdue hp => left; rw [hp.handed, List.append_nil]; rfl
  | serve h hk hp => left; rw [hp.handed, List.append_nil]; rfl
  | refresh h hs hv hp => left; rw [hp.handed, List.append_nil]
  | enlist => left; rw [List.filterMap_nil, List.append_nil]; rfl

theorem Step.ledger_prefix {now : Nat} {supported : Bool} {d d' : Document} {es : List Event}
    (h : Step now supported d es d') (l : Log) :
    d'.ledger (l ++ es.map (now, ·)) <+: d.ledger l := by
  rcases h.ledger l with heq | ⟨-, hbegins⟩
  · exact heq ▸ List.prefix_rfl
  · exact hbegins

theorem Step.isRefused {now : Nat} {supported : Bool} {d d' : Document} {es : List Event}
    (h : Step now supported d es d') (hd : d.isRefused = true) : d'.isRefused = true := by
  cases h <;> simp_all [Document.isRefused, Document.stop]

/-- The outcome of the handshake stays. -/
theorem Step.outcome {now : Nat} {supported : Bool} {d d' : Document} {es : List Event}
    (h : Step now supported d es d') {r : Except SessionError Unit}
    (hr : d.handshakeOutcome? = some r) : d'.handshakeOutcome? = some r := by
  cases h with
  | hand fault hw => simpa [handshakeOutcome?, hw] using hr
  | finish timer pulls hw => simpa [handshakeOutcome?, hw] using hr
  | stop hw => simpa [handshakeOutcome?, Document.stop, hw] using hr
  | refuse e hw | greet fault hw | fail hw | settle hw | join hw | establish hw =>
    simp [handshakeOutcome?, hw] at hr
  | _ => exact hr

theorem Course.outcome {a b : Nat} {supported : Bool} {d d' : Document} {l : Log}
    (h : Course supported a d l b d') {r : Except SessionError Unit}
    (hr : d.handshakeOutcome? = some r) : d'.handshakeOutcome? = some r := by
  induction h with
  | refl => exact hr
  | step _ hs ih => exact hs.outcome (ih hr)
  | wait _ _ _ ih => exact ih hr

theorem Step.phase {now : Nat} {supported : Bool} {d d' : Document} {es : List Event}
    (h : Step now supported d es d') :
    d'.phase = d.phase ∨ d.phase = .opening ∧ d'.phase = .opened := by
  cases h with
  | join h => by_cases hp : d.phase = .opening <;> simp [Document.establish, hp]
  | establish h hdue => by_cases hp : d.phase = .opening <;> simp [Document.establish, hp]
  | _ => exact .inl rfl

theorem Step.unopened {now : Nat} {supported : Bool} {d d' : Document} {es : List Event}
    (h : Step now supported d es d') (hp : d'.phase = .unopened) : d.phase = .unopened := by
  rcases h.phase with hsame | ⟨-, hopened⟩
  · exact hsame.symm.trans hp
  · cases hp.symm.trans hopened

theorem Step.acceptsEdits {now : Nat} {supported : Bool} {d d' : Document} {es : List Event}
    (h : Step now supported d es d') : d'.acceptsEdits = d.acceptsEdits := by
  rcases h.phase with hp | ⟨hp, hp'⟩
  · simp [Document.acceptsEdits, hp]
  · simp [Document.acceptsEdits, hp, hp']

theorem Step.acceptsOutgoing {now : Nat} {supported : Bool} {d d' : Document} {es : List Event}
    (h : Step now supported d es d') (hd : d'.acceptsOutgoing = true) :
    d.acceptsOutgoing = true := by
  simp only [Document.acceptsOutgoing, Bool.and_eq_true, Bool.not_eq_true'] at hd ⊢
  refine ⟨h.acceptsEdits ▸ hd.1, ?_⟩
  by_contra hr
  exact absurd (h.isRefused (by simpa using hr)) (by simp [hd.2])

end Document

end DocSync
