import DocSync.Proofs.Document.Ledger

/-!
# What a document ever had to say

Every move may have a document queue something. All that a run had it queue is the document's
ledger, as long as the handshake did not fail; after that the ledger is cut short. The versions of
what was queued count up from one, and the last of them is the version of the document.
-/
namespace DocSync

def Version.upTo (k : Nat) : List Version := (List.range k).map fun i : Nat => ⟨(i : Int) + 1⟩

theorem Version.upTo_succ (k : Nat) : upTo (k + 1) = upTo k ++ [⟨k + 1⟩] := by
  simp [upTo, List.range_succ]

theorem Version.upTo_increasing (k : Nat) :
    (upTo k).Pairwise fun v w => v.value < w.value := by
  rw [upTo, List.pairwise_map]
  refine List.pairwise_lt_range.imp fun {i j} (hlt : i < j) => ?_
  dsimp only
  omega

theorem Version.prefix_upTo {vs : List Version} {k : Nat} (h : vs <+: upTo k) :
    vs = upTo vs.length := by
  have hlen : vs.length ≤ k := by simpa [upTo] using h.length_le
  obtain ⟨rest, hrest⟩ := h
  have htake : vs = (upTo k).take vs.length := by simp [← hrest]
  rw [htake, upTo, ← List.map_take, List.take_range, Nat.min_eq_left hlen]
  simp [upTo]

def versionsOf (ns : List Notification) : List Version := ns.filterMap Notification.version?

@[simp] theorem versionsOf_append (ns ms : List Notification) :
    versionsOf (ns ++ ms) = versionsOf ns ++ versionsOf ms := List.filterMap_append

open Document (Call Step Keeps)

namespace Client

/-- The notifications that a move has a document queue. -/
def queues (c : Client) (id : DocumentId) (m : Move) : List Notification :=
  match c.find? id with
  | none => []
  | some d => (m.work c.env.session.active d).backlog.drop d.backlog.length

/-- The notifications that a run had a document queue, the oldest first. -/
def spoken (c : Client) (id : DocumentId) : List Move → List Notification
  | [] => []
  | m :: ms => c.queues id m ++ spoken (c.move m) id ms

theorem spoken_append (c : Client) (id : DocumentId) (ms ns : List Move) :
    c.spoken id (ms ++ ns) = c.spoken id ms ++ (c.play ms).spoken id ns := by
  induction ms generalizing c with
  | nil => rfl
  | cons m ms ih => simp [spoken, ih]

theorem spoken_concat (c : Client) (id : DocumentId) (ms : List Move) (m : Move) :
    c.spoken id (ms ++ [m]) = c.spoken id ms ++ (c.play ms).queues id m := by
  simp [spoken_append, spoken]

end Client

namespace Document

/-- A document with its log, and all that it ever queued. -/
structure Speaks (d : Document) (l : Log) (spoken : List Notification) : Prop where
  ledger : d.ledger l <+: spoken
  complete : d.isRefused = false → d.ledger l = spoken
  versions : versionsOf spoken = Version.upTo (versionsOf spoken).length
  version : d.version = ⟨(versionsOf spoken).length⟩

theorem versionsOf_single {n : Notification} {v : Version} (h : n.version? = some v) :
    versionsOf [n] = [v] := by
  simp [versionsOf, h]

theorem versionsOf_plain {n : Notification} (h : n.version? = none) : versionsOf [n] = [] := by
  simp [versionsOf, h]

/-- The last version of the beginning of what was spoken tells all of them. -/
theorem versionsOf_concat {ns spoken : List Notification} {n : Notification} {k : Nat}
    (h : ns ++ [n] <+: spoken)
    (hspoken : versionsOf spoken = Version.upTo (versionsOf spoken).length)
    (hn : n.version? = some ⟨k⟩) : versionsOf (ns ++ [n]) = Version.upTo k := by
  have hbegins : versionsOf (ns ++ [n]) <+: versionsOf spoken := h.filterMap _
  rw [hspoken] at hbegins
  have hall := Version.prefix_upTo hbegins
  rw [versionsOf_append, versionsOf_single hn, List.length_append, List.length_singleton,
    Version.upTo_succ] at hall
  have hlast := (List.append_inj' hall rfl).2
  simp only [List.cons.injEq, Version.mk.injEq, and_true] at hlast
  have hk : k = (versionsOf ns).length + 1 := by omega
  rw [versionsOf_append, versionsOf_single hn, hall, ← Version.upTo_succ, hk]

/-- What a document says as it stamps a version carries that version alone. -/
theorem Speaks.versionsOf_added {d d' : Document} {l : Log}
    {spoken added : List Notification} (h : Speaks d l spoken)
    (h' : Speaks d' l (spoken ++ added)) {stamps : Bool}
    (hv : d'.version = if stamps = true then d.version.next else d.version) :
    versionsOf added = if stamps = true then [d.version.next] else [] := by
  have hlength : (versionsOf added).length = if stamps = true then 1 else 0 := by
    have hnext := congrArg Version.value h'.version
    rw [hv, versionsOf_append, List.length_append] at hnext
    have hvalue : d.version.value = (versionsOf spoken).length := congrArg Version.value h.version
    cases stamps with
    | false =>
      simp only [Bool.false_eq_true, if_false] at hnext ⊢
      omega
    | true =>
      simp only [if_true, Version.next] at hnext ⊢
      omega
  have hall := h'.versions
  rw [versionsOf_append, List.length_append] at hall
  cases stamps with
  | false => exact List.length_eq_zero_iff.mp hlength
  | true =>
    rw [hlength, if_pos rfl, Version.upTo_succ, ← h.versions] at hall
    rw [List.append_cancel_left hall, h.version]
    rfl

theorem Speaks.concat {d d' : Document} {l : Log} {spoken : List Notification} {n : Notification}
    (h : Speaks d l spoken) (hr : d.isRefused = false)
    (hledger : d'.ledger l = d.ledger l ++ [n])
    (hversion : n.version? = none ∧ d'.version = d.version ∨
      n.version? = some d.version.next ∧ d'.version = d.version.next) :
    Speaks d' l (spoken ++ [n]) := by
  have hall : d'.ledger l = spoken ++ [n] := by rw [hledger, h.complete hr]
  refine ⟨hall ▸ List.prefix_rfl, fun _ => hall, ?_, ?_⟩
  · rcases hversion with ⟨hn, -⟩ | ⟨hn, -⟩
    · rw [versionsOf_append, versionsOf_plain hn, List.append_nil]
      exact h.versions
    · rw [versionsOf_append, versionsOf_single hn, List.length_append, List.length_singleton,
        Version.upTo_succ, ← h.versions, h.version]
      rfl
  · rcases hversion with ⟨hn, hd⟩ | ⟨hn, hd⟩
    · rw [versionsOf_append, versionsOf_plain hn, List.append_nil, hd, h.version]
    · rw [versionsOf_append, versionsOf_single hn, List.length_append, List.length_singleton, hd,
        h.version]
      rfl

theorem Speaks.same {d d' : Document} {l : Log} {spoken : List Notification} (h : Speaks d l spoken)
    (hledger : d'.ledger l = d.ledger l) (hr : d'.isRefused = d.isRefused)
    (hversion : d'.version = d.version) : Speaks d' l spoken := by
  refine ⟨hledger ▸ h.ledger, fun hd => ?_, h.versions, hversion.trans h.version⟩
  rw [hledger]
  exact h.complete (hr ▸ hd)

/-- What is queued after the handshake failed adds to what was spoken alone. -/
theorem Speaks.vain {d d' : Document} {l : Log} {spoken : List Notification} {n : Notification}
    (h : Speaks d l spoken) (hr : d.isRefused = true) (hledger : d'.ledger l = d.ledger l)
    (hr' : d'.isRefused = d.isRefused) (hn : n.version? = none) (hversion : d'.version = d.version) :
    Speaks d' l (spoken ++ [n]) := by
  have hversions : versionsOf (spoken ++ [n]) = versionsOf spoken := by
    rw [versionsOf_append, versionsOf_plain hn, List.append_nil]
  refine ⟨?_, fun hd => ?_, ?_, ?_⟩
  · rw [hledger]
    exact h.ledger.trans (List.prefix_append _ _)
  · cases hr.symm.trans (hr'.symm.trans hd)
  · rw [hversions]
    exact h.versions
  · rw [hversions]
    exact hversion.trans h.version

theorem Speaks.call {active : Bool} {d d' : Document} {l : Log} {spoken : List Notification}
    (h : Speaks d l spoken) (hk : Keeps d (d.ledger l)) (hc : Call active d d') :
    ∃ added, d'.backlog = d.backlog ++ added ∧ Speaks d' l (spoken ++ added) := by
  cases hc with
  | begin hp =>
    obtain ⟨hwriter, hlog, hbacklog⟩ := hk.blank hp
    have hr : d.isRefused = false := by simp [isRefused, hwriter]
    have hbefore : d.ledger l = [] := by
      rw [Document.ledger, hlog, unsent_eq_backlog hr, hbacklog, List.append_nil]
    have hledger := hk.ledger_beginOpen hp
    rw [backlog_beginOpen hp hbacklog, hbacklog]
    refine ⟨d.greetings, rfl, ?_⟩
    rw [greetings] at hledger ⊢
    cases ho : d.policy.openClose with
    | false =>
      rw [ho, if_neg (by simp)] at hledger
      rw [if_neg (by simp), List.append_nil]
      refine h.same (hledger.trans hbefore.symm) ?_ ?_
      · simp [beginOpen_eq hp, ho, isRefused, hwriter]
      · simp [beginOpen_eq hp, ho]
    | true =>
      rw [ho, if_pos rfl] at hledger
      rw [if_pos rfl]
      refine h.concat hr (by rw [hledger, hbefore, List.nil_append]) (.inr ⟨rfl, ?_⟩)
      simp [beginOpen_eq hp, ho]
  | write buffer initialText pending =>
    refine ⟨[], (List.append_nil _).symm, ?_⟩
    rw [List.append_nil]
    exact h.same rfl rfl rfl
  | change ha hp =>
    exact ⟨[_], backlog_push _ _, h.concat (acceptsOutgoing_phase ha).2 (ledger_sendChanges ha l)
      (.inr ⟨rfl, rfl⟩)⟩
  | save ha hs text =>
    exact ⟨[_], backlog_push _ _, h.concat (acceptsOutgoing_phase ha).2 (ledger_push ha _ l)
      (.inl ⟨rfl, rfl⟩)⟩
  | vain ha hr hl hs text =>
    exact ⟨[_], backlog_push _ _, h.vain hr (ledger_push_refused hr _ l) rfl rfl rfl⟩
  | close ha ho hs =>
    exact ⟨[_], backlog_push d _, h.concat (acceptsOutgoing_phase ha).2
      ((ledger_shut _ l).trans (ledger_push ha _ l)) (.inl ⟨rfl, rfl⟩)⟩
  | abandon hc =>
    refine ⟨[], (List.append_nil _).symm, ?_⟩
    rw [List.append_nil]
    exact h.same rfl rfl rfl

theorem Speaks.step {now : Nat} {supported : Bool} {d d' : Document} {es : List Event} {l : Log}
    {spoken : List Notification} (h : Speaks d l spoken) (hs : Step now supported d es d') :
    Speaks d' (l ++ es.map (now, ·)) spoken := by
  have hversion := hs.sameText.version.trans h.version
  rcases hs.ledger l with heq | ⟨hr, hbegins⟩
  · refine ⟨heq ▸ h.ledger, fun hd => ?_, h.versions, hversion⟩
    rw [heq]
    apply h.complete
    by_contra hn
    exact absurd (hs.isRefused (by simpa using hn)) (by simp [hd])
  · exact ⟨hbegins.trans h.ledger, fun hd => by simp [hr] at hd, h.versions, hversion⟩

theorem speaks_new {d : Document} (h : d.IsNew) : Speaks d [] [] := by
  rw [h]
  exact ⟨List.prefix_rfl, fun _ => rfl, rfl, rfl⟩

/-- What holds of a document, its log and all that it ever queued: nothing at first, and a call may
add to it. -/
structure Account (P : Document → Log → List Notification → Nat → Prop) : Prop where
  new : ∀ {d now}, d.IsNew → P d [] [] now
  call : ∀ {active d d' l spoken now}, Call active d d' → P d l spoken now →
    ∃ added, d'.backlog = d.backlog ++ added ∧ P d' l (spoken ++ added) now
  step : ∀ {now supported d es d' l spoken}, Step now supported d es d' → P d l spoken now →
    P d' (l ++ es.map (now, ·)) spoken now
  wait : ∀ {now later d l spoken}, now ≤ later → d.Until later → P d l spoken now →
    P d l spoken later

namespace Account

variable {P : Document → Log → List Notification → Nat → Prop} (hP : Account P)
include hP

theorem work {d : Document} {l : Log} {spoken : List Notification} {now : Nat}
    (h : P d l spoken now) (active : Bool) (m : Client.Move) : ∃ added,
      (m.work active d).backlog = d.backlog ++ added ∧
        P (m.work active d) l (spoken ++ added) now := by
  refine m.work_induct (P := fun e => ∃ added, e.backlog = d.backlog ++ added ∧
    P e l (spoken ++ added) now) ?_ ⟨[], (List.append_nil _).symm, by rwa [List.append_nil]⟩
  rintro e e' hc ⟨added, hadded, he⟩
  obtain ⟨more, hmore, he'⟩ := hP.call hc he
  refine ⟨added ++ more, ?_, ?_⟩
  · rw [hmore, hadded, List.append_assoc]
  · rwa [← List.append_assoc]

theorem course {now later : Nat} {supported : Bool} {d d' : Document} {l k : Log}
    {spoken : List Notification} (h : P d l spoken now) (hc : Course supported now d k later d') :
    P d' (l ++ k) spoken later :=
  Course.induct (P := fun d l now => P d l spoken now) hP.step hP.wait hc h

end Account

theorem speaks_account :
    Account fun d l spoken _ => Keeps d (d.ledger l) ∧ Speaks d l spoken where
  new h := ⟨keeps_new h, speaks_new h⟩
  call hc h := by
    obtain ⟨added, hadded, hs⟩ := h.2.call h.1 hc
    exact ⟨added, hadded, h.1.call hc, hs⟩
  step hs h := ⟨h.1.step hs, h.2.step hs⟩
  wait _ _ h := h

end Document

namespace Client

theorem queues_eq {c : Client} (hc : c.ids.Nodup) {d : Document} (hd : d ∈ c.documents) {m : Move}
    {added : List Notification}
    (h : (m.work c.env.session.active d).backlog = d.backlog ++ added) :
    c.queues d.id m = added := by
  rw [queues, find?_of_mem hc hd]
  dsimp only
  rw [h, List.drop_left]

theorem queues_unknown {c : Client} {id : DocumentId} (h : id ∉ c.ids) (m : Move) :
    c.queues id m = [] := by
  unfold queues
  split
  · rfl
  · rename_i d hf
    obtain ⟨hd, hid⟩ := find?_eq_some hf
    exact absurd (hid ▸ mem_ids hd) h

theorem spoken_unknown (env : Environment) (ms : List Move) (id : DocumentId)
    (h : id ∉ ((start env).play ms).ids) : (start env).spoken id ms = [] := by
  induction ms using List.reverseRecOn with
  | nil => rfl
  | append_singleton ms m ih =>
    have hsound := sound_play env ms
    rw [play_concat] at h
    have hbefore : id ∉ ((start env).play ms).ids := fun hmem => h (ids_subset_move hsound m hmem)
    rw [spoken_concat, ih hbefore, queues_unknown hbefore, List.append_nil]

end Client

namespace Document.Account

open Client (Move queues_eq queues_unknown spoken_concat spoken_unknown sound_play play_concat
  start)

variable {P : Document → Log → List Notification → Nat → Prop} (hP : Account P)
include hP

theorem queues {c : Client} (hc : c.ids.Nodup) {d : Document} (hd : d ∈ c.documents) {l : Log}
    {spoken : List Notification} {now : Nat} (h : P d l spoken now) (m : Move) :
    P (m.work c.env.session.active d) l (spoken ++ c.queues d.id m) now := by
  obtain ⟨added, hadded, hm⟩ := hP.work h c.env.session.active m
  rwa [queues_eq hc hd hadded]

/-- An account holds of every document at every moment of a run. -/
theorem play (env : Environment) (ms : List Move) (d : Document)
    (h : d ∈ ((start env).play ms).documents) :
    P d (((start env).play ms).log d.id) ((start env).spoken d.id ms)
      ((start env).play ms).env.now := by
  induction ms using List.reverseRecOn generalizing d with
  | nil => simp [start] at h
  | append_singleton ms m ih =>
    have hsound := sound_play env ms
    rw [play_concat] at h ⊢
    -- The move queues on the document first, and the writer works on what it queued.
    rcases hsound.source h with ⟨e, he, l, hcourse, hlog, hid⟩ | ⟨hnew, hid, hlog, -⟩
    · rw [hlog, spoken_concat, ← hid]
      exact hP.course (hP.queues hsound.distinct he (ih e he) m) hcourse
    · have hfresh : d.id ∉ ((start env).play ms).ids := hid ▸ hsound.freshId_notMem d.uri
      rw [hlog, spoken_concat, spoken_unknown env ms d.id hfresh, queues_unknown hfresh]
      exact hP.new hnew

end Document.Account

namespace Client

theorem Speaks.queues {c : Client} (hc : c.ids.Nodup) {d : Document} (hd : d ∈ c.documents)
    {l : Log} {spoken : List Notification} (h : Document.Speaks d l spoken)
    (hk : Keeps d (d.ledger l)) (m : Move) :
    Document.Speaks (m.work c.env.session.active d) l (spoken ++ c.queues d.id m) :=
  (@Document.Account.queues _ Document.speaks_account c hc d hd l spoken 0 ⟨hk, h⟩ m).2

/-- In a run, what was spoken accounts for the ledger of each document. -/
theorem speaks_play (env : Environment) (ms : List Move) (d : Document)
    (h : d ∈ ((start env).play ms).documents) :
    d.Speaks (((start env).play ms).log d.id) ((start env).spoken d.id ms) :=
  (Document.speaks_account.play env ms d h).2

end Client

end DocSync
