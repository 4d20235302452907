import DocSync.Proofs.Client.WireOrder
import DocSync.Proofs.Document.Parting

/-!
# One document after the other

The documents of one URI share the server's view of it. Each of them speaks by itself in the order
of a dialogue, and together they make up whole sessions, one after the other, exactly if a document
is only opened on the server when all that were opened there before under its URI are closed there.
-/
namespace DocSync

/-- The notifications about one URI, in the order in which they were handed over. -/
def wireOf (u : Uri) (history : List Entry) : List Notification :=
  history.filterMap fun x => x.event.handed?.filter fun n => n.uri = u

/-- Sessions about one URI, notification by notification, and whether the last one is unfinished. -/
inductive Sessions : Bool → List Notification → Prop
  | nil : Sessions false []
  | opening {ns : List Notification} {n : Notification} (h : Sessions false ns)
      (hn : n.isOpening = true) : Sessions true (ns ++ [n])
  | update {ns : List Notification} {n : Notification} (h : Sessions true ns)
      (hn : n.isUpdate = true) : Sessions true (ns ++ [n])
  | closing {ns : List Notification} (h : Sessions true ns) (uri : Uri) :
      Sessions false (ns ++ [.didClose uri])

/-- Whenever a document of a URI is opened on the server, all documents that were opened there under
that URI before are closed there. -/
def InTurn (u : Uri) (history : List Entry) : Prop :=
  ∀ before t id n after, history = before ++ ⟨t, id, .handed n⟩ :: after → n.isOpening = true →
    n.uri = u → ∀ other : DocumentId, other.uri = u → (logOf other before).Opened →
      (logOf other before).Ended

/-- What a history is like as far as each document by itself goes. -/
structure Tidy (u : Uri) (history : List Entry) : Prop where
  about : ∀ x ∈ history, ∀ n, x.event = .handed n → n.uri = x.document.uri
  dialogue : ∀ id : DocumentId, id.uri = u →
    ∃ s, Dialogue true s ∧ (logOf id history).handed <+: s

theorem Tidy.left {u : Uri} {h k : List Entry} (ht : Tidy u (h ++ k)) : Tidy u h := by
  refine ⟨fun x hx => ht.about x (List.mem_append_left k hx), fun id hid => ?_⟩
  obtain ⟨s, hs, hbegins⟩ := ht.dialogue id hid
  rw [logOf_append, Log.handed_append] at hbegins
  exact ⟨s, hs, (List.prefix_append _ _).trans hbegins⟩

theorem Tidy.last {u : Uri} {h : List Entry} {t : Nat} {id : DocumentId} {n : Notification}
    (ht : Tidy u (h ++ [⟨t, id, .handed n⟩])) : n.uri = id.uri :=
  ht.about ⟨t, id, .handed n⟩ (by simp) n rfl

theorem Sessions.concat_inv {b : Bool} {ns : List Notification} {n : Notification}
    (h : Sessions b (ns ++ [n])) :
    (n.isOpening = true ∧ b = true ∧ Sessions false ns) ∨
      (n.isUpdate = true ∧ b = true ∧ Sessions true ns) ∨
      ∃ uri, n = .didClose uri ∧ b = false ∧ Sessions true ns := by
  generalize hms : ns ++ [n] = ms at h
  cases h with
  | nil => simp at hms
  | opening h hn =>
    obtain ⟨rfl, rfl⟩ := List.append_singleton_inj.mp hms
    exact .inl ⟨hn, rfl, h⟩
  | update h hn =>
    obtain ⟨rfl, rfl⟩ := List.append_singleton_inj.mp hms
    exact .inr (.inl ⟨hn, rfl, h⟩)
  | closing h uri =>
    obtain ⟨rfl, rfl⟩ := List.append_singleton_inj.mp hms
    exact .inr (.inr ⟨uri, rfl, rfl, h⟩)

theorem Sessions.left {b : Bool} {ns ms : List Notification} (h : Sessions b (ns ++ ms)) :
    ∃ b, Sessions b ns := by
  induction ms using List.reverseRecOn generalizing b with
  | nil => exact ⟨b, by rwa [List.append_nil] at h⟩
  | append_singleton ms m ih =>
    rw [← List.append_assoc] at h
    rcases h.concat_inv with ⟨-, -, h⟩ | ⟨-, -, h⟩ | ⟨-, -, -, h⟩
    · exact ih h
    · exact ih h
    · exact ih h

/-- A second session does not begin before the first one is complete. -/
theorem not_sessions_of_openings {first second : Notification} (hf : first.isOpening = true)
    (hs : second.isOpening = true) (rest : List Notification) (b : Bool) :
    ¬ Sessions b (first :: second :: rest) := by
  have hnot {n : Notification} (hn : n.isOpening = true) {b : Bool} {ns : List Notification}
      (h : Sessions b (ns ++ [n])) : b = true ∧ Sessions false ns := by
    rcases h.concat_inv with ⟨-, hb, h⟩ | ⟨hu, -, -⟩ | ⟨uri, rfl, -, -⟩
    · exact ⟨hb, h⟩
    · rw [Notification.isUpdate_not_opening hu] at hn
      cases hn
    · cases hn
  intro h
  obtain ⟨b', h⟩ := (show Sessions b (([first] ++ [second]) ++ rest) from h).left
  obtain ⟨hb, -⟩ := hnot hf (show Sessions false ([] ++ [first]) from (hnot hs h).2)
  cases hb

/-! ## All documents of a URI -/

/-- Which documents of a URI are open on the server: none, or a single one. -/
def Standing (u : Uri) (history : List Entry) : Bool → Prop
  | false => ∀ id : DocumentId, id.uri = u → (logOf id history).Opened → (logOf id history).Ended
  | true => ∃ id : DocumentId, id.uri = u ∧ (logOf id history).Opened ∧
      ¬ (logOf id history).Ended ∧ ∀ other : DocumentId, other.uri = u → other ≠ id →
        (logOf other history).Opened → (logOf other history).Ended

theorem Standing.congr {u : Uri} {h k : List Entry}
    (hsame : ∀ id : DocumentId, id.uri = u → (logOf id h).handed = (logOf id k).handed) {b : Bool}
    (hs : Standing u k b) : Standing u h b := by
  cases b with
  | false =>
    intro id hid ho
    rw [Log.Ended.congr (hsame id hid)]
    exact hs id hid ((Log.Opened.congr (hsame id hid)).mp ho)
  | true =>
    obtain ⟨id, hid, ho, he, hothers⟩ := hs
    refine ⟨id, hid, (Log.Opened.congr (hsame id hid)).mpr ho, ?_, fun other hother hne hoo => ?_⟩
    · rwa [Log.Ended.congr (hsame id hid)]
    · rw [Log.Ended.congr (hsame other hother)]
      exact hothers other hother hne ((Log.Opened.congr (hsame other hother)).mp hoo)

theorem handed_concat_self (id : DocumentId) (h : List Entry) (t : Nat) (n : Notification) :
    (logOf id (h ++ [⟨t, id, .handed n⟩])).handed = (logOf id h).handed ++ [n] := by
  simp [logOf, Log.handed, Event.handed?]

theorem handed_concat_other {id other : DocumentId} (hne : id ≠ other) (h : List Entry) (t : Nat)
    (e : Event) : (logOf other (h ++ [⟨t, id, e⟩])).handed = (logOf other h).handed := by
  simp [logOf, hne]

theorem handed_concat_unhanded (other : DocumentId) (h : List Entry) {x : Entry}
    (hx : x.event.handed? = none) :
    (logOf other (h ++ [x])).handed = (logOf other h).handed := by
  by_cases hid : x.document = other <;> simp [logOf, Log.handed, hid, hx]

/-- A document that was not heard of for a while was not heard of in any part of it. -/
theorem handed_between {id : DocumentId} {h start rest : List Entry}
    (hquiet : (logOf id (h ++ (start ++ rest))).handed = (logOf id h).handed) :
    (logOf id (h ++ start)).handed = (logOf id h).handed ∧ (logOf id rest).handed = [] := by
  rw [logOf_append, Log.handed_append, List.append_right_eq_self, logOf_append, Log.handed_append,
    List.append_eq_nil_iff] at hquiet
  exact ⟨by rw [logOf_append, Log.handed_append, hquiet.1, List.append_nil], hquiet.2⟩

theorem wireOf_concat (u : Uri) (h : List Entry) (t : Nat) (id : DocumentId) {n : Notification}
    (hn : n.uri = u) : wireOf u (h ++ [⟨t, id, .handed n⟩]) = wireOf u h ++ [n] := by
  simp [wireOf, Event.handed?, Option.filter, hn]

theorem opened_concat (id : DocumentId) (h : List Entry) (t : Nat) (n : Notification) :
    (logOf id (h ++ [⟨t, id, .handed n⟩])).Opened ↔
      (logOf id h).Opened ∨ n.isOpening = true := by
  rw [Log.Opened, handed_concat_self, Log.Opened]
  simp [or_and_right, exists_or]

theorem ended_concat (id : DocumentId) (h : List Entry) (t : Nat) (n : Notification) :
    (logOf id (h ++ [⟨t, id, .handed n⟩])).Ended ↔
      (logOf id h).Ended ∨ ∃ uri, n = .didClose uri := by
  rw [Log.Ended, handed_concat_self, Log.Ended]
  simp [exists_or, eq_comm]

theorem InTurn.left {u : Uri} {h k : List Entry} (hi : InTurn u (h ++ k)) : InTurn u h :=
  fun before t id n after heq => hi before t id n (after ++ k) (by simp [heq])

theorem InTurn.concat {u : Uri} {h : List Entry} (hi : InTurn u h) {x : Entry}
    (hx : ∀ n, x.event = .handed n → n.isOpening = true → n.uri = u → Standing u h false) :
    InTurn u (h ++ [x]) := by
  intro before t id n after heq hn hu other hother ho
  rcases Log.cut_append heq with ⟨rest, hrest⟩ | ⟨start, rfl, hstart⟩
  · exact hi before t id n rest hrest hn hu other hother ho
  · cases start with
    | nil =>
      rw [List.nil_append, List.cons.injEq] at hstart
      obtain ⟨rfl, -⟩ := hstart
      rw [List.append_nil] at ho ⊢
      exact hx n rfl hn hu other hother ho
    | cons y start => simp at hstart

/-- A document that is opened was not heard of before. -/
theorem Tidy.opening_first {u : Uri} {h k : List Entry} {t : Nat} {id : DocumentId}
    {n : Notification} (ht : Tidy u (h ++ ⟨t, id, .handed n⟩ :: k)) (hid : id.uri = u)
    (hn : n.isOpening = true) : (logOf id h).handed = [] := by
  rw [List.append_cons] at ht
  obtain ⟨s, hdialogue, hbegins⟩ := ht.left.dialogue id hid
  rw [handed_concat_self] at hbegins
  exact hdialogue.eq_nil_of_opening hbegins hn

theorem Standing.opening {u : Uri} {h : List Entry} {t : Nat} {id : DocumentId} {n : Notification}
    (hs : Standing u h false) (ht : Tidy u (h ++ [⟨t, id, .handed n⟩])) (hid : id.uri = u)
    (hn : n.isOpening = true) : Standing u (h ++ [⟨t, id, .handed n⟩]) true := by
  have hall : (logOf id (h ++ [⟨t, id, .handed n⟩])).handed = [n] := by
    rw [handed_concat_self, ht.opening_first hid hn, List.nil_append]
  refine ⟨id, hid, ⟨n, hall ▸ List.mem_singleton_self n, hn⟩, ?_, fun other hother hne ho => ?_⟩
  · rintro ⟨uri, hmem⟩
    rw [hall, List.mem_singleton] at hmem
    subst hmem
    cases hn
  · have hsame := handed_concat_other (Ne.symm hne) h t (.handed n)
    rw [Log.Ended.congr hsame]
    exact hs other hother ((Log.Opened.congr hsame).mp ho)

theorem open_of_not_opening {u : Uri} {h : List Entry} {t : Nat} {id : DocumentId}
    {n : Notification} (ht : Tidy u (h ++ [⟨t, id, .handed n⟩])) (hid : id.uri = u)
    (hn : n.isOpening = false) : (logOf id h).Opened ∧ ¬ (logOf id h).Ended := by
  obtain ⟨s, hdialogue, hbegins⟩ := ht.dialogue id hid
  rw [handed_concat_self] at hbegins
  obtain ⟨hopened, hended⟩ := hdialogue.underway_of_not_opening hbegins hn
  exact ⟨hopened, fun ⟨uri, hmem⟩ => hended uri hmem⟩

theorem Standing.update {u : Uri} {h : List Entry} {t : Nat} {id : DocumentId} {n : Notification}
    (hs : Standing u h true) (hn : n.isUpdate = true) :
    Standing u (h ++ [⟨t, id, .handed n⟩]) true := by
  have hopened (other : DocumentId) :
      (logOf other (h ++ [⟨t, id, .handed n⟩])).Opened ↔ (logOf other h).Opened := by
    by_cases hne : id = other
    · subst hne
      simp [opened_concat, Notification.isUpdate_not_opening hn]
    · exact Log.Opened.congr (handed_concat_other hne h t _)
  have hended (other : DocumentId) :
      (logOf other (h ++ [⟨t, id, .handed n⟩])).Ended ↔ (logOf other h).Ended := by
    by_cases hne : id = other
    · subst hne
      have hno : ¬ ∃ uri, n = .didClose uri := by
        rintro ⟨uri, rfl⟩
        cases hn
      simp [ended_concat, hno]
    · exact Log.Ended.congr (handed_concat_other hne h t _)
  obtain ⟨open_, hopen, ho, he, hothers⟩ := hs
  refine ⟨open_, hopen, (hopened open_).mpr ho, fun h => he ((hended open_).mp h), ?_⟩
  intro other hother hne hoo
  exact (hended other).mpr (hothers other hother hne ((hopened other).mp hoo))

theorem Standing.closing {u v : Uri} {h : List Entry} {t : Nat} {id : DocumentId}
    (hs : Standing u h true) (ht : Tidy u (h ++ [⟨t, id, .handed (.didClose v)⟩]))
    (hid : id.uri = u) : Standing u (h ++ [⟨t, id, .handed (.didClose v)⟩]) false := by
  obtain ⟨hopened, hended⟩ := open_of_not_opening ht hid rfl
  obtain ⟨open_, hopen, ho, he, hothers⟩ := hs
  intro other hother hoo
  by_cases hne : id = other
  · subst hne
    exact (ended_concat id h t _).mpr (.inr ⟨v, rfl⟩)
  · have hsame := handed_concat_other hne h t (.handed (.didClose v))
    have hoo' := (Log.Opened.congr hsame).mp hoo
    rw [Log.Ended.congr hsame]
    by_cases hlast : other = open_
    · -- The document that is open is the one that speaks, so another one has ended.
      subst hlast
      exact absurd (hothers id hid hne hopened) hended
    · exact hothers other hother hlast hoo'

theorem Standing.not_both {u : Uri} {h : List Entry} (ho : Standing u h true) :
    ¬ Standing u h false := by
  obtain ⟨id, hid, hopened, hended, -⟩ := ho
  exact fun hc => hended (hc id hid hopened)

theorem unconcerned {u : Uri} {h : List Entry} {x : Entry} (ht : Tidy u (h ++ [x]))
    (hx : ∀ n, x.event = .handed n → n.uri ≠ u) :
    wireOf u (h ++ [x]) = wireOf u h ∧
      ∀ id : DocumentId, id.uri = u → (logOf id (h ++ [x])).handed = (logOf id h).handed := by
  obtain ⟨t, document, event⟩ := x
  cases event with
  | handed n =>
    have hn : n.uri ≠ u := hx n rfl
    refine ⟨by simp [wireOf, Event.handed?, Option.filter, hn], fun id hid => ?_⟩
    apply handed_concat_other
    rintro rfl
    exact hn (ht.last.trans hid)
  | _ => exact ⟨by simp [wireOf, Event.handed?], fun id _ => handed_concat_unhanded id h rfl⟩

/-- Where the notifications about a URI make up sessions, the documents took turns, and a document
is open on the server as long as the last session is unfinished. -/
theorem Sessions.standing {u : Uri} {h : List Entry} (ht : Tidy u h) {b : Bool}
    (hs : Sessions b (wireOf u h)) : InTurn u h ∧ Standing u h b := by
  -- The last entry extends the last session, so the history is taken apart from its end.
  induction h using List.reverseRecOn generalizing b with
  | nil =>
    have hb : b = false := by
      cases b with
      | false => rfl
      | true =>
        generalize hns : wireOf u [] = ns at hs
        cases hs <;> simp [wireOf] at hns
    subst hb
    refine ⟨fun before t id n after heq => by simp at heq, fun id _ ho => ?_⟩
    simp [logOf, Log.Opened] at ho
  | append_singleton h x ih =>
    by_cases hx : ∃ n, x.event = .handed n ∧ n.uri = u
    · obtain ⟨t, id, event⟩ := x
      obtain ⟨n, rfl, hu⟩ := hx
      have hid : id.uri = u := ht.last.symm.trans hu
      rw [wireOf_concat u h t id hu] at hs
      rcases hs.concat_inv with ⟨hn, rfl, hbefore⟩ | ⟨hn, rfl, hbefore⟩ | ⟨v, rfl, rfl, hbefore⟩
      · obtain ⟨hturn, hstanding⟩ := ih ht.left hbefore
        exact ⟨hturn.concat fun _ _ _ _ => hstanding, hstanding.opening ht hid hn⟩
      · obtain ⟨hturn, hstanding⟩ := ih ht.left hbefore
        refine ⟨hturn.concat ?_, hstanding.update hn⟩
        rintro m hm ho -
        cases hm
        rw [Notification.isUpdate_not_opening hn] at ho
        cases ho
      · obtain ⟨hturn, hstanding⟩ := ih ht.left hbefore
        refine ⟨hturn.concat ?_, hstanding.closing ht hid⟩
        rintro m hm ho -
        cases hm
        cases ho
    · have hx' : ∀ n, x.event = .handed n → n.uri ≠ u := fun n hn hu => hx ⟨n, hn, hu⟩
      obtain ⟨hwire, hsame⟩ := unconcerned ht hx'
      rw [hwire] at hs
      obtain ⟨hturn, hstanding⟩ := ih ht.left hs
      exact ⟨hturn.concat fun n hn _ hu => absurd hu (hx' n hn), hstanding.congr hsame⟩

/-- Documents that take turns make up sessions. -/
theorem InTurn.sessions {u : Uri} {h : List Entry} (ht : Tidy u h) (hi : InTurn u h) :
    ∃ b, Sessions b (wireOf u h) := by
  induction h using List.reverseRecOn with
  | nil => exact ⟨false, .nil⟩
  | append_singleton h x ih =>
    obtain ⟨b, hs⟩ := ih ht.left hi.left
    -- Whether the last session is unfinished says whether a document is open on the server.
    obtain ⟨-, hstanding⟩ := hs.standing ht.left
    by_cases hx : ∃ n, x.event = .handed n ∧ n.uri = u
    · obtain ⟨t, id, event⟩ := x
      obtain ⟨n, rfl, hu⟩ := hx
      have hid : id.uri = u := ht.last.symm.trans hu
      rw [wireOf_concat u h t id hu]
      cases hn : n.isOpening with
      | true =>
        have hnone : Standing u h false := fun other hother =>
          hi h t id n [] rfl hn hu other hother
        cases b with
        | false => exact ⟨true, hs.opening hn⟩
        | true => exact absurd hnone hstanding.not_both
      | false =>
        obtain ⟨hopened, hended⟩ := open_of_not_opening ht hid hn
        cases b with
        | false => exact absurd (hstanding id hid hopened) hended
        | true =>
          cases n with
          | didOpen => cases hn
          | didChange => exact ⟨true, hs.update rfl⟩
          | didSave => exact ⟨true, hs.update rfl⟩
          | didClose v => exact ⟨false, hs.closing v⟩
    · have hx' : ∀ n, x.event = .handed n → n.uri ≠ u := fun n hn hu => hx ⟨n, hn, hu⟩
      rw [(unconcerned ht hx').1]
      exact ⟨b, hs⟩

theorem sessions_iff_inTurn {u : Uri} {h : List Entry} (ht : Tidy u h) :
    (∃ b, Sessions b (wireOf u h)) ↔ InTurn u h :=
  ⟨fun ⟨_, hs⟩ => (hs.standing ht).1, fun hi => hi.sessions ht⟩

end DocSync
