import DocSync.Proofs.Client.Claims
import DocSync.Proofs.Client.Handover
import DocSync.Proofs.Client.Opening
import DocSync.Proofs.Client.Refresh

/-!
# When the pull of a refresh goes out

The pull that a refresh of the workspace asks of a document goes out at once if the document is open,
and otherwise at the moment when the document comes to be open, if it ever does. So every such
refresh can be told the time of its one pull, and the pulls of a document that count for any version
are those of its refreshes.
-/
namespace DocSync.Client

def phase? (c : Client) (id : DocumentId) : Option Phase := (c.find? id).map Document.phase

/-- When a document that is being opened comes to be open, if it ever does. -/
def openedAt (c : Client) (id : DocumentId) : List Move → Option Nat
  | [] => none
  | m :: ms =>
    if c.phase? id = some .opening ∧ (c.move m).phase? id = some .opened then
      ((c.move m).log id).joined?
    else (c.move m).openedAt id ms

/-- When the pull goes out that a refresh of the workspace asks of a document, if it ever does. What
is still to come of the run begins with the refresh. -/
def dispatch (c : Client) (id : DocumentId) (ms : List Move) : Option Nat :=
  if c.env.feature.supported = true then
    match c.phase? id with
    | some .opened => some c.env.now
    | some .opening => c.openedAt id ms
    | _ => none
  else none

/-- The times of the pulls that the refreshes of the workspace in a run ask of a document. -/
def dispatches (c : Client) (id : DocumentId) : List Move → List Nat
  | [] => []
  | m :: ms =>
    (if m.refreshes id .workspace = true then c.dispatch id (m :: ms) else none).toList ++
      (c.move m).dispatches id ms

/-- How many pulls of a document wait for its handshake. -/
def claims (c : Client) (id : DocumentId) : Nat := ((c.find? id).map Document.claims).getD 0

/-- The times when pulls that wait go out. -/
def owed (n : Nat) (opened : Option Nat) : List Nat := (opened.map (List.replicate n)).getD []

@[simp] theorem owed_zero (opened : Option Nat) : owed 0 opened = [] := by
  cases opened <;> rfl

@[simp] theorem owed_none (n : Nat) : owed n none = [] := rfl

theorem owed_succ (n : Nat) (opened : Option Nat) :
    owed (n + 1) opened = owed n opened ++ opened.toList := by
  cases opened with
  | none => rfl
  | some t => exact List.replicate_succ'

theorem phase?_of_mem {c : Client} (hc : c.ids.Nodup) {d : Document} (hd : d ∈ c.documents) :
    c.phase? d.id = some d.phase := by
  rw [phase?, find?_of_mem hc hd]
  rfl

theorem claims_of_mem {c : Client} (hc : c.ids.Nodup) {d : Document} (hd : d ∈ c.documents) :
    c.claims d.id = d.claims := by
  rw [claims, find?_of_mem hc hd]
  rfl

theorem dispatch_of_mem {c : Client} (hc : c.ids.Nodup) {d : Document} (hd : d ∈ c.documents)
    (ms : List Move) :
    c.dispatch d.id ms =
      if c.env.feature.supported = true then
        match d.phase with
        | .opened => some c.env.now
        | .opening => c.openedAt d.id ms
        | _ => none
      else none := by
  rw [dispatch, phase?_of_mem hc hd]
  cases d.phase <;> rfl

theorem openedAt_of_ne {c : Client} {id : DocumentId} {m : Move}
    (h : (c.move m).phase? id ≠ some .opened) (ms : List Move) :
    c.openedAt id (m :: ms) = (c.move m).openedAt id ms := by
  rw [openedAt, if_neg fun hboth => h hboth.2]

theorem Sound.log_lasting {c : Client} (h : c.Sound) {id : DocumentId} {x : Nat × Event}
    (hx : x ∈ c.log id) (ms : List Move) : x ∈ (c.play ms).log id := by
  obtain ⟨entries, hentries⟩ := h.history_play ms
  rw [log, hentries, logOf_append]
  exact List.mem_append_left _ hx

/-- A document that is closed, or whose handshake failed, does not come to be open any more. -/
theorem openedAt_eq_none (env : Environment) (before : List Move) {d : Document}
    (hd : d ∈ ((start env).play before).documents)
    (hover : d.phase = .closed ∨ ∃ e, d.handshakeOutcome? = some (.error e)) (ms : List Move) :
    ((start env).play before).openedAt d.id ms = none := by
  have hc := sound_play env before
  have hnever (ks : List Move) :
      (((start env).play before).play ks).phase? d.id ≠ some .opened := by
    obtain ⟨e, he, hid⟩ := hc.exists_play hd ks
    rw [← hid, phase?_of_mem (hc.play ks).distinct he]
    intro hp
    have hopened : e.phase = .opened := Option.some.inj hp
    rcases hover with hclosed | ⟨f, hfailed⟩
    · cases hopened.symm.trans (hc.closed_lasting hd hclosed ks e he hid)
    · have hlasting := hc.outcome_lasting hd hfailed ks e he hid
      rw [← play_append] at he
      have hlife := Document.lifecycle_invariant.play env (before ++ ks) e he
      cases (hlife.opened hopened).symm.trans hlasting
  generalize (start env).play before = c at hnever
  induction ms generalizing c with
  | nil => rfl
  | cons m ms ih =>
    rw [openedAt_of_ne (hnever [m])]
    exact ih (c.move m) fun ks => hnever (m :: ks)

/-- A document that came to be open has a handshake that came out well at that time. -/
theorem openedAt_of_opened (env : Environment) (before ms : List Move) {id : DocumentId}
    (hp : ((start env).play before).phase? id = some .opening)
    (hp' : ((start env).play (before ++ ms)).phase? id = some .opened) :
    ∃ t, ((start env).play before).openedAt id ms = some t ∧
      (t, .handshake none) ∈ ((start env).play (before ++ ms)).log id := by
  induction ms generalizing before with
  | nil =>
    rw [List.append_nil] at hp'
    cases hp.symm.trans hp'
  | cons m ms ih =>
    have hmove : (start env).play (before ++ [m]) = ((start env).play before).move m :=
      play_concat _ _ _
    have hsplit : before ++ m :: ms = (before ++ [m]) ++ ms := by simp
    have hc := sound_play env (before ++ [m])
    rw [hsplit] at hp' ⊢
    obtain ⟨d, hd, hid⟩ : ∃ d ∈ ((start env).play before).documents, d.id = id := by
      obtain ⟨d, hf, -⟩ := Option.map_eq_some_iff.mp hp
      exact ⟨d, find?_eq_some hf⟩
    obtain ⟨e, he, heid⟩ := (sound_play env before).exists_play hd [m]
    rw [play_cons, play_nil, ← hmove] at he
    have hphase := phase?_of_mem hc.distinct he
    rw [heid, hid] at hphase
    cases hcases : e.phase with
    | unopened =>
      have hopening := phase?_of_mem (sound_play env before).distinct hd
      rw [hid, hp] at hopening
      have hbegun := (sound_play env before).phase_lasting hd
        (by simp [← Option.some.inj hopening]) [m] e (by rwa [play_cons, play_nil, ← hmove]) heid
      exact absurd hcases hbegun
    | opening =>
      obtain ⟨t, ht, hmem⟩ := ih (before ++ [m]) (by rw [hphase, hcases]) hp'
      refine ⟨t, ?_, hmem⟩
      rw [openedAt_of_ne (by rw [← hmove, hphase, hcases]; simp), ← hmove, ht]
    | opened =>
      have hopened : (((start env).play before).move m).phase? id = some .opened := by
        rw [← hmove, hphase, hcases]
      have hresolves := (Document.resolves_invariant.play env (before ++ [m]) e he).2
      have hok := (Document.lifecycle_invariant.play env (before ++ [m]) e he).opened hcases
      obtain ⟨t, ht⟩ := Log.exists_joined? (l := ((start env).play (before ++ [m])).log id) (by
        rw [← hid, ← heid, hresolves, hok]
        exact List.mem_singleton_self _)
      refine ⟨t, ?_, ?_⟩
      · rw [openedAt, if_pos ⟨hp, hopened⟩, ← hmove, ht]
      · rw [play_append]
        exact hc.log_lasting (Log.mem_of_joined? ht) ms
    | closed =>
      obtain ⟨f, hf, hfid⟩ := hc.exists_play he ms
      have hclosed := hc.closed_lasting he hcases ms f hf hfid
      have hlater := phase?_of_mem (hc.play ms).distinct hf
      rw [hfid, heid, hid, ← play_append, hp', hclosed] at hlater
      cases hlater

/-! ## Every refresh has its pull -/

theorem openedAt_of_eq {c : Client} {id : DocumentId} {m : Move}
    (h : (c.move m).phase? id = c.phase? id) (ms : List Move) :
    c.openedAt id (m :: ms) = (c.move m).openedAt id ms := by
  rw [openedAt, if_neg]
  rintro ⟨hbefore, hafter⟩
  cases hbefore.symm.trans (h.symm.trans hafter)

theorem Sound.phase?_refresh {c : Client} (h : c.Sound) (id other : DocumentId)
    (origin : RefreshOrigin) :
    (c.move (.act (.document id (.refresh origin)))).phase? other = c.phase? other := by
  rw [phase?, h.find?_refresh]
  by_cases hid : other = id
  · rw [if_pos hid, hid, phase?]
    cases c.find? id <;> rfl
  · rw [if_neg hid, phase?]

theorem Sound.unversioned_refresh {c : Client} (h : c.Sound) {d : Document} (hd : d ∈ c.documents)
    (origin : RefreshOrigin) :
    ((c.move (.act (.document d.id (.refresh origin)))).log d.id).unversioned =
      (c.log d.id).unversioned ++
        if d.pullsFor c.env.feature.supported origin = some .any then [c.env.now] else [] := by
  rw [log, h.history_refresh, logOf_append, refreshPull?, find?_of_mem h.distinct hd,
    Option.bind_some, Log.unversioned_append, log]
  refine congrArg ((logOf d.id c.env.history).unversioned ++ ·) ?_
  cases d.pullsFor c.env.feature.supported origin with
  | none => rfl
  | some v => cases v <;> simp [logOf, Log.unversioned, Event.isUnversioned]

theorem Sound.claims_refresh {c : Client} (h : c.Sound) {d : Document} (hd : d ∈ c.documents)
    (origin : RefreshOrigin) :
    (c.move (.act (.document d.id (.refresh origin)))).claims d.id = d.claims +
      if d.leavesFor c.env.feature.supported origin = some .any then 1 else 0 := by
  rw [claims, h.find?_refresh, if_pos rfl, find?_of_mem h.distinct hd]
  simp only [Option.map_some, Option.getD_some, Document.claims, List.count_append]
  by_cases hp : d.phase = .closed
  · simp [hp, Document.leavesFor]
  · rw [if_neg hp, if_neg hp]
    cases d.leavesFor c.env.feature.supported origin with
    | none => rfl
    | some v => cases v <;> rfl

/-- A refresh of the workspace is followed by one pull, at once or when the document opens. -/
theorem account_refresh (env : Environment) (before : List Move) {d : Document}
    (hd : d ∈ ((start env).play before).documents) (hopes : d.Hopes) (origin : RefreshOrigin)
    (ms : List Move) :
    let c := (start env).play before
    let m : Move := .act (.document d.id (.refresh origin))
    ((c.move m).log d.id).unversioned ++ owed ((c.move m).claims d.id)
        ((c.move m).openedAt d.id ms) =
      (c.log d.id).unversioned ++ owed d.claims (c.openedAt d.id (m :: ms)) ++
        (if m.refreshes d.id .workspace = true then c.dispatch d.id (m :: ms)
          else none).toList := by
  intro c m
  have hc : c.Sound := sound_play env before
  have hopened : c.openedAt d.id (m :: ms) = (c.move m).openedAt d.id ms :=
    openedAt_of_eq (hc.phase?_refresh d.id d.id origin) ms
  have hnever : d.isRefused = true → c.openedAt d.id (m :: ms) = none := by
    intro hr
    exact openedAt_eq_none env before hd (.inr (Document.isRefused_iff.mp hr)) (m :: ms)
  have hrefreshes : m.refreshes d.id .workspace = true ↔ origin = .workspace := by
    simp [m, Move.refreshes]
  rw [hc.unversioned_refresh hd, hc.claims_refresh hd, ← hopened, dispatch_of_mem hc.distinct hd]
  simp only [hrefreshes, Document.pullsFor_any, Document.leavesFor_any]
  generalize c.openedAt d.id (m :: ms) = opened at hnever ⊢
  -- Only a refresh of the workspace asks, and only while pulls are supported.
  by_cases hasks : c.env.feature.supported = true ∧ origin = .workspace
  · obtain ⟨hs, ho⟩ := hasks
    cases hp : d.phase with
    | unopened | closed => simp [hs, ho]
    | opened =>
      have hclaims : d.claims = 0 := by
        by_contra hne
        cases hp.symm.trans (hopes hne).1
      simp [hs, ho, hclaims]
    | opening =>
      cases hr : d.isRefused with
      | true => simp [hs, ho, hnever hr]
      | false => simp [hs, ho, owed_succ]
  · rw [if_neg fun h => hasks ⟨h.1.1, h.2⟩, if_neg fun h => hasks ⟨h.1.1, h.2⟩, ← ite_and,
      if_neg fun h => hasks ⟨h.2, h.1⟩]
    simp

/-- No other move counts as a refresh, and all pulls that wait go out when the document opens. -/
theorem account_other (env : Environment) (before : List Move) {d : Document}
    (hd : d ∈ ((start env).play before).documents) (hopes : d.Hopes) {m : Move}
    (hm : ∀ origin, m.refreshes d.id origin = false) (ms : List Move) :
    let c := (start env).play before
    ((c.move m).log d.id).unversioned ++ owed ((c.move m).claims d.id)
        ((c.move m).openedAt d.id ms) =
      (c.log d.id).unversioned ++ owed d.claims (c.openedAt d.id (m :: ms)) := by
  intro c
  have hc : c.Sound := sound_play env before
  obtain ⟨d', hd', hid, l, hl, hfares⟩ := hc.fares hd hm
  have hclaims' : (c.move m).claims d.id = d'.claims := hid ▸ claims_of_mem (hc.move m).distinct hd'
  have hphase' : (c.move m).phase? d.id = some d'.phase :=
    hid ▸ phase?_of_mem (hc.move m).distinct hd'
  have hnext (h : d'.phase ≠ .opened) : c.openedAt d.id (m :: ms) = (c.move m).openedAt d.id ms :=
    openedAt_of_ne (by rw [hphase']; simpa using h) ms
  -- A document that is closed after the move, or that failed, will not open.
  have hover (h : d'.phase = .closed ∨ ∃ e, d'.handshakeOutcome? = some (.error e)) :
      (c.move m).openedAt d.id ms = none := by
    have hplay : (start env).play (before ++ [m]) = c.move m := play_concat _ _ _
    rw [← hid, ← hplay]
    exact openedAt_eq_none env (before ++ [m]) (hplay ▸ hd') h ms
  rw [hl, Log.unversioned_append, List.append_assoc, hclaims']
  refine congrArg ((c.log d.id).unversioned ++ ·) ?_
  rcases d.work_claims c.env.session.active m with ⟨hclaims, hopening⟩ | hclosed
  · by_cases hzero : d.claims = 0
    · rw [hzero] at hclaims ⊢
      cases hfares with
      | waits hpulls _ hafter => rw [hpulls, hafter, hclaims, owed_zero, owed_zero]; rfl
      | fails e hpulls _ hafter => rw [hpulls, hafter, owed_zero, owed_zero]; rfl
      | joins time hpulls _ hafter =>
        rw [hpulls, hafter, hclaims, owed_zero, owed_zero]
        rfl
    · obtain ⟨hp, ho⟩ := hopes hzero
      obtain ⟨hworked, -⟩ := hopening hp
      cases hfares with
      | waits hpulls _ hafter hphase =>
        rw [hpulls, hafter, hclaims, hnext (by simp [hphase, hworked])]
        rfl
      | fails e hpulls _ hafter hphase _ hfailed =>
        rw [hpulls, hafter, hnext (by simp [hphase, hworked]), hover (.inr ⟨e, hfailed⟩)]
        rfl
      | joins time hpulls hjoin hafter hphase =>
        have hopened : (c.move m).phase? d.id = some .opened := by
          rw [hphase', hphase, if_pos hworked]
        have hunknown : (c.log d.id).joined? = none := by
          have hresolves := (Document.resolves_invariant.play env before d hd).2
          refine Log.joined?_eq_none ?_
          rw [hresolves, ho]
          exact List.not_mem_nil
        have hat : c.openedAt d.id (m :: ms) = some time := by
          rw [openedAt, if_pos ⟨(phase?_of_mem hc.distinct hd).trans (congrArg some hp), hopened⟩,
            hl, Log.joined?_append, hunknown, hjoin]
          rfl
        rw [hpulls, hafter, hclaims, hat, owed_zero, List.append_nil]
        rfl
  · have hstill : d'.phase = .closed ∧ d'.claims = 0 ∧ l.unversioned = [] := by
      have hnone := Document.claims_closed hclosed
      cases hfares with
      | waits hpulls _ hafter hphase => exact ⟨hphase.trans hclosed, hafter.trans hnone, hpulls⟩
      | fails e hpulls _ hafter hphase => exact ⟨hphase.trans hclosed, hafter, hpulls⟩
      | joins time hpulls _ hafter hphase =>
        rw [hnone] at hpulls
        exact ⟨by rw [hphase, hclosed]; rfl, hafter, hpulls⟩
    obtain ⟨hphase, hnone, hpulls⟩ := hstill
    rw [hpulls, hnone, hnext (by simp [hphase]), hover (.inl hphase)]
    rfl

/-- Pulls only wait for a handshake that is still to come. -/
theorem hopes_play (env : Environment) (ms : List Move) :
    ∀ d ∈ ((start env).play ms).documents, d.Hopes := by
  induction ms using List.reverseRecOn with
  | nil => simp [start]
  | append_singleton ms m ih =>
    intro d' hd'
    have hc := sound_play env ms
    rw [play_concat] at hd'
    rcases hc.source hd' with ⟨d, hd, -, -, -, hid⟩ | ⟨hnew, -⟩
    · by_cases hm : ∃ origin, m.refreshes d.id origin = true
      · obtain ⟨origin, hm⟩ := hm
        rw [Move.eq_of_refreshes hm] at hd'
        have hf := find?_of_mem (hc.move _).distinct hd'
        rw [hc.find?_refresh, if_pos hid.symm, find?_of_mem hc.distinct hd] at hf
        rw [← Option.some.inj hf]
        refine (ih d hd).leave ((hc.calm d hd).undecided) fun hne => ?_
        unfold Document.leavesFor at hne
        split at hne
        · rename_i hleaves
          exact hleaves.2
        · exact absurd rfl hne
      · have hm : ∀ origin, m.refreshes d.id origin = false := by simpa using hm
        obtain ⟨e, he, heid, l, -, hfares⟩ := hc.fares hd hm
        obtain rfl : e = d' := eq_of_id (hc.move m).distinct he hd' (heid.trans hid)
        exact hfares.hopes ((ih d hd).work _ m)
    · exact Document.hopes_of_eq_zero (Document.claims_new hnew)

theorem account_move (env : Environment) (before : List Move) (id : DocumentId) (m : Move)
    (ms : List Move) :
    let c := (start env).play before
    ((c.move m).log id).unversioned ++ owed ((c.move m).claims id) ((c.move m).openedAt id ms) =
      (c.log id).unversioned ++ owed (c.claims id) (c.openedAt id (m :: ms)) ++
        (if m.refreshes id .workspace = true then c.dispatch id (m :: ms) else none).toList := by
  intro c
  have hc : c.Sound := sound_play env before
  by_cases hid : id ∈ c.ids
  · obtain ⟨d, hd, rfl⟩ := List.mem_map.mp hid
    rw [claims_of_mem hc.distinct hd]
    have hopes := hopes_play env before d hd
    by_cases hm : ∃ origin, m.refreshes d.id origin = true
    · obtain ⟨origin, hm⟩ := hm
      rw [Move.eq_of_refreshes hm]
      exact account_refresh env before hd hopes origin ms
    · have hm : ∀ origin, m.refreshes d.id origin = false := by simpa using hm
      rw [if_neg (by simp [hm]), Option.toList_none, List.append_nil]
      exact account_other env before hd hopes hm ms
  · -- Nothing is asked of a document that does not exist yet.
    have hnone : c.find? id = none := find?_eq_none.mpr hid
    have hclaims : c.claims id = 0 := by rw [claims, hnone]; rfl
    have hdispatch : c.dispatch id (m :: ms) = none := by
      rw [dispatch, phase?, hnone]
      exact ite_self none
    have hafter : (c.move m).log id = [] ∧ (c.move m).claims id = 0 := by
      by_cases hid' : id ∈ (c.move m).ids
      · obtain ⟨d', hd', rfl⟩ := List.mem_map.mp hid'
        rcases hc.source hd' with ⟨d, hd, -, -, -, heq⟩ | ⟨hnew, -, hlog, -⟩
        · exact absurd (heq ▸ mem_ids hd) hid
        · exact ⟨hlog, (claims_of_mem (hc.move m).distinct hd').trans (Document.claims_new hnew)⟩
      · exact ⟨(hc.move m).silent id hid', by rw [claims, find?_eq_none.mpr hid']; rfl⟩
    rw [hafter.1, hafter.2, hc.silent id hid, hclaims, hdispatch, ite_self, owed_zero, owed_zero]
    rfl

/-- The pulls of a document that count for any version are those that the refreshes of the workspace
asked of it, each at its time. -/
theorem unversioned_play (env : Environment) (ms : List Move) (id : DocumentId) :
    (((start env).play ms).log id).unversioned = (start env).dispatches id ms := by
  suffices hrest : ∀ before, (((start env).play (before ++ ms)).log id).unversioned =
      (((start env).play before).log id).unversioned ++
        owed (((start env).play before).claims id) (((start env).play before).openedAt id ms) ++
          ((start env).play before).dispatches id ms by
    have hstart := hrest []
    rwa [show ((start env).play []).claims id = 0 from rfl, owed_zero] at hstart
  induction ms with
  | nil => intro before; simp [openedAt, dispatches]
  | cons m ms ih =>
    intro before
    have hsplit : before ++ m :: ms = (before ++ [m]) ++ ms := by simp
    have hstep := account_move env before id m ms
    rw [hsplit, ih, play_append, play_cons, play_nil, hstep, dispatches, List.append_assoc]

/-! ## The time of a pull -/

theorem openedAt_append {c : Client} {id : DocumentId} {ks : List Move} {t : Nat}
    (h : c.openedAt id ks = some t) (ms : List Move) : c.openedAt id (ks ++ ms) = some t := by
  induction ks generalizing c with
  | nil => cases h
  | cons k ks ih =>
    rw [List.cons_append, openedAt]
    rw [openedAt] at h
    split
    · rename_i hopens
      rwa [if_pos hopens] at h
    · rename_i hopens
      rw [if_neg hopens] at h
      exact ih h

theorem openedAt_skip {c : Client} {id : DocumentId} {ks : List Move}
    (h : ∀ k, k <+: ks → (c.play k).phase? id ≠ some .opened) (ms : List Move) :
    c.openedAt id (ks ++ ms) = (c.play ks).openedAt id ms := by
  induction ks generalizing c with
  | nil => rfl
  | cons k ks ih =>
    rw [List.cons_append, openedAt_of_ne (h [k] ⟨ks, rfl⟩), play_cons]
    exact ih fun j hj => h (k :: j) (List.cons_prefix_cons.mpr ⟨rfl, hj⟩)

/-- When the pull goes out that a refresh of the workspace asks of a document, in a run that begins
with the refresh. -/
structure Dispatched (c : Client) (d : Document) (ms : List Move) : Prop where
  unsupported : c.env.feature.supported = false → c.dispatch d.id ms = none
  opened : c.env.feature.supported = true → d.phase = .opened →
    c.dispatch d.id ms = some c.env.now
  /-- If a document comes to be open the pull goes out when its handshake comes out well. -/
  opening : c.env.feature.supported = true → d.phase = .opening →
    (∃ ks, ks <+: ms ∧ (c.play ks).phase? d.id = some .opened) →
      ∃ t, c.dispatch d.id ms = some t ∧ (t, .handshake none) ∈ (c.play ms).log d.id
  waiting : (∀ ks, ks <+: ms → (c.play ks).phase? d.id ≠ some .opened) → c.dispatch d.id ms = none
  /-- If the document is closed first, or its handshake fails, the pull never goes out. -/
  lost : ∀ ks rest, ms = ks ++ rest →
    (∀ k, k <+: ks → (c.play k).phase? d.id ≠ some .opened) →
      (∃ e ∈ (c.play ks).documents, e.id = d.id ∧
        (e.phase = .closed ∨ ∃ f, e.handshakeOutcome? = some (.error f))) →
          c.dispatch d.id ms = none
  other : d.phase = .unopened ∨ d.phase = .closed → c.dispatch d.id ms = none

theorem dispatched (env : Environment) (before : List Move) {d : Document}
    (hd : d ∈ ((start env).play before).documents) (ms : List Move) :
    Dispatched ((start env).play before) d ms := by
  have hphase := phase?_of_mem (sound_play env before).distinct hd
  have hdispatch := dispatch_of_mem (sound_play env before).distinct hd ms
  -- Without an opening nothing goes out of a document that is not open already.
  have hnone (hp : ((start env).play before).phase? d.id ≠ some .opened)
      (ho : ((start env).play before).openedAt d.id ms = none) :
      ((start env).play before).dispatch d.id ms = none := by
    rw [hdispatch]
    split
    · cases hcases : d.phase with
      | opened => exact absurd (hphase.trans (congrArg some hcases)) hp
      | opening => exact ho
      | _ => rfl
    · rfl
  refine ⟨fun hs => ?_, fun hs hp => ?_, ?_, fun hnever => ?_, ?_, fun hp => ?_⟩
  · rw [hdispatch, hs]
    rfl
  · rw [hdispatch, if_pos hs, hp]
  · rintro hs hp ⟨ks, ⟨rest, rfl⟩, hopened⟩
    rw [← play_append] at hopened ⊢
    obtain ⟨t, ht, hmem⟩ :=
      openedAt_of_opened env before ks (hphase.trans (congrArg some hp)) hopened
    refine ⟨t, ?_, ?_⟩
    · rw [hdispatch, if_pos hs, hp]
      exact openedAt_append ht rest
    · rw [← List.append_assoc, play_append]
      exact (sound_play env (before ++ ks)).log_lasting hmem rest
  · have hend := openedAt_skip hnever []
    rw [List.append_nil] at hend
    exact hnone (hnever [] List.nil_prefix) hend
  · rintro ks rest rfl hnever ⟨e, he, hid, hover⟩
    refine hnone (hnever [] List.nil_prefix) ?_
    rw [openedAt_skip hnever, ← play_append, ← hid]
    exact openedAt_eq_none env (before ++ ks) (by rwa [play_append]) hover rest
  · rw [hdispatch]
    rcases hp with hp | hp <;> rw [hp] <;> exact ite_self none

/-! ## Refreshes of several documents -/

theorem dispatches_skip {c : Client} {id : DocumentId} {ks : List Move}
    (h : ∀ k ∈ ks, k.refreshes id .workspace = false) (ms : List Move) :
    c.dispatches id (ks ++ ms) = (c.play ks).dispatches id ms := by
  induction ks generalizing c with
  | nil => rfl
  | cons k ks ih =>
    rw [List.cons_append, dispatches, if_neg (by simp [h k List.mem_cons_self]), play_cons,
      ih fun j hj => h j (List.mem_cons_of_mem k hj)]
    rfl

/-- When the pull of a refresh goes out does not depend on other refreshes. -/
theorem Sound.dispatch_refresh {c : Client} (h : c.Sound) (id other : DocumentId)
    (origin : RefreshOrigin) (ms : List Move) :
    (c.move (.act (.document other (.refresh origin)))).dispatch id ms =
      c.dispatch id (.act (.document other (.refresh origin)) :: ms) := by
  have hworld := h.world (.act (.document other (.refresh origin)))
  have hphase := h.phase?_refresh other id origin
  rw [dispatch, dispatch, hphase, openedAt_of_eq hphase, hworld.feature, hworld.now]
  rfl

/-- A document is asked once if it is in the list. -/
theorem Sound.dispatches_refreshes {c : Client} (h : c.Sound) {ids : List DocumentId}
    (hids : ids.Nodup) (id : DocumentId) (ms : List Move) :
    let ks : List Move := ids.map fun other => .act (.document other (.refresh .workspace))
    c.dispatches id (ks ++ ms) =
      (if id ∈ ids then c.dispatch id (ks ++ ms) else none).toList ++
        (c.play ks).dispatches id ms := by
  induction ids generalizing c with
  | nil => rfl
  | cons other ids ih =>
    obtain ⟨hfresh, hids⟩ := List.nodup_cons.mp hids
    have hrest := ih (h.move (.act (.document other (.refresh .workspace)))) hids
    dsimp only at hrest ⊢
    rw [h.dispatch_refresh] at hrest
    rw [List.map_cons, List.cons_append, dispatches, hrest, play_cons]
    by_cases hid : id = other
    · subst hid
      simp [Move.refreshes, hfresh]
    · simp [Move.refreshes, hid, Ne.symm hid]

end DocSync.Client
