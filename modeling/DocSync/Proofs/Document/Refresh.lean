import DocSync.Proofs.Document.Handshake
import DocSync.Proofs.Document.Lifecycle

/-!
# Pulls that wait for the handshake

A refresh of a document that is being opened waits for the handshake. All that wait go out together
when the handshake came out well, and none of them goes out after it failed or the document was
closed.
-/
namespace DocSync

/-- A pull that counts whatever the version is by then. -/
def Event.isUnversioned : Event → Bool
  | .pulled _ .any _ => true
  | _ => false

/-- Neither such a pull nor the end of the handshake. -/
def Event.isPlain : Event → Bool
  | .pulled _ .any _ | .handshake _ => false
  | _ => true

namespace Log

/-- The times of the pulls that count whatever the version is by then. -/
def unversioned (l : Log) : List Nat := (l.filter fun x => x.2.isUnversioned).map Prod.fst

/-- When the handshake came out well. -/
def joined? (l : Log) : Option Nat := (l.find? fun x => x.2 = .handshake none).map Prod.fst

@[simp] theorem unversioned_nil : unversioned [] = [] := rfl

@[simp] theorem unversioned_append (l k : Log) :
    unversioned (l ++ k) = l.unversioned ++ unversioned k := by
  simp [unversioned]

theorem unversioned_map (now : Nat) (es : List Event) :
    unversioned (es.map (now, ·)) = List.replicate (es.countP Event.isUnversioned) now := by
  rw [unversioned, List.filter_map, List.map_map, List.countP_eq_length_filter]
  exact List.map_const'

theorem joined?_append (l k : Log) : joined? (l ++ k) = l.joined?.or (joined? k) := by
  rw [joined?, joined?, joined?, List.find?_append]
  cases l.find? fun x => x.2 = .handshake none <;> rfl

theorem mem_of_joined? {l : Log} {time : Nat} (h : l.joined? = some time) :
    (time, .handshake none) ∈ l := by
  obtain ⟨⟨t, e⟩, hx, rfl⟩ := Option.map_eq_some_iff.mp h
  have he : e = .handshake none := by simpa using List.find?_some hx
  exact he ▸ List.mem_of_find?_eq_some hx

theorem joined?_eq_none {l : Log} (h : .ok () ∉ l.handshakes) : l.joined? = none := by
  rw [joined?, Option.map_eq_none_iff, List.find?_eq_none]
  intro x hx hjoin
  have hevent : x.2 = .handshake none := by simpa using hjoin
  exact h (List.mem_filterMap.mpr ⟨x, hx, by rw [hevent]; rfl⟩)

theorem exists_joined? {l : Log} (h : .ok () ∈ l.handshakes) : ∃ time, l.joined? = some time := by
  obtain ⟨⟨time, event⟩, hx, hevent⟩ := List.mem_filterMap.mp h
  have hjoin : event = .handshake none := by
    cases event with
    | handshake fault =>
      cases fault with
      | none => rfl
      | some e => cases hevent
    | _ => cases hevent
  cases hf : l.find? fun x => x.2 = .handshake none with
  | none => exact absurd (List.find?_eq_none.mp hf _ hx) (by simp [hjoin])
  | some x => exact ⟨x.1, by rw [joined?, hf]; rfl⟩

theorem countP_plain {es : List Event} (h : ∀ e ∈ es, e.isPlain = true) :
    es.countP Event.isUnversioned = 0 := by
  refine List.countP_eq_zero.mpr fun e he hpull => ?_
  have hplain := h e he
  cases e with
  | pulled cause v request => cases v <;> simp [Event.isPlain, Event.isUnversioned] at hplain hpull
  | _ => cases hpull

theorem handshakes_plain {es : List Event} (h : ∀ e ∈ es, e.isPlain = true) :
    es.filterMap Event.handshake? = [] := by
  refine List.filterMap_eq_nil_iff.mpr fun e he => ?_
  have hplain := h e he
  cases e <;> first | rfl | cases hplain

end Log

namespace Document

theorem Attends.plain {now : Nat} {supported : Bool} {d : Document} {sent : Option Version}
    {timer : Option PullTimer} {pulls : List Event} (h : Attends now supported d sent timer pulls) :
    ∀ e ∈ pulls, e.isPlain = true := by
  intro e he
  obtain ⟨v, request, -, rfl, -⟩ := h.mem e he
  rfl

theorem Asks.plain {d : Document} {cause : PullCause} {v : Version} {pulls : List Event}
    (h : Asks d cause (.exact v) pulls) : ∀ e ∈ pulls, e.isPlain = true := by
  intro e he
  obtain ⟨request, rfl, -⟩ := h.mem e he
  rfl

/-- How many such pulls go out when the handshake comes out well. -/
def claims (d : Document) : Nat := if d.phase = .closed then 0 else d.waiting.count .any

/-- How a document treats the pulls that wait for its handshake when it goes on by itself: it leaves
them alone, or the handshake fails and they are given up, or it comes out well, or the next one goes
out after that. -/
inductive Treats (d : Document) (es : List Event) (d' : Document) : Prop
  | spares (hes : ∀ e ∈ es, e.isPlain = true) (hw : d'.waiting = d.waiting)
      (hphase : d'.phase = d.phase) (houtcome : d'.handshakeOutcome? = d.handshakeOutcome?) :
      Treats d es d'
  | loses (e : SessionError) {ends : List Event} (hes : es = ends ++ [.handshake (some e)])
      (hends : ∀ e ∈ ends, e.isPlain = true) (hw : d'.waiting = []) (hphase : d'.phase = d.phase)
      (hbefore : d.handshakeOutcome? = none) (hafter : d'.handshakeOutcome? = some (.error e)) :
      Treats d es d'
  | joins {pulls : List Event} (hes : es = .handshake none :: pulls)
      (hpulls : ∀ e ∈ pulls, e.isPlain = true) (hw : d'.waiting = d.waiting)
      (hphase : d'.phase = if d.phase = .opening then .opened else d.phase)
      (hbefore : d.handshakeOutcome? = none) (hafter : d'.handshakeOutcome? = some (.ok ())) :
      Treats d es d'
  | serves {v : PullVersion} (hes : Asks d .refreshed v es) (hw : d.waiting = v :: d'.waiting)
      (hphase : d'.phase = d.phase) (hbefore : d.handshakeOutcome? = some (.ok ()))
      (hafter : d'.handshakeOutcome? = some (.ok ())) : Treats d es d'

/-- A pull that waited goes out, unless the document is closed. -/
theorem Asks.claims {d d' : Document} {v : PullVersion} {es : List Event}
    (h : Asks d .refreshed v es) (hw : d.waiting = v :: d'.waiting) (hphase : d'.phase = d.phase) :
    es.countP Event.isUnversioned + d'.claims = d.claims := by
  simp only [Document.claims, hphase, hw, List.count_cons]
  cases h with
  | ask request hv =>
    have hopen : d.phase ≠ .closed := by
      simp only [awaits, Bool.and_eq_true, bne_iff_ne] at hv
      exact hv.1
    cases v <;> simp [hopen, Event.isUnversioned, Nat.add_comm]
  | skip hv =>
    cases v with
    | exact v => simp
    | any =>
      have hclosed : d.phase = .closed := by simpa [awaits, PullVersion.accepts] using hv
      simp [hclosed]

/-- When the handshake has come out well, no pull waits for it. -/
def Served (d : Document) : Prop := d.handshakeOutcome? = some (.ok ()) → d.waiting = []

theorem Served.work {d : Document} (h : d.Served) (active : Bool) (a : DocumentAction) :
    (a.work active d).Served := by
  refine work_induct (P := Served) (fun e e' hc he => ?_) h a
  cases hc with
  | begin hp =>
    obtain ⟨greeting, hw⟩ := beginOpen_waiting hp
    simp [Served, handshakeOutcome?, hw]
  | close | abandon => exact fun _ => rfl
  | _ => exact he

/-- How a document fares with the pulls that wait for its handshake, while its log grows: they wait
on, or the handshake fails and they are given up, or it comes out well and they all go out. -/
inductive Fares (d : Document) : Log → Document → Prop
  | waits {l : Log} {d' : Document} (hpulls : l.unversioned = []) (hjoin : l.joined? = none)
      (hclaims : d'.claims = d.claims) (hphase : d'.phase = d.phase)
      (houtcome : d'.handshakeOutcome? = d.handshakeOutcome?) : Fares d l d'
  | fails {l : Log} {d' : Document} (e : SessionError) (hpulls : l.unversioned = [])
      (hjoin : l.joined? = none) (hclaims : d'.claims = 0) (hphase : d'.phase = d.phase)
      (hbefore : d.handshakeOutcome? = none) (hafter : d'.handshakeOutcome? = some (.error e)) :
      Fares d l d'
  | joins {l : Log} {d' : Document} (time : Nat)
      (hpulls : l.unversioned = List.replicate d.claims time) (hjoin : l.joined? = some time)
      (hclaims : d'.claims = 0)
      (hphase : d'.phase = if d.phase = .opening then .opened else d.phase)
      (hbefore : d.handshakeOutcome? = none) (hafter : d'.handshakeOutcome? = some (.ok ())) :
      Fares d l d'

theorem Fares.refl (d : Document) : Fares d [] d := .waits rfl rfl rfl rfl rfl

theorem Fares.trans {d d' d'' : Document} {l k : Log} (h : Fares d l d') (g : Fares d' k d'') :
    Fares d (l ++ k) d'' := by
  cases h with
  | waits hpulls hjoin hclaims hphase houtcome =>
    cases g with
    | waits gpulls gjoin gclaims gphase goutcome =>
      exact .waits (by simp [hpulls, gpulls]) (by simp [Log.joined?_append, hjoin, gjoin])
        (gclaims.trans hclaims) (gphase.trans hphase) (goutcome.trans houtcome)
    | fails e gpulls gjoin gclaims gphase gbefore gafter =>
      exact .fails e (by simp [hpulls, gpulls]) (by simp [Log.joined?_append, hjoin, gjoin]) gclaims
        (gphase.trans hphase) (houtcome ▸ gbefore) gafter
    | joins time gpulls gjoin gclaims gphase gbefore gafter =>
      exact .joins time (by simp [hpulls, gpulls, hclaims])
        (by simp [Log.joined?_append, hjoin, gjoin]) gclaims (hphase ▸ gphase)
        (houtcome ▸ gbefore) gafter
  | fails e hpulls hjoin hclaims hphase hbefore hafter =>
    cases g with
    | waits gpulls gjoin gclaims gphase goutcome =>
      exact .fails e (by simp [hpulls, gpulls]) (by simp [Log.joined?_append, hjoin, gjoin])
        (gclaims.trans hclaims) (gphase.trans hphase) hbefore (goutcome.trans hafter)
    | fails _ _ _ _ _ gbefore => cases gbefore.symm.trans hafter
    | joins _ _ _ _ _ gbefore => cases gbefore.symm.trans hafter
  | joins time hpulls hjoin hclaims hphase hbefore hafter =>
    cases g with
    | waits gpulls gjoin gclaims gphase goutcome =>
      exact .joins time (by simp [hpulls, gpulls]) (by simp [Log.joined?_append, hjoin])
        (gclaims.trans hclaims) (gphase.trans hphase) hbefore (goutcome.trans hafter)
    | fails _ _ _ _ _ gbefore => cases gbefore.symm.trans hafter
    | joins _ _ _ _ _ gbefore => cases gbefore.symm.trans hafter

/-- Pulls only wait while the document is being opened. -/
def Hopes (d : Document) : Prop :=
  d.claims ≠ 0 → d.phase = .opening ∧ d.handshakeOutcome? = none

theorem hopes_of_eq_zero {d : Document} (h : d.claims = 0) : d.Hopes := fun hne => absurd h hne

theorem Fares.hopes {d d' : Document} {l : Log} (h : Fares d l d') (hd : d.Hopes) : d'.Hopes := by
  cases h with
  | waits _ _ hclaims hphase houtcome =>
    rw [Hopes, hclaims, hphase, houtcome]
    exact hd
  | fails _ _ _ hclaims | joins _ _ _ hclaims => exact hopes_of_eq_zero hclaims

theorem claims_new {d : Document} (h : d.IsNew) : d.claims = 0 := by
  rw [h]
  rfl

theorem claims_closed {d : Document} (h : d.phase = .closed) : d.claims = 0 := if_pos h

/-- What is done to a document leaves the pulls that wait for its handshake alone, or closes it. -/
theorem work_claims (d : Document) (active : Bool) (m : Client.Move) :
    (m.work active d).claims = d.claims ∧ (d.phase = .opening →
        (m.work active d).phase = .opening ∧
          (m.work active d).handshakeOutcome? = d.handshakeOutcome?) ∨
      (m.work active d).phase = .closed := by
  refine m.work_induct (P := fun e => e.claims = d.claims ∧ (d.phase = .opening →
    e.phase = .opening ∧ e.handshakeOutcome? = d.handshakeOutcome?) ∨ e.phase = .closed) ?_
    (.inl ⟨rfl, fun hp => ⟨hp, rfl⟩⟩)
  intro e e' hc he
  rcases he with ⟨hclaims, hopening⟩ | hclosed
  · cases hc with
    | begin hp =>
      refine .inl ⟨?_, fun hd => ?_⟩
      · rw [← hclaims, claims, claims, hp, beginOpen_eq hp]
        split <;> rfl
      · cases hp.symm.trans (hopening hd).1
    | write | change | save | vain => exact .inl ⟨hclaims, hopening⟩
    | close | abandon => exact .inr rfl
  · exact .inr (hc.closed hclosed).1

theorem Hopes.work {d : Document} (h : d.Hopes) (active : Bool) (m : Client.Move) :
    (m.work active d).Hopes := by
  rcases d.work_claims active m with ⟨hclaims, hopening⟩ | hclosed
  · intro hne
    obtain ⟨hp, ho⟩ := h (hclaims ▸ hne)
    obtain ⟨hp', ho'⟩ := hopening hp
    exact ⟨hp', ho'.trans ho⟩
  · exact hopes_of_eq_zero (claims_closed hclosed)

/-- A pull that is left for after the handshake is left while the handshake is still to come. -/
theorem Hopes.leave {d : Document} (h : d.Hopes)
    (hu : d.phase = .opening → d.handshakeOutcome? ≠ some (.ok ())) {left : List PullVersion}
    (hl : left ≠ [] → d.phase = .opening ∧ d.isRefused = false) :
    Hopes { d with waiting := d.waiting ++ left } := by
  cases left with
  | nil =>
    rw [List.append_nil]
    exact h
  | cons v rest =>
    obtain ⟨hp, hr⟩ := hl (List.cons_ne_nil v rest)
    refine fun _ => ⟨hp, ?_⟩
    have hundecided := hu hp
    cases hw : d.writer <;>
      simp_all [handshakeOutcome?, isRefused]

end Document

end DocSync
