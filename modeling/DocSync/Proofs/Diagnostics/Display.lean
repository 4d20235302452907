import DocSync.Proofs.Diagnostics.Registry

/-!
# When a file has to be shown again

Every display gets a stamp of its own, later than all stamps before. A reader who holds the stamp of
the last display of a file need not show it again as long as nothing about the file was changed or
cleared since. The clock also ticks for other files and for reports that change nothing; neither
makes a stamp go stale or brings an old one back.
-/
namespace DocSync

namespace RegistryEntry

/-- The stamp that was given out, if one was. -/
def stamp? : RegistryEntry → Option Stamp
  | .displayed _ s => some s
  | .updated .. | .cleared _ | .polled .. => none

/-- Whether what was done can make a difference to a reader of a file: it was changed, shown or
cleared. -/
def Touches (uri : Uri) : RegistryEntry → Prop
  | .updated other _ _ changed => other = uri ∧ changed = true
  | .displayed other _ | .cleared other => other = uri
  | .polled .. => False

end RegistryEntry

/-- The stamps that were given out. -/
def stampsOf (log : List RegistryEntry) : List Stamp := log.filterMap RegistryEntry.stamp?

/-- A stamp is that of the last display of a file, which was not changed or cleared since. -/
def Current (uri : Uri) (s : Stamp) (log : List RegistryEntry) : Prop :=
  ∃ earlier later, log = earlier ++ .displayed uri s :: later ∧ ∀ e ∈ later, ¬ e.Touches uri

theorem not_current_nil (uri : Uri) (s : Stamp) : ¬ Current uri s [] := by
  rintro ⟨earlier, later, hlog, -⟩
  simp at hlog

theorem current_concat (uri : Uri) (s : Stamp) (log : List RegistryEntry) (e : RegistryEntry) :
    Current uri s (log ++ [e]) ↔ e = .displayed uri s ∨ Current uri s log ∧ ¬ e.Touches uri := by
  constructor
  · rintro ⟨earlier, later, hlog, hlater⟩
    rcases List.eq_nil_or_concat later with rfl | ⟨later, last, rfl⟩
    · exact .inl (List.singleton_inj.mp (List.append_inj' hlog rfl).2)
    · rw [List.concat_eq_append] at hlog hlater
      have hparts : log ++ [e] = (earlier ++ .displayed uri s :: later) ++ [last] := by
        rw [hlog, List.append_assoc, List.cons_append]
      obtain ⟨rfl, heq⟩ := List.append_inj' hparts rfl
      obtain rfl := List.singleton_inj.mp heq
      refine .inr ⟨⟨earlier, later, rfl, fun x hx => ?_⟩, hlater _ (by simp)⟩
      exact hlater x (List.mem_append_left _ hx)
  · rintro (rfl | ⟨⟨earlier, later, rfl, hlater⟩, he⟩)
    · exact ⟨log, [], rfl, by simp⟩
    · refine ⟨earlier, later ++ [e], by simp, fun x hx => ?_⟩
      rcases List.mem_append.mp hx with hx | hx
      · exact hlater x hx
      · rwa [List.mem_singleton.mp hx]

namespace Registry

/-- The clock is not behind any of the times in the records. -/
structure Timely (r : Registry) : Prop where
  displayed : ∀ uri s, (r.file uri).displayedAt = some s → s.tick ≤ r.ticks
  updated : ∀ uri s, (r.file uri).updatedAt = some s → s.tick ≤ r.ticks

theorem timely_fresh (capacity : Nat) : (fresh capacity).Timely :=
  ⟨by simp, by simp⟩

theorem ticks_step (r : Registry) (a : RegistryAction) : r.ticks ≤ (r.step a).ticks := by
  cases a with
  | update uri i items =>
    rw [step_update, ticks_update]
    exact Nat.le_succ _
  | markDisplayed uri => exact Nat.le_succ _
  | clear uri => rw [step_clear, ticks_clear]
  | poll budget => exact Nat.le_refl _

/-- What is done without touching a file leaves its record alone. -/
theorem file_untouched {r : Registry} {a : RegistryAction} {uri : Uri}
    (h : ¬ (r.perform a).2.Touches uri) : (r.step a).file uri = r.file uri := by
  cases a with
  | update other i items =>
    rw [step_update, file_update, if_neg]
    rintro ⟨rfl, hne⟩
    exact h ⟨rfl, (r.update_changed _ i items).mpr hne⟩
  | markDisplayed other =>
    rw [step_markDisplayed, file_markDisplayed, if_neg]
    exact fun huri => h huri.symm
  | clear other =>
    rw [step_clear, file_clear, if_neg]
    exact fun huri => h huri.symm
  | poll budget => rfl

theorem Timely.step {r : Registry} (h : r.Timely) (a : RegistryAction) : (r.step a).Timely := by
  have hticks := r.ticks_step a
  cases a with
  | update uri i items =>
    refine ⟨fun v s hs => ?_, fun v s hs => ?_⟩
    · rw [step_update, displayedAt_update] at hs
      exact (h.displayed v s hs).trans hticks
    · rw [step_update, ticks_update]
      rw [step_update, file_update] at hs
      split at hs
      · obtain rfl := Option.some.inj hs
        exact Nat.le_refl _
      · exact Nat.le_succ_of_le (h.updated v s hs)
  | markDisplayed uri =>
    refine ⟨fun v s hs => ?_, fun v s hs => ?_⟩
    all_goals
      rw [step_markDisplayed, file_markDisplayed] at hs
      split at hs
    · obtain rfl := Option.some.inj hs
      exact Nat.le_refl _
    · exact (h.displayed v s hs).trans hticks
    · exact (h.updated uri s hs).trans hticks
    · exact (h.updated v s hs).trans hticks
  | clear uri =>
    refine ⟨fun v s hs => ?_, fun v s hs => ?_⟩
    all_goals
      rw [step_clear, file_clear] at hs
      split at hs
    · cases hs
    · exact (h.displayed v s hs).trans hticks
    · cases hs
    · exact (h.updated v s hs).trans hticks
  | poll budget => exact ⟨h.displayed, h.updated⟩

theorem Timely.run {r : Registry} (h : r.Timely) (as : List RegistryAction) : (r.run as).Timely :=
  run_induct (fun _ a h => h.step a) h as

theorem ticks_run (r : Registry) (as : List RegistryAction) : r.ticks ≤ (r.run as).ticks := by
  have hstep (s : Registry) (a : RegistryAction) (h : r.ticks ≤ s.ticks) :
      r.ticks ≤ (s.step a).ticks := h.trans (s.ticks_step a)
  exact run_induct hstep (Nat.le_refl _) as

end Registry

theorem FileRecord.mustRefresh_eq_false (f : FileRecord) (s : Stamp) :
    f.mustRefresh (some s) = false ↔
      f.displayedAt = some s ∧ ∀ u, f.updatedAt = some u → u.tick ≤ s.tick := by
  unfold mustRefresh
  cases f.displayedAt with
  | none => simp
  | some displayed =>
    by_cases hs : s = displayed
    · subst hs
      cases f.updatedAt <;> simp
    · cases f.updatedAt <;> simp [hs, Ne.symm hs]

namespace Registry

/-- A reader is up to date after an action if it was before and the action does not touch the file,
or if the action is a display with the reader's stamp. -/
theorem mustRefresh_step {r : Registry} (h : r.Timely) (a : RegistryAction) (uri : Uri)
    (s : Stamp) :
    (r.step a).mustRefresh uri (some s) = false ↔
      (r.perform a).2 = .displayed uri s ∨
      r.mustRefresh uri (some s) = false ∧ ¬ (r.perform a).2.Touches uri := by
  by_cases htouches : (r.perform a).2.Touches uri
  · have hright : ((r.perform a).2 = .displayed uri s ∨ r.mustRefresh uri (some s) = false ∧
        ¬ (r.perform a).2.Touches uri) ↔ (r.perform a).2 = .displayed uri s :=
      ⟨fun h => h.resolve_right fun h => h.2 htouches, .inl⟩
    rw [hright, mustRefresh, FileRecord.mustRefresh_eq_false]
    cases a with
    | update other i items =>
      obtain ⟨rfl, hchanged⟩ := htouches
      refine iff_of_false ?_ nofun
      rintro ⟨hdisplayed, hupdated⟩
      rw [step_update, displayedAt_update] at hdisplayed
      have hlate := h.displayed _ s hdisplayed
      have hnow := hupdated r.now (by
        rw [step_update, file_update, if_pos ⟨rfl, (r.update_changed _ _ _).mp hchanged⟩])
      have htick : r.now.tick = r.ticks + 1 := rfl
      omega
    | markDisplayed other =>
      obtain rfl := htouches
      rw [step_markDisplayed, file_markDisplayed, if_pos rfl]
      show some r.now = some s ∧ _ ↔ RegistryEntry.displayed other r.now = .displayed other s
      rw [Option.some.injEq, RegistryEntry.displayed.injEq, eq_self, true_and, and_iff_left_iff_imp]
      rintro rfl u hu
      exact Nat.le_succ_of_le (h.updated other u hu)
    | clear other =>
      obtain rfl := htouches
      refine iff_of_false ?_ nofun
      rw [step_clear, file_clear, if_pos rfl]
      exact fun h => nomatch h.1
    | poll budget => cases htouches
  · have hentry : (r.perform a).2 ≠ .displayed uri s := by
      intro heq
      rw [heq] at htouches
      exact htouches rfl
    rw [mustRefresh, mustRefresh, file_untouched htouches]
    simp [hentry, htouches]

theorem mustRefresh_run (capacity : Nat) (as : List RegistryAction) (uri : Uri) (s : Stamp) :
    ((fresh capacity).run as).mustRefresh uri (some s) = false ↔
      Current uri s ((fresh capacity).log as) := by
  induction as using List.reverseRecOn with
  | nil => exact iff_of_false nofun (not_current_nil uri s)
  | append_singleton as a ih =>
    rw [run_concat, mustRefresh_step ((timely_fresh capacity).run as), ih, log_concat,
      current_concat]

theorem stampsOf_concat (log : List RegistryEntry) (e : RegistryEntry) :
    stampsOf (log ++ [e]) = stampsOf log ++ e.stamp?.toList := by
  unfold stampsOf
  rw [List.filterMap_append]
  cases h : e.stamp? <;> simp [h]

/-- A stamp is given out by a display, and is the time after it. -/
theorem stamp_perform {r : Registry} {a : RegistryAction} {s : Stamp}
    (h : (r.perform a).2.stamp? = some s) : s = r.now ∧ s.tick = (r.step a).ticks := by
  cases a with
  | markDisplayed uri =>
    obtain rfl := Option.some.inj h
    exact ⟨rfl, rfl⟩
  | _ => cases h

/-- Stamps increase from one display to the next. -/
theorem stampsOf_run (capacity : Nat) (as : List RegistryAction) :
    (stampsOf ((fresh capacity).log as)).Pairwise (fun s t => s.tick < t.tick) ∧
      ∀ s ∈ stampsOf ((fresh capacity).log as), s.tick ≤ ((fresh capacity).run as).ticks := by
  induction as using List.reverseRecOn with
  | nil => exact ⟨List.Pairwise.nil, by simp [log, stampsOf]⟩
  | append_singleton as a ih =>
    obtain ⟨hincreasing, hpast⟩ := ih
    rw [log_concat, stampsOf_concat, run_concat]
    refine ⟨List.pairwise_append.mpr ⟨hincreasing, ?_, fun s hs t ht => ?_⟩, fun s hs => ?_⟩
    · cases ((fresh capacity).run as |>.perform a).2.stamp? <;> simp
    · obtain ⟨rfl, -⟩ := stamp_perform (Option.mem_toList.mp ht)
      exact Nat.lt_succ_of_le (hpast s hs)
    · rcases List.mem_append.mp hs with hs | hs
      · exact (hpast s hs).trans (ticks_step _ a)
      · exact (stamp_perform (Option.mem_toList.mp hs)).2.le

/-- As long as a stamp keeps a reader up to date, the record of the file is the one that it was
given out for. -/
theorem slots_of_current {r : Registry} (h : r.Timely) (file uri : Uri) (as : List RegistryAction)
    (hcurrent : ((r.step (.markDisplayed file)).run as).mustRefresh uri (some r.now) = false) :
    file = uri ∧ (((r.step (.markDisplayed file)).run as).file uri).slots = (r.file uri).slots := by
  have hstep := h.step (.markDisplayed file)
  induction as using List.reverseRecOn with
  | nil =>
    rcases (mustRefresh_step h (.markDisplayed file) uri r.now).mp hcurrent with heq | ⟨hold, -⟩
    · injection heq with huri
      subst huri
      refine ⟨rfl, ?_⟩
      show ((r.step (.markDisplayed file)).file file).slots = _
      rw [step_markDisplayed, file_markDisplayed, if_pos rfl]
    · have hdisplayed := ((r.file uri).mustRefresh_eq_false r.now).mp hold
      exact absurd (h.displayed uri r.now hdisplayed.1) (Nat.not_succ_le_self _)
  | append_singleton as a ih =>
    rw [run_concat] at hcurrent ⊢
    rcases (mustRefresh_step (hstep.run as) a uri r.now).mp hcurrent with heq | ⟨hold, huntouched⟩
    · have hstamp : (((r.step (.markDisplayed file)).run as).perform a).2.stamp? = some r.now := by
        rw [heq]
        rfl
      have hlater := ticks_run (r.step (.markDisplayed file)) as
      have hnow := congrArg Stamp.tick (stamp_perform hstamp).1
      simp only [now] at hnow
      have hticks : (r.step (.markDisplayed file)).ticks = r.ticks + 1 := rfl
      omega
    · rw [file_untouched huntouched]
      exact ih hold

end Registry

/-- What a reader can rely on who remembers when a file was shown. -/
structure Displays (capacity : Nat) (actions : List RegistryAction) : Prop where
  /-- Stamps increase, whatever file they are for. -/
  increasing : (stampsOf ((Registry.fresh capacity).log actions)).Pairwise
    fun s t => s.tick < t.tick
  distinct : (stampsOf ((Registry.fresh capacity).log actions)).Nodup
  /-- A file need not be shown again to a reader with the stamp of its last display, as long as it
  was not changed or cleared since. -/
  current : ∀ uri s, ((Registry.fresh capacity).run actions).mustRefresh uri (some s) = false ↔
    Current uri s ((Registry.fresh capacity).log actions)
  /-- The diagnostics of such a file are the ones that were shown. -/
  faithful : ∀ before file after, actions = before ++ .markDisplayed file :: after → ∀ uri,
    ((Registry.fresh capacity).run actions).mustRefresh uri
        (some (((Registry.fresh capacity).run before).markDisplayed file).2) = false →
      file = uri ∧ ((Registry.fresh capacity).run actions).diagnostics uri =
        ((Registry.fresh capacity).run before).diagnostics uri
  /-- A reader without a stamp has to be shown everything. -/
  unseen : ∀ uri, ((Registry.fresh capacity).run actions).mustRefresh uri none = true

/-- No change is hidden from a reader, and none is shown what was just shown. -/
theorem displays (capacity : Nat) (actions : List RegistryAction) : Displays capacity actions := by
  have hincreasing := (Registry.stampsOf_run capacity actions).1
  refine ⟨hincreasing, ?distinct, Registry.mustRefresh_run capacity actions, ?faithful, ?unseen⟩
  case distinct =>
    refine hincreasing.imp fun hlt => ?_
    rintro rfl
    exact Nat.lt_irrefl _ hlt
  case faithful =>
    rintro before file after rfl uri hcurrent
    rw [Registry.run_append] at hcurrent ⊢
    have hslots := Registry.slots_of_current ((Registry.timely_fresh capacity).run before) file uri
      after hcurrent
    exact ⟨hslots.1, congrArg (List.flatMap Prod.snd) hslots.2⟩
  case unseen =>
    intro uri
    rw [Registry.mustRefresh, FileRecord.mustRefresh]
    split <;> rfl

/-- The clock ticks for a report that changes nothing and for one on another file, but the stamp of
the display stays good. -/
example (d : Diagnostic) :
    ((Registry.fresh 1).run [.markDisplayed ⟨"file:///a"⟩, .update ⟨"file:///a"⟩ "x" [],
      .update ⟨"file:///b"⟩ "x" [d]]).mustRefresh ⟨"file:///a"⟩ (some ⟨1⟩) = false := by
  rfl

end DocSync
