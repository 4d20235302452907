import DocSync.Proofs.Client.Reception
import DocSync.Proofs.Diagnostics.Report

/-!
# What a run does to the registry

Whatever is done with a client, its registry goes through a run of its own. A display, a poll and
news from elsewhere are passed on to it, closing a document clears its file, and what answers to
pulls teach comes in as reports under the identifier of pulls.
-/
namespace DocSync

/-- Whether an action is a report under an identifier. -/
def RegistryAction.ReportsUnder (identifier : String) (a : RegistryAction) : Prop :=
  ∃ uri items, a = .update uri identifier items

/-- News are stored by one report after the other. -/
theorem Registry.store_eq_run (r : Registry) (identifier : String)
    (news : List (Uri × List Diagnostic)) :
    r.store identifier news = r.run (news.map fun x => .update x.1 identifier x.2) := by
  rw [store, run, List.foldl_map]
  rfl

theorem Registry.exists_run_store (r : Registry) (identifier : String)
    (news : List (Uri × List Diagnostic)) :
    ∃ as, (∀ a ∈ as, a.ReportsUnder identifier) ∧ r.store identifier news = r.run as := by
  refine ⟨_, fun a ha => ?_, r.store_eq_run identifier news⟩
  obtain ⟨x, -, rfl⟩ := List.mem_map.mp ha
  exact ⟨x.1, x.2, rfl⟩

/-- Updates under one identifier leave the others alone. -/
theorem Registry.slot_run_of_reportsUnder {i j : String} (hne : j ≠ i) {as : List RegistryAction}
    (h : ∀ a ∈ as, a.ReportsUnder i) (r : Registry) (uri : Uri) :
    ((r.run as).file uri).slot j = (r.file uri).slot j := by
  rw [slot_run_latest]
  refine latest_of_forall_none (fun a ha => ?_) _
  obtain ⟨other, items, rfl⟩ := h a ha
  exact if_neg fun heq => hne heq.2

/-- The news in some answers, one answer after the other. -/
def newsOf (resolver : Resolver) (heard : List (Uri × Answer)) : List (Uri × List Diagnostic) :=
  heard.flatMap fun x => answerNews resolver x.1 x.2

theorem newsOf_append (resolver : Resolver) (heard more : List (Uri × Answer)) :
    newsOf resolver (heard ++ more) = newsOf resolver heard ++ newsOf resolver more :=
  List.flatMap_append

theorem Learns.run {identifier : String} {resolver : Resolver} {r r' : Registry} {new : List Entry}
    (h : Learns identifier resolver r new r') :
    ∃ learned, (∀ a ∈ learned, a.ReportsUnder identifier) ∧ r' = r.run learned := by
  induction h with
  | nil r => exact ⟨[], by simp, rfl⟩
  | silent x _ ih => exact ih
  | @answer r r' new x cause v request hx answer _ ih =>
    obtain ⟨others, hothers, rfl⟩ := ih
    obtain ⟨first, hfirst, hstore⟩ :=
      r.exists_run_store identifier (answerNews resolver x.document.uri answer)
    refine ⟨first ++ others, fun a ha => ?_, ?_⟩
    · exact (List.mem_append.mp ha).elim (hfirst a) (hothers a)
    · rw [hstore, Registry.run_append]

namespace Client

/-- The identifier that pulled diagnostics are stored under. -/
def pulledUnder (c : Client) : String := c.env.feature.identifier.getD pullIdentifier

/-- What a move asks of the registry. -/
def asks (c : Client) : Move → List RegistryAction
  | .act (.document id .close) =>
    match c.find? id with
    | some d => if d.phase = .closed then [] else [.clear d.uri]
    | none => []
  | .act (.shared (.update uri i items)) => [.update uri i items]
  | .act (.shared (.markDisplayed uri)) => [.markDisplayed uri]
  | .act (.shared (.clear uri)) => [.clear uri]
  | .act (.shared (.poll budget)) => [.poll budget]
  | _ => []

/-- The actions on the registry that the moves of a run come down to. -/
inductive Causes : Client → List Move → List RegistryAction → Prop
  | nil (c : Client) : Causes c [] []
  | cons {c : Client} {m : Move} {ms : List Move} {learned as : List RegistryAction}
      (hlearned : ∀ a ∈ learned, a.ReportsUnder c.pulledUnder) (h : Causes (c.move m) ms as) :
      Causes c (m :: ms) (c.asks m ++ (learned ++ as))

theorem Causes.append {c : Client} {ms ns : List Move} {as bs : List RegistryAction}
    (h : c.Causes ms as) (k : (c.play ms).Causes ns bs) : c.Causes (ms ++ ns) (as ++ bs) := by
  induction h with
  | nil c => exact k
  | cons hlearned _ ih =>
    rw [List.append_assoc, List.append_assoc]
    exact .cons hlearned (ih k)

/-- The answer to an open request that a move brings, and the file that was pulled, if the document
that made the request awaits it. -/
def answered (c : Client) : Move → List (Uri × Answer)
  | .act (.shared (.respond uri nth answer)) =>
    match Link.takeRequest uri nth c.env.link.requests with
    | none => []
    | some (r, _) =>
      match c.find? r.document with
      | none => []
      | some d => if d.awaits r.version = true then [(d.uri, answer)] else []
  | _ => []

/-- Right after a move the registry is what was asked and what the answer of the move taught. -/
theorem told_answered (c : Client) (m : Move) :
    c.told m = (c.env.registry.run (c.asks m)).store c.pulledUnder
      (newsOf c.env.resolver (c.answered m)) := by
  rcases m with ⟨uri, languageId, policy, settings, buffer, initialText⟩ | ⟨id, a⟩ | a
  · rfl
  · cases a with
    | close =>
      simp only [told, cleared, clearBeforeClose, asks]
      cases c.find? id with
      | none => rfl
      | some d =>
        dsimp only
        split <;> rfl
    | _ => rfl
  · cases a with
    | respond uri nth answer =>
      cases htaken : Link.takeRequest uri nth c.env.link.requests with
      | none =>
        simp only [told, answered, htaken]
        rfl
      | some taken =>
        obtain ⟨r, rest⟩ := taken
        simp only [told, answered, htaken, heed]
        cases c.find? r.document with
        | none => rfl
        | some d =>
          dsimp only
          split
          · rw [newsOf, List.flatMap_singleton]
            rfl
          · rfl
    | _ => rfl

theorem told_eq (c : Client) (m : Move) :
    ∃ learned, (∀ a ∈ learned, a.ReportsUnder c.pulledUnder) ∧
      c.told m = c.env.registry.run (c.asks m ++ learned) := by
  obtain ⟨learned, hlearned, hrun⟩ :=
    (c.env.registry.run (c.asks m)).exists_run_store c.pulledUnder
      (newsOf c.env.resolver (c.answered m))
  exact ⟨learned, hlearned, by rw [told_answered, hrun, Registry.run_append]⟩

theorem Sound.causes {c : Client} (hc : c.Sound) (ms : List Move) :
    ∃ as, c.Causes ms as ∧ (c.play ms).env.registry = c.env.registry.run as := by
  induction ms generalizing c with
  | nil => exact ⟨[], .nil c, rfl⟩
  | cons m ms ih =>
    obtain ⟨as, hcauses, hregistry⟩ := ih (hc.move m)
    obtain ⟨first, hfirst, htold⟩ := c.told_eq m
    obtain ⟨new, hnew⟩ := hc.proceeds_move m
    obtain ⟨others, hothers, hmove⟩ := hnew.registry.run
    have hafter : (c.move m).env.registry = c.env.registry.run (c.asks m ++ (first ++ others)) := by
      rw [hmove, toldEnv, htold, ← Registry.run_append, List.append_assoc]
    refine ⟨c.asks m ++ ((first ++ others) ++ as), .cons (fun a ha => ?_) hcauses, ?_⟩
    · exact (List.mem_append.mp ha).elim (hfirst a) (hothers a)
    · rw [play_cons, hregistry, hafter, ← Registry.run_append, List.append_assoc]

end Client

end DocSync
