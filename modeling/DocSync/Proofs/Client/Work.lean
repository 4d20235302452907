import DocSync.Proofs.Client.Play

/-!
# What a move does to what documents share

A move has an effect of its own on what documents share, and the rest of it is the work of turns
while the clock is moved on. So what the parts of a turn and the clock respect is respected by every
move, after its own effect.
-/
namespace DocSync

/-- What becomes of the things that documents share while documents are at work. -/
inductive Environment.Works : Environment → Environment → Prop
  | refl (e : Environment) : Works e e
  | trans {a b c : Environment} (h : Works a b) (k : Works b c) : Works a c
  | turn {t u : Turn} {es : List Event} (h : t.Emits es u) : Works t.env u.env
  | clock (e : Environment) (now : Nat) : Works e { e with now := now }

namespace Client

theorem works_progressAll (ds : List Document) (env : Environment) :
    env.Works (progressAll ds env).2 := by
  induction ds generalizing env with
  | nil => exact .refl env
  | cons d rest ih =>
    obtain ⟨_, he, -⟩ := Turn.goes_progress ⟨d, env⟩
    exact (Environment.Works.turn he).trans (ih _)

theorem works_progress (c : Client) : c.env.Works c.progress.env :=
  works_progressAll c.documents c.env

theorem works_runUntil (c : Client) (target fuel : Nat) :
    c.env.Works (runUntil fuel target c).env := by
  have hclock (c : Client) (now : Nat) : c.env.Works (c.setClock now).progress.env :=
    (Environment.Works.clock c.env now).trans (works_progress (c.setClock now))
  induction fuel generalizing c with
  | zero => exact hclock c target
  | succ fuel ih =>
    unfold runUntil
    cases c.nextDue? target with
    | none => exact hclock c target
    | some due => exact (hclock c due).trans (ih _)

/-- What documents share right after a move, before any document goes on by itself. -/
def prompted (c : Client) : Move → Environment
  | .create .. => c.env
  | .act (.document id a) => (c.cleared id a).env
  | .act (.shared a) =>
    match a with
    | .happen i => i.occur c.env
    | .advance _ => c.env
    | .respond uri nth answer =>
      match Link.takeRequest uri nth c.env.link.requests with
      | none => c.env
      | some (r, rest) => { c.env with link.requests := rest, registry := c.heed r answer }
    | .update uri identifier items =>
      { c.env with registry := (c.env.registry.update uri identifier items).1 }
    | .markDisplayed uri => { c.env with registry := (c.env.registry.markDisplayed uri).1 }
    | .clear uri => { c.env with registry := c.env.registry.clear uri }
    | .poll budget => { c.env with registry := (c.env.registry.poll budget).2 }

theorem works_happen (c : Client) (i : Incident) : (i.occur c.env).Works (c.happen i).env := by
  rw [happen_eq]
  split
  · exact works_progress { c with env := i.occur c.env }
  · exact .refl _

/-- After its own effect a move is the work of documents. -/
theorem Sound.works_move {c : Client} (hc : c.Sound) (m : Move) :
    (c.prompted m).Works (c.move m).env := by
  rcases m with ⟨uri, languageId, policy, settings, buffer, initialText⟩ | ⟨id, a⟩ | a
  · exact .refl _
  · cases hf : c.find? id with
    | none =>
      have hcleared : c.cleared id a = c := by
        cases a with
        | close => simp [cleared, clearBeforeClose, hf]
        | _ => rfl
      rw [move_of_unknown hf, prompted, hcleared]
      exact .refl _
    | some d =>
      obtain ⟨hd, rfl⟩ := find?_eq_some hf
      obtain ⟨es, he⟩ := Turn.emits_perform ⟨d, (c.cleared d.id a).env⟩ a
      have hmove : c.move (.act (.document d.id a)) = (c.performOn d a).1 := by
        simp only [Client.move, step, perform, hf, Option.map_some, Option.getD_some]
      rw [hmove, performOn_eq hc.distinct hc.rests hd]
      exact .turn he
  · cases a with
    | happen i => exact c.works_happen i
    | advance millis => exact c.works_runUntil _ _
    | respond uri nth answer =>
      have hmove : c.move (.act (.shared (.respond uri nth answer))) =
          (c.respond uri nth answer).1 := rfl
      rw [hmove, respond_eq hc.distinct hc.rests]
      simp only [prompted]
      cases Link.takeRequest uri nth c.env.link.requests <;> exact .refl _
    | _ => exact .refl _

end Client

end DocSync
