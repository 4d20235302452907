import DocSync.Proofs.Client.Effects
import DocSync.Proofs.Client.Work

/-!
# Scripted answers

A scripted answer goes to the next pull about its URI, and since only awaited pulls go out it is
always taken in. So what the registry learns while documents are at work can be told from the script
and from the pulls that join the history. Together with the answer that a move may bring, this is
all that a move teaches the registry.
-/
namespace DocSync

/-! ## Reading the script -/

namespace Entry

/-- The scripted answer that an entry takes if it is a pull, and the file that was pulled. -/
def hears (x : Entry) (answers : List (String × Answer)) : List (Uri × Answer) :=
  if x.event.isPull then
    ((answers.lookup x.document.uri.text).map fun answer => (x.document.uri, answer)).toList
  else []

/-- What an entry leaves of a script. -/
def leaves (x : Entry) (answers : List (String × Answer)) : List (String × Answer) :=
  if x.event.isPull then answers.eraseP fun a => a.1 == x.document.uri.text else answers

end Entry

/-- The answers that some entries take off a script. -/
def recited : List (String × Answer) → List Entry → List (Uri × Answer)
  | _, [] => []
  | answers, x :: xs => x.hears answers ++ recited (x.leaves answers) xs

/-- The script without them. -/
def unrecited (answers : List (String × Answer)) (xs : List Entry) : List (String × Answer) :=
  xs.foldl (fun answers x => x.leaves answers) answers

theorem recited_append (answers : List (String × Answer)) (xs ys : List Entry) :
    recited answers (xs ++ ys) = recited answers xs ++ recited (unrecited answers xs) ys := by
  induction xs generalizing answers with
  | nil => rfl
  | cons x xs ih =>
    rw [List.cons_append, recited, ih, recited, List.append_assoc]
    rfl

theorem unrecited_append (answers : List (String × Answer)) (xs ys : List Entry) :
    unrecited answers (xs ++ ys) = unrecited (unrecited answers xs) ys := List.foldl_append

/-- One environment follows another while entries join the history, and all that the registry learns
are the answers that these take off the script. -/
structure Environment.Recites (e : Environment) (new : List Entry) (e' : Environment) : Prop where
  history : e'.history = e.history ++ new
  answers : e'.link.answers = unrecited e.link.answers new
  identifier : e'.feature.identifier = e.feature.identifier
  resolver : e'.resolver = e.resolver
  registry : e'.registry = e.registry.store (e.feature.identifier.getD pullIdentifier)
    (newsOf e.resolver (recited e.link.answers new))

namespace Environment.Recites

theorem refl (e : Environment) : e.Recites [] e :=
  ⟨(List.append_nil _).symm, rfl, rfl, rfl, rfl⟩

theorem trans {a b c : Environment} {xs ys : List Entry} (h : a.Recites xs b)
    (k : b.Recites ys c) : a.Recites (xs ++ ys) c where
  history := by rw [k.history, h.history, List.append_assoc]
  answers := by rw [k.answers, h.answers, unrecited_append]
  identifier := k.identifier.trans h.identifier
  resolver := k.resolver.trans h.resolver
  registry := by
    rw [k.registry, h.registry, h.identifier, h.resolver, h.answers, recited_append, newsOf_append,
      Registry.store, Registry.store, Registry.store, List.foldl_append]

/-- Nothing is heard of what is no pull. -/
theorem quiet {e e' : Environment} {new : List Entry} (hnew : ∀ x ∈ new, x.event.isPull = false)
    (hhistory : e'.history = e.history ++ new) (hanswers : e'.link.answers = e.link.answers)
    (hidentifier : e'.feature.identifier = e.feature.identifier)
    (hresolver : e'.resolver = e.resolver) (hregistry : e'.registry = e.registry) :
    e.Recites new e' := by
  have hunheard : ∀ answers : List (String × Answer),
      recited answers new = [] ∧ unrecited answers new = answers := by
    clear hhistory
    induction new with
    | nil => exact fun _ => ⟨rfl, rfl⟩
    | cons x xs ih =>
      intro answers
      have hx := hnew x List.mem_cons_self
      have hleaves : x.leaves answers = answers := by rw [Entry.leaves, hx]; rfl
      have hhears : x.hears answers = [] := by rw [Entry.hears, hx]; rfl
      obtain ⟨hrecited, hunrecited⟩ := ih (fun y hy => hnew y (List.mem_cons_of_mem x hy)) answers
      refine ⟨by rw [recited, hhears, hleaves, hrecited, List.nil_append], ?_⟩
      rw [unrecited, List.foldl_cons, hleaves]
      exact hunrecited
  obtain ⟨hrecited, hunrecited⟩ := hunheard e.link.answers
  exact ⟨hhistory, by rw [hanswers, hunrecited], hidentifier, hresolver,
    by rw [hregistry, hrecited]; rfl⟩

end Environment.Recites

/-! ## Turns -/

theorem Turn.recites_request (t : Turn) (cause : PullCause) {v : PullVersion}
    (h : t.doc.awaits v = true) :
    t.env.Recites [⟨t.env.now, t.doc.id, .pulled cause v ⟨t.doc.uri, t.env.feature.identifier⟩⟩]
      (t.request cause v).env := by
  generalize hx : (⟨t.env.now, t.doc.id,
    .pulled cause v ⟨t.doc.uri, t.env.feature.identifier⟩⟩ : Entry) = x
  let noted (link : Link) : Turn := { t.note x.event with env.link := link }
  have hnoted (link : Link) : (noted link).env.history = t.env.history ++ [x] := by
    show t.env.history ++ [_] = _
    rw [← hx]
  have hleft : (t.env.link.takeAnswer t.doc.uri.text).2.answers = x.leaves t.env.link.answers := by
    rw [← hx]
    rfl
  have hheard : recited t.env.link.answers [x] =
      ((t.env.link.answers.lookup t.doc.uri.text).map
        fun answer => (t.doc.uri, answer)).toList := by
    rw [recited, recited, List.append_nil, ← hx]
    rfl
  have hevent : x.event = .pulled cause v ⟨t.doc.uri, t.env.feature.identifier⟩ := by rw [← hx]
  unfold request
  simp only [← hevent]
  split
  · rename_i answer link htaken
    have hanswer : t.env.link.answers.lookup t.doc.uri.text = some answer :=
      congrArg Prod.fst htaken
    have haccept : (noted link).accept v answer =
        { noted link with env.registry := (noted link).env.learn t.doc.uri answer } := by
      rw [accept_eq]
      exact if_pos h
    obtain rfl : (t.env.link.takeAnswer t.doc.uri.text).2 = link := congrArg Prod.snd htaken
    show t.env.Recites [x] ((noted _).accept v answer).env
    rw [haccept]
    refine ⟨hnoted (t.env.link.takeAnswer t.doc.uri.text).2, hleft, rfl, rfl, ?_⟩
    rw [hheard, hanswer, Option.map_some, Option.toList_some, newsOf, List.flatMap_singleton]
    rfl
  · rename_i link htaken
    have hanswer : t.env.link.answers.lookup t.doc.uri.text = none := congrArg Prod.fst htaken
    obtain rfl : (t.env.link.takeAnswer t.doc.uri.text).2 = link := congrArg Prod.snd htaken
    refine ⟨hnoted _, hleft, rfl, rfl, ?_⟩
    rw [hheard, hanswer]
    rfl

theorem Turn.Emits.recites {t u : Turn} {es : List Event} (h : t.Emits es u) :
    t.env.Recites (es.map fun e => ⟨t.env.now, t.doc.id, e⟩) u.env := by
  induction h with
  | document t d hid => exact .refl t.env
  | note t h =>
    refine .quiet (fun x hx => ?_) rfl rfl rfl rfl rfl
    rw [List.mem_singleton.mp hx]
    exact h
  | hand t n =>
    refine .quiet (fun x hx => ?_) rfl rfl rfl rfl rfl
    rw [List.mem_singleton.mp hx]
    rfl
  | request t cause h => exact t.recites_request cause h
  | trans h _ ih ih' =>
    rw [h.world.now, h.id] at ih'
    rw [List.map_append]
    exact ih.trans ih'

theorem Environment.Works.recites {e e' : Environment} (h : e.Works e') :
    ∃ new, e.Recites new e' := by
  induction h with
  | refl e => exact ⟨[], .refl e⟩
  | trans _ _ ih ih' =>
    obtain ⟨xs, hxs⟩ := ih
    obtain ⟨ys, hys⟩ := ih'
    exact ⟨xs ++ ys, hxs.trans hys⟩
  | turn h => exact ⟨_, h.recites⟩
  | clock e now => exact ⟨[], .quiet (by simp) (List.append_nil _).symm rfl rfl rfl rfl⟩

/-! ## Moves -/

namespace Client

/-- The script that documents find when they go on after a move. -/
def scripted (c : Client) : Move → List (String × Answer)
  | .act (.shared (.happen (.script uri answer))) => c.env.link.answers ++ [(uri, answer)]
  | _ => c.env.link.answers

/-- The entries that a move adds to the history. -/
def entries (c : Client) (m : Move) : List Entry :=
  (c.move m).env.history.drop c.env.history.length

/-- All answers that are taken in during a move, and the files that were pulled. -/
def takenIn (c : Client) (m : Move) : List (Uri × Answer) :=
  c.answered m ++ recited (c.scripted m) (c.entries m)

/-- What a move does to what documents share, besides what it teaches. -/
structure Prompts (c : Client) (m : Move) (e : Environment) : Prop where
  history : e.history = c.env.history
  answers : e.link.answers = c.scripted m
  identifier : e.feature.identifier = c.env.feature.identifier
  resolver : e.resolver = c.env.resolver
  registry : e.registry = c.told m

theorem prompts_prompted (c : Client) (m : Move) : c.Prompts m (c.prompted m) := by
  rcases m with ⟨uri, languageId, policy, settings, buffer, initialText⟩ | ⟨id, a⟩ | a
  · exact ⟨rfl, rfl, rfl, rfl, rfl⟩
  · obtain ⟨r, hr⟩ := c.cleared_eq id a
    have hprompted : c.prompted (.act (.document id a)) = { c.env with registry := r } := by
      rw [prompted, hr]
      rfl
    have htold : c.told (.act (.document id a)) = r := by
      rw [told, hr]
      rfl
    rw [hprompted]
    exact ⟨rfl, rfl, rfl, rfl, htold.symm⟩
  · cases a with
    | happen i => cases i <;> exact ⟨rfl, rfl, rfl, rfl, rfl⟩
    | respond uri nth answer =>
      cases htaken : Link.takeRequest uri nth c.env.link.requests with
      | none =>
        simp only [prompted, htaken]
        exact ⟨rfl, rfl, rfl, rfl, by simp only [told, htaken]⟩
      | some taken =>
        simp only [prompted, htaken]
        exact ⟨rfl, rfl, rfl, rfl, by simp only [told, htaken]⟩
    | _ => exact ⟨rfl, rfl, rfl, rfl, rfl⟩

/-- What becomes of the registry in a move is told by what the move asks of it and by the answers
that are taken in. -/
theorem Sound.registry_move {c : Client} (hc : c.Sound) (m : Move) :
    (c.move m).env.registry = (c.env.registry.run (c.asks m)).store c.pulledUnder
      (newsOf c.env.resolver (c.takenIn m)) := by
  have hprompts := c.prompts_prompted m
  obtain ⟨new, hnew⟩ := (hc.works_move m).recites
  have hentries : c.entries m = new := by
    rw [entries, hnew.history, hprompts.history, List.drop_left]
  rw [hnew.registry, hprompts.registry, hprompts.identifier, hprompts.resolver, hprompts.answers,
    told_answered, takenIn, hentries, newsOf_append, Registry.store, Registry.store, Registry.store,
    List.foldl_append]
  rfl

/-- Neither the identifier of pulls nor the meaning of URIs ever changes. -/
theorem Sound.setup_move {c : Client} (hc : c.Sound) (m : Move) :
    (c.move m).env.feature.identifier = c.env.feature.identifier ∧
      (c.move m).env.resolver = c.env.resolver := by
  have hprompts := c.prompts_prompted m
  obtain ⟨new, hnew⟩ := (hc.works_move m).recites
  exact ⟨hnew.identifier.trans hprompts.identifier, hnew.resolver.trans hprompts.resolver⟩

end Client

end DocSync
