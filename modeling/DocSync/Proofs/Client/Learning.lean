import DocSync.Client.Pull

/-!
# What the registry learns

An answer that holds a report brings news; one that failed, null and what is malformed bring none.
While the history grows, the registry learns from answers to the pulls that join it, and from
nothing else, and only these pulls join the open requests.
-/
namespace DocSync

/-- The news in an answer to a pull. There is none unless the answer holds a report. -/
def answerNews (resolver : Resolver) (own : Uri) : Answer → List (Uri × List Diagnostic)
  | .error _ => []
  | .ok answer =>
    match Report.ofAnswer answer with
    | .ok (some report) => report.news resolver own
    | _ => []

theorem answerNews_eq_nil {answer : Answer}
    (h : ∀ message report, answer = .ok message → Report.ofAnswer message ≠ .ok (some report))
    (resolver : Resolver) (own : Uri) : answerNews resolver own answer = [] := by
  unfold answerNews
  split
  · rfl
  · rename_i message
    split
    · rename_i report hreport
      exact absurd hreport (h message report rfl)
    · rfl

/-- The registry with the news of an answer to a pull about a file. -/
def Environment.learn (e : Environment) (own : Uri) (answer : Answer) : Registry :=
  e.registry.store (e.feature.identifier.getD pullIdentifier) (answerNews e.resolver own answer)

theorem Environment.learn_report (e : Environment) (own : Uri) {message : Json} {report : Report}
    (h : Report.ofAnswer message = .ok (some report)) :
    e.learn own (.ok message) =
      e.registry.store (e.feature.identifier.getD pullIdentifier) (report.news e.resolver own) := by
  rw [learn, answerNews, h]

/-- An answer is taken in exactly if its pull is still awaited. -/
theorem Turn.accept_eq (t : Turn) (v : PullVersion) (answer : Answer) :
    t.accept v answer =
      if t.doc.awaits v = true then { t with env.registry := t.env.learn t.doc.uri answer }
      else t := by
  cases answer with
  | error e => simp [accept, Environment.learn, answerNews, Registry.store]
  | ok message =>
    cases hreport : Report.ofAnswer message with
    | error e => simp [accept, Environment.learn, answerNews, Registry.store, hreport]
    | ok report =>
      cases report with
      | none => simp [accept, Environment.learn, answerNews, Registry.store, hreport]
      | some report => simp [accept, Environment.learn, answerNews, hreport]

/-- The registry after some entries joined the history; each pull may have been answered at once. -/
inductive Learns (identifier : String) (resolver : Resolver) :
    Registry → List Entry → Registry → Prop
  | nil (r : Registry) : Learns identifier resolver r [] r
  | silent {r r' : Registry} {new : List Entry} (x : Entry)
      (h : Learns identifier resolver r new r') : Learns identifier resolver r (x :: new) r'
  | answer {r r' : Registry} {new : List Entry} {x : Entry} {cause : PullCause} {v : PullVersion}
      {request : DiagnosticRequest} (hx : x.event = .pulled cause v request) (answer : Answer)
      (h : Learns identifier resolver
        (r.store identifier (answerNews resolver x.document.uri answer)) new r') :
      Learns identifier resolver r (x :: new) r'

namespace Learns

variable {identifier : String} {resolver : Resolver}

theorem refl (r : Registry) (new : List Entry) : Learns identifier resolver r new r := by
  induction new with
  | nil => exact .nil r
  | cons x new ih => exact .silent x ih

theorem append {a b c : Registry} {xs ys : List Entry} (h : Learns identifier resolver a xs b)
    (k : Learns identifier resolver b ys c) : Learns identifier resolver a (xs ++ ys) c := by
  induction h with
  | nil => exact k
  | silent x _ ih => exact .silent x (ih k)
  | answer hx answer _ ih => exact .answer hx answer (ih k)

/-- Without pulls there is nothing to learn. -/
theorem eq_of_unpulled {r r' : Registry} {new : List Entry}
    (h : Learns identifier resolver r new r')
    (hnew : ∀ x ∈ new, ∀ cause v request, x.event ≠ .pulled cause v request) : r' = r := by
  induction h with
  | nil => rfl
  | silent x _ ih => exact ih fun y hy => hnew y (List.mem_cons_of_mem x hy)
  | answer hx => exact absurd hx (hnew _ List.mem_cons_self _ _ _)

end Learns

/-- Whether an entry of the history is the pull that an open request belongs to. -/
def Entry.Opens (x : Entry) (r : OpenRequest) : Prop :=
  x.document = r.document ∧ ∃ cause request, x.event = .pulled cause r.version request

/-- One environment follows another while entries join the history. -/
structure Environment.Proceeds (e : Environment) (new : List Entry) (e' : Environment) : Prop where
  history : e'.history = e.history ++ new
  requests : ∀ r ∈ e'.link.requests, r ∈ e.link.requests ∨ ∃ x ∈ new, x.Opens r
  identifier : e'.feature.identifier = e.feature.identifier
  resolver : e'.resolver = e.resolver
  registry : Learns (e.feature.identifier.getD pullIdentifier) e.resolver e.registry new e'.registry

namespace Environment.Proceeds

/-- Entries join the history, and there is nothing to learn from them. -/
theorem silent {e e' : Environment} {new : List Entry} (hhistory : e'.history = e.history ++ new)
    (hrequests : e'.link.requests = e.link.requests)
    (hidentifier : e'.feature.identifier = e.feature.identifier)
    (hresolver : e'.resolver = e.resolver) (hregistry : e'.registry = e.registry) :
    e.Proceeds new e' :=
  ⟨hhistory, fun _ hr => .inl (hrequests ▸ hr), hidentifier, hresolver, hregistry ▸ .refl _ new⟩

theorem refl (e : Environment) : e.Proceeds [] e :=
  silent (List.append_nil _).symm rfl rfl rfl rfl

theorem trans {a b c : Environment} {xs ys : List Entry} (h : a.Proceeds xs b)
    (k : b.Proceeds ys c) : a.Proceeds (xs ++ ys) c := by
  refine ⟨?_, ?_, k.identifier.trans h.identifier, k.resolver.trans h.resolver, ?_⟩
  · rw [k.history, h.history, List.append_assoc]
  · intro r hr
    rcases k.requests r hr with hr | ⟨x, hx, hopens⟩
    · rcases h.requests r hr with hr | ⟨x, hx, hopens⟩
      · exact .inl hr
      · exact .inr ⟨x, List.mem_append_left ys hx, hopens⟩
    · exact .inr ⟨x, List.mem_append_right xs hx, hopens⟩
  · have hlater := k.registry
    rw [h.identifier, h.resolver] at hlater
    exact h.registry.append hlater

end Environment.Proceeds

end DocSync
