import DocSync.Proofs.Client.Work
import DocSync.Proofs.Document.Pull

/-!
# Late answers

An answer to a pull reaches the registry only as long as the document that made the pull awaits it.
Once that document has stamped another version or is closed the answer comes too late, also if
another document of the same URI is at the same version. Besides what the user does to it, the
registry learns from nothing but answers.
-/
namespace DocSync

open Document (Outdated)

namespace Client

/-! ## What a move teaches -/

/-- The registry right after a move, before any document goes on by itself. -/
def told (c : Client) : Move → Registry
  | .create .. => c.env.registry
  | .act (.document id a) => (c.cleared id a).env.registry
  | .act (.shared a) =>
    match a with
    | .respond uri nth answer =>
      match Link.takeRequest uri nth c.env.link.requests with
      | none => c.env.registry
      | some (r, _) => c.heed r answer
    | .update uri identifier items => (c.env.registry.update uri identifier items).1
    | .markDisplayed uri => (c.env.registry.markDisplayed uri).1
    | .clear uri => c.env.registry.clear uri
    | .poll budget => (c.env.registry.poll budget).2
    | .happen _ | .advance _ => c.env.registry

def toldEnv (c : Client) (m : Move) : Environment := { c.env with registry := c.told m }

theorem takeRequest_subset {uri : String} {nth : Nat} {requests rest : List OpenRequest}
    {r : OpenRequest} (h : Link.takeRequest uri nth requests = some (r, rest)) :
    r ∈ requests ∧ rest ⊆ requests := by
  induction requests generalizing nth rest with
  | nil => cases h
  | cons first others ih =>
    have hskip {nth : Nat} (h : (Link.takeRequest uri nth others).map
        (fun x => (x.1, first :: x.2)) = some (r, rest)) :
        r ∈ first :: others ∧ rest ⊆ first :: others := by
      obtain ⟨⟨found, left⟩, htaken, heq⟩ := Option.map_eq_some_iff.mp h
      cases heq
      obtain ⟨hr, hleft⟩ := ih htaken
      exact ⟨List.mem_cons_of_mem _ hr, List.cons_subset_cons first hleft⟩
    unfold Link.takeRequest at h
    split at h
    · cases nth with
      | zero =>
        cases h
        exact ⟨List.mem_cons_self, List.subset_cons_self _ _⟩
      | succ nth => exact hskip h
    · exact hskip h

/-- Right after a move the registry is what the move teaches, and no request was opened. -/
theorem proceeds_prompted (c : Client) (m : Move) : (c.toldEnv m).Proceeds [] (c.prompted m) := by
  have hquiet (e : Environment) (hh : e.history = c.env.history)
      (hr : e.link.requests ⊆ c.env.link.requests)
      (hi : e.feature.identifier = c.env.feature.identifier) (hres : e.resolver = c.env.resolver)
      (hreg : e.registry = c.told m) : (c.toldEnv m).Proceeds [] e :=
    ⟨by rw [hh, List.append_nil]; rfl, fun _ h => .inl (hr h), hi, hres, hreg ▸ .nil _⟩
  rcases m with ⟨uri, languageId, policy, settings, buffer, initialText⟩ | ⟨id, a⟩ | a
  · exact .refl _
  · obtain ⟨r, hr⟩ := c.cleared_eq id a
    have hprompted : c.prompted (.act (.document id a)) = c.toldEnv (.act (.document id a)) := by
      rw [prompted, toldEnv, told, hr]
      rfl
    rw [hprompted]
    exact .refl _
  · cases a with
    | happen i => cases i <;> exact hquiet _ rfl (List.Subset.refl _) rfl rfl rfl
    | respond uri nth answer =>
      cases htaken : Link.takeRequest uri nth c.env.link.requests with
      | none =>
        simp only [prompted, htaken]
        exact hquiet _ rfl (List.Subset.refl _) rfl rfl (by simp only [told, htaken])
      | some taken =>
        simp only [prompted, htaken]
        exact hquiet _ rfl (takeRequest_subset htaken).2 rfl rfl (by simp only [told, htaken])
    | _ => exact hquiet _ rfl (List.Subset.refl _) rfl rfl rfl

end Client

theorem Environment.Works.proceeds {e e' : Environment} (h : e.Works e') :
    ∃ new, e.Proceeds new e' := by
  induction h with
  | refl e => exact ⟨[], .refl e⟩
  | trans _ _ ih ih' =>
    obtain ⟨xs, hxs⟩ := ih
    obtain ⟨ys, hys⟩ := ih'
    exact ⟨xs ++ ys, hxs.trans hys⟩
  | turn h => exact ⟨_, h.proceeds⟩
  | clock e now => exact ⟨[], .silent (List.append_nil _).symm rfl rfl rfl rfl⟩

namespace Client

theorem Sound.proceeds_move {c : Client} (hc : c.Sound) (m : Move) :
    ∃ new, (c.toldEnv m).Proceeds new (c.move m).env := by
  obtain ⟨new, hnew⟩ := (hc.works_move m).proceeds
  exact ⟨new, (c.proceeds_prompted m).trans hnew⟩

/-! ## Who asked -/

theorem issued_play (env : Environment) (ms : List Move) :
    ∀ r ∈ ((start env).play ms).env.link.requests, r ∈ env.link.requests ∨
      (((start env).play ms).log r.document).Pulled r.version := by
  induction ms using List.reverseRecOn with
  | nil => exact fun r hr => .inl hr
  | append_singleton ms m ih =>
    intro r hr
    rw [play_concat] at hr ⊢
    obtain ⟨new, hnew⟩ := (sound_play env ms).proceeds_move m
    have hhistory : (((start env).play ms).move m).env.history =
        ((start env).play ms).env.history ++ new := hnew.history
    rcases hnew.requests r hr with hr | ⟨x, hx, hid, cause, request, hevent⟩
    · refine (ih r hr).imp_right fun hpulled => ?_
      rw [log, hhistory, logOf_append]
      exact hpulled.append _
    · have hmem := mem_log (c := ((start env).play ms).move m) (x := x)
        (hhistory ▸ List.mem_append_right _ hx)
      rw [hid, hevent] at hmem
      exact .inr ⟨x.time, cause, request, hmem⟩

/-- What joins the history in a move was pulled by documents that await it. -/
theorem Sound.pulled_move {c : Client} (hc : c.Sound) {m : Move} {new : List Entry}
    (hnew : (c.move m).env.history = c.env.history ++ new) {x : Entry} (hx : x ∈ new)
    {cause : PullCause} {v : PullVersion} {request : DiagnosticRequest}
    (hevent : x.event = .pulled cause v request) :
    ∃ d ∈ (c.move m).documents, d.id = x.document ∧ d.awaits v = true := by
  have hlog : (c.move m).log x.document = c.log x.document ++ logOf x.document new := by
    rw [log, hnew, logOf_append, log]
  have hmem : (x.time, .pulled cause v request) ∈ logOf x.document new :=
    List.mem_filterMap.mpr ⟨x, hx, by rw [if_pos rfl, hevent]⟩
  have hne : (c.move m).log x.document ≠ [] := by
    rw [hlog]
    exact List.ne_nil_of_mem (List.mem_append_right _ hmem)
  obtain ⟨d, hd, hid⟩ := (hc.move m).speaker hne
  refine ⟨d, hd, hid, ?_⟩
  rcases hc.source hd with ⟨e, -, l, hcourse, hl, -⟩ | ⟨-, -, hl, -⟩
  · rw [hid, hlog, List.append_cancel_left_eq] at hl
    exact hcourse.pulled (hl ▸ hmem)
  · rw [hid] at hl
    exact absurd hl hne

/-! ## Answers -/

def Move.answer (uri : String) (nth : Nat) (answer : Answer) : Move :=
  .act (.shared (.respond uri nth answer))

theorem Sound.registry_answer {c : Client} (hc : c.Sound) {uri : String} {nth : Nat}
    (answer : Answer) {r : OpenRequest} {rest : List OpenRequest}
    (htaken : Link.takeRequest uri nth c.env.link.requests = some (r, rest)) {d : Document}
    (hd : d ∈ c.documents) (hid : d.id = r.document) :
    (c.move (.answer uri nth answer)).env.registry =
      if d.awaits r.version = true then c.env.learn d.uri answer else c.env.registry := by
  have hmove : c.move (.answer uri nth answer) = (c.respond uri nth answer).1 := rfl
  rw [hmove, respond_eq hc.distinct hc.rests, htaken]
  simp only [heed, ← hid, find?_of_mem hc.distinct hd]

/-- An answer without a report teaches nothing, whoever asked. -/
theorem Sound.registry_void {c : Client} (hc : c.Sound) (uri : String) (nth : Nat) {answer : Answer}
    (h : ∀ message report, answer = .ok message → Report.ofAnswer message ≠ .ok (some report)) :
    (c.move (.answer uri nth answer)).env.registry = c.env.registry := by
  have hlearn (own : Uri) : c.env.learn own answer = c.env.registry := by
    rw [Environment.learn, answerNews_eq_nil h]
    rfl
  have hmove : c.move (.answer uri nth answer) = (c.respond uri nth answer).1 := rfl
  rw [hmove, respond_eq hc.distinct hc.rests]
  split
  · rfl
  · simp only [heed]
    split
    · rfl
    · rw [hlearn, ite_self]

theorem Sound.outdated_play {c : Client} (hc : c.Sound) {d : Document} (hd : d ∈ c.documents)
    {v : PullVersion} (h : d.Outdated v) (ms : List Move) :
    ∃ d' ∈ (c.play ms).documents, d'.id = d.id ∧ d'.Outdated v := by
  obtain ⟨d', hd', hid⟩ := List.mem_map.mp (hc.ids_subset_play ms (mem_ids hd))
  refine ⟨d', hd', hid, hc.lasting (P := fun e => e.Outdated v) ?_ ?_ hd h ms d' hd' hid⟩
  · exact fun hcall he => he.call hcall
  · exact fun hcourse he => he.course hcourse

/-- How answers reach the registry at one moment of a run, and from then on. -/
structure Reception (env : Environment) (c : Client) : Prop where
  /-- Every open request is the pull of a document, if it was not open from the start. -/
  issued : ∀ r ∈ c.env.link.requests, r ∈ env.link.requests ∨
    ∃ d ∈ c.documents, d.id = r.document ∧ (c.log d.id).Pulled r.version
  /-- The answer to a pull that is not outdated is taken in. -/
  timely : ∀ uri nth answer r rest,
    Link.takeRequest uri nth c.env.link.requests = some (r, rest) →
      ∀ d ∈ c.documents, d.id = r.document → (c.log d.id).Pulled r.version →
        ¬ d.Outdated r.version →
          (c.move (.answer uri nth answer)).env.registry = c.env.learn d.uri answer
  /-- Whatever happens after a pull was outdated, its answer has no effect. -/
  late : ∀ d ∈ c.documents, ∀ v, d.Outdated v → ∀ ms uri nth answer r rest,
    Link.takeRequest uri nth (c.play ms).env.link.requests = some (r, rest) →
      r.document = d.id → r.version = v →
        ((c.play ms).move (.answer uri nth answer)).env.registry = (c.play ms).env.registry
  void : ∀ uri nth (answer : Answer),
    (∀ message report, answer = .ok message → Report.ofAnswer message ≠ .ok (some report)) →
      (c.move (.answer uri nth answer)).env.registry = c.env.registry
  /-- Apart from what the move itself does to it, the registry learns in a move from answers that
  come at once, to pulls of documents that are not outdated. -/
  learned : ∀ m, ∃ new, (c.move m).env.history = c.env.history ++ new ∧
    Learns (c.env.feature.identifier.getD pullIdentifier) c.env.resolver (c.told m) new
      (c.move m).env.registry ∧
    ∀ x ∈ new, ∀ cause v request, x.event = .pulled cause v request →
      ∃ d ∈ (c.move m).documents, d.id = x.document ∧ ¬ d.Outdated v

theorem reception (env : Environment) (ms : List Move) :
    Reception env ((start env).play ms) := by
  have hc := sound_play env ms
  have hissued := issued_play env ms
  have hpulls := Document.pulls_invariant.play env ms
  generalize (start env).play ms = c at hc hissued hpulls ⊢
  refine ⟨?_, ?_, ?_, fun uri nth answer h => hc.registry_void uri nth h, ?_⟩
  · intro r hr
    refine (hissued r hr).imp_right fun hpulled => ?_
    obtain ⟨d, hd, hid⟩ := hc.speaker hpulled.ne_nil
    exact ⟨d, hd, hid, hid ▸ hpulled⟩
  · intro uri nth answer r rest htaken d hd hid hpulled houtdated
    have hle : ∀ u, r.version = .exact u → u.value ≤ d.version.value := by
      intro u hu
      rw [hu] at hpulled
      obtain ⟨t, cause, request, hmem⟩ := hpulled
      obtain ⟨before, after, hl⟩ := List.append_of_mem hmem
      exact ((hpulls d hd).2.pulled before t cause u request after hl).1
    rw [hc.registry_answer answer htaken hd hid,
      if_pos (Document.awaits_of_not_outdated houtdated hle)]
  · rintro d hd v houtdated later uri nth answer r rest htaken hid rfl
    obtain ⟨d', hd', hid', hlate⟩ := hc.outdated_play hd houtdated later
    rw [(hc.play later).registry_answer answer htaken hd' (hid'.trans hid.symm),
      if_neg (by simp [hlate.not_awaits])]
  · intro m
    obtain ⟨new, hnew⟩ := hc.proceeds_move m
    refine ⟨new, hnew.history, hnew.registry, fun x hx cause v request hevent => ?_⟩
    obtain ⟨d, hd, hid, hawaits⟩ := hc.pulled_move hnew.history hx hevent
    refine ⟨d, hd, hid, fun houtdated => ?_⟩
    rw [houtdated.not_awaits] at hawaits
    cases hawaits

/-- A ready server that offers pulls. -/
def offering : Environment := { plain with feature := ⟨true, none⟩ }

/-- A document is closed before its pull is answered, and one of the same URI is opened. -/
def reopened : List Move :=
  let create : Move := .create ⟨"file:///a"⟩ "text" ⟨.full, true, .disabled⟩ .forHeadless "a" none
  let document (generation : Nat) (a : DocumentAction) : Move :=
    .act (.document ⟨⟨"file:///a"⟩, generation⟩ a)
  [create, document 0 .beginOpen, document 0 .close, create, document 1 .beginOpen]

/-- An answer with one diagnostic. -/
def finding : Answer :=
  let place : Json := .obj [("line", .num (.int 0)), ("character", .num (.int 0))]
  .ok (.obj [("kind", .str "full"), ("items", .arr [.obj [
    ("range", .obj [("start", place), ("end", place)]), ("message", .str "odd")]])])

/-- Both documents pulled for version 1; only the answer to the second one counts. -/
theorem reception_reopened :
    let c := (start offering).play reopened
    c.env.link.requests.map (fun r => (r.document.generation, r.version)) =
        [(0, .exact ⟨1⟩), (1, .exact ⟨1⟩)] ∧
      (c.move (.answer "file:///a" 0 finding)).env.registry = c.env.registry ∧
      (c.move (.answer "file:///a" 1 finding)).env.registry ≠ c.env.registry := by
  refine ⟨by decide, ?_, by decide⟩
  obtain ⟨d, hd, hid, houtdated⟩ : ∃ d ∈ ((start offering).play reopened).documents,
      d.id = ⟨⟨"file:///a"⟩, 0⟩ ∧ d.Outdated (.exact ⟨1⟩) := by
    have hclosed : ∃ d ∈ ((start offering).play reopened).documents,
        d.id = ⟨⟨"file:///a"⟩, 0⟩ ∧ d.phase = .closed := by decide
    obtain ⟨d, hd, hid, hp⟩ := hclosed
    exact ⟨d, hd, hid, .inl hp⟩
  exact (reception offering reopened).late d hd _ houtdated [] _ _ _ _ _ rfl hid.symm rfl

end Client

end DocSync
