import DocSync.Proofs.Client.Effects
import DocSync.Proofs.Wire.Report

/-!
# Taking a report in

News is stored one file after the other, so that of several entries for one file the last one
counts. Entries on related documents come after the report's own diagnostics and in the order of
their URIs, whatever order they were written in. Different URIs may resolve to one file, and also to
the file that was pulled.
-/
namespace DocSync

namespace Registry

theorem store_append (r : Registry) (i : String) (news more : List (Uri × List Diagnostic)) :
    r.store i (news ++ more) = (r.store i news).store i more := List.foldl_append

theorem store_cons (r : Registry) (i : String) (x : Uri × List Diagnostic)
    (news : List (Uri × List Diagnostic)) :
    r.store i (x :: news) = (r.update x.1 i x.2).1.store i news := rfl

/-- A file that there is no news on keeps its record. -/
theorem file_store_of_no_news {news : List (Uri × List Diagnostic)} {uri : Uri}
    (h : ∀ x ∈ news, x.1 ≠ uri) (r : Registry) (i : String) :
    (r.store i news).file uri = r.file uri := by
  induction news generalizing r with
  | nil => rfl
  | cons x news ih =>
    have hne : uri ≠ x.1 := (h x List.mem_cons_self).symm
    rw [store_cons, ih fun y hy => h y (List.mem_cons_of_mem x hy), file_update,
      if_neg fun hx => hne hx.1]

theorem slot_store_of_ne (r : Registry) {i j : String} (h : j ≠ i)
    (news : List (Uri × List Diagnostic)) (uri : Uri) :
    ((r.store i news).file uri).slot j = (r.file uri).slot j := by
  obtain ⟨as, has, hstore⟩ := r.exists_run_store i news
  rw [hstore]
  exact slot_run_of_reportsUnder h has r uri

/-- The last news on a file is what is stored. -/
theorem slot_store_last {before after : List (Uri × List Diagnostic)} {uri : Uri}
    (h : ∀ x ∈ after, x.1 ≠ uri) (r : Registry) (i : String) (items : List Diagnostic) :
    ((r.store i (before ++ (uri, items) :: after)).file uri).slot i = items := by
  rw [store_append, store_cons, file_store_of_no_news h, slot_update, if_pos ⟨rfl, rfl⟩]

end Registry

namespace Report

/-- The news of one entry on a related document. -/
def entryNews? (resolver : Resolver) (x : String × Option (List Diagnostic)) :
    Option (Uri × List Diagnostic) := do
  let items ← x.2
  let uri ← resolver.resolve x.1
  some (uri, items)

theorem entryNews?_eq_some_iff {resolver : Resolver} {x : String × Option (List Diagnostic)}
    {uri : Uri} {items : List Diagnostic} :
    entryNews? resolver x = some (uri, items) ↔
      x.2 = some items ∧ resolver.resolve x.1 = some uri := by
  obtain ⟨text, entry⟩ := x
  cases entry <;> cases hresolve : resolver.resolve text <;> simp [entryNews?, hresolve, and_comm]

/-- News on the document itself comes first. -/
theorem news_eq (resolver : Resolver) (uri : Uri) (report : Report) :
    report.news resolver uri = (report.own.map fun items => (uri, items)).toList ++
      report.documents.filterMap (entryNews? resolver) := by
  cases report <;> rfl

theorem ascending_documents {j : Json} {report : Report}
    (h : ofAnswer j = .ok (some report)) :
    report.documents.Pairwise fun x y => utf8Bytes x.1 < utf8Bytes y.1 := by
  obtain ⟨kind, get, -, hfaithful⟩ := faithful_of_ofAnswer h
  exact List.pairwise_map.mp hfaithful.ascending

/-- A full report on a related document that resolves to a file. -/
structure Concerns (report : Report) (resolver : Resolver) (target : Uri) (text : String)
    (items : List Diagnostic) : Prop where
  full : (text, some items) ∈ report.documents
  resolves : resolver.resolve text = some target

/-- The one of them whose URI is the last in byte order. -/
structure ConcernsLast (report : Report) (resolver : Resolver) (target : Uri) (text : String)
    (items : List Diagnostic) : Prop extends report.Concerns resolver target text items where
  last : ∀ text' items', report.Concerns resolver target text' items' → text' ≠ text →
    utf8Bytes text' < utf8Bytes text

/-- The report without some of its entries on related documents. -/
def restrict (keep : String × Option (List Diagnostic) → Bool) : Report → Report
  | direct items => direct items
  | related own documents => related own (documents.filter keep)

section News

variable {report : Report} {resolver : Resolver} {uri target : Uri}

theorem mem_documents_news {x : Uri × List Diagnostic}
    (h : x ∈ report.documents.filterMap (entryNews? resolver)) :
    ∃ text, report.Concerns resolver x.1 text x.2 := by
  obtain ⟨⟨text, entry⟩, hmem, hnews⟩ := List.mem_filterMap.mp h
  obtain ⟨hentry, hresolve⟩ := entryNews?_eq_some_iff.mp hnews
  cases hentry
  exact ⟨text, hmem, hresolve⟩

/-- The last full report on a file comes after all other news on it. -/
theorem ConcernsLast.exists_news {text : String} {items : List Diagnostic}
    (h : report.ConcernsLast resolver target text items)
    (hascending : report.documents.Pairwise fun x y => utf8Bytes x.1 < utf8Bytes y.1) (uri : Uri) :
    ∃ before after, report.news resolver uri = before ++ (target, items) :: after ∧
      ∀ x ∈ after, x.1 ≠ target := by
  obtain ⟨first, rest, hdocuments⟩ := List.append_of_mem h.full
  have hnews : entryNews? resolver (text, some items) = some (target, items) :=
    entryNews?_eq_some_iff.mpr ⟨rfl, h.resolves⟩
  refine ⟨(report.own.map fun items => (uri, items)).toList ++
      first.filterMap (entryNews? resolver),
    rest.filterMap (entryNews? resolver), ?_, fun x hx htarget => ?_⟩
  · rw [news_eq, hdocuments, List.filterMap_append, List.filterMap_cons_some hnews,
      List.append_assoc]
  · obtain ⟨⟨text', entry⟩, hmem, hx⟩ := List.mem_filterMap.mp hx
    obtain ⟨hentry, hresolve⟩ := entryNews?_eq_some_iff.mp hx
    cases hentry
    rw [hdocuments, List.pairwise_append] at hascending
    have hlater : utf8Bytes text < utf8Bytes text' :=
      (List.pairwise_cons.mp hascending.2.1).1 _ hmem
    have hconcerns : report.Concerns resolver target text' x.2 :=
      ⟨hdocuments ▸ List.mem_append_right first (List.mem_cons_of_mem _ hmem), htarget ▸ hresolve⟩
    have hne : text' ≠ text := by
      rintro rfl
      exact List.lt_irrefl _ hlater
    exact List.lt_asymm hlater (h.last text' x.2 hconcerns hne)

/-- If full reports concern a file, one of them is the last. -/
theorem Concerns.exists_last {text : String} {items : List Diagnostic}
    (h : report.Concerns resolver target text items)
    (hascending : report.documents.Pairwise fun x y => utf8Bytes x.1 < utf8Bytes y.1) :
    ∃ text' items', report.ConcernsLast resolver target text' items' := by
  let concerned := report.documents.filter fun x =>
    x.2.isSome && decide (resolver.resolve x.1 = some target)
  have hmem {text : String} {items : List Diagnostic}
      (h : report.Concerns resolver target text items) : (text, some items) ∈ concerned :=
    List.mem_filter.mpr ⟨h.full, by simp [h.resolves]⟩
  obtain hnil | ⟨others, x, hconcerned⟩ := List.eq_nil_or_concat' concerned
  · exact absurd (hnil ▸ hmem h) List.not_mem_nil
  · have hsorted : concerned.Pairwise fun x y => utf8Bytes x.1 < utf8Bytes y.1 :=
      hascending.sublist List.filter_sublist
    rw [hconcerned, List.pairwise_append] at hsorted
    have hx : x ∈ concerned := hconcerned ▸ List.mem_append_right others List.mem_cons_self
    obtain ⟨hdocument, hkept⟩ := List.mem_filter.mp hx
    rw [Bool.and_eq_true, decide_eq_true_eq, Option.isSome_iff_exists] at hkept
    obtain ⟨⟨items', hitems⟩, hresolve⟩ := hkept
    refine ⟨x.1, items', ⟨hitems ▸ hdocument, hresolve⟩, fun text' items' h hne => ?_⟩
    have hother := hmem h
    rw [hconcerned, List.mem_append, List.mem_singleton] at hother
    rcases hother with hother | rfl
    · exact hsorted.2.2 _ hother x List.mem_cons_self
    · exact absurd rfl hne

theorem restrict_news {keep : String × Option (List Diagnostic) → Bool}
    (h : ∀ x ∈ report.documents, keep x = false → x.2 = none ∨ resolver.resolve x.1 = none) :
    (report.restrict keep).news resolver uri = report.news resolver uri := by
  have hpassed : ∀ x ∈ report.documents,
      (if keep x = true then entryNews? resolver x else none) = entryNews? resolver x := by
    intro x hx
    split
    · rfl
    · rename_i hkeep
      rw [eq_comm, Option.eq_none_iff_forall_ne_some]
      intro news hnews
      obtain ⟨hsome, hresolve⟩ := entryNews?_eq_some_iff.mp hnews
      rcases h x hx (Bool.not_eq_true _ ▸ hkeep) with hnone | hnone
      · cases hnone.symm.trans hsome
      · cases hnone.symm.trans hresolve
  cases report with
  | direct items => rfl
  | related own documents =>
    have hdocuments : (documents.filter keep).filterMap (entryNews? resolver) =
        documents.filterMap (entryNews? resolver) := by
      rw [List.filterMap_filter]
      exact List.filterMap_congr hpassed
    rw [news_eq, news_eq]
    exact congrArg _ hdocuments

end News

/-- What taking in a report makes of the registry. -/
structure Applied (report : Report) (t : Turn) (r : Registry) : Prop where
  last : ∀ target text items, report.ConcernsLast t.env.resolver target text items →
    (r.file target).slot (t.env.feature.identifier.getD pullIdentifier) = items
  exists_last : ∀ target text items, report.Concerns t.env.resolver target text items →
    ∃ text' items', report.ConcernsLast t.env.resolver target text' items'
  own : ∀ items, report.own = some items →
    (∀ text items', ¬ report.Concerns t.env.resolver t.doc.uri text items') →
    (r.file t.doc.uri).slot (t.env.feature.identifier.getD pullIdentifier) = items
  kept : ∀ target, (∀ text items, ¬ report.Concerns t.env.resolver target text items) →
    (target = t.doc.uri → report.own = none) → r.file target = t.env.registry.file target
  others : ∀ target i, i ≠ t.env.feature.identifier.getD pullIdentifier →
    (r.file target).slot i = (t.env.registry.file target).slot i
  /-- Entries that are unchanged or cannot be resolved might as well not be there. -/
  passed : ∀ keep : String × Option (List Diagnostic) → Bool,
    (∀ x ∈ report.documents, keep x = false → x.2 = none ∨ t.env.resolver.resolve x.1 = none) →
    r = t.env.registry.store (t.env.feature.identifier.getD pullIdentifier)
      ((report.restrict keep).news t.env.resolver t.doc.uri)

theorem applied {t : Turn} {v : PullVersion} (hawaited : t.doc.awaits v = true) {j : Json}
    {report : Report} (hreport : ofAnswer j = .ok (some report)) :
    report.Applied t (t.accept v (.ok j)).env.registry := by
  have hascending := ascending_documents hreport
  rw [Turn.accept_eq, if_pos hawaited, t.env.learn_report t.doc.uri hreport]
  dsimp only
  refine ⟨?last, ?exists_last, ?own, ?kept, ?others, ?passed⟩
  case last =>
    intro target text items hlast
    obtain ⟨before, after, hnews, hafter⟩ := hlast.exists_news hascending t.doc.uri
    rw [hnews, Registry.slot_store_last hafter]
  case exists_last => exact fun _ _ _ h => h.exists_last hascending
  case own =>
    intro items hown hnone
    rw [news_eq, hown]
    have hothers : ∀ x ∈ report.documents.filterMap (entryNews? t.env.resolver),
        x.1 ≠ t.doc.uri := by
      intro x hx htarget
      obtain ⟨text, hconcerns⟩ := mem_documents_news hx
      exact hnone text x.2 (htarget ▸ hconcerns)
    exact @Registry.slot_store_last [] _ _ hothers _ _ items
  case kept =>
    intro target hnone hown
    refine Registry.file_store_of_no_news (fun x hx htarget => ?_) _ _
    rw [news_eq, List.mem_append, Option.mem_toList] at hx
    rcases hx with hx | hx
    · obtain ⟨items, hitems, rfl⟩ := Option.map_eq_some_iff.mp hx
      cases (hown htarget.symm).symm.trans hitems
    · obtain ⟨text, hconcerns⟩ := mem_documents_news hx
      exact hnone text x.2 (htarget ▸ hconcerns)
  case others => exact fun target i hi => Registry.slot_store_of_ne _ hi _ target
  case passed => exact fun keep h => congrArg _ (restrict_news h).symm

/-- An awaited report is taken in whole: the last full entry that resolves to a file is what is
stored about it, else the report's own diagnostics if it is the file that was pulled; and nothing
else changes, in the registry or beside it. It makes no difference in which order the reports on
related documents were written. -/
theorem acceptance {t : Turn} {v : PullVersion} (hawaited : t.doc.awaits v = true) {j : Json}
    {report : Report} (hreport : ofAnswer j = .ok (some report)) :
    report.Applied t (t.accept v (.ok j)).env.registry ∧
    t.accept v (.ok j) = { t with env.registry := (t.accept v (.ok j)).env.registry } ∧
    ∀ k, Reordered j k → t.accept v (.ok k) = t.accept v (.ok j) := by
  refine ⟨applied hawaited hreport, ?_, fun k hk => ?_⟩
  · rw [Turn.accept_eq, if_pos hawaited]
  · rw [Turn.accept_eq, Turn.accept_eq, Environment.learn, Environment.learn, answerNews,
      answerNews, ofAnswer_reordered hk]

/-- A document that is open, of a host that takes every URI. -/
def opened : Turn where
  doc := { id := ⟨⟨"file:///w/b"⟩, 0⟩, languageId := "text", policy := ⟨.full, true, .disabled⟩,
           settings := .forHeadless, buffer := "", phase := .opened }
  env := { session := {}, feature := ⟨true, none⟩, resolver := .anyUri, registry := ⟨8, [], 0, []⟩ }

/-- An answer of which two entries are on the document itself, one is unchanged and one resolves to
nothing. -/
def bundle (related : List (String × Json)) : Json :=
  .obj [("kind", .str "full"), ("items", .arr []), ("relatedDocuments", .obj related)]

def bundled : List (String × Json) :=
  let place : Json := .obj [("line", .num (.int 0)), ("character", .num (.int 0))]
  let item : Json :=
    .obj [("range", .obj [("start", place), ("end", place)]), ("message", .str "odd")]
  [("file:///w/x/../b", .obj [("kind", .str "full"), ("items", .arr [item])]),
    ("file:///w/b", .obj [("kind", .str "full")]), ("file:///c", .obj [("kind", .str "unchanged")]),
    ("no URI", .obj [("kind", .str "full")])]

def odd : Diagnostic := ⟨⟨⟨0, 0⟩, ⟨0, 0⟩⟩, .warning, "odd", "unknown", none⟩

theorem acceptance_bundled :
    let r := (opened.accept .any (.ok (bundle bundled))).env.registry
    (r.file ⟨"file:///w/b"⟩).slot pullIdentifier = [odd] ∧
      opened.accept .any (.ok (bundle bundled.reverse)) =
        opened.accept .any (.ok (bundle bundled)) := by
  intro r
  have hreport : ofAnswer (bundle bundled) = .ok (some (.related (some [])
      [("file:///c", none), ("file:///w/b", some []), ("file:///w/x/../b", some [odd]),
        ("no URI", some [])])) := by decide
  obtain ⟨happlied, -, hreordered⟩ := acceptance (t := opened) (v := .any) (by decide) hreport
  refine ⟨happlied.last ⟨"file:///w/b"⟩ "file:///w/x/../b" [odd]
    ⟨⟨by simp [documents], by decide +kernel⟩, fun text items h hne => ?_⟩,
    hreordered _ (.intro rfl rfl rfl rfl (by decide) (List.reverse_perm _).symm ?_)⟩
  · have hresolves := h.resolves
    have hfull := h.full
    simp only [documents, List.mem_cons, Prod.mk.injEq, reduceCtorEq, and_false, false_or,
      List.not_mem_nil, or_false] at hfull
    rcases hfull with ⟨rfl, -⟩ | ⟨rfl, -⟩ | ⟨rfl, -⟩
    · decide
    · exact absurd rfl hne
    · exact absurd hresolves (by decide +kernel)
  · exact List.forall_mem_cons.mpr ⟨fun _ => rfl, List.forall_mem_singleton.mpr (absurd rfl)⟩

end Report

end DocSync
