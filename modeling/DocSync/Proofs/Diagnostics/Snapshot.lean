import DocSync.Proofs.Diagnostics.Report
import Mathlib.Algebra.BigOperators.Group.List.Basic
import Mathlib.Algebra.GroupWithZero.Nat

/-!
# Snapshots and queries

A snapshot lists the files that have diagnostics, once each and in a strict order, so that it does
not tell in which order the registry keeps them. What the registry answers about the errors of a
file is what the snapshot says: the files with errors come first, and they are the ones that a
request for errors returns something for.
-/
namespace DocSync

namespace Table

variable {α β : Type} [DecidableEq β]

/-- A table without repeated names can be kept in any order. -/
theorem lookup_perm {table table' : List (β × α)} (h : (table.map Prod.fst).Nodup)
    (hperm : table'.Perm table) (key : β) : table'.lookup key = table.lookup key := by
  have h' := (hperm.map Prod.fst).nodup_iff.mpr h
  ext value
  constructor
  · intro hlookup
    exact lookup_of_mem h (hperm.mem_iff.mp (mem_of_lookup hlookup))
  · intro hlookup
    exact lookup_of_mem h' (hperm.mem_iff.mpr (mem_of_lookup hlookup))

end Table

/-- What has a property comes first in a list if it never comes after what does not. -/
theorem eq_filter_append_filter {α : Type} {p : α → Bool} {l : List α}
    (h : l.Pairwise fun a b => p b = true → p a = true) :
    l = l.filter p ++ l.filter (! p ·) := by
  induction h with
  | nil => rfl
  | @cons a l ha _ ih =>
    cases hp : p a with
    | true => rw [List.filter_cons_of_pos hp, List.filter_cons_of_neg (by simp [hp]),
        List.cons_append, ← ih]
    | false =>
      have hl : ∀ b ∈ l, p b = false := fun b hb => by
        rw [← Bool.not_eq_true]
        intro hb'
        rw [ha b hb hb'] at hp
        cases hp
      rw [List.filter_cons_of_neg (by simp [hp]), List.filter_cons_of_pos (by simp [hp]),
        List.filter_eq_nil_iff.mpr fun b hb => by simp [hl b hb],
        List.filter_eq_self.mpr fun b hb => by simp [hl b hb], List.nil_append]

/-- Every diagnostic has one of the four severities. -/
theorem countP_severities (ds : List Diagnostic) :
    ds.countP (fun d => d.severity == .error) + ds.countP (fun d => d.severity == .warning) +
      ds.countP (fun d => d.severity == .information) +
      ds.countP (fun d => d.severity == .hint) = ds.length := by
  induction ds with
  | nil => rfl
  | cons d ds ih =>
    simp only [List.countP_cons, List.length_cons, ← ih]
    cases d.severity <;> simp <;> omega

namespace Snapshot

/-- Whether a listed file has an error. -/
def failing (x : Uri × List Diagnostic) : Bool := x.2.any Diagnostic.isError

/-- The listed files that have errors. -/
def withErrors (s : Snapshot) : List (Uri × List Diagnostic) := s.files.filter failing

def withoutErrors (s : Snapshot) : List (Uri × List Diagnostic) := s.files.filter (! failing ·)

/-- The URIs of some files ascend by their bytes. -/
def Ascending (files : List (Uri × List Diagnostic)) : Prop :=
  (files.map fun x => utf8Bytes x.1.text).Pairwise (· < ·)

theorem inOrder_iff (a b : Uri × List Diagnostic) : inOrder a b = true ↔
    (failing b = true → failing a = true) ∧
      (failing a = failing b → a.1.text ≤ b.1.text) := by
  unfold inOrder failing
  cases a.2.any Diagnostic.isError <;> cases b.2.any Diagnostic.isError <;> simp

theorem inOrder_total (a b : Uri × List Diagnostic) : (inOrder a b || inOrder b a) = true := by
  rw [Bool.or_eq_true, inOrder_iff, inOrder_iff]
  rcases le_total a.1.text b.1.text with hle | hle <;>
    cases failing a <;> cases failing b <;> simp [hle]

theorem inOrder_trans (a b c : Uri × List Diagnostic) (hab : inOrder a b = true)
    (hbc : inOrder b c = true) : inOrder a c = true := by
  obtain ⟨hab, hab'⟩ := (inOrder_iff a b).mp hab
  obtain ⟨hbc, hbc'⟩ := (inOrder_iff b c).mp hbc
  refine (inOrder_iff a c).mpr ⟨hab ∘ hbc, fun hac => ?_⟩
  -- A file between two of one group belongs to the group.
  have hmiddle : failing a = failing b :=
    Bool.eq_iff_iff.mpr ⟨fun ha => hbc (hac ▸ ha), hab⟩
  exact le_trans (hab' hmiddle) (hbc' (hmiddle ▸ hac))

/-- Of two listed files one stands strictly before the other. -/
structure Precedes (a b : Uri × List Diagnostic) : Prop where
  errors : failing b = true → failing a = true
  uri : failing a = failing b → a.1.text < b.1.text

theorem Precedes.asymm {a b : Uri × List Diagnostic} (h : Precedes a b) : ¬ Precedes b a := by
  intro h'
  have hsame : failing a = failing b := Bool.eq_iff_iff.mpr ⟨h'.errors, h.errors⟩
  exact lt_asymm (h.uri hsame) (h'.uri hsame.symm)

theorem uri_text_inj {u v : Uri} (h : u.text = v.text) : u = v := by
  cases u
  cases v
  rw [Uri.mk.injEq]
  exact h

theorem total_eq (s : Snapshot) : s.total = (s.files.map fun x => x.2.length).sum := by
  rw [total, items, List.length_flatMap]

end Snapshot

namespace Registry.Neat

open Snapshot

variable {r r' : Registry}

theorem nodup_snapshot (h : r.Neat) : ((ofRegistry r).files.map Prod.fst).Nodup := by
  have hperm := List.mergeSort_perm ((r.files.filter fun x => !x.2.isEmpty).map fun x =>
    (x.1, x.2.diagnostics)) inOrder
  refine (hperm.map Prod.fst).nodup_iff.mpr ?_
  rw [List.map_map]
  exact List.Pairwise.sublist (List.filter_sublist.map Prod.fst) h.distinct

/-- Different URIs leave no two files in one place. -/
theorem precedes_snapshot (h : r.Neat) : (ofRegistry r).files.Pairwise Precedes := by
  have hsorted : (ofRegistry r).files.Pairwise fun a b => inOrder a b = true :=
    List.pairwise_mergeSort inOrder_trans inOrder_total _
  refine (hsorted.and (List.pairwise_map.mp h.nodup_snapshot)).imp ?_
  rintro a b ⟨horder, hne⟩
  obtain ⟨herrors, huri⟩ := (inOrder_iff a b).mp horder
  exact ⟨herrors, fun hsame => lt_of_le_of_ne (huri hsame) (mt uri_text_inj hne)⟩

/-- The diagnostics of all files determine a snapshot. -/
theorem snapshot_congr (h : r.Neat) (h' : r'.Neat)
    (hdiagnostics : ∀ uri, r'.diagnostics uri = r.diagnostics uri) :
    ofRegistry r' = ofRegistry r := by
  have hmem : ∀ x, x ∈ (ofRegistry r').files ↔ x ∈ (ofRegistry r).files := fun x => by
    rw [h'.mem_snapshot, h.mem_snapshot, hdiagnostics]
  have hperm : (ofRegistry r').files.Perm (ofRegistry r).files :=
    (List.perm_ext_iff_of_nodup (List.Nodup.of_map Prod.fst h'.nodup_snapshot)
      (List.Nodup.of_map Prod.fst h.nodup_snapshot)).mpr hmem
  rw [Snapshot.mk.injEq]
  exact hperm.eq_of_pairwise (fun _ _ _ _ hab hba => absurd hba hab.asymm)
    h'.precedes_snapshot h.precedes_snapshot

theorem snapshot_grouped (h : r.Neat) : (ofRegistry r).files =
    (ofRegistry r).withErrors ++ (ofRegistry r).withoutErrors :=
  eq_filter_append_filter (h.precedes_snapshot.imp Precedes.errors)

/-- Files that do not differ in having errors are in the order of their URIs. -/
theorem ascending_filter (h : r.Neat) {p : Uri × List Diagnostic → Bool}
    (hp : ∀ a b, p a = true → p b = true → failing a = failing b) :
    Snapshot.Ascending ((ofRegistry r).files.filter p) := by
  refine List.pairwise_map.mpr (List.pairwise_filter.mpr (h.precedes_snapshot.imp ?_))
  intro a b hab ha hb
  exact (lt_iff_utf8Bytes_lt _ _).mp (hab.uri (hp a b ha hb))

theorem hasErrors_iff (h : r.Neat) (uri : Uri) :
    r.hasErrors uri = true ↔ uri ∈ (ofRegistry r).withErrors.map Prod.fst := by
  rw [withErrors, List.mem_map]
  constructor
  · intro herrors
    have hitems : r.diagnostics uri ≠ [] := by
      intro hnil
      rw [Registry.hasErrors, FileRecord.hasErrors] at herrors
      rw [diagnostics] at hnil
      simp [hnil] at herrors
    exact ⟨(uri, r.diagnostics uri),
      List.mem_filter.mpr ⟨(h.mem_snapshot uri _).mpr ⟨rfl, hitems⟩, herrors⟩, rfl⟩
  · rintro ⟨⟨v, items⟩, hmem, rfl⟩
    obtain ⟨hlisted, hfailing⟩ := List.mem_filter.mp hmem
    obtain ⟨rfl, -⟩ := (h.mem_snapshot v items).mp hlisted
    exact hfailing

theorem of_perm (h : r.Neat) {files : List (Uri × FileRecord)} (hperm : files.Perm r.files) :
    ({ r with files := files } : Registry).Neat ∧
      ∀ uri, ({ r with files := files } : Registry).file uri = r.file uri := by
  have hfile : ∀ uri, ({ r with files := files } : Registry).file uri = r.file uri := fun uri => by
    rw [file, file, Table.lookup_perm h.distinct hperm]
  refine ⟨⟨(hperm.map Prod.fst).nodup_iff.mpr h.distinct, fun uri => ?_⟩, hfile⟩
  rw [hfile]
  exact h.records uri

end Registry.Neat

namespace Registry

variable (r : Registry)

theorem hasErrors_iff_mem (uri : Uri) :
    r.hasErrors uri = true ↔ ∃ d ∈ r.diagnostics uri, d.severity = .error := by
  rw [hasErrors, FileRecord.hasErrors, List.any_eq_true]
  exact exists_congr fun d => and_congr_right fun _ => beq_iff_eq

theorem errorsForFiles_eq (uris : List Uri) : r.errorsForFiles uris =
    (uris.filter r.hasErrors).map fun uri =>
      (uri, (r.diagnostics uri).filter fun d => d.severity == .error) := by
  have herrors : ∀ uri, r.hasErrors uri =
      !((r.diagnostics uri).filter Diagnostic.isError).isEmpty := fun uri => by
    rw [Bool.eq_iff_iff, hasErrors_iff_mem]
    simp [Diagnostic.isError, Severity.isError]
  rw [errorsForFiles, List.filter_map]
  have hfilter : ((fun x : Uri × List Diagnostic => !x.2.isEmpty) ∘ fun uri =>
      (uri, (r.diagnostics uri).filter Diagnostic.isError)) = r.hasErrors :=
    funext fun uri => (herrors uri).symm
  rw [hfilter]
  rfl

end Registry

/-- What a snapshot of a registry and its other answers have in common. -/
structure Views (r : Registry) : Prop where
  /-- Exactly the files with diagnostics are listed, each with all of them. -/
  listed : ∀ uri items, (uri, items) ∈ (Snapshot.ofRegistry r).files ↔
    items = r.diagnostics uri ∧ items ≠ []
  once : ((Snapshot.ofRegistry r).files.map Prod.fst).Nodup
  /-- Files with errors come first. -/
  grouped : (Snapshot.ofRegistry r).files =
    (Snapshot.ofRegistry r).withErrors ++ (Snapshot.ofRegistry r).withoutErrors
  ascending : Snapshot.Ascending (Snapshot.ofRegistry r).withErrors ∧
    Snapshot.Ascending (Snapshot.ofRegistry r).withoutErrors
  /-- Nothing tells the order in which the registry keeps its files. -/
  unordered : ∀ files, files.Perm r.files →
    Snapshot.ofRegistry { r with files := files } = Snapshot.ofRegistry r ∧
    (∀ uri, Registry.diagnostics { r with files := files } uri = r.diagnostics uri) ∧
    (∀ uri, Registry.hasErrors { r with files := files } uri = r.hasErrors uri) ∧
    ∀ uris, Registry.errorsForFiles { r with files := files } uris = r.errorsForFiles uris
  severities : (Snapshot.ofRegistry r).count .error + (Snapshot.ofRegistry r).count .warning +
      (Snapshot.ofRegistry r).count .information + (Snapshot.ofRegistry r).count .hint =
    (Snapshot.ofRegistry r).total
  total : (Snapshot.ofRegistry r).total =
    ((Snapshot.ofRegistry r).files.map fun x => x.2.length).sum
  hasErrors : ∀ uri,
    (r.hasErrors uri = true ↔ uri ∈ (Snapshot.ofRegistry r).withErrors.map Prod.fst) ∧
    (r.hasErrors uri = true ↔ r.errorsForFiles [uri] ≠ []) ∧
    (r.hasErrors uri = true ↔ ∃ d ∈ r.diagnostics uri, d.severity = .error)
  /-- The errors of the requested files, in the order of the request. -/
  requested : ∀ uris, r.errorsForFiles uris = (uris.filter r.hasErrors).map fun uri =>
    (uri, (r.diagnostics uri).filter fun d => d.severity == .error)

/-- Snapshots and queries of a registry say the same. -/
theorem views (capacity : Nat) (actions : List RegistryAction) :
    Views ((Registry.fresh capacity).run actions) := by
  have hneat := Registry.neat_run capacity actions
  generalize (Registry.fresh capacity).run actions = r at hneat
  refine ⟨hneat.mem_snapshot, hneat.nodup_snapshot, hneat.snapshot_grouped, ⟨?_, ?_⟩, ?unordered,
    countP_severities _, Snapshot.total_eq _, ?hasErrors, r.errorsForFiles_eq⟩
  · exact hneat.ascending_filter fun a b ha hb => ha.trans hb.symm
  · refine hneat.ascending_filter fun a b ha hb => ?_
    rw [Bool.not_eq_true'] at ha hb
    exact ha.trans hb.symm
  case unordered =>
    intro files hperm
    obtain ⟨hneat', hfile⟩ := hneat.of_perm hperm
    have hdiagnostics : ∀ uri, Registry.diagnostics { r with files := files } uri =
        r.diagnostics uri := fun uri => congrArg FileRecord.diagnostics (hfile uri)
    refine ⟨hneat.snapshot_congr hneat' hdiagnostics, hdiagnostics,
      fun uri => congrArg FileRecord.hasErrors (hfile uri), fun uris => ?_⟩
    simp only [Registry.errorsForFiles, hdiagnostics]
  case hasErrors =>
    refine fun uri => ⟨hneat.hasErrors_iff uri, ?_, r.hasErrors_iff_mem uri⟩
    rw [r.errorsForFiles_eq]
    cases h : r.hasErrors uri <;> simp [h]

end DocSync
