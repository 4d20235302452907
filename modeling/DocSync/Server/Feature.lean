import DocSync.Diagnostics.Registry
import DocSync.Uri.Resolver
import DocSync.Wire.Report

/-!
# What a server tells of diagnostics

Whether a server answers pulls for diagnostics, and under which identifier. The identifier is fixed;
support may be registered or withdrawn while documents are open. Pulled and published diagnostics
are kept under different identifiers, so that neither replaces the other, unless a server registers
pulls under the identifier of publications.
-/
namespace DocSync

structure DiagnosticFeature where
  supported : Bool
  identifier : Option String
deriving DecidableEq, Repr

namespace DiagnosticFeature

/-- The feature as a server's capabilities have it. Any entry but null and false is support. -/
def ofServer (capabilities : Json) : DiagnosticFeature :=
  match capabilities.field? "diagnosticProvider" with
  | none | some .null | some (.bool false) => ⟨false, none⟩
  | some provider => ⟨true, (provider.field? "identifier").bind Json.string?⟩

end DiagnosticFeature

/-! ## Taking reports in -/

/-- The identifier of pulled diagnostics when a server registered none. -/
def pullIdentifier : String := "pull"

/-- The identifier of published diagnostics. -/
def publishIdentifier : String := "publish"

/-- The files that a report has news on, and the news. Documents that did not change, and those
that cannot be resolved, are passed over. -/
def Report.news (resolver : Resolver) (own : Uri) : Report → List (Uri × List Diagnostic)
  | .direct items => [(own, items)]
  | .related items documents =>
    (items.map fun items => (own, items)).toList ++
      documents.filterMap fun (text, items) => do
        let items ← items
        let uri ← resolver.resolve text
        some (uri, items)

/-- The registry with news stored under an identifier, one file after the other. -/
def Registry.store (r : Registry) (identifier : String) (news : List (Uri × List Diagnostic)) :
    Registry :=
  news.foldl (fun r (uri, items) => (r.update uri identifier items).1) r

end DocSync
