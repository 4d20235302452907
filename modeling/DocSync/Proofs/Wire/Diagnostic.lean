import DocSync.Proofs.Wire.Change
import DocSync.Wire.Report

/-!
# What a diagnostic says

A diagnostic has to have a span and a message. A severity and a source may be left out or be null,
but what is written has to be a number or a text; a code may be anything. All that is written is
kept, but for codes of another kind and severities that nobody knows.
-/
namespace DocSync

open Json (Fields)

theorem Severity.getD_ofNumber? {n : Nat} {s : Severity} :
    (ofNumber? n).getD .warning = s ↔ n = s.number ∨ (n = 0 ∨ 4 < n) ∧ s = .warning := by
  rcases n with _ | _ | _ | _ | _ | n <;> cases s <;> simp [ofNumber?, number]

namespace Diagnostic

/-- What a code is kept as. -/
inductive Coded : Option Json → Option String → Prop
  | text (text : String) : Coded (some (.str text)) (some text)
  /-- As it is written. -/
  | number (n : Number) : Coded (some (.num n)) (some n.text)
  | dropped {code : Option Json} (htext : ∀ text, code ≠ some (.str text))
      (hnumber : ∀ n, code ≠ some (.num n)) : Coded code none

/-- A diagnostic with all that its record says. -/
structure Faithful (get : Fields) (d : Diagnostic) : Prop where
  span : ∃ written, get "range" = some written ∧ Span.WellFormed written d.span
  severity : (get "severity" = none ∨ get "severity" = some .null) ∧ d.severity = .warning ∨
    ∃ n, n < Nat.pow 2 64 ∧ get "severity" = some (.ofNat n) ∧
      (n = d.severity.number ∨ (n = 0 ∨ 4 < n) ∧ d.severity = .warning)
  source : (get "source" = none ∨ get "source" = some .null) ∧ d.source = "unknown" ∨
    get "source" = some (.str d.source)
  message : get "message" = some (.str d.message)
  code : Coded (get "code") d.code

/-- A value that is well formed as a diagnostic, and the diagnostic that it is. -/
def WellFormed (j : Json) (d : Diagnostic) : Prop :=
  ∃ get, j.fields? fieldNames = some get ∧ Faithful get d

/-- What keeps a value from being read as a diagnostic. -/
inductive Malformed (j : Json) : Prop
  | record (h : j.fields? fieldNames = none)
  | range {get : Fields} (h : j.fields? fieldNames = some get)
      (hbad : ∀ written s, get "range" = some written → ¬ Span.WellFormed written s)
  | severity {get : Fields} {written : Json} (h : j.fields? fieldNames = some get)
      (hwritten : get "severity" = some written) (hnull : written ≠ .null)
      (hbad : ∀ n, n < Nat.pow 2 64 → written ≠ .ofNat n)
  | source {get : Fields} {written : Json} (h : j.fields? fieldNames = some get)
      (hwritten : get "source" = some written) (hnull : written ≠ .null)
      (hbad : ∀ text, written ≠ .str text)
  | message {get : Fields} (h : j.fields? fieldNames = some get)
      (hbad : ∀ text, get "message" ≠ some (.str text))

variable {get : Fields}

theorem optional_severity_iff {s : Severity} :
    (∃ value, get.optional "severity" (Json.word? 64) = some value ∧
      (value.bind Severity.ofNumber?).getD .warning = s) ↔
    (get "severity" = none ∨ get "severity" = some .null) ∧ s = .warning ∨
      ∃ n, n < Nat.pow 2 64 ∧ get "severity" = some (.ofNat n) ∧
        (n = s.number ∨ (n = 0 ∨ 4 < n) ∧ s = .warning) := by
  constructor
  · rintro ⟨value, hvalue, hs⟩
    rcases Fields.optional_eq_some_iff.mp hvalue with ⟨rfl, hmissing⟩ | ⟨j, n, hj, -, hn, rfl⟩
    · exact .inl ⟨hmissing, hs.symm⟩
    · obtain ⟨rfl, hfits⟩ := Json.word?_eq_some_iff.mp hn
      exact .inr ⟨n, hfits, hj, Severity.getD_ofNumber?.mp hs⟩
  · rintro (⟨hmissing, rfl⟩ | ⟨n, hfits, hn, hs⟩)
    · exact ⟨none, Fields.optional_eq_some_iff.mpr (.inl ⟨rfl, hmissing⟩), rfl⟩
    · exact ⟨some n, Fields.optional_eq_some_iff.mpr
        (.inr ⟨_, n, hn, nofun, Json.word?_eq_some_iff.mpr ⟨rfl, hfits⟩, rfl⟩),
        Severity.getD_ofNumber?.mpr hs⟩

theorem optional_source_iff {source : String} :
    (∃ value, get.optional "source" Json.string? = some value ∧
      value.getD unknownSource = source) ↔
    (get "source" = none ∨ get "source" = some .null) ∧ source = "unknown" ∨
      get "source" = some (.str source) := by
  constructor
  · rintro ⟨value, hvalue, rfl⟩
    rcases Fields.optional_eq_some_iff.mp hvalue with ⟨rfl, hmissing⟩ | ⟨j, text, hj, -, htext, rfl⟩
    · exact .inl ⟨hmissing, rfl⟩
    · exact .inr (Json.string?_eq_some_iff.mp htext ▸ hj)
  · rintro (⟨hmissing, rfl⟩ | hwritten)
    · exact ⟨none, Fields.optional_eq_some_iff.mpr (.inl ⟨rfl, hmissing⟩), rfl⟩
    · exact ⟨some source, Fields.optional_eq_some_iff.mpr
        (.inr ⟨_, source, hwritten, nofun, rfl, rfl⟩), rfl⟩

theorem codeText?_iff {written : Option Json} {code : Option String} :
    written.bind codeText? = code ↔ Coded written code := by
  constructor
  · rintro rfl
    cases written with
    | none => exact .dropped (by simp) (by simp)
    | some j =>
      cases j with
      | str text => exact .text text
      | num n => exact .number n
      | _ => exact .dropped (by simp) (by simp)
  · rintro (_ | _ | ⟨htext, hnumber⟩)
    · rfl
    · rfl
    · cases written with
      | none => rfl
      | some j =>
        cases j with
        | str text => exact absurd rfl (htext text)
        | num n => exact absurd rfl (hnumber n)
        | _ => rfl

theorem ofJson?_eq_some_iff {j : Json} {d : Diagnostic} : ofJson? j = some d ↔ WellFormed j d := by
  unfold ofJson?
  constructor
  · intro h
    obtain ⟨get, hget, h⟩ := Option.bind_eq_some_iff.mp h
    obtain ⟨span, hspan, h⟩ := Option.bind_eq_some_iff.mp h
    obtain ⟨severity, hseverity, h⟩ := Option.bind_eq_some_iff.mp h
    obtain ⟨source, hsource, h⟩ := Option.bind_eq_some_iff.mp h
    obtain ⟨message, hmessage, h⟩ := Option.bind_eq_some_iff.mp h
    cases h
    obtain ⟨written, hwritten, hspan⟩ := Fields.required_eq_some_iff.mp hspan
    exact ⟨get, hget, ⟨written, hwritten, Span.ofJson?_eq_some_iff.mp hspan⟩,
      optional_severity_iff.mp ⟨severity, hseverity, rfl⟩,
      optional_source_iff.mp ⟨source, hsource, rfl⟩, Fields.required_string_iff.mp hmessage,
      codeText?_iff.mp rfl⟩
  · rintro ⟨get, hget, ⟨written, hwritten, hspan⟩, hseverity, hsource, hmessage, hcode⟩
    have hspan : get.required "range" Span.ofJson? = some d.span :=
      Fields.required_eq_some_iff.mpr ⟨written, hwritten, Span.ofJson?_eq_some_iff.mpr hspan⟩
    obtain ⟨severity, hread, hseverity⟩ := optional_severity_iff.mpr hseverity
    obtain ⟨source, hread', hsource⟩ := optional_source_iff.mpr hsource
    simp only [hget, hspan, hread, hread', Fields.required_string_iff.mpr hmessage,
      codeText?_iff.mpr hcode, hseverity, hsource, Option.bind_eq_bind, Option.bind_some]

theorem required_range_eq_none_iff : get.required "range" Span.ofJson? = none ↔
    ∀ written s, get "range" = some written → ¬ Span.WellFormed written s := by
  simp only [Option.eq_none_iff_forall_ne_some, ne_eq, Fields.required_eq_some_iff,
    Span.ofJson?_eq_some_iff, not_exists, not_and]
  exact forall_comm

theorem Malformed.ofJson? {j : Json} (h : Malformed j) : Diagnostic.ofJson? j = none := by
  unfold Diagnostic.ofJson?
  cases h with
  | record h => rw [h, Option.bind_eq_bind, Option.bind_none]
  | range h hbad => simp [h, required_range_eq_none_iff.mpr hbad]
  | severity h hwritten hnull hbad =>
    have hnone := Fields.optional_eq_none_iff.mpr
      ⟨_, hwritten, hnull, Json.word?_eq_none_iff.mpr hbad⟩
    simp [h, hnone]
  | source h hwritten hnull hbad =>
    have hnone := Fields.optional_eq_none_iff.mpr
      ⟨_, hwritten, hnull, Json.string?_eq_none_iff.mpr hbad⟩
    simp [h, hnone]
  | message h hbad => simp [h, Fields.required_string_eq_none_iff.mpr hbad]

theorem ofJson?_eq_none_iff {j : Json} : ofJson? j = none ↔ Malformed j := by
  refine ⟨fun h => ?_, Malformed.ofJson?⟩
  cases hget : j.fields? fieldNames with
  | none => exact .record hget
  | some get =>
    -- The first field that cannot be read is what is wrong.
    cases hspan : get.required "range" Span.ofJson? with
    | none => exact .range hget (required_range_eq_none_iff.mp hspan)
    | some span =>
      cases hseverity : get.optional "severity" (Json.word? 64) with
      | none =>
        obtain ⟨written, hwritten, hnull, hbad⟩ := Fields.optional_eq_none_iff.mp hseverity
        exact .severity hget hwritten hnull (Json.word?_eq_none_iff.mp hbad)
      | some severity =>
        cases hsource : get.optional "source" Json.string? with
        | none =>
          obtain ⟨written, hwritten, hnull, hbad⟩ := Fields.optional_eq_none_iff.mp hsource
          exact .source hget hwritten hnull (Json.string?_eq_none_iff.mp hbad)
        | some source =>
          cases hmessage : get.required "message" Json.string? with
          | none => exact .message hget (Fields.required_string_eq_none_iff.mp hmessage)
          | some message => simp [ofJson?, hget, hspan, hseverity, hsource, hmessage] at h

/-- Diagnostics are read one by one, and in their order. -/
theorem mapM_ofJson?_eq_some_iff {written : List Json} {items : List Diagnostic} :
    written.mapM ofJson? = some items ↔ List.Forall₂ WellFormed written items := by
  simp only [Json.mapM_eq_some_iff, ofJson?_eq_some_iff]

theorem mapM_ofJson?_eq_none_iff {written : List Json} :
    written.mapM ofJson? = none ↔ ∃ j ∈ written, Malformed j := by
  simp only [Json.mapM_eq_none_iff, ofJson?_eq_none_iff]

end Diagnostic

end DocSync
