import DocSync.Proofs.Uri.FilePath
import DocSync.Uri.Resolver

/-!
# Containment

A workspace takes a URI only for a file inside its root. Inside is meant component by component and
after lexical resolution, of the root and of the path that the URI spells once its escapes are read.

A normalized path that has climbed above the root is relative, and no such path has a URI. A root
that has climbed there is a prefix of an absolute path only if no name is left of it, and then it
stands for `/` anyway.
-/
namespace DocSync.Resolver

open FilePath (IsName Resolved lexical ofBytes walk)

/-- The path that a text denotes if it is a URI of a file on this machine. -/
def denoted? (text : String) : Option FilePath := (Uri.ofText? text).bind FilePath.ofUri?

theorem resolve_workspace (root : FilePath) (text : String) :
    (workspace root).resolve text = (denoted? text).bind fun path =>
      if FilePath.isInside root path.normalize then path.normalize.toUri? else none := by
  show (Uri.ofText? text).bind _ = _
  rw [denoted?, Option.bind_assoc]
  rfl

theorem denoted?_absolute {text : String} {path : FilePath} (h : denoted? text = some path) :
    ∃ bytes, path = ofBytes bytes ∧ bytes.head? = some FilePath.slash := by
  obtain ⟨uri, -, huri⟩ := Option.bind_eq_some_iff.mp h
  unfold FilePath.ofUri? at huri
  split at huri
  · rename_i rest _
    split_ifs at huri
    refine ⟨_, (Option.some.inj huri).symm, ?_⟩
    rw [Percent.utf8_cons (by decide), Percent.decode_cons (by decide)]
    rfl
  · cases huri

/-- What has a URI has kept its root. -/
theorem eq_lexical_of_toUri? {path resolved : FilePath} (h : Resolved (walk path) resolved)
    {uri : Uri} (huri : resolved.toUri? = some uri) : resolved = lexical path := by
  cases h with
  | rooted => rfl
  | lost =>
    cases hwalk : walk path with
    | nil =>
      rw [hwalk] at huri
      cases huri
    | cons name names =>
      rw [hwalk] at huri
      cases huri

/-- A normalized root, whole or not, is a prefix of an absolute path only if the lexical one is. -/
theorem lexical_inside {root resolved path : FilePath} (h : Resolved (walk root) resolved)
    (hinside : resolved <+: lexical path) : lexical root <+: lexical path := by
  cases h with
  | rooted => exact hinside
  | lost =>
    cases hwalk : walk root with
    | nil =>
      rw [lexical, hwalk]
      exact ⟨(walk path).map .name, rfl⟩
    | cons name names =>
      rw [hwalk, List.map_cons] at hinside
      exact absurd (List.cons_prefix_cons.mp hinside).1 PathComponent.noConfusion

/-- What a text that the workspace takes denotes, and what it is taken for. -/
theorem resolved_inside {root : List UInt8} (hroot : root.head? = some FilePath.slash)
    {text : String} {uri : Uri}
    (h : (workspace (ofBytes root).normalize).resolve text = some uri) :
    ∃ path, denoted? text = some path ∧ FilePath.ofUri? uri = some (lexical path) ∧
      lexical (ofBytes root) <+: lexical path := by
  rw [resolve_workspace] at h
  obtain ⟨path, hdenoted, htaken⟩ := Option.bind_eq_some_iff.mp h
  obtain ⟨bytes, rfl, hbytes⟩ := denoted?_absolute hdenoted
  split_ifs at htaken with hinside
  have hlexical := eq_lexical_of_toUri? (FilePath.resolved_normalize hbytes) htaken
  rw [hlexical] at hinside htaken
  refine ⟨_, hdenoted, FilePath.ofUri?_toUri? (FilePath.isName_walk hbytes) htaken, ?_⟩
  exact lexical_inside (FilePath.resolved_normalize hroot) (List.isPrefixOf_iff_prefix.mp hinside)

/-- Where neither the root nor the path climbs above `/`, whatever lies inside is taken. -/
theorem resolve_inside {root path : FilePath} (hroot : root.normalize = lexical root)
    (hpath : path.normalize = lexical path) {text : String} (hdenoted : denoted? text = some path)
    (hinside : lexical root <+: lexical path) :
    (workspace root.normalize).resolve text = (lexical path).toUri? := by
  have htaken : FilePath.isInside (lexical root) (lexical path) = true :=
    List.isPrefixOf_iff_prefix.mpr hinside
  rw [resolve_workspace, hdenoted, Option.bind_some, hroot, hpath, if_pos htaken]

/-- Whatever an absolute root and a text are, `ofRoot` being the case of a root that is a text: a
URI that the workspace gives is that of the lexical resolution of the path that the text denotes,
which has no dots and lies inside the root; and a text whose path lies outside is refused. -/
theorem containment (root : List UInt8) (hroot : root.head? = some FilePath.slash)
    (text : String) :
    (∀ uri, (workspace (ofBytes root).normalize).resolve text = some uri →
      ∃ path, denoted? text = some path ∧ FilePath.ofUri? uri = some (lexical path) ∧
        (∀ c ∈ lexical path, c ≠ .current ∧ c ≠ .parent) ∧
        lexical (ofBytes root) <+: lexical path) ∧
      ∀ path, denoted? text = some path → ¬ lexical (ofBytes root) <+: lexical path →
        (workspace (ofBytes root).normalize).resolve text = none := by
  constructor
  · intro uri h
    obtain ⟨path, hdenoted, huri, hinside⟩ := resolved_inside hroot h
    exact ⟨path, hdenoted, huri, FilePath.lexical_no_dots path, hinside⟩
  · intro path hpath houtside
    rw [Option.eq_none_iff_forall_ne_some]
    intro uri h
    obtain ⟨path', hdenoted, -, hinside⟩ := resolved_inside hroot h
    rw [hpath] at hdenoted
    cases hdenoted
    exact houtside hinside

/-- The root `/w/../w`, a file inside it by way of encoded slashes, and a file of its neighbour. -/
theorem containment_escapes :
    let root : List UInt8 := [0x2F, 0x77, 0x2F, 0x2E, 0x2E, 0x2F, 0x77]
    (∃ path, denoted? "file:///w/a%2F..%2Fb.rs" = some path ∧
      FilePath.ofUri? ⟨"file:///w/b.rs"⟩ = some (lexical path) ∧
      lexical (ofBytes root) <+: lexical path) ∧
    (workspace (ofBytes root).normalize).resolve "file:///w2/x.rs" = none := by
  intro root
  have hinside := (containment root rfl "file:///w/a%2F..%2Fb.rs").1 ⟨"file:///w/b.rs"⟩
    (by decide +kernel)
  have houtside := (containment root rfl "file:///w2/x.rs").2
    [.root, .name [0x77, 0x32], .name [0x78, 0x2E, 0x72, 0x73]] (by decide +kernel)
    (by decide +kernel)
  obtain ⟨path, hdenoted, huri, -, hlexical⟩ := hinside
  exact ⟨⟨path, hdenoted, huri, hlexical⟩, houtside⟩

end DocSync.Resolver
