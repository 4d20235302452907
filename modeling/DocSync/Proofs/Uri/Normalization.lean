import DocSync.Proofs.Uri.FilePath
import DocSync.Uri.Resolver
import Mathlib.Data.List.Induction

/-!
# Normalized paths

A normalized path has no dots, and nothing is left to normalize in it, also after it was written and
read again. Of an absolute path it is the lexical resolution, unless the path climbs: a `..` at the
root takes the root itself away, and with it all that told the path from a relative one.
-/
namespace DocSync.FilePath

theorem normalize_concat (path : FilePath) (c : PathComponent) :
    normalize (path ++ [c]) = resolveStep path.normalize c :=
  List.foldl_concat ..

theorem walk_concat (path : FilePath) (c : PathComponent) :
    walk (path ++ [c]) = walkStep (walk path) c :=
  List.foldl_concat ..

/-! ## Dots -/

theorem normalize_no_dots (path : FilePath) :
    ∀ c ∈ path.normalize, c ≠ .current ∧ c ≠ .parent := by
  induction path using List.reverseRecOn with
  | nil => exact nofun
  | append_singleton path c ih =>
    rw [normalize_concat]
    intro d hd
    cases c with
    | parent => exact ih d (List.mem_of_mem_dropLast hd)
    | current => exact ih d hd
    | root | name =>
      rcases List.mem_append.mp hd with hd | hd
      · exact ih d hd
      · rw [List.mem_singleton.mp hd]
        exact ⟨PathComponent.noConfusion, PathComponent.noConfusion⟩

theorem normalize_eq_self {path : FilePath} (h : ∀ c ∈ path, c ≠ .current ∧ c ≠ .parent) :
    path.normalize = path := by
  induction path using List.reverseRecOn with
  | nil => rfl
  | append_singleton path c ih =>
    obtain ⟨hcurrent, hparent⟩ := h c (by simp)
    rw [normalize_concat, ih fun d hd => h d (List.mem_append_left [c] hd)]
    cases c with
    | current => exact absurd rfl hcurrent
    | parent => exact absurd rfl hparent
    | root | name => rfl

/-! ## Writing and reading -/

/-- Without a root, the stack of components is the stack of names. -/
theorem foldl_resolveStep_names {steps : FilePath} (hsteps : ∀ c ∈ steps, IsStep c)
    (names : List (List UInt8)) :
    steps.foldl resolveStep (names.map .name) = (steps.foldl walkStep names).map .name := by
  induction steps generalizing names with
  | nil => rfl
  | cons c steps ih =>
    have hstep : resolveStep (names.map .name) c = (walkStep names c).map .name := by
      cases c with
      | root => exact absurd rfl (hsteps .root List.mem_cons_self).below
      | current => rfl
      | parent => exact List.map_dropLast.symm
      | name bytes =>
        have hpush : (names ++ [bytes]).map PathComponent.name = names.map .name ++ [.name bytes] :=
          List.map_append
        exact hpush.symm
    rw [List.foldl_cons, List.foldl_cons, hstep]
    exact ih (fun d hd => hsteps d (List.mem_cons_of_mem c hd)) (walkStep names c)

theorem isStep_of_relative {bytes : List UInt8} (h : bytes.head? ≠ some slash) :
    ∀ c ∈ ofBytes bytes, IsStep c := by
  rw [ofBytes, if_neg h]
  intro c hc
  obtain ⟨part, hpart, hcomponent⟩ := List.mem_filterMap.mp hc
  exact isStep_component (Split.not_separates_of_mem_parts hpart) hcomponent

/-- What a path is normalized to: names, after the root if it was absolute and has kept it. -/
theorem exists_resolved (bytes : List UInt8) :
    ∃ names, Resolved names (ofBytes bytes).normalize ∧ ∀ name ∈ names, IsName name := by
  by_cases h : bytes.head? = some slash
  · exact ⟨walk (ofBytes bytes), resolved_normalize h, isName_walk h⟩
  · have hsteps := isStep_of_relative h
    refine ⟨walk (ofBytes bytes), ?_, isName_foldl hsteps (by simp)⟩
    rw [normalize, show ([] : FilePath) = ([] : List (List UInt8)).map .name from rfl,
      foldl_resolveStep_names hsteps]
    exact .lost

theorem map_nameBytes (names : List (List UInt8)) :
    (names.map PathComponent.name).map nameBytes = names := by
  rw [List.map_map]
  exact List.map_id names

/-- A name has a first byte, which is no slash. -/
theorem IsName.head {bytes : List UInt8} (h : IsName bytes) :
    ∃ b rest, bytes = b :: rest ∧ b ≠ slash := by
  cases bytes with
  | nil => cases h.names
  | cons b rest => exact ⟨b, rest, rfl, by simpa using h.whole b List.mem_cons_self⟩

/-- Names that are written without a leading slash are read as a relative path. -/
theorem ofBytes_relative {names : List (List UInt8)} (h : ∀ name ∈ names, IsName name) :
    ofBytes ([slash].intercalate names) = names.map .name := by
  have hhead : ([slash].intercalate names).head? ≠ some slash := by
    cases names with
    | nil => exact nofun
    | cons name others =>
      obtain ⟨b, rest, rfl, hb⟩ := (h name List.mem_cons_self).head
      cases others with
      | nil => simpa using hb
      | cons next others => simpa [List.intercalate_cons_cons] using hb
  rw [ofBytes, if_neg hhead, components_names h]

/-- A normalized path that is written is read as it was. -/
theorem Resolved.ofBytes_toBytes {names : List (List UInt8)} {path : FilePath}
    (h : Resolved names path) (hnames : ∀ name ∈ names, IsName name) :
    ofBytes path.toBytes = path := by
  cases h with
  | rooted => rw [toBytes, map_nameBytes, ofBytes_names hnames]
  | lost =>
    cases names with
    | nil => rfl
    | cons name others =>
      have hbytes : toBytes ((name :: others).map .name) = [slash].intercalate (name :: others) :=
        congrArg [slash].intercalate (map_nameBytes (name :: others))
      rw [hbytes, ofBytes_relative hnames]

/-! ## Climbing -/

/-- Whether a path goes back from the root: it has a `..` where no name is left to be taken away. -/
def Climbs (path : FilePath) : Prop :=
  ∃ before after, path = before ++ .parent :: after ∧ walk before = []

theorem climbs_concat {path : FilePath} {c : PathComponent} :
    Climbs (path ++ [c]) ↔ Climbs path ∨ c = .parent ∧ walk path = [] := by
  constructor
  · rintro ⟨before, after, hpath, hwalk⟩
    rcases List.eq_nil_or_concat after with rfl | ⟨after, d, rfl⟩
    · obtain ⟨rfl, hc⟩ := List.append_inj' hpath rfl
      exact .inr ⟨List.singleton_inj.mp hc, hwalk⟩
    · rw [List.concat_eq_append, ← List.cons_append, ← List.append_assoc] at hpath
      exact .inl ⟨before, after, (List.append_inj' hpath rfl).1, hwalk⟩
  · rintro (⟨before, after, rfl, hwalk⟩ | ⟨rfl, hwalk⟩)
    · exact ⟨before, after ++ [c], by simp, hwalk⟩
    · exact ⟨path, [], rfl, hwalk⟩

/-- As long as names are left to go back to, the root stays where it is. -/
theorem resolveStep_lexical {path : FilePath} {c : PathComponent} (hc : IsStep c)
    (h : ¬ (c = .parent ∧ walk path = [])) :
    resolveStep (lexical path) c = lexical (path ++ [c]) := by
  unfold lexical
  rw [walk_concat]
  cases c with
  | root => exact absurd rfl hc.below
  | current => rfl
  | parent =>
    obtain ⟨name, names, hwalk⟩ := List.exists_cons_of_ne_nil fun hnil => h ⟨rfl, hnil⟩
    rw [hwalk]
    show (PathComponent.root :: (name :: names).map .name).dropLast =
      .root :: (name :: names).dropLast.map .name
    rw [List.map_dropLast, List.map_cons, List.dropLast_cons_cons]
  | name bytes =>
    show PathComponent.root :: (walk path).map .name ++ [.name bytes] =
      .root :: (walk path ++ [bytes]).map .name
    rw [List.map_append, List.cons_append, List.map_singleton]

theorem normalize_of_not_climbs {steps : FilePath} (hsteps : ∀ c ∈ steps, IsStep c)
    (h : ¬ Climbs (.root :: steps)) : normalize (.root :: steps) = lexical (.root :: steps) := by
  induction steps using List.reverseRecOn with
  | nil => rfl
  | append_singleton steps c ih =>
    rw [← List.cons_append, climbs_concat, not_or] at h
    rw [← List.cons_append, normalize_concat,
      ih (fun d hd => hsteps d (List.mem_append_left [c] hd)) h.1,
      resolveStep_lexical (hsteps c (by simp)) h.2]

/-- Where the root is taken away nothing is left, and what follows is as in a relative path. -/
theorem normalize_of_climbs {steps : FilePath} (hsteps : ∀ c ∈ steps, IsStep c)
    (h : Climbs (.root :: steps)) :
    normalize (.root :: steps) = (walk (.root :: steps)).map .name := by
  obtain ⟨before, after, hpath, hwalk⟩ := h
  cases before with
  | nil => cases hpath
  | cons c before =>
    rw [List.cons_append] at hpath
    obtain ⟨rfl, rfl⟩ := List.cons_eq_cons.mp hpath
    have hbefore : ∀ c ∈ before, IsStep c := fun c hc => hsteps c (List.mem_append_left _ hc)
    have hafter : ∀ c ∈ after, IsStep c := fun c hc =>
      hsteps c (List.mem_append_right _ (List.mem_cons_of_mem _ hc))
    have hgone : resolveStep (normalize (.root :: before)) .parent = [] := by
      have hresolved : Resolved (walk (.root :: before)) (normalize (.root :: before)) :=
        Resolved.foldl hbefore .rooted
      rw [hwalk] at hresolved
      generalize normalize (.root :: before) = path at hresolved ⊢
      cases hresolved <;> rfl
    have hnone : walkStep (walk (.root :: before)) .parent = [] := by rw [hwalk]; rfl
    rw [← List.cons_append, normalize, walk, List.foldl_append, List.foldl_append,
      List.foldl_cons, List.foldl_cons]
    change after.foldl resolveStep (resolveStep (normalize (.root :: before)) .parent) =
      (after.foldl walkStep (walkStep (walk (.root :: before)) .parent)).map .name
    rw [hgone, hnone]
    exact foldl_resolveStep_names hafter []

/-- What normalizing makes of a path that was read from bytes. -/
structure Normalizes (bytes : List UInt8) : Prop where
  noDots : ∀ c ∈ (ofBytes bytes).normalize, c ≠ .current ∧ c ≠ .parent
  idempotent : (ofBytes bytes).normalize.normalize = (ofBytes bytes).normalize
  /-- Written and read again, the normalized path is the same. -/
  reread : ofBytes (ofBytes bytes).normalize.toBytes = (ofBytes bytes).normalize
  /-- An absolute path that does not climb is resolved as POSIX has it, and denotes the same place
  as its resolved spelling. -/
  resolves : bytes.head? = some slash → ¬ Climbs (ofBytes bytes) →
    (ofBytes bytes).normalize = lexical (ofBytes bytes) ∧
    (ofBytes (lexical (ofBytes bytes)).toBytes).normalize = (ofBytes bytes).normalize
  /-- Exactly the paths that do not climb stay absolute. -/
  absolute : bytes.head? = some slash →
    ((ofBytes bytes).normalize.isAbsolute = true ↔ ¬ Climbs (ofBytes bytes))

/-- Every path is normalized to one without dots, and an absolute one that never goes back from the
root to its lexical resolution. -/
theorem normalizes (bytes : List UInt8) : Normalizes bytes := by
  have hdots := normalize_no_dots (ofBytes bytes)
  have hself := normalize_eq_self hdots
  obtain ⟨names, hresolved, hnames⟩ := exists_resolved bytes
  have hreread := hresolved.ofBytes_toBytes hnames
  refine ⟨hdots, hself, hreread, ?resolves, ?absolute⟩
  case resolves =>
    intro h hclimbs
    obtain ⟨steps, hpath, hsteps⟩ := ofBytes_absolute h
    have hlexical : (ofBytes bytes).normalize = lexical (ofBytes bytes) := by
      rw [hpath] at hclimbs ⊢
      exact normalize_of_not_climbs hsteps hclimbs
    refine ⟨hlexical, ?_⟩
    rw [← hlexical, hreread, hself]
  case absolute =>
    intro h
    obtain ⟨steps, hpath, hsteps⟩ := ofBytes_absolute h
    rw [hpath]
    constructor
    · intro habsolute hclimbs
      rw [normalize_of_climbs hsteps hclimbs] at habsolute
      cases hwalk : walk (.root :: steps) with
      | nil =>
        rw [hwalk] at habsolute
        cases habsolute
      | cons name names =>
        rw [hwalk] at habsolute
        cases habsolute
    · intro hclimbs
      rw [normalize_of_not_climbs hsteps hclimbs]
      rfl

/-- The path `/a/./../b`, which goes back to the root and no further. -/
theorem normalizes_detour :
    let bytes : List UInt8 := [0x2F, 0x61, 0x2F, 0x2E, 0x2F, 0x2E, 0x2E, 0x2F, 0x62]
    bytes.head? = some slash ∧ ¬ Climbs (ofBytes bytes) ∧
      lexical (ofBytes bytes) = [.root, .name [0x62]] ∧
      (ofBytes bytes).normalize = lexical (ofBytes bytes) ∧
      (ofBytes [0x2F, 0x62]).normalize = (ofBytes bytes).normalize := by
  intro bytes
  have hnormalizes := normalizes bytes
  have hclimbs : ¬ Climbs (ofBytes bytes) := (hnormalizes.absolute rfl).mp (by decide)
  have hlexical : lexical (ofBytes bytes) = [.root, .name [0x62]] := by decide
  have hspelling : (lexical (ofBytes bytes)).toBytes = [0x2F, 0x62] := by decide
  obtain ⟨hresolved, hsame⟩ := hnormalizes.resolves rfl hclimbs
  rw [hspelling] at hsame
  exact ⟨rfl, hclimbs, hlexical, hresolved, hsame⟩

/-- The path `/../w` is that of `/w`, but it is normalized to a relative path. A workspace there
takes none of the files inside it. -/
theorem normalizes_climbing :
    let bytes : List UInt8 := [0x2F, 0x2E, 0x2E, 0x2F, 0x77]
    bytes.head? = some slash ∧ lexical (ofBytes bytes) = [.root, .name [0x77]] ∧
      (ofBytes bytes).normalize = [.name [0x77]] ∧
      (ofBytes bytes).normalize.isAbsolute = false ∧
      (Resolver.workspace (ofBytes bytes).normalize).resolve "file:///w/a.rs" = none ∧
      (Resolver.workspace (lexical (ofBytes bytes))).resolve "file:///w/a.rs" =
        some ⟨"file:///w/a.rs"⟩ := by
  decide +kernel

end DocSync.FilePath
