import DocSync.Proofs.Data.Split
import DocSync.Proofs.Uri.Percent
import DocSync.Uri.Resolver
import Mathlib.Data.List.Infix
import Mathlib.Data.List.TakeWhile

/-!
# Lexical resolution

What normalizing makes of an absolute path. The components are walked one after the other, and `..`
goes back one name; above the root there is nothing to go back to. Normalizing keeps its components
on one stack with the root, so that a path that climbs above the root loses it: what is left then
has the names of the lexical resolution and is relative.
-/
namespace DocSync.FilePath

/-! ## Names -/

/-- Bytes that a component can have as its name: not empty, no dots that stand for a place, no
slash. -/
structure IsName (bytes : List UInt8) : Prop where
  names : component? bytes = some (.name bytes)
  whole : ∀ b ∈ bytes, (b == slash) = false

/-- The components after the root: places relative to it, and names. -/
structure IsStep (c : PathComponent) : Prop where
  below : c ≠ .root
  name : ∀ bytes, c = .name bytes → IsName bytes

theorem isStep_component {part : List UInt8} (hpart : ∀ b ∈ part, (b == slash) = false)
    {c : PathComponent} (h : component? part = some c) : IsStep c := by
  have h' := h
  unfold component? at h'
  split_ifs at h' with hempty hdot hdots
  · cases h'
    exact ⟨PathComponent.noConfusion, fun _ hname => PathComponent.noConfusion hname⟩
  · cases h'
    exact ⟨PathComponent.noConfusion, fun _ hname => PathComponent.noConfusion hname⟩
  · cases h'
    refine ⟨PathComponent.noConfusion, fun bytes hname => ?_⟩
    cases hname
    exact ⟨h, hpart⟩

/-- An absolute path is the root and steps from it. -/
theorem ofBytes_absolute {bytes : List UInt8} (h : bytes.head? = some slash) :
    ∃ steps, ofBytes bytes = .root :: steps ∧ ∀ c ∈ steps, IsStep c := by
  refine ⟨_, if_pos h, fun c hc => ?_⟩
  obtain ⟨part, hpart, hcomponent⟩ := List.mem_filterMap.mp hc
  exact isStep_component (Split.not_separates_of_mem_parts hpart) hcomponent

/-! ## Walking -/

/-- One step from the directory that names lead to. -/
def walkStep (names : List (List UInt8)) : PathComponent → List (List UInt8)
  | .root => []
  | .current => names
  | .parent => names.dropLast
  | .name bytes => names ++ [bytes]

/-- The names from the root to where a path leads. -/
def walk (path : FilePath) : List (List UInt8) := path.foldl walkStep []

/-- The absolute path without `.` and `..`, with `..` at the root staying there. -/
def lexical (path : FilePath) : FilePath := .root :: (walk path).map .name

theorem isName_walkStep {names : List (List UInt8)} (h : ∀ name ∈ names, IsName name)
    {c : PathComponent} (hc : IsStep c) : ∀ name ∈ walkStep names c, IsName name := by
  cases c with
  | root => exact absurd rfl hc.below
  | current => exact h
  | parent => exact fun name hname => h name (List.mem_of_mem_dropLast hname)
  | name bytes =>
    intro name hname
    rcases List.mem_append.mp hname with hname | hname
    · exact h name hname
    · rw [List.mem_singleton.mp hname]
      exact hc.name bytes rfl

theorem isName_foldl {steps : FilePath} (hsteps : ∀ c ∈ steps, IsStep c)
    {names : List (List UInt8)} (h : ∀ name ∈ names, IsName name) :
    ∀ name ∈ steps.foldl walkStep names, IsName name := by
  induction steps generalizing names with
  | nil => exact h
  | cons c steps ih =>
    exact ih (fun d hd => hsteps d (List.mem_cons_of_mem c hd))
      (isName_walkStep h (hsteps c List.mem_cons_self))

theorem isName_walk {bytes : List UInt8} (h : bytes.head? = some slash) :
    ∀ name ∈ walk (ofBytes bytes), IsName name := by
  obtain ⟨steps, hpath, hsteps⟩ := ofBytes_absolute h
  rw [hpath]
  exact isName_foldl hsteps (by simp [walkStep])

theorem lexical_no_dots (path : FilePath) :
    ∀ c ∈ lexical path, c ≠ .current ∧ c ≠ .parent := by
  intro c hc
  rcases List.mem_cons.mp hc with rfl | hc
  · exact ⟨PathComponent.noConfusion, PathComponent.noConfusion⟩
  · obtain ⟨bytes, -, rfl⟩ := List.mem_map.mp hc
    exact ⟨PathComponent.noConfusion, PathComponent.noConfusion⟩

/-! ## Normalizing -/

/-- What normalizing has made of a path that leads to `names`. -/
inductive Resolved (names : List (List UInt8)) : FilePath → Prop
  | rooted : Resolved names (.root :: names.map .name)
  /-- The path has climbed above its root. -/
  | lost : Resolved names (names.map .name)

theorem Resolved.step {names : List (List UInt8)} {path : FilePath} (h : Resolved names path)
    {c : PathComponent} (hc : IsStep c) : Resolved (walkStep names c) (resolveStep path c) := by
  cases c with
  | root => exact absurd rfl hc.below
  | current => exact h
  | parent =>
    show Resolved names.dropLast path.dropLast
    cases h with
    | rooted =>
      cases names with
      | nil => exact .lost
      | cons name names =>
        have hpop : (PathComponent.root :: (name :: names).map .name).dropLast
            = .root :: (name :: names).dropLast.map .name := by
          rw [List.map_dropLast, List.map_cons, List.dropLast_cons_cons]
        exact hpop ▸ .rooted
    | lost => exact List.map_dropLast ▸ .lost
  | name bytes =>
    have hpush : (names ++ [bytes]).map PathComponent.name = names.map .name ++ [.name bytes] :=
      List.map_append
    show Resolved (names ++ [bytes]) (path ++ [.name bytes])
    cases h with
    | rooted =>
      rw [List.cons_append, ← hpush]
      exact .rooted
    | lost =>
      rw [← hpush]
      exact .lost

theorem Resolved.foldl {steps : FilePath} (hsteps : ∀ c ∈ steps, IsStep c)
    {names : List (List UInt8)} {path : FilePath} (h : Resolved names path) :
    Resolved (steps.foldl walkStep names) (steps.foldl resolveStep path) := by
  induction steps generalizing names path with
  | nil => exact h
  | cons c steps ih =>
    exact ih (fun d hd => hsteps d (List.mem_cons_of_mem c hd))
      (h.step (hsteps c List.mem_cons_self))

/-- A normalized absolute path is its lexical resolution, or it has climbed above the root and is
the relative path of the same names. -/
theorem resolved_normalize {bytes : List UInt8} (h : bytes.head? = some slash) :
    Resolved (walk (ofBytes bytes)) (ofBytes bytes).normalize := by
  obtain ⟨steps, hpath, hsteps⟩ := ofBytes_absolute h
  rw [hpath]
  exact Resolved.foldl hsteps .rooted

/-! ## Writing a path as a URI and reading it -/

/-- The text of names in a path of a URI. -/
def namesText (names : List (List UInt8)) : List Char :=
  ['/'].intercalate (names.map (Percent.encodeBytes Percent.segment))

theorem decode_namesText (names : List (List UInt8)) :
    Percent.decode (Percent.utf8 (namesText names)) = [slash].intercalate names := by
  unfold namesText
  induction names with
  | nil => simp [Percent.utf8_eq, Percent.decode]
  | cons name names ih =>
    cases names with
    | nil =>
      have hpercent : '%' ∈ Percent.segment := by decide
      have hname := Percent.decode_encodeBytes hpercent name []
      simpa [List.intercalate, Percent.decode] using hname
    | cons next names =>
      have hslash (rest : List Char) : Percent.utf8 ('/' :: rest) = slash :: Percent.utf8 rest :=
        Percent.utf8_cons (by decide) rest
      rw [List.map_cons, List.map_cons, List.intercalate_cons_cons, List.append_assoc,
        Percent.utf8_append, Percent.decode_encodeBytes (by decide), List.singleton_append, hslash,
        Percent.decode_cons (by decide), ← List.map_cons, ih, List.intercalate_cons_cons,
        List.append_assoc, List.singleton_append]

theorem not_endsPath_namesText (names : List (List UInt8)) :
    ∀ c ∈ namesText names, (! Uri.endsPath c) = true := by
  intro c hc
  have hquery (name : List UInt8) : '?' ∉ Percent.encodeBytes Percent.segment name :=
    Percent.notMem_encodeBytes (by decide) (by decide) name
  have hfragment (name : List UInt8) : '#' ∉ Percent.encodeBytes Percent.segment name :=
    Percent.notMem_encodeBytes (by decide) (by decide) name
  rcases Split.mem_intercalate hc with rfl | ⟨part, hpart, hc⟩
  · rfl
  · obtain ⟨name, -, rfl⟩ := List.mem_map.mp hpart
    have hne : c ≠ '?' ∧ c ≠ '#' :=
      ⟨fun h => hquery name (h ▸ hc), fun h => hfragment name (h ▸ hc)⟩
    simp [Uri.endsPath, hne.1, hne.2]

/-- The path of a URI without host that starts with a slash. -/
theorem ofUri?_file {names : List Char} (h : ∀ c ∈ names, (! Uri.endsPath c) = true) :
    ofUri? ⟨"file:///" ++ String.ofList names⟩ =
      some (ofBytes (slash :: Percent.decode (Percent.utf8 names))) := by
  let u : Uri := ⟨"file:///" ++ String.ofList names⟩
  have htext : u.text.toList = 'f' :: 'i' :: 'l' :: 'e' :: ':' :: '/' :: '/' :: '/' :: names := by
    show ("file:///" ++ String.ofList names).toList = _
    rw [String.toList_append, String.toList_ofList]
    simp only [String.toList_ofList, List.cons_append, List.nil_append]
  have hcut : u.cutAuthority = ([], '/' :: names) := by
    rw [Uri.cutAuthority, Uri.afterScheme, htext]
    rfl
  have hhost : u.host = [] := by
    rw [Uri.host, hcut]
    rfl
  have hpath : u.path = '/' :: names := by
    rw [Uri.path, hcut]
    exact List.takeWhile_eq_self_iff.mpr (List.forall_mem_cons.mpr ⟨rfl, h⟩)
  have hslash : Percent.utf8 ('/' :: names) = slash :: Percent.utf8 names :=
    Percent.utf8_cons (by decide) names
  show ofUri? u = _
  rw [ofUri?, hpath, hhost]
  exact (if_pos (.inl rfl)).trans (by rw [hslash, Percent.decode_cons (by decide)])

/-- Names with slashes between them are found again. -/
theorem components_names {names : List (List UInt8)} (h : ∀ name ∈ names, IsName name) :
    (Split.parts (· == slash) ([slash].intercalate names)).filterMap component? =
      names.map .name := by
  by_cases hempty : names = []
  · rw [hempty]
    rfl
  · have hparts : Split.parts (· == slash) ([slash].intercalate names) = names :=
      Split.parts_intercalate rfl hempty fun name hname => (h name hname).whole
    rw [hparts, List.filterMap_congr fun name hname => (h name hname).names]
    exact congrFun List.filterMap_eq_map names

theorem ofBytes_names {names : List (List UInt8)} (h : ∀ name ∈ names, IsName name) :
    ofBytes (slash :: [slash].intercalate names) = .root :: names.map .name := by
  have hfirst (rest : List UInt8) :
      Split.parts (· == slash) (slash :: rest) = [] :: Split.parts (· == slash) rest :=
    Split.parts_of_separator rfl rest
  rw [ofBytes, hfirst, List.filterMap_cons_none rfl, components_names h, if_pos List.head?_cons]

/-- Names written as a URI are found again. -/
theorem ofUri?_toUri? {names : List (List UInt8)} (h : ∀ name ∈ names, IsName name) {uri : Uri}
    (huri : toUri? (.root :: names.map .name) = some uri) :
    ofUri? uri = some (.root :: names.map .name) := by
  have hnames : (names.map PathComponent.name).map
      (fun c => Percent.encodeBytes Percent.segment (nameBytes c)) =
        names.map (Percent.encodeBytes Percent.segment) := by
    rw [List.map_map]
    rfl
  rw [toUri?, hnames] at huri
  obtain rfl := Option.some.inj huri
  rw [← namesText, ofUri?_file (not_endsPath_namesText names), decode_namesText, ofBytes_names h]

end DocSync.FilePath
