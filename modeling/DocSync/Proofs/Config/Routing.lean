import DocSync.Config.Routing
import DocSync.Proofs.Config.Definition
import DocSync.Proofs.Data.Table
import DocSync.Proofs.Toml.Distinct
import DocSync.Proofs.Uri.Extension

/-!
# Loading and routing

A configuration has exactly the well-formed servers of its document, so that nothing tells which
malformed ones stood among them. A file goes to the server that comes first by name of all that have
its extension: servers take their extensions in the order of their names, and what is taken stays
taken, so that the route of an extension is the first server that lists it.
-/
namespace DocSync.Config

/-! ## Routes -/

theorem lookup_addRoute (name key extension : String) (routes : List (String × String)) :
    (addRoute name routes extension).lookup key =
      (routes.lookup key).or (if key = extension then some name else none) := by
  unfold addRoute
  split
  · rename_i htaken
    by_cases h : key = extension
    · obtain ⟨other, hother⟩ := Option.isSome_iff_exists.mp htaken
      rw [h, hother, Option.some_or]
    · rw [if_neg h, Option.or_none]
  · rename_i hfree
    rw [Sorted.lookup_insert]
    by_cases h : key = extension
    · rw [if_pos h, if_pos h, h, Option.not_isSome_iff_eq_none.mp hfree, Option.none_or]
    · rw [if_neg h, if_neg h, Option.or_none]

theorem lookup_foldl_addRoute (name key : String) (extensions : List String)
    (routes : List (String × String)) : (extensions.foldl (addRoute name) routes).lookup key =
      (routes.lookup key).or (if key ∈ extensions then some name else none) := by
  induction extensions generalizing routes with
  | nil => simp
  | cons extension extensions ih =>
    rw [List.foldl_cons, ih, lookup_addRoute, Option.or_assoc]
    congr 1
    by_cases h : key = extension <;> simp [h]

theorem handles_iff {d : ServerDefinition} {extension : String} :
    d.handles extension = true ↔ extension ∈ d.fileExtensions :=
  List.contains_iff_mem

/-- Of servers that take their extensions one after the other, the first that has an extension gets
it. -/
theorem lookup_foldl_addRoutes (key : String) (servers : List (String × ServerDefinition))
    (routes : List (String × String)) : (servers.foldl addRoutes routes).lookup key =
      (routes.lookup key).or ((servers.find? fun x => x.2.handles key).map Prod.fst) := by
  induction servers generalizing routes with
  | nil => simp
  | cons server servers ih =>
    rw [List.foldl_cons, ih, addRoutes, lookup_foldl_addRoute, Option.or_assoc]
    congr 1
    by_cases h : key ∈ server.2.fileExtensions
    · have hfound : (server :: servers).find? (fun x => x.2.handles key) = some server :=
        List.find?_cons_of_pos (handles_iff.mpr h)
      rw [if_pos h, hfound, Option.some_or, Option.map_some]
    · have hnext : (server :: servers).find? (fun x => x.2.handles key) =
          servers.find? fun x => x.2.handles key :=
        List.find?_cons_of_neg (mt handles_iff.mp h)
      rw [if_neg h, hnext, Option.none_or]

theorem lookup_routes (c : Config) (key : String) : c.routes.lookup key =
    ((Sorted.ofList c.servers).find? fun x => x.2.handles key).map Prod.fst := by
  rw [routes, lookup_foldl_addRoutes, List.lookup_nil, Option.none_or]

/-! ## The first server by name -/

/-- A server that has an extension, and no server of a lesser name has it. -/
structure First (servers : List (String × ServerDefinition)) (extension : String)
    (x : String × ServerDefinition) : Prop where
  listed : x ∈ servers
  has : extension ∈ x.2.fileExtensions
  least : ∀ y ∈ servers, extension ∈ y.2.fileExtensions → x.1 ≤ y.1

variable {servers servers' : List (String × ServerDefinition)} {extension : String}
  {x y : String × ServerDefinition}

theorem eq_of_name (h : (servers.map Prod.fst).Nodup) (hx : x ∈ servers) (hy : y ∈ servers)
    (hname : x.1 = y.1) : x = y := by
  have hvalue := Table.lookup_of_mem h hx
  rw [hname, Table.lookup_of_mem h hy] at hvalue
  exact Prod.ext hname (Option.some.inj hvalue).symm

theorem First.unique (h : (servers.map Prod.fst).Nodup) (hx : First servers extension x)
    (hy : First servers extension y) : x = y :=
  eq_of_name h hx.listed hy.listed
    (le_antisymm (hx.least y hy.listed hy.has) (hy.least x hx.listed hx.has))

theorem First.of_perm (hperm : servers.Perm servers') (h : First servers extension x) :
    First servers' extension x :=
  ⟨hperm.mem_iff.mp h.listed, h.has, fun y hy => h.least y (hperm.mem_iff.mpr hy)⟩

/-- In the order of names, the first server found is the first by name. -/
theorem first_of_find? (h : Sorted.Ascending servers)
    (hfind : servers.find? (fun x => x.2.handles extension) = some x) :
    First servers extension x := by
  obtain ⟨hx, before, after, rfl, hbefore⟩ := List.find?_eq_some_iff_append.mp hfind
  refine ⟨by simp, handles_iff.mp hx, ?_⟩
  intro y hy hextension
  have hnames := List.pairwise_map.mp h
  rcases List.mem_append.mp hy with hy | hy
  · have hnot := hbefore y hy
    rw [handles_iff.mpr hextension] at hnot
    cases hnot
  · rcases List.mem_cons.mp hy with rfl | hy
    · exact le_refl _
    · exact le_of_lt ((List.pairwise_cons.mp (List.pairwise_append.mp hnames).2.1).1 y hy)

theorem route_eq_some_iff {c : Config} (h : (c.servers.map Prod.fst).Nodup) :
    (Sorted.ofList c.servers).find? (fun x => x.2.handles extension) = some x ↔
      First c.servers extension x := by
  have hperm := Sorted.ofList_perm h
  have hfirst {x : String × ServerDefinition}
      (hfind : (Sorted.ofList c.servers).find? (fun x => x.2.handles extension) = some x) :
      First c.servers extension x :=
    (first_of_find? (Sorted.ascending_ofList c.servers) hfind).of_perm hperm
  refine ⟨hfirst, fun hx => ?_⟩
  have hsome : ((Sorted.ofList c.servers).find? fun x => x.2.handles extension).isSome :=
    List.find?_isSome.mpr ⟨x, hperm.mem_iff.mpr hx.listed, handles_iff.mpr hx.has⟩
  obtain ⟨y, hy⟩ := Option.isSome_iff_exists.mp hsome
  rw [hy, First.unique h hx (hfirst hy)]

theorem serverFor?_eq_some_iff {c : Config} (h : (c.servers.map Prod.fst).Nodup) {uri : Uri} :
    c.serverFor? uri = some x ↔
      ∃ extension, uri.extension? = some extension ∧ First c.servers extension x := by
  unfold serverFor?
  constructor
  · intro hserver
    obtain ⟨extension, hextension, hserver⟩ := Option.bind_eq_some_iff.mp hserver
    obtain ⟨name, hname, hserver⟩ := Option.bind_eq_some_iff.mp hserver
    obtain ⟨d, hd, hserver⟩ := Option.bind_eq_some_iff.mp hserver
    cases hserver
    rw [lookup_routes] at hname
    obtain ⟨y, hy, rfl⟩ := Option.map_eq_some_iff.mp hname
    have hfirst := (route_eq_some_iff h).mp hy
    rw [Table.lookup_of_mem h hfirst.listed] at hd
    cases hd
    exact ⟨extension, hextension, hfirst⟩
  · rintro ⟨extension, hextension, hfirst⟩
    have hroute : c.routes.lookup extension = some x.1 := by
      rw [lookup_routes, (route_eq_some_iff h).mpr hfirst, Option.map_some]
    simp only [hextension, hroute, Table.lookup_of_mem h hfirst.listed, Option.bind_eq_bind,
      Option.bind_some]

theorem serverFor?_eq_none_iff {c : Config} (h : (c.servers.map Prod.fst).Nodup) {uri : Uri} :
    c.serverFor? uri = none ↔ ∀ extension, uri.extension? = some extension →
      ∀ y ∈ c.servers, extension ∉ y.2.fileExtensions := by
  constructor
  · intro hnone extension hextension y hy hmem
    have hsome : ((Sorted.ofList c.servers).find? fun x => x.2.handles extension).isSome :=
      List.find?_isSome.mpr ⟨y, (Sorted.ofList_perm h).mem_iff.mpr hy, handles_iff.mpr hmem⟩
    obtain ⟨x, hx⟩ := Option.isSome_iff_exists.mp hsome
    have hserver := (serverFor?_eq_some_iff h).mpr
      ⟨extension, hextension, (route_eq_some_iff h).mp hx⟩
    rw [hnone] at hserver
    cases hserver
  · intro hnone
    apply Option.eq_none_iff_forall_ne_some.mpr
    intro x hx
    obtain ⟨extension, hextension, hfirst⟩ := (serverFor?_eq_some_iff h).mp hx
    exact hnone extension hextension x hfirst.listed hfirst.has

theorem serverFor?_perm {c : Config} (h : (c.servers.map Prod.fst).Nodup)
    (hperm : servers.Perm c.servers) (uri : Uri) :
    serverFor? { c with servers } uri = c.serverFor? uri := by
  have h' : (servers.map Prod.fst).Nodup := (hperm.map Prod.fst).nodup_iff.mpr h
  apply Option.ext
  intro x
  rw [serverFor?_eq_some_iff h, serverFor?_eq_some_iff (c := { c with servers }) h']
  apply exists_congr
  intro extension
  apply and_congr_right'
  exact ⟨First.of_perm hperm, First.of_perm hperm.symm⟩

/-- Servers of the same names that have the same extensions, however often they list them. -/
def SameExtensions : List (String × ServerDefinition) → List (String × ServerDefinition) → Prop :=
  List.Forall₂ fun x y =>
    x.1 = y.1 ∧ ∀ extension, extension ∈ x.2.fileExtensions ↔ extension ∈ y.2.fileExtensions

theorem SameExtensions.symm (h : SameExtensions servers servers') :
    SameExtensions servers' servers :=
  List.Forall₂.flip (h.imp fun _ _ hxy => ⟨hxy.1.symm, fun extension => (hxy.2 extension).symm⟩)

theorem SameExtensions.exists_mem (h : SameExtensions servers servers') (hx : x ∈ servers) :
    ∃ y ∈ servers', x.1 = y.1 ∧
      ∀ extension, extension ∈ x.2.fileExtensions ↔ extension ∈ y.2.fileExtensions := by
  induction h with
  | nil => cases hx
  | cons hxy _ ih =>
    rcases List.mem_cons.mp hx with rfl | hx
    · exact ⟨_, List.mem_cons_self, hxy⟩
    · obtain ⟨y, hy, hsame⟩ := ih hx
      exact ⟨y, List.mem_cons_of_mem _ hy, hsame⟩

theorem SameExtensions.exists_first (h : SameExtensions servers servers')
    (hx : First servers extension x) : ∃ y, First servers' extension y ∧ x.1 = y.1 := by
  obtain ⟨y, hy, hname, hsame⟩ := h.exists_mem hx.listed
  refine ⟨y, ⟨hy, (hsame extension).mp hx.has, ?_⟩, hname⟩
  intro z' hz' hextension
  obtain ⟨z, hz, hname', hsame'⟩ := h.symm.exists_mem hz'
  rw [← hname, hname']
  exact hx.least z hz ((hsame' extension).mp hextension)

theorem SameExtensions.name {c : Config} (h : (c.servers.map Prod.fst).Nodup)
    (hsame : SameExtensions c.servers servers) (uri : Uri) :
    (serverFor? { c with servers } uri).map Prod.fst = (c.serverFor? uri).map Prod.fst := by
  have h' : (servers.map Prod.fst).Nodup := by
    have hnames := Table.names_eq (R := fun x y : ServerDefinition =>
      ∀ extension, extension ∈ x.fileExtensions ↔ extension ∈ y.fileExtensions) hsame
    exact hnames ▸ h
  apply Option.ext
  intro name
  rw [Option.map_eq_some_iff, Option.map_eq_some_iff]
  constructor
  · rintro ⟨x, hx, rfl⟩
    obtain ⟨extension, hextension, hfirst⟩ :=
      (serverFor?_eq_some_iff (c := { c with servers }) h').mp hx
    obtain ⟨y, hy, hname⟩ := hsame.symm.exists_first hfirst
    exact ⟨y, (serverFor?_eq_some_iff h).mpr ⟨extension, hextension, hy⟩, hname.symm⟩
  · rintro ⟨x, hx, rfl⟩
    obtain ⟨extension, hextension, hfirst⟩ := (serverFor?_eq_some_iff h).mp hx
    obtain ⟨y, hy, hname⟩ := hsame.exists_first hfirst
    exact ⟨y, (serverFor?_eq_some_iff (c := { c with servers }) h').mpr
      ⟨extension, hextension, hy⟩, hname.symm⟩

end DocSync.Config
