import DocSync.Proofs.Data.Table
import DocSync.Toml.Reader
import Mathlib.Data.List.Infix
import Mathlib.Data.List.Nodup

/-!
# Names in a document

No table of a document that was read has two entries of one name. Tables are only ever changed by
setting a key, which takes the place of an entry of that name, and whatever is set has this property
itself: values because reading them gives no others, and tables because they were open before.
-/
namespace DocSync.Toml

/-- No table of a value has two entries of one name. -/
inductive Distinct : Toml → Prop
  | string (s : String) : Distinct (.string s)
  | integer (n : Int) : Distinct (.integer n)
  | float (bits : UInt64) : Distinct (.float bits)
  | boolean (b : Bool) : Distinct (.boolean b)
  | dateTime (d : DateTime) : Distinct (.dateTime d)
  | array {items : List Toml} (h : ∀ v ∈ items, Distinct v) : Distinct (.array items)
  | table {entries : List (String × Toml)} (hnames : (entries.map Prod.fst).Nodup)
      (h : ∀ x ∈ entries, Distinct x.2) : Distinct (.table entries)

/-! ## Tables while keys are added -/

/-- The same of a table that is being defined. -/
inductive Node.Distinct : Node → Prop
  | leaf {v : Toml} (h : v.Distinct) : Node.Distinct (.leaf v)
  | table (implicit dotted : Bool) {entries : List (String × Node)}
      (hnames : (entries.map Prod.fst).Nodup) (h : ∀ x ∈ entries, Node.Distinct x.2) :
      Node.Distinct (.table implicit dotted entries)
  | tables {items : List (List (String × Node))}
      (hnames : ∀ item ∈ items, (item.map Prod.fst).Nodup)
      (h : ∀ item ∈ items, ∀ x ∈ item, Node.Distinct x.2) : Node.Distinct (.tables items)

namespace OpenTable

structure Distinct (t : OpenTable) : Prop where
  names : (t.entries.map Prod.fst).Nodup
  nodes : ∀ x ∈ t.entries, x.2.Distinct

variable {t s : OpenTable} {key : String}

theorem distinct_empty (implicit dotted : Bool) : Distinct ⟨implicit, dotted, []⟩ :=
  ⟨List.nodup_nil, nofun⟩

theorem Distinct.node (h : t.Distinct) : t.node.Distinct := .table _ _ h.names h.nodes

theorem Distinct.found (h : t.Distinct) {n : Node} (hfind : t.find? key = some n) : n.Distinct :=
  h.nodes _ (Table.mem_of_lookup hfind)

theorem Distinct.set (h : t.Distinct) (key : String) {n : Node} (hn : n.Distinct) :
    (t.set key n).Distinct := by
  unfold OpenTable.set
  split
  · have hnames : (t.entries.map fun x => (x.1, if x.1 = key then n else x.2)).map Prod.fst =
        t.entries.map Prod.fst := by
      rw [List.map_map]
      rfl
    refine ⟨hnames ▸ h.names, fun x hx => ?_⟩
    obtain ⟨y, hy, rfl⟩ := List.mem_map.mp hx
    dsimp only
    split
    · exact hn
    · exact h.nodes y hy
  · rename_i hfresh
    have hkey : key ∉ t.entries.map Prod.fst := by simpa using hfresh
    refine ⟨?_, fun x hx => ?_⟩
    · show ((t.entries ++ [(key, n)]).map Prod.fst).Nodup
      rw [List.map_append, List.map_singleton]
      exact h.names.append (List.nodup_singleton key) (List.disjoint_singleton.mpr hkey)
    · rcases List.mem_append.mp hx with hx | hx
      · exact h.nodes x hx
      · rw [List.mem_singleton.mp hx]
        exact hn

/-- What is done to a table inside another one does no harm to that one. -/
theorem Distinct.descend {dotted : Bool} {work : OpenTable → Option OpenTable}
    (hwork : ∀ t s, t.Distinct → work t = some s → s.Distinct) {path : List String}
    (ht : t.Distinct) (h : t.descend dotted work path = some s) : s.Distinct := by
  induction path generalizing t s with
  | nil => exact hwork t s ht h
  | cons key rest ih =>
    unfold OpenTable.descend at h
    split at h
    · obtain ⟨u, hu, rfl⟩ := Option.map_eq_some_iff.mp h
      exact ht.set key (ih (distinct_empty true dotted) hu).node
    · rename_i implicit made entries hfind
      split at h
      · cases h
      · obtain ⟨u, hu, rfl⟩ := Option.map_eq_some_iff.mp h
        cases ht.found hfind with
        | table _ _ hnames hnodes =>
          have hinner : Distinct ⟨implicit, made, entries⟩ := ⟨hnames, hnodes⟩
          exact ht.set key (ih hinner hu).node
    · rename_i items hfind
      obtain ⟨last, hlast, h⟩ := Option.bind_eq_some_iff.mp h
      obtain ⟨u, hu, h⟩ := Option.bind_eq_some_iff.mp h
      cases h
      cases ht.found hfind with
      | tables hnames hnodes =>
        have hmem := List.mem_of_getLast? hlast
        have hinner : Distinct ⟨false, false, last⟩ := ⟨hnames last hmem, hnodes last hmem⟩
        have hu := ih hinner hu
        refine ht.set key (.tables (fun item hitem => ?_) fun item hitem => ?_)
        · rcases List.mem_append.mp hitem with hitem | hitem
          · exact hnames item (List.mem_of_mem_dropLast hitem)
          · rw [List.mem_singleton.mp hitem]
            exact hu.names
        · rcases List.mem_append.mp hitem with hitem | hitem
          · exact hnodes item (List.mem_of_mem_dropLast hitem)
          · rw [List.mem_singleton.mp hitem]
            exact hu.nodes
    · cases h

theorem Distinct.assign (ht : t.Distinct) {first : List String} {v : Toml} (hv : v.Distinct)
    (h : t.assign first key v = some s) : s.Distinct := by
  refine ht.descend (fun t s ht h => ?_) h
  split at h
  · cases h
  · cases h
    exact ht.set key (.leaf hv)

theorem Distinct.define (ht : t.Distinct) (h : t.define key = some s) : s.Distinct := by
  unfold OpenTable.define at h
  split at h
  · cases h
    exact ht.set key (.table _ _ List.nodup_nil nofun)
  · rename_i hfind
    cases h
    cases ht.found hfind with
    | table _ _ hnames hnodes => exact ht.set key (.table _ _ hnames hnodes)
  · cases h

theorem Distinct.extend (ht : t.Distinct) (h : t.extend key = some s) : s.Distinct := by
  unfold OpenTable.extend at h
  split at h
  · cases h
    exact ht.set key (.tables (by simp) (by simp))
  · rename_i items hfind
    cases h
    cases ht.found hfind with
    | tables hnames hnodes =>
      refine ht.set key (.tables (fun item hitem => ?_) fun item hitem => ?_)
      · rcases List.mem_append.mp hitem with hitem | hitem
        · exact hnames item hitem
        · rw [List.mem_singleton.mp hitem]
          exact List.nodup_nil
      · rcases List.mem_append.mp hitem with hitem | hitem
        · exact hnodes item hitem
        · rw [List.mem_singleton.mp hitem]
          exact nofun
  · cases h

end OpenTable

/-! ## What was defined, as a value -/

theorem names_entriesToToml (entries : List (String × Node)) :
    (entriesToToml entries).map Prod.fst = entries.map Prod.fst := by
  induction entries with
  | nil => rfl
  | cons x entries ih =>
    rw [entriesToToml, List.map_cons, List.map_cons, ih]

theorem mem_entriesToToml {entries : List (String × Node)} {x : String × Toml}
    (h : x ∈ entriesToToml entries) : ∃ y ∈ entries, x = (y.1, y.2.toToml) := by
  induction entries with
  | nil => cases h
  | cons y entries ih =>
    rw [entriesToToml] at h
    rcases List.mem_cons.mp h with rfl | h
    · exact ⟨y, List.mem_cons_self, rfl⟩
    · obtain ⟨z, hz, rfl⟩ := ih h
      exact ⟨z, List.mem_cons_of_mem y hz, rfl⟩

theorem mem_itemsToToml {items : List (List (String × Node))} {v : Toml}
    (h : v ∈ itemsToToml items) : ∃ item ∈ items, v = .table (entriesToToml item) := by
  induction items with
  | nil => cases h
  | cons item items ih =>
    rw [itemsToToml] at h
    rcases List.mem_cons.mp h with rfl | h
    · exact ⟨item, List.mem_cons_self, rfl⟩
    · obtain ⟨other, hother, rfl⟩ := ih h
      exact ⟨other, List.mem_cons_of_mem item hother, rfl⟩

theorem Node.Distinct.toToml {n : Node} (h : n.Distinct) : n.toToml.Distinct := by
  have htable {entries : List (String × Node)} (hnames : (entries.map Prod.fst).Nodup)
      (ih : ∀ x ∈ entries, x.2.toToml.Distinct) : (Toml.table (entriesToToml entries)).Distinct := by
    refine .table ((names_entriesToToml entries).symm ▸ hnames) fun x hx => ?_
    obtain ⟨y, hy, rfl⟩ := mem_entriesToToml hx
    exact ih y hy
  induction h with
  | leaf h => rwa [Node.toToml]
  | table implicit dotted hnames _ ih =>
    rw [Node.toToml]
    exact htable hnames ih
  | tables hnames _ ih =>
    rw [Node.toToml]
    refine .array fun v hv => ?_
    obtain ⟨item, hitem, rfl⟩ := mem_itemsToToml hv
    exact htable (hnames item hitem) (ih item hitem)

/-- A property of the start that every step keeps is one of the result. -/
theorem foldlM_induct {α β : Type} {step : β → α → Option β} {P : β → Prop} {Q : α → Prop}
    (hstep : ∀ b a b', P b → Q a → step b a = some b' → P b') {items : List α} {b b' : β}
    (hitems : ∀ a ∈ items, Q a) (hb : P b) (h : items.foldlM step b = some b') : P b' := by
  induction items generalizing b with
  | nil =>
    cases h
    exact hb
  | cons a items ih =>
    rw [List.foldlM_cons] at h
    obtain ⟨c, hc, h⟩ := Option.bind_eq_some_iff.mp h
    exact ih (fun d hd => hitems d (List.mem_cons_of_mem a hd))
      (hstep b a c hb (hitems a List.mem_cons_self) hc) h

/-- The value that a statement assigns, if it assigns one, names nothing twice. -/
def Statement.Distinct : Statement → Prop
  | .assign _ v => v.Distinct
  | _ => True

theorem distinct_step {b b' : Builder} (hb : b.root.Distinct) {s : Statement} (hs : s.Distinct)
    (h : b.step s = some b') : b'.root.Distinct := by
  cases s with
  | header k =>
    obtain ⟨root, hroot, rfl⟩ := Option.map_eq_some_iff.mp h
    exact hb.descend (fun _ _ => OpenTable.Distinct.define) hroot
  | arrayHeader k =>
    obtain ⟨root, hroot, rfl⟩ := Option.map_eq_some_iff.mp h
    exact hb.descend (fun _ _ => OpenTable.Distinct.extend) hroot
  | assign k v =>
    obtain ⟨root, hroot, rfl⟩ := Option.map_eq_some_iff.mp h
    exact hb.descend (fun _ _ ht => ht.assign hs) hroot

theorem distinct_ofStatements? {statements : List Statement} (hs : ∀ s ∈ statements, s.Distinct)
    {v : Toml} (h : ofStatements? statements = some v) : v.Distinct := by
  obtain ⟨b, hb, rfl⟩ := Option.map_eq_some_iff.mp h
  have hroot : b.root.Distinct :=
    foldlM_induct (P := fun b => b.root.Distinct) (fun _ _ _ hb hs h => distinct_step hb hs h) hs
      (OpenTable.distinct_empty false false) hb
  exact hroot.node.toToml

theorem distinct_ofAssignments? {assignments : List (Key × Toml)}
    (hs : ∀ a ∈ assignments, a.2.Distinct) {v : Toml} (h : ofAssignments? assignments = some v) :
    v.Distinct := by
  obtain ⟨t, ht, rfl⟩ := Option.map_eq_some_iff.mp h
  have htable : t.Distinct :=
    foldlM_induct (fun _ _ _ ht ha hstep => ht.assign ha hstep) hs
      (OpenTable.distinct_empty true false) ht
  exact htable.node.toToml

/-! ## Reading -/

theorem distinct_ofToken? {cs : List Char} {v : Toml} (h : Scalar.ofToken? cs = some v) :
    v.Distinct := by
  unfold Scalar.ofToken? at h
  split at h
  · cases h
    exact .boolean true
  · split at h
    · cases h
      exact .boolean false
    · split at h
      · split at h
        · cases h
          exact .integer _
        · cases h
      · split at h
        · cases h
          exact .float _
        · obtain ⟨d, -, rfl⟩ := Option.map_eq_some_iff.mp h
          exact .dateTime d

theorem distinct_scalar? {cs rest : List Char} {v : Toml} (h : scalar? cs = some (v, rest)) :
    v.Distinct := by
  obtain ⟨w, hw, heq⟩ := Option.map_eq_some_iff.mp h
  cases heq
  exact distinct_ofToken? hw

/-- What the three readers of nested values give with so much fuel. -/
structure Reads (fuel : Nat) : Prop where
  value : ∀ {depth cs v rest}, value fuel depth cs = some (v, rest) → v.Distinct
  elements : ∀ {depth done cs items rest}, (∀ v ∈ done, v.Distinct) →
    elements fuel depth done cs = some (items, rest) → ∀ v ∈ items, v.Distinct
  assignments : ∀ {depth done cs entries rest}, (∀ a ∈ done, a.2.Distinct) →
    assignments fuel depth done cs = some (entries, rest) → ∀ a ∈ entries, a.2.Distinct

theorem Reads.value_succ {fuel : Nat} (ih : Reads fuel) {depth : Nat} {cs rest : List Char}
    {v : Toml} (h : Toml.value (fuel + 1) depth cs = some (v, rest)) : v.Distinct := by
  unfold Toml.value at h
  split at h
  · obtain ⟨⟨s, _⟩, -, heq⟩ := Option.map_eq_some_iff.mp h
    cases heq
    exact .string s
  · obtain ⟨⟨s, _⟩, -, heq⟩ := Option.map_eq_some_iff.mp h
    cases heq
    exact .string s
  · split at h
    · cases h
    · obtain ⟨⟨items, _⟩, hitems, heq⟩ := Option.map_eq_some_iff.mp h
      cases heq
      exact .array (ih.elements (List.forall_mem_nil _) hitems)
  · split at h
    · cases h
    · split at h
      · rename_i hentries
        obtain ⟨t, ht, heq⟩ := Option.map_eq_some_iff.mp h
        cases heq
        exact distinct_ofAssignments? (ih.assignments (List.forall_mem_nil _) hentries) ht
      · cases h
  · exact distinct_scalar? h

theorem Reads.elements_succ {fuel : Nat} (ih : Reads fuel) {depth : Nat} {done items : List Toml}
    {cs rest : List Char} (hdone : ∀ v ∈ done, v.Distinct)
    (h : Toml.elements (fuel + 1) depth done cs = some (items, rest)) : ∀ v ∈ items, v.Distinct := by
  unfold Toml.elements at h
  split at h
  · cases h
  · cases h
    simpa using hdone
  · split at h
    · cases h
    · rename_i hitem
      have hdone' := List.forall_mem_cons.mpr ⟨ih.value hitem, hdone⟩
      split at h
      · exact ih.elements hdone' h
      · cases h
        exact fun v hv => hdone' v (List.mem_reverse.mp hv)
      · cases h

theorem Reads.assignments_succ {fuel : Nat} (ih : Reads fuel) {depth : Nat}
    {done entries : List (Key × Toml)} {cs rest : List Char} (hdone : ∀ a ∈ done, a.2.Distinct)
    (h : Toml.assignments (fuel + 1) depth done cs = some (entries, rest)) :
    ∀ a ∈ entries, a.2.Distinct := by
  unfold Toml.assignments at h
  split at h
  · cases h
  · cases h
    simpa using hdone
  · split at h
    · split at h
      · cases h
      · rename_i key _ _ _ item _ hitem
        have hdone' : ∀ a ∈ (key, item) :: done, a.2.Distinct :=
          List.forall_mem_cons.mpr ⟨ih.value hitem, hdone⟩
        split at h
        · exact ih.assignments hdone' h
        · cases h
          exact fun a ha => hdone' a (List.mem_reverse.mp ha)
        · cases h
    · cases h

theorem reads (fuel : Nat) : Reads fuel := by
  induction fuel with
  | zero => exact ⟨nofun, nofun, nofun⟩
  | succ fuel ih => exact ⟨ih.value_succ, ih.elements_succ, ih.assignments_succ⟩

theorem distinct_statement? {cs rest : List Char} {s : Statement}
    (h : statement? cs = some (s, rest)) : s.Distinct := by
  unfold statement? at h
  split at h
  · split at h
    · cases h
      trivial
    · cases h
  · split at h
    · cases h
      trivial
    · cases h
  · split at h
    · obtain ⟨⟨v, _⟩, hv, heq⟩ := Option.map_eq_some_iff.mp h
      cases heq
      exact (reads _).value hv
    · cases h

theorem distinct_statements {fuel : Nat} {done all : List Statement} {cs : List Char}
    (hdone : ∀ s ∈ done, s.Distinct) (h : statements fuel done cs = some all) :
    ∀ s ∈ all, s.Distinct := by
  induction fuel generalizing done cs with
  | zero => cases h
  | succ fuel ih =>
    obtain ⟨cs, -, h⟩ := Option.bind_eq_some_iff.mp h
    split at h
    · cases h
      simpa using hdone
    · obtain ⟨⟨s, rest⟩, hs, h⟩ := Option.bind_eq_some_iff.mp h
      obtain ⟨rest, -, h⟩ := Option.bind_eq_some_iff.mp h
      have hdone' := List.forall_mem_cons.mpr ⟨distinct_statement? hs, hdone⟩
      split at h
      · cases h
        exact fun s hs => hdone' s (List.mem_reverse.mp hs)
      · obtain ⟨rest, -, h⟩ := Option.bind_eq_some_iff.mp h
        exact ih hdone' h

/-- No table of a document that was read has two entries of one name. -/
theorem distinct_ofText? {text : String} {v : Toml} (h : ofText? text = some v) : v.Distinct := by
  obtain ⟨all, hall, h⟩ := Option.bind_eq_some_iff.mp h
  exact distinct_ofStatements? (distinct_statements (List.forall_mem_nil _) hall) h

end DocSync.Toml
