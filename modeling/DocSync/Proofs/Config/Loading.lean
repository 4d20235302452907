import DocSync.Proofs.Config.Routing

/-!
# Loading

What a document has to do with the configuration that is loaded from it. The servers of the
configuration are the well-formed ones of the document, and a malformed one makes no difference
wherever it stands, as long as the document can be decoded: it cannot if it has a number for a server
that is no signed word, even where nothing reads that number.
-/
namespace DocSync.Config

variable {fields fields' : List (String × Toml)} {text : String} {config : Config}

/-- The servers of a document as they are written; none if there is no table of servers. -/
def serverEntries (fields : List (String × Toml)) : List (String × Toml) :=
  match fields.lookup "servers" with
  | some (.table entries) => entries
  | _ => []

/-- A document has a well-formed server of a name, which is defined so. -/
def Lists (fields : List (String × Toml)) (name : String) (d : ServerDefinition) : Prop :=
  ∃ value, (name, value) ∈ serverEntries fields ∧ ServerDefinition.WellFormed value.toJson d

/-- What is asked of the servers of a document at its top level. -/
def ServersDecode (fields : List (String × Toml)) : Prop :=
  ∀ value, fields.lookup "servers" = some value → (∃ d, value = .dateTime d) ∨
    ∃ entries, value = .table entries ∧ ∀ x ∈ entries, x.2.signedWords = true

/-- The well-formed servers of a document, in its order. -/
def wellFormedServers (fields : List (String × Toml)) : List (String × ServerDefinition) :=
  (serverEntries fields).filterMap fun x =>
    (ServerDefinition.ofJson? x.2.toJson).map fun d => (x.1, d)

theorem mem_wellFormedServers {name : String} {d : ServerDefinition} :
    (name, d) ∈ wellFormedServers fields ↔ Lists fields name d := by
  unfold wellFormedServers Lists
  rw [List.mem_filterMap]
  constructor
  · rintro ⟨⟨key, value⟩, hmem, hread⟩
    obtain ⟨d', hd, heq⟩ := Option.map_eq_some_iff.mp hread
    cases heq
    exact ⟨value, hmem, ServerDefinition.ofJson?_eq_some_iff.mp hd⟩
  · rintro ⟨value, hmem, hwell⟩
    refine ⟨(name, value), hmem, ?_⟩
    rw [ServerDefinition.ofJson?_eq_some_iff.mpr hwell, Option.map_some]

theorem nodup_serverEntries (h : (Toml.table fields).Distinct) :
    ((serverEntries fields).map Prod.fst).Nodup := by
  unfold serverEntries
  split
  · rename_i entries hentries
    cases h with
    | table _ hvalues =>
      cases hvalues _ (Table.mem_of_lookup hentries) with
      | table hnames _ => exact hnames
  · exact List.nodup_nil

theorem nodup_wellFormedServers (h : (Toml.table fields).Distinct) :
    ((wellFormedServers fields).map Prod.fst).Nodup := by
  have hentries := List.pairwise_map.mp (nodup_serverEntries h)
  apply List.pairwise_map.mpr
  apply List.pairwise_filterMap.mpr
  apply hentries.imp
  intro x y hne d hd d' hd'
  obtain ⟨_, -, rfl⟩ := Option.map_eq_some_iff.mp hd
  obtain ⟨_, -, rfl⟩ := Option.map_eq_some_iff.mp hd'
  exact hne

theorem serversOf?_eq_some_iff {servers : List (String × ServerDefinition)} :
    serversOf? (fields.lookup "servers") = some servers ↔
      ServersDecode fields ∧ servers = Sorted.ofList (wellFormedServers fields) := by
  unfold ServersDecode wellFormedServers serverEntries
  generalize fields.lookup "servers" = value
  constructor
  · intro h
    unfold serversOf? at h
    split at h
    · cases h
      exact ⟨nofun, rfl⟩
    · rename_i d
      cases h
      refine ⟨fun value hvalue => .inl ⟨d, ?_⟩, rfl⟩
      exact (Option.some.inj hvalue).symm
    · rename_i entries
      split_ifs at h with hsigned
      cases h
      refine ⟨fun value hvalue => .inr ⟨entries, ?_, List.all_eq_true.mp hsigned⟩, rfl⟩
      exact (Option.some.inj hvalue).symm
    · cases h
  · rintro ⟨hdecode, rfl⟩
    cases value with
    | none => rfl
    | some value =>
      obtain ⟨d, rfl⟩ | ⟨entries, rfl, hsigned⟩ := hdecode value rfl
      · rfl
      · exact if_pos (List.all_eq_true.mpr hsigned)

theorem ofToml?_eq_some_iff : ofToml? (.table fields) = some config ↔
    settingsOf? (fields.lookup "sync") = some config.settings ∧ ServersDecode fields ∧
      config.servers = Sorted.ofList (wellFormedServers fields) := by
  unfold ofToml?
  constructor
  · intro h
    obtain ⟨settings, hsettings, h⟩ := Option.bind_eq_some_iff.mp h
    obtain ⟨servers, hservers, h⟩ := Option.bind_eq_some_iff.mp h
    cases h
    exact ⟨hsettings, serversOf?_eq_some_iff.mp hservers⟩
  · rintro ⟨hsettings, hservers⟩
    simp only [hsettings, serversOf?_eq_some_iff.mpr hservers, Option.bind_eq_bind,
      Option.bind_some]

theorem ofText_eq_ok_iff : ofText text = .ok config ↔
    ∃ fields, Toml.ofText? text = some (.table fields) ∧ ofToml? (.table fields) = some config := by
  unfold ofText
  constructor
  · intro h
    split at h
    · rename_i hread
      cases h
      obtain ⟨document, hdocument, hconfig⟩ := Option.bind_eq_some_iff.mp hread
      cases document with
      | table fields => exact ⟨fields, hdocument, hconfig⟩
      | _ => cases hconfig
    · cases h
  · rintro ⟨fields, hdocument, hconfig⟩
    rw [hdocument, Option.bind_some, hconfig]

/-- The configuration of a document. -/
structure Loads (fields : List (String × Toml)) (config : Config) : Prop where
  decodes : ServersDecode fields
  once : (config.servers.map Prod.fst).Nodup
  servers : ∀ name d, (name, d) ∈ config.servers ↔ Lists fields name d

theorem loads (hdistinct : (Toml.table fields).Distinct)
    (h : ofToml? (.table fields) = some config) : Loads fields config := by
  obtain ⟨-, hdecode, hservers⟩ := ofToml?_eq_some_iff.mp h
  have hperm := Sorted.ofList_perm (nodup_wellFormedServers hdistinct)
  refine ⟨hdecode, ?_, fun name d => ?_⟩
  · rw [hservers]
    exact (Sorted.ascending_ofList _).imp ne_of_lt
  · rw [hservers, hperm.mem_iff, mem_wellFormedServers]

/-- Documents with the same settings and the same well-formed servers are the same configuration. -/
theorem ofToml?_unaffected (hdistinct : (Toml.table fields).Distinct)
    (hdistinct' : (Toml.table fields').Distinct) (h : ofToml? (.table fields) = some config)
    (hdecode : ServersDecode fields')
    (hsettings : settingsOf? (fields'.lookup "sync") = settingsOf? (fields.lookup "sync"))
    (hlists : ∀ name d, Lists fields' name d ↔ Lists fields name d) :
    ofToml? (.table fields') = some config := by
  obtain ⟨hread, -, hservers⟩ := ofToml?_eq_some_iff.mp h
  have hnodup := nodup_wellFormedServers hdistinct
  have hnodup' := nodup_wellFormedServers hdistinct'
  have hperm : (wellFormedServers fields).Perm (wellFormedServers fields') := by
    apply (List.perm_ext_iff_of_nodup (List.Nodup.of_map Prod.fst hnodup)
      (List.Nodup.of_map Prod.fst hnodup')).mpr
    rintro ⟨name, d⟩
    rw [mem_wellFormedServers, mem_wellFormedServers, hlists]
  refine ofToml?_eq_some_iff.mpr ⟨hsettings.trans hread, hdecode, ?_⟩
  rw [hservers, Sorted.ofList_congr hnodup hperm]

/-- How a configuration routes files. -/
structure Routes (c : Config) : Prop where
  found : ∀ uri name d, c.serverFor? uri = some (name, d) ↔
    ∃ extension, uri.HasExtension extension ∧ First c.servers extension (name, d)
  nothing : ∀ uri, c.serverFor? uri = none ↔ ∀ extension, uri.HasExtension extension →
    ∀ x ∈ c.servers, extension ∉ x.2.fileExtensions
  /-- Nothing tells the order in which the servers are kept. -/
  unordered : ∀ servers, servers.Perm c.servers →
    ∀ uri, serverFor? { c with servers } uri = c.serverFor? uri
  /-- Nor how often a server lists an extension. -/
  unrepeated : ∀ servers, SameExtensions c.servers servers →
    ∀ uri, (serverFor? { c with servers } uri).map Prod.fst = (c.serverFor? uri).map Prod.fst

theorem routes_of_nodup (h : (config.servers.map Prod.fst).Nodup) : Routes config := by
  refine ⟨?found, ?nothing, fun _ => serverFor?_perm h, fun _ hsame => hsame.name h⟩
  case found =>
    intro uri name d
    simp only [serverFor?_eq_some_iff h, Uri.extension?_eq_some_iff]
  case nothing =>
    intro uri
    simp only [serverFor?_eq_none_iff h, Uri.extension?_eq_some_iff]

/-- Any servers of different names route files by extension, and a document is loaded with exactly
its well-formed servers, whatever malformed ones are added to them, taken away or changed. -/
theorem routing :
    (∀ config : Config, (config.servers.map Prod.fst).Nodup → Routes config) ∧
    ∀ text config, ofText text = .ok config → ∃ fields, Toml.ofText? text = some (.table fields) ∧
      Loads fields config ∧ Routes config ∧
      ∀ text' fields', Toml.ofText? text' = some (.table fields') → ServersDecode fields' →
        settingsOf? (fields'.lookup "sync") = settingsOf? (fields.lookup "sync") →
        (∀ name d, Lists fields' name d ↔ Lists fields name d) → ofText text' = .ok config := by
  refine ⟨fun config => routes_of_nodup, ?_⟩
  intro text config h
  obtain ⟨fields, hdocument, hconfig⟩ := ofText_eq_ok_iff.mp h
  have hdistinct := Toml.distinct_ofText? hdocument
  have hloads := loads hdistinct hconfig
  refine ⟨fields, hdocument, hloads, routes_of_nodup hloads.once, ?_⟩
  intro text' fields' hdocument' hdecode hsettings hlists
  have hdistinct' := Toml.distinct_ofText? hdocument'
  exact ofText_eq_ok_iff.mpr ⟨fields', hdocument',
    ofToml?_unaffected hdistinct hdistinct' hconfig hdecode hsettings hlists⟩

/-- What a text says at the top level of its document. -/
def documentOf? (text : String) : Option (List (String × Toml)) :=
  match Toml.ofText? text with
  | some (.table fields) => some fields
  | _ => none

theorem documentOf?_eq_some_iff :
    documentOf? text = some fields ↔ Toml.ofText? text = some (.table fields) := by
  unfold documentOf?
  cases Toml.ofText? text with
  | none => simp
  | some document => cases document <;> simp

/-- Two servers for one extension, given against their order, and a malformed one between them. -/
def overlapping : String :=
  "[servers.b]\nlanguage_id = 'b'\nfile_extensions = ['rs']\n" ++
    "[servers.bad]\nlanguage_id = 1\n" ++
    "[servers.a]\nlanguage_id = 'a'\nfile_extensions = ['md', 'rs', 'rs']"

/-- The same two servers in their order. Another malformed one stands before them. -/
def rearranged : String :=
  "[servers]\nworse = 'none'\n" ++
    "[servers.a]\nlanguage_id = 'a'\nfile_extensions = ['md', 'rs', 'rs']\n" ++
    "[servers.b]\nlanguage_id = 'b'\nfile_extensions = ['rs']"

theorem routing_overlapping :
    let a : ServerDefinition := ⟨"a", ["md", "rs", "rs"], []⟩
    let b : ServerDefinition := ⟨"b", ["rs"], []⟩
    let config : Config := ⟨{}, [("a", a), ("b", b)]⟩
    ofText overlapping = .ok config ∧
      (∃ fields, Toml.ofText? overlapping = some (.table fields) ∧ ∀ d, ¬ Lists fields "bad" d) ∧
      config.serverFor? ⟨"file:///w/lib.rs"⟩ = some ("a", a) ∧
      config.serverFor? ⟨"file:///w/.rs"⟩ = none ∧
      serverFor? { config with servers := config.servers.reverse } ⟨"file:///w/lib.rs"⟩ =
        some ("a", a) ∧
      ofText rearranged = .ok config := by
  intro a b config
  have htext : ofText overlapping = .ok config := by decide +kernel
  have hserver : config.serverFor? ⟨"file:///w/lib.rs"⟩ = some ("a", a) := by decide +kernel
  obtain ⟨fields, hdocument, hloads, hroutes, hunaffected⟩ := routing.2 overlapping config htext
  refine ⟨htext, ⟨fields, hdocument, fun d hlists => ?_⟩, hserver, by decide +kernel, ?_, ?_⟩
  · have hmem := (hloads.servers "bad" d).mpr hlists
    simp [config] at hmem
  · rw [hroutes.unordered _ (List.reverse_perm _), hserver]
  · obtain ⟨known, hknown, hsettings, hservers⟩ : ∃ known ∈ documentOf? overlapping,
        settingsOf? (known.lookup "sync") = some {} ∧
          wellFormedServers known = [("b", b), ("a", a)] := by decide +kernel
    obtain rfl : known = fields := by
      rw [Option.mem_def, documentOf?_eq_some_iff, hdocument] at hknown
      exact (Toml.table.inj (Option.some.inj hknown)).symm
    obtain ⟨fields', hfields', hsettings', hservers', hdecode⟩ : ∃ fields' ∈ documentOf? rearranged,
        settingsOf? (fields'.lookup "sync") = some {} ∧
          wellFormedServers fields' = [("a", a), ("b", b)] ∧
          serversOf? (fields'.lookup "servers") = some [("a", a), ("b", b)] := by decide +kernel
    refine hunaffected rearranged fields' (documentOf?_eq_some_iff.mp hfields')
      (serversOf?_eq_some_iff.mp hdecode).1 (hsettings'.trans hsettings.symm) fun name d => ?_
    simp only [← mem_wellFormedServers, hservers, hservers', List.mem_cons, or_left_comm]

end DocSync.Config
