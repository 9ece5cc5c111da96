import DocSearch.CommandLine.Program
import DocSearch.Proofs.Json.Trees
import DocSearch.Proofs.Service.Asking

/-!
# What compiling shows and what filtering sends

The program shows the request that a filter is compiled to without a service and without a
cluster; the search of the filter goes through both, and tests its page and its index on the
way.  The two come to the same: with loaded settings the page of the standard size holds
results, so that only the filter can be at fault, and it is at fault in both.

Messages to a cluster are kept in the order in which they are handed over.  What comes back of
one may depend on all that were handed over before.

## Main definitions

* `Cluster.keeping` — a way of carrying messages that keeps them.
* `Cluster.HasHost` — the parts of an address with a host.
* `Handing`, `Command.handing` — a command carried out, with the messages it has handed over.

## Main results

* `Settings.check_of_load` — settings that are loaded keep their bounds.
* `Filter.ask_eq` — the search of a filter asks for the request that the filter is compiled to.
* `Command.compile_iff_filter` — **compiling shows what filtering hands over**, and fails as
  filtering fails before.
-/

namespace DocSearch

/-! ### Loaded settings -/

namespace SearchSettings

variable {s : SearchSettings}

theorem broken_eq_nil_of_check (h : s.check = .ok ()) : s.broken = [] := by
  unfold check at h
  split at h
  · next hbroken => exact List.isEmpty_iff.mp hbroken
  · cases h

theorem pageSize_pos_of_check (h : s.check = .ok ()) : 0 < s.defaultPageSize.toNat := by
  have hbroken := broken_eq_nil_of_check h
  by_contra hzero
  simp [broken, Nat.eq_zero_of_not_pos hzero] at hbroken

theorem defaultIndex_ne_empty_of_check (h : s.check = .ok ()) : s.defaultIndex ≠ "" := by
  have hbroken := broken_eq_nil_of_check h
  intro hempty
  simp [broken, hempty] at hbroken

end SearchSettings

namespace Settings

/-- Layers give the settings that they come to, where these keep their bounds. -/
theorem ofLayers_eq_ok_iff {layers : List (List (String × Setting))} {s : Settings} :
    ofLayers layers = .ok s ↔
      ofSetting? (layers.foldl Setting.overlay (.table [])) = some s ∧ s.search.check = .ok () := by
  rw [ofLayers]
  cases hvalue : ofSetting? (layers.foldl Setting.overlay (.table [])) with
  | none => simp
  | some t =>
    cases hcheck : t.search.check with
    | error e =>
      simp only [hcheck, reduceCtorEq, Option.some.injEq, false_iff, not_and]
      rintro rfl
      simp [hcheck]
    | ok u =>
      simp only [hcheck, Except.ok.injEq, Option.some.injEq]
      exact ⟨fun h => ⟨h, h ▸ hcheck⟩, And.left⟩

theorem check_of_ofLayers {layers : List (List (String × Setting))} {s : Settings}
    (h : ofLayers layers = .ok s) : s.search.check = .ok () :=
  (ofLayers_eq_ok_iff.1 h).2

/-- **Settings that are loaded keep their bounds**, from whichever layers they come. -/
theorem check_of_load {texts : Files Id} {vars : List (String × String)} {path : Option String}
    {s : Settings} (h : load texts vars path = .ok s) : s.search.check = .ok () := by
  rw [load] at h
  cases hpath : path.or (vars.lookup fileVariable) with
  | none =>
    rw [hpath] at h
    exact check_of_ofLayers h
  | some path =>
    simp only [hpath] at h
    -- The file is one more layer; the bounds are tested once all layers have been laid.
    cases hfile : settingsFile texts path with
    | error e =>
      rw [hfile] at h
      cases h
    | ok layer =>
      rw [hfile] at h
      exact check_of_ofLayers h

theorem load_of_toOption {texts : Files Id} {vars : List (String × String)}
    {path : Option String} {s : Settings}
    (h : Except.toOption (load (m := Id) texts vars path) = some s) :
    load texts vars path = .ok s := by
  cases hload : load texts vars path with
  | error e =>
    rw [hload] at h
    cases h
  | ok t =>
    rw [hload] at h
    exact congrArg Except.ok (Option.some.inj h)

/-- Another node leaves the other settings as they are. -/
theorem defaultPageSize_searchWith (s : Settings) (node : Option String) :
    (s.searchWith node).defaultPageSize = s.search.defaultPageSize := by
  cases node <;> rfl

theorem defaultIndex_searchWith (s : Settings) (node : Option String) :
    (s.searchWith node).defaultIndex = s.search.defaultIndex := by
  cases node <;> rfl

end Settings

/-! ### The two ways to a request -/

section

variable {s : SearchSettings} {c : Cluster.Client} {m : Type → Type} [Monad m]

/-- Settings with a backend give a service, when a page of the standard size holds results. -/
theorem serviceOf_of_backendOf {carry : Cluster.Carrier m} {b : Backend m}
    (hb : backendOf carry s = .ok b) (hsize : 0 < s.defaultPageSize.toNat) :
    serviceOf carry s = .ok (⟨[], ⟨s.defaultPageSize, 0, hsize⟩⟩, b) := by
  have hbuild : { ServiceSetup.standard with pageSize := s.defaultPageSize }.build =
      .ok ⟨[], ⟨s.defaultPageSize, 0, hsize⟩⟩ := ServiceSetup.build_eq_ok_iff.2 ⟨hsize, rfl⟩
  simp only [serviceOf, hb, hbuild]

theorem serviceOf_eq (carry : Cluster.Carrier m) (hbackend : s.backend = .elasticsearch)
    (hclient : Cluster.Client.of s = .ok c) (hsize : 0 < s.defaultPageSize.toNat) :
    serviceOf carry s = .ok (⟨[], ⟨s.defaultPageSize, 0, hsize⟩⟩, c.backend carry) := by
  have hb : backendOf carry s = .ok (c.backend carry) := by
    simp only [backendOf, hbackend, hclient]
  exact serviceOf_of_backendOf hb hsize

/-- The request of a search for the first page is the one that the filter is compiled to, where
neither the page nor the index is at fault. -/
theorem Service.request_eq_compiledRequest {page : Page} {index type : String} (f : Filter)
    (hsize : 0 < s.defaultPageSize.toNat) (hindex : isBlankName index = false) :
    request ⟨[], page⟩ type (.paged f s.defaultPageSize 0 index) = compiledRequest s index f := by
  have hpage := Page.of_eq_ok hsize 0
  have hcompile : compile ⟨[], page⟩ type f = f.compile none := rfl
  -- The page and the index are tested first and pass, so it is the filter that decides.
  simp only [request, requestOn, hpage, hindex, hcompile, compiledRequest, Page.first]
  cases f.compile none with
  | error e => rfl
  | ok q => rfl

/-- **The search of a filter asks for the request that the filter is compiled to.** -/
theorem Filter.ask_eq (carry : Cluster.Carrier m) (f : Filter) (index : Option String)
    (hbackend : s.backend = .elasticsearch) (hclient : Cluster.Client.of s = .ok c)
    (hsize : 0 < s.defaultPageSize.toNat)
    (hindex : isBlankName (index.getD s.defaultIndex) = false) :
    f.ask carry s none 0 index = Service.ask (c.backend carry) .untyped
      (compiledRequest s (index.getD s.defaultIndex) f) := by
  rw [Filter.ask, SearchSettings.ask, serviceOf_eq carry hbackend hclient hsize]
  simp only [Option.getD_none, Service.run, Service.request_eq_compiledRequest f hsize hindex]

theorem compiledRequest_index {index : String} {f : Filter} {r : Request}
    (h : compiledRequest s index f = .ok r) : r.index = index := by
  rw [compiledRequest] at h
  cases hq : f.compile none with
  | error e =>
    simp only [hq] at h
    cases h
  | ok q =>
    cases hpage : Page.first s.defaultPageSize with
    | error e =>
      simp only [hq, hpage] at h
      cases h
    | ok page =>
      simp only [hq, hpage] at h
      cases h
      rfl

end

/-! ### Messages that are handed over -/

namespace Cluster

/-- A way of carrying messages that keeps them.  What comes back of a message depends on it and
on all that were handed over before. -/
def keeping (answer : List Message → Exchange) : Carrier (StateM (List Message)) :=
  fun message => do
    modify (· ++ [message])
    return answer (← get)

end Cluster

/-- What a command comes to. -/
structure Handing where
  /-- The document that it shows, or its error. -/
  outcome : CommandOutcome Json
  /-- The messages that it has handed over, in order. -/
  messages : List Cluster.Message

namespace Cluster

/-- An address with a host: a scheme, slashes, and then something else in front of the next
slash, question mark or hash. -/
structure HasHost (address : String) (scheme slashes host rest : List Char) : Prop where
  /-- The parts of the address, controls and outer blanks aside. -/
  parts : cleanAddress address.toList = scheme ++ slashes ++ host ++ rest
  /-- The scheme, in letters of either case. -/
  scheme_eq : scheme.map lowerAscii = "http:".toList ∨ scheme.map lowerAscii = "https:".toList
  /-- Between the scheme and the host there are slashes only. -/
  slashes_all : ∀ c ∈ slashes, isSlash c = true
  /-- The host. -/
  host_ne_nil : host ≠ []
  /-- The host ends before anything that is not of a host. -/
  host_all : ∀ c ∈ host, isHostChar c = true

variable {address : String} {scheme slashes host rest : List Char}

/-- Behind a scheme and its slashes it is the host that counts. -/
theorem afterHost?_isSome_of_scheme {body : List Char}
    (hscheme : scheme.map lowerAscii = "http:".toList ∨ scheme.map lowerAscii = "https:".toList)
    (hbody : (body.dropWhile isSlash).takeWhile isHostChar ≠ []) :
    (afterHost? (scheme ++ body)).isSome = true := by
  have hhost : ((body.dropWhile isSlash).takeWhile isHostChar).isEmpty = false :=
    List.isEmpty_eq_false_iff.2 hbody
  rcases hscheme with h | h
  · have hlength : scheme.length = 5 := by rw [← List.length_map lowerAscii, h]; rfl
    have hprefix : "http:".toList.isPrefixOf ((scheme ++ body).map lowerAscii) = true := by
      rw [List.map_append, h, List.isPrefixOf_iff_prefix]
      exact List.prefix_append _ _
    simp only [afterHost?, hprefix, if_true, Option.bind_some, List.drop_left' hlength, hhost,
      Bool.false_eq_true, if_false, Option.isSome_some]
  · have hlength : scheme.length = 6 := by rw [← List.length_map lowerAscii, h]; rfl
    have hother : "http:".toList.isPrefixOf ((scheme ++ body).map lowerAscii) = false := by
      rw [List.map_append, h]
      rfl
    have hprefix : "https:".toList.isPrefixOf ((scheme ++ body).map lowerAscii) = true := by
      rw [List.map_append, h, List.isPrefixOf_iff_prefix]
      exact List.prefix_append _ _
    simp only [afterHost?, hother, hprefix, if_true, Option.bind_some, List.drop_left' hlength,
      hhost, Bool.false_eq_true, if_false, Option.isSome_some]

/-- A message has a target wherever its address has a host. -/
theorem Client.target_isSome {c : Client} {r : Request}
    (h : HasHost (c.searchUrl r.index) scheme slashes host rest) :
    (c.message r).target.isSome = true := by
  have hhead : ((slashes ++ (host ++ rest)).dropWhile isSlash).takeWhile isHostChar ≠ [] := by
    obtain ⟨first, others, rfl⟩ := List.exists_cons_of_ne_nil h.host_ne_nil
    have hfirst := h.host_all first List.mem_cons_self
    have hslash : isSlash first = false := by
      rw [isHostChar, Bool.not_eq_true', Bool.or_eq_false_iff, Bool.or_eq_false_iff] at hfirst
      exact hfirst.1.1
    rw [List.dropWhile_append_of_pos h.slashes_all, List.cons_append,
      List.dropWhile_cons_of_neg (by simp [hslash]), List.takeWhile_cons_of_pos hfirst]
    exact List.cons_ne_nil _ _
  have hafter : (afterHost? (cleanAddress (c.searchUrl r.index).toList)).isSome = true := by
    rw [h.parts, List.append_assoc, List.append_assoc]
    exact afterHost?_isSome_of_scheme h.scheme_eq hhead
  simpa [message, targetOf?] using hafter

end Cluster

/-- What is shown is what another command hands over for an index at an address. -/
structure Handing.Shows (compiled filtered : Handing) (index address : String) : Prop where
  /-- Nothing is handed over for showing it. -/
  quiet : compiled.messages = []
  /-- A body is shown exactly when one message is handed over, with that body. -/
  shown : ∀ body, compiled.outcome = .ok (.object [("body", body), ("index", .string index)]) ↔
    ∃ message, filtered.messages = [message] ∧ message.address = address ∧ message.body = body
  /-- What is handed over can be sent wherever its address has a host. -/
  sendable : ∀ message ∈ filtered.messages, ∀ scheme slashes host rest,
    Cluster.HasHost message.address scheme slashes host rest → message.target.isSome = true
  /-- An error comes up exactly when it does in the other one, without a message. -/
  failed : ∀ e, compiled.outcome = .error e ↔
    filtered.outcome = .error e ∧ filtered.messages = []

theorem Handing.shows_of_error (e : CommandError) (index address : String) :
    Shows ⟨.error e, []⟩ ⟨.error e, []⟩ index address where
  quiet := rfl
  shown _ := by simp
  sendable _ hmessage := absurd hmessage List.not_mem_nil
  failed _ := by simp

theorem Handing.shows_of_request (c : Cluster.Client) (r : Request) (o : CommandOutcome Json) :
    Shows ⟨.ok r.toJson, []⟩ ⟨o, [c.message r]⟩ r.index (c.searchUrl r.index) where
  quiet := rfl
  shown body := by simp [Request.toJson, Cluster.Client.message]
  sendable message hmessage scheme slashes host rest hhost := by
    obtain rfl := List.mem_singleton.1 hmessage
    exact Cluster.Client.target_isSome hhost
  failed _ := by simp

/-- A command carried out under settings, on files and a cluster that answers. -/
def Command.handing (texts : Files Id) (answer : List Cluster.Message → Cluster.Exchange)
    (s : SearchSettings) (command : Command) : Handing :=
  let done := (command.run (fun path => pure (texts path)) (Cluster.keeping answer) s).run []
  ⟨done.1, done.2⟩

section

variable {texts : Files Id} {answer : List Cluster.Message → Cluster.Exchange}
  {s : SearchSettings} {c : Cluster.Client} {source : FilterSource} {index : Option String}

theorem FilterSource.read_pure {σ : Type} (texts : Files Id) (source : FilterSource) :
    source.read (fun path => (pure (texts path) : StateM σ (Except InputFault String))) =
      pure (source.read texts) := by
  cases source <;> rfl

namespace Command

theorem handing_of_filterOf_error {e : CommandError}
    (h : filterOf (source.read texts) = .error e) (size : Option UInt32) (number : UInt32) :
    (compile source index).handing texts answer s = ⟨.error e, []⟩ ∧
      (filter source index size number).handing texts answer s = ⟨.error e, []⟩ := by
  constructor
  · rw [handing, run, FilterSource.read_pure, pure_bind, h]
    rfl
  · rw [handing, run, FilterSource.read_pure, pure_bind, h]
    rfl

theorem handing_compile {f : Filter} (answer : List Cluster.Message → Cluster.Exchange)
    (s : SearchSettings) (index : Option String) (h : filterOf (source.read texts) = .ok f) :
    (compile source index).handing texts answer s =
      ⟨(CommandOutcome.ofSearch (compiledRequest s (index.getD s.defaultIndex) f)).map (·.toJson),
        []⟩ := by
  rw [handing, run, FilterSource.read_pure, pure_bind, h]
  rfl

/-- Filtering hands over the message of the request that the filter is compiled to, if there is
one. -/
theorem handing_filter {f : Filter} (h : filterOf (source.read texts) = .ok f)
    (hbackend : s.backend = .elasticsearch) (hclient : Cluster.Client.of s = .ok c)
    (hsize : 0 < s.defaultPageSize.toNat)
    (hindex : isBlankName (index.getD s.defaultIndex) = false) :
    ∃ o, (filter source index none 0).handing texts answer s =
      match compiledRequest s (index.getD s.defaultIndex) f with
      | .error e => ⟨.error (.search e), []⟩
      | .ok r => ⟨o, [c.message r]⟩ := by
  rw [handing, run, FilterSource.read_pure, pure_bind, h]
  simp only [f.ask_eq _ index hbackend hclient hsize hindex]
  cases compiledRequest s (index.getD s.defaultIndex) f with
  | error e => exact ⟨.error (.search e), rfl⟩
  | ok r => exact ⟨_, rfl⟩

/-- Compiling and filtering fail together before anything is handed over, or compiling shows the
request whose message filtering hands over. -/
theorem compile_and_filter (texts : Files Id) (answer : List Cluster.Message → Cluster.Exchange)
    (source : FilterSource) (hbackend : s.backend = .elasticsearch)
    (hclient : Cluster.Client.of s = .ok c) (hsize : 0 < s.defaultPageSize.toNat)
    (hindex : isBlankName (index.getD s.defaultIndex) = false) :
    (∃ e, (compile source index).handing texts answer s = ⟨.error e, []⟩ ∧
        (filter source index none 0).handing texts answer s = ⟨.error e, []⟩) ∨
      ∃ r o, r.index = index.getD s.defaultIndex ∧
        (compile source index).handing texts answer s = ⟨.ok r.toJson, []⟩ ∧
        (filter source index none 0).handing texts answer s = ⟨o, [c.message r]⟩ := by
  -- Both commands begin with the same filter, or without one.
  cases hfilter : filterOf (source.read texts) with
  | error e => exact .inl ⟨e, handing_of_filterOf_error hfilter none 0⟩
  | ok f =>
    have hcompile := handing_compile answer s index hfilter
    obtain ⟨o, hsearch⟩ := handing_filter hfilter hbackend hclient hsize hindex
    cases hr : compiledRequest s (index.getD s.defaultIndex) f with
    | error e =>
      rw [hr] at hcompile hsearch
      exact .inl ⟨.search e, hcompile, hsearch⟩
    | ok r =>
      rw [hr] at hcompile hsearch
      exact .inr ⟨r, o, compiledRequest_index hr, hcompile, hsearch⟩

/-- **Compiling shows what filtering hands over.**  With settings that were loaded, for a cluster
and an index that has a name, compiling shows a body for the index exactly when filtering for
the first page of the standard size hands over one message, with that body and to the address
of the index, which can be sent if the address has a host; and it fails exactly when filtering
fails in the same way without a message. -/
theorem compile_iff_filter {vars : List (String × String)} {path : Option String}
    {settings : Settings} (hload : Settings.load texts vars path = .ok settings)
    (node : Option String) (hbackend : (settings.searchWith node).backend = .elasticsearch)
    (hclient : Cluster.Client.of (settings.searchWith node) = .ok c) (source : FilterSource)
    (index : Option String)
    (hindex : isBlankName (index.getD (settings.searchWith node).defaultIndex) = false)
    (answer : List Cluster.Message → Cluster.Exchange) :
    ((compile source index).handing texts answer (settings.searchWith node)).Shows
      ((filter source index none 0).handing texts answer (settings.searchWith node))
      (index.getD (settings.searchWith node).defaultIndex)
      (c.searchUrl (index.getD (settings.searchWith node).defaultIndex)) := by
  have hsize : 0 < (settings.searchWith node).defaultPageSize.toNat := by
    rw [settings.defaultPageSize_searchWith node]
    exact SearchSettings.pageSize_pos_of_check (Settings.check_of_load hload)
  obtain ⟨e, hcompile, hfilter⟩ | ⟨r, o, hr, hcompile, hfilter⟩ :=
    compile_and_filter texts answer source hbackend hclient hsize hindex
  · rw [hcompile, hfilter]
    exact Handing.shows_of_error e _ _
  · rw [hcompile, hfilter, ← hr]
    exact Handing.shows_of_request c r o

/-- A filter that is given as a text, for an index at a node that are named. -/
theorem compile_iff_filter_not_in_stock :
    let texts : Files Id := fun _ => .error .notFound
    let s : SearchSettings := { nodes := ["http://es:9200/"] }
    let text := "[\x7b\"kind\":\"andNot\",\"propertyName\":\"in stock\"," ++
      "\"propertyValue\":false\x7d]"
    let command := filter (.text text) (some "offers") none 0
    let filtered := command.handing texts (fun _ => .timedOut) s
    Settings.load texts [] none = .ok {} ∧ Settings.searchWith {} (some "http://es:9200/") = s ∧
      Cluster.Client.of s = .ok ⟨"http://es:9200", none, 30⟩ ∧ isBlankName "offers" = false ∧
      ∃ message, filtered.messages = [message] ∧
        message.address = "http://es:9200/offers/_search" ∧
        message.body = .object [("from", .ofNat 0),
          ("query", .object [("bool", .object [("must_not",
            .array [.object [("match", .object [("in stock", .bool false)])]])])]),
          ("size", .ofNat 10), ("track_total_hits", .bool true)] := by
  intro texts s text command filtered
  have hload : Settings.load texts [] none = .ok {} := Settings.load_of_toOption (by decide +kernel)
  have hclient : Cluster.Client.of s = .ok ⟨"http://es:9200", none, 30⟩ := rfl
  have hindex : isBlankName "offers" = false := by decide
  have hraw : Json.readRaw? text.toList = some (.array [.object [("kind", .string "andNot"),
      ("propertyName", .string "in stock"), ("propertyValue", .bool false)]]) := by
    let bytes (s : String) : List UInt8 := Json.bytesOf s.toList
    let clause : Json.Tree := .object [(bytes "kind", .string (bytes "andNot")),
      (bytes "propertyName", .string (bytes "in stock")), (bytes "propertyValue", .bool false)]
    have hspelled : Json.Spelled (bytes text) (Json.Tree.array [clause]).tokens :=
      Json.tokens?_eq_some_iff.1 (by decide +kernel)
    have htext (s : String) (h : '\\' ∉ s.toList) : Json.text? (bytes s) = some s :=
      Json.text?_eq_some_iff.2 (Json.spells_plain h)
    have htree : Json.tree? (Json.bytesOf text.toList) = some (.array [clause]) :=
      Json.tree?_eq_some_iff.2 hspelled
    simp only [Json.readRaw?, htree, Option.bind_some, clause, Json.Tree.json?, Json.itemsJson?,
      Json.membersJson?, htext "kind" (by decide), htext "andNot" (by decide),
      htext "propertyName" (by decide), htext "in stock" (by decide),
      htext "propertyValue" (by decide), Json.maxDepth]
    rfl
  have hfilter : filterOf ((FilterSource.text text).read texts) =
      .ok ⟨[.differs "in stock" (.bool false)]⟩ := by
    have hread : (FilterSource.text text).read texts = .ok (some text) := rfl
    simp only [hread, filterOf, Json.read?, hraw]
    rfl
  have hcompile := handing_compile (fun _ => .timedOut) s (some "offers") hfilter
  have hshows := compile_iff_filter hload (some "http://es:9200/") rfl hclient (.text text)
    (some "offers") hindex fun _ => .timedOut
  exact ⟨hload, rfl, hclient, hindex, (hshows.shown _).1 (congrArg Handing.outcome hcompile)⟩

/-- At a node that is no address compiling shows a body, though of what filtering hands over
nothing can be sent: the message has no host to go to. -/
theorem compile_shows_unsent :
    let texts : Files Id := fun _ => .error .notFound
    let vars := [("FILTER_SEARCH__SEARCH__NODES", "nope")]
    let s : SearchSettings := { nodes := ["nope"] }
    let compiled := (compile .absent none).handing texts (fun _ => .unreachable "no host") s
    let filtered := (filter .absent none none 0).handing texts (fun _ => .unreachable "no host") s
    Settings.load texts vars none = .ok { search := s } ∧ s.backend = .elasticsearch ∧
      (∃ c, Cluster.Client.of s = .ok c) ∧ isBlankName s.defaultIndex = false ∧
      (∃ body, compiled.outcome =
        .ok (.object [("body", body), ("index", .string s.defaultIndex)])) ∧
      filtered.messages.filter (·.target.isSome) = [] := by
  intro texts vars s compiled filtered
  have hload : Settings.load texts vars none = .ok { search := s } :=
    Settings.load_of_toOption (by decide +kernel)
  have hindex : isBlankName s.defaultIndex = false := by decide
  have hunsent : filtered.messages.filter (·.target.isSome) = [] :=
    List.filter_eq_nil_iff.2 (by decide +kernel)
  exact ⟨hload, rfl, ⟨_, rfl⟩, hindex, ⟨_, rfl⟩, hunsent⟩

end Command

end

end DocSearch
