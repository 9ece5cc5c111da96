import DocSearch.Proofs.Settings.Parts
import DocSearch.Settings.Load

/-!
# Single settings

The settings of the program are eleven single ones, in two parts.  Each is read on its own from
what its part comes to: from the entry of its name in a table, or from its place in a list.

## Main definitions

* `Leaf` — the single settings, with their part and their name.
* `Leaf.value`, `Leaf.read?` — the value of a setting; how it is read.
* `Leaf.found`, `Leaf.taken?` — what a part holds for a setting; what is read of it.

## Main results

* `Settings.ext_leaves` — there are no other settings.
* `Leaf.taken?_found` — **each setting is read on its own.**
-/

namespace DocSearch

/-- The single settings. -/
inductive Leaf
  /-- The backend. -/
  | backend
  /-- The addresses of the nodes. -/
  | nodes
  /-- The user. -/
  | username
  /-- The password. -/
  | password
  /-- Whether the user and the password are sent. -/
  | securityEnabled
  /-- The index of a search that names none. -/
  | defaultIndex
  /-- The number of results on a page of a search that names none. -/
  | defaultPageSize
  /-- The seconds after which a request is given up. -/
  | requestTimeoutSecs
  /-- The least level that is logged. -/
  | logLevel
  /-- Whether the log is written as documents. -/
  | jsonLogs
  /-- Whether searches are counted. -/
  | metricsEnabled
  deriving DecidableEq, Repr

namespace Leaf

/-- The part that a setting is in. -/
def part : Leaf → String
  | .logLevel | .jsonLogs | .metricsEnabled => "observability"
  | _ => "search"

/-- The names of a part, in order. -/
def partNames : Leaf → List String
  | .logLevel | .jsonLogs | .metricsEnabled => LogSettings.fieldNames
  | _ => SearchSettings.fieldNames

/-- The name of a setting in its part. -/
def name : Leaf → String
  | .backend => "backend"
  | .nodes => "nodes"
  | .username => "username"
  | .password => "password"
  | .securityEnabled => "security_enabled"
  | .defaultIndex => "default_index"
  | .defaultPageSize => "default_page_size"
  | .requestTimeoutSecs => "request_timeout_secs"
  | .logLevel => "log_level"
  | .jsonLogs => "json_logs"
  | .metricsEnabled => "metrics_enabled"

/-- The way to a setting. -/
def path (l : Leaf) : String := l.part ++ "." ++ l.name

/-- The values that a setting may have. -/
abbrev Value : Leaf → Type
  | .backend => BackendKind
  | .nodes => List String
  | .username | .password => Option String
  | .securityEnabled | .jsonLogs | .metricsEnabled => Bool
  | .defaultIndex | .logLevel => String
  | .defaultPageSize => UInt32
  | .requestTimeoutSecs => UInt64

/-- The value of a setting. -/
def value (s : Settings) : (l : Leaf) → l.Value
  | .backend => s.search.backend
  | .nodes => s.search.nodes
  | .username => s.search.username
  | .password => s.search.password
  | .securityEnabled => s.search.securityEnabled
  | .defaultIndex => s.search.defaultIndex
  | .defaultPageSize => s.search.defaultPageSize
  | .requestTimeoutSecs => s.search.requestTimeoutSecs
  | .logLevel => s.observability.logLevel
  | .jsonLogs => s.observability.jsonLogs
  | .metricsEnabled => s.observability.metricsEnabled

/-- The value that a setting is given by what stands for it. -/
def read? (v : Setting) : (l : Leaf) → Option l.Value
  | .backend => BackendKind.ofSetting? v
  | .nodes => v.toTexts?
  | .username | .password => v.toOptionalText?
  | .securityEnabled | .jsonLogs | .metricsEnabled => v.toBool?
  | .defaultIndex | .logLevel => v.toText?
  | .defaultPageSize => v.toNat32?.map UInt32.ofNat
  | .requestTimeoutSecs => v.toNat64?.map UInt64.ofNat

/-- What a part holds for a setting. -/
def found (l : Leaf) (v : Setting) : Option Setting := (v.fields? l.partNames).bind (· l.name)

/-- The value of a setting for which something is held, or nothing. -/
def taken? (l : Leaf) : Option Setting → Option l.Value
  | some v => read? v l
  | none => some (value {} l)

end Leaf

/-- **There are no other settings.** -/
theorem Settings.ext_leaves {s t : Settings} (h : ∀ l : Leaf, l.value s = l.value t) : s = t := by
  obtain ⟨⟨_, _, _, _, _, _, _, _⟩, ⟨_, _, _⟩⟩ := s
  obtain ⟨⟨_, _, _, _, _, _, _, _⟩, ⟨_, _, _⟩⟩ := t
  cases h .backend
  cases h .nodes
  cases h .username
  cases h .password
  cases h .securityEnabled
  cases h .defaultIndex
  cases h .defaultPageSize
  cases h .requestTimeoutSecs
  cases h .logLevel
  cases h .jsonLogs
  cases h .metricsEnabled
  rfl

/-! ### Reading -/

/-- A part that is not there is read as an empty table. -/
theorem Settings.parts_of_ofSetting? {es : Setting.Layer} {s : Settings}
    (h : ofSetting? (.table es) = some s) :
    SearchSettings.ofSetting? ((Setting.table es).part "search") = some s.search ∧
      LogSettings.ofSetting? ((Setting.table es).part "observability") =
        some s.observability := by
  simp only [ofSetting?, Setting.fields?, Option.bind_eq_bind, Option.bind_some,
    Option.bind_eq_some_iff, Option.pure_def, Option.some.injEq] at h
  obtain ⟨search, hsearch, observability, hobservability, rfl⟩ := h
  constructor
  · rw [fieldOr] at hsearch
    rw [Setting.part, Setting.under, Setting.entries]
    cases hlookup : es.lookup "search" with
    | none =>
      rw [hlookup] at hsearch
      cases hsearch
      rfl
    | some v =>
      rw [hlookup] at hsearch
      exact hsearch
  · rw [fieldOr] at hobservability
    rw [Setting.part, Setting.under, Setting.entries]
    cases hlookup : es.lookup "observability" with
    | none =>
      rw [hlookup] at hobservability
      cases hobservability
      rfl
    | some v =>
      rw [hlookup] at hobservability
      exact hobservability

namespace Leaf

theorem taken?_eq {l : Leaf} {v : Setting} {find : String → Option Setting} {x : l.Value}
    (hfind : v.fields? l.partNames = some find)
    (h : fieldOr find l.name (fun w => read? w l) (value {} l) = some x) :
    l.taken? (l.found v) = some x := by
  rw [found, hfind, Option.bind_some, ← h, fieldOr]
  cases find l.name <;> rfl

theorem taken?_of_search {v : Setting} {t : SearchSettings}
    (h : SearchSettings.ofSetting? v = some t) (o : LogSettings) {l : Leaf}
    (hl : l.part = "search") : l.taken? (l.found v) = some (l.value ⟨t, o⟩) := by
  simp only [SearchSettings.ofSetting?, Option.bind_eq_bind, Option.bind_eq_some_iff,
    Option.pure_def, Option.some.injEq] at h
  obtain ⟨find, hfind, b, hb, n, hn, u, hu, p, hp, e, he, i, hi, z, hz, r, hr, rfl⟩ := h
  cases l with
  | backend => exact taken?_eq hfind hb
  | nodes => exact taken?_eq hfind hn
  | username => exact taken?_eq hfind hu
  | password => exact taken?_eq hfind hp
  | securityEnabled => exact taken?_eq hfind he
  | defaultIndex => exact taken?_eq hfind hi
  | defaultPageSize => exact taken?_eq hfind hz
  | requestTimeoutSecs => exact taken?_eq hfind hr
  | _ => exact absurd hl (by decide)

theorem taken?_of_observability {v : Setting} {o : LogSettings}
    (h : LogSettings.ofSetting? v = some o) (t : SearchSettings) {l : Leaf}
    (hl : l.part = "observability") : l.taken? (l.found v) = some (l.value ⟨t, o⟩) := by
  simp only [LogSettings.ofSetting?, Option.bind_eq_bind, Option.bind_eq_some_iff,
    Option.pure_def, Option.some.injEq] at h
  obtain ⟨find, hfind, g, hg, j, hj, m, hm, rfl⟩ := h
  cases l with
  | logLevel => exact taken?_eq hfind hg
  | jsonLogs => exact taken?_eq hfind hj
  | metricsEnabled => exact taken?_eq hfind hm
  | _ => exact absurd hl (by decide)

theorem part_cases (l : Leaf) : l.part = "search" ∨ l.part = "observability" := by
  cases l <;> decide

/-- **Each setting is read on its own** from what its part holds for it. -/
theorem taken?_found {es : Setting.Layer} {s : Settings}
    (h : Settings.ofSetting? (.table es) = some s) (l : Leaf) :
    l.taken? (l.found ((Setting.table es).part l.part)) = some (l.value s) := by
  obtain ⟨hsearch, hobservability⟩ := Settings.parts_of_ofSetting? h
  rcases l.part_cases with hl | hl
  · rw [hl]
    exact taken?_of_search hsearch s.observability hl
  · rw [hl]
    exact taken?_of_observability hobservability s.search hl

end Leaf

end DocSearch
