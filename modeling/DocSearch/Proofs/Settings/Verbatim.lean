import DocSearch.Proofs.Number.Numerals
import DocSearch.Proofs.Settings.Override

/-!
# Texts from variables

The text of a variable is taken for a truth value, an integer or a double where it can be, before
it is known what its setting asks for.  A setting that is a text is then given the text of that
value, which is the text of the variable only if this was written the way such values are: a
password of digits loses the zeros in front of it.

The same text in a file arrives as it is.

## Main definitions

* `IsTruthWord`, `RealText` — the texts that are taken for truth values, and for doubles.
* `Carried` — the text that arrives for the text of a variable.
* `Verbatim` — the texts that arrive as they are.
* `Leaf.text?` — the settings that are texts.

## Main results

* `doubleOf?_isSome_iff` — the texts that are taken for doubles.
* `toText?_guessSetting_eq_some_iff` — what a text is taken for, as a text.
* `carried_self_iff` — **the texts that arrive as they are.**
* `Settings.text_carried` — **what a variable for a text comes to.**
-/

namespace DocSearch

open Number Setting

/-! ### Texts that are taken for something else -/

/-- The text is a truth value, in letters of any case. -/
def IsTruthWord (value : String) : Prop := lowered value = "true" ∨ lowered value = "false"

/-- The words for doubles that are not finite. -/
def doubleWords : List (List Char) := ["inf".toList, "infinity".toList, "nan".toList]

/-- A letter of these words as a small one. -/
def smallLetter (c : Char) : Char :=
  if 'A'.toNat ≤ c.toNat ∧ c.toNat ≤ 'Z'.toNat then Char.ofNat (c.toNat + 32) else c

/-- The text is a double, behind a sign or without one. -/
inductive RealText (cs : List Char) : Prop
  /-- A decimal number. -/
  | decimal {ds ps : List Char} (h : (sign cs).2 = ds ++ ps) (hds : Coefficient ds)
    (hps : PowerText ps)
  /-- A word, in letters of any case. -/
  | word (h : (sign cs).2.map smallLetter ∈ doubleWords)

/-- **The texts that are taken for doubles.** -/
theorem doubleOf?_isSome_iff {cs : List Char} : (doubleOf? cs).isSome = true ↔ RealText cs := by
  have hdecimal : (decimalOf? cs).isSome = true ↔ _ := decimalOf?_isSome_iff
  cases h : decimalOf? cs with
  | some d =>
    rw [h] at hdecimal
    obtain ⟨ds, ps, hbody, hds, hps⟩ := hdecimal.1 rfl
    simp only [doubleOf?, h]
    exact iff_of_true rfl (.decimal hbody hds hps)
  | none =>
    rw [h] at hdecimal
    have hword : (doubleOf? cs).isSome = true ↔ (sign cs).2.map smallLetter ∈ doubleWords := by
      have hsmall : smallLetter = fun c =>
        if 'A'.toNat ≤ c.toNat ∧ c.toNat ≤ 'Z'.toNat then Char.ofNat (c.toNat + 32) else c := rfl
      simp only [doubleOf?, h, ← hsmall, doubleWords, List.mem_cons, List.not_mem_nil, or_false]
      generalize (sign cs).2.map smallLetter = word
      by_cases hinf : word = "inf".toList ∨ word = "infinity".toList
      · rw [if_pos hinf]
        exact iff_of_true rfl (hinf.imp_right .inl)
      · rw [if_neg hinf]
        by_cases hnan : word = "nan".toList
        · rw [if_pos hnan]
          exact iff_of_true rfl (.inr (.inr hnan))
        · rw [if_neg hnan]
          exact iff_of_false (by simp) fun hword => hword.elim (fun h => hinf (.inl h))
            fun hword => hword.elim (fun h => hinf (.inr h)) hnan
    rw [hword]
    refine ⟨.word, fun hreal => ?_⟩
    cases hreal with
    | decimal hbody hds hps => exact absurd (hdecimal.2 ⟨_, _, hbody, hds, hps⟩) (by simp)
    | word hword => exact hword

/-- Integers are doubles too. -/
theorem RealText.of_numeral {cs : List Char} {z : Int} (h : Numeral cs z) : RealText cs := by
  obtain ⟨d, hd, -⟩ := exists_decimal_of_integerOf? (integerOf?_eq_some_iff.2 h)
  obtain ⟨ds, ps, hbody, hds, hps⟩ := decimalOf?_isSome_iff.1 (Option.isSome_of_eq_some hd)
  exact .decimal hbody hds hps

/-! ### The text that arrives -/

/-- The second text arrives where the first one is that of a variable. -/
inductive Carried (value : String) : String → Prop
  /-- A truth value, in small letters. -/
  | truth (hword : IsTruthWord value) : Carried value (lowered value)
  /-- An integer of 64 bits, in its digits. -/
  | integer {z : Int} (hword : ¬ IsTruthWord value) (hz : Numeral value.toList z)
    (hwide : IsInt64 z) : Carried value (String.ofList (intText z))
  /-- A double, in full. -/
  | real {x : Double} (hword : ¬ IsTruthWord value)
    (hwide : ∀ z, Numeral value.toList z → ¬ IsInt64 z) (hx : doubleOf? value.toList = some x) :
    Carried value (String.ofList (x.text .plain))
  /-- Any other text, as it is. -/
  | text (hword : ¬ IsTruthWord value) (hreal : ¬ RealText value.toList) : Carried value value

/-- The text arrives as it is where it is that of a variable. -/
inductive Verbatim (value : String) : Prop
  /-- A truth value in small letters. -/
  | truth (h : value = "true" ∨ value = "false")
  /-- An integer of 64 bits in plain digits. -/
  | integer {z : Int} (hword : ¬ IsTruthWord value) (hz : Numeral value.toList z)
    (hwide : IsInt64 z) (hplain : PlainNumeral value.toList)
  /-- A double that is written in full, with as many digits as tell it from others. -/
  | real {x : Double} (hword : ¬ IsTruthWord value)
    (hwide : ∀ z, Numeral value.toList z → ¬ IsInt64 z) (hx : doubleOf? value.toList = some x)
    (hfull : x.text .plain = value.toList)
  /-- Any text that is neither a truth value nor a number. -/
  | text (hword : ¬ IsTruthWord value) (hreal : ¬ RealText value.toList)

theorem isTruthWord_of_eq {value : String} (h : value = "true" ∨ value = "false") :
    IsTruthWord value ∧ lowered value = value := by
  rcases h with rfl | rfl
  · exact ⟨.inl (by decide +kernel), by decide +kernel⟩
  · exact ⟨.inr (by decide +kernel), by decide +kernel⟩

/-- **The texts that arrive as they are.** -/
theorem carried_self_iff {value : String} : Carried value value ↔ Verbatim value := by
  constructor
  · have hself : ∀ text, Carried value text → text = value → Verbatim value := by
      intro text h htext
      cases h with
      | truth hword =>
        rw [IsTruthWord, htext] at hword
        exact .truth hword
      | integer hword hz hwide =>
        rw [← String.toList_inj, String.toList_ofList] at htext
        exact .integer hword hz hwide ((intText_eq_self_iff hz).1 htext)
      | real hword hwide hx =>
        rw [← String.toList_inj, String.toList_ofList] at htext
        exact .real hword hwide hx htext
      | text hword hreal => exact .text hword hreal
    exact fun h => hself value h rfl
  · intro h
    cases h with
    | truth h =>
      obtain ⟨hword, hsmall⟩ := isTruthWord_of_eq h
      have hcarried := Carried.truth hword
      rwa [hsmall] at hcarried
    | integer hword hz hwide hplain =>
      have hcarried := Carried.integer hword hz hwide
      rwa [(intText_eq_self_iff hz).2 hplain, String.ofList_toList] at hcarried
    | real hword hwide hx hfull =>
      have hcarried := Carried.real hword hwide hx
      rwa [hfull, String.ofList_toList] at hcarried
    | text hword hreal => exact .text hword hreal

/-! ### What a variable is taken for -/

section Guess

variable {name value : String}

theorem filter_integerOf?_eq_none (hwide : ∀ z, Numeral value.toList z → ¬ IsInt64 z) :
    ((integerOf? value.toList).filter fun z => decide (IsInt64 z)) = none := by
  rw [Option.filter_eq_none_iff]
  intro z hz hdecide
  exact hwide z (integerOf?_eq_some_iff.1 hz) (of_decide_eq_true hdecide)

theorem toText?_guessSetting_of_carried (hname : name ≠ listSetting) {text : String}
    (h : Carried value text) : (guessSetting name value).toText? = some text := by
  cases h with
  | truth hword =>
    rw [guessSetting]
    rcases hword with hword | hword
    · rw [if_pos hword, hword]
      rfl
    · rw [if_neg (by rw [hword]; decide), if_pos hword, hword]
      rfl
  | integer hword hz hwide =>
    obtain ⟨htrue, hfalse⟩ := not_or.1 hword
    simp only [guessSetting, if_neg htrue, if_neg hfalse, integerOf?_eq_some_iff.2 hz,
      Option.filter_some, decide_eq_true hwide, if_true]
    rfl
  | real hword hwide hx =>
    obtain ⟨htrue, hfalse⟩ := not_or.1 hword
    simp only [guessSetting, if_neg htrue, if_neg hfalse, filter_integerOf?_eq_none hwide, hx]
    rfl
  | text hword hreal =>
    obtain ⟨htrue, hfalse⟩ := not_or.1 hword
    have hdouble : doubleOf? value.toList = none := by
      rw [← Option.not_isSome_iff_eq_none, doubleOf?_isSome_iff]
      exact hreal
    have hwide : ∀ z, Numeral value.toList z → ¬ IsInt64 z :=
      fun z hz => absurd (.of_numeral hz) hreal
    simp only [guessSetting, if_neg htrue, if_neg hfalse, filter_integerOf?_eq_none hwide, hdouble,
      if_neg hname]
    rfl

/-- Some text arrives for every text. -/
theorem exists_carried (value : String) : ∃ text, Carried value text := by
  by_cases hword : IsTruthWord value
  · exact ⟨_, .truth hword⟩
  by_cases hwide : ∃ z, Numeral value.toList z ∧ IsInt64 z
  · obtain ⟨z, hz, hwide⟩ := hwide
    exact ⟨_, .integer hword hz hwide⟩
  by_cases hreal : RealText value.toList
  · obtain ⟨x, hx⟩ := Option.isSome_iff_exists.1 (doubleOf?_isSome_iff.2 hreal)
    exact ⟨_, .real hword (fun z hz h => hwide ⟨z, hz, h⟩) hx⟩
  · exact ⟨value, .text hword hreal⟩

/-- **What a text is taken for is one value with one text.** -/
theorem toText?_guessSetting_eq_some_iff (hname : name ≠ listSetting) {text : String} :
    (guessSetting name value).toText? = some text ↔ Carried value text := by
  refine ⟨fun h => ?_, toText?_guessSetting_of_carried hname⟩
  obtain ⟨text', htext'⟩ := exists_carried value
  rw [toText?_guessSetting_of_carried hname htext'] at h
  rw [← Option.some.inj h]
  exact htext'

theorem guessSetting_ne_nil (name value : String) : guessSetting name value ≠ .nil := by
  intro h
  simp only [guessSetting] at h
  repeat' split at h
  all_goals cases h

end Guess

/-! ### Settings that are texts -/

namespace Leaf

/-- The settings that are texts. -/
def IsText (l : Leaf) : Prop := l ∈ [username, password, defaultIndex, logLevel]

/-- The text that a setting is, if it is one. -/
def text? (s : Settings) : Leaf → Option String
  | .username => s.search.username
  | .password => s.search.password
  | .defaultIndex => some s.search.defaultIndex
  | .logLevel => some s.observability.logLevel
  | _ => none

variable {l : Leaf}

theorem IsText.path_ne (h : l.IsText) : l.path ≠ listSetting := by
  cases l <;> first | decide +kernel | exact absurd h (by simp [IsText])

theorem toOptionalText?_eq_some_iff {v : Setting} (hv : v ≠ .nil) {o : Option String} :
    v.toOptionalText? = some o ↔ ∃ text, v.toText? = some text ∧ o = some text := by
  cases v with
  | nil => exact absurd rfl hv
  | _ => simp [toOptionalText?, eq_comm]

/-- A setting that is a text is read as the text of what is given for it. -/
theorem IsText.text?_eq (h : l.IsText) {v : Setting} (hv : v ≠ .nil) {s : Settings}
    (hread : l.read? v = some (l.value s)) : l.text? s = v.toText? := by
  cases l with
  | username | password =>
    obtain ⟨text, htext, hvalue⟩ := (toOptionalText?_eq_some_iff hv).1 hread
    rw [htext]
    exact hvalue
  | defaultIndex | logLevel => exact hread.symm
  | _ => exact absurd h (by simp [IsText])

end Leaf

/-- The user and the password that are sent are those of the settings. -/
theorem SearchSettings.of_credentials_eq_ok {s : SearchSettings} {user password : String}
    (h : s.credentials = .ok (some (user, password))) :
    s.username = some user ∧ s.password = some password := by
  obtain ⟨backend, nodes, username, secret, secure, index, size, timeout⟩ := s
  unfold credentials at h
  split at h
  · cases h
  · split at h
    · split at h
      · cases h
      · cases h
        exact ⟨‹_›, ‹_›⟩
    · cases h

namespace Settings

/-- If no variable behind it touches the setting, a variable is what the setting is read from. -/
theorem read?_of_variable {l : Leaf} {texts : Files Id} {before after : List (String × String)}
    {name value : String} {path : Option String} {s : Settings}
    (hname : settingNameOf? name = some l.path)
    (hafter : ∀ x ∈ after, ∀ other, settingNameOf? x.1 = some other → Spares l.part l.name other)
    (h : load (m := Id) texts (before ++ (name, value) :: after) path = .ok s) :
    l.read? (guessSetting l.path value) = some (l.value s) := by
  obtain ⟨file, -, hs⟩ := load_eq_ok_iff.1 h
  rw [environmentLayer_append_cons hname] at hs
  refine Leaf.read?_of_spares [defaultLayer, file] l.ofName_path
    (guessSetting_ne_table l.path value) (fun e he => ?_) hs
  obtain ⟨x, hx, hxe⟩ := List.mem_filterMap.1 he
  obtain ⟨other, hother, rfl⟩ := Option.map_eq_some_iff.1 hxe
  exact hafter x hx other hother

/-- **What a variable for a text comes to.**  The last variable for a setting that is a text gives
it the text that it carries, whatever the file and the other variables hold; this is the text of
the variable if and only if that is a truth value in small letters, an integer of 64 bits in plain
digits, a double in full, or nothing of all this in any writing.  The user and the password that
are sent with requests are no others. -/
theorem text_carried {l : Leaf} (hl : l.IsText) {texts : Files Id}
    {before after : List (String × String)} {name value : String} {path : Option String}
    {s : Settings} (hname : settingNameOf? name = some l.path)
    (hafter : ∀ x ∈ after, ∀ other, settingNameOf? x.1 = some other → Spares l.part l.name other)
    (h : load (m := Id) texts (before ++ (name, value) :: after) path = .ok s) :
    (∀ text, l.text? s = some text ↔ Carried value text) ∧
      (l.text? s = some value ↔ Verbatim value) ∧
      ∀ user password, s.search.credentials = .ok (some (user, password)) →
        (l = .username → Carried value user ∧ (user = value ↔ Verbatim value)) ∧
        (l = .password → Carried value password ∧ (password = value ↔ Verbatim value)) := by
  have htext : ∀ text, l.text? s = some text ↔ Carried value text := fun text => by
    rw [hl.text?_eq (guessSetting_ne_nil l.path value) (read?_of_variable hname hafter h)]
    exact toText?_guessSetting_eq_some_iff hl.path_ne
  have hself : l.text? s = some value ↔ Verbatim value := by rw [htext, carried_self_iff]
  have hone : ∀ text, l.text? s = some text →
      Carried value text ∧ (text = value ↔ Verbatim value) := fun text h => by
    refine ⟨(htext text).1 h, ?_⟩
    rw [← hself, h, Option.some.injEq]
  refine ⟨htext, hself, fun user password hsent => ?_⟩
  obtain ⟨huser, hpassword⟩ := SearchSettings.of_credentials_eq_ok hsent
  constructor
  · rintro rfl
    exact hone user huser
  · rintro rfl
    exact hone password hpassword

/-- A password that is a number is sent without its sign. -/
theorem text_carried_plus :
    let texts : Files Id := fun path => if path = "c.toml" then
      .ok "search.security_enabled = true\n" else .error .notFound
    let name := "FILTER_SEARCH__SEARCH__PASSWORD"
    let after := [("FILTER_SEARCH__SEARCH__USERNAME", "elastic")]
    Leaf.password.IsText ∧ settingNameOf? name = some Leaf.password.path ∧
      (∀ x ∈ after, ∀ other, settingNameOf? x.1 = some other →
        Spares Leaf.password.part Leaf.password.name other) ∧
      ∃ s, load (m := Id) texts ([] ++ (name, "+42") :: after) (some "c.toml") = .ok s ∧
        s.search.credentials = .ok (some ("elastic", "42")) ∧ Carried "+42" "42" ∧
        ¬ Verbatim "+42" := by
  intro texts name after
  have hl : Leaf.password.IsText := by simp [Leaf.IsText]
  have hname : settingNameOf? name = some Leaf.password.path := by decide +kernel
  have huser : settingNameOf? "FILTER_SEARCH__SEARCH__USERNAME" = some Leaf.username.path := by
    decide +kernel
  have hafter : ∀ x ∈ after, ∀ other, settingNameOf? x.1 = some other →
      Spares Leaf.password.part Leaf.password.name other := by
    intro x hx other hother
    obtain rfl := List.mem_singleton.1 hx
    obtain rfl := Option.some.inj (huser.symm.trans hother)
    intro _
    rw [Leaf.ofName_path]
    exact ⟨_, [], rfl, by decide +kernel⟩
  have hs : load (m := Id) texts ([] ++ (name, "+42") :: after) (some "c.toml") =
      .ok { search := SearchSettings.withCredentials {} "elastic" "42" } :=
    load_of_toOption (by decide +kernel)
  obtain ⟨-, -, hsent⟩ := text_carried hl hname hafter hs
  obtain ⟨hcarried, hself⟩ := (hsent "elastic" "42" rfl).2 rfl
  exact ⟨hl, hname, hafter, _, hs, rfl, hcarried, fun h => absurd (hself.2 h) (by decide)⟩

/-- A password of digits loses the zeros in front of it on its way from a variable, and keeps them
on its way from a file. -/
theorem password_without_zeros :
    let texts : Files Id := fun path => if path = "c.toml" then
      .ok "search.password = \"007\"\n" else .error .notFound
    let vars := [("FILTER_SEARCH__SEARCH__PASSWORD", "007")]
    ∃ s t, load (m := Id) texts vars none = .ok s ∧ s.search.password = some "7" ∧
      load (m := Id) texts [] (some "c.toml") = .ok t ∧ t.search.password = some "007" := by
  intro texts vars
  exact ⟨{ search := { password := some "7" } }, { search := { password := some "007" } },
    load_of_toOption (by decide +kernel), rfl, load_of_toOption (by decide +kernel), rfl⟩

end Settings

end DocSearch
