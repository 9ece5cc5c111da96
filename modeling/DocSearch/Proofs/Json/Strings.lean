import DocSearch.Json.Reader
import Mathlib.Tactic.IntervalCases

/-!
# Strings of documents

What stands between the quotes of a string, and the text that it spells.  Between the quotes
there are no control characters, no quotes, and backslashes in escapes only.  Such a string
spells a text if its bytes do and each escape, or two of them together, stands for a character.

## Main definitions

* `Escape`, `HexCode` — one-letter escapes, and the numbers of four hexadecimal digits.
* `RawString` — what stands between quotes.
* `Unescaped` — the characters that a string with escapes stands for.
* `Spells` — the text of a string.

## Main results

* `stringBytes?_eq_some_iff` — **a string ends at its first quote outside of escapes.**
* `text?_eq_some_iff` — **the text of a string.**
-/

namespace DocSearch.Json

/-! ### Bytes of characters -/

theorem bytesOf_append (cs ds : List Char) : bytesOf (cs ++ ds) = bytesOf cs ++ bytesOf ds :=
  List.flatMap_append

theorem bytesOf_cons (c : Char) (cs : List Char) :
    bytesOf (c :: cs) = bytesOf [c] ++ bytesOf cs := bytesOf_append [c] cs

/-- A byte and its character. -/
theorem toNat_charOf (b : UInt8) : (charOf b).toNat = b.toNat := by
  have hb : b.toNat < 256 := b.toNat_lt
  rw [charOf, Char.ofNat, dif_pos (.inl (by omega))]
  rfl

/-- The ASCII characters. -/
abbrev IsAscii (c : Char) : Prop := c.toNat < 128

/-- The byte of an ASCII character. -/
def byteOf (c : Char) : UInt8 := UInt8.ofNat c.toNat

theorem byteOf_charOf (b : UInt8) : byteOf (charOf b) = b := by
  rw [byteOf, toNat_charOf, UInt8.ofNat_toNat]

theorem eq_byteOf {b : UInt8} {c : Char} (h : charOf b = c) : b = byteOf c := by
  rw [← h, byteOf_charOf]

theorem charOf_byteOf {c : Char} (hc : IsAscii c) : charOf (byteOf c) = c := by
  have hsize : UInt8.size = 256 := rfl
  rw [charOf, byteOf, UInt8.toNat_ofNat_of_lt' (by omega), Char.ofNat_toNat]

/-- ASCII characters are single bytes. -/
theorem bytesOf_ascii {cs : List Char} (hcs : ∀ c ∈ cs, IsAscii c) :
    bytesOf cs = cs.map byteOf := by
  induction cs with
  | nil => rfl
  | cons c cs ih =>
    have hc : bytesOf [c] = [byteOf c] := by
      rw [bytesOf, List.flatMap_singleton, String.utf8EncodeChar]
      exact if_pos (Nat.le_of_lt_succ (hcs c List.mem_cons_self))
    rw [bytesOf_cons, hc, ih fun d hd => hcs d (List.mem_cons_of_mem _ hd)]
    rfl

/-! ### Escapes -/

/-- A letter behind a backslash, and the character that the two stand for. -/
inductive Escape : Char → Char → Prop
  /-- A quote. -/
  | quote : Escape '"' '"'
  /-- A backslash. -/
  | backslash : Escape '\\' '\\'
  /-- A slash. -/
  | slash : Escape '/' '/'
  /-- A backspace. -/
  | backspace : Escape 'b' '\x08'
  /-- A form feed. -/
  | formFeed : Escape 'f' '\x0c'
  /-- A line feed. -/
  | lineFeed : Escape 'n' '\n'
  /-- A carriage return. -/
  | carriageReturn : Escape 'r' '\r'
  /-- A tabulator. -/
  | tab : Escape 't' '\t'

theorem escaped?_eq_some_iff {e c : Char} : escaped? e = some c ↔ Escape e c := by
  constructor
  · intro h
    unfold escaped? at h
    split at h <;> cases h <;> constructor
  · rintro ⟨⟩ <;> rfl

/-- The hexadecimal digits, with small letters. -/
def smallDigits : List Char :=
  ['0', '1', '2', '3', '4', '5', '6', '7', '8', '9', 'a', 'b', 'c', 'd', 'e', 'f']

/-- The hexadecimal digits, with capital letters. -/
def capitalDigits : List Char :=
  ['0', '1', '2', '3', '4', '5', '6', '7', '8', '9', 'A', 'B', 'C', 'D', 'E', 'F']

/-- A hexadecimal digit of either case, and its value. -/
inductive HexDigit (c : Char) (n : Nat) : Prop
  /-- With small letters. -/
  | small (h : smallDigits[n]? = some c)
  /-- With capital letters. -/
  | capital (h : capitalDigits[n]? = some c)

/-- The number of four hexadecimal digits. -/
inductive HexCode (a b c d : Char) : Nat → Prop
  /-- The digits, most significant first. -/
  | digits {i j k l : Nat} (ha : HexDigit a i) (hb : HexDigit b j) (hc : HexDigit c k)
      (hd : HexDigit d l) : HexCode a b c d (((i * 16 + j) * 16 + k) * 16 + l)

theorem hexValue?_eq_some_iff {c : Char} {n : Nat} : hexValue? c = some n ↔ HexDigit c n := by
  constructor
  · intro h
    have hvalue : (c.toNat = 48 + n ∧ n < 10) ∨ (c.toNat = 87 + n ∧ 10 ≤ n ∧ n < 16) ∨
        (c.toNat = 55 + n ∧ 10 ≤ n ∧ n < 16) := by
      have hzero : '0'.toNat = 48 ∧ '9'.toNat = 57 := ⟨rfl, rfl⟩
      have hsmall : 'a'.toNat = 97 ∧ 'f'.toNat = 102 := ⟨rfl, rfl⟩
      have hcapital : 'A'.toNat = 65 ∧ 'F'.toNat = 70 := ⟨rfl, rfl⟩
      simp only [hexValue?, hzero, hsmall, hcapital] at h
      split at h
      · cases h
        omega
      · split at h
        · cases h
          omega
        · split at h <;> cases h
          omega
    -- In each of the three ranges the digits are gone through one by one.
    rw [← Char.ofNat_toNat c]
    rcases hvalue with ⟨h, hn⟩ | ⟨h, hlow, hhigh⟩ | ⟨h, hlow, hhigh⟩
    · rw [h]
      interval_cases n <;> exact .small rfl
    · rw [h]
      interval_cases n <;> exact .small rfl
    · rw [h]
      interval_cases n <;> exact .capital rfl
  · have hsmall : ∀ i : Fin 16, hexValue? (smallDigits.get i) = some i.val := by decide
    have hcapital : ∀ i : Fin 16, hexValue? (capitalDigits.get i) = some i.val := by decide
    rintro (h | h)
    · obtain ⟨hn, rfl⟩ := List.getElem?_eq_some_iff.1 h
      exact hsmall ⟨n, hn⟩
    · obtain ⟨hn, rfl⟩ := List.getElem?_eq_some_iff.1 h
      exact hcapital ⟨n, hn⟩

/-- Hexadecimal digits are ASCII characters. -/
theorem HexDigit.isAscii {c : Char} {n : Nat} (h : HexDigit c n) : IsAscii c := by
  have hsmall : ∀ i : Fin 16, IsAscii (smallDigits.get i) := by decide
  have hcapital : ∀ i : Fin 16, IsAscii (capitalDigits.get i) := by decide
  rcases h with h | h
  · obtain ⟨hn, rfl⟩ := List.getElem?_eq_some_iff.1 h
    exact hsmall ⟨n, hn⟩
  · obtain ⟨hn, rfl⟩ := List.getElem?_eq_some_iff.1 h
    exact hcapital ⟨n, hn⟩

theorem Escape.isAscii {e c : Char} (h : Escape e c) : IsAscii e := by
  cases h <;> decide

theorem hexCode?_eq_some_iff {a b c d : Char} {n : Nat} :
    hexCode? a b c d = some n ↔ HexCode a b c d n := by
  simp only [hexCode?, Option.bind_eq_bind, Option.bind_eq_some_iff, hexValue?_eq_some_iff,
    Option.pure_def, Option.some.injEq]
  constructor
  · rintro ⟨i, ha, j, hb, k, hc, l, hd, rfl⟩
    exact .digits ha hb hc hd
  · rintro ⟨ha, hb, hc, hd⟩
    exact ⟨_, ha, _, hb, _, hc, _, hd, rfl⟩

/-! ### Between quotes -/

/-- What stands between the quotes of a string. -/
inductive RawString : List UInt8 → Prop
  /-- Nothing. -/
  | nil : RawString []
  /-- A byte that is no control character, no quote and no backslash. -/
  | plain {b : UInt8} {bs : List UInt8} (hcontrol : 32 ≤ b.toNat) (hquote : charOf b ≠ '"')
      (hslash : charOf b ≠ '\\') (h : RawString bs) : RawString (b :: bs)
  /-- A one-letter escape. -/
  | letter {e c : Char} {bs : List UInt8} (he : Escape e c) (h : RawString bs) :
      RawString (bytesOf ['\\', e] ++ bs)
  /-- An escape with the number of a character, or of half of one. -/
  | code {i j k l : Char} {n : Nat} {bs : List UInt8} (hn : HexCode i j k l n)
      (h : RawString bs) : RawString (bytesOf ['\\', 'u', i, j, k, l] ++ bs)

theorem bytesOf_quote : bytesOf ['"'] = [byteOf '"'] :=
  bytesOf_ascii (List.forall_mem_singleton.2 (by decide))

theorem bytesOf_letter {e c : Char} (he : Escape e c) :
    bytesOf ['\\', e] = [byteOf '\\', byteOf e] :=
  bytesOf_ascii (by simp [he.isAscii])

theorem bytesOf_code {i j k l : Char} {n : Nat} (h : HexCode i j k l n) :
    bytesOf ['\\', 'u', i, j, k, l] =
      [byteOf '\\', byteOf 'u', byteOf i, byteOf j, byteOf k, byteOf l] := by
  obtain ⟨hi, hj, hk, hl⟩ := h
  exact bytesOf_ascii (by simp [hi.isAscii, hj.isAscii, hk.isAscii, hl.isAscii])

theorem stringBytes?_append {raw : List UInt8} (h : RawString raw) (rest : List UInt8) :
    stringBytes? (raw ++ (bytesOf ['"'] ++ rest)) = some (raw, rest) := by
  have hquote : charOf (byteOf '"') = '"' := charOf_byteOf (by decide)
  have hslash : charOf (byteOf '\\') = '\\' := charOf_byteOf (by decide)
  induction h with
  | nil =>
    rw [bytesOf_quote]
    cases rest with
    | nil => exact if_pos hquote
    | cons e rest =>
      unfold stringBytes?
      exact if_pos hquote
  | @plain b bs hcontrol hb hb' h ih =>
    -- The closing quote is still to come, so this byte is not the last one.
    obtain ⟨e, es, htail⟩ : ∃ e es, bs ++ (bytesOf ['"'] ++ rest) = e :: es :=
      List.exists_cons_of_ne_nil (by simp [bytesOf_quote])
    rw [htail] at ih
    rw [List.cons_append, htail]
    unfold stringBytes?
    rw [if_neg hb, if_neg hb', if_neg (by omega), ih]
    rfl
  | @letter e c bs he h ih =>
    -- The escape with a number is tried first, and its letter is none of those with a character.
    have hu : charOf (byteOf e) ≠ 'u' := by
      rw [charOf_byteOf he.isAscii]
      rintro rfl
      cases he
    have hletter : (escaped? (charOf (byteOf e))).isSome = true := by
      rw [charOf_byteOf he.isAscii, escaped?_eq_some_iff.2 he]
      rfl
    rw [bytesOf_letter he, List.append_assoc]
    simp only [List.cons_append, List.nil_append]
    unfold stringBytes?
    rw [hslash, if_neg (by decide), if_pos rfl, if_neg hu, if_pos hletter, ih]
    rfl
  | @code i j k l n bs hn h ih =>
    have hu : charOf (byteOf 'u') = 'u' := charOf_byteOf (by decide)
    have hcode : (hexCode? (charOf (byteOf i)) (charOf (byteOf j)) (charOf (byteOf k))
        (charOf (byteOf l))).isSome = true := by
      obtain ⟨hi, hj, hk, hl⟩ := hn
      rw [charOf_byteOf hi.isAscii, charOf_byteOf hj.isAscii, charOf_byteOf hk.isAscii,
        charOf_byteOf hl.isAscii, hexCode?_eq_some_iff.2 (.digits hi hj hk hl)]
      rfl
    rw [bytesOf_code hn, List.append_assoc]
    simp only [List.cons_append, List.nil_append]
    unfold stringBytes?
    rw [hslash, if_neg (by decide), if_pos rfl, if_pos hu]
    simp only [hcode, if_true, ih, Option.map_some]

theorem rawString_of_stringBytes? {bs raw rest : List UInt8}
    (h : stringBytes? bs = some (raw, rest)) :
    RawString raw ∧ bs = raw ++ (bytesOf ['"'] ++ rest) := by
  -- Along the recursion of the reader; the cases that are not named give nothing.
  fun_induction stringBytes? bs generalizing raw rest with
  | case2 b hb | case4 b e bs hb =>
    cases h
    refine ⟨.nil, ?_⟩
    rw [bytesOf_quote, ← eq_byteOf hb]
    rfl
  | case5 b e _ hb he i j k l bs hcode ih =>
    obtain ⟨r, hr, heq⟩ := Option.map_eq_some_iff.1 h
    cases heq
    obtain ⟨hraw, rfl⟩ := ih hr
    obtain ⟨n, hn⟩ := Option.isSome_iff_exists.1 hcode
    rw [hexCode?_eq_some_iff] at hn
    have hbytes := bytesOf_code hn
    simp only [byteOf_charOf, ← eq_byteOf hb, ← eq_byteOf he] at hbytes
    have hall := RawString.code hn hraw
    rw [hbytes] at hall
    exact ⟨hall, rfl⟩
  | case8 b e bs _ hb he hletter ih =>
    obtain ⟨r, hr, heq⟩ := Option.map_eq_some_iff.1 h
    cases heq
    obtain ⟨hraw, rfl⟩ := ih hr
    obtain ⟨c, hc⟩ := Option.isSome_iff_exists.1 hletter
    rw [escaped?_eq_some_iff] at hc
    have hbytes := bytesOf_letter hc
    simp only [byteOf_charOf, ← eq_byteOf hb] at hbytes
    have hall := RawString.letter hc hraw
    rw [hbytes] at hall
    exact ⟨hall, rfl⟩
  | case11 b e bs hb hb' hcontrol ih =>
    obtain ⟨r, hr, heq⟩ := Option.map_eq_some_iff.1 h
    cases heq
    obtain ⟨hraw, hrest⟩ := ih hr
    rw [hrest]
    exact ⟨.plain (Nat.le_of_not_lt hcontrol) hb hb' hraw, rfl⟩
  | _ => cases h

/-- **A string ends at its first quote outside of escapes.** -/
theorem stringBytes?_eq_some_iff {bs raw rest : List UInt8} :
    stringBytes? bs = some (raw, rest) ↔ RawString raw ∧ bs = raw ++ (bytesOf ['"'] ++ rest) := by
  constructor
  · exact rawString_of_stringBytes?
  · rintro ⟨hraw, rfl⟩
    exact stringBytes?_append hraw rest

/-! ### Texts -/

/-- The characters that a string with escapes stands for. -/
inductive Unescaped : List Char → List Char → Prop
  /-- Nothing. -/
  | nil : Unescaped [] []
  /-- A character that stands for itself. -/
  | plain {c : Char} {cs ds : List Char} (hc : c ≠ '\\') (h : Unescaped cs ds) :
      Unescaped (c :: cs) (c :: ds)
  /-- A one-letter escape. -/
  | letter {e c : Char} {cs ds : List Char} (he : Escape e c) (h : Unescaped cs ds) :
      Unescaped ('\\' :: e :: cs) (c :: ds)
  /-- The number of a character. -/
  | code {i j k l : Char} {n : Nat} {cs ds : List Char} (hn : HexCode i j k l n)
      (hchar : n < 0xD800 ∨ 0xDFFF < n) (h : Unescaped cs ds) :
      Unescaped ('\\' :: 'u' :: i :: j :: k :: l :: cs) (Char.ofNat n :: ds)
  /-- The numbers of the two halves of a character beyond the first plane. -/
  | halves {i j k l i' j' k' l' : Char} {high low : Nat} {cs ds : List Char}
      (hhigh : HexCode i j k l (0xD800 + high)) (hhigh' : high < 0x400)
      (hlow : HexCode i' j' k' l' (0xDC00 + low)) (hlow' : low < 0x400) (h : Unescaped cs ds) :
      Unescaped ('\\' :: 'u' :: i :: j :: k :: l :: '\\' :: 'u' :: i' :: j' :: k' :: l' :: cs)
        (Char.ofNat (0x10000 + high * 0x400 + low) :: ds)

theorem unescape?_of_unescaped {cs ds : List Char} (h : Unescaped cs ds) :
    unescape? cs = some ds := by
  induction h with
  | nil => rfl
  | plain hc h ih =>
    rw [unescape?, if_neg hc, ih]
    · rfl
    · exact fun _ _ _ _ _ hslash _ => hc hslash
    · exact fun _ _ hslash _ => hc hslash
  | letter he h ih =>
    rw [unescape?, escaped?_eq_some_iff.2 he]
    · simp only [ih, Option.map_some]
    · rintro _ _ _ _ _ rfl _
      cases he
  | code hn hchar h ih =>
    rw [unescape?.eq_2, hexCode?_eq_some_iff.2 hn]
    simp only
    rw [if_neg (by omega), if_neg (by omega), ih]
    rfl
  | halves hhigh hhigh' hlow hlow' h ih =>
    rw [unescape?.eq_2, hexCode?_eq_some_iff.2 hhigh]
    simp only [hexCode?_eq_some_iff.2 hlow]
    rw [if_pos (by omega), if_pos (by omega), ih, Nat.add_sub_cancel_left, Nat.add_sub_cancel_left]
    rfl

theorem unescaped_of_unescape? {cs ds : List Char} (h : unescape? cs = some ds) :
    Unescaped cs ds := by
  fun_induction unescape? cs generalizing ds with
  | case1 =>
    cases h
    exact .nil
  | case4 i j k l n hn hhigh i' j' k' l' cs m hm hlow ih =>
    obtain ⟨es, hes, rfl⟩ := Option.map_eq_some_iff.1 h
    obtain ⟨high, rfl⟩ := Nat.exists_eq_add_of_le hhigh.1
    obtain ⟨low, rfl⟩ := Nat.exists_eq_add_of_le hlow.1
    rw [Nat.add_sub_cancel_left, Nat.add_sub_cancel_left]
    exact .halves (hexCode?_eq_some_iff.1 hn) (by omega) (hexCode?_eq_some_iff.1 hm) (by omega)
      (ih hes)
  | case8 i j k l cs n hn hhigh hlow ih =>
    obtain ⟨es, hes, rfl⟩ := Option.map_eq_some_iff.1 h
    exact .code (hexCode?_eq_some_iff.1 hn) (by omega) (ih hes)
  | case10 e cs _ c hc ih =>
    obtain ⟨es, hes, rfl⟩ := Option.map_eq_some_iff.1 h
    exact .letter (escaped?_eq_some_iff.1 hc) (ih hes)
  | case12 c cs _ _ hc ih =>
    obtain ⟨es, hes, rfl⟩ := Option.map_eq_some_iff.1 h
    exact .plain hc (ih hes)
  | _ => cases h

theorem unescape?_eq_some_iff {cs ds : List Char} : unescape? cs = some ds ↔ Unescaped cs ds :=
  ⟨unescaped_of_unescape?, unescape?_of_unescaped⟩

/-- The text of a string: its bytes are those of characters, and with their escapes these stand
for the characters of the text. -/
inductive Spells : List UInt8 → String → Prop
  /-- The bytes of characters. -/
  | mk {cs : List Char} {s : String} (h : Unescaped cs s.toList) : Spells (bytesOf cs) s

/-- Bytes are a text if they are those of its characters. -/
theorem fromUTF8?_eq_some_iff {bs : List UInt8} {s : String} :
    String.fromUTF8? bs.toByteArray = some s ↔ bs = bytesOf s.toList := by
  have hbytes : s.toByteArray = (bytesOf s.toList).toByteArray := String.utf8Encode_toList.symm
  rw [← List.toByteArray_inj, ← hbytes, String.fromUTF8?]
  constructor
  · intro h
    split at h
    · cases h
      rfl
    · cases h
  · intro h
    rw [h, dif_pos s.isValidUTF8]
    rfl

/-- **The text of a string.** -/
theorem text?_eq_some_iff {raw : List UInt8} {s : String} : text? raw = some s ↔ Spells raw s := by
  simp only [text?, Option.bind_eq_some_iff, Option.map_eq_some_iff, fromUTF8?_eq_some_iff,
    unescape?_eq_some_iff]
  constructor
  · rintro ⟨t, rfl, ds, hds, rfl⟩
    exact ⟨by rwa [String.toList_ofList]⟩
  · rintro ⟨h⟩
    rename_i cs
    exact ⟨String.ofList cs, by rw [String.toList_ofList], _, by rwa [String.toList_ofList],
      String.ofList_toList⟩

/-- A text without backslashes spells itself. -/
theorem spells_plain {s : String} (h : '\\' ∉ s.toList) : Spells (bytesOf s.toList) s := by
  refine ⟨?_⟩
  generalize s.toList = cs at h
  induction cs with
  | nil => exact .nil
  | cons c cs ih =>
    rw [List.mem_cons, not_or] at h
    exact .plain (Ne.symm h.1) (ih h.2)

/-- A string spells one text at most. -/
theorem Spells.unique {raw : List UInt8} {s t : String} (hs : Spells raw s) (ht : Spells raw t) :
    s = t := by
  rw [← text?_eq_some_iff] at hs ht
  exact Option.some.inj (hs.symm.trans ht)

end DocSearch.Json
