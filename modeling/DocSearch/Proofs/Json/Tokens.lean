import DocSearch.Proofs.Json.Numeral
import DocSearch.Proofs.Json.Strings

/-!
# The tokens of a text

A text is cut into tokens with blanks around them.  A numeral is not followed by anything that
could be a part of it; other than that tokens may stand close together.  Nothing is passed over
but blanks, so a text has the tokens that it spells or none.

## Main definitions

* `Lexeme`, `Token.EndsBefore` — the spelling of a token, and where a token ends.
* `Spelled` — tokens with blanks around them.

## Main results

* `token?_eq_some_iff` — **the first token of a text is the one that spells its beginning.**
* `tokens?_eq_some_iff` — **the tokens of a text are those that spell it.**
-/

namespace DocSearch.Json

open DocSearch.Number

/-! ### Tokens -/

/-- The spelling of a token. -/
inductive Lexeme : Token → List UInt8 → Prop
  /-- An opening square bracket. -/
  | openArray : Lexeme .openArray (bytesOf ['['])
  /-- A closing square bracket. -/
  | closeArray : Lexeme .closeArray (bytesOf [']'])
  /-- An opening brace. -/
  | openObject : Lexeme .openObject (bytesOf ['\x7b'])
  /-- A closing brace. -/
  | closeObject : Lexeme .closeObject (bytesOf ['\x7d'])
  /-- A colon. -/
  | colon : Lexeme .colon (bytesOf [':'])
  /-- A comma. -/
  | comma : Lexeme .comma (bytesOf [','])
  /-- The word for the absent value. -/
  | null : Lexeme .null (bytesOf ['n', 'u', 'l', 'l'])
  /-- The word for what is true. -/
  | trueWord : Lexeme (.bool true) (bytesOf ['t', 'r', 'u', 'e'])
  /-- The word for what is false. -/
  | falseWord : Lexeme (.bool false) (bytesOf ['f', 'a', 'l', 's', 'e'])
  /-- A numeral. -/
  | numeral {cs : List Char} (h : NumeralText cs) : Lexeme (.numeral cs) (bytesOf cs)
  /-- A string in its quotes. -/
  | string {raw : List UInt8} (h : RawString raw) :
      Lexeme (.string raw) (bytesOf ['"'] ++ (raw ++ bytesOf ['"']))

/-- A token ends where the rest begins: a numeral does not go on there. -/
def Token.EndsBefore : Token → List UInt8 → Prop
  | .numeral _, rest => ∀ b ∈ rest.head?, isNumeralByte b = false
  | _, _ => True

theorem isNumeralChar_of_isDigit {c : Char} (h : isDigit c = true) : isNumeralChar c = true := by
  simp [isNumeralChar, h]

theorem isAscii_of_isNumeralChar {c : Char} (h : isNumeralChar c = true) : IsAscii c := by
  simp only [isNumeralChar, Bool.or_eq_true, beq_iff_eq] at h
  rcases h with (((((h | rfl) | rfl) | rfl) | rfl) | rfl)
  · simp only [isDigit, Bool.and_eq_true, decide_eq_true_eq] at h
    exact Nat.lt_of_le_of_lt h.2 (by decide)
  all_goals decide

theorem isNumeralChar_of_numeral {cs : List Char} {z : Int} (h : Numeral cs z) :
    ∀ c ∈ cs, isNumeralChar c = true := by
  cases h with
  | plain _ hds => exact fun c hc => isNumeralChar_of_isDigit (hds c hc)
  | plus _ hds | minus _ hds =>
    exact List.forall_mem_cons.2 ⟨by decide, fun c hc => isNumeralChar_of_isDigit (hds c hc)⟩

/-- Numerals are made of the characters of numerals. -/
theorem NumeralText.isNumeralChar {cs : List Char} (h : NumeralText cs) :
    ∀ c ∈ cs, isNumeralChar c = true := by
  have hpower {ps : List Char} (h : PowerText ps) : ∀ c ∈ ps, Json.isNumeralChar c = true := by
    cases h with
    | none => simp
    | power he h =>
      refine List.forall_mem_cons.2 ⟨?_, isNumeralChar_of_numeral h⟩
      rcases he with rfl | rfl <;> decide
  have hfraction {fs : List Char} (h : FractionText fs) :
      ∀ c ∈ fs, Json.isNumeralChar c = true := by
    cases h with
    | none => simp
    | pointed _ hds =>
      exact List.forall_mem_cons.2 ⟨by decide, fun c hc => isNumeralChar_of_isDigit (hds c hc)⟩
  have hunsigned {ds : List Char} (h : UnsignedText ds) :
      ∀ c ∈ ds, Json.isNumeralChar c = true := by
    obtain ⟨hds, hfs, hps⟩ := h
    rw [List.forall_mem_append, List.forall_mem_append]
    exact ⟨fun c hc => isNumeralChar_of_isDigit (hds.digits c hc), hfraction hfs, hpower hps⟩
  cases h with
  | plain h => exact hunsigned h
  | minus h => exact List.forall_mem_cons.2 ⟨by decide, hunsigned h⟩

theorem NumeralText.isAscii {cs : List Char} (h : NumeralText cs) : ∀ c ∈ cs, IsAscii c :=
  fun c hc => isAscii_of_isNumeralChar (h.isNumeralChar c hc)

/-- A numeral begins with a digit or with a minus. -/
theorem NumeralText.exists_head {cs : List Char} (h : NumeralText cs) :
    ∃ c ds, cs = c :: ds ∧ (isDigit c = true ∨ c = '-') := by
  cases h with
  | plain h =>
    obtain ⟨c, ds, rfl⟩ : ∃ c ds, cs = c :: ds := by
      obtain ⟨hds, -, -⟩ := h
      exact List.exists_cons_of_ne_nil (by simp [hds.nonempty])
    exact ⟨c, ds, rfl, .inl h.isDigit_head⟩
  | minus => exact ⟨_, _, rfl, .inr rfl⟩

/-! ### Reading a token -/

theorem lexeme_of_wordToken? {t t' : Token} {cs : List Char} {bs rest : List UInt8}
    (h : wordToken? t cs bs = some (t', rest)) : t' = t ∧ bs = bytesOf cs ++ rest := by
  rw [wordToken?] at h
  split at h
  · next hcs =>
    cases h
    obtain ⟨rest, rfl⟩ := List.isPrefixOf_iff_prefix.1 hcs
    exact ⟨rfl, by rw [List.drop_left]⟩
  · cases h

theorem wordToken?_append (t : Token) (cs : List Char) (rest : List UInt8) :
    wordToken? t cs (bytesOf cs ++ rest) = some (t, rest) := by
  rw [wordToken?, if_pos (List.isPrefixOf_iff_prefix.2 (List.prefix_append _ _)), List.drop_left]

/-- The bytes of ASCII characters, the first of which is known by its byte. -/
theorem bytesOf_cons_charOf {b : UInt8} {c : Char} (hc : charOf b = c) (hascii : IsAscii c)
    (cs : List Char) : bytesOf (c :: cs) = b :: bytesOf cs := by
  rw [bytesOf_cons, bytesOf_ascii (by simpa using hascii), eq_byteOf hc]
  rfl

theorem exists_lexeme_of_token? {bs rest : List UInt8} {t : Token}
    (h : token? bs = some (t, rest)) :
    ∃ word, bs = word ++ rest ∧ Lexeme t word ∧ t.EndsBefore rest := by
  match bs with
  | [] => cases h
  | b :: bs =>
    -- A sign, and a word behind its first letter.
    have hsign {u : Token} {c : Char} (hb : charOf b = c) (hc : IsAscii c)
        (hu : Lexeme u (bytesOf [c])) (hend : u.EndsBefore rest)
        (h : some (u, bs) = some (t, rest)) :
        ∃ word, b :: bs = word ++ rest ∧ Lexeme t word ∧ t.EndsBefore rest := by
      cases h
      exact ⟨_, by rw [bytesOf_cons_charOf hb hc]; rfl, hu, hend⟩
    have hword {u : Token} {c : Char} {cs : List Char} (hb : charOf b = c) (hc : IsAscii c)
        (hu : Lexeme u (bytesOf (c :: cs))) (hend : u.EndsBefore rest)
        (h : wordToken? u cs bs = some (t, rest)) :
        ∃ word, b :: bs = word ++ rest ∧ Lexeme t word ∧ t.EndsBefore rest := by
      obtain ⟨rfl, rfl⟩ := lexeme_of_wordToken? h
      exact ⟨_, by rw [bytesOf_cons_charOf hb hc]; rfl, hu, hend⟩
    rw [token?] at h
    split at h
    · next hb => exact hsign hb (by decide) .openArray trivial h
    · next hb => exact hsign hb (by decide) .closeArray trivial h
    · next hb => exact hsign hb (by decide) .openObject trivial h
    · next hb => exact hsign hb (by decide) .closeObject trivial h
    · next hb => exact hsign hb (by decide) .colon trivial h
    · next hb => exact hsign hb (by decide) .comma trivial h
    · next hb => exact hword hb (by decide) .null trivial h
    · next hb => exact hword hb (by decide) .trueWord trivial h
    · next hb => exact hword hb (by decide) .falseWord trivial h
    · next hb =>
      obtain ⟨r, hr, heq⟩ := Option.map_eq_some_iff.1 h
      cases heq
      obtain ⟨hraw, rfl⟩ := stringBytes?_eq_some_iff.1 hr
      refine ⟨_, ?_, .string hraw, trivial⟩
      rw [bytesOf_cons_charOf hb (by decide), List.append_assoc, List.append_assoc]
      rfl
    · simp only at h
      split at h
      · next hnumeral =>
        cases h
        rw [isNumeral_iff] at hnumeral
        refine ⟨_, ?_, .numeral hnumeral, ?_⟩
        · have hbytes (bs : List UInt8) : (bs.map charOf).map byteOf = bs := by
            rw [List.map_map]
            exact List.map_id'' byteOf_charOf bs
          rw [bytesOf_ascii hnumeral.isAscii, List.map_cons, byteOf_charOf, hbytes,
            List.cons_append, List.takeWhile_append_dropWhile]
        · intro b hb
          have hhead := List.head?_dropWhile_not isNumeralByte bs
          rwa [hb] at hhead
      · cases h

theorem token?_append {t : Token} {word rest : List UInt8} (h : Lexeme t word)
    (hend : t.EndsBefore rest) : token? (word ++ rest) = some (t, rest) := by
  cases h with
  | openArray | closeArray | openObject | closeObject | colon | comma => rfl
  | null =>
    rw [bytesOf_cons, List.append_assoc]
    exact wordToken?_append .null ['u', 'l', 'l'] rest
  | trueWord =>
    rw [bytesOf_cons, List.append_assoc]
    exact wordToken?_append _ ['r', 'u', 'e'] rest
  | falseWord =>
    rw [bytesOf_cons, List.append_assoc]
    exact wordToken?_append _ ['a', 'l', 's', 'e'] rest
  | string h =>
    rw [List.append_assoc, List.append_assoc]
    show (stringBytes? (_ ++ (bytesOf ['"'] ++ rest))).map _ = _
    rw [stringBytes?_append h]
    rfl
  | numeral h =>
    obtain ⟨c, cs, rfl, hc⟩ := h.exists_head
    have hchar (d : Char) (hd : d ∈ c :: cs) : charOf (byteOf d) = d :=
      charOf_byteOf (h.isAscii d hd)
    have hcs : ∀ b ∈ cs.map byteOf, isNumeralByte b = true := by
      rw [List.forall_mem_map]
      intro d hd
      rw [isNumeralByte, hchar d (List.mem_cons_of_mem _ hd)]
      exact h.isNumeralChar d (List.mem_cons_of_mem _ hd)
    have hchars : (cs.map byteOf).map charOf = cs := by
      rw [List.map_map]
      exact (List.map_congr_left fun d hd => hchar d (List.mem_cons_of_mem _ hd)).trans
        (List.map_id cs)
    -- What is taken are the bytes that could be of a numeral, and these end where `rest` begins.
    rw [bytesOf_ascii h.isAscii, List.map_cons, List.cons_append, token?,
      hchar c List.mem_cons_self]
    split
    case h_11 =>
      simp only [takeWhile_append_stop hcs hend, dropWhile_append_stop hcs hend, hchars,
        isNumeral_iff.2 h, if_true]
    -- No other token begins with a digit or with a minus.
    all_goals
      rcases hc with hc | hc
      · cases hc
      · cases hc

/-- **The first token of a text is the one that spells its beginning.** -/
theorem token?_eq_some_iff {bs rest : List UInt8} {t : Token} : token? bs = some (t, rest) ↔
    ∃ word, bs = word ++ rest ∧ Lexeme t word ∧ t.EndsBefore rest := by
  constructor
  · exact exists_lexeme_of_token?
  · rintro ⟨word, rfl, h, hend⟩
    exact token?_append h hend

/-! ### Texts -/

/-- Tokens with blanks around them. -/
inductive Spelled : List UInt8 → List Token → Prop
  /-- Nothing. -/
  | nil : Spelled [] []
  /-- A blank in front. -/
  | blank {b : UInt8} {bs : List UInt8} {ts : List Token} (hb : isBlankByte b = true)
      (h : Spelled bs ts) : Spelled (b :: bs) ts
  /-- A token in front. -/
  | token {t : Token} {word rest : List UInt8} {ts : List Token} (ht : Lexeme t word)
      (hend : t.EndsBefore rest) (h : Spelled rest ts) : Spelled (word ++ rest) (t :: ts)

/-- A token does not begin with a blank. -/
theorem Lexeme.exists_head {t : Token} {word : List UInt8} (h : Lexeme t word) :
    ∃ b bs, word = b :: bs ∧ isBlankByte b = false := by
  cases h with
  | string h => exact ⟨_, _, rfl, rfl⟩
  | numeral h =>
    obtain ⟨c, cs, rfl, hc⟩ := h.exists_head
    refine ⟨byteOf c, cs.map byteOf, bytesOf_ascii h.isAscii, ?_⟩
    rw [isBlankByte, charOf_byteOf (h.isAscii c List.mem_cons_self)]
    rcases hc with hc | rfl
    · simp only [Bool.or_eq_false_iff, beq_eq_false_iff_ne]
      exact ⟨⟨⟨ne_of_isDigit hc (by decide), ne_of_isDigit hc (by decide)⟩,
        ne_of_isDigit hc (by decide)⟩, ne_of_isDigit hc (by decide)⟩
    · rfl
  | _ => exact ⟨_, _, rfl, rfl⟩

theorem tokens?_of_token? {bs after : List UInt8} {t : Token} (h : token? bs = some (t, after)) :
    tokens? bs = (tokens? after).map (t :: ·) := by
  obtain ⟨word, rfl, hword, -⟩ := token?_eq_some_iff.1 h
  obtain ⟨b, bs, rfl, hb⟩ := hword.exists_head
  rw [List.cons_append] at h ⊢
  rw [tokens?, if_neg (by rw [hb]; decide)]
  split
  · next hnone => rw [h] at hnone; cases hnone
  · next t' after' hsome =>
    rw [h] at hsome
    cases hsome
    rfl

theorem tokens?_of_spelled {bs : List UInt8} {ts : List Token} (h : Spelled bs ts) :
    tokens? bs = some ts := by
  induction h with
  | nil => rw [tokens?]
  | blank hb h ih => rw [tokens?, if_pos hb, ih]
  | token ht hend h ih => rw [tokens?_of_token? (token?_append ht hend), ih, Option.map_some]

theorem spelled_of_tokens? {bs : List UInt8} {ts : List Token} (h : tokens? bs = some ts) :
    Spelled bs ts := by
  induction bs using tokens?.induct generalizing ts with
  | case1 =>
    rw [tokens?] at h
    cases h
    exact .nil
  | case2 b rest hb ih =>
    rw [tokens?, if_pos hb] at h
    exact .blank hb (ih h)
  | case3 b rest hb hnone =>
    rw [tokens?, if_neg hb] at h
    split at h
    · cases h
    · next hsome =>
      rw [hnone] at hsome
      cases hsome
  | case4 b rest hb t after hsome _ ih =>
    rw [tokens?_of_token? hsome] at h
    obtain ⟨us, hus, rfl⟩ := Option.map_eq_some_iff.1 h
    obtain ⟨word, hword, ht, hend⟩ := token?_eq_some_iff.1 hsome
    rw [hword]
    exact .token ht hend (ih hus)

/-- **The tokens of a text are those that spell it.** -/
theorem tokens?_eq_some_iff {bs : List UInt8} {ts : List Token} :
    tokens? bs = some ts ↔ Spelled bs ts :=
  ⟨spelled_of_tokens?, tokens?_of_spelled⟩

end DocSearch.Json
