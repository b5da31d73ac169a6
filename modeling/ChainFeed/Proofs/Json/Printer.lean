import ChainFeed.Json.Printer
import ChainFeed.Proofs.Decimal.Shortest
import ChainFeed.Proofs.Text.Integer
import ChainFeed.Text.Utf8

/-!
# JSON texts

Different values have different texts. The first character of a text tells which kind of value it
is; a literal, a string or a closing bracket shows its end by itself, and a number ends where none
of its characters stands.

## Main definitions

- `Json.unescape`: the character at the front of a string literal
- `Json.lead`: what a text begins with

## Main results

- `Number.text_injective`, `Json.quote_append_inj`, `Json.render_injective`
-/

namespace ChainFeed

/-! ### Numbers -/

namespace Number

/-- The characters of numbers. -/
def isTextChar (c : Char) : Bool :=
  c.isDigit || c = '-' || c = '+' || c = '.' || c = 'e'

/-- The characters that integers do not have. -/
def isFloatChar (c : Char) : Bool :=
  c = '.' || c = 'e'

theorem isTextChar_of_isDigit {c : Char} (h : c.isDigit = true) : isTextChar c = true := by
  simp [isTextChar, h]

theorem mem_toString_int {n : Int} {c : Char} (h : c ∈ (toString n).toList) :
    c.isDigit = true ∨ c = '-' := by
  rw [Integer.toList_toString] at h
  rcases List.mem_append.mp h with h | h
  · split at h
    · exact absurd h List.not_mem_nil
    · exact .inr (List.mem_singleton.mp h)
  · exact .inl (Shortest.allDigits_toDigits _ c h)

theorem isTextChar_of_mem_toString_int {n : Int} {c : Char} (h : c ∈ (toString n).toList) :
    isTextChar c = true := by
  rcases mem_toString_int h with hdigit | rfl
  · exact isTextChar_of_isDigit hdigit
  · rfl

theorem toString_int_injective {m n : Int} (h : toString m = toString n) : m = n := by
  have hread (k : Nat) : Nat.ofDigitChars 10 (Nat.toDigits 10 k) 0 = k :=
    Nat.ofDigitChars_ten_toDigits
  have hminus (k : Nat) (cs : List Char) : Nat.toDigits 10 k ≠ '-' :: cs := fun heq =>
    absurd (Shortest.allDigits_toDigits k '-' (heq ▸ List.mem_cons_self ..)) (by decide)
  have hchars := congrArg String.toList h
  rw [Integer.toList_toString, Integer.toList_toString] at hchars
  split at hchars <;> split at hchars
  · rw [List.nil_append, List.nil_append] at hchars
    have := congrArg (Nat.ofDigitChars 10 · 0) hchars
    simp only [hread] at this
    omega
  · exact absurd hchars (hminus _ _)
  · exact absurd hchars.symm (hminus _ _)
  · have := congrArg (Nat.ofDigitChars 10 · 0) (List.append_cancel_left hchars)
    simp only [hread] at this
    omega

/-- A text of digits with a point or an exponent. -/
structure IsFloatText (cs : List Char) : Prop where
  isTextChar : ∀ c ∈ cs, isTextChar c = true
  exists_isFloatChar : ∃ c ∈ cs, isFloatChar c = true

theorem isFloatText_of_append {front back : List Char} {c : Char}
    (hfront : ∀ c ∈ front, isTextChar c = true) (hc : isFloatChar c = true)
    (hback : ∀ c ∈ back, isTextChar c = true) : IsFloatText (front ++ c :: back) := by
  refine ⟨fun d hd => ?_, c, by simp, hc⟩
  rcases List.mem_append.mp hd with hd | hd
  · exact hfront d hd
  · rcases List.mem_cons.mp hd with rfl | hd
    · rcases (Bool.or_eq_true _ _).mp hc with h | h <;> simp [isTextChar, of_decide_eq_true h]
    · exact hback d hd

theorem isFloatText_layout {text : List Char} (hdigits : Shortest.AllDigits text) (point : Int) :
    IsFloatText (Shortest.layout text point) := by
  have htext {cs : List Char} (h : Shortest.AllDigits cs) : ∀ c ∈ cs, isTextChar c = true :=
    fun c hc => isTextChar_of_isDigit (h c hc)
  have hzeros (n : Nat) := Shortest.allDigits_replicate_zero n
  unfold Shortest.layout
  -- each form of a layout has a point, or an exponent
  split
  · split
    · exact isFloatText_of_append (htext (hdigits.append (hzeros _))) rfl (htext (hzeros 1))
    · exact isFloatText_of_append (htext fun c hc => hdigits c (List.mem_of_mem_take hc)) rfl
        (htext fun c hc => hdigits c (List.mem_of_mem_drop hc))
  · split
    · exact isFloatText_of_append (htext (hzeros 1)) rfl (htext ((hzeros _).append hdigits))
    · rw [List.append_assoc]
      refine isFloatText_of_append (fun c hc => ?_) rfl fun c hc => ?_
      · split at hc
        · exact absurd hc List.not_mem_nil
        · exact htext hdigits c hc
        · rename_i d rest _
          rcases List.mem_cons.mp hc with rfl | hc
          · exact htext hdigits c (List.mem_cons_self ..)
          · rcases List.mem_cons.mp hc with rfl | hc
            · rfl
            · exact htext hdigits c (List.mem_cons_of_mem d hc)
      · rcases List.mem_append.mp hc with hc | hc
        · split at hc
          · rw [List.mem_singleton.mp hc]
            rfl
          · exact absurd hc List.not_mem_nil
        · exact isTextChar_of_mem_toString_int hc

theorem IsFloatText.append {front cs : List Char} (h : IsFloatText cs)
    (hfront : ∀ c ∈ front, Number.isTextChar c = true) : IsFloatText (front ++ cs) := by
  obtain ⟨c, hc, hfloat⟩ := h.exists_isFloatChar
  exact ⟨fun d hd => (List.mem_append.mp hd).elim (hfront d) (h.isTextChar d), c,
    List.mem_append_right _ hc, hfloat⟩

theorem isFloatText_render (x : Binary64) : IsFloatText (Shortest.render x).toList := by
  rw [Shortest.toList_render]
  refine IsFloatText.append ?_ fun c hc => ?_
  · unfold Shortest.unsigned
    split
    · exact isFloatText_of_append (fun c hc => isTextChar_of_isDigit
        (Shortest.allDigits_replicate_zero 1 c hc)) rfl fun c hc => isTextChar_of_isDigit
        (Shortest.allDigits_replicate_zero 1 c hc)
    · exact isFloatText_layout (Shortest.allDigits_toDigits _) _
  · split at hc
    · rw [List.mem_singleton.mp hc]
      rfl
    · exact absurd hc List.not_mem_nil

theorem isTextChar_of_mem_text {n : Number} {c : Char} (h : c ∈ n.text.toList) :
    isTextChar c = true := by
  cases n with
  | integer n => exact isTextChar_of_mem_toString_int h
  | float x => exact (isFloatText_render x).isTextChar c h

theorem text_ne_text_of_float (n : Int) (x : Binary64) :
    (Number.integer n).text ≠ (Number.float x).text := by
  intro h
  -- a point or an exponent never stands in an integer
  obtain ⟨c, hc, hfloat⟩ := (isFloatText_render x).exists_isFloatChar
  have hmem : c ∈ (toString n).toList := by
    rw [show toString n = Shortest.render x from h]
    exact hc
  rcases mem_toString_int hmem with hdigit | rfl
  · rcases (Bool.or_eq_true _ _).mp hfloat with h | h <;>
    · rw [of_decide_eq_true h] at hdigit
      exact absurd hdigit (by decide)
  · exact absurd hfloat (by decide)

/-- Different numbers have different texts. -/
theorem text_injective {m n : Number} (h : m.text = n.text) : m = n := by
  cases m with
  | integer m =>
    cases n with
    | integer n => exact congrArg integer (toString_int_injective h)
    | float y => exact absurd h (text_ne_text_of_float m y)
  | float x =>
    cases n with
    | integer n => exact absurd h.symm (text_ne_text_of_float n x)
    | float y => exact congrArg float (Shortest.render_injective h)

/-- The first character of a number is a digit or a sign. -/
theorem text_head (n : Number) :
    ∃ c rest, n.text.toList = c :: rest ∧ (c.isDigit = true ∨ c = '-') := by
  cases n with
  | integer n =>
    have hne : (toString n).toList ≠ [] := by
      rw [Integer.toList_toString]
      exact List.append_ne_nil_of_right_ne_nil _ Nat.toDigits_ne_nil
    obtain ⟨c, rest, heq⟩ := List.exists_cons_of_ne_nil hne
    exact ⟨c, rest, heq, mem_toString_int (heq ▸ List.mem_cons_self ..)⟩
  | float x =>
    obtain ⟨c, rest, heq, hdigit⟩ := Shortest.unsigned_head x
    rw [text, Shortest.toList_render, heq]
    split
    · exact ⟨'-', _, rfl, .inr rfl⟩
    · exact ⟨c, _, rfl, .inl hdigit⟩

end Number

/-! ### Strings -/

namespace Json

/-- The character at the front of a string literal, and what follows it. -/
def unescape : List Char → Option (Char × List Char)
  | '\\' :: 'u' :: _ :: _ :: high :: low :: rest =>
    some (Char.ofNat (16 * (Hex.value? high).getD 0 + (Hex.value? low).getD 0), rest)
  | '\\' :: 'b' :: rest => some (Char.ofNat 8, rest)
  | '\\' :: 't' :: rest => some (Char.ofNat 9, rest)
  | '\\' :: 'n' :: rest => some (Char.ofNat 10, rest)
  | '\\' :: 'f' :: rest => some (Char.ofNat 12, rest)
  | '\\' :: 'r' :: rest => some (Char.ofNat 13, rest)
  | '\\' :: c :: rest => some (c, rest)
  | c :: rest => some (c, rest)
  | [] => none

theorem value?_digit {n : Nat} (h : n < 16) : Hex.value? (Hex.digit n) = some n := by
  revert n
  decide

theorem unescape_escapeChar (c : Char) (rest : List Char) :
    unescape (escapeChar c ++ rest) = some (c, rest) := by
  have hof {n : Nat} (h : c.toNat = n) : c = Char.ofNat n := by rw [← h, Char.ofNat_toNat]
  unfold escapeChar
  dsimp only
  -- seven characters have an escape of their own
  iterate 7
    split
    · rename_i h
      rw [hof h]
      rfl
  split
  · rename_i h
    show some (Char.ofNat (16 * (Hex.value? (Hex.digit (c.toNat / 16))).getD 0 +
      (Hex.value? (Hex.digit (c.toNat % 16))).getD 0), rest) = some (c, rest)
    rw [value?_digit (by omega), value?_digit (by omega), Option.getD_some, Option.getD_some,
      Nat.div_add_mod, Char.ofNat_toNat]
  · rename_i hslash _ _ _ _ _ _
    have hne : c ≠ '\\' := by
      rintro rfl
      exact hslash rfl
    simp [unescape, hne]

theorem escapeChar_head (c : Char) : ∃ d rest, escapeChar c = d :: rest ∧ d ≠ '"' := by
  unfold escapeChar
  dsimp only
  iterate 8
    split
    · exact ⟨_, _, rfl, by decide⟩
  rename_i hquote _ _ _ _ _ _ _
  refine ⟨c, [], rfl, ?_⟩
  rintro rfl
  exact hquote rfl

theorem flatMap_escapeChar_append_inj {cs ds rest rest' : List Char}
    (h : cs.flatMap escapeChar ++ '"' :: rest = ds.flatMap escapeChar ++ '"' :: rest') :
    cs = ds ∧ rest = rest' := by
  -- an escaped character never begins with a quote, so the quote ends both strings at once
  induction cs generalizing ds with
  | nil =>
    cases ds with
    | nil => exact ⟨rfl, (List.cons.inj h).2⟩
    | cons d ds =>
      obtain ⟨e, back, he, hne⟩ := escapeChar_head d
      rw [List.flatMap_nil, List.nil_append, List.flatMap_cons, he] at h
      exact absurd (List.cons.inj h).1.symm hne
  | cons c cs ih =>
    cases ds with
    | nil =>
      obtain ⟨e, back, he, hne⟩ := escapeChar_head c
      rw [List.flatMap_nil, List.nil_append, List.flatMap_cons, he] at h
      exact absurd (List.cons.inj h).1 hne
    | cons d ds =>
      rw [List.flatMap_cons, List.flatMap_cons, List.append_assoc, List.append_assoc] at h
      have hread := congrArg unescape h
      rw [unescape_escapeChar, unescape_escapeChar] at hread
      obtain ⟨rfl, htail⟩ := Prod.mk.inj (Option.some.inj hread)
      obtain ⟨rfl, hrest⟩ := ih htail
      exact ⟨rfl, hrest⟩

/-- A string literal shows its end. -/
theorem quote_append_inj {s t : String} {rest rest' : List Char}
    (h : quote s ++ rest = quote t ++ rest') : s = t ∧ rest = rest' := by
  unfold quote at h
  simp only [List.cons_append, List.append_assoc, List.nil_append] at h
  obtain ⟨hchars, hrest⟩ := flatMap_escapeChar_append_inj (List.cons.inj h).2
  exact ⟨String.toList_inj.mp hchars, hrest⟩

/-! ### Values -/

/-- What a text begins with; numbers begin with a digit or a sign. -/
def lead : Json → Char
  | .null => 'n'
  | .bool true => 't'
  | .bool false => 'f'
  | .number _ => '0'
  | .string _ => '"'
  | .array _ => '['
  | .object _ => '{'

/-- Digits and signs as one. -/
def leadOf (c : Char) : Char :=
  if c.isDigit || c = '-' then '0' else c

theorem chars_head (a : Json) : ∃ c rest, a.chars = c :: rest ∧ leadOf c = a.lead := by
  cases a with
  | null => exact ⟨_, _, rfl, rfl⟩
  | bool b => cases b <;> exact ⟨_, _, rfl, rfl⟩
  | number n =>
    obtain ⟨c, rest, heq, hc⟩ := n.text_head
    refine ⟨c, rest, by rw [chars, heq], ?_⟩
    rcases hc with hc | rfl
    · rw [leadOf, hc]
      rfl
    · rfl
  | string s => exact ⟨_, _, by rw [chars, quote, List.cons_append], rfl⟩
  | array items => cases items <;> exact ⟨'[', _, rfl, rfl⟩
  | object members =>
    cases members with
    | nil => exact ⟨'{', _, rfl, rfl⟩
    | cons first rest => exact ⟨'{', _, rfl, rfl⟩

/-- Where a number may end. -/
def Delimits (rest : List Char) : Prop :=
  ∀ c tail, rest = c :: tail → Number.isTextChar c = false

theorem delimits_nil : Delimits [] := nofun

theorem delimits_cons {c : Char} {tail : List Char} (h : Number.isTextChar c = false) :
    Delimits (c :: tail) := by
  rintro d rest ⟨⟩
  exact h

theorem number_append_inj {m n : Number} {rest rest' : List Char} (hrest : Delimits rest)
    (hrest' : Delimits rest') (h : m.text.toList ++ rest = n.text.toList ++ rest') :
    m = n ∧ rest = rest' := by
  -- the characters of a number are the longest prefix of its kind of characters
  have htake (k : Number) {tail : List Char} (htail : Delimits tail) :
      (k.text.toList ++ tail).takeWhile Number.isTextChar = k.text.toList := by
    rw [List.takeWhile_append_of_pos fun c hc => Number.isTextChar_of_mem_text hc]
    cases tail with
    | nil => simp
    | cons c tail =>
      have hend : ¬ Number.isTextChar c = true := by simp [htail c tail rfl]
      rw [List.takeWhile_cons_of_neg hend, List.append_nil]
  have htext := congrArg (List.takeWhile Number.isTextChar) h
  rw [htake m hrest, htake n hrest'] at htext
  rw [htext] at h
  exact ⟨Number.text_injective (String.toList_inj.mp htext), List.append_cancel_left h⟩

theorem lead_eq_of_append_eq {a b : Json} {rest rest' : List Char}
    (h : a.chars ++ rest = b.chars ++ rest') : a.lead = b.lead := by
  obtain ⟨c, tail, hc, hlead⟩ := a.chars_head
  obtain ⟨d, tail', hd, hlead'⟩ := b.chars_head
  rw [hc, hd, List.cons_append, List.cons_append] at h
  rw [← hlead, ← hlead', (List.cons.inj h).1]

theorem lead_ne_of_close {a : Json} {c : Char} {rest tail : List Char} (hc : c = ']' ∨ c = '}') :
    c :: rest ≠ a.chars ++ tail := by
  intro h
  obtain ⟨d, back, hd, hlead⟩ := a.chars_head
  rw [hd, List.cons_append] at h
  rw [← (List.cons.inj h).1] at hlead
  rcases hc with rfl | rfl <;>
  · cases a with
    | bool b => cases b <;> exact absurd hlead (by rw [lead]; decide)
    | _ => exact absurd hlead (by rw [lead]; decide)

/-- Values of one kind. -/
inductive SameKind : Json → Json → Prop
  | null : SameKind .null .null
  | bool (b : Bool) : SameKind (.bool b) (.bool b)
  | number (m n : Number) : SameKind (.number m) (.number n)
  | string (s t : String) : SameKind (.string s) (.string t)
  | array (xs ys : List Json) : SameKind (.array xs) (.array ys)
  | object (xs ys : List (String × Json)) : SameKind (.object xs) (.object ys)

theorem sameKind_of_append_eq {a b : Json} {rest rest' : List Char}
    (h : a.chars ++ rest = b.chars ++ rest') : SameKind a b := by
  have hlead := lead_eq_of_append_eq h
  -- the first characters of different kinds differ
  clear h
  cases a with
  | bool p =>
    cases b with
    | bool q => cases p <;> cases q <;> first | constructor | simp [lead] at hlead
    | _ => cases p <;> simp [lead] at hlead
  | _ =>
    cases b with
    | bool q => cases q <;> simp [lead] at hlead
    | _ => first | constructor | simp [lead] at hlead

theorem delimits_itemChars (items : List Json) (rest : List Char) :
    Delimits (itemChars items ++ rest) := by
  cases items <;> exact delimits_cons rfl

theorem delimits_memberChars (members : List (String × Json)) (rest : List Char) :
    Delimits (memberChars members ++ rest) := by
  cases members <;> exact delimits_cons rfl

mutual

/-- A text shows its end, if what stands behind it ends a number. -/
theorem chars_append_inj : (a : Json) → {b : Json} → {rest rest' : List Char} → Delimits rest →
    Delimits rest' → a.chars ++ rest = b.chars ++ rest' → a = b ∧ rest = rest'
  | .null, b, rest, rest', _, _, h => by
    cases sameKind_of_append_eq h
    exact ⟨rfl, List.append_cancel_left h⟩
  | .bool p, b, rest, rest', _, _, h => by
    cases sameKind_of_append_eq h
    exact ⟨rfl, List.append_cancel_left h⟩
  | .number m, b, rest, rest', hrest, hrest', h => by
    cases sameKind_of_append_eq h with
    | number _ n =>
      obtain ⟨rfl, heq⟩ := number_append_inj hrest hrest' h
      exact ⟨rfl, heq⟩
  | .string s, b, rest, rest', _, _, h => by
    cases sameKind_of_append_eq h with
    | string _ t =>
      obtain ⟨rfl, heq⟩ := quote_append_inj h
      exact ⟨rfl, heq⟩
  | .array [], b, rest, rest', _, _, h => by
    cases sameKind_of_append_eq h with
    | array _ ys =>
      cases ys with
      | nil => exact ⟨rfl, List.append_cancel_left h⟩
      | cons y ys =>
        simp only [chars, List.cons_append, List.append_assoc, List.nil_append] at h
        exact absurd (List.cons.inj h).2 (lead_ne_of_close (.inl rfl))
  | .array (x :: xs), b, rest, rest', _, _, h => by
    cases sameKind_of_append_eq h with
    | array _ ys =>
      cases ys with
      | nil =>
        simp only [chars, List.cons_append, List.append_assoc, List.nil_append] at h
        exact absurd (List.cons.inj h).2.symm (lead_ne_of_close (.inl rfl))
      | cons y ys =>
        simp only [chars, List.cons_append, List.append_assoc] at h
        obtain ⟨rfl, htail⟩ := chars_append_inj x (delimits_itemChars xs rest)
          (delimits_itemChars ys rest') (List.cons.inj h).2
        obtain ⟨rfl, heq⟩ := itemChars_append_inj xs htail
        exact ⟨rfl, heq⟩
  | .object [], b, rest, rest', _, _, h => by
    cases sameKind_of_append_eq h with
    | object _ ys =>
      cases ys with
      | nil => exact ⟨rfl, List.append_cancel_left h⟩
      | cons y ys =>
        obtain ⟨l, y⟩ := y
        simp only [chars, quote, List.cons_append, List.append_assoc, List.nil_append] at h
        exact absurd (List.cons.inj (List.cons.inj h).2).1 (by decide)
  | .object ((k, x) :: xs), b, rest, rest', _, _, h => by
    cases sameKind_of_append_eq h with
    | object _ ys =>
      cases ys with
      | nil =>
        simp only [chars, quote, List.cons_append, List.append_assoc, List.nil_append] at h
        exact absurd (List.cons.inj (List.cons.inj h).2).1 (by decide)
      | cons y ys =>
        obtain ⟨l, y⟩ := y
        simp only [chars, List.cons_append, List.append_assoc] at h
        obtain ⟨rfl, hvalue⟩ := quote_append_inj (List.cons.inj h).2
        obtain ⟨rfl, htail⟩ := chars_append_inj x (delimits_memberChars xs rest)
          (delimits_memberChars ys rest') (List.cons.inj hvalue).2
        obtain ⟨rfl, heq⟩ := memberChars_append_inj xs htail
        exact ⟨rfl, heq⟩

theorem itemChars_append_inj : (xs : List Json) → {ys : List Json} → {rest rest' : List Char} →
    itemChars xs ++ rest = itemChars ys ++ rest' → xs = ys ∧ rest = rest'
  | [], [], rest, rest', h => ⟨rfl, (List.cons.inj h).2⟩
  | [], y :: ys, rest, rest', h => absurd (List.cons.inj h).1 (by decide)
  | x :: xs, [], rest, rest', h => absurd (List.cons.inj h).1 (by decide)
  | x :: xs, y :: ys, rest, rest', h => by
    simp only [itemChars, List.cons_append, List.append_assoc] at h
    obtain ⟨rfl, htail⟩ := chars_append_inj x (delimits_itemChars xs rest)
      (delimits_itemChars ys rest') (List.cons.inj h).2
    obtain ⟨rfl, hrest⟩ := itemChars_append_inj xs htail
    exact ⟨rfl, hrest⟩

theorem memberChars_append_inj : (xs : List (String × Json)) → {ys : List (String × Json)} →
    {rest rest' : List Char} → memberChars xs ++ rest = memberChars ys ++ rest' →
    xs = ys ∧ rest = rest'
  | [], [], rest, rest', h => ⟨rfl, (List.cons.inj h).2⟩
  | [], (l, y) :: ys, rest, rest', h => absurd (List.cons.inj h).1 (by decide)
  | (k, x) :: xs, [], rest, rest', h => absurd (List.cons.inj h).1 (by decide)
  | (k, x) :: xs, (l, y) :: ys, rest, rest', h => by
    simp only [memberChars, List.cons_append, List.append_assoc] at h
    obtain ⟨rfl, hvalue⟩ := quote_append_inj (List.cons.inj h).2
    obtain ⟨rfl, htail⟩ := chars_append_inj x (delimits_memberChars xs rest)
      (delimits_memberChars ys rest') (List.cons.inj hvalue).2
    obtain ⟨rfl, hrest⟩ := memberChars_append_inj xs htail
    exact ⟨rfl, hrest⟩

end

/-- Different values have different texts. -/
theorem render_injective {a b : Json} (h : a.render = b.render) : a = b := by
  have hchars : a.chars ++ [] = b.chars ++ [] := by
    rw [List.append_nil, List.append_nil]
    exact String.ofList_inj.mp h
  exact (chars_append_inj a delimits_nil delimits_nil hchars).1

/-- The bytes of a text, from its characters. -/
theorem encode_render (value : Json) :
    Utf8.encode value.render = value.chars.flatMap Utf8.encodeChar := by
  rw [Utf8.encode, render, String.toList_ofList]

end Json

end ChainFeed
