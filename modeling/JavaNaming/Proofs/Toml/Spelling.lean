import JavaNaming.Toml.Scalar
import Mathlib.Data.Bool.AllAny

/-!
# Ways to write strings and keys

A basic string holds most characters as they are. Quotes, backslashes and control characters need an
escape: a letter for the common ones, or the code of the character in hexadecimal digits. `Spelled` says
which texts stand for a text, and `KeyText` does the same for keys, with and without quotes. The readers
of pieces give back what was spelled, however it was done.

* `exists_spelled`: every text can be spelled.
* `basicText_spelled`: a spelling is read as the text that it stands for.
* `basicLength_spelled`: a spelling hides every quote in it, so that the string ends behind it.
* `KeyText.key_eq`, `scalar_spelled`: the same for the pieces of a document.
-/

namespace JavaNaming.Toml

/-! ## Characters -/

/-- The characters that no string of one line holds as they are. -/
def IsControl (c : Char) : Prop := (c.toNat < 0x20 ∧ c ≠ '\t') ∨ c.toNat = 0x7f

instance (c : Char) : Decidable (IsControl c) := inferInstanceAs (Decidable (_ ∨ _))

theorem isVisible_iff {c : Char} : isVisible c = true ↔ ¬ IsControl c := by
  simp only [isVisible, isCommentCharacter, IsControl, Bool.or_eq_true, Bool.and_eq_true,
    beq_iff_eq, decide_eq_true_eq, Char.le_def, Char.lt_def, UInt32.le_iff_toNat_le,
    UInt32.lt_iff_toNat_lt]
  have ht : c = '\t' ↔ c.toNat = 9 := ⟨fun h => h ▸ rfl, fun h => Char.toNat_inj.1 h⟩
  show (c = '\t' ∨ 32 ≤ c.toNat ∧ c.toNat ≤ 126) ∨ 127 < c.toNat ↔ _
  rw [ne_eq, ht]
  omega

/-- A hexadecimal digit, as a small letter or a capital where it is one. -/
def hexDigit (d : Fin 16 × Bool) : Char :=
  (if d.2 then "0123456789ABCDEF" else "0123456789abcdef").toList.getD d.1 '0'

/-- The number that hexadecimal digits write. -/
def digitsValue (digits : List (Fin 16 × Bool)) : Nat :=
  digits.foldl (fun n d => 16 * n + d.1) 0

theorem hexValue?_hexDigit (d : Fin 16 × Bool) : hexValue? (hexDigit d) = some d.1.val := by
  have h : ∀ (value : Fin 16) (capital : Bool),
      hexValue? (hexDigit (value, capital)) = some value.val := by decide +kernel
  exact h d.1 d.2

theorem hexNumber_map_hexDigit (digits : List (Fin 16 × Bool)) :
    hexNumber (digits.map hexDigit) = digitsValue digits := by
  simp only [hexNumber, digitsValue, List.foldl_map, hexValue?_hexDigit, Option.getD_some]

theorem hexDigits_map_hexDigit (digits : List (Fin 16 × Bool)) (rest : List Char) :
    hexDigits digits.length (digits.map hexDigit ++ rest) = digits.map hexDigit := by
  induction digits with
  | nil => rfl
  | cons d digits ih =>
    simp [hexDigits, hexValue?_hexDigit, ih]

/-! ## Basic strings -/

/-- The letters that stand for a character after a backslash. -/
def shortEscapes : List (Char × Char) :=
  [('b', '\x08'), ('t', '\t'), ('n', '\n'), ('f', '\x0c'), ('r', '\r'), ('"', '"'), ('\\', '\\')]

/-- The letters that stand before the code of a character, and how many digits the code has. -/
def codeEscapes : List (Char × Nat) := [('u', 4), ('U', 8)]

/-- The ways to write a character in a basic string. -/
inductive Spelling : Char → List Char → Prop
  | plain {c : Char} : c ≠ '"' → c ≠ '\\' → ¬ IsControl c → Spelling c [c]
  | short {letter c : Char} : (letter, c) ∈ shortEscapes → Spelling c ['\\', letter]
  | code {letter c : Char} {digits : List (Fin 16 × Bool)} :
      (letter, digits.length) ∈ codeEscapes → digitsValue digits = c.toNat →
      Spelling c ('\\' :: letter :: digits.map hexDigit)

/-- The ways to write a text in a basic string. -/
inductive Spelled : List Char → List Char → Prop
  | nil : Spelled [] []
  | cons {c : Char} {text unit body : List Char} :
      Spelling c unit → Spelled text body → Spelled (c :: text) (unit ++ body)

theorem exists_spelling (c : Char) : ∃ unit, Spelling c unit := by
  by_cases hquote : c = '"'
  · subst hquote
    exact ⟨_, .short (by decide : ('"', '"') ∈ shortEscapes)⟩
  by_cases hback : c = '\\'
  · subst hback
    exact ⟨_, .short (by decide : ('\\', '\\') ∈ shortEscapes)⟩
  by_cases hcontrol : IsControl c
  · -- the code of a control character has two digits that count
    have hlt : c.toNat < 256 := by
      rcases hcontrol with ⟨h, -⟩ | h <;> omega
    let digits : List (Fin 16 × Bool) :=
      [(0, false), (0, false), (⟨c.toNat / 16, by omega⟩, false), (⟨c.toNat % 16, by omega⟩, false)]
    refine ⟨_, @Spelling.code 'u' c digits List.mem_cons_self ?_⟩
    show 16 * (16 * (16 * (16 * 0 + 0) + 0) + c.toNat / 16) + c.toNat % 16 = c.toNat
    omega
  · exact ⟨_, .plain hquote hback hcontrol⟩

/-- **Every text can be spelled.** -/
theorem exists_spelled (text : List Char) : ∃ body, Spelled text body := by
  induction text with
  | nil => exact ⟨[], .nil⟩
  | cons c text ih =>
    obtain ⟨body, hbody⟩ := ih
    obtain ⟨unit, hunit⟩ := exists_spelling c
    exact ⟨unit ++ body, .cons hunit hbody⟩

/-- A text without quotes, backslashes and control characters is a spelling of itself. -/
theorem spelled_self {text : List Char}
    (h : ∀ c ∈ text, c ≠ '"' ∧ c ≠ '\\' ∧ ¬ IsControl c) : Spelled text text := by
  induction text with
  | nil => exact .nil
  | cons c text ih =>
    obtain ⟨⟨hquote, hback, hcontrol⟩, htext⟩ := List.forall_mem_cons.1 h
    exact .cons (.plain hquote hback hcontrol) (ih htext)

theorem hexEscape_map_hexDigit {digits : List (Fin 16 × Bool)} {c : Char}
    (h : digitsValue digits = c.toNat) (here : Nat) :
    hexEscape here digits.length (digits.map hexDigit) = .ok c := by
  have hnumber : hexNumber (digits.map hexDigit) = c.toNat := (hexNumber_map_hexDigit digits).trans h
  have hvalid : (hexNumber (digits.map hexDigit)).isValidChar := hnumber ▸ c.valid
  have hlength : ¬ (digits.map hexDigit).length < digits.length := by simp
  unfold hexEscape
  rw [if_neg hlength]
  dsimp only
  rw [dif_pos hvalid]
  exact congrArg Except.ok (Char.toNat_inj.1 hnumber)

/-- Reading a character takes the whole of what spells it. -/
theorem basicText_spelling {c : Char} {unit : List Char} (h : Spelling c unit) (fuel here : Nat)
    (rest : List Char) :
    ∃ there, basicText (fuel + 1) here (unit ++ rest) =
      (basicText fuel there rest).map (c :: ·) := by
  cases h with
  | plain hquote hback hcontrol =>
    have hplain : isPlain c = true := by
      simp [isPlain, isVisible_iff.2 hcontrol, hquote, hback]
    refine ⟨here + c.utf8Size, ?_⟩
    rw [List.singleton_append, basicText]
    · rw [if_pos hplain]
    · exact hback
  | @short letter _ hmem =>
    refine ⟨here + 2, ?_⟩
    have hescaped : escaped? letter = some c := by
      have hall : ∀ e ∈ shortEscapes, escaped? e.1 = some e.2 := by decide
      exact hall _ hmem
    simp only [List.cons_append, List.nil_append, basicText, hescaped]
  | @code letter _ digits hmem hvalue =>
    refine ⟨here + 2 + digits.length, ?_⟩
    have hletter : escaped? letter = none ∧ escapeWidth? letter = some digits.length := by
      have hall : ∀ e ∈ codeEscapes, escaped? e.1 = none ∧ escapeWidth? e.1 = some e.2 := by decide
      exact hall _ hmem
    have hdrop : (digits.map hexDigit ++ rest).drop digits.length = rest := by
      rw [List.drop_append_of_le_length (by simp)]
      simp
    simp only [List.cons_append, basicText, hletter.1, hletter.2, hexDigits_map_hexDigit,
      hexEscape_map_hexDigit hvalue, hdrop]
    cases basicText fuel (here + 2 + digits.length) rest <;> rfl

theorem Spelling.length_pos {c : Char} {unit : List Char} (h : Spelling c unit) :
    0 < unit.length := by
  cases h <;> simp

theorem Spelled.head?_ne {text body : List Char} (h : Spelled text body) :
    body.head? ≠ some '"' := by
  cases h with
  | nil => simp
  | cons hunit _ =>
    cases hunit with
    | plain hquote _ _ => simpa using hquote
    | short _ => simp
    | code _ _ => simp

/-- **A spelling is read as the text that it stands for.** -/
theorem basicText_spelled {text body : List Char} (h : Spelled text body) {fuel : Nat}
    (hfuel : body.length < fuel) (here : Nat) : basicText fuel here body = .ok text := by
  induction h generalizing fuel here with
  | nil =>
    obtain ⟨fuel, rfl⟩ : ∃ n, fuel = n + 1 := ⟨fuel - 1, by simp at hfuel; omega⟩
    rfl
  | @cons c text unit body hunit _ ih =>
    obtain ⟨fuel, rfl⟩ : ∃ n, fuel = n + 1 := ⟨fuel - 1, by omega⟩
    obtain ⟨there, hread⟩ := basicText_spelling hunit fuel here body
    have hpos := hunit.length_pos
    rw [List.length_append] at hfuel
    rw [hread, ih (by omega) there]
    rfl

/-! ## Where a basic string ends -/

namespace Token

theorem basicLength_cons {c : Char} (hquote : c ≠ '"') (hback : c ≠ '\\') (hline : c ≠ '\n')
    (cs : List Char) : basicLength (c :: cs) = basicLength cs + 1 := by
  rw [basicLength]
  · rw [if_neg hquote, if_neg hline]
  · intro _ h
    exact absurd h hback
  · intro _ h
    exact absurd h hback

/-- The characters of a run none of which ends a string are passed one by one. -/
theorem basicLength_run {run : List Char} (h : ∀ c ∈ run, c ≠ '"' ∧ c ≠ '\\' ∧ c ≠ '\n')
    (cs : List Char) : basicLength (run ++ cs) = basicLength cs + run.length := by
  induction run with
  | nil => rfl
  | cons c run ih =>
    obtain ⟨⟨hquote, hback, hline⟩, hrun⟩ := List.forall_mem_cons.1 h
    rw [List.cons_append, basicLength_cons hquote hback hline, ih hrun, List.length_cons]
    omega

theorem basicLength_backslash {letter : Char} (hquote : letter ≠ '"') (hback : letter ≠ '\\')
    (hline : letter ≠ '\n') (cs : List Char) :
    basicLength ('\\' :: letter :: cs) = basicLength cs + 2 := by
  rw [basicLength]
  · rw [if_neg (by decide), if_neg (by decide), basicLength_cons hquote hback hline]
  · rintro _ - h
    exact absurd (List.cons_eq_cons.1 h).1 hback
  · rintro _ - h
    exact absurd (List.cons_eq_cons.1 h).1 hquote

theorem hexDigit_ne {c : Char} (h : hexValue? c = none) (d : Fin 16 × Bool) : hexDigit d ≠ c := by
  intro heq
  have hvalue := hexValue?_hexDigit d
  rw [heq, h] at hvalue
  cases hvalue

theorem basicLength_spelling {c : Char} {unit : List Char} (h : Spelling c unit)
    (cs : List Char) : basicLength (unit ++ cs) = basicLength cs + unit.length := by
  cases h with
  | plain hquote hback hcontrol =>
    refine basicLength_run ?_ cs
    simp only [List.mem_singleton, forall_eq]
    refine ⟨hquote, hback, ?_⟩
    rintro rfl
    exact hcontrol (by decide)
  | @short letter _ hmem =>
    by_cases hback : letter = '\\'
    · subst hback
      rfl
    by_cases hquote : letter = '"'
    · subst hquote
      rfl
    have hline : letter ≠ '\n' := by
      have hall : ∀ e ∈ shortEscapes, e.1 ≠ '\n' := by decide
      exact hall _ hmem
    exact basicLength_backslash hquote hback hline cs
  | @code letter _ digits hmem hvalue =>
    have hletter : letter ≠ '"' ∧ letter ≠ '\\' ∧ letter ≠ '\n' := by
      have hall : ∀ e ∈ codeEscapes, e.1 ≠ '"' ∧ e.1 ≠ '\\' ∧ e.1 ≠ '\n' := by decide
      exact hall _ hmem
    have hrun : ∀ d ∈ digits.map hexDigit, d ≠ '"' ∧ d ≠ '\\' ∧ d ≠ '\n' := by
      intro d hd
      obtain ⟨value, -, rfl⟩ := List.mem_map.1 hd
      exact ⟨hexDigit_ne rfl value, hexDigit_ne rfl value, hexDigit_ne rfl value⟩
    rw [List.cons_append, List.cons_append,
      basicLength_backslash hletter.1 hletter.2.1 hletter.2.2, basicLength_run hrun]
    simp only [List.length_cons]
    omega

/-- **A spelling hides its quotes**: the string ends at the quote behind it. -/
theorem basicLength_spelled {text body : List Char} (h : Spelled text body) (cs : List Char) :
    basicLength (body ++ '"' :: cs) = body.length + 1 := by
  induction h with
  | nil => simp [basicLength]
  | @cons c text unit body hunit _ ih =>
    rw [List.append_assoc, basicLength_spelling hunit, ih, List.length_append]
    omega

end Token

/-! ## Pieces -/

/-- The characters of a key without quotes. -/
def IsBare (c : Char) : Prop := c.isAlphanum = true ∨ c = '-' ∨ c = '_'

instance (c : Char) : Decidable (IsBare c) := inferInstanceAs (Decidable (_ ∨ _))

/-- The ways to write a key: without quotes, or as a string of one line. -/
inductive KeyText : List Char → List Char → Prop
  | bare {name : List Char} : name ≠ [] → (∀ c ∈ name, IsBare c) → KeyText name name
  | basic {name body : List Char} : Spelled name body → KeyText name ('"' :: (body ++ ['"']))
  | literal {name : List Char} : (∀ c ∈ name, c ≠ '\'' ∧ ¬ IsControl c) →
      KeyText name ('\'' :: (name ++ ['\'']))

theorem exists_keyText (name : List Char) : ∃ text, KeyText name text := by
  obtain ⟨body, hbody⟩ := exists_spelled name
  exact ⟨_, .basic hbody⟩

namespace Piece

theorem body_quoted {p : Piece} {quote : Char} {content : List Char}
    (h : p.text = quote :: (content ++ [quote])) (form : StringForm) :
    p.body form [quote] = .ok (p.start + 1, content) := by
  have hsuffix : [quote].isSuffixOf (content ++ [quote]) = true := by
    rw [List.isSuffixOf_iff_suffix]
    exact List.suffix_append content [quote]
  simp [body, dropEnd?, h, hsuffix]

theorem string_spelled {p : Piece} {text body : List Char} (h : Spelled text body)
    (hp : p.text = '"' :: (body ++ ['"'])) : p.string .basic = .ok text := by
  simp only [string, body_quoted hp]
  exact basicText_spelled h (Nat.lt_succ_self _) (p.start + 1)

theorem checkLiteral_eq_ok {content : List Char} (h : ∀ c ∈ content, ¬ IsControl c) (here : Nat) :
    checkLiteral here content = .ok () := by
  induction content generalizing here with
  | nil => rfl
  | cons c content ih =>
    obtain ⟨hc, hcontent⟩ := List.forall_mem_cons.1 h
    rw [checkLiteral, if_pos (isVisible_iff.2 hc)]
    exact ih hcontent _

theorem checkBareKey_eq_ok {name : List Char} (h : ∀ c ∈ name, isKeyCharacter c = true)
    (here : Nat) : checkBareKey here name = .ok () := by
  induction name generalizing here with
  | nil => rfl
  | cons c name ih =>
    obtain ⟨hc, hname⟩ := List.forall_mem_cons.1 h
    rw [checkBareKey, if_pos hc]
    exact ih hname _

/-- **A string in a piece is the text that it spells.** -/
theorem scalar_spelled {p : Piece} {text body : List Char} (h : Spelled text body)
    (hp : p.text = '"' :: (body ++ ['"'])) (hform : p.form? = some .basic) :
    p.scalar = .ok (.string text) := by
  simp only [scalar, hform, string_spelled h hp]
  rfl

end Piece

/-- The form of a string that a key is written as. -/
def keyForm? : List Char → Option StringForm
  | '"' :: _ => some .basic
  | '\'' :: _ => some .literal
  | _ => none

theorem keyForm?_bare {name : List Char} (h : ∀ c ∈ name, IsBare c) : keyForm? name = none := by
  cases name with
  | nil => rfl
  | cons c name =>
    have hc := h c List.mem_cons_self
    rw [keyForm?]
    · rintro _ heq
      cases heq
      exact absurd hc (by decide)
    · rintro _ heq
      cases heq
      exact absurd hc (by decide)

/-- **A key in a piece is the name that it writes.** -/
theorem KeyText.key_eq {name text : List Char} (h : KeyText name text) {p : Piece}
    (hp : p.text = text) (hform : p.form? = keyForm? text) : p.key = .ok name := by
  cases h with
  | bare hne hall =>
    have hcharacters : ∀ c ∈ name, Piece.isKeyCharacter c = true := by
      intro c hc
      simpa [Piece.isKeyCharacter, IsBare, or_assoc] using hall c hc
    have hempty : name.isEmpty = false := by simpa using hne
    simp only [Piece.key, hform, keyForm?_bare hall, hp, hempty,
      Piece.checkBareKey_eq_ok hcharacters]
    rfl
  | basic hbody =>
    simp only [Piece.key, hform, keyForm?]
    exact Piece.string_spelled hbody hp
  | literal hall =>
    have hcontrol : ∀ c ∈ name, ¬ IsControl c := fun c hc => (hall c hc).2
    simp only [Piece.key, hform, keyForm?, Piece.string, Piece.body_quoted hp]
    show (do checkLiteral (p.start + 1) name; pure name) = Except.ok name
    rw [Piece.checkLiteral_eq_ok hcontrol]
    rfl

end JavaNaming.Toml
