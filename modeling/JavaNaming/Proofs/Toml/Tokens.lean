import JavaNaming.Proofs.Result
import JavaNaming.Proofs.Text.Runs
import JavaNaming.Proofs.Toml.Spelling

/-!
# The tokens of a text

What stands between keys and values, and which token a text starts with. The tokens that are left while
a document is read were cut from a part of its text, and so that part says what they are.

* `Token.Leads`: the first token of a text, for keys, strings, blanks and ends of lines.
* `Rest.StandsAt`: the text that the tokens that are left were cut from. Where it starts in the document
  does not matter.
-/

namespace JavaNaming.Toml

open Text (byteLength)

/-! ## The text between keys and values -/

/-- Spaces and tabs. -/
def Blanks (text : List Char) : Prop := ∀ c ∈ text, c = ' ' ∨ c = '\t'

/-- The text goes on with something else than a blank, or ends. -/
def NoBlank (text : List Char) : Prop := ∀ c ∈ text.head?, Token.isBlank c = false

/-- The text goes on with a character that can stand behind a key. -/
def EndsKey (text : List Char) : Prop := ∃ c ∈ [' ', '\t', '.', '=', ']'], text.head? = some c

/-- The first text ends a line, and the second one is what comes after it. -/
inductive LineEnd : List Char → List Char → Prop
  | lineFeed {blanks rest : List Char} : Blanks blanks → LineEnd (blanks ++ '\n' :: rest) rest
  | carriageReturn {blanks rest : List Char} : Blanks blanks →
      LineEnd (blanks ++ '\r' :: '\n' :: rest) rest
  | document {blanks : List Char} : Blanks blanks → LineEnd blanks []

theorem Blanks.isBlank {blanks : List Char} (h : Blanks blanks) {c : Char} (hc : c ∈ blanks) :
    Token.isBlank c = true := by
  rcases h c hc with rfl | rfl <;> rfl

/-- Blanks in front of a text do not make it start with a character that is none. -/
theorem Blanks.head?_append_ne {blanks rest : List Char} (h : Blanks blanks) {c : Char}
    (hc : Token.isBlank c = false) (hrest : rest.head? ≠ some c) :
    (blanks ++ rest).head? ≠ some c := by
  cases blanks with
  | nil => exact hrest
  | cons d blanks =>
    intro hhead
    cases hhead
    exact absurd (h.isBlank List.mem_cons_self) (by rw [hc]; simp)

theorem LineEnd.head?_ne {text rest : List Char} (h : LineEnd text rest) :
    text.head? ≠ some '"' := by
  cases h with
  | lineFeed hblanks => exact hblanks.head?_append_ne rfl (by simp)
  | carriageReturn hblanks => exact hblanks.head?_append_ne rfl (by simp)
  | document hblanks => exact List.append_nil text ▸ hblanks.head?_append_ne rfl (by simp)

theorem noBlank_cons {c : Char} (h : Token.isBlank c = false) (cs : List Char) :
    NoBlank (c :: cs) := by
  intro d hd
  rw [List.head?_cons, Option.mem_some_iff] at hd
  exact hd ▸ h

theorem endsKey_append {blanks : List Char} (h : Blanks blanks) {c : Char} (hc : c ∈ ['=', ']'])
    (rest : List Char) : EndsKey (blanks ++ c :: rest) := by
  cases blanks with
  | nil => exact ⟨c, List.mem_of_mem_drop (i := 3) hc, rfl⟩
  | cons d blanks =>
    refine ⟨d, ?_, rfl⟩
    rcases h d List.mem_cons_self with rfl | rfl <;> decide

/-! ## The first token of a text -/

namespace Token

/-- The first token of `piece ++ rest` is `piece`. -/
def Leads (kind : TokenKind) (piece rest : List Char) : Prop :=
  ∃ c cs, piece = c :: cs ∧ first c (cs ++ rest) = (kind, piece.length)

theorem leads_single {c : Char} {kind : TokenKind} (h : single? c = some kind)
    (rest : List Char) : Leads kind [c] rest :=
  ⟨c, [], rfl, by simp [first, h]⟩

theorem leads_lineFeed (rest : List Char) : Leads .newline ['\n'] rest :=
  ⟨'\n', [], rfl, rfl⟩

theorem leads_carriageReturn (rest : List Char) : Leads .newline ['\r', '\n'] rest :=
  ⟨'\r', ['\n'], rfl, rfl⟩

theorem leads_blank {c : Char} {blanks rest : List Char} (h : Blanks (c :: blanks))
    (hrest : NoBlank rest) : Leads .blank (c :: blanks) rest := by
  have hrun : (blanks ++ rest).takeWhile isBlank = blanks :=
    Text.takeWhile_run (fun d hd => h.isBlank (List.mem_cons_of_mem c hd)) hrest
  have hfirst : first c (blanks ++ rest) =
      (.blank, 1 + ((blanks ++ rest).takeWhile isBlank).length) := by
    rcases h c List.mem_cons_self with rfl | rfl <;> rfl
  refine ⟨c, blanks, rfl, ?_⟩
  rw [hfirst, hrun, List.length_cons, Nat.add_comm]

/-- Only blanks start a token of blanks. -/
theorem first_ne_blank {c : Char} (h : isBlank c = false) (cs : List Char) :
    (first c cs).1 ≠ .blank := by
  have hsingle : ∀ kind, single? c = some kind → kind ≠ .blank := by
    intro kind hkind
    unfold single? at hkind
    split at hkind <;> cases hkind <;> simp
  unfold first
  rw [h]
  cases hc : single? c with
  | some kind => exact hsingle kind hc
  | none =>
    simp only [Bool.false_eq_true, if_false]
    repeat' split
    all_goals simp

theorem first_basic {cs : List Char} (h : ∀ rest, cs ≠ '"' :: '"' :: rest) :
    first '"' cs = (.string .basic, 1 + basicLength cs) := by
  have hsingle : single? '"' = none := rfl
  simp only [first, hsingle, isBlank, Char.reduceBEq, Bool.or_self, Bool.false_eq_true,
    Char.reduceEq, if_false, if_true]

theorem first_literal {cs : List Char} (h : ∀ rest, cs ≠ '\'' :: '\'' :: rest) :
    first '\'' cs = (.string .literal, 1 + literalLength cs) := by
  have hsingle : single? '\'' = none := rfl
  simp only [first, hsingle, isBlank, Char.reduceBEq, Bool.or_self, Bool.false_eq_true,
    Char.reduceEq, if_false, if_true]

/-- What stands between two quotes and in front of `rest` does not make a string of several lines. -/
theorem content_ne_quotes {quote : Char} {content rest : List Char}
    (hcontent : content.head? ≠ some quote) (hrest : rest.head? ≠ some quote) (more : List Char) :
    content ++ [quote] ++ rest ≠ quote :: quote :: more := by
  cases content with
  | nil =>
    rintro h
    rw [List.nil_append, List.singleton_append, List.cons_inj_right] at h
    exact hrest (by rw [h]; rfl)
  | cons c content =>
    rintro h
    exact hcontent (congrArg some (List.cons_eq_cons.1 h).1)

theorem leads_basic {text body rest : List Char} (h : Spelled text body)
    (hrest : rest.head? ≠ some '"') :
    Leads (.string .basic) ('"' :: (body ++ ['"'])) rest := by
  refine ⟨'"', body ++ ['"'], rfl, ?_⟩
  rw [first_basic (content_ne_quotes h.head?_ne hrest), List.append_assoc, List.singleton_append,
    basicLength_spelled h]
  simp [Nat.add_comm]

theorem literalLength_quoted {content : List Char} (h : ∀ c ∈ content, c ≠ '\'' ∧ ¬ IsControl c)
    (rest : List Char) : literalLength (content ++ '\'' :: rest) = content.length + 1 := by
  induction content with
  | nil => simp [literalLength]
  | cons c content ih =>
    obtain ⟨⟨hquote, hcontrol⟩, hcontent⟩ := List.forall_mem_cons.1 h
    have hline : c ≠ '\n' := by
      rintro rfl
      exact hcontrol (by decide)
    rw [List.cons_append, literalLength, if_neg hquote, if_neg hline, ih hcontent, List.length_cons]

theorem leads_literal {content rest : List Char} (h : ∀ c ∈ content, c ≠ '\'' ∧ ¬ IsControl c)
    (hrest : rest.head? ≠ some '\'') :
    Leads (.string .literal) ('\'' :: (content ++ ['\''])) rest := by
  have hcontent : content.head? ≠ some '\'' := by
    intro hhead
    exact (h _ (List.mem_of_mem_head? hhead)).1 rfl
  refine ⟨'\'', content ++ ['\''], rfl, ?_⟩
  rw [first_literal (content_ne_quotes hcontent hrest), List.append_assoc, List.singleton_append,
    literalLength_quoted h]
  simp [Nat.add_comm]

theorem isSpecial_of_isBare {c : Char} (h : IsBare c) : isSpecial c = false := by
  have hnot : ∀ d ∈ ['.', '=', ',', '[', ']', '\x7b', '\x7d', '#', ' ', '\t', '\r', '\n'],
      ¬ IsBare d := List.all_iff_forall_prop.1 (by decide)
  rw [isSpecial, List.contains_eq_mem, decide_eq_false_iff_not]
  exact fun hmem => hnot c hmem h

theorem single?_eq_none {c : Char} (h : isSpecial c = false) : single? c = none := by
  unfold single?
  split <;> first | rfl | exact absurd h (by decide)

theorem isBlank_eq_false {c : Char} (h : isSpecial c = false) : isBlank c = false := by
  cases hblank : isBlank c with
  | false => rfl
  | true =>
    rw [isBlank, Bool.or_eq_true, beq_iff_eq, beq_iff_eq] at hblank
    rcases hblank with rfl | rfl <;> exact absurd h (by decide)

theorem leads_bare {c : Char} {cs rest : List Char} (h : ∀ d ∈ c :: cs, IsBare d)
    (hrest : ∀ d ∈ rest.head?, isSpecial d = true) : Leads .atom (c :: cs) rest := by
  have hrun : (cs ++ rest).takeWhile (fun d => !isSpecial d) = cs := by
    refine Text.takeWhile_run (fun d hd => ?_) fun d hd => by rw [hrest d hd]; rfl
    rw [isSpecial_of_isBare (h d (List.mem_cons_of_mem c hd))]
    rfl
  have hnot : ∀ d ∈ ['#', '\n', '\r', '\'', '"'], c ≠ d := by
    rintro d hd rfl
    have hall : ∀ d ∈ ['#', '\n', '\r', '\'', '"'], ¬ IsBare d :=
      List.all_iff_forall_prop.1 (by decide)
    exact hall c hd (h c List.mem_cons_self)
  have hc := isSpecial_of_isBare (h c List.mem_cons_self)
  refine ⟨c, cs, rfl, ?_⟩
  simp only [first, single?_eq_none hc, isBlank_eq_false hc, Bool.false_eq_true, if_false,
    hnot '#' (by decide), hnot '\n' (by decide), hnot '\r' (by decide), hnot '\'' (by decide),
    hnot '"' (by decide), hrun, List.length_cons, Nat.add_comm]

/-- The kind of the token that a key is. -/
def keyKind (text : List Char) : TokenKind :=
  match keyForm? text with
  | some form => .string form
  | none => .atom

theorem leads_key {name text rest : List Char} (h : KeyText name text) (hrest : EndsKey rest) :
    Leads (keyKind text) text rest := by
  obtain ⟨d, hd, hhead⟩ := hrest
  cases h with
  | bare hne hall =>
    obtain ⟨c, cs, rfl⟩ := List.exists_cons_of_ne_nil hne
    rw [keyKind, keyForm?_bare hall]
    refine leads_bare hall fun d' hd' => ?_
    have hspecial : ∀ c ∈ [' ', '\t', '.', '=', ']'], isSpecial c = true :=
      List.all_eq_true.1 rfl
    rw [hhead, Option.mem_some_iff] at hd'
    exact hspecial d' (hd' ▸ hd)
  | basic hbody =>
    refine leads_basic hbody ?_
    rw [hhead]
    rintro heq
    cases heq
    exact absurd hd (by decide)
  | literal hall =>
    refine leads_literal hall ?_
    rw [hhead]
    rintro heq
    cases heq
    exact absurd hd (by decide)

/-! ## Cutting -/

/-- Cutting takes the first token and goes on with what is behind it. -/
theorem cut_of_leads {kind : TokenKind} {piece rest : List Char} (h : Leads kind piece rest)
    {fuel : Nat} (hfuel : (piece ++ rest).length ≤ fuel) (here : Nat) :
    ∃ fuel', rest.length ≤ fuel' ∧ cut fuel here (piece ++ rest) =
      ⟨kind, here, piece⟩ :: cut fuel' (here + byteLength piece) rest := by
  obtain ⟨c, cs, rfl, hfirst⟩ := h
  rw [List.length_append, List.length_cons] at hfuel
  obtain ⟨fuel, rfl⟩ : ∃ n, fuel = n + 1 := ⟨fuel - 1, by omega⟩
  refine ⟨fuel, by omega, ?_⟩
  rw [List.cons_append, cut, hfirst]
  simp [stop]

end Token

/-! ## The tokens that are left -/

namespace Rest

/-- The tokens that are left were cut from a text. -/
def StandsAt (r : Rest) (text : List Char) : Prop :=
  ∃ fuel here, text.length ≤ fuel ∧ r.tokens = Token.cut fuel here text

theorem StandsAt.leads {r : Rest} {kind : TokenKind} {piece rest : List Char}
    (h : r.StandsAt (piece ++ rest)) (hleads : Token.Leads kind piece rest) :
    ∃ start, r.head = ⟨kind, start, piece⟩ ∧ r.next.StandsAt rest ∧
      r.next.tokens.length < r.tokens.length := by
  obtain ⟨fuel, here, hfuel, htokens⟩ := h
  obtain ⟨fuel', hfuel', hcut⟩ := Token.cut_of_leads hleads hfuel here
  rw [hcut] at htokens
  refine ⟨here, ?_, ⟨fuel', here + byteLength piece, hfuel', ?_⟩, ?_⟩
  · rw [head, htokens]
    rfl
  · rw [next, htokens]
    rfl
  · rw [next, htokens]
    exact Nat.lt_succ_self _

theorem StandsAt.nil {r : Rest} (h : r.StandsAt []) : ∃ start, r.head = ⟨.eof, start, []⟩ := by
  obtain ⟨fuel, here, -, htokens⟩ := h
  refine ⟨here, ?_⟩
  rw [head, htokens]
  cases fuel <;> rfl

theorem StandsAt.kind_ne_blank {r : Rest} {text : List Char} (h : r.StandsAt text)
    (htext : NoBlank text) : r.head.kind ≠ .blank := by
  cases text with
  | nil =>
    obtain ⟨start, hhead⟩ := h.nil
    rw [hhead]
    simp
  | cons c cs =>
    obtain ⟨fuel, here, hfuel, htokens⟩ := h
    obtain ⟨fuel, rfl⟩ : ∃ n, fuel = n + 1 := ⟨fuel - 1, by rw [List.length_cons] at hfuel; omega⟩
    rw [head, htokens, Token.cut]
    exact Token.first_ne_blank (htext c rfl) cs

/-- Skipping blanks goes to the text behind them. -/
theorem StandsAt.skipBlank {r : Rest} {blanks rest : List Char} (h : r.StandsAt (blanks ++ rest))
    (hblanks : Blanks blanks) (hrest : NoBlank rest) :
    r.skipBlank.StandsAt rest ∧ r.skipBlank.tokens.length ≤ r.tokens.length := by
  cases blanks with
  | nil =>
    rw [Rest.skipBlank, if_neg (h.kind_ne_blank hrest)]
    exact ⟨h, Nat.le_refl _⟩
  | cons c blanks =>
    obtain ⟨start, hhead, hnext, hlength⟩ := h.leads (Token.leads_blank hblanks hrest)
    rw [Rest.skipBlank, if_pos (by rw [hhead])]
    exact ⟨hnext, Nat.le_of_lt hlength⟩

end Rest

end JavaNaming.Toml
