import JavaNaming.Proofs.Toml.Tokens
import Mathlib.Data.List.Forall2

/-!
# Lines as they are written

`StringLines` says which texts are lines that set keys to strings: any number of blanks may stand
between the parts of a line, and a line ends with a line feed, with a carriage return in front of it or
not, or with the document. Reading such lines gives one entry for each of them. Where a key is followed
by any other text, reading may fail, but it never gives lines without that key in their place.

* `readEntry_setting`, `readHeader_table`: a line that sets a key to a string, and the header of a table.
* `readEntry_foreign`, `readHeader_foreign`: a line that starts with a key, whatever follows.
* `Line.read_stringLines`: the lines are read one by one, with any text behind them.
* `Line.read_foreignEntry`, `Line.read_foreignHeader`: reading goes on with the line of the key.
-/

namespace JavaNaming.Toml

/-! ## Keys -/

/-- The kinds of the tokens that keys are. -/
def TokenKind.IsKey (kind : TokenKind) : Prop := kind = .atom ∨ ∃ form, kind = .string form

theorem isKey_keyKind (text : List Char) : (Token.keyKind text).IsKey := by
  unfold Token.keyKind
  cases keyForm? text with
  | none => exact .inl rfl
  | some form => exact .inr ⟨form, rfl⟩

theorem KeyText.key_ofToken {name text : List Char} (h : KeyText name text) (start : Nat) :
    (Piece.ofToken ⟨Token.keyKind text, start, text⟩).key = .ok name := by
  refine h.key_eq ?_ ?_
  · unfold Piece.ofToken Token.keyKind
    cases keyForm? text <;> rfl
  · unfold Piece.ofToken Token.keyKind
    cases keyForm? text <;> rfl

theorem readPart_extends (fuel : Nat) (r : Rest) (seen : List Piece) :
    ∃ more, (readPart fuel r seen).1 = more ++ seen := by
  induction fuel generalizing r seen with
  | zero => exact ⟨[], rfl⟩
  | succ fuel ih =>
    unfold readPart
    split
    · exact ih r.next seen
    · obtain ⟨more, hmore⟩ := ih r.next (.missing r.head.start :: seen)
      exact ⟨more ++ [.missing r.head.start], by rw [hmore, List.append_assoc]; rfl⟩
    · exact ⟨[.ofToken r.head], rfl⟩
    · exact ⟨[.ofToken r.head], rfl⟩
    · exact ⟨[.missing r.head.start], rfl⟩

theorem readDotted_extends (fuel : Nat) (r : Rest) (seen : List Piece) :
    ∃ more, (readDotted fuel r seen).1 = more ++ seen := by
  induction fuel generalizing r seen with
  | zero => exact ⟨[], rfl⟩
  | succ fuel ih =>
    unfold readDotted
    split
    · obtain ⟨more, hmore⟩ := readPart_extends fuel r.skipBlank.next seen
      split
      · next seen' r' hpart =>
        obtain ⟨more', hmore'⟩ := ih r' seen'
        have hseen : seen' = more ++ seen := by rw [← hmore, hpart]
        exact ⟨more' ++ more, by rw [hmore', hseen, List.append_assoc]⟩
      · exact ⟨more, hmore⟩
    · exact ⟨[], rfl⟩

theorem readPart_key {r : Rest} (h : r.head.kind.IsKey) (fuel : Nat) (seen : List Piece) :
    readPart (fuel + 1) r seen = (.ofToken r.head :: seen, true, r.next) := by
  rcases h with h | ⟨form, h⟩ <;> simp only [readPart, h]

/-- A key that starts with a part starts with that part, whatever follows. -/
theorem readKey_key {r : Rest} (h : r.head.kind.IsKey) :
    ∃ more found r', readKey r = (.ofToken r.head :: more, found, r') := by
  obtain ⟨more, hmore⟩ := readDotted_extends (r.tokens.length + 1) r.next [.ofToken r.head]
  rcases hdotted : readDotted (r.tokens.length + 1) r.next [.ofToken r.head] with ⟨seen, found, r'⟩
  have hseen : seen = more ++ [.ofToken r.head] := by rw [← hmore, hdotted]
  refine ⟨more.reverse, found, r', ?_⟩
  simp only [readKey, readPart_key h, hdotted, hseen, List.reverse_append]
  rfl

theorem readKey_single {r : Rest} (h : r.head.kind.IsKey)
    (hdot : r.next.skipBlank.head.kind ≠ .dot) :
    readKey r = ([.ofToken r.head], true, r.next.skipBlank) := by
  simp only [readKey, readPart_key h, readDotted, if_neg hdot]
  rfl

theorem KeyText.noBlank {name key : List Char} (h : KeyText name key) (rest : List Char) :
    NoBlank (key ++ rest) := by
  cases h with
  | bare hne hall =>
    obtain ⟨c, cs, rfl⟩ := List.exists_cons_of_ne_nil hne
    have hc := Token.isSpecial_of_isBare (hall c List.mem_cons_self)
    exact noBlank_cons (Token.isBlank_eq_false hc) (cs ++ rest)
  | basic _ => exact noBlank_cons rfl _
  | literal _ => exact noBlank_cons rfl _

/-- The next token is a key if the text goes on with one. -/
theorem Rest.StandsAt.key {r : Rest} {name key rest : List Char} (h : r.StandsAt (key ++ rest))
    (hkey : KeyText name key) (hrest : EndsKey rest) :
    r.head.kind.IsKey ∧ (Piece.ofToken r.head).key = .ok name ∧ r.next.StandsAt rest ∧
      r.next.tokens.length < r.tokens.length := by
  obtain ⟨start, hhead, hnext, hless⟩ := h.leads (Token.leads_key hkey hrest)
  rw [hhead]
  exact ⟨isKey_keyKind key, hkey.key_ofToken start, hnext, hless⟩

/-- A key of one part is read up to the character that ends it. -/
theorem readKey_ended {r : Rest} {name key blanks rest : List Char} {c : Char} {kind : TokenKind}
    (h : r.StandsAt (key ++ (blanks ++ c :: rest))) (hkey : KeyText name key)
    (hblanks : Blanks blanks) (hc : c ∈ ['=', ']']) (hkind : Token.single? c = some kind) :
    ∃ p r', readKey r = ([p], true, r') ∧ p.key = .ok name ∧ r'.skipBlank = r' ∧
      r'.head.kind = kind ∧ r'.next.StandsAt rest ∧ r'.next.tokens.length < r.tokens.length := by
  obtain ⟨hisKey, hname, hnext, hless⟩ := h.key hkey (endsKey_append hblanks hc rest)
  have hblank : Token.isBlank c = false ∧ kind ≠ .dot ∧ kind ≠ .blank := by
    simp only [List.mem_cons, List.not_mem_nil, or_false] at hc
    rcases hc with rfl | rfl <;> cases hkind <;> exact ⟨rfl, by simp, by simp⟩
  obtain ⟨hskip, hless₁⟩ := hnext.skipBlank hblanks (noBlank_cons hblank.1 rest)
  obtain ⟨start, hhead, hnext₁, hless₂⟩ := hskip.leads (Token.leads_single hkind rest)
  refine ⟨_, r.next.skipBlank, readKey_single hisKey ?_, hname, ?_, by rw [hhead], hnext₁, by omega⟩
  · rw [hhead]
    exact hblank.2.1
  · rw [Rest.skipBlank, if_neg (by rw [hhead]; exact hblank.2.2)]

/-! ## Ends of lines -/

theorem endLine_newline {r : Rest} {piece rest : List Char}
    (h : r.skipBlank.StandsAt (piece ++ rest)) (hleads : Token.Leads .newline piece rest)
    (hpiece : piece ≠ ['\r']) : endLine r = .ok r.skipBlank.next := by
  obtain ⟨start, hhead, -⟩ := h.leads hleads
  simp [endLine, hhead, checkFiller, hpiece, bind, Except.bind, pure, Except.pure]

theorem endLine_of_lineEnd {r : Rest} {text rest : List Char} (h : r.StandsAt text)
    (hend : LineEnd text rest) :
    ∃ r', endLine r = .ok r' ∧ r'.StandsAt rest ∧ r'.tokens.length ≤ r.tokens.length := by
  cases hend with
  | lineFeed hblanks =>
    obtain ⟨hskip, hlength⟩ := h.skipBlank hblanks (noBlank_cons rfl rest)
    obtain ⟨-, -, hnext, hless⟩ := hskip.leads (Token.leads_lineFeed rest)
    exact ⟨r.skipBlank.next, endLine_newline hskip (Token.leads_lineFeed rest) (by simp), hnext, by omega⟩
  | carriageReturn hblanks =>
    obtain ⟨hskip, hlength⟩ := h.skipBlank hblanks (noBlank_cons rfl ('\n' :: rest))
    obtain ⟨-, -, hnext, hless⟩ := hskip.leads (Token.leads_carriageReturn rest)
    exact ⟨r.skipBlank.next, endLine_newline hskip (Token.leads_carriageReturn rest) (by simp), hnext, by omega⟩
  | document hblanks =>
    rw [← List.append_nil text] at h
    obtain ⟨hskip, hlength⟩ := h.skipBlank hblanks (by simp [NoBlank])
    obtain ⟨start, hhead⟩ := hskip.nil
    refine ⟨r.skipBlank, ?_, hskip, hlength⟩
    simp [endLine, hhead, checkFiller, bind, Except.bind, pure, Except.pure]

/-! ## Entries -/

/-- The line sets a key to a string. -/
def Line.Sets (setting : String × String) (line : Line) : Prop :=
  ∃ p q, line = .entry [p] (.scalar q) ∧ p.key = .ok setting.1.toList ∧
    q.scalar = .ok (.string setting.2.toList)

theorem readValue_basic {r : Rest} (h : r.head.kind = .string .basic) (fuel depth : Nat) :
    readValue (fuel + 1) depth r = .ok (.scalar (.ofToken r.head), r.next) := by
  rw [readValue]
  simp only [h, readScalar]

theorem readEntry_key {r : Rest} (h : r.head.kind.IsKey) :
    readEntry r =
      if (readKey r).2.2.skipBlank.head.kind ≠ .equals then
        .error (.before (if r.head.kind = .dot then .missingValue else .keyWithoutValue)
          (readKey r).2.2.skipBlank.head.start)
      else do
        let v ← readValue (2 * (readKey r).2.2.skipBlank.tokens.length + 2) 0
          (readKey r).2.2.skipBlank.next.skipBlank
        return (.entry (readKey r).1 v.1, ← endLine v.2) := by
  have hbare : r.head.kind ≠ .equals := by
    rcases h with h | ⟨form, h⟩ <;> rw [h] <;> simp
  simp only [readEntry, hbare, decide_false, Bool.false_eq_true, if_false, decide_eq_true_eq]
  split <;> rfl

theorem readEntry_setting {name value : String}
    {r : Rest} {key before after body ending rest : List Char}
    (h : r.StandsAt (key ++ (before ++ '=' :: (after ++ ('"' :: (body ++ ['"']) ++ ending)))))
    (hkey : KeyText name.toList key) (hbody : Spelled value.toList body) (hbefore : Blanks before)
    (hafter : Blanks after) (hend : LineEnd ending rest) :
    ∃ line r', readEntry r = .ok (line, r') ∧ Line.Sets (name, value) line ∧ r'.StandsAt rest ∧
      r'.tokens.length < r.tokens.length := by
  obtain ⟨p, r₁, hkeys, hname, hsame, hequals, hnext, hless⟩ :=
    readKey_ended h hkey hbefore (by decide) rfl
  obtain ⟨hvalue, hless₁⟩ := hnext.skipBlank hafter (noBlank_cons rfl _)
  obtain ⟨start, hhead, hnext₁, hless₂⟩ := hvalue.leads (Token.leads_basic hbody hend.head?_ne)
  obtain ⟨r', hread, hrest, hless₃⟩ := endLine_of_lineEnd hnext₁ hend
  refine ⟨_, r', ?_, ⟨p, .ofToken r₁.next.skipBlank.head, rfl, hname, ?_⟩, hrest, by omega⟩
  · rw [readEntry_key (h.key hkey (endsKey_append hbefore (by decide) _)).1, hkeys]
    dsimp only
    rw [hsame, if_neg (by rw [hequals]; simp), readValue_basic (by rw [hhead])]
    simp only [bind, Except.bind, hread]
    rfl
  · rw [hhead]
    exact Piece.scalar_spelled hbody rfl rfl

/-- An entry that starts with a key has that key, whatever follows. -/
theorem readEntry_foreign {r r' : Rest} {line : Line} (h : r.head.kind.IsKey)
    (hread : readEntry r = .ok (line, r')) :
    ∃ more value, line = .entry (.ofToken r.head :: more) value := by
  obtain ⟨more, found, rest, hkey⟩ := readKey_key h
  rw [readEntry_key h, hkey] at hread
  split at hread
  · cases hread
  · obtain ⟨v, -, hread⟩ := bind_eq_ok hread
    obtain ⟨rest', -, hread⟩ := bind_eq_ok hread
    cases hread
    exact ⟨more, v.1, rfl⟩

/-! ## Headers -/

/-- The brackets that a header starts with. -/
def opening (ofArray : Bool) : List Char := if ofArray then ['[', '['] else ['[']

/-- The line of a header. -/
def Line.header (ofArray : Bool) (range : Text.Range) (keys : List Piece) : Line :=
  if ofArray then .arrayTable range keys else .table range keys

/-- Before a key stand no bracket and, where blanks are skipped, nothing else. -/
theorem Rest.StandsAt.skipToKey {r : Rest} {name key before rest : List Char}
    (h : r.StandsAt (before ++ (key ++ rest))) (hkey : KeyText name key)
    (hbefore : Blanks before) (hrest : EndsKey rest) :
    r.head.kind ≠ .openBracket ∧ r.skipBlank.tokens.length ≤ r.tokens.length ∧
      r.skipBlank.StandsAt (key ++ rest) := by
  obtain ⟨hskip, hlength⟩ := h.skipBlank hbefore (hkey.noBlank rest)
  refine ⟨?_, hlength, hskip⟩
  cases before with
  | nil =>
    have hstands : r.StandsAt (key ++ rest) := h
    obtain ⟨start, hhead, -⟩ := hstands.leads (Token.leads_key hkey hrest)
    rw [hhead]
    rcases isKey_keyKind key with hkind | ⟨form, hkind⟩ <;> simp [hkind]
  | cons c before =>
    obtain ⟨start, hhead, -⟩ := h.leads (Token.leads_blank hbefore (hkey.noBlank rest))
    rw [hhead]
    simp

/-- The tokens from the key of a header on. -/
def Rest.headerKey (r : Rest) (ofArray : Bool) : Rest :=
  (if ofArray then r.next.next else r.next).skipBlank

theorem Rest.StandsAt.headerKey {r : Rest} {ofArray : Bool} {name key before rest : List Char}
    (h : r.StandsAt (opening ofArray ++ (before ++ (key ++ rest)))) (hkey : KeyText name key)
    (hbefore : Blanks before) (hrest : EndsKey rest) :
    r.head.kind = .openBracket ∧ decide (r.next.head.kind = .openBracket) = ofArray ∧
      (r.headerKey ofArray).tokens.length < r.tokens.length ∧
      (r.headerKey ofArray).StandsAt (key ++ rest) := by
  cases ofArray with
  | false =>
    obtain ⟨start, hhead, hnext, hless⟩ := StandsAt.leads h (Token.leads_single rfl _)
    obtain ⟨hkind, hless', hstands⟩ := hnext.skipToKey hkey hbefore hrest
    refine ⟨by rw [hhead], decide_eq_false hkind, ?_, hstands⟩
    exact Nat.lt_of_le_of_lt hless' hless
  | true =>
    have hfirst : r.StandsAt (['['] ++ ('[' :: (before ++ (key ++ rest)))) := h
    obtain ⟨start, hhead, hnext, hless⟩ := hfirst.leads (Token.leads_single rfl _)
    obtain ⟨start', hhead', hnext', hless'⟩ :=
      StandsAt.leads hnext (Token.leads_single rfl _)
    obtain ⟨-, hless'', hstands⟩ := hnext'.skipToKey hkey hbefore hrest
    refine ⟨by rw [hhead], decide_eq_true (by rw [hhead']), ?_, hstands⟩
    exact Nat.lt_of_le_of_lt hless'' (Nat.lt_trans hless' hless)

theorem readHeader_eq {r : Rest} {ofArray : Bool}
    (h : decide (r.next.head.kind = .openBracket) = ofArray) :
    readHeader r =
      let k := readKey (r.headerKey ofArray)
      let header := fun stop : Nat => Line.header ofArray (Text.Range.upTo r.head.start stop) k.1
      let rest := k.2.2.skipBlank
      if rest.head.kind = .closeBracket then
        if !ofArray then do return (header rest.next.solidStop, ← endLine rest.next)
        else if rest.next.head.kind = .closeBracket then do
          return (header rest.next.next.solidStop, ← endLine rest.next.next)
        else .error (.before (.unclosedArrayTable "]") rest.next.solidStop)
      else if k.2.1 then
        .error (.before (if ofArray then .unclosedArrayTable "]]" else .unclosedTable)
          rest.solidStop)
      else .ok (header rest.solidStop, rest.skipLine) := by
  subst h
  rfl

theorem readHeader_table {name : List Char} {r : Rest} {key before after ending rest : List Char}
    (h : r.StandsAt (opening false ++ (before ++ (key ++ (after ++ ']' :: ending)))))
    (hkey : KeyText name key) (hbefore : Blanks before) (hafter : Blanks after)
    (hend : LineEnd ending rest) :
    ∃ range p r', readHeader r = .ok (.table range [p], r') ∧ p.key = .ok name ∧
      r'.StandsAt rest ∧ r'.tokens.length < r.tokens.length := by
  have hrest := endsKey_append hafter (by decide : ']' ∈ ['=', ']']) ending
  obtain ⟨-, harray, hless, hstands⟩ := h.headerKey hkey hbefore hrest
  obtain ⟨p, r₁, hkeys, hname, hsame, hclose, hnext, hless₁⟩ :=
    readKey_ended hstands hkey hafter (by decide) rfl
  obtain ⟨r', hread, hstands', hless₂⟩ := endLine_of_lineEnd hnext hend
  have hshape : ∃ range, readHeader r = .ok (.table range [p], r') := by
    rw [readHeader_eq harray, hkeys]
    dsimp only
    rw [hsame, if_pos hclose]
    simp only [Bool.not_false, if_true, hread]
    exact ⟨_, rfl⟩
  obtain ⟨range, hheader⟩ := hshape
  exact ⟨range, p, r', hheader, hname, hstands', by omega⟩

/-- A header that starts with a key has that key, whatever follows. -/
theorem readHeader_foreign {r r' : Rest} {line : Line} {ofArray : Bool}
    (harray : decide (r.next.head.kind = .openBracket) = ofArray)
    (h : (r.headerKey ofArray).head.kind.IsKey) (hread : readHeader r = .ok (line, r')) :
    ∃ range more, line = .header ofArray range (.ofToken (r.headerKey ofArray).head :: more) := by
  obtain ⟨more, found, rest, hkey⟩ := readKey_key h
  rw [readHeader_eq harray, hkey] at hread
  dsimp only at hread
  split at hread
  · split at hread
    · obtain ⟨rest', -, hread⟩ := bind_eq_ok hread
      cases hread
      exact ⟨_, more, rfl⟩
    · split at hread
      · obtain ⟨rest', -, hread⟩ := bind_eq_ok hread
        cases hread
        exact ⟨_, more, rfl⟩
      · cases hread
  · split at hread
    · cases hread
    · cases hread
      exact ⟨_, more, rfl⟩

/-! ## Lines -/

/-- The first text starts with lines that set keys to strings, one after the other, and the second one
is what comes after them. -/
inductive StringLines : List (String × String) → List Char → List Char → Prop
  | nil {rest : List Char} : StringLines [] rest rest
  | cons {name value : String} {settings : List (String × String)}
      {indent key before after body ending middle rest : List Char} :
      Blanks indent → KeyText name.toList key → Blanks before → Blanks after →
      Spelled value.toList body → LineEnd ending middle → StringLines settings middle rest →
      StringLines ((name, value) :: settings)
        (indent ++ (key ++ (before ++ '=' :: (after ++ ('"' :: (body ++ ['"']) ++ ending))))) rest

/-- Settings can be written in any order. -/
theorem exists_stringLines (settings : List (String × String)) (rest : List Char) :
    ∃ text, StringLines settings text rest := by
  induction settings with
  | nil => exact ⟨rest, .nil⟩
  | cons setting settings ih =>
    obtain ⟨text, htext⟩ := ih
    obtain ⟨key, hkey⟩ := exists_keyText setting.1.toList
    obtain ⟨body, hbody⟩ := exists_spelled setting.2.toList
    have hblanks : Blanks [] := by simp [Blanks]
    exact ⟨_, .cons hblanks hkey hblanks hblanks hbody (.lineFeed hblanks) htext⟩

namespace Line

/-- Lines that were read stay. -/
theorem read_extends {fuel : Nat} {r : Rest} {lines all : List Line}
    (h : read fuel r lines = .ok all) : ∃ more, all = lines.reverse ++ more := by
  induction fuel generalizing r lines with
  | zero =>
    cases h
    exact ⟨[], by simp⟩
  | succ fuel ih =>
    have hstep : ∀ {line : Line} {r : Rest}, read fuel r (line :: lines) = .ok all →
        ∃ more, all = lines.reverse ++ more := by
      intro line r h
      obtain ⟨more, rfl⟩ := ih h
      exact ⟨line :: more, by simp⟩
    rw [read] at h
    obtain ⟨_, -, h⟩ := bind_eq_ok h
    split at h
    · cases h
      exact ⟨[], by simp⟩
    · exact ih h
    · exact ih h
    · exact ih h
    · cases h
    · cases h
    · cases h
    · cases h
    · obtain ⟨_, -, h⟩ := bind_eq_ok h
      exact hstep h
    · obtain ⟨_, -, h⟩ := bind_eq_ok h
      exact hstep h

theorem read_eof {r : Rest} (h : r.StandsAt []) {fuel : Nat} (hfuel : 0 < fuel)
    (lines : List Line) : read fuel r lines = .ok lines.reverse := by
  obtain ⟨fuel, rfl⟩ : ∃ n, fuel = n + 1 := ⟨fuel - 1, by omega⟩
  obtain ⟨start, hhead⟩ := h.nil
  simp [read, hhead, checkFiller, bind, Except.bind, pure, Except.pure]

theorem read_entry {r : Rest} (h : r.head.kind.IsKey) (fuel : Nat) (lines : List Line) :
    read (fuel + 1) r lines = readEntry r >>= fun v => read fuel v.2 (v.1 :: lines) := by
  rcases h with h | ⟨form, h⟩ <;> simp only [read, checkFiller, h] <;> rfl

theorem read_header {r : Rest} (h : r.head.kind = .openBracket) (fuel : Nat) (lines : List Line) :
    read (fuel + 1) r lines = readHeader r >>= fun v => read fuel v.2 (v.1 :: lines) := by
  simp only [read, checkFiller, h]
  rfl

/-- Blanks in front of a line are passed. -/
theorem read_indent {r : Rest} {blanks rest : List Char} (h : r.StandsAt (blanks ++ rest))
    (hblanks : Blanks blanks) (hrest : NoBlank rest) {fuel : Nat}
    (hfuel : r.tokens.length < fuel) (lines : List Line) :
    ∃ r' fuel', r'.StandsAt rest ∧ r'.tokens.length < fuel' ∧
      read fuel r lines = read fuel' r' lines := by
  cases blanks with
  | nil => exact ⟨r, fuel, h, hfuel, rfl⟩
  | cons c blanks =>
    obtain ⟨fuel, rfl⟩ : ∃ n, fuel = n + 1 := ⟨fuel - 1, by omega⟩
    obtain ⟨start, hhead, hnext, hless⟩ := h.leads (Token.leads_blank hblanks hrest)
    refine ⟨r.next, fuel, hnext, by omega, ?_⟩
    rw [read]
    simp only [hhead, checkFiller]
    rfl

/-- **Lines that set keys to strings are read one by one**, and reading goes on behind them. -/
theorem read_stringLines {settings : List (String × String)} {text rest : List Char}
    (h : StringLines settings text rest) {r : Rest} (hr : r.StandsAt text) {fuel : Nat}
    (hfuel : r.tokens.length < fuel) (lines : List Line) :
    ∃ more r' fuel', List.Forall₂ Sets settings more ∧
      r'.StandsAt rest ∧ r'.tokens.length < fuel' ∧
      read fuel r lines = read fuel' r' (more.reverse ++ lines) := by
  induction h generalizing r fuel lines with
  | nil => exact ⟨[], r, fuel, .nil, hr, hfuel, rfl⟩
  | @cons name value settings indent key before after body ending middle rest hindent hkey hbefore
      hafter hbody hend _ ih =>
    obtain ⟨r₁, fuel₁, hr₁, hfuel₁, hread₁⟩ := read_indent hr hindent (hkey.noBlank _) hfuel lines
    obtain ⟨hisKey, -⟩ := hr₁.key hkey (endsKey_append hbefore (by decide) _)
    obtain ⟨line, r₂, hentry, hsets, hr₂, hless⟩ :=
      readEntry_setting hr₁ hkey hbody hbefore hafter hend
    obtain ⟨fuel₂, rfl⟩ : ∃ n, fuel₁ = n + 1 := ⟨fuel₁ - 1, by omega⟩
    obtain ⟨more, r', fuel', hmore, hr', hfuel', hread⟩ :=
      ih hr₂ (by omega : r₂.tokens.length < fuel₂) (line :: lines)
    refine ⟨line :: more, r', fuel', .cons hsets hmore, hr', hfuel', ?_⟩
    rw [hread₁, read_entry hisKey, hentry]
    refine Eq.trans hread ?_
    rw [List.reverse_cons, List.append_assoc]
    rfl

/-- **An entry with a key is read as one**, whatever follows the key. -/
theorem read_foreignEntry {name key indent rest : List Char} (hkey : KeyText name key)
    (hindent : Blanks indent) (hrest : EndsKey rest) {r : Rest}
    (hr : r.StandsAt (indent ++ (key ++ rest))) {fuel : Nat} (hfuel : r.tokens.length < fuel)
    {lines all : List Line} (h : read fuel r lines = .ok all) :
    ∃ p more value after, p.key = .ok name ∧
      all = lines.reverse ++ .entry (p :: more) value :: after := by
  obtain ⟨r₁, fuel₁, hr₁, hfuel₁, hread⟩ := read_indent hr hindent (hkey.noBlank rest) hfuel lines
  obtain ⟨hisKey, hname, -⟩ := hr₁.key hkey hrest
  obtain ⟨fuel₂, rfl⟩ : ∃ n, fuel₁ = n + 1 := ⟨fuel₁ - 1, by omega⟩
  rw [hread, read_entry hisKey] at h
  obtain ⟨v, hentry, h⟩ := bind_eq_ok h
  obtain ⟨more, value, hline⟩ := readEntry_foreign hisKey hentry
  obtain ⟨after, rfl⟩ := read_extends h
  refine ⟨_, more, value, after, hname, ?_⟩
  rw [hline, List.reverse_cons, List.append_assoc]
  rfl

/-- **A header with a key is read as one**, whatever follows the key. -/
theorem read_foreignHeader {ofArray : Bool} {name key indent before rest : List Char}
    (hkey : KeyText name key) (hindent : Blanks indent) (hbefore : Blanks before)
    (hrest : EndsKey rest) {r : Rest}
    (hr : r.StandsAt (indent ++ (opening ofArray ++ (before ++ (key ++ rest))))) {fuel : Nat}
    (hfuel : r.tokens.length < fuel) {lines all : List Line} (h : read fuel r lines = .ok all) :
    ∃ p more range after, p.key = .ok name ∧
      all = lines.reverse ++ header ofArray range (p :: more) :: after := by
  have hopening : NoBlank (opening ofArray ++ (before ++ (key ++ rest))) := by
    cases ofArray <;> exact noBlank_cons rfl _
  obtain ⟨r₁, fuel₁, hr₁, hfuel₁, hread⟩ := read_indent hr hindent hopening hfuel lines
  obtain ⟨hbracket, harray, -, hstands⟩ := hr₁.headerKey hkey hbefore hrest
  obtain ⟨hisKey, hname, -⟩ := hstands.key hkey hrest
  obtain ⟨fuel₂, rfl⟩ : ∃ n, fuel₁ = n + 1 := ⟨fuel₁ - 1, by omega⟩
  rw [hread, read_header hbracket] at h
  obtain ⟨v, hheader, h⟩ := bind_eq_ok h
  obtain ⟨range, more, hline⟩ := readHeader_foreign harray hisKey hheader
  obtain ⟨after, rfl⟩ := read_extends h
  refine ⟨_, more, range, after, hname, ?_⟩
  rw [hline, List.reverse_cons, List.append_assoc]
  rfl

end Line

end JavaNaming.Toml
