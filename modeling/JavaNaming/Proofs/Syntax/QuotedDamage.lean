import JavaNaming.Java.Source
import JavaNaming.Proofs.Text.Scan

/-!
# What a syntax error quotes

The error for a damaged node has a location, found in an index of the lines, and a reason, which quotes
the text of the node. The quoted text is cut at the end of its line and after some characters. Here the
two are shown to speak of the same place.

* `snippet_prefix_text`, `oneLine_snippet`, `prefix_snippet`: a snippet is the longest start of a text that
  stays in its line and is not too long.
* `quotes_snippet`: the snippet of a node stands in the source where the location leads.
* `oneLine_message`: an error is told in one line.
* `damageError_faithful`: all of this for every node whose range lies on boundaries between characters.
-/

namespace JavaNaming.Syntax

open Text (IsBoundary Location Range byteLength locate? slice?)

/-! ## Texts without line ends -/

/-- No character of the text ends a line. -/
def OneLine (text : List Char) : Prop := ∀ c ∈ text, c ≠ '\n' ∧ c ≠ '\r'

instance (text : List Char) : Decidable (OneLine text) := List.decidableBAll _ text

@[simp] theorem oneLine_append {a b : List Char} : OneLine (a ++ b) ↔ OneLine a ∧ OneLine b :=
  List.forall_mem_append

theorem oneLine_repr (n : Nat) : OneLine n.repr.toList := by
  intro c hc
  rw [Nat.repr_eq_ofList_toDigits, String.toList_ofList] at hc
  have hdigit : c.isDigit = true := Nat.isDigit_of_mem_toDigits (by decide) (by decide) hc
  constructor
  · rintro rfl
    exact absurd hdigit (by decide)
  · rintro rfl
    exact absurd hdigit (by decide)

/-! ## Snippets -/

theorem snippet_prefix_text (text : List Char) : snippet text <+: text :=
  (List.take_prefix _ _).trans (List.takeWhile_prefix _)

theorem oneLine_snippet (text : List Char) : OneLine (snippet text) := by
  intro c hc
  have hkept := List.all_eq_true.1 List.all_takeWhile c (List.mem_of_mem_take hc)
  simpa using hkept

theorem length_snippet_le (text : List Char) : (snippet text).length ≤ 24 :=
  List.length_take_le _ _

/-- A start of a text that stays in its line and is not too long is a start of the snippet. -/
theorem prefix_snippet {text y : List Char} (hy : y <+: text) (hline : OneLine y)
    (hlength : y.length ≤ 24) : y <+: snippet text := by
  obtain ⟨rest, rfl⟩ := hy
  refine List.prefix_take_iff.2 ⟨?_, hlength⟩
  rw [List.takeWhile_append_of_pos fun c hc => by simpa using hline c hc]
  exact List.prefix_append _ _

/-- The snippet is empty exactly if there is nothing to quote in the first line. -/
theorem snippet_eq_nil_iff {text : List Char} :
    snippet text = [] ↔ text = [] ∨ text.head? = some '\n' ∨ text.head? = some '\r' := by
  cases text with
  | nil => simp [snippet]
  | cons c cs =>
    by_cases hc : c = '\n' ∨ c = '\r'
    · rcases hc with rfl | rfl <;> simp [snippet]
    · simp only [not_or] at hc
      simp [snippet, snippetLength, hc]

/-! ## The place of a snippet -/

/-- A text that an error for a node could quote: it stands at the start of the node and within it, stays
in one line and has at most 24 characters. -/
structure Quotable (source : List Char) (t : Tree) (x : List Char) : Prop where
  inside : ∃ r : Range, r.start = t.range.start ∧ r.stop ≤ t.range.stop ∧ slice? source r = some x
  oneLine : OneLine x
  short : x.length ≤ 24

/-- What the text that is quoted by an error with a location says about the source. -/
structure Quotes (source : List Char) (t : Tree) (l : Location) (x : List Char) : Prop where
  /-- In the line of the location, the text follows the characters before the column. -/
  place : ∃ skipped rest, Text.fromLine? l.line source = some (skipped ++ (x ++ rest)) ∧
    l.column = skipped.length + 1
  quotable : Quotable source t x
  nonempty : 1 ≤ x.length
  longest : ∀ y, Quotable source t y → y.length ≤ x.length

section

variable {source : List Char} {t : Tree} {text : List Char}

/-- Between two boundaries there is a slice. -/
theorem exists_text? (hstart : IsBoundary source t.range.start)
    (hstop : IsBoundary source t.range.stop) : ∃ text, t.text? source = some text := by
  obtain ⟨a, b, rfl, ha⟩ := hstart
  obtain ⟨c, d, hsource, hc⟩ := hstop
  have hle : byteLength a ≤ byteLength c := by
    rw [ha, hc]
    exact t.range.start_le_stop
  obtain ⟨text, rfl, rfl⟩ := Text.append_eq_append_of_byteLength_le hsource hle
  refine ⟨text, Text.slice?_eq_some_iff.2 ⟨a, d, rfl, ha, ?_⟩⟩
  rw [Text.byteLength_append] at hc
  omega

/-- A start of the text of a node lies within the node. -/
theorem slice?_of_prefix_text (htext : t.text? source = some text) {x : List Char} (hx : x <+: text) :
    ∃ r : Range, r.start = t.range.start ∧ r.stop ≤ t.range.stop ∧ slice? source r = some x := by
  obtain ⟨before, after, rfl, hbefore, hlength⟩ := Text.slice?_eq_some_iff.1 htext
  obtain ⟨more, rfl⟩ := hx
  have hle := t.range.start_le_stop
  rw [Text.byteLength_append] at hlength
  refine ⟨⟨t.range.start, t.range.start + byteLength x, Nat.le_add_right _ _⟩, rfl, ?_, ?_⟩
  · show t.range.start + byteLength x ≤ t.range.stop
    omega
  · exact Text.slice?_eq_some_iff.2
      ⟨before, more ++ after, by simp, hbefore, (Nat.add_sub_cancel_left ..).symm⟩

/-- What lies within a node, from its start on, is a start of its text. -/
theorem prefix_of_slice? (htext : t.text? source = some text) {r : Range} {y : List Char}
    (hstart : r.start = t.range.start) (hstop : r.stop ≤ t.range.stop)
    (hy : slice? source r = some y) : y <+: text := by
  obtain ⟨before, after, rfl, hbefore, hlength⟩ := Text.slice?_eq_some_iff.1 htext
  obtain ⟨before', after', hsource, hbefore', hlength'⟩ := Text.slice?_eq_some_iff.1 hy
  obtain ⟨rfl, hrest⟩ := Text.append_inj_of_byteLength_eq hsource
    (by rw [hbefore, hbefore', hstart])
  obtain ⟨more, rfl, -⟩ := Text.append_eq_append_of_byteLength_le hrest.symm (by omega)
  exact List.prefix_append _ _

/-- **The snippet of a node** is the longest text that an error at the start of the node could quote. -/
theorem quotes_snippet (htext : t.text? source = some text) {l : Location}
    (hl : locate? source t.range.start = some l) (hne : snippet text ≠ []) :
    Quotes source t l (snippet text) where
  place := by
    obtain ⟨before, after, rfl, hbefore, -⟩ := Text.slice?_eq_some_iff.1 htext
    obtain ⟨line, skipped, hlocate, hline⟩ := Text.locate?_append before (text ++ after)
    rw [hbefore, hl] at hlocate
    cases hlocate
    obtain ⟨more, hmore⟩ := snippet_prefix_text text
    exact ⟨skipped, more ++ after, by rw [hline, ← List.append_assoc _ more, hmore], rfl⟩
  quotable := ⟨slice?_of_prefix_text htext (snippet_prefix_text text), oneLine_snippet text,
    length_snippet_le text⟩
  nonempty := List.length_pos_iff.2 hne
  longest y hy := by
    obtain ⟨r, hstart, hstop, hr⟩ := hy.inside
    exact (prefix_snippet (prefix_of_slice? htext hstart hstop hr) hy.oneLine hy.short).length_le

end

/-! ## Reasons in words -/

theorem message_unexpected (x : List Char) :
    (Reason.unexpected (String.ofList x)).message = "unexpected `" ++ String.ofList x ++ "`" := rfl

theorem message_unexpected_inj {x y : List Char}
    (h : (Reason.unexpected (String.ofList x)).message = "unexpected `" ++ String.ofList y ++ "`") :
    x = y := by
  rw [message_unexpected] at h
  have hlist := congrArg String.toList h
  simpa using hlist

theorem message_unexpectedEnd_ne (x : List Char) :
    Reason.unexpectedEnd.message ≠ "unexpected `" ++ String.ofList x ++ "`" := by
  intro h
  have hlist := congrArg (fun s => s.toList[11]?) h
  simp [Reason.message] at hlist

theorem oneLine_message {l : Location} {r : Reason} (h : OneLine r.message.toList) :
    OneLine (Java.ParseError.syntaxError l r).message.toList := by
  have hrender : OneLine l.render.toList := by
    show OneLine (toString l.line ++ ":" ++ toString l.column).toList
    simp only [String.toList_append, oneLine_append]
    exact ⟨⟨oneLine_repr _, by decide⟩, oneLine_repr _⟩
  show OneLine ("syntax error at " ++ l.render ++ ": " ++ r.message).toList
  simp only [String.toList_append, oneLine_append]
  exact ⟨⟨⟨by decide, hrender⟩, by decide⟩, h⟩

/-! ## The error for a node -/

theorem reason?_of_missing {source : List Char} {t : Tree} (h : t.label.mark = .missing) :
    reason? source t = some (.missing t.kind) := by
  simp [reason?, h]

theorem reason?_of_snippet_nil {source text : List Char} {t : Tree} (h : t.label.mark ≠ .missing)
    (htext : t.text? source = some text) (hnil : snippet text = []) :
    reason? source t = some .unexpectedEnd := by
  simp [reason?, h, htext, hnil]

theorem reason?_of_snippet {source text : List Char} {t : Tree} (h : t.label.mark ≠ .missing)
    (htext : t.text? source = some text) (hne : snippet text ≠ []) :
    reason? source t = some (.unexpected (String.ofList (snippet text))) := by
  simp [reason?, h, htext]

/-- What the reason for a node that is not missing says. -/
structure FaithfulReason (source : List Char) (t : Tree) (l : Location) (r : Reason) : Prop where
  /-- A text is quoted, or the end is named. -/
  told : (∃ x, r.message = "unexpected `" ++ String.ofList x ++ "`") ∨
    r.message = "unexpected end of input"
  quotes : ∀ x, r.message = "unexpected `" ++ String.ofList x ++ "`" → Quotes source t l x
  ends : r.message = "unexpected end of input" ↔ ∃ text, t.text? source = some text ∧
    (text = [] ∨ text.head? = some '\n' ∨ text.head? = some '\r')

section

variable {source text : List Char} {t : Tree} {l : Location}

theorem faithfulReason_of_snippet_nil (htext : t.text? source = some text) (hnil : snippet text = []) :
    FaithfulReason source t l .unexpectedEnd where
  told := .inr rfl
  quotes x hx := absurd hx (message_unexpectedEnd_ne x)
  ends := iff_of_true rfl ⟨text, htext, snippet_eq_nil_iff.1 hnil⟩

theorem faithfulReason_of_snippet (htext : t.text? source = some text)
    (hl : locate? source t.range.start = some l) (hne : snippet text ≠ []) :
    FaithfulReason source t l (.unexpected (String.ofList (snippet text))) where
  told := .inl ⟨snippet text, rfl⟩
  quotes x hx := message_unexpected_inj hx ▸ quotes_snippet htext hl hne
  ends := by
    refine iff_of_false (fun h => message_unexpectedEnd_ne _ h.symm) ?_
    rintro ⟨text', htext', hnil⟩
    cases htext.symm.trans htext'
    exact hne (snippet_eq_nil_iff.2 hnil)

end

/-- **An error is faithful to the text.** A node whose range lies on boundaries between characters has
an error with the location of its start. If the node is missing, its kind is named. Otherwise the error
quotes the text that stands at its location, as far as it lies within the node, stays in its line and has
at most 24 characters, or says that the input ends exactly if the node has no text in its first line. The
error is told in one line, if the kind of a missing node is. -/
theorem damageError_faithful (source : List Char) (t : Tree)
    (hstart : IsBoundary source t.range.start) (hstop : IsBoundary source t.range.stop) :
    ∃ l r, Java.damageError source t = .syntaxError l r ∧
      locate? source t.range.start = some l ∧
      (t.label.mark = .missing → r.message = "missing `" ++ t.kind ++ "`") ∧
      (t.label.mark ≠ .missing → FaithfulReason source t l r) ∧
      ((t.label.mark = .missing → OneLine t.kind.toList) →
        OneLine (Java.damageError source t).message.toList) := by
  obtain ⟨l, hl⟩ := Text.exists_locate? hstart
  obtain ⟨text, htext⟩ := exists_text? hstart hstop
  have herror : ∀ r, reason? source t = some r → Java.damageError source t = .syntaxError l r := by
    intro r hr
    simp [Java.damageError, hl, hr]
  by_cases hmissing : t.label.mark = .missing
  · have hr := herror _ (reason?_of_missing hmissing)
    refine ⟨l, _, hr, hl, fun _ => rfl, fun h => absurd hmissing h, fun hkind => ?_⟩
    rw [hr]
    apply oneLine_message
    show OneLine ("missing `" ++ t.kind ++ "`").toList
    simp only [String.toList_append, oneLine_append]
    exact ⟨⟨by decide, hkind hmissing⟩, by decide⟩
  · by_cases hnil : snippet text = []
    · have hr := herror _ (reason?_of_snippet_nil hmissing htext hnil)
      refine ⟨l, _, hr, hl, fun h => absurd h hmissing,
        fun _ => faithfulReason_of_snippet_nil htext hnil, fun _ => ?_⟩
      rw [hr]
      exact oneLine_message (by decide)
    · have hr := herror _ (reason?_of_snippet hmissing htext hnil)
      refine ⟨l, _, hr, hl, fun h => absurd h hmissing,
        fun _ => faithfulReason_of_snippet htext hl hnil, fun _ => ?_⟩
      rw [hr]
      apply oneLine_message
      rw [message_unexpected]
      simp only [String.toList_append, String.toList_ofList, oneLine_append]
      exact ⟨⟨by decide, oneLine_snippet text⟩, by decide⟩

/-- An error node in the second line, after a carriage return. -/
def strayText : List Char := "é\r+é- 123456789 123456789 123456789\nb".toList

/-- The node covers everything from the second character of the second line on. -/
def strayNode : Tree := .node ⟨"ERROR", true, .upTo 4 39, none, .error, true⟩ []

/-- The node has more than 24 characters in its first line, and only these are quoted. -/
theorem damageError_faithful_stray :
    (Java.damageError strayText strayNode).message =
        "syntax error at 2:2: unexpected `é- 123456789 123456789 1`" ∧
      Quotes strayText strayNode ⟨2, 2⟩ "é- 123456789 123456789 1".toList := by
  have herror : Java.damageError strayText strayNode =
      .syntaxError ⟨2, 2⟩ (.unexpected "é- 123456789 123456789 1") := by decide
  obtain ⟨l, r, hr, -, -, hfaithful, -⟩ :=
    damageError_faithful strayText strayNode (by decide) (by decide)
  cases herror.symm.trans hr
  exact ⟨by rw [herror]; decide, (hfaithful (by decide)).quotes _ rfl⟩

end JavaNaming.Syntax
