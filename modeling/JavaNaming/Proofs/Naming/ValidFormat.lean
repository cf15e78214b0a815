import JavaNaming.Proofs.Naming.WholeName

/-!
# Formats that are patterns

A format is made ready for use by putting text around it and reading the whole. This is not quite the
same as reading the format itself. `exists_ofFormatWith_iff` says how far the two go together, however the
size of a pattern is judged: a format that closes no group but its own can be used exactly if it is a pattern
by itself, does not end in a comment, leaves room for two more levels, and is not too large with what is put
around it. A format that closes the group around it may be used although it is no pattern, and then it does
not apply to whole names.
-/

namespace JavaNaming.Naming

open Pattern (Regex Expr ClosesUnopened EndsInComment)

/-- Where an expression has no meaning, it has none between the two conditions. -/
theorem exists_meaning_of_enclosed {e : Expr} {m : Regex × Pattern.Switches}
    (h : e.enclosed.meaning .initial = .ok m) : ∃ r s, e.meaning .initial = .ok (r, s) := by
  have hset : Pattern.Switches.initial.set [] = .initial := rfl
  cases hm : e.meaning .initial with
  | ok m' => exact ⟨m'.1, m'.2, rfl⟩
  | error flaw =>
    simp only [Expr.enclosed, Expr.meaning, Expr.meaningAll, bind, Except.bind, hset, hm] at h
    cases h

theorem meaningOf_of_parse {pattern : List Char} {e : Expr} {r : Regex} {s : Pattern.Switches}
    (he : Expr.parse pattern = .ok e) (hm : e.meaning .initial = .ok (r, s)) :
    Pattern.meaningOf pattern = .ok r := by
  unfold Pattern.meaningOf
  rw [he]
  show (e.meaning .initial >>= fun m => Except.ok m.1) = _
  rw [hm]
  rfl

/-- What is put around a format leaves its meaning as it is, if the format can be read within it. -/
theorem meaningOf_enclose_eq_ok_iff {pattern : List Char} (hopen : ¬ ClosesUnopened pattern)
    {r' : Regex} :
    Pattern.meaningOf (Pattern.enclose pattern) = .ok r' ↔
      ∃ e r, Expr.parse pattern = .ok e ∧ Pattern.meaningOf pattern = .ok r ∧
        ¬ EndsInComment pattern ∧ e.height + 2 ≤ Pattern.nestLimit ∧
        r' = .seq (.look .start) (.seq r (.look .stop)) := by
  constructor
  · intro h
    obtain ⟨e', s', he', hm'⟩ := meaningOf_eq_ok h
    obtain ⟨e, he, hcomment, hheight⟩ := (Pattern.exists_parse_enclose_iff hopen).mp ⟨e', he'⟩
    have hm := Expr.meaning_eq_of_shape_eq (Pattern.shape_parse_enclose he he') hm'
    obtain ⟨r, s, hr⟩ := exists_meaning_of_enclosed hm
    cases hm.symm.trans (meaning_enclosed hr)
    exact ⟨e, r, he, meaningOf_of_parse he hr, hcomment, hheight, rfl⟩
  · rintro ⟨e, r, he, hr, hcomment, hheight, rfl⟩
    obtain ⟨e₀, s, he₀, hm⟩ := meaningOf_eq_ok hr
    cases he.symm.trans he₀
    obtain ⟨e', he'⟩ := (Pattern.exists_parse_enclose_iff hopen).mpr ⟨e, he, hcomment, hheight⟩
    exact meaningOf_of_parse he' (Expr.meaning_eq_of_shape_eq
      (Pattern.shape_parse_enclose he he').symm (meaning_enclosed hm))

theorem exists_ofFormatWith_iff_compileWith {fits : List Char → Regex → Bool} {format : String} :
    (∃ p, NamePattern.ofFormatWith fits format = .ok p) ↔
      ∃ r', Pattern.compileWith fits (Pattern.enclose format.toList) = .ok r' := by
  rw [← wholeText_eq]
  constructor
  · rintro ⟨p, hp⟩
    exact ⟨_, (ofFormatWith_eq_ok_iff.mp hp).1⟩
  · rintro ⟨r', hr'⟩
    exact ⟨⟨format, r'⟩, ofFormatWith_eq_ok_iff.mpr ⟨hr', rfl⟩⟩

/-- **Formats that can be used**, however the size of a pattern is judged. A format that closes no group but
its own can be used exactly if it is a pattern by itself, does not end in a comment, leaves room for two more
levels, and is not too large with what is put around it. -/
theorem exists_ofFormatWith_iff (fits : List Char → Regex → Bool) {format : String}
    (hopen : ¬ ClosesUnopened format.toList) :
    (∃ p, NamePattern.ofFormatWith fits format = .ok p) ↔
      ∃ e r, Expr.parse format.toList = .ok e ∧ Pattern.meaningOf format.toList = .ok r ∧
        ¬ EndsInComment format.toList ∧ e.height + 2 ≤ Pattern.nestLimit ∧
        fits (wholeText format.toList) (.seq (.look .start) (.seq r (.look .stop))) = true := by
  rw [exists_ofFormatWith_iff_compileWith]
  constructor
  · rintro ⟨r', hr'⟩
    obtain ⟨hmeaning', hfits⟩ := compileWith_eq_ok_iff.mp hr'
    obtain ⟨e, r, he, hmeaning, hcomment, hheight, rfl⟩ :=
      (meaningOf_enclose_eq_ok_iff hopen).mp hmeaning'
    exact ⟨e, r, he, hmeaning, hcomment, hheight, hfits⟩
  · rintro ⟨e, r, he, hmeaning, hcomment, hheight, hfits⟩
    exact ⟨_, compileWith_eq_ok_iff.mpr ⟨(meaningOf_enclose_eq_ok_iff hopen).mpr
      ⟨e, r, he, hmeaning, hcomment, hheight, rfl⟩, hfits⟩⟩

/-- A comment at the end of a format swallows what closes the group around it, and so the format cannot be
used however the size is judged. Of a format without such a comment the whole has to fit, here as a text. -/
theorem exists_ofFormatWith_iff_comment :
    (¬ ClosesUnopened "(?x)a#".toList ∧ (∃ r, Pattern.meaningOf "(?x)a#".toList = .ok r) ∧
      EndsInComment "(?x)a#".toList ∧ ∀ fits, ¬ ∃ p, NamePattern.ofFormatWith fits "(?x)a#" = .ok p) ∧
    (∃ p, NamePattern.ofFormatWith (fun text _ => text.length ≤ 7) "a" = .ok p) ∧
      ¬ ∃ p, NamePattern.ofFormatWith (fun text _ => text.length ≤ 6) "a" = .ok p := by
  have hopen : ¬ ClosesUnopened "(?x)a#".toList := by decide +kernel
  have hcomment : EndsInComment "(?x)a#".toList := by decide +kernel
  have hletter : ¬ ClosesUnopened "a".toList := by decide +kernel
  refine ⟨⟨hopen, by decide +kernel, hcomment, fun fits h => ?_⟩, ?_, fun h => ?_⟩
  · obtain ⟨_, _, _, _, hnone, _⟩ := (exists_ofFormatWith_iff fits hopen).mp h
    exact hnone hcomment
  · obtain ⟨e, he, hheight⟩ : ∃ e, Expr.parse "a".toList = .ok e ∧ e.height + 2 ≤ Pattern.nestLimit := by
      decide +kernel
    obtain ⟨r, hr⟩ : ∃ r, Pattern.meaningOf "a".toList = .ok r := by decide +kernel
    exact (exists_ofFormatWith_iff _ hletter).mpr
      ⟨e, r, he, hr, by decide +kernel, hheight, by decide +kernel⟩
  · obtain ⟨_, _, _, _, _, _, hfits⟩ := (exists_ofFormatWith_iff _ hletter).mp h
    revert hfits
    decide +kernel

/-- A format that is no pattern: it closes the group around it and opens another one. It can be used, and
accepts a name of which it describes only the first letter. -/
theorem ofFormat_of_closesUnopened :
    ClosesUnopened "a)|(?:b".toList ∧ (¬ ∃ r, Pattern.meaningOf "a)|(?:b".toList = .ok r) ∧
      ∃ p, NamePattern.ofFormat "a)|(?:b" = .ok p ∧ p.accepts "axx" = true := by
  refine ⟨by decide +kernel, by decide +kernel, ⟨"a)|(?:b", .alt (.seq (.look .start)
    (.chars (.single 'a'))) (.seq (.chars (.single 'b')) (.look .stop))⟩,
    ofFormat_of_meaningOf rfl (by decide +kernel), by decide +kernel⟩

end JavaNaming.Naming
