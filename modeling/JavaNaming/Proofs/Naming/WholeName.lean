import JavaNaming.Naming.NamePattern
import JavaNaming.Proofs.Pattern.Enclosed.Whole
import JavaNaming.Proofs.Pattern.Matching

/-!
# Formats match whole names

A format is turned into a pattern for whole names by putting text around it. `ofFormat_eq_ok` says
what comes of this: the meaning of the format between the start and the end of the name, whatever
alternatives, conditions and switches the format has. So a name is accepted exactly if the format by
itself matches it from its first to its last character.
-/

namespace JavaNaming.Naming

open Pattern (Regex Expr Switches)

theorem wholeText_eq (format : List Char) : wholeText format = Pattern.enclose format := rfl

/-- No switch that an expression turns on reaches the condition after its group. -/
theorem meaning_enclosed {e : Expr} {r : Regex} {s : Switches}
    (h : e.meaning .initial = .ok (r, s)) :
    e.enclosed.meaning .initial = .ok (.seq (.look .start) (.seq r (.look .stop)), .initial) := by
  have hset : Switches.initial.set [] = .initial := rfl
  simp only [Expr.enclosed, Expr.meaning, Expr.meaningAll, bind, Except.bind, hset, h]
  rfl

theorem meaningOf_eq_ok {pattern : List Char} {r : Regex} (h : Pattern.meaningOf pattern = .ok r) :
    ∃ e s, Expr.parse pattern = .ok e ∧ e.meaning .initial = .ok (r, s) := by
  obtain ⟨e, he, h⟩ := bind_eq_ok h
  obtain ⟨⟨r', s⟩, hm, h⟩ := bind_eq_ok h
  cases h
  exact ⟨e, s, he, hm⟩

theorem compileWith_eq_ok_iff {fits : List Char → Regex → Bool} {pattern : List Char} {r : Regex} :
    Pattern.compileWith fits pattern = .ok r ↔
      Pattern.meaningOf pattern = .ok r ∧ fits pattern r = true := by
  unfold Pattern.compileWith
  cases Pattern.meaningOf pattern with
  | error e => exact iff_of_false nofun nofun
  | ok r' =>
    dsimp only
    split
    · rename_i hfits
      constructor
      · rintro ⟨⟩
        exact ⟨rfl, hfits⟩
      · rintro ⟨⟨⟩, -⟩
        rfl
    · rename_i hfits
      refine iff_of_false nofun ?_
      rintro ⟨⟨⟩, hfits'⟩
      exact hfits hfits'

theorem ofFormatWith_eq_ok_iff {fits : List Char → Regex → Bool} {format : String} {p : NamePattern} :
    NamePattern.ofFormatWith fits format = .ok p ↔
      Pattern.compileWith fits (wholeText format.toList) = .ok p.regex ∧ p.format = format := by
  unfold NamePattern.ofFormatWith
  cases Pattern.compileWith fits (wholeText format.toList) with
  | error e =>
    refine iff_of_false nofun ?_
    rintro ⟨⟨⟩, -⟩
  | ok r =>
    constructor
    · rintro ⟨⟩
      exact ⟨rfl, rfl⟩
    · rintro ⟨⟨⟩, ⟨⟩⟩
      rfl

/-- The meaning and the size of a format with what is put around it can be looked at one by one. -/
theorem ofFormat_of_meaningOf {format : String} {r : Regex}
    (hmeaning : Pattern.meaningOf (wholeText format.toList) = .ok r) (hfits : r.fits = true) :
    NamePattern.ofFormat format = .ok ⟨format, r⟩ :=
  ofFormatWith_eq_ok_iff.mpr ⟨compileWith_eq_ok_iff.mpr ⟨hmeaning, hfits⟩, rfl⟩

/-- A format that is a pattern by itself stands between the start and the end of a name. -/
theorem ofFormat_eq_ok {format : String} {r : Regex} {p : NamePattern}
    (hformat : Pattern.compile format.toList = .ok r) (hp : NamePattern.ofFormat format = .ok p) :
    p.regex = .seq (.look .start) (.seq r (.look .stop)) := by
  obtain ⟨hwhole, -⟩ := ofFormatWith_eq_ok_iff.mp hp
  rw [wholeText_eq] at hwhole
  obtain ⟨e, s, he, hm⟩ := meaningOf_eq_ok (compileWith_eq_ok_iff.mp hformat).1
  obtain ⟨e', s', he', hm'⟩ := meaningOf_eq_ok (compileWith_eq_ok_iff.mp hwhole).1
  have hbetween := Expr.meaning_eq_of_shape_eq (Pattern.shape_parse_enclose he he').symm
    (meaning_enclosed hm)
  exact congrArg Prod.fst (Except.ok.inj (hm'.symm.trans hbetween))

/-- A name is accepted exactly if the format matches it from its first to its last character. -/
theorem accepts_iff_matches_whole {format : String} {r : Regex} {p : NamePattern}
    (hformat : Pattern.compile format.toList = .ok r) (hp : NamePattern.ofFormat format = .ok p)
    (name : String) :
    p.accepts name = true ↔ r.Matches name.toList.toArray 0 name.toList.length := by
  unfold NamePattern.accepts
  rw [ofFormat_eq_ok hformat hp]
  exact r.found_between_start_and_stop name.toList

/-- The meaning of `a|(?x: a b )*$`: one letter, or pairs of letters up to the end. -/
def letterOrPairs : Regex :=
  .alt (.chars (.single 'a')) (.seq (.repetition ⟨0, none, fun _ _ => Nat.zero_le _⟩
    (.seq (.chars (.single 'a')) (.chars (.single 'b')))) (.look .stop))

/-- The first alternative matches the beginning of both names, the second one only the whole of one. -/
theorem accepts_iff_matches_whole_letterOrPairs :
    ∃ p, Pattern.compile "a|(?x: a b )*$".toList = .ok letterOrPairs ∧
      NamePattern.ofFormat "a|(?x: a b )*$" = .ok p ∧
      letterOrPairs.Matches "abab".toList.toArray 0 4 ∧
      ¬ letterOrPairs.Matches "aba".toList.toArray 0 3 := by
  have hformat : Pattern.compile "a|(?x: a b )*$".toList = .ok letterOrPairs :=
    compileWith_eq_ok_iff.mpr ⟨rfl, by decide +kernel⟩
  have hp : NamePattern.ofFormat "a|(?x: a b )*$" =
      .ok ⟨"a|(?x: a b )*$", .seq (.look .start) (.seq letterOrPairs (.look .stop))⟩ :=
    ofFormat_of_meaningOf rfl (by decide +kernel)
  refine ⟨_, hformat, hp, ?_, ?_⟩
  · exact (accepts_iff_matches_whole hformat hp "abab").mp (by decide +kernel)
  · intro h
    have haccepts := (accepts_iff_matches_whole hformat hp "aba").mpr h
    revert haccepts
    decide +kernel

end JavaNaming.Naming
