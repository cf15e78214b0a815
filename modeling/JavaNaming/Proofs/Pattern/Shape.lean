import JavaNaming.Pattern.Meaning
import JavaNaming.Proofs.Result

/-!
# Expressions without their places

The shape of an expression is the expression with all parts of the pattern forgotten. Parts are only
there to point at errors: where an expression has a meaning, its shape alone determines it
(`meaning_eq_of_shape_eq`).
-/

namespace JavaNaming.Pattern

/-- The part that stands for every part of a pattern. -/
def anywhere : Span := .point .origin

def Literal.shape (l : Literal) : Literal := { l with span := anywhere }

mutual

/-- A class without its places. -/
def ClassSet.shape : ClassSet → ClassSet
  | .nothing _ => .nothing anywhere
  | .literal l => .literal l.shape
  | .range _ a b => .range anywhere a.shape b.shape
  | .ascii _ kind negated => .ascii anywhere kind negated
  | .property _ query negated => .property anywhere query negated
  | .shorthand _ kind negated => .shorthand anywhere kind negated
  | .bracketed _ negated set => .bracketed anywhere negated set.shape
  | .union _ items => .union anywhere (ClassSet.shapes items)
  | .op _ kind lhs rhs => .op anywhere kind lhs.shape rhs.shape

def ClassSet.shapes : List ClassSet → List ClassSet
  | [] => []
  | c :: cs => c.shape :: ClassSet.shapes cs

end

mutual

/-- An expression without its places. -/
def Expr.shape : Expr → Expr
  | .empty _ => .empty anywhere
  | .flags _ items => .flags anywhere items
  | .literal l => .literal l.shape
  | .dot _ => .dot anywhere
  | .assertion _ kind => .assertion anywhere kind
  | .shorthand _ kind negated => .shorthand anywhere kind negated
  | .property _ query negated => .property anywhere query negated
  | .bracketed _ negated set => .bracketed anywhere negated set.shape
  | .repetition _ counts body => .repetition anywhere counts body.shape
  | .group _ captures items body => .group anywhere captures items body.shape
  | .concat _ parts => .concat anywhere (Expr.shapes parts)
  | .alternation _ parts => .alternation anywhere (Expr.shapes parts)

def Expr.shapes : List Expr → List Expr
  | [] => []
  | e :: es => e.shape :: Expr.shapes es

end

@[simp] theorem ClassSet.shapes_eq_map (cs : List ClassSet) : shapes cs = cs.map shape := by
  induction cs with
  | nil => rfl
  | cons c cs ih => rw [shapes, ih, List.map_cons]

@[simp] theorem Expr.shapes_eq_map (es : List Expr) : shapes es = es.map shape := by
  induction es with
  | nil => rfl
  | cons e es ih => rw [shapes, ih, List.map_cons]

/-! ## Meanings -/

/-- A choice between a failure and a result does not depend on where the failure points to. -/
theorem toOption_ite_fail {α : Type} {p : Prop} [Decidable p] (flaw : Flaw) (span span' : Span)
    {x y : Read α} (h : x.toOption = y.toOption) :
    (if p then fail flaw span else x).toOption = (if p then fail flaw span' else y).toOption := by
  split
  · rfl
  · exact h

section Parts

variable (s : Switches) (span span' : Span)

theorem toOption_onlyWhole (c : Unicode.CharSet) :
    (onlyWhole s span c).toOption = (onlyWhole s span' c).toOption := by
  unfold onlyWhole
  split <;> rfl

theorem toOption_foldAndNegate (negated : Bool) (c : Unicode.CharSet) :
    (foldAndNegate s span negated c).toOption = (foldAndNegate s span' negated c).toOption :=
  toOption_onlyWhole s span span' _

theorem toOption_shorthandSet (kind : Shorthand) (negated : Bool) :
    (shorthandSet s span kind negated).toOption = (shorthandSet s span' kind negated).toOption :=
  toOption_onlyWhole s span span' _

theorem toOption_propertySet (query : PropertyQuery) (negated : Bool) :
    (propertySet s span query negated).toOption = (propertySet s span' query negated).toOption := by
  unfold propertySet
  apply toOption_ite_fail
  dsimp only
  split
  · exact toOption_foldAndNegate s span span' negated _
  · rfl
  · rfl

theorem toOption_dotMeaning : (dotMeaning s span).toOption = (dotMeaning s span').toOption :=
  toOption_ite_fail _ _ _ rfl

theorem toOption_checkByte_shape (l : Literal) :
    (checkByte s l.shape).toOption = (checkByte s l).toOption :=
  toOption_ite_fail _ _ _ rfl

theorem toOption_classChar_shape (l : Literal) :
    (classChar s l.shape).toOption = (classChar s l).toOption :=
  toOption_bind_congr (toOption_checkByte_shape s l) fun _ => toOption_ite_fail _ _ _ rfl

end Parts

mutual

theorem ClassSet.toOption_meaning_shape (s : Switches) :
    ∀ c : ClassSet, (c.shape.meaning s).toOption = (c.meaning s).toOption
  | .nothing _ => rfl
  | .literal l => toOption_bind_congr (toOption_classChar_shape s l) fun _ => rfl
  | .range _ a b =>
    toOption_bind_congr (toOption_classChar_shape s a) fun _ =>
      toOption_bind_congr (toOption_classChar_shape s b) fun _ => rfl
  | .ascii span kind negated => toOption_foldAndNegate s anywhere span negated kind.chars
  | .property span query negated => toOption_propertySet s anywhere span query negated
  | .shorthand span kind negated => toOption_shorthandSet s anywhere span kind negated
  | .bracketed span negated set =>
    toOption_bind_congr (ClassSet.toOption_meaning_shape s set) fun c =>
      toOption_foldAndNegate s anywhere span negated c
  | .union _ items => ClassSet.toOption_meaningAll_shapes s .empty items
  | .op _ _ lhs rhs =>
    toOption_bind_congr (ClassSet.toOption_meaning_shape s lhs) fun _ =>
      toOption_bind_congr (ClassSet.toOption_meaning_shape s rhs) fun _ => rfl

theorem ClassSet.toOption_meaningAll_shapes (s : Switches) (acc : Unicode.CharSet) :
    ∀ cs : List ClassSet,
      (ClassSet.meaningAll s acc (ClassSet.shapes cs)).toOption =
        (ClassSet.meaningAll s acc cs).toOption
  | [] => rfl
  | c :: cs =>
    toOption_bind_congr (ClassSet.toOption_meaning_shape s c) fun found =>
      ClassSet.toOption_meaningAll_shapes s (acc.union found) cs

end

mutual

theorem Expr.toOption_meaning_shape (s : Switches) :
    ∀ e : Expr, (e.shape.meaning s).toOption = (e.meaning s).toOption
  | .empty _ => rfl
  | .flags _ _ => rfl
  | .literal l => toOption_bind_congr (toOption_checkByte_shape s l) fun _ => rfl
  | .dot span => toOption_bind_congr (toOption_dotMeaning s anywhere span) fun _ => rfl
  | .assertion _ _ => rfl
  | .shorthand span kind negated =>
    toOption_bind_congr (toOption_shorthandSet s anywhere span kind negated) fun _ => rfl
  | .property span query negated =>
    toOption_bind_congr (toOption_propertySet s anywhere span query negated) fun _ => rfl
  | .bracketed span negated set =>
    toOption_bind_congr (ClassSet.toOption_meaning_shape s set) fun c =>
      toOption_bind_congr (toOption_foldAndNegate s anywhere span negated c) fun _ => rfl
  | .repetition _ _ body => toOption_bind_congr (Expr.toOption_meaning_shape s body) fun _ => rfl
  | .group _ _ items body =>
    toOption_bind_congr (Expr.toOption_meaning_shape (s.set items) body) fun _ => rfl
  | .concat _ parts => toOption_bind_congr (Expr.toOption_meaningAll_shapes s parts) fun _ => rfl
  | .alternation _ parts =>
    toOption_bind_congr (Expr.toOption_meaningAll_shapes s parts) fun _ => rfl

theorem Expr.toOption_meaningAll_shapes (s : Switches) :
    ∀ es : List Expr,
      (Expr.meaningAll s (Expr.shapes es)).toOption = (Expr.meaningAll s es).toOption
  | [] => rfl
  | e :: es =>
    toOption_bind_congr (Expr.toOption_meaning_shape s e) fun (_, s) =>
      toOption_bind_congr (Expr.toOption_meaningAll_shapes s es) fun _ => rfl

end

/-- Expressions of one shape have one meaning. -/
theorem Expr.meaning_eq_of_shape_eq {e e' : Expr} (h : e.shape = e'.shape) {s : Switches}
    {m : Regex × Switches} (hm : e.meaning s = .ok m) : e'.meaning s = .ok m := by
  apply eq_ok_of_toOption_eq
  rw [← e'.toOption_meaning_shape, ← h, e.toOption_meaning_shape, hm]
  rfl

end JavaNaming.Pattern
