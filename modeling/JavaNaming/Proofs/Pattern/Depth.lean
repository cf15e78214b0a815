import JavaNaming.Pattern.Parse
import JavaNaming.Proofs.Pattern.Shape

/-!
# How deep expressions are nested

The height of an expression is the number of levels in it. The check of its depth passes exactly if its
height is within the limit, below the levels that stand around it (`Expr.checkDepth_eq_ok_iff`). The
height does not depend on the places in the expression.
-/

namespace JavaNaming.Pattern

mutual

/-- The number of levels in a class. -/
def ClassSet.height : ClassSet → Nat
  | .bracketed _ _ set => set.height + 1
  | .union _ items => ClassSet.heights items + 1
  | .op _ _ lhs rhs => max lhs.height rhs.height + 1
  | _ => 0

/-- The largest height of several classes. -/
def ClassSet.heights : List ClassSet → Nat
  | [] => 0
  | c :: cs => max c.height (ClassSet.heights cs)

end

mutual

/-- The number of levels in an expression. -/
def Expr.height : Expr → Nat
  | .bracketed _ _ set => set.height + 1
  | .repetition _ _ body => body.height + 1
  | .group _ _ _ body => body.height + 1
  | .concat _ parts => Expr.heights parts + 1
  | .alternation _ parts => Expr.heights parts + 1
  | _ => 0

/-- The largest height of several expressions. -/
def Expr.heights : List Expr → Nat
  | [] => 0
  | e :: es => max e.height (Expr.heights es)

end

variable {depth : Nat}

/-- One level is within the limit if there is room for it and for what is in it. -/
theorem deeper_bind_eq_ok_iff {span : Span} {height : Nat} {f : Nat → Read Unit}
    (hf : depth + 1 ≤ nestLimit → (f (depth + 1) = .ok () ↔ depth + 1 + height ≤ nestLimit)) :
    (deeper depth span >>= f) = .ok () ↔ depth + (height + 1) ≤ nestLimit := by
  unfold deeper
  split
  · rw [show depth + (height + 1) = depth + 1 + height by omega]
    exact hf ‹_›
  · refine iff_of_false (by rintro ⟨⟩) ?_
    omega

theorem then_eq_ok_iff {x y : Read Unit} :
    (do x; y) = .ok () ↔ x = .ok () ∧ y = .ok () := by
  cases x with
  | error e => simp [bind, Except.bind]
  | ok u => simp [bind, Except.bind]

mutual

theorem ClassSet.checkDepth_eq_ok_iff {depth : Nat} (hd : depth ≤ nestLimit) :
    ∀ c : ClassSet, c.checkDepth depth = .ok () ↔ depth + c.height ≤ nestLimit
  | .nothing _ | .literal _ | .range _ _ _ | .ascii _ _ _ | .property _ _ _ | .shorthand _ _ _ =>
    iff_of_true rfl hd
  | .bracketed _ _ set =>
    deeper_bind_eq_ok_iff fun hd => ClassSet.checkDepth_eq_ok_iff hd set
  | .union _ items =>
    deeper_bind_eq_ok_iff fun hd => ClassSet.checkDepthAll_eq_ok_iff hd items
  | .op _ _ lhs rhs => by
    refine deeper_bind_eq_ok_iff fun hd => ?_
    rw [then_eq_ok_iff, ClassSet.checkDepth_eq_ok_iff hd lhs, ClassSet.checkDepth_eq_ok_iff hd rhs]
    omega

theorem ClassSet.checkDepthAll_eq_ok_iff {depth : Nat} (hd : depth ≤ nestLimit) :
    ∀ cs : List ClassSet,
      ClassSet.checkDepthAll depth cs = .ok () ↔ depth + ClassSet.heights cs ≤ nestLimit
  | [] => iff_of_true rfl hd
  | c :: cs => by
    rw [ClassSet.checkDepthAll, then_eq_ok_iff, ClassSet.checkDepth_eq_ok_iff hd c,
      ClassSet.checkDepthAll_eq_ok_iff hd cs, ClassSet.heights]
    omega

end

mutual

/-- The check of the depth passes exactly if the levels around an expression and those in it are within
the limit. -/
theorem Expr.checkDepth_eq_ok_iff {depth : Nat} (hd : depth ≤ nestLimit) :
    ∀ e : Expr, e.checkDepth depth = .ok () ↔ depth + e.height ≤ nestLimit
  | .empty _ | .flags _ _ | .literal _ | .dot _ | .assertion _ _ | .shorthand _ _ _
  | .property _ _ _ => iff_of_true rfl hd
  | .bracketed _ _ set =>
    deeper_bind_eq_ok_iff fun hd => ClassSet.checkDepth_eq_ok_iff hd set
  | .repetition _ _ body => deeper_bind_eq_ok_iff fun hd => Expr.checkDepth_eq_ok_iff hd body
  | .group _ _ _ body => deeper_bind_eq_ok_iff fun hd => Expr.checkDepth_eq_ok_iff hd body
  | .concat _ parts => deeper_bind_eq_ok_iff fun hd => Expr.checkDepthAll_eq_ok_iff hd parts
  | .alternation _ parts => deeper_bind_eq_ok_iff fun hd => Expr.checkDepthAll_eq_ok_iff hd parts

theorem Expr.checkDepthAll_eq_ok_iff {depth : Nat} (hd : depth ≤ nestLimit) :
    ∀ es : List Expr, Expr.checkDepthAll depth es = .ok () ↔ depth + Expr.heights es ≤ nestLimit
  | [] => iff_of_true rfl hd
  | e :: es => by
    rw [Expr.checkDepthAll, then_eq_ok_iff, Expr.checkDepth_eq_ok_iff hd e,
      Expr.checkDepthAll_eq_ok_iff hd es, Expr.heights]
    omega

end

mutual

theorem ClassSet.height_shape : ∀ c : ClassSet, c.shape.height = c.height
  | .nothing _ | .literal _ | .range _ _ _ | .ascii _ _ _ | .property _ _ _ | .shorthand _ _ _ => rfl
  | .bracketed _ _ set => congrArg (· + 1) (ClassSet.height_shape set)
  | .union _ items => congrArg (· + 1) (ClassSet.heights_shapes items)
  | .op _ _ lhs rhs =>
    congrArg (· + 1) (congr (congrArg max (ClassSet.height_shape lhs)) (ClassSet.height_shape rhs))

theorem ClassSet.heights_shapes : ∀ cs : List ClassSet, heights (shapes cs) = heights cs
  | [] => rfl
  | c :: cs => by
    rw [shapes, heights, heights, ClassSet.height_shape c, ClassSet.heights_shapes cs]

end

mutual

theorem Expr.height_shape : ∀ e : Expr, e.shape.height = e.height
  | .empty _ | .flags _ _ | .literal _ | .dot _ | .assertion _ _ | .shorthand _ _ _
  | .property _ _ _ => rfl
  | .bracketed _ _ set => congrArg (· + 1) set.height_shape
  | .repetition _ _ body => congrArg (· + 1) (Expr.height_shape body)
  | .group _ _ _ body => congrArg (· + 1) (Expr.height_shape body)
  | .concat _ parts => congrArg (· + 1) (Expr.heights_shapes parts)
  | .alternation _ parts => congrArg (· + 1) (Expr.heights_shapes parts)

theorem Expr.heights_shapes : ∀ es : List Expr, heights (shapes es) = heights es
  | [] => rfl
  | e :: es => by
    rw [shapes, heights, heights, Expr.height_shape e, Expr.heights_shapes es]

end

end JavaNaming.Pattern
