import Mathlib.Logic.ExistsUnique
import Pipeline.Expression.Eval
import Pipeline.Proofs.Text.Folding

/-! Comparisons of texts. Their order looks at small letters over all scripts and their equality at
`A` to `Z` only, so the two fit together exactly where small letters tell no more texts alike than
equality does. -/

namespace Pipeline.Expression

variable {context : Context} {left right : Expr} {a b : Json} {op : BinaryOp} {x y : String}

theorem eval_binary_of_comparison (hop : op ∉ [BinaryOp.and, .or])
    (hleft : left.eval context = .ok a) (hright : right.eval context = .ok b) :
    (Expr.binary op left right).eval context = .ok (.bool (op.holds a b)) := by
  cases op with
  | and | or => simp at hop
  | equal | notEqual | less | lessEqual | greater | greaterEqual =>
    simp only [Expr.eval, hleft, hright]
    rfl

/-! ### The order and the equality of texts -/

theorem compareTexts_eq_iff : compareTexts x y = .eq ↔ Text.lower x = Text.lower y :=
  Std.LawfulEqOrd.compare_eq_iff_eq

theorem looseEqual_texts_iff :
    looseEqual (.string x) (.string y) = true ↔ Text.foldAscii x = Text.foldAscii y :=
  beq_iff_eq

theorem compareTexts_of_looseEqual (h : looseEqual (.string x) (.string y) = true) :
    compareTexts x y = .eq :=
  compareTexts_eq_iff.mpr (Text.lower_eq_of_foldAscii_eq (looseEqual_texts_iff.mp h))

/-! ### Operands that are texts -/

/-- An expression whose value is a text. -/
structure TextOperand (context : Context) where
  expr : Expr
  text : String
  value : expr.eval context = .ok (.string text)

/-- The text itself, in quotes. -/
def TextOperand.quoted (text : String) : TextOperand context :=
  ⟨.text text, text, rfl⟩

/-- The comparison of the operands is true. -/
def Affirms (op : BinaryOp) (left right : TextOperand context) : Prop :=
  (Expr.binary op left.expr right.expr).eval context = .ok (.bool true)

/-- The order of the operands and their equality fit together. -/
structure Coherent (left right : TextOperand context) : Prop where
  one : ∃! op, op ∈ [BinaryOp.less, .equal, .greater] ∧ Affirms op left right
  lessEqual : Affirms .lessEqual left right ↔ Affirms .less left right ∨ Affirms .equal left right
  greaterEqual :
    Affirms .greaterEqual left right ↔ Affirms .greater left right ∨ Affirms .equal left right

section Affirms

variable {left right : TextOperand context}

theorem affirms_iff (hop : op ∉ [BinaryOp.and, .or]) :
    Affirms op left right ↔ op.holds (.string left.text) (.string right.text) = true := by
  rw [Affirms, eval_binary_of_comparison hop left.value right.value]
  simp

theorem affirms_equal_iff :
    Affirms .equal left right ↔ Text.foldAscii left.text = Text.foldAscii right.text :=
  (affirms_iff (by decide)).trans looseEqual_texts_iff

theorem affirms_less_iff :
    Affirms .less left right ↔ compareTexts left.text right.text = .lt := by
  rw [affirms_iff (by decide)]
  simp [BinaryOp.holds, compareValues?]

theorem affirms_greater_iff :
    Affirms .greater left right ↔ compareTexts left.text right.text = .gt := by
  rw [affirms_iff (by decide)]
  simp [BinaryOp.holds, compareValues?]

theorem affirms_lessEqual_iff :
    Affirms .lessEqual left right ↔ compareTexts left.text right.text ≠ .gt := by
  rw [affirms_iff (by decide)]
  simp [BinaryOp.holds, compareValues?]

theorem affirms_greaterEqual_iff :
    Affirms .greaterEqual left right ↔ compareTexts left.text right.text ≠ .lt := by
  rw [affirms_iff (by decide)]
  simp [BinaryOp.holds, compareValues?]

theorem compareTexts_of_affirms_equal (h : Affirms .equal left right) :
    compareTexts left.text right.text = .eq :=
  compareTexts_of_looseEqual (looseEqual_texts_iff.mpr (affirms_equal_iff.mp h))

theorem equivalence_affirms_equal :
    Equivalence fun left right : TextOperand context => Affirms .equal left right where
  refl _ := affirms_equal_iff.mpr rfl
  symm h := affirms_equal_iff.mpr (affirms_equal_iff.mp h).symm
  trans h h' := affirms_equal_iff.mpr ((affirms_equal_iff.mp h).trans (affirms_equal_iff.mp h'))

/-! ### When the comparisons fit together -/

/-- The comparison that an order of the operands calls for. -/
def BinaryOp.ofOrdering : Ordering → BinaryOp
  | .lt => .less
  | .eq => .equal
  | .gt => .greater

theorem eq_ofOrdering_of_affirms (hop : op ∈ [BinaryOp.less, .equal, .greater])
    (h : Affirms op left right) : op = .ofOrdering (compareTexts left.text right.text) := by
  simp only [List.mem_cons, List.not_mem_nil, or_false] at hop
  obtain rfl | rfl | rfl := hop
  · rw [affirms_less_iff.mp h]
    rfl
  · rw [compareTexts_of_affirms_equal h]
    rfl
  · rw [affirms_greater_iff.mp h]
    rfl

theorem affirms_ofOrdering_iff :
    Affirms (.ofOrdering (compareTexts left.text right.text)) left right ↔
      (compareTexts left.text right.text = .eq → Affirms .equal left right) := by
  cases horder : compareTexts left.text right.text with
  | lt => exact iff_of_true (affirms_less_iff.mpr horder) nofun
  | eq => exact ⟨fun h _ => h, fun h => h rfl⟩
  | gt => exact iff_of_true (affirms_greater_iff.mpr horder) nofun

theorem coherent_iff :
    Coherent left right ↔
      (compareTexts left.text right.text = .eq → Affirms .equal left right) := by
  constructor
  · intro h
    obtain ⟨op, ⟨hop, haffirms⟩, -⟩ := h.one
    rw [← affirms_ofOrdering_iff, ← eq_ofOrdering_of_affirms hop haffirms]
    exact haffirms
  · intro h
    have hequal : Affirms .equal left right ↔ compareTexts left.text right.text = .eq :=
      ⟨compareTexts_of_affirms_equal, h⟩
    constructor
    · refine ⟨_, ⟨?_, affirms_ofOrdering_iff.mpr h⟩,
        fun op hop => eq_ofOrdering_of_affirms hop.1 hop.2⟩
      cases compareTexts left.text right.text <;> simp [BinaryOp.ofOrdering]
    · rw [affirms_lessEqual_iff, affirms_less_iff, hequal]
      cases compareTexts left.text right.text <;> simp
    · rw [affirms_greaterEqual_iff, affirms_greater_iff, hequal]
      cases compareTexts left.text right.text <;> simp

end Affirms

/-- The comparisons of two texts fit together exactly if the texts are equal up to the case of `A`
to `Z` wherever they have the same small letters, so whenever they hold no capital letters but
these. Otherwise the first text is neither less than the second nor equal to it nor greater, and yet
both at most and at least the second. Equality is an equivalence in every case. -/
theorem comparisons_coherent_iff (left right : TextOperand context) :
    (Coherent left right ↔
      (Text.lower left.text = Text.lower right.text →
        Text.foldAscii left.text = Text.foldAscii right.text)) ∧
    (Text.IsPlain left.text → Text.IsPlain right.text → Coherent left right) ∧
    (¬ Coherent left right →
      (∀ op ∈ [BinaryOp.less, .equal, .greater], ¬ Affirms op left right) ∧
      ∀ op ∈ [BinaryOp.lessEqual, .greaterEqual], Affirms op left right) ∧
    Equivalence fun left right : TextOperand context => Affirms .equal left right := by
  have hexact : Coherent left right ↔
      (Text.lower left.text = Text.lower right.text →
        Text.foldAscii left.text = Text.foldAscii right.text) := by
    rw [coherent_iff, compareTexts_eq_iff, affirms_equal_iff]
  refine ⟨hexact, fun hleft hright => hexact.mpr fun h => ?_, fun h => ?_,
    equivalence_affirms_equal⟩
  · rwa [hleft.lower_eq, hright.lower_eq] at h
  · rw [coherent_iff, Classical.not_imp] at h
    obtain ⟨horder, hdiffer⟩ := h
    simp [affirms_less_iff, affirms_greater_iff, affirms_lessEqual_iff, affirms_greaterEqual_iff,
      horder, hdiffer]

theorem comparisons_coherent_iff_sample :
    let capitals : TextOperand .empty := .quoted "STRAßE 7"
    let small : TextOperand .empty := .quoted "straße 7"
    Text.IsPlain capitals.text ∧ Text.IsPlain small.text ∧
    Coherent capitals small ∧ Affirms .equal capitals small := by
  intro capitals small
  have hcapitals : Text.IsPlain capitals.text := by decide +kernel
  have hsmall : Text.IsPlain small.text := by decide +kernel
  have hfold : Text.foldAscii capitals.text = Text.foldAscii small.text :=
    Text.foldAscii_eq_iff.mpr (by decide)
  obtain ⟨-, hplain, -⟩ := comparisons_coherent_iff capitals small
  exact ⟨hcapitals, hsmall, hplain hcapitals hsmall, affirms_equal_iff.mpr hfold⟩

/-- `É` is at most and at least `é` and compares in no other way with it. -/
theorem capital_letter_not_compared :
    let capital : TextOperand .empty := .quoted "É"
    let small : TextOperand .empty := .quoted "é"
    ¬ Coherent capital small ∧
    (∀ op ∈ [BinaryOp.less, .equal, .greater], ¬ Affirms op capital small) ∧
    ∀ op ∈ [BinaryOp.lessEqual, .greaterEqual], Affirms op capital small := by
  intro capital small
  have hlower : Text.lower "É" = Text.lower "é" := by decide +kernel
  have hfold : Text.foldAscii "É" ≠ Text.foldAscii "é" := by
    rw [Ne, Text.foldAscii_eq_iff]
    decide
  have horder : compareTexts capital.text small.text = .eq := compareTexts_eq_iff.mpr hlower
  have hdiffer : ¬ Affirms .equal capital small := fun h => hfold (affirms_equal_iff.mp h)
  refine ⟨fun h => hdiffer (coherent_iff.mp h horder), ?_, ?_⟩
  · simp [affirms_less_iff, affirms_greater_iff, horder, hdiffer]
  · simp [affirms_lessEqual_iff, affirms_greaterEqual_iff, horder]

end Pipeline.Expression
