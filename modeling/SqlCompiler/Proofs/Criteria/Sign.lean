import SqlCompiler.Criteria.Basic
import SqlCompiler.Proofs.Binder.Numbering
import SqlCompiler.Proofs.Sql.Lexeme

/-! The signs of relations: what a relation says of its values, without the values. A sign is
written around the placeholders of the values, and it can be told from the text where it ends.
-/

namespace SqlCompiler

open Sql

/-- A relation without its values. -/
inductive Sign
  | compare (op : CompareOp)
  | isIn
  | notIn
  | between
  | like
  | isNull
  | isNotNull
deriving DecidableEq

def Relation.sign : Relation → Sign
  | .compare op _ => .compare op
  | .isIn _ => .isIn
  | .notIn _ => .notIn
  | .between _ _ => .between
  | .like _ => .like
  | .isNull => .isNull
  | .isNotNull => .isNotNull

/-- A relation is known from its sign and its values, by cases on both relations. -/
theorem Relation.eq_of_sign_of_values {left right : Relation} (sameSign : left.sign = right.sign)
    (sameValues : left.values = right.values)
    : left = right := by
  cases left <;> cases right <;> simp_all [sign, values]

namespace Sign

def all : List Sign :=
  [compare .eq, compare .ne, compare .lt, compare .le, compare .gt, compare .ge, isIn, notIn,
    between, like, isNull, isNotNull]

theorem mem_all (sign : Sign) : sign ∈ all := by
  cases sign with
  | compare op => cases op <;> decide
  | _ => decide

/-- The numbers of values that a sign is written with. -/
def Admits : Sign → Nat → Prop
  | compare _, count | like, count => count = 1
  | isIn, count | notIn, count => 0 < count
  | between, count => count = 2
  | isNull, count | isNotNull, count => count = 0

-----------------------------------------------------------------------------------------
-- Texts
-----------------------------------------------------------------------------------------

/-- The text between a column and the first value, or behind the column if there is none. -/
def opening : Sign → String
  | compare op => " " ++ op.symbol ++ " "
  | isIn => " IN ( "
  | notIn => " NOT IN ( "
  | between => " BETWEEN "
  | like => " LIKE "
  | isNull => " IS NULL"
  | isNotNull => " IS NOT NULL"

/-- The text between two values. -/
def separator : Sign → String
  | isIn | notIn => ", "
  | between => " AND "
  | compare _ | like | isNull | isNotNull => ""

/-- The text behind the last value. -/
def closing : Sign → String
  | isIn | notIn => " )"
  | compare _ | between | like | isNull | isNotNull => ""

/-- What the placeholders of some values are read as, with the texts between and behind them. -/
def operand (sign : Sign) (placeholderPrefix : String) (number count : Nat) : List Lexeme :=
  List.intercalate (sign.separator.toList.map .char)
      ((List.range' number count).map fun n =>
        (Binder.placeholder placeholderPrefix n).toList.map .char)
    ++ sign.closing.toList.map .char

theorem exists_opening (sign : Sign) : ∃ text, sign.opening.toList = ' ' :: text := by
  cases sign <;> simp [opening]

/-- No sign starts like another one. -/
theorem eq_of_opening_starts {left right : Sign}
    (starts : left.opening.toList <+: right.opening.toList)
    : left = right := by
  have prefixFree
      : ∀ left ∈ all, ∀ right ∈ all,
          left.opening.toList <+: right.opening.toList → left = right := by
    decide
  exact prefixFree left left.mem_all right right.mem_all starts

/-- The text behind a column tells which sign it is, and where the sign ends. -/
theorem opening_append_inj {left right : Sign} {x y : List Lexeme}
    (same
      : left.opening.toList.map Lexeme.char ++ x = right.opening.toList.map .char ++ y)
    : left = right ∧ x = y := by
  have injective : Function.Injective Lexeme.char := fun _ _ => Lexeme.char.inj
  have starts := List.prefix_append (left.opening.toList.map Lexeme.char) x
  rw [same] at starts
  have equal : left = right := by
    rcases List.prefix_or_prefix_of_prefix starts (List.prefix_append _ y) with first | second
    · exact eq_of_opening_starts ((List.prefix_map_iff_of_injective injective).mp first)
    · exact (eq_of_opening_starts
        ((List.prefix_map_iff_of_injective injective).mp second)).symm
  subst equal
  exact ⟨rfl, List.append_cancel_left same⟩

/-- A list of tokens ends where no comma follows, so it can be told how many there are, by
induction on their number.
-/
theorem list_append_inj (token : Nat → List Lexeme) {number left right : Nat}
    (notEmptyLeft : 0 < left) (notEmptyRight : 0 < right) {x y : List Lexeme}
    (same
      : List.intercalate [.char ',', .char ' '] ((List.range' number left).map token)
          ++ .char ' ' :: x
        = List.intercalate [.char ',', .char ' '] ((List.range' number right).map token)
          ++ .char ' ' :: y)
    : left = right ∧ x = y := by
  have more (number count : Nat)
      : List.intercalate [.char ',', .char ' '] ((List.range' number (count + 2)).map token)
        = token number
          ++ .char ','
            :: .char ' '
              :: List.intercalate [.char ',', .char ' ']
                ((List.range' (number + 1) (count + 1)).map token) := by
    simp [List.range'_succ]
  induction left generalizing number right with
  | zero => cases notEmptyLeft
  | succ left ih =>
      obtain ⟨right, rfl⟩ := Nat.exists_eq_add_one.mpr notEmptyRight
      cases left with
      | zero =>
          cases right with
          | zero => simpa [List.range'_succ] using same
          | succ right => simp [List.range'_succ] at same
      | succ left =>
          cases right with
          | zero => simp [List.range'_succ] at same
          | succ right =>
              simp only [more, List.append_assoc, List.cons_append,
                List.append_cancel_left_eq, List.cons.injEq, true_and] at same
              obtain ⟨equal, tails⟩ := ih left.succ_pos right.succ_pos same
              exact ⟨congrArg (· + 1) equal, tails⟩

/-- The placeholders of a sign's values tell how many there are, and where they end. -/
theorem operand_append_inj {sign : Sign} {placeholderPrefix : String} {number left right : Nat}
    (admitsLeft : sign.Admits left) (admitsRight : sign.Admits right) {x y : List Lexeme}
    (same
      : sign.operand placeholderPrefix number left ++ x
        = sign.operand placeholderPrefix number right ++ y)
    : left = right ∧ x = y := by
  have fixed (equal : left = right) : left = right ∧ x = y := by
    subst equal
    exact ⟨rfl, List.append_cancel_left same⟩
  cases sign with
  | isIn | notIn =>
      simp only [operand, separator, closing, List.append_assoc] at same
      exact fixed (list_append_inj _ admitsLeft admitsRight same).1
  | compare _ | between | like | isNull | isNotNull =>
      exact fixed (admitsLeft.trans admitsRight.symm)

end Sign

end SqlCompiler
