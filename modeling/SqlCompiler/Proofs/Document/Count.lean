import Mathlib.Algebra.Group.Int.Defs
import Mathlib.Algebra.Group.Nat.Defs
import SqlCompiler.Proofs.Document.Passes
import SqlCompiler.Proofs.Query.Count

/-! The counts of a document. Written out in digits, a count means what it means in the query; as a
number it does only if it needs no more than sixty-three bits.
-/

namespace SqlCompiler

-----------------------------------------------------------------------------------------
-- Counts as numbers
-----------------------------------------------------------------------------------------

namespace Count

theorem ofInt?_toNat (n : UInt64) : ofInt? n.toNat = some n := by
  have small : (n.toNat : Int) < UInt64.size := Int.ofNat_lt.mpr n.toNat_lt
  simp only [ofInt?, small, Int.natCast_nonneg, decide_true, Bool.and_self, reduceIte,
    Int.toNat_natCast, UInt64.ofNat_toNat]

end Count

-----------------------------------------------------------------------------------------
-- Counts in documents
-----------------------------------------------------------------------------------------

namespace Document

/-- The count of a document decides the limit of its query and nothing else. -/
theorem toQuery_limit (document : Document) (limit : Json) (binder : Binder)
    : ({ document with limit } : Document).toQuery binder
      = (document.toQuery binder).map fun query => { query with limit := toCount limit } := by
  simp only [toQuery, map_bind]
  rfl

theorem toQuery_offset (document : Document) (offset : Json) (binder : Binder)
    : ({ document with offset } : Document).toQuery binder
      = (document.toQuery binder).map fun query =>
          { query with offset := (toCount offset).getD 0 } := by
  simp only [toQuery, map_bind]
  rfl

theorem toCount_digits (n : UInt64) : toCount (.string (toString n)) = some n :=
  Count.ofText?_toString n

theorem toCount_number (n : UInt64)
    : toCount (.number (.integer n.toNat)) = if n.toNat < 2 ^ 63 then some n else none := by
  have greatest : Int64.maxValue.toInt = 2 ^ 63 - 1 := by decide
  rw [toCount, greatest, Count.ofInt?_toNat]
  congr 1
  exact propext (by omega)

/-- In digits a limit or an offset means in a document what it means in the query that the document
describes: every statement in every dialect is compiled alike, or refused alike. As a number it
does if it needs at most sixty-three bits; a greater one is dropped, and the statement is that
without it.
-/
theorem compile_counts (document : Document) (n : UInt64) (binder : Binder) (dialect : Dialect)
    (kind : StatementKind)
    : let compile (document : Document) (edit : Query → Query) :=
        (document.toQuery binder).map fun query =>
          (Compiler.forDialect dialect).compile kind (edit query)
      let digits : Json := .string (toString n)
      let number : Json := .number (.integer n.toNat)
      compile { document with limit := digits } id = compile document (·.setLimit n)
      ∧ compile { document with limit := number } id
        = (if n.toNat < 2 ^ 63 then compile document (·.setLimit n)
          else compile { document with limit := .null } id)
      ∧ compile { document with offset := digits } id = compile document (·.setOffset n)
      ∧ compile { document with offset := number } id
        = (if n.toNat < 2 ^ 63 then compile document (·.setOffset n)
          else compile { document with offset := .null } id) := by
  intro compile digits number
  have limited (limit : Json) (edit : Query → Query)
      : compile { document with limit } edit
        = compile document fun query => edit { query with limit := toCount limit } := by
    simp only [compile, toQuery_limit]
    cases document.toQuery binder <;> rfl
  have skipped (offset : Json) (edit : Query → Query)
      : compile { document with offset } edit
        = compile document fun query =>
            edit { query with offset := (toCount offset).getD 0 } := by
    simp only [compile, toQuery_offset]
    cases document.toQuery binder <;> rfl
  simp only [limited, skipped, digits, number, toCount_digits, toCount_number]
  refine ⟨rfl, ?_, rfl, ?_⟩
  · split <;> rfl
  · split <;> rfl

/-- The greatest count is a limit in digits, and no limit as a number. -/
theorem compile_drops
    : let document (limit : Json) : Document := { table := "t", limit }
      let compile (limit : Json) :=
        ((document limit).toQuery {}).map fun query =>
          ((Compiler.forDialect .mysql).compile .select query).1
      let compiled (sql : String) : Compiled :=
        { kind := .select, dialect := .mysql, sql, bound := [] }
      compile (.string "18446744073709551615")
        = .ok (.ok (compiled "SELECT * FROM \x60t\x60 LIMIT 18446744073709551615"))
      ∧ compile (.number (.integer 18446744073709551615))
        = .ok (.ok (compiled "SELECT * FROM \x60t\x60")) := by
  decide +kernel

end Document

end SqlCompiler
