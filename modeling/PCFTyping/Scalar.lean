/-
Plain values: what may stand where a name, a literal or a type key is asked
for.

Two plain values are the same key when their `Scalar.key` is the same: truth
values count as the numbers one and zero, and numbers compare by value
(`Scalar.key_eq_iff`). Every plain value also has a text (`Scalar.display`), a
kind (`Scalar.kindName`) and a truth value (`Scalar.truthy`).
-/

namespace PCFTyping

/-- A plain value. Decimals have one place: `tenths 15` is one and a half. -/
inductive Scalar where
  | null
  | bool (value : Bool)
  | int (value : Int)
  | tenths (value : Int)
  | text (value : String)
deriving DecidableEq, Repr, Inhabited

namespace Scalar

/-! ### Equality of keys -/

/-- The normal form under which plain values are compared: all numbers are
counted in tenths. -/
inductive Key where
  | null
  | number (tenths : Int)
  | text (value : String)
deriving DecidableEq, Repr, Inhabited

/-- Truth values are the numbers one and zero, so `true` and `1` are one key. -/
def key : Scalar → Key
  | .null => .null
  | .bool value => .number (if value then 10 else 0)
  | .int value => .number (10 * value)
  | .tenths value => .number value
  | .text value => .text value

/-- The number that a plain value counts as, if it counts as one. -/
def value? : Scalar → Option Rat
  | .bool value => some (if value then 1 else 0)
  | .int value => some value
  | .tenths value => some (value / 10)
  | .null | .text _ => none

/-- Equality of plain values. Numbers are equal by value, and truth values are
among them; the null value and a text are equal to themselves only. -/
inductive Equals : Scalar → Scalar → Prop where
  | null : Equals .null .null
  | number {a b x} : a.value? = some x → b.value? = some x → Equals a b
  | text {s} : Equals (.text s) (.text s)

/-- The key of a number counts its tenths. -/
theorem value?_eq_some_iff {s : Scalar} {x : Rat} :
    s.value? = some x ↔ ∃ n : Int, s.key = .number n ∧ (n : Rat) / 10 = x := by
  have htenths (n : Int) : ((10 * n : Int) : Rat) / 10 = n := by
    rw [Rat.intCast_mul]
    grind
  cases s with
  | null | text => simp [value?, key]
  | bool value =>
    have hvalue : ((if value then 10 else 0 : Int) : Rat) / 10 = if value then 1 else 0 := by
      cases value with
      | false => exact htenths 0
      | true => exact htenths 1
    simp only [value?, key, Key.number.injEq, Option.some.injEq, exists_eq_left', hvalue]
  | int value =>
    simp only [value?, key, Key.number.injEq, Option.some.injEq, exists_eq_left', htenths]
  | tenths value => simp only [value?, key, Key.number.injEq, Option.some.injEq, exists_eq_left']

/-- **Plain values have one key exactly if they are equal.** -/
theorem key_eq_iff {a b : Scalar} : a.key = b.key ↔ a.Equals b := by
  constructor
  · intro h
    cases a with
    | null =>
      cases b with
      | null => exact .null
      | _ => simp [key] at h
    | text s =>
      cases b with
      | text s' =>
        obtain rfl : s = s' := by simpa [key] using h
        exact .text
      | _ => simp [key] at h
    | bool | int | tenths =>
      exact .number (value?_eq_some_iff.mpr ⟨_, rfl, rfl⟩)
        (value?_eq_some_iff.mpr ⟨_, h.symm, rfl⟩)
  · intro h
    cases h with
    | null | text => rfl
    | number ha hb =>
      obtain ⟨n, hn, rfl⟩ := value?_eq_some_iff.mp ha
      obtain ⟨m, hm, hvalue⟩ := value?_eq_some_iff.mp hb
      have hcast : (m : Rat) = n := by grind
      rw [hn, hm, Rat.intCast_inj.mp hcast]

/-- The whole number that a plain value equals, if there is one. -/
def whole? : Scalar → Option Int
  | .bool value => some (if value then 1 else 0)
  | .int value => some value
  | .tenths value => if value % 10 = 0 then some (value / 10) else none
  | .null | .text _ => none

/-- Null, false, zero and the empty text count as off, all else as on. -/
def truthy : Scalar → Bool
  | .null => false
  | .bool value => value
  | .int value | .tenths value => value ≠ 0
  | .text value => value ≠ ""

/-! ### Texts -/

/-- A decimal with one place: the sign, the whole part, a point, the digit. -/
def tenthsText (value : Int) : String :=
  let digits := toString (value.natAbs / 10) ++ "." ++ toString (value.natAbs % 10)
  if value < 0 then "-" ++ digits else digits

/-- The text of a plain value; a text is its own text. -/
def display : Scalar → String
  | .null => "None"
  | .bool value => if value then "True" else "False"
  | .int value => toString value
  | .tenths value => tenthsText value
  | .text value => value

/-- What messages call the kind of a plain value. -/
def kindName : Scalar → String
  | .null => "NoneType"
  | .bool _ => "bool"
  | .int _ => "int"
  | .tenths _ => "float"
  | .text _ => "str"

end Scalar

end PCFTyping
