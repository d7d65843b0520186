/-
The ways in which a term can fail to have a type. They are told apart only to
explain a failure.
-/

namespace PCFTyping

/-- Why a term is ill-typed. -/
inductive FailureKind where
  | unboundIdentifier
  | notAFunction
  | argumentTypeMismatch
  | recursionTypeMismatch
  | conditionalBranchMismatch
  | letTypeMismatch
  | notAPair
deriving DecidableEq, Repr

namespace FailureKind

/-- Every kind, in the order in which they are listed to a user. -/
def all : List FailureKind :=
  [unboundIdentifier, notAFunction, argumentTypeMismatch, recursionTypeMismatch,
    conditionalBranchMismatch, letTypeMismatch, notAPair]

/-- The word for a kind. -/
def name : FailureKind → String
  | unboundIdentifier => "UnboundIdentifier"
  | notAFunction => "NotAFunction"
  | argumentTypeMismatch => "ArgumentTypeMismatch"
  | recursionTypeMismatch => "RecursionTypeMismatch"
  | conditionalBranchMismatch => "ConditionalBranchMismatch"
  | letTypeMismatch => "LetTypeMismatch"
  | notAPair => "NotAPair"

/-- The kind that a word stands for. -/
def ofName? (word : String) : Option FailureKind := all.find? fun kind => kind.name == word

/-- Nothing is left out of the list. -/
theorem mem_all (kind : FailureKind) : kind ∈ all := by cases kind <;> decide

/-- A kind is read back from its word. -/
theorem ofName?_name (kind : FailureKind) : ofName? kind.name = some kind := by
  cases kind <;> decide

end FailureKind

end PCFTyping
