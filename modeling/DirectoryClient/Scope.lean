/-!
# The breadth of a search
-/

namespace DirectoryClient

/-- How far below its base a search looks. -/
inductive Scope
  | base
  /-- At what is directly below the base. -/
  | oneLevel
  /-- At the base and everything below. -/
  | subtree
  deriving DecidableEq

namespace Scope

def keyword : Scope → String
  | base => "base"
  | oneLevel => "one_level"
  | subtree => "subtree"

/-- The scope that a word names exactly. -/
def ofKeyword? (word : String) : Option Scope :=
  [base, oneLevel, subtree].find? (·.keyword = word)

def code : Scope → Nat
  | base => 0
  | oneLevel => 1
  | subtree => 2

theorem ofKeyword?_keyword (s : Scope) : ofKeyword? s.keyword = some s := by
  cases s <;> decide

end Scope

end DirectoryClient
