import CubeAssessment.Resolution

/-! # Group-by and selection clauses

A query groups by a set of levels, its *gamma* clause, and selects by a set of predicates
`level = 'literal'`, its *sigma* clause. Both are collected from names that are resolved first, in
ascending order of the name, so which unresolvable name is reported does not depend on the order of
the input; and both are held as ascending lists, so neither does their text. -/

namespace CubeAssessment

/-- A name of a clause does not resolve. -/
inductive ClauseError where
  /-- A group-by name. -/
  | groupBy (cause : ResolveError)
  /-- The level name of a predicate. -/
  | selection (cause : ResolveError)
  deriving DecidableEq, Repr

namespace ClauseError

/-- Why the name does not resolve. -/
def cause : ClauseError → ResolveError
  | groupBy cause => cause
  | selection cause => cause

/-- The text of a clause error. -/
def message : ClauseError → String
  | groupBy cause => s!"Group-by name could not be resolved: {cause.message}"
  | selection cause => s!"Selection predicate could not be resolved: {cause.message}"

end ClauseError

/-- **Resolve a name for each item and collect what is made of the items and their levels.** Names
are resolved in ascending order, so the smallest that does not resolve fails the whole. -/
def Cube.collect {α β : Type} [LT β] [DecidableLT β] (cube : Cube) (name : α → String)
    (make : α → LevelRef → β) (items : List α) : Except ResolveError (List β) :=
  let sorted := items.mergeSort fun a b => decide (name a ≤ name b)
  (sorted.mapM fun item => (cube.resolve (name item)).map (make item)).map ascending

/-! ## Group-by -/

/-- **A group-by clause**: references to levels, strictly ascending. -/
structure GammaClause where
  /-- The levels grouped by. -/
  levels : List LevelRef
  deriving DecidableEq, Repr

namespace GammaClause

/-- The text of a group-by clause: the references, separated by commas. -/
def text (gamma : GammaClause) : String :=
  ",".intercalate (gamma.levels.map LevelRef.text)

/-- **The group-by clause of names.** Names of one level contribute one entry. -/
def build (cube : Cube) (names : List String) : Except ClauseError GammaClause :=
  match cube.collect id (fun _ level => level) names with
  | .error cause => .error (.groupBy cause)
  | .ok levels => .ok ⟨levels⟩

end GammaClause

/-! ## Selection -/

/-- One predicate of a selection: a level equals a literal. -/
structure Predicate where
  /-- The level. -/
  level : LevelRef
  /-- The literal, any text. -/
  literal : String
  deriving DecidableEq, Repr

namespace Predicate

/-- The text of a predicate. The literal stands between single quotes as it is. -/
def text (p : Predicate) : String := p.level.text ++ "='" ++ p.literal ++ "'"

/-- Predicates are ordered by the text of the level, then by the literal. -/
instance : LT Predicate :=
  ⟨fun a b => a.level < b.level ∨ (a.level.text = b.level.text ∧ a.literal < b.literal)⟩

instance : DecidableLT Predicate := fun a b =>
  inferInstanceAs
    (Decidable (a.level < b.level ∨ (a.level.text = b.level.text ∧ a.literal < b.literal)))

end Predicate

/-- **A selection clause**: predicates, strictly ascending. -/
structure SigmaClause where
  /-- The predicates. -/
  predicates : List Predicate
  deriving DecidableEq, Repr

namespace SigmaClause

/-- The text of a selection clause: the predicates, separated by commas. -/
def text (sigma : SigmaClause) : String :=
  ",".intercalate (sigma.predicates.map Predicate.text)

/-- **The selection clause of pairs of a level name and a literal.** Equal predicates contribute one
entry. -/
def build (cube : Cube) (pairs : List (String × String)) : Except ClauseError SigmaClause :=
  match cube.collect Prod.fst (fun pair level => Predicate.mk level pair.2) pairs with
  | .error cause => .error (.selection cause)
  | .ok predicates => .ok ⟨predicates⟩

end SigmaClause

end CubeAssessment
