/-! # Ascending lists

A finite set over an ordered type is written as the strictly ascending list of its members, so a
set has one representation and nothing computed from it can depend on the order or the repetition
of the input it was collected from. -/

namespace CubeAssessment

variable {α : Type} [LT α] [DecidableLT α]

/-- Put a member into an ascending list at its place; a member already there is kept. -/
def insertAscending (x : α) : List α → List α
  | [] => [x]
  | y :: ys =>
      if x < y then x :: y :: ys
      else if y < x then y :: insertAscending x ys
      else y :: ys

/-- **The ascending list of the members of a list.** -/
def ascending (xs : List α) : List α := xs.foldr insertAscending []

@[simp] theorem ascending_nil : ascending ([] : List α) = [] := rfl

@[simp] theorem ascending_cons (x : α) (xs : List α) :
    ascending (x :: xs) = insertAscending x (ascending xs) := rfl

end CubeAssessment
