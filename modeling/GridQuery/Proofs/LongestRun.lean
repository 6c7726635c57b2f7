import Mathlib.Data.List.TakeWhile

/-! The longest run at the front of a list: it is all there is up to the first element that does not
go on with it. -/
namespace GridQuery

variable {α : Type} {p : α → Bool}

theorem takeWhile_append_of_stop {front back : List α} (goesOn : ∀ a ∈ front, p a = true)
    (stops : ∀ a ∈ back.head?, p a = false) :
    (front ++ back).takeWhile p = front ∧ (front ++ back).dropWhile p = back := by
  rw [List.takeWhile_append_of_pos goesOn, List.dropWhile_append_of_pos goesOn]
  cases back with
  | nil => simp
  | cons a rest => simp [stops a rfl]

theorem stops_dropWhile (p : α → Bool) (l : List α) :
    ∀ a ∈ (l.dropWhile p).head?, p a = false := by
  intro a first
  have stopped := List.head?_dropWhile_not p l
  rwa [first] at stopped

end GridQuery
