/-! A row of characters or bytes cut at those of some kind. The cuts themselves are dropped. -/

namespace DependencyLinks.Text

/-- The pieces between the members that satisfy `p`; a row without any is one piece. -/
def cutAt (p : α → Bool) (cs : List α) : List (List α) :=
  match _ : cs.dropWhile fun c => !p c with
  | [] => [cs.takeWhile fun c => !p c]
  | _ :: rest => (cs.takeWhile fun c => !p c) :: cutAt p rest
termination_by cs.length
decreasing_by
  have shorter := (List.dropWhile_suffix (l := cs) fun c => !p c).length_le
  rw [‹cs.dropWhile _ = _›] at shorter
  simpa using Nat.lt_of_succ_le shorter

/-- The row up to a mark, and the row behind it if it is there. -/
def cutOnce [BEq α] (mark : α) (cs : List α) : List α × Option (List α) :=
  (cs.takeWhile (· != mark), (cs.dropWhile (· != mark)).tail?)

theorem cutAt_ne_nil (p : α → Bool) (cs : List α) : cutAt p cs ≠ [] := by
  rw [cutAt]
  split <;> simp

end DependencyLinks.Text
