import Mathlib.Data.List.DropRight
import PocketDesk.Terminal.Log

/-! # What a log holds after lines were added

A log holds the last of all the lines that were added to it, as many as it has room
for. Dropping the oldest lines at every step comes to the same as dropping them once
at the end, so a batch of lines can be told in one step, and so can the part of it
that is still there. -/

namespace PocketDesk.Log

/-! ## The last entries of a list -/

section Last

variable {α : Type} (n : Nat) (xs ys : List α)

theorem rtake_of_length_le (h : xs.length ≤ n) : xs.rtake n = xs := by
  rw [List.rtake, Nat.sub_eq_zero_of_le h, List.drop_zero]

/-- What is not among the last `n` can go before more comes. -/
theorem rtake_rtake_append : (xs.rtake n ++ ys).rtake n = (xs ++ ys).rtake n := by
  simp only [List.rtake_eq_reverse_take_reverse, List.reverse_append, List.reverse_reverse,
    List.take_append, List.take_take, Nat.min_eq_left (Nat.sub_le _ _)]

/-- Of the last `n`, those that came with `ys`. -/
theorem rtake_length_rtake_append : ((xs ++ ys).rtake n).rtake ys.length = ys.rtake n := by
  have hle : min ys.reverse.length n ≤ ys.reverse.length := Nat.min_le_left ..
  simp only [List.rtake_eq_reverse_take_reverse, List.reverse_append, List.reverse_reverse,
    List.take_take]
  rw [← List.length_reverse, List.take_append_of_le_length hle, Nat.min_comm,
    ← List.take_eq_take_min]

end Last

/-! ## Adding lines -/

variable (l : Log)

theorem lines_push (line : Line) : (l.push line).lines = (l.lines ++ [line]).rtake l.capacity := by
  have hle := l.length_le
  have hpos := l.capacity_pos
  unfold push
  split
  · next hfull =>
    have hone : (l.lines ++ [line]).length - l.capacity = 1 := by
      rw [List.length_append, List.length_singleton]
      omega
    have hlines : l.lines ≠ [] := List.ne_nil_of_length_pos (by omega)
    rw [List.rtake, hone, List.drop_one, List.tail_append_of_ne_nil hlines]
  · next hroom =>
    rw [rtake_of_length_le]
    rw [List.length_append, List.length_singleton]
    omega

theorem capacity_extend (added : List Line) : (l.extend added).capacity = l.capacity := by
  induction added generalizing l with
  | nil => rfl
  | cons line added ih => exact (ih (l.push line)).trans (l.capacity_push line)

theorem next_extend (added : List Line) : (l.extend added).next = l.next + added.length := by
  induction added generalizing l with
  | nil => rfl
  | cons line added ih =>
    have hrest : (l.extend (line :: added)).next = (l.push line).next + added.length :=
      ih (l.push line)
    rw [hrest, next_push, List.length_cons, Nat.add_assoc, Nat.add_comm 1]

/-- **A batch of lines.** Of the old lines and the added ones the log holds the last. -/
theorem lines_extend (added : List Line) :
    (l.extend added).lines = (l.lines ++ added).rtake l.capacity := by
  induction added generalizing l with
  | nil =>
    rw [List.append_nil, rtake_of_length_le _ _ l.length_le]
    rfl
  | cons line added ih =>
    have hrest : (l.extend (line :: added)).lines =
        ((l.push line).lines ++ added).rtake (l.push line).capacity := ih (l.push line)
    rw [hrest, lines_push, capacity_push, rtake_rtake_append, List.append_assoc,
      List.singleton_append]

/-- The lines from a number on are the last ones. -/
theorem since_eq_rtake (n : Nat) : l.since n = l.lines.rtake (l.next - n) := by
  unfold since next List.rtake
  by_cases hn : n ≤ l.gone + l.lines.length
  · congr 1
    omega
  · rw [List.drop_eq_nil_of_le (by omega), List.drop_eq_nil_of_le (by omega)]

/-- What is still there of a batch of lines. -/
theorem since_extend (added : List Line) :
    (l.extend added).since l.next = added.rtake l.capacity := by
  rw [since_eq_rtake, next_extend, lines_extend, Nat.add_sub_cancel_left,
    rtake_length_rtake_append]

/-! ## The lines behind the last one -/

theorem length_numbered : l.numbered.length = l.lines.length := by simp [numbered]

theorem fst_getElem_numbered {i : Nat} (hi : i < l.numbered.length) :
    (l.numbered[i]).1 = l.gone + i := by
  simp [numbered]

/-- A number is found where its line stands, as long as the line is there. -/
theorem findIdx?_numbered {n : Nat} (hgone : l.gone ≤ n) (hnext : n < l.next) :
    (l.numbered.findIdx? fun entry => entry.1 = n) = some (n - l.gone) := by
  unfold next at hnext
  have hlength := l.length_numbered
  rw [List.findIdx?_eq_some_iff_getElem]
  refine ⟨by omega, ?_, ?_⟩
  · rw [fst_getElem_numbered, decide_eq_true_eq]
    omega
  · intro j hj
    rw [fst_getElem_numbered, decide_eq_true_eq]
    omega

theorem behind_eq_since {n : Nat} (hgone : l.gone ≤ n) (hnext : n < l.next) :
    l.behind (some n) = l.since (n + 1) := by
  have hplace : n + 1 - l.gone = n - l.gone + 1 := by omega
  simp only [behind, l.findIdx?_numbered hgone hnext, since, hplace]

theorem behind_of_lines_eq_nil (h : l.lines = []) (n? : Option Nat) : l.behind n? = [] := by
  cases n? with
  | none => exact h
  | some n =>
    simp only [behind]
    split
    · rw [h, List.drop_nil]
    · exact h

theorem lastNumber?_of_nil (h : l.lines = []) : l.lastNumber? = none := by
  simp [lastNumber?, numbered, h]

theorem lastNumber?_of_ne_nil (h : l.lines ≠ []) : l.lastNumber? = some (l.next - 1) := by
  have hpos : 0 < l.lines.length := List.length_pos_iff.mpr h
  have hlast : l.numbered.length - 1 < l.numbered.length := by
    rw [length_numbered]
    omega
  rw [lastNumber?, List.getLast?_eq_getElem?, List.getElem?_eq_getElem hlast, Option.map_some,
    fst_getElem_numbered, length_numbered, next]
  congr 1
  omega

/-- **Nothing is missed, and nothing is seen twice.** Behind the line that was the last one stand the
lines of the batch that came since, unless the batch is large enough to push that line out. -/
theorem behind_extend {added : List Line} (h : added.length < l.capacity) :
    (l.extend added).behind l.lastNumber? = added := by
  have hall : (l.extend added).since l.next = added := by
    rw [since_extend, rtake_of_length_le _ _ h.le]
  by_cases hlines : l.lines = []
  · rw [lastNumber?_of_nil l hlines, behind, lines_extend, hlines, List.nil_append,
      rtake_of_length_le _ _ h.le]
  · have hpos : 0 < l.lines.length := List.length_pos_iff.mpr hlines
    have hnext := l.next_extend added
    have hlength : (l.extend added).lines.length =
        min l.capacity (l.lines.length + added.length) := by
      rw [lines_extend, List.rtake, List.length_drop, List.length_append]
      omega
    -- the last line of before is the oldest that is left, at worst
    have hgone : (l.extend added).gone ≤ l.next - 1 := by
      simp only [next, hlength] at hnext ⊢
      omega
    have hback : l.next - 1 + 1 = l.next := by
      simp only [next]
      omega
    rw [lastNumber?_of_ne_nil l hlines, behind_eq_since _ hgone (by omega), hback, hall]

end PocketDesk.Log
