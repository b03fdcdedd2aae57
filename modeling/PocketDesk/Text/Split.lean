/-! Cutting a text at separators. `fields` cuts at every separator, so `n`
separators give `n + 1` fields, some of them possibly empty; no field holds a
separator, and joining the fields of a text gives the text back. -/

namespace PocketDesk.Text

/-- The pieces between the separators, empty ones included. -/
def fields (sep : Char → Bool) : List Char → List (List Char)
  | [] => [[]]
  | c :: r =>
    if sep c then [] :: fields sep r
    else
      match fields sep r with
      | [] => [[c]]
      | w :: ws => (c :: w) :: ws

theorem fields_ne_nil (sep : Char → Bool) (s : List Char) : fields sep s ≠ [] := by
  cases s with
  | nil => simp [fields]
  | cons c r =>
    simp only [fields]
    split
    · simp
    · split <;> simp

theorem sep_eq_false_of_mem_fields {sep : Char → Bool} {s w : List Char} (h : w ∈ fields sep s)
    {c : Char} (hc : c ∈ w) : sep c = false := by
  induction s generalizing w with
  | nil => simp_all [fields]
  | cons d r ih =>
    simp only [fields] at h
    split at h
    · rcases List.mem_cons.1 h with rfl | h
      · simp at hc
      · exact ih h hc
    · rename_i hd
      split at h
      · simp_all
      · rename_i v vs hf
        rcases List.mem_cons.1 h with rfl | h
        · rcases List.mem_cons.1 hc with rfl | hc
          · simpa using hd
          · exact ih (by simp [hf]) hc
        · exact ih (by simp [hf, h]) hc

/-- The pieces put together again with `glue` between them. -/
def join (glue : List Char) (pieces : List (List Char)) : List Char :=
  (pieces.intersperse glue).flatten

theorem join_cons_cons (glue p q : List Char) (r : List (List Char)) :
    join glue (p :: q :: r) = p ++ glue ++ join glue (q :: r) := by
  simp [join]

/-- Joining what was cut at `c` restores the text. -/
theorem join_fields (c : Char) (s : List Char) : join [c] (fields (· == c) s) = s := by
  induction s with
  | nil => simp [fields, join]
  | cons d r ih =>
    simp only [fields]
    split
    · rename_i h
      obtain rfl : d = c := by simpa using h
      cases hf : fields (· == d) r with
      | nil => exact absurd hf (fields_ne_nil _ _)
      | cons w ws => rw [join_cons_cons, ← hf, ih]; simp
    · cases hf : fields (· == c) r with
      | nil => exact absurd hf (fields_ne_nil _ _)
      | cons w ws =>
        rw [hf] at ih
        cases ws with
        | nil => simp_all [join]
        | cons v vs => simp_all [join_cons_cons]

/-- The text without the characters at its end that satisfy `p`. -/
def dropLastWhile (p : Char → Bool) (s : List Char) : List Char :=
  (s.reverse.dropWhile p).reverse

/-- The longest end of the text whose characters satisfy `p`. -/
def takeLastWhile (p : Char → Bool) (s : List Char) : List Char :=
  (s.reverse.takeWhile p).reverse

theorem dropLastWhile_append_takeLastWhile (p : Char → Bool) (s : List Char) :
    dropLastWhile p s ++ takeLastWhile p s = s := by
  rw [dropLastWhile, takeLastWhile, ← List.reverse_append, List.takeWhile_append_dropWhile,
    List.reverse_reverse]

/-- Does `whole` begin with `start`, and what follows it. -/
def stripStart? : (start whole : List Char) → Option (List Char)
  | [], s => some s
  | _ :: _, [] => none
  | c :: p, d :: s => if c = d then stripStart? p s else none

theorem stripStart?_eq_some_iff {p s r : List Char} : stripStart? p s = some r ↔ s = p ++ r := by
  induction p generalizing s with
  | nil => simp [stripStart?]
  | cons c p ih =>
    cases s with
    | nil => simp [stripStart?]
    | cons d s =>
      simp only [stripStart?]
      split <;> simp_all [eq_comm]

/-- Does `whole` end with `ending`, and what stands before it. -/
def stripEnd? (ending whole : List Char) : Option (List Char) :=
  (stripStart? ending.reverse whole.reverse).map List.reverse

theorem stripEnd?_eq_some_iff {e s r : List Char} : stripEnd? e s = some r ↔ s = r ++ e := by
  simp only [stripEnd?, Option.map_eq_some_iff, stripStart?_eq_some_iff]
  constructor
  · rintro ⟨t, ht, rfl⟩
    simpa using congrArg List.reverse ht
  · rintro rfl
    exact ⟨r.reverse, by simp, by simp⟩

/-- What stands before and after the first occurrence of `mark`. -/
def cutAt? (mark : List Char) : List Char → Option (List Char × List Char)
  | [] => (stripStart? mark []).map ([], ·)
  | c :: s =>
    match stripStart? mark (c :: s) with
    | some after => some ([], after)
    | none => (cutAt? mark s).map fun (before, after) => (c :: before, after)

theorem eq_of_cutAt? {mark s before after : List Char} (h : cutAt? mark s = some (before, after)) :
    s = before ++ mark ++ after := by
  induction s generalizing before with
  | nil =>
    simp only [cutAt?, Option.map_eq_some_iff, Prod.mk.injEq] at h
    obtain ⟨_, hs, rfl, rfl⟩ := h
    simpa using stripStart?_eq_some_iff.1 hs
  | cons c s ih =>
    simp only [cutAt?] at h
    split at h
    · rename_i hs
      obtain ⟨rfl, rfl⟩ := Prod.mk.inj (Option.some.inj h)
      simpa using stripStart?_eq_some_iff.1 hs
    · simp only [Option.map_eq_some_iff, Prod.mk.injEq, Prod.exists] at h
      obtain ⟨b, a, hc, rfl, rfl⟩ := h
      simp [ih hc]

end PocketDesk.Text
