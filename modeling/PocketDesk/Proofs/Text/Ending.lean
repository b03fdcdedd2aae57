import Mathlib.Data.List.DropRight
import PocketDesk.Proofs.Text.Words

/-! # What stands behind the last separator

A text falls at its last separator into what goes up to it and what follows. The two
parts are told by what they are: no separator in the second, and one at the end of the
first, if it has an end. For blanks, the second part is the word that the text ends in. -/

namespace PocketDesk.Text

variable {sep : Char → Bool} {s head ending : List Char}

/-- `ending` is what follows the last separator of the text, and `head` what goes up to it. -/
structure CutAtLast (sep : Char → Bool) (s head ending : List Char) : Prop where
  append : head ++ ending = s
  ending : ∀ c ∈ ending, sep c = false
  head : ∀ c, head.getLast? = some c → sep c = true

/-- Every text is cut in this way. -/
theorem exists_cutAtLast (sep : Char → Bool) (s : List Char) :
    ∃ head ending, CutAtLast sep s head ending := by
  refine ⟨_, _, dropLastWhile_append_takeLastWhile (!sep ·) s, ?_, ?_⟩
  · intro c hc
    have hnot := List.mem_takeWhile_imp (List.mem_reverse.mp hc)
    simpa using hnot
  · intro c hc
    rw [dropLastWhile, List.getLast?_reverse] at hc
    have hfirst := List.head?_dropWhile_not (!sep ·) s.reverse
    rw [hc] at hfirst
    simpa using hfirst

/-- And in no other. -/
theorem CutAtLast.eq (h : CutAtLast sep s head ending) :
    head = dropLastWhile (!sep ·) s ∧ ending = takeLastWhile (!sep ·) s := by
  obtain ⟨rfl, hending, hhead⟩ := h
  have hall : ∀ c ∈ ending.reverse, (!sep c) = true := by
    intro c hc
    rw [hending c (List.mem_reverse.mp hc)]
    rfl
  have hstop : head.reverse.takeWhile (!sep ·) = [] := by
    cases hlast : head.reverse with
    | nil => rfl
    | cons c rest =>
      have hc : sep c = true := hhead c (by rw [← List.head?_reverse, hlast]; rfl)
      simp [hc]
  have htake : takeLastWhile (!sep ·) (head ++ ending) = ending := by
    rw [takeLastWhile, List.reverse_append, List.takeWhile_append_of_pos hall, hstop,
      List.append_nil, List.reverse_reverse]
  have happend := dropLastWhile_append_takeLastWhile (!sep ·) (head ++ ending)
  rw [htake] at happend
  exact ⟨(List.append_cancel_right happend).symm, htake.symm⟩

/-- What follows the separator can be replaced, as long as no separator comes in. -/
theorem CutAtLast.replace (h : CutAtLast sep s head ending) {other : List Char}
    (hother : ∀ c ∈ other, sep c = false) : CutAtLast sep (head ++ other) head other :=
  ⟨rfl, hother, h.head⟩

/-- What follows the last mark in the last part can be replaced as well. -/
theorem CutAtLast.replace_in_ending {mark : Char → Bool} {before after : List Char}
    (h : CutAtLast sep s head ending) (hin : CutAtLast mark ending before after)
    {other : List Char} (hother : ∀ c ∈ other, sep c = false) :
    CutAtLast sep (head ++ (before ++ other)) head (before ++ other) := by
  refine h.replace fun c hc => ?_
  rcases List.mem_append.mp hc with hc | hc
  · exact h.ending c (by rw [← hin.append]; exact List.mem_append_left _ hc)
  · exact hother c hc

/-! ## The last word -/

theorem words_eq_nil_iff : words s = [] ↔ ∀ c ∈ s, isBlank c = true := by
  constructor
  · intro h c hc
    cases hblank : isBlank c with
    | true => rfl
    | false =>
      obtain ⟨w, hw, hcw⟩ := exists_mem_fields hc hblank
      have hne : w ≠ [] := List.ne_nil_of_mem hcw
      have hmem : w ∈ words s := List.mem_filter.mpr ⟨hw, by simpa using hne⟩
      rw [h] at hmem
      cases hmem
  · intro h
    induction s with
    | nil => rfl
    | cons c s ih =>
      obtain ⟨hc, hs⟩ := List.forall_mem_cons.mp h
      have hcons := words_append_cons hc [] s
      rw [List.nil_append, ih hs, List.append_nil] at hcons
      exact hcons

theorem trim_eq_nil_iff : trim s = [] ↔ ∀ c ∈ s, isBlank c = true := by
  have hend : ∀ t : List Char, trimEnd t = [] ↔ t.dropWhile isBlank = [] := by
    intro t
    rw [trimEnd, dropLastWhile, List.reverse_eq_nil_iff, List.dropWhile_eq_nil_iff,
      List.dropWhile_eq_nil_iff]
    exact ⟨fun h c hc => h c (List.mem_reverse.mpr hc), fun h c hc => h c (List.mem_reverse.mp hc)⟩
  rw [trim, hend, trimStart, List.dropWhile_idempotent, List.dropWhile_eq_nil_iff]

theorem CutAtLast.words (h : CutAtLast isBlank s head ending) :
    words s = Text.words head ++ Text.words ending := by
  obtain ⟨rfl, -, hhead⟩ := h
  rcases List.eq_nil_or_concat head with rfl | ⟨before, c, rfl⟩
  · rfl
  · have hc : isBlank c = true := hhead c (by simp)
    rw [List.concat_eq_append, List.append_assoc, List.singleton_append, words_append_cons hc,
      words_append_cons hc]
    simp [Text.words, fields]

theorem CutAtLast.words_of_ne_nil (h : CutAtLast isBlank s head ending) (hne : ending ≠ []) :
    Text.words s = Text.words head ++ [ending] := by
  rw [h.words, words_eq_singleton h.ending hne]

/-- Behind nothing but blanks it is the only word. -/
theorem CutAtLast.words_eq_singleton (h : CutAtLast isBlank s head ending) (hne : ending ≠ [])
    (hhead : ∀ c ∈ head, isBlank c = true) : Text.words s = [ending] := by
  rw [h.words_of_ne_nil hne, words_eq_nil_iff.mpr hhead, List.nil_append]

end PocketDesk.Text
