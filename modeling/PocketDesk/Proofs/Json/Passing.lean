import Mathlib.Data.List.DropRight
import PocketDesk.Json.Record

/-! # Passing over a value

What passes over a value keeps the open brackets on a stack. A value inside others is
passed over as it would be by itself: the brackets around it are not looked at until it
has ended. In every move a character is taken, or one was taken in the move before, so
the moves are enough for whatever stands there. -/

namespace PocketDesk.Json

/-! ## What is left is shorter -/

/-- What follows a step that succeeds is done with what the step left. -/
theorem bind_eq_ok {α β : Type} {x : Except Fault α} {f : α → Except Fault β} {b : β}
    (h : (x >>= f) = .ok b) : ∃ a, x = .ok a ∧ f a = .ok b := by
  cases x with
  | error e => cases h
  | ok a => exact ⟨a, rfl, h⟩

theorem length_skipSpace_le (s : List Char) : (skipSpace s).length ≤ s.length :=
  (List.dropWhile_suffix _).length_le

theorem length_expectWord_le {word s r : List Char} (h : expectWord word s = .ok r) :
    r.length ≤ s.length := by
  fun_induction expectWord word s with
  | case1 s =>
    obtain rfl := Except.ok.inj h
    exact Nat.le_refl _
  | case2 => cases h
  | case3 c word s ih => exact (ih h).trans (Nat.le_succ _)
  | case4 => cases h

theorem length_readHex4_lt {s r : List Char} {n : Nat} (h : readHex4 s = .ok (n, r)) :
    r.length < s.length := by
  unfold readHex4 at h
  split at h
  · split at h
    · obtain ⟨-, rfl⟩ := Prod.mk.inj (Except.ok.inj h)
      simp only [List.length_cons]
      omega
    · cases h
  · split at h <;> cases h

theorem length_skipStringItem_lt {s r : List Char} {ended : Bool}
    (h : skipStringItem s = .ok (ended, r)) : r.length < s.length := by
  unfold skipStringItem at h
  split at h
  · cases h
  · cases h
    exact Nat.lt_succ_self _
  · cases h
  · next t =>
    obtain ⟨⟨n, u⟩, hhex, h⟩ := bind_eq_ok h
    have hlt := length_readHex4_lt hhex
    cases h
    simp only [List.length_cons]
    omega
  · split at h
    · cases h
      simp only [List.length_cons]
      omega
    · cases h
  · split at h
    · cases h
    · cases h
      exact Nat.lt_succ_self _

theorem length_skipStringItems_lt {fuel : Nat} {s r : List Char}
    (h : skipStringItems fuel s = .ok r) : r.length < s.length := by
  fun_induction skipStringItems fuel s with
  | case1 => cases h
  | case2 => cases h
  | case3 fuel s t hitem =>
    obtain rfl := Except.ok.inj h
    exact length_skipStringItem_lt hitem
  | case4 fuel s t hitem ih => exact (ih h).trans (length_skipStringItem_lt hitem)

theorem length_skipDigits_lt {s r : List Char} (h : skipDigits s = .ok r) :
    r.length < s.length := by
  unfold skipDigits at h
  split at h
  · cases h
  · split at h
    · obtain rfl := Except.ok.inj h
      exact Nat.lt_succ_of_le (List.dropWhile_suffix _).length_le
    · cases h

theorem length_skipExponent_lt {s r : List Char} (h : skipExponent s = .ok r) :
    r.length < s.length := by
  unfold skipExponent at h
  split at h
  · exact (length_skipDigits_lt h).trans (Nat.lt_succ_self _)
  · exact (length_skipDigits_lt h).trans (Nat.lt_succ_self _)
  · exact length_skipDigits_lt h

theorem length_skipExponent?_le {s r : List Char} (h : skipExponent? s = .ok r) :
    r.length ≤ s.length := by
  unfold skipExponent? at h
  split at h
  · exact ((length_skipExponent_lt h).trans (Nat.lt_succ_self _)).le
  · exact ((length_skipExponent_lt h).trans (Nat.lt_succ_self _)).le
  · obtain rfl := Except.ok.inj h
    exact Nat.le_refl _

theorem length_skipFraction?_le {s r : List Char} (h : skipFraction? s = .ok r) :
    r.length ≤ s.length := by
  unfold skipFraction? at h
  split at h
  · obtain ⟨t, hdigits, h⟩ := bind_eq_ok h
    have hlt := length_skipDigits_lt hdigits
    have hle := length_skipExponent?_le h
    simp only [List.length_cons]
    omega
  · exact length_skipExponent?_le h

theorem length_skipMagnitude_lt {s r : List Char} (h : skipMagnitude s = .ok r) :
    r.length < s.length := by
  unfold skipMagnitude at h
  split at h
  · split at h
    · cases h
    · exact Nat.lt_succ_of_le (length_skipFraction?_le h)
  · obtain ⟨t, hdigits, h⟩ := bind_eq_ok h
    exact Nat.lt_of_le_of_lt (length_skipFraction?_le h) (length_skipDigits_lt hdigits)

theorem length_skipScalar_le {c : Char} {s r : List Char} (h : skipScalar c s = .ok r) :
    r.length ≤ s.length := by
  unfold skipScalar at h
  split at h
  · exact length_expectWord_le h
  · split at h
    · exact length_expectWord_le h
    · split at h
      · exact length_expectWord_le h
      · split at h
        · exact (length_skipStringItems_lt h).le
        · split at h
          · exact (length_skipMagnitude_lt h).le
          · split at h
            · exact Nat.le_of_lt_succ (length_skipMagnitude_lt h)
            · cases h

theorem length_skipKey_lt {s r : List Char} (h : skipKey s = .ok r) : r.length < s.length := by
  have hs := length_skipSpace_le s
  unfold skipKey at h
  split at h
  · cases h
  · next c t heq =>
    rw [heq, List.length_cons] at hs
    split at h
    · cases h
    · obtain ⟨u, hbody, h⟩ := bind_eq_ok h
      have hu := length_skipStringItems_lt hbody
      have hspace := length_skipSpace_le u
      split at h
      · cases h
      · next d v heq =>
        rw [heq, List.length_cons] at hspace
        split at h
        · obtain rfl := Except.ok.inj h
          omega
        · cases h

theorem Bracket.length_enter_le {b : Bracket} {s r : List Char} (h : b.enter s = .ok r) :
    r.length ≤ s.length := by
  cases b with
  | square =>
    obtain rfl := Except.ok.inj h
    exact Nat.le_refl _
  | curly => exact (length_skipKey_lt h).le

/-! ## Moves -/

/-- A bracket that was just opened has paid for a move. -/
def SkipState.credit : SkipState → Nat
  | .opened => 1
  | _ => 0

def Bracket.opening : Bracket → Char
  | .square => '['
  | .curly => '{'

/-- From a state inside the brackets `inner` one gets to where the last of them has been closed,
whatever other brackets are open around, in at most two moves for a character. -/
def Passes (state : SkipState) (inner : List Bracket) (s r : List Char) : Prop :=
  ∃ n, n + 2 * r.length ≤ 2 * s.length + state.credit ∧ ∀ fuel outer,
    skipFrom (fuel + n) state (inner ++ outer) s = skipFrom fuel .ended outer r

variable {inner : List Bracket} {b : Bracket} {s t r : List Char}

theorem passes_ended (r : List Char) : Passes .ended [] r r :=
  ⟨0, by simp [SkipState.credit], fun _ _ => rfl⟩

theorem Passes.trans (hvalue : Passes .value [] s t) (hrest : Passes .ended inner t r) :
    Passes .value inner s r := by
  obtain ⟨n, hn, hvalue⟩ := hvalue
  obtain ⟨m, hm, hrest⟩ := hrest
  simp only [SkipState.credit] at hn hm
  refine ⟨m + n, by simp only [SkipState.credit]; omega, fun fuel outer => ?_⟩
  rw [← Nat.add_assoc, ← hrest]
  exact hvalue (fuel + m) (inner ++ outer)

theorem passes_scalar {c : Char} (hs : skipSpace s = c :: t) (hsquare : c ≠ '[') (hcurly : c ≠ '{')
    (h : skipScalar c t = .ok r) : Passes .value [] s r := by
  have hlength := length_skipSpace_le s
  have hle := length_skipScalar_le h
  rw [hs, List.length_cons] at hlength
  refine ⟨1, by simp only [SkipState.credit]; omega, fun fuel outer => ?_⟩
  simp only [List.nil_append, skipFrom, hs, if_neg hsquare, if_neg hcurly, h]

theorem passes_open (b : Bracket) (hs : skipSpace s = b.opening :: t)
    (h : Passes .opened (b :: inner) t r) : Passes .value inner s r := by
  have hlength := length_skipSpace_le s
  obtain ⟨n, hn, h⟩ := h
  rw [hs, List.length_cons] at hlength
  simp only [SkipState.credit] at hn
  refine ⟨n + 1, by simp only [SkipState.credit]; omega, fun fuel outer => ?_⟩
  rw [← h, ← Nat.add_assoc]
  cases b with
  | square => simp [skipFrom, hs, Bracket.opening]
  | curly => simp [skipFrom, hs, Bracket.opening]

theorem passes_close {state : SkipState} (hstate : state ≠ .value)
    (hs : skipSpace s = b.closing :: t) (h : Passes .ended inner t r) :
    Passes state (b :: inner) s r := by
  have hlength := length_skipSpace_le s
  obtain ⟨n, hn, h⟩ := h
  rw [hs, List.length_cons] at hlength
  simp only [SkipState.credit] at hn
  refine ⟨n + 1, by omega, fun fuel outer => ?_⟩
  rw [← h, ← Nat.add_assoc]
  cases state with
  | value => exact absurd rfl hstate
  | opened => simp only [List.cons_append, skipFrom, hs, if_true]
  | ended => simp only [List.cons_append, skipFrom, hs, if_true]

theorem passes_first {c : Char} {v : List Char} (hs : skipSpace s = c :: t) (hc : c ≠ b.closing)
    (hv : b.enter (c :: t) = .ok v) (h : Passes .value (b :: inner) v r) :
    Passes .opened (b :: inner) s r := by
  have hlength := length_skipSpace_le s
  have hle := Bracket.length_enter_le hv
  obtain ⟨n, hn, h⟩ := h
  rw [hs] at hlength
  simp only [SkipState.credit] at hn
  refine ⟨n + 1, by simp only [SkipState.credit]; omega, fun fuel outer => ?_⟩
  rw [← h, ← Nat.add_assoc]
  simp only [List.cons_append, skipFrom, hs, if_neg hc, hv]

theorem passes_next {v : List Char} (hs : skipSpace s = ',' :: t) (hv : b.enter t = .ok v)
    (h : Passes .value (b :: inner) v r) : Passes .ended (b :: inner) s r := by
  have hlength := length_skipSpace_le s
  have hle := Bracket.length_enter_le hv
  have hcomma : ',' ≠ b.closing := by cases b <;> decide
  obtain ⟨n, hn, h⟩ := h
  rw [hs, List.length_cons] at hlength
  simp only [SkipState.credit] at hn
  refine ⟨n + 1, by simp only [SkipState.credit]; omega, fun fuel outer => ?_⟩
  rw [← h, ← Nat.add_assoc]
  simp only [List.cons_append, skipFrom, hs, if_neg hcomma, if_true, hv]

/-- Blanks before a value make no difference. -/
theorem Passes.of_skipSpace (h : Passes .value inner (skipSpace s) r) : Passes .value inner s r := by
  have hlength := length_skipSpace_le s
  obtain ⟨n, hn, h⟩ := h
  simp only [SkipState.credit] at hn
  refine ⟨n, by simp only [SkipState.credit]; omega, fun fuel outer => ?_⟩
  rw [← h]
  have hagain : skipSpace (skipSpace s) = skipSpace s := List.dropWhile_idempotent _ _
  cases fuel + n with
  | zero => rfl
  | succ m => simp only [skipFrom, hagain]

/-- **Passing over a value takes no notice of what is open around it.** What one run finds inside
the brackets `inner` is found inside more of them. -/
theorem passes_of_skipFrom {fuel : Nat} {state : SkipState} (hopen : state = .opened → inner ≠ [])
    (h : skipFrom fuel state inner s = .ok r) : Passes state inner s r := by
  fun_induction skipFrom fuel state inner s with
  | case3 fuel inner s t hs ih => exact passes_open .square hs (ih nofun h)
  | case4 fuel inner s t hs _ ih => exact passes_open .curly hs (ih nofun h)
  | case6 fuel inner s c t hs hsquare hcurly u hu ih =>
    exact (passes_scalar hs hsquare hcurly hu).trans (ih nofun h)
  | case7 fuel state s hstate =>
    obtain rfl := Except.ok.inj h
    cases state with
    | value => exact absurd rfl hstate
    | opened => exact absurd rfl (hopen rfl)
    | ended => exact passes_ended s
  | case9 fuel b inner s t hs ih => exact passes_close nofun hs (ih nofun h)
  | case11 fuel b inner s c t hs hc v hv ih => exact passes_first hs hc hv (ih nofun h)
  | case13 fuel b inner s t hs ih => exact passes_close nofun hs (ih nofun h)
  | case15 fuel b inner s t v hv hs _ ih => exact passes_next hs hv (ih nofun h)
  -- in all other states the run stops with a fault
  | _ => cases h

/-- What is passed over ends where the moves lead. -/
theorem Passes.skipValue_eq (h : Passes .value [] s r) : skipValue s = .ok r := by
  obtain ⟨n, hn, h⟩ := h
  simp only [SkipState.credit] at hn
  obtain ⟨fuel, hfuel⟩ : ∃ fuel, 2 * s.length + 2 = fuel + 1 + n := ⟨2 * s.length + 1 - n, by omega⟩
  rw [skipValue, hfuel, ← List.append_nil [], h]
  rfl

theorem skipValue_eq_ok_iff : skipValue s = .ok r ↔ Passes .value [] s r :=
  ⟨passes_of_skipFrom nofun, Passes.skipValue_eq⟩

end PocketDesk.Json
