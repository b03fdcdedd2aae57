import PocketDesk.Text.Blank
import PocketDesk.Text.LowerCase

/-! # Texts that are in lower case already

Below the code points of ASCII's end only the capital letters have another lower-case form,
so a text of small letters is its own. -/

namespace PocketDesk.Text

theorem outside_lowerCaseRuns :
    ∀ r ∈ lowerCaseRuns, r.last < 'a'.toNat ∨ 'z'.toNat < r.first := by decide +kernel

theorem isLower_iff {c : Char} : c.isLower = true ↔ 'a'.toNat ≤ c.toNat ∧ c.toNat ≤ 'z'.toNat := by
  change (decide ('a'.val ≤ c.val) && decide (c.val ≤ 'z'.val)) = true ↔ _
  rw [Bool.and_eq_true, decide_eq_true_eq, decide_eq_true_eq, UInt32.le_iff_toNat_le,
    UInt32.le_iff_toNat_le]
  rfl

theorem isUpper_iff {c : Char} : c.isUpper = true ↔ 'A'.toNat ≤ c.toNat ∧ c.toNat ≤ 'Z'.toNat := by
  change decide ('A'.val ≤ c.val ∧ c.val ≤ 'Z'.val) = true ↔ _
  rw [decide_eq_true_eq, UInt32.le_iff_toNat_le, UInt32.le_iff_toNat_le]
  rfl

theorem isAlpha_iff {c : Char} : c.isAlpha = true ↔ c.isUpper = true ∨ c.isLower = true :=
  Bool.or_eq_true_iff

/-- No letter of ASCII is a blank. -/
theorem not_isBlank_of_isAlpha {c : Char} (h : c.isAlpha = true) : isBlank c = false := by
  have hletter : (65 ≤ c.toNat ∧ c.toNat ≤ 90) ∨ (97 ≤ c.toNat ∧ c.toNat ≤ 122) :=
    (isAlpha_iff.mp h).imp isUpper_iff.mp isLower_iff.mp
  simp [isBlank]
  omega

theorem not_isBlank_of_isLower {c : Char} (h : c.isLower = true) : isBlank c = false :=
  not_isBlank_of_isAlpha (isAlpha_iff.mpr (.inr h))

/-- What has a small letter as its other case is a letter. -/
theorem isAlpha_of_isLower_toLower {c : Char} (h : c.toLower.isLower = true) : c.isAlpha = true := by
  by_cases hupper : c.isUpper = true
  · exact isAlpha_iff.mpr (.inl hupper)
  · have hsame : c.toLower = c := dif_neg (mt decide_eq_true hupper)
    exact isAlpha_iff.mpr (.inr (hsame ▸ h))

theorem lowerChar_of_isLower {c : Char} (h : c.isLower = true) : lowerChar c = [c] := by
  have hdotted : c ≠ 'İ' := by
    rintro rfl
    exact absurd h (by decide)
  have hnone : lowerCaseRuns.find? (·.holds c.toNat) = none := by
    rw [List.find?_eq_none]
    intro r hr hholds
    simp only [CaseRun.holds, Bool.and_eq_true, decide_eq_true_eq] at hholds
    obtain ⟨⟨hfirst, hlast⟩, -⟩ := hholds
    obtain ⟨ha, hz⟩ := isLower_iff.mp h
    rcases outside_lowerCaseRuns r hr with hbelow | habove
    · exact absurd (Nat.le_trans ha hlast) (Nat.not_le_of_lt hbelow)
    · exact absurd (Nat.le_trans hfirst hz) (Nat.not_le_of_lt habove)
  rw [lowerChar, if_neg hdotted, hnone]

theorem lowerAfter_eq_self {s : List Char} (h : ∀ c ∈ s, c.isLower = true) (before : List Char) :
    lowerAfter before s = s := by
  induction s generalizing before with
  | nil => rfl
  | cons c s ih =>
    obtain ⟨hc, hs⟩ := List.forall_mem_cons.mp h
    have hsigma : c ≠ 'Σ' := by
      rintro rfl
      exact absurd hc (by decide)
    rw [lowerAfter, if_neg hsigma, lowerChar_of_isLower hc, ih hs]
    rfl

/-- Small letters stay what they are. -/
theorem lowerCase_eq_self {s : String} (h : ∀ c ∈ s.toList, c.isLower = true) :
    lowerCase s = s := by
  rw [lowerCase, lower, lowerAfter_eq_self h, String.ofList_toList]

end PocketDesk.Text
