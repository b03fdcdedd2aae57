import PocketDesk.Proofs.Json.Passing

/-! # Where a value ends

A value that is read for what it says ends where it would end if it were passed over. So
an object falls into the same members whatever is known of its keys: a reader that knows
a key and one that does not go on at the same place. -/

namespace PocketDesk.Json

/-- What the reader reads is a value, and the reader goes on where the value ends. -/
def ReadsValue {α : Type} (read : Reader α) : Prop :=
  ∀ s x r, read s = .ok (x, r) → Passes .value [] s r

/-! ## Strings -/

theorem eq_append_of_expectWord {word s r : List Char} (h : expectWord word s = .ok r) :
    s = word ++ r := by
  fun_induction expectWord word s with
  | case1 s =>
    obtain rfl := Except.ok.inj h
    rfl
  | case2 => cases h
  | case3 c word s ih => rw [ih h, List.cons_append]
  | case4 => cases h

theorem skipStringItem_of_readHex4 {s r : List Char} {n : Nat} (h : readHex4 s = .ok (n, r)) :
    skipStringItem ('\\' :: 'u' :: s) = .ok (false, r) := by
  rw [skipStringItem, h]
  rfl

/-- A character's escape is one item when it is passed over, or two. -/
theorem skipStringItem_of_readCodePoint {s r : List Char} {c : Char}
    (h : readCodePoint s = .ok (c, r)) :
    skipStringItem ('\\' :: 'u' :: s) = .ok (false, r) ∨
      ∃ t, skipStringItem ('\\' :: 'u' :: s) = .ok (false, t) ∧
        skipStringItem t = .ok (false, r) := by
  obtain ⟨⟨n, t⟩, hhex, hunit⟩ := bind_eq_ok h
  have hfirst := skipStringItem_of_readHex4 hhex
  dsimp only at hunit
  split at hunit
  · cases hunit
  · split at hunit
    · obtain ⟨-, rfl⟩ := Prod.mk.inj (Except.ok.inj hunit)
      exact .inl hfirst
    · obtain ⟨u, hword, hpair⟩ := bind_eq_ok hunit
      obtain ⟨⟨m, v⟩, htrailing, hvalue⟩ := bind_eq_ok hpair
      dsimp only at hvalue
      split at hvalue
      · obtain ⟨-, rfl⟩ := Prod.mk.inj (Except.ok.inj hvalue)
        have hsecond := skipStringItem_of_readHex4 htrailing
        exact .inr ⟨t, hfirst, eq_append_of_expectWord hword ▸ hsecond⟩
      · cases hvalue

/-- The same for any item of a string but its end. -/
theorem skipStringItem_of_readStringItem {s r : List Char} {c : Char}
    (h : readStringItem s = .ok (some c, r)) :
    skipStringItem s = .ok (false, r) ∨
      ∃ t, skipStringItem s = .ok (false, t) ∧ skipStringItem t = .ok (false, r) := by
  unfold readStringItem at h
  split at h
  · cases h
  · cases h
  · cases h
  · obtain ⟨⟨d, t⟩, hpoint, h⟩ := bind_eq_ok h
    obtain ⟨-, rfl⟩ := Prod.mk.inj (Except.ok.inj h)
    exact skipStringItem_of_readCodePoint hpoint
  · next d t hnotu =>
    left
    split at h
    · next e hescape =>
      obtain ⟨-, rfl⟩ := Prod.mk.inj (Except.ok.inj h)
      simp [skipStringItem, hescape]
    · cases h
  · next d t hquote hback hback' hback'' =>
    left
    split at h
    · cases h
    · next hplain =>
      obtain ⟨-, rfl⟩ := Prod.mk.inj (Except.ok.inj h)
      simp [skipStringItem, hplain]

theorem skipStringItem_of_end {s r : List Char} (h : readStringItem s = .ok (none, r)) :
    skipStringItem s = .ok (true, r) := by
  unfold readStringItem at h
  split at h
  · cases h
  · cases h
    rfl
  · cases h
  · obtain ⟨found, -, h⟩ := bind_eq_ok h
    cases h
  · split at h <;> cases h
  · split at h <;> cases h

/-- A string ends at the same quote. Every item takes a character, so there are enough moves. -/
theorem skipStringItems_of_readStringItems {n : Nat} {s r cs : List Char}
    (h : readStringItems n s = .ok (cs, r)) {fuel : Nat} (hfuel : s.length < fuel) :
    skipStringItems fuel s = .ok r := by
  fun_induction readStringItems n s generalizing cs fuel with
  | case1 => cases h
  | case2 => cases h
  | case3 n s t hitem =>
    obtain ⟨-, rfl⟩ := Prod.mk.inj (Except.ok.inj h)
    obtain ⟨fuel, rfl⟩ := Nat.exists_eq_succ_of_ne_zero (Nat.ne_zero_of_lt hfuel)
    simp only [skipStringItems, skipStringItem_of_end hitem]
  | case4 => cases h
  | case5 n s c t hitem ds u hrest ih =>
    obtain ⟨-, rfl⟩ := Prod.mk.inj (Except.ok.inj h)
    obtain ⟨fuel, rfl⟩ := Nat.exists_eq_succ_of_ne_zero (Nat.ne_zero_of_lt hfuel)
    rcases skipStringItem_of_readStringItem hitem with hone | ⟨v, hone, htwo⟩
    · have hlt := length_skipStringItem_lt hone
      simp only [skipStringItems, hone]
      exact ih hrest (by omega)
    · have hlt := length_skipStringItem_lt hone
      have hlt' := length_skipStringItem_lt htwo
      obtain ⟨fuel, rfl⟩ := Nat.exists_eq_succ_of_ne_zero (n := fuel) (by omega)
      simp only [skipStringItems, hone, htwo]
      exact ih hrest (by omega)

theorem skipStringBody_of_readStringBody {s r : List Char} {text : String}
    (h : readStringBody s = .ok (text, r)) : skipStringBody s = .ok r := by
  unfold readStringBody at h
  split at h
  · cases h
  · next cs t hitems =>
    obtain ⟨-, rfl⟩ := Prod.mk.inj (Except.ok.inj h)
    exact skipStringItems_of_readStringItems hitems (Nat.lt_succ_self _)

/-! ## Numbers -/

/-- Digits that were not taken are dropped with the others. -/
theorem dropWhile_takeDigits (n : Nat) (s : List Char) :
    (takeDigits n s).2.2.dropWhile isDigit = s.dropWhile isDigit := by
  fun_induction takeDigits n s with
  | case1 => rfl
  | case2 n c s hdigit m k t htake ih =>
    rw [List.dropWhile_cons_of_pos hdigit.1, ← ih, htake]
  | case3 => rfl

variable {negative : Bool} {n : Nat} {x : Number} {s r : List Char}

theorem skipDigits_cons {c : Char} (hc : isDigit c = true) (s : List Char) :
    skipDigits (c :: s) = .ok ((c :: s).dropWhile isDigit) := by
  rw [skipDigits, if_pos hc, List.dropWhile_cons_of_pos hc]

theorem skipDigits_of_readExponentDigits {start : Int} {down : Bool}
    (h : readExponentDigits negative n start down s = .ok (x, r)) : skipDigits s = .ok r := by
  unfold readExponentDigits at h
  split at h
  · cases h
  · next c s =>
    split at h
    · cases h
    · next hdigit =>
      have hc : isDigit c = true := by simpa using hdigit
      rw [skipDigits_cons hc]
      dsimp only at h
      split at h
      · split at h
        · cases h
        · exact congrArg Except.ok (Prod.mk.inj (Except.ok.inj h)).2
      · split at h
        · cases h
        · exact congrArg Except.ok (Prod.mk.inj (Except.ok.inj h)).2

theorem skipExponent_of_readExponent {start : Int}
    (h : readExponent negative n start s = .ok (x, r)) : skipExponent s = .ok r := by
  unfold readExponent at h
  split at h
  · exact skipDigits_of_readExponentDigits h
  · exact skipDigits_of_readExponentDigits h
  · next hplus hminus =>
    rw [skipExponent]
    · exact skipDigits_of_readExponentDigits h
    · exact hplus
    · exact hminus

theorem skipExponent?_of_readScale {exponent : Int}
    (h : readScale negative n exponent s = .ok (x, r)) : skipExponent? s = .ok r := by
  unfold readScale at h
  split at h
  · exact skipExponent_of_readExponent h
  · exact skipExponent_of_readExponent h
  · next hsmall hlarge =>
    rw [skipExponent?]
    · split at h
      · cases h
      · exact congrArg Except.ok (Prod.mk.inj (Except.ok.inj h)).2
    · exact hsmall
    · exact hlarge

theorem skipFraction?_of_readFraction {exponent : Int}
    (h : readFraction negative n exponent s = .ok (x, r)) :
    skipFraction? ('.' :: s) = .ok r := by
  unfold readFraction at h
  split at h
  · cases h
  · next c s =>
    split at h
    · cases h
    · next hdigit =>
      have hc : isDigit c = true := by simpa using hdigit
      have hscale : skipExponent? ((takeDigits n (c :: s)).2.2.dropWhile isDigit) = .ok r :=
        skipExponent?_of_readScale h
      rw [dropWhile_takeDigits] at hscale
      rw [skipFraction?, skipDigits_cons hc]
      exact hscale

theorem skipFraction?_of_readAfterWhole (h : readAfterWhole negative n s = .ok (x, r)) :
    skipFraction? (s.dropWhile isDigit) = .ok r := by
  unfold readAfterWhole at h
  split at h
  · exact skipFraction?_of_readFraction h
  · exact skipExponent_of_readExponent h
  · exact skipExponent_of_readExponent h
  · next c s hpoint hsmall hlarge =>
    split at h
    · next hdigit =>
      dsimp only at h
      split at h
      · next t hrest =>
        rw [hrest]
        exact skipFraction?_of_readFraction h
      · next hrest =>
        rw [skipFraction?]
        · exact skipExponent?_of_readScale h
        · exact fun t ht => hrest t ht
    · next hdigit =>
      obtain ⟨-, rfl⟩ := Prod.mk.inj (Except.ok.inj h)
      rw [List.dropWhile_cons_of_neg hdigit, skipFraction?, skipExponent?]
      · exact fun t ht => hsmall (List.cons.inj ht).1
      · exact fun t ht => hlarge (List.cons.inj ht).1
      · exact fun t ht => hpoint (List.cons.inj ht).1
  · obtain ⟨-, rfl⟩ := Prod.mk.inj (Except.ok.inj h)
    rfl

theorem skipMagnitude_of_readMagnitude (h : readMagnitude negative s = .ok (x, r)) :
    skipMagnitude s = .ok r := by
  unfold readMagnitude at h
  split at h
  · cases h
  · next c s =>
    split at h
    · cases h
    · next hdigit =>
      have hrest := skipFraction?_of_readAfterWhole h
      rw [List.dropWhile_cons_of_neg hdigit] at hrest
      rw [skipMagnitude, if_neg hdigit]
      exact hrest
  · next c s hzero =>
    split at h
    · cases h
    · next hdigit =>
      have hc : isDigit c = true := by simpa using hdigit
      have hrest : skipFraction? ((takeDigits (digitValue c) s).2.2.dropWhile isDigit) = .ok r :=
        skipFraction?_of_readAfterWhole h
      rw [dropWhile_takeDigits] at hrest
      rw [skipMagnitude, skipDigits_cons hc, List.dropWhile_cons_of_pos hc]
      · exact hrest
      · intro d t hzeros
        exact hzero d t (List.cons.inj hzeros).1 (List.cons.inj hzeros).2

/-- A number ends where it ends when it is passed over. -/
theorem skipScalar_of_readNumber? {c : Char} (h : readNumber? (c :: s) = some (.ok (x, r))) :
    (c = '-' ∨ isDigit c = true) ∧ skipScalar c s = .ok r := by
  by_cases hminus : c = '-'
  · subst hminus
    have hread : readMagnitude true s = .ok (x, r) := Option.some.inj h
    exact ⟨.inl rfl, skipMagnitude_of_readMagnitude hread⟩
  · cases hc : isDigit c with
    | false => simp [readNumber?, hc] at h
    | true =>
      have hread : readMagnitude false (c :: s) = .ok (x, r) := by
        simpa [readNumber?, hminus, hc] using h
      have hother : ∀ d, isDigit d = false → c ≠ d := by
        rintro d hd rfl
        cases hc.symm.trans hd
      have hn : c ≠ 'n' := hother 'n' (by decide)
      have ht : c ≠ 't' := hother 't' (by decide)
      have hf : c ≠ 'f' := hother 'f' (by decide)
      have hquote : c ≠ '"' := hother '"' (by decide)
      refine ⟨.inr rfl, ?_⟩
      rw [skipScalar, if_neg hn, if_neg ht, if_neg hf, if_neg hquote, if_neg hminus, if_pos hc]
      exact skipMagnitude_of_readMagnitude hread

/-! ## Leaves -/

theorem readsValue_string : ReadsValue readString := by
  intro s text r h
  unfold readString at h
  split at h
  · next t hs => exact passes_scalar hs (by decide) (by decide) (skipStringBody_of_readStringBody h)
  · cases h

theorem readsValue_bool : ReadsValue readBool := by
  intro s b r h
  unfold readBool at h
  split at h
  · next t hs =>
    split at h
    · cases h
    · next u hword =>
      obtain ⟨-, rfl⟩ := Prod.mk.inj (Except.ok.inj h)
      exact passes_scalar hs (by decide) (by decide) hword
  · next t hs =>
    split at h
    · cases h
    · next u hword =>
      obtain ⟨-, rfl⟩ := Prod.mk.inj (Except.ok.inj h)
      exact passes_scalar hs (by decide) (by decide) hword
  · cases h

theorem readsValue_uint32 : ReadsValue readUInt32 := by
  intro s n r h
  unfold readUInt32 at h
  dsimp only at h
  split at h
  · cases h
  · cases h
  · cases h
  · next k t hnumber =>
    split at h
    · obtain ⟨-, rfl⟩ := Prod.mk.inj (Except.ok.inj h)
      cases hs : skipSpace s with
      | nil => simp [hs, readNumber?] at hnumber
      | cons c u =>
        rw [hs] at hnumber
        obtain ⟨hstart, hskip⟩ := skipScalar_of_readNumber? hnumber
        refine passes_scalar hs ?_ ?_ hskip
        · rintro rfl
          revert hstart
          decide
        · rintro rfl
          revert hstart
          decide
    · cases h

theorem Field.of_read_eq_ok {σ β : Type} {name : String} {required : Bool} {read : Reader β}
    {set : β → σ → σ} {s r : List Char} {change : σ → σ}
    (h : (Field.of name required read set).read s = .ok (change, r)) :
    ∃ b, read s = .ok (b, r) ∧ change = set b := by
  simp only [Field.of] at h
  split at h
  · cases h
  · next b t hb =>
    obtain ⟨rfl, rfl⟩ := Prod.mk.inj (Except.ok.inj h)
    exact ⟨b, hb, rfl⟩

theorem ReadsValue.field {σ α : Type} {read : Reader α} (h : ReadsValue read) {name : String}
    {required : Bool} {set : α → σ → σ} : ReadsValue (Field.of name required read set).read := by
  intro s change r hread
  obtain ⟨a, ha, -⟩ := Field.of_read_eq_ok hread
  exact h _ _ _ ha

/-! ## Arrays -/

/-- The state in front of the first item, or of a later one. -/
def SkipState.before (first : Bool) : SkipState := if first then .opened else .ended

theorem SkipState.before_ne_value (first : Bool) : SkipState.before first ≠ .value := by
  cases first <;> nofun

theorem skipSpace_of_expectMark {mark : Char} {s r : List Char} (h : expectMark mark s = .ok r) :
    skipSpace s = mark :: r := by
  unfold expectMark at h
  split at h
  · cases h
  · next c t hs =>
    split at h
    · next hc =>
      obtain rfl := Except.ok.inj h
      rw [hs, hc]
    · cases h

/-- At its bracket an array or object ends. -/
theorem passes_of_expectMark {b : Bracket} {s r : List Char} (first : Bool)
    (h : expectMark b.closing s = .ok r) : Passes (.before first) [b] s r :=
  passes_close (SkipState.before_ne_value first) (skipSpace_of_expectMark h) (passes_ended r)

/-- An item, and then the rest of the array. -/
theorem passes_of_nextItem {first : Bool} {s v t r : List Char}
    (hnext : nextItem first s = .ok (some v)) (hitem : Passes .value [] v t)
    (hrest : Passes (.before false) [.square] t r) : Passes (.before first) [.square] s r := by
  have hvalue : Passes .value [.square] v r := hitem.trans hrest
  unfold nextItem at hnext
  split at hnext
  · cases hnext
  · cases hnext
  · next c u hc hs =>
    cases first with
    | true =>
      obtain rfl : c :: u = v := by simpa using hnext
      refine passes_first hs ?_ rfl hvalue
      rintro rfl
      exact hc rfl
    | false =>
      simp only [Bool.false_eq_true, if_false] at hnext
      split at hnext
      · next hcomma =>
        subst hcomma
        split at hnext
        · cases hnext
        · cases hnext
        · obtain rfl := Option.some.inj (Except.ok.inj hnext)
          exact passes_next hs rfl hvalue.of_skipSpace
      · cases hnext

theorem passes_of_readItems {α : Type} {item : Reader α} (hitem : ReadsValue item) {fuel : Nat}
    {first : Bool} {s t r : List Char} {xs : List α}
    (h : readItems item fuel first s = .ok (xs, t)) (hmark : expectMark ']' t = .ok r) :
    Passes (.before first) [.square] s r := by
  fun_induction readItems item fuel first s generalizing xs with
  | case1 => cases h
  | case2 => cases h
  | case3 fuel first s hnext =>
    obtain ⟨-, rfl⟩ := Prod.mk.inj (Except.ok.inj h)
    exact passes_of_expectMark first hmark
  | case4 => cases h
  | case5 => cases h
  | case6 fuel first s v hnext x u hx ys w hys ih =>
    obtain ⟨-, rfl⟩ := Prod.mk.inj (Except.ok.inj h)
    exact passes_of_nextItem hnext (hitem _ _ _ hx) (ih hys)

theorem ReadsValue.array {α : Type} {item : Reader α} (hitem : ReadsValue item) :
    ReadsValue (readArray (some item)) := by
  intro s xs r h
  unfold readArray at h
  split at h
  · next hnone => cases hnone
  · next t item' hs hsome =>
    obtain rfl := Option.some.inj hsome
    split at h
    · cases h
    · next ys u hitems =>
      split at h
      · cases h
      · next v hmark =>
        obtain ⟨-, rfl⟩ := Prod.mk.inj (Except.ok.inj h)
        exact passes_open .square hs (passes_of_readItems hitem hitems hmark)
  · cases h

/-- A record that was written as an array of its fields. -/
theorem passes_of_readPositions {σ : Type} {expected : String} {fields : List (Field σ)}
    (hfields : ∀ field ∈ fields, ReadsValue field.read) {n : Nat} {first : Bool} {start x : σ}
    {s t r : List Char} (h : readPositions expected fields n first start s = .ok (x, t))
    (hmark : expectMark ']' t = .ok r) : Passes (.before first) [.square] s r := by
  induction fields generalizing n first start s with
  | nil =>
    obtain ⟨-, rfl⟩ := Prod.mk.inj (Except.ok.inj h)
    exact passes_of_expectMark first hmark
  | cons field fields ih =>
    obtain ⟨hfield, hfields⟩ := List.forall_mem_cons.mp hfields
    simp only [readPositions] at h
    split at h
    · cases h
    · split at h
      · cases h
      · exact ih hfields h
    · next v hnext =>
      split at h
      · cases h
      · next set u hread => exact passes_of_nextItem hnext (hfield _ _ _ hread) (ih hfields h)

end PocketDesk.Json
