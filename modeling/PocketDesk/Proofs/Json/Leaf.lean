import PocketDesk.Json.Printer
import PocketDesk.Json.Record

/-! # Reading back what was written: strings, flags and numbers

A reader recovers a value from its text when it gives the value back and leaves
exactly what follows the text. A string tells where it ends by itself. A number
does not, so what follows it has to be a mark that no number goes on with, and in
a written text that is always so. -/

namespace PocketDesk.Json

/-- Nothing follows, or one of the marks that stand behind a written value. -/
def AtMark (rest : List Char) : Prop := ∀ c r, rest = c :: r → c = ',' ∨ c = ']' ∨ c = '}'

theorem atMark_nil : AtMark [] := by
  intro c r h
  cases h

theorem atMark_cons {c : Char} {r : List Char} (h : c = ',' ∨ c = ']' ∨ c = '}') :
    AtMark (c :: r) := by
  intro d s hd
  obtain ⟨rfl, rfl⟩ := List.cons.inj hd
  exact h

/-- The reader gives the value back from its text, and leaves what follows. -/
def Recovers {α : Type} (read : Reader α) (text : List Char) (x : α) : Prop :=
  ∀ rest, AtMark rest → read (text ++ rest) = .ok (x, rest)

theorem skipSpace_cons {c : Char} (h : isSpace c = false) (r : List Char) :
    skipSpace (c :: r) = c :: r :=
  List.dropWhile_cons_of_neg (by simp [h])

/-! ## Strings -/

theorem hexValue?_hexDigit {n : Nat} (h : n < 16) : hexValue? (hexDigit n) = some n := by
  have hall : ∀ k : Fin 16, hexValue? (hexDigit k) = some k.val := by decide
  exact hall ⟨n, h⟩

/-- The escape of a character below the space. -/
theorem readHex4_writeChar {n : Nat} (h : n < 0x20) (r : List Char) :
    readHex4 ('0' :: '0' :: hexDigit (n / 16) :: hexDigit (n % 16) :: r) = .ok (n, r) := by
  have hzero : hexValue? '0' = some 0 := by decide
  have hhigh := hexValue?_hexDigit (n := n / 16) (by omega)
  have hlow := hexValue?_hexDigit (n := n % 16) (by omega)
  have hvalue : ((0 * 16 + 0) * 16 + n / 16) * 16 + n % 16 = n := by omega
  simp only [readHex4, hzero, hhigh, hlow, hvalue]

theorem readCodePoint_writeChar {c : Char} (h : c.toNat < 0x20) (r : List Char) :
    readCodePoint ('0' :: '0' :: hexDigit (c.toNat / 16) :: hexDigit (c.toNat % 16) :: r) =
      .ok (c, r) := by
  have htrailing : isTrailingSurrogate c.toNat = false := by
    simp [isTrailingSurrogate]
    omega
  have hleading : isLeadingSurrogate c.toNat = false := by
    simp [isLeadingSurrogate]
    omega
  simp [readCodePoint, readHex4_writeChar h, htrailing, hleading, bind, Except.bind]

/-- Every character is read back from its written form. -/
theorem readStringItem_writeChar (c : Char) (r : List Char) :
    readStringItem (writeChar c ++ r) = .ok (some c, r) := by
  unfold writeChar
  split
  · rfl
  · rfl
  · rfl
  · rfl
  · rfl
  · rfl
  · rfl
  · next hquote hback _ _ _ _ _ =>
    split
    · next hcontrol =>
      simp [readStringItem, readCodePoint_writeChar hcontrol, bind, Except.bind]
    · next hplain =>
      rw [List.singleton_append]
      unfold readStringItem
      split <;> simp_all

theorem readStringItems_flatMap (cs : List Char) (r : List Char) {fuel : Nat}
    (h : cs.length < fuel) :
    readStringItems fuel (cs.flatMap writeChar ++ '"' :: r) = .ok (cs, r) := by
  induction cs generalizing fuel with
  | nil =>
    obtain ⟨fuel, rfl⟩ := Nat.exists_eq_succ_of_ne_zero (Nat.ne_of_gt h)
    rfl
  | cons c cs ih =>
    obtain ⟨fuel, rfl⟩ := Nat.exists_eq_succ_of_ne_zero (Nat.ne_zero_of_lt h)
    rw [List.flatMap_cons, List.append_assoc, readStringItems, readStringItem_writeChar]
    simp only [ih (Nat.lt_of_succ_lt_succ h)]

theorem writeChar_ne_nil (c : Char) : writeChar c ≠ [] := by
  unfold writeChar
  split <;> try simp
  split <;> simp

theorem length_le_length_flatMap {α β : Type} {f : α → List β} (hf : ∀ a, f a ≠ []) (xs : List α) :
    xs.length ≤ (xs.flatMap f).length := by
  induction xs with
  | nil => simp
  | cons x xs ih =>
    have hx := List.length_pos_iff.mpr (hf x)
    rw [List.flatMap_cons, List.length_append, List.length_cons]
    omega

theorem readStringBody_flatMap (s : String) (r : List Char) :
    readStringBody (s.toList.flatMap writeChar ++ '"' :: r) = .ok (s, r) := by
  have hlength := length_le_length_flatMap writeChar_ne_nil s.toList
  rw [readStringBody, readStringItems_flatMap]
  · simp
  · rw [List.length_append]
    omega

/-- A string is recovered whatever follows it. -/
theorem readString_writeString (s : String) (r : List Char) :
    readString (writeString s ++ r) = .ok (s, r) := by
  have htext : writeString s ++ r = '"' :: (s.toList.flatMap writeChar ++ '"' :: r) := by
    simp [writeString]
  rw [htext, readString, skipSpace_cons (by decide)]
  exact readStringBody_flatMap s r

theorem recovers_string (s : String) : Recovers readString (writeString s) s :=
  fun rest _ => readString_writeString s rest

theorem recovers_string? (s : String) : Recovers readString? (writeString s) (some s) := by
  intro rest _
  have hread := readString_writeString s rest
  rw [writeString, List.cons_append] at hread ⊢
  rw [readString?, skipSpace_cons (by decide)]
  split
  · next hnull => exact absurd (List.cons.inj hnull).1 (by decide)
  · simp only [hread]

theorem recovers_bool (b : Bool) : Recovers readBool (writeBool b) b := by
  intro rest _
  cases b with
  | true =>
    have hword := expectWord_append "rue".toList rest
    have htext : writeBool true ++ rest = 't' :: ("rue".toList ++ rest) := rfl
    rw [htext, readBool, skipSpace_cons (by decide)]
    simp only [hword]
  | false =>
    have hword := expectWord_append "alse".toList rest
    have htext : writeBool false ++ rest = 'f' :: ("alse".toList ++ rest) := rfl
    rw [htext, readBool, skipSpace_cons (by decide)]
    simp only [hword]

/-! ## Numbers -/

theorem AtMark.not_isDigit {c : Char} {r : List Char} (h : AtMark (c :: r)) : isDigit c = false := by
  rcases h c r rfl with rfl | rfl | rfl <;> decide

theorem isDigit_of_mem_toDigits {n : Nat} {c : Char} (h : c ∈ Nat.toDigits 10 n) :
    isDigit c = true :=
  Nat.isDigit_of_mem_toDigits (by decide) (by decide) h

/-- Only zero begins with a zero, and then it is nothing else. -/
theorem toDigits_eq_cons (n : Nat) :
    ∃ c ds, Nat.toDigits 10 n = c :: ds ∧ (c = '0' → ds = [] ∧ n = 0) := by
  induction n using Nat.strongRecOn with
  | ind n ih =>
    rw [Nat.toDigits_eq_if (by decide)]
    split
    · exact ⟨n.digitChar, [], rfl, fun h => ⟨rfl, Nat.digitChar_eq_zero.mp h⟩⟩
    · next hn =>
      obtain ⟨c, ds, hds, hzero⟩ := ih (n / 10) (by omega)
      refine ⟨c, ds ++ [(n % 10).digitChar], by rw [hds]; rfl, fun hc => ?_⟩
      have := (hzero hc).2
      omega

theorem le_ofDigitChars (ds : List Char) (n : Nat) : n ≤ Nat.ofDigitChars 10 ds n := by
  rw [Nat.ofDigitChars_eq_ofDigitChars_zero]
  have hpow : 1 ≤ 10 ^ ds.length := Nat.one_le_pow _ _ (by decide)
  have hmul := Nat.mul_le_mul_right n hpow
  omega

/-- All digits are taken as long as the value fits. -/
theorem takeDigits_append {ds rest : List Char} (hds : ∀ c ∈ ds, isDigit c = true)
    (hrest : AtMark rest) {n : Nat} (hfit : Nat.ofDigitChars 10 ds n < UInt64.size) :
    takeDigits n (ds ++ rest) = (Nat.ofDigitChars 10 ds n, ds.length, rest) := by
  induction ds generalizing n with
  | nil =>
    cases rest with
    | nil => rfl
    | cons c r => simp [takeDigits, hrest.not_isDigit]
  | cons d ds ih =>
    obtain ⟨hd, hds⟩ := List.forall_mem_cons.mp hds
    have hvalue : 10 * n + (d.toNat - '0'.toNat) = n * 10 + digitValue d := by
      rw [digitValue, Nat.mul_comm]
    rw [Nat.ofDigitChars_cons, hvalue] at hfit ⊢
    have hsmall : n * 10 + digitValue d < UInt64.size :=
      Nat.lt_of_le_of_lt (le_ofDigitChars ds _) hfit
    rw [List.cons_append, takeDigits, if_pos ⟨hd, hsmall⟩, ih hds hfit]
    rfl

theorem readAfterWhole_of_atMark {rest : List Char} (h : AtMark rest) (n : Nat) :
    readAfterWhole false n rest = .ok (.integer n, rest) := by
  cases rest with
  | nil => rfl
  | cons c r => rcases h c r rfl with rfl | rfl | rfl <;> rfl

theorem readNumber?_writeNat {n : Nat} (hn : n < UInt64.size) {rest : List Char} (hrest : AtMark rest) :
    readNumber? (writeNat n ++ rest) = some (.ok (.integer n, rest)) := by
  obtain ⟨c, ds, hds, hzero⟩ := toDigits_eq_cons n
  have hdigits : ∀ d ∈ c :: ds, isDigit d = true := fun d hd =>
    isDigit_of_mem_toDigits (n := n) (by rwa [hds])
  obtain ⟨hc, hds'⟩ := List.forall_mem_cons.mp hdigits
  have hvalue : Nat.ofDigitChars 10 ds (digitValue c) = n := by
    have hall := Nat.ofDigitChars_toDigits (b := 10) (n := n) (by decide) (by decide)
    rw [hds, Nat.ofDigitChars_cons] at hall
    simpa [digitValue] using hall
  have hminus : c ≠ '-' := by
    rintro rfl
    cases hc
  rw [writeNat, hds, List.cons_append]
  have hread : readMagnitude false (c :: (ds ++ rest)) = .ok (.integer n, rest) := by
    -- a zero stands alone, and the reader looks for that before it takes digits
    by_cases hc0 : c = '0'
    · obtain ⟨rfl, rfl⟩ := hzero hc0
      subst hc0
      cases rest with
      | nil => rfl
      | cons d r =>
        simp only [List.nil_append, readMagnitude, hrest.not_isDigit]
        exact readAfterWhole_of_atMark hrest 0
    · have htake := takeDigits_append hds' hrest (n := digitValue c) (by rwa [hvalue])
      rw [readMagnitude]
      · simp only [hc, htake, hvalue]
        exact readAfterWhole_of_atMark hrest n
      · intro d r hd
        exact fun _ => hc0 hd
  simp [readNumber?, hc, hread]

theorem not_isSpace_of_isDigit {c : Char} (h : isDigit c = true) : isSpace c = false := by
  cases hspace : isSpace c with
  | false => rfl
  | true =>
    simp only [isSpace, Bool.or_eq_true, beq_iff_eq] at hspace
    rcases hspace with ((rfl | rfl) | rfl) | rfl <;> cases h

/-- A number of 32 bits is recovered in front of a mark. -/
theorem recovers_uint32 (n : UInt32) : Recovers readUInt32 (writeNat n.toNat) n := by
  intro rest hrest
  have hlt : n.toNat < UInt32.size := n.toNat_lt
  have hword : n.toNat < UInt64.size := Nat.lt_trans hlt (by decide)
  have hread := readNumber?_writeNat hword hrest
  obtain ⟨c, ds, hds, -⟩ := toDigits_eq_cons n.toNat
  have hspace : isSpace c = false :=
    not_isSpace_of_isDigit (isDigit_of_mem_toDigits (n := n.toNat) (by simp [hds]))
  have hskip : skipSpace (writeNat n.toNat ++ rest) = writeNat n.toNat ++ rest := by
    rw [writeNat, hds, List.cons_append, skipSpace_cons hspace]
  have hfits : (0 : Int) ≤ n.toNat ∧ (n.toNat : Int) < UInt32.size := by omega
  simp only [readUInt32, hskip, hread, if_pos hfits, Int.toNat_natCast, UInt32.ofNat_toNat]

end PocketDesk.Json
