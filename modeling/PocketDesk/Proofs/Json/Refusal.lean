import PocketDesk.Proofs.Json.Record

/-! # Refusing what was written

A reader that may not open another bracket refuses a written array as malformed. From
there the refusal reaches the outside: an array is refused for one of its items and a
record for one of its members, as long as the others are recovered or refused too, so
that no other fault comes first. -/

namespace PocketDesk.Json

/-- The reader finds the text malformed, whatever follows. -/
def Refuses {α : Type} (read : Reader α) (text : List Char) : Prop :=
  ∀ rest, read (text ++ rest) = .error .malformed

/-! ## Arrays -/

section Array

variable {α : Type} {item : Reader α} {write : α → List Char} {xs : List α}

theorem refuses_array_of_no_bracket (items : List (List Char)) :
    Refuses (readArray (none : Option (Reader α))) (writeArray items) := by
  intro rest
  have hopen : isSpace '[' = false := by decide
  unfold readArray
  rw [writeArray_append, skipSpace_cons hopen]
  rfl

theorem readItems_of_refuses
    (hitem : ∀ x ∈ xs, Starts (write x) ∧ (Recovers item (write x) x ∨ Refuses item (write x)))
    (hrefused : ∃ x ∈ xs, Refuses item (write x)) (first : Bool) (r : List Char) {fuel : Nat}
    (hfuel : xs.length < fuel) :
    readItems item fuel first (writeFrom first (xs.map write) ++ ']' :: r) = .error .malformed := by
  induction xs generalizing first fuel with
  | nil =>
    obtain ⟨x, hx, -⟩ := hrefused
    cases hx
  | cons x xs ih =>
    obtain ⟨fuel, rfl⟩ := Nat.exists_eq_succ_of_ne_zero (Nat.ne_zero_of_lt hfuel)
    obtain ⟨⟨hstart, hx⟩, hitem⟩ := List.forall_mem_cons.mp hitem
    rw [List.map_cons, readItems, nextItem_writeFrom hstart]
    by_cases hfirst : Refuses item (write x)
    · simp only [hfirst _]
    · -- the refused item is further on, and the way to it is clear
      have hread := hx.resolve_right hfirst _ (atMark_writeMore (xs.map write) (.inl rfl) r)
      have hlater : ∃ x ∈ xs, Refuses item (write x) :=
        ((List.exists_mem_cons_iff ..).mp hrefused).resolve_left hfirst
      have hrest : readItems item fuel false (writeMore (xs.map write) ++ ']' :: r) =
          .error .malformed := ih hitem hlater false (Nat.lt_of_succ_lt_succ hfuel)
      simp only [hread, hrest]

/-- **An array is refused for one of its items.** -/
theorem refuses_array
    (hitem : ∀ x ∈ xs, Starts (write x) ∧ (Recovers item (write x) x ∨ Refuses item (write x)))
    (hrefused : ∃ x ∈ xs, Refuses item (write x)) :
    Refuses (readArray (some item)) (writeArray (xs.map write)) := by
  intro rest
  have hopen : isSpace '[' = false := by decide
  have hfuel := length_lt_length_writeFrom (xs.map write) ']' rest
  rw [List.length_map] at hfuel
  rw [writeArray_append]
  unfold readArray
  rw [skipSpace_cons hopen]
  simp only [readItems_of_refuses hitem hrefused true rest hfuel]

end Array

/-! ## Records -/

section Record

variable {σ : Type} {fields : List (Field σ)} {members : List (Member σ)}

/-- The member stands for one of the fields, which refuses it. -/
def Member.Misfits (fields : List (Field σ)) (m : Member σ) : Prop :=
  ∃ field, fields.find? (fun f => f.name == m.name) = some field ∧ Refuses field.read m.text

theorem Member.misfits_of {α : Type} {name : String} {required : Bool} {read : Reader α}
    {set : α → σ → σ} {text : List Char} {x : α}
    (hfield : fields.find? (fun f => f.name == name) = some (.of name required read set))
    (h : Refuses read text) : (Member.of name text set x).Misfits fields := by
  refine ⟨_, hfield, ?_⟩
  intro rest
  have hread : read (text ++ rest) = .error .malformed := h rest
  simp only [Field.of, Member.of, hread]

/-- The step at a refused member, whose key is new. -/
theorem readMembers_of_misfits {m : Member σ} (hm : m.Misfits fields) {seen : List String}
    (hnew : m.name ∉ seen) {first : Bool} {s r : List Char}
    (hkey : nextKey first s =
      .ok (some (m.name.toList.flatMap writeChar ++ '"' :: ':' :: (m.text ++ r))))
    (fuel : Nat) (record : σ) :
    readMembers fields (fuel + 1) first seen record s = .error .malformed := by
  obtain ⟨field, hfield, hread⟩ := hm
  have hseen : seen.contains m.name = false := by simpa using hnew
  have hvalue : (expectMark ':' (':' :: (m.text ++ r)) >>= field.read) = .error .malformed := by
    rw [expectMark_self (by decide)]
    exact hread r
  rw [readMembers]
  simp only [hkey, readStringBody_flatMap, hfield, hseen, hvalue]
  rfl

theorem readMembers_of_refuses (hmember : ∀ m ∈ members, m.Fits fields ∨ m.Misfits fields)
    (hrefused : ∃ m ∈ members, m.Misfits fields) {seen : List String}
    (hdistinct : (members.map Member.name ++ seen).Nodup) (first : Bool) {fuel : Nat}
    (hfuel : members.length < fuel) (record : σ) (r : List Char) :
    readMembers fields fuel first seen record
        (writeFrom first (members.map Member.write) ++ '}' :: r) = .error .malformed := by
  induction members generalizing seen first fuel record with
  | nil =>
    obtain ⟨m, hm, -⟩ := hrefused
    cases hm
  | cons m members ih =>
    obtain ⟨fuel, rfl⟩ := Nat.exists_eq_succ_of_ne_zero (Nat.ne_zero_of_lt hfuel)
    obtain ⟨hm, hmember⟩ := List.forall_mem_cons.mp hmember
    have hnew : m.name ∉ seen := by
      rw [List.map_cons, List.cons_append, List.nodup_cons] at hdistinct
      exact fun hseen => hdistinct.1 (List.mem_append_right _ hseen)
    have hkey := nextKey_writeFrom m first (members.map Member.write) ('}' :: r)
    rw [List.map_cons]
    by_cases hfirst : m.Misfits fields
    · exact readMembers_of_misfits hfirst hnew hkey fuel record
    · have hmark := atMark_writeMore (members.map Member.write) (.inr rfl) r
      have hlater : ∃ m ∈ members, m.Misfits fields :=
        ((List.exists_mem_cons_iff ..).mp hrefused).resolve_left hfirst
      rw [readMembers_step (hm.resolve_right hfirst) hnew hmark hkey]
      exact ih hmember hlater (List.nodup_middle.mpr hdistinct) false
        (Nat.lt_of_succ_lt_succ hfuel) (m.set record)

/-- **A record is refused for one of its members.** Whether others are missing makes no difference,
since that is looked at in the end. -/
theorem refuses_record (hmember : ∀ m ∈ members, m.Fits fields ∨ m.Misfits fields)
    (hrefused : ∃ m ∈ members, m.Misfits fields) (hdistinct : (members.map Member.name).Nodup)
    (title : String) (start : σ) :
    Refuses (readRecord title (some fields) start) (writeObject (members.map Member.written)) := by
  intro rest
  have hopen : isSpace '{' = false := by decide
  have hfuel := length_lt_length_writeFrom (members.map Member.write) '}' rest
  rw [List.length_map] at hfuel
  have hdistinct : (members.map Member.name ++ []).Nodup := by simpa using hdistinct
  have hmembers := readMembers_of_refuses hmember hrefused hdistinct true hfuel start rest
  rw [writeObject_append]
  unfold readRecord
  rw [skipSpace_cons hopen]
  simp only [hmembers]

end Record

theorem readDocument_of_refuses {α : Type} {read : Reader α} {text : List Char}
    (h : Refuses read text) : readDocument read (String.ofList text) = .error .malformed := by
  have hread := h []
  rw [List.append_nil] at hread
  simp [readDocument, hread]

end PocketDesk.Json
