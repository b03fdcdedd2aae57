import Mathlib.Data.List.Nodup
import PocketDesk.Proofs.Json.Leaf

/-! # Reading back what was written: arrays and records

A written array or record is its first item and then a comma before each other one,
so both are read by a step for one item and an induction on those that are left. A
record is recovered from its members whatever their order, as long as their keys are
fields, no key comes twice and no required field is missing. -/

namespace PocketDesk.Json

/-- Items with a comma before each of them: how a list goes on after its first item. -/
def writeMore (items : List (List Char)) : List Char := items.flatMap (',' :: ·)

theorem join_cons (text : List Char) (texts : List (List Char)) :
    Text.join [','] (text :: texts) = text ++ writeMore texts := by
  induction texts generalizing text with
  | nil => simp [Text.join, writeMore]
  | cons next texts ih =>
    rw [Text.join_cons_cons, ih]
    simp [writeMore]

theorem length_le_length_writeMore (items : List (List Char)) :
    items.length ≤ (writeMore items).length :=
  length_le_length_flatMap (fun _ => List.cons_ne_nil _ _) items

/-- Items up to the end of a list: no comma stands before the first one of all. -/
def writeFrom (first : Bool) (items : List (List Char)) : List Char :=
  if first then Text.join [','] items else writeMore items

theorem writeFrom_nil (first : Bool) : writeFrom first [] = [] := by
  cases first <;> rfl

/-- What is left to read is long enough to count the items by. -/
theorem length_lt_length_writeFrom (items : List (List Char)) (mark : Char) (r : List Char) :
    items.length < (writeFrom true items ++ mark :: r).length + 1 := by
  rw [List.length_append, List.length_cons]
  cases items with
  | nil => simp
  | cons item items =>
    have hmore := length_le_length_writeMore items
    have htext : writeFrom true (item :: items) = item ++ writeMore items := join_cons item items
    rw [htext, List.length_append, List.length_cons]
    omega

/-- What follows an item is a comma or the closing mark. -/
theorem atMark_writeMore (items : List (List Char)) {mark : Char} (hmark : mark = ']' ∨ mark = '}')
    (r : List Char) : AtMark (writeMore items ++ mark :: r) := by
  cases items with
  | nil => exact atMark_cons (.inr hmark)
  | cons item items => exact atMark_cons (.inl rfl)

theorem expectMark_self {mark : Char} (h : isSpace mark = false) (r : List Char) :
    expectMark mark (mark :: r) = .ok r := by
  simp [expectMark, skipSpace_cons h]

/-! ## Arrays -/

/-- The text begins a value: with something else than a blank or the end of an array. -/
def Starts (text : List Char) : Prop :=
  ∃ c r, text = c :: r ∧ isSpace c = false ∧ c ≠ ']'

theorem nextItem_first {text : List Char} (h : Starts text) (r : List Char) :
    nextItem true (text ++ r) = .ok (some (text ++ r)) := by
  obtain ⟨c, s, rfl, hspace, hclose⟩ := h
  rw [List.cons_append, nextItem, skipSpace_cons hspace]
  simp

theorem nextItem_more {text : List Char} (h : Starts text) (r : List Char) :
    nextItem false (',' :: text ++ r) = .ok (some (text ++ r)) := by
  obtain ⟨c, s, rfl, hspace, hclose⟩ := h
  have hcomma : isSpace ',' = false := by decide
  rw [List.cons_append, List.cons_append, nextItem, skipSpace_cons hcomma]
  simp [skipSpace_cons hspace, hclose]

theorem nextItem_writeFrom {text : List Char} (h : Starts text) (first : Bool)
    (texts : List (List Char)) (r : List Char) :
    nextItem first (writeFrom first (text :: texts) ++ r) =
      .ok (some (text ++ (writeMore texts ++ r))) := by
  cases first with
  | true =>
    have hjoin : writeFrom true (text :: texts) = text ++ writeMore texts := join_cons text texts
    rw [hjoin, List.append_assoc, nextItem_first h]
  | false =>
    have hmore : writeFrom false (text :: texts) ++ r = ',' :: text ++ (writeMore texts ++ r) := by
      simp [writeFrom, writeMore]
    rw [hmore, nextItem_more h]

theorem nextItem_close (first : Bool) (r : List Char) : nextItem first (']' :: r) = .ok none := by
  have hclose : isSpace ']' = false := by decide
  simp [nextItem, skipSpace_cons hclose]

section Array

variable {α : Type} {item : Reader α} {write : α → List Char} {xs : List α}

theorem readItems_writeFrom (hitem : ∀ x ∈ xs, Starts (write x) ∧ Recovers item (write x) x)
    (first : Bool) (r : List Char) {fuel : Nat} (hfuel : xs.length < fuel) :
    readItems item fuel first (writeFrom first (xs.map write) ++ ']' :: r) = .ok (xs, ']' :: r) := by
  induction xs generalizing first fuel with
  | nil =>
    obtain ⟨fuel, rfl⟩ := Nat.exists_eq_succ_of_ne_zero (Nat.ne_of_gt hfuel)
    rw [List.map_nil, writeFrom_nil, List.nil_append, readItems, nextItem_close]
  | cons x xs ih =>
    obtain ⟨fuel, rfl⟩ := Nat.exists_eq_succ_of_ne_zero (Nat.ne_zero_of_lt hfuel)
    obtain ⟨⟨hstart, hread⟩, hitem⟩ := List.forall_mem_cons.mp hitem
    have hrest : readItems item fuel false (writeMore (xs.map write) ++ ']' :: r) =
        .ok (xs, ']' :: r) := ih hitem false (Nat.lt_of_succ_lt_succ hfuel)
    rw [List.map_cons, readItems, nextItem_writeFrom hstart]
    simp only [hread _ (atMark_writeMore _ (.inl rfl) r), hrest]

theorem writeArray_append (items : List (List Char)) (rest : List Char) :
    writeArray items ++ rest = '[' :: (writeFrom true items ++ ']' :: rest) := by
  simp [writeArray, writeFrom]

/-- **An array is recovered when every item is.** -/
theorem recovers_array (hitem : ∀ x ∈ xs, Starts (write x) ∧ Recovers item (write x) x) :
    Recovers (readArray (some item)) (writeArray (xs.map write)) xs := by
  intro rest _
  have hopen : isSpace '[' = false := by decide
  have hclose : expectMark ']' (']' :: rest) = .ok rest := expectMark_self (by decide) rest
  have hfuel := length_lt_length_writeFrom (xs.map write) ']' rest
  rw [List.length_map] at hfuel
  rw [writeArray_append]
  unfold readArray
  rw [skipSpace_cons hopen]
  simp only [readItems_writeFrom hitem true rest hfuel, hclose]

end Array

/-! ## Records -/

/-- A member of a written record, and what reading it makes of the record. -/
structure Member (σ : Type) where
  name : String
  text : List Char
  set : σ → σ

namespace Member

variable {σ : Type}

/-- The member that was written of the value `x`. -/
def of {α : Type} (name : String) (text : List Char) (set : α → σ → σ) (x : α) : Member σ :=
  ⟨name, text, set x⟩

def written (m : Member σ) : String × List Char := (m.name, m.text)

def write (m : Member σ) : List Char := writeMember m.name m.text

/-- The member stands for one of the fields, which recovers it. -/
def Fits (fields : List (Field σ)) (m : Member σ) : Prop :=
  ∃ field, fields.find? (fun f => f.name == m.name) = some field ∧ Recovers field.read m.text m.set

end Member

/-- The members make up a whole record. -/
structure Whole {σ : Type} (fields : List (Field σ)) (members : List (Member σ)) : Prop where
  fits : ∀ m ∈ members, m.Fits fields
  distinct : (members.map Member.name).Nodup
  complete : ∀ field ∈ fields, field.required = true → field.name ∈ members.map Member.name

/-- Every field was written, in the order of the fields. -/
theorem Whole.of_names_eq {σ : Type} {fields : List (Field σ)} {members : List (Member σ)}
    (hfits : ∀ m ∈ members, m.Fits fields)
    (hnames : members.map Member.name = fields.map Field.name)
    (hdistinct : (fields.map Field.name).Nodup) : Whole fields members where
  fits := hfits
  distinct := by rwa [hnames]
  complete := by
    intro field hfield _
    rw [hnames]
    exact List.mem_map_of_mem hfield

theorem Member.fits_of {σ α : Type} {fields : List (Field σ)} {name : String} {required : Bool}
    {read : Reader α} {set : α → σ → σ} {text : List Char} {x : α}
    (hfield : fields.find? (fun f => f.name == name) = some (.of name required read set))
    (h : Recovers read text x) : (Member.of name text set x).Fits fields := by
  refine ⟨_, hfield, ?_⟩
  intro rest hrest
  have hread : read (text ++ rest) = .ok (x, rest) := h rest hrest
  simp only [Field.of, Member.of, hread]

section Record

variable {σ : Type} {fields : List (Field σ)}

/-- The text of a key from its opening quote on, with the value and what follows. -/
theorem write_append (m : Member σ) (r : List Char) :
    m.write ++ r = '"' :: (m.name.toList.flatMap writeChar ++ '"' :: ':' :: (m.text ++ r)) := by
  simp [Member.write, writeMember, writeString]

theorem nextKey_first (r : List Char) : nextKey true ('"' :: r) = .ok (some r) := by
  rw [nextKey, skipSpace_cons (by decide)]
  simp

theorem nextKey_more (r : List Char) : nextKey false (',' :: '"' :: r) = .ok (some r) := by
  have hquote : isSpace '"' = false := by decide
  rw [nextKey, skipSpace_cons (by decide)]
  simp [skipSpace_cons hquote]

/-- The text of the next member after its opening quote. -/
theorem nextKey_writeFrom (m : Member σ) (first : Bool) (texts : List (List Char)) (r : List Char) :
    nextKey first (writeFrom first (m.write :: texts) ++ r) =
      .ok (some (m.name.toList.flatMap writeChar ++
        '"' :: ':' :: (m.text ++ (writeMore texts ++ r)))) := by
  cases first with
  | true =>
    have hjoin : writeFrom true (m.write :: texts) = m.write ++ writeMore texts := join_cons _ texts
    rw [hjoin, List.append_assoc, write_append, nextKey_first]
  | false =>
    have hmore : writeFrom false (m.write :: texts) ++ r =
        ',' :: (m.write ++ (writeMore texts ++ r)) := by
      simp [writeFrom, writeMore]
    rw [hmore, write_append, nextKey_more]

theorem nextKey_close (first : Bool) (r : List Char) : nextKey first ('}' :: r) = .ok none := by
  have hclose : isSpace '}' = false := by decide
  simp [nextKey, skipSpace_cons hclose]

/-- One member: its key is new and its value is recovered, so the record changes as the member says. -/
theorem readMembers_step {m : Member σ} (hm : m.Fits fields) {seen : List String}
    (hnew : m.name ∉ seen) {first : Bool} {s r : List Char} (hr : AtMark r)
    (hkey : nextKey first s =
      .ok (some (m.name.toList.flatMap writeChar ++ '"' :: ':' :: (m.text ++ r))))
    (fuel : Nat) (record : σ) :
    readMembers fields (fuel + 1) first seen record s =
      readMembers fields fuel false (m.name :: seen) (m.set record) r := by
  obtain ⟨field, hfield, hread⟩ := hm
  have hseen : seen.contains m.name = false := by simpa using hnew
  have hvalue : (expectMark ':' (':' :: (m.text ++ r)) >>= field.read) = .ok (m.set, r) := by
    rw [expectMark_self (by decide)]
    exact hread r hr
  rw [readMembers]
  simp only [hkey, readStringBody_flatMap, hfield, hseen, hvalue]
  rfl

/-- At the brace nothing is missing. -/
theorem readMembers_close {seen : List String}
    (hcomplete : ∀ field ∈ fields, field.required = true → field.name ∈ seen) (fuel : Nat)
    (first : Bool) (record : σ) (r : List Char) :
    readMembers fields (fuel + 1) first seen record ('}' :: r) = .ok (record, '}' :: r) := by
  have hnone : fields.find? (fun f => f.required && !seen.contains f.name) = none := by
    rw [List.find?_eq_none]
    intro field hfield
    cases hrequired : field.required with
    | false => simp
    | true => simpa using hcomplete field hfield hrequired
  rw [readMembers]
  simp only [nextKey_close, hnone]

/-- The members that are left. `seen` grows by the name of each, so that all names, read or still
to come, stay distinct. -/
theorem readMembers_writeFrom {members : List (Member σ)} (hfits : ∀ m ∈ members, m.Fits fields)
    {seen : List String} (hdistinct : (members.map Member.name ++ seen).Nodup)
    (hcomplete : ∀ field ∈ fields, field.required = true →
      field.name ∈ members.map Member.name ++ seen) (first : Bool)
    {fuel : Nat} (hfuel : members.length < fuel) (record : σ) (r : List Char) :
    readMembers fields fuel first seen record
        (writeFrom first (members.map Member.write) ++ '}' :: r) =
      .ok (members.foldl (fun record m => m.set record) record, '}' :: r) := by
  induction members generalizing seen first fuel record with
  | nil =>
    obtain ⟨fuel, rfl⟩ := Nat.exists_eq_succ_of_ne_zero (Nat.ne_of_gt hfuel)
    rw [List.map_nil, writeFrom_nil]
    exact readMembers_close hcomplete fuel first record r
  | cons m members ih =>
    obtain ⟨fuel, rfl⟩ := Nat.exists_eq_succ_of_ne_zero (Nat.ne_zero_of_lt hfuel)
    obtain ⟨hm, hfits⟩ := List.forall_mem_cons.mp hfits
    have hnew : m.name ∉ seen := by
      rw [List.map_cons, List.cons_append, List.nodup_cons] at hdistinct
      exact fun hseen => hdistinct.1 (List.mem_append_right _ hseen)
    have hmark := atMark_writeMore (members.map Member.write) (.inr rfl) r
    rw [List.map_cons, readMembers_step hm hnew hmark (nextKey_writeFrom m first _ _)]
    refine ih hfits (List.nodup_middle.mpr hdistinct) ?_ false (Nat.lt_of_succ_lt_succ hfuel)
      (m.set record)
    intro field hfield hrequired
    have hmem := hcomplete field hfield hrequired
    simp only [List.map_cons, List.cons_append, List.mem_cons, List.mem_append] at hmem ⊢
    grind

theorem writeObject_append (members : List (Member σ)) (rest : List Char) :
    writeObject (members.map Member.written) ++ rest =
      '{' :: (writeFrom true (members.map Member.write) ++ '}' :: rest) := by
  have hwrite : (members.map Member.written).map (fun m => writeMember m.1 m.2) =
      members.map Member.write := by
    rw [List.map_map]
    rfl
  simp [writeObject, writeFrom, hwrite]

/-- **A record is recovered from the members that were written of it.** -/
theorem recovers_record {members : List (Member σ)} (h : Whole fields members) (title : String)
    (start : σ) :
    Recovers (readRecord title (some fields) start) (writeObject (members.map Member.written))
      (members.foldl (fun record m => m.set record) start) := by
  intro rest _
  have hopen : isSpace '{' = false := by decide
  have hclose : expectMark '}' ('}' :: rest) = .ok rest := expectMark_self (by decide) rest
  have hfuel := length_lt_length_writeFrom (members.map Member.write) '}' rest
  rw [List.length_map] at hfuel
  have hdistinct : (members.map Member.name ++ []).Nodup := by simpa using h.distinct
  have hmembers := readMembers_writeFrom h.fits hdistinct (by simpa using h.complete) true hfuel
    start rest
  rw [writeObject_append]
  unfold readRecord
  rw [skipSpace_cons hopen]
  simp only [hmembers, hclose]

theorem starts_writeObject (members : List (String × List Char)) : Starts (writeObject members) :=
  ⟨'{', _, rfl, by decide, by decide⟩

end Record

/-- A value that is recovered with nothing after it is read as a whole document. -/
theorem readDocument_of_recovers {α : Type} {read : Reader α} {text : List Char} {x : α}
    (h : Recovers read text x) : readDocument read (String.ofList text) = .ok x := by
  have hread := h [] atMark_nil
  rw [List.append_nil] at hread
  simp [readDocument, hread, skipSpace]

end PocketDesk.Json
