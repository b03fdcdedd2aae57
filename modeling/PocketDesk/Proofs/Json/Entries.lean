import PocketDesk.Proofs.Json.Extent

/-! # The entries of an object

An object falls into entries, each a key and the text from its value on, in a way that
does not depend on any reader. A record that is read from it takes over the values of
the keys it knows, each of them once, and keeps what it started with for all others. -/

namespace PocketDesk.Json

/-- A key as it reads, and the text from its value on. -/
abbrev Entry := String × List Char

/-- Up to its closing brace, where `r` starts, the object goes on with these entries. There is no
comma in front of the `first` one. -/
inductive Entries : Bool → List Char → List Entry → List Char → Prop
  | nil {first : Bool} {s : List Char} (hend : nextKey first s = .ok none) : Entries first s [] s
  | cons {first : Bool} {s t u v w r : List Char} {key : String} {entries : List Entry}
      (hnext : nextKey first s = .ok (some t)) (hkey : readStringBody t = .ok (key, u))
      (hcolon : expectMark ':' u = .ok v) (hvalue : skipValue v = .ok w)
      (hrest : Entries false w entries r) : Entries first s ((key, v) :: entries) r

/-- The text begins with an object that has these entries. -/
def HasEntries (s : List Char) (entries : List Entry) : Prop :=
  ∃ t r, skipSpace s = '{' :: t ∧ Entries true t entries r

def keys (entries : List Entry) : List String := entries.map Prod.fst

/-- An object has its entries in one way only. -/
theorem Entries.unique {first : Bool} {s r r' : List Char} {entries entries' : List Entry}
    (h : Entries first s entries r) (h' : Entries first s entries' r') : entries = entries' := by
  induction h generalizing entries' with
  | nil hend =>
    cases h' with
    | nil => rfl
    | cons hnext' => cases hend.symm.trans hnext'
  | cons hnext hkey hcolon hvalue _ ih =>
    cases h' with
    | nil hend' => cases hnext.symm.trans hend'
    | cons hnext' hkey' hcolon' hvalue' hrest' =>
      cases hnext.symm.trans hnext'
      cases hkey.symm.trans hkey'
      cases hcolon.symm.trans hcolon'
      cases hvalue.symm.trans hvalue'
      rw [ih hrest']

theorem HasEntries.unique {s : List Char} {entries entries' : List Entry}
    (h : HasEntries s entries) (h' : HasEntries s entries') : entries = entries' := by
  obtain ⟨t, r, hs, hentries⟩ := h
  obtain ⟨t', r', hs', hentries'⟩ := h'
  cases hs.symm.trans hs'
  exact hentries.unique hentries'

/-! ## Where an object ends -/

theorem skipKey_of_readStringBody {s t u v : List Char} {key : String} (hs : skipSpace s = '"' :: t)
    (hkey : readStringBody t = .ok (key, u)) (hcolon : expectMark ':' u = .ok v) :
    skipKey s = .ok v := by
  have hu := skipSpace_of_expectMark hcolon
  rw [skipKey, hs]
  simp only [skipStringBody_of_readStringBody hkey, bind, Except.bind, hu, ne_eq, not_true_eq_false,
    if_false, if_true]

theorem passes_of_nextKey {first : Bool} {s t u v r : List Char} {key : String}
    (hnext : nextKey first s = .ok (some t)) (hkey : readStringBody t = .ok (key, u))
    (hcolon : expectMark ':' u = .ok v) (hrest : Passes .value [.curly] v r) :
    Passes (.before first) [.curly] s r := by
  unfold nextKey at hnext
  split at hnext
  · cases hnext
  · cases hnext
  · next c w hc hs =>
    cases first with
    | true =>
      simp only [if_true] at hnext
      split at hnext
      · next hquote =>
        subst hquote
        obtain rfl := Option.some.inj (Except.ok.inj hnext)
        have hquote : skipSpace ('"' :: w) = '"' :: w := rfl
        exact passes_first hs nofun (skipKey_of_readStringBody hquote hkey hcolon) hrest
      · cases hnext
    | false =>
      simp only [Bool.false_eq_true, if_false] at hnext
      split at hnext
      · next hcomma =>
        subst hcomma
        split at hnext
        · cases hnext
        · next x hquote =>
          obtain rfl := Option.some.inj (Except.ok.inj hnext)
          exact passes_next hs (skipKey_of_readStringBody hquote hkey hcolon) hrest
        · cases hnext
      · cases hnext

theorem Entries.passes {first : Bool} {s t r : List Char} {entries : List Entry}
    (h : Entries first s entries t) (hmark : expectMark '}' t = .ok r) :
    Passes (.before first) [.curly] s r := by
  induction h with
  | nil => exact passes_of_expectMark _ hmark
  | cons hnext hkey hcolon hvalue _ ih =>
    have hentry := skipValue_eq_ok_iff.mp hvalue
    exact passes_of_nextKey hnext hkey hcolon (hentry.trans (ih hmark))

/-! ## What a record takes over -/

section Records

variable {σ α : Type} {fields : List (Field σ)}

/-- What entries make of a record, one after another, when the keys in `seen` have come already:
a key that is not known changes nothing, and one that is known may come once. -/
inductive Takes (fields : List (Field σ)) : List String → List Entry → σ → σ → Prop
  | nil {seen : List String} {x : σ} : Takes fields seen [] x x
  | unknown {seen : List String} {key : String} {v : List Char} {entries : List Entry} {x y : σ}
      (hfield : (fields.find? fun f => f.name == key) = none)
      (hrest : Takes fields seen entries x y) : Takes fields seen ((key, v) :: entries) x y
  | known {seen : List String} {key : String} {v w : List Char} {entries : List Entry} {x y : σ}
      {field : Field σ} {set : σ → σ} (hfield : (fields.find? fun f => f.name == key) = some field)
      (hfresh : key ∉ seen) (hread : field.read v = .ok (set, w))
      (hrest : Takes fields (key :: seen) entries (set x) y) :
      Takes fields seen ((key, v) :: entries) x y

/-- Reading the members of a record finds the entries of the object, and takes them over. -/
theorem entries_of_readMembers (hfields : ∀ field ∈ fields, ReadsValue field.read) {fuel : Nat}
    {first : Bool} {seen : List String} {x y : σ} {s r : List Char}
    (h : readMembers fields fuel first seen x s = .ok (y, r)) :
    ∃ entries, Entries first s entries r ∧ Takes fields seen entries x y := by
  induction fuel generalizing first seen x s with
  | zero => cases h
  | succ fuel ih =>
    simp only [readMembers] at h
    split at h
    · cases h
    · next hend =>
      split at h
      · cases h
      · obtain ⟨rfl, rfl⟩ := Prod.mk.inj (Except.ok.inj h)
        exact ⟨[], .nil hend, .nil⟩
    · next t hnext =>
      split at h
      · cases h
      · next key u hkey =>
        split at h
        · next hfield =>
          split at h
          · cases h
          · next w hmember =>
            obtain ⟨v, hcolon, hvalue⟩ := bind_eq_ok hmember
            obtain ⟨entries, hentries, htakes⟩ := ih h
            exact ⟨(key, v) :: entries, .cons hnext hkey hcolon hvalue hentries,
              .unknown hfield htakes⟩
        · next field hfield =>
          split at h
          · cases h
          · next hfresh =>
            split at h
            · cases h
            · next set w hmember =>
              obtain ⟨v, hcolon, hread⟩ := bind_eq_ok hmember
              obtain ⟨entries, hentries, htakes⟩ := ih h
              have hvalue := hfields field (List.mem_of_find?_eq_some hfield) _ _ _ hread
              have hfresh : key ∉ seen := by simpa using hfresh
              exact ⟨(key, v) :: entries, .cons hnext hkey hcolon hvalue.skipValue_eq hentries,
                .known hfield hfresh hread htakes⟩

/-- A record that is read from an object is read from its members, up to the brace. -/
theorem exists_readMembers {title : String} {start x : σ} {s t r : List Char}
    (hs : skipSpace s = '{' :: t) (h : readRecord title (some fields) start s = .ok (x, r)) :
    ∃ u, readMembers fields (t.length + 1) true [] start t = .ok (x, u) ∧
      expectMark '}' u = .ok r := by
  simp only [readRecord, hs] at h
  split at h
  · cases h
  · next y u hmembers =>
    split at h
    · cases h
    · next v hmark =>
      obtain ⟨rfl, rfl⟩ := Prod.mk.inj (Except.ok.inj h)
      exact ⟨u, hmembers, hmark⟩

theorem ReadsValue.record (hfields : ∀ field ∈ fields, ReadsValue field.read) (title : String)
    (start : σ) : ReadsValue (readRecord title (some fields) start) := by
  intro s x r hread
  have h := hread
  unfold readRecord at h
  split at h
  · next hnone => cases hnone
  · next hnone => cases hnone
  · next t fields' hs hsome =>
    cases hsome
    dsimp only at h
    split at h
    · cases h
    · next y u hpositions =>
      split at h
      · cases h
      · next v hmark =>
        obtain ⟨-, rfl⟩ := Prod.mk.inj (Except.ok.inj h)
        exact passes_open .square hs (passes_of_readPositions hfields hpositions hmark)
  · next hs _ =>
    obtain ⟨u, hmembers, hmark⟩ := exists_readMembers hs hread
    obtain ⟨entries, hentries, -⟩ := entries_of_readMembers hfields hmembers
    exact passes_open .curly hs (hentries.passes hmark)
  · cases h

/-- A record that is read from an object takes over its entries. -/
theorem takes_of_readRecord (hfields : ∀ field ∈ fields, ReadsValue field.read) {title : String}
    {start x : σ} {s r : List Char} (h : readRecord title (some fields) start s = .ok (x, r))
    (hobject : (skipSpace s).head? = some '{') :
    ∃ entries, HasEntries s entries ∧ Takes fields [] entries start x := by
  obtain ⟨t, hs⟩ := List.head?_eq_some_iff.mp hobject
  obtain ⟨u, hmembers, -⟩ := exists_readMembers hs h
  obtain ⟨entries, hentries, htakes⟩ := entries_of_readMembers hfields hmembers
  exact ⟨entries, ⟨t, u, hs, hentries⟩, htakes⟩

/-! ## One part of a record -/

/-- Of all fields the one called `name` alone changes the part that `get` shows. -/
def Owns (fields : List (Field σ)) (name : String) (get : σ → α) : Prop :=
  ∀ field ∈ fields, field.name ≠ name → ∀ s set r, field.read s = .ok (set, r) →
    ∀ x, get (set x) = get x

theorem Field.get_of_read {β : Type} {name : String} {required : Bool} {read : Reader β}
    {set : β → σ → σ} {get : σ → α} (hset : ∀ b x, get (set b x) = get x) (s : List Char)
    (change : σ → σ) (r : List Char)
    (h : (Field.of name required read set).read s = .ok (change, r)) (x : σ) :
    get (change x) = get x := by
  obtain ⟨b, -, rfl⟩ := Field.of_read_eq_ok h
  exact hset b x

theorem Owns.eq_of_find? {name key : String} {get : σ → α} (howns : Owns fields name get)
    (hkey : key ≠ name) {field : Field σ}
    (hfield : (fields.find? fun f => f.name == key) = some field) {s r : List Char} {set : σ → σ}
    (hread : field.read s = .ok (set, r)) (x : σ) : get (set x) = get x := by
  have hname : field.name = key := by simpa using List.find?_some hfield
  exact howns field (List.mem_of_find?_eq_some hfield) (hname.trans_ne hkey) _ _ _ hread x

/-- A part of the record whose key is absent, or came before, is kept. -/
theorem Takes.get_eq {name : String} {get : σ → α} (howns : Owns fields name get)
    {seen : List String} {entries : List Entry} {x y : σ} (h : Takes fields seen entries x y)
    (habsent : name ∉ keys entries ∨ name ∈ seen) : get y = get x := by
  induction h with
  | nil => rfl
  | unknown hfield hrest ih =>
    refine ih (habsent.imp_left fun hkeys => ?_)
    exact fun hmem => hkeys (List.mem_cons_of_mem _ hmem)
  | @known seen key v w entries x y field set hfield hfresh hread hrest ih =>
    have hkey : key ≠ name := by
      rintro rfl
      rcases habsent with hkeys | hseen
      · exact hkeys List.mem_cons_self
      · exact hfresh hseen
    rw [ih, howns.eq_of_find? hkey hfield hread]
    refine habsent.imp (fun hkeys hmem => hkeys (List.mem_cons_of_mem _ hmem)) ?_
    exact fun hseen => List.mem_cons_of_mem _ hseen

/-- A part of the record whose key is there is what was read for it. -/
theorem Takes.exists_read {name : String} {get : σ → α} (howns : Owns fields name get)
    {seen : List String} {entries : List Entry} {x y : σ} (h : Takes fields seen entries x y)
    {field : Field σ} (hname : (fields.find? fun f => f.name == name) = some field) {v : List Char}
    (hmem : (name, v) ∈ entries) :
    ∃ set r z, field.read v = .ok (set, r) ∧ get y = get (set z) := by
  induction h with
  | nil => cases hmem
  | unknown hfield hrest ih =>
    rcases List.mem_cons.mp hmem with heq | hmem
    · cases heq
      cases hname.symm.trans hfield
    · exact ih hmem
  | known hfield hfresh hread hrest ih =>
    rcases List.mem_cons.mp hmem with heq | hmem
    · cases heq
      cases hname.symm.trans hfield
      exact ⟨_, _, _, hread, hrest.get_eq howns (.inr List.mem_cons_self)⟩
    · exact ih hmem

end Records

end PocketDesk.Json
