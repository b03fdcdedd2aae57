import PocketDesk.Manifest.Building
import PocketDesk.Manifest.Printer
import PocketDesk.Proofs.Json.Refusal

/-! # A manifest and its text

A manifest can be written however deep its entries stand, but not every text of one can
be read: each level of entries opens two brackets, and at the last level that may be
entered there is no bracket left for children. So the text gives the manifest back when
no entry stands below that level, and is refused as malformed when one does. -/

namespace PocketDesk

open Json

/-! ## How deep entries stand -/

mutual

/-- The levels of entries that an entry takes up with what is inside it. -/
def Entry.height : Entry → Nat
  | ⟨_, _, children, _, _, _, _⟩ => Entry.heights children + 1

def Entry.heights : List Entry → Nat
  | [] => 0
  | e :: es => max e.height (Entry.heights es)

end

/-- An entry at a depth. The entries of the root have depth 1. -/
inductive Manifest.At (m : Manifest) : Nat → Entry → Prop
  | root {e : Entry} (he : e ∈ m.root) : At m 1 e
  | child {k : Nat} {e c : Entry} (h : At m k e) (hc : c ∈ e.children) : At m (k + 1) c

/-- The depth of the deepest entry. -/
def Manifest.nesting (m : Manifest) : Nat := Entry.heights m.root

namespace Entry

theorem height_eq (e : Entry) : e.height = heights e.children + 1 := by
  obtain ⟨name, kind, children, path, content, window, action⟩ := e
  rfl

theorem heights_le_iff {es : List Entry} {n : Nat} : heights es ≤ n ↔ ∀ e ∈ es, e.height ≤ n := by
  induction es with
  | nil => simp [heights]
  | cons e es ih => rw [heights, Nat.max_le, ih, List.forall_mem_cons]

theorem lt_heights_iff {es : List Entry} {n : Nat} : n < heights es ↔ ∃ e ∈ es, n < e.height := by
  rw [← Nat.not_le, heights_le_iff]
  simp

theorem heights_eq_zero_iff {es : List Entry} : heights es = 0 ↔ es = [] := by
  cases es with
  | nil => simp [heights]
  | cons e es =>
    have := e.height_eq
    simp only [heights, reduceCtorEq, iff_false]
    omega

end Entry

namespace Manifest

/-- Below an entry there is an entry for each of its levels. -/
theorem exists_at_of_lt_height {m : Manifest} {n k : Nat} {e : Entry} (he : m.At k e)
    (h : n < e.height) : ∃ j c, m.At j c ∧ k + n ≤ j := by
  induction n generalizing k e with
  | zero => exact ⟨k, e, he, Nat.le_refl k⟩
  | succ n ih =>
    rw [Entry.height_eq, Nat.add_lt_add_iff_right] at h
    obtain ⟨c, hc, hdeep⟩ := Entry.lt_heights_iff.mp h
    obtain ⟨j, d, hd, hj⟩ := ih (.child he hc) hdeep
    exact ⟨j, d, hd, by omega⟩

theorem depth_add_height_le {m : Manifest} {k : Nat} {e : Entry} (he : m.At k e) :
    k + e.height ≤ m.nesting + 1 := by
  induction he with
  | root he =>
    have hle := Entry.heights_le_iff.mp (Nat.le_refl m.nesting) _ he
    omega
  | child he hc ih =>
    have hle := Entry.heights_le_iff.mp (Nat.le_refl (Entry.heights _)) _ hc
    rw [Entry.height_eq] at ih
    omega

theorem nesting_le_iff {m : Manifest} {n : Nat} :
    m.nesting ≤ n ↔ ∀ k e, m.At k e → k ≤ n := by
  constructor
  · intro h k e he
    have hheight := e.height_eq
    have hle := depth_add_height_le he
    omega
  · intro h
    refine Nat.le_of_not_lt fun hlt => ?_
    obtain ⟨e, he, hdeep⟩ := Entry.lt_heights_iff.mp hlt
    obtain ⟨j, c, hc, hj⟩ := exists_at_of_lt_height (.root he) hdeep
    have hle := h j c hc
    omega

end Manifest

/-! ## The members of a written entry -/

section Optional

variable {σ : Type} (name : String) (set : Option String → σ → σ)

/-- The member of an optional part, which stands only where the part is present. -/
def optionalPart : Option String → List (Member σ)
  | none => []
  | some text => [.of name (writeString text) set (some text)]

theorem map_written_optionalPart (value : Option String) :
    (optionalPart name set value).map Member.written = optionalMember name value := by
  cases value <;> rfl

theorem map_name_optionalPart_sublist (value : Option String) :
    ((optionalPart name set value).map Member.name).Sublist [name] := by
  cases value with
  | none => exact List.nil_sublist _
  | some text => exact List.Sublist.refl _

variable {name set}

/-- An absent part changes nothing where the record has none yet. -/
theorem foldl_optionalPart {record : σ} (h : set none record = record) (value : Option String) :
    (optionalPart name set value).foldl (fun record m => m.set record) record =
      set value record := by
  cases value with
  | none => exact h.symm
  | some text => rfl

theorem fits_of_mem_optionalPart {fields : List (Json.Field σ)}
    (hfield : fields.find? (fun f => f.name == name) = some (.of name false readString? set))
    {value : Option String} {m : Member σ} (hm : m ∈ optionalPart name set value) :
    m.Fits fields := by
  cases value with
  | none => cases hm
  | some text =>
    obtain rfl := List.mem_singleton.mp hm
    exact Member.fits_of hfield (recovers_string? text)

end Optional

namespace Entry

theorem writeAll_eq_map (es : List Entry) : writeAll es = es.map write := by
  induction es with
  | nil => rfl
  | cons e es ih => rw [writeAll, ih, List.map_cons]

def childrenMember (children : List Entry) : Member Entry :=
  .of "children" (writeArray (writeAll children)) (fun x e => { e with children := x }) children

/-- The member of the children, which stands only where there are some. -/
def childrenPart (children : List Entry) : List (Member Entry) :=
  if children.isEmpty then [] else [childrenMember children]

theorem mem_childrenPart_iff {children : List Entry} {m : Member Entry} :
    m ∈ childrenPart children ↔ children ≠ [] ∧ m = childrenMember children := by
  cases children <;> simp [childrenPart]

def parts (e : Entry) : List (Member Entry) :=
  [ .of "name" (writeString e.name) (fun x e => { e with name := x }) e.name
  , .of "type" (writeString e.kind) (fun x e => { e with kind := x }) e.kind ] ++
  childrenPart e.children ++
  optionalPart "path" (fun x e => { e with path := x }) e.path ++
  optionalPart "content" (fun x e => { e with content := x }) e.content ++
  optionalPart "window" (fun x e => { e with window := x }) e.window ++
  optionalPart "action" (fun x e => { e with action := x }) e.action

theorem write_eq (e : Entry) : e.write = writeObject (e.parts.map Member.written) := by
  obtain ⟨name, kind, children, path, content, window, action⟩ := e
  simp only [parts, List.map_append, map_written_optionalPart, write]
  cases children <;> rfl

theorem foldl_parts (e : Entry) :
    e.parts.foldl (fun e m => m.set e) ⟨"", "", [], none, none, none, none⟩ = e := by
  obtain ⟨name, kind, children, path, content, window, action⟩ := e
  have hchildren : (childrenPart children).foldl (fun e m => m.set e)
      ⟨name, kind, [], none, none, none, none⟩ =
        ⟨name, kind, children, none, none, none, none⟩ := by
    cases children <;> rfl
  simp only [parts, List.foldl_append, List.foldl_cons, List.foldl_nil, Member.of, hchildren]
  rw [foldl_optionalPart ?_ path, foldl_optionalPart ?_ content, foldl_optionalPart ?_ window,
    foldl_optionalPart ?_ action]
  all_goals rfl

theorem map_name_parts_sublist (e : Entry) (children : Reader (List Entry)) :
    (e.parts.map Member.name).Sublist ((fields children).map Json.Field.name) := by
  have hchildren : ((childrenPart e.children).map Member.name).Sublist ["children"] := by
    unfold childrenPart
    split
    · exact List.nil_sublist _
    · exact List.Sublist.refl _
  simp only [parts, List.map_append]
  have hrequired := List.Sublist.refl ["name", "type"]
  exact ((((hrequired.append hchildren).append
    (map_name_optionalPart_sublist "path" _ e.path)).append
    (map_name_optionalPart_sublist "content" _ e.content)).append
    (map_name_optionalPart_sublist "window" _ e.window)).append
    (map_name_optionalPart_sublist "action" _ e.action)

theorem nodup_map_name_parts (e : Entry) : (e.parts.map Member.name).Nodup :=
  (e.map_name_parts_sublist (readArray none)).nodup (by decide)

/-- Every member but that of the children is recovered, however the children are read. -/
theorem fits_of_mem_parts {e : Entry} {children : Reader (List Entry)} {m : Member Entry}
    (hm : m ∈ e.parts) (hchildren : m ∉ childrenPart e.children) : m.Fits (fields children) := by
  simp only [parts, List.mem_append, List.mem_cons, List.not_mem_nil, or_false] at hm
  rcases hm with (((((rfl | rfl) | hm) | hm) | hm) | hm) | hm
  · exact Member.fits_of rfl (recovers_string _)
  · exact Member.fits_of rfl (recovers_string _)
  · exact absurd hm hchildren
  · exact fits_of_mem_optionalPart rfl hm
  · exact fits_of_mem_optionalPart rfl hm
  · exact fits_of_mem_optionalPart rfl hm
  · exact fits_of_mem_optionalPart rfl hm

section Children

variable {children : Reader (List Entry)} {e : Entry}

/-- An entry is recovered when its children are, if it has any. -/
theorem recovers_of_children
    (h : e.children ≠ [] → Recovers children (writeArray (writeAll e.children)) e.children) :
    Recovers (readRecord "ManifestEntry" (some (fields children))
      ⟨"", "", [], none, none, none, none⟩) e.write e := by
  have hwhole : Whole (fields children) e.parts := by
    refine ⟨?_, e.nodup_map_name_parts, ?_⟩
    · intro m hm
      by_cases hchildren : m ∈ childrenPart e.children
      · obtain ⟨hne, rfl⟩ := mem_childrenPart_iff.mp hchildren
        exact Member.fits_of rfl (h hne)
      · exact fits_of_mem_parts hm hchildren
    · intro field hfield hrequired
      simp only [fields, List.mem_cons, List.not_mem_nil, or_false] at hfield
      rcases hfield with rfl | rfl | rfl | rfl | rfl | rfl | rfl
      · simp [parts, Member.of, Field.of]
      · simp [parts, Member.of, Field.of]
      -- no other field is required
      all_goals cases hrequired
  have hrecovers := recovers_record hwhole "ManifestEntry" ⟨"", "", [], none, none, none, none⟩
  rwa [foldl_parts, ← write_eq] at hrecovers

/-- An entry with children is refused when they are. -/
theorem refuses_of_children (hne : e.children ≠ [])
    (h : Refuses children (writeArray (writeAll e.children))) :
    Refuses (readRecord "ManifestEntry" (some (fields children))
      ⟨"", "", [], none, none, none, none⟩) e.write := by
  have hmisfits : (childrenMember e.children).Misfits (fields children) := Member.misfits_of rfl h
  have hmem : childrenMember e.children ∈ e.parts := by
    simp [parts, mem_childrenPart_iff, hne]
  rw [write_eq]
  refine refuses_record ?_ ⟨_, hmem, hmisfits⟩ e.nodup_map_name_parts _ _
  intro m hm
  by_cases hchildren : m ∈ childrenPart e.children
  · obtain ⟨-, rfl⟩ := mem_childrenPart_iff.mp hchildren
    exact .inr hmisfits
  · exact .inl (fits_of_mem_parts hm hchildren)

end Children

/-! ## Levels -/

/-- The text of a value is recovered within so many levels, and refused beyond. -/
def Bounded {α : Type} (read : Reader α) (text : List Char) (x : α) (height levels : Nat) : Prop :=
  (height ≤ levels → Recovers read text x) ∧ (levels < height → Refuses read text)

theorem bounded_all {item : Reader Entry} {levels : Nat} {es : List Entry}
    (h : ∀ e ∈ es, Bounded item e.write e e.height levels) :
    Bounded (readArray (some item)) (writeArray (writeAll es)) es (heights es) levels := by
  have hstarts : ∀ e : Entry, Starts e.write := by
    intro e
    rw [write_eq]
    exact starts_writeObject _
  rw [writeAll_eq_map]
  constructor
  · intro hle
    refine recovers_array fun e he => ⟨hstarts e, ?_⟩
    exact (h e he).1 (heights_le_iff.mp hle e he)
  · intro hlt
    obtain ⟨e, he, hdeep⟩ := lt_heights_iff.mp hlt
    refine refuses_array (fun x hx => ⟨hstarts x, ?_⟩) ⟨e, he, (h e he).2 hdeep⟩
    rcases Nat.lt_or_ge levels x.height with hx' | hx'
    · exact .inr ((h x hx).2 hx')
    · exact .inl ((h x hx).1 hx')

/-- A level takes two brackets, and the last one that is left opens an entry without children. -/
theorem bounded_read (levels : Nat) (e : Entry) :
    Bounded (read (2 * levels + 1)) e.write e e.height (levels + 1) := by
  induction levels generalizing e with
  | zero =>
    have hheight := e.height_eq
    constructor
    · intro hle
      refine recovers_of_children fun hne => absurd (heights_eq_zero_iff.mp ?_) hne
      omega
    · intro hlt
      refine refuses_of_children (mt heights_eq_zero_iff.mpr ?_) (refuses_array_of_no_bracket _)
      omega
  | succ levels ih =>
    have hheight := e.height_eq
    obtain ⟨hrecovers, hrefuses⟩ := bounded_all fun x (_ : x ∈ e.children) => ih x
    constructor
    · intro hle
      exact recovers_of_children fun _ => hrecovers (by omega)
    · intro hlt
      refine refuses_of_children (mt heights_eq_zero_iff.mpr ?_) (hrefuses ?_)
      · omega
      · omega

end Entry

/-! ## The manifest -/

namespace Manifest

def parts (m : Manifest) : List (Member Manifest) :=
  [.of "root" (writeArray (Entry.writeAll m.root)) (fun x m => { m with root := x }) m.root]

theorem ofJson_toJson (m : Manifest) :
    ofJson m.toJson = if m.nesting ≤ 63 then .ok m else .error .malformed := by
  obtain ⟨hrecovers, hrefuses⟩ :=
    Entry.bounded_all fun e (_ : e ∈ m.root) => Entry.bounded_read 62 e
  have hfits : m.nesting ≤ 63 → ofJson m.toJson = .ok m := by
    intro h
    have hwhole : Whole fields m.parts := by
      refine .of_names_eq ?_ rfl (by decide)
      intro k hk
      obtain rfl := List.mem_singleton.mp hk
      exact Member.fits_of rfl (hrecovers h)
    exact readDocument_of_recovers (recovers_record hwhole _ _)
  have hmisfits : 63 < m.nesting → ofJson m.toJson = .error .malformed := by
    intro h
    have hroot : ∀ k ∈ m.parts, k.Misfits fields := by
      intro k hk
      obtain rfl := List.mem_singleton.mp hk
      exact Member.misfits_of rfl (hrefuses h)
    exact readDocument_of_refuses (refuses_record (fun k hk => .inr (hroot k hk))
      ⟨_, List.mem_singleton_self _, hroot _ (List.mem_singleton_self _)⟩ (by simp [parts]) _ _)
  split
  · next h => exact hfits h
  · next h => exact hmisfits (Nat.lt_of_not_le h)

end Manifest

/-- **The text of a manifest stands for the manifest** as long as its entries are nested at most 63
deep: it is read back as it was, and gives the same tree or the same violation. Beyond that depth
the text is refused as malformed. -/
theorem Tree.ofJson_written (m : Manifest) :
    (m.nesting ≤ 63 ↔ ∀ k e, m.At k e → k ≤ 63) ∧
    Manifest.ofJson m.toJson = (if m.nesting ≤ 63 then .ok m else .error .malformed) ∧
    ofJson m.toJson =
      (if m.nesting ≤ 63 then (ofManifest m).mapError .invalid
       else .error (.notJson .malformed)) := by
  have hread := m.ofJson_toJson
  refine ⟨Manifest.nesting_le_iff, hread, ?_⟩
  by_cases h : m.nesting ≤ 63
  · rw [if_pos h] at hread ⊢
    simp only [ofJson, hread]
    cases ofManifest m <;> rfl
  · rw [if_neg h] at hread ⊢
    simp only [ofJson, hread]

end PocketDesk
