import PocketDesk.Manifest.Building

/-! # What the type of an entry makes of it

The types fall into seven roles, some of them under two names. The role alone says
which field an entry needs and which node it becomes, so building an entry is told
here once, role by role. An action is spelled as one of three verbs with a target
behind it, and reading the spelling of an action gives that action. -/

namespace PocketDesk

/-! ## Actions -/

namespace Action

/-- What the action is done to. -/
def target : Action → String
  | .openWindow w => w.name
  | .toggleWindow w => w.name
  | .toggleEffect e => e

/-- One of the three verbs with its colon, and something behind it. -/
def Spelled (spec : String) : Prop :=
  ∃ start ∈ ["open:", "toggle:", "effect:"], start.toList <+: spec.toList ∧ spec ≠ start

instance (spec : String) : Decidable (Spelled spec) :=
  inferInstanceAs (Decidable (∃ start ∈ _, _ ∧ _))

/-- A spelling is cut at its first colon. -/
theorem parse?_append (verb target : String) (hverb : ':' ∉ verb.toList) (h : target ≠ "") :
    parse? (verb ++ ":" ++ target) = ofVerb? verb target := by
  obtain ⟨c, cs, ht⟩ := List.exists_cons_of_ne_nil (l := target.toList) (by simpa using h)
  have hall : ∀ d ∈ verb.toList, decide (d ≠ ':') = true := by
    intro d hd
    exact decide_eq_true fun hd' => hverb (hd' ▸ hd)
  have hlist : (verb ++ ":" ++ target).toList = verb.toList ++ ':' :: c :: cs := by simp [ht]
  have htake : (verb ++ ":" ++ target).toList.takeWhile (· ≠ ':') = verb.toList := by
    rw [hlist, List.takeWhile_append_of_pos hall]
    simp
  have hdrop : (verb ++ ":" ++ target).toList.drop verb.toList.length = ':' :: c :: cs := by
    rw [hlist, List.drop_left]
  have htarget : String.ofList (c :: cs) = target := by rw [← ht, String.ofList_toList]
  simp only [parse?, htake, hdrop, String.ofList_toList, htarget]

theorem parse?_text {a : Action} (h : a.target ≠ "") : parse? a.text = some a := by
  cases a with
  | openWindow w => exact parse?_append "open" _ (by decide) h
  | toggleWindow w => exact parse?_append "toggle" _ (by decide) h
  | toggleEffect e => exact parse?_append "effect" _ (by decide) h

theorem eq_text_of_ofVerb? {verb target : String} {a : Action} (h : ofVerb? verb target = some a) :
    verb ++ ":" ++ target = a.text ∧ a.target = target := by
  unfold ofVerb? at h
  split at h
  · obtain rfl := Option.some.inj h
    exact ⟨rfl, rfl⟩
  · obtain rfl := Option.some.inj h
    exact ⟨rfl, rfl⟩
  · obtain rfl := Option.some.inj h
    exact ⟨rfl, rfl⟩
  · cases h

/-- What follows the verb starts with the colon that ended it. -/
theorem eq_append_of_drop_takeWhile {s rest : List Char} {mark : Char}
    (h : s.drop (s.takeWhile (· ≠ ':')).length = mark :: rest) :
    s = s.takeWhile (· ≠ ':') ++ ':' :: rest := by
  have hsplit : s.takeWhile (· ≠ ':') ++ s.dropWhile (· ≠ ':') = s := List.takeWhile_append_dropWhile
  have hrest : s.dropWhile (· ≠ ':') = mark :: rest := by
    rw [← h]
    exact (List.drop_left' rfl).symm.trans (congrArg _ hsplit)
  have hmark := List.head?_dropWhile_not (fun c : Char => decide (c ≠ ':')) s
  rw [hrest] at hmark
  obtain rfl : mark = ':' := by simpa using hmark
  rw [← hrest, hsplit]

/-- **Reading an action** gives the one that is spelled so. -/
theorem parse?_eq_some_iff {spec : String} {a : Action} :
    parse? spec = some a ↔ a.text = spec ∧ a.target ≠ "" := by
  constructor
  · intro h
    simp only [parse?] at h
    split at h
    · next mark c cs hdrop =>
      obtain ⟨htext, htarget⟩ := eq_text_of_ofVerb? h
      have hspec := eq_append_of_drop_takeWhile hdrop
      refine ⟨?_, ?_⟩
      · rw [← htext, ← String.toList_inj]
        simpa using hspec.symm
      · simp [htarget]
    · cases h
  · rintro ⟨rfl, htarget⟩
    exact parse?_text htarget

theorem isSome_parse?_iff {spec : String} : (parse? spec).isSome = true ↔ Spelled spec := by
  rw [Option.isSome_iff_exists]
  constructor
  · rintro ⟨a, ha⟩
    obtain ⟨rfl, htarget⟩ := parse?_eq_some_iff.mp ha
    cases a with
    | openWindow w =>
      exact ⟨"open:", by simp, by simp [text], by simpa [text, target] using htarget⟩
    | toggleWindow w =>
      exact ⟨"toggle:", by simp, by simp [text], by simpa [text, target] using htarget⟩
    | toggleEffect e =>
      exact ⟨"effect:", by simp, by simp [text], by simpa [text, target] using htarget⟩
  · rintro ⟨start, hstart, ⟨rest, hrest⟩, hne⟩
    have hspec : spec = start ++ String.ofList rest := by
      rw [← String.toList_inj, ← hrest]
      simp
    have htarget : String.ofList rest ≠ "" := by
      intro hempty
      exact hne (by simpa [hempty] using hspec)
    simp only [List.mem_cons, List.not_mem_nil, or_false] at hstart
    rcases hstart with rfl | rfl | rfl
    · exact ⟨.openWindow ⟨_⟩, parse?_eq_some_iff.mpr ⟨hspec.symm, htarget⟩⟩
    · exact ⟨.toggleWindow ⟨_⟩, parse?_eq_some_iff.mpr ⟨hspec.symm, htarget⟩⟩
    · exact ⟨.toggleEffect _, parse?_eq_some_iff.mpr ⟨hspec.symm, htarget⟩⟩

end Action

/-! ## Roles -/

/-- What an entry stands for. -/
inductive Role where
  | directory
  | shortcut
  | executable
  | text
  | pdf
  | image
  | other
  deriving DecidableEq, Repr

def Role.ofKind (kind : String) : Role :=
  match kind with
  | "directory" | "dir" => .directory
  | "shortcut" => .shortcut
  | "exec" | "executable" => .executable
  | "text" => .text
  | "pdf" => .pdf
  | "img" => .image
  | _ => .other

namespace Entry

def role (e : Entry) : Role := .ofKind e.kind

/-- The node of an entry with an action. -/
def executableNode (path spec : String) : Except Violation Node :=
  match Action.parse? spec with
  | some action => .ok (.executable action)
  | none => .error (.invalidAction path spec)

/-- The node that an entry becomes in a role. -/
def nodeAs (path : String) (e : Entry) : Role → Except Violation Node
  | .directory => members path .empty e.children >>= fun d => .ok (.directory d.members)
  | .shortcut => require path e.kind "window" e.window >>= fun window => .ok (.shortcut ⟨window⟩)
  | .executable => require path e.kind "action" e.action >>= executableNode path
  | .text => require path e.kind "content" e.content >>= fun content => .ok (.file .text content)
  | .pdf => require path e.kind "path" e.path >>= fun asset => .ok (.file .pdf asset)
  | .image => require path e.kind "path" e.path >>= fun asset => .ok (.file .image asset)
  | .other => .ok (.file (.other e.kind) ((e.path.or e.content).getD ""))

theorem node_of_directory (path : String) {e : Entry} (h : e.kind = "directory" ∨ e.kind = "dir") :
    node path e = e.nodeAs path .directory := by
  obtain ⟨name, kind, children, asset, content, window, action⟩ := e
  simp only [node, nodeAs]
  rw [if_pos h]
  cases members path .empty children <;> rfl

theorem node_of_not_directory (path : String) {e : Entry}
    (h : ¬(e.kind = "directory" ∨ e.kind = "dir")) : node path e = e.leaf path := by
  obtain ⟨name, kind, children, asset, content, window, action⟩ := e
  simp only [node]
  rw [if_neg h]

/-- **Building an entry** follows its role. -/
theorem node_eq (path : String) (e : Entry) : node path e = e.nodeAs path e.role := by
  have hleaf := node_of_not_directory path (e := e)
  unfold role Role.ofKind
  split
  case h_1 h => exact node_of_directory path (.inl h)
  case h_2 h => exact node_of_directory path (.inr h)
  case h_9 hdirectory hdir _ _ _ _ _ _ =>
    rw [hleaf (not_or.mpr ⟨hdirectory, hdir⟩), leaf, nodeAs]
    simp only [FileKind.ofName]
  all_goals
    -- a type with a name of its own: both sides compute
    next h =>
    rw [hleaf (by simp [h]), leaf, nodeAs, h]
    rfl

end Entry

end PocketDesk
