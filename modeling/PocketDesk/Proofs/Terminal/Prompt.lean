import PocketDesk.Proofs.Terminal.Standing
import PocketDesk.Proofs.Tree.Address

/-! # What the prompt tells

The prompt is all that a session shows of where it stands. In a tree that was built from a
manifest it tells the location, and so does a path that begins at the root: no two places
share either text, and the path is followed to the place it was made of. -/

namespace PocketDesk

namespace Shell

/-- The prompt is the location's text behind a fixed beginning. -/
theorem display_eq_of_prompt_eq {s other : Shell} (h : s.prompt = other.prompt) :
    s.current.display = other.current.display := by
  rw [← String.toList_inj] at h ⊢
  simp only [prompt, promptAt, String.toList_append] at h
  exact List.append_cancel_left h

/-- **Every place has a path and a prompt of its own.** In a tree from a manifest, whatever is at a
location is found there under the slash and the names on the way, with slashes between them, from
wherever the path is followed; the prompt's text for a location that the tree has belongs to no
other one; so sessions that show the same prompt stand in the same directory. -/
theorem path_and_prompt_tell_location {m : Manifest} {tree : Tree}
    (ht : Tree.ofManifest m = .ok tree) :
    (∀ (l : Location) (n : Node), tree.get? l = some n →
      ∀ current, tree.resolve current ("/" ++ String.intercalate "/" l.below) = .ok (n, l)) ∧
    (∀ l other : Location, (tree.get? l).isSome = true → (tree.get? other).isSome = true →
      l.display = other.display → l = other) ∧
    (∀ s other : Shell, Reachable tree s → Reachable tree other →
      s.prompt = other.prompt → s.current = other.current) := by
  have hwf := Tree.wellFormed_of_ofManifest ht
  have hplain : ∀ l : Location, (tree.get? l).isSome = true →
      ∀ name ∈ l.below, Path.IsPlain name := by
    intro l hl
    obtain ⟨n, hn⟩ := Option.isSome_iff_exists.mp hl
    exact hwf.isPlain_of_get? hn
  have hsome : ∀ s : Shell, Reachable tree s → (tree.get? s.current).isSome = true := by
    intro s hs
    obtain ⟨n, hn, -⟩ := Tree.isDirectory_iff.mp hs.isDirectory
    exact Option.isSome_iff_exists.mpr ⟨n, hn⟩
  refine ⟨fun l n hn current => hwf.resolve_path hn current, ?_, ?_⟩
  · intro l other hl hother hdisplay
    exact Location.eq_of_display_eq (hplain l hl) (hplain other hother) hdisplay
  · intro s other hs hother hprompt
    exact Location.eq_of_display_eq (hplain _ (hsome s hs)) (hplain _ (hsome other hother))
      (display_eq_of_prompt_eq hprompt)

/-- Names that look as if they said something else. -/
def oddNames : Tree :=
  ⟨⟨[("~", .directory [("...", .directory [("a b", .file .text "here")])])]⟩⟩

def oddNamesManifest : Manifest :=
  let file : Entry := { name := "a b", kind := "text", content := some "here" }
  ⟨[{ name := "~", kind := "dir",
      children := [{ name := "...", kind := "directory", children := [file] }] }]⟩

theorem path_and_prompt_tell_location_under_odd_names :
    let s := (Call.apply (.submit "cd ~/...") (.start oddNames) Recorder.empty).1
    let other := (Call.apply (.submit "cd /.//~/.../../...") (.start oddNames) Recorder.empty).1
    Tree.ofManifest oddNamesManifest = .ok oddNames ∧
      oddNames.resolve ⟨["~"]⟩ "/~/.../a b" = .ok (.file .text "here", ⟨["~", "...", "a b"]⟩) ∧
      s.prompt = "root@gelo:~/~/..." ∧ s.current = other.current := by
  intro s other
  have hbuild : Tree.ofManifest oddNamesManifest = .ok oddNames := rfl
  obtain ⟨hpath, -, hprompt⟩ := path_and_prompt_tell_location hbuild
  have hs : s.prompt = "root@gelo:~/~/..." := by decide
  have hother : other.prompt = "root@gelo:~/~/..." := by decide
  have hfile := hpath ⟨["~", "...", "a b"]⟩ (.file .text "here") rfl ⟨["~"]⟩
  have hsame := hprompt s other (.call _ _ .start) (.call _ _ .start) (hs.trans hother.symm)
  exact ⟨hbuild, hfile, hs, hsame⟩

end Shell

end PocketDesk
