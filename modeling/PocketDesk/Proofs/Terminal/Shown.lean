import PocketDesk.Proofs.Terminal.Outcome

/-! # What a submitted line shows

A line shows itself behind its prompt, and the output of its command. That is two
lines of the log at most, far less than there is room for, so it is what the line
added to the log when it is done; and the line that stood last before is still there,
unless the log was cleared. -/

namespace PocketDesk

namespace Shell

variable {H : Type} [WindowHost H]

/-! ## One line and the log -/

/-- The line itself and the output of its command; nothing for a blank line or one that clears. -/
def shown (s : Shell) (line : String) (host : H) : List Line :=
  match asked? line with
  | none => []
  | some command =>
    if command = .clear then []
    else .command s.prompt line :: (command.execute s.tree s.current host).1.output

theorem length_shown_le (s : Shell) (line : String) (host : H) :
    (s.shown line host).length ≤ 2 := by
  unfold shown
  split
  · exact Nat.zero_le 2
  · next command hline =>
    split
    · exact Nat.zero_le 2
    · have houtput := (command.execute_comesTo s.tree s.current host).length_output_le
      exact Nat.succ_le_succ houtput

/-- Unless it is cleared, the log gets what a line shows. -/
theorem log_submit {line : String} (h : asked? line ≠ some .clear) (s : Shell) (host : H) :
    (s.submit line host).1.log = s.log.extend (s.shown line host) := by
  cases hline : asked? line with
  | none =>
    rw [submit_of_not_asked hline, shown, hline]
    rfl
  | some command =>
    have hclear : command ≠ .clear := fun hclear => h (hclear ▸ hline)
    have hkeeps := Command.clear_execute_of_ne hclear s.tree s.current host
    rw [submit_of_asked hline, log_follow_echo s line hkeeps, shown, hline]
    simp only [if_neg hclear]
    rfl

theorem lines_submit_clear {line : String} (h : asked? line = some .clear) (s : Shell) (host : H) :
    (s.submit line host).1.log.lines = [] := by
  rw [submit_of_asked h]
  rfl

variable {s : Shell} (hroom : 2 < s.log.capacity)
include hroom

/-- What a line adds to the log is what it shows, and all of that is still there. -/
theorem added_eq_shown (line : String) (host : H) : s.added line host = s.shown line host := by
  by_cases h : asked? line = some .clear
  · rw [added_of_clear h, shown, h]
    rfl
  · have hfits : (s.shown line host).length ≤ s.log.capacity :=
      (s.length_shown_le line host).trans hroom.le
    rw [added, log_submit h, Log.since_extend, Log.rtake_of_length_le _ _ hfits]

/-- Behind the line that was the last one stands what the submitted line added. -/
theorem behind_submit (line : String) (host : H) :
    (s.submit line host).1.log.behind s.log.lastNumber? = s.added line host := by
  rw [added_eq_shown hroom]
  by_cases h : asked? line = some .clear
  · rw [Log.behind_of_lines_eq_nil _ (lines_submit_clear h s host), shown, h]
    rfl
  · rw [log_submit h, Log.behind_extend _ ((s.length_shown_le line host).trans_lt hroom)]

end Shell

/-! ## Many lines -/

namespace Shell

variable {H α : Type} [WindowHost H]

/-- What is told of lines that are submitted one after another, each told of when its turn comes. -/
def collect (tell : Shell → String → H → List α) (s : Shell) (lines : List String) (host : H) :
    List α :=
  match lines with
  | [] => []
  | line :: lines =>
    tell s line host ++ (s.submit line host).1.collect tell lines (s.submit line host).2

theorem exists_of_mem_collect {tell : Shell → String → H → List α} {s : Shell}
    {lines : List String} {host : H} {x : α} (h : x ∈ s.collect tell lines host) :
    ∃ s line host, x ∈ tell s line host := by
  induction lines generalizing s host with
  | nil => cases h
  | cons line lines ih =>
    rcases List.mem_append.mp h with hline | hlines
    · exact ⟨s, line, host, hline⟩
    · exact ih hlines

theorem filter_collect (tell : Shell → String → H → List α) (keep : α → Bool) (s : Shell)
    (lines : List String) (host : H) :
    (s.collect tell lines host).filter keep =
      s.collect (fun s line host => (tell s line host).filter keep) lines host := by
  induction lines generalizing s host with
  | nil => rfl
  | cons line lines ih => rw [collect, List.filter_append, ih, collect]

theorem map_collect {β : Type} (tell : Shell → String → H → List α) (f : α → β) (s : Shell)
    (lines : List String) (host : H) :
    (s.collect tell lines host).map f =
      s.collect (fun s line host => (tell s line host).map f) lines host := by
  induction lines generalizing s host with
  | nil => rfl
  | cons line lines ih => rw [collect, List.map_append, ih, collect]

end Shell

end PocketDesk
