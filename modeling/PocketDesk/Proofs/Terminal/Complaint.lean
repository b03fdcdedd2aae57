import PocketDesk.Desktop.Manager
import PocketDesk.Proofs.Terminal.Standing

/-! # Lines that end in a complaint

A complaint is the last thing that a submitted line adds to the log, and the only thing
beside the line itself. Nothing else has happened by then: the desktop was not asked
for anything, and the session stands where it stood. -/

namespace PocketDesk.Shell

variable {H : Type} [WindowHost H] {s : Shell} {line : String} {host : H}

theorem Reachable.capacity_eq {tree : Tree} (hs : Reachable tree s) :
    s.log.capacity = maxLogLines := by
  induction hs with
  | start => rfl
  | @call s H inst c host _ ih =>
    cases c with
    | submit line => exact (capacity_submit s line host).trans ih
    | previous => exact ih
    | next => exact ih
    | complete buffer => exact ih

/-- What a line adds to the log is the line itself, and output of the command it asks for. -/
theorem eq_or_mem_of_mem_added {added : Line} (h : added ∈ s.added line host) :
    added = .command s.prompt line ∨ ∃ command, asked? line = some command ∧
      added ∈ (command.execute s.tree s.current host).1.output := by
  cases hline : asked? line with
  | none =>
    rw [added_of_not_asked hline] at h
    cases h
  | some command =>
    cases hclear : (command.execute s.tree s.current host).1.clear with
    | true =>
      obtain rfl := Command.clear_execute_iff.mp hclear
      rw [added_of_clear hline] at h
      cases h
    | false =>
      rw [added_of_asked hline s host hclear] at h
      rcases List.mem_cons.mp (List.mem_of_mem_drop h) with rfl | hmem
      · exact .inl rfl
      · exact .inr ⟨command, rfl, hmem⟩

theorem fails_of_mem_added {text : String} (h : Line.error text ∈ s.added line host) :
    ∃ command e, asked? line = some command ∧ Command.Fails s.tree s.current command e ∧
      text = e.message := by
  rcases eq_or_mem_of_mem_added h with heq | ⟨command, hline, hmem⟩
  · cases heq
  · obtain ⟨e, hfails, htext⟩ := Command.fails_of_error hmem
    exact ⟨command, e, hline, hfails, htext⟩

variable {complaint : Line}

/-- A complaint at the end of what a line adds comes from the line's command, and is all of it. -/
theorem execute_of_added (h : (s.added line host).getLast? = some complaint)
    (hc : complaint.isComplaint = true) :
    ∃ command, asked? line = some command ∧
      command.execute s.tree s.current host = (.line complaint, host) := by
  rcases eq_or_mem_of_mem_added (List.mem_of_getLast? h) with rfl | ⟨command, hline, hmem⟩
  · cases hc
  · exact ⟨command, hline, Command.execute_of_complaint hmem hc⟩

/-- The session after a complaint: it has the line in its history, and two lines more in its log. -/
theorem submit_of_complaint (h : (s.added line host).getLast? = some complaint)
    (hc : complaint.isComplaint = true) :
    s.submit line host = ((s.echo line).follow (.line complaint), host) := by
  obtain ⟨command, hline, hrun⟩ := execute_of_added h hc
  rw [submit_of_asked hline, hrun]

/-- The desktop is not asked for anything on the way to a complaint. -/
theorem requests_of_complaint (h : (s.added line host).getLast? = some complaint)
    (hc : complaint.isComplaint = true) : (s.submit line (Watched.of host)).2.requests = [] := by
  obtain ⟨command, hline, hrun⟩ := execute_of_added h hc
  have hwatched := (command.execute_watched s.tree s.current host).1
  rw [hrun] at hwatched
  have hmem : complaint ∈ (command.execute s.tree s.current (Watched.of host)).1.output := by
    rw [hwatched]
    exact List.mem_singleton_self complaint
  rw [submit_of_asked hline, Command.execute_of_complaint hmem hc]
  rfl

/-- **Complaints and requests.** When the last line that a submitted line adds to the log is an
error or a warning, the host was asked for nothing and is as it was, the session stands where it
stood, and the log and the history got what was entered and the complaint. And whatever a command
does, it makes one request at most, which the commands that ask always make; it prints one line at
most, goes somewhere only as a `cd` to a directory, clears only as `clear`, and does no two of
these. -/
theorem complaints_and_requests (tree : Tree) (current : Location) (host : H) :
    (∀ (s : Shell) (line : String) (complaint : Line),
      (s.added line host).getLast? = some complaint → complaint.isComplaint = true →
      (s.submit line (Watched.of host)).2.requests = [] ∧
      (s.submit line host).2 = host ∧
      (s.submit line host).1.current = s.current ∧
      (s.submit line host).1.log.lines =
        (s.log.lines ++ [.command s.prompt line, complaint]).rtake s.log.capacity ∧
      (s.submit line host).1.history.entries = s.history.entries ++ [line]) ∧
    (∀ s, Reachable tree s → s.log.capacity = 1000) ∧
    (∀ command : Command,
      let outcome := (command.execute tree current host).1
      let requests := (command.execute tree current (Watched.of host)).2.requests
      requests.length ≤ 1 ∧ (requests.length = 1 ↔ command.Asks tree current) ∧
      outcome.output.length ≤ 1 ∧
      (∀ l, outcome.navigate = some l ↔ command.Enters tree current l) ∧
      (outcome.clear = true ↔ command = .clear) ∧
      (outcome.clear = true → outcome.navigate = none) ∧
      (outcome.output ≠ [] → outcome.navigate = none ∧ outcome.clear = false)) := by
  refine ⟨?_, ?_, ?_⟩
  · intro s line complaint h hc
    have hsubmit := submit_of_complaint h hc
    refine ⟨requests_of_complaint h hc, ?_, ?_, ?_, ?_⟩
    · rw [hsubmit]
    · rw [hsubmit]
      rfl
    · rw [hsubmit, log_follow_echo s line rfl, Log.lines_extend]
      rfl
    · rw [hsubmit]
      rfl
  · exact fun s hs => hs.capacity_eq
  · intro command outcome requests
    have hcomes := command.execute_comesTo tree current host
    refine ⟨?_, ?_, hcomes.length_output_le, fun l => Command.navigate_execute_iff,
      Command.clear_execute_iff, hcomes.navigate_of_clear, ?_⟩
    · rcases command.length_requests_execute tree current host with ⟨h, -⟩ | ⟨h, -⟩
      · exact Nat.le_of_eq h
      · exact (Nat.le_of_eq h).trans (Nat.zero_le 1)
    · rcases command.length_requests_execute tree current host with ⟨h, hasks⟩ | ⟨h, hnot⟩
      · exact iff_of_true h hasks
      · refine iff_of_false ?_ hnot
        rw [h]
        exact Nat.zero_ne_one
    · intro hprints
      obtain ⟨l, hl⟩ := List.exists_mem_of_ne_nil _ hprints
      have hline : outcome = .line l := hcomes.eq_line hl
      rw [hline]
      exact ⟨rfl, rfl⟩

theorem complaints_and_requests_below_a :
    let s : Shell := ((Shell.start twoLevels).submit "cd a" Manager.fresh).1
    (s.added "open b" Manager.fresh).getLast? = some (.error "open: b: Is a directory") ∧
      (s.submit "open b" Manager.fresh).2 = Manager.fresh ∧
      (s.submit "open b" Manager.fresh).1.current = ⟨["a"]⟩ ∧
      (s.submit "open b" Manager.fresh).1.history.entries = ["cd a", "open b"] := by
  intro s
  have hlast : (s.added "open b" Manager.fresh).getLast? =
      some (.error "open: b: Is a directory") := by decide
  have hcurrent : s.current = ⟨["a"]⟩ := by decide
  have hentries : s.history.entries = ["cd a"] := by decide
  obtain ⟨-, hhost, hstay, -, hhistory⟩ :=
    (complaints_and_requests twoLevels s.current Manager.fresh).1 s _ _ hlast rfl
  exact ⟨hlast, hhost, hstay.trans hcurrent, hhistory.trans (by rw [hentries]; rfl)⟩

end PocketDesk.Shell
