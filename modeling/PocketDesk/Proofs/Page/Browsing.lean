import PocketDesk.Page.Console
import PocketDesk.Proofs.Terminal.History
import PocketDesk.Proofs.Terminal.Replay

/-! # Browsing in the input field

The field does not know where the history's cursor stands, yet its text follows it: after a
line was entered the text is empty and the cursor behind the newest entry, and every arrow
moves both alike. At the oldest entry nothing comes back and the text stays; behind the
newest nothing comes back and the text goes. Either way it is what belongs there. -/

namespace PocketDesk.Page

inductive Arrow where
  | up
  | down
  deriving DecidableEq, Repr

namespace Arrow

def key : Arrow → Key
  | .up => .up
  | .down => .down

/-- Where the arrow leads from a place in a history of so many entries. -/
def move (size : Nat) : Arrow → Nat → Nat
  | .up, cursor => cursor - 1
  | .down, cursor => min (cursor + 1) size

end Arrow

namespace Console

variable {H : Type} [WindowHost H] {c : Console}

def browse : List Arrow → Console → H → Console × H
  | [], c, host => (c, host)
  | arrow :: arrows, c, host =>
    browse arrows (c.press arrow.key host).1 (c.press arrow.key host).2

/-- The text is the entry at the history's cursor, and empty behind the newest. -/
def ShowsEntry (c : Console) : Prop := c.field.buffer = c.shell.history.atCursor?.getD ""

theorem ShowsEntry.entry (h : c.ShowsEntry)
    (hlt : c.shell.history.cursor < c.shell.history.size) :
    c.shell.history.atCursor? = some c.field.buffer := by
  obtain ⟨entry, hentry⟩ := History.exists_atCursor?_of_lt hlt
  rw [h, hentry]
  rfl

theorem ShowsEntry.empty (h : c.ShowsEntry)
    (hend : c.shell.history.cursor = c.shell.history.size) : c.field.buffer = "" := by
  rw [h, History.atCursor?_eq_none_iff.mpr hend]
  rfl

theorem showsEntry_press_enter (c : Console) (host : H) : (c.press .enter host).1.ShowsEntry := by
  have hparked : (c.shell.submit c.field.buffer host).1.history.atCursor? = none :=
    History.atCursor?_eq_none_iff.mpr (Shell.cursor_submit c.shell c.field.buffer host)
  show "" = (c.shell.submit c.field.buffer host).1.history.atCursor?.getD ""
  rw [hparked]
  rfl

/-- **One arrow** moves the cursor and leaves the entries. -/
theorem history_press_arrow (c : Console) (arrow : Arrow) (host : H) :
    (c.press arrow.key host).1.shell.history.entries = c.shell.history.entries ∧
      (c.press arrow.key host).1.shell.history.cursor =
        arrow.move c.shell.history.size c.shell.history.cursor := by
  cases arrow with
  | up => exact ⟨c.shell.history.entries_previous, c.shell.history.cursor_previous⟩
  | down => exact ⟨c.shell.history.entries_next, c.shell.history.cursor_next⟩

theorem ShowsEntry.press_arrow (h : c.ShowsEntry) (arrow : Arrow) (host : H) :
    (c.press arrow.key host).1.ShowsEntry := by
  cases arrow with
  | up =>
    show c.shell.history.previous.1.getD c.field.buffer =
      c.shell.history.previous.2.atCursor?.getD ""
    by_cases hzero : c.shell.history.cursor = 0
    · -- the text stays, and so does the cursor that it belonged to
      rw [History.previous_of_eq_zero hzero]
      exact h
    · obtain ⟨entry, hentry, hback⟩ := History.exists_entry_previous (Nat.pos_of_ne_zero hzero)
      rw [hback, hentry]
      rfl
  | down =>
    show c.shell.history.next.1.getD "" = c.shell.history.next.2.atCursor?.getD ""
    rw [History.fst_next]

/-- **Many arrows.** -/
theorem ShowsEntry.browse (h : c.ShowsEntry) (arrows : List Arrow) (host : H) :
    let after := (Console.browse arrows c host).1
    after.ShowsEntry ∧ after.shell.history.entries = c.shell.history.entries ∧
      after.shell.history.cursor =
        arrows.foldl (fun cursor arrow => arrow.move c.shell.history.size cursor)
          c.shell.history.cursor := by
  induction arrows generalizing c host with
  | nil => exact ⟨h, rfl, rfl⟩
  | cons arrow arrows ih =>
    obtain ⟨hentries, hcursor⟩ := c.history_press_arrow arrow host
    have hsize : (c.press arrow.key host).1.shell.history.size = c.shell.history.size :=
      congrArg List.length hentries
    obtain ⟨hshows, hrest, hwalk⟩ := ih (h.press_arrow arrow host) (c.press arrow.key host).2
    rw [hsize, hcursor] at hwalk
    exact ⟨hshows, hrest.trans hentries, hwalk⟩

/-- **Browsing is a walk between two ends, and the field shows where it stands.** Whatever was done
to a history: its entries are the lines that were pushed, in order, and its cursor is not beyond
the place behind the newest. A step back moves the cursor to the entry before, and to the oldest at
most, a step forward to the entry behind, and behind the newest at most; the entry at the new place
comes back, unless the step back started at the oldest or the step forward left the newest. And
after a line was entered, with whatever history, arrows walk from behind the newest entry in just
this way, and the text in the field is the entry at the cursor, or empty behind the newest. -/
theorem field_follows_cursor (ops : List History.Op) :
    let h := History.run ops
    (h.entries = ops.filterMap History.Op.line? ∧ h.cursor ≤ h.size) ∧
    (h.previous.2.entries = h.entries ∧ h.previous.2.cursor = h.cursor - 1 ∧
      (h.cursor = 0 → h.previous.1 = none) ∧
      (0 < h.cursor → ∃ entry, h.entries[h.previous.2.cursor]? = some entry ∧
        h.previous.1 = some entry)) ∧
    (h.next.2.entries = h.entries ∧ h.next.2.cursor = min (h.cursor + 1) h.size ∧
      (h.next.2.cursor = h.size → h.next.1 = none) ∧
      (h.next.2.cursor < h.size → ∃ entry, h.entries[h.next.2.cursor]? = some entry ∧
        h.next.1 = some entry)) ∧
    ∀ (c : Console) (H : Type) [WindowHost H] (host : H) (arrows : List Arrow),
      let entered := c.press .enter host
      let after := (browse arrows entered.1 entered.2).1
      let history := after.shell.history
      history.entries = entered.1.shell.history.entries ∧
      history.cursor =
        arrows.foldl (fun cursor arrow => arrow.move history.size cursor) history.size ∧
      (history.cursor < history.size →
        history.entries[history.cursor]? = some after.field.buffer) ∧
      (history.cursor = history.size → after.field.buffer = "") := by
  intro h
  refine ⟨⟨History.entries_run ops, h.cursor_le⟩, ?_, ?_, ?_⟩
  · have hold : h.cursor = 0 → h.previous.1 = none :=
      fun hzero => congrArg Prod.fst (History.previous_of_eq_zero hzero)
    refine ⟨h.entries_previous, h.cursor_previous, hold, ?_⟩
    rw [← h.entries_previous]
    exact History.exists_entry_previous
  · refine ⟨h.entries_next, h.cursor_next, History.fst_next_of_eq_size, ?_⟩
    rw [← h.entries_next]
    exact History.exists_entry_next
  · intro c H _ host arrows entered after history
    obtain ⟨hshows, hentries, hcursor⟩ :=
      (c.showsEntry_press_enter host).browse arrows (c.press .enter host).2
    have hsize : history.size = entered.1.shell.history.size := congrArg List.length hentries
    have hparked : entered.1.shell.history.cursor = entered.1.shell.history.size :=
      Shell.cursor_submit c.shell c.field.buffer host
    refine ⟨hentries, ?_, hshows.entry, hshows.empty⟩
    rw [hsize]
    exact hcursor.trans (by rw [hparked])

end Console

end PocketDesk.Page
