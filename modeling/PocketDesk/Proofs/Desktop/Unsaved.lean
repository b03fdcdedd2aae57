import PocketDesk.Proofs.Desktop.Restore
import PocketDesk.Proofs.Desktop.Storage
import PocketDesk.Proofs.Json.Entries

/-! # What a saved text does not mention

A text may leave out the settings, or one of the two. What then stands for them is not
what a fresh desktop has: the matrix effect is off in both, but sound, which is on to
begin with, is off after the text has been restored. -/

namespace PocketDesk

open Json

/-! ## The fields read values -/

theorem readsValue_savedWindow : ReadsValue SavedWindow.read := by
  refine ReadsValue.record ?_ _ _
  simp only [SavedWindow.fields, List.forall_mem_cons]
  exact ⟨readsValue_string.field, readsValue_bool.field, readsValue_bool.field,
    readsValue_uint32.field, nofun⟩

theorem Settings.readsValue_fields : ∀ field ∈ fields, ReadsValue field.read := by
  simp only [fields, List.forall_mem_cons]
  exact ⟨readsValue_bool.field, readsValue_bool.field, nofun⟩

theorem Snapshot.readsValue_fields : ∀ field ∈ fields, ReadsValue field.read := by
  have hsettings : ReadsValue Settings.read := .record Settings.readsValue_fields _ _
  simp only [fields, List.forall_mem_cons]
  exact ⟨readsValue_savedWindow.array.field, hsettings.field, nofun⟩

/-! ## Each field has its own part -/

theorem Settings.owns_soundEnabled : Owns fields "sound_enabled" soundEnabled := by
  simp only [Owns, fields, List.forall_mem_cons]
  exact ⟨fun hname => absurd rfl hname, fun _ => Field.get_of_read fun _ _ => rfl, nofun⟩

theorem Settings.owns_matrixActive : Owns fields "matrix_active" matrixActive := by
  simp only [Owns, fields, List.forall_mem_cons]
  exact ⟨fun _ => Field.get_of_read fun _ _ => rfl, fun hname => absurd rfl hname, nofun⟩

theorem Snapshot.owns_settings : Owns fields "settings" settings := by
  simp only [Owns, fields, List.forall_mem_cons]
  exact ⟨fun _ => Field.get_of_read fun _ _ => rfl, fun hname => absurd rfl hname, nofun⟩

/-! ## What stands for them -/

/-- A setting that an object does not mention is off. -/
theorem Settings.off_of_not_mem_keys {value r : List Char} {s : Settings}
    (h : Settings.read value = .ok (s, r)) (hobject : (skipSpace value).head? = some '{') :
    ∃ entries, HasEntries value entries ∧
      ("sound_enabled" ∉ keys entries → s.soundEnabled = false) ∧
      ("matrix_active" ∉ keys entries → s.matrixActive = false) := by
  obtain ⟨entries, hentries, htakes⟩ := takes_of_readRecord readsValue_fields h hobject
  refine ⟨entries, hentries, fun habsent => ?_, fun habsent => ?_⟩
  · exact htakes.get_eq owns_soundEnabled (.inl habsent)
  · exact htakes.get_eq owns_matrixActive (.inl habsent)

/-- The settings of a snapshot are read from the value of their key, and all off without it. -/
theorem Snapshot.settings_of_ofJson {text : String} {s : Snapshot} (h : ofJson text = .ok s)
    (hobject : (skipSpace text.toList).head? = some '{') :
    ∃ entries, HasEntries text.toList entries ∧
      ("settings" ∉ keys entries → s.settings = .unsaved) ∧
      ∀ value, ("settings", value) ∈ entries → ∃ r, Settings.read value = .ok (s.settings, r) := by
  unfold ofJson readDocument at h
  split at h
  · cases h
  · next x r hread =>
    split at h
    · obtain rfl := Except.ok.inj h
      obtain ⟨entries, hentries, htakes⟩ := takes_of_readRecord readsValue_fields hread hobject
      refine ⟨entries, hentries, fun habsent => htakes.get_eq owns_settings (.inl habsent), ?_⟩
      intro value hvalue
      obtain ⟨set, r, y, hset, hsettings⟩ := htakes.exists_read owns_settings rfl hvalue
      obtain ⟨settings, hsaved, rfl⟩ := Field.of_read_eq_ok hset
      exact ⟨r, hsettings ▸ hsaved⟩
    · cases h

namespace Manager

/-- **A setting that was not saved is off.** For the matrix effect that is how a desktop starts;
sound, which starts on, goes off. Whatever windows the text lists, and whatever else it has. -/
theorem off_of_unmentioned {text : String} {s : Snapshot} (h : Snapshot.ofJson text = .ok s)
    (hobject : (skipSpace text.toList).head? = some '{') :
    ∃ entries, HasEntries text.toList entries ∧
      ("settings" ∉ keys entries → (fresh.restore s).soundEnabled = false ∧
        (fresh.restore s).effectActive matrixEffect = fresh.effectActive matrixEffect) ∧
      ∀ value, ("settings", value) ∈ entries → (skipSpace value).head? = some '{' →
        ∃ parts, HasEntries value parts ∧
          ("sound_enabled" ∉ keys parts → (fresh.restore s).soundEnabled = false) ∧
          ("matrix_active" ∉ keys parts →
            (fresh.restore s).effectActive matrixEffect = fresh.effectActive matrixEffect) := by
  have hmatrix : (fresh.restore s).effectActive matrixEffect = s.settings.matrixActive := by
    rw [effectActive_restore, if_pos rfl]
  have hfresh : fresh.effectActive matrixEffect = false := rfl
  obtain ⟨entries, hentries, habsent, hpresent⟩ := Snapshot.settings_of_ofJson h hobject
  rw [hmatrix, hfresh]
  refine ⟨entries, hentries, fun hkey => ?_, fun value hvalue hvalueObject => ?_⟩
  · have hunsaved := habsent hkey
    exact ⟨congrArg Settings.soundEnabled hunsaved, congrArg Settings.matrixActive hunsaved⟩
  · obtain ⟨r, hread⟩ := hpresent value hvalue
    exact Settings.off_of_not_mem_keys hread hvalueObject

/-- Windows, and settings that mention neither of the two. -/
def bareMembers (windows : List SavedWindow) : List (Member Snapshot) :=
  [ .of "windows" (writeArray (windows.map SavedWindow.write)) (fun x s => { s with windows := x })
      windows
  , .of "settings" (writeObject []) (fun x s => { s with settings := x }) .unsaved ]

def bareText (windows : List SavedWindow) : String :=
  String.ofList (writeObject ((bareMembers windows).map Member.written))

theorem whole_bareMembers (windows : List SavedWindow) :
    Whole Snapshot.fields (bareMembers windows) := by
  have hwindow : ∀ w ∈ windows, Starts w.write ∧ Recovers SavedWindow.read w.write w :=
    fun w _ => ⟨starts_writeObject _, w.recovers⟩
  have hnone : Whole Settings.fields [] := ⟨nofun, List.nodup_nil, by decide⟩
  have hsettings : Recovers Settings.read (writeObject []) .unsaved := recovers_record hnone _ _
  refine .of_names_eq ?_ rfl (by decide)
  simp only [bareMembers, List.forall_mem_cons]
  exact ⟨Member.fits_of rfl (recovers_array hwindow), Member.fits_of rfl hsettings, nofun⟩

theorem ofJson_bareText (windows : List SavedWindow) :
    Snapshot.ofJson (bareText windows) = .ok ⟨windows, .unsaved⟩ :=
  readDocument_of_recovers (recovers_record (whole_bareMembers windows) _ _)

theorem off_of_unmentioned_in_bareText :
    let s : Snapshot := ⟨[⟨⟨"mail"⟩, true, false, 104⟩], .unsaved⟩
    Snapshot.ofJson (bareText s.windows) = .ok s ∧ (fresh.restore s).soundEnabled = false ∧
      (fresh.restore s).effectActive matrixEffect = fresh.effectActive matrixEffect := by
  intro s
  have hread : Snapshot.ofJson (bareText s.windows) = .ok s := ofJson_bareText s.windows
  have htext : (bareText s.windows).toList =
      ("\x7b\"windows\":[\x7b\"id\":\"mail\",\"is_open\":true,\"is_maximized\":false," ++
        "\"z_index\":104\x7d],\"settings\":\x7b\x7d\x7d").toList := by decide
  obtain ⟨entries, hentries, -, hpresent⟩ := off_of_unmentioned hread (by rw [htext]; decide)
  rw [htext] at hentries
  have hsettings : ("settings", "\x7b\x7d\x7d".toList) ∈ entries := by
    rw [hentries.unique ⟨_, _, rfl, .cons rfl rfl rfl rfl (.cons rfl rfl rfl rfl (.nil rfl))⟩]
    decide
  obtain ⟨parts, hparts, hsound, hmatrix⟩ := hpresent _ hsettings (by decide)
  obtain rfl := hparts.unique ⟨_, _, rfl, .nil rfl⟩
  exact ⟨hread, hsound (by decide), hmatrix (by decide)⟩

/-- **Sound is on to begin with, and goes off with a text that says nothing of it.** -/
theorem sound_goes_off_unmentioned :
    fresh.soundEnabled = true ∧ ∃ s, Snapshot.ofJson "\x7b\x7d" = .ok s ∧
      HasEntries "\x7b\x7d".toList [] ∧ (fresh.restore s).soundEnabled = false :=
  ⟨rfl, ⟨[], .unsaved⟩, by cbv, ⟨['}'], ['}'], by decide, .nil rfl⟩, rfl⟩

end Manager

end PocketDesk
