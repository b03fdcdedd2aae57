import PocketDesk.Desktop.Storage
import PocketDesk.Proofs.Json.Record

/-! # A snapshot outlives its text

Every part of a snapshot is written, and the fields that read it back are looked up
by the keys that were written. So whatever a snapshot holds, however its windows are
called, the text that was stored for it gives it back. -/

namespace PocketDesk

open Json

/-! ## One saved window -/

def SavedWindow.members (w : SavedWindow) : List (Member SavedWindow) :=
  [ .of "id" (writeString w.id.name) (fun x w => { w with id := ⟨x⟩ }) w.id.name
  , .of "is_open" (writeBool w.isOpen) (fun x w => { w with isOpen := x }) w.isOpen
  , .of "is_maximized" (writeBool w.isMaximized) (fun x w => { w with isMaximized := x })
      w.isMaximized
  , .of "z_index" (writeNat w.zIndex.toNat) (fun x w => { w with zIndex := x }) w.zIndex ]

theorem SavedWindow.whole_members (w : SavedWindow) : Whole SavedWindow.fields w.members := by
  refine .of_names_eq ?_ rfl (by decide)
  intro m hm
  simp only [members, List.mem_cons, List.not_mem_nil, or_false] at hm
  rcases hm with rfl | rfl | rfl | rfl
  · exact Member.fits_of rfl (recovers_string _)
  · exact Member.fits_of rfl (recovers_bool _)
  · exact Member.fits_of rfl (recovers_bool _)
  · exact Member.fits_of rfl (recovers_uint32 _)

theorem SavedWindow.recovers (w : SavedWindow) : Recovers SavedWindow.read w.write w :=
  recovers_record w.whole_members _ _

/-! ## Settings -/

def Settings.members (s : Settings) : List (Member Settings) :=
  [ .of "sound_enabled" (writeBool s.soundEnabled) (fun x s => { s with soundEnabled := x })
      s.soundEnabled
  , .of "matrix_active" (writeBool s.matrixActive) (fun x s => { s with matrixActive := x })
      s.matrixActive ]

theorem Settings.whole_members (s : Settings) : Whole Settings.fields s.members := by
  refine .of_names_eq ?_ rfl (by decide)
  intro m hm
  simp only [members, List.mem_cons, List.not_mem_nil, or_false] at hm
  rcases hm with rfl | rfl
  · exact Member.fits_of rfl (recovers_bool _)
  · exact Member.fits_of rfl (recovers_bool _)

theorem Settings.recovers (s : Settings) : Recovers Settings.read s.write s :=
  recovers_record s.whole_members _ _

/-! ## The snapshot -/

def Snapshot.members (s : Snapshot) : List (Member Snapshot) :=
  [ .of "windows" (writeArray (s.windows.map SavedWindow.write)) (fun x s => { s with windows := x })
      s.windows
  , .of "settings" s.settings.write (fun x s => { s with settings := x }) s.settings ]

theorem Snapshot.whole_members (s : Snapshot) : Whole Snapshot.fields s.members := by
  refine .of_names_eq ?_ rfl (by decide)
  intro m hm
  simp only [members, List.mem_cons, List.not_mem_nil, or_false] at hm
  rcases hm with rfl | rfl
  · have hwindow : ∀ w ∈ s.windows, Starts w.write ∧ Recovers SavedWindow.read w.write w :=
      fun w _ => ⟨starts_writeObject _, w.recovers⟩
    exact Member.fits_of rfl (recovers_array hwindow)
  · exact Member.fits_of rfl s.settings.recovers

/-- The text of a snapshot gives the snapshot back. -/
theorem Snapshot.ofJson_toJson (s : Snapshot) : Snapshot.ofJson s.toJson = .ok s :=
  readDocument_of_recovers (recovers_record s.whole_members _ _)

/-! ## The storage -/

namespace Storage

theorem save_of_sound (stored : Option String) (s : Snapshot) :
    (Storage.mk stored none).save s = .ok ⟨some s.toJson, none⟩ := rfl

/-- A storage in order has the snapshot that its text stands for. -/
theorem load_eq_ok_some_iff {stored : Option String} {s : Snapshot} :
    (Storage.mk stored none).load = .ok (some s) ↔
      ∃ text, stored = some text ∧ Snapshot.ofJson text = .ok s := by
  cases stored with
  | none => simp [load]
  | some text => cases hread : Snapshot.ofJson text <;> simp [load, hread]

theorem load_of_toJson (s : Snapshot) : (Storage.mk (some s.toJson) none).load = .ok (some s) :=
  load_eq_ok_some_iff.mpr ⟨s.toJson, rfl, Snapshot.ofJson_toJson s⟩

/-- **What was saved is loaded again**, whatever was stored before, and saving what was loaded
stores the same text once more. -/
theorem load_after_save (stored : Option String) (s : Snapshot) :
    ∃ storage text loaded again,
      (Storage.mk stored none).save s = .ok storage ∧ storage.stored = some text ∧
      storage.load = .ok (some loaded) ∧ loaded = s ∧
      storage.save loaded = .ok again ∧ again.stored = some text := by
  have hsave := save_of_sound stored s
  have hload := load_of_toJson s
  have hagain := save_of_sound (some s.toJson) s
  exact ⟨_, s.toJson, s, _, hsave, rfl, hload, rfl, hagain, rfl⟩

end Storage

end PocketDesk
