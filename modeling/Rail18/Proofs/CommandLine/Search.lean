import Mathlib.Data.List.Basic
import Rail18.CommandLine.Journal
import Rail18.Proofs.Disk

/-!
# Searches that are logged

A search reads the header of each file from the disk as the log has left it by then, so that a log file
among the files may be found or not by what was written to it. `Journal.Search` says what a search finds,
file by file. Where the log file is not one of the files, that is what the disk held at the start.
-/

namespace Rail18

namespace Journal

/-- Going through files of definitions: the games that are found, in the order of the files, and the disk
in the end. -/
inductive Visits (journal : Journal) : Disk → List (String × String) → List GameEntry → Disk → Prop
  | done (disk : Disk) : Visits journal disk [] [] disk
  | listed {disk after : Disk} {id path : String} {title : Option String}
      {files : List (String × String)} {found : List GameEntry} :
      headerTitle disk path = .ok title → Visits journal disk files found after →
      Visits journal disk ((id, path) :: files) (⟨id, title, path⟩ :: found) after
  | skipped {disk after : Disk} {id path : String} {unfit : Unfit}
      {files : List (String × String)} {found : List GameEntry} :
      headerTitle disk path = .error unfit →
      Visits journal (journal.record disk (skipEvents disk path)) files found after →
      Visits journal disk ((id, path) :: files) found after

/-- A search of a directory that comes to its end. -/
inductive Search (journal : Journal) (disk : Disk) (root : String) : List GameEntry → Disk → Prop
  | absent : disk.isDirectory root = false →
      Search journal disk root [] (journal.record disk [absentEvent root])
  | walked {found : List GameEntry} {after : Disk} : disk.isDirectory root = true →
      isListed disk root = true → journal.Visits disk (definitionFiles disk root) found after →
      Search journal disk root found (journal.record after [foundEvent root found.length])

variable {journal : Journal} {disk after : Disk} {path root : String} {found : List GameEntry}
  {files : List (String × String)}

theorem exists_visits (journal : Journal) (disk : Disk) (files : List (String × String)) :
    ∃ found after, journal.Visits disk files found after := by
  induction files generalizing disk with
  | nil => exact ⟨[], disk, .done disk⟩
  | cons file files ih =>
      obtain ⟨id, path⟩ := file
      cases hheader : headerTitle disk path with
      | ok title =>
          obtain ⟨found, after, hvisits⟩ := ih disk
          exact ⟨⟨id, title, path⟩ :: found, after, .listed hheader hvisits⟩
      | error unfit =>
          obtain ⟨found, after, hvisits⟩ := ih (journal.record disk (skipEvents disk path))
          exact ⟨found, after, .skipped hheader hvisits⟩

/-- Whether a path leads elsewhere than to the log file. -/
def Spares (journal : Journal) (disk : Disk) (path : String) : Prop :=
  ∀ log ∈ journal.file, disk.locate path ≠ disk.locate log

theorem locate_record {events : List Event} :
    (journal.record disk events).locate path = disk.locate path := by
  unfold record
  cases journal.file with
  | none => rfl
  | some log => exact Disk.locate_append

theorem headerTitle_record {events : List Event} (h : journal.Spares disk path) :
    headerTitle (journal.record disk events) path = headerTitle disk path := by
  have htext : (journal.record disk events).text? path = disk.text? path := by
    unfold record
    cases hlog : journal.file with
    | none => rfl
    | some log => exact Disk.text?_append (h log hlog)
  rw [headerTitle, htext, headerTitle]

theorem Spares.record {events : List Event} (h : journal.Spares disk path) :
    journal.Spares (journal.record disk events) path := by
  intro log hlog
  rw [locate_record, locate_record]
  exact h log hlog

theorem Visits.eq_filterMap (hspares : ∀ file ∈ files, journal.Spares disk file.2)
    (h : journal.Visits disk files found after) : found = files.filterMap (gameIn? disk) := by
  induction h with
  | done => rfl
  | listed htitle _ ih =>
      have hgame := ih fun file hfile => hspares file (List.mem_cons_of_mem _ hfile)
      rw [List.filterMap_cons_some (by rw [gameIn?, htitle]), hgame]
  | @skipped disk after id path unfit files found hunfit _ ih =>
      have hrest : ∀ file ∈ files, journal.Spares disk file.2 :=
        fun file hfile => hspares file (List.mem_cons_of_mem _ hfile)
      have hsame : ∀ file ∈ files,
          gameIn? (journal.record disk (skipEvents disk path)) file = gameIn? disk file := by
        intro file hfile
        rw [gameIn?, headerTitle_record (hrest file hfile), gameIn?]
      rw [ih fun file hfile => (hrest file hfile).record, List.filterMap_congr hsame,
        List.filterMap_cons_none (by rw [gameIn?, hunfit])]

/-- Unless the log file is one of the files, a search finds the games that the disk holds. -/
theorem exists_search_iff (hspares : ∀ file ∈ definitionFiles disk root, journal.Spares disk file.2) :
    (∃ after, journal.Search disk root found after) ↔ discover disk root = .ok found := by
  constructor
  · rintro ⟨_, hroot | ⟨hroot, hlisted, hvisits⟩⟩
    · simp [discover, hroot]
    · simp [discover, hroot, hlisted, hvisits.eq_filterMap hspares]
  · intro hdiscover
    cases hroot : disk.isDirectory root with
    | false =>
        obtain rfl : [] = found := by simpa [discover, hroot] using hdiscover
        exact ⟨_, .absent hroot⟩
    | true =>
        cases hlisted : isListed disk root with
        | false => simp [discover, hroot, hlisted] at hdiscover
        | true =>
            obtain ⟨games, after, hvisits⟩ := exists_visits journal disk (definitionFiles disk root)
            obtain rfl : games = found := by
              rw [hvisits.eq_filterMap hspares]
              simpa [discover, hroot, hlisted] using hdiscover
            exact ⟨_, .walked hroot hlisted hvisits⟩

end Journal

end Rail18
