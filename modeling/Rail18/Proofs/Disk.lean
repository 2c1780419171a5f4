import Rail18.Disk.Basic
import Rail18.Proofs.Dict

/-!
# Disks that are written to

What a disk is like after a file has been written, or bytes have been added to one: the paths lead where
they led before, and what is read elsewhere is the same.
-/

namespace Rail18

namespace Disk

variable {disk : Disk} {place other : Place} {path elsewhere : String} {bytes before : ByteArray}

theorem at?_put_self {content : Content} (hplace : place ≠ []) :
    (disk.put place content).at? place = some content := by
  rw [at?, if_neg hplace, put, Dict.get?_insert_self]

theorem at?_put_of_ne {content : Content} (hne : other ≠ place) :
    (disk.put place content).at? other = disk.at? other := by
  unfold at? put
  rw [Dict.get?_insert_of_ne hne]

theorem put_of_at? (hplace : place ≠ []) {content : Content} (h : disk.at? place = some content) :
    disk.put place content = disk := by
  rw [at?, if_neg hplace] at h
  rw [put, Dict.insert_of_get? h]

/-! ### A file where there is no directory -/

theorem ne_nil_of_not_directory (hfile : disk.hasDirectory place = false) : place ≠ [] := by
  rintro rfl
  cases hfile

theorem hasDirectory_put_file (hfile : disk.hasDirectory place = false) :
    (disk.put place (.file bytes)).hasDirectory other = disk.hasDirectory other := by
  have hplace := ne_nil_of_not_directory hfile
  by_cases hother : other = place
  · rw [hother, hfile, hasDirectory, at?_put_self hplace]
  · rw [hasDirectory, at?_put_of_ne hother, hasDirectory]

theorem locate_put_file (hfile : disk.hasDirectory place = false) :
    (disk.put place (.file bytes)).locate path = disk.locate path := by
  have hstep : (disk.put place (.file bytes)).step = disk.step := by
    funext from' name
    rw [step, hasDirectory_put_file hfile, step]
  rw [locate, hstep, locate]
  rfl

theorem text?_put_file (hfile : disk.hasDirectory place = false)
    (hpath : disk.locate path ≠ some place) :
    (disk.put place (.file bytes)).text? path = disk.text? path := by
  have hfind : (disk.put place (.file bytes)).find? path = disk.find? path := by
    rw [find?, locate_put_file hfile, find?]
    cases hlocate : disk.locate path with
    | none => rfl
    | some other =>
        have hne : other ≠ place := fun heq => hpath (heq ▸ hlocate)
        exact at?_put_of_ne hne
  rw [text?, bytes?, hfind, text?, bytes?]

theorem write_eq_some {after : Disk} (h : disk.write path bytes = some after) :
    ∃ place, disk.locate path = some place ∧ disk.hasDirectory place = false ∧
      after = disk.put place (.file bytes) := by
  obtain ⟨place, hlocate, hwrite⟩ := Option.bind_eq_some_iff.mp h
  cases hfile : disk.hasDirectory place with
  | true =>
      rw [if_pos hfile] at hwrite
      cases hwrite
  | false =>
      rw [if_neg (Bool.eq_false_iff.mp hfile)] at hwrite
      exact ⟨place, hlocate, hfile, (Option.some.inj hwrite).symm⟩

theorem bytes?_write {after : Disk} (h : disk.write path bytes = some after) :
    after.bytes? path = some bytes := by
  obtain ⟨place, hlocate, hfile, rfl⟩ := write_eq_some h
  have hfind : (disk.put place (.file bytes)).find? path = some (.file bytes) := by
    rw [find?, locate_put_file hfile, hlocate]
    exact at?_put_self (ne_nil_of_not_directory hfile)
  rw [bytes?, hfind]

theorem exists?_of_bytes? (h : disk.bytes? path = some bytes) : disk.exists? path = true := by
  cases hfind : disk.find? path with
  | none =>
      rw [bytes?, hfind] at h
      cases h
  | some content => rw [exists?, hfind, Option.isSome_some]

theorem text?_of_bytes? {text : String} (h : disk.bytes? path = some text.toUTF8) :
    disk.text? path = some text := by
  have hvalid : text.toUTF8.IsValidUTF8 := text.isValidUTF8
  rw [text?, h, Option.bind_some, String.fromUTF8?, dif_pos hvalid]
  rfl

/-! ### Bytes added to a file -/

theorem append_cases (disk : Disk) (path : String) (bytes : ByteArray) :
    disk.append path bytes = disk ∨
      ∃ place before, disk.locate path = some place ∧ disk.at? place = some (.file before) ∧
        disk.append path bytes = disk.put place (.file (before ++ bytes)) := by
  unfold append bytes? find?
  cases hlocate : disk.locate path with
  | none => exact .inl rfl
  | some place =>
      cases hcontent : disk.at? place with
      | none => exact .inl (by simp [hcontent])
      | some content =>
          cases content with
          | directory => exact .inl (by simp [hcontent])
          | file before => exact .inr ⟨place, before, rfl, hcontent, by simp [hcontent]⟩

theorem hasDirectory_of_file (h : disk.at? place = some (.file before)) :
    disk.hasDirectory place = false := by
  rw [hasDirectory, h]

theorem append_empty : disk.append path ByteArray.empty = disk := by
  obtain hsame | ⟨place, before, -, hfile, hput⟩ := disk.append_cases path ByteArray.empty
  · exact hsame
  · have hplace := ne_nil_of_not_directory (hasDirectory_of_file hfile)
    rw [hput, ByteArray.append_empty, put_of_at? hplace hfile]

theorem locate_append : (disk.append path bytes).locate elsewhere = disk.locate elsewhere := by
  obtain hsame | ⟨place, before, -, hfile, hput⟩ := disk.append_cases path bytes
  · rw [hsame]
  · rw [hput, locate_put_file (hasDirectory_of_file hfile)]

theorem text?_append (hapart : disk.locate elsewhere ≠ disk.locate path) :
    (disk.append path bytes).text? elsewhere = disk.text? elsewhere := by
  obtain hsame | ⟨place, before, hlocate, hfile, hput⟩ := disk.append_cases path bytes
  · rw [hsame]
  · rw [hlocate] at hapart
    rw [hput, text?_put_file (hasDirectory_of_file hfile) hapart]

end Disk

end Rail18
