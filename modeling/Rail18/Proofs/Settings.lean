import Rail18.Proofs.Disk
import Rail18.Proofs.Text.Joined
import Rail18.Settings.Load

/-!
# The default settings file

What the default file says of the settings is what they are without it: laid over the defaults, it changes
none of them, whatever the variables of the environment lay over it. So the settings are the same after it
has been written, and when it is there nothing is written any more.
-/

namespace Rail18

/-! ### The path of the file -/

theorem Path.exists_splitAt_join (directory : String) {name : String} (hslash : '/' ∉ name.toList) :
    ∃ before, Text.splitAt '/' (join directory name).toList = before ++ [name.toList] := by
  have hrelative : ¬ isAbsolute name = true := by
    rw [isAbsolute, decide_eq_true_iff]
    exact fun habsolute => hslash (List.mem_of_head? habsolute)
  have hname : Text.splitAt '/' name.toList = [name.toList] := Text.splitAt_of_not_mem hslash
  have hbelow (before : List Char) :
      Text.splitAt '/' (before ++ '/' :: name.toList) = Text.splitAt '/' before ++ [name.toList] := by
    rw [Text.splitAt_append_mark, hname]
  rw [join, if_neg hrelative]
  split
  · next hends =>
    rcases Bool.or_eq_true_iff.mp hends with hempty | hslash
    · rw [String.isEmpty_iff.mp hempty, String.empty_append]
      exact ⟨[], hname⟩
    · obtain ⟨before, hbefore⟩ := List.getLast?_eq_some_iff.mp (of_decide_eq_true hslash)
      rw [String.toList_append, hbefore, List.append_assoc]
      exact ⟨_, hbelow before⟩
  · rw [String.toList_append, String.toList_append, List.append_assoc]
    exact ⟨_, hbelow directory.toList⟩

theorem Path.getLast?_names_join (directory : String) {name : String} (hname : name ≠ "")
    (hslash : '/' ∉ name.toList) : (names (join directory name)).getLast? = some name := by
  obtain ⟨before, hsplit⟩ := exists_splitAt_join directory hslash
  have hchars : name.toList ≠ [] := fun h => hname (String.toList_eq_nil_iff.mp h)
  have hfile : (before ++ [name.toList]).getLast? ≠ some [] := by
    rw [List.getLast?_concat]
    exact fun h => hchars (Option.some.inj h)
  rw [names, hsplit, if_neg hfile, List.filter_append, List.filter_singleton, List.map_append]
  simp [hchars]

/-! ### Layers that repeat what is below them -/

namespace Layer

theorem overlay_self (entry : Entry) : overlay (some entry) entry = entry := by
  cases entry <;> rfl

theorem foldl_overlay_of_repeated {base : Option Entry} {lines : Layer}
    (h : ∀ line ∈ lines, base = some line.2) :
    lines.foldl (fun base line => some (overlay base line.2)) base = base := by
  induction lines with
  | nil => rfl
  | cons line rest ih =>
      obtain ⟨hline, hrest⟩ := List.forall_mem_cons.mp h
      have hover : some (overlay base line.2) = base := by rw [hline, overlay_self]
      rw [List.foldl_cons, hover, ih hrest]

/-- A layer changes nothing if the layer below it already says what it says. -/
theorem settle_of_repeated {below layer : Layer} (above : List Layer)
    (h : ∀ line ∈ layer, settle [below] line.1 = some line.2) (name : String) :
    settle (below :: layer :: above) name = settle (below :: [] :: above) name := by
  have hrepeated : ∀ line ∈ layer.filter (·.1 = name), settle [below] name = some line.2 := by
    intro line hline
    obtain ⟨hmem, hname⟩ := List.mem_filter.mp hline
    rw [← of_decide_eq_true hname]
    exact h line hmem
  have hunchanged := foldl_overlay_of_repeated hrepeated
  simp only [settle, List.flatten_cons, List.flatten_nil, List.append_nil, List.nil_append,
    List.filter_append, List.foldl_append] at hunchanged ⊢
  rw [hunchanged]

end Layer

namespace Settings

variable {disk after : Disk} {env : Environment}

theorem extension?_settingsPath (env : Environment) :
    Path.extension? env.settingsPath = some fileExtension := by
  rw [Path.extension?, Environment.settingsPath, Path.getLast?_names_join _ (by decide) (by decide)]
  rfl

theorem fileAt?_settingsPath (h : disk.isFile env.settingsPath = true) :
    fileAt? disk env.settingsPath = some env.settingsPath := by
  rw [fileAt?, if_pos h, if_pos (extension?_settingsPath env)]

/-! ### What the default file says -/

def defaultLayer : Layer :=
  [("tiles_file", .text "tiles.json"), ("games_dir", .text "games"), ("log_filter", .text "info")]

theorem parse?_defaultFile : (Toml.parse? defaultFile).map Layer.ofMembers = some defaultLayer := by
  rw [Toml.parse?, defaultFile, String.toList_intercalate]
  decide +kernel

theorem settle_defaultLayer (env : Environment) :
    ∀ line ∈ defaultLayer, Layer.settle [env.defaultSettings.layer] line.1 = some line.2 := by
  simp [defaultLayer, Layer.settle, layer, Environment.defaultSettings, Layer.overlay]

theorem ofLayers_congr {layers others : List Layer}
    (h : ∀ name, Layer.settle layers name = Layer.settle others name) :
    ofLayers layers = ofLayers others := by
  simp only [ofLayers, h]

theorem fileLayer_of_absent {path : String} (h : fileAt? disk path = none) :
    fileLayer disk path = .ok [] := by
  rw [fileLayer, h]
  rfl

theorem fileLayer_of_parse? {path text : String} {members : Toml.Members}
    (hpath : fileAt? disk path = some path) (htext : disk.text? path = some text)
    (hparse : Toml.parse? text = some members) : fileLayer disk path = .ok (.ofMembers members) := by
  rw [fileLayer, hpath, Option.bind_some, htext]
  simp only [hparse]

theorem fileLayer_of_default (h : disk.bytes? env.settingsPath = some defaultFile.toUTF8) :
    fileLayer disk env.settingsPath = .ok defaultLayer := by
  have hfile : disk.isFile env.settingsPath = true := by rw [Disk.isFile, h, Option.isSome_some]
  obtain ⟨members, hparse, hmembers⟩ := Option.map_eq_some_iff.mp parse?_defaultFile
  rw [fileLayer_of_parse? (fileAt?_settingsPath hfile) (Disk.text?_of_bytes? h) hparse, hmembers]

/-! ### Writing the default file -/

theorem writeDefault_of_exists (h : disk.exists? env.settingsPath = true) :
    writeDefault disk env = .ok disk :=
  if_pos h

theorem writeDefault_eq_ok (h : writeDefault disk env = .ok after) :
    (disk.exists? env.settingsPath = true ∧ after = disk) ∨
      (disk.exists? env.settingsPath = false ∧
        after.bytes? env.settingsPath = some defaultFile.toUTF8) := by
  cases hexists : disk.exists? env.settingsPath with
  | true =>
      rw [writeDefault_of_exists hexists] at h
      exact .inl ⟨rfl, (Except.ok.inj h).symm⟩
  | false =>
      rw [writeDefault, if_neg (Bool.eq_false_iff.mp hexists)] at h
      split at h
      · cases h
      · split at h
        · cases h
        · next hwrite =>
          obtain rfl := Except.ok.inj h
          exact .inr ⟨rfl, Disk.bytes?_write hwrite⟩

/-- A path means the file that it leads to, and no other file where it leads to none. -/
def MeansItself (disk : Disk) (path : String) : Prop :=
  fileAt? disk path = if disk.isFile path then some path else none

theorem load_of_written (hitself : MeansItself disk env.settingsPath)
    (hexists : disk.exists? env.settingsPath = false)
    (hbytes : after.bytes? env.settingsPath = some defaultFile.toUTF8) : load after env = load disk env := by
  have hfile : disk.isFile env.settingsPath = false := by
    rw [Disk.isFile, Option.isSome_eq_false_iff, Option.isNone_iff_eq_none, Option.eq_none_iff_forall_ne_some]
    intro bytes hbytes
    cases hexists.symm.trans (Disk.exists?_of_bytes? hbytes)
  rw [MeansItself, hfile] at hitself
  rw [load, load, loadFrom, loadFrom, fileLayer_of_default hbytes, fileLayer_of_absent hitself]
  exact ofLayers_congr (Layer.settle_of_repeated [.ofEnvironment env] (settle_defaultLayer env))

/-- Writing the default file where there is none does not change what the settings are, if their path meant
no other file before. A file that is there is left as it is, and then nothing is written any more. -/
theorem writeDefault_neutral (hwritten : writeDefault disk env = .ok after) :
    (MeansItself disk env.settingsPath → load after env = load disk env) ∧
      (disk.exists? env.settingsPath = false →
        after.bytes? env.settingsPath = some defaultFile.toUTF8) ∧
      (∀ bytes, disk.bytes? env.settingsPath = some bytes → after.bytes? env.settingsPath = some bytes) ∧
      writeDefault after env = .ok after := by
  obtain ⟨hexists, rfl⟩ | ⟨hexists, hbytes⟩ := writeDefault_eq_ok hwritten
  · refine ⟨fun _ => rfl, fun hnone => ?_, fun _ hbytes => hbytes, hwritten⟩
    cases hexists.symm.trans hnone
  · refine ⟨fun hitself => load_of_written hitself hexists hbytes, fun _ => hbytes, fun bytes hbefore => ?_, ?_⟩
    · cases hexists.symm.trans (Disk.exists?_of_bytes? hbefore)
    · exact writeDefault_of_exists (Disk.exists?_of_bytes? hbytes)

/-- A disk with a directory for settings that has none in it. -/
def emptyHome : Disk where
  entries := .ofList [(["c"], .directory)]

def emptyHomeEnv : Environment :=
  [("XDG_CONFIG_HOME", "/c"), ("XDG_DATA_HOME", "/c"), ("EXPORT18_LOG_FILTER", "debug")]

def emptyHomeSettings : Settings where
  dataRoot := "/c/18export"
  tilesFile := "tiles.json"
  gamesDir := "games"
  logFilter := "debug"

/-- The file is written, and the variable still decides what is logged. -/
theorem writeDefault_neutral_emptyHome :
    ∃ after, writeDefault emptyHome emptyHomeEnv = .ok after ∧
      after.bytes? "/c/18export/config.toml" = some defaultFile.toUTF8 ∧
      load after emptyHomeEnv = .ok emptyHomeSettings ∧
      writeDefault after emptyHomeEnv = .ok after := by
  have hwritten : ∃ after, writeDefault emptyHome emptyHomeEnv = .ok after := ⟨_, by rfl⟩
  obtain ⟨after, hwritten⟩ := hwritten
  have hitself : MeansItself emptyHome emptyHomeEnv.settingsPath := by
    rw [MeansItself]
    rfl
  have hloaded : load emptyHome emptyHomeEnv = .ok emptyHomeSettings := by rfl
  obtain ⟨hload, hnew, -, hagain⟩ := writeDefault_neutral hwritten
  exact ⟨after, hwritten, hnew (by rfl), (hload hitself).trans hloaded, hagain⟩

end Settings

end Rail18
