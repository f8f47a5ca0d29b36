import Digitizer.Proofs.Config.Layering

/-!
# The first obstacle ends the loading

Loading visits the listings of the directories, the files in them and at last the size of the screen. Most visits find nothing to
object to; the first that meets an obstacle decides the error (`first_obstacle_decides`). What the files say, and for which device,
matters to the last visit only.
-/
namespace Digitizer.Config

/-- What loading visits. -/
inductive Visit where
  /-- A directory is listed. -/
  | listing (directory : String)
  /-- A file is read as a configuration file. -/
  | file (path : String)
  /-- A configuration is asked for the size of the screen. -/
  | size (c : Config)

/-- The paths of the configuration files of a directory, in the order of their names. -/
def ByName (files : FileSystem) (directory : String) (paths : List String) : Prop :=
  ∃ names : List String, names.Perm (layerNames files directory) ∧ names.Pairwise (· ≤ ·) ∧
    paths = names.map (joinPath directory)

theorem exists_byName (files : FileSystem) (directory : String) : ∃ paths, ByName files directory paths :=
  ⟨_, _, List.mergeSort_perm (layerNames files directory) _, pairwise_mergeSort _, rfl⟩

theorem byName_singleton {files : FileSystem} {directory name : String} (h : layerNames files directory = [name]) :
    ByName files directory [joinPath directory name] :=
  ⟨[name], by rw [h], List.pairwise_singleton _ _, rfl⟩

/-- Names have one order. -/
theorem ByName.unique {files : FileSystem} {directory : String} {paths paths' : List String}
    (h : ByName files directory paths) (h' : ByName files directory paths') : paths = paths' := by
  obtain ⟨names, same, order, rfl⟩ := h
  obtain ⟨names', same', order', rfl⟩ := h'
  rw [← mergeSort_eq_of_perm same order, mergeSort_eq_of_perm same' order']

/-- The main file, if there is a regular file at its path. -/
def mainFiles (files : FileSystem) (path : String) : List String := if files.isFile path then [path] else []

/-- What is visited before the size, for given presets and drop-in files. -/
def fileVisits (files : FileSystem) (paths : ConfigPaths) (presets dropIns : List String) : List Visit :=
  (.listing paths.presets :: presets.map .file) ++ (mainFiles files paths.file).map .file ++
    (.listing paths.dropIns :: dropIns.map .file)

section
variable [ConfigFormat]

/-- A visit meets an obstacle, and this is the error that tells of it. -/
inductive Obstacle (files : FileSystem) : Visit → ConfigError → Prop where
  /-- A directory cannot be listed, and not because it is missing. -/
  | unlistable {directory : String} {cause : Errno} (listing : files.list directory = .error cause)
      (present : cause ≠ Errno.notFound) : Obstacle files (.listing directory) (.unreadable directory (.system cause))
  | unopenable {path : String} {cause : Errno} (opening : files.openPath path = .error cause) :
      Obstacle files (.file path) (.unreadable path (.system cause))
  | directory {path : String} (opening : files.openPath path = .ok .directory) :
      Obstacle files (.file path) (.unreadable path (.system Errno.isDirectory))
  | notUtf8 {path : String} {bytes : Bytes} (opening : files.openPath path = .ok (.file bytes))
      (decoding : String.fromUTF8? bytes.toByteArray = none) : Obstacle files (.file path) (.unreadable path .notUtf8)
  /-- A text is no configuration file. -/
  | rejected {path text : String} {bytes : Bytes} (opening : files.openPath path = .ok (.file bytes))
      (decoding : String.fromUTF8? bytes.toByteArray = some text) (parsing : ConfigFormat.layer? text = none) :
      Obstacle files (.file path) (.malformed path)
  | sizeless {c : Config} (size : ¬(0 < c.width ∧ 0 < c.height)) :
      Obstacle files (.size c) (.invalidSize c.width c.height)

/-- A visit meets no obstacle. -/
def Visit.Clear (files : FileSystem) (v : Visit) : Prop := ∀ e, ¬Obstacle files v e

/-- The layers that files hold, as far as they can be read. -/
def layersOf (files : FileSystem) (paths : List String) : List Layer :=
  paths.filterMap fun path => (readLayer files path).toOption

section
variable (files : FileSystem) (paths : ConfigPaths) (info : ControllerInfo) (presets dropIns : List String)

/-- What the presets for the device, the main file and the drop-in files make of the defaults: of each key the last value. -/
def layered : Config :=
  ofLayers ((layersOf files presets).filter (·.device = some ⟨info.vendor, info.product⟩) ++
    layersOf files (mainFiles files paths.file) ++ layersOf files dropIns)

/-- All that loading visits, in its order. -/
def visits : List Visit := fileVisits files paths presets dropIns ++ [.size (layered files paths info presets dropIns)]

end

variable {files files' : FileSystem}

/-! ## The first obstacle of a list of visits -/

/-- A result tells of the first obstacle that a list of visits meets. -/
inductive Reports (files : FileSystem) : List Visit → Except ConfigError Unit → Prop where
  | done : Reports files [] (.ok ())
  | pass {v : Visit} {vs : List Visit} {r : Except ConfigError Unit} (clear : v.Clear files) (rest : Reports files vs r) :
      Reports files (v :: vs) r
  | stop {v : Visit} {vs : List Visit} {e : ConfigError} (met : Obstacle files v e) : Reports files (v :: vs) (.error e)

/-- No visit meets two obstacles. -/
theorem Obstacle.unique {v : Visit} {e e' : ConfigError} (h : Obstacle files v e) (h' : Obstacle files v e') : e = e' := by
  cases h <;> cases h' <;> simp_all

theorem Reports.append_of_ok {vs ws : List Visit} {r : Except ConfigError Unit} (h : Reports files vs (.ok ()))
    (h' : Reports files ws r) : Reports files (vs ++ ws) r := by
  generalize hok : (Except.ok () : Except ConfigError Unit) = ok at h
  induction h with
  | done => exact h'
  | pass clear _ ih => exact .pass clear (ih hok)
  | stop => exact absurd hok (by simp)

theorem Reports.append_of_error {vs : List Visit} {e : ConfigError} (h : Reports files vs (.error e)) (ws : List Visit) :
    Reports files (vs ++ ws) (.error e) := by
  generalize herror : (Except.error e : Except ConfigError Unit) = r at h ⊢
  induction h with
  | done => exact absurd herror (by simp)
  | pass clear _ ih => exact .pass clear (ih herror)
  | stop met => exact .stop met

/-- The result is a success exactly if all visits are clear. -/
theorem Reports.ok_iff {vs : List Visit} {r : Except ConfigError Unit} (h : Reports files vs r) :
    r = .ok () ↔ ∀ v ∈ vs, v.Clear files := by
  induction h with
  | done => simp
  | pass clear _ ih => rw [ih, List.forall_mem_cons, and_iff_right clear]
  | stop met =>
    refine ⟨fun h => absurd h (by simp), fun clear => ?_⟩
    exact absurd met (clear _ List.mem_cons_self _)

/-- The result is an error exactly if this is the error of a visit before which all visits are clear. -/
theorem Reports.error_iff {vs : List Visit} {r : Except ConfigError Unit} (h : Reports files vs r) (e : ConfigError) :
    r = .error e ↔ ∃ before v after, vs = before ++ v :: after ∧ (∀ u ∈ before, u.Clear files) ∧ Obstacle files v e := by
  induction h with
  | done => simp
  | @pass v vs r clear _ ih =>
    rw [ih]
    constructor
    · rintro ⟨before, w, after, rfl, passed, met⟩
      exact ⟨v :: before, w, after, rfl, List.forall_mem_cons.2 ⟨clear, passed⟩, met⟩
    · rintro ⟨before, w, after, hvs, passed, met⟩
      rcases before with _ | ⟨u, before⟩
      · obtain ⟨rfl, -⟩ := List.cons.inj hvs
        exact absurd met (clear e)
      · obtain ⟨rfl, rfl⟩ := List.cons.inj hvs
        exact ⟨before, w, after, rfl, (List.forall_mem_cons.1 passed).2, met⟩
  | @stop v vs e' met =>
    constructor
    · intro h
      obtain rfl : e' = e := by simpa using h
      exact ⟨[], v, vs, rfl, by simp, met⟩
    · rintro ⟨before, w, after, hvs, passed, met'⟩
      rcases before with _ | ⟨u, before⟩
      · obtain ⟨rfl, -⟩ := List.cons.inj hvs
        rw [met.unique met']
      · obtain ⟨rfl, -⟩ := List.cons.inj hvs
        exact absurd met ((List.forall_mem_cons.1 passed).1 e')

/-- A list of visits has one result. -/
theorem Reports.unique {vs : List Visit} {r r' : Except ConfigError Unit} (h : Reports files vs r)
    (h' : Reports files vs r') : r = r' := by
  cases r' with
  | ok a => exact h.ok_iff.2 (h'.ok_iff.1 rfl)
  | error e => exact (h.error_iff e).2 ((h'.error_iff e).1 rfl)

/-! ## Single visits -/

/-- Whether a file is an obstacle is decided by reading it. -/
theorem obstacle_file_iff {path : String} {e : ConfigError} :
    Obstacle files (.file path) e ↔ readLayer files path = .error e := by
  constructor
  · rintro (_ | _ | _ | _ | _ | _) <;> simp_all [readLayer, FileSystem.readText]
  · intro h
    rw [readLayer, FileSystem.readText] at h
    cases opening : files.openPath path with
    | error cause =>
      simp only [opening, Except.error.injEq] at h
      exact h ▸ .unopenable opening
    | ok handle =>
      cases handle with
      | directory =>
        simp only [opening, Except.error.injEq] at h
        exact h ▸ .directory opening
      | file bytes =>
        cases decoding : String.fromUTF8? bytes.toByteArray with
        | none =>
          simp only [opening, decoding, Except.error.injEq] at h
          exact h ▸ .notUtf8 opening decoding
        | some text =>
          cases parsing : ConfigFormat.layer? text with
          | none =>
            simp only [opening, decoding, parsing, Except.error.injEq] at h
            exact h ▸ .rejected opening decoding parsing
          | some layer => simp [opening, decoding, parsing] at h

theorem clear_file_iff {path : String} : (Visit.file path).Clear files ↔ (readLayer files path).isOk = true := by
  constructor
  · intro clear
    cases h : readLayer files path with
    | ok layer => rfl
    | error e => exact absurd (obstacle_file_iff.2 h) (clear e)
  · intro ok e met
    rw [obstacle_file_iff.1 met] at ok
    exact absurd ok (by simp [Except.isOk, Except.toBool])

/-- A directory that is listed is no obstacle. -/
theorem clear_listing {directory : String} {names : List String} (list : files.list directory = .ok names) :
    (Visit.listing directory).Clear files := by
  rintro e (⟨listing, -⟩ | _)
  rw [list] at listing
  exact absurd listing (by simp)

/-- Where the directories are listed and the files can be read, nothing before the size is an obstacle. -/
theorem clear_fileVisits {paths : ConfigPaths} {presets dropIns : List String}
    (presetsListed : (Visit.listing paths.presets).Clear files) (dropInsListed : (Visit.listing paths.dropIns).Clear files)
    (read : ∀ path ∈ presets ++ mainFiles files paths.file ++ dropIns, (readLayer files path).isOk = true) :
    ∀ v ∈ fileVisits files paths presets dropIns, v.Clear files := by
  simp only [List.forall_mem_append, ← clear_file_iff] at read
  simp only [fileVisits, List.forall_mem_append, List.forall_mem_cons, List.forall_mem_map]
  exact ⟨⟨⟨presetsListed, read.1.1⟩, read.1.2⟩, dropInsListed, read.2⟩

theorem reports_file (files : FileSystem) (path : String) :
    Reports files [.file path] ((readLayer files path).map fun _ => ()) := by
  cases h : readLayer files path with
  | error e => exact .stop (obstacle_file_iff.2 h)
  | ok layer => exact .pass (clear_file_iff.2 (by rw [h]; rfl)) .done

/-! ## What loading visits -/

/-- Whatever the configuration, the result of an action tells of the first obstacle among some visits. -/
def Tours (files : FileSystem) (p : Action Config ConfigError Unit) (vs : List Visit) : Prop :=
  ∀ c, Reports files vs (p c).result

theorem tours_pure : Tours files (pure ()) [] := fun _ => .done

/-- Visits of actions in sequence are appended. -/
theorem Tours.bind {p q : Action Config ConfigError Unit} {vs ws : List Visit} (hp : Tours files p vs)
    (hq : Tours files q ws) : Tours files (p >>= fun _ => q) (vs ++ ws) := by
  intro c
  have hpc := hp c
  cases h : (p c).result with
  | ok a =>
    rw [h] at hpc
    rw [Action.bind_of_result_ok h]
    exact hpc.append_of_ok (hq _)
  | error e =>
    rw [h] at hpc
    rw [Action.bind_of_result_error h]
    exact hpc.append_of_error ws

/-- A preset is read whether it is meant for the device or not. -/
theorem tours_applyPreset (info : ControllerInfo) (path : String) :
    Tours files (applyPreset files info path) [.file path] := by
  intro c
  have hfile := reports_file files path
  rw [applyPreset]
  cases h : readLayer files path with
  | error e =>
    rw [h] at hfile
    exact hfile
  | ok layer =>
    rw [h] at hfile
    rw [Action.bind_of_ok (Action.ofExcept_apply _ c)]
    split <;> exact hfile

theorem tours_applyFile (path : String) : Tours files (applyFile files path) [.file path] := by
  intro c
  have hfile := reports_file files path
  rw [applyFile, Action.notify_bind]
  cases h : readLayer files path with
  | error e =>
    rw [h] at hfile
    exact hfile
  | ok layer =>
    rw [h] at hfile
    exact hfile

theorem tours_each {act : String → Action Config ConfigError Unit} (h : ∀ path, Tours files (act path) [.file path])
    (paths : List String) : Tours files (Action.each act paths) (paths.map .file) := by
  induction paths with
  | nil => exact tours_pure
  | cons path paths ih => exact (h path).bind ih

theorem tours_applyMain (path : String) : Tours files (applyMain files path) ((mainFiles files path).map .file) := by
  rw [applyMain, mainFiles]
  split
  · exact tours_applyFile path
  · exact tours_pure

/-- The listing of a directory is the first visit. A missing directory has no files, and is no obstacle. -/
theorem tours_directory {act : String → Action Config ConfigError Unit} (h : ∀ path, Tours files (act path) [.file path])
    {directory : String} {found : List String} (byName : ByName files directory found) :
    Tours files (Action.ofExcept (layerFiles files directory) >>= Action.each act)
      (.listing directory :: found.map .file) := by
  obtain ⟨names, same, order, rfl⟩ := byName
  intro c
  cases list : files.list directory with
  | ok listed =>
    rw [layerFiles_of_list list same order, Action.bind_of_ok (Action.ofExcept_apply _ c)]
    exact .pass (clear_listing list) (tours_each h _ c)
  | error cause =>
    rw [layerNames, list] at same
    rw [same.eq_nil, layerFiles, list]
    by_cases missing : cause = Errno.notFound
    · have hclear : (Visit.listing directory).Clear files := by
        rintro e (⟨listing, present⟩ | _)
        rw [list] at listing
        exact present ((Except.error.inj listing).symm.trans missing)
      simp only [missing, if_true]
      exact .pass hclear .done
    · simp only [missing, if_false]
      exact .stop (.unlistable list missing)

theorem tours_layUp {paths : ConfigPaths} (info : ControllerInfo) {presets dropIns : List String}
    (hpresets : ByName files paths.presets presets) (hdropIns : ByName files paths.dropIns dropIns) :
    Tours files (layUp files paths info) (fileVisits files paths presets dropIns) := by
  rw [fileVisits, List.append_assoc]
  exact (tours_directory (tours_applyPreset info) hpresets).bind
    ((tours_applyMain paths.file).bind (tours_directory tours_applyFile hdropIns))

/-! ## What is laid up meanwhile -/

theorem layersOf_of_map {paths : List String} {layers : List Layer} (h : paths.map (readLayer files) = layers.map .ok) :
    layersOf files paths = layers := by
  have hlayers : layersOf files paths = (paths.map (readLayer files)).filterMap Except.toOption := by
    rw [List.filterMap_map]
    rfl
  rw [hlayers, h, List.filterMap_map]
  exact List.filterMap_some

theorem Holds.layersOf_eq {directory : String} {layers : List Layer} {paths : List String}
    (h : Holds files directory layers) (byName : ByName files directory paths) : layersOf files paths = layers := by
  obtain ⟨names, same, order, hlayers⟩ := h
  obtain rfl := byName.unique ⟨names, same, order, rfl⟩
  refine layersOf_of_map ?_
  rw [List.map_map]
  exact hlayers

theorem HoldsMain.layersOf_eq {path : String} {layers : List Layer} (h : HoldsMain files path layers) :
    layersOf files (mainFiles files path) = layers := by
  refine layersOf_of_map ?_
  rw [mainFiles, ← h]
  split <;> rfl

variable {paths : ConfigPaths} {info : ControllerInfo} {presets dropIns : List String}

/-- Where no file is an obstacle, what is laid up is what all of them say. -/
theorem state_layUp (hpresets : ByName files paths.presets presets) (hdropIns : ByName files paths.dropIns dropIns)
    (ok : (layUp files paths info {}).result = .ok ()) :
    (layUp files paths info {}).state = layered files paths info presets dropIns := by
  obtain ⟨presetLayers, mainLayers, dropInLayers, holds, holdsMain, holdsDropIns, hover⟩ := of_layUp ok
  rw [hover, layered, holds.layersOf_eq hpresets, holdsMain.layersOf_eq, holdsDropIns.layersOf_eq hdropIns,
    overlay_default]

theorem reports_requireSize (c : Config) : Reports files [.size c] (requireSize c).result := by
  have hsize : c.hasSize = true ↔ 0 < c.width ∧ 0 < c.height := by simp [hasSize]
  rw [requireSize, Action.get_bind]
  split
  · next h =>
    refine .pass ?_ .done
    rintro e (_ | _ | _ | _ | _ | sizeless)
    exact sizeless (hsize.1 h)
  · next h => exact .stop (.sizeless (mt hsize.2 h))

theorem reports_load (info : ControllerInfo) (hpresets : ByName files paths.presets presets)
    (hdropIns : ByName files paths.dropIns dropIns) :
    Reports files (visits files paths info presets dropIns) (load files paths info {}).result := by
  have hfiles := tours_layUp info hpresets hdropIns {}
  rw [load_eq_layUp, visits]
  cases h : (layUp files paths info {}).result with
  | ok a =>
    rw [h] at hfiles
    rw [Action.bind_of_result_ok h, state_layUp hpresets hdropIns h]
    exact hfiles.append_of_ok (reports_requireSize _)
  | error e =>
    rw [h] at hfiles
    rw [Action.bind_of_result_error h]
    exact hfiles.append_of_error _

/-! ## What files say -/

/--
Two file systems with the same directories and the same regular files. What a file says may differ, as long as it is a
configuration file in both; the faults of the others are the same.
-/
structure Rewritten (files files' : FileSystem) : Prop where
  list : files.list = files'.list
  isFile : files.isFile = files'.isFile
  faults : ∀ path, (readLayer files path).map (fun _ => ()) = (readLayer files' path).map fun _ => ()

theorem Rewritten.symm (h : Rewritten files files') : Rewritten files' files :=
  ⟨h.list.symm, h.isFile.symm, fun path => (h.faults path).symm⟩

theorem Rewritten.obstacle (h : Rewritten files files') {v : Visit} {e : ConfigError} (met : Obstacle files v e) :
    Obstacle files' v e := by
  cases v with
  | listing directory =>
    obtain ⟨listing, present⟩ | _ := met
    exact .unlistable (h.list ▸ listing) present
  | file path =>
    have hfault := h.faults path
    rw [obstacle_file_iff] at met ⊢
    rw [met] at hfault
    cases hlayer : readLayer files' path <;> simp_all [Except.map]
  | size c =>
    obtain _ | _ | _ | _ | _ | sizeless := met
    exact .sizeless sizeless

theorem Rewritten.reports (h : Rewritten files files') {vs : List Visit} {r : Except ConfigError Unit}
    (reports : Reports files vs r) : Reports files' vs r := by
  induction reports with
  | done => exact .done
  | pass clear _ ih => exact .pass (fun e met => clear e (h.symm.obstacle met)) ih
  | stop met => exact .stop (h.obstacle met)

theorem Rewritten.byName (h : Rewritten files files') {directory : String} {found : List String}
    (byName : ByName files directory found) : ByName files' directory found := by
  rw [ByName, layerNames, h.list, h.isFile] at byName
  exact byName

/-- The files alone decide what goes wrong before the size is asked for, whatever they say and for whatever device. -/
theorem Rewritten.result_layUp (h : Rewritten files files') (paths : ConfigPaths) (info info' : ControllerInfo) :
    (layUp files paths info {}).result = (layUp files' paths info' {}).result := by
  obtain ⟨presets, hpresets⟩ := exists_byName files paths.presets
  obtain ⟨dropIns, hdropIns⟩ := exists_byName files paths.dropIns
  have hmain : mainFiles files paths.file = mainFiles files' paths.file := by rw [mainFiles, mainFiles, h.isFile]
  have hvisits : fileVisits files paths presets dropIns = fileVisits files' paths presets dropIns := by
    rw [fileVisits, fileVisits, hmain]
  have hreports := h.reports (tours_layUp info hpresets hdropIns {})
  rw [hvisits] at hreports
  exact hreports.unique (tours_layUp info' (h.byName hpresets) (h.byName hdropIns) {})

/-- All errors but that of the size come before the size is asked for. -/
theorem result_load_error_iff {e : ConfigError} (other : ∀ width height, e ≠ .invalidSize width height) :
    (load files paths info {}).result = .error e ↔ (layUp files paths info {}).result = .error e := by
  rw [load_eq_layUp]
  cases h : (layUp files paths info {}).result with
  | error e' => rw [Action.bind_of_result_error h]
  | ok a =>
    have hsize : (requireSize (layUp files paths info {}).state).result ≠ .error e := by
      rw [requireSize, Action.get_bind]
      split
      · simp
      · exact fun h => other _ _ (Except.error.inj h).symm
    rw [Action.bind_of_result_ok h]
    exact ⟨fun h => absurd h hsize, fun h => absurd h (by simp)⟩

/--
Loading succeeds exactly if all that it visits is clear, and otherwise fails with the error of the first visit that is not: a
directory that cannot be listed, unless it is missing, a file that cannot be read, is no text or no configuration file, or last a
size that is not positive. Presets and drop-in files are visited by name, and the main file if it is a regular file. Which device
presets are meant for, and what files say, makes no difference to any error but that of the size.
-/
theorem first_obstacle_decides (files : FileSystem) (paths : ConfigPaths) (info : ControllerInfo) :
    ∃ presets dropIns, ByName files paths.presets presets ∧ ByName files paths.dropIns dropIns ∧
      let visited := visits files paths info presets dropIns
      ((load files paths info {}).result = .ok () ↔ ∀ v ∈ visited, v.Clear files) ∧
      (∀ e, (load files paths info {}).result = .error e ↔
        ∃ before v after, visited = before ++ v :: after ∧ (∀ u ∈ before, u.Clear files) ∧ Obstacle files v e) ∧
      ∀ files' info', Rewritten files files' → ∀ e, (∀ width height, e ≠ .invalidSize width height) →
        ((load files paths info {}).result = .error e ↔ (load files' paths info' {}).result = .error e) := by
  obtain ⟨presets, hpresets⟩ := exists_byName files paths.presets
  obtain ⟨dropIns, hdropIns⟩ := exists_byName files paths.dropIns
  have hreports := reports_load info hpresets hdropIns
  refine ⟨presets, dropIns, hpresets, hdropIns, hreports.ok_iff, hreports.error_iff, ?_⟩
  intro files' info' rewritten e other
  rw [result_load_error_iff other, result_load_error_iff other, rewritten.result_layUp paths info info']

end

/--
A screen without a height is refused with the last width that is set, which a drop-in file sets over the preset for the device. But
if the preset is no configuration file, then that comes first.
-/
theorem first_of_two_obstacles_decides :
    let files (preset : String) := FileSystem.ofTexts [("/presets", ["mine.toml"]), ("/conf.d", ["10.toml"])]
      [("/presets/mine.toml", preset), ("/conf", "touch.height = 0"), ("/conf.d/10.toml", "touch.width = 27.5")]
    let paths : ConfigPaths := ⟨"/conf", "/conf.d", "/presets"⟩
    (load (files "touch") paths {} {}).result = .error (.malformed "/presets/mine.toml") ∧
      (load (files "device = [0, 0]\ntouch = [26, 17.5]") paths {} {}).result = .error (.invalidSize 27.5 0) := by
  intro files paths
  let malformed := "touch"
  let sizeless := "device = [0, 0]\ntouch = [26, 17.5]"
  have hpreset : joinPath "/presets" "mine.toml" = "/presets/mine.toml" := by decide +kernel
  constructor
  · have hpresets : layerNames (files malformed) "/presets" = ["mine.toml"] := by decide +kernel
    obtain ⟨presets, dropIns, byName, -, -, herror, -⟩ := first_obstacle_decides (files malformed) paths {}
    obtain rfl := byName.unique (byName_singleton hpresets)
    have hlayer : readLayer (files malformed) "/presets/mine.toml" = .error (.malformed "/presets/mine.toml") :=
      readLayer_of_rejected (FileSystem.readText_ofTexts rfl) (Option.isNone_iff_eq_none.1 (by decide +kernel))
    rw [← hpreset] at hlayer ⊢
    exact (herror _).2 ⟨[.listing "/presets"], .file (joinPath "/presets" "mine.toml"), _, rfl,
      List.forall_mem_singleton.2 (clear_listing rfl), obstacle_file_iff.2 hlayer⟩
  · have hpresets : layerNames (files sizeless) "/presets" = ["mine.toml"] := by decide +kernel
    have hdropIns : layerNames (files sizeless) "/conf.d" = ["10.toml"] := by decide +kernel
    obtain ⟨presets, dropIns, byName, byName', -, herror, -⟩ := first_obstacle_decides (files sizeless) paths {}
    obtain rfl := byName.unique (byName_singleton hpresets)
    obtain rfl := byName'.unique (byName_singleton hdropIns)
    let presets := [joinPath "/presets" "mine.toml"]
    let dropIns := [joinPath "/conf.d" "10.toml"]
    have hclear : ∀ v ∈ fileVisits (files sizeless) paths presets dropIns, v.Clear (files sizeless) :=
      clear_fileVisits (clear_listing rfl) (clear_listing rfl) (by decide +kernel)
    obtain ⟨hwidth, hheight⟩ : let c := layered (files sizeless) paths {} presets dropIns
        c.width = 27.5 ∧ c.height = 0 := by
      decide +kernel
    have hsize := (herror _).2 ⟨_, _, [], rfl, hclear, .sizeless fun h => ?_⟩
    · rw [hwidth, hheight] at hsize
      exact hsize
    · rw [hheight] at h
      exact absurd h.2 (by decide +kernel)

end Digitizer.Config
