import Digitizer.Proofs.Config.Layering

/-!
# Loading does not depend on the listings

A directory lists its entries in an order of its own, and among them may be directories and files of other kinds. As entries
neither has a part in what is loaded: two file systems that differ in nothing else give the same configuration, or the same error
with the same path, and the same journal (`load_eq_of_relisted`). But the main file may be such an entry of a directory, and so
may be the directory of the presets. Then the entry matters (`load_ne_of_foreign_entries`).
-/
namespace Digitizer.Config

/-- An entry that is no configuration file of a directory: its name lacks the extension, or it is a directory. -/
def Foreign (files : FileSystem) (directory name : String) : Prop :=
  isTomlName name = false ∨ files.isFile (joinPath directory name) = false

/-- Two file systems have the same regular file at a path, or both have none. -/
structure SameAt (files files' : FileSystem) (path : String) : Prop where
  isFile : files.isFile path = files'.isFile path
  openPath : files.isFile path = true → files.openPath path = files'.openPath path

/-- A directory has entries of these names. If it is missing, it has none. -/
inductive Lists (files : FileSystem) (directory : String) : List String → Prop where
  | missing (list : files.list directory = .error Errno.notFound) : Lists files directory []
  | present {names : List String} (list : files.list directory = .ok names) : Lists files directory names

/--
A directory as two file systems have it. Either neither lists it, for the same cause, or in both it has entries: those that
were kept, in any order, and foreign entries of its own.
-/
inductive Relisted (files files' : FileSystem) (directory : String) : Prop where
  | unlisted {cause : Errno} (before : files.list directory = .error cause) (after : files'.list directory = .error cause)
  | listed {names names' kept removed added : List String}
      (before : Lists files directory names) (after : Lists files' directory names')
      (kept_removed : names.Perm (kept ++ removed)) (kept_added : names'.Perm (kept ++ added))
      (removed_foreign : ∀ name ∈ removed, Foreign files directory name)
      (added_foreign : ∀ name ∈ added, Foreign files' directory name)
      (same : ∀ name ∈ kept, SameAt files files' (joinPath directory name))

variable {files files' : FileSystem} {directory path : String}

theorem Foreign.not_layer {name : String} (h : Foreign files directory name) :
    (isTomlName name && files.isFile (joinPath directory name)) = false := by
  rcases h with h | h <;> simp [h]

theorem Lists.layerNames_eq {names : List String} (h : Lists files directory names) :
    layerNames files directory = names.filter fun name => isTomlName name && files.isFile (joinPath directory name) := by
  cases h with
  | missing list => rw [layerNames, list]; rfl
  | present list => rw [layerNames, list]

theorem Lists.mem_layerNames {names : List String} (h : Lists files directory names) {name : String} :
    name ∈ layerNames files directory ↔ name ∈ names ∧ ¬Foreign files directory name := by
  rw [h.layerNames_eq]
  simp [Foreign]

theorem Lists.layerFiles_eq {listed names : List String} (h : Lists files directory listed)
    (same : names.Perm (layerNames files directory)) (order : names.Pairwise (· ≤ ·)) :
    layerFiles files directory = .ok (names.map (joinPath directory)) := by
  cases h with
  | missing list =>
    rw [layerNames, list] at same
    rw [same.eq_nil, layerFiles, list]
    rfl
  | present list => exact layerFiles_of_list list same order

/-- What a test refuses can be left out before it is asked. -/
theorem filter_perm_of_rest {names kept rest : List String} {p : String → Bool} (parts : names.Perm (kept ++ rest))
    (refused : ∀ name ∈ rest, p name = false) : (names.filter p).Perm (kept.filter p) := by
  have hrest : rest.filter p = [] := List.filter_eq_nil_iff.2 fun name hname => by simp [refused name hname]
  have hparts := parts.filter p
  rwa [List.filter_append, hrest, List.append_nil] at hparts

theorem Relisted.layerNames_perm (h : Relisted files files' directory) :
    (layerNames files directory).Perm (layerNames files' directory) := by
  cases h with
  | unlisted before after => rw [layerNames, layerNames, before, after]
  | @listed names names' kept removed added before after kept_removed kept_added removed_foreign added_foreign same =>
    have hkept : (kept.filter fun name => isTomlName name && files.isFile (joinPath directory name)) =
        kept.filter fun name => isTomlName name && files'.isFile (joinPath directory name) :=
      List.filter_congr fun name hname => by rw [(same name hname).isFile]
    have hbefore := filter_perm_of_rest kept_removed fun name hname => (removed_foreign name hname).not_layer
    have hafter := filter_perm_of_rest kept_added fun name hname => (added_foreign name hname).not_layer
    rw [before.layerNames_eq, after.layerNames_eq]
    exact hbefore.trans (hkept ▸ hafter.symm)

/-- The order of the configuration files that are found is that of their names alone. -/
theorem Relisted.layerFiles_eq (h : Relisted files files' directory) :
    layerFiles files directory = layerFiles files' directory := by
  have hperm := h.layerNames_perm
  cases h with
  | unlisted before after => simp only [layerFiles, before, after]
  | listed before after =>
    have hsorted := List.mergeSort_perm (layerNames files directory) fun a b => decide (a ≤ b)
    have horder := pairwise_mergeSort (layerNames files directory)
    rw [before.layerFiles_eq hsorted horder, after.layerFiles_eq (hsorted.trans hperm) horder]

section
variable [ConfigFormat]

theorem SameAt.readLayer_eq (h : SameAt files files' path) (file : files.isFile path = true) :
    readLayer files path = readLayer files' path := by
  simp only [readLayer, FileSystem.readText, h.openPath file]

/-- A configuration file that is found was kept. -/
theorem Relisted.readLayer_eq (h : Relisted files files' directory) {paths : List String}
    (found : layerFiles files directory = .ok paths) (mem : path ∈ paths) :
    readLayer files path = readLayer files' path := by
  obtain ⟨names, perm, -, rfl⟩ := of_layerFiles found
  obtain ⟨name, hname, rfl⟩ := List.mem_map.1 mem
  have hlayer := perm.mem_iff.1 hname
  cases h with
  | unlisted before after =>
    rw [layerNames, before] at hlayer
    exact absurd hlayer List.not_mem_nil
  | listed before after kept_removed kept_added removed_foreign added_foreign same =>
    obtain ⟨hlisted, hown⟩ := before.mem_layerNames.1 hlayer
    rcases List.mem_append.1 (kept_removed.mem_iff.1 hlisted) with hkept | hremoved
    · have hfile : files.isFile (joinPath directory name) = true := Bool.of_not_eq_false fun h => hown (Or.inr h)
      exact (same name hkept).readLayer_eq hfile
    · exact absurd (removed_foreign name hremoved) hown

/-- What is done with the files of a directory is the same if it depends on a file through its layer only. -/
theorem Relisted.each_eq (h : Relisted files files' directory) {act act' : String → Action Config ConfigError Unit}
    (same : ∀ path, readLayer files path = readLayer files' path → act path = act' path) :
    (Action.ofExcept (layerFiles files directory) >>= Action.each act) =
      (Action.ofExcept (layerFiles files' directory) >>= Action.each act') := by
  rw [← h.layerFiles_eq]
  cases found : layerFiles files directory with
  | error e => rfl
  | ok paths => exact Action.each_congr fun path hpath => same path (h.readLayer_eq found hpath)

theorem applyFile_congr (h : readLayer files path = readLayer files' path) : applyFile files path = applyFile files' path := by
  rw [applyFile, applyFile, h]

theorem applyPreset_congr (info : ControllerInfo) (h : readLayer files path = readLayer files' path) :
    applyPreset files info path = applyPreset files' info path := by
  rw [applyPreset, applyPreset, h]

theorem SameAt.applyMain_eq (h : SameAt files files' path) : applyMain files path = applyMain files' path := by
  rw [applyMain, applyMain, ← h.isFile]
  split
  · next file => exact applyFile_congr (h.readLayer_eq file)
  · rfl

/--
Listing the directories in another order and adding or removing foreign entries changes nothing: what is loaded, the error with
its path and the journal stay the same, whatever the device. The main file has to be the same, or to be missing in both.
-/
theorem load_eq_of_relisted {paths : ConfigPaths} (presets : Relisted files files' paths.presets)
    (main : SameAt files files' paths.file) (dropIns : Relisted files files' paths.dropIns) (info : ControllerInfo) :
    load files paths info = load files' paths info := by
  have hpresets : applyPresets files info paths.presets = applyPresets files' info paths.presets :=
    presets.each_eq fun _ => applyPreset_congr info
  have hdropIns : applyDropIns files paths.dropIns = applyDropIns files' paths.dropIns :=
    dropIns.each_eq fun _ => applyFile_congr
  rw [load, load, hpresets, main.applyMain_eq, hdropIns]

/-- Without any file all that is left is to ask for the size. -/
theorem load_of_no_files {paths : ConfigPaths} (presets : layerFiles files paths.presets = .ok [])
    (main : files.isFile paths.file = false) (dropIns : layerFiles files paths.dropIns = .ok []) (info : ControllerInfo) :
    load files paths info = requireSize := by
  rw [load_of_layerFiles presets dropIns, applyMain, main]
  rfl

end

theorem sameAt_ofTexts {listings listings' : List (String × List String)} {texts texts' : List (String × String)}
    (h : texts.lookup path = texts'.lookup path) :
    SameAt (.ofTexts listings texts) (.ofTexts listings' texts') path where
  openPath _ := by simp only [FileSystem.ofTexts, h]
  isFile := by simp only [FileSystem.ofTexts, h]

/--
Two presets that are no configuration files. The other file system lists them the other way round, without the readme and with a
directory that has the extension: the first of them by name is refused all the same.
-/
theorem first_by_name_is_refused :
    let files := FileSystem.ofTexts [("/presets", ["b.toml", "README", "a.toml"])]
      [("/presets/b.toml", "b"), ("/presets/a.toml", "a"), ("/presets/README", "presets")]
    let files' := FileSystem.ofTexts [("/presets", ["a.toml", "0.toml", "b.toml"]), ("/presets/0.toml", [])]
      [("/presets/b.toml", "b"), ("/presets/a.toml", "a")]
    let paths : ConfigPaths := ⟨"/conf", "/conf.d", "/presets"⟩
    load files paths {} = load files' paths {} ∧
      (load files paths {} {}).result = .error (.malformed "/presets/a.toml") := by
  intro files files' paths
  have listPresets : files.list "/presets" = .ok ["b.toml", "README", "a.toml"] := rfl
  have kept_removed : ["b.toml", "README", "a.toml"].Perm (["b.toml", "a.toml"] ++ ["README"]) := by decide
  have kept_added : ["a.toml", "0.toml", "b.toml"].Perm (["b.toml", "a.toml"] ++ ["0.toml"]) := by decide
  have removed_foreign : ∀ name ∈ ["README"], Foreign files "/presets" name :=
    List.forall_mem_singleton.2 (.inl (by decide +kernel))
  have added_foreign : ∀ name ∈ ["0.toml"], Foreign files' "/presets" name :=
    List.forall_mem_singleton.2 (.inr (by decide +kernel))
  have same : ∀ name ∈ ["b.toml", "a.toml"], SameAt files files' (joinPath "/presets" name) :=
    List.forall_mem_cons.2
      ⟨sameAt_ofTexts (by decide +kernel), List.forall_mem_singleton.2 (sameAt_ofTexts (by decide +kernel))⟩
  have presets : Relisted files files' paths.presets :=
    .listed (.present listPresets) (.present rfl) kept_removed kept_added removed_foreign added_foreign same
  have dropIns : Relisted files files' paths.dropIns := .unlisted rfl rfl
  refine ⟨load_eq_of_relisted presets (sameAt_ofTexts rfl) dropIns {}, ?_⟩
  have hpresets : layerFiles files "/presets" = .ok (["a.toml", "b.toml"].map (joinPath "/presets")) :=
    layerFiles_of_list listPresets (by decide +kernel) (by decide +kernel)
  have hdropIns : layerFiles files paths.dropIns = .ok [] := rfl
  have hpath : joinPath "/presets" "a.toml" = "/presets/a.toml" := by decide +kernel
  have hlayer : readLayer files "/presets/a.toml" = .error (.malformed "/presets/a.toml") :=
    readLayer_of_rejected (FileSystem.readText_ofTexts rfl) (Option.isNone_iff_eq_none.1 (by decide +kernel))
  have hfirst : applyPreset files {} "/presets/a.toml" {} = ⟨.error (.malformed "/presets/a.toml"), {}, []⟩ := by
    rw [applyPreset, hlayer]
    rfl
  rw [load_of_layerFiles hpresets hdropIns, List.map_cons, Action.each_cons, hpath]
  simp only [Action.bind_apply, hfirst]

/--
A directory of drop-in files whose only entries are a file without the extension and a directory. If the file is the main file,
taking the entries away takes away the size of the screen. So it does if the directory is that of the presets.
-/
theorem load_ne_of_foreign_entries :
    let files := FileSystem.ofTexts [("/d", ["main.conf", "presets"]), ("/d/presets", ["a.toml"])]
      [("/d/main.conf", "touch = [26, 17]"), ("/d/presets/a.toml", "device = [0, 0]\ntouch = [26, 17]")]
    let files' := FileSystem.ofTexts [("/d", [])] []
    (∀ name ∈ ["main.conf", "presets"], Foreign files "/d" name) ∧ Relisted files files' "/d" ∧
      (let paths : ConfigPaths := ⟨"/d/main.conf", "/d", "/presets"⟩
       Relisted files files' paths.presets ∧ (load files paths {} {}).result = .ok () ∧
         (load files' paths {} {}).result = .error (.invalidSize 0 0)) ∧
      (let paths : ConfigPaths := ⟨"/conf", "/d", "/d/presets"⟩
       SameAt files files' paths.file ∧ (load files paths {} {}).result = .ok () ∧
         (load files' paths {} {}).result = .error (.invalidSize 0 0)) := by
  intro files files'
  have foreign : ∀ name ∈ ["main.conf", "presets"], Foreign files "/d" name :=
    List.forall_mem_cons.2 ⟨.inl (by decide +kernel), List.forall_mem_singleton.2 (.inl (by decide +kernel))⟩
  have dropIns : Relisted files files' "/d" :=
    .listed (.present rfl) (.present rfl) (List.Perm.refl ([] ++ _)) (List.Perm.refl ([] ++ [])) foreign
      (List.forall_mem_nil _) (List.forall_mem_nil _)
  have hnone : layerFiles files "/d" = .ok ([].map (joinPath "/d")) := layerFiles_of_list rfl (by decide +kernel) .nil
  have hnone' : layerFiles files' "/d" = .ok ([].map (joinPath "/d")) := layerFiles_of_list rfl (by decide +kernel) .nil
  have hpresets : layerFiles files "/d/presets" = .ok (["a.toml"].map (joinPath "/d/presets")) :=
    layerFiles_of_list rfl (by decide +kernel) (List.pairwise_singleton _ _)
  have unsized : (requireSize {}).result = .error (.invalidSize 0 0) := by
    have hsize : hasSize {} = false := by decide +kernel
    rw [requireSize, Action.get_bind, hsize]
    rfl
  refine ⟨foreign, dropIns, ⟨.unlisted rfl rfl, ?_, ?_⟩, sameAt_ofTexts (by decide +kernel), ?_, ?_⟩
  · rw [load_of_layerFiles rfl hnone]
    exact Action.ok_of_isOk (by decide +kernel)
  · rw [load_of_no_files rfl (by decide +kernel) hnone']
    exact unsized
  · rw [load_of_layerFiles hpresets hnone]
    exact Action.ok_of_isOk (by decide +kernel)
  · rw [load_of_no_files rfl (by decide +kernel) hnone']
    exact unsized

end Digitizer.Config
