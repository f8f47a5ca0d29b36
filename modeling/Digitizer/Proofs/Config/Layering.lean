import Digitizer.Config.Load
import Digitizer.Proofs.Sequencing
import Digitizer.Scripted.Files

/-!
# The last layer that sets a key decides

Loading lays files over one another: the presets for the device, the main file and the drop-in files. What is loaded has for
each key the value of the last of these layers that sets it, whatever they do to other keys (`last_layer_decides`). In which
format the files are written makes no difference.
-/
namespace Digitizer

/-- What something is smaller than is a number. -/
theorem Numeric.isNaN_eq_false_of_lt {v w : Float} (h : v < w) : isNaN w = false := by
  have hnan : ∀ a : Float.Model.UnpackedFloat, a.compare .notANumber = none := by
    intro a
    cases a with
    | infinity s => cases s <;> rfl
    | notANumber => rfl
    | zero s => rfl
    | finite s m e pos => cases s <;> rfl
  have hlt : (v.toModel.unpack.compare w.toModel.unpack == some .lt) = true := by
    have hmodel : decide (v.toModel < w.toModel) = true := h
    exact of_decide_eq_true hmodel
  have hself : w.toModel.unpack.beq w.toModel.unpack = true := by
    cases hw : w.toModel.unpack with
    | notANumber =>
      rw [hw, hnan] at hlt
      exact absurd hlt (by decide)
    | infinity s => cases s <;> rfl
    | zero s => rfl
    | finite s m e pos =>
      have hsame : (compare e e).then (compare m m) = .eq := by simp
      have hcompare : (Float.Model.UnpackedFloat.finite s m e pos).compare (.finite s m e pos) = some .eq := by
        cases s with
        | positive => exact congrArg some hsame
        | negative => exact congrArg (fun o : Ordering => some o.swap) hsame
      exact congrArg (fun o => o == some Ordering.eq) hcompare
  have hbeq : (w == w) = true := hself
  rw [isNaN, bne, hbeq]
  rfl

/-- A preset is meant for a device if it names both its numbers. -/
theorem Layer.accepts_iff {l : Layer} {info : ControllerInfo} :
    l.device.any (·.accepts info) = true ↔ l.device = some ⟨info.vendor, info.product⟩ := by
  cases l.device with
  | none => simp
  | some id => cases id; simp [DeviceId.accepts]

namespace Config

/-! ## Laying over -/

/-- Apply the settings of layers, one layer after another. -/
def overlay (layers : List Layer) (c : Config) : Config := layers.foldl (fun c l => l.settings.apply c) c

@[simp] theorem overlay_append (layers more : List Layer) (c : Config) :
    overlay (layers ++ more) c = overlay more (overlay layers c) := List.foldl_append

/-- The value of a key in the last of the layers that set it, or a default if none does. -/
def lastSet {α : Type} (key : Settings → Option α) (fallback : α) (layers : List Layer) : α :=
  ((layers.filterMap fun l => key l.settings).getLast?).getD fallback

/-- Where a setting overrides a field if it is there, so does the last of many. -/
theorem field_overlay {α : Type} {field : Config → α} {key : Settings → Option α}
    (h : ∀ s c, field (s.apply c) = (key s).getD (field c)) (layers : List Layer) (c : Config) :
    field (overlay layers c) = lastSet key (field c) layers := by
  induction layers generalizing c with
  | nil => rfl
  | cons l ls ih =>
    have hrest := ih (l.settings.apply c)
    rw [h] at hrest
    rw [overlay, List.foldl_cons, ← overlay, hrest, lastSet, lastSet, List.filterMap_cons]
    cases key l.settings with
    | none => rfl
    | some v => rw [List.getLast?_cons]; rfl

/-- A configuration in which every key has its value in the last of the layers that set it, or else its default. -/
def ofLayers (layers : List Layer) : Config where
  width := lastSet (·.width) 0 layers
  height := lastSet (·.height) 0 layers
  invertX := lastSet (·.invertX) false layers
  invertY := lastSet (·.invertY) false layers
  disableOnPalm := lastSet (·.disableOnPalm) false layers

theorem overlay_default (layers : List Layer) : overlay layers {} = ofLayers layers := by
  -- Each key is set as `field_overlay` asks, with the default in the configuration that is laid over.
  have hfield : ∀ {α : Type} {field : Config → α} {key : Settings → Option α},
      (∀ s c, field (s.apply c) = (key s).getD (field c)) → field (overlay layers {}) = lastSet key (field {}) layers :=
    fun h => field_overlay h layers {}
  exact Config.ext (hfield fun _ _ => rfl) (hfield fun _ _ => rfl) (hfield fun _ _ => rfl) (hfield fun _ _ => rfl)
    (hfield fun _ _ => rfl)

/-! ## The files of a directory -/

/-- The names in a directory that are those of configuration files. -/
def layerNames (files : FileSystem) (directory : String) : List String :=
  match files.list directory with
  | .ok names => names.filter fun name => isTomlName name && files.isFile (joinPath directory name)
  | .error _ => []

theorem pairwise_mergeSort (names : List String) :
    (names.mergeSort fun a b => decide (a ≤ b)).Pairwise (· ≤ ·) := by
  refine (List.pairwise_mergeSort (fun a b c hab hbc => ?_) (fun a b => ?_) names).imp of_decide_eq_true
  · exact decide_eq_true (String.le_trans (of_decide_eq_true hab) (of_decide_eq_true hbc))
  · simpa using String.le_total a b

/-- Names have one order. -/
theorem mergeSort_eq_of_perm {names sorted : List String} (same : sorted.Perm names) (order : sorted.Pairwise (· ≤ ·)) :
    names.mergeSort (fun a b => decide (a ≤ b)) = sorted :=
  List.Perm.eq_of_pairwise (fun _ _ _ _ => String.le_antisymm) (pairwise_mergeSort names) order
    ((List.mergeSort_perm names _).trans same.symm)

/-- The configuration files are found in the order of their names, however the directory lists them. -/
theorem layerFiles_of_list {files : FileSystem} {directory : String} {listed names : List String}
    (list : files.list directory = .ok listed) (same : names.Perm (layerNames files directory))
    (order : names.Pairwise (· ≤ ·)) : layerFiles files directory = .ok (names.map (joinPath directory)) := by
  rw [layerNames, list] at same
  rw [layerFiles, list]
  exact congrArg (fun sorted : List String => Except.ok (sorted.map (joinPath directory))) (mergeSort_eq_of_perm same order)

theorem of_layerFiles {files : FileSystem} {directory : String} {paths : List String}
    (h : layerFiles files directory = .ok paths) :
    ∃ names : List String, names.Perm (layerNames files directory) ∧ names.Pairwise (· ≤ ·) ∧
      paths = names.map (joinPath directory) := by
  cases hlist : files.list directory with
  | ok listed =>
    have hfiles := layerFiles_of_list hlist (List.mergeSort_perm _ _) (pairwise_mergeSort (layerNames files directory))
    rw [h] at hfiles
    exact ⟨_, List.mergeSort_perm _ _, pairwise_mergeSort _, Except.ok.inj hfiles⟩
  | error cause =>
    simp only [layerFiles, hlist] at h
    rw [layerNames, hlist]
    split at h
    · exact ⟨[], .nil, .nil, (Except.ok.inj h).symm⟩
    · exact absurd h (by simp)

/-! ## What loading finds -/

theorem of_requireSize {c : Config} (ok : (requireSize c).result = .ok ()) :
    c.hasSize = true ∧ (requireSize c).state = c := by
  rw [requireSize, Action.get_bind] at ok ⊢
  cases h : c.hasSize with
  | true => exact ⟨rfl, by simp⟩
  | false => simp [h] at ok

section
variable [ConfigFormat]

/-- The layers that the configuration files of a directory hold, in the order of their names. -/
def Holds (files : FileSystem) (directory : String) (layers : List Layer) : Prop :=
  ∃ names : List String, names.Perm (layerNames files directory) ∧ names.Pairwise (· ≤ ·) ∧
    names.map (fun name => readLayer files (joinPath directory name)) = layers.map .ok

theorem readLayer_of_rejected {files : FileSystem} {path text : String} (read : files.readText path = .ok text)
    (rejected : ConfigFormat.layer? text = none) : readLayer files path = .error (.malformed path) := by
  simp only [readLayer, read, rejected]

/-- Loading depends on the directories only through the files that are found in them. -/
theorem load_of_layerFiles {files : FileSystem} {paths : ConfigPaths} {presets dropIns : List String}
    (hpresets : layerFiles files paths.presets = .ok presets) (hdropIns : layerFiles files paths.dropIns = .ok dropIns)
    (info : ControllerInfo) :
    load files paths info = (do
      Action.each (applyPreset files info) presets
      applyMain files paths.file
      Action.each (applyFile files) dropIns
      requireSize) := by
  rw [load, applyPresets, applyDropIns, hpresets, hdropIns]
  rfl

/-- An action on a file lays its layer over the configuration if it is one that is used, and succeeds only if it can read it. -/
def Lays (files : FileSystem) (used : Layer → Bool) (act : String → Action Config ConfigError Unit) : Prop :=
  ∀ path c, (act path c).result = .ok () →
    ∃ layer, readLayer files path = .ok layer ∧ (act path c).state = overlay ([layer].filter used) c

theorem lays_applyPreset (files : FileSystem) (info : ControllerInfo) :
    Lays files (fun l => l.device = some ⟨info.vendor, info.product⟩) (applyPreset files info) := by
  intro path c ok
  obtain ⟨layer, hlayer, -, hstate⟩ := Action.of_bind_ok ok
  refine ⟨layer, hlayer, ?_⟩
  rw [applyPreset, hstate]
  by_cases h : layer.device.any (·.accepts info) = true
  · have hused : [layer].filter (fun l => decide (l.device = some ⟨info.vendor, info.product⟩)) = [layer] := by
      simp [Layer.accepts_iff.1 h]
    rw [if_pos h, hused]
    rfl
  · have hunused : [layer].filter (fun l => decide (l.device = some ⟨info.vendor, info.product⟩)) = [] := by
      simp [mt Layer.accepts_iff.2 h]
    rw [if_neg h, hunused]
    rfl

theorem lays_applyFile (files : FileSystem) : Lays files (fun _ => true) (applyFile files) := by
  intro path c ok
  rw [applyFile, Action.notify_bind] at ok ⊢
  obtain ⟨layer, hlayer, -, hstate⟩ := Action.of_bind_ok ok
  exact ⟨layer, hlayer, hstate⟩

/-- Files are laid one over another, and all of them can be read. -/
theorem Lays.each {files : FileSystem} {used : Layer → Bool} {act : String → Action Config ConfigError Unit}
    (h : Lays files used act) {paths : List String} {c : Config} (ok : (Action.each act paths c).result = .ok ()) :
    ∃ layers : List Layer, paths.map (readLayer files) = layers.map .ok ∧
      (Action.each act paths c).state = overlay (layers.filter used) c := by
  induction paths generalizing c with
  | nil => exact ⟨[], rfl, rfl⟩
  | cons path paths ih =>
    rw [Action.each_cons] at ok ⊢
    obtain ⟨⟨⟩, hfirst, hrest, hstate⟩ := Action.of_bind_ok ok
    obtain ⟨layer, hlayer, hover⟩ := h path c hfirst
    obtain ⟨layers, hlayers, hovers⟩ := ih hrest
    refine ⟨layer :: layers, ?_, ?_⟩
    · rw [List.map_cons, List.map_cons, hlayer, hlayers]
    · rw [hstate, hovers, hover, ← overlay_append, ← List.filter_append]
      rfl

/-- The same for the files of a directory. -/
theorem Lays.directory {files : FileSystem} {used : Layer → Bool} {act : String → Action Config ConfigError Unit}
    (h : Lays files used act) {directory : String} {c : Config}
    (ok : ((Action.ofExcept (layerFiles files directory) >>= Action.each act) c).result = .ok ()) :
    ∃ layers, Holds files directory layers ∧
      ((Action.ofExcept (layerFiles files directory) >>= Action.each act) c).state = overlay (layers.filter used) c := by
  obtain ⟨paths, hpaths, heach, hstate⟩ := Action.of_bind_ok ok
  obtain ⟨names, same, order, rfl⟩ := of_layerFiles hpaths
  obtain ⟨layers, hlayers, hover⟩ := h.each heach
  rw [List.map_map] at hlayers
  exact ⟨layers, ⟨names, same, order, hlayers⟩, hstate.trans hover⟩

/-- The layers of the main file: one if there is a main file, and none otherwise. -/
def HoldsMain (files : FileSystem) (path : String) (layers : List Layer) : Prop :=
  (if files.isFile path then [readLayer files path] else []) = layers.map .ok

theorem of_applyMain {files : FileSystem} {path : String} {c : Config} (ok : (applyMain files path c).result = .ok ()) :
    ∃ layers, HoldsMain files path layers ∧ (applyMain files path c).state = overlay layers c := by
  cases hfile : files.isFile path with
  | false => exact ⟨[], by simp [HoldsMain, hfile], by simp [applyMain, hfile, overlay]⟩
  | true =>
    simp only [applyMain, hfile, if_true] at ok ⊢
    obtain ⟨layer, hlayer, hover⟩ := lays_applyFile files path c ok
    exact ⟨[layer], by simp [HoldsMain, hfile, hlayer], hover⟩

/-- Loading as far as the size of the screen has no say. -/
def layUp (files : FileSystem) (paths : ConfigPaths) (info : ControllerInfo) : Action Config ConfigError Unit := do
  applyPresets files info paths.presets
  applyMain files paths.file
  applyDropIns files paths.dropIns

theorem load_eq_layUp (files : FileSystem) (paths : ConfigPaths) (info : ControllerInfo) :
    load files paths info = layUp files paths info >>= fun _ => requireSize := by
  simp only [load, layUp, bind_assoc]

/-- What is laid up lies over what was there: the presets for the device, the main file and the drop-in files. -/
theorem of_layUp {files : FileSystem} {paths : ConfigPaths} {info : ControllerInfo} {c : Config}
    (ok : (layUp files paths info c).result = .ok ()) :
    ∃ presets main dropIns, Holds files paths.presets presets ∧ HoldsMain files paths.file main ∧
      Holds files paths.dropIns dropIns ∧
      (layUp files paths info c).state =
        overlay (presets.filter (·.device = some ⟨info.vendor, info.product⟩) ++ main ++ dropIns) c := by
  obtain ⟨⟨⟩, hpresets, hrest, hlaid⟩ := Action.of_bind_ok ok
  obtain ⟨⟨⟩, hmain, hdropIns, hlaid'⟩ := Action.of_bind_ok hrest
  obtain ⟨presets, holds, hover⟩ := (lays_applyPreset files info).directory hpresets
  obtain ⟨main, holdsMain, hoverMain⟩ := of_applyMain hmain
  obtain ⟨dropIns, holdsDropIns, hoverDropIns⟩ := (lays_applyFile files).directory hdropIns
  rw [← applyPresets] at hover
  rw [← applyDropIns, List.filter_eq_self.2 fun _ _ => rfl] at hoverDropIns
  refine ⟨presets, main, dropIns, holds, holdsMain, holdsDropIns, ?_⟩
  rw [layUp, hlaid, hlaid', hoverDropIns, hoverMain, hover, overlay_append, overlay_append]

/-- What is loaded is what was laid up, and has a size. -/
theorem of_load {files : FileSystem} {paths : ConfigPaths} {info : ControllerInfo} {c : Config}
    (ok : (load files paths info c).result = .ok ()) :
    ∃ presets main dropIns, Holds files paths.presets presets ∧ HoldsMain files paths.file main ∧
      Holds files paths.dropIns dropIns ∧ (load files paths info c).state.hasSize = true ∧
      (load files paths info c).state =
        overlay (presets.filter (·.device = some ⟨info.vendor, info.product⟩) ++ main ++ dropIns) c := by
  rw [load_eq_layUp] at ok ⊢
  obtain ⟨⟨⟩, hlaid, hsize, hload⟩ := Action.of_bind_ok ok
  obtain ⟨presets, main, dropIns, holds, holdsMain, holdsDropIns, hover⟩ := of_layUp hlaid
  obtain ⟨sized, hkept⟩ := of_requireSize hsize
  rw [hload, hkept]
  exact ⟨presets, main, dropIns, holds, holdsMain, holdsDropIns, sized, hover⟩

/--
When the configuration loads, every key has its value in the last of these layers that sets it, or its default if none does: the
presets that name both numbers of the device, in the order of their names, the layer of the main file if there is one, and the
drop-in files in the order of their names. The width and the height are positive numbers.
-/
theorem last_layer_decides {files : FileSystem} {paths : ConfigPaths} {info : ControllerInfo}
    (ok : (load files paths info {}).result = .ok ()) :
    ∃ presets main dropIns, Holds files paths.presets presets ∧ HoldsMain files paths.file main ∧
      Holds files paths.dropIns dropIns ∧
      let listed := presets.filter (·.device = some ⟨info.vendor, info.product⟩) ++ main ++ dropIns
      let c := (load files paths info {}).state
      c.width = lastSet (·.width) 0 listed ∧ c.height = lastSet (·.height) 0 listed ∧
        c.invertX = lastSet (·.invertX) false listed ∧ c.invertY = lastSet (·.invertY) false listed ∧
        c.disableOnPalm = lastSet (·.disableOnPalm) false listed ∧
        0 < c.width ∧ 0 < c.height ∧ Numeric.isNaN c.width = false ∧ Numeric.isNaN c.height = false := by
  obtain ⟨presets, main, dropIns, holds, holdsMain, holdsDropIns, sized, hover⟩ := of_load ok
  refine ⟨presets, main, dropIns, holds, holdsMain, holdsDropIns, ?_⟩
  intro listed c
  have hlast : c = ofLayers listed := hover.trans (overlay_default listed)
  obtain ⟨hwidth, hheight⟩ : 0 < c.width ∧ 0 < c.height := by simpa [hasSize] using sized
  exact ⟨congrArg width hlast, congrArg height hlast, congrArg invertX hlast, congrArg invertY hlast,
    congrArg disableOnPalm hlast, hwidth, hheight, Numeric.isNaN_eq_false_of_lt hwidth,
    Numeric.isNaN_eq_false_of_lt hheight⟩

end

/--
A preset for the device beside one for another device, a main file and two drop-in files, listed out of order among files that
are no layers: every key comes from another file.
-/
theorem last_of_four_layers_decides :
    let files := FileSystem.ofTexts
      [("/presets", ["other.toml", "README", "mine.toml"]), ("/conf.d", ["20.toml", ".toml", "10.toml"])]
      [("/presets/other.toml", "device = [1118, 3098]\ntouch = [30, 20]"), ("/presets/README", "presets"),
        ("/presets/mine.toml", "device = [1118, 2463]\ntouch = [26, 17.5, true]"), ("/conf", "touch.invert_y = true"),
        ("/conf.d/20.toml", "touch.width = 27.5"), ("/conf.d/.toml", "none"),
        ("/conf.d/10.toml", "device = [1, 1]\ntouch = [27, 18, false]")]
    let paths : ConfigPaths := ⟨"/conf", "/conf.d", "/presets"⟩
    let info : ControllerInfo := { vendor := 1118, product := 2463 }
    (load files paths info {}).result = .ok () ∧
      ∃ presets main dropIns, Holds files "/presets" presets ∧ HoldsMain files "/conf" main ∧ Holds files "/conf.d" dropIns ∧
        let listed := presets.filter (·.device = some ⟨1118, 2463⟩) ++ main ++ dropIns
        lastSet (·.width) 0 listed = 27.5 ∧ lastSet (·.height) 0 listed = 18 ∧ lastSet (·.invertX) false listed = false ∧
          lastSet (·.invertY) false listed = true ∧ lastSet (·.disableOnPalm) false listed = false := by
  intro files paths info
  have listPresets : files.list "/presets" = .ok ["other.toml", "README", "mine.toml"] := rfl
  have listDropIns : files.list "/conf.d" = .ok ["20.toml", ".toml", "10.toml"] := rfl
  have hpresets : layerFiles files paths.presets = .ok (["mine.toml", "other.toml"].map (joinPath "/presets")) :=
    layerFiles_of_list listPresets (by decide +kernel) (by decide +kernel)
  have hdropIns : layerFiles files paths.dropIns = .ok (["10.toml", "20.toml"].map (joinPath "/conf.d")) :=
    layerFiles_of_list listDropIns (by decide +kernel) (by decide +kernel)
  have hvalues : let o := load files paths info {}
      (o.result.isOk, o.state.width, o.state.height, o.state.invertX, o.state.invertY, o.state.disableOnPalm) =
        (true, 27.5, 18, false, true, false) := by
    rw [load_of_layerFiles hpresets hdropIns]
    decide +kernel
  simp only [Prod.mk.injEq] at hvalues
  obtain ⟨hok, hwidth, hheight, hinvertX, hinvertY, hpalm⟩ := hvalues
  have ok : (load files paths info {}).result = .ok () := Action.ok_of_isOk hok
  obtain ⟨presets, main, dropIns, holds, holdsMain, holdsDropIns, h⟩ := last_layer_decides ok
  refine ⟨ok, presets, main, dropIns, holds, holdsMain, holdsDropIns, ?_⟩
  exact ⟨h.1 ▸ hwidth, h.2.1 ▸ hheight, h.2.2.1 ▸ hinvertX, h.2.2.2.1 ▸ hinvertY, h.2.2.2.2.1 ▸ hpalm⟩

end Config
end Digitizer
