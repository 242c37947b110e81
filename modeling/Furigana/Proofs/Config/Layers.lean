import Mathlib
import Furigana.Proofs.Config.Discovery

/-!
# Layers of settings

Each option comes from the topmost of three layers that sets it: the command line, the configuration
file and the defaults.  What another option is set to makes no difference to that.

The file is read and validated before the command line is put on top, so settings of the command line
decide neither whether a configuration is loaded nor which one.  A command line without settings leaves
all of them open.

* `Options.Key`, `Options.value`, `Settings.value?` — options and settings by key;
* `Options.value_override` — one layer on top of another one;
* `Settings.value?_of_ofDocument?` — the layer of a configuration file;
* `Config.IsSource`, `Config.Fails` — where a configuration comes from, or why there is none;
* `Config.load_layers` — **the layers of a configuration that is loaded**.
-/

namespace Furigana

/-! ## Options by key -/

/-- The options. -/
inductive Options.Key where
  | enabled
  | forms
  | fallbackBrackets
  | strictMode
  | autoBracketSets
  | patternMatching
deriving DecidableEq, Repr

/-- The key of an option in a configuration file. -/
def Options.Key.name : Options.Key → String
  | enabled => "enabled"
  | forms => "forms"
  | fallbackBrackets => "fallback_brackets"
  | strictMode => "strict_mode"
  | autoBracketSets => "auto_bracket_sets"
  | patternMatching => "pattern_matching"

/-- What an option is set to. -/
def Options.value (o : Options) : Options.Key → Toml.Value
  | .enabled => .boolean o.enabled
  | .forms => .string o.forms
  | .fallbackBrackets => .string o.fallbackBrackets
  | .strictMode => .boolean o.strictMode
  | .autoBracketSets => .string o.autoBracketSets
  | .patternMatching => .boolean o.patternMatching

/-- What an option is set to, unless it is left open. -/
def Settings.value? (s : Settings) : Options.Key → Option Toml.Value
  | .enabled => s.enabled.map .boolean
  | .forms => s.forms.map .string
  | .fallbackBrackets => s.fallbackBrackets.map .string
  | .strictMode => s.strictMode.map .boolean
  | .autoBracketSets => s.autoBracketSets.map .string
  | .patternMatching => s.patternMatching.map .boolean

/-- **One layer on top of another one.**  Each option is what the settings say, or stays. -/
lemma Options.value_override (o : Options) (s : Settings) (key : Options.Key) :
    (o.override s).value key = (s.value? key).getD (o.value key) := by
  have hgetD : ∀ {α : Type} (φ : α → Toml.Value) (x : Option α) (a : α),
      φ (x.getD a) = (x.map φ).getD (φ a) := fun φ x a => by cases x <;> rfl
  cases key <;> exact hgetD _ _ _

/-- Options are told apart by what they are set to. -/
lemma Options.value_injective : Function.Injective Options.value := by
  intro o o' h
  have henabled := Toml.Value.boolean.inj (congrFun h .enabled)
  have hforms := Toml.Value.string.inj (congrFun h .forms)
  have hfallback := Toml.Value.string.inj (congrFun h .fallbackBrackets)
  have hstrict := Toml.Value.boolean.inj (congrFun h .strictMode)
  have hsets := Toml.Value.string.inj (congrFun h .autoBracketSets)
  have hmatching := Toml.Value.boolean.inj (congrFun h .patternMatching)
  cases o
  cases o'
  simp_all only

/-! ## The layer of a file -/

/-- What a value holds under a key.  The elements of an array stand for the options in their order. -/
def Toml.Value.member? : Toml.Value → Text → Option Toml.Value
  | .table _ entries, key => entries.lookup key
  | .array elements, key => (Settings.keys.zip elements).lookup key
  | _, _ => none

/-- What a configuration file sets an option to. -/
def Toml.Table.setting? (document : Toml.Table) (key : Options.Key) : Option Toml.Value :=
  (document.lookup "furigana".toList).bind fun value => value.member? key.name.toList

namespace Settings

variable {s : Settings} {table document : Toml.Table}

lemma map_of_boolean? {x : Option Toml.Value} {b : Option Bool} (h : boolean? x = some b) :
    b.map .boolean = x := by
  unfold boolean? at h
  split at h
  · obtain rfl := Option.some.inj h
    rfl
  · obtain rfl := Option.some.inj h
    rfl
  · exact absurd h (by simp)

lemma map_of_text? {x : Option Toml.Value} {t : Option Text} (h : text? x = some t) :
    t.map .string = x := by
  unfold text? at h
  split at h
  · obtain rfl := Option.some.inj h
    rfl
  · obtain rfl := Option.some.inj h
    rfl
  · exact absurd h (by simp)

lemma value?_of_ofTable? (h : ofTable? table = some s) (key : Options.Key) :
    s.value? key = table.lookup key.name.toList := by
  rw [ofTable?] at h
  split at h
  · rename_i henabled hforms hfallback hstrict hsets hmatching
    obtain rfl := Option.some.inj h
    cases key with
    | enabled => exact map_of_boolean? henabled
    | forms => exact map_of_text? hforms
    | fallbackBrackets => exact map_of_text? hfallback
    | strictMode => exact map_of_boolean? hstrict
    | autoBracketSets => exact map_of_text? hsets
    | patternMatching => exact map_of_boolean? hmatching
  · exact absurd h (by simp)

/-- **The layer of a file**: each setting is what the file sets its option to. -/
lemma value?_of_ofDocument? (h : ofDocument? document = some s) (key : Options.Key) :
    s.value? key = document.setting? key := by
  have hunset : unset.value? key = none := by cases key <;> rfl
  rw [Toml.Table.setting?]
  rw [ofDocument?] at h
  cases hvalue : document.lookup "furigana".toList with
  | none =>
      rw [hvalue] at h
      obtain rfl := Option.some.inj h
      exact hunset
  | some value =>
      rw [hvalue] at h
      rw [Option.bind_some]
      cases value with
      | table origin entries => exact value?_of_ofTable? h key
      | array elements => exact value?_of_ofTable? h key
      | time =>
          obtain rfl := Option.some.inj h
          exact hunset
      | string t => exact absurd h (by simp [ofValue?])
      | boolean b => exact absurd h (by simp [ofValue?])
      | number => exact absurd h (by simp [ofValue?])
      | tables elements => exact absurd h (by simp [ofValue?])

end Settings

/-! ## Loading -/

namespace Config

variable {tree : FileTree} {cwd : Path} {file : Option Text}

/-- A file that holds a document. -/
def Holds (tree : FileTree) (place : Path) (document : Toml.Table) : Prop :=
  ∃ bytes t, tree.get? place = some (.file bytes) ∧ Text.ofUtf8? bytes = some t ∧
    Toml.parse? t = some document

/-- Where a configuration comes from: its path, and the document that holds its settings. -/
inductive IsSource (tree : FileTree) (cwd : Path) : Option Text → Option Text → Toml.Table → Prop
  /-- The file that is asked for. -/
  | asked {t : Text} {place : Path} {document : Toml.Table} (hfind : tree.find cwd t = .ok place)
      (hholds : Holds tree place document) : IsSource tree cwd (some t) (some t) document
  /-- The nearest file. -/
  | nearest {directory : Path} {entry : Entry} {document : Toml.Table}
      (hnearest : Nearest tree cwd directory entry)
      (hholds : Holds tree (directory ++ [fileName]) document) :
      IsSource tree cwd none (some (directory ++ [fileName]).toText) document
  /-- No file, and no settings but the defaults. -/
  | standard (h : ∀ directory, directory <+: cwd → tree.get? (directory ++ [fileName]) = none) :
      IsSource tree cwd none none []

/-- Why what stands at a place gives no configuration. -/
def Refuses (tree : FileTree) (place : Path) (cause : LoadError) : Prop :=
  match tree.get? place with
  | none => cause = .unreadable .notFound
  | some entry => Yields entry (.error cause)

/-- Why there is no configuration. -/
inductive Fails (tree : FileTree) (cwd : Path) : Option Text → LoadError → Prop
  /-- There is no file that is asked for. -/
  | notFound {t : Text} {cause : FileError} (h : tree.find cwd t = .error cause) :
      Fails tree cwd (some t) (.notFound t)
  /-- The file that is asked for gives none. -/
  | asked {t : Text} {place : Path} {cause : LoadError} (hfind : tree.find cwd t = .ok place)
      (h : Refuses tree place cause) : Fails tree cwd (some t) cause
  /-- The nearest file gives none. -/
  | nearest {directory : Path} {entry : Entry} {cause : LoadError}
      (hnearest : Nearest tree cwd directory entry)
      (h : Refuses tree (directory ++ [fileName]) cause) : Fails tree cwd none cause

lemma refuses_of_ofContent {place : Path} {cause : LoadError}
    (h : ofContent (tree.read place) = .error cause) : Refuses tree place cause := by
  rw [Refuses]
  cases hentry : tree.get? place with
  | none =>
      rw [FileTree.read, hentry] at h
      exact (Except.error.inj h).symm
  | some entry => exact (yields_iff hentry).2 h

/-- What is read from a file: options that pass, each as the document sets it or as the default. -/
lemma exists_document_of_ofContent {place : Path} {options : Options}
    (h : ofContent (tree.read place) = .ok options) :
    ∃ document, Holds tree place document ∧ options.invalid? = none ∧
      ∀ key, options.value key = (document.setting? key).getD (Options.standard.value key) := by
  cases hentry : tree.get? place with
  | none =>
      rw [FileTree.read, hentry] at h
      exact absurd h (by simp [ofContent, Except.bind])
  | some entry =>
      cases (yields_iff hentry).2 h with
      | text ht hgives =>
          cases hgives with
          | options hdocument hsettings hused =>
              refine ⟨_, ⟨_, _, hentry, ht, hdocument⟩,
                Options.invalid?_eq_none_iff_usedAsWritten.2 hused, fun key => ?_⟩
              rw [Options.value_override, Settings.value?_of_ofDocument? hsettings]

/-- **What stands at a place gives a configuration or refuses one.** -/
lemma map_ofContent_cases (tree : FileTree) (place : Path) (path : Option Text) :
    (∃ cause, Refuses tree place cause ∧
      ((ofContent (tree.read place)).map fun options => Config.mk options path) = .error cause) ∨
    ∃ options document, Holds tree place document ∧ options.invalid? = none ∧
      (∀ key, options.value key = (document.setting? key).getD (Options.standard.value key)) ∧
      ((ofContent (tree.read place)).map fun options => Config.mk options path)
        = .ok ⟨options, path⟩ := by
  cases hcontent : ofContent (tree.read place) with
  | error cause => exact Or.inl ⟨cause, refuses_of_ofContent hcontent, rfl⟩
  | ok options =>
      obtain ⟨document, hholds, hvalid, hlayer⟩ := exists_document_of_ofContent hcontent
      exact Or.inr ⟨options, document, hholds, hvalid, hlayer, rfl⟩

/-- **Before the command line** there is an error, or a configuration that passes validation. -/
lemma loadFile_cases (tree : FileTree) (cwd : Path) (file : Option Text) :
    (∃ cause, Fails tree cwd file cause ∧ loadFile tree cwd file = .error cause) ∨
    ∃ options path document, IsSource tree cwd file path document ∧ options.invalid? = none ∧
      (∀ key, options.value key = (document.setting? key).getD (Options.standard.value key)) ∧
      loadFile tree cwd file = .ok ⟨options, path⟩ := by
  rw [loadFile.eq_def]
  cases file with
  | some t =>
      dsimp only
      cases hfind : tree.find cwd t with
      | error cause => exact Or.inl ⟨_, .notFound hfind, rfl⟩
      | ok place =>
          rcases map_ofContent_cases tree place (some t) with ⟨cause, hrefuses, hmap⟩ |
            ⟨options, document, hholds, hvalid, hlayer, hmap⟩
          · exact Or.inl ⟨cause, .asked hfind hrefuses, hmap⟩
          · exact Or.inr ⟨options, _, document, .asked hfind hholds, hvalid, hlayer, hmap⟩
  | none =>
      dsimp only
      rcases exists_nearest tree cwd with ⟨directory, entry, hnearest, hfound⟩ | ⟨hnone, hfound⟩
      · rw [hfound]
        rcases map_ofContent_cases tree (directory ++ [fileName])
            (some (directory ++ [fileName]).toText) with ⟨cause, hrefuses, hmap⟩ |
          ⟨options, document, hholds, hvalid, hlayer, hmap⟩
        · exact Or.inl ⟨cause, .nearest hnearest hrefuses, hmap⟩
        · exact Or.inr ⟨options, _, document, .nearest hnearest hholds, hvalid, hlayer, hmap⟩
      · rw [hfound]
        have hvalid : Options.standard.invalid? = none := by decide
        exact Or.inr ⟨_, none, [], .standard hnone, hvalid, fun key => rfl, rfl⟩

/-- **The layers of a configuration.**  Either nothing can be loaded, for a reason that has nothing to
do with the settings of the command line, and the error is the same with all of them.  Or the same
source is loaded with all of them, and every option is what the command line says, else what the source
says, else the default.  Without settings of the command line the options pass validation. -/
theorem load_layers (tree : FileTree) (cwd : Path) (file : Option Text) :
    (∃ cause, Fails tree cwd file cause ∧
      ∀ settings, load tree cwd file settings = .error cause) ∨
    ∃ path document, IsSource tree cwd file path document ∧
      (∀ settings, ∃ options, load tree cwd file settings = .ok ⟨options, path⟩ ∧
        ∀ key, options.value key = ((settings.value? key).or (document.setting? key)).getD
          (Options.standard.value key)) ∧
      ∃ options, load tree cwd file .unset = .ok ⟨options, path⟩ ∧ options.invalid? = none := by
  rcases loadFile_cases tree cwd file with ⟨cause, hfails, hfile⟩ |
    ⟨options, path, document, hsource, hvalid, hlayer, hfile⟩
  · refine Or.inl ⟨cause, hfails, fun settings => ?_⟩
    rw [load, hfile]
    rfl
  · have hload : ∀ settings,
        load tree cwd file settings = .ok ⟨options.override settings, path⟩ := fun settings => by
      rw [load, hfile]
      rfl
    refine Or.inr ⟨path, document, hsource, fun settings => ⟨_, hload settings, fun key => ?_⟩,
      options, hload .unset, hvalid⟩
    rw [Options.value_override, hlayer]
    cases settings.value? key <;> rfl

/-- A file that sets two options, and a command line that sets one of them and a third one. -/
theorem load_layers_file_below_command_line :
    ∃ (tree : FileTree) (cwd : Path) (t form : Text) (settings : Settings),
      tree.readText cwd t = .ok "[furigana]\nenabled = false\nforms = \"[]::<>\"\n".toList ∧
      form = "[]::<>".toList ∧
      settings = { Settings.unset with enabled := some true, strictMode := some true } ∧
      load tree cwd (some t) .unset
        = .ok ⟨{ Options.standard with enabled := false, forms := form }, some t⟩ ∧
      load tree cwd (some t) settings
        = .ok ⟨{ Options.standard with enabled := true, forms := form, strictMode := true },
          some t⟩ := by
  let content : Text := "[furigana]\nenabled = false\nforms = \"[]::<>\"\n".toList
  let cwd : Path := ["w".toList]
  let t : Text := "c.toml".toList
  let place : Path := cwd ++ [t]
  let tree : FileTree :=
    ⟨[(cwd, .directory), (place, .file (String.ofList content).toUTF8)]⟩
  let o : Options := { Options.standard with enabled := false, forms := "[]::<>".toList }
  let settings : Settings :=
    { Settings.unset with enabled := some true, strictMode := some true }
  have hfind : tree.find cwd t = .ok place := rfl
  have hfile : tree.get? place = some (.file (String.ofList content).toUTF8) := rfl
  have hdecode := Text.ofUtf8?_toUTF8 content
  have hunset : load tree cwd (some t) .unset = .ok ⟨o, some t⟩ := by
    have hread : tree.read place = .ok (String.ofList content).toUTF8 := rfl
    have hparse : parse content = .ok o := by decide +kernel
    rw [load, loadFile, hfind]
    dsimp only
    rw [hread, ofContent_text hdecode, hparse]
    rfl
  have hboth : load tree cwd (some t) settings = .ok ⟨o.override settings, some t⟩ := by
    rcases load_layers tree cwd (some t) with ⟨cause, _, herror⟩ | ⟨path, document, _, hlayers, _⟩
    · exact absurd (hunset.symm.trans (herror .unset)) (by simp)
    · obtain ⟨o₁, hload₁, hvalue₁⟩ := hlayers .unset
      obtain ⟨o₂, hload₂, hvalue₂⟩ := hlayers settings
      obtain ⟨rfl, rfl⟩ := Config.mk.inj (Except.ok.inj (hunset.symm.trans hload₁))
      have hoverride : o₂ = o.override settings := by
        refine Options.value_injective (funext fun key => ?_)
        have hopen : Settings.unset.value? key = none := by cases key <;> rfl
        rw [Options.value_override, hvalue₂, hvalue₁, hopen]
        cases settings.value? key <;> rfl
      rw [hload₂, hoverride]
  exact ⟨tree, cwd, t, _, settings,
    FileTree.readText_eq_ok_iff.2 ⟨place, _, hfind, hfile, hdecode⟩, rfl, rfl, hunset, hboth⟩

end Config

end Furigana
