import KotestOutline.Project
import KotestOutline.Proofs.FileSystem
import KotestOutline.Proofs.Gradle.Environment
import KotestOutline.Proofs.Json.Record

/-!
# Configurations read back

A configuration that is saved and loaded again is the same but for its root, which is the directory
of the file. Fields that were left out are told apart from fields with an empty value: an unset list
of styles enables every style, and an empty one none.

* `GradleSettings.ofJson?_toJson` and `Config.ofJson?_toJson`: what a reader makes of the data.
* `Config.ofText_toText`: the same through the text of a file.
* `Config.load_of_save`: the same through the file, and `Config.load_of_save_of_load` for a
  configuration that was read from a file itself.
-/

namespace KotestOutline

open Json (present)

/-! ### Gradle settings -/

namespace GradleSettings

/-- A table of the environment in data. -/
def tableToJson (table : Table) : Json := .record (table.map fun entry => (entry.1, .str entry.2))

/-- The fields of the settings as they are written, unset ones left out. -/
def fields (g : GradleSettings) : List (String × Option Json) :=
  [("command", g.command.map .str), ("task", g.task.map .str),
    ("extra_args", g.extraArgs.map (.arrayOf .str)), ("env", g.env.map tableToJson)]

/-- Settings that are unset are left out of the data. -/
theorem toJson_eq_record (g : GradleSettings) : g.toJson = .record (present g.fields) := by
  rw [toJson, fields]
  cases g.command <;> cases g.task <;> cases g.extraArgs <;> cases g.env <;> rfl

/-- A reader finds each setting as it was written. -/
theorem fields?_toJson (g : GradleSettings) :
    g.toJson.fields? fieldNames = some (g.fields.map fun field => .written field.2) := by
  rw [toJson_eq_record]
  exact Json.fields?_record g.fields (by simp [fields])

/-- The settings that are read, unset or not, make the configuration of Gradle. -/
theorem ofJson?_of_fields {v : Json} {c t a e : Json.Field} {command task : Option String}
    {extraArgs : Option (List String)} {env : Option Table}
    (hfields : v.fields? fieldNames = some [c, t, a, e])
    (hcommand : c.optional Json.toText? = some command)
    (htask : t.optional Json.toText? = some task)
    (hextraArgs : a.optional (Json.toList? Json.toText?) = some extraArgs)
    (henv : e.optional Json.toTable? = some env) :
    ofJson? v = some ⟨command, task, extraArgs, env⟩ := by
  simp [ofJson?, hfields, hcommand, htask, hextraArgs, henv]

/-- Settings whose environment repeats no key are read as they were written. -/
theorem ofJson?_toJson {g : GradleSettings} (henv : ∀ table ∈ g.env, (table.map Prod.fst).Nodup) :
    ofJson? g.toJson = some g := by
  apply ofJson?_of_fields g.fields?_toJson
  · exact Json.Field.optional_written rfl fun _ _ => by rfl
  · exact Json.Field.optional_written rfl fun _ _ => by rfl
  · exact Json.Field.optional_written rfl fun args _ => Json.toList?_arrayOf_str args
  · exact Json.Field.optional_written rfl fun table htable =>
      Json.toTable?_record (henv table htable)

/-- Settings have no numbers at all. -/
theorem isExact_toJson (g : GradleSettings) : g.toJson.IsExact := by
  have htable : ∀ table, (tableToJson table).IsExact := by
    intro table
    refine .record fun member hmember => ?_
    obtain ⟨entry, -, rfl⟩ := List.mem_map.1 hmember
    exact .str entry.2
  rw [toJson_eq_record]
  refine .present ?_
  simp [fields, Json.IsExact.listed, htable]

end GradleSettings

/-! ### Configurations -/

namespace Config

/-- The fields of a configuration as they are written, without the source roots where there are none
and without the styles where they are unset. -/
def fields (c : Config) : List (String × Option Json) :=
  [("resolve_symbols", some (.bool c.resolveSymbols)),
    ("source_roots", if c.sourceRoots.isEmpty then none else some (.arrayOf .str c.sourceRoots)),
    ("styles", c.styles.map (.arrayOf .str)), ("gradle", some c.gradle.toJson)]

/-- Source roots are left out where there are none, and styles where they are unset. -/
theorem toJson_eq_record (c : Config) : c.toJson = .record (present c.fields) := by
  rw [toJson, fields]
  by_cases h : c.sourceRoots.isEmpty <;> cases c.styles <;> simp [h]

/-- A reader finds each field as it was written. -/
theorem fields?_toJson (c : Config) :
    c.toJson.fields? fieldNames = some (c.fields.map fun field => .written field.2) := by
  rw [toJson_eq_record]
  exact Json.fields?_record c.fields (by simp [fields])

/-- The fields make a configuration without a root, which is no part of the data. -/
theorem ofJson?_of_fields {v : Json} {r s y g : Json.Field} {resolveSymbols : Bool}
    {sourceRoots : List String} {styles : Option (List String)} {gradle : GradleSettings}
    (hfields : v.fields? fieldNames = some [r, s, y, g])
    (hresolveSymbols : r.defaulted true Json.toBool? = some resolveSymbols)
    (hsourceRoots : s.defaulted [] (Json.toList? Json.toText?) = some sourceRoots)
    (hstyles : y.optional (Json.toList? Json.toText?) = some styles)
    (hgradle : g.defaulted .unset GradleSettings.ofJson? = some gradle) :
    ofJson? v = some ⟨resolveSymbols, sourceRoots, styles, gradle, none⟩ := by
  simp [ofJson?, hfields, hresolveSymbols, hsourceRoots, hstyles, hgradle]

variable {c : Config} {fs fs' : FileSystem} {path : String}

/-- A configuration is read as it was written, without its root. -/
theorem ofJson?_toJson (henv : ∀ table ∈ c.gradle.env, (table.map Prod.fst).Nodup) :
    ofJson? c.toJson = some { c with root := none } := by
  apply ofJson?_of_fields c.fields?_toJson
  · rfl
  · exact Json.Field.defaulted_listed c.sourceRoots
  · exact Json.Field.optional_written rfl fun names _ => Json.toList?_arrayOf_str names
  · exact GradleSettings.ofJson?_toJson henv

/-- A configuration has no numbers at all. -/
theorem isExact_toJson (c : Config) : c.toJson.IsExact := by
  rw [toJson_eq_record]
  refine .present ?_
  simp [fields, Json.IsExact.bool, Json.IsExact.listed, GradleSettings.isExact_toJson]

/-- The text of a configuration file holds the configuration without its root. -/
theorem ofText_toText (henv : ∀ table ∈ c.gradle.env, (table.map Prod.fst).Nodup) :
    ofText c.toText = .ok { c with root := none } := by
  rw [ofText, toText, c.isExact_toJson.read?_pretty, Option.bind_some, ofJson?_toJson henv]

/-- The text that is saved is the one of the configuration. -/
theorem writeText_of_save (hsave : c.save fs path = .ok fs') :
    fs.writeText path c.toText = .ok fs' := by
  rw [save] at hsave
  cases h : fs.writeText path c.toText with
  | error cause =>
    rw [h] at hsave
    cases hsave
  | ok written =>
    rw [h] at hsave
    exact congrArg _ (Except.ok.inj hsave)

/-- A saved configuration is loaded with the directory of the file as its root. -/
theorem load_eq_of_save (henv : ∀ table ∈ c.gradle.env, (table.map Prod.fst).Nodup)
    (hsave : c.save fs path = .ok fs') {path' : String}
    (hplace : fs'.place path' = fs'.place path) :
    load fs' path' = .ok { c with root := Path.parent? path' } := by
  rw [load, FileSystem.readText_of_writeText (writeText_of_save hsave) hplace]
  show (ofText c.toText).map _ = _
  rw [ofText_toText henv]
  rfl

/-! ### Configurations that are read -/

/-- An environment that is read repeats no key, and one that is left out has none. -/
theorem nodup_keys_of_ofJson? {v : Json} (h : ofJson? v = some c) :
    ∀ table ∈ c.gradle.env, (table.map Prod.fst).Nodup := by
  unfold ofJson? at h
  obtain ⟨fields, -, h⟩ := Option.bind_eq_some_iff.1 h
  split at h
  next _ _ _ field =>
    simp only [Option.bind_eq_bind, Option.bind_eq_some_iff] at h
    obtain ⟨_, -, _, -, _, -, gradle, hgradle, h⟩ := h
    obtain rfl := Option.some.inj h
    cases field with
    | value v => exact GradleSettings.nodup_keys_of_ofJson? hgradle
    | absent | beyond =>
      obtain rfl := Option.some.inj hgradle
      rintro table ⟨⟩
  · cases h

/-- An environment that is read from a text repeats no key. -/
theorem nodup_keys_of_ofText {text : String} (h : ofText text = .ok c) :
    ∀ table ∈ c.gradle.env, (table.map Prod.fst).Nodup := by
  unfold ofText at h
  split at h
  next read hread =>
    obtain rfl := Except.ok.inj h
    obtain ⟨v, -, hv⟩ := Option.bind_eq_some_iff.1 hread
    exact nodup_keys_of_ofJson? hv
  · cases h

/-- Nor does one that is loaded from a file. -/
theorem nodup_keys_of_load (h : load fs path = .ok c) :
    ∀ table ∈ c.gradle.env, (table.map Prod.fst).Nodup := by
  unfold load at h
  split at h
  · cases h
  next text _ =>
    cases hread : ofText text with
    | error e =>
      rw [hread] at h
      cases h
    | ok read =>
      have hkeys := nodup_keys_of_ofText hread
      rw [hread] at h
      obtain rfl := Except.ok.inj h
      exact hkeys

/-- A configuration that was loaded can be saved and loaded again, and only its root changes. -/
theorem load_of_save_of_load {fs₀ : FileSystem} {path₀ path' : String}
    (hload : load fs₀ path₀ = .ok c) (hsave : c.save fs path = .ok fs')
    (hplace : fs'.place path' = fs'.place path) :
    load fs' path' = .ok { c with root := Path.parent? path' } :=
  load_eq_of_save (nodup_keys_of_load hload) hsave hplace

/-- **A saved configuration is loaded as it was, with the directory of the file as its root.** The
text that is saved holds the configuration. Loading the file, under its path or under any other path
to it, gives that configuration, with the same enabled styles, and where the file lies in the
original root, with the same source roots. -/
theorem load_of_save (henv : ∀ table ∈ c.gradle.env, (table.map Prod.fst).Nodup)
    (hsave : c.save fs path = .ok fs') :
    ofText c.toText = .ok { c with root := none } ∧
    ∀ path', fs'.place path' = fs'.place path →
      ∃ loaded, load fs' path' = .ok loaded ∧
        loaded = { c with root := Path.parent? path' } ∧
        loaded.registry = c.registry ∧
        (loaded.root = c.root → loaded.resolvedSourceRoots = c.resolvedSourceRoots) := by
  refine ⟨ofText_toText henv, fun path' hplace =>
    ⟨{ c with root := Path.parent? path' }, load_eq_of_save henv hsave hplace, rfl, rfl, ?_⟩⟩
  intro hroot
  dsimp only at hroot
  rw [hroot]

/-- A configuration with an empty list of styles and two variables of the environment. -/
def noStylesSample : Config :=
  ⟨true, ["src/test/kotlin"], some [], ⟨some "gradle", none, none,
    some [("GRADLE_OPTS", "-Xmx1g"), ("CI", "")]⟩, some "elsewhere"⟩

/-- A file system with the working directory `/work` and nothing else. -/
def workFileSystem : FileSystem := ⟨[(["work"], .directory)], ["work"]⟩

/-- Saved in `/work` and loaded again by a path from there, its root is the directory it is read
from, and still no style is enabled. -/
theorem load_noStylesSample :
    ∃ fs', noStylesSample.save workFileSystem "/work/kospec.json" = .ok fs' ∧
      load fs' "./kospec.json" = .ok { noStylesSample with root := some "." } := by
  have hplace : workFileSystem.placeToWrite "/work/kospec.json" = .ok ["work", "kospec.json"] := by
    rfl
  let written :=
    workFileSystem.put ["work", "kospec.json"] (.file ⟨some noStylesSample.toText, none⟩)
  have hsave : noStylesSample.save workFileSystem "/work/kospec.json" = .ok written := by
    rw [save, FileSystem.writeText, hplace]
    rfl
  have hother : written.place "./kospec.json" = .ok ["work", "kospec.json"] := by rfl
  have henv : ∀ table ∈ noStylesSample.gradle.env, (table.map Prod.fst).Nodup := by
    simp [noStylesSample]
  obtain ⟨-, hload⟩ := load_of_save henv hsave
  obtain ⟨loaded, hloaded, rfl, -, -⟩ :=
    hload "./kospec.json" (hother.trans (FileSystem.place_put hplace).symm)
  exact ⟨written, hsave, hloaded⟩

end Config

end KotestOutline
