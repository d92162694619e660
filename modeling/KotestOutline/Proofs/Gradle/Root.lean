import KotestOutline.Gradle
import KotestOutline.Proofs.FileSystem
import Mathlib.Data.List.Induction

/-!
# Which directory is the root of a build

The directories around a path are where going to the parent leads, from the path itself if it is a
directory and from its parent otherwise. Builds may be nested in them in any way.

* `FileSystem.IsAround`: the directories around a path, said by single steps up.
* `FileSystem.find?_reverse_around_iff` and `FileSystem.find?_around_iff`: the outermost and the
  innermost of them that passes a test.
* `FileSystem.foldl_visit`: one pass over the directories meets the last one with a settings file
  and the first one with any marker.
* `FileSystem.gradleRoot?_iff`: the root is the outermost directory with a settings file; if there
  is none, the innermost one with any marker; and only if no directory has a marker there is none.
-/

namespace KotestOutline.FileSystem

open KotestOutline.Path (IsBelow)

variable {fs : FileSystem} {path d e : String} {p : String → Bool}

/-! ### Around a path -/

/-- The directory at which the way up from a path begins: the path itself if it is a directory, and
its parent otherwise. -/
def start? (fs : FileSystem) (path : String) : Option String :=
  if fs.isDirectory path then some path else Path.parent? path

/-- Whether a directory is on the way up from a path. -/
def IsAround (fs : FileSystem) (path d : String) : Prop :=
  ∃ start ∈ fs.start? path, start = d ∨ IsBelow start d

/-- The directories around a path are those from the first one upwards. -/
theorem directoriesAround_eq (fs : FileSystem) (path : String) :
    fs.directoriesAround path = (fs.start? path).elim [] Path.ancestors := by
  rw [directoriesAround, start?]
  split_ifs
  · rfl
  · exact Path.parents_eq path

/-- The computed directories are those that going to the parent reaches. -/
theorem mem_directoriesAround_iff : d ∈ fs.directoriesAround path ↔ fs.IsAround path d := by
  rw [directoriesAround_eq, IsAround]
  cases fs.start? path with
  | none => simp
  | some start => simp [Path.ancestors, Path.mem_parents_iff, eq_comm]

/-- Behind a directory come its parents. -/
theorem directoriesAround_of_append {front back : List String}
    (h : fs.directoriesAround path = front ++ d :: back) : back = Path.parents d := by
  rw [directoriesAround_eq] at h
  cases hstart : fs.start? path with
  | none => simp [hstart] at h
  | some start =>
    rw [hstart, Option.elim_some, Path.ancestors] at h
    cases front with
    | nil =>
      obtain ⟨rfl, hback⟩ := List.cons.inj h
      exact hback.symm
    | cons u front => exact Path.parents_of_append (List.cons.inj h).2

/-- The outermost directory that passes a test. -/
theorem find?_reverse_around_iff :
    (fs.directoriesAround path).reverse.find? p = some d ↔
      fs.IsAround path d ∧ p d = true ∧ ∀ e, IsBelow d e → p e = false := by
  rw [List.find?_eq_some_iff_append, ← mem_directoriesAround_iff]
  constructor
  · rintro ⟨hd, outer, inner, hsplit, houter⟩
    have hsplit' : fs.directoriesAround path = inner.reverse ++ d :: outer.reverse := by
      rw [← List.reverse_reverse (fs.directoriesAround path), hsplit]
      simp
    refine ⟨by rw [hsplit']; simp, hd, fun e he => ?_⟩
    rw [← Path.mem_parents_iff, ← directoriesAround_of_append hsplit', List.mem_reverse] at he
    simpa using houter e he
  · rintro ⟨hmem, hd, houter⟩
    obtain ⟨inner, outer, hsplit⟩ := List.append_of_mem hmem
    refine ⟨hd, outer.reverse, inner.reverse, by rw [hsplit]; simp, fun e he => ?_⟩
    rw [List.mem_reverse, directoriesAround_of_append hsplit, Path.mem_parents_iff] at he
    simp [houter e he]

/-- The innermost directory that passes a test. -/
theorem find?_around_iff :
    (fs.directoriesAround path).find? p = some d ↔
      fs.IsAround path d ∧ p d = true ∧
        ∀ e, fs.IsAround path e → IsBelow e d → p e = false := by
  rw [List.find?_eq_some_iff_append]
  simp only [← mem_directoriesAround_iff, ← Path.mem_parents_iff]
  constructor
  · rintro ⟨hd, inner, outer, hsplit, hinner⟩
    refine ⟨by rw [hsplit]; simp, hd, fun e he hbelow => ?_⟩
    rw [hsplit, List.mem_append, List.mem_cons] at he
    rcases he with he | rfl | he
    · simpa using hinner e he
    · exact absurd (Path.length_parents_lt hbelow) (Nat.lt_irrefl _)
    · rw [directoriesAround_of_append hsplit] at he
      exact absurd (Path.length_parents_lt hbelow) (Nat.lt_asymm (Path.length_parents_lt he))
  · rintro ⟨hmem, hd, hinner⟩
    obtain ⟨inner, outer, hsplit⟩ := List.append_of_mem hmem
    refine ⟨hd, inner, outer, hsplit, fun e he => ?_⟩
    obtain ⟨front, back, rfl⟩ := List.append_of_mem he
    have hsplit' : fs.directoriesAround path = front ++ e :: (back ++ d :: outer) := by
      rw [hsplit, List.append_assoc, List.cons_append]
    have hbelow : d ∈ Path.parents e := by
      rw [← directoriesAround_of_append hsplit']
      simp
    simp [hinner e (by rw [hsplit']; simp) hbelow]

/-! ### Markers -/

/-- Whether a directory holds a settings file. -/
def HasSettings (fs : FileSystem) (d : String) : Prop :=
  fs.pathExists (Path.join d "settings.gradle.kts") = true ∨
    fs.pathExists (Path.join d "settings.gradle") = true

/-- Whether a directory holds any of the five files that mark a build. -/
def HasMarker (fs : FileSystem) (d : String) : Prop :=
  fs.HasSettings d ∨ fs.pathExists (Path.join d "gradlew") = true ∨
    fs.pathExists (Path.join d "build.gradle.kts") = true ∨
    fs.pathExists (Path.join d "build.gradle") = true

/-- The search for a settings file asks for exactly the two names of one. -/
theorem holdsAny_settingsMarkers_iff : fs.holdsAny settingsMarkers d = true ↔ fs.HasSettings d := by
  simp [holdsAny, settingsMarkers, HasSettings]

/-- The search for any marker asks for exactly the five names of one. -/
theorem holdsAny_buildMarkers_iff : fs.holdsAny buildMarkers d = true ↔ fs.HasMarker d := by
  simp [holdsAny, buildMarkers, settingsMarkers, HasMarker, HasSettings, or_assoc]

/-! ### The search -/

/-- What is met on the way through some directories: of those with a settings file the last one, and
of those with any marker the first one. By induction from the end, one more visit at a time. -/
theorem foldl_visit (fs : FileSystem) (ds : List String) :
    ds.foldl (RootSearch.visit fs) ⟨none, none⟩ =
      ⟨ds.reverse.find? (fs.holdsAny settingsMarkers), ds.find? (fs.holdsAny buildMarkers)⟩ := by
  induction ds using List.reverseRecOn with
  | nil => rfl
  | append_singleton ds d ih =>
    have hnearest : (ds ++ [d]).find? (fs.holdsAny buildMarkers) =
        if (ds.find? (fs.holdsAny buildMarkers)).isNone && fs.holdsAny buildMarkers d then some d
        else ds.find? (fs.holdsAny buildMarkers) := by
      cases hfound : ds.find? (fs.holdsAny buildMarkers) <;> simp [List.find?_append, hfound]
    have hsettings : (ds ++ [d]).reverse.find? (fs.holdsAny settingsMarkers) =
        if fs.holdsAny settingsMarkers d then some d
        else ds.reverse.find? (fs.holdsAny settingsMarkers) := by
      cases hd : fs.holdsAny settingsMarkers d <;> simp [hd]
    rw [List.foldl_append, ih, hsettings, hnearest]
    rfl

/-- The root is found by two searches over the directories around the path, the first from the
outermost one and the second from the innermost one. -/
theorem gradleRoot?_eq (fs : FileSystem) (path : String) :
    fs.gradleRoot? path =
      ((fs.directoriesAround path).reverse.find? (fs.holdsAny settingsMarkers)).or
        ((fs.directoriesAround path).find? (fs.holdsAny buildMarkers)) := by
  rw [gradleRoot?, foldl_visit]

/-- **The root of a build.** It is the outermost directory around the path that holds a settings
file; where there is none, it is the innermost one that holds any marker; and there is no root just
if no directory around the path holds a marker. -/
theorem gradleRoot?_iff (fs : FileSystem) (path : String) :
    (∀ d, fs.gradleRoot? path = some d ↔
      (fs.IsAround path d ∧ fs.HasSettings d ∧ ∀ e, IsBelow d e → ¬ fs.HasSettings e) ∨
      ((∀ e, fs.IsAround path e → ¬ fs.HasSettings e) ∧
        fs.IsAround path d ∧ fs.HasMarker d ∧
          ∀ e, fs.IsAround path e → IsBelow e d → ¬ fs.HasMarker e)) ∧
    (fs.gradleRoot? path = none ↔ ∀ d, fs.IsAround path d → ¬ fs.HasMarker d) := by
  have houtermost : ∀ d, (fs.directoriesAround path).reverse.find? (fs.holdsAny settingsMarkers) =
      some d ↔ fs.IsAround path d ∧ fs.HasSettings d ∧ ∀ e, IsBelow d e → ¬ fs.HasSettings e := by
    intro d
    simp only [find?_reverse_around_iff, ← Bool.not_eq_true, holdsAny_settingsMarkers_iff]
  have hinnermost : ∀ d, (fs.directoriesAround path).find? (fs.holdsAny buildMarkers) = some d ↔
      fs.IsAround path d ∧ fs.HasMarker d ∧
        ∀ e, fs.IsAround path e → IsBelow e d → ¬ fs.HasMarker e := by
    intro d
    simp only [find?_around_iff, ← Bool.not_eq_true, holdsAny_buildMarkers_iff]
  have hnone : (fs.directoriesAround path).reverse.find? (fs.holdsAny settingsMarkers) = none ↔
      ∀ e, fs.IsAround path e → ¬ fs.HasSettings e := by
    simp [List.find?_eq_none, mem_directoriesAround_iff, ← holdsAny_settingsMarkers_iff]
  have hnone' : (fs.directoriesAround path).find? (fs.holdsAny buildMarkers) = none ↔
      ∀ e, fs.IsAround path e → ¬ fs.HasMarker e := by
    simp [List.find?_eq_none, mem_directoriesAround_iff, ← holdsAny_buildMarkers_iff]
  rw [gradleRoot?_eq]
  constructor
  · intro d
    rw [Option.or_eq_some_iff, houtermost, hnone, hinnermost]
  · rw [Option.or_eq_none_iff, hnone, hnone']
    -- a settings file is a marker
    exact ⟨fun h => h.2, fun h => ⟨fun d hd hsettings => h d hd (.inl hsettings), h⟩⟩

end KotestOutline.FileSystem
