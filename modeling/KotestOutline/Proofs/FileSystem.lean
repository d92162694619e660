import KotestOutline.FileSystem
import KotestOutline.Proofs.Text.Affix
import Mathlib.Data.List.Basic
import Mathlib.Logic.Relation

/-!
# Paths and written files

The parents of a path, and what writing a file changes.
-/

namespace KotestOutline

/-!
## The way up from a path

The parents of a path are computed in one pass over its segments. They are the same as going to the
parent again and again, each time from the text of the path that was reached: what is void at the
end of a path is left out, and what is left begins with a slash just if the path did.

* `Path.parents_eq`: the parents of a path are its parent and the parents of that.
* `Path.mem_parents_iff`: they are what going to the parent reaches, and `Path.parents_of_append`
  says that each comes before its own parents.
-/

namespace Path

variable {absolute : Bool} {segment : List Char} {r before : List (List Char)}
  {path p q : String}

/-! ### Reversed segments -/

/-- Leaving out the void segments at the end of a path leaves a first part of the path. -/
theorem dropVoid_suffix (absolute : Bool) (r : List (List Char)) : dropVoid absolute r <:+ r := by
  induction r with
  | nil => exact List.suffix_refl []
  | cons s before ih =>
    rw [dropVoid]
    split_ifs
    · exact ih.trans (List.suffix_cons s before)
    · exact List.suffix_refl _

/-- Void segments at the end of a path do not count on the way up. -/
theorem upward_dropVoid (absolute : Bool) (r : List (List Char)) :
    upward absolute (dropVoid absolute r) = upward absolute r := by
  induction r with
  | nil => rfl
  | cons s before ih =>
    rw [dropVoid, upward]
    split_ifs with hvoid
    · exact ih
    · rw [upward, if_neg hvoid]

/-- The nearest parent is what remains in front of the last component, and the others are the
parents of that. -/
theorem exists_of_upward_eq_cons {rest : List (List (List Char))}
    (h : upward absolute r = before :: rest) : before <:+ r ∧ rest = upward absolute before := by
  induction r with
  | nil => cases h
  | cons s r ih =>
    rw [upward] at h
    split_ifs at h with hvoid
    · obtain ⟨hsuffix, hrest⟩ := ih h
      exact ⟨hsuffix.trans (List.suffix_cons s r), hrest⟩
    · obtain ⟨rfl, rfl⟩ := List.cons.inj h
      exact ⟨(dropVoid_suffix absolute r).trans (List.suffix_cons s r),
        (upward_dropVoid absolute r).symm⟩

/-- Whether reversed segments are those of a text that begins with no slash, where the path is not
absolute. -/
structure IsBody (absolute : Bool) (r : List (List Char)) : Prop where
  noSlash : ∀ s ∈ r, '/' ∉ s
  first : absolute = false → ∀ s ∈ r.getLast?, s ≠ []

/-- A first part of the segments of a text is the segments of a text itself. -/
theorem IsBody.of_suffix (h : IsBody absolute r) (hsuffix : before <:+ r) :
    IsBody absolute before where
  noSlash := fun s hs => h.noSlash s (hsuffix.subset hs)
  first := by
    intro hrelative s hs
    obtain ⟨behind, rfl⟩ := hsuffix
    apply h.first hrelative
    rw [List.getLast?_append, Option.mem_def.1 hs, Option.some_or]
    rfl

/-! ### Texts -/

/-- Writing the segments out and cutting the text again does not change the way up, although the
empty path is cut into one empty segment. -/
theorem upward_segments (h : ∀ s ∈ r, '/' ∉ s) :
    upward absolute (segments '/' (List.intercalate ['/'] r.reverse)).reverse =
      upward absolute r := by
  by_cases hr : r = []
  · subst hr
    rfl
  · rw [segments_intercalate (by simpa using hr) (by simpa using h), List.reverse_reverse]

/-- A path begins with a slash after it was written out just if it did before. -/
theorem isAbsolute_render (h : IsBody absolute r) : isAbsolute (render absolute r) = absolute := by
  cases absolute with
  | true => simp [isAbsolute, render]
  | false =>
    have hfirst : ∀ s ∈ r.reverse.head?, s ≠ [] := fun s hs =>
      h.first rfl s (by rwa [List.head?_reverse] at hs)
    have hslash : ∀ s ∈ r.reverse, '/' ∉ s := by simpa using h.noSlash
    simp only [isAbsolute, render, Bool.false_eq_true, if_false, String.empty_append,
      String.toList_ofList, beq_eq_false_iff_ne]
    cases hr : r.reverse with
    | nil => simp
    | cons s ss =>
      rw [hr] at hfirst hslash
      obtain ⟨c, cs, rfl⟩ := List.exists_cons_of_ne_nil (hfirst s rfl)
      have hc : c ≠ '/' := fun heq => hslash (c :: cs) List.mem_cons_self (by simp [heq])
      cases ss <;> simpa using hc

/-- The parents of a path that is put together from its segments. -/
theorem IsBody.parents_render (h : IsBody absolute r) :
    parents (render absolute r) = (upward absolute r).map (render absolute) := by
  rw [parents, isAbsolute_render h, ← upward_segments h.noSlash]
  cases absolute <;> simp [render]

/-- The reversed segments of a path. -/
def body (path : String) : List (List Char) :=
  (segments '/' (if isAbsolute path then path.toList.drop 1 else path.toList)).reverse

/-- The parents of a path are the way up over its segments, each written out as a path. -/
theorem parents_eq_upward (path : String) :
    parents path = (upward (isAbsolute path) (body path)).map (render (isAbsolute path)) := rfl

/-- The segments of a path that is not empty are those of a text of its kind. -/
theorem isBody_body (hpath : path ≠ "") : IsBody (isAbsolute path) (body path) where
  noSlash := fun s hs => not_mem_of_mem_segments (List.mem_reverse.1 hs)
  first := by
    intro hrelative s hs
    obtain ⟨c, cs, hcs⟩ := List.exists_cons_of_ne_nil (String.toList_eq_nil_iff.not.2 hpath)
    have hc : c ≠ '/' := by simpa [isAbsolute, hcs] using hrelative
    obtain ⟨t, ts, hts⟩ := exists_segments '/' cs
    rw [body, hrelative, hcs, List.getLast?_reverse] at hs
    simp only [Bool.false_eq_true, if_false, segments, hts, if_neg hc, List.head?_cons,
      Option.mem_def, Option.some.injEq] at hs
    rw [← hs]
    exact List.cons_ne_nil c t

/-- The parents of a path are its parent and the parents of that. -/
theorem parents_eq (path : String) : parents path = (parent? path).elim [] ancestors := by
  by_cases hpath : path = ""
  · subst hpath
    rfl
  have hparents := parents_eq_upward path
  cases hup : upward (isAbsolute path) (body path) with
  | nil =>
    rw [hup] at hparents
    rw [parent?, hparents]
    rfl
  | cons before rest =>
    obtain ⟨hsuffix, hrest⟩ := exists_of_upward_eq_cons hup
    rw [hup] at hparents
    rw [parent?, hparents, List.map_cons, List.head?_cons, Option.elim_some, ancestors,
      ((isBody_body hpath).of_suffix hsuffix).parents_render, hrest]

/-! ### The way up -/

/-- Whether the second path is the parent of the first. -/
def IsIn (p q : String) : Prop := parent? p = some q

/-- Whether going to the parent leads from the first path to the second. -/
def IsBelow (p q : String) : Prop := Relation.TransGen IsIn p q

/-- One step up takes the nearest parent off the parents. -/
theorem parents_of_isIn (h : IsIn p q) : parents p = q :: parents q := by
  rw [parents_eq, h]
  rfl

/-- Behind a parent come its own parents. By induction on what is in front of it. -/
theorem parents_of_append {front back : List String} (h : parents p = front ++ q :: back) :
    back = parents q := by
  induction front generalizing p with
  | nil =>
    have hq : IsIn p q := by rw [IsIn, parent?, h, List.nil_append, List.head?_cons]
    rw [parents_of_isIn hq, List.nil_append] at h
    exact (List.cons.inj h).2.symm
  | cons u front ih =>
    have hu : IsIn p u := by rw [IsIn, parent?, h, List.cons_append, List.head?_cons]
    rw [parents_of_isIn hu, List.cons_append] at h
    exact ih (List.cons.inj h).2

/-- The parents are what going to the parent reaches. -/
theorem mem_parents_iff : q ∈ parents p ↔ IsBelow p q := by
  constructor
  · intro h
    obtain ⟨front, back, hsplit⟩ := List.append_of_mem h
    clear h
    induction front generalizing p with
    | nil =>
      apply Relation.TransGen.single
      rw [IsIn, parent?, hsplit, List.nil_append, List.head?_cons]
    | cons u front ih =>
      have hu : IsIn p u := by rw [IsIn, parent?, hsplit, List.cons_append, List.head?_cons]
      rw [parents_of_isIn hu, List.cons_append] at hsplit
      exact Relation.TransGen.head hu (ih (List.cons.inj hsplit).2)
  · intro h
    induction h using Relation.TransGen.head_induction_on with
    | single h =>
      rw [parents_of_isIn h]
      exact List.mem_cons_self
    | head h _ ih =>
      rw [parents_of_isIn h]
      exact List.mem_cons_of_mem _ ih

/-- Each step up leaves fewer parents, so the way up ends. -/
theorem length_parents_lt (h : q ∈ parents p) : (parents q).length < (parents p).length := by
  obtain ⟨front, back, hsplit⟩ := List.append_of_mem h
  rw [hsplit, ← parents_of_append hsplit, List.length_append, List.length_cons]
  omega

end Path

/-!
## Files that are written

A file is written at a place that is no directory. So writing moves nothing that a path goes
through: a walk that succeeds leads to the same place afterwards, and the path of the file leads to
the file itself.

* `FileSystem.entry?_put` and `FileSystem.entry?_put_of_ne`: what is there after writing.
* `FileSystem.step_put` and `FileSystem.walk_put`: paths that lead somewhere still lead there.
* `FileSystem.readText_of_writeText`: the text that is written is the text that is read.
-/

namespace FileSystem

variable {fs fs' : FileSystem} {e : Entry} {directory next other target : List String}
  {path path' segment text : String}

/-! ### Entries -/

/-- What was written is found where it was written. -/
theorem entry?_put (h : target ≠ []) : entry? (fs.put target e) target = some e := by
  simp [put, entry?, h]

/-- Writing changes one place only. -/
theorem entry?_put_of_ne (h : other ≠ target) :
    entry? (fs.put target e) other = fs.entry? other := by
  by_cases hroot : other = []
  · simp [hroot, entry?]
  · simp only [put, entry?, List.isEmpty_iff, hroot, if_false, List.find?_cons, List.find?_filter,
      beq_false_of_ne (Ne.symm h)]
    congr 2
    funext p
    by_cases hp : p.1 = other <;> simp [hp, h]

/-- Writing a file removes nothing from the file system. -/
theorem isSome_entry?_put (h : (fs.entry? other).isSome = true) :
    Option.isSome ( entry? (fs.put target e) other) = true := by
  by_cases hother : other = target
  · subst hother
    by_cases hroot : other = []
    · simp [hroot, entry?]
    · rw [entry?_put hroot, Option.isSome_some]
  · rwa [entry?_put_of_ne hother]

/-! ### Steps -/

/-- Only a directory can be left. -/
theorem entry?_of_step (h : fs.step directory segment = .ok next) :
    fs.entry? directory = some .directory := by
  rw [step] at h
  split at h
  · cases h
  · cases h
  · assumption

/-- One step of a walk from a directory, by the kind of the segment. -/
theorem step_of_directory (h : fs.entry? directory = some .directory) (segment : String) :
    fs.step directory segment =
      if isHere segment then .ok directory
      else if isAbove segment then .ok directory.dropLast
      else if isLongName segment then .error .nameTooLong
      else if (fs.entry? (directory ++ [segment])).isSome then .ok (directory ++ [segment])
      else .error .notFound := by
  rw [step, h]

/-- A step leads to the same place after a write at a place that is no directory. -/
theorem step_put (hfile : fs.entry? target ≠ some .directory)
    (h : fs.step directory segment = .ok next) :
    (fs.put target e).step directory segment = .ok next := by
  have hdirectory := entry?_of_step h
  have hne : directory ≠ target := by
    rintro rfl
    exact hfile hdirectory
  rw [step_of_directory hdirectory] at h
  rw [step_of_directory ((entry?_put_of_ne hne).trans hdirectory)]
  split_ifs at h with hhere habove hlong hnext
  · rwa [if_pos hhere]
  · rwa [if_neg hhere, if_pos habove]
  · rwa [if_neg hhere, if_neg habove, if_neg hlong, if_pos (isSome_entry?_put hnext)]

/-- So does a walk, step by step. -/
theorem walk_put (hfile : fs.entry? target ≠ some .directory) {further : List String}
    (h : fs.walk directory further = .ok next) :
    (fs.put target e).walk directory further = .ok next := by
  induction further generalizing directory with
  | nil => exact h
  | cons segment further ih =>
    rw [walk, List.foldlM_cons] at h
    cases hstep : fs.step directory segment with
    | error cause =>
      rw [hstep] at h
      cases h
    | ok there =>
      rw [hstep] at h
      rw [walk, List.foldlM_cons, step_put hfile hstep]
      exact ih h

/-- A walk that reached a directory goes on by one step. -/
theorem walk_append_singleton {start : List String} {front : List String}
    (h : fs.walk start front = .ok directory) (name : String) :
    fs.walk start (front ++ [name]) = fs.step directory name := by
  rw [walk, List.foldlM_append]
  show (fs.walk start front >>= fun there => fs.walk there [name]) = _
  rw [h]
  exact bind_pure (fs.step directory name)

/-! ### Writing -/

/-- Of two actions that succeed one after the other, the first one succeeds. -/
theorem exists_of_bind_eq_ok {ε α β : Type} {x : Except ε α} {f : α → Except ε β} {b : β}
    (h : x >>= f = .ok b) : ∃ a, x = .ok a ∧ f a = .ok b := by
  cases x with
  | error cause => cases h
  | ok a => exact ⟨a, rfl, h⟩

/-- A list keeps its length only if nothing is dropped. -/
theorem dropWhile_eq_self_of_length_le {α : Type} {p : α → Bool} {xs : List α}
    (h : xs.length ≤ (xs.dropWhile p).length) : xs.dropWhile p = xs :=
  (List.dropWhile_suffix p).eq_of_length_le h

/-- A file can be written where the names in front of the last one lead to a directory, and the last
one is a name that no directory there has. -/
theorem exists_of_placeToWrite (h : fs.placeToWrite path = .ok target) :
    ∃ front name directory, shortSegmentsOf path = .ok (front ++ [name]) ∧
      fs.walk (fs.origin path) front = .ok directory ∧
      fs.entry? directory = some .directory ∧
      isHere name = false ∧ isAbove name = false ∧ isLongName name = false ∧
      fs.entry? target ≠ some .directory ∧ target = directory ++ [name] := by
  obtain ⟨all, hall, h⟩ := exists_of_bind_eq_ok h
  obtain ⟨directory, hwalk, h⟩ := exists_of_bind_eq_ok h
  obtain ⟨_, hstay, h⟩ := exists_of_bind_eq_ok h
  split_ifs at h with hdots hlong
  simp only [Bool.or_eq_true, decide_eq_true_eq, not_or, Bool.not_eq_true, Nat.not_lt] at hdots
  obtain ⟨⟨hhere, habove⟩, hlength⟩ := hdots
  have hnamed : (all.reverse.dropWhile (·.isEmpty)).reverse = all := by
    rw [dropWhile_eq_self_of_length_le (by simpa using hlength), List.reverse_reverse]
  rw [hnamed] at hwalk hhere habove hlong h
  have hne : all ≠ [] := by
    rintro rfl
    cases hhere
  have hlast : all.dropLast ++ [all.getLastD ""] = all := by
    rw [List.getLastD_eq_getLast?, List.getLast?_eq_some_getLast hne]
    exact List.dropLast_append_getLast hne
  refine ⟨all.dropLast, all.getLastD "", directory, hlast.symm ▸ hall, hwalk, entry?_of_step hstay,
    hhere, habove, by simpa using hlong, ?_⟩
  split at h
  · cases h
  next hfile =>
    cases h
    exact ⟨hfile, rfl⟩

/-- What is written is found under its path. -/
theorem place_put (h : fs.placeToWrite path = .ok target) :
    (fs.put target e).place path = .ok target := by
  obtain ⟨front, name, directory, hsegments, hwalk, hdirectory, hhere, habove, hlong, hfile, rfl⟩ :=
    exists_of_placeToWrite h
  have hne : directory ≠ directory ++ [name] := by simp
  have hname : (fs.put (directory ++ [name]) e).step directory name =
      .ok (directory ++ [name]) := by
    rw [step_of_directory ((entry?_put_of_ne hne).trans hdirectory)]
    simp [hhere, habove, hlong, entry?_put]
  have hplace : (fs.put (directory ++ [name]) e).place path =
      (fs.put (directory ++ [name]) e).walk (fs.origin path) (front ++ [name]) := by
    rw [place, hsegments]
    rfl
  rw [hplace, walk_append_singleton (walk_put hfile hwalk), hname]

/-- A path that leads to a file with a text reads as that text. -/
theorem readText_of_place {place : List String} {cst : Option Cst}
    (hplace : fs.place path = .ok place)
    (hentry : fs.entry? place = some (.file ⟨some text, cst⟩)) : fs.readText path = .ok text := by
  have hcontent : fs.content path = .ok ⟨some text, cst⟩ := by
    simp only [content, hplace, bind, Except.bind, hentry]
  simp only [readText, hcontent, bind, Except.bind]

/-- **A written text is read back**, at every path that leads to the file. -/
theorem readText_of_writeText (h : fs.writeText path text = .ok fs')
    (hplace : fs'.place path' = fs'.place path) : fs'.readText path' = .ok text := by
  rw [writeText] at h
  cases htarget : fs.placeToWrite path with
  | error cause =>
    rw [htarget] at h
    cases h
  | ok target =>
    rw [htarget] at h
    cases h
    obtain ⟨_, _, _, -, -, -, -, -, -, -, rfl⟩ := exists_of_placeToWrite htarget
    exact readText_of_place (hplace.trans (place_put htarget)) (entry?_put (by simp))

end FileSystem

end KotestOutline
