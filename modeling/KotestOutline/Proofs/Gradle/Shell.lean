import KotestOutline.Gradle
import Mathlib.Data.List.Basic
import Mathlib.Data.List.Forall2
import Mathlib.Tactic.SplitIfs

/-!
# Shell lines

How a shell cuts a line into words, and what quoted words become.
-/

namespace KotestOutline

/-!
## The words of a shell line

How a shell splits a line into words, by the rules that a line of quoted words needs: blanks
separate words, single quotes keep everything up to the next one, and a backslash keeps the
character behind it.

* `Shell.Reader` reads a line character by character. What it makes of a piece of a line does not
  depend on the words before it (`Shell.IsWordOf`).
* `Shell.isWordOf_shellQuote`: a quoted word is read as the word.
* `Shell.words?_intercalate`: pieces that are read as words, joined by blanks, are read as the list
  of these words.
-/

namespace Shell

/-! ### Words -/

/-- A character of a word, and whether quoting takes any special meaning from it. -/
structure Letter where
  char : Char
  quoted : Bool
  deriving DecidableEq

/-- A word of a line as it is read. -/
abbrev Word := List Letter

/-- What a word stands for once its quotes are removed. -/
def Word.text (w : Word) : String := .ofList (w.map Letter.char)

/-- Whether a character may mean something else than itself, where it is not quoted: it may end a
command, redirect it, start an expansion, a pattern, a comment or a group, or quote what follows. -/
def isSpecial (c : Char) : Bool :=
  "\n\"$\x60;&|<>()*?[#~!\x7b\x7d".toList.contains c

/-- Whether a word stands for its own characters. -/
def Word.IsLiteral (w : Word) : Prop := ∀ l ∈ w, l.quoted = true ∨ isSpecial l.char = false

instance (w : Word) : Decidable w.IsLiteral :=
  inferInstanceAs (Decidable (∀ l ∈ w, l.quoted = true ∨ isSpecial l.char = false))

/-! ### Reading -/

/-- Which quotes a reader is in. -/
inductive Quoting where
  | plain
  /-- Behind a backslash. -/
  | escape
  /-- Between single quotes. -/
  | single
  deriving DecidableEq

/-- What a reader knows in the middle of a line. -/
structure Reader where
  /-- The words that have ended. -/
  done : List Word
  /-- The word that has begun, if one has. -/
  current : Option Word
  quoting : Quoting

namespace Reader

/-- Before a line. -/
def start : Reader := ⟨[], none, .plain⟩

/-- Goes on with the current word, or begins one. -/
def add (r : Reader) (w : Word) : Reader := { r with current := some (r.current.getD [] ++ w) }

/-- Ends the current word, if there is one. -/
def finish (r : Reader) : Reader := { r with done := r.done ++ r.current.toList, current := none }

/-- Reads one character. A line feed behind a backslash is no part of the line. -/
def step (r : Reader) (c : Char) : Reader :=
  match r.quoting with
  | .plain =>
    if c = ' ' ∨ c = '\t' then r.finish
    else if c = '\'' then { r.add [] with quoting := .single }
    else if c = '\\' then { r with quoting := .escape }
    else r.add [⟨c, false⟩]
  | .escape =>
    if c = '\n' then { r with quoting := .plain }
    else { r.add [⟨c, true⟩] with quoting := .plain }
  | .single => if c = '\'' then { r with quoting := .plain } else r.add [⟨c, true⟩]

/-- Reads a piece of a line. -/
def run (r : Reader) (cs : List Char) : Reader := cs.foldl step r

/-- A reader that reads nothing stays as it is. -/
@[simp] theorem run_nil (r : Reader) : r.run [] = r := rfl

/-- Reading goes on from what the first character leaves. -/
@[simp] theorem run_cons (r : Reader) (c : Char) (cs : List Char) :
    r.run (c :: cs) = (r.step c).run cs := rfl

/-- A line is read one part after the other. -/
theorem run_append (r : Reader) (cs ds : List Char) : r.run (cs ++ ds) = (r.run cs).run ds := by
  simp [run]

/-- Letters are added to the open word in their order. -/
@[simp] theorem add_add (r : Reader) (v w : Word) : (r.add v).add w = r.add (v ++ w) := by
  simp [add]

end Reader

/-- The words of a line; none when a quote is not closed or nothing follows a backslash. -/
def words? (line : String) : Option (List Word) :=
  let r := Reader.start.run line.toList
  if r.quoting = .plain then some r.finish.done else none

/-! ### Pieces of a line -/

/-- Whether a reader outside quotes takes a piece of a line for a word, or for the next part of
one. -/
def IsWordOf (piece : List Char) (w : Word) : Prop :=
  ∀ r : Reader, r.quoting = .plain → r.run piece = r.add w

/-- Two pieces of a word in a row make one word of their letters. -/
theorem IsWordOf.append {piece piece' : List Char} {v w : Word} (h : IsWordOf piece v)
    (h' : IsWordOf piece' w) : IsWordOf (piece ++ piece') (v ++ w) := by
  intro r hr
  rw [Reader.run_append, h r hr, h' (r.add v) hr, Reader.add_add]

/-- Whether a character outside quotes is part of a word and quotes nothing. -/
def isOrdinary (c : Char) : Bool := !" \t'\\".toList.contains c

/-- Outside quotes an ordinary character is a letter of the open word. -/
theorem Reader.step_of_isOrdinary {r : Reader} {c : Char} (hr : r.quoting = .plain)
    (hc : isOrdinary c = true) : r.step c = r.add [⟨c, false⟩] := by
  have hne : c ≠ ' ' ∧ c ≠ '\t' ∧ c ≠ '\'' ∧ c ≠ '\\' := by
    simpa [isOrdinary] using hc
  simp [step, hr, hne]

/-- Ordinary characters are the letters of a word. -/
theorem isWordOf_of_isOrdinary {cs : List Char} (hne : cs ≠ [])
    (h : ∀ c ∈ cs, isOrdinary c = true) : IsWordOf cs (cs.map (⟨·, false⟩)) := by
  induction cs with
  | nil => exact absurd rfl hne
  | cons c cs ih =>
    intro r hr
    have hstep := Reader.step_of_isOrdinary hr (h c List.mem_cons_self)
    by_cases hcs : cs = []
    · subst hcs
      exact hstep
    · have hrest := ih hcs fun d hd => h d (List.mem_cons_of_mem c hd)
      rw [Reader.run_cons, hstep, hrest (r.add [⟨c, false⟩]) hr, Reader.add_add]
      rfl

/-- What stands between single quotes, up to the closing one, is quoted. A quote in it closes them,
stands behind a backslash, and opens them again. -/
theorem Reader.run_single (cs : List Char) {r : Reader} (hr : r.quoting = .plain) (w : Word) :
    Reader.run { r.add w with quoting := .single }
        (cs.flatMap (fun c => if c = '\'' then ['\'', '\\', '\'', '\''] else [c]) ++ ['\'']) =
      r.add (w ++ cs.map (⟨·, true⟩)) := by
  obtain ⟨done, current, quoting⟩ := r
  obtain rfl : quoting = .plain := hr
  induction cs generalizing w with
  | nil => simp [step, add]
  | cons c cs ih =>
    have hrest := ih (w ++ [⟨c, true⟩])
    simp only [List.append_assoc, List.singleton_append] at hrest
    by_cases hc : c = '\''
    · subst hc
      simpa [step, add] using hrest
    · simpa [step, add, hc] using hrest

/-! ### Quoted words -/

/-- Whether a word is written as it is, without quotes. -/
def isWrittenPlain (word : String) : Bool := !word.toList.isEmpty && word.toList.all isPlainInShell

/-- The letters as which a quoted word is read. -/
def lettersOf (word : String) : Word := word.toList.map (⟨·, !isWrittenPlain word⟩)

/-- The letters of a text are its text again. -/
theorem text_lettersOf (word : String) : (lettersOf word).text = word := by
  have hchars : (lettersOf word).map Letter.char = word.toList := by
    rw [lettersOf, List.map_map]
    exact List.map_id _
  rw [Word.text, hchars, String.ofList_toList]

/-- The letters of a list of texts are the texts again. -/
theorem map_text_lettersOf (words : List String) :
    (words.map lettersOf).map Word.text = words := by
  rw [List.map_map]
  exact (List.map_congr_left fun word _ => text_lettersOf word).trans (List.map_id _)

/-- A plain character is in no list of characters that are not plain. -/
theorem contains_eq_false_of_isPlainInShell {c : Char} {ds : List Char}
    (hds : ∀ d ∈ ds, isPlainInShell d = false) (h : isPlainInShell c = true) :
    ds.contains c = false := by
  rw [List.contains_eq_mem, decide_eq_false_iff_not]
  intro hc
  rw [hds c hc] at h
  exact Bool.false_ne_true h

/-- A character that is left without quotes is none at which a word of a shell ends or a quote
begins. -/
theorem isOrdinary_of_isPlainInShell {c : Char} (h : isPlainInShell c = true) :
    isOrdinary c = true := by
  have hplain : ∀ d ∈ " \t'\\".toList, isPlainInShell d = false := by
    simp [isPlainInShell]
  unfold isOrdinary
  rw [contains_eq_false_of_isPlainInShell hplain h]
  rfl

/-- A character that is left without quotes has no meaning of its own to a shell. -/
theorem isSpecial_of_isPlainInShell {c : Char} (h : isPlainInShell c = true) :
    isSpecial c = false := by
  apply contains_eq_false_of_isPlainInShell _ h
  simp [isPlainInShell]

/-- A word that is left without quotes consists of plain characters. -/
theorem isPlainInShell_of_isWrittenPlain {word : String} (h : isWrittenPlain word = true) :
    ∀ c ∈ word.toList, isPlainInShell c = true := by
  simp only [isWrittenPlain, Bool.and_eq_true, List.all_eq_true] at h
  exact h.2

/-- A quoted word has no letter that means something else. -/
theorem isLiteral_lettersOf (word : String) : (lettersOf word).IsLiteral := by
  intro l hl
  obtain ⟨c, hc, rfl⟩ := List.mem_map.1 hl
  by_cases hplain : isWrittenPlain word = true
  · right
    exact isSpecial_of_isPlainInShell (isPlainInShell_of_isWrittenPlain hplain c hc)
  · left
    simpa using hplain

/-- A word of plain characters is written as it stands. -/
theorem shellQuote_of_isWrittenPlain {word : String} (h : isWrittenPlain word = true) :
    shellQuote word = word := by
  unfold isWrittenPlain at h
  simp only [shellQuote, h, if_true]

/-- Any other word is written between single quotes, with each quote of its own outside of them. -/
theorem toList_shellQuote_of_not_isWrittenPlain {word : String}
    (h : ¬ isWrittenPlain word = true) :
    (shellQuote word).toList = '\'' ::
      (word.toList.flatMap (fun c => if c = '\'' then ['\'', '\\', '\'', '\''] else [c]) ++
        ['\'']) := by
  unfold isWrittenPlain at h
  simp only [shellQuote, h, if_false, Bool.false_eq_true, String.toList_ofList, List.cons_append]

/-- **A quoted word is read as the word**, whatever characters it has. -/
theorem isWordOf_shellQuote (word : String) :
    IsWordOf (shellQuote word).toList (lettersOf word) := by
  by_cases hplain : isWrittenPlain word = true
  · have hall := isPlainInShell_of_isWrittenPlain hplain
    rw [shellQuote_of_isWrittenPlain hplain, lettersOf, hplain]
    simp only [isWrittenPlain, Bool.and_eq_true, Bool.not_eq_true',
      List.isEmpty_eq_false_iff] at hplain
    apply isWordOf_of_isOrdinary hplain.1
    intro c hc
    exact isOrdinary_of_isPlainInShell (hall c hc)
  · intro r hr
    have hopen : r.step '\'' = { r.add [] with quoting := .single } := by
      simp [Reader.step, hr]
    rw [toList_shellQuote_of_not_isWrittenPlain hplain, Reader.run_cons, hopen,
      Reader.run_single word.toList hr, lettersOf]
    simp [hplain]

/-! ### Lines of words -/

/-- From between two words, a line of pieces that are read as words is read as these words. -/
theorem run_intercalate {pieces : List String} {ws : List Word}
    (h : List.Forall₂ (fun piece w => IsWordOf piece.toList w) pieces ws) (done : List Word) :
    (Reader.run ⟨done, none, .plain⟩ (" ".intercalate pieces).toList).quoting = .plain ∧
      (Reader.run ⟨done, none, .plain⟩ (" ".intercalate pieces).toList).finish.done =
        done ++ ws := by
  induction h generalizing done with
  | nil => simp [Reader.finish]
  | @cons piece w pieces ws hpiece hrest ih =>
    have hword : Reader.run ⟨done, none, .plain⟩ piece.toList = ⟨done, some w, .plain⟩ := by
      rw [hpiece _ rfl]
      simp [Reader.add]
    by_cases hlast : pieces = []
    · subst hlast
      obtain rfl := List.forall₂_nil_left_iff.1 hrest
      simp [hword, Reader.finish]
    · have hblank : Reader.step ⟨done, some w, .plain⟩ ' ' = ⟨done ++ [w], none, .plain⟩ := by
        simp [Reader.step, Reader.finish]
      rw [String.intercalate_cons_of_ne_nil hlast, String.toList_append, String.toList_append,
        Reader.run_append, Reader.run_append, hword]
      simp only [String.reduceToList, Reader.run_cons, Reader.run_nil, hblank]
      simpa using ih (done ++ [w])

/-- Pieces that are read as words, joined by blanks, are read as the list of these words. -/
theorem words?_intercalate {pieces : List String} {ws : List Word}
    (h : List.Forall₂ (fun piece w => IsWordOf piece.toList w) pieces ws) :
    words? (" ".intercalate pieces) = some ws := by
  obtain ⟨hplain, hdone⟩ := run_intercalate h []
  unfold words?
  rw [Reader.start]
  simp only [hplain, hdone, if_true, List.nil_append]

end Shell

/-!
## Quoted words

A shell undoes the quoting of words: a line of quoted words is read as the list of the words, and no
character of the line means anything but itself.

* `Shell.segments?` cuts a piece of a line by how its characters are quoted, and
  `Shell.Segment.IsInert` is a segment that a shell takes for nothing but characters of a word.
* `Shell.exists_segments_shellQuote`: a quoted word is inert segments.
* `Shell.words?_map_shellQuote`: the words come back.
-/

namespace Shell

/-! ### Segments -/

/-- A stretch of a line by how it is quoted. -/
inductive Segment where
  /-- A character outside quotes. -/
  | bare (c : Char)
  /-- A backslash and the character behind it. -/
  | escaped (c : Char)
  /-- What stands between two single quotes. -/
  | single (text : List Char)

/-- The segments of what is left of a line. `text` is what stands behind an open quote so far. None
when a quote is not closed or nothing follows a backslash. -/
def segmentsFrom? : Quoting → List Char → List Char → Option (List Segment)
  | .plain, _, [] => some []
  | _, _, [] => none
  | .plain, _, c :: cs =>
    if c = '\'' then segmentsFrom? .single [] cs
    else if c = '\\' then segmentsFrom? .escape [] cs
    else (segmentsFrom? .plain [] cs).map (.bare c :: ·)
  | .escape, _, c :: cs => (segmentsFrom? .plain [] cs).map (.escaped c :: ·)
  | .single, text, c :: cs =>
    if c = '\'' then (segmentsFrom? .plain [] cs).map (.single text :: ·)
    else segmentsFrom? .single (text ++ [c]) cs

/-- The segments of a piece of a line. -/
def segments? (piece : String) : Option (List Segment) := segmentsFrom? .plain [] piece.toList

namespace Segment

/-- The letters that a segment adds to a word. -/
def letters : Segment → Word
  | bare c => [⟨c, false⟩]
  | escaped c => [⟨c, true⟩]
  | single text => text.map (⟨·, true⟩)

/-- Whether a segment can be nothing but part of a word: it is quoted, or a quote behind a
backslash, or a character that neither ends a word nor quotes anything nor means something else. -/
def IsInert : Segment → Prop
  | bare c => isOrdinary c = true ∧ isSpecial c = false
  | escaped c => c = '\''
  | single _ => True

/-- The letters of inert segments mean themselves. -/
theorem isLiteral_letters {segments : List Segment} (h : ∀ s ∈ segments, s.IsInert) :
    Word.IsLiteral (segments.flatMap letters) := by
  intro l hl
  obtain ⟨s, hs, hl⟩ := List.mem_flatMap.1 hl
  have hinert := h s hs
  cases s with
  | bare c =>
    obtain rfl := List.mem_singleton.1 hl
    exact Or.inr hinert.2
  | escaped c =>
    obtain rfl := List.mem_singleton.1 hl
    exact Or.inl rfl
  | single text =>
    obtain ⟨c, -, rfl⟩ := List.mem_map.1 hl
    exact Or.inl rfl

end Segment

/-! ### Quoted words -/

/-- Plain characters stand outside quotes and are inert. -/
theorem segmentsFrom?_of_isPlainInShell {cs : List Char} (h : ∀ c ∈ cs, isPlainInShell c = true) :
    segmentsFrom? .plain [] cs = some (cs.map .bare) := by
  induction cs with
  | nil => rfl
  | cons c cs ih =>
    obtain ⟨hc, hcs⟩ := List.forall_mem_cons.1 h
    have hne : c ≠ ' ' ∧ c ≠ '\t' ∧ c ≠ '\'' ∧ c ≠ '\\' := by
      simpa [isOrdinary] using isOrdinary_of_isPlainInShell hc
    rw [segmentsFrom?, if_neg hne.2.2.1, if_neg hne.2.2.2, ih hcs]
    rfl

/-- Behind an opening quote a text is inert up to the closing one. By induction on the text: a quote
in it ends the segment, stands behind a backslash, and begins the next segment. -/
theorem exists_segments_single (cs text : List Char) :
    ∃ segments, segmentsFrom? .single text
        (cs.flatMap (fun c => if c = '\'' then ['\'', '\\', '\'', '\''] else [c]) ++ ['\'']) =
          some segments ∧
      (∀ s ∈ segments, s.IsInert) ∧
      segments.flatMap Segment.letters = (text ++ cs).map (⟨·, true⟩) := by
  induction cs generalizing text with
  | nil =>
    exact ⟨[.single text], by simp [segmentsFrom?], by simp [Segment.IsInert],
      by simp [Segment.letters]⟩
  | cons c cs ih =>
    by_cases hc : c = '\''
    · subst hc
      obtain ⟨segments, hsegments, hinert, hletters⟩ := ih []
      refine ⟨.single text :: .escaped '\'' :: segments, ?_, ?_, ?_⟩
      · simp [segmentsFrom?, hsegments]
      · simpa [Segment.IsInert] using hinert
      · simp [Segment.letters, hletters]
    · obtain ⟨segments, hsegments, hinert, hletters⟩ := ih (text ++ [c])
      refine ⟨segments, ?_, hinert, ?_⟩
      · simpa [segmentsFrom?, hc] using hsegments
      · simpa using hletters

/-- A quoted word is inert segments, and is read as their letters. -/
theorem exists_segments_shellQuote (word : String) :
    ∃ segments, segments? (shellQuote word) = some segments ∧ (∀ s ∈ segments, s.IsInert) ∧
      segments.flatMap Segment.letters = lettersOf word := by
  unfold segments?
  by_cases hplain : isWrittenPlain word = true
  · have hall := isPlainInShell_of_isWrittenPlain hplain
    rw [shellQuote_of_isWrittenPlain hplain]
    refine ⟨_, segmentsFrom?_of_isPlainInShell hall, ?_, ?_⟩
    · intro s hs
      obtain ⟨c, hc, rfl⟩ := List.mem_map.1 hs
      exact ⟨isOrdinary_of_isPlainInShell (hall c hc), isSpecial_of_isPlainInShell (hall c hc)⟩
    · rw [lettersOf, hplain, List.flatMap_map, List.map_eq_flatMap]
      rfl
  · obtain ⟨segments, hsegments, hinert, hletters⟩ := exists_segments_single word.toList []
    rw [toList_shellQuote_of_not_isWrittenPlain hplain]
    refine ⟨segments, ?_, hinert, ?_⟩
    · simpa [segmentsFrom?] using hsegments
    · simpa [lettersOf, hplain] using hletters

/-- **A shell undoes quoting.** A line of quoted words is read as the list of the words. Outside its
single quotes a quoted word has nothing but quotes behind backslashes and characters that mean only
themselves, so that a shell reads it as letters none of which it expands. -/
theorem words?_map_shellQuote (words : List String) :
    (words? (" ".intercalate (words.map shellQuote))).map (·.map Word.text) = some words ∧
    ∀ word : String, ∃ segments, segments? (shellQuote word) = some segments ∧
      (∀ s ∈ segments, s.IsInert) ∧
      IsWordOf (shellQuote word).toList (segments.flatMap Segment.letters) ∧
      Word.IsLiteral (segments.flatMap Segment.letters) := by
  constructor
  · have hwords : words? (" ".intercalate (words.map shellQuote)) = some (words.map lettersOf) := by
      apply words?_intercalate
      rw [List.forall₂_map_left_iff, List.forall₂_map_right_iff, List.forall₂_same]
      exact fun word _ => isWordOf_shellQuote word
    rw [hwords, Option.map_some, map_text_lettersOf]
  · intro word
    obtain ⟨segments, hsegments, hinert, hletters⟩ := exists_segments_shellQuote word
    refine ⟨segments, hsegments, hinert, ?_, Segment.isLiteral_letters hinert⟩
    rw [hletters]
    exact isWordOf_shellQuote word

/-- A word with a quote, a line feed and a letter that is not ASCII, between an empty word and a
plain one. -/
example : (words? (" ".intercalate (["", "it's\n$é", "a.b"].map shellQuote))).map
    (·.map Word.text) = some ["", "it's\n$é", "a.b"] := by
  decide +kernel

end Shell

end KotestOutline
