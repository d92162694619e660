import KotestOutline.Proofs.Gradle.Environment
import KotestOutline.Proofs.Gradle.Shell

/-!
# The command of a shell line

A command can be started from its shell line or as a process. `Shell.Command` is what a shell makes
of the words of a line: assignments in front, then the program and its arguments.

* `Shell.Command.Starts` compares it with a process.
* `GradleCommand.shell_agrees_iff`: shell line and process of a target agree exactly when every key
  of the environment is a name that a shell can assign to, the program is not written like an
  assignment, and no word of the process holds a zero character.
* `GradleCommand.not_shell_agrees`: a program that looks like an assignment is taken for one.
-/

namespace KotestOutline

namespace Shell

/-! ### Assignments -/

/-- Whether some characters are a name: letters, digits and underscores, no digit in front. -/
def isName : List Char → Bool
  | [] => false
  | c :: cs => (c.isAlpha || c == '_') && cs.all fun d => d.isAlphanum || d == '_'

/-- What a word assigns: a name that is not quoted stands before its first equals sign that is not
quoted either. -/
def assignment? (w : Word) : Option (String × String) :=
  let name := w.takeWhile (· != ⟨'=', false⟩)
  match w.dropWhile (· != ⟨'=', false⟩) with
  | [] => none
  | _ :: value =>
    if name.all (!·.quoted) && isName (name.map Letter.char) then
      some (Word.text name, Word.text value)
    else none

/-- Whether a word that is quoted for a shell is still read as an assignment. -/
def LooksLikeAssignment (word : String) : Prop :=
  (∀ c ∈ word.toList, isPlainInShell c = true) ∧
    ∃ name value, isName name = true ∧ word.toList = name ++ '=' :: value

/-- A name has at least one character. -/
theorem ne_nil_of_isName {name : List Char} (h : isName name = true) : name ≠ [] := by
  rintro rfl
  exact Bool.false_ne_true h

/-- Every character of a name is plain, and none is the equals sign that ends it. -/
theorem isPlainInShell_of_isName {name : List Char} (h : isName name = true) :
    ∀ c ∈ name, c ≠ '=' ∧ isPlainInShell c = true := by
  have hletter : ∀ c : Char, (c.isAlphanum || c == '_') = true →
      c ≠ '=' ∧ isPlainInShell c = true := by
    intro c hc
    constructor
    · rintro rfl
      exact absurd hc (by decide)
    · rcases Bool.or_eq_true_iff.1 hc with hc | hc
      · simp [isPlainInShell, hc]
      · obtain rfl := beq_iff_eq.1 hc
        decide
  cases name with
  | nil => simp
  | cons c cs =>
    simp only [isName, Bool.and_eq_true, List.all_eq_true] at h
    intro d hd
    apply hletter
    rcases List.mem_cons.1 hd with rfl | hd
    · rcases Bool.or_eq_true_iff.1 h.1 with hc | hc
      · simp [Char.isAlphanum, hc]
      · simp [hc]
    · exact h.2 d hd

/-- A name, an equals sign and the letters behind it are an assignment. -/
theorem assignment?_of_isName {name : List Char} (h : isName name = true) (value : Word) :
    assignment? (name.map (⟨·, false⟩) ++ ⟨'=', false⟩ :: value) =
      some (.ofList name, value.text) := by
  have hne : ∀ l ∈ name.map (⟨·, false⟩ : Char → Letter), (l != ⟨'=', false⟩) = true := by
    intro l hl
    obtain ⟨c, hc, rfl⟩ := List.mem_map.1 hl
    simpa using (isPlainInShell_of_isName h c hc).1
  have htake : (name.map (⟨·, false⟩) ++ ⟨'=', false⟩ :: value : Word).takeWhile
      (· != ⟨'=', false⟩) = name.map (⟨·, false⟩) := by
    rw [List.takeWhile_append_of_pos hne]
    simp
  have hdrop : (name.map (⟨·, false⟩) ++ ⟨'=', false⟩ :: value : Word).dropWhile
      (· != ⟨'=', false⟩) = ⟨'=', false⟩ :: value := by
    rw [List.dropWhile_append_of_pos hne]
    simp
  have hchars : (name.map (⟨·, false⟩ : Char → Letter)).map Letter.char = name := by
    rw [List.map_map]
    exact List.map_id name
  unfold assignment?
  simp only [htake, hdrop, hchars, h, Word.text]
  simp

/-- What is assigned to is a name, and the letters up to the equals sign are not quoted. -/
theorem exists_of_assignment? {w : Word} {entry : String × String}
    (h : assignment? w = some entry) :
    isName entry.1.toList = true ∧ ∃ name value, isName (name.map Letter.char) = true ∧
      (∀ l ∈ name, l.quoted = false) ∧ w = name ++ ⟨'=', false⟩ :: value := by
  have hsplit : w.takeWhile (· != ⟨'=', false⟩) ++ w.dropWhile (· != ⟨'=', false⟩) = w :=
    List.takeWhile_append_dropWhile
  simp only [assignment?] at h
  split at h
  · cases h
  next l value hrest =>
    split_ifs at h with hname
    obtain rfl := Option.some.inj h
    simp only [Bool.and_eq_true, List.all_eq_true, Bool.not_eq_true'] at hname
    have hequals : l = ⟨'=', false⟩ := by
      have hhead := List.head?_dropWhile_not (· != (⟨'=', false⟩ : Letter)) w
      simpa [hrest] using hhead
    refine ⟨by simpa [Word.text] using hname.2, _, value, hname.2, hname.1, ?_⟩
    rw [hrest, hequals] at hsplit
    exact hsplit.symm

/-- A quoted word is an assignment only if it looks like one. -/
theorem assignment?_lettersOf_eq_none_iff (word : String) :
    assignment? (lettersOf word) = none ↔ ¬ LooksLikeAssignment word := by
  constructor
  · rintro hnone ⟨hplain, name, value, hname, hword⟩
    have hwritten : isWrittenPlain word = true := by
      have hne : word.toList ≠ [] := by simp [hword]
      simp only [isWrittenPlain, Bool.and_eq_true, Bool.not_eq_true', List.isEmpty_eq_false_iff,
        List.all_eq_true]
      exact ⟨hne, hplain⟩
    have hletters : lettersOf word =
        name.map (⟨·, false⟩) ++ ⟨'=', false⟩ :: value.map (⟨·, false⟩) := by
      simp [lettersOf, hwritten, hword]
    rw [hletters, assignment?_of_isName hname] at hnone
    cases hnone
  · intro hnot
    by_contra hsome
    obtain ⟨entry, hentry⟩ := Option.ne_none_iff_exists'.1 hsome
    obtain ⟨-, name, value, hname, -, hsplit⟩ := exists_of_assignment? hentry
    have hequals : (⟨'=', false⟩ : Letter) ∈ lettersOf word := by
      rw [hsplit]
      simp
    -- a letter that is not quoted shows that the word is written as it is
    have hwritten : isWrittenPlain word = true := by
      obtain ⟨c, -, hc⟩ := List.mem_map.1 hequals
      simpa using congrArg Letter.quoted hc
    apply hnot
    refine ⟨?_, name.map Letter.char, value.map Letter.char, hname, ?_⟩
    · simp only [isWrittenPlain, Bool.and_eq_true, List.all_eq_true] at hwritten
      exact hwritten.2
    · have hchars := congrArg (List.map Letter.char) hsplit
      simpa [lettersOf, Function.comp_def] using hchars

/-! ### Commands -/

/-- A simple command. -/
structure Command where
  assignments : List (String × String)
  program : String
  args : List String
  deriving DecidableEq

namespace Command

/-- The command of some words: the assignments in front, the program, and its arguments. -/
def ofWords? : List Word → Option Command
  | [] => none
  | w :: ws =>
    match assignment? w with
    | some entry => (ofWords? ws).map fun c => { c with assignments := entry :: c.assignments }
    | none => some ⟨[], w.text, ws.map Word.text⟩

/-- The command of a line all of whose words stand for their own characters. Behind an assignment
no word is reserved, so that it does not matter which words a shell reserves. -/
def ofLine? (line : String) : Option Command :=
  (words? line).bind fun ws => if ∀ w ∈ ws, w.IsLiteral then ofWords? ws else none

/-- Whether a command starts a process: the program with the arguments, and the environment of the
last assignments to each name. -/
structure Starts (c : Command) (p : Process) : Prop where
  program : c.program = p.program
  args : c.args = p.args
  env : ∀ key value, Table.lastValue? c.assignments key = some value ↔ (key, value) ∈ p.env

/-- What a shell takes off a command as an assignment has a name for its key. -/
theorem isName_of_mem_assignments {ws : List Word} {c : Command} (h : ofWords? ws = some c) :
    ∀ entry ∈ c.assignments, isName entry.1.toList = true := by
  induction ws generalizing c with
  | nil => cases h
  | cons w ws ih =>
    rw [ofWords?] at h
    split at h
    next entry hentry =>
      obtain ⟨c', hc', rfl⟩ := Option.map_eq_some_iff.1 h
      intro e he
      rcases List.mem_cons.1 he with rfl | he
      · exact (exists_of_assignment? hentry).1
      · exact ih hc' e he
    · obtain rfl := Option.some.inj h
      simp

/-- The program is one of the words, and the arguments are others. -/
theorem length_args_lt {ws : List Word} {c : Command} (h : ofWords? ws = some c) :
    c.args.length < ws.length := by
  induction ws generalizing c with
  | nil => cases h
  | cons w ws ih =>
    rw [ofWords?] at h
    split at h
    · obtain ⟨c', hc', rfl⟩ := Option.map_eq_some_iff.1 h
      have hlt := ih hc'
      exact Nat.lt_succ_of_lt hlt
    · obtain rfl := Option.some.inj h
      simp

end Command

/-! ### Written commands -/

/-- The word as which an assignment is read. -/
def assignmentWord (entry : String × String) : Word :=
  entry.1.toList.map (⟨·, false⟩) ++ ⟨'=', false⟩ :: lettersOf entry.2

/-- An entry of the environment is read as one word: the key and the equals sign bare, the value as
it is quoted. -/
theorem isWordOf_assignment {key : String} (h : isName key.toList = true) (value : String) :
    IsWordOf (key ++ "=" ++ shellQuote value).toList (assignmentWord (key, value)) := by
  have hname : IsWordOf key.toList (key.toList.map (⟨·, false⟩)) := by
    apply isWordOf_of_isOrdinary (ne_nil_of_isName h)
    intro c hc
    exact isOrdinary_of_isPlainInShell (isPlainInShell_of_isName h c hc).2
  have hequals : IsWordOf "=".toList [⟨'=', false⟩] := by
    apply isWordOf_of_isOrdinary
    · simp
    · simp [isOrdinary]
  have hword := (hname.append hequals).append (isWordOf_shellQuote value)
  simpa [assignmentWord] using hword

/-- A word that assigns to a name is expanded nowhere. -/
theorem isLiteral_assignmentWord {entry : String × String}
    (h : isName entry.1.toList = true) : (assignmentWord entry).IsLiteral := by
  intro l hl
  rcases List.mem_append.1 hl with hl | hl
  · obtain ⟨c, hc, rfl⟩ := List.mem_map.1 hl
    exact Or.inr (isSpecial_of_isPlainInShell (isPlainInShell_of_isName h c hc).2)
  · rcases List.mem_cons.1 hl with rfl | hl
    · exact Or.inr (isSpecial_of_isPlainInShell (by decide))
    · exact isLiteral_lettersOf entry.2 l hl

/-- Words that assign to names are all taken as assignments, and the command is read off the words
behind them. -/
theorem Command.ofWords?_assignments {entries : List (String × String)}
    (h : ∀ entry ∈ entries, isName entry.1.toList = true) (ws : List Word) :
    ofWords? (entries.map assignmentWord ++ ws) =
      (ofWords? ws).map fun c => { c with assignments := entries ++ c.assignments } := by
  induction entries with
  | nil => simp
  | cons entry entries ih =>
    have hentry : assignment? (assignmentWord entry) = some entry := by
      rw [assignmentWord, assignment?_of_isName (h entry List.mem_cons_self), text_lettersOf,
        String.ofList_toList]
    rw [List.map_cons, List.cons_append, ofWords?, hentry,
      ih fun e he => h e (List.mem_cons_of_mem entry he)]
    simp [Function.comp_def]

end Shell

/-! ### The two renderings -/

/-- A word reaches a process as it is unless it holds a null character. -/
theorem processWord_eq_self_iff {word : String} :
    processWord word = word ↔ '\x00' ∉ word.toList := by
  unfold processWord
  by_cases h : '\x00' ∈ word.toList
  · have hplaceholder : "<string-with-nul>" ≠ word := by
      rintro rfl
      exact absurd h (by decide)
    simp [h, hplaceholder]
  · simp [h]

namespace GradleCommand

open Shell

variable {c : GradleCommand}

/-- The shell line of a command is read as the words of its environment, its program and its
arguments. -/
theorem words?_toShell (h : ∀ entry ∈ c.env, isName entry.1.toList = true) :
    words? c.toShell =
      some (c.env.map assignmentWord ++ lettersOf c.program :: c.args.map lettersOf) := by
  unfold toShell
  apply words?_intercalate
  apply List.rel_append
  · rw [List.forall₂_map_left_iff, List.forall₂_map_right_iff, List.forall₂_same]
    intro entry hentry
    exact isWordOf_assignment (h entry hentry) entry.2
  · refine List.Forall₂.cons (isWordOf_shellQuote c.program) ?_
    rw [List.forall₂_map_left_iff, List.forall₂_map_right_iff, List.forall₂_same]
    intro arg _
    exact isWordOf_shellQuote arg

/-- The command of a shell line whose keys are names: the environment, and what is read of program
and arguments. -/
theorem ofLine?_toShell (h : ∀ entry ∈ c.env, isName entry.1.toList = true) :
    Shell.Command.ofLine? c.toShell =
      (Shell.Command.ofWords? (lettersOf c.program :: c.args.map lettersOf)).map
        fun d => { d with assignments := c.env ++ d.assignments } := by
  have hliteral : ∀ w ∈ c.env.map assignmentWord ++ lettersOf c.program :: c.args.map lettersOf,
      w.IsLiteral := by
    intro w hw
    simp only [List.mem_append, List.mem_cons, List.mem_map] at hw
    rcases hw with ⟨entry, hentry, rfl⟩ | rfl | ⟨arg, -, rfl⟩
    · exact isLiteral_assignmentWord (h entry hentry)
    · exact isLiteral_lettersOf c.program
    · exact isLiteral_lettersOf arg
  rw [Shell.Command.ofLine?, words?_toShell h, Option.bind_some, if_pos hliteral,
    Shell.Command.ofWords?_assignments h]

/-- Where the shell line starts the process, the keys are names: a shell assigns to names only, and
the process has every key of the command. -/
theorem isName_of_starts {d : Shell.Command} (hread : Shell.Command.ofLine? c.toShell = some d)
    (hstarts : d.Starts c.toProcess) : ∀ entry ∈ c.env, isName entry.1.toList = true := by
  intro entry hentry
  obtain ⟨value, hvalue⟩ := Table.exists_lastValue? hentry
  have hassigned := Table.mem_of_lastValue?
    ((hstarts.env entry.1 value).2 (mem_env_toProcess.2 hvalue))
  obtain ⟨ws, -, hws⟩ := Option.bind_eq_some_iff.1 hread
  split_ifs at hws
  exact Shell.Command.isName_of_mem_assignments hws (entry.1, value) hassigned

/-- A program that looks like an assignment is taken for one, so that there is one argument less. -/
theorem not_looksLikeAssignment_of_args {d : Shell.Command}
    (hread : Shell.Command.ofWords? (lettersOf c.program :: c.args.map lettersOf) = some d)
    (hargs : d.args = c.toProcess.args) : ¬ LooksLikeAssignment c.program := by
  rw [← assignment?_lettersOf_eq_none_iff]
  by_contra hsome
  obtain ⟨entry, hentry⟩ := Option.ne_none_iff_exists'.1 hsome
  rw [Shell.Command.ofWords?, hentry] at hread
  obtain ⟨d', hread', rfl⟩ := Option.map_eq_some_iff.1 hread
  have hlt := Shell.Command.length_args_lt hread'
  have hlength := congrArg List.length hargs
  simp only [toProcess, List.length_map] at hlt hlength
  omega

/-- A program that does not look like an assignment is read with its arguments. -/
theorem ofWords?_program (hnot : ¬ LooksLikeAssignment c.program) :
    Shell.Command.ofWords? (lettersOf c.program :: c.args.map lettersOf) =
      some ⟨[], c.program, c.args⟩ := by
  rw [Shell.Command.ofWords?, (assignment?_lettersOf_eq_none_iff c.program).2 hnot]
  simp only [text_lettersOf, map_text_lettersOf]

/-- A command is started with its own words just if none of them holds a null character. -/
theorem forall_processWord_eq_iff :
    (c.program = c.toProcess.program ∧ c.args = c.toProcess.args) ↔
      ∀ word ∈ c.program :: c.args, '\x00' ∉ word.toList := by
  have hmap : c.args = c.toProcess.args ↔ ∀ word ∈ c.args, processWord word = word := by
    unfold toProcess
    constructor
    · intro hargs
      have hid : c.args.map processWord = c.args.map id := by
        rw [List.map_id]
        exact hargs.symm
      exact List.map_inj_left.1 hid
    · intro hwords
      exact ((List.map_congr_left hwords).trans (List.map_id _)).symm
  rw [hmap, List.forall_mem_cons, ← processWord_eq_self_iff]
  exact and_congr eq_comm (forall₂_congr fun word _ => processWord_eq_self_iff)

/-- The shell line of a command starts its process just when the keys are names, the program does
not look like an assignment, and no zero character is in the way. -/
theorem exists_starts_iff (c : GradleCommand) :
    (∃ d, Shell.Command.ofLine? c.toShell = some d ∧ d.Starts c.toProcess) ↔
      (∀ entry ∈ c.env, isName entry.1.toList = true) ∧ ¬ LooksLikeAssignment c.program ∧
        ∀ word ∈ c.program :: c.args, '\x00' ∉ word.toList := by
  rw [← forall_processWord_eq_iff]
  constructor
  · rintro ⟨d, hread, hstarts⟩
    have hnames := isName_of_starts hread hstarts
    rw [ofLine?_toShell hnames] at hread
    obtain ⟨e, he, rfl⟩ := Option.map_eq_some_iff.1 hread
    have hnot := not_looksLikeAssignment_of_args he hstarts.args
    rw [ofWords?_program hnot] at he
    obtain rfl := Option.some.inj he
    exact ⟨hnames, hnot, hstarts.program, hstarts.args⟩
  · rintro ⟨hnames, hnot, hprogram, hargs⟩
    rw [ofLine?_toShell hnames, ofWords?_program hnot]
    refine ⟨_, rfl, hprogram, hargs, ?_⟩
    intro key value
    show Table.lastValue? (c.env ++ []) key = some value ↔ _
    rw [mem_env_toProcess, List.append_nil]

/-- Both filters of Kotest are names to a shell. -/
theorem isName_filters : isName specFilter.toList = true ∧ isName testFilter.toList = true := by
  decide

/-- **Shell line and process agree** where a shell can say what the process is: every key of the
environment is a name, the program is not written like an assignment, and no word holds a zero
character. In no other case do they agree: a key that is no name is not assigned to, and a program
such as `A=b` is taken for an assignment, since an equals sign is not quoted. -/
theorem shell_agrees_iff (target : TestTarget) (settings : GradleSettings) :
    (∃ d, Shell.Command.ofLine? (forTarget target settings).toShell = some d ∧
        d.Starts (forTarget target settings).toProcess) ↔
      (∀ entry ∈ settings.env.getD [], isName entry.1.toList = true) ∧
        ¬ LooksLikeAssignment settings.program ∧
        ∀ word ∈ settings.program :: settings.taskName :: target.specFqName :: settings.arguments,
          '\x00' ∉ word.toList := by
  rw [exists_starts_iff]
  have henv : (∀ entry ∈ (forTarget target settings).env, isName entry.1.toList = true) ↔
      ∀ entry ∈ settings.env.getD [], isName entry.1.toList = true := by
    have hfilters := isName_filters
    cases hpath : target.testPath <;>
      simp [forTarget, hpath, hfilters]
  have hwords : (∀ word ∈ (forTarget target settings).program :: (forTarget target settings).args,
      '\x00' ∉ word.toList) ↔
      ∀ word ∈ settings.program :: settings.taskName :: target.specFqName :: settings.arguments,
        '\x00' ∉ word.toList := by
    simp [forTarget]
  rw [henv, hwords]
  rfl

/-- The shell line of a program that looks like an assignment runs the task instead. -/
theorem not_shell_agrees :
    ¬ ∀ (target : TestTarget) (settings : GradleSettings),
      ∃ d, Shell.Command.ofLine? (forTarget target settings).toShell = some d ∧
        d.Starts (forTarget target settings).toProcess := by
  intro h
  obtain ⟨d, hread, hstarts⟩ := h ⟨"p.S", none⟩ { GradleSettings.unset with command := some "A=b" }
  have hline : Shell.Command.ofLine? (forTarget ⟨"p.S", none⟩
      { GradleSettings.unset with command := some "A=b" }).toShell =
        some ⟨[("kotest_filter_specs", "p.S"), ("A", "b")], "test", ["--tests", "p.S"]⟩ := by
    decide +kernel
  rw [hline] at hread
  obtain rfl := Option.some.inj hread
  exact absurd hstarts.program (by decide)

end GradleCommand

end KotestOutline
