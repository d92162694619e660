import KotestOutline.Gradle
import KotestOutline.Proofs.Table
import Mathlib.Data.String.Basic
import Mathlib.Tactic.SplitIfs

/-!
# The environment of a command

The environment of a command in the order of the bytes of its keys, however it was listed.
-/

namespace KotestOutline

/-!
## Texts in byte order

Texts are compared character by character, and their UTF-8 bytes byte by byte. Both ways give one
order: of two characters the smaller one has the smaller bytes, and the bytes of neither begin the
bytes of the other.

* `utf8EncodeChar_cases` are the four forms of a character in bytes.
* `bytes_lt_iff`: the order of texts is the order of their bytes.
-/

/-- The UTF-8 bytes of a text. -/
def bytes (s : String) : List UInt8 := s.toUTF8.data.toList

/-- The bytes of a text are those of its characters, one after the other. -/
theorem bytes_eq (s : String) : bytes s = s.toList.flatMap String.utf8EncodeChar := by
  rw [bytes, String.toUTF8, ← String.utf8Encode_toList, List.utf8Encode,
    List.toList_data_toByteArray]

/-- A character in bytes: one byte, or a byte that tells how many follow, and the bytes that follow
with six bits each. -/
theorem utf8EncodeChar_cases (c : Char) :
    (∃ a < 128, c.toNat = a ∧ String.utf8EncodeChar c = [.ofNat a]) ∨
    (∃ a < 32, ∃ b < 64, 128 ≤ c.toNat ∧ c.toNat = a * 64 + b ∧
      String.utf8EncodeChar c = [.ofNat (a + 192), .ofNat (b + 128)]) ∨
    (∃ a < 16, ∃ b < 64, ∃ d < 64, 2048 ≤ c.toNat ∧ c.toNat = (a * 64 + b) * 64 + d ∧
      String.utf8EncodeChar c = [.ofNat (a + 224), .ofNat (b + 128), .ofNat (d + 128)]) ∨
    (∃ a < 8, ∃ b < 64, ∃ d < 64, ∃ e < 64, 65536 ≤ c.toNat ∧
      c.toNat = ((a * 64 + b) * 64 + d) * 64 + e ∧
      String.utf8EncodeChar c =
        [.ofNat (a + 240), .ofNat (b + 128), .ofNat (d + 128), .ofNat (e + 128)]) := by
  have hvalid : c.val.toNat < 2 ^ 21 := by
    rcases c.valid with h | ⟨-, h⟩
    · exact Nat.lt_trans h (by decide)
    · exact Nat.lt_trans h (by decide)
  have hmod : ∀ {m : Nat} (v : Nat), 0 < m → v % m < m := fun v h => Nat.mod_lt v h
  simp only [String.utf8EncodeChar, Char.toNat]
  split_ifs with hone htwo hthree
  · exact .inl ⟨_, by omega, rfl, rfl⟩
  · refine .inr (.inl ⟨_, hmod _ ?_, _, hmod _ ?_, ?_, ?_, rfl⟩) <;> omega
  · refine .inr (.inr (.inl ⟨_, hmod _ ?_, _, hmod _ ?_, _, hmod _ ?_, ?_, ?_, rfl⟩)) <;> omega
  · refine .inr (.inr (.inr
      ⟨_, hmod _ ?_, _, hmod _ ?_, _, hmod _ ?_, _, hmod _ ?_, ?_, ?_, rfl⟩)) <;> omega

/-- The bytes of a smaller character are smaller, whatever follows. -/
theorem utf8EncodeChar_append_lt {c d : Char} (h : c < d) (xs ys : List UInt8) :
    String.utf8EncodeChar c ++ xs < String.utf8EncodeChar d ++ ys := by
  have hlt : c.toNat < d.toNat := h
  -- the first byte tells the length apart, and bytes of one length are digits of the number
  rcases utf8EncodeChar_cases c with ⟨a, ha, hc, hcs⟩ | ⟨a, ha, b, hb, hmin, hc, hcs⟩ |
      ⟨a, ha, b, hb, e, he, hmin, hc, hcs⟩ | ⟨a, ha, b, hb, e, he, f, hf, hmin, hc, hcs⟩ <;>
    rcases utf8EncodeChar_cases d with ⟨a', ha', hd, hds⟩ | ⟨a', ha', b', hb', hmin', hd, hds⟩ |
      ⟨a', ha', b', hb', e', he', hmin', hd, hds⟩ |
      ⟨a', ha', b', hb', e', he', f', hf', hmin', hd, hds⟩ <;>
    rw [hcs, hds] <;>
    simp only [List.cons_append, List.nil_append, List.cons_lt_cons_iff, UInt8.lt_iff_toNat_lt,
      ← UInt8.toNat_inj, UInt8.toNat_ofNat'] <;>
    omega

/-- A common first part does not count when two byte strings are compared. -/
theorem append_lt_append_iff (front xs ys : List UInt8) :
    front ++ xs < front ++ ys ↔ xs < ys := by
  induction front with
  | nil => rfl
  | cons b front ih => simp [ih]

/-- Every character has at least one byte. -/
theorem utf8EncodeChar_ne_nil (c : Char) : String.utf8EncodeChar c ≠ [] := by
  rcases utf8EncodeChar_cases c with ⟨a, -, -, h⟩ | ⟨a, -, b, -, -, -, h⟩ |
    ⟨a, -, b, -, d, -, -, -, h⟩ | ⟨a, -, b, -, d, -, e, -, -, -, h⟩ <;> simp [h]

/-- The order of texts by character is the order of their bytes. -/
theorem bytes_lt_of_lt {s t : String} (h : s < t) : bytes s < bytes t := by
  rw [bytes_eq, bytes_eq]
  have hchars : s.toList < t.toList := h
  generalize s.toList = cs at hchars
  generalize t.toList = ds at hchars
  induction hchars with
  | @nil d _ =>
    obtain ⟨b, rest, hd⟩ := List.exists_cons_of_ne_nil (utf8EncodeChar_ne_nil d)
    rw [List.flatMap_nil, List.flatMap_cons, hd, List.cons_append]
    exact List.nil_lt_cons _ _
  | rel hlt =>
    rw [List.flatMap_cons, List.flatMap_cons]
    exact utf8EncodeChar_append_lt hlt _ _
  | cons _ ih =>
    rw [List.flatMap_cons, List.flatMap_cons]
    exact (append_lt_append_iff _ _ _).2 ih

/-- Texts are in the order of their bytes. -/
theorem bytes_lt_iff {s t : String} : bytes s < bytes t ↔ s < t := by
  refine ⟨fun h => ?_, bytes_lt_of_lt⟩
  rcases lt_trichotomy s t with hlt | rfl | hgt
  · exact hlt
  · exact absurd h (List.lt_irrefl _)
  · exact absurd h (List.lt_asymm (bytes_lt_of_lt hgt))

/-!
## The environment of a command

A configuration holds its environment as a table, and a table says nothing about the order of its
entries. The command of a target does not depend on the order in which they happen to be listed:
the filters of Kotest come first, and the entries follow in the byte order of their keys.

* `GradleSettings.IsRelisting`: two listings of one configuration.
* `GradleSettings.nodup_keys_of_ofJson?`: an environment that is read repeats no key.
* `GradleCommand.mem_env_toProcess`: of several entries under one key the last one takes effect.
* `GradleCommand.forTarget_of_ofJson?`: settings that are read give one command however their
  entries are listed.
* `GradleCommand.forTarget_of_isRelisting`: both listings give the same command, and what its
  environment is.
-/

/-! ### Settings -/

namespace GradleSettings

variable {one other g : GradleSettings}

/-- Whether two settings are the same, except that the entries of their environments may be listed
in different orders. -/
structure IsRelisting (one other : GradleSettings) : Prop where
  command : one.command = other.command
  task : one.task = other.task
  extraArgs : one.extraArgs = other.extraArgs
  env : Option.Rel List.Perm one.env other.env

/-- An optional field with a value was read off some value. -/
theorem exists_of_optional {α : Type} {read : Json → Option α} {field : Json.Field} {x : α}
    (h : field.optional read = some (some x)) : ∃ v, read v = some x := by
  unfold Json.Field.optional at h
  split at h
  · cases h
  next v _ =>
    obtain ⟨y, hy, hxy⟩ := Option.map_eq_some_iff.1 h
    exact ⟨v, hy.trans hxy⟩
  · cases h
  · cases h

/-- An environment that is read repeats no key. -/
theorem nodup_keys_of_ofJson? {v : Json} (h : ofJson? v = some g) :
    ∀ table ∈ g.env, (table.map Prod.fst).Nodup := by
  unfold ofJson? at h
  obtain ⟨fields, -, h⟩ := Option.bind_eq_some_iff.1 h
  split at h
  · simp only [Option.bind_eq_bind, Option.bind_eq_some_iff] at h
    obtain ⟨_, -, _, -, _, -, env, henv, h⟩ := h
    obtain rfl := Option.some.inj h
    rintro table rfl
    obtain ⟨v, hv⟩ := exists_of_optional henv
    unfold Json.toTable? at hv
    split at hv
    · obtain ⟨entries, -, rfl⟩ := Option.map_eq_some_iff.1 hv
      exact Table.nodup_keys_ofEntries entries
    · cases hv
  · cases h

/-- Sorted, two listings of one environment are the same. -/
theorem IsRelisting.sorted_eq (h : IsRelisting one other)
    (hkeys : ∀ table ∈ one.env, (table.map Prod.fst).Nodup) :
    (one.env.getD []).sorted = (other.env.getD []).sorted := by
  have henv := h.env
  revert henv hkeys
  cases one.env <;> cases other.env <;> rintro hkeys ⟨⟩
  · rfl
  next hperm => exact Table.sorted_eq_of_perm hperm (hkeys _ rfl)

/-- The environment of settings has each key once, also where no environment was set. -/
theorem nodup_keys_getD (hkeys : ∀ table ∈ g.env, (table.map Prod.fst).Nodup) :
    ((g.env.getD []).map Prod.fst).Nodup := by
  cases henv : g.env with
  | none => exact List.nodup_nil
  | some table => exact hkeys table henv

end GradleSettings

/-! ### Commands -/

namespace GradleCommand

variable {c : GradleCommand} {key value : String} {one other : GradleSettings}

/-- The process holds under each key the value of the last entry. -/
theorem mem_env_toProcess :
    (key, value) ∈ c.toProcess.env ↔ Table.lastValue? c.env key = some value := by
  unfold toProcess
  rw [Table.mem_sorted_iff, Table.mem_ofEntries_iff]

/-- The environment of a process has each key once. -/
theorem nodup_keys_toProcess (c : GradleCommand) : (c.toProcess.env.map Prod.fst).Nodup :=
  Table.nodup_keys_sorted (Table.nodup_keys_ofEntries c.env)

/-- A configured entry takes effect, also where its key is one of the filters of Kotest: it comes
behind them. -/
theorem mem_env_toProcess_of_mem (target : TestTarget)
    (hkeys : ∀ table ∈ one.env, (table.map Prod.fst).Nodup)
    (h : (key, value) ∈ one.env.getD []) : (key, value) ∈ (forTarget target one).toProcess.env := by
  have hlast : Table.lastValue? (one.env.getD []).sorted key = some value :=
    Table.lastValue?_of_mem (Table.nodup_keys_sorted (GradleSettings.nodup_keys_getD hkeys))
      (Table.mem_sorted_iff.2 h)
  rw [mem_env_toProcess, forTarget, Table.lastValue?_append, hlast, Option.some_or]

/-- Two listings of one environment give a target one command. -/
theorem forTarget_congr (target : TestTarget) (h : one.IsRelisting other)
    (hkeys : ∀ table ∈ one.env, (table.map Prod.fst).Nodup) :
    forTarget target one = forTarget target other := by
  have hsorted := h.sorted_eq hkeys
  unfold forTarget GradleSettings.program GradleSettings.taskName GradleSettings.arguments
  rw [h.command, h.task, h.extraArgs, hsorted]

/-- So do settings that are read, in whatever order their entries come, and what they configure
takes effect: keys that the data repeats are not repeated in them. -/
theorem forTarget_of_ofJson? {v : Json} (target : TestTarget)
    (hread : GradleSettings.ofJson? v = some one) :
    (∀ other, one.IsRelisting other → forTarget target one = forTarget target other) ∧
      ∀ entry ∈ one.env.getD [], entry ∈ (forTarget target one).toProcess.env := by
  have hkeys := GradleSettings.nodup_keys_of_ofJson? hread
  exact ⟨fun _ h => forTarget_congr target h hkeys,
    fun _ hentry => mem_env_toProcess_of_mem target hkeys hentry⟩

/-- **The command of a target does not depend on how its environment is listed.** Its own
environment is the filter for the spec, the filter for the test if there is one, and every
configured entry once, in strictly ascending byte order of the keys. The process holds under each
key one value, that of the last entry, so what is configured takes effect. -/
theorem forTarget_of_isRelisting (target : TestTarget) (h : one.IsRelisting other)
    (hkeys : ∀ table ∈ one.env, (table.map Prod.fst).Nodup) :
    forTarget target one = forTarget target other ∧
    (∃ configured, (forTarget target one).env =
        (specFilter, target.specFqName) :: (target.testPath.map (testFilter, ·)).toList ++
          configured ∧
      configured.Perm (one.env.getD []) ∧ (configured.map (bytes ·.1)).Pairwise (· < ·)) ∧
    (((forTarget target one).toProcess.env.map Prod.fst).Nodup ∧
      ∀ key value, (key, value) ∈ (forTarget target one).toProcess.env ↔
        Table.lastValue? (forTarget target one).env key = some value) ∧
    ∀ entry ∈ one.env.getD [], entry ∈ (forTarget target one).toProcess.env := by
  refine ⟨forTarget_congr target h hkeys, ⟨_, rfl, Table.sorted_perm _, ?_⟩,
    ⟨nodup_keys_toProcess _, ?_⟩, ?_⟩
  · rw [List.pairwise_map]
    refine (Table.pairwise_lt_sorted (GradleSettings.nodup_keys_getD hkeys)).imp ?_
    exact bytes_lt_iff.2
  · exact fun key value => mem_env_toProcess
  · exact fun entry hentry => mem_env_toProcess_of_mem target hkeys hentry

/-- Settings whose environment has a filter of Kotest among its keys. -/
def filterSample : GradleSettings :=
  { GradleSettings.unset with env := some [("é", "1"), (specFilter, "q.T"), ("Z", "2")] }

/-- The same settings, with the environment listed in another order. -/
def filterSampleRelisted : GradleSettings :=
  { GradleSettings.unset with env := some [("Z", "2"), ("é", "1"), (specFilter, "q.T")] }

/-- Settings with a filter of Kotest among their keys make one command in both orders, and the value
of the settings is the one that counts. -/
theorem forTarget_filterSample :
    forTarget ⟨"p.S", some "a"⟩ filterSample = forTarget ⟨"p.S", some "a"⟩ filterSampleRelisted ∧
      (specFilter, "q.T") ∈ (forTarget ⟨"p.S", some "a"⟩ filterSample).toProcess.env := by
  have hrelisting : filterSample.IsRelisting filterSampleRelisted :=
    ⟨rfl, rfl, rfl, .some (by decide)⟩
  have hkeys : ∀ table ∈ filterSample.env, (table.map Prod.fst).Nodup := by
    rintro table ⟨⟩
    decide
  obtain ⟨hsame, -, -, hconfigured⟩ :=
    forTarget_of_isRelisting ⟨"p.S", some "a"⟩ hrelisting hkeys
  exact ⟨hsame, hconfigured (specFilter, "q.T") (by simp [filterSample])⟩

end GradleCommand

end KotestOutline
