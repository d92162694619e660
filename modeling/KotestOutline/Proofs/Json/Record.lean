import KotestOutline.Json
import KotestOutline.Proofs.Json.Document
import KotestOutline.Proofs.Table
import Mathlib.Data.List.Nodup

/-!
# Values and records read back

The two texts of a value read as the value, and a record as the fields it was written from.
-/

namespace KotestOutline

/-!
## JSON texts read back

What the printer writes for a value reads as that value, in either form. Only numbers that are no
integers are left out: a value may hold any text for them.

* `Json.IsExact`: all numbers of a value are integers.
* `Json.IsExact.read?_pretty` and `Json.IsExact.read?_compact`: the two forms read back.
-/

namespace Json

variable {v : Json} {vs : List Json} {fields : List (Option String × Json)}

/-- Whether a value holds no numbers but integers. -/
inductive IsExact : Json → Prop
  | null : IsExact .null
  | bool (b : Bool) : IsExact (.bool b)
  | integer (n : Int) : IsExact (.integer n)
  | string (s : Option String) : IsExact (.string s)
  | array {items : List Json} (h : ∀ v ∈ items, IsExact v) : IsExact (.array items)
  | object {fields : List (Option String × Json)} (h : ∀ field ∈ fields, IsExact field.2) :
    IsExact (.object fields)

/-! ### On one line -/

/-- The compact texts of items are those of the items one by one. -/
theorem compactItems_eq_map (vs : List Json) : compactItems vs = vs.map compact := by
  induction vs with
  | nil => rfl
  | cons v vs ih => rw [compactItems, ih, List.map_cons]

/-- The compact texts of members are those of the members one by one. -/
theorem compactMembers_eq_map (fields : List (Option String × Json)) :
    compactMembers fields = fields.map fun field => quoted field.1 ++ ":" ++ compact field.2 := by
  induction fields with
  | nil => rfl
  | cons field fields ih => rw [compactMembers, ih, List.map_cons]

/-- A joined text is its items with a comma between any two, in the form in which the reader takes
them. -/
theorem toList_joined (opening closing : String) (items : List String) :
    (opening ++ ",".intercalate items ++ closing).toList =
      opening.toList ++ (List.intercalate [','] (items.map String.toList) ++ []) ++
        closing.toList := by
  simp [String.toList_intercalate]

/-- Texts that read as values, joined between brackets, read as the array of the values. -/
theorem reads_joined_array {items : List String}
    (h : List.Forall₂ Reads vs (items.map String.toList)) :
    Reads (.array vs) ("[" ++ ",".intercalate items ++ "]").toList := by
  rw [toList_joined]
  by_cases hitems : items = []
  · subst hitems
    cases h
    exact .emptyArray
  · exact .array (.intercalate (by simp) (by simp) h (by simpa))

/-- Texts that read as members, joined between braces, read as the object of the members. -/
theorem reads_joined_object {items : List String}
    (h : List.Forall₂ ReadsMember fields (items.map String.toList)) :
    Reads (.object fields) ("\x7b" ++ ",".intercalate items ++ "\x7d").toList := by
  rw [toList_joined]
  by_cases hitems : items = []
  · subst hitems
    cases h
    exact .emptyObject
  · exact .object (.intercalate (by simp) (by simp) h (by simpa))

/-- A value without fractions reads back from its compact text. -/
theorem IsExact.reads_compact (h : v.IsExact) : Reads v (compact v).toList := by
  induction h with
  | null => exact .null
  | bool b => exact .bool b
  | integer n => exact .integer n
  | string s => exact .string s
  | array _ ih =>
    rw [compact, compactItems_eq_map]
    apply reads_joined_array
    rw [List.map_map, List.forall₂_map_right_iff]
    exact List.forall₂_same.2 ih
  | object _ ih =>
    rw [compact, compactMembers_eq_map]
    apply reads_joined_object
    rw [List.map_map, List.forall₂_map_right_iff]
    exact List.forall₂_same.2 fun field hfield =>
      ⟨(compact field.2).toList, by simp, ih field hfield⟩

/-! ### With one item a line -/

/-- The indented texts of items are those of the items one by one. -/
theorem prettyItems_eq_map (indent : Nat) (vs : List Json) :
    prettyItems indent vs = vs.map (prettyAt indent) := by
  induction vs with
  | nil => rfl
  | cons v vs ih => rw [prettyItems, ih, List.map_cons]

/-- The indented texts of members are those of the members one by one. -/
theorem prettyMembers_eq_map (indent : Nat) (fields : List (Option String × Json)) :
    prettyMembers indent fields =
      fields.map fun field => quoted field.1 ++ ": " ++ prettyAt indent field.2 := by
  induction fields with
  | nil => rfl
  | cons field fields ih => rw [prettyMembers, ih, List.map_cons]

/-- The end of a line and the indentation of the next one. -/
def newline (level : Nat) : List Char := '\n' :: List.replicate (2 * level) ' '

/-- The break in front of a line is all blanks. -/
theorem isSpace_of_mem_newline (level : Nat) : ∀ c ∈ newline level, isSpace c = true := by
  intro c h
  rcases List.mem_cons.1 h with rfl | h
  · rfl
  · rw [List.eq_of_mem_replicate h]
    rfl

/-- Nothing between two brackets is written on one line. -/
theorem toList_bracketed_nil (opening closing : String) (indent : Nat) :
    (bracketed opening closing indent []).toList = opening.toList ++ closing.toList :=
  String.toList_append

/-- Items between two brackets are written a line each, with the comma in front of the break. -/
theorem toList_bracketed (opening closing : String) (indent : Nat) {items : List String}
    (h : items ≠ []) :
    (bracketed opening closing indent items).toList =
      opening.toList ++ (newline (indent + 1) ++
        (List.intercalate (',' :: newline (indent + 1)) (items.map String.toList) ++
          newline indent)) ++ closing.toList := by
  rw [bracketed, if_neg (by rwa [List.isEmpty_iff])]
  simp [newline, String.toList_intercalate]

/-- Texts that read as values, a line each between brackets, read as the array of the values. -/
theorem reads_bracketed_array (indent : Nat) {items : List String}
    (h : List.Forall₂ Reads vs (items.map String.toList)) :
    Reads (.array vs) (bracketed "[" "]" indent items).toList := by
  by_cases hitems : items = []
  · subst hitems
    cases h
    rw [toList_bracketed_nil]
    exact .emptyArray
  · have hread := ReadsItems.intercalate (isSpace_of_mem_newline (indent + 1))
      (isSpace_of_mem_newline indent) h (by simpa)
    rw [toList_bracketed "[" "]" indent hitems]
    exact .array (hread.spaces (isSpace_of_mem_newline (indent + 1)))

/-- Texts that read as members, a line each between braces, read as the object of the members. -/
theorem reads_bracketed_object (indent : Nat) {items : List String}
    (h : List.Forall₂ ReadsMember fields (items.map String.toList)) :
    Reads (.object fields) (bracketed "\x7b" "\x7d" indent items).toList := by
  by_cases hitems : items = []
  · subst hitems
    cases h
    rw [toList_bracketed_nil]
    exact .emptyObject
  · have hread := ReadsMembers.intercalate (isSpace_of_mem_newline (indent + 1))
      (isSpace_of_mem_newline indent) h (by simpa)
    rw [toList_bracketed "\x7b" "\x7d" indent hitems]
    exact .object (hread.spaces (isSpace_of_mem_newline (indent + 1)))

/-- A value without fractions reads back from its indented text, whatever the level it begins at. -/
theorem IsExact.reads_prettyAt (h : v.IsExact) (indent : Nat) :
    Reads v (prettyAt indent v).toList := by
  induction h generalizing indent with
  | null => exact .null
  | bool b => exact .bool b
  | integer n => exact .integer n
  | string s => exact .string s
  | array _ ih =>
    rw [prettyAt, prettyItems_eq_map]
    apply reads_bracketed_array
    rw [List.map_map, List.forall₂_map_right_iff]
    exact List.forall₂_same.2 fun v hv => ih v hv (indent + 1)
  | object _ ih =>
    rw [prettyAt, prettyMembers_eq_map]
    apply reads_bracketed_object
    rw [List.map_map, List.forall₂_map_right_iff]
    refine List.forall₂_same.2 fun field hfield => ?_
    -- one blank stands between the colon and the value
    have hblank : ∀ c ∈ [' '], isSpace c = true := by simp [isSpace]
    exact ⟨_, by simp, (ih field hfield (indent + 1)).spaces hblank⟩

/-! ### Both forms read back -/

/-- The form with one item a line reads as the value it was written for. -/
theorem IsExact.read?_pretty (h : v.IsExact) : read? v.pretty = some v :=
  read?_of_reads (h.reads_prettyAt 0)

/-- So does the form on one line. -/
theorem IsExact.read?_compact (h : v.IsExact) : read? v.compact = some v :=
  read?_of_reads h.reads_compact

end Json

/-!
## Records read back

A record is written as an object that leaves some of its fields out, and read by the names of its
fields. Each field is found as it was written, as long as no two fields have one name.

* `Json.present` are the members that are written, and `Json.fields?_record` what a reader finds.
* `Json.Field.optional_written` and `Json.Field.defaulted_written`: a field that may be left out.
* `Json.toList?_arrayOf`, `Json.toNamed?_name` and `Json.toTable?_record`: values of fields.
-/

namespace Json

variable {α β : Type}

/-! ### Lists of values -/

/-- A reader that accepts every item accepts the list. -/
theorem mapM_eq_some_map {f : α → Option β} {g : α → β} {xs : List α}
    (h : ∀ x ∈ xs, f x = some (g x)) : xs.mapM f = some (xs.map g) := by
  induction xs with
  | nil => rfl
  | cons x xs ih =>
    rw [List.mapM_cons, h x List.mem_cons_self, ih fun y hy => h y (List.mem_cons_of_mem x hy)]
    rfl

/-- An array reads back item by item. -/
theorem toList?_arrayOf {write : α → Json} {read : Json → Option β} {g : α → β} {xs : List α}
    (h : ∀ x ∈ xs, read (write x) = some (g x)) :
    toList? read (arrayOf write xs) = some (xs.map g) := by
  rw [arrayOf, toList?, List.mapM_map]
  exact mapM_eq_some_map h

/-- An array whose items each read back as they were reads back as it was. -/
theorem toList?_arrayOf_self {write : α → Json} {read : Json → Option α} {xs : List α}
    (h : ∀ x ∈ xs, read (write x) = some x) : toList? read (arrayOf write xs) = some xs := by
  rw [toList?_arrayOf h, List.map_id']

/-- An array of texts reads back as it was. -/
theorem toList?_arrayOf_str (xs : List String) : toList? toText? (arrayOf str xs) = some xs :=
  toList?_arrayOf_self fun _ _ => by rfl

/-! ### Simple values -/

/-- A number of 32 bits reads back as it was. -/
theorem toUInt32?_nat (n : UInt32) : toUInt32? (.nat n.toNat) = some n := by
  simpa [nat, toUInt32?] using n.toNat_lt

/-- Where names tell values apart, a value is read by its name. -/
theorem toNamed?_name {all : List α} {name : α → String} (hnames : (all.map name).Nodup) {x : α}
    (hx : x ∈ all) : toNamed? all name (.str (name x)) = some x := by
  have hkey : ∀ y ∈ all, ∀ z ∈ all, name y = name z → y = z :=
    fun _ hy _ hz heq => List.inj_on_of_nodup_map hnames hy hz heq
  exact (find?_key_eq_some_iff hkey).2 ⟨hx, rfl⟩

/-! ### Tables -/

/-- A table without repeated keys is read as it was written. -/
theorem toTable?_record {table : Table} (h : (table.map Prod.fst).Nodup) :
    toTable? (.record (table.map fun entry => (entry.1, .str entry.2))) = some table := by
  have hentries : (table.map fun entry => (some entry.1, Json.str entry.2)).mapM toEntry? =
      some (table.map fun entry => entry) := by
    rw [List.mapM_map]
    exact mapM_eq_some_map fun _ _ => by rfl
  rw [record, List.map_map]
  show Option.map Table.ofEntries
    ((table.map fun entry => (some entry.1, Json.str entry.2)).mapM toEntry?) = _
  rw [hentries, List.map_id', Option.map_some, Table.ofEntries_of_nodup h]

/-! ### Fields -/

/-- The members that are written of a record, those with a value. -/
def present (fields : List (String × Option Json)) : List (String × Json) :=
  fields.filterMap fun field => field.2.map (field.1, ·)

/-- What a reader finds of a field that was written or left out. -/
def Field.written : Option Json → Field
  | some v => .value v
  | none => .absent

@[simp] theorem present_nil : present [] = [] := rfl

@[simp] theorem present_cons (field : String × Option Json) (fields : List (String × Option Json)) :
    present (field :: fields) = (field.2.map (field.1, ·)).toList ++ present fields := by
  rw [present, List.filterMap_cons]
  cases field.2 <;> rfl

/-- The members that are written have names of the record. -/
theorem fst_mem_of_mem_present {fields : List (String × Option Json)} {member : String × Json}
    (h : member ∈ present fields) : member.1 ∈ fields.map Prod.fst := by
  obtain ⟨field, hfield, hmember⟩ := List.mem_filterMap.1 h
  obtain ⟨v, -, rfl⟩ := Option.map_eq_some_iff.1 hmember
  exact List.mem_map_of_mem hfield

/-- Under the name of a field stands what was written of it. -/
theorem filter_present {fields : List (String × Option Json)} {field : String × Option Json}
    (hnames : (fields.map Prod.fst).Nodup) (h : field ∈ fields) :
    (present fields).filter (·.1 == field.1) = (field.2.map (field.1, ·)).toList := by
  induction fields with
  | nil => cases h
  | cons first fields ih =>
    rw [List.map_cons, List.nodup_cons] at hnames
    rw [present_cons, List.filter_append]
    rcases List.mem_cons.1 h with rfl | h
    · have hrest : (present fields).filter (·.1 == field.1) = [] := by
        rw [List.filter_eq_nil_iff]
        intro member hmember heq
        exact hnames.1 (beq_iff_eq.1 heq ▸ fst_mem_of_mem_present hmember)
      rw [hrest, List.append_nil]
      cases field.2 <;> simp
    · have hfirst : (first.2.map (first.1, ·)).toList.filter (·.1 == field.1) = [] := by
        have hne : first.1 ≠ field.1 := fun heq => hnames.1 (heq ▸ List.mem_map_of_mem h)
        cases first.2 <;> simp [hne]
      rw [hfirst, List.nil_append, ih hnames.2 h]

/-- Where no name occurs twice, each field is found as it was written, or found left out. -/
theorem member?_present {fields : List (String × Option Json)} {field : String × Option Json}
    (hnames : (fields.map Prod.fst).Nodup) (h : field ∈ fields) :
    member? ((present fields).map fun member => (some member.1, member.2)) field.1 =
      some (.written field.2) := by
  have hfilter : ((present fields).map fun member => (some member.1, member.2)).filter
      (·.1 == some field.1) = ((present fields).filter (·.1 == field.1)).map
        fun member => (some member.1, member.2) := by
    rw [List.filter_map]
    rfl
  rw [member?, hfilter, filter_present hnames h]
  cases field.2 <;> rfl

/-- Every field of a record is found as it was written. -/
theorem fields?_record (fields : List (String × Option Json))
    (hnames : (fields.map Prod.fst).Nodup) :
    (record (present fields)).fields? (fields.map Prod.fst) =
      some (fields.map fun field => .written field.2) := by
  have hnone : ((present fields).map fun member => (some member.1, member.2)).any
      (·.1.isNone) = false := by
    simp
  show (if _ then none else _) = _
  rw [if_neg (by rw [hnone]; exact Bool.false_ne_true), List.mapM_map]
  exact mapM_eq_some_map fun field hfield => member?_present hnames hfield

/-! ### Reading fields -/

@[simp] theorem Field.required_written (read : Json → Option α) (v : Json) :
    (Field.written (some v)).required read = read v := by rfl

@[simp] theorem Field.defaulted_written (read : Json → Option α) (default : α) (v : Json) :
    (Field.written (some v)).defaulted default read = read v := by rfl

@[simp] theorem Field.defaulted_left_out (read : Json → Option α) (default : α) :
    (Field.written none).defaulted default read = some default := by rfl

/-- An optional field is read as it was written or left out, if `null` is no value of it. -/
theorem Field.optional_written {write : α → Json} {read : Json → Option α} {o : Option α}
    (hnull : read .null = none) (h : ∀ x ∈ o, read (write x) = some x) :
    (Field.written (o.map write)).optional read = some o := by
  cases o with
  | none => rfl
  | some x =>
    have hread := h x rfl
    show (Field.value (write x)).optional read = some (some x)
    unfold Field.optional
    split
    next heq =>
      rw [Field.value.inj heq, hnull] at hread
      cases hread
    next heq => rw [← Field.value.inj heq, hread, Option.map_some]
    next heq => cases heq
    next heq => cases heq

/-- A list that is left out where it is empty is read as it is. -/
theorem Field.defaulted_listed (xs : List String) :
    (Field.written (if xs.isEmpty then none else some (arrayOf str xs))).defaulted []
      (toList? toText?) = some xs := by
  cases xs with
  | nil => rfl
  | cons x xs => exact toList?_arrayOf_str (x :: xs)

/-! ### Exact records -/

@[simp] theorem IsExact.nat (n : Nat) : (Json.nat n).IsExact := .integer n

@[simp] theorem IsExact.str (s : String) : (Json.str s).IsExact := .string (some s)

/-- An array holds no fractions where its items hold none. -/
theorem IsExact.arrayOf {write : α → Json} {xs : List α} (h : ∀ x ∈ xs, (write x).IsExact) :
    (Json.arrayOf write xs).IsExact := by
  refine .array fun v hv => ?_
  obtain ⟨x, hx, rfl⟩ := List.mem_map.1 hv
  exact h x hx

/-- An array of texts holds no fractions. -/
theorem IsExact.listed (xs : List String) : (Json.arrayOf Json.str xs).IsExact :=
  .arrayOf fun x _ => .str x

/-- A record holds no fractions where its members hold none. -/
theorem IsExact.record {members : List (String × Json)}
    (h : ∀ member ∈ members, member.2.IsExact) : (Json.record members).IsExact := by
  refine .object fun member hmember => ?_
  obtain ⟨m, hm, rfl⟩ := List.mem_map.1 hmember
  exact h m hm

/-- A record without its empty fields holds no fractions where the values of its fields hold
none. -/
theorem IsExact.present {fields : List (String × Option Json)}
    (h : ∀ field ∈ fields, ∀ v ∈ field.2, v.IsExact) : (Json.record (present fields)).IsExact := by
  refine .record fun member hmember => ?_
  obtain ⟨field, hfield, hmap⟩ := List.mem_filterMap.1 hmember
  obtain ⟨v, hv, rfl⟩ := Option.map_eq_some_iff.1 hmap
  exact h field hfield v hv

end Json

end KotestOutline
