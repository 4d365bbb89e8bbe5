import Mathlib.Data.Finset.Card
import Mathlib.Logic.Function.Basic
import Spreadsheet.Proofs.Book.DefinedName

/-! Tables of defined names that are edited name by name. Whatever is defined and removed, a table
is a partial map from names in lower case, each with its scope, to definitions, and it counts what
that map holds.
-/

namespace Spreadsheet.NameTable

-- Edits

/-- A name is defined, or removed from a scope. -/
inductive Edit where
  | define (d : DefinedName)
  | remove (name : String) (scope : Scope)

/-- Definitions by the lower case of their names and by their scopes. -/
abbrev Definitions := String × Scope → Option DefinedName

/-- The place of a definition among others. -/
def place (d : DefinedName) : String × Scope :=
  (Text.lower d.name, d.scope)

/-- The definitions after an edit: a valid name is defined where none is yet. -/
def Edit.effect (defined : Definitions) : Edit → Definitions
  | define d =>
    if DefinedName.isValid d.name ∧ defined (place d) = none then
      Function.update defined (place d) (some d)
    else
      defined
  | remove name scope => Function.update defined (Text.lower name, scope) none

/-- The definitions that some edits leave, the first of them in front, if there was none before. -/
def Edit.definitions (edits : List Edit) : Definitions :=
  edits.foldl effect fun _ => none

/-- The table that an edit leaves, whether it succeeds or fails. -/
def afterEdit (table : NameTable) : Edit → NameTable
  | .define d => (InPlace.define d).after table
  | .remove name scope => (table.remove name scope).2

/-- The table after some edits. -/
def afterEdits (table : NameTable) (edits : List Edit) : NameTable :=
  edits.foldl afterEdit table

variable {table table' : NameTable} {defined : Definitions} {d : DefinedName} {name : String}
  {scope : Scope}

-- What one edit does

/-- A table holds some definitions, each at its own place. -/
structure Holds (table : NameTable) (defined : Definitions) : Prop where
  entry : ∀ place, table.entries[place]? = defined place
  ownPlace : ∀ p d, defined p = some d → p = place d

theorem holds_empty : empty.Holds fun _ => none where
  entry _ := Std.HashMap.getElem?_empty
  ownPlace _ _ found := nomatch found

theorem Holds.contains (h : table.Holds defined) (p : String × Scope)
    : table.entries.contains p = false ↔ defined p = none := by
  rw [Std.HashMap.contains_eq_isSome_getElem?, h.entry, Option.isSome_eq_false_iff,
    Option.isNone_iff_eq_none]

/-- A name can be defined if it is valid and its place is free. -/
theorem Holds.define_eq_ok (h : table.Holds defined)
    : table.define d = .ok table' ↔ (DefinedName.isValid d.name ∧ defined (place d) = none)
      ∧ table' = ⟨table.entries.insert (place d) d⟩ := by
  rw [NameTable.define_eq_ok, ← and_assoc]
  exact and_congr_left' (and_congr_right' (h.contains _))

theorem Holds.insert (h : table.Holds defined) (d : DefinedName)
    : Holds ⟨table.entries.insert (place d) d⟩ (Function.update defined (place d) (some d)) where
  entry p := by
    rw [Std.HashMap.getElem?_insert, Function.update_apply, h.entry]
    exact if_congr (beq_iff_eq.trans eq_comm) rfl rfl
  ownPlace p d' found := by
    rw [Function.update_apply] at found
    split at found
    · next here =>
      cases found
      exact here
    · exact h.ownPlace p d' found

theorem Holds.remove (h : table.Holds defined) (name : String) (scope : Scope)
    : (table.remove name scope).2.Holds
        (Function.update defined (Text.lower name, scope) none) where
  entry p := by
    rw [NameTable.remove, erase, Std.HashMap.getElem?_erase, Function.update_apply, h.entry]
    exact if_congr (beq_iff_eq.trans eq_comm) rfl rfl
  ownPlace p d' found := by
    rw [Function.update_apply] at found
    split at found
    · cases found
    · exact h.ownPlace p d' found

theorem afterEdit_of_ok (done : table.define d = .ok table')
    : table.afterEdit (.define d) = table' :=
  Mutation.after_of_result done

theorem afterEdit_of_error {cause : DefinedNameError} (failed : table.define d = .error cause)
    : table.afterEdit (.define d) = table :=
  atomic_define d table cause failed

/-- A table and the definitions that it holds are edited alike, by cases on the edit. -/
theorem Holds.afterEdit (h : table.Holds defined) (e : Edit)
    : (table.afterEdit e).Holds (e.effect defined) := by
  cases e with
  | define d =>
    rw [Edit.effect]
    split
    · next free =>
      have done : table.define d = .ok ⟨table.entries.insert (place d) d⟩ :=
        h.define_eq_ok.mpr ⟨free, rfl⟩
      rw [afterEdit_of_ok done]
      exact h.insert d
    · next refused =>
      cases result : table.define d with
      | ok table' => exact absurd (h.define_eq_ok.mp result).1 refused
      | error cause => exact (afterEdit_of_error result).symm ▸ h
  | remove name scope => exact h.remove name scope

/-- After some edits a table holds the definitions that these leave, by induction on the edits. -/
theorem Holds.afterEdits (h : table.Holds defined) (edits : List Edit)
    : (table.afterEdits edits).Holds (edits.foldl Edit.effect defined) := by
  induction edits generalizing table defined with
  | nil => exact h
  | cons e later ih => exact ih (h.afterEdit e)

-- What a table with some definitions answers

theorem Holds.find? (h : table.Holds defined) (name : String) (scope : Scope)
    : table.find? name scope = defined (Text.lower name, scope) :=
  h.entry _

theorem toList_eq (table : NameTable) : table.toList = table.entries.toList.map Prod.snd := by
  have values := @Std.DHashMap.Internal.Raw₀.Const.foldRev_eq_foldr_toList _ (List DefinedName) _
    ⟨table.entries.inner.inner, table.entries.inner.wf.size_buckets_pos⟩
    (fun later _ d => d :: later) []
  exact values.trans List.map_eq_foldr.symm

/-- The definitions that are listed are those that are held. -/
theorem Holds.mem_toList (h : table.Holds defined)
    : d ∈ table.toList ↔ defined (place d) = some d := by
  rw [toList_eq, List.mem_map]
  constructor
  · rintro ⟨⟨p, d⟩, listed, rfl⟩
    have found : defined p = some d :=
      h.entry p ▸ Std.HashMap.mem_toList_iff_getElem?_eq_some.mp listed
    rwa [← h.ownPlace p d found]
  · intro found
    refine ⟨(place d, d), Std.HashMap.mem_toList_iff_getElem?_eq_some.mpr ?_, rfl⟩
    rw [h.entry, found]

/-- A place is free if no definition that is listed has the same lower case and scope. -/
theorem Holds.free_iff (h : table.Holds defined)
    : defined (place d) = none
      ↔ ∀ d' ∈ table.toList, d'.scope = d.scope → Text.lower d'.name ≠ Text.lower d.name := by
  constructor
  · intro free d' listed sameScope sameName
    have here : place d' = place d := Prod.ext sameName sameScope
    have found : defined (place d') = some d' := h.mem_toList.mp listed
    cases free.symm.trans (here ▸ found)
  · intro other
    by_contra taken
    obtain ⟨d', found⟩ := Option.ne_none_iff_exists'.mp taken
    have here : place d = place d' := h.ownPlace _ _ found
    exact other d' (h.mem_toList.mpr (here ▸ found)) (congrArg Prod.snd here).symm
      (congrArg Prod.fst here).symm

/-- The definitions that are listed are as many as the table counts, and no two have one place. -/
theorem Holds.nodup_places (h : table.Holds defined)
    : (table.toList.map place).Nodup ∧ table.toList.length = table.size := by
  have places : table.toList.map place = table.entries.keys := by
    rw [toList_eq, List.map_map, ← Std.HashMap.map_fst_toList_eq_keys]
    refine List.map_congr_left fun entry listed => ?_
    have found : defined entry.1 = some entry.2 :=
      h.entry entry.1 ▸ Std.HashMap.mem_toList_iff_getElem?_eq_some.mp listed
    exact (h.ownPlace _ _ found).symm
  refine ⟨places ▸ Std.HashMap.nodup_keys, ?_⟩
  rw [← List.length_map place, places]
  exact Std.HashMap.length_keys

/-- The table counts the places that are taken. -/
theorem Holds.card_eq_size (h : table.Holds defined)
    : ∃ taken : Finset (String × Scope), (∀ p, p ∈ taken ↔ defined p ≠ none)
      ∧ taken.card = table.size := by
  have distinct : table.entries.keys.Nodup := Std.HashMap.nodup_keys
  refine ⟨⟨table.entries.keys, distinct⟩, fun p => ?_, Std.HashMap.length_keys⟩
  change p ∈ table.entries.keys ↔ defined p ≠ none
  rw [Std.HashMap.mem_keys, ← h.entry, Std.HashMap.mem_iff_isSome_getElem?,
    Option.isSome_iff_ne_none]

/-- After any edits a table is a map from names in lower case, each with its scope, to the
definitions that the edits leave. A name is defined if it is valid and no definition in its scope
has the same lower case; then nothing else changes, and otherwise nothing at all. A name that is
removed gives its definition back and changes nothing else. A sheet sees its own definition of a
name, and the one of the workbook if it has none, under each spelling. The table counts the
definitions, of which no two have the same lower case and scope.
-/
theorem edited_definitions (edits : List Edit)
    : let table := empty.afterEdits edits
      let defined := Edit.definitions edits
      (∀ name scope, table.find? name scope = defined (Text.lower name, scope))
      ∧ (∀ d, (∃ table', table.define d = .ok table')
        ↔ DefinedName.isValid d.name
          ∧ ∀ d' ∈ table.toList, d'.scope = d.scope → Text.lower d'.name ≠ Text.lower d.name)
      ∧ (∀ d table', table.define d = .ok table' → ∀ name scope, table'.find? name scope
        = if place d = (Text.lower name, scope) then some d else table.find? name scope)
      ∧ (∀ d cause, table.define d = .error cause → table.afterEdit (.define d) = table)
      ∧ (∀ name scope, (table.remove name scope).1 = defined (Text.lower name, scope)
        ∧ ∀ name' scope', (table.remove name scope).2.find? name' scope'
          = if (Text.lower name, scope) = (Text.lower name', scope') then none
            else table.find? name' scope')
      ∧ (∀ name sheet, table.get? name sheet
        = (defined (Text.lower name, .sheet sheet)).or (defined (Text.lower name, .workbook)))
      ∧ (∃ taken : Finset (String × Scope), (∀ p, p ∈ taken ↔ defined p ≠ none)
        ∧ taken.card = table.size)
      ∧ (∀ d, d ∈ table.toList ↔ defined (place d) = some d)
      ∧ (table.toList.map place).Nodup ∧ table.toList.length = table.size := by
  intro table defined
  have holds : table.Holds defined := holds_empty.afterEdits edits
  refine ⟨holds.find?, fun d => ?_, fun d table' done => find?_of_define done,
    fun d cause failed => afterEdit_of_error failed, fun name scope => ⟨holds.find? name scope, ?_⟩,
    fun name sheet => ?_, holds.card_eq_size, fun d => holds.mem_toList, holds.nodup_places⟩
  · simp only [holds.define_eq_ok, exists_and_left, exists_eq, and_true, holds.free_iff]
  · intro name' scope'
    exact (Std.HashMap.getElem?_erase).trans (if_congr beq_iff_eq rfl rfl)
  · rw [get?, holds.find?, holds.find?]

/-- A name is refused in another spelling, hidden by that of a sheet, and removed from the workbook
alone; after that it can be defined again.
-/
theorem edited_definitions_shadowed
    : let own : DefinedName := ⟨"rate", .sheet 1, "2"⟩
      let edits : List Edit := [.define ⟨"Rate", .workbook, "1"⟩, .define ⟨"RATE", .workbook, "3"⟩,
        .define own, .define ⟨"1st", .workbook, "4"⟩, .remove "rAtE" .workbook]
      let table := empty.afterEdits edits
      table.get? "RATE" 1 = some own ∧ table.get? "Rate" 0 = none
        ∧ (table.remove "RATE" (.sheet 1)).1 = some own
        ∧ (∃ table', table.define ⟨"RATE", .workbook, "3"⟩ = .ok table')
        ∧ ¬∃ table', table.define ⟨"RATE", .sheet 1, "3"⟩ = .ok table' := by
  intro own edits table
  obtain ⟨_, defines, _, _, removed, seen, _, listed, _⟩ := edited_definitions edits
  have ⟨held, free, noOther⟩ : Edit.definitions edits ("rate", .sheet 1) = some own
      ∧ Edit.definitions edits ("rate", .workbook) = none
      ∧ Edit.definitions edits ("rate", .sheet 0) = none := by
    decide +kernel
  have ⟨capitals, capital, small⟩ : Text.lower "RATE" = "rate" ∧ Text.lower "Rate" = "rate"
      ∧ Text.lower "rate" = "rate" := by
    decide +kernel
  refine ⟨?_, ?_, ?_, (defines _).mpr ⟨by decide +kernel, fun d' mem shared same => ?_⟩,
    fun again => ?_⟩
  · rw [seen, capitals, held]
    rfl
  · rw [seen, capital, noOther, free]
    rfl
  · rw [(removed "RATE" (.sheet 1)).1, capitals, held]
  · have here : place d' = ("rate", .workbook) := Prod.ext (same.trans capitals) shared
    have found : Edit.definitions edits (place d') = some d' := (listed d').mp mem
    cases free.symm.trans (here ▸ found)
  · have here : place own = ("rate", .sheet 1) := Prod.ext small rfl
    have mem : own ∈ table.toList := (listed own).mpr (here ▸ held)
    exact ((defines _).mp again).2 own mem rfl (small.trans capitals.symm)

end Spreadsheet.NameTable
