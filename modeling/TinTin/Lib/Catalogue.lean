/-
  SQLite catalogues, and the statements that define tables and indexes.

  A catalogue holds the tables with their columns and rows, and the indexes. What SQLite
  guarantees of a file is in the types: a row is as wide as its table, column names and table
  names are distinct, and an index is on a column that exists.

  * `Catalogue.exec`: `CREATE .. IF NOT EXISTS` is a no-op on an existing object, an index on
    a missing column is an error, and so is adding a column that exists.
  * `Catalogue.executeBatch`: statements in order, up to the first error.
  * `Extends`: tables keep their columns and rows, which only grow at the end. Every
    statement extends (`executeBatch_extends`), so nothing that was stored is lost.
  * `executeBatch_created`, `executeBatch_creates_ok`, `executeBatch_ok_indexes`: what a
    script of `CREATE` statements over existing tables can change, when it succeeds, and what
    it then has made.
-/
import Mathlib.Data.List.Nodup
import Mathlib.Data.List.Forall2

namespace TinTin.Lib

/-- A stored value. -/
inductive SqlValue
  | null
  | integer (n : Int)
  | real (bits : UInt64)
  | text (s : String)
  | blob (bs : List UInt8)
  deriving DecidableEq, Repr

/-- A column: its name, and its type and constraints as written. -/
structure Column where
  name : String
  decl : String
  deriving DecidableEq, Repr

/-- A table. -/
structure Table where
  name : String
  columns : List Column
  rows : List (List SqlValue)
  distinct : (columns.map Column.name).Nodup
  width : ∀ r ∈ rows, r.length = columns.length

/-- An index on one column of a table. -/
structure Index where
  name : String
  table : String
  column : String
  deriving DecidableEq, Repr

namespace Table

def columnNames (t : Table) : List String := t.columns.map Column.name

/-- The table with one more column, in which every row holds `value`. -/
def addColumn (t : Table) (c : Column) (value : SqlValue) (h : c.name ∉ t.columnNames) : Table where
  name := t.name
  columns := t.columns ++ [c]
  rows := t.rows.map (· ++ [value])
  distinct := by
    rw [List.map_append, List.map_singleton, List.nodup_append_comm]
    exact List.nodup_cons.mpr ⟨h, t.distinct⟩
  width := by
    intro r hr
    obtain ⟨r', hr', rfl⟩ := List.mem_map.mp hr
    rw [List.length_append, List.length_append, t.width r' hr']
    rfl

/-- `t'` is `t` with columns added at the end: every row keeps its values. -/
structure ExtendedBy (t t' : Table) : Prop where
  name : t'.name = t.name
  columns : t.columns <+: t'.columns
  rows : List.Forall₂ (· <+: ·) t.rows t'.rows

theorem prefixes_trans {xs ys zs : List (List SqlValue)} (h : List.Forall₂ (· <+: ·) xs ys)
    (h' : List.Forall₂ (· <+: ·) ys zs) : List.Forall₂ (· <+: ·) xs zs := by
  induction h generalizing zs with
  | nil => exact h'
  | cons hxy _ ih =>
    cases h' with
    | cons hyz hrest => exact .cons (hxy.trans hyz) (ih hrest)

theorem ExtendedBy.refl (t : Table) : t.ExtendedBy t where
  name := rfl
  columns := List.prefix_rfl
  rows := List.forall₂_same.mpr fun _ _ => List.prefix_rfl

theorem ExtendedBy.trans {t t' t'' : Table} (h : t.ExtendedBy t') (h' : t'.ExtendedBy t'') :
    t.ExtendedBy t'' where
  name := h'.name.trans h.name
  columns := h.columns.trans h'.columns
  rows := prefixes_trans h.rows h'.rows

theorem extendedBy_addColumn (t : Table) (c : Column) (value : SqlValue)
    (h : c.name ∉ t.columnNames) : t.ExtendedBy (t.addColumn c value h) where
  name := rfl
  columns := List.prefix_append _ _
  rows := by
    show List.Forall₂ _ t.rows (t.rows.map _)
    rw [List.forall₂_map_right_iff]
    exact List.forall₂_same.mpr fun r _ => List.prefix_append _ _

theorem ExtendedBy.columnNames {t t' : Table} (h : t.ExtendedBy t') {col : String}
    (hc : col ∈ t.columnNames) : col ∈ t'.columnNames :=
  (h.columns.map Column.name).subset hc

end Table

/-- The catalogue of a database file. -/
structure Catalogue where
  journalMode : String
  tables : List Table
  indexes : List Index
  distinct : (tables.map Table.name).Nodup
  indexed : ∀ i ∈ indexes, ∃ t ∈ tables, t.name = i.table ∧ i.column ∈ t.columnNames

/-- Errors of a statement. -/
inductive SqlError
  | noSuchTable
  | noSuchColumn
  | duplicateColumn
  | notNullWithoutDefault
  deriving DecidableEq, Repr

/-- The statements of a schema script. -/
inductive DdlStatement
  /-- `PRAGMA journal_mode=..` -/
  | journalMode (mode : String)
  /-- `CREATE TABLE IF NOT EXISTS` -/
  | createTable (name : String) (columns : List Column)
  /-- `CREATE INDEX IF NOT EXISTS` -/
  | createIndex (index : Index)
  /-- `ALTER TABLE .. ADD COLUMN`, with the default that existing rows get -/
  | addColumn (table : String) (column : Column) (notNull : Bool) (default : SqlValue)
  deriving DecidableEq, Repr

namespace Catalogue

/-- The catalogue of a new file. -/
def empty : Catalogue where
  journalMode := "delete"
  tables := []
  indexes := []
  distinct := .nil
  indexed := by simp

def HasTable (c : Catalogue) (table : String) : Prop := ∃ t ∈ c.tables, t.name = table

def HasColumn (c : Catalogue) (table column : String) : Prop :=
  ∃ t ∈ c.tables, t.name = table ∧ column ∈ t.columnNames

instance decidableHasTable (c : Catalogue) (table : String) : Decidable (c.HasTable table) :=
  inferInstanceAs (Decidable (∃ t ∈ c.tables, t.name = table))

instance decidableHasColumn (c : Catalogue) (table column : String) :
    Decidable (c.HasColumn table column) :=
  inferInstanceAs (Decidable (∃ t ∈ c.tables, t.name = table ∧ column ∈ t.columnNames))

/-! ## Statements -/

/-- Add a table that is not there yet. -/
def addTable (c : Catalogue) (name : String) (columns : List Column)
    (hcols : (columns.map Column.name).Nodup) (h : ¬ c.HasTable name) : Catalogue where
  journalMode := c.journalMode
  tables := c.tables ++ [⟨name, columns, [], hcols, by simp⟩]
  indexes := c.indexes
  distinct := by
    rw [List.map_append, List.map_singleton, List.nodup_append_comm]
    refine List.nodup_cons.mpr ⟨fun hm => h ?_, c.distinct⟩
    obtain ⟨t, ht, hn⟩ := List.mem_map.mp hm
    exact ⟨t, ht, hn⟩
  indexed i hi := by
    obtain ⟨t, ht, h⟩ := c.indexed i hi
    exact ⟨t, List.mem_append_left _ ht, h⟩

/-- Add an index on a column that is there. -/
def addIndex (c : Catalogue) (index : Index) (h : c.HasColumn index.table index.column) :
    Catalogue where
  journalMode := c.journalMode
  tables := c.tables
  indexes := c.indexes ++ [index]
  distinct := c.distinct
  indexed i hi := by
    rcases List.mem_append.mp hi with hi | hi
    · exact c.indexed i hi
    · rw [List.mem_singleton] at hi
      subst hi
      exact h

/-- Add a column to the table of that name. -/
def alterTable (table : String) (column : Column) (value : SqlValue) (t : Table) : Table :=
  if h : t.name = table ∧ column.name ∉ t.columnNames then t.addColumn column value h.2 else t

theorem extendedBy_alterTable (table : String) (column : Column) (value : SqlValue) (t : Table) :
    t.ExtendedBy (alterTable table column value t) := by
  unfold alterTable
  split
  · exact Table.extendedBy_addColumn _ _ _ _
  · exact .refl t

def addColumn (c : Catalogue) (table : String) (column : Column) (value : SqlValue) :
    Catalogue where
  journalMode := c.journalMode
  tables := c.tables.map (alterTable table column value)
  indexes := c.indexes
  distinct := by
    have hnames : (c.tables.map (alterTable table column value)).map Table.name =
        c.tables.map Table.name := by
      rw [List.map_map]
      exact List.map_congr_left fun t _ => (extendedBy_alterTable table column value t).name
    rw [hnames]
    exact c.distinct
  indexed i hi := by
    obtain ⟨t, ht, hname, hcol⟩ := c.indexed i hi
    have hext := extendedBy_alterTable table column value t
    exact ⟨_, List.mem_map_of_mem ht, hext.name.trans hname, hext.columnNames hcol⟩

/-- Run one statement. -/
def exec (c : Catalogue) : DdlStatement → Except SqlError Catalogue
  | .journalMode mode => .ok { c with journalMode := mode }
  | .createTable name columns =>
    if h : c.HasTable name then .ok c
    else if hcols : (columns.map Column.name).Nodup then .ok (c.addTable name columns hcols h)
    else .error .duplicateColumn
  | .createIndex index =>
    if ¬ c.HasTable index.table then .error .noSuchTable
    else if index.name ∈ c.indexes.map Index.name then .ok c
    else if h : c.HasColumn index.table index.column then .ok (c.addIndex index h)
    else .error .noSuchColumn
  | .addColumn table column notNull default =>
    if ¬ c.HasTable table then .error .noSuchTable
    else if c.HasColumn table column.name then .error .duplicateColumn
    else if notNull ∧ default = .null then .error .notNullWithoutDefault
    else .ok (c.addColumn table column default)

/-- `execute_batch`: run statements in order, up to the first error. -/
def executeBatch (c : Catalogue) : List DdlStatement → Except SqlError Unit × Catalogue
  | [] => (.ok (), c)
  | s :: rest =>
    match c.exec s with
    | .error e => (.error e, c)
    | .ok c => c.executeBatch rest

theorem executeBatch_cons_ok {c c' : Catalogue} {s : DdlStatement} (h : c.exec s = .ok c')
    (rest : List DdlStatement) : c.executeBatch (s :: rest) = c'.executeBatch rest := by
  rw [executeBatch, h]

/-! ## Nothing stored is lost -/

/-- `c'` has every table and index of `c`, with columns added to tables at most. -/
structure Extends (c c' : Catalogue) : Prop where
  tables : ∀ t ∈ c.tables, ∃ t' ∈ c'.tables, t.ExtendedBy t'
  indexes : c.indexes ⊆ c'.indexes

theorem Extends.refl (c : Catalogue) : c.Extends c where
  tables t ht := ⟨t, ht, .refl t⟩
  indexes := List.Subset.refl _

theorem Extends.trans {c c' c'' : Catalogue} (h : c.Extends c') (h' : c'.Extends c'') :
    c.Extends c'' where
  tables t ht := by
    obtain ⟨t', ht', hext⟩ := h.tables t ht
    obtain ⟨t'', ht'', hext'⟩ := h'.tables t' ht'
    exact ⟨t'', ht'', hext.trans hext'⟩
  indexes := List.Subset.trans h.indexes h'.indexes

theorem Extends.hasTable {c c' : Catalogue} (h : c.Extends c') {table : String}
    (ht : c.HasTable table) : c'.HasTable table := by
  obtain ⟨t, ht, hname⟩ := ht
  obtain ⟨t', ht', hext⟩ := h.tables t ht
  exact ⟨t', ht', hext.name.trans hname⟩

theorem Extends.hasColumn {c c' : Catalogue} (h : c.Extends c') {table column : String}
    (hc : c.HasColumn table column) : c'.HasColumn table column := by
  obtain ⟨t, ht, hname, hcol⟩ := hc
  obtain ⟨t', ht', hext⟩ := h.tables t ht
  exact ⟨t', ht', hext.name.trans hname, hext.columnNames hcol⟩

theorem exec_extends {c c' : Catalogue} {s : DdlStatement} (h : c.exec s = .ok c') :
    c.Extends c' := by
  cases s with
  | journalMode mode =>
    cases h
    exact ⟨fun t ht => ⟨t, ht, .refl t⟩, List.Subset.refl _⟩
  | createTable name columns =>
    dsimp only [exec] at h
    split_ifs at h
    · cases h
      exact .refl c
    · cases h
      exact ⟨fun t ht => ⟨t, List.mem_append_left _ ht, .refl t⟩, List.Subset.refl _⟩
  | createIndex index =>
    dsimp only [exec] at h
    split_ifs at h
    · cases h
      exact .refl c
    · cases h
      exact ⟨fun t ht => ⟨t, ht, .refl t⟩, List.subset_append_left _ _⟩
  | addColumn table column notNull default =>
    dsimp only [exec] at h
    split_ifs at h
    cases h
    exact ⟨fun t ht => ⟨_, List.mem_map_of_mem ht, extendedBy_alterTable _ _ _ t⟩,
      List.Subset.refl _⟩

/-- **A batch keeps everything stored**, whether or not it reaches its end. -/
theorem executeBatch_extends (c : Catalogue) (stmts : List DdlStatement) :
    c.Extends (c.executeBatch stmts).2 := by
  induction stmts generalizing c with
  | nil => exact .refl c
  | cons s rest ih =>
    unfold executeBatch
    split
    · exact .refl c
    · next c' h => exact (exec_extends h).trans (ih c')

/-! ## Scripts of `CREATE` statements -/

/-- The statement creates a table that is already there, or an index on a table that is. -/
inductive Creates (c : Catalogue) : DdlStatement → Prop
  | table {name : String} {columns : List Column} :
      c.HasTable name → Creates c (.createTable name columns)
  | index {index : Index} : c.HasTable index.table → Creates c (.createIndex index)

theorem Creates.congr {c c' : Catalogue} (ht : c'.tables = c.tables) {s : DdlStatement}
    (h : c.Creates s) : c'.Creates s := by
  cases h with
  | table h => exact .table (by unfold HasTable at *; rwa [ht])
  | index h => exact .index (by unfold HasTable at *; rwa [ht])

theorem hasColumn_congr {c c' : Catalogue} (ht : c'.tables = c.tables) (table column : String) :
    c'.HasColumn table column ↔ c.HasColumn table column := by
  unfold HasColumn
  rw [ht]

/-- On an existing table `CREATE TABLE IF NOT EXISTS` does nothing. -/
theorem exec_createTable_existing {c : Catalogue} {name : String} (h : c.HasTable name)
    (columns : List Column) : c.exec (.createTable name columns) = .ok c := by
  dsimp only [exec]
  rw [dif_pos h]

/-- On an existing name `CREATE INDEX IF NOT EXISTS` does nothing. -/
theorem exec_createIndex_existing {c : Catalogue} {index : Index} (h : index ∈ c.indexes) :
    c.exec (.createIndex index) = .ok c := by
  obtain ⟨t, ht, hname, -⟩ := c.indexed index h
  have htable : c.HasTable index.table := ⟨t, ht, hname⟩
  dsimp only [exec]
  rw [if_neg (not_not.mpr htable), if_pos (List.mem_map_of_mem h)]

/-- `c'` has the tables of `c`, and indexes of `c` or of the script. -/
structure Created (c c' : Catalogue) (stmts : List DdlStatement) : Prop where
  journalMode : c'.journalMode = c.journalMode
  tables : c'.tables = c.tables
  indexes : ∀ i ∈ c'.indexes, i ∈ c.indexes ∨ .createIndex i ∈ stmts

theorem exec_created {c c' : Catalogue} {s : DdlStatement} (hs : c.Creates s)
    (h : c.exec s = .ok c') : c.Created c' [s] := by
  cases hs with
  | table ht =>
    rw [exec_createTable_existing ht] at h
    cases h
    exact ⟨rfl, rfl, fun i hi => .inl hi⟩
  | @index index ht =>
    dsimp only [exec] at h
    split_ifs at h
    · cases h
      exact ⟨rfl, rfl, fun i hi => .inl hi⟩
    · cases h
      refine ⟨rfl, rfl, fun i hi => ?_⟩
      rcases List.mem_append.mp hi with hi | hi
      · exact .inl hi
      · rw [List.mem_singleton] at hi
        subst hi
        exact .inr (by simp)

/-- A script of `CREATE` statements over existing tables leaves the tables alone. -/
theorem executeBatch_created {c : Catalogue} {stmts : List DdlStatement}
    (h : ∀ s ∈ stmts, c.Creates s) : c.Created (c.executeBatch stmts).2 stmts := by
  induction stmts generalizing c with
  | nil => exact ⟨rfl, rfl, fun i hi => .inl hi⟩
  | cons s rest ih =>
    unfold executeBatch
    split
    · exact ⟨rfl, rfl, fun i hi => .inl hi⟩
    · next c' hc' =>
      have h₁ := exec_created (h s (by simp)) hc'
      have h₂ := ih fun s' hs' => (h s' (List.mem_cons_of_mem _ hs')).congr h₁.tables
      refine ⟨h₂.journalMode.trans h₁.journalMode, h₂.tables.trans h₁.tables, fun i hi => ?_⟩
      rcases h₂.indexes i hi with hi | hi
      · rcases h₁.indexes i hi with hi | hi
        · exact .inl hi
        · exact .inr (List.mem_append_left rest hi)
      · exact .inr (List.mem_cons_of_mem _ hi)

/-- Such a script succeeds if the columns of its indexes are there. -/
theorem executeBatch_creates_ok {c : Catalogue} {stmts : List DdlStatement}
    (h : ∀ s ∈ stmts, c.Creates s)
    (hcols : ∀ i, .createIndex i ∈ stmts → c.HasColumn i.table i.column) :
    (c.executeBatch stmts).1 = .ok () := by
  induction stmts generalizing c with
  | nil => rfl
  | cons s rest ih =>
    have hok : ∃ c', c.exec s = .ok c' := by
      cases h s (by simp) with
      | table ht => exact ⟨c, exec_createTable_existing ht _⟩
      | @index index ht =>
        dsimp only [exec]
        rw [if_neg (not_not.mpr ht), dif_pos (hcols index (by simp))]
        split_ifs
        · exact ⟨_, rfl⟩
        · exact ⟨_, rfl⟩
    obtain ⟨c', hc'⟩ := hok
    have hcreated := exec_created (h s (by simp)) hc'
    rw [executeBatch_cons_ok hc']
    refine ih (fun s' hs' => (h s' (List.mem_cons_of_mem _ hs')).congr hcreated.tables) ?_
    intro i hi
    rw [hasColumn_congr hcreated.tables]
    exact hcols i (List.mem_cons_of_mem _ hi)

/-- A script that succeeds has made an index under each of its index names. -/
theorem executeBatch_ok_indexes {c : Catalogue} {stmts : List DdlStatement}
    (h : (c.executeBatch stmts).1 = .ok ()) {i : Index} (hi : .createIndex i ∈ stmts) :
    i.name ∈ (c.executeBatch stmts).2.indexes.map Index.name := by
  induction stmts generalizing c with
  | nil => cases hi
  | cons s rest ih =>
    unfold executeBatch at h ⊢
    split at h
    · cases h
    · next c' hc' =>
      rcases List.mem_cons.mp hi with rfl | hi
      · have hname : i.name ∈ c'.indexes.map Index.name := by
          dsimp only [exec] at hc'
          split_ifs at hc' with _ hn
          · cases hc'
            exact hn
          · cases hc'
            simp [addIndex]
        exact (List.map_subset _ (executeBatch_extends c' rest).indexes) hname
      · exact ih h hi

/-- Over a catalogue that has all its objects a script of `CREATE` statements does nothing. -/
theorem executeBatch_existing {c : Catalogue} {stmts : List DdlStatement}
    (h : ∀ s ∈ stmts, c.Creates s) (hi : ∀ i, .createIndex i ∈ stmts → i ∈ c.indexes) :
    c.executeBatch stmts = (.ok (), c) := by
  induction stmts with
  | nil => rfl
  | cons s rest ih =>
    have hs : c.exec s = .ok c := by
      cases h s (by simp) with
      | table ht => exact exec_createTable_existing ht _
      | index ht => exact exec_createIndex_existing (hi _ (by simp))
    rw [executeBatch_cons_ok hs]
    exact ih (fun s' hs' => h s' (List.mem_cons_of_mem _ hs'))
      fun i hi' => hi i (List.mem_cons_of_mem _ hi')

/-! ## Adding columns -/

/-- After the attempt to add a column to an existing table, the column is there. -/
theorem hasColumn_addColumn {c : Catalogue} {table : String} (ht : c.HasTable table)
    (column : Column) {notNull : Bool} {default : SqlValue}
    (hd : ¬ (notNull = true ∧ default = .null)) :
    (c.executeBatch [.addColumn table column notNull default]).2.HasColumn table column.name := by
  dsimp only [executeBatch, exec]
  rw [if_neg (not_not.mpr ht)]
  by_cases hc : c.HasColumn table column.name
  · rw [if_pos hc]
    exact hc
  · rw [if_neg hc, if_neg hd]
    obtain ⟨t, ht, hname⟩ := ht
    have hnot : column.name ∉ t.columnNames := fun hm => hc ⟨t, ht, hname, hm⟩
    refine ⟨_, List.mem_map_of_mem ht, ?_⟩
    unfold alterTable
    rw [dif_pos ⟨hname, hnot⟩]
    exact ⟨hname, by simp [Table.columnNames, Table.addColumn]⟩

/-- Adding a column that is there is an error, and changes nothing. -/
theorem executeBatch_addColumn_existing {c : Catalogue} {table : String} (column : Column)
    (notNull : Bool) (default : SqlValue) (hc : c.HasColumn table column.name) :
    c.executeBatch [.addColumn table column notNull default] = (.error .duplicateColumn, c) := by
  obtain ⟨t, ht, hname, hcol⟩ := hc
  have htable : c.HasTable table := ⟨t, ht, hname⟩
  dsimp only [executeBatch, exec]
  rw [if_neg (not_not.mpr htable), if_pos ⟨t, ht, hname, hcol⟩]

theorem journalMode_addColumn (c : Catalogue) (table : String) (column : Column) (notNull : Bool)
    (default : SqlValue) :
    (c.executeBatch [.addColumn table column notNull default]).2.journalMode = c.journalMode := by
  dsimp only [executeBatch, exec]
  split_ifs <;> rfl

end Catalogue

end TinTin.Lib
