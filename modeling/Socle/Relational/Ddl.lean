import Socle.Relational.Table

/-!
# Schemas and scripts that change them

The part of the data definition language of Postgres that migrations use, over databases whose rows
are lists of values in the order of the columns.

* `Column`, `Constraint`, `TableDef`, `Index`, `Schema`;
* `Database`: a schema with the rows of each table; `Database.Valid`: the rows obey the schema;
* `Statement`, which acts on the schema (`schemaStep`) and on the rows (`dataStep`);
* `run`: a script executed in one transaction, so that a failure leaves nothing behind.

A script fails on a database of a given schema, whatever its rows, as soon as it fails on the schema
(`run_schema`); it fails for that reason only if the tables that it checks are empty (`run_empty`), or
if it checks none (`run_accepting`).
-/

namespace Relational

/-! ### Schemas -/

inductive ColumnType
  | uuid
  | text
  | boolean
  | timestamptz
  | enum (type : String)
  deriving DecidableEq

/-- The expression after `DEFAULT`. -/
inductive Default
  | literal (v : Value)
  | now
  | genRandomUuid
  deriving DecidableEq

structure Column where
  name : String
  type : ColumnType
  notNull : Bool
  default : Option Default
  deriving DecidableEq

/-- The constraints of a table that have a name of their own. -/
inductive Constraint
  | primaryKey (name : String) (columns : List String)
  | unique (name : String) (columns : List String)
  | foreignKey (name : String) (columns : List String) (refTable : String) (refColumns : List String)
  deriving DecidableEq

structure TableDef where
  name : String
  columns : List Column
  constraints : List Constraint
  deriving DecidableEq

structure Index where
  name : String
  table : String
  columns : List String
  unique : Bool
  deriving DecidableEq

structure Schema where
  types : List (String × List String)
  tables : List TableDef
  indexes : List Index
  deriving DecidableEq

/-- The name of a column after `old` is renamed to `new`. -/
def renamed (old new c : String) : String := if c = old then new else c

/-- What a statement reports when it fails. -/
inductive DdlError
  | undefinedTable
  | undefinedColumn
  | duplicateColumn
  | duplicateRelation
  | duplicateType
  | dependentObjects
  | notNullViolation
  | uniqueViolation
  deriving DecidableEq

namespace Constraint

def columns : Constraint → List String
  | primaryKey _ cs => cs
  | unique _ cs => cs
  | foreignKey _ cs _ _ => cs

/-- The name of the index behind a constraint; it lives among the names of tables and indexes. -/
def indexName : Constraint → Option String
  | primaryKey n _ => some n
  | unique n _ => some n
  | foreignKey _ _ _ _ => none

def refersTo (table : String) : Constraint → Bool
  | foreignKey _ _ t _ => t == table
  | _ => false

/-- A constraint of the table `owner` after a column of `table` is renamed. -/
def rename (owner table old new : String) : Constraint → Constraint
  | primaryKey n cs => primaryKey n (if owner = table then cs.map (renamed old new) else cs)
  | unique n cs => unique n (if owner = table then cs.map (renamed old new) else cs)
  | foreignKey n cs t rs =>
    foreignKey n (if owner = table then cs.map (renamed old new) else cs) t
      (if t = table then rs.map (renamed old new) else rs)

end Constraint

namespace TableDef

def columnNames (t : TableDef) : List String := t.columns.map (·.name)

/-- The unique keys a table declares, with their names and columns, in the order of creation. -/
def keys (t : TableDef) : List (String × List String) :=
  t.constraints.filterMap fun k => k.indexName.map (·, k.columns)

end TableDef

namespace Schema

def empty : Schema := ⟨[], [], []⟩

/-- The names of tables and indexes share one name space. -/
def relationNames (s : Schema) : List String :=
  s.tables.map (·.name) ++ s.indexes.map (·.name) ++
    s.tables.flatMap fun t => t.constraints.filterMap Constraint.indexName

def table (s : Schema) (name : String) : Except DdlError TableDef :=
  match s.tables.find? (·.name == name) with
  | some t => .ok t
  | none => .error .undefinedTable

def setTable (s : Schema) (t : TableDef) : Schema :=
  { s with tables := s.tables.map fun t' => if t'.name = t.name then t else t' }

/-- All unique keys on a table: those it declares, then those of its unique indexes. -/
def keysOf (s : Schema) (name : String) : List (String × List String) :=
  (s.tables.filter (·.name == name)).flatMap TableDef.keys ++
    (s.indexes.filter fun i => i.table == name && i.unique).map fun i => (i.name, i.columns)

end Schema

/-! ### Rows under a schema -/

/-- A row: its values in the order of the columns. -/
abbrev Row : Type := List Value

def Value.hasType (s : Schema) : Value → ColumnType → Bool
  | .null, _ => true
  | .uuid _, .uuid => true
  | .text _, .text => true
  | .bool _, .boolean => true
  | .timestamp _, .timestamptz => true
  | .enum l, .enum t => s.types.any fun p => p.1 == t && p.2.contains l
  | _, _ => false

namespace TableDef

/-- The value of `row` in the column `c`. -/
def cell (t : TableDef) (c : String) (row : Row) : Value :=
  row.getD (t.columnNames.idxOf c) .null

/-- The values of `row` in the columns `cs`. -/
def project (t : TableDef) (cs : List String) (row : Row) : List Value :=
  cs.map fun c => t.cell c row

/-- A row has a value of the right type for each column, `NULL` only where that is allowed. -/
def Typed (s : Schema) (t : TableDef) (row : Row) : Prop :=
  row.length = t.columns.length ∧
    ∀ p ∈ row.zip t.columns, p.1.hasType s p.2.type = true ∧ (p.2.notNull = true → p.1 ≠ .null)

instance (s : Schema) (t : TableDef) (row : Row) : Decidable (t.Typed s row) :=
  inferInstanceAs (Decidable (_ ∧ _))

/-- A `NOT NULL` column has no `NULL`. -/
theorem Typed.ne_null {s : Schema} {t : TableDef} {row : Row} (h : t.Typed s row) {i : ℕ} {c : Column}
    (hc : t.columns[i]? = some c) (hnn : c.notNull = true) : row.getD i .null ≠ .null := by
  obtain ⟨hi, rfl⟩ := List.getElem?_eq_some_iff.1 hc
  have hi' : i < row.length := by rw [h.1]; exact hi
  have hmem : (row[i], t.columns[i]) ∈ row.zip t.columns := by
    rw [← List.getElem_zip]
    exact List.getElem_mem (h := by rw [List.length_zip]; omega)
  rw [List.getD_eq_getElem?_getD, List.getElem?_eq_getElem hi', Option.getD_some]
  exact (h.2 _ hmem).2 hnn

/-- No two rows agree on the columns `cs`, unless with a `NULL` among them. -/
def UniqueOn (t : TableDef) (cs : List String) (rows : List Row) : Prop :=
  rows.Pairwise fun a b => ¬ (t.project cs a = t.project cs b ∧ .null ∉ t.project cs a)

instance (t : TableDef) (cs : List String) (rows : List Row) : Decidable (t.UniqueOn cs rows) :=
  inferInstanceAs (Decidable (List.Pairwise _ _))

end TableDef

/-- A schema with the rows of each table. -/
structure Database where
  schema : Schema
  rows : String → List Row

namespace Database

def empty : Database := ⟨.empty, fun _ => []⟩

/-- What a constraint of `t` demands of the rows beyond uniqueness. -/
def References (d : Database) (t : TableDef) : Constraint → Prop
  | .foreignKey _ cs refTable rs =>
    ∀ row ∈ d.rows t.name, .null ∈ t.project cs row ∨
      ∃ t' ∈ d.schema.tables, t'.name = refTable ∧
        ∃ row' ∈ d.rows refTable, t'.project rs row' = t.project cs row
  | _ => True

instance (d : Database) (t : TableDef) : ∀ k : Constraint, Decidable (d.References t k)
  | .foreignKey _ _ _ _ => by unfold References; infer_instance
  | .primaryKey _ _ => inferInstanceAs (Decidable True)
  | .unique _ _ => inferInstanceAs (Decidable True)

/-- The rows obey the schema. -/
structure Valid (d : Database) : Prop where
  typed : ∀ t ∈ d.schema.tables, ∀ row ∈ d.rows t.name, t.Typed d.schema row
  unique : ∀ t ∈ d.schema.tables, ∀ k ∈ d.schema.keysOf t.name, t.UniqueOn k.2 (d.rows t.name)
  references : ∀ t ∈ d.schema.tables, ∀ k ∈ t.constraints, d.References t k

instance (d : Database) : Decidable d.Valid :=
  decidable_of_iff
    ((∀ t ∈ d.schema.tables, ∀ row ∈ d.rows t.name, t.Typed d.schema row) ∧
      (∀ t ∈ d.schema.tables, ∀ k ∈ d.schema.keysOf t.name, t.UniqueOn k.2 (d.rows t.name)) ∧
      ∀ t ∈ d.schema.tables, ∀ k ∈ t.constraints, d.References t k)
    ⟨fun h => ⟨h.1, h.2.1, h.2.2⟩, fun h => ⟨h.typed, h.unique, h.references⟩⟩

end Database

/-! ### Statements -/

/-- One action of `ALTER TABLE`. -/
inductive Alter
  | addColumn (name : String) (type : ColumnType) (notNull : Bool)
  | dropColumn (name : String)
  | renameColumn (old new : String)
  | setNotNull (name : String)
  | addUnique (name : String) (columns : List String)

/-- The statements of migrations; the `drop` statements are those with `IF EXISTS`. -/
inductive Statement
  | createType (name : String) (labels : List String)
  | createTable (t : TableDef)
  | createIndex (i : Index)
  | alter (table : String) (a : Alter)
  | dropTable (name : String)
  | dropType (name : String)
  | dropIndex (name : String)
  /-- `UPDATE table SET c = src.c', … FROM source src WHERE src.k' = table.k`, where no `c` is part of
  a foreign key. -/
  | updateFrom (table : String) (set : List (String × String)) (source : String) (on : String × String)

/-- `ALTER TABLE` with several actions. -/
def alterTable (table : String) (actions : List Alter) : List Statement :=
  actions.map (Statement.alter table)

/-- The effect of an action on the schema, where `t` is the altered table. -/
def Alter.schemaStep (s : Schema) (t : TableDef) : Alter → Except DdlError Schema
  | addColumn c type notNull =>
    if c ∈ t.columnNames then .error .duplicateColumn
    else .ok (s.setTable { t with columns := t.columns ++ [⟨c, type, notNull, none⟩] })
  | dropColumn c =>
    if c ∉ t.columnNames then .error .undefinedColumn
    else if s.tables.any fun t' => t'.constraints.any fun k => match k with
        | .foreignKey _ _ r rs => r == t.name && rs.contains c
        | _ => false then .error .dependentObjects
    else
      -- The constraints and indexes that mention the column go with it.
      .ok { (s.setTable { t with
              columns := t.columns.filter (·.name != c)
              constraints := t.constraints.filter fun k => !k.columns.contains c }) with
            indexes := s.indexes.filter fun i => !(i.table == t.name && i.columns.contains c) }
  | renameColumn old new =>
    if old ∉ t.columnNames then .error .undefinedColumn
    else if new ∈ t.columnNames then .error .duplicateColumn
    else
      -- Constraints and indexes follow the column and keep their names.
      .ok { s with
        tables := s.tables.map fun t' =>
          { t' with
            columns := if t'.name = t.name then
                t'.columns.map fun c => { c with name := renamed old new c.name }
              else t'.columns
            constraints := t'.constraints.map (.rename t'.name t.name old new) }
        indexes := s.indexes.map fun i =>
          if i.table = t.name then { i with columns := i.columns.map (renamed old new) } else i }
  | setNotNull c =>
    if c ∉ t.columnNames then .error .undefinedColumn
    else .ok (s.setTable { t with
      columns := t.columns.map fun d => if d.name = c then { d with notNull := true } else d })
  | addUnique n cs =>
    if n ∈ s.relationNames then .error .duplicateRelation
    else if cs.any (· ∉ t.columnNames) then .error .undefinedColumn
    else .ok (s.setTable { t with constraints := t.constraints ++ [.unique n cs] })

/-- The effect of an action on the rows of the altered table `t`. -/
def Alter.dataStep (t : TableDef) (rows : List Row) : Alter → Except DdlError (List Row)
  | addColumn _ _ notNull =>
    -- Without a default the new column is NULL in the rows there are.
    if notNull && !rows.isEmpty then .error .notNullViolation
    else .ok (rows.map (· ++ [.null]))
  | dropColumn c => .ok (rows.map (·.eraseIdx (t.columnNames.idxOf c)))
  | renameColumn _ _ => .ok rows
  | setNotNull c =>
    if rows.any fun row => t.cell c row = .null then .error .notNullViolation else .ok rows
  | addUnique _ cs => if t.UniqueOn cs rows then .ok rows else .error .uniqueViolation

/-- The effect of a statement on the schema. -/
def Statement.schemaStep (s : Schema) : Statement → Except DdlError Schema
  | createType n ls =>
    if s.types.any (·.1 == n) then .error .duplicateType
    else .ok { s with types := s.types ++ [(n, ls)] }
  | createTable t =>
    if (t.name :: t.constraints.filterMap Constraint.indexName).any (· ∈ s.relationNames) then
      .error .duplicateRelation
    else if ¬ t.columnNames.Nodup then .error .duplicateColumn
    else if t.constraints.any fun k => match k with
        | .foreignKey _ _ r _ => r ∉ s.tables.map (·.name)
        | _ => false then .error .undefinedTable
    else .ok { s with tables := s.tables ++ [t] }
  | createIndex i =>
    if i.name ∈ s.relationNames then .error .duplicateRelation
    else do
      let t ← s.table i.table
      if i.columns.any (· ∉ t.columnNames) then .error .undefinedColumn
      else .ok { s with indexes := s.indexes ++ [i] }
  | alter n a => do a.schemaStep s (← s.table n)
  | dropTable n =>
    if s.tables.any fun t => t.name != n && t.constraints.any (Constraint.refersTo n) then
      .error .dependentObjects
    else .ok { s with
      tables := s.tables.filter (·.name != n)
      indexes := s.indexes.filter (·.table != n) }
  | dropType n =>
    if s.tables.any fun t => t.columns.any (·.type = .enum n) then .error .dependentObjects
    else .ok { s with types := s.types.filter (·.1 != n) }
  | dropIndex n => .ok { s with indexes := s.indexes.filter (·.name != n) }
  | updateFrom n set source on => do
    let t ← s.table n
    let src ← s.table source
    if (on.2 :: set.map (·.1)).any (· ∉ t.columnNames) then .error .undefinedColumn
    else if (on.1 :: set.map (·.2)).any (· ∉ src.columnNames) then .error .undefinedColumn
    else .ok s

/-- A row of `t` after `SET c = src.c', …`. -/
def assign (t src : TableDef) (set : List (String × String)) (row from' : Row) : Row :=
  set.foldl (fun row p => row.set (t.columnNames.idxOf p.1) (src.cell p.2 from')) row

/-- The rows after `UPDATE … FROM`: a row is assigned from a row of the source that it joins. -/
def updateRows (t src : TableDef) (set : List (String × String)) (on : String × String)
    (rows srcRows : List Row) : List Row :=
  rows.map fun row =>
    match srcRows.find? fun r => src.cell on.1 r = t.cell on.2 row && src.cell on.1 r ≠ .null with
    | some r => assign t src set row r
    | none => row

/-- The rows of one table changed. -/
def setRows (rows : String → List Row) (n : String) (rs : List Row) : String → List Row :=
  fun m => if m = n then rs else rows m

/-- The effect of a statement on the rows; `s` is the schema before. -/
def Statement.dataStep (s : Schema) (rows : String → List Row) :
    Statement → Except DdlError (String → List Row)
  | createTable t => .ok (setRows rows t.name [])
  | createIndex i => do
    let t ← s.table i.table
    if i.unique = true ∧ ¬ t.UniqueOn i.columns (rows t.name) then .error .uniqueViolation
    else .ok rows
  | alter n a => do
    let t ← s.table n
    let rs ← a.dataStep t (rows n)
    .ok (setRows rows n rs)
  | dropTable n => .ok (setRows rows n [])
  | updateFrom n set source on => do
    let t ← s.table n
    let src ← s.table source
    let rs := updateRows t src set on (rows n) (rows source)
    if rs.any fun row => t.columns.any fun c => c.notNull && t.cell c.name row = .null then
      .error .notNullViolation
    else if ∀ k ∈ s.keysOf n, t.UniqueOn k.2 rs then .ok (setRows rows n rs)
    else .error .uniqueViolation
  | createType _ _ => .ok rows
  | dropType _ => .ok rows
  | dropIndex _ => .ok rows

/-- The table whose rows a statement may change. -/
def Statement.target : Statement → Option String
  | createTable t => some t.name
  | alter n _ => some n
  | dropTable n => some n
  | updateFrom n _ _ _ => some n
  | _ => none

/-! ### Scripts -/

/-- Execute one statement. -/
def exec (st : Statement) (d : Database) : Except DdlError Database := do
  let schema ← st.schemaStep d.schema
  let rows ← st.dataStep d.schema d.rows
  .ok ⟨schema, rows⟩

/-- Execute a script in one transaction. -/
def run : List Statement → Database → Except DdlError Database
  | [], d => .ok d
  | st :: script, d => exec st d >>= run script

/-- What a script does to the schema. -/
def runSchema : List Statement → Schema → Except DdlError Schema
  | [], s => .ok s
  | st :: script, s => st.schemaStep s >>= runSchema script

theorem bind_eq_ok {ε α β : Type} {x : Except ε α} {f : α → Except ε β} {b : β}
    (h : x >>= f = .ok b) : ∃ a, x = .ok a ∧ f a = .ok b := by
  cases x with
  | error e => cases h
  | ok a => exact ⟨a, rfl, h⟩

theorem exec_ok {st : Statement} {d d' : Database} (h : exec st d = .ok d') :
    st.schemaStep d.schema = .ok d'.schema ∧ st.dataStep d.schema d.rows = .ok d'.rows := by
  obtain ⟨s, hs, h⟩ := bind_eq_ok h
  obtain ⟨rows, hr, h⟩ := bind_eq_ok h
  cases h
  exact ⟨hs, hr⟩

theorem run_cons_ok {st : Statement} {script : List Statement} {d d'' : Database}
    (h : run (st :: script) d = .ok d'') : ∃ d', exec st d = .ok d' ∧ run script d' = .ok d'' :=
  bind_eq_ok h

/-- A script that succeeds has its effect on the schema. -/
theorem run_schema {script : List Statement} {d d' : Database} (h : run script d = .ok d') :
    runSchema script d.schema = .ok d'.schema := by
  induction script generalizing d with
  | nil => cases h; rfl
  | cons st script ih =>
    obtain ⟨d₁, he, hr⟩ := run_cons_ok h
    rw [runSchema, (exec_ok he).1]
    exact ih hr

/-- A script that fails on the schema fails on every content. -/
theorem run_ne_ok {script : List Statement} {d : Database} {e : DdlError}
    (h : runSchema script d.schema = .error e) (d' : Database) : run script d ≠ .ok d' := by
  intro hrun
  rw [run_schema hrun] at h
  cases h

theorem run_append {script script' : List Statement} {d : Database} :
    run (script ++ script') d = run script d >>= run script' := by
  induction script generalizing d with
  | nil => rfl
  | cons st script ih =>
    rw [List.cons_append, run, run]
    cases exec st d with
    | error e => rfl
    | ok d' => exact ih

/-! ### Rows that a script leaves alone -/

theorem setRows_ne {rows : String → List Row} {n m : String} {rs : List Row} (h : m ≠ n) :
    setRows rows n rs m = rows m := if_neg h

theorem setRows_self {rows : String → List Row} {n : String} {rs : List Row} :
    setRows rows n rs n = rs := if_pos rfl

/-- A statement changes the rows of its target only. -/
theorem dataStep_other {st : Statement} {s : Schema} {rows rows' : String → List Row} {n : String}
    (h : st.dataStep s rows = .ok rows') (hn : st.target ≠ some n) : rows' n = rows n := by
  have hset : ∀ {m : String} {rs : List Row}, some m ≠ some n → setRows rows m rs n = rows n :=
    fun hm => setRows_ne fun heq => hm (congrArg some heq.symm)
  cases st with
  | createType _ _ => cases h; rfl
  | dropType _ => cases h; rfl
  | dropIndex _ => cases h; rfl
  | createTable t => cases h; exact hset hn
  | dropTable m => cases h; exact hset hn
  | createIndex i =>
    obtain ⟨t, -, h⟩ := bind_eq_ok h
    split at h
    · cases h
    · cases h; rfl
  | alter m a =>
    obtain ⟨t, -, h⟩ := bind_eq_ok h
    obtain ⟨rs, -, h⟩ := bind_eq_ok h
    cases h
    exact hset hn
  | updateFrom m set source on =>
    obtain ⟨t, -, h⟩ := bind_eq_ok h
    obtain ⟨src, -, h⟩ := bind_eq_ok h
    dsimp only at h
    split at h
    · cases h
    · split at h
      · cases h; exact hset hn
      · cases h

theorem run_other {script : List Statement} {d d' : Database} {n : String}
    (h : run script d = .ok d') (hn : ∀ st ∈ script, st.target ≠ some n) : d'.rows n = d.rows n := by
  induction script generalizing d with
  | nil => cases h; rfl
  | cons st script ih =>
    obtain ⟨d₁, he, hr⟩ := run_cons_ok h
    rw [ih hr fun st' hst => hn st' (List.mem_cons_of_mem _ hst),
      dataStep_other (exec_ok he).2 (hn st List.mem_cons_self)]

/-- A table is empty when it has just been created. -/
theorem rows_createTable {t : TableDef} {d d' : Database} (h : exec (.createTable t) d = .ok d') :
    d'.rows t.name = [] := by
  rw [← Except.ok.inj (exec_ok h).2]
  exact setRows_self

/-- A table that a script creates and leaves alone is empty afterwards. -/
theorem run_createTable {t : TableDef} {script script' : List Statement} {d d' : Database}
    (h : run (script ++ .createTable t :: script') d = .ok d')
    (hn : ∀ st ∈ script', st.target ≠ some t.name) : d'.rows t.name = [] := by
  rw [run_append] at h
  obtain ⟨d₁, -, h⟩ := bind_eq_ok h
  obtain ⟨d₂, he, h⟩ := run_cons_ok h
  rw [run_other h hn, rows_createTable he]

/-! ### Statements that no row makes fail -/

/-- The statements that check no rows. -/
def Statement.accepting : Statement → Bool
  | createIndex i => !i.unique
  | alter _ (.addColumn _ _ notNull) => !notNull
  | alter _ (.setNotNull _) => false
  | alter _ (.addUnique _ _) => false
  | updateFrom _ _ _ _ => false
  | _ => true

/-- Whether such a statement succeeds is up to the schema. -/
theorem exec_accepting {st : Statement} {d : Database} {s : Schema} (hst : st.accepting = true)
    (h : st.schemaStep d.schema = .ok s) : ∃ d', exec st d = .ok d' ∧ d'.schema = s := by
  suffices hdata : ∃ rows, st.dataStep d.schema d.rows = .ok rows by
    obtain ⟨rows, hr⟩ := hdata
    exact ⟨⟨s, rows⟩, by rw [exec, h, hr]; rfl, rfl⟩
  cases st with
  | createType _ _ => exact ⟨_, rfl⟩
  | dropType _ => exact ⟨_, rfl⟩
  | dropIndex _ => exact ⟨_, rfl⟩
  | createTable t => exact ⟨_, rfl⟩
  | dropTable m => exact ⟨_, rfl⟩
  | createIndex i =>
    rw [Statement.schemaStep] at h
    split at h
    · cases h
    · obtain ⟨t, ht, -⟩ := bind_eq_ok h
      simp only [Statement.accepting, Bool.not_eq_true'] at hst
      exact ⟨d.rows, by simp [Statement.dataStep, ht, hst, bind, Except.bind]⟩
  | alter m a =>
    obtain ⟨t, ht, -⟩ := bind_eq_ok h
    cases a with
    | addColumn c type notNull =>
      simp only [Statement.accepting, Bool.not_eq_true'] at hst
      subst hst
      exact ⟨_, by simp [Statement.dataStep, ht, Alter.dataStep, bind, Except.bind]; rfl⟩
    | dropColumn c => exact ⟨_, by simp [Statement.dataStep, ht, Alter.dataStep, bind, Except.bind]; rfl⟩
    | renameColumn old new =>
      exact ⟨_, by simp [Statement.dataStep, ht, Alter.dataStep, bind, Except.bind]; rfl⟩
    | setNotNull c => cases hst
    | addUnique n cs => cases hst
  | updateFrom _ _ _ _ => cases hst

theorem run_accepting {script : List Statement} {d : Database} {s : Schema}
    (hscript : ∀ st ∈ script, st.accepting = true) (h : runSchema script d.schema = .ok s) :
    ∃ d', run script d = .ok d' ∧ d'.schema = s := by
  induction script generalizing d with
  | nil => cases h; exact ⟨d, rfl, rfl⟩
  | cons st script ih =>
    obtain ⟨s₁, hs, h⟩ := bind_eq_ok h
    obtain ⟨d₁, he, hd₁⟩ := exec_accepting (hscript st List.mem_cons_self) hs
    obtain ⟨d', hr, hd'⟩ := ih (fun st' hst => hscript st' (List.mem_cons_of_mem _ hst))
      (by rw [hd₁]; exact h)
    exact ⟨d', by rw [run, he]; exact hr, hd'⟩

/-! ### Empty tables -/

/-- The table whose rows a statement checks. -/
def Statement.checks : Statement → Option String
  | createIndex i => some i.table
  | alter n _ => some n
  | updateFrom n _ _ _ => some n
  | _ => none

/-- A statement that checks an empty table fails for the schema only; empty tables stay empty. -/
theorem exec_empty {st : Statement} {d : Database} {s : Schema}
    (hd : ∀ n, st.checks = some n → d.rows n = []) (h : st.schemaStep d.schema = .ok s) :
    ∃ d', exec st d = .ok d' ∧ d'.schema = s ∧ ∀ n, d.rows n = [] → d'.rows n = [] := by
  have hset : ∀ m n, d.rows n = [] → setRows d.rows m [] n = [] := by
    intro m n hn
    unfold setRows
    split
    · rfl
    · exact hn
  suffices hdata : ∃ rows, st.dataStep d.schema d.rows = .ok rows ∧
      ∀ n, d.rows n = [] → rows n = [] by
    obtain ⟨rows, hr, hrows⟩ := hdata
    exact ⟨⟨s, rows⟩, by rw [exec, h, hr]; rfl, rfl, hrows⟩
  cases st with
  | createType _ _ => exact ⟨d.rows, rfl, fun _ hn => hn⟩
  | dropType _ => exact ⟨d.rows, rfl, fun _ hn => hn⟩
  | dropIndex _ => exact ⟨d.rows, rfl, fun _ hn => hn⟩
  | createTable t => exact ⟨_, rfl, hset t.name⟩
  | dropTable m => exact ⟨_, rfl, hset m⟩
  | createIndex i =>
    rw [Statement.schemaStep] at h
    split at h
    · cases h
    · obtain ⟨t, ht, h⟩ := bind_eq_ok h
      have hname : t.name = i.table := by
        rw [Schema.table] at ht
        split at ht
        · next t' hfind =>
          cases ht
          simpa using List.find?_some hfind
        · cases ht
      refine ⟨d.rows, ?_, fun _ hn => hn⟩
      simp [Statement.dataStep, ht, hname, hd i.table rfl, TableDef.UniqueOn, bind, Except.bind]
  | alter m a =>
    obtain ⟨t, ht, h⟩ := bind_eq_ok h
    refine ⟨setRows d.rows m [], ?_, hset m⟩
    cases a <;>
      simp [Statement.dataStep, ht, hd m rfl, Alter.dataStep, TableDef.UniqueOn, bind, Except.bind]
  | updateFrom m set source on =>
    obtain ⟨t, ht, h⟩ := bind_eq_ok h
    obtain ⟨src, hsrc, h⟩ := bind_eq_ok h
    refine ⟨setRows d.rows m [], ?_, hset m⟩
    simp [Statement.dataStep, ht, hsrc, hd m rfl, updateRows, TableDef.UniqueOn, bind, Except.bind]

/-- A script that checks empty tables only fails for the schema only. -/
theorem run_empty {script : List Statement} {d : Database} {s : Schema}
    (hd : ∀ st ∈ script, ∀ n, st.checks = some n → d.rows n = [])
    (h : runSchema script d.schema = .ok s) :
    ∃ d', run script d = .ok d' ∧ d'.schema = s ∧ ∀ n, d.rows n = [] → d'.rows n = [] := by
  induction script generalizing d with
  | nil => cases h; exact ⟨d, rfl, rfl, fun _ hn => hn⟩
  | cons st script ih =>
    obtain ⟨s₁, hs, h⟩ := bind_eq_ok h
    obtain ⟨d₁, he, hd₁, hrows⟩ := exec_empty (hd st List.mem_cons_self) hs
    obtain ⟨d', hr, hd', hrows'⟩ := ih
      (fun st' hst n hn => hrows n (hd st' (List.mem_cons_of_mem _ hst) n hn)) (by rw [hd₁]; exact h)
    exact ⟨d', by rw [run, he]; exact hr, hd', fun n hn => hrows' n (hrows n hn)⟩

end Relational
