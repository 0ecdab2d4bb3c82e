import JoinPaths.Executor
import JoinPaths.Proofs.Sql.Reader

/-!
# What a database answers

A database holds records in tables. A membership statement counts the ways to choose one record of
every table it names, so that all joined columns and all keys are equal, and asks whether there is
any. An empty column is equal to nothing. `Database.Answers` says that an executor answers the texts
of statements in this way; of other texts, and of statements that name a table that is not there or
not clear, it says nothing.
-/

namespace JoinPaths.Sql

/-- The values of the columns; a column may be empty. -/
abbrev Record (V : Type) := String → Option V

/-- Records in tables. -/
structure Database (V : Type) where
  records : TableRef → List (Record V)
  /-- The value of a parameter. -/
  value : String → V
  equal : V → V → Bool

/-! ## Scopes -/

/-- Whether joins introduce tables that were not seen before, and join only tables that were. -/
def inScope (seen : List TableRef) : List Join → Bool
  | [] => true
  | j :: joins =>
    !seen.contains j.table && (j.table :: seen).contains j.left.owner &&
      (j.table :: seen).contains j.right.owner && inScope (j.table :: seen) joins

namespace Statement

/-- The tables in the order in which they are introduced. -/
def tables (s : Statement) : List TableRef :=
  s.source :: s.joins.map Join.table

/-- Whether it is clear which table every column belongs to. -/
def isScoped (s : Statement) : Bool :=
  inScope [s.source] s.joins &&
    s.filters.all fun f => (s.tables.map TableRef.table).count f.table == 1

end Statement

/-! ## Answers -/

variable {V : Type}

/-- The value of a column of the first chosen record whose table is meant. -/
def columnOf (chosen : List (TableRef × Record V)) (meant : TableRef → Bool) (column : String) :
    Option V :=
  (chosen.find? fun c => meant c.1).bind fun c => c.2 column

/-- The text that is bound to a parameter. -/
def bound? (parameters : List String) : Nat → Option String
  | 0 => none
  | number + 1 => parameters[number]?

namespace Database

/-- Whether two columns are equal; an empty one is equal to nothing. -/
def same (db : Database V) : Option V → Option V → Bool
  | some v, some w => db.equal v w
  | _, _ => false

/-- The ways to choose one record of every table. -/
def choices (db : Database V) : List TableRef → List (List (TableRef × Record V))
  | [] => [[]]
  | t :: ts => (db.records t).flatMap fun r => (db.choices ts).map ((t, r) :: ·)

/-- Whether chosen records are equal in the columns of a join. -/
def joins (db : Database V) (chosen : List (TableRef × Record V)) (j : Join) : Bool :=
  db.same (columnOf chosen (· == j.left.owner) j.left.column)
    (columnOf chosen (· == j.right.owner) j.right.column)

/-- Whether the key of a chosen record is a parameter. -/
def admits (db : Database V) (parameters : List String) (chosen : List (TableRef × Record V))
    (f : KeyFilter) : Bool :=
  db.same (columnOf chosen (·.table == f.table) f.column)
    ((bound? parameters f.parameter).map db.value)

/-- The number of ways to choose records that a statement counts. -/
def count (db : Database V) (s : Statement) (parameters : List String) : Nat :=
  (db.choices s.tables).countP fun chosen =>
    s.joins.all (db.joins chosen) && s.filters.all (db.admits parameters chosen)

/-- Whether a statement counts any. -/
def holds (db : Database V) (s : Statement) (parameters : List String) : Bool :=
  db.count s parameters != 0

/-- The rows of the answer to a statement. -/
def answer (db : Database V) (s : Statement) (parameters : List String) : List Json :=
  [.object [(s.answer, .bool (db.holds s parameters))]]

/-- Whether an executor answers statements as the database does. -/
def Answers (db : Database V) (executor : Executor) : Prop :=
  ∀ earlier call s, Statement.read? call.statement = some s → s.isScoped = true →
    executor earlier call = .ok (db.answer s call.parameters)

/-- An executor that reads statements and answers them. -/
def executor (db : Database V) : Executor := fun _ call =>
  match Statement.read? call.statement with
  | none => .error "syntax error"
  | some s =>
    if s.isScoped then .ok (db.answer s call.parameters) else .error "undefined or ambiguous table"

variable {db : Database V} {chosen : List (TableRef × Record V)}

theorem answers_executor (db : Database V) : db.Answers db.executor := by
  intro earlier call s hread hscoped
  unfold executor
  rw [hread]
  exact if_pos hscoped

theorem mem_choices {ts : List TableRef} :
    chosen ∈ db.choices ts ↔ chosen.map Prod.fst = ts ∧ ∀ c ∈ chosen, c.2 ∈ db.records c.1 := by
  induction ts generalizing chosen with
  | nil =>
    rw [choices, List.mem_singleton, List.map_eq_nil_iff]
    constructor
    · intro h
      refine ⟨h, fun c hc => ?_⟩
      rw [h] at hc
      exact absurd hc List.not_mem_nil
    · exact And.left
  | cons t ts ih =>
    rw [choices, List.mem_flatMap]
    constructor
    · rintro ⟨r, hr, h⟩
      obtain ⟨rest, hrest, rfl⟩ := List.mem_map.1 h
      obtain ⟨rfl, hstored⟩ := ih.1 hrest
      exact ⟨rfl, List.forall_mem_cons.2 ⟨hr, hstored⟩⟩
    · rintro ⟨htables, hstored⟩
      cases chosen with
      | nil => exact absurd htables (by simp)
      | cons c rest =>
        obtain ⟨rfl, hts⟩ := List.cons.inj htables
        obtain ⟨hc, hrest⟩ := List.forall_mem_cons.1 hstored
        exact ⟨c.2, hc, List.mem_map.2 ⟨rest, ih.2 ⟨hts, hrest⟩, rfl⟩⟩

/-- A statement holds exactly if records can be chosen that meet all its conditions. -/
theorem holds_iff {s : Statement} {parameters : List String} :
    db.holds s parameters = true ↔
      ∃ chosen : List (TableRef × Record V), chosen.map Prod.fst = s.tables ∧
        (∀ c ∈ chosen, c.2 ∈ db.records c.1) ∧ (∀ j ∈ s.joins, db.joins chosen j = true) ∧
          ∀ f ∈ s.filters, db.admits parameters chosen f = true := by
  unfold holds count
  rw [bne_iff_ne, ← Nat.pos_iff_ne_zero, List.countP_pos_iff]
  apply exists_congr
  intro chosen
  rw [mem_choices, Bool.and_eq_true, List.all_eq_true, List.all_eq_true, and_assoc]

end Database

end JoinPaths.Sql
