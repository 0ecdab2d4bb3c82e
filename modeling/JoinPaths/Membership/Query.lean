import JoinPaths.Error
import JoinPaths.Executor
import JoinPaths.Path
import JoinPaths.Sql.Statement

/-!
# Membership queries

The query of a path asks whether a row of its first table is joined, hop by hop, to a row of its
last table. It is a statement together with the keys that its parameters stand for, in order.
-/

namespace JoinPaths

/-- The key that a parameter stands for. -/
inductive KeySlot where
  /-- The key of the row of the first table. -/
  | source
  /-- The key of the row of the last table. -/
  | target
deriving DecidableEq, Repr

/-- A membership statement and the keys of its parameters. -/
structure Query where
  statement : Sql.Statement
  /-- The keys, in the order of the parameters. -/
  parameters : List KeySlot
deriving DecidableEq, Repr

/-- The key in a slot. -/
def KeySlot.pick (sourceKey targetKey : String) : KeySlot → String
  | source => sourceKey
  | target => targetKey

def Query.bind (q : Query) (sourceKey targetKey : String) : List String :=
  q.parameters.map (KeySlot.pick sourceKey targetKey)

def Query.call (q : Query) (sourceKey targetKey : String) : Call :=
  ⟨q.statement.text, q.bind sourceKey targetKey⟩

namespace Path

/-- The join that a hop stands for. -/
def joinOf (schema : String) (segment : Table × Linkage × Table) : Sql.Join :=
  let (source, l, target) := segment
  { table := ⟨schema, target.name⟩
    left := ⟨⟨schema, source.name⟩, l.source⟩
    right := ⟨⟨schema, target.name⟩, l.target⟩ }

/-- The end of a path to which a key belongs. -/
def endOf (p : Path) : KeySlot → Table
  | .source => p.start
  | .target => p.finish

/-- The keys of a membership query, in the order of its parameters. -/
def keySlots : List KeySlot := [.source, .target]

/-- The filter of the key with a number, counted from zero. -/
def filterOf (p : Path) (slot : KeySlot) (number : Nat) : Sql.KeyFilter :=
  ⟨(p.endOf slot).name, (p.endOf slot).key, number + 1⟩

def statement (p : Path) (schema : String) : Sql.Statement :=
  { answer := flagColumn
    source := ⟨schema, p.start.name⟩
    joins := p.segments.map (joinOf schema)
    filters := keySlots.zipIdx.map fun (slot, number) => p.filterOf slot number }

/-- The query of a path that has something to join. -/
def query (p : Path) (schema : String) : Except Error Query :=
  if p.isTrivial then .error (.nothingToJoin p.start.name)
  else .ok ⟨p.statement schema, keySlots⟩

end Path

end JoinPaths
