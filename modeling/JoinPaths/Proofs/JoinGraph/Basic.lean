import JoinPaths.JoinGraph.Basic
import JoinPaths.Proofs.TableList.Lookup

/-!
# Looking at a graph by names

Tables are asked for by name and found by place. These lemmas say what each question about a graph
answers, so that nothing else has to look a name up.
-/

namespace JoinPaths.JoinGraph

variable {g : JoinGraph} {name source target : String}

theorem node_eq_ok_iff {i : Fin g.tables.size} :
    g.node name = .ok i ↔ (g.tables.get i).name = name := by
  rw [← TableList.find?_eq_some_iff]
  unfold node
  cases g.tables.find? name with
  | none => simp
  | some j => rw [Except.ok.injEq, Option.some.injEq]

@[simp] theorem node_name_get (i : Fin g.tables.size) : g.node (g.tables.get i).name = .ok i :=
  node_eq_ok_iff.2 rfl

theorem mem_tableNames_iff : name ∈ g.tableNames ↔ ∃ i, (g.tables.get i).name = name := by
  unfold tableNames
  rw [List.mem_map]
  constructor
  · rintro ⟨t, ht, rfl⟩
    obtain ⟨i, rfl⟩ := TableList.mem_toList_iff.1 ht
    exact ⟨i, rfl⟩
  · rintro ⟨i, rfl⟩
    exact ⟨g.tables.get i, TableList.mem_toList_iff.2 ⟨i, rfl⟩, rfl⟩

theorem node_eq_error (h : name ∉ g.tableNames) : g.node name = .error (.unknownTable name) := by
  have hnone : g.tables.find? name = none :=
    TableList.find?_eq_none_iff.2 fun i hi => h (mem_tableNames_iff.2 ⟨i, hi⟩)
  unfold node
  rw [hnone]

theorem pairwise_tableNames (g : JoinGraph) : g.tableNames.Pairwise Text.ByteLt :=
  g.tables.pairwise_names

theorem nodup_tableNames (g : JoinGraph) : g.tableNames.Nodup :=
  g.tables.nodup_names

theorem tableNames_eq_map (g : JoinGraph) :
    g.tableNames = (List.finRange g.tables.size).map fun i => (g.tables.get i).name := by
  refine List.ext_getElem ?_ fun k hk _ => ?_
  · rw [tableNames, List.length_map, List.length_map, List.length_finRange,
      TableList.length_toList]
  · simp only [tableNames, List.getElem_map, List.getElem_finRange, TableList.getElem_toList]
    rfl

theorem table?_eq_some_iff {t : Table} :
    g.table? name = some t ↔ t ∈ g.tables.toList ∧ t.name = name := by
  unfold table?
  rw [Option.map_eq_some_iff, TableList.mem_toList_iff]
  constructor
  · rintro ⟨i, hi, rfl⟩
    exact ⟨⟨i, rfl⟩, TableList.find?_eq_some_iff.1 hi⟩
  · rintro ⟨⟨i, rfl⟩, hi⟩
    exact ⟨i, TableList.find?_eq_some_iff.2 hi, rfl⟩

theorem mem_tableNames_of_table? {t : Table} (h : g.table? name = some t) :
    name ∈ g.tableNames := by
  obtain ⟨ht, rfl⟩ := table?_eq_some_iff.1 h
  exact List.mem_map.2 ⟨t, ht, rfl⟩

@[simp] theorem table?_name_get (i : Fin g.tables.size) :
    g.table? (g.tables.get i).name = some (g.tables.get i) :=
  table?_eq_some_iff.2 ⟨TableList.mem_toList_iff.2 ⟨i, rfl⟩, rfl⟩

@[simp] theorem linkage?_name_get (i j : Fin g.tables.size) :
    g.linkage? (g.tables.get i).name (g.tables.get j).name = .ok (g.links.get i j) := by
  unfold linkage?
  rw [node_name_get, node_name_get]
  rfl

/-- Whether one table leads to another directly. -/
def isLinked (g : JoinGraph) (source target : String) : Bool :=
  match g.linkage? source target with
  | .ok (some _) => true
  | _ => false

theorem isLinked_name_get (i j : Fin g.tables.size) :
    g.isLinked (g.tables.get i).name (g.tables.get j).name = (g.links.get i j).isSome := by
  unfold isLinked
  rw [linkage?_name_get]
  cases g.links.get i j <;> rfl

theorem isLinked_iff : g.isLinked source target = true ↔
    ∃ l, g.linkage? source target = .ok (some l) := by
  unfold isLinked
  split
  · next l h => exact ⟨fun _ => ⟨l, h⟩, fun _ => rfl⟩
  · next h => exact ⟨fun e => absurd e Bool.false_ne_true, fun ⟨l, hl⟩ => absurd hl (h l)⟩

end JoinPaths.JoinGraph
