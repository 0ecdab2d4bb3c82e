import JoinPaths.JoinGraph.Paths
import JoinPaths.Proofs.Path
import JoinPaths.Proofs.Raw.Grid
import JoinPaths.Proofs.Search.Invariant

/-!
# Searching with plain numbers

The search for paths once more, over plain numbers and plain lists: a trail is a list of numbers
whose last one is looked up, the marks are a list that is looked up and written by number, and a
path is a list of tables and a list of linkages whose lengths are checked. `none` stands for a
number without place in its list, for a check that fails and for a loop without end; so the result
is `some` exactly if nothing of this happens.

On the plain form of a grid nothing of this happens (`findPaths?_raw`): every list of marks is as
long as the grid, every queued trail is the plain form of a trail, and the loops end as those of the
library do.
-/

namespace JoinPaths

namespace Raw

/-! ## Loops -/

section Loop

variable {σ α : Type} {turn : σ → Option (σ ⊕ α)} {s s' : σ} {a b : α}

/-- Whether a loop ends with a result: no turn fails, each but the last one leads to the state for
the next turn, and the last one gives the result. -/
inductive Ends (turn : σ → Option (σ ⊕ α)) : σ → α → Prop where
  | last {s : σ} {a : α} (h : turn s = some (.inr a)) : Ends turn s a
  | more {s s' : σ} {a : α} (h : turn s = some (.inl s')) (hrest : Ends turn s' a) : Ends turn s a

theorem Ends.of_more (h : turn s = some (.inl s')) (ha : Ends turn s a) : Ends turn s' a := by
  cases ha with
  | last hlast =>
    rw [h] at hlast
    cases hlast
  | more hmore hrest =>
    rw [h] at hmore
    obtain rfl := Sum.inl.inj (Option.some.inj hmore)
    exact hrest

theorem Ends.of_last (h : turn s = some (.inr b)) (ha : Ends turn s a) : a = b := by
  cases ha with
  | last hlast =>
    rw [h] at hlast
    exact (Sum.inr.inj (Option.some.inj hlast)).symm
  | more hmore =>
    rw [h] at hmore
    cases hmore

open Classical in
/-- What a loop ends with, if it ends. -/
noncomputable def loop? (turn : σ → Option (σ ⊕ α)) (s : σ) : Option α :=
  if h : ∃ a, Ends turn s a then some h.choose else none

theorem loop?_of_more (h : turn s = some (.inl s')) : loop? turn s = loop? turn s' := by
  have hsame : Ends turn s = Ends turn s' := by
    funext a
    exact propext ⟨Ends.of_more h, Ends.more h⟩
  unfold loop?
  rw [hsame]

theorem loop?_of_last (h : turn s = some (.inr a)) : loop? turn s = some a := by
  have hends : ∃ a, Ends turn s a := ⟨a, .last h⟩
  unfold loop?
  rw [dif_pos hends, hends.choose_spec.of_last h]

end Loop

/-! ## Paths -/

/-- The number of the last item of a list, if there is one. -/
def lastPlace? {α : Type} (items : List α) : Option Nat :=
  if items.length = 0 then none else some (items.length - 1)

/-- Tables and linkages of a path. -/
structure Path where
  tables : List Table
  linkages : List Linkage
deriving DecidableEq

namespace Path

/-- The path of some tables and linkages, which must be one fewer than the tables. -/
def new? (tables : List Table) (linkages : List Linkage) : Option Path :=
  if tables ≠ [] ∧ linkages.length + 1 = tables.length then some ⟨tables, linkages⟩ else none

def start? (p : Path) : Option Table :=
  p.tables[0]?

def finish? (p : Path) : Option Table := do
  let k ← lastPlace? p.tables
  p.tables[k]?

/-- The linkages, each between two tables that stand side by side. -/
def hops (p : Path) : List (Table × Linkage × Table) :=
  p.tables.zip (p.linkages.zip p.tables.tail)

end Path

/-! ## Trails -/

/-- Nodes and linkages of a trail. -/
structure Trail where
  nodes : List Nat
  linkages : List Linkage
deriving DecidableEq

namespace Trail

def start (i : Nat) : Trail :=
  ⟨[i], []⟩

def last? (t : Trail) : Option Nat := do
  let k ← lastPlace? t.nodes
  t.nodes[k]?

def extend (t : Trail) (l : Linkage) (i : Nat) : Trail :=
  ⟨t.nodes ++ [i], t.linkages ++ [l]⟩

/-- The path along a trail through some tables. -/
def path? (tables : List Table) (t : Trail) : Option Path := do
  let visited ← t.nodes.mapM fun i => tables[i]?
  Path.new? visited t.linkages

/-- The extensions of a trail along some edges, to nodes that are not yet on it and that are
marked. -/
def extensions? (reaches : List Bool) (t : Trail) : List (Nat × Linkage) → Option (List Trail)
  | [] => some []
  | (i, l) :: edges =>
    if i ∈ t.nodes then extensions? reaches t edges
    else do
      let reached ← reaches[i]?
      let others ← extensions? reaches t edges
      return if reached then t.extend l i :: others else others

end Trail

/-! ## Marks -/

/-- Marks nodes one by one, and gives those that had no mark. -/
def mark? (marks : List Bool) : List Nat → Option (List Bool × List Nat)
  | [] => some (marks, [])
  | i :: nodes => do
    let marked ← marks[i]?
    if marked then mark? marks nodes
    else
      let (marks, fresh) ← mark? (marks.set i true) nodes
      return (marks, i :: fresh)

namespace Grid

/-- Takes the next node that waits and marks what leads to it. -/
def spreadTurn? (g : Grid) : List Bool × List Nat → Option (List Bool × List Nat ⊕ List Bool)
  | (marks, []) => some (.inr marks)
  | (marks, i :: others) => do
    let sources ← g.predecessors? i
    let (marks, fresh) ← mark? marks sources
    return .inl (marks, others ++ fresh)

/-- Marks the nodes from which a chain of links leads to the goal. -/
noncomputable def reaching? (g : Grid) (goal : Nat) : Option (List Bool) :=
  let marks := List.replicate g.side false
  if goal < marks.length then loop? g.spreadTurn? (marks.set goal true, [goal]) else none

/-! ## Search -/

/-- Takes the oldest trail: it is found, or its extensions join the queue. The search is over when
enough paths are found or no trail is left. -/
def searchTurn? (g : Grid) (tables : List Table) (reaches : List Bool) (goal limit : Nat) :
    List Path × List Trail → Option (List Path × List Trail ⊕ List Path)
  | (found, []) => some (.inr found)
  | (found, t :: queue) => do
    let last ← t.last?
    if last = goal then
      let p ← t.path? tables
      let found := found ++ [p]
      return if limit ≤ found.length then .inr found else .inl (found, queue)
    else
      let edges ← g.neighbors? last
      let extensions ← t.extensions? reaches edges
      return .inl (found, queue ++ extensions)

/-- The first `limit` paths between two nodes. Both their tables are looked up for the log. -/
noncomputable def findPaths? (g : Grid) (tables : List Table) (start goal limit : Nat) :
    Option (List Path) :=
  if limit = 0 then some []
  else do
    let reaches ← g.reaching? goal
    let reached ← reaches[start]?
    let _ ← tables[start]?
    let _ ← tables[goal]?
    if reached then loop? (g.searchTurn? tables reaches goal limit) ([], [.start start])
    else return []

end Grid

end Raw

theorem Raw.lastPlace?_of_ne_nil {α : Type} {items : List α} (h : items ≠ []) :
    lastPlace? items = some (items.length - 1) :=
  if_neg (mt List.length_eq_zero_iff.1 h)

theorem TableList.getElem?_toList (ts : TableList) (i : Fin ts.size) :
    ts.toList[i.val]? = some (ts.get i) :=
  List.getElem?_eq_getElem i.isLt

/-! ## Plain paths -/

namespace Path

/-- A path with plain lists. -/
def raw (p : Path) : Raw.Path :=
  ⟨p.tables, p.linkages⟩

theorem new?_raw (p : Path) : Raw.Path.new? p.tables p.linkages = some p.raw := by
  refine if_pos ⟨List.cons_ne_nil _ _, ?_⟩
  rw [length_linkages, length_tables]

theorem start?_raw (p : Path) : p.raw.start? = some p.start := rfl

theorem finish?_raw (p : Path) : p.raw.finish? = some p.finish := by
  have hne : p.raw.tables ≠ [] := List.cons_ne_nil _ _
  unfold Raw.Path.finish?
  rw [Raw.lastPlace?_of_ne_nil hne, ← p.getLast?_tables, List.getLast?_eq_getElem?]
  rfl

theorem hops_raw (p : Path) : p.raw.hops = p.segments :=
  p.segments_eq_zip.symm

end Path

/-! ## Plain trails -/

namespace Trail

variable {n : Nat}

/-- A trail with plain numbers. -/
def raw (t : Trail n) : Raw.Trail :=
  ⟨t.nodes.map Fin.val, t.linkages⟩

theorem raw_step (t : Trail n) (l : Linkage) (i : Fin n) :
    (t.step l i).raw = t.raw.extend l i.val := by
  unfold raw Raw.Trail.extend
  rw [nodes, linkages, List.map_append]
  rfl

theorem last?_raw (t : Trail n) : t.raw.last? = some t.last.val := by
  have hlast : (t.nodes.map Fin.val).getLast? = some t.last.val := by
    rw [List.getLast?_map, getLast?_nodes]
    rfl
  have hne : t.raw.nodes ≠ [] := List.map_eq_nil_iff.not.2 t.nodes_ne_nil
  unfold Raw.Trail.last?
  rw [Raw.lastPlace?_of_ne_nil hne, ← hlast, List.getLast?_eq_getElem?]
  rfl

theorem tables_path (table : Fin n → Table) (t : Trail n) :
    (t.path table).tables = t.nodes.map table := by
  induction t with
  | start i => rfl
  | step t l i ih =>
    rw [path, Path.tables_extend, ih, nodes, List.map_append]
    rfl

theorem linkages_path (table : Fin n → Table) (t : Trail n) :
    (t.path table).linkages = t.linkages := by
  induction t with
  | start i => rfl
  | step t l i ih => rw [path, Path.linkages_extend, ih, linkages]

theorem path?_raw (ts : TableList) (t : Trail ts.size) :
    t.raw.path? ts.toList = some (t.path ts.get).raw := by
  have hvisited : (t.nodes.map Fin.val).mapM (fun i => ts.toList[i]?) =
      some (t.path ts.get).tables := by
    rw [List.mapM_map, tables_path]
    show List.mapM (fun i : Fin ts.size => ts.toList[i.val]?) t.nodes = _
    simp only [ts.getElem?_toList]
    exact List.mapM_pure
  unfold Raw.Trail.path? raw
  rw [hvisited, ← linkages_path ts.get t]
  exact Path.new?_raw _

theorem mem_nodes_raw {t : Trail n} {i : Fin n} : i.val ∈ t.raw.nodes ↔ t.visits i := by
  rw [visits_iff]
  exact List.mem_map_of_injective Fin.val_injective

end Trail

/-! ## Plain marks -/

namespace LinkGrid

variable {n : Nat} {g : LinkGrid n} {marks : Marks n}

theorem getElem?_toList_marks (marks : Marks n) (i : Fin n) :
    marks.toList[i.val]? = some (marks.get i) := by
  rw [List.getElem?_eq_getElem (by rw [Vector.length_toList]; exact i.isLt), Vector.getElem_toList]
  rfl

theorem extensions?_raw (marks : Marks n) (t : Trail n) (edges : List (Fin n × Linkage)) :
    t.raw.extensions? marks.toList (edges.map fun (i, l) => (i.val, l)) =
      some (((edges.filter fun e => !t.visits e.1 && marks.get e.1).map fun e =>
        t.step e.2 e.1).map Trail.raw) := by
  induction edges with
  | nil => rfl
  | cons e edges ih =>
    obtain ⟨i, l⟩ := e
    rw [List.map_cons, Raw.Trail.extensions?]
    by_cases hvisits : t.visits i = true
    · rw [if_pos (Trail.mem_nodes_raw.2 hvisits), ih,
        List.filter_cons_of_neg (by rw [hvisits]; nofun)]
    · rw [if_neg (mt Trail.mem_nodes_raw.1 hvisits), getElem?_toList_marks, ih]
      have hnew : t.visits i = false := Bool.eq_false_iff.2 hvisits
      cases hmark : marks.get i with
      | true =>
        rw [List.filter_cons_of_pos (by rw [hnew, hmark]; rfl), List.map_cons, List.map_cons,
          Trail.raw_step]
        rfl
      | false =>
        rw [List.filter_cons_of_neg (by rw [hnew, hmark]; nofun)]
        rfl

/-- Marking the nodes one by one marks those that had no mark, if no node comes twice. -/
theorem mark?_raw (marks : Marks n) {nodes : List (Fin n)} (hnodup : nodes.Nodup) :
    Raw.mark? marks.toList (nodes.map Fin.val) =
      some ((marks.add (nodes.filter fun i => !marks.get i)).toList,
        (nodes.filter fun i => !marks.get i).map Fin.val) := by
  induction nodes generalizing marks with
  | nil => rfl
  | cons i nodes ih =>
    obtain ⟨hi, hnodes⟩ := List.nodup_cons.1 hnodup
    rw [List.map_cons, Raw.mark?, getElem?_toList_marks]
    cases hmark : marks.get i with
    | true =>
      rw [List.filter_cons_of_neg (by rw [hmark]; nofun)]
      exact ih marks hnodes
    | false =>
      -- the mark that is set now is none of those that are looked up later
      have hsame : nodes.filter (fun j => !(Vector.set marks i true).get j) =
          nodes.filter fun j => !marks.get j := by
        refine List.filter_congr fun j hj => ?_
        have hne : i ≠ j := fun h => hi (h ▸ hj)
        rw [Marks.get_set, if_neg hne]
      have hset : marks.toList.set i.val true = (Vector.set marks i true).toList :=
        (Vector.toList_set _).symm
      have hrest := ih (Vector.set marks i true) hnodes
      rw [hsame] at hrest
      rw [List.filter_cons_of_pos (by rw [hmark]; rfl)]
      show (Raw.mark? (marks.toList.set i.val true) (nodes.map Fin.val) >>= _) = _
      rw [hset, hrest]
      rfl

theorem nodup_predecessors (g : LinkGrid n) (j : Fin n) : (g.predecessors j).Nodup :=
  (List.nodup_finRange n).filter _

theorem spreadTurn?_raw (g : LinkGrid n) (marks : Marks n) (i : Fin n) (others : List (Fin n)) :
    g.raw.spreadTurn? (marks.toList, (i :: others).map Fin.val) =
      some (.inl ((marks.add (g.fresh marks i)).toList,
        (others ++ g.fresh marks i).map Fin.val)) := by
  rw [List.map_cons, Raw.Grid.spreadTurn?, predecessors?_raw, List.map_append]
  show (Raw.mark? _ _ >>= _) = _
  rw [mark?_raw marks (g.nodup_predecessors i)]
  rfl

theorem loop?_spreadTurn?_raw (g : LinkGrid n) (marks : Marks n) (waiting : List (Fin n)) :
    Raw.loop? g.raw.spreadTurn? (marks.toList, waiting.map Fin.val) =
      some (g.spread marks waiting).toList := by
  fun_induction spread g marks waiting with
  | case1 marks => exact Raw.loop?_of_last rfl
  | case2 marks i others ih =>
    rw [Raw.loop?_of_more (g.spreadTurn?_raw marks i others)]
    exact ih

theorem reaching?_raw (g : LinkGrid n) (goal : Fin n) :
    g.raw.reaching? goal.val = some (g.reaching goal).toList := by
  have hmarks : List.replicate n false = (Vector.replicate n false).toList :=
    Vector.toList_replicate.symm
  unfold Raw.Grid.reaching? reaching
  show (if goal.val < (List.replicate n false).length then _ else _) = _
  rw [if_pos (by rw [List.length_replicate]; exact goal.isLt)]
  show Raw.loop? g.raw.spreadTurn?
    ((List.replicate n false).set goal.val true, [goal].map Fin.val) = _
  rw [hmarks, ← Vector.toList_set (h := goal.isLt)]
  exact loop?_spreadTurn?_raw g _ [goal]

end LinkGrid

/-! ## Plain searches -/

namespace Search

variable {ts : TableList} {g : LinkGrid ts.size} {marks : LinkGrid.Marks ts.size}
  {goal : Fin ts.size} {limit : Nat} {s s' : Search ts.size}

/-- The paths found so far, in the order in which they were found. -/
def rawFound (s : Search ts.size) : List Raw.Path :=
  s.found.reverse.map fun t => (t.path ts.get).raw

/-- A state with plain numbers. -/
def raw (s : Search ts.size) : List Raw.Path × List Raw.Trail :=
  (s.rawFound, s.queue.toList.map Trail.raw)

theorem length_rawFound (s : Search ts.size) : s.rawFound.length = s.found.length := by
  rw [rawFound, List.length_map, List.length_reverse]

/-- A turn of the plain search does not fail, and it is a step of the search. -/
theorem searchTurn?_raw (hlimit : s.found.length + s.room = limit)
    (hnext : s.next? g (fun i => marks.get i) goal = some s') :
    g.raw.searchTurn? ts.toList marks.toList goal.val limit s.raw =
      some (if s'.room = 0 then .inr s'.rawFound else .inl s'.raw) := by
  obtain ⟨t, queue, hroom, hqueue, ⟨hgoal, rfl⟩ | ⟨hgoal, rfl⟩⟩ := next?_cases hnext
  · have hfound : s.rawFound ++ [(t.path ts.get).raw] =
        rawFound ⟨queue, t :: s.found, s.room - 1⟩ := by
      unfold rawFound
      rw [List.reverse_cons, List.map_append]
      rfl
    have hlength := length_rawFound (⟨queue, t :: s.found, s.room - 1⟩ : Search ts.size)
    rw [List.length_cons] at hlength
    unfold raw
    rw [hqueue, List.map_cons, Raw.Grid.searchTurn?, Trail.last?_raw]
    show (if t.last.val = goal.val then _ else _) = _
    rw [if_pos (congrArg Fin.val hgoal), Trail.path?_raw]
    show some (if limit ≤ (s.rawFound ++ [(t.path ts.get).raw]).length then _ else _) = _
    rw [hfound, hlength]
    dsimp only
    by_cases hlast : s.room - 1 = 0
    · rw [if_pos hlast, if_pos (by omega)]
    · rw [if_neg hlast, if_neg (by omega)]
  · unfold raw
    rw [if_neg hroom, hqueue, List.map_cons, Raw.Grid.searchTurn?, Trail.last?_raw]
    show (if t.last.val = goal.val then _ else _) = _
    rw [if_neg (mt Fin.ext hgoal), LinkGrid.neighbors?_raw]
    show (t.raw.extensions? marks.toList ((g.neighbors t.last).map _) >>= _) = _
    rw [LinkGrid.extensions?_raw, Queue.toList_pushAll, List.map_append]
    rfl

theorem run_of_over {keep : Fin ts.size → Bool} (h : s.room = 0 ∨ s.queue.toList = []) :
    s.run g keep goal = s := by
  unfold run
  split
  · rfl
  · next hnext =>
    rw [next?_eq_none_iff.2 h] at hnext
    cases hnext

theorem loop?_searchTurn?_raw (hroom : s.room ≠ 0) (hlimit : s.found.length + s.room = limit) :
    Raw.loop? (g.raw.searchTurn? ts.toList marks.toList goal.val limit) s.raw =
      some (s.run g (fun i => marks.get i) goal).rawFound := by
  fun_induction Search.run g (fun i => marks.get i) goal s with
  | case1 s hnext =>
    rcases next?_eq_none_iff.1 hnext with hover | hempty
    · exact absurd hover hroom
    · unfold raw
      rw [hempty]
      exact Raw.loop?_of_last rfl
  | case2 s s' hnext ih =>
    have hturn := searchTurn?_raw hlimit hnext
    by_cases hover : s'.room = 0
    · rw [if_pos hover] at hturn
      rw [Raw.loop?_of_last hturn, run_of_over (.inl hover)]
    · rw [if_neg hover] at hturn
      rw [Raw.loop?_of_more hturn]
      exact ih hover ((length_found_add_room_next? hnext).trans hlimit)

end Search

/-- The plain search for paths does not fail, and it finds the paths of the search. -/
theorem LinkGrid.findPaths?_raw {ts : TableList} (g : LinkGrid ts.size) (start goal : Fin ts.size)
    (limit : Nat) :
    g.raw.findPaths? ts.toList start.val goal.val limit =
      some ((g.findTrails start goal limit).map fun t => (t.path ts.get).raw) := by
  unfold Raw.Grid.findPaths?
  by_cases hlimit : limit = 0
  · rw [if_pos hlimit, findTrails, if_pos (.inl hlimit)]
    rfl
  · rw [if_neg hlimit, reaching?_raw]
    show ((g.reaching goal).toList[start.val]? >>= _) = _
    rw [getElem?_toList_marks]
    show (ts.toList[start.val]? >>= _) = _
    rw [ts.getElem?_toList]
    show (ts.toList[goal.val]? >>= _) = _
    rw [ts.getElem?_toList]
    show (if (g.reaching goal).get start = true then _ else _) = _
    cases hstart : (g.reaching goal).get start with
    | false =>
      rw [if_neg (by nofun), findTrails, if_pos (.inr hstart)]
      rfl
    | true =>
      rw [if_pos rfl, findTrails_of_reaching hlimit hstart]
      have hroom : (Search.begin start limit).room ≠ 0 := hlimit
      exact Search.loop?_searchTurn?_raw hroom (Nat.zero_add limit)

end JoinPaths
