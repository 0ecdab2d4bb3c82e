import JoinPaths.Proofs.JoinGraph.Part
import JoinPaths.Proofs.Membership.Run

/-!
# Further rows

Rows may be put among others that are about further tables: their primary keys are of new tables,
every foreign key has an end at one of these, and links lead in one direction only between the old
tables and the new ones, or not at all in an undirected graph (`StandsApart`). Then no question
about the old tables is answered in another way than before (`answers_of_standsApart`).

1. The further rows say nothing about two of the old tables, so these are linked as before
   (`StandsApart.linkageIn?_eq_none`).
2. Hence the graph of the old rows is a part of the graph of all rows (`StandsApart.isPart`), and
   its paths are found and named there as in itself.
3. Statements are made of paths, and runs of statements (`IsPart.candidates_eq`,
   `IsPart.belongsTo_eq`, `IsPart.belongsToVia_eq`).
-/

namespace JoinPaths

open Catalog (Row)

/-! ## Interleaved lists -/

/-- Whether a list is put together from two others, the items of each in their order. -/
inductive Interleaves {α : Type} : List α → List α → List α → Prop where
  | nil : Interleaves [] [] []
  | left {a : α} {l m all : List α} (h : Interleaves l m all) : Interleaves (a :: l) m (a :: all)
  | right {a : α} {l m all : List α} (h : Interleaves l m all) : Interleaves l (a :: m) (a :: all)

namespace Interleaves

variable {α β : Type} {l m all : List α}

theorem mem_iff (h : Interleaves l m all) {a : α} : a ∈ all ↔ a ∈ l ∨ a ∈ m := by
  induction h with
  | nil => simp only [List.not_mem_nil, or_self]
  | left _ ih => rw [List.mem_cons, List.mem_cons, ih, or_assoc]
  | right _ ih => rw [List.mem_cons, List.mem_cons, ih, or_left_comm]

/-- Of items that are interleaved with others that say nothing, nothing else is heard. -/
theorem filterMap_eq (h : Interleaves l m all) {f : α → Option β} (hm : ∀ a ∈ m, f a = none) :
    all.filterMap f = l.filterMap f := by
  induction h with
  | nil => rfl
  | left _ ih => rw [List.filterMap_cons, List.filterMap_cons, ih hm]
  | right _ ih =>
    obtain ⟨ha, hm⟩ := List.forall_mem_cons.1 hm
    rw [List.filterMap_cons_none ha, ih hm]

end Interleaves

namespace JoinGraph

variable {rows added all : List Row} {schema source target name : String} {directed : Bool}
  {g h : JoinGraph}

/-! ## Rows that stand apart -/

/-- The names of the tables of some rows. -/
def primaryNames (rows : List Row) : List String :=
  (primaryTables rows).map Table.name

/-- Whether rows are about further tables, to which the others are linked in one direction only, or
not at all in an undirected graph. -/
structure StandsApart (directed : Bool) (rows added : List Row) : Prop where
  fresh : ∀ name ∈ primaryNames added, name ∉ primaryNames rows
  /-- Every further foreign key has an end at a further table. -/
  touches : ∀ source column target targetColumn,
    .foreign source column target targetColumn ∈ added →
      source ∈ primaryNames added ∨ target ∈ primaryNames added
  oneWay : directed = true →
    (∀ source column target targetColumn, .foreign source column target targetColumn ∈ added →
      ¬ (source ∈ primaryNames rows ∧ target ∈ primaryNames added)) ∨
    (∀ source column target targetColumn, .foreign source column target targetColumn ∈ added →
      ¬ (source ∈ primaryNames added ∧ target ∈ primaryNames rows))
  separate : directed = false →
    ∀ source column target targetColumn, .foreign source column target targetColumn ∈ added →
      source ∉ primaryNames rows ∧ target ∉ primaryNames rows

theorem mem_primaryNames_iff :
    name ∈ primaryNames rows ↔ ∃ column, .primary name column ∈ rows := by
  unfold primaryNames
  rw [List.mem_map]
  constructor
  · rintro ⟨t, ht, rfl⟩
    exact ⟨t.key, mem_primaryTables_iff.1 ht⟩
  · rintro ⟨column, hrow⟩
    exact ⟨⟨name, column⟩, mem_primaryTables_iff.2 hrow, rfl⟩

theorem mem_tableNames_iff_mem_primaryNames (hg : ofRows rows schema directed = .ok g) :
    name ∈ g.tableNames ↔ name ∈ primaryNames rows := by
  rw [mem_tableNames_ofRows hg, mem_primaryNames_iff]

theorem mem_tableNames_interleaves (hg : ofRows rows schema directed = .ok g)
    (hh : ofRows all schema directed = .ok h) (hall : Interleaves rows added all) :
    name ∈ h.tableNames ↔ name ∈ g.tableNames ∨ name ∈ primaryNames added := by
  rw [mem_tableNames_iff_mem_primaryNames hh, mem_tableNames_iff_mem_primaryNames hg]
  simp only [mem_primaryNames_iff, hall.mem_iff, exists_or]

/-- Two tables are linked by an old row, and are old tables, or by a further row. -/
theorem isLinked_interleaves (hg : ofRows rows schema directed = .ok g)
    (hh : ofRows all schema directed = .ok h) (hall : Interleaves rows added all)
    (hlink : h.isLinked source target = true) :
    (source ∈ g.tableNames ∧ target ∈ g.tableNames) ∨
      ∃ row ∈ added, row.isBetween directed source target = true := by
  obtain ⟨row, hrow, hbetween⟩ := (isLinked_ofRows hh).1 hlink
  rcases hall.mem_iff.1 hrow with hrow | hrow
  · obtain ⟨hs, ht⟩ := Row.mem_ends_of_isBetween hbetween
    exact Or.inl ⟨mem_tableNames_of_mem_ends hg hrow hs, mem_tableNames_of_mem_ends hg hrow ht⟩
  · exact Or.inr ⟨row, hrow, hbetween⟩

theorem exists_foreign_of_isBetween {row : Row}
    (h : row.isBetween directed source target = true) :
    ∃ column targetColumn, row = .foreign source column target targetColumn ∨
      directed = false ∧ row = .foreign target column source targetColumn := by
  cases row with
  | primary =>
    obtain ⟨hs, -⟩ := Row.mem_ends_of_isBetween h
    exact absurd hs List.not_mem_nil
  | foreign table column referencedTable referencedColumn =>
    simp only [Row.isBetween, Row.ends, Bool.or_eq_true, Bool.and_eq_true, Bool.not_eq_true',
      beq_iff_eq, List.cons.injEq, and_true] at h
    rcases h with ⟨rfl, rfl⟩ | ⟨hd, rfl, rfl⟩
    · exact ⟨column, referencedColumn, Or.inl rfl⟩
    · exact ⟨column, referencedColumn, Or.inr ⟨hd, rfl⟩⟩

namespace StandsApart

variable (hapart : StandsApart directed rows added)
include hapart

theorem linkageIn?_eq_none (hs : source ∈ primaryNames rows) (ht : target ∈ primaryNames rows)
    {row : Row} (hrow : row ∈ added) : row.linkageIn? directed source target = none := by
  rw [← Option.isNone_iff_eq_none, ← Option.isSome_eq_false_iff, Row.isSome_linkageIn?,
    ← Bool.not_eq_true]
  intro hbetween
  obtain ⟨column, targetColumn, rfl | ⟨-, rfl⟩⟩ := exists_foreign_of_isBetween hbetween
  · rcases hapart.touches _ _ _ _ hrow with hnew | hnew
    · exact hapart.fresh _ hnew hs
    · exact hapart.fresh _ hnew ht
  · rcases hapart.touches _ _ _ _ hrow with hnew | hnew
    · exact hapart.fresh _ hnew ht
    · exact hapart.fresh _ hnew hs

/-- Links lead in one direction only between the tables of the others and the further ones. -/
theorem oneWay_isLinked (hg : ofRows rows schema directed = .ok g)
    (hh : ofRows all schema directed = .ok h) (hall : Interleaves rows added all) :
    (∀ a b, h.isLinked a b = true → a ∈ g.tableNames → b ∈ g.tableNames) ∨
    (∀ a b, h.isLinked a b = true → b ∈ g.tableNames → a ∈ g.tableNames) := by
  have hprimary : ∀ {name}, name ∈ g.tableNames → name ∈ primaryNames rows :=
    (mem_tableNames_iff_mem_primaryNames hg).1
  cases directed with
  | false =>
    refine Or.inl fun a b hlink ha => ?_
    rcases isLinked_interleaves hg hh hall hlink with ⟨-, hb⟩ | ⟨row, hrow, hbetween⟩
    · exact hb
    · obtain ⟨_, _, rfl | ⟨-, rfl⟩⟩ := exists_foreign_of_isBetween hbetween
      · exact absurd (hprimary ha) (hapart.separate rfl _ _ _ _ hrow).1
      · exact absurd (hprimary ha) (hapart.separate rfl _ _ _ _ hrow).2
  | true =>
    -- in both cases the other end is an old table, since the link would else go the wrong way
    refine (hapart.oneWay rfl).imp (fun hout a b hlink ha => ?_) fun hin a b hlink hb => ?_
    · rcases isLinked_interleaves hg hh hall hlink with ⟨-, hb⟩ | ⟨row, hrow, hbetween⟩
      · exact hb
      · obtain ⟨_, _, rfl | ⟨hd, -⟩⟩ := exists_foreign_of_isBetween hbetween
        · have hb := (mem_tableNames_interleaves hg hh hall).1 (mem_tableNames_of_isLinked hlink).2
          exact hb.resolve_right fun hnew => hout _ _ _ _ hrow ⟨hprimary ha, hnew⟩
        · cases hd
    · rcases isLinked_interleaves hg hh hall hlink with ⟨ha, -⟩ | ⟨row, hrow, hbetween⟩
      · exact ha
      · obtain ⟨_, _, rfl | ⟨hd, -⟩⟩ := exists_foreign_of_isBetween hbetween
        · have ha := (mem_tableNames_interleaves hg hh hall).1 (mem_tableNames_of_isLinked hlink).1
          exact ha.resolve_right fun hnew => hin _ _ _ _ hrow ⟨hnew, hprimary hb⟩
        · cases hd

/-- The graph of the others is a part of the graph of all rows. -/
theorem isPart (hg : ofRows rows schema directed = .ok g)
    (hh : ofRows all schema directed = .ok h) (hall : Interleaves rows added all) :
    g.IsPart h where
  schema := (schema_ofRows hh).trans (schema_ofRows hg).symm
  table := by
    intro name hname
    obtain ⟨column, hrow⟩ := (mem_tableNames_ofRows hg).1 hname
    rw [table?_ofRows hg hrow, table?_ofRows hh (hall.mem_iff.2 (Or.inl hrow))]
  linkage := by
    intro source hs target ht
    have hknown : ∀ {name}, name ∈ g.tableNames → name ∈ h.tableNames := fun hname =>
      (mem_tableNames_interleaves hg hh hall).2 (Or.inl hname)
    have hs' := (mem_tableNames_iff_mem_primaryNames hg).1 hs
    have ht' := (mem_tableNames_iff_mem_primaryNames hg).1 ht
    rw [linkage?_ofRows hg hs ht, linkage?_ofRows hh (hknown hs) (hknown ht),
      hall.filterMap_eq fun row hrow => hapart.linkageIn?_eq_none hs' ht' hrow]
  oneWay := hapart.oneWay_isLinked hg hh hall

end StandsApart

/-! ## Membership in a larger graph -/

namespace IsPart

variable (hpart : g.IsPart h)
include hpart

theorem candidates_eq (hs : source ∈ g.tableNames) (ht : target ∈ g.tableNames) (limit : Nat) :
    h.candidates source target limit = g.candidates source target limit := by
  unfold candidates
  rw [hpart.findPaths_eq hs ht, hpart.schema]

theorem belongsTo_eq (hs : source ∈ g.tableNames) (ht : target ∈ g.tableNames)
    (executor : Executor) (sourceKey targetKey : String) (limit : Nat) :
    h.belongsTo executor source sourceKey target targetKey limit =
      g.belongsTo executor source sourceKey target targetKey limit := by
  unfold belongsTo
  rw [hpart.candidates_eq hs ht]

theorem belongsToVia_eq {names : List String} (hnames : ∀ name ∈ names, name ∈ g.tableNames)
    (executor : Executor) (sourceKey targetKey : String) :
    h.belongsToVia executor names sourceKey targetKey =
      g.belongsToVia executor names sourceKey targetKey := by
  unfold belongsToVia
  rw [hpart.explicitPath_eq hnames, hpart.schema]

end IsPart

/-- Rows that stand apart from others change no answer about the tables of the others: linkages,
paths found and named, statements, and the calls and results of runs stay as they are. -/
theorem answers_of_standsApart (hapart : StandsApart directed rows added)
    (hall : Interleaves rows added all) (hg : ofRows rows schema directed = .ok g)
    (hh : ofRows all schema directed = .ok h) :
    (∀ source ∈ g.tableNames, ∀ target ∈ g.tableNames,
      h.linkage? source target = g.linkage? source target ∧
      ∀ limit, h.findPaths source target limit = g.findPaths source target limit ∧
        h.candidates source target limit = g.candidates source target limit ∧
        ∀ executor sourceKey targetKey,
          h.belongsTo executor source sourceKey target targetKey limit =
            g.belongsTo executor source sourceKey target targetKey limit) ∧
    ∀ names, (∀ name ∈ names, name ∈ g.tableNames) →
      h.explicitPath names = g.explicitPath names ∧
      ∀ executor sourceKey targetKey,
        h.belongsToVia executor names sourceKey targetKey =
          g.belongsToVia executor names sourceKey targetKey := by
  have hpart := hapart.isPart hg hh hall
  refine ⟨fun source hs target ht => ⟨hpart.linkage source hs target ht, fun limit => ?_⟩,
    fun names hnames => ?_⟩
  · exact ⟨hpart.findPaths_eq hs ht limit, hpart.candidates_eq hs ht limit,
      fun executor sourceKey targetKey =>
        hpart.belongsTo_eq hs ht executor sourceKey targetKey limit⟩
  · exact ⟨hpart.explicitPath_eq hnames, hpart.belongsToVia_eq hnames⟩

/-- Two tables that refer to each other, and one between them by name that refers to one of them. -/
def mutualRowsAmongOthers : List Row :=
  [.primary "aa" "id", .primary "b" "id", .foreign "a" "x" "b" "id", .foreign "aa" "w" "b" "id",
    .foreign "a" "up" "a" "id", .primary "a" "id", .foreign "b" "y" "a" "id"]

/-- The table between the two others by name is not between them on any path. -/
theorem answers_of_mutualRowsAmongOthers :
    StandsApart true mutualRows [.primary "aa" "id", .foreign "aa" "w" "b" "id"] ∧
    Interleaves mutualRows [.primary "aa" "id", .foreign "aa" "w" "b" "id"]
      mutualRowsAmongOthers ∧
    ∃ g h, ofRows mutualRows "s" true = .ok g ∧ ofRows mutualRowsAmongOthers "s" true = .ok h ∧
      "aa" ∈ h.tableNames ∧ h.linkage? "a" "b" = g.linkage? "a" "b" ∧
      h.findPaths "a" "b" 3 = g.findPaths "a" "b" 3 ∧
      h.explicitPath ["b", "a"] = g.explicitPath ["b", "a"] := by
  have hapart : StandsApart true mutualRows [.primary "aa" "id", .foreign "aa" "w" "b" "id"] := by
    have hsource : ∀ source column target targetColumn,
        Row.foreign source column target targetColumn ∈
          [.primary "aa" "id", .foreign "aa" "w" "b" "id"] → source = "aa" := by
      simp +contextual
    refine ⟨by decide, fun source _ _ _ hrow => Or.inl ?_, fun _ => Or.inl ?_, nofun⟩
    · obtain rfl := hsource _ _ _ _ hrow
      decide
    · rintro source _ _ _ hrow ⟨hold, -⟩
      obtain rfl := hsource _ _ _ _ hrow
      exact absurd hold (by decide)
  have hall : Interleaves mutualRows [.primary "aa" "id", .foreign "aa" "w" "b" "id"]
      mutualRowsAmongOthers :=
    .right (.left (.left (.right (.left (.left (.left .nil))))))
  obtain ⟨g, hg⟩ := exists_ofRows mutualRows "s" true (by decide) (by decide)
  obtain ⟨h, hh⟩ := exists_ofRows mutualRowsAmongOthers "s" true (by decide) (by decide)
  have ha : "a" ∈ g.tableNames := (mem_tableNames_ofRows hg).2 ⟨"id", by decide⟩
  have hb : "b" ∈ g.tableNames := (mem_tableNames_ofRows hg).2 ⟨"id", by decide⟩
  obtain ⟨hpairs, hnamed⟩ := answers_of_standsApart hapart hall hg hh
  obtain ⟨hlink, hfind⟩ := hpairs "a" ha "b" hb
  have hnew : "aa" ∈ h.tableNames := (mem_tableNames_ofRows hh).2 ⟨"id", by decide⟩
  have hknown : ∀ name ∈ ["b", "a"], name ∈ g.tableNames := by simp [ha, hb]
  exact ⟨hapart, hall, g, h, hg, hh, hnew, hlink, (hfind 3).1, (hnamed _ hknown).1⟩

end JoinGraph

end JoinPaths
