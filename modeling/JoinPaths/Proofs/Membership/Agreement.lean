import JoinPaths.Proofs.JoinGraph.ExplicitPath
import JoinPaths.Proofs.Membership.Run

/-!
# Naming and searching agree

A membership question over the path between two tables can be put in two ways: by searching for the
candidates, or by naming the tables of one. The named path is that of the search, so the same query
is sent for it.
-/

namespace JoinPaths.JoinGraph

variable {g : JoinGraph} {executor : Executor} {source target : String} {limit : Nat}
  {paths : List Path}

/-- The query of a path that was found is sent if its tables are named. -/
theorem belongsToVia_names (h : g.findPaths source target limit = .ok paths)
    (sourceKey targetKey : String) {p : Path} (hp : p ∈ paths.filter fun p => !p.isTrivial) :
    g.belongsToVia executor p.names sourceKey targetKey =
      ⟨[(p.membershipQuery g.schema).call sourceKey targetKey],
        executor.ask [] ((p.membershipQuery g.schema).call sourceKey targetKey)⟩ := by
  obtain ⟨hmem, htrivial⟩ := List.mem_filter.1 hp
  have htrivial := (Bool.not_eq_true' _).mp htrivial
  exact belongsToVia_eq (explicitPath_names h hmem htrivial) htrivial

/-- A path can be named exactly if a search finds it, and to name it is to ask for that candidate:
its query is sent, and an executor that keeps no memory of earlier calls answers as in the search. -/
theorem explicitPath_agrees_findPaths (g : JoinGraph) :
    (∀ names limit, (∀ source target, names.head? = some source → names.getLast? = some target →
        (g.simpleChains source target).length ≤ limit) →
      ∀ p, g.explicitPath names = .ok p ↔ 2 ≤ names.length ∧
        ∃ source ∈ g.tableNames, ∃ target ∈ g.tableNames,
          names.head? = some source ∧ names.getLast? = some target ∧
            ∃ paths, g.findPaths source target limit = .ok paths ∧ p ∈ paths ∧
              p.names = names) ∧
    (∀ source target limit paths, g.findPaths source target limit = .ok paths →
      ∃ queries, g.candidates source target limit = .ok queries ∧
        ∀ executor sourceKey targetKey,
          ((paths.filter fun p => !p.isTrivial).map fun p =>
              (g.belongsToVia executor p.names sourceKey targetKey).calls) =
            (queries.map fun q => [q.call sourceKey targetKey]) ∧
          (g.belongsTo executor source sourceKey target targetKey limit).calls <+:
            queries.map fun q => q.call sourceKey targetKey) ∧
    (∀ executor : Executor, executor.IsStateless →
      ∀ source sourceKey target targetKey limit,
        g.belongsTo executor source sourceKey target targetKey limit =
          match g.findPaths source target limit with
          | .error e => ⟨[], .error e⟩
          | .ok paths => Run.firstDecided ((paths.filter fun p => !p.isTrivial).map fun p =>
              g.belongsToVia executor p.names sourceKey targetKey)) := by
  refine ⟨fun names limit hlimit p => explicitPath_eq_ok_iff_mem hlimit,
    fun source target limit paths h => ⟨_, candidates_eq_ok h,
      fun executor sourceKey targetKey => ⟨?_, ?_⟩⟩,
    fun executor hstateless source sourceKey target targetKey limit => ?_⟩
  · rw [List.map_map]
    apply List.map_congr_left
    intro p hp
    show (g.belongsToVia executor p.names sourceKey targetKey).calls =
      [(p.membershipQuery g.schema).call sourceKey targetKey]
    rw [belongsToVia_names h sourceKey targetKey hp]
  · rw [belongsTo_eq_tryAll h]
    exact executor.calls_tryAll_prefix sourceKey targetKey [] _
  · cases h : g.findPaths source target limit with
    | error e => exact belongsTo_eq_error h
    | ok paths =>
      dsimp only
      rw [belongsTo_eq_tryAll h, executor.tryAll_eq_firstDecided hstateless, List.map_map]
      apply congrArg Run.firstDecided
      apply List.map_congr_left
      intro p hp
      rw [belongsToVia_names h sourceKey targetKey hp]
      rfl

/-- An executor that finds no rows. -/
def emptyExecutor : Executor := fun _ _ => .ok []

/-- Of two tables that refer to each other, the path from one to the other can be named, a search
finds it, and to ask for it by its name is to ask for it in the search. -/
theorem explicitPath_of_mutualRows :
    ∃ g, ofRows mutualRows "s" false = .ok g ∧
      ∃ p, g.explicitPath ["a", "b"] = .ok p ∧
        ∃ paths, g.findPaths "a" "b" (g.simpleChains "a" "b").length = .ok paths ∧ p ∈ paths ∧
          g.belongsTo emptyExecutor "a" "1" "b" "2" (g.simpleChains "a" "b").length =
            Run.firstDecided ((paths.filter fun p => !p.isTrivial).map fun p =>
              g.belongsToVia emptyExecutor p.names "1" "2") := by
  obtain ⟨g, hg, -, -, -, ha, hb, hlink⟩ := exists_ofRows_mutualRows
  have hp : g.explicitPath ["a", "b"] = .ok ⟨⟨"a", "id"⟩, [(⟨"id", "y"⟩, ⟨"b", "id"⟩)]⟩ :=
    explicitPath_eq_ok_iff.2 ⟨by decide, rfl, by decide, carries_cons_iff.2
      ⟨ha, hlink, carries_nil_iff.2 hb⟩⟩
  obtain ⟨hnamed, -, hasked⟩ := explicitPath_agrees_findPaths g
  have hroom : ∀ source target, ["a", "b"].head? = some source →
      ["a", "b"].getLast? = some target →
        (g.simpleChains source target).length ≤ (g.simpleChains "a" "b").length := by
    intro source target hhead hlast
    obtain rfl := Option.some.inj hhead
    obtain rfl := Option.some.inj hlast
    exact Nat.le_refl _
  obtain ⟨-, source, -, target, -, hhead, hlast, paths, hpaths, hmem, -⟩ :=
    (hnamed ["a", "b"] _ hroom _).1 hp
  obtain rfl : "a" = source := Option.some.inj hhead
  obtain rfl : "b" = target := Option.some.inj hlast
  have hrun := hasked emptyExecutor (fun _ _ _ => rfl) "a" "1" "b" "2"
    (g.simpleChains "a" "b").length
  rw [hpaths] at hrun
  exact ⟨g, hg, _, hp, paths, hpaths, hmem, hrun⟩

end JoinPaths.JoinGraph
