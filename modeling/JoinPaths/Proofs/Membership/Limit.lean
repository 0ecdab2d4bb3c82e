import JoinPaths.Proofs.JoinGraph.Paths
import JoinPaths.Proofs.Membership.Run

/-!
# Raising the limit

A larger limit asks for more paths, and the further ones come behind those that the smaller limit
asks for already. So whatever the smaller limit decides stays decided.

1. A search with the smaller limit finds the first paths of the search with the larger one
   (`findPaths_eq_map_take`), and its candidates are the first ones (`candidates_prefix`).
2. To run more queries is to go on where the first ones left the question open (`tryAll_append`).
3. So the calls go on as well, and a verdict ends both runs at the same call
   (`belongsTo_of_limit_le`).
-/

namespace JoinPaths

variable {executor : Executor} {sourceKey targetKey : String}

/-! ## Going on with a run -/

/-- A run that goes on with another one, after its own calls, if it has left the question open. -/
def Run.andThen (run : Run Error Bool) (next : List Call → Run Error Bool) : Run Error Bool :=
  match run.result with
  | .ok false => ⟨run.calls ++ (next run.calls).calls, (next run.calls).result⟩
  | _ => run

namespace Run

variable {run : Run Error Bool}

theorem andThen_of_false (next : List Call → Run Error Bool) (h : run.result = .ok false) :
    run.andThen next = ⟨run.calls ++ (next run.calls).calls, (next run.calls).result⟩ := by
  unfold andThen
  rw [h]

theorem andThen_of_ne_false (next : List Call → Run Error Bool) (h : run.result ≠ .ok false) :
    run.andThen next = run := by
  unfold andThen
  split
  · next hfalse => exact absurd hfalse h
  · rfl

theorem calls_prefix_andThen (run : Run Error Bool) (next : List Call → Run Error Bool) :
    run.calls <+: (run.andThen next).calls := by
  by_cases h : run.result = .ok false
  · rw [andThen_of_false next h]
    exact List.prefix_append _ _
  · refine ⟨[], ?_⟩
    rw [andThen_of_ne_false next h, List.append_nil]

end Run

namespace Executor

/-- To run more queries is to go on with them if the first ones leave the question open; the
executor then remembers the calls of the first ones. -/
theorem tryAll_append (executor : Executor) (sourceKey targetKey : String) (earlier : List Call)
    (queries more : List Query) :
    executor.tryAll sourceKey targetKey earlier (queries ++ more) =
      (executor.tryAll sourceKey targetKey earlier queries).andThen fun calls =>
        executor.tryAll sourceKey targetKey (earlier ++ calls) more := by
  induction queries generalizing earlier with
  | nil =>
    rw [List.nil_append, Run.andThen_of_false _ rfl]
    show _ = (⟨[] ++ (executor.tryAll sourceKey targetKey (earlier ++ []) more).calls,
      (executor.tryAll sourceKey targetKey (earlier ++ []) more).result⟩ : Run Error Bool)
    rw [List.append_nil, List.nil_append]
  | cons q queries ih =>
    rw [List.cons_append]
    by_cases h : executor.ask earlier (q.call sourceKey targetKey) = .ok false
    · rw [tryAll_cons_of_false (queries ++ more) h, tryAll_cons_of_false queries h, ih]
      -- the call that was denied only stands before the calls of both runs
      unfold Run.andThen
      dsimp only
      split
      · rw [List.append_assoc]
        rfl
      · rfl
    · rw [tryAll_cons_of_ne_false (queries ++ more) h, tryAll_cons_of_ne_false queries h,
        Run.andThen_of_ne_false _ h]

end Executor

namespace JoinGraph

variable {g : JoinGraph} {source target : String} {limit limit' : Nat}

/-! ## More paths -/

theorem findPaths_eq_map_take (h : limit ≤ limit') :
    g.findPaths source target limit =
      (g.findPaths source target limit').map (List.take limit) := by
  by_cases hs : source ∈ g.tableNames
  · by_cases ht : target ∈ g.tableNames
    · obtain ⟨all, -, -, htake⟩ := exists_findPaths hs ht
      rw [htake, htake, Except.map, List.take_take, Nat.min_eq_left h]
    · rw [findPaths_of_target_not_mem hs ht, findPaths_of_target_not_mem hs ht]
      rfl
  · rw [findPaths_of_source_not_mem hs, findPaths_of_source_not_mem hs]
    rfl

theorem candidates_prefix (h : limit ≤ limit') {queries' : List Query}
    (hqueries' : g.candidates source target limit' = .ok queries') :
    ∃ queries, g.candidates source target limit = .ok queries ∧ queries <+: queries' := by
  cases hpaths : g.findPaths source target limit' with
  | error e =>
    rw [candidates_eq_error hpaths] at hqueries'
    cases hqueries'
  | ok paths =>
    rw [candidates_eq_ok hpaths] at hqueries'
    obtain rfl := Except.ok.inj hqueries'
    have hfirst : g.findPaths source target limit = .ok (paths.take limit) := by
      rw [findPaths_eq_map_take h, hpaths]
      rfl
    exact ⟨_, candidates_eq_ok hfirst, ((List.take_prefix limit paths).filter _).map _⟩

/-! ## More calls -/

/-- With a larger limit a run goes on where the run with the smaller limit left the question
open. -/
theorem exists_belongsTo_eq_andThen (h : limit ≤ limit') (executor : Executor)
    (sourceKey targetKey : String) :
    ∃ next, g.belongsTo executor source sourceKey target targetKey limit' =
      (g.belongsTo executor source sourceKey target targetKey limit).andThen next := by
  cases hpaths : g.findPaths source target limit' with
  | error e =>
    have hfirst : g.findPaths source target limit = .error e := by
      rw [findPaths_eq_map_take h, hpaths]
      rfl
    rw [belongsTo_eq_error hpaths, belongsTo_eq_error hfirst]
    exact ⟨fun _ => ⟨[], .error e⟩, rfl⟩
  | ok paths =>
    obtain ⟨queries, hqueries, more, hmore⟩ := candidates_prefix h (candidates_eq_ok hpaths)
    rw [belongsTo_eq_tryAll hpaths, ← hmore, belongsTo, hqueries]
    exact ⟨_, executor.tryAll_append sourceKey targetKey [] queries more⟩

/-- A larger limit only adds paths and candidates behind those of a smaller one. So the calls of a
run with the smaller limit come first, and a verdict or a failure that ends it ends the run with the
larger limit at the same call. -/
theorem belongsTo_of_limit_le (g : JoinGraph) (source target : String) (h : limit ≤ limit') :
    g.findPaths source target limit =
        (g.findPaths source target limit').map (List.take limit) ∧
      (∀ queries', g.candidates source target limit' = .ok queries' →
        ∃ queries, g.candidates source target limit = .ok queries ∧ queries <+: queries') ∧
      ∀ executor sourceKey targetKey,
        (g.belongsTo executor source sourceKey target targetKey limit).calls <+:
            (g.belongsTo executor source sourceKey target targetKey limit').calls ∧
          ((g.belongsTo executor source sourceKey target targetKey limit).result ≠ .ok false →
            g.belongsTo executor source sourceKey target targetKey limit' =
              g.belongsTo executor source sourceKey target targetKey limit) := by
  refine ⟨findPaths_eq_map_take h, fun _ => candidates_prefix h,
    fun executor sourceKey targetKey => ?_⟩
  obtain ⟨next, hnext⟩ := exists_belongsTo_eq_andThen h executor sourceKey targetKey
  rw [hnext]
  exact ⟨Run.calls_prefix_andThen _ next, Run.andThen_of_ne_false next⟩

/-- An executor that runs no statement. -/
def failingExecutor (reason : String) : Executor := fun _ _ => .error reason

/-- If the first call fails, it is the only one with a larger limit too. -/
theorem belongsTo_of_failure :
    ∃ g, ofRows mutualRows "s" false = .ok g ∧
      g.findPaths "a" "b" 1 = (g.findPaths "a" "b" 3).map (List.take 1) ∧
        (g.belongsTo (failingExecutor "down") "a" "1" "b" "2" 1).result =
            .error (.execution "down") ∧
          g.belongsTo (failingExecutor "down") "a" "1" "b" "2" 3 =
            g.belongsTo (failingExecutor "down") "a" "1" "b" "2" 1 := by
  obtain ⟨g, hg, -, ha, hb, -, -, hlink⟩ := exists_ofRows_mutualRows
  obtain ⟨all, hall, -, htake⟩ := exists_findPaths ha hb
  obtain ⟨hfind, -, hrun⟩ := belongsTo_of_limit_le g "a" "b" (show 1 ≤ 3 by decide)
  have hchain : ["a", "b"] ∈ g.simpleChains "a" "b" :=
    mem_simpleChains.2 (isSimpleChain_pair ha hb (by decide) (isLinked_iff.2 ⟨_, hlink⟩))
  have hfails : (g.belongsTo (failingExecutor "down") "a" "1" "b" "2" 1).result =
      .error (.execution "down") := by
    rw [belongsTo_eq_tryAll (htake 1)]
    cases all with
    | nil =>
      rw [← hall] at hchain
      cases hchain
    | cons p rest =>
      have hp : p.names ∈ g.simpleChains "a" "b" := by
        rw [← hall]
        exact List.mem_cons_self
      have hp := (mem_simpleChains.1 hp).isTrivial_eq_false (by decide)
      rw [List.take_succ_cons, List.take_zero, List.filter_cons_of_pos (by rw [hp]; rfl)]
      rfl
  refine ⟨g, hg, hfind, hfails, (hrun _ _ _).2 ?_⟩
  rw [hfails]
  exact nofun

end JoinGraph

end JoinPaths
