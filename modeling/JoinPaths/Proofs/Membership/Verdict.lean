import JoinPaths.Proofs.JoinGraph.Paths
import JoinPaths.Proofs.Membership.Run

/-!
# How a run ends

An executor may remember all it was sent, so what it answers to a call depends on the calls before
it. An answer that tells of no membership leaves the question open; any other one is a verdict and
ends the run. `Executor.RunsTo` says so of a list of calls, place by place and without any
recursion: the calls that are made are those up to the first verdict, and the result is that
verdict.

1. A list of calls has one run at most (`RunsTo.unique`).
2. The queries of the candidates are run in this way, whatever was sent before (`runsTo_tryAll`).
3. So a question of membership has just that run (`belongsTo_eq_iff_runsTo`).
-/

namespace JoinPaths

variable {executor : Executor} {earlier calls : List Call} {call : Call}

/-! ## Verdicts -/

/-- The end to which an answer brings a run, unless it tells of no membership. -/
def verdict? : Except String (List Json) → Option (Except Error Bool)
  | .error reason => some (.error (.execution reason))
  | .ok rows =>
    match readFlag rows with
    | .ok true => some (.ok true)
    | .ok false => none
    | .error cause => some (.error (.malformedAnswer cause))

namespace Executor

/-- What an executor answers to one of some calls, after it was sent those before it. -/
def answer (executor : Executor) (earlier calls : List Call) (i : Fin calls.length) :
    Except String (List Json) :=
  executor (earlier ++ calls.take i) (calls.get i)

/-- What comes of calls that are made one after the other until there is a verdict. -/
inductive RunsTo (executor : Executor) (earlier calls : List Call) : Run Error Bool → Prop where
  /-- There is no verdict, and all calls are made. -/
  | denied (hall : ∀ i, verdict? (executor.answer earlier calls i) = none) :
    RunsTo executor earlier calls ⟨calls, .ok false⟩
  /-- The first verdict is the result, and no call behind it is made. -/
  | decided (j : Fin calls.length) {result : Except Error Bool}
      (hbefore : ∀ i < j, verdict? (executor.answer earlier calls i) = none)
      (hverdict : verdict? (executor.answer earlier calls j) = some result) :
    RunsTo executor earlier calls ⟨calls.take (j + 1), result⟩

theorem RunsTo.unique {run run' : Run Error Bool} (h : executor.RunsTo earlier calls run)
    (h' : executor.RunsTo earlier calls run') : run = run' := by
  cases h with
  | denied hall =>
    cases h' with
    | denied => rfl
    | decided j _ hverdict =>
      rw [hall j] at hverdict
      cases hverdict
  | decided j hbefore hverdict =>
    cases h' with
    | denied hall =>
      rw [hall j] at hverdict
      cases hverdict
    | decided k hbefore' hverdict' =>
      -- neither verdict comes before the other
      have hjk : j = k := by
        by_contra hne
        rcases Fin.lt_or_lt_of_ne hne with hlt | hlt
        · rw [hbefore' j hlt] at hverdict
          cases hverdict
        · rw [hbefore k hlt] at hverdict'
          cases hverdict'
      subst hjk
      rw [hverdict] at hverdict'
      obtain rfl := Option.some.inj hverdict'
      rfl

/-! ## Runs of queries -/

/-- The answers behind a call are those of an executor that was sent it before. -/
theorem answer_succ (i : Fin calls.length) :
    executor.answer earlier (call :: calls) i.succ =
      executor.answer (earlier ++ [call]) calls i := by
  unfold answer
  rw [List.append_assoc]
  rfl

theorem verdict?_answer_zero (executor : Executor) (earlier : List Call) (call : Call)
    (calls : List Call) :
    verdict? (executor.answer earlier (call :: calls) 0) =
      match executor.ask earlier call with
      | .ok false => none
      | decided => some decided := by
  show verdict? (executor (earlier ++ []) call) = _
  rw [List.append_nil]
  unfold ask verdict?
  cases executor earlier call with
  | error reason => rfl
  | ok rows =>
    dsimp only
    cases readFlag rows with
    | error cause => rfl
    | ok b => cases b <;> rfl

/-- Behind a call that is denied, the run goes on as if it began there. -/
theorem RunsTo.cons {run : Run Error Bool} (hcall : executor.ask earlier call = .ok false)
    (h : executor.RunsTo (earlier ++ [call]) calls run) :
    executor.RunsTo earlier (call :: calls) ⟨call :: run.calls, run.result⟩ := by
  have hzero := executor.verdict?_answer_zero earlier call calls
  rw [hcall] at hzero
  cases h with
  | denied hall =>
    refine .denied fun i => ?_
    cases i using Fin.cases with
    | zero => exact hzero
    | succ i =>
      rw [answer_succ]
      exact hall i
  | decided j hbefore hverdict =>
    refine @RunsTo.decided executor earlier (call :: calls) j.succ _ (fun i hi => ?_) ?_
    · cases i using Fin.cases with
      | zero => exact hzero
      | succ i =>
        rw [answer_succ]
        exact hbefore i (Fin.succ_lt_succ_iff.1 hi)
    · rw [answer_succ]
      exact hverdict

/-- Queries are run until there is a verdict, whatever was sent before them. -/
theorem runsTo_tryAll (executor : Executor) (sourceKey targetKey : String)
    (earlier : List Call) (queries : List Query) :
    executor.RunsTo earlier (queries.map fun q => q.call sourceKey targetKey)
      (executor.tryAll sourceKey targetKey earlier queries) := by
  induction queries generalizing earlier with
  | nil => exact .denied fun i => i.elim0
  | cons q queries ih =>
    by_cases h : executor.ask earlier (q.call sourceKey targetKey) = .ok false
    · rw [tryAll_cons_of_false queries h]
      exact (ih _).cons h
    · rw [tryAll_cons_of_ne_false queries h]
      rw [List.map_cons]
      refine @RunsTo.decided executor earlier (_ :: _) 0 _ (fun i hi => ?_) ?_
      · exact absurd hi (Fin.not_lt_zero i)
      rw [verdict?_answer_zero]
      split
      · next hfalse => exact absurd hfalse h
      · rfl

end Executor

/-! ## Membership -/

namespace JoinGraph

variable {g : JoinGraph} {source target : String}

/-- The calls of the candidates are made, each with its own text and with both keys, until there is
a verdict; an unknown table is refused before any call. -/
theorem belongsTo_eq_iff_runsTo (g : JoinGraph) (source target : String) (limit : Nat) :
    (source ∈ g.tableNames → target ∈ g.tableNames →
      ∃ queries, g.candidates source target limit = .ok queries ∧
        ∀ executor sourceKey targetKey run,
          g.belongsTo executor source sourceKey target targetKey limit = run ↔
            executor.RunsTo []
              (queries.map fun q => ⟨q.statement.text, [sourceKey, targetKey]⟩) run) ∧
    (source ∉ g.tableNames → g.candidates source target limit = .error (.unknownTable source) ∧
      ∀ executor sourceKey targetKey,
        g.belongsTo executor source sourceKey target targetKey limit =
          ⟨[], .error (.unknownTable source)⟩) ∧
    (source ∈ g.tableNames → target ∉ g.tableNames →
      g.candidates source target limit = .error (.unknownTable target) ∧
        ∀ executor sourceKey targetKey,
          g.belongsTo executor source sourceKey target targetKey limit =
            ⟨[], .error (.unknownTable target)⟩) := by
  refine ⟨fun hs ht => ?_, fun hs => ?_, fun hs ht => ?_⟩
  · obtain ⟨all, -, -, htake⟩ := exists_findPaths hs ht
    refine ⟨_, candidates_eq_ok (htake limit), fun executor sourceKey targetKey run => ?_⟩
    have hrun := executor.runsTo_tryAll sourceKey targetKey []
      (((all.take limit).filter fun p => !p.isTrivial).map fun p => p.membershipQuery g.schema)
    have hcalls : ∀ paths : List Path,
        (paths.map fun p => p.membershipQuery g.schema).map
            (fun q => (⟨q.statement.text, [sourceKey, targetKey]⟩ : Call)) =
          (paths.map fun p => p.membershipQuery g.schema).map
            fun q => q.call sourceKey targetKey := by
      intro paths
      rw [List.map_map, List.map_map]
      rfl
    rw [belongsTo_eq_tryAll (htake limit), hcalls]
    constructor
    · rintro rfl
      exact hrun
    · exact hrun.unique
  · have hfind := findPaths_of_source_not_mem hs target limit
    exact ⟨candidates_eq_error hfind, fun _ _ _ => belongsTo_eq_error hfind⟩
  · have hfind := findPaths_of_target_not_mem hs ht limit
    exact ⟨candidates_eq_error hfind, fun _ _ _ => belongsTo_eq_error hfind⟩

/-- An executor that finds no rows is sent the calls of all candidates, and none for a table that
is not there. -/
theorem belongsTo_without_verdict :
    ∃ g, ofRows mutualRows "s" false = .ok g ∧
      (∃ queries, g.candidates "a" "b" 3 = .ok queries ∧
        g.belongsTo (fun _ _ => .ok []) "a" "1" "b" "2" 3 =
          ⟨queries.map fun q => ⟨q.statement.text, ["1", "2"]⟩, .ok false⟩) ∧
      g.belongsTo (fun _ _ => .ok []) "c" "1" "b" "2" 3 = ⟨[], .error (.unknownTable "c")⟩ ∧
      g.belongsTo (fun _ _ => .ok []) "a" "1" "c" "2" 3 = ⟨[], .error (.unknownTable "c")⟩ := by
  obtain ⟨g, hg, -, ha, hb, -, -, -⟩ := exists_ofRows_mutualRows
  have hc : "c" ∉ g.tableNames := by
    rw [mem_tableNames_ofRows hg]
    rintro ⟨column, hrow⟩
    simp [mutualRows] at hrow
  obtain ⟨queries, hqueries, hrun⟩ := (belongsTo_eq_iff_runsTo g "a" "b" 3).1 ha hb
  refine ⟨g, hg, ⟨queries, hqueries, (hrun _ _ _ _).2 (.denied fun _ => rfl)⟩, ?_, ?_⟩
  · exact ((belongsTo_eq_iff_runsTo g "c" "b" 3).2.1 hc).2 _ _ _
  · exact ((belongsTo_eq_iff_runsTo g "a" "c" 3).2.2 ha hc).2 _ _ _

end JoinGraph

end JoinPaths
