import JoinPaths.Membership.Basic
import JoinPaths.Proofs.Except

/-!
# Runs of queries

Queries are run in order until one is decided: it tells of membership, or it fails. So the calls
that are made are the first calls of the queries (`calls_tryAll_prefix`). If the answers of an
executor do not depend on earlier calls, each query can as well be run on its own, and the run is
that of the first decided one (`tryAll_eq_firstDecided`).
-/

namespace JoinPaths

variable {executor : Executor} {sourceKey targetKey : String} {earlier : List Call}

/-! ## Queries of paths -/

namespace Path

variable {p : Path} (schema : String)

/-- The statement of a path with the keys of its parameters. -/
def membershipQuery (p : Path) (schema : String) : Query :=
  ⟨p.statement schema, keySlots⟩

theorem query_eq_ok (h : p.isTrivial = false) :
    p.query schema = .ok (p.membershipQuery schema) := by
  unfold query
  rw [h]
  rfl

theorem queries_eq_ok {paths : List Path} (h : ∀ p ∈ paths, p.isTrivial = false) :
    Path.queries schema paths = .ok (paths.map fun p => p.membershipQuery schema) := by
  induction paths with
  | nil => rfl
  | cons p paths ih =>
    obtain ⟨hp, hpaths⟩ := List.forall_mem_cons.1 h
    rw [queries, query_eq_ok schema hp]
    dsimp only [Except.bind]
    rw [ih hpaths]
    rfl

end Path

/-! ## Running queries -/

/-- Whether the answers of an executor depend on the call alone. -/
def Executor.IsStateless (executor : Executor) : Prop :=
  ∀ earlier earlier' call, executor earlier call = executor earlier' call

theorem Executor.IsStateless.ask_eq (h : executor.IsStateless) (earlier earlier' : List Call)
    (call : Call) : executor.ask earlier call = executor.ask earlier' call := by
  unfold Executor.ask
  rw [h earlier earlier']

/-- The first run that tells of membership or fails, behind those that do neither. -/
def Run.firstDecided : List (Run Error Bool) → Run Error Bool
  | [] => ⟨[], .ok false⟩
  | r :: runs =>
    match r.result with
    | .ok false => ⟨r.calls ++ (firstDecided runs).calls, (firstDecided runs).result⟩
    | _ => r

namespace Executor

theorem tryAll_cons_of_false {q : Query} (queries : List Query)
    (h : executor.ask earlier (q.call sourceKey targetKey) = .ok false) :
    executor.tryAll sourceKey targetKey earlier (q :: queries) =
      ⟨q.call sourceKey targetKey ::
          (executor.tryAll sourceKey targetKey (earlier ++ [q.call sourceKey targetKey])
            queries).calls,
        (executor.tryAll sourceKey targetKey (earlier ++ [q.call sourceKey targetKey])
          queries).result⟩ := by
  rw [tryAll]
  dsimp only
  rw [h]

theorem tryAll_cons_of_ne_false {q : Query} (queries : List Query)
    (h : executor.ask earlier (q.call sourceKey targetKey) ≠ .ok false) :
    executor.tryAll sourceKey targetKey earlier (q :: queries) =
      ⟨[q.call sourceKey targetKey], executor.ask earlier (q.call sourceKey targetKey)⟩ := by
  rw [tryAll]
  dsimp only
  split
  · next hfalse => exact absurd hfalse h
  · rfl

/-- The calls of a run are the first calls of its queries. -/
theorem calls_tryAll_prefix (executor : Executor) (sourceKey targetKey : String)
    (earlier : List Call) (queries : List Query) :
    (executor.tryAll sourceKey targetKey earlier queries).calls <+:
      queries.map fun q => q.call sourceKey targetKey := by
  induction queries generalizing earlier with
  | nil => exact List.prefix_rfl
  | cons q queries ih =>
    rw [List.map_cons]
    by_cases h : executor.ask earlier (q.call sourceKey targetKey) = .ok false
    · rw [tryAll_cons_of_false queries h]
      exact List.cons_prefix_cons.2 ⟨rfl, ih _⟩
    · rw [tryAll_cons_of_ne_false queries h]
      exact List.cons_prefix_cons.2 ⟨rfl, List.nil_prefix⟩

/-- Queries that do not fail are run until one of them tells of membership. -/
theorem result_tryAll {truth : Query → Bool} {queries : List Query} (earlier : List Call)
    (h : ∀ earlier, ∀ q ∈ queries,
      executor.ask earlier (q.call sourceKey targetKey) = .ok (truth q)) :
    (executor.tryAll sourceKey targetKey earlier queries).result = .ok (queries.any truth) := by
  induction queries generalizing earlier with
  | nil => rfl
  | cons q queries ih =>
    have hq := h earlier q List.mem_cons_self
    have hqueries := fun earlier q' hq' => h earlier q' (List.mem_cons_of_mem q hq')
    rw [List.any_cons]
    cases htruth : truth q with
    | false =>
      rw [htruth] at hq
      rw [tryAll_cons_of_false queries hq, Bool.false_or]
      exact ih _ hqueries
    | true =>
      have hne : executor.ask earlier (q.call sourceKey targetKey) ≠ .ok false := by
        rw [hq, htruth]
        simp
      rw [tryAll_cons_of_ne_false queries hne, hq, htruth, Bool.true_or]

/-- Without a memory of earlier calls, the queries can be run one by one. -/
theorem tryAll_eq_firstDecided (h : executor.IsStateless) (queries : List Query) :
    executor.tryAll sourceKey targetKey earlier queries =
      Run.firstDecided (queries.map fun q =>
        ⟨[q.call sourceKey targetKey], executor.ask [] (q.call sourceKey targetKey)⟩) := by
  induction queries generalizing earlier with
  | nil => rfl
  | cons q queries ih =>
    have hask := h.ask_eq earlier [] (q.call sourceKey targetKey)
    rw [List.map_cons, Run.firstDecided]
    dsimp only
    by_cases hfalse : executor.ask [] (q.call sourceKey targetKey) = .ok false
    · rw [tryAll_cons_of_false queries (hask.trans hfalse), ih, hfalse]
      rfl
    · rw [tryAll_cons_of_ne_false queries (hask ▸ hfalse), hask]
      split
      · next he => exact absurd he hfalse
      · rfl

end Executor

/-! ## Membership -/

namespace JoinGraph

variable {g : JoinGraph} {source target : String} {limit : Nat}

theorem candidates_eq_ok {paths : List Path} (h : g.findPaths source target limit = .ok paths) :
    g.candidates source target limit = .ok ((paths.filter fun p => !p.isTrivial).map fun p =>
      p.membershipQuery g.schema) := by
  unfold candidates
  rw [h]
  apply Path.queries_eq_ok
  intro p hp
  exact (Bool.not_eq_true' _).mp (List.mem_filter.1 hp).2

theorem belongsTo_eq_tryAll {paths : List Path}
    (h : g.findPaths source target limit = .ok paths) :
    g.belongsTo executor source sourceKey target targetKey limit =
      executor.tryAll sourceKey targetKey [] ((paths.filter fun p => !p.isTrivial).map fun p =>
        p.membershipQuery g.schema) := by
  unfold belongsTo
  rw [candidates_eq_ok h]

theorem candidates_eq_error {e : Error} (h : g.findPaths source target limit = .error e) :
    g.candidates source target limit = .error e := by
  unfold candidates
  rw [h]
  rfl

theorem belongsTo_eq_error {e : Error} (h : g.findPaths source target limit = .error e) :
    g.belongsTo executor source sourceKey target targetKey limit = ⟨[], .error e⟩ := by
  unfold belongsTo
  rw [candidates_eq_error h]

theorem belongsToVia_eq {names : List String} {p : Path} (h : g.explicitPath names = .ok p)
    (hp : p.isTrivial = false) :
    g.belongsToVia executor names sourceKey targetKey =
      ⟨[(p.membershipQuery g.schema).call sourceKey targetKey],
        executor.ask [] ((p.membershipQuery g.schema).call sourceKey targetKey)⟩ := by
  have hq : (g.explicitPath names).bind (fun p => p.query g.schema) =
      .ok (p.membershipQuery g.schema) := by
    rw [h]
    exact Path.query_eq_ok g.schema hp
  unfold belongsToVia
  rw [hq]

theorem belongsToVia_eq_error {names : List String} {e : Error}
    (h : g.explicitPath names = .error e) :
    g.belongsToVia executor names sourceKey targetKey = ⟨[], .error e⟩ := by
  unfold belongsToVia
  rw [h]
  rfl

end JoinGraph

end JoinPaths
