import JoinPaths.Proofs.JoinGraph.Outcome
import JoinPaths.Proofs.JoinGraph.Reversal
import JoinPaths.Proofs.Membership.Meaning

/-!
# Membership both ways

In an undirected graph it does not matter from which side membership is asked for, if all paths may
be tried (`belongsTo_comm`). The two questions are put in different statements and in a different
order, but they have one answer:

1. Records that connect two keys connect them the other way round when they are taken from the last
   to the first, since neighbours are compared in the same columns from both sides
   (`Connects.reverse`).
2. So the statement of a path holds for two keys exactly if that of the reversed path holds for the
   keys exchanged (`holds_reverse`).
3. What a search the other way round finds are the reversed paths, and over a database membership
   means that one of the statements holds, in whatever order they are asked
   (`result_belongsTo`).
-/

namespace JoinPaths

open Catalog (Row)
open Sql (Database Record)

variable {V : Type} {db : Database V} {g : JoinGraph} {p : Path} {executor : Executor}
  {source target sourceKey targetKey : String}

theorem Sql.Database.same_comm (hequal : ∀ v w, db.equal v w = db.equal w v) (v w : Option V) :
    db.same v w = db.same w v := by
  cases v with
  | none => cases w <;> rfl
  | some v =>
    cases w with
    | none => rfl
    | some w => exact hequal v w

namespace Path

@[simp] theorem isTrivial_reverse (p : Path) : p.reverse.isTrivial = p.isTrivial := by
  rw [Bool.eq_iff_iff, isTrivial_iff, isTrivial_iff, names_reverse, List.length_reverse]

end Path

namespace JoinGraph

/-! ## Records from the last to the first -/

/-- In a symmetric graph, records in different tables that connect two keys connect them the other
way round as well. -/
theorem Connects.reverse (hg : g.IsSymmetric) (hequal : ∀ v w, db.equal v w = db.equal w v)
    {chosen : List (String × Record V)} (hnodup : (chosen.map Prod.fst).Nodup)
    (h : g.Connects db sourceKey targetKey chosen) :
    g.Connects db targetKey sourceKey chosen.reverse where
  stored := fun c hc => h.stored c (List.mem_reverse.1 hc)
  linked := by
    have hdistinct : chosen.IsChain fun a b => a.1 ≠ b.1 :=
      (List.pairwise_map.1 hnodup).isChain
    refine List.isChain_reverse.2 (List.isChain_iff_getElem.2 fun i hi => ?_)
    obtain ⟨l, hl, hsame⟩ := List.isChain_iff_getElem.1 h.linked i hi
    have hne := List.isChain_iff_getElem.1 hdistinct i hi
    obtain ⟨ha, hb⟩ := mem_tableNames_of_isLinked (isLinked_iff.2 ⟨l, hl⟩)
    refine ⟨l.reverse, hg _ ha _ hb hne l hl, ?_⟩
    rw [← hsame]
    exact db.same_comm hequal _ _
  source := by
    rw [List.head?_reverse]
    exact h.target
  target := by
    rw [List.getLast?_reverse]
    exact h.source

theorem holds_reverse (hg : g.IsSymmetric) (hequal : ∀ v w, db.equal v w = db.equal w v)
    (hp : g.Carries p) (hnodup : p.names.Nodup)
    (h : db.holds (p.statement g.schema) [sourceKey, targetKey] = true) :
    db.holds (p.reverse.statement g.schema) [targetKey, sourceKey] = true := by
  obtain ⟨chosen, hnames, hconnects⟩ := (holds_statement_iff hp hnodup).1 h
  have hnodup' : p.reverse.names.Nodup := by
    rw [Path.names_reverse, List.nodup_reverse]
    exact hnodup
  refine (holds_statement_iff (hp.reverse hg hnodup) hnodup').2 ⟨chosen.reverse, ?_, ?_⟩
  · rw [List.map_reverse, hnames, Path.names_reverse]
  · exact hconnects.reverse hg hequal (hnames ▸ hnodup)

/-! ## Asking from both sides -/

/-- Over a database, membership means that the statement of one of the paths that are found holds,
leaving aside a path that has nothing to join. -/
theorem result_belongsTo (h : db.Answers executor) {limit : Nat} {paths : List Path}
    (hfind : g.findPaths source target limit = .ok paths) (sourceKey targetKey : String) :
    (g.belongsTo executor source sourceKey target targetKey limit).result =
      .ok (paths.any fun p =>
        !p.isTrivial && db.holds (p.statement g.schema) [sourceKey, targetKey]) := by
  have hask : ∀ earlier, ∀ q ∈ (paths.filter fun p => !p.isTrivial).map
      (fun p => p.membershipQuery g.schema),
      executor.ask earlier (q.call sourceKey targetKey) =
        .ok (db.holds q.statement [sourceKey, targetKey]) := by
    intro earlier q hq
    obtain ⟨p, hp, rfl⟩ := List.mem_map.1 hq
    have hchain := (of_mem_findPaths hfind (List.mem_filter.1 hp).1).2
    exact ask_query h hchain.nodup g.schema earlier sourceKey targetKey
  rw [belongsTo_eq_tryAll hfind, Executor.result_tryAll [] hask, List.any_map, List.any_filter]
  rfl

theorem any_holds_reverse (hg : g.IsSymmetric) (hequal : ∀ v w, db.equal v w = db.equal w v)
    {there back : List Path}
    (hthere : ∀ p, p ∈ there ↔ g.Carries p ∧ g.IsSimpleChain source target p.names)
    (hback : ∀ p, p ∈ back ↔ g.Carries p ∧ g.IsSimpleChain target source p.names)
    (h : (there.any fun p =>
      !p.isTrivial && db.holds (p.statement g.schema) [sourceKey, targetKey]) = true) :
    (back.any fun p =>
      !p.isTrivial && db.holds (p.statement g.schema) [targetKey, sourceKey]) = true := by
  obtain ⟨p, hp, hholds⟩ := List.any_eq_true.1 h
  obtain ⟨hcarries, hchain⟩ := (hthere p).1 hp
  rw [Bool.and_eq_true] at hholds
  refine List.any_eq_true.2 ⟨p.reverse, (hback _).2 (hchain.reverse hg hcarries), ?_⟩
  rw [Bool.and_eq_true, Path.isTrivial_reverse]
  exact ⟨hholds.1, holds_reverse hg hequal hcarries hchain.nodup hholds.2⟩

/-- In an undirected graph, if all paths between two tables may be tried, membership over a database
is the same from both sides. -/
theorem belongsTo_comm {rows : List Row} {schema : String}
    (h : ofRows rows schema false = .ok g) (hdb : db.Answers executor)
    (hequal : ∀ v w, db.equal v w = db.equal w v) (hs : source ∈ g.tableNames)
    (ht : target ∈ g.tableNames) (sourceKey targetKey : String) {limit limit' : Nat}
    (hlimit : (g.simpleChains source target).length ≤ limit)
    (hlimit' : (g.simpleChains source target).length ≤ limit') :
    ∃ b, (g.belongsTo executor source sourceKey target targetKey limit).result = .ok b ∧
      (g.belongsTo executor target targetKey source sourceKey limit').result = .ok b := by
  have hg := isSymmetric_ofRows h
  rw [length_simpleChains_comm hg hs ht] at hlimit'
  obtain ⟨there, hfind, hthere⟩ := exists_findPaths_of_le hs ht hlimit
  obtain ⟨back, hfind', hback⟩ := exists_findPaths_of_le ht hs hlimit'
  refine ⟨_, result_belongsTo hdb hfind sourceKey targetKey, ?_⟩
  rw [result_belongsTo hdb hfind' targetKey sourceKey]
  refine congrArg Except.ok (Bool.eq_iff_iff.2 ⟨?_, ?_⟩)
  · exact any_holds_reverse hg hequal hback hthere
  · exact any_holds_reverse hg hequal hthere hback

/-- Of two records in tables that refer to each other, each belongs to the other one. -/
theorem belongsTo_comm_mutualRows :
    ∃ g, ofRows mutualRows "s" false = .ok g ∧
      (g.belongsTo mutualDatabase.executor "a" "1" "b" "2"
        (g.simpleChains "a" "b").length).result = .ok true ∧
      (g.belongsTo mutualDatabase.executor "b" "2" "a" "1"
        (g.simpleChains "a" "b").length).result = .ok true := by
  obtain ⟨g, hg, hschema, ha, hb, hkeyA, hkeyB, hlink⟩ := exists_ofRows_mutualRows
  have hdb := mutualDatabase.answers_executor
  have hchain := isSimpleChain_pair ha hb (by decide) (isLinked_iff.2 ⟨_, hlink⟩)
  have hcarries : g.Carries ⟨⟨"a", "id"⟩, [(⟨"id", "y"⟩, ⟨"b", "id"⟩)]⟩ :=
    carries_cons_iff.2 ⟨hkeyA, hlink, carries_nil_iff.2 hkeyB⟩
  have hholds : mutualDatabase.holds
      ((Path.mk ⟨"a", "id"⟩ [(⟨"id", "y"⟩, ⟨"b", "id"⟩)]).statement g.schema)
        ["1", "2"] = true := by
    rw [hschema]
    decide
  obtain ⟨there, hfind, hthere⟩ := exists_findPaths_of_le ha hb le_rfl
  have hresult := result_belongsTo hdb hfind "1" "2"
  rw [List.any_eq_true.2 ⟨_, (hthere _).2 ⟨hcarries, hchain⟩, hholds⟩] at hresult
  obtain ⟨b, htrue, hback⟩ :=
    belongsTo_comm hg hdb (fun v w => Bool.beq_comm) ha hb "1" "2" le_rfl le_rfl
  obtain rfl := Except.ok.inj (hresult.symm.trans htrue)
  exact ⟨g, hg, hresult, hback⟩

end JoinGraph

end JoinPaths
