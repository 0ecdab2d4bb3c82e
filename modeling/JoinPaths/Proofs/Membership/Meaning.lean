import JoinPaths.Proofs.JoinGraph.Paths
import JoinPaths.Proofs.Membership.Run
import JoinPaths.Proofs.Membership.Statement

/-!
# What membership means

Over a database, a row belongs to another one if records of the tables along some path connect the
two: neighbouring records are equal in the columns of their linkage, and the first and the last one
have the given keys. The argument goes from the records to the answer.

1. No table occurs twice on a path, so that every column of its statement is that of the record
   chosen for its table (`columnOf_inSchema`).
2. The statement holds exactly if there are records that connect the keys (`holds_statement_iff`).
3. An executor for the database reads the statement back and answers with its truth (`ask_query`),
   and the candidates are tried until one of them holds (`result_tryAll`).
-/

namespace JoinPaths

open Sql (Database Record TableRef columnOf)

variable {V : Type} {g : JoinGraph} {p : Path} {schema : String}

/-! ## Records along a path -/

/-- Records, each with the name of its table, that connect two keys. -/
structure JoinGraph.Connects (g : JoinGraph) (db : Database V) (sourceKey targetKey : String)
    (chosen : List (String × Record V)) : Prop where
  /-- Every record is one of its table. -/
  stored : ∀ c ∈ chosen, c.2 ∈ db.records ⟨g.schema, c.1⟩
  /-- Neighbours are equal in the columns of their linkage. -/
  linked : chosen.IsChain fun a b => ∃ l, g.linkage? a.1 b.1 = .ok (some l) ∧
    db.same (a.2 l.source) (b.2 l.target) = true
  /-- The first record has the first key. -/
  source : ∃ c ∈ chosen.head?, ∃ t, g.table? c.1 = some t ∧
    db.same (c.2 t.key) (some (db.value sourceKey)) = true
  /-- The last record has the last key. -/
  target : ∃ c ∈ chosen.getLast?, ∃ t, g.table? c.1 = some t ∧
    db.same (c.2 t.key) (some (db.value targetKey)) = true

/-- Records chosen in the tables of one schema. -/
def inSchema (schema : String) (chosen : List (String × Record V)) :
    List (TableRef × Record V) :=
  chosen.map fun c => (⟨schema, c.1⟩, c.2)

theorem columnOf_of_mem {chosen : List (TableRef × Record V)} {meant : TableRef → Bool}
    {c : TableRef × Record V} (hc : c ∈ chosen) (hmeant : meant c.1 = true)
    (honly : ∀ d ∈ chosen, meant d.1 = true → d = c) (column : String) :
    columnOf chosen meant column = c.2 column := by
  unfold columnOf
  cases hfind : chosen.find? fun d => meant d.1 with
  | none => exact absurd hmeant (List.find?_eq_none.1 hfind c hc)
  | some d =>
    have hd := List.find?_some hfind
    obtain rfl := honly d (List.mem_of_find?_eq_some hfind) hd
    rfl

theorem columnOf_inSchema (schema : String) {chosen : List (String × Record V)}
    (hnodup : (chosen.map Prod.fst).Nodup) {c : String × Record V} (hc : c ∈ chosen)
    (column : String) :
    columnOf (inSchema schema chosen) (· == ⟨schema, c.1⟩) column = c.2 column ∧
      columnOf (inSchema schema chosen) (·.table == c.1) column = c.2 column := by
  have hmem : ((⟨schema, c.1⟩, c.2) : TableRef × Record V) ∈ inSchema schema chosen :=
    List.mem_map.2 ⟨c, hc, rfl⟩
  have honly : ∀ d ∈ inSchema schema chosen, d.1.table = c.1 → d = (⟨schema, c.1⟩, c.2) := by
    intro d hd hname
    obtain ⟨e, he, rfl⟩ := List.mem_map.1 hd
    rw [List.inj_on_of_nodup_map hnodup he hc hname]
  constructor
  · apply columnOf_of_mem hmem
    · exact beq_self_eq_true _
    · intro d hd h
      exact honly d hd (congrArg TableRef.table (beq_iff_eq.1 h))
  · apply columnOf_of_mem hmem
    · exact beq_self_eq_true _
    · intro d hd h
      exact honly d hd (beq_iff_eq.1 h)

/-- To choose in tables of one schema is to choose by their names. -/
theorem exists_inSchema {names : List String} {P : List (TableRef × Record V) → Prop} :
    (∃ chosen, chosen.map Prod.fst = (names.map fun name => ⟨schema, name⟩) ∧ P chosen) ↔
      ∃ chosen : List (String × Record V), chosen.map Prod.fst = names ∧
        P (inSchema schema chosen) := by
  constructor
  · rintro ⟨chosen, htables, h⟩
    have hschema : ∀ c ∈ chosen, (⟨schema, c.1.table⟩ : TableRef) = c.1 := by
      intro c hc
      have hmem : c.1 ∈ chosen.map Prod.fst := List.mem_map.2 ⟨c, hc, rfl⟩
      rw [htables] at hmem
      obtain ⟨name, -, hname⟩ := List.mem_map.1 hmem
      rw [← hname]
    have hback : inSchema schema (chosen.map fun c => (c.1.table, c.2)) = chosen := by
      unfold inSchema
      rw [List.map_map]
      refine Eq.trans (List.map_congr_left ?_) (List.map_id chosen)
      intro c hc
      exact Prod.ext (hschema c hc) rfl
    refine ⟨chosen.map fun c => (c.1.table, c.2), ?_, hback.symm ▸ h⟩
    have hnames := congrArg (List.map TableRef.table) htables
    rw [List.map_map, List.map_map] at hnames
    rw [List.map_map]
    exact hnames.trans (List.map_id names)
  · rintro ⟨chosen, rfl, h⟩
    refine ⟨inSchema schema chosen, ?_, h⟩
    unfold inSchema
    rw [List.map_map, List.map_map]
    rfl

/-! ## The truth of a statement -/

section Holds

variable {db : Database V} {sourceKey targetKey : String} {chosen : List (String × Record V)}

/-- The joins of a path hold exactly if neighbouring records are equal in their linkages. -/
theorem joins_iff_isChain (db : Database V) (hp : g.Carries p) {all : List (TableRef × Record V)}
    (hnames : chosen.map Prod.fst = p.names)
    (hall : ∀ c ∈ chosen, ∀ column, columnOf all (· == ⟨schema, c.1⟩) column = c.2 column) :
    (∀ j ∈ p.segments.map (Path.joinOf schema), db.joins all j = true) ↔
      chosen.IsChain fun a b => ∃ l, g.linkage? a.1 b.1 = .ok (some l) ∧
        db.same (a.2 l.source) (b.2 l.target) = true := by
  obtain ⟨t, hops⟩ := p
  induction hops generalizing t chosen with
  | nil =>
    obtain ⟨c, rfl, -⟩ := List.map_eq_singleton_iff.1 hnames
    exact ⟨fun _ => .singleton c, fun _ j hj => absurd hj List.not_mem_nil⟩
  | cons hop hops ih =>
    obtain ⟨l, u⟩ := hop
    obtain ⟨-, hl, hrest⟩ := JoinGraph.carries_cons_iff.1 hp
    cases chosen with
    | nil => exact absurd hnames (by simp [Path.names_eq_cons])
    | cons c chosen =>
      obtain ⟨hc, hnames⟩ := List.cons.inj hnames
      cases chosen with
      | nil => exact absurd hnames (by simp)
      | cons d chosen =>
        obtain ⟨hallc, hall⟩ := List.forall_mem_cons.1 hall
        have hd : d.1 = u.name := (List.cons.inj hnames).1
        have hjoin : db.joins all (Path.joinOf schema (t, l, u)) =
            db.same (c.2 l.source) (d.2 l.target) := by
          rw [← hallc, ← hall d List.mem_cons_self, hc, hd]
          rfl
        have hlink : (∃ m, g.linkage? c.1 d.1 = .ok (some m) ∧
            db.same (c.2 m.source) (d.2 m.target) = true) ↔
              db.same (c.2 l.source) (d.2 l.target) = true := by
          rw [hc, hd, hl]
          constructor
          · rintro ⟨m, hm, h⟩
            obtain rfl := Option.some.inj (Except.ok.inj hm)
            exact h
          · exact fun h => ⟨l, rfl, h⟩
        rw [List.isChain_cons_cons, hlink, ← hjoin, ← ih hall u hrest hnames]
        exact List.forall_mem_cons

theorem admits_iff {t : Table} {c : String × Record V} {parameters : List String}
    {number : Nat} {key : String} (hnodup : (chosen.map Prod.fst).Nodup) (hc : c ∈ chosen)
    (hname : c.1 = t.name) (ht : g.table? t.name = some t)
    (hkey : Sql.bound? parameters number = some key) :
    db.admits parameters (inSchema schema chosen) ⟨t.name, t.key, number⟩ = true ↔
      ∃ u, g.table? c.1 = some u ∧ db.same (c.2 u.key) (some (db.value key)) = true := by
  have hcolumn := (columnOf_inSchema schema hnodup hc t.key).2
  unfold Database.admits
  rw [hkey, ← hname, hcolumn, hname, ht]
  constructor
  · intro h
    exact ⟨t, rfl, h⟩
  · rintro ⟨u, hu, h⟩
    obtain rfl := Option.some.inj hu
    exact h

theorem filters_iff (hp : g.Carries p) (hnodup : p.names.Nodup)
    (hnames : chosen.map Prod.fst = p.names) :
    (∀ f ∈ (p.statement schema).filters,
        db.admits [sourceKey, targetKey] (inSchema schema chosen) f = true) ↔
      (∃ c ∈ chosen.head?, ∃ t, g.table? c.1 = some t ∧
        db.same (c.2 t.key) (some (db.value sourceKey)) = true) ∧
      ∃ c ∈ chosen.getLast?, ∃ t, g.table? c.1 = some t ∧
        db.same (c.2 t.key) (some (db.value targetKey)) = true := by
  have hdistinct : (chosen.map Prod.fst).Nodup := hnames ▸ hnodup
  have hhead := congrArg List.head? hnames
  rw [List.head?_map, Path.head?_names] at hhead
  obtain ⟨c, hc, hcname⟩ := Option.map_eq_some_iff.1 hhead
  have hlast := congrArg List.getLast? hnames
  rw [List.getLast?_map, Path.getLast?_names] at hlast
  obtain ⟨d, hd, hdname⟩ := Option.map_eq_some_iff.1 hlast
  have hsource : db.admits [sourceKey, targetKey] (inSchema schema chosen)
      ⟨p.start.name, p.start.key, 1⟩ = true ↔ _ :=
    admits_iff hdistinct (List.mem_of_head? hc) hcname (hp.tables _ p.start_mem_tables) rfl
  have htarget : db.admits [sourceKey, targetKey] (inSchema schema chosen)
      ⟨p.finish.name, p.finish.key, 2⟩ = true ↔ _ :=
    admits_iff hdistinct (List.mem_of_getLast? hd) hdname (hp.tables _ p.finish_mem_tables) rfl
  have honly : ∀ {e : String × Record V} {P : String × Record V → Prop},
      (∃ e' ∈ some e, P e') ↔ P e :=
    ⟨fun ⟨_, he, h⟩ => Option.mem_some_iff.1 he ▸ h, fun h => ⟨_, rfl, h⟩⟩
  rw [hc, hd, honly, honly, ← hsource, ← htarget]
  exact List.forall_mem_cons.trans (and_congr_right' List.forall_mem_singleton)

/-- The statement of a path holds exactly if records along the path connect the keys. -/
theorem holds_statement_iff (hp : g.Carries p) (hnodup : p.names.Nodup) :
    db.holds (p.statement g.schema) [sourceKey, targetKey] = true ↔
      ∃ chosen : List (String × Record V), chosen.map Prod.fst = p.names ∧
        g.Connects db sourceKey targetKey chosen := by
  rw [Database.holds_iff, Path.tables_statement, exists_inSchema]
  apply exists_congr
  intro chosen
  apply and_congr_right
  intro hnames
  have hdistinct : (chosen.map Prod.fst).Nodup := hnames ▸ hnodup
  have hstored : (∀ c ∈ inSchema g.schema chosen, c.2 ∈ db.records c.1) ↔
      ∀ c ∈ chosen, c.2 ∈ db.records ⟨g.schema, c.1⟩ := List.forall_mem_map
  have hjoins : (∀ j ∈ (p.statement g.schema).joins,
      db.joins (inSchema g.schema chosen) j = true) ↔ _ :=
    joins_iff_isChain db hp hnames
      fun c hc column => (columnOf_inSchema g.schema hdistinct hc column).1
  rw [hstored, hjoins, filters_iff hp hnodup hnames]
  constructor
  · rintro ⟨hstored, hlinked, hsource, htarget⟩
    exact ⟨hstored, hlinked, hsource, htarget⟩
  · intro h
    exact ⟨h.stored, h.linked, h.source, h.target⟩

end Holds

/-! ## Answers -/

section Answers

variable {db : Database V} {executor : Executor} {source target : String}

/-- An executor for a database answers the query of a path with the truth of its statement. -/
theorem ask_query (h : db.Answers executor) (hnodup : p.names.Nodup) (schema : String)
    (earlier : List Call) (sourceKey targetKey : String) :
    executor.ask earlier ((p.membershipQuery schema).call sourceKey targetKey) =
      .ok (db.holds (p.statement schema) [sourceKey, targetKey]) := by
  have hanswer := h earlier ((p.membershipQuery schema).call sourceKey targetKey)
    (p.statement schema) (p.read?_text_statement schema) (Path.isScoped_statement schema hnodup)
  unfold Executor.ask
  rw [hanswer]
  rfl

/-- Over a database, membership means that records along one of the candidates connect the keys. -/
theorem belongsTo_iff_connects (h : db.Answers executor) (hs : source ∈ g.tableNames)
    (ht : target ∈ g.tableNames) (hne : source ≠ target) (sourceKey targetKey : String)
    (limit : Nat) :
    ∃ b, (g.belongsTo executor source sourceKey target targetKey limit).result = .ok b ∧
      (b = true ↔ ∃ names ∈ (g.simpleChains source target).take limit,
        ∃ chosen : List (String × Record V), chosen.map Prod.fst = names ∧
          g.Connects db sourceKey targetKey chosen) := by
  obtain ⟨all, hall, -, htake⟩ := JoinGraph.exists_findPaths hs ht
  have hpaths : ∀ p ∈ all.take limit, g.Carries p ∧ g.IsSimpleChain source target p.names :=
    fun p hp => JoinGraph.of_mem_findPaths (htake limit) hp
  have hfilter : ((all.take limit).filter fun p => !p.isTrivial) = all.take limit := by
    apply List.filter_eq_self.2
    intro p hp
    rw [(hpaths p hp).2.isTrivial_eq_false hne]
    rfl
  have hask : ∀ earlier, ∀ q ∈ (all.take limit).map (fun p => p.membershipQuery g.schema),
      executor.ask earlier (q.call sourceKey targetKey) =
        .ok (db.holds q.statement [sourceKey, targetKey]) := by
    intro earlier q hq
    obtain ⟨p, hp, rfl⟩ := List.mem_map.1 hq
    exact ask_query h (hpaths p hp).2.nodup g.schema earlier sourceKey targetKey
  have hresult := Executor.result_tryAll [] hask
  rw [List.any_map] at hresult
  refine ⟨(all.take limit).any fun p => db.holds (p.statement g.schema) [sourceKey, targetKey],
    ?_, ?_⟩
  · rw [JoinGraph.belongsTo_eq_tryAll (htake limit), hfilter, hresult]
    rfl
  · rw [List.any_eq_true, ← hall, ← List.map_take]
    constructor
    · rintro ⟨p, hp, hholds⟩
      obtain ⟨hcarries, hchain⟩ := hpaths p hp
      exact ⟨p.names, List.mem_map.2 ⟨p, hp, rfl⟩,
        (holds_statement_iff hcarries hchain.nodup).1 hholds⟩
    · rintro ⟨names, hnames, hconnects⟩
      obtain ⟨p, hp, rfl⟩ := List.mem_map.1 hnames
      obtain ⟨hcarries, hchain⟩ := hpaths p hp
      exact ⟨p, hp, (holds_statement_iff hcarries hchain.nodup).2 hconnects⟩

/-- A record of each of two tables, the second of which refers to the first. -/
def mutualDatabase : Database String where
  records t :=
    if t = ⟨"s", "a"⟩ then [fun column => if column = "id" then some "1" else none]
    else if t = ⟨"s", "b"⟩ then
      [fun column => if column = "id" then some "2" else if column = "y" then some "1" else none]
    else []
  value := id
  equal := (· == ·)

/-- The records are connected in their graph, unless no candidate may be tried. -/
theorem belongsTo_of_mutualRows :
    ∃ g, JoinGraph.ofRows JoinGraph.mutualRows "s" false = .ok g ∧
      (g.belongsTo mutualDatabase.executor "a" "1" "b" "2"
        (g.simpleChains "a" "b").length).result = .ok true ∧
      (g.belongsTo mutualDatabase.executor "a" "1" "b" "2" 0).result = .ok false := by
  obtain ⟨g, hg, hschema, ha, hb, hta, htb, hlink⟩ := JoinGraph.exists_ofRows_mutualRows
  have hconnects : g.Connects mutualDatabase "1" "2"
      [("a", fun column => if column = "id" then some "1" else none),
        ("b", fun column => if column = "id" then some "2" else
          if column = "y" then some "1" else none)] := by
    refine ⟨fun c hc => ?_, .cons_cons ⟨_, hlink, by decide⟩ (.singleton _),
      ⟨_, rfl, _, hta, by decide⟩, ⟨_, rfl, _, htb, by decide⟩⟩
    rw [hschema]
    rcases List.mem_pair.1 hc with rfl | rfl
    · exact List.mem_singleton.2 rfl
    · exact List.mem_singleton.2 rfl
  have hmeaning := belongsTo_iff_connects (Sql.Database.answers_executor mutualDatabase) ha hb
    (by decide) "1" "2"
  refine ⟨g, hg, ?_, ?_⟩
  · obtain ⟨b, hb', hiff⟩ := hmeaning (g.simpleChains "a" "b").length
    rw [hb', hiff.2]
    refine ⟨["a", "b"], ?_, _, rfl, hconnects⟩
    rw [List.take_length]
    exact JoinGraph.mem_simpleChains.2
      (JoinGraph.isSimpleChain_pair ha hb (by decide) (JoinGraph.isLinked_iff.2 ⟨_, hlink⟩))
  · obtain ⟨b, hb', hiff⟩ := hmeaning 0
    cases b with
    | false => exact hb'
    | true =>
      obtain ⟨names, hnames, -⟩ := hiff.1 rfl
      exact absurd hnames List.not_mem_nil

end Answers

end JoinPaths
