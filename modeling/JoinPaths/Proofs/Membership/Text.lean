import JoinPaths.Proofs.JoinGraph.Paths
import JoinPaths.Proofs.Membership.Run
import JoinPaths.Proofs.Membership.Statement

/-!
# What the text of a query says

The names of a path may hold anything, quotes and line breaks and pieces of statements included.
Read from left to right, the text of its query still says what the path says, hop by hop, and every
name comes back unchanged (`tokens?_text_statement`). So the text tells the path, as far as it is
joined by name (`statement_inj`), and no candidate is listed twice (`text_reads_back`).
-/

namespace JoinPaths

open Sql (Token tokens?)

/-- Whether a token that is no quoted name holds a dollar sign. -/
def Sql.Token.hasDollar : Token → Bool
  | .word text => text.toList.contains '$'
  | .symbol c => c == '$'
  | .name _ => false

namespace Path

variable {p p' : Path} {schema schema' : String}

/-! ## Tokens of a path -/

/-- What the join of a hop says: the table that is entered, on a column of the table that is left
being equal to one of its own. -/
def hopTokens (schema : String) : Table × Linkage × Table → List Token
  | (source, l, target) =>
    [.word "JOIN", .name schema, .symbol '.', .name target.name, .word "ON",
      .name schema, .symbol '.', .name source.name, .symbol '.', .name l.source, .symbol '=',
      .name schema, .symbol '.', .name target.name, .symbol '.', .name l.target]

/-- What the query of a path says: its first table, a join for every linkage in order, and the keys
of its two ends. -/
def tokens (p : Path) (schema : String) : List Token :=
  [.word "SELECT", .word "COUNT", .symbol '(', .word "1", .symbol ')', .symbol '>', .word "0",
    .word "as", .word "belongs", .word "FROM", .name schema, .symbol '.', .name p.start.name] ++
  (p.tables.zip (p.linkages.zip p.tables.tail)).flatMap (hopTokens schema) ++
  [.word "WHERE", .name p.start.name, .symbol '.', .name p.start.key, .symbol '=', .word "$1",
    .word "AND", .name p.finish.name, .symbol '.', .name p.finish.key, .symbol '=', .word "$2"]

theorem tokens_statement (p : Path) (schema : String) :
    (p.statement schema).tokens = p.tokens schema := by
  have hjoins : (p.segments.map (joinOf schema)).flatMap Sql.Join.tokens =
      p.segments.flatMap (hopTokens schema) := by
    rw [List.flatMap_map]
    rfl
  have hfirst : Sql.parameterWord 1 = "$1" := by decide
  have hsecond : Sql.parameterWord 2 = "$2" := by decide
  unfold Sql.Statement.tokens tokens
  rw [← segments_eq_zip, ← hjoins, ← hfirst, ← hsecond]
  rfl

theorem tokens?_text_statement (p : Path) (schema : String) :
    tokens? (p.statement schema).text = some (p.tokens schema) := by
  rw [← tokens_statement]
  exact (Sql.Statement.spells_text _ flagColumn_ne_empty isWordChar_flagColumn).tokens?_eq

/-- The two parameters are the only words of a query with a dollar sign. -/
theorem filter_hasDollar_tokens (p : Path) (schema : String) :
    (p.tokens schema).filter Token.hasDollar = [.word "$1", .word "$2"] := by
  have hhops : ∀ hops : List (Table × Linkage × Table),
      (hops.flatMap (hopTokens schema)).filter Token.hasDollar = [] := by
    intro hops
    rw [List.filter_flatMap, List.flatMap_eq_nil_iff]
    intro hop _
    rfl
  unfold tokens
  rw [List.filter_append, List.filter_append, hhops]
  rfl

/-! ## Paths with one text -/

/-- A statement tells the schema, the tables, the linkages and the keys at both ends. -/
theorem statement_inj (h : p.statement schema = p'.statement schema') :
    schema = schema' ∧ p.names = p'.names ∧ p.linkages = p'.linkages ∧
      p.start.key = p'.start.key ∧ p.finish.key = p'.finish.key := by
  have hnames : ∀ (p : Path) schema,
      (p.statement schema).tables.map Sql.TableRef.table = p.names := by
    intro p schema
    rw [tables_statement, List.map_map]
    exact List.map_id _
  have hlinkages : ∀ (p : Path) schema, (p.statement schema).joins.map
      (fun j => (⟨j.left.column, j.right.column⟩ : Linkage)) = p.linkages := by
    intro p schema
    rw [← map_linkage_segments]
    unfold statement
    rw [List.map_map]
    rfl
  have hkeys : (p.statement schema).filters.map Sql.KeyFilter.column =
      (p'.statement schema').filters.map Sql.KeyFilter.column := by rw [h]
  obtain ⟨hstart, hfinish⟩ := List.cons.inj hkeys
  refine ⟨congrArg (fun s => s.source.schema) h, ?_, ?_, hstart, (List.cons.inj hfinish).1⟩
  · rw [← hnames p schema, h, hnames]
  · rw [← hlinkages p schema, h, hlinkages]

theorem statement_eq_of_text_eq (h : (p.statement schema).text = (p'.statement schema').text) :
    p.statement schema = p'.statement schema' := by
  have hread := p.read?_text_statement schema
  rw [h, read?_text_statement] at hread
  exact (Option.some.inj hread).symm

theorem query_eq_ok_iff {q : Query} :
    p.query schema = .ok q ↔ p.isTrivial = false ∧ q = p.membershipQuery schema := by
  cases htrivial : p.isTrivial with
  | true => simp [query, htrivial]
  | false =>
    rw [query_eq_ok schema htrivial, Except.ok.injEq, eq_comm]
    exact (and_iff_right rfl).symm

end Path

namespace JoinGraph

variable {g : JoinGraph} {source target : String} {limit : Nat} {queries : List Query}

theorem exists_findPaths_of_candidates (h : g.candidates source target limit = .ok queries) :
    ∃ paths, g.findPaths source target limit = .ok paths ∧
      queries = (paths.filter fun p => !p.isTrivial).map fun p => p.membershipQuery g.schema := by
  cases hpaths : g.findPaths source target limit with
  | error e =>
    rw [candidates_eq_error hpaths] at h
    cases h
  | ok paths => exact ⟨paths, rfl, Except.ok.inj (h.symm.trans (candidates_eq_ok hpaths))⟩

theorem nodup_texts_candidates (h : g.candidates source target limit = .ok queries) :
    (queries.map fun q => q.statement.text).Nodup := by
  obtain ⟨paths, hpaths, rfl⟩ := exists_findPaths_of_candidates h
  have hnames : ((paths.filter fun p => !p.isTrivial).map Path.names).Nodup :=
    (nodup_names_findPaths hpaths).sublist (List.filter_sublist.map Path.names)
  rw [List.map_map]
  refine List.pairwise_map.2 ((List.pairwise_map.1 hnames).imp fun {p p'} hne htext => hne ?_)
  exact (Path.statement_inj (Path.statement_eq_of_text_eq htext)).2.1

/-- Whatever the names hold, the text of a query is read as what its path says, tells the path, and
occurs once among the candidates. -/
theorem text_reads_back :
    (∀ (p : Path) (schema : String), p.isTrivial = false →
      ∃ q, p.query schema = .ok q ∧ tokens? q.statement.text = some (p.tokens schema) ∧
        (p.tokens schema).filter Token.hasDollar = [.word "$1", .word "$2"]) ∧
    (∀ (p p' : Path) (schema schema' : String) (q q' : Query),
      p.query schema = .ok q → p'.query schema' = .ok q' → q.statement.text = q'.statement.text →
        schema = schema' ∧ p.names = p'.names ∧ p.linkages = p'.linkages ∧
          p.start.key = p'.start.key ∧ p.finish.key = p'.finish.key) ∧
    (∀ (g : JoinGraph) (source target : String) (limit : Nat) (queries : List Query),
      g.candidates source target limit = .ok queries →
        (queries.map fun q => q.statement.text).Nodup) := by
  refine ⟨fun p schema hp => ?_, fun p p' schema schema' q q' hq hq' htext => ?_,
    fun g source target limit queries => nodup_texts_candidates⟩
  · exact ⟨_, Path.query_eq_ok schema hp, p.tokens?_text_statement schema,
      p.filter_hasDollar_tokens schema⟩
  · obtain ⟨-, rfl⟩ := Path.query_eq_ok_iff.1 hq
    obtain ⟨-, rfl⟩ := Path.query_eq_ok_iff.1 hq'
    exact Path.statement_inj (Path.statement_eq_of_text_eq htext)

/-- A path whose names look like pieces of a statement. -/
def forgedPath (key : String) : Path :=
  ⟨⟨"a\" JOIN \"b", "$3"⟩, [(⟨"x\ny", "."⟩, ⟨"", key⟩), (⟨"", "$2"⟩, ⟨"\" = $1", "id"⟩)]⟩

/-- Names that look like pieces of a statement come back unchanged. The key column of a table in the
middle is not joined, so that paths which differ there alone have the same text. -/
theorem text_of_forgedPath :
    (∃ q q', (forgedPath "k").query "s.\"" = .ok q ∧ (forgedPath "m").query "s.\"" = .ok q' ∧
      tokens? q.statement.text = some
        [.word "SELECT", .word "COUNT", .symbol '(', .word "1", .symbol ')', .symbol '>',
          .word "0", .word "as", .word "belongs", .word "FROM", .name "s.\"", .symbol '.',
          .name "a\" JOIN \"b", .word "JOIN", .name "s.\"", .symbol '.', .name "", .word "ON",
          .name "s.\"", .symbol '.', .name "a\" JOIN \"b", .symbol '.', .name "x\ny", .symbol '=',
          .name "s.\"", .symbol '.', .name "", .symbol '.', .name ".",
          .word "JOIN", .name "s.\"", .symbol '.', .name "\" = $1", .word "ON",
          .name "s.\"", .symbol '.', .name "", .symbol '.', .name "", .symbol '=',
          .name "s.\"", .symbol '.', .name "\" = $1", .symbol '.', .name "$2",
          .word "WHERE", .name "a\" JOIN \"b", .symbol '.', .name "$3", .symbol '=', .word "$1",
          .word "AND", .name "\" = $1", .symbol '.', .name "id", .symbol '=', .word "$2"] ∧
      q.statement.text = q'.statement.text ∧
        (forgedPath "k").linkages = (forgedPath "m").linkages) ∧
    ∃ g queries, ofRows mutualRows "s" false = .ok g ∧ g.candidates "a" "b" 3 = .ok queries ∧
      (queries.map fun q => q.statement.text).Nodup := by
  obtain ⟨hreads, htells, honce⟩ := text_reads_back
  obtain ⟨q, hq, htokens, -⟩ := hreads (forgedPath "k") "s.\"" rfl
  obtain ⟨q', hq', -, -⟩ := hreads (forgedPath "m") "s.\"" rfl
  have htext : q.statement.text = q'.statement.text := by
    obtain ⟨-, rfl⟩ := Path.query_eq_ok_iff.1 hq
    obtain ⟨-, rfl⟩ := Path.query_eq_ok_iff.1 hq'
    rfl
  refine ⟨⟨q, q', hq, hq', htokens, htext, (htells _ _ _ _ q q' hq hq' htext).2.2.1⟩, ?_⟩
  obtain ⟨g, hg, -, ha, hb, -, -, -⟩ := exists_ofRows_mutualRows
  obtain ⟨all, -, -, htake⟩ := exists_findPaths ha hb
  have hqueries := candidates_eq_ok (htake 3)
  exact ⟨g, _, hg, hqueries, honce g "a" "b" 3 _ hqueries⟩

end JoinGraph

end JoinPaths
