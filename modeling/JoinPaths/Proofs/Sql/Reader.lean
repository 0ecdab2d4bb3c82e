import JoinPaths.Sql.Statement
import JoinPaths.Proofs.Sql.Token
import Mathlib.Data.List.Forall2

/-!
# Reading statements back

A membership statement is read back from its text, and it is the same statement, whatever the names
in it are (`Statement.read?_text`).

1. The text of every part stands for the tokens of that part (`Statement.spells_text`).
2. The parts are recognised by their tokens (`Statement.ofTokens?_tokens`).
-/

namespace JoinPaths.Sql

/-! ## Tokens of a statement -/

/-- The tokens of a table. -/
def TableRef.tokens (t : TableRef) : List Token :=
  [.name t.schema, .symbol '.', .name t.table]

/-- The tokens of a column. -/
def ColumnRef.tokens (c : ColumnRef) : List Token :=
  c.owner.tokens ++ [.symbol '.', .name c.column]

/-- The tokens of a join. -/
def Join.tokens (j : Join) : List Token :=
  [.word "JOIN"] ++ j.table.tokens ++ [.word "ON"] ++ j.left.tokens ++ [.symbol '='] ++
    j.right.tokens

/-- The word of a parameter. -/
def parameterWord (n : Nat) : String :=
  "$" ++ Nat.repr n

/-- The tokens of a filter. -/
def KeyFilter.tokens (f : KeyFilter) : List Token :=
  [.name f.table, .symbol '.', .name f.column, .symbol '=', .word (parameterWord f.parameter)]

/-- The tokens of what is asked for, up to the column of the answer. -/
def selectTokens : List Token :=
  [.word "SELECT", .word "COUNT", .symbol '(', .word "1", .symbol ')', .symbol '>', .word "0",
    .word "as"]

/-- The tokens of a statement. -/
def Statement.tokens (s : Statement) : List Token :=
  selectTokens ++ [.word s.answer] ++ ([.word "FROM"] ++ s.source.tokens) ++
    s.joins.flatMap Join.tokens ++
      ([.word "WHERE"] ++ [Token.word "AND"].intercalate (s.filters.map KeyFilter.tokens))

/-! ## The text of each part -/

theorem toList_parameterWord (n : Nat) :
    (parameterWord n).toList = '$' :: Nat.toDigits 10 n := by
  unfold parameterWord
  rw [String.toList_append, Nat.toList_repr]
  rfl

theorem spells_parameter (n : Nat) : Spells (parameterWord n) [.word (parameterWord n)] := by
  apply spells_word
  · intro hempty
    have htext := toList_parameterWord n
    rw [hempty] at htext
    exact absurd htext (by simp)
  · intro c hc
    rw [toList_parameterWord] at hc
    rcases List.mem_cons.1 hc with rfl | hc
    · rfl
    · have hdigit := Nat.isDigit_of_mem_toDigits (by decide) (by decide) hc
      simp [isWordChar, Char.isAlphanum, hdigit]

theorem closed_dot : Closed "." [.symbol '.'] := rfl

theorem TableRef.spells_text (t : TableRef) : Spells t.text t.tokens :=
  ((spells_identifier t.schema).append_closed closed_dot rfl (by decide)).append
    (spells_identifier t.table)

theorem ColumnRef.spells_text (c : ColumnRef) : Spells c.text c.tokens :=
  (c.owner.spells_text.append_closed closed_dot rfl (by decide)).append
    (spells_identifier c.column)

theorem Join.spells_text (j : Join) : Spells j.text j.tokens := by
  have hjoin : Closed "JOIN " [.word "JOIN"] := rfl
  have hon : Closed " ON " [.word "ON"] := rfl
  have heq : Closed " = " [.symbol '='] := rfl
  have htable := hjoin.append j.table.spells_text
  have hleft := (htable.append_closed hon rfl (by decide)).append j.left.spells_text
  exact (hleft.append_closed heq rfl (by decide)).append j.right.spells_text

theorem KeyFilter.spells_text (f : KeyFilter) : Spells f.text f.tokens := by
  have heq : Closed " = " [.symbol '='] := rfl
  have hcolumn := ((spells_identifier f.table).append_closed closed_dot rfl (by decide)).append
    (spells_identifier f.column)
  have hparameter := (hcolumn.append_closed heq rfl (by decide)).append
    (spells_parameter f.parameter)
  have htext : f.text = tableColumn f.table f.column ++ " = " ++ parameterWord f.parameter := by
    have hsplit : " = $" = " = " ++ "$" := rfl
    unfold KeyFilter.text parameterWord
    rw [hsplit, ← String.append_assoc, ← String.append_assoc]
  rw [htext]
  exact hparameter

theorem intercalate_nil_eq_flatten (tss : List (List Token)) :
    ([] : List Token).intercalate tss = tss.flatten := by
  induction tss with
  | nil => rfl
  | cons ts tss ih =>
    cases tss with
    | nil => rw [List.intercalate_singleton, List.flatten_singleton]
    | cons us tss =>
      rw [List.intercalate_cons_cons, ih, List.append_nil]
      rfl

theorem forall₂_spells {α : Type} {text : α → String} {tokens : α → List Token}
    (h : ∀ a, Spells (text a) (tokens a)) (items : List α) :
    List.Forall₂ Spells (items.map text) (items.map tokens) := by
  induction items with
  | nil => exact .nil
  | cons a items ih => exact .cons (h a) ih

theorem Statement.spells_text (s : Statement) (hne : s.answer ≠ "")
    (hanswer : ∀ c ∈ s.answer.toList, isWordChar c = true) : Spells s.text s.tokens := by
  have hselect : Closed "SELECT COUNT(1) > 0 as " selectTokens := rfl
  have hfrom : Closed "FROM " [.word "FROM"] := rfl
  have hwhere : Closed "WHERE " [.word "WHERE"] := rfl
  have hand : Closed " AND " [.word "AND"] := rfl
  have hbreak : Closed "\n" [] := rfl
  have hfilters := spells_intercalate (forall₂_spells KeyFilter.spells_text s.filters) hand rfl
    (by decide)
  have hlines : List.Forall₂ Spells s.lines
      ((selectTokens ++ [.word s.answer]) :: ([.word "FROM"] ++ s.source.tokens) ::
        (s.joins.map Join.tokens ++
          [[.word "WHERE"] ++ [Token.word "AND"].intercalate (s.filters.map KeyFilter.tokens)])) :=
    .cons (hselect.append (spells_word hne hanswer)) (.cons (hfrom.append s.source.spells_text)
      (List.rel_append (forall₂_spells Join.spells_text s.joins)
        (.cons (hwhere.append hfilters) .nil)))
  have htext := spells_intercalate hlines hbreak rfl (by decide)
  rw [intercalate_nil_eq_flatten] at htext
  simpa [Statement.text, Statement.tokens, List.flatMap_def] using htext

/-! ## Statements from tokens -/

/-- The number that a word stands for as a parameter. -/
def parameter? (word : String) : Option Nat :=
  match word.toList with
  | '$' :: digits =>
    if digits ≠ [] ∧ digits.all Char.isDigit then some (Nat.ofDigitChars 10 digits 0) else none
  | _ => none

/-- The joins at the front of some tokens, and what is behind them. -/
def readJoins : List Token → List Join × List Token
  | .word "JOIN" :: .name schema :: .symbol '.' :: .name table :: .word "ON" ::
      .name schema₁ :: .symbol '.' :: .name table₁ :: .symbol '.' :: .name column₁ ::
      .symbol '=' ::
      .name schema₂ :: .symbol '.' :: .name table₂ :: .symbol '.' :: .name column₂ :: rest =>
    (⟨⟨schema, table⟩, ⟨⟨schema₁, table₁⟩, column₁⟩, ⟨⟨schema₂, table₂⟩, column₂⟩⟩ ::
      (readJoins rest).1, (readJoins rest).2)
  | rest => ([], rest)

/-- The filters that some tokens stand for. -/
def readFilters? : List Token → Option (List KeyFilter)
  | [.name table, .symbol '.', .name column, .symbol '=', .word p] =>
    (parameter? p).map fun n => [⟨table, column, n⟩]
  | .name table :: .symbol '.' :: .name column :: .symbol '=' :: .word p :: .word "AND" :: rest =>
    (parameter? p).bind fun n => (readFilters? rest).map (⟨table, column, n⟩ :: ·)
  | _ => none

/-- The statement with an answer, a first table and some joins, whose filters are still to be read. -/
def Statement.close? (answer : String) (source : TableRef) :
    List Join × List Token → Option Statement
  | (joins, .word "WHERE" :: rest) =>
    (readFilters? rest).map fun filters => ⟨answer, source, joins, filters⟩
  | _ => none

/-- The statement that some tokens stand for. -/
def Statement.ofTokens? : List Token → Option Statement
  | .word "SELECT" :: .word "COUNT" :: .symbol '(' :: .word "1" :: .symbol ')' :: .symbol '>' ::
      .word "0" :: .word "as" :: .word answer :: .word "FROM" ::
      .name schema :: .symbol '.' :: .name table :: rest =>
    close? answer ⟨schema, table⟩ (readJoins rest)
  | _ => none

/-- The statement that a text stands for. -/
def Statement.read? (text : String) : Option Statement :=
  (tokens? text).bind ofTokens?

theorem parameter?_parameterWord (n : Nat) : parameter? (parameterWord n) = some n := by
  have hdigits : (Nat.toDigits 10 n).all Char.isDigit = true :=
    List.all_eq_true.2 fun c hc => Nat.isDigit_of_mem_toDigits (by decide) (by decide) hc
  unfold parameter?
  rw [toList_parameterWord]
  show (if _ then _ else _) = _
  rw [if_pos ⟨Nat.toDigits_ne_nil, hdigits⟩, Nat.ofDigitChars_ten_toDigits]

theorem readJoins_append (joins : List Join) (rest : List Token) :
    readJoins (joins.flatMap Join.tokens ++ rest) =
      (joins ++ (readJoins rest).1, (readJoins rest).2) := by
  induction joins with
  | nil => rfl
  | cons j joins ih =>
    rw [List.flatMap_cons, List.append_assoc]
    show (j :: (readJoins (joins.flatMap Join.tokens ++ rest)).1,
      (readJoins (joins.flatMap Join.tokens ++ rest)).2) = _
    rw [ih]
    rfl

theorem readFilters?_tokens {filters : List KeyFilter} (hne : filters ≠ []) :
    readFilters? ([Token.word "AND"].intercalate (filters.map KeyFilter.tokens)) =
      some filters := by
  induction filters with
  | nil => exact absurd rfl hne
  | cons f filters ih =>
    cases filters with
    | nil =>
      rw [List.map_cons, List.map_nil, List.intercalate_singleton]
      show (parameter? (parameterWord f.parameter)).map _ = _
      rw [parameter?_parameterWord]
      rfl
    | cons f' filters =>
      rw [List.map_cons, List.map_cons, List.intercalate_cons_cons, ← List.map_cons,
        List.append_assoc]
      show (parameter? (parameterWord f.parameter)).bind (fun n =>
        (readFilters? ([Token.word "AND"].intercalate
          ((f' :: filters).map KeyFilter.tokens))).map (⟨f.table, f.column, n⟩ :: ·)) = _
      rw [parameter?_parameterWord, ih (List.cons_ne_nil _ _)]
      rfl

theorem Statement.ofTokens?_tokens (s : Statement) (hfilters : s.filters ≠ []) :
    ofTokens? s.tokens = some s := by
  have hjoins := readJoins_append s.joins
    (.word "WHERE" :: [Token.word "AND"].intercalate (s.filters.map KeyFilter.tokens))
  have hwhere : ∀ rest, readJoins (.word "WHERE" :: rest) = ([], .word "WHERE" :: rest) :=
    fun _ => rfl
  rw [hwhere, List.append_nil] at hjoins
  rw [tokens, List.append_assoc, List.append_assoc]
  show close? s.answer s.source (readJoins (s.joins.flatMap Join.tokens ++
    .word "WHERE" :: [Token.word "AND"].intercalate (s.filters.map KeyFilter.tokens))) = some s
  rw [hjoins, close?, readFilters?_tokens hfilters]
  rfl

/-- A statement is read back from its text, whatever its names hold: only the column of the answer,
which is not quoted, must be a word. -/
theorem Statement.read?_text (s : Statement) (hne : s.answer ≠ "")
    (hanswer : ∀ c ∈ s.answer.toList, isWordChar c = true) (hfilters : s.filters ≠ []) :
    read? s.text = some s := by
  unfold read?
  rw [(s.spells_text hne hanswer).tokens?_eq]
  exact s.ofTokens?_tokens hfilters

end JoinPaths.Sql
