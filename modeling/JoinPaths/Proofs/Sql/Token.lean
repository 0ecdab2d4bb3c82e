import JoinPaths.Sql.Identifier
import Mathlib.Data.List.Basic

/-!
# Tokens of a statement

A statement text is read from left to right, character by character. A double quote opens a quoted
name, two of them in it are one quote of the name, and a single one closes it. Letters and digits
make words, white space separates, and any other character stands for itself.

`Spells` says which tokens a text stands for, and that it ends where the last of them may end. Texts
are put together from such pieces. Two of them must not grow into one token, so that there is a
separator between them: one begins with it (`Spells.append_closed`), or the other is closed by it
(`Closed.append`).
-/

namespace JoinPaths.Sql

/-! ## Reading -/

/-- A part of a statement. -/
inductive Token where
  /-- A word or a number. -/
  | word (text : String)
  | name (text : String)
  /-- Any other character. -/
  | symbol (c : Char)
deriving DecidableEq, Repr

/-- What is being read. -/
inductive Mode where
  /-- Nothing that could go on. -/
  | between
  | word (read : List Char)
  | quoted (read : List Char)
  /-- A quoted name that is over, unless its last quote is doubled. -/
  | closing (read : List Char)
deriving DecidableEq, Repr

/-- Whether a character belongs to a word. -/
def isWordChar (c : Char) : Bool :=
  c.isAlphanum || c == '_' || c == '$'

/-- Whether a character is white space. -/
def isBlank (c : Char) : Bool :=
  c == ' ' || c == '\n' || c == '\t' || c == '\r'

/-- Whether a character ends what is before it, and nothing is open behind it. -/
def isSeparator (c : Char) : Bool :=
  !isWordChar c && c != '"'

/-- The token that ends when nothing more comes. -/
def Mode.pending : Mode → List Token
  | between => []
  | word read => [.word (String.ofList read)]
  | quoted _ => []
  | closing read => [.name (String.ofList read)]

/-- What a character stands for that does not go on with a token. -/
def Mode.enter (c : Char) : List Token × Mode :=
  if c = '"' then ([], quoted [])
  else if isWordChar c then ([], word [c])
  else if isBlank c then ([], between)
  else ([.symbol c], between)

/-- The tokens that end with a character, and what is being read behind it. -/
def Mode.step : Mode → Char → List Token × Mode
  | between, c => enter c
  | word read, c =>
    if isWordChar c then ([], word (read ++ [c]))
    else ((word read).pending ++ (enter c).1, (enter c).2)
  | quoted read, c => if c = '"' then ([], closing read) else ([], quoted (read ++ [c]))
  | closing read, c =>
    if c = '"' then ([], quoted (read ++ [c]))
    else ((closing read).pending ++ (enter c).1, (enter c).2)

/-- Reads characters one after the other. -/
def Mode.run (m : Mode) : List Char → List Token × Mode
  | [] => ([], m)
  | c :: cs => ((m.step c).1 ++ ((m.step c).2.run cs).1, ((m.step c).2.run cs).2)

/-- Whether no quoted name is left open. -/
def Mode.isComplete : Mode → Bool
  | quoted _ => false
  | _ => true

/-- The tokens of a text, unless a quoted name in it is never closed. -/
def tokens? (text : String) : Option (List Token) :=
  let (read, m) := Mode.between.run text.toList
  if m.isComplete then some (read ++ m.pending) else none

/-! ## Pieces of texts -/

theorem Mode.run_append (m : Mode) (a b : List Char) :
    m.run (a ++ b) = ((m.run a).1 ++ ((m.run a).2.run b).1, ((m.run a).2.run b).2) := by
  induction a generalizing m with
  | nil => rfl
  | cons c cs ih =>
    rw [List.cons_append, run, ih, run]
    simp only [List.append_assoc]

/-- A separator ends what was being read, and is then read by itself. -/
theorem Mode.step_of_isSeparator {m : Mode} {c : Char} (hm : m.isComplete = true)
    (hc : isSeparator c = true) :
    m.step c = (m.pending ++ (between.step c).1, (between.step c).2) := by
  obtain ⟨hword, hquote⟩ := Bool.and_eq_true_iff.1 hc
  cases m with
  | between => rfl
  | word read => exact if_neg (by rw [(Bool.not_eq_true' _).mp hword]; exact Bool.false_ne_true)
  | quoted read => exact absurd hm Bool.false_ne_true
  | closing read => exact if_neg (bne_iff_ne.1 hquote)

/-- Whether a text stands for some tokens, the last of which may still go on. -/
def Spells (text : String) (tokens : List Token) : Prop :=
  ∃ read m, Mode.between.run text.toList = (read, m) ∧ m.isComplete = true ∧
    read ++ m.pending = tokens

/-- Whether a text stands for some tokens, none of which can go on. -/
def Closed (text : String) (tokens : List Token) : Prop :=
  Mode.between.run text.toList = (tokens, .between)

/-- Whether a text begins with a separator, if it is not empty. -/
def Separated (text : String) : Prop :=
  text.toList.head?.all isSeparator = true

variable {a b : String} {ts us : List Token}

theorem Spells.tokens?_eq (h : Spells a ts) : tokens? a = some ts := by
  obtain ⟨read, m, hrun, hm, rfl⟩ := h
  unfold tokens?
  rw [hrun]
  exact if_pos hm

theorem Closed.append (ha : Closed a ts) (hb : Spells b us) : Spells (a ++ b) (ts ++ us) := by
  obtain ⟨read, m, hrun, hm, rfl⟩ := hb
  refine ⟨ts ++ read, m, ?_, hm, List.append_assoc ts read m.pending⟩
  rw [String.toList_append, Mode.run_append, ha]
  dsimp only
  rw [hrun]

theorem Spells.append_closed (ha : Spells a ts) (hb : Closed b us) (hsep : Separated b)
    (hne : b ≠ "") : Closed (a ++ b) (ts ++ us) := by
  obtain ⟨read, m, hrun, hm, rfl⟩ := ha
  obtain ⟨c, cs, hlist⟩ := List.exists_cons_of_ne_nil (mt String.toList_eq_nil_iff.1 hne)
  have hc : isSeparator c = true := by
    rw [Separated, hlist] at hsep
    exact hsep
  have hbehind : m.run b.toList =
      (m.pending ++ (Mode.between.run b.toList).1, (Mode.between.run b.toList).2) := by
    rw [hlist, Mode.run, Mode.run, Mode.step_of_isSeparator hm hc, List.append_assoc]
  rw [Closed, String.toList_append, Mode.run_append, hrun]
  dsimp only
  rw [hbehind, hb, List.append_assoc]

/-! ## Names and words -/

/-- The characters of an identifier are read back as those of the name. -/
theorem Mode.run_quoted (read name : List Char) :
    (quoted read).run (name.flatMap identifierChar) = ([], quoted (read ++ name)) := by
  induction name generalizing read with
  | nil => rw [List.append_nil]; rfl
  | cons c name ih =>
    have hstep : (quoted read).run (identifierChar c) = ([], quoted (read ++ [c])) := by
      unfold identifierChar
      by_cases hc : c = '"'
      · rw [if_pos hc, hc]
        rfl
      · rw [if_neg hc, run, step, if_neg hc]
        rfl
    rw [List.flatMap_cons, run_append, hstep]
    dsimp only
    rw [ih, List.append_assoc]
    rfl

theorem spells_identifier (name : String) : Spells (identifier name) [.name name] := by
  refine ⟨[], .closing name.toList, ?_, rfl, ?_⟩
  · unfold identifier
    rw [String.toList_ofList]
    show (Mode.quoted []).run (name.toList.flatMap identifierChar ++ ['"']) = _
    rw [Mode.run_append, Mode.run_quoted]
    rfl
  · rw [Mode.pending, String.ofList_toList]
    rfl

theorem Mode.run_word (read text : List Char) (h : ∀ c ∈ text, isWordChar c = true) :
    (word read).run text = ([], word (read ++ text)) := by
  induction text generalizing read with
  | nil => rw [List.append_nil]; rfl
  | cons c text ih =>
    obtain ⟨hc, htext⟩ := List.forall_mem_cons.1 h
    rw [run, step, if_pos hc]
    dsimp only
    rw [ih _ htext, List.append_assoc]
    rfl

theorem spells_word {text : String} (hne : text ≠ "")
    (h : ∀ c ∈ text.toList, isWordChar c = true) : Spells text [.word text] := by
  refine ⟨[], .word text.toList, ?_, rfl, ?_⟩
  · cases hlist : text.toList with
    | nil => exact absurd (String.toList_eq_nil_iff.1 hlist) hne
    | cons c cs =>
      rw [hlist] at h
      obtain ⟨hc, hcs⟩ := List.forall_mem_cons.1 h
      have hquote : c ≠ '"' := by
        rintro rfl
        exact absurd hc (by decide)
      have hstep : Mode.between.step c = ([], .word [c]) := by
        rw [Mode.step, Mode.enter, if_neg hquote, if_pos hc]
      rw [Mode.run, hstep]
      dsimp only
      rw [Mode.run_word _ _ hcs]
      rfl
  · rw [Mode.pending, String.ofList_toList]
    rfl

/-! ## Lists of pieces -/

/-- Pieces with a separator between them stand for their tokens with those of the separator
between them. -/
theorem spells_intercalate {texts : List String} {tss : List (List Token)}
    (h : List.Forall₂ Spells texts tss) {sep : String} {us : List Token} (hsep : Closed sep us)
    (hseparated : Separated sep) (hne : sep ≠ "") :
    Spells (sep.intercalate texts) (us.intercalate tss) := by
  induction h with
  | nil => exact ⟨[], .between, rfl, rfl, rfl⟩
  | @cons a ts texts tss ha h ih =>
    cases h with
    | nil =>
      rw [String.intercalate_singleton, List.intercalate_singleton]
      exact ha
    | cons hb h =>
      rw [String.intercalate_cons_cons, List.intercalate_cons_cons]
      exact (ha.append_closed hsep hseparated hne).append ih

end JoinPaths.Sql
