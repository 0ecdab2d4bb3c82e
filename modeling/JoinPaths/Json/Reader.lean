import JoinPaths.Json.Lexeme

/-!
# Reading JSON values

A value is read from the front of a text. Brackets may be nested up to a given depth, `maxDepth` for
a whole text, and no comma may stand before a closing bracket. A text is a JSON text if nothing but
blanks stands around one value.
-/

namespace JoinPaths.Json

/-- What was read from the front of a text, and what is left of it. -/
structure Scan (α : Type) (text : List Char) where
  value : α
  rest : List Char
  le : rest.length ≤ text.length

/-- What was read from a shorter text counts as read from the text before it. -/
def Scan.within {α : Type} {text rest : List Char} (s : Scan α rest)
    (h : rest.length < text.length) : Scan α text :=
  ⟨s.value, s.rest, Nat.le_trans s.le (Nat.le_of_lt h)⟩

theorem length_le_of_skipBlanks_eq {text rest : List Char} {c : Char}
    (h : skipBlanks text = c :: rest) : rest.length + 1 ≤ text.length := by
  simpa [h] using length_skipBlanks_le text

/-- A word that stands for a value. -/
def scanWord {text rest : List Char} (word : List Char) (v : Json)
    (hrest : rest.length + 1 ≤ text.length) : Except Fault (Scan Json text) :=
  match h : skipWord word rest with
  | .error e => .error e
  | .ok rest' => .ok ⟨v, rest', by have := length_le_of_skipWord h; omega⟩

mutual

/-- Reads a value in which brackets may be nested to this depth. -/
def scanValue (depth : Nat) (text : List Char) : Except Fault (Scan Json text) :=
  match hblanks : skipBlanks text with
  | [] => .error .unfinished
  | c :: rest =>
    have hrest := length_le_of_skipBlanks_eq hblanks
    if c = 'n' then scanWord ['u', 'l', 'l'] .null hrest
    else if c = 't' then scanWord ['r', 'u', 'e'] (.bool true) hrest
    else if c = 'f' then scanWord ['a', 'l', 's', 'e'] (.bool false) hrest
    else if c = '"' then
      match h : scanString [] rest with
      | .error e => .error e
      | .ok (s, rest') => .ok ⟨.string s, rest', by have := length_le_of_scanString h; omega⟩
    else if c = '[' then
      match depth with
      | 0 => .error .malformed
      | depth + 1 =>
        match scanArray depth rest with
        | .error e => .error e
        | .ok s => .ok ⟨.array s.value, s.rest, by have := s.le; omega⟩
    else if c = '\x7b' then
      match depth with
      | 0 => .error .malformed
      | depth + 1 =>
        match scanObject depth rest with
        | .error e => .error e
        | .ok s =>
          .ok ⟨.object (s.value.foldl (fun ms m => put ms m.1 m.2) []), s.rest,
            by have := s.le; omega⟩
    else if c = '-' then
      match h : scanNumeral true rest with
      | .error e => .error e
      | .ok (v, rest') => .ok ⟨v, rest', by have := length_le_of_scanNumeral h; omega⟩
    else if c.isDigit then
      match h : scanNumeral false (c :: rest) with
      | .error e => .error e
      | .ok (v, rest') =>
        .ok ⟨v, rest', by
          have := length_le_of_scanNumeral h
          simp only [List.length_cons] at this
          omega⟩
    else .error .malformed
termination_by (text.length, 0)

/-- Reads the values of a list behind its opening bracket. -/
def scanArray (depth : Nat) (text : List Char) : Except Fault (Scan (List Json) text) :=
  match hblanks : skipBlanks text with
  | ']' :: rest => .ok ⟨[], rest, by have := length_le_of_skipBlanks_eq hblanks; omega⟩
  | _ => scanItems depth text
termination_by (text.length, 2)

/-- Reads one value or more, up to the closing bracket of the list. -/
def scanItems (depth : Nat) (text : List Char) : Except Fault (Scan (List Json) text) :=
  match scanValue depth text with
  | .error e => .error e
  | .ok v =>
    match hblanks : skipBlanks v.rest with
    | [] => .error .unfinished
    | c :: rest =>
      have hrest := Nat.le_trans (length_le_of_skipBlanks_eq hblanks) v.le
      if c = ']' then .ok ⟨[v.value], rest, by omega⟩
      else if c = ',' then
        match scanItems depth rest with
        | .error e => .error e
        | .ok s => .ok ⟨v.value :: s.value, s.rest, by have := s.le; omega⟩
      else .error .malformed
termination_by (text.length, 1)

/-- Reads the members of an object behind its opening bracket. -/
def scanObject (depth : Nat) (text : List Char) :
    Except Fault (Scan (List (String × Json)) text) :=
  match hblanks : skipBlanks text with
  | '\x7d' :: rest => .ok ⟨[], rest, by have := length_le_of_skipBlanks_eq hblanks; omega⟩
  | _ => scanMembers depth text
termination_by (text.length, 2)

/-- Reads one member or more, up to the closing bracket of the object. -/
def scanMembers (depth : Nat) (text : List Char) :
    Except Fault (Scan (List (String × Json)) text) :=
  match hkey : scanKey text with
  | .error e => .error e
  | .ok (key, afterKey) =>
    have hlt := length_lt_of_scanKey hkey
    match scanValue depth afterKey with
    | .error e => .error e
    | .ok v =>
      match hblanks : skipBlanks v.rest with
      | [] => .error .unfinished
      | c :: rest =>
        have hrest := Nat.le_trans (length_le_of_skipBlanks_eq hblanks) v.le
        if c = '\x7d' then .ok ⟨[(key, v.value)], rest, by omega⟩
        else if c = ',' then
          match scanMembers depth rest with
          | .error e => .error e
          | .ok s => .ok ⟨(key, v.value) :: s.value, s.rest, by have := s.le; omega⟩
        else .error .malformed
termination_by (text.length, 1)

end

/-- How deep brackets may be nested in a text. -/
def maxDepth : Nat := 127

/-- Nothing but blanks may be left at the end of a text. -/
def finish (rest : List Char) : Except Fault Unit :=
  if (skipBlanks rest).isEmpty then .ok () else .error .malformed

/-- Reads a whole text as one value. -/
def parse (s : String) : Except Fault Json :=
  match scanValue maxDepth s.toList with
  | .error e => .error e
  | .ok v => (finish v.rest).map fun _ => v.value

end JoinPaths.Json
