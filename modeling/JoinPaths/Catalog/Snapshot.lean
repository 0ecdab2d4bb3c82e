import JoinPaths.Catalog.Draft
import JoinPaths.Json.Reader

/-!
# Catalog snapshots from texts

A snapshot is a JSON list of rows. Its text is gone through once and the first problem in it
decides, whether the text is broken there or a row is not what it should be: a kind that is wrong or
given again is noticed as soon as it has been read, anything else about a row once its closing
bracket has been read. Of a value that is neither list nor object, where one must stand, the whole
is read before it is refused; of a bracket that must not stand there, nothing more.
-/

namespace JoinPaths.Catalog

open Json (Fault Mismatch Scan Shape scanItems scanName scanValue skipBlanks skipColon)

/-- Why a text is no snapshot. -/
inductive Problem where
  /-- The text is no JSON text, at a place before any row is wrong. -/
  | fault (f : Fault)
  /-- A value is not what it should be, at a place before the text is broken. -/
  | mismatch (m : Mismatch)

/-! ## The beginning of a value -/

/-- A value without brackets, or the bracket with which a value begins and the text behind it. -/
inductive Opening (text : List Char) where
  /-- A list begins. -/
  | array (rest : List Char) (lt : rest.length < text.length)
  /-- An object begins. -/
  | object (rest : List Char) (lt : rest.length < text.length)
  /-- A value without brackets. -/
  | scalar (s : Scan Json text)

/-- The shape of the value that begins. -/
def Opening.shape {text : List Char} : Opening text → Shape
  | array _ _ => .sequence
  | object _ _ => .map
  | scalar s => s.value.shape

/-- Reads the beginning of a value. -/
def scanOpening (text : List Char) : Except Fault (Opening text) :=
  match h : skipBlanks text with
  | '[' :: rest => .ok (.array rest (Json.length_le_of_skipBlanks_eq h))
  | '\x7b' :: rest => .ok (.object rest (Json.length_le_of_skipBlanks_eq h))
  | _ => (scanValue 0 text).map .scalar

/-- The text behind the kind of a row. -/
def Opening.rest {text : List Char} : Opening text → List Char
  | array rest _ => rest
  | object rest _ => rest
  | scalar s => s.rest

theorem Opening.length_rest_le {text : List Char} (o : Opening text) :
    o.rest.length ≤ text.length := by
  cases o with
  | array rest lt => exact Nat.le_of_lt lt
  | object rest lt => exact Nat.le_of_lt lt
  | scalar s => exact s.le

/-! ## Rows -/

/-- How deep brackets may be nested in a field of a row. -/
def fieldDepth : Nat := Json.maxDepth - 2

/-- Adds the value that comes next in a text to a draft, under a key. -/
def Draft.scanMember (d : Draft) (key : String) (text : List Char) :
    Except Problem (Scan Draft text) :=
  if key = kindField then
    match scanOpening text with
    | .error f => .error (.fault f)
    | .ok o =>
      match d.setKind o.shape with
      | .error m => .error (.mismatch m)
      | .ok d => .ok ⟨d, o.rest, o.length_rest_le⟩
  else
    match scanValue fieldDepth text with
    | .error f => .error (.fault f)
    | .ok v => .ok ⟨d.addMember key v.value, v.rest, v.le⟩

/-- Reads one member or more of a row, up to the closing bracket. -/
def Draft.scanMembers (d : Draft) (text : List Char) : Except Problem (Scan Draft text) :=
  match hname : scanName text with
  | .error f => .error (.fault f)
  | .ok (key, afterName) =>
    if key = kindField ∧ d.kind.isSome then .error (.mismatch (.duplicateField kindField))
    else
      match hcolon : skipColon afterName with
      | .error f => .error (.fault f)
      | .ok afterColon =>
        match d.scanMember key afterColon with
        | .error p => .error p
        | .ok s =>
          match hblanks : skipBlanks s.rest with
          | [] => .error (.fault .unfinished)
          | c :: rest =>
            have hlt : rest.length < text.length := by
              have := Json.length_lt_of_scanName hname
              have := Json.length_le_of_skipColon hcolon
              have := Json.length_le_of_skipBlanks_eq hblanks
              have := s.le
              omega
            if c = '\x7d' then .ok ⟨s.value, rest, Nat.le_of_lt hlt⟩
            else if c = ',' then
              match s.value.scanMembers rest with
              | .error p => .error p
              | .ok s => .ok (s.within hlt)
            else .error (.fault .malformed)
termination_by text.length

/-- Reads the members of a row, behind its opening bracket. -/
def scanDraft (text : List Char) : Except Problem (Scan Draft text) :=
  match hblanks : skipBlanks text with
  | '\x7d' :: rest =>
    .ok ⟨Draft.empty, rest, Nat.le_of_succ_le (Json.length_le_of_skipBlanks_eq hblanks)⟩
  | _ => Draft.empty.scanMembers text

/-- Reads a row that is written as an object, behind its opening bracket. -/
def scanObjectRow (text : List Char) : Except Problem (Scan Row text) :=
  match scanDraft text with
  | .error p => .error p
  | .ok s =>
    match s.value.row with
    | .error m => .error (.mismatch m)
    | .ok row => .ok ⟨row, s.rest, s.le⟩

/-- Reads the fields of a row that is written as a list, behind its kind. -/
def scanFields (text : List Char) : Except Fault (Scan (List Json) text) :=
  match hblanks : skipBlanks text with
  | [] => .error .unfinished
  | ']' :: rest => .ok ⟨[], rest, Nat.le_of_succ_le (Json.length_le_of_skipBlanks_eq hblanks)⟩
  | ',' :: rest =>
    (scanItems fieldDepth rest).map fun s =>
      ⟨s.value, s.rest,
        Nat.le_trans s.le (Nat.le_of_succ_le (Json.length_le_of_skipBlanks_eq hblanks))⟩
  | _ => .error .malformed

/-- Reads a row that is written as a list, behind its opening bracket. -/
def scanArrayRow (text : List Char) : Except Problem (Scan Row text) :=
  match skipBlanks text with
  | ']' :: _ => .error (.mismatch (.missingField kindField))
  | _ =>
    match scanOpening text with
    | .error f => .error (.fault f)
    | .ok o =>
      match Kind.ofShape o.shape with
      | .error m => .error (.mismatch m)
      | .ok kind =>
        match scanFields o.rest with
        | .error f => .error (.fault f)
        | .ok s =>
          match kind.ofItems s.value with
          | .error m => .error (.mismatch m)
          | .ok row => .ok ⟨row, s.rest, Nat.le_trans s.le o.length_rest_le⟩

/-- Reads a row. -/
def scanRow (text : List Char) : Except Problem (Scan Row text) :=
  match scanOpening text with
  | .error f => .error (.fault f)
  | .ok (.scalar s) => .error (.mismatch (.invalidType s.value.shape rowDescription))
  | .ok (.object rest lt) =>
    (scanObjectRow rest).map fun s => s.within lt
  | .ok (.array rest lt) =>
    (scanArrayRow rest).map fun s => s.within lt

/-! ## Snapshots -/

/-- Reads one row or more, up to the closing bracket of the list. -/
def scanRows (text : List Char) : Except Problem (List Row × List Char) :=
  match scanRow text with
  | .error p => .error p
  | .ok s =>
    match hblanks : skipBlanks s.rest with
    | [] => .error (.fault .unfinished)
    | ']' :: rest => .ok ([s.value], rest)
    | ',' :: rest =>
      have : rest.length < text.length :=
        Nat.lt_of_lt_of_le (Json.length_le_of_skipBlanks_eq hblanks) s.le
      (scanRows rest).map fun (rows, rest) => (s.value :: rows, rest)
    | _ => .error (.fault .malformed)
termination_by text.length

/-- Reads a list of rows, behind its opening bracket. -/
def scanList (text : List Char) : Except Problem (List Row × List Char) :=
  match skipBlanks text with
  | ']' :: rest => .ok ([], rest)
  | _ => scanRows text

/-- The rows of a snapshot. -/
def parseRows (s : String) : Except Problem (List Row) :=
  match scanOpening s.toList with
  | .error f => .error (.fault f)
  | .ok (.array rest _) =>
    match scanList rest with
    | .error p => .error p
    | .ok (rows, rest) =>
      match Json.finish rest with
      | .error f => .error (.fault f)
      | .ok () => .ok rows
  | .ok o => .error (.mismatch (.invalidType o.shape "a sequence"))

end JoinPaths.Catalog
