import JoinPaths.Json.Number

/-!
# The parts of JSON texts

Words, numbers, strings and keys are read from the front of a text, strictly: blanks are the space,
the tab and the two line ends, and surrogate escapes come in pairs. The first problem in the text
decides: a text that stops too early is `unfinished`, any other problem is `malformed`. What is left
is never longer than the text, which is why the reader of whole values ends.
-/

namespace JoinPaths.Json

/-- Why a text is no JSON text. -/
inductive Fault where
  /-- The text stops too early. -/
  | unfinished
  /-- Something stands in the text that cannot stand there. -/
  | malformed
deriving DecidableEq, Repr

/-! ## Blanks and words -/

/-- Whether a character may stand between the parts of a text. -/
def isBlank (c : Char) : Bool :=
  c == ' ' || c == '\n' || c == '\t' || c == '\r'

/-- The text from its first character on that is no blank. -/
def skipBlanks (text : List Char) : List Char :=
  text.dropWhile isBlank

theorem length_skipBlanks_le (text : List Char) : (skipBlanks text).length ≤ text.length :=
  (List.dropWhile_suffix isBlank).length_le

/-- The text behind a word that must stand at its front. -/
def skipWord : (word text : List Char) → Except Fault (List Char)
  | [], text => .ok text
  | _ :: _, [] => .error .unfinished
  | c :: word, d :: text => if c = d then skipWord word text else .error .malformed

theorem length_le_of_skipWord {word text rest : List Char} (h : skipWord word text = .ok rest) :
    rest.length ≤ text.length := by
  fun_induction skipWord word text with
  | case1 text => simp_all
  | case2 => simp at h
  | case3 c word text ih =>
    have := ih h
    simp only [List.length_cons]
    omega
  | case4 => simp at h

/-! ## Numbers -/

/-- The digits at the front of a text, and the rest. -/
def spanDigits (text : List Char) : List Char × List Char :=
  (text.takeWhile Char.isDigit, text.dropWhile Char.isDigit)

theorem length_spanDigits_le (text : List Char) : (spanDigits text).2.length ≤ text.length :=
  (List.dropWhile_suffix Char.isDigit).length_le

/-- Reads at least one digit. -/
def scanDigits (text : List Char) : Except Fault (List Char × List Char) :=
  match spanDigits text with
  | ([], []) => .error .unfinished
  | ([], _ :: _) => .error .malformed
  | (digits, rest) => .ok (digits, rest)

theorem length_le_of_scanDigits {text digits rest : List Char}
    (h : scanDigits text = .ok (digits, rest)) : rest.length ≤ text.length := by
  have := length_spanDigits_le text
  unfold scanDigits at h
  split at h
  · simp at h
  · simp at h
  · next heq =>
    simp only [Except.ok.injEq, Prod.mk.injEq] at h
    rw [heq, h.2] at this
    exact this

/-- Reads the digits before the point: a single zero, or digits that begin with another one. -/
def scanWhole (text : List Char) : Except Fault (List Char × List Char) :=
  match scanDigits text with
  | .error e => .error e
  | .ok ('0' :: _ :: _, _) => .error .malformed
  | .ok (digits, rest) => .ok (digits, rest)

theorem length_le_of_scanWhole {text digits rest : List Char}
    (h : scanWhole text = .ok (digits, rest)) : rest.length ≤ text.length := by
  unfold scanWhole at h
  split at h
  · simp at h
  · simp at h
  · next heq =>
    simp only [Except.ok.injEq, Prod.mk.injEq] at h
    exact length_le_of_scanDigits (h.2 ▸ heq)

/-- Reads a point and the digits behind it, if there is a point. -/
def scanFraction : List Char → Except Fault (List Char × List Char)
  | '.' :: text => scanDigits text
  | text => .ok ([], text)

theorem length_le_of_scanFraction {text digits rest : List Char}
    (h : scanFraction text = .ok (digits, rest)) : rest.length ≤ text.length := by
  unfold scanFraction at h
  split at h
  · have := length_le_of_scanDigits h
    simp only [List.length_cons]
    omega
  · simp_all

/-- Reads the sign and the digits of an exponent. -/
def scanSigned : List Char → Except Fault ((Bool × List Char) × List Char)
  | '-' :: text => (scanDigits text).map fun (digits, rest) => ((true, digits), rest)
  | '+' :: text => (scanDigits text).map fun (digits, rest) => ((false, digits), rest)
  | text => (scanDigits text).map fun (digits, rest) => ((false, digits), rest)

/-- Reads an exponent, if there is one. -/
def scanExponent (text : List Char) : Except Fault (Option (Bool × List Char) × List Char) :=
  match text with
  | [] => .ok (none, text)
  | c :: rest =>
    if c = 'e' ∨ c = 'E' then (scanSigned rest).map fun (e, rest) => (some e, rest)
    else .ok (none, text)

theorem length_le_of_map_scanDigits {α : Type} {f : List Char → α} {text : List Char} {a : α}
    {rest : List Char}
    (h : ((scanDigits text).map fun (digits, rest) => (f digits, rest)) = .ok (a, rest)) :
    rest.length ≤ text.length := by
  cases hd : scanDigits text with
  | error e => simp [hd, Except.map] at h
  | ok p =>
    simp only [hd, Except.map, Except.ok.injEq, Prod.mk.injEq] at h
    exact h.2 ▸ length_le_of_scanDigits hd

theorem length_le_of_scanExponent {text rest : List Char} {e : Option (Bool × List Char)}
    (h : scanExponent text = .ok (e, rest)) : rest.length ≤ text.length := by
  unfold scanExponent at h
  split at h
  · simp_all
  · next c text =>
    split at h
    · cases hs : scanSigned text with
      | error _ => simp [hs, Except.map] at h
      | ok p =>
        simp only [hs, Except.map, Except.ok.injEq, Prod.mk.injEq] at h
        obtain ⟨-, rfl⟩ := h
        unfold scanSigned at hs
        split at hs <;>
        · have := length_le_of_map_scanDigits hs
          simp only [List.length_cons] at this ⊢
          omega
    · simp_all

/-- Reads a number without its sign. -/
def scanNumeral (negative : Bool) (text : List Char) : Except Fault (Json × List Char) :=
  match scanWhole text with
  | .error e => .error e
  | .ok (whole, afterWhole) =>
    match scanFraction afterWhole with
    | .error e => .error e
    | .ok (fraction, afterFraction) =>
      match scanExponent afterFraction with
      | .error e => .error e
      | .ok (exponent, rest) =>
        match (⟨negative, whole, fraction, exponent⟩ : Numeral).value? with
        | some v => .ok (v, rest)
        | none => .error .malformed

theorem length_le_of_scanNumeral {negative : Bool} {text rest : List Char} {v : Json}
    (h : scanNumeral negative text = .ok (v, rest)) : rest.length ≤ text.length := by
  unfold scanNumeral at h
  split at h
  · simp at h
  · next h1 =>
    split at h
    · simp at h
    · next h2 =>
      split at h
      · simp at h
      · next h3 =>
        split at h
        · simp only [Except.ok.injEq, Prod.mk.injEq] at h
          have := length_le_of_scanWhole h1
          have := length_le_of_scanFraction h2
          have := length_le_of_scanExponent (h.2 ▸ h3)
          omega
        · simp at h

/-! ## Strings -/

/-- Reads four hexadecimal digits. A rest of fewer than four bytes has stopped too early, whatever
it holds. -/
def scanUnit (text : List Char) : Except Fault (Nat × List Char) :=
  if (String.ofList (text.take 4)).utf8ByteSize < 4 then .error .unfinished
  else
    match text with
    | a :: b :: c :: d :: rest =>
      match Text.hexValue? a, Text.hexValue? b, Text.hexValue? c, Text.hexValue? d with
      | some a, some b, some c, some d => .ok (((a * 16 + b) * 16 + c) * 16 + d, rest)
      | _, _, _, _ => .error .malformed
    | _ => .error .malformed

theorem length_le_of_scanUnit {text rest : List Char} {n : Nat}
    (h : scanUnit text = .ok (n, rest)) : rest.length ≤ text.length := by
  unfold scanUnit at h
  split at h
  · simp at h
  · split at h
    · split at h
      · simp only [Except.ok.injEq, Prod.mk.injEq] at h
        simp only [h.2, List.length_cons]
        omega
      · simp at h
    · simp at h

/-- Reads the second half of a surrogate pair, escape included. -/
def scanSecondHalf : List Char → Except Fault (Nat × List Char)
  | [] => .error .unfinished
  | '\\' :: [] => .error .unfinished
  | '\\' :: 'u' :: text =>
    match scanUnit text with
    | .error e => .error e
    | .ok (n, rest) => if 0xdc00 ≤ n ∧ n ≤ 0xdfff then .ok (n, rest) else .error .malformed
  | _ => .error .malformed

theorem length_le_of_scanSecondHalf {text rest : List Char} {n : Nat}
    (h : scanSecondHalf text = .ok (n, rest)) : rest.length ≤ text.length := by
  unfold scanSecondHalf at h
  split at h
  · simp at h
  · simp at h
  · split at h
    · simp at h
    · next hu =>
      split at h
      · simp only [Except.ok.injEq, Prod.mk.injEq] at h
        have := length_le_of_scanUnit (h.2 ▸ hu)
        simp only [List.length_cons]
        omega
      · simp at h
  · simp at h

/-- Reads the character that an escape stands for, behind the backslash. -/
def scanEscape : List Char → Except Fault (Char × List Char)
  | [] => .error .unfinished
  | '"' :: text => .ok ('"', text)
  | '\\' :: text => .ok ('\\', text)
  | '/' :: text => .ok ('/', text)
  | 'b' :: text => .ok ('\x08', text)
  | 'f' :: text => .ok ('\x0c', text)
  | 'n' :: text => .ok ('\n', text)
  | 'r' :: text => .ok ('\r', text)
  | 't' :: text => .ok ('\t', text)
  | 'u' :: text =>
    match scanUnit text with
    | .error e => .error e
    | .ok (n, rest) =>
      if 0xdc00 ≤ n ∧ n ≤ 0xdfff then .error .malformed
      else if 0xd800 ≤ n ∧ n ≤ 0xdbff then
        match scanSecondHalf rest with
        | .error e => .error e
        | .ok (m, rest) => .ok (Char.ofNat (0x10000 + (n - 0xd800) * 0x400 + (m - 0xdc00)), rest)
      else .ok (Char.ofNat n, rest)
  | _ => .error .malformed

theorem length_le_of_scanEscape {text rest : List Char} {c : Char}
    (h : scanEscape text = .ok (c, rest)) : rest.length ≤ text.length := by
  unfold scanEscape at h
  split at h
  case h_10 =>
    split at h
    · simp at h
    · next hu =>
      have := length_le_of_scanUnit hu
      split at h
      · simp at h
      · split at h
        · split at h
          · simp at h
          · next hs =>
            simp only [Except.ok.injEq, Prod.mk.injEq] at h
            have := length_le_of_scanSecondHalf (h.2 ▸ hs)
            simp only [List.length_cons]
            omega
        · simp only [Except.ok.injEq, Prod.mk.injEq] at h
          simp only [← h.2, List.length_cons]
          omega
  all_goals
    simp only [Except.ok.injEq, Prod.mk.injEq, reduceCtorEq] at h
    try simp [h.2]

/-- Reads a string up to its closing quote; `read` holds the characters before, latest first. -/
def scanString (read text : List Char) : Except Fault (String × List Char) :=
  match text with
  | [] => .error .unfinished
  | '"' :: rest => .ok (String.ofList read.reverse, rest)
  | '\\' :: rest =>
    match _h : scanEscape rest with
    | .error e => .error e
    | .ok (c, rest') => scanString (c :: read) rest'
  | c :: rest => if c.toNat < 0x20 then .error .malformed else scanString (c :: read) rest
termination_by text.length
decreasing_by
  · have := length_le_of_scanEscape _h
    simp only [List.length_cons]
    omega
  · simp

theorem length_le_of_scanString {read text rest : List Char} {s : String}
    (h : scanString read text = .ok (s, rest)) : rest.length ≤ text.length := by
  fun_induction scanString read text with
  | case1 => simp at h
  | case2 read rest' =>
    simp only [Except.ok.injEq, Prod.mk.injEq] at h
    simp [h.2]
  | case3 => simp at h
  | case4 read text' c rest' he ih =>
    have := length_le_of_scanEscape he
    have := ih h
    simp only [List.length_cons]
    omega
  | case5 => simp at h
  | case6 read c text' _ _ _ ih =>
    have := ih h
    simp only [List.length_cons]
    omega

/-! ## Keys -/

/-- The colon behind a key, and the blanks around it. -/
def skipColon (text : List Char) : Except Fault (List Char) :=
  match skipBlanks text with
  | [] => .error .unfinished
  | ':' :: rest => .ok rest
  | _ :: _ => .error .malformed

theorem length_le_of_skipColon {text rest : List Char} (h : skipColon text = .ok rest) :
    rest.length ≤ text.length := by
  have := length_skipBlanks_le text
  unfold skipColon at h
  split at h
  · simp at h
  · next heq =>
    simp only [Except.ok.injEq] at h
    simp only [heq, List.length_cons, h] at this
    omega
  · simp at h

/-- Reads a key, without its colon. -/
def scanName (text : List Char) : Except Fault (String × List Char) :=
  match skipBlanks text with
  | [] => .error .unfinished
  | '"' :: rest => scanString [] rest
  | _ :: _ => .error .malformed

theorem length_lt_of_scanName {text rest : List Char} {key : String}
    (h : scanName text = .ok (key, rest)) : rest.length < text.length := by
  have := length_skipBlanks_le text
  unfold scanName at h
  split at h
  · simp at h
  · next heq =>
    have := length_le_of_scanString h
    simp only [heq, List.length_cons] at *
    omega
  · simp at h

/-- Reads a key with its colon. -/
def scanKey (text : List Char) : Except Fault (String × List Char) :=
  match scanName text with
  | .error e => .error e
  | .ok (key, rest) => (skipColon rest).map fun rest => (key, rest)

theorem length_lt_of_scanKey {text rest : List Char} {key : String}
    (h : scanKey text = .ok (key, rest)) : rest.length < text.length := by
  unfold scanKey at h
  split at h
  · simp at h
  · next key' rest' hn =>
    cases hc : skipColon rest' with
    | error e => simp [hc, Except.map] at h
    | ok rest'' =>
      simp only [hc, Except.map, Except.ok.injEq, Prod.mk.injEq] at h
      have := length_lt_of_scanName hn
      have := length_le_of_skipColon (h.2 ▸ hc)
      omega

end JoinPaths.Json
