import JoinPaths.Text.Visible

/-!
# Texts quoted for a reader

A quoted text stands between double quotes. The quote and the backslash are preceded by a backslash,
the common control characters have a letter of their own, and any other character that cannot be
shown is given by its code point in hexadecimal digits.
-/

namespace JoinPaths.Text

/-- A character as it stands in a quoted text. -/
def quotedChar (c : Char) : List Char :=
  match c with
  | '"' => ['\\', '"']
  | '\\' => ['\\', '\\']
  | '\n' => ['\\', 'n']
  | '\r' => ['\\', 'r']
  | '\t' => ['\\', 't']
  | '\x00' => ['\\', '0']
  | c =>
    if isVisible c then [c]
    else ['\\', 'u', '\x7b'] ++ Nat.toDigits 16 c.toNat ++ ['\x7d']

def quoted (s : String) : String :=
  String.ofList ('"' :: s.toList.flatMap quotedChar ++ ['"'])

end JoinPaths.Text
