import ErrorBoundary.Text.Visible

/-!
# ErrorBoundary.Text.Quoted

Text in double quotes, as the error messages show it. A quote and a backslash are escaped, the
usual controls have a letter, and any other hidden character is written by its code point.

* `quoteChar` — one character between quotes.
* `quote`     — the whole text with its quotes.
-/

namespace ErrorBoundary

/-- The lower-case hexadecimal digits of a number, without leading zeros. -/
def hexDigits (n : Nat) : List Char := Nat.toDigits 16 n

def quoteChar (c : Char) : List Char :=
  if c = '"' then ['\\', '"']
  else if c = '\\' then ['\\', '\\']
  else if c = '\n' then ['\\', 'n']
  else if c = '\r' then ['\\', 'r']
  else if c = '\t' then ['\\', 't']
  else if c = '\x00' then ['\\', '0']
  else if isHidden c then ['\\', 'u', '\x7b'] ++ hexDigits c.toNat ++ ['\x7d']
  else [c]

def quote (s : String) : String :=
  String.ofList ('"' :: s.toList.flatMap quoteChar ++ ['"'])

end ErrorBoundary
