/-!
# ErrorBoundary.Text.Blank

White space of all scripts, and texts without the white space around them.

* `isWhiteSpace` — the Unicode property.
* `trimmed`      — what stands between the white space at both ends.
-/

namespace ErrorBoundary

def isWhiteSpace (c : Char) : Bool :=
  let n := c.toNat
  (9 ≤ n && n ≤ 13) || n == 0x20 || n == 0x85 || n == 0xA0 || n == 0x1680 ||
    (0x2000 ≤ n && n ≤ 0x200A) || n == 0x2028 || n == 0x2029 || n == 0x202F || n == 0x205F ||
    n == 0x3000

def trimmed (cs : List Char) : List Char :=
  ((cs.dropWhile isWhiteSpace).reverse.dropWhile isWhiteSpace).reverse

end ErrorBoundary
