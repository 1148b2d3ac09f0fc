import ErrorBoundary.Text.Ascii
import ErrorBoundary.Text.Utf8

/-!
# ErrorBoundary.Text.Percent

Percent-encoded text. A `%` that two hexadecimal digits do not follow stands for itself.
-/

namespace ErrorBoundary
namespace Percent

def decode : List Char → List UInt8
  | '%' :: a :: b :: rest =>
    match hexValue? a, hexValue? b with
    | some m, some n => UInt8.ofNat (16 * m + n) :: decode rest
    | _, _ => Utf8.encode "%" ++ decode (a :: b :: rest)
  | c :: rest => Utf8.encode c.toString ++ decode rest
  | [] => []

/-- The text that a text stands for, when its bytes are one. -/
def decodeText? (s : String) : Option String := Utf8.decode? (decode s.toList)

end Percent
end ErrorBoundary
