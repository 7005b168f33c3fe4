import SeedShell.Text.Basic
import SeedShell.Text.Digits
import SeedShell.Text.Utf8

/-!
# Percent encoding and query strings

A byte may be written as a percent sign and two hexadecimal digits. In a query, parts are joined
by `&`, a name and its value by `=`, and a plus stands for a space.
-/

namespace SeedShell.Percent

/-- The bytes of a text, each encoded byte decoded. A percent sign without two digits stands for
itself. -/
def bytes : List Char → List UInt8
  | [] => []
  | '%' :: a :: b :: rest =>
    match Text.hexDigit? a, Text.hexDigit? b with
    | some x, some y => UInt8.ofNat (16 * x + y) :: bytes rest
    | _, _ => 0x25 :: bytes (a :: b :: rest)
  | c :: rest => String.utf8EncodeChar c ++ bytes rest

/-- The decoded text; bytes that are no UTF-8 read as U+FFFD. -/
def decode (s : String) : String := String.ofList (Text.Utf8.decodeLenient (bytes s.toList))

/-- A name or a value of a query. -/
def decodeField (cs : List Char) : String :=
  decode (String.ofList (cs.map fun c => if c = '+' then ' ' else c))

/-- The names and values of a query, which may begin with a question mark. -/
def queryFields (query : String) : List (String × String) :=
  let cs := match query.toList with
    | '?' :: rest => rest
    | cs => cs
  ((Text.splitChars (· == '&') cs).filter (· ≠ [])).map fun part =>
    (decodeField (part.takeWhile (· ≠ '=')), decodeField ((part.dropWhile (· ≠ '=')).drop 1))

/-- The first value of a name in a query. -/
def queryValue? (query name : String) : Option String := (queryFields query).lookup name

end SeedShell.Percent
