import StreamBalancer.Text.Printable

/-!
# StreamBalancer.Text.Quoted

Quoted text, as summaries and error messages show strings:

1. the text stands between double quotes;
2. a double quote and a backslash get a backslash in front;
3. line feed, carriage return, tab and NUL are written `\n`, `\r`, `\t`, `\0`;
4. any other character that is not printable is written as its code point in
   lower-case hexadecimal digits, `\u{…}`, without padding;
5. everything else stands for itself.
-/

namespace StreamBalancer.Text

/-- One character inside the quotes. -/
def escape (c : Char) : List Char :=
  if c = '"' then ['\\', '"']
  else if c = '\\' then ['\\', '\\']
  else if c = '\n' then ['\\', 'n']
  else if c = '\r' then ['\\', 'r']
  else if c = '\t' then ['\\', 't']
  else if c = '\x00' then ['\\', '0']
  else if isPrintable c then [c]
  else ['\\', 'u', '\x7b'] ++ Nat.toDigits 16 c.toNat ++ ['\x7d']

/-- The quoted form of a text. -/
def quoted (s : String) : String :=
  String.ofList ('"' :: s.toList.flatMap escape ++ ['"'])

/-- The quoted form of a list of texts: in brackets, with commas between. -/
def quotedList (ss : List String) : String :=
  "[" ++ ", ".intercalate (ss.map quoted) ++ "]"

end StreamBalancer.Text
