import BayMap.Text.Numeral
import BayMap.Text.Unprintable

/-!
# Quoted text

Text between quotation marks on one line: a mark, a backslash and the usual controls are written
with a backslash, and every other character that would not show as itself as its code point.
-/

namespace BayMap.Text

/-- A character as it stands between quotation marks. -/
def quotedChar (c : Char) : List Char :=
  match c with
  | '\x00' => ['\\', '0']
  | '\t' => ['\\', 't']
  | '\r' => ['\\', 'r']
  | '\n' => ['\\', 'n']
  | '\\' => ['\\', '\\']
  | '"' => ['\\', '"']
  | c =>
    if unprintable.has c || extending.has c || fillers.has c then
      ['\\', 'u', '\x7b'] ++ digits 16 c.toNat ++ ['\x7d']
    else [c]

/-- Text between quotation marks. -/
def quoted (text : String) : String :=
  .ofList ('"' :: text.toList.flatMap quotedChar ++ ['"'])

end BayMap.Text
