import Collocation.Text.Hexadecimal
import Collocation.Unicode.Display

/-!
# Quoted text

A quoted text stands between double quotes.  Six characters have an escape of their own; any other
character that does not print, or that would join the character before it, is written as its code
in hexadecimal.
-/

namespace Collocation
namespace Text

/-- The written form of one character between quotes. -/
def quotedChar (char : Char) : List Char :=
  match char with
  | '\x00' => ['\\', '0']
  | '\t' => ['\\', 't']
  | '\r' => ['\\', 'r']
  | '\n' => ['\\', 'n']
  | '\\' => ['\\', '\\']
  | '"' => ['\\', '"']
  | _ =>
      if Unicode.hidden.contains char then ['\\', 'u', '\x7b'] ++ hexadecimal char.toNat ++ ['\x7d']
      else [char]

/-- A text between double quotes. -/
def quoted (text : String) : String :=
  String.ofList ('"' :: text.toList.flatMap quotedChar ++ ['"'])

/-- Quoted texts between square brackets, with a comma between each two. -/
def quotedList (texts : List String) : String :=
  "[" ++ ", ".intercalate (texts.map quoted) ++ "]"

end Text
end Collocation
