import ScreenPattern.Text.Unprintable

/-!
Quoted text, as messages show the text a client sent: between double quotes, on one line, and with
every unprintable character spelled out by its code point.
-/

namespace ScreenPattern.Text

/-- One character inside quotes. An apostrophe stands for itself. -/
def quoteChar (c : Char) : List Char :=
  match c with
  | '"' => ['\\', '"']
  | '\\' => ['\\', '\\']
  | '\t' => ['\\', 't']
  | '\r' => ['\\', 'r']
  | '\n' => ['\\', 'n']
  | '\x00' => ['\\', '0']
  | c =>
    if isUnprintable c then
      ['\\', 'u', '\x7b'] ++ Nat.toDigits 16 c.toNat ++ ['\x7d']
    else [c]

def quote (s : String) : String :=
  String.ofList ('"' :: s.toList.flatMap quoteChar ++ ['"'])

end ScreenPattern.Text
