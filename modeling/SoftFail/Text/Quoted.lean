import SoftFail.Text.Hex
import SoftFail.Unicode.Visible

/-! Quoted text for messages: in double quotation marks, with escapes for whatever cannot be shown. -/

namespace SoftFail.Text

def escaped (c : Char) : List Char :=
  if c = '"' then ['\\', '"']
  else if c = '\\' then ['\\', '\\']
  else if c = '\n' then ['\\', 'n']
  else if c = '\r' then ['\\', 'r']
  else if c = '\t' then ['\\', 't']
  else if c = '\x00' then ['\\', '0']
  else if Unicode.isVisible c then [c]
  else '\\' :: 'u' :: '\x7b' :: hexText c.toNat ['\x7d']

def quoted (s : String) : String := String.ofList ('"' :: s.toList.flatMap escaped ++ ['"'])

def quotedList (items : List String) : String :=
  "[" ++ ", ".intercalate (items.map quoted) ++ "]"

end SoftFail.Text
