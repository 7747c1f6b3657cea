import AspiManager.Bytes.Hex
import AspiManager.Text.Visible

/-!
# Quoted text

A text between double quotes, with what would not show written as an escape. The single quote
stands for itself.
-/

namespace AspiManager

namespace Quoted

/-- How one character is written. -/
def escape (c : Char) : List Char :=
  if c = '\x00' then ['\\', '0']
  else if c = '\t' then ['\\', 't']
  else if c = '\n' then ['\\', 'n']
  else if c = '\r' then ['\\', 'r']
  else if c = '"' then ['\\', '"']
  else if c = '\\' then ['\\', '\\']
  else if Visible.isVisible c then [c]
  else ['\\', 'u', Char.ofNat 0x7B] ++ (Hex.number c.toNat).toList ++ [Char.ofNat 0x7D]

/-- The text between quotes. -/
def text (s : String) : String := String.ofList (['"'] ++ s.toList.flatMap escape ++ ['"'])

end Quoted

end AspiManager
