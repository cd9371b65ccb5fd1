import ModuleCatalog.Text.Ranges
import ModuleCatalog.Text.ShapelessTable

/-!
Quoting a text so that its characters can be told: quotes, backslashes and whatever has no shape of
its own are escaped.
-/
namespace ModuleCatalog.Text

def quotedChar (c : Char) : List Char :=
  if c = '"' then ['\\', '"']
  else if c = '\\' then ['\\', '\\']
  else if c = '\n' then ['\\', 'n']
  else if c = '\r' then ['\\', 'r']
  else if c = '\t' then ['\\', 't']
  else if c = '\x00' then ['\\', '0']
  else if inRanges shapelessRanges c then '\\' :: 'u' :: '\x7b' :: Nat.toDigits 16 c.toNat ++ ['\x7d']
  else [c]

def quoted (s : String) : String :=
  .ofList ('"' :: s.toList.flatMap quotedChar ++ ['"'])

end ModuleCatalog.Text
