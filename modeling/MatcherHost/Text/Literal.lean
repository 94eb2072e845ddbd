import MatcherHost.Text.Unprintable

/-! The quoted form in which texts appear inside diagnostics and inspected values. Every escape
begins with a reverse solidus and a bare one is itself escaped, so the closing quotation mark
is the first one that stands alone. -/
namespace MatcherHost.Literal

def numbered (point : Nat) : List Char :=
  '\\' :: 'u' :: '\x7b' :: Nat.toDigits 16 point ++ ['\x7d']

def escape (c : Char) : List Char :=
  if c = '"' then ['\\', '"']
  else if c = '\\' then ['\\', '\\']
  else if c = '\x00' then ['\\', '0']
  else if c = '\t' then ['\\', 't']
  else if c = '\n' then ['\\', 'n']
  else if c = '\r' then ['\\', 'r']
  else if c.toNat < 0x20 ∨ c.toNat = 0x7F then numbered c.toNat
  else if Unprintable.contains c.toNat then numbered c.toNat
  else [c]

def chars (text : String) : List Char :=
  '"' :: text.toList.flatMap escape ++ ['"']

def quote (text : String) : String := String.ofList (chars text)

def record (name : String) (fields : List (String × String)) : String :=
  name ++ " \x7b " ++ ", ".intercalate (fields.map fun (field, shown) => field ++ ": " ++ shown)
    ++ " \x7d"

end MatcherHost.Literal
