import NcpHost.Text.Visible

/-! Quoted text for a log: between double quotes, with escapes for the quote,
the backslash, four control characters by letter, and every other character
without a shape of its own by number. -/
namespace NcpHost.Text.Quoted

/-- `\u{n}`, in as few lower-case digits as it takes. -/
def byNumber (c : Char) : List Char :=
  ['\\', 'u', '\x7b'] ++ ((Nat.toDigits 16 c.toNat) ++ ['\x7d'])

def escape (c : Char) : List Char :=
  if c = '\x00' then ['\\', '0']
  else if c = '\t' then ['\\', 't']
  else if c = '\n' then ['\\', 'n']
  else if c = '\r' then ['\\', 'r']
  else if c = '"' then ['\\', '"']
  else if c = '\\' then ['\\', '\\']
  else if Visible.isVisible c then [c]
  else byNumber c

def quote (text : String) : String :=
  String.ofList ('"' :: text.toList.flatMap escape ++ ['"'])

end NcpHost.Text.Quoted
