import GridCalc.Text.Printable

/-!
# Quoted text

A text as it stands inside a message: between quotes, on one line and free of invisible characters. Main definition:
`quoted`.
-/

namespace GridCalc.Text

/-- A code point in hexadecimal digits, padded with zeros to a width. -/
def hexadecimal (width n : Nat) : List Char :=
  let digits := Nat.toDigits 16 n
  List.replicate (width - digits.length) '0' ++ digits

/-- One character between quotes. -/
def escaped (quote c : Char) : List Char :=
  if c = quote ∨ c = '\\' then ['\\', c]
  else if c = '\n' then ['\\', 'n']
  else if c = '\r' then ['\\', 'r']
  else if c = '\t' then ['\\', 't']
  else if isPrintable c then [c]
  else if c.toNat < 0x100 then '\\' :: 'x' :: hexadecimal 2 c.toNat
  else if c.toNat < 0x10000 then '\\' :: 'u' :: hexadecimal 4 c.toNat
  else '\\' :: 'U' :: hexadecimal 8 c.toNat

/-- Single quotes, unless the text holds one and holds no double quote. -/
def quoteFor (s : List Char) : Char := if s.contains '\x27' && !s.contains '"' then '"' else '\x27'

/-- The text between quotes, with all that a line cannot show escaped. -/
def quoted (s : String) : String :=
  let quote := quoteFor s.toList
  String.ofList (quote :: s.toList.flatMap (escaped quote) ++ [quote])

end GridCalc.Text
