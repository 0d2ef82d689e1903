import SellerApi.Text.Hex
import SellerApi.Text.Visible

/-! # Quoted text

How a diagnostic shows a text: between double quotes, with an escape for each character that
would not show as itself. A file path shows single quotes escaped too. -/

namespace SellerApi.Text

/-- A character in a quoted text; `single` says whether a single quote is escaped. -/
def quotedChar (single : Bool) (c : Char) : List Char :=
  if c = '\x00' then ['\\', '0']
  else if c = '\t' then ['\\', 't']
  else if c = '\r' then ['\\', 'r']
  else if c = '\n' then ['\\', 'n']
  else if c = '\\' ∨ c = '"' ∨ (single ∧ c = '\'') then ['\\', c]
  else if isVisible c then [c]
  else ['\\', 'u', '{'] ++ Hex.ofNat c.toNat ++ ['}']

/-- A text as a diagnostic shows it. -/
def quoted (s : String) : String :=
  String.ofList ('"' :: s.toList.flatMap (quotedChar false) ++ ['"'])

/-- A file path as a diagnostic shows it. -/
def quotedPath (s : String) : String :=
  String.ofList ('"' :: s.toList.flatMap (quotedChar true) ++ ['"'])

end SellerApi.Text
