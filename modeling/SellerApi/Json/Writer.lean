import SellerApi.Json.Value
import SellerApi.Number.FloatText
import SellerApi.Text.Hex

/-! # Writing JSON text

`Value.render` is the compact text: no blanks, members in their order, in texts only quotes,
backslashes and controls escaped. `Value.renderPretty` puts each item and member on a line of its
own, two blanks deeper than what holds it. -/

namespace SellerApi.Json

open SellerApi.Number SellerApi.Text

/-- Doubles in JSON values: positional from `1e-5` to below `1e16`. -/
def floatStyle : FloatStyle := ⟨-5, 15, false, true⟩

/-- A character inside a text. -/
def escapeChar (c : Char) : List Char :=
  if c = '"' then ['\\', '"']
  else if c = '\\' then ['\\', '\\']
  else if c = '\n' then ['\\', 'n']
  else if c = '\r' then ['\\', 'r']
  else if c = '\t' then ['\\', 't']
  else if c = '\x08' then ['\\', 'b']
  else if c = '\x0c' then ['\\', 'f']
  else if c.toNat < 0x20 then ['\\', 'u'] ++ Hex.fixed 4 c.toNat
  else [c]

/-- A text between its quotes. -/
def renderText (s : String) : List Char := '"' :: s.toList.flatMap escapeChar ++ ['"']

/-- A number. A double that is no finite number is written `null`. -/
def Number.render : Number → List Char
  | .int n => (intText n).toList
  | .float x => (floatText? floatStyle x).getD "null".toList

mutual
/-- The compact text of a value. -/
def Value.render : Value → List Char
  | .null => "null".toList
  | .bool true => "true".toList
  | .bool false => "false".toList
  | .number n => n.render
  | .text s => renderText s
  | .list items => '[' :: renderItems items ++ [']']
  | .record members => '{' :: renderMembers members ++ ['}']

def renderItems : List Value → List Char
  | [] => []
  | [v] => v.render
  | v :: w :: vs => v.render ++ ',' :: renderItems (w :: vs)

def renderMembers : List (String × Value) → List Char
  | [] => []
  | [(name, v)] => renderText name ++ ':' :: v.render
  | (name, v) :: m :: ms => renderText name ++ ':' :: v.render ++ ',' :: renderMembers (m :: ms)
end

/-- A line break and the blanks of a level. -/
def freshLine (level : Nat) : List Char := '\n' :: List.replicate (2 * level) ' '

mutual
/-- The text of a value over several lines, inside so many levels. -/
def Value.renderLines (level : Nat) : Value → List Char
  | .null => "null".toList
  | .bool true => "true".toList
  | .bool false => "false".toList
  | .number n => n.render
  | .text s => renderText s
  | .list [] => ['[', ']']
  | .list (v :: vs) => '[' :: renderItemLines (level + 1) (v :: vs) ++ freshLine level ++ [']']
  | .record [] => ['{', '}']
  | .record (m :: ms) => '{' :: renderMemberLines (level + 1) (m :: ms) ++ freshLine level ++ ['}']

def renderItemLines (level : Nat) : List Value → List Char
  | [] => []
  | [v] => freshLine level ++ v.renderLines level
  | v :: w :: vs => freshLine level ++ v.renderLines level ++ ',' :: renderItemLines level (w :: vs)

def renderMemberLines (level : Nat) : List (String × Value) → List Char
  | [] => []
  | [(name, v)] => freshLine level ++ renderText name ++ ':' :: ' ' :: v.renderLines level
  | (name, v) :: m :: ms =>
    freshLine level ++ renderText name ++ ':' :: ' ' :: v.renderLines level ++
      ',' :: renderMemberLines level (m :: ms)
end

/-- The compact text of a value. -/
def Value.toText (v : Value) : String := String.ofList v.render

/-- The text of a value over several lines. -/
def Value.toPrettyText (v : Value) : String := String.ofList (v.renderLines 0)

end SellerApi.Json
