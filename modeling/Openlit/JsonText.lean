import Mathlib.Data.List.Basic

/-!
JSON values, as JavaScript holds and writes them.
-/
namespace Openlit.JsonText

/-- A value. A number is kept as the text that it is written as, and the fields
    of an object stand in the order of their enumeration. -/
inductive Json
  | null
  | bool (b : Bool)
  | number (text : String)
  | string (text : String)
  | array (items : List Json)
  | object (fields : List (String × Json))

/-! ### JSON.stringify -/

def hexDigit (n : Nat) : Char := "0123456789abcdef".toList.getD n '0'
def quotedChar (c : Char) : List Char :=
  if c = '"' then ['\\', '"']
  else if c = '\\' then ['\\', '\\']
  else if c = '\x08' then ['\\', 'b']
  else if c = '\x0c' then ['\\', 'f']
  else if c = '\n' then ['\\', 'n']
  else if c = '\r' then ['\\', 'r']
  else if c = '\t' then ['\\', 't']
  else if c.toNat < 32 then ['\\', 'u', '0', '0', hexDigit (c.toNat / 16), hexDigit (c.toNat % 16)]
  else [c]
def quoted (text : String) : List Char := '"' :: text.toList.flatMap quotedChar ++ ['"']

/-- Items with commas between them. -/
def joined : List (List Char) → List Char
  | [] => []
  | [item] => item
  | item :: items => item ++ ',' :: joined items

mutual
def written : Json → List Char
  | .null => "null".toList
  | .bool b => (if b then "true" else "false").toList
  | .number text => text.toList
  | .string text => quoted text
  | .array items => '[' :: joined (writtenItems items) ++ [']']
  | .object fields => '{' :: joined (writtenFields fields) ++ ['}']
def writtenItems : List Json → List (List Char)
  | [] => []
  | item :: items => written item :: writtenItems items
def writtenFields : List (String × Json) → List (List Char)
  | [] => []
  | (key, value) :: fields => (quoted key ++ ':' :: written value) :: writtenFields fields
end

def jsonStringify (value : Json) : String := String.ofList (written value)

end Openlit.JsonText
