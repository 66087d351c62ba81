import FactoryGen.Json.Printer
import FactoryGen.Output.Style

/-! Values for people to read: every item on a line of its own, members in the order
of their keys, texts between quotes but otherwise as they are. -/
namespace FactoryGen.Output

mutual

/-- A value with its members in order, its first line started by whoever asks. -/
def prettyChars (colours : Bool) (depth : Nat) : Json → List Char
  | .null => Style.dimmed.paint colours ['n', 'u', 'l', 'l']
  | .bool value =>
    Style.yellow.paint colours
      (if value then ['t', 'r', 'u', 'e'] else ['f', 'a', 'l', 's', 'e'])
  | .number value => Style.cyan.paint colours value.text.toList
  | .text value => '"' :: (Style.green.paint colours value.toList ++ ['"'])
  | .list [] => ['[', ']']
  | .list (item :: rest) =>
    '[' :: (Json.newline (depth + 1) ++ prettyChars colours (depth + 1) item ++
      prettyItems colours depth rest)
  | .object [] => ['\x7b', '\x7d']
  | .object ((key, value) :: rest) =>
    '\x7b' :: (Json.newline (depth + 1) ++
      '"' :: (Style.boldBlue.paint colours key.toList ++ '"' :: ':' :: ' ' ::
        (prettyChars colours (depth + 1) value ++ prettyMembers colours depth rest)))

def prettyItems (colours : Bool) (depth : Nat) : List Json → List Char
  | [] => Json.newline depth ++ [']']
  | item :: rest =>
    ',' :: (Json.newline (depth + 1) ++ prettyChars colours (depth + 1) item ++
      prettyItems colours depth rest)

def prettyMembers (colours : Bool) (depth : Nat) : List (String × Json) → List Char
  | [] => Json.newline depth ++ ['\x7d']
  | (key, value) :: rest =>
    ',' :: (Json.newline (depth + 1) ++
      '"' :: (Style.boldBlue.paint colours key.toList ++ '"' :: ':' :: ' ' ::
        (prettyChars colours (depth + 1) value ++ prettyMembers colours depth rest)))

end

/-- A value for people to read. -/
def pretty (colours : Bool) (value : Json) : String :=
  String.ofList (prettyChars colours 0 value.sorted)

end FactoryGen.Output
