/-
What commands print, as text without styles. A screen reads bracketed
words as markup, so foreign text is escaped before it is printed; the
escaping is undone when it is shown, except for two traces that it leaves
on backslashes. The names of emoji between colons show as emoji, and some
control characters do not show at all.
-/
import Collation.Cli.Emoji
import Collation.Fault
import Collation.Text.Blank
import Collation.Text.Folding

namespace Collation.Cli

/-- Something printed. -/
inductive Printed where
  | line (text : String)
  | panel (title : String) (body : List String)
  | table (title : String) (columns : List String) (rows : List (List String))

-- ============================================================== markup

/-- What a bracket may be followed by for a markup tag to start there. -/
def startsTag (c : Char) : Bool :=
  ('a' ≤ c && c ≤ 'z') || c = '#' || c = '/' || c = '@'

/-- The rest of a tag, up to its closing bracket, and what follows it. No
bracket opens inside a tag. -/
def tagEnd? : List Char → Option (List Char × List Char)
  | [] => none
  | c :: rest =>
    if c = '[' then none
    else if c = ']' then some ([c], rest)
    else (tagEnd? rest).map fun (inside, after) => (c :: inside, after)

/-- The rest of a tag after its opening bracket. -/
def tag? : List Char → Option (List Char × List Char)
  | c :: rest =>
    if startsTag c then (tagEnd? rest).map fun (inside, after) => (c :: inside, after)
    else none
  | [] => none

/-- Characters put in front of the first of some pieces. -/
def glue (cs : List Char) : List (List Char) → List (List Char)
  | [] => [cs]
  | piece :: rest => (cs ++ piece) :: rest

/-- Text as it shows once escaped, in pieces that end where a tag would
start or end. What looks like a tag shows as it is, with the backslashes
before it. A bracket that opens no tag loses one backslash before it, and
a single backslash that ends the text is doubled. `fuel` bounds the number
of steps. -/
def piecesFrom : (fuel : Nat) → List Char → List (List Char)
  | 0, cs => [cs]
  | fuel + 1, cs =>
    let slashes := cs.takeWhile (· = '\\')
    match cs.dropWhile (· = '\\') with
    | [] => [if slashes.length = 1 then ['\\', '\\'] else slashes]
    | '[' :: rest =>
      match tag? rest with
      | some (inside, after) => [] :: slashes :: ('[' :: inside) :: piecesFrom fuel after
      | none => glue (slashes.drop 1 ++ ['[']) (piecesFrom fuel rest)
    | c :: rest => glue (slashes ++ [c]) (piecesFrom fuel rest)

-- =============================================================== emoji

/-- What stands before the next colon, and what follows it. No blank is
passed over. -/
def untilColon? : List Char → Option (List Char × List Char)
  | [] => none
  | c :: rest =>
    if c = ':' then some ([], rest)
    else if Text.isBlank c then none
    else (untilColon? rest).map fun (name, after) => (c :: name, after)

/-- The ends of a name that ask for one of two looks, and the character
that gives it. -/
def looks : List (List Char × Char) :=
  [(['-', 'e', 'm', 'o', 'j', 'i'], '\uFE0F'), (['-', 't', 'e', 'x', 't'], '\uFE0E')]

/-- The emoji of a name, in any case. -/
def emojiOf? (name : List Char) : Option (List Char) :=
  let (name, look) :=
    match looks.find? fun l => l.1.isSuffixOf name with
    | some (ending, look) => (name.take (name.length - ending.length), [look])
    | none => (name, [])
  (Emoji.table.lookup (Text.lower (String.ofList name)).lossy).map fun emoji => emoji.toList ++ look

/-- A piece with emoji in place of their names. A name between colons that
is no emoji's stays, with both colons. -/
def withEmoji : (fuel : Nat) → List Char → List Char
  | fuel + 1, ':' :: rest =>
    match untilColon? rest with
    | some (name, after) =>
      (emojiOf? name).getD (':' :: name ++ [':']) ++ withEmoji fuel after
    | none => ':' :: withEmoji fuel rest
  | fuel + 1, c :: rest => c :: withEmoji fuel rest
  | _, cs => cs

-- ============================================================= showing

/-- The control characters that do not show. -/
def isSilent (c : Char) : Bool := [7, 8, 11, 12, 13].contains c.toNat

/-- Foreign text as it shows. -/
def shown (text : String) : String :=
  let cs := text.toList
  let pieces := piecesFrom (cs.length + 1) cs
  String.ofList ((pieces.flatMap fun p => withEmoji p.length p).filter fun c => !isSilent c)

end Collation.Cli
