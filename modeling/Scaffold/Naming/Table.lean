import Scaffold.Naming.Plural
import Scaffold.Unicode.Alphabetic
import Scaffold.Unicode.Basic
import Scaffold.Unicode.Lowercase
/-!
# Naming.Table — the table of an entity that names none

The entity's name in snake case, with its last word in the plural.

A name is read as words.  A word ends at a separator, that is, at a character that is neither a letter nor a number,
and before a capital that stands next to a lower-case letter: `BlogPost` is `blog_post`, `HTTPServer` is
`http_server`.  Separators are written as one underscore; those at the two ends are dropped.

The neighbours of a character are found by its offset in bytes, which is its place in the name as long as the name is
ASCII.  After a wider character the neighbours lie further on, so `CaféBar` is `caf_é_bar`.

The last word is handed over with the underscore before it, so a word is recognised as a whole only when it is the whole
name: `Ox` has the table `oxen`, `MyOx` the table `my_oxes`.
-/
namespace Scaffold.Naming

open Unicode (isAlphabetic isNumeric isLowercase)

/-- Separators stand between words: all characters but letters and numbers. -/
def isSeparator (c : Char) : Bool := !(isAlphabetic c || isNumeric c)

/-- A capital may begin a word.  Whatever is no lower-case ASCII letter counts as one, digits included. -/
def isCapital (c : Char) : Bool := !c.isLower

/-- Whether the character after or before place `i` of the name is a lower-case letter. -/
def besideLower (name : List Char) (i : Nat) : Bool :=
  (name[i + 1]?).any isLowercase || (name[i - 1]?).any isLowercase

/-- The name without the separators at its end. -/
def dropEndSeparators (name : List Char) : List Char :=
  (name.reverse.dropWhile isSeparator).reverse

/-- Writes the rest of a name, of which `offset` bytes are done.  `fresh` says that a word begins here: at the start
of the name or after a separator. -/
def snakeFrom (name : List Char) (offset : Nat) (fresh : Bool) : List Char → List Char
  | [] => []
  | c :: rest =>
    let next := offset + c.utf8Size
    if isSeparator c then
      if fresh then snakeFrom name next true rest else '_' :: snakeFrom name next true rest
    else if !fresh && isCapital c && besideLower name offset then
      '_' :: c.toLower :: snakeFrom name next false rest
    else
      c.toLower :: snakeFrom name next false rest

/-- The name in snake case.  Only ASCII letters change their case. -/
def toSnake (name : List Char) : List Char :=
  snakeFrom name 0 true (dropEndSeparators name)

/-! ## The last word -/

/-- Cuts a text before its last underscore: the front, and the underscore with what follows.  A text without one is
all back. -/
def cutLastWord (text : List Char) : List Char × List Char :=
  match text.reverse.span (· != '_') with
  | (_, []) => ([], text)
  | (back, _ :: front) => (front.reverse, '_' :: back.reverse)

def defaultTable (entity : String) : String :=
  let (front, last) := cutLastWord (toSnake entity.toList)
  String.ofList (front ++ toPlural last)

end Scaffold.Naming
