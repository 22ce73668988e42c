/-
# ChipEight.Text.ShellWords -- words with quotation marks

The argument of a command is taken apart into words the way a shell does it. Blanks, tabs and line
ends separate words, except:

* between single quotation marks, where every character stands for itself;
* between double quotation marks, where a backslash takes away the meaning of a double mark or a
  backslash behind it, and stands for itself otherwise;
* behind a backslash outside of marks.

Marks may surround a part of a word, and a word that is nothing but two marks is empty.
-/
import ChipEight.Text.Basic

namespace ChipEight.Text

/-- Why a text is not taken apart. -/
inductive ShellError where
  /-- A quotation mark is not closed. -/
  | openQuotation
  /-- The text ends with a backslash that has a meaning. -/
  | openEscape
  deriving DecidableEq, Repr

/-- The words for the error. -/
def ShellError.message : ShellError → Text
  | .openQuotation => "No closing quotation".toList
  | .openEscape => "No escaped character".toList

/-- Where in a word the reader is. -/
inductive ShellMode where
  /-- Between two words. -/
  | between
  /-- In a word, outside of quotation marks. -/
  | plain
  /-- Behind this quotation mark. -/
  | quoted (mark : Char)
  /-- Behind a backslash outside of quotation marks. -/
  | escaped
  /-- Behind a backslash and this quotation mark. -/
  | escapedIn (mark : Char)
  deriving DecidableEq, Repr

/-- A character that separates words. -/
def isShellBlank (c : Char) : Bool :=
  c == ' ' || c == '\t' || c == '\r' || c == '\n'

/-- A quotation mark. -/
def isShellMark (c : Char) : Bool :=
  c == '\'' || c == '"'

/-- The words of a text. `word` holds the characters of the current word, last one first. -/
def shellWordsFrom (mode : ShellMode) (word : Text) : Text → Except ShellError (List Text)
  | [] =>
    match mode with
    | .between => .ok []
    | .plain => .ok [word.reverse]
    | .quoted _ => .error .openQuotation
    | .escaped | .escapedIn _ => .error .openEscape
  | c :: cs =>
    match mode with
    | .between =>
      if isShellBlank c then shellWordsFrom .between [] cs
      else if c == '\\' then shellWordsFrom .escaped [] cs
      else if isShellMark c then shellWordsFrom (.quoted c) [] cs
      else shellWordsFrom .plain [c] cs
    | .plain =>
      if isShellBlank c then
        match shellWordsFrom .between [] cs with
        | .ok words => .ok (word.reverse :: words)
        | .error e => .error e
      else if c == '\\' then shellWordsFrom .escaped word cs
      else if isShellMark c then shellWordsFrom (.quoted c) word cs
      else shellWordsFrom .plain (c :: word) cs
    | .quoted mark =>
      if c == mark then shellWordsFrom .plain word cs
      else if c == '\\' && mark == '"' then shellWordsFrom (.escapedIn mark) word cs
      else shellWordsFrom (.quoted mark) (c :: word) cs
    | .escaped => shellWordsFrom .plain (c :: word) cs
    | .escapedIn mark =>
      if c == '\\' || c == mark then shellWordsFrom (.quoted mark) (c :: word) cs
      else shellWordsFrom (.quoted mark) (c :: '\\' :: word) cs

/-- The words of a text. -/
def shellWords (s : Text) : Except ShellError (List Text) :=
  shellWordsFrom .between [] s

end ChipEight.Text
