/-
Letters without regard to case.

Two characters of the standard beyond the basic letters fold onto a basic letter: the long s onto `s`
and the sign for kelvin onto `k`. A word of basic letters is therefore compared after folding, not
after lowering.
-/

set_option autoImplicit false

namespace Overdue.Text

/-- The lower-case basic letter that a character is the same as without regard to case, or else the
character itself. -/
def foldCase (c : Char) : Char :=
  if c = '\u017f' then 's' else if c = '\u212a' then 'k' else c.toLower

/-- The rest of a text after a given word in lower case, whatever the case of its letters in the
text. -/
def dropWord? : List Char → List Char → Option (List Char)
  | [], cs => some cs
  | _ :: _, [] => none
  | w :: ws, c :: cs => if foldCase c = w then dropWord? ws cs else none

end Overdue.Text
