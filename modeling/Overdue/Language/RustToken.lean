/-
The tokens of Rust that are more than a spelling.

Most of them are patterns. Strings, numbers with a fraction and the insides of comments are found by a
scanner, because where they end depends on more than their own characters: a raw string ends with as
many hashes as it started with, block comments nest, and a point after a number belongs to it only if
no name follows.
-/
import Overdue.Syntax.Rule
import Overdue.Text.Name

set_option autoImplicit false

namespace Overdue.Language.Rust

open Overdue.Syntax Overdue.Text

/-! ## Names -/

/-- The characters that can start a name. -/
def nameStart : CharSet := .ofRanges ((0x5f, 0x5f) :: nameStartRanges)

/-- The characters that can continue a name. -/
def namePart : CharSet :=
  .ofRanges (((CharSet.mk wordRanges).diff ⟨nameBarredRanges⟩).ranges ++ nameExtraRanges)

/-- A name, which may be marked as raw. -/
def name : Pattern := .all [.opt (.text "r#"), .one nameStart, .many (.one namePart)]

/-- A name that stands for something in a macro. -/
def metavariable : Pattern :=
  let letter := [(0x41, 0x5a), (0x5f, 0x5f), (0x61, 0x7a)]
  .all [.text "$", .one (.ofRanges letter), .many (.one (.ofRanges ((0x30, 0x39) :: letter)))]

/-! ## Whole numbers -/

/-- The types that may follow the digits of a number. -/
def numberTypes : List String :=
  ["u8", "i8", "u16", "i16", "u32", "i32", "u64", "i64", "u128", "i128", "isize", "usize", "f32",
    "f64"]

/-- A whole number. -/
def wholeNumber : Pattern :=
  .seq
    (.any [
      .seq .digit (.many (.oneOf "0123456789_")),
      .seq (.text "0x") (.repeat1 (.oneOf "0123456789abcdefABCDEF_")),
      .seq (.text "0b") (.repeat1 (.oneOf "01_")),
      .seq (.text "0o") (.repeat1 (.oneOf "01234567_"))])
    (.opt (.any (numberTypes.map .text)))

/-! ## Characters and strings -/

/-- A backslash and what it stands for together with. -/
def escape : Pattern :=
  .seq (.text "\\") (.any [
    .noneOf "xu",
    .seq (.text "u") (.times 4 .hexDigit),
    .all [.text "u\x7b", .repeat1 .hexDigit, .text "\x7d"],
    .seq (.text "x") (.times 2 .hexDigit)])

/-- A character or a byte. -/
def charLiteral : Pattern :=
  .all [.opt (.text "b"), .text "'", .opt (.choice escape (.noneOf "\\'")), .text "'"]

/-- The start of a string. -/
def stringStart : Pattern := .seq (.opt (.oneOf "bc")) (.text "\"")

/-! ## Other patterns -/

/-- The rest of a line. -/
def restOfLine : Pattern := .many (.noneOf "\n")

/-- A line at the start that names an interpreter. -/
def shebang : Pattern :=
  .all [.text "#!", .many (.oneOf "\x0d\x0c\x09\x0b "),
    .opt (.seq (.noneOf "[\n") restOfLine), .text "\n"]

/-- What separates the copies of a repetition in a macro. -/
def repetitionSeparator : Pattern := .repeat1 (.noneOf "+*?")

/-! ## Comments -/

/-- Where the inside of a block comment has come to. -/
inductive BlockState where
  | plain
  | afterSlash
  | afterStar

/-- The character that the lowest byte of a character is. Block comments are read by that byte. -/
def lowByte (c : Char) : Char := Char.ofNat (c.toNat % 256)

/-- Where the inside of a block comment ends that is open so many times: before the pair of characters
that closes it, or else where such a pair could last have started or a slash last ended. -/
def insideEnd : Nat → BlockState → Nat → Option Nat → List Char → Nat
  | _, _, here, stop, [] => stop.getD here
  | 0, _, here, stop, _ => stop.getD here
  | depth + 1, state, here, stop, c :: cs =>
    let byte := lowByte c
    let stop := match state with
      | .plain => some here
      | .afterSlash => stop
      | .afterStar => if byte = '*' then some here else stop
    let (depth, state) : Nat × BlockState := match state with
      | .plain =>
        (depth + 1, if byte = '/' then .afterSlash else if byte = '*' then .afterStar else .plain)
      | .afterSlash => (if byte = '*' then depth + 2 else depth + 1, .plain)
      | .afterStar =>
        if byte = '*' then (depth + 1, .afterStar)
        else (if byte = '/' then depth else depth + 1, .plain)
    let stop := if byte = '/' && depth ≠ 0 then some (here + 1) else stop
    insideEnd depth state (here + 1) stop cs

/-- The length of the inside of a block comment, if it has one. -/
def insideLength? (cs : List Char) : Option Nat :=
  match cs with
  | [] => some 0
  | c :: rest =>
    match lowByte c with
    | '*' => if rest.head? = some '/' then none else some (insideEnd 1 .afterStar 1 none rest)
    | '/' => some (insideEnd 1 .afterSlash 1 none rest)
    | _ => some (insideEnd 1 .plain 1 none rest)

/-- The length of the rest of a line together with its end. -/
def lineLength (cs : List Char) : Nat :=
  let n := (cs.takeWhile (· != '\n')).length
  if n < cs.length then n + 1 else n

/-! ## Numbers with a fraction -/

/-- A digit or an underscore. -/
def isNumberPart (c : Char) : Bool := c = '_' || c.isDigit

/-- How many characters of a class a text starts with. -/
def countWhile (p : Char → Bool) (cs : List Char) : Nat := (cs.takeWhile p).length

/-- The suffix that names the type of a number: a letter, which only counts with digits after it. -/
def suffixLength : List Char → Nat
  | c :: cs =>
    if c = 'u' || c = 'i' || c = 'f' then
      let n := countWhile Char.isDigit cs
      if n = 0 then 0 else n + 1
    else 0
  | [] => 0

/-- The exponent of a number, if it has digits; `none` if there is a mark without digits. -/
def exponentLength? : List Char → Option Nat
  | c :: cs =>
    if c = 'e' || c = 'E' then
      let sign := match cs with
        | d :: _ => if d = '+' || d = '-' then 1 else 0
        | [] => 0
      let n := countWhile isNumberPart (cs.drop sign)
      if n = 0 then none else some (1 + sign + n)
    else some 0
  | [] => some 0

/-- The fraction of a number; `none` if there is a point that does not belong to the number, because a
letter or another point follows. -/
def fractionLength? : List Char → Option Nat
  | '.' :: cs =>
    match cs with
    | d :: _ => if d.isAlpha || d = '.' then none else some (1 + countWhile isNumberPart cs)
    | [] => some 1
  | _ => some 0

/-- The length of a number with a fraction or an exponent. -/
def floatLength? (cs : List Char) : Option Nat :=
  let whole := 1 + countWhile isNumberPart (cs.drop 1)
  match fractionLength? (cs.drop whole) with
  | none => none
  | some fraction =>
    let mantissa := whole + fraction
    match exponentLength? (cs.drop mantissa) with
    | none => some mantissa
    | some exponent =>
      if exponent = 0 && fraction = 0 then none
      else
        let n := mantissa + exponent
        some (n + suffixLength (cs.drop n))

/-! ## Strings -/

/-- The plain characters of a string; a string that is never closed has none. -/
def stringLength? (cs : List Char) : Option Nat :=
  let n := countWhile (fun c => c != '"' && c != '\\') cs
  if n = 0 || n = cs.length then none else some n

/-- The start of a raw string: its length, and the number of its hashes as a byte. -/
def rawStart? (cs : List Char) : Option (Nat × Nat) :=
  let lead := match cs with
    | 'b' :: _ | 'c' :: _ => 1
    | _ => 0
  match cs.drop lead with
  | 'r' :: after =>
    let hashes := countWhile (· == '#') after
    match after.drop hashes with
    | '"' :: _ => some (lead + hashes + 2, hashes % 256)
    | _ => none
  | _ => none

/-- The characters of a raw string up to a quote with so many hashes after it. -/
def rawLength? (hashes : Nat) : List Char → Option Nat
  | [] => none
  | c :: cs =>
    if c = '"' && (cs.take hashes).length = hashes && (cs.take hashes).all (· == '#') then some 0
    else (rawLength? hashes cs).map (· + 1)

/-! ## The scanner -/

/-- The tokens of the scanner. -/
inductive Special where
  | stringContent
  | rawStart
  | rawContent
  | rawEnd
  | float
  | outerMark
  | innerMark
  | blockContent
  | lineContent
  | lost

/-- The names of the scanner's tokens. The last one is no token: only a parser that has lost track
takes it for possible. -/
def specialNames : List String := ["string_content", "_raw_string_literal_start",
  "raw_string_literal_content", "_raw_string_literal_end", "float_literal",
  "_outer_block_doc_comment_marker", "_inner_block_doc_comment_marker", "_block_comment_content",
  "_line_doc_content", "_error_sentinel"]

/-- The number of a token of the scanner. -/
def Special.number : Special → Nat
  | stringContent => 0
  | rawStart => 1
  | rawContent => 2
  | rawEnd => 3
  | float => 4
  | outerMark => 5
  | innerMark => 6
  | blockContent => 7
  | lineContent => 8
  | lost => 9

/-- What comes after the opening mark of a block comment: the sign of a documentation comment, or the
inside. -/
def scanBlock (valid : Special → Bool) (memory : Nat) (cs : List Char) : Option Scanned :=
  let first := (cs.head?.map lowByte).getD '\x00'
  let inside : Option Scanned :=
    if valid .blockContent then
      (insideLength? cs).map fun n => ⟨Special.blockContent.number, 0, n, memory⟩
    else none
  if valid .innerMark && first = '!' then some ⟨Special.innerMark.number, 0, 1, memory⟩
  else if valid .outerMark && first = '*' then
    match cs[1]? with
    | some '/' => none
    | some '*' => inside
    | _ => some ⟨Special.outerMark.number, 0, 1, memory⟩
  else inside

/-- A string, or a number with a fraction, after blanks. -/
def scanLiteral (valid : Special → Bool) (memory : Nat) (cs : List Char) : Option Scanned :=
  let skipped := countWhile (fun c => c = ' ' || (0x09 ≤ c.toNat && c.toNat ≤ 0x0d)) cs
  let cs := cs.drop skipped
  let first := cs.headD '\x00'
  if valid .rawStart && (first = 'r' || first = 'b' || first = 'c') then
    (rawStart? cs).map fun (n, hashes) => ⟨Special.rawStart.number, skipped, n, hashes⟩
  else if valid .rawContent then
    (rawLength? memory cs).map fun n => ⟨Special.rawContent.number, skipped, n, memory⟩
  else if valid .rawEnd && first = '"' then
    some ⟨Special.rawEnd.number, skipped, min (1 + memory) cs.length, memory⟩
  else if valid .float && first.isDigit then
    (floatLength? cs).map fun n => ⟨Special.float.number, skipped, n, memory⟩
  else none

/-- The scanner: it remembers the number of hashes that the last raw string started with. -/
def scanner : Scanner := fun possible memory cs =>
  let valid := fun (s : Special) => possible s.number
  if valid .lost then none
  else if valid .blockContent || valid .innerMark || valid .outerMark then
    scanBlock valid memory cs
  else if valid .stringContent && !valid .float then
    (stringLength? cs).map fun n => ⟨Special.stringContent.number, 0, n, memory⟩
  else if valid .lineContent then
    some ⟨Special.lineContent.number, 0, lineLength cs, memory⟩
  else scanLiteral valid memory cs

end Overdue.Language.Rust
