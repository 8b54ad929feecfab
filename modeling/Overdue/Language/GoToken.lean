/-
The tokens of Go that are classes of texts.
-/
import Overdue.Syntax.Rule
import Overdue.Text.Name

set_option autoImplicit false

namespace Overdue.Language.Go

open Overdue.Syntax Overdue.Text

/-! ## Names and comments -/

/-- The characters that Go does not know yet as parts of names. -/
def unknownParts : CharSet := ⟨nameRecentRanges⟩

/-- The characters that can start a name. -/
def nameStart : CharSet :=
  .ofRanges ((0x5f, 0x5f) :: ((CharSet.mk nameStartRanges).diff unknownParts).ranges)

/-- The characters that can continue a name. -/
def namePart : CharSet :=
  let word := ((CharSet.mk wordRanges).diff ⟨nameBarredRanges⟩).diff unknownParts
  .ofRanges (word.ranges ++ nameExtraRanges)

/-- A name: letters and digits of any script, a letter first. -/
def name : Pattern := .seq (.one nameStart) (.many (.one namePart))

/-- A comment to the end of the line, or up to the first closing mark. -/
def comment : Pattern :=
  .choice
    (.seq (.text "//") (.many (.noneOf "\n")))
    (.all [.text "/*", .many (.noneOf "*"), .repeat1 (.text "*"),
      .many (.all [.noneOf "/*", .many (.noneOf "*"), .repeat1 (.text "*")]), .text "/"])

/-! ## Numbers -/

/-- Digits of a class with single underscores between them. -/
def digits (digit : Pattern) : Pattern :=
  .seq digit (.many (.seq (.opt (.text "_")) digit))

/-- A decimal digit sequence. -/
def decimals : Pattern := digits .digit

/-- An optional underscore. -/
def underscore : Pattern := .opt (.text "_")

/-- A binary number. -/
def binaryNumber : Pattern :=
  .all [.text "0", .oneOf "bB", underscore, digits (.oneOf "01")]

/-- An octal number, with or without a letter. -/
def octalNumber : Pattern :=
  .all [.text "0", .opt (.oneOf "oO"), underscore, digits .octalDigit]

/-- A hexadecimal number. -/
def hexNumber : Pattern :=
  .all [.text "0", .oneOf "xX", underscore, digits .hexDigit]

/-- A decimal number without a leading zero, or zero. -/
def decimalNumber : Pattern :=
  .choice (.text "0")
    (.seq (.one (.range '1' '9')) (.opt (.seq underscore decimals)))

/-- A whole number. -/
def wholeNumber : Pattern := .any [binaryNumber, decimalNumber, octalNumber, hexNumber]

/-- The exponent of a number, after one of some letters. -/
def exponent (letters : String) : Pattern :=
  .all [.oneOf letters, .opt (.oneOf "+-"), decimals]

/-- The decimal forms of a number with a fraction or an exponent. -/
def decimalFloat : Pattern :=
  .any [
    .all [decimals, .text ".", .opt decimals, .opt (exponent "eE")],
    .seq decimals (exponent "eE"),
    .all [.text ".", decimals, .opt (exponent "eE")]]

/-- The hexadecimal forms of a number with an exponent. -/
def hexFloat : Pattern :=
  .all [.text "0", .oneOf "xX",
    .any [
      .all [underscore, digits .hexDigit, .text ".", .opt (digits .hexDigit)],
      .seq underscore (digits .hexDigit),
      .seq (.text ".") (digits .hexDigit)],
    exponent "pP"]

/-- A number with a fraction or an exponent. -/
def floatNumber : Pattern := .choice decimalFloat hexFloat

/-- An imaginary number. -/
def imaginaryNumber : Pattern :=
  .seq (.any [decimals, wholeNumber, floatNumber]) (.text "i")

/-! ## Characters and strings -/

/-- A character between single quotes. -/
def runeLiteral : Pattern :=
  .all [.text "'",
    .choice (.noneOf "'\\")
      (.seq (.text "\\") (.any [
        .seq (.text "x") (.times 2 .hexDigit),
        .times 3 .octalDigit,
        .seq (.text "u") (.times 4 .hexDigit),
        .seq (.text "U") (.times 8 .hexDigit),
        .oneOf "abfnrtv\\'\""])),
    .text "'"]

/-- An escape in an interpreted string. -/
def escape : Pattern :=
  .seq (.text "\\") (.any [
    .noneOf "xuU",
    .seq (.times 2 .digit) (.opt .digit),
    .all [.text "x", .times 2 .hexDigit, .many .hexDigit],
    .seq (.text "u") (.times 4 .hexDigit),
    .seq (.text "U") (.times 8 .hexDigit)])

/-- The plain characters of an interpreted string. -/
def interpretedContent : Pattern := .repeat1 (.noneOf "\"\n\\")

/-- The characters of a raw string. -/
def rawContent : Pattern := .many (.noneOf "\x60")

end Overdue.Language.Go
