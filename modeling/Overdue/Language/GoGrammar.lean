/-
The grammar of Go.

The grammar accepts whole files and also fragments of them: statements may stand at the top level, and
a package clause is not required. A newline is a token where a statement or a member can end there,
and blank elsewhere; nothing but an explicit semicolon or a newline ends a statement, so the last
statement of a file needs one too, while a function at the very end does not.
-/
import Overdue.Language.GoToken
import Overdue.Syntax.Tables

set_option autoImplicit false

namespace Overdue.Language.Go

open Overdue.Syntax Overdue.Syntax.Rule

/-! ## Vocabulary -/

/-- Spellings can be written where rules are expected. -/
local instance : Coe String Rule := ⟨Rule.text⟩

/-- What ends a statement. -/
def terminator : Rule := any [token { shape := .pattern (.text "\n") }, text ";", text "\x00"]

/-- Items with commas between them. -/
def commas1 (r : Rule) : Rule := sepBy1 "," r

/-- Items with commas between them, or nothing. -/
def commas (r : Rule) : Rule := opt (commas1 r)

/-- Operators that multiply. -/
def multiplicative : List String := ["*", "/", "%", "<<", ">>", "&", "&^"]

/-- Operators that add. -/
def additive : List String := ["+", "-", "|", "^"]

/-- Operators that compare. -/
def comparative : List String := ["==", "!=", "<", "<=", ">", ">="]

/-- Operators that assign. -/
def assigning : List String := (multiplicative ++ additive).map (· ++ "=") ++ ["="]

/-- A named name: an identifier that shows under a kind of its own. -/
def nameAs (kind : String) : Rule := shownAs kind true (ref "identifier")

/-- A label. -/
def labelName : Rule := nameAs "label_name"

/-- A binary operation. -/
def binary (level : Int) (operator : Rule) : Rule :=
  prec level (some .left) (all [field "left" (ref "_expression"), field "operator" operator,
    field "right" (ref "_expression")])

/-- What a function gives back. -/
def result : Rule :=
  field "result" (opt (any [ref "parameter_list", ref "_simple_type"]))

/-- Members between braces with terminators between them. -/
def members (r : Rule) : Rule :=
  opt (all [r, many (all [terminator, r]), opt terminator])

/-! ## Files and declarations -/

/-- The rules for files and declarations. -/
def declarationRules : List (String × Rule) := [
  ("source_file", all [
    many (any [
      all [ref "_statement", terminator],
      all [ref "_top_level_declaration", terminator]]),
    opt (ref "_top_level_declaration")]),
  ("_top_level_declaration", any [ref "package_clause", ref "function_declaration",
    ref "method_declaration", ref "import_declaration"]),
  ("package_clause", all ["package", ref "_package_identifier"]),
  ("import_declaration", all ["import", any [ref "import_spec", ref "import_spec_list"]]),
  ("import_spec", all [
    opt (field "name" (any [ref "dot", ref "blank_identifier", ref "_package_identifier"])),
    field "path" (ref "_string_literal")]),
  ("dot", ".")]

/-- The rules for declarations that follow the blank identifier. -/
def memberRules : List (String × Rule) := [
  ("import_spec_list", all ["(",
    opt (all [ref "import_spec", many (all [terminator, ref "import_spec"]), opt terminator]),
    ")"]),
  ("_declaration", any [ref "const_declaration", ref "type_declaration", ref "var_declaration"]),
  ("const_declaration", all ["const", any [
    ref "const_spec",
    all ["(", many (all [ref "const_spec", terminator]), ")"]]]),
  ("const_spec", prec 0 (some .left) (all [
    field "name" (commas1 (ref "identifier")),
    opt (all [opt (field "type" (ref "_type")), "=", field "value" (ref "expression_list")])])),
  ("var_declaration", all ["var", any [ref "var_spec", ref "var_spec_list"]]),
  ("var_spec", all [
    commas1 (field "name" (ref "identifier")),
    any [
      all [field "type" (ref "_type"),
        opt (all ["=", field "value" (ref "expression_list")])],
      all ["=", field "value" (ref "expression_list")]]]),
  ("var_spec_list", all ["(", many (all [ref "var_spec", terminator]), ")"]),
  ("function_declaration", prec 1 (some .right) (all ["func",
    field "name" (ref "identifier"),
    field "type_parameters" (opt (ref "type_parameter_list")),
    field "parameters" (ref "parameter_list"),
    result,
    field "body" (opt (ref "block"))])),
  ("method_declaration", prec 1 (some .right) (all ["func",
    field "receiver" (ref "parameter_list"),
    field "name" (ref "_field_identifier"),
    field "parameters" (ref "parameter_list"),
    result,
    field "body" (opt (ref "block"))])),
  ("type_parameter_list", all ["[", commas1 (ref "type_parameter_declaration"), opt ",", "]"]),
  ("type_parameter_declaration", all [
    commas1 (field "name" (ref "identifier")),
    field "type" (shownAs "type_constraint" true (ref "type_elem"))]),
  ("parameter_list", all ["(",
    opt (all [
      commas (any [ref "parameter_declaration", ref "variadic_parameter_declaration"]),
      opt ","]),
    ")"]),
  ("parameter_declaration", all [
    commas (field "name" (ref "identifier")),
    field "type" (ref "_type")]),
  ("variadic_parameter_declaration", all [
    field "name" (opt (ref "identifier")), "...", field "type" (ref "_type")]),
  ("type_alias", all [
    field "name" (ref "_type_identifier"), "=", field "type" (ref "_type")]),
  ("type_declaration", all ["type", any [
    ref "type_spec",
    ref "type_alias",
    all ["(", many (all [any [ref "type_spec", ref "type_alias"], terminator]), ")"]]]),
  ("type_spec", all [
    field "name" (ref "_type_identifier"),
    field "type_parameters" (opt (ref "type_parameter_list")),
    field "type" (ref "_type")]),
  ("expression_list", commas1 (ref "_expression"))]

/-! ## Types -/

/-- The rules for types. -/
def typeRules : List (String × Rule) := [
  ("_type", any [ref "_simple_type", ref "parenthesized_type"]),
  ("parenthesized_type", all ["(", ref "_type", ")"]),
  ("_simple_type", any [favour (-1) (ref "_type_identifier"), ref "generic_type",
    ref "qualified_type", ref "pointer_type", ref "struct_type", ref "interface_type",
    ref "array_type", ref "slice_type", ref "map_type", ref "channel_type", ref "function_type",
    ref "negated_type"]),
  ("generic_type", favour 1 (all [
    field "type" (any [ref "_type_identifier", ref "qualified_type", ref "negated_type"]),
    field "type_arguments" (ref "type_arguments")])),
  ("type_arguments", favour 2 (all ["[", commas1 (ref "type_elem"), opt ",", "]"])),
  ("pointer_type", prec 6 none (all ["*", ref "_type"])),
  ("array_type", prec 0 (some .right) (all [
    "[", field "length" (ref "_expression"), "]", field "element" (ref "_type")])),
  ("implicit_length_array_type", all ["[", "...", "]", field "element" (ref "_type")]),
  ("slice_type", prec 0 (some .right) (all ["[", "]", field "element" (ref "_type")])),
  ("struct_type", all ["struct", ref "field_declaration_list"]),
  ("negated_type", prec 0 (some .left) (all ["~", ref "_type"])),
  ("field_declaration_list", braces (members (ref "field_declaration"))),
  ("field_declaration", all [
    any [
      all [commas1 (field "name" (ref "_field_identifier")), field "type" (ref "_type")],
      all [opt "*",
        field "type" (any [ref "_type_identifier", ref "qualified_type", ref "generic_type"])]],
    field "tag" (opt (ref "_string_literal"))]),
  ("interface_type", all ["interface", braces (members (ref "_interface_elem"))]),
  ("_interface_elem", any [ref "method_elem", ref "type_elem"]),
  ("method_elem", all [
    field "name" (ref "_field_identifier"),
    field "parameters" (ref "parameter_list"),
    result]),
  ("type_elem", sepBy1 "|" (ref "_type")),
  ("map_type", prec 0 (some .right) (all [
    "map", "[", field "key" (ref "_type"), "]", field "value" (ref "_type")])),
  ("channel_type", prec 0 (some .left) (any [
    all ["chan", field "value" (ref "_type")],
    all ["chan", "<-", field "value" (ref "_type")],
    prec 6 none (all ["<-", "chan", field "value" (ref "_type")])])),
  ("function_type", prec 0 (some .right) (all ["func",
    field "parameters" (ref "parameter_list"),
    result]))]

/-! ## Statements -/

/-- The rules for statements. -/
def statementRules : List (String × Rule) := [
  ("block", braces (opt (ref "_statement_list"))),
  ("_statement_list", any [
    all [ref "_statement",
      many (all [terminator, ref "_statement"]),
      opt (all [terminator,
        opt (shownAs "labeled_statement" true (ref "empty_labeled_statement"))])],
    shownAs "labeled_statement" true (ref "empty_labeled_statement")]),
  ("_statement", any [ref "_declaration", ref "_simple_statement", ref "return_statement",
    ref "go_statement", ref "defer_statement", ref "if_statement", ref "for_statement",
    ref "expression_switch_statement", ref "type_switch_statement", ref "select_statement",
    ref "labeled_statement", ref "fallthrough_statement", ref "break_statement",
    ref "continue_statement", ref "goto_statement", ref "block", ref "empty_statement"]),
  ("empty_statement", ";"),
  ("_simple_statement", any [ref "expression_statement", ref "send_statement",
    ref "inc_statement", ref "dec_statement", ref "assignment_statement",
    ref "short_var_declaration"]),
  ("expression_statement", ref "_expression"),
  ("send_statement", all [
    field "channel" (ref "_expression"), "<-", field "value" (ref "_expression")]),
  ("receive_statement", all [
    opt (all [field "left" (ref "expression_list"), any ["=", ":="]]),
    field "right" (ref "_expression")]),
  ("inc_statement", all [ref "_expression", "++"]),
  ("dec_statement", all [ref "_expression", "--"]),
  ("assignment_statement", all [
    field "left" (ref "expression_list"),
    field "operator" (texts assigning),
    field "right" (ref "expression_list")]),
  ("short_var_declaration", all [
    field "left" (ref "expression_list"), ":=", field "right" (ref "expression_list")]),
  ("labeled_statement", all [field "label" labelName, ":", ref "_statement"]),
  ("empty_labeled_statement", all [field "label" labelName, ":"]),
  ("fallthrough_statement", prec 0 (some .left) "fallthrough"),
  ("break_statement", all ["break", opt labelName]),
  ("continue_statement", all ["continue", opt labelName]),
  ("goto_statement", all ["goto", labelName]),
  ("return_statement", all ["return", opt (ref "expression_list")]),
  ("go_statement", all ["go", ref "_expression"]),
  ("defer_statement", all ["defer", ref "_expression"]),
  ("if_statement", all ["if",
    opt (all [field "initializer" (ref "_simple_statement"), ";"]),
    field "condition" (ref "_expression"),
    field "consequence" (ref "block"),
    opt (all ["else", field "alternative" (any [ref "block", ref "if_statement"])])]),
  ("for_statement", all ["for",
    opt (any [ref "_expression", ref "for_clause", ref "range_clause"]),
    field "body" (ref "block")]),
  ("for_clause", all [
    field "initializer" (opt (ref "_simple_statement")), ";",
    field "condition" (opt (ref "_expression")), ";",
    field "update" (opt (ref "_simple_statement"))]),
  ("range_clause", all [
    opt (all [field "left" (ref "expression_list"), any ["=", ":="]]),
    "range",
    field "right" (ref "_expression")]),
  ("expression_switch_statement", all ["switch",
    opt (all [field "initializer" (ref "_simple_statement"), ";"]),
    field "value" (opt (ref "_expression")),
    braces (many (any [ref "expression_case", ref "default_case"]))]),
  ("expression_case", all ["case", field "value" (ref "expression_list"), ":",
    opt (ref "_statement_list")]),
  ("default_case", all ["default", ":", opt (ref "_statement_list")]),
  ("type_switch_statement", all ["switch", ref "_type_switch_header",
    braces (many (any [ref "type_case", ref "default_case"]))]),
  ("_type_switch_header", all [
    opt (all [field "initializer" (ref "_simple_statement"), ";"]),
    opt (all [field "alias" (ref "expression_list"), ":="]),
    field "value" (ref "_expression"), ".", "(", "type", ")"]),
  ("type_case", all ["case", field "type" (commas1 (ref "_type")), ":",
    opt (ref "_statement_list")]),
  ("select_statement", all ["select",
    braces (many (any [ref "communication_case", ref "default_case"]))]),
  ("communication_case", all ["case",
    field "communication" (any [ref "send_statement", ref "receive_statement"]), ":",
    opt (ref "_statement_list")])]

/-! ## Expressions -/

/-- The two built-in functions that take a type. -/
def typeTaking : Rule := shownAs "identifier" true (any ["new", "make"])

/-- The rules for expressions. -/
def expressionRules : List (String × Rule) := [
  ("_expression", any [ref "unary_expression", ref "binary_expression", ref "selector_expression",
    ref "index_expression", ref "slice_expression", ref "call_expression",
    ref "type_assertion_expression", ref "type_conversion_expression",
    ref "type_instantiation_expression", ref "identifier", typeTaking, ref "composite_literal",
    ref "func_literal", ref "_string_literal", ref "int_literal", ref "float_literal",
    ref "imaginary_literal", ref "rune_literal", ref "nil", ref "true", ref "false", ref "iota",
    ref "parenthesized_expression"]),
  ("parenthesized_expression", all ["(", ref "_expression", ")"]),
  ("call_expression", prec 7 none (any [
    all [field "function" typeTaking,
      field "arguments" (shownAs "argument_list" true (ref "special_argument_list"))],
    all [field "function" (ref "_expression"),
      field "type_arguments" (opt (ref "type_arguments")),
      field "arguments" (ref "argument_list")]])),
  ("variadic_argument", prec 0 (some .right) (all [ref "_expression", "..."])),
  ("special_argument_list", all ["(",
    opt (all [ref "_type", many (all [",", ref "_expression"]), opt ","]), ")"]),
  ("argument_list", all ["(",
    opt (all [commas1 (any [ref "_expression", ref "variadic_argument"]), opt ","]), ")"]),
  ("selector_expression", prec 7 none (all [
    field "operand" (ref "_expression"), ".", field "field" (ref "_field_identifier")])),
  ("index_expression", prec 7 none (all [
    field "operand" (ref "_expression"), "[", field "index" (ref "_expression"), "]"])),
  ("slice_expression", prec 7 none (all [
    field "operand" (ref "_expression"), "[",
    any [
      all [field "start" (opt (ref "_expression")), ":", field "end" (opt (ref "_expression"))],
      all [field "start" (opt (ref "_expression")), ":", field "end" (ref "_expression"), ":",
        field "capacity" (ref "_expression")]],
    "]"])),
  ("type_assertion_expression", prec 7 none (all [
    field "operand" (ref "_expression"), ".", "(", field "type" (ref "_type"), ")"])),
  ("type_conversion_expression", favour (-1) (all [
    field "type" (ref "_type"), "(", field "operand" (ref "_expression"), opt ",", ")"])),
  ("type_instantiation_expression", favour (-1) (all [
    field "type" (ref "_type"), "[", commas1 (ref "_type"), opt ",", "]"])),
  ("composite_literal", prec (-1) none (all [
    field "type" (any [ref "map_type", ref "slice_type", ref "array_type",
      ref "implicit_length_array_type", ref "struct_type", ref "_type_identifier",
      ref "generic_type", ref "qualified_type"]),
    field "body" (ref "literal_value")])),
  ("literal_value", braces
    (opt (all [commas (any [ref "literal_element", ref "keyed_element"]), opt ","]))),
  ("literal_element", any [ref "_expression", ref "literal_value"]),
  ("keyed_element", all [
    field "key" (ref "literal_element"), ":", field "value" (ref "literal_element")]),
  ("func_literal", all ["func",
    field "parameters" (ref "parameter_list"),
    result,
    field "body" (ref "block")]),
  ("unary_expression", prec 6 none (all [
    field "operator" (texts ["+", "-", "!", "^", "*", "&", "<-"]),
    field "operand" (ref "_expression")])),
  ("binary_expression", any [
    binary 5 (texts multiplicative),
    binary 4 (texts additive),
    binary 3 (texts comparative),
    binary 2 "&&",
    binary 1 "||"]),
  ("qualified_type", all [
    field "package" (ref "_package_identifier"), ".", field "name" (ref "_type_identifier")])]

/-! ## Names and literals -/

/-- A definition by a pattern. -/
def patterned (pattern : Pattern) : Definition := .token { shape := .pattern pattern }

/-- A word with a kind of its own. -/
def wordToken (spelling : String) : Definition := .token { shape := .spelled spelling }

/-- The definitions of names and literals. -/
def literals : List (String × Definition) := [
  ("identifier", patterned name),
  ("_type_identifier", .rule (nameAs "type_identifier")),
  ("_field_identifier", .rule (nameAs "field_identifier")),
  ("_package_identifier", .rule (nameAs "package_identifier")),
  ("_string_literal", .rule (any [ref "raw_string_literal", ref "interpreted_string_literal"])),
  ("raw_string_literal", .rule (all ["\x60",
    shownAs "raw_string_literal_content" true
      (token { shape := .pattern rawContent, priority := 1 }),
    "\x60"])),
  ("interpreted_string_literal", .rule (all ["\"",
    many (any [
      shownAs "interpreted_string_literal_content" true
        (token { shape := .pattern interpretedContent, immediate := true, priority := 1 }),
      ref "escape_sequence"]),
    token { shape := .spelled "\"", immediate := true }])),
  ("escape_sequence", .token { shape := .pattern escape, immediate := true }),
  ("int_literal", patterned wholeNumber),
  ("float_literal", patterned floatNumber),
  ("imaginary_literal", patterned imaginaryNumber),
  ("rune_literal", patterned runeLiteral),
  ("nil", wordToken "nil"),
  ("true", wordToken "true"),
  ("false", wordToken "false"),
  ("iota", wordToken "iota"),
  ("comment", patterned comment)]

/-! ## The grammar -/

/-- Rules as definitions. -/
def asDefinitions (rules : List (String × Rule)) : List (String × Definition) :=
  rules.map fun (name, body) => (name, .rule body)

/-- The grammar of Go. -/
def grammar : Grammar :=
  { definitions :=
      asDefinitions declarationRules ++
      [("blank_identifier", wordToken "_")] ++
      asDefinitions (memberRules ++ typeRules ++ statementRules ++ expressionRules) ++ literals
    scannerTokens := []
    scanner := fun _ _ _ => none
    extras := ["comment"]
    word := "identifier"
    inlined := ["_type", "_type_identifier", "_field_identifier", "_package_identifier",
      "_top_level_declaration", "_string_literal", "_interface_elem"]
    groups := ["_expression", "_type", "_simple_type", "_statement", "_simple_statement"] }

/-- The tables for Go, which are made when they are first asked for. -/
def tables : Thunk Tables := Thunk.mk fun _ => .ofGrammar grammar

end Overdue.Language.Go
