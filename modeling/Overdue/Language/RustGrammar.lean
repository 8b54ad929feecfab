/-
The grammar of Rust.

The grammar accepts whole files and also fragments of them: statements may stand at the top level.
Inside the delimiters of a macro call any sequence of tokens is accepted whose delimiters match.
-/
import Overdue.Language.RustToken
import Overdue.Syntax.Tables

set_option autoImplicit false

namespace Overdue.Language.Rust

open Overdue.Syntax Overdue.Syntax.Rule

/-! ## Vocabulary -/

/-- Spellings can be written where rules are expected. -/
local instance : Coe String Rule := ⟨Rule.text⟩

/-- How tightly the kinds of expressions bind. -/
inductive Level where
  | closure
  | assign
  | range
  | or
  | and
  | comparative
  | bitor
  | bitxor
  | bitand
  | shift
  | additive
  | multiplicative
  | cast
  | unary
  | question
  | member
  | call

/-- The levels as numbers. -/
def Level.toInt : Level → Int
  | closure => -1
  | assign => 0
  | range => 1
  | or => 2
  | and => 3
  | comparative => 4
  | bitor => 5
  | bitxor => 6
  | bitand => 7
  | shift => 8
  | additive => 9
  | multiplicative => 10
  | cast => 11
  | unary => 12
  | question => 13
  | member => 14
  | call => 15

/-- A rule that binds at a level. -/
def bindAt (level : Level) (body : Rule) : Rule := prec level.toInt none body

/-- A rule that binds at a level and leans to the left. -/
def leftAt (level : Level) (body : Rule) : Rule := prec level.toInt (some .left) body

/-- The words that are types everywhere. -/
def primitiveTypes : List String := numberTypes ++ ["bool", "str", "char"]

/-- A primitive type, shown under a kind. -/
def primitive (kind : String) : Rule := shownAs kind true (texts primitiveTypes)

/-- Punctuation that may stand anywhere inside the delimiters of a macro. -/
def macroPunctuation : List String := [
  "+", "-", "*", "/", "%", "^", "!", "&", "|", "&&", "||", "<<", ">>", "+=", "-=", "*=", "/=", "%=",
  "^=", "&=", "|=", "<<=", ">>=", "=", "==", "!=", ">", "<", ">=", "<=", "@", "_", ".", "..", "...",
  "..=", ",", ";", ":", "::", "->", "=>", "#", "?"]

/-- What may stand between the copies of a repetition in a macro. -/
def separator : Rule := token { shape := .pattern repetitionSeparator }

/-- The bracket that opens type arguments, which wins over the comparison of the same spelling. -/
def openAngle : Rule := token { shape := .spelled "<", priority := 1 }

/-- A rule between round brackets. -/
def parens (inner : Rule) : Rule := all ["(", inner, ")"]

/-- A rule between square brackets. -/
def brackets (inner : Rule) : Rule := all ["[", inner, "]"]

/-- Items with commas between them, or nothing. -/
def commas (item : Rule) : Rule := sepBy "," item

/-- Items with commas between them. -/
def commas1 (item : Rule) : Rule := sepBy1 "," item

/-- Outer attributes. -/
def attributes : Rule := many (ref "attribute_item")

/-- An optional visibility. -/
def visibility : Rule := opt (ref "visibility_modifier")

/-- The name of a type. -/
def typeName : Rule := field "name" (ref "_type_identifier")

/-- Optional type parameters. -/
def typeParameters : Rule := field "type_parameters" (opt (ref "type_parameters"))

/-- An optional where clause. -/
def whereClause : Rule := opt (ref "where_clause")

/-- An optional return type. -/
def returnType : Rule := opt (all ["->", field "return_type" (ref "_type")])

/-- Alternatives for the same contents in each kind of brackets. -/
def delimited (inner : Rule) : Rule := any [parens inner, brackets inner, braces inner]

/-- The contents of a macro definition. -/
def macroBody : Rule := all [many (all [ref "macro_rule", ";"]), opt (ref "macro_rule")]

/-- A binary operation. -/
def binary (level : Level) (operator : Rule) : Rule :=
  leftAt level (all [field "left" (ref "_expression"), field "operator" operator,
    field "right" (ref "_expression")])

/-! ## Macros -/

/-- The rules for files and macro definitions. -/
def macroRules : List (String × Rule) := [
  ("source_file", all [opt (ref "shebang"), many (ref "_statement")]),
  ("_statement", any [ref "expression_statement", ref "_declaration_statement"]),
  ("empty_statement", ";"),
  ("expression_statement", any [
    all [ref "_expression", ";"],
    prec 1 none (ref "_expression_ending_with_block")]),
  ("_declaration_statement", any [ref "const_item", ref "macro_invocation",
    ref "macro_definition", ref "empty_statement", ref "attribute_item",
    ref "inner_attribute_item", ref "mod_item", ref "foreign_mod_item", ref "struct_item",
    ref "union_item", ref "enum_item", ref "type_item", ref "function_item",
    ref "function_signature_item", ref "impl_item", ref "trait_item", ref "associated_type",
    ref "let_declaration", ref "use_declaration", ref "extern_crate_declaration",
    ref "static_item"]),
  ("macro_definition", all ["macro_rules!",
    field "name" (any [ref "identifier", ref "_reserved_identifier"]),
    any [
      all ["(", macroBody, ")", ";"],
      all ["[", macroBody, "]", ";"],
      braces macroBody]]),
  ("macro_rule", all [
    field "left" (ref "token_tree_pattern"), "=>", field "right" (ref "token_tree")]),
  ("_token_pattern", any [ref "token_tree_pattern", ref "token_repetition_pattern",
    ref "token_binding_pattern", ref "metavariable", ref "_non_special_token"]),
  ("token_tree_pattern", delimited (many (ref "_token_pattern"))),
  ("token_binding_pattern", prec 1 none (all [
    field "name" (ref "metavariable"), ":", field "type" (ref "fragment_specifier")])),
  ("token_repetition_pattern", all ["$", "(", many (ref "_token_pattern"), ")",
    opt separator, texts ["+", "*", "?"]]),
  ("fragment_specifier", texts ["block", "expr", "expr_2021", "ident", "item", "lifetime",
    "literal", "meta", "pat", "pat_param", "path", "stmt", "tt", "ty", "vis"]),
  ("_tokens", any [ref "token_tree", ref "token_repetition", ref "metavariable",
    ref "_non_special_token"]),
  ("token_tree", delimited (many (ref "_tokens"))),
  ("token_repetition", all ["$", "(", many (ref "_tokens"), ")",
    opt separator, texts ["+", "*", "?"]]),
  ("_non_special_token", any [ref "_literal", ref "identifier", ref "mutable_specifier",
    ref "self", ref "super", ref "crate", primitive "primitive_type",
    prec 0 (some .right) (repeat1 (texts macroPunctuation)),
    texts ["'", "as", "async", "await", "break", "const", "continue", "default", "enum", "fn",
      "for", "gen", "if", "impl", "let", "loop", "match", "mod", "pub", "return", "static",
      "struct", "trait", "type", "union", "unsafe", "use", "where", "while"]])]

/-! ## Declarations -/

/-- The head of a function, up to its body. -/
def functionHead : Rule := all [visibility, opt (ref "function_modifiers"), "fn",
  field "name" (any [ref "identifier", ref "metavariable"]), typeParameters,
  field "parameters" (ref "parameters"), returnType, whereClause]

/-- The rules for declarations. -/
def declarationRules : List (String × Rule) := [
  ("attribute_item", all ["#", brackets (ref "attribute")]),
  ("inner_attribute_item", all ["#", "!", brackets (ref "attribute")]),
  ("attribute", all [ref "_path", opt (any [
    all ["=", field "value" (ref "_expression")],
    field "arguments" (shownAs "token_tree" true (ref "delim_token_tree"))])]),
  ("mod_item", all [visibility, "mod", field "name" (ref "identifier"),
    any [";", field "body" (ref "declaration_list")]]),
  ("foreign_mod_item", all [visibility, ref "extern_modifier",
    any [";", field "body" (ref "declaration_list")]]),
  ("declaration_list", braces (many (ref "_declaration_statement"))),
  ("struct_item", all [visibility, "struct", typeName, typeParameters, any [
    all [whereClause, field "body" (ref "field_declaration_list")],
    all [field "body" (ref "ordered_field_declaration_list"), whereClause, ";"],
    ";"]]),
  ("union_item", all [visibility, "union", typeName, typeParameters, whereClause,
    field "body" (ref "field_declaration_list")]),
  ("enum_item", all [visibility, "enum", typeName, typeParameters, whereClause,
    field "body" (ref "enum_variant_list")]),
  ("enum_variant_list", braces (all [commas (all [attributes, ref "enum_variant"]), opt ","])),
  ("enum_variant", all [visibility, field "name" (ref "identifier"),
    field "body" (opt (any [ref "field_declaration_list", ref "ordered_field_declaration_list"])),
    opt (all ["=", field "value" (ref "_expression")])]),
  ("field_declaration_list", braces (all [commas (all [attributes, ref "field_declaration"]),
    opt ","])),
  ("field_declaration", all [visibility, field "name" (ref "_field_identifier"), ":",
    field "type" (ref "_type")]),
  ("ordered_field_declaration_list", parens (all [
    commas (all [attributes, visibility, field "type" (ref "_type")]), opt ","])),
  ("extern_crate_declaration", all [visibility, "extern", ref "crate",
    field "name" (ref "identifier"), opt (all ["as", field "alias" (ref "identifier")]), ";"]),
  ("const_item", all [visibility, "const", field "name" (ref "identifier"), ":",
    field "type" (ref "_type"), opt (all ["=", field "value" (ref "_expression")]), ";"]),
  ("static_item", all [visibility, "static", opt "ref", opt (ref "mutable_specifier"),
    field "name" (ref "identifier"), ":", field "type" (ref "_type"),
    opt (all ["=", field "value" (ref "_expression")]), ";"]),
  ("type_item", all [visibility, "type", typeName, typeParameters, whereClause, "=",
    field "type" (ref "_type"), whereClause, ";"]),
  ("function_item", all [functionHead, field "body" (ref "block")]),
  ("function_signature_item", all [functionHead, ";"]),
  ("function_modifiers", repeat1 (any ["async", "default", "const", "unsafe",
    ref "extern_modifier"])),
  ("where_clause", prec 0 (some .right) (all ["where",
    opt (all [commas1 (ref "where_predicate"), opt ","])])),
  ("where_predicate", all [
    field "left" (any [ref "lifetime", ref "_type_identifier", ref "scoped_type_identifier",
      ref "generic_type", ref "reference_type", ref "pointer_type", ref "tuple_type",
      ref "array_type", ref "higher_ranked_trait_bound", primitive "primitive_type"]),
    field "bounds" (ref "trait_bounds")]),
  ("impl_item", all [opt "unsafe", "impl", typeParameters,
    opt (all [opt "!",
      field "trait" (any [ref "_type_identifier", ref "scoped_type_identifier",
        ref "generic_type"]),
      "for"]),
    field "type" (ref "_type"), whereClause,
    any [field "body" (ref "declaration_list"), ";"]]),
  ("trait_item", all [visibility, opt "unsafe", "trait", typeName, typeParameters,
    field "bounds" (opt (ref "trait_bounds")), whereClause,
    field "body" (ref "declaration_list")]),
  ("associated_type", all ["type", typeName, typeParameters,
    field "bounds" (opt (ref "trait_bounds")), whereClause, ";"]),
  ("trait_bounds", all [":",
    sepBy1 "+" (any [ref "_type", ref "lifetime", ref "higher_ranked_trait_bound"])]),
  ("higher_ranked_trait_bound", all ["for", field "type_parameters" (ref "type_parameters"),
    field "type" (ref "_type")]),
  ("removed_trait_bound", all ["?", ref "_type"]),
  ("type_parameters", prec 1 none (all ["<",
    commas1 (all [attributes, any [ref "metavariable", ref "type_parameter",
      ref "lifetime_parameter", ref "const_parameter"]]),
    opt ",", ">"])),
  ("const_parameter", all ["const", field "name" (ref "identifier"), ":",
    field "type" (ref "_type"),
    opt (all ["=", field "value" (any [ref "block", ref "identifier", ref "_literal",
      ref "negative_literal"])])]),
  ("type_parameter", prec 1 none (all [typeName,
    opt (field "bounds" (ref "trait_bounds")),
    opt (all ["=", field "default_type" (ref "_type")])])),
  ("lifetime_parameter", prec 1 none (all [field "name" (ref "lifetime"),
    opt (field "bounds" (ref "trait_bounds"))])),
  ("let_declaration", all ["let", opt (ref "mutable_specifier"), field "pattern" (ref "_pattern"),
    opt (all [":", field "type" (ref "_type")]),
    opt (all ["=", field "value" (ref "_expression")]),
    opt (all ["else", field "alternative" (ref "block")]), ";"]),
  ("use_declaration", all [visibility, "use", field "argument" (ref "_use_clause"), ";"]),
  ("_use_clause", any [ref "_path", ref "use_as_clause", ref "use_list", ref "scoped_use_list",
    ref "use_wildcard"]),
  ("scoped_use_list", all [field "path" (opt (ref "_path")), "::", field "list" (ref "use_list")]),
  ("use_list", braces (all [commas (ref "_use_clause"), opt ","])),
  ("use_as_clause", all [field "path" (ref "_path"), "as", field "alias" (ref "identifier")]),
  ("use_wildcard", all [opt (all [opt (ref "_path"), "::"]), "*"]),
  ("parameters", parens (all [
    commas (all [opt (ref "attribute_item"), any [ref "parameter", ref "self_parameter",
      ref "variadic_parameter", "_", ref "_type"]]),
    opt ","])),
  ("self_parameter", all [opt "&", opt (ref "lifetime"), opt (ref "mutable_specifier"),
    ref "self"]),
  ("variadic_parameter", all [opt (ref "mutable_specifier"),
    opt (all [field "pattern" (ref "_pattern"), ":"]), "..."]),
  ("parameter", all [opt (ref "mutable_specifier"),
    field "pattern" (any [ref "_pattern", ref "self"]), ":", field "type" (ref "_type")]),
  ("extern_modifier", all ["extern", opt (ref "string_literal")]),
  ("visibility_modifier", any [ref "crate", all ["pub", opt (parens (any [ref "self",
    ref "super", ref "crate", all ["in", ref "_path"]]))]])]

/-! ## Types -/

/-- The rules for types. -/
def typeRules : List (String × Rule) := [
  ("_type", any [ref "abstract_type", ref "reference_type", ref "metavariable",
    ref "pointer_type", ref "generic_type", ref "scoped_type_identifier", ref "tuple_type",
    ref "unit_type", ref "array_type", ref "function_type", ref "_type_identifier",
    ref "macro_invocation", ref "never_type", ref "dynamic_type", ref "bounded_type",
    ref "removed_trait_bound", primitive "primitive_type"]),
  ("bracketed_type", all ["<", any [ref "_type", ref "qualified_type"], ">"]),
  ("qualified_type", all [field "type" (ref "_type"), "as", field "alias" (ref "_type")]),
  ("lifetime", prec 1 none (all ["'", ref "identifier"])),
  ("array_type", brackets (all [field "element" (ref "_type"),
    opt (all [";", field "length" (ref "_expression")])])),
  ("for_lifetimes", all ["for", "<", commas1 (ref "lifetime"), opt ",", ">"]),
  ("function_type", all [opt (ref "for_lifetimes"),
    bindAt .call (all [
      any [
        field "trait" (any [ref "_type_identifier", ref "scoped_type_identifier"]),
        all [opt (ref "function_modifiers"), "fn"]],
      field "parameters" (ref "parameters")]),
    returnType]),
  ("tuple_type", parens (all [commas1 (ref "_type"), opt ","])),
  ("unit_type", all ["(", ")"]),
  ("generic_function", prec 1 none (all [
    field "function" (any [ref "identifier", ref "scoped_identifier", ref "field_expression"]),
    "::", field "type_arguments" (ref "type_arguments")])),
  ("generic_type", prec 1 none (all [
    field "type" (any [ref "_type_identifier", ref "_reserved_identifier",
      ref "scoped_type_identifier"]),
    field "type_arguments" (ref "type_arguments")])),
  ("generic_type_with_turbofish", all [
    field "type" (any [ref "_type_identifier", ref "scoped_identifier"]), "::",
    field "type_arguments" (ref "type_arguments")]),
  ("bounded_type", prec (-1) (some .left) (all [
    any [ref "lifetime", ref "_type", ref "use_bounds"], "+",
    any [ref "lifetime", ref "_type", ref "use_bounds"]])),
  ("use_bounds", all ["use", openAngle,
    commas (any [ref "lifetime", ref "_type_identifier"]), opt ",", ">"]),
  ("type_arguments", all [openAngle,
    commas1 (all [any [ref "_type", ref "type_binding", ref "lifetime", ref "_literal",
      ref "block"], opt (ref "trait_bounds")]),
    opt ",", ">"]),
  ("type_binding", all [typeName, field "type_arguments" (opt (ref "type_arguments")), "=",
    field "type" (ref "_type")]),
  ("reference_type", all ["&", opt (ref "lifetime"), opt (ref "mutable_specifier"),
    field "type" (ref "_type")]),
  ("pointer_type", all ["*", any ["const", ref "mutable_specifier"],
    field "type" (ref "_type")]),
  ("never_type", "!"),
  ("abstract_type", all ["impl", opt (all ["for", ref "type_parameters"]),
    field "trait" (prec 1 none (any [ref "_type_identifier", ref "scoped_type_identifier",
      ref "removed_trait_bound", ref "generic_type", ref "function_type", ref "tuple_type",
      ref "bounded_type"]))]),
  ("dynamic_type", all ["dyn",
    field "trait" (any [ref "higher_ranked_trait_bound", ref "_type_identifier",
      ref "scoped_type_identifier", ref "generic_type", ref "function_type",
      ref "tuple_type"])])]

/-! ## Expressions -/

/-- The rules for expressions. -/
def expressionRules : List (String × Rule) := [
  ("_expression_except_range", any [ref "unary_expression", ref "reference_expression",
    ref "try_expression", ref "binary_expression", ref "assignment_expression",
    ref "compound_assignment_expr", ref "type_cast_expression", ref "call_expression",
    ref "return_expression", ref "yield_expression", ref "_literal",
    prec 0 (some .left) (ref "identifier"), primitive "identifier",
    prec 0 (some .left) (ref "_reserved_identifier"), ref "self", ref "scoped_identifier",
    ref "generic_function", ref "await_expression", ref "field_expression",
    ref "array_expression", ref "tuple_expression", prec 1 none (ref "macro_invocation"),
    ref "unit_expression", ref "break_expression", ref "continue_expression",
    ref "index_expression", ref "metavariable", ref "closure_expression",
    ref "parenthesized_expression", ref "struct_expression",
    ref "_expression_ending_with_block"]),
  ("_expression", any [ref "_expression_except_range", ref "range_expression"]),
  ("_expression_ending_with_block", any [ref "unsafe_block", ref "async_block", ref "gen_block",
    ref "try_block", ref "block", ref "if_expression", ref "match_expression",
    ref "while_expression", ref "loop_expression", ref "for_expression", ref "const_block"]),
  ("macro_invocation", all [
    field "macro" (any [ref "scoped_identifier", ref "identifier", ref "_reserved_identifier"]),
    "!", shownAs "token_tree" true (ref "delim_token_tree")]),
  ("delim_token_tree", delimited (many (ref "_delim_tokens"))),
  ("_delim_tokens", any [ref "_non_delim_token",
    shownAs "token_tree" true (ref "delim_token_tree")]),
  ("_non_delim_token", any [ref "_non_special_token", "$"]),
  ("scoped_identifier", all [
    field "path" (opt (any [ref "_path", ref "bracketed_type",
      shownAs "generic_type" true (ref "generic_type_with_turbofish")])),
    "::", field "name" (any [ref "identifier", ref "super"])]),
  ("scoped_type_identifier_in_expression_position", prec (-2) none (all [
    field "path" (opt (any [ref "_path",
      shownAs "generic_type" true (ref "generic_type_with_turbofish")])),
    "::", typeName])),
  ("scoped_type_identifier", all [
    field "path" (opt (any [ref "_path",
      shownAs "generic_type" true (ref "generic_type_with_turbofish"), ref "bracketed_type",
      ref "generic_type"])),
    "::", typeName]),
  ("range_expression", leftAt .range (any [
    all [ref "_expression", texts ["..", "...", "..="], ref "_expression"],
    all [ref "_expression", ".."],
    all ["..", ref "_expression"],
    ".."])),
  ("unary_expression", bindAt .unary (all [texts ["-", "*", "!"], ref "_expression"])),
  ("try_expression", bindAt .question (all [ref "_expression", "?"])),
  ("reference_expression", bindAt .unary (all ["&",
    any [all ["raw", any ["const", ref "mutable_specifier"]], opt (ref "mutable_specifier")],
    field "value" (ref "_expression")])),
  ("binary_expression", any [
    binary .and "&&",
    binary .or "||",
    binary .bitand "&",
    binary .bitor "|",
    binary .bitxor "^",
    binary .comparative (texts ["==", "!=", "<", "<=", ">", ">="]),
    binary .shift (texts ["<<", ">>"]),
    binary .additive (texts ["+", "-"]),
    binary .multiplicative (texts ["*", "/", "%"])]),
  ("assignment_expression", leftAt .assign (all [
    field "left" (ref "_expression"), "=", field "right" (ref "_expression")])),
  ("compound_assignment_expr", leftAt .assign (all [
    field "left" (ref "_expression"),
    field "operator" (texts ["+=", "-=", "*=", "/=", "%=", "&=", "|=", "^=", "<<=", ">>="]),
    field "right" (ref "_expression")])),
  ("type_cast_expression", leftAt .cast (all [
    field "value" (ref "_expression"), "as", field "type" (ref "_type")])),
  ("return_expression", any [
    prec 0 (some .left) (all ["return", ref "_expression"]),
    prec (-1) none "return"]),
  ("yield_expression", any [
    prec 0 (some .left) (all ["yield", ref "_expression"]),
    prec (-1) none "yield"]),
  ("call_expression", bindAt .call (all [
    field "function" (ref "_expression_except_range"), field "arguments" (ref "arguments")])),
  ("arguments", parens (all [commas (all [attributes, ref "_expression"]), opt ","])),
  ("array_expression", brackets (all [attributes, any [
    all [ref "_expression", ";", field "length" (ref "_expression")],
    all [commas (all [attributes, ref "_expression"]), opt ","]]])),
  ("parenthesized_expression", parens (ref "_expression")),
  ("tuple_expression", parens (all [attributes, all [ref "_expression", ","],
    many (all [ref "_expression", ","]), opt (ref "_expression")])),
  ("unit_expression", all ["(", ")"]),
  ("struct_expression", all [
    field "name" (any [ref "_type_identifier",
      shownAs "scoped_type_identifier" true (ref "scoped_type_identifier_in_expression_position"),
      ref "generic_type_with_turbofish"]),
    field "body" (ref "field_initializer_list")]),
  ("field_initializer_list", braces (all [
    commas (any [ref "shorthand_field_initializer", ref "field_initializer",
      ref "base_field_initializer"]),
    opt ","])),
  ("shorthand_field_initializer", all [attributes, ref "identifier"]),
  ("field_initializer", all [attributes,
    field "field" (any [ref "_field_identifier", ref "integer_literal"]), ":",
    field "value" (ref "_expression")]),
  ("base_field_initializer", all ["..", ref "_expression"]),
  ("if_expression", prec 0 (some .right) (all ["if", field "condition" (ref "_condition"),
    field "consequence" (ref "block"), opt (field "alternative" (ref "else_clause"))])),
  ("let_condition", all ["let", field "pattern" (ref "_pattern"), "=",
    field "value" (leftAt .and (ref "_expression"))]),
  ("_let_chain", leftAt .and (any [
    all [ref "_let_chain", "&&", ref "let_condition"],
    all [ref "_let_chain", "&&", ref "_expression"],
    all [ref "let_condition", "&&", ref "_expression"],
    all [ref "let_condition", "&&", ref "let_condition"],
    all [ref "_expression", "&&", ref "let_condition"]])),
  ("_condition", any [ref "_expression", ref "let_condition",
    shownAs "let_chain" true (ref "_let_chain")]),
  ("else_clause", all ["else", any [ref "block", ref "if_expression"]]),
  ("match_expression", all ["match", field "value" (ref "_expression"),
    field "body" (ref "match_block")]),
  ("match_block", braces (opt (all [many (ref "match_arm"),
    shownAs "match_arm" true (ref "last_match_arm")]))),
  ("match_arm", prec 0 (some .right) (all [
    many (any [ref "attribute_item", ref "inner_attribute_item"]),
    field "pattern" (ref "match_pattern"), "=>",
    any [
      all [field "value" (ref "_expression"), ","],
      field "value" (prec 1 none (ref "_expression_ending_with_block"))]])),
  ("last_match_arm", all [many (any [ref "attribute_item", ref "inner_attribute_item"]),
    field "pattern" (ref "match_pattern"), "=>", field "value" (ref "_expression"), opt ","]),
  ("match_pattern", all [ref "_pattern", opt (all ["if", field "condition" (ref "_condition")])]),
  ("while_expression", all [opt (all [ref "label", ":"]), "while",
    field "condition" (ref "_condition"), field "body" (ref "block")]),
  ("loop_expression", all [opt (all [ref "label", ":"]), "loop", field "body" (ref "block")]),
  ("for_expression", all [opt (all [ref "label", ":"]), "for", field "pattern" (ref "_pattern"),
    "in", field "value" (ref "_expression"), field "body" (ref "block")]),
  ("const_block", all ["const", field "body" (ref "block")]),
  ("closure_expression", bindAt .closure (all [opt "static", opt "async", opt "move",
    field "parameters" (ref "closure_parameters"),
    any [
      all [opt (all ["->", field "return_type" (ref "_type")]), field "body" (ref "block")],
      field "body" (any [ref "_expression", "_"])]])),
  ("closure_parameters", all ["|", commas (any [ref "_pattern", ref "parameter"]), "|"]),
  ("label", all ["'", ref "identifier"]),
  ("break_expression", prec 0 (some .left)
    (all ["break", opt (ref "label"), opt (ref "_expression")])),
  ("continue_expression", prec 0 (some .left) (all ["continue", opt (ref "label")])),
  ("index_expression", bindAt .call (all [ref "_expression", brackets (ref "_expression")])),
  ("await_expression", bindAt .member (all [ref "_expression", ".", "await"])),
  ("field_expression", bindAt .member (all [field "value" (ref "_expression"), ".",
    field "field" (any [ref "_field_identifier", ref "integer_literal"])])),
  ("unsafe_block", all ["unsafe", ref "block"]),
  ("async_block", all ["async", opt "move", ref "block"]),
  ("gen_block", all ["gen", opt "move", ref "block"]),
  ("try_block", all ["try", ref "block"]),
  ("block", all [opt (all [ref "label", ":"]),
    braces (all [many (ref "_statement"), opt (ref "_expression")])])]

/-! ## Patterns -/

/-- The rules for patterns. -/
def patternRules : List (String × Rule) := [
  ("_pattern", any [ref "_literal_pattern", primitive "identifier", ref "identifier",
    ref "scoped_identifier", ref "generic_pattern", ref "tuple_pattern",
    ref "tuple_struct_pattern", ref "struct_pattern", ref "_reserved_identifier",
    ref "ref_pattern", ref "slice_pattern", ref "captured_pattern", ref "reference_pattern",
    ref "remaining_field_pattern", ref "mut_pattern", ref "range_pattern", ref "or_pattern",
    ref "const_block", ref "macro_invocation", "_"]),
  ("generic_pattern", all [any [ref "identifier", ref "scoped_identifier"], "::",
    field "type_arguments" (ref "type_arguments")]),
  ("tuple_pattern", parens (all [commas (any [ref "_pattern", ref "closure_expression"]),
    opt ","])),
  ("slice_pattern", brackets (all [commas (ref "_pattern"), opt ","])),
  ("tuple_struct_pattern", all [
    field "type" (any [ref "identifier", ref "scoped_identifier",
      shownAs "generic_type" true (ref "generic_type_with_turbofish")]),
    parens (all [commas (ref "_pattern"), opt ","])]),
  ("struct_pattern", all [
    field "type" (any [ref "_type_identifier", ref "scoped_type_identifier"]),
    braces (all [commas (any [ref "field_pattern", ref "remaining_field_pattern"]), opt ","])]),
  ("field_pattern", all [opt "ref", opt (ref "mutable_specifier"), any [
    field "name" (shownAs "shorthand_field_identifier" true (ref "identifier")),
    all [field "name" (ref "_field_identifier"), ":", field "pattern" (ref "_pattern")]]]),
  ("remaining_field_pattern", ".."),
  ("mut_pattern", prec (-1) none (all [ref "mutable_specifier", ref "_pattern"])),
  ("range_pattern", any [
    all [field "left" (any [ref "_literal_pattern", ref "_path"]),
      any [
        all [texts ["...", "..=", ".."],
          field "right" (any [ref "_literal_pattern", ref "_path"])],
        ".."]],
    all [texts ["..=", ".."], field "right" (any [ref "_literal_pattern", ref "_path"])]]),
  ("ref_pattern", all ["ref", ref "_pattern"]),
  ("captured_pattern", all [ref "identifier", "@", ref "_pattern"]),
  ("reference_pattern", all ["&", opt (ref "mutable_specifier"), ref "_pattern"]),
  ("or_pattern", prec (-2) (some .left) (any [
    all [ref "_pattern", "|", ref "_pattern"],
    all ["|", ref "_pattern"]]))]

/-! ## Names and literals -/

/-- A definition by a pattern. -/
def patterned (pattern : Pattern) : Definition := .token { shape := .pattern pattern }

/-- A word with a kind of its own. -/
def wordToken (spelling : String) : Definition := .token { shape := .spelled spelling }

/-- A token that follows at once. -/
def atOnce (shape : Shape) (priority : Int) : Rule := token { shape, immediate := true, priority }

/-- The literals. -/
def literalKinds : List Rule := [ref "string_literal", ref "raw_string_literal",
  ref "char_literal", ref "boolean_literal", ref "integer_literal", ref "float_literal"]

/-- The definitions of literals. -/
def literals : List (String × Definition) := [
  ("_literal", .rule (any literalKinds)),
  ("_literal_pattern", .rule (any (literalKinds ++ [ref "negative_literal"]))),
  ("negative_literal", .rule (all ["-", any [ref "integer_literal", ref "float_literal"]])),
  ("integer_literal", patterned wholeNumber),
  ("string_literal", .rule (all [
    shownAs "\"" false (token { shape := .pattern stringStart }),
    many (any [ref "escape_sequence", ref "string_content"]),
    atOnce (.spelled "\"") 0])),
  ("raw_string_literal", .rule (all [ref "_raw_string_literal_start",
    shownAs "string_content" true (ref "raw_string_literal_content"),
    ref "_raw_string_literal_end"])),
  ("char_literal", patterned charLiteral),
  ("escape_sequence", .token { shape := .pattern escape, immediate := true }),
  ("boolean_literal", .rule (any ["true", "false"]))]

/-- The rules for comments. A line that starts with four slashes or more is no documentation. -/
def commentRules : List (String × Rule) := [
  ("line_comment", all ["//", any [
    all [atOnce (.pattern (.text "//")) 2, token { shape := .pattern restOfLine }],
    all [ref "_line_doc_comment_marker",
      field "doc" (shownAs "doc_comment" true (ref "_line_doc_content"))],
    atOnce (.pattern restOfLine) 1]]),
  ("_line_doc_comment_marker", any [
    field "outer" (shownAs "outer_doc_comment_marker" true (ref "_outer_line_doc_comment_marker")),
    field "inner"
      (shownAs "inner_doc_comment_marker" true (ref "_inner_line_doc_comment_marker"))]),
  ("_inner_line_doc_comment_marker", atOnce (.spelled "!") 2),
  ("_outer_line_doc_comment_marker", atOnce (.spelled "/") 2),
  ("block_comment", all ["/*",
    opt (any [
      all [ref "_block_doc_comment_marker",
        opt (field "doc" (shownAs "doc_comment" true (ref "_block_comment_content")))],
      ref "_block_comment_content"]),
    "*/"]),
  ("_block_doc_comment_marker", any [
    field "outer" (shownAs "outer_doc_comment_marker" true (ref "_outer_block_doc_comment_marker")),
    field "inner"
      (shownAs "inner_doc_comment_marker" true (ref "_inner_block_doc_comment_marker"))])]

/-- The definitions of names. -/
def names : List (String × Definition) := [
  ("_path", .rule (any [ref "self", primitive "identifier", ref "metavariable", ref "super",
    ref "crate", ref "identifier", ref "scoped_identifier", ref "_reserved_identifier"])),
  ("identifier", patterned name),
  ("shebang", patterned shebang),
  ("_reserved_identifier", .rule (shownAs "identifier" true
    (texts ["default", "union", "gen"]))),
  ("_type_identifier", .rule (shownAs "type_identifier" true (ref "identifier"))),
  ("_field_identifier", .rule (shownAs "field_identifier" true (ref "identifier"))),
  ("self", wordToken "self"),
  ("super", wordToken "super"),
  ("crate", wordToken "crate"),
  ("metavariable", patterned metavariable)]

/-! ## The grammar -/

/-- Rules as definitions. -/
def asDefinitions (rules : List (String × Rule)) : List (String × Definition) :=
  rules.map fun (name, body) => (name, .rule body)

/-- The grammar of Rust. -/
def grammar : Grammar :=
  { definitions := asDefinitions (macroRules ++ declarationRules ++ typeRules) ++
      [("mutable_specifier", wordToken "mut")] ++
      asDefinitions (expressionRules ++ patternRules) ++ literals ++
      asDefinitions commentRules ++ names
    scannerTokens := specialNames
    scanner
    extras := ["line_comment", "block_comment"]
    word := "identifier"
    inlined := ["_path", "_type_identifier", "_tokens", "_field_identifier",
      "_non_special_token", "_declaration_statement", "_reserved_identifier",
      "_expression_ending_with_block"]
    groups := ["_expression", "_type", "_literal", "_literal_pattern", "_pattern"] }

/-- The tables for Rust, which are made when they are first asked for. -/
def tables : Thunk Tables := Thunk.mk fun _ => .ofGrammar grammar

end Overdue.Language.Rust
