import ScriptLint.Grammar.Expr

namespace ScriptLint.Script

open ScriptLint.Text ScriptLint.Grammar ScriptLint.Grammar.Expr

/-! The grammar of scripts. It is wider than the language: whatever a checker of scopes or
an engine would refuse later is left to later checks. -/

namespace Tokens

def digit : Shape := .anyOf "0123456789"
def hexDigit : Shape :=
  .set ((CharSet.range 48 57).union ((CharSet.range 65 70).union (.range 97 102)))
def letter : Shape := .set ((CharSet.range 65 90).union (.range 97 122))

/-- Blanks between tokens: the blanks of ASCII, the space separators of Unicode, its line
and paragraph separators, and three characters of no width. -/
def blankChars : CharSet :=
  .ofRanges [(9, 13), (32, 32), (0xA0, 0xA0), (0x1680, 0x1680), (0x2000, 0x200B), (0x2028, 0x2029),
    (0x202F, 0x202F), (0x205F, 0x2060), (0x3000, 0x3000), (0xFEFF, 0xFEFF)]

def namePunctuation : CharSet :=
  (CharSet.ofString ":;\x60\"'@#.,|^&<=>+-*/\\%?!~()[]\x7b\x7d").union
    ((CharSet.range 0 31).union blankChars)

def unicodeEscape : Shape :=
  .text "\\u" ++ (hexDigit.times 4 ||| .text "\x7b" ++ .plus hexDigit ++ .text "\x7d")

def nameRest : Shape := .set namePunctuation.complement ||| unicodeEscape

def nameStart : Shape :=
  .set (namePunctuation.union (.range 48 57)).complement ||| unicodeEscape

def name : Shape := nameStart ++ .star nameRest

def lineEnds : CharSet := .ofRanges [(10, 10), (13, 13), (0x2028, 0x2029)]

def anyButNewline : Shape := .set (CharSet.single '\n').complement

def grouped (d : Shape) : Shape := d ++ .star (.opt (.char '_') ++ d)

def number : Shape :=
  let hex : Shape := (.text "0x" ||| .text "0X") ++ grouped hexDigit
  let digits : Shape := grouped digit
  let exponent : Shape := .anyOf "eE" ++ .opt (.anyOf "-+") ++ digits
  let binary : Shape := (.text "0b" ||| .text "0B") ++ grouped (.anyOf "01")
  let octal : Shape := (.text "0o" ||| .text "0O") ++ grouped (.anyOf "01234567")
  let big : Shape := (hex ||| binary ||| octal ||| digits) ++ .char 'n'
  let integer : Shape :=
    .char '0' ||| .opt (.char '0') ++ .anyOf "123456789" ++ .opt (.opt (.char '_') ++ digits)
  let decimal : Shape :=
    integer ++ .char '.' ++ .opt digits ++ .opt exponent
      ||| .char '.' ++ digits ++ .opt exponent
      ||| integer ++ exponent
      ||| digits
  hex ||| decimal ||| binary ||| octal ||| big

def comment : Shape :=
  .text "//" ++ .star (.set lineEnds.complement)
    ||| .text "/*" ++ .star (.noneOf "*") ++ .plus (.char '*')
      ++ .star (.noneOf "/*" ++ .star (.noneOf "*") ++ .plus (.char '*')) ++ .char '/'

def escapeSequence : Token where
  shape := .char '\\' ++
    (.noneOf "xu01234567"
      ||| .anyOf "01234567" ++ .upTo (.anyOf "01234567") 2
      ||| .char 'x' ++ hexDigit.times 2
      ||| .char 'u' ++ hexDigit.times 4
      ||| .char 'u' ++ .text "\x7b" ++ .plus hexDigit ++ .text "\x7d"
      ||| .anyOf "\r?" ++ .set (.ofRanges [(10, 10), (0x2028, 0x2029)]))
  attached := true

def stringFragment (quote : String) : Token where
  shape := .plus (.noneOf (quote ++ "\\\r\n"))
  rank := 1
  attached := true

def jsxStringFragment (quote : String) : Token where
  shape := .plus (.noneOf (quote ++ "&") ||| .char '&' ++
    .set ((CharSet.single '#').union ((CharSet.range 65 90).union (.range 97 122))).complement)
  rank := 1
  attached := true

def regexPattern : Token where
  shape := .plus
    (.char '[' ++ .star (.char '\\' ++ anyButNewline ||| .noneOf "]\n\\") ++ .char ']'
      ||| .char '\\' ++ anyButNewline
      ||| .noneOf "/\\[\n")
  rank := -1
  attached := true

def regexClose : Token where
  shape := .char '/'
  spelling := some "/"
  rank := 1
  attached := true

def regexFlags : Token where
  shape := .plus (.set (.range 97 122))
  attached := true

def jsxIdentifier : Shape :=
  let first := CharSet.union (.ofString "_$") ((CharSet.range 65 90).union (.range 97 122))
  let next := first.union (.range 48 57)
  .set first ++ .star (.set next) ++ .char '-' ++ .star (.set (next.union (.single '-')))

def htmlCharacterReference : Shape :=
  .char '&' ++
    (.char '#' ++ (.anyOf "xX" ++ hexDigit ++ .upTo hexDigit 5 ||| digit ++ .upTo digit 4)
      ||| letter ++ .upTo letter 29) ++ .char ';'

def staticGet : Shape :=
  let blank := .set ((CharSet.range 9 13).union (.single ' '))
  .text "static" ++ .plus blank ++ .text "get" ++ .star blank ++ .char '\n'

end Tokens

private def shape (s : Shape) : Expr := .token (.ofShape s)

private def commaSep (e : Expr) : Expr := sepBy "," e

private def commaSep1 (e : Expr) : Expr := sepBy1 "," e

private def left (level : String) (e : Expr) : Expr := prec level (assoc .left e)

private def right (level : String) (e : Expr) : Expr := prec level (assoc .right e)

private def named (name : String) (e : Expr) : Expr := rename ⟨name, true⟩ e

private def anyWord (e : Expr) : Expr := words 1 e

private def decorators : Expr := many (field "decorator" (ref "decorator"))

private def binary : String × String × Assoc → Expr
  | (operator, level, side) =>
      prec level (assoc side (sequence [
        field "left" (if operator == "in" then
          oneOf [ref "expression", ref "private_property_identifier"] else ref "expression"),
        field "operator" operator,
        field "right" (ref "expression")]))

private def binaryOperators : List (String × String × Assoc) := [
  ("&&", "logical_and", .left), ("||", "logical_or", .left),
  (">>", "binary_shift", .left), (">>>", "binary_shift", .left), ("<<", "binary_shift", .left),
  ("&", "bitwise_and", .left), ("^", "bitwise_xor", .left), ("|", "bitwise_or", .left),
  ("+", "binary_plus", .left), ("-", "binary_plus", .left),
  ("*", "binary_times", .left), ("/", "binary_times", .left), ("%", "binary_times", .left),
  ("**", "binary_exp", .right),
  ("<", "binary_relation", .left), ("<=", "binary_relation", .left),
  ("==", "binary_equality", .left), ("===", "binary_equality", .left),
  ("!=", "binary_equality", .left), ("!==", "binary_equality", .left),
  (">=", "binary_relation", .left), (">", "binary_relation", .left),
  ("??", "ternary", .left),
  ("instanceof", "binary_relation", .left), ("in", "binary_relation", .left)]

private def stringBody (quote fragment : String) : Expr :=
  sequence [quote,
    many (oneOf [named "string_fragment" (ref fragment), ref "escape_sequence"]), quote]

private def jsxStringBody (quote fragment : String) : Expr :=
  sequence [quote,
    many (oneOf [named "string_fragment" (ref fragment), ref "html_character_reference"]), quote]

private def functionRule (wrap : Expr → Expr) (star : List Expr) (name : Expr)
    (tail : List Expr) : Expr :=
  wrap (sequence ([opt "async", "function"] ++ star ++
    [name, ref "_call_signature", field "body" (ref "statement_block")] ++ tail))

private def autoSemicolon : Expr := .scanned .automaticSemicolon

private def moduleRules : List (String × Expr) := [
  ("export_statement", oneOf [
    sequence ["export",
      oneOf [
        sequence ["*", ref "_from_clause"],
        sequence [ref "namespace_export", ref "_from_clause"],
        sequence [ref "export_clause", ref "_from_clause"],
        ref "export_clause"],
      ref "_semicolon"],
    sequence [decorators, "export",
      oneOf [
        field "declaration" (ref "declaration"),
        sequence ["default",
          oneOf [
            field "declaration" (ref "declaration"),
            sequence [field "value" (ref "expression"), ref "_semicolon"]]]]]]),
  ("namespace_export", sequence ["*", "as", ref "_module_export_name"]),
  ("export_clause", sequence ["\x7b", commaSep (ref "export_specifier"), opt ",", "\x7d"]),
  ("export_specifier", sequence [
    field "name" (ref "_module_export_name"),
    opt (sequence ["as", field "alias" (ref "_module_export_name")])]),
  ("_module_export_name", oneOf [ref "identifier", ref "string", "default"]),
  ("declaration", oneOf [
    ref "function_declaration", ref "generator_function_declaration", ref "class_declaration",
    ref "lexical_declaration", ref "variable_declaration", ref "using_declaration"]),
  ("import", "import"),
  ("import_statement", sequence ["import",
    oneOf [sequence [ref "import_clause", ref "_from_clause"], field "source" (ref "string")],
    opt (ref "import_attribute"), ref "_semicolon"]),
  ("import_clause", oneOf [
    ref "namespace_import", ref "named_imports",
    sequence [ref "identifier",
      opt (sequence [",", oneOf [ref "namespace_import", ref "named_imports"]])]]),
  ("_from_clause", sequence ["from", field "source" (ref "string")]),
  ("namespace_import", sequence ["*", "as", ref "identifier"]),
  ("named_imports", sequence ["\x7b", commaSep (ref "import_specifier"), opt ",", "\x7d"]),
  ("import_specifier", oneOf [
    field "name" (ref "identifier"),
    sequence [field "name" (ref "_module_export_name"), "as", field "alias" (ref "identifier")]]),
  ("import_attribute", sequence ["with", ref "object"])]

private def usingKind : Expr := oneOf ["using", sequence ["await", "using"]]

/-- What a declaration declares. The word `of` is a name there, although it is a sign in
the heads of loops. -/
private def declared : Expr :=
  oneOf [named "identifier" "of", ref "identifier", ref "_destructuring_pattern"]

private def statementRules : List (String × Expr) := [
  ("statement", oneOf [
    ref "export_statement", ref "import_statement", ref "debugger_statement",
    ref "expression_statement", ref "declaration", ref "statement_block", ref "if_statement",
    ref "switch_statement", ref "for_statement", ref "for_in_statement", ref "while_statement",
    ref "do_statement", ref "try_statement", ref "with_statement", ref "break_statement",
    ref "continue_statement", ref "return_statement", ref "throw_statement",
    ref "empty_statement", ref "labeled_statement"]),
  ("expression_statement", sequence [ref "_expressions", ref "_semicolon"]),
  ("variable_declaration",
    sequence ["var", commaSep1 (ref "variable_declarator"), ref "_semicolon"]),
  ("lexical_declaration", sequence [
    field "kind" (oneOf ["let", "const"]),
    commaSep1 (ref "variable_declarator"), ref "_semicolon"]),
  ("using_declaration", sequence [
    field "kind" usingKind, commaSep1 (ref "variable_declarator"), ref "_semicolon"]),
  ("variable_declarator", sequence [field "name" declared, opt (ref "_initializer")]),
  ("statement_block",
    assoc .right (sequence ["\x7b", many (ref "statement"), "\x7d", opt autoSemicolon])),
  ("else_clause", sequence ["else", ref "statement"]),
  ("if_statement", assoc .right (sequence ["if",
    field "condition" (ref "parenthesized_expression"),
    field "consequence" (ref "statement"),
    opt (field "alternative" (ref "else_clause"))])),
  ("switch_statement", sequence ["switch",
    field "value" (ref "parenthesized_expression"), field "body" (ref "switch_body")]),
  ("for_statement", sequence ["for", "(",
    oneOf [
      field "initializer" (oneOf [ref "lexical_declaration", ref "variable_declaration"]),
      sequence [field "initializer" (ref "_expressions"), ";"],
      field "initializer" (ref "empty_statement")],
    field "condition" (oneOf [sequence [ref "_expressions", ";"], ref "empty_statement"]),
    field "increment" (opt (ref "_expressions")),
    ")", field "body" (ref "statement")]),
  ("for_in_statement", sequence ["for", opt "await", ref "_for_header",
    field "body" (ref "statement")]),
  ("_for_header", sequence ["(",
    oneOf [
      field "left" (oneOf [ref "_lhs_expression", ref "parenthesized_expression"]),
      sequence [field "kind" "var", field "left" declared, opt (ref "_initializer")],
      sequence [field "kind" (oneOf ["let", "const"]), field "left" declared, opt autoSemicolon],
      sequence [field "kind" usingKind, field "left" declared, opt autoSemicolon]],
    field "operator" (oneOf ["in", "of"]),
    field "right" (ref "_expressions"), ")"]),
  ("while_statement", sequence ["while",
    field "condition" (ref "parenthesized_expression"), field "body" (ref "statement")]),
  ("do_statement", assoc .right (sequence ["do", field "body" (ref "statement"), "while",
    field "condition" (ref "parenthesized_expression"), opt (ref "_semicolon")])),
  ("try_statement", sequence ["try", field "body" (ref "statement_block"),
    opt (field "handler" (ref "catch_clause")),
    opt (field "finalizer" (ref "finally_clause"))]),
  ("with_statement", sequence ["with",
    field "object" (ref "parenthesized_expression"), field "body" (ref "statement")]),
  ("break_statement", sequence ["break",
    field "label" (opt (named "statement_identifier" (ref "identifier"))), ref "_semicolon"]),
  ("continue_statement", sequence ["continue",
    field "label" (opt (named "statement_identifier" (ref "identifier"))), ref "_semicolon"]),
  ("debugger_statement", sequence ["debugger", ref "_semicolon"]),
  ("return_statement", sequence ["return", opt (ref "_expressions"), ref "_semicolon"]),
  ("throw_statement", sequence ["throw", ref "_expressions", ref "_semicolon"]),
  ("empty_statement", ";"),
  ("labeled_statement", dynamic (-1) (sequence [
    field "label" (named "statement_identifier"
      (oneOf [ref "identifier", ref "_reserved_identifier"])),
    ":", field "body" (ref "statement")])),
  ("switch_body",
    sequence ["\x7b", many (oneOf [ref "switch_case", ref "switch_default"]), "\x7d"]),
  ("switch_case", sequence ["case", field "value" (ref "_expressions"), ":",
    field "body" (many (ref "statement"))]),
  ("switch_default", sequence ["default", ":", field "body" (many (ref "statement"))]),
  ("catch_clause", sequence ["catch",
    opt (sequence ["(",
      field "parameter" (oneOf [ref "identifier", ref "_destructuring_pattern"]), ")"]),
    field "body" (ref "statement_block")]),
  ("finally_clause", sequence ["finally", field "body" (ref "statement_block")]),
  ("parenthesized_expression", sequence ["(", ref "_expressions", ")"])]

private def operandRules : List (String × Expr) := [
  ("_expressions", oneOf [ref "expression", ref "sequence_expression"]),
  ("expression", oneOf [
    ref "primary_expression", ref "_jsx_element", ref "assignment_expression",
    ref "augmented_assignment_expression", ref "await_expression", ref "unary_expression",
    ref "binary_expression", ref "ternary_expression", ref "update_expression",
    ref "new_expression", ref "yield_expression"]),
  ("primary_expression", oneOf [
    ref "subscript_expression", ref "member_expression", ref "parenthesized_expression",
    ref "_identifier", named "identifier" (ref "_reserved_identifier"),
    ref "this", ref "super", ref "number", ref "string", ref "template_string", ref "regex",
    ref "true", ref "false", ref "null", ref "object", ref "array", ref "function_expression",
    ref "arrow_function", ref "generator_function", ref "class", ref "meta_property",
    ref "call_expression"]),
  ("yield_expression", assoc .right (sequence ["yield",
    oneOf [sequence ["*", ref "expression"], opt (ref "expression")]])),
  ("object", prec "object" (sequence ["\x7b",
    commaSep (opt (oneOf [
      ref "pair", ref "spread_element", ref "method_definition",
      named "shorthand_property_identifier"
        (oneOf [ref "identifier", ref "_reserved_identifier"])])), "\x7d"])),
  ("object_pattern", prec "object" (sequence ["\x7b",
    commaSep (opt (oneOf [
      ref "pair_pattern", ref "rest_pattern", ref "object_assignment_pattern",
      named "shorthand_property_identifier_pattern"
        (oneOf [ref "identifier", ref "_reserved_identifier"])])), "\x7d"])),
  ("assignment_pattern",
    sequence [field "left" (ref "pattern"), "=", field "right" (ref "expression")]),
  ("object_assignment_pattern", sequence [
    field "left" (oneOf [
      named "shorthand_property_identifier_pattern"
        (oneOf [ref "_reserved_identifier", ref "identifier"]),
      ref "_destructuring_pattern"]),
    "=", field "right" (ref "expression")]),
  ("array", sequence ["[", commaSep (opt (oneOf [ref "expression", ref "spread_element"])), "]"]),
  ("array_pattern",
    sequence ["[", commaSep (opt (oneOf [ref "pattern", ref "assignment_pattern"])), "]"])]

private def jsxRules : List (String × Expr) := [
  ("_jsx_element", oneOf [ref "jsx_element", ref "jsx_self_closing_element"]),
  ("jsx_element", sequence [
    field "open_tag" (ref "jsx_opening_element"), many (ref "_jsx_child"),
    field "close_tag" (ref "jsx_closing_element")]),
  ("html_character_reference", shape Tokens.htmlCharacterReference),
  ("jsx_expression", sequence ["\x7b",
    opt (oneOf [ref "expression", ref "sequence_expression", ref "spread_element"]), "\x7d"]),
  ("_jsx_child", oneOf [.scanned .jsxText, ref "html_character_reference", ref "_jsx_element",
    ref "jsx_expression"]),
  ("jsx_opening_element", dynamic (-1) (sequence ["<",
    opt (sequence [field "name" (ref "_jsx_element_name"),
      many (field "attribute" (ref "_jsx_attribute"))]), ">"])),
  ("jsx_identifier", shape Tokens.jsxIdentifier),
  ("_jsx_identifier", oneOf [named "identifier" (ref "jsx_identifier"), ref "identifier"]),
  ("nested_identifier", prec "member" (sequence [
    field "object" (oneOf [ref "identifier", named "member_expression" (ref "nested_identifier")]),
    ".", field "property" (named "property_identifier" (ref "identifier"))])),
  ("jsx_namespace_name", sequence [ref "_jsx_identifier", ":", ref "_jsx_identifier"]),
  ("_jsx_element_name", oneOf [ref "_jsx_identifier",
    named "member_expression" (ref "nested_identifier"), ref "jsx_namespace_name"]),
  ("jsx_closing_element",
    sequence ["</", opt (field "name" (ref "_jsx_element_name")), ">"]),
  ("jsx_self_closing_element", sequence ["<", field "name" (ref "_jsx_element_name"),
    many (field "attribute" (ref "_jsx_attribute")), "/>"]),
  ("_jsx_attribute", oneOf [ref "jsx_attribute", ref "jsx_expression"]),
  ("_jsx_attribute_name", oneOf [named "property_identifier" (ref "_jsx_identifier"),
    ref "jsx_namespace_name"]),
  ("jsx_attribute", sequence [ref "_jsx_attribute_name",
    opt (sequence ["=", ref "_jsx_attribute_value"])]),
  ("_jsx_string", oneOf [
    jsxStringBody "\"" "unescaped_double_jsx_string_fragment",
    jsxStringBody "'" "unescaped_single_jsx_string_fragment"]),
  ("unescaped_double_jsx_string_fragment", .token (Tokens.jsxStringFragment "\"")),
  ("unescaped_single_jsx_string_fragment", .token (Tokens.jsxStringFragment "'")),
  ("_jsx_attribute_value", oneOf [named "string" (ref "_jsx_string"), ref "jsx_expression",
    ref "_jsx_element"])]

private def functionRules : List (String × Expr) := [
  ("class", prec "literal" (sequence [decorators, "class",
    field "name" (opt (ref "identifier")), opt (ref "class_heritage"),
    field "body" (ref "class_body")])),
  ("class_declaration", prec "declare" (sequence [decorators, "class",
    field "name" (ref "identifier"), opt (ref "class_heritage"),
    field "body" (ref "class_body"), opt autoSemicolon])),
  ("class_heritage", sequence ["extends", ref "expression"]),
  ("function_expression",
    functionRule (prec "literal") [] (field "name" (opt (ref "identifier"))) []),
  ("function_declaration",
    functionRule (right "declare") [] (field "name" (ref "identifier")) [opt autoSemicolon]),
  ("generator_function",
    functionRule (prec "literal") ["*"] (field "name" (opt (ref "identifier"))) []),
  ("generator_function_declaration",
    functionRule (right "declare") ["*"] (field "name" (ref "identifier")) [opt autoSemicolon]),
  ("arrow_function", sequence [opt "async",
    oneOf [
      field "parameter" (oneOf [named "identifier" (ref "_reserved_identifier"),
        ref "identifier"]),
      ref "_call_signature"],
    "=>", field "body" (oneOf [ref "expression", ref "statement_block"])]),
  ("_call_signature", field "parameters" (ref "formal_parameters")),
  ("_formal_parameter", oneOf [ref "pattern", ref "assignment_pattern"])]

private def expressionRules : List (String × Expr) := [
  ("optional_chain", "?."),
  ("call_expression", oneOf [
    prec "call" (sequence [
      field "function" (oneOf [ref "expression", ref "import"]),
      field "arguments" (ref "arguments")]),
    prec "template_call" (sequence [
      field "function" (oneOf [ref "primary_expression", ref "new_expression"]),
      field "arguments" (ref "template_string")]),
    prec "member" (sequence [
      field "function" (ref "primary_expression"),
      field "optional_chain" (ref "optional_chain"),
      field "arguments" (ref "arguments")])]),
  ("new_expression", right "new" (sequence ["new",
    field "constructor" (oneOf [ref "primary_expression", ref "new_expression"]),
    field "arguments" (opt (dynamic 1 (ref "arguments")))])),
  ("await_expression", prec "unary_void" (sequence ["await", ref "expression"])),
  ("member_expression", prec "member" (sequence [
    field "object" (oneOf [ref "expression", ref "primary_expression", ref "import"]),
    oneOf [".", field "optional_chain" (ref "optional_chain")],
    field "property" (oneOf [
      ref "private_property_identifier",
      anyWord (named "property_identifier" (ref "identifier"))])])),
  ("subscript_expression", right "member" (sequence [
    field "object" (oneOf [ref "expression", ref "primary_expression"]),
    opt (field "optional_chain" (ref "optional_chain")),
    "[", field "index" (ref "_expressions"), "]"])),
  ("_lhs_expression", oneOf [
    ref "member_expression", ref "subscript_expression", ref "_identifier",
    named "identifier" (ref "_reserved_identifier"), ref "_destructuring_pattern"]),
  ("assignment_expression", right "assign" (sequence [
    field "left" (oneOf [ref "parenthesized_expression", ref "_lhs_expression"]),
    "=", field "right" (ref "expression")])),
  ("_augmented_assignment_lhs", oneOf [
    ref "member_expression", ref "subscript_expression",
    named "identifier" (ref "_reserved_identifier"), ref "identifier",
    ref "parenthesized_expression"]),
  ("augmented_assignment_expression", right "assign" (sequence [
    field "left" (ref "_augmented_assignment_lhs"),
    field "operator" (oneOf ["+=", "-=", "*=", "/=", "%=", "^=", "&=", "|=", ">>=", ">>>=",
      "<<=", "**=", "&&=", "||=", "??="]),
    field "right" (ref "expression")])),
  ("_initializer", sequence ["=", field "value" (ref "expression")]),
  ("_destructuring_pattern", oneOf [ref "object_pattern", ref "array_pattern"]),
  ("spread_element", sequence ["...", ref "expression"]),
  ("ternary_expression", right "ternary" (sequence [
    field "condition" (ref "expression"),
    rename ⟨"?", false⟩ (.scanned .ternaryMark),
    field "consequence" (ref "expression"),
    ":", field "alternative" (ref "expression")])),
  ("binary_expression", oneOf (binaryOperators.map binary)),
  ("unary_expression", left "unary_void" (sequence [
    field "operator" (oneOf ["!", "~", "-", "+", "typeof", "void", "delete"]),
    field "argument" (ref "expression")])),
  ("update_expression", assoc .left (oneOf [
    sequence [field "argument" (ref "expression"), field "operator" (oneOf ["++", "--"])],
    sequence [field "operator" (oneOf ["++", "--"]), field "argument" (ref "expression")]])),
  ("sequence_expression", assoc .right (commaSep1 (ref "expression")))]

private def literalRules : List (String × Expr) := [
  ("string", oneOf [
    stringBody "\"" "unescaped_double_string_fragment",
    stringBody "'" "unescaped_single_string_fragment"]),
  ("unescaped_double_string_fragment", .token (Tokens.stringFragment "\"")),
  ("unescaped_single_string_fragment", .token (Tokens.stringFragment "'")),
  ("escape_sequence", .token Tokens.escapeSequence),
  ("comment", shape Tokens.comment),
  ("template_string", sequence ["\x60",
    many (oneOf [named "string_fragment" (.scanned .templateChars), ref "escape_sequence",
      ref "template_substitution"]), "\x60"]),
  ("template_substitution", sequence ["$\x7b", ref "_expressions", "\x7d"]),
  ("regex", sequence ["/", field "pattern" (ref "regex_pattern"), .token Tokens.regexClose,
    opt (field "flags" (ref "regex_flags"))]),
  ("regex_pattern", .token Tokens.regexPattern),
  ("regex_flags", .token Tokens.regexFlags),
  ("number", shape Tokens.number),
  ("_identifier", oneOf [ref "undefined", ref "identifier"]),
  ("undefined", "undefined"),
  ("identifier", shape Tokens.name),
  ("private_property_identifier", shape (.char '#' ++ Tokens.name)),
  ("meta_property", oneOf [sequence ["new", ".", "target"], sequence ["import", ".", "meta"]]),
  ("this", "this"),
  ("super", "super"),
  ("true", "true"),
  ("false", "false"),
  ("null", "null"),
  ("arguments",
    sequence ["(", commaSep (opt (oneOf [ref "expression", ref "spread_element"])), ")"]),
  ("decorator", sequence ["@", oneOf [ref "identifier",
    named "member_expression" (ref "decorator_member_expression"),
    named "call_expression" (ref "decorator_call_expression")]]),
  ("decorator_member_expression", prec "member" (sequence [
    field "object" (oneOf [ref "identifier",
      named "member_expression" (ref "decorator_member_expression")]),
    ".", field "property" (named "property_identifier" (ref "identifier"))])),
  ("decorator_call_expression", prec "call" (sequence [
    field "function" (oneOf [ref "identifier",
      named "member_expression" (ref "decorator_member_expression")]),
    field "arguments" (ref "arguments")]))]

private def memberRules : List (String × Expr) := [
  ("class_body", sequence ["\x7b",
    many (oneOf [
      sequence [field "member" (ref "method_definition"), opt ";"],
      sequence [field "member" (ref "field_definition"), ref "_semicolon"],
      field "member" (ref "class_static_block"),
      ";"]), "\x7d"]),
  ("field_definition", sequence [decorators, opt "static",
    field "property" (ref "_property_name"), opt (ref "_initializer")]),
  ("formal_parameters", sequence ["(",
    opt (sequence [commaSep1 (ref "_formal_parameter"), opt ","]), ")"]),
  ("class_static_block", sequence ["static", opt autoSemicolon,
    field "body" (ref "statement_block")]),
  ("pattern", dynamic (-1) (oneOf [ref "_lhs_expression", ref "rest_pattern"])),
  ("rest_pattern", assoc .right (sequence ["...", ref "_lhs_expression"])),
  ("method_definition", sequence [decorators,
    opt (oneOf ["static", rename ⟨"static get", false⟩ (shape Tokens.staticGet)]),
    opt "async", opt (oneOf ["get", "set", "*"]),
    field "name" (ref "_property_name"), field "parameters" (ref "formal_parameters"),
    field "body" (ref "statement_block")]),
  ("pair",
    sequence [field "key" (ref "_property_name"), ":", field "value" (ref "expression")]),
  ("pair_pattern", sequence [field "key" (ref "_property_name"), ":",
    field "value" (oneOf [ref "pattern", ref "assignment_pattern"])]),
  ("_property_name", anyWord (oneOf [
    named "property_identifier" (oneOf [ref "identifier", ref "_reserved_identifier"]),
    ref "private_property_identifier", ref "string", ref "number",
    ref "computed_property_name"])),
  ("computed_property_name", sequence ["[", ref "expression", "]"]),
  ("_reserved_identifier", oneOf ["get", "set", "async", "await", "static", "export", "let"]),
  ("_semicolon", oneOf [autoSemicolon, ";"])]

/-- The words that are no identifiers, except as the names of properties. -/
def reservedWords : List String := [
  "break", "case", "catch", "class", "const", "continue", "debugger", "default", "delete", "do",
  "else", "export", "extends", "false", "finally", "for", "function", "if", "import", "in",
  "instanceof", "new", "null", "return", "super", "switch", "this", "throw", "true", "try",
  "typeof", "var", "void", "while", "with"]

def grammar : Grammar where
  rules :=
    [("program", sequence [opt (ref "hash_bang_line"), many (ref "statement")]),
     ("hash_bang_line", shape (.text "#!" ++ .star Tokens.anyButNewline))]
    ++ moduleRules ++ statementRules ++ operandRules ++ jsxRules ++ functionRules
    ++ expressionRules ++ literalRules ++ memberRules
  blanks := .set Tokens.blankChars
  extras := [ref "comment", .scanned .htmlComment]
  unseen := ["statement", "declaration", "expression", "primary_expression", "pattern"]
  inlined := ["_call_signature", "_formal_parameter", "_expressions", "_semicolon", "_identifier",
    "_reserved_identifier", "_jsx_attribute", "_jsx_element_name", "_jsx_child", "_jsx_element",
    "_jsx_attribute_name", "_jsx_attribute_value", "_jsx_identifier", "_lhs_expression"]
  levels := [
    [.label "member", .label "template_call", .label "call", .rule "update_expression",
      .label "unary_void", .label "binary_exp", .label "binary_times", .label "binary_plus",
      .label "binary_shift", .label "binary_compare", .label "binary_relation",
      .label "binary_equality", .label "bitwise_and", .label "bitwise_xor", .label "bitwise_or",
      .label "logical_and", .label "logical_or", .label "ternary", .rule "sequence_expression",
      .rule "arrow_function"],
    [.label "assign", .rule "primary_expression"],
    [.label "member", .label "template_call", .label "new", .label "call", .rule "expression"],
    [.label "declare", .label "literal"],
    [.rule "primary_expression", .rule "statement_block", .label "object"],
    [.rule "meta_property", .rule "import"],
    [.rule "import_statement", .rule "import"],
    [.rule "export_statement", .rule "primary_expression"],
    [.rule "lexical_declaration", .rule "primary_expression"]]
  word := "identifier"
  wordSets := [reservedWords, []]
  watched := ["||", ref "escape_sequence", ref "regex_pattern"]

end ScriptLint.Script
