import Advisor.Grammar.Rule

/-!
# The grammar of JavaScript

The language in the notation of `Grammar.Rule`: modules, statements, expressions, classes, patterns
and JSX. Rules whose names begin with an underscore never show in the tree. Ambiguities that only a
later token settles (an object or a block, a pattern or an expression) are left to the parser, which
follows all readings.
-/

namespace Advisor.Script

open Advisor.Grammar
open Advisor.Grammar.Rule

/-! ## Tokens -/

/-- Blank characters of the first 128. -/
def asciiBlanks : List (Nat × Nat) := [(0x09, 0x0d), (0x20, 0x20)]

/-- Spaces beyond the first 128: separators of the Unicode standard and the zero-width ones. -/
def wideBlanks : List (Nat × Nat) :=
  [(0xa0, 0xa0), (0x1680, 0x1680), (0x2000, 0x200b), (0x2028, 0x2029), (0x202f, 0x202f),
   (0x205f, 0x2060), (0x3000, 0x3000), (0xfeff, 0xfeff)]

/-- The characters that separate tokens. -/
def blanks : CharSet := .ofRanges (asciiBlanks ++ wideBlanks)

/-- The code points of a text, as ranges. -/
def points (s : String) : List (Nat × Nat) := s.toList.map fun c => (c.toNat, c.toNat)

/-- Characters that never stand in a name. -/
def notInNames : List (Nat × Nat) :=
  [(0x00, 0x1f)] ++ asciiBlanks ++ wideBlanks ++ points ":;\x60\"'@#.,|^&<=>+-*/\\%?!~()[]\x7b\x7d"

def digit : Lexeme := .range '0' '9'

def hexDigit : Lexeme := .set (.ofRanges [(0x30, 0x39), (0x61, 0x66), (0x41, 0x46)])

/-- A character given by its number: `\u` and four hexadecimal digits, or any number of them in
braces. -/
def unicodeEscape : Lexeme :=
  .alt (.seq (.text "\\u") (.times 4 hexDigit))
    (.all [.text "\\u\x7b", .many1 hexDigit, .char '\x7d'])

def nameStart : Lexeme := .alt (.set (.outside (notInNames ++ [(0x30, 0x39)]))) unicodeEscape

def namePart : Lexeme := .alt (.set (.outside notInNames)) unicodeEscape

def nameLexeme : Lexeme := .seq nameStart (.star namePart)

/-- Digits with single underscores between them. -/
def digits (d : Lexeme) : Lexeme := .seq d (.star (.seq (.opt (.char '_')) d))

/-- Numbers: decimal with fraction and exponent, hexadecimal, octal, binary, and whole ones with the
mark `n`. -/
def numberLexeme : Lexeme :=
  let hex := .seq (.alt (.text "0x") (.text "0X")) (digits hexDigit)
  let decimal := digits digit
  let signed := .seq (.opt (.oneOf "-+")) decimal
  let exponent := .seq (.oneOf "eE") signed
  let binary := .seq (.alt (.text "0b") (.text "0B")) (digits (.range '0' '1'))
  let octal := .seq (.alt (.text "0o") (.text "0O")) (digits (.range '0' '7'))
  let big := .seq (.any [hex, binary, octal, decimal]) (.char 'n')
  let integer := .alt (.char '0')
    (.all [.opt (.char '0'), .range '1' '9', .opt (.seq (.opt (.char '_')) decimal)])
  .any [hex,
    .all [integer, .char '.', .opt decimal, .opt exponent],
    .all [.char '.', decimal, .opt exponent],
    .seq integer exponent,
    decimal, binary, octal, big]

/-- An escape in a string or template. -/
def escapeLexeme : Lexeme :=
  .seq (.char '\\') (.any [
    .set (.outside (points "xu" ++ [(0x30, 0x37)])),
    .seq (.range '0' '7') (.upTo 2 (.range '0' '7')),
    .seq (.char 'x') (.times 2 hexDigit),
    .seq (.char 'u') (.times 4 hexDigit),
    .all [.text "u\x7b", .many1 hexDigit, .char '\x7d'],
    .seq (.oneOf "\r?") (.set (.ofRanges [(0x0a, 0x0a), (0x2028, 0x2029)]))])

/-- Line comments up to the end of the line, block comments up to the first end mark. -/
def commentLexeme : Lexeme :=
  let notStar := .noneOf "*"
  .alt
    (.seq (.text "//") (.star (.set (.outside [(0x0a, 0x0a), (0x0d, 0x0d), (0x2028, 0x2029)]))))
    (.all [.text "/*", .star notStar, .many1 (.char '*'),
      .star (.all [.noneOf "/*", .star notStar, .many1 (.char '*')]), .char '/'])

/-- The body of a regular expression: a slash ends it outside brackets and after no backslash. -/
def regexLexeme : Lexeme :=
  let escaped := .seq (.char '\\') (.noneOf "\n")
  .many1 (.any [
    .all [.char '[', .star (.alt escaped (.noneOf "]\n\\")), .char ']'],
    escaped,
    .noneOf "/\\[\n"])

def htmlReferenceLexeme : Lexeme :=
  let letter := .set (.ofRanges [(0x41, 0x5a), (0x61, 0x7a)])
  .all [.char '&',
    .alt
      (.seq (.char '#') (.alt (.all [.oneOf "xX", hexDigit, .upTo 5 hexDigit])
        (.seq digit (.upTo 4 digit))))
      (.seq letter (.upTo 29 letter)),
    .char ';']

/-- Text inside a quoted JSX attribute, up to the quote or a character reference. -/
def jsxStringLexeme (quote : String) : Lexeme :=
  .many1 (.alt (.noneOf (quote ++ "&"))
    (.seq (.char '&') (.set (.outside [(0x23, 0x23), (0x41, 0x5a), (0x61, 0x7a)]))))

/-- A JSX name with a dash in it. -/
def jsxNameLexeme : Lexeme :=
  let start := .set (.ofRanges ([(0x41, 0x5a), (0x61, 0x7a)] ++ points "_$"))
  let part := .set (.ofRanges ([(0x30, 0x39), (0x41, 0x5a), (0x61, 0x7a)] ++ points "_$"))
  let dashed := .set (.ofRanges ([(0x30, 0x39), (0x41, 0x5a), (0x61, 0x7a)] ++ points "_$-"))
  .all [start, .star part, .char '-', .star dashed]

/-- `static get` before a line break, where `get` is a name of its own. -/
def staticGetLexeme : Lexeme :=
  let blank := .set (.ofRanges asciiBlanks)
  .all [.text "static", .many1 blank, .text "get", .star blank, .char '\n']

/-! ## Marks -/

def prec (name : String) (r : Rule Leaf) : Rule Leaf := .prec (.named name) none r
def precLeft (name : String) (r : Rule Leaf) : Rule Leaf := .prec (.named name) (some .left) r
def precRight (name : String) (r : Rule Leaf) : Rule Leaf := .prec (.named name) (some .right) r
def leftAssoc (r : Rule Leaf) : Rule Leaf := .prec (.level 0) (some .left) r
def rightAssoc (r : Rule Leaf) : Rule Leaf := .prec (.level 0) (some .right) r

/-- Shows the rule under another rule's name. -/
def named (name : String) (r : Rule Leaf) : Rule Leaf := .as ⟨name, true⟩ r

/-- Shows the rule as a literal. -/
def literally (name : String) (r : Rule Leaf) : Rule Leaf := .as ⟨name, false⟩ r

/-- In this context any word may be a name. -/
def anyWord (r : Rule Leaf) : Rule Leaf := .inContext 1 r

/-- What a declaration binds. The word `of` is a name here. -/
def boundName : Rule Leaf :=
  oneOf [ref "identifier", named "identifier" (lit "of"), ref "_destructuring_pattern"]

/-! ## Rules -/

/-- Modules and declarations. -/
def moduleRules : List (String × Rule Leaf) := [
  ("program", inOrder [opt (ref "hash_bang_line"), star (ref "statement")]),
  ("hash_bang_line", pattern (.seq (.text "#!") (.star (.noneOf "\n")))),
  ("export_statement", oneOf [
    inOrder [lit "export",
      oneOf [inOrder [lit "*", ref "_from_clause"],
        inOrder [ref "namespace_export", ref "_from_clause"],
        inOrder [ref "export_clause", ref "_from_clause"],
        ref "export_clause"],
      ref "_semicolon"],
    inOrder [star (field "decorator" (ref "decorator")), lit "export",
      oneOf [field "declaration" (ref "declaration"),
        inOrder [lit "default",
          oneOf [field "declaration" (ref "declaration"),
            inOrder [field "value" (ref "expression"), ref "_semicolon"]]]]]]),
  ("namespace_export", inOrder [lit "*", lit "as", ref "_module_export_name"]),
  ("export_clause", inOrder [lit "\x7b", commaList (ref "export_specifier"), opt (lit ","), lit "\x7d"]),
  ("export_specifier", inOrder [field "name" (ref "_module_export_name"),
    opt (inOrder [lit "as", field "alias" (ref "_module_export_name")])]),
  ("_module_export_name", oneOf [ref "identifier", ref "string", lit "default"]),
  ("declaration", oneOf [ref "function_declaration", ref "generator_function_declaration",
    ref "class_declaration", ref "lexical_declaration", ref "variable_declaration",
    ref "using_declaration"]),
  ("import", lit "import"),
  ("import_statement", inOrder [lit "import",
    oneOf [inOrder [ref "import_clause", ref "_from_clause"], field "source" (ref "string")],
    opt (ref "import_attribute"), ref "_semicolon"]),
  ("import_clause", oneOf [ref "namespace_import", ref "named_imports",
    inOrder [ref "identifier",
      opt (inOrder [lit ",", oneOf [ref "namespace_import", ref "named_imports"]])]]),
  ("_from_clause", inOrder [lit "from", field "source" (ref "string")]),
  ("namespace_import", inOrder [lit "*", lit "as", ref "identifier"]),
  ("named_imports", inOrder [lit "\x7b", commaList (ref "import_specifier"), opt (lit ","), lit "\x7d"]),
  ("import_specifier", oneOf [field "name" (ref "identifier"),
    inOrder [field "name" (ref "_module_export_name"), lit "as", field "alias" (ref "identifier")]]),
  ("import_attribute", inOrder [lit "with", ref "object"])]

/-- Statements. -/
def statementRules : List (String × Rule Leaf) := [
  ("statement", oneOf [ref "export_statement", ref "import_statement", ref "debugger_statement",
    ref "expression_statement", ref "declaration", ref "statement_block", ref "if_statement",
    ref "switch_statement", ref "for_statement", ref "for_in_statement", ref "while_statement",
    ref "do_statement", ref "try_statement", ref "with_statement", ref "break_statement",
    ref "continue_statement", ref "return_statement", ref "throw_statement", ref "empty_statement",
    ref "labeled_statement"]),
  ("expression_statement", inOrder [ref "_expressions", ref "_semicolon"]),
  ("variable_declaration", inOrder [lit "var", commaList1 (ref "variable_declarator"), ref "_semicolon"]),
  ("lexical_declaration", inOrder [field "kind" (oneOf [lit "let", lit "const"]),
    commaList1 (ref "variable_declarator"), ref "_semicolon"]),
  ("using_declaration", inOrder [field "kind" (oneOf [lit "using", inOrder [lit "await", lit "using"]]),
    commaList1 (ref "variable_declarator"), ref "_semicolon"]),
  ("variable_declarator", inOrder [
    field "name" boundName, opt (ref "_initializer")]),
  ("statement_block", rightAssoc (inOrder [lit "\x7b", star (ref "statement"), lit "\x7d",
    opt (ref "_automatic_semicolon")])),
  ("else_clause", inOrder [lit "else", ref "statement"]),
  ("if_statement", rightAssoc (inOrder [lit "if", field "condition" (ref "parenthesized_expression"),
    field "consequence" (ref "statement"), opt (field "alternative" (ref "else_clause"))])),
  ("switch_statement", inOrder [lit "switch", field "value" (ref "parenthesized_expression"),
    field "body" (ref "switch_body")]),
  ("for_statement", inOrder [lit "for", lit "(",
    oneOf [field "initializer" (oneOf [ref "lexical_declaration", ref "variable_declaration"]),
      inOrder [field "initializer" (ref "_expressions"), lit ";"],
      field "initializer" (ref "empty_statement")],
    field "condition" (oneOf [inOrder [ref "_expressions", lit ";"], ref "empty_statement"]),
    field "increment" (opt (ref "_expressions")), lit ")", field "body" (ref "statement")]),
  ("for_in_statement", inOrder [lit "for", opt (lit "await"), ref "_for_header",
    field "body" (ref "statement")]),
  ("_for_header", inOrder [lit "(",
    oneOf [field "left" (oneOf [ref "_lhs_expression", ref "parenthesized_expression"]),
      inOrder [field "kind" (lit "var"),
        field "left" boundName, opt (ref "_initializer")],
      inOrder [field "kind" (oneOf [lit "let", lit "const"]),
        field "left" boundName, opt (ref "_automatic_semicolon")]],
    field "operator" (oneOf [lit "in", lit "of"]), field "right" (ref "_expressions"), lit ")"]),
  ("while_statement", inOrder [lit "while", field "condition" (ref "parenthesized_expression"),
    field "body" (ref "statement")]),
  ("do_statement", rightAssoc (inOrder [lit "do", field "body" (ref "statement"), lit "while",
    field "condition" (ref "parenthesized_expression"), opt (ref "_semicolon")])),
  ("try_statement", inOrder [lit "try", field "body" (ref "statement_block"),
    opt (field "handler" (ref "catch_clause")), opt (field "finalizer" (ref "finally_clause"))]),
  ("with_statement", inOrder [lit "with", field "object" (ref "parenthesized_expression"),
    field "body" (ref "statement")]),
  ("break_statement", inOrder [lit "break",
    field "label" (opt (named "statement_identifier" (ref "identifier"))), ref "_semicolon"]),
  ("continue_statement", inOrder [lit "continue",
    field "label" (opt (named "statement_identifier" (ref "identifier"))), ref "_semicolon"]),
  ("debugger_statement", inOrder [lit "debugger", ref "_semicolon"]),
  ("return_statement", inOrder [lit "return", opt (ref "_expressions"), ref "_semicolon"]),
  ("throw_statement", inOrder [lit "throw", ref "_expressions", ref "_semicolon"]),
  ("empty_statement", lit ";"),
  ("labeled_statement", dynamic (-1) (inOrder [
    field "label" (named "statement_identifier" (oneOf [ref "identifier", ref "_reserved_identifier"])),
    lit ":", field "body" (ref "statement")])),
  ("switch_body", inOrder [lit "\x7b", star (oneOf [ref "switch_case", ref "switch_default"]), lit "\x7d"]),
  ("switch_case", inOrder [lit "case", field "value" (ref "_expressions"), lit ":",
    field "body" (star (ref "statement"))]),
  ("switch_default", inOrder [lit "default", lit ":", field "body" (star (ref "statement"))]),
  ("catch_clause", inOrder [lit "catch",
    opt (inOrder [lit "(", field "parameter" (oneOf [ref "identifier", ref "_destructuring_pattern"]),
      lit ")"]),
    field "body" (ref "statement_block")]),
  ("finally_clause", inOrder [lit "finally", field "body" (ref "statement_block")]),
  ("parenthesized_expression", inOrder [lit "(", ref "_expressions", lit ")"])]

/-- Expressions and the literals that hold them. -/
def expressionRules : List (String × Rule Leaf) := [
  ("_expressions", oneOf [ref "expression", ref "sequence_expression"]),
  ("expression", oneOf [ref "primary_expression", ref "_jsx_element", ref "assignment_expression",
    ref "augmented_assignment_expression", ref "await_expression", ref "unary_expression",
    ref "binary_expression", ref "ternary_expression", ref "update_expression", ref "new_expression",
    ref "yield_expression"]),
  ("primary_expression", oneOf [ref "subscript_expression", ref "member_expression",
    ref "parenthesized_expression", ref "_identifier", named "identifier" (ref "_reserved_identifier"),
    ref "this", ref "super", ref "number", ref "string", ref "template_string", ref "regex", ref "true",
    ref "false", ref "null", ref "object", ref "array", ref "function_expression", ref "arrow_function",
    ref "generator_function", ref "class", ref "meta_property", ref "call_expression"]),
  ("yield_expression", rightAssoc (inOrder [lit "yield",
    oneOf [inOrder [lit "*", ref "expression"], opt (ref "expression")]])),
  ("object", prec "object" (inOrder [lit "\x7b",
    commaList (opt (oneOf [ref "pair", ref "spread_element", ref "method_definition",
      named "shorthand_property_identifier" (oneOf [ref "identifier", ref "_reserved_identifier"])])),
    lit "\x7d"])),
  ("object_pattern", prec "object" (inOrder [lit "\x7b",
    commaList (opt (oneOf [ref "pair_pattern", ref "rest_pattern", ref "object_assignment_pattern",
      named "shorthand_property_identifier_pattern"
        (oneOf [ref "identifier", ref "_reserved_identifier"])])),
    lit "\x7d"])),
  ("assignment_pattern", inOrder [field "left" (ref "pattern"), lit "=", field "right" (ref "expression")]),
  ("object_assignment_pattern", inOrder [
    field "left" (oneOf [
      named "shorthand_property_identifier_pattern"
        (oneOf [ref "_reserved_identifier", ref "identifier"]),
      ref "_destructuring_pattern"]),
    lit "=", field "right" (ref "expression")]),
  ("array", inOrder [lit "[", commaList (opt (oneOf [ref "expression", ref "spread_element"])), lit "]"]),
  ("array_pattern", inOrder [lit "[", commaList (opt (oneOf [ref "pattern", ref "assignment_pattern"])),
    lit "]"])]

/-- JSX elements. -/
def jsxRules : List (String × Rule Leaf) := [
  ("_jsx_element", oneOf [ref "jsx_element", ref "jsx_self_closing_element"]),
  ("jsx_element", inOrder [field "open_tag" (ref "jsx_opening_element"), star (ref "_jsx_child"),
    field "close_tag" (ref "jsx_closing_element")]),
  ("html_character_reference", pattern htmlReferenceLexeme),
  ("jsx_expression", inOrder [lit "\x7b",
    opt (oneOf [ref "expression", ref "sequence_expression", ref "spread_element"]), lit "\x7d"]),
  ("_jsx_child", oneOf [ref "jsx_text", ref "html_character_reference", ref "_jsx_element",
    ref "jsx_expression"]),
  ("jsx_opening_element", dynamic (-1) (inOrder [lit "<",
    opt (inOrder [field "name" (ref "_jsx_element_name"),
      star (field "attribute" (ref "_jsx_attribute"))]),
    lit ">"])),
  ("_jsx_identifier", oneOf [named "identifier" (ref "jsx_identifier"), ref "identifier"]),
  ("jsx_identifier", pattern jsxNameLexeme),
  ("nested_identifier", prec "member" (inOrder [
    field "object" (oneOf [ref "identifier", named "member_expression" (ref "nested_identifier")]),
    lit ".", field "property" (named "property_identifier" (ref "identifier"))])),
  ("jsx_namespace_name", inOrder [ref "_jsx_identifier", lit ":", ref "_jsx_identifier"]),
  ("_jsx_element_name", oneOf [ref "_jsx_identifier",
    named "member_expression" (ref "nested_identifier"), ref "jsx_namespace_name"]),
  ("jsx_closing_element", inOrder [lit "</", opt (field "name" (ref "_jsx_element_name")), lit ">"]),
  ("jsx_self_closing_element", inOrder [lit "<", field "name" (ref "_jsx_element_name"),
    star (field "attribute" (ref "_jsx_attribute")), lit "/>"]),
  ("_jsx_attribute", oneOf [ref "jsx_attribute", ref "jsx_expression"]),
  ("_jsx_attribute_name", oneOf [named "property_identifier" (ref "_jsx_identifier"),
    ref "jsx_namespace_name"]),
  ("jsx_attribute", inOrder [ref "_jsx_attribute_name",
    opt (inOrder [lit "=", ref "_jsx_attribute_value"])]),
  ("_jsx_string", oneOf [
    inOrder [lit "\"",
      star (oneOf [named "string_fragment" (ref "unescaped_double_jsx_string_fragment"),
        ref "html_character_reference"]),
      lit "\""],
    inOrder [lit "'",
      star (oneOf [named "string_fragment" (ref "unescaped_single_jsx_string_fragment"),
        ref "html_character_reference"]),
      lit "'"]]),
  ("unescaped_double_jsx_string_fragment", immediate 1 (jsxStringLexeme "\"")),
  ("unescaped_single_jsx_string_fragment", immediate 1 (jsxStringLexeme "'")),
  ("_jsx_attribute_value", oneOf [named "string" (ref "_jsx_string"), ref "jsx_expression",
    ref "_jsx_element"])]

/-- Functions and classes. -/
def functionRules : List (String × Rule Leaf) := [
  ("class", prec "literal" (inOrder [star (field "decorator" (ref "decorator")), lit "class",
    field "name" (opt (ref "identifier")), opt (ref "class_heritage"), field "body" (ref "class_body")])),
  ("class_declaration", prec "declare" (inOrder [star (field "decorator" (ref "decorator")), lit "class",
    field "name" (ref "identifier"), opt (ref "class_heritage"), field "body" (ref "class_body"),
    opt (ref "_automatic_semicolon")])),
  ("class_heritage", inOrder [lit "extends", ref "expression"]),
  ("function_expression", prec "literal" (inOrder [opt (lit "async"), lit "function",
    field "name" (opt (ref "identifier")), ref "_call_signature", field "body" (ref "statement_block")])),
  ("function_declaration", precRight "declare" (inOrder [opt (lit "async"), lit "function",
    field "name" (ref "identifier"), ref "_call_signature", field "body" (ref "statement_block"),
    opt (ref "_automatic_semicolon")])),
  ("generator_function", prec "literal" (inOrder [opt (lit "async"), lit "function", lit "*",
    field "name" (opt (ref "identifier")), ref "_call_signature", field "body" (ref "statement_block")])),
  ("generator_function_declaration", precRight "declare" (inOrder [opt (lit "async"), lit "function",
    lit "*", field "name" (ref "identifier"), ref "_call_signature",
    field "body" (ref "statement_block"), opt (ref "_automatic_semicolon")])),
  ("arrow_function", inOrder [opt (lit "async"),
    oneOf [field "parameter" (oneOf [named "identifier" (ref "_reserved_identifier"), ref "identifier"]),
      ref "_call_signature"],
    lit "=>", field "body" (oneOf [ref "expression", ref "statement_block"])]),
  ("_call_signature", field "parameters" (ref "formal_parameters")),
  ("_formal_parameter", oneOf [ref "pattern", ref "assignment_pattern"])]

/-- The binary operators with the name of their precedence. -/
def binaryOperators : List (String × String) := [
  ("&&", "logical_and"), ("||", "logical_or"), (">>", "binary_shift"), (">>>", "binary_shift"),
  ("<<", "binary_shift"), ("&", "bitwise_and"), ("^", "bitwise_xor"), ("|", "bitwise_or"),
  ("+", "binary_plus"), ("-", "binary_plus"), ("*", "binary_times"), ("/", "binary_times"),
  ("%", "binary_times"), ("**", "binary_exp"), ("<", "binary_relation"), ("<=", "binary_relation"),
  ("==", "binary_equality"), ("===", "binary_equality"), ("!=", "binary_equality"),
  ("!==", "binary_equality"), (">=", "binary_relation"), (">", "binary_relation"), ("??", "ternary"),
  ("instanceof", "binary_relation"), ("in", "binary_relation")]

/-- Only powers group to the right; only `in` takes a private name on its left. -/
def binaryRule (operator precedence : String) : Rule Leaf :=
  let left := if operator == "in" then oneOf [ref "expression", ref "private_property_identifier"]
    else ref "expression"
  let body := inOrder [field "left" left, field "operator" (lit operator), field "right" (ref "expression")]
  if operator == "**" then precRight precedence body else precLeft precedence body

/-- Operators, calls and assignments. -/
def operatorRules : List (String × Rule Leaf) := [
  ("optional_chain", lit "?."),
  ("call_expression", oneOf [
    prec "call" (inOrder [field "function" (oneOf [ref "expression", ref "import"]),
      field "arguments" (ref "arguments")]),
    prec "template_call" (inOrder [field "function" (oneOf [ref "primary_expression", ref "new_expression"]),
      field "arguments" (ref "template_string")]),
    prec "member" (inOrder [field "function" (ref "primary_expression"),
      field "optional_chain" (ref "optional_chain"), field "arguments" (ref "arguments")])]),
  ("new_expression", precRight "new" (inOrder [lit "new",
    field "constructor" (oneOf [ref "primary_expression", ref "new_expression"]),
    field "arguments" (opt (dynamic 1 (ref "arguments")))])),
  ("await_expression", prec "unary_void" (inOrder [lit "await", ref "expression"])),
  ("member_expression", prec "member" (inOrder [
    field "object" (oneOf [ref "expression", ref "primary_expression", ref "import"]),
    oneOf [lit ".", field "optional_chain" (ref "optional_chain")],
    field "property" (oneOf [ref "private_property_identifier",
      anyWord (named "property_identifier" (ref "identifier"))])])),
  ("subscript_expression", precRight "member" (inOrder [
    field "object" (oneOf [ref "expression", ref "primary_expression"]),
    opt (field "optional_chain" (ref "optional_chain")),
    lit "[", field "index" (ref "_expressions"), lit "]"])),
  ("_lhs_expression", oneOf [ref "member_expression", ref "subscript_expression", ref "_identifier",
    named "identifier" (ref "_reserved_identifier"), ref "_destructuring_pattern"]),
  ("assignment_expression", precRight "assign" (inOrder [
    field "left" (oneOf [ref "parenthesized_expression", ref "_lhs_expression"]), lit "=",
    field "right" (ref "expression")])),
  ("_augmented_assignment_lhs", oneOf [ref "member_expression", ref "subscript_expression",
    named "identifier" (ref "_reserved_identifier"), ref "identifier", ref "parenthesized_expression"]),
  ("augmented_assignment_expression", precRight "assign" (inOrder [
    field "left" (ref "_augmented_assignment_lhs"),
    field "operator" (oneOf (["+=", "-=", "*=", "/=", "%=", "^=", "&=", "|=", ">>=", ">>>=", "<<=",
      "**=", "&&=", "||=", "??="].map lit)),
    field "right" (ref "expression")])),
  ("_initializer", inOrder [lit "=", field "value" (ref "expression")]),
  ("_destructuring_pattern", oneOf [ref "object_pattern", ref "array_pattern"]),
  ("spread_element", inOrder [lit "...", ref "expression"]),
  ("ternary_expression", precRight "ternary" (inOrder [field "condition" (ref "expression"),
    literally "?" (ref "_ternary_qmark"), field "consequence" (ref "expression"), lit ":",
    field "alternative" (ref "expression")])),
  ("binary_expression", oneOf (binaryOperators.map fun p => binaryRule p.1 p.2)),
  ("unary_expression", precLeft "unary_void" (inOrder [
    field "operator" (oneOf (["!", "~", "-", "+", "typeof", "void", "delete"].map lit)),
    field "argument" (ref "expression")])),
  ("update_expression", leftAssoc (oneOf [
    inOrder [field "argument" (ref "expression"), field "operator" (oneOf [lit "++", lit "--"])],
    inOrder [field "operator" (oneOf [lit "++", lit "--"]), field "argument" (ref "expression")]])),
  ("sequence_expression", rightAssoc (commaList1 (ref "expression")))]

/-- Strings, templates, regular expressions, numbers and names. -/
def primitiveRules : List (String × Rule Leaf) := [
  ("string", oneOf [
    inOrder [lit "\"",
      star (oneOf [named "string_fragment" (ref "unescaped_double_string_fragment"),
        ref "escape_sequence"]),
      lit "\""],
    inOrder [lit "'",
      star (oneOf [named "string_fragment" (ref "unescaped_single_string_fragment"),
        ref "escape_sequence"]),
      lit "'"]]),
  ("unescaped_double_string_fragment", immediate 1 (.many1 (.noneOf "\"\\\r\n"))),
  ("unescaped_single_string_fragment", immediate 1 (.many1 (.noneOf "'\\\r\n"))),
  ("escape_sequence", immediate 0 escapeLexeme),
  ("comment", pattern commentLexeme),
  ("template_string", inOrder [lit "\x60",
    star (oneOf [named "string_fragment" (ref "_template_chars"), ref "escape_sequence",
      ref "template_substitution"]),
    lit "\x60"]),
  ("template_substitution", inOrder [lit "$\x7b", ref "_expressions", lit "\x7d"]),
  ("regex", inOrder [lit "/", field "pattern" (ref "regex_pattern"),
    leaf (.token ⟨some "/", .text "/", true, 1⟩), opt (field "flags" (ref "regex_flags"))]),
  ("regex_pattern", immediate (-1) regexLexeme),
  ("regex_flags", immediate 0 (.many1 (.range 'a' 'z'))),
  ("number", pattern numberLexeme),
  ("_identifier", oneOf [ref "undefined", ref "identifier"]),
  ("identifier", pattern nameLexeme),
  ("private_property_identifier", pattern (.seq (.char '#') nameLexeme)),
  ("meta_property", oneOf [inOrder [lit "new", lit ".", lit "target"],
    inOrder [lit "import", lit ".", lit "meta"]]),
  ("this", lit "this"),
  ("super", lit "super"),
  ("true", lit "true"),
  ("false", lit "false"),
  ("null", lit "null"),
  ("undefined", lit "undefined")]

/-- Arguments, decorators, class members, patterns and property names. -/
def componentRules : List (String × Rule Leaf) := [
  ("arguments", inOrder [lit "(", commaList (opt (oneOf [ref "expression", ref "spread_element"])),
    lit ")"]),
  ("decorator", inOrder [lit "@", oneOf [ref "identifier",
    named "member_expression" (ref "decorator_member_expression"),
    named "call_expression" (ref "decorator_call_expression")]]),
  ("decorator_member_expression", prec "member" (inOrder [
    field "object" (oneOf [ref "identifier", named "member_expression" (ref "decorator_member_expression")]),
    lit ".", field "property" (named "property_identifier" (ref "identifier"))])),
  ("decorator_call_expression", prec "call" (inOrder [
    field "function" (oneOf [ref "identifier",
      named "member_expression" (ref "decorator_member_expression")]),
    field "arguments" (ref "arguments")])),
  ("class_body", inOrder [lit "\x7b",
    star (oneOf [inOrder [field "member" (ref "method_definition"), opt (lit ";")],
      inOrder [field "member" (ref "field_definition"), ref "_semicolon"],
      field "member" (ref "class_static_block"),
      lit ";"]),
    lit "\x7d"]),
  ("field_definition", inOrder [star (field "decorator" (ref "decorator")), opt (lit "static"),
    field "property" (ref "_property_name"), opt (ref "_initializer")]),
  ("formal_parameters", inOrder [lit "(",
    opt (inOrder [commaList1 (ref "_formal_parameter"), opt (lit ",")]), lit ")"]),
  ("class_static_block", inOrder [lit "static", field "body" (ref "statement_block")]),
  ("pattern", dynamic (-1) (oneOf [ref "_lhs_expression", ref "rest_pattern"])),
  ("rest_pattern", rightAssoc (inOrder [lit "...", ref "_lhs_expression"])),
  ("method_definition", inOrder [star (field "decorator" (ref "decorator")),
    opt (oneOf [lit "static", literally "static get" (pattern staticGetLexeme)]),
    opt (lit "async"), opt (oneOf [lit "get", lit "set", lit "*"]),
    field "name" (ref "_property_name"), field "parameters" (ref "formal_parameters"),
    field "body" (ref "statement_block")]),
  ("pair", inOrder [field "key" (ref "_property_name"), lit ":", field "value" (ref "expression")]),
  ("pair_pattern", inOrder [field "key" (ref "_property_name"), lit ":",
    field "value" (oneOf [ref "pattern", ref "assignment_pattern"])]),
  ("_property_name", anyWord (oneOf [
    named "property_identifier" (oneOf [ref "identifier", ref "_reserved_identifier"]),
    ref "private_property_identifier", ref "string", ref "number", ref "computed_property_name"])),
  ("computed_property_name", inOrder [lit "[", ref "expression", lit "]"]),
  ("_reserved_identifier",
    oneOf [lit "get", lit "set", lit "async", lit "await", lit "static", lit "export", lit "let"]),
  ("_semicolon", oneOf [ref "_automatic_semicolon", lit ";"])]

/-- The language. -/
def description : Description where
  rules := moduleRules ++ statementRules ++ expressionRules ++ jsxRules ++ functionRules
    ++ operatorRules ++ primitiveRules ++ componentRules
  externals := [.ref "_automatic_semicolon", .ref "_template_chars", .ref "_ternary_qmark",
    .ref "html_comment", .token ⟨some "||", .text "||", false, 0⟩, .ref "escape_sequence",
    .ref "regex_pattern", .ref "jsx_text"]
  extras := ["comment", "html_comment"]
  separators := blanks
  supertypes := ["statement", "declaration", "expression", "primary_expression", "pattern"]
  inlined := ["_call_signature", "_formal_parameter", "_expressions", "_semicolon", "_identifier",
    "_reserved_identifier", "_jsx_attribute", "_jsx_element_name", "_jsx_child", "_jsx_element",
    "_jsx_attribute_name", "_jsx_attribute_value", "_jsx_identifier", "_lhs_expression"]
  word := "identifier"
  reserved := ["break", "case", "catch", "class", "const", "continue", "debugger", "default", "delete",
    "do", "else", "export", "extends", "false", "finally", "for", "function", "if", "import", "in",
    "instanceof", "new", "null", "return", "super", "switch", "this", "throw", "true", "try", "typeof",
    "var", "void", "while", "with"]
  precedences := [
    [.name "member", .name "template_call", .name "call", .rule "update_expression", .name "unary_void",
      .name "binary_exp", .name "binary_times", .name "binary_plus", .name "binary_shift",
      .name "binary_compare", .name "binary_relation", .name "binary_equality", .name "bitwise_and",
      .name "bitwise_xor", .name "bitwise_or", .name "logical_and", .name "logical_or", .name "ternary",
      .rule "sequence_expression", .rule "arrow_function"],
    [.name "assign", .rule "primary_expression"],
    [.name "member", .name "template_call", .name "new", .name "call", .rule "expression"],
    [.name "declare", .name "literal"],
    [.rule "primary_expression", .rule "statement_block", .name "object"],
    [.rule "meta_property", .rule "import"],
    [.rule "import_statement", .rule "import"],
    [.rule "export_statement", .rule "primary_expression"],
    [.rule "lexical_declaration", .rule "primary_expression"]]

end Advisor.Script
