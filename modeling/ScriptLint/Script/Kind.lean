namespace ScriptLint.Script

/-! The kinds of nodes that checks tell apart, and the roles that children play in their
parents. -/

inductive Kind where
  | program
  | comment
  | hashBangLine
  | functionDeclaration
  | generatorFunctionDeclaration
  | functionExpression
  | generatorFunction
  | arrowFunction
  | methodDefinition
  | classStaticBlock
  | classDeclaration
  | statementBlock
  | switchBody
  | lexicalDeclaration
  | variableDeclaration
  | variableDeclarator
  | returnStatement
  | importStatement
  | exportStatement
  | parenthesizedExpression
  | callExpression
  | memberExpression
  | subscriptExpression
  | object
  | pair
  | identifier
  | propertyIdentifier
  | shorthandProperty
  | shorthandPattern
  | objectPattern
  | arrayPattern
  | restPattern
  | pairPattern
  | assignmentPattern
  | objectAssignmentPattern
  | string
  | stringFragment
  | escapeSequence
  | jsx (name : String)
  | other (name : String)
  /-- A mark or keyword, written as itself. -/
  | token (text : String)
  | error
  deriving DecidableEq, Inhabited, Repr

namespace Kind

def fixed : List (String × Kind) := [
  ("program", program),
  ("comment", comment),
  ("hash_bang_line", hashBangLine),
  ("function_declaration", functionDeclaration),
  ("generator_function_declaration", generatorFunctionDeclaration),
  ("function_expression", functionExpression),
  ("generator_function", generatorFunction),
  ("arrow_function", arrowFunction),
  ("method_definition", methodDefinition),
  ("class_static_block", classStaticBlock),
  ("class_declaration", classDeclaration),
  ("statement_block", statementBlock),
  ("switch_body", switchBody),
  ("lexical_declaration", lexicalDeclaration),
  ("variable_declaration", variableDeclaration),
  ("variable_declarator", variableDeclarator),
  ("return_statement", returnStatement),
  ("import_statement", importStatement),
  ("export_statement", exportStatement),
  ("parenthesized_expression", parenthesizedExpression),
  ("call_expression", callExpression),
  ("member_expression", memberExpression),
  ("subscript_expression", subscriptExpression),
  ("object", object),
  ("pair", pair),
  ("identifier", identifier),
  ("property_identifier", propertyIdentifier),
  ("shorthand_property_identifier", shorthandProperty),
  ("shorthand_property_identifier_pattern", shorthandPattern),
  ("object_pattern", objectPattern),
  ("array_pattern", arrayPattern),
  ("rest_pattern", restPattern),
  ("pair_pattern", pairPattern),
  ("assignment_pattern", assignmentPattern),
  ("object_assignment_pattern", objectAssignmentPattern),
  ("string", string),
  ("string_fragment", stringFragment),
  ("escape_sequence", escapeSequence)]

def ofName (name : String) (named : Bool) : Kind :=
  if !named then token name
  else
    match fixed.lookup name with
    | some k => k
    | none => if name.startsWith "jsx_" then jsx name else other name

def name : Kind → String
  | jsx n | other n | token n => n
  | error => "ERROR"
  | k => ((fixed.find? fun e => e.2 == k).map (·.1)).getD ""

def isNamed : Kind → Bool
  | token _ => false
  | _ => true

/-- Comments and the first line of an executable script, which are no statements. -/
def isTrivia : Kind → Bool
  | comment | hashBangLine => true
  | _ => false

/-- Kinds whose statements share a set of lexical names. -/
def isScope : Kind → Bool
  | program | statementBlock | switchBody => true
  | _ => false

/-- Kinds that keep the variables declared inside them. -/
def isFunctionBoundary : Kind → Bool
  | functionDeclaration | generatorFunctionDeclaration | functionExpression
  | generatorFunction | arrowFunction | methodDefinition | classStaticBlock => true
  | other name | token name => name == "function"
  | _ => false

end Kind

inductive Role where
  | name
  | kind
  | parameters
  | parameter
  | body
  | value
  | left
  | key
  | object
  | property
  | index
  | function
  | other (name : String)
  deriving DecidableEq, Inhabited, Repr

def Role.ofName : String → Role
  | "name" => name
  | "kind" => kind
  | "parameters" => parameters
  | "parameter" => parameter
  | "body" => body
  | "value" => value
  | "left" => left
  | "key" => key
  | "object" => object
  | "property" => property
  | "index" => index
  | "function" => function
  | n => other n

end ScriptLint.Script
