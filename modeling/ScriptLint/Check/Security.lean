import ScriptLint.Check.Basic
import ScriptLint.Pattern.Reading

namespace ScriptLint

open ScriptLint.Text

/-! The check for what the sandbox forbids. It reads the lines of a script and not its
tree, so it also finds what is hidden in strings and comments. -/

/-- A pattern that no line may match, with the text it is written as. -/
structure Rule where
  text : String
  message : String
  pattern : Pattern
  deriving Inhabited

namespace Rule

def ofText? (text message : String) : Option Rule :=
  (Pattern.ofText text.toList).map (⟨text, message, ·⟩)

def matchesLine (r : Rule) (line : List Char) : Bool := r.pattern.matchesIn isWord line

/-- The built-in rules as they are written. What stands for the place before a name says
that the name is neither a property nor part of a longer one. -/
def builtinTexts : List (String × String) := [
  ("\\beval\\s*\\(",
    "eval() is not allowed: dynamic code execution is blocked in the sandbox"),
  ("(?:^|[^.\\w$])Function\\s*\\(",
    "The Function constructor is not allowed: dynamic code execution is blocked in the sandbox"),
  ("\\brequire\\s*\\(",
    "require() is not allowed: modules cannot be loaded in the sandbox"),
  ("(?:^|[^.\\w$])import\\s*\\(|^\\s*import\\s+[\\w\x7b*'\"]",
    "import is not allowed: modules cannot be loaded in the sandbox"),
  ("(?:^|[^.\\w$])process\\s*(?:[.\\[;,)\\]\x7d?]|$)",
    "Access to \x60process\x60 is not allowed in the sandbox"),
  ("(?:^|[^.\\w$])global\\s*(?:[.\\[;,)\\]\x7d?]|$)",
    "Access to \x60global\x60 is not allowed in the sandbox"),
  ("\\bglobalThis\\b",
    "Access to \x60globalThis\x60 is not allowed in the sandbox"),
  ("__proto__",
    "Access to \x60__proto__\x60 is not allowed: prototype manipulation is blocked"),
  ("\\.constructor\\s*(?:\\.\\s*constructor\\b|\\[\\s*['\"\x60]constructor)",
    "Chained \x60.constructor.constructor\x60 access is not allowed: "
      ++ "it can reach the Function constructor"),
  ("(?:^|[^.\\w$])fs\\s*\\.\\s*\\w|\\bchild_process\\b",
    "Filesystem and process APIs (\x60fs\x60, \x60child_process\x60) are not available "
      ++ "in the sandbox"),
  ("\\b(?:spawn|spawnSync|execSync|execFile|execFileSync|fork)\\s*\\(",
    "Spawning processes is not allowed in the sandbox"),
  ("\\bset(?:Timeout|Interval|Immediate)\\s*\\(\\s*['\"\x60]",
    "Timers with string arguments evaluate code and are not allowed; pass a function instead")]

def builtin : List Rule :=
  builtinTexts.filterMap fun (text, message) => ofText? text message

def withBuiltin (extra : List Rule) : List Rule := builtin ++ extra

def finding (r : Rule) (line : Nat) : Finding :=
  { kind := .security, severity := .error, message := r.message, line := some line }

def scanLine (rules : List Rule) (line : List Char) (number : Nat) : List Finding :=
  (rules.filter (·.matchesLine line)).map (·.finding number)

/-- The findings of rules, line by line and on a line in the order of the rules. -/
def scan (rules : List Rule) (source : List Char) : List Finding :=
  ((lines source).zipIdx 1).flatMap fun (line, number) => scanLine rules line number

end Rule

namespace Check

def security (extra : List Rule) : Check :=
  .ofFindings "security" "Detects APIs and keywords the sandbox forbids"
    fun c => Rule.scan (Rule.withBuiltin extra) c.source

end Check

end ScriptLint
