import ClassAtlas.Pattern.Build

/-!
The shapes of C++ declarations that extraction looks for, as programs. Each is written in the
comment above it as a regular expression; `\s` and `\w` are Unicode classes.

A class declaration is the keyword `class`, an optional export macro such as `ENGINE_API`,
and the name; a definition line may start with a `UCLASS(...)` macro and goes on with an
optional `final` and an inheritance clause after a colon. A forward declaration, where a
semicolon follows the name, is no definition.
-/

namespace ClassAtlas.Source

open ClassAtlas.Pattern Prog

/-- `\s*`. -/
def blanks : Prog := many blank

/-- An export macro and the blanks after it: `\w+_API\s+`, with case ignored when `ignoring`. -/
def exportMacro (ignoring : Bool) : Prog := all [many1 wordChar, literal ignoring "_API", many1 blank]

/-- A macro call whose arguments hold no closing parenthesis: `NAME\s*\([^)]*\)`. -/
def macroCall (ignoring : Bool) (name : String) : Prog :=
  all [literal ignoring name, blanks, lit '(', many (but ')'), lit ')']

/-- `^\s*(?:UCLASS\s*\([^)]*\)\s*)?class\s+(?:\w+_API\s+)?(NAME)\b(?!\s*(?:final\s*)?;)`
`\s*(?:final)?\s*(?::\s*(.+))?`, ignoring case, matched at the start of a line: group 1 is the
name as written, group 2 the inheritance clause. -/
def definitionShape (name : String) : Program :=
  ⟨all [.point .textStart, blanks,
    optional (all [macroCall true "UCLASS", blanks]),
    literal true "class", many1 blank,
    optional (exportMacro true),
    .group 1 (literal true name), boundary,
    .look none true (all [blanks, optional (all [literal true "final", blanks]), lit ';']),
    blanks, optional (literal true "final"), blanks,
    optional (all [lit ':', blanks, .group 2 (many1 anyInLine)])], 2⟩

/-- `\bclass\s+(?:\w+_API\s+)?NAME\s*(?:final)?\s*(?::|\{)`, ignoring case, searched anywhere. -/
def existenceShape (name : String) : Program :=
  ⟨all [boundary, literal true "class", many1 blank, optional (exportMacro true),
    literal true name, blanks, optional (literal true "final"), blanks, oneOf [':', '{']], 0⟩

/-- A type: `\w+(?:<[^>]+>)?(?:\s*[*&])?`. -/
def typeShape : Prog :=
  all [many1 wordChar, optional (all [lit '<', many1 (but '>'), lit '>']),
    optional (all [blanks, oneOf ['*', '&']])]

/-- `^\s*(?:UFUNCTION\s*\([^)]*\)\s*)?(?:virtual\s+)?(?:static\s+)?(?:\w+_API\s+)?`
`(TYPE)\s+(\w+)\s*\([^)]*\)\s*(?:const)?\s*(?:override)?`, matched at the start of a line:
group 1 is the return type, group 2 the name. -/
def methodShape : Program :=
  ⟨all [.point .textStart, blanks,
    optional (all [macroCall false "UFUNCTION", blanks]),
    optional (all [literal false "virtual", many1 blank]),
    optional (all [literal false "static", many1 blank]),
    optional (exportMacro false),
    .group 1 typeShape, many1 blank, .group 2 (many1 wordChar), blanks,
    lit '(', many (but ')'), lit ')', blanks,
    optional (literal false "const"), blanks, optional (literal false "override")], 2⟩

/-- `^[ \t]*UPROPERTY\s*\([^)]*\)[ \t]*\n?\s*(TYPE)\s+(\w+)`, with `^` at any line start:
group 1 is the type, group 2 the name. -/
def propertyShape : Program :=
  ⟨all [.point .lineStart, many (oneOf [' ', '\t']), macroCall false "UPROPERTY",
    many (oneOf [' ', '\t']), optional (lit '\n'), blanks,
    .group 1 typeShape, many1 blank, .group 2 (many1 wordChar)], 2⟩

/-- `\bclass\s+(?:\w+_API\s+)?(\w+)\s*(?:final)?\s*:`: group 1 is the name. -/
def anyClassShape : Program :=
  ⟨all [boundary, literal false "class", many1 blank, optional (exportMacro false),
    .group 1 (many1 wordChar), blanks, optional (literal false "final"), blanks, lit ':'], 1⟩

/-- `(?:public|private|protected)\s+(\w+)`: group 1 is the base's name. -/
def baseShape : Program :=
  ⟨all [first [literal false "public", literal false "private", literal false "protected"],
    many1 blank, .group 1 (many1 wordChar)], 1⟩

/-- `\s*\{.*$`: an opening brace and the rest of the text after it. -/
def braceTailShape : Program :=
  ⟨all [blanks, lit '{', many anyInLine, .point .finalEnd], 0⟩

end ClassAtlas.Source
