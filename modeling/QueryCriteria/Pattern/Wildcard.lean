import QueryCriteria.Pattern.Like

/-!
Two spellings with `*` for any run and `?` for any single character: wildcards, as search engines
read them, and globs, which know bracketed classes as well.
-/
namespace QueryCriteria.Pattern

/-- The pattern that a wildcard text spells; a backslash at the very end stands for itself. -/
def ofWildcard : List Char → Pattern
  | [] => []
  | '*' :: rest => .run :: ofWildcard rest
  | '?' :: rest => .one :: ofWildcard rest
  | '\\' :: [] => [.literal '\\']
  | '\\' :: c :: rest => .literal c :: ofWildcard rest
  | c :: rest => .literal c :: ofWildcard rest

/-- How a token stands in a wildcard text; characters with a meaning of their own are escaped. -/
def Token.toWildcard : Token → List Char
  | .run => ['*']
  | .one => ['?']
  | .literal c => if c == '*' || c == '?' || c == '\\' then ['\\', c] else [c]

/-- The wildcard text of the same pattern as a LIKE text. -/
def likeToWildcard (pattern : String) : String :=
  String.ofList ((ofLike pattern.toList).flatMap Token.toWildcard)

/-- The glob text that matches exactly the given text. -/
def escapeGlob (s : String) : String :=
  escapeWhere (fun c => c == '\\' || c == '*' || c == '?' || c == '[' || c == ']') s

end QueryCriteria.Pattern
