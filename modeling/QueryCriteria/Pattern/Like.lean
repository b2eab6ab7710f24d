import QueryCriteria.Pattern.Basic

/-!
The LIKE spelling of patterns: `%` is any run, `_` any single character, and a backslash makes the
next character literal.
-/
namespace QueryCriteria.Pattern

/-- The pattern that a LIKE text spells; a backslash at the very end stands for itself. -/
def ofLike : List Char → Pattern
  | [] => []
  | '%' :: rest => .run :: ofLike rest
  | '_' :: rest => .one :: ofLike rest
  | '\\' :: [] => [.literal '\\']
  | '\\' :: c :: rest => .literal c :: ofLike rest
  | c :: rest => .literal c :: ofLike rest

/-- Whether a text matches a LIKE text. -/
def like (text pattern : String) : Bool :=
  accepts (ofLike pattern.toList) text.toList

/-- A backslash in front of every character that satisfies the condition. -/
def escapeWhere (special : Char → Bool) (s : String) : String :=
  String.ofList (s.toList.flatMap fun c => if special c then ['\\', c] else [c])

/-- The LIKE text that matches exactly the given text. -/
def escapeLike (s : String) : String :=
  escapeWhere (fun c => c == '\\' || c == '%' || c == '_') s

end QueryCriteria.Pattern
