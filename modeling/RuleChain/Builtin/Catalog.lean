import RuleChain.Builtin.Bound
import RuleChain.Builtin.Content
import RuleChain.Builtin.Kind
import RuleChain.Builtin.Secret

/-!
# The catalog

The rules that come with the library: the identifiers of their handlers and their names.
-/

namespace RuleChain

namespace Builtin

/-- Identifiers, rule names and handlers of the catalog, with a scheme for passwords. -/
def catalog (scheme : PasswordScheme) : List (String × List String × Handler) := [
  ("cast::to_integer", ["toInteger", "toInt"], toInteger),
  ("cast::cast_integer", ["castInteger", "castInt"], castInteger),
  ("cast::to_float", ["toFloat", "toNumber"], toFloat),
  ("cast::to_string", ["toString"], toText),
  ("cast::to_boolean", ["toBoolean", "toBool"], toBoolean),
  ("cast::trim", ["trim"], trim),
  ("cast::to_lowercase", ["toLowercase"], toLowercase),
  ("cast::to_uppercase", ["toUppercase"], toUppercase),
  ("cast::default", ["default"], default),
  ("types::is_integer", ["isInteger", "isInt"], isInteger),
  ("types::is_float", ["isFloat", "isNumber"], isNumber),
  ("types::is_string", ["isString"], isText),
  ("types::is_bool", ["isBool", "isBoolean"], isBoolean),
  ("types::is_array", ["isArray"], isContainer),
  ("compare::greater_than", ["isGreaterThan"], isGreaterThan),
  ("compare::less_than", ["isLessThan"], isLessThan),
  ("compare::between", ["isBetween", "between"], isBetween),
  ("compare::one_of", ["isOneOf"], isOneOf),
  ("compare::count_less_than", ["isCountLessThan"], isCountLessThan),
  ("compare::count_greater_than", ["isCountGreaterThan"], isCountGreaterThan),
  ("string::min_length", ["minLength"], minLength),
  ("string::max_length", ["maxLength"], maxLength),
  ("string::exact_length", ["exactLength"], exactLength),
  ("string::is_email", ["isEmail"], isEmail),
  ("string::is_alpha", ["isAlpha"], isAlpha),
  ("string::is_alpha_numeric", ["isAlphaNumeric"], isAlphaNumeric),
  ("presence::required", ["required"], required),
  ("presence::not_empty", ["notEmpty"], notEmpty),
  ("presence::allow_empty", ["allowEmpty"], allowEmpty),
  ("password::hash", ["toPasswordHash"], toPasswordHash scheme),
  ("password::verify", ["passwordVerify"], passwordVerify scheme),
  ("json::validate", ["validateJson"], .document)]

end Builtin

def Registry.builtins (scheme : PasswordScheme) : Registry Handler :=
  (Builtin.catalog scheme).foldl (fun r entry => r.register entry.1 entry.2.1 entry.2.2) .empty

end RuleChain
