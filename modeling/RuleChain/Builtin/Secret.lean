import RuleChain.Password.Scheme
import RuleChain.Rule.Registry
import RuleChain.Tree.Reading

/-!
# Passwords

Rules that put the record of a password in its place and that compare a password with a record.
-/

namespace RuleChain.Builtin

/-- The record of the text form of a value that is no container and not null. -/
def toPasswordHash (scheme : PasswordScheme) : Handler :=
  .plain fun _ value =>
    if value.isContainer || value.isNull then .ok (.fail "%s must be a password." value)
    else
      match scheme.record? value.plainText with
      | some record => .ok (.proceed (.text record))
      | none => .ok (.fail "%s could not be hashed." value)

/-- Texts that match the record in the options. The options are one record, which holds commas. -/
def passwordVerify (scheme : PasswordScheme) : Handler :=
  .plain fun inv value =>
    if !inv.hasOptions then .error (inv.invalid .noPasswordHash)
    else
      match scheme.verifier? inv.call.options with
      | none => .error (inv.invalid .malformedPasswordHash)
      | some verify =>
        let ok := match value with
          | .text password => verify password
          | _ => false
        .ok (.check ok "%s does not match." value)

end RuleChain.Builtin
