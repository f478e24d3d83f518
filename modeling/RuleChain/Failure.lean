import RuleChain.Message.Template
import RuleChain.SetupError
import RuleChain.Text.Search
import RuleChain.Tree

/-!
# Failures

A rejection is one rule's refusal of one value; a failure is all rejections of a run. A fault is
whatever ends a run: a failure or a setup error.
-/

namespace RuleChain

/-- One rule's refusal of one value, with the message and the pieces it was made from. -/
structure Rejection where
  message : String
  /-- The key of the field, empty for a single value. -/
  key : String
  template : String
  label : String
  options : String
  rule : String
  input : String
  deriving DecidableEq

/-- The rejection whose message is the template with label, options, rule and input. -/
def Rejection.make (key template label options rule input : String) : Rejection :=
  { message := Message.interpolate template [label, options, rule, input]
    key, template, label, options, rule, input }

/-- All rejections of a run, with a status code. -/
structure Failure where
  code : UInt16
  rejections : List Rejection
  deriving DecidableEq

namespace Failure

def texts (failure : Failure) : List String :=
  failure.rejections.map (·.message)

def message (failure : Failure) : String :=
  Text.join "\n" failure.texts

end Failure

def Rejection.toTree (r : Rejection) : Tree :=
  .object [("message", .text r.message), ("key", .text r.key), ("template", .text r.template),
    ("human", .text r.label), ("options", .text r.options), ("rule", .text r.rule),
    ("input", .text r.input)]

/-- A failure as an object: its message, its code and its rejections. -/
def Failure.toTree (failure : Failure) : Tree :=
  .object [("message", .text failure.message),
    ("code", .number (.integer failure.code.toNat
      ⟨by omega, by have := failure.code.toNat_lt; omega⟩)),
    ("errors", .list (failure.rejections.map Rejection.toTree))]

inductive Fault where
  | setup (error : SetupError)
  | failed (failure : Failure)
  deriving DecidableEq

def Fault.message : Fault → String
  | .setup error => error.message
  | .failed failure => failure.message

end RuleChain
