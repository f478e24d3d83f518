import RuleChain.Text.Search

/-!
# Email addresses

An address is a local part, an at sign and a domain. The domain is a row of labels with single dots
between them; a label holds letters, digits and inner hyphens, at most 63 in all. Only ASCII
characters belong to an address.
-/

namespace RuleChain.Text

/-- The signs that a local part may hold besides letters and digits. -/
def localSigns : List Char :=
  ['.', '!', '#', '$', '%', '&', '\'', '*', '+', '/', '=', '?', '^', '_', '\x60', '\x7b', '|',
    '\x7d', '~', '-']

def isLocalChar (c : Char) : Bool :=
  c.isAlphanum || localSigns.contains c

def isLabelChar (c : Char) : Bool :=
  c.isAlphanum || c == '-'

/-- A label: 1 to 63 letters, digits and hyphens, without a hyphen at either end. -/
def isLabel (s : List Char) : Bool :=
  !s.isEmpty && s.length ≤ 63 && s.all isLabelChar && s.head? != some '-' && s.getLast? != some '-'

def isDomain (s : List Char) : Bool :=
  (splitChars ['.'] s).all isLabel

def isEmail (s : List Char) : Bool :=
  match cutChars? ['@'] s with
  | some (mailbox, domain) => !mailbox.isEmpty && mailbox.all isLocalChar && isDomain domain
  | none => false

end RuleChain.Text
