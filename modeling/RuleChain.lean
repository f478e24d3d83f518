import RuleChain.Text.Search
import RuleChain.Text.Blank
import RuleChain.Text.Letter
import RuleChain.Text.Case
import RuleChain.Text.Quoted
import RuleChain.Text.Numeral
import RuleChain.Number.Binary64
import RuleChain.Number
import RuleChain.Tree.Equality
import RuleChain.Tree.Printer
import RuleChain.Path.Flat
import RuleChain.Path.Wildcard
import RuleChain.Tree.Reading
import RuleChain.Message.Template
import RuleChain.Message.Wording
import RuleChain.Failure
import RuleChain.Rule.Target
import RuleChain.Builtin.Kind
import RuleChain.Builtin.Bound
import RuleChain.Builtin.Content
import RuleChain.Engine
import RuleChain.Builtin.Catalog
import RuleChain.Password.Argon2
import RuleChain.Settings.Reader
import RuleChain.Filter
import RuleChain.DocumentChecker
import RuleChain.Log.Settings
import RuleChain.Log.Directive
import RuleChain.Proofs.WriteRefusal
import RuleChain.Proofs.WriteFrame
import RuleChain.Proofs.ChainRun
import RuleChain.Proofs.KeyedRun
import RuleChain.Proofs.WriteLens
import RuleChain.Proofs.Branches
import RuleChain.Proofs.LeafPaths
import RuleChain.Proofs.ExpandFlatten
import RuleChain.Proofs.FlattenExpand
import RuleChain.Proofs.WildcardMatches
import RuleChain.Proofs.RunSetup
import RuleChain.Proofs.PrintedTree
import RuleChain.Proofs.DocumentCheck
import RuleChain.Proofs.NestedCheck
import RuleChain.Proofs.RaisedRun
import RuleChain.Proofs.NestedRegistry
import RuleChain.Proofs.PlainPath
import RuleChain.Proofs.RunsInStep
import RuleChain.Proofs.ReachedEngine
import RuleChain.Proofs.NestingDepth
import RuleChain.Proofs.ChainText
import RuleChain.Proofs.PathRuleText
import RuleChain.Proofs.Interpolation
import RuleChain.Proofs.NestedFailure
import RuleChain.Proofs.NestedExpressions
import RuleChain.Proofs.NearestInteger
import RuleChain.Proofs.ShortNumeral
import RuleChain.Proofs.WholeNumerals
import RuleChain.Proofs.NumeralOptions
import RuleChain.Proofs.IntegerCast
import RuleChain.Proofs.IntegerBounds
import RuleChain.Proofs.ListAtPath
import RuleChain.Proofs.TrailingWildcard
import RuleChain.Proofs.WriteRemoval
import RuleChain.Proofs.ExpandCollision
import RuleChain.Proofs.FlatLeaves
import RuleChain.Proofs.PasswordCheck
import RuleChain.Proofs.Registrations
import RuleChain.Proofs.BatchFilter
import RuleChain.Proofs.CastChecks
import RuleChain.Proofs.EmailGrammar
import RuleChain.Proofs.OptionPhrase
